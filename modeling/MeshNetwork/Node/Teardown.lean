import MeshNetwork.Node.Deployment

namespace MeshNetwork.Node

open Driver

/-- A node with everything set up, or without a hostfile, or with nothing. -/
inductive Start : Deployment → Prop
  | configured (deviceID : UInt32) (adjM : Nat → UInt8) (idProtocol : Bool)
      (content : List UInt8) (baseFd : Int) :
      Start (.configured deviceID adjM idProtocol content baseFd)
  | withoutFile (deviceID : UInt32) (adjM : Nat → UInt8) (idProtocol : Bool) (baseFd : Int) :
      Start { Deployment.configured deviceID adjM idProtocol [] baseFd with fp := .null }
  | unconfigured (deviceID : UInt32) (adjM : Nat → UInt8) : Start (.unconfigured deviceID adjM)

/-- The statement uses nothing that has been released: an open file is closed, a file that is not
closed is read, and FD_SET gets a descriptor. -/
def Safe (s : Deployment) : DeploymentAct → Prop
  | .teardown => s.teardown = .closeFile → s.fp.isOpened = true
  | .openTask _ => s.outbound.opener.pc = .entry → s.fp.isClosed = false
  | .acceptTask _ => s.fdSet = true → s.inbound.manager.baseFd ≠ -1
  | _ => True

/-- A task stands before the use of something that has been released. -/
def Doomed (s : Deployment) : Prop :=
  s.outbound.opener.pc = .entry ∧ s.fp.isClosed = true ∨
    s.fdSet = true ∧ s.inbound.manager.baseFd = -1

/-- shutdown finds the hostfile open, openTask outside getHostFileEntry and acceptTask not before
its FD_SET; openTask does not begin an iteration between the close of the file and its stop, and no
select without the listener times out. -/
def TeardownKept (s : Deployment) : DeploymentAct → Prop
  | .teardown =>
    (s.teardown = .closeFile → s.fp.isOpened = true ∧ s.outbound.opener.pc ≠ .entry) ∧
      (s.teardown = .shutdownManager → s.fdSet = false)
  | .openTask _ =>
    s.outbound.opener.pc = .loop → s.fp.isClosed = true → s.outbound.opener.stop = true
  | .acceptTask env =>
    s.inbound.pc = .openClient → s.fdSet = false → env.activity = false →
      s.inbound.manager.baseFd ≠ -1
  | _ => True

instance (s : Deployment) : (act : DeploymentAct) → Decidable (TeardownKept s act)
  | .teardown => inferInstanceAs (Decidable (_ ∧ _))
  | .openTask _ => inferInstanceAs (Decidable (_ → _))
  | .acceptTask _ => inferInstanceAs (Decidable (_ → _))
  | .readTask _ _ => .isTrue trivial
  | .sendHandler _ _ _ => .isTrue trivial
  | .send _ _ => .isTrue trivial

/-- openTask comes to the hostfile from its loop condition, when it has not been stopped. -/
theorem openStep_entry {addressToIp4 : List UInt8 → Bool} {env : OpenEnv} {o o' : Opener}
    {p p' : ClientSide} (h : openStep addressToIp4 env o p = some (o', p')) :
    o'.pc = .entry ↔ o.pc = .loop ∧ o.stop = false := by
  by_cases hloop : o.pc = .loop
  · simp only [openStep, hloop] at h
    obtain ⟨rfl, -⟩ := Prod.mk.inj (Option.some.inj h)
    cases o.stop with
    | false => exact iff_of_true rfl ⟨hloop, rfl⟩
    | true =>
      refine iff_of_false (by simp) ?_
      intro hboth
      obtain ⟨-, hstop⟩ := hboth
      cases hstop
  · refine iff_of_false ?_ fun he => hloop he.1
    intro hentry
    cases openStep_effect addressToIp4 h with
    | entry _ _ _ _ hpc => rcases hpc with rfl | rfl <;> cases hentry
    | again _ hpc => exact hloop hpc
    | _ => cases hentry

/-- The listening descriptor is not in the hands of the read tasks. -/
theorem readStep_baseFd {env : ReadEnv} {s t : Inbound} {n : Nat} (h : ReadEffect env s n t) :
    t.manager.baseFd = s.manager.baseFd := by
  cases h <;> rfl

section step

variable {addressToIp4 : List UInt8 → Bool} {s t : Deployment}

theorem outbound_openTask {env : OpenEnv} {u v : Outbound}
    (h : u.step addressToIp4 (.openTask env) = some v) :
    v.opener.pc = .entry ↔ u.opener.pc = .loop ∧ u.opener.stop = false := by
  obtain ⟨⟨o, p⟩, he, rfl⟩ := Option.map_eq_some_iff.mp h
  exact openStep_entry he

theorem outbound_opener {u v : Outbound} {act : OutboundAct}
    (hact : (∃ k env, act = .send k env) ∨ ∃ k unset b, act = .sendHandler k unset b)
    (h : u.step addressToIp4 act = some v) : v.opener = u.opener := by
  cases Outbound.step_effect addressToIp4 h with
  | sendHandler _ _ _ _ ho => exact ho
  | send _ _ _ _ _ _ ho => exact ho
  | _ => simp at hact

/-- A task comes to stand before a released resource by the steps that break the condition, and by
no others; only an unsafe statement gets it away from there. -/
theorem doomed_step {act : DeploymentAct} (hsafe : Safe s act)
    (hs : s.step addressToIp4 act = some t) : Doomed t ↔ Doomed s ∨ ¬TeardownKept s act := by
  cases Deployment.step_effect addressToIp4 hs with
  | fdSet env u hfd hu =>
    have hbase : s.inbound.manager.baseFd ≠ -1 := hsafe hfd
    simp [Doomed, TeardownKept, hfd, hbase]
  | timedOut env hfd hpc ha => simp [Doomed, TeardownKept, hfd, hpc, ha]
  | acceptTask env u hfd ha hu =>
    have hkept : TeardownKept s (.acceptTask env) := by
      intro hpc _ hact
      rw [ha hpc] at hact
      cases hact
    simp [Doomed, hfd, hkept]
  | readTask n env u hu =>
    have hbase := readStep_baseFd (readStep_effect hu)
    simp [Doomed, TeardownKept, hbase]
  | access env fp phase hpc hfp =>
    have hclosed : s.fp.isClosed = false := hsafe hpc
    simp [Doomed, TeardownKept, hpc, hfp, hclosed]
  | entry env line fp u hpc hfp hu =>
    have hclosed : s.fp.isClosed = false := hsafe hpc
    simp [Doomed, TeardownKept, hpc, hfp, hclosed]
  | openTask env u hpc hu =>
    have hentry := outbound_openTask hu
    cases hstop : s.outbound.opener.stop with
    | false =>
      simp [Doomed, TeardownKept, hentry, hpc, hstop, or_comm]
    | true => simp [Doomed, TeardownKept, hentry, hpc, hstop]
  | sendHandler k unset b u hu =>
    have ho := outbound_opener (.inr ⟨k, unset, b, rfl⟩) hu
    simp [Doomed, TeardownKept, ho]
  | send k env u hu =>
    have ho := outbound_opener (.inl ⟨k, env, rfl⟩) hu
    simp [Doomed, TeardownKept, ho]
  | closeFile fp hpc hfp =>
    obtain ⟨hopened, hnot, hclosed⟩ := FilePtr.fclose_eq_some hfp
    simp [Doomed, TeardownKept, hpc, hopened, hclosed, hnot, or_comm]
  | shutdownManager hpc =>
    have hbase : s.inbound.manager.shutdown.baseFd = -1 := rfl
    cases hfd : s.fdSet with
    | false => simp [Doomed, TeardownKept, hpc, hfd]
    | true => simp [Doomed, TeardownKept, hpc, hfd, hbase]
  | stopAccept hpc => simp [Doomed, TeardownKept, hpc]
  | closeServers hpc =>
    have hbase : s.inbound.manager.closeAll.baseFd = s.inbound.manager.baseFd := rfl
    simp [Doomed, TeardownKept, hpc, hbase]
  | stopOpen hpc => simp [Doomed, TeardownKept, hpc]
  | closeClients next hpc => rcases hpc with hpc | hpc <;> simp [Doomed, TeardownKept, hpc]
  | joined next hpc => rcases hpc with hpc | hpc <;> simp [Doomed, TeardownKept, hpc]

theorem safe_of_kept {act : DeploymentAct} (h : ¬Doomed s) (hkept : TeardownKept s act) :
    Safe s act := by
  obtain ⟨hfile, hfd⟩ := not_or.mp h
  cases act with
  | teardown => exact fun hpc => (hkept.1 hpc).1
  | openTask env => exact fun hpc => eq_false_of_ne_true fun hclosed => hfile ⟨hpc, hclosed⟩
  | acceptTask env => exact fun hset hbase => hfd ⟨hset, hbase⟩
  | _ => trivial

end step

theorem not_doomed_start {s : Deployment} (h : Start s) : ¬Doomed s := by
  cases h with
  | configured => simp [Doomed, Deployment.configured, FilePtr.isClosed]
  | withoutFile => simp [Doomed, Deployment.configured, FilePtr.isClosed]
  | unconfigured => simp [Doomed, Deployment.unconfigured, FilePtr.isClosed]

theorem not_doomed_step {addressToIp4 : List UInt8 → Bool} (s : Deployment) (act : DeploymentAct)
    (t : Deployment) (hd : ¬Doomed s) (hk : TeardownKept s act)
    (hs : s.step addressToIp4 act = some t) : ¬Doomed t := by
  rw [doomed_step (safe_of_kept hd hk) hs]
  intro hor
  rcases hor with hd' | hk'
  · exact hd hd'
  · exact hk' hk

theorem allSteps_safe {addressToIp4 : List UInt8 → Bool} {s : Deployment} (hstart : Start s)
    {acts : List DeploymentAct}
    (hkept : AllSteps (Deployment.step addressToIp4) TeardownKept s acts) :
    AllSteps (Deployment.step addressToIp4) Safe s acts :=
  allSteps_of_invariant not_doomed_step (fun _ _ => safe_of_kept) (not_doomed_start hstart) hkept

/-- Teardown. No statement uses anything released in a run whose steps keep the condition, also in
one that the program does not survive; and nothing released is used, nor about to be used by a task,
in exactly the completed runs whose steps keep it. -/
theorem teardown_safe (addressToIp4 : List UInt8 → Bool) (s : Deployment) (hstart : Start s)
    (acts : List DeploymentAct) :
    (AllSteps (Deployment.step addressToIp4) TeardownKept s acts →
        AllSteps (Deployment.step addressToIp4) Safe s acts) ∧
      ∀ t, run (Deployment.step addressToIp4) s acts = some t →
        (AllSteps (Deployment.step addressToIp4) Safe s acts ∧ ¬Doomed t ↔
          AllSteps (Deployment.step addressToIp4) TeardownKept s acts) := by
  refine ⟨allSteps_safe hstart, ?_⟩
  intro t hrun
  constructor
  · intro h
    have hor := allSteps_or_stays (I := fun _ => True) (P := TeardownKept) (L := Doomed)
      (fun _ _ _ _ _ _ => trivial)
      (fun _ _ _ _ hg hno hs => (doomed_step hg hs).mpr (.inr hno))
      (fun _ _ _ _ hg hd hs => (doomed_step hg hs).mpr (.inl hd)) trivial h.1 hrun
    exact hor.resolve_right h.2
  · intro hkept
    exact ⟨allSteps_safe hstart hkept,
      run_invariant not_doomed_step (not_doomed_start hstart) hkept hrun⟩

/-- A node without peers: openTask has an entry in hand and acceptTask stands at its loop condition
when the teardown begins, and both come to their end before the joins. -/
def orderly : List DeploymentAct :=
  .openTask {} :: List.replicate 3 (.acceptTask { activity := false }) ++
    List.replicate 7 .teardown ++ List.replicate 18 (.acceptTask {}) ++
    List.replicate 7 (.openTask { connected := .failedToConnect }) ++ List.replicate 2 .teardown

def onePeer : Deployment :=
  .configured baseID (initAdjacencyMatrix fun _ => 0) true
    [0x31, 0x30, 0x2E, 0x30, 0x2E, 0x30, 0x2E, 0x31, 0x3A, 0x38, 0x30] 3

theorem teardown_safe_orderly :
    AllSteps (Deployment.step fun _ => true) Safe onePeer orderly ∧
      ¬Doomed ((run (Deployment.step fun _ => true) onePeer orderly).get (by decide +kernel)) :=
  ((teardown_safe (fun _ => true) onePeer (.configured baseID _ true _ 3) orderly).2 _
    (Option.some_get (by decide +kernel)).symm).mpr (by decide +kernel)

/-- shutdown closes the hostfile while openTask is about to read it. -/
theorem teardown_safe_fails : ¬∀ (addressToIp4 : List UInt8 → Bool) (s : Deployment), Start s →
    ∀ acts, AllSteps (Deployment.step addressToIp4) Safe s acts := by
  intro h
  have hsafe := h (fun _ => true) onePeer (.configured baseID _ true _ 3) [.teardown, .openTask {}]
  exact absurd ((hsafe.2 _ rfl).1 rfl) (by decide)

end MeshNetwork.Node
