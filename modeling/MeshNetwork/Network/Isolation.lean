import MeshNetwork.Network.Messages
import MeshNetwork.Node.Screening

namespace MeshNetwork.Network

open Driver Framing Node PacketCode

variable {ι : Type} [DecidableEq ι] {link : HubLink}

/-- The mask of node `a` refuses node `b`, and `b` does not get through the handshake on a slot that
a call has just looked at. -/
def Swarm.KeepsAway (IDs : ι → UInt32) (a b : ι) (s : Swarm ι link) : SwarmAct ι → Prop
  | .client a' act => a' = a → Node.KeepsAway (IDs b) (s.mesh.clients a).1 act
  | _ => True

/-- Node `a` has nothing for node `b`. -/
structure Apart (IDs : ι → UInt32) (a b : ι) (s : Swarm ι link) : Prop where
  inv : s.Inv IDs
  shuns : Shuns (IDs b) (s.mesh.clients a).1

section step

variable {addressToIp4 : List UInt8 → Bool} {node : List UInt8 → UInt16 → Option ι}
  {IDs : ι → UInt32} {a b : ι} {s t : Swarm ι link}

/-- A step of the sending half of a node. -/
theorem Apart.shunsClient (h : Apart IDs a b s) (hID : IDs b ≠ broadcastID) (hzero : IDs b ≠ 0)
    {a' : ι} {act : OutboundAct} {mesh : Mesh ι}
    (hkeeps : KeepsIDs (s.mesh.clients a').1 act)
    (haway : a' = a → Node.KeepsAway (IDs b) (s.mesh.clients a).1 act)
    (hs : s.mesh.step addressToIp4 node (.client a' act) = some mesh) :
    Shuns (IDs b) (mesh.clients a).1 := by
  obtain ⟨u, hu, -, hclients⟩ := Mesh.step_client hs
  rw [hclients]
  by_cases ha : a = a'
  · subst ha
    rw [Function.update_self]
    exact h.shuns.step hID hzero (h.inv.mesh.clients a).delivery (h.inv.protocol a) hkeeps
      (haway rfl) hu
  · rw [Function.update_of_ne ha]
    exact h.shuns

theorem Apart.step (h : Apart IDs a b s) (hplain : ∀ a, ¬[tagI, tagD] <:+: bigEndian (IDs a))
    (hID : IDs b ≠ broadcastID) (hzero : IDs b ≠ 0) {act : SwarmAct ι}
    (hg : Swarm.Keeps s act) (haway : s.KeepsAway IDs a b act)
    (hs : s.step addressToIp4 node act = some t) : Apart IDs a b t := by
  refine ⟨h.inv.step hplain hg hs, ?_⟩
  cases Swarm.step_effect addressToIp4 node hs with
  | portIn a' data cap k unset hgives hport =>
    obtain ⟨m, mesh, -, -, -, hmesh, rfl⟩ := Swarm.portIn_eq_some hport
    have hkeeps : KeepsIDs (s.mesh.clients a').1
        (.sendHandler k unset (.ofBytes (link.dispatch.bytes m))) := trivial
    have haway : a' = a → Node.KeepsAway (IDs b) (s.mesh.clients a).1
        (.sendHandler k unset (.ofBytes (link.dispatch.bytes m))) := fun _ => trivial
    exact h.shunsClient hID hzero hkeeps haway hmesh
  | setDestId a' port destId => exact h.shuns
  | client a' act mesh hact hmesh => exact h.shunsClient hID hzero hg.1 haway hmesh
  | server b' act caller memory mesh hmesh =>
    obtain ⟨-, -, hclients, -⟩ := Mesh.step_server hmesh
    show Shuns (IDs b) (mesh.clients a).1
    rw [hclients]
    exact h.shuns

/-- What has arrived at `b` has not come from `a`. -/
theorem Apart.not_from (h : Apart IDs a b t) {sent : End ι → List (Nat × link.Message)}
    (hsent : Sent t sent) {L : List (End ι × Nat × link.Message)} (hL : Arrives IDs t b sent L)
    {x : End ι × Nat × link.Message} (hx : x ∈ L) : x.1.1 ≠ a := by
  intro ha
  obtain ⟨⟨a', c⟩, n, m⟩ := x
  obtain rfl : a' = a := ha
  obtain ⟨d, hd⟩ := hL.wired _ hx
  obtain ⟨rest, hdispatched⟩ := hsent.dispatched (a', c)
  obtain ⟨slot, hslot⟩ :=
    hdispatched.recorded _ ((hL.order (a', c)).mem (mem_messagesOf.mpr hx))
  obtain ⟨w, hw, hhand⟩ := h.shuns.elsewhere slot c _ _ hslot (pack_ne_nil _)
  exact hw (h.inv.mesh.announced_server hd hhand)

end step

/-- Node `a` opens its connections before it sends anything, and its mask refuses node `b`. -/
def Swarm.OpensFirst (IDs : ι → UInt32) (a b : ι) (s : Swarm ι link) : SwarmAct ι → Prop
  | .client a' (.openTask _) => a' = a → (s.outboxes a).messages.length = 0
  | .client a' (.send k env) => a' = a → ∀ o ∈ ((s.mesh.clients a).1.calls k).next,
      MaskRefuses (IDs b) env (s.mesh.clients a).1.side o
  | _ => True

instance (IDs : ι → UInt32) (a b : ι) (s : Swarm ι link) :
    (act : SwarmAct ι) → Decidable (s.OpensFirst IDs a b act)
  | .client _ (.openTask _) => inferInstanceAs (Decidable (_ → _ = _))
  | .client _ (.send k env) => inferInstanceAs (Decidable (_ → ∀ o ∈
      ((s.mesh.clients a).1.calls k).next, MaskRefuses (IDs b) env (s.mesh.clients a).1.side o))
  | .client _ (.sendHandler _ _ _) => .isTrue trivial
  | .client _ .stop => .isTrue trivial
  | .client _ .closeAll => .isTrue trivial
  | .server _ _ _ _ => .isTrue trivial
  | .setNum _ _ _ _ _ => .isTrue trivial
  | .ping _ _ _ _ _ _ _ => .isTrue trivial
  | .setDestId _ _ _ => .isTrue trivial

/-- A node without a message has no call in progress. -/
def Swarm.NoneBegun (a : ι) (s : Swarm ι link) : Prop :=
  (s.outboxes a).messages.length = 0 → ∀ k, ((s.mesh.clients a).1.calls k).next = none

section opensFirst

variable {addressToIp4 : List UInt8 → Bool} {node : List UInt8 → UInt16 → Option ι}
  {IDs : ι → UInt32} {a b : ι} {s t : Swarm ι link}

/-- A call begins with a message, and no other step begins one. -/
theorem Swarm.NoneBegun.step (h : s.NoneBegun a) {act : SwarmAct ι}
    (hs : s.step addressToIp4 node act = some t) : t.NoneBegun a := by
  cases Swarm.step_effect addressToIp4 node hs with
  | portIn a' data cap k unset hgives hport =>
    obtain ⟨m, mesh, -, -, -, hmesh, rfl⟩ := Swarm.portIn_eq_some hport
    obtain ⟨u, -, -, hclients⟩ := Mesh.step_client hmesh
    intro hnone
    dsimp only at hnone ⊢
    by_cases ha : a = a'
    · subst ha
      rw [Function.update_self] at hnone
      simp [Outbox.post] at hnone
    · rw [Function.update_of_ne ha] at hnone
      rw [hclients, Function.update_of_ne ha]
      exact h hnone
  | setDestId a' port destId => exact h
  | client a' act mesh hact hmesh =>
    obtain ⟨u, hu, -, hclients⟩ := Mesh.step_client hmesh
    intro hnone k
    have hold := h hnone
    show ((mesh.clients a).1.calls k).next = none
    rw [hclients]
    by_cases ha : a = a'
    · subst ha
      rw [Function.update_self]
      cases Outbound.step_effect addressToIp4 hu with
      | openTask env hcalls => exact hcalls ▸ hold k
      | sendHandler k unset b => exact absurd rfl (hact k unset b)
      | send k' env o rest hk =>
        have hcall := hold k'
        rw [hk] at hcall
        cases hcall
      | stop hcalls => exact hcalls ▸ hold k
      | closeAll hcalls => exact hcalls ▸ hold k
    · rw [Function.update_of_ne ha]
      exact hold k
  | server b' act caller memory mesh hmesh =>
    obtain ⟨-, -, hclients, -⟩ := Mesh.step_server hmesh
    intro hnone
    show ∀ k, ((mesh.clients a).1.calls k).next = none
    rw [hclients]
    exact h hnone

omit [DecidableEq ι] in
theorem Swarm.NoneBegun.keepsAway (h : s.NoneBegun a) {act : SwarmAct ι}
    (hfirst : s.OpensFirst IDs a b act) : s.KeepsAway IDs a b act := by
  cases act with
  | client a' act =>
    intro ha
    cases act with
    | openTask env =>
      intro i _ _ _ k o ho
      rw [h (hfirst ha) k] at ho
      cases ho
    | send k env => exact hfirst ha
    | _ => trivial
  | _ => trivial

/-- Where all connections are opened first, none is exchanged under a call. -/
theorem keepsAway_of_opensFirst {acts : List (SwarmAct ι)} (hs : s.NoneBegun a)
    (h : AllSteps (Swarm.step addressToIp4 node) (Swarm.OpensFirst IDs a b) s acts) :
    AllSteps (Swarm.step addressToIp4 node) (Swarm.KeepsAway IDs a b) s acts :=
  allSteps_of_invariant (I := Swarm.NoneBegun a) (fun _ _ _ hi _ hs => hi.step hs)
    (fun _ _ hi hfirst => hi.keepsAway hfirst) hs h

end opensFirst

/-- The mask keeps nodes apart. In every run of a network whose nodes keep clear of the known
defects, nothing that node `a` sends, be it for one node or for all, arrives at a node `b` that the
mask of `a` refuses. -/
theorem mask_isolates (addressToIp4 : List UInt8 → Bool)
    (node : List UInt8 → UInt16 → Option ι) (link : HubLink) (IDs : ι → UInt32)
    (hplain : ∀ a, ¬[tagI, tagD] <:+: bigEndian (IDs a)) (adjM : ι → Nat → UInt8)
    (acts : List (SwarmAct ι)) (t : Swarm ι link)
    (hrun : run (Swarm.step addressToIp4 node) (.init link IDs adjM) acts = some t)
    (hkeeps : AllSteps (Swarm.step addressToIp4 node) Swarm.Keeps
      (.init link IDs adjM) acts) (a b : ι) (hID : IDs b ≠ broadcastID) (hzero : IDs b ≠ 0)
    (haway : AllSteps (Swarm.step addressToIp4 node) (Swarm.KeepsAway IDs a b)
      (.init link IDs adjM) acts) (hturns : link.code.TakeTurns (t.uplinks b)) :
    ∃ sent L, Sent t sent ∧ Arrives IDs t b sent L ∧ ∀ x ∈ L, x.1.1 ≠ a := by
  have hstart : Apart IDs a b (Swarm.init link IDs adjM) :=
    ⟨Swarm.inv_init link IDs adjM, shuns_init (IDs a) (adjM a) true⟩
  have h := run_invariant (I := Apart IDs a b)
    (fun _ _ _ hi hg hs => hi.step hplain hID hzero hg.1 hg.2 hs) hstart (hkeeps.and haway) hrun
  obtain ⟨sent, hsent⟩ := h.inv.exists_sent
  obtain ⟨L, hL⟩ := h.inv.exists_arrives hsent b hturns
  exact ⟨sent, L, hsent, hL, fun x hx => h.not_from hsent hL hx⟩

/-- The IDs of three nodes. -/
def hubIDs : Fin 3 → UInt32 := ![baseID, 0x20202021, 0x20202022]

/-- Node `a` connects to node 1, which starts a read task for it. -/
def joinHub (a : Fin 3) : List (SwarmAct (Fin 3)) :=
  ((connect 0x31 0x20202021).take 6).map (.client a) ++
    ((newClient (hubIDs a)).take 4).map (.server 1 · (a, 0) fun _ => 0) ++
    ((connect 0x31 0x20202021).drop 6).map (.client a) ++
    ((newClient (hubIDs a)).drop 4).map (.server 1 · (a, 0) fun _ => 0)

/-- Nodes 0 and 2 connect to node 1, and each sends a number to all. The first row of its mask
leaves out node 1 for node 0; node 2 has no mask file. Both read tasks of node 1 read. -/
def refusedActs : List (SwarmAct (Fin 3)) :=
  joinHub 0 ++ .server 1 (.readTask 0 {}) (0, 0) (fun _ => 0) :: joinHub 2 ++
    .setNum 0 42 100 0 .success :: List.replicate 15 (.client 0 (.send 0
      { mask := fun _ => { tokens := some [0x31 :: 0x30 :: List.replicate 8 0x31] } })) ++
    .setNum 2 7 100 0 .success :: List.replicate 16 (.client 2 (.send 0 {})) ++
    (reads 0 3 { status := .interruptedTryAgain, size := -1 }).map
      (.server 1 · (0, 0) fun _ => 0) ++
    (reads 1 5 { status := .success, bytes := fprimePack (.simple,
      idEntry 0x20202022 ++ idEntry broadcastID ++ bigEndian 7), size := 42 }).map
      (.server 1 · (2, 0) fun _ => 0)

def hubInit : Swarm (Fin 3) fprimeLink :=
  .init fprimeLink hubIDs fun _ => initAdjacencyMatrix fun _ => 0

def refusedEnd : Swarm (Fin 3) fprimeLink :=
  (run (Swarm.step (fun _ => true) fun _ _ => some 1) hubInit refusedActs).get
    (by decide +kernel)

theorem mask_isolates_refused : (refusedEnd.outboxes 0).messages.length = 1 ∧
    refusedEnd.received 1 = [.val1 7] ∧
    ∃ sent L, Sent refusedEnd sent ∧ Arrives hubIDs refusedEnd 1 sent L ∧ ∀ x ∈ L, x.1.1 ≠ 0 :=
  ⟨by decide +kernel, by decide +kernel, mask_isolates (fun _ => true) (fun _ _ => some 1)
    fprimeLink hubIDs (by decide) _ refusedActs refusedEnd
    (Option.some_get (by decide +kernel)).symm (by decide +kernel) 0 1 (by decide) (by decide)
    (keepsAway_of_opensFirst (fun _ _ => rfl) (by decide +kernel))
    (takeTurns_of_source 1 (by decide +kernel))⟩

end MeshNetwork.Network
