import MeshNetwork.Framework.Counting
import MeshNetwork.Node.TaskParams

namespace MeshNetwork.Node

open Driver

/-- The read tasks started for the client on slot `i` with connection `c`. -/
def tasksOf (s : Inbound) (i : Fin maxClients) (c : Conn) : Nat :=
  s.readers.countP fun r => r.slot = i ∧ r.conn = c

/-- The read tasks started for a client on slot `i` and not yet ended. -/
def liveAt (s : Inbound) (i : Fin maxClients) : Nat :=
  s.readers.countP fun r => r.live ∧ r.slot = i

/-- Every client that acceptTask has admitted, and is not just starting a task for, has one read
task; a task runs with the slot of its client; and no slot has two running tasks. -/
structure ReadByOne (s : Inbound) : Prop where
  one : ∀ i c, .admitted i c ∈ s.log → (∀ k, s.pc ≠ .assign k i c ∧ s.pc ≠ .start k i c) →
    tasksOf s i c = 1
  own : ∀ r ∈ s.readers, ∀ i ∈ r.index, i = r.slot
  apart : ∀ i, (s.readers.countP fun r => r.live ∧ r.index = some i) ≤ 1

/-- The slot of the client for which acceptTask searches an entry of the task pool. -/
def searchesFor : AcceptPc → Option (Fin maxClients)
  | .search i _ => some i
  | _ => none

/-- No read task that is still running was started for the slot. -/
def Unread (s : Inbound) (i : Fin maxClients) : Prop :=
  ∀ r ∈ s.readers, r.slot = i → r.live = false

instance (s : Inbound) (i : Fin maxClients) : Decidable (Unread s i) :=
  inferInstanceAs (Decidable (∀ r ∈ s.readers, _))

/-- acceptTask admits a client only after the read tasks of the earlier clients on its slot have
ended. -/
def SlotRested (s : Inbound) : Prop := ∀ i ∈ searchesFor s.pc, Unread s i

/-- The search for an entry of the task pool finds one. -/
def Served (s : Inbound) : Prop := (searchesFor s.pc).isSome = true → s.freeTask ≠ none

instance (s : Inbound) : Decidable (SlotRested s) :=
  inferInstanceAs (Decidable (∀ i ∈ searchesFor s.pc, _))

instance (s : Inbound) : Decidable (Served s) := inferInstanceAs (Decidable (_ → _))

/-- The condition on the steps under which the clients have one task each. -/
def TasksKept (s : Inbound) (act : InboundAct) : Prop :=
  OnAccept (fun _ => ParamsKept s ∧ SlotRested s ∧ Served s) act

instance (s : Inbound) (act : InboundAct) : Decidable (TasksKept s act) :=
  inferInstanceAs (Decidable (OnAccept _ act))

/-- The slot for which acceptTask is about to start a read task. -/
def startsFor : AcceptPc → Option (Fin maxClients)
  | .assign _ i _ => some i
  | .start _ i _ => some i
  | _ => none

/-- Where a read task is about to start, those started before for its slot have ended. -/
def Vacant (s : Inbound) : Prop := ∀ i ∈ startsFor s.pc, Unread s i

section vacant

variable {s t : Inbound}

/-- A read task is started for a client that has been admitted. -/
theorem AcceptEffect.starts {env : AcceptEnv} (h : AcceptEffect env s t) {i : Fin maxClients}
    (hi : startsFor t.pc = some i) :
    t.readers = s.readers ∧ (searchesFor s.pc = some i ∨ startsFor s.pc = some i) := by
  cases h with
  | idle pc _ _ _ _ hto =>
    cases pc with
    | assign | start => cases hto.1
    | _ => cases hi
  | accepted j pc _ hpc => rcases hpc with rfl | rfl <;> cases hi
  | served j e k _ _ h => exact ⟨rfl, .inl (by rw [h]; exact hi)⟩
  | assigned j e k h => exact ⟨rfl, .inr (by rw [h]; exact hi)⟩
  | _ => cases hi

theorem Vacant.acceptStep {env : AcceptEnv} (h : Vacant s) (hrest : SlotRested s)
    (he : AcceptEffect env s t) : Vacant t := by
  intro i hi r hr
  obtain ⟨hreaders, hfrom⟩ := he.starts hi
  rw [hreaders] at hr
  rcases hfrom with hfrom | hfrom
  · exact hrest i hfrom r hr
  · exact h i hfrom r hr

theorem Unread.readStep {env : ReadEnv} {n : Nat} {i : Fin maxClients} (h : Unread s i)
    (he : ReadEffect env s n t) : Unread t i := by
  intro r hr hslot
  obtain ⟨q, hq, hsame, -, hqlive⟩ := he.mem hr
  have hdead := h q hq (hsame.symm.trans hslot)
  by_contra hlive
  cases hdead.symm.trans (hqlive (eq_true_of_ne_false hlive))

theorem Vacant.readStep {env : ReadEnv} {n : Nat} (h : Vacant s) (he : ReadEffect env s n t) :
    Vacant t := by
  intro i hi
  rw [he.frame.1] at hi
  exact (h i hi).readStep he

end vacant

theorem liveAt_eq_zero {s : Inbound} {i : Fin maxClients} (h : Unread s i) : liveAt s i = 0 := by
  refine List.countP_eq_zero.mpr fun r hr => ?_
  simp only [decide_eq_true_eq, not_and]
  intro hlive hslot
  rw [h r hr hslot] at hlive
  cases hlive

/-- Nothing changes in the tasks started for a client while one of them goes on. -/
theorem tasksOf_readStep {env : ReadEnv} {s t : Inbound} {n : Nat} (h : ReadEffect env s n t)
    (i : Fin maxClients) (c : Conn) : tasksOf t i c = tasksOf s i c := by
  obtain ⟨r, r', hr, hreaders, -, hslot, hconn⟩ := h.readers
  unfold tasksOf
  rw [hreaders]
  exact countP_set_same hr (by simp [hslot, hconn])

theorem liveAt_readStep {env : ReadEnv} {s t : Inbound} {n : Nat} (h : ReadEffect env s n t)
    (i : Fin maxClients) : liveAt t i ≤ liveAt s i := by
  obtain ⟨r, r', hr, hreaders, hlive, hslot, -⟩ := h.readers
  unfold liveAt
  rw [hreaders]
  refine countP_set_le hr ?_
  simp [hslot, hlive]

/-- A new task counts for its client. -/
theorem tasksOf_append {s t : Inbound} {r : Reader} (h : t.readers = s.readers ++ [r])
    (i : Fin maxClients) (c : Conn) :
    tasksOf t i c = tasksOf s i c + if r.slot = i ∧ r.conn = c then 1 else 0 := by
  simp [tasksOf, h, List.countP_append, List.countP_singleton]

/-- And, as long as it runs, for its slot. -/
theorem liveAt_append {s t : Inbound} {r : Reader} (h : t.readers = s.readers ++ [r])
    (hr : r.live = true) (i : Fin maxClients) :
    liveAt t i = liveAt s i + if r.slot = i then 1 else 0 := by
  simp [liveAt, h, hr, List.countP_append, List.countP_singleton]

/-- No task has been started for a connection that is still to come. -/
theorem tasksOf_unborn {s : Inbound} {c : Conn} (h : ∀ r ∈ s.readers, r.conn < c)
    (i : Fin maxClients) : tasksOf s i c = 0 := by
  refine List.countP_eq_zero.mpr fun r hr => ?_
  have hlt := h r hr
  simp only [decide_eq_true_eq, not_and]
  intro _ hconn
  exact absurd hconn (Nat.ne_of_lt hlt)

/-- Connections are numbered in the order of their accepts, and each client is on its way to one
read task or has it. -/
structure TasksInv (s : Inbound) : Prop where
  numbered : ∀ r ∈ s.readers, r.conn < s.nextConn
  held : ∀ i c, heldClient s.pc = some (i, c) → c < s.nextConn ∧ tasksOf s i c = 0
  vacant : Vacant s
  one : ∀ i c, .admitted i c ∈ s.log → (∀ k, s.pc ≠ .assign k i c ∧ s.pc ≠ .start k i c) →
    tasksOf s i c = 1
  apart : ∀ i, liveAt s i ≤ 1

theorem tasksInv_init (deviceID : UInt32) (idProtocol : Bool) :
    TasksInv { deviceID := deviceID, idProtocol := idProtocol } where
  numbered := by simp
  held _ _ hx := by cases hx
  vacant _ hi := by cases hi
  one := by simp
  apart := by simp [liveAt]

namespace TasksInv

variable {s t : Inbound}

/-- Before the search nothing is admitted, and the client that is held stays the same one. -/
theorem of_same (h : TasksInv s) (hr : t.readers = s.readers) (hc : t.nextConn = s.nextConn)
    (hlog : ∀ i c, .admitted i c ∈ t.log → .admitted i c ∈ s.log)
    (hheld : ∀ x, heldClient t.pc = some x → heldClient s.pc = some x)
    (hpc : ∀ k i c, s.pc ≠ .assign k i c ∧ s.pc ≠ .start k i c) (hvacant : Vacant t) :
    TasksInv t := by
  refine ⟨?_, ?_, hvacant, ?_, ?_⟩
  · rw [hr, hc]
    exact h.numbered
  · intro i c hx
    rw [tasksOf, hr, hc]
    exact h.held i c (hheld _ hx)
  · intro i c hadm _
    rw [tasksOf, hr]
    exact h.one i c (hlog i c hadm) fun k => hpc k i c
  · intro i
    rw [liveAt, hr]
    exact h.apart i

theorem acceptStep {env : AcceptEnv} (h : TasksInv s) (hrest : SlotRested s)
    (hserved : Served s) (hs : s.acceptStep env = some t) : TasksInv t := by
  have hvacant := h.vacant.acceptStep hrest (acceptStep_effect hs)
  cases acceptStep_effect hs with
  | idle pc _ _ _ hfrom hto =>
    refine h.of_same rfl rfl (fun _ _ hadm => hadm) ?_ ?_ hvacant
    · intro x hx
      cases hto.1.symm.trans hx
    · intro k i c
      constructor <;> intro hpc
      · cases hpc ▸ hfrom.1
      · cases hpc ▸ hfrom.1
  | accepted i pc htake hpc =>
    have hheld : heldClient pc = some (i, s.nextConn) := by rcases hpc with rfl | rfl <;> rfl
    refine ⟨?_, ?_, hvacant, ?_, h.apart⟩
    · intro r hr
      exact Nat.lt_succ_of_lt (h.numbered r hr)
    · intro j c hx
      obtain ⟨rfl, rfl⟩ := Prod.mk.inj (Option.some.inj (hheld.symm.trans hx))
      exact ⟨Nat.lt_succ_self _, tasksOf_unborn h.numbered i⟩
    · intro j c hadm _
      exact h.one j c hadm fun k => by simp [htake.1]
  | idReceived i c d hpc =>
    refine h.of_same rfl rfl ?_ (hpc ▸ fun _ hx => hx) (by simp [hpc]) hvacant
    intro j e hadm
    exact (List.mem_cons.mp hadm).resolve_left (by simp)
  | unserved i c hpc hk => exact absurd hk (hserved (by rw [hpc]; rfl))
  | served i c k _ _ hpc =>
    have hheld := h.held i c (by rw [hpc]; rfl)
    refine ⟨h.numbered, ?_, hvacant, ?_, h.apart⟩
    · intro j d hx
      obtain ⟨rfl, rfl⟩ := Prod.mk.inj (Option.some.inj hx)
      exact hheld
    · intro j d hadm hnot
      rcases List.mem_cons.mp hadm with heq | hadm
      · obtain ⟨rfl, rfl⟩ := ServerEvent.admitted.inj heq
        exact absurd rfl (hnot k).1
      · exact h.one j d hadm fun k' => by simp [hpc]
  | assigned i c k hpc =>
    refine ⟨h.numbered, ?_, hvacant, ?_, h.apart⟩
    · intro j d hx
      exact h.held j d (by rw [hpc]; exact hx)
    · intro j d hadm hnot
      refine h.one j d hadm fun k' => ⟨?_, by simp [hpc]⟩
      intro heq
      rw [hpc] at heq
      obtain ⟨rfl, rfl, rfl⟩ := AcceptPc.assign.inj heq
      exact (hnot k).2 rfl
  | started i c k hpc =>
    obtain ⟨hlt, hnone⟩ := h.held i c (by rw [hpc]; rfl)
    have hrested : liveAt s i = 0 := liveAt_eq_zero (h.vacant i (by rw [hpc]; rfl))
    refine ⟨?_, by simp [heldClient], hvacant, ?_, ?_⟩
    · intro r hr
      rcases List.mem_append.mp hr with hr | hr
      · exact h.numbered r hr
      · obtain rfl := List.mem_singleton.mp hr
        exact hlt
    · intro j d hadm _
      rw [tasksOf_append rfl]
      by_cases heq : i = j ∧ c = d
      · rw [if_pos heq, ← heq.1, ← heq.2, hnone]
      · rw [if_neg heq]
        refine h.one j d hadm fun k' => ⟨by simp [hpc], ?_⟩
        rw [hpc]
        intro hstart
        obtain ⟨-, rfl, rfl⟩ := AcceptPc.start.inj hstart
        exact heq ⟨rfl, rfl⟩
    · intro j
      rw [liveAt_append rfl rfl]
      have hle := h.apart j
      split_ifs with heq
      · rw [← heq, hrested]
      · exact hle
  | idSent i c hpc =>
    exact h.of_same rfl rfl (fun _ _ hadm => hadm) (hpc ▸ fun _ hx => hx)
      (by simp [hpc]) hvacant
  | returned hpc | refused i hpc | idNotReceived i c hpc | idNotSent i c hpc =>
    exact h.of_same rfl rfl (fun _ _ hadm => hadm) (by simp [heldClient])
      (by simp [hpc]) hvacant

theorem readStep {env : ReadEnv} {n : Nat} (h : TasksInv s) (hs : s.readStep env n = some t) :
    TasksInv t := by
  have he := readStep_effect hs
  obtain ⟨r, r', hr, hreaders, -, -, hconn⟩ := he.readers
  obtain ⟨hpc, hnext, hlog⟩ := he.frame
  refine ⟨?_, ?_, h.vacant.readStep he, ?_, ?_⟩
  · intro q hq
    rw [hreaders] at hq
    rw [hnext]
    rcases List.mem_or_eq_of_mem_set hq with hq | rfl
    · exact h.numbered q hq
    · rw [hconn]
      exact h.numbered r (List.mem_of_getElem? hr)
  · intro i c hx
    rw [hpc] at hx
    rw [hnext, tasksOf_readStep he]
    exact h.held i c hx
  · intro i c hadm hnot
    rw [hlog] at hadm
    rw [hpc] at hnot
    rw [tasksOf_readStep he]
    exact h.one i c hadm hnot
  · intro i
    exact (liveAt_readStep he i).trans (h.apart i)

theorem step {act : InboundAct} (h : TasksInv s) (hg : TasksKept s act) (hs : s.step act = some t) :
    TasksInv t := by
  cases act with
  | acceptTask env => exact h.acceptStep hg.2.1 hg.2.2 hs
  | readTask n env => exact h.readStep hs
  | stop =>
    obtain rfl := Option.some.inj hs
    exact ⟨h.numbered, h.held, h.vacant, h.one, h.apart⟩
  | closeAll =>
    obtain rfl := Option.some.inj hs
    exact ⟨h.numbered, h.held, h.vacant, h.one, h.apart⟩
  | shutdown =>
    obtain rfl := Option.some.inj hs
    exact ⟨h.numbered, h.held, h.vacant, h.one, h.apart⟩

/-- Together with the parameter kept, the counts say how the clients are read. -/
theorem readByOne (h : TasksInv s) (hparams : ParamsInv s) : ReadByOne s := by
  refine ⟨h.one, hparams.own, ?_⟩
  intro i
  refine le_trans (List.countP_mono_left ?_) (h.apart i)
  intro r hr
  simp only [decide_eq_true_eq]
  intro hrun
  obtain ⟨hlive, hindex⟩ := hrun
  exact ⟨hlive, (hparams.own r hr i hindex).symm⟩

end TasksInv

/-- Every admitted client is read by one task, its own, in every run of acceptTask and the read
tasks that keeps the parameter, rests the slots and finds a free entry of the task pool. -/
theorem one_read_task (deviceID : UInt32) (idProtocol : Bool) (acts : List InboundAct)
    (t : Inbound)
    (hrun : run Inbound.step { deviceID := deviceID, idProtocol := idProtocol } acts = some t)
    (hkept : AllSteps Inbound.step TasksKept
      { deviceID := deviceID, idProtocol := idProtocol } acts) : ReadByOne t := by
  have hinv := run_invariant (I := fun s => ParamsInv s ∧ TasksInv s) ?_
    ⟨paramsInv_init deviceID idProtocol, tasksInv_init deviceID idProtocol⟩ hkept hrun
  · exact hinv.2.readByOne hinv.1
  · intro s act u hinv hg hs
    obtain ⟨hparams, htasks⟩ := hinv
    have hkept : OnAccept (fun _ => ParamsKept s) act := hg.mono fun _ h => h.1
    exact ⟨hparams.step hkept hs, htasks.step hg hs⟩

/-- Two clients in turn, with the first task at work before the second client comes. -/
theorem one_read_task_two : ReadByOne ((run Inbound.step { deviceID := baseID }
    (newClient 0x20202021 ++ reads 0 4 { status := .success } ++ newClient 0x20202022 ++
      reads 1 4 { status := .success })).get (by rfl)) :=
  one_read_task baseID true _ _ (Option.some_get _).symm (by decide)

/-- The second client is accepted before the first task has run: the first task, too, runs with the
second slot. -/
theorem one_read_task_fails : ¬∀ (deviceID : UInt32) (idProtocol : Bool) (acts : List InboundAct)
    (t : Inbound),
    run Inbound.step { deviceID := deviceID, idProtocol := idProtocol } acts = some t →
    ReadByOne t := fun h =>
  absurd (h baseID true (newClient 0x20202021 ++ (newClient 0x20202022).take 6 ++
    reads 0 1 { status := .success }) _ (Option.some_get (by rfl)).symm).own (by decide)

end MeshNetwork.Node
