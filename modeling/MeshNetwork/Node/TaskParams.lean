import MeshNetwork.Node.Inbound

namespace MeshNetwork.Node

open Driver

/-- Every read task runs, or will run, with the slot of its client: what the shared parameter holds
is meant for each task that has still to read it. -/
structure ParamsInv (s : Inbound) : Prop where
  own : ∀ r ∈ s.readers, ∀ i ∈ r.index, i = r.slot
  waiting : ∀ r ∈ s.readers, r.pc = .starting → s.params = some r.slot
  ready : ∀ k i c, s.pc = .start k i c → s.params = some i

/-- A condition on the statements of acceptTask alone. -/
def OnAccept (P : AcceptEnv → Prop) : InboundAct → Prop
  | .acceptTask env => P env
  | _ => True

instance (P : AcceptEnv → Prop) [DecidablePred P] : (act : InboundAct) → Decidable (OnAccept P act)
  | .acceptTask env => inferInstanceAs (Decidable (P env))
  | .readTask .. => .isTrue trivial
  | .stop => .isTrue trivial
  | .closeAll => .isTrue trivial
  | .shutdown => .isTrue trivial

theorem OnAccept.mono {P Q : AcceptEnv → Prop} {act : InboundAct} (h : OnAccept P act)
    (hPQ : ∀ env, P env → Q env) : OnAccept Q act := by
  cases act with
  | acceptTask env => exact hPQ env h
  | _ => trivial

/-- What the statement of acceptTask that comes next leaves in the parameter. -/
def nextParams : AcceptPc → Option (Option (Fin maxClients))
  | .assign _ i _ => some (some i)
  | .finalClose => some none
  | _ => none

/-- acceptTask overwrites the parameter, or gives up its frame, only when no read task is still to
copy another index from there. -/
def ParamsKept (s : Inbound) : Prop :=
  ∀ p ∈ nextParams s.pc, ∀ r ∈ s.readers, r.pc = .starting → p = some r.slot

instance (s : Inbound) : Decidable (ParamsKept s) :=
  inferInstanceAs (Decidable (∀ p ∈ nextParams s.pc, _))

theorem paramsInv_init (deviceID : UInt32) (idProtocol : Bool) :
    ParamsInv { deviceID := deviceID, idProtocol := idProtocol } where
  own := by simp
  waiting := by simp
  ready _ _ _ hs := by cases hs

namespace ParamsInv

variable {s t : Inbound}

/-- Away from assign and start, only the tasks and the parameter count. -/
theorem of_same (h : ParamsInv s) (hr : t.readers = s.readers) (hp : t.params = s.params)
    (hpc : ∀ k i c, t.pc ≠ .start k i c) : ParamsInv t := by
  refine ⟨?_, ?_, ?_⟩
  · rw [hr]
    exact h.own
  · rw [hr, hp]
    exact h.waiting
  · intro k i c hs
    exact absurd hs (hpc k i c)

/-- One task goes on by itself. -/
theorem set (h : ParamsInv s) {n : Nat} {r' : Reader} (hr : t.readers = s.readers.set n r')
    (hp : t.params = s.params) (hpc : t.pc = s.pc) (hrun : r'.pc ≠ .starting)
    (hown : ∀ i ∈ r'.index, i = r'.slot) : ParamsInv t := by
  refine ⟨?_, ?_, ?_⟩
  · intro q hq
    rw [hr] at hq
    rcases List.mem_or_eq_of_mem_set hq with hq | rfl
    · exact h.own q hq
    · exact hown
  · intro q hq hstart
    rw [hr] at hq
    rw [hp]
    rcases List.mem_or_eq_of_mem_set hq with hq | rfl
    · exact h.waiting q hq hstart
    · exact absurd hstart hrun
  · rw [hp, hpc]
    exact h.ready

theorem acceptStep {env : AcceptEnv} (h : ParamsInv s) (hg : ParamsKept s)
    (hs : s.acceptStep env = some t) : ParamsInv t := by
  unfold ParamsKept at hg
  cases acceptStep_effect hs with
  | idle pc _ _ _ _ hto =>
    refine h.of_same rfl rfl ?_
    intro k i c hassign
    subst hassign
    cases hto.1
  | accepted i pc _ hpc =>
    refine h.of_same rfl rfl ?_
    intro k j c hassign
    subst hassign
    rcases hpc with hpc | hpc <;> cases hpc
  | assigned i c k hpc =>
    rw [hpc] at hg
    refine ⟨h.own, ?_, ?_⟩
    · intro r hr hstart
      exact hg (some i) rfl r hr hstart
    · intro k' i' c' hstart
      obtain ⟨-, rfl, -⟩ := AcceptPc.start.inj hstart
      rfl
  | started i c k hpc =>
    refine ⟨?_, ?_, by simp⟩
    · intro r hr
      rcases List.mem_append.mp hr with hr | hr
      · exact h.own r hr
      · obtain rfl := List.mem_singleton.mp hr
        simp
    · intro r hr hstart
      rcases List.mem_append.mp hr with hr | hr
      · exact h.waiting r hr hstart
      · obtain rfl := List.mem_singleton.mp hr
        exact h.ready k i c hpc
  | returned hpc =>
    rw [hpc] at hg
    refine ⟨h.own, ?_, by simp⟩
    intro r hr hstart
    cases hg none rfl r hr hstart
  | _ => exact h.of_same rfl rfl (by simp)

theorem readStep {env : ReadEnv} {n : Nat} (h : ParamsInv s) (hs : s.readStep env n = some t) :
    ParamsInv t := by
  cases readStep_effect hs with
  | copied r hr hstart =>
    have hmem := List.mem_of_getElem? hr
    refine h.set rfl rfl rfl (by simp) ?_
    intro i hi
    have hparams := h.waiting r hmem hstart
    rw [hparams] at hi
    exact (Option.some.inj hi).symm
  | moved r r' i hr hi _ hsame =>
    refine h.set rfl rfl rfl hsame.running.1 ?_
    rw [hsame.index, hsame.slot]
    exact h.own r (List.mem_of_getElem? hr)
  | disconnected r r' i hr hi _ _ hsame =>
    refine h.set rfl rfl rfl hsame.running.1 ?_
    rw [hsame.index, hsame.slot]
    exact h.own r (List.mem_of_getElem? hr)
  | closed r r' i hr hi _ hsame =>
    refine h.set rfl rfl rfl hsame.running.1 ?_
    rw [hsame.index, hsame.slot]
    exact h.own r (List.mem_of_getElem? hr)
  | finished r i hr hi _ =>
    refine h.set rfl rfl rfl (by simp) ?_
    exact h.own r (List.mem_of_getElem? hr)

theorem step {act : InboundAct} (h : ParamsInv s)
    (hg : OnAccept (fun _ => ParamsKept s) act) (hs : s.step act = some t) : ParamsInv t := by
  cases act with
  | acceptTask env => exact h.acceptStep hg hs
  | readTask n env => exact h.readStep hs
  | stop =>
    obtain rfl := Option.some.inj hs
    exact ⟨h.own, h.waiting, h.ready⟩
  | closeAll =>
    obtain rfl := Option.some.inj hs
    exact ⟨h.own, h.waiting, h.ready⟩
  | shutdown =>
    obtain rfl := Option.some.inj hs
    exact ⟨h.own, h.waiting, h.ready⟩

end ParamsInv

end MeshNetwork.Node
