import MeshNetwork.Framework.Runs

namespace MeshNetwork

/-- A program that calls the operations of an interface one at a time. -/
inductive Prog (Op : Type) (Ans : Op → Type) (α : Type) where
  | pure (a : α)
  | call (op : Op) (k : Ans op → Prog Op Ans α)

namespace Prog

variable {Op : Type} {Ans : Op → Type} {α β σ : Type}

protected def bind : Prog Op Ans α → (α → Prog Op Ans β) → Prog Op Ans β
  | .pure a, f => f a
  | .call op k, f => .call op fun x => (k x).bind f

instance : Monad (Prog Op Ans) where
  pure := .pure
  bind := .bind

/-- One operation as a program. -/
def op (o : Op) : Prog Op Ans (Ans o) := .call o .pure

@[simp] theorem pure_bind (a : α) (f : α → Prog Op Ans β) :
    (Pure.pure a : Prog Op Ans α) >>= f = f a := rfl
@[simp] theorem call_bind (o : Op) (k : Ans o → Prog Op Ans α) (f : α → Prog Op Ans β) :
    Prog.call o k >>= f = .call o fun x => k x >>= f := rfl
@[simp] theorem op_bind (o : Op) (f : Ans o → Prog Op Ans β) :
    (op o : Prog Op Ans (Ans o)) >>= f = .call o f := rfl

section exec

variable (perform : (o : Op) → σ → Ans o × σ)

/-- Run the program by itself: nothing happens between its operations. -/
def exec : Prog Op Ans α → σ → α × σ
  | .pure a, s => (a, s)
  | .call o k, s => exec (k (perform o s).1) (perform o s).2

@[simp] theorem exec_pure (a : α) (s : σ) :
    (Pure.pure a : Prog Op Ans α).exec perform s = (a, s) := rfl
@[simp] theorem exec_call (o : Op) (k : Ans o → Prog Op Ans α) (s : σ) :
    (Prog.call o k).exec perform s = (k (perform o s).1).exec perform (perform o s).2 := rfl

theorem exec_bind (p : Prog Op Ans α) (f : α → Prog Op Ans β) (s : σ) :
    (p >>= f).exec perform s = (f (p.exec perform s).1).exec perform (p.exec perform s).2 := by
  induction p generalizing s with
  | pure a => rfl
  | call o k ih => exact ih (perform o s).1 (perform o s).2

/-- Perform the next operation only; a finished program has none. -/
def step : Prog Op Ans α → σ → Option (Prog Op Ans α × σ)
  | .pure _, _ => none
  | .call o k, s => some (k (perform o s).1, (perform o s).2)

end exec

/-- The operation that a program calls next. -/
def next : Prog Op Ans α → Option Op
  | .pure _ => none
  | .call o _ => some o

/-- The operations that an execution calls, in order. -/
def trace (perform : (o : Op) → σ → Ans o × σ) : Prog Op Ans α → σ → List Op
  | .pure _, _ => []
  | .call o k, s => o :: (k (perform o s).1).trace perform (perform o s).2

@[simp] theorem trace_pure (perform : (o : Op) → σ → Ans o × σ) (a : α) (s : σ) :
    (Pure.pure a : Prog Op Ans α).trace perform s = [] := rfl
@[simp] theorem trace_call (perform : (o : Op) → σ → Ans o × σ) (o : Op)
    (k : Ans o → Prog Op Ans α) (s : σ) : (Prog.call o k).trace perform s =
      o :: (k (perform o s).1).trace perform (perform o s).2 := rfl

theorem trace_bind (perform : (o : Op) → σ → Ans o × σ) (p : Prog Op Ans α)
    (f : α → Prog Op Ans β) (s : σ) : (p >>= f).trace perform s =
      p.trace perform s ++
        (f (p.exec perform s).1).trace perform (p.exec perform s).2 := by
  induction p generalizing s with
  | pure a => rfl
  | call o k ih => exact congrArg (o :: ·) (ih (perform o s).1 (perform o s).2)

/-- The operations that an execution calls, each with its answer, in order. -/
def transcript (perform : (o : Op) → σ → Ans o × σ) : Prog Op Ans α → σ → List ((o : Op) × Ans o)
  | .pure _, _ => []
  | .call o k, s =>
    ⟨o, (perform o s).1⟩ :: (k (perform o s).1).transcript perform (perform o s).2

@[simp] theorem transcript_pure (perform : (o : Op) → σ → Ans o × σ) (a : α) (s : σ) :
    (Pure.pure a : Prog Op Ans α).transcript perform s = [] := rfl
@[simp] theorem transcript_call (perform : (o : Op) → σ → Ans o × σ) (o : Op)
    (k : Ans o → Prog Op Ans α) (s : σ) : (Prog.call o k).transcript perform s =
      ⟨o, (perform o s).1⟩ :: (k (perform o s).1).transcript perform (perform o s).2 := rfl

theorem transcript_bind (perform : (o : Op) → σ → Ans o × σ) (p : Prog Op Ans α)
    (f : α → Prog Op Ans β) (s : σ) : (p >>= f).transcript perform s =
      p.transcript perform s ++
        (f (p.exec perform s).1).transcript perform (p.exec perform s).2 := by
  induction p generalizing s with
  | pure a => rfl
  | call o k ih => exact congrArg (_ :: ·) (ih (perform o s).1 (perform o s).2)

theorem transcript_fst (perform : (o : Op) → σ → Ans o × σ) (p : Prog Op Ans α) (s : σ) :
    (p.transcript perform s).map Sigma.fst = p.trace perform s := by
  induction p generalizing s with
  | pure a => rfl
  | call o k ih => exact congrArg (o :: ·) (ih (perform o s).1 (perform o s).2)

/-- The operations that an execution calls, each with the state that it meets, in order. -/
def visits (perform : (o : Op) → σ → Ans o × σ) : Prog Op Ans α → σ → List (Op × σ)
  | .pure _, _ => []
  | .call o k, s => (o, s) :: (k (perform o s).1).visits perform (perform o s).2

theorem visits_fst (perform : (o : Op) → σ → Ans o × σ) (p : Prog Op Ans α) (s : σ) :
    (p.visits perform s).map Prod.fst = p.trace perform s := by
  induction p generalizing s with
  | pure a => rfl
  | call o k ih => exact congrArg (o :: ·) (ih (perform o s).1 (perform o s).2)

/-- An operation is called if and only if it meets some state. -/
theorem mem_trace_iff {perform : (o : Op) → σ → Ans o × σ} {p : Prog Op Ans α} {s : σ} {o : Op} :
    o ∈ p.trace perform s ↔ ∃ t, (o, t) ∈ p.visits perform s := by
  rw [← visits_fst, List.mem_map]
  constructor
  · intro h
    obtain ⟨⟨o', t⟩, ht, rfl⟩ := h
    exact ⟨t, ht⟩
  · intro h
    obtain ⟨t, ht⟩ := h
    exact ⟨(o, t), ht, rfl⟩

/-- Every operation the program can come to call satisfies `P`, as long as the answers it gets
satisfy `A`. -/
def Calls (A : (o : Op) → Ans o → Prop) (P : Op → Prop) : Prog Op Ans α → Prop
  | .pure _ => True
  | .call o k => P o ∧ ∀ x, A o x → (k x).Calls A P

section calls

variable {A : (o : Op) → Ans o → Prop} {P : Op → Prop}

@[simp] theorem calls_pure (a : α) : (Pure.pure a : Prog Op Ans α).Calls A P := trivial

@[simp] theorem calls_call (o : Op) (k : Ans o → Prog Op Ans α) :
    (Prog.call o k).Calls A P ↔ P o ∧ ∀ x, A o x → (k x).Calls A P := Iff.rfl

theorem Calls.mono {Q : Op → Prop} {p : Prog Op Ans α} (hp : p.Calls A P) (h : ∀ o, P o → Q o) :
    p.Calls A Q := by
  induction p with
  | pure a => trivial
  | call o k ih => exact ⟨h o hp.1, fun x hx => ih x (hp.2 x hx)⟩

/-- Fewer answers, fewer calls. -/
theorem Calls.of_answers {A' : (o : Op) → Ans o → Prop} {p : Prog Op Ans α} (hp : p.Calls A P)
    (h : ∀ o x, A' o x → A o x) : p.Calls A' P := by
  induction p with
  | pure a => trivial
  | call o k ih => exact ⟨hp.1, fun x hx => ih x (hp.2 x (h o x hx))⟩

theorem calls_bind {p : Prog Op Ans α} {f : α → Prog Op Ans β} (hp : p.Calls A P)
    (hf : ∀ a, (f a).Calls A P) : (p >>= f).Calls A P := by
  induction p with
  | pure a => exact hf a
  | call o k ih => exact ⟨hp.1, fun x hx => ih x (hp.2 x hx)⟩

/-- What every operation the program may call preserves, its execution preserves. -/
theorem exec_invariant {perform : (o : Op) → σ → Ans o × σ} {I : σ → Prop}
    (hans : ∀ o s, A o (perform o s).1) (hop : ∀ o s, P o → I s → I (perform o s).2)
    {p : Prog Op Ans α} {s : σ} (hp : p.Calls A P) (hs : I s) : I (p.exec perform s).2 := by
  induction p generalizing s with
  | pure a => exact hs
  | call o k ih => exact ih _ (hp.2 _ (hans o s)) (hop o s hp.1 hs)

/-- The operations of an execution are among those the program may call. -/
theorem trace_calls {perform : (o : Op) → σ → Ans o × σ} (hans : ∀ o s, A o (perform o s).1)
    {p : Prog Op Ans α} {s : σ} (hp : p.Calls A P) : ∀ o ∈ p.trace perform s, P o := by
  induction p generalizing s with
  | pure a => simp [trace]
  | call o k ih =>
    intro o' ho'
    rcases List.mem_cons.mp ho' with rfl | ho'
    · exact hp.1
    · exact ih _ (hp.2 _ (hans o s)) o' ho'

/-- Where the answers to none of its operations are collected, nothing is. -/
theorem filterMap_transcript_calls {γ : Type} {f : (o : Op) × Ans o → Option γ}
    {perform : (o : Op) → σ → Ans o × σ} (hans : ∀ o s, A o (perform o s).1)
    {p : Prog Op Ans α} {s : σ} (hp : p.Calls A fun o => ∀ a, f ⟨o, a⟩ = none) :
    (p.transcript perform s).filterMap f = [] := by
  rw [List.filterMap_eq_nil_iff]
  intro x hx
  refine trace_calls hans hp (s := s) x.1 ?_ x.2
  rw [← transcript_fst]
  exact List.mem_map_of_mem hx

end calls

end Prog

end MeshNetwork
