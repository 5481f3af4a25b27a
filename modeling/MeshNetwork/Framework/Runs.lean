import Mathlib.Logic.Basic

namespace MeshNetwork

variable {σ τ α β : Type*}

/-- Perform the actions in turn; `none` as soon as one of them is not possible. -/
def run (step : σ → α → Option σ) (s : σ) : List α → Option σ
  | [] => some s
  | a :: as => (step s a).bind fun t => run step t as

@[simp] theorem run_nil (step : σ → α → Option σ) (s : σ) : run step s [] = some s := rfl

@[simp] theorem run_cons (step : σ → α → Option σ) (s : σ) (a : α) (as : List α) :
    run step s (a :: as) = (step s a).bind fun t => run step t as := rfl

theorem run_append (step : σ → α → Option σ) (s : σ) (as bs : List α) :
    run step s (as ++ bs) = (run step s as).bind fun t => run step t bs := by
  induction as generalizing s with
  | nil => rfl
  | cons a as ih =>
    simp only [List.cons_append, run_cons, Option.bind_assoc]
    congr 1
    funext t
    exact ih t

/-- Every step of the run meets `P`, which sees the state before the step and the action. -/
def AllSteps (step : σ → α → Option σ) (P : σ → α → Prop) (s : σ) : List α → Prop
  | [] => True
  | a :: as => P s a ∧ ∀ t, step s a = some t → AllSteps step P t as

/-- A condition that can be decided for a step can be decided for a run. -/
instance decidableAllSteps {step : σ → α → Option σ} {P : σ → α → Prop}
    [∀ s a, Decidable (P s a)] : (s : σ) → (as : List α) → Decidable (AllSteps step P s as)
  | _, [] => .isTrue trivial
  | s, a :: as =>
    match h : step s a with
    | none => decidable_of_iff (P s a) ⟨fun hp => ⟨hp, by simp [h]⟩, And.left⟩
    | some t =>
      have : Decidable (AllSteps step P t as) := decidableAllSteps t as
      decidable_of_iff (P s a ∧ AllSteps step P t as)
        ⟨fun hp => ⟨hp.1, fun u hu => Option.some.inj (h.symm.trans hu) ▸ hp.2⟩,
          fun hp => ⟨hp.1, hp.2 t h⟩⟩

theorem allSteps_of_forall (step : σ → α → Option σ) (P : σ → α → Prop)
    (hP : ∀ s a, P s a) (s : σ) (as : List α) : AllSteps step P s as := by
  induction as generalizing s with
  | nil => trivial
  | cons a as ih => exact ⟨hP s a, fun t _ => ih t⟩

theorem AllSteps.and {step : σ → α → Option σ} {P Q : σ → α → Prop} {s : σ} {as : List α}
    (hP : AllSteps step P s as) (hQ : AllSteps step Q s as) :
    AllSteps step (fun s a => P s a ∧ Q s a) s as := by
  induction as generalizing s with
  | nil => trivial
  | cons a as ih => exact ⟨⟨hP.1, hQ.1⟩, fun t ht => ih (hP.2 t ht) (hQ.2 t ht)⟩

/-- The guarded invariant rule: what each step that meets `P` preserves holds at the end of
every run whose steps all meet `P`. -/
theorem run_invariant {step : σ → α → Option σ} {P : σ → α → Prop} {I : σ → Prop}
    (hstep : ∀ s a t, I s → P s a → step s a = some t → I t)
    {s t : σ} {as : List α} (hs : I s) (hP : AllSteps step P s as)
    (h : run step s as = some t) : I t := by
  induction as generalizing s with
  | nil => exact Option.some.inj h ▸ hs
  | cons a as ih =>
    obtain ⟨u, hu, hrest⟩ := Option.bind_eq_some_iff.mp h
    exact ih (hstep s a u hs hP.1 hu) (hP.2 u hu) hrest

/-- What an invariant and the guard give for a step they give for every step of the run. -/
theorem allSteps_of_invariant {step : σ → α → Option σ} {P Q : σ → α → Prop} {I : σ → Prop}
    (hstep : ∀ s a t, I s → P s a → step s a = some t → I t) (hQ : ∀ s a, I s → P s a → Q s a)
    {s : σ} {as : List α} (hs : I s) (hP : AllSteps step P s as) : AllSteps step Q s as := by
  induction as generalizing s with
  | nil => trivial
  | cons a as ih => exact ⟨hQ s a hs hP.1, fun t ht => ih (hstep s a t hs hP.1 ht) (hP.2 t ht)⟩

/-- Where an invariant makes two conditions on a step the same, runs meet both or neither. -/
theorem allSteps_iff {step : σ → α → Option σ} {P Q : σ → α → Prop} {I : σ → Prop}
    (hstep : ∀ s a t, I s → P s a → step s a = some t → I t) (hPQ : ∀ s a, I s → (P s a ↔ Q s a))
    {s : σ} {as : List α} (hs : I s) : AllSteps step P s as ↔ AllSteps step Q s as := by
  constructor
  · exact allSteps_of_invariant hstep (fun s a hi => (hPQ s a hi).mp) hs
  · refine allSteps_of_invariant (I := I) ?_ (fun s a hi => (hPQ s a hi).mpr) hs
    intro s a t hi hq
    exact hstep s a t hi ((hPQ s a hi).mpr hq)

/-- The invariant rule without a guard. -/
theorem run_invariant_all {step : σ → α → Option σ} {I : σ → Prop}
    (hstep : ∀ s a t, I s → step s a = some t → I t)
    {s t : σ} {as : List α} (hs : I s) (h : run step s as = some t) : I t :=
  run_invariant (P := fun _ _ => True) (fun s a t hi _ ha => hstep s a t hi ha) hs
    (allSteps_of_forall step _ (fun _ _ => trivial) s as) h

/-- The measure rule: where each step that counts lowers a measure and no other step raises it, the
measure bounds how many there are. -/
theorem run_countP_le {step : σ → α → Option σ} {I : σ → Prop} {p : α → Bool} {μ : σ → Nat}
    (hstep : ∀ s a t, I s → step s a = some t → I t ∧ μ t + (if p a then 1 else 0) ≤ μ s)
    {s t : σ} {as : List α} (hs : I s) (h : run step s as = some t) :
    μ t + as.countP p ≤ μ s := by
  induction as generalizing s with
  | nil =>
    obtain rfl := Option.some.inj h
    exact Nat.le_refl _
  | cons a as ih =>
    obtain ⟨u, hu, hrest⟩ := Option.bind_eq_some_iff.mp h
    obtain ⟨hinv, hle⟩ := hstep s a u hs hu
    have hlater := ih hinv hrest
    rw [List.countP_cons]
    omega

/-- The progress rule: where each step that counts lowers a measure as long as the goal is not
reached, no other step raises it, and a goal that is reached stays, the goal is reached unless the
measure still bounds the steps that count. -/
theorem run_reaches {step : σ → α → Option σ} {P : σ → α → Prop} {I D : σ → Prop} {p : α → Bool}
    {μ : σ → Nat} (hstep : ∀ s a t, I s → P s a → step s a = some t →
      I t ∧ (D s → D t) ∧ (¬D s → μ t + (if p a then 1 else 0) ≤ μ s)) {s t : σ} {as : List α}
    (hs : I s) (hP : AllSteps step P s as) (h : run step s as = some t) :
    I t ∧ (D s → D t) ∧ (D t ∨ μ t + as.countP p ≤ μ s) := by
  induction as generalizing s with
  | nil =>
    obtain rfl := Option.some.inj h
    exact ⟨hs, id, .inr (Nat.le_refl _)⟩
  | cons a as ih =>
    obtain ⟨u, hu, hrest⟩ := Option.bind_eq_some_iff.mp h
    obtain ⟨hinv, hstays, hlower⟩ := hstep s a u hs hP.1 hu
    obtain ⟨hend, hgoal, hlater⟩ := ih hinv (hP.2 u hu) hrest
    refine ⟨hend, hgoal ∘ hstays, ?_⟩
    by_cases hD : D s
    · exact .inl (hgoal (hstays hD))
    · refine hlater.imp_right ?_
      intro hle
      have hfirst := hlower hD
      rw [List.countP_cons]
      omega

/-- Where each step of one system is matched by a run of another, each run is. -/
theorem run_simulation {step : σ → α → Option σ} {step' : τ → β → Option τ} {R : σ → τ → Prop}
    (hsim : ∀ s a t u, R s u → step s a = some t → ∃ bs v, run step' u bs = some v ∧ R t v)
    {s t : σ} {u : τ} {as : List α} (hR : R s u) (h : run step s as = some t) :
    ∃ bs v, run step' u bs = some v ∧ R t v := by
  induction as generalizing s u with
  | nil => exact ⟨[], u, rfl, Option.some.inj h ▸ hR⟩
  | cons a as ih =>
    obtain ⟨w, hw, hrest⟩ := Option.bind_eq_some_iff.mp h
    obtain ⟨bs, v, hv, hRv⟩ := hsim s a w u hR hw
    obtain ⟨cs, x, hx, hRx⟩ := ih hRv hrest
    refine ⟨bs ++ cs, x, ?_, hRx⟩
    rw [run_append, hv]
    exact hx

/-- Where a step that violates `P` leaves something that stays, a run without it meets `P`. -/
theorem allSteps_or_stays {step : σ → α → Option σ} {G P : σ → α → Prop} {I L : σ → Prop}
    (hstep : ∀ s a t, I s → G s a → step s a = some t → I t)
    (hleaves : ∀ s a t, I s → G s a → ¬P s a → step s a = some t → L t)
    (hstays : ∀ s a t, I s → G s a → L s → step s a = some t → L t) {s t : σ} {as : List α}
    (hs : I s)
    (hG : AllSteps step G s as) (h : run step s as = some t) : AllSteps step P s as ∨ L t := by
  induction as generalizing s with
  | nil => exact .inl trivial
  | cons a as ih =>
    obtain ⟨u, hu, hrest⟩ := Option.bind_eq_some_iff.mp h
    have hiu := hstep s a u hs hG.1 hu
    by_cases hP : P s a
    · rcases ih hiu (hG.2 u hu) hrest with hall | hL
      · refine .inl ⟨hP, ?_⟩
        intro v hv
        obtain rfl := Option.some.inj (hu.symm.trans hv)
        exact hall
      · exact .inr hL
    · have hLu := hleaves s a u hs hG.1 hP hu
      exact .inr (run_invariant (I := fun s => I s ∧ L s)
        (fun s a t hi hg ha => ⟨hstep s a t hi.1 hg ha, hstays s a t hi.1 hg hi.2 ha⟩)
        ⟨hiu, hLu⟩ (hG.2 u hu) hrest).2

/-- A system with the history of what has been observed of its steps. -/
def recordStep (step : σ → α → Option σ) (observe : σ → α → List β) (s : σ × List β) (a : α) :
    Option (σ × List β) :=
  (step s.1 a).map fun t => (t, s.2 ++ observe s.1 a)

/-- The history changes nothing: the system runs as it does without. -/
theorem run_recordStep {step : σ → α → Option σ} {observe : σ → α → List β} {s t : σ × List β}
    {as : List α} (h : run (recordStep step observe) s as = some t) :
    run step s.1 as = some t.1 := by
  induction as generalizing s with
  | nil => exact congrArg some (congrArg Prod.fst (Option.some.inj h))
  | cons a as ih =>
    obtain ⟨u, hu, hrest⟩ := Option.bind_eq_some_iff.mp h
    obtain ⟨v, hv, rfl⟩ := Option.map_eq_some_iff.mp hu
    rw [run_cons, hv]
    exact ih hrest

/-- Every run has a history. -/
theorem exists_recordStep {step : σ → α → Option σ} (observe : σ → α → List β) {s t : σ}
    {as : List α} (h : run step s as = some t) (history : List β) :
    ∃ history', run (recordStep step observe) (s, history) as = some (t, history') := by
  induction as generalizing s history with
  | nil => exact ⟨history, congrArg (fun s => some (s, history)) (Option.some.inj h)⟩
  | cons a as ih =>
    obtain ⟨u, hu, hrest⟩ := Option.bind_eq_some_iff.mp h
    obtain ⟨history', hrun⟩ := ih hrest (history ++ observe s a)
    refine ⟨history', ?_⟩
    rw [run_cons, recordStep, hu]
    exact hrun

theorem allSteps_recordStep {step : σ → α → Option σ} {observe : σ → α → List β}
    {P : σ → α → Prop} {s : σ × List β} {as : List α} (h : AllSteps step P s.1 as) :
    AllSteps (recordStep step observe) (fun s a => P s.1 a) s as := by
  induction as generalizing s with
  | nil => trivial
  | cons a as ih =>
    refine ⟨h.1, ?_⟩
    intro t ht
    obtain ⟨v, hv, rfl⟩ := Option.map_eq_some_iff.mp ht
    exact ih (h.2 v hv)

/-- Two systems side by side: each action belongs to one of them and leaves the other alone. -/
def sumStep (f : σ → α → Option σ) (g : τ → β → Option τ) (s : σ × τ) :
    α ⊕ β → Option (σ × τ)
  | .inl a => (f s.1 a).map fun t => (t, s.2)
  | .inr b => (g s.2 b).map fun t => (s.1, t)

/-- A condition on the steps of either system. -/
def SumGuard (P : σ → α → Prop) (Q : τ → β → Prop) (s : σ × τ) : α ⊕ β → Prop
  | .inl a => P s.1 a
  | .inr b => Q s.2 b

instance {P : σ → α → Prop} {Q : τ → β → Prop} [∀ s a, Decidable (P s a)]
    [∀ s b, Decidable (Q s b)] (s : σ × τ) : (act : α ⊕ β) → Decidable (SumGuard P Q s act)
  | .inl a => inferInstanceAs (Decidable (P s.1 a))
  | .inr b => inferInstanceAs (Decidable (Q s.2 b))

/-- What each system preserves by itself the two preserve together. -/
theorem sum_step {f : σ → α → Option σ} {g : τ → β → Option τ} {P : σ → α → Prop}
    {Q : τ → β → Prop} {I : σ → Prop} {J : τ → Prop}
    (hf : ∀ s a t, I s → P s a → f s a = some t → I t)
    (hg : ∀ s b t, J s → Q s b → g s b = some t → J t) (s : σ × τ) (act : α ⊕ β) (t : σ × τ)
    (h : I s.1 ∧ J s.2) (hP : SumGuard P Q s act) (hs : sumStep f g s act = some t) :
    I t.1 ∧ J t.2 := by
  cases act with
  | inl a =>
    obtain ⟨w, hw, rfl⟩ := Option.map_eq_some_iff.mp hs
    exact ⟨hf s.1 a w h.1 hP hw, h.2⟩
  | inr b =>
    obtain ⟨w, hw, rfl⟩ := Option.map_eq_some_iff.mp hs
    exact ⟨h.1, hg s.2 b w h.2 hP hw⟩

end MeshNetwork
