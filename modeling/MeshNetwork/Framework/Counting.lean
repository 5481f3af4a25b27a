import Mathlib.Algebra.Ring.Nat
import Mathlib.Data.List.OfFn
import Mathlib.Logic.Function.Basic
import Mathlib.Tactic.SplitIfs

namespace MeshNetwork

variable {α : Type*} {p : α → Bool} {l : List α} {n : Nat} {a b : α}

/-- Exchanging one entry moves the count by that entry alone. -/
theorem countP_set_add (h : l[n]? = some a) :
    (l.set n b).countP p + (if p a then 1 else 0) = l.countP p + if p b then 1 else 0 := by
  obtain ⟨hn, ha⟩ := List.getElem?_eq_some_iff.mp h
  have hpos : (if p a then 1 else 0) ≤ l.countP p := by
    split_ifs with hpa
    · exact List.countP_pos_iff.mpr ⟨a, List.mem_of_getElem? h, hpa⟩
    · exact Nat.zero_le _
  rw [List.countP_set hn, ha]
  omega

/-- So it is for a sum. -/
theorem sum_map_set_add (f : α → Nat) (h : l[n]? = some a) (b : α) :
    ((l.set n b).map f).sum + f a = (l.map f).sum + f b := by
  induction l generalizing n with
  | nil => cases h
  | cons c l ih =>
    cases n with
    | zero =>
      obtain rfl := Option.some.inj h
      simp only [List.set_cons_zero, List.map_cons, List.sum_cons]
      omega
    | succ n =>
      have htail := ih h
      simp only [List.set_cons_succ, List.map_cons, List.sum_cons]
      omega

theorem countP_set_same (h : l[n]? = some a) (hp : p b = p a) :
    (l.set n b).countP p = l.countP p := by
  have hset := countP_set_add (p := p) (b := b) h
  rw [hp] at hset
  exact Nat.add_right_cancel hset

theorem countP_set_le (h : l[n]? = some a) (hp : p b = true → p a = true) :
    (l.set n b).countP p ≤ l.countP p := by
  have hset := countP_set_add (p := p) (b := b) h
  split_ifs at hset with ha hb hb
  · omega
  · omega
  · exact absurd (hp hb) ha
  · omega

theorem countP_set_drop (h : l[n]? = some a) (ha : p a = true) (hb : p b = false) :
    (l.set n b).countP p + 1 = l.countP p := by
  have hset := countP_set_add (p := p) (b := b) h
  rw [if_pos ha, hb] at hset
  exact hset

/-- Any other entry stays. -/
theorem mem_set_of_ne {c : α} (hc : c ∈ l) (h : l[n]? = some a) (hne : c ≠ a) : c ∈ l.set n b := by
  obtain ⟨m, hm⟩ := List.getElem?_of_mem hc
  have hmn : n ≠ m := by
    intro heq
    subst heq
    exact hne (Option.some.inj (hm.symm.trans h))
  refine List.mem_of_getElem? (i := m) ?_
  rw [List.getElem?_set_ne hmn]
  exact hm

theorem mem_set_self (h : l[n]? = some a) : b ∈ l.set n b :=
  List.mem_set (List.getElem?_eq_some_iff.mp h).1 _

section last

variable [DecidableEq α]

/-- The last position of an entry. -/
def lastIdxOf (a : α) : List α → Option Nat
  | [] => none
  | b :: l =>
    match lastIdxOf a l with
    | some n => some (n + 1)
    | none => if b = a then some 0 else none

theorem lastIdxOf_append (a b : α) (l : List α) :
    lastIdxOf a (l ++ [b]) = if b = a then some l.length else lastIdxOf a l := by
  induction l with
  | nil =>
    by_cases h : b = a
    · simp [lastIdxOf, h]
    · simp [lastIdxOf, h]
  | cons c l ih =>
    rw [List.cons_append, lastIdxOf, ih]
    by_cases h : b = a
    · simp [h]
    · simp [h, lastIdxOf]

theorem getElem?_lastIdxOf {l : List α} (h : lastIdxOf a l = some n) : l[n]? = some a := by
  induction l generalizing n with
  | nil => cases h
  | cons c l ih =>
    unfold lastIdxOf at h
    split at h
    · rename_i m hm
      obtain rfl := Option.some.inj h
      exact ih hm
    · split_ifs at h with hc
      obtain rfl := Option.some.inj h
      exact congrArg some hc

end last

section table

variable {m : Nat} {f : Fin m → Bool} {k : Fin m}

/-- Writing one entry of a table is writing one entry of the list of its values. -/
theorem ofFn_update (f : Fin m → Bool) (k : Fin m) (b : Bool) :
    List.ofFn (Function.update f k b) = (List.ofFn f).set k b := by
  apply List.ext_getElem
  · simp
  · intro i hi _
    have him : i < m := by simpa using hi
    by_cases hik : (⟨i, him⟩ : Fin m) = k
    · subst hik
      simp
    · have hval : k.val ≠ i := fun h => hik (Fin.ext h.symm)
      simp [hik, hval]

/-- The entries of a table that are set. -/
def entries (f : Fin m → Bool) : Nat := (List.ofFn f).countP id

theorem entries_update (f : Fin m → Bool) (k : Fin m) (b : Bool) :
    entries (Function.update f k b) + (if f k then 1 else 0) = entries f + if b then 1 else 0 := by
  have hk : (List.ofFn f)[k.val]? = some (f k) := by simp
  rw [entries, ofFn_update]
  exact countP_set_add hk

theorem entries_set (h : f k = false) : entries (Function.update f k true) = entries f + 1 := by
  have hadd := entries_update f k true
  rw [h] at hadd
  exact hadd

theorem entries_clear (h : f k = true) : entries (Function.update f k false) + 1 = entries f := by
  have hadd := entries_update f k false
  rw [h] at hadd
  exact hadd

theorem entries_pos (h : f k = true) : 0 < entries f := by
  have hclear := entries_clear h
  omega

theorem entries_none (h : ∀ k, f k = false) : entries f = 0 := by
  apply List.countP_eq_zero.mpr
  intro b hb
  obtain ⟨k, rfl⟩ := List.mem_ofFn.mp hb
  simp [h k]

end table

end MeshNetwork
