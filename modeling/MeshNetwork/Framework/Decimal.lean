import Mathlib.Data.List.Basic
import Mathlib.Data.List.Induction
import Mathlib.Data.List.TakeWhile

namespace MeshNetwork

section numeral

/-- The value of some digits in a base, the first digit being the most significant one. -/
def numeral (base : Nat) (ds : List Nat) : Nat := ds.foldl (fun n d => base * n + d) 0

variable {b b' : Nat} {ds : List Nat} {d : Nat}

theorem numeral_concat : numeral b (ds ++ [d]) = b * numeral b ds + d := by
  simp [numeral, List.foldl_append]

theorem numeral_le_numeral (hb : b ≤ b') : numeral b ds ≤ numeral b' ds := by
  induction ds using List.reverseRecOn with
  | nil => exact Nat.le_refl 0
  | append_singleton ds d ih =>
    rw [numeral_concat, numeral_concat]
    exact Nat.add_le_add_right (Nat.mul_le_mul hb ih) d

theorem numeral_le_append (hb : 0 < b) (ds es : List Nat) :
    numeral b ds ≤ numeral b (ds ++ es) := by
  induction es using List.reverseRecOn with
  | nil => rw [List.append_nil]
  | append_singleton es e ih =>
    rw [← List.append_assoc, numeral_concat]
    exact ih.trans (Nat.le_add_right_of_le (Nat.le_mul_of_pos_left _ hb))

theorem le_numeral (hb : 0 < b) (hd : d ∈ ds) : d ≤ numeral b ds := by
  obtain ⟨es, fs, rfl⟩ := List.append_of_mem hd
  rw [List.append_cons]
  refine Nat.le_trans ?_ (numeral_le_append hb _ fs)
  rw [numeral_concat]
  exact Nat.le_add_left d _

theorem numeral_takeWhile_le (hb : 0 < b) (p : Nat → Bool) :
    numeral b (ds.takeWhile p) ≤ numeral b ds := by
  obtain ⟨es, hes⟩ := List.takeWhile_prefix p (l := ds)
  have hle := numeral_le_append hb (ds.takeWhile p) es
  rwa [hes] at hle

/-- A number that is read in too small a base, up to the first digit that the base does not have,
comes out right only if it is a single digit of that base. -/
theorem numeral_takeWhile_eq_iff (hb : 0 < b) (hbb : b < b') :
    numeral b (ds.takeWhile (· < b)) = numeral b' ds ↔ numeral b' ds < b := by
  rcases List.eq_nil_or_concat' ds with rfl | ⟨ds, d, rfl⟩
  · exact iff_of_true rfl hb
  have hgrow : numeral b' ds ≤ b' * numeral b' ds := Nat.le_mul_of_pos_left _ (hb.trans hbb)
  rw [numeral_concat]
  by_cases hall : ∀ e ∈ ds, e < b
  · rw [List.takeWhile_append_of_pos fun e he => decide_eq_true (hall e he)]
    have hle : numeral b ds ≤ numeral b' ds := numeral_le_numeral hbb.le
    by_cases hd : d < b
    · -- only 0 in front of the last digit is the same in both bases
      have hzero (h : b * numeral b ds = b' * numeral b' ds ∨ b' * numeral b' ds < b) :
          numeral b' ds = 0 := by
        by_contra hne
        have hpos := Nat.pos_of_ne_zero hne
        rcases h with heq | hlt
        · have hmul := Nat.mul_lt_mul_of_lt_of_le hbb hle hpos
          omega
        · have hmul := Nat.le_mul_of_pos_right b' hpos
          omega
      have hlast : [d].takeWhile (· < b) = [d] := by simp [hd]
      rw [hlast, numeral_concat]
      constructor
      · intro h
        rw [hzero (.inl (Nat.add_right_cancel h))]
        omega
      · intro h
        have h0 := hzero (.inr (by omega))
        rw [h0] at hle ⊢
        rw [Nat.le_zero.mp hle]
        rfl
    · have hlast : [d].takeWhile (· < b) = [] := by simp [Nat.not_lt.mp hd]
      rw [hlast, List.append_nil]
      omega
  · push Not at hall
    obtain ⟨e, he, hbe⟩ := hall
    have hlarge := le_numeral (hb.trans hbb) he
    have hle : numeral b (ds.takeWhile (· < b)) ≤ numeral b' ds :=
      (numeral_takeWhile_le hb _).trans (numeral_le_numeral hbb.le)
    have hne : (ds.takeWhile (· < b)).length ≠ ds.length := by
      intro hlength
      have hself := (List.takeWhile_prefix _).eq_of_length hlength
      have hsmall := List.takeWhile_eq_self_iff.mp hself e he
      exact absurd (of_decide_eq_true hsmall) (Nat.not_lt.mpr hbe)
    rw [List.takeWhile_append, if_neg hne]
    have hlt := Nat.mul_lt_mul_of_lt_of_le (a := 1) (b := numeral b' ds) (c := b')
      (d := numeral b' ds) (by omega) le_rfl (by omega)
    omega

end numeral

/-- A decimal digit in ASCII. -/
def IsDigit (c : UInt8) : Prop := 0x30 ≤ c ∧ c ≤ 0x39

instance (c : UInt8) : Decidable (IsDigit c) := inferInstanceAs (Decidable (_ ∧ _))

/-- The number that a string of decimal digits writes. -/
def decimalValue (cs : List UInt8) : Nat := numeral 10 (cs.map fun c => (c - 0x30).toNat)

end MeshNetwork
