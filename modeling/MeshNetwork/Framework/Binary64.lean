import Mathlib.Data.Nat.Sqrt
import Mathlib.Tactic.Ring

namespace MeshNetwork

section nearest

/-- `n / 2 ^ e` to the nearest integer; halfway between two integers, to the even one. -/
def roundShift (n e : Nat) : Nat :=
  let q := n / 2 ^ e
  let r := n % 2 ^ e
  if 2 * r < 2 ^ e ∨ 2 * r = 2 ^ e ∧ q % 2 = 0 then q else q + 1

/-- The double nearest to a natural number: 53 significant binary digits are kept. -/
def toDouble (n : Nat) : Nat := roundShift n (n.log2 - 52) * 2 ^ (n.log2 - 52)

/-- The integer nearest to `√n * 2 ^ k`. -/
def roundSqrt (n k : Nat) : Nat :=
  let s := (n * (2 ^ k) ^ 2).sqrt
  if n * (2 ^ k) ^ 2 - s ^ 2 ≤ s then s else s + 1

/-- The integer part of the double nearest to `√n`. -/
def truncSqrt (n : Nat) : Nat :=
  let k := 52 - n.log2 / 2
  roundSqrt n k / 2 ^ k

variable {n k : Nat}

theorem div_le_roundShift (n e : Nat) : n / 2 ^ e ≤ roundShift n e := by
  rw [roundShift]
  split
  · exact Nat.le_refl _
  · exact Nat.le_succ _

theorem toDouble_of_lt (h : n < 2 ^ 53) : toDouble n = n := by
  have hlog : n.log2 - 52 = 0 := by
    by_cases hn : n = 0
    · subst hn
      rfl
    · have hlt := (Nat.log2_lt hn).2 h
      omega
  rw [toDouble, hlog]
  simp [roundShift, Nat.mod_one]

theorem le_toDouble (h : 2 ^ 53 ≤ n) : 2 ^ 53 ≤ toDouble n := by
  have hn : n ≠ 0 := by omega
  have hlog : 53 ≤ n.log2 := (Nat.le_log2 hn).2 h
  obtain ⟨e, he⟩ : ∃ e, n.log2 - 52 = e + 1 := ⟨n.log2 - 53, by omega⟩
  have hpow : 2 ^ 52 * 2 ^ (e + 1) ≤ n := by
    rw [← Nat.pow_add, show 52 + (e + 1) = n.log2 by omega]
    exact Nat.log2_self_le hn
  have hq : 2 ^ 52 ≤ roundShift n (e + 1) :=
    ((Nat.le_div_iff_mul_le (Nat.two_pow_pos _)).2 hpow).trans (div_le_roundShift n _)
  have htwo : 2 ≤ 2 ^ (e + 1) := Nat.le_self_pow (Nat.succ_ne_zero e) 2
  rw [toDouble, he]
  exact Nat.mul_le_mul hq htwo

/-- Rounding does not carry a number over a bound that is itself exact. -/
theorem toDouble_lt_iff {b : Nat} (hb : b ≤ 2 ^ 53) : toDouble n < b ↔ n < b := by
  by_cases h : n < 2 ^ 53
  · rw [toDouble_of_lt h]
  · have hle := le_toDouble (Nat.le_of_not_lt h)
    omega

theorem toDouble_add_lt_iff {m b : Nat} (hb : b ≤ 2 ^ 53) :
    toDouble m + toDouble n < b ↔ m + n < b := by
  by_cases hm : m < b
  · by_cases hn : n < b
    · rw [toDouble_of_lt (hm.trans_le hb), toDouble_of_lt (hn.trans_le hb)]
    · have hn' := mt (toDouble_lt_iff (n := n) hb).1 hn
      omega
  · have hm' := mt (toDouble_lt_iff (n := m) hb).1 hm
    omega

theorem sqrt_mul_le (n k : Nat) : n.sqrt * 2 ^ k ≤ (n * (2 ^ k) ^ 2).sqrt := by
  rw [Nat.le_sqrt']
  calc (n.sqrt * 2 ^ k) ^ 2 = n.sqrt ^ 2 * (2 ^ k) ^ 2 := Nat.mul_pow ..
    _ ≤ n * (2 ^ k) ^ 2 := Nat.mul_le_mul_right _ (Nat.sqrt_le' n)

theorem sqrt_le_roundSqrt (n k : Nat) : n.sqrt * 2 ^ k ≤ roundSqrt n k := by
  refine (sqrt_mul_le n k).trans ?_
  rw [roundSqrt]
  split
  · exact Nat.le_refl _
  · exact Nat.le_succ _

/-- Rounding does not reach the next integer, from which `√n` keeps more than half a digit. -/
theorem roundSqrt_lt (h : n.sqrt < 2 ^ k) : roundSqrt n k < (n.sqrt + 1) * 2 ^ k := by
  have hnext : n < (n.sqrt + 1) ^ 2 := Nat.lt_succ_sqrt' n
  rw [roundSqrt]
  generalize 2 ^ k = d at h ⊢
  have hs := Nat.sqrt_le' (n * d ^ 2)
  have hlt : (n * d ^ 2).sqrt < (n.sqrt + 1) * d := by
    rw [Nat.sqrt_lt', Nat.mul_pow]
    exact Nat.mul_lt_mul_of_pos_right hnext (Nat.pow_pos (Nat.zero_lt_of_lt h))
  generalize (n * d ^ 2).sqrt = s at hs hlt ⊢
  split
  · exact hlt
  · rename_i hround
    refine Nat.lt_of_le_of_ne hlt fun heq => ?_
    -- the radicand is at least d ^ 2 below the square of s + 1, and at most s + 1 ≤ d ^ 2
    have hgap : n * d ^ 2 + d ^ 2 ≤ (s + 1) ^ 2 := by
      rw [heq, Nat.mul_pow, ← Nat.succ_mul]
      exact Nat.mul_le_mul_right _ hnext
    have hdigit : s + 1 ≤ d ^ 2 := by
      rw [heq, Nat.pow_two]
      exact Nat.mul_le_mul_right d h
    have hsquare : (s + 1) ^ 2 = s ^ 2 + s + (s + 1) := by ring
    omega

theorem truncSqrt_eq_sqrt (h : n < 2 ^ 52) : truncSqrt n = n.sqrt := by
  have hlog : n.log2 < 52 := by
    by_cases hn : n = 0
    · subst hn
      decide
    · exact (Nat.log2_lt hn).2 h
  have hdigits : n.sqrt < 2 ^ (52 - n.log2 / 2) := by
    rw [Nat.sqrt_lt', ← Nat.pow_mul]
    exact Nat.lt_log2_self.trans_le (Nat.pow_le_pow_right Nat.two_pos (by omega))
  exact Nat.div_eq_of_lt_le (sqrt_le_roundSqrt n _) (roundSqrt_lt hdigits)

end nearest

end MeshNetwork
