import Mathlib.Data.UInt

namespace MeshNetwork

/-- The four bytes of a 32-bit word, most significant first. -/
def bigEndian (w : UInt32) : List UInt8 :=
  [(w >>> 24).toUInt8, (w >>> 16).toUInt8, (w >>> 8).toUInt8, w.toUInt8]

def ofBigEndian (a b c d : UInt8) : UInt32 :=
  (a.toUInt32 <<< 24) + (b.toUInt32 <<< 16) + (c.toUInt32 <<< 8) + d.toUInt32

@[simp] theorem bigEndian_length (w : UInt32) : (bigEndian w).length = 4 := rfl

/-- Four bytes never overflow the word: the shifted sums are the positional value. -/
theorem ofBigEndian_toNat (a b c d : UInt8) :
    (ofBigEndian a b c d).toNat =
      a.toNat * 2 ^ 24 + b.toNat * 2 ^ 16 + c.toNat * 2 ^ 8 + d.toNat := by
  have ha := a.toNat_lt
  have hb := b.toNat_lt
  have hc := c.toNat_lt
  have hd := d.toNat_lt
  simp only [ofBigEndian, UInt32.toNat_add, UInt32.toNat_shiftLeft, UInt8.toNat_toUInt32,
    Nat.shiftLeft_eq, UInt32.reduceToNat, Nat.reduceMod]
  omega

/-- The four shifted bytes have no bit in common: joined by `|` they are the word, too. -/
theorem ofBigEndian_or (a b c d : UInt8) :
    (a.toUInt32 <<< 24) ||| (b.toUInt32 <<< 16) ||| (c.toUInt32 <<< 8) ||| d.toUInt32 =
      ofBigEndian a b c d := by
  have ha := a.toNat_lt
  have hb := b.toNat_lt
  have hc := c.toNat_lt
  have hd := d.toNat_lt
  apply UInt32.toNat_inj.mp
  rw [ofBigEndian_toNat]
  simp only [UInt32.toNat_or, UInt32.toNat_shiftLeft, UInt8.toNat_toUInt32, UInt32.reduceToNat,
    Nat.reduceMod]
  have low {w i : Nat} (hi : i ≤ 24) (hw : w < 256) : w <<< i % 2 ^ 32 = w <<< i := by
    apply Nat.mod_eq_of_lt
    have hi' : 2 ^ i ≤ 2 ^ 24 := Nat.pow_le_pow_right (by decide) hi
    rw [Nat.shiftLeft_eq]
    calc w * 2 ^ i < 256 * 2 ^ i := Nat.mul_lt_mul_of_pos_right hw (Nat.two_pow_pos i)
      _ ≤ 256 * 2 ^ 24 := Nat.mul_le_mul_left 256 hi'
  rw [low (by decide) ha, low (by decide) hb, low (by decide) hc]
  -- one byte after the other joins the word above it
  have join (w v i : Nat) (hv : v < 256) : w <<< (i + 8) ||| v <<< i = (w * 256 + v) <<< i := by
    have hshift : w <<< (i + 8) = (w <<< 8) <<< i := by rw [← Nat.shiftLeft_add, Nat.add_comm]
    rw [hshift, ← Nat.shiftLeft_or_distrib, ← Nat.shiftLeft_add_eq_or_of_lt hv,
      Nat.shiftLeft_eq w 8]
  rw [join _ _ 16 hb, join _ _ 8 hc, ← Nat.shiftLeft_add_eq_or_of_lt hd, Nat.shiftLeft_eq]
  omega

/-- Distinct byte quadruples are distinct words. -/
theorem ofBigEndian_inj {a b c d a' b' c' d' : UInt8} :
    ofBigEndian a b c d = ofBigEndian a' b' c' d' ↔ a = a' ∧ b = b' ∧ c = c' ∧ d = d' := by
  constructor
  · intro h
    have hn := congrArg UInt32.toNat h
    rw [ofBigEndian_toNat, ofBigEndian_toNat] at hn
    have := a.toNat_lt; have := b.toNat_lt; have := c.toNat_lt; have := d.toNat_lt
    have := a'.toNat_lt; have := b'.toNat_lt; have := c'.toNat_lt; have := d'.toNat_lt
    refine ⟨?_, ?_, ?_, ?_⟩ <;> apply UInt8.toNat_inj.mp <;> omega
  · intro heqs
    obtain ⟨rfl, rfl, rfl, rfl⟩ := heqs
    rfl

theorem bigEndian_toNat (w : UInt32) :
    (bigEndian w).map UInt8.toNat =
      [w.toNat / 2 ^ 24 % 256, w.toNat / 2 ^ 16 % 256, w.toNat / 2 ^ 8 % 256, w.toNat % 256] := by
  simp [bigEndian, Nat.shiftRight_eq_div_pow]

/-- Reading back the four bytes of a word gives the word. -/
theorem ofBigEndian_bigEndian (w : UInt32) :
    ofBigEndian (w >>> 24).toUInt8 (w >>> 16).toUInt8 (w >>> 8).toUInt8 w.toUInt8 = w := by
  apply UInt32.toNat_inj.mp
  rw [ofBigEndian_toNat]
  have hw := w.toNat_lt
  have h := bigEndian_toNat w
  simp only [bigEndian, List.map_cons, List.map_nil, List.cons.injEq, and_true] at h
  obtain ⟨h3, h2, h1, h0⟩ := h
  rw [h3, h2, h1, h0]
  omega

theorem toInt_toInt32 (w : UInt32) : w.toInt32.toInt =
    if 2 * w.toNat < 2 ^ 32 then (w.toNat : Int) else w.toNat - 2 ^ 32 :=
  BitVec.toInt_eq_toNat_cond _

/-- A count that goes through a signed word keeps its low bits. -/
theorem toNat_toUInt32_ofInt (n : Nat) : (Int32.ofInt n).toUInt32.toNat = n % 2 ^ 32 := by
  change (BitVec.ofInt 32 n).toNat = n % 2 ^ 32
  rw [BitVec.ofInt_natCast, BitVec.toNat_ofNat]

end MeshNetwork
