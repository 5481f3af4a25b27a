import MeshNetwork.Framework.Accesses
import MeshNetwork.Framework.Decimal
import MeshNetwork.Protocol
import Mathlib.Data.List.TakeWhile
import Mathlib.Tactic.SplitIfs

namespace MeshNetwork.Driver

/-- The string in a character array: up to the terminator. -/
def cString (array : List UInt8) : List UInt8 := array.takeWhile (· ≠ 0)

theorem cString_eq_self {s : List UInt8} (h : 0 ∉ s) : cString s = s :=
  List.takeWhile_eq_self_iff.mpr fun _ hc => decide_eq_true fun h0 => h (h0 ▸ hc)

/-- A string with its terminator stored over an array; what follows keeps its old bytes. -/
def storeString (s array : List UInt8) : List UInt8 := s ++ 0 :: array.drop (s.length + 1)

theorem cString_storeString {s : List UInt8} (h : 0 ∉ s) (array : List UInt8) :
    cString (storeString s array) = s := by
  have hall : ∀ c ∈ s, decide (c ≠ 0) = true := by
    intro c hc
    exact decide_eq_true fun h0 => h (h0 ▸ hc)
  rw [cString, storeString, List.takeWhile_append_of_pos hall]
  exact List.append_nil s

/-- An array agrees with its string, terminator included. -/
theorem getD_cString {array : List UInt8} {i : Nat} (hi : i ≤ (cString array).length) :
    array.getD i 0 = (cString array).getD i 0 := by
  induction array generalizing i with
  | nil => rfl
  | cons c cs ih =>
    by_cases hc : c = 0
    · have he : cString (c :: cs) = [] := by simp [cString, hc]
      obtain rfl : i = 0 := by simpa [he] using hi
      rw [he, hc]
      rfl
    · have he : cString (c :: cs) = c :: cString cs := by simp [cString, hc]
      cases i with
      | zero => rw [he]; rfl
      | succ i =>
        rw [he] at hi ⊢
        exact ih (by simpa using hi)

/-- The value of a digit in any base that `%i` knows. -/
def digitValue (c : UInt8) : Nat :=
  if 0x30 ≤ c ∧ c ≤ 0x39 then (c - 0x30).toNat
  else if 0x41 ≤ c ∧ c ≤ 0x46 then (c - 0x41).toNat + 10
  else if 0x61 ≤ c ∧ c ≤ 0x66 then (c - 0x61).toNat + 10
  else 16

/-- The leading digits of a base, as a number. -/
def scanDigits (base : Nat) (cs : List UInt8) : Nat :=
  (cs.takeWhile fun c => digitValue c < base).foldl (fun n c => base * n + digitValue c) 0

/-- The magnitude that `%i` reads: `0x` starts a hexadecimal number, which is 0 if no digit follows,
and `0` an octal one. -/
def scanMagnitude : List UInt8 → Option Nat
  | 0x30 :: x :: cs =>
    if x = 0x78 ∨ x = 0x58 then some (scanDigits 16 cs) else some (scanDigits 8 (x :: cs))
  | c :: cs => if digitValue c < 10 then some (scanDigits 10 (c :: cs)) else none
  | [] => none

/-- `%i`: the number is held to the range of a long and cut to the I32. -/
def scanInt : List UInt8 → Option Int32
  | 0x2D :: cs => (scanMagnitude cs).map fun n => Int32.ofInt (max (-n) (-2 ^ 63))
  | 0x2B :: cs => (scanMagnitude cs).map fun n => Int32.ofInt (min n (2 ^ 63 - 1))
  | cs => (scanMagnitude cs).map fun n => Int32.ofInt (min n (2 ^ 63 - 1))

/-- What `sscanf(line, "%[^:]:%i", hostname_s, &port)` returns and leaves in the two locals. -/
structure EntryScan where
  index : Int
  hostname_s : List UInt8
  port : Int32
  deriving DecidableEq, Repr

def scanEntry (line hostname_s : List UInt8) (port : Int32) : EntryScan :=
  let host := line.takeWhile (· ≠ 0x3A)
  if line = [] then ⟨-1, hostname_s, port⟩
  else if host = [] then ⟨0, hostname_s, port⟩
  else
    match line.drop host.length with
    | [] => ⟨1, storeString host hostname_s, port⟩
    | _ :: rest =>
      match scanInt rest with
      | none => ⟨1, storeString host hostname_s, port⟩
      | some value => ⟨2, storeString host hostname_s, value⟩

/-- The size of `hostname_s`. -/
def hostnameSize : Nat := 20

/-- Where sscanf writes in `hostname_s`. -/
def scanAccesses (line : List UInt8) : List Access :=
  let host := line.takeWhile (· ≠ 0x3A)
  if host = [] then [] else Access.stringWrites host.length

/-- Entries with a decimal, a hexadecimal and no port. -/
example : scanEntry [0x61, 0x3A, 0x38, 0x30] [] (-1) = ⟨2, [0x61, 0], 80⟩ ∧
    scanEntry [0x61, 0x3A, 0x30, 0x78, 0x31, 0x30] [] (-1) = ⟨2, [0x61, 0], 16⟩ ∧
    scanEntry [0x61] [0x62, 0x62, 0x62] (-1) = ⟨1, [0x61, 0, 0x62], -1⟩ := by decide

/-- The bytes that are not written keep what they held. -/
theorem scanEntry_unwritten {line hostname_s : List UInt8} {port : Int32} {k : Nat}
    (h : .write k ∉ scanAccesses line) :
    (scanEntry line hostname_s port).hostname_s.getD k 0 = hostname_s.getD k 0 := by
  have hstore (host : List UInt8) (hk : host.length < k) :
      (storeString host hostname_s).getD k 0 = hostname_s.getD k 0 := by
    have hk' : (host ++ [0]).length ≤ k := by
      rw [List.length_append]
      exact hk
    rw [storeString, List.append_cons, List.getD_eq_getElem?_getD, List.getElem?_append_right hk',
      List.getElem?_drop, List.length_append, List.length_singleton, Nat.add_sub_cancel' hk]
    rfl
  unfold scanEntry
  unfold scanAccesses at h
  dsimp only at h ⊢
  split_ifs at h ⊢ with hhost hline hline
  · rfl
  · rfl
  · rfl
  · have hk := hstore (line.takeWhile (· ≠ 0x3A)) (by simpa using h)
    split
    · exact hk
    · split
      · exact hk
      · exact hk

section digits

variable {c : UInt8} {cs : List UInt8}

theorem isDigit_iff : IsDigit c ↔ digitValue c < 10 := by
  unfold IsDigit digitValue
  simp only [UInt8.le_iff_toNat_le, UInt8.reduceToNat]
  split_ifs with h h' h''
  · refine iff_of_true h ?_
    have hle : (0x30 : UInt8) ≤ c := UInt8.le_iff_toNat_le.mpr h.1
    rw [UInt8.toNat_sub_of_le _ _ hle]
    have hc : c.toNat - 48 < 10 := by omega
    exact hc
  · exact iff_of_false h (by omega)
  · exact iff_of_false h (by omega)
  · exact iff_of_false h (by omega)

theorem scanDigits_numeral (base : Nat) (cs : List UInt8) :
    scanDigits base cs = numeral base ((cs.map digitValue).takeWhile (· < base)) := by
  rw [scanDigits, numeral, List.takeWhile_map, List.foldl_map]
  rfl

/-- The digits of a decimal number, as `%i` knows them. -/
theorem decimalValue_digitValue (h : ∀ c ∈ cs, IsDigit c) :
    decimalValue cs = numeral 10 (cs.map digitValue) := by
  have hmap : cs.map digitValue = cs.map fun c => (c - 0x30).toNat :=
    List.map_congr_left fun c hc => if_pos (h c hc)
  rw [decimalValue, hmap]

/-- What `%i` makes of a string of decimal digits: with a leading zero, as many of them as are
octal. -/
theorem scanMagnitude_digits (hne : cs ≠ []) (h : ∀ c ∈ cs, IsDigit c) :
    scanMagnitude cs = some (if cs.head? = some 0x30
      then numeral 8 ((cs.map digitValue).takeWhile (· < 8)) else decimalValue cs) := by
  rw [decimalValue_digitValue h]
  unfold scanMagnitude
  split
  · next x cs =>
    have hx : ¬(x = 0x78 ∨ x = 0x58) := by
      intro hx
      have hdigit := h x (by simp)
      rcases hx with rfl | rfl <;> exact absurd hdigit (by decide)
    rw [if_neg hx, scanDigits_numeral]
    simp [digitValue, numeral]
  · next c cs hsingle =>
    have hall : (c :: cs).map digitValue =
        ((c :: cs).map digitValue).takeWhile (· < 10) := by
      refine (List.takeWhile_eq_self_iff.mpr ?_).symm
      intro d hd
      obtain ⟨c', hc', rfl⟩ := List.mem_map.mp hd
      exact decide_eq_true (isDigit_iff.mp (h c' hc'))
    rw [if_pos (isDigit_iff.mp (h c List.mem_cons_self)), scanDigits_numeral, ← hall]
    split_ifs with hzero
    · obtain rfl : c = 0x30 := by simpa using hzero
      cases cs with
      | nil => rfl
      | cons x cs => exact (hsingle x cs rfl rfl).elim
    · rfl
  · exact absurd rfl hne

end digits

end MeshNetwork.Driver
