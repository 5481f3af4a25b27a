import MeshNetwork.Protocol
import Mathlib.Tactic.SplitIfs

namespace MeshNetwork.Driver

/-- An `Fw::Buffer`: its size and the memory from `getData()` on, past the end included. -/
structure FwBuffer where
  data : Nat → UInt8
  size : UInt32

/-- `data[i]` for a U32 index expression, which wraps. -/
def FwBuffer.byte (b : FwBuffer) (i : Nat) : UInt8 := b.data (i % 2 ^ 32)

/-- The buffer presents exactly these bytes; what follows them in memory is arbitrary. -/
def FwBuffer.Holds (b : FwBuffer) (bytes : List UInt8) : Prop :=
  b.size.toNat = bytes.length ∧ ∀ i (h : i < bytes.length), b.data i = bytes[i]

/-- A buffer of given bytes, with zeros behind it. -/
def FwBuffer.ofBytes (bytes : List UInt8) : FwBuffer :=
  ⟨fun i => bytes.getD i 0, UInt32.ofNat bytes.length⟩

theorem FwBuffer.holds_ofBytes {bytes : List UInt8} (h : bytes.length < 2 ^ 32) :
    (FwBuffer.ofBytes bytes).Holds bytes := by
  constructor
  · rw [ofBytes, UInt32.toNat_ofNat', Nat.mod_eq_of_lt h]
  · intro i hi
    simp [ofBytes, hi]

theorem FwBuffer.Holds.byte {b : FwBuffer} {bytes : List UInt8} (h : b.Holds bytes) {i : Nat}
    (hi : i < bytes.length) : b.byte i = bytes[i] := by
  have hs := b.size.toNat_lt
  rw [h.1] at hs
  have hlt : i < 2 ^ 32 := by omega
  rw [FwBuffer.byte, Nat.mod_eq_of_lt hlt, h.2 i hi]

/-- What the scan leaves behind, and the positions it has read. -/
structure Scan where
  receiverID : UInt32
  index : Nat
  reads : List Nat
  deriving DecidableEq, Repr

def Scan.reading (r : Scan) (is : List Nat) : Scan := { r with reads := is ++ r.reads }

@[simp] theorem Scan.reading_receiverID (r : Scan) (is : List Nat) :
    (r.reading is).receiverID = r.receiverID := rfl
@[simp] theorem Scan.reading_index (r : Scan) (is : List Nat) :
    (r.reading is).index = r.index := rfl

/-- The loop of send_handler over the buffer from `i` on, `n` positions to go. A receiverID
other than 0 says that the first tag has been seen. -/
def scanLoop (b : FwBuffer) : Nat → Nat → UInt32 → Scan
  | 0, _, receiverID => ⟨receiverID, 0, []⟩
  | n + 1, i, receiverID =>
    if b.byte i = tagI then
      if b.byte (i + 1) = tagD then
        if receiverID = 0 then (scanLoop b n (i + 1) 1).reading [i, i + 1]
        else
          ⟨ofBigEndian (b.byte (i + 2)) (b.byte (i + 3)) (b.byte (i + 4)) (b.byte (i + 5)), i,
            [i, i + 1, i + 2, i + 3, i + 4, i + 5]⟩
      else (scanLoop b n (i + 1) receiverID).reading [i, i + 1]
    else (scanLoop b n (i + 1) receiverID).reading [i]

/-- The ID-tag scan of send_handler. -/
def headerScan (b : FwBuffer) : Scan := scanLoop b b.size.toNat 0 0

/-- An `'I','D'` pair starts at `i`. -/
def TagAt (b : FwBuffer) (i : Nat) : Prop := b.byte i = tagI ∧ b.byte (i + 1) = tagD

instance (b : FwBuffer) (i : Nat) : Decidable (TagAt b i) :=
  inferInstanceAs (Decidable (_ ∧ _))

/-- The ID after the tag at `i`. -/
def idAt (b : FwBuffer) (i : Nat) : UInt32 :=
  ofBigEndian (b.byte (i + 2)) (b.byte (i + 3)) (b.byte (i + 4)) (b.byte (i + 5))

/-- What the later code uses of a scan. -/
def Scan.found (r : Scan) : UInt32 × Nat := (r.receiverID, r.index)

@[simp] theorem Scan.reading_found (r : Scan) (is : List Nat) :
    (r.reading is).found = r.found := rfl

@[simp] theorem scanLoop_end (b : FwBuffer) (i : Nat) (r : UInt32) :
    (scanLoop b 0 i r).found = (r, 0) := rfl

theorem scanLoop_skip_one (b : FwBuffer) (n i : Nat) (r : UInt32) (h : ¬TagAt b i) :
    (scanLoop b (n + 1) i r).found = (scanLoop b n (i + 1) r).found := by
  rw [scanLoop]
  split_ifs with hi hd
  · exact absurd ⟨hi, hd⟩ h
  · exact absurd ⟨hi, hd⟩ h
  · rfl
  · rfl

/-- Positions without a tag are passed over. -/
theorem scanLoop_skip (b : FwBuffer) (m n i : Nat) (r : UInt32)
    (h : ∀ k, i ≤ k → k < i + m → ¬TagAt b k) :
    (scanLoop b (m + n) i r).found = (scanLoop b n (i + m) r).found := by
  induction m generalizing i with
  | zero => simp
  | succ m ih =>
    have hone := scanLoop_skip_one b (m + n) i r (h i le_rfl (by omega))
    have hrest := ih (i + 1) (by
      intro k hk hk'
      exact h k (by omega) (by omega))
    have hfuel : m + 1 + n = m + n + 1 := by omega
    have hend : i + 1 + m = i + (m + 1) := by omega
    rw [hfuel, hone, hrest, hend]

theorem scanLoop_first (b : FwBuffer) (n i : Nat) (h : TagAt b i) :
    (scanLoop b (n + 1) i 0).found = (scanLoop b n (i + 1) 1).found := by
  rw [scanLoop, if_pos h.1, if_pos h.2, if_pos rfl, Scan.reading_found]

theorem scanLoop_second (b : FwBuffer) (n i : Nat) (h : TagAt b i) :
    (scanLoop b (n + 1) i 1).found = (idAt b i, i) := by
  rw [scanLoop, if_pos h.1, if_pos h.2, if_neg (by decide)]
  rfl

/-- No tag in the buffer. -/
def NoTag (b : FwBuffer) : Prop := ∀ k < b.size.toNat, ¬TagAt b k

/-- One tag, at `i`. -/
def OnlyTag (b : FwBuffer) (i : Nat) : Prop :=
  i < b.size.toNat ∧ TagAt b i ∧ ∀ k < b.size.toNat, TagAt b k → k = i

/-- The first two tags are at `i` and `j`. -/
def FirstTags (b : FwBuffer) (i j : Nat) : Prop :=
  i < j ∧ j < b.size.toNat ∧ TagAt b i ∧ TagAt b j ∧ ∀ k < j, TagAt b k → k = i

instance (b : FwBuffer) (i j : Nat) : Decidable (FirstTags b i j) :=
  inferInstanceAs (Decidable (_ ∧ _ ∧ _ ∧ _ ∧ _))

/-- A frame for `dest`: the first tag is the sender's, the second stands before the four bytes of
`dest`. -/
def Addressed (b : FwBuffer) (dest : UInt32) : Prop := ∃ i j, FirstTags b i j ∧ idAt b j = dest

theorem headerScan_noTag {b : FwBuffer} (h : NoTag b) : (headerScan b).found = (0, 0) := by
  have hskip := scanLoop_skip b b.size.toNat 0 0 0 (by
    intro k _ hk
    exact h k (by omega))
  rw [headerScan]
  simpa using hskip

theorem headerScan_onlyTag {b : FwBuffer} {i : Nat} (h : OnlyTag b i) :
    (headerScan b).found = (1, 0) := by
  obtain ⟨hi, ht, honly⟩ := h
  have hskip := scanLoop_skip b i (b.size.toNat - i - 1 + 1) 0 0 (by
    intro k _ hk htag
    have hki := honly k (by omega) htag
    omega)
  have hrest := scanLoop_skip b (b.size.toNat - i - 1) 0 (i + 1) 1 (by
    intro k hk hk' htag
    have hki := honly k (by omega) htag
    omega)
  have hsize : b.size.toNat = i + (b.size.toNat - i - 1 + 1) := by omega
  rw [headerScan, hsize, hskip, Nat.zero_add, scanLoop_first b _ i ht]
  simpa using hrest

/-- With two tags the scan stops at the second one, with the ID after it. -/
theorem headerScan_firstTags {b : FwBuffer} {i j : Nat} (h : FirstTags b i j) :
    (headerScan b).found = (idAt b j, j) := by
  obtain ⟨hij, hj, hti, htj, honly⟩ := h
  have hskip := scanLoop_skip b i (b.size.toNat - i - 1 + 1) 0 0 (by
    intro k _ hk htag
    have hki := honly k (by omega) htag
    omega)
  have hrest := scanLoop_skip b (j - i - 1) (b.size.toNat - j - 1 + 1) (i + 1) 1 (by
    intro k hk hk' htag
    have hki := honly k (by omega) htag
    omega)
  have hsize : b.size.toNat = i + (b.size.toNat - i - 1 + 1) := by omega
  have hleft : b.size.toNat - i - 1 = j - i - 1 + (b.size.toNat - j - 1 + 1) := by omega
  have hend : i + 1 + (j - i - 1) = j := by omega
  rw [headerScan, hsize, hskip, Nat.zero_add, scanLoop_first b _ i hti, hleft, hrest, hend,
    scanLoop_second b _ j htj]

theorem headerScan_addressed {b : FwBuffer} {dest : UInt32} (h : Addressed b dest) :
    (headerScan b).receiverID = dest := by
  obtain ⟨i, j, hij, rfl⟩ := h
  exact congrArg Prod.fst (headerScan_firstTags hij)

/-- One of the three descriptions applies to every buffer. -/
theorem tags_cases (b : FwBuffer) :
    NoTag b ∨ (∃ i, OnlyTag b i) ∨ ∃ i j, FirstTags b i j := by
  by_cases h₀ : ∃ i, i < b.size.toNat ∧ TagAt b i
  · have hi := Nat.find_spec h₀
    have hmin (k : Nat) (hk : k < Nat.find h₀) (hn : k < b.size.toNat) : ¬TagAt b k := by
      intro ht
      exact Nat.find_min h₀ hk ⟨hn, ht⟩
    generalize Nat.find h₀ = i at hi hmin
    by_cases h₁ : ∃ j, i < j ∧ j < b.size.toNat ∧ TagAt b j
    · have hj := Nat.find_spec h₁
      have hmin' (k : Nat) (hk : k < Nat.find h₁) (hik : i < k) (hn : k < b.size.toNat) :
          ¬TagAt b k := by
        intro ht
        exact Nat.find_min h₁ hk ⟨hik, hn, ht⟩
      generalize Nat.find h₁ = j at hj hmin'
      refine .inr (.inr ⟨i, j, hj.1, hj.2.1, hi.2, hj.2.2, ?_⟩)
      intro k hk ht
      by_contra hne
      rcases Nat.lt_or_gt_of_ne hne with hlt | hgt
      · exact hmin k hlt (by omega) ht
      · exact hmin' k hk hgt (by omega) ht
    · refine .inr (.inl ⟨i, hi.1, hi.2, ?_⟩)
      intro k hk ht
      by_contra hne
      rcases Nat.lt_or_gt_of_ne hne with hlt | hgt
      · exact hmin k hlt hk ht
      · exact h₁ ⟨k, hgt, hk, ht⟩
  · left
    intro k hk ht
    exact h₀ ⟨k, hk, ht⟩

end MeshNetwork.Driver
