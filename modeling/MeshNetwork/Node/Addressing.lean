import MeshNetwork.Framing.SwarmFramer
import MeshNetwork.Driver.HeaderScan
import Mathlib.Data.List.Infix

namespace MeshNetwork.Node

open Driver Framing

/-- `MultiTcpServerComponentImpl::setDeviceID`; `none` is a failed assertion. -/
def setDeviceID (ID : UInt32) : Option UInt32 :=
  if ID = 0 then none else if ID = broadcastID then none else some ID

/-- The four bytes that follow the first tag pair inside the source ID happen to spell `d`.
`k` is where the pair stands; the bytes run on into the second entry. -/
def TagEchoes (s d : UInt32) : Prop :=
  ∃ k < 3, (∀ i < k, ((bigEndian s).drop i).take 2 ≠ [tagI, tagD]) ∧
    ((bigEndian s).drop k).take 2 = [tagI, tagD] ∧
    ((bigEndian s ++ idEntry d).drop (k + 2)).take 4 = bigEndian d

/-- The destination that the scan takes out of a frame from `s` to `d`. -/
def scannedDest (s d : UInt32) : UInt32 :=
  match bigEndian s, bigEndian d with
  | [a, b, c, e], [x, y, _, _] =>
    if a = tagI ∧ b = tagD then ofBigEndian c e tagI tagD
    else if b = tagI ∧ c = tagD then ofBigEndian e tagI tagD x
    else if c = tagI ∧ e = tagD then ofBigEndian tagI tagD x y
    else d
  | _, _ => d

section frame

variable {buf : FwBuffer} {pre post data : List UInt8} {s d : UInt32}

/-- The twelve header bytes of a frame inside a wrapping. -/
theorem header_byte (hb : buf.Holds (pre ++ (idEntry s ++ idEntry d ++ data) ++ post))
    (k : Nat) (hk : k < 12) :
    buf.byte (pre.length + k) = (idEntry s ++ idEntry d).getD k 0 := by
  have hlen : (idEntry s ++ idEntry d).length = 12 := rfl
  rw [hb.byte (by simp only [List.length_append, idEntry_length]; omega),
    List.getElem_append_left (by simp only [List.length_append, idEntry_length]; omega),
    List.getElem_append_right (Nat.le_add_right _ _),
    List.getElem_append_left (by rw [hlen]; omega)]
  simp [List.getD, hlen, hk]

theorem header_size (hb : buf.Holds (pre ++ (idEntry s ++ idEntry d ++ data) ++ post)) :
    pre.length + 12 ≤ buf.size.toNat := by
  rw [hb.1]
  simp only [List.length_append, idEntry_length]
  omega

/-- A prefix without an adjacent pair has no tag, nor one across its end: the frame begins
with `'I'`. -/
theorem prefix_noTag (hpre : ¬[tagI, tagD] <:+: pre)
    (hb : buf.Holds (pre ++ (idEntry s ++ idEntry d ++ data) ++ post)) (k : Nat)
    (hk : k < pre.length) : ¬TagAt buf k := by
  intro htag
  obtain ⟨hi, hd⟩ := htag
  have hsize := header_size hb
  rw [hb.1] at hsize
  have byte (j : Nat) (hj : j < pre.length) : buf.byte j = pre[j] := by
    rw [hb.byte (by omega), List.getElem_append_left (by rw [List.length_append]; omega),
      List.getElem_append_left hj]
  by_cases hl : k + 1 < pre.length
  · apply hpre
    rw [byte k hk] at hi
    rw [byte (k + 1) hl] at hd
    refine ⟨pre.take k, pre.drop (k + 2), ?_⟩
    rw [← hi, ← hd, List.append_assoc]
    change pre.take k ++ (pre[k] :: pre[k + 1] :: pre.drop (k + 2)) = pre
    rw [List.cons_getElem_drop_succ, List.cons_getElem_drop_succ, List.take_append_drop]
  · have he : k + 1 = pre.length + 0 := by omega
    rw [he, header_byte hb 0 (by decide)] at hd
    exact tagI_ne_tagD hd

/-- The tag of the frame comes first; the second tag is the next one at offset `j`. -/
theorem frame_firstTags (hpre : ¬[tagI, tagD] <:+: pre)
    (hb : buf.Holds (pre ++ (idEntry s ++ idEntry d ++ data) ++ post)) {j : Nat} (h0 : 0 < j)
    (hj : j ≤ 6) (ht : TagAt buf (pre.length + j))
    (hno : ∀ k, 0 < k → k < j → ¬TagAt buf (pre.length + k)) :
    FirstTags buf pre.length (pre.length + j) := by
  have hsize := header_size hb
  have hfirst : TagAt buf pre.length :=
    ⟨header_byte hb 0 (by decide), header_byte hb 1 (by decide)⟩
  refine ⟨by omega, by omega, hfirst, ht, ?_⟩
  intro k hk htag
  by_contra hne
  rcases Nat.lt_or_gt_of_ne hne with hlt | hgt
  · exact prefix_noTag hpre hb k hlt htag
  · have hk' : k = pre.length + (k - pre.length) := by omega
    rw [hk'] at htag
    exact hno _ (by omega) (by omega) htag

/-- What the scan finds in a wrapped frame depends on source and destination alone. -/
theorem headerScan_frame (hpre : ¬[tagI, tagD] <:+: pre)
    (hb : buf.Holds (pre ++ (idEntry s ++ idEntry d ++ data) ++ post)) :
    (headerScan buf).receiverID = scannedDest s d := by
  obtain ⟨a, b, c, e, hs⟩ : ∃ a b c e, bigEndian s = [a, b, c, e] := ⟨_, _, _, _, rfl⟩
  obtain ⟨x, y, z, w, hd⟩ : ∃ x y z w, bigEndian d = [x, y, z, w] ∧ ofBigEndian x y z w = d :=
    ⟨_, _, _, _, rfl, ofBigEndian_bigEndian d⟩
  let header : List UInt8 := [tagI, tagD, a, b, c, e, tagI, tagD, x, y, z, w]
  have byte (k : Nat) (hk : k < 12) : buf.byte (pre.length + k) = header.getD k 0 := by
    rw [header_byte hb k hk]
    simp only [idEntry_eq, hs, hd.1, List.cons_append, List.nil_append, header]
  have read (j : Nat) (hj : j + 5 < 12) : idAt buf (pre.length + j) =
      ofBigEndian (header.getD (j + 2) 0) (header.getD (j + 3) 0) (header.getD (j + 4) 0)
        (header.getD (j + 5) 0) := by
    rw [← byte (j + 2) (by omega), ← byte (j + 3) (by omega), ← byte (j + 4) (by omega),
      ← byte (j + 5) hj]
    rfl
  have receiver {j : Nat} (h0 : 0 < j) (hj : j ≤ 6) (ht : TagAt buf (pre.length + j))
      (hno : ∀ k, 0 < k → k < j → ¬TagAt buf (pre.length + k)) :
      (headerScan buf).receiverID = idAt buf (pre.length + j) :=
    congrArg Prod.fst (headerScan_firstTags (frame_firstTags hpre hb h0 hj ht hno))
  have tag (k : Nat) (hk : k + 1 < 12) : TagAt buf (pre.length + k) ↔
      header.getD k 0 = tagI ∧ header.getD (k + 1) 0 = tagD := by
    rw [TagAt, byte k (by omega), Nat.add_assoc, byte (k + 1) hk]
  have t1 : ¬TagAt buf (pre.length + 1) := by
    intro h
    exact tagI_ne_tagD ((tag 1 (by decide)).mp h).1.symm
  have t2 : TagAt buf (pre.length + 2) ↔ a = tagI ∧ b = tagD := tag 2 (by decide)
  have t3 : TagAt buf (pre.length + 3) ↔ b = tagI ∧ c = tagD := tag 3 (by decide)
  have t4 : TagAt buf (pre.length + 4) ↔ c = tagI ∧ e = tagD := tag 4 (by decide)
  have t5 : ¬TagAt buf (pre.length + 5) := by
    intro h
    exact tagI_ne_tagD ((tag 5 (by decide)).mp h).2
  have t6 : TagAt buf (pre.length + 6) := (tag 6 (by decide)).mpr ⟨rfl, rfl⟩
  simp only [scannedDest, hs, hd.1]
  -- the pair that comes first after the sender's own tag is read as the receiver's
  split_ifs with h2 h3 h4
  · have hno : ∀ k, 0 < k → k < 2 → ¬TagAt buf (pre.length + k) := by
      intro k h0 hk
      obtain rfl : k = 1 := by omega
      exact t1
    rw [receiver (by decide) (by decide) (t2.mpr h2) hno, read 2 (by decide)]
    rfl
  · have hno : ∀ k, 0 < k → k < 3 → ¬TagAt buf (pre.length + k) := by
      intro k h0 hk
      obtain rfl | rfl : k = 1 ∨ k = 2 := by omega
      · exact t1
      · exact mt t2.mp h2
    rw [receiver (by decide) (by decide) (t3.mpr h3) hno, read 3 (by decide)]
    rfl
  · have hno : ∀ k, 0 < k → k < 4 → ¬TagAt buf (pre.length + k) := by
      intro k h0 hk
      obtain rfl | rfl | rfl : k = 1 ∨ k = 2 ∨ k = 3 := by omega
      · exact t1
      · exact mt t2.mp h2
      · exact mt t3.mp h3
    rw [receiver (by decide) (by decide) (t4.mpr h4) hno, read 4 (by decide)]
    rfl
  · have hno : ∀ k, 0 < k → k < 6 → ¬TagAt buf (pre.length + k) := by
      intro k h0 hk
      obtain rfl | rfl | rfl | rfl | rfl : k = 1 ∨ k = 2 ∨ k = 3 ∨ k = 4 ∨ k = 5 := by omega
      · exact t1
      · exact mt t2.mp h2
      · exact mt t3.mp h3
      · exact mt t4.mp h4
      · exact t5
    rw [receiver (by decide) (by decide) t6 hno, read 6 (by decide)]
    exact hd.2

end frame

theorem tag_infix_iff (a b c e : UInt8) : [tagI, tagD] <:+: [a, b, c, e] ↔
    (a = tagI ∧ b = tagD) ∨ (b = tagI ∧ c = tagD) ∨ (c = tagI ∧ e = tagD) := by
  have general (p q : UInt8) : [p, q] <:+: [a, b, c, e] ↔
      (p = a ∧ q = b) ∨ (p = b ∧ q = c) ∨ (p = c ∧ q = e) := by
    simp [List.infix_cons_iff]
  rw [general]
  simp only [@eq_comm _ tagI, @eq_comm _ tagD]

/-- The three places where a pair can stand in the source ID, in bytes. -/
theorem tagEchoes_iff {s d : UInt32} {a b c e x y z w : UInt8} (hs : bigEndian s = [a, b, c, e])
    (hd : bigEndian d = [x, y, z, w]) : TagEchoes s d ↔
      ((a = tagI ∧ b = tagD) ∧ [c, e, tagI, tagD] = [x, y, z, w]) ∨
      (¬(a = tagI ∧ b = tagD) ∧ (b = tagI ∧ c = tagD) ∧ [e, tagI, tagD, x] = [x, y, z, w]) ∨
      (¬(a = tagI ∧ b = tagD) ∧ ¬(b = tagI ∧ c = tagD) ∧ (c = tagI ∧ e = tagD) ∧
        [tagI, tagD, x, y] = [x, y, z, w]) := by
  have pair (p q : UInt8) : [p, q] = [tagI, tagD] ↔ p = tagI ∧ q = tagD := by simp
  simp only [TagEchoes, hs, hd, idEntry_eq]
  constructor
  · intro hecho
    obtain ⟨k, hk, hno, ht, he⟩ := hecho
    obtain rfl | rfl | rfl : k = 0 ∨ k = 1 ∨ k = 2 := by omega
    · exact .inl ⟨(pair a b).mp ht, he⟩
    · have h0 : ¬(a = tagI ∧ b = tagD) := mt (pair a b).mpr (hno 0 (by decide))
      exact .inr (.inl ⟨h0, (pair b c).mp ht, he⟩)
    · have h0 : ¬(a = tagI ∧ b = tagD) := mt (pair a b).mpr (hno 0 (by decide))
      have h1 : ¬(b = tagI ∧ c = tagD) := mt (pair b c).mpr (hno 1 (by decide))
      exact .inr (.inr ⟨h0, h1, (pair c e).mp ht, he⟩)
  · intro hecho
    rcases hecho with ⟨ht, he⟩ | ⟨h0, ht, he⟩ | ⟨h0, h1, ht, he⟩
    · exact ⟨0, by decide, by simp, (pair a b).mpr ht, he⟩
    · refine ⟨1, by decide, ?_, (pair b c).mpr ht, he⟩
      intro i hi
      obtain rfl : i = 0 := by omega
      exact mt (pair a b).mp h0
    · refine ⟨2, by decide, ?_, (pair c e).mpr ht, he⟩
      intro i hi
      obtain rfl | rfl : i = 0 ∨ i = 1 := by omega
      · exact mt (pair a b).mp h0
      · exact mt (pair b c).mp h1

/-- The scan errs exactly when the source ID has a pair inside, but for the echoes. -/
theorem scannedDest_eq_iff (s d : UInt32) :
    scannedDest s d = d ↔ ¬[tagI, tagD] <:+: bigEndian s ∨ TagEchoes s d := by
  obtain ⟨a, b, c, e, hs⟩ : ∃ a b c e, bigEndian s = [a, b, c, e] := ⟨_, _, _, _, rfl⟩
  obtain ⟨x, y, z, w, hd, hv⟩ : ∃ x y z w, bigEndian d = [x, y, z, w] ∧ ofBigEndian x y z w = d :=
    ⟨_, _, _, _, rfl, ofBigEndian_bigEndian d⟩
  have spells (p q r t : UInt8) : ofBigEndian p q r t = d ↔ [p, q, r, t] = [x, y, z, w] := by
    rw [← hv, ofBigEndian_inj]
    simp
  rw [tagEchoes_iff hs hd, hs, tag_infix_iff]
  simp only [scannedDest, hs, hd]
  split_ifs with h2 h3 h4
  · simp [spells, h2]
  · simp [spells, h3, tagI_ne_tagD]
  · rw [spells]
    simp only [h2, h4, tagI_ne_tagD, and_false, not_false_iff, false_and, true_and, false_or,
      or_true, not_true]
  · simp [h2, h3, h4]

/-- Addressing from SwarmFramer to the driver. A frame that any run of calls has handed out
with the destination of its latest SET_DESTID, wrapped in any way that puts no pair in front,
is read back with this destination by send_handler if and only if the source ID contains no
adjacent `'I','D'`, or its bytes after the pair echo the destination. -/
theorem swarm_addressing (s : UInt32) (calls : List FramerCall) (t u : FramerState)
    (call : FramerCall) (f pre post : List UInt8) (buf : FwBuffer)
    (hrun : run FramerState.step ⟨.init s, [], []⟩ calls = some t)
    (hcall : t.step call = some u) (hf : u.framedOut = t.framedOut ++ [f])
    (hpre : ¬[tagI, tagD] <:+: pre) (hb : buf.Holds (pre ++ f ++ post)) :
    (headerScan buf).receiverID = latestDest broadcastID calls ↔
      ¬[tagI, tagD] <:+: bigEndian s ∨ TagEchoes s (latestDest broadcastID calls) := by
  have hframer := FramerState.run_framer hrun
  obtain ⟨data, rfl⟩ := FramerState.step_emits hcall hf
  rw [hframer] at hb
  rw [headerScan_frame hpre hb]
  exact scannedDest_eq_iff s _

/-- A frame from a node with a plain ID, between two stray bytes. -/
theorem swarm_addressing_plain : (headerScan (.ofBytes
    ([0x49] ++ (idEntry baseID ++ idEntry 0x20202021 ++ [7]) ++ [9]))).receiverID = 0x20202021 :=
  (swarm_addressing baseID [.setDestId 0x20202021] ⟨⟨baseID, 0x20202021⟩, [], []⟩
    ⟨⟨baseID, 0x20202021⟩, [idEntry baseID ++ idEntry 0x20202021 ++ [7]], []⟩ (.portIn [7] 13)
    (idEntry baseID ++ idEntry 0x20202021 ++ [7]) [0x49] [9] _ (by decide) (by decide) (by decide)
    (by decide) (FwBuffer.holds_ofBytes (by decide))).mpr (.inl (by decide))

/-- The ID 0x20494420 is admitted, and its frames are read as if for another node. -/
theorem swarm_addressing_fails : ¬∀ (s : UInt32) (calls : List FramerCall) (t u : FramerState)
    (call : FramerCall) (f pre post : List UInt8) (buf : FwBuffer), setDeviceID s = some s →
    run FramerState.step ⟨.init s, [], []⟩ calls = some t → t.step call = some u →
    u.framedOut = t.framedOut ++ [f] → ¬[tagI, tagD] <:+: pre → buf.Holds (pre ++ f ++ post) →
    (headerScan buf).receiverID = latestDest broadcastID calls := fun h =>
  absurd (h 0x20494420 [] ⟨.init 0x20494420, [], []⟩
    ⟨.init 0x20494420, [idEntry 0x20494420 ++ idEntry broadcastID], []⟩ (.portIn [] 12)
    (idEntry 0x20494420 ++ idEntry broadcastID) [] [] _ (by decide) (by decide) (by decide)
    (by decide) (by decide) (FwBuffer.holds_ofBytes (by decide))) (by decide)

end MeshNetwork.Node
