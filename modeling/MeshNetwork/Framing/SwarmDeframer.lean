import MeshNetwork.Framing.SwarmFramer
import MeshNetwork.Driver.HeaderScan

namespace MeshNetwork.Framing

open Driver (FwBuffer)

/-- What framedIn_handler does with its buffer: the bytes it looks at and the calls it makes. The
wrapper that portOut hands on presents `size` bytes from `offset` on. -/
inductive DeframerOp where
  | read (i : Nat)
  | tlmWritePacketFromNode (sourceNodeID : UInt32)
  | portOut (offset : Nat) (size : UInt32)
  | framedDeallocate
  deriving DecidableEq, Repr

namespace SwarmDeframer

/-- Comparisons joined by `&&`: the positions that are read, and whether all of them hold. -/
def confirm (b : FwBuffer) : List (Nat × UInt8) → List Nat × Bool
  | [] => ([], true)
  | (i, c) :: rest =>
    if b.data i = c then (i :: (confirm b rest).1, (confirm b rest).2) else ([i], false)

/-- The source ID of the header, bytes 2 to 5. -/
def sourceNodeID (b : FwBuffer) : UInt32 :=
  ((b.data 2).toUInt32 <<< 24) ||| ((b.data 3).toUInt32 <<< 16) |||
    ((b.data 4).toUInt32 <<< 8) ||| (b.data 5).toUInt32

/-- `framedIn_handler`: what it does, in order. The size of the payload is taken off a U32 before
anything is known of the buffer. -/
def framedIn (b : FwBuffer) : List DeframerOp :=
  let size := b.size - 12
  let (reads, confirmed) := confirm b [(0, tagI), (6, tagI), (1, tagD), (7, tagD)]
  reads.map .read ++
    (if confirmed then
      [.read 2, .read 3, .read 4, .read 5, .tlmWritePacketFromNode (sourceNodeID b),
        .portOut 12 size]
    else []) ++
    [.framedDeallocate]

/-- The bytes that a call of portOut hands on. -/
def presented (b : FwBuffer) : DeframerOp → Option (List UInt8)
  | .portOut offset size => some ((List.range size.toNat).map fun k => b.data (offset + k))
  | _ => none

/-- The source node that a call reports. -/
def reported : DeframerOp → Option UInt32
  | .tlmWritePacketFromNode sourceNodeID => some sourceNodeID
  | _ => none

end SwarmDeframer

/-- A swarm header and its payload. -/
structure IsSwarmFrame (b : FwBuffer) : Prop where
  size : 12 ≤ b.size.toNat
  source : b.data 0 = tagI ∧ b.data 1 = tagD
  dest : b.data 6 = tagI ∧ b.data 7 = tagD

/-- The deframer accepts exactly the swarm frames, and stays inside the buffer. -/
structure AcceptsExactly (b : FwBuffer) (ops : List DeframerOp) : Prop where
  inside : ∀ i, .read i ∈ ops → i < b.size.toNat
  accepts : (∃ offset size, .portOut offset size ∈ ops) ↔ IsSwarmFrame b
  payload : ∀ offset size, .portOut offset size ∈ ops → offset + size.toNat ≤ b.size.toNat
  released : ops.count .framedDeallocate = 1

/-- The buffer has a whole header, or one of its bytes rules a header out before the comparisons
leave the buffer. -/
def HeaderDecided (b : FwBuffer) : Prop :=
  12 ≤ b.size.toNat ∨
    1 ≤ b.size.toNat ∧ b.data 0 ≠ tagI ∨
    7 ≤ b.size.toNat ∧ (b.data 6 ≠ tagI ∨ b.data 1 ≠ tagD) ∨
    8 ≤ b.size.toNat ∧ b.data 7 ≠ tagD

namespace SwarmDeframer

variable {b : FwBuffer}

/-- What a refusal does. -/
theorem acceptsExactly_refused (reads : List Nat) :
    AcceptsExactly b (reads.map .read ++ [.framedDeallocate]) ↔
      ¬IsSwarmFrame b ∧ ∀ i ∈ reads, i < b.size.toNat := by
  have hcount : (reads.map DeframerOp.read).count .framedDeallocate = 0 := by
    apply List.count_eq_zero.mpr
    simp
  constructor
  · intro h
    constructor
    · intro hb
      obtain ⟨offset, size, hmem⟩ := h.accepts.mpr hb
      simp at hmem
    · intro i hi
      exact h.inside i (by simp [hi])
  · intro h
    refine ⟨?_, ?_, by simp, by simp [hcount]⟩
    · intro i hi
      exact h.2 i (by simpa using hi)
    · exact iff_of_false (by simp) h.1

/-- What an acceptance does. -/
theorem acceptsExactly_accepted (reads : List Nat) (sourceNodeID size : UInt32) :
    AcceptsExactly b (reads.map .read ++
        [.tlmWritePacketFromNode sourceNodeID, .portOut 12 size, .framedDeallocate]) ↔
      IsSwarmFrame b ∧ (∀ i ∈ reads, i < b.size.toNat) ∧ 12 + size.toNat ≤ b.size.toNat := by
  have hcount : (reads.map DeframerOp.read).count .framedDeallocate = 0 := by
    apply List.count_eq_zero.mpr
    simp
  constructor
  · intro h
    refine ⟨h.accepts.mp ⟨12, size, by simp⟩, ?_, h.payload 12 size (by simp)⟩
    intro i hi
    exact h.inside i (by simp [hi])
  · intro h
    refine ⟨?_, iff_of_true ⟨12, size, by simp⟩ h.1, ?_, by simp [hcount]⟩
    · intro i hi
      exact h.2.1 i (by simpa using hi)
    · intro offset size' hmem
      obtain ⟨rfl, rfl⟩ : offset = 12 ∧ size' = size := by simpa using hmem
      exact h.2.2

/-- With the four letters in place the payload is handed on, whatever the size. -/
theorem framedIn_accepted (h0 : b.data 0 = tagI) (h6 : b.data 6 = tagI) (h1 : b.data 1 = tagD)
    (h7 : b.data 7 = tagD) : framedIn b = [0, 6, 1, 7, 2, 3, 4, 5].map .read ++
      [.tlmWritePacketFromNode (sourceNodeID b), .portOut 12 (b.size - 12), .framedDeallocate] := by
  simp [framedIn, confirm, h0, h6, h1, h7]

/-- The subtraction wraps for exactly the buffers that are too short. -/
theorem payload_fits : 12 + (b.size - 12).toNat ≤ b.size.toNat ↔ 12 ≤ b.size.toNat := by
  have hsize := b.size.toNat_lt
  rw [UInt32.toNat_sub]
  change 12 + (2 ^ 32 - 12 + b.size.toNat) % 2 ^ 32 ≤ _ ↔ _
  omega

/-- The deframer does what it should on exactly the buffers whose header is decided inside. -/
theorem framedIn_acceptsExactly (b : FwBuffer) :
    AcceptsExactly b (framedIn b) ↔ HeaderDecided b := by
  by_cases h0 : b.data 0 = tagI
  · by_cases h6 : b.data 6 = tagI
    · by_cases h1 : b.data 1 = tagD
      · by_cases h7 : b.data 7 = tagD
        · rw [framedIn_accepted h0 h6 h1 h7, acceptsExactly_accepted, payload_fits]
          constructor
          · intro h
            exact .inl h.2.2
          · intro h
            have hsize : 12 ≤ b.size.toNat := by simpa [HeaderDecided, h0, h6, h1, h7] using h
            refine ⟨⟨hsize, ⟨h0, h1⟩, ⟨h6, h7⟩⟩, ?_, hsize⟩
            intro i hi
            simp at hi
            omega
        · have hops : framedIn b = [0, 6, 1, 7].map .read ++ [.framedDeallocate] := by
            simp [framedIn, confirm, h0, h6, h1, h7]
          have hno : ¬IsSwarmFrame b := fun h => h7 h.dest.2
          rw [hops, acceptsExactly_refused]
          simp [hno, HeaderDecided, h0, h6, h1, h7]
          omega
      · have hops : framedIn b = [0, 6, 1].map .read ++ [.framedDeallocate] := by
          simp [framedIn, confirm, h0, h6, h1]
        have hno : ¬IsSwarmFrame b := fun h => h1 h.source.2
        rw [hops, acceptsExactly_refused]
        simp [hno, HeaderDecided, h0, h6, h1]
        omega
    · have hops : framedIn b = [0, 6].map .read ++ [.framedDeallocate] := by
        simp [framedIn, confirm, h0, h6]
      have hno : ¬IsSwarmFrame b := fun h => h6 h.dest.1
      rw [hops, acceptsExactly_refused]
      simp [hno, HeaderDecided, h0, h6]
      omega
  · have hops : framedIn b = [0].map .read ++ [.framedDeallocate] := by
      simp [framedIn, confirm, h0]
    have hno : ¬IsSwarmFrame b := fun h => h0 h.source.1
    rw [hops, acceptsExactly_refused]
    simp [hno, HeaderDecided, h0]
    omega

/-- Eight bytes with both tags and no room for an ID: portOut is called for 2^32 - 4 bytes. -/
theorem framedIn_acceptsExactly_fails : ¬∀ b, AcceptsExactly b (framedIn b) := by
  intro h
  have hops := (h (FwBuffer.ofBytes [0x49, 0x44, 0x20, 0x20, 0x20, 0x21, 0x49, 0x44])).payload
    12 4294967292 (by decide)
  exact absurd hops (by decide)

end SwarmDeframer

end MeshNetwork.Framing
