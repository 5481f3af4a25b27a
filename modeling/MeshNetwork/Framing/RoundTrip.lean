import MeshNetwork.Framing.SwarmDeframer

namespace MeshNetwork.Framing

open Driver (FwBuffer)

theorem serialize_room {cap : Nat} {buf data : List UInt8} (h : buf.length + data.length ≤ cap) :
    serialize cap buf data = some (buf ++ data) := if_pos h

/-- With room for header and data the frame is handed out. -/
theorem SwarmFramer.frame_room (f : SwarmFramer) {data : List UInt8} {cap : UInt32}
    (h : data.length + 12 ≤ cap.toNat) :
    f.frame data cap = some (idEntry f.nodeSourceId ++ idEntry f.nodeDestId ++ data) := by
  have hsource : serialize cap.toNat [] (idEntry f.nodeSourceId) =
      some ([] ++ idEntry f.nodeSourceId) := by
    apply serialize_room
    simp
    omega
  have hdest : serialize cap.toNat ([] ++ idEntry f.nodeSourceId) (idEntry f.nodeDestId) =
      some ([] ++ idEntry f.nodeSourceId ++ idEntry f.nodeDestId) := by
    apply serialize_room
    simp
    omega
  have hdata : serialize cap.toNat ([] ++ idEntry f.nodeSourceId ++ idEntry f.nodeDestId) data =
      some ([] ++ idEntry f.nodeSourceId ++ idEntry f.nodeDestId ++ data) := by
    apply serialize_room
    simp
    omega
  have hout : ∃ out, f.frame data cap = some out := by
    unfold SwarmFramer.frame
    simp only [hsource, hdest, hdata, Option.bind_eq_bind, Option.bind_some, Option.pure_def,
      Option.some.injEq, exists_eq']
  obtain ⟨out, hout⟩ := hout
  rw [hout, SwarmFramer.frame_eq hout]

section decode

variable {b : FwBuffer} {s d : UInt32} {p : List UInt8}

/-- A buffer that holds a frame has header and payload where the deframer looks for them. -/
theorem holds_frame (h : b.Holds (idEntry s ++ idEntry d ++ p)) :
    IsSwarmFrame b ∧ SwarmDeframer.sourceNodeID b = s ∧ (b.size - 12).toNat = p.length ∧
      ∀ k (hk : k < p.length), b.data (12 + k) = p[k] := by
  obtain ⟨hsize, hdata⟩ := h
  have hlen : (idEntry s ++ idEntry d ++ p).length = 12 + p.length := by
    simp
    omega
  have hat (i : Nat) (hi : i < 12 + p.length) :
      b.data i = (idEntry s ++ idEntry d ++ p)[i] := hdata i (by omega)
  rw [hlen] at hsize
  refine ⟨⟨by omega, ⟨?_, ?_⟩, ?_, ?_⟩, ?_, ?_, ?_⟩
  · rw [hat 0 (by omega)]
    rfl
  · rw [hat 1 (by omega)]
    rfl
  · rw [hat 6 (by omega)]
    rfl
  · rw [hat 7 (by omega)]
    rfl
  · rw [SwarmDeframer.sourceNodeID, ofBigEndian_or, hat 2 (by omega), hat 3 (by omega),
      hat 4 (by omega), hat 5 (by omega)]
    simp only [idEntry_eq]
    exact ofBigEndian_bigEndian s
  · rw [UInt32.toNat_sub_of_le _ _ (by rw [UInt32.le_iff_toNat_le, hsize]; simp), hsize]
    simp
  · intro k hk
    rw [hat (12 + k) (by omega), List.getElem_append_right (by simp)]
    simp

/-- Frame, then deframe. The buffer that a successful frame hands out, in whatever memory it lies,
yields one call of portOut with the payload, the source node and one deallocation. -/
theorem framedIn_frame (s d : UInt32) (p : List UInt8) (cap : UInt32)
    (hcap : p.length + 12 ≤ cap.toNat) :
    ∃ f, (SwarmFramer.mk s d).frame p cap = some f ∧ ∀ b : FwBuffer, b.Holds f →
      (SwarmDeframer.framedIn b).filterMap (SwarmDeframer.presented b) = [p] ∧
        (SwarmDeframer.framedIn b).filterMap SwarmDeframer.reported = [s] ∧
        (SwarmDeframer.framedIn b).count .framedDeallocate = 1 := by
  refine ⟨_, SwarmFramer.frame_room ⟨s, d⟩ hcap, ?_⟩
  intro b hb
  obtain ⟨hframe, hsource, hsize, hpayload⟩ := holds_frame hb
  have hops := SwarmDeframer.framedIn_accepted hframe.source.1 hframe.dest.1 hframe.source.2
    hframe.dest.2
  have hbytes : (List.range (b.size - 12).toNat).map (fun k => b.data (12 + k)) = p := by
    apply List.ext_getElem
    · simp [hsize]
    · intro k _ hk
      simp [hpayload k hk]
  rw [hops, hsource]
  refine ⟨?_, ?_, ?_⟩
  · simp [List.filterMap_cons, SwarmDeframer.presented, hbytes]
  · simp [List.filterMap_cons, SwarmDeframer.reported]
  · simp

/-- A payload that looks like a header, from a node whose ID has the top bit set. -/
theorem framedIn_frame_ID : ∃ f, (SwarmFramer.mk 0xC9444944 0x49444944).frame
    [0x49, 0x44, 0x49, 0x44] 16 = some f ∧ ∀ b : FwBuffer, b.Holds f →
      (SwarmDeframer.framedIn b).filterMap (SwarmDeframer.presented b) =
          [[0x49, 0x44, 0x49, 0x44]] ∧
        (SwarmDeframer.framedIn b).filterMap SwarmDeframer.reported = [0xC9444944] ∧
        (SwarmDeframer.framedIn b).count .framedDeallocate = 1 :=
  framedIn_frame 0xC9444944 0x49444944 [0x49, 0x44, 0x49, 0x44] 16 (by decide)

end decode

end MeshNetwork.Framing
