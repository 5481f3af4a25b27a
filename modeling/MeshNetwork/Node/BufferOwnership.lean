import MeshNetwork.Node.BroadcastRounds

namespace MeshNetwork.Node

open Driver

/-- The calls that look at the bytes of the buffer. -/
def UsesBuffer : SendOp → Prop
  | .readBytes _ => True
  | .send _ _ _ => True
  | _ => False

instance : DecidablePred UsesBuffer := fun o => by
  cases o <;> unfold UsesBuffer <;> infer_instance

/-- The buffer is given back exactly once and not used from then on. -/
def ReleasedOnce (ops : List SendOp) : Prop :=
  ops.count .deallocateOut = 1 ∧
    ∀ o ∈ (ops.dropWhile (· ≠ .deallocateOut)).tail, ¬UsesBuffer o

instance (ops : List SendOp) : Decidable (ReleasedOnce ops) :=
  inferInstanceAs (Decidable (_ ∧ _))

theorem releasedOnce_append {pre ops : List SendOp} (h : .deallocateOut ∉ pre) :
    ReleasedOnce (pre ++ ops) ↔ ReleasedOnce ops := by
  have hall : ∀ o ∈ pre, decide (o ≠ .deallocateOut) = true := by
    intro o ho
    apply decide_eq_true
    intro he
    exact h (he ▸ ho)
  rw [ReleasedOnce, ReleasedOnce, List.count_append, List.count_eq_zero.mpr h, Nat.zero_add,
    List.dropWhile_append_of_pos hall]

theorem releasedOnce_cons (post : List SendOp) : ReleasedOnce (.deallocateOut :: post) ↔
    .deallocateOut ∉ post ∧ ∀ o ∈ post, ¬UsesBuffer o := by
  rw [ReleasedOnce, List.count_cons_self, Nat.add_eq_right, List.count_eq_zero]
  simp

/-- Without two tags the buffer has no destination, and it is refused when both of its first
bytes are wrong. -/
def BadHeader (b : FwBuffer) : Prop :=
  (NoTag b ∨ ∃ i, OnlyTag b i) ∧ b.byte 0 ≠ tagI ∧ b.byte 1 ≠ tagD

section header

variable {b : FwBuffer}

theorem not_bad_of_firstTags {i j : Nat} (h : FirstTags b i j) :
    ¬(b.byte (headerScan b).index ≠ tagI ∧ b.byte ((headerScan b).index + 1) ≠ tagD) := by
  have hindex : (headerScan b).index = j := congrArg Prod.snd (headerScan_firstTags h)
  have htag : b.byte j = tagI := h.2.2.2.1.1
  rw [hindex, htag]
  simp

theorem not_firstTags_of_noTag (h : NoTag b) (i j : Nat) : ¬FirstTags b i j := by
  intro htags
  obtain ⟨-, hj, -, htag, -⟩ := htags
  exact h j hj htag

theorem not_firstTags_of_onlyTag {k : Nat} (h : OnlyTag b k) (i j : Nat) : ¬FirstTags b i j := by
  intro htags
  obtain ⟨hij, hj, hti, htj, -⟩ := htags
  have hi := h.2.2 i (by omega) hti
  have hj := h.2.2 j hj htj
  omega

/-- The refusing branch is taken for the bad headers. -/
theorem badHeader_iff (b : FwBuffer) : BadHeader b ↔
    b.byte (headerScan b).index ≠ tagI ∧ b.byte ((headerScan b).index + 1) ≠ tagD := by
  rcases tags_cases b with h | ⟨i, h⟩ | ⟨i, j, h⟩
  · have hindex : (headerScan b).index = 0 := congrArg Prod.snd (headerScan_noTag h)
    rw [hindex]
    exact ⟨fun hb => hb.2, fun hb => ⟨.inl h, hb⟩⟩
  · have hindex : (headerScan b).index = 0 := congrArg Prod.snd (headerScan_onlyTag h)
    rw [hindex]
    exact ⟨fun hb => hb.2, fun hb => ⟨.inr ⟨i, h⟩, hb⟩⟩
  · refine iff_of_false ?_ (not_bad_of_firstTags h)
    intro hbad
    rcases hbad with ⟨hn | ⟨k, ho⟩, -⟩
    · exact not_firstTags_of_noTag hn i j h
    · exact not_firstTags_of_onlyTag ho i j h

/-- Without two tags the scan leaves 0 or 1, which is no node of the table. -/
theorem receiverID_outside (h : NoTag b ∨ ∃ i, OnlyTag b i) :
    (headerScan b).receiverID ≠ broadcastID ∧ ¬HasEntry (headerScan b).receiverID := by
  rcases h with hn | ⟨i, ho⟩
  · have hid : (headerScan b).receiverID = 0 := congrArg Prod.fst (headerScan_noTag hn)
    rw [hid]
    decide
  · have hid : (headerScan b).receiverID = 1 := congrArg Prod.fst (headerScan_onlyTag ho)
    rw [hid]
    decide

end header

variable (env : SendEnv) (p : ClientSide)

/-- The header is read before anything else; refused, it costs a release. -/
theorem readHeader_trace (b : FwBuffer) : ∃ pre, .deallocateOut ∉ pre ∧
    ((readHeader b).trace (perform env) p = pre ∧ ¬BadHeader b ∨
      (readHeader b).trace (perform env) p = pre ++ [.deallocateOut] ∧ BadHeader b) := by
  rw [badHeader_iff]
  by_cases hi : b.byte (headerScan b).index ≠ tagI
  · refine ⟨[.readBytes (headerScan b).reads,
      .readBytes [(headerScan b).index, (headerScan b).index + 1]], by simp, ?_⟩
    by_cases hd : b.byte ((headerScan b).index + 1) ≠ tagD
    · exact .inr ⟨by simp [readHeader, checkHeader, SendM.readBytes, SendM.deallocateOut, hi, hd],
        hi, hd⟩
    · exact .inl ⟨by simp [readHeader, checkHeader, SendM.readBytes, hi, hd], fun h => hd h.2⟩
  · exact ⟨[.readBytes (headerScan b).reads, .readBytes [(headerScan b).index]], by simp,
      .inl ⟨by simp [readHeader, checkHeader, SendM.readBytes, hi], fun h => hi h.1⟩⟩

/-- The unicast branch releases the buffer as it should unless the lookup in the table ends it. -/
theorem unicast_releasedOnce (frame : List UInt8) (receiverID : UInt32) :
    ReleasedOnce ((unicast frame receiverID).trace (perform env) p) ↔ HasEntry receiverID := by
  have hrelease (pre : List SendOp) {post : List SendOp} (hpre : .deallocateOut ∉ pre)
      (hpost : ∀ o ∈ post, o ≠ .deallocateOut ∧ ¬UsesBuffer o) :
      ReleasedOnce (pre ++ .deallocateOut :: post) := by
    rw [releasedOnce_append hpre, releasedOnce_cons]
    exact ⟨fun hm => (hpost _ hm).1 rfl, fun o ho => (hpost o ho).2⟩
  rw [unicast_trace]
  rcases ha : (checkAdjacencyMatrix p.deviceID (env.mask none) p.adjM receiverID).1 with _ | _ | _
  · refine iff_of_false ?_ (checkAdjacencyMatrix_eq_none_iff.mp ha)
    simp [ReleasedOnce]
  · refine iff_of_true ?_ (hasEntry_of_answer ha)
    exact hrelease [.checkAdjacencyMatrix none receiverID] (by simp) (by simp)
  · refine iff_of_true ?_ (hasEntry_of_answer ha)
    cases hc : p.manager.checkIfAlreadyConnected receiverID with
    | false =>
      exact hrelease [.checkAdjacencyMatrix none receiverID,
        .checkIfAlreadyConnected receiverID] (by simp) (by simp)
    | true =>
      have h0 : receiverID ≠ 0 := by
        intro h0
        subst h0
        exact absurd (hasEntry_of_answer ha) (by decide)
      obtain ⟨i, hi⟩ : ∃ i, p.manager.getSocketHandlerByID receiverID = some i := ⟨_, if_neg h0⟩
      have hcalls (status : SocketIpStatus) (epipe : Bool) :
          (afterUnicast receiverID status epipe).Calls Answers
            (fun o => o ≠ .deallocateOut ∧ ¬UsesBuffer o) :=
        afterUnicast_calls ⟨by simp, id⟩ (fun _ => ⟨by simp, id⟩) status epipe
      simp only [if_true, hi]
      exact hrelease [.checkAdjacencyMatrix none receiverID,
        .checkIfAlreadyConnected receiverID, .getSocketHandlerByID receiverID,
        .send i frame receiverID] (by simp)
        (Prog.trace_calls (perform_answers env) (hcalls _ _))

/-- So does the branch for the broadcast ID. -/
theorem sendToAll_releasedOnce (frame : List UInt8) (unset : SocketIpStatus) :
    ReleasedOnce ((sendToAll frame unset).trace (perform env) p) ↔
      DestinationsInTable p broadcastID := by
  have hcalls : (broadcast frame unset (List.finRange maxClients)).Calls Answers
      (· ≠ .deallocateOut) :=
    broadcast_calls (by simp) (by simp) (by simp) (by simp) unset _
  have hloop : .deallocateOut ∉
      (broadcast frame unset (List.finRange maxClients)).trace (perform env) p :=
    fun hm => Prog.trace_calls (perform_answers env) hcalls _ hm rfl
  rw [sendToAll_trace, releasedOnce_append hloop]
  split_ifs with hin
  · exact iff_of_true ((releasedOnce_cons []).mpr ⟨by simp, by simp⟩) hin
  · exact iff_of_false (by simp [ReleasedOnce]) hin

/-- Buffer ownership. One call gives the buffer back once and leaves it alone afterwards if and
only if the header is refused or the table has entries for the destinations. A refused header is a
release, and no second one: it leaves no destination that the call could get past. -/
theorem buffer_ownership (unset : SocketIpStatus) (b : FwBuffer) :
    ReleasedOnce ((sendHandler true unset b).trace (perform env) p) ↔
      BadHeader b ∨ DestinationsInTable p (headerScan b).receiverID := by
  obtain ⟨pre, hpre, hheader⟩ := readHeader_trace env p b
  simp only [sendHandler, if_true, Prog.trace_bind, readHeader_exec]
  obtain ⟨he, hgood⟩ | ⟨he, hbad⟩ := hheader <;> rw [he]
  · rw [releasedOnce_append hpre, or_iff_right hgood]
    by_cases hbc : (headerScan b).receiverID = broadcastID
    · rw [if_pos hbc, sendToAll_releasedOnce, hbc]
    · rw [if_neg hbc, unicast_releasedOnce, DestinationsInTable, if_neg hbc]
  · -- the lookup of 0 or 1 comes right behind the release
    obtain ⟨hbc, hno⟩ := receiverID_outside hbad.1
    refine iff_of_true ?_ (.inl hbad)
    rw [List.append_assoc, releasedOnce_append hpre, if_neg hbc, unicast_trace,
      checkAdjacencyMatrix_eq_none_iff.mpr hno]
    exact (releasedOnce_cons _).mpr ⟨by simp, by simp [UsesBuffer]⟩

/-- A frame for a node that the table has no entry for is never released. -/
theorem buffer_ownership_fails : ¬∀ (unset : SocketIpStatus) (b : FwBuffer) (p : ClientSide)
    (env : SendEnv), ReleasedOnce ((sendHandler true unset b).trace (perform env) p) := fun h =>
  absurd (h .success (.ofBytes (idEntry baseID ++ idEntry 1)) { deviceID := baseID } {})
    (by decide)

end MeshNetwork.Node
