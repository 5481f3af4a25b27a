import MeshNetwork.Node.BufferOwnership

namespace MeshNetwork.Node

open Driver

/-- Two tags, and the four ID bytes of the second one inside the buffer. -/
def WellFormed (b : FwBuffer) : Prop := ∃ i j, FirstTags b i j ∧ j + 6 ≤ b.size.toNat

def Inside (b : FwBuffer) (positions : List Nat) : Prop := ∀ q ∈ positions, q < b.size.toNat

/-- The send path accepts exactly its header grammar: it reads inside the buffer, and a buffer
that is not well formed is not sent, closes nothing and is an error. -/
structure AcceptsGrammar (b : FwBuffer) (ops : List SendOp) (result : Option SendStatus) :
    Prop where
  inside : ∀ positions, .readBytes positions ∈ ops → Inside b positions
  refuses : ¬WellFormed b → (∀ i frame dest, .send i frame dest ∉ ops) ∧
    (∀ i, .close i ∉ ops) ∧ result = some .sendError

section scan

variable {b : FwBuffer}

/-- After an `'I'` the scan looks one byte ahead. -/
def LooksInside (b : FwBuffer) (i : Nat) : Prop := b.byte i = tagI → i + 1 < b.size.toNat

theorem inside_append (is js : List Nat) :
    Inside b (is ++ js) ↔ Inside b is ∧ Inside b js := List.forall_mem_append

/-- One position of the scan, unless a second tag is there. -/
theorem inside_step {n i : Nat} {r : UInt32} (hi : i < b.size.toNat)
    (h : ¬(TagAt b i ∧ r ≠ 0)) : Inside b (scanLoop b (n + 1) i r).reads ↔
      LooksInside b i ∧
        Inside b (scanLoop b n (i + 1) (if TagAt b i then 1 else r)).reads := by
  rw [scanLoop]
  by_cases hI : b.byte i = tagI
  · have hlook : LooksInside b i ↔ Inside b [i, i + 1] := by simp [LooksInside, Inside, hI, hi]
    by_cases hD : b.byte (i + 1) = tagD
    · have htag : TagAt b i := ⟨hI, hD⟩
      obtain rfl : r = 0 := by
        by_contra hr
        exact h ⟨htag, hr⟩
      rw [if_pos hI, if_pos hD, if_pos rfl, if_pos htag, hlook]
      exact inside_append _ _
    · have htag : ¬TagAt b i := fun ht => hD ht.2
      rw [if_pos hI, if_neg hD, if_neg htag, hlook]
      exact inside_append _ _
  · have hlook : LooksInside b i ↔ Inside b [i] := by simp [LooksInside, Inside, hI, hi]
    have htag : ¬TagAt b i := fun ht => hI ht.1
    rw [if_neg hI, if_neg htag, hlook]
    exact inside_append _ _

/-- A stretch without a tag. -/
theorem inside_skip (b : FwBuffer) (m n i : Nat) (r : UInt32) (hend : i + m ≤ b.size.toNat)
    (h : ∀ k, i ≤ k → k < i + m → ¬TagAt b k) :
    Inside b (scanLoop b (m + n) i r).reads ↔
      (∀ k, i ≤ k → k < i + m → LooksInside b k) ∧
        Inside b (scanLoop b n (i + m) r).reads := by
  induction m generalizing i with
  | zero =>
    have hnone : ∀ k, i ≤ k → k < i + 0 → LooksInside b k := by
      intro k hk hk'
      omega
    rw [Nat.zero_add, Nat.add_zero]
    exact ⟨fun hin => ⟨hnone, hin⟩, And.right⟩
  | succ m ih =>
    have hno : ¬TagAt b i := h i le_rfl (by omega)
    have hstep := inside_step (b := b) (n := m + n) (r := r) (by omega) fun ht => hno ht.1
    rw [if_neg hno] at hstep
    have hrest := ih (i + 1) (by omega) (by
      intro k hk hk'
      exact h k (by omega) (by omega))
    have hfuel : m + 1 + n = m + n + 1 := by omega
    have hnext : i + (m + 1) = i + 1 + m := by omega
    rw [hfuel, hstep, hrest, hnext, ← and_assoc]
    refine and_congr_left fun _ => ?_
    constructor
    · intro hlook k hk hk'
      rcases Nat.eq_or_lt_of_le hk with rfl | hlt
      · exact hlook.1
      · exact hlook.2 k hlt hk'
    · intro hlook
      exact ⟨hlook i le_rfl (by omega), fun k hk hk' => hlook k (by omega) hk'⟩

/-- With two tags the scan stops behind the ID of the second one. -/
theorem headerScan_inside_tags {i j : Nat} (h : FirstTags b i j) :
    Inside b (headerScan b).reads ↔ j + 6 ≤ b.size.toNat := by
  obtain ⟨hij, hj, hti, htj, honly⟩ := h
  have hskip := inside_skip b i (b.size.toNat - i - 1 + 1) 0 0 (by omega) (by
    intro k _ hk ht
    have hki := honly k (by omega) ht
    omega)
  have hfirst := inside_step (n := j - i - 1 + (b.size.toNat - j - 1 + 1)) (r := 0)
    (show i < b.size.toNat by omega) (by simp)
  have hrest := inside_skip b (j - i - 1) (b.size.toNat - j - 1 + 1) (i + 1) 1 (by omega) (by
    intro k hk hk' ht
    have hki := honly k (by omega) ht
    omega)
  have hsize : b.size.toNat = i + (b.size.toNat - i - 1 + 1) := by omega
  have hleft : b.size.toNat - i - 1 = j - i - 1 + (b.size.toNat - j - 1 + 1) := by omega
  have hlast : i + 1 + (j - i - 1) = j := by omega
  have hstop : Inside b (scanLoop b (b.size.toNat - j - 1 + 1) j 1).reads ↔
      j + 6 ≤ b.size.toNat := by
    rw [scanLoop, if_pos htj.1, if_pos htj.2, if_neg (by decide)]
    constructor
    · intro hin
      exact hin (j + 5) (by simp)
    · intro hin q hq
      have hq' : q ≤ j + 5 := by
        simp at hq
        omega
      omega
  rw [if_pos hti, hrest, hlast, hstop] at hfirst
  rw [Nat.zero_add, hleft, hfirst] at hskip
  rw [headerScan]
  nth_rewrite 1 [hsize]
  rw [hleft, hskip]
  constructor
  · intro hlook
    exact hlook.2.2.2
  · intro hin
    exact ⟨fun k _ hk _ => by omega, fun _ => by omega, fun k _ hk _ => by omega, hin⟩

end scan

section calls

variable (env : SendEnv) (p : ClientSide)

/-- What the header costs in reads: the scan, and one or two bytes where it has stopped. -/
theorem readHeader_inside (b : FwBuffer) :
    (∀ positions, .readBytes positions ∈ (readHeader b).trace (perform env) p →
        Inside b positions) ↔
      Inside b (headerScan b).reads ∧ (headerScan b).index < b.size.toNat ∧
        (b.byte (headerScan b).index ≠ tagI → (headerScan b).index + 1 < b.size.toNat) := by
  by_cases hi : b.byte (headerScan b).index = tagI
  · have htrace : (readHeader b).trace (perform env) p =
        [.readBytes (headerScan b).reads, .readBytes [(headerScan b).index]] := by
      simp [readHeader, checkHeader, SendM.readBytes, hi]
    rw [htrace]
    simp [Inside, hi]
  · have htrace : ∃ post, (readHeader b).trace (perform env) p =
        .readBytes (headerScan b).reads ::
          .readBytes [(headerScan b).index, (headerScan b).index + 1] :: post ∧
        ∀ positions, .readBytes positions ∉ post := by
      by_cases hd : b.byte ((headerScan b).index + 1) = tagD
      · exact ⟨[], by simp [readHeader, checkHeader, SendM.readBytes, hi, hd], by simp⟩
      · exact ⟨[.deallocateOut], by simp [readHeader, checkHeader, SendM.readBytes,
          SendM.deallocateOut, hi, hd], by simp⟩
    obtain ⟨post, htrace, hpost⟩ := htrace
    rw [htrace]
    simp [Inside, hi, hpost]

/-- Behind the header no byte is looked at. -/
theorem unicast_no_reads (frame : List UInt8) (receiverID : UInt32) (positions : List Nat) :
    .readBytes positions ∉ (unicast frame receiverID).trace (perform env) p := by
  have hafter (status : SocketIpStatus) (epipe : Bool) (q : ClientSide) :
      .readBytes positions ∉ (afterUnicast receiverID status epipe).trace (perform env) q := by
    have hcalls : (afterUnicast receiverID status epipe).Calls Answers
        (· ≠ .readBytes positions) :=
      afterUnicast_calls (by simp) (by simp) status epipe
    intro h
    exact Prog.trace_calls (perform_answers env) hcalls _ h rfl
  rw [unicast_trace]
  split
  · simp
  · split_ifs
    · cases p.manager.getSocketHandlerByID receiverID with
      | none => simp
      | some i => simp [hafter]
    · simp
  · simp

theorem sendHandler_no_reads (unset : SocketIpStatus) (b : FwBuffer) (positions : List Nat) :
    .readBytes positions ∈ (sendHandler true unset b).trace (perform env) p ↔
      .readBytes positions ∈ (readHeader b).trace (perform env) p := by
  have hloop : .readBytes positions ∉
      (broadcast b.contents unset (List.finRange maxClients)).trace (perform env) p := by
    have hcalls : (broadcast b.contents unset (List.finRange maxClients)).Calls Answers
        (· ≠ .readBytes positions) :=
      broadcast_calls (by simp) (by simp) (by simp) (by simp) unset _
    intro h
    exact Prog.trace_calls (perform_answers env) hcalls _ h rfl
  have hone := unicast_no_reads env p b.contents (headerScan b).receiverID positions
  simp only [sendHandler, if_true, Prog.trace_bind, readHeader_exec, List.mem_append]
  refine or_iff_left ?_
  split_ifs
  · rw [sendToAll_trace, List.mem_append]
    split_ifs
    · simp [hloop]
    · simp [hloop]
  · exact hone

/-- Without a second tag the ID that the scan leaves is 0 or 1. The frame goes the unicast way, and
the lookup in the table is as far as it gets. -/
theorem sendHandler_single {b : FwBuffer} (h : NoTag b ∨ ∃ i, OnlyTag b i)
    (unset : SocketIpStatus) : ((sendHandler true unset b).exec (perform env) p).1 = none := by
  obtain ⟨hbc, hno⟩ := receiverID_outside h
  simp only [sendHandler, if_true, Prog.exec_bind, readHeader_exec, if_neg hbc]
  rw [unicast_result, checkAdjacencyMatrix_eq_none_iff.mpr hno]

end calls

variable (env : SendEnv) (p : ClientSide)

/-- The send path accepts exactly its grammar on the buffers with a well-formed header: with the ID
of the second tag cut off it reads behind the buffer, and without a second tag it does not get to
its answer. -/
theorem header_grammar (unset : SocketIpStatus) (b : FwBuffer) :
    AcceptsGrammar b ((sendHandler true unset b).trace (perform env) p)
        ((sendHandler true unset b).exec (perform env) p).1 ↔ WellFormed b := by
  constructor
  · intro hg
    by_contra hno
    have hlost (h : NoTag b ∨ ∃ i, OnlyTag b i) : False := by
      have hanswer := (hg.refuses hno).2.2
      rw [sendHandler_single env p h] at hanswer
      cases hanswer
    rcases tags_cases b with h | h | ⟨i, j, h⟩
    · exact hlost (.inl h)
    · exact hlost (.inr h)
    · have hin := hg.inside
      simp only [sendHandler_no_reads] at hin
      have hreads := ((readHeader_inside env p b).mp hin).1
      exact hno ⟨i, j, h, (headerScan_inside_tags h).mp hreads⟩
  · intro hwell
    refine ⟨?_, fun hno => absurd hwell hno⟩
    obtain ⟨i, j, h, hend⟩ := hwell
    have hindex : (headerScan b).index = j := congrArg Prod.snd (headerScan_firstTags h)
    simp only [sendHandler_no_reads]
    rw [readHeader_inside, hindex]
    refine ⟨(headerScan_inside_tags h).mpr hend, h.2.1, ?_⟩
    intro hI
    exact absurd h.2.2.2.1.1 hI

/-- An empty buffer: the test of the header reads two bytes that it does not have. -/
theorem header_grammar_fails : ¬∀ (unset : SocketIpStatus) (b : FwBuffer) (env : SendEnv)
    (p : ClientSide), AcceptsGrammar b ((sendHandler true unset b).trace (perform env) p)
      ((sendHandler true unset b).exec (perform env) p).1 := by
  intro h
  have hin := (h .success (.ofBytes []) {} { deviceID := baseID }).inside [0, 1] (by decide)
  exact absurd (hin 0 (by simp)) (by decide)

end MeshNetwork.Node
