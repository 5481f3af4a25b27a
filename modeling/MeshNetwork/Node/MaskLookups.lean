import MeshNetwork.Node.SendResults

namespace MeshNetwork.Node

open Driver

/-- A call of check_adjacency_matrix stays inside the table, and only an entry that is 1 lets a
frame through. -/
structure LookupSafe (env : SendEnv) (p : ClientSide) (site : Option (Fin maxClients))
    (ID : UInt32) : Prop where
  inside : ∀ k ∈ maskReads ID, k < maxClients
  allowed : (checkAdjacencyMatrix p.deviceID (env.mask site) p.adjM ID).1 = some true →
    ∃ k < maxClients, ID.toNat = baseID.toNat + k ∧
      (checkAdjacencyMatrix p.deviceID (env.mask site) p.adjM ID).2 k = 1

/-- All the lookups of a call, each in the state that it meets. -/
def LookupsSafe {α : Type} (env : SendEnv) (p : ClientSide) (call : SendM α) : Prop :=
  ∀ site ID q, (.checkAdjacencyMatrix site ID, q) ∈ call.visits (perform env) p →
    LookupSafe env q site ID

variable (env : SendEnv) (p : ClientSide)

theorem lookupSafe_iff (site : Option (Fin maxClients)) (ID : UInt32) :
    LookupSafe env p site ID ↔ HasEntry ID := by
  constructor
  · intro h
    exact (index_lt_iff ID).mp (h.inside _ (List.mem_singleton_self _))
  · intro h
    refine ⟨?_, ?_⟩
    · intro k hk
      rw [List.mem_singleton.mp hk]
      exact (index_lt_iff ID).mpr h
    · intro hallowed
      refine ⟨(ID - baseID).toNat, (index_lt_iff ID).mpr h, ?_, ?_⟩
      · rw [UInt32.toNat_sub_of_le _ _ (UInt32.le_iff_toNat_le.mpr h.1)]
        exact (Nat.add_sub_cancel' h.1).symm
      · simpa [checkAdjacencyMatrix, maskEntry, (index_lt_iff ID).mpr h] using hallowed

theorem lookupsSafe_iff {α : Type} (call : SendM α) : LookupsSafe env p call ↔
    ∀ site ID, .checkAdjacencyMatrix site ID ∈ call.trace (perform env) p → HasEntry ID := by
  constructor
  · intro h site ID ho
    obtain ⟨q, hq⟩ := Prog.mem_trace_iff.mp ho
    exact (lookupSafe_iff env q site ID).mp (h site ID q hq)
  · intro h site ID q hq
    exact (lookupSafe_iff env q site ID).mpr (h site ID (Prog.mem_trace_iff.mpr ⟨q, hq⟩))

/-- The header is read without a lookup. -/
theorem readHeader_lookups (b : FwBuffer) (site : Option (Fin maxClients)) (ID : UInt32) :
    .checkAdjacencyMatrix site ID ∉ (readHeader b).trace (perform env) p := by
  have hcalls : (readHeader b).Calls Answers fun o => ∀ s i, o ≠ .checkAdjacencyMatrix s i :=
    readHeader_calls (by simp) (by simp) b
  intro h
  exact Prog.trace_calls (perform_answers env) hcalls _ h site ID rfl

/-- The branch for one node looks its ID up, and nothing else. -/
theorem unicast_lookups (frame : List UInt8) (receiverID : UInt32)
    (site : Option (Fin maxClients)) (ID : UInt32) :
    .checkAdjacencyMatrix site ID ∈ (unicast frame receiverID).trace (perform env) p ↔
      site = none ∧ ID = receiverID := by
  have hafter (status : SocketIpStatus) (epipe : Bool) (q : ClientSide) :
      .checkAdjacencyMatrix site ID ∉ (afterUnicast receiverID status epipe).trace
        (perform env) q := by
    have hcalls : (afterUnicast receiverID status epipe).Calls Answers
        fun o => ∀ s i, o ≠ .checkAdjacencyMatrix s i :=
      afterUnicast_calls (by simp) (by simp) status epipe
    intro h
    exact Prog.trace_calls (perform_answers env) hcalls _ h site ID rfl
  rw [unicast_trace, List.mem_cons]
  constructor
  · intro h
    rcases h with he | h
    · simpa using he
    · exfalso
      split at h
      · simp at h
      · split_ifs at h
        · cases hg : p.manager.getSocketHandlerByID receiverID with
          | none => simp [hg] at h
          | some i =>
            simp only [hg, List.mem_cons, reduceCtorEq, false_or] at h
            exact hafter _ _ _ h
        · simp at h
      · simp at h
  · intro h
    obtain ⟨rfl, rfl⟩ := h
    exact .inl rfl

/-- The broadcast looks up the IDs of the open slots, whatever the mask answers for the others, up
to the first one that is not in the table. -/
theorem slotCalls_lookups (frame : List UInt8) (is : List (Fin maxClients)) (adjM : Nat → UInt8) :
    (∀ site ID, .checkAdjacencyMatrix site ID ∈ (slotCalls env p frame is adjM).map Sigma.fst →
        HasEntry ID) ↔ SlotsInTable p is := by
  induction is generalizing adjM with
  | nil => simp [slotCalls, SlotsInTable]
  | cons i is ih =>
    rw [slotCalls, slotsInTable_cons]
    cases ho : (p.manager.sockets i).isOpened with
    | false =>
      simp only [Bool.false_eq_true, if_false, List.map_cons, List.mem_cons, reduceCtorEq,
        false_or, ih, false_imp_iff, true_and]
    | true =>
      simp only [if_true, List.map_cons, List.mem_cons, reduceCtorEq, false_or,
        SendOp.checkAdjacencyMatrix.injEq, or_imp, and_imp, forall_and, forall_const]
      have hown : (∀ site ID, site = some i → ID = (p.manager.sockets i).getServerDeviceID →
          HasEntry ID) ↔ HasEntry (p.manager.sockets i).deviceID :=
        ⟨fun h => h _ _ rfl rfl, fun h _ _ _ hID => hID ▸ h⟩
      rw [hown]
      refine and_congr_right ?_
      intro hhas
      split
      · next ha => exact absurd hhas (checkAdjacencyMatrix_eq_none_iff.mp ha)
      · simp only [List.map_cons, List.mem_cons, reduceCtorEq, false_or, ih]
      · exact ih _

theorem sendToAll_lookups (frame : List UInt8) (unset : SocketIpStatus) :
    (∀ site ID, .checkAdjacencyMatrix site ID ∈ (sendToAll frame unset).trace (perform env) p →
        HasEntry ID) ↔ DestinationsInTable p broadcastID := by
  rw [← slotsInTable_all, ← slotCalls_lookups env p frame _ p.adjM, ← Prog.transcript_fst,
    (sendToAll_loop env p frame unset).1, List.map_append]
  split_ifs
  · simp
  · simp

/-- Mask lookups. A call of send_handler stays inside the table if and only if its destination is
in it, or, for a broadcast, the nodes on the open slots are. -/
theorem mask_lookups (idProtocol : Bool) (unset : SocketIpStatus) (b : FwBuffer) :
    LookupsSafe env p (sendHandler idProtocol unset b) ↔
      DestinationsInTable p (if idProtocol then (headerScan b).receiverID else 0) := by
  have hheader : ((if idProtocol then readHeader b else pure 0).exec (perform env) p) =
      (if idProtocol then (headerScan b).receiverID else 0, p) := by
    cases idProtocol with
    | true => exact readHeader_exec env p b
    | false => rfl
  have hnone (site : Option (Fin maxClients)) (ID : UInt32) : .checkAdjacencyMatrix site ID ∉
      (if idProtocol then readHeader b else pure 0).trace (perform env) p := by
    cases idProtocol with
    | true => exact readHeader_lookups env p b site ID
    | false => simp
  rw [lookupsSafe_iff, sendHandler]
  simp only [Prog.trace_bind, hheader, List.mem_append, hnone, false_or]
  generalize (if idProtocol then (headerScan b).receiverID else 0) = receiverID
  split_ifs with hbc
  · rw [sendToAll_lookups, hbc]
  · simp only [unicast_lookups, DestinationsInTable, if_neg hbc]
    constructor
    · intro h
      exact h none receiverID ⟨rfl, rfl⟩
    · intro h site ID hID
      exact hID.2 ▸ h

/-- A frame for everyone while a handshake is going on: the slot has no ID yet, and `0 - baseID` is
far behind the table. -/
theorem mask_lookups_fails : ¬∀ (env : SendEnv) (p : ClientSide) (idProtocol : Bool)
    (unset : SocketIpStatus) (b : FwBuffer),
    LookupsSafe env p (sendHandler idProtocol unset b) := by
  intro h
  have hin := (lookupsSafe_iff {} (poolWith 0) _).mp
    (h {} (poolWith 0) true .success (frameTo broadcastID)) (some 0) 0 (by decide)
  exact absurd hin.1 (by decide)

end MeshNetwork.Node
