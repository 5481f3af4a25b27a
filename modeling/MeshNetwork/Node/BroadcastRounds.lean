import MeshNetwork.Driver.SendHandler

namespace MeshNetwork.Node

open Driver

/-- The nodes on the open ones of these slots are in the table. -/
def SlotsInTable (p : ClientSide) (is : List (Fin maxClients)) : Prop :=
  ∀ i ∈ is, (p.manager.sockets i).isOpened = true → HasEntry (p.manager.sockets i).deviceID

instance (p : ClientSide) (is : List (Fin maxClients)) : Decidable (SlotsInTable p is) :=
  inferInstanceAs (Decidable (∀ i ∈ is, _))

/-- The destination is in the table; or the frame is for every node, and the IDs stored by the
open slots are in the table. -/
def DestinationsInTable (p : ClientSide) (receiverID : UInt32) : Prop :=
  if receiverID = broadcastID then
    ∀ i, (p.manager.sockets i).isOpened = true → HasEntry (p.manager.sockets i).deviceID
  else HasEntry receiverID

instance (p : ClientSide) (receiverID : UInt32) : Decidable (DestinationsInTable p receiverID) := by
  unfold DestinationsInTable
  infer_instance

/-- The slots that a broadcast sends to, with the table as the checks refresh it one after the
other. It does not get beyond a slot whose node is not in the table. -/
def targets (env : SendEnv) (p : ClientSide) :
    List (Fin maxClients) → (Nat → UInt8) → List (Fin maxClients)
  | [], _ => []
  | i :: is, adjM =>
    if (p.manager.sockets i).isOpened then
      let r := checkAdjacencyMatrix p.deviceID (env.mask (some i)) adjM
        (p.manager.sockets i).getServerDeviceID
      match r.1 with
      | none => []
      | some true => i :: targets env p is r.2
      | some false => targets env p is r.2
    else targets env p is adjM

variable (env : SendEnv) (p : ClientSide)

theorem slotsInTable_all : SlotsInTable p (List.finRange maxClients) ↔
    DestinationsInTable p broadcastID := by
  simp [SlotsInTable, DestinationsInTable]

theorem slotsInTable_cons (i : Fin maxClients) (is : List (Fin maxClients)) :
    SlotsInTable p (i :: is) ↔
      ((p.manager.sockets i).isOpened = true → HasEntry (p.manager.sockets i).deviceID) ∧
        SlotsInTable p is := List.forall_mem_cons

section rounds

variable (frame : List UInt8) (status : SocketIpStatus) {i : Fin maxClients}
  (is : List (Fin maxClients)) (q : ClientSide)

/-- The members after the mask has been asked about slot `i`. -/
def checked (i : Fin maxClients) : ClientSide :=
  (perform env (.checkAdjacencyMatrix (some i) (q.manager.sockets i).getServerDeviceID) q).2

/-- The round of a closed slot. -/
theorem broadcast_closed (ho : (q.manager.sockets i).isOpened = false) :
    (broadcast frame status (i :: is)).transcript (perform env) q =
        ⟨.isOpened i, false⟩ :: (broadcast frame status is).transcript (perform env) q ∧
      (broadcast frame status (i :: is)).exec (perform env) q =
        (broadcast frame status is).exec (perform env) q := by
  simp [broadcast, SendM.isOpened, perform, ho]

/-- The round of a slot whose node is not in the table is the last one. -/
theorem broadcast_outside (ho : (q.manager.sockets i).isOpened = true)
    (ha : (checkAdjacencyMatrix q.deviceID (env.mask (some i)) q.adjM
      (q.manager.sockets i).getServerDeviceID).1 = none) :
    (broadcast frame status (i :: is)).transcript (perform env) q =
        [⟨.isOpened i, true⟩,
          ⟨.getServerDeviceID i, (q.manager.sockets i).getServerDeviceID⟩,
          ⟨.checkAdjacencyMatrix (some i) (q.manager.sockets i).getServerDeviceID, none⟩] ∧
      (broadcast frame status (i :: is)).exec (perform env) q = (none, checked env q i) := by
  simp [broadcast, SendM.isOpened, SendM.getServerDeviceID, SendM.checkAdjacencyMatrix, checked,
    perform, ho, ha]

/-- The round of a slot that the mask refuses. -/
theorem broadcast_masked (ho : (q.manager.sockets i).isOpened = true)
    (ha : (checkAdjacencyMatrix q.deviceID (env.mask (some i)) q.adjM
      (q.manager.sockets i).getServerDeviceID).1 = some false) :
    (broadcast frame status (i :: is)).transcript (perform env) q =
        ⟨.isOpened i, true⟩ ::
          ⟨.getServerDeviceID i, (q.manager.sockets i).getServerDeviceID⟩ ::
          ⟨.checkAdjacencyMatrix (some i) (q.manager.sockets i).getServerDeviceID, some false⟩ ::
          (broadcast frame status is).transcript (perform env) (checked env q i) ∧
      (broadcast frame status (i :: is)).exec (perform env) q =
        (broadcast frame status is).exec (perform env) (checked env q i) := by
  simp [broadcast, SendM.isOpened, SendM.getServerDeviceID, SendM.checkAdjacencyMatrix, checked,
    perform, ho, ha]

/-- The round of a slot that is sent to. -/
theorem broadcast_sent (ho : (q.manager.sockets i).isOpened = true)
    (ha : (checkAdjacencyMatrix q.deviceID (env.mask (some i)) q.adjM
      (q.manager.sockets i).getServerDeviceID).1 = some true) :
    (broadcast frame status (i :: is)).transcript (perform env) q =
        ⟨.isOpened i, true⟩ ::
          ⟨.getServerDeviceID i, (q.manager.sockets i).getServerDeviceID⟩ ::
          ⟨.checkAdjacencyMatrix (some i) (q.manager.sockets i).getServerDeviceID, some true⟩ ::
          ⟨.send i frame broadcastID, ((env.send i).status, (env.send i).epipe)⟩ ::
          (broadcast frame (env.send i).status is).transcript (perform env)
            (perform env (.send i frame broadcastID) (checked env q i)).2 ∧
      (broadcast frame status (i :: is)).exec (perform env) q =
        (broadcast frame (env.send i).status is).exec (perform env)
          (perform env (.send i frame broadcastID) (checked env q i)).2 := by
  have hs : ((q.manager.sockets i).send frame (env.send i)).1 = (env.send i).status := by
    rw [MultiTcpClientSocket.send_fst, if_pos ho]
  simp [broadcast, SendM.isOpened, SendM.getServerDeviceID, SendM.checkAdjacencyMatrix, SendM.send,
    checked, perform, ho, ha, hs]

end rounds

/-- What the broadcast loop calls from some slot on, with the answers. -/
def slotCalls (frame : List UInt8) :
    List (Fin maxClients) → (Nat → UInt8) → List ((o : SendOp) × o.Ans)
  | [], _ => []
  | i :: is, adjM =>
    if (p.manager.sockets i).isOpened then
      let ID := (p.manager.sockets i).getServerDeviceID
      let r := checkAdjacencyMatrix p.deviceID (env.mask (some i)) adjM ID
      ⟨.isOpened i, true⟩ :: ⟨.getServerDeviceID i, ID⟩ ::
        ⟨.checkAdjacencyMatrix (some i) ID, r.1⟩ ::
        match r.1 with
        | none => []
        | some true =>
          ⟨.send i frame broadcastID, ((env.send i).status, (env.send i).epipe)⟩ ::
            slotCalls frame is r.2
        | some false => slotCalls frame is r.2
    else ⟨.isOpened i, false⟩ :: slotCalls frame is adjM

theorem targets_subset {is : List (Fin maxClients)} {adjM : Nat → UInt8} {i : Fin maxClients}
    (h : i ∈ targets env p is adjM) : i ∈ is := by
  induction is generalizing adjM with
  | nil => exact h
  | cons j is ih =>
    simp only [targets] at h
    split at h
    · split at h
      · cases h
      · rcases List.mem_cons.mp h with rfl | h
        · exact List.mem_cons_self
        · exact List.mem_cons_of_mem j (ih h)
      · exact List.mem_cons_of_mem j (ih h)
    · exact List.mem_cons_of_mem j (ih h)

/-- What is kept of the loop when it gets to its end. -/
def lastStatus (status : SocketIpStatus) (is : List (Fin maxClients)) : SocketIpStatus :=
  ((is.map fun i => (env.send i).status).getLast?).getD status

theorem lastStatus_of_last {status : SocketIpStatus} {is : List (Fin maxClients)}
    {i : Fin maxClients} (h : is.getLast? = some i) :
    lastStatus env status is = (env.send i).status := by
  rw [lastStatus, List.getLast?_map, h]
  rfl

/-- The loop as a whole: its calls, the status that it keeps, and the sockets, of which only those
that it sends to change. What it has done to earlier slots does not matter for the later ones. -/
theorem broadcast_loop (frame : List UInt8) (is : List (Fin maxClients)) (hnodup : is.Nodup)
    (status : SocketIpStatus) (q : ClientSide)
    (hsame : ∀ i ∈ is, q.manager.sockets i = p.manager.sockets i)
    (hdevice : q.deviceID = p.deviceID) :
    (broadcast frame status is).transcript (perform env) q = slotCalls env p frame is q.adjM ∧
      ((broadcast frame status is).exec (perform env) q).1 =
        (if SlotsInTable p is then some (lastStatus env status (targets env p is q.adjM))
        else none) ∧
      ∀ i, ((broadcast frame status is).exec (perform env) q).2.manager.sockets i =
        if i ∈ targets env p is q.adjM then ((p.manager.sockets i).send frame (env.send i)).2.1
        else q.manager.sockets i := by
  induction is generalizing status q with
  | nil => exact ⟨rfl, (if_pos (by simp [SlotsInTable])).symm, fun i => rfl⟩
  | cons i is ih =>
    have hi := hsame i List.mem_cons_self
    have hrest (j : Fin maxClients) (hj : j ∈ is) :
        q.manager.sockets j = p.manager.sockets j := hsame j (List.mem_cons_of_mem i hj)
    have hni : i ∉ is := (List.nodup_cons.mp hnodup).1
    have hcons := slotsInTable_cons p i is
    rw [← hi] at hcons
    rw [targets, slotCalls, ← hi, ← hdevice]
    cases ho : (q.manager.sockets i).isOpened with
    | false =>
      rw [(broadcast_closed env frame status is q ho).1,
        (broadcast_closed env frame status is q ho).2, if_neg Bool.false_ne_true,
        if_neg Bool.false_ne_true]
      obtain ⟨hcalls, hkept, hsockets⟩ := ih hnodup.of_cons status q hrest hdevice
      rw [hcalls, hkept]
      refine ⟨rfl, if_congr ?_ rfl rfl, hsockets⟩
      rw [hcons, ho]
      simp
    | true =>
      rw [if_pos rfl, if_pos rfl]
      rcases ha : (checkAdjacencyMatrix q.deviceID (env.mask (some i)) q.adjM
          (q.manager.sockets i).getServerDeviceID).1 with _ | _ | _
      · rw [(broadcast_outside env frame status is q ho ha).1,
          (broadcast_outside env frame status is q ho ha).2]
        simp only [ha, true_and]
        refine ⟨(if_neg ?_).symm, fun j => rfl⟩
        intro hall
        exact checkAdjacencyMatrix_eq_none_iff.mp ha ((hcons.mp hall).1 ho)
      · have hhas : HasEntry (q.manager.sockets i).deviceID := hasEntry_of_answer ha
        rw [(broadcast_masked env frame status is q ho ha).1,
          (broadcast_masked env frame status is q ho ha).2]
        obtain ⟨hcalls, hkept, hsockets⟩ :=
          ih hnodup.of_cons status (checked env q i) hrest hdevice
        simp only [ha]
        rw [hcalls, hkept]
        exact ⟨rfl, if_congr (by simp [hcons, hhas]) rfl rfl, hsockets⟩
      · have hhas : HasEntry (q.manager.sockets i).deviceID := hasEntry_of_answer ha
        have hsent (j : Fin maxClients) (hj : j ≠ i) :
            (perform env (.send i frame broadcastID) (checked env q i)).2.manager.sockets j =
              q.manager.sockets j := TcpClientManager.set_ne _ _ hj
        have hlater (j : Fin maxClients) (hj : j ∈ is) :
            (perform env (.send i frame broadcastID) (checked env q i)).2.manager.sockets j =
              p.manager.sockets j := by
          have hji : j ≠ i := by
            intro hji
            subst hji
            exact hni hj
          exact (hsent j hji).trans (hrest j hj)
        obtain ⟨hcalls, hstatus, hsockets⟩ := ih hnodup.of_cons (env.send i).status _ hlater hdevice
        rw [(broadcast_sent env frame status is q ho ha).1,
          (broadcast_sent env frame status is q ho ha).2]
        have hlast (is : List (Fin maxClients)) : lastStatus env status (i :: is) =
            lastStatus env (env.send i).status is := by
          simp [lastStatus, List.getLast?_cons]
        simp only [ha, hlast]
        rw [hcalls, hstatus]
        refine ⟨rfl, if_congr (by simp [hcons, hhas]) rfl rfl, ?_⟩
        intro j
        rw [hsockets]
        by_cases hji : j = i
        · subst hji
          rw [if_pos List.mem_cons_self, if_neg fun hj => hni (targets_subset env p hj), ← hi]
          exact TcpClientManager.set_self _ _ _
        · rw [hsent j hji]
          exact if_congr (by simp [hji, perform, checked]) rfl rfl

/-- The answer to a call that sends to these slots, one after the other. -/
def answerToAll (unset : SocketIpStatus) (is : List (Fin maxClients)) : SendStatus :=
  if lastStatus env unset is = .success then .sendOk else .sendError

/-- The branch for the broadcast ID: the loop, and behind it, if it gets that far, the release and
the answer. -/
theorem sendToAll_loop (frame : List UInt8) (unset : SocketIpStatus) :
    (sendToAll frame unset).transcript (perform env) p =
        slotCalls env p frame (List.finRange maxClients) p.adjM ++
          (if DestinationsInTable p broadcastID then [⟨.deallocateOut, ()⟩] else []) ∧
      ((sendToAll frame unset).exec (perform env) p).1 =
        (if DestinationsInTable p broadcastID then
          some (answerToAll env unset (targets env p (List.finRange maxClients) p.adjM))
        else none) ∧
      ∀ i, ((sendToAll frame unset).exec (perform env) p).2.manager.sockets i =
        if i ∈ targets env p (List.finRange maxClients) p.adjM then
          ((p.manager.sockets i).send frame (env.send i)).2.1
        else p.manager.sockets i := by
  obtain ⟨hcalls, hkept, hsockets⟩ := broadcast_loop env p frame (List.finRange maxClients)
    (List.nodup_finRange maxClients) unset p (fun _ _ => rfl) rfl
  rw [sendToAll, Prog.transcript_bind, Prog.exec_bind, hcalls, hkept]
  simp only [slotsInTable_all]
  by_cases hin : DestinationsInTable p broadcastID
  · simp only [if_pos hin]
    exact ⟨rfl, rfl, hsockets⟩
  · simp only [if_neg hin]
    exact ⟨rfl, rfl, hsockets⟩

theorem sendToAll_trace (frame : List UInt8) (unset : SocketIpStatus) :
    (sendToAll frame unset).trace (perform env) p =
      (broadcast frame unset (List.finRange maxClients)).trace (perform env) p ++
        if DestinationsInTable p broadcastID then [.deallocateOut] else [] := by
  obtain ⟨hcalls, -, -⟩ := broadcast_loop env p frame (List.finRange maxClients)
    (List.nodup_finRange maxClients) unset p (fun _ _ => rfl) rfl
  rw [← Prog.transcript_fst, ← Prog.transcript_fst, hcalls, (sendToAll_loop env p frame unset).1,
    List.map_append]
  split_ifs
  · rfl
  · rfl

end MeshNetwork.Node
