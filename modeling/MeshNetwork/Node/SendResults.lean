import MeshNetwork.Node.BroadcastRounds

namespace MeshNetwork.Node

open Driver

/-- The status that an operation has been answered, if it is a send. -/
def sendResult : (o : SendOp) × o.Ans → Option SocketIpStatus
  | ⟨.send _ _ _, answer⟩ => some answer.1
  | _ => none

/-- The results of the sends of a call, in order. -/
def sendResults (env : SendEnv) (p : ClientSide) {α : Type} (call : SendM α) :
    List SocketIpStatus :=
  (call.transcript (perform env) p).filterMap sendResult

variable (env : SendEnv) (p : ClientSide)

theorem sendResults_bind {α β : Type} (c : SendM α) (f : α → SendM β) :
    sendResults env p (c >>= f) = sendResults env p c ++
      sendResults env (c.exec (perform env) p).2 (f (c.exec (perform env) p).1) := by
  rw [sendResults, Prog.transcript_bind, List.filterMap_append]
  rfl

/-- What is collected from a transcript comes from its sends. -/
def OnSends {γ : Type} (f : (o : SendOp) × o.Ans → Option γ) : Prop :=
  ∀ o a, (∀ i frame dest, o ≠ .send i frame dest) → f ⟨o, a⟩ = none

theorem sendResult_onSends : OnSends sendResult := by
  intro o a ho
  cases o with
  | send i frame dest => exact absurd rfl (ho i frame dest)
  | _ => rfl

theorem readHeader_filterMap {γ : Type} {f : (o : SendOp) × o.Ans → Option γ} (hf : OnSends f)
    (b : FwBuffer) : ((readHeader b).transcript (perform env) p).filterMap f = [] :=
  Prog.filterMap_transcript_calls (perform_answers env)
    (readHeader_calls (fun _ a => hf _ a (by simp)) (fun a => hf _ a (by simp)) b)

theorem readHeader_results (b : FwBuffer) : sendResults env p (readHeader b) = [] :=
  readHeader_filterMap env p sendResult_onSends b

/-- The header contributes the destination and no send. -/
theorem sendHandler_addressed {b : FwBuffer} {dest : UInt32} (hb : Addressed b dest)
    (unset : SocketIpStatus) :
    sendResults env p (sendHandler true unset b) = sendResults env p
        (if dest = broadcastID then sendToAll b.contents unset else unicast b.contents dest) ∧
      ((sendHandler true unset b).exec (perform env) p).1 =
        ((if dest = broadcastID then sendToAll b.contents unset
          else unicast b.contents dest).exec (perform env) p).1 := by
  have hid := headerScan_addressed hb
  unfold sendHandler
  constructor
  · rw [if_pos rfl, sendResults_bind, readHeader_results, readHeader_exec, hid, List.nil_append]
  · rw [if_pos rfl, Prog.exec_bind, readHeader_exec, hid]

section unicast

/-- The status of a frame for one node: whether it has been written, is to be sent again, or is
lost. -/
def unicastStatus : List SocketIpStatus → SendStatus
  | [.success] => .sendOk
  | [.disconnected] => .sendRetry
  | [.interruptedTryAgain] => .sendRetry
  | _ => .sendError

/-- The mask allows the ID, and an open socket stores it. -/
def Deliverable (receiverID : UInt32) : Prop :=
  (checkAdjacencyMatrix p.deviceID (env.mask none) p.adjM receiverID).1 = some true ∧
    p.manager.checkIfAlreadyConnected receiverID = true

/-- A destination in the table, and nobody to send to, or an open socket whose send does not ask
for another try. -/
def NoRetry (dest : UInt32) : Prop :=
  HasEntry dest ∧ (¬Deliverable env p dest ∨ ∃ i, p.manager.getSocketHandlerByID dest = some i ∧
    (p.manager.sockets i).isOpened = true ∧
    (env.send i).status ≠ .disconnected ∧ (env.send i).status ≠ .interruptedTryAgain)

theorem getSocketHandlerByID_some {deviceID : UInt32} (h : deviceID ≠ 0) (m : TcpClientManager) :
    ∃ i, m.getSocketHandlerByID deviceID = some i := ⟨_, if_neg h⟩

/-- After the send nothing is left of a retry. -/
theorem afterUnicast_result {receiverID : UInt32} (h : receiverID ≠ 0) (status : SocketIpStatus)
    (epipe : Bool) :
    ((afterUnicast receiverID status epipe).exec (perform env) p).1 =
      some (if status = .disconnected ∨ status = .interruptedTryAgain ∨ status = .success
        then .sendOk else .sendError) := by
  obtain ⟨i, hi⟩ := getSocketHandlerByID_some h p.manager
  unfold afterUnicast
  by_cases hretry : status = .disconnected ∨ status = .interruptedTryAgain
  · have hor : status = .disconnected ∨ status = .interruptedTryAgain ∨ status = .success :=
      hretry.imp_right Or.inl
    rw [if_pos hretry, if_pos hor]
    rfl
  · by_cases hs : status = .success
    · rw [if_neg hretry, if_neg (not_not.mpr hs), if_pos (.inr (.inr hs))]
      rfl
    · have hno : ¬(status = .disconnected ∨ status = .interruptedTryAgain ∨ status = .success) := by
        intro hstatus
        rcases hstatus with hd | ht | hok
        · exact hretry (.inl hd)
        · exact hretry (.inr ht)
        · exact hs hok
      rw [if_neg hretry, if_pos hs, if_neg hno]
      cases epipe with
      | false => rfl
      | true => simp [SendM.getSocketHandlerByID, SendM.close, perform, hi]

theorem afterUnicast_filterMap {γ : Type} {f : (o : SendOp) × o.Ans → Option γ} (hf : OnSends f)
    (receiverID : UInt32) (status : SocketIpStatus) (epipe : Bool) :
    ((afterUnicast receiverID status epipe).transcript (perform env) p).filterMap f = [] :=
  Prog.filterMap_transcript_calls (perform_answers env)
    (afterUnicast_calls (fun a => hf _ a (by simp)) (fun _ a => hf _ a (by simp)) status epipe)

/-- A deliverable frame is sent once, to the slot that the lookup gives. -/
theorem unicast_sent {γ : Type} {f : (o : SendOp) × o.Ans → Option γ} (hf : OnSends f)
    {frame : List UInt8} {dest : UInt32} (hd : Deliverable env p dest) {i : Fin maxClients}
    (hi : p.manager.getSocketHandlerByID dest = some i) :
    ((unicast frame dest).transcript (perform env) p).filterMap f =
      (f ⟨.send i frame dest,
        (((p.manager.sockets i).send frame (env.send i)).1, (env.send i).epipe)⟩).toList := by
  rw [(unicast_sends env p frame hd.1 hd.2 hi).1, List.filterMap_cons_none (hf _ _ (by simp)),
    List.filterMap_cons_none (hf _ _ (by simp)), List.filterMap_cons_none (hf _ _ (by simp)),
    List.filterMap_cons, List.filterMap_cons_none (hf _ _ (by simp)),
    afterUnicast_filterMap env _ hf]
  cases f _ <;> rfl

/-- A frame that is not sent touches the table only. -/
theorem unicast_notSent (frame : List UInt8) {dest : UInt32}
    (h : Deliverable env p dest → p.manager.getSocketHandlerByID dest = none) :
    ((unicast frame dest).exec (perform env) p).2 =
        (perform env (.checkAdjacencyMatrix none dest) p).2 ∧
      ∀ {γ : Type} {f : (o : SendOp) × o.Ans → Option γ}, OnSends f →
        ((unicast frame dest).transcript (perform env) p).filterMap f = [] := by
  have hnone {l : List ((o : SendOp) × o.Ans)}
      (hl : ∀ x ∈ l, ∀ i frame dest, x.1 ≠ .send i frame dest) {γ : Type}
      {f : (o : SendOp) × o.Ans → Option γ} (hf : OnSends f) : l.filterMap f = [] := by
    rw [List.filterMap_eq_nil_iff]
    intro x hx
    exact hf x.1 x.2 (hl x hx)
  rcases ha : (checkAdjacencyMatrix p.deviceID (env.mask none) p.adjM dest).1 with _ | _ | _
  · obtain ⟨hcalls, hexec⟩ := unicast_outside env p frame ha
    rw [hcalls, hexec]
    exact ⟨rfl, hnone (by simp)⟩
  · obtain ⟨hcalls, hexec⟩ := unicast_masked env p frame ha
    rw [hcalls, hexec]
    exact ⟨rfl, hnone (by simp)⟩
  · cases hc : p.manager.checkIfAlreadyConnected dest with
    | false =>
      obtain ⟨hcalls, hexec⟩ := unicast_unconnected env p frame ha hc
      rw [hcalls, hexec]
      exact ⟨rfl, hnone (by simp)⟩
    | true =>
      obtain ⟨hcalls, hexec⟩ := unicast_asserted env p frame ha hc (h ⟨ha, hc⟩)
      rw [hcalls, hexec]
      exact ⟨rfl, hnone (by simp)⟩

/-- A frame for a node of the table that nobody gets is an error. -/
theorem unicast_unanswered {dest : UInt32} (hin : HasEntry dest) (hd : ¬Deliverable env p dest)
    (frame : List UInt8) : ((unicast frame dest).exec (perform env) p).1 = some .sendError := by
  rw [unicast_result]
  rcases ha : (checkAdjacencyMatrix p.deviceID (env.mask none) p.adjM dest).1 with _ | _ | _
  · exact absurd hin (checkAdjacencyMatrix_eq_none_iff.mp ha)
  · rfl
  · exact if_neg fun hc => hd ⟨ha, hc⟩

/-- Unicast status. A frame for one node is reported as its send went if and only if the table has
an entry for the node and nothing asks for a retry. -/
theorem unicast_status (unset : SocketIpStatus) {b : FwBuffer} {dest : UInt32}
    (hb : Addressed b dest) (hdest : dest ≠ broadcastID) :
    ((sendHandler true unset b).exec (perform env) p).1 =
        some (unicastStatus (sendResults env p (sendHandler true unset b))) ↔
      NoRetry env p dest := by
  obtain ⟨hresults, hresult⟩ := sendHandler_addressed env p hb unset
  rw [if_neg hdest] at hresults hresult
  rw [hresults, hresult, NoRetry]
  by_cases hin : HasEntry dest
  · rw [and_iff_right hin]
    have h0 : dest ≠ 0 := by
      intro h0
      subst h0
      exact absurd hin (by decide)
    by_cases hd : Deliverable env p dest
    · obtain ⟨i, hi⟩ := getSocketHandlerByID_some h0 p.manager
      have hretry : (¬Deliverable env p dest ∨ ∃ i, p.manager.getSocketHandlerByID dest = some i ∧
          (p.manager.sockets i).isOpened = true ∧ (env.send i).status ≠ .disconnected ∧
            (env.send i).status ≠ .interruptedTryAgain) ↔
          (p.manager.sockets i).isOpened = true ∧ (env.send i).status ≠ .disconnected ∧
            (env.send i).status ≠ .interruptedTryAgain := by
        rw [or_iff_right (not_not.mpr hd), hi]
        simp
      have hone : sendResults env p (unicast b.contents dest) =
          [((p.manager.sockets i).send b.contents (env.send i)).1] :=
        unicast_sent env p sendResult_onSends hd hi
      rw [hone, unicast_result, hd.1]
      simp only [if_pos hd.2, hi, Option.bind_some, afterUnicast_result env _ h0]
      rw [← hi, hretry, MultiTcpClientSocket.send_fst]
      by_cases ho : (p.manager.sockets i).isOpened = true
      · rw [if_pos ho]
        cases (env.send i).status <;> simp [unicastStatus, ho]
      · rw [if_neg ho]
        simp [unicastStatus, ho]
    · obtain ⟨-, hnone⟩ := unicast_notSent env p b.contents fun h => absurd h hd
      rw [sendResults, hnone sendResult_onSends, unicast_unanswered env p hin hd]
      exact iff_of_true rfl (.inl hd)
  · rw [unicast_result, checkAdjacencyMatrix_eq_none_iff.mpr hin]
    exact iff_of_false (by simp) fun h => hin h.1

end unicast

/-- A pool in which slot 0 is connected to this node. -/
def poolWith (ID : UInt32) : ClientSide :=
  { deviceID := baseID
    manager := ⟨Function.update (fun _ => {}) 0 { fd := some 0, deviceID := ID }⟩ }

/-- A frame for `dest` with one byte of payload. -/
def frameTo (dest : UInt32) : FwBuffer := .ofBytes (idEntry baseID ++ idEntry dest ++ [7])

theorem unicast_status_ok : ((sendHandler true .success (frameTo 0x20202021)).exec (perform {})
      (poolWith 0x20202021)).1 = some (unicastStatus (sendResults {} (poolWith 0x20202021)
        (sendHandler true .success (frameTo 0x20202021)))) ↔
    NoRetry {} (poolWith 0x20202021) 0x20202021 :=
  unicast_status {} (poolWith 0x20202021) .success ⟨0, 6, by decide, by decide⟩ (by decide)

/-- The peer has reset the connection: the frame is lost, and reported as sent. -/
theorem unicast_status_fails : ¬∀ (env : SendEnv) (p : ClientSide) (unset : SocketIpStatus)
    (b : FwBuffer) (dest : UInt32), Addressed b dest → dest ≠ broadcastID →
    ((sendHandler true unset b).exec (perform env) p).1 =
      some (unicastStatus (sendResults env p (sendHandler true unset b))) := by
  intro h
  have hstatus := h { send := fun _ => { status := .disconnected } } (poolWith 0x20202021)
    .success (frameTo 0x20202021) 0x20202021 ⟨0, 6, by decide, by decide⟩ (by decide)
  exact absurd hstatus (by decide)

section broadcast

/-- The status of a broadcast is that of its last send, and an error without one. -/
def broadcastStatus (results : List SocketIpStatus) : SendStatus :=
  if results.getLast? = some .success then .sendOk else .sendError

/-- Whatever the local `status` held, the results alone determine the answer, and it is SEND_OK only
if something was sent and all of it went out. -/
structure BroadcastFaithful (b : FwBuffer) : Prop where
  determined : ∀ unset, ((sendHandler true unset b).exec (perform env) p).1 =
    some (broadcastStatus (sendResults env p (sendHandler true unset b)))
  ok : ∀ unset, ((sendHandler true unset b).exec (perform env) p).1 = some .sendOk →
    sendResults env p (sendHandler true unset b) ≠ [] ∧
      ∀ r ∈ sendResults env p (sendHandler true unset b), r = .success

/-- The nodes on the open slots are in the table, there is a slot to send to, and if the send to
the last one succeeds they all do. -/
def LastDecides : Prop :=
  DestinationsInTable p broadcastID ∧
  ∃ i, (targets env p (List.finRange maxClients) p.adjM).getLast? = some i ∧
    ((env.send i).status = .success →
      ∀ j ∈ targets env p (List.finRange maxClients) p.adjM, (env.send j).status = .success)

/-- The sends of the loop are those to the targets. -/
theorem slotCalls_results (frame : List UInt8) (is : List (Fin maxClients)) (adjM : Nat → UInt8) :
    (slotCalls env p frame is adjM).filterMap sendResult =
      (targets env p is adjM).map fun i => (env.send i).status := by
  induction is generalizing adjM with
  | nil => rfl
  | cons i is ih =>
    simp only [slotCalls, targets]
    split
    · split <;> simp [sendResult, List.filterMap_cons, ih]
    · simp [sendResult, List.filterMap_cons, ih]

/-- The branch for all sends to the targets, one after the other, and has nothing to send
behind. -/
theorem sendToAll_results (frame : List UInt8) (unset : SocketIpStatus) :
    sendResults env p (sendToAll frame unset) =
      (targets env p (List.finRange maxClients) p.adjM).map fun i => (env.send i).status := by
  rw [sendResults, (sendToAll_loop env p frame unset).1, List.filterMap_append, slotCalls_results]
  split_ifs
  · exact List.append_nil _
  · exact List.append_nil _

/-- Broadcast status. The answer to a broadcast is faithful to its sends if and only if the table
has entries for the nodes on the open slots, and there is a last send whose success is the success
of all. -/
theorem broadcast_status {b : FwBuffer} (hb : Addressed b broadcastID) :
    BroadcastFaithful env p b ↔ LastDecides env p := by
  have hresults (unset : SocketIpStatus) : sendResults env p (sendHandler true unset b) =
      (targets env p (List.finRange maxClients) p.adjM).map fun i => (env.send i).status := by
    rw [(sendHandler_addressed env p hb unset).1, if_pos rfl, sendToAll_results]
  have hresult (unset : SocketIpStatus) :
      ((sendHandler true unset b).exec (perform env) p).1 =
        if DestinationsInTable p broadcastID then
          some (answerToAll env unset (targets env p (List.finRange maxClients) p.adjM))
        else none := by
    rw [(sendHandler_addressed env p hb unset).2, if_pos rfl,
      (sendToAll_loop env p b.contents unset).2.1]
  unfold LastDecides
  generalize targets env p (List.finRange maxClients) p.adjM = is at hresults hresult
  by_cases hin : DestinationsInTable p broadcastID
  · simp only [if_pos hin] at hresult
    rw [and_iff_right hin]
    constructor
    · intro h
      cases hlast : is.getLast? with
      | none =>
        -- nothing is sent, and the local is returned as it was
        obtain rfl := List.getLast?_eq_none_iff.mp hlast
        have hdet := h.determined .success
        rw [hresult, hresults] at hdet
        simp [answerToAll, lastStatus, broadcastStatus] at hdet
      | some i =>
        refine ⟨i, rfl, ?_⟩
        intro hi j hj
        have hok := (h.ok .success (by
          rw [hresult, answerToAll, lastStatus_of_last env hlast, if_pos hi])).2
        rw [hresults] at hok
        exact hok _ (List.mem_map.mpr ⟨j, hj, rfl⟩)
    · intro h
      obtain ⟨i, hlast, hall⟩ := h
      have hstatus (unset : SocketIpStatus) : ((sendHandler true unset b).exec (perform env) p).1 =
          some (if (env.send i).status = .success then .sendOk else .sendError) := by
        rw [hresult, answerToAll, lastStatus_of_last env hlast]
      constructor
      · intro unset
        rw [hstatus, hresults, broadcastStatus, List.getLast?_map, hlast]
        simp
      · intro unset hok
        have hi : (env.send i).status = .success := by
          by_contra hne
          rw [hstatus, if_neg hne] at hok
          cases hok
        rw [hresults]
        constructor
        · intro hnil
          rw [List.map_eq_nil_iff.mp hnil] at hlast
          cases hlast
        · intro r hr
          obtain ⟨j, hj, rfl⟩ := List.mem_map.mp hr
          exact hall hi j hj
  · -- the lookup outside the table ends the call without an answer
    simp only [if_neg hin] at hresult
    refine iff_of_false ?_ fun h => hin h.1
    intro h
    have hdet := h.determined .success
    rw [hresult] at hdet
    cases hdet

/-- One peer, which takes the frame. -/
theorem broadcast_status_one : BroadcastFaithful {}
      (poolWith 0x20202021) (frameTo broadcastID) ↔
    LastDecides {} (poolWith 0x20202021) :=
  broadcast_status {} (poolWith 0x20202021)
    ⟨0, 6, by decide, by decide⟩

/-- Nobody is connected, and the answer is what the stack held. -/
theorem broadcast_status_fails : ¬∀ (env : SendEnv) (p : ClientSide) (b : FwBuffer),
    Addressed b broadcastID → BroadcastFaithful env p b := by
  intro h
  have hok := (h {} { deviceID := baseID } (frameTo broadcastID)
    ⟨0, 6, by decide, by decide⟩).ok .success (by decide)
  exact absurd hok.1 (by decide)

end broadcast

end MeshNetwork.Node
