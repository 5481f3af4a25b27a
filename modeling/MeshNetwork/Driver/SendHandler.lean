import MeshNetwork.Framework.Program
import MeshNetwork.Driver.HeaderScan
import MeshNetwork.Driver.Mask
import MeshNetwork.Driver.TcpClientManager

namespace MeshNetwork.Driver

/-- What has happened on the outgoing connections, newest first in a log. -/
inductive ClientEvent where
  /-- openTask has finished the handshake on `conn`; `id` is what the peer announced. -/
  | handshake (conn : Conn) (id : Option UInt32)
  /-- send_handler has called send for a frame to `dest`, on a closed socket if `conn` is `none`. -/
  | offered (slot : Fin maxClients) (conn : Option Conn) (dest : UInt32) (written : List UInt8)
  deriving DecidableEq, Repr

/-- The members that send_handler and openTask work on. -/
structure ClientSide where
  manager : TcpClientManager := {}
  adjM : Nat → UInt8 := initAdjacencyMatrix fun _ => 0
  deviceID : UInt32
  nextConn : Conn := 0
  log : List ClientEvent := []

/-- The calls that send_handler makes, each one atomic. -/
inductive SendOp where
  | readBytes (positions : List Nat)
  | deallocateOut
  | isOpened (i : Fin maxClients)
  | getServerDeviceID (i : Fin maxClients)
  | checkAdjacencyMatrix (site : Option (Fin maxClients)) (receiverID : UInt32)
  | checkIfAlreadyConnected (deviceID : UInt32)
  | getSocketHandlerByID (deviceID : UInt32)
  | send (i : Fin maxClients) (frame : List UInt8) (dest : UInt32)
  | close (i : Fin maxClients)
  deriving DecidableEq, Repr

/-- The answers; a send gives its status and whether errno is EPIPE. -/
@[reducible] def SendOp.Ans : SendOp → Type
  | .readBytes _ => Unit
  | .deallocateOut => Unit
  | .isOpened _ => Bool
  | .getServerDeviceID _ => UInt32
  | .checkAdjacencyMatrix _ _ => Option Bool
  | .checkIfAlreadyConnected _ => Bool
  | .getSocketHandlerByID _ => Option (Fin maxClients)
  | .send _ _ _ => SocketIpStatus × Bool
  | .close _ => Unit

abbrev SendM := Prog SendOp SendOp.Ans

inductive SendStatus where
  | sendOk | sendRetry | sendError
  deriving DecidableEq, Repr

namespace SendM

def readBytes (positions : List Nat) : SendM Unit := Prog.op (SendOp.readBytes positions)
def deallocateOut : SendM Unit := Prog.op SendOp.deallocateOut
def isOpened (i : Fin maxClients) : SendM Bool := Prog.op (SendOp.isOpened i)
def getServerDeviceID (i : Fin maxClients) : SendM UInt32 := Prog.op (SendOp.getServerDeviceID i)
def checkAdjacencyMatrix (site : Option (Fin maxClients)) (receiverID : UInt32) :
    SendM (Option Bool) :=
  Prog.op (SendOp.checkAdjacencyMatrix site receiverID)
def checkIfAlreadyConnected (deviceID : UInt32) : SendM Bool :=
  Prog.op (SendOp.checkIfAlreadyConnected deviceID)
def getSocketHandlerByID (deviceID : UInt32) : SendM (Option (Fin maxClients)) :=
  Prog.op (SendOp.getSocketHandlerByID deviceID)
def send (i : Fin maxClients) (frame : List UInt8) (dest : UInt32) :
    SendM (SocketIpStatus × Bool) :=
  Prog.op (SendOp.send i frame dest)
def close (i : Fin maxClients) : SendM Unit := Prog.op (SendOp.close i)

end SendM

/-- All the bytes from getData() on that getSize() counts. -/
def FwBuffer.contents (b : FwBuffer) : List UInt8 := (List.range b.size.toNat).map b.byte

open SendM

/-- The test of the header after the scan. It compares with `&&`, and its branch deallocates
without returning. -/
def checkHeader (b : FwBuffer) (index : Nat) : SendM Unit :=
  if b.byte index ≠ tagI then do
    readBytes [index, index + 1]
    if b.byte (index + 1) ≠ tagD then deallocateOut else pure ()
  else readBytes [index]

/-- The part of send_handler that only runs with the ID protocol on. -/
def readHeader (b : FwBuffer) : SendM UInt32 := do
  let scan := headerScan b
  readBytes scan.reads
  checkHeader b scan.index
  return scan.receiverID

/-- The broadcast loop from some slot on; `status` keeps the result of the latest send. A slot
that stores an ID without an entry ends the call. -/
def broadcast (frame : List UInt8) (status : SocketIpStatus) :
    List (Fin maxClients) → SendM (Option SocketIpStatus)
  | [] => pure (some status)
  | i :: is => do
    if ← isOpened i then
      let id ← getServerDeviceID i
      match ← SendM.checkAdjacencyMatrix (some i) id with
      | none => return none
      | some true =>
        let (status, _) ← send i frame broadcastID
        broadcast frame status is
      | some false => broadcast frame status is
    else broadcast frame status is

/-- The branch for the broadcast ID. -/
def sendToAll (frame : List UInt8) (unset : SocketIpStatus) : SendM (Option SendStatus) := do
  match ← broadcast frame unset (List.finRange maxClients) with
  | none => return none
  | some status =>
    deallocateOut
    return some (if status = .success then .sendOk else .sendError)

/-- After the send to one node. SEND_RETRY does not survive the assignment that follows. -/
def afterUnicast (receiverID : UInt32) (status : SocketIpStatus) (epipe : Bool) :
    SendM (Option SendStatus) :=
  if status = .disconnected ∨ status = .interruptedTryAgain then return some .sendOk
  else if status ≠ .success then
    if epipe then do
      match ← getSocketHandlerByID receiverID with
      | none => return none
      | some i =>
        close i
        return some .sendError
    else return some .sendError
  else return some .sendOk

/-- The branch for a single destination. -/
def unicast (frame : List UInt8) (receiverID : UInt32) : SendM (Option SendStatus) := do
  match ← SendM.checkAdjacencyMatrix none receiverID with
  | none => return none
  | some true =>
    if ← checkIfAlreadyConnected receiverID then
      match ← getSocketHandlerByID receiverID with
      | none => return none
      | some i =>
        let (status, epipe) ← send i frame receiverID
        deallocateOut
        afterUnicast receiverID status epipe
    else
      deallocateOut
      return some .sendError
  | some false =>
    deallocateOut
    return some .sendError

/-- `send_handler`; `unset` is what the local `status` holds before anything is assigned to it.
The answer `none` is a call that does not return: a failed assertion, or a lookup outside the
table. -/
def sendHandler (idProtocol : Bool) (unset : SocketIpStatus) (b : FwBuffer) :
    SendM (Option SendStatus) := do
  let receiverID ← (if idProtocol then readHeader b else pure 0)
  if receiverID = broadcastID then sendToAll b.contents unset
  else unicast b.contents receiverID

/-- What one call of send_handler meets: the outcome a send on each slot would have, and the mask
file as each check finds it (`none` is the check of the destination). -/
structure SendEnv where
  send : Fin maxClients → SendOutcome := fun _ => { status := .success }
  mask : Option (Fin maxClients) → MaskFile := fun _ => {}

/-- The effect of one call on the members. -/
def perform (env : SendEnv) : (o : SendOp) → ClientSide → o.Ans × ClientSide
  | .readBytes _, p => ((), p)
  | .deallocateOut, p => ((), p)
  | .isOpened i, p => ((p.manager.sockets i).isOpened, p)
  | .getServerDeviceID i, p => ((p.manager.sockets i).getServerDeviceID, p)
  | .checkAdjacencyMatrix site receiverID, p =>
    let r := Driver.checkAdjacencyMatrix p.deviceID (env.mask site) p.adjM receiverID
    (r.1, { p with adjM := r.2 })
  | .checkIfAlreadyConnected deviceID, p => (p.manager.checkIfAlreadyConnected deviceID, p)
  | .getSocketHandlerByID deviceID, p => (p.manager.getSocketHandlerByID deviceID, p)
  | .send i frame dest, p =>
    let (status, socket, written) := (p.manager.sockets i).send frame (env.send i)
    ((status, (env.send i).epipe),
      { p with
        manager := p.manager.set i socket
        log := .offered i (p.manager.sockets i).fd dest written :: p.log })
  | .close i, p => ((), { p with manager := p.manager.close i })

/-- The lookup by ID asserts on 0. -/
def Answers : (o : SendOp) → o.Ans → Prop
  | .getSocketHandlerByID deviceID, x => deviceID = 0 → x = none
  | _, _ => True

theorem perform_answers (env : SendEnv) (o : SendOp) (p : ClientSide) :
    Answers o (perform env o p).1 := by
  cases o with
  | getSocketHandlerByID deviceID => exact fun h => if_pos h
  | _ => trivial

/-- Reading the header only looks at the buffer. -/
theorem readHeader_exec (env : SendEnv) (p : ClientSide) (b : FwBuffer) :
    (readHeader b).exec (perform env) p = ((headerScan b).receiverID, p) := by
  by_cases hi : b.byte (headerScan b).index ≠ tagI
  · by_cases hd : b.byte ((headerScan b).index + 1) ≠ tagD
    · simp [readHeader, checkHeader, SendM.readBytes, SendM.deallocateOut, perform, hi, hd]
    · simp [readHeader, checkHeader, SendM.readBytes, perform, hi, hd]
  · simp [readHeader, checkHeader, SendM.readBytes, perform, hi]

section unicast

variable (env : SendEnv) (p : ClientSide) (frame : List UInt8) {receiverID : UInt32}

/-- The unicast branch for a node that the table has no entry for. -/
theorem unicast_outside (ha : (Driver.checkAdjacencyMatrix p.deviceID (env.mask none) p.adjM
      receiverID).1 = none) :
    (unicast frame receiverID).transcript (perform env) p =
        [⟨.checkAdjacencyMatrix none receiverID, none⟩] ∧
      (unicast frame receiverID).exec (perform env) p =
        (none, (perform env (.checkAdjacencyMatrix none receiverID) p).2) := by
  simp [unicast, SendM.checkAdjacencyMatrix, perform, ha]

/-- A node that the mask refuses. -/
theorem unicast_masked (ha : (Driver.checkAdjacencyMatrix p.deviceID (env.mask none) p.adjM
      receiverID).1 = some false) :
    (unicast frame receiverID).transcript (perform env) p =
        [⟨.checkAdjacencyMatrix none receiverID, some false⟩, ⟨.deallocateOut, ()⟩] ∧
      (unicast frame receiverID).exec (perform env) p =
        (some .sendError, (perform env (.checkAdjacencyMatrix none receiverID) p).2) := by
  simp [unicast, SendM.checkAdjacencyMatrix, SendM.deallocateOut, perform, ha]

variable (ha : (Driver.checkAdjacencyMatrix p.deviceID (env.mask none) p.adjM receiverID).1 =
  some true)

include ha

/-- A node that no open slot is connected to. -/
theorem unicast_unconnected (hc : p.manager.checkIfAlreadyConnected receiverID = false) :
    (unicast frame receiverID).transcript (perform env) p =
        [⟨.checkAdjacencyMatrix none receiverID, some true⟩,
          ⟨.checkIfAlreadyConnected receiverID, false⟩, ⟨.deallocateOut, ()⟩] ∧
      (unicast frame receiverID).exec (perform env) p =
        (some .sendError, (perform env (.checkAdjacencyMatrix none receiverID) p).2) := by
  simp [unicast, SendM.checkAdjacencyMatrix, SendM.checkIfAlreadyConnected, SendM.deallocateOut,
    perform, ha, hc]

variable (hc : p.manager.checkIfAlreadyConnected receiverID = true)

include hc

/-- The lookup asserts. -/
theorem unicast_asserted (hg : p.manager.getSocketHandlerByID receiverID = none) :
    (unicast frame receiverID).transcript (perform env) p =
        [⟨.checkAdjacencyMatrix none receiverID, some true⟩,
          ⟨.checkIfAlreadyConnected receiverID, true⟩, ⟨.getSocketHandlerByID receiverID, none⟩] ∧
      (unicast frame receiverID).exec (perform env) p =
        (none, (perform env (.checkAdjacencyMatrix none receiverID) p).2) := by
  simp [unicast, SendM.checkAdjacencyMatrix, SendM.checkIfAlreadyConnected,
    SendM.getSocketHandlerByID, perform, ha, hc, hg]

/-- A node on slot `i`: one send, and what follows it. -/
theorem unicast_sends {i : Fin maxClients}
    (hg : p.manager.getSocketHandlerByID receiverID = some i) :
    (unicast frame receiverID).transcript (perform env) p =
        ⟨.checkAdjacencyMatrix none receiverID, some true⟩ ::
          ⟨.checkIfAlreadyConnected receiverID, true⟩ ::
          ⟨.getSocketHandlerByID receiverID, some i⟩ ::
          ⟨.send i frame receiverID,
            (((p.manager.sockets i).send frame (env.send i)).1, (env.send i).epipe)⟩ ::
          ⟨.deallocateOut, ()⟩ ::
          (afterUnicast receiverID ((p.manager.sockets i).send frame (env.send i)).1
            (env.send i).epipe).transcript (perform env)
            (perform env (.send i frame receiverID)
              (perform env (.checkAdjacencyMatrix none receiverID) p).2).2 ∧
      (unicast frame receiverID).exec (perform env) p =
        (afterUnicast receiverID ((p.manager.sockets i).send frame (env.send i)).1
          (env.send i).epipe).exec (perform env)
          (perform env (.send i frame receiverID)
            (perform env (.checkAdjacencyMatrix none receiverID) p).2).2 := by
  simp [unicast, SendM.checkAdjacencyMatrix, SendM.checkIfAlreadyConnected,
    SendM.getSocketHandlerByID, SendM.send, SendM.deallocateOut, perform, ha, hc, hg]

end unicast

/-- The unicast branch in full: the mask, the pool, the lookup, and then the send. -/
theorem unicast_trace (env : SendEnv) (p : ClientSide) (frame : List UInt8) (receiverID : UInt32) :
    (unicast frame receiverID).trace (perform env) p =
      .checkAdjacencyMatrix none receiverID ::
        match (Driver.checkAdjacencyMatrix p.deviceID (env.mask none) p.adjM receiverID).1 with
        | none => []
        | some true =>
          .checkIfAlreadyConnected receiverID ::
            if p.manager.checkIfAlreadyConnected receiverID then
              .getSocketHandlerByID receiverID ::
                match p.manager.getSocketHandlerByID receiverID with
                | none => []
                | some i =>
                  .send i frame receiverID :: .deallocateOut ::
                    (afterUnicast receiverID ((p.manager.sockets i).send frame (env.send i)).1
                      (env.send i).epipe).trace (perform env)
                      (perform env (.send i frame receiverID)
                        (perform env (.checkAdjacencyMatrix none receiverID) p).2).2
            else [.deallocateOut]
        | some false => [.deallocateOut] := by
  rw [← Prog.transcript_fst]
  cases ha : (Driver.checkAdjacencyMatrix p.deviceID (env.mask none) p.adjM receiverID).1 with
  | none =>
    rw [(unicast_outside env p frame ha).1]
    rfl
  | some allowed =>
    cases allowed with
    | false =>
      rw [(unicast_masked env p frame ha).1]
      rfl
    | true =>
      cases hc : p.manager.checkIfAlreadyConnected receiverID with
      | false =>
        rw [(unicast_unconnected env p frame ha hc).1]
        rfl
      | true =>
        cases hg : p.manager.getSocketHandlerByID receiverID with
        | none =>
          rw [(unicast_asserted env p frame ha hc hg).1]
          rfl
        | some i =>
          rw [(unicast_sends env p frame ha hc hg).1]
          simp only [List.map_cons, Prog.transcript_fst, if_true]

/-- The result of the unicast branch; `none` is the access outside the table or the assertion in
the lookup by ID. -/
theorem unicast_result (env : SendEnv) (p : ClientSide) (frame : List UInt8)
    (receiverID : UInt32) : ((unicast frame receiverID).exec (perform env) p).1 =
      match (Driver.checkAdjacencyMatrix p.deviceID (env.mask none) p.adjM receiverID).1 with
      | none => none
      | some true =>
        if p.manager.checkIfAlreadyConnected receiverID then
          (p.manager.getSocketHandlerByID receiverID).bind fun i =>
            ((afterUnicast receiverID ((p.manager.sockets i).send frame (env.send i)).1
              (env.send i).epipe).exec (perform env) (perform env (.send i frame receiverID)
                (perform env (.checkAdjacencyMatrix none receiverID) p).2).2).1
        else some .sendError
      | some false => some .sendError := by
  cases ha : (Driver.checkAdjacencyMatrix p.deviceID (env.mask none) p.adjM receiverID).1 with
  | none =>
    rw [(unicast_outside env p frame ha).2]
  | some allowed =>
    cases allowed with
    | false =>
      rw [(unicast_masked env p frame ha).2]
    | true =>
      cases hc : p.manager.checkIfAlreadyConnected receiverID with
      | false =>
        rw [(unicast_unconnected env p frame ha hc).2]
        rfl
      | true =>
        cases hg : p.manager.getSocketHandlerByID receiverID with
        | none =>
          rw [(unicast_asserted env p frame ha hc hg).2]
          rfl
        | some i =>
          rw [(unicast_sends env p frame ha hc hg).2]
          rfl

section calls

variable {P : SendOp → Prop}

/-- The broadcast loop asks three things of a slot before it sends to it. -/
theorem broadcast_calls {frame : List UInt8} (hopened : ∀ i, P (.isOpened i))
    (hid : ∀ i, P (.getServerDeviceID i)) (hmask : ∀ i id, P (.checkAdjacencyMatrix (some i) id))
    (hsend : ∀ i, P (.send i frame broadcastID)) (status : SocketIpStatus)
    (is : List (Fin maxClients)) : (broadcast frame status is).Calls Answers P := by
  induction is generalizing status with
  | nil => trivial
  | cons i is ih =>
    refine ⟨hopened i, ?_⟩
    intro o _
    cases o with
    | false => exact ih status
    | true =>
      refine ⟨hid i, ?_⟩
      intro id _
      refine ⟨hmask i id, ?_⟩
      intro answer _
      rcases answer with _ | _ | _
      · trivial
      · exact ih status
      · exact ⟨hsend i, fun r _ => ih r.1⟩

theorem sendToAll_calls {frame : List UInt8}
    (hother : ∀ o, (∀ i data dest, o ≠ .send i data dest) → P o)
    (hsend : ∀ i, P (.send i frame broadcastID)) (unset : SocketIpStatus) :
    (sendToAll frame unset).Calls Answers P := by
  have loop : (broadcast frame unset (List.finRange maxClients)).Calls Answers P :=
    broadcast_calls (fun _ => hother _ (by simp)) (fun _ => hother _ (by simp))
      (fun _ _ => hother _ (by simp)) hsend unset _
  refine Prog.calls_bind loop ?_
  intro kept
  cases kept with
  | none => trivial
  | some status => exact ⟨hother _ (by simp), fun _ _ => trivial⟩

theorem afterUnicast_calls {receiverID : UInt32} (hlookup : P (.getSocketHandlerByID receiverID))
    (hclose : ∀ i, P (.close i)) (status : SocketIpStatus) (epipe : Bool) :
    (afterUnicast receiverID status epipe).Calls Answers P := by
  unfold afterUnicast
  split_ifs
  · trivial
  · refine ⟨hlookup, ?_⟩
    intro slot _
    cases slot with
    | none => trivial
    | some i => exact ⟨hclose i, fun _ _ => trivial⟩
  · trivial
  · trivial

/-- The send of the unicast branch stands behind the assertion that the ID is not 0. -/
theorem unicast_calls {frame : List UInt8} {receiverID : UInt32}
    (hother : ∀ o, (∀ i data dest, o ≠ .send i data dest) → P o)
    (hsend : receiverID ≠ 0 → ∀ i, P (.send i frame receiverID)) :
    (unicast frame receiverID).Calls Answers P := by
  have release (status : SendStatus) :
      (deallocateOut >>= fun _ => pure (some status) : SendM _).Calls Answers P :=
    ⟨hother _ (by simp), fun _ _ => trivial⟩
  have after (r : SocketIpStatus × Bool) :
      (afterUnicast receiverID r.1 r.2).Calls Answers P :=
    afterUnicast_calls (hother _ (by simp)) (fun _ => hother _ (by simp)) r.1 r.2
  refine ⟨hother _ (by simp), ?_⟩
  intro answer _
  rcases answer with _ | _ | _
  · trivial
  · exact release _
  · refine ⟨hother _ (by simp), ?_⟩
    intro connected _
    cases connected with
    | false => exact release _
    | true =>
      refine ⟨hother _ (by simp), ?_⟩
      intro slot hslot
      cases slot with
      | none => trivial
      | some i =>
        have hid : receiverID ≠ 0 := by
          intro h0
          cases hslot h0
        exact ⟨hsend hid i, fun r _ => ⟨hother _ (by simp), fun _ _ => after r⟩⟩

theorem readHeader_calls (hread : ∀ is, P (.readBytes is)) (hrelease : P .deallocateOut)
    (b : FwBuffer) : (readHeader b).Calls Answers P := by
  have header : (checkHeader b (headerScan b).index).Calls Answers P := by
    unfold checkHeader
    split_ifs
    · exact ⟨hread _, fun _ _ => ⟨hrelease, fun _ _ => trivial⟩⟩
    · exact ⟨hread _, fun _ _ => trivial⟩
    · exact ⟨hread _, fun _ _ => trivial⟩
  exact Prog.calls_bind (p := readBytes _) ⟨hread _, fun _ _ => trivial⟩
    fun _ => Prog.calls_bind header fun _ => trivial

/-- Whatever the buffer and the answers, send_handler does not send for ID 0. -/
theorem sendHandler_calls (hother : ∀ o, (∀ i data dest, o ≠ .send i data dest) → P o)
    (hsend : ∀ i data dest, dest ≠ 0 → P (.send i data dest)) (idProtocol : Bool)
    (unset : SocketIpStatus) (b : FwBuffer) :
    (sendHandler idProtocol unset b).Calls Answers P := by
  have header : (if idProtocol then readHeader b else pure 0).Calls Answers P := by
    split_ifs
    · exact readHeader_calls (fun _ => hother _ (by simp)) (hother _ (by simp)) b
    · trivial
  refine Prog.calls_bind header ?_
  intro receiverID
  split_ifs
  · exact sendToAll_calls hother (fun i => hsend i _ _ (by decide)) unset
  · exact unicast_calls hother fun h0 i => hsend i _ _ h0

end calls

end MeshNetwork.Driver
