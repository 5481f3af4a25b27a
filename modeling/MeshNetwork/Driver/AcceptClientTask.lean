import MeshNetwork.Driver.ServerManager

namespace MeshNetwork.Driver

/-- The next statement of acceptTask. `i` is the slot that open has given, and `c` names the
connection on it; `k` is an entry of the task pool. -/
inductive AcceptPc where
  | head
  | openClient
  | recvClientID (i : Fin maxClients) (c : Conn)
  | close (i : Fin maxClients)
  | sendSrvrID (i : Fin maxClients) (c : Conn)
  | search (i : Fin maxClients) (c : Conn)
  | assign (k : Fin maxTasks) (i : Fin maxClients) (c : Conn)
  | start (k : Fin maxTasks) (i : Fin maxClients) (c : Conn)
  | join (k : Fin maxTasks)
  | loop
  | finalJoin (k : Fin maxTasks)
  | finalClose
  | done
  deriving DecidableEq, Repr

/-- The next statement of readTask. -/
inductive ReadPc where
  | starting
  | isOpened
  | check
  | recv
  | close
  | handUp
  | loop
  | finalClose
  | ended
  deriving DecidableEq, Repr

/-- One call of sendBuffer: the size that getBuffer gave and the size handed up, what recv has
written, and whether the status is RECV_OK. -/
structure HandedUp where
  allocated : UInt32
  size : UInt32
  data : List UInt8
  ok : Bool
  deriving DecidableEq, Repr

/-- A task that acceptTask has started for the client on `slot`, whose connection is `conn`. Its
local `index` is `none` until it has been copied from the parameter. -/
structure Reader where
  slot : Fin maxClients
  conn : Conn
  entry : Fin maxTasks
  pc : ReadPc := .starting
  index : Option (Fin maxClients) := none
  status : SocketIpStatus := .success
  allocated : UInt32 := 0
  size : Int := 0
  data : List UInt8 := []
  handed : List HandedUp := []
  deriving DecidableEq, Repr

def Reader.live (r : Reader) : Bool := r.pc ≠ .ended

/-- What has happened on the accepted connections, newest first in a log. -/
inductive ServerEvent where
  | clientID (conn : Conn) (id : Option UInt32)
  | admitted (slot : Fin maxClients) (conn : Conn)
  deriving DecidableEq, Repr

/-- The receiving half of a node: the pool, acceptTask with its locals, and the tasks started so
far. `params` is the one local that every read task is given a pointer to; it is `none` while it
holds nothing and after the frame of acceptTask is gone. -/
structure Inbound where
  manager : MultiTcpServerManager := {}
  nextConn : Conn := 0
  pc : AcceptPc := .head
  params : Option (Fin maxClients) := none
  joinStatus : Int := 0
  taskCount : Nat := 0
  started : Fin maxTasks → Bool := fun _ => false
  readers : List Reader := []
  stop : Bool := false
  idProtocol : Bool := true
  deviceID : UInt32
  log : List ServerEvent := []

/-- What a statement of acceptTask meets. -/
structure AcceptEnv where
  activity : Bool := true
  accepted : SocketIpStatus := .success
  recv : RecvOutcome := { status := .success }
  stack : Nat → UInt8 := fun _ => 0
  send : SendOutcome := { status := .success }
  join : Int := 0

/-- What a statement of readTask meets; `index` is the word that a pointer into a dead frame
yields. -/
structure ReadEnv where
  index : Fin maxClients := 0
  bufferSize : UInt32 := 1024
  recv : RecvOutcome := { status := .success }

namespace Inbound

/-- One round of a join loop. The result of the latest pthread_tryjoin_np is looked at in the rounds
for entries that are not started, too. -/
def tryJoin (s : Inbound) (k : Fin maxTasks) (env : AcceptEnv) : Inbound :=
  let joinStatus := if s.started k then env.join else s.joinStatus
  if joinStatus = 0 then
    { s with
      joinStatus := joinStatus
      taskCount := s.taskCount - 1
      started := Function.update s.started k false }
  else { s with joinStatus := joinStatus }

/-- The next round of a join loop, or what follows the loop. -/
def nextRound (k : Fin maxTasks) (round : Fin maxTasks → AcceptPc) (after : AcceptPc) : AcceptPc :=
  if h : k.val + 1 < maxTasks then round ⟨k.val + 1, h⟩ else after

/-- The first entry of the task pool that is not started. -/
def freeTask (s : Inbound) : Option (Fin maxTasks) := Fin.find? fun k => !s.started k

/-- One statement of acceptTask. The local `status` is SOCK_SUCCESS whenever the loop condition
looks at it, so m_stop alone decides. -/
def acceptStep (env : AcceptEnv) (s : Inbound) : Option Inbound :=
  match s.pc with
  | .head =>
    if s.taskCount ≠ maxTasks ∧ s.manager.getNConnected < maxClients then
      some { s with pc := .openClient }
    else some { s with pc := .join 0 }
  | .openClient =>
    match s.manager.openClient env.activity s.nextConn env.accepted with
    | (.success, some i, m) =>
      some { s with
        manager := m
        nextConn := s.nextConn + 1
        pc := if s.idProtocol then .recvClientID i s.nextConn else .search i s.nextConn }
    | (_, _, m) => some { s with manager := m, pc := .loop }
  | .recvClientID i c =>
    let (status, socket) := (s.manager.sockets i).recvClientID env.recv env.stack
    if status = .success then
      some { s with
        manager := s.manager.set i socket
        pc := .sendSrvrID i c
        log := (s.manager.sockets i).fd.toList.map
          (.clientID · (announced (env.recv.bytes.take 6))) ++ s.log }
    else some { s with manager := s.manager.set i socket, pc := .close i }
  | .close i => some { s with manager := s.manager.close i, pc := .loop }
  | .sendSrvrID i c =>
    let (status, socket) := (s.manager.sockets i).sendSrvrID s.deviceID env.send
    some { s with
      manager := s.manager.set i socket
      pc := if status = .success then .search i c else .loop }
  | .search i c =>
    match s.freeTask with
    | none => some { s with pc := .loop, log := .admitted i c :: s.log }
    | some k =>
      some { s with
        taskCount := s.taskCount + 1
        started := Function.update s.started k true
        pc := .assign k i c
        log := .admitted i c :: s.log }
  | .assign k i c => some { s with params := some i, pc := .start k i c }
  | .start k i c =>
    some { s with readers := s.readers ++ [{ slot := i, conn := c, entry := k }], pc := .loop }
  | .join k => some { s.tryJoin k env with pc := nextRound k .join .loop }
  | .loop => some { s with pc := if s.stop then .finalJoin 0 else .head }
  | .finalJoin k => some { s.tryJoin k env with pc := nextRound k .finalJoin .finalClose }
  | .finalClose => some { s with manager := s.manager.closeAll, params := none, pc := .done }
  | .done => none

/-- `MAXIMUM_SIZE` stands in for a size that is negative as an I32. -/
def recvSize (allocated : UInt32) : Int :=
  if 0 ≤ allocated.toInt32.toInt then allocated.toInt32.toInt else 0x7FFFFFFF

/-- The read loop goes on after these. -/
def readOn (status : SocketIpStatus) : Prop := status = .success ∨ status = .interruptedTryAgain

instance (status : SocketIpStatus) : Decidable (readOn status) :=
  inferInstanceAs (Decidable (_ ∨ _))

/-- One statement of readTask at slot `i`, its local `index`. -/
def readStepAt (env : ReadEnv) (s : Inbound) (r : Reader) (i : Fin maxClients) :
    Reader × MultiTcpServerManager :=
  match r.pc with
  | .isOpened =>
    ({ r with pc := if (s.manager.sockets i).isOpened then .check else .finalClose }, s.manager)
  | .check =>
    if (s.manager.sockets i).isOpened ∧ s.stop = false then
      if env.bufferSize = 0 then
        -- an empty buffer goes up as it is, and `continue` leads to the loop condition
        ({ r with handed := r.handed ++ [⟨0, 0, [], false⟩], pc := .loop }, s.manager)
      else
        ({ r with allocated := env.bufferSize, size := recvSize env.bufferSize, pc := .recv },
          s.manager)
    else ({ r with pc := .loop }, s.manager)
  | .recv =>
    let res := (s.manager.sockets i).toPeerSocket.recv r.size.toNat env.recv
    ({ r with
        status := res.status
        size := if (s.manager.sockets i).isOpened then env.recv.size else r.size
        data := res.bytes
        pc := if readOn res.status then .handUp else .close },
      s.manager.setPeer i res.socket)
  | .close =>
    ({ r with pc := .handUp }, s.manager.setPeer i (s.manager.sockets i).toPeerSocket.close)
  | .handUp =>
    let size := if readOn r.status then (Int32.ofInt r.size).toUInt32 else r.allocated
    ({ r with
        handed := r.handed ++ [⟨r.allocated, size, r.data, r.status = .success⟩]
        pc := .loop }, s.manager)
  | .loop =>
    ({ r with pc := if s.stop = false ∧ readOn r.status then .isOpened else .finalClose },
      s.manager)
  | .finalClose => ({ r with pc := .ended }, s.manager.close i)
  | .starting => (r, s.manager)
  | .ended => (r, s.manager)

/-- One statement of read task `n`, which begins by copying its index. -/
def readStep (env : ReadEnv) (s : Inbound) (n : Nat) : Option Inbound :=
  match s.readers[n]? with
  | none => none
  | some r =>
    if r.pc = .ended then none
    else if r.pc = .starting then
      let r' := { r with index := some (s.params.getD env.index), pc := .isOpened }
      some { s with readers := s.readers.set n r' }
    else r.index.map fun i =>
      let (r', m) := readStepAt env s r i
      { s with readers := s.readers.set n r', manager := m }

end Inbound

/-- Who moves next on the receiving side. stopAcceptTask is `stop` and then `closeAll`. -/
inductive InboundAct where
  | acceptTask (env : AcceptEnv)
  | readTask (n : Nat) (env : ReadEnv)
  | stop
  | closeAll
  | shutdown

def Inbound.step (s : Inbound) : InboundAct → Option Inbound
  | .acceptTask env => s.acceptStep env
  | .readTask n env => s.readStep env n
  | .stop => some { s with stop := true }
  | .closeAll => some { s with manager := s.manager.closeAll }
  | .shutdown => some { s with manager := s.manager.shutdown }

end MeshNetwork.Driver
