import MeshNetwork.Protocol
import Mathlib.Logic.Function.Basic
import Mathlib.Tactic.SplitIfs

namespace MeshNetwork.Driver

/-- `MAX_CLIENTS`: the slots of either socket pool and the entries of the mask. -/
def maxClients : Nat := 10

/-- `MAX_TASKS`: the entries of the pool of read tasks. -/
def maxTasks : Nat := 16

instance : NeZero maxClients := ⟨by decide⟩
instance : NeZero maxTasks := ⟨by decide⟩

-- Conditions on all slots are decided slot by slot, and those on an answer by looking at it,
-- whichever other instances are in scope.
instance (priority := 2000) decidableForallSlot (P : Fin maxClients → Prop) [DecidablePred P] :
    Decidable (∀ i, P i) := Nat.decidableForallFin P

instance (priority := 2000) decidableExistsSlot (P : Fin maxClients → Prop) [DecidablePred P] :
    Decidable (∃ i, P i) := Nat.decidableExistsFin P

instance (priority := 3000) decidableForallAnswer {α : Type*} (o : Option α) (P : α → Prop)
    [DecidablePred P] : Decidable (∀ a ∈ o, P a) := Option.decidableForallMem o

inductive SocketIpStatus where
  | success | failedToGetSocket | invalidIpAddress | failedToConnect
  | failedToSetSocketOptions | failedToBind | failedToListen | failedToAccept
  | interruptedTryAgain | disconnected | readError | sendError
  deriving DecidableEq, Repr

/-- A connection is named by a number that is never reused, unlike its descriptor. -/
abbrev Conn := Nat

/-- What the kernel and the base class answer one send on an open socket: the status, the
bytes taken and whether errno is EPIPE. -/
structure SendOutcome where
  status : SocketIpStatus
  sent : Nat := 0
  epipe : Bool := false
  deriving DecidableEq, Repr

/-- The answer to one recv on an open socket; `size` is the count written back. -/
structure RecvOutcome where
  status : SocketIpStatus
  bytes : List UInt8 := []
  size : Int := 0
  deriving DecidableEq, Repr

/-- What the two socket classes share: the descriptor of the base class `Drv::IpSocket`, with
the connection on it while it is open, and the ID the peer gave in the handshake. -/
structure PeerSocket where
  fd : Option Conn := none
  deviceID : UInt32 := 0
  deriving DecidableEq, Repr

structure SendResult where
  status : SocketIpStatus
  socket : PeerSocket
  written : List UInt8

structure RecvResult where
  status : SocketIpStatus
  socket : PeerSocket
  bytes : List UInt8

namespace PeerSocket

def isOpened (s : PeerSocket) : Bool := s.fd.isSome

/-- `IpSocket::close`, which knows nothing of the ID. -/
def baseClose (s : PeerSocket) : PeerSocket := { s with fd := none }

/-- `close` of the derived classes. -/
def close (s : PeerSocket) : PeerSocket := { s.baseClose with deviceID := 0 }

/-- `IpSocket::send`. A peer reset closes the socket by the base-class close; a closed socket
answers SOCK_DISCONNECTED. -/
def send (s : PeerSocket) (data : List UInt8) (o : SendOutcome) : SendResult :=
  if s.isOpened then
    ⟨o.status, if o.status = .disconnected then s.baseClose else s,
      if o.status = .success then data else data.take o.sent⟩
  else ⟨.disconnected, s, []⟩

/-- `IpSocket::recv` for at most `n` bytes. A finished peer closes the socket by the
base-class close. -/
def recv (s : PeerSocket) (n : Nat) (o : RecvOutcome) : RecvResult :=
  if s.isOpened then
    ⟨o.status, if o.status = .disconnected then s.baseClose else s,
      if o.status = .success then o.bytes.take n else []⟩
  else ⟨.disconnected, s, []⟩

end PeerSocket

/-- The local array `data` after a recv: what was not received keeps its stack contents. -/
def fill (received : List UInt8) (stack : Nat → UInt8) (k : Nat) : UInt8 :=
  received.getD k (stack k)

namespace PeerSocket

/-- The body of sendClientID and of sendSrvrID. -/
def sendID (s : PeerSocket) (ID : UInt32) (o : SendOutcome) : SendResult :=
  let r := s.send (idEntry ID) o
  if r.status ≠ .success then { r with socket := r.socket.baseClose } else r

/-- The body of recvClientID and of recvSrvrID; `n` is the size of the array `data`. -/
def recvID (n : Nat) (s : PeerSocket) (o : RecvOutcome) (stack : Nat → UInt8) : RecvResult :=
  let r := s.recv n o
  let data := fill r.bytes stack
  if r.status ≠ .success then { r with socket := r.socket.baseClose }
  else if data 0 ≠ tagI && data 1 ≠ tagD then
    { r with status := .failedToGetSocket, socket := r.socket.baseClose }
  else
    { r with socket := { r.socket with
        deviceID := ofBigEndian (data 2) (data 3) (data 4) (data 5) } }

/-- A handshake message that the receiving side accepts: a successful recv of `n` bytes at most
whose first byte or whose second is right. -/
def Accepted (n : Nat) (o : RecvOutcome) (stack : Nat → UInt8) : Prop :=
  o.status = .success ∧
    (fill (o.bytes.take n) stack 0 = tagI ∨ fill (o.bytes.take n) stack 1 = tagD)

instance (n : Nat) (o : RecvOutcome) (stack : Nat → UInt8) : Decidable (Accepted n o stack) :=
  inferInstanceAs (Decidable (_ ∧ _))

/-- The ID taken from the local array after a recv, received or not. -/
def idIn (received : List UInt8) (stack : Nat → UInt8) : UInt32 :=
  ofBigEndian (fill received stack 2) (fill received stack 3) (fill received stack 4)
    (fill received stack 5)

@[simp] theorem baseClose_fd (s : PeerSocket) : s.baseClose.fd = none := rfl
@[simp] theorem baseClose_deviceID (s : PeerSocket) : s.baseClose.deviceID = s.deviceID := rfl
@[simp] theorem close_fd (s : PeerSocket) : s.close.fd = none := rfl
@[simp] theorem close_deviceID (s : PeerSocket) : s.close.deviceID = 0 := rfl

theorem isOpened_iff (s : PeerSocket) : s.isOpened = true ↔ ∃ c, s.fd = some c :=
  Option.isSome_iff_exists

theorem baseClose_of_closed {s : PeerSocket} (h : s.isOpened = false) : s.baseClose = s := by
  obtain ⟨fd, ID⟩ := s
  cases fd with
  | none => rfl
  | some c => cases h

theorem send_status (s : PeerSocket) (data : List UInt8) (o : SendOutcome) :
    (s.send data o).status = if s.isOpened then o.status else .disconnected := by
  rw [send]
  split_ifs <;> rfl

theorem send_socket (s : PeerSocket) (data : List UInt8) (o : SendOutcome) :
    (s.send data o).socket =
      if s.isOpened = true ∧ o.status = .disconnected then s.baseClose else s := by
  by_cases ho : s.isOpened = true <;> simp [send, ho]

theorem recv_status (s : PeerSocket) (n : Nat) (o : RecvOutcome) :
    (s.recv n o).status = if s.isOpened then o.status else .disconnected := by
  rw [recv]
  split_ifs <;> rfl

theorem recv_socket (s : PeerSocket) (n : Nat) (o : RecvOutcome) :
    (s.recv n o).socket =
      if s.isOpened = true ∧ o.status = .disconnected then s.baseClose else s := by
  by_cases ho : s.isOpened = true <;> simp [recv, ho]

theorem sendID_cases (s : PeerSocket) (ID : UInt32) (o : SendOutcome) :
    (s.sendID ID o).status = .success ∧ s.isOpened = true ∧ o.status = .success ∧
        (s.sendID ID o).socket = s ∨
      (s.sendID ID o).status ≠ .success ∧ (s.sendID ID o).socket = s.baseClose := by
  by_cases ho : s.isOpened = true
  · by_cases hs : o.status = .success
    · exact .inl (by simp [sendID, send, ho, hs])
    · right
      simp only [sendID, send, ho, if_true, ne_eq, hs, not_false_eq_true, true_and]
      split_ifs <;> rfl
  · exact .inr (by simp [sendID, send, ho])

/-- A handshake message that is sent is on its way as a whole. -/
theorem sendID_written {s : PeerSocket} {o : SendOutcome} (hopen : s.isOpened = true)
    (ho : o.status = .success) (ID : UInt32) : (s.sendID ID o).written = idEntry ID := by
  simp [sendID, send, hopen, ho]

/-- The receiving half of a handshake stores what the array holds, or closes the socket by the
base-class close and keeps the old ID. -/
theorem recvID_cases (n : Nat) (s : PeerSocket) (o : RecvOutcome) (stack : Nat → UInt8) :
    (s.recvID n o stack).status = .success ∧ s.isOpened = true ∧ Accepted n o stack ∧
        (s.recvID n o stack).socket = { s with deviceID := idIn (o.bytes.take n) stack } ∧
        (s.recvID n o stack).bytes = o.bytes.take n ∨
      (s.recvID n o stack).status ≠ .success ∧ (s.recvID n o stack).socket = s.baseClose := by
  by_cases ho : s.isOpened = true
  · by_cases hs : o.status = .success
    · by_cases ht : fill (o.bytes.take n) stack 0 = tagI ∨ fill (o.bytes.take n) stack 1 = tagD
      · refine .inl ⟨?_, ho, ⟨hs, ht⟩, ?_, ?_⟩ <;>
          rcases ht with ht | ht <;> simp [recvID, recv, ho, hs, ht, idIn]
      · obtain ⟨hfirst, hsecond⟩ := not_or.mp ht
        exact .inr (by simp [recvID, recv, ho, hs, hfirst, hsecond])
    · right
      simp only [recvID, recv, ho, if_true, ne_eq, hs, not_false_eq_true, true_and]
      split_ifs <;> rfl
  · exact .inr (by simp [recvID, recv, ho])

/-- With a complete entry the stored ID is the announced one. -/
theorem announced_idIn {received : List UInt8} (h : 6 ≤ received.length) (stack : Nat → UInt8) :
    announced received = some (idIn received stack) := by
  match received, h with
  | _ :: _ :: _ :: _ :: _ :: _ :: _, _ => rfl

end PeerSocket

/-- `MultiTcpServerSocket`: `deviceID` is its clientDeviceID. Its serverFd, which startup sets and
no task looks at, is kept beside the pool. -/
structure MultiTcpServerSocket extends PeerSocket where
  deriving DecidableEq, Repr

/-- `MultiTcpClientSocket`: `deviceID` is its serverDeviceID. The configured host is kept as
the string in m_hostname, which string_copy pads with zeros. -/
structure MultiTcpClientSocket extends PeerSocket where
  hostname : List UInt8 := []
  port : UInt16 := 0
  deriving DecidableEq, Repr

namespace MultiTcpServerSocket

def getClientDeviceID (s : MultiTcpServerSocket) : UInt32 := s.deviceID

/-- `open`: accept and the time-out options give either a new connection or a status. -/
def openSocket (s : MultiTcpServerSocket) (c : Conn) (accepted : SocketIpStatus) :
    SocketIpStatus × MultiTcpServerSocket :=
  if accepted = .success then (.success, { s with fd := some c })
  else (accepted, { s with toPeerSocket := s.toPeerSocket.baseClose })

def recvClientID (s : MultiTcpServerSocket) (o : RecvOutcome) (stack : Nat → UInt8) :
    SocketIpStatus × MultiTcpServerSocket :=
  let r := s.toPeerSocket.recvID 6 o stack
  (r.status, { s with toPeerSocket := r.socket })

def sendSrvrID (s : MultiTcpServerSocket) (ID : UInt32) (o : SendOutcome) :
    SocketIpStatus × MultiTcpServerSocket :=
  let r := s.toPeerSocket.sendID ID o
  (r.status, { s with toPeerSocket := r.socket })

def close (s : MultiTcpServerSocket) : MultiTcpServerSocket :=
  { s with toPeerSocket := s.toPeerSocket.close }

theorem recvClientID_cases (s : MultiTcpServerSocket) (o : RecvOutcome) (stack : Nat → UInt8) :
    s.recvClientID o stack =
        (.success, { s with deviceID := PeerSocket.idIn (o.bytes.take 6) stack }) ∧
        s.isOpened = true ∧ PeerSocket.Accepted 6 o stack ∨
      ∃ status, status ≠ .success ∧
        s.recvClientID o stack = (status, { s with toPeerSocket := s.baseClose }) := by
  rcases s.recvID_cases 6 o stack with ⟨hs, hopen, ha, hsock, -⟩ | ⟨hs, hsock⟩
  · exact .inl ⟨Prod.ext hs (by rw [recvClientID, hsock]), hopen, ha⟩
  · exact .inr ⟨_, hs, Prod.ext rfl (by rw [recvClientID, hsock])⟩

theorem sendSrvrID_cases (s : MultiTcpServerSocket) (ID : UInt32) (o : SendOutcome) :
    s.sendSrvrID ID o = (.success, s) ∧ s.isOpened = true ∧ o.status = .success ∨
      ∃ status, status ≠ .success ∧
        s.sendSrvrID ID o = (status, { s with toPeerSocket := s.baseClose }) := by
  rcases s.sendID_cases ID o with ⟨hs, hopen, ho, hsock⟩ | ⟨hs, hsock⟩
  · exact .inl ⟨Prod.ext hs (by rw [sendSrvrID, hsock]), hopen, ho⟩
  · exact .inr ⟨_, hs, Prod.ext rfl (by rw [sendSrvrID, hsock])⟩

end MultiTcpServerSocket

namespace MultiTcpClientSocket

def getServerDeviceID (s : MultiTcpClientSocket) : UInt32 := s.deviceID

def setHost (s : MultiTcpClientSocket) (hostname : List UInt8) (port : UInt16) :
    MultiTcpClientSocket :=
  { s with hostname := hostname, port := port }

/-- `TcpClientSocket::open` of the base class: the host string is converted to an address and
connected to. The base class asserts that the socket is not open. -/
def openSocket (addressToIp4 : List UInt8 → Bool) (s : MultiTcpClientSocket) (c : Conn)
    (connected : SocketIpStatus) : Option (SocketIpStatus × MultiTcpClientSocket) :=
  if s.isOpened then none
  else if addressToIp4 s.hostname = false then some (.invalidIpAddress, s)
  else if connected = .success then some (.success, { s with fd := some c })
  else some (connected, s)

/-- `send` of the base class, with the bytes that the kernel takes. -/
def send (s : MultiTcpClientSocket) (data : List UInt8) (o : SendOutcome) :
    SocketIpStatus × MultiTcpClientSocket × List UInt8 :=
  let r := s.toPeerSocket.send data o
  (r.status, { s with toPeerSocket := r.socket }, r.written)

def sendClientID (s : MultiTcpClientSocket) (ID : UInt32) (o : SendOutcome) :
    SocketIpStatus × MultiTcpClientSocket :=
  let r := s.toPeerSocket.sendID ID o
  (r.status, { s with toPeerSocket := r.socket })

def recvSrvrID (s : MultiTcpClientSocket) (o : RecvOutcome) (stack : Nat → UInt8) :
    SocketIpStatus × MultiTcpClientSocket :=
  let r := s.toPeerSocket.recvID 24 o stack
  (r.status, { s with toPeerSocket := r.socket })

def close (s : MultiTcpClientSocket) : MultiTcpClientSocket :=
  { s with toPeerSocket := s.toPeerSocket.close }

theorem send_fst (s : MultiTcpClientSocket) (data : List UInt8) (o : SendOutcome) :
    (s.send data o).1 = if s.isOpened then o.status else .disconnected :=
  s.toPeerSocket.send_status data o

/-- A send keeps the configuration and the ID; a failed one may close the socket. -/
theorem send_socket (s : MultiTcpClientSocket) (data : List UInt8) (o : SendOutcome) :
    (s.send data o).2.1 = if s.isOpened = true ∧ o.status = .disconnected
      then { s with toPeerSocket := s.toPeerSocket.baseClose } else s := by
  simp only [send, PeerSocket.send_socket]
  split_ifs <;> rfl

theorem sendClientID_cases (s : MultiTcpClientSocket) (ID : UInt32) (o : SendOutcome) :
    s.sendClientID ID o = (.success, s) ∧ s.isOpened = true ∧ o.status = .success ∨
      ∃ status, status ≠ .success ∧
        s.sendClientID ID o = (status, { s with toPeerSocket := s.baseClose }) := by
  rcases s.sendID_cases ID o with ⟨hs, hopen, ho, hsock⟩ | ⟨hs, hsock⟩
  · exact .inl ⟨Prod.ext hs (by rw [sendClientID, hsock]), hopen, ho⟩
  · exact .inr ⟨_, hs, Prod.ext rfl (by rw [sendClientID, hsock])⟩

theorem recvSrvrID_cases (s : MultiTcpClientSocket) (o : RecvOutcome) (stack : Nat → UInt8) :
    s.recvSrvrID o stack =
        (.success, { s with deviceID := PeerSocket.idIn (o.bytes.take 24) stack }) ∧
        s.isOpened = true ∧ PeerSocket.Accepted 24 o stack ∨
      ∃ status, status ≠ .success ∧
        s.recvSrvrID o stack = (status, { s with toPeerSocket := s.baseClose }) := by
  rcases s.recvID_cases 24 o stack with ⟨hs, hopen, ha, hsock, -⟩ | ⟨hs, hsock⟩
  · exact .inl ⟨Prod.ext hs (by rw [recvSrvrID, hsock]), hopen, ha⟩
  · exact .inr ⟨_, hs, Prod.ext rfl (by rw [recvSrvrID, hsock])⟩

/-- `sizeof(hostname)` in compareHost: the size of a pointer on the 64-bit target. -/
def sizeofPointer : Nat := 8

/-- `compareHost` looks at the first bytes of the two arrays, whatever stands after a
terminator, and then at the ports. -/
def compareHost (s : MultiTcpClientSocket) (hostname : List UInt8) (port : UInt16) : Bool :=
  (List.range sizeofPointer).all (fun i => hostname.getD i 0 == s.hostname.getD i 0) &&
    port == s.port

end MultiTcpClientSocket

end MeshNetwork.Driver
