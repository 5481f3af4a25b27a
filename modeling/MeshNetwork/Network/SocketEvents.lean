import MeshNetwork.Framework.Histories
import MeshNetwork.Node.Inbound
import MeshNetwork.Node.Outbound

namespace MeshNetwork.Network

open Driver Node

/-- A connection is a pair of byte streams; its number names both of them at either end. -/
abbrev SocketEvent := StreamEvent Conn UInt8

abbrev SocketHistory := History Conn UInt8

/-- What the next statement of openTask does to the connection of its slot. -/
def openTaskEvents (env : OpenEnv) (o : Opener) (p : ClientSide) : List SocketEvent :=
  match o.pc with
  | .sendClientID i =>
    let socket := (p.manager.sockets i).toPeerSocket
    socket.fd.toList.map (.put · (socket.sendID p.deviceID env.send).written)
  | .recvSrvrID i =>
    let socket := (p.manager.sockets i).toPeerSocket
    socket.fd.toList.map (.took · (socket.recv 24 env.recv).bytes)
  | _ => []

/-- What an operation of send_handler does to a connection. -/
def sendEvents (env : SendEnv) (p : ClientSide) : SendOp → List SocketEvent
  | .send i frame _ =>
    let socket := (p.manager.sockets i).toPeerSocket
    socket.fd.toList.map (.put · (socket.send frame (env.send i)).written)
  | _ => []

/-- What a step of the sending half does to its connections. -/
def clientEvents (s : Outbound) : OutboundAct → List SocketEvent
  | .openTask env => openTaskEvents env s.opener s.side
  | .send k env => (s.calls k).next.toList.flatMap (sendEvents env s.side)
  | .sendHandler _ _ _ => []
  | .stop => []
  | .closeAll => []

/-- The endpoint to which a step connects, with the number of the new connection. -/
def connects (addressToIp4 : List UInt8 → Bool) (s : Outbound) :
    OutboundAct → Option (Conn × List UInt8 × UInt16)
  | .openTask env =>
    match s.opener.pc with
    | .openSocket i =>
      let socket := s.side.manager.sockets i
      if addressToIp4 socket.hostname = true ∧ env.connected = .success then
        some (s.side.nextConn, socket.hostname, socket.port)
      else none
    | _ => none
  | _ => none

/-- What the next statement of acceptTask does to the connection of its slot. -/
def acceptTaskEvents (env : AcceptEnv) (s : Inbound) : List SocketEvent :=
  match s.pc with
  | .recvClientID i _ =>
    let socket := (s.manager.sockets i).toPeerSocket
    socket.fd.toList.map (.took · (socket.recv 6 env.recv).bytes)
  | .sendSrvrID i _ =>
    let socket := (s.manager.sockets i).toPeerSocket
    socket.fd.toList.map (.put · (socket.sendID s.deviceID env.send).written)
  | _ => []

/-- What the next statement of a read task does to the connection of its slot. -/
def readTaskEvents (env : ReadEnv) (s : Inbound) (r : Reader) : List SocketEvent :=
  if r.pc = .recv then
    r.index.toList.flatMap fun i =>
      let socket := (s.manager.sockets i).toPeerSocket
      socket.fd.toList.map (.took · (socket.recv r.size.toNat env.recv).bytes)
  else []

/-- What a step of the receiving half does to its connections. -/
def serverEvents (s : Inbound) : InboundAct → List SocketEvent
  | .acceptTask env => acceptTaskEvents env s
  | .readTask n env => s.readers[n]?.toList.flatMap (readTaskEvents env s)
  | .stop => []
  | .closeAll => []
  | .shutdown => []

/-- The step accepts a connection: open takes the first closed slot. -/
def accepts (s : Inbound) : InboundAct → Bool
  | .acceptTask env =>
    s.pc = .openClient ∧ env.activity = true ∧ env.accepted = .success ∧
      s.manager.firstClosed.isSome
  | _ => false

end MeshNetwork.Network
