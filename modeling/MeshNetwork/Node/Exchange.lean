import MeshNetwork.Driver.OpenTask
import MeshNetwork.Node.Inbound

namespace MeshNetwork.Node

open Driver

/-- How TCP cuts the streams of a connection for the two handshakes, and the stack under the local
arrays that receive them. -/
structure Segments where
  up : Nat
  down : Nat
  upStack : Nat → UInt8 := fun _ => 0
  downStack : Nat → UInt8 := fun _ => 0

/-- openTask of one node at its handshake, acceptTask of another at the other end of the connection,
and the bytes on their way between the two. `sent` is what the first node has sent behind its ID,
and `read` what the read task of the second has received. -/
structure Exchange where
  opener : Opener
  side : ClientSide
  inbound : Inbound
  up : List UInt8 := []
  down : List UInt8 := []
  sent : List UInt8 := []
  read : List UInt8 := []

inductive ExchangeAct where
  | openTask (send : SendOutcome) (recv : SocketIpStatus)
  | acceptTask (send : SendOutcome) (recv : SocketIpStatus)
  | frame (data : List UInt8)
  | readTask (k : Nat)

/-- A recv of `n` bytes at most can give the first `k` bytes that are on their way. -/
def Arrives (n k : Nat) (stream : List UInt8) : Prop := 0 < k ∧ k ≤ n ∧ k ≤ stream.length

instance (n k : Nat) (stream : List UInt8) : Decidable (Arrives n k stream) :=
  inferInstanceAs (Decidable (_ ∧ _))

/-- A recv that takes the first `k` bytes of what is on its way. -/
def received (recv : SocketIpStatus) (k : Nat) (stream : List UInt8) : RecvOutcome :=
  { status := recv, bytes := stream.take k, size := k }

def left (recv : SocketIpStatus) (k : Nat) (stream : List UInt8) : List UInt8 :=
  if recv = .success then stream.drop k else stream

namespace Exchange

variable (addressToIp4 : List UInt8 → Bool) (g : Segments)

/-- sendClientID or recvSrvrID of openTask. -/
def openTask (x : Exchange) (send : SendOutcome) (recv : SocketIpStatus) : Option Exchange :=
  match x.opener.pc with
  | .sendClientID i =>
    (openStep addressToIp4 { send := send } x.opener x.side).map fun (o, p) =>
      { x with
        opener := o
        side := p
        up := x.up ++
          ((x.side.manager.sockets i).toPeerSocket.sendID x.side.deviceID send).written }
  | .recvSrvrID _ =>
    if recv = .success → Arrives 24 g.down x.down then
      (openStep addressToIp4 { recv := received recv g.down x.down, stack := g.downStack }
        x.opener x.side).map fun (o, p) =>
          { x with
            opener := o
            side := p
            down := left recv g.down x.down }
    else none
  | _ => none

/-- recvClientID or sendSrvrID of acceptTask. -/
def acceptTask (x : Exchange) (send : SendOutcome) (recv : SocketIpStatus) : Option Exchange :=
  match x.inbound.pc with
  | .recvClientID _ _ =>
    if recv = .success → Arrives 6 g.up x.up then
      (x.inbound.acceptStep { recv := received recv g.up x.up, stack := g.upStack }).map fun s =>
        { x with
          inbound := s
          up := left recv g.up x.up }
    else none
  | .sendSrvrID j _ =>
    (x.inbound.acceptStep { send := send }).map fun s =>
      { x with
        inbound := s
        down := x.down ++
          ((x.inbound.manager.sockets j).toPeerSocket.sendID x.inbound.deviceID send).written }
  | _ => none

/-- Frames follow the ID at once; the read task receives when the handshake of its side is over. -/
def step (x : Exchange) : ExchangeAct → Option Exchange
  | .openTask send recv => x.openTask addressToIp4 g send recv
  | .acceptTask send recv => x.acceptTask g send recv
  | .frame data =>
    match x.opener.pc with
    | .sendClientID _ => none
    | _ =>
      some { x with
        up := x.up ++ data
        sent := x.sent ++ data }
  | .readTask k =>
    match x.inbound.pc with
    | .search _ _ =>
      if Arrives x.up.length k x.up then
        some { x with
          up := x.up.drop k
          read := x.read ++ x.up.take k }
      else none
    | _ => none

end Exchange

/-- Both nodes stand before the handshake on a connection that is still silent: openTask with slot
`i`, acceptTask with slot `j` and the connection `d`. -/
structure Starts (i j : Fin maxClients) (d : Conn) (c v : UInt32) (x : Exchange) : Prop where
  opener : x.opener.pc = .sendClientID i
  accept : x.inbound.pc = .recvClientID j d
  clientID : x.side.deviceID = c
  serverID : x.inbound.deviceID = v
  up : x.up = []
  down : x.down = []
  sent : x.sent = []
  read : x.read = []

/-- Both handshakes have reported SOCK_SUCCESS. -/
structure Succeeded (j : Fin maxClients) (d : Conn) (x : Exchange) : Prop where
  opener : x.opener.pc = .loop
  accept : x.inbound.pc = .search j d

/-- Each side knows the ID of the other, and the read task receives what was sent behind the ID. -/
structure Agreed (i j : Fin maxClients) (c v : UInt32) (x : Exchange) : Prop where
  client : (x.inbound.manager.sockets j).getClientDeviceID = c
  server : (x.side.manager.sockets i).getServerDeviceID = v
  stream : x.read ++ x.up = x.sent

/-- The first recv of the server gets the whole ID of the client, and so does the client, unless the
array holds the rest of the ID already. -/
structure Whole (g : Segments) (v : UInt32) : Prop where
  up : g.up = 6
  down : ∀ k, 2 ≤ k → k < 6 → g.down ≤ k → g.downStack k = (idEntry v).getD k 0

end MeshNetwork.Node
