import MeshNetwork.Framework.Runs
import MeshNetwork.Driver.OpenTask

namespace MeshNetwork.Node

open Driver

/-- What one call of send_handler can do to the members. -/
inductive SendEffect (env : SendEnv) (o : SendOp) (p : ClientSide) : ClientSide → Prop
  | quiet (adjM : Nat → UInt8) (h : ∀ i frame dest, o ≠ .send i frame dest) :
      SendEffect env o p { p with adjM := adjM }
  | sent (i : Fin maxClients) (frame : List UInt8) (dest : UInt32) (written : List UInt8)
      (h : o = .send i frame dest)
      (hr : (p.manager.sockets i).isOpened = true → (env.send i).status ≠ .disconnected) :
      SendEffect env o p
        { p with log := .offered i (p.manager.sockets i).fd dest written :: p.log }
  | reset (i : Fin maxClients) (frame : List UInt8) (dest : UInt32) (written : List UInt8)
      (h : o = .send i frame dest) (hopen : (p.manager.sockets i).isOpened = true)
      (hd : (env.send i).status = .disconnected) :
      SendEffect env o p
        { p.setPeer i (p.manager.sockets i).baseClose with
          log := .offered i (p.manager.sockets i).fd dest written :: p.log }
  | closed (i : Fin maxClients) (h : o = .close i) :
      SendEffect env o p { p with manager := p.manager.close i }

theorem perform_effect (env : SendEnv) (o : SendOp) (p : ClientSide) :
    SendEffect env o p (perform env o p).2 := by
  cases o with
  | send i frame dest =>
    have hset : p.manager.set i (p.manager.sockets i) = p.manager := by
      rw [TcpClientManager.set, Function.update_eq_self]
    by_cases hd : (p.manager.sockets i).isOpened = true ∧ (env.send i).status = .disconnected
    · simp only [perform, MultiTcpClientSocket.send, PeerSocket.send_socket, if_pos hd]
      exact .reset i frame dest _ rfl hd.1 hd.2
    · simp only [perform, MultiTcpClientSocket.send, PeerSocket.send_socket, if_neg hd, hset]
      exact .sent i frame dest _ rfl fun ho hs => hd ⟨ho, hs⟩
  | close i => exact .closed i rfl
  | checkAdjacencyMatrix site id => exact .quiet _ (by simp)
  | _ => exact .quiet p.adjM (by simp)

/-- The sending half of a node: openTask, any number of calls of send_handler in progress, and
the members they share. -/
structure Outbound where
  opener : Opener := {}
  side : ClientSide
  idProtocol : Bool := true
  calls : Nat → SendM (Option SendStatus) := fun _ => .pure none

/-- The node before anything has happened. -/
def Outbound.init (deviceID : UInt32) (adjM : Nat → UInt8) (idProtocol : Bool) : Outbound :=
  { side := { deviceID := deviceID, adjM := adjM }, idProtocol := idProtocol }

/-- Who moves next. stopSocketOpenTask is `stop` and then `closeAll`; shutdown closes all, too. -/
inductive OutboundAct where
  | openTask (env : OpenEnv)
  | sendHandler (k : Nat) (unset : SocketIpStatus) (b : FwBuffer)
  | send (k : Nat) (env : SendEnv)
  | stop
  | closeAll

section step

variable (addressToIp4 : List UInt8 → Bool)

/-- One atomic step of the tasks of a node. -/
def Outbound.step (s : Outbound) : OutboundAct → Option Outbound
  | .openTask env =>
    (openStep addressToIp4 env s.opener s.side).map fun (o, p) => { s with opener := o, side := p }
  | .sendHandler k unset b =>
    match s.calls k with
    | .pure _ =>
      some { s with calls := Function.update s.calls k (sendHandler s.idProtocol unset b) }
    | .call _ _ => none
  | .send k env =>
    (Prog.step (perform env) (s.calls k) s.side).map fun (c, p) =>
      { s with calls := Function.update s.calls k c, side := p }
  | .stop => some { s with opener := { s.opener with stop := true } }
  | .closeAll => some { s with side := s.side.closeAll }

/-- What a step does to openTask and to the shared members. -/
inductive OutboundEffect (s t : Outbound) : OutboundAct → Prop
  | openTask (env : OpenEnv) (hcalls : t.calls = s.calls)
      (h : OpenEffect addressToIp4 env s.opener s.side t.opener t.side) :
      OutboundEffect s t (.openTask env)
  | sendHandler (k : Nat) (unset : SocketIpStatus) (b : FwBuffer)
      (hcalls : t.calls = Function.update s.calls k (sendHandler s.idProtocol unset b))
      (ho : t.opener = s.opener) (hp : t.side = s.side) :
      OutboundEffect s t (.sendHandler k unset b)
  | send (k : Nat) (env : SendEnv) (o : SendOp) (c : o.Ans → SendM (Option SendStatus))
      (hk : s.calls k = .call o c)
      (hcalls : t.calls = Function.update s.calls k (c (perform env o s.side).1))
      (ho : t.opener = s.opener) (h : SendEffect env o s.side t.side) :
      OutboundEffect s t (.send k env)
  | stop (hcalls : t.calls = s.calls) (ho : t.opener = { s.opener with stop := true })
      (hp : t.side = s.side) : OutboundEffect s t .stop
  | closeAll (hcalls : t.calls = s.calls) (ho : t.opener = s.opener)
      (hp : t.side = s.side.closeAll) : OutboundEffect s t .closeAll

theorem Outbound.step_effect {s t : Outbound} {act : OutboundAct}
    (h : s.step addressToIp4 act = some t) : OutboundEffect addressToIp4 s t act := by
  cases act with
  | openTask env =>
    obtain ⟨⟨o, p⟩, he, rfl⟩ := Option.map_eq_some_iff.mp h
    exact .openTask env rfl (openStep_effect addressToIp4 he)
  | sendHandler k unset b =>
    cases hk : s.calls k with
    | pure a =>
      simp only [step, hk] at h
      obtain rfl := Option.some.inj h
      exact .sendHandler k unset b rfl rfl rfl
    | call o c => simp [step, hk] at h
  | send k env =>
    cases hk : s.calls k with
    | pure a => simp [step, hk, Prog.step] at h
    | call o c =>
      simp only [step, hk, Prog.step, Option.map_some] at h
      obtain rfl := Option.some.inj h
      exact .send k env o c hk rfl rfl (perform_effect env o s.side)
  | stop =>
    obtain rfl := Option.some.inj h
    exact .stop rfl rfl rfl
  | closeAll =>
    obtain rfl := Option.some.inj h
    exact .closeAll rfl rfl rfl

/-- A call that nothing comes between executes its program. -/
theorem Outbound.run_call (k : Nat) (env : SendEnv) (c : SendM (Option SendStatus))
    (s : Outbound) : ∃ n, run (Outbound.step addressToIp4)
      { s with calls := Function.update s.calls k c } (List.replicate n (.send k env)) =
        some { s with
          side := (c.exec (perform env) s.side).2
          calls := Function.update s.calls k (.pure (c.exec (perform env) s.side).1) } := by
  induction c generalizing s with
  | pure a => exact ⟨0, rfl⟩
  | call o c ih =>
    obtain ⟨n, hn⟩ := ih (perform env o s.side).1 { s with side := (perform env o s.side).2 }
    refine ⟨n + 1, ?_⟩
    simp only [List.replicate_succ, run_cons, step, Function.update_self, Prog.step,
      Option.map_some, Option.bind_some, Function.update_idem]
    exact hn

end step

/-- One iteration of openTask for the entry 10.0.0.x:80, with `x` the given digit, that connects to
the node `ID`. -/
def connectEnvs (x : UInt8) (ID : UInt32) : List OpenEnv :=
  [{ line := some [0x31, 0x30, 0x2E, 0x30, 0x2E, 0x30, 0x2E, x, 0x3A, 0x38, 0x30] }, {}, {}, {}, {},
    {}, { recv := { status := .success, bytes := idEntry ID, size := 6 } }, {}]

def connect (x : UInt8) (ID : UInt32) : List OutboundAct := (connectEnvs x ID).map .openTask

/-- One call of send_handler for a frame to `dest`, from first to last, with the same outcome for
every send. -/
def oneFrame (dest : UInt32) (status : SocketIpStatus) : List OutboundAct :=
  .sendHandler 0 .success (.ofBytes (idEntry baseID ++ idEntry dest ++ [7])) ::
    List.replicate 7 (.send 0 { send := fun _ => { status := status } })

section members

variable (p : ClientSide) (i : Fin maxClients) (s : PeerSocket)

@[simp] theorem setPeer_self : (p.setPeer i s).manager.sockets i =
    { p.manager.sockets i with toPeerSocket := s } := TcpClientManager.set_self ..

@[simp] theorem setPeer_ne {j : Fin maxClients} (h : j ≠ i) :
    (p.setPeer i s).manager.sockets j = p.manager.sockets j := TcpClientManager.set_ne _ _ h

/-- A new host leaves the connections and the stored IDs alone. -/
theorem setHost_peer (hostname : List UInt8) (port : UInt16) (j : Fin maxClients) :
    ((p.setSocket i ((p.manager.sockets i).setHost hostname port)).manager.sockets
      j).toPeerSocket = (p.manager.sockets j).toPeerSocket := by
  by_cases hij : j = i
  · rw [hij, ClientSide.setSocket, TcpClientManager.set_self]
    rfl
  · rw [ClientSide.setSocket, TcpClientManager.set_ne _ _ hij]

/-- After slot `i` has been closed an open socket is another one. -/
theorem ne_of_setPeer_closed {p : ClientSide} {i j : Fin maxClients} {s : PeerSocket}
    (hs : s.fd = none) {c : Conn} (hj : ((p.setPeer i s).manager.sockets j).fd = some c) :
    j ≠ i := by
  intro hji
  subst hji
  rw [setPeer_self] at hj
  cases hs.symm.trans hj

@[simp] theorem setPeer_log : (p.setPeer i s).log = p.log := rfl

@[simp] theorem setSocket_log (s : MultiTcpClientSocket) : (p.setSocket i s).log = p.log := rfl

@[simp] theorem setSocket_nextConn (s : MultiTcpClientSocket) :
    (p.setSocket i s).nextConn = p.nextConn := rfl

@[simp] theorem closeAll_sockets (m : TcpClientManager) (j : Fin maxClients) :
    m.closeAll.sockets j = (m.sockets j).close := rfl

@[simp] theorem close_self (m : TcpClientManager) (i : Fin maxClients) :
    (m.close i).sockets i = (m.sockets i).close := TcpClientManager.set_self ..

@[simp] theorem close_ne (m : TcpClientManager) {i j : Fin maxClients} (h : j ≠ i) :
    (m.close i).sockets j = m.sockets j := TcpClientManager.set_ne _ _ h

end members

end MeshNetwork.Node
