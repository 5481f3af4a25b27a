import MeshNetwork.Driver.HostEntry
import MeshNetwork.Driver.SendHandler

namespace MeshNetwork.Driver

/-- The next statement of openTask; `i` is its local `index`. -/
inductive OpenPc where
  | entry
  | check
  | free
  | setHost (i : Fin maxClients)
  | openSocket (i : Fin maxClients)
  | sendClientID (i : Fin maxClients)
  | recvSrvrID (i : Fin maxClients)
  | close (i : Fin maxClients)
  | loop
  | closeAll
  | done
  deriving DecidableEq, Repr

/-- openTask with its locals and the member m_stop. -/
structure Opener where
  pc : OpenPc := .entry
  hostname_s : List UInt8 := List.replicate 20 0
  port : Int32 := -1
  stop : Bool := false
  deriving DecidableEq, Repr

/-- `static_cast<U16>(port)`. -/
def Opener.port16 (o : Opener) : UInt16 := o.port.toUInt32.toUInt16

/-- What one statement meets: the line that getHostFileEntry gives, if any, the outcomes of the
socket calls, and the stack under the local array of recvSrvrID. -/
structure OpenEnv where
  line : Option (List UInt8) := none
  connected : SocketIpStatus := .success
  send : SendOutcome := { status := .success }
  recv : RecvOutcome := { status := .success }
  stack : Nat → UInt8 := fun _ => 0

def ClientSide.setSocket (p : ClientSide) (i : Fin maxClients) (s : MultiTcpClientSocket) :
    ClientSide :=
  { p with manager := p.manager.set i s }

def ClientSide.closeAll (p : ClientSide) : ClientSide := { p with manager := p.manager.closeAll }

section openStep

variable (addressToIp4 : List UInt8 → Bool)

/-- One statement of openTask. The calls of a handshake go by the status: on a failure the slot is
closed through the manager. -/
def openStep (env : OpenEnv) (o : Opener) (p : ClientSide) : Option (Opener × ClientSide) :=
  match o.pc with
  | .entry =>
    match env.line with
    | none => some ({ o with pc := .loop }, p)
    | some line =>
      let r := scanEntry (cString line) o.hostname_s o.port
      some ({ o with
        hostname_s := r.hostname_s
        port := r.port
        pc := if r.index = 2 then .check else .loop }, p)
  | .check =>
    some ({ o with pc := if p.manager.checkIfAlreadyConnectedHost o.hostname_s o.port16 then .loop
      else .free }, p)
  | .free =>
    match p.manager.getFreeSocketIndex with
    | none => some ({ o with pc := .loop }, p)
    | some i => some ({ o with pc := .setHost i }, p)
  | .setHost i =>
    some ({ o with pc := .openSocket i },
      p.setSocket i ((p.manager.sockets i).setHost (cString o.hostname_s) o.port16))
  | .openSocket i =>
    ((p.manager.sockets i).openSocket addressToIp4 p.nextConn env.connected).map fun (status, s) =>
      if status = .success then
        ({ o with pc := .sendClientID i },
          { p.setSocket i s with nextConn := p.nextConn + 1 })
      else ({ o with pc := .close i }, p.setSocket i s)
  | .sendClientID i =>
    let (status, s) := (p.manager.sockets i).sendClientID p.deviceID env.send
    some ({ o with pc := if status = .success then .recvSrvrID i else .close i }, p.setSocket i s)
  | .recvSrvrID i =>
    let (status, s) := (p.manager.sockets i).recvSrvrID env.recv env.stack
    if status = .success then
      some ({ o with pc := .loop },
        { p.setSocket i s with
          log := (p.manager.sockets i).fd.toList.map
            (.handshake · (announced (env.recv.bytes.take 24))) ++ p.log })
    else some ({ o with pc := .close i }, p.setSocket i s)
  | .close i => some ({ o with pc := .loop }, { p with manager := p.manager.close i })
  | .loop => some ({ o with pc := if o.stop then .closeAll else .entry }, p)
  | .closeAll => some ({ o with pc := .done }, p.closeAll)
  | .done => none

/-- The socket of a slot with its base part exchanged. -/
def ClientSide.setPeer (p : ClientSide) (i : Fin maxClients) (s : PeerSocket) : ClientSide :=
  p.setSocket i { p.manager.sockets i with toPeerSocket := s }

/-- What a statement can do, with all that it has checked. -/
inductive OpenEffect (env : OpenEnv) (o : Opener) (p : ClientSide) : Opener → ClientSide → Prop
  | entry (hostname_s : List UInt8) (port : Int32) (pc : OpenPc) (h : o.pc = .entry)
      (hpc : pc = .check ∨ pc = .loop) :
      OpenEffect env o p { o with hostname_s := hostname_s, port := port, pc := pc } p
  | known (h : o.pc = .check) : OpenEffect env o p { o with pc := .loop } p
  | unknown (h : o.pc = .check)
      (hc : p.manager.checkIfAlreadyConnectedHost o.hostname_s o.port16 = false) :
      OpenEffect env o p { o with pc := .free } p
  | full (h : o.pc = .free) : OpenEffect env o p { o with pc := .loop } p
  | slot (i : Fin maxClients) (h : o.pc = .free) (hi : p.manager.getFreeSocketIndex = some i) :
      OpenEffect env o p { o with pc := .setHost i } p
  | setHost (i : Fin maxClients) (h : o.pc = .setHost i) :
      OpenEffect env o p { o with pc := .openSocket i }
        (p.setSocket i ((p.manager.sockets i).setHost (cString o.hostname_s) o.port16))
  | opened (i : Fin maxClients) (h : o.pc = .openSocket i)
      (hclosed : (p.manager.sockets i).isOpened = false)
      (haddr : addressToIp4 (p.manager.sockets i).hostname = true)
      (hs : env.connected = .success) :
      OpenEffect env o p { o with pc := .sendClientID i }
        { p.setPeer i { fd := some p.nextConn, deviceID := (p.manager.sockets i).deviceID } with
          nextConn := p.nextConn + 1 }
  | notOpened (i : Fin maxClients) (h : o.pc = .openSocket i)
      (hclosed : (p.manager.sockets i).isOpened = false) :
      OpenEffect env o p { o with pc := .close i } p
  | idSent (i : Fin maxClients) (h : o.pc = .sendClientID i)
      (hopen : (p.manager.sockets i).isOpened = true) (hs : env.send.status = .success) :
      OpenEffect env o p { o with pc := .recvSrvrID i } p
  | idNotSent (i : Fin maxClients) (h : o.pc = .sendClientID i) :
      OpenEffect env o p { o with pc := .close i } (p.setPeer i (p.manager.sockets i).baseClose)
  | idReceived (i : Fin maxClients) (c : Conn) (h : o.pc = .recvSrvrID i)
      (hopen : (p.manager.sockets i).fd = some c)
      (ha : PeerSocket.Accepted 24 env.recv env.stack) :
      OpenEffect env o p { o with pc := .loop }
        { p.setPeer i { fd := some c
                        deviceID := PeerSocket.idIn (env.recv.bytes.take 24) env.stack } with
          log := .handshake c (announced (env.recv.bytes.take 24)) :: p.log }
  | idNotReceived (i : Fin maxClients) (h : o.pc = .recvSrvrID i) :
      OpenEffect env o p { o with pc := .close i } (p.setPeer i (p.manager.sockets i).baseClose)
  | closed (i : Fin maxClients) (h : o.pc = .close i) :
      OpenEffect env o p { o with pc := .loop } { p with manager := p.manager.close i }
  | again (pc : OpenPc) (h : o.pc = .loop) (hpc : pc = .entry ∨ pc = .closeAll) :
      OpenEffect env o p { o with pc := pc } p
  | closedAll (h : o.pc = .closeAll) :
      OpenEffect env o p { o with pc := .done } p.closeAll

theorem OpenEffect.deviceID {env : OpenEnv} {o o' : Opener} {p p' : ClientSide}
    (h : OpenEffect addressToIp4 env o p o' p') : p'.deviceID = p.deviceID := by
  cases h <;> rfl

theorem ClientSide.setSocket_self (p : ClientSide) (i : Fin maxClients) :
    p.setSocket i (p.manager.sockets i) = p := by
  rw [setSocket, TcpClientManager.set, Function.update_eq_self]

theorem openStep_effect {env : OpenEnv} {o o' : Opener} {p p' : ClientSide}
    (h : openStep addressToIp4 env o p = some (o', p')) :
    OpenEffect addressToIp4 env o p o' p' := by
  unfold openStep at h
  cases hpc : o.pc with
  | entry =>
    rw [hpc] at h
    cases hl : env.line with
    | none =>
      simp only [hl] at h
      obtain ⟨rfl, rfl⟩ := Prod.mk.inj (Option.some.inj h)
      exact .entry o.hostname_s o.port .loop hpc (.inr rfl)
    | some line =>
      simp only [hl] at h
      obtain ⟨rfl, rfl⟩ := Prod.mk.inj (Option.some.inj h)
      refine .entry _ _ _ hpc ?_
      split_ifs
      · exact .inl rfl
      · exact .inr rfl
  | check =>
    simp only [hpc] at h
    obtain ⟨rfl, rfl⟩ := Prod.mk.inj (Option.some.inj h)
    cases hc : p.manager.checkIfAlreadyConnectedHost o.hostname_s o.port16 with
    | true => exact .known hpc
    | false => exact .unknown hpc hc
  | free =>
    simp only [hpc] at h
    cases hf : p.manager.getFreeSocketIndex with
    | none =>
      simp only [hf] at h
      obtain ⟨rfl, rfl⟩ := Prod.mk.inj (Option.some.inj h)
      exact .full hpc
    | some i =>
      simp only [hf] at h
      obtain ⟨rfl, rfl⟩ := Prod.mk.inj (Option.some.inj h)
      exact .slot i hpc hf
  | setHost i =>
    simp only [hpc] at h
    obtain ⟨rfl, rfl⟩ := Prod.mk.inj (Option.some.inj h)
    exact .setHost i hpc
  | openSocket i =>
    simp only [hpc] at h
    obtain ⟨⟨status, s⟩, hopen, hr⟩ := Option.map_eq_some_iff.mp h
    unfold MultiTcpClientSocket.openSocket at hopen
    split_ifs at hopen with ho ha hs
    · obtain ⟨rfl, rfl⟩ := Prod.mk.inj (Option.some.inj hopen)
      simp only [reduceCtorEq, if_false, ClientSide.setSocket_self] at hr
      obtain ⟨rfl, rfl⟩ := Prod.mk.inj hr
      exact .notOpened i hpc (by simpa using ho)
    · obtain ⟨rfl, rfl⟩ := Prod.mk.inj (Option.some.inj hopen)
      rw [if_pos rfl] at hr
      obtain ⟨rfl, rfl⟩ := Prod.mk.inj hr
      exact .opened i hpc (by simpa using ho) (by simpa using ha) hs
    · obtain ⟨rfl, rfl⟩ := Prod.mk.inj (Option.some.inj hopen)
      rw [if_neg hs, ClientSide.setSocket_self] at hr
      obtain ⟨rfl, rfl⟩ := Prod.mk.inj hr
      exact .notOpened i hpc (by simpa using ho)
  | sendClientID i =>
    simp only [hpc] at h
    rcases (p.manager.sockets i).sendClientID_cases p.deviceID env.send with
      ⟨hr, hopen, hsent⟩ | ⟨status, hs, hr⟩
    · rw [hr, if_pos rfl, ClientSide.setSocket_self] at h
      obtain ⟨rfl, rfl⟩ := Prod.mk.inj (Option.some.inj h)
      exact .idSent i hpc hopen hsent
    · rw [hr, if_neg hs] at h
      obtain ⟨rfl, rfl⟩ := Prod.mk.inj (Option.some.inj h)
      exact .idNotSent i hpc
  | recvSrvrID i =>
    simp only [hpc] at h
    rcases (p.manager.sockets i).recvSrvrID_cases env.recv env.stack with
      ⟨hr, hopen, ha⟩ | ⟨status, hs, hr⟩
    · obtain ⟨c, hc⟩ := (PeerSocket.isOpened_iff _).mp hopen
      rw [hr, if_pos rfl, hc] at h
      obtain ⟨rfl, rfl⟩ := Prod.mk.inj (Option.some.inj h)
      exact .idReceived i c hpc hc ha
    · rw [hr, if_neg hs] at h
      obtain ⟨rfl, rfl⟩ := Prod.mk.inj (Option.some.inj h)
      exact .idNotReceived i hpc
  | close i =>
    simp only [hpc] at h
    obtain ⟨rfl, rfl⟩ := Prod.mk.inj (Option.some.inj h)
    exact .closed i hpc
  | loop =>
    simp only [hpc] at h
    obtain ⟨rfl, rfl⟩ := Prod.mk.inj (Option.some.inj h)
    refine .again _ hpc ?_
    split_ifs
    · exact .inr rfl
    · exact .inl rfl
  | closeAll =>
    simp only [hpc] at h
    obtain ⟨rfl, rfl⟩ := Prod.mk.inj (Option.some.inj h)
    exact .closedAll hpc
  | done => simp [hpc] at h

end openStep

end MeshNetwork.Driver
