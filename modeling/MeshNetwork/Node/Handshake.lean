import MeshNetwork.Node.Addressing
import MeshNetwork.Node.Exchange
import Mathlib.Data.List.GetD

namespace MeshNetwork.Node

open Driver

/-- recvClientID has taken its bytes off the stream of the client. -/
structure Heard (g : Segments) (j : Fin maxClients) (c : UInt32) (x : Exchange) : Prop where
  cut : g.up ≤ 6
  stream : x.read ++ x.up = (idEntry c ++ x.sent).drop g.up
  id : (x.inbound.manager.sockets j).deviceID =
    PeerSocket.idIn ((idEntry c).take g.up) g.upStack

/-- How far the two handshakes are: each one waits for the other. -/
inductive Phase (g : Segments) (i j : Fin maxClients) (d : Conn) (c v : UInt32) (x : Exchange) :
    Prop
  | calling (hc : x.opener.pc = .sendClientID i) (hs : x.inbound.pc = .recvClientID j d)
      (hup : x.up = []) (hdown : x.down = []) (hsent : x.sent = []) (hread : x.read = [])
  | called (hc : x.opener.pc = .recvSrvrID i) (hs : x.inbound.pc = .recvClientID j d)
      (hup : x.up = idEntry c ++ x.sent) (hdown : x.down = []) (hread : x.read = [])
  | heard (hc : x.opener.pc = .recvSrvrID i) (hs : x.inbound.pc = .sendSrvrID j d)
      (h : Heard g j c x) (hdown : x.down = [])
  | answered (hc : x.opener.pc = .recvSrvrID i) (hs : x.inbound.pc = .search j d)
      (h : Heard g j c x) (hdown : x.down = idEntry v)
  | agreed (hc : x.opener.pc = .loop) (hs : x.inbound.pc = .search j d) (h : Heard g j c x)
      (hknown : (x.side.manager.sockets i).deviceID =
        PeerSocket.idIn ((idEntry v).take g.down) g.downStack)
  | failed (h : x.opener.pc = .close i ∨ x.inbound.pc = .close j ∨ x.inbound.pc = .loop)

theorem AcceptEffect.deviceID {env : AcceptEnv} {s t : Inbound} (h : AcceptEffect env s t) :
    t.deviceID = s.deviceID := by
  cases h <;> rfl

section statements

variable {addressToIp4 : List UInt8 → Bool} {o o' : Opener} {p p' : ClientSide} {s t : Inbound}
  {i j : Fin maxClients} {d : Conn}

/-- sendClientID sends the whole ID or fails. -/
theorem openStep_sendClientID {send : SendOutcome}
    (h : openStep addressToIp4 { send := send } o p = some (o', p'))
    (hpc : o.pc = .sendClientID i) :
    o'.pc = .recvSrvrID i ∧
        ((p.manager.sockets i).toPeerSocket.sendID p.deviceID send).written = idEntry p.deviceID ∨
      o'.pc = .close i := by
  simp only [openStep, hpc] at h
  rcases (p.manager.sockets i).sendClientID_cases p.deviceID send with
    ⟨hr, hopen, hs⟩ | ⟨status, hs, hr⟩
  · rw [hr, if_pos rfl] at h
    obtain ⟨rfl, -⟩ := Prod.mk.inj (Option.some.inj h)
    exact .inl ⟨rfl, PeerSocket.sendID_written hopen hs p.deviceID⟩
  · rw [hr, if_neg hs] at h
    obtain ⟨rfl, -⟩ := Prod.mk.inj (Option.some.inj h)
    exact .inr rfl

theorem openStep_recvSrvrID {recv : RecvOutcome} {stack : Nat → UInt8}
    (h : openStep addressToIp4 { recv := recv, stack := stack } o p = some (o', p'))
    (hpc : o.pc = .recvSrvrID i) :
    o'.pc = .loop ∧ recv.status = .success ∧
        (p'.manager.sockets i).deviceID = PeerSocket.idIn (recv.bytes.take 24) stack ∨
      o'.pc = .close i := by
  simp only [openStep, hpc] at h
  rcases (p.manager.sockets i).recvSrvrID_cases recv stack with ⟨hr, -, ha⟩ | ⟨status, hs, hr⟩
  · rw [hr, if_pos rfl] at h
    obtain ⟨rfl, rfl⟩ := Prod.mk.inj (Option.some.inj h)
    refine .inl ⟨rfl, ha.1, ?_⟩
    rw [ClientSide.setSocket, TcpClientManager.set_self]
  · rw [hr, if_neg hs] at h
    obtain ⟨rfl, -⟩ := Prod.mk.inj (Option.some.inj h)
    exact .inr rfl

theorem acceptStep_recvClientID {recv : RecvOutcome} {stack : Nat → UInt8}
    (h : s.acceptStep { recv := recv, stack := stack } = some t) (hpc : s.pc = .recvClientID j d) :
    t.pc = .sendSrvrID j d ∧ recv.status = .success ∧
        (t.manager.sockets j).deviceID = PeerSocket.idIn (recv.bytes.take 6) stack ∨
      t.pc = .close j := by
  simp only [Inbound.acceptStep, hpc] at h
  rcases (s.manager.sockets j).recvClientID_cases recv stack with ⟨hr, -, ha⟩ | ⟨status, hs, hr⟩
  · rw [hr, if_pos rfl] at h
    obtain rfl := Option.some.inj h
    refine .inl ⟨rfl, ha.1, ?_⟩
    simp [MultiTcpServerManager.set]
  · rw [hr, if_neg hs] at h
    obtain rfl := Option.some.inj h
    exact .inr rfl

theorem acceptStep_sendSrvrID {send : SendOutcome} (h : s.acceptStep { send := send } = some t)
    (hpc : s.pc = .sendSrvrID j d) :
    t.pc = .search j d ∧ t.manager = s.manager ∧
        ((s.manager.sockets j).toPeerSocket.sendID s.deviceID send).written = idEntry s.deviceID ∨
      t.pc = .loop := by
  simp only [Inbound.acceptStep, hpc] at h
  rcases (s.manager.sockets j).sendSrvrID_cases s.deviceID send with
    ⟨hr, hopen, hs⟩ | ⟨status, hs, hr⟩
  · rw [hr, if_pos rfl] at h
    obtain rfl := Option.some.inj h
    exact .inl ⟨rfl, s.manager.setPeer_same j, PeerSocket.sendID_written hopen hs s.deviceID⟩
  · rw [hr, if_neg hs] at h
    obtain rfl := Option.some.inj h
    exact .inr rfl

end statements

/-- What the server hears first is a piece of the ID and no more. -/
theorem heard_first {g : Segments} {j : Fin maxClients} {c : UInt32} {x y : Exchange}
    (hup : x.up = idEntry c ++ x.sent) (hread : x.read = []) (ha : Arrives 6 g.up x.up)
    (hsent : y.sent = x.sent) (hyup : y.up = x.up.drop g.up) (hyread : y.read = x.read)
    (hid : (y.inbound.manager.sockets j).deviceID =
      PeerSocket.idIn ((x.up.take g.up).take 6) g.upStack) : Heard g j c y := by
  refine ⟨ha.2.1, ?_, ?_⟩
  · rw [hyread, hread, hyup, hup, hsent]
    rfl
  · rw [hid, List.take_take, Nat.min_eq_right ha.2.1, hup,
      List.take_append_of_le_length (by rw [idEntry_length]; exact ha.2.1)]

namespace Heard

variable {g : Segments} {j : Fin maxClients} {c : UInt32} {x y : Exchange}

theorem frame (h : Heard g j c x) (data : List UInt8) :
    Heard g j c { x with
      up := x.up ++ data
      sent := x.sent ++ data } := by
  refine ⟨h.cut, ?_, h.id⟩
  have hle : g.up ≤ (idEntry c ++ x.sent).length := by
    rw [List.length_append, idEntry_length]
    exact Nat.le_add_right_of_le h.cut
  rw [← List.append_assoc, h.stream, ← List.append_assoc, List.drop_append_of_le_length hle]

theorem readTask (h : Heard g j c x) (k : Nat) :
    Heard g j c { x with
      up := x.up.drop k
      read := x.read ++ x.up.take k } := by
  refine ⟨h.cut, ?_, h.id⟩
  rw [List.append_assoc, List.take_append_drop]
  exact h.stream

end Heard

section frames

variable {addressToIp4 : List UInt8 → Bool} {g : Segments} {x y : Exchange} {send : SendOutcome}
  {recv : SocketIpStatus}

theorem openTask_frame (h : x.openTask addressToIp4 g send recv = some y) :
    y.inbound = x.inbound ∧ y.side.deviceID = x.side.deviceID ∧ y.sent = x.sent ∧
      y.read = x.read := by
  unfold Exchange.openTask at h
  split at h
  · obtain ⟨⟨o, p⟩, hstep, rfl⟩ := Option.map_eq_some_iff.mp h
    exact ⟨rfl, (openStep_effect addressToIp4 hstep).deviceID, rfl, rfl⟩
  · split_ifs at h
    obtain ⟨⟨o, p⟩, hstep, rfl⟩ := Option.map_eq_some_iff.mp h
    exact ⟨rfl, (openStep_effect addressToIp4 hstep).deviceID, rfl, rfl⟩
  · cases h

theorem acceptTask_frame (h : x.acceptTask g send recv = some y) :
    y.opener = x.opener ∧ y.side = x.side ∧ y.inbound.deviceID = x.inbound.deviceID ∧
      y.sent = x.sent ∧ y.read = x.read := by
  unfold Exchange.acceptTask at h
  split at h
  · split_ifs at h
    obtain ⟨s, hstep, rfl⟩ := Option.map_eq_some_iff.mp h
    exact ⟨rfl, rfl, (acceptStep_effect hstep).deviceID, rfl, rfl⟩
  · obtain ⟨s, hstep, rfl⟩ := Option.map_eq_some_iff.mp h
    exact ⟨rfl, rfl, (acceptStep_effect hstep).deviceID, rfl, rfl⟩
  · cases h

theorem not_arrives_nil {n k : Nat} : ¬Arrives n k [] := by
  intro harrives
  obtain ⟨hpos, -, hle⟩ := harrives
  exact absurd hpos (Nat.not_lt.mpr hle)

/-- At recvSrvrID the client gets its piece or gives up. -/
theorem openTask_recvs {i : Fin maxClients} (hc : x.opener.pc = .recvSrvrID i)
    (h : x.openTask addressToIp4 g send recv = some y) :
    (Arrives 24 g.down x.down ∧ y.opener.pc = .loop ∧ y.up = x.up ∧
        (y.side.manager.sockets i).deviceID =
          PeerSocket.idIn ((x.down.take g.down).take 24) g.downStack) ∨
      y.opener.pc = .close i := by
  simp only [Exchange.openTask, hc] at h
  split_ifs at h with harrives
  obtain ⟨⟨o, p⟩, hstep, rfl⟩ := Option.map_eq_some_iff.mp h
  rcases openStep_recvSrvrID hstep hc with ⟨hpc, hok, hknown⟩ | hpc
  · exact .inl ⟨harrives hok, hpc, rfl, hknown⟩
  · exact .inr hpc

/-- At recvClientID the server gets its piece or gives up. -/
theorem acceptTask_recvs {j : Fin maxClients} {d : Conn} (hs : x.inbound.pc = .recvClientID j d)
    (h : x.acceptTask g send recv = some y) :
    (Arrives 6 g.up x.up ∧ y.inbound.pc = .sendSrvrID j d ∧ y.up = x.up.drop g.up ∧
        y.down = x.down ∧ (y.inbound.manager.sockets j).deviceID =
          PeerSocket.idIn ((x.up.take g.up).take 6) g.upStack) ∨
      y.inbound.pc = .close j := by
  simp only [Exchange.acceptTask, hs] at h
  split_ifs at h with harrives
  obtain ⟨s, hstep, rfl⟩ := Option.map_eq_some_iff.mp h
  rcases acceptStep_recvClientID hstep hs with ⟨hpc, hok, hknown⟩ | hpc
  · exact .inl ⟨harrives hok, hpc, if_pos hok, rfl, hknown⟩
  · exact .inr hpc

end frames

namespace Phase

variable {addressToIp4 : List UInt8 → Bool} {g : Segments} {i j : Fin maxClients} {d : Conn}
  {c v : UInt32} {x y : Exchange}

theorem openTask {send : SendOutcome} {recv : SocketIpStatus} (h : Phase g i j d c v x)
    (hid : x.side.deviceID = c) (hs : x.openTask addressToIp4 g send recv = some y) :
    Phase g i j d c v y := by
  obtain ⟨hinbound, -, hsent, hread⟩ := openTask_frame hs
  cases h with
  | calling hc ha hup hdown hsent0 hread0 =>
    simp only [Exchange.openTask, hc] at hs
    obtain ⟨⟨o, p⟩, hstep, rfl⟩ := Option.map_eq_some_iff.mp hs
    rcases openStep_sendClientID hstep hc with ⟨hpc, hwritten⟩ | hpc
    · refine .called hpc ha ?_ hdown hread0
      rw [hup, hwritten, hsent0, hid]
      rfl
    · exact .failed (.inl hpc)
  | called hc ha hup hdown hread0 =>
    rcases openTask_recvs hc hs with ⟨harrives, -⟩ | hpc
    · rw [hdown] at harrives
      exact absurd harrives not_arrives_nil
    · exact .failed (.inl hpc)
  | heard hc ha hheard hdown =>
    rcases openTask_recvs hc hs with ⟨harrives, -⟩ | hpc
    · rw [hdown] at harrives
      exact absurd harrives not_arrives_nil
    · exact .failed (.inl hpc)
  | answered hc ha hheard hdown =>
    rcases openTask_recvs hc hs with ⟨harrives, hpc, hup, hknown⟩ | hpc
    · refine .agreed hpc (hinbound ▸ ha) ⟨hheard.cut, ?_, hinbound ▸ hheard.id⟩ ?_
      · rw [hread, hup, hsent]
        exact hheard.stream
      · rw [hknown, hdown, List.take_take, Nat.min_eq_right harrives.2.1]
    · exact .failed (.inl hpc)
  | agreed hc _ _ _ => simp [Exchange.openTask, hc] at hs
  | failed hpc =>
    rcases hpc with hc | ha
    · simp [Exchange.openTask, hc] at hs
    · exact .failed (.inr (hinbound ▸ ha))

theorem acceptTask {send : SendOutcome} {recv : SocketIpStatus} (h : Phase g i j d c v x)
    (hid : x.inbound.deviceID = v) (hs : x.acceptTask g send recv = some y) :
    Phase g i j d c v y := by
  obtain ⟨hopener, hside, -, hsent, hread⟩ := acceptTask_frame hs
  cases h with
  | calling hc ha hup hdown hsent0 hread0 =>
    rcases acceptTask_recvs ha hs with ⟨harrives, -⟩ | hpc
    · rw [hup] at harrives
      exact absurd harrives not_arrives_nil
    · exact .failed (.inr (.inl hpc))
  | called hc ha hup hdown hread0 =>
    rcases acceptTask_recvs ha hs with ⟨harrives, hpc, hyup, hydown, hknown⟩ | hpc
    · exact .heard (hopener ▸ hc) hpc (heard_first hup hread0 harrives hsent hyup hread hknown)
        (hydown.trans hdown)
    · exact .failed (.inr (.inl hpc))
  | heard hc ha hheard hdown =>
    simp only [Exchange.acceptTask, ha] at hs
    obtain ⟨s, hstep, rfl⟩ := Option.map_eq_some_iff.mp hs
    rcases acceptStep_sendSrvrID hstep ha with ⟨hpc, hmanager, hwritten⟩ | hpc
    · refine .answered hc hpc ⟨hheard.cut, hheard.stream, ?_⟩ ?_
      · exact hmanager ▸ hheard.id
      · rw [hdown, hwritten, hid]
        rfl
    · exact .failed (.inr (.inr hpc))
  | answered _ ha _ _ => simp [Exchange.acceptTask, ha] at hs
  | agreed _ ha _ _ => simp [Exchange.acceptTask, ha] at hs
  | failed hpc =>
    rcases hpc with hc | ha | ha
    · exact .failed (.inl (hopener ▸ hc))
    · simp [Exchange.acceptTask, ha] at hs
    · simp [Exchange.acceptTask, ha] at hs

theorem frame {data : List UInt8} (h : Phase g i j d c v x)
    (hs : x.step addressToIp4 g (.frame data) = some y) : Phase g i j d c v y := by
  have hnot : (∀ k, x.opener.pc ≠ .sendClientID k) ∧
      y = { x with up := x.up ++ data, sent := x.sent ++ data } := by
    simp only [Exchange.step] at hs
    split at hs
    · cases hs
    · rename_i hpc
      refine ⟨?_, (Option.some.inj hs).symm⟩
      intro k hk
      exact hpc k hk
  obtain ⟨hpc, rfl⟩ := hnot
  cases h with
  | calling hc => exact absurd hc (hpc i)
  | called hc ha hup hdown hread =>
    refine .called hc ha ?_ hdown hread
    rw [hup, List.append_assoc]
  | heard hc ha hheard hdown => exact .heard hc ha (hheard.frame data) hdown
  | answered hc ha hheard hdown => exact .answered hc ha (hheard.frame data) hdown
  | agreed hc ha hheard hknown => exact .agreed hc ha (hheard.frame data) hknown
  | failed hpc => exact .failed hpc

theorem readTask {k : Nat} (h : Phase g i j d c v x)
    (hs : x.step addressToIp4 g (.readTask k) = some y) : Phase g i j d c v y := by
  have hnot : (∃ j' d', x.inbound.pc = .search j' d') ∧
      y = { x with up := x.up.drop k, read := x.read ++ x.up.take k } := by
    simp only [Exchange.step] at hs
    split at hs
    · rename_i j' d' hpc
      split_ifs at hs
      exact ⟨⟨j', d', hpc⟩, (Option.some.inj hs).symm⟩
    · cases hs
  obtain ⟨⟨j', d', hpc⟩, rfl⟩ := hnot
  cases h with
  | calling _ ha => cases ha.symm.trans hpc
  | called _ ha => cases ha.symm.trans hpc
  | heard _ ha => cases ha.symm.trans hpc
  | answered hc ha hheard hdown => exact .answered hc ha (hheard.readTask k) hdown
  | agreed hc ha hheard hknown => exact .agreed hc ha (hheard.readTask k) hknown
  | failed hpc => exact .failed hpc

end Phase

/-- The ID that an array gives, of which the first `n` bytes are those of the message. -/
theorem idIn_take {n : Nat} {v : UInt32} {stack : Nat → UInt8} :
    PeerSocket.idIn ((idEntry v).take n) stack = v ↔
      ∀ k, 2 ≤ k → k < 6 → n ≤ k → stack k = (idEntry v).getD k 0 := by
  have hv : v = ofBigEndian ((idEntry v).getD 2 0) ((idEntry v).getD 3 0) ((idEntry v).getD 4 0)
      ((idEntry v).getD 5 0) := by
    rw [idEntry_eq]
    exact (ofBigEndian_bigEndian v).symm
  have byte (k : Nat) (hk : k < 6) : fill ((idEntry v).take n) stack k = (idEntry v).getD k 0 ↔
      (n ≤ k → stack k = (idEntry v).getD k 0) := by
    unfold fill
    by_cases hn : k < n
    · rw [List.getD_eq_getElem?_getD, List.getElem?_take_of_lt hn, ← List.getD_eq_getElem?_getD]
      have hin : k < (idEntry v).length := hk
      rw [List.getD_eq_getElem _ _ hin, List.getD_eq_getElem _ _ hin]
      simp [Nat.not_le.mpr hn]
    · have hout : ((idEntry v).take n).length ≤ k := by
        rw [List.length_take]
        omega
      rw [List.getD_eq_default _ _ hout]
      simp [Nat.not_lt.mp hn]
  conv_lhs => rw [PeerSocket.idIn]; rhs; rw [hv]
  rw [ofBigEndian_inj, byte 2 (by decide), byte 3 (by decide), byte 4 (by decide),
    byte 5 (by decide)]
  constructor
  · intro hbytes k hlow hhigh
    obtain ⟨h2, h3, h4, h5⟩ := hbytes
    obtain rfl | rfl | rfl | rfl : k = 2 ∨ k = 3 ∨ k = 4 ∨ k = 5 := by omega
    · exact h2
    · exact h3
    · exact h4
    · exact h5
  · intro h
    exact ⟨h 2 (by decide) (by decide), h 3 (by decide) (by decide), h 4 (by decide) (by decide),
      h 5 (by decide) (by decide)⟩

namespace Phase

variable {addressToIp4 : List UInt8 → Bool} {g : Segments} {i j : Fin maxClients} {d : Conn}
  {c v : UInt32} {x y : Exchange}

theorem step {act : ExchangeAct}
    (h : Phase g i j d c v x ∧ x.side.deviceID = c ∧ x.inbound.deviceID = v)
    (hs : x.step addressToIp4 g act = some y) :
    Phase g i j d c v y ∧ y.side.deviceID = c ∧ y.inbound.deviceID = v := by
  obtain ⟨hphase, hc, hv⟩ := h
  cases act with
  | openTask send recv =>
    obtain ⟨hinbound, hside, -⟩ := openTask_frame hs
    exact ⟨hphase.openTask hc hs, hside.trans hc, by rw [hinbound, hv]⟩
  | acceptTask send recv =>
    obtain ⟨-, hside, hinbound, -⟩ := acceptTask_frame hs
    exact ⟨hphase.acceptTask hv hs, by rw [hside, hc], hinbound.trans hv⟩
  | frame data =>
    refine ⟨hphase.frame hs, ?_⟩
    simp only [Exchange.step] at hs
    split at hs
    · cases hs
    · obtain rfl := Option.some.inj hs
      exact ⟨hc, hv⟩
  | readTask k =>
    refine ⟨hphase.readTask hs, ?_⟩
    simp only [Exchange.step] at hs
    split at hs
    · split_ifs at hs
      obtain rfl := Option.some.inj hs
      exact ⟨hc, hv⟩
    · cases hs

/-- At the end the nodes agree if nothing of the IDs was cut off. -/
theorem agreed_iff (h : Phase g i j d c v x) (hok : Succeeded j d x) :
    Agreed i j c v x ↔ Whole g v := by
  cases h with
  | calling hc => cases hok.opener.symm.trans hc
  | called hc => cases hok.opener.symm.trans hc
  | heard hc => cases hok.opener.symm.trans hc
  | answered hc => cases hok.opener.symm.trans hc
  | failed h =>
    rcases h with hc | ha | ha
    · cases hok.opener.symm.trans hc
    · cases hok.accept.symm.trans ha
    · cases hok.accept.symm.trans ha
  | agreed hc ha hheard hknown =>
    have hserver : (x.side.manager.sockets i).getServerDeviceID = v ↔
        ∀ k, 2 ≤ k → k < 6 → g.down ≤ k → g.downStack k = (idEntry v).getD k 0 := by
      rw [MultiTcpClientSocket.getServerDeviceID, hknown]
      exact idIn_take
    constructor
    · intro hagreed
      refine ⟨?_, hserver.mp hagreed.server⟩
      have hlen := congrArg List.length (hheard.stream.symm.trans hagreed.stream)
      rw [List.length_drop, List.length_append, idEntry_length] at hlen
      have hcut := hheard.cut
      omega
    · intro hwhole
      refine ⟨?_, hserver.mpr hwhole.down, ?_⟩
      · rw [MultiTcpServerSocket.getClientDeviceID, hheard.id]
        refine idIn_take.mpr ?_
        intro k _ hhigh hlow
        rw [hwhole.up] at hlow
        exact absurd hhigh (Nat.not_lt.mpr hlow)
      · rw [hheard.stream, hwhole.up]
        exact List.drop_left' (idEntry_length c)

end Phase

/-- Handshake agreement, for every cut of the two streams, every stack and every order of steps: two
handshakes that succeed have told each side the ID of the other and left the stream at the first
byte behind the ID exactly when the first recv of either side has had the whole ID. -/
theorem handshake_agreement (addressToIp4 : List UInt8 → Bool) (g : Segments)
    (i j : Fin maxClients) (d : Conn) (c v : UInt32) (acts : List ExchangeAct) (x t : Exchange)
    (hstart : Starts i j d c v x) (hrun : run (Exchange.step addressToIp4 g) x acts = some t)
    (hok : Succeeded j d t) : Agreed i j c v t ↔ Whole g v := by
  have hphase : Phase g i j d c v x :=
    .calling hstart.opener hstart.accept hstart.up hstart.down hstart.sent hstart.read
  have hinv := run_invariant_all (fun _ _ _ hi hs => Phase.step hi hs)
    ⟨hphase, hstart.clientID, hstart.serverID⟩ hrun
  exact hinv.1.agreed_iff hok

/-- The node 0x20202021 before its handshake with the base node, each at slot 0. -/
def beforeHandshake : Exchange where
  opener := { pc := .sendClientID 0 }
  side :=
    { deviceID := 0x20202021
      adjM := fun _ => 0
      manager := ({} : TcpClientManager).set 0 { fd := some 0 } }
  inbound :=
    { deviceID := baseID
      pc := .recvClientID 0 0
      manager := ({} : MultiTcpServerManager).set 0 { fd := some 0 } }

/-- The statements of a handshake, with a frame sent and the first byte of it received. -/
def handshake : List ExchangeAct :=
  [.openTask { status := .success } .success, .frame [7],
    .acceptTask { status := .success } .success, .acceptTask { status := .success } .success,
    .openTask { status := .success } .success, .readTask 1]

theorem beforeHandshake_starts : Starts 0 0 0 0x20202021 baseID beforeHandshake :=
  ⟨rfl, rfl, rfl, rfl, rfl, rfl, rfl, rfl⟩

/-- Whole messages. -/
theorem handshake_agreement_whole :
    let t := (run (Exchange.step (fun _ => true) { up := 6, down := 6 }) beforeHandshake
      handshake).get (by rfl)
    Agreed 0 0 0x20202021 baseID t ↔ Whole { up := 6, down := 6 } baseID :=
  handshake_agreement (fun _ => true) _ 0 0 0 0x20202021 baseID handshake beforeHandshake _
    beforeHandshake_starts (Option.some_get _).symm ⟨by decide, by decide⟩

/-- The first recv of the server gets the tag alone: it stores ID 0, and the four bytes of the ID
are read as the beginning of the first frame. -/
theorem handshake_agreement_fails : ¬∀ (addressToIp4 : List UInt8 → Bool) (g : Segments)
    (i j : Fin maxClients) (d : Conn) (c v : UInt32) (acts : List ExchangeAct) (x t : Exchange),
    setDeviceID c = some c → setDeviceID v = some v → Starts i j d c v x →
    run (Exchange.step addressToIp4 g) x acts = some t → Succeeded j d t →
    Agreed i j c v t := fun h =>
  absurd (h (fun _ => true) { up := 2, down := 6 } 0 0 0 0x20202021 baseID handshake
    beforeHandshake _ (by decide) (by decide) beforeHandshake_starts
    (Option.some_get (by rfl)).symm ⟨by decide, by decide⟩).client (by decide)

end MeshNetwork.Node
