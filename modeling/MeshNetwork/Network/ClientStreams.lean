import MeshNetwork.Network.SocketEvents
import MeshNetwork.Node.Misdelivery

namespace MeshNetwork.Network

open Driver Node

/-- The bytes of frames that send_handler has written on connection `c`, in order. -/
def framesOn (c : Conn) : List ClientEvent → List UInt8
  | [] => []
  | .offered _ (some d) _ written :: log => framesOn c log ++ if d = c then written else []
  | .offered _ none _ _ :: log => framesOn c log
  | .handshake _ _ :: log => framesOn c log

/-- What is on the outgoing streams: a node says its ID first, as far as that gets, and then its
frames. The announcement that ends a handshake is what has come back. -/
structure ClientStreams (o : Opener) (p : ClientSide) (h : SocketHistory) : Prop where
  named : ∀ i c, (p.manager.sockets i).fd = some c → c < p.nextConn
  apart : ∀ i j c, (p.manager.sockets i).fd = some c → (p.manager.sockets j).fd = some c → i = j
  unborn : ∀ c, p.nextConn ≤ c → History.Untouched c h
  ended : ∀ c, HandshakeDone p.log c → c < p.nextConn
  calling : ∀ i c, o.pc = .sendClientID i → (p.manager.sockets i).fd = some c →
    History.Untouched c h ∧ ¬HandshakeDone p.log c
  called : ∀ i c, o.pc = .recvSrvrID i → (p.manager.sockets i).fd = some c →
    (h.sent c = idEntry p.deviceID ∧ h.received c = []) ∧ ¬HandshakeDone p.log c
  shaking : ∀ c, ¬HandshakeDone p.log c → h.sent c <+: idEntry p.deviceID
  talking : ∀ c, HandshakeDone p.log c → h.sent c = idEntry p.deviceID ++ framesOn c p.log
  told : ∀ c id, .handshake c id ∈ p.log → id = announced (h.received c)

theorem clientStreams_init (deviceID : UInt32) (adjM : Nat → UInt8) :
    ClientStreams {} { deviceID := deviceID, adjM := adjM } [] where
  named _ _ hc := by cases hc
  apart _ _ _ hc := by cases hc
  unborn _ _ := History.untouched_nil
  ended _ hdone := by simp [HandshakeDone] at hdone
  calling _ _ hpc := by cases hpc
  called _ _ hpc := by cases hpc
  shaking _ _ := List.nil_prefix
  talking _ hdone := by simp [HandshakeDone] at hdone
  told _ _ hmem := by cases hmem

/-- No frame has been written ahead of the handshake. -/
theorem framesOn_of_not_done {c : Conn} {log : List ClientEvent} (hd : Delivered log)
    (hdone : ¬HandshakeDone log c) : framesOn c log = [] := by
  induction log with
  | nil => rfl
  | cons e log ih =>
    have hrest : ¬HandshakeDone log c := by
      intro h
      obtain ⟨e', hmem, he'⟩ := h
      exact hdone ⟨e', List.mem_cons_of_mem e hmem, he'⟩
    match e with
    | .handshake d id => exact ih hd hrest
    | .offered i none dest written => exact ih hd hrest
    | .offered i (some d) dest written =>
      rw [framesOn, ih hd.2 hrest, List.nil_append]
      split_ifs with hdc
      · by_contra hwritten
        exact hrest (hdc ▸ (hd.1 hwritten).1)
      · rfl

theorem handshakeDone_offered {c : Conn} {log : List ClientEvent} {i : Fin maxClients}
    {conn : Option Conn} {dest : UInt32} {written : List UInt8} :
    HandshakeDone (.offered i conn dest written :: log) c ↔ HandshakeDone log c := by
  simp [HandshakeDone, Completes]

theorem handshakeDone_handshake {c d : Conn} {id : Option UInt32} {log : List ClientEvent} :
    HandshakeDone (.handshake d id :: log) c ↔ d = c ∨ HandshakeDone log c := by
  simp [HandshakeDone, Completes]

/-- However a send of the ID ends, what has gone out is the beginning of it. -/
theorem sendID_prefix (s : PeerSocket) (ID : UInt32) (o : SendOutcome) :
    (s.sendID ID o).written <+: idEntry ID := by
  have hsend : (s.send (idEntry ID) o).written <+: idEntry ID := by
    by_cases hopen : s.isOpened = true
    · by_cases hok : o.status = .success
      · simp [PeerSocket.send, hopen, hok]
      · simp [PeerSocket.send, hopen, hok, List.take_prefix]
    · simp [PeerSocket.send, hopen]
  unfold PeerSocket.sendID
  dsimp only
  split_ifs
  · exact hsend
  · exact hsend

/-- A send opens no socket. -/
theorem perform_send_fd {p : ClientSide} {env : SendEnv} {i j : Fin maxClients}
    {frame : List UInt8} {dest : UInt32} {c : Conn}
    (hj : ((perform env (.send i frame dest) p).2.manager.sockets j).fd = some c) :
    (p.manager.sockets j).fd = some c := by
  by_cases hji : j = i
  · subst hji
    simp only [perform, TcpClientManager.set_self, MultiTcpClientSocket.send_socket] at hj
    split_ifs at hj
    · cases hj
    · exact hj
  · simpa only [perform, TcpClientManager.set_ne _ _ hji] using hj

namespace ClientStreams

variable {o o' : Opener} {p p' : ClientSide} {h : SocketHistory}

/-- A step that does nothing to a connection, save that it may close some. -/
theorem quiet (hs : ClientStreams o p h) (hID : p'.deviceID = p.deviceID) (hlog : p'.log = p.log)
    (hnext : p'.nextConn = p.nextConn)
    (hfd : ∀ i c, (p'.manager.sockets i).fd = some c → (p.manager.sockets i).fd = some c)
    (hcalling : ∀ i, o'.pc = .sendClientID i → o.pc = .sendClientID i)
    (hcalled : ∀ i, o'.pc = .recvSrvrID i → o.pc = .recvSrvrID i) : ClientStreams o' p' h := by
  refine ⟨?_, ?_, ?_, ?_, ?_, ?_, ?_, ?_, ?_⟩
  · intro i c hc
    rw [hnext]
    exact hs.named i c (hfd i c hc)
  · intro i j c hi hj
    exact hs.apart i j c (hfd i c hi) (hfd j c hj)
  · rw [hnext]
    exact hs.unborn
  · rw [hnext, hlog]
    exact hs.ended
  · intro i c hpc hc
    rw [hlog]
    exact hs.calling i c (hcalling i hpc) (hfd i c hc)
  · intro i c hpc hc
    rw [hlog, hID]
    exact hs.called i c (hcalled i hpc) (hfd i c hc)
  · rw [hlog, hID]
    exact hs.shaking
  · rw [hlog, hID]
    exact hs.talking
  · rw [hlog]
    exact hs.told

/-- The slot of the statement that comes next is closed: no stream is touched. -/
theorem openTaskEvents_closed {env : OpenEnv} {i : Fin maxClients}
    (hpc : o.pc = .sendClientID i ∨ o.pc = .recvSrvrID i) (hfd : (p.manager.sockets i).fd = none) :
    openTaskEvents env o p = [] := by
  rcases hpc with hpc | hpc
  · simp [openTaskEvents, hpc, hfd]
  · simp [openTaskEvents, hpc, hfd]

/-- A handshake that is given up on: what has been done to the connection of slot `i`, if any, is
that some of the ID has gone out or that something has come in, and the socket is closed. -/
theorem givenUp (hs : ClientStreams o p h) {env : OpenEnv} {i : Fin maxClients}
    (hpc : o.pc = .sendClientID i ∨ o.pc = .recvSrvrID i) :
    ClientStreams { o with pc := .close i } (p.setPeer i (p.manager.sockets i).baseClose)
      (h ++ openTaskEvents env o p) := by
  have hfd (j : Fin maxClients) (c : Conn)
      (hc : ((p.setPeer i (p.manager.sockets i).baseClose).manager.sockets j).fd = some c) :
      (p.manager.sockets j).fd = some c := by
    by_cases hj : j = i
    · rw [hj, setPeer_self] at hc
      cases hc
    · rwa [setPeer_ne _ _ _ hj] at hc
  have hclosed : ClientStreams { o with pc := .close i }
      (p.setPeer i (p.manager.sockets i).baseClose) h :=
    hs.quiet rfl rfl rfl hfd (by simp) (by simp)
  cases hi : (p.manager.sockets i).fd with
  | none =>
    rw [openTaskEvents_closed hpc hi, List.append_nil]
    exact hclosed
  | some c =>
    have hlt := hs.named i c hi
    have hshaking : ¬HandshakeDone p.log c ∧ (h ++ openTaskEvents env o p).sent c <+:
        idEntry p.deviceID := by
      rcases hpc with hpc | hpc
      · obtain ⟨hsilent, hnot⟩ := hs.calling i c hpc hi
        refine ⟨hnot, ?_⟩
        simp [openTaskEvents, hpc, hi, hsilent.1, sendID_prefix]
      · obtain ⟨⟨hsent, -⟩, hnot⟩ := hs.called i c hpc hi
        refine ⟨hnot, ?_⟩
        simp [openTaskEvents, hpc, hi, hsent]
    have hother (d : Conn) (hd : d ≠ c) : History.Untouched d (openTaskEvents env o p) := by
      rcases hpc with hpc | hpc
      · simp [openTaskEvents, hpc, hi, History.untouched_put hd.symm]
      · simp [openTaskEvents, hpc, hi, History.untouched_took hd.symm]
    have hdone (d : Conn) (hd : HandshakeDone p.log d) : d ≠ c := by
      intro hdc
      exact hshaking.1 (hdc ▸ hd)
    refine ⟨hclosed.named, hclosed.apart, ?_, hclosed.ended, by simp, by simp, ?_, ?_, ?_⟩
    · intro d hd
      exact (hs.unborn d hd).append (hother d (Nat.ne_of_gt (Nat.lt_of_lt_of_le hlt hd)))
    · intro d hnot
      by_cases hd : d = c
      · subst hd
        exact hshaking.2
      · rw [History.sent_append, (hother d hd).1, List.append_nil]
        exact hs.shaking d hnot
    · intro d hd
      rw [History.sent_append, (hother d (hdone d hd)).1, List.append_nil]
      exact hs.talking d hd
    · intro d id hmem
      rw [History.received_append, (hother d (hdone d ⟨_, hmem, rfl⟩)).2, List.append_nil]
      exact hs.told d id hmem

/-- A new connection is silent. -/
theorem opened (hs : ClientStreams o p h) (i : Fin maxClients) (ID : UInt32) :
    ClientStreams { o with pc := .sendClientID i }
      { p.setPeer i ⟨some p.nextConn, ID⟩ with nextConn := p.nextConn + 1 } h := by
  have hfd {j : Fin maxClients} {c : Conn}
      (hc : ((p.setPeer i ⟨some p.nextConn, ID⟩).manager.sockets j).fd = some c) :
      j = i ∧ c = p.nextConn ∨ j ≠ i ∧ (p.manager.sockets j).fd = some c := by
    by_cases hj : j = i
    · rw [hj, setPeer_self] at hc
      exact .inl ⟨hj, (Option.some.inj hc).symm⟩
    · rw [setPeer_ne _ _ _ hj] at hc
      exact .inr ⟨hj, hc⟩
  refine ⟨?_, ?_, ?_, ?_, ?_, by simp, hs.shaking, hs.talking, hs.told⟩
  · intro j c hc
    rcases hfd hc with ⟨-, rfl⟩ | ⟨-, hc⟩
    · exact Nat.lt_succ_self _
    · exact Nat.lt_succ_of_lt (hs.named j c hc)
  · intro j k c hj hk
    rcases hfd hj, hfd hk with ⟨⟨hji, hc⟩ | ⟨-, hj⟩, ⟨hki, hc'⟩ | ⟨-, hk⟩⟩
    · rw [hji, hki]
    · exact absurd (hs.named k c hk) (by rw [hc]; exact Nat.lt_irrefl _)
    · exact absurd (hs.named j c hj) (by rw [hc']; exact Nat.lt_irrefl _)
    · exact hs.apart j k c hj hk
  · intro c hc
    exact hs.unborn c (Nat.le_of_succ_le hc)
  · intro c hc
    exact Nat.lt_succ_of_lt (hs.ended c hc)
  · intro j c hpc hc
    obtain rfl := OpenPc.sendClientID.inj hpc
    rcases hfd hc with ⟨-, rfl⟩ | ⟨hne, -⟩
    · exact ⟨hs.unborn _ (Nat.le_refl _), fun hdone => Nat.lt_irrefl _ (hs.ended _ hdone)⟩
    · exact absurd rfl hne

/-- The ID has gone out as a whole. -/
theorem idSent (hs : ClientStreams o p h) {env : OpenEnv} {i : Fin maxClients}
    (hpc : o.pc = .sendClientID i) (hopen : (p.manager.sockets i).isOpened = true)
    (hok : env.send.status = .success) :
    ClientStreams { o with pc := .recvSrvrID i } p (h ++ openTaskEvents env o p) := by
  obtain ⟨c, hi⟩ := (PeerSocket.isOpened_iff _).mp hopen
  have hevents : openTaskEvents env o p = [.put c (idEntry p.deviceID)] := by
    simp [openTaskEvents, hpc, hi, PeerSocket.sendID_written hopen hok]
  obtain ⟨⟨hsilent, hnothing⟩, hnot⟩ := hs.calling i c hpc hi
  have hlt := hs.named i c hi
  have hdone (d : Conn) (hd : HandshakeDone p.log d) : c ≠ d := by
    intro hcd
    exact hnot (hcd ▸ hd)
  rw [hevents]
  refine ⟨hs.named, hs.apart, ?_, hs.ended, by simp, ?_, ?_, ?_, ?_⟩
  · intro d hd
    have hne : c ≠ d := Nat.ne_of_lt (Nat.lt_of_lt_of_le hlt hd)
    exact (hs.unborn d hd).append (History.untouched_put hne)
  · intro j d hpc' hd
    obtain rfl := OpenPc.recvSrvrID.inj hpc'
    obtain rfl := Option.some.inj (hi.symm.trans hd)
    simp [hsilent, hnothing, hnot]
  · intro d hd
    by_cases hcd : c = d
    · subst hcd
      simp [hsilent]
    · rw [History.sent_append, (History.untouched_put hcd).1, List.append_nil]
      exact hs.shaking d hd
  · intro d hd
    rw [History.sent_append, (History.untouched_put (hdone d hd)).1, List.append_nil]
    exact hs.talking d hd
  · intro d id hmem
    rw [History.received_append, History.received_put, List.append_nil]
    exact hs.told d id hmem

/-- The peer has announced itself: from here on the node speaks in frames. -/
theorem idReceived (hs : ClientStreams o p h) (hd : Delivered p.log) {env : OpenEnv}
    {i : Fin maxClients} {c : Conn} (ID : UInt32) (hpc : o.pc = .recvSrvrID i)
    (hi : (p.manager.sockets i).fd = some c) (hok : env.recv.status = .success) :
    ClientStreams { o with pc := .loop }
      { p.setPeer i ⟨some c, ID⟩ with
        log := .handshake c (announced (env.recv.bytes.take 24)) :: p.log }
      (h ++ openTaskEvents env o p) := by
  have hopen : (p.manager.sockets i).isOpened = true := (PeerSocket.isOpened_iff _).mpr ⟨c, hi⟩
  have hevents : openTaskEvents env o p = [.took c (env.recv.bytes.take 24)] := by
    simp [openTaskEvents, hpc, hi, PeerSocket.recv, hopen, hok]
  obtain ⟨⟨hsent, hnothing⟩, hnot⟩ := hs.called i c hpc hi
  have hlt := hs.named i c hi
  have hfd (j : Fin maxClients) :
      ((p.setPeer i ⟨some c, ID⟩).manager.sockets j).fd = (p.manager.sockets j).fd := by
    by_cases hj : j = i
    · rw [hj, setPeer_self, hi]
    · rw [setPeer_ne _ _ _ hj]
  rw [hevents]
  refine ⟨?_, ?_, ?_, ?_, by simp, by simp, ?_, ?_, ?_⟩
  · intro j d hj
    exact hs.named j d ((hfd j).symm.trans hj)
  · intro j k d hj hk
    exact hs.apart j k d ((hfd j).symm.trans hj) ((hfd k).symm.trans hk)
  · intro d hd
    have hne : c ≠ d := Nat.ne_of_lt (Nat.lt_of_lt_of_le hlt hd)
    exact (hs.unborn d hd).append (History.untouched_took hne)
  · intro d hdone
    rcases handshakeDone_handshake.mp hdone with rfl | hdone
    · exact hlt
    · exact hs.ended d hdone
  · intro d hnot'
    rw [History.sent_append, History.sent_took, List.append_nil]
    exact hs.shaking d fun hdone => hnot' (handshakeDone_handshake.mpr (.inr hdone))
  · intro d hdone
    rw [History.sent_append, History.sent_took, List.append_nil]
    rcases handshakeDone_handshake.mp hdone with rfl | hdone
    · change _ = _ ++ framesOn c p.log
      rw [framesOn_of_not_done hd hnot, List.append_nil]
      exact hsent
    · exact hs.talking d hdone
  · intro d id hmem
    rw [History.received_append, History.received_took]
    rcases List.mem_cons.mp hmem with heq | hmem
    · obtain ⟨rfl, rfl⟩ := ClientEvent.handshake.inj heq
      rw [hnothing, List.nil_append, if_pos rfl]
    · have hne : c ≠ d := by
        intro hcd
        exact hnot (hcd ▸ ⟨_, hmem, rfl⟩)
      rw [if_neg hne, List.append_nil]
      exact hs.told d id hmem

/-- A statement of openTask. -/
theorem openStep (hs : ClientStreams o p h) (hd : Delivered p.log)
    {addressToIp4 : List UInt8 → Bool} {env : OpenEnv}
    (he : OpenEffect addressToIp4 env o p o' p') :
    ClientStreams o' p' (h ++ openTaskEvents env o p) := by
  -- the statements outside a handshake touch no stream
  have aside (hpc : openTaskEvents env o p = []) {o₁ : Opener} {p₁ : ClientSide}
      (h₁ : ClientStreams o₁ p₁ h) : ClientStreams o₁ p₁ (h ++ openTaskEvents env o p) := by
    rw [hpc, List.append_nil]
    exact h₁
  cases he with
  | entry hostname_s port pc hpc hpc' =>
    refine aside (by simp [openTaskEvents, hpc]) (hs.quiet rfl rfl rfl (fun _ _ hc => hc) ?_ ?_)
    · intro i hi
      rcases hpc' with rfl | rfl <;> cases hi
    · intro i hi
      rcases hpc' with rfl | rfl <;> cases hi
  | again pc hpc hpc' =>
    refine aside (by simp [openTaskEvents, hpc]) (hs.quiet rfl rfl rfl (fun _ _ hc => hc) ?_ ?_)
    · intro i hi
      rcases hpc' with rfl | rfl <;> cases hi
    · intro i hi
      rcases hpc' with rfl | rfl <;> cases hi
  | known hpc | unknown hpc | full hpc | slot i hpc | notOpened i hpc =>
    exact aside (by simp [openTaskEvents, hpc])
      (hs.quiet rfl rfl rfl (fun _ _ hc => hc) (by simp) (by simp))
  | setHost i hpc =>
    refine aside (by simp [openTaskEvents, hpc])
      (hs.quiet rfl rfl rfl ?_ (by simp) (by simp))
    intro j c hc
    rwa [setHost_peer] at hc
  | opened i hpc _ _ _ => exact aside (by simp [openTaskEvents, hpc]) (hs.opened i _)
  | idSent i hpc hopen hok => exact hs.idSent hpc hopen hok
  | idNotSent i hpc => exact hs.givenUp (.inl hpc)
  | idReceived i c hpc hopen ha => exact hs.idReceived hd _ hpc hopen ha.1
  | idNotReceived i hpc => exact hs.givenUp (.inr hpc)
  | closed i hpc =>
    refine aside (by simp [openTaskEvents, hpc])
      (hs.quiet rfl rfl rfl ?_ (by simp) (by simp))
    intro j c hc
    by_cases hj : j = i
    · rw [hj, close_self] at hc
      cases hc
    · rwa [close_ne _ hj] at hc
  | closedAll hpc =>
    refine aside (by simp [openTaskEvents, hpc])
      (hs.quiet rfl rfl rfl ?_ (by simp) (by simp))
    intro j c hc
    cases hc

section offer

variable {env : SendEnv} {i : Fin maxClients} {frame : List UInt8} {dest : UInt32}

/-- A send on a closed slot. -/
theorem offerClosed (hs : ClientStreams o p h) (hi : (p.manager.sockets i).fd = none) :
    ClientStreams o (perform env (.send i frame dest) p).2 h := by
  have hlog : (perform env (.send i frame dest) p).2.log = .offered i none dest
      ((p.manager.sockets i).toPeerSocket.send frame (env.send i)).written :: p.log := by
    rw [← hi]
    rfl
  refine ⟨fun j c hc => hs.named j c (perform_send_fd hc),
    fun j k c hj hk => hs.apart j k c (perform_send_fd hj) (perform_send_fd hk), hs.unborn, ?_, ?_,
    ?_, ?_, ?_, ?_⟩
  · intro c hdone
    rw [hlog, handshakeDone_offered] at hdone
    exact hs.ended c hdone
  · intro j c hpc hc
    rw [hlog, handshakeDone_offered]
    exact hs.calling j c hpc (perform_send_fd hc)
  · intro j c hpc hc
    rw [hlog, handshakeDone_offered]
    exact hs.called j c hpc (perform_send_fd hc)
  · intro c hnot
    rw [hlog, handshakeDone_offered] at hnot
    exact hs.shaking c hnot
  · intro c hdone
    rw [hlog, handshakeDone_offered] at hdone
    rw [hlog]
    exact hs.talking c hdone
  · intro c id hmem
    rw [hlog] at hmem
    exact hs.told c id ((List.mem_cons.mp hmem).resolve_left (by simp))

/-- A send on an open slot, where nothing but a frame behind a handshake is written. -/
theorem offerOpen (hs : ClientStreams o p h) {c : Conn} (hi : (p.manager.sockets i).fd = some c)
    {written : List UInt8} (hlog : (perform env (.send i frame dest) p).2.log =
      .offered i (some c) dest written :: p.log)
    (hd : Delivered (.offered i (some c) dest written :: p.log)) :
    ClientStreams o (perform env (.send i frame dest) p).2 (h ++ [.put c written]) := by
  have hlt := hs.named i c hi
  -- what is written behind no handshake is nothing
  have hsame (d : Conn) (hnot : ¬HandshakeDone p.log d) :
      (h ++ [.put c written] : SocketHistory).sent d = h.sent d := by
    rw [History.sent_append, History.sent_put]
    split_ifs with hcd
    · have hnone : written = [] := by
        by_contra hwritten
        exact hnot (hcd ▸ (hd.1 hwritten).1)
      rw [hnone, List.append_nil]
    · rw [List.append_nil]
  have hreceived (d : Conn) :
      (h ++ [.put c written] : SocketHistory).received d = h.received d := by
    rw [History.received_append, History.received_put, List.append_nil]
  refine ⟨fun j d hj => hs.named j d (perform_send_fd hj),
    fun j k d hj hk => hs.apart j k d (perform_send_fd hj) (perform_send_fd hk), ?_, ?_, ?_, ?_, ?_,
    ?_, ?_⟩
  · intro d hd'
    have hne : c ≠ d := Nat.ne_of_lt (Nat.lt_of_lt_of_le hlt hd')
    exact (hs.unborn d hd').append (History.untouched_put hne)
  · intro d hdone
    rw [hlog, handshakeDone_offered] at hdone
    exact hs.ended d hdone
  · intro j d hpc hj
    obtain ⟨⟨hsilent, hnothing⟩, hnot⟩ := hs.calling j d hpc (perform_send_fd hj)
    rw [hlog, handshakeDone_offered]
    exact ⟨⟨(hsame d hnot).trans hsilent, (hreceived d).trans hnothing⟩, hnot⟩
  · intro j d hpc hj
    obtain ⟨⟨hsent, hnothing⟩, hnot⟩ := hs.called j d hpc (perform_send_fd hj)
    rw [hlog, handshakeDone_offered]
    exact ⟨⟨(hsame d hnot).trans hsent, (hreceived d).trans hnothing⟩, hnot⟩
  · intro d hnot
    rw [hlog, handshakeDone_offered] at hnot
    rw [hsame d hnot]
    exact hs.shaking d hnot
  · intro d hdone
    rw [hlog, handshakeDone_offered] at hdone
    rw [hlog, History.sent_append, History.sent_put, framesOn, ← List.append_assoc]
    congr 1
    exact hs.talking d hdone
  · intro d id hmem
    rw [hlog] at hmem
    rw [hreceived]
    exact hs.told d id ((List.mem_cons.mp hmem).resolve_left (by simp))

/-- The one operation of send_handler that writes. -/
theorem offer (hs : ClientStreams o p h)
    (hd : Delivered (perform env (.send i frame dest) p).2.log) :
    ClientStreams o (perform env (.send i frame dest) p).2
      (h ++ sendEvents env p (.send i frame dest)) := by
  cases hi : (p.manager.sockets i).fd with
  | none =>
    have hevents : sendEvents env p (.send i frame dest) = [] := by simp [sendEvents, hi]
    rw [hevents, List.append_nil]
    exact hs.offerClosed hi
  | some c =>
    have hlog : (perform env (.send i frame dest) p).2.log = .offered i (some c) dest
        ((p.manager.sockets i).toPeerSocket.send frame (env.send i)).written :: p.log := by
      rw [← hi]
      rfl
    have hevents : sendEvents env p (.send i frame dest) =
        [.put c ((p.manager.sockets i).toPeerSocket.send frame (env.send i)).written] := by
      simp [sendEvents, hi]
    rw [hevents]
    exact hs.offerOpen hi hlog (hlog ▸ hd)

end offer

/-- An operation of send_handler. -/
theorem send (hs : ClientStreams o p h) {env : SendEnv} {op : SendOp}
    (hd : Delivered (perform env op p).2.log) :
    ClientStreams o (perform env op p).2 (h ++ sendEvents env p op) := by
  have aside (hevents : sendEvents env p op = []) (hlog : (perform env op p).2.log = p.log)
      (hID : (perform env op p).2.deviceID = p.deviceID)
      (hnext : (perform env op p).2.nextConn = p.nextConn)
      (hfd : ∀ i c, ((perform env op p).2.manager.sockets i).fd = some c →
        (p.manager.sockets i).fd = some c) :
      ClientStreams o (perform env op p).2 (h ++ sendEvents env p op) := by
    rw [hevents, List.append_nil]
    exact hs.quiet hID hlog hnext hfd (fun _ => id) (fun _ => id)
  cases op with
  | send i frame dest => exact hs.offer hd
  | close i =>
    refine aside rfl rfl rfl rfl ?_
    intro j c hc
    by_cases hj : j = i
    · subst hj
      simp only [perform, close_self] at hc
      cases hc
    · simpa only [perform, close_ne _ hj] using hc
  | _ => exact aside rfl rfl rfl rfl fun _ _ hc => hc

end ClientStreams

/-- The invariant of a node that keeps clear of stale and partial IDs, with what it has done to
its outgoing connections. -/
structure ClientInv (x : Outbound × SocketHistory) : Prop where
  delivery : DeliveryInv x.1
  streams : ClientStreams x.1.opener x.1.side x.2

theorem clientInv_init (deviceID : UInt32) (adjM : Nat → UInt8) (idProtocol : Bool) :
    ClientInv (.init deviceID adjM idProtocol, []) where
  delivery := ⟨fun i _ => knownAt_init deviceID adjM i, trivial, fun _ => trivial⟩
  streams := clientStreams_init deviceID adjM

theorem ClientInv.step {addressToIp4 : List UInt8 → Bool} {x y : Outbound × SocketHistory}
    {act : OutboundAct} (h : ClientInv x) (hg : KeepsIDs x.1 act)
    (hs : recordStep (Outbound.step addressToIp4) clientEvents x act = some y) : ClientInv y := by
  obtain ⟨t, ht, rfl⟩ := Option.map_eq_some_iff.mp hs
  have hdelivery : DeliveryInv t := h.delivery.step hg ht
  refine ⟨hdelivery, ?_⟩
  cases act with
  | openTask env =>
    obtain ⟨⟨o, p⟩, hopen, rfl⟩ := Option.map_eq_some_iff.mp ht
    exact h.streams.openStep h.delivery.delivered (openStep_effect addressToIp4 hopen)
  | sendHandler k unset b =>
    rw [clientEvents, List.append_nil]
    cases Outbound.step_effect addressToIp4 ht with
    | sendHandler _ _ _ _ ho hp =>
      rw [ho, hp]
      exact h.streams
  | send k env =>
    cases hk : x.1.calls k with
    | pure a => simp [Outbound.step, hk, Prog.step] at ht
    | call op c =>
      simp only [Outbound.step, hk, Prog.step, Option.map_some] at ht
      obtain rfl := Option.some.inj ht
      have hevents : clientEvents x.1 (.send k env) = sendEvents env x.1.side op := by
        simp [clientEvents, hk, Prog.next]
      rw [hevents]
      exact h.streams.send hdelivery.delivered
  | stop =>
    obtain rfl := Option.some.inj ht
    rw [clientEvents, List.append_nil]
    exact h.streams.quiet rfl rfl rfl (fun _ _ hc => hc) (fun _ => id) (fun _ => id)
  | closeAll =>
    obtain rfl := Option.some.inj ht
    rw [clientEvents, List.append_nil]
    exact h.streams.quiet rfl rfl rfl (fun _ _ hc => by cases hc) (fun _ => id) (fun _ => id)

/-- A send of a frame on a connection: its status, and what it has written of the frame. -/
structure FrameSend where
  conn : Conn
  frame : List UInt8
  status : SocketIpStatus
  written : List UInt8
  deriving DecidableEq, Repr

/-- The send of a frame that an operation of send_handler is, on an open slot. -/
def frameSend (env : SendEnv) (p : ClientSide) : SendOp → List FrameSend
  | .send i frame _ =>
    let socket := (p.manager.sockets i).toPeerSocket
    let r := socket.send frame (env.send i)
    socket.fd.toList.map (⟨·, frame, r.status, r.written⟩)
  | _ => []

def frameSends (s : Outbound) : OutboundAct → List FrameSend
  | .send k env => (s.calls k).next.toList.flatMap (frameSend env s.side)
  | .openTask _ => []
  | .sendHandler _ _ _ => []
  | .stop => []
  | .closeAll => []

/-- What the sends have written on connection `c`, in order. -/
def writtenOn (c : Conn) (sends : List FrameSend) : List UInt8 :=
  sends.flatMap fun x => if x.conn = c then x.written else []

/-- A send that succeeds has written its frame, and any other a beginning of it at most. -/
def FrameSend.CutIfFailed (x : FrameSend) : Prop :=
  x.written <+: x.frame ∧ (x.status = .success → x.written = x.frame)

/-- The sends of a run are those that the log has of it. -/
structure SendsRecorded (p : ClientSide) (sends : List FrameSend) : Prop where
  frames : ∀ c, framesOn c p.log = writtenOn c sends
  cut : ∀ x ∈ sends, x.CutIfFailed

theorem frameSend_cut {env : SendEnv} {p : ClientSide} {op : SendOp} :
    ∀ x ∈ frameSend env p op, x.CutIfFailed := by
  intro x hx
  cases op with
  | send i frame dest =>
    obtain ⟨c, hc, rfl⟩ := List.mem_map.mp hx
    have hopen : (p.manager.sockets i).isOpened = true := by
      rw [PeerSocket.isOpened, Option.mem_toList.mp hc]
      rfl
    simp only [FrameSend.CutIfFailed, PeerSocket.send, hopen, if_true]
    split_ifs with hok
    · exact ⟨List.prefix_rfl, fun _ => rfl⟩
    · exact ⟨List.take_prefix .., fun h => absurd h hok⟩
  | _ => cases hx

theorem SendsRecorded.send {env : SendEnv} {p : ClientSide} {op : SendOp} {sends : List FrameSend}
    (h : SendsRecorded p sends) :
    SendsRecorded (perform env op p).2 (sends ++ frameSend env p op) := by
  refine ⟨?_, ?_⟩
  · intro c
    have hlog := h.frames c
    unfold writtenOn at hlog ⊢
    rw [List.flatMap_append, ← hlog]
    cases op with
    | send i frame dest =>
      cases hi : (p.manager.sockets i).fd with
      | none => simp [perform, frameSend, framesOn, hi]
      | some d => simp [perform, frameSend, framesOn, hi, MultiTcpClientSocket.send]
    | _ => exact (List.append_nil _).symm
  · intro x hx
    exact (List.mem_append.mp hx).elim (h.cut x) (frameSend_cut x)

theorem SendsRecorded.step {addressToIp4 : List UInt8 → Bool} {x y : Outbound × List FrameSend}
    {act : OutboundAct} (h : SendsRecorded x.1.side x.2)
    (hs : recordStep (Outbound.step addressToIp4) frameSends x act = some y) :
    SendsRecorded y.1.side y.2 := by
  obtain ⟨t, ht, rfl⟩ := Option.map_eq_some_iff.mp hs
  have quiet (hnone : frameSends x.1 act = [])
      (hlog : ∀ c, framesOn c t.side.log = framesOn c x.1.side.log) :
      SendsRecorded t.side (x.2 ++ frameSends x.1 act) := by
    rw [hnone, List.append_nil]
    exact ⟨fun c => (hlog c).trans (h.frames c), h.cut⟩
  cases act with
  | send k env =>
    cases hk : x.1.calls k with
    | pure a => simp [Outbound.step, hk, Prog.step] at ht
    | call op c =>
      simp only [Outbound.step, hk, Prog.step, Option.map_some] at ht
      obtain rfl := Option.some.inj ht
      have hsends : frameSends x.1 (.send k env) = frameSend env x.1.side op := by
        simp [frameSends, hk, Prog.next]
      rw [hsends]
      exact h.send
  | openTask env =>
    refine quiet rfl ?_
    intro c
    obtain ⟨⟨o, p⟩, he, rfl⟩ := Option.map_eq_some_iff.mp ht
    cases openStep_effect addressToIp4 he <;> rfl
  | sendHandler k unset b =>
    refine quiet rfl ?_
    intro c
    cases Outbound.step_effect addressToIp4 ht with
    | sendHandler _ _ _ _ ho hp => rw [hp]
  | stop =>
    obtain rfl := Option.some.inj ht
    exact quiet rfl fun _ => rfl
  | closeAll =>
    obtain rfl := Option.some.inj ht
    exact quiet rfl fun _ => rfl

theorem outbound_deviceID {addressToIp4 : List UInt8 → Bool} {s t : Outbound} {act : OutboundAct}
    (h : s.step addressToIp4 act = some t) : t.side.deviceID = s.side.deviceID := by
  cases Outbound.step_effect addressToIp4 h with
  | openTask env _ he => exact he.deviceID
  | sendHandler k unset b _ _ hp => rw [hp]
  | send k env op c _ _ _ he =>
    generalize t.side = p at he
    cases he <;> rfl
  | stop _ _ hp => rw [hp]
  | closeAll _ _ hp =>
    rw [hp]
    rfl

end MeshNetwork.Network
