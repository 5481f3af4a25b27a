import MeshNetwork.Node.HostLinks

namespace MeshNetwork.Node

open Driver

/-- The host at the other end takes the connection and goes through the handshake. -/
def HostAnswers (env : OpenEnv) : OpenPc → Prop
  | .openSocket _ => env.connected = .success
  | .sendClientID _ => env.send.status = .success
  | .recvSrvrID _ => PeerSocket.Accepted 24 env.recv env.stack
  | _ => True

/-- A call of send_handler closes no socket. -/
def ClosesNone (env : SendEnv) : SendOp → Prop
  | .send i _ _ => (env.send i).status ≠ .disconnected
  | .close _ => False
  | _ => True

/-- The hosts answer, no connection is lost, and the node is not torn down. -/
def AllWell (s : Deployment) : DeploymentAct → Prop
  | .openTask env => HostAnswers env s.outbound.opener.pc
  | .send k env => ∀ o ∈ (s.outbound.calls k).next, ClosesNone env o
  | .teardown => False
  | _ => True

/-- There is a socket for every host of the file, compareHost can tell them apart, and they have
addresses. -/
structure Dialable (addressToIp4 : List UInt8 → Bool) (file : HostText) : Prop where
  few : (endpoints file).card ≤ maxClients
  apart : ∀ e ∈ endpoints file, ∀ e' ∈ endpoints file, e.2 = e'.2 →
    e.1.take MultiTcpClientSocket.sizeofPointer = e'.1.take MultiTcpClientSocket.sizeofPointer →
      e = e'
  addresses : ∀ e ∈ endpoints file, addressToIp4 e.1 = true

/-- A socket is open for this host, and the handshake on it is over. -/
def Linked (p : ClientSide) (e : List UInt8 × UInt16) : Prop :=
  ∃ i c, OpenFor p i e.1 e.2 ∧ (p.manager.sockets i).fd = some c ∧ HandshakeDone p.log c

/-- openTask is about to connect to this host. -/
def AtWork (o : Opener) (p : ClientSide) (e : List UInt8 × UInt16) : Prop :=
  target o = e ∧ ((o.pc = .check ∨ Pending o.pc) ∨
    ∃ i, (o.pc = .sendClientID i ∨ o.pc = .recvSrvrID i) ∧ OpenFor p i e.1 e.2)

/-- No connection is lost on the way from `p` to `p'`. -/
structure StaysUp (p p' : ClientSide) : Prop where
  sockets : ∀ i c, (p.manager.sockets i).fd = some c → (p'.manager.sockets i).fd = some c ∧
    (p'.manager.sockets i).hostname = (p.manager.sockets i).hostname ∧
    (p'.manager.sockets i).port = (p.manager.sockets i).port
  log : ∀ e ∈ p.log, e ∈ p'.log

section decidable

instance (env : OpenEnv) : (pc : OpenPc) → Decidable (HostAnswers env pc)
  | .openSocket _ => inferInstanceAs (Decidable (env.connected = .success))
  | .sendClientID _ => inferInstanceAs (Decidable (env.send.status = .success))
  | .recvSrvrID _ => inferInstanceAs (Decidable (PeerSocket.Accepted 24 env.recv env.stack))
  | .entry => .isTrue trivial
  | .check => .isTrue trivial
  | .free => .isTrue trivial
  | .setHost _ => .isTrue trivial
  | .close _ => .isTrue trivial
  | .loop => .isTrue trivial
  | .closeAll => .isTrue trivial
  | .done => .isTrue trivial

instance (env : SendEnv) : DecidablePred (ClosesNone env)
  | .send i _ _ => inferInstanceAs (Decidable ((env.send i).status ≠ .disconnected))
  | .close _ => .isFalse id
  | .readBytes _ => .isTrue trivial
  | .deallocateOut => .isTrue trivial
  | .isOpened _ => .isTrue trivial
  | .getServerDeviceID _ => .isTrue trivial
  | .checkAdjacencyMatrix _ _ => .isTrue trivial
  | .checkIfAlreadyConnected _ => .isTrue trivial
  | .getSocketHandlerByID _ => .isTrue trivial

instance (s : Deployment) : (act : DeploymentAct) → Decidable (AllWell s act)
  | .openTask env => inferInstanceAs (Decidable (HostAnswers env s.outbound.opener.pc))
  | .send k env => inferInstanceAs (Decidable (∀ o ∈ (s.outbound.calls k).next, ClosesNone env o))
  | .teardown => .isFalse id
  | .acceptTask _ => .isTrue trivial
  | .readTask _ _ => .isTrue trivial
  | .sendHandler _ _ _ => .isTrue trivial

end decidable

theorem staysUp_rfl (p : ClientSide) : StaysUp p p := ⟨fun _ _ h => ⟨h, rfl, rfl⟩, fun _ => id⟩

namespace StaysUp

variable {p p' : ClientSide}

theorem openFor (h : StaysUp p p') {i : Fin maxClients} {host : List UInt8} {port : UInt16}
    (hi : OpenFor p i host port) : OpenFor p' i host port := by
  obtain ⟨hopen, hhost, hport⟩ := hi
  obtain ⟨c, hc⟩ := (PeerSocket.isOpened_iff _).mp hopen
  obtain ⟨hfd, hhost', hport'⟩ := h.sockets i c hc
  exact ⟨(PeerSocket.isOpened_iff _).mpr ⟨c, hfd⟩, hhost'.trans hhost, hport'.trans hport⟩

theorem linked (h : StaysUp p p') {e : List UInt8 × UInt16} (he : Linked p e) : Linked p' e := by
  obtain ⟨i, c, hopen, hfd, event, hmem, hcomp⟩ := he
  exact ⟨i, c, h.openFor hopen, (h.sockets i c hfd).1, event, h.log event hmem, hcomp⟩

/-- A change to a slot without a connection. -/
theorem of_closed {i : Fin maxClients} (hi : (p.manager.sockets i).fd = none)
    (hne : ∀ j, j ≠ i → p'.manager.sockets j = p.manager.sockets j) (hlog : p'.log = p.log) :
    StaysUp p p' := by
  refine ⟨?_, fun e he => hlog ▸ he⟩
  intro j c hj
  have hji : j ≠ i := by
    intro hji
    rw [hji, hi] at hj
    cases hj
  rw [hne j hji]
  exact ⟨hj, rfl, rfl⟩

end StaysUp

section answered

variable {addressToIp4 : List UInt8 → Bool} {env : OpenEnv} {o o' : Opener} {p p' : ClientSide}
  {i : Fin maxClients}

theorem openSocket_answered (h : openStep addressToIp4 env o p = some (o', p'))
    (hpc : o.pc = .openSocket i) (hg : HostAnswers env o.pc)
    (hclosed : (p.manager.sockets i).isOpened = false)
    (haddr : addressToIp4 (p.manager.sockets i).hostname = true) : o'.pc = .sendClientID i := by
  rw [hpc] at hg
  have hconnected : env.connected = .success := hg
  simp only [openStep, hpc, MultiTcpClientSocket.openSocket, hclosed, haddr, hconnected, if_true,
    Bool.false_eq_true, Bool.true_eq_false, if_false, Option.map_some, Option.some.injEq,
    Prod.mk.injEq] at h
  rw [← h.1]

theorem sendClientID_answered (h : openStep addressToIp4 env o p = some (o', p'))
    (hpc : o.pc = .sendClientID i) (hg : HostAnswers env o.pc)
    (hopen : (p.manager.sockets i).isOpened = true) : o'.pc = .recvSrvrID i := by
  rw [hpc] at hg
  have hsent : env.send.status = .success := hg
  simp only [openStep, hpc, MultiTcpClientSocket.sendClientID, PeerSocket.sendID, PeerSocket.send,
    hopen, hsent, if_true, ne_eq, not_true_eq_false, if_false, Option.some.injEq,
    Prod.mk.injEq] at h
  rw [← h.1]

theorem recvSrvrID_answered (h : openStep addressToIp4 env o p = some (o', p'))
    (hpc : o.pc = .recvSrvrID i) (hg : HostAnswers env o.pc)
    (hopen : (p.manager.sockets i).isOpened = true) : o'.pc = .loop := by
  rw [hpc] at hg
  obtain ⟨hstatus, htag⟩ : PeerSocket.Accepted 24 env.recv env.stack := hg
  have hsuccess : ((p.manager.sockets i).recvSrvrID env.recv env.stack).1 = .success := by
    rcases htag with htag | htag <;>
      simp [MultiTcpClientSocket.recvSrvrID, PeerSocket.recvID, PeerSocket.recv, hopen, hstatus,
        htag]
  simp only [openStep, hpc, hsuccess, if_true, Option.some.injEq, Prod.mk.injEq] at h
  rw [← h.1]

end answered

section openTask

variable {addressToIp4 : List UInt8 → Bool} {file : HostText} {env : OpenEnv} {o o' : Opener}
  {p p' : ClientSide} {e : List UInt8 × UInt16}

theorem target_kept (he : OpenEffect addressToIp4 env o p o' p') (hpc : o.pc ≠ .entry) :
    target o' = target o := by
  cases he with
  | entry _ _ _ hentry => exact absurd hentry hpc
  | _ => rfl

/-- Where the hosts answer openTask closes no connection. -/
theorem staysUp_openStep (h : Dials file o p) (hg : HostAnswers env o.pc)
    (hs : openStep addressToIp4 env o p = some (o', p')) : StaysUp p p' := by
  have closed {i : Fin maxClients} (hopen : (p.manager.sockets i).isOpened ≠ true) :
      (p.manager.sockets i).fd = none := Option.not_isSome_iff_eq_none.mp hopen
  cases openStep_effect addressToIp4 hs with
  | setHost i hpc =>
    have hclosed := h.pool.slotClosed i (.inl hpc)
    refine .of_closed (closed (Bool.eq_false_iff.mp hclosed)) ?_ rfl
    intro j hj
    rw [ClientSide.setSocket, TcpClientManager.set_ne _ _ hj]
  | opened i _ hclosed =>
    refine .of_closed (closed (Bool.eq_false_iff.mp hclosed)) ?_ rfl
    intro j hj
    exact setPeer_ne _ _ _ hj
  | idNotSent i hpc =>
    refine .of_closed (closed ?_) (fun j hj => setPeer_ne _ _ _ hj) rfl
    intro hopen
    cases sendClientID_answered hs hpc hg hopen
  | idReceived i c hpc hopen =>
    refine ⟨?_, fun _ => List.mem_cons_of_mem _⟩
    intro j d hj
    by_cases hji : j = i
    · subst hji
      simp only [setPeer_self]
      exact ⟨hopen.symm.trans hj, trivial, trivial⟩
    · simp only [setPeer_ne _ _ _ hji]
      exact ⟨hj, trivial, trivial⟩
  | idNotReceived i hpc =>
    refine .of_closed (closed ?_) (fun j hj => setPeer_ne _ _ _ hj) rfl
    intro hopen
    cases recvSrvrID_answered hs hpc hg hopen
  | closed i hpc => exact .of_closed (h.closing i hpc) (fun j hj => close_ne _ hj) rfl
  | closedAll hpc => exact absurd hpc h.going.2.1
  | _ => exact staysUp_rfl p

/-- Every socket is for another host of the file, so there is one left for a host that has none. -/
theorem exists_free (h : Dials file o p) (hfew : (endpoints file).card ≤ maxClients)
    (hpc : o.pc = .free) : ∃ i, p.manager.getFreeSocketIndex = some i := by
  by_contra hnone
  have hall (i : Fin maxClients) : (p.manager.sockets i).isOpened = true := by
    by_contra hclosed
    cases hfree : p.manager.getFreeSocketIndex with
    | none =>
      have hopen := Fin.find?_eq_none_iff.mp hfree i
      simp [hclosed] at hopen
    | some j => exact hnone ⟨j, hfree⟩
  have hpending : Pending o.pc := hpc ▸ trivial
  let host (i : Fin maxClients) : List UInt8 × UInt16 :=
    ((p.manager.sockets i).hostname, (p.manager.sockets i).port)
  have hmaps : ∀ i ∈ Finset.univ, host i ∈ (endpoints file).erase (target o) := by
    intro i _
    refine Finset.mem_erase.mpr ⟨?_, h.listed i _ _ ⟨hall i, rfl, rfl⟩⟩
    intro heq
    obtain ⟨hname, hport⟩ := Prod.mk.inj heq
    exact h.pool.unclaimed hpending i ⟨hall i, hname, hport⟩
  have hinj : Set.InjOn host (Finset.univ : Finset (Fin maxClients)) := by
    intro i _ j _ heq
    obtain ⟨hname, hport⟩ := Prod.mk.inj heq
    exact h.pool.distinct i j _ _ ⟨hall i, rfl, rfl⟩ ⟨hall j, hname.symm, hport.symm⟩
  have hcard := Finset.card_le_card_of_injOn host hmaps hinj
  have herase := Finset.card_erase_lt_of_mem (h.asked (.inr hpending))
  rw [Finset.card_univ, Fintype.card_fin] at hcard
  omega

/-- compareHost finds a host that it can tell apart only where there is a socket for it. -/
theorem linked_of_check (h : Dials file o p) (hfile : Dialable addressToIp4 file)
    (hpc : o.pc = .check)
    (hcheck : p.manager.checkIfAlreadyConnectedHost o.hostname_s o.port16 = true) :
    Linked p (target o) := by
  obtain ⟨i, hopen, hport, hwindow⟩ := (checkIfAlreadyConnectedHost_iff _ _ _).mp hcheck
  have hmem := h.listed i _ _ ⟨hopen, rfl, rfl⟩
  have hnul : 0 ∉ (p.manager.sockets i).hostname := zero_notMem_endpoint hmem
  have htake : (p.manager.sockets i).hostname.take MultiTcpClientSocket.sizeofPointer =
      (cString o.hostname_s).take MultiTcpClientSocket.sizeofPointer := by
    have hiff := (window_iff hnul _).mp hwindow
    split_ifs at hiff with hlen
    · rw [hiff.1]
    · exact hiff
  have heq := hfile.apart _ hmem _ (h.asked (.inl hpc)) hport.symm htake
  obtain ⟨hname, -⟩ := Prod.mk.inj heq
  obtain ⟨c, hc⟩ := (PeerSocket.isOpened_iff _).mp hopen
  refine ⟨i, c, ⟨hopen, hname, hport.symm⟩, hc, ?_⟩
  have hdone := h.greeted i c hc
  rw [hpc] at hdone
  simpa using hdone

/-- What a statement of openTask means for the host that it is about. -/
theorem AtWork.openStep (hw : AtWork o p e) (h : Dials file o p)
    (hfile : Dialable addressToIp4 file) (hg : HostAnswers env o.pc)
    (hs : Driver.openStep addressToIp4 env o p = some (o', p')) : AtWork o' p' e ∨ Linked p' e := by
  have hup := staysUp_openStep h hg hs
  have he := openStep_effect addressToIp4 hs
  obtain ⟨rfl, hpc⟩ := hw
  rcases hpc with hpc | hpc
  · have hmem := h.asked hpc
    cases he with
    | entry _ _ _ hentry => rcases hpc with hpc | hpc <;> simp [hentry, Pending] at hpc
    | known hcheck =>
      right
      cases hfound : p.manager.checkIfAlreadyConnectedHost o.hostname_s o.port16 with
      | true => exact linked_of_check h hfile hcheck hfound
      | false =>
        simp only [Driver.openStep, hcheck, hfound, Option.some.injEq, Prod.mk.injEq] at hs
        cases congrArg Opener.pc hs.1
    | unknown => exact .inl ⟨rfl, .inl (.inr trivial)⟩
    | full hfree =>
      obtain ⟨i, hi⟩ := exists_free h hfile.few hfree
      simp only [Driver.openStep, hfree, hi, Option.some.injEq, Prod.mk.injEq] at hs
      cases congrArg Opener.pc hs.1
    | slot => exact .inl ⟨rfl, .inl (.inr trivial)⟩
    | setHost => exact .inl ⟨rfl, .inl (.inr trivial)⟩
    | opened i hopen =>
      obtain ⟨hname, hport⟩ := h.pool.configured i hopen
      refine .inl ⟨rfl, .inr ⟨i, .inl rfl, ?_⟩⟩
      simpa [OpenFor, PeerSocket.isOpened] using ⟨hname, hport⟩
    | notOpened i hopen hclosed =>
      obtain ⟨hname, -⟩ := h.pool.configured i hopen
      have haddr := hfile.addresses _ hmem
      cases openSocket_answered hs hopen hg hclosed (hname ▸ haddr)
    | _ => rcases hpc with hpc | hpc <;> simp [*, Pending] at hpc
  · obtain ⟨i, hpc, hopen⟩ := hpc
    have hopen' := hup.openFor hopen
    rcases hpc with hpc | hpc
    · have hnext := sendClientID_answered hs hpc hg hopen.1
      exact .inl ⟨target_kept he (by simp [hpc]), .inr ⟨i, .inr hnext, hopen'⟩⟩
    · have hnext := recvSrvrID_answered hs hpc hg hopen.1
      obtain ⟨c, hc⟩ := (PeerSocket.isOpened_iff _).mp hopen'.1
      have hdone := h.greeted_openStep he hc
      rw [hnext] at hdone
      exact .inr ⟨i, c, hopen', hc, by simpa using hdone⟩

end openTask

theorem staysUp_send {env : SendEnv} {op : SendOp} {p p' : ClientSide}
    (hg : ClosesNone env op) (he : SendEffect env op p p') : StaysUp p p' := by
  cases he with
  | quiet => exact ⟨fun _ _ h => ⟨h, rfl, rfl⟩, fun _ => id⟩
  | sent => exact ⟨fun _ _ h => ⟨h, rfl, rfl⟩, fun _ => List.mem_cons_of_mem _⟩
  | reset i frame dest written h _ hd =>
    subst h
    exact absurd hd hg
  | closed i h =>
    subst h
    exact absurd hg id

/-- Of the entries that openTask has got all but the last are connected, and it is at work on the
last. -/
structure Settled (s : Deployment) (entries : List (Option (List UInt8))) : Prop where
  past : ∀ token, some token ∈ entries.dropLast → ∀ e ∈ endpoint token, Linked s.outbound.side e
  last : ∀ token, entries.getLast? = some (some token) → ∀ e ∈ endpoint token,
    Linked s.outbound.side e ∨ AtWork s.outbound.opener s.outbound.side e

namespace Settled

variable {addressToIp4 : List UInt8 → Bool} {file : HostText} {s t : Deployment}
  {entries : List (Option (List UInt8))}

theorem settled_nil (s : Deployment) : Settled s [] where
  past _ h := by cases h
  last _ h := by cases h

/-- Nothing new has been read. -/
theorem goesOn (h : Settled s entries) (hup : StaysUp s.outbound.side t.outbound.side)
    (hwork : ∀ e, AtWork s.outbound.opener s.outbound.side e →
      AtWork t.outbound.opener t.outbound.side e ∨ Linked t.outbound.side e) :
    Settled t entries := by
  refine ⟨?_, ?_⟩
  · intro token htoken e he
    exact hup.linked (h.past token htoken e he)
  · intro token htoken e he
    rcases h.last token htoken e he with hlinked | hat
    · exact .inl (hup.linked hlinked)
    · exact (hwork e hat).symm

/-- Where openTask reads the next entry it is done with all before. -/
theorem all (h : Settled s entries) (hpc : s.outbound.opener.pc = .entry) {token : List UInt8}
    (htoken : some token ∈ entries) {e : List UInt8 × UInt16} (he : e ∈ endpoint token) :
    Linked s.outbound.side e := by
  by_cases hlast : some (some token) = entries.getLast?
  · refine (h.last token hlast.symm e he).resolve_right ?_
    intro hat
    obtain ⟨-, hat⟩ := hat
    simp [hpc, Pending] at hat
  · exact h.past token (List.mem_dropLast_of_mem_of_ne_getLast? htoken hlast) e he

theorem step (h : Settled s entries) (hd : Dials file s.outbound.opener s.outbound.side)
    (hfile : Dialable addressToIp4 file) {act : DeploymentAct} (hg : AllWell s act)
    (hs : s.step addressToIp4 act = some t) : Settled t (entries ++ hostEntries s act) := by
  have hact : act ≠ .teardown := by
    intro hact
    subst hact
    exact hg
  cases outbound_view hact hs with
  | same _ hsame hnone =>
    rw [hnone, List.append_nil]
    refine h.goesOn ?_ ?_
    · rw [hsame]
      exact staysUp_rfl _
    · rw [hsame]
      exact fun _ => .inl
  | sendHandler k unset b hu =>
    cases Outbound.step_effect addressToIp4 hu with
    | sendHandler _ _ _ _ ho hp =>
      refine (List.append_nil entries).symm ▸ h.goesOn ?_ ?_
      · rw [hp]
        exact staysUp_rfl _
      · rw [ho, hp]
        exact fun _ => .inl
  | send k env hu =>
    cases Outbound.step_effect addressToIp4 hu with
    | send _ _ op c hk _ ho he =>
      have hclosesNone : ClosesNone env op := hg op (by rw [hk]; rfl)
      have hup := staysUp_send hclosesNone he
      refine (List.append_nil entries).symm ▸ h.goesOn hup ?_
      intro e hat
      obtain ⟨htarget, hpc⟩ := hat
      rw [ho]
      refine .inl ⟨htarget, ?_⟩
      rcases hpc with hpc | ⟨i, hpc, hopen⟩
      · exact .inl hpc
      · exact .inr ⟨i, hpc, hup.openFor hopen⟩
  | openTask env line hu hline =>
    obtain ⟨⟨o, p⟩, hstep, heq⟩ := Option.map_eq_some_iff.mp hu
    have hg' : HostAnswers { env with line := line } s.outbound.opener.pc := hg
    have hup := staysUp_openStep hd hg' hstep
    by_cases hpc : s.outbound.opener.pc = .entry
    · rw [hline, if_pos hpc]
      refine ⟨?_, ?_⟩
      · intro token htoken e he
        rw [List.dropLast_concat] at htoken
        rw [← heq]
        exact hup.linked (h.all hpc htoken he)
      · intro token htoken e he
        rw [List.getLast?_concat] at htoken
        have hread := Option.some.inj htoken
        obtain ⟨hcheck, htarget⟩ := openStep_reads hstep hpc hread he
        rw [← heq]
        exact .inr ⟨htarget, .inl (.inl hcheck)⟩
    · rw [hline, if_neg hpc, List.append_nil]
      refine h.goesOn ?_ ?_
      · rw [← heq]
        exact hup
      · intro e hat
        rw [← heq]
        exact hat.openStep hd hfile hg' hstep

end Settled

/-- The mesh forms, and heals. From any state of a node that is not being torn down: once openTask
has asked for more entries than the hostfile has, with the hosts answering and no connection lost
meanwhile, all hosts of the file are connected. -/
theorem hosts_connected (addressToIp4 : List UInt8 → Bool)
    (haddr : ∀ hostname, addressToIp4 hostname = true → 7 ≤ hostname.length)
    (deviceID : UInt32) (adjM : Nat → UInt8) (idProtocol : Bool) (file : HostText) (baseFd : Int)
    (hfile : Dialable addressToIp4 file) (before acts : List DeploymentAct) (s t : Deployment)
    (entries : List (Option (List UInt8)))
    (hbefore : run (Deployment.step addressToIp4)
      (.configured deviceID adjM idProtocol file.content baseFd) before = some s)
    (hteardown : s.teardown = .closeFile)
    (hrun : run (recordStep (Deployment.step addressToIp4) hostEntries) (s, []) acts =
      some (t, entries))
    (hwell : AllSteps (Deployment.step addressToIp4) AllWell s acts)
    (hround : file.tokens.length < entries.length) :
    ∀ e ∈ endpoints file, Linked t.outbound.side e := by
  obtain ⟨read, hread⟩ := exists_recordStep hostEntries hbefore []
  obtain ⟨hturn, hdials⟩ := dials_reached haddr
    (entriesInTurn_init deviceID adjM idProtocol file baseFd) (dials_init file deviceID adjM)
    hread hteardown
  have hstart : EntriesInTurn file read.length (s, []) :=
    ⟨by simpa using hturn.position, fun _ _ h => by cases h⟩
  have h := run_invariant (P := fun x act => AllWell x.1 act)
    (I := fun x : Deployment × List (Option (List UInt8)) => EntriesInTurn file read.length x ∧
      Dials file x.1.outbound.opener x.1.outbound.side ∧ Settled x.1 x.2)
    ?_ ⟨hstart, hdials, Settled.settled_nil s⟩ (allSteps_recordStep hwell) hrun
  · obtain ⟨hlast, -, hsettled⟩ := h
    intro e he
    obtain ⟨token, htoken, hend⟩ := mem_endpoints.mp he
    obtain ⟨i, hi, hget⟩ := List.mem_iff_getElem.mp htoken
    -- within one round openTask has got this entry
    obtain ⟨j, hj, hmod⟩ := exists_add_mod read.length hi
    have hentry := hlast.entries j _ (List.getElem?_eq_getElem (hj.trans hround))
    rw [hmod, List.getElem?_eq_getElem hi, hget] at hentry
    have hpast : j < entries.dropLast.length := by
      rw [List.length_dropLast]
      omega
    refine hsettled.past token ?_ e hend
    rw [← hentry, ← List.getElem_dropLast hpast]
    exact List.getElem_mem hpast
  · intro x act y hx hg hs
    obtain ⟨hentries, hlinks, hsettled⟩ := hx
    obtain ⟨u, hu, rfl⟩ := Option.map_eq_some_iff.mp hs
    have hact : act ≠ .teardown := by
      intro hact
      subst hact
      exact hg
    exact ⟨hentries.step hact hs, hlinks.step haddr hentries.position hact hu,
      hsettled.step hlinks hfile hg hu⟩

theorem hosts_connected_pair : (endpoints pairFile).card = 2 ∧
    ∀ e ∈ endpoints pairFile, Linked pairRead.1.outbound.side e :=
  ⟨by decide +kernel, hosts_connected (fun host => 7 ≤ host.length) (fun _ => of_decide_eq_true)
    baseID (initAdjacencyMatrix fun _ => 0) true pairFile 3
    ⟨by decide +kernel, by decide +kernel, by decide +kernel⟩ [] pairRounds pairStart pairRead.1
    pairRead.2 rfl rfl (Option.some_get (by decide +kernel)).symm (by decide +kernel)
    (by decide +kernel)⟩

end MeshNetwork.Node
