import MeshNetwork.Network.ClientStreams
import MeshNetwork.Node.Handshake
import MeshNetwork.Node.ReceivedStream
import MeshNetwork.Node.StaleIDs
import MeshNetwork.Node.Successors

namespace MeshNetwork.Network

open Driver Node

/-- The client whose ID acceptTask has received and that has no read task yet. -/
def greetedClient : AcceptPc → Option Conn
  | .sendSrvrID _ c => some c
  | .search _ c => some c
  | .assign _ _ c => some c
  | .start _ _ c => some c
  | _ => none

/-- open gives away a slot only after the read tasks of its earlier clients have ended. -/
def TakesFree (env : AcceptEnv) (s : Inbound) : Prop := ∀ i, Takes env s i → Unread s i

instance (env : AcceptEnv) (s : Inbound) : Decidable (TakesFree env s) :=
  inferInstanceAs (Decidable (∀ _ : Fin maxClients, _))

/-- No read task is at work on the slot of the client that acceptTask has taken on. -/
def FreeForClients (s : Inbound) : Prop := ∀ x ∈ heldClient s.pc, Unread s x.1

namespace FreeForClients

variable {s t : Inbound}

theorem acceptStep {env : AcceptEnv} (h : FreeForClients s) (htakes : TakesFree env s)
    (he : AcceptEffect env s t) : FreeForClients t := by
  intro x hx r hr
  obtain ⟨hreaders, hheld⟩ := he.held hx
  rw [hreaders] at hr
  rcases hheld with hx | ⟨htake, -⟩
  · exact h x hx r hr
  · exact htakes x.1 htake r hr

theorem readStep {env : ReadEnv} {n : Nat} (h : FreeForClients s) (he : ReadEffect env s n t) :
    FreeForClients t := by
  intro x hx
  rw [he.frame.1] at hx
  exact (h x hx).readStep he

theorem step {act : InboundAct} (h : FreeForClients s) (hg : OnAccept (TakesFree · s) act)
    (hs : s.step act = some t) : FreeForClients t := by
  cases act with
  | acceptTask env => exact h.acceptStep hg (acceptStep_effect hs)
  | readTask n env => exact h.readStep (readStep_effect hs)
  | stop | closeAll | shutdown =>
    obtain rfl := Option.some.inj hs
    exact h

theorem slotRested (h : FreeForClients s) : SlotRested s := by
  intro i hi
  obtain ⟨c, hx⟩ : ∃ c, heldClient s.pc = some (i, c) := by
    cases hpc : s.pc with
    | search j c =>
      rw [hpc] at hi
      obtain rfl := Option.some.inj hi
      exact ⟨c, rfl⟩
    | _ => rw [hpc] at hi; cases hi
  exact h (i, c) hx

theorem ne_slot (h : FreeForClients s) {r : Reader} (hr : r ∈ s.readers) (hlive : r.live = true) :
    ∀ x ∈ heldClient s.pc, x.1 ≠ r.slot := by
  intro x hx hslot
  cases hlive.symm.trans (h x hx r hr hslot.symm)

end FreeForClients

/-- What is on the accepted streams: a client says its ID, six bytes that recvClientID takes, and a
read task takes the rest. All that goes back is the ID of the node. -/
structure ServerStreams (s : Inbound) (h : SocketHistory) : Prop where
  protocol : s.idProtocol = true
  named : ∀ i d, (s.manager.sockets i).fd = some d → d < s.nextConn
  unborn : ∀ d, s.nextConn ≤ d → History.Untouched d h
  numbered : ∀ r ∈ s.readers, r.conn < s.nextConn
  separate : s.readers.Pairwise fun r r' => r.conn ≠ r'.conn
  held : ∀ i d, heldClient s.pc = some (i, d) → d < s.nextConn ∧ ∀ r ∈ s.readers, r.conn ≠ d
  fresh : ∀ i d, s.pc = .recvClientID i d → History.Untouched d h
  greeted : ∀ d, greetedClient s.pc = some d → (h.received d).length = 6
  unanswered : ∀ i d, s.pc = .sendSrvrID i d → h.sent d = []
  answers : ∀ d, h.sent d <+: idEntry s.deviceID
  told : ∀ d id, .clientID d id ∈ s.log →
    6 ≤ (h.received d).length ∧ id = announced (h.received d)
  reading : ∀ r ∈ s.readers, ∃ hello events, ReadInv r events ∧ hello.length = 6 ∧
    h.received r.conn = hello ++ events.flatMap ReadEvent.bytes

theorem serverStreams_init (deviceID : UInt32) : ServerStreams { deviceID := deviceID } [] where
  protocol := rfl
  named _ _ hd := by cases hd
  unborn _ _ := History.untouched_nil
  numbered := by simp
  separate := List.Pairwise.nil
  held _ _ hx := by cases hx
  fresh _ _ hpc := by cases hpc
  greeted _ hd := by cases hd
  unanswered _ _ hpc := by cases hpc
  answers _ := List.nil_prefix
  told _ _ hmem := by cases hmem
  reading := by simp

/-- With the ID protocol a new client has to say its ID. -/
theorem accepted_greets {env : AcceptEnv} {s t : Inbound} (h : s.acceptStep env = some t)
    (hpc : s.pc = .openClient) (hprotocol : s.idProtocol = true) (i : Fin maxClients) (c : Conn) :
    t.pc ≠ .search i c := by
  simp only [Inbound.acceptStep, hpc, hprotocol, if_true] at h
  split at h
  · obtain rfl := Option.some.inj h
    simp
  · obtain rfl := Option.some.inj h
    simp

theorem announced_append {xs : List UInt8} (h : 6 ≤ xs.length) (ys : List UInt8) :
    announced (xs ++ ys) = announced xs := by
  match xs, h with
  | _ :: _ :: _ :: _ :: _ :: _ :: _, _ => rfl

theorem greetedClient_held {pc : AcceptPc} {d : Conn} (h : greetedClient pc = some d) :
    ∃ i, heldClient pc = some (i, d) := by
  cases pc with
  | sendSrvrID i c => exact ⟨i, congrArg (fun c => some (i, c)) (Option.some.inj h)⟩
  | search i c => exact ⟨i, congrArg (fun c => some (i, c)) (Option.some.inj h)⟩
  | assign k i c => exact ⟨i, congrArg (fun c => some (i, c)) (Option.some.inj h)⟩
  | start k i c => exact ⟨i, congrArg (fun c => some (i, c)) (Option.some.inj h)⟩
  | _ => cases h

namespace ServerStreams

variable {s t : Inbound} {h : SocketHistory}

/-- A statement of acceptTask that does nothing to a connection, save that it may close some. -/
theorem quiet (hs : ServerStreams s h) (hprotocol : t.idProtocol = s.idProtocol)
    (hID : t.deviceID = s.deviceID) (hnext : t.nextConn = s.nextConn)
    (hreaders : t.readers = s.readers)
    (hfd : ∀ i d, (t.manager.sockets i).fd = some d → (s.manager.sockets i).fd = some d)
    (hlog : ∀ d id, .clientID d id ∈ t.log → .clientID d id ∈ s.log)
    (hheld : ∀ x, heldClient t.pc = some x → heldClient s.pc = some x)
    (hfresh : ∀ i d, t.pc = .recvClientID i d → s.pc = .recvClientID i d)
    (hgreeted : ∀ d, greetedClient t.pc = some d → greetedClient s.pc = some d)
    (hanswering : ∀ i d, t.pc = .sendSrvrID i d → s.pc = .sendSrvrID i d) :
    ServerStreams t h := by
  refine ⟨hprotocol.trans hs.protocol, ?_, ?_, ?_, ?_, ?_, ?_, ?_, ?_, ?_, ?_, ?_⟩
  · intro i d hd
    rw [hnext]
    exact hs.named i d (hfd i d hd)
  · rw [hnext]
    exact hs.unborn
  · rw [hnext, hreaders]
    exact hs.numbered
  · rw [hreaders]
    exact hs.separate
  · intro i d hx
    rw [hnext, hreaders]
    exact hs.held i d (hheld _ hx)
  · intro i d hpc
    exact hs.fresh i d (hfresh i d hpc)
  · intro d hd
    exact hs.greeted d (hgreeted d hd)
  · intro i d hpc
    exact hs.unanswered i d (hanswering i d hpc)
  · rw [hID]
    exact hs.answers
  · intro d id hmem
    exact hs.told d id (hlog d id hmem)
  · rw [hreaders]
    exact hs.reading

/-- Something is done to the connection of the client that acceptTask holds: the streams of the
tasks and of the clients known so far are not touched. -/
theorem heldStream (hs : ServerStreams s h) {i : Fin maxClients} {c : Conn}
    (hheld : heldClient s.pc = some (i, c)) {e : SocketEvent}
    (he : ∀ d, c ≠ d → History.Untouched d [e]) :
    (∀ d, s.nextConn ≤ d → History.Untouched d (h ++ [e])) ∧
      ∀ r ∈ s.readers, (h ++ [e] : SocketHistory).received r.conn = h.received r.conn := by
  obtain ⟨hlt, hapart⟩ := hs.held i c hheld
  constructor
  · intro d hd
    exact (hs.unborn d hd).append (he d (Nat.ne_of_lt (Nat.lt_of_lt_of_le hlt hd)))
  · intro r hr
    rw [History.received_append, (he r.conn (hapart r hr).symm).2, List.append_nil]

theorem acceptTaskEvents_idle {env : AcceptEnv} (hidle : Idle s.pc) :
    acceptTaskEvents env s = [] := by
  unfold acceptTaskEvents
  cases hpc : s.pc with
  | recvClientID i c => cases hpc ▸ hidle.1
  | sendSrvrID i c => cases hpc ▸ hidle.1
  | _ => rfl

/-- A new connection is silent. -/
theorem accepted (hs : ServerStreams s h) (i : Fin maxClients) (ID : UInt32) :
    ServerStreams { s with
      manager := { s.manager.setPeer i ⟨some s.nextConn, ID⟩ with
        currentClientConnections := s.manager.currentClientConnections + 1 }
      nextConn := s.nextConn + 1
      pc := .recvClientID i s.nextConn } h := by
  refine ⟨hs.protocol, ?_, ?_, ?_, hs.separate, ?_, ?_, by simp [greetedClient], by simp,
    hs.answers, hs.told, hs.reading⟩
  · intro j d hd
    by_cases hj : j = i
    · subst hj
      simp only [MultiTcpServerManager.setPeer_self] at hd
      obtain rfl := Option.some.inj hd
      exact Nat.lt_succ_self _
    · simp only [MultiTcpServerManager.setPeer_ne _ _ _ hj] at hd
      exact Nat.lt_succ_of_lt (hs.named j d hd)
  · intro d hd
    exact hs.unborn d (Nat.le_of_succ_le hd)
  · intro r hr
    exact Nat.lt_succ_of_lt (hs.numbered r hr)
  · intro j d hx
    obtain ⟨rfl, rfl⟩ := Prod.mk.inj (Option.some.inj hx)
    exact ⟨Nat.lt_succ_self _, fun r hr => Nat.ne_of_lt (hs.numbered r hr)⟩
  · intro j d hpc
    obtain ⟨rfl, rfl⟩ := AcceptPc.recvClientID.inj hpc
    exact hs.unborn _ (Nat.le_refl _)

/-- The client has said its ID, all of it. -/
theorem idReceived (hs : ServerStreams s h) {env : AcceptEnv} {i : Fin maxClients} {c : Conn}
    (ID : UInt32) (hpc : s.pc = .recvClientID i c) (hi : (s.manager.sockets i).fd = some c)
    (hok : env.recv.status = .success) (hwhole : 6 ≤ env.recv.bytes.length) :
    ServerStreams { s with
      manager := s.manager.setPeer i ⟨some c, ID⟩
      pc := .sendSrvrID i c
      log := .clientID c (announced (env.recv.bytes.take 6)) :: s.log }
      (h ++ acceptTaskEvents env s) := by
  have hopen : (s.manager.sockets i).isOpened = true := (PeerSocket.isOpened_iff _).mpr ⟨c, hi⟩
  have hevents : acceptTaskEvents env s = [.took c (env.recv.bytes.take 6)] := by
    simp [acceptTaskEvents, hpc, hi, PeerSocket.recv, hopen, hok]
  have hheld : heldClient s.pc = some (i, c) := by rw [hpc]; rfl
  obtain ⟨hsilent, hnothing⟩ := hs.fresh i c hpc
  have hother (d : Conn) (hne : c ≠ d) : History.Untouched d
      [StreamEvent.took c (env.recv.bytes.take 6)] := History.untouched_took hne
  obtain ⟨hunborn, hreading⟩ := hs.heldStream hheld hother
  have hreceived : (h ++ [.took c (env.recv.bytes.take 6)] : SocketHistory).received c =
      env.recv.bytes.take 6 := by simp [hnothing]
  have hlen : (env.recv.bytes.take 6).length = 6 := by
    rw [List.length_take]
    exact Nat.min_eq_left hwhole
  rw [hevents]
  refine ⟨hs.protocol, ?_, hunborn, hs.numbered, hs.separate, ?_, by simp, ?_, ?_, ?_, ?_, ?_⟩
  · intro j d hd
    by_cases hj : j = i
    · subst hj
      simp only [MultiTcpServerManager.setPeer_self] at hd
      exact hs.named j d (hi.trans hd)
    · simp only [MultiTcpServerManager.setPeer_ne _ _ _ hj] at hd
      exact hs.named j d hd
  · intro j d hx
    exact hs.held j d (by rw [hheld]; exact hx)
  · intro d hd
    obtain rfl := Option.some.inj hd
    rw [hreceived, hlen]
  · intro j d hpc'
    obtain ⟨rfl, rfl⟩ := AcceptPc.sendSrvrID.inj hpc'
    rw [History.sent_append, History.sent_took, hsilent]
    rfl
  · intro d
    rw [History.sent_append, History.sent_took, List.append_nil]
    exact hs.answers d
  · intro d id hmem
    rcases List.mem_cons.mp hmem with heq | hmem
    · obtain ⟨rfl, rfl⟩ := ServerEvent.clientID.inj heq
      rw [hreceived, hlen]
      exact ⟨Nat.le_refl 6, rfl⟩
    · have htold := hs.told d id hmem
      have hne : c ≠ d := by
        intro hcd
        rw [← hcd, hnothing] at htold
        exact absurd htold.1 (by simp)
      rw [History.received_append, (History.untouched_took hne).2, List.append_nil]
      exact htold
  · intro r hr
    rw [hreading r hr]
    exact hs.reading r hr

/-- No ID has come: the connection is given up on, whatever has come. -/
theorem idNotReceived (hs : ServerStreams s h) (hown : OwnInv s) {env : AcceptEnv}
    {i : Fin maxClients} {c : Conn} (hpc : s.pc = .recvClientID i c) :
    ServerStreams { s with
      manager := s.manager.setPeer i (s.manager.sockets i).baseClose
      pc := .close i } (h ++ acceptTaskEvents env s) := by
  have hheld : heldClient s.pc = some (i, c) := by rw [hpc]; rfl
  have hclosed : ServerStreams { s with
      manager := s.manager.setPeer i (s.manager.sockets i).baseClose
      pc := .close i } h :=
    hs.quiet rfl rfl rfl rfl (fun _ _ => MultiTcpServerManager.baseClose_fd) (fun _ _ => id)
      (by simp [heldClient]) (by simp) (by simp [greetedClient]) (by simp)
  cases hi : (s.manager.sockets i).fd with
  | none =>
    have hevents : acceptTaskEvents env s = [] := by simp [acceptTaskEvents, hpc, hi]
    rw [hevents, List.append_nil]
    exact hclosed
  | some d =>
    obtain rfl := hown.held i c hheld d hi
    obtain ⟨hsilent, hnothing⟩ := hs.fresh i d hpc
    have hevents : acceptTaskEvents env s =
        [.took d ((s.manager.sockets i).toPeerSocket.recv 6 env.recv).bytes] := by
      simp [acceptTaskEvents, hpc, hi]
    rw [hevents]
    obtain ⟨hunborn, hreading⟩ := hs.heldStream hheld fun e hne => History.untouched_took hne
    refine ⟨hs.protocol, hclosed.named, hunborn, hs.numbered, hs.separate, hclosed.held, by simp,
      by simp [greetedClient], by simp, ?_, ?_, ?_⟩
    · intro e
      rw [History.sent_append, History.sent_took, List.append_nil]
      exact hs.answers e
    · intro e id hmem
      have htold := hs.told e id hmem
      have hne : d ≠ e := by
        intro hde
        rw [← hde, hnothing] at htold
        exact absurd htold.1 (by simp)
      rw [History.received_append, (History.untouched_took hne).2, List.append_nil]
      exact htold
    · intro r hr
      rw [hreading r hr]
      exact hs.reading r hr

/-- The answer goes out, the whole ID of the node or the beginning of it. -/
theorem answered (hs : ServerStreams s h) (hown : OwnInv s) {env : AcceptEnv}
    {i : Fin maxClients} {c : Conn} (hpc : s.pc = .sendSrvrID i c) {m : MultiTcpServerManager}
    {pc : AcceptPc} (hpc' : pc = .search i c ∨ pc = .loop)
    (hfd : ∀ j d, (m.sockets j).fd = some d → (s.manager.sockets j).fd = some d) :
    ServerStreams { s with manager := m, pc := pc } (h ++ acceptTaskEvents env s) := by
  have hheld : heldClient s.pc = some (i, c) := by rw [hpc]; rfl
  have hgreeted : greetedClient s.pc = some c := by rw [hpc]; rfl
  have hquiet : ServerStreams { s with manager := m, pc := pc } h := by
    refine hs.quiet rfl rfl rfl rfl hfd (fun _ _ => id) ?_ ?_ ?_ ?_
    · intro x hx
      rcases hpc' with rfl | rfl
      · exact hheld.trans hx
      · cases hx
    · intro j d hd
      rcases hpc' with rfl | rfl <;> cases hd
    · intro d hd
      rcases hpc' with rfl | rfl
      · exact hgreeted.trans hd
      · cases hd
    · intro j d hd
      rcases hpc' with rfl | rfl <;> cases hd
  cases hi : (s.manager.sockets i).fd with
  | none =>
    have hevents : acceptTaskEvents env s = [] := by simp [acceptTaskEvents, hpc, hi]
    rw [hevents, List.append_nil]
    exact hquiet
  | some d =>
    obtain rfl := hown.held i c hheld d hi
    have hevents : acceptTaskEvents env s =
        [.put d ((s.manager.sockets i).toPeerSocket.sendID s.deviceID env.send).written] := by
      simp [acceptTaskEvents, hpc, hi]
    rw [hevents]
    obtain ⟨hunborn, -⟩ := hs.heldStream hheld fun e hne => History.untouched_put hne
    have hreceived (e : Conn) : (h ++ [.put d ((s.manager.sockets i).toPeerSocket.sendID
        s.deviceID env.send).written] : SocketHistory).received e = h.received e := by
      rw [History.received_append, History.received_put, List.append_nil]
    refine ⟨hs.protocol, hquiet.named, hunborn, hs.numbered, hs.separate, hquiet.held, ?_, ?_, ?_,
      ?_, ?_, ?_⟩
    · intro j e he
      rcases hpc' with rfl | rfl <;> cases he
    · intro e he
      rw [hreceived]
      exact hquiet.greeted e he
    · intro j e he
      rcases hpc' with rfl | rfl <;> cases he
    · intro e
      rw [History.sent_append, History.sent_put]
      split_ifs with hde
      · rw [← hde, hs.unanswered i d hpc, List.nil_append]
        exact sendID_prefix _ _ _
      · rw [List.append_nil]
        exact hs.answers e
    · intro e id hmem
      rw [hreceived]
      exact hs.told e id hmem
    · intro r hr
      rw [hreceived]
      exact hs.reading r hr

/-- The client goes over to its read task. -/
theorem started (hs : ServerStreams s h) {i : Fin maxClients} {c : Conn} {k : Fin maxTasks}
    (hpc : s.pc = .start k i c) :
    ServerStreams { s with
      readers := s.readers ++ [{ slot := i, conn := c, entry := k }]
      pc := .loop } h := by
  have hheld : heldClient s.pc = some (i, c) := by rw [hpc]; rfl
  obtain ⟨hlt, hapart⟩ := hs.held i c hheld
  refine ⟨hs.protocol, hs.named, hs.unborn, ?_, ?_, by simp [heldClient], by simp,
    by simp [greetedClient], by simp, hs.answers, hs.told, ?_⟩
  · intro r hr
    rcases List.mem_append.mp hr with hr | hr
    · exact hs.numbered r hr
    · obtain rfl := List.mem_singleton.mp hr
      exact hlt
  · refine List.pairwise_append.mpr ⟨hs.separate, List.pairwise_singleton _ _, ?_⟩
    intro r hr r' hr'
    obtain rfl := List.mem_singleton.mp hr'
    exact hapart r hr
  · intro r hr
    rcases List.mem_append.mp hr with hr | hr
    · exact hs.reading r hr
    · obtain rfl := List.mem_singleton.mp hr
      have hlen := hs.greeted c (by rw [hpc]; rfl)
      exact ⟨h.received c, [], readInv_new rfl rfl, hlen, by simp⟩

/-- A statement of acceptTask. -/
theorem acceptStep (hs : ServerStreams s h) (hown : OwnInv s) {env : AcceptEnv}
    (hwhole : WholeClientID env s) (hstep : s.acceptStep env = some t) :
    ServerStreams t (h ++ acceptTaskEvents env s) := by
  -- the statements outside a handshake touch no stream
  have aside (hevents : acceptTaskEvents env s = []) {u : Inbound} (hu : ServerStreams u h) :
      ServerStreams u (h ++ acceptTaskEvents env s) := by
    rw [hevents, List.append_nil]
    exact hu
  cases acceptStep_effect hstep with
  | idle pc joinStatus taskCount started hfrom hto =>
    refine aside (acceptTaskEvents_idle hfrom) ?_
    refine hs.quiet rfl rfl rfl rfl (fun _ _ => id) (fun _ _ => id) ?_ ?_ ?_ ?_
    · intro x hx
      cases hto.1.symm.trans hx
    · intro i d hpc
      obtain rfl : pc = .recvClientID i d := hpc
      cases hto.1
    · intro d hd
      obtain ⟨i, hi⟩ := greetedClient_held hd
      cases hto.1.symm.trans hi
    · intro i d hpc
      obtain rfl : pc = .sendSrvrID i d := hpc
      cases hto.1
  | accepted i pc htake hpc =>
    refine aside (by simp [acceptTaskEvents, htake.1]) ?_
    rcases hpc with rfl | rfl
    · exact hs.accepted i _
    · exact absurd rfl (accepted_greets hstep htake.1 hs.protocol i s.nextConn)
  | idReceived i c d hpc hfd ha =>
    obtain rfl := hown.held i c (by rw [hpc]; rfl) d hfd
    have hlen : 6 ≤ env.recv.bytes.length :=
      hwhole i (by rw [hpc]; rfl) ((PeerSocket.isOpened_iff _).mpr ⟨d, hfd⟩) ha
    exact hs.idReceived _ hpc hfd ha.1 hlen
  | idNotReceived i c hpc => exact hs.idNotReceived hown hpc
  | refused i hpc =>
    refine aside (by simp [acceptTaskEvents, hpc]) ?_
    exact hs.quiet rfl rfl rfl rfl (fun _ _ => MultiTcpServerManager.close_fd) (fun _ _ => id)
      (by simp [heldClient]) (by simp) (by simp [greetedClient]) (by simp)
  | idSent i c hpc hopen hok => exact hs.answered hown hpc (.inl rfl) fun _ _ => id
  | idNotSent i c hpc hfail =>
    exact hs.answered hown hpc (.inr rfl) fun _ _ => MultiTcpServerManager.baseClose_fd
  | unserved i c hpc hk =>
    refine aside (by simp [acceptTaskEvents, hpc]) ?_
    exact hs.quiet rfl rfl rfl rfl (fun _ _ => id) (by simp) (by simp [heldClient]) (by simp)
      (by simp [greetedClient]) (by simp)
  | served i c k _ _ hpc =>
    refine aside (by simp [acceptTaskEvents, hpc]) ?_
    exact hs.quiet rfl rfl rfl rfl (fun _ _ => id) (by simp) (by simp [heldClient, hpc]) (by simp)
      (by simp [greetedClient, hpc]) (by simp)
  | assigned i c k hpc =>
    refine aside (by simp [acceptTaskEvents, hpc]) ?_
    exact hs.quiet rfl rfl rfl rfl (fun _ _ => id) (fun _ _ => id) (by simp [heldClient, hpc])
      (by simp) (by simp [greetedClient, hpc]) (by simp)
  | started i c k hpc => exact aside (by simp [acceptTaskEvents, hpc]) (hs.started hpc)
  | returned hpc =>
    refine aside (by simp [acceptTaskEvents, hpc]) ?_
    exact hs.quiet rfl rfl rfl rfl (fun _ _ hd => by cases hd) (fun _ _ => id)
      (by simp [heldClient]) (by simp) (by simp [greetedClient]) (by simp)

/-- What a read task gets by a statement it has taken off its own connection. -/
theorem readTaskEvents_eq (hown : OwnInv s) (hparams : ParamsInv s) (hfree : FreeForClients s)
    (env : ReadEnv) {r : Reader} (hr : r ∈ s.readers) {i : Fin maxClients}
    (hi : r.index = some i) :
    (∀ d, r.conn ≠ d → History.Untouched d (readTaskEvents env s r)) ∧
      History.sent r.conn (readTaskEvents env s r) = [] ∧
      History.received r.conn (readTaskEvents env s r) =
        (eventsAt env s r i).flatMap ReadEvent.bytes := by
  obtain rfl := hparams.own r hr i hi
  by_cases hpc : r.pc = .recv
  · cases hfd : (s.manager.sockets r.slot).fd with
    | none =>
      have hclosed : (s.manager.sockets r.slot).isOpened = false := by
        simp [PeerSocket.isOpened, hfd]
      simp [readTaskEvents, hpc, hi, hfd, eventsAt, PeerSocket.recv, hclosed,
        History.untouched_nil]
    | some d =>
      have hlive : r.live = true := by simp [Reader.live, hpc]
      obtain rfl := hown.fd_eq_conn hr hlive (hfree.ne_slot hr hlive) hfd
      have hopen : (s.manager.sockets r.slot).isOpened = true :=
        (PeerSocket.isOpened_iff _).mpr ⟨_, hfd⟩
      refine ⟨?_, ?_, ?_⟩
      · intro d hd
        simp [readTaskEvents, hpc, hi, hfd, History.untouched_took hd]
      · simp [readTaskEvents, hpc, hi, hfd]
      · by_cases hok : env.recv.status = .success
        · simp [readTaskEvents, hpc, hi, hfd, eventsAt, PeerSocket.recv, hopen, hok,
            ReadEvent.bytes]
        · simp [readTaskEvents, hpc, hi, hfd, eventsAt, PeerSocket.recv, hopen, hok]
  · have hnone : (eventsAt env s r r.slot).flatMap ReadEvent.bytes = [] := by
      unfold eventsAt
      split
      · split_ifs <;> rfl
      · rename_i hrecv
        exact absurd hrecv hpc
      · rfl
    rw [hnone]
    simp [readTaskEvents, hpc, History.untouched_nil]

/-- One read task goes on, and takes off its own connection what it gets. -/
theorem task (hs : ServerStreams s h) {n : Nat} {r : Reader} (hr : s.readers[n]? = some r)
    (r' : Reader) (hconn : r'.conn = r.conn) {m : MultiTcpServerManager}
    (hfd : ∀ j d, (m.sockets j).fd = some d → (s.manager.sockets j).fd = some d)
    {new : SocketHistory} (got : List ReadEvent)
    (hother : ∀ d, r.conn ≠ d → History.Untouched d new)
    (hsent : History.sent r.conn new = [])
    (hgot : History.received r.conn new = got.flatMap ReadEvent.bytes)
    (hinv : ∀ events, ReadInv r events → ReadInv r' (events ++ got)) :
    ServerStreams { s with readers := s.readers.set n r', manager := m } (h ++ new) := by
  have hmem := List.mem_of_getElem? hr
  have hold {q : Reader} (hq : q ∈ s.readers.set n r') : ∃ q' ∈ s.readers, q.conn = q'.conn := by
    rcases List.mem_or_eq_of_mem_set hq with hq | rfl
    · exact ⟨q, hq, rfl⟩
    · exact ⟨r, hmem, hconn⟩
  have hsilent (d : Conn) : (h ++ new).sent d = h.sent d := by
    rw [History.sent_append]
    by_cases hd : r.conn = d
    · rw [← hd, hsent, List.append_nil]
    · rw [(hother d hd).1, List.append_nil]
  have hkept (d : Conn) (hd : r.conn ≠ d) : (h ++ new).received d = h.received d := by
    rw [History.received_append, (hother d hd).2, List.append_nil]
  obtain ⟨hello, events, hread, hlen, hreceived⟩ := hs.reading r hmem
  have hmine : (h ++ new).received r.conn = hello ++ (events ++ got).flatMap ReadEvent.bytes := by
    rw [History.received_append, hreceived, hgot, List.flatMap_append, List.append_assoc]
  refine ⟨hs.protocol, fun i d hd => hs.named i d (hfd i d hd), ?_, ?_, ?_, ?_, ?_, ?_, ?_, ?_, ?_,
    ?_⟩
  · intro d hd
    have hne : r.conn ≠ d := Nat.ne_of_lt (Nat.lt_of_lt_of_le (hs.numbered r hmem) hd)
    exact (hs.unborn d hd).append (hother d hne)
  · intro q hq
    obtain ⟨q', hq', hsame⟩ := hold hq
    rw [hsame]
    exact hs.numbered q' hq'
  · obtain ⟨hn, hget⟩ := List.getElem?_eq_some_iff.mp hr
    have hconns : (s.readers.set n r').map Reader.conn = s.readers.map Reader.conn := by
      rw [List.map_set, hconn, ← hget, ← List.getElem_map Reader.conn, List.set_getElem_self]
      simpa using hn
    rw [← List.pairwise_map (f := Reader.conn) (R := (· ≠ ·)), hconns]
    exact List.pairwise_map.mpr hs.separate
  · intro i d hx
    obtain ⟨hlt, hapart⟩ := hs.held i d hx
    refine ⟨hlt, ?_⟩
    intro q hq
    obtain ⟨q', hq', hsame⟩ := hold hq
    rw [hsame]
    exact hapart q' hq'
  · intro i d hpc
    have hapart := (hs.held i d (by rw [hpc]; rfl)).2 r hmem
    exact (hs.fresh i d hpc).append (hother d hapart)
  · intro d hd
    obtain ⟨i, hi⟩ := greetedClient_held hd
    rw [hkept d ((hs.held i d hi).2 r hmem)]
    exact hs.greeted d hd
  · intro i d hpc
    rw [hsilent]
    exact hs.unanswered i d hpc
  · intro d
    rw [hsilent]
    exact hs.answers d
  · intro d id hlog
    obtain ⟨hlong, htold⟩ := hs.told d id hlog
    rw [History.received_append, announced_append hlong, List.length_append]
    exact ⟨Nat.le_add_right_of_le hlong, htold⟩
  · intro q hq
    rw [List.mem_iff_getElem?] at hq
    obtain ⟨k, hk⟩ := hq
    by_cases hn : n = k
    · subst hn
      rw [List.getElem?_set_self (List.getElem?_eq_some_iff.mp hr).1] at hk
      obtain rfl := Option.some.inj hk
      refine ⟨hello, events ++ got, hinv events hread, hlen, ?_⟩
      rw [hconn]
      exact hmine
    · rw [List.getElem?_set_ne hn] at hk
      have hne : r.conn ≠ q.conn := by
        intro heq
        have hlt := (List.getElem?_eq_some_iff.mp hr)
        have hlt' := (List.getElem?_eq_some_iff.mp hk)
        obtain ⟨hn', rfl⟩ := hlt
        obtain ⟨hk', rfl⟩ := hlt'
        rcases Nat.lt_or_gt_of_ne hn with hlt | hlt
        · exact List.pairwise_iff_getElem.mp hs.separate n k hn' hk' hlt heq
        · exact List.pairwise_iff_getElem.mp hs.separate k n hk' hn' hlt heq.symm
      rw [hkept q.conn hne]
      exact hs.reading q (List.mem_of_getElem? hk)

/-- A statement of a read task. -/
theorem readStep (hs : ServerStreams s h) (hown : OwnInv s) (hparams : ParamsInv s)
    (hfree : FreeForClients s) {env : ReadEnv} {n : Nat}
    (hdoc : RecvsDocumented s (.readTask n env)) (hstep : s.readStep env n = some t) :
    ServerStreams t (h ++ serverEvents s (.readTask n env)) := by
  unfold Inbound.readStep at hstep
  cases hr : s.readers[n]? with
  | none => simp [hr] at hstep
  | some r =>
    have hevents : serverEvents s (.readTask n env) = readTaskEvents env s r := by
      simp [serverEvents, hr]
    rw [hevents]
    simp only [hr] at hstep
    split_ifs at hstep with hend hstart
    · obtain rfl := Option.some.inj hstep
      have hnone : readTaskEvents env s r = [] := by simp [readTaskEvents, hstart]
      rw [hnone]
      have hcopied (events : List ReadEvent) (hread : ReadInv r events) :
          ReadInv { r with index := some (s.params.getD env.index), pc := .isOpened }
            (events ++ []) := by
        rw [List.append_nil]
        exact hread.aside (by simp [inHand, hstart]) (by simp [inHand]) rfl
      exact hs.task hr { r with index := some (s.params.getD env.index), pc := .isOpened } rfl
        (fun _ _ => id) [] (fun d _ => History.untouched_nil) rfl rfl hcopied
    · obtain ⟨i, hi, rfl⟩ := Option.map_eq_some_iff.mp hstep
      obtain ⟨hother, hsent, hgot⟩ :=
        readTaskEvents_eq hown hparams hfree env (List.mem_of_getElem? hr) hi
      have heffect : ReadEffect env s n { s with
          readers := s.readers.set n (s.readStepAt env r i).1
          manager := (s.readStepAt env r i).2 } := readStepAt_effect hr hi ⟨hstart, hend⟩
      refine hs.task hr _ ?_ (fun _ _ => heffect.sockets) _ hother hsent hgot ?_
      · unfold Inbound.readStepAt
        cases r.pc with
        | check =>
          dsimp only
          split_ifs <;> rfl
        | _ => rfl
      · intro events hread
        exact hread.readStepAt fun hpc hopen => hdoc r hr hpc i hi hopen

end ServerStreams

/-- Once recvClientID has come to the connection of a slot, the slot stores the ID that it got
there. -/
def StoresReceived (s : Inbound) : Prop :=
  ∀ i d, (s.manager.sockets i).fd = some d → s.pc ≠ .recvClientID i d →
    .clientID d (some (s.manager.sockets i).deviceID) ∈ s.log

namespace StoresReceived

variable {s t : Inbound}

/-- What is open has been so before, with its ID, and acceptTask does not go on from its
recvClientID. -/
theorem kept (h : StoresReceived s)
    (hsame : ∀ i d, (t.manager.sockets i).fd = some d →
      (t.manager.sockets i).toPeerSocket = (s.manager.sockets i).toPeerSocket)
    (hpc : ∀ i d, (t.manager.sockets i).fd = some d → s.pc = .recvClientID i d →
      t.pc = .recvClientID i d)
    (hlog : ∀ e ∈ s.log, e ∈ t.log) : StoresReceived t := by
  intro i d hd hnot
  have hpeer := hsame i d hd
  have hid : (t.manager.sockets i).deviceID = (s.manager.sockets i).deviceID :=
    congrArg PeerSocket.deviceID hpeer
  rw [hid]
  exact hlog _ (h i d ((congrArg PeerSocket.fd hpeer).symm.trans hd) fun hs => hnot (hpc i d hd hs))

/-- One slot is closed. -/
theorem closing (h : StoresReceived s) (i : Fin maxClients)
    (hne : ∀ j, j ≠ i → t.manager.sockets j = s.manager.sockets j)
    (hnone : (t.manager.sockets i).fd = none)
    (hpc : ∀ j d, j ≠ i → s.pc = .recvClientID j d → t.pc = .recvClientID j d)
    (hlog : t.log = s.log) : StoresReceived t := by
  have hother {j : Fin maxClients} {d : Conn} (hd : (t.manager.sockets j).fd = some d) :
      j ≠ i := by
    intro hji
    rw [hji, hnone] at hd
    cases hd
  refine h.kept ?_ ?_ fun e he => hlog ▸ he
  · intro j d hd
    rw [hne j (hother hd)]
  · intro j d hd
    exact hpc j d (hother hd)

theorem acceptStep (h : StoresReceived s) (hprotocol : s.idProtocol = true) {env : AcceptEnv}
    (hwhole : WholeClientID env s) (hs : s.acceptStep env = some t) :
    StoresReceived t := by
  cases acceptStep_effect hs with
  | idle pc _ _ _ hfrom =>
    refine h.kept (fun _ _ _ => rfl) ?_ fun _ he => he
    intro i d _ hpc
    cases (hpc ▸ hfrom.1 : heldClient (.recvClientID i d) = none)
  | accepted i pc htake hpc =>
    rcases hpc with rfl | rfl
    · intro j d hd hnot
      by_cases hj : j = i
      · subst hj
        rw [MultiTcpServerManager.setPeer_self] at hd
        exact absurd (congrArg (AcceptPc.recvClientID j) (Option.some.inj hd)) hnot
      · rw [MultiTcpServerManager.setPeer_ne _ _ _ hj] at hd ⊢
        exact h j d hd (by simp [htake.1])
    · exact absurd rfl (accepted_greets hs htake.1 hprotocol i s.nextConn)
  | idReceived i c d hpc hfd ha =>
    have hopen : (s.manager.sockets i).isOpened = true := (PeerSocket.isOpened_iff _).mpr ⟨d, hfd⟩
    have hlen : 6 ≤ (env.recv.bytes.take 6).length := by
      rw [List.length_take]
      have hw := hwhole i (by rw [hpc]; rfl) hopen ha
      omega
    intro j e he _
    by_cases hj : j = i
    · subst hj
      rw [MultiTcpServerManager.setPeer_self] at he ⊢
      obtain rfl := Option.some.inj he
      rw [PeerSocket.announced_idIn hlen env.stack]
      exact List.mem_cons_self
    · rw [MultiTcpServerManager.setPeer_ne _ _ _ hj] at he ⊢
      refine List.mem_cons_of_mem _ (h j e he ?_)
      rw [hpc]
      intro heq
      exact hj (AcceptPc.recvClientID.inj heq).1.symm
  | idNotReceived i c hpc =>
    refine h.closing i (fun j hj => MultiTcpServerManager.setPeer_ne _ _ _ hj) ?_ ?_ rfl
    · rw [MultiTcpServerManager.setPeer_self]
      rfl
    · intro j d hj heq
      exact absurd (AcceptPc.recvClientID.inj (hpc.symm.trans heq)).1.symm hj
  | refused i hpc =>
    refine h.closing i (fun j hj => MultiTcpServerManager.close_ne _ _ hj) ?_ (by simp [hpc]) rfl
    rw [MultiTcpServerManager.close_self]
    rfl
  | idSent i c hpc => exact h.kept (fun _ _ _ => rfl) (by simp [hpc]) fun _ he => he
  | idNotSent i c hpc =>
    refine h.closing i (fun j hj => MultiTcpServerManager.setPeer_ne _ _ _ hj) ?_ (by simp [hpc])
      rfl
    rw [MultiTcpServerManager.setPeer_self]
    rfl
  | unserved i c hpc =>
    exact h.kept (fun _ _ _ => rfl) (by simp [hpc]) fun _ => List.mem_cons_of_mem _
  | served i c k _ _ hpc =>
    exact h.kept (fun _ _ _ => rfl) (by simp [hpc]) fun _ => List.mem_cons_of_mem _
  | assigned i c k hpc => exact h.kept (fun _ _ _ => rfl) (by simp [hpc]) fun _ he => he
  | started i c k hpc => exact h.kept (fun _ _ _ => rfl) (by simp [hpc]) fun _ he => he
  | returned hpc => exact fun _ _ hd => by cases hd

theorem readStep (h : StoresReceived s) {env : ReadEnv} {n : Nat}
    (hs : s.readStep env n = some t) : StoresReceived t := by
  cases readStep_effect hs with
  | copied => exact h
  | moved => exact h
  | disconnected r r' i =>
    refine h.closing i (fun j hj => MultiTcpServerManager.setPeer_ne _ _ _ hj) ?_
      (fun _ _ _ => id) rfl
    rw [MultiTcpServerManager.setPeer_self]
    rfl
  | closed r r' i =>
    refine h.closing i (fun j hj => MultiTcpServerManager.setPeer_ne _ _ _ hj) ?_
      (fun _ _ _ => id) rfl
    rw [MultiTcpServerManager.setPeer_self]
    rfl
  | finished r i =>
    refine h.closing i (fun j hj => MultiTcpServerManager.close_ne _ _ hj) ?_ (fun _ _ _ => id) rfl
    rw [MultiTcpServerManager.close_self]
    rfl

theorem step (h : StoresReceived s) (hprotocol : s.idProtocol = true) {act : InboundAct}
    (hids : DropsNoClientID s act) (hs : s.step act = some t) :
    StoresReceived t := by
  cases act with
  | acceptTask env => exact h.acceptStep hprotocol hids.1 hs
  | readTask n env => exact h.readStep hs
  | stop =>
    obtain rfl := Option.some.inj hs
    exact h
  | closeAll =>
    obtain rfl := Option.some.inj hs
    exact fun _ _ hd => by cases hd
  | shutdown =>
    obtain rfl := Option.some.inj hs
    exact fun _ _ hd => by cases hd

end StoresReceived

/-- The condition on the steps of a receiving half: no parameter is lost, no slot is taken before
its task has ended, recv keeps its word, and client IDs come whole and are not left behind. -/
def KeepsClients (s : Inbound) (act : InboundAct) : Prop :=
  OnAccept (fun env => ParamsKept s ∧ TakesFree env s) act ∧ RecvsDocumented s act ∧
    DropsNoClientID s act

instance (s : Inbound) (act : InboundAct) : Decidable (KeepsClients s act) :=
  inferInstanceAs (Decidable (_ ∧ _))

/-- The invariant of a receiving half, with what it has done to its accepted connections. -/
structure ServerInv (x : Inbound × SocketHistory) : Prop where
  params : ParamsInv x.1
  own : OwnInv x.1
  free : FreeForClients x.1
  ids : ClientIDsInv x.1
  stored : StoresReceived x.1
  streams : ServerStreams x.1 x.2

theorem serverInv_init (deviceID : UInt32) : ServerInv ({ deviceID := deviceID }, []) where
  params := paramsInv_init deviceID true
  own := ownInv_init deviceID true
  free _ hx := by cases hx
  ids := clientIDsInv_init deviceID true
  stored _ _ hd := by cases hd
  streams := serverStreams_init deviceID

theorem ServerInv.step {x y : Inbound × SocketHistory} {act : InboundAct} (h : ServerInv x)
    (hg : KeepsClients x.1 act) (hs : recordStep Inbound.step serverEvents x act = some y) :
    ServerInv y := by
  obtain ⟨t, ht, rfl⟩ := Option.map_eq_some_iff.mp hs
  obtain ⟨hrested, hdoc, hids⟩ := hg
  have hkept : OnAccept (fun _ => ParamsKept x.1) act := hrested.mono fun _ h => h.1
  have htakes : OnAccept (TakesFree · x.1) act := hrested.mono fun _ h => h.2
  refine ⟨h.params.step hkept ht, h.own.step (hkept.mono fun _ _ => h.free.slotRested) ht,
    h.free.step htakes ht, fresh_clients_step _ _ _ h.ids hids ht,
    h.stored.step h.streams.protocol hids ht, ?_⟩
  have halted (hnone : serverEvents x.1 act = []) (hclosed : ∀ i, (t.manager.sockets i).fd = none)
      (hsame : t = { x.1 with manager := t.manager }) :
      ServerStreams t (x.2 ++ serverEvents x.1 act) := by
    rw [hnone, List.append_nil, hsame]
    refine h.streams.quiet rfl rfl rfl rfl ?_ (fun _ _ => id) (fun _ => id) (fun _ _ => id)
      (fun _ => id) (fun _ _ => id)
    intro i d hd
    cases (hclosed i).symm.trans hd
  cases act with
  | acceptTask env => exact h.streams.acceptStep h.own hids.1 ht
  | readTask n env => exact h.streams.readStep h.own h.params h.free hdoc ht
  | stop =>
    obtain rfl := Option.some.inj ht
    rw [serverEvents, List.append_nil]
    exact h.streams.quiet rfl rfl rfl rfl (fun _ _ => id) (fun _ _ => id) (fun _ => id)
      (fun _ _ => id) (fun _ => id) (fun _ _ => id)
  | closeAll =>
    obtain rfl := Option.some.inj ht
    exact halted rfl (fun _ => rfl) rfl
  | shutdown =>
    obtain rfl := Option.some.inj ht
    exact halted rfl (fun _ => rfl) rfl

theorem inbound_deviceID {s t : Inbound} {act : InboundAct} (h : s.step act = some t) :
    t.deviceID = s.deviceID := by
  cases act with
  | acceptTask env => exact (acceptStep_effect h).deviceID
  | readTask n env => cases readStep_effect h <;> rfl
  | stop =>
    obtain rfl := Option.some.inj h
    rfl
  | closeAll =>
    obtain rfl := Option.some.inj h
    rfl
  | shutdown =>
    obtain rfl := Option.some.inj h
    rfl

/-- The accepted streams of a node. Each read task has a connection of its own; of what has come in
there, six bytes were for recvClientID, and the rest has been handed up but for the buffer in hand.
Nothing goes out but the ID of the node, once at most. An open slot, but for the one on which
acceptTask is still to receive an ID, stores the ID that the first bytes of its stream announce. -/
structure ListensInOrder (deviceID : UInt32) (t : Inbound) (h : SocketHistory) : Prop where
  separate : t.readers.Pairwise fun r r' => r.conn ≠ r'.conn
  stream : ∀ r ∈ t.readers, ∀ memory,
    (h.received r.conn).drop 6 = handedBytes memory r.handed ++ unsent r
  hello : ∀ r ∈ t.readers, 6 ≤ (h.received r.conn).length
  answers : ∀ d, h.sent d <+: idEntry deviceID
  told : ∀ d id, .clientID d id ∈ t.log → id = announced (h.received d)
  stored : ∀ i d, (t.manager.sockets i).fd = some d → t.pc ≠ .recvClientID i d →
    6 ≤ (h.received d).length ∧ some (t.manager.sockets i).deviceID = announced (h.received d)

theorem accepted_streams (deviceID : UInt32) (acts : List InboundAct) (t : Inbound)
    (h : SocketHistory)
    (hrun : run (recordStep Inbound.step serverEvents) ({ deviceID := deviceID }, []) acts =
      some (t, h))
    (hkeeps : AllSteps Inbound.step KeepsClients { deviceID := deviceID } acts) :
    ListensInOrder deviceID t h := by
  have hinv := run_invariant
    (I := fun x : Inbound × SocketHistory => ServerInv x ∧ x.1.deviceID = deviceID) ?_
    ⟨serverInv_init deviceID, rfl⟩ (allSteps_recordStep hkeeps) hrun
  · obtain ⟨⟨-, -, -, -, hstored, hs⟩, hID⟩ := hinv
    refine ⟨hs.separate, ?_, ?_, ?_, fun d id hmem => (hs.told d id hmem).2, ?_⟩
    · intro r hr memory
      obtain ⟨hello, events, hread, hlen, hreceived⟩ := hs.reading r hr
      rw [hreceived, ← hlen, List.drop_left]
      exact hread.streamIntact.stream memory
    · intro r hr
      obtain ⟨hello, events, -, hlen, hreceived⟩ := hs.reading r hr
      rw [hreceived, List.length_append, hlen]
      exact Nat.le_add_right 6 _
    · intro d
      exact hID ▸ hs.answers d
    · intro i d hd hpc
      exact hs.told d _ (hstored i d hd hpc)
  · intro x act y hx hg hs
    refine ⟨hx.1.step hg hs, ?_⟩
    obtain ⟨u, hu, rfl⟩ := Option.map_eq_some_iff.mp hs
    exact (inbound_deviceID hu).trans hx.2

/-- A client is accepted, and the first two bytes behind its ID are handed up. -/
def twoBytes : List InboundAct :=
  newClient 0x20202021 ++ reads 0 5 { status := .success, bytes := [7, 8], size := 2 }

def twoBytesEnd : Inbound × SocketHistory :=
  (run (recordStep Inbound.step serverEvents) ({ deviceID := baseID }, []) twoBytes).get (by rfl)

theorem accepted_streams_two_bytes : ListensInOrder baseID twoBytesEnd.1 twoBytesEnd.2 :=
  accepted_streams baseID twoBytes twoBytesEnd.1 twoBytesEnd.2 (Option.some_get (by rfl)).symm
    (by decide)

end MeshNetwork.Network
