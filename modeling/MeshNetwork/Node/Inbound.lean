import MeshNetwork.Framework.Runs
import MeshNetwork.Driver.AcceptClientTask

namespace MeshNetwork.Node

open Driver

/-- The client that acceptTask has taken on and not yet given to a read task. -/
def heldClient : AcceptPc → Option (Fin maxClients × Conn)
  | .recvClientID i c => some (i, c)
  | .sendSrvrID i c => some (i, c)
  | .search i c => some (i, c)
  | .assign _ i c => some (i, c)
  | .start _ i c => some (i, c)
  | _ => none

/-- acceptTask stands neither inside a handshake nor before the start of a read task. -/
def Idle (pc : AcceptPc) : Prop := heldClient pc = none ∧ ∀ i, pc ≠ .close i

instance (pc : AcceptPc) : Decidable (Idle pc) := inferInstanceAs (Decidable (_ ∧ _))

/-- The slot on which recvClientID comes next. -/
def recvsID : AcceptPc → Option (Fin maxClients)
  | .recvClientID i _ => some i
  | _ => none

/-- The slot on which sendSrvrID comes next. -/
def sendsID : AcceptPc → Option (Fin maxClients)
  | .sendSrvrID i _ => some i
  | _ => none

/-- open, which comes next, gives slot `i` to a new client. -/
def Takes (env : AcceptEnv) (s : Inbound) (i : Fin maxClients) : Prop :=
  s.pc = .openClient ∧ env.activity = true ∧ env.accepted = .success ∧
    s.manager.firstClosed = some i

instance (env : AcceptEnv) (s : Inbound) (i : Fin maxClients) : Decidable (Takes env s i) :=
  inferInstanceAs (Decidable (_ ∧ _))

theorem Takes.closed {env : AcceptEnv} {s : Inbound} {i : Fin maxClients} (h : Takes env s i) :
    (s.manager.sockets i).fd = none := MultiTcpServerManager.firstClosed_closed h.2.2.2

theorem Takes.holds_none {env : AcceptEnv} {s : Inbound} {i : Fin maxClients}
    (h : Takes env s i) : heldClient s.pc = none := by
  rw [h.1]
  rfl

/-- What a statement of acceptTask can do. -/
inductive AcceptEffect (env : AcceptEnv) (s : Inbound) : Inbound → Prop
  | idle (pc : AcceptPc) (joinStatus : Int) (taskCount : Nat) (started : Fin maxTasks → Bool)
      (hfrom : Idle s.pc) (hto : Idle pc) :
      AcceptEffect env s { s with
        pc := pc, joinStatus := joinStatus, taskCount := taskCount, started := started }
  | accepted (i : Fin maxClients) (pc : AcceptPc) (h : Takes env s i)
      (hpc : pc = .recvClientID i s.nextConn ∨ pc = .search i s.nextConn) :
      AcceptEffect env s { s with
        manager := { s.manager.setPeer i ⟨some s.nextConn, (s.manager.sockets i).deviceID⟩ with
          currentClientConnections := s.manager.currentClientConnections + 1 }
        nextConn := s.nextConn + 1
        pc := pc }
  | idReceived (i : Fin maxClients) (c d : Conn) (h : s.pc = .recvClientID i c)
      (hfd : (s.manager.sockets i).fd = some d)
      (ha : PeerSocket.Accepted 6 env.recv env.stack) :
      AcceptEffect env s { s with
        manager := s.manager.setPeer i
          ⟨some d, PeerSocket.idIn (env.recv.bytes.take 6) env.stack⟩
        pc := .sendSrvrID i c
        log := .clientID d (announced (env.recv.bytes.take 6)) :: s.log }
  | idNotReceived (i : Fin maxClients) (c : Conn) (h : s.pc = .recvClientID i c) :
      AcceptEffect env s { s with
        manager := s.manager.setPeer i (s.manager.sockets i).baseClose
        pc := .close i }
  | refused (i : Fin maxClients) (h : s.pc = .close i) :
      AcceptEffect env s { s with manager := s.manager.close i, pc := .loop }
  | idSent (i : Fin maxClients) (c : Conn) (h : s.pc = .sendSrvrID i c)
      (hopen : (s.manager.sockets i).isOpened = true) (hs : env.send.status = .success) :
      AcceptEffect env s { s with pc := .search i c }
  | idNotSent (i : Fin maxClients) (c : Conn) (h : s.pc = .sendSrvrID i c)
      (hs : ((s.manager.sockets i).sendSrvrID s.deviceID env.send).1 ≠ .success) :
      AcceptEffect env s { s with
        manager := s.manager.setPeer i (s.manager.sockets i).baseClose
        pc := .loop }
  | unserved (i : Fin maxClients) (c : Conn) (h : s.pc = .search i c) (hk : s.freeTask = none) :
      AcceptEffect env s { s with pc := .loop, log := .admitted i c :: s.log }
  | served (i : Fin maxClients) (c : Conn) (k : Fin maxTasks) (taskCount : Nat)
      (started : Fin maxTasks → Bool) (h : s.pc = .search i c) :
      AcceptEffect env s { s with
        taskCount := taskCount, started := started
        pc := .assign k i c
        log := .admitted i c :: s.log }
  | assigned (i : Fin maxClients) (c : Conn) (k : Fin maxTasks) (h : s.pc = .assign k i c) :
      AcceptEffect env s { s with params := some i, pc := .start k i c }
  | started (i : Fin maxClients) (c : Conn) (k : Fin maxTasks) (h : s.pc = .start k i c) :
      AcceptEffect env s { s with
        readers := s.readers ++ [{ slot := i, conn := c, entry := k }]
        pc := .loop }
  | returned (h : s.pc = .finalClose) :
      AcceptEffect env s { s with manager := s.manager.closeAll, params := none, pc := .done }

theorem idle_nextRound (k : Fin maxTasks) {round : Fin maxTasks → AcceptPc} {after : AcceptPc}
    (hround : ∀ j, Idle (round j)) (hafter : Idle after) :
    Idle (Inbound.nextRound k round after) := by
  unfold Inbound.nextRound
  split_ifs
  · exact hround _
  · exact hafter

theorem acceptStep_effect {env : AcceptEnv} {s t : Inbound} (h : s.acceptStep env = some t) :
    AcceptEffect env s t := by
  unfold Inbound.acceptStep at h
  have round (k : Fin maxTasks) (pc : AcceptPc) (hfrom : Idle s.pc) (hto : Idle pc) :
      AcceptEffect env s { s.tryJoin k env with pc := pc } := by
    unfold Inbound.tryJoin
    dsimp only
    split_ifs
    · exact .idle pc _ _ _ hfrom hto
    · exact .idle pc _ _ _ hfrom hto
    · exact .idle pc _ _ _ hfrom hto
    · exact .idle pc _ _ _ hfrom hto
  cases hpc : s.pc with
  | head =>
    have hfrom : Idle s.pc := by simp [hpc, Idle, heldClient]
    simp only [hpc] at h
    split_ifs at h <;> obtain rfl := Option.some.inj h
    · exact .idle .openClient _ _ _ hfrom (by simp [Idle, heldClient])
    · exact .idle (.join 0) _ _ _ hfrom (by simp [Idle, heldClient])
  | openClient =>
    simp only [hpc] at h
    rcases s.manager.openClient_cases env.activity s.nextConn env.accepted with
      ⟨i, hi, hr⟩ | ⟨status, i, hs, hr⟩
    · rw [hr] at h
      obtain rfl := Option.some.inj h
      refine .accepted i _ ⟨hpc, hi⟩ ?_
      split_ifs
      · exact .inl rfl
      · exact .inr rfl
    · have hfrom : Idle s.pc := by simp [hpc, Idle, heldClient]
      rw [hr] at h
      cases status with
      | success => exact absurd rfl hs
      | _ =>
        obtain rfl := Option.some.inj h
        exact .idle .loop _ _ _ hfrom (by simp [Idle, heldClient])
  | recvClientID i c =>
    simp only [hpc] at h
    rcases (s.manager.sockets i).recvClientID_cases env.recv env.stack with
      ⟨hr, hopen, ha⟩ | ⟨status, hs, hr⟩
    · obtain ⟨d, hd⟩ := (PeerSocket.isOpened_iff _).mp hopen
      rw [hr, if_pos rfl, hd] at h
      obtain rfl := Option.some.inj h
      exact .idReceived i c d hpc hd ha
    · rw [hr, if_neg hs] at h
      obtain rfl := Option.some.inj h
      exact .idNotReceived i c hpc
  | close i =>
    simp only [hpc] at h
    obtain rfl := Option.some.inj h
    exact .refused i hpc
  | sendSrvrID i c =>
    simp only [hpc] at h
    rcases (s.manager.sockets i).sendSrvrID_cases s.deviceID env.send with
      ⟨hr, hopen, hsent⟩ | ⟨status, hs, hr⟩
    · have hset : s.manager.set i (s.manager.sockets i) = s.manager :=
        s.manager.setPeer_same i
      rw [hr, if_pos rfl, hset] at h
      obtain rfl := Option.some.inj h
      exact .idSent i c hpc hopen hsent
    · rw [hr, if_neg hs] at h
      obtain rfl := Option.some.inj h
      exact .idNotSent i c hpc (by rw [hr]; exact hs)
  | search i c =>
    simp only [hpc] at h
    cases hk : s.freeTask with
    | none =>
      simp only [hk] at h
      obtain rfl := Option.some.inj h
      exact .unserved i c hpc hk
    | some k =>
      simp only [hk] at h
      obtain rfl := Option.some.inj h
      exact .served i c k _ _ hpc
  | assign k i c =>
    simp only [hpc] at h
    obtain rfl := Option.some.inj h
    exact .assigned i c k hpc
  | start k i c =>
    simp only [hpc] at h
    obtain rfl := Option.some.inj h
    exact .started i c k hpc
  | join k =>
    have hfrom : Idle s.pc := by simp [hpc, Idle, heldClient]
    simp only [hpc] at h
    obtain rfl := Option.some.inj h
    refine round k _ hfrom (idle_nextRound k ?_ ?_)
    · simp [Idle, heldClient]
    · simp [Idle, heldClient]
  | loop =>
    have hfrom : Idle s.pc := by simp [hpc, Idle, heldClient]
    simp only [hpc] at h
    obtain rfl := Option.some.inj h
    refine .idle _ _ _ _ hfrom ?_
    split_ifs
    · simp [Idle, heldClient]
    · simp [Idle, heldClient]
  | finalJoin k =>
    have hfrom : Idle s.pc := by simp [hpc, Idle, heldClient]
    simp only [hpc] at h
    obtain rfl := Option.some.inj h
    refine round k _ hfrom (idle_nextRound k ?_ ?_)
    · simp [Idle, heldClient]
    · simp [Idle, heldClient]
  | finalClose =>
    simp only [hpc] at h
    obtain rfl := Option.some.inj h
    exact .returned hpc
  | done => simp [hpc] at h

/-- The task is the same one, further on in its loop. -/
structure SameTask (r r' : Reader) : Prop where
  slot : r'.slot = r.slot
  conn : r'.conn = r.conn
  index : r'.index = r.index
  running : r'.pc ≠ .starting ∧ r'.pc ≠ .ended

/-- What a statement of read task `n` can do. -/
inductive ReadEffect (env : ReadEnv) (s : Inbound) (n : Nat) : Inbound → Prop
  | copied (r : Reader) (hr : s.readers[n]? = some r) (h : r.pc = .starting) :
      ReadEffect env s n { s with
        readers := s.readers.set n
          { r with index := some (s.params.getD env.index), pc := .isOpened } }
  | moved (r r' : Reader) (i : Fin maxClients) (hr : s.readers[n]? = some r)
      (hi : r.index = some i) (h : r.pc ≠ .close ∧ r.pc ≠ .starting ∧ r.pc ≠ .ended)
      (hsame : SameTask r r') :
      ReadEffect env s n { s with readers := s.readers.set n r' }
  | disconnected (r r' : Reader) (i : Fin maxClients) (hr : s.readers[n]? = some r)
      (hi : r.index = some i) (h : r.pc = .recv)
      (hopen : (s.manager.sockets i).isOpened = true) (hsame : SameTask r r')
      (hpc : r'.pc = .close) :
      ReadEffect env s n { s with
        readers := s.readers.set n r'
        manager := s.manager.setPeer i (s.manager.sockets i).baseClose }
  | closed (r r' : Reader) (i : Fin maxClients) (hr : s.readers[n]? = some r)
      (hi : r.index = some i) (h : r.pc = .close) (hsame : SameTask r r') :
      ReadEffect env s n { s with
        readers := s.readers.set n r'
        manager := s.manager.setPeer i (s.manager.sockets i).toPeerSocket.close }
  | finished (r : Reader) (i : Fin maxClients) (hr : s.readers[n]? = some r)
      (hi : r.index = some i) (h : r.pc = .finalClose) :
      ReadEffect env s n { s with
        readers := s.readers.set n { r with pc := .ended }
        manager := s.manager.close i }

theorem readStepAt_effect {env : ReadEnv} {s : Inbound} {n : Nat} {r : Reader}
    {i : Fin maxClients} (hr : s.readers[n]? = some r) (hi : r.index = some i)
    (hpc : r.pc ≠ .starting ∧ r.pc ≠ .ended) :
    ReadEffect env s n { s with
      readers := s.readers.set n (s.readStepAt env r i).1
      manager := (s.readStepAt env r i).2 } := by
  unfold Inbound.readStepAt
  cases h : r.pc with
  | starting => exact absurd h hpc.1
  | ended => exact absurd h hpc.2
  | isOpened =>
    refine .moved r _ i hr hi ⟨by simp [h], hpc⟩ ⟨rfl, rfl, rfl, ?_⟩
    dsimp only
    split_ifs
    · simp
    · simp
  | check =>
    dsimp only
    split_ifs
    · exact .moved r _ i hr hi ⟨by simp [h], hpc⟩ ⟨rfl, rfl, rfl, by simp⟩
    · exact .moved r _ i hr hi ⟨by simp [h], hpc⟩ ⟨rfl, rfl, rfl, by simp⟩
    · exact .moved r _ i hr hi ⟨by simp [h], hpc⟩ ⟨rfl, rfl, rfl, by simp⟩
  | recv =>
    by_cases hd : (s.manager.sockets i).isOpened = true ∧ env.recv.status = .disconnected
    · have hpc' : (if Inbound.readOn ((s.manager.sockets i).toPeerSocket.recv r.size.toNat
          env.recv).status then ReadPc.handUp else .close) = .close := by
        rw [PeerSocket.recv_status, if_pos hd.1, hd.2]
        exact if_neg (by simp [Inbound.readOn])
      simp only [PeerSocket.recv_socket, if_pos hd, hpc']
      exact .disconnected r _ i hr hi h hd.1 ⟨rfl, rfl, rfl, by simp⟩ rfl
    · simp only [PeerSocket.recv_socket, if_neg hd, s.manager.setPeer_same]
      refine .moved r _ i hr hi ⟨by simp [h], hpc⟩ ⟨rfl, rfl, rfl, ?_⟩
      dsimp only
      split_ifs
      · simp
      · simp
  | close => exact .closed r _ i hr hi h ⟨rfl, rfl, rfl, by simp⟩
  | handUp => exact .moved r _ i hr hi ⟨by simp [h], hpc⟩ ⟨rfl, rfl, rfl, by simp⟩
  | loop =>
    refine .moved r _ i hr hi ⟨by simp [h], hpc⟩ ⟨rfl, rfl, rfl, ?_⟩
    dsimp only
    split_ifs
    · simp
    · simp
  | finalClose => exact .finished r i hr hi h

theorem readStep_effect {env : ReadEnv} {s t : Inbound} {n : Nat} (h : s.readStep env n = some t) :
    ReadEffect env s n t := by
  unfold Inbound.readStep at h
  cases hr : s.readers[n]? with
  | none => simp [hr] at h
  | some r =>
    simp only [hr] at h
    split_ifs at h with hend hstart
    · obtain rfl := Option.some.inj h
      exact .copied r hr hstart
    · obtain ⟨i, hi, rfl⟩ := Option.map_eq_some_iff.mp h
      exact readStepAt_effect hr hi ⟨hstart, hend⟩

/-- A read task stays the task of its client, and only its own entry changes. -/
theorem ReadEffect.readers {env : ReadEnv} {s t : Inbound} {n : Nat} (h : ReadEffect env s n t) :
    ∃ r r', s.readers[n]? = some r ∧ t.readers = s.readers.set n r' ∧ r.live = true ∧
      r'.slot = r.slot ∧ r'.conn = r.conn := by
  have live {r : Reader} {pc : ReadPc} (hpc : r.pc = pc) (hne : pc ≠ .ended) : r.live = true := by
    simp [Reader.live, hpc, hne]
  cases h with
  | copied r hr h => exact ⟨r, _, hr, rfl, live h (by simp), rfl, rfl⟩
  | moved r r' i hr hi h hsame => exact ⟨r, r', hr, rfl, live rfl h.2.2, hsame.slot, hsame.conn⟩
  | disconnected r r' i hr hi h _ hsame =>
    exact ⟨r, r', hr, rfl, live h (by simp), hsame.slot, hsame.conn⟩
  | closed r r' i hr hi h hsame => exact ⟨r, r', hr, rfl, live h (by simp), hsame.slot, hsame.conn⟩
  | finished r i hr hi h => exact ⟨r, _, hr, rfl, live h (by simp), rfl, rfl⟩

/-- Every entry is one from before, gone on at most. -/
theorem ReadEffect.mem {env : ReadEnv} {s t : Inbound} {n : Nat} (h : ReadEffect env s n t)
    {r : Reader} (hr : r ∈ t.readers) : ∃ q ∈ s.readers, r.slot = q.slot ∧ r.conn = q.conn ∧
      (r.live = true → q.live = true) := by
  obtain ⟨q, q', hq, hreaders, hlive, hslot, hconn⟩ := h.readers
  rw [hreaders] at hr
  rcases List.mem_or_eq_of_mem_set hr with hr | rfl
  · exact ⟨r, hr, rfl, rfl, id⟩
  · exact ⟨q, List.mem_of_getElem? hq, hslot, hconn, fun _ => hlive⟩

/-- A read task leaves acceptTask and its records alone. -/
theorem ReadEffect.frame {env : ReadEnv} {s t : Inbound} {n : Nat} (h : ReadEffect env s n t) :
    t.pc = s.pc ∧ t.nextConn = s.nextConn ∧ t.log = s.log := by
  cases h <;> exact ⟨rfl, rfl, rfl⟩

/-- acceptTask holds a client from its accept on. -/
theorem AcceptEffect.held {env : AcceptEnv} {s t : Inbound} (h : AcceptEffect env s t)
    {i : Fin maxClients} {c : Conn} (hx : heldClient t.pc = some (i, c)) :
    t.readers = s.readers ∧ (heldClient s.pc = some (i, c) ∨ Takes env s i ∧ c = s.nextConn) := by
  cases h with
  | idle pc _ _ _ _ hto => cases hto.1.symm.trans hx
  | accepted j pc htake hpc =>
    have hheld : heldClient pc = some (j, s.nextConn) := by rcases hpc with rfl | rfl <;> rfl
    obtain ⟨rfl, rfl⟩ := Prod.mk.inj (Option.some.inj (hheld.symm.trans hx))
    exact ⟨rfl, .inr ⟨htake, rfl⟩⟩
  | idReceived j e d h => exact ⟨rfl, .inl (h ▸ hx)⟩
  | idSent j e h => exact ⟨rfl, .inl (h ▸ hx)⟩
  | served j e k _ _ h => exact ⟨rfl, .inl (h ▸ hx)⟩
  | assigned j e k h => exact ⟨rfl, .inl (h ▸ hx)⟩
  | _ => cases hx

/-- A new read task is for the client that acceptTask held. -/
theorem AcceptEffect.readers {env : AcceptEnv} {s t : Inbound} (h : AcceptEffect env s t)
    {r : Reader} (hr : r ∈ t.readers) :
    r ∈ s.readers ∨ heldClient s.pc = some (r.slot, r.conn) := by
  cases h with
  | started i c k h =>
    rcases List.mem_append.mp hr with hr | hr
    · exact .inl hr
    · obtain rfl := List.mem_singleton.mp hr
      exact .inr (by rw [h]; rfl)
  | _ => exact .inl hr

/-- Nothing but the accept opens a socket, and acceptTask then holds the client. -/
theorem AcceptEffect.sockets {env : AcceptEnv} {s t : Inbound} (h : AcceptEffect env s t)
    {j : Fin maxClients} {d : Conn} (hd : (t.manager.sockets j).fd = some d) :
    (s.manager.sockets j).fd = some d ∨
      Takes env s j ∧ d = s.nextConn ∧ heldClient t.pc = some (j, d) := by
  cases h with
  | accepted i pc htake hpc =>
    by_cases hj : j = i
    · subst hj
      rw [MultiTcpServerManager.setPeer_self] at hd
      obtain rfl := Option.some.inj hd
      exact .inr ⟨htake, rfl, by rcases hpc with rfl | rfl <;> rfl⟩
    · rw [MultiTcpServerManager.setPeer_ne _ _ _ hj] at hd
      exact .inl hd
  | idReceived i c e _ hfd _ =>
    by_cases hj : j = i
    · subst hj
      rw [MultiTcpServerManager.setPeer_self] at hd
      exact .inl (hfd.trans hd)
    · rw [MultiTcpServerManager.setPeer_ne _ _ _ hj] at hd
      exact .inl hd
  | idNotReceived i c _ => exact .inl (MultiTcpServerManager.baseClose_fd hd)
  | idNotSent i c _ _ => exact .inl (MultiTcpServerManager.baseClose_fd hd)
  | refused i _ => exact .inl (MultiTcpServerManager.close_fd hd)
  | returned _ => cases hd
  | _ => exact .inl hd

theorem ReadEffect.sockets {env : ReadEnv} {s t : Inbound} {n : Nat} (h : ReadEffect env s n t)
    {j : Fin maxClients} {d : Conn} (hd : (t.manager.sockets j).fd = some d) :
    (s.manager.sockets j).fd = some d := by
  cases h with
  | copied => exact hd
  | moved => exact hd
  | disconnected r r' i => exact MultiTcpServerManager.baseClose_fd hd
  | closed r r' i => exact MultiTcpServerManager.close_fd (i := i) hd
  | finished r i => exact MultiTcpServerManager.close_fd hd

/-- One iteration of acceptTask that admits the node `ID`. -/
def newClient (ID : UInt32) : List InboundAct :=
  List.replicate 8 (.acceptTask { recv := { status := .success, bytes := idEntry ID, size := 6 } })

/-- `k` statements of read task `n`, each with the same outcome for recv. -/
def reads (n k : Nat) (recv : RecvOutcome) : List InboundAct :=
  List.replicate k (.readTask n { recv := recv })

end MeshNetwork.Node
