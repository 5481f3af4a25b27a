import MeshNetwork.Node.BroadcastRounds
import MeshNetwork.Node.PeerIDs

namespace MeshNetwork.Node

open Driver

/-- What the peer on connection `c` has announced in its handshake. -/
def announcedOn (log : List ClientEvent) (c : Conn) : Option UInt32 :=
  log.findSome? fun
    | .handshake d id => if d = c then id else none
    | .offered _ _ _ _ => none

/-- The ID of the peer that an open socket is connected to. -/
def peerID (p : ClientSide) (i : Fin maxClients) : Option UInt32 :=
  (p.manager.sockets i).fd.bind (announcedOn p.log)

/-- The answer of the mask for an ID, read from one mask file. -/
def allows (p : ClientSide) (file : MaskFile) (id : UInt32) : Bool :=
  (checkAdjacencyMatrix p.deviceID file p.adjM id).1 == some true

def offered : SendOp → Option (Fin maxClients × List UInt8)
  | .send i frame _ => some (i, frame)
  | _ => none

/-- The sends of a call, each with its slot and what it offers. -/
def offers (ops : List SendOp) : List (Fin maxClients × List UInt8) := ops.filterMap offered

theorem offers_append (as bs : List SendOp) : offers (as ++ bs) = offers as ++ offers bs :=
  List.filterMap_append

/-- To whom a frame for `dest` goes: everybody that the mask allows, or one peer with this ID. -/
structure DeliverySet (p : ClientSide) (file : MaskFile) (dest : UInt32) (frame : List UInt8)
    (offered : List (Fin maxClients × List UInt8)) : Prop where
  broadcast : dest = broadcastID → offered = ((List.finRange maxClients).filter fun i =>
    (peerID p i).any (allows p file)).map (·, frame)
  unicast : dest ≠ broadcastID → allows p file dest = true → (∃ i, peerID p i = some dest) →
    ∃ i, peerID p i = some dest ∧ offered = [(i, frame)]
  nobody : dest ≠ broadcastID →
    ¬(allows p file dest = true ∧ ∃ i, peerID p i = some dest) → offered = []

/-- The tasks one at a time: statements of openTask, and whole calls of send_handler between two of
its iterations. -/
inductive SerialAct where
  | openTask (env : OpenEnv)
  | sendHandler (unset : SocketIpStatus) (b : FwBuffer) (env : SendEnv)

def serialStep (addressToIp4 : List UInt8 → Bool) (s : Opener × ClientSide) :
    SerialAct → Option (Opener × ClientSide)
  | .openTask env => openStep addressToIp4 env s.1 s.2
  | .sendHandler unset b env =>
    if s.1.pc = .entry then some (s.1, ((sendHandler true unset b).exec (perform env) s.2).2)
    else none

/-- The tasks in turn as a state of the interleaved tasks: no call is in progress. -/
structure InTurn (s : Opener × ClientSide) (u : Outbound) : Prop where
  opener : u.opener = s.1
  side : u.side = s.2
  idProtocol : u.idProtocol = true
  resting : ∃ status, u.calls 0 = .pure status

/-- What the tasks do one at a time they can do interleaved. -/
theorem serial_interleaved (addressToIp4 : List UInt8 → Bool) {s t : Opener × ClientSide}
    {u : Outbound} {acts : List SerialAct} (hu : InTurn s u)
    (h : run (serialStep addressToIp4) s acts = some t) :
    ∃ acts' v, run (Outbound.step addressToIp4) u acts' = some v ∧ InTurn t v := by
  refine run_simulation ?_ hu h
  intro s act t u hturn hs
  obtain ⟨opener, side, idProtocol, calls⟩ := u
  obtain ⟨o, p⟩ := s
  obtain ⟨rfl, rfl, rfl, status, hrest⟩ := hturn
  cases act with
  | openTask env =>
    refine ⟨[.openTask env], ⟨t.1, t.2, true, calls⟩, ?_, ⟨rfl, rfl, rfl, status, hrest⟩⟩
    have hstep : openStep addressToIp4 env opener side = some t := hs
    simp [Outbound.step, hstep]
  | sendHandler unset b env =>
    unfold serialStep at hs
    split_ifs at hs
    obtain rfl := Option.some.inj hs
    have hstart : Outbound.step addressToIp4 ⟨opener, side, true, calls⟩
        (.sendHandler 0 unset b) =
          some ⟨opener, side, true, Function.update calls 0 (sendHandler true unset b)⟩ := by
      simp only [Outbound.step, show calls 0 = .pure status from hrest]
    obtain ⟨n, hn⟩ := Outbound.run_call addressToIp4 0 env (sendHandler true unset b)
      ⟨opener, side, true, calls⟩
    exact ⟨.sendHandler 0 unset b :: List.replicate n (.send 0 env), _,
      Option.bind_eq_some_iff.mpr ⟨_, hstart, hn⟩, rfl, rfl, rfl, by simp⟩

/-- While the tasks take turns, the stored ID of a connection is the announced one, and a closed
slot with an old ID comes after any open slot with the same ID. -/
structure LookupInv (o : Opener) (p : ClientSide) : Prop where
  conns : ∀ i c, (p.manager.sockets i).fd = some c → c < p.nextConn
  distinct : ∀ i j c, (p.manager.sockets i).fd = some c → (p.manager.sockets j).fd = some c → i = j
  announced : ∀ i c, currentSlot o.pc ≠ some i → (p.manager.sockets i).fd = some c →
    announcedOn p.log c = some (p.manager.sockets i).deviceID
  stale : ∀ j k, currentSlot o.pc ≠ some j → currentSlot o.pc ≠ some k →
    (p.manager.sockets j).isOpened = false → (p.manager.sockets k).isOpened = true →
    (p.manager.sockets j).deviceID ≠ 0 →
    (p.manager.sockets k).deviceID = (p.manager.sockets j).deviceID → k < j
  lowest : ∀ i, currentSlot o.pc = some i → ∀ j < i, (p.manager.sockets j).isOpened = true

/-- No send of the call would meet a reset on a slot when a later one is open with the same ID. -/
def NoResetBefore (env : SendEnv) (p : ClientSide) : Prop :=
  ∀ i k, i < k → (p.manager.sockets i).isOpened = true → (p.manager.sockets k).isOpened = true →
    (env.send i).status = .disconnected → (p.manager.sockets i).deviceID ≠ 0 →
    (p.manager.sockets k).deviceID ≠ (p.manager.sockets i).deviceID

/-- The condition on the steps: server IDs arrive whole, and of two connections to one node the
earlier slot is not reset. -/
def KeepsLookup (s : Opener × ClientSide) : SerialAct → Prop
  | .openTask env => WholeServerID env s.1
  | .sendHandler _ _ env => NoResetBefore env s.2

instance (env : SendEnv) (p : ClientSide) : Decidable (NoResetBefore env p) :=
  inferInstanceAs (Decidable (∀ _ _ : Fin maxClients, _))

instance (s : Opener × ClientSide) : (act : SerialAct) → Decidable (KeepsLookup s act)
  | .openTask env => inferInstanceAs (Decidable (WholeServerID env s.1))
  | .sendHandler _ _ env => inferInstanceAs (Decidable (NoResetBefore env s.2))

@[simp] theorem announcedOn_offered (i : Fin maxClients) (conn : Option Conn) (dest : UInt32)
    (written : List UInt8) (log : List ClientEvent) (c : Conn) :
    announcedOn (.offered i conn dest written :: log) c = announcedOn log c := rfl

@[simp] theorem announcedOn_self (c : Conn) (id : UInt32) (log : List ClientEvent) :
    announcedOn (.handshake c (some id) :: log) c = some id := by
  simp [announcedOn]

theorem announcedOn_ne {c d : Conn} (h : c ≠ d) (id : Option UInt32) (log : List ClientEvent) :
    announcedOn (.handshake c id :: log) d = announcedOn log d := by
  simp [announcedOn, h]

theorem lookupInv_init (deviceID : UInt32) (adjM : Nat → UInt8) :
    LookupInv {} { deviceID := deviceID, adjM := adjM } where
  conns _ _ h := by cases h
  distinct _ _ _ h := by cases h
  announced _ _ _ h := by cases h
  stale _ _ _ _ _ h := by cases h
  lowest _ h := by cases h

namespace LookupInv

variable {o o' : Opener} {p p' : ClientSide}

theorem of_current (h : LookupInv o p) (hc : currentSlot o'.pc = currentSlot o.pc) :
    LookupInv o' p :=
  ⟨h.conns, h.distinct, hc ▸ h.announced, hc ▸ h.stale, hc ▸ h.lowest⟩

theorem log (h : LookupInv o p) (i : Fin maxClients) (conn : Option Conn) (dest : UInt32)
    (written : List UInt8) :
    LookupInv o { p with log := .offered i conn dest written :: p.log } :=
  ⟨h.conns, h.distinct, h.announced, h.stale, h.lowest⟩

/-- Closing a socket leaves the later slots in order as long as its ID does not reappear behind
it. -/
theorem closing (h : LookupInv o p) (i : Fin maxClients) {s : PeerSocket} (hs : s.fd = none)
    (hcur : currentSlot o'.pc = currentSlot o.pc ∧ (currentSlot o.pc = some i ∨
        currentSlot o.pc = none) ∨ currentSlot o'.pc = none ∧ currentSlot o.pc = some i)
    (hstale : currentSlot o'.pc ≠ some i → s.deviceID ≠ 0 → ∀ k, k ≠ i →
      (p.manager.sockets k).isOpened = true → (p.manager.sockets k).deviceID = s.deviceID → k < i) :
    LookupInv o' (p.setPeer i s) := by
  have old {j : Fin maxClients} {c : Conn} (hj : ((p.setPeer i s).manager.sockets j).fd = some c) :
      j ≠ i ∧ (p.manager.sockets j).fd = some c := by
    have hij := ne_of_setPeer_closed hs hj
    rw [setPeer_ne _ _ _ hij] at hj
    exact ⟨hij, hj⟩
  have settled {j : Fin maxClients} (hij : j ≠ i) (hj : currentSlot o'.pc ≠ some j) :
      currentSlot o.pc ≠ some j := by
    rcases hcur with ⟨he, -⟩ | ⟨-, he⟩
    · rwa [he] at hj
    · exact currentSlot_ne he hij
  refine ⟨?_, ?_, ?_, ?_, ?_⟩
  · intro j c hj
    exact h.conns j c (old hj).2
  · intro j k c hj hk
    exact h.distinct j k c (old hj).2 (old hk).2
  · intro j c hjc hj
    obtain ⟨hij, hfd⟩ := old hj
    rw [setPeer_ne _ _ _ hij]
    exact h.announced j c (settled hij hjc) hfd
  · intro j k hjc hkc hj hk h0 he
    obtain ⟨c, hkfd⟩ := (PeerSocket.isOpened_iff _).mp hk
    have hki := (old hkfd).1
    rw [setPeer_ne _ _ _ hki] at hk he
    by_cases hij : j = i
    · subst hij
      rw [setPeer_self] at h0 he
      exact hstale hjc h0 k hki hk he
    · rw [setPeer_ne _ _ _ hij] at hj h0 he
      exact h.stale j k (settled hij hjc) (settled hki hkc) hj hk h0 he
  · intro j hj k hk
    rcases hcur with ⟨he, hi | hi⟩ | ⟨he, -⟩
    · rw [he, hi] at hj
      obtain rfl : i = j := Option.some.inj hj
      rw [setPeer_ne _ _ _ hk.ne]
      exact h.lowest i hi k hk
    · rw [he, hi] at hj
      cases hj
    · rw [he] at hj
      cases hj

theorem setHost (h : LookupInv o p) (i : Fin maxClients) (hostname : List UInt8) (port : UInt16) :
    LookupInv o (p.setSocket i ((p.manager.sockets i).setHost hostname port)) := by
  refine ⟨?_, ?_, ?_, ?_, ?_⟩
  · intro j c
    simpa only [setHost_peer, setSocket_nextConn] using h.conns j c
  · intro j k c
    simpa only [setHost_peer] using h.distinct j k c
  · intro j c
    simpa only [setHost_peer, setSocket_log] using h.announced j c
  · intro j k
    simpa only [setHost_peer] using h.stale j k
  · intro j hj k hk
    simpa only [setHost_peer] using h.lowest j hj k hk

/-- The new connection is on the current slot, which does not count yet. -/
theorem opened (h : LookupInv o p) {i : Fin maxClients} (hi : currentSlot o.pc = some i)
    (hi' : currentSlot o'.pc = some i) : LookupInv o'
      { p.setPeer i { fd := some p.nextConn, deviceID := (p.manager.sockets i).deviceID } with
        nextConn := p.nextConn + 1 } := by
  have settled {j : Fin maxClients} (hj : currentSlot o'.pc ≠ some j) : j ≠ i := by
    intro hji
    subst hji
    exact hj hi'
  refine ⟨?_, ?_, ?_, ?_, ?_⟩
  · intro j c hj
    by_cases hij : j = i
    · subst hij
      simp only [setPeer_self, Option.some.injEq] at hj
      rw [← hj]
      exact Nat.lt_succ_self _
    · simp only [setPeer_ne _ _ _ hij] at hj
      exact Nat.lt_succ_of_lt (h.conns j c hj)
  · intro j k c hj hk
    by_cases hij : j = i <;> by_cases hik : k = i
    · rw [hij, hik]
    · -- the new connection has a number of its own
      subst hij
      simp only [setPeer_self, Option.some.injEq] at hj
      simp only [setPeer_ne _ _ _ hik] at hk
      have hlt := h.conns k c hk
      exact absurd hj (Nat.ne_of_gt hlt)
    · subst hik
      simp only [setPeer_self, Option.some.injEq] at hk
      simp only [setPeer_ne _ _ _ hij] at hj
      have hlt := h.conns j c hj
      exact absurd hk (Nat.ne_of_gt hlt)
    · simp only [setPeer_ne _ _ _ hij] at hj
      simp only [setPeer_ne _ _ _ hik] at hk
      exact h.distinct j k c hj hk
  · intro j c hjc hj
    have hij := settled hjc
    simp only [setPeer_ne _ _ _ hij] at hj ⊢
    exact h.announced j c (currentSlot_ne hi hij) hj
  · intro j k hjc hkc hj hk
    have hij := settled hjc
    have hik := settled hkc
    simp only [setPeer_ne _ _ _ hij] at hj ⊢
    simp only [setPeer_ne _ _ _ hik] at hk ⊢
    exact h.stale j k (currentSlot_ne hi hij) (currentSlot_ne hi hik) hj hk
  · intro j hj k hk
    obtain rfl : j = i := Option.some.inj (hj.symm.trans hi')
    simp only [setPeer_ne _ _ _ hk.ne]
    exact h.lowest j hi k hk

/-- With its ID the current slot joins the others: all slots before it are open. -/
theorem received (h : LookupInv o p) {i : Fin maxClients} {c : Conn} {id : UInt32}
    (hi : currentSlot o.pc = some i) (hi' : currentSlot o'.pc = none)
    (hfd : (p.manager.sockets i).fd = some c) :
    LookupInv o' { p.setPeer i { fd := some c, deviceID := id } with
      log := .handshake c (some id) :: p.log } := by
  have hfd' (j : Fin maxClients) : ((p.setPeer i ⟨some c, id⟩).manager.sockets j).fd =
      (p.manager.sockets j).fd := by
    by_cases hij : j = i
    · subst hij
      rw [setPeer_self, hfd]
    · rw [setPeer_ne _ _ _ hij]
  refine ⟨?_, ?_, ?_, ?_, ?_⟩
  · intro j d hj
    exact h.conns j d (hfd' j ▸ hj)
  · intro j k d hj hk
    exact h.distinct j k d (hfd' j ▸ hj) (hfd' k ▸ hk)
  · intro j d _ hj
    by_cases hij : j = i
    · subst hij
      simp only [setPeer_self, Option.some.injEq] at hj ⊢
      rw [← hj, announcedOn_self]
    · simp only [setPeer_ne _ _ _ hij] at hj ⊢
      have hd : c ≠ d := by
        intro hcd
        subst hcd
        exact hij (h.distinct j i c hj hfd)
      rw [announcedOn_ne hd]
      exact h.announced j d (currentSlot_ne hi hij) hj
  · intro j k _ _ hj hk h0 he
    simp only [PeerSocket.isOpened, hfd'] at hj hk
    have hij : j ≠ i := by
      intro hji
      subst hji
      simp [hfd] at hj
    simp only [setPeer_ne _ _ _ hij] at h0 he
    by_cases hik : k = i
    · subst hik
      by_contra hkj
      have hopen := h.lowest k hi j (lt_of_le_of_ne (not_lt.mp hkj) hij)
      rw [PeerSocket.isOpened, hj] at hopen
      cases hopen
    · simp only [setPeer_ne _ _ _ hik] at he
      exact h.stale j k (currentSlot_ne hi hij) (currentSlot_ne hi hik) hj hk h0 he
  · intro j hj
    cases hj.symm.trans hi'

theorem openStep {addressToIp4 : List UInt8 → Bool} {env : OpenEnv} (h : LookupInv o p)
    (he : OpenEffect addressToIp4 env o p o' p') (hwhole : WholeServerID env o) :
    LookupInv o' p' := by
  cases he with
  | entry hostname_s port pc hpc hpc' =>
    refine h.of_current ?_
    rcases hpc' with rfl | rfl <;> rw [hpc] <;> rfl
  | known hpc => exact h.of_current (by rw [hpc]; rfl)
  | unknown hpc => exact h.of_current (by rw [hpc]; rfl)
  | full hpc => exact h.of_current (by rw [hpc]; rfl)
  | slot i hpc hi =>
    have hnone : currentSlot o.pc = none := by rw [hpc]; rfl
    have hno (j : Fin maxClients) : currentSlot o.pc ≠ some j := by simp [hnone]
    refine ⟨h.conns, h.distinct, ?_, ?_, ?_⟩
    · intro j c _
      exact h.announced j c (hno j)
    · intro j k _ _
      exact h.stale j k (hno j) (hno k)
    · intro j hj
      obtain rfl : i = j := Option.some.inj hj
      exact (TcpClientManager.getFreeSocketIndex_spec hi).2
  | setHost i hpc => exact (h.setHost i _ _).of_current (by rw [hpc]; rfl)
  | opened i hpc => exact h.opened (by rw [hpc]; rfl) rfl
  | notOpened i hpc => exact h.of_current (by rw [hpc]; rfl)
  | idSent i hpc => exact h.of_current (by rw [hpc]; rfl)
  | idNotSent i hpc =>
    have hi : currentSlot o.pc = some i := by rw [hpc]; rfl
    exact h.closing i rfl (.inl ⟨hi.symm, .inl hi⟩) fun hne => absurd rfl hne
  | idReceived i c hpc hopen ha =>
    have hlen : 6 ≤ (env.recv.bytes.take 24).length := by
      rw [List.length_take]
      have hw := hwhole i hpc ha
      omega
    rw [PeerSocket.announced_idIn hlen env.stack]
    exact h.received (by rw [hpc]; rfl) rfl hopen
  | idNotReceived i hpc =>
    have hi : currentSlot o.pc = some i := by rw [hpc]; rfl
    exact h.closing i rfl (.inl ⟨hi.symm, .inl hi⟩) fun hne => absurd rfl hne
  | closed i hpc =>
    have hi : currentSlot o.pc = some i := by rw [hpc]; rfl
    exact h.closing i (s := (p.manager.sockets i).toPeerSocket.close) rfl (.inr ⟨rfl, hi⟩)
      fun _ h0 => absurd rfl h0
  | again pc hpc hpc' =>
    refine h.of_current ?_
    rcases hpc' with rfl | rfl <;> rw [hpc] <;> rfl
  | closedAll =>
    refine ⟨?_, ?_, ?_, ?_, ?_⟩
    · intro i c hfd
      cases hfd
    · intro i j c hfd
      cases hfd
    · intro i c _ hfd
      cases hfd
    · intro j k _ _ _ hopen
      cases hopen
    · intro i hcur
      cases hcur

/-- A send or a close between two iterations of openTask. -/
theorem send {env : SendEnv} {op : SendOp} (h : LookupInv o p) (hpc : o.pc = .entry)
    (hno : NoResetBefore env p) (he : SendEffect env op p p') : LookupInv o p' := by
  have hnone : currentSlot o.pc = none := by rw [hpc]; rfl
  cases he with
  | quiet => exact ⟨h.conns, h.distinct, h.announced, h.stale, h.lowest⟩
  | sent => exact h.log _ _ _ _
  | reset i _ _ _ _ hopen hd =>
    refine (h.closing i rfl (.inl ⟨rfl, .inr hnone⟩) ?_).log _ _ _ _
    intro _ h0 k hki hk he
    -- the guard: no open slot behind `i` has its ID
    by_contra hlt
    have hik : i < k := lt_of_le_of_ne (not_lt.mp hlt) hki.symm
    exact hno i k hik hopen hk hd h0 he
  | closed i =>
    exact h.closing i (s := (p.manager.sockets i).toPeerSocket.close) rfl
      (.inl ⟨rfl, .inr hnone⟩) fun _ h0 => absurd rfl h0

end LookupInv

/-- The guard outlasts the sends of the call: no socket is opened and no ID stored. -/
theorem NoResetBefore.send {env env' : SendEnv} {op : SendOp} {p p' : ClientSide}
    (h : NoResetBefore env p) (he : SendEffect env' op p p') : NoResetBefore env p' := by
  have mono (hopen : ∀ j, (p'.manager.sockets j).isOpened = true →
      (p.manager.sockets j).isOpened = true ∧
        (p'.manager.sockets j).deviceID = (p.manager.sockets j).deviceID) :
      NoResetBefore env p' := by
    intro i k hik hi hk hd h0
    obtain ⟨hi, hidi⟩ := hopen i hi
    obtain ⟨hk, hidk⟩ := hopen k hk
    rw [hidi] at h0 ⊢
    rw [hidk]
    exact h i k hik hi hk hd h0
  have closing (i : Fin maxClients) {s : PeerSocket} (hs : s.fd = none) (j : Fin maxClients)
      (hj : ((p.setPeer i s).manager.sockets j).isOpened = true) :
      (p.manager.sockets j).isOpened = true ∧
        ((p.setPeer i s).manager.sockets j).deviceID = (p.manager.sockets j).deviceID := by
    obtain ⟨c, hfd⟩ := (PeerSocket.isOpened_iff _).mp hj
    rw [setPeer_ne _ _ _ (ne_of_setPeer_closed hs hfd)] at hj ⊢
    exact ⟨hj, rfl⟩
  cases he with
  | quiet => exact mono fun _ hj => ⟨hj, rfl⟩
  | sent => exact mono fun _ hj => ⟨hj, rfl⟩
  | reset i => exact mono (closing i rfl)
  | closed i => exact mono (closing i (s := (p.manager.sockets i).toPeerSocket.close) rfl)

theorem lookupInv_exec {env : SendEnv} {o : Opener} {p : ClientSide} (h : LookupInv o p)
    (hpc : o.pc = .entry) (hno : NoResetBefore env p) (unset : SocketIpStatus) (b : FwBuffer) :
    LookupInv o ((sendHandler true unset b).exec (perform env) p).2 := by
  have hcalls : (sendHandler true unset b).Calls Answers fun _ => True :=
    sendHandler_calls (fun _ _ => trivial) (fun _ _ _ _ => trivial) true unset b
  have hop (op : SendOp) (q : ClientSide) (_ : True)
      (hq : LookupInv o q ∧ NoResetBefore env q) :
      LookupInv o (perform env op q).2 ∧ NoResetBefore env (perform env op q).2 := by
    have he := perform_effect env op q
    exact ⟨hq.1.send hpc hq.2 he, hq.2.send he⟩
  exact (Prog.exec_invariant (perform_answers env) hop hcalls ⟨h, hno⟩).1

theorem lookupInv_serialStep {addressToIp4 : List UInt8 → Bool} {s t : Opener × ClientSide}
    {act : SerialAct} (h : LookupInv s.1 s.2) (hg : KeepsLookup s act)
    (hs : serialStep addressToIp4 s act = some t) : LookupInv t.1 t.2 := by
  cases act with
  | openTask env => exact h.openStep (openStep_effect addressToIp4 hs) hg
  | sendHandler unset b env =>
    unfold serialStep at hs
    split_ifs at hs with hpc
    obtain rfl := Option.some.inj hs
    exact lookupInv_exec h hpc hg unset b

/-- The loop offers the frame to its targets. -/
theorem slotCalls_offers (env : SendEnv) (p : ClientSide) (frame : List UInt8)
    (is : List (Fin maxClients)) (adjM : Nat → UInt8) :
    offers ((slotCalls env p frame is adjM).map Sigma.fst) =
      (targets env p is adjM).map (·, frame) := by
  induction is generalizing adjM with
  | nil => rfl
  | cons i is ih =>
    simp only [offers] at ih ⊢
    simp only [slotCalls, targets]
    split
    · split <;> simp [offered, List.filterMap_cons, ih]
    · simp [offered, List.filterMap_cons, ih]

section offers

variable {env : SendEnv} {file : MaskFile} (hmask : ∀ site, env.mask site = file)
include hmask

/-- With one mask file for all its checks a broadcast sends to the slots that are open and
allowed. -/
theorem targets_eq (p : ClientSide) {is : List (Fin maxClients)} (hin : SlotsInTable p is)
    (adjM : Nat → UInt8) (hadj : updateAdjacencyMatrix p.deviceID file adjM =
      updateAdjacencyMatrix p.deviceID file p.adjM) : targets env p is adjM = is.filter fun i =>
        (p.manager.sockets i).isOpened && allows p file (p.manager.sockets i).deviceID := by
  induction is generalizing adjM with
  | nil => rfl
  | cons i is ih =>
    obtain ⟨hentry, hin⟩ := (slotsInTable_cons p i is).mp hin
    rw [targets]
    cases ho : (p.manager.sockets i).isOpened with
    | false =>
      rw [if_neg Bool.false_ne_true, List.filter_cons_of_neg (by simp [ho])]
      exact ih hin adjM hadj
    | true =>
      have hans : checkAdjacencyMatrix p.deviceID (env.mask (some i)) adjM
          (p.manager.sockets i).getServerDeviceID =
            checkAdjacencyMatrix p.deviceID file p.adjM (p.manager.sockets i).deviceID := by
        rw [hmask, checkAdjacencyMatrix, hadj]
        rfl
      have hrest := ih hin (checkAdjacencyMatrix p.deviceID file p.adjM
        (p.manager.sockets i).deviceID).2 (updateAdjacencyMatrix_idem ..)
      simp only [if_true, hans]
      rcases ha : (checkAdjacencyMatrix p.deviceID file p.adjM
          (p.manager.sockets i).deviceID).1 with _ | _ | _
      · exact absurd (hentry ho) (checkAdjacencyMatrix_eq_none_iff.mp ha)
      · rw [List.filter_cons_of_neg (by simp [allows, ha])]
        exact hrest
      · rw [List.filter_cons_of_pos (by simp [ho, allows, ha])]
        exact congrArg (i :: ·) hrest

/-- The branch for all offers the frame to these slots, each in its turn. -/
theorem sendToAll_offers (p : ClientSide) (hin : DestinationsInTable p broadcastID)
    (frame : List UInt8) (unset : SocketIpStatus) :
    offers ((sendToAll frame unset).trace (perform env) p) =
      ((List.finRange maxClients).filter fun i => (p.manager.sockets i).isOpened &&
        allows p file (p.manager.sockets i).deviceID).map (·, frame) := by
  rw [← Prog.transcript_fst, (sendToAll_loop env p frame unset).1, if_pos hin, List.map_append,
    offers_append, slotCalls_offers, targets_eq hmask p ((slotsInTable_all p).mpr hin) p.adjM rfl]
  exact List.append_nil _

/-- The unicast branch offers the frame once, to the slot that the lookup gives, if the mask allows
the destination and an open slot stores it. -/
theorem unicast_offers (p : ClientSide) (frame : List UInt8) (dest : UInt32) :
    offers ((unicast frame dest).trace (perform env) p) =
      if allows p file dest && p.manager.checkIfAlreadyConnected dest then
        ((p.manager.getSocketHandlerByID dest).map (·, frame)).toList
      else [] := by
  have hquiet (status : SocketIpStatus) (epipe : Bool) (q : ClientSide) :
      offers ((afterUnicast dest status epipe).trace (perform env) q) = [] := by
    refine List.filterMap_eq_nil_iff.mpr (Prog.trace_calls (perform_answers env) ?_)
    exact afterUnicast_calls (P := fun o => offered o = none) rfl (fun _ => rfl) status epipe
  rw [unicast_trace, hmask, allows]
  rcases (checkAdjacencyMatrix p.deviceID file p.adjM dest).1 with _ | _ | _
  · rfl
  · rfl
  · cases p.manager.checkIfAlreadyConnected dest with
    | false => rfl
    | true =>
      cases p.manager.getSocketHandlerByID dest with
      | none => rfl
      | some i => exact congrArg ((i, frame) :: ·) (hquiet _ _ _)

end offers

/-- Between two iterations of openTask the stored ID of an open socket is that of its peer. -/
theorem LookupInv.peerID_eq {o : Opener} {p : ClientSide} (h : LookupInv o p)
    (hpc : o.pc = .entry) (i : Fin maxClients) : peerID p i =
      if (p.manager.sockets i).isOpened then some (p.manager.sockets i).deviceID else none := by
  cases hfd : (p.manager.sockets i).fd with
  | none => simp [peerID, PeerSocket.isOpened, hfd]
  | some c =>
    have ha := h.announced i c (by simp [hpc, currentSlot]) hfd
    simp [peerID, PeerSocket.isOpened, hfd, ha]

theorem LookupInv.connected_iff {o : Opener} {p : ClientSide} (h : LookupInv o p)
    (hpc : o.pc = .entry) (dest : UInt32) :
    p.manager.checkIfAlreadyConnected dest = true ↔ ∃ i, peerID p i = some dest := by
  rw [TcpClientManager.checkIfAlreadyConnected_iff]
  refine exists_congr fun i => ?_
  rw [h.peerID_eq hpc]
  split_ifs with ho
  · simp [ho]
  · simp [ho]

/-- The two lookups agree: the first slot with the ID of a connected peer is open. -/
theorem LookupInv.lookup_open {o : Opener} {p : ClientSide} (h : LookupInv o p)
    (hpc : o.pc = .entry) {dest : UInt32} (h0 : dest ≠ 0) (hc : ∃ i, peerID p i = some dest) :
    ∃ i, p.manager.getSocketHandlerByID dest = some i ∧ peerID p i = some dest := by
  obtain ⟨k, hk⟩ := hc
  rw [h.peerID_eq hpc] at hk
  split_ifs at hk with hopen
  have hid := Option.some.inj hk
  obtain ⟨i, hi⟩ : ∃ i, p.manager.getSocketHandlerByID dest = some i := ⟨_, if_neg h0⟩
  obtain ⟨hidi, hik⟩ := TcpClientManager.getSocketHandlerByID_spec hi hid
  refine ⟨i, hi, ?_⟩
  rw [h.peerID_eq hpc, hidi]
  split_ifs with hoi
  · rfl
  · have hcur (j : Fin maxClients) : currentSlot o.pc ≠ some j := by
      simp [hpc, currentSlot]
    have hki := h.stale i k (hcur i) (hcur k) (by simpa using hoi) hopen (hidi ▸ h0)
      (hid.trans hidi.symm)
    exact absurd hki (not_lt.mpr hik)

/-- The delivery set. After every run of whole sends between the iterations of openTask in which
server IDs arrive whole and no reset hits the earlier of two connections to one node, a frame goes
to exactly those it is meant for. -/
theorem delivery_set (addressToIp4 : List UInt8 → Bool) (deviceID : UInt32) (adjM : Nat → UInt8)
    (acts : List SerialAct) (o : Opener) (p : ClientSide)
    (hrun : run (serialStep addressToIp4) ({}, { deviceID := deviceID, adjM := adjM }) acts =
      some (o, p))
    (hkeeps : AllSteps (serialStep addressToIp4) KeepsLookup
      ({}, { deviceID := deviceID, adjM := adjM }) acts)
    (hpc : o.pc = .entry) (b : FwBuffer) (dest : UInt32) (hb : Addressed b dest) (h0 : dest ≠ 0)
    (hin : dest = broadcastID → ∀ i, ∀ id ∈ peerID p i, HasEntry id) (env : SendEnv)
    (file : MaskFile) (hmask : ∀ site, env.mask site = file) (unset : SocketIpStatus) :
    DeliverySet p file dest b.contents
      (offers ((sendHandler true unset b).trace (perform env) p)) := by
  have h : LookupInv o p := run_invariant (I := fun s : Opener × ClientSide => LookupInv s.1 s.2)
    (fun _ _ _ hi hg hs => lookupInv_serialStep hi hg hs) (lookupInv_init deviceID adjM) hkeeps hrun
  have hheader : offers ((readHeader b).trace (perform env) p) = [] :=
    List.filterMap_eq_nil_iff.mpr (Prog.trace_calls (perform_answers env)
      (readHeader_calls (P := fun o => offered o = none) (fun _ => rfl) rfl b))
  have htrace : offers ((sendHandler true unset b).trace (perform env) p) =
      if dest = broadcastID then
        offers ((sendToAll b.contents unset).trace (perform env) p)
      else offers ((unicast b.contents dest).trace (perform env) p) := by
    simp only [sendHandler, if_true, Prog.trace_bind, readHeader_exec, headerScan_addressed hb,
      offers_append, hheader, List.nil_append]
    split_ifs
    · rfl
    · rfl
  rw [htrace]
  refine ⟨?_, ?_, ?_⟩
  · intro hbc
    have htable : DestinationsInTable p broadcastID := by
      rw [DestinationsInTable, if_pos rfl]
      intro i hopen
      refine hin hbc i _ ?_
      rw [h.peerID_eq hpc, if_pos hopen]
      rfl
    rw [if_pos hbc, sendToAll_offers hmask p htable]
    congr 2
    funext i
    rw [h.peerID_eq hpc]
    cases (p.manager.sockets i).isOpened <;> rfl
  · intro hbc ha hc
    obtain ⟨i, hi, hpeer⟩ := h.lookup_open hpc h0 hc
    refine ⟨i, hpeer, ?_⟩
    rw [if_neg hbc, unicast_offers hmask, ha, (h.connected_iff hpc dest).mpr hc, hi]
    rfl
  · intro hbc hno
    rw [if_neg hbc, unicast_offers hmask, if_neg]
    rw [Bool.and_eq_true]
    intro hboth
    obtain ⟨ha, hc⟩ := hboth
    exact hno ⟨ha, (h.connected_iff hpc dest).mp hc⟩

/-- A node with connections to the node 0x20202021 at the given hosts. -/
def connectedTo (xs : List UInt8) : List SerialAct :=
  xs.flatMap fun x => (connectEnvs x 0x20202021).map .openTask

def plainFrame : FwBuffer := .ofBytes (idEntry baseID ++ idEntry 0x20202021)

def afterConnect : Opener × ClientSide :=
  (run (serialStep fun _ => true) ({}, { deviceID := baseID }) (connectedTo [0x31])).get (by rfl)

/-- A frame to a node that is connected. -/
theorem delivery_set_connected : DeliverySet afterConnect.2 {} 0x20202021 plainFrame.contents
    (offers ((sendHandler true .success plainFrame).trace (perform {}) afterConnect.2)) :=
  delivery_set (fun _ => true) baseID (initAdjacencyMatrix fun _ => 0) (connectedTo [0x31])
    afterConnect.1 afterConnect.2 (Option.some_get (by rfl)).symm (by decide) (by decide)
    plainFrame 0x20202021 ⟨0, 6, by decide, by decide⟩ (by decide) (by decide) {} {}
    (fun _ => rfl) .success

/-- Two addresses of one node give two connections; after a reset of the first, a frame goes to the
closed socket. -/
theorem delivery_set_fails : ¬∀ (addressToIp4 : List UInt8 → Bool) (deviceID : UInt32)
    (adjM : Nat → UInt8) (acts : List SerialAct) (o : Opener) (p : ClientSide) (b : FwBuffer)
    (dest : UInt32) (env : SendEnv) (file : MaskFile) (unset : SocketIpStatus),
    run (serialStep addressToIp4) ({}, { deviceID := deviceID, adjM := adjM }) acts = some (o, p) →
    o.pc = .entry → Addressed b dest → (dest = broadcastID ∨ HasEntry dest) →
    (∀ i, ∀ id ∈ peerID p i, HasEntry id) → (∀ site, env.mask site = file) →
    DeliverySet p file dest b.contents
      (offers ((sendHandler true unset b).trace (perform env) p)) := fun h => by
  have hset := h (fun _ => true) baseID (initAdjacencyMatrix fun _ => 0)
    (connectedTo [0x31, 0x32] ++
      [.sendHandler .success plainFrame { send := fun _ => { status := .disconnected } }])
    _ _ plainFrame 0x20202021 {} {} .success (Option.some_get (by rfl)).symm (by decide)
    ⟨0, 6, by decide, by decide⟩ (by decide) (by decide) (fun _ => rfl)
  exact absurd (hset.unicast (by decide) (by decide) (by decide)) (by decide)

end MeshNetwork.Node
