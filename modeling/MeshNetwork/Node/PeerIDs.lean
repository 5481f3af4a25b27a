import MeshNetwork.Node.Outbound

namespace MeshNetwork.Node

open Driver

/-- The ID stored on the connection of a slot is the one its peer announced there; 0 says
nothing. -/
def KnownAt (p : ClientSide) (i : Fin maxClients) : Prop :=
  ∀ c, (p.manager.sockets i).fd = some c → (p.manager.sockets i).deviceID = 0 ∨
    .handshake c (some (p.manager.sockets i).deviceID) ∈ p.log

/-- The IDs of all open connections are known. -/
def Known (p : ClientSide) : Prop := ∀ i, KnownAt p i

/-- The slot that openTask is at work on; its stored ID says nothing yet. -/
def currentSlot : OpenPc → Option (Fin maxClients)
  | .setHost i => some i
  | .openSocket i => some i
  | .sendClientID i => some i
  | .recvSrvrID i => some i
  | .close i => some i
  | _ => none

theorem currentSlot_ne {pc : OpenPc} {i j : Fin maxClients} (hi : currentSlot pc = some i)
    (hij : j ≠ i) : currentSlot pc ≠ some j := by
  rw [hi]
  intro he
  exact hij (Option.some.inj he).symm

/-- The IDs are known outside the slot that openTask is at work on. -/
def KnownSettled (o : Opener) (p : ClientSide) : Prop :=
  ∀ i, currentSlot o.pc ≠ some i → KnownAt p i

/-- The open that comes next succeeds. -/
def Opens (addressToIp4 : List UInt8 → Bool) (env : OpenEnv) (o : Opener) (p : ClientSide)
    (i : Fin maxClients) : Prop :=
  o.pc = .openSocket i ∧ addressToIp4 (p.manager.sockets i).hostname = true ∧
    env.connected = .success

/-- The ID message that is about to be accepted has all its bytes. -/
def WholeServerID (env : OpenEnv) (o : Opener) : Prop :=
  ∀ i, o.pc = .recvSrvrID i → PeerSocket.Accepted 24 env.recv env.stack → 6 ≤ env.recv.bytes.length

instance (addressToIp4 : List UInt8 → Bool) (env : OpenEnv) (o : Opener) (p : ClientSide)
    (i : Fin maxClients) : Decidable (Opens addressToIp4 env o p i) :=
  inferInstanceAs (Decidable (_ ∧ _))

instance (env : OpenEnv) (o : Opener) : Decidable (WholeServerID env o) :=
  inferInstanceAs (Decidable (∀ _ : Fin maxClients, _))

theorem knownAt_init (deviceID : UInt32) (adjM : Nat → UInt8) (i : Fin maxClients) :
    KnownAt { deviceID := deviceID, adjM := adjM } i := by
  intro c h
  cases h

namespace KnownAt

variable {p : ClientSide} {i j : Fin maxClients}

theorem log (h : KnownAt p j) (e : ClientEvent) : KnownAt { p with log := e :: p.log } j := by
  intro c hc
  exact (h c hc).imp_right (List.mem_cons_of_mem e)

/-- A closed socket says nothing, whatever ID it stores. -/
theorem of_closed (h : (p.manager.sockets j).fd = none) : KnownAt p j := by
  intro c hc
  cases h.symm.trans hc

/-- Exchanging one socket asks for the fact about this socket only. -/
theorem setPeer (h : j ≠ i → KnownAt p j) {s : PeerSocket}
    (hs : j = i → ∀ c, s.fd = some c → s.deviceID = 0 ∨ .handshake c (some s.deviceID) ∈ p.log) :
    KnownAt (p.setPeer i s) j := by
  intro c hc
  by_cases hj : j = i
  · rw [hj, setPeer_self] at hc ⊢
    exact hs hj c hc
  · rw [setPeer_ne _ _ _ hj] at hc ⊢
    exact h hj c hc

theorem setClosed (h : j ≠ i → KnownAt p j) {s : PeerSocket} (hs : s.fd = none) :
    KnownAt (p.setPeer i s) j := by
  refine setPeer h ?_
  intro _ c hc
  cases hs.symm.trans hc

theorem baseClose (h : j ≠ i → KnownAt p j) :
    KnownAt (p.setPeer i (p.manager.sockets i).baseClose) j := setClosed h rfl

theorem close (h : j ≠ i → KnownAt p j) : KnownAt { p with manager := p.manager.close i } j :=
  setClosed h (s := (p.manager.sockets i).toPeerSocket.close) rfl

theorem closeAll (p : ClientSide) (j : Fin maxClients) : KnownAt p.closeAll j := of_closed rfl

theorem setHost (h : KnownAt p j) (i : Fin maxClients) (hostname : List UInt8) (port : UInt16) :
    KnownAt (p.setSocket i ((p.manager.sockets i).setHost hostname port)) j := by
  intro c hc
  rw [setHost_peer] at hc ⊢
  exact h c hc

/-- A complete ID is the announced one. -/
theorem received {env : OpenEnv} {i : Fin maxClients} {c : Conn}
    (hlen : 6 ≤ env.recv.bytes.length) (h : j ≠ i → KnownAt p j) :
    KnownAt { p.setPeer i ⟨some c, PeerSocket.idIn (env.recv.bytes.take 24) env.stack⟩ with
      log := .handshake c (announced (env.recv.bytes.take 24)) :: p.log } j := by
  have htake : 6 ≤ (env.recv.bytes.take 24).length := by
    rw [List.length_take]
    omega
  intro d hd
  by_cases hj : j = i
  · subst hj
    simp only [setPeer_self] at hd ⊢
    obtain rfl := Option.some.inj hd
    rw [PeerSocket.announced_idIn htake env.stack]
    exact .inr List.mem_cons_self
  · simp only [setPeer_ne _ _ _ hj] at hd ⊢
    exact (h hj d hd).imp_right (List.mem_cons_of_mem _)

/-- A statement of openTask that opens no slot with an old ID and accepts no part of an ID. -/
theorem openStep {addressToIp4 : List UInt8 → Bool} {env : OpenEnv} {o o' : Opener}
    {p' : ClientSide} (h : KnownAt p j) (he : OpenEffect addressToIp4 env o p o' p')
    (hfresh : ∀ i, Opens addressToIp4 env o p i → (p.manager.sockets i).deviceID = 0)
    (hwhole : WholeServerID env o) : KnownAt p' j := by
  cases he with
  | setHost i => exact h.setHost i _ _
  | opened i hpc _ ha hs =>
    have hzero := hfresh i ⟨hpc, ha, hs⟩
    exact setPeer (fun _ => h) fun _ _ _ => .inl hzero
  | idNotSent i => exact baseClose fun _ => h
  | idReceived i c hpc _ ha => exact received (hwhole i hpc ha) fun _ => h
  | idNotReceived i => exact baseClose fun _ => h
  | closed i => exact close fun _ => h
  | closedAll => exact closeAll p j
  | _ => exact h

theorem send {env : SendEnv} {op : SendOp} {p' : ClientSide} (h : KnownAt p j)
    (he : SendEffect env op p p') : KnownAt p' j := by
  cases he with
  | quiet => exact h
  | sent => exact h.log _
  | reset i => exact (baseClose fun _ => h).log _
  | closed i => exact close fun _ => h

end KnownAt

/-- A statement of openTask that accepts no part of an ID; the slot may store an old one until the
new one has come. -/
theorem KnownSettled.openStep {addressToIp4 : List UInt8 → Bool} {env : OpenEnv} {o o' : Opener}
    {p p' : ClientSide} (h : KnownSettled o p) (he : OpenEffect addressToIp4 env o p o' p')
    (hwhole : WholeServerID env o) : KnownSettled o' p' := by
  intro j hj
  have other {i : Fin maxClients} (hi : currentSlot o.pc = some i) (hne : j ≠ i) : KnownAt p j :=
    h j (currentSlot_ne hi hne)
  -- behind the statement openTask is at work on `i` still, or on none
  have apart {i : Fin maxClients} (hi : currentSlot o'.pc = some i) : j ≠ i := by
    intro heq
    exact hj (heq ▸ hi)
  cases he with
  | setHost i hpc => exact (other (by rw [hpc]; rfl) (apart rfl)).setHost i _ _
  | opened i hpc =>
    have hset : KnownAt (p.setPeer i ⟨some p.nextConn, (p.manager.sockets i).deviceID⟩) j :=
      .setPeer (other (by rw [hpc]; rfl)) fun heq => absurd heq (apart rfl)
    exact hset
  | notOpened i hpc => exact other (by rw [hpc]; rfl) (apart rfl)
  | idSent i hpc => exact other (by rw [hpc]; rfl) (apart rfl)
  | idNotSent i hpc => exact .baseClose (other (by rw [hpc]; rfl))
  | idReceived i c hpc _ ha => exact .received (hwhole i hpc ha) (other (by rw [hpc]; rfl))
  | idNotReceived i hpc => exact .baseClose (other (by rw [hpc]; rfl))
  | closed i hpc => exact .close (other (by rw [hpc]; rfl))
  | closedAll => exact .closeAll p j
  | entry _ _ _ hpc | known hpc | unknown hpc | full hpc | slot _ hpc | again _ hpc =>
    exact h j (by simp [hpc, currentSlot])

theorem KnownSettled.send {o : Opener} {p p' : ClientSide} (h : KnownSettled o p) {env : SendEnv}
    {op : SendOp} (he : SendEffect env op p p') : KnownSettled o p' := fun j hj => (h j hj).send he

/-- The slot that openTask is at work on stores no ID as long as it is open. -/
def CurrentUnnamed (o : Opener) (p : ClientSide) : Prop :=
  ∀ i c, currentSlot o.pc = some i → (p.manager.sockets i).fd = some c →
    (p.manager.sockets i).deviceID = 0

/-- No slot is opened with an old ID in it. -/
def OpensFresh (addressToIp4 : List UInt8 → Bool) (s : Outbound) : OutboundAct → Prop
  | .openTask env => ∀ i, Opens addressToIp4 env s.opener s.side i →
      (s.side.manager.sockets i).deviceID = 0
  | _ => True

instance (addressToIp4 : List UInt8 → Bool) (s : Outbound) :
    (act : OutboundAct) → Decidable (OpensFresh addressToIp4 s act)
  | .openTask _ => inferInstanceAs (Decidable (∀ _ : Fin maxClients, _))
  | .sendHandler _ _ _ => .isTrue trivial
  | .send _ _ => .isTrue trivial
  | .stop => .isTrue trivial
  | .closeAll => .isTrue trivial

namespace CurrentUnnamed

variable {o o' : Opener} {p p' : ClientSide}

theorem openStep {addressToIp4 : List UInt8 → Bool} {env : OpenEnv} (h : CurrentUnnamed o p)
    (he : OpenEffect addressToIp4 env o p o' p')
    (hfresh : ∀ i, Opens addressToIp4 env o p i → (p.manager.sockets i).deviceID = 0) :
    CurrentUnnamed o' p' := by
  intro j c hj hc
  cases he with
  | entry _ _ _ _ hpc => rcases hpc with rfl | rfl <;> cases hj
  | slot i hpc hi =>
    obtain rfl : i = j := Option.some.inj hj
    have hclosed := (TcpClientManager.getFreeSocketIndex_spec hi).1
    simp [PeerSocket.isOpened, hc] at hclosed
  | setHost i hpc =>
    rw [setHost_peer] at hc ⊢
    exact h j c (by rw [hpc]; exact hj) hc
  | opened i hpc _ ha hs =>
    obtain rfl : i = j := Option.some.inj hj
    have hset : ((p.setPeer i ⟨some p.nextConn, (p.manager.sockets i).deviceID⟩).manager.sockets
        i).deviceID = 0 := by
      rw [setPeer_self]
      exact hfresh i ⟨hpc, ha, hs⟩
    exact hset
  | notOpened i hpc => exact h j c (by rw [hpc]; exact hj) hc
  | idSent i hpc => exact h j c (by rw [hpc]; exact hj) hc
  | idNotSent i | idNotReceived i =>
    obtain rfl : i = j := Option.some.inj hj
    rw [setPeer_self] at hc
    cases hc
  | again _ _ hpc => rcases hpc with rfl | rfl <;> cases hj
  | _ => cases hj

theorem send {env : SendEnv} {op : SendOp} (h : CurrentUnnamed o p)
    (he : SendEffect env op p p') : CurrentUnnamed o p' := by
  have closed {i : Fin maxClients} {s : PeerSocket} (hs : s.fd = none) :
      CurrentUnnamed o (p.setPeer i s) := by
    intro j c hj hc
    by_cases hji : j = i
    · rw [hji, setPeer_self] at hc
      cases hs.symm.trans hc
    · rw [setPeer_ne _ _ _ hji] at hc ⊢
      exact h j c hj hc
  cases he with
  | quiet => exact h
  | sent => exact h
  | reset i => exact closed (s := (p.manager.sockets i).baseClose) rfl
  | closed i => exact closed (s := (p.manager.sockets i).toPeerSocket.close) rfl

end CurrentUnnamed

theorem currentUnnamed_step {addressToIp4 : List UInt8 → Bool} {s t : Outbound}
    {act : OutboundAct} (h : CurrentUnnamed s.opener s.side)
    (hfresh : OpensFresh addressToIp4 s act) (hs : s.step addressToIp4 act = some t) :
    CurrentUnnamed t.opener t.side := by
  cases Outbound.step_effect addressToIp4 hs with
  | openTask env _ he => exact h.openStep he hfresh
  | sendHandler k unset b _ ho hp => exact ho ▸ hp ▸ h
  | send k env o rest _ _ ho he => exact ho ▸ h.send he
  | stop _ ho hp =>
    rw [ho, hp]
    exact h
  | closeAll _ _ hp =>
    rw [hp]
    intro i c _ hc
    cases hc

end MeshNetwork.Node
