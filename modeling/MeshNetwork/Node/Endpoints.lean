import MeshNetwork.Node.Outbound

namespace MeshNetwork.Node

open Driver

/-- The statements between the check of an entry and the open for it. -/
def Pending : OpenPc → Prop
  | .free => True
  | .setHost _ => True
  | .openSocket _ => True
  | _ => False

/-- The slot is open for this endpoint. -/
def OpenFor (p : ClientSide) (i : Fin maxClients) (hostname : List UInt8) (port : UInt16) : Prop :=
  (p.manager.sockets i).isOpened = true ∧ (p.manager.sockets i).hostname = hostname ∧
    (p.manager.sockets i).port = port

/-- What openTask keeps true of the pool, whatever closes sockets meanwhile: the entry it has
checked stays unconnected until it opens the socket itself. -/
structure EndpointInv (o : Opener) (p : ClientSide) : Prop where
  distinct : ∀ i j hostname port, OpenFor p i hostname port → OpenFor p j hostname port → i = j
  dotted : ∀ i hostname port, OpenFor p i hostname port → 7 ≤ hostname.length
  unclaimed : Pending o.pc → ∀ i, ¬OpenFor p i (cString o.hostname_s) o.port16
  slotClosed : ∀ i, o.pc = .setHost i ∨ o.pc = .openSocket i →
    (p.manager.sockets i).isOpened = false
  configured : ∀ i, o.pc = .openSocket i →
    (p.manager.sockets i).hostname = cString o.hostname_s ∧
      (p.manager.sockets i).port = o.port16

theorem endpointInv_init (deviceID : UInt32) (adjM : Nat → UInt8) :
    EndpointInv {} { deviceID := deviceID, adjM := adjM } where
  distinct _ _ _ _ h := absurd h.1 (by simp [PeerSocket.isOpened])
  dotted _ _ _ h := absurd h.1 (by simp [PeerSocket.isOpened])
  unclaimed h := h.elim
  slotClosed _ _ := rfl
  configured _ h := by cases h

/-- The window of compareHost is long enough for a dotted address: an open socket for the very
endpoint is recognised, stale bytes behind the terminator or not. -/
theorem compareHost_of_eq {s : MultiTcpClientSocket} {array : List UInt8} {port : UInt16}
    (hlen : 7 ≤ s.hostname.length) (hs : s.hostname = cString array) (hp : s.port = port) :
    s.compareHost array port = true := by
  rw [hs] at hlen
  simp only [MultiTcpClientSocket.compareHost, hs, hp, Bool.and_eq_true, List.all_eq_true,
    List.mem_range, beq_iff_eq, and_true]
  intro i hi
  apply getD_cString
  rw [MultiTcpClientSocket.sizeofPointer] at hi
  omega

theorem unclaimed_of_check {o : Opener} {p : ClientSide} (h : EndpointInv o p)
    (hc : p.manager.checkIfAlreadyConnectedHost o.hostname_s o.port16 = false)
    (i : Fin maxClients) : ¬OpenFor p i (cString o.hostname_s) o.port16 := by
  intro hopen
  obtain ⟨ho, hh, hp⟩ := hopen
  have hlen := h.dotted i _ _ ⟨ho, hh, hp⟩
  have hcmp := compareHost_of_eq (hh ▸ hlen) hh hp
  simp only [TcpClientManager.checkIfAlreadyConnectedHost, List.any_eq_false] at hc
  exact hc i (List.mem_finRange i) (by rw [ho, hcmp]; rfl)

namespace EndpointInv

/-- Nothing is lost while no socket is opened and none gets another host. -/
theorem mono {o : Opener} {p p' : ClientSide} (h : EndpointInv o p)
    (hhost : ∀ i, (p'.manager.sockets i).hostname = (p.manager.sockets i).hostname ∧
      (p'.manager.sockets i).port = (p.manager.sockets i).port)
    (hopen : ∀ i, (p'.manager.sockets i).isOpened = true → (p.manager.sockets i).isOpened = true) :
    EndpointInv o p' := by
  have back {i hostname port} (ho : OpenFor p' i hostname port) : OpenFor p i hostname port := by
    rw [OpenFor, (hhost i).1, (hhost i).2] at ho
    exact ⟨hopen i ho.1, ho.2⟩
  refine ⟨?_, ?_, ?_, ?_, ?_⟩
  · intro i j _ _ hi hj
    exact h.distinct i j _ _ (back hi) (back hj)
  · intro i _ _ hi
    exact h.dotted i _ _ (back hi)
  · intro hp i hi
    exact h.unclaimed hp i (back hi)
  · intro i hi
    have hclosed := h.slotClosed i hi
    apply Bool.eq_false_iff.mpr
    intro ho
    have hold := hopen i ho
    rw [hclosed] at hold
    cases hold
  · intro i hi
    rw [(hhost i).1, (hhost i).2]
    exact h.configured i hi

/-- Away from the pending statements only the pool counts. -/
theorem elsewhere {o o' : Opener} {p : ClientSide} (h : EndpointInv o p)
    (hpc : ¬Pending o'.pc) : EndpointInv o' p where
  distinct := h.distinct
  dotted := h.dotted
  unclaimed hp := absurd hp hpc
  slotClosed i hi := by
    rcases hi with hi | hi <;> exact absurd (hi ▸ trivial : Pending o'.pc) hpc
  configured i hi := absurd (hi ▸ trivial : Pending o'.pc) hpc

theorem setPeer {o : Opener} {p : ClientSide} (h : EndpointInv o p) (i : Fin maxClients)
    {s : PeerSocket} (hs : s.isOpened = true → (p.manager.sockets i).isOpened = true) :
    EndpointInv o (p.setPeer i s) := by
  apply h.mono
  · intro j
    by_cases hij : j = i
    · simp [hij]
    · simp [hij]
  · intro j hj
    by_cases hij : j = i
    · subst hij
      rw [setPeer_self] at hj
      exact hs hj
    · rwa [setPeer_ne _ _ _ hij] at hj

theorem baseClose {o : Opener} {p : ClientSide} (h : EndpointInv o p) (i : Fin maxClients) :
    EndpointInv o (p.setPeer i (p.manager.sockets i).baseClose) :=
  h.setPeer i fun hf => by cases hf

theorem close {o : Opener} {p : ClientSide} (h : EndpointInv o p) (i : Fin maxClients) :
    EndpointInv o { p with manager := p.manager.close i } :=
  h.setPeer i (s := (p.manager.sockets i).toPeerSocket.close) fun hf => by cases hf

theorem closeAll {o : Opener} {p : ClientSide} (h : EndpointInv o p) :
    EndpointInv o p.closeAll :=
  h.mono (fun _ => ⟨rfl, rfl⟩) fun _ hf => by cases hf

theorem log {o : Opener} {p : ClientSide} (h : EndpointInv o p) (l : List ClientEvent) :
    EndpointInv o { p with log := l } := h.mono (fun _ => ⟨rfl, rfl⟩) fun _ => id

theorem openStep {addressToIp4 : List UInt8 → Bool}
    (haddr : ∀ hostname, addressToIp4 hostname = true → 7 ≤ hostname.length) {env : OpenEnv}
    {o o' : Opener} {p p' : ClientSide} (h : EndpointInv o p)
    (he : OpenEffect addressToIp4 env o p o' p') : EndpointInv o' p' := by
  cases he with
  | entry hostname_s port pc _ hpc =>
    refine h.elsewhere ?_
    rcases hpc with rfl | rfl <;> exact id
  | known => exact h.elsewhere id
  | unknown _ hc =>
    exact ⟨h.distinct, h.dotted, fun _ => unclaimed_of_check (o := o) h hc, by simp, by simp⟩
  | full => exact h.elsewhere id
  | slot i hpc hi =>
    have hfree := h.unclaimed (hpc ▸ trivial)
    refine ⟨h.distinct, h.dotted, fun _ => hfree, ?_, by simp⟩
    intro j hj
    obtain rfl : i = j := by simpa using hj
    exact (TcpClientManager.getFreeSocketIndex_spec hi).1
  | setHost i hpc =>
    have hclosed := h.slotClosed i (.inl hpc)
    have hfree := h.unclaimed (hpc ▸ trivial)
    have hself : (p.setSocket i ((p.manager.sockets i).setHost (cString o.hostname_s)
        o.port16)).manager.sockets i = (p.manager.sockets i).setHost (cString o.hostname_s)
        o.port16 := TcpClientManager.set_self ..
    have back {j hostname port} (hj : OpenFor (p.setSocket i ((p.manager.sockets i).setHost
        (cString o.hostname_s) o.port16)) j hostname port) : OpenFor p j hostname port := by
      by_cases hij : j = i
      · rw [hij, OpenFor, hself] at hj
        exact absurd (hclosed.symm.trans hj.1) (by simp)
      · rwa [OpenFor, ClientSide.setSocket, TcpClientManager.set_ne _ _ hij] at hj
    refine ⟨?_, ?_, ?_, ?_, ?_⟩
    · intro j k _ _ hj hk
      exact h.distinct j k _ _ (back hj) (back hk)
    · intro j _ _ hj
      exact h.dotted j _ _ (back hj)
    · intro _ j hj
      exact hfree j (back hj)
    · intro j hj
      obtain rfl : i = j := by simpa using hj
      rw [hself]
      exact hclosed
    · intro j hj
      obtain rfl : i = j := by simpa using hj
      rw [hself]
      exact ⟨rfl, rfl⟩
  | opened i hpc hclosed ha hs =>
    obtain ⟨hh, hp⟩ := h.configured i hpc
    have hfree := h.unclaimed (hpc ▸ trivial)
    -- an open slot is the new one, for the configured endpoint, or an old one
    have back {j hostname port} (hj : OpenFor (p.setPeer i ⟨some p.nextConn,
        (p.manager.sockets i).deviceID⟩) j hostname port) :
        j = i ∧ hostname = cString o.hostname_s ∧ port = o.port16 ∨
          j ≠ i ∧ OpenFor p j hostname port := by
      by_cases hij : j = i
      · rw [hij, OpenFor, setPeer_self] at hj
        exact .inl ⟨hij, hj.2.1.symm.trans hh, hj.2.2.symm.trans hp⟩
      · rw [OpenFor, setPeer_ne _ _ _ hij] at hj
        exact .inr ⟨hij, hj⟩
    refine ⟨?_, ?_, False.elim, by simp, by simp⟩
    · intro j k _ _ hj hk
      rcases back hj, back hk with ⟨⟨hji, rfl, rfl⟩ | ⟨-, hj⟩, ⟨hki, hk1, hk2⟩ | ⟨-, hk⟩⟩
      · rw [hji, hki]
      · exact absurd hk (hfree k)
      · exact absurd (hk1 ▸ hk2 ▸ hj) (hfree j)
      · exact h.distinct j k _ _ hj hk
    · intro j _ _ hj
      rcases back hj with ⟨-, rfl, -⟩ | ⟨-, hj⟩
      · have hlen := haddr _ ha
        rwa [hh] at hlen
      · exact h.dotted j _ _ hj
  | notOpened => exact h.elsewhere id
  | idSent => exact h.elsewhere id
  | idNotSent i => exact (h.baseClose i).elsewhere id
  | idReceived i c hpc hopen ha =>
    have hold : (p.manager.sockets i).isOpened = true :=
      (PeerSocket.isOpened_iff _).mpr ⟨c, hopen⟩
    exact ((h.setPeer i fun _ => hold).log _).elsewhere id
  | idNotReceived i => exact (h.baseClose i).elsewhere id
  | closed i => exact (h.close i).elsewhere id
  | again pc _ hpc =>
    refine h.elsewhere ?_
    rcases hpc with rfl | rfl <;> exact id
  | closedAll => exact h.closeAll.elsewhere id

theorem send {env : SendEnv} {op : SendOp} {o : Opener} {p p' : ClientSide}
    (h : EndpointInv o p) (he : SendEffect env op p p') : EndpointInv o p' := by
  cases he with
  | quiet => exact h.mono (fun _ => ⟨rfl, rfl⟩) fun _ => id
  | sent => exact h.log _
  | reset i => exact (h.baseClose i).log _
  | closed i => exact h.close i

theorem step {addressToIp4 : List UInt8 → Bool}
    (haddr : ∀ hostname, addressToIp4 hostname = true → 7 ≤ hostname.length) {s t : Outbound}
    {act : OutboundAct} (h : EndpointInv s.opener s.side)
    (hs : s.step addressToIp4 act = some t) : EndpointInv t.opener t.side := by
  cases Outbound.step_effect addressToIp4 hs with
  | openTask env _ he => exact h.openStep haddr he
  | sendHandler k unset b _ ho hp => rwa [ho, hp]
  | send k env op c _ _ ho he => exact ho ▸ h.send he
  | stop _ ho hp =>
    rw [ho, hp]
    exact ⟨h.distinct, h.dotted, h.unclaimed, h.slotClosed, h.configured⟩
  | closeAll _ ho hp =>
    rw [ho, hp]
    exact h.closeAll

end EndpointInv

/-- No two open sockets for one endpoint, and the statement that comes next neither configures nor
opens an open socket. -/
def OneSocketPerEndpoint (s : Outbound) : Prop :=
  (∀ i j hostname port, OpenFor s.side i hostname port → OpenFor s.side j hostname port → i = j) ∧
    (∀ i, s.opener.pc = .setHost i → (s.side.manager.sockets i).isOpened = false) ∧
    ∀ i, s.opener.pc = .openSocket i → (s.side.manager.sockets i).isOpened = false

/-- One live client socket per endpoint, in every state that openTask, the senders and closeAll
can reach together, if an address has at least seven characters. -/
theorem one_socket_per_endpoint (addressToIp4 : List UInt8 → Bool)
    (haddr : ∀ hostname, addressToIp4 hostname = true → 7 ≤ hostname.length)
    (deviceID : UInt32) (adjM : Nat → UInt8) (idProtocol : Bool) (acts : List OutboundAct)
    (t : Outbound) (hrun : run (Outbound.step addressToIp4) (.init deviceID adjM idProtocol) acts =
      some t) : OneSocketPerEndpoint t := by
  have h : EndpointInv t.opener t.side :=
    run_invariant_all (I := fun s : Outbound => EndpointInv s.opener s.side)
      (fun _ _ _ hi hs => hi.step haddr hs) (endpointInv_init deviceID adjM) hrun
  refine ⟨h.distinct, ?_, ?_⟩
  · intro i hi
    exact h.slotClosed i (.inl hi)
  · intro i hi
    exact h.slotClosed i (.inr hi)

/-- 10.0.0.1:80 is in the hostfile, and the socket for it has been opened. -/
theorem one_socket_per_endpoint_opened : OneSocketPerEndpoint
    ((run (Outbound.step (· == [0x31, 0x30, 0x2E, 0x30, 0x2E, 0x30, 0x2E, 0x31]))
      (.init baseID (initAdjacencyMatrix fun _ => 0) true)
      ((connect 0x31 0x20202021).take 5)).get (by rfl)) :=
  one_socket_per_endpoint (· == [0x31, 0x30, 0x2E, 0x30, 0x2E, 0x30, 0x2E, 0x31])
    (fun _ h => by rw [beq_iff_eq.mp h]; decide) baseID (initAdjacencyMatrix fun _ => 0) true _ _
    (Option.some_get _).symm

end MeshNetwork.Node
