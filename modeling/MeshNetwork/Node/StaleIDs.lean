import MeshNetwork.Framework.Counting
import MeshNetwork.Node.Delivery
import MeshNetwork.Node.TaskParams

namespace MeshNetwork.Node

open Driver

/-- An ID stored on an accepted connection is the one that came on it; 0 says nothing. -/
def KnownClients (s : Inbound) : Prop :=
  ∀ i c, (s.manager.sockets i).fd = some c → (s.manager.sockets i).deviceID = 0 ∨
    .clientID c (some (s.manager.sockets i).deviceID) ∈ s.log

/-- open, which comes next, is called on slot `i`. -/
def Selects (env : AcceptEnv) (s : Inbound) (i : Fin maxClients) : Prop :=
  s.pc = .openClient ∧ env.activity = true ∧ s.manager.firstClosed = some i

instance (env : AcceptEnv) (s : Inbound) (i : Fin maxClients) : Decidable (Selects env s i) :=
  inferInstanceAs (Decidable (_ ∧ _))

/-- The slot that the client side is about to open stores no ID. -/
def OpensUnnamed (s : Outbound) : OutboundAct → Prop
  | .openTask _ => ∀ i, s.opener.pc = .openSocket i → (s.side.manager.sockets i).deviceID = 0
  | _ => True

/-- The slot that the server side is about to open stores no ID. -/
def AcceptsUnnamed (s : Inbound) : InboundAct → Prop :=
  OnAccept fun env => ∀ i, Selects env s i → (s.manager.sockets i).deviceID = 0

/-- The stored IDs of open sockets, in both pools, come from their present connections. -/
def FreshIDs (s : Outbound × Inbound) : Prop := Known s.1.side ∧ KnownClients s.2

def sentTo : SendOp → Option (Fin maxClients)
  | .send i _ _ => some i
  | _ => none

/-- No send meets a reset on a slot that stores an ID. -/
def ResetUnnamed (p : ClientSide) (env : SendEnv) (o : SendOp) : Prop :=
  ∀ i ∈ sentTo o, (p.manager.sockets i).isOpened = true → (env.send i).status = .disconnected →
    (p.manager.sockets i).deviceID = 0

/-- The condition on the client side: IDs come whole, and no base-class close drops one. -/
def DropsNoID (s : Outbound) : OutboundAct → Prop
  | .openTask env => WholeServerID env s.opener
  | .send k env => ∀ o ∈ (s.calls k).next, ResetUnnamed s.side env o
  | _ => True

/-- The ID message that is about to be accepted has all its bytes. -/
def WholeClientID (env : AcceptEnv) (s : Inbound) : Prop :=
  ∀ i ∈ recvsID s.pc, (s.manager.sockets i).isOpened = true →
    PeerSocket.Accepted 6 env.recv env.stack → 6 ≤ env.recv.bytes.length

/-- No sendSrvrID fails on an open slot that stores an ID. -/
def RefusesUnnamed (env : AcceptEnv) (s : Inbound) : Prop :=
  ∀ i ∈ sendsID s.pc, ((s.manager.sockets i).sendSrvrID s.deviceID env.send).1 ≠ .success →
    (s.manager.sockets i).isOpened = true → (s.manager.sockets i).deviceID = 0

/-- open is called on no slot that stores an ID and that a read task is between its recv and its
close on. -/
def NotClosing (env : AcceptEnv) (s : Inbound) : Prop :=
  ∀ i, Selects env s i → (s.manager.sockets i).deviceID ≠ 0 →
    ∀ r ∈ s.readers, r.pc = .close → r.index ≠ some i

/-- The condition on the server side. -/
def DropsNoClientID (s : Inbound) : InboundAct → Prop :=
  OnAccept fun env => WholeClientID env s ∧ RefusesUnnamed env s ∧ NotClosing env s

section decidable

instance (s : Outbound) : (act : OutboundAct) → Decidable (OpensUnnamed s act)
  | .openTask _ => inferInstanceAs (Decidable (∀ _ : Fin maxClients, _))
  | .sendHandler .. => .isTrue trivial
  | .send .. => .isTrue trivial
  | .stop => .isTrue trivial
  | .closeAll => .isTrue trivial

instance (s : Inbound) (act : InboundAct) : Decidable (AcceptsUnnamed s act) :=
  have (env : AcceptEnv) :
      Decidable (∀ i, Selects env s i → (s.manager.sockets i).deviceID = 0) :=
    inferInstanceAs (Decidable (∀ _ : Fin maxClients, _))
  inferInstanceAs (Decidable (OnAccept _ act))

instance (p : ClientSide) (env : SendEnv) (o : SendOp) : Decidable (ResetUnnamed p env o) :=
  inferInstanceAs (Decidable (∀ i ∈ sentTo o, _))

instance (s : Outbound) : (act : OutboundAct) → Decidable (DropsNoID s act)
  | .openTask env => inferInstanceAs (Decidable (WholeServerID env s.opener))
  | .sendHandler .. => .isTrue trivial
  | .send k env => inferInstanceAs (Decidable (∀ o ∈ (s.calls k).next, ResetUnnamed s.side env o))
  | .stop => .isTrue trivial
  | .closeAll => .isTrue trivial

instance (env : AcceptEnv) (s : Inbound) : Decidable (WholeClientID env s) :=
  inferInstanceAs (Decidable (∀ i ∈ recvsID s.pc, _))

instance (env : AcceptEnv) (s : Inbound) : Decidable (RefusesUnnamed env s) :=
  inferInstanceAs (Decidable (∀ i ∈ sendsID s.pc, _))

instance (env : AcceptEnv) (s : Inbound) : Decidable (NotClosing env s) :=
  inferInstanceAs (Decidable (∀ _ : Fin maxClients, _))

instance (s : Inbound) (act : InboundAct) : Decidable (DropsNoClientID s act) :=
  inferInstanceAs (Decidable (OnAccept _ act))

end decidable

/-- A slot that is closed, or that openTask is at work on, stores no ID. -/
def Unnamed (o : Opener) (p : ClientSide) : Prop :=
  ∀ i, (p.manager.sockets i).fd = none ∨ currentSlot o.pc = some i →
    (p.manager.sockets i).deviceID = 0

theorem unnamed_init (deviceID : UInt32) (adjM : Nat → UInt8) :
    Unnamed {} { deviceID := deviceID, adjM := adjM } := fun _ _ => rfl

namespace Unnamed

variable {o o' : Opener} {p p' : ClientSide}

theorem of_current (h : Unnamed o p)
    (hc : ∀ i, currentSlot o'.pc = some i → currentSlot o.pc = some i) : Unnamed o' p := by
  intro i hi
  exact h i (hi.imp_right (hc i))

/-- Exchanging one socket asks for the fact about this socket only. -/
theorem setPeer (h : Unnamed o p) (i : Fin maxClients) {s : PeerSocket}
    (hs : s.fd = none ∨ currentSlot o'.pc = some i → s.deviceID = 0)
    (hc : ∀ j, j ≠ i → currentSlot o'.pc = some j → currentSlot o.pc = some j) :
    Unnamed o' (p.setPeer i s) := by
  intro j hj
  by_cases hji : j = i
  · subst hji
    rw [setPeer_self] at hj ⊢
    exact hs hj
  · rw [setPeer_ne _ _ _ hji] at hj ⊢
    exact h j (hj.imp_right (hc j hji))

theorem setHost (h : Unnamed o p) (i : Fin maxClients) (hostname : List UInt8) (port : UInt16) :
    Unnamed o (p.setSocket i ((p.manager.sockets i).setHost hostname port)) := by
  intro j hj
  rw [setHost_peer] at hj ⊢
  exact h j hj

theorem openStep {addressToIp4 : List UInt8 → Bool} {env : OpenEnv} (h : Unnamed o p)
    (he : OpenEffect addressToIp4 env o p o' p') : Unnamed o' p' := by
  cases he with
  | entry _ _ pc _ hpc =>
    refine h.of_current ?_
    rcases hpc with rfl | rfl <;> simp [currentSlot]
  | slot i hpc hi =>
    intro j hj
    refine h j (.inl ?_)
    rcases hj with hj | hj
    · exact hj
    · obtain rfl : i = j := Option.some.inj hj
      simpa [PeerSocket.isOpened] using (TcpClientManager.getFreeSocketIndex_spec hi).1
  | setHost i hpc => exact (h.setHost i _ _).of_current fun j hj => by rw [hpc]; exact hj
  | opened i hpc =>
    have hcur : currentSlot o.pc = some i := by rw [hpc]; rfl
    have hset : Unnamed { o with pc := .sendClientID i }
        (p.setPeer i ⟨some p.nextConn, (p.manager.sockets i).deviceID⟩) := by
      apply h.setPeer i
      · intro _
        exact h i (.inr hcur)
      · intro j hj hj'
        exact absurd (Option.some.inj hj').symm hj
    exact hset
  | notOpened i hpc => exact h.of_current fun j hj => by rw [hpc]; exact hj
  | idSent i hpc => exact h.of_current fun j hj => by rw [hpc]; exact hj
  | idNotSent i hpc | idNotReceived i hpc =>
    have hcur : currentSlot o.pc = some i := by rw [hpc]; rfl
    exact h.setPeer i (fun _ => h i (.inr hcur)) fun j _ hj => by rw [hpc]; exact hj
  | idReceived i c =>
    have hset : Unnamed { o with pc := .loop }
        (p.setPeer i ⟨some c, PeerSocket.idIn (env.recv.bytes.take 24) env.stack⟩) := by
      refine h.setPeer i ?_ fun _ _ hj => by cases hj
      intro hclosed
      rcases hclosed with hnone | hcur
      · cases hnone
      · cases hcur
    exact hset
  | closed i =>
    exact h.setPeer i (s := (p.manager.sockets i).toPeerSocket.close) (fun _ => rfl)
      fun _ _ hj => by cases hj
  | again pc _ hpc =>
    refine h.of_current ?_
    rcases hpc with rfl | rfl <;> simp [currentSlot]
  | closedAll => exact fun _ _ => rfl
  | _ => exact h.of_current (by simp [currentSlot])

theorem send {env : SendEnv} {op : SendOp} (h : Unnamed o p) (hreset : ResetUnnamed p env op)
    (he : SendEffect env op p p') : Unnamed o p' := by
  cases he with
  | quiet => exact h
  | sent => exact h
  | reset i frame dest _ ho hopen hd =>
    have hzero := hreset i (by rw [ho]; rfl) hopen hd
    have hset : Unnamed o (p.setPeer i (p.manager.sockets i).baseClose) :=
      h.setPeer i (fun _ => hzero) fun _ _ hj => hj
    exact hset
  | closed i =>
    exact h.setPeer i (s := (p.manager.sockets i).toPeerSocket.close) (fun _ => rfl)
      fun _ _ hj => hj

end Unnamed

/-- The client side keeps its IDs fresh. -/
theorem fresh_step (addressToIp4 : List UInt8 → Bool) (s : Outbound) (act : OutboundAct)
    (t : Outbound) (h : Known s.side ∧ Unnamed s.opener s.side) (hg : DropsNoID s act)
    (hs : s.step addressToIp4 act = some t) : Known t.side ∧ Unnamed t.opener t.side := by
  obtain ⟨hknown, hunnamed⟩ := h
  cases Outbound.step_effect addressToIp4 hs with
  | openTask env _ he =>
    refine ⟨fun j => (hknown j).openStep he ?_ hg, hunnamed.openStep he⟩
    intro i hopens
    exact hunnamed i (.inr (by rw [hopens.1]; rfl))
  | sendHandler k unset b _ ho hp => exact ⟨hp ▸ hknown, ho ▸ hp ▸ hunnamed⟩
  | send k env o c hk _ ho he =>
    have hreset : ResetUnnamed s.side env o := hg o (by rw [hk]; rfl)
    exact ⟨fun j => (hknown j).send he, ho ▸ hunnamed.send hreset he⟩
  | stop _ ho hp => exact ⟨hp ▸ hknown, hp ▸ ho ▸ hunnamed⟩
  | closeAll _ ho hp => exact ⟨hp ▸ KnownAt.closeAll s.side, hp ▸ fun _ _ => rfl⟩

/-- A read task is about to close slot `j`. -/
def Closing (s : Inbound) (j : Fin maxClients) : Prop :=
  ∃ r ∈ s.readers, r.pc = .close ∧ r.index = some j

/-- Before its handshake a slot stores no ID, and none when it is closed, unless a read task is
about to close it for good. -/
structure ClientIDsInv (s : Inbound) : Prop where
  known : KnownClients s
  greeting : ∀ i ∈ recvsID s.pc, (s.manager.sockets i).deviceID = 0
  unnamed : ∀ j, (s.manager.sockets j).fd = none → (s.manager.sockets j).deviceID = 0 ∨ Closing s j

theorem clientIDsInv_init (deviceID : UInt32) (idProtocol : Bool) :
    ClientIDsInv { deviceID := deviceID, idProtocol := idProtocol } where
  known _ _ hc := by cases hc
  greeting _ hi := by cases hi
  unnamed _ _ := .inl rfl

theorem Idle.recvsID {pc : AcceptPc} (h : Idle pc) : recvsID pc = none := by
  cases pc with
  | recvClientID => cases h.1
  | _ => rfl

namespace ClientIDsInv

variable {s t : Inbound}

/-- The sockets stay as they are. -/
theorem same (h : ClientIDsInv s) (hm : t.manager = s.manager) (hlog : ∀ e ∈ s.log, e ∈ t.log)
    (hpc : ∀ i ∈ recvsID t.pc, i ∈ recvsID s.pc) (hclosing : ∀ j, Closing s j → Closing t j) :
    ClientIDsInv t := by
  refine ⟨?_, ?_, ?_⟩
  · intro i c hc
    rw [hm] at hc ⊢
    exact (h.known i c hc).imp_right (hlog _)
  · intro i hi
    rw [hm]
    exact h.greeting i (hpc i hi)
  · intro j hj
    rw [hm] at hj ⊢
    exact (h.unnamed j hj).imp_right (hclosing j)

/-- One socket is exchanged, and nothing has to be said about the others. -/
theorem exchange (h : ClientIDsInv s) (i : Fin maxClients)
    (hne : ∀ j, j ≠ i → t.manager.sockets j = s.manager.sockets j)
    (hlog : ∀ e ∈ s.log, e ∈ t.log) (hclosing : ∀ j, j ≠ i → Closing s j → Closing t j)
    (hknown : ∀ c, (t.manager.sockets i).fd = some c → (t.manager.sockets i).deviceID = 0 ∨
      .clientID c (some (t.manager.sockets i).deviceID) ∈ t.log)
    (hgreeting : ∀ j ∈ recvsID t.pc,
      j = i ∧ (t.manager.sockets i).deviceID = 0 ∨ j ≠ i ∧ j ∈ recvsID s.pc)
    (hunnamed : (t.manager.sockets i).fd = none →
      (t.manager.sockets i).deviceID = 0 ∨ Closing t i) : ClientIDsInv t := by
  refine ⟨?_, ?_, ?_⟩
  · intro j c hc
    by_cases hj : j = i
    · rw [hj] at hc ⊢
      exact hknown c hc
    · rw [hne j hj] at hc ⊢
      exact (h.known j c hc).imp_right (hlog _)
  · intro j hj
    rcases hgreeting j hj with ⟨rfl, hzero⟩ | ⟨hji, hj⟩
    · exact hzero
    · rw [hne j hji]
      exact h.greeting j hj
  · intro j hj
    by_cases hji : j = i
    · rw [hji] at hj ⊢
      exact hunnamed hj
    · rw [hne j hji] at hj ⊢
      exact (h.unnamed j hj).imp_right (hclosing j hji)

/-- One socket is closed, and keeps no ID unless a read task is about to close it again. -/
theorem closing (h : ClientIDsInv s) (i : Fin maxClients)
    (hne : ∀ j, j ≠ i → t.manager.sockets j = s.manager.sockets j)
    (hnone : (t.manager.sockets i).fd = none)
    (hkeep : (t.manager.sockets i).deviceID = (s.manager.sockets i).deviceID ∨
      (t.manager.sockets i).deviceID = 0)
    (hleft : (t.manager.sockets i).deviceID = 0 ∨ Closing t i) (hlog : t.log = s.log)
    (hpc : ∀ j ∈ recvsID t.pc, j ∈ recvsID s.pc)
    (hclosing : ∀ j, j ≠ i → Closing s j → Closing t j) : ClientIDsInv t := by
  refine h.exchange i hne (fun _ he => hlog ▸ he) hclosing ?_ ?_ fun _ => hleft
  · intro c hc
    cases hnone.symm.trans hc
  · intro j hj
    by_cases hji : j = i
    · subst hji
      have hzero := h.greeting j (hpc j hj)
      refine .inl ⟨rfl, ?_⟩
      rcases hkeep with hkeep | hkeep
      · rw [hkeep, hzero]
      · exact hkeep
    · exact .inr ⟨hji, hpc j hj⟩

/-- The slot that open is called on stores no ID. -/
theorem selects (h : ClientIDsInv s) {env : AcceptEnv} (hg : NotClosing env s) {i : Fin maxClients}
    (hsel : Selects env s i) : (s.manager.sockets i).deviceID = 0 := by
  have hclosed := MultiTcpServerManager.firstClosed_closed hsel.2.2
  rcases h.unnamed i hclosed with hzero | ⟨r, hr, hpc, hindex⟩
  · exact hzero
  · by_contra hzero
    exact hg i hsel hzero r hr hpc hindex

theorem acceptStep {env : AcceptEnv} (h : ClientIDsInv s) (hwhole : WholeClientID env s)
    (hrefuse : RefusesUnnamed env s) (hnot : NotClosing env s)
    (hs : s.acceptStep env = some t) : ClientIDsInv t := by
  have hlog {e : ServerEvent} : ∀ e' ∈ s.log, e' ∈ e :: s.log := fun _ => List.mem_cons_of_mem e
  cases acceptStep_effect hs with
  | idle pc _ _ _ _ hto =>
    refine h.same rfl (fun _ he => he) ?_ fun _ hj => hj
    intro i hi
    rw [hto.recvsID] at hi
    cases hi
  | accepted i pc htake hpc =>
    have hzero := h.selects hnot ⟨htake.1, htake.2.1, htake.2.2.2⟩
    refine h.exchange i (fun j hj => MultiTcpServerManager.setPeer_ne _ _ _ hj) (fun _ he => he)
      (fun _ _ hj => hj) ?_ ?_ ?_
    · intro c _
      rw [MultiTcpServerManager.setPeer_self]
      exact .inl hzero
    · intro j hj
      rw [MultiTcpServerManager.setPeer_self]
      rcases hpc with rfl | rfl
      · exact .inl ⟨(Option.some.inj hj).symm, hzero⟩
      · cases hj
    · intro hnone
      rw [MultiTcpServerManager.setPeer_self] at hnone
      cases hnone
  | idReceived i c d hpc hfd ha =>
    have hopen : (s.manager.sockets i).isOpened = true :=
      (PeerSocket.isOpened_iff _).mpr ⟨d, hfd⟩
    have hlen : 6 ≤ (env.recv.bytes.take 6).length := by
      rw [List.length_take]
      have hw := hwhole i (by rw [hpc]; rfl) hopen ha
      omega
    refine h.exchange i (fun j hj => MultiTcpServerManager.setPeer_ne _ _ _ hj) hlog
      (fun _ _ hj => hj) ?_ (by simp [recvsID]) ?_
    · intro e he
      rw [MultiTcpServerManager.setPeer_self] at he ⊢
      obtain rfl := Option.some.inj he
      rw [PeerSocket.announced_idIn hlen env.stack]
      exact .inr List.mem_cons_self
    · intro hnone
      rw [MultiTcpServerManager.setPeer_self] at hnone
      cases hnone
  | idNotReceived i c hpc =>
    have hzero := h.greeting i (by rw [hpc]; rfl)
    refine h.closing i (fun j hj => MultiTcpServerManager.setPeer_ne _ _ _ hj) ?_ ?_ ?_ rfl
      (by simp [recvsID]) fun _ _ hj => hj
    all_goals rw [MultiTcpServerManager.setPeer_self]
    · rfl
    · exact .inr hzero
    · exact .inl hzero
  | refused i hpc =>
    refine h.closing i (fun j hj => MultiTcpServerManager.close_ne _ _ hj) ?_ ?_ ?_ rfl
      (by simp [recvsID]) fun _ _ hj => hj
    all_goals rw [MultiTcpServerManager.close_self]
    · rfl
    · exact .inr rfl
    · exact .inl rfl
  | idNotSent i c hpc hfail =>
    refine h.closing i (fun j hj => MultiTcpServerManager.setPeer_ne _ _ _ hj) ?_ ?_ ?_ rfl
      (by simp [recvsID]) fun _ _ hj => hj
    all_goals rw [MultiTcpServerManager.setPeer_self]
    · rfl
    · exact .inl rfl
    · by_cases hopen : (s.manager.sockets i).isOpened = true
      · exact .inl (hrefuse i (by rw [hpc]; rfl) hfail hopen)
      · have hclosed : (s.manager.sockets i).fd = none := by
          simpa [PeerSocket.isOpened] using hopen
        exact h.unnamed i hclosed
  | unserved i c _ _ => exact h.same rfl hlog (by simp [recvsID]) fun _ hj => hj
  | served i c k _ _ _ => exact h.same rfl hlog (by simp [recvsID]) fun _ hj => hj
  | started i c k _ =>
    refine h.same rfl (fun _ he => he) (by simp [recvsID]) ?_
    intro j hcloses
    obtain ⟨r, hr, hrun⟩ := hcloses
    exact ⟨r, List.mem_append_left _ hr, hrun⟩
  | returned _ => exact ⟨fun _ _ hc => (by cases hc), by simp [recvsID], fun _ _ => .inl rfl⟩
  | _ => exact h.same rfl (fun _ he => he) (by simp [recvsID]) fun _ hj => hj

/-- A read task at another statement, or at another slot, leaves the closes to come alone. -/
theorem closing_set {n : Nat} {r r' : Reader} {j : Fin maxClients}
    (hreaders : t.readers = s.readers.set n r') (hr : s.readers[n]? = some r)
    (hnot : r.pc ≠ .close ∨ r.index ≠ some j) (h : Closing s j) : Closing t j := by
  obtain ⟨q, hq, hpc, hindex⟩ := h
  refine ⟨q, ?_, hpc, hindex⟩
  rw [hreaders]
  refine mem_set_of_ne hq hr ?_
  intro hqr
  subst hqr
  rcases hnot with hnot | hnot
  · exact hnot hpc
  · exact hnot hindex

theorem readStep {env : ReadEnv} {n : Nat} (h : ClientIDsInv s) (hs : s.readStep env n = some t) :
    ClientIDsInv t := by
  cases readStep_effect hs with
  | copied r hr hpc =>
    exact h.same rfl (fun _ he => he) (fun _ hi => hi) fun _ hj =>
      closing_set rfl hr (.inl (by simp [hpc])) hj
  | moved r r' i hr hi hpc _ =>
    exact h.same rfl (fun _ he => he) (fun _ hi => hi) fun _ hj =>
      closing_set rfl hr (.inl hpc.1) hj
  | disconnected r r' i hr hi hpc _ hsame hpc' =>
    have hnow : r'.index = some i := hsame.index.trans hi
    refine h.closing i (fun j hj => MultiTcpServerManager.setPeer_ne _ _ _ hj) ?_ ?_ ?_ rfl
      (fun _ hj => hj) fun j _ hj => closing_set rfl hr (.inl (by simp [hpc])) hj
    all_goals rw [MultiTcpServerManager.setPeer_self]
    · rfl
    · exact .inl rfl
    · exact .inr ⟨r', mem_set_self hr, hpc', hnow⟩
  | closed r r' i hr hi hpc _ =>
    refine h.closing i (fun j hj => MultiTcpServerManager.setPeer_ne _ _ _ hj) ?_ ?_ ?_ rfl
      (fun _ hj => hj) fun j hji hj => closing_set rfl hr (.inr ?_) hj
    · rw [MultiTcpServerManager.setPeer_self]
      rfl
    · rw [MultiTcpServerManager.setPeer_self]
      exact .inr rfl
    · rw [MultiTcpServerManager.setPeer_self]
      exact .inl rfl
    · rw [hi]
      intro heq
      exact hji (Option.some.inj heq).symm
  | finished r i hr hi hpc =>
    refine h.closing i (fun j hj => MultiTcpServerManager.close_ne _ _ hj) ?_ ?_ ?_ rfl
      (fun _ hj => hj) fun j _ hj => closing_set rfl hr (.inl (by simp [hpc])) hj
    all_goals rw [MultiTcpServerManager.close_self]
    · rfl
    · exact .inr rfl
    · exact .inl rfl

end ClientIDsInv

/-- The server side keeps its IDs fresh. -/
theorem fresh_clients_step (s : Inbound) (act : InboundAct) (t : Inbound) (h : ClientIDsInv s)
    (hg : DropsNoClientID s act) (hs : s.step act = some t) : ClientIDsInv t := by
  cases act with
  | acceptTask env => exact h.acceptStep hg.1 hg.2.1 hg.2.2 hs
  | readTask n env => exact h.readStep hs
  | stop =>
    obtain rfl := Option.some.inj hs
    exact ⟨h.known, h.greeting, h.unnamed⟩
  | closeAll =>
    obtain rfl := Option.some.inj hs
    exact ⟨fun _ _ hc => (by cases hc), fun _ _ => rfl, fun _ _ => .inl rfl⟩
  | shutdown =>
    obtain rfl := Option.some.inj hs
    exact ⟨fun _ _ hc => (by cases hc), fun _ _ => rfl, fun _ _ => .inl rfl⟩

/-- Stored peer IDs are never stale: in both pools every open finds ID 0 in its slot, and the ID of
an open socket came on its connection, in every interleaving in which IDs arrive whole and no
base-class close leaves one behind for the next open. -/
theorem ids_never_stale (addressToIp4 : List UInt8 → Bool) (deviceID : UInt32)
    (adjM : Nat → UInt8) (idProtocol : Bool) (acts : List (OutboundAct ⊕ InboundAct))
    (t : Outbound × Inbound)
    (hrun : run (sumStep (Outbound.step addressToIp4) Inbound.step)
      (.init deviceID adjM idProtocol, { deviceID := deviceID, idProtocol := idProtocol }) acts =
        some t)
    (hkept : AllSteps (sumStep (Outbound.step addressToIp4) Inbound.step)
      (SumGuard DropsNoID DropsNoClientID)
      (.init deviceID adjM idProtocol, { deviceID := deviceID, idProtocol := idProtocol }) acts) :
    AllSteps (sumStep (Outbound.step addressToIp4) Inbound.step)
        (SumGuard OpensUnnamed AcceptsUnnamed)
        (.init deviceID adjM idProtocol, { deviceID := deviceID, idProtocol := idProtocol }) acts ∧
      FreshIDs t := by
  have hinit : (Known (Outbound.init deviceID adjM idProtocol).side ∧
      Unnamed (Outbound.init deviceID adjM idProtocol).opener
        (Outbound.init deviceID adjM idProtocol).side) ∧
      ClientIDsInv { deviceID := deviceID, idProtocol := idProtocol } :=
    ⟨⟨knownAt_init deviceID adjM, unnamed_init deviceID adjM⟩,
      clientIDsInv_init deviceID idProtocol⟩
  have hstep := sum_step (fresh_step addressToIp4) fresh_clients_step
  constructor
  · refine allSteps_of_invariant hstep ?_ hinit hkept
    intro s act hinv hg
    obtain ⟨⟨-, hunnamed⟩, hclients⟩ := hinv
    cases act with
    | inl act =>
      cases act with
      | openTask env =>
        intro i hpc
        have hcur : currentSlot s.1.opener.pc = some i := by
          rw [hpc]
          rfl
        exact hunnamed i (.inr hcur)
      | _ => trivial
    | inr act =>
      cases act with
      | acceptTask env =>
        intro i hsel
        exact hclients.selects hg.2.2 hsel
      | _ => trivial
  · obtain ⟨⟨hknown, -⟩, hclients⟩ := run_invariant hstep hinit hkept hrun
    exact ⟨hknown, hclients.known⟩

/-- A connection on the client side; on the server side a client goes, and the next one gets the
slot after the close of its task. -/
theorem ids_never_stale_next :
    let step := sumStep (Outbound.step fun _ => true) Inbound.step
    let acts := (connect 0x31 0x20202021).map Sum.inl ++ (newClient 0x20202022 ++
      reads 0 5 { status := .disconnected } ++ (newClient 0x20202023).take 3).map Sum.inr
    let init := (Outbound.init baseID (initAdjacencyMatrix fun _ => 0) true,
      ({ deviceID := baseID } : Inbound))
    AllSteps step (SumGuard OpensUnnamed AcceptsUnnamed) init acts ∧
      FreshIDs ((run step init acts).get (by rfl)) :=
  ids_never_stale (fun _ => true) baseID (initAdjacencyMatrix fun _ => 0) true _ _
    (Option.some_get _).symm (by decide)

/-- sendSrvrID fails for a client that has given its ID: the base-class close leaves the ID in the
slot, and the next open finds it there. -/
theorem ids_never_stale_fails : ¬∀ (addressToIp4 : List UInt8 → Bool) (deviceID : UInt32)
    (adjM : Nat → UInt8) (idProtocol : Bool) (acts : List (OutboundAct ⊕ InboundAct))
    (t : Outbound × Inbound),
    run (sumStep (Outbound.step addressToIp4) Inbound.step)
      (.init deviceID adjM idProtocol, { deviceID := deviceID, idProtocol := idProtocol }) acts =
        some t →
    AllSteps (sumStep (Outbound.step addressToIp4) Inbound.step)
        (SumGuard OpensUnnamed AcceptsUnnamed)
        (.init deviceID adjM idProtocol, { deviceID := deviceID, idProtocol := idProtocol }) acts ∧
      FreshIDs t := fun h =>
  absurd (h (fun _ => true) baseID (initAdjacencyMatrix fun _ => 0) true
    (List.replicate 7 (.inr (.acceptTask
      { recv := { status := .success, bytes := idEntry 0x20202021, size := 6 },
        send := { status := .sendError } }))) _ (Option.some_get (by rfl)).symm).1 (by decide)

end MeshNetwork.Node
