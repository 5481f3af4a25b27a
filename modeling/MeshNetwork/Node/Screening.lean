import MeshNetwork.Node.Misdelivery
import MeshNetwork.Node.SendsOnce

namespace MeshNetwork.Node

open Driver

/-- The mask does not allow the node `ID`. -/
def Refuses (ID : UInt32) (o : SendOp) (x : o.Ans) : Prop :=
  Answers o x ∧ match o, x with
    | .checkAdjacencyMatrix _ receiverID, x => receiverID = ID → x ≠ some true
    | _, _ => True

/-- The mask does not allow the node `ID`, and slot `i` stores this ID. -/
def RefusesAt (ID : UInt32) (i : Fin maxClients) (o : SendOp) (x : o.Ans) : Prop :=
  Refuses ID o x ∧ match o, x with
    | .getServerDeviceID j, x => j = i → x = ID
    | _, _ => True

/-- The operation sends nothing to the node `ID`. -/
def NotFor (ID : UInt32) (o : SendOp) : Prop := ∀ i frame, o ≠ .send i frame ID

/-- The operation sends nothing that is for all to slot `i`. -/
def NotAt (i : Fin maxClients) (o : SendOp) : Prop := ∀ frame, o ≠ .send i frame broadcastID

/-- A call that comes to this operation next has looked at slot `i`: it asks the mask about what it
has seen there, or has asked. -/
def Looked (i : Fin maxClients) : SendOp → Prop
  | .checkAdjacencyMatrix (some j) _ => j = i
  | .send j _ _ => j = i
  | _ => False

/-- Wherever the program has not just looked at slot `i`, it will look again before it sends
something that is for all to this slot. -/
def LooksFirst (ID : UInt32) (i : Fin maxClients) {α : Type} : SendM α → Prop
  | .pure _ => True
  | .call o k => (¬Looked i o → (Prog.call o k).Calls (RefusesAt ID i) (NotAt i)) ∧
      ∀ x, Answers o x → LooksFirst ID i (k x)

section programs

variable {ID : UInt32} {i : Fin maxClients} {frame : List UInt8}

theorem looksFirst_of_calls {α : Type} {c : SendM α} (h : c.Calls Answers (NotAt i)) :
    LooksFirst ID i c := by
  induction c with
  | pure a => trivial
  | call o k ih =>
    refine ⟨?_, fun x hx => ih x (h.2 x hx)⟩
    intro _
    exact h.of_answers fun _ _ hx => hx.1.1

/-- The loop asks about the ID that it reads, and this is refused. -/
theorem broadcast_notAt (status : SocketIpStatus) (is : List (Fin maxClients)) :
    (broadcast frame status is).Calls (RefusesAt ID i) (NotAt i) := by
  induction is generalizing status with
  | nil => trivial
  | cons j is ih =>
    refine ⟨by simp [NotAt], ?_⟩
    intro opened _
    cases opened with
    | false => exact ih status
    | true =>
      refine ⟨by simp [NotAt], ?_⟩
      intro id hid
      refine ⟨by simp [NotAt], ?_⟩
      intro answer hanswer
      rcases answer with _ | _ | _
      · trivial
      · exact ih status
      · refine ⟨?_, fun r _ => ih r.1⟩
        intro frame' heq
        obtain ⟨rfl, -⟩ := SendOp.send.inj heq
        exact absurd rfl (hanswer.1.2 (hid.2 rfl))

theorem broadcast_looksFirst (status : SocketIpStatus) (is : List (Fin maxClients)) :
    LooksFirst ID i (broadcast frame status is) := by
  induction is generalizing status with
  | nil => trivial
  | cons j is ih =>
    have hloop (status : SocketIpStatus) : (broadcast frame status is).Calls (RefusesAt ID i)
        (NotAt i) := broadcast_notAt status is
    refine ⟨fun _ => broadcast_notAt status (j :: is), ?_⟩
    intro opened _
    cases opened with
    | false => exact ih status
    | true =>
      refine ⟨fun _ => (broadcast_notAt status (j :: is)).2 true ⟨⟨trivial, trivial⟩, trivial⟩, ?_⟩
      intro id _
      -- another slot than `i` may be sent to
      have hsend (hj : ¬j = i) : (SendM.send j frame broadcastID >>= fun r =>
          broadcast frame r.1 is : SendM _).Calls (RefusesAt ID i) (NotAt i) := by
        refine ⟨?_, fun r _ => hloop r.1⟩
        intro frame' heq
        exact hj (SendOp.send.inj heq).1
      refine ⟨?_, ?_⟩
      · intro hj
        refine ⟨by simp [NotAt], ?_⟩
        intro answer _
        rcases answer with _ | _ | _
        · trivial
        · exact hloop status
        · exact hsend hj
      · intro answer _
        rcases answer with _ | _ | _
        · trivial
        · exact ih status
        · exact ⟨hsend, fun r _ => ih r.1⟩

/-- A frame for this node goes nowhere: the mask refuses it at once. -/
theorem unicast_refused : (unicast frame ID).Calls (Refuses ID) (NotFor ID) := by
  refine ⟨by simp [NotFor], ?_⟩
  intro answer hanswer
  rcases answer with _ | _ | _
  · trivial
  · exact ⟨by simp [NotFor], fun _ _ => trivial⟩
  · exact absurd rfl (hanswer.2 rfl)

variable {b : FwBuffer} {unset : SocketIpStatus}

/-- The header is read, and then the frame is for all or for one. -/
theorem sendHandler_cases {P : SendM (Option SendStatus) → Prop}
    (hread : ∀ positions c, P c → P (.call (.readBytes positions) fun _ => c))
    (hrelease : ∀ c, P c → P (.call .deallocateOut fun _ => c))
    (hbranch : P (if (headerScan b).receiverID = broadcastID then sendToAll b.contents unset
      else unicast b.contents (headerScan b).receiverID)) : P (sendHandler true unset b) := by
  have header (receiverID : UInt32) (f : UInt32 → SendM (Option SendStatus))
      (hf : P (f receiverID)) :
      P ((checkHeader b (headerScan b).index >>= fun _ => pure receiverID) >>= f) := by
    unfold checkHeader
    split_ifs
    · exact hread _ _ (hrelease _ hf)
    · exact hread _ _ hf
    · exact hread _ _ hf
  exact hread _ _ (header _ _ hbranch)

theorem sendHandler_notFor (hID : ID ≠ broadcastID) :
    (sendHandler true unset b).Calls (Refuses ID) (NotFor ID) := by
  by_cases hdest : (headerScan b).receiverID = ID
  · refine sendHandler_cases ?_ ?_ ?_
    · exact fun positions c hc => ⟨by simp [NotFor], fun _ _ => hc⟩
    · exact fun c hc => ⟨by simp [NotFor], fun _ _ => hc⟩
    · rw [if_neg (hdest ▸ hID), hdest]
      exact unicast_refused
  · refine (sendHandler_sends b ?_ ?_ unset).of_answers fun _ _ hx => hx.1
    · intro o ho j data
      exact ho j data ID
    · intro j j' data heq
      exact hdest (SendOp.send.inj heq).2.2

theorem sendHandler_notAt_of_one (hdest : (headerScan b).receiverID ≠ broadcastID) :
    (sendHandler true unset b).Calls Answers (NotAt i) := by
  refine sendHandler_sends b ?_ ?_ unset
  · intro o ho data
    exact ho i data broadcastID
  · intro j data heq
    exact hdest (SendOp.send.inj heq).2.2

/-- What stands behind the loop sends nothing. -/
theorem sendToAll_bind_calls {A : (o : SendOp) → o.Ans → Prop} (kept : Option SocketIpStatus) :
    (match kept with
      | none => pure none
      | some status => SendM.deallocateOut >>= fun _ =>
        pure (some (if status = .success then .sendOk else .sendError)) :
          SendM (Option SendStatus)).Calls A (NotAt i) := by
  cases kept with
  | none => trivial
  | some status => exact ⟨by simp [NotAt], fun _ _ => trivial⟩

theorem sendHandler_notAt : (sendHandler true unset b).Calls (RefusesAt ID i) (NotAt i) := by
  by_cases hdest : (headerScan b).receiverID = broadcastID
  · refine sendHandler_cases ?_ ?_ ?_
    · exact fun positions c hc => ⟨by simp [NotAt], fun _ _ => hc⟩
    · exact fun c hc => ⟨by simp [NotAt], fun _ _ => hc⟩
    · rw [if_pos hdest]
      exact Prog.calls_bind (broadcast_notAt unset _) sendToAll_bind_calls
  · exact (sendHandler_notAt_of_one hdest).of_answers fun _ _ hx => hx.1.1

/-- Behind the loop nothing is sent. -/
theorem looksFirst_bind {α β : Type} {c : SendM α} {f : α → SendM β} (hc : LooksFirst ID i c)
    (hf : ∀ a, (f a).Calls Answers (NotAt i)) : LooksFirst ID i (c >>= f) := by
  induction c with
  | pure a => exact looksFirst_of_calls (hf a)
  | call o k ih =>
    refine ⟨?_, fun x hx => ih x (hc.2 x hx)⟩
    intro hlooked
    exact Prog.calls_bind (p := Prog.call o k) (hc.1 hlooked) fun a =>
      (hf a).of_answers fun _ _ hx => hx.1.1

theorem sendHandler_looksFirst : LooksFirst ID i (sendHandler true unset b) := by
  by_cases hdest : (headerScan b).receiverID = broadcastID
  · refine (sendHandler_cases (P := fun c => c.Calls (RefusesAt ID i) (NotAt i) ∧ LooksFirst ID i c)
      ?_ ?_ ?_).2
    · intro positions c hc
      have hcalls : (Prog.call (SendOp.readBytes positions) fun _ => c).Calls (RefusesAt ID i)
          (NotAt i) := ⟨by simp [NotAt], fun _ _ => hc.1⟩
      exact ⟨hcalls, fun _ => hcalls, fun _ _ => hc.2⟩
    · intro c hc
      have hcalls : (Prog.call SendOp.deallocateOut fun _ => c).Calls (RefusesAt ID i)
          (NotAt i) := ⟨by simp [NotAt], fun _ _ => hc.1⟩
      exact ⟨hcalls, fun _ => hcalls, fun _ _ => hc.2⟩
    · rw [if_pos hdest]
      exact ⟨Prog.calls_bind (broadcast_notAt unset _) sendToAll_bind_calls,
        looksFirst_bind (broadcast_looksFirst unset _) sendToAll_bind_calls⟩
  · exact looksFirst_of_calls (sendHandler_notAt_of_one hdest)

end programs

/-- The mask is asked about the node `ID` and refuses it. -/
def MaskRefuses (ID : UInt32) (env : SendEnv) (p : ClientSide) : SendOp → Prop
  | .checkAdjacencyMatrix site receiverID => receiverID = ID →
      (Driver.checkAdjacencyMatrix p.deviceID (env.mask site) p.adjM receiverID).1 ≠ some true
  | _ => True

instance (ID : UInt32) (env : SendEnv) (p : ClientSide) : DecidablePred (MaskRefuses ID env p)
  | .checkAdjacencyMatrix site receiverID => inferInstanceAs (Decidable (receiverID = ID →
      (Driver.checkAdjacencyMatrix p.deviceID (env.mask site) p.adjM receiverID).1 ≠ some true))
  | .readBytes _ => .isTrue trivial
  | .deallocateOut => .isTrue trivial
  | .isOpened _ => .isTrue trivial
  | .getServerDeviceID _ => .isTrue trivial
  | .checkIfAlreadyConnected _ => .isTrue trivial
  | .getSocketHandlerByID _ => .isTrue trivial
  | .send _ _ _ => .isTrue trivial
  | .close _ => .isTrue trivial

/-- The mask refuses the node `ID` whenever it is asked, and this node does not get through the
handshake on a slot that a call has just looked at. -/
def KeepsAway (ID : UInt32) (s : Outbound) : OutboundAct → Prop
  | .openTask env => ∀ i, s.opener.pc = .recvSrvrID i → PeerSocket.Accepted 24 env.recv env.stack →
      PeerSocket.idIn (env.recv.bytes.take 24) env.stack = ID →
        ∀ k, ∀ o ∈ (s.calls k).next, ¬Looked i o
  | .send k env => ∀ o ∈ (s.calls k).next, MaskRefuses ID env s.side o
  | _ => True

/-- The calls in progress have nothing for the node `ID`, and what has been written went to other
nodes. -/
structure Shuns (ID : UInt32) (s : Outbound) : Prop where
  notFor : ∀ k, (s.calls k).Calls (Refuses ID) (NotFor ID)
  looks : ∀ k i, LooksFirst ID i (s.calls k)
  spared : ∀ i, (s.side.manager.sockets i).deviceID = ID →
    ∀ k, (s.calls k).Calls (RefusesAt ID i) (NotAt i)
  elsewhere : ∀ slot c dest written, .offered slot (some c) dest written ∈ s.side.log →
    written ≠ [] → ∃ w, w ≠ ID ∧ .handshake c (some w) ∈ s.side.log

section shuns

variable {ID : UInt32} {s t : Outbound} {i : Fin maxClients}

theorem shuns_init (deviceID : UInt32) (adjM : Nat → UInt8) (idProtocol : Bool) :
    Shuns ID (.init deviceID adjM idProtocol) where
  notFor _ := trivial
  looks _ _ := trivial
  spared _ _ _ := trivial
  elsewhere _ _ _ _ hmem := by cases hmem

theorem refuses_perform {env : SendEnv} {p : ClientSide} {o : SendOp} (h : MaskRefuses ID env p o) :
    Refuses ID o (perform env o p).1 := by
  refine ⟨perform_answers env o p, ?_⟩
  cases o with
  | checkAdjacencyMatrix site receiverID => exact h
  | _ => trivial

theorem refusesAt_perform {env : SendEnv} {p : ClientSide} {o : SendOp} {i : Fin maxClients}
    (h : MaskRefuses ID env p o) (hi : (p.manager.sockets i).deviceID = ID) :
    RefusesAt ID i o (perform env o p).1 := by
  refine ⟨refuses_perform h, ?_⟩
  cases o with
  | getServerDeviceID j =>
    intro hj
    subst hj
    exact hi
  | _ => trivial

/-- A socket that is exchanged for one with the same ID or none. -/
theorem setPeer_deviceID (p : ClientSide) {x : PeerSocket} (hx : x.deviceID =
    (p.manager.sockets i).deviceID ∨ x.deviceID = 0) (j : Fin maxClients) :
    ((p.setPeer i x).manager.sockets j).deviceID = (p.manager.sockets j).deviceID ∨
      ((p.setPeer i x).manager.sockets j).deviceID = 0 := by
  by_cases hj : j = i
  · subst hj
    rw [setPeer_self]
    exact hx
  · rw [setPeer_ne _ _ _ hj]
    exact .inl rfl

/-- openTask stores no other ID than the one that it has just been told. -/
theorem openEffect_deviceID {addressToIp4 : List UInt8 → Bool} {env : OpenEnv} {o o' : Opener}
    {p p' : ClientSide} (he : OpenEffect addressToIp4 env o p o' p') (j : Fin maxClients) :
    ((p'.manager.sockets j).deviceID = (p.manager.sockets j).deviceID ∨
      (p'.manager.sockets j).deviceID = 0) ∨
      o.pc = .recvSrvrID j ∧ PeerSocket.Accepted 24 env.recv env.stack ∧
        (p'.manager.sockets j).deviceID =
          PeerSocket.idIn (env.recv.bytes.take 24) env.stack := by
  cases he with
  | setHost i =>
    rw [setHost_peer]
    exact .inl (.inl rfl)
  | opened i =>
    exact .inl (setPeer_deviceID p (x := ⟨some p.nextConn, (p.manager.sockets i).deviceID⟩)
      (.inl rfl) j)
  | idNotSent i =>
    exact .inl (setPeer_deviceID p (x := (p.manager.sockets i).baseClose) (.inl rfl) j)
  | idReceived i c hpc hopen ha =>
    by_cases hj : j = i
    · subst hj
      exact .inr ⟨hpc, ha, by rw [setPeer_self]⟩
    · refine .inl (.inl ?_)
      dsimp only
      rw [setPeer_ne _ _ _ hj]
  | idNotReceived i =>
    exact .inl (setPeer_deviceID p (x := (p.manager.sockets i).baseClose) (.inl rfl) j)
  | closed i =>
    exact .inl (setPeer_deviceID p (x := (p.manager.sockets i).toPeerSocket.close) (.inr rfl) j)
  | closedAll => exact .inl (.inr rfl)
  | _ => exact .inl (.inl rfl)

theorem sendEffect_deviceID {env : SendEnv} {o : SendOp} {p p' : ClientSide}
    (he : SendEffect env o p p') (j : Fin maxClients) :
    (p'.manager.sockets j).deviceID = (p.manager.sockets j).deviceID ∨
      (p'.manager.sockets j).deviceID = 0 := by
  cases he with
  | reset i => exact setPeer_deviceID p (x := (p.manager.sockets i).baseClose) (.inl rfl) j
  | closed i =>
    exact setPeer_deviceID p (x := (p.manager.sockets i).toPeerSocket.close) (.inr rfl) j
  | _ => exact .inl rfl

/-- The log only grows, by handshakes. -/
theorem openEffect_log {addressToIp4 : List UInt8 → Bool} {env : OpenEnv} {o o' : Opener}
    {p p' : ClientSide} (he : OpenEffect addressToIp4 env o p o' p') :
    p'.log = p.log ∨ ∃ c id, p'.log = .handshake c id :: p.log := by
  cases he with
  | idReceived i c => exact .inr ⟨c, _, rfl⟩
  | _ => exact .inl rfl

/-- An ID that is not 0 has been in its slot before. -/
theorem stored_of_kept {p p' : ClientSide} {j : Fin maxClients} (hzero : ID ≠ 0)
    (hj : (p'.manager.sockets j).deviceID = ID)
    (hkeep : (p'.manager.sockets j).deviceID = (p.manager.sockets j).deviceID ∨
      (p'.manager.sockets j).deviceID = 0) : (p.manager.sockets j).deviceID = ID := by
  rcases hkeep with hsame | hnone
  · exact hsame.symm.trans hj
  · exact absurd (hj.symm.trans hnone) hzero

namespace Shuns

/-- What a guarded send writes on goes to another node than `ID`. -/
theorem away (h : Shuns ID s) (hdelivery : DeliveryInv s) {k : Nat} {frame : List UInt8}
    {dest : UInt32} {rest : SocketIpStatus × Bool → SendM (Option SendStatus)}
    (hk : s.calls k = .call (.send i frame dest) rest)
    (hkept : SlotKept s.opener s.side (.send i frame dest)) {c : Conn}
    (hi : (s.side.manager.sockets i).fd = some c) :
    ∃ w, w ≠ ID ∧ .handshake c (some w) ∈ s.side.log := by
  have hopen : (s.side.manager.sockets i).isOpened = true :=
    (PeerSocket.isOpened_iff _).mpr ⟨c, hi⟩
  obtain ⟨hsettled, hstored⟩ := hkept hopen
  have hnonzero := hdelivery.calls k
  have hnotFor := h.notFor k
  rw [hk] at hnonzero hnotFor
  have hknown (hne : (s.side.manager.sockets i).deviceID ≠ 0) :=
    (hdelivery.known i hsettled c hi).resolve_left hne
  split_ifs at hstored with hdest
  · refine ⟨_, ?_, hknown hstored⟩
    intro hID
    have hspared := h.spared i hID k
    rw [hk, hdest] at hspared
    exact hspared.1 frame rfl
  · have hne : (s.side.manager.sockets i).deviceID ≠ 0 := by
      intro hzero
      exact hnonzero.1 i frame (by rw [← hstored, hzero])
    refine ⟨_, ?_, hknown hne⟩
    intro hID
    exact hnotFor.1 i frame (by rw [← hstored, hID])

/-- A statement of openTask. -/
theorem openTask (h : Shuns ID s) (hzero : ID ≠ 0) {addressToIp4 : List UInt8 → Bool}
    {env : OpenEnv} (hcalls : t.calls = s.calls)
    (he : OpenEffect addressToIp4 env s.opener s.side t.opener t.side)
    (haway : KeepsAway ID s (.openTask env)) : Shuns ID t := by
  refine ⟨hcalls ▸ h.notFor, hcalls ▸ h.looks, ?_, ?_⟩
  · intro j hj k
    rw [hcalls]
    rcases openEffect_deviceID he j with hkeep | htold
    · exact h.spared j (stored_of_kept hzero hj hkeep) k
    · obtain ⟨hpc, ha, hID⟩ := htold
      have hlooks := h.looks k j
      have hnext := haway j hpc ha (hID.symm.trans hj) k
      cases hk : s.calls k with
      | pure a => trivial
      | call o rest =>
        rw [hk] at hlooks hnext
        exact hlooks.1 (hnext o rfl)
  · intro slot c dest written hmem hwritten
    rcases openEffect_log he with hlog | hlog
    · rw [hlog] at hmem ⊢
      exact h.elsewhere slot c dest written hmem hwritten
    · obtain ⟨d, id, hlog⟩ := hlog
      rw [hlog] at hmem ⊢
      rcases List.mem_cons.mp hmem with heq | hmem
      · cases heq
      · obtain ⟨w, hw, hhand⟩ := h.elsewhere slot c dest written hmem hwritten
        exact ⟨w, hw, List.mem_cons_of_mem _ hhand⟩

/-- A call begins. -/
theorem begins (h : Shuns ID s) (hID : ID ≠ broadcastID) {k : Nat} {unset : SocketIpStatus}
    {b : FwBuffer} (hcalls : t.calls = Function.update s.calls k (sendHandler true unset b))
    (hp : t.side = s.side) : Shuns ID t := by
  refine ⟨?_, ?_, ?_, hp ▸ h.elsewhere⟩
  · intro j
    rw [hcalls]
    by_cases hj : j = k
    · rw [hj, Function.update_self]
      exact sendHandler_notFor hID
    · rw [Function.update_of_ne hj]
      exact h.notFor j
  · intro j i
    rw [hcalls]
    by_cases hj : j = k
    · rw [hj, Function.update_self]
      exact sendHandler_looksFirst
    · rw [Function.update_of_ne hj]
      exact h.looks j i
  · intro i hi j
    rw [hcalls]
    by_cases hj : j = k
    · rw [hj, Function.update_self]
      exact sendHandler_notAt
    · rw [Function.update_of_ne hj]
      exact h.spared i (hp ▸ hi) j

/-- What is in the log after a step of a call. -/
theorem send_elsewhere (h : Shuns ID s) (hdelivery : DeliveryInv s) {k : Nat} {env : SendEnv}
    {o : SendOp} {rest : o.Ans → SendM (Option SendStatus)} {p' : ClientSide}
    (hk : s.calls k = .call o rest) (hkept : SlotKept s.opener s.side o)
    (he : SendEffect env o s.side p') {slot : Fin maxClients} {c : Conn} {dest : UInt32}
    {written : List UInt8} (hmem : .offered slot (some c) dest written ∈ p'.log)
    (hwritten : written ≠ []) :
    ∃ w, w ≠ ID ∧ .handshake c (some w) ∈ p'.log := by
  have old (hmem : .offered slot (some c) dest written ∈ s.side.log) :=
    h.elsewhere slot c dest written hmem hwritten
  have new {i : Fin maxClients} {frame written' : List UInt8} {dest' : UInt32}
      (ho : o = .send i frame dest') (hmem : .offered slot (some c) dest written ∈
        .offered i (s.side.manager.sockets i).fd dest' written' :: s.side.log) :
      ∃ w, w ≠ ID ∧ .handshake c (some w) ∈
        ClientEvent.offered i (s.side.manager.sockets i).fd dest' written' :: s.side.log := by
    have hfound : ∃ w, w ≠ ID ∧ .handshake c (some w) ∈ s.side.log := by
      rcases List.mem_cons.mp hmem with heq | hmem
      · subst ho
        obtain ⟨-, hi, -, -⟩ := ClientEvent.offered.inj heq
        exact h.away hdelivery hk hkept hi.symm
      · exact old hmem
    obtain ⟨w, hw, hhand⟩ := hfound
    exact ⟨w, hw, List.mem_cons_of_mem _ hhand⟩
  cases he with
  | quiet => exact old hmem
  | sent i frame dest' written' ho => exact new ho hmem
  | reset i frame dest' written' ho => exact new ho hmem
  | closed => exact old hmem

/-- A step of a call. -/
theorem send (h : Shuns ID s) (hzero : ID ≠ 0) (hdelivery : DeliveryInv s) {k : Nat}
    {env : SendEnv} {o : SendOp} {rest : o.Ans → SendM (Option SendStatus)}
    (hk : s.calls k = .call o rest)
    (hcalls : t.calls = Function.update s.calls k (rest (perform env o s.side).1))
    (he : SendEffect env o s.side t.side) (hkept : SlotKept s.opener s.side o)
    (hmask : MaskRefuses ID env s.side o) : Shuns ID t := by
  refine ⟨?_, ?_, ?_, fun _ _ _ _ => h.send_elsewhere hdelivery hk hkept he⟩
  · intro j
    rw [hcalls]
    by_cases hj : j = k
    · rw [hj, Function.update_self]
      have hnotFor := h.notFor k
      rw [hk] at hnotFor
      exact hnotFor.2 _ (refuses_perform hmask)
    · rw [Function.update_of_ne hj]
      exact h.notFor j
  · intro j i
    rw [hcalls]
    by_cases hj : j = k
    · rw [hj, Function.update_self]
      have hlooks := h.looks k i
      rw [hk] at hlooks
      exact hlooks.2 _ (perform_answers env o s.side)
    · rw [Function.update_of_ne hj]
      exact h.looks j i
  · intro i hi j
    have hID := stored_of_kept hzero hi (sendEffect_deviceID he i)
    rw [hcalls]
    by_cases hj : j = k
    · rw [hj, Function.update_self]
      have hspared := h.spared i hID k
      rw [hk] at hspared
      exact hspared.2 _ (refusesAt_perform hmask hID)
    · rw [Function.update_of_ne hj]
      exact h.spared i hID j

theorem step (h : Shuns ID s) (hID : ID ≠ broadcastID) (hzero : ID ≠ 0)
    (hdelivery : DeliveryInv s) (hprotocol : s.idProtocol = true)
    {addressToIp4 : List UInt8 → Bool} {act : OutboundAct}
    (hkeeps : KeepsIDs s act) (haway : KeepsAway ID s act)
    (hs : s.step addressToIp4 act = some t) : Shuns ID t := by
  cases Outbound.step_effect addressToIp4 hs with
  | openTask env hcalls he => exact h.openTask hzero hcalls he haway
  | sendHandler k unset b hcalls _ hp =>
    rw [hprotocol] at hcalls
    exact h.begins hID hcalls hp
  | send k env o rest hk hcalls _ he =>
    have hmask : MaskRefuses ID env s.side o := haway o (by rw [hk]; rfl)
    have hkept : SlotKept s.opener s.side o := hkeeps o (by rw [hk]; rfl)
    exact h.send hzero hdelivery hk hcalls he hkept hmask
  | stop hcalls _ hp =>
    exact ⟨hcalls ▸ h.notFor, hcalls ▸ h.looks, fun i hi => hcalls ▸ h.spared i (hp ▸ hi),
      hp ▸ h.elsewhere⟩
  | closeAll hcalls _ hp =>
    refine ⟨hcalls ▸ h.notFor, hcalls ▸ h.looks, ?_, hp ▸ h.elsewhere⟩
    intro i hi
    rw [hp] at hi
    exact absurd hi.symm hzero

end Shuns

end shuns

end MeshNetwork.Node
