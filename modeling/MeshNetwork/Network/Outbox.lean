import MeshNetwork.Framework.Packets
import MeshNetwork.Network.ClientStreams
import MeshNetwork.Node.SendsOnce

namespace MeshNetwork.Network

open Driver Node

theorem contents_of_holds {b : FwBuffer} {bytes : List UInt8} (h : b.Holds bytes) :
    b.contents = bytes := by
  refine List.ext_getElem (by simp [FwBuffer.contents, h.1]) ?_
  intro k hk hk'
  simp [FwBuffer.contents, h.byte hk']

/-- How messages go to the driver: each of them in a packet, for a receiver. -/
structure Dispatch (M μ : Type) where
  code : PacketCode μ UInt8
  packet : M → μ
  dest : M → UInt32

def Dispatch.bytes {M μ : Type} (d : Dispatch M μ) (m : M) : List UInt8 := d.code.pack (d.packet m)

/-- The messages that a node has been given to send, and which of them call `k` of send_handler is
about. -/
structure Outbox (M : Type) where
  messages : List M := []
  current : Nat → Nat := fun _ => 0

/-- Call `k` begins, with one more message. -/
def Outbox.post {M : Type} (box : Outbox M) (k : Nat) (m : M) : Outbox M where
  messages := box.messages ++ [m]
  current := Function.update box.current k box.messages.length

section post

variable {M : Type} (box : Outbox M) (k : Nat) (m : M)

@[simp] theorem post_current_self : (box.post k m).current k = box.messages.length :=
  Function.update_self ..

theorem post_current_ne {j : Nat} (hj : j ≠ k) : (box.post k m).current j = box.current j :=
  Function.update_of_ne hj ..

theorem post_new : (box.post k m).messages[box.messages.length]? = some m :=
  List.getElem?_concat_length

theorem post_old {n : Nat} (hn : n < box.messages.length) :
    (box.post k m).messages[n]? = box.messages[n]? := List.getElem?_append_left hn

end post

/-- A send that neither succeeds nor closes the socket has written nothing. -/
def WholeSend (env : SendEnv) (p : ClientSide) : SendOp → Prop
  | .send i _ _ => (p.manager.sockets i).isOpened = true →
      (env.send i).status = .success ∨ (env.send i).status = .disconnected ∨ (env.send i).sent = 0
  | _ => True

def WholeSends (s : Outbound) : OutboundAct → Prop
  | .send k env => ∀ o ∈ (s.calls k).next, WholeSend env s.side o
  | _ => True

instance (env : SendEnv) (p : ClientSide) : (o : SendOp) → Decidable (WholeSend env p o)
  | .send i _ _ => inferInstanceAs (Decidable ((p.manager.sockets i).isOpened = true → _))
  | .readBytes _ => .isTrue trivial
  | .deallocateOut => .isTrue trivial
  | .isOpened _ => .isTrue trivial
  | .getServerDeviceID _ => .isTrue trivial
  | .checkAdjacencyMatrix _ _ => .isTrue trivial
  | .checkIfAlreadyConnected _ => .isTrue trivial
  | .getSocketHandlerByID _ => .isTrue trivial
  | .close _ => .isTrue trivial

instance (s : Outbound) : (act : OutboundAct) → Decidable (WholeSends s act)
  | .send k env => inferInstanceAs (Decidable (∀ o ∈ (s.calls k).next, WholeSend env s.side o))
  | .openTask _ => .isTrue trivial
  | .sendHandler _ _ _ => .isTrue trivial
  | .stop => .isTrue trivial
  | .closeAll => .isTrue trivial

/-- The rest of a program: what it may call the program may call. -/
structure Continues {α : Type} (c c' : SendM α) : Prop where
  calls : ∀ P, c.Calls Answers P → c'.Calls Answers P
  behind : ∀ Q, Behind Q c → Behind Q c'

theorem continues_rfl {α : Type} (c : SendM α) : Continues c c := ⟨fun _ => id, fun _ => id⟩

theorem continues_call {α : Type} {o : SendOp} {k : o.Ans → SendM α} {x : o.Ans}
    (hx : Answers o x) : Continues (.call o k) (k x) :=
  ⟨fun _ h => h.2 x hx, fun _ h => (h x hx).2⟩

/-- Nobody can write on connection `c` any more. -/
def Gone (p : ClientSide) (c : Conn) : Prop :=
  c < p.nextConn ∧ ∀ i, (p.manager.sockets i).fd ≠ some c

/-- What lies between two states of the members in which no frame is written on connection `c`. -/
structure LeavesAlone (c : Conn) (p p' : ClientSide) : Prop where
  fd : ∀ i, (p'.manager.sockets i).fd = some c →
    (p.manager.sockets i).fd = some c ∨ p.nextConn ≤ c
  next : p.nextConn ≤ p'.nextConn
  frames : framesOn c p'.log = framesOn c p.log
  log : ∀ e ∈ p.log, e ∈ p'.log

section leavesAlone

variable (c : Conn) (p : ClientSide)

theorem leavesAlone_rfl : LeavesAlone c p p := ⟨fun _ => .inl, Nat.le_refl _, rfl, fun _ => id⟩

theorem leavesAlone_closed (i : Fin maxClients) {x : PeerSocket} (hx : x.fd = none) :
    LeavesAlone c p (p.setPeer i x) := by
  refine ⟨?_, Nat.le_refl _, rfl, fun _ => id⟩
  intro j hj
  have hji := ne_of_setPeer_closed hx hj
  rw [setPeer_ne _ _ _ hji] at hj
  exact .inl hj

theorem leavesAlone_closeAll : LeavesAlone c p p.closeAll := by
  refine ⟨?_, Nat.le_refl _, rfl, fun _ => id⟩
  intro i hi
  cases hi

variable {p}

/-- openTask writes no frame. -/
theorem leavesAlone_openTask {addressToIp4 : List UInt8 → Bool} {env : OpenEnv} {o o' : Opener}
    {p' : ClientSide} (he : OpenEffect addressToIp4 env o p o' p') : LeavesAlone c p p' := by
  cases he with
  | setHost i =>
    refine ⟨?_, Nat.le_refl _, rfl, fun _ => id⟩
    intro j hj
    rw [setHost_peer] at hj
    exact .inl hj
  | opened i =>
    refine ⟨?_, Nat.le_succ _, rfl, fun _ => id⟩
    intro j hj
    by_cases hji : j = i
    · subst hji
      simp only [setPeer_self, Option.some.injEq] at hj
      exact .inr (Nat.le_of_eq hj)
    · simp only [setPeer_ne _ _ _ hji] at hj
      exact .inl hj
  | idNotSent i => exact leavesAlone_closed c p i rfl
  | idReceived i e hpc hopen ha =>
    refine ⟨?_, Nat.le_refl _, rfl, fun _ => List.mem_cons_of_mem _⟩
    intro j hj
    by_cases hji : j = i
    · subst hji
      simp only [setPeer_self, Option.some.injEq] at hj
      exact .inl (hj ▸ hopen)
    · simp only [setPeer_ne _ _ _ hji] at hj
      exact .inl hj
  | idNotReceived i => exact leavesAlone_closed c p i rfl
  | closed i =>
    exact leavesAlone_closed c p i (x := (p.manager.sockets i).toPeerSocket.close) rfl
  | closedAll => exact leavesAlone_closeAll c p
  | _ => exact leavesAlone_rfl c p

/-- send_handler writes on the connection of the slot that it sends to, and on no other. -/
theorem leavesAlone_perform (env : SendEnv) {op : SendOp}
    (hop : ∀ i frame dest, op = .send i frame dest → (p.manager.sockets i).fd ≠ some c) :
    LeavesAlone c p (perform env op p).2 := by
  cases op with
  | send i frame dest =>
    refine ⟨fun j hj => .inl (perform_send_fd hj), Nat.le_refl _, ?_, fun _ =>
      List.mem_cons_of_mem _⟩
    have hne := hop i frame dest rfl
    cases hi : (p.manager.sockets i).fd with
    | none => simp only [perform, hi, framesOn]
    | some e =>
      rw [hi] at hne
      simp only [perform, hi, framesOn, if_neg fun hec => hne (congrArg some hec), List.append_nil]
  | close i => exact leavesAlone_closed c p i (x := (p.manager.sockets i).toPeerSocket.close) rfl
  | _ => exact ⟨fun _ => .inl, Nat.le_refl _, rfl, fun _ => id⟩

end leavesAlone

/-- A step that writes a frame on connection `c`, or a part of one. -/
def WritesOn (s : Outbound) (c : Conn) : OutboundAct → Prop
  | .send k _ => ∃ i frame dest rest, s.calls k = .call (.send i frame dest) rest ∧
      (s.side.manager.sockets i).fd = some c
  | _ => False

/-- A step that begins no call goes on with the calls, and leaves alone what it does not write
on. -/
theorem step_leaves {addressToIp4 : List UInt8 → Bool} {s t : Outbound} {act : OutboundAct}
    (hact : ∀ k unset b, act ≠ .sendHandler k unset b) (hs : s.step addressToIp4 act = some t) :
    (∀ k, Continues (s.calls k) (t.calls k)) ∧ s.side.nextConn ≤ t.side.nextConn ∧
      ∀ c, ¬WritesOn s c act → LeavesAlone c s.side t.side := by
  have hsame (hcalls : t.calls = s.calls) (k : Nat) : Continues (s.calls k) (t.calls k) :=
    hcalls ▸ continues_rfl _
  cases act with
  | openTask env =>
    cases Outbound.step_effect addressToIp4 hs with
    | openTask _ hcalls he =>
      exact ⟨hsame hcalls, (leavesAlone_openTask 0 he).next, fun c _ => leavesAlone_openTask c he⟩
  | sendHandler k unset b => exact absurd rfl (hact k unset b)
  | send k env =>
    cases hk : s.calls k with
    | pure a => simp [Outbound.step, hk, Prog.step] at hs
    | call op rest =>
      simp only [Outbound.step, hk, Prog.step, Option.map_some] at hs
      obtain rfl := Option.some.inj hs
      refine ⟨?_, ?_, ?_⟩
      · intro k'
        dsimp only
        by_cases hk' : k' = k
        · rw [hk', Function.update_self, hk]
          exact continues_call (perform_answers env op s.side)
        · rw [Function.update_of_ne hk']
          exact continues_rfl _
      · cases op <;> exact Nat.le_refl _
      · intro c hc
        refine leavesAlone_perform c env ?_
        intro i frame dest hop hi
        subst hop
        exact hc ⟨i, frame, dest, rest, hk, hi⟩
  | stop =>
    obtain rfl := Option.some.inj hs
    exact ⟨hsame rfl, Nat.le_refl _, fun c _ => leavesAlone_rfl c _⟩
  | closeAll =>
    obtain rfl := Option.some.inj hs
    exact ⟨hsame rfl, Nat.le_refl _, fun c _ => leavesAlone_closeAll c _⟩

section invariant

variable {M μ : Type} (d : Dispatch M μ) (box : Outbox M) (s : Outbound)

/-- What call `k` may send is its message. -/
def Offers (k : Nat) (o : SendOp) : Prop :=
  ∀ i frame dest, o = .send i frame dest →
    ∃ m, box.messages[box.current k]? = some m ∧ frame = d.bytes m ∧ dest = d.dest m

/-- On connection `c` there are the packets of the messages `sent`, each with its number, in this
order and no message twice; a packet that has been cut off is the last. -/
structure Dispatched (c : Conn) (sent : List (Nat × M)) (rest : List UInt8) : Prop where
  stream : framesOn c s.side.log = d.code.packAll (sent.map fun x => d.packet x.2) ++ rest
  begun : d.code.Begun rest
  given : ∀ x ∈ sent, box.messages[x.1]? = some x.2
  once : (sent.map Prod.fst).Nodup
  recorded : ∀ x ∈ sent, ∃ slot,
    .offered slot (some c) (d.dest x.2) (d.bytes x.2) ∈ s.side.log
  cut : rest ≠ [] → Gone s.side c
  ahead : ∀ k i, (s.side.manager.sockets i).fd = some c → ¬Spares i (s.calls k) →
    box.current k ∉ sent.map Prod.fst

/-- Call `k` is about a message for one node. -/
def ForOne (k : Nat) : Prop :=
  ∃ m, box.messages[box.current k]? = some m ∧ d.dest m ≠ broadcastID

/-- All connections together. A message for one node is on one of them at most, and on none while
its call has it still to send. -/
structure AllDispatched (sent : Conn → List (Nat × M)) : Prop where
  each : ∀ c, ∃ rest, Dispatched d box s c (sent c) rest
  single : ∀ c c' x, x ∈ sent c → x ∈ sent c' → d.dest x.2 ≠ broadcastID → c = c'
  pending : ∀ k, ¬Silent (s.calls k) → ForOne d box k → ∀ c, box.current k ∉ (sent c).map Prod.fst

/-- What has been sent after a step to `t`: what had been, and a message that a call has just
written whole. -/
structure SendsOn (t : Outbound) (act : OutboundAct) (sent sent' : Conn → List (Nat × M)) :
    Prop where
  all : AllDispatched d box t sent'
  grows : ∀ c, sent c <+: sent' c
  whole : ∀ k env i frame dest rest c, act = .send k env →
    s.calls k = .call (.send i frame dest) rest → (s.side.manager.sockets i).fd = some c →
      (env.send i).status = .success → box.current k ∈ (sent' c).map Prod.fst

structure OutboxInv : Prop where
  carries : ∀ k, (s.calls k).Calls Answers (Offers d box k)
  once : ∀ k, SendsOnce (s.calls k)
  toOne : ∀ k, ForOne d box k → SendsToOne (s.calls k)
  apart : ∀ k k' i i', ¬Spares i (s.calls k) → ¬Spares i' (s.calls k') →
    box.current k = box.current k' → k = k'
  unborn : ∀ c, s.side.nextConn ≤ c → framesOn c s.side.log = []
  wires : ∃ sent, AllDispatched d box s sent

variable {d box s}

theorem outboxInv_init (deviceID : UInt32) (adjM : Nat → UInt8) (idProtocol : Bool) :
    OutboxInv d {} (.init deviceID adjM idProtocol) where
  carries _ := trivial
  once _ := trivial
  toOne _ _ := trivial
  apart _ _ _ _ hk := absurd trivial hk
  unborn _ _ := rfl
  wires := ⟨fun _ => [], fun _ => ⟨[], rfl, d.code.begun_nil, by simp, List.nodup_nil, by simp,
    by simp, by simp⟩, by simp, by simp⟩

/-- A call with something left to send has its message. -/
theorem OutboxInv.current_lt (h : OutboxInv d box s) {k : Nat} {i : Fin maxClients}
    (hk : ¬Spares i (s.calls k)) : box.current k < box.messages.length := by
  by_contra hle
  apply hk
  refine (h.carries k).mono ?_
  intro o ho frame dest heq
  obtain ⟨m, hm, -⟩ := ho i frame dest heq
  rw [List.getElem?_eq_none (Nat.le_of_not_lt hle)] at hm
  cases hm

/-- Nothing has been written on a connection that has no number yet. -/
theorem Dispatched.eq_nil {c : Conn} {sent : List (Nat × M)} {rest : List UInt8}
    (hc : Dispatched d box s c sent rest) (hnone : framesOn c s.side.log = []) :
    sent = [] ∧ rest = [] := by
  have hempty : d.code.packAll [] ++ [] = [] := rfl
  obtain ⟨hsent, hrest⟩ := PacketCode.packAll_inj hc.begun d.code.begun_nil
    (hc.stream.symm.trans (hnone.trans hempty.symm))
  exact ⟨List.map_eq_nil_iff.mp hsent, hrest⟩

theorem Dispatched.silent {c : Conn} (hc : framesOn c s.side.log = []) :
    Dispatched d box s c [] [] :=
  ⟨hc, d.code.begun_nil, by simp, List.nodup_nil, by simp, by simp, by simp⟩

theorem AllDispatched.lt_length {sent : Conn → List (Nat × M)} (hall : AllDispatched d box s sent)
    {c : Conn} {n : Nat} (hn : n ∈ (sent c).map Prod.fst) : n < box.messages.length := by
  obtain ⟨x, hx, rfl⟩ := List.mem_map.mp hn
  obtain ⟨rest, hc⟩ := hall.each c
  obtain ⟨hlt, -⟩ := List.getElem?_eq_some_iff.mp (hc.given x hx)
  exact hlt

theorem Dispatched.quiet {t : Outbound} {c : Conn} {sent : List (Nat × M)} {rest : List UInt8}
    (hc : Dispatched d box s c sent rest) (hlt : c < s.side.nextConn)
    (hcalls : ∀ k, Continues (s.calls k) (t.calls k)) (hside : LeavesAlone c s.side t.side) :
    Dispatched d box t c sent rest := by
  have hfd (i : Fin maxClients) (hi : (t.side.manager.sockets i).fd = some c) :
      (s.side.manager.sockets i).fd = some c :=
    (hside.fd i hi).resolve_right (Nat.not_le_of_lt hlt)
  refine ⟨hside.frames.trans hc.stream, hc.begun, hc.given, hc.once, ?_, ?_, ?_⟩
  · intro x hx
    obtain ⟨slot, hmem⟩ := hc.recorded x hx
    exact ⟨slot, hside.log _ hmem⟩
  · intro hrest
    refine ⟨Nat.lt_of_lt_of_le hlt hside.next, ?_⟩
    intro i hi
    exact (hc.cut hrest).2 i (hfd i hi)
  · intro k i hi hk
    exact hc.ahead k i (hfd i hi) (mt ((hcalls k).calls _) hk)

/-- A packet is written on connection `c` of slot `i`, or a part of it that is the last. -/
theorem Dispatched.send {t : Outbound} {c : Conn} {sent : List (Nat × M)} {rest : List UInt8}
    (hc : Dispatched d box s c sent rest) {k : Nat} {i : Fin maxClients} {m : M}
    {written : List UInt8} (hi : (s.side.manager.sockets i).fd = some c)
    (hlt : c < s.side.nextConn) (hm : box.messages[box.current k]? = some m)
    (hnew : box.current k ∉ sent.map Prod.fst)
    (hlog : t.side.log = .offered i (some c) (d.dest m) written :: s.side.log)
    (hnext : t.side.nextConn = s.side.nextConn)
    (hwritten : written = d.bytes m ∨ written = [] ∨ written <+: d.bytes m ∧
      ∀ j, (t.side.manager.sockets j).fd ≠ some c)
    (hahead : ∀ k' j, (t.side.manager.sockets j).fd = some c → ¬Spares j (t.calls k') →
      box.current k' ∉ sent.map Prod.fst ∧ box.current k' ≠ box.current k) :
    ∃ more rest', Dispatched d box t c (sent ++ more) rest' ∧
      (more = [] ∨ more = [(box.current k, m)]) ∧
      (written = d.bytes m → more = [(box.current k, m)]) := by
  have hwhole : rest = [] := by
    by_contra hrest
    exact (hc.cut hrest).2 i hi
  subst hwhole
  have hstream := hc.stream
  rw [List.append_nil] at hstream
  have hrecorded (x : Nat × M) (hx : x ∈ sent) : ∃ slot,
      .offered slot (some c) (d.dest x.2) (d.bytes x.2) ∈ t.side.log := by
    obtain ⟨slot, hmem⟩ := hc.recorded x hx
    exact ⟨slot, hlog ▸ List.mem_cons_of_mem _ hmem⟩
  by_cases hbytes : written = d.bytes m
  · refine ⟨[(box.current k, m)], [], ⟨?_, d.code.begun_nil, ?_, ?_, ?_, by simp, ?_⟩, .inr rfl,
      fun _ => rfl⟩
    · rw [hlog, framesOn, if_pos rfl, hstream, hbytes]
      simp [Dispatch.bytes]
    · intro x hx
      rcases List.mem_append.mp hx with hx | hx
      · exact hc.given x hx
      · obtain rfl := List.mem_singleton.mp hx
        exact hm
    · rw [List.map_append, List.map_singleton]
      refine hc.once.append (List.nodup_singleton _) ?_
      rw [List.disjoint_singleton]
      exact hnew
    · intro x hx
      rcases List.mem_append.mp hx with hx | hx
      · exact hrecorded x hx
      · obtain rfl := List.mem_singleton.mp hx
        exact ⟨i, hlog ▸ hbytes ▸ List.mem_cons_self⟩
    · intro k' j hj hk'
      obtain ⟨hsent, hother⟩ := hahead k' j hj hk'
      simp only [List.map_append, List.map_singleton, List.mem_append, List.mem_singleton]
      exact not_or.mpr ⟨hsent, hother⟩
  · have hpart := hwritten.resolve_left hbytes
    refine ⟨[], written, ?_, .inl rfl, fun h => absurd h hbytes⟩
    rw [List.append_nil]
    refine ⟨?_, ?_, hc.given, hc.once, hrecorded, ?_, ?_⟩
    · rw [hlog, framesOn, if_pos rfl, hstream]
    · rcases hpart with rfl | ⟨hpre, -⟩
      · exact d.code.begun_nil
      · exact .inr ⟨d.packet m, hpre, hbytes⟩
    · intro hne
      exact ⟨hnext ▸ hlt, (hpart.resolve_left hne).2⟩
    · intro k' j hj hk'
      exact (hahead k' j hj hk').1

namespace OutboxInv

variable {t : Outbound}

theorem goesOn (h : OutboxInv d box s) (hcalls : ∀ k, Continues (s.calls k) (t.calls k))
    (hunborn : ∀ c, t.side.nextConn ≤ c → framesOn c t.side.log = [])
    (hwires : ∃ sent, AllDispatched d box t sent) : OutboxInv d box t := by
  refine ⟨?_, ?_, ?_, ?_, hunborn, hwires⟩
  · intro k
    exact (hcalls k).calls _ (h.carries k)
  · intro k
    exact (hcalls k).behind _ (h.once k)
  · intro k hk
    exact (hcalls k).behind _ (h.toOne k hk)
  · intro k k' i i' hk hk' heq
    exact h.apart k k' i i' (mt ((hcalls k).calls _) hk) (mt ((hcalls k').calls _) hk') heq

/-- A connection that a step leaves alone has the messages that it had. -/
theorem wire (h : OutboxInv d box s) (hcalls : ∀ k, Continues (s.calls k) (t.calls k)) {c : Conn}
    {sent : List (Nat × M)} (hc : ∃ rest, Dispatched d box s c sent rest)
    (hside : LeavesAlone c s.side t.side) : ∃ rest, Dispatched d box t c sent rest := by
  obtain ⟨rest, hc⟩ := hc
  by_cases hlt : c < s.side.nextConn
  · exact ⟨rest, hc.quiet hlt hcalls hside⟩
  · have hnone := h.unborn c (Nat.le_of_not_lt hlt)
    obtain ⟨rfl, -⟩ := hc.eq_nil hnone
    exact ⟨[], .silent (hside.frames.trans hnone)⟩

section send

variable {k : Nat} {env : SendEnv}

variable {o : Opener} {history : SocketHistory} {i : Fin maxClients} {frame : List UInt8}
  {dest : UInt32} {c : SocketIpStatus × Bool → SendM (Option SendStatus)} {e : Conn}
  {sent : List (Nat × M)}

/-- Call `k` writes on connection `e`, of slot `i`. -/
theorem written (h : OutboxInv d box s) (hstreams : ClientStreams o s.side history)
    (hk : s.calls k = .call (.send i frame dest) c)
    (hwhole : WholeSend env s.side (.send i frame dest))
    (hcalls : t.calls =
      Function.update s.calls k (c (perform env (.send i frame dest) s.side).1))
    (hp : t.side = (perform env (.send i frame dest) s.side).2)
    (hi : (s.side.manager.sockets i).fd = some e)
    (hsent : ∃ rest, Dispatched d box s e sent rest) :
    ∃ m more rest', box.messages[box.current k]? = some m ∧
      Dispatched d box t e (sent ++ more) rest' ∧
      (more = [] ∨ more = [(box.current k, m)]) ∧
      ((env.send i).status = .success → more = [(box.current k, m)]) := by
  obtain ⟨rest, hc⟩ := hsent
  have hactive : ¬Spares i (s.calls k) := by
    rw [hk]
    intro hspares
    exact hspares.1 frame dest rfl
  have hcarries := h.carries k
  rw [hk] at hcarries
  obtain ⟨m, hm, rfl, rfl⟩ := hcarries.1 i frame dest rfl
  have hopen : (s.side.manager.sockets i).isOpened = true :=
    (PeerSocket.isOpened_iff _).mpr ⟨e, hi⟩
  have hlog : t.side.log = .offered i (some e) (d.dest m)
      ((s.side.manager.sockets i).toPeerSocket.send (d.bytes m) (env.send i)).written ::
        s.side.log := by
    rw [hp, ← hi]
    rfl
  have hmine (j : Fin maxClients) (hj : (t.side.manager.sockets j).fd = some e) : j = i := by
    rw [hp] at hj
    exact hstreams.apart j i e (perform_send_fd hj) hi
  have hpart : ((s.side.manager.sockets i).toPeerSocket.send (d.bytes m) (env.send i)).written =
        d.bytes m ∨
      ((s.side.manager.sockets i).toPeerSocket.send (d.bytes m) (env.send i)).written = [] ∨
      ((s.side.manager.sockets i).toPeerSocket.send (d.bytes m) (env.send i)).written <+:
          d.bytes m ∧ ∀ j, (t.side.manager.sockets j).fd ≠ some e := by
    simp only [PeerSocket.send, hopen, if_true]
    by_cases hok : (env.send i).status = .success
    · exact .inl (if_pos hok)
    · rw [if_neg hok]
      rcases hwhole hopen with hok' | hreset | hnone
      · exact absurd hok' hok
      · refine .inr (.inr ⟨List.take_prefix _ _, ?_⟩)
        intro j hj
        -- the connection was on slot `i` only, and the reset has closed it there
        obtain rfl := hmine j hj
        rw [hp] at hj
        simp [perform, MultiTcpClientSocket.send_socket, hopen, hreset] at hj
      · rw [hnone]
        exact .inr (.inl rfl)
  have hahead (k' : Nat) (j : Fin maxClients) (hj : (t.side.manager.sockets j).fd = some e)
      (hk' : ¬Spares j (t.calls k')) :
      box.current k' ∉ sent.map Prod.fst ∧ box.current k' ≠ box.current k := by
    obtain rfl := hmine j hj
    have hkk : k' ≠ k := by
      intro hkk
      subst hkk
      rw [hcalls, Function.update_self] at hk'
      have honce := h.once k'
      rw [hk] at honce
      exact hk' ((honce _ trivial).1 j _ _ rfl)
    rw [hcalls, Function.update_of_ne hkk] at hk'
    exact ⟨hc.ahead k' j hi hk', fun heq => hkk (h.apart k' k j j hk' hactive heq)⟩
  obtain ⟨more, rest', hsent', hmore, hwhole'⟩ := hc.send hi (hstreams.named i e hi) hm
    (hc.ahead k i hi hactive) hlog (hp ▸ rfl) hpart hahead
  refine ⟨m, more, rest', hm, hsent', hmore, ?_⟩
  intro hok
  refine hwhole' ?_
  simp only [PeerSocket.send, hopen, if_true, if_pos hok]

/-- The connections together, where call `k` has written on one of them. -/
theorem allWritten (h : OutboxInv d box s) {sent : Conn → List (Nat × M)}
    (hall : AllDispatched d box s sent) (hk : s.calls k = .call (.send i frame dest) c)
    (hcalls : t.calls =
      Function.update s.calls k (c (perform env (.send i frame dest) s.side).1))
    (hcontinues : ∀ k, Continues (s.calls k) (t.calls k))
    (hother : ∀ e', e' ≠ e → ∃ rest, Dispatched d box t e' (sent e') rest) {m : M}
    {more : List (Nat × M)} (hm : box.messages[box.current k]? = some m)
    (hwritten : ∃ rest, Dispatched d box t e (sent e ++ more) rest)
    (hmore : more = [] ∨ more = [(box.current k, m)]) :
    AllDispatched d box t (Function.update sent e (sent e ++ more)) := by
  have hactive : ¬Silent (s.calls k) := by
    rw [hk]
    intro hsilent
    exact hsilent.1 i frame dest rfl
  have hmem {e' : Conn} {x : Nat × M} (hx : x ∈ Function.update sent e (sent e ++ more) e') :
      x ∈ sent e' ∨ e' = e ∧ x = (box.current k, m) := by
    by_cases he : e' = e
    · subst he
      rw [Function.update_self] at hx
      rcases List.mem_append.mp hx with hx | hx
      · exact .inl hx
      · rcases hmore with rfl | rfl
        · cases hx
        · exact .inr ⟨rfl, List.mem_singleton.mp hx⟩
    · rw [Function.update_of_ne he] at hx
      exact .inl hx
  -- until now the message of call `k` was nowhere
  have hnew {e' : Conn} (hdest : d.dest m ≠ broadcastID) : (box.current k, m) ∉ sent e' :=
    fun hx => hall.pending k hactive ⟨m, hm, hdest⟩ e' (List.mem_map_of_mem hx)
  refine ⟨?_, ?_, ?_⟩
  · intro e'
    by_cases he : e' = e
    · subst he
      rw [Function.update_self]
      exact hwritten
    · rw [Function.update_of_ne he]
      exact hother e' he
  · intro e₁ e₂ x hx₁ hx₂ hdest
    rcases hmem hx₁ with hold₁ | ⟨rfl, rfl⟩
    · rcases hmem hx₂ with hold₂ | ⟨rfl, rfl⟩
      · exact hall.single e₁ e₂ x hold₁ hold₂ hdest
      · exact absurd hold₁ (hnew hdest)
    · rcases hmem hx₂ with hold₂ | ⟨rfl, -⟩
      · exact absurd hold₂ (hnew hdest)
      · rfl
  · intro k' hk' hone e' hcurrent
    obtain ⟨x, hx, hnumber⟩ := List.mem_map.mp hcurrent
    rcases hmem hx with hold | ⟨rfl, rfl⟩
    · refine hall.pending k' (mt ((hcontinues k').calls _) hk') hone e' ?_
      exact hnumber ▸ List.mem_map_of_mem hold
    · by_cases hkk : k' = k
      · subst hkk
        rw [hcalls, Function.update_self] at hk'
        have honce := h.toOne k' hone
        rw [hk] at honce
        exact hk' ((honce _ trivial).1 i _ _ rfl)
      · rw [hcalls, Function.update_of_ne hkk] at hk'
        obtain ⟨j, hj⟩ := not_forall.mp (mt silent_of_spares hk')
        obtain ⟨j', hj'⟩ := not_forall.mp (mt silent_of_spares hactive)
        exact hkk (h.apart k' k j j' hj hj' hnumber.symm)

end send

/-- A step of the node that begins no call. -/
theorem sendsOn (h : OutboxInv d box s) {history : SocketHistory}
    (hstreams : ClientStreams s.opener s.side history) {addressToIp4 : List UInt8 → Bool}
    {act : OutboundAct} (hact : ∀ k unset b, act ≠ .sendHandler k unset b)
    (hwhole : WholeSends s act) (hs : s.step addressToIp4 act = some t)
    {sent : Conn → List (Nat × M)} (hall : AllDispatched d box s sent) :
    ∃ sent', SendsOn d box s t act sent sent' := by
  obtain ⟨hcontinues, -, hleaves⟩ := step_leaves hact hs
  by_cases hwrites : ∃ e, WritesOn s e act
  · cases act with
    | send k env =>
      obtain ⟨e, i, frame, dest, c, hk, hi⟩ := hwrites
      have hother (e' : Conn) (hne : e' ≠ e) : LeavesAlone e' s.side t.side := by
        refine hleaves e' ?_
        intro h'
        obtain ⟨i', frame', dest', c', hk', hi'⟩ := h'
        obtain ⟨hop, -⟩ := Prog.call.inj (hk.symm.trans hk')
        obtain ⟨rfl, -⟩ := SendOp.send.inj hop
        exact hne (Option.some.inj (hi'.symm.trans hi))
      obtain ⟨hcalls, hp⟩ : t.calls =
          Function.update s.calls k (c (perform env (.send i frame dest) s.side).1) ∧
          t.side = (perform env (.send i frame dest) s.side).2 := by
        simp only [Outbound.step, hk, Prog.step, Option.map_some] at hs
        obtain rfl := Option.some.inj hs
        exact ⟨rfl, rfl⟩
      obtain ⟨m, more, rest, hm, hsent, hmore, hok⟩ := h.written hstreams hk
        (hwhole _ (by simp [hk, Prog.next])) hcalls hp hi (hall.each e)
      refine ⟨_, h.allWritten hall hk hcalls hcontinues ?_ hm ⟨rest, hsent⟩ hmore, ?_, ?_⟩
      · intro e' hne
        exact h.wire hcontinues (hall.each e') (hother e' hne)
      · intro e'
        by_cases he : e' = e
        · subst he
          rw [Function.update_self]
          exact List.prefix_append _ _
        · rw [Function.update_of_ne he]
      · intro k' env' i' frame' dest' c' e' heq hk' hi' hok'
        obtain ⟨rfl, rfl⟩ := OutboundAct.send.inj heq
        obtain ⟨hop, -⟩ := Prog.call.inj (hk.symm.trans hk')
        obtain ⟨rfl, -⟩ := SendOp.send.inj hop
        obtain rfl := Option.some.inj (hi.symm.trans hi')
        rw [Function.update_self, hok hok']
        simp
    | _ => simp [WritesOn] at hwrites
  · refine ⟨sent, ⟨?_, hall.single, ?_⟩, fun c => List.prefix_rfl, ?_⟩
    · intro e
      exact h.wire hcontinues (hall.each e) (hleaves e fun he => hwrites ⟨e, he⟩)
    · intro k hk
      exact hall.pending k (mt ((hcontinues k).calls _) hk)
    · intro k env i frame dest c e heq hk hi
      subst heq
      exact absurd ⟨e, i, frame, dest, c, hk, hi⟩ hwrites

theorem step (h : OutboxInv d box s) {history : SocketHistory}
    (hstreams : ClientStreams s.opener s.side history) {addressToIp4 : List UInt8 → Bool}
    {act : OutboundAct} (hact : ∀ k unset b, act ≠ .sendHandler k unset b)
    (hwhole : WholeSends s act) (hs : s.step addressToIp4 act = some t) : OutboxInv d box t := by
  obtain ⟨hcontinues, hnext, hleaves⟩ := step_leaves hact hs
  obtain ⟨sent, hall⟩ := h.wires
  obtain ⟨sent', hsent⟩ := h.sendsOn hstreams hact hwhole hs hall
  refine h.goesOn hcontinues ?_ ⟨sent', hsent.all⟩
  intro c hc
  have hle := Nat.le_trans hnext hc
  have hquiet : ¬WritesOn s c act := by
    intro hwrites
    cases act with
    | send k env =>
      obtain ⟨i, frame, dest, rest, -, hi⟩ := hwrites
      exact absurd (hstreams.named i c hi) (Nat.not_lt_of_le hle)
    | _ => exact hwrites
  rw [(hleaves c hquiet).frames]
  exact h.unborn c hle

/-- A call that has something left to send has had its message before call `k` has begun. -/
theorem forOne_of_post (h : OutboxInv d box s) {j k : Nat} {m : M} (hj : j ≠ k)
    (hsilent : ¬Silent (s.calls j)) (hone : ForOne d (box.post k m) j) : ForOne d box j := by
  obtain ⟨m', hm', hdest⟩ := hone
  obtain ⟨i, hi⟩ := not_forall.mp (mt silent_of_spares hsilent)
  rw [post_current_ne box k m hj, post_old box k m (h.current_lt hi)] at hm'
  exact ⟨m', hm', hdest⟩

/-- Nothing of a new message has been sent. -/
theorem posted (h : OutboxInv d box s) {k : Nat} {m : M} {c : SendM (Option SendStatus)}
    (hcalls : t.calls = Function.update s.calls k c) (hp : t.side = s.side)
    {sent : Conn → List (Nat × M)} (hall : AllDispatched d box s sent) :
    AllDispatched d (box.post k m) t sent := by
  have hother {j : Nat} (hj : j ≠ k) : t.calls j = s.calls j := by
    rw [hcalls, Function.update_of_ne hj]
  have hnew (c : Conn) : box.messages.length ∉ (sent c).map Prod.fst :=
    fun hmem => Nat.lt_irrefl _ (hall.lt_length hmem)
  refine ⟨?_, hall.single, ?_⟩
  · intro c
    obtain ⟨rest, hc⟩ := hall.each c
    refine ⟨rest, hp ▸ hc.stream, hc.begun, ?_, hc.once, hp ▸ hc.recorded, hp ▸ hc.cut, ?_⟩
    · intro x hx
      rw [post_old box k m (hall.lt_length (List.mem_map_of_mem hx))]
      exact hc.given x hx
    · intro j i hi hj
      by_cases hjk : j = k
      · rw [hjk, post_current_self]
        exact hnew c
      · rw [hother hjk] at hj
        rw [post_current_ne box k m hjk]
        exact hc.ahead j i (hp ▸ hi) hj
  · intro j hj hone c
    by_cases hjk : j = k
    · rw [hjk, post_current_self]
      exact hnew c
    · rw [hother hjk] at hj
      rw [post_current_ne box k m hjk]
      exact hall.pending j hj (h.forOne_of_post hjk hj hone) c

/-- A call begins, with a message in its buffer. -/
theorem begins (h : OutboxInv d box s) {addressToIp4 : List UInt8 → Bool} {k : Nat}
    {unset : SocketIpStatus} {b : FwBuffer} {m : M} (hprotocol : s.idProtocol = true)
    (hb : b.Holds (d.bytes m)) (hdest : (headerScan b).receiverID = d.dest m)
    (hs : s.step addressToIp4 (.sendHandler k unset b) = some t) :
    OutboxInv d (box.post k m) t := by
  cases Outbound.step_effect addressToIp4 hs with
  | sendHandler _ _ _ hcalls _ hp =>
    rw [hprotocol] at hcalls
    have hself : t.calls k = sendHandler true unset b := by rw [hcalls, Function.update_self]
    have hother {j : Nat} (hj : j ≠ k) : t.calls j = s.calls j := by
      rw [hcalls, Function.update_of_ne hj]
    refine ⟨?_, ?_, ?_, ?_, ?_, ?_⟩
    · intro j
      by_cases hj : j = k
      · subst hj
        rw [hself]
        refine sendHandler_sends b ?_ ?_ unset
        · intro o ho i frame dest heq
          exact absurd heq (ho i frame dest)
        · intro i i' frame dest heq
          obtain ⟨-, rfl, rfl⟩ := SendOp.send.inj heq
          rw [post_current_self]
          exact ⟨m, post_new box j m, contents_of_holds hb, hdest⟩
      · rw [hother hj]
        refine (h.carries j).mono ?_
        intro o ho i frame dest heq
        obtain ⟨m', hm', hframe⟩ := ho i frame dest heq
        obtain ⟨hlt, -⟩ := List.getElem?_eq_some_iff.mp hm'
        rw [post_current_ne box k m hj, post_old box k m hlt]
        exact ⟨m', hm', hframe⟩
    · intro j
      by_cases hj : j = k
      · rw [hj, hself]
        exact sendHandler_sendsOnce true unset b
      · rw [hother hj]
        exact h.once j
    · intro j hone
      by_cases hj : j = k
      · subst hj
        obtain ⟨m', hm', hdest'⟩ := hone
        rw [post_current_self, post_new] at hm'
        obtain rfl := Option.some.inj hm'
        rw [hself]
        exact sendHandler_sendsToOne b (hdest ▸ hdest') unset
      · rw [hother hj]
        by_cases hsilent : Silent (s.calls j)
        · exact hsilent.behind
        · exact h.toOne j (h.forOne_of_post hj hsilent hone)
    · intro j j' i i' hj hj' heq
      by_cases hjk : j = k
      · by_cases hjk' : j' = k
        · rw [hjk, hjk']
        · rw [hjk, post_current_self, post_current_ne box k m hjk'] at heq
          rw [hother hjk'] at hj'
          exact absurd heq (Nat.ne_of_gt (h.current_lt hj'))
      · rw [hother hjk] at hj
        by_cases hjk' : j' = k
        · rw [hjk', post_current_self, post_current_ne box k m hjk] at heq
          exact absurd heq (Nat.ne_of_lt (h.current_lt hj))
        · rw [hother hjk'] at hj'
          rw [post_current_ne box k m hjk, post_current_ne box k m hjk'] at heq
          exact h.apart j j' i i' hj hj' heq
    · rw [hp]
      exact h.unborn
    · obtain ⟨sent, hall⟩ := h.wires
      exact ⟨sent, h.posted hcalls hp hall⟩

end OutboxInv

end invariant

end MeshNetwork.Network
