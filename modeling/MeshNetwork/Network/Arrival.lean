import MeshNetwork.Network.Messages

namespace MeshNetwork.Network

open Driver Framing Node PacketCode

/-- The task is in its loop and will come to recv again. -/
def Reading (r : Reader) : Prop :=
  match r.pc with
  | .starting => True
  | .isOpened => r.index.isSome
  | .check => r.index.isSome
  | .recv => r.index.isSome ∧ 0 < r.size
  | .handUp => r.index.isSome ∧ Inbound.readOn r.status
  | .loop => r.index.isSome ∧ Inbound.readOn r.status
  | .close => False
  | .finalClose => False
  | .ended => False

/-- How many statements the task makes before its next recv. -/
def beforeRecv : ReadPc → Nat
  | .handUp => 4
  | .loop => 3
  | .starting => 3
  | .isOpened => 2
  | .check => 1
  | _ => 0

/-- How many statements the task needs at most to have handed up `total` bytes, where every recv may
bring one byte only. -/
def readsLeft (total : Nat) (r : Reader) : Nat :=
  5 * (total - (okData r).length - (unsent r).length) + beforeRecv r.pc

/-- What read task `n` needs to read on: nobody stops the driver, the slot of the task stays open,
there are buffers, and recv succeeds. -/
def ReadsOn (n : Nat) (s : Inbound) : InboundAct → Prop
  | .readTask m env => m = n → s.stop = false ∧ ∀ r ∈ s.readers[n]?, ∀ i ∈ r.index,
      (s.manager.sockets i).isOpened = true ∧ (r.pc = .check → env.bufferSize ≠ 0) ∧
        (r.pc = .recv → env.recv.status = .success)
  | _ => True

instance (n : Nat) (s : Inbound) : (act : InboundAct) → Decidable (ReadsOn n s act)
  | .readTask m _ => inferInstanceAs (Decidable (m = n → s.stop = false ∧
      ∀ r ∈ s.readers[n]?, ∀ i ∈ r.index, _))
  | .acceptTask _ => .isTrue trivial
  | .stop => .isTrue trivial
  | .closeAll => .isTrue trivial
  | .shutdown => .isTrue trivial

/-- Where a recv is next, it brings this one byte. -/
def bringing (x : UInt8) : ReadEnv := { recv := { status := .success, bytes := [x], size := 1 } }

/-- A task that reads on: nothing that it has handed up is lost, and it comes nearer to any number
of bytes that it has not handed up yet. -/
structure ReadsFurther (r r' : Reader) : Prop where
  conn : r'.conn = r.conn
  reading : Reading r'
  handed : okData r <+: okData r'
  nearer : ∀ total, (okData r).length < total → readsLeft total r' + 1 ≤ readsLeft total r

section inbound

variable {s t : Inbound} {n : Nat} {r : Reader}

theorem Reading.size_pos (h : Reading r) (hpc : r.pc = .recv) : 0 < r.size := by
  simp only [Reading, hpc] at h
  exact h.2

theorem Reading.not_ended (h : Reading r) : r.pc ≠ .ended := by
  intro hpc
  simp [Reading, hpc] at h

theorem Reading.index_isSome (h : Reading r) (hstart : r.pc ≠ .starting) : r.index.isSome := by
  unfold Reading at h
  cases hpc : r.pc with
  | starting => exact absurd hpc hstart
  | isOpened => simpa [hpc] using h
  | check => simpa [hpc] using h
  | recv =>
    simp only [hpc] at h
    exact h.1
  | handUp =>
    simp only [hpc] at h
    exact h.1
  | loop =>
    simp only [hpc] at h
    exact h.1
  | close => simp [hpc] at h
  | finalClose => simp [hpc] at h
  | ended => simp [hpc] at h

theorem recvSize_pos {allocated : UInt32} (h : allocated ≠ 0) : 0 < Inbound.recvSize allocated := by
  have hpos : 0 < allocated.toNat :=
    Nat.pos_of_ne_zero fun hzero => h (UInt32.toNat_inj.mp hzero)
  have hlt := allocated.toNat_lt
  unfold Inbound.recvSize
  split_ifs with hsign
  · rw [toInt_toInt32] at hsign ⊢
    split_ifs at hsign ⊢ <;> omega
  · decide

/-- A statement that hands up nothing and takes nothing. -/
theorem readsFurther_of_same {r' : Reader} (hconn : r'.conn = r.conn) (hreading : Reading r')
    (hhanded : r'.handed = r.handed) (hunsent : unsent r' = unsent r)
    (hround : beforeRecv r'.pc + 1 ≤ beforeRecv r.pc) : ReadsFurther r r' := by
  have hdata : okData r' = okData r := by rw [okData, okData, hhanded]
  refine ⟨hconn, hreading, hdata ▸ List.prefix_rfl, ?_⟩
  intro total _
  rw [readsLeft, readsLeft, hdata, hunsent]
  omega

/-- A recv that succeeds takes a byte at least. -/
theorem recv_further {env : ReadEnv} {i : Fin maxClients} (hpc : r.pc = .recv)
    (hreading : Reading r) (hi : r.index = some i)
    (hopen : (s.manager.sockets i).isOpened = true) (hok : env.recv.status = .success)
    (hdoc : Documented r.size env.recv) : ReadsFurther r (s.readStepAt env r i).1 := by
  obtain ⟨hcount, hpos, hle⟩ := hdoc.success hok
  have hsize := hreading.size_pos hpc
  have hlen : 0 < (env.recv.bytes.take r.size.toNat).length := by
    rw [List.length_take]
    omega
  have hres : (s.manager.sockets i).toPeerSocket.recv r.size.toNat env.recv =
      ⟨.success, (s.manager.sockets i).toPeerSocket, env.recv.bytes.take r.size.toNat⟩ := by
    simp [PeerSocket.recv, hopen, hok]
  simp only [Inbound.readStepAt, hpc, hres, Inbound.readOn, true_or, if_true]
  refine ⟨rfl, by simp [Reading, hi, Inbound.readOn], List.prefix_rfl, ?_⟩
  intro total htotal
  simp only [readsLeft, unsent, hpc, beforeRecv, okData] at htotal ⊢
  simp only [reduceCtorEq, false_and, if_false, and_self, if_true, List.length_nil]
  omega

/-- What recv has taken is handed up. -/
theorem handUp_further {env : ReadEnv} {i : Fin maxClients} (hpc : r.pc = .handUp)
    (hreading : Reading r) : ReadsFurther r (s.readStepAt env r i).1 := by
  simp only [Reading, hpc] at hreading
  obtain ⟨hindex, hon⟩ := hreading
  have hdata : okData { r with
      handed := r.handed ++ [⟨r.allocated, if Inbound.readOn r.status then
        (Int32.ofInt r.size).toUInt32 else r.allocated, r.data, r.status = .success⟩]
      pc := .loop } = okData r ++ unsent r := by
    rw [okData_append r _ _ rfl]
    simp [unsent, hpc]
  simp only [Inbound.readStepAt, hpc]
  refine ⟨rfl, by simp [Reading, hindex, hon], hdata ▸ List.prefix_append _ _, ?_⟩
  intro total htotal
  simp only [readsLeft, hdata, List.length_append, hpc, beforeRecv]
  simp only [unsent, hpc, reduceCtorEq, true_and, false_and, if_false, List.length_nil]
  omega

/-- A statement of a task that has copied its index. -/
theorem readStepAt_further {env : ReadEnv} {i : Fin maxClients} (hreading : Reading r)
    (hi : r.index = some i) (hstart : r.pc ≠ .starting) (hstop : s.stop = false)
    (hopen : (s.manager.sockets i).isOpened = true) (hbuffer : r.pc = .check → env.bufferSize ≠ 0)
    (hrecv : r.pc = .recv → env.recv.status = .success ∧ Documented r.size env.recv) :
    ReadsFurther r (s.readStepAt env r i).1 := by
  cases hpc : r.pc with
  | starting => exact absurd hpc hstart
  | isOpened =>
    refine readsFurther_of_same ?_ ?_ ?_ ?_ ?_
    · simp [Inbound.readStepAt, hpc]
    · simp [Inbound.readStepAt, Reading, hpc, hopen, hi]
    · simp [Inbound.readStepAt, hpc]
    · simp [Inbound.readStepAt, unsent, hpc, hopen]
    · simp [Inbound.readStepAt, beforeRecv, hpc, hopen]
  | check =>
    have hsize := hbuffer hpc
    simp only [Inbound.readStepAt, hpc, hopen, hstop, and_self, if_true, if_neg hsize]
    refine readsFurther_of_same rfl ?_ rfl ?_ ?_
    · simp [Reading, hi, recvSize_pos hsize]
    · simp [unsent, hpc]
    · simp [beforeRecv, hpc]
  | recv => exact recv_further hpc hreading hi hopen (hrecv hpc).1 (hrecv hpc).2
  | handUp => exact handUp_further hpc hreading
  | loop =>
    simp only [Reading, hpc] at hreading
    obtain ⟨hindex, hon⟩ := hreading
    simp only [Inbound.readStepAt, hpc, hstop, hon, and_self, if_true]
    refine readsFurther_of_same rfl ?_ rfl ?_ ?_
    · simp [Reading, hindex]
    · simp [unsent, hpc]
    · simp [beforeRecv, hpc]
  | close => simp [Reading, hpc] at hreading
  | finalClose => simp [Reading, hpc] at hreading
  | ended => exact absurd hpc hreading.not_ended

/-- A statement of the task. -/
theorem readStep_further {env : ReadEnv} (hr : s.readers[n]? = some r) (hreading : Reading r)
    (hon : ReadsOn n s (.readTask n env)) (hdoc : RecvsDocumented s (.readTask n env))
    (hs : s.readStep env n = some t) : ∃ r', t.readers[n]? = some r' ∧ ReadsFurther r r' := by
  obtain ⟨hn, -⟩ := List.getElem?_eq_some_iff.mp hr
  obtain ⟨hstop, hneeds⟩ := hon rfl
  unfold Inbound.readStep at hs
  simp only [hr] at hs
  split_ifs at hs with hend hstart
  · obtain rfl := Option.some.inj hs
    refine ⟨_, List.getElem?_set_self hn, readsFurther_of_same rfl ?_ rfl ?_ ?_⟩
    · simp [Reading]
    · simp [unsent, hstart]
    · simp [beforeRecv, hstart]
  · obtain ⟨i, hi, rfl⟩ := Option.map_eq_some_iff.mp hs
    obtain ⟨hopen, hbuffer, hrecv⟩ := hneeds r hr i hi
    refine ⟨_, List.getElem?_set_self hn, ?_⟩
    exact readStepAt_further hreading hi hstart hstop hopen hbuffer fun hpc =>
      ⟨hrecv hpc, hdoc r hr hpc i hi hopen⟩

/-- The other steps leave the task as it is. -/
theorem step_others {act : InboundAct} (hr : s.readers[n]? = some r)
    (hact : ∀ env, act ≠ .readTask n env) (hs : s.step act = some t) :
    t.readers[n]? = some r := by
  cases act with
  | acceptTask env =>
    rcases (acceptStep_effect hs).reader n with hsame | hnew
    · exact hsame.trans hr
    · cases hnew.1.symm.trans hr
  | readTask m env =>
    have hne : n ≠ m := fun hm => hact env (hm ▸ rfl)
    exact ((readStep_reader hs).1 n hne).trans hr
  | stop =>
    obtain rfl := Option.some.inj hs
    exact hr
  | closeAll =>
    obtain rfl := Option.some.inj hs
    exact hr
  | shutdown =>
    obtain rfl := Option.some.inj hs
    exact hr

/-- A task in its loop can always make its next statement. -/
theorem exists_readStep (hr : s.readers[n]? = some r) (hreading : Reading r) (env : ReadEnv) :
    ∃ t, s.readStep env n = some t := by
  unfold Inbound.readStep
  simp only [hr, if_neg hreading.not_ended]
  split_ifs with hstart
  · exact ⟨_, rfl⟩
  · obtain ⟨i, hi⟩ := Option.isSome_iff_exists.mp (hreading.index_isSome hstart)
    simp [hi]

end inbound

/-- A step of the sending half writes behind what has been written before. -/
theorem framesOn_step {addressToIp4 : List UInt8 → Bool} {s t : Outbound} {act : OutboundAct}
    (h : s.step addressToIp4 act = some t) (c : Conn) :
    framesOn c s.side.log <+: framesOn c t.side.log := by
  cases Outbound.step_effect addressToIp4 h with
  | openTask env hcalls he =>
    rw [(leavesAlone_openTask c he).frames]
  | sendHandler k unset b hcalls _ hp => rw [hp]
  | send k env o rest hk hcalls _ he =>
    generalize t.side = p at he
    have offered (i : Fin maxClients) (dest : UInt32) (written : List UInt8) :
        framesOn c s.side.log <+:
          framesOn c (.offered i (s.side.manager.sockets i).fd dest written :: s.side.log) := by
      cases (s.side.manager.sockets i).fd with
      | none => exact List.prefix_rfl
      | some d => exact List.prefix_append _ _
    cases he with
    | quiet => exact List.prefix_rfl
    | sent i frame dest written => exact offered i dest written
    | reset i frame dest written => exact offered i dest written
    | closed => exact List.prefix_rfl
  | stop hcalls _ hp => rw [hp]
  | closeAll hcalls _ hp =>
    rw [hp]
    exact List.prefix_rfl

variable {ι : Type} [DecidableEq ι]

namespace Mesh

variable {addressToIp4 : List UInt8 → Bool} {node : List UInt8 → UInt16 → Option ι}
  {IDs : ι → UInt32} {s t : Mesh ι} {act : MeshAct ι} {b : ι} {r : Reader} {e : End ι}

theorem step_frames (hs : s.step addressToIp4 node act = some t) (e : End ι) :
    framesOn e.2 (s.clients e.1).1.side.log <+: framesOn e.2 (t.clients e.1).1.side.log := by
  cases act with
  | client a act =>
    obtain ⟨u, hu, -, hclients⟩ := step_client hs
    rw [hclients]
    by_cases ha : e.1 = a
    · rw [ha, Function.update_self]
      exact framesOn_step hu e.2
    · rw [Function.update_of_ne ha]
  | server b act caller =>
    obtain ⟨u, -, hclients, -⟩ := step_server hs
    rw [hclients]

/-- Ends that are linked stay so. -/
theorem step_partner (hs : s.step addressToIp4 node act = some t) {f : End ι}
    (hf : s.wiring.client f = some e) : t.wiring.client f = some e := by
  cases act with
  | client a act =>
    simp only [step] at hs
    split_ifs at hs
    obtain ⟨x, -, hs⟩ := Option.bind_eq_some_iff.mp hs
    obtain ⟨w, hw, rfl⟩ := Option.map_eq_some_iff.mp hs
    unfold wireClient at hw
    split at hw
    · obtain rfl := Option.some.inj hw
      exact hf
    · obtain ⟨c, -, rfl⟩ := Option.map_eq_some_iff.mp hw
      exact hf
  | server b act caller =>
    simp only [step] at hs
    split_ifs at hs
    obtain ⟨x, -, hs⟩ := Option.bind_eq_some_iff.mp hs
    obtain ⟨w, hw, rfl⟩ := Option.map_eq_some_iff.mp hs
    unfold wireServer at hw
    split_ifs at hw
    · obtain ⟨⟨-, hfree⟩, -, hclient⟩ := Wiring.accept_cases hw
      have hne : f ≠ (b, (s.servers b).1.nextConn) := by
        intro heq
        rw [heq] at hf
        cases hfree.symm.trans hf
      show w.client f = some e
      rw [hclient, Function.update_of_ne hne]
      exact hf
    · obtain rfl := Option.some.inj hw
      exact hf

/-- A statement of a read task is possible if recv brings what the connection carries. -/
theorem exists_step {n : Nat} {env : ReadEnv} {u : Inbound} (caller : End ι)
    (hu : (s.servers b).1.readStep env n = some u)
    (hhears : Hears (s.serverLine b) (s.servers b).2
      (serverEvents (s.servers b).1 (.readTask n env))) :
    ∃ t, s.step addressToIp4 node (.server b (.readTask n env) caller) = some t := by
  have hwire : s.wireServer b (.readTask n env) caller = some s.wiring := by
    simp [wireServer, accepts]
  have hrecord : recordStep Inbound.step serverEvents (s.servers b) (.readTask n env) =
      some (u, (s.servers b).2 ++ serverEvents (s.servers b).1 (.readTask n env)) := by
    rw [recordStep, Inbound.step, hu]
    rfl
  rw [step, if_pos hhears, hrecord, Option.bind_some, hwire]
  exact ⟨_, rfl⟩

namespace Inv

omit [DecidableEq ι] in
/-- As long as not all that has been written has been handed up and nothing is in hand, there is
one more byte to take off the connection. -/
theorem in_flight (h : t.Inv IDs) (hr : r ∈ (t.servers b).1.readers)
    (he : t.wiring.client (b, r.conn) = some e) (hnone : unsent r = [])
    (hmore : (okData r).length < (framesOn e.2 (t.clients e.1).1.side.log).length) :
    ∃ x, (t.servers b).2.received r.conn ++ [x] <+: (t.clients e.1).2.sent e.2 := by
  obtain ⟨hello, events, hread, hlen, hreceived⟩ := (h.servers b).streams.reading r hr
  have hstreams := (h.clients e.1).streams
  have hup := h.up e (b, r.conn) ((t.wiring.agree e (b, r.conn)).mpr he)
  rw [History.Carries, hreceived] at hup
  obtain ⟨rfl, hframes⟩ := hstreams.heard hlen hup
  have hbytes : events.flatMap ReadEvent.bytes = okData r := by
    rw [hread.bytes, hnone, List.append_nil]
    rfl
  rw [hbytes] at hframes hreceived
  have hdone : HandshakeDone (t.clients e.1).1.side.log e.2 := by
    by_contra hnot
    rw [framesOn_of_not_done (h.clients e.1).delivery.delivered hnot] at hmore
    cases hmore
  obtain ⟨more, hwritten⟩ := hframes
  cases more with
  | nil =>
    rw [List.append_nil] at hwritten
    rw [hwritten] at hmore
    exact absurd hmore (Nat.lt_irrefl _)
  | cons x more =>
    refine ⟨x, more, ?_⟩
    rw [hreceived, hstreams.talking e.2 hdone, ← hwritten]
    simp

omit [DecidableEq ι] in
/-- A read task hears what is on its connection. -/
theorem hears (h : t.Inv IDs) {n : Nat} {env : ReadEnv} {i : Fin maxClients}
    (hr : (t.servers b).1.readers[n]? = some r) (hi : r.index = some i)
    (he : t.wiring.client (b, r.conn) = some e)
    (hbytes : (t.servers b).2.received r.conn ++
      (eventsAt env (t.servers b).1 r i).flatMap ReadEvent.bytes <+: (t.clients e.1).2.sent e.2) :
    Hears (t.serverLine b) (t.servers b).2 (serverEvents (t.servers b).1 (.readTask n env)) := by
  obtain ⟨hother, -, hgot⟩ := ServerStreams.readTaskEvents_eq (h.servers b).own
    (h.servers b).params (h.servers b).free env (List.mem_of_getElem? hr) hi
  have hevents : serverEvents (t.servers b).1 (.readTask n env) =
      readTaskEvents env (t.servers b).1 r := by simp [serverEvents, hr]
  have hline : t.serverLine b r.conn = some ((t.clients e.1).2, e.2) := by
    rw [serverLine, he]
    rfl
  rw [hevents]
  intro c _
  by_cases hc : r.conn = c
  · subst hc
    refine .inr ⟨_, hline, ?_⟩
    rw [History.Carries, History.received_append, hgot]
    exact hbytes
  · exact .inl (hother c hc).2

omit [DecidableEq ι] in
/-- A read task hears a byte that continues what its connection has given. -/
theorem hears_byte (h : t.Inv IDs) {n : Nat} (hr : (t.servers b).1.readers[n]? = some r)
    (hreading : Reading r) (he : t.wiring.client (b, r.conn) = some e) {x : UInt8}
    (hx : r.pc = .recv → (t.servers b).2.received r.conn ++ [x] <+: (t.clients e.1).2.sent e.2) :
    Hears (t.serverLine b) (t.servers b).2
      (serverEvents (t.servers b).1 (.readTask n (bringing x))) := by
  have hup := h.up e (b, r.conn) ((t.wiring.agree e (b, r.conn)).mpr he)
  rw [History.Carries] at hup
  cases hi : r.index with
  | none =>
    have hevents : serverEvents (t.servers b).1 (.readTask n (bringing x)) = [] := by
      simp [serverEvents, hr, readTaskEvents, hi]
    rw [hevents]
    intro c hc
    cases hc
  | some i =>
    refine h.hears hr hi he ?_
    unfold eventsAt
    cases hpc : r.pc with
    | recv =>
      have hsize := hreading.size_pos hpc
      have htake : [x].take r.size.toNat = [x] := List.take_of_length_le (by simp; omega)
      dsimp only
      by_cases hopen : ((t.servers b).1.manager.sockets i).isOpened = true
      · simp only [PeerSocket.recv, if_pos hopen, bringing, if_true, htake, List.flatMap_singleton,
          ReadEvent.bytes]
        exact hx hpc
      · simp only [PeerSocket.recv, if_neg hopen, reduceCtorEq, if_false, List.flatMap_nil,
          List.append_nil]
        exact hup
    | check =>
      dsimp only
      split_ifs
      · simpa [ReadEvent.bytes] using hup
      · simpa using hup
    | _ => simpa using hup

/-- As long as not all that has been written has been handed up, a read task in its loop has a
statement to make that keeps clear of the known defects. -/
theorem exists_read (h : t.Inv IDs) {n : Nat} (hr : (t.servers b).1.readers[n]? = some r)
    (hreading : Reading r) (he : t.wiring.client (b, r.conn) = some e)
    (hmore : (okData r).length < (framesOn e.2 (t.clients e.1).1.side.log).length)
    (caller : End ι) : ∃ x u, KeepsClients (t.servers b).1 (.readTask n (bringing x)) ∧
      t.step addressToIp4 node (.server b (.readTask n (bringing x)) caller) = some u := by
  have hbyte : ∃ x, r.pc = .recv →
      (t.servers b).2.received r.conn ++ [x] <+: (t.clients e.1).2.sent e.2 := by
    by_cases hpc : r.pc = .recv
    · have hnone : unsent r = [] := by simp [unsent, hpc]
      obtain ⟨x, hx⟩ := h.in_flight (List.mem_of_getElem? hr) he hnone hmore
      exact ⟨x, fun _ => hx⟩
    · exact ⟨0, fun hrecv => absurd hrecv hpc⟩
  obtain ⟨x, hx⟩ := hbyte
  obtain ⟨v, hv⟩ := exists_readStep hr hreading (bringing x)
  have hstep : ∃ u, t.step addressToIp4 node (.server b (.readTask n (bringing x)) caller) =
      some u := exists_step caller hv (h.hears_byte hr hreading he hx)
  obtain ⟨u, hu⟩ := hstep
  refine ⟨x, u, ⟨trivial, ?_, trivial⟩, hu⟩
  intro r' hr' hpc i hi hopen
  obtain rfl := Option.some.inj (hr.symm.trans hr')
  have hsize := hreading.size_pos hpc
  refine ⟨?_, by simp [bringing]⟩
  intro _
  simp only [bringing, List.length_singleton]
  omega

end Inv

end Mesh

variable {link : HubLink}

namespace Swarm

/-- A statement of read task `n` of node `b`. -/
def isRead (b : ι) (n : Nat) : SwarmAct ι → Bool
  | .server b' (.readTask m _) _ _ => b' = b ∧ m = n
  | _ => false

/-- Read task `n` of node `b` finds what it needs to read on. -/
def ReadsOn (b : ι) (n : Nat) (s : Swarm ι link) : SwarmAct ι → Prop
  | .server b' act _ _ => b' = b → Network.ReadsOn n (s.mesh.servers b).1 act
  | _ => True

instance (b : ι) (n : Nat) (s : Swarm ι link) : (act : SwarmAct ι) → Decidable (s.ReadsOn b n act)
  | .server b' act _ _ =>
    inferInstanceAs (Decidable (b' = b → Network.ReadsOn n (s.mesh.servers b).1 act))
  | .client _ _ => .isTrue trivial
  | .setNum _ _ _ _ _ => .isTrue trivial
  | .ping _ _ _ _ _ _ _ => .isTrue trivial
  | .setDestId _ _ _ => .isTrue trivial

/-- Read task `n` of node `b` can make its next statement, and keeps clear of the known defects by
it. -/
def CanRead (addressToIp4 : List UInt8 → Bool) (node : List UInt8 → UInt16 → Option ι)
    (s : Swarm ι link) (b : ι) (n : Nat) : Prop :=
  ∃ x caller memory t, s.Keeps (.server b (.readTask n (bringing x)) caller memory) ∧
    s.step addressToIp4 node (.server b (.readTask n (bringing x)) caller memory) = some t

/-- Read task `n` of node `b` is in its loop and reads what is written at the end `e`, where `start`
has been written at the beginning. -/
structure ReadsFrom (IDs : ι → UInt32) (b : ι) (n : Nat) (e : End ι) (start : List UInt8)
    (s : Swarm ι link) : Prop where
  inv : s.Inv IDs
  grown : start <+: framesOn e.2 (s.mesh.clients e.1).1.side.log
  reader : ∃ r, (s.mesh.servers b).1.readers[n]? = some r ∧ Reading r ∧
    s.mesh.wiring.client (b, r.conn) = some e

section run

variable {addressToIp4 : List UInt8 → Bool} {node : List UInt8 → UInt16 → Option ι}
  {IDs : ι → UInt32} {s t : Swarm ι link} {act : SwarmAct ι} {b : ι} {n : Nat} {e : End ι}
  {start : List UInt8}

/-- A step of the network is one of its drivers, or leaves them alone. -/
theorem step_mesh (hs : s.step addressToIp4 node act = some t) :
    t.mesh = s.mesh ∨ ∃ act, s.mesh.step addressToIp4 node act = some t.mesh := by
  cases step_effect addressToIp4 node hs with
  | portIn a data cap k unset hgives hport =>
    obtain ⟨m, mesh, -, -, -, hmesh, rfl⟩ := portIn_eq_some hport
    exact .inr ⟨_, hmesh⟩
  | setDestId a port destId => exact .inl rfl
  | client a act mesh hact hmesh => exact .inr ⟨_, hmesh⟩
  | server b' act caller memory mesh hmesh => exact .inr ⟨_, hmesh⟩

/-- The task reads further by its own statements, and is left alone by all other steps. -/
theorem step_reader {r : Reader} (hr : (s.mesh.servers b).1.readers[n]? = some r)
    (hreading : Reading r) (hg : s.Keeps act) (hon : s.ReadsOn b n act)
    (hs : s.step addressToIp4 node act = some t) :
    ∃ r', (t.mesh.servers b).1.readers[n]? = some r' ∧
      (isRead b n act = false ∧ r' = r ∨ isRead b n act = true ∧ ReadsFurther r r') := by
  have aside {act : OutboundAct} {a : ι} {mesh : Mesh ι}
      (hmesh : s.mesh.step addressToIp4 node (.client a act) = some mesh) :
      (mesh.servers b).1.readers[n]? = some r := by
    obtain ⟨u, -, hservers, -⟩ := Mesh.step_client hmesh
    rw [hservers]
    exact hr
  cases step_effect addressToIp4 node hs with
  | portIn a data cap k unset hgives hport =>
    obtain ⟨m, mesh, -, -, -, hmesh, rfl⟩ := portIn_eq_some hport
    refine ⟨r, aside hmesh, .inl ⟨?_, rfl⟩⟩
    cases hgives <;> rfl
  | setDestId a port destId => exact ⟨r, hr, .inl ⟨rfl, rfl⟩⟩
  | client a act mesh hact hmesh => exact ⟨r, aside hmesh, .inl ⟨rfl, rfl⟩⟩
  | server b' act caller memory mesh hmesh =>
    obtain ⟨u, hu, -, hservers⟩ := Mesh.step_server hmesh
    by_cases hb : b' = b
    · subst hb
      have hself : (mesh.servers b').1 = u := by rw [hservers, Function.update_self]
      by_cases hread : ∃ env, act = .readTask n env
      · obtain ⟨env, rfl⟩ := hread
        obtain ⟨r', hr', hfurther⟩ := readStep_further hr hreading (hon rfl) hg.2.1 hu
        exact ⟨r', hself ▸ hr', .inr ⟨by simp [isRead], hfurther⟩⟩
      · have hact : ∀ env, act ≠ .readTask n env := fun env h => hread ⟨env, h⟩
        refine ⟨r, hself ▸ step_others hr hact hu, .inl ⟨?_, rfl⟩⟩
        cases act with
        | readTask m env =>
          have hne : m ≠ n := fun hm => hact env (hm ▸ rfl)
          simp [isRead, hne]
        | _ => rfl
    · refine ⟨r, ?_, .inl ⟨?_, rfl⟩⟩
      · show (mesh.servers b).1.readers[n]? = some r
        rw [hservers, Function.update_of_ne (Ne.symm hb)]
        exact hr
      · cases act with
        | readTask m env => simp [isRead, hb]
        | _ => rfl

/-- What read task `n` of node `b` still needs to have handed up `total` bytes. -/
def readsLeftOf (total : Nat) (s : Swarm ι link) (b : ι) (n : Nat) : Nat :=
  (((s.mesh.servers b).1.readers[n]?).map (readsLeft total)).getD 0

omit [DecidableEq ι] in
theorem readsLeftOf_eq {r : Reader} (hr : (s.mesh.servers b).1.readers[n]? = some r) (total : Nat) :
    readsLeftOf total s b n = readsLeft total r := by
  rw [readsLeftOf, hr]
  rfl

/-- One step, by whomever, takes the task nearer to its goal or leaves it where it is. -/
theorem ReadsFrom.progress (h : ReadsFrom IDs b n e start s)
    (hplain : ∀ a, ¬[tagI, tagD] <:+: bigEndian (IDs a)) (hg : s.Keeps act)
    (hon : s.ReadsOn b n act) (hs : s.step addressToIp4 node act = some t) :
    ReadsFrom IDs b n e start t ∧
      (start.length ≤ (brought n (s.uplinks b)).length →
        start.length ≤ (brought n (t.uplinks b)).length) ∧
      (¬start.length ≤ (brought n (s.uplinks b)).length →
        readsLeftOf start.length t b n + (if isRead b n act then 1 else 0) ≤
          readsLeftOf start.length s b n) := by
  have hinv := h.inv.step hplain hg hs
  obtain ⟨r, hr, hreading, he⟩ := h.reader
  obtain ⟨r', hr', hcases⟩ := step_reader hr hreading hg hon hs
  have hgrown : start <+: framesOn e.2 (t.mesh.clients e.1).1.side.log ∧
      t.mesh.wiring.client (b, r.conn) = some e := by
    rcases step_mesh hs with hsame | ⟨act, hmesh⟩
    · rw [hsame]
      exact ⟨h.grown, he⟩
    · exact ⟨h.grown.trans (Mesh.step_frames hmesh e), Mesh.step_partner hmesh he⟩
  rw [h.inv.brought_eq hr, hinv.brought_eq hr', readsLeftOf_eq hr, readsLeftOf_eq hr']
  rcases hcases with ⟨haside, rfl⟩ | ⟨hread, hfurther⟩
  · refine ⟨⟨hinv, hgrown.1, r', hr', hreading, hgrown.2⟩, id, ?_⟩
    intro _
    simp [haside]
  · refine ⟨⟨hinv, hgrown.1, r', hr', hfurther.reading, hfurther.conn ▸ hgrown.2⟩, ?_, ?_⟩
    · intro hall
      exact hall.trans hfurther.handed.length_le
    · intro hmore
      rw [if_pos hread]
      exact hfurther.nearer _ (Nat.lt_of_not_le hmore)

/-- As long as not all is handed up, the task has a statement to make. -/
theorem ReadsFrom.canRead (h : ReadsFrom IDs b n e start s)
    (hmore : ¬start.length ≤ (brought n (s.uplinks b)).length) :
    s.CanRead addressToIp4 node b n := by
  obtain ⟨r, hr, hreading, he⟩ := h.reader
  rw [h.inv.brought_eq hr] at hmore
  have hwritten := (Nat.lt_of_not_le hmore).trans_le h.grown.length_le
  obtain ⟨x, mesh, hkeeps, hmesh⟩ := h.inv.mesh.exists_read hr hreading he hwritten e
  exact ⟨x, e, fun _ => 0, _, hkeeps, congrArg (Option.map _) hmesh⟩

/-- Where all of `start` has been handed up, no message in it is missing. -/
theorem ReadsFrom.all_arrived {ms : List (Nat × link.Message)} {rest : List UInt8}
    {L : List (End ι × Nat × link.Message)}
    (h : ReadsFrom IDs b n e (link.code.packAll (ms.map (·.2.packet)) ++ rest) t)
    (hall : (link.code.packAll (ms.map (·.2.packet)) ++ rest).length ≤
      (brought n (t.uplinks b)).length) (hL : Covers t b L) :
    ms.map Prod.snd <+: (messagesOf e L).map Prod.snd := by
  obtain ⟨r, hr, -, he⟩ := h.reader
  obtain ⟨more, hmore, hdata⟩ := hL n r e hr he
  obtain ⟨e', hserved⟩ := h.inv.mesh.servedBy (List.mem_of_getElem? hr)
  obtain rfl : e' = e := Option.some.inj (hserved.partner.symm.trans he)
  have hpre := h.inv.okData_prefix (List.mem_of_getElem? hr) hserved
  rw [h.inv.brought_eq hr] at hall
  have hstart := (List.prefix_append _ _).trans (List.prefix_of_prefix_length_le h.grown hpre hall)
  rw [hdata, ← List.append_nil (link.code.packAll (ms.map _))] at hstart
  have hpackets := prefix_of_packAll hmore link.code.begun_nil hstart
  have hmap (xs : List (Nat × link.Message)) :
      xs.map (·.2.packet) = (xs.map Prod.snd).map (·.packet) := List.map_map.symm
  rw [hmap, hmap] at hpackets
  obtain ⟨ns, hns, heq⟩ := List.prefix_map_iff.mp hpackets
  rwa [List.map_injective_iff.mpr HubLink.packet_injective heq]

end run

end Swarm

/-- What has been sent arrives. From any state that a network reaches whose nodes keep clear of the
known defects, however the nodes go on: as long as a read task finds what it needs to read on, the
components of its node get from the other end, first of all and in order, what had been sent there;
or the task has made no more statements than a bound allows and can make its next one. -/
theorem sent_arrives (addressToIp4 : List UInt8 → Bool)
    (node : List UInt8 → UInt16 → Option ι) (link : HubLink) (IDs : ι → UInt32)
    (hplain : ∀ a, ¬[tagI, tagD] <:+: bigEndian (IDs a)) (adjM : ι → Nat → UInt8)
    (before after : List (SwarmAct ι)) (s t : Swarm ι link)
    (hbefore : run (Swarm.step addressToIp4 node) (.init link IDs adjM) before = some s)
    (hafter : run (Swarm.step addressToIp4 node) s after = some t)
    (hkeeps : AllSteps (Swarm.step addressToIp4 node) Swarm.Keeps
      (.init link IDs adjM) before)
    (hkeeps' : AllSteps (Swarm.step addressToIp4 node) Swarm.Keeps s after)
    (b : ι) (n : Nat) (r : Reader) (hr : (s.mesh.servers b).1.readers[n]? = some r)
    (hreading : Reading r)
    (hon : AllSteps (Swarm.step addressToIp4 node) (Swarm.ReadsOn b n) s after)
    (hturns : link.code.TakeTurns (t.uplinks b)) :
    ∃ e sent sent' L, s.mesh.wiring.client (b, r.conn) = some e ∧ Sent s sent ∧ Sent t sent' ∧
      Arrives IDs t b sent' L ∧
      ((sent e).map Prod.snd <+: (messagesOf e L).map Prod.snd ∨
        after.countP (Swarm.isRead b n) ≤
            readsLeft (framesOn e.2 (s.mesh.clients e.1).1.side.log).length r ∧
          t.CanRead addressToIp4 node b n) := by
  have hinv := run_invariant (fun _ _ _ hi hg hs => Swarm.Inv.step hi hplain hg hs)
    (Swarm.inv_init link IDs adjM) hkeeps hbefore
  obtain ⟨sent, hsent⟩ := hinv.exists_sent
  obtain ⟨e, rest, hserved, hdispatched, -⟩ := hinv.brought_prefix hsent hr
  have hstream : framesOn e.2 (s.mesh.clients e.1).1.side.log =
      link.code.packAll ((sent e).map (·.2.packet)) ++ rest := hdispatched.stream
  have hstart : Swarm.ReadsFrom IDs b n e
      (link.code.packAll ((sent e).map (·.2.packet)) ++ rest) s :=
    ⟨hinv, hstream ▸ List.prefix_rfl, r, hr, hreading, hserved.partner⟩
  obtain ⟨hreads, -, hends⟩ := run_reaches (p := Swarm.isRead b n)
    (fun _ _ _ hi hg hs => Swarm.ReadsFrom.progress hi hplain hg.1 hg.2 hs)
    hstart (hkeeps'.and hon) hafter
  obtain ⟨sent', hsent'⟩ := hreads.inv.exists_sent
  obtain ⟨L, hL, hcovers⟩ := hreads.inv.exists_arrives_covers hsent' b hturns
  refine ⟨e, sent, sent', L, hserved.partner, hsent, hsent', hL, ?_⟩
  rw [hstream]
  by_cases hall : (link.code.packAll ((sent e).map (·.2.packet)) ++ rest).length ≤
      (brought n (t.uplinks b)).length
  · exact .inl (hreads.all_arrived hall hcovers)
  · have hbound := hends.resolve_left hall
    rw [Swarm.readsLeftOf_eq hr] at hbound
    exact .inr ⟨Nat.le_of_add_left_le hbound, hreads.canRead hall⟩

/-- The two nodes when the number has been written and node `true` has not read yet. -/
def numberSent : Swarm Bool fprimeLink :=
  (run (Swarm.step (fun _ => true) fun _ _ => some true) numberInit (numberActs.take 25)).get
    (by decide +kernel)

def numberReader : Reader :=
  (numberSent.mesh.servers true).1.readers[0]?.get (by decide +kernel)

theorem sent_arrives_number : numberSent.received true = [] ∧ numberEnd.received true = [.val1 42] ∧
    ∃ e sent sent' L, numberSent.mesh.wiring.client (true, numberReader.conn) = some e ∧
      Sent numberSent sent ∧ Sent numberEnd sent' ∧ Arrives pairIDs numberEnd true sent' L ∧
      ((sent e).map Prod.snd <+: (messagesOf e L).map Prod.snd ∨
        (numberActs.drop 25).countP (Swarm.isRead true 0) ≤
            readsLeft (framesOn e.2 (numberSent.mesh.clients e.1).1.side.log).length numberReader ∧
          numberEnd.CanRead (fun _ => true) (fun _ _ => some true) true 0) := by
  have hpc : numberReader.pc = .starting := by decide +kernel
  have hbefore : run (Swarm.step (fun _ => true) fun _ _ => some true) numberInit
      (numberActs.take 25) = some numberSent := (Option.some_get (by decide +kernel)).symm
  have hafter : run (Swarm.step (fun _ => true) fun _ _ => some true) numberInit numberActs =
      some numberEnd := (Option.some_get (by decide +kernel)).symm
  rw [← List.take_append_drop 25 numberActs, run_append, hbefore, Option.bind_some] at hafter
  refine ⟨by decide +kernel, by decide +kernel, ?_⟩
  exact sent_arrives (fun _ => true) (fun _ _ => some true) fprimeLink pairIDs (by decide) _
    (numberActs.take 25) (numberActs.drop 25) numberSent numberEnd hbefore hafter
    (by decide +kernel) (by decide +kernel) true 0 numberReader
    (Option.some_get (by decide +kernel)).symm (by simp [Reading, hpc]) (by decide +kernel)
    (takeTurns_of_source 0 (by decide +kernel))

end MeshNetwork.Network
