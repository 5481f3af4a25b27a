import MeshNetwork.Framework.Counting
import MeshNetwork.Node.Inbound

namespace MeshNetwork.Node

open Driver

/-- What the documentation of recv promises about a request of at most `n` bytes: after a success
the count is that of the bytes, and an interrupted recv leaves -1. -/
structure Documented (n : Int) (o : RecvOutcome) : Prop where
  success : o.status = .success → o.size = o.bytes.length ∧ 0 < o.size ∧ o.size ≤ n
  interrupted : o.status = .interruptedTryAgain → o.size = -1

instance (n : Int) (o : RecvOutcome) : Decidable (Documented n o) :=
  decidable_of_iff ((o.status = .success → o.size = o.bytes.length ∧ 0 < o.size ∧ o.size ≤ n) ∧
    (o.status = .interruptedTryAgain → o.size = -1))
    ⟨fun h => ⟨h.1, h.2⟩, fun h => ⟨h.success, h.interrupted⟩⟩

/-- A condition on the outcomes that the read tasks get from recv on open sockets. -/
def OnRecv (P : Reader → RecvOutcome → Prop) (s : Inbound) : InboundAct → Prop
  | .readTask n env => ∀ r ∈ s.readers[n]?, r.pc = .recv → ∀ i ∈ r.index,
      (s.manager.sockets i).isOpened = true → P r env.recv
  | _ => True

instance (P : Reader → RecvOutcome → Prop) [∀ r o, Decidable (P r o)] (s : Inbound) :
    (act : InboundAct) → Decidable (OnRecv P s act)
  | .readTask n _ => inferInstanceAs (Decidable (∀ r ∈ s.readers[n]?, _))
  | .acceptTask _ => .isTrue trivial
  | .stop => .isTrue trivial
  | .closeAll => .isTrue trivial
  | .shutdown => .isTrue trivial

def RecvsDocumented : Inbound → InboundAct → Prop := OnRecv fun r o => Documented r.size o

instance (s : Inbound) (act : InboundAct) : Decidable (RecvsDocumented s act) :=
  inferInstanceAs (Decidable (OnRecv _ s act))

/-- What a read task gets: a buffer, by its size, from getBuffer, and bytes from recv. -/
inductive ReadEvent where
  | obtained (size : UInt32)
  | received (bytes : List UInt8)
  deriving DecidableEq, Repr

def ReadEvent.size? : ReadEvent → Option UInt32
  | .obtained size => some size
  | .received _ => none

def ReadEvent.bytes : ReadEvent → List UInt8
  | .obtained _ => []
  | .received bytes => bytes

/-- What a statement of a read task at slot `i` gets. -/
def eventsAt (env : ReadEnv) (s : Inbound) (r : Reader) (i : Fin maxClients) : List ReadEvent :=
  match r.pc with
  | .check =>
    if (s.manager.sockets i).isOpened ∧ s.stop = false then [.obtained env.bufferSize] else []
  | .recv =>
    let res := (s.manager.sockets i).toPeerSocket.recv r.size.toNat env.recv
    if res.status = .success then [.received res.bytes] else []
  | _ => []

/-- What read task `n` gets in a step. -/
def readEvents (n : Nat) (s : Inbound) : InboundAct → List ReadEvent
  | .readTask m env =>
    if m = n then
      ((s.readers[n]?).bind fun r => r.index.map (eventsAt env s r)).getD []
    else []
  | _ => []

/-- The bytes that a buffer presents by its size, over whatever else is in its memory. -/
def contents (h : HandedUp) (memory : Nat → UInt8) : List UInt8 :=
  (List.range h.size.toNat).map (fill h.data memory)

/-- The bytes handed up with RECV_OK; `memory` is what each buffer held before. -/
def handedBytes (memory : Nat → Nat → UInt8) (handed : List HandedUp) : List UInt8 :=
  (handed.mapIdx fun k h => if h.ok then contents h (memory k) else []).flatten

/-- The buffer that a read task has obtained and not yet handed up. -/
def inHand (r : Reader) : Option UInt32 :=
  if r.pc = .recv ∨ r.pc = .close ∨ r.pc = .handUp then some r.allocated else none

/-- The bytes that a read task is about to hand up. -/
def unsent (r : Reader) : List UInt8 := if r.pc = .handUp ∧ r.status = .success then r.data else []

/-- What has been received has been handed up in order, save for the buffer in hand; and the
buffers are handed up in turn, each of them once. -/
structure StreamIntact (r : Reader) (events : List ReadEvent) : Prop where
  stream : ∀ memory,
    events.flatMap ReadEvent.bytes = handedBytes memory r.handed ++ unsent r
  buffers : events.filterMap ReadEvent.size? =
    r.handed.map (·.allocated) ++ (inHand r).toList

section invariant

/-- What has been received has been handed up, save for the buffer in hand, and every size that is
handed up with RECV_OK is that of the data. -/
structure ReadInv (r : Reader) (events : List ReadEvent) : Prop where
  bytes : events.flatMap ReadEvent.bytes =
    (r.handed.flatMap fun h => if h.ok then h.data else []) ++ unsent r
  buffers : events.filterMap ReadEvent.size? = r.handed.map (·.allocated) ++ (inHand r).toList
  sized : ∀ h ∈ r.handed, h.ok = true → h.size.toNat = h.data.length
  request : r.pc = .recv → r.size < 2 ^ 31
  count : r.pc = .handUp → r.status = .success →
    (Int32.ofInt r.size).toUInt32.toNat = r.data.length
  closing : r.pc = .close → r.status ≠ .success

theorem recvSize_lt (allocated : UInt32) : Inbound.recvSize allocated < 2 ^ 31 := by
  have hlt := allocated.toInt32.toInt_lt
  unfold Inbound.recvSize
  split_ifs
  · exact hlt
  · decide

theorem contents_of_length {h : HandedUp} (hsize : h.size.toNat = h.data.length)
    (memory : Nat → UInt8) : contents h memory = h.data := by
  rw [contents, hsize]
  refine List.ext_getElem (by simp) ?_
  intro k hk hk'
  simp [fill, hk']

/-- The invariant says what the buffers present. -/
theorem ReadInv.streamIntact {r : Reader} {events : List ReadEvent} (h : ReadInv r events) :
    StreamIntact r events := by
  refine ⟨?_, h.buffers⟩
  intro memory
  have hcontents : (r.handed.mapIdx fun k h => if h.ok then contents h (memory k) else []) =
      r.handed.map fun h => if h.ok then h.data else [] := by
    refine List.ext_getElem (by simp) ?_
    intro k hk hk'
    rw [List.getElem_mapIdx, List.getElem_map]
    split_ifs with hok
    · exact contents_of_length (h.sized _ (List.getElem_mem _) hok) (memory k)
    · rfl
  rw [h.bytes, handedBytes, hcontents, List.flatMap_def]

theorem readInv_new {r : Reader} (hpc : r.pc = .starting) (hhanded : r.handed = []) :
    ReadInv r [] := by
  refine ⟨?_, ?_, ?_, ?_, ?_, ?_⟩ <;> simp [unsent, inHand, hpc, hhanded]

/-- A statement that gets nothing and hands up nothing, outside the part with a buffer. -/
theorem ReadInv.aside {r r' : Reader} {events : List ReadEvent} (h : ReadInv r events)
    (hnone : inHand r = none) (hnone' : inHand r' = none) (hhanded : r'.handed = r.handed) :
    ReadInv r' events := by
  have hclear (q : Reader) (hq : inHand q = none) :
      q.pc ≠ .recv ∧ q.pc ≠ .close ∧ q.pc ≠ .handUp := by
    unfold inHand at hq
    split_ifs at hq with hpc
    exact ⟨fun hp => hpc (.inl hp), fun hp => hpc (.inr (.inl hp)), fun hp => hpc (.inr (.inr hp))⟩
  obtain ⟨-, -, hhandUp⟩ := hclear r hnone
  obtain ⟨hrecv', hclose', hhandUp'⟩ := hclear r' hnone'
  refine ⟨?_, ?_, ?_, ?_, ?_, ?_⟩
  · have hbytes := h.bytes
    rw [unsent, if_neg fun hp => hhandUp hp.1] at hbytes
    rw [unsent, if_neg fun hp => hhandUp' hp.1, hhanded]
    exact hbytes
  · rw [hnone', hhanded, ← hnone]
    exact h.buffers
  · rw [hhanded]
    exact h.sized
  · intro hp
    exact absurd hp hrecv'
  · intro hp
    exact absurd hp hhandUp'
  · intro hp
    exact absurd hp hclose'

/-- getBuffer gives a buffer, which goes up at once if it is empty. -/
theorem ReadInv.check {r : Reader} {events : List ReadEvent} (h : ReadInv r events)
    (hpc : r.pc = .check) (size : UInt32) :
    ReadInv { r with handed := r.handed ++ [⟨size, 0, [], false⟩], pc := .loop }
        (events ++ [.obtained size]) ∧
      ReadInv { r with allocated := size, size := Inbound.recvSize size, pc := .recv }
        (events ++ [.obtained size]) := by
  have hbytes := h.bytes
  have hbuffers := h.buffers
  simp only [unsent, inHand, hpc, reduceCtorEq, false_and, or_false, if_false, List.append_nil,
    Option.toList_none] at hbytes hbuffers
  constructor
  · refine ⟨?_, ?_, ?_, by simp, by simp, by simp⟩
    · simp [hbytes, unsent, ReadEvent.bytes]
    · simp [hbuffers, inHand, ReadEvent.size?]
    · intro h' hh' hok
      rcases List.mem_append.mp hh' with hh' | hh'
      · exact h.sized h' hh' hok
      · obtain rfl := List.mem_singleton.mp hh'
        cases hok
  · refine ⟨?_, ?_, h.sized, fun _ => recvSize_lt size, by simp, by simp⟩
    · simp [hbytes, unsent, ReadEvent.bytes]
    · simp [hbuffers, inHand, ReadEvent.size?]

/-- Between getBuffer and the hand-up, what has been received before has been handed up. -/
theorem ReadInv.holding {r : Reader} {events : List ReadEvent} (h : ReadInv r events)
    (hpc : r.pc = .recv ∨ r.pc = .close) :
    events.flatMap ReadEvent.bytes = (r.handed.flatMap fun h => if h.ok then h.data else []) ∧
      events.filterMap ReadEvent.size? = r.handed.map (·.allocated) ++ [r.allocated] := by
  have hbytes := h.bytes
  have hbuffers := h.buffers
  have hnot : r.pc ≠ .handUp := by
    rcases hpc with hp | hp <;> simp [hp]
  rw [unsent, if_neg fun hp => hnot hp.1, List.append_nil] at hbytes
  rw [inHand, if_pos (by tauto)] at hbuffers
  exact ⟨hbytes, hbuffers⟩

/-- A recv that does not succeed brings nothing to hand up. -/
theorem ReadInv.failed {r : Reader} {events : List ReadEvent} (h : ReadInv r events)
    (hpc : r.pc = .recv) {status : SocketIpStatus} (hs : status ≠ .success) (size : Int)
    (data : List UInt8) {pc : ReadPc} (hpc' : pc = .handUp ∨ pc = .close) :
    ReadInv { r with status := status, size := size, data := data, pc := pc } events := by
  obtain ⟨hbytes, hbuffers⟩ := h.holding (.inl hpc)
  refine ⟨?_, ?_, h.sized, ?_, ?_, fun _ => hs⟩
  · simp [hbytes, unsent, hs]
  · rcases hpc' with rfl | rfl <;> simp [hbuffers, inHand]
  · intro hrecv
    rcases hpc' with rfl | rfl <;> cases hrecv
  · intro _ hok
    exact absurd hok hs

theorem ReadInv.received {r : Reader} {events : List ReadEvent} (h : ReadInv r events)
    (hpc : r.pc = .recv) {o : RecvOutcome} (hs : o.status = .success)
    (hdoc : Documented r.size o) :
    ReadInv { r with
        status := .success, size := o.size, data := o.bytes.take r.size.toNat, pc := .handUp }
      (events ++ [.received (o.bytes.take r.size.toNat)]) := by
  obtain ⟨hcount, hpos, hle⟩ := hdoc.success hs
  have hrequest := h.request hpc
  have hall : o.bytes.take r.size.toNat = o.bytes := List.take_of_length_le (by omega)
  obtain ⟨hbytes, hbuffers⟩ := h.holding (.inl hpc)
  rw [hall]
  refine ⟨?_, ?_, h.sized, by simp, ?_, by simp⟩
  · simp [hbytes, unsent, ReadEvent.bytes]
  · simp [hbuffers, inHand, ReadEvent.size?]
  · intro _ _
    dsimp only
    rw [hcount, toNat_toUInt32_ofInt]
    omega

theorem ReadInv.closed {r : Reader} {events : List ReadEvent} (h : ReadInv r events)
    (hpc : r.pc = .close) : ReadInv { r with pc := .handUp } events := by
  have hs := h.closing hpc
  obtain ⟨hbytes, hbuffers⟩ := h.holding (.inr hpc)
  refine ⟨?_, ?_, h.sized, by simp, ?_, by simp⟩
  · simp [hbytes, unsent, hs]
  · simp [hbuffers, inHand]
  · intro _ hok
    exact absurd hok hs

/-- sendBuffer takes the buffer in hand. -/
theorem ReadInv.handUp {r : Reader} {events : List ReadEvent} (h : ReadInv r events)
    (hpc : r.pc = .handUp) :
    ReadInv { r with
        handed := r.handed ++ [⟨r.allocated,
          if Inbound.readOn r.status then (Int32.ofInt r.size).toUInt32 else r.allocated, r.data,
          r.status = .success⟩]
        pc := .loop } events := by
  have hbytes := h.bytes
  have hbuffers := h.buffers
  simp only [unsent, inHand, hpc, or_true, if_true, true_and] at hbytes hbuffers
  refine ⟨?_, ?_, ?_, by simp, by simp, by simp⟩
  · simp [hbytes, unsent]
  · simp [hbuffers, inHand]
  · intro h' hh' hok
    rcases List.mem_append.mp hh' with hh' | hh'
    · exact h.sized h' hh' hok
    · obtain rfl := List.mem_singleton.mp hh'
      have hs : r.status = .success := of_decide_eq_true hok
      dsimp only
      rw [if_pos (.inl hs)]
      exact h.count hpc hs

/-- A statement of a read task keeps the invariant, with what it gets. -/
theorem ReadInv.readStepAt {env : ReadEnv} {s : Inbound} {r : Reader} {i : Fin maxClients}
    {events : List ReadEvent} (h : ReadInv r events)
    (hdoc : r.pc = .recv → (s.manager.sockets i).isOpened = true → Documented r.size env.recv) :
    ReadInv (s.readStepAt env r i).1 (events ++ eventsAt env s r i) := by
  unfold Inbound.readStepAt eventsAt
  cases hpc : r.pc with
  | starting => simpa [hpc] using h
  | ended => simpa [hpc] using h
  | isOpened =>
    rw [List.append_nil]
    refine h.aside (by simp [inHand, hpc]) ?_ rfl
    dsimp only
    split_ifs <;> simp [inHand]
  | check =>
    obtain ⟨hempty, hfull⟩ := h.check hpc env.bufferSize
    dsimp only
    split_ifs with hgo h0
    · rw [h0] at hempty ⊢
      exact hempty
    · exact hfull
    · rw [List.append_nil]
      exact h.aside (by simp [inHand, hpc]) (by simp [inHand]) rfl
  | recv =>
    by_cases hs : (s.manager.sockets i).isOpened = true ∧ env.recv.status = .success
    · have hreceived := h.received hpc hs.2 (hdoc hpc hs.1)
      simpa [PeerSocket.recv, hs.1, hs.2, Inbound.readOn] using hreceived
    · have hfailed : ((s.manager.sockets i).toPeerSocket.recv r.size.toNat env.recv).status ≠
          .success := by
        rw [PeerSocket.recv_status]
        split_ifs with ho
        · exact fun hok => hs ⟨ho, hok⟩
        · simp
      simp only [if_neg hfailed, List.append_nil]
      refine h.failed hpc hfailed _ _ ?_
      split_ifs
      · exact .inl rfl
      · exact .inr rfl
  | close =>
    rw [List.append_nil]
    exact h.closed hpc
  | handUp =>
    rw [List.append_nil]
    exact h.handUp hpc
  | loop =>
    rw [List.append_nil]
    refine h.aside (by simp [inHand, hpc]) ?_ rfl
    dsimp only
    split_ifs <;> simp [inHand]
  | finalClose =>
    rw [List.append_nil]
    exact h.aside (by simp [inHand, hpc]) (by simp [inHand]) rfl

end invariant

section run

variable {s t : Inbound} {n : Nat}

/-- acceptTask leaves a task alone, or it has just started it. -/
theorem AcceptEffect.reader {env : AcceptEnv} (h : AcceptEffect env s t) (n : Nat) :
    t.readers[n]? = s.readers[n]? ∨
      s.readers[n]? = none ∧ ∃ r, t.readers[n]? = some r ∧ r.pc = .starting ∧ r.handed = [] := by
  cases h with
  | started i c k =>
    rcases Nat.lt_trichotomy n s.readers.length with hn | hn | hn
    · exact .inl (List.getElem?_append_left hn)
    · subst hn
      exact .inr ⟨List.getElem?_eq_none (Nat.le_refl _), _, List.getElem?_concat_length, rfl, rfl⟩
    · left
      rw [List.getElem?_eq_none (by simp; omega), List.getElem?_eq_none (by omega)]
  | _ => exact .inl rfl

/-- A statement of read task `m` is its first one or one on its slot; the others stay. -/
theorem readStep_reader {env : ReadEnv} {m : Nat} (h : s.readStep env m = some t) :
    (∀ n ≠ m, t.readers[n]? = s.readers[n]?) ∧ ∃ r, s.readers[m]? = some r ∧
      (r.pc = .starting ∧
          t.readers[m]? = some { r with index := some (s.params.getD env.index), pc := .isOpened } ∨
        ∃ i, r.index = some i ∧ t.readers[m]? = some (s.readStepAt env r i).1) := by
  unfold Inbound.readStep at h
  cases hr : s.readers[m]? with
  | none => simp [hr] at h
  | some r =>
    have hlt := (List.getElem?_eq_some_iff.mp hr).1
    simp only [hr] at h
    split_ifs at h with hend hstart
    · obtain rfl := Option.some.inj h
      refine ⟨fun n hn => List.getElem?_set_ne hn.symm, r, rfl, .inl ⟨hstart, ?_⟩⟩
      exact List.getElem?_set_self hlt
    · obtain ⟨i, hi, rfl⟩ := Option.map_eq_some_iff.mp h
      refine ⟨fun n hn => List.getElem?_set_ne hn.symm, r, rfl, .inr ⟨i, hi, ?_⟩⟩
      exact List.getElem?_set_self hlt

/-- What holds of a task that is just started, and is kept by its statements with what they get,
holds of every task in every run. -/
theorem task_invariant {I : Reader → List ReadEvent → Prop} {P : Reader → RecvOutcome → Prop}
    (hnew : ∀ r, r.pc = .starting → r.handed = [] → I r [])
    (hcopied : ∀ r events i, I r events → r.pc = .starting →
      I { r with index := some i, pc := .isOpened } events)
    (hread : ∀ (env : ReadEnv) (s : Inbound) (r : Reader) (i : Fin maxClients) events, I r events →
      (r.pc = .recv → (s.manager.sockets i).isOpened = true → P r env.recv) →
      I (s.readStepAt env r i).1 (events ++ eventsAt env s r i))
    {deviceID : UInt32} {idProtocol : Bool} {acts : List InboundAct} {events : List ReadEvent}
    (hrun : run (recordStep Inbound.step (readEvents n))
      ({ deviceID := deviceID, idProtocol := idProtocol }, []) acts = some (t, events))
    (hP : AllSteps Inbound.step (OnRecv P) { deviceID := deviceID, idProtocol := idProtocol } acts)
    {r : Reader} (hlast : t.readers[n]? = some r) : I r events := by
  let J (x : Inbound × List ReadEvent) : Prop :=
    (x.1.readers[n]? = none → x.2 = []) ∧ ∀ r, x.1.readers[n]? = some r → I r x.2
  have hinv : J (t, events) := by
    refine run_invariant (I := J) ?_ ⟨fun _ => rfl, fun r hr => by cases hr⟩
      (allSteps_recordStep hP) hrun
    intro x act y h hP hstep
    obtain ⟨t, ht, rfl⟩ := Option.map_eq_some_iff.mp hstep
    have hsame (hr : t.readers[n]? = x.1.readers[n]?) (hnone : readEvents n x.1 act = []) :
        J (t, x.2 ++ readEvents n x.1 act) := by
      rw [hnone, List.append_nil]
      exact ⟨fun hn => h.1 (hr ▸ hn), fun r hsome => h.2 r (hr ▸ hsome)⟩
    have hnext {r : Reader} (hr : t.readers[n]? = some r)
        (hI : I r (x.2 ++ readEvents n x.1 act)) : J (t, x.2 ++ readEvents n x.1 act) := by
      refine ⟨fun hn => absurd (hr.symm.trans hn) (by simp), ?_⟩
      intro r' hr'
      obtain rfl := Option.some.inj (hr.symm.trans hr')
      exact hI
    cases act with
    | acceptTask env =>
      rcases (acceptStep_effect ht).reader n with hr | ⟨hnone, r, hr, hpc, hhanded⟩
      · exact hsame hr rfl
      · refine hnext hr ?_
        rw [h.1 hnone]
        exact hnew r hpc hhanded
    | readTask m env =>
      obtain ⟨hothers, r, hr, hor⟩ := readStep_reader ht
      by_cases hm : m = n
      · subst hm
        have hevents : readEvents m x.1 (.readTask m env) =
            (r.index.map (eventsAt env x.1 r)).getD [] := by simp [readEvents, hr]
        rcases hor with ⟨hpc, hr'⟩ | ⟨i, hi, hr'⟩
        · have hnone : readEvents m x.1 (.readTask m env) = [] := by
            rw [hevents]
            cases r.index with
            | none => rfl
            | some i => simp [eventsAt, hpc]
          refine hnext hr' ?_
          rw [hnone, List.append_nil]
          exact hcopied r x.2 _ (h.2 r hr) hpc
        · refine hnext hr' ?_
          rw [hevents, hi]
          exact hread env x.1 r i x.2 (h.2 r hr) fun hpc ho => hP r hr hpc i hi ho
      · exact hsame (hothers n fun hn => hm hn.symm) (if_neg hm)
    | stop =>
      obtain rfl := Option.some.inj ht
      exact hsame rfl rfl
    | closeAll =>
      obtain rfl := Option.some.inj ht
      exact hsame rfl rfl
    | shutdown =>
      obtain rfl := Option.some.inj ht
      exact hsame rfl rfl
  exact hinv.2 r hlast

end run

/-- Received stream. In every run, whatever the other tasks do, a read task hands up the bytes that
recv has returned, and each buffer once. -/
theorem received_stream (deviceID : UInt32) (idProtocol : Bool) (n : Nat) (acts : List InboundAct)
    (t : Inbound) (events : List ReadEvent) (r : Reader)
    (hrun : run (recordStep Inbound.step (readEvents n))
      ({ deviceID := deviceID, idProtocol := idProtocol }, []) acts = some (t, events))
    (hdoc : AllSteps Inbound.step RecvsDocumented
      { deviceID := deviceID, idProtocol := idProtocol } acts)
    (hr : t.readers[n]? = some r) : StreamIntact r events := by
  have hinv : ReadInv r events := by
    refine task_invariant (fun r => readInv_new) ?_ ?_ hrun hdoc hr
    · intro r events i h hpc
      exact h.aside (by simp [inHand, hpc]) (by simp [inHand]) rfl
    · intro env s r i events h hdoc
      exact h.readStepAt hdoc
  exact hinv.streamIntact

/-- A client whose task reads two bytes, gets an interrupted recv, and reads a third. -/
def threeReads : List InboundAct :=
  newClient 0x20202021 ++ reads 0 6 { status := .success, bytes := [7, 8], size := 2 } ++
    reads 0 5 { status := .interruptedTryAgain, size := -1 } ++
    reads 0 5 { status := .success, bytes := [9], size := 1 }

def threeReadsEnd : Inbound × List ReadEvent :=
  (run (recordStep Inbound.step (readEvents 0)) ({ deviceID := baseID }, []) threeReads).get
    (by rfl)

theorem received_stream_three :
    StreamIntact (threeReadsEnd.1.readers[0]?.get (by rfl)) threeReadsEnd.2 :=
  received_stream baseID true 0 threeReads threeReadsEnd.1 threeReadsEnd.2 _
    (Option.some_get (by rfl)).symm (by decide) (Option.some_get (by rfl)).symm

end MeshNetwork.Node
