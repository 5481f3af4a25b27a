import MeshNetwork.Node.Endpoints
import MeshNetwork.Node.TaskPool
import MeshNetwork.Node.Teardown
import Mathlib.Algebra.Order.BigOperators.Group.List
import Mathlib.Algebra.Order.Ring.Nat

namespace MeshNetwork.Node

open Driver

/-- How many statements freeThreads has left. -/
def teardownLeft : TeardownPc → Nat
  | .closeFile => 9
  | .shutdownManager => 8
  | .closeClients => 7
  | .stopAccept => 6
  | .closeServers => 5
  | .stopOpen => 4
  | .closeOpened => 3
  | .joinAccept => 2
  | .joinOpen => 1
  | .finished => 0

/-- How many statements a read task has left at most, once m_stop is set. -/
def readLeft : ReadPc → Nat
  | .starting => 5
  | .isOpened => 4
  | .check => 3
  | .recv => 5
  | .close => 4
  | .handUp => 3
  | .loop => 2
  | .finalClose => 1
  | .ended => 0

def readersLeft (s : Inbound) : Nat := (s.readers.map fun r => readLeft r.pc).sum

/-- How many statements acceptTask has left at most, once m_stop is set, with those of the read task
that it may still start. -/
def acceptLeft : AcceptPc → Nat
  | .head => 2 * maxTasks + 16
  | .openClient => maxTasks + 13
  | .recvClientID _ _ => maxTasks + 12
  | .sendSrvrID _ _ => maxTasks + 11
  | .search _ _ => maxTasks + 10
  | .assign _ _ _ => maxTasks + 9
  | .start _ _ _ => maxTasks + 8
  | .close _ => maxTasks + 3
  | .join k => 2 * maxTasks + 2 - k
  | .loop => maxTasks + 2
  | .finalJoin k => maxTasks + 1 - k
  | .finalClose => 1
  | .done => 0

/-- How many statements openTask has left at most, once it is stopped. -/
def openLeft : OpenPc → Nat
  | .entry => 10
  | .check => 9
  | .free => 8
  | .setHost _ => 7
  | .openSocket _ => 6
  | .sendClientID _ => 5
  | .recvSrvrID _ => 4
  | .close _ => 3
  | .loop => 2
  | .closeAll => 1
  | .done => 0

/-- The accesses to the file that getHostFileEntry may make before its last one. -/
def phaseLeft : HostPhase → Nat
  | .first => 2
  | .rewind => 1
  | .again => 0

/-- The statements of all tasks and of freeThreads that are left. -/
def statementsLeft (s : Deployment) : Nat :=
  acceptLeft s.inbound.pc + (if s.inbound.pc = .openClient ∧ s.fdSet = false then 1 else 0) +
    readersLeft s.inbound + openLeft s.outbound.opener.pc +
    (if s.outbound.opener.pc = .entry then phaseLeft s.phase else 0) + teardownLeft s.teardown

section tasks

theorem readStep_left {env : ReadEnv} {s t : Inbound} {n : Nat} (hstop : s.stop = true)
    (h : s.readStep env n = some t) : readersLeft t < readersLeft s := by
  unfold Inbound.readStep at h
  cases hr : s.readers[n]? with
  | none => simp [hr] at h
  | some r =>
    -- the statement lowers what this task has left, and changes no other task
    have lower {r' : Reader} (hlt : readLeft r'.pc < readLeft r.pc) :
        ((s.readers.set n r').map fun r => readLeft r.pc).sum < readersLeft s := by
      have hset := sum_map_set_add (fun r : Reader => readLeft r.pc) hr r'
      unfold readersLeft
      omega
    simp only [hr] at h
    split_ifs at h with hend hstart
    · obtain rfl := Option.some.inj h
      refine lower ?_
      simp [hstart, readLeft]
    · obtain ⟨i, -, rfl⟩ := Option.map_eq_some_iff.mp h
      refine lower ?_
      unfold Inbound.readStepAt
      cases hpc : r.pc with
      | starting => exact absurd hpc hstart
      | ended => exact absurd hpc hend
      | isOpened =>
        dsimp only
        split_ifs <;> simp [readLeft]
      | check => simp [hstop, readLeft]
      | recv =>
        dsimp only
        split_ifs <;> simp [readLeft]
      | loop => simp [hstop, readLeft]
      | _ => simp [readLeft]

/-- The statement is not the one that opens a client, and fewer than `n` are left from it on. -/
def Below (n : Nat) (pc : AcceptPc) : Prop := pc ≠ .openClient ∧ acceptLeft pc < n

theorem below_nextRound {n : Nat} {k : Fin maxTasks} {round : Fin maxTasks → AcceptPc}
    {after : AcceptPc} (hround : ∀ j : Fin maxTasks, j.val = k + 1 → Below n (round j))
    (hafter : Below n after) : Below n (Inbound.nextRound k round after) := by
  unfold Inbound.nextRound
  split_ifs with hk
  · exact hround _ rfl
  · exact hafter

/-- Most statements start no task and do not lead to open. -/
theorem left_of_below {s u : Inbound} {n : Nat} (hreaders : u.readers = s.readers)
    (hpc : Below n u.pc) :
    acceptLeft u.pc + (if u.pc = .openClient then 1 else 0) + readersLeft u <
      n + readersLeft s := by
  obtain ⟨hne, hlt⟩ := hpc
  rw [if_neg hne, readersLeft, readersLeft, hreaders]
  omega

theorem acceptStep_left {env : AcceptEnv} {s t : Inbound} (hstop : s.stop = true)
    (h : s.acceptStep env = some t) :
    acceptLeft t.pc + (if t.pc = .openClient then 1 else 0) + readersLeft t <
      acceptLeft s.pc + readersLeft s := by
  unfold Inbound.acceptStep at h
  cases hpc : s.pc with
  | head =>
    simp only [hpc] at h
    split_ifs at h <;> obtain rfl := Option.some.inj h
    · simp only [acceptLeft, readersLeft, if_true]
      omega
    · refine left_of_below rfl ?_
      simp [Below, acceptLeft]
  | openClient =>
    simp only [hpc] at h
    rcases s.manager.openClient_cases env.activity s.nextConn env.accepted with
      ⟨i, hi, hr⟩ | ⟨status, i, hs, hr⟩
    · rw [hr] at h
      obtain rfl := Option.some.inj h
      refine left_of_below rfl ?_
      dsimp only
      split_ifs <;> simp [Below, acceptLeft]
    · rw [hr] at h
      cases status with
      | success => exact absurd rfl hs
      | _ =>
        obtain rfl := Option.some.inj h
        refine left_of_below rfl ?_
        simp [Below, acceptLeft]
  | recvClientID i c =>
    simp only [hpc] at h
    split_ifs at h <;> obtain rfl := Option.some.inj h
    · refine left_of_below rfl ?_
      simp [Below, acceptLeft]
    · refine left_of_below rfl ?_
      simp [Below, acceptLeft]
  | sendSrvrID i c =>
    simp only [hpc] at h
    obtain rfl := Option.some.inj h
    refine left_of_below rfl ?_
    dsimp only
    split_ifs <;> simp [Below, acceptLeft]
  | search i c =>
    simp only [hpc] at h
    cases hk : s.freeTask with
    | none =>
      simp only [hk] at h
      obtain rfl := Option.some.inj h
      refine left_of_below rfl ?_
      simp [Below, acceptLeft]
    | some k =>
      simp only [hk] at h
      obtain rfl := Option.some.inj h
      refine left_of_below rfl ?_
      simp [Below, acceptLeft]
  | start k i c =>
    simp only [hpc] at h
    obtain rfl := Option.some.inj h
    simp only [acceptLeft, readersLeft, List.map_append, List.sum_append, List.map_cons,
      List.map_nil, List.sum_cons, List.sum_nil, readLeft, reduceCtorEq, if_false]
    omega
  | join k =>
    simp only [hpc] at h
    obtain rfl := Option.some.inj h
    have hk := k.isLt
    refine left_of_below (tryJoin_readers s k env) (below_nextRound ?_ ?_)
    · intro j hj
      simp only [Below, acceptLeft, ne_eq, reduceCtorEq, not_false_eq_true, true_and]
      omega
    · simp only [Below, acceptLeft, ne_eq, reduceCtorEq, not_false_eq_true, true_and]
      omega
  | finalJoin k =>
    simp only [hpc] at h
    obtain rfl := Option.some.inj h
    have hk := k.isLt
    refine left_of_below (tryJoin_readers s k env) (below_nextRound ?_ ?_)
    · intro j hj
      simp only [Below, acceptLeft, ne_eq, reduceCtorEq, not_false_eq_true, true_and]
      omega
    · simp only [Below, acceptLeft, ne_eq, reduceCtorEq, not_false_eq_true, true_and]
      omega
  | loop =>
    simp only [hpc, hstop, if_true] at h
    obtain rfl := Option.some.inj h
    refine left_of_below rfl ?_
    simp [Below, acceptLeft]
  | done => simp [hpc] at h
  | _ =>
    simp only [hpc] at h
    obtain rfl := Option.some.inj h
    refine left_of_below rfl ?_
    simp [Below, acceptLeft]

variable {addressToIp4 : List UInt8 → Bool} {env : OpenEnv} {o o' : Opener} {p p' : ClientSide}

theorem openStep_left (hstop : o.stop = true)
    (h : openStep addressToIp4 env o p = some (o', p')) : openLeft o'.pc < openLeft o.pc := by
  cases openStep_effect addressToIp4 h with
  | entry _ _ _ hpc hnext => rcases hnext with rfl | rfl <;> simp [hpc, openLeft]
  | again pc hpc =>
    simp only [openStep, hpc, hstop, if_true] at h
    obtain ⟨ho, -⟩ := Prod.mk.inj (Option.some.inj h)
    obtain rfl : OpenPc.closeAll = pc := congrArg Opener.pc ho
    simp [hpc, openLeft]
  | _ => simp [*, openLeft]

/-- openTask can always go on until it returns: it never opens an open socket. -/
theorem openStep_none (hinv : EndpointInv o p) (h : openStep addressToIp4 env o p = none) :
    o.pc = .done := by
  unfold openStep at h
  cases hpc : o.pc with
  | done => rfl
  | entry =>
    simp only [hpc] at h
    split at h <;> cases h
  | free =>
    simp only [hpc] at h
    split at h <;> cases h
  | openSocket i =>
    have hclosed := hinv.slotClosed i (.inr hpc)
    simp only [hpc, Option.map_eq_none_iff, MultiTcpClientSocket.openSocket, hclosed,
      Bool.false_eq_true, if_false] at h
    split_ifs at h
  | recvSrvrID i =>
    simp only [hpc] at h
    split_ifs at h
  | _ => simp [hpc] at h

end tasks

/-- The step is one of a task of the driver or of freeThreads, and not of a sender. -/
def isTask : DeploymentAct → Bool
  | .sendHandler _ _ _ => false
  | .send _ _ => false
  | _ => true

/-- The flags that the teardown has set so far. -/
structure StopsSet (s : Deployment) : Prop where
  accept : teardownLeft s.teardown ≤ 5 → s.inbound.stop = true
  openTask : teardownLeft s.teardown ≤ 3 → s.outbound.opener.stop = true

section step

variable {addressToIp4 : List UInt8 → Bool} {s t : Deployment}

/-- freeThreads goes on by one statement, and leaves the tasks where they are. -/
theorem teardownStep_next (h : s.teardownStep addressToIp4 = some t) :
    teardownLeft t.teardown + 1 = teardownLeft s.teardown ∧ t.inbound.pc = s.inbound.pc ∧
      t.inbound.readers = s.inbound.readers ∧ t.fdSet = s.fdSet ∧
      t.outbound.opener.pc = s.outbound.opener.pc ∧ t.phase = s.phase := by
  unfold Deployment.teardownStep at h
  cases hpc : s.teardown with
  | finished => simp [hpc] at h
  | joinAccept =>
    simp only [hpc] at h
    split_ifs at h
    obtain rfl := Option.some.inj h
    exact ⟨rfl, rfl, rfl, rfl, rfl, rfl⟩
  | joinOpen =>
    simp only [hpc] at h
    split_ifs at h
    obtain rfl := Option.some.inj h
    exact ⟨rfl, rfl, rfl, rfl, rfl, rfl⟩
  | closeFile =>
    simp only [hpc] at h
    obtain ⟨fp, -, rfl⟩ := Option.map_eq_some_iff.mp h
    exact ⟨rfl, rfl, rfl, rfl, rfl, rfl⟩
  | _ =>
    simp only [hpc] at h
    obtain rfl := Option.some.inj h
    exact ⟨rfl, rfl, rfl, rfl, rfl, rfl⟩

theorem inbound_stop {u v : Inbound} {env : AcceptEnv}
    (h : u.step (.acceptTask env) = some v) : v.stop = u.stop := by
  cases acceptStep_effect (s := u) h <;> rfl

/-- No task touches the flags. -/
theorem StopsSet.step {act : DeploymentAct} (h : StopsSet s)
    (hs : s.step addressToIp4 act = some t) : StopsSet t := by
  have openTask {env : OpenEnv} {u : Outbound}
      (hu : s.outbound.step addressToIp4 (.openTask env) = some u) :
      u.opener.stop = s.outbound.opener.stop := by
    obtain ⟨⟨o, p⟩, he, rfl⟩ := Option.map_eq_some_iff.mp hu
    cases openStep_effect addressToIp4 he <;> rfl
  cases Deployment.step_effect addressToIp4 hs with
  | fdSet env u _ hu => exact ⟨fun hl => (inbound_stop hu).trans (h.accept hl), h.openTask⟩
  | acceptTask env u _ _ hu => exact ⟨fun hl => (inbound_stop hu).trans (h.accept hl), h.openTask⟩
  | readTask n env u hu =>
    refine ⟨fun hl => Eq.trans ?_ (h.accept hl), h.openTask⟩
    cases readStep_effect (s := s.inbound) hu <;> rfl
  | entry env line fp u _ _ hu => exact ⟨h.accept, fun hl => (openTask hu).trans (h.openTask hl)⟩
  | openTask env u _ hu => exact ⟨h.accept, fun hl => (openTask hu).trans (h.openTask hl)⟩
  | sendHandler k unset b u hu =>
    have ho := outbound_opener (.inr ⟨k, unset, b, rfl⟩) hu
    exact ⟨h.accept, fun hl => (congrArg Opener.stop ho).trans (h.openTask hl)⟩
  | send k env u hu =>
    have ho := outbound_opener (.inl ⟨k, env, rfl⟩) hu
    exact ⟨h.accept, fun hl => (congrArg Opener.stop ho).trans (h.openTask hl)⟩
  | closeFile =>
    exact ⟨fun hl => by simp [teardownLeft] at hl, fun hl => by simp [teardownLeft] at hl⟩
  | shutdownManager =>
    exact ⟨fun hl => by simp [teardownLeft] at hl, fun hl => by simp [teardownLeft] at hl⟩
  | stopAccept => exact ⟨fun _ => rfl, fun hl => by simp [teardownLeft] at hl⟩
  | closeServers hpc =>
    exact ⟨fun _ => h.accept (by simp [hpc, teardownLeft]), fun hl => by simp [teardownLeft] at hl⟩
  | stopOpen hpc => exact ⟨fun _ => h.accept (by simp [hpc, teardownLeft]), fun _ => rfl⟩
  | closeClients next hpc =>
    obtain ⟨hleft, -⟩ := teardownStep_next hs
    dsimp only at hleft
    rcases hpc with hpc | hpc <;> rw [hpc, teardownLeft] at hleft
    · exact ⟨fun hl => by dsimp only at hl; omega, fun hl => by dsimp only at hl; omega⟩
    · exact ⟨fun _ => h.accept (by simp [hpc, teardownLeft]),
        fun _ => h.openTask (by simp [hpc, teardownLeft])⟩
  | joined next hpc =>
    have hle : teardownLeft s.teardown ≤ 3 := by
      rcases hpc with hpc | hpc <;> simp [hpc, teardownLeft]
    exact ⟨fun _ => h.accept (by omega), fun _ => h.openTask hle⟩
  | timedOut => exact ⟨h.accept, h.openTask⟩
  | access => exact ⟨h.accept, h.openTask⟩

theorem acceptTask_left {env : AcceptEnv} (hstop : s.inbound.stop = true)
    (hs : s.acceptStep env = some t) : statementsLeft t < statementsLeft s := by
  have stepped {env' : AcceptEnv} {u : Inbound} (hu : s.inbound.acceptStep env' = some u) :
      acceptLeft u.pc + (if u.pc = .openClient then 1 else 0) + readersLeft u <
        acceptLeft s.inbound.pc +
          (if s.inbound.pc = .openClient ∧ s.fdSet = false then 1 else 0) +
            readersLeft s.inbound := by
    have hlt := acceptStep_left hstop hu
    omega
  unfold Deployment.acceptStep at hs
  split_ifs at hs with hfd hselect
  · obtain ⟨u, hu, rfl⟩ := Option.map_eq_some_iff.mp hs
    have hlt := stepped hu
    simp only [statementsLeft, and_true]
    omega
  · obtain rfl := Option.some.inj hs
    simp [statementsLeft, hselect.1, hfd]
  · obtain ⟨u, hu, rfl⟩ := Option.map_eq_some_iff.mp hs
    have hlt := stepped hu
    rw [eq_false_of_ne_true hfd] at hlt
    simp only [statementsLeft, eq_false_of_ne_true hfd, and_true] at hlt ⊢
    omega

theorem openTask_left {env : OpenEnv} (hstop : s.outbound.opener.stop = true)
    (hs : s.openStep addressToIp4 env = some t) : statementsLeft t < statementsLeft s := by
  have stepped {env' : OpenEnv} {u : Outbound}
      (hu : s.outbound.step addressToIp4 (.openTask env') = some u) :
      openLeft u.opener.pc < openLeft s.outbound.opener.pc ∧ u.opener.pc ≠ .entry := by
    have hentry := outbound_openTask hu
    obtain ⟨⟨o, p⟩, he, rfl⟩ := Option.map_eq_some_iff.mp hu
    refine ⟨openStep_left hstop he, ?_⟩
    simpa [hstop] using hentry
  unfold Deployment.openStep at hs
  split_ifs at hs with hpc
  · cases hphase : s.phase with
    | first =>
      simp only [hphase] at hs
      split_ifs at hs
      · obtain ⟨u, hu, rfl⟩ := Option.map_eq_some_iff.mp hs
        obtain ⟨hlt, hnext⟩ := stepped hu
        simp only [statementsLeft, if_neg hnext]
        omega
      · obtain rfl := Option.some.inj hs
        simp [statementsLeft, hpc, hphase, phaseLeft]
    | rewind =>
      simp only [hphase] at hs
      obtain rfl := Option.some.inj hs
      simp [statementsLeft, hpc, hphase, phaseLeft]
    | again =>
      simp only [hphase] at hs
      obtain ⟨u, hu, rfl⟩ := Option.map_eq_some_iff.mp hs
      obtain ⟨hlt, hnext⟩ := stepped hu
      simp only [statementsLeft, if_neg hnext]
      omega
  · obtain ⟨u, hu, rfl⟩ := Option.map_eq_some_iff.mp hs
    obtain ⟨hlt, hnext⟩ := stepped hu
    simp only [statementsLeft, if_neg hnext]
    omega

/-- Once both flags are set every statement of a task is one less to come, and a sender adds
none. -/
theorem statementsLeft_step {act : DeploymentAct} (h : StopsSet s)
    (hleft : teardownLeft s.teardown ≤ 3) (hs : s.step addressToIp4 act = some t) :
    statementsLeft t + (if isTask act then 1 else 0) ≤ statementsLeft s ∧
      teardownLeft t.teardown ≤ 3 := by
  have hstop := h.accept (by omega)
  have hopen := h.openTask hleft
  cases act with
  | acceptTask env =>
    refine ⟨acceptTask_left hstop hs, ?_⟩
    cases Deployment.step_effect addressToIp4 hs <;> exact hleft
  | readTask n env =>
    obtain ⟨u, hu, rfl⟩ := Option.map_eq_some_iff.mp hs
    have hlt := readStep_left hstop hu
    obtain ⟨hpc, -⟩ := (readStep_effect (s := s.inbound) hu).frame
    refine ⟨?_, hleft⟩
    simp only [statementsLeft, hpc, isTask, if_true]
    omega
  | openTask env =>
    refine ⟨openTask_left hopen hs, ?_⟩
    cases Deployment.step_effect addressToIp4 hs <;> exact hleft
  | sendHandler k unset b =>
    obtain ⟨u, hu, rfl⟩ := Option.map_eq_some_iff.mp hs
    have ho := outbound_opener (.inr ⟨k, unset, b, rfl⟩) hu
    refine ⟨?_, hleft⟩
    simp [statementsLeft, ho, isTask]
  | send k env =>
    obtain ⟨u, hu, rfl⟩ := Option.map_eq_some_iff.mp hs
    have ho := outbound_opener (.inl ⟨k, env, rfl⟩) hu
    refine ⟨?_, hleft⟩
    simp [statementsLeft, ho, isTask]
  | teardown =>
    obtain ⟨hnext, hpc, hreaders, hfd, hopener, hphase⟩ := teardownStep_next hs
    refine ⟨?_, by omega⟩
    simp only [statementsLeft, readersLeft, hpc, hreaders, hfd, hopener, hphase, isTask, if_true]
    omega

theorem statementsLeft_le (h : teardownLeft s.teardown ≤ 3) :
    statementsLeft s ≤ 2 * maxTasks + 32 + 5 * s.inbound.readers.length := by
  have haccept : acceptLeft s.inbound.pc +
      (if s.inbound.pc = .openClient ∧ s.fdSet = false then 1 else 0) ≤ 2 * maxTasks + 17 := by
    have hle : acceptLeft s.inbound.pc ≤ 2 * maxTasks + 16 := by
      cases s.inbound.pc <;> simp only [acceptLeft] <;> omega
    split_ifs <;> omega
  have hopen : openLeft s.outbound.opener.pc +
      (if s.outbound.opener.pc = .entry then phaseLeft s.phase else 0) ≤ 12 := by
    cases s.outbound.opener.pc <;> cases s.phase <;> simp [openLeft, phaseLeft]
  have hreaders : readersLeft s.inbound ≤ s.inbound.readers.length * 5 := by
    have hall : ∀ n ∈ s.inbound.readers.map fun r => readLeft r.pc, n ≤ 5 := by
      intro n hn
      obtain ⟨r, -, rfl⟩ := List.mem_map.mp hn
      cases r.pc <;> simp [readLeft]
    have hsum := List.sum_le_card_nsmul _ 5 hall
    rwa [List.length_map, Nat.nsmul_eq_mul] at hsum
  simp only [statementsLeft]
  omega

end step

/-- A read task has its index from its first statement on. -/
def Indexed (s : Inbound) : Prop := ∀ r ∈ s.readers, r.pc ≠ .starting → r.index.isSome = true

theorem Indexed.step {s t : Inbound} {act : InboundAct} (h : Indexed s)
    (hs : s.step act = some t) : Indexed t := by
  cases act with
  | acceptTask env =>
    cases acceptStep_effect (s := s) hs with
    | started i c k =>
      intro r hr hpc
      rcases List.mem_append.mp hr with hr | hr
      · exact h r hr hpc
      · obtain rfl := List.mem_singleton.mp hr
        exact absurd rfl hpc
    | _ => exact h
  | readTask n env =>
    have set {r' : Reader} (hr' : r'.index.isSome = true) :
        Indexed { s with readers := s.readers.set n r' } := by
      intro r hr hpc
      rcases List.mem_or_eq_of_mem_set hr with hr | rfl
      · exact h r hr hpc
      · exact hr'
    cases readStep_effect (s := s) hs with
    | copied r hr hpc => exact set rfl
    | moved r r' i hr hi _ hsame => exact set (by rw [hsame.index, hi]; rfl)
    | disconnected r r' i hr hi _ _ hsame => exact set (by rw [hsame.index, hi]; rfl)
    | closed r r' i hr hi _ hsame => exact set (by rw [hsame.index, hi]; rfl)
    | finished r i hr hi => exact set (by rw [hi]; rfl)
  | stop =>
    obtain rfl := Option.some.inj hs
    exact h
  | closeAll =>
    obtain rfl := Option.some.inj hs
    exact h
  | shutdown =>
    obtain rfl := Option.some.inj hs
    exact h

/-- The task stands before a recv on a connection that is open, and it is for the peer to end it. -/
def AwaitsPeer (t : Deployment) : DeploymentAct → Prop
  | .acceptTask _ => ∃ i c, t.inbound.pc = .recvClientID i c ∧
      (t.inbound.manager.sockets i).isOpened = true
  | .readTask n _ => ∃ r i, t.inbound.readers[n]? = some r ∧ r.pc = .recv ∧ r.index = some i ∧
      (t.inbound.manager.sockets i).isOpened = true
  | .openTask _ => ∃ i, t.outbound.opener.pc = .recvSrvrID i ∧
      (t.outbound.side.manager.sockets i).isOpened = true
  | _ => False

/-- Every task has returned, or waits for a peer; and freeThreads has joined the two that it joins,
once they have returned. -/
structure AtRest (t : Deployment) : Prop where
  acceptTask : t.inbound.pc = .done ∨ AwaitsPeer t (.acceptTask {})
  openTask : t.outbound.opener.pc = .done ∨ AwaitsPeer t (.openTask {})
  readTasks : ∀ n r, t.inbound.readers[n]? = some r → r.pc = .ended ∨ AwaitsPeer t (.readTask n {})
  joins : t.inbound.pc = .done → t.outbound.opener.pc = .done → t.teardown = .finished

section ended

variable {addressToIp4 : List UInt8 → Bool} {t : Deployment}

theorem acceptTask_ended (h : t.step addressToIp4 (.acceptTask {}) = none) :
    t.inbound.pc = .done := by
  change t.acceptStep {} = none at h
  unfold Deployment.acceptStep at h
  split_ifs at h with hfd hselect
  · exact acceptStep_none (Option.map_eq_none_iff.mp h)
  · exact acceptStep_none (Option.map_eq_none_iff.mp h)

theorem openTask_ended (hinv : EndpointInv t.outbound.opener t.outbound.side)
    (h : t.step addressToIp4 (.openTask {}) = none) : t.outbound.opener.pc = .done := by
  have outbound {env : OpenEnv} (h : t.outbound.step addressToIp4 (.openTask env) = none) :
      t.outbound.opener.pc = .done := openStep_none hinv (Option.map_eq_none_iff.mp h)
  change t.openStep addressToIp4 {} = none at h
  unfold Deployment.openStep at h
  split_ifs at h with hpc
  · cases hphase : t.phase with
    | first =>
      simp only [hphase] at h
      split_ifs at h
      exact outbound (Option.map_eq_none_iff.mp h)
    | rewind => simp [hphase] at h
    | again =>
      simp only [hphase] at h
      exact outbound (Option.map_eq_none_iff.mp h)
  · exact outbound (Option.map_eq_none_iff.mp h)

theorem readTask_ended (hindexed : Indexed t.inbound) {n : Nat}
    (h : t.step addressToIp4 (.readTask n {}) = none) {r : Reader}
    (hr : t.inbound.readers[n]? = some r) : r.pc = .ended := by
  have hnone : t.inbound.readStep {} n = none := Option.map_eq_none_iff.mp h
  simp only [Inbound.readStep, hr] at hnone
  split_ifs at hnone with hend hstart
  · exact hend
  · have hindex := hindexed r (List.mem_of_getElem? hr) hstart
    rw [Option.map_eq_none_iff.mp hnone] at hindex
    cases hindex

theorem teardown_finished (hleft : teardownLeft t.teardown ≤ 3) (haccept : t.inbound.pc = .done)
    (hopen : t.outbound.opener.pc = .done) (h : t.step addressToIp4 .teardown = none) :
    t.teardown = .finished := by
  change t.teardownStep addressToIp4 = none at h
  unfold Deployment.teardownStep at h
  cases hpc : t.teardown with
  | finished => rfl
  | closeOpened => simp [hpc, Outbound.step] at h
  | joinAccept => simp [hpc, haccept] at h
  | joinOpen => simp [hpc, hopen] at h
  | _ => simp [hpc, teardownLeft] at hleft

end ended

theorem endpointInv_start {s : Deployment} (h : Start s) :
    EndpointInv s.outbound.opener s.outbound.side := by
  cases h with
  | configured deviceID adjM => exact endpointInv_init deviceID adjM
  | withoutFile deviceID adjM => exact endpointInv_init deviceID adjM
  | unconfigured deviceID adjM => exact (endpointInv_init deviceID adjM).elsewhere id

theorem indexed_start {s : Deployment} (h : Start s) : Indexed s.inbound := by
  cases h <;> intro r hr <;> cases hr

theorem stopsSet_start {s : Deployment} (h : Start s) : StopsSet s := by
  have hbegin : s.teardown = .closeFile := by cases h <;> rfl
  constructor
  · rw [hbegin]
    exact fun hl => absurd hl (by decide)
  · rw [hbegin]
    exact fun hl => absurd hl (by decide)

/-- The teardown comes to its end. In a run whose steps keep the condition no statement uses
anything released; once the flags are set, whatever the senders do, only so many statements of the
tasks can follow; and where none is left but a recv on a connection that is open, every task has
returned or waits in such a recv, and the joins wait for no other. -/
theorem teardown_ends (addressToIp4 : List UInt8 → Bool)
    (haddr : ∀ hostname, addressToIp4 hostname = true → 7 ≤ hostname.length) (start : Deployment)
    (hstart : Start start) (before acts : List DeploymentAct) (s t : Deployment)
    (hkept : AllSteps (Deployment.step addressToIp4) TeardownKept start (before ++ acts))
    (hbefore : run (Deployment.step addressToIp4) start before = some s)
    (hleft : teardownLeft s.teardown ≤ teardownLeft .closeOpened)
    (hrun : run (Deployment.step addressToIp4) s acts = some t) :
    AllSteps (Deployment.step addressToIp4) Safe start (before ++ acts) ∧
      acts.countP isTask ≤ 2 * maxTasks + 32 + 5 * s.inbound.readers.length ∧
        ((∀ act, isTask act = true → t.step addressToIp4 act = none ∨ AwaitsPeer t act) →
          AtRest t) := by
  have hstops : StopsSet s :=
    run_invariant_all (fun _ _ _ hi hs => StopsSet.step hi hs) (stopsSet_start hstart) hbefore
  have hcount := run_countP_le (p := isTask) (μ := statementsLeft)
    (I := fun s => StopsSet s ∧ teardownLeft s.teardown ≤ 3)
    (fun s act t hi hs => by
      obtain ⟨hle, hleft⟩ := statementsLeft_step hi.1 hi.2 hs
      exact ⟨⟨hi.1.step hs, hleft⟩, hle⟩) ⟨hstops, hleft⟩ hrun
  refine ⟨allSteps_safe hstart hkept, ?_, ?_⟩
  · have hbound := statementsLeft_le hleft
    omega
  · intro hrest
    have hall : run (Deployment.step addressToIp4) start (before ++ acts) = some t := by
      rw [run_append, hbefore]
      exact hrun
    obtain ⟨outs, houts⟩ := Deployment.run_outbound addressToIp4 hall
    obtain ⟨ins, hins⟩ := Deployment.run_inbound addressToIp4 hall
    have hpool : EndpointInv t.outbound.opener t.outbound.side :=
      run_invariant_all (I := fun s : Outbound => EndpointInv s.opener s.side)
        (fun _ _ _ hi hs => hi.step haddr hs) (endpointInv_start hstart) houts
    have hindexed : Indexed t.inbound :=
      run_invariant_all (fun _ _ _ hi hs => Indexed.step hi hs) (indexed_start hstart) hins
    have hdown : teardownLeft t.teardown ≤ 3 :=
      (run_invariant_all (I := fun s => StopsSet s ∧ teardownLeft s.teardown ≤ 3)
        (fun _ _ _ hi hs => ⟨hi.1.step hs, (statementsLeft_step hi.1 hi.2 hs).2⟩)
        ⟨hstops, hleft⟩ hrun).2
    constructor
    · exact (hrest (.acceptTask {}) rfl).imp_left acceptTask_ended
    · exact (hrest (.openTask {}) rfl).imp_left (openTask_ended hpool)
    · intro n r hr
      exact (hrest (.readTask n {}) rfl).imp_left fun h => readTask_ended hindexed h hr
    · intro haccept hopen
      exact teardown_finished hdown haccept hopen ((hrest .teardown rfl).resolve_right id)

/-- The orderly run up to the moment when both flags are set, and to its end. -/
def orderlyStopped : Deployment :=
  (run (Deployment.step fun host => 7 ≤ host.length) onePeer (orderly.take 10)).get
    (by decide +kernel)

def orderlyEnd : Deployment :=
  (run (Deployment.step fun host => 7 ≤ host.length) orderlyStopped (orderly.drop 10)).get
    (by decide +kernel)

theorem teardown_ends_orderly : orderlyEnd.teardown = .finished ∧
    AllSteps (Deployment.step fun host => 7 ≤ host.length) Safe onePeer
      (orderly.take 10 ++ orderly.drop 10) ∧
    (orderly.drop 10).countP isTask ≤ 64 ∧
    ((∀ act, isTask act = true → orderlyEnd.step (fun host => 7 ≤ host.length) act = none ∨
        AwaitsPeer orderlyEnd act) → AtRest orderlyEnd) :=
  ⟨by decide +kernel, teardown_ends (fun host => 7 ≤ host.length) (fun _ => of_decide_eq_true)
    onePeer (.configured baseID _ true _ 3) (orderly.take 10) (orderly.drop 10) orderlyStopped
    orderlyEnd (by decide +kernel) (Option.some_get (by decide +kernel)).symm (by decide +kernel)
    (Option.some_get (by decide +kernel)).symm⟩

end MeshNetwork.Node
