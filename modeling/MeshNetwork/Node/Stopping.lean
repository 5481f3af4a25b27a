import MeshNetwork.Node.TaskPool

namespace MeshNetwork.Node

open Driver

/-- The read task that a step joins, by its number. -/
def joinedBy (s : Inbound) : InboundAct → List Nat
  | .acceptTask env => ((joins env s).bind (latestTask s.readers)).toList
  | _ => []

/-- The entry that a round of the final join loop is about. -/
def finalRound : AcceptPc → Option (Fin maxTasks)
  | .finalJoin k => some k
  | _ => none

/-- The task in a started entry has ended when the final join loop comes to the entry. -/
def FinalEnded (s : Inbound) (act : InboundAct) : Prop :=
  OnAccept (fun _ => ∀ k ∈ finalRound s.pc, s.started k = true → Ended s.readers k) act

/-- Nothing is left of the read tasks: all have ended and been joined, and the pool is empty. -/
structure Stopped (s : Inbound) (joined : List Nat) : Prop where
  tasks : ∀ n r, s.readers[n]? = some r → r.live = false ∧ n ∈ joined
  count : s.taskCount = 0
  entries : ∀ k, s.started k = false

/-- A read task that has not been joined is the last one of a started entry, and the counter is not
beyond the started entries. -/
structure JoinInv (s : Inbound) (joined : List Nat) : Prop where
  unjoined : ∀ n r, s.readers[n]? = some r → n ∉ joined → s.started r.entry = true ∧
    claimedEntry s.pc ≠ some r.entry ∧ latestTask s.readers r.entry = some n
  ended : ∀ n ∈ joined, ∃ r, s.readers[n]? = some r ∧ r.live = false
  claimed : ∀ k, claimedEntry s.pc = some k → s.started k = true
  count : s.taskCount ≤ entries s.started

theorem joinInv_init (deviceID : UInt32) (idProtocol : Bool) :
    JoinInv { deviceID := deviceID, idProtocol := idProtocol } [] where
  unjoined _ _ hr := by cases hr
  ended := by simp
  claimed _ hk := by cases hk
  count := Nat.zero_le _

theorem latestTask_append (readers : List Reader) (r : Reader) (k : Fin maxTasks) :
    latestTask (readers ++ [r]) k =
      if r.entry = k then some readers.length else latestTask readers k := by
  rw [latestTask, List.map_append, List.map_singleton, lastIdxOf_append, List.length_map]
  rfl

/-- A read task keeps its entry. -/
theorem readStep_entry {env : ReadEnv} {s t : Inbound} {n : Nat}
    (h : s.readStep env n = some t) : ∃ r r', s.readers[n]? = some r ∧
      t.readers = s.readers.set n r' ∧ r.live = true ∧ r'.entry = r.entry := by
  unfold Inbound.readStep at h
  cases hr : s.readers[n]? with
  | none => simp [hr] at h
  | some r =>
    simp only [hr] at h
    split_ifs at h with hend hstart
    · obtain rfl := Option.some.inj h
      exact ⟨r, _, rfl, rfl, by simp [Reader.live, hend], rfl⟩
    · obtain ⟨i, -, rfl⟩ := Option.map_eq_some_iff.mp h
      refine ⟨r, _, rfl, rfl, by simp [Reader.live, hend], ?_⟩
      unfold Inbound.readStepAt
      cases r.pc with
      | check =>
        dsimp only
        split_ifs <;> rfl
      | _ => rfl

theorem latestTask_set {readers : List Reader} {n : Nat} {r r' : Reader}
    (hr : readers[n]? = some r) (hentry : r'.entry = r.entry) (k : Fin maxTasks) :
    latestTask (readers.set n r') k = latestTask readers k := by
  have hsame : (readers.map Reader.entry)[n]? = some r'.entry := by
    rw [List.getElem?_map, hr, hentry]
    rfl
  obtain ⟨hn, hget⟩ := List.getElem?_eq_some_iff.mp hsame
  rw [latestTask, List.map_set, ← hget, List.set_getElem_self]
  rfl

namespace JoinInv

variable {s t : Inbound} {joined : List Nat}

/-- Where the readers, the entries and the claim stay, the counter may only fall. -/
theorem same (h : JoinInv s joined) (hcount : t.taskCount ≤ s.taskCount)
    (hstarted : t.started = s.started) (hreaders : t.readers = s.readers)
    (hclaimed : claimedEntry t.pc = claimedEntry s.pc) : JoinInv t joined := by
  refine ⟨?_, ?_, ?_, ?_⟩
  · rw [hreaders, hstarted, hclaimed]
    exact h.unjoined
  · rw [hreaders]
    exact h.ended
  · rw [hstarted, hclaimed]
    exact h.claimed
  · rw [hstarted]
    exact le_trans hcount h.count

/-- A new task is the last one of the entry that was claimed for it. -/
theorem launch {k : Fin maxTasks} {r : Reader} (h : JoinInv s joined)
    (hcount : t.taskCount = s.taskCount) (hstarted : t.started = s.started)
    (hreaders : t.readers = s.readers ++ [r]) (hentry : r.entry = k)
    (hclaims : claimedEntry s.pc = some k) (hclaimed : claimedEntry t.pc = none) :
    JoinInv t joined := by
  refine ⟨?_, ?_, ?_, ?_⟩
  · rw [hreaders, hstarted, hclaimed]
    intro n q hq hn
    by_cases hlt : n < s.readers.length
    · rw [List.getElem?_append_left hlt] at hq
      obtain ⟨hstart, hne, hlast⟩ := h.unjoined n q hq hn
      have hother : r.entry ≠ q.entry := by
        intro he
        exact hne (by rw [hclaims, ← he, hentry])
      refine ⟨hstart, by simp, ?_⟩
      rw [latestTask_append, if_neg hother]
      exact hlast
    · rw [List.getElem?_append_right (not_lt.mp hlt), List.getElem?_singleton] at hq
      split_ifs at hq with hn0
      obtain rfl := Option.some.inj hq
      refine ⟨?_, by simp, ?_⟩
      · rw [hentry]
        exact h.claimed k hclaims
      · rw [latestTask_append, if_pos rfl]
        congr 1
        omega
  · rw [hreaders]
    intro n hn
    obtain ⟨q, hq, hdead⟩ := h.ended n hn
    have hlt := (List.getElem?_eq_some_iff.mp hq).1
    exact ⟨q, by rw [List.getElem?_append_left hlt]; exact hq, hdead⟩
  · rw [hclaimed]
    intro j hj
    cases hj
  · rw [hcount, hstarted]
    exact h.count

/-- A round joins the last task of its entry and clears the entry, or leaves both. -/
theorem round {env : AcceptEnv} {k : Fin maxTasks} (h : JoinInv s joined)
    (htry : s.started k = true → (env.join = 0 ↔ Ended s.readers k))
    (hcount : t.taskCount = (s.tryJoin k env).taskCount)
    (hstarted : t.started = (s.tryJoin k env).started) (hreaders : t.readers = s.readers)
    (hidle : claimedEntry s.pc = none) (hclaimed : claimedEntry t.pc = none) :
    JoinInv t (joined ++ ((if s.started k ∧ env.join = 0 then some k else none).bind
      (latestTask s.readers)).toList) := by
  rw [tryJoin_started] at hstarted
  rw [tryJoin_taskCount] at hcount
  by_cases hj : s.started k = true ∧ env.join = 0
  · rw [if_pos hj] at hstarted ⊢
    rw [if_pos (.inl hj)] at hcount
    refine ⟨?_, ?_, ?_, ?_⟩
    · rw [hreaders, hstarted, hclaimed]
      intro n r hr hn
      obtain ⟨hold, hnew⟩ := not_or.mp (List.mem_append.not.mp hn)
      obtain ⟨hstart, -, hlast⟩ := h.unjoined n r hr hold
      have hne : r.entry ≠ k := by
        intro he
        rw [he] at hlast
        exact hnew (by simp [hlast])
      refine ⟨?_, by simp, hlast⟩
      rw [Function.update_of_ne hne]
      exact hstart
    · rw [hreaders]
      intro n hn
      rcases List.mem_append.mp hn with hold | hnew
      · exact h.ended n hold
      · have hlast : latestTask s.readers k = some n := by simpa using hnew
        have hget := getElem?_lastIdxOf hlast
        rw [List.getElem?_map] at hget
        obtain ⟨r, hr, -⟩ := Option.map_eq_some_iff.mp hget
        exact ⟨r, hr, (htry hj.1).mp hj.2 n hlast r hr⟩
    · rw [hclaimed]
      intro j hc
      cases hc
    · have hle := h.count
      have hclear := entries_clear hj.1
      rw [hcount, hstarted]
      omega
  · rw [if_neg hj] at hstarted ⊢
    rw [Option.bind_none, Option.toList_none, List.append_nil]
    have hfalls : t.taskCount ≤ s.taskCount := by
      rw [hcount]
      split_ifs
      · exact Nat.sub_le ..
      · exact le_rfl
    exact h.same hfalls hstarted hreaders (hclaimed.trans hidle.symm)

theorem acceptStep {env : AcceptEnv} (h : JoinInv s joined)
    (htry : ∀ k ∈ joinRound s.pc, s.started k = true → (env.join = 0 ↔ Ended s.readers k))
    (hs : s.acceptStep env = some t) :
    JoinInv t (joined ++ joinedBy s (.acceptTask env)) := by
  cases acceptStep_pool hs with
  | kept hround htakes hcount hstarted hreaders hclaimed =>
    have hnone : joinedBy s (.acceptTask env) = [] := by simp [joinedBy, joins, hround]
    rw [hnone, List.append_nil]
    exact h.same hcount.le hstarted hreaders hclaimed
  | taken k hround htakes hcount hstarted hreaders hidle hclaimed =>
    have hnone : joinedBy s (.acceptTask env) = [] := by simp [joinedBy, joins, hround]
    have hfree := takes_free htakes
    rw [hnone, List.append_nil]
    refine ⟨?_, ?_, ?_, ?_⟩
    · rw [hreaders, hstarted, hclaimed]
      intro n r hr hn
      obtain ⟨hstart, -, hlast⟩ := h.unjoined n r hr hn
      have hne : r.entry ≠ k := by
        intro he
        cases hfree.symm.trans (he ▸ hstart)
      refine ⟨by rw [Function.update_of_ne hne]; exact hstart, ?_, hlast⟩
      intro he
      exact hne (Option.some.inj he).symm
    · rw [hreaders]
      exact h.ended
    · rw [hstarted, hclaimed]
      intro j hj
      obtain rfl := Option.some.inj hj
      exact Function.update_self ..
    · have hle := h.count
      rw [hcount, hstarted, entries_set hfree]
      omega
  | launched k r hround htakes hcount hstarted hreaders hentry hclaims hclaimed =>
    have hnone : joinedBy s (.acceptTask env) = [] := by simp [joinedBy, joins, hround]
    rw [hnone, List.append_nil]
    exact h.launch hcount hstarted hreaders hentry hclaims hclaimed
  | round k hround htakes hcount hstarted hreaders hidle hclaimed =>
    have hjoined : joinedBy s (.acceptTask env) =
        ((if s.started k ∧ env.join = 0 then some k else none).bind
          (latestTask s.readers)).toList := by
      simp only [joinedBy, joins, hround, Option.filter_some, decide_eq_true_eq]
    rw [hjoined]
    exact h.round (htry k (by rw [hround]; rfl)) hcount hstarted hreaders hidle hclaimed

/-- A read task goes on in its entry, and what has been joined does not move any more. -/
theorem readStep {env : ReadEnv} {n : Nat} (h : JoinInv s joined) (hs : s.readStep env n = some t) :
    JoinInv t joined := by
  obtain ⟨r, r', hr, hreaders, hlive, hentry⟩ := readStep_entry hs
  obtain ⟨hcount, hstarted⟩ := (readStep_effect hs).pool
  have hpc := (readStep_effect hs).frame.1
  refine ⟨?_, ?_, ?_, ?_⟩
  · rw [hreaders, hstarted, hpc]
    intro m q hq hm
    rw [latestTask_set hr hentry]
    by_cases hmn : n = m
    · subst hmn
      obtain ⟨hn, -⟩ := List.getElem?_eq_some_iff.mp hr
      rw [List.getElem?_set_self hn] at hq
      obtain rfl := Option.some.inj hq
      rw [hentry]
      exact h.unjoined n r hr hm
    · rw [List.getElem?_set_ne hmn] at hq
      exact h.unjoined m q hq hm
  · rw [hreaders]
    intro m hm
    obtain ⟨q, hq, hdead⟩ := h.ended m hm
    have hmn : n ≠ m := by
      intro hnm
      subst hnm
      obtain rfl := Option.some.inj (hr.symm.trans hq)
      cases hlive.symm.trans hdead
    exact ⟨q, by rw [List.getElem?_set_ne hmn]; exact hq, hdead⟩
  · rw [hstarted, hpc]
    exact h.claimed
  · rw [hcount, hstarted]
    exact h.count

theorem step {act : InboundAct} (h : JoinInv s joined) (htry : TryJoin s act)
    (hs : s.step act = some t) : JoinInv t (joined ++ joinedBy s act) := by
  cases act with
  | acceptTask env => exact h.acceptStep htry hs
  | readTask n env =>
    exact (List.append_nil joined).symm ▸ h.readStep hs
  | stop =>
    obtain rfl := Option.some.inj hs
    exact (List.append_nil joined).symm ▸ h.same le_rfl rfl rfl rfl
  | closeAll =>
    obtain rfl := Option.some.inj hs
    exact (List.append_nil joined).symm ▸ h.same le_rfl rfl rfl rfl
  | shutdown =>
    obtain rfl := Option.some.inj hs
    exact (List.append_nil joined).symm ▸ h.same le_rfl rfl rfl rfl

/-- With an empty pool nothing is left. -/
theorem stopped_iff (h : JoinInv s joined) :
    Stopped s joined ↔ ∀ k, s.started k = false := by
  constructor
  · intro hs
    exact hs.entries
  · intro hk
    refine ⟨?_, ?_, hk⟩
    · intro n r hr
      have hn : n ∈ joined := by
        by_contra hn
        cases (hk r.entry).symm.trans (h.unjoined n r hr hn).1
      obtain ⟨q, hq, hdead⟩ := h.ended n hn
      obtain rfl := Option.some.inj (hr.symm.trans hq)
      exact ⟨hdead, hn⟩
    · have hle := h.count
      rw [entries_none hk] at hle
      omega

end JoinInv

section final

variable {s t : Inbound}

theorem claimedEntry_of_passed {pc : AcceptPc} {j : Fin maxTasks} (h : Passed pc j) :
    claimedEntry pc = none := by
  cases pc with
  | assign => exact h.elim
  | start => exact h.elim
  | _ => rfl

theorem takes_of_passed {j : Fin maxTasks} (h : Passed s.pc j) : takes s = none := by
  unfold takes
  split
  · rename_i hpc
    rw [hpc] at h
    exact h.elim
  · rfl

theorem ne_joinRound_of_passed {pc : AcceptPc} {j k : Fin maxTasks} (h : Passed pc j)
    (hk : joinRound pc = some k) : j ≠ k := by
  cases pc with
  | finalJoin i =>
    obtain rfl := Option.some.inj hk
    exact ne_of_lt h
  | join i => exact h.elim
  | _ => cases hk

/-- The final loop has left a started entry behind. -/
def Lost (s : Inbound) : Prop := ∃ j, Passed s.pc j ∧ s.started j = true

theorem lost_stays {act : InboundAct} (h : Lost s) (hs : s.step act = some t) : Lost t := by
  obtain ⟨j, hj, hstart⟩ := h
  cases act with
  | acceptTask env =>
    cases acceptStep_pool hs with
    | kept _ _ _ hstarted _ _ hpassed => exact ⟨j, (hpassed j).mpr hj, hstarted ▸ hstart⟩
    | taken k _ htakes => cases htakes.symm.trans (takes_of_passed hj)
    | launched k r _ _ _ _ _ _ hclaims => cases hclaims.symm.trans (claimedEntry_of_passed hj)
    | round k hround _ _ hstarted _ _ _ hpassed =>
      refine ⟨j, (hpassed j).mpr (.inl hj), ?_⟩
      rw [hstarted, tryJoin_started]
      split_ifs
      · rw [Function.update_of_ne (ne_joinRound_of_passed hj hround)]
        exact hstart
      · exact hstart
  | _ =>
    obtain ⟨hpc, -, hstarted⟩ := step_beside (by simp) hs
    refine ⟨j, ?_, ?_⟩
    · rw [hpc]
      exact hj
    · rw [hstarted]
      exact hstart

/-- A task that is still running when its turn comes is lost. -/
theorem lost_of_running {act : InboundAct} (htry : TryJoin s act) (hno : ¬FinalEnded s act)
    (hs : s.step act = some t) : Lost t := by
  cases act with
  | acceptTask env =>
    obtain ⟨k, hk, hstart, hrun⟩ : ∃ k, s.pc = .finalJoin k ∧ s.started k = true ∧
        ¬Ended s.readers k := by
      simp only [FinalEnded, OnAccept, not_forall] at hno
      obtain ⟨k, hk, hstart, hrun⟩ := hno
      refine ⟨k, ?_, hstart, hrun⟩
      unfold finalRound at hk
      split at hk
      · rename_i hpc
        rw [hpc, Option.some.inj hk]
      · cases hk
    have hround : joinRound s.pc = some k := by
      rw [hk]
      rfl
    have hjoin : env.join ≠ 0 := fun hj => hrun ((htry k hround hstart).mp hj)
    cases acceptStep_pool hs with
    | kept hround' => cases hround'.symm.trans hround
    | taken _ hround' => cases hround'.symm.trans hround
    | launched _ _ hround' => cases hround'.symm.trans hround
    | round k' hround' _ _ hstarted _ _ _ hpassed =>
      obtain rfl := Option.some.inj (hround'.symm.trans hround)
      refine ⟨k', (hpassed k').mpr (.inr ⟨hk, rfl⟩), ?_⟩
      rw [hstarted, tryJoin_started, if_neg fun h => hjoin h.2]
      exact hstart
  | _ => exact absurd trivial hno

/-- The final loop leaves no started entry behind as long as it finds the tasks ended. -/
theorem notLost_step {act : InboundAct} (h : ¬Lost s) (htry : TryJoin s act)
    (hended : FinalEnded s act) (hs : s.step act = some t) : ¬Lost t := by
  intro hlost
  obtain ⟨j, hj, hstart⟩ := hlost
  cases act with
  | acceptTask env =>
    cases acceptStep_pool hs with
    | kept _ _ _ hstarted _ _ hpassed =>
      exact h ⟨j, (hpassed j).mp hj, hstarted ▸ hstart⟩
    | taken _ _ _ _ _ _ _ _ hpassed => exact hpassed j hj
    | launched _ _ _ _ _ _ _ _ _ _ hpassed => exact hpassed j hj
    | round k hround _ _ hstarted _ _ _ hpassed =>
      rw [hstarted, tryJoin_started] at hstart
      rcases (hpassed j).mp hj with hold | ⟨hpc, rfl⟩
      · split_ifs at hstart with hcond
        · rw [Function.update_of_ne (ne_joinRound_of_passed hold hround)] at hstart
          exact h ⟨j, hold, hstart⟩
        · exact h ⟨j, hold, hstart⟩
      · split_ifs at hstart with hcond
        · rw [Function.update_self] at hstart
          cases hstart
        · have hend : Ended s.readers j := hended j (by rw [hpc]; rfl) hstart
          exact hcond ⟨hstart, (htry j hround hstart).mpr hend⟩
  | _ =>
    obtain ⟨hpc, -, hstarted⟩ := step_beside (by simp) hs
    rw [hpc] at hj
    rw [hstarted] at hstart
    exact h ⟨j, hj, hstart⟩

end final

/-- Stopping. When acceptTask has returned, nothing is left of the read tasks if and only if the
final loop has found the task in each started entry ended. -/
theorem stopping_complete (deviceID : UInt32) (idProtocol : Bool) (acts : List InboundAct)
    (t : Inbound) (joined : List Nat)
    (htry : AllSteps Inbound.step TryJoin { deviceID := deviceID, idProtocol := idProtocol } acts)
    (hrun : run (recordStep Inbound.step joinedBy)
      ({ deviceID := deviceID, idProtocol := idProtocol }, []) acts = some (t, joined))
    (hdone : t.pc = .done) : Stopped t joined ↔
      AllSteps Inbound.step FinalEnded { deviceID := deviceID, idProtocol := idProtocol } acts := by
  have hinv : JoinInv t joined :=
    run_invariant (I := fun s : Inbound × List Nat => JoinInv s.1 s.2) (by
      intro s act u hi hg hs
      obtain ⟨v, hv, rfl⟩ := Option.map_eq_some_iff.mp hs
      exact hi.step hg hv) (joinInv_init deviceID idProtocol) (allSteps_recordStep htry) hrun
  have hplain := run_recordStep hrun
  have hlost : (∀ k, t.started k = false) ↔ ¬Lost t := by
    constructor
    · intro hk hl
      obtain ⟨j, -, hj⟩ := hl
      cases (hk j).symm.trans hj
    · intro hl k
      by_contra hk
      exact hl ⟨k, by rw [hdone]; trivial, eq_true_of_ne_false hk⟩
  rw [hinv.stopped_iff, hlost]
  constructor
  · intro hno
    have hor := allSteps_or_stays (I := fun _ => True) (P := FinalEnded) (L := Lost)
      (fun _ _ _ _ _ _ => trivial) (fun _ _ _ _ hg hP hs => lost_of_running hg hP hs)
      (fun _ _ _ _ _ hl hs => lost_stays hl hs) trivial htry hplain
    exact hor.resolve_right hno
  · intro hended
    have hinit : ¬Lost { deviceID := deviceID, idProtocol := idProtocol } := by
      intro hlost
      obtain ⟨j, hj, -⟩ := hlost
      exact hj
    exact run_invariant (I := fun s => ¬Lost s)
      (fun _ _ _ hl hg hs => notLost_step hl hg.1 hg.2 hs) hinit (htry.and hended) hplain

/-- A client is served, acceptTask is stopped, and its last iteration finds nobody. The read task
makes `n` statements before the final loop, which is answered `join`. -/
def stopAfter (n : Nat) (join : Int) : List InboundAct :=
  newClient 0x20202021 ++ [.stop, .closeAll] ++ reads 0 n { status := .disconnected } ++
    List.replicate 3 (.acceptTask { activity := false }) ++
    List.replicate 17 (.acceptTask { join := join })

theorem stopping_complete_one :
    let t := (run (recordStep Inbound.step joinedBy) ({ deviceID := baseID }, [])
      (stopAfter 3 0)).get (by decide +kernel)
    Stopped t.1 t.2 ↔ AllSteps Inbound.step FinalEnded { deviceID := baseID } (stopAfter 3 0) :=
  stopping_complete baseID true _ _ _ (by decide +kernel)
    (Option.some_get (by decide +kernel)).symm (by decide +kernel)

/-- The read task is slower than the final loop. -/
theorem stopping_complete_fails : ¬∀ (deviceID : UInt32) (idProtocol : Bool)
    (acts : List InboundAct) (t : Inbound) (joined : List Nat),
    AllSteps Inbound.step TryJoin { deviceID := deviceID, idProtocol := idProtocol } acts →
    run (recordStep Inbound.step joinedBy)
      ({ deviceID := deviceID, idProtocol := idProtocol }, []) acts = some (t, joined) →
    t.pc = .done → Stopped t joined := by
  intro h
  have hs := (h baseID true (stopAfter 2 16) _ _ (by decide +kernel)
    (Option.some_get (by decide +kernel)).symm (by decide +kernel)).entries 0
  exact absurd hs (by decide +kernel)

end MeshNetwork.Node
