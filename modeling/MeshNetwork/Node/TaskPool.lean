import MeshNetwork.Framework.Counting
import MeshNetwork.Node.TaskParams

namespace MeshNetwork.Node

open Driver

/-- The entry that a round of either join loop is about. -/
def joinRound : AcceptPc → Option (Fin maxTasks)
  | .join k => some k
  | .finalJoin k => some k
  | _ => none

/-- The entry that is marked for a read task which has still to be started. -/
def claimedEntry : AcceptPc → Option (Fin maxTasks)
  | .assign k _ _ => some k
  | .start k _ _ => some k
  | _ => none

/-- The final join loop has left the entry behind. -/
def Passed : AcceptPc → Fin maxTasks → Prop
  | .finalJoin k, j => j < k
  | .finalClose, _ => True
  | .done, _ => True
  | _, _ => False

/-- The entry whose task the next statement of acceptTask joins. -/
def joins (env : AcceptEnv) (s : Inbound) : Option (Fin maxTasks) :=
  (joinRound s.pc).filter fun k => s.started k ∧ env.join = 0

/-- The entry that the next statement of acceptTask marks. -/
def takes (s : Inbound) : Option (Fin maxTasks) :=
  match s.pc with
  | .search _ _ => s.freeTask
  | _ => none

/-- The last read task that was started in an entry: its handle is the one that the entry has. -/
def latestTask (readers : List Reader) (k : Fin maxTasks) : Option Nat :=
  lastIdxOf k (readers.map Reader.entry)

/-- The last read task that was started in an entry has ended. -/
def Ended (readers : List Reader) (k : Fin maxTasks) : Prop :=
  ∀ n ∈ latestTask readers k, ∀ r ∈ readers[n]?, r.live = false

instance (readers : List Reader) (k : Fin maxTasks) : Decidable (Ended readers k) :=
  inferInstanceAs (Decidable (∀ n ∈ latestTask readers k, ∀ r ∈ readers[n]?, _))

/-- pthread_tryjoin_np answers 0 for a task that has ended, and an error otherwise. -/
def TryJoin (s : Inbound) (act : InboundAct) : Prop :=
  OnAccept (fun env => ∀ k ∈ joinRound s.pc, s.started k = true →
    (env.join = 0 ↔ Ended s.readers k)) act

instance (s : Inbound) (act : InboundAct) : Decidable (TryJoin s act) :=
  inferInstanceAs (Decidable (OnAccept _ act))

/-- What a statement of acceptTask does to the pool of read tasks. -/
inductive PoolEffect (env : AcceptEnv) (s t : Inbound) : Prop
  | kept (hround : joinRound s.pc = none) (htakes : takes s = none)
      (hcount : t.taskCount = s.taskCount) (hstarted : t.started = s.started)
      (hreaders : t.readers = s.readers) (hclaimed : claimedEntry t.pc = claimedEntry s.pc)
      (hpassed : ∀ j, Passed t.pc j ↔ Passed s.pc j)
  | taken (k : Fin maxTasks) (hround : joinRound s.pc = none) (htakes : takes s = some k)
      (hcount : t.taskCount = s.taskCount + 1)
      (hstarted : t.started = Function.update s.started k true) (hreaders : t.readers = s.readers)
      (hidle : claimedEntry s.pc = none) (hclaimed : claimedEntry t.pc = some k)
      (hpassed : ∀ j, ¬Passed t.pc j)
  | launched (k : Fin maxTasks) (r : Reader) (hround : joinRound s.pc = none)
      (htakes : takes s = none) (hcount : t.taskCount = s.taskCount)
      (hstarted : t.started = s.started) (hreaders : t.readers = s.readers ++ [r])
      (hentry : r.entry = k) (hclaims : claimedEntry s.pc = some k)
      (hclaimed : claimedEntry t.pc = none) (hpassed : ∀ j, ¬Passed t.pc j)
  | round (k : Fin maxTasks) (hround : joinRound s.pc = some k) (htakes : takes s = none)
      (hcount : t.taskCount = (s.tryJoin k env).taskCount)
      (hstarted : t.started = (s.tryJoin k env).started) (hreaders : t.readers = s.readers)
      (hidle : claimedEntry s.pc = none) (hclaimed : claimedEntry t.pc = none)
      (hpassed : ∀ j, Passed t.pc j ↔ Passed s.pc j ∨ s.pc = .finalJoin k ∧ j = k)

theorem tryJoin_readers (s : Inbound) (k : Fin maxTasks) (env : AcceptEnv) :
    (s.tryJoin k env).readers = s.readers := by
  unfold Inbound.tryJoin
  dsimp only
  split_ifs <;> rfl

theorem claimedEntry_nextRound (k : Fin maxTasks) {round : Fin maxTasks → AcceptPc}
    {after : AcceptPc} (hround : ∀ j, claimedEntry (round j) = none)
    (hafter : claimedEntry after = none) :
    claimedEntry (Inbound.nextRound k round after) = none := by
  unfold Inbound.nextRound
  split_ifs
  · exact hround _
  · exact hafter

/-- The rounds of the final loop pass one entry each, and the last one the last entry. -/
theorem passed_nextRound (k j : Fin maxTasks) :
    Passed (Inbound.nextRound k .finalJoin .finalClose) j ↔ j < k ∨ j = k := by
  unfold Inbound.nextRound
  split_ifs with h
  · change j.val < k.val + 1 ↔ j.val < k.val ∨ j = k
    rw [Fin.ext_iff]
    omega
  · have hj := j.isLt
    rw [Fin.lt_def, Fin.ext_iff]
    refine iff_of_true trivial ?_
    omega

/-- The statement is neither about an entry of the pool nor behind the final loop. -/
def OffPool (pc : AcceptPc) : Prop := claimedEntry pc = none ∧ ∀ j, ¬Passed pc j

/-- The statement leaves the pool alone. -/
def Aside (s : Inbound) : Prop := joinRound s.pc = none ∧ takes s = none ∧ OffPool s.pc

theorem aside_of_pc {s : Inbound} {pc : AcceptPc} (hpc : s.pc = pc) (hround : joinRound pc = none)
    (hoff : OffPool pc) (hsearch : ∀ i c, pc ≠ .search i c) : Aside s := by
  subst hpc
  refine ⟨hround, ?_, hoff⟩
  unfold takes
  split
  · rename_i i c hpc
    exact absurd hpc (hsearch i c)
  · rfl

theorem PoolEffect.aside {env : AcceptEnv} {s t : Inbound} (h : Aside s) (ht : OffPool t.pc)
    (hcount : t.taskCount = s.taskCount) (hstarted : t.started = s.started)
    (hreaders : t.readers = s.readers) : PoolEffect env s t :=
  .kept h.1 h.2.1 hcount hstarted hreaders (ht.1.trans h.2.2.1.symm)
    fun j => iff_of_false (ht.2 j) (h.2.2.2 j)

theorem acceptStep_pool {env : AcceptEnv} {s t : Inbound} (h : s.acceptStep env = some t) :
    PoolEffect env s t := by
  unfold Inbound.acceptStep at h
  cases hpc : s.pc with
  | head =>
    have hs := aside_of_pc hpc rfl ⟨rfl, fun _ => id⟩ (by simp)
    simp only [hpc] at h
    split_ifs at h
    · obtain rfl := Option.some.inj h
      exact .aside hs ⟨rfl, fun _ => id⟩ rfl rfl rfl
    · obtain rfl := Option.some.inj h
      exact .aside hs ⟨rfl, fun _ => id⟩ rfl rfl rfl
  | openClient =>
    have hs := aside_of_pc hpc rfl ⟨rfl, fun _ => id⟩ (by simp)
    simp only [hpc] at h
    split at h
    · obtain rfl := Option.some.inj h
      refine .aside hs ?_ rfl rfl rfl
      dsimp only
      split_ifs
      · exact ⟨rfl, fun _ => id⟩
      · exact ⟨rfl, fun _ => id⟩
    · obtain rfl := Option.some.inj h
      exact .aside hs ⟨rfl, fun _ => id⟩ rfl rfl rfl
  | recvClientID i c =>
    have hs := aside_of_pc hpc rfl ⟨rfl, fun _ => id⟩ (by simp)
    simp only [hpc] at h
    split_ifs at h
    · obtain rfl := Option.some.inj h
      exact .aside hs ⟨rfl, fun _ => id⟩ rfl rfl rfl
    · obtain rfl := Option.some.inj h
      exact .aside hs ⟨rfl, fun _ => id⟩ rfl rfl rfl
  | close i =>
    have hs := aside_of_pc hpc rfl ⟨rfl, fun _ => id⟩ (by simp)
    simp only [hpc] at h
    obtain rfl := Option.some.inj h
    exact .aside hs ⟨rfl, fun _ => id⟩ rfl rfl rfl
  | sendSrvrID i c =>
    have hs := aside_of_pc hpc rfl ⟨rfl, fun _ => id⟩ (by simp)
    simp only [hpc] at h
    obtain rfl := Option.some.inj h
    refine .aside hs ?_ rfl rfl rfl
    dsimp only
    split_ifs
    · exact ⟨rfl, fun _ => id⟩
    · exact ⟨rfl, fun _ => id⟩
  | search i c =>
    simp only [hpc] at h
    cases hk : s.freeTask with
    | none =>
      have hs : Aside s := by
        simp [Aside, OffPool, hpc, joinRound, takes, claimedEntry, Passed, hk]
      simp only [hk] at h
      obtain rfl := Option.some.inj h
      exact .aside hs ⟨rfl, fun _ => id⟩ rfl rfl rfl
    | some k =>
      simp only [hk] at h
      obtain rfl := Option.some.inj h
      exact .taken k (by rw [hpc]; rfl) (by rw [takes, hpc]; exact hk) rfl rfl rfl
        (by rw [hpc]; rfl) rfl fun _ => id
  | assign k i c =>
    simp only [hpc] at h
    obtain rfl := Option.some.inj h
    exact .kept (by rw [hpc]; rfl) (by rw [takes, hpc]) rfl rfl rfl (by rw [hpc]; rfl)
      (by rw [hpc]; exact fun _ => Iff.rfl)
  | start k i c =>
    simp only [hpc] at h
    obtain rfl := Option.some.inj h
    exact .launched k _ (by rw [hpc]; rfl) (by rw [takes, hpc]) rfl rfl rfl rfl (by rw [hpc]; rfl)
      rfl fun _ => id
  | join k =>
    simp only [hpc] at h
    obtain rfl := Option.some.inj h
    refine .round k (by rw [hpc]; rfl) (by rw [takes, hpc]) rfl rfl (tryJoin_readers s k env)
      (by rw [hpc]; rfl) (claimedEntry_nextRound k (fun _ => rfl) rfl) ?_
    intro j
    rw [hpc]
    refine iff_of_false ?_ ?_
    · dsimp only
      unfold Inbound.nextRound
      split_ifs
      · exact id
      · exact id
    · intro hpassed
      rcases hpassed with hp | ⟨hp, -⟩
      · exact hp
      · cases hp
  | loop =>
    have hs := aside_of_pc hpc rfl ⟨rfl, fun _ => id⟩ (by simp)
    simp only [hpc] at h
    obtain rfl := Option.some.inj h
    refine .aside hs ?_ rfl rfl rfl
    dsimp only
    split_ifs
    · exact ⟨rfl, Fin.not_lt_zero⟩
    · exact ⟨rfl, fun _ => id⟩
  | finalJoin k =>
    simp only [hpc] at h
    obtain rfl := Option.some.inj h
    refine .round k (by rw [hpc]; rfl) (by rw [takes, hpc]) rfl rfl (tryJoin_readers s k env)
      (by rw [hpc]; rfl) (claimedEntry_nextRound k (fun _ => rfl) rfl) ?_
    intro j
    rw [hpc]
    exact (passed_nextRound k j).trans (or_congr Iff.rfl (by simp))
  | finalClose =>
    simp only [hpc] at h
    obtain rfl := Option.some.inj h
    exact .kept (by rw [hpc]; rfl) (by rw [takes, hpc]) rfl rfl rfl (by rw [hpc]; rfl)
      (by rw [hpc]; exact fun _ => Iff.rfl)
  | done => simp [hpc] at h

/-- Only after its return has acceptTask no statement left. -/
theorem acceptStep_none {env : AcceptEnv} {s : Inbound} (h : s.acceptStep env = none) :
    s.pc = .done := by
  unfold Inbound.acceptStep at h
  cases hpc : s.pc with
  | done => rfl
  | head =>
    simp only [hpc] at h
    split_ifs at h
  | openClient =>
    simp only [hpc] at h
    split at h
    · cases h
    · cases h
  | recvClientID i c =>
    simp only [hpc] at h
    split_ifs at h
  | search i c =>
    simp only [hpc] at h
    split at h
    · cases h
    · cases h
  | _ => simp [hpc] at h

/-- The entry that is taken was not started. -/
theorem takes_free {s : Inbound} {k : Fin maxTasks} (h : takes s = some k) :
    s.started k = false := by
  unfold takes at h
  split at h
  · simpa using (Fin.find?_eq_some_iff.mp h).1
  · cases h

/-- A read task leaves the pool to acceptTask. -/
theorem ReadEffect.pool {env : ReadEnv} {s t : Inbound} {n : Nat} (h : ReadEffect env s n t) :
    t.taskCount = s.taskCount ∧ t.started = s.started := by
  cases h <;> exact ⟨rfl, rfl⟩

/-- Every other step leaves acceptTask and the pool where they are. -/
theorem step_beside {s t : Inbound} {act : InboundAct} (hact : ∀ env, act ≠ .acceptTask env)
    (hs : s.step act = some t) :
    t.pc = s.pc ∧ t.taskCount = s.taskCount ∧ t.started = s.started := by
  cases act with
  | acceptTask env => exact absurd rfl (hact env)
  | readTask n env =>
    have he := readStep_effect hs
    exact ⟨he.frame.1, he.pool⟩
  | stop =>
    obtain rfl := Option.some.inj hs
    exact ⟨rfl, rfl, rfl⟩
  | closeAll =>
    obtain rfl := Option.some.inj hs
    exact ⟨rfl, rfl, rfl⟩
  | shutdown =>
    obtain rfl := Option.some.inj hs
    exact ⟨rfl, rfl, rfl⟩

/-- What a round of a join loop does: an entry whose task is joined is cleared and counted off, and
an entry that is not started is counted off on the answer for an earlier one. -/
theorem tryJoin_started (s : Inbound) (k : Fin maxTasks) (env : AcceptEnv) :
    (s.tryJoin k env).started =
      if s.started k = true ∧ env.join = 0 then Function.update s.started k false
      else s.started := by
  unfold Inbound.tryJoin
  cases hk : s.started k with
  | true =>
    by_cases hj : env.join = 0
    · simp [hj]
    · simp [hj]
  | false =>
    have hupdate : Function.update s.started k false = s.started := by
      rw [← hk, Function.update_eq_self]
    by_cases hj : s.joinStatus = 0
    · simp [hj, hupdate]
    · simp [hj]

theorem tryJoin_taskCount (s : Inbound) (k : Fin maxTasks) (env : AcceptEnv) :
    (s.tryJoin k env).taskCount =
      if (s.started k = true ∧ env.join = 0) ∨ (s.started k = false ∧ s.joinStatus = 0)
      then s.taskCount - 1 else s.taskCount := by
  unfold Inbound.tryJoin
  cases hk : s.started k with
  | true =>
    by_cases hj : env.join = 0
    · simp [hj]
    · simp [hj]
  | false =>
    by_cases hj : s.joinStatus = 0
    · simp [hj]
    · simp [hj]

/-- At the head of the loop the counter is the number of started entries, and a statement counts one
task on when it marks an entry and one off when it joins a task. -/
def TaskAccount (s : Inbound) (act : InboundAct) : Prop :=
  (s.pc = .head → s.taskCount = entries s.started) ∧
    OnAccept (fun env => ∀ t ∈ s.acceptStep env,
      t.taskCount + (joins env s).toList.length = s.taskCount + (takes s).toList.length) act

instance (s : Inbound) (act : InboundAct) : Decidable (TaskAccount s act) :=
  inferInstanceAs (Decidable (_ ∧ OnAccept _ act))

/-- A round for an entry that is not started finds an error left behind by an earlier one, or the
counter at 0. -/
def JoinsKept (s : Inbound) (act : InboundAct) : Prop :=
  OnAccept (fun _ => ∀ k ∈ joinRound s.pc, s.started k = false →
    s.joinStatus ≠ 0 ∨ s.taskCount = 0) act

/-- While the counter is right, a statement keeps it so in the very cases that it should. -/
theorem acceptStep_account {env : AcceptEnv} {s t : Inbound} (h : s.taskCount = entries s.started)
    (hs : s.acceptStep env = some t) :
    (t.taskCount + (joins env s).toList.length = s.taskCount + (takes s).toList.length ↔
        ∀ k ∈ joinRound s.pc, s.started k = false → s.joinStatus ≠ 0 ∨ s.taskCount = 0) ∧
      (t.taskCount + (joins env s).toList.length = s.taskCount + (takes s).toList.length →
        t.taskCount = entries t.started) := by
  cases acceptStep_pool hs with
  | kept hround htakes hcount hstarted =>
    rw [joins, hround, htakes, hcount, hstarted]
    exact ⟨iff_of_true rfl (by simp), fun _ => h⟩
  | taken k hround htakes hcount hstarted =>
    have hfree := takes_free htakes
    rw [joins, hround, htakes, hcount, hstarted, entries_set hfree, h]
    exact ⟨iff_of_true rfl (by simp), fun _ => rfl⟩
  | launched k r hround htakes hcount hstarted =>
    rw [joins, hround, htakes, hcount, hstarted]
    exact ⟨iff_of_true rfl (by simp), fun _ => h⟩
  | round k hround htakes hcount hstarted =>
    rw [joins, hround, htakes, hcount, hstarted, tryJoin_taskCount, tryJoin_started]
    cases hk : s.started k with
    | true =>
      by_cases hj : env.join = 0
      · have hpos := entries_pos hk
        have hclear := entries_clear hk
        simp [Option.filter_some, hk, hj]
        omega
      · simp [Option.filter_some, hk, hj, h]
    | false =>
      by_cases hj : s.joinStatus = 0
      · simp [Option.filter_some, hk, hj]
        omega
      · simp [Option.filter_some, hk, hj, h]

theorem inbound_account {s t : Inbound} {act : InboundAct}
    (h : s.taskCount = entries s.started) (hP : TaskAccount s act) (hs : s.step act = some t) :
    t.taskCount = entries t.started := by
  cases act with
  | acceptTask env => exact (acceptStep_account h hs).2 (hP.2 t hs)
  | _ =>
    obtain ⟨-, hcount, hstarted⟩ := step_beside (by simp) hs
    rw [hcount, hstarted]
    exact h

theorem taskAccount_iff {s : Inbound} (act : InboundAct) (h : s.taskCount = entries s.started) :
    TaskAccount s act ↔ JoinsKept s act := by
  unfold TaskAccount JoinsKept
  cases act with
  | acceptTask env =>
    cases hs : s.acceptStep env with
    | none =>
      -- acceptTask has returned
      have hround : joinRound s.pc = none := by
        rw [acceptStep_none hs]
        rfl
      simp [OnAccept, hs, hround, h]
    | some t =>
      have hiff := (acceptStep_account h hs).1
      simpa [OnAccept, hs, h] using hiff
  | _ => exact iff_of_true ⟨fun _ => h, trivial⟩ trivial

/-- Task accounting. The counter is kept in the runs whose rounds for entries that are not started
come upon an error or a counter at 0, and in no other. -/
theorem task_accounting (deviceID : UInt32) (idProtocol : Bool) (acts : List InboundAct) :
    AllSteps Inbound.step TaskAccount { deviceID := deviceID, idProtocol := idProtocol } acts ↔
      AllSteps Inbound.step JoinsKept { deviceID := deviceID, idProtocol := idProtocol } acts := by
  refine allSteps_iff (I := fun s => s.taskCount = entries s.started) ?_ ?_
    (entries_none fun _ => rfl).symm
  · intro s act t h hP hs
    exact inbound_account h hP hs
  · intro s act h
    exact taskAccount_iff act h

/-- Ten clients, whose tasks all run when the join pass begins; the last one ends before its
turn. -/
def endsInPass : List InboundAct :=
  List.replicate 61 (.acceptTask {}) ++ List.replicate 9 (.acceptTask { join := 16 }) ++
    reads 9 8 { status := .disconnected } ++ List.replicate 9 (.acceptTask {})

/-- The rounds after that of the last client count six tasks off that were never started. -/
theorem task_accounting_fails : ¬∀ (deviceID : UInt32) (idProtocol : Bool)
    (acts : List InboundAct),
    AllSteps Inbound.step TryJoin { deviceID := deviceID, idProtocol := idProtocol } acts →
    AllSteps Inbound.step TaskAccount { deviceID := deviceID, idProtocol := idProtocol } acts :=
  fun h => absurd (h baseID false endsInPass (by decide +kernel)) (by decide +kernel)

end MeshNetwork.Node
