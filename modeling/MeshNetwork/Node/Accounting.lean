import MeshNetwork.Node.ReadTasks

namespace MeshNetwork.Node

open Driver

def liveTasks (s : Inbound) : Nat := s.readers.countP Reader.live

def openSockets (m : MultiTcpServerManager) : Nat :=
  (List.finRange maxClients).countP fun i => (m.sockets i).isOpened

/-- No handshake and no read task is in progress. -/
def Quiet (s : Inbound) : Prop := Idle s.pc ∧ ∀ r ∈ s.readers, r.live = false

instance (s : Inbound) : Decidable (Quiet s) := inferInstanceAs (Decidable (_ ∧ _))

/-- sendSrvrID fails only when its client is no longer counted, after a closeAll. -/
def CountedOut (env : AcceptEnv) (s : Inbound) : Prop :=
  ∀ i ∈ sendsID s.pc, ((s.manager.sockets i).sendSrvrID s.deviceID env.send).1 ≠ .success →
    s.manager.getNConnected ≤ liveTasks s

instance (env : AcceptEnv) (s : Inbound) : Decidable (CountedOut env s) :=
  inferInstanceAs (Decidable (∀ i ∈ sendsID s.pc, _))

/-- A client that gets no read task is counted beside those of the running tasks if its socket
stays open, and is not counted if the socket is closed or a task for its slot will close it. -/
def CountedIn (s : Inbound) : Prop :=
  ∀ i ∈ searchesFor s.pc, s.freeTask = none →
    if (s.manager.sockets i).isOpened = true ∧ Unread s i then
      liveTasks s < s.manager.getNConnected
    else s.manager.getNConnected ≤ liveTasks s

instance (s : Inbound) : Decidable (CountedIn s) :=
  inferInstanceAs (Decidable (∀ i ∈ searchesFor s.pc, _))

/-- The condition on the steps under which the counter follows the sockets. -/
def CountKept (s : Inbound) (act : InboundAct) : Prop :=
  OnAccept (fun env => ParamsKept s ∧ CountedIn s ∧ CountedOut env s) act

instance (s : Inbound) (act : InboundAct) : Decidable (CountKept s act) :=
  inferInstanceAs (Decidable (OnAccept _ act))

/-- The slot whose client acceptTask has still to give to a read task or to close. -/
def heldSlot : AcceptPc → Option (Fin maxClients)
  | .close i => some i
  | pc => (heldClient pc).map Prod.fst

def pending (pc : AcceptPc) : Nat := if (heldSlot pc).isSome then 1 else 0

/-- An open socket that neither acceptTask nor a read task is going to close. -/
def Orphaned (s : Inbound) (i : Fin maxClients) : Prop :=
  (s.manager.sockets i).isOpened = true ∧ heldSlot s.pc ≠ some i ∧ Unread s i

instance (s : Inbound) (i : Fin maxClients) : Decidable (Orphaned s i) :=
  inferInstanceAs (Decidable (_ ∧ _))

def orphans (s : Inbound) : Nat := (Finset.univ.filter (Orphaned s)).card

/-- The counter is at most that of the running tasks, the client acceptTask is at and the orphans;
and with an orphan there it is no less. -/
structure AccountInv (s : Inbound) : Prop where
  count : s.manager.currentClientConnections ≤ liveTasks s + orphans s + pending s.pc
  exact : 0 < orphans s →
    liveTasks s + orphans s + pending s.pc ≤ s.manager.currentClientConnections

section orphans

variable {s t : Inbound} {i : Fin maxClients}

theorem Idle.heldSlot {pc : AcceptPc} (h : Idle pc) : heldSlot pc = none := by
  cases pc with
  | close i => exact absurd rfl (h.2 i)
  | _ => exact congrArg (Option.map Prod.fst) h.1

theorem pending_of_held {pc : AcceptPc} (h : heldSlot pc = some i) : pending pc = 1 := by
  rw [pending, h]
  rfl

theorem not_orphaned_of_closed (h : (s.manager.sockets i).fd = none) : ¬Orphaned s i := by
  intro ho
  obtain ⟨d, hd⟩ := (PeerSocket.isOpened_iff _).mp ho.1
  cases h.symm.trans hd

theorem not_orphaned_of_held (h : heldSlot s.pc = some i) : ¬Orphaned s i := fun ho => ho.2.1 h

theorem not_orphaned_of_live {r : Reader} (hr : r ∈ s.readers) (hslot : r.slot = i)
    (hlive : r.live = true) : ¬Orphaned s i := by
  intro ho
  cases hlive.symm.trans (ho.2.2 r hr hslot)

theorem orphans_congr (h : ∀ j, Orphaned t j ↔ Orphaned s j) : orphans t = orphans s :=
  congrArg Finset.card (Finset.filter_congr fun j _ => h j)

theorem orphans_eq_zero (h : ∀ i, (s.manager.sockets i).fd = none) : orphans s = 0 :=
  Finset.card_eq_zero.mpr (Finset.filter_eq_empty_iff.mpr fun i _ => not_orphaned_of_closed (h i))

/-- With nobody at work all open sockets are orphans. -/
theorem openSockets_eq_orphans (h : Quiet s) : openSockets s.manager = orphans s := by
  have hiff (i : Fin maxClients) : (s.manager.sockets i).isOpened = true ↔ Orphaned s i := by
    refine ⟨fun hopen => ⟨hopen, ?_, fun r hr _ => h.2 r hr⟩, fun ho => ho.1⟩
    rw [h.1.heldSlot]
    exact Option.some_ne_none i ∘ Eq.symm
  rw [orphans, ← Finset.filter_congr fun i _ => hiff i, openSockets, List.countP_eq_length_filter]
  show _ = ((List.finRange maxClients).filter fun i =>
    decide ((s.manager.sockets i).isOpened = true)).length
  simp only [Bool.decide_eq_true]

end orphans

theorem accountInv_init (deviceID : UInt32) (idProtocol : Bool) :
    AccountInv { deviceID := deviceID, idProtocol := idProtocol } where
  count := Nat.zero_le _
  exact h := by
    rw [orphans_eq_zero fun _ => rfl] at h
    cases h

/-- A statement of acceptTask about one slot lets the others be. -/
theorem AcceptEffect.elsewhere {env : AcceptEnv} {s t : Inbound} (h : AcceptEffect env s t)
    {i j : Fin maxClients} (hi : heldSlot s.pc = some i ∨ heldSlot t.pc = some i) (hj : j ≠ i) :
    Orphaned t j ↔ Orphaned s j := by
  have hne : some i ≠ some j := fun heq => hj (Option.some.inj heq).symm
  cases h with
  | idle pc _ _ _ hfrom hto => simp [hfrom.heldSlot, hto.heldSlot] at hi
  | returned h => simp [h, heldSlot, heldClient] at hi
  | accepted k pc htake hpc =>
    have hk : heldSlot pc = some k := by rcases hpc with rfl | rfl <;> rfl
    have hnone : heldSlot s.pc = none := by rw [htake.1]; rfl
    obtain rfl : k = i := by simpa [hk, hnone] using hi
    simp [Orphaned, Unread, hk, hnone, hne, hj]
  | idReceived k c d h =>
    obtain rfl : k = i := by simpa [h, heldSlot, heldClient] using hi
    simp [Orphaned, Unread, h, heldSlot, heldClient, hj]
  | idNotReceived k c h =>
    obtain rfl : k = i := by simpa [h, heldSlot, heldClient] using hi
    simp [Orphaned, Unread, h, heldSlot, heldClient, hj]
  | refused k h =>
    obtain rfl : k = i := by simpa [h, heldSlot, heldClient] using hi
    simp [Orphaned, Unread, h, heldSlot, heldClient, hj, hne]
  | idSent k c h =>
    simp [Orphaned, Unread, h, heldSlot, heldClient]
  | idNotSent k c h =>
    obtain rfl : k = i := by simpa [h, heldSlot, heldClient] using hi
    simp [Orphaned, Unread, h, heldSlot, heldClient, hj, hne]
  | unserved k c h =>
    obtain rfl : k = i := by simpa [h, heldSlot, heldClient] using hi
    simp [Orphaned, Unread, h, heldSlot, heldClient, hne]
  | served k c e _ _ h => simp [Orphaned, Unread, h, heldSlot, heldClient]
  | assigned k c e h => simp [Orphaned, Unread, h, heldSlot, heldClient]
  | started k c e h =>
    obtain rfl : k = i := by simpa [h, heldSlot, heldClient] using hi
    simp [Orphaned, Unread, h, heldSlot, heldClient, hne, or_imp, forall_and, Ne.symm hj]

/-- A slot that acceptTask is at is no orphan before, nor after if that is so. -/
theorem AcceptEffect.orphans_eq {env : AcceptEnv} {s t : Inbound} (h : AcceptEffect env s t)
    {i : Fin maxClients} (hi : heldSlot s.pc = some i ∨ heldSlot t.pc = some i)
    (hs : ¬Orphaned s i) (ht : ¬Orphaned t i) : orphans t = orphans s := by
  refine orphans_congr fun j => ?_
  by_cases hj : j = i
  · subst hj
    exact iff_of_false ht hs
  · exact h.elsewhere hi hj

/-- acceptTask leaves its client with an open socket and without a task. -/
theorem AcceptEffect.orphans_add_one {env : AcceptEnv} {s t : Inbound} (h : AcceptEffect env s t)
    {i : Fin maxClients} (hi : heldSlot s.pc = some i) (ht : Orphaned t i) :
    orphans t = orphans s + 1 := by
  have hinsert : Finset.univ.filter (Orphaned t) = insert i (Finset.univ.filter (Orphaned s)) := by
    ext j
    by_cases hj : j = i
    · subst hj
      simp [ht]
    · simp [hj, h.elsewhere (.inl hi) hj]
  have hs : i ∉ Finset.univ.filter (Orphaned s) := by simp [not_orphaned_of_held hi]
  rw [orphans, hinsert, Finset.card_insert_of_notMem hs, orphans]

/-- A running task runs on, or it has closed its slot. -/
theorem ReadEffect.live_next {env : ReadEnv} {s t : Inbound} {n : Nat} (h : ReadEffect env s n t)
    (hparams : ParamsInv s) {q : Reader} (hq : q ∈ s.readers) (hlive : q.live = true) :
    (∃ r ∈ t.readers, r.slot = q.slot ∧ r.live = true) ∨ (t.manager.sockets q.slot).fd = none := by
  have stays {r r' : Reader} (hr : s.readers[n]? = some r) (hslot : r'.slot = r.slot)
      (hrun : r'.live = true) :
      ∃ r ∈ s.readers.set n r', r.slot = q.slot ∧ r.live = true := by
    by_cases hqr : q = r
    · exact ⟨r', mem_set_self hr, hqr ▸ hslot, hrun⟩
    · exact ⟨q, mem_set_of_ne hq hr hqr, rfl, hlive⟩
  have runs {r r' : Reader} (hsame : SameTask r r') : r'.live = true := by
    simp [Reader.live, hsame.running.2]
  cases h with
  | copied r hr _ => exact .inl (stays hr rfl rfl)
  | moved r r' i hr _ _ hsame => exact .inl (stays hr hsame.slot (runs hsame))
  | disconnected r r' i hr _ _ _ hsame _ => exact .inl (stays hr hsame.slot (runs hsame))
  | closed r r' i hr _ _ hsame => exact .inl (stays hr hsame.slot (runs hsame))
  | finished r i hr hi _ =>
    by_cases hqr : q = r
    · subst hqr
      obtain rfl := hparams.own q hq i hi
      exact .inr (by rw [MultiTcpServerManager.close_self]; rfl)
    · exact .inl ⟨q, mem_set_of_ne hq hr hqr, rfl, hlive⟩

/-- A read task makes no orphan, and leaves those there are alone. -/
theorem ReadEffect.orphaned {env : ReadEnv} {s t : Inbound} {n : Nat} (h : ReadEffect env s n t)
    (hparams : ParamsInv s) (j : Fin maxClients) : Orphaned t j ↔ Orphaned s j := by
  have hpc := h.frame.1
  constructor
  · intro ho
    obtain ⟨hopen, hheld, hunread⟩ := ho
    obtain ⟨d, hd⟩ := (PeerSocket.isOpened_iff _).mp hopen
    refine ⟨(PeerSocket.isOpened_iff _).mpr ⟨d, h.sockets hd⟩, hpc ▸ hheld, ?_⟩
    intro q hq hslot
    by_contra hlive
    obtain rfl := hslot
    rcases h.live_next hparams hq (by simpa using hlive) with ⟨r, hr, hslot, hrun⟩ | hclosed
    · cases hrun.symm.trans (hunread r hr hslot)
    · cases hclosed.symm.trans hd
  · intro ho
    obtain ⟨hopen, hheld, hunread⟩ := ho
    have other {r : Reader} {i : Fin maxClients} (hr : s.readers[n]? = some r)
        (hi : r.index = some i) (hlive : r.live = true) : j ≠ i := by
      intro hj
      have hmem := List.mem_of_getElem? hr
      have hdead := hunread r hmem (hj ▸ (hparams.own r hmem i hi).symm)
      cases hlive.symm.trans hdead
    refine ⟨?_, hpc.symm ▸ hheld, ?_⟩
    · cases h with
      | copied => exact hopen
      | moved => exact hopen
      | disconnected r r' i hr hi h =>
        rw [MultiTcpServerManager.setPeer_ne _ _ _ (other hr hi (by simp [Reader.live, h]))]
        exact hopen
      | closed r r' i hr hi h =>
        rw [MultiTcpServerManager.setPeer_ne _ _ _ (other hr hi (by simp [Reader.live, h]))]
        exact hopen
      | finished r i hr hi h =>
        rw [MultiTcpServerManager.close_ne _ _ (other hr hi (by simp [Reader.live, h]))]
        exact hopen
    · intro r hr hslot
      by_contra hlive
      obtain ⟨q, hq, hsame, -, hrun⟩ := h.mem hr
      have hdead := hunread q hq (hsame ▸ hslot)
      cases (hrun (by simpa using hlive)).symm.trans hdead

/-- A read task takes itself off the counter when it ends, and only then. -/
theorem ReadEffect.accounts {env : ReadEnv} {s t : Inbound} {n : Nat} (h : ReadEffect env s n t) :
    liveTasks t = liveTasks s ∧
        t.manager.currentClientConnections = s.manager.currentClientConnections ∨
      liveTasks t + 1 = liveTasks s ∧
        t.manager.currentClientConnections = s.manager.currentClientConnections - 1 := by
  have live {r : Reader} (hpc : r.pc ≠ .ended) : r.live = true := by simp [Reader.live, hpc]
  have same {r r' : Reader} (hr : s.readers[n]? = some r) (hpc : r.pc ≠ .ended)
      (hpc' : r'.pc ≠ .ended) : (s.readers.set n r').countP Reader.live = liveTasks s :=
    countP_set_same hr (by rw [live hpc, live hpc'])
  cases h with
  | copied r hr h => exact .inl ⟨same hr (by simp [h]) (by simp), rfl⟩
  | moved r r' i hr _ h hsame => exact .inl ⟨same hr h.2.2 hsame.running.2, rfl⟩
  | disconnected r r' i hr _ h _ hsame _ =>
    exact .inl ⟨same hr (by simp [h]) hsame.running.2, rfl⟩
  | closed r r' i hr _ h hsame => exact .inl ⟨same hr (by simp [h]) hsame.running.2, rfl⟩
  | finished r i hr _ h =>
    exact .inr ⟨countP_set_drop hr (live (by simp [h])) (by simp [Reader.live]), rfl⟩

namespace AccountInv

variable {s t : Inbound}

theorem of_same (h : AccountInv s) (ho : orphans t = orphans s) (hr : t.readers = s.readers)
    (hpc : heldSlot t.pc = heldSlot s.pc)
    (hcount : t.manager.currentClientConnections = s.manager.currentClientConnections) :
    AccountInv t := by
  have hlive : liveTasks t = liveTasks s := by rw [liveTasks, hr, liveTasks]
  have hpending : pending t.pc = pending s.pc := by rw [pending, hpc, pending]
  exact ⟨by rw [hlive, ho, hpending, hcount]; exact h.count,
    by rw [hlive, ho, hpending, hcount]; exact h.exact⟩

/-- acceptTask goes on with its client. -/
theorem of_held {env : AcceptEnv} (h : AccountInv s) (he : AcceptEffect env s t)
    {i : Fin maxClients} (hfrom : heldSlot s.pc = some i) (hto : heldSlot t.pc = some i)
    (hr : t.readers = s.readers)
    (hcount : t.manager.currentClientConnections = s.manager.currentClientConnections) :
    AccountInv t :=
  h.of_same (he.orphans_eq (.inl hfrom) (not_orphaned_of_held hfrom) (not_orphaned_of_held hto)) hr
    (hto.trans hfrom.symm) hcount

/-- Where all sockets are closed and the counter is 0 nothing is left to account for. -/
theorem of_closed (hclosed : ∀ i, (t.manager.sockets i).fd = none)
    (hcount : t.manager.currentClientConnections = 0) : AccountInv t := by
  refine ⟨hcount ▸ Nat.zero_le _, ?_⟩
  intro h
  rw [orphans_eq_zero hclosed] at h
  cases h

/-- The invariant by its four numbers. -/
theorem of_numbers (n live orphaned held : Nat) (hn : t.manager.currentClientConnections = n)
    (hlive : liveTasks t = live) (horphans : orphans t = orphaned) (hheld : pending t.pc = held)
    (hle : n ≤ live + orphaned + held) (hge : 0 < orphaned → live + orphaned + held ≤ n) :
    AccountInv t := by
  subst hn hlive horphans hheld
  exact ⟨hle, hge⟩

theorem acceptStep {env : AcceptEnv} (h : AccountInv s) (hin : CountedIn s)
    (hout : CountedOut env s) (hs : s.acceptStep env = some t) : AccountInv t := by
  have he := acceptStep_effect hs
  have hcount := h.count
  have hexact := h.exact
  have hnow := @of_held s t env h he
  have horphans := @he.orphans_eq
  have hmore := @he.orphans_add_one
  cases he with
  | idle pc _ _ _ hfrom hto =>
    refine h.of_same (orphans_congr fun j => ?_) rfl (hto.heldSlot.trans hfrom.heldSlot.symm) rfl
    simp [Orphaned, Unread, hfrom.heldSlot, hto.heldSlot]
  | accepted i pc htake hpc =>
    have hto : heldSlot pc = some i := by rcases hpc with rfl | rfl <;> rfl
    have hsame := horphans (.inr hto) (not_orphaned_of_closed htake.closed)
      (not_orphaned_of_held hto)
    have hnone : pending s.pc = 0 := by rw [htake.1]; rfl
    exact of_numbers (s.manager.currentClientConnections + 1) (liveTasks s) (orphans s) 1 rfl rfl
      hsame (pending_of_held hto) (by omega) (by omega)
  | idReceived i c d hpc => exact hnow (by rw [hpc]; rfl) rfl rfl rfl
  | idNotReceived i c hpc => exact hnow (by rw [hpc]; rfl) rfl rfl rfl
  | refused i hpc =>
    have hfrom : heldSlot s.pc = some i := by rw [hpc]; rfl
    have hone := pending_of_held hfrom
    have hclosed : ((s.manager.close i).sockets i).fd = none := by
      rw [MultiTcpServerManager.close_self]
      rfl
    have hsame := horphans (.inl hfrom) (not_orphaned_of_held hfrom)
      (not_orphaned_of_closed hclosed)
    exact of_numbers (s.manager.currentClientConnections - 1) (liveTasks s) (orphans s) 0 rfl rfl
      hsame rfl (by omega) (by omega)
  | idSent i c hpc => exact hnow (by rw [hpc]; rfl) rfl rfl rfl
  | idNotSent i c hpc hfail =>
    have hfrom : heldSlot s.pc = some i := by rw [hpc]; rfl
    have hone := pending_of_held hfrom
    have hclosed :
        ((s.manager.setPeer i (s.manager.sockets i).baseClose).sockets i).fd = none := by
      rw [MultiTcpServerManager.setPeer_self]
      rfl
    have hsame := horphans (.inl hfrom) (not_orphaned_of_held hfrom)
      (not_orphaned_of_closed hclosed)
    have hle : s.manager.currentClientConnections ≤ liveTasks s :=
      hout i (by rw [hpc]; rfl) hfail
    exact of_numbers s.manager.currentClientConnections (liveTasks s) (orphans s) 0 rfl rfl
      hsame rfl (by omega) (by omega)
  | unserved i c hpc hk =>
    have hfrom : heldSlot s.pc = some i := by rw [hpc]; rfl
    have hone := pending_of_held hfrom
    have hcounted := hin i (by rw [hpc]; rfl) hk
    rw [MultiTcpServerManager.getNConnected] at hcounted
    split_ifs at hcounted with hopen
    · -- the client stays, counted and without a task
      have hadd := hmore hfrom ⟨hopen.1, Option.some_ne_none i ∘ Eq.symm, hopen.2⟩
      exact of_numbers s.manager.currentClientConnections (liveTasks s) (orphans s + 1) 0 rfl rfl
        hadd rfl (by omega) (by omega)
    · have hsame := horphans (.inl hfrom) (not_orphaned_of_held hfrom)
        fun ho => hopen ⟨ho.1, ho.2.2⟩
      exact of_numbers s.manager.currentClientConnections (liveTasks s) (orphans s) 0 rfl rfl
        hsame rfl (by omega) (by omega)
  | served i c k _ _ hpc => exact hnow (by rw [hpc]; rfl) rfl rfl rfl
  | assigned i c k hpc => exact hnow (by rw [hpc]; rfl) rfl rfl rfl
  | started i c k hpc =>
    have hfrom : heldSlot s.pc = some i := by rw [hpc]; rfl
    have hone := pending_of_held hfrom
    have hlive : (s.readers ++ [({ slot := i, conn := c, entry := k } : Reader)]).countP
        Reader.live = liveTasks s + 1 := by
      simp [liveTasks, Reader.live]
    have hsame := horphans (.inl hfrom) (not_orphaned_of_held hfrom) (not_orphaned_of_live
      (List.mem_append_right _ (List.mem_singleton.mpr rfl)) rfl rfl)
    exact of_numbers s.manager.currentClientConnections (liveTasks s + 1) (orphans s) 0 rfl hlive
      hsame rfl (by omega) (by omega)
  | returned _ => exact of_closed (fun _ => rfl) rfl

theorem readStep {env : ReadEnv} {n : Nat} (h : AccountInv s) (hparams : ParamsInv s)
    (hs : s.readStep env n = some t) : AccountInv t := by
  have he := readStep_effect hs
  have hcount := h.count
  have hexact := h.exact
  have horphans : orphans t = orphans s := orphans_congr (he.orphaned hparams)
  have hpc : pending t.pc = pending s.pc := congrArg pending he.frame.1
  constructor
  · rcases he.accounts with ⟨hlive, hn⟩ | ⟨hlive, hn⟩ <;> omega
  · rcases he.accounts with ⟨hlive, hn⟩ | ⟨hlive, hn⟩ <;> omega

theorem step {act : InboundAct} (h : AccountInv s) (hparams : ParamsInv s) (hg : CountKept s act)
    (hs : s.step act = some t) : AccountInv t := by
  cases act with
  | acceptTask env => exact h.acceptStep hg.2.1 hg.2.2 hs
  | readTask n env => exact h.readStep hparams hs
  | stop =>
    obtain rfl := Option.some.inj hs
    exact ⟨h.count, h.exact⟩
  | closeAll =>
    obtain rfl := Option.some.inj hs
    exact of_closed (fun _ => rfl) rfl
  | shutdown =>
    obtain rfl := Option.some.inj hs
    exact of_closed (fun _ => rfl) rfl

/-- With nobody at work the orphans are all that is counted, and all that is open. -/
theorem counted (h : AccountInv s) (hquiet : Quiet s) :
    s.manager.getNConnected = openSockets s.manager := by
  have hcount := h.count
  have hexact := h.exact
  have hlive : liveTasks s = 0 := by
    refine List.countP_eq_zero.mpr fun r hr => ?_
    rw [hquiet.2 r hr]
    simp
  have hpending : pending s.pc = 0 := by
    rw [pending, hquiet.1.heldSlot]
    rfl
  rw [openSockets_eq_orphans hquiet, MultiTcpServerManager.getNConnected]
  omega

end AccountInv

/-- The counter is the number of open sockets whenever no handshake and no read task is in progress,
in every run that keeps the parameter, counts the clients that get no read task as their sockets
stay, and has no sendSrvrID fail on a counted client. -/
theorem connections_counted (deviceID : UInt32) (idProtocol : Bool) (acts : List InboundAct)
    (t : Inbound)
    (hrun : run Inbound.step { deviceID := deviceID, idProtocol := idProtocol } acts = some t)
    (hkept : AllSteps Inbound.step CountKept
      { deviceID := deviceID, idProtocol := idProtocol } acts)
    (hquiet : Quiet t) : t.manager.getNConnected = openSockets t.manager := by
  have hinv := run_invariant (I := fun s => ParamsInv s ∧ AccountInv s) ?_
    ⟨paramsInv_init deviceID idProtocol, accountInv_init deviceID idProtocol⟩ hkept hrun
  · exact hinv.2.counted hquiet
  · intro s act u hinv hg hs
    obtain ⟨hparams, hacc⟩ := hinv
    have hkept : OnAccept (fun _ => ParamsKept s) act := hg.mono fun _ h => h.1
    exact ⟨hparams.step hkept hs, hacc.step hparams hg hs⟩

/-- A client comes and goes, and its task ends. -/
theorem connections_counted_one :
    let t := (run Inbound.step { deviceID := baseID }
      (newClient 0x20202021 ++ reads 0 8 { status := .disconnected })).get (by rfl)
    t.manager.getNConnected = openSockets t.manager :=
  connections_counted baseID true _ _ (Option.some_get _).symm (by decide) (by decide)

/-- sendSrvrID fails for a client that has just been accepted: its socket is closed and stays
counted. -/
theorem connections_counted_fails : ¬∀ (deviceID : UInt32) (idProtocol : Bool)
    (acts : List InboundAct) (t : Inbound),
    run Inbound.step { deviceID := deviceID, idProtocol := idProtocol } acts = some t →
    Quiet t → t.manager.getNConnected = openSockets t.manager := fun h =>
  absurd (h baseID true (List.replicate 4 (.acceptTask
    { recv := { status := .success, bytes := idEntry 0x20202021, size := 6 },
      send := { status := .disconnected } })) _ (Option.some_get (by rfl)).symm (by decide))
    (by decide)

end MeshNetwork.Node
