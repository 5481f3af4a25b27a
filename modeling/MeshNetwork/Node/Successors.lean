import MeshNetwork.Node.ReadTasks

namespace MeshNetwork.Node

open Driver

/-- The connection that the next statement of a read task receives from or closes. -/
def touched (s : Inbound) (r : Reader) : Option Conn :=
  if r.pc = .recv ∨ r.pc = .close ∨ r.pc = .finalClose then
    r.index.bind fun i => (s.manager.sockets i).fd
  else none

/-- A read task works on the connection it was started for, or on none. -/
def TouchesOwn (s : Inbound) : InboundAct → Prop
  | .readTask n _ => ∀ r ∈ s.readers[n]?, ∀ d ∈ touched s r, d = r.conn
  | _ => True

instance (s : Inbound) : (act : InboundAct) → Decidable (TouchesOwn s act)
  | .readTask n _ =>
    inferInstanceAs (Decidable (∀ r ∈ s.readers[n]?, ∀ d ∈ touched s r, d = r.conn))
  | .acceptTask _ => .isTrue trivial
  | .stop => .isTrue trivial
  | .closeAll => .isTrue trivial
  | .shutdown => .isTrue trivial

/-- No read task runs while acceptTask has a new client on its slot. -/
def SlotLeft (s : Inbound) : InboundAct → Prop
  | .readTask n _ => ∀ r ∈ s.readers[n]?, ∀ x ∈ heldClient s.pc, x.1 ≠ r.slot
  | _ => True

instance (s : Inbound) : (act : InboundAct) → Decidable (SlotLeft s act)
  | .readTask n _ =>
    inferInstanceAs (Decidable (∀ r ∈ s.readers[n]?, ∀ x ∈ heldClient s.pc, x.1 ≠ r.slot))
  | .acceptTask _ => .isTrue trivial
  | .stop => .isTrue trivial
  | .closeAll => .isTrue trivial
  | .shutdown => .isTrue trivial

/-- The condition on the steps under which no slot has two clients at work. -/
def SlotsRested (s : Inbound) (act : InboundAct) : Prop :=
  OnAccept (fun _ => ParamsKept s ∧ SlotRested s) act ∧ SlotLeft s act

instance (s : Inbound) (act : InboundAct) : Decidable (SlotsRested s act) :=
  inferInstanceAs (Decidable (_ ∧ _))

/-- As long as a client is served, its slot has its connection, or that of a client in its
handshake, or is closed. -/
structure OwnInv (s : Inbound) : Prop where
  live : ∀ r ∈ s.readers, r.live = true → ∀ d, (s.manager.sockets r.slot).fd = some d →
    d = r.conn ∨ heldClient s.pc = some (r.slot, d)
  held : ∀ i c, heldClient s.pc = some (i, c) → ∀ d, (s.manager.sockets i).fd = some d → d = c
  vacant : Vacant s

theorem ownInv_init (deviceID : UInt32) (idProtocol : Bool) :
    OwnInv { deviceID := deviceID, idProtocol := idProtocol } where
  live := by simp
  held _ _ hx := by cases hx
  vacant _ hi := by cases hi

/-- A client is held on, or closed again, or admitted or given its read task. -/
theorem AcceptEffect.held_next {env : AcceptEnv} {s t : Inbound} (h : AcceptEffect env s t)
    {i : Fin maxClients} {c : Conn} (hx : heldClient s.pc = some (i, c)) :
    heldClient t.pc = some (i, c) ∨ (t.manager.sockets i).fd = none ∨
      searchesFor s.pc = some i ∨ startsFor s.pc = some i := by
  cases h with
  | idle _ _ _ _ hfrom _ => cases hfrom.1.symm.trans hx
  | accepted j pc htake _ => cases htake.holds_none.symm.trans hx
  | idReceived j e d h => exact .inl (by rw [h] at hx; exact hx)
  | idNotReceived j e h =>
    rw [h] at hx
    obtain ⟨rfl, rfl⟩ := Prod.mk.inj (Option.some.inj hx)
    exact .inr (.inl (by rw [MultiTcpServerManager.setPeer_self]; rfl))
  | refused j h => rw [h] at hx; cases hx
  | idSent j e h => exact .inl (by rw [h] at hx; exact hx)
  | idNotSent j e h _ =>
    rw [h] at hx
    obtain ⟨rfl, rfl⟩ := Prod.mk.inj (Option.some.inj hx)
    exact .inr (.inl (by rw [MultiTcpServerManager.setPeer_self]; rfl))
  | unserved j e h | served j e k _ _ h | assigned j e k h | started j e k h =>
    rw [h] at hx ⊢
    obtain ⟨rfl, rfl⟩ := Prod.mk.inj (Option.some.inj hx)
    simp [searchesFor, startsFor]
  | returned h => rw [h] at hx; cases hx

namespace OwnInv

variable {s t : Inbound}

theorem acceptStep {env : AcceptEnv} (h : OwnInv s) (hrest : SlotRested s)
    (hs : s.acceptStep env = some t) : OwnInv t := by
  have he := acceptStep_effect hs
  refine ⟨?_, ?_, h.vacant.acceptStep hrest he⟩
  · intro r hr hlive d hd
    rcases he.readers hr with hr | hheld
    · rcases he.sockets hd with hold | ⟨-, -, hheld⟩
      · rcases h.live r hr hlive d hold with hown | hx
        · exact .inl hown
        · -- a client in its handshake is not admitted while the task runs
          rcases he.held_next hx with hnext | hclosed | hsearch | hstart
          · exact .inr hnext
          · cases hclosed.symm.trans hd
          · cases hlive.symm.trans (hrest r.slot hsearch r hr rfl)
          · cases hlive.symm.trans (h.vacant r.slot hstart r hr rfl)
      · exact .inr hheld
    · rcases he.sockets hd with hd | ⟨htake, -⟩
      · exact .inl (h.held r.slot r.conn hheld d hd)
      · cases htake.holds_none.symm.trans hheld
  · intro i c hx d hd
    rcases (he.held hx).2 with hx | ⟨htake, rfl⟩
    · rcases he.sockets hd with hd | ⟨htake, -⟩
      · exact h.held i c hx d hd
      · cases htake.holds_none.symm.trans hx
    · rcases he.sockets hd with hd | ⟨-, rfl, -⟩
      · cases htake.closed.symm.trans hd
      · rfl

theorem readStep {env : ReadEnv} {n : Nat} (h : OwnInv s) (hs : s.readStep env n = some t) :
    OwnInv t := by
  have he := readStep_effect hs
  refine ⟨?_, ?_, h.vacant.readStep he⟩
  · intro r hr hlive d hd
    obtain ⟨q, hq, hslot, hconn, hqlive⟩ := he.mem hr
    rw [he.frame.1, hconn, hslot]
    rw [hslot] at hd
    exact h.live q hq (hqlive hlive) d (he.sockets hd)
  · intro i c hx d hd
    rw [he.frame.1] at hx
    exact h.held i c hx d (he.sockets hd)

theorem step {act : InboundAct} (h : OwnInv s) (hrest : OnAccept (fun _ => SlotRested s) act)
    (hs : s.step act = some t) : OwnInv t := by
  cases act with
  | acceptTask env => exact h.acceptStep hrest hs
  | readTask n env => exact h.readStep hs
  | stop =>
    obtain rfl := Option.some.inj hs
    exact ⟨h.live, h.held, h.vacant⟩
  | closeAll =>
    obtain rfl := Option.some.inj hs
    exact ⟨(fun _ _ _ _ hd => by cases hd), (fun _ _ _ _ hd => by cases hd), h.vacant⟩
  | shutdown =>
    obtain rfl := Option.some.inj hs
    exact ⟨(fun _ _ _ _ hd => by cases hd), (fun _ _ _ _ hd => by cases hd), h.vacant⟩

/-- Away from new clients, a running task has its own connection on its slot. -/
theorem fd_eq_conn (h : OwnInv s) {r : Reader} (hr : r ∈ s.readers) (hlive : r.live = true)
    (hleft : ∀ x ∈ heldClient s.pc, x.1 ≠ r.slot) {d : Conn}
    (hd : (s.manager.sockets r.slot).fd = some d) : d = r.conn := by
  rcases h.live r hr hlive d hd with hown | hx
  · exact hown
  · exact absurd rfl (hleft _ hx)

/-- A task that runs with its own slot finds its own connection there. -/
theorem touchesOwn (h : OwnInv s) (hparams : ParamsInv s) {act : InboundAct}
    (hleft : SlotLeft s act) : TouchesOwn s act := by
  cases act with
  | readTask n env =>
    intro r hr d hd
    have hmem := List.mem_of_getElem? hr
    unfold touched at hd
    split_ifs at hd with hpc
    · obtain ⟨i, hi, hfd⟩ := Option.bind_eq_some_iff.mp hd
      obtain rfl := hparams.own r hmem i hi
      refine h.fd_eq_conn hmem ?_ (hleft r hr) hfd
      rcases hpc with hpc | hpc | hpc <;> simp [Reader.live, hpc]
    · cases hd
  | _ => trivial

end OwnInv

/-- No read task receives from or closes a connection but its own, in every run of acceptTask and
the read tasks that keeps the parameter and rests the slots. -/
theorem touches_own_connection (deviceID : UInt32) (idProtocol : Bool) (acts : List InboundAct)
    (hrested : AllSteps Inbound.step SlotsRested
      { deviceID := deviceID, idProtocol := idProtocol } acts) :
    AllSteps Inbound.step TouchesOwn { deviceID := deviceID, idProtocol := idProtocol } acts := by
  refine allSteps_of_invariant (I := fun s => ParamsInv s ∧ OwnInv s) ?_ ?_
    ⟨paramsInv_init deviceID idProtocol, ownInv_init deviceID idProtocol⟩ hrested
  · intro s act t hinv hg hs
    obtain ⟨hparams, hown⟩ := hinv
    have hkept : OnAccept (fun _ => ParamsKept s) act := hg.1.mono fun _ h => h.1
    exact ⟨hparams.step hkept hs, hown.step (hg.1.mono fun _ h => h.2) hs⟩
  · intro s act hinv hg
    obtain ⟨hparams, hown⟩ := hinv
    exact hown.touchesOwn hparams hg.2

/-- A client goes, its task ends, and the next client gets the slot. -/
theorem touches_own_connection_next : AllSteps Inbound.step TouchesOwn { deviceID := baseID }
    (newClient 0x20202021 ++ reads 0 8 { status := .disconnected } ++ newClient 0x20202022 ++
      reads 1 9 { status := .success }) :=
  touches_own_connection baseID true _ (by decide)

/-- The next client gets the slot while the task of the first stands between its recv and its
close: the close hits the new connection. -/
theorem touches_own_connection_fails : ¬∀ (deviceID : UInt32) (idProtocol : Bool)
    (acts : List InboundAct), AllSteps Inbound.step TouchesOwn
      { deviceID := deviceID, idProtocol := idProtocol } acts := fun h =>
  absurd (h baseID true (newClient 0x20202021 ++ reads 0 4 { status := .disconnected } ++
    newClient 0x20202022 ++ reads 0 1 { status := .disconnected })) (by decide)

end MeshNetwork.Node
