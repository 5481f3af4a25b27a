import MeshNetwork.Node.PeerIDs

namespace MeshNetwork.Node

open Driver

/-- The event ends the handshake on `c`. -/
def Completes (c : Conn) : ClientEvent → Prop
  | .handshake d _ => d = c
  | .offered _ _ _ _ => False

def HandshakeDone (log : List ClientEvent) (c : Conn) : Prop := ∃ e ∈ log, Completes c e

/-- The peer on `c` may be sent a frame for `dest`: it has announced this very ID, or any one if
the frame is for everybody. -/
def Entitled (log : List ClientEvent) (c : Conn) (dest : UInt32) : Prop :=
  HandshakeDone log c ∧ (dest ≠ broadcastID → .handshake c (some dest) ∈ log)

/-- Whatever has been written on a connection was for its peer, and came after the handshake. -/
def Delivered : List ClientEvent → Prop
  | [] => True
  | .offered _ (some c) dest written :: log =>
    (written ≠ [] → Entitled log c dest) ∧ Delivered log
  | .offered _ none _ _ :: log => Delivered log
  | .handshake _ _ :: log => Delivered log

section decidable

instance (c : Conn) : DecidablePred (Completes c)
  | .handshake d _ => inferInstanceAs (Decidable (d = c))
  | .offered _ _ _ _ => inferInstanceAs (Decidable False)

instance (log : List ClientEvent) (c : Conn) (dest : UInt32) : Decidable (Entitled log c dest) :=
  inferInstanceAs (Decidable ((∃ e ∈ log, Completes c e) ∧ _))

instance decidableDelivered : (log : List ClientEvent) → Decidable (Delivered log)
  | [] => .isTrue trivial
  | .offered _ (some c) dest written :: log =>
    have := decidableDelivered log
    inferInstanceAs (Decidable ((written ≠ [] → Entitled log c dest) ∧ Delivered log))
  | .offered _ none _ _ :: log => decidableDelivered log
  | .handshake _ _ :: log => decidableDelivered log

end decidable

/-- openTask is done with a slot that is sent to, and the slot still stores the destination, or any
ID for a broadcast. -/
def SlotKept (o : Opener) (p : ClientSide) : SendOp → Prop
  | .send i _ dest => (p.manager.sockets i).isOpened = true → currentSlot o.pc ≠ some i ∧
    if dest = broadcastID then (p.manager.sockets i).deviceID ≠ 0
    else (p.manager.sockets i).deviceID = dest
  | _ => True

instance (o : Opener) (p : ClientSide) : DecidablePred (SlotKept o p)
  | .send i _ dest => inferInstanceAs (Decidable ((p.manager.sockets i).isOpened = true →
      currentSlot o.pc ≠ some i ∧
        if dest = broadcastID then (p.manager.sockets i).deviceID ≠ 0
        else (p.manager.sockets i).deviceID = dest))
  | .readBytes _ => .isTrue trivial
  | .deallocateOut => .isTrue trivial
  | .isOpened _ => .isTrue trivial
  | .getServerDeviceID _ => .isTrue trivial
  | .checkAdjacencyMatrix _ _ => .isTrue trivial
  | .checkIfAlreadyConnected _ => .isTrue trivial
  | .getSocketHandlerByID _ => .isTrue trivial
  | .close _ => .isTrue trivial

/-- The steps that keep clear of stale and partial IDs: an accepted server ID is complete, and a
send finds its slot as the lookup or the check left it, with the handshake over. -/
def KeepsIDs (s : Outbound) : OutboundAct → Prop
  | .openTask env => WholeServerID env s.opener
  | .send k _ => ∀ o ∈ (s.calls k).next, SlotKept s.opener s.side o
  | _ => True

instance (s : Outbound) : (act : OutboundAct) → Decidable (KeepsIDs s act)
  | .openTask env => inferInstanceAs (Decidable (WholeServerID env s.opener))
  | .send k _ => inferInstanceAs (Decidable (∀ o ∈ (s.calls k).next, SlotKept s.opener s.side o))
  | .sendHandler _ _ _ => .isTrue trivial
  | .stop => .isTrue trivial
  | .closeAll => .isTrue trivial

/-- No send is for ID 0: the assertion in getSocketHandlerByID stands before it. -/
def NonZeroDest (o : SendOp) : Prop := ∀ i frame, o ≠ .send i frame 0

theorem sendHandler_nonZeroDest (idProtocol : Bool) (unset : SocketIpStatus) (b : FwBuffer) :
    (sendHandler idProtocol unset b).Calls Answers NonZeroDest := by
  apply sendHandler_calls
  · intro o ho i frame
    exact ho i frame 0
  · intro i frame dest h0 j frame' he
    exact h0 (SendOp.send.inj he).2.2

/-- The invariant of the guarded runs. -/
structure DeliveryInv (s : Outbound) : Prop where
  known : KnownSettled s.opener s.side
  delivered : Delivered s.side.log
  calls : ∀ k, (s.calls k).Calls Answers NonZeroDest

/-- A send that the guard allows is entitled. -/
theorem entitled_of_guard {p : ClientSide} {i : Fin maxClients} (h : KnownAt p i) {c : Conn}
    {dest : UInt32} (hc : (p.manager.sockets i).fd = some c) (h0 : dest ≠ 0)
    (hguard : if dest = broadcastID then (p.manager.sockets i).deviceID ≠ 0
      else (p.manager.sockets i).deviceID = dest) : Entitled p.log c dest := by
  split_ifs at hguard with hb
  · have hmem := (h c hc).resolve_left hguard
    exact ⟨⟨_, hmem, rfl⟩, fun hne => absurd hb hne⟩
  · have hmem := (h c hc).resolve_left (hguard ▸ h0)
    rw [hguard] at hmem
    exact ⟨⟨_, hmem, rfl⟩, fun _ => hmem⟩

theorem delivered_offered {log : List ClientEvent} (h : Delivered log) (i : Fin maxClients)
    {conn : Option Conn} {dest : UInt32} (written : List UInt8)
    (he : ∀ c, conn = some c → Entitled log c dest) :
    Delivered (.offered i conn dest written :: log) := by
  cases conn with
  | none => exact h
  | some c => exact ⟨fun _ => he c rfl, h⟩

theorem DeliveryInv.step {addressToIp4 : List UInt8 → Bool} {s t : Outbound} {act : OutboundAct}
    (h : DeliveryInv s) (hg : KeepsIDs s act)
    (hs : s.step addressToIp4 act = some t) : DeliveryInv t := by
  have hcalls (k : Nat) (c : SendM (Option SendStatus)) (hc : c.Calls Answers NonZeroDest)
      (he : t.calls = Function.update s.calls k c) (j : Nat) :
      (t.calls j).Calls Answers NonZeroDest := by
    rw [he]
    by_cases hj : j = k
    · rw [hj, Function.update_self]
      exact hc
    · rw [Function.update_of_ne hj]
      exact h.calls j
  cases Outbound.step_effect addressToIp4 hs with
  | openTask env he hopen =>
    refine ⟨h.known.openStep hopen hg, ?_, he ▸ h.calls⟩
    generalize t.side = p' at hopen
    generalize t.opener = o' at hopen
    cases hopen with
    | idReceived => exact h.delivered
    | _ => exact h.delivered
  | sendHandler k unset b he ho hp =>
    exact ⟨ho ▸ hp ▸ h.known, hp ▸ h.delivered, hcalls k _ (sendHandler_nonZeroDest _ _ _) he⟩
  | send k env o c hk he hopener hsend =>
    have hcall : (Prog.call o c).Calls Answers NonZeroDest := hk ▸ h.calls k
    refine ⟨hopener ▸ h.known.send hsend, ?_,
      hcalls k _ (hcall.2 _ (perform_answers env o s.side)) he⟩
    have entitled {i : Fin maxClients} {frame : List UInt8} {dest : UInt32}
        (ho : o = .send i frame dest) (d : Conn)
        (hd : (s.side.manager.sockets i).fd = some d) : Entitled s.side.log d dest := by
      subst ho
      have hkept : SlotKept s.opener s.side (.send i frame dest) := hg _ (by rw [hk]; rfl)
      have hopen : (s.side.manager.sockets i).isOpened = true :=
        (PeerSocket.isOpened_iff _).mpr ⟨d, hd⟩
      have h0 : dest ≠ 0 := by
        intro hdest
        subst hdest
        exact hcall.1 i frame rfl
      obtain ⟨hsettled, hguard⟩ := hkept hopen
      exact entitled_of_guard (h.known i hsettled) hd h0 hguard
    generalize t.side = p' at hsend
    cases hsend with
    | quiet => exact h.delivered
    | sent i frame dest written ho => exact delivered_offered h.delivered i written (entitled ho)
    | reset i frame dest written ho => exact delivered_offered h.delivered i written (entitled ho)
    | closed => exact h.delivered
  | stop he ho hp =>
    refine ⟨?_, hp ▸ h.delivered, he ▸ h.calls⟩
    rw [ho, hp]
    exact h.known
  | closeAll he _ hp =>
    exact ⟨hp ▸ fun i _ => KnownAt.closeAll s.side i, hp ▸ h.delivered, he ▸ h.calls⟩

/-- No misdelivery and nothing ahead of the handshake, in every run that accepts no partial server
ID, never lets a slot change between lookup and send, and sends on no slot whose handshake is not
over. -/
theorem no_misdelivery (addressToIp4 : List UInt8 → Bool) (deviceID : UInt32)
    (adjM : Nat → UInt8) (idProtocol : Bool) (acts : List OutboundAct) (t : Outbound)
    (hrun : run (Outbound.step addressToIp4) (.init deviceID adjM idProtocol) acts = some t)
    (hkeeps : AllSteps (Outbound.step addressToIp4) KeepsIDs
      (.init deviceID adjM idProtocol) acts) : Delivered t.side.log := by
  have hinit : DeliveryInv (.init deviceID adjM idProtocol) :=
    ⟨fun i _ => knownAt_init deviceID adjM i, trivial, fun _ => trivial⟩
  exact (run_invariant (fun _ _ _ hi hg hs => hi.step hg hs) hinit hkeeps hrun).delivered

/-- The connection to 0x20202021 is reset by a frame, and its slot, with the old ID in it, goes to
0x20202022, which gets a frame. -/
theorem no_misdelivery_reconnect : Delivered ((run (Outbound.step fun _ => true)
    (.init baseID (initAdjacencyMatrix fun _ => 0) true)
    (connect 0x31 0x20202021 ++ oneFrame 0x20202021 .disconnected ++
      connect 0x32 0x20202022 ++ oneFrame 0x20202022 .success)).get (by rfl)).side.log :=
  no_misdelivery (fun _ => true) baseID (initAdjacencyMatrix fun _ => 0) true _ _
    (Option.some_get _).symm (by decide)

/-- A reset leaves the ID in the slot; opened again for another host, the slot gets a frame for the
old peer before the handshake. -/
theorem no_misdelivery_fails : ¬∀ (addressToIp4 : List UInt8 → Bool) (deviceID : UInt32)
    (adjM : Nat → UInt8) (idProtocol : Bool) (acts : List OutboundAct) (t : Outbound),
    run (Outbound.step addressToIp4) (.init deviceID adjM idProtocol) acts = some t →
    Delivered t.side.log := fun h =>
  absurd (h (fun _ => true) baseID (initAdjacencyMatrix fun _ => 0) true
    (connect 0x31 0x20202021 ++ oneFrame 0x20202021 .disconnected ++
      (connect 0x32 0x20202022).take 5 ++ oneFrame 0x20202021 .success) _
    (Option.some_get (by rfl)).symm) (by decide)

end MeshNetwork.Node
