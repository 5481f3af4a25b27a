import MeshNetwork.Network.ServerStreams

namespace MeshNetwork.Network

open Driver Node

/-- One end of a connection: a node and its number for the connection. -/
abbrev End (ι : Type) := ι × Conn

/-- Which end is connected to which. A connection has reached a node before the node accepts it. -/
structure Wiring (ι : Type) where
  target : End ι → Option ι := fun _ => none
  server : End ι → Option (End ι) := fun _ => none
  client : End ι → Option (End ι) := fun _ => none
  agree : ∀ e f, server e = some f ↔ client f = some e := by simp

namespace Wiring

variable {ι : Type} [DecidableEq ι]

def connect (w : Wiring ι) (e : End ι) (b : ι) : Wiring ι :=
  { w with target := Function.update w.target e (some b) }

/-- Two ends without a partner become partners of each other. -/
theorem agree_link {server client : End ι → Option (End ι)}
    (hagree : ∀ e f, server e = some f ↔ client f = some e) {e f : End ι} (he : server e = none)
    (hf : client f = none) (e' f' : End ι) :
    Function.update server e (some f) e' = some f' ↔
      Function.update client f (some e) f' = some e' := by
  by_cases hee : e' = e
  · subst hee
    by_cases hff : f' = f
    · simp [hff]
    · have hnone : client f' ≠ some e' := by
        intro hc
        cases he.symm.trans ((hagree e' f').mpr hc)
      simp [hff, hnone, Ne.symm hff]
  · by_cases hff : f' = f
    · subst hff
      have hnone : server e' ≠ some f' := by
        intro hs
        cases hf.symm.trans ((hagree e' f').mp hs)
      simp [hee, hnone, Ne.symm hee]
    · simpa [hee, hff] using hagree e' f'

/-- The node of `f` accepts the connection that `e` has made to it. -/
def accept (w : Wiring ι) (e f : End ι) : Option (Wiring ι) :=
  if h : w.target e = some f.1 ∧ w.server e = none ∧ w.client f = none then
    some { w with
      server := Function.update w.server e (some f)
      client := Function.update w.client f (some e)
      agree := agree_link w.agree h.2.1 h.2.2 }
  else none

/-- An accept links two ends that had no partner. -/
theorem accept_cases {w v : Wiring ι} {e f : End ι} (h : w.accept e f = some v) :
    (w.server e = none ∧ w.client f = none) ∧ v.server = Function.update w.server e (some f) ∧
      v.client = Function.update w.client f (some e) := by
  unfold accept at h
  split_ifs at h with hfree
  obtain rfl := Option.some.inj h
  exact ⟨hfree.2, rfl, rfl⟩

end Wiring

/-- A network of nodes: both halves of each one with what they have done to their connections, and
the connections between them. -/
structure Mesh (ι : Type) where
  clients : ι → Outbound × SocketHistory
  servers : ι → Inbound × SocketHistory
  wiring : Wiring ι := {}

inductive MeshAct (ι : Type) where
  | client (a : ι) (act : OutboundAct)
  /-- `caller` is the end whose connection an accept takes. -/
  | server (b : ι) (act : InboundAct) (caller : End ι)

/-- TCP: what is newly taken off a connection continues what has been put on it at the other end,
which `line` gives. -/
def Hears (line : Conn → Option (SocketHistory × Conn)) (own new : SocketHistory) : Prop :=
  ∀ c ∈ new.map StreamEvent.stream, new.received c = [] ∨
    ∃ l ∈ line c, History.Carries l.2 l.1 c (own ++ new)

instance (line : Conn → Option (SocketHistory × Conn)) (own new : SocketHistory) :
    Decidable (Hears line own new) :=
  inferInstanceAs (Decidable (∀ c ∈ new.map StreamEvent.stream, new.received c = [] ∨
    ∃ l ∈ line c, History.Carries l.2 l.1 c (own ++ new)))

/-- After a step a connection has given nothing new, or what it has given continues the line. -/
theorem Hears.received {line : Conn → Option (SocketHistory × Conn)} {own new : SocketHistory}
    (h : Hears line own new) (c : Conn) : (own ++ new).received c = own.received c ∨
      ∃ l ∈ line c, History.Carries l.2 l.1 c (own ++ new) := by
  by_cases hc : c ∈ new.map StreamEvent.stream
  · rcases h c hc with hnone | hline
    · left
      rw [History.received_append, hnone, List.append_nil]
    · exact .inr hline
  · left
    rw [History.received_append, History.received_of_not_mem hc, List.append_nil]

namespace Mesh

variable {ι : Type} [DecidableEq ι]

/-- Before anything has happened: node `a` has the device ID `IDs a`. -/
def init (IDs : ι → UInt32) (adjM : ι → Nat → UInt8) : Mesh ι where
  clients a := (.init (IDs a) (adjM a) true, [])
  servers b := ({ deviceID := IDs b }, [])

/-- The other end of an outgoing connection of node `a`. -/
def clientLine (s : Mesh ι) (a : ι) (c : Conn) : Option (SocketHistory × Conn) :=
  (s.wiring.server (a, c)).map fun f => ((s.servers f.1).2, f.2)

/-- The other end of an accepted connection of node `b`. -/
def serverLine (s : Mesh ι) (b : ι) (d : Conn) : Option (SocketHistory × Conn) :=
  (s.wiring.client (b, d)).map fun e => ((s.clients e.1).2, e.2)

section step

variable (addressToIp4 : List UInt8 → Bool) (node : List UInt8 → UInt16 → Option ι)

/-- A connect reaches the node that listens at the endpoint. -/
def wireClient (s : Mesh ι) (a : ι) (act : OutboundAct) : Option (Wiring ι) :=
  match connects addressToIp4 (s.clients a).1 act with
  | none => some s.wiring
  | some (c, hostname, port) => (node hostname port).map fun b => s.wiring.connect (a, c) b

def wireServer (s : Mesh ι) (b : ι) (act : InboundAct) (caller : End ι) : Option (Wiring ι) :=
  if accepts (s.servers b).1 act then s.wiring.accept caller (b, (s.servers b).1.nextConn)
  else some s.wiring

/-- One atomic step of one node. -/
def step (s : Mesh ι) : MeshAct ι → Option (Mesh ι)
  | .client a act =>
    if Hears (s.clientLine a) (s.clients a).2 (clientEvents (s.clients a).1 act) then
      (recordStep (Outbound.step addressToIp4) clientEvents (s.clients a) act).bind fun x =>
        (s.wireClient addressToIp4 node a act).map fun w =>
          { s with clients := Function.update s.clients a x, wiring := w }
    else none
  | .server b act caller =>
    if Hears (s.serverLine b) (s.servers b).2 (serverEvents (s.servers b).1 act) then
      (recordStep Inbound.step serverEvents (s.servers b) act).bind fun x =>
        (s.wireServer b act caller).map fun w =>
          { s with servers := Function.update s.servers b x, wiring := w }
    else none

/-- Every node keeps clear of the known defects of its two halves. -/
def Keeps (s : Mesh ι) : MeshAct ι → Prop
  | .client a act => KeepsIDs (s.clients a).1 act
  | .server b act _ => KeepsClients (s.servers b).1 act

instance (s : Mesh ι) : (act : MeshAct ι) → Decidable (Keeps s act)
  | .client a act => inferInstanceAs (Decidable (KeepsIDs (s.clients a).1 act))
  | .server b act _ => inferInstanceAs (Decidable (KeepsClients (s.servers b).1 act))

variable {addressToIp4 node} {s t : Mesh ι}

/-- A step of a sending half is one of this half alone. -/
theorem step_client {a : ι} {act : OutboundAct}
    (h : s.step addressToIp4 node (.client a act) = some t) :
    ∃ u, (s.clients a).1.step addressToIp4 act = some u ∧ t.servers = s.servers ∧
      t.clients = Function.update s.clients a
        (u, (s.clients a).2 ++ clientEvents (s.clients a).1 act) := by
  simp only [step] at h
  split_ifs at h
  obtain ⟨x, hx, h⟩ := Option.bind_eq_some_iff.mp h
  obtain ⟨w, -, rfl⟩ := Option.map_eq_some_iff.mp h
  obtain ⟨u, hu, rfl⟩ := Option.map_eq_some_iff.mp hx
  exact ⟨u, hu, rfl, rfl⟩

theorem step_server {b : ι} {act : InboundAct} {caller : End ι}
    (h : s.step addressToIp4 node (.server b act caller) = some t) :
    ∃ u, (s.servers b).1.step act = some u ∧ t.clients = s.clients ∧
      t.servers = Function.update s.servers b
        (u, (s.servers b).2 ++ serverEvents (s.servers b).1 act) := by
  simp only [step] at h
  split_ifs at h
  obtain ⟨x, hx, h⟩ := Option.bind_eq_some_iff.mp h
  obtain ⟨w, -, rfl⟩ := Option.map_eq_some_iff.mp h
  obtain ⟨u, hu, rfl⟩ := Option.map_eq_some_iff.mp hx
  exact ⟨u, hu, rfl, rfl⟩

end step

/-- The invariant of a network: the nodes are in order, and every connection carries. -/
structure Inv (IDs : ι → UInt32) (s : Mesh ι) : Prop where
  clients : ∀ a, ClientInv (s.clients a)
  servers : ∀ b, ServerInv (s.servers b)
  clientID : ∀ a, (s.clients a).1.side.deviceID = IDs a
  serverID : ∀ b, (s.servers b).1.deviceID = IDs b
  up : ∀ e f, s.wiring.server e = some f →
    History.Carries e.2 (s.clients e.1).2 f.2 (s.servers f.1).2
  down : ∀ e f, s.wiring.server e = some f →
    History.Carries f.2 (s.servers f.1).2 e.2 (s.clients e.1).2
  clientAlone : ∀ e, s.wiring.server e = none → (s.clients e.1).2.received e.2 = []
  serverAlone : ∀ f, s.wiring.client f = none → (s.servers f.1).2.received f.2 = []

omit [DecidableEq ι] in
theorem inv_init (IDs : ι → UInt32) (adjM : ι → Nat → UInt8) : Inv IDs (init IDs adjM) where
  clients a := clientInv_init (IDs a) (adjM a) true
  servers b := serverInv_init (IDs b)
  clientID _ := rfl
  serverID _ := rfl
  up _ _ hef := by cases hef
  down _ _ hef := by cases hef
  clientAlone _ _ := rfl
  serverAlone _ _ := rfl

namespace Inv

variable {addressToIp4 : List UInt8 → Bool} {node : List UInt8 → UInt16 → Option ι}
  {IDs : ι → UInt32} {s t : Mesh ι}

theorem client (h : Inv IDs s) {a : ι} {act : OutboundAct}
    (hg : KeepsIDs (s.clients a).1 act)
    (hs : s.step addressToIp4 node (.client a act) = some t) : Inv IDs t := by
  simp only [step] at hs
  split_ifs at hs with hhears
  obtain ⟨x, hx, hs⟩ := Option.bind_eq_some_iff.mp hs
  obtain ⟨w, hw, rfl⟩ := Option.map_eq_some_iff.mp hs
  have hinv := (h.clients a).step hg hx
  obtain ⟨u, hu, rfl⟩ := Option.map_eq_some_iff.mp hx
  -- a connect gives no end a partner
  have hwire : w.server = s.wiring.server ∧ w.client = s.wiring.client := by
    unfold wireClient at hw
    split at hw
    · obtain rfl := Option.some.inj hw
      exact ⟨rfl, rfl⟩
    · obtain ⟨b, -, rfl⟩ := Option.map_eq_some_iff.mp hw
      exact ⟨rfl, rfl⟩
  obtain ⟨hserver, hclient⟩ := hwire
  refine ⟨?_, h.servers, ?_, h.serverID, ?_, ?_, ?_, ?_⟩
  · intro a'
    by_cases ha : a' = a
    · subst ha
      simpa using hinv
    · simpa [ha] using h.clients a'
  · intro a'
    by_cases ha : a' = a
    · subst ha
      simpa using (outbound_deviceID hu).trans (h.clientID a')
    · simpa [ha] using h.clientID a'
  · intro e f hef
    rw [hserver] at hef
    by_cases ha : e.1 = a
    · simp only [ha, Function.update_self]
      exact (ha ▸ h.up e f hef).sender _
    · simpa [ha] using h.up e f hef
  · intro e f hef
    rw [hserver] at hef
    by_cases ha : e.1 = a
    · obtain ⟨a', c⟩ := e
      obtain rfl : a' = a := ha
      simp only [Function.update_self]
      rcases hhears.received c with hsame | ⟨l, hl, hcarries⟩
      · rw [History.Carries, hsame]
        exact h.down _ _ hef
      · have hline : s.clientLine a' c = some ((s.servers f.1).2, f.2) := by
          rw [clientLine, hef]
          rfl
        obtain rfl := Option.some.inj (hline.symm.trans hl)
        exact hcarries
    · simpa [ha] using h.down e f hef
  · intro e he
    rw [hserver] at he
    by_cases ha : e.1 = a
    · obtain ⟨a', c⟩ := e
      obtain rfl : a' = a := ha
      simp only [Function.update_self]
      rcases hhears.received c with hsame | ⟨l, hl, -⟩
      · exact hsame.trans (h.clientAlone _ he)
      · have hline : s.clientLine a' c = none := by
          rw [clientLine, he]
          rfl
        cases hline.symm.trans hl
    · simpa [ha] using h.clientAlone e he
  · intro f hf
    rw [hclient] at hf
    exact h.serverAlone f hf

/-- Nothing has been received at two ends that become partners. -/
theorem link (h : Inv IDs s) {e f : End ι} {w : Wiring ι} (hw : s.wiring.accept e f = some w) :
    Inv IDs { s with wiring := w } := by
  obtain ⟨⟨he, hf⟩, hserver, hclient⟩ := Wiring.accept_cases hw
  have hnew {e' f' : End ι} (hef : w.server e' = some f') :
      e' = e ∧ f' = f ∨ s.wiring.server e' = some f' := by
    rw [hserver] at hef
    by_cases hee : e' = e
    · subst hee
      rw [Function.update_self] at hef
      exact .inl ⟨rfl, (Option.some.inj hef).symm⟩
    · rw [Function.update_of_ne hee] at hef
      exact .inr hef
  refine ⟨h.clients, h.servers, h.clientID, h.serverID, ?_, ?_, ?_, ?_⟩
  · intro e' f' hef
    rcases hnew hef with ⟨rfl, rfl⟩ | hef
    · exact History.carries_nil _ (h.serverAlone _ hf)
    · exact h.up e' f' hef
  · intro e' f' hef
    rcases hnew hef with ⟨rfl, rfl⟩ | hef
    · exact History.carries_nil _ (h.clientAlone _ he)
    · exact h.down e' f' hef
  · intro e' he'
    rw [hserver] at he'
    by_cases hee : e' = e
    · rw [hee, Function.update_self] at he'
      cases he'
    · rw [Function.update_of_ne hee] at he'
      exact h.clientAlone e' he'
  · intro f' hf'
    rw [hclient] at hf'
    by_cases hff : f' = f
    · rw [hff, Function.update_self] at hf'
      cases hf'
    · rw [Function.update_of_ne hff] at hf'
      exact h.serverAlone f' hf'

/-- The receiving half of node `b` goes on, on connections that stay as they are. -/
theorem serve (h : Inv IDs s) {b : ι} {act : InboundAct} {u : Inbound}
    (hg : KeepsClients (s.servers b).1 act) (hu : (s.servers b).1.step act = some u)
    (hhears : Hears (s.serverLine b) (s.servers b).2 (serverEvents (s.servers b).1 act)) :
    Inv IDs { s with
      servers := Function.update s.servers b
        (u, (s.servers b).2 ++ serverEvents (s.servers b).1 act) } := by
  have hinv : ServerInv (u, (s.servers b).2 ++ serverEvents (s.servers b).1 act) := by
    refine (h.servers b).step hg ?_
    rw [recordStep, hu]
    rfl
  refine ⟨h.clients, ?_, h.clientID, ?_, ?_, ?_, h.clientAlone, ?_⟩
  · intro b'
    by_cases hb : b' = b
    · subst hb
      simpa using hinv
    · simpa [hb] using h.servers b'
  · intro b'
    by_cases hb : b' = b
    · subst hb
      simpa using (inbound_deviceID hu).trans (h.serverID b')
    · simpa [hb] using h.serverID b'
  · intro e f hef
    by_cases hb : f.1 = b
    · obtain ⟨b', d⟩ := f
      obtain rfl : b' = b := hb
      simp only [Function.update_self]
      rcases hhears.received d with hsame | ⟨l, hl, hcarries⟩
      · rw [History.Carries, hsame]
        exact h.up _ _ hef
      · have hline : s.serverLine b' d = some ((s.clients e.1).2, e.2) := by
          rw [serverLine, (s.wiring.agree e (b', d)).mp hef]
          rfl
        obtain rfl := Option.some.inj (hline.symm.trans hl)
        exact hcarries
    · simpa [hb] using h.up e f hef
  · intro e f hef
    by_cases hb : f.1 = b
    · simp only [hb, Function.update_self]
      exact (hb ▸ h.down e f hef).sender _
    · simpa [hb] using h.down e f hef
  · intro f hf
    by_cases hb : f.1 = b
    · obtain ⟨b', d⟩ := f
      obtain rfl : b' = b := hb
      simp only [Function.update_self]
      rcases hhears.received d with hsame | ⟨l, hl, -⟩
      · exact hsame.trans (h.serverAlone _ hf)
      · have hline : s.serverLine b' d = none := by
          rw [serverLine, hf]
          rfl
        cases hline.symm.trans hl
    · simpa [hb] using h.serverAlone f hf

theorem server (h : Inv IDs s) {b : ι} {act : InboundAct} {caller : End ι}
    (hg : KeepsClients (s.servers b).1 act)
    (hs : s.step addressToIp4 node (.server b act caller) = some t) : Inv IDs t := by
  simp only [step] at hs
  split_ifs at hs with hhears
  obtain ⟨x, hx, hs⟩ := Option.bind_eq_some_iff.mp hs
  obtain ⟨w, hw, rfl⟩ := Option.map_eq_some_iff.mp hs
  obtain ⟨u, hu, rfl⟩ := Option.map_eq_some_iff.mp hx
  have hserve := h.serve hg hu hhears
  unfold wireServer at hw
  split_ifs at hw
  · exact hserve.link hw
  · obtain rfl := Option.some.inj hw
    exact hserve

theorem step {act : MeshAct ι} (h : Inv IDs s) (hg : Keeps s act)
    (hs : s.step addressToIp4 node act = some t) : Inv IDs t := by
  cases act with
  | client a act => exact h.client hg hs
  | server b act caller => exact h.server hg hs

end Inv

end Mesh

end MeshNetwork.Network
