import MeshNetwork.Network.EndToEnd
import MeshNetwork.Network.HubLink
import MeshNetwork.Network.Uplink

namespace MeshNetwork.Network

open Driver Framing Node Positioning

/-- A network of nodes with their components: the swarm framers on the ports of the hub, the
messages that have gone down to the driver, and what its read tasks have handed up to uplinkP. -/
structure Swarm (ι : Type) (link : HubLink) where
  mesh : Mesh ι
  framers : ι → HubPort → SwarmFramer
  outboxes : ι → Outbox link.Message := fun _ => {}
  uplinks : ι → List (Nat × List UInt8) := fun _ => []

/-- What happens at a node: SET_NUM of the producer, the ping of the GPS, SET_DESTID of a framer, or
a step of the driver. `cap` is the size of the buffer that framedAllocate gives, `k` names the call
of send_handler, and `memory` is what lies in a buffer behind what recv has written. -/
inductive SwarmAct (ι : Type) where
  | setNum (a : ι) (val1 : UInt32) (cap : UInt32) (k : Nat) (unset : SocketIpStatus)
  | ping (a : ι) (randX randY randZ : Nat) (cap : UInt32) (k : Nat) (unset : SocketIpStatus)
  | setDestId (a : ι) (port : HubPort) (destId : UInt32)
  | client (a : ι) (act : OutboundAct)
  | server (b : ι) (act : InboundAct) (caller : End ι) (memory : Nat → UInt8)

namespace Swarm

variable {ι : Type} [DecidableEq ι] {link : HubLink}

def init (link : HubLink) (IDs : ι → UInt32) (adjM : ι → Nat → UInt8) : Swarm ι link where
  mesh := .init IDs adjM
  framers a _ := .init (IDs a)

section step

variable (addressToIp4 : List UInt8 → Bool) (node : List UInt8 → UInt16 → Option ι)

/-- The arguments of a port call go through framer, hub and downlinkP into a call of send_handler;
`none` is a failed assertion on the way. -/
def portIn (s : Swarm ι link) (a : ι) (data : AppData) (cap : UInt32) (k : Nat)
    (unset : SocketIpStatus) : Option (Swarm ι link) :=
  match hframe : (s.framers a data.port).frame data.serialize cap with
  | none => none
  | some frame =>
    if hfits : link.Fits (data.port, frame) then
      let m : link.Message :=
        { source := (s.framers a data.port).nodeSourceId
          dest := (s.framers a data.port).nodeDestId
          data := data
          packet := ⟨(data.port, frame), hfits⟩
          holds := congrArg (Prod.mk data.port) (SwarmFramer.frame_eq hframe) }
      let b := FwBuffer.ofBytes (link.dispatch.bytes m)
      (s.mesh.step addressToIp4 node (.client a (.sendHandler k unset b))).map fun mesh =>
        { s with mesh := mesh, outboxes := Function.update s.outboxes a ((s.outboxes a).post k m) }
    else none

def setDestId (s : Swarm ι link) (a : ι) (port : HubPort) (destId : UInt32) : Swarm ι link :=
  let framer := { s.framers a port with nodeDestId := destId }
  { s with framers := Function.update s.framers a (Function.update (s.framers a) port framer) }

/-- One step of one node. Only downlinkP calls send_handler. -/
def step (s : Swarm ι link) : SwarmAct ι → Option (Swarm ι link)
  | .setNum a val1 cap k unset => s.portIn addressToIp4 node a (.val1 val1) cap k unset
  | .ping a randX randY randZ cap k unset =>
    s.portIn addressToIp4 node a (.position (gpsGetEcPosition randX randY randZ)) cap k unset
  | .setDestId a port destId => some (s.setDestId a port destId)
  | .client _ (.sendHandler _ _ _) => none
  | .client a act =>
    (s.mesh.step addressToIp4 node (.client a act)).map fun mesh => { s with mesh := mesh }
  | .server b act caller memory =>
    (s.mesh.step addressToIp4 node (.server b act caller)).map fun mesh =>
      { s with
        mesh := mesh
        uplinks := Function.update s.uplinks b
          (s.uplinks b ++ handsUp memory (s.mesh.servers b).1 act) }

/-- Every driver keeps clear of its known defects, and sends leave no part of a frame behind on a
connection that stays open. -/
def Keeps (s : Swarm ι link) : SwarmAct ι → Prop
  | .client a act => KeepsIDs (s.mesh.clients a).1 act ∧
      WholeSends (s.mesh.clients a).1 act
  | .server b act _ _ => KeepsClients (s.mesh.servers b).1 act
  | _ => True

instance (s : Swarm ι link) : (act : SwarmAct ι) → Decidable (Keeps s act)
  | .client a act => inferInstanceAs (Decidable (KeepsIDs (s.mesh.clients a).1 act ∧
      WholeSends (s.mesh.clients a).1 act))
  | .server b act _ _ => inferInstanceAs (Decidable (KeepsClients (s.mesh.servers b).1 act))
  | .setNum _ _ _ _ _ => .isTrue trivial
  | .ping _ _ _ _ _ _ _ => .isTrue trivial
  | .setDestId _ _ _ => .isTrue trivial

variable {addressToIp4 node} {s t : Swarm ι link}

/-- A port call that comes through puts one message into a call of send_handler. -/
theorem portIn_eq_some {a : ι} {data : AppData} {cap : UInt32} {k : Nat} {unset : SocketIpStatus}
    (h : s.portIn addressToIp4 node a data cap k unset = some t) :
    ∃ (m : link.Message) (mesh : Mesh ι), m.source = (s.framers a data.port).nodeSourceId ∧
      m.dest = (s.framers a data.port).nodeDestId ∧ m.data = data ∧
      s.mesh.step addressToIp4 node
        (.client a (.sendHandler k unset (.ofBytes (link.dispatch.bytes m)))) = some mesh ∧
      t = { s with
        mesh := mesh
        outboxes := Function.update s.outboxes a ((s.outboxes a).post k m) } := by
  unfold portIn at h
  split at h
  · cases h
  · split_ifs at h
    obtain ⟨mesh, hmesh, rfl⟩ := Option.map_eq_some_iff.mp h
    exact ⟨_, mesh, rfl, rfl, rfl, hmesh, rfl⟩

/-- The step gives a swarm framer of node `a` this data. -/
inductive Gives : SwarmAct ι → ι → AppData → Prop
  | setNum (a : ι) (val1 cap : UInt32) (k : Nat) (unset : SocketIpStatus) :
      Gives (.setNum a val1 cap k unset) a (.val1 val1)
  | ping (a : ι) (randX randY randZ : Nat) (cap : UInt32) (k : Nat) (unset : SocketIpStatus) :
      Gives (.ping a randX randY randZ cap k unset) a
        (.position (gpsGetEcPosition randX randY randZ))

variable (addressToIp4 node)

/-- What a step does: a port call, a command, a step of a sending half, or one of a receiving
half. -/
inductive Effect (s : Swarm ι link) : SwarmAct ι → Swarm ι link → Prop
  | portIn {act : SwarmAct ι} {t : Swarm ι link} (a : ι) (data : AppData) (cap : UInt32) (k : Nat)
      (unset : SocketIpStatus) (hgives : Gives act a data)
      (h : s.portIn addressToIp4 node a data cap k unset = some t) : Effect s act t
  | setDestId (a : ι) (port : HubPort) (destId : UInt32) :
      Effect s (.setDestId a port destId) (s.setDestId a port destId)
  | client (a : ι) (act : OutboundAct) (mesh : Mesh ι)
      (hact : ∀ k unset b, act ≠ .sendHandler k unset b)
      (h : s.mesh.step addressToIp4 node (.client a act) = some mesh) :
      Effect s (.client a act) { s with mesh := mesh }
  | server (b : ι) (act : InboundAct) (caller : End ι) (memory : Nat → UInt8) (mesh : Mesh ι)
      (h : s.mesh.step addressToIp4 node (.server b act caller) = some mesh) :
      Effect s (.server b act caller memory)
        { s with
          mesh := mesh
          uplinks := Function.update s.uplinks b
            (s.uplinks b ++ handsUp memory (s.mesh.servers b).1 act) }

theorem step_effect {act : SwarmAct ι} (h : s.step addressToIp4 node act = some t) :
    Effect addressToIp4 node s act t := by
  have client {a : ι} {act : OutboundAct} (hact : ∀ k unset b, act ≠ .sendHandler k unset b)
      (h : (s.mesh.step addressToIp4 node (.client a act)).map (fun mesh =>
        { s with mesh := mesh }) = some t) : Effect addressToIp4 node s (.client a act) t := by
    obtain ⟨mesh, hmesh, rfl⟩ := Option.map_eq_some_iff.mp h
    exact .client a act mesh hact hmesh
  cases act with
  | setNum a val1 cap k unset => exact .portIn a _ cap k unset (.setNum ..) h
  | ping a randX randY randZ cap k unset => exact .portIn a _ cap k unset (.ping ..) h
  | setDestId a port destId =>
    obtain rfl := Option.some.inj h
    exact .setDestId a port destId
  | client a act =>
    cases act with
    | sendHandler k unset b => cases h
    | _ => exact client (by simp) h
  | server b act caller memory =>
    obtain ⟨mesh, hmesh, rfl⟩ := Option.map_eq_some_iff.mp h
    exact .server b act caller memory mesh hmesh

end step

/-- The packets that uplinkP and the hub of node `b` have found in what the driver has handed up. -/
def unpacked (s : Swarm ι link) (b : ι) : List link.Packet :=
  link.code.unpack ((s.uplinks b).flatMap Prod.snd)

/-- The port calls that the components of node `b` have got from the swarm deframers. -/
def received (s : Swarm ι link) (b : ι) : List AppData := (s.unpacked b).flatMap link.deframed

/-- The source nodes that the swarm deframers of node `b` have reported. -/
def reported (s : Swarm ι link) (b : ι) : List UInt32 := (s.unpacked b).flatMap link.reported

/-- The invariant of a network with its components. -/
structure Inv (IDs : ι → UInt32) (s : Swarm ι link) : Prop where
  mesh : s.mesh.Inv IDs
  protocol : ∀ a, (s.mesh.clients a).1.idProtocol = true
  framers : ∀ a port, (s.framers a port).nodeSourceId = IDs a
  sources : ∀ a, ∀ m ∈ (s.outboxes a).messages, m.source = IDs a
  outboxes : ∀ a, OutboxInv link.dispatch (s.outboxes a) (s.mesh.clients a).1
  uplinks : ∀ b, UplinkInv (s.mesh.servers b).1 (s.uplinks b)

omit [DecidableEq ι] in
theorem inv_init (link : HubLink) (IDs : ι → UInt32) (adjM : ι → Nat → UInt8) :
    Inv IDs (init link IDs adjM) where
  mesh := Mesh.inv_init IDs adjM
  protocol _ := rfl
  framers _ _ := rfl
  sources _ _ hm := by cases hm
  outboxes a := outboxInv_init (IDs a) (adjM a) true
  uplinks b := uplinkInv_init (IDs b)

theorem outbound_idProtocol {addressToIp4 : List UInt8 → Bool} {s t : Outbound} {act : OutboundAct}
    (h : s.step addressToIp4 act = some t) : t.idProtocol = s.idProtocol := by
  cases act with
  | openTask env =>
    obtain ⟨_, -, rfl⟩ := Option.map_eq_some_iff.mp h
    rfl
  | sendHandler k unset b =>
    cases hk : s.calls k with
    | pure a =>
      simp only [Outbound.step, hk] at h
      obtain rfl := Option.some.inj h
      rfl
    | call o c => simp [Outbound.step, hk] at h
  | send k env =>
    obtain ⟨_, -, rfl⟩ := Option.map_eq_some_iff.mp h
    rfl
  | stop =>
    obtain rfl := Option.some.inj h
    rfl
  | closeAll =>
    obtain rfl := Option.some.inj h
    rfl

namespace Inv

variable {addressToIp4 : List UInt8 → Bool} {node : List UInt8 → UInt16 → Option ι}
  {IDs : ι → UInt32} {s t : Swarm ι link}

/-- The sending half of node `a` makes a step. -/
theorem clientStep (h : Inv IDs s) {a : ι} {act : OutboundAct} {mesh : Mesh ι}
    {box : Outbox link.Message} (hmesh : mesh.Inv IDs)
    (hs : s.mesh.step addressToIp4 node (.client a act) = some mesh)
    (hsources : ∀ m ∈ box.messages, m.source = IDs a)
    (hbox : ∀ u, (s.mesh.clients a).1.step addressToIp4 act = some u →
      OutboxInv link.dispatch box u) :
    Inv IDs { s with mesh := mesh, outboxes := Function.update s.outboxes a box } := by
  obtain ⟨u, hu, hservers, hclients⟩ := Mesh.step_client hs
  refine ⟨hmesh, ?_, h.framers, ?_, ?_, ?_⟩
  · intro a'
    show (mesh.clients a').1.idProtocol = true
    rw [hclients]
    by_cases ha : a' = a
    · subst ha
      rw [Function.update_self]
      exact (outbound_idProtocol hu).trans (h.protocol a')
    · rw [Function.update_of_ne ha]
      exact h.protocol a'
  · intro a'
    show ∀ m ∈ (Function.update s.outboxes a box a').messages, m.source = IDs a'
    by_cases ha : a' = a
    · subst ha
      rw [Function.update_self]
      exact hsources
    · rw [Function.update_of_ne ha]
      exact h.sources a'
  · intro a'
    show OutboxInv link.dispatch (Function.update s.outboxes a box a') (mesh.clients a').1
    rw [hclients]
    by_cases ha : a' = a
    · subst ha
      rw [Function.update_self, Function.update_self]
      exact hbox u hu
    · rw [Function.update_of_ne ha, Function.update_of_ne ha]
      exact h.outboxes a'
  · intro b
    show UplinkInv (mesh.servers b).1 (s.uplinks b)
    rw [hservers]
    exact h.uplinks b

theorem portIn (h : Inv IDs s) (hplain : ∀ a, ¬[tagI, tagD] <:+: bigEndian (IDs a)) {a : ι}
    {data : AppData} {cap : UInt32} {k : Nat} {unset : SocketIpStatus}
    (hs : s.portIn addressToIp4 node a data cap k unset = some t) : Inv IDs t := by
  obtain ⟨m, mesh, hsource, -, -, hmesh, rfl⟩ := portIn_eq_some hs
  have hID : m.source = IDs a := hsource.trans (h.framers a data.port)
  have hkeeps : KeepsIDs (s.mesh.clients a).1
      (.sendHandler k unset (.ofBytes (link.dispatch.bytes m))) := trivial
  refine h.clientStep (h.mesh.client hkeeps hmesh) hmesh ?_ ?_
  · intro m' hm
    rcases List.mem_append.mp hm with hm | hm
    · exact h.sources a m' hm
    · obtain rfl := List.mem_singleton.mp hm
      exact hID
  · intro u hu
    have hholds := FwBuffer.holds_ofBytes (link.small m.packet)
    have hdest := HubLink.headerScan_message (m := m) (hID ▸ hplain a) hholds
    exact (h.outboxes a).begins (h.protocol a) hholds hdest hu

theorem server (h : Inv IDs s) {b : ι} {act : InboundAct} {caller : End ι} (memory : Nat → UInt8)
    {mesh : Mesh ι} (hg : KeepsClients (s.mesh.servers b).1 act)
    (hmesh : s.mesh.step addressToIp4 node (.server b act caller) = some mesh) :
    Inv IDs { s with
      mesh := mesh
      uplinks := Function.update s.uplinks b
        (s.uplinks b ++ handsUp memory (s.mesh.servers b).1 act) } := by
  obtain ⟨u, hu, hclients, hservers⟩ := Mesh.step_server hmesh
  refine ⟨h.mesh.server hg hmesh, ?_, h.framers, h.sources, ?_, ?_⟩
  · show ∀ a, (mesh.clients a).1.idProtocol = true
    rw [hclients]
    exact h.protocol
  · show ∀ a, OutboxInv link.dispatch (s.outboxes a) (mesh.clients a).1
    rw [hclients]
    exact h.outboxes
  · intro b'
    dsimp only
    rw [hservers]
    by_cases hb : b' = b
    · subst hb
      rw [Function.update_self, Function.update_self]
      refine (h.uplinks b').step memory ?_ hu
      intro r hr
      obtain ⟨-, events, hread, -⟩ := (h.mesh.servers b').streams.reading r hr
      exact hread.count
    · rw [Function.update_of_ne hb, Function.update_of_ne hb]
      exact h.uplinks b'

theorem setDestId (h : Inv IDs s) (a : ι) (port : HubPort) (destId : UInt32) :
    Inv IDs (s.setDestId a port destId) := by
  refine ⟨h.mesh, h.protocol, ?_, h.sources, h.outboxes, h.uplinks⟩
  intro a' port'
  by_cases ha : a' = a
  · subst ha
    by_cases hport : port' = port
    · subst hport
      simpa [Swarm.setDestId] using h.framers a' port'
    · simpa [Swarm.setDestId, hport] using h.framers a' port'
  · simpa [Swarm.setDestId, ha] using h.framers a' port'

theorem step (h : Inv IDs s) (hplain : ∀ a, ¬[tagI, tagD] <:+: bigEndian (IDs a))
    {act : SwarmAct ι} (hg : Keeps s act)
    (hs : s.step addressToIp4 node act = some t) : Inv IDs t := by
  cases step_effect addressToIp4 node hs with
  | portIn a data cap k unset hgives hport => exact h.portIn hplain hport
  | setDestId a port destId => exact h.setDestId a port destId
  | client a act mesh hact hmesh =>
    have hstep := h.clientStep (h.mesh.client hg.1 hmesh) hmesh (h.sources a) fun u hu =>
      (h.outboxes a).step (h.mesh.clients a).streams hact hg.2 hu
    rwa [Function.update_eq_self] at hstep
  | server b act caller memory mesh hmesh => exact h.server memory hg hmesh

end Inv

end Swarm

end MeshNetwork.Network
