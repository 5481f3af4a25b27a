import MeshNetwork.Network.Messages

namespace MeshNetwork.Network

open Driver Framing Node PacketCode Positioning

variable {ι : Type} [DecidableEq ι] {link : HubLink}

/-- A position that GPS_get_ec_position makes up. -/
def Simulated (p : EcPos) : Prop :=
  ∃ randX randY randZ : Nat, p = gpsGetEcPosition randX randY randZ

def SimulatedData : AppData → Prop
  | .val1 _ => True
  | .position p => Simulated p

/-- All that the GPS of a node has been told of by the GPS of its peers: the positions are those
that a peer has taken, and the distance to each of them comes out right, wherever the node is. -/
structure Ranges (t : Swarm ι link) (b : ι) (p : EcPos) : Prop where
  taken : Simulated p
  given : ∃ e c, ∃ m ∈ (t.outboxes e.1).messages, t.mesh.wiring.server e = some (b, c) ∧
    m.data = .position p
  right : ∀ randX randY randZ, DistanceFits p randX randY randZ

namespace Swarm

variable {addressToIp4 : List UInt8 → Bool} {node : List UInt8 → UInt16 → Option ι}
  {s t : Swarm ι link}

/-- Every position on its way to the driver has been simulated. -/
def AllSimulated (s : Swarm ι link) : Prop :=
  ∀ a, ∀ m ∈ (s.outboxes a).messages, SimulatedData m.data

theorem AllSimulated.portIn (h : AllSimulated s) {a : ι} {data : AppData} {cap : UInt32} {k : Nat}
    {unset : SocketIpStatus} (hdata : SimulatedData data)
    (hs : s.portIn addressToIp4 node a data cap k unset = some t) : AllSimulated t := by
  obtain ⟨m, mesh, -, -, rfl, -, rfl⟩ := portIn_eq_some hs
  intro a' m' hm
  by_cases ha : a' = a
  · subst ha
    simp only [Function.update_self, Outbox.post, List.mem_append, List.mem_singleton] at hm
    rcases hm with hm | rfl
    · exact h a' m' hm
    · exact hdata
  · simp only [Function.update_of_ne ha] at hm
    exact h a' m' hm

/-- Only a ping brings a position. -/
theorem AllSimulated.step (h : AllSimulated s) {act : SwarmAct ι}
    (hs : s.step addressToIp4 node act = some t) : AllSimulated t := by
  cases step_effect addressToIp4 node hs with
  | portIn a data cap k unset hgives hport =>
    refine h.portIn ?_ hport
    cases hgives with
    | setNum => trivial
    | ping a randX randY randZ => exact ⟨randX, randY, randZ, rfl⟩
  | _ => exact h

end Swarm

/-- What arrives of positions comes from the GPS of a peer. -/
theorem Arrives.ranges {IDs : ι → UInt32} {t : Swarm ι link} {b : ι}
    {sent : End ι → List (Nat × link.Message)} {L : List (End ι × Nat × link.Message)}
    (hL : Arrives IDs t b sent L) (h : t.AllSimulated) {p : EcPos}
    (hp : .position p ∈ t.received b) : Ranges t b p := by
  rw [hL.received] at hp
  obtain ⟨x, hx, hdata⟩ := List.mem_map.mp hp
  have hmem := List.mem_of_getElem? (hL.given x hx)
  obtain ⟨c, hc⟩ := hL.wired x hx
  have hsimulated := h x.1.1 x.2.2 hmem
  rw [hdata] at hsimulated
  obtain ⟨randX, randY, randZ, rfl⟩ := hsimulated
  exact ⟨⟨randX, randY, randZ, rfl⟩, ⟨x.1, c, x.2.2, hmem, hc, hdata⟩,
    simulated_distance randX randY randZ⟩

/-- In every run of a network whose nodes keep clear of the known defects, and where the read tasks
of a node take turns at its deframers, its GPS gets the distances to its peers right. -/
theorem distances_right (addressToIp4 : List UInt8 → Bool)
    (node : List UInt8 → UInt16 → Option ι) (link : HubLink) (IDs : ι → UInt32)
    (hplain : ∀ a, ¬[tagI, tagD] <:+: bigEndian (IDs a)) (adjM : ι → Nat → UInt8)
    (acts : List (SwarmAct ι)) (t : Swarm ι link)
    (hrun : run (Swarm.step addressToIp4 node) (.init link IDs adjM) acts = some t)
    (hkeeps : AllSteps (Swarm.step addressToIp4 node) Swarm.Keeps
      (.init link IDs adjM) acts) (b : ι) (hturns : link.code.TakeTurns (t.uplinks b)) (p : EcPos)
    (hp : .position p ∈ t.received b) : Ranges t b p := by
  have hstart : (Swarm.init link IDs adjM).Inv IDs ∧ (Swarm.init link IDs adjM).AllSimulated :=
    ⟨Swarm.inv_init link IDs adjM, fun _ _ hm => by cases hm⟩
  have h := run_invariant (I := fun s : Swarm ι link => s.Inv IDs ∧ s.AllSimulated)
    (fun _ _ _ hi hg hs => ⟨hi.1.step hplain hg hs, hi.2.step hs⟩) hstart hkeeps hrun
  obtain ⟨sent, hsent⟩ := h.1.exists_sent
  obtain ⟨L, hL⟩ := h.1.exists_arrives hsent b hturns
  exact hL.ranges h.2 hp

/-- Node `false` connects to `true` and tells it its position. -/
def pingFrame : List UInt8 :=
  fprimePack (.gps,
    idEntry baseID ++ idEntry broadcastID ++ (AppData.position ⟨149, 130, 910⟩).serialize)

def pingActs : List (SwarmAct Bool) :=
  ((connect 0x31 0x20202021).take 6).map (.client false) ++
    ((newClient baseID).take 4).map (.server true · (false, 0) fun _ => 0) ++
    ((connect 0x31 0x20202021).drop 6).map (.client false) ++
    ((newClient baseID).drop 4).map (.server true · (false, 0) fun _ => 0) ++
    [.ping false 5 6 7 100 0 .success] ++
    List.replicate 16 (.client false (.send 0 { send := fun _ => { status := .success } })) ++
    (reads 0 5 { status := .success, bytes := pingFrame, size := 50 }).map
      (.server true · (false, 0) fun _ => 0)

def pingEnd : Swarm Bool fprimeLink :=
  (run (Swarm.step (fun _ => true) fun _ _ => some true) numberInit pingActs).get
    (by decide +kernel)

theorem distances_right_ping : Ranges pingEnd true ⟨149, 130, 910⟩ :=
  distances_right (fun _ => true) (fun _ _ => some true) fprimeLink pairIDs (by decide) _ pingActs
    pingEnd (Option.some_get (by decide +kernel)).symm (by decide +kernel) true
    (takeTurns_of_source 0 (by decide +kernel)) _ (by decide +kernel)

end MeshNetwork.Network
