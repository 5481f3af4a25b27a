import MeshNetwork.Network.Mesh

namespace MeshNetwork.Network

open Driver Node

theorem delivered_tail {e : ClientEvent} {log : List ClientEvent} (h : Delivered (e :: log)) :
    Delivered log := by
  match e with
  | .handshake _ _ => exact h
  | .offered _ none _ _ => exact h
  | .offered _ (some _) _ _ => exact h.2

/-- A frame that has been written was for its peer, by what the log now says. -/
theorem entitled_of_mem {log : List ClientEvent} (hd : Delivered log) {slot : Fin maxClients}
    {c : Conn} {dest : UInt32} {written : List UInt8}
    (hmem : .offered slot (some c) dest written ∈ log) (hwritten : written ≠ []) :
    Entitled log c dest := by
  have weaken {log : List ClientEvent} (e : ClientEvent) (h : Entitled log c dest) :
      Entitled (e :: log) c dest := by
    obtain ⟨⟨e', hmem, he'⟩, hfor⟩ := h
    exact ⟨⟨e', List.mem_cons_of_mem e hmem, he'⟩, fun hne => List.mem_cons_of_mem e (hfor hne)⟩
  induction log with
  | nil => cases hmem
  | cons e log ih =>
    rcases List.mem_cons.mp hmem with heq | hmem
    · subst heq
      exact weaken _ (hd.1 hwritten)
    · exact weaken e (ih (delivered_tail hd) hmem)

theorem announced_length {xs : List UInt8} {w : UInt32} (h : announced xs = some w) :
    6 ≤ xs.length := by
  match xs with
  | [] => cases h
  | [_] => cases h
  | [_, _] => cases h
  | [_, _, _] => cases h
  | [_, _, _, _] => cases h
  | [_, _, _, _, _] => cases h
  | _ :: _ :: _ :: _ :: _ :: _ :: xs =>
    simp only [List.length_cons]
    omega

/-- An announcement that is the beginning of an ID entry gives this ID. -/
theorem announced_prefix {xs : List UInt8} {v w : UInt32} (hx : xs <+: idEntry v)
    (hw : announced xs = some w) : w = v := by
  have hle := hx.length_le
  rw [idEntry_length] at hle
  have hlen : xs.length = 6 := Nat.le_antisymm hle (announced_length hw)
  have heq : xs = idEntry v := hx.eq_of_length (by rw [hlen, idEntry_length])
  have hself := announced_idEntry v []
  rw [List.append_nil, ← heq, hw] at hself
  exact Option.some.inj hself

/-- What a client says first is its ID, and what follows is frames. -/
theorem ClientStreams.sent_cases {o : Opener} {p : ClientSide} {h : SocketHistory}
    (hs : ClientStreams o p h) (c : Conn) :
    h.sent c <+: idEntry p.deviceID ∨ h.sent c = idEntry p.deviceID ++ framesOn c p.log := by
  by_cases hdone : HandshakeDone p.log c
  · exact .inr (hs.talking c hdone)
  · exact .inl (hs.shaking c hdone)

/-- The six bytes that recvClientID has taken are the ID, and the rest is frames. -/
theorem ClientStreams.heard {o : Opener} {p : ClientSide} {h : SocketHistory}
    (hs : ClientStreams o p h) {c : Conn} {hello rest : List UInt8} (hlen : hello.length = 6)
    (hheard : hello ++ rest <+: h.sent c) :
    hello = idEntry p.deviceID ∧ rest <+: framesOn c p.log := by
  rcases hs.sent_cases c with hsent | hsent
  · have hle := (hheard.trans hsent).length_le
    rw [List.length_append, hlen, idEntry_length] at hle
    obtain rfl : rest = [] := List.eq_nil_of_length_eq_zero (by omega)
    rw [List.append_nil] at hheard
    exact ⟨(hheard.trans hsent).eq_of_length (by rw [hlen, idEntry_length]), List.nil_prefix⟩
  · rw [hsent] at hheard
    obtain ⟨more, hmore⟩ := hheard
    rw [List.append_assoc] at hmore
    obtain ⟨hhello, hrest⟩ := List.append_inj hmore (by rw [hlen, idEntry_length])
    exact ⟨hhello, more, hrest⟩

variable {ι : Type} [DecidableEq ι]

/-- Read task `r` of node `b` is served by the end `e`: it has handed up, in order and but for the
buffer in hand, a beginning of the frames that were written there, and they were meant for `b`. -/
structure ServedBy (IDs : ι → UInt32) (t : Mesh ι) (b : ι) (r : Reader) (e : End ι) : Prop where
  partner : t.wiring.client (b, r.conn) = some e
  stream : ∀ memory, handedBytes memory r.handed ++ unsent r <+:
    framesOn e.2 (t.clients e.1).1.side.log
  meant : ∀ slot dest written,
    .offered slot (some e.2) dest written ∈ (t.clients e.1).1.side.log → written ≠ [] →
      dest = broadcastID ∨ dest = IDs b

omit [DecidableEq ι] in
/-- The partner of an end has announced its own ID. -/
theorem Mesh.Inv.announced_server {IDs : ι → UInt32} {t : Mesh ι} (h : t.Inv IDs) {e f : End ι}
    (hef : t.wiring.server e = some f) {ID : UInt32}
    (hmem : .handshake e.2 (some ID) ∈ (t.clients e.1).1.side.log) : ID = IDs f.1 := by
  have htold := (h.clients e.1).streams.told e.2 (some ID) hmem
  have hdown := (h.down e f hef).trans ((h.servers f.1).streams.answers f.2)
  rw [h.serverID] at hdown
  exact announced_prefix hdown htold.symm

omit [DecidableEq ι] in
/-- Every read task is served by an end. -/
theorem Mesh.Inv.servedBy {IDs : ι → UInt32} {t : Mesh ι} (h : t.Inv IDs) {b : ι} {r : Reader}
    (hr : r ∈ (t.servers b).1.readers) : ∃ e, ServedBy IDs t b r e := by
  obtain ⟨hello, events, hread, hlen, hreceived⟩ := (h.servers b).streams.reading r hr
  cases hpartner : t.wiring.client (b, r.conn) with
  | none =>
    have hnone := h.serverAlone (b, r.conn) hpartner
    rw [hreceived] at hnone
    obtain ⟨rfl, -⟩ := List.append_eq_nil_iff.mp hnone
    cases hlen
  | some e =>
    have hef := (t.wiring.agree e (b, r.conn)).mpr hpartner
    have hup := h.up e (b, r.conn) hef
    rw [History.Carries, hreceived] at hup
    obtain ⟨-, hframes⟩ := (h.clients e.1).streams.heard hlen hup
    refine ⟨e, hpartner, ?_, ?_⟩
    · intro memory
      rw [← hread.streamIntact.stream memory]
      exact hframes
    · intro slot dest written hmem hwritten
      obtain ⟨-, hfor⟩ := entitled_of_mem (h.clients e.1).delivery.delivered hmem hwritten
      by_cases hb : dest = broadcastID
      · exact .inl hb
      · exact .inr (h.announced_server hef (hfor hb))

/-- End to end: in every run of a network whose nodes keep clear of the known defects, what a read
task hands up comes from one node, in the order in which that node has sent it, without gaps, and
only from frames for this node or for all. -/
theorem frames_reach_their_node (addressToIp4 : List UInt8 → Bool)
    (node : List UInt8 → UInt16 → Option ι) (IDs : ι → UInt32) (adjM : ι → Nat → UInt8)
    (acts : List (MeshAct ι)) (t : Mesh ι)
    (hrun : run (Mesh.step addressToIp4 node) (.init IDs adjM) acts = some t)
    (hkeeps : AllSteps (Mesh.step addressToIp4 node) Mesh.Keeps
      (.init IDs adjM) acts) (b : ι) (r : Reader) (hr : r ∈ (t.servers b).1.readers) :
    ∃ e, ServedBy IDs t b r e :=
  (run_invariant (fun _ _ _ hi hg hs => Mesh.Inv.step hi hg hs) (Mesh.inv_init IDs adjM) hkeeps
    hrun).servedBy hr

/-- Two nodes: the base node, `false`, connects to `true`. -/
def pairIDs (a : Bool) : UInt32 := if a then 0x20202021 else baseID

def pairInit : Mesh Bool := .init pairIDs fun _ => initAdjacencyMatrix fun _ => 0

/-- The handshake between the two. -/
def pairConnect : List (MeshAct Bool) :=
  ((connect 0x31 0x20202021).take 6).map (.client false) ++
    ((newClient baseID).take 4).map (.server true · (false, 0)) ++
    ((connect 0x31 0x20202021).drop 6).map (.client false) ++
    ((newClient baseID).drop 4).map (.server true · (false, 0))

/-- The handshake, one frame, and the first statements of the read task. -/
def pairActs : List (MeshAct Bool) :=
  pairConnect ++ (oneFrame 0x20202021 .success).map (.client false) ++
    (reads 0 5 { status := .success, bytes := [0x49, 0x44, 0x20], size := 3 }).map
      (.server true · (false, 0))

def pairEnd : Mesh Bool :=
  (run (Mesh.step (fun _ => true) fun _ _ => some true) pairInit pairActs).get (by rfl)

/-- The first three bytes of the frame have been handed up. -/
theorem frames_reach_their_node_pair : ∃ e, ServedBy pairIDs pairEnd true
    ((pairEnd.servers true).1.readers[0]?.get (by rfl)) e :=
  frames_reach_their_node (fun _ => true) (fun _ _ => some true) pairIDs _ pairActs pairEnd
    (Option.some_get (by rfl)).symm (by decide) true _
    (List.mem_of_getElem? (Option.some_get (by rfl)).symm)

/-- Every ID that a node of the network stores for an open connection, in either pool, is the device
ID of the node at the other end. The slot that openTask is at work on may have an ID from before. -/
structure KnowsPeers (IDs : ι → UInt32) (t : Mesh ι) : Prop where
  servers : ∀ a i c, currentSlot (t.clients a).1.opener.pc ≠ some i →
    ((t.clients a).1.side.manager.sockets i).fd = some c →
    ((t.clients a).1.side.manager.sockets i).deviceID ≠ 0 →
      ∃ f, t.wiring.server (a, c) = some f ∧
        ((t.clients a).1.side.manager.sockets i).deviceID = IDs f.1
  clients : ∀ b i d, ((t.servers b).1.manager.sockets i).fd = some d →
    ((t.servers b).1.manager.sockets i).deviceID ≠ 0 →
      ∃ e, t.wiring.client (b, d) = some e ∧
        ((t.servers b).1.manager.sockets i).deviceID = IDs e.1

/-- No node opens a slot with an old ID in it. -/
def Mesh.OpensFresh (addressToIp4 : List UInt8 → Bool) (s : Mesh ι) : MeshAct ι → Prop
  | .client a act => Node.OpensFresh addressToIp4 (s.clients a).1 act
  | .server _ _ _ => True

instance (addressToIp4 : List UInt8 → Bool) (s : Mesh ι) :
    (act : MeshAct ι) → Decidable (s.OpensFresh addressToIp4 act)
  | .client a act => inferInstanceAs (Decidable (Node.OpensFresh addressToIp4 (s.clients a).1 act))
  | .server _ _ _ => .isTrue trivial

theorem currentUnnamed_mesh {addressToIp4 : List UInt8 → Bool}
    {node : List UInt8 → UInt16 → Option ι} {s t : Mesh ι} {act : MeshAct ι}
    (h : ∀ a, CurrentUnnamed (s.clients a).1.opener (s.clients a).1.side)
    (hfresh : s.OpensFresh addressToIp4 act) (hs : s.step addressToIp4 node act = some t) (a : ι) :
    CurrentUnnamed (t.clients a).1.opener (t.clients a).1.side := by
  cases act with
  | client a' act =>
    obtain ⟨u, hu, -, hclients⟩ := Mesh.step_client hs
    rw [hclients]
    by_cases ha : a = a'
    · subst ha
      rw [Function.update_self]
      exact currentUnnamed_step (h a) hfresh hu
    · rw [Function.update_of_ne ha]
      exact h a
  | server b act caller =>
    obtain ⟨u, -, hclients, -⟩ := Mesh.step_server hs
    rw [hclients]
    exact h a

/-- The two ends of every connection know each other, in every run of a network whose nodes keep
clear of the known defects; and where no slot is opened with an old ID in it, openTask is at work
on none that stores an ID. -/
theorem nodes_know_their_peers (addressToIp4 : List UInt8 → Bool)
    (node : List UInt8 → UInt16 → Option ι) (IDs : ι → UInt32) (adjM : ι → Nat → UInt8)
    (acts : List (MeshAct ι)) (t : Mesh ι)
    (hrun : run (Mesh.step addressToIp4 node) (.init IDs adjM) acts = some t)
    (hkeeps : AllSteps (Mesh.step addressToIp4 node) Mesh.Keeps
      (.init IDs adjM) acts) : KnowsPeers IDs t ∧
      (AllSteps (Mesh.step addressToIp4 node) (Mesh.OpensFresh addressToIp4) (.init IDs adjM) acts →
        ∀ a, CurrentUnnamed (t.clients a).1.opener (t.clients a).1.side) := by
  have h : t.Inv IDs := run_invariant (fun _ _ _ hi hg hs => Mesh.Inv.step hi hg hs)
    (Mesh.inv_init IDs adjM) hkeeps hrun
  refine ⟨⟨?_, ?_⟩, ?_⟩
  · intro a i c hsettled hfd hID
    have hmem := ((h.clients a).delivery.known i hsettled c hfd).resolve_left hID
    cases hpartner : t.wiring.server (a, c) with
    | none =>
      have htold := (h.clients a).streams.told c _ hmem
      rw [h.clientAlone (a, c) hpartner] at htold
      cases htold
    | some f => exact ⟨f, rfl, h.announced_server hpartner hmem⟩
  · intro b i d hfd hID
    have hmem := ((h.servers b).ids.known i d hfd).resolve_left hID
    obtain ⟨hlong, htold⟩ := (h.servers b).streams.told d _ hmem
    cases hpartner : t.wiring.client (b, d) with
    | none =>
      rw [h.serverAlone (b, d) hpartner] at hlong
      exact absurd hlong (by decide)
    | some e =>
      have hup : History.received d (t.servers b).2 <+: _ :=
        h.up e (b, d) ((t.wiring.agree e (b, d)).mpr hpartner)
      generalize History.received d (t.servers b).2 = received at hup hlong htold
      have hlen : (received.take 6).length = 6 := List.length_take_of_le hlong
      rw [← List.take_append_drop 6 received] at hup htold
      obtain ⟨hhello, -⟩ := (h.clients e.1).streams.heard hlen hup
      rw [announced_append (Nat.le_of_eq hlen.symm), hhello, h.clientID e.1] at htold
      refine ⟨e, rfl, ?_⟩
      have hself := announced_idEntry (IDs e.1) []
      rw [List.append_nil] at hself
      exact Option.some.inj (htold.trans hself)
  · intro hfresh
    exact run_invariant
      (I := fun s : Mesh ι => ∀ a, CurrentUnnamed (s.clients a).1.opener (s.clients a).1.side)
      (fun _ _ _ hi hg hs a => currentUnnamed_mesh hi hg hs a) (fun _ _ _ hi => by cases hi) hfresh
      hrun

theorem nodes_know_their_peers_pair : KnowsPeers pairIDs pairEnd ∧
    ∀ a, CurrentUnnamed (pairEnd.clients a).1.opener (pairEnd.clients a).1.side := by
  obtain ⟨hknows, hfresh⟩ := nodes_know_their_peers (fun _ => true) (fun _ _ => some true) pairIDs _
    pairActs pairEnd (Option.some_get (by rfl)).symm (by decide)
  exact ⟨hknows, hfresh (by decide)⟩

end MeshNetwork.Network
