import MeshNetwork.Network.Swarm

namespace MeshNetwork.Network

open Driver Framing Node PacketCode Positioning

variable {ι : Type} [DecidableEq ι] {link : HubLink}

/-- What the nodes have sent: on each connection some of their messages, with the numbers that they
have at their node. A message for one node is on one connection at most. -/
structure Sent (t : Swarm ι link) (sent : End ι → List (Nat × link.Message)) : Prop where
  dispatched : ∀ e, ∃ rest,
    Dispatched link.dispatch (t.outboxes e.1) (t.mesh.clients e.1).1 e.2 (sent e) rest
  single : ∀ e e' x, e.1 = e'.1 → x ∈ sent e → x ∈ sent e' → x.2.dest ≠ broadcastID → e = e'

/-- All that has been written on the connection of a read task has been handed up. -/
def HandedAll (t : Mesh ι) (r : Reader) (e : End ι) : Prop :=
  okData r = framesOn e.2 (t.clients e.1).1.side.log

/-- All that the components of node `b` have got: `L` has every message with the end that it was
written at and its number there. It is the messages of the peers, each as its peer has given it,
none for another node and none twice on one connection, and in the order in which they were
written; and none is missing where a read task has come to the end of what was written. -/
structure Arrives (IDs : ι → UInt32) (t : Swarm ι link) (b : ι)
    (sent : End ι → List (Nat × link.Message)) (L : List (End ι × Nat × link.Message)) :
    Prop where
  received : t.received b = L.map (·.2.2.data)
  reported : t.reported b = L.map (IDs ·.1.1)
  wired : ∀ x ∈ L, ∃ c, t.mesh.wiring.server x.1 = some (b, c)
  given : ∀ x ∈ L, (t.outboxes x.1.1).messages[x.2.1]? = some x.2.2
  meant : ∀ x ∈ L, x.2.2.dest = broadcastID ∨ x.2.2.dest = IDs b
  once : (L.map fun x => (x.1, x.2.1)).Nodup
  order : ∀ e, messagesOf e L <+: sent e
  whole : ∀ r e, r ∈ (t.mesh.servers b).1.readers → t.mesh.wiring.client (b, r.conn) = some e →
    HandedAll t.mesh r e → messagesOf e L = sent e

/-- What a read task of node `b` has handed up are the messages of its end in `L`, and less than a
packet. -/
def Covers (t : Swarm ι link) (b : ι) (L : List (End ι × Nat × link.Message)) : Prop :=
  ∀ (n : Nat) (r : Reader) (e : End ι), (t.mesh.servers b).1.readers[n]? = some r →
    t.mesh.wiring.client (b, r.conn) = some e → ∃ rest, link.code.Begun rest ∧
      okData r = link.code.packAll ((messagesOf e L).map (·.2.packet)) ++ rest

/-- What read task `n` of node `b` has brought, if there is such a task, is from one end. -/
structure Origin (IDs : ι → UInt32) (t : Swarm ι link) (b : ι)
    (sent : End ι → List (Nat × link.Message)) (n : Nat)
    (origins : List (End ι × Nat × link.Message)) : Prop where
  served : ∀ x ∈ origins, ∃ r, (t.mesh.servers b).1.readers[n]? = some r ∧
    t.mesh.wiring.client (b, r.conn) = some x.1
  meant : ∀ x ∈ origins, x.2.2.dest = broadcastID ∨ x.2.2.dest = IDs b
  order : ∀ r e, (t.mesh.servers b).1.readers[n]? = some r →
    t.mesh.wiring.client (b, r.conn) = some e → origins.map Prod.snd <+: sent e
  whole : ∀ r e, (t.mesh.servers b).1.readers[n]? = some r →
    t.mesh.wiring.client (b, r.conn) = some e → HandedAll t.mesh r e →
      origins.map Prod.snd = sent e

theorem okData_eq {r : Reader} {events : List ReadEvent} (h : ReadInv r events)
    (memory : Nat → Nat → UInt8) : handedBytes memory r.handed = okData r :=
  List.append_cancel_right ((h.streamIntact.stream memory).symm.trans h.bytes)

omit [DecidableEq ι] in
/-- Two read tasks of a node never read from one end. -/
theorem Mesh.Inv.one_task {IDs : ι → UInt32} {t : Mesh ι} (h : t.Inv IDs) {b : ι} {n k : Nat}
    {r q : Reader} {e : End ι} (hr : (t.servers b).1.readers[n]? = some r)
    (hq : (t.servers b).1.readers[k]? = some q) (he : t.wiring.client (b, r.conn) = some e)
    (he' : t.wiring.client (b, q.conn) = some e) : n = k := by
  have hserver := (t.wiring.agree e (b, r.conn)).mpr he
  rw [(t.wiring.agree e (b, q.conn)).mpr he'] at hserver
  have hconn : q.conn = r.conn := congrArg Prod.snd (Option.some.inj hserver)
  have hseparate := List.pairwise_iff_getElem.mp (h.servers b).streams.separate
  obtain ⟨hn, hrn⟩ := List.getElem?_eq_some_iff.mp hr
  obtain ⟨hk, hqk⟩ := List.getElem?_eq_some_iff.mp hq
  rcases Nat.lt_trichotomy n k with hlt | heq | hgt
  · exact absurd (by rw [hrn, hqk, hconn]) (hseparate n k hn hk hlt)
  · exact heq
  · exact absurd (by rw [hrn, hqk, hconn]) (hseparate k n hk hn hgt)

namespace Swarm.Inv

variable {IDs : ι → UInt32} {t : Swarm ι link} {sent : End ι → List (Nat × link.Message)}

omit [DecidableEq ι] in
/-- The connections of all nodes together. -/
theorem sent_of_all {sent : ι → Conn → List (Nat × link.Message)}
    (h : ∀ a, AllDispatched link.dispatch (t.outboxes a) (t.mesh.clients a).1 (sent a)) :
    Sent t fun e => sent e.1 e.2 := by
  refine ⟨fun e => (h e.1).each e.2, ?_⟩
  intro e e' x hnode hx hx' hdest
  obtain ⟨a, c⟩ := e
  obtain ⟨a', c'⟩ := e'
  obtain rfl : a = a' := hnode
  exact congrArg (Prod.mk a) ((h a).single c c' x hx hx' hdest)

omit [DecidableEq ι] in
theorem exists_sent (h : Inv IDs t) : ∃ sent, Sent t sent := by
  choose sent hsent using fun a => (h.outboxes a).wires
  exact ⟨_, sent_of_all hsent⟩

omit [DecidableEq ι] in
theorem brought_eq (h : Inv IDs t) {b : ι} {n : Nat} {r : Reader}
    (hr : (t.mesh.servers b).1.readers[n]? = some r) : brought n (t.uplinks b) = okData r := by
  rw [h.uplinks b n, hr]
  rfl

omit [DecidableEq ι] in
/-- What a task has handed up is a beginning of what was written at the other end. -/
theorem okData_prefix (h : Inv IDs t) {b : ι} {r : Reader} {e : End ι}
    (hr : r ∈ (t.mesh.servers b).1.readers) (hserved : ServedBy IDs t.mesh b r e) :
    okData r <+: framesOn e.2 (t.mesh.clients e.1).1.side.log := by
  obtain ⟨-, events, hread, -⟩ := (h.mesh.servers b).streams.reading r hr
  have hstream := (List.prefix_append _ _).trans (hserved.stream fun _ _ => 0)
  rwa [okData_eq hread] at hstream

omit [DecidableEq ι] in
/-- What a task brings is a beginning of the packets that were written at the other end. -/
theorem brought_prefix (h : Inv IDs t) (hsent : Sent t sent) {b : ι} {n : Nat} {r : Reader}
    (hr : (t.mesh.servers b).1.readers[n]? = some r) :
    ∃ e rest, ServedBy IDs t.mesh b r e ∧
      Dispatched link.dispatch (t.outboxes e.1) (t.mesh.clients e.1).1 e.2 (sent e) rest ∧
      brought n (t.uplinks b) = okData r ∧
      okData r <+: link.code.packAll ((sent e).map (·.2.packet)) ++ rest := by
  have hmem := List.mem_of_getElem? hr
  obtain ⟨e, hserved⟩ := h.mesh.servedBy hmem
  obtain ⟨rest, hdispatched⟩ := hsent.dispatched e
  have hpre := h.okData_prefix hmem hserved
  rw [hdispatched.stream] at hpre
  exact ⟨e, rest, hserved, hdispatched, h.brought_eq hr, hpre⟩

omit [DecidableEq ι] in
/-- What the read tasks of a node bring makes up whole packets, whoever brings them. -/
theorem exists_merged (h : Inv IDs t) (b : ι) (hturns : link.code.TakeTurns (t.uplinks b)) :
    ∃ messages rest, link.code.Merges (t.uplinks b) messages rest := by
  obtain ⟨sent, hsent⟩ := h.exists_sent
  refine exists_merges ?_ hturns
  intro n
  cases hr : (t.mesh.servers b).1.readers[n]? with
  | none =>
    refine ⟨[], [], link.code.begun_nil, ?_⟩
    rw [h.uplinks b n, hr]
    exact List.nil_prefix
  | some r =>
    obtain ⟨e, rest, -, hdispatched, hbrought, hpre⟩ := h.brought_prefix hsent hr
    exact ⟨_, rest, hdispatched.begun, hbrought ▸ hpre⟩

omit [DecidableEq ι] in
/-- The messages that a task has brought, with their origins. -/
theorem exists_origin (h : Inv IDs t) (hsent : Sent t sent) (b : ι)
    {messages : List (Nat × link.Packet)} {rest : List UInt8}
    (hm : link.code.Merges (t.uplinks b) messages rest) (n : Nat) :
    ∃ origins, messagesOf n messages = origins.map (·.2.2.packet) ∧
      Origin IDs t b sent n origins := by
  have hbegun := hm.begun_each n
  cases hr : (t.mesh.servers b).1.readers[n]? with
  | none =>
    have hnone := h.uplinks b n
    rw [hr, hm.each n] at hnone
    have hempty : link.code.packAll [] ++ [] = [] := rfl
    have hnil := (packAll_inj hbegun link.code.begun_nil (hnone.trans hempty.symm)).1
    refine ⟨[], hnil, by simp, by simp, ?_, ?_⟩
    · intro r e hr'
      cases hr.symm.trans hr'
    · intro r e hr'
      cases hr.symm.trans hr'
  | some r =>
    obtain ⟨e, more, hserved, hdispatched, hbrought, hpre⟩ := h.brought_prefix hsent hr
    rw [hm.each n] at hbrought
    have hmessages := prefix_of_packAll hdispatched.begun hbegun (hbrought ▸ hpre)
    have htake := List.prefix_iff_eq_take.mp hmessages
    rw [← List.map_take] at htake
    have hwhole (hall : HandedAll t.mesh r e) :
        (messagesOf n messages).length = (sent e).length := by
      rw [(packAll_inj hbegun hdispatched.begun
        (hbrought.trans (hall.trans hdispatched.stream))).1, List.length_map]
    generalize (messagesOf n messages).length = len at htake hwhole
    have hsnd : ((sent e).take len).map (Prod.snd ∘ (e, ·)) = (sent e).take len := List.map_id' _
    refine ⟨((sent e).take len).map (e, ·), ?_, ?_, ?_, ?_, ?_⟩
    · rw [htake, List.map_map]
      rfl
    · intro x hx
      obtain ⟨y, hy, rfl⟩ := List.mem_map.mp hx
      exact ⟨r, hr, hserved.partner⟩
    · intro x hx
      obtain ⟨y, hy, rfl⟩ := List.mem_map.mp hx
      obtain ⟨slot, hrecorded⟩ := hdispatched.recorded y (List.mem_of_mem_take hy)
      exact hserved.meant slot y.2.dest _ hrecorded (pack_ne_nil _)
    · intro r' e' hr' he'
      obtain rfl := Option.some.inj (hr.symm.trans hr')
      obtain rfl := Option.some.inj (hserved.partner.symm.trans he')
      rw [List.map_map, hsnd]
      exact List.take_prefix len _
    · intro r' e' hr' he' hall
      obtain rfl := Option.some.inj (hr.symm.trans hr')
      obtain rfl := Option.some.inj (hserved.partner.symm.trans he')
      rw [List.map_map, hsnd, hwhole hall, List.take_length]

/-- What comes from an end is what its task has brought. -/
theorem messagesOf_end (h : Inv IDs t) {b : ι} {L : List (Nat × End ι × Nat × link.Message)}
    (hserved : ∀ x ∈ L, ∃ r, (t.mesh.servers b).1.readers[x.1]? = some r ∧
      t.mesh.wiring.client (b, r.conn) = some x.2.1) {n : Nat} {r : Reader} {e : End ι}
    (hr : (t.mesh.servers b).1.readers[n]? = some r)
    (he : t.mesh.wiring.client (b, r.conn) = some e) :
    messagesOf e (L.map Prod.snd) = (messagesOf n L).map Prod.snd := by
  have hsame : L.filter (fun x => x.2.1 = e) = L.filter fun x => x.1 = n := by
    refine List.filter_congr ?_
    intro x hx
    obtain ⟨q, hq, hqe⟩ := hserved x hx
    refine decide_eq_decide.mpr ⟨?_, ?_⟩
    · intro hxe
      exact h.mesh.one_task hq hr (hxe ▸ hqe) he
    · intro hxn
      rw [hxn] at hq
      obtain rfl := Option.some.inj (hq.symm.trans hr)
      exact Option.some.inj (hqe.symm.trans he)
  rw [messagesOf, messagesOf, ← hsame, List.filter_map]
  rfl

/-- The origins of all messages that the node has got. -/
theorem exists_arrives_covers (h : Inv IDs t) (hsent : Sent t sent) (b : ι)
    (hturns : link.code.TakeTurns (t.uplinks b)) : ∃ L, Arrives IDs t b sent L ∧ Covers t b L := by
  obtain ⟨messages, rest, hm⟩ := h.exists_merged b hturns
  choose origins himage horigin using h.exists_origin hsent b hm
  obtain ⟨L, rfl, hL⟩ := exists_origins (fun x => x.2.2.packet) messages origins himage
  have hunpacked : t.unpacked b = L.map (·.2.2.2.packet) := by
    rw [Swarm.unpacked, hm.together, unpack_packAll hm.begun, List.map_map]
    rfl
  have hserved (x : Nat × End ι × Nat × link.Message) (hx : x ∈ L) :
      ∃ r, (t.mesh.servers b).1.readers[x.1]? = some r ∧
        t.mesh.wiring.client (b, r.conn) = some x.2.1 :=
    (horigin x.1).served x.2 (hL x.1 ▸ mem_messagesOf.mpr hx)
  have htask {n : Nat} {r : Reader} {e : End ι} (hr : (t.mesh.servers b).1.readers[n]? = some r)
      (he : t.mesh.wiring.client (b, r.conn) = some e) :
      messagesOf e (L.map Prod.snd) = (origins n).map Prod.snd := by
    rw [h.messagesOf_end hserved hr he, hL n]
  have horder (e : End ι) : messagesOf e (L.map Prod.snd) <+: sent e := by
    by_cases hreader : ∃ (n : Nat) (r : Reader), (t.mesh.servers b).1.readers[n]? = some r ∧
        t.mesh.wiring.client (b, r.conn) = some e
    · obtain ⟨n, r, hr, he⟩ := hreader
      rw [htask hr he]
      exact (horigin n).order r e hr he
    · have hnone : messagesOf e (L.map Prod.snd) = [] := by
        refine List.eq_nil_iff_forall_not_mem.mpr ?_
        intro m hm
        obtain ⟨⟨n, x⟩, hx, heq⟩ := List.mem_map.mp (mem_messagesOf.mp hm)
        obtain ⟨r, hr, he⟩ := hserved _ hx
        exact hreader ⟨n, r, hr, he.trans (congrArg (fun y => some y.1) heq)⟩
      exact hnone ▸ List.nil_prefix
  have hgiven (x : End ι × Nat × link.Message) (hx : x ∈ L.map Prod.snd) :
      (t.outboxes x.1.1).messages[x.2.1]? = some x.2.2 := by
    obtain ⟨rest, hdispatched⟩ := hsent.dispatched x.1
    exact hdispatched.given x.2 ((horder x.1).mem (mem_messagesOf.mpr hx))
  refine ⟨L.map Prod.snd, ⟨?_, ?_, ?_, hgiven, ?_, ?_, horder, ?_⟩, ?_⟩
  · rw [Swarm.received, hunpacked, List.flatMap_map, List.map_map]
    simp only [HubLink.deframed_message]
    exact List.map_eq_flatMap.symm
  · rw [Swarm.reported, hunpacked, List.flatMap_map, List.map_map]
    simp only [HubLink.deframed_message]
    rw [← List.map_eq_flatMap]
    refine List.map_congr_left ?_
    intro x hx
    exact h.sources _ _ (List.mem_of_getElem? (hgiven x.2 (List.mem_map_of_mem hx)))
  · intro x hx
    obtain ⟨⟨n, y⟩, hy, rfl⟩ := List.mem_map.mp hx
    obtain ⟨r, -, he⟩ := hserved _ hy
    exact ⟨r.conn, (t.mesh.wiring.agree y.1 (b, r.conn)).mpr he⟩
  · intro x hx
    obtain ⟨⟨n, y⟩, hy, rfl⟩ := List.mem_map.mp hx
    exact (horigin n).meant y (hL n ▸ mem_messagesOf.mpr hy)
  · refine nodup_of_messagesOf ?_
    intro e
    rw [messagesOf_map fun y : Nat × link.Message => y.1]
    obtain ⟨rest, hdispatched⟩ := hsent.dispatched e
    exact hdispatched.once.sublist ((horder e).map Prod.fst).sublist
  · intro r e hr he hall
    obtain ⟨n, hn⟩ := List.mem_iff_getElem?.mp hr
    rw [htask hn he]
    exact (horigin n).whole r e hn he hall
  · intro n r e hr he
    refine ⟨_, hm.begun_each n, ?_⟩
    rw [htask hr he, List.map_map, ← h.brought_eq hr, hm.each n, himage n]
    rfl

theorem exists_arrives (h : Inv IDs t) (hsent : Sent t sent) (b : ι)
    (hturns : link.code.TakeTurns (t.uplinks b)) : ∃ L, Arrives IDs t b sent L := by
  obtain ⟨L, hL, -⟩ := h.exists_arrives_covers hsent b hturns
  exact ⟨L, hL⟩

end Swarm.Inv

/-- End to end between the components. In every run of a network whose nodes keep clear of the known
defects, and where the read tasks of a node take turns at its one deframer, what the components get
are the messages of their peers. -/
theorem messages_arrive (addressToIp4 : List UInt8 → Bool)
    (node : List UInt8 → UInt16 → Option ι) (link : HubLink) (IDs : ι → UInt32)
    (hplain : ∀ a, ¬[tagI, tagD] <:+: bigEndian (IDs a)) (adjM : ι → Nat → UInt8)
    (acts : List (SwarmAct ι)) (t : Swarm ι link)
    (hrun : run (Swarm.step addressToIp4 node) (.init link IDs adjM) acts = some t)
    (hkeeps : AllSteps (Swarm.step addressToIp4 node) Swarm.Keeps
      (.init link IDs adjM) acts) :
    ∃ sent, Sent t sent ∧
      ∀ b, link.code.TakeTurns (t.uplinks b) → ∃ L, Arrives IDs t b sent L := by
  have h := run_invariant (fun _ _ _ hi hg hs => Swarm.Inv.step hi hplain hg hs)
    (Swarm.inv_init link IDs adjM) hkeeps hrun
  obtain ⟨sent, hsent⟩ := h.exists_sent
  exact ⟨sent, hsent, fun b => h.exists_arrives hsent b⟩

section fprime

/-- One bit of the checksum CRC-32. -/
def crcBit (c : UInt32) : UInt32 := if c &&& 1 = 1 then (c >>> 1) ^^^ 0xEDB88320 else c >>> 1

def crc32 (bytes : List UInt8) : UInt32 :=
  ~~~bytes.foldl (fun c x => Nat.repeat crcBit 8 (c ^^^ x.toUInt32)) 0xFFFFFFFF

/-- A buffer from a port of the hub as a packet of the F' protocol: the start word, the size, the
type of the packet and that of the hub message, the port, the length and the bytes, and the
checksum. -/
def fprimeHead (x : HubPort × List UInt8) : List UInt8 :=
  bigEndian 0xDEADBEEF ++ bigEndian (.ofNat (x.2.length + 14)) ++ bigEndian 3 ++ bigEndian 1 ++
    bigEndian x.1.portNum ++ (bigEndian (.ofNat x.2.length)).drop 2

def fprimePack (x : HubPort × List UInt8) : List UInt8 :=
  fprimeHead x ++ x.2 ++ bigEndian (crc32 (fprimeHead x ++ x.2))

/-- The port and the bytes of the packet that a stream begins with, by its size. -/
def fprimeFields (xs : List UInt8) : HubPort × List UInt8 :=
  (if xs.getD 19 0 = 1 then .simple else .gps,
    (xs.drop 22).take ((ofBigEndian (xs.getD 4 0) (xs.getD 5 0) (xs.getD 6 0)
      (xs.getD 7 0)).toNat - 14))

abbrev FprimeFits (x : HubPort × List UInt8) : Prop := x.2.length ≤ 1000

theorem fprimeFields_pack {x : HubPort × List UInt8} (h : FprimeFits x) (rest : List UInt8) :
    fprimeFields (fprimePack x ++ rest) = x := by
  obtain ⟨port, bytes⟩ := x
  have hsize : (UInt32.ofNat (bytes.length + 14)).toNat - 14 = bytes.length := by
    have hlen : bytes.length ≤ 1000 := h
    rw [UInt32.toNat_ofNat', Nat.mod_eq_of_lt (by omega)]
    omega
  refine Prod.ext ?_ ?_
  · cases port <;> rfl
  · simp only [fprimeFields, fprimePack, fprimeHead, bigEndian, List.cons_append, List.nil_append,
      List.getD_cons_zero, List.getD_cons_succ, List.drop_succ_cons, List.drop_zero,
      ofBigEndian_bigEndian, hsize, List.append_assoc, List.take_left']

theorem fprimePack_length (x : HubPort × List UInt8) :
    (fprimePack x).length = x.2.length + 26 := by
  simp [fprimePack, fprimeHead, bigEndian]

/-- A packet that all of its fields confirm. -/
def fprimeParser : PacketParser {x // FprimeFits x} UInt8 where
  pack x := fprimePack x.val
  parse xs :=
    if h : FprimeFits (fprimeFields xs) ∧ fprimePack (fprimeFields xs) <+: xs then
      some (⟨fprimeFields xs, h.1⟩, xs.drop (fprimePack (fprimeFields xs)).length)
    else none
  parse_pack x rest := by
    have hfields := fprimeFields_pack x.property rest
    have hconfirmed : FprimeFits (fprimeFields (fprimePack x.val ++ rest)) ∧
        fprimePack (fprimeFields (fprimePack x.val ++ rest)) <+: fprimePack x.val ++ rest := by
      rw [hfields]
      exact ⟨x.property, List.prefix_append _ _⟩
    rw [dif_pos hconfirmed]
    simp [hfields]
  parse_begun x rest hrest hne := by
    refine dif_neg ?_
    intro h
    obtain ⟨more, hmore⟩ := h.2.trans hrest
    -- the packet at the beginning would be the whole one
    have hsame : fprimeFields rest = x.val := by
      have hfields := fprimeFields_pack x.property []
      rw [List.append_nil, ← hmore, fprimeFields_pack h.1] at hfields
      exact hfields
    have hle := h.2.length_le
    rw [hsame] at hle
    exact hne (hrest.eq_of_length (Nat.le_antisymm hrest.length_le hle))
  parse_nil := by
    refine dif_neg ?_
    intro h
    have hle := h.2.length_le
    rw [fprimePack_length] at hle
    simp at hle

theorem byte_ne_tagI {n : Nat} (hn : n < 2000) {k : UInt32} (hk : k = 24 ∨ k = 16 ∨ k = 8) :
    tagI ≠ (UInt32.ofNat n >>> k).toUInt8 := by
  intro htag
  have hvalue := congrArg UInt8.toNat htag
  have htagI : tagI.toNat = 73 := rfl
  have hmod : n % 2 ^ 32 = n := Nat.mod_eq_of_lt (by omega)
  rw [htagI, UInt32.toNat_toUInt8, UInt32.toNat_shiftRight, UInt32.toNat_ofNat', hmod,
    Nat.shiftRight_eq_div_pow] at hvalue
  rcases hk with rfl | rfl | rfl
  all_goals
    simp only [UInt32.reduceToNat, Nat.reduceMod, Nat.reducePow] at hvalue
    omega

theorem no_tag_in_head {a b c d e f p : UInt8} (ha : tagI ≠ a) (hb : tagI ≠ b) (hc : tagI ≠ c)
    (he : tagI ≠ e) (hp : tagI ≠ p) : ¬[tagI, tagD] <:+: [0xDE, 0xAD, 0xBE, 0xEF, a, b, c, d, 0, 0,
      0, 3, 0, 0, 0, 1, 0, 0, 0, p, e, f] := by
  have hne (w : UInt8) (hw : w ∈ [0xDE, 0xAD, 0xBE, 0xEF, 0, 1, 3]) : tagI ≠ w ∧ tagD ≠ w := by
    simp only [List.mem_cons, List.not_mem_nil, or_false] at hw
    rcases hw with rfl | rfl | rfl | rfl | rfl | rfl | rfl <;> decide
  simp [List.infix_cons_iff, ha, hb, hc, he, hp, hne]

theorem fprimeHead_eq (port : HubPort) (bytes : List UInt8) :
    fprimeHead (port, bytes) = [0xDE, 0xAD, 0xBE, 0xEF] ++ bigEndian (.ofNat (bytes.length + 14)) ++
      [0, 0, 0, 3, 0, 0, 0, 1, 0, 0, 0, port.portNum.toUInt8] ++
        (bigEndian (.ofNat bytes.length)).drop 2 := by
  have hstart : bigEndian 0xDEADBEEF = [0xDE, 0xAD, 0xBE, 0xEF] := by decide
  have htype : bigEndian 3 = [0, 0, 0, 3] := by decide
  have hmessage : bigEndian 1 = [0, 0, 0, 1] := by decide
  have hport : bigEndian port.portNum = [0, 0, 0, port.portNum.toUInt8] := by cases port <;> decide
  rw [fprimeHead, hstart, htype, hmessage, hport]
  rfl

/-- Nothing in front of the swarm header looks like a tag. -/
theorem fprimeHead_plain {x : HubPort × List UInt8} (h : FprimeFits x) :
    ¬[tagI, tagD] <:+: fprimeHead x := by
  obtain ⟨port, bytes⟩ := x
  have hlen : bytes.length ≤ 1000 := h
  have hsize {k : UInt32} (hk : k = 24 ∨ k = 16 ∨ k = 8) :
      tagI ≠ (UInt32.ofNat (bytes.length + 14) >>> k).toUInt8 := byte_ne_tagI (by omega) hk
  have hlength : tagI ≠ (UInt32.ofNat bytes.length >>> 8).toUInt8 :=
    byte_ne_tagI (by omega) (by simp)
  have hport : tagI ≠ port.portNum.toUInt8 := by cases port <;> decide
  rw [fprimeHead_eq]
  exact no_tag_in_head (hsize (by simp)) (hsize (by simp)) (hsize (by simp)) hlength hport

/-- The hub between two nodes, with the F' protocol on the streams. -/
def fprimeLink : HubLink where
  Fits := FprimeFits
  fits := inferInstance
  code := fprimeParser.toCode
  small x := by
    have hfits : x.val.2.length ≤ 1000 := x.property
    change (fprimePack x.val).length < 2 ^ 32
    rw [fprimePack_length]
    omega
  header x := ⟨fprimeHead x.val, _, fprimeHead_plain x.property, rfl⟩

/-- Node `false` connects to `true` and sends it the number 42. -/
def numberActs : List (SwarmAct Bool) :=
  ((connect 0x31 0x20202021).take 6).map (.client false) ++
    ((newClient baseID).take 4).map (.server true · (false, 0) fun _ => 0) ++
    ((connect 0x31 0x20202021).drop 6).map (.client false) ++
    ((newClient baseID).drop 4).map (.server true · (false, 0) fun _ => 0) ++
    [.setDestId false .simple 0x20202021, .setNum false 42 100 0 .success] ++
    List.replicate 7 (.client false (.send 0 { send := fun _ => { status := .success } })) ++
    (reads 0 5 { status := .success, bytes := fprimePack (.simple,
      idEntry baseID ++ idEntry 0x20202021 ++ bigEndian 42), size := 42 }).map
      (.server true · (false, 0) fun _ => 0)

def numberInit : Swarm Bool fprimeLink :=
  .init fprimeLink pairIDs fun _ => initAdjacencyMatrix fun _ => 0

def numberEnd : Swarm Bool fprimeLink :=
  (run (Swarm.step (fun _ => true) fun _ _ => some true) numberInit numberActs).get
    (by decide +kernel)

theorem messages_arrive_number : numberEnd.received true = [.val1 42] ∧
    ∃ sent L, Sent numberEnd sent ∧ Arrives pairIDs numberEnd true sent L := by
  obtain ⟨sent, hsent, h⟩ := messages_arrive (fun _ => true) (fun _ _ => some true) fprimeLink
    pairIDs (by decide) _ numberActs numberEnd (Option.some_get (by decide +kernel)).symm
    (by decide +kernel)
  obtain ⟨L, hL⟩ := h true (takeTurns_of_source 0 (by decide +kernel))
  exact ⟨by decide +kernel, sent, L, hsent, hL⟩

end fprime

end MeshNetwork.Network
