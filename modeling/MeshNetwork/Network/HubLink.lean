import MeshNetwork.Framework.Packets
import MeshNetwork.Framing.RoundTrip
import MeshNetwork.Network.Outbox
import MeshNetwork.Node.Addressing
import MeshNetwork.Positioning.Distance

namespace MeshNetwork.Network

open Driver Framing Node Positioning

/-- The ports of the hub between two nodes: swarmFramer is on port 1 and swarmFramerGPS on port 2,
and so are the deframers. -/
inductive HubPort where
  | simple
  | gps
  deriving DecidableEq, Repr

def HubPort.portNum : HubPort → UInt32
  | .simple => 1
  | .gps => 2

/-- What the components above the swarm framers tell each other: a SimplePort carries an F32, here
by its bits, and an ecPort a position. -/
inductive AppData where
  | val1 (bits : UInt32)
  | position (position : EcPos)
  deriving DecidableEq, Repr

namespace AppData

def port : AppData → HubPort
  | .val1 _ => .simple
  | .position _ => .gps

/-- The serialized arguments of the port call. -/
def serialize : AppData → List UInt8
  | .val1 bits => bigEndian bits
  | .position p =>
    bigEndian p.x.toUInt32 ++ bigEndian p.y.toUInt32 ++ bigEndian p.z.toUInt32

/-- A port call from serialized arguments; bytes behind them are not looked at. -/
def deserialize : HubPort → List UInt8 → Option AppData
  | .simple, a :: b :: c :: e :: _ => some (.val1 (ofBigEndian a b c e))
  | .gps, a :: b :: c :: e :: f :: g :: h :: i :: j :: k :: l :: m :: _ =>
    some (.position ⟨(ofBigEndian a b c e).toInt32, (ofBigEndian f g h i).toInt32,
      (ofBigEndian j k l m).toInt32⟩)
  | _, _ => none

theorem deserialize_serialize (data : AppData) :
    deserialize data.port data.serialize = some data := by
  cases data with
  | val1 bits => simp [port, serialize, deserialize, bigEndian, ofBigEndian_bigEndian]
  | position p => simp [port, serialize, deserialize, bigEndian, ofBigEndian_bigEndian]

end AppData

/-- What lies between the swarm framers and the drivers: GenericHub with downlinkP packs what a port
of the hub has been given, and uplinkP with GenericHub unpacks it. What does not fit into their
buffers makes them assert. -/
structure HubLink where
  Fits : HubPort × List UInt8 → Prop
  fits : DecidablePred Fits
  code : PacketCode {x // Fits x} UInt8
  small : ∀ x, (code.pack x).length < 2 ^ 32
  header : ∀ x, ∃ pre post, ¬[tagI, tagD] <:+: pre ∧ code.pack x = pre ++ x.val.2 ++ post

namespace HubLink

variable (link : HubLink)

abbrev Packet := {x // link.Fits x}

instance : DecidablePred link.Fits := link.fits

/-- A message from a component of one node, as the driver of that node gets it. -/
structure Message where
  source : UInt32
  dest : UInt32
  data : AppData
  packet : link.Packet
  holds : packet.val = (data.port, idEntry source ++ idEntry dest ++ data.serialize)

def dispatch : Dispatch link.Message link.Packet := ⟨link.code, Message.packet, Message.dest⟩

/-- What a swarm deframer does with the frame that the hub hands it. -/
def framedIn (x : link.Packet) : List DeframerOp := SwarmDeframer.framedIn (.ofBytes x.val.2)

/-- The port calls that come out of a packet. -/
def deframed (x : link.Packet) : List AppData :=
  ((link.framedIn x).filterMap (SwarmDeframer.presented (.ofBytes x.val.2))).filterMap
    (AppData.deserialize x.val.1)

/-- The source nodes that are reported for a packet. -/
def reported (x : link.Packet) : List UInt32 := (link.framedIn x).filterMap SwarmDeframer.reported

variable {link}

/-- send_handler finds the receiver of a message, as long as no tag hides in the ID of the
source. -/
theorem headerScan_message {m : link.Message} (hplain : ¬[tagI, tagD] <:+: bigEndian m.source)
    {b : FwBuffer} (hb : b.Holds (link.dispatch.bytes m)) : (headerScan b).receiverID = m.dest := by
  obtain ⟨pre, post, hpre, hpack⟩ := link.header m.packet
  rw [m.holds] at hpack
  rw [Dispatch.bytes, dispatch, hpack] at hb
  rw [headerScan_frame hpre hb]
  exact (scannedDest_eq_iff m.source m.dest).mpr (.inl hplain)

/-- A swarm frame gives its payload and its source. -/
theorem framedIn_holds {b : FwBuffer} {s d : UInt32} {p : List UInt8}
    (hb : b.Holds (idEntry s ++ idEntry d ++ p)) :
    (SwarmDeframer.framedIn b).filterMap (SwarmDeframer.presented b) = [p] ∧
      (SwarmDeframer.framedIn b).filterMap SwarmDeframer.reported = [s] := by
  obtain ⟨hframe, hsource, hsize, hpayload⟩ := holds_frame hb
  have hops := SwarmDeframer.framedIn_accepted hframe.source.1 hframe.dest.1 hframe.source.2
    hframe.dest.2
  have hbytes : (List.range (b.size - 12).toNat).map (fun k => b.data (12 + k)) = p := by
    refine List.ext_getElem (by simp [hsize]) ?_
    intro k _ hk
    simp [hpayload k hk]
  rw [hops, hsource]
  constructor
  · simp [List.filterMap_cons, SwarmDeframer.presented, hbytes]
  · simp [List.filterMap_cons, SwarmDeframer.reported]

/-- The other end gets the data and the source of a message. -/
theorem deframed_message (m : link.Message) :
    link.deframed m.packet = [m.data] ∧ link.reported m.packet = [m.source] := by
  have hlen : (idEntry m.source ++ idEntry m.dest ++ m.data.serialize).length < 2 ^ 32 := by
    cases m.data <;> simp [AppData.serialize, bigEndian]
  obtain ⟨hpresented, hreported⟩ := framedIn_holds (FwBuffer.holds_ofBytes hlen)
  constructor
  · simp only [deframed, framedIn, m.holds, hpresented]
    simp [AppData.deserialize_serialize]
  · simp only [reported, framedIn, m.holds, hreported]

theorem idEntry_injective : Function.Injective idEntry := by
  intro ID ID' h
  simp only [idEntry_eq, bigEndian, List.cons.injEq, true_and, and_true] at h
  obtain ⟨h₀, h₁, h₂, h₃⟩ := h
  rw [← ofBigEndian_bigEndian ID, h₀, h₁, h₂, h₃, ofBigEndian_bigEndian]

/-- A packet is of one message only. -/
theorem packet_injective : Function.Injective fun m : link.Message => m.packet := by
  intro m m' h
  simp only at h
  obtain ⟨hdata, hsource⟩ := deframed_message m
  obtain ⟨hdata', hsource'⟩ := deframed_message m'
  rw [h] at hdata hsource
  have hsame : m.data = m'.data := List.head_eq_of_cons_eq (hdata.symm.trans hdata')
  have hsame' : m.source = m'.source := List.head_eq_of_cons_eq (hsource.symm.trans hsource')
  have hframe := congrArg (fun x => x.val.2) h
  simp only [m.holds, m'.holds, hsame, hsame'] at hframe
  have hdest := idEntry_injective (List.append_cancel_left (List.append_cancel_right hframe))
  obtain ⟨source, dest, data, packet, holds⟩ := m
  obtain ⟨source', dest', data', packet', holds'⟩ := m'
  dsimp only at h hsame hsame' hdest
  subst h hsame hsame' hdest
  rfl

end HubLink

end MeshNetwork.Network
