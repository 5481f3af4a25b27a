import MeshNetwork.Framework.Runs
import MeshNetwork.Protocol

namespace MeshNetwork.Framing

/-- `serialize` with the no-length flag into a buffer of `cap` bytes that holds `buf` so far;
no room is the status on which the caller asserts. -/
def serialize (cap : Nat) (buf data : List UInt8) : Option (List UInt8) :=
  if buf.length + data.length ≤ cap then some (buf ++ data) else none

theorem serialize_eq_some {cap : Nat} {buf data out : List UInt8}
    (h : serialize cap buf data = some out) :
    out = buf ++ data ∧ buf.length + data.length ≤ cap := by
  unfold serialize at h
  split_ifs at h with hc
  exact ⟨(Option.some.inj h).symm, hc⟩

structure SwarmFramer where
  nodeSourceId : UInt32
  nodeDestId : UInt32
  deriving DecidableEq, Repr

namespace SwarmFramer

/-- The constructor, then `setSourceId`. -/
def init (sourceId : UInt32) : SwarmFramer := ⟨sourceId, broadcastID⟩

/-- `frame`: the two ID entries and the data, in an allocated buffer of `cap` bytes. The
buffer is handed out with the size `size + 12` of the wrapping 32-bit sum. -/
def frame (f : SwarmFramer) (data : List UInt8) (cap : UInt32) : Option (List UInt8) := do
  let totalSize := UInt32.ofNat data.length + 12
  let buf ← serialize cap.toNat [] (idEntry f.nodeSourceId)
  let buf ← serialize cap.toNat buf (idEntry f.nodeDestId)
  let buf ← serialize cap.toNat buf data
  return buf.take totalSize.toNat

/-- A frame that is handed out at all is header and data, whole: the buffer has room for
both, so the 32-bit sum has not wrapped. -/
theorem frame_eq {f : SwarmFramer} {data out : List UInt8} {cap : UInt32}
    (h : f.frame data cap = some out) :
    out = idEntry f.nodeSourceId ++ idEntry f.nodeDestId ++ data := by
  unfold frame at h
  obtain ⟨b₁, h₁, h⟩ := Option.bind_eq_some_iff.mp h
  obtain ⟨b₂, h₂, h⟩ := Option.bind_eq_some_iff.mp h
  obtain ⟨b₃, h₃, h⟩ := Option.bind_eq_some_iff.mp h
  obtain ⟨e₁, -⟩ := serialize_eq_some h₁
  obtain ⟨e₂, -⟩ := serialize_eq_some h₂
  obtain ⟨e₃, room⟩ := serialize_eq_some h₃
  have hb : b₂.length = 12 := by simp [e₂, e₁]
  have hcap := cap.toNat_lt
  have hsize : (UInt32.ofNat data.length + 12).toNat = b₃.length := by
    rw [UInt32.toNat_add, UInt32.toNat_ofNat', e₃, List.length_append, hb]
    change (data.length % 2 ^ 32 + 12) % 2 ^ 32 = _
    omega
  have ho : b₃.take (UInt32.ofNat data.length + 12).toNat = out := Option.some.inj h
  rw [← ho, hsize, List.take_length, e₃, e₂, e₁, List.nil_append]

end SwarmFramer

/-- The calls on a SwarmFramer; the ports that frame carry the payload and the size of the
buffer that framedAllocate returns. -/
inductive FramerCall where
  | setDestId (destId : UInt32)
  | portIn (data : List UInt8) (cap : UInt32)
  | bufferIn (data : List UInt8) (cap : UInt32)
  deriving DecidableEq, Repr

/-- The component with what it has passed to framedOut and to bufferDeallocate. -/
structure FramerState where
  framer : SwarmFramer
  framedOut : List (List UInt8) := []
  bufferDeallocate : List (List UInt8) := []
  deriving DecidableEq, Repr

namespace FramerState

def emit (s : FramerState) (data : List UInt8) (cap : UInt32) : Option FramerState :=
  (s.framer.frame data cap).map fun f => { s with framedOut := s.framedOut ++ [f] }

/-- One guarded call; `none` is a failed assertion in `frame`. -/
def step (s : FramerState) : FramerCall → Option FramerState
  | .setDestId destId => some { s with framer := { s.framer with nodeDestId := destId } }
  | .portIn data cap => s.emit data cap
  | .bufferIn data cap =>
      (s.emit data cap).map fun t => { t with bufferDeallocate := t.bufferDeallocate ++ [data] }

end FramerState

/-- The argument of the latest SET_DESTID, starting from `d`. -/
def latestDest (d : UInt32) : List FramerCall → UInt32
  | [] => d
  | .setDestId destId :: cs => latestDest destId cs
  | _ :: cs => latestDest d cs

namespace FramerState

theorem step_framer {s t : FramerState} {c : FramerCall} (h : s.step c = some t) :
    t.framer = { s.framer with nodeDestId := latestDest s.framer.nodeDestId [c] } := by
  cases c with
  | setDestId d => exact Option.some.inj h ▸ rfl
  | portIn data cap =>
    obtain ⟨f, -, rfl⟩ := Option.map_eq_some_iff.mp h
    rfl
  | bufferIn data cap =>
    obtain ⟨u, hu, rfl⟩ := Option.map_eq_some_iff.mp h
    obtain ⟨f, -, rfl⟩ := Option.map_eq_some_iff.mp hu
    rfl

/-- Along every run the source stays and the destination is that of the latest command. -/
theorem run_framer {s t : FramerState} {cs : List FramerCall} (h : run step s cs = some t) :
    t.framer = ⟨s.framer.nodeSourceId, latestDest s.framer.nodeDestId cs⟩ := by
  induction cs generalizing s with
  | nil => exact Option.some.inj h ▸ rfl
  | cons c cs ih =>
    obtain ⟨u, hu, hrest⟩ := Option.bind_eq_some_iff.mp h
    have hs := step_framer hu
    rw [ih hrest, hs]
    cases c <;> rfl

/-- A frame that a call adds to framedOut carries the header of the state before the call. -/
theorem step_emits {s t : FramerState} {c : FramerCall} {f : List UInt8}
    (h : s.step c = some t) (hf : t.framedOut = s.framedOut ++ [f]) :
    ∃ data, f = idEntry s.framer.nodeSourceId ++ idEntry s.framer.nodeDestId ++ data := by
  have emits {data : List UInt8} {cap : UInt32} {u : FramerState}
      (hu : s.emit data cap = some u) (ho : u.framedOut = s.framedOut ++ [f]) :
      f = idEntry s.framer.nodeSourceId ++ idEntry s.framer.nodeDestId ++ data := by
    obtain ⟨g, hg, rfl⟩ := Option.map_eq_some_iff.mp hu
    have e : g = f := by simpa using ho
    rw [← e, SwarmFramer.frame_eq hg]
  cases c with
  | setDestId d =>
    obtain rfl := Option.some.inj h
    simp at hf
  | portIn data cap => exact ⟨data, emits h hf⟩
  | bufferIn data cap =>
    obtain ⟨u, hu, rfl⟩ := Option.map_eq_some_iff.mp h
    exact ⟨data, emits hu hf⟩

end FramerState

end MeshNetwork.Framing
