import MeshNetwork.Driver.Sockets
import Mathlib.Data.Fin.Tuple.Basic

namespace MeshNetwork.Driver

/-- `TcpClientManager`: the pool of outgoing sockets. -/
structure TcpClientManager where
  sockets : Fin maxClients → MultiTcpClientSocket := fun _ => {}

namespace TcpClientManager

/-- Work on one socket through the reference that getSocketHandler returns. -/
def set (m : TcpClientManager) (i : Fin maxClients) (s : MultiTcpClientSocket) :
    TcpClientManager :=
  { m with sockets := Function.update m.sockets i s }

@[simp] theorem set_self (m : TcpClientManager) (i : Fin maxClients) (s : MultiTcpClientSocket) :
    (m.set i s).sockets i = s := Function.update_self ..

@[simp] theorem set_ne (m : TcpClientManager) (s : MultiTcpClientSocket) {i j : Fin maxClients}
    (h : j ≠ i) : (m.set i s).sockets j = m.sockets j := Function.update_of_ne h ..

def closeAll (m : TcpClientManager) : TcpClientManager :=
  { m with sockets := fun i => (m.sockets i).close }

def close (m : TcpClientManager) (i : Fin maxClients) : TcpClientManager :=
  m.set i (m.sockets i).close

/-- `getFreeSocketIndex`: the lowest closed slot; -1 is `none`. -/
def getFreeSocketIndex (m : TcpClientManager) : Option (Fin maxClients) :=
  Fin.find? fun i => !(m.sockets i).isOpened

/-- `getSocketHandlerByID`: the first slot that stores the ID, open or not, and slot 0 when there
is none. ID 0 fails the assertion. -/
def getSocketHandlerByID (m : TcpClientManager) (deviceID : UInt32) : Option (Fin maxClients) :=
  if deviceID = 0 then none
  else some ((Fin.find? fun i => (m.sockets i).getServerDeviceID == deviceID).getD 0)

/-- `checkIfAlreadyConnected(device_id)`: an open slot stores the ID. -/
def checkIfAlreadyConnected (m : TcpClientManager) (deviceID : UInt32) : Bool :=
  (List.finRange maxClients).any fun i =>
    (m.sockets i).isOpened && (m.sockets i).getServerDeviceID == deviceID

/-- `checkIfAlreadyConnected(hostname, port)`. -/
def checkIfAlreadyConnectedHost (m : TcpClientManager) (hostname : List UInt8) (port : UInt16) :
    Bool :=
  (List.finRange maxClients).any fun i =>
    (m.sockets i).isOpened && (m.sockets i).compareHost hostname port

theorem getFreeSocketIndex_spec {m : TcpClientManager} {i : Fin maxClients}
    (h : m.getFreeSocketIndex = some i) :
    (m.sockets i).isOpened = false ∧ ∀ j < i, (m.sockets j).isOpened = true := by
  obtain ⟨hi, hlt⟩ := Fin.find?_eq_some_iff.mp h
  exact ⟨by simpa using hi, fun j hj => by simpa using hlt j hj⟩

theorem checkIfAlreadyConnected_iff (m : TcpClientManager) (deviceID : UInt32) :
    m.checkIfAlreadyConnected deviceID = true ↔
      ∃ i, (m.sockets i).isOpened = true ∧ (m.sockets i).deviceID = deviceID := by
  simp [checkIfAlreadyConnected, MultiTcpClientSocket.getServerDeviceID]

/-- If some slot stores the ID, the lookup finds the first such slot. -/
theorem getSocketHandlerByID_spec {m : TcpClientManager} {deviceID : UInt32}
    {i : Fin maxClients} (h : m.getSocketHandlerByID deviceID = some i) {k : Fin maxClients}
    (hk : (m.sockets k).deviceID = deviceID) :
    (m.sockets i).deviceID = deviceID ∧ i ≤ k := by
  unfold getSocketHandlerByID at h
  split_ifs at h with h0
  cases hf : Fin.find? fun i => (m.sockets i).getServerDeviceID == deviceID with
  | none =>
    have hn := Fin.find?_eq_none_iff.mp hf k
    simp [MultiTcpClientSocket.getServerDeviceID, hk] at hn
  | some j =>
    rw [hf] at h
    obtain rfl : j = i := Option.some.inj h
    obtain ⟨hj, hlt⟩ := Fin.find?_eq_some_iff.mp hf
    refine ⟨by simpa [MultiTcpClientSocket.getServerDeviceID] using hj, ?_⟩
    by_contra hgt
    have hn := hlt k (not_le.mp hgt)
    simp [MultiTcpClientSocket.getServerDeviceID, hk] at hn

end TcpClientManager

end MeshNetwork.Driver
