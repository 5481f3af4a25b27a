import MeshNetwork.Driver.Sockets
import Mathlib.Data.Fin.Tuple.Basic

namespace MeshNetwork.Driver

/-- `MultiTcpServerManager`: the pool of accepted sockets and the counter beside it. -/
structure MultiTcpServerManager where
  sockets : Fin maxClients → MultiTcpServerSocket := fun _ => {}
  currentClientConnections : Nat := 0
  baseFd : Int := -1

namespace MultiTcpServerManager

def set (m : MultiTcpServerManager) (i : Fin maxClients) (s : MultiTcpServerSocket) :
    MultiTcpServerManager :=
  { m with sockets := Function.update m.sockets i s }

/-- A slot with the base part of its socket exchanged. -/
def setPeer (m : MultiTcpServerManager) (i : Fin maxClients) (s : PeerSocket) :
    MultiTcpServerManager :=
  m.set i { m.sockets i with toPeerSocket := s }

def getNConnected (m : MultiTcpServerManager) : Nat := m.currentClientConnections

/-- The slot that `open` takes. -/
def firstClosed (m : MultiTcpServerManager) : Option (Fin maxClients) :=
  Fin.find? fun i => !(m.sockets i).isOpened

/-- `open`: with activity on the listener, the lowest closed slot accepts the client. The answer has
the status and the index written back, if one was. -/
def openClient (m : MultiTcpServerManager) (activity : Bool) (c : Conn)
    (accepted : SocketIpStatus) :
    SocketIpStatus × Option (Fin maxClients) × MultiTcpServerManager :=
  if activity then
    match m.firstClosed with
    | none => (.failedToAccept, none, m)
    | some i =>
      let (status, s) := (m.sockets i).openSocket c accepted
      let m := m.set i s
      (status, some i, if status = .success then
        { m with currentClientConnections := m.currentClientConnections + 1 } else m)
  else (.failedToAccept, none, m)

def closeAll (m : MultiTcpServerManager) : MultiTcpServerManager :=
  { m with
    sockets := fun i => (m.sockets i).close
    currentClientConnections := 0 }

/-- `close`: the counter stops at 0. -/
def close (m : MultiTcpServerManager) (i : Fin maxClients) : MultiTcpServerManager :=
  { m.set i (m.sockets i).close with
    currentClientConnections := m.currentClientConnections - 1 }

def shutdown (m : MultiTcpServerManager) : MultiTcpServerManager :=
  { m with baseFd := -1 }.closeAll

section slots

variable (m : MultiTcpServerManager) (i : Fin maxClients) (s : PeerSocket)

@[simp] theorem setPeer_self :
    (m.setPeer i s).sockets i = { m.sockets i with toPeerSocket := s } := Function.update_self ..

@[simp] theorem setPeer_ne {j : Fin maxClients} (h : j ≠ i) :
    (m.setPeer i s).sockets j = m.sockets j := Function.update_of_ne h ..

@[simp] theorem setPeer_count :
    (m.setPeer i s).currentClientConnections = m.currentClientConnections := rfl

@[simp] theorem close_self : (m.close i).sockets i = (m.sockets i).close := Function.update_self ..

@[simp] theorem close_ne {j : Fin maxClients} (h : j ≠ i) :
    (m.close i).sockets j = m.sockets j := Function.update_of_ne h ..

@[simp] theorem close_count :
    (m.close i).currentClientConnections = m.currentClientConnections - 1 := rfl

theorem setPeer_same : m.setPeer i (m.sockets i).toPeerSocket = m := by
  rw [setPeer, set, Function.update_eq_self]

/-- Closing a slot opens none. -/
theorem baseClose_fd {m : MultiTcpServerManager} {i j : Fin maxClients} {d : Conn}
    (h : ((m.setPeer i (m.sockets i).baseClose).sockets j).fd = some d) :
    (m.sockets j).fd = some d := by
  by_cases hj : j = i
  · rw [hj, setPeer_self] at h
    cases h
  · rwa [setPeer_ne _ _ _ hj] at h

theorem close_fd {m : MultiTcpServerManager} {i j : Fin maxClients} {d : Conn}
    (h : ((m.close i).sockets j).fd = some d) : (m.sockets j).fd = some d := by
  by_cases hj : j = i
  · rw [hj, close_self] at h
    cases h
  · rwa [close_ne _ _ hj] at h

end slots

/-- Every outcome of `open`: a new connection on the lowest closed slot, counted, or nothing. -/
theorem openClient_cases (m : MultiTcpServerManager) (activity : Bool) (c : Conn)
    (accepted : SocketIpStatus) :
    (∃ i, (activity = true ∧ accepted = .success ∧ m.firstClosed = some i) ∧
      m.openClient activity c accepted = (.success, some i,
        { m.setPeer i ⟨some c, (m.sockets i).deviceID⟩ with
          currentClientConnections := m.currentClientConnections + 1 })) ∨
      ∃ status i, status ≠ .success ∧ m.openClient activity c accepted = (status, i, m) := by
  unfold openClient
  cases activity with
  | false => exact .inr ⟨_, _, by decide, rfl⟩
  | true =>
    cases hi : m.firstClosed with
    | none => exact .inr ⟨_, _, by decide, rfl⟩
    | some i =>
      by_cases ha : accepted = .success
      · refine .inl ⟨i, ⟨rfl, ha, rfl⟩, ?_⟩
        simp [MultiTcpServerSocket.openSocket, ha, setPeer, set]
      · have hclosed : (m.sockets i).isOpened = false := by
          simpa using (Fin.find?_eq_some_iff.mp hi).1
        refine .inr ⟨accepted, some i, ha, ?_⟩
        simp only [MultiTcpServerSocket.openSocket, if_true, if_neg ha,
          PeerSocket.baseClose_of_closed hclosed]
        exact congrArg (fun m' => (accepted, some i, m')) (setPeer_same m i)

theorem firstClosed_closed {m : MultiTcpServerManager} {i : Fin maxClients}
    (h : m.firstClosed = some i) : (m.sockets i).fd = none := by
  have hi := (Fin.find?_eq_some_iff.mp h).1
  simpa [PeerSocket.isOpened] using hi

end MultiTcpServerManager

end MeshNetwork.Driver
