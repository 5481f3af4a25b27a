import MeshNetwork.Node.Endpoints
import Mathlib.Data.List.GetD

namespace MeshNetwork.Node

open Driver

section strings

variable {s t array : List UInt8}

/-- Strings that agree on the first `n` characters, their padding included. -/
theorem take_eq_iff (hs : 0 ∉ s) (ht : 0 ∉ t) (n : Nat) :
    (∀ k < n, s.getD k 0 = t.getD k 0) ↔ s.take n = t.take n := by
  induction n generalizing s t with
  | zero => simp
  | succ n ih =>
    cases s with
    | nil =>
      cases t with
      | nil => simp
      | cons y t =>
        refine iff_of_false ?_ (by simp)
        intro h
        have hy : 0 = y := h 0 (by omega)
        exact ht (by simp [hy])
    | cons x s =>
      cases t with
      | nil =>
        refine iff_of_false ?_ (by simp)
        intro h
        have hx : x = 0 := h 0 (by omega)
        exact hs (by simp [hx])
      | cons y t =>
        have htail := ih (s := s) (t := t) (by simp_all) (by simp_all)
        rw [List.take_succ_cons, List.take_succ_cons, List.cons.injEq, ← htail]
        constructor
        · intro h
          exact ⟨h 0 (by omega), fun k hk => h (k + 1) (by omega)⟩
        · intro h k hk
          cases k with
          | zero => exact h.1
          | succ k => exact h.2 k (by omega)

theorem zero_notMem_cString (array : List UInt8) : 0 ∉ cString array := by
  intro h
  simpa using List.mem_takeWhile_imp h

/-- What the window of compareHost tells of a string `t` and a string in an array. A string that
ends inside the window is recognised as a whole, if zeros follow it; of a longer one it sees the
first characters. -/
theorem window_iff (ht : 0 ∉ t) (w : Nat) : (∀ k < w, array.getD k 0 = t.getD k 0) ↔
    if (cString array).length < w then
      t = cString array ∧ ∀ k < w, (cString array).length < k → array.getD k 0 = 0
    else t.take w = (cString array).take w := by
  have hs := zero_notMem_cString array
  split_ifs with hlen
  · constructor
    · intro h
      have hprefix : (cString array).take ((cString array).length + 1) =
          t.take ((cString array).length + 1) := by
        refine (take_eq_iff hs ht _).mp ?_
        intro k hk
        rw [← getD_cString (by omega)]
        exact h k (by omega)
      have hshort : t.length ≤ (cString array).length := by
        have hl := congrArg List.length hprefix
        simp only [List.length_take] at hl
        omega
      have heq : t = cString array := by
        rw [List.take_of_length_le (by omega), List.take_of_length_le (by omega)] at hprefix
        exact hprefix.symm
      refine ⟨heq, ?_⟩
      intro k hk hbehind
      rw [h k hk, heq]
      exact List.getD_eq_default _ _ (by omega)
    · intro h k hk
      obtain ⟨rfl, hzero⟩ := h
      by_cases hbehind : (cString array).length < k
      · rw [hzero k hk hbehind, List.getD_eq_default _ _ (by omega)]
      · exact getD_cString (by omega)
  · rw [← take_eq_iff ht hs]
    constructor
    · intro h k hk
      rw [← h k hk, getD_cString (by omega)]
    · intro h k hk
      rw [h k hk, getD_cString (by omega)]

end strings

/-- The pool after setHost has given each slot the string in an array and a port. -/
def setHosts (p : ClientSide) (hosts : Fin maxClients → List UInt8)
    (ports : Fin maxClients → UInt16) : ClientSide :=
  { p with manager := { p.manager with
      sockets := fun i => (p.manager.sockets i).setHost (cString (hosts i)) (ports i) } }

theorem setPeer_hostname (p : ClientSide) (i j : Fin maxClients) (s : PeerSocket) :
    ((p.setPeer i s).manager.sockets j).hostname = (p.manager.sockets j).hostname := by
  by_cases hij : j = i
  · rw [hij, setPeer_self]
  · rw [setPeer_ne _ _ _ hij]

theorem OpenEffect.hostname {addressToIp4 : List UInt8 → Bool} {env : OpenEnv} {o o' : Opener}
    {p p' : ClientSide} (h : OpenEffect addressToIp4 env o p o' p') (i : Fin maxClients) :
    (p'.manager.sockets i).hostname = (p.manager.sockets i).hostname ∨
      (p'.manager.sockets i).hostname = cString o.hostname_s := by
  cases h with
  | setHost j _ =>
    by_cases hij : i = j
    · subst hij
      exact .inr (by simp [ClientSide.setSocket, MultiTcpClientSocket.setHost])
    · exact .inl (by simp [ClientSide.setSocket, hij])
  | closed j _ =>
    by_cases hij : i = j
    · subst hij
      exact .inl (by simp [MultiTcpClientSocket.close])
    · exact .inl (by simp [hij])
  | _ =>
    left
    first
    | rfl
    | exact setPeer_hostname ..

theorem SendEffect.hostname {env : SendEnv} {op : SendOp} {p p' : ClientSide}
    (h : SendEffect env op p p') (i : Fin maxClients) :
    (p'.manager.sockets i).hostname = (p.manager.sockets i).hostname := by
  cases h with
  | closed j _ =>
    by_cases hij : i = j
    · subst hij
      simp [MultiTcpClientSocket.close]
    · simp [hij]
  | reset j => exact setPeer_hostname ..
  | _ => rfl

theorem cString_cString (array : List UInt8) : cString (cString array) = cString array :=
  List.takeWhile_idem ..

theorem hostnames_step {addressToIp4 : List UInt8 → Bool} {s t : Outbound} {act : OutboundAct}
    (h : ∀ i, cString (s.side.manager.sockets i).hostname = (s.side.manager.sockets i).hostname)
    (hs : s.step addressToIp4 act = some t) (i : Fin maxClients) :
    cString (t.side.manager.sockets i).hostname = (t.side.manager.sockets i).hostname := by
  cases Outbound.step_effect addressToIp4 hs with
  | openTask env _ he =>
    rcases OpenEffect.hostname he i with hi | hi
    · rw [hi, h i]
    · rw [hi, cString_cString]
  | sendHandler k unset b _ _ hp =>
    rw [hp]
    exact h i
  | send k env op c _ _ _ he =>
    rw [SendEffect.hostname he i]
    exact h i
  | stop _ _ hp =>
    rw [hp]
    exact h i
  | closeAll _ _ hp =>
    rw [hp]
    exact h i

/-- In every state that a node reaches the pool is one that setHost has left. -/
theorem setHosts_reached (addressToIp4 : List UInt8 → Bool) (deviceID : UInt32)
    (adjM : Nat → UInt8) (idProtocol : Bool) (acts : List OutboundAct) (t : Outbound)
    (hrun : run (Outbound.step addressToIp4) (.init deviceID adjM idProtocol) acts = some t) :
    setHosts t.side (fun i => (t.side.manager.sockets i).hostname)
      (fun i => (t.side.manager.sockets i).port) = t.side := by
  have h : ∀ i, cString (t.side.manager.sockets i).hostname =
      (t.side.manager.sockets i).hostname :=
    run_invariant_all (I := fun s : Outbound => ∀ i, cString (s.side.manager.sockets i).hostname =
      (s.side.manager.sockets i).hostname) (fun _ _ _ hi hs => hostnames_step hi hs)
      (fun _ => rfl) hrun
  simp only [setHosts, MultiTcpClientSocket.setHost, h]

/-- A string of fewer than eight characters has no socket or zeros behind it; for a longer one there
is a socket, or none on this port whose host begins with the same eight characters. -/
def WindowSuffices (p : ClientSide) (host : List UInt8) (port : UInt16) : Prop :=
  if (cString host).length < MultiTcpClientSocket.sizeofPointer then
    (∃ i, OpenFor p i (cString host) port) →
      ∀ k < MultiTcpClientSocket.sizeofPointer, (cString host).length < k → host.getD k 0 = 0
  else
    (∃ i, OpenFor p i (cString host) port) ∨
      ∀ i hostname, OpenFor p i hostname port →
        hostname.take MultiTcpClientSocket.sizeofPointer ≠
          (cString host).take MultiTcpClientSocket.sizeofPointer

theorem checkIfAlreadyConnectedHost_iff (m : TcpClientManager) (host : List UInt8)
    (port : UInt16) : m.checkIfAlreadyConnectedHost host port = true ↔
      ∃ i, (m.sockets i).isOpened = true ∧ port = (m.sockets i).port ∧
        ∀ k < MultiTcpClientSocket.sizeofPointer,
          host.getD k 0 = (m.sockets i).hostname.getD k 0 := by
  simp [TcpClientManager.checkIfAlreadyConnectedHost, MultiTcpClientSocket.compareHost, and_comm]

/-- The comparison of endpoints is exact if and only if the window suffices, whatever hosts and
ports the slots have been configured with. -/
theorem endpoint_comparison (p : ClientSide) (hosts : Fin maxClients → List UInt8)
    (ports : Fin maxClients → UInt16) (host : List UInt8) (port : UInt16) :
    ((setHosts p hosts ports).manager.checkIfAlreadyConnectedHost host port = true ↔
        ∃ i, OpenFor (setHosts p hosts ports) i (cString host) port) ↔
      WindowSuffices (setHosts p hosts ports) host port := by
  have hstring (i : Fin maxClients) : 0 ∉ ((setHosts p hosts ports).manager.sockets i).hostname :=
    zero_notMem_cString (hosts i)
  generalize setHosts p hosts ports = q at hstring
  rw [checkIfAlreadyConnectedHost_iff, WindowSuffices]
  simp only [window_iff (hstring _)]
  split_ifs with hlen
  · constructor
    · intro h hopen
      obtain ⟨i, -, -, -, hzero⟩ := h.mpr hopen
      exact hzero
    · intro h
      constructor
      · intro hfound
        obtain ⟨i, hi, hport, heq, -⟩ := hfound
        exact ⟨i, hi, heq, hport.symm⟩
      · intro hopen
        have hzero := h hopen
        obtain ⟨i, hi, heq, hport⟩ := hopen
        exact ⟨i, hi, hport.symm, heq, hzero⟩
  · constructor
    · intro h
      by_cases hopen : ∃ i, OpenFor q i (cString host) port
      · exact .inl hopen
      · right
        intro i hostname hi heq
        exact hopen (h.mp ⟨i, hi.1, hi.2.2.symm, by rw [hi.2.1, heq]⟩)
    · intro h
      constructor
      · intro hfound
        obtain ⟨i, hi, hport, heq⟩ := hfound
        rcases h with hopen | hnone
        · exact hopen
        · exact absurd heq (hnone i _ ⟨hi, rfl, hport.symm⟩)
      · intro hopen
        obtain ⟨i, hi, heq, hport⟩ := hopen
        exact ⟨i, hi, hport.symm, by rw [heq]⟩

/-- 10.0.0.12:80 is connected, and 10.0.0.1:80 is taken for it. -/
theorem endpoint_comparison_fails : ¬∀ (p : ClientSide) (hosts : Fin maxClients → List UInt8)
    (ports : Fin maxClients → UInt16) (host : List UInt8) (port : UInt16),
    (setHosts p hosts ports).manager.checkIfAlreadyConnectedHost host port = true ↔
      ∃ i, OpenFor (setHosts p hosts ports) i (cString host) port := by
  intro h
  have hfound := (h { deviceID := baseID, manager := ⟨fun _ => { fd := some 0 }⟩ }
    (fun _ => [0x31, 0x30, 0x2E, 0x30, 0x2E, 0x30, 0x2E, 0x31, 0x32]) (fun _ => 80)
    [0x31, 0x30, 0x2E, 0x30, 0x2E, 0x30, 0x2E, 0x31] 80).mp (by decide)
  obtain ⟨i, -, hhost, -⟩ := hfound
  exact absurd hhost (by simp [setHosts, MultiTcpClientSocket.setHost, cString])

end MeshNetwork.Node
