import MeshNetwork.Node.ReceivedStream

namespace MeshNetwork.Node

open Driver

/-- No buffer is handed up with a size above the one that getBuffer gave it. -/
def SizesKept (s : Inbound) : Prop := ∀ r ∈ s.readers, ∀ h ∈ r.handed, h.size ≤ h.allocated

instance (s : Inbound) : Decidable (SizesKept s) :=
  inferInstanceAs (Decidable (∀ r ∈ s.readers, ∀ h ∈ r.handed, h.size ≤ h.allocated))

/-- recv is not interrupted until it gives up, or the buffer has the largest size of all. -/
def Uninterrupted : Inbound → InboundAct → Prop :=
  OnRecv fun r o => o.status = .interruptedTryAgain → r.allocated = 0xFFFFFFFF

instance (s : Inbound) (act : InboundAct) : Decidable (Uninterrupted s act) :=
  inferInstanceAs (Decidable (OnRecv _ s act))

/-- The sizes that a read task has handed up, and the one that it is about to hand up. -/
structure SizeInv (r : Reader) : Prop where
  handed : ∀ h ∈ r.handed, h.size ≤ h.allocated
  request : r.pc = .recv → r.size = Inbound.recvSize r.allocated
  closing : r.pc = .close → ¬Inbound.readOn r.status
  next : r.pc = .handUp → Inbound.readOn r.status → (Int32.ofInt r.size).toUInt32 ≤ r.allocated

/-- recv is asked for no more than the buffer has. -/
theorem recvSize_le (allocated : UInt32) : Inbound.recvSize allocated ≤ allocated.toNat := by
  rw [Inbound.recvSize, toInt_toInt32]
  split_ifs <;> omega

namespace SizeInv

theorem new {r : Reader} (hpc : r.pc = .starting) (hhanded : r.handed = []) : SizeInv r := by
  refine ⟨?_, ?_, ?_, ?_⟩ <;> simp [hpc, hhanded]

/-- A statement that hands up nothing, and is not followed by one that works on the size. -/
theorem aside {r r' : Reader} (h : SizeInv r) (hhanded : r'.handed = r.handed)
    (hpc : r'.pc ≠ .recv ∧ r'.pc ≠ .close ∧ r'.pc ≠ .handUp) : SizeInv r' := by
  refine ⟨?_, ?_, ?_, ?_⟩
  · rw [hhanded]
    exact h.handed
  · intro hp
    exact absurd hp hpc.1
  · intro hp
    exact absurd hp hpc.2.1
  · intro hp
    exact absurd hp hpc.2.2

/-- One more buffer of a fitting size. -/
theorem handUp {r : Reader} (h : SizeInv r) {u : HandedUp} (hu : u.size ≤ u.allocated) :
    SizeInv { r with handed := r.handed ++ [u], pc := .loop } := by
  refine ⟨?_, by simp, by simp, by simp⟩
  intro h' hh'
  rcases List.mem_append.mp hh' with hh' | hh'
  · exact h.handed h' hh'
  · obtain rfl := List.mem_singleton.mp hh'
    exact hu

/-- The count of a recv that did not give up fits, if it was not interrupted. -/
theorem received {r : Reader} {o : RecvOutcome} (h : SizeInv r) (hpc : r.pc = .recv)
    (hdoc : Documented r.size o)
    (hkept : o.status = .interruptedTryAgain → r.allocated = 0xFFFFFFFF)
    (hon : Inbound.readOn o.status) : (Int32.ofInt o.size).toUInt32 ≤ r.allocated := by
  rw [UInt32.le_iff_toNat_le]
  rcases hon with hs | hs
  · obtain ⟨hcount, -, hle⟩ := hdoc.success hs
    have hrequest := recvSize_le r.allocated
    rw [← h.request hpc] at hrequest
    rw [hcount, toNat_toUInt32_ofInt]
    omega
  · have hmax : r.allocated.toNat = 2 ^ 32 - 1 := by
      rw [hkept hs]
      rfl
    have hlt := (Int32.ofInt o.size).toUInt32.toNat_lt
    omega

theorem readStepAt {env : ReadEnv} {s : Inbound} {r : Reader} {i : Fin maxClients} (h : SizeInv r)
    (hrecv : r.pc = .recv → (s.manager.sockets i).isOpened = true → Documented r.size env.recv ∧
      (env.recv.status = .interruptedTryAgain → r.allocated = 0xFFFFFFFF)) :
    SizeInv (s.readStepAt env r i).1 := by
  unfold Inbound.readStepAt
  cases hpc : r.pc with
  | starting => exact h
  | ended => exact h
  | isOpened =>
    refine h.aside rfl ?_
    dsimp only
    split_ifs <;> simp
  | check =>
    dsimp only
    split_ifs
    · exact h.handUp (u := ⟨0, 0, [], false⟩) (UInt32.le_refl 0)
    · exact ⟨h.handed, fun _ => rfl, by simp, by simp⟩
    · exact h.aside rfl (by simp)
  | recv =>
    by_cases ho : (s.manager.sockets i).isOpened = true
    · obtain ⟨hdoc, hkept⟩ := hrecv hpc ho
      simp only [PeerSocket.recv_status, ho, if_true]
      by_cases hon : Inbound.readOn env.recv.status
      · rw [if_pos hon]
        exact ⟨h.handed, by simp, by simp, fun _ _ => h.received hpc hdoc hkept hon⟩
      · rw [if_neg hon]
        exact ⟨h.handed, by simp, fun _ => hon, by simp⟩
    · have hon : ¬Inbound.readOn .disconnected := by decide
      simp only [PeerSocket.recv_status, if_neg ho, if_neg hon]
      exact ⟨h.handed, by simp, fun _ => hon, by simp⟩
  | close =>
    have hs := h.closing hpc
    exact ⟨h.handed, by simp, by simp, fun _ hon => absurd hon hs⟩
  | handUp =>
    refine h.handUp ?_
    dsimp only
    split_ifs with hon
    · exact h.next hpc hon
    · exact UInt32.le_refl _
  | loop =>
    refine h.aside rfl ?_
    dsimp only
    split_ifs <;> simp
  | finalClose => exact h.aside rfl (by simp)

end SizeInv

/-- Buffer sizes. In every run in which no recv is interrupted until it gives up, no buffer goes
back larger than it came. -/
theorem buffer_sizes (deviceID : UInt32) (idProtocol : Bool) (acts : List InboundAct) (t : Inbound)
    (hrun : run Inbound.step { deviceID := deviceID, idProtocol := idProtocol } acts = some t)
    (hdoc : AllSteps Inbound.step RecvsDocumented
      { deviceID := deviceID, idProtocol := idProtocol } acts)
    (hkept : AllSteps Inbound.step Uninterrupted
      { deviceID := deviceID, idProtocol := idProtocol } acts) : SizesKept t := by
  have hrecvs : AllSteps Inbound.step (OnRecv fun r o => Documented r.size o ∧
      (o.status = .interruptedTryAgain → r.allocated = 0xFFFFFFFF))
      { deviceID := deviceID, idProtocol := idProtocol } acts := by
    refine allSteps_of_invariant (I := fun _ => True) (fun _ _ _ _ _ _ => trivial) ?_ trivial
      (hdoc.and hkept)
    intro s act _ hboth
    obtain ⟨hd, hk⟩ := hboth
    cases act with
    | readTask n env => exact fun r hr hpc i hi ho => ⟨hd r hr hpc i hi ho, hk r hr hpc i hi ho⟩
    | _ => trivial
  intro r hr
  obtain ⟨n, hn⟩ := List.getElem?_of_mem hr
  obtain ⟨events, hrecorded⟩ := exists_recordStep (readEvents n) hrun []
  have hinv : SizeInv r := by
    refine task_invariant (I := fun r _ => SizeInv r) (fun r => SizeInv.new) ?_ ?_ hrecorded
      hrecvs hn
    · intro r _ i h _
      exact h.aside rfl (by simp)
    · intro env s r i _ h hrecv
      exact h.readStepAt hrecv
  exact hinv.handed

/-- A recv of two bytes, and one that fails for good. -/
theorem buffer_sizes_two : SizesKept ((run Inbound.step { deviceID := baseID }
    (newClient 0x20202021 ++ reads 0 6 { status := .success, bytes := [7, 8], size := 2 } ++
      reads 0 5 { status := .disconnected, size := 0 })).get (by rfl)) :=
  buffer_sizes baseID true _ _ (Option.some_get _).symm (by decide) (by decide)

/-- An interrupted recv leaves -1, which becomes the size of a buffer of 1024 bytes. -/
theorem buffer_sizes_fails : ¬∀ (deviceID : UInt32) (idProtocol : Bool) (acts : List InboundAct)
    (t : Inbound),
    run Inbound.step { deviceID := deviceID, idProtocol := idProtocol } acts = some t →
    AllSteps Inbound.step RecvsDocumented { deviceID := deviceID, idProtocol := idProtocol } acts →
    SizesKept t := by
  intro h
  have hkept := h baseID true
    (newClient 0x20202021 ++ reads 0 5 { status := .interruptedTryAgain, size := -1 }) _
    (Option.some_get (by rfl)).symm (by decide)
  exact absurd hkept (by decide)

end MeshNetwork.Node
