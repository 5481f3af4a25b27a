import MeshNetwork.Framework.Packets
import MeshNetwork.Network.ServerStreams

namespace MeshNetwork.Network

open Driver Node PacketCode

/-- What a step hands up with RECV_OK: the task and the bytes that its buffer presents, over what
`memory` says of the rest of the buffer. All tasks hand up to one port. -/
def handsUp (memory : Nat → UInt8) (s : Inbound) : InboundAct → List (Nat × List UInt8)
  | .readTask n _ =>
    match s.readers[n]? with
    | none => []
    | some r =>
      if r.pc = .handUp ∧ r.status = .success then
        [(n, contents ⟨r.allocated, (Int32.ofInt r.size).toUInt32, r.data, true⟩ memory)]
      else []
  | _ => []

/-- The data that a read task has handed up with RECV_OK. -/
def okData (r : Reader) : List UInt8 := r.handed.flatMap fun h => if h.ok then h.data else []

/-- Of the pieces on the uplink each task has brought what it has handed up. -/
def UplinkInv (s : Inbound) (pieces : List (Nat × List UInt8)) : Prop :=
  ∀ n, brought n pieces = ((s.readers[n]?).map okData).getD []

theorem uplinkInv_init (deviceID : UInt32) : UplinkInv { deviceID := deviceID } [] := fun _ => rfl

theorem okData_append (r r' : Reader) (h : HandedUp) (hr : r'.handed = r.handed ++ [h]) :
    okData r' = okData r ++ if h.ok then h.data else [] := by
  rw [okData, hr, List.flatMap_append, List.flatMap_singleton]
  rfl

/-- A read task hands up at one statement only. -/
theorem readStep_okData {env : ReadEnv} {s t : Inbound} {n : Nat}
    (h : s.readStep env n = some t) : ∃ r r', s.readers[n]? = some r ∧
      t.readers = s.readers.set n r' ∧ okData r' = okData r ++ unsent r := by
  unfold Inbound.readStep at h
  cases hr : s.readers[n]? with
  | none => simp [hr] at h
  | some r =>
    simp only [hr] at h
    split_ifs at h with hend hstart
    · obtain rfl := Option.some.inj h
      refine ⟨r, _, rfl, rfl, ?_⟩
      rw [unsent, if_neg (by simp [hstart]), List.append_nil]
      rfl
    · obtain ⟨i, -, rfl⟩ := Option.map_eq_some_iff.mp h
      refine ⟨r, _, rfl, rfl, ?_⟩
      by_cases hup : r.pc = .handUp
      · simp only [Inbound.readStepAt, hup]
        rw [okData_append r _ _ rfl]
        simp [unsent, hup]
      · rw [unsent, if_neg fun hp => hup hp.1, List.append_nil]
        unfold Inbound.readStepAt
        cases hpc : r.pc with
        | handUp => exact absurd hpc hup
        | check =>
          dsimp only
          split_ifs
          · rw [okData_append r _ _ rfl]
            simp
          · rfl
          · rfl
        | _ => rfl

/-- A buffer presents what is in it where its size is that of the data. -/
theorem handsUp_readTask {memory : Nat → UInt8} {s : Inbound} {n : Nat} {env : ReadEnv} {r : Reader}
    (hr : s.readers[n]? = some r) (hcount : r.pc = .handUp → r.status = .success →
      (Int32.ofInt r.size).toUInt32.toNat = r.data.length) (k : Nat) :
    brought k (handsUp memory s (.readTask n env)) = if n = k then unsent r else [] := by
  simp only [handsUp, hr, unsent]
  by_cases hup : r.pc = .handUp ∧ r.status = .success
  · rw [if_pos hup, if_pos hup, contents_of_length (hcount hup.1 hup.2), brought_singleton]
  · rw [if_neg hup, if_neg hup, ite_self]
    rfl

theorem UplinkInv.step {s t : Inbound} {pieces : List (Nat × List UInt8)} {act : InboundAct}
    (h : UplinkInv s pieces) (memory : Nat → UInt8)
    (hcount : ∀ r ∈ s.readers, r.pc = .handUp → r.status = .success →
      (Int32.ofInt r.size).toUInt32.toNat = r.data.length)
    (hs : s.step act = some t) : UplinkInv t (pieces ++ handsUp memory s act) := by
  have hsame (hnone : handsUp memory s act = []) (hreaders : t.readers = s.readers) :
      UplinkInv t (pieces ++ handsUp memory s act) := by
    intro n
    rw [hnone, List.append_nil, hreaders]
    exact h n
  cases act with
  | acceptTask env =>
    cases acceptStep_effect (s := s) hs with
    | started i c k hpc =>
      have hnone : handsUp memory s (.acceptTask env) = [] := rfl
      intro n
      rw [hnone, List.append_nil, h n]
      by_cases hn : n < s.readers.length
      · rw [List.getElem?_append_left hn]
      · -- a new task has handed up nothing
        rw [List.getElem?_eq_none (Nat.le_of_not_lt hn),
          List.getElem?_append_right (Nat.le_of_not_lt hn), List.getElem?_singleton]
        split_ifs <;> rfl
    | _ => exact hsame rfl rfl
  | readTask n env =>
    obtain ⟨r, r', hr, hreaders, hdata⟩ := readStep_okData (s := s) hs
    intro k
    rw [brought_append, handsUp_readTask hr (hcount r (List.mem_of_getElem? hr)), h k, hreaders]
    by_cases hk : n = k
    · subst hk
      obtain ⟨hn, -⟩ := List.getElem?_eq_some_iff.mp hr
      rw [if_pos rfl, hr, List.getElem?_set_self hn]
      exact hdata.symm
    · rw [if_neg hk, List.append_nil, List.getElem?_set_ne hk]
  | stop =>
    obtain rfl := Option.some.inj hs
    exact hsame rfl rfl
  | closeAll =>
    obtain rfl := Option.some.inj hs
    exact hsame rfl rfl
  | shutdown =>
    obtain rfl := Option.some.inj hs
    exact hsame rfl rfl

end MeshNetwork.Network
