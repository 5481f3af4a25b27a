import Mathlib.Data.List.Infix

namespace MeshNetwork

/-- What is done to the streams named by `κ`: items are put on one, or taken off one. -/
inductive StreamEvent (κ α : Type) where
  | put (k : κ) (xs : List α)
  | took (k : κ) (xs : List α)
  deriving DecidableEq, Repr

namespace StreamEvent

variable {κ α : Type}

/-- The stream that an event is about. -/
def stream : StreamEvent κ α → κ
  | .put k _ => k
  | .took k _ => k

variable [DecidableEq κ]

/-- The items that an event puts on stream `k`. -/
def putOn (k : κ) : StreamEvent κ α → List α
  | .put j xs => if j = k then xs else []
  | .took _ _ => []

/-- The items that an event takes off stream `k`. -/
def tookOff (k : κ) : StreamEvent κ α → List α
  | .put _ _ => []
  | .took j xs => if j = k then xs else []

end StreamEvent

/-- A history of streams, the oldest event first. -/
abbrev History (κ α : Type) := List (StreamEvent κ α)

namespace History

variable {κ α : Type} [DecidableEq κ] {k j : κ} {xs : List α} {h h' : History κ α}

/-- All that has been put on stream `k`, in order. -/
def sent (k : κ) (h : History κ α) : List α := h.flatMap (StreamEvent.putOn k)

/-- All that has been taken off stream `k`, in order. -/
def received (k : κ) (h : History κ α) : List α := h.flatMap (StreamEvent.tookOff k)

@[simp] theorem sent_nil : sent k ([] : History κ α) = [] := rfl
@[simp] theorem received_nil : received k ([] : History κ α) = [] := rfl

@[simp] theorem sent_append : sent k (h ++ h') = sent k h ++ sent k h' := List.flatMap_append

@[simp] theorem received_append : received k (h ++ h') = received k h ++ received k h' :=
  List.flatMap_append

@[simp] theorem sent_took : sent k [StreamEvent.took j xs] = [] := rfl
@[simp] theorem received_put : received k [StreamEvent.put j xs] = [] := rfl

@[simp] theorem sent_put : sent k [StreamEvent.put j xs] = if j = k then xs else [] := by
  simp [sent, StreamEvent.putOn]

@[simp] theorem received_took : received k [StreamEvent.took j xs] = if j = k then xs else [] := by
  simp [received, StreamEvent.tookOff]

/-- Events that all are about other streams change nothing on this one. -/
def Untouched (k : κ) (h : History κ α) : Prop := sent k h = [] ∧ received k h = []

theorem untouched_nil : Untouched k ([] : History κ α) := ⟨rfl, rfl⟩

theorem Untouched.append (hk : Untouched k h) (hk' : Untouched k h') : Untouched k (h ++ h') := by
  constructor
  · rw [sent_append, hk.1, hk'.1, List.append_nil]
  · rw [received_append, hk.2, hk'.2, List.append_nil]

theorem untouched_put (hne : j ≠ k) : Untouched k [StreamEvent.put j xs] := by
  simp [Untouched, hne]

theorem untouched_took (hne : j ≠ k) : Untouched k [StreamEvent.took j xs] := by
  simp [Untouched, hne]

/-- What is about other streams takes nothing off this one. -/
theorem received_of_not_mem (hk : k ∉ h.map StreamEvent.stream) : received k h = [] := by
  refine List.flatMap_eq_nil_iff.mpr ?_
  intro e he
  cases e with
  | put j xs => rfl
  | took j xs =>
    have hne : j ≠ k := by
      intro hjk
      exact hk (List.mem_map.mpr ⟨_, he, hjk⟩)
    exact if_neg hne

/-- Nothing is received that has not been sent: stream `k` of one side carries to stream `j` of
the other. -/
def Carries (k : κ) (sender : History κ α) (j : κ) (receiver : History κ α) : Prop :=
  received j receiver <+: sent k sender

instance [DecidableEq α] (k : κ) (sender : History κ α) (j : κ) (receiver : History κ α) :
    Decidable (Carries k sender j receiver) :=
  inferInstanceAs (Decidable (_ <+: _))

theorem carries_nil (sender : History κ α) (hj : received j h = []) : Carries k sender j h := by
  rw [Carries, hj]
  exact List.nil_prefix

/-- The sender may go on, whatever it sends. -/
theorem Carries.sender {sender receiver : History κ α} (hc : Carries k sender j receiver)
    (h : History κ α) : Carries k (sender ++ h) j receiver := by
  rw [Carries, sent_append]
  exact hc.trans (List.prefix_append _ _)

end History

end MeshNetwork
