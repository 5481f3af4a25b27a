import Mathlib.Data.List.Basic
import Mathlib.Tactic.Cases

namespace MeshNetwork

/-- An access of C code to one byte of an array. -/
inductive Access where
  | write (k : Nat)
  | read (k : Nat)
  deriving DecidableEq, Repr

namespace Access

def position : Access → Nat
  | .write k => k
  | .read k => k

/-- All of them are in an array of `size` bytes. -/
def Inside (size : Nat) (accesses : List Access) : Prop := ∀ a ∈ accesses, a.position < size

/-- No byte is read before it has been written. -/
def WrittenFirst (accesses : List Access) : Prop :=
  ∀ before k after, accesses = before ++ .read k :: after → .write k ∈ before

/-- A string of some length and its terminator are stored from the first byte on. -/
def stringWrites (length : Nat) : List Access := (List.range (length + 1)).map .write

variable {size length k : Nat} {as bs : List Access} {ks : List Nat}

@[simp] theorem write_mem_stringWrites : .write k ∈ stringWrites length ↔ k ≤ length := by
  simp only [stringWrites, List.mem_map, List.mem_range, Access.write.injEq, exists_eq_right]
  exact Nat.lt_succ_iff

@[simp] theorem read_not_mem_stringWrites : .read k ∉ stringWrites length := by simp [stringWrites]

theorem inside_append : Inside size (as ++ bs) ↔ Inside size as ∧ Inside size bs :=
  List.forall_mem_append

theorem inside_stringWrites : Inside size (stringWrites length) ↔ length < size := by
  constructor
  · intro h
    exact h (.write length) (write_mem_stringWrites.mpr (Nat.le_refl _))
  · intro h a ha
    obtain ⟨k, hk, rfl⟩ := List.mem_map.mp ha
    exact Nat.lt_of_le_of_lt (Nat.lt_succ_iff.mp (List.mem_range.mp hk)) h

theorem inside_reads : Inside size (ks.map .read) ↔ ∀ k ∈ ks, k < size := List.forall_mem_map

/-- Reads that come last: each one finds its byte written. -/
theorem writtenFirst_append_reads (has : ∀ k, .read k ∉ as) :
    WrittenFirst (as ++ ks.map .read) ↔ ∀ k ∈ ks, .write k ∈ as := by
  constructor
  · intro h k hk
    obtain ⟨ks₁, ks₂, rfl⟩ := List.append_of_mem hk
    have hmem := h (as ++ ks₁.map .read) k (ks₂.map .read) (by simp)
    simpa using hmem
  · intro h before k after heq
    rcases List.append_eq_append_iff.mp heq with ⟨cs, hbefore, hreads⟩ | ⟨cs, has', hreads⟩
    · rw [hbefore]
      refine List.mem_append_left _ (h k ?_)
      have hk : .read k ∈ ks.map Access.read := by simp [hreads]
      simpa using hk
    · cases cs with
      | nil =>
        have hk : .read k ∈ ks.map Access.read := by
          rw [← List.nil_append (ks.map Access.read), ← hreads]
          exact List.mem_cons_self
        rw [has', List.append_nil] at h
        exact h k (by simpa using hk)
      | cons c cs =>
        obtain ⟨rfl, -⟩ := List.cons_eq_cons.mp hreads
        exact absurd (has' ▸ by simp) (has k)

end Access

end MeshNetwork
