import Mathlib.Data.List.TakeWhile

namespace MeshNetwork

/-- The words of a text between separators. -/
def words {α : Type} (sep : α → Bool) (s : List α) : List (List α) :=
  (s.splitOnP sep).filter fun word => !word.isEmpty

section words

variable {α : Type} {sep : α → Bool} {s r : List α} {c : α}

theorem words_append_cons (hc : sep c = true) (s t : List α) :
    words sep (s ++ c :: t) = words sep s ++ words sep t := by
  rw [words, List.splitOnP_append_cons s t hc, List.filter_append]
  rfl

theorem words_singleton (hne : s ≠ []) (h : ∀ a ∈ s, sep a = false) : words sep s = [s] := by
  rw [words, List.splitOnP_eq_singleton h]
  simp [hne]

theorem words_dropWhile (sep : α → Bool) (s : List α) :
    words sep (s.dropWhile sep) = words sep s := by
  induction s with
  | nil => rfl
  | cons c s ih =>
    by_cases hc : sep c = true
    · rw [List.dropWhile_cons_of_pos hc, ih]
      exact (words_append_cons hc [] s).symm
    · rw [List.dropWhile_cons_of_neg hc]

theorem words_of_blank (h : s.dropWhile sep = []) : words sep s = [] := by
  rw [← words_dropWhile, h]
  rfl

/-- A text that starts with a word: the word, and the words of the text behind it. -/
theorem words_of_word (hc : sep c = false) :
    words sep (c :: s) = ((c :: s).takeWhile fun a => !sep a) ::
      words sep ((c :: s).dropWhile fun a => !sep a) := by
  have hsplit := List.takeWhile_append_dropWhile (p := fun a => !sep a) (l := c :: s)
  have hword : words sep ((c :: s).takeWhile fun a => !sep a) =
      [(c :: s).takeWhile fun a => !sep a] := by
    refine words_singleton (by simp [hc]) fun a ha => ?_
    simpa using List.mem_takeWhile_imp ha
  cases hafter : (c :: s).dropWhile fun a => !sep a with
  | nil =>
    rw [hafter, List.append_nil] at hsplit
    rw [hsplit] at hword ⊢
    exact hword
  | cons d r =>
    have hd : sep d = true := by
      have hnot := List.head?_dropWhile_not (fun a => !sep a) (c :: s)
      rw [hafter] at hnot
      simpa using hnot
    have hr : words sep (d :: r) = words sep r := words_append_cons hd [] r
    rw [hafter] at hsplit
    calc words sep (c :: s)
        = words sep (((c :: s).takeWhile fun a => !sep a) ++ d :: r) := by rw [hsplit]
      _ = ((c :: s).takeWhile fun a => !sep a) :: words sep (d :: r) := by
        rw [words_append_cons hd, hword, hr, List.singleton_append]

theorem words_of_dropWhile (h : s.dropWhile sep = c :: r) :
    words sep s = ((c :: r).takeWhile fun a => !sep a) ::
      words sep ((c :: r).dropWhile fun a => !sep a) := by
  have hc := List.head?_dropWhile_not sep s
  rw [h] at hc
  rw [← words_dropWhile, h, words_of_word hc]

/-- What stands between two separators is a part of the text without separators. -/
theorem mem_of_mem_splitOnP {part : List α} (hpart : part ∈ s.splitOnP sep) (hc : c ∈ part) :
    c ∈ s ∧ sep c = false := by
  induction s generalizing part with
  | nil =>
    rw [List.splitOnP_nil, List.mem_singleton] at hpart
    subst hpart
    cases hc
  | cons a s ih =>
    have htail {part : List α} (hpart : part ∈ s.splitOnP sep) (hc : c ∈ part) :
        c ∈ a :: s ∧ sep c = false :=
      (ih hpart hc).imp_left (List.mem_cons_of_mem a)
    rw [List.splitOnP_cons_eq_if_modifyHead] at hpart
    split at hpart
    · rcases List.mem_cons.1 hpart with rfl | hmem
      · cases hc
      · exact htail hmem hc
    · rename_i ha
      obtain ⟨first, others, hfirst⟩ := List.exists_cons_of_ne_nil (List.splitOnP_ne_nil sep s)
      rw [hfirst, List.modifyHead_cons, List.mem_cons] at hpart
      rcases hpart with rfl | hmem
      · rcases List.mem_cons.1 hc with rfl | hmem
        · exact ⟨List.mem_cons_self, Bool.eq_false_iff.2 ha⟩
        · exact htail (hfirst ▸ List.mem_cons_self) hmem
      · exact htail (hfirst ▸ List.mem_cons_of_mem first hmem) hc

theorem mem_of_mem_words {word : List α} (hword : word ∈ words sep s) (hc : c ∈ word) :
    c ∈ s ∧ sep c = false :=
  mem_of_mem_splitOnP (List.mem_filter.1 hword).1 hc

theorem ne_nil_of_mem_words {word : List α} (hword : word ∈ words sep s) : word ≠ [] := by
  simpa using (List.mem_filter.1 hword).2

end words

end MeshNetwork
