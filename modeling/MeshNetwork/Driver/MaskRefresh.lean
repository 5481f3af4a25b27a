import MeshNetwork.Framework.Decimal
import MeshNetwork.Driver.Mask

namespace MeshNetwork.Driver

/-- The token of the mask file that belongs to the node, if it is there. -/
def ownRow (deviceID : UInt32) (file : MaskFile) : Option (List UInt8) :=
  if baseID ≤ deviceID then
    file.tokens.bind fun tokens => tokens[deviceID.toNat - baseID.toNat]?
  else none

/-- A row that says something about every node. -/
def DigitRow (row : List UInt8) : Prop := maxClients ≤ row.length ∧ ∀ c ∈ row, IsDigit c

/-- The table holds the first digits of a row. -/
def Holds (adjM : Nat → UInt8) (row : List UInt8) : Prop :=
  ∀ k < maxClients, adjM k = row.getD k 0 - 48

/-- The `int` that counts the rows gets beyond the number of the own one. -/
def CounterFits (deviceID : UInt32) : Prop :=
  (deviceID - baseID).toInt32.toInt + 1 < 2 ^ 31

/-- A refresh comes to its end, takes the own row or leaves the table as it is, and is safe on
`line`. -/
structure RefreshesOwnRow (deviceID : UInt32) (file : MaskFile) (adjM : Nat → UInt8) : Prop where
  own : ∀ row, ownRow deviceID file = some row → DigitRow row →
    Holds (updateAdjacencyMatrix deviceID file adjM) row
  unchanged : (∀ row, ownRow deviceID file = some row → ¬DigitRow row) →
    ∀ k < maxClients, updateAdjacencyMatrix deviceID file adjM k = adjM k
  ends : file.tokens ≠ none → CounterFits deviceID
  inside : Access.Inside lineSize (lineAccesses deviceID file)
  written : Access.WrittenFirst (lineAccesses deviceID file)

/-- The last of some rows that reaches a column, its terminator included. -/
def lastReaching (rows : List (List UInt8)) (k : Nat) : Option (List UInt8) :=
  rows.reverse.find? fun row => decide (k ≤ row.length)

/-- The table already holds, in each column, the character of the last row that reaches it. -/
def HoldsLast (adjM : Nat → UInt8) (rows : List (List UInt8)) : Prop :=
  ∀ k < maxClients, ∀ row, lastReaching rows k = some row → adjM k = row.getD k 0 - 48

/-- There is no file. Or the node is behind all rows, the uninitialised `n` is 0, and the own row,
if there is one, is in the table already. Or the rows up to the own one can be counted, all of them
fit into `line`, one of them fills it, and the own row is there and consists of digits or the
refresh repeats what the table holds. -/
def RowsFit (deviceID : UInt32) (file : MaskFile) (adjM : Nat → UInt8) : Prop :=
  match file.tokens with
  | none => True
  | some tokens =>
    let node := (deviceID - baseID).toInt32.toInt
    if node < 0 then
      file.n = 0 ∧ ∀ row, ownRow deviceID file = some row → DigitRow row → Holds adjM row
    else
      let rows := tokens.take (node + 1).toNat
      CounterFits deviceID ∧ (∀ row ∈ rows, row.length ≤ maxClients) ∧
        (∃ row ∈ rows, maxClients ≤ row.length + 1) ∧
        ((∃ row, ownRow deviceID file = some row ∧ DigitRow row) ∨ HoldsLast adjM rows)

section rows

variable {rows k : Nat} {tokens : List (List UInt8)} {line : Nat → UInt8} {n : UInt8}

theorem write_mem_rowAccesses : .write k ∈ rowAccesses rows tokens ↔
    ∃ row ∈ tokens.take rows, k ≤ row.length := by
  induction rows generalizing tokens with
  | zero => simp [rowAccesses]
  | succ rows ih =>
    cases tokens with
    | nil => simp [rowAccesses]
    | cons token tokens => simp [rowAccesses, ih]

theorem read_not_mem_rowAccesses : .read k ∉ rowAccesses rows tokens := by
  induction rows generalizing tokens with
  | zero => simp [rowAccesses]
  | succ rows ih =>
    cases tokens with
    | nil => simp [rowAccesses]
    | cons token tokens => simp [rowAccesses, ih]

theorem inside_rowAccesses {size : Nat} : Access.Inside size (rowAccesses rows tokens) ↔
    ∀ row ∈ tokens.take rows, row.length < size := by
  induction rows generalizing tokens with
  | zero => simp [rowAccesses, Access.Inside]
  | succ rows ih =>
    cases tokens with
    | nil => simp [rowAccesses, Access.Inside]
    | cons token tokens =>
      simp [rowAccesses, Access.inside_append, Access.inside_stringWrites, ih]

/-- The accesses of a refresh that reads rows are inside `line` if the rows fit. -/
theorem inside_rows (rows : Nat) (tokens : List (List UInt8)) : Access.Inside lineSize
    (rowAccesses rows tokens ++ (List.range maxClients).map .read) ↔
      ∀ row ∈ tokens.take rows, row.length ≤ maxClients := by
  rw [Access.inside_append, inside_rowAccesses, Access.inside_reads]
  constructor
  · intro h row hrow
    exact Nat.lt_succ_iff.mp (h.1 row hrow)
  · intro h
    refine ⟨fun row hrow => Nat.lt_succ_iff.mpr (h row hrow), ?_⟩
    intro k hk
    exact (List.mem_range.mp hk).trans (Nat.lt_succ_self _)

/-- Nothing uninitialised is read if one row fills `line`; the others may be shorter. -/
theorem written_rows (rows : Nat) (tokens : List (List UInt8)) : Access.WrittenFirst
    (rowAccesses rows tokens ++ (List.range maxClients).map .read) ↔
      ∃ row ∈ tokens.take rows, maxClients ≤ row.length + 1 := by
  rw [Access.writtenFirst_append_reads fun k => read_not_mem_rowAccesses]
  simp only [write_mem_rowAccesses, List.mem_range]
  constructor
  · intro h
    obtain ⟨row, hrow, hk⟩ := h 9 (by decide)
    exact ⟨row, hrow, Nat.succ_le_succ hk⟩
  · intro h k hk
    obtain ⟨row, hrow, hlength⟩ := h
    exact ⟨row, hrow, by omega⟩

/-- A byte of `line` has been stored by the last row that reaches it, and else is what it was. -/
theorem readRows_line : (readRows rows tokens line n).1 k =
    ((lastReaching (tokens.take rows) k).map (·.getD k 0)).getD (line k) := by
  induction rows generalizing tokens line n with
  | zero => rfl
  | succ rows ih =>
    cases tokens with
    | nil => rfl
    | cons token tokens =>
      rw [readRows, ih, List.take_succ_cons, lastReaching, lastReaching, List.reverse_cons,
        List.find?_append]
      cases (tokens.take rows).reverse.find? fun row => decide (k ≤ row.length) with
      | some row => rfl
      | none =>
        rcases lt_trichotomy k token.length with hk | hk | hk
        · simp [storeToken, hk, hk.le]
        · simp [storeToken, hk]
        · simp [storeToken, hk.not_gt, hk.ne', hk.not_ge]

/-- Any round of the loop makes `n` count as valid. -/
theorem readRows_valid (hrows : 0 < rows) : (readRows rows tokens line n).2 ≠ 0 := by
  induction rows generalizing tokens line n with
  | zero => cases hrows
  | succ rows ih =>
    cases tokens with
    | nil => exact (by decide : (255 : UInt8) ≠ 0)
    | cons token tokens =>
      cases rows with
      | zero => exact (by decide : (1 : UInt8) ≠ 0)
      | succ rows => exact ih (Nat.succ_pos rows)

end rows

theorem lastReaching_isSome {rows : List (List UInt8)} {k : Nat}
    (h : ∃ row ∈ rows, k ≤ row.length) :
    ∃ row, lastReaching rows k = some row := by
  obtain ⟨row, hrow, hk⟩ := h
  rw [← Option.isSome_iff_exists, lastReaching, List.find?_isSome]
  exact ⟨row, List.mem_reverse.mpr hrow, decide_eq_true hk⟩

/-- The own row is the last one that is read. -/
theorem lastReaching_own {tokens : List (List UInt8)} {node k : Nat} {row : List UInt8}
    (hrow : tokens[node]? = some row) (hk : k ≤ row.length) :
    lastReaching (tokens.take (node + 1)) k = some row := by
  rw [lastReaching, List.take_add_one, hrow, Option.toList_some, List.reverse_append]
  exact List.find?_cons_of_pos (decide_eq_true hk)

/-- The row number of a node that the loop reads rows for. -/
theorem rows_of_node {deviceID : UInt32} (h : ¬(deviceID - baseID).toInt32.toInt < 0) :
    baseID ≤ deviceID ∧ ((deviceID - baseID).toInt32.toInt + 1).toNat =
      deviceID.toNat - baseID.toNat + 1 := by
  have hlt := deviceID.toNat_lt
  have hbase : baseID.toNat = 0x20202020 := rfl
  rw [toInt_toInt32, UInt32.toNat_sub, hbase] at h
  rw [toInt_toInt32, UInt32.le_iff_toNat_le, UInt32.toNat_sub, hbase]
  split_ifs at h ⊢ <;> omega

section refresh

variable {deviceID : UInt32} {file : MaskFile} {tokens : List (List UInt8)}
  (htokens : file.tokens = some tokens) (adjM : Nat → UInt8)

include htokens

/-- No row is read for a node below the table. -/
theorem refresh_below (hnode : (deviceID - baseID).toInt32.toInt < 0) :
    RefreshesOwnRow deviceID file adjM ↔
      file.n = 0 ∧ ∀ row, ownRow deviceID file = some row → DigitRow row → Holds adjM row := by
  have hrows : ((deviceID - baseID).toInt32.toInt + 1).toNat = 0 := by omega
  have hline : lineAccesses deviceID file =
      [] ++ (if file.n ≠ 0 then List.range maxClients else []).map .read := by
    simp only [lineAccesses, htokens, hrows, readRows, rowAccesses]
    split_ifs <;> rfl
  have hwritten : Access.WrittenFirst (lineAccesses deviceID file) ↔ file.n = 0 := by
    rw [hline, Access.writtenFirst_append_reads (by simp)]
    split_ifs with hn
    · refine ⟨?_, fun h => absurd h hn⟩
      intro h
      exact absurd (h 0 (by decide)) List.not_mem_nil
    · simpa using hn
  have htable (hn : file.n = 0) : updateAdjacencyMatrix deviceID file adjM = adjM := by
    simp only [updateAdjacencyMatrix, htokens, hrows, readRows, hn, ne_eq, not_true_eq_false,
      if_false]
  constructor
  · intro h
    have hn := hwritten.mp h.written
    refine ⟨hn, ?_⟩
    have hown := h.own
    rw [htable hn] at hown
    exact hown
  · intro h
    obtain ⟨hn, hown⟩ := h
    have hcounter : CounterFits deviceID := by
      unfold CounterFits
      omega
    refine ⟨?_, ?_, fun _ => hcounter, ?_, hwritten.mpr hn⟩
    · rw [htable hn]
      exact hown
    · intro _ k _
      rw [htable hn]
    · simp [hline, hn, Access.Inside]

theorem refresh_rows (hnode : ¬(deviceID - baseID).toInt32.toInt < 0) :
    RefreshesOwnRow deviceID file adjM ↔
      let rows := tokens.take ((deviceID - baseID).toInt32.toInt + 1).toNat
      CounterFits deviceID ∧ (∀ row ∈ rows, row.length ≤ maxClients) ∧
        (∃ row ∈ rows, maxClients ≤ row.length + 1) ∧
        ((∃ row, ownRow deviceID file = some row ∧ DigitRow row) ∨ HoldsLast adjM rows) := by
  obtain ⟨hle, hrows⟩ := rows_of_node hnode
  have hown : ownRow deviceID file = tokens[deviceID.toNat - baseID.toNat]? := by
    rw [ownRow, if_pos hle, htokens]
    rfl
  rw [hrows, hown]
  generalize deviceID.toNat - baseID.toNat = node at *
  have hn : (readRows (node + 1) tokens file.line file.n).2 ≠ 0 :=
    readRows_valid (Nat.succ_pos node)
  have hline : lineAccesses deviceID file =
      rowAccesses (node + 1) tokens ++ (List.range maxClients).map .read := by
    simp only [lineAccesses, htokens, hrows, if_pos hn]
  have htable (k : Nat) (hk : k < maxClients) : updateAdjacencyMatrix deviceID file adjM k =
      ((lastReaching (tokens.take (node + 1)) k).map (·.getD k 0)).getD (file.line k) - 48 := by
    simp only [updateAdjacencyMatrix, htokens, hrows, if_pos hn, if_pos hk, readRows_line]
  have hinside := inside_rows (node + 1) tokens
  have hwritten := written_rows (node + 1) tokens
  rw [← hline] at hinside hwritten
  constructor
  · intro h
    have hfile : file.tokens ≠ none := by
      rw [htokens]
      exact Option.some_ne_none tokens
    refine ⟨h.ends hfile, hinside.mp h.inside, hwritten.mp h.written, ?_⟩
    by_cases hex : ∃ row, tokens[node]? = some row ∧ DigitRow row
    · exact .inl hex
    · right
      intro k hk row hrow
      have hsame := h.unchanged (fun row' h' hd => hex ⟨row', hown ▸ h', hd⟩) k hk
      rw [htable k hk, hrow] at hsame
      exact hsame.symm
  · intro h
    obtain ⟨hcounter, hfit, hfill, hcontent⟩ := h
    refine ⟨?_, ?_, fun _ => hcounter, hinside.mpr hfit, hwritten.mpr hfill⟩
    · intro row hrow hdigits k hk
      rw [htable k hk, lastReaching_own (hown ▸ hrow) (hk.le.trans hdigits.1)]
      rfl
    · intro hnone k hk
      obtain ⟨row, hrow⟩ := lastReaching_isSome (k := k) (by
        obtain ⟨row, hmem, hlength⟩ := hfill
        exact ⟨row, hmem, by omega⟩)
      rcases hcontent with ⟨own, heq, hdigits⟩ | hlast
      · exact absurd hdigits (hnone own (hown.trans heq))
      · rw [htable k hk, hrow, hlast k hk row hrow]
        rfl

end refresh

/-- Mask refresh. The table becomes the node's own row or stays, without a bad access, if and only
if the rows up to the own one fit. -/
theorem mask_refresh (deviceID : UInt32) (file : MaskFile) (adjM : Nat → UInt8) :
    RefreshesOwnRow deviceID file adjM ↔ RowsFit deviceID file adjM := by
  unfold RowsFit
  cases htokens : file.tokens with
  | none =>
    have hline : lineAccesses deviceID file = [] := by simp [lineAccesses, htokens]
    have hown : ownRow deviceID file = none := by simp [ownRow, htokens]
    have htable : updateAdjacencyMatrix deviceID file adjM = adjM := by
      simp [updateAdjacencyMatrix, htokens]
    refine iff_true_intro ⟨?_, ?_, fun h => absurd htokens h, ?_, ?_⟩
    · simp [hown]
    · simp [htable]
    · simp [hline, Access.Inside]
    · simp [hline, Access.WrittenFirst]
  | some tokens =>
    dsimp only
    split_ifs with hnode
    · exact refresh_below htokens adjM hnode
    · exact refresh_rows htokens adjM hnode

/-- One row for two nodes: the second one takes it for its own. -/
theorem mask_refresh_fails : ¬∀ (deviceID : UInt32) (file : MaskFile) (adjM : Nat → UInt8),
    RefreshesOwnRow deviceID file adjM := by
  intro h
  let file : MaskFile := { tokens := some [List.replicate 10 0x31] }
  have hmissing : ∀ row, ownRow 0x20202021 file = some row → ¬DigitRow row := by
    intro row hrow
    have hnone : ownRow 0x20202021 file = none := by decide
    rw [hnone] at hrow
    cases hrow
  have hsame :=
    (h 0x20202021 file (initAdjacencyMatrix fun _ => 0)).unchanged hmissing 0 (by decide)
  exact absurd hsame (by decide)

end MeshNetwork.Driver
