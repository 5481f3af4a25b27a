import MeshNetwork.Driver.HostEntry
import MeshNetwork.Driver.HostFile
import MeshNetwork.Framework.Words
import Mathlib.Logic.Function.Iterate

namespace MeshNetwork.Driver

/-- A file that is open for reading, with its end-of-file indicator. -/
structure HostStream extends HostFile where
  eof : Bool
  atEnd : eof = true → rest = []

namespace HostFile

variable {f : HostFile} {token : List UInt8} {tokens : List (List UInt8)}

theorem fscanf_blank (h : words isSpace f.rest = []) :
    f.fscanf = (none, { f with rest := [] }) := by
  cases hrest : f.rest.dropWhile isSpace with
  | nil => simp [fscanf, hrest]
  | cons c r =>
    rw [words_of_dropWhile hrest] at h
    cases h

theorem fscanf_token (h : words isSpace f.rest = token :: tokens) (hshort : token.length ≤ 25) :
    f.fscanf.1 = some token ∧ words isSpace f.fscanf.2.rest = tokens := by
  have hne : token ≠ [] := ne_nil_of_mem_words (h ▸ List.mem_cons_self)
  cases hrest : f.rest.dropWhile isSpace with
  | nil =>
    rw [words_of_blank hrest] at h
    cases h
  | cons c r =>
    rw [words_of_dropWhile hrest] at h
    obtain ⟨htoken, htokens⟩ := List.cons.inj h
    have hsplit := List.takeWhile_append_dropWhile (p := fun a => !isSpace a) (l := c :: r)
    rw [htoken] at hsplit
    have hafter : (c :: r).drop token.length = (c :: r).dropWhile fun a => !isSpace a := by
      calc (c :: r).drop token.length
          = (token ++ (c :: r).dropWhile fun a => !isSpace a).drop token.length := by rw [hsplit]
        _ = (c :: r).dropWhile fun a => !isSpace a := List.drop_left
    simp only [fscanf, hrest, htoken, List.take_of_length_le hshort, if_neg hne, hafter, htokens,
      and_self]

end HostFile

namespace HostStream

def ofContent (content : List UInt8) : HostStream :=
  { HostFile.ofContent content with
    eof := false
    atEnd := fun h => Bool.noConfusion h }

/-- `fscanf(fp, "%25s", line)`. A token that ends with the file sets the indicator, unless the
width has ended it before the next character was asked for. -/
def fscanf (fp : HostStream) : Option (List UInt8) × HostStream :=
  if fp.eof then (none, fp)
  else
    let rest := fp.rest.dropWhile isSpace
    let token := (rest.takeWhile fun c => !isSpace c).take 25
    let after := rest.drop token.length
    (if token = [] then none else some token,
      { content := fp.content
        rest := after
        eof := after = [] ∧ token.length < 25
        atEnd := fun h => (of_decide_eq_true h).1 })

def rewind (fp : HostStream) : HostStream := ofContent fp.content

/-- The indicator is never set where a token is left: what is read does not depend on it. -/
theorem fscanf_toHostFile (fp : HostStream) :
    fp.fscanf.1 = fp.toHostFile.fscanf.1 ∧ fp.fscanf.2.toHostFile = fp.toHostFile.fscanf.2 := by
  unfold fscanf
  split
  · rename_i heof
    obtain ⟨⟨content, rest⟩, eof, hend⟩ := fp
    obtain rfl := hend heof
    exact ⟨rfl, rfl⟩
  · exact ⟨rfl, rfl⟩

end HostStream

/-- setHostFile, where fopen has opened a file with this content: the member `fp`. -/
def setHostFile (content : List UInt8) : HostStream := .ofContent content

/-- The result of getHostFileEntry, the string that `entry` gets, and `fp` behind the call. -/
def getHostFileEntry (fp : HostStream) : (Bool × List UInt8) × HostStream :=
  let (read, fp) := fp.fscanf
  let line := read.getD []
  if line.getD 0 0 = 0 then
    let (again, fp) := fp.rewind.fscanf
    ((again.isSome, cString (again.getD line)), fp)
  else ((read.isSome, cString line), fp)

theorem hasEntry_eq (read : Option (List UInt8)) :
    hasEntry read = decide ((read.getD []).getD 0 0 ≠ 0) := by
  cases read <;> rfl

theorem getHostFileEntry_of_line {fp : HostStream} (h : hasEntry fp.fscanf.1 = true) :
    getHostFileEntry fp = ((true, cString (fp.fscanf.1.getD [])), fp.fscanf.2) := by
  have hsome : fp.fscanf.1.isSome = true := by
    cases hread : fp.fscanf.1 with
    | none => simp [hread, hasEntry] at h
    | some token => rfl
  rw [hasEntry_eq, decide_eq_true_iff] at h
  rw [← hsome]
  exact if_neg h

theorem getHostFileEntry_of_empty {fp : HostStream} (h : hasEntry fp.fscanf.1 = false) :
    getHostFileEntry fp = ((fp.fscanf.2.rewind.fscanf.1.isSome,
      cString (fp.fscanf.2.rewind.fscanf.1.getD (fp.fscanf.1.getD []))),
      fp.fscanf.2.rewind.fscanf.2) := by
  rw [hasEntry_eq, decide_eq_false_iff_not, not_not] at h
  exact if_pos h

/-- A call makes the accesses to the file that the phases of openTask make one by one. -/
theorem getHostFileEntry_phases (fp : HostStream) :
    let first := fp.toHostFile.fscanf
    let again := first.2.rewind.fscanf
    (getHostFileEntry fp).1.1 = (hasEntry first.1 || again.1.isSome) ∧
      (getHostFileEntry fp).2.toHostFile = if hasEntry first.1 then first.2 else again.2 := by
  obtain ⟨hread, hbehind⟩ := fp.fscanf_toHostFile
  obtain ⟨hreadAgain, hbehindAgain⟩ := fp.fscanf.2.rewind.fscanf_toHostFile
  have hrewind : fp.fscanf.2.rewind.toHostFile = fp.toHostFile.fscanf.2.rewind := by
    rw [← hbehind]
    rfl
  rw [hrewind] at hreadAgain hbehindAgain
  cases hentry : hasEntry fp.fscanf.1 with
  | true =>
    rw [getHostFileEntry_of_line hentry]
    rw [hread] at hentry
    simp [hentry, hbehind]
  | false =>
    rw [getHostFileEntry_of_empty hentry]
    rw [hread] at hentry
    simp [hentry, hreadAgain, hbehindAgain]

/-- What the `k`-th call after setHostFile gives, the first one being call 0. -/
def served (content : List UInt8) (k : Nat) : Bool × List UInt8 :=
  (getHostFileEntry ((fun fp => (getHostFileEntry fp).2)^[k] (setHostFile content))).1

/-- A hostfile: text without NUL, with at most 25 characters in a row that are not white space. -/
structure HostText where
  content : List UInt8
  noNul : 0 ∉ content
  short : ∀ token ∈ words isSpace content, token.length ≤ 25

namespace HostText

def tokens (file : HostText) : List (List UInt8) := words isSpace file.content

variable {file : HostText} {fp : HostStream} {j : Nat} {token : List UInt8}

/-- Each token is an entry of the hostfile. -/
def entry (htoken : token ∈ file.tokens) : HostLine where
  chars := token
  nonempty := ne_nil_of_mem_words htoken
  short := file.short token htoken
  nonBlank := fun _ hc => (mem_of_mem_words htoken hc).2
  noNul := fun hc => file.noNul (mem_of_mem_words htoken hc).1

theorem cString_token (htoken : token ∈ file.tokens) : cString token = token :=
  cString_eq_self (entry htoken).noNul

theorem hasEntry_token (htoken : token ∈ file.tokens) : hasEntry (some token) = true := by
  obtain ⟨c, cs, rfl⟩ := List.exists_cons_of_ne_nil (entry htoken).nonempty
  exact decide_eq_true fun h => (entry htoken).noNul (h ▸ List.mem_cons_self)

/-- `fp` stands in front of token `j`, behind the last token where there is no token `j`. -/
structure At (file : HostText) (j : Nat) (fp : HostStream) : Prop where
  same : fp.content = file.content
  ahead : words isSpace fp.rest = file.tokens.drop j

/-- What a call gives for token `j`, and where there is no token `j`. -/
def result (file : HostText) (j : Nat) : Bool × List UInt8 :=
  match file.tokens[j]? with
  | some token => (true, token)
  | none => (false, [])

theorem At.ofContent (file : HostText) : At file 0 (.ofContent file.content) := ⟨rfl, rfl⟩

theorem At.rewind (h : At file j fp) : At file 0 fp.rewind := by
  rw [HostStream.rewind, h.same]
  exact .ofContent file

/-- One fscanf: it reads token `j`, or nothing behind the last one. -/
theorem At.fscanf (h : At file j fp) :
    fp.fscanf.1 = file.tokens[j]? ∧ At file (j + 1) fp.fscanf.2 := by
  obtain ⟨hread, hbehind⟩ := fp.fscanf_toHostFile
  have hsame : fp.fscanf.2.content = file.content :=
    (congrArg HostFile.content hbehind).trans h.same
  have hrest := congrArg HostFile.rest hbehind
  rw [hread]
  cases hahead : file.tokens.drop j with
  | nil =>
    have hblank := HostFile.fscanf_blank (h.ahead.trans hahead)
    have hlen := List.drop_eq_nil_iff.1 hahead
    rw [hblank] at hrest ⊢
    refine ⟨(List.getElem?_eq_none hlen).symm, hsame, ?_⟩
    rw [hrest, List.drop_eq_nil_of_le (Nat.le_succ_of_le hlen)]
    rfl
  | cons token tokens =>
    have htoken : file.tokens[j]? = some token := by
      rw [← List.head?_drop, hahead, List.head?_cons]
    have hshort := file.short token (List.mem_of_getElem? htoken)
    obtain ⟨hscan, hnext⟩ := HostFile.fscanf_token (h.ahead.trans hahead) hshort
    refine ⟨hscan.trans htoken.symm, hsame, ?_⟩
    rw [hrest, hnext, ← List.tail_drop, hahead, List.tail_cons]

/-- The number of the token that a call gives: behind the last one it is token 0. -/
def turn (file : HostText) (j : Nat) : Nat := if j < file.tokens.length then j else 0

theorem At.getHostFileEntry (h : At file j fp) :
    (getHostFileEntry fp).1 = file.result (file.turn j) ∧
      At file (file.turn j + 1) (getHostFileEntry fp).2 := by
  obtain ⟨hread, hbehind⟩ := h.fscanf
  by_cases hj : j < file.tokens.length
  · have htoken : file.tokens[j]? = some file.tokens[j] := List.getElem?_eq_getElem hj
    have hmem : file.tokens[j] ∈ file.tokens := List.getElem_mem hj
    rw [htoken] at hread
    have hturn : file.turn j = j := if_pos hj
    rw [getHostFileEntry_of_line (by rw [hread]; exact hasEntry_token hmem), hread, hturn, result,
      htoken]
    exact ⟨congrArg (Prod.mk true) (cString_token hmem), hbehind⟩
  · rw [List.getElem?_eq_none (Nat.le_of_not_lt hj)] at hread
    -- `line` is still empty, and the file is read again from its start
    obtain ⟨hagain, hnext⟩ := hbehind.rewind.fscanf
    have hturn : file.turn j = 0 := if_neg hj
    rw [getHostFileEntry_of_empty (by rw [hread]; rfl), hread, hagain, hturn, result]
    refine ⟨?_, hnext⟩
    cases hfirst : file.tokens[0]? with
    | none => rfl
    | some token => simp [cString_token (List.mem_of_getElem? hfirst)]

theorem turn_succ {k : Nat} (hn : 0 < file.tokens.length) :
    file.turn (k % file.tokens.length + 1) = (k + 1) % file.tokens.length := by
  have hlt := Nat.mod_lt k hn
  rw [← Nat.mod_add_mod, turn]
  split
  · rename_i hnext
    exact (Nat.mod_eq_of_lt hnext).symm
  · have hlast : k % file.tokens.length + 1 = file.tokens.length := by omega
    rw [hlast, Nat.mod_self]

/-- Where `fp` stands when `k` calls are over. -/
theorem exists_at (file : HostText) (k : Nat) :
    ∃ j, At file j ((fun fp => (Driver.getHostFileEntry fp).2)^[k] (setHostFile file.content)) ∧
      (0 < file.tokens.length → file.turn j = k % file.tokens.length) := by
  induction k with
  | zero =>
    refine ⟨0, .ofContent file, fun hn => ?_⟩
    rw [Nat.zero_mod, turn, if_pos hn]
  | succ k ih =>
    obtain ⟨j, hat, hturn⟩ := ih
    rw [Function.iterate_succ_apply']
    refine ⟨file.turn j + 1, hat.getHostFileEntry.2, fun hn => ?_⟩
    rw [hturn hn, turn_succ hn]

theorem served_eq (hn : 0 < file.tokens.length) (k : Nat) :
    served file.content k =
      (true, file.tokens.get ⟨k % file.tokens.length, Nat.mod_lt k hn⟩) := by
  obtain ⟨j, hat, hturn⟩ := file.exists_at k
  rw [served, hat.getHostFileEntry.1, hturn hn, result,
    List.getElem?_eq_getElem (Nat.mod_lt k hn)]
  rfl

theorem served_of_blank (hn : file.tokens = []) (k : Nat) :
    served file.content k = (false, []) := by
  obtain ⟨j, hat, -⟩ := file.exists_at k
  rw [served, hat.getHostFileEntry.1, result, hn]
  rfl

end HostText

/-- A number that is counted up modulo `n` meets every residue within `n` steps. -/
theorem exists_add_mod {n i : Nat} (k : Nat) (hi : i < n) : ∃ j < n, (k + j) % n = i := by
  have hk := Nat.mod_lt k (Nat.zero_lt_of_lt hi)
  by_cases hle : k % n ≤ i
  · refine ⟨i - k % n, by omega, ?_⟩
    rw [← Nat.mod_add_mod, Nat.add_sub_cancel' hle, Nat.mod_eq_of_lt hi]
  · refine ⟨n - k % n + i, by omega, ?_⟩
    rw [← Nat.mod_add_mod, ← Nat.add_assoc, Nat.add_sub_cancel' hk.le, Nat.add_mod_left,
      Nat.mod_eq_of_lt hi]

/-- The hostfile is served in turn, for ever. -/
theorem round_robin (file : HostText) (k : Nat) :
    (∀ hn : 0 < file.tokens.length, served file.content k =
      (true, file.tokens.get ⟨k % file.tokens.length, Nat.mod_lt k hn⟩)) ∧
    (∀ token ∈ file.tokens,
      ∃ j < file.tokens.length, served file.content (k + j) = (true, token)) ∧
    (file.tokens = [] → (served file.content k).1 = false) := by
  refine ⟨fun hn => HostText.served_eq hn k, fun token htoken => ?_, fun hn => ?_⟩
  · obtain ⟨i, hi, htoken⟩ := List.mem_iff_getElem.1 htoken
    obtain ⟨j, hj, hmod⟩ := exists_add_mod k hi
    refine ⟨j, hj, ?_⟩
    rw [HostText.served_eq (Nat.zero_lt_of_lt hi)]
    simp [hmod, htoken]
  · rw [HostText.served_of_blank hn]

/-- "a:1\nb:2", without a final newline. -/
def twoHosts : HostText where
  content := [0x61, 0x3A, 0x31, 0x0A, 0x62, 0x3A, 0x32]
  noNul := by decide
  short := by decide

theorem round_robin_two :
    served twoHosts.content 5 = (true, [0x62, 0x3A, 0x32]) ∧
      (∃ j < 2, served twoHosts.content (5 + j) = (true, [0x61, 0x3A, 0x31])) ∧
      ∀ k, (served (HostText.mk [0x0A] (by decide) (by decide)).content k).1 = false :=
  ⟨(round_robin twoHosts 5).1 (by decide), (round_robin twoHosts 5).2.1 _ (by decide),
    fun k => (round_robin _ k).2.2 (by decide)⟩

end MeshNetwork.Driver
