import Mathlib.Data.List.Flatten
import Mathlib.Data.List.Infix
import Mathlib.Logic.Function.Basic

namespace MeshNetwork

/-- Messages as packets on a stream. `unpack` is given all that a stream has brought so far; a
packet that has not come whole gives nothing yet. -/
structure PacketCode (μ α : Type) where
  pack : μ → List α
  unpack : List α → List μ
  unpack_pack : ∀ ms rest, (rest = [] ∨ ∃ m, rest <+: pack m ∧ rest ≠ pack m) →
    unpack (ms.flatMap pack ++ rest) = ms

namespace PacketCode

variable {μ α : Type} (code : PacketCode μ α) {ms ns : List μ} {xs rest rest' : List α}

def packAll (ms : List μ) : List α := ms.flatMap code.pack

/-- Less than a packet. -/
def Begun (rest : List α) : Prop := rest = [] ∨ ∃ m, rest <+: code.pack m ∧ rest ≠ code.pack m

@[simp] theorem packAll_nil : code.packAll [] = [] := rfl

@[simp] theorem packAll_cons (m : μ) (ms : List μ) :
    code.packAll (m :: ms) = code.pack m ++ code.packAll ms := List.flatMap_cons

@[simp] theorem packAll_append (ms ns : List μ) :
    code.packAll (ms ++ ns) = code.packAll ms ++ code.packAll ns := List.flatMap_append

theorem begun_nil : code.Begun [] := .inl rfl

variable {code}

theorem unpack_packAll (h : code.Begun rest) : code.unpack (code.packAll ms ++ rest) = ms :=
  code.unpack_pack ms rest h

/-- A stream is read in one way only. -/
theorem packAll_inj (h : code.Begun rest) (h' : code.Begun rest')
    (heq : code.packAll ms ++ rest = code.packAll ns ++ rest') : ms = ns ∧ rest = rest' := by
  have hms : code.unpack (code.packAll ms ++ rest) = ms := unpack_packAll h
  rw [heq, unpack_packAll h'] at hms
  subst hms
  exact ⟨rfl, List.append_cancel_left heq⟩

theorem pack_ne_nil (m : μ) : code.pack m ≠ [] := by
  intro hm
  have hstream : code.packAll [m] ++ [] = code.packAll [] ++ [] := by simp [hm]
  cases (packAll_inj code.begun_nil code.begun_nil hstream).1

/-- What a stream has brought so far is packets and less than one. -/
theorem exists_packAll (h : code.Begun rest) (hx : xs <+: code.packAll ms ++ rest) :
    ∃ ns more, ns <+: ms ∧ xs = code.packAll ns ++ more ∧ code.Begun more := by
  induction ms generalizing xs with
  | nil =>
    refine ⟨[], xs, List.nil_prefix, rfl, ?_⟩
    rcases h with rfl | ⟨m, hm, hne⟩
    · exact .inl (List.prefix_nil.mp hx)
    · refine .inr ⟨m, hx.trans hm, ?_⟩
      intro hxm
      subst hxm
      exact hne (hm.eq_of_length (Nat.le_antisymm hm.length_le hx.length_le))
  | cons m ms ih =>
    rw [packAll_cons, List.append_assoc] at hx
    by_cases hwhole : code.pack m <+: xs
    · obtain ⟨ys, rfl⟩ := hwhole
      obtain ⟨ns, more, hns, rfl, hmore⟩ := ih ((List.prefix_append_right_inj _).mp hx)
      refine ⟨m :: ns, more, List.cons_prefix_cons.mpr ⟨rfl, hns⟩, ?_, hmore⟩
      rw [packAll_cons, List.append_assoc]
    · have hpart : xs <+: code.pack m :=
        (List.prefix_or_prefix_of_prefix hx (List.prefix_append _ _)).resolve_right hwhole
      refine ⟨[], xs, List.nil_prefix, rfl, .inr ⟨m, hpart, ?_⟩⟩
      intro hxm
      exact hwhole (hxm ▸ List.prefix_rfl)

/-- A stream that goes on brings more messages behind the ones it has brought. -/
theorem prefix_of_packAll (h : code.Begun rest) (h' : code.Begun rest')
    (hx : code.packAll ns ++ rest' <+: code.packAll ms ++ rest) : ns <+: ms := by
  obtain ⟨ns', more, hns, heq, hmore⟩ := exists_packAll h hx
  obtain ⟨rfl, -⟩ := packAll_inj h' hmore heq
  exact hns

section merged

variable {κ : Type} [DecidableEq κ]

/-- What source `k` has brought, of pieces that come from several sources. -/
def brought (k : κ) (pieces : List (κ × List α)) : List α :=
  pieces.flatMap fun x => if x.1 = k then x.2 else []

/-- What of several messages source `k` has brought. -/
def messagesOf (k : κ) (messages : List (κ × μ)) : List μ :=
  (messages.filter (·.1 = k)).map Prod.snd

theorem brought_append (k : κ) (pieces pieces' : List (κ × List α)) :
    brought k (pieces ++ pieces') = brought k pieces ++ brought k pieces' := List.flatMap_append

theorem brought_singleton (k : κ) (x : κ × List α) :
    brought k [x] = if x.1 = k then x.2 else [] := List.flatMap_singleton ..

theorem messagesOf_append (k : κ) (messages messages' : List (κ × μ)) :
    messagesOf k (messages ++ messages') = messagesOf k messages ++ messagesOf k messages' := by
  simp [messagesOf]

theorem messagesOf_source (j k : κ) (ms : List μ) :
    messagesOf k (ms.map (j, ·)) = if j = k then ms else [] := by
  by_cases hjk : j = k
  · simp [messagesOf, List.filter_map, Function.comp_def, hjk]
  · simp [messagesOf, hjk]

theorem messagesOf_map {β : Type} (f : β → μ) (k : κ) (L : List (κ × β)) :
    messagesOf k (L.map fun x => (x.1, f x.2)) = (messagesOf k L).map f := by
  simp [messagesOf, List.filter_map, Function.comp_def]

theorem mem_messagesOf {k : κ} {m : μ} {messages : List (κ × μ)} :
    m ∈ messagesOf k messages ↔ (k, m) ∈ messages := by
  constructor
  · intro hm
    obtain ⟨x, hx, rfl⟩ := List.mem_map.mp hm
    obtain ⟨hmem, hk⟩ := List.mem_filter.mp hx
    obtain rfl := of_decide_eq_true hk
    exact hmem
  · intro hm
    exact List.mem_map.mpr ⟨_, List.mem_filter.mpr ⟨hm, decide_eq_true rfl⟩, rfl⟩

/-- Where no source brings a message twice, none comes twice from one source. -/
theorem nodup_of_messagesOf {messages : List (κ × μ)} (h : ∀ k, (messagesOf k messages).Nodup) :
    messages.Nodup := by
  induction messages with
  | nil => exact List.nodup_nil
  | cons x messages ih =>
    have hsplit (k : κ) : messagesOf k (x :: messages) =
        messagesOf k [x] ++ messagesOf k messages := messagesOf_append k [x] messages
    refine List.nodup_cons.mpr ⟨?_, ih fun k => (List.nodup_append.mp (hsplit k ▸ h k)).2.1⟩
    intro hx
    have hself : messagesOf x.1 (x :: messages) = x.2 :: messagesOf x.1 messages := by
      rw [hsplit]
      simp [messagesOf]
    exact (List.nodup_cons.mp (hself ▸ h x.1)).1 (mem_messagesOf.mpr hx)

/-- Messages that are, source by source, images under `f`: they are so together. -/
theorem exists_origins {β : Type} (f : β → μ) (messages : List (κ × μ)) (origins : κ → List β)
    (h : ∀ k, messagesOf k messages = (origins k).map f) :
    ∃ L : List (κ × β), messages = L.map (fun x => (x.1, f x.2)) ∧
      ∀ k, messagesOf k L = origins k := by
  induction messages generalizing origins with
  | nil =>
    refine ⟨[], rfl, ?_⟩
    intro k
    exact (List.map_eq_nil_iff.mp (h k).symm).symm
  | cons x messages ih =>
    obtain ⟨j, m⟩ := x
    have hcons (k : κ) : messagesOf k ((j, m) :: messages) =
        if j = k then m :: messagesOf k messages else messagesOf k messages := by
      by_cases hjk : j = k <;> simp [messagesOf, hjk]
    have hj := h j
    rw [hcons, if_pos rfl] at hj
    obtain ⟨b, bs, hb, rfl, hbs⟩ := List.map_eq_cons_iff.mp hj.symm
    have hrest (k : κ) : messagesOf k messages = (Function.update origins j bs k).map f := by
      by_cases hjk : j = k
      · subst hjk
        rw [Function.update_self, hbs]
      · have hk := h k
        rw [hcons, if_neg hjk] at hk
        rw [Function.update_of_ne (Ne.symm hjk), hk]
    obtain ⟨L, rfl, hL⟩ := ih (Function.update origins j bs) hrest
    refine ⟨(j, b) :: L, rfl, ?_⟩
    intro k
    by_cases hjk : j = k
    · subst hjk
      have hself := hL j
      rw [Function.update_self] at hself
      simp [messagesOf, hb, ← hself]
    · have hother := hL k
      rw [Function.update_of_ne (Ne.symm hjk)] at hother
      simp [messagesOf, hjk, ← hother]

variable (code)

/-- A source comes in only where the one before it has brought whole packets. -/
def TakeTurns (pieces : List (κ × List α)) : Prop :=
  ∀ before x y after, pieces = before ++ x :: y :: after → x.1 ≠ y.1 →
    ∃ ms, brought x.1 (before ++ [x]) = code.packAll ms

variable {code} in
theorem takeTurns_of_source {pieces : List (κ × List α)} (k : κ) (h : ∀ x ∈ pieces, x.1 = k) :
    code.TakeTurns pieces := by
  intro before x y after hpieces hne
  subst hpieces
  exact absurd ((h x (by simp)).trans (h y (by simp)).symm) hne

/-- The pieces of all sources, one behind the other, are the packets of these messages and less than
one; so are the pieces of each source, and what is less than a packet is from the latest one. -/
structure Merges (pieces : List (κ × List α)) (messages : List (κ × μ)) (rest : List α) :
    Prop where
  begun : code.Begun rest
  together : pieces.flatMap Prod.snd = code.packAll (messages.map Prod.snd) ++ rest
  each : ∀ k, brought k pieces = code.packAll (messagesOf k messages) ++
    if pieces.getLast?.map Prod.fst = some k then rest else []

variable {code} {pieces : List (κ × List α)} {messages : List (κ × μ)}

theorem Merges.begun_each (h : code.Merges pieces messages rest) (k : κ) :
    code.Begun (if pieces.getLast?.map Prod.fst = some k then rest else []) := by
  split_ifs
  · exact h.begun
  · exact code.begun_nil

/-- A source that is entitled to bring the next piece continues its own stream. -/
theorem Merges.entitled (h : code.Merges pieces messages rest) {y : κ × List α}
    (hturns : code.TakeTurns (pieces ++ [y])) :
    brought y.1 pieces = code.packAll (messagesOf y.1 messages) ++ rest ∧
      ∀ k, k ≠ y.1 → brought k pieces = code.packAll (messagesOf k messages) := by
  have hy := h.each y.1
  rcases List.eq_nil_or_concat pieces with rfl | ⟨before, x, hpieces⟩
  · have hrest : rest = [] := (List.append_eq_nil_iff.mp h.together.symm).2
    refine ⟨by simpa [hrest] using hy, ?_⟩
    intro k _
    simpa [hrest] using h.each k
  · rw [List.concat_eq_append] at hpieces
    have hlast : pieces.getLast?.map Prod.fst = some x.1 := by simp [hpieces]
    have heach := h.each
    simp only [hlast, Option.some.injEq] at heach
    by_cases hxy : x.1 = y.1
    · refine ⟨by rw [heach, if_pos hxy], ?_⟩
      intro k hk
      rw [heach, if_neg (hxy ▸ hk.symm), List.append_nil]
    · -- the source before has brought whole packets
      obtain ⟨ms, hms⟩ := hturns before x y [] (by simp [hpieces]) hxy
      rw [← hpieces, heach, if_pos rfl, ← List.append_nil (code.packAll ms)] at hms
      obtain ⟨-, hrest⟩ := packAll_inj h.begun code.begun_nil hms
      refine ⟨by rw [heach, hrest, if_neg hxy], ?_⟩
      intro k _
      rw [heach, hrest, ite_self, List.append_nil]

/-- Sources that take turns are read as if each of them were read by itself. -/
theorem exists_merges (hstream : ∀ k, ∃ ms rest, code.Begun rest ∧
      brought k pieces <+: code.packAll ms ++ rest) (hturns : code.TakeTurns pieces) :
    ∃ messages rest, code.Merges pieces messages rest := by
  induction pieces using List.reverseRecOn with
  | nil => exact ⟨[], [], code.begun_nil, rfl, fun k => by simp [brought, messagesOf]⟩
  | append_singleton pieces y ih =>
    obtain ⟨messages, rest, h⟩ := ih
      (fun k => by
        obtain ⟨ms, rest, hrest, hpre⟩ := hstream k
        rw [brought_append] at hpre
        exact ⟨ms, rest, hrest, (List.prefix_append _ _).trans hpre⟩)
      (fun before x z after hpieces =>
        hturns before x z (after ++ [y]) (by simp [hpieces]))
    obtain ⟨hy, hother⟩ := h.entitled hturns
    obtain ⟨ms, rest', hrest', hpre⟩ := hstream y.1
    obtain ⟨ns, more, -, hns, hmore⟩ := exists_packAll hrest' hpre
    rw [brought_append, hy, brought_singleton, if_pos rfl] at hns
    obtain ⟨new, rfl⟩ : messagesOf y.1 messages <+: ns :=
      prefix_of_packAll hmore h.begun ⟨y.2, hns⟩
    rw [packAll_append, List.append_assoc, List.append_assoc] at hns
    have hnew := List.append_cancel_left hns
    refine ⟨messages ++ new.map (y.1, ·), more, hmore, ?_, ?_⟩
    · simp only [List.flatMap_append, h.together, List.flatMap_singleton, List.append_assoc, hnew,
        List.map_append, List.map_map, Function.comp_def, List.map_id', packAll_append]
    · intro k
      rw [brought_append, brought_singleton, messagesOf_append, messagesOf_source]
      by_cases hk : y.1 = k
      · subst hk
        simp [hy, hnew]
      · simp [hother k (Ne.symm hk), hk]

end merged

end PacketCode

/-- Packets that say where they end: `parse` takes the first one off a stream. -/
structure PacketParser (μ α : Type) where
  pack : μ → List α
  parse : List α → Option (μ × List α)
  parse_pack : ∀ m rest, parse (pack m ++ rest) = some (m, rest)
  parse_begun : ∀ m rest, rest <+: pack m → rest ≠ pack m → parse rest = none
  parse_nil : parse [] = none

namespace PacketParser

variable {μ α : Type} (p : PacketParser μ α)

def parseAll : Nat → List α → List μ
  | 0, _ => []
  | n + 1, xs =>
    match p.parse xs with
    | none => []
    | some (m, rest) => m :: parseAll n rest

theorem pack_length_pos (m : μ) : 0 < (p.pack m).length := by
  refine List.length_pos_iff.mpr ?_
  intro hnil
  have hparse := p.parse_pack m []
  rw [hnil, List.append_nil, p.parse_nil] at hparse
  cases hparse

theorem parseAll_begun {rest : List α} (h : rest = [] ∨ ∃ m, rest <+: p.pack m ∧ rest ≠ p.pack m)
    (ms : List μ) (n : Nat) (hn : (ms.flatMap p.pack ++ rest).length ≤ n) :
    p.parseAll n (ms.flatMap p.pack ++ rest) = ms := by
  induction ms generalizing n with
  | nil =>
    have hnone : p.parse rest = none := by
      rcases h with rfl | ⟨m, hm, hne⟩
      · exact p.parse_nil
      · exact p.parse_begun m rest hm hne
    cases n with
    | zero => rfl
    | succ n => simp [parseAll, hnone]
  | cons m ms ih =>
    rw [List.flatMap_cons, List.append_assoc] at hn ⊢
    rw [List.length_append] at hn
    have hpos := p.pack_length_pos m
    cases n with
    | zero => omega
    | succ n =>
      simp only [parseAll, p.parse_pack]
      rw [ih n (by omega)]

def toCode : PacketCode μ α where
  pack := p.pack
  unpack xs := p.parseAll xs.length xs
  unpack_pack ms _ h := p.parseAll_begun h ms _ (Nat.le_refl _)

end PacketParser

end MeshNetwork
