import MeshNetwork.Driver.HostFile
import MeshNetwork.Node.Outbound

namespace MeshNetwork.Node

open Driver

/-- An entry of the form host:port: a host that fits and a port in decimal that is not 0. -/
def HostPort (entry host : List UInt8) (port : UInt16) : Prop :=
  ∃ digits, entry = host ++ 0x3A :: digits ∧ host ≠ [] ∧ host.length < hostnameSize ∧
    0x3A ∉ host ∧ (∀ c ∈ digits, IsDigit c) ∧ decimalValue digits = port.toNat ∧ port ≠ 0

section text

/-- The entry up to its first colon. -/
def hostText (entry : List UInt8) : List UInt8 := entry.takeWhile (· ≠ 0x3A)

/-- What follows the first colon. -/
def portText (entry : List UInt8) : Option (List UInt8) := (entry.dropWhile (· ≠ 0x3A)).tail?

def unsigned : List UInt8 → List UInt8
  | 0x2D :: cs => cs
  | 0x2B :: cs => cs
  | cs => cs

/-- A digit, or a sign and a digit. -/
def StartsNumber (text : List UInt8) : Prop := ∃ c ∈ (unsigned text).head?, IsDigit c

/-- A decimal number that fits in 16 bits and is not 0; with a leading zero it is also the octal
number that it looks like. -/
structure PlainPort (text : List UInt8) : Prop where
  digits : ∀ c ∈ text, IsDigit c
  positive : 0 < decimalValue text
  fits : decimalValue text < 2 ^ 16
  octal : text.head? = some 0x30 → decimalValue text < 8

/-- The host fits, and where sscanf finds a host and the start of a number, the number is plain. -/
structure EntryKept (entry : List UInt8) : Prop where
  fits : (hostText entry).length < hostnameSize
  number : hostText entry ≠ [] → ∀ text ∈ portText entry, StartsNumber text → PlainPort text

variable {entry host text hostname_s : List UInt8} {port : Int32}

theorem portText_eq_some : portText entry = some text ↔
    entry = hostText entry ++ 0x3A :: text := by
  have happend : hostText entry ++ entry.dropWhile (· ≠ 0x3A) = entry :=
    List.takeWhile_append_dropWhile
  cases hrest : entry.dropWhile (· ≠ 0x3A) with
  | nil =>
    rw [hrest, List.append_nil] at happend
    rw [portText, hrest]
    refine iff_of_false (by simp) ?_
    intro h
    rw [happend] at h
    simp at h
  | cons c rest =>
    have hc : c = 0x3A := by
      have hnot := List.head_dropWhile_not (· ≠ (0x3A : UInt8)) (l := entry)
        (by rw [hrest]; exact List.cons_ne_nil c rest)
      simp only [hrest, List.head_cons] at hnot
      exact not_not.mp (of_decide_eq_false hnot)
    subst hc
    rw [hrest] at happend
    rw [portText, hrest]
    constructor
    · intro h
      rw [← Option.some.inj h, happend]
    · intro h
      have hsame := List.append_cancel_left (happend.trans h)
      exact congrArg some (List.cons_eq_cons.mp hsame).2

theorem scanMagnitude_isSome : (scanMagnitude text).isSome = true ↔
    ∃ c ∈ text.head?, IsDigit c := by
  unfold scanMagnitude
  split
  · next x cs =>
    refine iff_of_true ?_ ⟨0x30, rfl, by decide⟩
    split_ifs <;> rfl
  · next c cs _ =>
    split_ifs with hc
    · exact iff_of_true rfl ⟨c, rfl, isDigit_iff.mpr hc⟩
    · refine iff_of_false (by simp) ?_
      intro h
      obtain ⟨c', hc', hdigit⟩ := h
      obtain rfl := Option.some.inj hc'
      exact hc (isDigit_iff.mp hdigit)
  · exact iff_of_false (by simp) (by simp)

/-- A sign decides about the value, not about whether there is one. -/
theorem scanInt_isSome : (scanInt text).isSome = true ↔ StartsNumber text := by
  have hmap (f : Int → Int32) (o : Option Nat) :
      ((do let n ← o; pure (n : Int) : Option Int).map f).isSome = o.isSome := by
    cases o <;> rfl
  rw [StartsNumber, ← scanMagnitude_isSome]
  unfold scanInt
  split
  · rw [hmap]
    rfl
  · rw [hmap]
    rfl
  · next hminus hplus =>
    have hself : unsigned text = text := by
      unfold unsigned
      split
      · exact (hminus _ rfl).elim
      · exact (hplus _ rfl).elim
      · rfl
    rw [hmap, hself]

theorem drop_hostText : (entry.drop (hostText entry).length).tail? = portText entry := by
  have hdrop : (hostText entry ++ entry.dropWhile (· ≠ 0x3A)).drop (hostText entry).length =
      entry.dropWhile (· ≠ 0x3A) := List.drop_left
  rw [hostText, List.takeWhile_append_dropWhile] at hdrop
  rw [portText, ← hdrop, hostText]

/-- The conversions in order: a host, the colon, and a number. -/
theorem scanEntry_two (hostname_s : List UInt8) (port : Int32) {value : Int32}
    (hhost : hostText entry ≠ []) (hvalue : (portText entry).bind scanInt = some value) :
    scanEntry entry hostname_s port = ⟨2, storeString (hostText entry) hostname_s, value⟩ := by
  have hline : entry ≠ [] := by
    intro hline
    subst hline
    exact hhost rfl
  rw [← drop_hostText] at hvalue
  unfold scanEntry
  unfold hostText at hhost hvalue ⊢
  rw [if_neg hline, if_neg hhost]
  cases hdrop : entry.drop (entry.takeWhile (· ≠ 0x3A)).length with
  | nil =>
    rw [hdrop] at hvalue
    cases hvalue
  | cons c text =>
    rw [hdrop] at hvalue
    have hscan : scanInt text = some value := hvalue
    simp only [hscan]

theorem scanEntry_index (h : (scanEntry entry hostname_s port).index = 2) :
    hostText entry ≠ [] ∧ ∃ value, (portText entry).bind scanInt = some value := by
  rw [← drop_hostText]
  unfold scanEntry at h
  unfold hostText
  by_cases hline : entry = []
  · rw [if_pos hline] at h
    cases h
  · rw [if_neg hline] at h
    by_cases hhost : entry.takeWhile (· ≠ 0x3A) = []
    · rw [if_pos hhost] at h
      cases h
    · rw [if_neg hhost] at h
      refine ⟨hhost, ?_⟩
      cases hdrop : entry.drop (entry.takeWhile (· ≠ 0x3A)).length with
      | nil =>
        rw [hdrop] at h
        cases h
      | cons c text =>
        rw [hdrop] at h
        cases hscan : scanInt text with
        | none =>
          simp only [hscan] at h
          cases h
        | some value => exact ⟨value, hscan⟩

theorem toNat_port16 (n : Nat) : (Int32.ofInt n).toUInt32.toUInt16.toNat = n % 2 ^ 16 := by
  rw [UInt32.toNat_toUInt16, toNat_toUInt32_ofInt]
  omega

/-- The port that a string of digits configures is its decimal value if and only if it is plain. -/
theorem port_plain {value : Int32} (hdigits : ∀ c ∈ text, IsDigit c)
    (hvalue : scanInt text = some value) :
    decimalValue text = value.toUInt32.toUInt16.toNat ∧ value.toUInt32.toUInt16 ≠ 0 ↔
      PlainPort text := by
  have hne : text ≠ [] := by
    intro hne
    rw [hne] at hvalue
    cases hvalue
  have hscan := scanMagnitude_digits hne hdigits
  generalize hm : (if text.head? = some 0x30
    then numeral 8 ((text.map digitValue).takeWhile (· < 8)) else decimalValue text) = magnitude
    at hscan
  have hle : magnitude ≤ decimalValue text := by
    rw [← hm, decimalValue_digitValue hdigits]
    split_ifs
    · exact (numeral_takeWhile_le (by decide) _).trans (numeral_le_numeral (by decide))
    · exact Nat.le_refl _
  have heq : magnitude = decimalValue text ↔
      (text.head? = some 0x30 → decimalValue text < 8) := by
    rw [← hm, decimalValue_digitValue hdigits]
    split_ifs with hzero
    · rw [numeral_takeWhile_eq_iff (by decide) (by decide)]
      exact ⟨fun h _ => h, fun h => h hzero⟩
    · exact iff_of_true rfl fun h => absurd h hzero
  have hport : value.toUInt32.toUInt16.toNat = min magnitude (2 ^ 63 - 1) % 2 ^ 16 := by
    have hcast : min (magnitude : Int) (2 ^ 63 - 1) =
        ((min magnitude (2 ^ 63 - 1) : Nat) : Int) := by
      omega
    unfold scanInt at hvalue
    split at hvalue
    · exact absurd (hdigits _ List.mem_cons_self) (by decide)
    · exact absurd (hdigits _ List.mem_cons_self) (by decide)
    · rw [hscan] at hvalue
      obtain rfl := Option.some.inj hvalue
      rw [← toNat_port16, ← hcast]
  have hzero : value.toUInt32.toUInt16 ≠ 0 ↔ value.toUInt32.toUInt16.toNat ≠ 0 :=
    not_congr UInt16.toNat_inj.symm
  rw [hzero, hport]
  constructor
  · intro h
    obtain ⟨hdecimal, hnonzero⟩ := h
    have hmin : magnitude = decimalValue text := by omega
    exact ⟨hdigits, by omega, by omega, heq.mp hmin⟩
  · intro h
    obtain ⟨-, hpositive, hfits, hoctal⟩ := h
    rw [heq.mpr hoctal]
    omega

theorem inside_scanAccesses : Access.Inside hostnameSize (scanAccesses entry) ↔
    (hostText entry).length < hostnameSize := by
  unfold scanAccesses
  change Access.Inside hostnameSize (if hostText entry = [] then [] else _) ↔ _
  split_ifs with hhost
  · rw [hhost]
    exact iff_of_true (by simp [Access.Inside]) (by decide)
  · exact Access.inside_stringWrites

/-- The host and the port of an entry of this form are what stands before and after the colon. -/
theorem HostPort.texts {port : UInt16} (h : HostPort entry host port) :
    hostText entry = host ∧ ∃ digits ∈ portText entry,
      (∀ c ∈ digits, IsDigit c) ∧ decimalValue digits = port.toNat ∧ port ≠ 0 := by
  obtain ⟨digits, hentry, -, -, hcolon, hdigits, hvalue, hport⟩ := h
  have hhost : hostText entry = host := by
    have hall : ∀ c ∈ host, decide (c ≠ 0x3A) = true := by
      intro c hc
      refine decide_eq_true ?_
      intro heq
      subst heq
      exact hcolon hc
    rw [hentry, hostText, List.takeWhile_append_of_pos hall]
    exact List.append_nil host
  exact ⟨hhost, digits, portText_eq_some.mpr (hhost.symm ▸ hentry), hdigits, hvalue, hport⟩

end text

section openTask

variable (addressToIp4 : List UInt8 → Bool)

/-- The step does not begin another iteration of openTask. -/
def KeepsEntry (s : Outbound) : OutboundAct → Prop
  | .openTask _ => s.opener.pc ≠ .entry
  | _ => True

/-- openTask reads the entry in `s` and, whatever the other tasks do in between, comes to `u` in the
same iteration. -/
def Reads (s : Outbound) (entry : List UInt8) (u : Outbound) : Prop :=
  ∃ (env : OpenEnv) (acts : List OutboundAct) (t : Outbound),
    s.opener.pc = .entry ∧ env.line = some entry ∧
    s.step addressToIp4 (.openTask env) = some t ∧
    AllSteps (Outbound.step addressToIp4) KeepsEntry t acts ∧
    run (Outbound.step addressToIp4) t acts = some u

/-- A socket is configured for the entry: setHost leaves this host and this port there. -/
def Configures (s : Outbound) (entry host : List UInt8) (port : UInt16) : Prop :=
  ∃ (env : OpenEnv) (u v : Outbound) (i : Fin maxClients),
    Reads addressToIp4 s entry u ∧ u.opener.pc = .setHost i ∧
    u.step addressToIp4 (.openTask env) = some v ∧
    (v.side.manager.sockets i).hostname = host ∧ (v.side.manager.sockets i).port = port

/-- A socket is about to be opened for the entry. -/
def ComesToOpen (s : Outbound) (entry : List UInt8) : Prop :=
  ∃ (u : Outbound) (i : Fin maxClients), Reads addressToIp4 s entry u ∧ u.opener.pc = .openSocket i

/-- The entry is read without overrunning `hostname_s`, and a socket is configured only for the host
and the port that it names, and opened only if it names them. -/
structure EntryExact (entry : List UInt8) : Prop where
  inside : Access.Inside hostnameSize (scanAccesses entry)
  configured : ∀ s host port, Configures addressToIp4 s entry host port → HostPort entry host port
  opened : ∀ s, ComesToOpen addressToIp4 s entry → ∃ host port, HostPort entry host port

/-- The locals are what the scan left, and it has read two items unless the iteration is over. -/
structure AfterScan (r : EntryScan) (s : Outbound) : Prop where
  hostname_s : s.opener.hostname_s = r.hostname_s
  port : s.opener.port = r.port
  index : r.index = 2 ∨ s.opener.pc = .loop ∨ s.opener.pc = .entry ∨ s.opener.pc = .closeAll ∨
    s.opener.pc = .done

variable {addressToIp4}

theorem AfterScan.step {r : EntryScan} {s t : Outbound} {act : OutboundAct} (h : AfterScan r s)
    (hkeeps : KeepsEntry s act) (hstep : s.step addressToIp4 act = some t) : AfterScan r t := by
  cases Outbound.step_effect addressToIp4 hstep with
  | openTask env hcalls heffect =>
    obtain ⟨o, p, idProtocol, calls⟩ := t
    have hindex {pc : OpenPc} (hpc : s.opener.pc = pc) (hlive : pc ≠ .loop ∧ pc ≠ .entry ∧
        pc ≠ .closeAll ∧ pc ≠ .done) : r.index = 2 := by
      have hor := h.index
      rw [hpc] at hor
      simpa [hlive] using hor
    cases heffect with
    | entry _ _ _ hpc => exact absurd hpc hkeeps
    | again pc hpc hpc' =>
      refine ⟨h.hostname_s, h.port, .inr ?_⟩
      rcases hpc' with rfl | rfl <;> simp
    | closedAll => exact ⟨h.hostname_s, h.port, .inr (by simp)⟩
    | _ => exact ⟨h.hostname_s, h.port, .inl (hindex ‹_› (by simp))⟩
  | sendHandler k unset b hcalls ho hp =>
    obtain ⟨hhost, hport, hindex⟩ := h
    exact ⟨ho ▸ hhost, ho ▸ hport, ho ▸ hindex⟩
  | send k env o c hk hcalls ho heffect =>
    obtain ⟨hhost, hport, hindex⟩ := h
    exact ⟨ho ▸ hhost, ho ▸ hport, ho ▸ hindex⟩
  | stop hcalls ho hp =>
    obtain ⟨hhost, hport, hindex⟩ := h
    refine ⟨?_, ?_, ?_⟩ <;> rw [ho]
    · exact hhost
    · exact hport
    · exact hindex
  | closeAll hcalls ho hp =>
    obtain ⟨hhost, hport, hindex⟩ := h
    exact ⟨ho ▸ hhost, ho ▸ hport, ho ▸ hindex⟩

/-- Throughout the iteration the locals are what the scan of the entry left. -/
theorem Reads.afterScan {s u : Outbound} {entry : List UInt8} (h : Reads addressToIp4 s entry u) :
    AfterScan (scanEntry (cString entry) s.opener.hostname_s s.opener.port) u := by
  obtain ⟨env, acts, t, hpc, hline, hentry, hkeeps, hrun⟩ := h
  generalize hr : scanEntry (cString entry) s.opener.hostname_s s.opener.port = r
  have hscan : AfterScan r t := by
    simp only [Outbound.step, openStep, hpc, hline, hr, Option.map_some,
      Option.some.injEq] at hentry
    subst hentry
    refine ⟨rfl, rfl, ?_⟩
    by_cases hindex : r.index = 2
    · exact .inl hindex
    · exact .inr (.inl (if_neg hindex))
  exact run_invariant (fun _ _ _ => AfterScan.step) hscan hkeeps hrun

/-- A socket is configured from what the scan of this entry left in the locals. -/
theorem Configures.scan {s : Outbound} {entry host : List UInt8} {port : UInt16}
    (h : Configures addressToIp4 s entry host port) :
    (scanEntry (cString entry) s.opener.hostname_s s.opener.port).index = 2 ∧
      host = cString (scanEntry (cString entry) s.opener.hostname_s s.opener.port).hostname_s ∧
      port =
        (scanEntry (cString entry) s.opener.hostname_s s.opener.port).port.toUInt32.toUInt16 := by
  obtain ⟨env, u, v, i, hreads, hset, hstep, rfl, rfl⟩ := h
  have hlast := hreads.afterScan
  have hindex := hlast.index
  rw [hset] at hindex
  simp only [Outbound.step, openStep, hset, Option.map_some, Option.some.injEq] at hstep
  subst hstep
  refine ⟨by simpa using hindex, ?_, ?_⟩
  · rw [← hlast.hostname_s]
    simp [ClientSide.setSocket, MultiTcpClientSocket.setHost]
  · rw [← hlast.port]
    simp [ClientSide.setSocket, MultiTcpClientSocket.setHost, Opener.port16]

theorem ComesToOpen.scan {s : Outbound} {entry : List UInt8}
    (h : ComesToOpen addressToIp4 s entry) :
    (scanEntry (cString entry) s.opener.hostname_s s.opener.port).index = 2 := by
  obtain ⟨u, i, hreads, hopen⟩ := h
  have hindex := hreads.afterScan.index
  rw [hopen] at hindex
  simpa using hindex

/-- A new node configures its first socket for any entry from which two items are read. -/
theorem configures_init {entry : List UInt8} (adjM : Nat → UInt8) {r : EntryScan}
    (hr : scanEntry (cString entry) (List.replicate 20 0) (-1) = r) (hindex : r.index = 2) :
    Configures addressToIp4 (.init baseID adjM true) entry (cString r.hostname_s)
      r.port.toUInt32.toUInt16 := by
  let s : Outbound := .init baseID adjM true
  let reading (pc : OpenPc) : Outbound :=
    { s with opener := { pc := pc, hostname_s := r.hostname_s, port := r.port } }
  have hentry : s.step addressToIp4 (.openTask { line := some entry }) = some (reading .check) := by
    have hr' : scanEntry (cString entry) s.opener.hostname_s s.opener.port = r := hr
    simp only [Outbound.step, openStep, show s.opener.pc = .entry from rfl, hr', hindex, if_true]
    rfl
  have hcheck : (reading .check).step addressToIp4 (.openTask {}) = some (reading .free) := rfl
  have hfree : (reading .free).step addressToIp4 (.openTask {}) = some (reading (.setHost 0)) := rfl
  refine ⟨{}, reading (.setHost 0), _, 0, ⟨{ line := some entry }, [.openTask {}, .openTask {}],
    reading .check, rfl, rfl, hentry, ?_, ?_⟩, rfl, rfl, ?_, ?_⟩
  · refine ⟨by simp [KeepsEntry, reading], ?_⟩
    intro t ht
    obtain rfl := Option.some.inj (hcheck.symm.trans ht)
    exact ⟨by simp [KeepsEntry, reading], fun _ _ => trivial⟩
  · rw [run_cons, hcheck, Option.bind_some, run_cons, hfree, Option.bind_some, run_nil]
  · simp [reading, ClientSide.setSocket, MultiTcpClientSocket.setHost]
  · simp [reading, ClientSide.setSocket, MultiTcpClientSocket.setHost, Opener.port16]

end openTask

/-- Where two items are read from an entry with a plain port, they are what it names. -/
theorem EntryKept.hostPort {line : HostLine} (h : EntryKept line.chars) {hostname_s : List UInt8}
    {port : Int32} (hindex : (scanEntry line.chars hostname_s port).index = 2) :
    HostPort line.chars (cString (scanEntry line.chars hostname_s port).hostname_s)
      (scanEntry line.chars hostname_s port).port.toUInt32.toUInt16 := by
  have hnoNul : 0 ∉ hostText line.chars := by
    intro h0
    exact line.noNul ((List.takeWhile_prefix _).subset h0)
  obtain ⟨hhost, value, hbind⟩ := scanEntry_index hindex
  obtain ⟨text, htext, hvalue⟩ := Option.bind_eq_some_iff.mp hbind
  have hstarts : StartsNumber text := scanInt_isSome.mp (by rw [hvalue]; rfl)
  have hplain := h.number hhost text htext hstarts
  obtain ⟨hdecimal, hport⟩ := (port_plain hplain.digits hvalue).mpr hplain
  rw [scanEntry_two _ _ hhost hbind, cString_storeString hnoNul]
  refine ⟨text, portText_eq_some.mp htext, hhost, h.fits, ?_, hplain.digits, hdecimal, hport⟩
  intro hcolon
  have hne := List.mem_takeWhile_imp (p := (· ≠ (0x3A : UInt8))) hcolon
  exact of_decide_eq_true hne rfl

/-- Hostfile entries. An entry is read exactly if and only if its host fits and the number behind
it, if one begins there, is a plain port. -/
theorem entry_exact (addressToIp4 : List UInt8 → Bool) (line : HostLine) :
    EntryExact addressToIp4 line.chars ↔ EntryKept line.chars := by
  have hstring : cString line.chars = line.chars := cString_eq_self line.noNul
  constructor
  · intro h
    refine ⟨inside_scanAccesses.mp h.inside, ?_⟩
    intro hhost text htext hstarts
    obtain ⟨value, hvalue⟩ := Option.isSome_iff_exists.mp (scanInt_isSome.mpr hstarts)
    have hbind : (portText line.chars).bind scanInt = some value := by
      rw [htext]
      exact hvalue
    have hscan := scanEntry_two (List.replicate 20 0) (-1) hhost hbind
    rw [← hstring] at hscan
    have hport :=
      h.configured _ _ _ (configures_init (initAdjacencyMatrix fun _ => 0) hscan rfl)
    obtain ⟨-, digits, hdigits, hall, hplain⟩ := hport.texts
    obtain rfl := Option.some.inj (htext.symm.trans hdigits)
    exact (port_plain hall hvalue).mp hplain
  · intro h
    refine ⟨inside_scanAccesses.mpr h.fits, ?_, ?_⟩
    · intro s host port hconf
      obtain ⟨hindex, rfl, rfl⟩ := hconf.scan
      rw [hstring] at hindex ⊢
      exact h.hostPort hindex
    · intro s hopen
      have hindex := hopen.scan
      rw [hstring] at hindex
      exact ⟨_, _, h.hostPort hindex⟩

/-- h:010 leads to port 8. -/
theorem entry_exact_fails : ¬∀ (addressToIp4 : List UInt8 → Bool) (line : HostLine),
    EntryExact addressToIp4 line.chars := by
  intro h
  let line : HostLine :=
    ⟨[0x68, 0x3A, 0x30, 0x31, 0x30], by decide, by decide, by simp [isSpace], by decide⟩
  have hscan : scanEntry (cString line.chars) (List.replicate 20 0) (-1) =
      ⟨2, [0x68] ++ 0 :: List.replicate 18 0, 8⟩ := by decide
  have hport := (h (fun _ => true) line).configured _ _ _
    (configures_init (initAdjacencyMatrix fun _ => 0) hscan rfl)
  obtain ⟨-, digits, hdigits, -, hvalue, -⟩ := hport.texts
  obtain rfl : [0x30, 0x31, 0x30] = digits := Option.some.inj hdigits
  exact absurd hvalue (by decide)

end MeshNetwork.Node
