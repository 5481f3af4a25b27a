import MeshNetwork.Node.EndpointMatch
import MeshNetwork.Node.EntryGrammar
import MeshNetwork.Node.HostRounds
import MeshNetwork.Node.Misdelivery

namespace MeshNetwork.Node

open Driver

/-- The host and the port that openTask takes from an entry, if sscanf reads both. -/
def endpoint (entry : List UInt8) : Option (List UInt8 × UInt16) :=
  let r := scanEntry (cString entry) [] 0
  if r.index = 2 then some (cString r.hostname_s, r.port.toUInt32.toUInt16) else none

/-- All hosts of a hostfile. -/
def endpoints (file : HostText) : Finset (List UInt8 × UInt16) :=
  (file.tokens.filterMap endpoint).toFinset

/-- The host that openTask is about, from its locals. -/
def target (o : Opener) : List UInt8 × UInt16 := (cString o.hostname_s, o.port16)

theorem mem_endpoints {file : HostText} {e : List UInt8 × UInt16} :
    e ∈ endpoints file ↔ ∃ token ∈ file.tokens, endpoint token = some e := by
  rw [endpoints, List.mem_toFinset, List.mem_filterMap]

/-- What the locals held before an entry does not matter. -/
theorem endpoint_scan {entry hostname_s : List UInt8} {port : Int32}
    (h : (scanEntry (cString entry) hostname_s port).index = 2) :
    endpoint entry = some (cString (scanEntry (cString entry) hostname_s port).hostname_s,
      (scanEntry (cString entry) hostname_s port).port.toUInt32.toUInt16) := by
  obtain ⟨hhost, value, hvalue⟩ := scanEntry_index h
  have hnul : 0 ∉ hostText (cString entry) := by
    intro hmem
    exact zero_notMem_cString entry (List.takeWhile_subset _ hmem)
  rw [endpoint, scanEntry_two hostname_s port hhost hvalue, scanEntry_two [] 0 hhost hvalue,
    if_pos rfl, cString_storeString hnul, cString_storeString hnul]

theorem index_of_endpoint {entry : List UInt8} {e : List UInt8 × UInt16}
    (h : endpoint entry = some e) (hostname_s : List UInt8) (port : Int32) :
    (scanEntry (cString entry) hostname_s port).index = 2 := by
  unfold endpoint at h
  dsimp only at h
  split_ifs at h with hindex
  obtain ⟨hhost, value, hvalue⟩ := scanEntry_index hindex
  rw [scanEntry_two hostname_s port hhost hvalue]

theorem zero_notMem_endpoint {file : HostText} {e : List UInt8 × UInt16}
    (h : e ∈ endpoints file) : 0 ∉ e.1 := by
  obtain ⟨token, -, htoken⟩ := mem_endpoints.mp h
  unfold endpoint at htoken
  dsimp only at htoken
  split_ifs at htoken
  obtain rfl := Option.some.inj htoken
  exact zero_notMem_cString _

section openTask

variable {addressToIp4 : List UInt8 → Bool} {env : OpenEnv} {o o' : Opener} {p p' : ClientSide}

/-- openTask looks for a host that it has just read. -/
theorem openStep_asks (h : openStep addressToIp4 env o p = some (o', p')) (hpc : o.pc = .entry)
    (hcheck : o'.pc = .check) :
    ∃ line, env.line = some line ∧ endpoint line = some (target o') := by
  simp only [openStep, hpc] at h
  cases hline : env.line with
  | none =>
    simp only [hline] at h
    obtain ⟨rfl, -⟩ := Prod.mk.inj (Option.some.inj h)
    cases hcheck
  | some line =>
    simp only [hline] at h
    obtain ⟨rfl, -⟩ := Prod.mk.inj (Option.some.inj h)
    refine ⟨line, rfl, ?_⟩
    by_cases hindex : (scanEntry (cString line) o.hostname_s o.port).index = 2
    · exact endpoint_scan hindex
    · simp only [if_neg hindex] at hcheck
      cases hcheck

/-- openTask looks for every host that it reads. -/
theorem openStep_reads {line : List UInt8} {e : List UInt8 × UInt16}
    (h : openStep addressToIp4 env o p = some (o', p')) (hpc : o.pc = .entry)
    (hline : env.line = some line) (he : endpoint line = some e) :
    o'.pc = .check ∧ target o' = e := by
  have hindex := index_of_endpoint he o.hostname_s o.port
  simp only [openStep, hpc, hline, hindex, if_true, Option.some.injEq, Prod.mk.injEq] at h
  obtain ⟨rfl, -⟩ := h
  exact ⟨rfl, Option.some.inj ((endpoint_scan hindex).symm.trans he)⟩

/-- A socket that is open after a statement of openTask has been open before, or has just been
opened; its host is the old one. -/
theorem open_slot (h : EndpointInv o p) (he : OpenEffect addressToIp4 env o p o' p')
    {j : Fin maxClients} {c : Conn} (hj : (p'.manager.sockets j).fd = some c) :
    ((p.manager.sockets j).fd = some c ∨ o.pc = .openSocket j) ∧
      (p'.manager.sockets j).hostname = (p.manager.sockets j).hostname ∧
      (p'.manager.sockets j).port = (p.manager.sockets j).port := by
  cases he with
  | setHost i hpc =>
    rw [setHost_peer] at hj
    have hji : j ≠ i := by
      intro hji
      subst hji
      have hclosed := h.slotClosed j (.inl hpc)
      rw [PeerSocket.isOpened, hj] at hclosed
      cases hclosed
    rw [ClientSide.setSocket, TcpClientManager.set_ne _ _ hji]
    exact ⟨.inl hj, rfl, rfl⟩
  | opened i hpc =>
    by_cases hji : j = i
    · subst hji
      simp only [setPeer_self]
      exact ⟨.inr hpc, trivial, trivial⟩
    · simp only [setPeer_ne _ _ _ hji] at hj ⊢
      exact ⟨.inl hj, trivial, trivial⟩
  | idNotSent i =>
    have hji := ne_of_setPeer_closed rfl hj
    simp only [setPeer_ne _ _ _ hji] at hj ⊢
    exact ⟨.inl hj, trivial, trivial⟩
  | idReceived i d hpc hopen =>
    by_cases hji : j = i
    · subst hji
      simp only [setPeer_self] at hj ⊢
      exact ⟨.inl (hopen.trans hj), trivial, trivial⟩
    · simp only [setPeer_ne _ _ _ hji] at hj ⊢
      exact ⟨.inl hj, trivial, trivial⟩
  | idNotReceived i =>
    have hji := ne_of_setPeer_closed rfl hj
    simp only [setPeer_ne _ _ _ hji] at hj ⊢
    exact ⟨.inl hj, trivial, trivial⟩
  | closed i =>
    by_cases hji : j = i
    · subst hji
      rw [close_self] at hj
      cases hj
    · rw [close_ne _ hji] at hj ⊢
      exact ⟨.inl hj, rfl, rfl⟩
  | closedAll => cases hj
  | _ => exact ⟨.inl hj, rfl, rfl⟩

end openTask

/-- What openTask keeps true while nobody stops it: its sockets are for hosts of the file, and a
connection that is not in its handshake has been through it. -/
structure Dials (file : HostText) (o : Opener) (p : ClientSide) : Prop where
  pool : EndpointInv o p
  going : o.stop = false ∧ o.pc ≠ .closeAll ∧ o.pc ≠ .done
  listed : ∀ i host port, OpenFor p i host port → (host, port) ∈ endpoints file
  asked : o.pc = .check ∨ Pending o.pc → target o ∈ endpoints file
  closing : ∀ i, o.pc = .close i → (p.manager.sockets i).fd = none
  greeted : ∀ i c, (p.manager.sockets i).fd = some c →
    o.pc = .sendClientID i ∨ o.pc = .recvSrvrID i ∨ HandshakeDone p.log c

theorem dials_init (file : HostText) (deviceID : UInt32) (adjM : Nat → UInt8) :
    Dials file {} { deviceID := deviceID, adjM := adjM } where
  pool := endpointInv_init deviceID adjM
  going := by simp
  listed i _ _ h := absurd h.1 (by simp [PeerSocket.isOpened])
  asked h := by rcases h with h | h <;> cases h
  closing i _ := rfl
  greeted i c h := by cases h

namespace Dials

variable {file : HostText} {o : Opener} {p p' : ClientSide}

/-- Nothing is lost where sockets are only closed. -/
theorem mono (h : Dials file o p) (hp : EndpointInv o p')
    (hfd : ∀ i c, (p'.manager.sockets i).fd = some c → (p.manager.sockets i).fd = some c)
    (hhost : ∀ i, (p'.manager.sockets i).hostname = (p.manager.sockets i).hostname ∧
      (p'.manager.sockets i).port = (p.manager.sockets i).port)
    (hlog : ∀ e ∈ p.log, e ∈ p'.log) : Dials file o p' := by
  refine ⟨hp, h.going, ?_, h.asked, ?_, ?_⟩
  · intro i host port hi
    obtain ⟨hopen, rfl, rfl⟩ := hi
    obtain ⟨c, hc⟩ := (PeerSocket.isOpened_iff _).mp hopen
    rw [(hhost i).1, (hhost i).2]
    exact h.listed i _ _ ⟨(PeerSocket.isOpened_iff _).mpr ⟨c, hfd i c hc⟩, rfl, rfl⟩
  · intro i hi
    cases hc : (p'.manager.sockets i).fd with
    | none => rfl
    | some c => exact absurd (hfd i c hc) (by simp [h.closing i hi])
  · intro i c hc
    rcases h.greeted i c (hfd i c hc) with hpc | hpc | hdone
    · exact .inl hpc
    · exact .inr (.inl hpc)
    · obtain ⟨e, he, hcomp⟩ := hdone
      exact .inr (.inr ⟨e, hlog e he, hcomp⟩)

theorem send {env : SendEnv} {op : SendOp} (h : Dials file o p) (he : SendEffect env op p p') :
    Dials file o p' := by
  have hpool := h.pool.send he
  cases he with
  | quiet => exact h.mono hpool (fun _ _ => id) (fun _ => ⟨rfl, rfl⟩) fun _ => id
  | sent => exact h.mono hpool (fun _ _ => id) (fun _ => ⟨rfl, rfl⟩) fun _ => List.mem_cons_of_mem _
  | reset i =>
    refine h.mono hpool ?_ ?_ fun _ => List.mem_cons_of_mem _
    · intro j c hj
      have hji := ne_of_setPeer_closed rfl hj
      rwa [setPeer_ne _ _ _ hji] at hj
    · intro j
      by_cases hji : j = i
      · subst hji
        simp
      · simp [hji]
  | closed i =>
    refine h.mono hpool ?_ ?_ fun _ => id
    · intro j c hj
      by_cases hji : j = i
      · subst hji
        rw [close_self] at hj
        cases hj
      · rwa [close_ne _ hji] at hj
    · intro j
      by_cases hji : j = i
      · subst hji
        simp [MultiTcpClientSocket.close]
      · simp [hji]

section openTask

variable {addressToIp4 : List UInt8 → Bool} {env : OpenEnv} {o' : Opener}

/-- The connections in a handshake are those that openTask is about. -/
theorem greeted_openStep (h : Dials file o p) (he : OpenEffect addressToIp4 env o p o' p')
    {i : Fin maxClients} {c : Conn} (hc : (p'.manager.sockets i).fd = some c) :
    o'.pc = .sendClientID i ∨ o'.pc = .recvSrvrID i ∨ HandshakeDone p'.log c := by
  obtain ⟨hold, -⟩ := open_slot h.pool he hc
  have done (hpc : o.pc ≠ .openSocket i ∧ o.pc ≠ .sendClientID i ∧ o.pc ≠ .recvSrvrID i) :
      HandshakeDone p.log c := by
    have hfd := hold.resolve_right hpc.1
    exact ((h.greeted i c hfd).resolve_left hpc.2.1).resolve_left hpc.2.2
  cases he with
  | opened j hpc =>
    by_cases hij : i = j
    · subst hij
      exact .inl rfl
    · exact .inr (.inr (done (by simp [hpc, Ne.symm hij])))
  | idSent j hpc =>
    by_cases hij : i = j
    · subst hij
      exact .inr (.inl rfl)
    · exact .inr (.inr (done (by simp [hpc, Ne.symm hij])))
  | idReceived j d hpc =>
    by_cases hij : i = j
    · subst hij
      rw [setPeer_self] at hc
      exact .inr (.inr ⟨_, List.mem_cons_self, Option.some.inj hc⟩)
    · obtain ⟨e, he, hcomp⟩ := done (by simp [hpc, Ne.symm hij])
      exact .inr (.inr ⟨e, List.mem_cons_of_mem _ he, hcomp⟩)
  | idNotSent j hpc =>
    have hij := ne_of_setPeer_closed rfl hc
    exact .inr (.inr (done (by simp [hpc, Ne.symm hij])))
  | idNotReceived j hpc =>
    have hij := ne_of_setPeer_closed rfl hc
    exact .inr (.inr (done (by simp [hpc, Ne.symm hij])))
  | notOpened j hpc hclosed =>
    by_cases hij : i = j
    · subst hij
      rw [PeerSocket.isOpened, hc] at hclosed
      cases hclosed
    · exact .inr (.inr (done (by simp [hpc, Ne.symm hij])))
  | closedAll => cases hc
  | _ => exact .inr (.inr (done (by simp [*])))

theorem openStep (h : Dials file o p)
    (haddr : ∀ hostname, addressToIp4 hostname = true → 7 ≤ hostname.length)
    (hline : ∀ line, env.line = some line → o.pc = .entry → line ∈ file.tokens)
    (hs : openStep addressToIp4 env o p = some (o', p')) : Dials file o' p' := by
  have he := openStep_effect addressToIp4 hs
  refine ⟨h.pool.openStep haddr he, ?_, ?_, ?_, ?_, fun i c => h.greeted_openStep he⟩
  · obtain ⟨hstop, hnotClosing, hnotDone⟩ := h.going
    cases he with
    | again pc hpc hnext =>
      simp only [Driver.openStep, hpc, hstop] at hs
      obtain ⟨ho, -⟩ := Prod.mk.inj (Option.some.inj hs)
      obtain rfl : OpenPc.entry = pc := congrArg Opener.pc ho
      simp [hstop]
    | closedAll hpc => exact absurd hpc hnotClosing
    | entry _ _ _ _ hpc => rcases hpc with rfl | rfl <;> simp [hstop]
    | _ => simp [hstop]
  · intro i host port hi
    obtain ⟨hopen, rfl, rfl⟩ := hi
    obtain ⟨c, hc⟩ := (PeerSocket.isOpened_iff _).mp hopen
    obtain ⟨hold, hhost, hport⟩ := open_slot h.pool he hc
    rw [hhost, hport]
    rcases hold with hfd | hpc
    · exact h.listed i _ _ ⟨(PeerSocket.isOpened_iff _).mpr ⟨c, hfd⟩, rfl, rfl⟩
    · obtain ⟨hname, hnumber⟩ := h.pool.configured i hpc
      rw [hname, hnumber]
      exact h.asked (.inr (hpc ▸ trivial))
  · intro hpc'
    cases he with
    | entry hostname_s port pc hpc hnext =>
      rcases hnext with rfl | rfl
      · obtain ⟨line, hread, hend⟩ := openStep_asks hs hpc rfl
        exact mem_endpoints.mpr ⟨line, hline line hread hpc, hend⟩
      · rcases hpc' with hpc' | hpc' <;> cases hpc'
    | unknown hpc => exact h.asked (.inl hpc)
    | slot i hpc => exact h.asked (.inr (hpc ▸ trivial))
    | setHost i hpc => exact h.asked (.inr (hpc ▸ trivial))
    | again pc _ hnext =>
      rcases hnext with rfl | rfl <;> rcases hpc' with hpc' | hpc' <;> cases hpc'
    | _ => rcases hpc' with hpc' | hpc' <;> cases hpc'
  · intro i hi
    cases he with
    | notOpened j _ hclosed =>
      obtain rfl : j = i := by simpa using hi
      exact Option.not_isSome_iff_eq_none.mp (Bool.eq_false_iff.mp hclosed)
    | idNotSent j =>
      obtain rfl : j = i := by simpa using hi
      simp
    | idNotReceived j =>
      obtain rfl : j = i := by simpa using hi
      simp
    | entry _ _ _ _ hnext => rcases hnext with rfl | rfl <;> cases hi
    | again _ _ hnext => rcases hnext with rfl | rfl <;> cases hi
    | _ => cases hi

end openTask

section node

variable {addressToIp4 : List UInt8 → Bool} {s t : Deployment} {k : Nat}

theorem step (h : Dials file s.outbound.opener s.outbound.side)
    (haddr : ∀ hostname, addressToIp4 hostname = true → 7 ≤ hostname.length)
    (hfile : HostsInTurn file k s) {act : DeploymentAct} (hact : act ≠ .teardown)
    (hs : s.step addressToIp4 act = some t) :
    Dials file t.outbound.opener t.outbound.side := by
  cases outbound_view hact hs with
  | same _ hsame => rwa [hsame]
  | openTask env line hu hentries =>
    obtain ⟨⟨o, p⟩, hstep, heq⟩ := Option.map_eq_some_iff.mp hu
    rw [← heq]
    refine h.openStep haddr ?_ hstep
    intro token htoken hpc
    obtain rfl : line = some token := htoken
    obtain ⟨-, hline⟩ := hfile.step hact hs
    rw [hentries, if_pos hpc] at hline
    exact List.mem_of_getElem? (hline _ (List.mem_singleton.mpr rfl)).symm
  | sendHandler j unset b hu =>
    cases Outbound.step_effect addressToIp4 hu with
    | sendHandler _ _ _ _ ho hp => rwa [ho, hp]
  | send j env hu =>
    cases Outbound.step_effect addressToIp4 hu with
    | send _ _ op c _ _ ho he =>
      rw [ho]
      exact h.send he

end node

end Dials

/-- openTask goes through the hostfile in turn, and its sockets are for hosts of the file only. -/
structure ServesHosts (file : HostText) (t : Deployment) (entries : List (Option (List UInt8))) :
    Prop where
  inTurn : ∀ i line, entries[i]? = some line → line = file.tokens[i % file.tokens.length]?
  listed : ∀ i host port, OpenFor t.outbound.side i host port →
    ∃ token ∈ file.tokens, endpoint token = some (host, port)

/-- The invariant of a node whose teardown has not begun. -/
theorem dials_reached {addressToIp4 : List UInt8 → Bool}
    (haddr : ∀ hostname, addressToIp4 hostname = true → 7 ≤ hostname.length) {file : HostText}
    {k : Nat} {x y : Deployment × List (Option (List UInt8))} {acts : List DeploymentAct}
    (hfile : EntriesInTurn file k x)
    (hdials : Dials file x.1.outbound.opener x.1.outbound.side)
    (hrun : run (recordStep (Deployment.step addressToIp4) hostEntries) x acts = some y)
    (hteardown : y.1.teardown = .closeFile) :
    EntriesInTurn file k y ∧ Dials file y.1.outbound.opener y.1.outbound.side := by
  have h := run_invariant_all (I := fun x => x.1.teardown = .closeFile →
    EntriesInTurn file k x ∧ Dials file x.1.outbound.opener x.1.outbound.side) ?_
    (fun _ => ⟨hfile, hdials⟩) hrun
  · exact h hteardown
  · intro x act y hx hs hy
    obtain ⟨t, ht, rfl⟩ := Option.map_eq_some_iff.mp hs
    obtain ⟨hact, hbefore⟩ := teardown_begins ht hy
    obtain ⟨hentries, hlinks⟩ := hx hbefore
    exact ⟨hentries.step hact hs, hlinks.step haddr hentries.position hact ht⟩

theorem entriesInTurn_init (deviceID : UInt32) (adjM : Nat → UInt8) (idProtocol : Bool)
    (file : HostText) (baseFd : Int) : EntriesInTurn file 0
      (.configured deviceID adjM idProtocol file.content baseFd, []) where
  position := ⟨_, rfl, 0, ⟨rfl, rfl⟩, fun hn => by rw [HostText.turn, if_pos hn]; rfl⟩
  entries _ _ h := by cases h

/-- The entries of the hostfile come round and round, whatever the other tasks do, and openTask
connects to nothing else, until the teardown closes the file. -/
theorem hosts_in_turn (addressToIp4 : List UInt8 → Bool)
    (haddr : ∀ hostname, addressToIp4 hostname = true → 7 ≤ hostname.length)
    (deviceID : UInt32) (adjM : Nat → UInt8) (idProtocol : Bool) (file : HostText) (baseFd : Int)
    (acts : List DeploymentAct) (t : Deployment) (entries : List (Option (List UInt8)))
    (hrun : run (recordStep (Deployment.step addressToIp4) hostEntries)
      (.configured deviceID adjM idProtocol file.content baseFd, []) acts = some (t, entries))
    (hteardown : t.teardown = .closeFile) : ServesHosts file t entries := by
  obtain ⟨hentries, hdials⟩ := dials_reached haddr
    (entriesInTurn_init deviceID adjM idProtocol file baseFd)
    (dials_init file deviceID adjM) hrun hteardown
  refine ⟨?_, ?_⟩
  · intro i line hi
    have hline := hentries.entries i line hi
    rwa [Nat.zero_add] at hline
  · intro i host port hi
    exact mem_endpoints.mp (hdials.listed i host port hi)

/-- "10.0.0.1:80\n10.0.0.2:80" -/
def pairFile : HostText where
  content := [0x31, 0x30, 0x2E, 0x30, 0x2E, 0x30, 0x2E, 0x31, 0x3A, 0x38, 0x30, 0x0A,
    0x31, 0x30, 0x2E, 0x30, 0x2E, 0x30, 0x2E, 0x32, 0x3A, 0x38, 0x30]
  noNul := by decide
  short := by decide

def pairStart : Deployment :=
  .configured baseID (initAdjacencyMatrix fun _ => 0) true pairFile.content 3

/-- openTask connects to both hosts, and reads the file again from its start. -/
def pairRounds : List DeploymentAct :=
  (connectEnvs 0x31 0x20202021 ++ connectEnvs 0x32 0x20202022 ++
    List.replicate 3 ({} : OpenEnv)).map .openTask

def pairRead : Deployment × List (Option (List UInt8)) :=
  (run (recordStep (Deployment.step fun host => 7 ≤ host.length) hostEntries) (pairStart, [])
    pairRounds).get (by decide +kernel)

theorem hosts_in_turn_pair : pairRead.2.length = 3 ∧ ServesHosts pairFile pairRead.1 pairRead.2 :=
  ⟨by decide +kernel, hosts_in_turn (fun host => 7 ≤ host.length) (fun _ => of_decide_eq_true)
    baseID (initAdjacencyMatrix fun _ => 0) true pairFile 3 pairRounds _ _
    (Option.some_get (by decide +kernel)).symm (by decide +kernel)⟩

end MeshNetwork.Node
