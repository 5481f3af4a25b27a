import MeshNetwork.Network.Messages

namespace MeshNetwork.Network

open Driver Framing Node PacketCode Positioning

section programs

/-- The answers to a send that the branch for one node reports as SEND_OK. -/
def ReportedOk : (o : SendOp) → o.Ans → Prop
  | .send _ _ _, x => x.1 = .success ∨ x.1 = .disconnected ∨ x.1 = .interruptedTryAgain
  | _, _ => False

/-- Until a send gets such an answer, the program does not come to say SEND_OK. -/
def OkNeedsSend : SendM (Option SendStatus) → Prop
  | .pure a => a ≠ some .sendOk
  | .call o k => ∀ x, Answers o x → ¬ReportedOk o x → OkNeedsSend (k x)

def saysOk : SendM (Option SendStatus) → Bool
  | .pure a => a = some .sendOk
  | .call _ _ => false

theorem OkNeedsSend.not_saysOk {c : SendM (Option SendStatus)} (h : OkNeedsSend c) :
    saysOk c = false := by
  cases c with
  | pure a => exact decide_eq_false h
  | call o k => rfl

theorem unicast_okNeedsSend (frame : List UInt8) (receiverID : UInt32) :
    OkNeedsSend (unicast frame receiverID) := by
  have error : some SendStatus.sendError ≠ some .sendOk := by decide
  have asserted : (none : Option SendStatus) ≠ some .sendOk := by decide
  intro answer _ _
  rcases answer with _ | _ | _
  · exact asserted
  · exact fun _ _ _ => error
  · intro connected _ _
    cases connected with
    | false => exact fun _ _ _ => error
    | true =>
      intro slot _ _
      cases slot with
      | none => exact asserted
      | some i =>
        intro r _ hr _ _ _
        obtain ⟨hsuccess, hretry⟩ := not_or.mp hr
        simp only [afterUnicast, if_neg hretry, if_pos hsuccess]
        split_ifs
        · intro handler _ _
          cases handler with
          | none => exact asserted
          | some j => exact fun _ _ _ => error
        · exact error

theorem sendHandler_okNeedsSend (b : FwBuffer) (hdest : (headerScan b).receiverID ≠ broadcastID)
    (unset : SocketIpStatus) : OkNeedsSend (sendHandler true unset b) := by
  have unicasts : OkNeedsSend (if (headerScan b).receiverID = broadcastID then
      sendToAll b.contents unset else unicast b.contents (headerScan b).receiverID) := by
    rw [if_neg hdest]
    exact unicast_okNeedsSend _ _
  intro _ _ _
  unfold checkHeader
  split_ifs
  · exact fun _ _ _ _ _ _ => unicasts
  · exact fun _ _ _ => unicasts
  · exact fun _ _ _ => unicasts

end programs

/-- What a step says about the message of a call of send_handler. -/
inductive Verdict where
  | acked
  | spoilt
  deriving DecidableEq, Repr

/-- A send finds its slot closed, or a reset or an interruption ends it. -/
def spoils (env : SendEnv) (p : ClientSide) : SendOp → Bool
  | .send i frame _ =>
    let status := ((p.manager.sockets i).send frame (env.send i)).1
    status = .disconnected ∨ status = .interruptedTryAgain
  | _ => false

/-- A call is acknowledged where it ends with SEND_OK. -/
def verdicts (s : Outbound) : OutboundAct → List (Nat × Verdict)
  | .send k env =>
    match s.calls k with
    | .pure _ => []
    | .call o c =>
      (if spoils env s.side o then [(k, .spoilt)] else []) ++
        if saysOk (c (perform env o s.side).1) then [(k, .acked)] else []
  | _ => []

theorem mem_verdicts {s : Outbound} {act : OutboundAct} {x : Nat × Verdict} :
    x ∈ verdicts s act ↔ ∃ k env o c, act = .send k env ∧ s.calls k = .call o c ∧
      (x = (k, .spoilt) ∧ spoils env s.side o = true ∨
        x = (k, .acked) ∧ saysOk (c (perform env o s.side).1) = true) := by
  constructor
  · intro hx
    cases act with
    | send k env =>
      simp only [verdicts] at hx
      split at hx
      · cases hx
      · next o c hk =>
        refine ⟨k, env, o, c, rfl, hk, ?_⟩
        rcases List.mem_append.mp hx with hx | hx
        · split_ifs at hx with hspoils
          · exact .inl ⟨List.mem_singleton.mp hx, hspoils⟩
          · cases hx
        · split_ifs at hx with hsays
          · exact .inr ⟨List.mem_singleton.mp hx, hsays⟩
          · cases hx
    | _ => cases hx
  · intro hx
    obtain ⟨k, env, o, c, rfl, hk, hx⟩ := hx
    simp only [verdicts, hk, List.mem_append]
    rcases hx with hx | hx
    · exact .inl (by simp [hx.1, hx.2])
    · exact .inr (by simp [hx.1, hx.2])

theorem calls_send {addressToIp4 : List UInt8 → Bool} {s t : Outbound} {k : Nat} {env : SendEnv}
    {o : SendOp} {c : o.Ans → SendM (Option SendStatus)}
    (hs : s.step addressToIp4 (.send k env) = some t) (hk : s.calls k = .call o c) :
    t.calls = Function.update s.calls k (c (perform env o s.side).1) := by
  simp only [Outbound.step, hk, Prog.step, Option.map_some] at hs
  obtain rfl := Option.some.inj hs
  rfl

/-- What a step does to a call: nothing, or one operation. -/
theorem calls_step {addressToIp4 : List UInt8 → Bool} {s t : Outbound} {act : OutboundAct}
    (hact : ∀ k unset b, act ≠ .sendHandler k unset b) (hs : s.step addressToIp4 act = some t)
    (k : Nat) : t.calls k = s.calls k ∨ ∃ env o c, act = .send k env ∧ s.calls k = .call o c ∧
      t.calls k = c (perform env o s.side).1 := by
  cases Outbound.step_effect addressToIp4 hs with
  | openTask env hcalls => exact .inl (congrFun hcalls k)
  | sendHandler k unset b => exact absurd rfl (hact k unset b)
  | send k' env o c hk hcalls =>
    by_cases hkk : k = k'
    · subst hkk
      exact .inr ⟨env, o, c, rfl, hk, by rw [hcalls, Function.update_self]⟩
    · exact .inl (by rw [hcalls, Function.update_of_ne hkk])
  | stop hcalls => exact .inl (congrFun hcalls k)
  | closeAll hcalls => exact .inl (congrFun hcalls k)

/-- A send that is reported as SEND_OK has succeeded on an open slot, or it is spoilt. -/
theorem reportedOk_cases {env : SendEnv} {p : ClientSide} {o : SendOp}
    (h : ReportedOk o (perform env o p).1) : spoils env p o = true ∨
      ∃ i frame dest e, o = .send i frame dest ∧ (p.manager.sockets i).fd = some e ∧
        (env.send i).status = .success := by
  cases o with
  | send i frame dest =>
    rcases h with hsuccess | hretry
    · cases hi : (p.manager.sockets i).fd with
      | none =>
        simp [perform, MultiTcpClientSocket.send, PeerSocket.send, PeerSocket.isOpened, hi]
          at hsuccess
      | some e =>
        refine .inr ⟨i, frame, dest, e, rfl, hi, ?_⟩
        simpa [perform, MultiTcpClientSocket.send, PeerSocket.send, PeerSocket.isOpened, hi]
          using hsuccess
    · exact .inl (decide_eq_true hretry)
  | _ => exact h.elim

section node

variable {M μ : Type} (d : Dispatch M μ) (box : Outbox M) (s : Outbound)

/-- `v` has what the calls have said about the messages so far. What has been acknowledged has been
sent, or a send of it was spoilt. -/
structure Honest (sent : Conn → List (Nat × M)) (v : List (Nat × Verdict)) : Prop where
  known : ∀ k, box.current k < box.messages.length ∨ ∃ a, s.calls k = .pure a ∧ a ≠ some .sendOk
  kept : ∀ k, ForOne d box k → OkNeedsSend (s.calls k) ∨ (box.current k, .spoilt) ∈ v ∨
    ∃ c, box.current k ∈ (sent c).map Prod.fst
  acked : ∀ n, (n, .acked) ∈ v → n < box.messages.length ∧
    ∀ m, box.messages[n]? = some m → d.dest m ≠ broadcastID →
      (n, .spoilt) ∈ v ∨ ∃ c, n ∈ (sent c).map Prod.fst

variable {d box s}

namespace Honest

variable {t : Outbound} {sent sent' : Conn → List (Nat × M)} {v : List (Nat × Verdict)}

/-- A step that begins no call. -/
theorem step (h : Honest d box s sent v) {addressToIp4 : List UInt8 → Bool} {act : OutboundAct}
    (hact : ∀ k unset b, act ≠ .sendHandler k unset b) (hs : s.step addressToIp4 act = some t)
    (hsent : SendsOn d box s t act sent sent') :
    Honest d box t sent' (v ++ (verdicts s act).map fun x => (box.current x.1, x.2)) := by
  have hstays {n : Nat} (hn : (n, .spoilt) ∈ v ∨ ∃ c, n ∈ (sent c).map Prod.fst) :
      (n, .spoilt) ∈ v ++ (verdicts s act).map (fun x => (box.current x.1, x.2)) ∨
        ∃ c, n ∈ (sent' c).map Prod.fst := by
    rcases hn with hn | hn
    · exact .inl (List.mem_append_left _ hn)
    · obtain ⟨c, hn⟩ := hn
      exact .inr ⟨c, ((hsent.grows c).map Prod.fst).mem hn⟩
  have hkept (k : Nat) (hk : ForOne d box k) : OkNeedsSend (t.calls k) ∨
      (box.current k, .spoilt) ∈ v ++ (verdicts s act).map (fun x => (box.current x.1, x.2)) ∨
        ∃ c, box.current k ∈ (sent' c).map Prod.fst := by
    rcases h.kept k hk with hneeds | hn
    · rcases calls_step hact hs k with hsame | hcall
      · exact .inl (hsame ▸ hneeds)
      · obtain ⟨env, o, c, rfl, hcall, hnext⟩ := hcall
        rw [hcall] at hneeds
        by_cases hok : ReportedOk o (perform env o s.side).1
        · rcases reportedOk_cases hok with hspoils | hwritten
          · have hmem := mem_verdicts.mpr ⟨k, env, o, c, rfl, hcall, .inl ⟨rfl, hspoils⟩⟩
            exact .inr (.inl (List.mem_append_right _ (List.mem_map_of_mem hmem)))
          · obtain ⟨i, frame, dest, e, rfl, hi, hsuccess⟩ := hwritten
            exact .inr (.inr ⟨e, hsent.whole k env i frame dest c e rfl hcall hi hsuccess⟩)
        · rw [hnext]
          exact .inl (hneeds _ (perform_answers env o s.side) hok)
    · exact .inr (hstays hn)
  have hlt {k : Nat} {o : SendOp} {c : o.Ans → SendM (Option SendStatus)}
      (hcall : s.calls k = .call o c) : box.current k < box.messages.length := by
    refine (h.known k).resolve_right ?_
    intro hpure
    obtain ⟨a, ha, -⟩ := hpure
    cases hcall.symm.trans ha
  refine ⟨?_, hkept, ?_⟩
  · intro k
    rcases calls_step hact hs k with hsame | hcall
    · rw [hsame]
      exact h.known k
    · obtain ⟨env, o, c, -, hcall, -⟩ := hcall
      exact .inl (hlt hcall)
  · intro n hn
    rcases List.mem_append.mp hn with hn | hn
    · obtain ⟨hn, hsaid⟩ := h.acked n hn
      exact ⟨hn, fun m hm hdest => hstays (hsaid m hm hdest)⟩
    · obtain ⟨x, hx, heq⟩ := List.mem_map.mp hn
      obtain ⟨k, env, o, c, rfl, hcall, hx | hx⟩ := mem_verdicts.mp hx
      · obtain ⟨rfl, -⟩ := hx
        cases heq
      · obtain ⟨rfl, hsays⟩ := hx
        cases heq
        refine ⟨hlt hcall, ?_⟩
        intro m hm hdest
        refine (hkept k ⟨m, hm, hdest⟩).resolve_left ?_
        intro hneeds
        rw [calls_send hs hcall, Function.update_self] at hneeds
        rw [hneeds.not_saysOk] at hsays
        cases hsays

/-- A call begins, with one more message. -/
theorem posted (h : Honest d box s sent v) {k : Nat} {m : M} {c : SendM (Option SendStatus)}
    (hcalls : t.calls = Function.update s.calls k c)
    (hc : d.dest m ≠ broadcastID → OkNeedsSend c) : Honest d (box.post k m) t sent v := by
  have hother {j : Nat} (hj : j ≠ k) : t.calls j = s.calls j := by
    rw [hcalls, Function.update_of_ne hj]
  have hgrown : (box.post k m).messages.length = box.messages.length + 1 := List.length_append
  refine ⟨?_, ?_, ?_⟩
  · intro j
    by_cases hj : j = k
    · rw [hj, post_current_self, hgrown]
      exact .inl (Nat.lt_succ_self _)
    · rw [post_current_ne box k m hj, hother hj, hgrown]
      exact (h.known j).imp_left Nat.lt_succ_of_lt
  · intro j hone
    obtain ⟨m', hm', hdest⟩ := hone
    by_cases hj : j = k
    · rw [hj, post_current_self, post_new] at hm'
      obtain rfl := Option.some.inj hm'
      rw [hj, hcalls, Function.update_self]
      exact .inl (hc hdest)
    · rw [post_current_ne box k m hj] at hm' ⊢
      rw [hother hj]
      rcases h.known j with hlt | hpure
      · rw [post_old box k m hlt] at hm'
        exact h.kept j ⟨m', hm', hdest⟩
      · obtain ⟨a, ha, hne⟩ := hpure
        rw [ha]
        exact .inl hne
  · intro n hn
    obtain ⟨hlt, hsaid⟩ := h.acked n hn
    rw [hgrown, post_old box k m hlt]
    exact ⟨Nat.lt_succ_of_lt hlt, hsaid⟩

end Honest

end node

variable {ι : Type} [DecidableEq ι] {link : HubLink}

/-- What the steps of a network say about the messages of its nodes. -/
def Swarm.verdicts (s : Swarm ι link) : SwarmAct ι → List (ι × Nat × Verdict)
  | .client a act =>
    (Network.verdicts (s.mesh.clients a).1 act).map fun x => (a, (s.outboxes a).current x.1, x.2)
  | _ => []

/-- What node `a` has sent, and what its calls have said of it. -/
structure HonestAt (s : Swarm ι link) (a : ι) (sent : Conn → List (Nat × link.Message))
    (history : List (ι × Nat × Verdict)) : Prop where
  all : AllDispatched link.dispatch (s.outboxes a) (s.mesh.clients a).1 sent
  honest : Honest link.dispatch (s.outboxes a) (s.mesh.clients a).1 sent (messagesOf a history)

def AllHonest (s : Swarm ι link) (history : List (ι × Nat × Verdict)) : Prop :=
  ∃ sent : ι → Conn → List (Nat × link.Message), ∀ a, HonestAt s a (sent a) history

/-- The network with the history of what its calls have said. -/
structure Accounted (IDs : ι → UInt32) (x : Swarm ι link × List (ι × Nat × Verdict)) : Prop where
  inv : x.1.Inv IDs
  honest : AllHonest x.1 x.2

section step

variable {addressToIp4 : List UInt8 → Bool} {node : List UInt8 → UInt16 → Option ι}
  {IDs : ι → UInt32} {s t : Swarm ι link} {history : List (ι × Nat × Verdict)}
  {sent : ι → Conn → List (Nat × link.Message)} {a : ι}

/-- A step of node `a`, which says `news`. -/
theorem HonestAt.clientStep (h : ∀ a, HonestAt s a (sent a) history)
    (sent' : Conn → List (Nat × link.Message)) (news : List (Nat × Verdict))
    (hself : AllDispatched link.dispatch (t.outboxes a) (t.mesh.clients a).1 sent' ∧
      Honest link.dispatch (t.outboxes a) (t.mesh.clients a).1 sent'
        (messagesOf a history ++ news))
    (hother : ∀ a', a' ≠ a →
      t.outboxes a' = s.outboxes a' ∧ t.mesh.clients a' = s.mesh.clients a') :
    AllHonest t (history ++ news.map (a, ·)) := by
  refine ⟨Function.update sent a sent', ?_⟩
  intro a'
  by_cases ha : a' = a
  · subst ha
    refine ⟨?_, ?_⟩
    · rw [Function.update_self]
      exact hself.1
    · rw [Function.update_self, messagesOf_append, messagesOf_source, if_pos rfl]
      exact hself.2
  · obtain ⟨hbox, hclient⟩ := hother a' ha
    refine ⟨?_, ?_⟩
    · rw [Function.update_of_ne ha, hbox, hclient]
      exact (h a').all
    · rw [Function.update_of_ne ha, hbox, hclient, messagesOf_append, messagesOf_source,
        if_neg (Ne.symm ha), List.append_nil]
      exact (h a').honest

/-- A step in which no node sends. -/
theorem HonestAt.quiet (h : ∀ a, HonestAt s a (sent a) history) (hbox : t.outboxes = s.outboxes)
    (hclients : t.mesh.clients = s.mesh.clients) :
    AllHonest t (history ++ []) := by
  refine ⟨sent, ?_⟩
  intro a
  rw [List.append_nil]
  exact ⟨hbox ▸ hclients ▸ (h a).all, hbox ▸ hclients ▸ (h a).honest⟩

theorem HonestAt.portIn (h : ∀ a, HonestAt s a (sent a) history) (hinv : s.Inv IDs)
    (hplain : ∀ a, ¬[tagI, tagD] <:+: bigEndian (IDs a)) {data : AppData} {cap : UInt32} {k : Nat}
    {unset : SocketIpStatus} (hs : s.portIn addressToIp4 node a data cap k unset = some t) :
    AllHonest t (history ++ []) := by
  obtain ⟨m, mesh, hsource, -, -, hmesh, rfl⟩ := Swarm.portIn_eq_some hs
  obtain ⟨u, hu, -, hclients⟩ := Mesh.step_client hmesh
  have hID : m.source = IDs a := hsource.trans (hinv.framers a data.port)
  have hdest := HubLink.headerScan_message (m := m) (hID ▸ hplain a)
    (FwBuffer.holds_ofBytes (link.small m.packet))
  cases Outbound.step_effect addressToIp4 hu with
  | sendHandler _ _ _ hcalls _ hp =>
    rw [hinv.protocol a] at hcalls
    refine HonestAt.clientStep (a := a) h (sent a) [] ⟨?_, ?_⟩ ?_
    · dsimp only
      rw [Function.update_self, hclients, Function.update_self]
      exact (hinv.outboxes a).posted hcalls hp (h a).all
    · dsimp only
      rw [Function.update_self, hclients, Function.update_self, List.append_nil]
      refine (h a).honest.posted hcalls ?_
      intro hne
      exact sendHandler_okNeedsSend _ (hdest ▸ hne) unset
    · intro a' ha
      show Function.update s.outboxes a ((s.outboxes a).post _ m) a' = s.outboxes a' ∧
        mesh.clients a' = s.mesh.clients a'
      rw [Function.update_of_ne ha, hclients, Function.update_of_ne ha]
      exact ⟨rfl, rfl⟩

theorem HonestAt.client (h : ∀ a, HonestAt s a (sent a) history) (hinv : s.Inv IDs)
    {act : OutboundAct} (hact : ∀ k unset b, act ≠ .sendHandler k unset b)
    (hwhole : WholeSends (s.mesh.clients a).1 act) {mesh : Mesh ι}
    (hs : s.mesh.step addressToIp4 node (.client a act) = some mesh) :
    AllHonest { s with mesh := mesh } (history ++ s.verdicts (.client a act)) := by
  obtain ⟨u, hu, -, hclients⟩ := Mesh.step_client hs
  obtain ⟨sent', hsent⟩ := (hinv.outboxes a).sendsOn (hinv.mesh.clients a).streams hact hwhole hu
    (h a).all
  have hnews : s.verdicts (.client a act) = ((verdicts (s.mesh.clients a).1 act).map fun x =>
      ((s.outboxes a).current x.1, x.2)).map (a, ·) := by
    rw [List.map_map]
    rfl
  rw [hnews]
  refine HonestAt.clientStep h sent' _ ⟨?_, ?_⟩ ?_
  · show AllDispatched link.dispatch (s.outboxes a) (mesh.clients a).1 sent'
    rw [hclients, Function.update_self]
    exact hsent.all
  · dsimp only
    rw [hclients, Function.update_self]
    exact (h a).honest.step hact hu hsent
  · intro a' ha
    show s.outboxes a' = s.outboxes a' ∧ mesh.clients a' = s.mesh.clients a'
    rw [hclients, Function.update_of_ne ha]
    exact ⟨rfl, rfl⟩

theorem Accounted.step {x y : Swarm ι link × List (ι × Nat × Verdict)} (h : Accounted IDs x)
    (hplain : ∀ a, ¬[tagI, tagD] <:+: bigEndian (IDs a)) {act : SwarmAct ι}
    (hg : Swarm.Keeps x.1 act)
    (hs : recordStep (Swarm.step addressToIp4 node) Swarm.verdicts x act = some y) :
    Accounted IDs y := by
  obtain ⟨t, ht, rfl⟩ := Option.map_eq_some_iff.mp hs
  obtain ⟨sent, hsent⟩ := h.honest
  refine ⟨h.inv.step hplain hg ht, ?_⟩
  cases Swarm.step_effect addressToIp4 node ht with
  | portIn a data cap k unset hgives hport =>
    have hstep := HonestAt.portIn hsent h.inv hplain hport
    cases hgives with
    | setNum => exact hstep
    | ping => exact hstep
  | setDestId a port destId => exact HonestAt.quiet hsent rfl rfl
  | client a act mesh hact hmesh => exact HonestAt.client hsent h.inv hact hg.2 hmesh
  | server b act caller memory mesh hmesh =>
    obtain ⟨-, -, hclients, -⟩ := Mesh.step_server hmesh
    exact HonestAt.quiet hsent rfl hclients

end step

end MeshNetwork.Network
