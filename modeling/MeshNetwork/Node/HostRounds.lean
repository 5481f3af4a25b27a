import MeshNetwork.Driver.HostStream
import MeshNetwork.Node.Deployment

namespace MeshNetwork.Node

open Driver

/-- What getHostFileEntry gives to openTask in a step, the last access to the file of its call. -/
def hostEntries (s : Deployment) : DeploymentAct → List (Option (List UInt8))
  | .openTask env =>
    if s.outbound.opener.pc = .entry then
      match s.phase with
      | .first =>
        if hasEntry (s.fp.fscanf env.line).1 then [(s.fp.fscanf env.line).1] else []
      | .rewind => []
      | .again => [(s.fp.fscanf env.line).1]
    else []
  | _ => []

theorem hostEntries_length_le (s : Deployment) (act : DeploymentAct) :
    (hostEntries s act).length ≤ 1 := by
  cases act with
  | openTask env =>
    unfold hostEntries
    split_ifs with hpc
    · cases s.phase with
      | first => by_cases hline : hasEntry (s.fp.fscanf env.line).1 = true <;> simp [hline]
      | _ => simp
    · simp
  | _ => exact Nat.zero_le 1

/-- The file as a stream whose end has not been met. -/
def stream (f : HostFile) : HostStream := { f with eof := false, atEnd := by simp }

/-- The next character to be read is in front of token `j`. -/
def Stands (file : HostText) (j : Nat) (f : HostFile) : Prop := file.At j (stream f)

namespace Stands

variable {file : HostText} {j : Nat} {f : HostFile}

theorem fscanf (h : Stands file j f) :
    f.fscanf.1 = file.tokens[j]? ∧ Stands file (j + 1) f.fscanf.2 := by
  obtain ⟨hread, hsame, hahead⟩ := HostText.At.fscanf h
  obtain ⟨hone, htwo⟩ := (stream f).fscanf_toHostFile
  refine ⟨hone.symm.trans hread, ?_, ?_⟩
  · exact (congrArg HostFile.content htwo).symm.trans hsame
  · exact (congrArg (fun f => words isSpace f.rest) htwo).symm.trans hahead

theorem rewind (h : Stands file j f) : Stands file 0 f.rewind :=
  ⟨h.same, by
    change words isSpace f.content = file.tokens.drop 0
    rw [show f.content = file.content from h.same]
    rfl⟩

end Stands

/-- Where openTask stands in the file after `k` entries. -/
def AtTurn (file : HostText) (k : Nat) (f : HostFile) : HostPhase → Prop
  | .first => ∃ j, Stands file j f ∧ (0 < file.tokens.length → file.turn j = k % file.tokens.length)
  | .rewind => (∃ j, Stands file j f) ∧ (0 < file.tokens.length → k % file.tokens.length = 0)
  | .again => Stands file 0 f ∧ (0 < file.tokens.length → k % file.tokens.length = 0)

/-- The hostfile is open, and `k` of its entries have been given. -/
def HostsInTurn (file : HostText) (k : Nat) (s : Deployment) : Prop :=
  ∃ f, s.fp = .opened f ∧ AtTurn file k f s.phase

section step

variable {addressToIp4 : List UInt8 → Bool} {file : HostText} {k j : Nat} {f : HostFile}
  {s t : Deployment}

theorem hasEntry_token_iff : hasEntry file.tokens[j]? = true ↔ j < file.tokens.length := by
  by_cases hj : j < file.tokens.length
  · refine iff_of_true ?_ hj
    rw [List.getElem?_eq_getElem hj]
    exact HostText.hasEntry_token (List.getElem_mem hj)
  · refine iff_of_false ?_ hj
    rw [List.getElem?_eq_none (Nat.le_of_not_lt hj)]
    exact Bool.false_ne_true

/-- openTask is done with entry `k` of the file. -/
theorem inTurn_succ (hf : Stands file (j + 1) f)
    (hj : 0 < file.tokens.length → k % file.tokens.length = j) : AtTurn file (k + 1) f .first := by
  refine ⟨j + 1, hf, ?_⟩
  intro hn
  rw [← hj hn, HostText.turn_succ hn]

theorem HostsInTurn.openStep {env : OpenEnv} (h : HostsInTurn file k s)
    (hs : s.openStep addressToIp4 env = some t) :
    HostsInTurn file (k + (hostEntries s (.openTask env)).length) t ∧
      ∀ line ∈ hostEntries s (.openTask env), line = file.tokens[k % file.tokens.length]? := by
  obtain ⟨f, hfp, hturn⟩ := h
  unfold Deployment.openStep at hs
  unfold hostEntries
  split_ifs at hs ⊢ with hpc
  · cases hphase : s.phase with
    | first =>
      simp only [hphase, hfp, FilePtr.fscanf] at hs ⊢
      rw [hphase] at hturn
      obtain ⟨j, hf, hj⟩ := hturn
      obtain ⟨hread, hnext⟩ := hf.fscanf
      rw [hread] at hs ⊢
      split_ifs at hs ⊢ with hentry
      · obtain ⟨u, -, rfl⟩ := Option.map_eq_some_iff.mp hs
        have hlt := hasEntry_token_iff.mp hentry
        have hself : k % file.tokens.length = j := by
          rw [← hj (Nat.zero_lt_of_lt hlt), HostText.turn, if_pos hlt]
        refine ⟨⟨_, rfl, inTurn_succ hnext fun _ => hself⟩, ?_⟩
        intro line hline
        rw [List.mem_singleton.mp hline, hself]
      · obtain rfl := Option.some.inj hs
        refine ⟨⟨_, rfl, ⟨_, hnext⟩, ?_⟩, by simp⟩
        intro hn
        rw [List.length_nil, Nat.add_zero, ← hj hn, HostText.turn,
          if_neg fun hlt => hentry (hasEntry_token_iff.mpr hlt)]
    | rewind =>
      simp only [hphase, hfp, FilePtr.rewind] at hs ⊢
      obtain rfl := Option.some.inj hs
      rw [hphase] at hturn
      obtain ⟨⟨j, hf⟩, hzero⟩ := hturn
      exact ⟨⟨_, rfl, hf.rewind, hzero⟩, by simp⟩
    | again =>
      simp only [hphase, hfp, FilePtr.fscanf] at hs ⊢
      obtain ⟨u, -, rfl⟩ := Option.map_eq_some_iff.mp hs
      rw [hphase] at hturn
      obtain ⟨hf, hzero⟩ := hturn
      obtain ⟨hread, hnext⟩ := hf.fscanf
      refine ⟨⟨_, rfl, inTurn_succ hnext hzero⟩, ?_⟩
      intro line hline
      rw [List.mem_singleton.mp hline, hread]
      by_cases hn : 0 < file.tokens.length
      · rw [hzero hn]
      · rw [List.getElem?_eq_none (by omega), List.getElem?_eq_none (by omega)]
  · obtain ⟨u, -, rfl⟩ := Option.map_eq_some_iff.mp hs
    exact ⟨⟨f, hfp, hturn⟩, by simp⟩

/-- While the teardown has not begun only openTask touches the file. -/
theorem HostsInTurn.step {act : DeploymentAct} (h : HostsInTurn file k s)
    (hact : act ≠ .teardown) (hs : s.step addressToIp4 act = some t) :
    HostsInTurn file (k + (hostEntries s act).length) t ∧
      ∀ line ∈ hostEntries s act, line = file.tokens[k % file.tokens.length]? := by
  cases act with
  | openTask env => exact h.openStep hs
  | teardown => exact absurd rfl hact
  | acceptTask env =>
    obtain ⟨f, hfp, hturn⟩ := h
    refine ⟨⟨f, ?_⟩, by simp [hostEntries]⟩
    cases Deployment.step_effect addressToIp4 hs <;> exact ⟨hfp, hturn⟩
  | readTask n env =>
    obtain ⟨f, hfp, hturn⟩ := h
    refine ⟨⟨f, ?_⟩, by simp [hostEntries]⟩
    cases Deployment.step_effect addressToIp4 hs
    exact ⟨hfp, hturn⟩
  | sendHandler j unset b =>
    obtain ⟨f, hfp, hturn⟩ := h
    refine ⟨⟨f, ?_⟩, by simp [hostEntries]⟩
    cases Deployment.step_effect addressToIp4 hs
    exact ⟨hfp, hturn⟩
  | send j env =>
    obtain ⟨f, hfp, hturn⟩ := h
    refine ⟨⟨f, ?_⟩, by simp [hostEntries]⟩
    cases Deployment.step_effect addressToIp4 hs
    exact ⟨hfp, hturn⟩

/-- What a step means for the sending half of the node. -/
inductive OutboundView (addressToIp4 : List UInt8 → Bool) (s t : Deployment) : DeploymentAct → Prop
  | same (act : DeploymentAct) (h : t.outbound = s.outbound) (hnone : hostEntries s act = []) :
      OutboundView addressToIp4 s t act
  | openTask (env : OpenEnv) (line : Option (List UInt8))
      (h : s.outbound.step addressToIp4 (.openTask { env with line := line }) = some t.outbound)
      (hline : hostEntries s (.openTask env) =
        if s.outbound.opener.pc = .entry then [line] else []) :
      OutboundView addressToIp4 s t (.openTask env)
  | sendHandler (k : Nat) (unset : SocketIpStatus) (b : FwBuffer)
      (h : s.outbound.step addressToIp4 (.sendHandler k unset b) = some t.outbound) :
      OutboundView addressToIp4 s t (.sendHandler k unset b)
  | send (k : Nat) (env : SendEnv)
      (h : s.outbound.step addressToIp4 (.send k env) = some t.outbound) :
      OutboundView addressToIp4 s t (.send k env)

theorem outbound_view {act : DeploymentAct} (hact : act ≠ .teardown)
    (hs : s.step addressToIp4 act = some t) : OutboundView addressToIp4 s t act := by
  cases act with
  | openTask env =>
    change s.openStep addressToIp4 env = some t at hs
    unfold Deployment.openStep at hs
    by_cases hpc : s.outbound.opener.pc = .entry
    · rw [if_pos hpc] at hs
      cases hphase : s.phase with
      | first =>
        simp only [hphase] at hs
        by_cases hentry : hasEntry (s.fp.fscanf env.line).1 = true
        · rw [if_pos hentry] at hs
          obtain ⟨u, hu, rfl⟩ := Option.map_eq_some_iff.mp hs
          exact .openTask env _ hu (by simp [hostEntries, hpc, hphase, hentry])
        · rw [if_neg hentry] at hs
          obtain rfl := Option.some.inj hs
          exact .same _ rfl (by simp [hostEntries, hpc, hphase, hentry])
      | rewind =>
        simp only [hphase] at hs
        obtain rfl := Option.some.inj hs
        exact .same _ rfl (by simp [hostEntries, hpc, hphase])
      | again =>
        simp only [hphase] at hs
        obtain ⟨u, hu, rfl⟩ := Option.map_eq_some_iff.mp hs
        exact .openTask env _ hu (by simp [hostEntries, hpc, hphase])
    · rw [if_neg hpc] at hs
      obtain ⟨u, hu, rfl⟩ := Option.map_eq_some_iff.mp hs
      exact .openTask env env.line hu (by simp [hostEntries, hpc])
  | sendHandler k unset b =>
    obtain ⟨u, hu, rfl⟩ := Option.map_eq_some_iff.mp hs
    exact .sendHandler k unset b hu
  | send k env =>
    obtain ⟨u, hu, rfl⟩ := Option.map_eq_some_iff.mp hs
    exact .send k env hu
  | teardown => exact absurd rfl hact
  | acceptTask env =>
    refine .same _ ?_ rfl
    cases Deployment.step_effect addressToIp4 hs <;> rfl
  | readTask n env =>
    refine .same _ ?_ rfl
    cases Deployment.step_effect addressToIp4 hs
    rfl

theorem teardown_begins {act : DeploymentAct} (hs : s.step addressToIp4 act = some t)
    (ht : t.teardown = .closeFile) : act ≠ .teardown ∧ s.teardown = .closeFile := by
  cases act with
  | teardown =>
    exfalso
    change s.teardownStep addressToIp4 = some t at hs
    unfold Deployment.teardownStep at hs
    cases hpc : s.teardown with
    | finished => simp [hpc] at hs
    | joinAccept =>
      simp only [hpc] at hs
      split_ifs at hs
      obtain rfl := Option.some.inj hs
      cases ht
    | joinOpen =>
      simp only [hpc] at hs
      split_ifs at hs
      obtain rfl := Option.some.inj hs
      cases ht
    | _ =>
      simp only [hpc] at hs
      obtain ⟨u, -, rfl⟩ := Option.map_eq_some_iff.mp hs
      cases ht
  | _ =>
    refine ⟨by simp, ?_⟩
    cases Deployment.step_effect addressToIp4 hs <;> exact ht

/-- The entries that openTask has got, `k` others having been given before. -/
structure EntriesInTurn (file : HostText) (k : Nat) (x : Deployment × List (Option (List UInt8))) :
    Prop where
  position : HostsInTurn file (k + x.2.length) x.1
  entries : ∀ i line, x.2[i]? = some line → line = file.tokens[(k + i) % file.tokens.length]?

theorem EntriesInTurn.step {x y : Deployment × List (Option (List UInt8))} {act : DeploymentAct}
    (h : EntriesInTurn file k x) (hact : act ≠ .teardown)
    (hs : recordStep (Deployment.step addressToIp4) hostEntries x act = some y) :
    EntriesInTurn file k y := by
  obtain ⟨t, ht, rfl⟩ := Option.map_eq_some_iff.mp hs
  obtain ⟨hfile, hline⟩ := h.position.step hact ht
  refine ⟨?_, ?_⟩
  · rw [List.length_append, ← Nat.add_assoc]
    exact hfile
  · intro i line hi
    by_cases hold : i < x.2.length
    · rw [List.getElem?_append_left hold] at hi
      exact h.entries i line hi
    · have hlen := hostEntries_length_le x.1 act
      rw [List.getElem?_append_right (Nat.le_of_not_lt hold)] at hi
      obtain ⟨hlt, -⟩ := List.getElem?_eq_some_iff.mp hi
      obtain rfl : i = x.2.length := by omega
      exact hline line (List.mem_of_getElem? hi)

end step

end MeshNetwork.Node
