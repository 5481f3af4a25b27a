import MeshNetwork.Driver.HostFile
import MeshNetwork.Node.Inbound
import MeshNetwork.Node.Outbound

namespace MeshNetwork.Node

open Driver

/-- The next statement of freeThreads, with the calls of commP opened up: the three of shutdown, the
two of stopAcceptTask and of stopSocketOpenTask, and the joins. -/
inductive TeardownPc where
  | closeFile
  | shutdownManager
  | closeClients
  | stopAccept
  | closeServers
  | stopOpen
  | closeOpened
  | joinAccept
  | joinOpen
  | finished
  deriving DecidableEq, Repr

/-- A node with its main thread. `phase` is where openTask stands inside getHostFileEntry, and
`fdSet` says that acceptTask stands inside open, before the FD_SET that follows a select without
activity. -/
structure Deployment where
  outbound : Outbound
  inbound : Inbound
  fp : FilePtr
  phase : HostPhase := .first
  fdSet : Bool := false
  teardown : TeardownPc := .closeFile

/-- Who moves next; the environment of openTask gives a line only where there is no file. -/
inductive DeploymentAct where
  | acceptTask (env : AcceptEnv)
  | readTask (n : Nat) (env : ReadEnv)
  | openTask (env : OpenEnv)
  | sendHandler (k : Nat) (unset : SocketIpStatus) (b : FwBuffer)
  | send (k : Nat) (env : SendEnv)
  | teardown

namespace Deployment

/-- After startTasks: the hostfile is open, startup has left `baseFd`, both tasks run. -/
def configured (deviceID : UInt32) (adjM : Nat → UInt8) (idProtocol : Bool) (content : List UInt8)
    (baseFd : Int) : Deployment :=
  { outbound := .init deviceID adjM idProtocol
    inbound := { deviceID := deviceID, idProtocol := idProtocol, manager := { baseFd := baseFd } }
    fp := .opened (.ofContent content) }

/-- Without a host name and port nothing is configured and no task is started. -/
def unconfigured (deviceID : UInt32) (adjM : Nat → UInt8) : Deployment :=
  { outbound := { Outbound.init deviceID adjM true with opener := { pc := .done } }
    inbound := { deviceID := deviceID, pc := .done }
    fp := .null }

/-- One statement of acceptTask; a select that reports no activity is one by itself. -/
def acceptStep (env : AcceptEnv) (s : Deployment) : Option Deployment :=
  if s.fdSet then
    (s.inbound.acceptStep { env with activity := false }).map fun u =>
      { s with inbound := u, fdSet := false }
  else if s.inbound.pc = .openClient ∧ env.activity = false then some { s with fdSet := true }
  else (s.inbound.acceptStep env).map fun u => { s with inbound := u }

section step

variable (addressToIp4 : List UInt8 → Bool)

/-- One statement of openTask; getHostFileEntry accesses the file up to three times. -/
def openStep (env : OpenEnv) (s : Deployment) : Option Deployment :=
  if s.outbound.opener.pc = .entry then
    match s.phase with
    | .first =>
      let (line, fp) := s.fp.fscanf env.line
      if hasEntry line then
        (s.outbound.step addressToIp4 (.openTask { env with line := line })).map fun u =>
          { s with outbound := u, fp := fp }
      else some { s with fp := fp, phase := .rewind }
    | .rewind => some { s with fp := s.fp.rewind, phase := .again }
    | .again =>
      let (line, fp) := s.fp.fscanf env.line
      (s.outbound.step addressToIp4 (.openTask { env with line := line })).map fun u =>
        { s with outbound := u, fp := fp, phase := .first }
  else (s.outbound.step addressToIp4 (.openTask env)).map fun u => { s with outbound := u }

/-- One statement of the teardown. A join waits for the end of its task. -/
def teardownStep (s : Deployment) : Option Deployment :=
  match s.teardown with
  | .closeFile => s.fp.fclose.map fun fp => { s with fp := fp, teardown := .shutdownManager }
  | .shutdownManager =>
    (s.inbound.step .shutdown).map fun u => { s with inbound := u, teardown := .closeClients }
  | .closeClients =>
    (s.outbound.step addressToIp4 .closeAll).map fun u =>
      { s with outbound := u, teardown := .stopAccept }
  | .stopAccept =>
    (s.inbound.step .stop).map fun u => { s with inbound := u, teardown := .closeServers }
  | .closeServers =>
    (s.inbound.step .closeAll).map fun u => { s with inbound := u, teardown := .stopOpen }
  | .stopOpen =>
    (s.outbound.step addressToIp4 .stop).map fun u =>
      { s with outbound := u, teardown := .closeOpened }
  | .closeOpened =>
    (s.outbound.step addressToIp4 .closeAll).map fun u =>
      { s with outbound := u, teardown := .joinAccept }
  | .joinAccept => if s.inbound.pc = .done then some { s with teardown := .joinOpen } else none
  | .joinOpen =>
    if s.outbound.opener.pc = .done then some { s with teardown := .finished } else none
  | .finished => none

def step (s : Deployment) : DeploymentAct → Option Deployment
  | .acceptTask env => s.acceptStep env
  | .readTask n env => (s.inbound.step (.readTask n env)).map fun u => { s with inbound := u }
  | .openTask env => s.openStep addressToIp4 env
  | .sendHandler k unset b =>
    (s.outbound.step addressToIp4 (.sendHandler k unset b)).map fun u => { s with outbound := u }
  | .send k env =>
    (s.outbound.step addressToIp4 (.send k env)).map fun u => { s with outbound := u }
  | .teardown => s.teardownStep addressToIp4

/-- What a step can do. -/
inductive Effect (s : Deployment) : DeploymentAct → Deployment → Prop
  | fdSet (env : AcceptEnv) (u : Inbound) (h : s.fdSet = true)
      (hu : s.inbound.step (.acceptTask { env with activity := false }) = some u) :
      Effect s (.acceptTask env) { s with inbound := u, fdSet := false }
  | timedOut (env : AcceptEnv) (h : s.fdSet = false) (hpc : s.inbound.pc = .openClient)
      (ha : env.activity = false) : Effect s (.acceptTask env) { s with fdSet := true }
  | acceptTask (env : AcceptEnv) (u : Inbound) (h : s.fdSet = false)
      (ha : s.inbound.pc = .openClient → env.activity = true)
      (hu : s.inbound.step (.acceptTask env) = some u) :
      Effect s (.acceptTask env) { s with inbound := u }
  | readTask (n : Nat) (env : ReadEnv) (u : Inbound)
      (hu : s.inbound.step (.readTask n env) = some u) :
      Effect s (.readTask n env) { s with inbound := u }
  | access (env : OpenEnv) (fp : FilePtr) (phase : HostPhase)
      (hpc : s.outbound.opener.pc = .entry) (hfp : fp.isClosed = s.fp.isClosed) :
      Effect s (.openTask env) { s with fp := fp, phase := phase }
  | entry (env : OpenEnv) (line : Option (List UInt8)) (fp : FilePtr) (u : Outbound)
      (hpc : s.outbound.opener.pc = .entry) (hfp : fp.isClosed = s.fp.isClosed)
      (hu : s.outbound.step addressToIp4 (.openTask { env with line := line }) = some u) :
      Effect s (.openTask env) { s with outbound := u, fp := fp, phase := .first }
  | openTask (env : OpenEnv) (u : Outbound) (hpc : s.outbound.opener.pc ≠ .entry)
      (hu : s.outbound.step addressToIp4 (.openTask env) = some u) :
      Effect s (.openTask env) { s with outbound := u }
  | sendHandler (k : Nat) (unset : SocketIpStatus) (b : FwBuffer) (u : Outbound)
      (hu : s.outbound.step addressToIp4 (.sendHandler k unset b) = some u) :
      Effect s (.sendHandler k unset b) { s with outbound := u }
  | send (k : Nat) (env : SendEnv) (u : Outbound)
      (hu : s.outbound.step addressToIp4 (.send k env) = some u) :
      Effect s (.send k env) { s with outbound := u }
  | closeFile (fp : FilePtr) (h : s.teardown = .closeFile) (hfp : s.fp.fclose = some fp) :
      Effect s .teardown { s with fp := fp, teardown := .shutdownManager }
  | shutdownManager (h : s.teardown = .shutdownManager) :
      Effect s .teardown { s with
        inbound := { s.inbound with manager := s.inbound.manager.shutdown }
        teardown := .closeClients }
  | stopAccept (h : s.teardown = .stopAccept) :
      Effect s .teardown { s with
        inbound := { s.inbound with stop := true }, teardown := .closeServers }
  | closeServers (h : s.teardown = .closeServers) :
      Effect s .teardown { s with
        inbound := { s.inbound with manager := s.inbound.manager.closeAll }, teardown := .stopOpen }
  | stopOpen (h : s.teardown = .stopOpen) :
      Effect s .teardown { s with
        outbound := { s.outbound with opener := { s.outbound.opener with stop := true } }
        teardown := .closeOpened }
  | closeClients (next : TeardownPc) (h : s.teardown = .closeClients ∨ s.teardown = .closeOpened) :
      Effect s .teardown { s with
        outbound := { s.outbound with side := s.outbound.side.closeAll }, teardown := next }
  | joined (next : TeardownPc) (h : s.teardown = .joinAccept ∨ s.teardown = .joinOpen) :
      Effect s .teardown { s with teardown := next }

variable {s t : Deployment}

theorem teardownStep_effect (h : s.teardownStep addressToIp4 = some t) :
    Effect addressToIp4 s .teardown t := by
  unfold teardownStep at h
  cases hpc : s.teardown with
  | closeFile =>
    simp only [hpc] at h
    obtain ⟨fp, hfp, rfl⟩ := Option.map_eq_some_iff.mp h
    exact .closeFile fp hpc hfp
  | shutdownManager =>
    simp only [hpc] at h
    obtain rfl := Option.some.inj h
    exact .shutdownManager hpc
  | closeClients =>
    simp only [hpc] at h
    obtain rfl := Option.some.inj h
    exact .closeClients _ (.inl hpc)
  | stopAccept =>
    simp only [hpc] at h
    obtain rfl := Option.some.inj h
    exact .stopAccept hpc
  | closeServers =>
    simp only [hpc] at h
    obtain rfl := Option.some.inj h
    exact .closeServers hpc
  | stopOpen =>
    simp only [hpc] at h
    obtain rfl := Option.some.inj h
    exact .stopOpen hpc
  | closeOpened =>
    simp only [hpc] at h
    obtain rfl := Option.some.inj h
    exact .closeClients _ (.inr hpc)
  | joinAccept =>
    simp only [hpc] at h
    split_ifs at h
    obtain rfl := Option.some.inj h
    exact .joined _ (.inl hpc)
  | joinOpen =>
    simp only [hpc] at h
    split_ifs at h
    obtain rfl := Option.some.inj h
    exact .joined _ (.inr hpc)
  | finished => simp [hpc] at h

theorem openStep_effect {env : OpenEnv} (h : s.openStep addressToIp4 env = some t) :
    Effect addressToIp4 s (.openTask env) t := by
  unfold openStep at h
  split_ifs at h with hpc
  · have hfscanf := s.fp.fscanf_isClosed env.line
    cases hphase : s.phase with
    | first =>
      simp only [hphase] at h
      split_ifs at h
      · obtain ⟨u, hu, rfl⟩ := Option.map_eq_some_iff.mp h
        exact .entry env _ _ u hpc hfscanf hu
      · obtain rfl := Option.some.inj h
        exact .access env _ _ hpc hfscanf
    | rewind =>
      simp only [hphase] at h
      obtain rfl := Option.some.inj h
      exact .access env _ _ hpc s.fp.rewind_isClosed
    | again =>
      simp only [hphase] at h
      obtain ⟨u, hu, rfl⟩ := Option.map_eq_some_iff.mp h
      exact .entry env _ _ u hpc hfscanf hu
  · obtain ⟨u, hu, rfl⟩ := Option.map_eq_some_iff.mp h
    exact .openTask env u hpc hu

theorem step_effect {act : DeploymentAct} (h : s.step addressToIp4 act = some t) :
    Effect addressToIp4 s act t := by
  cases act with
  | acceptTask env =>
    simp only [step, acceptStep] at h
    split_ifs at h with hfd hsel
    · obtain ⟨u, hu, rfl⟩ := Option.map_eq_some_iff.mp h
      exact .fdSet env u hfd hu
    · obtain rfl := Option.some.inj h
      exact .timedOut env (eq_false_of_ne_true hfd) hsel.1 hsel.2
    · obtain ⟨u, hu, rfl⟩ := Option.map_eq_some_iff.mp h
      refine .acceptTask env u (eq_false_of_ne_true hfd) ?_ hu
      intro hpc
      by_contra ha
      exact hsel ⟨hpc, eq_false_of_ne_true ha⟩
  | readTask n env =>
    obtain ⟨u, hu, rfl⟩ := Option.map_eq_some_iff.mp h
    exact .readTask n env u hu
  | openTask env => exact openStep_effect addressToIp4 h
  | sendHandler k unset b =>
    obtain ⟨u, hu, rfl⟩ := Option.map_eq_some_iff.mp h
    exact .sendHandler k unset b u hu
  | send k env =>
    obtain ⟨u, hu, rfl⟩ := Option.map_eq_some_iff.mp h
    exact .send k env u hu
  | teardown => exact teardownStep_effect addressToIp4 h

/-- In a run of the node its receiving half runs. -/
theorem run_inbound {acts : List DeploymentAct}
    (h : run (step addressToIp4) s acts = some t) :
    ∃ acts', run Inbound.step s.inbound acts' = some t.inbound := by
  have hstep (s : Deployment) (act : DeploymentAct) (t : Deployment) (u : Inbound)
      (hu : u = s.inbound) (hs : s.step addressToIp4 act = some t) :
      ∃ acts v, run Inbound.step u acts = some v ∧ v = t.inbound := by
    subst hu
    have one {a : InboundAct} {u : Inbound} (hu : s.inbound.step a = some u) :
        run Inbound.step s.inbound [a] = some u := by rw [run_cons, hu]; rfl
    cases step_effect addressToIp4 hs with
    | fdSet env u _ hu => exact ⟨_, _, one hu, rfl⟩
    | acceptTask env u _ _ hu => exact ⟨_, _, one hu, rfl⟩
    | readTask n env u hu => exact ⟨_, _, one hu, rfl⟩
    | shutdownManager => exact ⟨[.shutdown], _, rfl, rfl⟩
    | stopAccept => exact ⟨[.stop], _, rfl, rfl⟩
    | closeServers => exact ⟨[.closeAll], _, rfl, rfl⟩
    | _ => exact ⟨[], _, rfl, rfl⟩
  obtain ⟨acts', v, hrun, rfl⟩ := run_simulation hstep rfl h
  exact ⟨acts', hrun⟩

/-- In a run of the node its sending half runs. -/
theorem run_outbound {acts : List DeploymentAct}
    (h : run (step addressToIp4) s acts = some t) :
    ∃ acts', run (Outbound.step addressToIp4) s.outbound acts' = some t.outbound := by
  have hstep (s : Deployment) (act : DeploymentAct) (t : Deployment) (u : Outbound)
      (hu : u = s.outbound) (hs : s.step addressToIp4 act = some t) :
      ∃ acts v, run (Outbound.step addressToIp4) u acts = some v ∧ v = t.outbound := by
    subst hu
    have one {a : OutboundAct} {u : Outbound} (hu : s.outbound.step addressToIp4 a = some u) :
        run (Outbound.step addressToIp4) s.outbound [a] = some u := by rw [run_cons, hu]; rfl
    cases step_effect addressToIp4 hs with
    | entry env line fp u _ _ hu => exact ⟨_, _, one hu, rfl⟩
    | openTask env u _ hu => exact ⟨_, _, one hu, rfl⟩
    | sendHandler k unset b u hu => exact ⟨_, _, one hu, rfl⟩
    | send k env u hu => exact ⟨_, _, one hu, rfl⟩
    | stopOpen => exact ⟨[.stop], _, rfl, rfl⟩
    | closeClients => exact ⟨[.closeAll], _, rfl, rfl⟩
    | _ => exact ⟨[], _, rfl, rfl⟩
  obtain ⟨acts', v, hrun, rfl⟩ := run_simulation hstep rfl h
  exact ⟨acts', hrun⟩

end step

end Deployment

end MeshNetwork.Node
