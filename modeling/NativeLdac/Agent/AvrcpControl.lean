/-
  The reconciliation of the AVRCP control (`ReconcileAvrcpObserver`,
  `ReconcileAvrcpFilterHost` and `ReconcileAvrcpControl` of
  `agent/v1_presence_agent.cpp`), over the two hosts, the endpoint, the engine and the
  state of the agent.

  * the hosts share the world and the Windows sink; the programs of a host run on its
    part of the stage, and so do those of the endpoint;
  * a reconciliation returns its verdict and the error that it stores;
  * `polled` holds what the last call found once its poll had succeeded.
-/
import NativeLdac.Agent.AvrcpFilterRecovery
import NativeLdac.Agent.AvrcpObserverHost
import NativeLdac.Agent.EndpointSink
import NativeLdac.Agent.EngineReadyHost
import NativeLdac.Agent.HandoffIpc
import NativeLdac.Agent.TrialState

namespace NativeLdac.Agent

open Prog

/-- What the calls outside the two hosts answer. -/
structure AvrcpControlEnvironment (Ω : Type) where
  filter : AvrcpFilterEnvironment Ω
  observer : AvrcpObserverEnvironment Ω
  endpoint : EndpointEnvironment Ω
  /-- the snapshot of the media sessions in the generation, if their monitor is ready -/
  monitorSnapshot : UInt64 → Ω → Option V1MediaSessionSnapshot × Ω
  windowsVolumeEndpointReady : Ω → Bool × Ω
  handoffIpcEnabled : Bool
  requestHandoff : UInt64 → Ω → Except UInt32 Unit × Ω
  waitHandoffDone : Ω → V1AvrcpHandoffWaitResult × Ω
  requestRestore : UInt64 → Ω → Except UInt32 Unit × Ω
  waitRestoreDone : Ω → V1AvrcpHandoffWaitResult × Ω
  /-- `SetEvent`, `ResetEvent` of the engine's event -/
  setSingleGainEvent : Bool → Ω → Except UInt32 Unit × Ω

/-- What a call finds once its poll has succeeded. -/
structure AvrcpPoll where
  sessionActive : Bool
  /-- the observer's control channel is ready, the filter's exact endpoint bound -/
  attached : Bool
  /-- the first volume of the headset was seen -/
  volumeSeen : Bool
  deriving DecidableEq, Repr

def AvrcpPoll.ready (poll : AvrcpPoll) : Bool :=
  poll.sessionActive && poll.attached && poll.volumeSeen

structure AvrcpControlStage (Ω : Type) where
  world : Ω
  sink : V1AvrcpWindowsSink := {}
  filterMapper : V1AvrcpControlMapperState := {}
  filterHost : V1AvrcpFilterHost := {}
  observerMapper : V1AvrcpControlMapperState := {}
  observer : V1AvrcpObserverHost := {}
  /-- the endpoint has a handle -/
  endpointOpen : Bool := false
  /-- a request to the endpoint is in flight -/
  endpointInFlight : Bool := false
  engine : V1EngineReadyHost := {}
  state : TrialState := {}
  nextAttemptTick : UInt64 := 0
  log : List AvrcpMoment := []
  /-- (ghost) -/
  polled : Option AvrcpPoll := none

namespace AvrcpControlStage

variable {Ω α : Type}

abbrev Program (Ω α : Type) := Prog (AvrcpControlStage Ω) α

/-! ## The parts of the stage -/

def filterStage (s : AvrcpControlStage Ω) : AvrcpStage Ω V1AvrcpFilterHost where
  world := s.world
  mapper := s.filterMapper
  sink := s.sink
  host := s.filterHost
  log := s.log

def putFilter (t : AvrcpStage Ω V1AvrcpFilterHost) (s : AvrcpControlStage Ω) :
    AvrcpControlStage Ω :=
  { s with
    world := t.world
    filterMapper := t.mapper
    sink := t.sink
    filterHost := t.host
    log := t.log }

def observerStage (s : AvrcpControlStage Ω) : AvrcpStage Ω V1AvrcpObserverHost where
  world := s.world
  mapper := s.observerMapper
  sink := s.sink
  host := s.observer
  log := s.log

def putObserver (t : AvrcpStage Ω V1AvrcpObserverHost) (s : AvrcpControlStage Ω) :
    AvrcpControlStage Ω :=
  { s with
    world := t.world
    observerMapper := t.mapper
    sink := t.sink
    observer := t.host
    log := t.log }

def endpointStage (s : AvrcpControlStage Ω) : EndpointStage Ω where
  world := s.world
  agent := { state := s.state }
  isOpen := s.endpointOpen
  inFlight := s.endpointInFlight

def putEndpoint (t : EndpointStage Ω) (s : AvrcpControlStage Ω) : AvrcpControlStage Ω :=
  { s with
    world := t.world
    state := t.agent.state
    endpointOpen := t.isOpen
    endpointInFlight := t.inFlight }

/-- A program of the filter's host -/
def filtered (x : V1AvrcpFilterHost.Program Ω α) : Program Ω α := within filterStage putFilter x

/-- A program of the observer's host -/
def observed (x : V1AvrcpObserverHost.Program Ω α) : Program Ω α :=
  within observerStage putObserver x

def atEndpoint (x : EndpointProgram Ω α) : Program Ω α := within endpointStage putEndpoint x

def call (f : Ω → α × Ω) : Program Ω α :=
  Prog.step fun s => ((f s.world).1, { s with world := (f s.world).2 })

/-- Change the state of the agent. -/
def onState (f : TrialState → TrialState) : Program Ω Unit :=
  Prog.update fun s => { s with state := f s.state }

def setNextAttemptTick (tick : UInt64) : Program Ω Unit :=
  Prog.update fun s => { s with nextAttemptTick := tick }

/-- The poll of the call has succeeded. -/
def note (poll : AvrcpPoll) : Program Ω Unit := Prog.update fun s => { s with polled := some poll }

end AvrcpControlStage

open AvrcpControlStage

section
variable {Ω : Type} (env : AvrcpControlEnvironment Ω)

/-- What a reconciliation reads first, with the snapshot of the media sessions. -/
def takeSnapshot (s : AvrcpControlStage Ω) : AvrcpReconciliation × AvrcpControlStage Ω :=
  let answer := env.monitorSnapshot s.state.lifecycle.aclGeneration s.world
  ({ avrcpVolumeSyncEnabled := s.state.avrcpVolumeSyncEnabled
     lifecycle := s.state.lifecycle
     monitored := answer.1 },
    { s with world := answer.2 })

/-- `SetSingleGainReady`, of an active engine that has the event -/
def setSingleGain (ready : Bool) : Program Ω (Except UInt32 Unit) := do
  let engine ← Prog.read (·.engine)
  if engine.active ∧ engine.singleGainFailSafeEnabled then
    let answer ← call (env.setSingleGainEvent ready)
    Prog.step fun s =>
      let r := s.engine.setSingleGainReady ready answer
      (r.1, { s with engine := r.2 })
  else
    return .ok ()

/-! ## The filter -/

def reconcileAvrcpFilterHost : Program Ω (Bool × UInt32) := do
  let r ← Prog.step (takeSnapshot env)
  match ← filtered (V1AvrcpFilterHost.reconcile env.filter r) with
  | .disabled =>
    match ← setSingleGain env false with
    | .error e => return (false, e)
    | .ok () =>
      onState fun state => { state with avrcpObserverActive := false }
      return (true, 0)
  | .refused e =>
    onState fun state => { state with avrcpObserverActive := false }
    return (true, e)
  | .pollFailed e =>
    onState fun state => { state with avrcpObserverActive := false }
    return (true, e)
  | .polled =>
    let endpointReady ← call env.windowsVolumeEndpointReady
    let s ← Prog.read id
    let ready := s.filterMapper.xm5VolumeSeen && endpointReady
    note ⟨s.filterHost.sessionActive, endpointReady, s.filterMapper.xm5VolumeSeen⟩
    match ← setSingleGain env ready with
    | .error e => return (false, e)
    | .ok () =>
      onState fun state => { state with avrcpObserverActive := ready }
      return (true, 0)

/-! ## The handoff -/

/-- `RequestRestore` and `WaitRestoreDone`: whether Microsoft AVRCP is restored -/
def restoreMicrosoft : Program Ω Bool := do
  let generation ← Prog.read (·.state.lifecycle.aclGeneration)
  match ← call (env.requestRestore generation) with
  | .error _ => return false
  | .ok () => return decide ((← call env.waitRestoreDone) = .ok)

/-- `RequestHandoff` and `WaitHandoffDone` -/
def completeHandoff (generation : UInt64) : Program Ω Bool := do
  match ← call (env.requestHandoff generation) with
  | .error _ => return false
  | .ok () => return decide ((← call env.waitHandoffDone) = .ok)

/-- `RequestAvrcpHandoff`, which returns true whatever becomes of the handoff -/
def requestAvrcpHandoff : Program Ω Unit := do
  let state ← Prog.read (·.state)
  let generation := state.lifecycle.aclGeneration
  if ¬ env.handoffIpcEnabled ∨ generation = 0 ∨
      state.avrcpHandoffReadyGeneration = generation then
    return ()
  else if ← completeHandoff env generation then
    onState fun state => { state with avrcpHandoffReadyGeneration := generation }
  else
    onState fun state => { state with
      avrcpObserverActive := false
      avrcpHandoffFailedGeneration := generation
      avrcpHandoffReadyGeneration := 0 }
    let _ ← restoreMicrosoft env

def requestAvrcpHandoffWithEndpointQuiesce : Program Ω (Except UInt32 Unit) := do
  atEndpoint V1EndpointPresenceSink.close
  requestAvrcpHandoff env
  let generation ← Prog.read (·.state.lifecycle.aclGeneration)
  atEndpoint (rebindEndpointPresenceLease env.endpoint generation)

/-! ## The observer -/

/-- The transport is given back to Microsoft AVRCP. -/
def releaseToMicrosoft : Program Ω Unit := do
  let _ ← restoreMicrosoft env
  observed (V1AvrcpObserverHost.releaseTransport env.observer)
  onState fun state => { state with avrcpHandoffReadyGeneration := 0 }

def endObserverSession : Program Ω Unit := do
  if ← Prog.read (·.observer.mediaSessionActive) then
    observed V1AvrcpObserverHost.endMediaSession
    onState fun state => { state with avrcpObserverActive := false, avrcpControlReadyDeadline := 0 }
    Prog.onlyIf env.handoffIpcEnabled (releaseToMicrosoft env)
  let s ← Prog.read id
  Prog.onlyIf (¬ s.observer.mediaSessionActive ∧ env.handoffIpcEnabled ∧
    s.state.avrcpHandoffReadyGeneration = s.state.lifecycle.aclGeneration) (releaseToMicrosoft env)

/-- The handoff that precedes an activation, if there is to be one. -/
def prepareLease : Program Ω (Except UInt32 Unit) := do
  let state ← Prog.read (·.state)
  if env.handoffIpcEnabled ∧
      state.avrcpHandoffReadyGeneration ≠ state.lifecycle.aclGeneration then
    requestAvrcpHandoffWithEndpointQuiesce env
  else
    return .ok ()

def offerLease (media : V1MediaSessionSnapshot) :
    Program Ω (Except UInt32 V1AvrcpObserverActivationResult) := do
  match ← prepareLease env with
  | .error e => return .error e
  | .ok () =>
    let state ← Prog.read (·.state)
    let result ← observed (V1AvrcpObserverHost.beginMediaSession env.observer
      { aclGeneration := state.lifecycle.aclGeneration
        volumeSync := state.avrcpVolumeSyncEnabled
        mediaRouting := state.avrcpVolumeSyncEnabled
        headsetPreferred := true
        mediaSession := media })
    return .ok result.1

def withdrawLease (result : V1AvrcpObserverActivationResult) (now : UInt64) : Program Ω Unit := do
  onState fun state => { state with avrcpObserverActive := false, avrcpControlReadyDeadline := 0 }
  observed V1AvrcpObserverHost.endMediaSession
  Prog.onlyIf (result ≠ .pending) (onState fun state => { state with
    avrcpObserverFailedGeneration := state.lifecycle.aclGeneration })
  if env.handoffIpcEnabled then
    onState fun state => { state with
      avrcpHandoffFailedGeneration := state.lifecycle.aclGeneration }
    let _ ← restoreMicrosoft env
    setNextAttemptTick 0
    observed (V1AvrcpObserverHost.releaseTransport env.observer)
    onState fun state => { state with avrcpHandoffReadyGeneration := 0 }
  else
    setNextAttemptTick (if result = .pending then now + 1000 else 0)

def timeOutControl : Program Ω (Bool × UInt32) := do
  onState fun state => { state with
    avrcpControlReadyDeadline := 0
    avrcpObserverActive := false
    avrcpObserverFailedGeneration := state.lifecycle.aclGeneration }
  observed V1AvrcpObserverHost.endMediaSession
  match ← setSingleGain env false with
  | .error e => return (false, e)
  | .ok () =>
    Prog.onlyIf env.handoffIpcEnabled (do
      releaseToMicrosoft env
      onState fun state => { state with
        avrcpHandoffFailedGeneration := state.lifecycle.aclGeneration })
    return (true, 0)

/-- The poll of a session, and what follows from it. -/
def pollObserver (now : UInt64) : Program Ω (Bool × UInt32) := do
  let sessionActive ← Prog.read (·.observer.mediaSessionActive)
  match ← observed (V1AvrcpObserverHost.poll env.observer) with
  | .error _ =>
    onState fun state => { state with avrcpObserverActive := false, avrcpControlReadyDeadline := 0 }
    match ← setSingleGain env false with
    | .error e => return (false, e)
    | .ok () => return (true, 0)
  | .ok () =>
    let s ← Prog.read id
    let volumeSeen := V1AvrcpObserverHost.headsetInitialSyncComplete s.observerStage
    let controlReady := V1AvrcpObserverHost.singleGainReady s.observerStage
    note ⟨sessionActive, s.observer.controlChannelReady, volumeSeen⟩
    if ¬ controlReady ∧ s.state.avrcpControlReadyDeadline ≠ 0 ∧
        s.state.avrcpControlReadyDeadline ≤ now then
      timeOutControl env
    else
      Prog.onlyIf controlReady
        (onState fun state => { state with avrcpControlReadyDeadline := 0 })
      match ← setSingleGain env controlReady with
      | .error e => return (false, e)
      | .ok () =>
        onState fun state => { state with avrcpObserverActive := controlReady }
        return (true, 0)

namespace AvrcpControlStage

/-- The observer has no media session to keep. -/
def suspends (s : AvrcpControlStage Ω) (media : V1MediaSessionSnapshot) : Prop :=
  s.state.lifecycle.hfpSuspended ∨
    s.state.lifecycle.mediaSession ≠ .streaming ∧
      ¬ (s.observer.mediaSessionActive ∧ (evaluateV1MediaSessionEligibility media).sessionPresent)

instance (s : AvrcpControlStage Ω) (media : V1MediaSessionSnapshot) :
    Decidable (s.suspends media) :=
  inferInstanceAs (Decidable (_ ∨ _))

/-- The handoff is not supported for the native path, and this is yet to be recorded. -/
def handoffUnsupported (s : AvrcpControlStage Ω) : Prop :=
  s.state.avrcpVolumeSyncEnabled ∧ s.state.avrcpHandoffEnabled ∧ ¬ s.observer.mediaSessionActive ∧
    s.state.avrcpHandoffFailedGeneration ≠ s.state.lifecycle.aclGeneration

instance (s : AvrcpControlStage Ω) : Decidable s.handoffUnsupported :=
  inferInstanceAs (Decidable (_ ∧ _))

/-- The generation is given up: its handoff has failed, or its activation. -/
def generationFailed (s : AvrcpControlStage Ω) : Prop :=
  s.state.avrcpHandoffEnabled ∧
      s.state.avrcpHandoffFailedGeneration = s.state.lifecycle.aclGeneration ∨
    ¬ s.observer.mediaSessionActive ∧ s.state.lifecycle.aclGeneration ≠ 0 ∧
      s.state.avrcpObserverFailedGeneration = s.state.lifecycle.aclGeneration

instance (s : AvrcpControlStage Ω) : Decidable s.generationFailed :=
  inferInstanceAs (Decidable (_ ∨ _))

/-- The next attempt to activate the observer is not due. -/
def awaitsAttempt (s : AvrcpControlStage Ω) (now : UInt64) : Prop :=
  s.nextAttemptTick ≠ 0 ∧ now < s.nextAttemptTick

instance (s : AvrcpControlStage Ω) (now : UInt64) : Decidable (s.awaitsAttempt now) :=
  inferInstanceAs (Decidable (_ ∧ _))

end AvrcpControlStage

/-- A media session is activated, and polled. -/
def activateObserver (media : V1MediaSessionSnapshot) (now : UInt64) :
    Program Ω (Bool × UInt32) := do
  match ← offerLease env media with
  | .error e => return (false, e)
  | .ok .active =>
    onState fun state => { state with
      avrcpObserverActive := false
      avrcpControlReadyDeadline := now + 10000 }
    setNextAttemptTick 0
    pollObserver env now
  | .ok result =>
    withdrawLease env result now
    return (true, 0)

/-- `ReconcileAvrcpObserver`.  The snapshot set for an active session leaves it active, so that
    the later conditions read the same as at the start. -/
def reconcileAvrcpObserver (now : UInt64) : Program Ω (Bool × UInt32) := do
  let s ← Prog.read id
  if ¬ s.state.avrcpObserverEnabled then
    return (true, 0)
  else
    let r ← Prog.step (takeSnapshot env)
    if s.suspends r.media then
      match ← setSingleGain env false with
      | .error e => return (false, e)
      | .ok () =>
        endObserverSession env
        return (true, 0)
    else
      Prog.onlyIf s.observer.mediaSessionActive
        (observed (V1AvrcpObserverHost.setMediaSessionSnapshot env.observer r.media))
      if s.handoffUnsupported then
        onState fun state => { state with
          avrcpHandoffFailedGeneration := state.lifecycle.aclGeneration }
        return (true, V1EndpointPresenceSink.errorNotSupported)
      else if s.generationFailed then
        return (true, 0)
      else if s.observer.mediaSessionActive then
        pollObserver env now
      else if s.awaitsAttempt now then
        return (true, 0)
      else
        activateObserver env r.media now

def reconcileAvrcpControl (now : UInt64) : Program Ω (Bool × UInt32) := do
  if ← Prog.read (·.state.avrcpVolumeSyncEnabled) then
    reconcileAvrcpFilterHost env
  else
    reconcileAvrcpObserver env now

end

/-! ## Runs -/

inductive AvrcpControlStep (Ω : Type) where
  | reconcileFilterHost
  | reconcileObserver (now : UInt64)
  | reconcileControl (now : UInt64)
  | startEngine (transportWorker applyEndpointVolume discoveryWorker : Bool)
    (answer : Except UInt32 Unit)
  | stopEngine (mode : V1EngineStopMode) (answers : V1EngineReadyHost.StopAnswers)
  /-- the ACL connection is lost, or the agent ends: `EndSession`, `Close` -/
  | endSessions
  /-- the rest of the agent and the system -/
  | elsewhere (world : Ω) (state : TrialState) (nextAttemptTick : UInt64)

section
variable {Ω : Type} (env : AvrcpControlEnvironment Ω)

def AvrcpControlStep.program : AvrcpControlStep Ω → Option (Program Ω (Bool × UInt32))
  | .reconcileFilterHost => some (reconcileAvrcpFilterHost env)
  | .reconcileObserver now => some (reconcileAvrcpObserver env now)
  | .reconcileControl now => some (reconcileAvrcpControl env now)
  | _ => none

/-- The stage after a step that is no reconciliation -/
def AvrcpControlStage.besides (s : AvrcpControlStage Ω) :
    AvrcpControlStep Ω → AvrcpControlStage Ω
  | .startEngine transportWorker applyEndpointVolume discoveryWorker answer =>
    { s with engine := (V1EngineReadyHost.startInternal transportWorker applyEndpointVolume
        discoveryWorker answer).2 }
  | .stopEngine mode answers => { s with engine := (s.engine.stop mode answers).2 }
  | .endSessions => ((do
      filtered V1AvrcpFilterHost.endSession
      observed (V1AvrcpObserverHost.close env.observer) : Program Ω Unit) s).2
  | .elsewhere world state nextAttemptTick =>
    { s with world := world, state := state, nextAttemptTick := nextAttemptTick }
  | _ => s

def AvrcpControlStage.atCall (s : AvrcpControlStage Ω) : AvrcpControlStage Ω :=
  { s with polled := none }

/-- The control as a machine: a reconciliation puts out its verdict and its error. -/
def avrcpControl : Reducer (AvrcpControlStage Ω) (AvrcpControlStep Ω) (Option (Bool × UInt32)) where
  step s step :=
    match step.program env with
    | some program => program s.atCall
    | none => (none, s.besides env step)

end

end NativeLdac.Agent
