/-
  The contained engine of the presence agent (`agent/v1_presence_agent.cpp`): the
  execution of the lifecycle's engine actions, the poll of the worker, and the
  handlers of the main loop that reach one of them.

  A handler is a program that gets stuck when it reports a failure; the main
  loop then ends.  What the system answers during one handler is `EngineAnswers`.
-/
import NativeLdac.Lib.Prog
import NativeLdac.Agent.EngineReadyHost
import NativeLdac.Agent.RenderDemand

namespace NativeLdac.Agent

/-- The fields of `Options` that the modelled functions read. -/
structure Options where
  observeEngineReady : Bool := false
  exerciseTransportWorker : Bool := false
  exerciseTransportDiscovery : Bool := false
  exerciseTransportConfiguration : Bool := false
  exerciseTransportSilence : Bool := false
  exerciseTransportPcmBurst : Bool := false
  pcmFastSignalingAcquisition : Bool := false
  transportOpenRenderStabilityMs : UInt32 := 0
  transportResultPath : String := ""
  volumeSync : Bool := false
  handoff : Bool := false
  dailyMode : Bool := false
  deriving DecidableEq, Repr

def Options.exercisesWorker (options : Options) : Bool :=
  options.exerciseTransportWorker || options.exerciseTransportDiscovery ||
    options.exerciseTransportConfiguration || options.exerciseTransportSilence ||
    options.exerciseTransportPcmBurst

def Options.exercisesDiscovery (options : Options) : Bool :=
  options.exerciseTransportDiscovery || options.exerciseTransportConfiguration ||
    options.exerciseTransportSilence || options.exerciseTransportPcmBurst

/-- The state that `wmain` starts with. -/
def Options.initialState (options : Options) : TrialState where
  lifecycle := V1LifecycleConfig.initial
    { maximumOpenAttempts :=
        if options.exerciseTransportPcmBurst then kV1MaximumPcmTransportOpenAttempts
        else kV1MaximumTransportOpenAttempts
      toleratePretransportRenderGaps := options.exerciseTransportPcmBurst
      allowMultipleMediaSessions := options.dailyMode }
  transportOpenStability := { requiredMs := options.transportOpenRenderStabilityMs }
  engineReadyObserverEnabled := options.observeEngineReady
  transportWorkerExerciseEnabled := options.exercisesWorker
  transportDiscoveryExerciseEnabled := options.exercisesDiscovery
  transportPcmBurstExerciseEnabled := options.exerciseTransportPcmBurst
  avrcpObserverEnabled := options.dailyMode
  avrcpVolumeSyncEnabled := options.volumeSync
  avrcpHandoffEnabled := options.handoff

/-- What the system answers during one handler: `GetTickCount64` where it is
    read, the host's calls, and the archive of the transport's result. -/
structure EngineAnswers where
  start : Except UInt32 Unit := .ok ()
  startTick : UInt64 := 0
  ready : Except UInt32 Bool := .ok false
  readyTick : UInt64 := 0
  armTick : UInt64 := 0
  authorize : Except UInt32 Unit := .ok ()
  observeTick : UInt64 := 0
  authorizeStable : Except UInt32 Unit := .ok ()
  signals : V1EngineReadyHost.WorkerSignals := {}
  archive : Except UInt32 Unit := .ok ()
  stop : V1EngineReadyHost.StopAnswers := {}
  retryTick : UInt64 := 0
  exited : Except UInt32 (Option UInt32) := .ok none

/-- The agent with its engine, and the deadlines that the main loop keeps. -/
structure ContainedAgent extends RenderAgent where
  engine : V1EngineReadyHost := {}
  readyDeadline : UInt64 := 0
  transportRetryDeadline : UInt64 := 0
  error : UInt32 := 0
  /-- ghost: StartEngine was executed while a process was active -/
  startedBusy : Bool := false
  deriving DecidableEq, Repr

abbrev ContainedProg := Prog ContainedAgent

namespace ContainedAgent

/-! ## Calls -/

def fail {α : Type} (error : UInt32) : ContainedProg α := fun s => (none, { s with error := error })

/-- A call of the host; its failure is reported. -/
def onEngine {α : Type} (call : V1EngineReadyHost → Except UInt32 α × V1EngineReadyHost) :
    ContainedProg α := fun s =>
  match call s.engine with
  | (.ok a, engine) => (some a, { s with engine := engine })
  | (.error e, engine) => (none, { s with engine := engine, error := e })

/-- `ArchiveTransportAttemptResult`. -/
def archive (answers : EngineAnswers) : ContainedProg Unit :=
  onEngine fun host => (answers.archive, host)

/-- An event of the lifecycle, for its actions. -/
def reduce (event : V1LifecycleEvent) : ContainedProg UInt32 :=
  .step fun s =>
    ((s.toRenderAgent.reduce event).1,
      { s with toRenderAgent := (s.toRenderAgent.reduce event).2 })

/-- An event of the lifecycle whose actions are not executed. -/
def reduceOnly (event : V1LifecycleEvent) : ContainedProg Unit := do
  let _ ← reduce event

def setState (f : TrialState → TrialState) : ContainedProg Unit :=
  .update fun s => { s with state := f s.state }

/-! ## Actions -/

def errorBusy : UInt32 := 170
def waitTimeout : UInt32 := 258
def errorProcessAborted : UInt32 := 1067

def stopMode (state : TrialState) (actions : UInt32) : V1EngineStopMode :=
  if state.transportWorkerExerciseEnabled ∧ hasV1LifecycleAction actions .cancelTransport then
    .cancelTransport
  else if state.transportWorkerExerciseEnabled ∧
      hasV1LifecycleAction actions .gracefulStopTransport then
    .gracefulTransport
  else .localOnly

/-- What a stopped engine tells the lifecycle. -/
def reduceStopped : V1EngineStopMode → ContainedProg Unit
  | .gracefulTransport => reduceOnly .mediaStopped
  | .cancelTransport => pure ()
  | .localOnly => reduceOnly .engineExited

def stopContainedEngine (actions : UInt32) (answers : EngineAnswers) : ContainedProg Unit := do
  -- every return clears the deadline
  .update fun s => { s with
    state := { s.state with
      transportOpenStability := cancelV1TransportOpenStability s.state.transportOpenStability }
    readyDeadline := 0 }
  let active ← .read (·.engine.active)
  .onlyIf active do
    let mode ← .read fun s => stopMode s.state actions
    let _ ← onEngine fun host => host.stop mode answers.stop
    reduceStopped mode

def startEngine (options : Options) (answers : EngineAnswers) : ContainedProg Unit := do
  let state ← .read (·.state)
  let applyEndpointVolume := !options.volumeSync
  onEngine fun host =>
    if state.transportDiscoveryExerciseEnabled then
      host.startTransportDiscoveryWorker options.transportResultPath applyEndpointVolume
        answers.start
    else if state.transportWorkerExerciseEnabled then
      V1EngineReadyHost.startTransportWorker applyEndpointVolume answers.start
    else V1EngineReadyHost.start answers.start
  .update fun s => { s with readyDeadline := answers.startTick + 3000 }

/-- The StartEngine branch of `ExecuteEngineActions`. -/
def executeStart (options : Options) (answers : EngineAnswers) : ContainedProg Unit := do
  if ← .read (·.engine.active) then
    .update fun s => { s with startedBusy := true }
    fail errorBusy
  else startEngine options answers

/-- The StopEngine branch of `ExecuteEngineActions`. -/
def executeStop (actions : UInt32) (answers : EngineAnswers) : ContainedProg Unit := do
  stopContainedEngine actions answers
  let discovery ← .read (·.state.transportDiscoveryExerciseEnabled)
  .onlyIf (discovery ∧ hasV1LifecycleAction actions .gracefulStopTransport) (archive answers)

def executeEngineActions (options : Options) (actions : UInt32) (answers : EngineAnswers) :
    ContainedProg Unit := do
  if ← .read (·.state.engineReadyObserverEnabled) then
    .onlyIf (hasV1LifecycleAction actions .startEngine) (executeStart options answers)
    .onlyIf (hasV1LifecycleAction actions .stopEngine) (executeStop actions answers)
  else
    .onlyIf (hasV1LifecycleAction actions .stopEngine) (reduceOnly .engineExited)

/-! ## The poll of the engine -/

def deliverTransportOpenAuthorization (setEvent : Except UInt32 Unit) : ContainedProg Unit :=
  onEngine (·.authorizeTransportOpen setEvent)

/-- The OPEN that the lifecycle asked for when the engine got ready. -/
def openTransport (options : Options) (answers : EngineAnswers) : ContainedProg Unit := do
  if ← .read (·.state.transportWorkerExerciseEnabled) then
    if options.transportOpenRenderStabilityMs ≠ 0 then
      setState fun state => { state with
        transportOpenStability := armV1TransportOpenStability
          options.transportOpenRenderStabilityMs state.lifecycle.aclGeneration
          (state.lifecycle.renderDemand = .running) state.lastStreamEpoch answers.armTick }
    else deliverTransportOpenAuthorization answers.authorize
  else reduceOnly .transportOpenSuppressed

/-- The first part of `PollContainedEngine`: readiness. -/
def pollEngineReady (options : Options) (answers : EngineAnswers) : ContainedProg Unit := do
  let observed ← .read (·.engine.readyObserved)
  .onlyIf (¬ observed) do
    if ← onEngine (·.pollReady answers.ready) then
      -- a StopEngine among the actions is not executed
      let actions ← reduce .engineReady
      .onlyIf (hasV1LifecycleAction actions .openTransport) (openTransport options answers)
      .update fun s => { s with readyDeadline := 0 }
    else
      let deadline ← .read (·.readyDeadline)
      .onlyIf (deadline ≠ 0 ∧ answers.readyTick ≥ deadline) (fail waitTimeout)

/-- The second part: the gate of the OPEN. -/
def pollOpenStability (answers : EngineAnswers) : ContainedProg Unit := do
  let pending ← .read (·.state.transportOpenStability.pending)
  .onlyIf pending do
    let stability ← .step fun s =>
      let r := observeV1TransportOpenStability s.state.transportOpenStability
        s.state.lifecycle.aclGeneration (s.state.lifecycle.renderDemand = .running)
        s.state.lastStreamEpoch answers.observeTick
      (r.1, { s with state := { s.state with transportOpenStability := r.2 } })
    .onlyIf (stability = .ready) (deliverTransportOpenAuthorization answers.authorizeStable)

/-- The capabilities of the headset are known, and with them the session of a
    discovery worker is over. -/
def endDiscovery (answers : EngineAnswers) : ContainedProg Unit := do
  let pcmBurst ← .read (·.state.transportPcmBurstExerciseEnabled)
  reduceOnly (if pcmBurst then .mediaStopped else .transportOpenSuppressed)
  let _ ← onEngine
    (·.stop (if pcmBurst then .gracefulTransport else .cancelTransport) answers.stop)
  reduceOnly .engineExited
  .update fun s => { s with readyDeadline := 0 }

def getV1TransportRetryDelayMs (completedOpenAttempts : UInt32) : UInt64 :=
  if completedOpenAttempts = 1 then 15000
  else if completedOpenAttempts = 2 then 30000
  else if completedOpenAttempts = 3 then 45000
  else 0

def getV1PcmTransportRetryDelayMs (completedOpenAttempts : UInt32) : UInt64 :=
  if completedOpenAttempts = 1 then 1000
  else if completedOpenAttempts = 2 then 2000
  else if completedOpenAttempts = 3 then 4000
  else 0

/-- The retry that the lifecycle asked for. -/
def scheduleRetry (options : Options) (answers : EngineAnswers) : ContainedProg Unit :=
  .update fun s =>
    let attempts := s.state.lifecycle.openAttemptsForGeneration
    { s with
      transportRetryDeadline := answers.retryTick +
        if options.pcmFastSignalingAcquisition then getV1PcmTransportRetryDelayMs attempts
        else getV1TransportRetryDelayMs attempts }

/-- What an event of the worker does; true if the poll goes on. -/
def handleTransportEvent (options : Options) (answers : EngineAnswers) :
    V1TransportWorkerEvent → ContainedProg Bool
  | .capabilitiesDiscovered => do
    archive answers
    if ← .read (·.state.transportDiscoveryExerciseEnabled) then
      endDiscovery answers
      return false
    else return true
  | .retryableOpenFailure => do
    archive answers
    let actions ← reduce .transportRetryableFailure
    executeEngineActions options actions answers
    .onlyIf (hasV1LifecycleAction actions .scheduleTransportRetry) (scheduleRetry options answers)
    return false
  | .mediaStarted => do
    reduceOnly .mediaStarted
    return true
  | .mediaStopped => do
    reduceOnly .mediaStopped
    return true
  | .mediaFailed => do
    archive answers
    let actions ← reduce .mediaFailed
    executeEngineActions options actions answers
    return false
  | .none => return true

/-- The third part of `PollContainedEngine`: the worker's events. -/
def pollTransport (options : Options) (answers : EngineAnswers) : ContainedProg Bool := do
  if ← .read (·.state.transportWorkerExerciseEnabled) then
    let event ← onEngine (·.pollTransportEvent answers.signals)
    handleTransportEvent options answers event
  else return true

/-- The last part: a process that is gone unasked. -/
def pollEngineExited (answers : EngineAnswers) : ContainedProg Unit := do
  let exited ← onEngine (·.pollExited answers.exited)
  .onlyIf exited.isSome do
    setState fun state => { state with
      transportOpenStability := cancelV1TransportOpenStability state.transportOpenStability }
    reduceOnly .engineExited
    .update fun s => { s with engine := V1EngineReadyHost.closed }
    fail errorProcessAborted

def pollContainedEngine (options : Options) (answers : EngineAnswers) : ContainedProg Unit := do
  let active ← .read (·.engine.active)
  .onlyIf active do
    pollEngineReady options answers
    pollOpenStability answers
    let goOn ← pollTransport options answers
    .onlyIf goOn (pollEngineExited answers)

end ContainedAgent

/-! ## The main loop -/

inductive ContainedStep where
  /-- `PollRenderDemand`, and the actions of an edge -/
  | render (query : Except UInt32 (Bool × UInt64)) (media : Option V1MediaSessionSnapshot)
      (now : UInt64)
  /-- `PollContainedEngine` -/
  | poll
  /-- the classification of a render stop -/
  | classify (now : UInt64)
  /-- the retry that is due -/
  | retry (now : UInt64)
  /-- the command of the HFP arbitration -/
  | hfp (resume : Bool)
  /-- an ACL event -/
  | acl (connected : Bool)
  /-- the daily stop request -/
  | stopRequest
  /-- the end of the main loop -/
  | cleanup

namespace ContainedAgent

/-- An event of the lifecycle, and its actions. -/
def execute (options : Options) (answers : EngineAnswers) (event : V1LifecycleEvent) :
    ContainedProg Unit := do
  let actions ← reduce event
  executeEngineActions options actions answers

def clearRetry : ContainedProg Unit := .update fun s => { s with transportRetryDeadline := 0 }

/-- `PollRenderDemand`; a query that fails for good is a failure. -/
def pollRender (query : Except UInt32 (Bool × UInt64)) (media : Option V1MediaSessionSnapshot)
    (now : UInt64) : ContainedProg RenderPollResult := fun s =>
  ((pollRenderDemand s.toRenderAgent query now media).1,
    { s with toRenderAgent := (pollRenderDemand s.toRenderAgent query now media).2 })

def handleRender (options : Options) (answers : EngineAnswers)
    (query : Except UInt32 (Bool × UInt64)) (media : Option V1MediaSessionSnapshot)
    (now : UInt64) : ContainedProg Unit := do
  let result ← pollRender query media now
  .onlyIf result.transitioned do
    executeEngineActions options result.actions answers
    .onlyIf (¬ result.started) clearRetry

def handleClassify (options : Options) (answers : EngineAnswers) (now : UInt64) :
    ContainedProg Unit := do
  let due ← .read fun s => decide (s.toRenderAgent.StopDue now)
  .onlyIf due do
    let actions ← .step fun s =>
      ((classifyRenderStop s.toRenderAgent now).1,
        { s with toRenderAgent := (classifyRenderStop s.toRenderAgent now).2 })
    executeEngineActions options actions answers
    clearRetry

def handleRetry (options : Options) (answers : EngineAnswers) (now : UInt64) :
    ContainedProg Unit := do
  let deadline ← .read (·.transportRetryDeadline)
  .onlyIf (deadline ≠ 0 ∧ now ≥ deadline) do
    clearRetry
    execute options answers .transportRetryDue

def handleAcl (options : Options) (answers : EngineAnswers) (connected : Bool) :
    ContainedProg Unit := do
  let engineWasActive ← .read (·.engine.active)
  -- the engine's actions come before the rest of what `handleAclEvent` changes,
  -- and neither reads what the other writes
  let actions ← .step fun s =>
    ((handleAclEvent s.toRenderAgent connected).1,
      { s with toRenderAgent := (handleAclEvent s.toRenderAgent connected).2 })
  executeEngineActions options actions answers
  .onlyIf (¬ connected) do
    .onlyIf (engineWasActive ∧ hasV1LifecycleAction actions .cancelTransport) (archive answers)
    clearRetry

def handleStopRequest (options : Options) (answers : EngineAnswers) : ContainedProg Unit := do
  let state ← .read (·.state)
  .onlyIf (state.renderStopPending ∨ state.lifecycle.renderDemand = .running) do
    .update fun s => { s with
      state := { s.state with renderStopPending := false }
      renderStopDeadline := 0 }
    execute options answers .renderStopped
    clearRetry

def handleCleanup (options : Options) (answers : EngineAnswers) : ContainedProg Unit := do
  let presence ← .read (·.state.lifecycle.physicalPresence)
  .onlyIf (presence = .present) (execute options answers .watcherLeaseExpired)

def handle (options : Options) (answers : EngineAnswers) : ContainedStep → ContainedProg Unit
  | .render query media now => handleRender options answers query media now
  | .poll => pollContainedEngine options answers
  | .classify now => handleClassify options answers now
  | .retry now => handleRetry options answers now
  | .hfp resume => execute options answers (if resume then .hfpResumeLdac else .hfpSuspendLdac)
  | .acl connected => handleAcl options answers connected
  | .stopRequest => handleStopRequest options answers
  | .cleanup => handleCleanup options answers

end ContainedAgent

/-- The agent in a run: nothing is handled after a failure. -/
structure ContainedRun where
  agent : ContainedAgent
  failed : Bool := false
  deriving DecidableEq, Repr

/-- The agent as a machine: events, with the answers of the system. -/
def containedEngine (options : Options) :
    Reducer ContainedRun (ContainedStep × EngineAnswers) Unit where
  step s i :=
    if s.failed then ((), s)
    else
      let r := ContainedAgent.handle options i.2 i.1 s.agent
      ((), { agent := r.2, failed := r.1.isNone })

def ContainedRun.initial (options : Options) : ContainedRun where
  agent := { state := options.initialState }

end NativeLdac.Agent
