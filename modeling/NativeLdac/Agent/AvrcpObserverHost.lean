/-
  The host of the AVRCP observer driver (`agent/v1_avrcp_observer_host.cpp`): it
  owns the mapper's lease while a media session lasts, and keeps the mapper and
  the driver open across the media sessions of one ACL generation.

  `AvrcpObserverEnvironment` answers for the driver.  Of the statistics only the
  counts of media sessions are kept.
-/
import NativeLdac.Agent.AvrcpExecutor
import NativeLdac.Lib.Reducer

namespace NativeLdac.Agent

open AvrcpStage

/-! ## The driver -/

structure NldAvrcpObserverAbiVersion where
  size : UInt32 := 0
  major : UInt32 := 0
  minor : UInt32 := 0
  deriving DecidableEq, Repr

structure NldAvrcpObserverStatus where
  size : UInt32 := 0
  flags : UInt32 := 0
  aclGeneration : UInt64 := 0
  lastProtocolStatus : Int32 := 0
  lastOpenStatus : Int32 := 0
  deriving DecidableEq

inductive NldAvrcpObserverEventType where
  | none | aclConnected | aclDisconnected | volumeCapability | absoluteVolume | passThrough
  | protocolError | vendorCommand | writeResponse
  deriving DecidableEq, Repr

structure NldAvrcpObserverEvent where
  type : NldAvrcpObserverEventType := .none
  flags : UInt32 := 0
  value0 : UInt32 := 0
  rawPrefixHigh : UInt32 := 0
  deriving DecidableEq, Repr

def statusChannelOpen : UInt32 := 0x00000008
def statusVolumeSupported : UInt32 := 0x00000010
def statusObserving : UInt32 := 0x00000020
def statusOutboundOpen : UInt32 := 0x00000080
def statusOpenPending : UInt32 := 0x00000100
def statusRemoteDisconnected : UInt32 := 0x00000400
def statusActivationRequired : UInt32 := 0x00000800
def statusActivationRequested : UInt32 := 0x00001000
def eventFlagChanged : UInt32 := 0x00000010
def abiMajor : UInt32 := 0
def abiMinor : UInt32 := 11
def sizeofAbiVersion : UInt32 := 16
def sizeofStatus : UInt32 := 56

structure AvrcpObserverEnvironment (Ω : Type) extends AvrcpEnvironment Ω where
  openReadOnly : Ω → Except UInt32 Unit × Ω
  openReadWrite : Ω → Except UInt32 Unit × Ω
  closeDriver : Ω → Unit × Ω
  getVersion : Ω → Except UInt32 NldAvrcpObserverAbiVersion × Ω
  getStatus : Ω → Except UInt32 NldAvrcpObserverStatus × Ω
  beginObservation : Ω → Except UInt32 Unit × Ω
  dequeueEvent : Ω → Except UInt32 NldAvrcpObserverEvent × Ω

/-! ## The host -/

inductive V1AvrcpObserverActivationResult where
  | active | pending | unavailable | incompatible | failed
  deriving DecidableEq, Repr

structure V1AvrcpObserverHost where
  writeEnabled : Bool := false
  options : V1AvrcpReplayOptions := {}
  observerOpen : Bool := false
  observationRequested : Bool := false
  activationTerminalFailure : Bool := false
  activationFailureError : UInt32 := 0
  mediaSessionActive : Bool := false
  controlChannelReady : Bool := false
  statusFlags : UInt32 := 0
  lastProtocolStatus : Int32 := 0
  lastOpenStatus : Int32 := 0
  observerGeneration : UInt64 := 0
  ownerLease : UInt64 := 0
  lastWindowsVolumePollTick : UInt64 := 0
  mediaSessionsStarted : UInt64 := 0
  mediaSessionsEnded : UInt64 := 0
  deriving DecidableEq

def isReadyForActivation (status : NldAvrcpObserverStatus) : Bool :=
  let required := statusOutboundOpen ||| statusActivationRequired
  status.flags &&& required = required

def isControlChannelReady (status : NldAvrcpObserverStatus) : Bool :=
  let required := statusChannelOpen ||| statusVolumeSupported ||| statusObserving
  let terminal := statusOpenPending ||| statusRemoteDisconnected
  status.flags &&& required = required ∧ status.flags &&& terminal = 0

def mapDriverEvent (event : NldAvrcpObserverEvent) (physicalAclGeneration : UInt64) :
    Option V1AvrcpObservedEvent :=
  let mapped : V1AvrcpObservedEvent :=
    { generation := physicalAclGeneration, flags := event.flags }
  if physicalAclGeneration = 0 then none else
  match event.type with
  | .volumeCapability => some { mapped with kind := .volumeCapability, value := event.value0 }
  | .absoluteVolume =>
    some { mapped with
      kind := .absoluteVolume
      value := event.value0
      volumeEvent := if event.flags &&& eventFlagChanged ≠ 0 then .remoteNotification
        else .commandResponse }
  | .passThrough => some { mapped with kind := .passThrough, value := event.value0 }
  | .writeResponse =>
    if event.value0 &&& 0xFF ≠ 0x50 then none
    else some { mapped with
      kind := .absoluteVolume
      value := event.rawPrefixHigh &&& 0xFF
      volumeEvent := .commandResponse }
  | .vendorCommand =>
    if event.value0 &&& 0xFF ≠ 0x50 then none
    else some { mapped with
      kind := .setAbsoluteVolumeCommand
      value := event.rawPrefixHigh &&& 0xFF }
  | _ => none

namespace V1AvrcpObserverHost

def errorFileNotFound : UInt32 := 2
def errorNotReady : UInt32 := 21
def errorNotFound : UInt32 := 1168
def errorRevisionMismatch : UInt32 := 1306
def kWindowsVolumePollIntervalMs : UInt64 := 200
def kMaximumEventsPerPoll : Nat := 128

variable {Ω : Type} (env : AvrcpObserverEnvironment Ω)

abbrev Program (Ω α : Type) := Prog (AvrcpStage Ω V1AvrcpObserverHost) α

/-- Change the host's own fields. -/
def modify (f : V1AvrcpObserverHost → V1AvrcpObserverHost) : Program Ω Unit :=
  Prog.update fun s => { s with host := f s.host }

def endMediaSession : Program Ω Unit := do
  let s ← Prog.read id
  if s.host.mediaSessionActive then
    if s.mapper.aclGenerationCurrent ∧ s.mapper.ownerLease = s.host.ownerLease then
      discarded (.revokeOwnerLease s.mapper.aclGeneration s.host.ownerLease)
    modify fun h => { h with
      mediaSessionActive := false
      mediaSessionsEnded := h.mediaSessionsEnded + 1 }

def releaseTransport : Program Ω Unit := do
  endMediaSession
  ask env.closeDriver
  modify fun h => { h with
    observerOpen := false
    observationRequested := false
    activationTerminalFailure := false
    activationFailureError := 0
    observerGeneration := 0
    controlChannelReady := false
    statusFlags := 0
    lastProtocolStatus := 0
    lastOpenStatus := 0
    lastWindowsVolumePollTick := 0 }

def endMapperGeneration : Program Ω Unit := do
  let mapper ← Prog.read (·.mapper)
  if mapper.aclGenerationCurrent then
    discarded (.endAclGeneration mapper.aclGeneration)

def close : Program Ω Unit := do
  releaseTransport env
  endMapperGeneration

def openDriver : Program Ω (Except UInt32 Unit) := do
  let host ← Prog.read (·.host)
  if host.observerOpen then
    return .ok ()
  else
    match ← ask (if host.writeEnabled then env.openReadWrite else env.openReadOnly) with
    | .error e => return .error e
    | .ok () =>
      modify fun h => { h with observerOpen := true }
      return .ok ()

def ensureOpened :
    Program Ω (Except (V1AvrcpObserverActivationResult × UInt32) Unit) := do
  match ← openDriver env with
  | .error e =>
    if e = errorFileNotFound ∨ e = errorNotFound ∨ e = errorNoMoreItems then
      return .error (.unavailable, e)
    else
      return .error (.failed, e)
  | .ok () =>
    match ← ask env.getVersion with
    | .error e =>
      close env
      return .error (.failed, e)
    | .ok version =>
      if version.size ≠ sizeofAbiVersion then
        close env
        return .error (.failed, 0)
      else if version.major ≠ abiMajor ∨ version.minor ≠ abiMinor then
        close env
        return .error (.incompatible, errorRevisionMismatch)
      else
        return .ok ()

/-- The host after a status of the driver. -/
def observeStatus (status : NldAvrcpObserverStatus) (h : V1AvrcpObserverHost) :
    V1AvrcpObserverHost :=
  let h := if h.observerGeneration ≠ 0 ∧ h.observerGeneration ≠ status.aclGeneration then
      { h with
        observationRequested := false
        activationTerminalFailure := false
        activationFailureError := 0
        controlChannelReady := false }
    else h
  { h with
    observerGeneration := status.aclGeneration
    statusFlags := status.flags
    lastProtocolStatus := status.lastProtocolStatus
    lastOpenStatus := status.lastOpenStatus
    controlChannelReady := isControlChannelReady status }

/-- `ReadStatus`, of an open driver -/
def readStatus : Program Ω (Except UInt32 NldAvrcpObserverStatus) := do
  match ← ask env.getStatus with
  | .error e => return .error e
  | .ok status =>
    if status.size ≠ sizeofStatus then
      return .error 0
    else
      modify (observeStatus status)
      return .ok status

def nextOwnerLease (lease : UInt64) : UInt64 :=
  if lease = 0xffffffffffffffff then 1 else lease + 1

def ensureMapperLease : Program Ω Bool := do
  let s ← Prog.read id
  if ¬ s.host.mediaSessionActive ∨ ¬ s.mapper.aclGenerationCurrent then
    return true
  else if s.mapper.ownerLease = s.host.ownerLease then
    return true
  else
    discarded (.acquireOwnerLease s.mapper.aclGeneration s.host.ownerLease)
    Prog.read fun s => s.mapper.ownerLease = s.host.ownerLease

/-- The mapper is brought to the generation of the options. -/
def beginGeneration (generation : UInt64) : Program Ω (Except UInt32 Unit) := do
  let mapper ← Prog.read (·.mapper)
  if mapper.aclGenerationCurrent ∧ mapper.aclGeneration ≠ generation then
    endMapperGeneration
  if ← Prog.read (·.mapper.aclGenerationCurrent) then
    return .ok ()
  else
    let begun ← mapped (.beginAclGeneration generation) false
    if begun.aclGeneration ≠ generation then
      return .error errorInvalidState
    else
      return .ok ()

/-- The mapper is set up for the options. -/
def configureMapper (generation : UInt64) : Program Ω Unit := do
  Prog.update fun s => { s with mapper := { s.mapper with
    headsetPreferred := s.host.options.headsetPreferred } }
  modify fun h => { h with options := { h.options with ownerLease := h.ownerLease } }
  match ← ask env.queryWindowsVolume with
  | none => pure ()
  | some current =>
    modify fun h => { h with options := { h.options with initialWindowsVolume := current } }
  let host ← Prog.read (·.host)
  discarded (.setControlMode generation host.options.volumeSync host.options.mediaRouting)
  discarded (.acquireOwnerLease generation host.ownerLease)
  discarded (.observeWindowsVolume generation host.options.initialWindowsVolume)
  mapAndDispatch env.toAvrcpEnvironment (.setMediaSessionSnapshot host.options.mediaSession)

/-- The end of `beginGeneration`: the mapper begins the generation, if it has none. -/
def beginUnlessCurrent (generation : UInt64) : Program Ω (Except UInt32 Unit) := do
  if ← Prog.read (·.mapper.aclGenerationCurrent) then
    return .ok ()
  else
    let begun ← mapped (.beginAclGeneration generation) false
    if begun.aclGeneration ≠ generation then
      return .error errorInvalidState
    else
      return .ok ()

/-- The end of `configureMapper`: what the mapper is told of the options. -/
def tellOptions (generation : UInt64) : Program Ω Unit := do
  let host ← Prog.read (·.host)
  discarded (.setControlMode generation host.options.volumeSync host.options.mediaRouting)
  discarded (.acquireOwnerLease generation host.ownerLease)
  discarded (.observeWindowsVolume generation host.options.initialWindowsVolume)
  mapAndDispatch env.toAvrcpEnvironment (.setMediaSessionSnapshot host.options.mediaSession)

def preparePhysicalMapper : Program Ω (Except UInt32 Unit) := do
  let generation ← Prog.read (·.host.options.aclGeneration)
  if generation = 0 then
    return .error errorInvalidParameter
  else
    match ← beginGeneration generation with
    | .error e => return .error e
    | .ok () =>
      configureMapper env generation
      if ← ensureMapperLease then
        return .ok ()
      else
        return .error errorInvalidState

def feedDriverEvent (event : NldAvrcpObserverEvent) : Program Ω Bool := do
  let generation ← Prog.read (·.mapper.aclGeneration)
  match mapDriverEvent event generation with
  | none => return true
  | some mapped =>
    let options ← Prog.read (·.host.options)
    if ← v1AvrcpFeedEvent env.toAvrcpEnvironment mapped options then
      ensureMapperLease
    else
      return false

/-- A way out of `BeginMediaSession`: a session that it started ends. -/
def abandon (starting : Bool) (result : V1AvrcpObserverActivationResult) (error : UInt32) :
    Program Ω (V1AvrcpObserverActivationResult × UInt32) := do
  Prog.onlyIf starting endMediaSession
  return (result, error)

/-- The activation of the driver, for its status. -/
def activate (status : NldAvrcpObserverStatus) :
    Program Ω (Except (V1AvrcpObserverActivationResult × UInt32) Unit) := do
  let host ← Prog.read (·.host)
  if host.activationTerminalFailure then
    return .error (.failed, host.activationFailureError)
  else if ¬ host.observationRequested ∧ isReadyForActivation status then
    match ← ask env.beginObservation with
    | .error e =>
      modify fun h => { h with activationTerminalFailure := true, activationFailureError := e }
      return .error (.failed, e)
    | .ok () =>
      modify fun h => { h with observationRequested := true }
      return .ok ()
  else if status.flags &&& statusActivationRequested ≠ 0 then
    modify fun h => { h with observationRequested := true }
    return .ok ()
  else
    return .error (.pending, errorNotReady)

def beginMediaSession (options : V1AvrcpReplayOptions) :
    Program Ω (V1AvrcpObserverActivationResult × UInt32) := do
  modify fun h => { h with options := options }
  let starting ← Prog.read (!·.host.mediaSessionActive)
  Prog.onlyIf starting
    (modify fun h => { h with
      mediaSessionActive := true
      ownerLease := nextOwnerLease h.ownerLease
      mediaSessionsStarted := h.mediaSessionsStarted + 1 })
  match ← ensureOpened env with
  | .error (result, e) => abandon starting result e
  | .ok () =>
    match ← readStatus env with
    | .error e => abandon starting .failed e
    | .ok status =>
      match ← preparePhysicalMapper env with
      | .error e => abandon starting .failed e
      | .ok () =>
        match ← activate env status with
        | .error (result, e) => abandon starting result e
        | .ok () =>
          if ← ensureMapperLease then
            return (.active, 0)
          else
            abandon starting .failed errorInvalidState

/-- The loop of `Poll` over the driver's events; whether a write response was
    among them. -/
def pollEvents : Nat → Bool → Program Ω (Except UInt32 Bool)
  | 0, observed => return .ok observed
  | n + 1, observed => do
    match ← ask env.dequeueEvent with
    | .error e => if e = errorNoMoreItems then return .ok observed else return .error e
    | .ok event =>
      if ← feedDriverEvent env event then
        pollEvents n (observed || event.type = .writeResponse)
      else
        return .error errorInvalidData

/-- Without notifications, the Windows volume is queried now and then. -/
def queryWindowsVolumeUnnotified : Program Ω Unit := do
  let now ← ask env.getTickCount
  let active ← ask env.windowsVolumeNotificationsActive
  let last ← Prog.read (·.host.lastWindowsVolumePollTick)
  if ¬ active ∧ now - last ≥ kWindowsVolumePollIntervalMs then
    modify fun h => { h with lastWindowsVolumePollTick := now }
    match ← ask env.queryWindowsVolume with
    | none => return ()
    | some current =>
      let generation ← Prog.read (·.mapper.aclGeneration)
      mapAndDispatch env.toAvrcpEnvironment (.observeWindowsVolume generation current)

/-- The Windows volume, while the mapper holds the session's lease. -/
def pollWindowsVolume : Program Ω Unit := do
  match ← ask env.consumeWindowsVolumeChange with
  | none => pure ()
  | some notified =>
    let generation ← Prog.read (·.mapper.aclGeneration)
    mapAndDispatch env.toAvrcpEnvironment (.observeWindowsVolume generation notified)
  queryWindowsVolumeUnnotified env

def poll : Program Ω (Except UInt32 Unit) := do
  let host ← Prog.read (·.host)
  if ¬ host.mediaSessionActive ∨ ¬ host.observerOpen then
    return .ok ()
  else
    match ← readStatus env with
    | .error e => return .error e
    | .ok _ =>
      match ← pollEvents env kMaximumEventsPerPoll false with
      | .error e => return .error e
      | .ok writeResponseObserved =>
        let s ← Prog.read id
        Prog.onlyIf (s.mapper.aclGenerationCurrent ∧ s.mapper.ownerLease = s.host.ownerLease)
          (pollWindowsVolume env)
        let ready ← Prog.read (·.host.controlChannelReady)
        Prog.onlyIf (ready ∧ (¬ host.controlChannelReady ∨ writeResponseObserved))
          (retryPendingWrites env.toAvrcpEnvironment)
        return .ok ()

def setMediaSessionSnapshot (snapshot : V1MediaSessionSnapshot) : Program Ω Unit := do
  modify fun h => { h with options := { h.options with mediaSession := snapshot } }
  if ← Prog.read (·.mapper.aclGenerationCurrent) then
    mapAndDispatch env.toAvrcpEnvironment (.setMediaSessionSnapshot snapshot)

def headsetInitialSyncComplete (s : AvrcpStage Ω V1AvrcpObserverHost) : Bool :=
  s.mapper.aclGenerationCurrent ∧ s.mapper.xm5VolumeSeen

def singleGainReady (s : AvrcpStage Ω V1AvrcpObserverHost) : Bool :=
  s.host.controlChannelReady ∧ headsetInitialSyncComplete s

/-! ## Runs -/

inductive Call where
  | beginMediaSession (options : V1AvrcpReplayOptions)
  | poll
  | setMediaSessionSnapshot (snapshot : V1MediaSessionSnapshot)
  | endMediaSession
  | releaseTransport
  | close
  deriving DecidableEq, Repr

def Call.program : Call → Program Ω Unit
  | .beginMediaSession options => do
    let _ ← V1AvrcpObserverHost.beginMediaSession env options
  | .poll => do let _ ← V1AvrcpObserverHost.poll env
  | .setMediaSessionSnapshot snapshot =>
    V1AvrcpObserverHost.setMediaSessionSnapshot env snapshot
  | .endMediaSession => V1AvrcpObserverHost.endMediaSession
  | .releaseTransport => V1AvrcpObserverHost.releaseTransport env
  | .close => V1AvrcpObserverHost.close env

def machine : Reducer (AvrcpStage Ω V1AvrcpObserverHost) Call Unit where
  step s call := ((), (call.program env s).2)

/-- A host that was just built, in a world. -/
def fresh (writeEnabled : Bool) (world : Ω) : AvrcpStage Ω V1AvrcpObserverHost where
  world := world
  host := { writeEnabled := writeEnabled }

end V1AvrcpObserverHost

end NativeLdac.Agent
