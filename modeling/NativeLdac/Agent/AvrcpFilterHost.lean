/-
  The host of the Microsoft-preserving AVRCP filter
  (`agent/v1_avrcp_filter_host.cpp`) and the arbiter of its bootstrap PLAY
  (`agent/v1_avrcp_bootstrap_play.cpp`).

  `AvrcpFilterEnvironment` answers for the filter driver: whether it opens, and
  the next event it decodes.  `history` holds the moments of the arbiter, the
  last one first.
-/
import NativeLdac.Agent.AvrcpExecutor
import NativeLdac.Lib.Reducer

namespace NativeLdac.Agent

open AvrcpStage

/-! ## The bootstrap PLAY -/

def kV1AvrcpBootstrapPlayDelayMs : UInt64 := 200

inductive V1AvrcpBootstrapPlayDecision where
  | none | scheduled | microsoftHandled | cancelled | injectPlay
  deriving DecidableEq, Repr

structure V1AvrcpBootstrapPlayState where
  pending : Bool := false
  aclGeneration : UInt64 := 0
  deadlineMs : UInt64 := 0
  scheduledCount : UInt64 := 0
  microsoftHandledCount : UInt64 := 0
  fallbackInjectedCount : UInt64 := 0
  cancelledCount : UInt64 := 0
  deriving DecidableEq, Repr

def resetV1AvrcpBootstrapPlay (state : V1AvrcpBootstrapPlayState) (aclGeneration : UInt64) :
    V1AvrcpBootstrapPlayState :=
  { state with pending := false, aclGeneration := aclGeneration, deadlineMs := 0 }

def observeV1AvrcpBootstrapPlayGesture (state : V1AvrcpBootstrapPlayState)
    (media : V1MediaSessionSnapshot) (playLikePress : Bool) (nowMs : UInt64) :
    V1AvrcpBootstrapPlayDecision × V1AvrcpBootstrapPlayState :=
  if ¬ playLikePress ∨ media.aclGeneration = 0 ∨ media.aclGeneration ≠ state.aclGeneration ∨
      media.playback ≠ .paused ∨ ¬ media.playEnabled then (.none, state)
  else if state.pending then (.none, state)
  else
    (.scheduled, { state with
      pending := true
      deadlineMs := nowMs + kV1AvrcpBootstrapPlayDelayMs
      scheduledCount := state.scheduledCount + 1 })

def reconcileV1AvrcpBootstrapPlay (state : V1AvrcpBootstrapPlayState)
    (media : V1MediaSessionSnapshot) (nowMs : UInt64) :
    V1AvrcpBootstrapPlayDecision × V1AvrcpBootstrapPlayState :=
  if ¬ state.pending then (.none, state)
  else if media.aclGeneration ≠ state.aclGeneration then
    (.cancelled, { state with
      pending := false, deadlineMs := 0, cancelledCount := state.cancelledCount + 1 })
  else if media.playback = .playing then
    (.microsoftHandled, { state with
      pending := false, deadlineMs := 0
      microsoftHandledCount := state.microsoftHandledCount + 1 })
  else if media.playback ≠ .paused ∨ ¬ media.playEnabled then
    (.cancelled, { state with
      pending := false, deadlineMs := 0, cancelledCount := state.cancelledCount + 1 })
  else if nowMs < state.deadlineMs then (.none, state)
  else
    (.injectPlay, { state with
      pending := false, deadlineMs := 0
      fallbackInjectedCount := state.fallbackInjectedCount + 1 })

inductive BootstrapMoment where
  /-- a pass-through event of the active session -/
  | gesture (media : V1MediaSessionSnapshot) (playLikePress : Bool) (nowMs : UInt64)
      (decision : V1AvrcpBootstrapPlayDecision)
  /-- the arbitration of a poll -/
  | polled (media : V1MediaSessionSnapshot) (nowMs : UInt64)
      (decision : V1AvrcpBootstrapPlayDecision)
  /-- a poll that fails before its arbitration -/
  | pollFailed (media : V1MediaSessionSnapshot)
  /-- the end of a session, with or without a fallback pending -/
  | sessionEnded (pending : Bool)
  deriving DecidableEq, Repr

/-! ## The host -/

inductive AvrcpObserverEventKind where
  | none | volumeCapability | volumeChanged | passThrough | vendorCommand | writeResponse
  | protocolError
  deriving DecidableEq, Repr

/-- The fields of `avrcp_observer_event` that the host reads. -/
structure AvrcpObserverEvent where
  kind : AvrcpObserverEventKind := .none
  volumeSupported : UInt8 := 0
  absoluteVolume : UInt8 := 0
  operationId : UInt8 := 0
  released : UInt8 := 0
  responseCode : UInt8 := 0
  deriving DecidableEq, Repr

def avrcpCtypeControl : UInt8 := 0x00
def avrcpResponseChanged : UInt8 := 0x0D
def avrcpOperationPlay : UInt8 := 0x44
def avrcpOperationPause : UInt8 := 0x46
def kMaximumEventsPerPoll : Nat := 128

structure AvrcpFilterEnvironment (Ω : Type) extends AvrcpEnvironment Ω where
  openFilter : Ω → Except UInt32 Unit × Ω
  dequeueEvent : Ω → Except UInt32 AvrcpObserverEvent × Ω

structure V1AvrcpFilterHost where
  isOpen : Bool := false
  options : V1AvrcpReplayOptions := {}
  bootstrapPlay : V1AvrcpBootstrapPlayState := {}
  ownerLease : UInt64 := 0
  sessionActive : Bool := false
  history : List BootstrapMoment := []
  deriving DecidableEq, Repr

namespace V1AvrcpFilterHost

variable {Ω : Type} (env : AvrcpFilterEnvironment Ω)

abbrev Program (Ω α : Type) := Prog (AvrcpStage Ω V1AvrcpFilterHost) α

/-- Change the host's own fields. -/
def modify (f : V1AvrcpFilterHost → V1AvrcpFilterHost) : Program Ω Unit :=
  Prog.update fun s => { s with host := f s.host }

def open_ : Program Ω (Except UInt32 Unit) := do
  modify fun h => { h with isOpen := false }
  match ← ask env.openFilter with
  | .ok () =>
    modify fun h => { h with isOpen := true }
    return .ok ()
  | .error e => return .error e

def close : Program Ω Unit := modify fun h => { h with isOpen := false }

def dequeue : Program Ω (Except UInt32 AvrcpObserverEvent) := do
  if ← Prog.read (·.host.isOpen) then
    ask env.dequeueEvent
  else
    return .error errorInvalidParameter

/-- The loop that drains the events of earlier connections. -/
def drain : Nat → Program Ω (Except UInt32 Unit)
  | 0 => return .ok ()
  | n + 1 => do
    match ← dequeue env with
    | .ok _ => drain n
    | .error e => if e ≠ errorNoMoreItems then return .error e else return .ok ()

/-- The first step of `BeginSession` after the arguments: the filter is open. -/
def ensureOpen : Program Ω (Except UInt32 Unit) := do
  if ← Prog.read (·.host.isOpen) then
    return .ok ()
  else
    open_ env

/-- A new generation resets the arbiter and drains the queue. -/
def prepareGeneration (generation : UInt64) : Program Ω (Except UInt32 Unit) := do
  let mapper ← Prog.read (·.mapper)
  if ¬ mapper.aclGenerationCurrent ∨ mapper.aclGeneration ≠ generation then
    modify fun h => { h with
      bootstrapPlay := resetV1AvrcpBootstrapPlay h.bootstrapPlay generation }
    drain env kMaximumEventsPerPoll
  else
    return .ok ()

/-- The mapper begins the generation, if it has none. -/
def beginUnlessCurrent (generation : UInt64) : Program Ω (Except UInt32 Unit) := do
  if ← Prog.read (·.mapper.aclGenerationCurrent) then
    return .ok ()
  else
    let begun ← mapped (.beginAclGeneration generation) false
    if begun.aclGeneration ≠ generation then
      return .error errorInvalidState
    else
      return .ok ()

/-- The mapper is brought to the generation. -/
def beginGeneration (generation : UInt64) : Program Ω (Except UInt32 Unit) := do
  let mapper ← Prog.read (·.mapper)
  if mapper.aclGenerationCurrent ∧ mapper.aclGeneration ≠ generation then
    discarded (.endAclGeneration mapper.aclGeneration)
  beginUnlessCurrent generation

def nextOwnerLease (lease : UInt64) : UInt64 := if lease + 1 = 0 then 1 else lease + 1

/-- The rest of `BeginSession`. -/
def startSession (generation : UInt64) (media : V1MediaSessionSnapshot) : Program Ω Unit := do
  modify fun h => { h with options :=
    { aclGeneration := generation
      volumeSync := true
      mediaRouting := false
      headsetPreferred := true
      mediaSession := media } }
  Prog.update fun s => { s with mapper := { s.mapper with headsetPreferred := true } }
  modify fun h => { h with ownerLease := nextOwnerLease h.ownerLease }
  discarded (.setControlMode generation true false)
  let lease ← Prog.read (·.host.ownerLease)
  discarded (.acquireOwnerLease generation lease)
  match ← ask env.queryWindowsVolume with
  | none => pure ()
  | some current => discarded (.observeWindowsVolume generation current)
  mapAndDispatch env.toAvrcpEnvironment (.setMediaSessionSnapshot media)
  modify fun h => { h with sessionActive := true }

/-- `BeginSession`, for a sink -/
def beginSession (generation : UInt64) (media : V1MediaSessionSnapshot) :
    Program Ω (Except UInt32 Unit) := do
  let s ← Prog.read id
  if generation = 0 ∨ (s.host.sessionActive ∧ s.mapper.aclGeneration ≠ generation) then
    return .error errorInvalidParameter
  else
    match ← ensureOpen env with
    | .error e => return .error e
    | .ok () =>
      match ← prepareGeneration env generation with
      | .error e => return .error e
      | .ok () =>
        match ← beginGeneration generation with
        | .error e => return .error e
        | .ok () =>
          startSession env generation media
          return .ok ()

/-- What the arbiter makes of a pass-through event. -/
def observeGesture (event : AvrcpObserverEvent) : Program Ω Unit := do
  let playLikePress : Bool := event.released = 0 ∧
    (event.operationId = avrcpOperationPlay ∨ event.operationId = avrcpOperationPause)
  let now ← ask env.getTickCount
  modify fun h =>
    let r := observeV1AvrcpBootstrapPlayGesture h.bootstrapPlay h.options.mediaSession
      playLikePress now
    { h with
      bootstrapPlay := r.2
      history := .gesture h.options.mediaSession playLikePress now r.1 :: h.history }

/-- The observed event for a decoded one; none if the host skips it. -/
def observedEvent (generation : UInt64) (event : AvrcpObserverEvent) :
    Option V1AvrcpObservedEvent :=
  match event.kind with
  | .volumeCapability =>
    some { kind := .volumeCapability, generation := generation
           value := event.volumeSupported.toUInt32 }
  | .volumeChanged =>
    some { kind := .absoluteVolume, generation := generation
           value := event.absoluteVolume.toUInt32
           volumeEvent := if event.responseCode = avrcpResponseChanged then .remoteNotification
             else .commandResponse }
  | .passThrough =>
    if event.responseCode = avrcpCtypeControl then
      some { kind := .passThrough, generation := generation
             value := event.operationId.toUInt32
             flags := if event.released ≠ 0 then kFlagReleased else 0 }
    else none
  | _ => none

theorem observedEvent_kind {generation : UInt64} {event : AvrcpObserverEvent}
    {observed : V1AvrcpObservedEvent} (h : observedEvent generation event = some observed) :
    observed.kind ≠ .generationStarted ∧ observed.kind ≠ .generationEnded := by
  unfold observedEvent at h
  split at h
  · cases h
    exact ⟨nofun, nofun⟩
  · cases h
    exact ⟨nofun, nofun⟩
  · by_cases hcontrol : event.responseCode = avrcpCtypeControl
    · rw [if_pos hcontrol] at h
      cases h
      exact ⟨nofun, nofun⟩
    · rw [if_neg hcontrol] at h
      cases h
  · cases h

/-- The loop of `Poll` over the decoded events. -/
def pollEvents : Nat → Program Ω (Except UInt32 Unit)
  | 0 => return .ok ()
  | n + 1 => do
    match ← dequeue env with
    | .error e => if e = errorNoMoreItems then return .ok () else return .error e
    | .ok event =>
      let generation ← Prog.read (·.mapper.aclGeneration)
      match observedEvent generation event with
      | none => pollEvents n
      | some observed =>
        Prog.onlyIf (observed.kind = .passThrough) (observeGesture env event)
        let options ← Prog.read (·.host.options)
        if ← v1AvrcpFeedEvent env.toAvrcpEnvironment observed options then
          pollEvents n
        else
          return .error errorInvalidData

/-- The action set of an injected PLAY. -/
def fallback (mapper : V1AvrcpControlMapperState) : V1AvrcpActionSet :=
  { actions := [.mediaPlay]
    aclGeneration := mapper.aclGeneration
    authorizedCurrent := mapper.aclGenerationCurrent ∧ mapper.ownerLease ≠ 0
    eventObserved := true
    playbackAfter := .playing
    playbackChanged := true }

/-- The arbitration of `Poll`. -/
def arbitrate : Program Ω Unit := do
  let now ← ask env.getTickCount
  let host ← Prog.read (·.host)
  let r := reconcileV1AvrcpBootstrapPlay host.bootstrapPlay host.options.mediaSession now
  modify fun h => { h with
    bootstrapPlay := r.2
    history := .polled host.options.mediaSession now r.1 :: h.history }
  if r.1 = .injectPlay then
    let mapper ← Prog.read (·.mapper)
    v1AvrcpDispatchAuthorizedActions env.toAvrcpEnvironment (fallback mapper)

def poll : Program Ω (Except UInt32 Unit) := do
  if ← Prog.read (·.host.sessionActive) then
    match ← pollEvents env kMaximumEventsPerPoll with
    | .error e =>
      modify fun h => { h with history := .pollFailed h.options.mediaSession :: h.history }
      return .error e
    | .ok () =>
      arbitrate env
      retryPendingWrites env.toAvrcpEnvironment
      match ← ask env.consumeWindowsVolumeChange with
      | none => return .ok ()
      | some notified =>
        let generation ← Prog.read (·.mapper.aclGeneration)
        mapAndDispatch env.toAvrcpEnvironment (.observeWindowsVolume generation notified)
        return .ok ()
  else
    return .ok ()

def setMediaSessionSnapshot (media : V1MediaSessionSnapshot) : Program Ω Unit := do
  modify fun h => { h with options := { h.options with mediaSession := media } }
  if ← Prog.read (·.host.sessionActive) then
    mapAndDispatch env.toAvrcpEnvironment (.setMediaSessionSnapshot media)

def endSession : Program Ω Unit := do
  let s ← Prog.read id
  if s.host.sessionActive ∧ s.mapper.aclGenerationCurrent then
    discarded (.revokeOwnerLease s.mapper.aclGeneration s.host.ownerLease)
  modify fun h => { h with
    sessionActive := false
    bootstrapPlay := resetV1AvrcpBootstrapPlay h.bootstrapPlay 0
    history := .sessionEnded h.bootstrapPlay.pending :: h.history }

/-! ## Runs -/

inductive Call where
  | openFilter
  | close
  | beginSession (generation : UInt64) (media : V1MediaSessionSnapshot)
  | poll
  | setMediaSessionSnapshot (media : V1MediaSessionSnapshot)
  | endSession
  deriving DecidableEq, Repr

def Call.program : Call → Program Ω Unit
  | .openFilter => do let _ ← open_ env
  | .close => V1AvrcpFilterHost.close
  | .beginSession generation media => do let _ ← V1AvrcpFilterHost.beginSession env generation media
  | .poll => do let _ ← V1AvrcpFilterHost.poll env
  | .setMediaSessionSnapshot media => V1AvrcpFilterHost.setMediaSessionSnapshot env media
  | .endSession => V1AvrcpFilterHost.endSession

def machine : Reducer (AvrcpStage Ω V1AvrcpFilterHost) Call Unit where
  step s call := ((), (call.program env s).2)

/-- A host that was just built, in a world. -/
def fresh (world : Ω) : AvrcpStage Ω V1AvrcpFilterHost where
  world := world
  host := {}

end V1AvrcpFilterHost

end NativeLdac.Agent
