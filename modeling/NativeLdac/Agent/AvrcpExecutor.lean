/-
  The AVRCP action executor (`agent/v1_avrcp_action_executor.cpp`) and the
  Windows sink it drives (`agent/v1_avrcp_windows_sink.cpp`).

  * `AvrcpEnvironment` answers the calls to the Windows endpoint, the keyboard,
    the clock and the Bluetooth writer; the answers depend on a world `Ω`, which
    the calls may change, and nothing is assumed of them;
  * `AvrcpStage` is what the programs act on: the world, a mapper, the sink and
    the host's own fields; `log` holds the moments of the run, the last one
    first.
-/
import NativeLdac.Agent.AvrcpMapper
import NativeLdac.Lib.Prog

namespace NativeLdac.Agent

/-! ## The sink's pending writes -/

/-- A write that the sink keeps when it is refused. -/
inductive PendingWrite where
  | windowsVolume (volume : AvrcpWindowsVolume)
  | xm5Volume (volume : Nat)
  | playbackStatus (status : UInt8)
  deriving DecidableEq, Repr

/-- The sink has one slot for each kind of write. -/
inductive PendingSlot where
  | windowsVolume | xm5Volume | playbackStatus
  deriving DecidableEq, Repr

def PendingWrite.slot : PendingWrite → PendingSlot
  | .windowsVolume _ => .windowsVolume
  | .xm5Volume _ => .xm5Volume
  | .playbackStatus _ => .playbackStatus

/-- The fields of the sink; a slot is none while its valid flag is off. -/
structure V1AvrcpWindowsSink where
  apply : Bool := true
  hasWriter : Bool := true
  pendingWindowsVolume : Option AvrcpWindowsVolume := none
  pendingXm5Volume : Option Nat := none
  pendingPlaybackStatus : Option UInt8 := none
  deriving DecidableEq, Repr

namespace V1AvrcpWindowsSink

def pending (sink : V1AvrcpWindowsSink) : PendingSlot → Option PendingWrite
  | .windowsVolume => sink.pendingWindowsVolume.map .windowsVolume
  | .xm5Volume => sink.pendingXm5Volume.map .xm5Volume
  | .playbackStatus => sink.pendingPlaybackStatus.map .playbackStatus

def keep (sink : V1AvrcpWindowsSink) : PendingWrite → V1AvrcpWindowsSink
  | .windowsVolume volume => { sink with pendingWindowsVolume := some volume }
  | .xm5Volume volume => { sink with pendingXm5Volume := some volume }
  | .playbackStatus status => { sink with pendingPlaybackStatus := some status }

def drop (sink : V1AvrcpWindowsSink) : PendingSlot → V1AvrcpWindowsSink
  | .windowsVolume => { sink with pendingWindowsVolume := none }
  | .xm5Volume => { sink with pendingXm5Volume := none }
  | .playbackStatus => { sink with pendingPlaybackStatus := none }

@[simp] theorem pending_keep (sink : V1AvrcpWindowsSink) (write : PendingWrite)
    (slot : PendingSlot) :
    (sink.keep write).pending slot = if slot = write.slot then some write
      else sink.pending slot := by
  cases write <;> cases slot <;> rfl

@[simp] theorem pending_drop (sink : V1AvrcpWindowsSink) (dropped slot : PendingSlot) :
    (sink.drop dropped).pending slot = if slot = dropped then none else sink.pending slot := by
  cases dropped <;> cases slot <;> rfl

theorem slot_of_pending {sink : V1AvrcpWindowsSink} {slot : PendingSlot} {write : PendingWrite}
    (h : sink.pending slot = some write) : write.slot = slot := by
  cases slot <;> simp only [pending, Option.map_eq_some_iff] at h <;> obtain ⟨_, -, rfl⟩ := h <;>
    rfl

end V1AvrcpWindowsSink

/-! ## The stage -/

inductive AvrcpMoment where
  /-- the mapper performs an operation; its action set is dispatched or thrown away -/
  | mapped (mapper : V1AvrcpControlMapperState) (sink : V1AvrcpWindowsSink)
      (op : V1AvrcpMapperOp) (dispatched : Bool)
  /-- the sink keeps a refused write of an action with the generation, under the lease -/
  | kept (write : PendingWrite) (aclGeneration ownerLease : UInt64)
  /-- the sink tries a pending write again -/
  | retried (write : PendingWrite) (mapper : V1AvrcpControlMapperState)
  deriving DecidableEq, Repr

structure AvrcpEnvironment (Ω : Type) where
  ensureVolume : Ω → Bool × Ω
  setWindowsVolume : AvrcpWindowsVolume → Ω → Bool × Ω
  queryWindowsVolume : Ω → Option AvrcpWindowsVolume × Ω
  windowsVolumeNotificationsActive : Ω → Bool × Ω
  consumeWindowsVolumeChange : Ω → Option AvrcpWindowsVolume × Ω
  injectVirtualKey : UInt16 → Ω → Bool × Ω
  writeAvrcp : UInt32 → UInt32 → List UInt8 → Ω → Bool × Ω
  getTickCount : Ω → UInt64 × Ω

structure AvrcpStage (Ω H : Type) where
  world : Ω
  mapper : V1AvrcpControlMapperState := {}
  sink : V1AvrcpWindowsSink := {}
  host : H
  log : List AvrcpMoment := []

namespace AvrcpStage

variable {Ω H α : Type}

/-- One external call. -/
def ask (call : Ω → α × Ω) : Prog (AvrcpStage Ω H) α :=
  Prog.step fun s => ((call s.world).1, { s with world := (call s.world).2 })

def mapped (op : V1AvrcpMapperOp) (dispatched : Bool) :
    Prog (AvrcpStage Ω H) V1AvrcpActionSet :=
  Prog.step fun s => (avrcpMapper.out s.mapper op,
    { s with
      mapper := avrcpMapper.next s.mapper op
      log := .mapped s.mapper s.sink op dispatched :: s.log })

/-- One operation of the mapper whose action set is thrown away. -/
def discarded (op : V1AvrcpMapperOp) : Prog (AvrcpStage Ω H) Unit := do
  let _ ← mapped op false
  return ()

/-- The sink keeps a write of an action of the generation. -/
def keep (write : PendingWrite) (aclGeneration : UInt64) : Prog (AvrcpStage Ω H) Unit :=
  Prog.update fun s => { s with
    sink := s.sink.keep write
    log := .kept write aclGeneration s.mapper.ownerLease :: s.log }

def drop (slot : PendingSlot) : Prog (AvrcpStage Ω H) Unit :=
  Prog.update fun s => { s with sink := s.sink.drop slot }

/-- The sink tries a pending write again. -/
def retried (write : PendingWrite) : Prog (AvrcpStage Ω H) Unit :=
  Prog.update fun s => { s with log := .retried write s.mapper :: s.log }

end AvrcpStage

open AvrcpStage

/-! ## The sink -/

def v1AvrcpVirtualKeyForAction : V1AvrcpAction → UInt16
  | .stepVolumeUp => 0xAF
  | .stepVolumeDown => 0xAE
  | .toggleMute => 0xAD
  | .mediaPlay | .mediaPause | .mediaPlayPause => 0xB3
  | .mediaStop => 0xB2
  | .mediaNextTrack => 0xB0
  | .mediaPreviousTrack => 0xB1
  | _ => 0

/-- The actions that press a key, in the order of `Handle`. -/
def keyActions : List V1AvrcpAction :=
  [.stepVolumeUp, .stepVolumeDown, .toggleMute, .mediaPlay, .mediaPause, .mediaPlayPause,
    .mediaStop, .mediaNextTrack, .mediaPreviousTrack]

def playbackStatusByte : V1AvrcpPlaybackState → UInt8
  | .playing => 0x01
  | .paused => 0x02
  | .stopped => 0x00

section
variable {Ω H : Type} (env : AvrcpEnvironment Ω)

/-- Writes to the headset or to the endpoint. -/
def PendingWrite.attempt : PendingWrite → Prog (AvrcpStage Ω H) Bool
  | .windowsVolume volume => ask (env.setWindowsVolume volume)
  | .xm5Volume volume => ask (env.writeAvrcp 0x50 0 [UInt8.ofNat volume])
  | .playbackStatus status => ask (env.writeAvrcp 0x31 0x0D [0x01, status])

/-- The branch of `Handle` for `SetWindowsVolume`. -/
def handleWindowsVolume (actions : V1AvrcpActionSet) : Prog (AvrcpStage Ω H) Bool := do
  if v1AvrcpHasAction actions .setWindowsVolume then
    let write := PendingWrite.windowsVolume actions.windowsVolume
    let apply ← Prog.read (·.sink.apply)
    let applied ← if apply then write.attempt env else pure true
    if applied then
      drop .windowsVolume
      return true
    else
      keep write actions.aclGeneration
      return false
  else
    return true

/-- The loop of `Handle` over the key actions. -/
def handleKeys (actions : V1AvrcpActionSet) : List V1AvrcpAction → Prog (AvrcpStage Ω H) Bool
  | [] => return true
  | action :: rest => do
    let apply ← Prog.read (·.sink.apply)
    let injected ←
      if v1AvrcpHasAction actions action ∧ apply then
        let vk := v1AvrcpVirtualKeyForAction action
        if vk ≠ 0 then ask (env.injectVirtualKey vk) else pure false
      else pure true
    let ok ← handleKeys actions rest
    return injected && ok

/-- The branch of `Handle` for an action that writes to the headset. -/
def handleWrite (actions : V1AvrcpActionSet) (action : V1AvrcpAction) (write : PendingWrite) :
    Prog (AvrcpStage Ω H) Unit := do
  if v1AvrcpHasAction actions action then
    let sink ← Prog.read (·.sink)
    if sink.apply ∧ sink.hasWriter then
      if ← write.attempt env then
        drop write.slot
      else
        keep write actions.aclGeneration

def handle (actions : V1AvrcpActionSet) : Prog (AvrcpStage Ω H) Bool := do
  let applied ← handleWindowsVolume env actions
  let injected ← handleKeys env actions keyActions
  handleWrite env actions .sendXm5Volume (.xm5Volume actions.xm5AbsoluteVolume)
  handleWrite env actions .notifyPlaybackStatus
    (.playbackStatus (playbackStatusByte actions.playbackAfter))
  return applied && injected

def retrySlot (slot : PendingSlot) : Prog (AvrcpStage Ω H) Unit := do
  match ← Prog.read (·.sink.pending slot) with
  | none => return ()
  | some write =>
    retried write
    if ← write.attempt env then
      drop slot

def retryPendingWrites : Prog (AvrcpStage Ω H) Unit := do
  let sink ← Prog.read (·.sink)
  if sink.apply then
    if sink.pendingWindowsVolume.isSome then
      if ← ask env.ensureVolume then
        retrySlot env .windowsVolume
    if sink.hasWriter then
      retrySlot env .xm5Volume
      retrySlot env .playbackStatus

/-! ## The executor -/

def errorInvalidData : UInt32 := 13
def errorInvalidParameter : UInt32 := 87
def errorNoMoreItems : UInt32 := 259
def errorInvalidState : UInt32 := 5023

structure V1AvrcpReplayOptions where
  aclGeneration : UInt64 := 1
  ownerLease : UInt64 := 1
  volumeSync : Bool := true
  mediaRouting : Bool := true
  headsetPreferred : Bool := true
  initialWindowsVolume : AvrcpWindowsVolume := ⟨50, false⟩
  mediaSession : V1MediaSessionSnapshot := {}
  deriving DecidableEq, Repr

inductive V1AvrcpObservedEventKind where
  | generationStarted | generationEnded | volumeCapability | absoluteVolume | passThrough
  | setAbsoluteVolumeCommand
  deriving DecidableEq, Repr

structure V1AvrcpObservedEvent where
  kind : V1AvrcpObservedEventKind := .generationStarted
  generation : UInt64 := 0
  flags : UInt32 := 0
  value : UInt32 := 0
  volumeEvent : AvrcpXm5VolumeEvent := .remoteNotification
  deriving DecidableEq, Repr

def kFlagReleased : UInt32 := 0x02

/-- One call of `V1AvrcpDispatchAuthorizedActions`, up to the one it makes of
    itself (`inl`). -/
def dispatchRound (actions : V1AvrcpActionSet) :
    Prog (AvrcpStage Ω H) (V1AvrcpActionSet ⊕ Unit) := do
  if actions.actions = [] ∨ ¬ actions.authorizedCurrent then
    return .inr ()
  else if ← handle env actions then
    if v1AvrcpHasAction actions .setWindowsVolume then
      match ← ask env.queryWindowsVolume with
      | none => return .inr ()
      | some readback =>
        let generation ← Prog.read (·.mapper.aclGeneration)
        let feedback ← mapped (.observeWindowsVolume generation readback) true
        return .inl feedback
    else
      return .inr ()
  else
    return .inr ()

/-- `V1AvrcpDispatchAuthorizedActions`: the feedback sets no Windows volume, so
    the recursion ends in its second round. -/
def v1AvrcpDispatchAuthorizedActions (actions : V1AvrcpActionSet) : Prog (AvrcpStage Ω H) Unit :=
  Prog.iterate (dispatchRound env) 2 actions

/-- One operation of the mapper whose action set is dispatched. -/
def mapAndDispatch (op : V1AvrcpMapperOp) : Prog (AvrcpStage Ω H) Unit := do
  let actions ← mapped op true
  v1AvrcpDispatchAuthorizedActions env actions

/-- The branch of `V1AvrcpFeedEvent` that starts a generation. -/
def feedGenerationStarted (generation : UInt64) (options : V1AvrcpReplayOptions) :
    Prog (AvrcpStage Ω H) Bool := do
  let current ← Prog.read (·.mapper.aclGenerationCurrent)
  if current then
    return false
  else
    let actions ← mapped (.beginAclGeneration generation) false
    if actions.aclGeneration = 0 then
      return false
    else
      discarded (.setControlMode generation options.volumeSync options.mediaRouting)
      discarded (.acquireOwnerLease generation options.ownerLease)
      Prog.update fun s => { s with mapper := { s.mapper with
        headsetPreferred := options.headsetPreferred
        xm5VolumeSeen := false } }
      discarded (.observeWindowsVolume generation options.initialWindowsVolume)
      mapAndDispatch env
        (.setMediaSessionSnapshot { options.mediaSession with aclGeneration := generation })
      return true

/-- The mapper's operation for an observed event of its generation. -/
def V1AvrcpObservedEvent.op (event : V1AvrcpObservedEvent) : Option V1AvrcpMapperOp :=
  let value := (event.value &&& 0x7F).toUInt8
  match event.kind with
  | .volumeCapability => some (.observeVolumeCapability event.generation (event.value ≠ 0))
  | .absoluteVolume => some (.observeXm5AbsoluteVolume event.generation value event.volumeEvent)
  | .passThrough =>
    some (.observePassThrough event.generation value (event.flags &&& kFlagReleased ≠ 0))
  | .setAbsoluteVolumeCommand =>
    some (.observeXm5AbsoluteVolume event.generation value .remoteNotification)
  | _ => none

def v1AvrcpFeedEvent (event : V1AvrcpObservedEvent) (options : V1AvrcpReplayOptions) :
    Prog (AvrcpStage Ω H) Bool := do
  let mapper ← Prog.read (·.mapper)
  if event.generation = 0 then
    return false
  else if event.kind = .generationStarted then
    feedGenerationStarted env event.generation options
  else if event.kind = .generationEnded then
    if ¬ mapper.aclGenerationCurrent then
      return false
    else
      discarded (.endAclGeneration event.generation)
      return true
  else if ¬ mapper.aclGenerationCurrent ∨ event.generation ≠ mapper.aclGeneration then
    return true
  else
    match event.op with
    | none => return true
    | some op =>
      mapAndDispatch env op
      return true

end

end NativeLdac.Agent
