/-
  The AVRCP action mapper (`agent/v1_avrcp_action_mapper.cpp`) and the media
  session eligibility it routes by (`agent/v1_media_session_eligibility.cpp`).

  The mapper owns the pass-through gate and the absolute-volume gate, and keeps
  an authorization state of its own.  The actions of a set are a list of the
  flags set, without repetition.  Every operation returns its action set and the
  new state.
-/
import NativeLdac.Agent.PassThrough

namespace NativeLdac.Agent

/-! ## Media sessions -/

inductive V1MediaSessionPlayback where
  | absent | stopped | playing | paused
  deriving DecidableEq, Repr

structure V1MediaSessionSnapshot where
  aclGeneration : UInt64 := 0
  playback : V1MediaSessionPlayback := .absent
  playEnabled : Bool := false
  pauseEnabled : Bool := false
  nextEnabled : Bool := false
  previousEnabled : Bool := false
  deriving DecidableEq, Repr

/-- Paused, with play enabled. -/
def V1MediaSessionSnapshot.AwaitsPlay (media : V1MediaSessionSnapshot) : Prop :=
  media.playback = .paused ∧ media.playEnabled

instance (media : V1MediaSessionSnapshot) : Decidable media.AwaitsPlay :=
  inferInstanceAs (Decidable (_ ∧ _))

structure V1MediaSessionEligibility where
  sessionPresent : Bool := false
  playEligible : Bool := false
  pauseEligible : Bool := false
  nextEligible : Bool := false
  previousEligible : Bool := false
  aclGeneration : UInt64 := 0
  deriving DecidableEq, Repr

def evaluateV1MediaSessionEligibility (snapshot : V1MediaSessionSnapshot) :
    V1MediaSessionEligibility :=
  if snapshot.aclGeneration = 0 ∨ snapshot.playback = .absent ∨ snapshot.playback = .stopped then
    { aclGeneration := snapshot.aclGeneration }
  else
    { sessionPresent := true
      playEligible := snapshot.playback = .paused ∧ snapshot.playEnabled
      pauseEligible := snapshot.playback = .playing ∧ snapshot.pauseEnabled
      nextEligible := snapshot.nextEnabled
      previousEligible := snapshot.previousEnabled
      aclGeneration := snapshot.aclGeneration }

/-! ## Actions -/

inductive V1AvrcpPlaybackState where
  | stopped | playing | paused
  deriving DecidableEq, Repr

inductive V1AvrcpAction where
  | setWindowsVolume | stepVolumeUp | stepVolumeDown | toggleMute | mediaPlay | mediaPause
  | mediaPlayPause | mediaStop | mediaNextTrack | mediaPreviousTrack | sendXm5Volume
  | notifyPlaybackStatus
  deriving DecidableEq, Repr

structure V1AvrcpActionSet where
  actions : List V1AvrcpAction := []
  aclGeneration : UInt64 := 0
  authorizedCurrent : Bool := false
  eventObserved : Bool := false
  windowsVolume : AvrcpWindowsVolume := {}
  xm5AbsoluteVolume : Nat := 0
  playbackAfter : V1AvrcpPlaybackState := .stopped
  playbackChanged : Bool := false
  deriving DecidableEq, Repr

structure V1AvrcpControlMapperState where
  aclGeneration : UInt64 := 0
  aclGenerationCurrent : Bool := false
  ownerLease : UInt64 := 0
  volumeSyncEnabled : Bool := false
  mediaRoutingEnabled : Bool := false
  mediaEligibility : V1MediaSessionEligibility := {}
  headsetPreferred : Bool := false
  xm5VolumeSeen : Bool := false
  playback : V1AvrcpPlaybackState := .stopped
  pcPlayback : V1AvrcpPlaybackState := .stopped
  pcPlaybackValid : Bool := false
  playbackStatusSyncRequired : Bool := false
  lastPlaybackStatus : V1AvrcpPlaybackState := .stopped
  playbackStatusValid : Bool := false
  passThrough : AvrcpPassThroughGateState := {}
  absoluteVolume : AvrcpAbsoluteVolumeGateState := {}
  deriving DecidableEq, Repr

def v1AvrcpHasAction (actions : V1AvrcpActionSet) (action : V1AvrcpAction) : Bool :=
  action ∈ actions.actions

def V1AvrcpActionSet.add (actions : V1AvrcpActionSet) (action : V1AvrcpAction) :
    V1AvrcpActionSet :=
  { actions with actions := actions.actions.insert action }

namespace V1AvrcpControlMapperState

variable (state : V1AvrcpControlMapperState)

def isCurrentGeneration (generation : UInt64) : Bool :=
  generation ≠ 0 ∧ state.aclGenerationCurrent ∧ state.aclGeneration = generation

def snapshot : V1AvrcpActionSet :=
  { aclGeneration := state.aclGeneration
    authorizedCurrent := state.aclGenerationCurrent ∧ state.ownerLease ≠ 0 }

end V1AvrcpControlMapperState

/-- Adds a flag that asks for a playback state. -/
def V1AvrcpActionSet.request (actions : V1AvrcpActionSet) (action : V1AvrcpAction)
    (playback : V1AvrcpPlaybackState) : V1AvrcpActionSet :=
  { actions.add action with playbackAfter := playback, playbackChanged := true }

def mergePassThroughActions (eligibility : V1MediaSessionEligibility)
    (actions : V1AvrcpActionSet) (decision : AvrcpPassThroughDecision) : V1AvrcpActionSet :=
  let has := hasAvrcpPassThroughAction decision
  let actions := { actions with eventObserved := actions.eventObserved || decision.eventObserved }
  let actions := if has .stepVolumeUp then actions.add .stepVolumeUp else actions
  let actions := if has .stepVolumeDown then actions.add .stepVolumeDown else actions
  let actions := if has .toggleMute then actions.add .toggleMute else actions
  let playRequested := has .play
  let pauseRequested := has .pause
  -- some headsets send PLAY for the play/pause gesture while playing
  let actions :=
    if eligibility.pauseEligible ∧ playRequested then actions.request .mediaPlayPause .paused
    else if eligibility.playEligible ∧ playRequested then actions.request .mediaPlay .playing
    else actions
  -- and PAUSE while paused
  let actions :=
    if eligibility.playEligible ∧ pauseRequested then actions.request .mediaPlayPause .playing
    else if eligibility.pauseEligible ∧ pauseRequested then actions.request .mediaPause .paused
    else actions
  let actions :=
    if eligibility.sessionPresent ∧ has .stop then actions.request .mediaStop .stopped else actions
  let actions :=
    if eligibility.nextEligible ∧ has .nextTrack then actions.add .mediaNextTrack else actions
  if eligibility.previousEligible ∧ has .previousTrack then actions.add .mediaPreviousTrack
  else actions

def updatePlaybackState (state : V1AvrcpControlMapperState) (actions : V1AvrcpActionSet) :
    V1AvrcpControlMapperState :=
  if actions.playbackChanged then
    let state := { state with playback := actions.playbackAfter }
    if v1AvrcpHasAction actions .notifyPlaybackStatus then
      { state with lastPlaybackStatus := actions.playbackAfter, playbackStatusValid := true }
    else state
  else if v1AvrcpHasAction actions .mediaPlay then { state with playback := .playing }
  else if v1AvrcpHasAction actions .mediaPause then { state with playback := .paused }
  else if v1AvrcpHasAction actions .mediaStop then { state with playback := .stopped }
  else state

def filterHeadsetPreferredPush (state : V1AvrcpControlMapperState)
    (actions : V1AvrcpActionSet) : V1AvrcpActionSet :=
  if ¬ state.headsetPreferred ∨ state.xm5VolumeSeen then actions
  else { actions with actions := actions.actions.erase .sendXm5Volume }

def mergeVolumeActions (actions : V1AvrcpActionSet)
    (decision : AvrcpAbsoluteVolumeGateDecision) : V1AvrcpActionSet :=
  let actions :=
    if hasAvrcpAbsoluteVolumeAction decision.volume .setWindowsEndpoint then
      { actions.add .setWindowsVolume with windowsVolume := decision.volume.windowsVolume }
    else actions
  if hasAvrcpAbsoluteVolumeAction decision.volume .sendXm5AbsoluteVolume then
    { actions.add .sendXm5Volume with xm5AbsoluteVolume := decision.volume.xm5AbsoluteVolume }
  else actions

/-! ## Operations -/

def clearGenerationState (state : V1AvrcpControlMapperState) : V1AvrcpControlMapperState :=
  { state with
    ownerLease := 0
    volumeSyncEnabled := false
    mediaRoutingEnabled := false
    mediaEligibility := {}
    xm5VolumeSeen := false
    playback := .stopped
    pcPlayback := .stopped
    pcPlaybackValid := false
    playbackStatusSyncRequired := false
    lastPlaybackStatus := .stopped
    playbackStatusValid := false }

def v1AvrcpBeginAclGeneration (state : V1AvrcpControlMapperState) (aclGeneration : UInt64) :
    V1AvrcpActionSet × V1AvrcpControlMapperState :=
  let state := { state with
    passThrough := (beginAvrcpPassThroughAclGeneration state.passThrough aclGeneration).2
    absoluteVolume :=
      (beginAvrcpAbsoluteVolumeAclGeneration state.absoluteVolume aclGeneration).2 }
  if state.passThrough.aclGeneration ≠ aclGeneration ∨ ¬ state.passThrough.aclGenerationCurrent ∨
      state.absoluteVolume.aclGeneration ≠ aclGeneration ∨
      ¬ state.absoluteVolume.aclGenerationCurrent then ({}, state)
  else
  let state := clearGenerationState
    { state with aclGeneration := aclGeneration, aclGenerationCurrent := true }
  (state.snapshot, state)

def v1AvrcpEndAclGeneration (state : V1AvrcpControlMapperState) (aclGeneration : UInt64) :
    V1AvrcpActionSet × V1AvrcpControlMapperState :=
  if ¬ state.isCurrentGeneration aclGeneration then ({}, state) else
  let state := clearGenerationState
    { state with
      passThrough := (endAvrcpPassThroughAclGeneration state.passThrough aclGeneration).2
      absoluteVolume := (endAvrcpAbsoluteVolumeAclGeneration state.absoluteVolume aclGeneration).2
      aclGenerationCurrent := false }
  (state.snapshot, state)

def v1AvrcpSetControlMode (state : V1AvrcpControlMapperState) (aclGeneration : UInt64)
    (volumeSync mediaRouting : Bool) : V1AvrcpActionSet × V1AvrcpControlMapperState :=
  if ¬ state.isCurrentGeneration aclGeneration then ({}, state) else
  let enablingMediaRouting := !state.mediaRoutingEnabled && mediaRouting
  let state := { state with
    passThrough := (setAvrcpPassThroughGateMode state.passThrough aclGeneration
      (if mediaRouting then .routeToCurrentMediaSession else .observeOnly)).2
    absoluteVolume := (setAvrcpAbsoluteVolumeGateMode state.absoluteVolume aclGeneration
      (if volumeSync then .synchronize else .observeOnly)).2
    volumeSyncEnabled := volumeSync
    mediaRoutingEnabled := mediaRouting
    playbackStatusSyncRequired := enablingMediaRouting || state.playbackStatusSyncRequired }
  (state.snapshot, state)

def v1AvrcpAcquireOwnerLease (state : V1AvrcpControlMapperState)
    (aclGeneration ownerLease : UInt64) : V1AvrcpActionSet × V1AvrcpControlMapperState :=
  if ¬ state.isCurrentGeneration aclGeneration ∨ ownerLease = 0 then ({}, state) else
  let state := { state with
    passThrough :=
      (acquireAvrcpPassThroughOwnerLease state.passThrough aclGeneration ownerLease).2
    absoluteVolume :=
      (acquireAvrcpAbsoluteVolumeOwnerLease state.absoluteVolume aclGeneration ownerLease).2 }
  if state.passThrough.ownerLease ≠ ownerLease ∨ state.absoluteVolume.ownerLease ≠ ownerLease then
    ({}, state)
  else
  let state := { state with ownerLease := ownerLease, playbackStatusSyncRequired := true }
  (state.snapshot, state)

def playbackOfSnapshot (snapshot : V1MediaSessionSnapshot) : V1AvrcpPlaybackState :=
  if snapshot.playback = .playing then .playing
  else if snapshot.playback = .paused then .paused
  else .stopped

def v1AvrcpSetMediaSessionSnapshot (state : V1AvrcpControlMapperState)
    (snapshot : V1MediaSessionSnapshot) : V1AvrcpActionSet × V1AvrcpControlMapperState :=
  if ¬ state.isCurrentGeneration snapshot.aclGeneration then ({}, state) else
  let nextPlayback := playbackOfSnapshot snapshot
  let pcPlaybackChanged := !state.pcPlaybackValid || state.pcPlayback != nextPlayback
  let state := { state with
    mediaEligibility := evaluateV1MediaSessionEligibility snapshot
    pcPlayback := nextPlayback
    pcPlaybackValid := true
    playback := nextPlayback }
  let actions := state.snapshot
  if state.mediaRoutingEnabled ∧ state.ownerLease ≠ 0 ∧
      (state.playbackStatusSyncRequired ∨ pcPlaybackChanged ∨ ¬ state.playbackStatusValid ∨
        state.lastPlaybackStatus ≠ nextPlayback) then
    (actions.request .notifyPlaybackStatus nextPlayback,
      { state with
        lastPlaybackStatus := nextPlayback
        playbackStatusValid := true
        playbackStatusSyncRequired := false })
  else (actions, state)

def v1AvrcpRevokeOwnerLease (state : V1AvrcpControlMapperState)
    (aclGeneration ownerLease : UInt64) : V1AvrcpActionSet × V1AvrcpControlMapperState :=
  if ¬ state.isCurrentGeneration aclGeneration ∨ ownerLease = 0 ∨ state.ownerLease ≠ ownerLease then
    ({}, state)
  else
  let state := { state with
    passThrough :=
      (revokeAvrcpPassThroughOwnerLease state.passThrough aclGeneration ownerLease).2
    absoluteVolume :=
      (revokeAvrcpAbsoluteVolumeOwnerLease state.absoluteVolume aclGeneration ownerLease).2
    ownerLease := 0 }
  (state.snapshot, state)

def v1AvrcpObserveVolumeCapability (state : V1AvrcpControlMapperState) (aclGeneration : UInt64)
    (supported : Bool) : V1AvrcpActionSet × V1AvrcpControlMapperState :=
  if ¬ state.isCurrentGeneration aclGeneration then ({}, state) else
  let r := observeAvrcpAbsoluteVolumeCapability state.absoluteVolume aclGeneration
    (if supported then .supported else .unsupported)
  let state := { state with absoluteVolume := r.2 }
  (filterHeadsetPreferredPush state (mergeVolumeActions state.snapshot r.1), state)

def v1AvrcpObserveWindowsVolume (state : V1AvrcpControlMapperState) (aclGeneration : UInt64)
    (observed : AvrcpWindowsVolume) : V1AvrcpActionSet × V1AvrcpControlMapperState :=
  if ¬ state.isCurrentGeneration aclGeneration then ({}, state) else
  let r := observeWindowsEndpointVolumeThroughGate state.absoluteVolume aclGeneration observed
  let state := { state with absoluteVolume := r.2 }
  (filterHeadsetPreferredPush state (mergeVolumeActions state.snapshot r.1), state)

/-- The first headset volume becomes the shared gain: it counts as sent, and is
    written to Windows unless Windows has it. -/
def adoptXm5Volume (state : V1AvrcpControlMapperState) (actions : V1AvrcpActionSet)
    (absoluteVolume : UInt8) : V1AvrcpActionSet × V1AvrcpControlMapperState :=
  let state := { state with xm5VolumeSeen := true }
  let actions := filterHeadsetPreferredPush state actions
  let state := { state with
    absoluteVolume := { state.absoluteVolume with
      reducer := { state.absoluteVolume.reducer with
        lastXm5VolumeSent := (absoluteVolume &&& 0x7F).toNat
        outboundEchoPending := false } } }
  if state.ownerLease ≠ 0 ∧ state.absoluteVolume.mode = .synchronize ∧
      ¬ v1AvrcpHasAction actions .setWindowsVolume then
    let percent := xm5AbsoluteVolumeToWindowsPercent absoluteVolume.toNat
    let muted : Bool := absoluteVolume = 0
    if state.absoluteVolume.windowsVolumeObserved ∧
        state.absoluteVolume.lastWindowsVolume.percent = percent ∧
        state.absoluteVolume.lastWindowsVolume.muted = muted then (actions, state)
    else ({ actions.add .setWindowsVolume with windowsVolume := ⟨percent, muted⟩ }, state)
  else (actions, state)

def v1AvrcpObserveXm5AbsoluteVolume (state : V1AvrcpControlMapperState) (aclGeneration : UInt64)
    (absoluteVolume : UInt8) (event : AvrcpXm5VolumeEvent) :
    V1AvrcpActionSet × V1AvrcpControlMapperState :=
  if ¬ state.isCurrentGeneration aclGeneration then ({}, state) else
  let r := observeXm5AbsoluteVolumeThroughGate state.absoluteVolume aclGeneration
    absoluteVolume.toNat event
  let state := { state with absoluteVolume := r.2 }
  let actions := mergeVolumeActions state.snapshot r.1
  if state.headsetPreferred ∧ ¬ state.xm5VolumeSeen then adoptXm5Volume state actions absoluteVolume
  else (actions, state)

def v1AvrcpObservePassThrough (state : V1AvrcpControlMapperState) (aclGeneration : UInt64)
    (operationId : UInt8) (released : Bool) : V1AvrcpActionSet × V1AvrcpControlMapperState :=
  if ¬ state.isCurrentGeneration aclGeneration then ({}, state) else
  let r := observeAvrcpPassThroughEvent state.passThrough aclGeneration
    (makeAvrcpPassThroughEvent operationId released)
  let state := { state with passThrough := r.2 }
  let actions := mergePassThroughActions state.mediaEligibility state.snapshot r.1
  (actions, updatePlaybackState state actions)

inductive V1AvrcpMapperOp where
  | beginAclGeneration (aclGeneration : UInt64)
  | endAclGeneration (aclGeneration : UInt64)
  | setControlMode (aclGeneration : UInt64) (volumeSync mediaRouting : Bool)
  | acquireOwnerLease (aclGeneration ownerLease : UInt64)
  | revokeOwnerLease (aclGeneration ownerLease : UInt64)
  | observeVolumeCapability (aclGeneration : UInt64) (supported : Bool)
  | observeWindowsVolume (aclGeneration : UInt64) (observed : AvrcpWindowsVolume)
  | observeXm5AbsoluteVolume (aclGeneration : UInt64) (absoluteVolume : UInt8)
      (event : AvrcpXm5VolumeEvent)
  | observePassThrough (aclGeneration : UInt64) (operationId : UInt8) (released : Bool)
  | setMediaSessionSnapshot (snapshot : V1MediaSessionSnapshot)
  deriving DecidableEq, Repr

def avrcpMapper : Reducer V1AvrcpControlMapperState V1AvrcpMapperOp V1AvrcpActionSet where
  step state
    | .beginAclGeneration g => v1AvrcpBeginAclGeneration state g
    | .endAclGeneration g => v1AvrcpEndAclGeneration state g
    | .setControlMode g volumeSync mediaRouting =>
      v1AvrcpSetControlMode state g volumeSync mediaRouting
    | .acquireOwnerLease g lease => v1AvrcpAcquireOwnerLease state g lease
    | .revokeOwnerLease g lease => v1AvrcpRevokeOwnerLease state g lease
    | .observeVolumeCapability g supported => v1AvrcpObserveVolumeCapability state g supported
    | .observeWindowsVolume g observed => v1AvrcpObserveWindowsVolume state g observed
    | .observeXm5AbsoluteVolume g volume event =>
      v1AvrcpObserveXm5AbsoluteVolume state g volume event
    | .observePassThrough g id released => v1AvrcpObservePassThrough state g id released
    | .setMediaSessionSnapshot snapshot => v1AvrcpSetMediaSessionSnapshot state snapshot

end NativeLdac.Agent
