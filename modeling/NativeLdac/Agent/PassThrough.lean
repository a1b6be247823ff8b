/-
  The pass-through gate (`agent/avrcp_passthrough_state.cpp`): it pairs the
  presses and releases of the headset's keys and lets a press act only for the
  owner of the current ACL generation, in the routing mode.

  The actions of a decision are a list of the flags set.
-/
import NativeLdac.Agent.Volume
import Mathlib.Tactic.SplitIfs

namespace NativeLdac.Agent

inductive AvrcpPassThroughOperation where
  | unknown | volumeUp | volumeDown | mute | play | stop | pause | forward | backward
  deriving DecidableEq, Repr

inductive AvrcpPassThroughKeyState where
  | pressed | released
  deriving DecidableEq, Repr

structure AvrcpPassThroughEvent where
  operation : AvrcpPassThroughOperation := .unknown
  keyState : AvrcpPassThroughKeyState := .released
  operationId : UInt8 := 0
  operationDataLength : UInt8 := 0
  deriving DecidableEq, Repr

inductive AvrcpPassThroughAction where
  | stepVolumeUp | stepVolumeDown | toggleMute | play | stop | pause | nextTrack | previousTrack
  deriving DecidableEq, Repr

inductive AvrcpPassThroughGateMode where
  | observeOnly | routeToCurrentMediaSession
  deriving DecidableEq, Repr

structure AvrcpPassThroughDecision where
  actions : List AvrcpPassThroughAction := []
  aclGeneration : UInt64 := 0
  ownerLease : UInt64 := 0
  authorizationEpoch : UInt64 := 0
  acceptedEventSequence : UInt64 := 0
  eventObserved : Bool := false
  duplicatePress : Bool := false
  matchingRelease : Bool := false
  deriving DecidableEq, Repr

structure AvrcpPassThroughGateState where
  aclGeneration : UInt64 := 0
  aclGenerationCurrent : Bool := false
  ownerLease : UInt64 := 0
  authorizationEpoch : UInt64 := 0
  observedEventCount : UInt64 := 0
  acceptedEventSequence : UInt64 := 0
  mode : AvrcpPassThroughGateMode := .observeOnly
  heldOperationValid : Bool := false
  heldOperation : AvrcpPassThroughOperation := .unknown
  deriving DecidableEq, Repr

/-- The value after `value`: it skips zero when it wraps. -/
def nextNonzero (value : UInt64) : UInt64 :=
  if value = 0xffffffffffffffff then 1 else value + 1

def decodeOperation (operationId : UInt8) : AvrcpPassThroughOperation :=
  if operationId = 0x41 then .volumeUp
  else if operationId = 0x42 then .volumeDown
  else if operationId = 0x43 then .mute
  else if operationId = 0x44 then .play
  else if operationId = 0x45 then .stop
  else if operationId = 0x46 then .pause
  else if operationId = 0x4B then .forward
  else if operationId = 0x4C then .backward
  else .unknown

def actionForOperation : AvrcpPassThroughOperation → List AvrcpPassThroughAction
  | .volumeUp => [.stepVolumeUp]
  | .volumeDown => [.stepVolumeDown]
  | .mute => [.toggleMute]
  | .play => [.play]
  | .stop => [.stop]
  | .pause => [.pause]
  | .forward => [.nextTrack]
  | .backward => [.previousTrack]
  | .unknown => []

def makeAvrcpPassThroughEvent (operationId : UInt8) (released : Bool) : AvrcpPassThroughEvent :=
  { operationId := operationId
    operation := decodeOperation operationId
    keyState := if released then .released else .pressed
    operationDataLength := 0 }

namespace AvrcpPassThroughGateState

variable (state : AvrcpPassThroughGateState)

def isCurrent (aclGeneration : UInt64) : Bool :=
  aclGeneration ≠ 0 ∧ state.aclGenerationCurrent ∧ state.aclGeneration = aclGeneration

def resetHeldOperation : AvrcpPassThroughGateState :=
  { state with heldOperationValid := false, heldOperation := .unknown }

def snapshot : AvrcpPassThroughDecision :=
  { aclGeneration := state.aclGeneration
    ownerLease := state.ownerLease
    authorizationEpoch := state.authorizationEpoch
    acceptedEventSequence := state.acceptedEventSequence }

end AvrcpPassThroughGateState

def beginAvrcpPassThroughAclGeneration (state : AvrcpPassThroughGateState)
    (aclGeneration : UInt64) : AvrcpPassThroughDecision × AvrcpPassThroughGateState :=
  if ¬ isNewerGeneration aclGeneration state.aclGeneration then ({}, state) else
  let state := AvrcpPassThroughGateState.resetHeldOperation
    { state with
      aclGeneration := aclGeneration
      aclGenerationCurrent := true
      ownerLease := 0
      authorizationEpoch := nextNonzero state.authorizationEpoch
      observedEventCount := 0
      acceptedEventSequence := 0
      mode := .observeOnly }
  (state.snapshot, state)

def endAvrcpPassThroughAclGeneration (state : AvrcpPassThroughGateState)
    (aclGeneration : UInt64) : AvrcpPassThroughDecision × AvrcpPassThroughGateState :=
  if ¬ state.isCurrent aclGeneration then ({}, state) else
  let state := AvrcpPassThroughGateState.resetHeldOperation
    { state with
      aclGenerationCurrent := false
      ownerLease := 0
      authorizationEpoch := nextNonzero state.authorizationEpoch
      mode := .observeOnly }
  (state.snapshot, state)

def setAvrcpPassThroughGateMode (state : AvrcpPassThroughGateState) (aclGeneration : UInt64)
    (mode : AvrcpPassThroughGateMode) : AvrcpPassThroughDecision × AvrcpPassThroughGateState :=
  if ¬ state.isCurrent aclGeneration then ({}, state) else
  let state :=
    if state.mode ≠ mode then
      AvrcpPassThroughGateState.resetHeldOperation
        { state with mode := mode, authorizationEpoch := nextNonzero state.authorizationEpoch }
    else state
  (state.snapshot, state)

def acquireAvrcpPassThroughOwnerLease (state : AvrcpPassThroughGateState)
    (aclGeneration ownerLease : UInt64) : AvrcpPassThroughDecision × AvrcpPassThroughGateState :=
  if ¬ state.isCurrent aclGeneration ∨ ownerLease = 0 ∨
      (state.ownerLease ≠ 0 ∧ state.ownerLease ≠ ownerLease) then ({}, state) else
  let state :=
    if state.ownerLease = 0 then
      AvrcpPassThroughGateState.resetHeldOperation
        { state with
          ownerLease := ownerLease
          authorizationEpoch := nextNonzero state.authorizationEpoch }
    else state
  (state.snapshot, state)

def revokeAvrcpPassThroughOwnerLease (state : AvrcpPassThroughGateState)
    (aclGeneration ownerLease : UInt64) : AvrcpPassThroughDecision × AvrcpPassThroughGateState :=
  if ¬ state.isCurrent aclGeneration ∨ ownerLease = 0 ∨ state.ownerLease ≠ ownerLease then
    ({}, state)
  else
  let state := AvrcpPassThroughGateState.resetHeldOperation
    { state with ownerLease := 0, authorizationEpoch := nextNonzero state.authorizationEpoch }
  (state.snapshot, state)

def observeAvrcpPassThroughEvent (state : AvrcpPassThroughGateState) (aclGeneration : UInt64)
    (event : AvrcpPassThroughEvent) : AvrcpPassThroughDecision × AvrcpPassThroughGateState :=
  if ¬ state.isCurrent aclGeneration then ({}, state) else
  let state := { state with observedEventCount := state.observedEventCount + 1 }
  let decision := { state.snapshot with eventObserved := true }
  if event.operation = .unknown then (decision, state)
  else if event.keyState = .released then
    if state.heldOperationValid ∧ state.heldOperation = event.operation then
      ({ decision with matchingRelease := true }, state.resetHeldOperation)
    else (decision, state)
  else if state.heldOperationValid ∧ state.heldOperation = event.operation then
    ({ decision with duplicatePress := true }, state)
  else
  let state := { state with heldOperationValid := true, heldOperation := event.operation }
  if state.mode ≠ .routeToCurrentMediaSession ∨ state.ownerLease = 0 then (decision, state)
  else if actionForOperation event.operation = [] then (decision, state)
  else
  let state := { state with acceptedEventSequence := nextNonzero state.acceptedEventSequence }
  ({ state.snapshot with
      eventObserved := true, actions := actionForOperation event.operation }, state)

def hasAvrcpPassThroughAction (decision : AvrcpPassThroughDecision)
    (action : AvrcpPassThroughAction) : Bool :=
  action ∈ decision.actions

/-! ## What the operations leave alone -/

structure AvrcpPassThroughGateState.SameAuthorization (s s' : AvrcpPassThroughGateState) :
    Prop where
  aclGeneration : s'.aclGeneration = s.aclGeneration
  aclGenerationCurrent : s'.aclGenerationCurrent = s.aclGenerationCurrent
  ownerLease : s'.ownerLease = s.ownerLease
  mode : s'.mode = s.mode

theorem observeAvrcpPassThroughEvent_authorization (state : AvrcpPassThroughGateState)
    (aclGeneration : UInt64) (event : AvrcpPassThroughEvent) :
    state.SameAuthorization (observeAvrcpPassThroughEvent state aclGeneration event).2 := by
  unfold observeAvrcpPassThroughEvent
  dsimp only
  split_ifs <;> exact ⟨rfl, rfl, rfl, rfl⟩

end NativeLdac.Agent
