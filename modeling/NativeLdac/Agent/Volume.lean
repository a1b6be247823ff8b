/-
  The absolute-volume reducer and its gate
  (`agent/avrcp_absolute_volume_state.cpp`).

  The reducer keeps the Windows endpoint authoritative over the shared volume
  of one session; the gate releases its decisions only to the owner of the
  current ACL generation. Percents (0..100 once clamped) and 7-bit volumes are
  `Nat`: no expression of the source leaves its type on them.
-/
import NativeLdac.Lib.Reducer

namespace NativeLdac.Agent

inductive AvrcpAbsoluteVolumeSupport where
  | unknown | unsupported | supported
  deriving DecidableEq, Repr

inductive AvrcpXm5VolumeEvent where
  | commandResponse | remoteNotification
  deriving DecidableEq, Repr

structure AvrcpWindowsVolume where
  percent : Nat := 0
  muted : Bool := true
  deriving DecidableEq, Repr

inductive AvrcpAbsoluteVolumeAction where
  | setWindowsEndpoint | sendXm5AbsoluteVolume
  deriving DecidableEq, Repr

def AvrcpAbsoluteVolumeAction.bit : AvrcpAbsoluteVolumeAction → UInt32
  | setWindowsEndpoint => (1 : UInt32) <<< 0
  | sendXm5AbsoluteVolume => (1 : UInt32) <<< 1

structure AvrcpAbsoluteVolumeDecision where
  actions : UInt32 := 0
  windowsVolume : AvrcpWindowsVolume := {}
  xm5AbsoluteVolume : Nat := 0
  deriving DecidableEq, Repr

structure AvrcpAbsoluteVolumeState where
  generation : UInt64 := 0
  sessionActive : Bool := false
  support : AvrcpAbsoluteVolumeSupport := .unknown
  windowsVolumeKnown : Bool := false
  windowsVolume : AvrcpWindowsVolume := {}
  firstSessionSyncComplete : Bool := false
  outboundEchoPending : Bool := false
  lastXm5VolumeSent : Nat := 0
  inboundVolumeSeen : Bool := false
  lastXm5VolumeReceived : Nat := 0
  windowsUpdatePending : Bool := false
  pendingXm5Volume : Nat := 0
  deriving DecidableEq, Repr

/-! ## The reducer -/

def clampWindowsVolume (volume : AvrcpWindowsVolume) : AvrcpWindowsVolume :=
  { volume with percent := min volume.percent 100 }

def isCurrentSession (state : AvrcpAbsoluteVolumeState) (generation : UInt64) : Bool :=
  generation ≠ 0 ∧ state.sessionActive ∧ generation = state.generation

/-- Newer in the half range ahead of the current generation, wrapping. -/
def isNewerGeneration (candidate current : UInt64) : Bool :=
  if candidate = 0 then false
  else if current = 0 then true
  else
    let distance := candidate - current
    distance ≠ 0 ∧ distance < (1 : UInt64) <<< 63

def windowsPercentToXm5AbsoluteVolume (windowsPercent : Nat) : Nat :=
  (min windowsPercent 100 * 127 + 50) / 100

def xm5AbsoluteVolumeToWindowsPercent (xm5AbsoluteVolume : Nat) : Nat :=
  (min xm5AbsoluteVolume 127 * 100 + 63) / 127

def projectWindowsVolumeToXm5 (volume : AvrcpWindowsVolume) : Nat :=
  if volume.muted ∨ volume.percent = 0 then 0
  else windowsPercentToXm5AbsoluteVolume volume.percent

def hasAvrcpAbsoluteVolumeAction (decision : AvrcpAbsoluteVolumeDecision)
    (action : AvrcpAbsoluteVolumeAction) : Bool :=
  decision.actions &&& action.bit != 0

def sendAuthoritativeWindowsVolume (state : AvrcpAbsoluteVolumeState) :
    AvrcpAbsoluteVolumeDecision × AvrcpAbsoluteVolumeState :=
  if ¬ state.windowsVolumeKnown ∨ state.support ≠ .supported then ({}, state) else
  let projected := projectWindowsVolumeToXm5 state.windowsVolume
  ({ actions := AvrcpAbsoluteVolumeAction.sendXm5AbsoluteVolume.bit
     xm5AbsoluteVolume := projected },
    { state with
      firstSessionSyncComplete := true, outboundEchoPending := true
      lastXm5VolumeSent := projected })

def beginAvrcpAbsoluteVolumeSession (state : AvrcpAbsoluteVolumeState) (generation : UInt64)
    (support : AvrcpAbsoluteVolumeSupport) (observedWindowsVolume : AvrcpWindowsVolume) :
    AvrcpAbsoluteVolumeDecision × AvrcpAbsoluteVolumeState :=
  if ¬ isNewerGeneration generation state.generation then ({}, state) else
  sendAuthoritativeWindowsVolume
    { generation := generation, sessionActive := true, support := support
      windowsVolumeKnown := true, windowsVolume := clampWindowsVolume observedWindowsVolume }

def setAvrcpAbsoluteVolumeSupport (state : AvrcpAbsoluteVolumeState) (generation : UInt64)
    (support : AvrcpAbsoluteVolumeSupport) :
    AvrcpAbsoluteVolumeDecision × AvrcpAbsoluteVolumeState :=
  if ¬ isCurrentSession state generation then ({}, state) else
  let state := { state with support := support }
  if support ≠ .supported then
    ({}, { state with
      firstSessionSyncComplete := false, outboundEchoPending := false
      windowsUpdatePending := false })
  else if ¬ state.firstSessionSyncComplete then sendAuthoritativeWindowsVolume state
  else ({}, state)

def observeWindowsEndpointVolume (state : AvrcpAbsoluteVolumeState) (generation : UInt64)
    (observedWindowsVolume : AvrcpWindowsVolume) :
    AvrcpAbsoluteVolumeDecision × AvrcpAbsoluteVolumeState :=
  if ¬ isCurrentSession state generation then ({}, state) else
  let state := { state with
    windowsVolumeKnown := true, windowsVolume := clampWindowsVolume observedWindowsVolume }
  let projected := projectWindowsVolumeToXm5 state.windowsVolume
  if state.windowsUpdatePending then
    let isExpectedCallback : Bool := projected = state.pendingXm5Volume
    let state := { state with windowsUpdatePending := false }
    if isExpectedCallback then
      ({}, { state with lastXm5VolumeSent := projected, outboundEchoPending := false })
    -- the endpoint refused the remote value: Windows is reasserted
    else sendAuthoritativeWindowsVolume state
  else if state.support ≠ .supported then ({}, state)
  else if state.firstSessionSyncComplete ∧ state.lastXm5VolumeSent = projected then ({}, state)
  else sendAuthoritativeWindowsVolume state

def observeXm5AbsoluteVolume (state : AvrcpAbsoluteVolumeState) (generation : UInt64)
    (xm5AbsoluteVolume : Nat) (event : AvrcpXm5VolumeEvent) :
    AvrcpAbsoluteVolumeDecision × AvrcpAbsoluteVolumeState :=
  if ¬ isCurrentSession state generation ∨ state.support ≠ .supported ∨
      xm5AbsoluteVolume > 127 then ({}, state)
  else
  let value := xm5AbsoluteVolume
  if event = .commandResponse then
    if state.outboundEchoPending ∧ value = state.lastXm5VolumeSent then
      ({}, { state with outboundEchoPending := false })
    else ({}, state)
  else if state.inboundVolumeSeen ∧ value = state.lastXm5VolumeReceived then ({}, state)
  else
  let state := { state with
    inboundVolumeSeen := true, lastXm5VolumeReceived := value, outboundEchoPending := false }
  if state.windowsVolumeKnown ∧ projectWindowsVolumeToXm5 state.windowsVolume = value then
    ({}, state)
  else
    ({ actions := AvrcpAbsoluteVolumeAction.setWindowsEndpoint.bit
       windowsVolume := ⟨xm5AbsoluteVolumeToWindowsPercent value, value = 0⟩ },
      { state with windowsUpdatePending := true, pendingXm5Volume := value })

def endAvrcpAbsoluteVolumeSession (state : AvrcpAbsoluteVolumeState) (generation : UInt64) :
    AvrcpAbsoluteVolumeState :=
  if ¬ isCurrentSession state generation then state else
  { state with
    sessionActive := false, support := .unknown, outboundEchoPending := false
    windowsUpdatePending := false, inboundVolumeSeen := false }

/-- The operations of the reducer. -/
inductive AvrcpAbsoluteVolumeOp where
  | beginSession (generation : UInt64) (support : AvrcpAbsoluteVolumeSupport)
      (observedWindowsVolume : AvrcpWindowsVolume)
  | setSupport (generation : UInt64) (support : AvrcpAbsoluteVolumeSupport)
  | observeWindows (generation : UInt64) (observedWindowsVolume : AvrcpWindowsVolume)
  | observeXm5 (generation : UInt64) (xm5AbsoluteVolume : Nat) (event : AvrcpXm5VolumeEvent)
  | endSession (generation : UInt64)
  deriving DecidableEq, Repr

/-- The reducer as a machine. -/
def absoluteVolume :
    Reducer AvrcpAbsoluteVolumeState AvrcpAbsoluteVolumeOp AvrcpAbsoluteVolumeDecision where
  step state
    | .beginSession g support volume => beginAvrcpAbsoluteVolumeSession state g support volume
    | .setSupport g support => setAvrcpAbsoluteVolumeSupport state g support
    | .observeWindows g volume => observeWindowsEndpointVolume state g volume
    | .observeXm5 g value event => observeXm5AbsoluteVolume state g value event
    | .endSession g => ({}, endAvrcpAbsoluteVolumeSession state g)

/-! ## The gate -/

inductive AvrcpAbsoluteVolumeGateMode where
  | observeOnly | synchronize
  deriving DecidableEq, Repr

structure AvrcpAbsoluteVolumeGateDecision where
  volume : AvrcpAbsoluteVolumeDecision := {}
  aclGeneration : UInt64 := 0
  ownerLease : UInt64 := 0
  authorizationEpoch : UInt64 := 0
  deriving DecidableEq, Repr

structure AvrcpAbsoluteVolumeGateState where
  aclGeneration : UInt64 := 0
  aclGenerationCurrent : Bool := false
  ownerLease : UInt64 := 0
  authorizationEpoch : UInt64 := 0
  mode : AvrcpAbsoluteVolumeGateMode := .observeOnly
  observedSupport : AvrcpAbsoluteVolumeSupport := .unknown
  windowsVolumeObserved : Bool := false
  lastWindowsVolume : AvrcpWindowsVolume := {}
  xm5VolumeObserved : Bool := false
  lastXm5Volume : Nat := 0
  lastXm5Event : AvrcpXm5VolumeEvent := .remoteNotification
  reducer : AvrcpAbsoluteVolumeState := {}
  deriving DecidableEq, Repr

def isCurrentAclGeneration (state : AvrcpAbsoluteVolumeGateState) (aclGeneration : UInt64) :
    Bool :=
  aclGeneration ≠ 0 ∧ state.aclGenerationCurrent ∧ state.aclGeneration = aclGeneration

def gateCanSynchronize (state : AvrcpAbsoluteVolumeGateState) : Bool :=
  state.aclGenerationCurrent ∧ state.aclGeneration ≠ 0 ∧ state.ownerLease ≠ 0 ∧
    state.mode = .synchronize ∧ state.observedSupport = .supported ∧ state.windowsVolumeObserved

def resetGateReducer (state : AvrcpAbsoluteVolumeGateState) : AvrcpAbsoluteVolumeGateState :=
  { state with reducer := {} }

/-- The epoch after `epoch`: it skips zero when it wraps. -/
def nextAuthorizationEpoch (epoch : UInt64) : UInt64 :=
  if epoch = 0xffffffffffffffff then 1 else epoch + 1

def invalidateGateAuthorization (state : AvrcpAbsoluteVolumeGateState) :
    AvrcpAbsoluteVolumeGateState :=
  resetGateReducer
    { state with authorizationEpoch := nextAuthorizationEpoch state.authorizationEpoch }

def authorizeGateDecision (state : AvrcpAbsoluteVolumeGateState)
    (volume : AvrcpAbsoluteVolumeDecision) : AvrcpAbsoluteVolumeGateDecision :=
  if ¬ gateCanSynchronize state ∨ volume.actions = 0 then {} else
  { volume := volume, aclGeneration := state.aclGeneration, ownerLease := state.ownerLease
    authorizationEpoch := state.authorizationEpoch }

def activateGateIfAuthorized (state : AvrcpAbsoluteVolumeGateState) :
    AvrcpAbsoluteVolumeGateDecision × AvrcpAbsoluteVolumeGateState :=
  if ¬ gateCanSynchronize state ∨ state.reducer.sessionActive then ({}, state) else
  let state := resetGateReducer state
  let r := beginAvrcpAbsoluteVolumeSession state.reducer state.aclGeneration .supported
    state.lastWindowsVolume
  let state := { state with reducer := r.2 }
  (authorizeGateDecision state r.1, state)

def beginAvrcpAbsoluteVolumeAclGeneration (state : AvrcpAbsoluteVolumeGateState)
    (aclGeneration : UInt64) : AvrcpAbsoluteVolumeGateDecision × AvrcpAbsoluteVolumeGateState :=
  if ¬ isNewerGeneration aclGeneration state.aclGeneration then ({}, state) else
  let fresh := invalidateGateAuthorization { authorizationEpoch := state.authorizationEpoch }
  ({}, { fresh with aclGeneration := aclGeneration, aclGenerationCurrent := true })

def setAvrcpAbsoluteVolumeGateMode (state : AvrcpAbsoluteVolumeGateState)
    (aclGeneration : UInt64) (mode : AvrcpAbsoluteVolumeGateMode) :
    AvrcpAbsoluteVolumeGateDecision × AvrcpAbsoluteVolumeGateState :=
  if ¬ isCurrentAclGeneration state aclGeneration then ({}, state) else
  let state := { state with mode := mode }
  if mode ≠ .synchronize then ({}, invalidateGateAuthorization state)
  else activateGateIfAuthorized state

def acquireAvrcpAbsoluteVolumeOwnerLease (state : AvrcpAbsoluteVolumeGateState)
    (aclGeneration ownerLease : UInt64) :
    AvrcpAbsoluteVolumeGateDecision × AvrcpAbsoluteVolumeGateState :=
  if ownerLease = 0 ∨ ¬ isCurrentAclGeneration state aclGeneration ∨
      (state.ownerLease ≠ 0 ∧ state.ownerLease ≠ ownerLease) then ({}, state)
  else activateGateIfAuthorized { state with ownerLease := ownerLease }

def revokeAvrcpAbsoluteVolumeOwnerLease (state : AvrcpAbsoluteVolumeGateState)
    (aclGeneration ownerLease : UInt64) :
    AvrcpAbsoluteVolumeGateDecision × AvrcpAbsoluteVolumeGateState :=
  if ownerLease = 0 ∨ ¬ isCurrentAclGeneration state aclGeneration ∨
      state.ownerLease ≠ ownerLease then ({}, state)
  else ({}, invalidateGateAuthorization { state with ownerLease := 0 })

def observeAvrcpAbsoluteVolumeCapability (state : AvrcpAbsoluteVolumeGateState)
    (aclGeneration : UInt64) (support : AvrcpAbsoluteVolumeSupport) :
    AvrcpAbsoluteVolumeGateDecision × AvrcpAbsoluteVolumeGateState :=
  if ¬ isCurrentAclGeneration state aclGeneration then ({}, state) else
  let state := { state with observedSupport := support }
  if support ≠ .supported then ({}, invalidateGateAuthorization state)
  else activateGateIfAuthorized state

def observeWindowsEndpointVolumeThroughGate (state : AvrcpAbsoluteVolumeGateState)
    (aclGeneration : UInt64) (observedWindowsVolume : AvrcpWindowsVolume) :
    AvrcpAbsoluteVolumeGateDecision × AvrcpAbsoluteVolumeGateState :=
  if ¬ isCurrentAclGeneration state aclGeneration then ({}, state) else
  let state := { state with
    windowsVolumeObserved := true
    lastWindowsVolume := clampWindowsVolume observedWindowsVolume }
  if ¬ gateCanSynchronize state then ({}, state)
  else if ¬ state.reducer.sessionActive then activateGateIfAuthorized state
  else
    let r := observeWindowsEndpointVolume state.reducer aclGeneration state.lastWindowsVolume
    let state := { state with reducer := r.2 }
    (authorizeGateDecision state r.1, state)

def observeXm5AbsoluteVolumeThroughGate (state : AvrcpAbsoluteVolumeGateState)
    (aclGeneration : UInt64) (xm5AbsoluteVolume : Nat) (event : AvrcpXm5VolumeEvent) :
    AvrcpAbsoluteVolumeGateDecision × AvrcpAbsoluteVolumeGateState :=
  if xm5AbsoluteVolume > 127 ∨ ¬ isCurrentAclGeneration state aclGeneration then ({}, state) else
  let state := { state with
    xm5VolumeObserved := true, lastXm5Volume := xm5AbsoluteVolume, lastXm5Event := event }
  if ¬ gateCanSynchronize state ∨ ¬ state.reducer.sessionActive then ({}, state)
  else
    let r := observeXm5AbsoluteVolume state.reducer aclGeneration xm5AbsoluteVolume event
    let state := { state with reducer := r.2 }
    (authorizeGateDecision state r.1, state)

def endAvrcpAbsoluteVolumeAclGeneration (state : AvrcpAbsoluteVolumeGateState)
    (aclGeneration : UInt64) : AvrcpAbsoluteVolumeGateDecision × AvrcpAbsoluteVolumeGateState :=
  if ¬ isCurrentAclGeneration state aclGeneration then ({}, state) else
  ({}, invalidateGateAuthorization
    { state with
      aclGenerationCurrent := false, ownerLease := 0, mode := .observeOnly
      observedSupport := .unknown })

def isAvrcpAbsoluteVolumeGateDecisionCurrent (state : AvrcpAbsoluteVolumeGateState)
    (decision : AvrcpAbsoluteVolumeGateDecision) : Bool :=
  decision.volume.actions ≠ 0 ∧ gateCanSynchronize state ∧ state.reducer.sessionActive ∧
    decision.aclGeneration = state.aclGeneration ∧ decision.ownerLease = state.ownerLease ∧
    decision.authorizationEpoch = state.authorizationEpoch

inductive AvrcpAbsoluteVolumeGateOp where
  | beginAcl (aclGeneration : UInt64)
  | setMode (aclGeneration : UInt64) (mode : AvrcpAbsoluteVolumeGateMode)
  | acquireLease (aclGeneration ownerLease : UInt64)
  | revokeLease (aclGeneration ownerLease : UInt64)
  | observeCapability (aclGeneration : UInt64) (support : AvrcpAbsoluteVolumeSupport)
  | observeWindows (aclGeneration : UInt64) (observedWindowsVolume : AvrcpWindowsVolume)
  | observeXm5 (aclGeneration : UInt64) (xm5AbsoluteVolume : Nat) (event : AvrcpXm5VolumeEvent)
  | endAcl (aclGeneration : UInt64)
  deriving DecidableEq, Repr

def absoluteVolumeGate : Reducer AvrcpAbsoluteVolumeGateState AvrcpAbsoluteVolumeGateOp
    AvrcpAbsoluteVolumeGateDecision where
  step state
    | .beginAcl g => beginAvrcpAbsoluteVolumeAclGeneration state g
    | .setMode g mode => setAvrcpAbsoluteVolumeGateMode state g mode
    | .acquireLease g lease => acquireAvrcpAbsoluteVolumeOwnerLease state g lease
    | .revokeLease g lease => revokeAvrcpAbsoluteVolumeOwnerLease state g lease
    | .observeCapability g support => observeAvrcpAbsoluteVolumeCapability state g support
    | .observeWindows g volume => observeWindowsEndpointVolumeThroughGate state g volume
    | .observeXm5 g value event => observeXm5AbsoluteVolumeThroughGate state g value event
    | .endAcl g => endAvrcpAbsoluteVolumeAclGeneration state g

end NativeLdac.Agent
