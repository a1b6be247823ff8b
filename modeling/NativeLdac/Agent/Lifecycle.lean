/-
  The V1 lifecycle reducer (`agent/v1_lifecycle.cpp`): physical presence,
  render demand, engine lease, media session and the retry budget of one ACL
  generation, and the action word each event emits.
-/
import Mathlib.Tactic.Tauto
import NativeLdac.Lib.Reducer

namespace NativeLdac.Agent

inductive V1PhysicalPresence where
  | absent | present
  deriving DecidableEq, Repr

inductive V1RenderDemand where
  | idle | running
  deriving DecidableEq, Repr

inductive V1EngineLease where
  | absent | starting | ready
  deriving DecidableEq, Repr

inductive V1MediaSession where
  | stopped | opening | streaming | stopping | faulted
  deriving DecidableEq, Repr

inductive V1LifecycleEvent where
  | aclConnected | aclDisconnected | renderStarted | renderStopped
  | hfpSuspendLdac | hfpResumeLdac | engineReady | engineExited
  | transportOpenSuppressed | mediaStarted | mediaStopped
  | transportRetryableFailure | transportRetryDue | mediaFailed
  | watcherLeaseExpired
  deriving DecidableEq, Repr

/-! ## Action words -/

inductive V1LifecycleAction where
  | publishEndpointPresent | publishEndpointAbsent | startEngine | stopEngine
  | openTransport | gracefulStopTransport | cancelTransport | failMute
  | scheduleTransportRetry
  deriving DecidableEq, Repr

def V1LifecycleAction.bit : V1LifecycleAction → UInt32
  | publishEndpointPresent => (1 : UInt32) <<< 0
  | publishEndpointAbsent => (1 : UInt32) <<< 1
  | startEngine => (1 : UInt32) <<< 2
  | stopEngine => (1 : UInt32) <<< 3
  | openTransport => (1 : UInt32) <<< 4
  | gracefulStopTransport => (1 : UInt32) <<< 5
  | cancelTransport => (1 : UInt32) <<< 6
  | failMute => (1 : UInt32) <<< 7
  | scheduleTransportRetry => (1 : UInt32) <<< 8

def v1ActionNone : UInt32 := 0

def hasV1LifecycleAction (actions : UInt32) (action : V1LifecycleAction) : Bool :=
  actions &&& action.bit != 0

@[simp] theorem has_none (a : V1LifecycleAction) : hasV1LifecycleAction v1ActionNone a = false := by
  cases a <;> rfl

@[simp] theorem has_bit (a b : V1LifecycleAction) : hasV1LifecycleAction a.bit b = decide (a = b) := by
  cases a <;> cases b <;> rfl

@[simp] theorem has_or (x y : UInt32) (a : V1LifecycleAction) :
    hasV1LifecycleAction (x ||| y) a = (hasV1LifecycleAction x a || hasV1LifecycleAction y a) := by
  have h : (x ||| y) &&& a.bit = (x &&& a.bit) ||| (y &&& a.bit) := by
    simp [← UInt32.toBitVec_inj, BitVec.and_or_distrib_right]
  rw [hasV1LifecycleAction, h, Bool.eq_iff_iff]
  simp [hasV1LifecycleAction, UInt32.or_eq_zero_iff]
  tauto

theorem has_ite (p : Prop) [Decidable p] (x y : UInt32) (a : V1LifecycleAction) :
    hasV1LifecycleAction (if p then x else y) a =
      if p then hasV1LifecycleAction x a else hasV1LifecycleAction y a := by
  split <;> rfl

/-! ## The reducer -/

def kV1MaximumTransportOpenAttempts : UInt32 := 3
def kV1MaximumPcmTransportOpenAttempts : UInt32 := 4

structure V1LifecycleState where
  physicalPresence : V1PhysicalPresence := .absent
  renderDemand : V1RenderDemand := .idle
  engineLease : V1EngineLease := .absent
  mediaSession : V1MediaSession := .stopped
  aclGeneration : UInt64 := 0
  openAttemptsForGeneration : UInt32 := 0
  maximumOpenAttempts : UInt32 := kV1MaximumTransportOpenAttempts
  toleratePretransportRenderGaps : Bool := false
  allowMultipleMediaSessions : Bool := false
  hfpSuspended : Bool := false
  completedMediaSessionsForGeneration : UInt32 := 0
  deriving DecidableEq, Repr

open V1LifecycleAction

def V1MediaSession.live : V1MediaSession → Bool
  | opening | streaming | stopping => true
  | stopped | faulted => false

def disconnectActions (state : V1LifecycleState) : UInt32 :=
  failMute.bit ||| publishEndpointAbsent.bit
    ||| (if state.mediaSession.live then cancelTransport.bit else v1ActionNone)
    ||| (if state.engineLease ≠ .absent then stopEngine.bit else v1ActionNone)

def resetDisconnectedState (state : V1LifecycleState) : V1LifecycleState :=
  { state with
    physicalPresence := .absent, renderDemand := .idle, engineLease := .absent
    mediaSession := .stopped, openAttemptsForGeneration := 0
    completedMediaSessionsForGeneration := 0, hfpSuspended := false }

/-- The stop of a live transport: graceful while the headset is present. -/
def stopTransportAction (state : V1LifecycleState) : UInt32 :=
  if state.physicalPresence = .present then gracefulStopTransport.bit else cancelTransport.bit

def stopEngineAction (state : V1LifecycleState) : UInt32 :=
  if state.engineLease ≠ .absent then stopEngine.bit else v1ActionNone

/-- `ReduceV1Lifecycle`: the action word of an event and the new state. -/
def reduceV1Lifecycle (state : V1LifecycleState) : V1LifecycleEvent → UInt32 × V1LifecycleState
  | .aclConnected =>
    if state.physicalPresence = .present then (v1ActionNone, state) else
    (publishEndpointPresent.bit,
      { state with
        physicalPresence := .present, renderDemand := .idle, engineLease := .absent
        mediaSession := .stopped, openAttemptsForGeneration := 0
        completedMediaSessionsForGeneration := 0, hfpSuspended := false
        -- the generation counter skips zero when it wraps
        aclGeneration := if state.aclGeneration = 0xffffffffffffffff then 1
          else state.aclGeneration + 1 })
  | .aclDisconnected | .watcherLeaseExpired =>
    (disconnectActions state, resetDisconnectedState state)
  | .renderStarted =>
    let freshRenderEdge : Bool := state.renderDemand = .idle
    let state := { state with renderDemand := .running }
    if state.hfpSuspended then (v1ActionNone, state) else
    let state :=
      if freshRenderEdge ∧ state.allowMultipleMediaSessions ∧ state.physicalPresence = .present ∧
          state.engineLease = .absent ∧ state.mediaSession = .stopped ∧
          state.openAttemptsForGeneration ≠ 0 then
        { state with openAttemptsForGeneration := 0 }
      else state
    if state.physicalPresence = .present ∧ state.engineLease = .absent ∧
        state.openAttemptsForGeneration = 0 then
      (startEngine.bit, { state with engineLease := .starting })
    else (v1ActionNone, state)
  | .renderStopped =>
    let state := { state with renderDemand := .idle }
    if state.toleratePretransportRenderGaps ∧ state.mediaSession ≠ .streaming ∧
        state.mediaSession ≠ .stopping ∧ state.mediaSession ≠ .faulted ∧
        state.engineLease ≠ .absent then
      (v1ActionNone, state)
    else if state.mediaSession = .opening ∨ state.mediaSession = .streaming then
      (stopTransportAction state ||| stopEngineAction state,
        { state with mediaSession := .stopping })
    else if state.mediaSession = .faulted ∧ ¬ state.allowMultipleMediaSessions then
      (stopEngineAction state, { state with mediaSession := .stopped })
    else (stopEngineAction state, state)
  | .hfpSuspendLdac =>
    let state := { state with hfpSuspended := true }
    if state.mediaSession.live then
      (stopTransportAction state ||| stopEngineAction state,
        { state with mediaSession := .stopping })
    else (stopEngineAction state, state)
  | .hfpResumeLdac =>
    if ¬ state.hfpSuspended then (v1ActionNone, state) else
    let state := { state with hfpSuspended := false }
    if state.physicalPresence = .present ∧ state.renderDemand = .running ∧
        state.engineLease = .absent ∧ state.mediaSession = .stopped then
      (startEngine.bit,
        { state with openAttemptsForGeneration := 0, engineLease := .starting })
    else (v1ActionNone, state)
  | .engineReady =>
    if state.engineLease = .ready ∧ state.openAttemptsForGeneration ≠ 0 then
      (v1ActionNone, state)
    else if state.physicalPresence ≠ .present ∨ state.hfpSuspended ∨
        (state.renderDemand ≠ .running ∧ ¬ state.toleratePretransportRenderGaps) ∨
        state.engineLease ≠ .starting ∨
        state.openAttemptsForGeneration ≥ state.maximumOpenAttempts then
      (stopEngine.bit, { state with engineLease := .absent })
    else
      (openTransport.bit,
        { state with
          engineLease := .ready, mediaSession := .opening
          openAttemptsForGeneration := state.openAttemptsForGeneration + 1 })
  | .engineExited =>
    if state.mediaSession.live then
      (failMute.bit ||| cancelTransport.bit,
        { state with mediaSession := .faulted, engineLease := .absent })
    else (v1ActionNone, { state with engineLease := .absent })
  | .transportOpenSuppressed =>
    if state.mediaSession = .opening then (v1ActionNone, { state with mediaSession := .stopped })
    else (v1ActionNone, state)
  | .mediaStarted =>
    if state.physicalPresence = .present ∧ ¬ state.hfpSuspended ∧
        state.renderDemand = .running ∧ state.engineLease = .ready ∧
        state.mediaSession = .opening then
      (v1ActionNone, { state with mediaSession := .streaming })
    else (v1ActionNone, state)
  | .mediaStopped =>
    let state :=
      if state.allowMultipleMediaSessions ∧
          (state.mediaSession = .streaming ∨ state.mediaSession = .stopping) ∧
          state.completedMediaSessionsForGeneration ≠ 0xffffffff then
        { state with
          completedMediaSessionsForGeneration := state.completedMediaSessionsForGeneration + 1 }
      else state
    (v1ActionNone, { state with mediaSession := .stopped, engineLease := .absent })
  | .transportRetryableFailure =>
    let actions := failMute.bit ||| cancelTransport.bit ||| stopEngine.bit
    let state := { state with engineLease := .absent }
    if state.physicalPresence = .present ∧ state.renderDemand = .running ∧
        state.mediaSession = .opening ∧
        state.openAttemptsForGeneration < state.maximumOpenAttempts then
      (actions ||| scheduleTransportRetry.bit, { state with mediaSession := .stopped })
    else (actions, { state with mediaSession := .faulted })
  | .transportRetryDue =>
    if state.physicalPresence = .present ∧ state.renderDemand = .running ∧
        state.engineLease = .absent ∧ state.mediaSession = .stopped ∧
        state.openAttemptsForGeneration ≠ 0 ∧
        state.openAttemptsForGeneration < state.maximumOpenAttempts then
      (startEngine.bit, { state with engineLease := .starting })
    else (v1ActionNone, state)
  | .mediaFailed =>
    (failMute.bit
        ||| (if state.mediaSession ≠ .stopped then cancelTransport.bit else v1ActionNone)
        ||| stopEngineAction state,
      { state with engineLease := .absent, mediaSession := .faulted })

/-- The lifecycle as a machine: events in, action words out. -/
def v1Lifecycle : Reducer V1LifecycleState V1LifecycleEvent UInt32 where
  step := reduceV1Lifecycle

/-- The configuration flags of a lifecycle, fixed before its first event. -/
structure V1LifecycleConfig where
  maximumOpenAttempts : UInt32
  toleratePretransportRenderGaps : Bool
  allowMultipleMediaSessions : Bool

def V1LifecycleConfig.initial (c : V1LifecycleConfig) : V1LifecycleState :=
  { maximumOpenAttempts := c.maximumOpenAttempts
    toleratePretransportRenderGaps := c.toleratePretransportRenderGaps
    allowMultipleMediaSessions := c.allowMultipleMediaSessions }

end NativeLdac.Agent
