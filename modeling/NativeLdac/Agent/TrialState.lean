/-
  The state of the presence agent (`TrialState` of `agent/v1_presence_agent.cpp`),
  with the render demand tracker (`agent/v1_render_demand_tracker.cpp`) and the
  gate of the transport's OPEN (`agent/v1_transport_open_stability.cpp`).
-/
import Mathlib.Tactic.SplitIfs
import NativeLdac.Agent.Lifecycle

namespace NativeLdac.Agent

/-! ## The render demand tracker -/

inductive V1RenderDemandTransition where
  | none | started | stopped
  deriving DecidableEq, Repr

structure V1RenderDemandTracker where
  stableRunning : Bool := false
  candidateRunning : Bool := false
  candidateSamples : UInt32 := 0
  deriving DecidableEq, Repr

def kConfirmationSamples : UInt32 := 2

def observeV1RenderDemand (tracker : V1RenderDemandTracker) (streamActive : Bool) :
    V1RenderDemandTransition × V1RenderDemandTracker :=
  if streamActive = tracker.stableRunning then
    (.none, { tracker with candidateRunning := streamActive, candidateSamples := 0 })
  else if tracker.candidateSamples = 0 ∨ tracker.candidateRunning ≠ streamActive then
    (.none, { tracker with candidateRunning := streamActive, candidateSamples := 1 })
  else if tracker.candidateSamples + 1 < kConfirmationSamples then
    (.none, { tracker with candidateSamples := tracker.candidateSamples + 1 })
  else
    (if streamActive then .started else .stopped,
      { tracker with stableRunning := streamActive, candidateSamples := 0 })

theorem observe_cases (tracker : V1RenderDemandTracker) (active : Bool) :
    let r := observeV1RenderDemand tracker active
    (r.1 = .none ∧ r.2.stableRunning = tracker.stableRunning) ∨
      (r.1 = .started ∧ tracker.stableRunning = false ∧ r.2.stableRunning = true) ∨
      (r.1 = .stopped ∧ tracker.stableRunning = true ∧ r.2.stableRunning = false) := by
  simp only [observeV1RenderDemand]
  split_ifs with hsame hnew hfew hactive
  · exact .inl ⟨rfl, rfl⟩
  · exact .inl ⟨rfl, rfl⟩
  · exact .inl ⟨rfl, rfl⟩
  · subst hactive
    exact .inr (.inl ⟨rfl, by simpa using hsame, rfl⟩)
  · rw [Bool.not_eq_true] at hactive
    subst hactive
    exact .inr (.inr ⟨rfl, by simpa using hsame, rfl⟩)

/-! ## The gate of the transport's OPEN -/

inductive V1TransportOpenStabilityObservation where
  | none | reset | ready | cancelled
  deriving DecidableEq, Repr

structure V1TransportOpenStabilityGate where
  requiredMs : UInt32 := 0
  aclGeneration : UInt64 := 0
  renderEpoch : UInt64 := 0
  runningSinceMs : UInt64 := 0
  pending : Bool := false
  observingRunning : Bool := false
  deriving DecidableEq, Repr

def cancelV1TransportOpenStability (gate : V1TransportOpenStabilityGate) :
    V1TransportOpenStabilityGate :=
  { requiredMs := gate.requiredMs }

def armV1TransportOpenStability (requiredMs : UInt32) (aclGeneration : UInt64)
    (renderRunning : Bool) (renderEpoch nowMs : UInt64) : V1TransportOpenStabilityGate :=
  if renderRunning then
    { requiredMs := requiredMs, aclGeneration := aclGeneration, pending := true
      renderEpoch := renderEpoch, runningSinceMs := nowMs, observingRunning := true }
  else { requiredMs := requiredMs, aclGeneration := aclGeneration, pending := true }

def observeV1TransportOpenStability (gate : V1TransportOpenStabilityGate)
    (aclGeneration : UInt64) (renderRunning : Bool) (renderEpoch nowMs : UInt64) :
    V1TransportOpenStabilityObservation × V1TransportOpenStabilityGate :=
  if ¬ gate.pending then (.none, gate)
  else if aclGeneration ≠ gate.aclGeneration then (.cancelled, cancelV1TransportOpenStability gate)
  else if ¬ renderRunning then
    if ¬ gate.observingRunning then (.none, gate)
    else (.reset, { gate with observingRunning := false, renderEpoch := 0, runningSinceMs := 0 })
  else if ¬ gate.observingRunning then
    (.none, { gate with
      observingRunning := true, renderEpoch := renderEpoch, runningSinceMs := nowMs })
  else if renderEpoch ≠ gate.renderEpoch ∨ nowMs < gate.runningSinceMs then
    (.reset, { gate with renderEpoch := renderEpoch, runningSinceMs := nowMs })
  else if nowMs - gate.runningSinceMs < gate.requiredMs.toUInt64 then (.none, gate)
  else (.ready, { gate with pending := false, observingRunning := false })

/-! ## The state -/

/-- The fields of `TrialState` that the modelled functions read. -/
structure TrialState where
  lifecycle : V1LifecycleState := {}
  lastStreamEpoch : UInt64 := 0
  renderTracker : V1RenderDemandTracker := {}
  renderStopPending : Bool := false
  renderQueryRecoveryNextTick : UInt64 := 0
  transportOpenStability : V1TransportOpenStabilityGate := {}
  engineReadyObserverEnabled : Bool := false
  transportWorkerExerciseEnabled : Bool := false
  transportDiscoveryExerciseEnabled : Bool := false
  transportPcmBurstExerciseEnabled : Bool := false
  avrcpVolumeSyncEnabled : Bool := false
  avrcpHandoffEnabled : Bool := false
  avrcpObserverEnabled : Bool := false
  avrcpObserverActive : Bool := false
  avrcpControlReadyDeadline : UInt64 := 0
  avrcpHandoffFailedGeneration : UInt64 := 0
  avrcpHandoffReadyGeneration : UInt64 := 0
  avrcpObserverFailedGeneration : UInt64 := 0
  deriving DecidableEq, Repr

end NativeLdac.Agent
