/-
  The AVRCP owner handoff (`agent/v1_avrcp_handoff_state.cpp`,
  `agent/v1_avrcp_handoff_host.cpp`): the phase machine, and the session
  runner that feeds one accumulating input back into it until nothing changes.

  The external steps of a session (the PnP commands, the binding waits and the
  two completion signals) are a parameter. What a session did is the list of
  its calls.
-/
import Mathlib.Tactic.SplitIfs

namespace NativeLdac.Agent

/-! ## The phase machine -/

inductive V1AvrcpHandoffPhase where
  | microsoftHeld | handoffPending | observerActive | restorePending
  deriving DecidableEq, Repr

structure V1AvrcpHandoffInput where
  mediaStreaming : Bool := false
  handoffRestartDone : Bool := false
  handoffRestartFailed : Bool := false
  observerOpenAccepted : Bool := false
  observerOpenFailed : Bool := false
  restoreRestartDone : Bool := false
  restoreRestartFailed : Bool := false
  deriving DecidableEq, Repr

structure V1AvrcpHandoffTransition where
  next : V1AvrcpHandoffPhase := .microsoftHeld
  requestStageObserver : Bool := false
  requestHandoffRestart : Bool := false
  notifyDailyActive : Bool := false
  requestRestoreRestart : Bool := false
  markDegraded : Bool := false
  changed : Bool := false
  deriving DecidableEq, Repr

structure V1AvrcpHandoffState where
  phase : V1AvrcpHandoffPhase := .microsoftHeld
  degraded : Bool := false
  handoffRestartUsed : Bool := false
  restoreRestartUsed : Bool := false
  deriving DecidableEq, Repr

def V1AvrcpHandoffState.step (s : V1AvrcpHandoffState) (input : V1AvrcpHandoffInput) :
    V1AvrcpHandoffTransition × V1AvrcpHandoffState :=
  match s.phase with
  | .microsoftHeld =>
    if input.mediaStreaming then
      ({ next := .handoffPending, requestStageObserver := true, changed := true },
        { s with phase := .handoffPending })
    else ({ next := s.phase }, s)
  | .handoffPending =>
    if ¬ s.handoffRestartUsed ∧ input.handoffRestartDone then
      ({ next := .observerActive, notifyDailyActive := true, changed := true },
        { s with handoffRestartUsed := true, phase := .observerActive })
    else if ¬ s.handoffRestartUsed ∧ input.handoffRestartFailed then
      ({ next := .restorePending, requestRestoreRestart := true, changed := true },
        { s with handoffRestartUsed := true, phase := .restorePending })
    else ({ next := s.phase }, s)
  | .observerActive =>
    if ¬ input.mediaStreaming ∨ input.observerOpenFailed then
      ({ next := .restorePending, requestRestoreRestart := true, changed := true },
        { s with phase := .restorePending })
    else ({ next := s.phase }, s)
  | .restorePending =>
    if ¬ s.restoreRestartUsed ∧ input.restoreRestartDone then
      ({ next := .microsoftHeld, changed := true },
        { s with restoreRestartUsed := true, phase := .microsoftHeld })
    else if ¬ s.restoreRestartUsed ∧ input.restoreRestartFailed then
      ({ next := .microsoftHeld, markDegraded := true, changed := true },
        { s with restoreRestartUsed := true, degraded := true, phase := .microsoftHeld })
    else ({ next := s.phase }, s)

/-! ## The session runner -/

/-- An external step: from the value behind the error pointer and the outside
    world to its verdict and their new values. -/
abbrev ExternalStep (Ω : Type) := UInt32 → Ω → Bool × UInt32 × Ω

structure HandoffSteps (Ω : Type) where
  stageObserver : ExternalStep Ω
  waitForObserverBinding : ExternalStep Ω
  restartDevice : ExternalStep Ω
  restoreMicrosoft : ExternalStep Ω
  clearResidentPublishedInf : Ω → Ω
  signalHandoffCompleted : UInt64 → UInt32 → String → ExternalStep Ω
  signalRestoreCompleted : UInt64 → UInt32 → String → ExternalStep Ω

/-- One external call of a session and its verdict. -/
inductive HandoffCall where
  | stageObserver (ok : Bool)
  | waitForObserverBinding (ok : Bool)
  | restartDevice (ok : Bool)
  | restoreMicrosoft (ok : Bool)
  | signalHandoffCompleted (ok : Bool)
  | signalRestoreCompleted (errorText : String) (ok : Bool)
  deriving DecidableEq, Repr

/-- A `HandoffSessionRunner` at work: the phase machine, the value behind the
    error pointer, the outside world and the calls made so far. -/
structure HandoffSession (Ω : Type) where
  state : V1AvrcpHandoffState := {}
  error : UInt32
  world : Ω
  calls : List HandoffCall := []

namespace HandoffSession

variable {Ω : Type}

def call (r : HandoffSession Ω) (step : ExternalStep Ω) (log : Bool → HandoffCall) :
    Bool × HandoffSession Ω :=
  let a := step r.error r.world
  (a.1, { r with error := a.2.1, world := a.2.2, calls := r.calls ++ [log a.1] })

def clearResidentPublishedInf (r : HandoffSession Ω) (steps : HandoffSteps Ω) :
    HandoffSession Ω :=
  { r with world := steps.clearResidentPublishedInf r.world }

end HandoffSession

/-- How one round of the session loop ends. -/
inductive HandoffRound (Ω : Type) where
  /-- go on with the input accumulated so far -/
  | next (input : V1AvrcpHandoffInput) (r : HandoffSession Ω)
  /-- the machine reports no change -/
  | settled (r : HandoffSession Ω)
  /-- `RunHandoff` returns -/
  | returned (ok : Bool) (r : HandoffSession Ω)

section
variable {Ω : Type} (steps : HandoffSteps Ω)

/-- Stage the observer and wait for its binding, restarting the device once. -/
def stageAndBind (r : HandoffSession Ω) : Bool × HandoffSession Ω :=
  let staged := r.call steps.stageObserver .stageObserver
  if ¬ staged.1 then (false, staged.2) else
  let bound := staged.2.call steps.waitForObserverBinding .waitForObserverBinding
  if bound.1 then (true, bound.2) else
  let restarted := bound.2.call steps.restartDevice .restartDevice
  if ¬ restarted.1 then (false, restarted.2) else
  restarted.2.call steps.waitForObserverBinding .waitForObserverBinding

/-- `RestoreMicrosoft`, forgetting the resident package when it succeeds. -/
def restoreAndClear (r : HandoffSession Ω) : Bool × HandoffSession Ω :=
  let restored := r.call steps.restoreMicrosoft .restoreMicrosoft
  if restored.1 then (true, restored.2.clearResidentPublishedInf steps) else (false, restored.2)

def notifyDailyActive (generation : UInt64) (restartCount : UInt32)
    (input : V1AvrcpHandoffInput) (r : HandoffSession Ω) : HandoffRound Ω :=
  let signalled :=
    r.call (steps.signalHandoffCompleted generation restartCount "") .signalHandoffCompleted
  if signalled.1 then .next input signalled.2 else
  let restored := restoreAndClear steps signalled.2
  -- a completed rollback reports the error of the signal
  if restored.1 then .returned false { restored.2 with error := signalled.2.error }
  else .returned false restored.2

/-- One round of the session loop. -/
def handoffRound (generation : UInt64) (restartCount : UInt32) (input : V1AvrcpHandoffInput)
    (r : HandoffSession Ω) : HandoffRound Ω :=
  let (transition, state) := r.state.step input
  let r := { r with state := state }
  if ¬ transition.changed then .settled r else
  let staged := if transition.requestStageObserver then stageAndBind steps r else (true, r)
  if ¬ staged.1 then .next { input with handoffRestartFailed := true } staged.2 else
  let input := if transition.requestStageObserver then
    { input with handoffRestartDone := true } else input
  let restored := if transition.requestRestoreRestart then restoreAndClear steps staged.2
    else (true, staged.2)
  if ¬ restored.1 then .next { input with restoreRestartFailed := true } restored.2 else
  let input := if transition.requestRestoreRestart then
    { input with restoreRestartDone := true } else input
  if transition.notifyDailyActive then
    notifyDailyActive steps generation restartCount input restored.2
  else .next input restored.2

/-- What `RunHandoff` does once nothing changes. -/
def finishHandoff (generation : UInt64) (restartCount : UInt32) (r : HandoffSession Ω) :
    Bool × HandoffSession Ω :=
  if r.state.phase = .microsoftHeld ∧ r.state.restoreRestartUsed then
    let text := if r.state.degraded then "restore-restart-failed" else ""
    r.call (steps.signalRestoreCompleted generation restartCount text)
      (.signalRestoreCompleted text)
  else (true, r)

/-- The session loop, `none` if `fuel` rounds do not end it. -/
def handoffLoop (generation : UInt64) (restartCount : UInt32) :
    Nat → V1AvrcpHandoffInput → HandoffSession Ω → Option (Bool × HandoffSession Ω)
  | 0, _, _ => none
  | fuel + 1, input, r =>
    match handoffRound steps generation restartCount input r with
    | .next input r => handoffLoop generation restartCount fuel input r
    | .settled r => some (finishHandoff steps generation restartCount r)
    | .returned ok r => some (ok, r)

/-- `HandoffSessionRunner::RunHandoff` of a fresh runner. -/
def runHandoff (fuel : Nat) (generation : UInt64) (restartCount : UInt32) (error : UInt32)
    (world : Ω) : Option (Bool × HandoffSession Ω) :=
  handoffLoop steps generation restartCount fuel { mediaStreaming := true }
    { error := error, world := world }

end

end NativeLdac.Agent
