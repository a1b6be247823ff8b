/-
  The host of the contained engine (`agent/v1_engine_ready_host.cpp`): one child
  process at a time, the events it shares with its parent, and those of them that
  the parent has observed.

  A call takes what the system answers it (an error is the Win32 error stored)
  and returns its outcome with the host after it.
-/
import Mathlib.Tactic.SplitIfs

namespace NativeLdac.Agent

inductive V1EngineStopMode where
  | localOnly | gracefulTransport | cancelTransport
  deriving DecidableEq, Repr

inductive V1TransportWorkerEvent where
  | none | capabilitiesDiscovered | mediaStarted | mediaStopped | retryableOpenFailure | mediaFailed
  deriving DecidableEq, Repr

structure V1EngineReadyHost where
  /-- `process_` is not null -/
  active : Bool := false
  /-- `retryable_open_failure_event_` is not null -/
  retryableOpenFailureEvent : Bool := false
  /-- `single_gain_ready_event_`, and whether it is signaled -/
  singleGainReadyEvent : Option Bool := none
  readyObserved : Bool := false
  transportWorkerEnabled : Bool := false
  transportOpenAuthorized : Bool := false
  capabilitiesDiscoveredObserved : Bool := false
  mediaStartedObserved : Bool := false
  mediaStoppedObserved : Bool := false
  mediaFailedObserved : Bool := false
  retryableOpenFailureObserved : Bool := false
  deriving DecidableEq, Repr

namespace V1EngineReadyHost

def errorInvalidData : UInt32 := 13
def errorInvalidParameter : UInt32 := 87
def errorAlreadyExists : UInt32 := 183
def errorInvalidState : UInt32 := 5023

variable (host : V1EngineReadyHost)

/-- What `Close` leaves: every handle goes, and with it the process. -/
def closed : V1EngineReadyHost := {}

/-! ## Start -/

/-- `StartInternal`, which closes the host first.  The answer stands for the checks of the executable, the
    creation of the events and of the process, and its job. -/
def startInternal (transportWorker applyEndpointVolume discoveryWorker : Bool)
    (answer : Except UInt32 Unit) : Except UInt32 Unit × V1EngineReadyHost :=
  match answer with
  | .error e => (.error e, closed)
  | .ok () =>
    (.ok (),
      { active := true
        retryableOpenFailureEvent := transportWorker && discoveryWorker
        singleGainReadyEvent :=
          if transportWorker && !applyEndpointVolume then some false else none
        transportWorkerEnabled := transportWorker })

def start (answer : Except UInt32 Unit) : Except UInt32 Unit × V1EngineReadyHost :=
  startInternal false true false answer

def startTransportWorker (applyEndpointVolume : Bool) (answer : Except UInt32 Unit) :
    Except UInt32 Unit × V1EngineReadyHost :=
  startInternal true applyEndpointVolume false answer

def startTransportDiscoveryWorker (resultPath : String) (applyEndpointVolume : Bool)
    (answer : Except UInt32 Unit) : Except UInt32 Unit × V1EngineReadyHost :=
  if resultPath = "" then (.error errorInvalidParameter, host)
  else startInternal true applyEndpointVolume true answer

/-! ## Signals to the worker -/

def authorizeTransportOpen (setEvent : Except UInt32 Unit) :
    Except UInt32 Unit × V1EngineReadyHost :=
  if ¬ host.transportWorkerEnabled ∨ ¬ host.active then (.error errorInvalidState, host)
  else if host.transportOpenAuthorized then (.error errorAlreadyExists, host)
  else match setEvent with
    | .error e => (.error e, host)
    | .ok () => (.ok (), { host with transportOpenAuthorized := true })

def singleGainFailSafeEnabled : Bool := host.singleGainReadyEvent.isSome

/-- `SetSingleGainReady`, by `SetEvent` or `ResetEvent`. -/
def setSingleGainReady (ready : Bool) (answer : Except UInt32 Unit) :
    Except UInt32 Unit × V1EngineReadyHost :=
  if ¬ host.singleGainFailSafeEnabled ∨ ¬ host.active then (.error errorInvalidState, host)
  else match answer with
    | .error e => (.error e, host)
    | .ok () => (.ok (), { host with singleGainReadyEvent := some ready })

/-! ## Signals from the worker -/

/-- What `PollEvent` answers for each event of the worker. -/
structure WorkerSignals where
  retryableOpenFailure : Except UInt32 Bool := .ok false
  mediaFailed : Except UInt32 Bool := .ok false
  capabilitiesDiscovered : Except UInt32 Bool := .ok false
  mediaStarted : Except UInt32 Bool := .ok false
  mediaStopped : Except UInt32 Bool := .ok false

/-- An event that was observed is not polled again. -/
def pollUnobserved (observed : Bool) (signal : Except UInt32 Bool) : Except UInt32 Bool :=
  if observed then .ok false else signal

/-- The first event that is signaled; a poll that fails ends the search. -/
def firstSignaled : List (V1TransportWorkerEvent × Except UInt32 Bool) →
    Except UInt32 V1TransportWorkerEvent
  | [] => .ok .none
  | (_, .error e) :: _ => .error e
  | (event, .ok true) :: _ => .ok event
  | (_, .ok false) :: events => firstSignaled events

def observe : V1TransportWorkerEvent → V1EngineReadyHost
  | .none => host
  | .capabilitiesDiscovered => { host with capabilitiesDiscoveredObserved := true }
  | .mediaStarted => { host with mediaStartedObserved := true }
  | .mediaStopped => { host with mediaStoppedObserved := true }
  | .retryableOpenFailure => { host with retryableOpenFailureObserved := true }
  | .mediaFailed => { host with mediaFailedObserved := true }

/-- The event that `PollTransportEvent` reports. -/
def transportEvent (signals : WorkerSignals) : Except UInt32 V1TransportWorkerEvent :=
  if ¬ host.transportWorkerEnabled ∨ ¬ host.active then .error errorInvalidState
  else firstSignaled
    [(.retryableOpenFailure,
        pollUnobserved (!host.retryableOpenFailureEvent || host.retryableOpenFailureObserved)
          signals.retryableOpenFailure),
      (.mediaFailed, pollUnobserved host.mediaFailedObserved signals.mediaFailed),
      (.capabilitiesDiscovered,
        pollUnobserved host.capabilitiesDiscoveredObserved signals.capabilitiesDiscovered),
      (.mediaStarted, pollUnobserved host.mediaStartedObserved signals.mediaStarted),
      (.mediaStopped, pollUnobserved host.mediaStoppedObserved signals.mediaStopped)]

def pollTransportEvent (signals : WorkerSignals) :
    Except UInt32 V1TransportWorkerEvent × V1EngineReadyHost :=
  match host.transportEvent signals with
  | .error e => (.error e, host)
  | .ok event => (.ok event, host.observe event)

def pollReady (wait : Except UInt32 Bool) : Except UInt32 Bool × V1EngineReadyHost :=
  if ¬ host.active then (.error errorInvalidState, host)
  else match wait with
    | .ok true => (.ok true, { host with readyObserved := true })
    | .ok false => (.ok false, host)
    | .error e => (.error e, host)

/-- `PollExited`: the exit code of a process that is gone. -/
def pollExited (wait : Except UInt32 (Option UInt32)) :
    Except UInt32 (Option UInt32) × V1EngineReadyHost :=
  if ¬ host.active then (.error errorInvalidState, host) else (wait, host)

/-! ## Stop -/

structure StopAnswers where
  setModeEvent : Except UInt32 Unit := .ok ()
  setStopEvent : Except UInt32 Unit := .ok ()
  wait : Except UInt32 Unit := .ok ()
  mediaStopped : Bool := true
  exitCode : Except UInt32 UInt32 := .ok 0

/-- The worker is told to stop and waited for. -/
def awaitStop (mode : V1EngineStopMode) (answers : StopAnswers) : Except UInt32 UInt32 := do
  if mode ≠ .localOnly then answers.setModeEvent
  answers.setStopEvent
  answers.wait
  if mode ≠ .localOnly ∧ ¬ answers.mediaStopped then throw errorInvalidData
  let code ← answers.exitCode
  -- an exit code of its own fails without an error
  if code = 0 then return code else throw 0

/-- `Stop`.  A stop that fails closes the host too, but for a mode that the
    process does not have. -/
def stop (mode : V1EngineStopMode) (answers : StopAnswers) :
    Except UInt32 UInt32 × V1EngineReadyHost :=
  if ¬ host.active then (.ok 0, host)
  else if mode ≠ .localOnly ∧ ¬ host.transportWorkerEnabled then (.error errorInvalidState, host)
  else (awaitStop mode answers, closed)

/-! ## The process -/

@[simp] theorem observe_active (event : V1TransportWorkerEvent) :
    (host.observe event).active = host.active := by
  cases event <;> rfl

@[simp] theorem pollTransportEvent_active (signals : WorkerSignals) :
    (host.pollTransportEvent signals).2.active = host.active := by
  unfold pollTransportEvent
  split
  · rfl
  · exact host.observe_active _

@[simp] theorem pollTransportEvent_event (signals : WorkerSignals) :
    (host.pollTransportEvent signals).1 = host.transportEvent signals := by
  unfold pollTransportEvent
  split
  · exact Eq.symm ‹_›
  · exact Eq.symm ‹_›

@[simp] theorem pollReady_active (wait : Except UInt32 Bool) :
    (host.pollReady wait).2.active = host.active := by
  unfold pollReady
  split
  · rfl
  · split <;> rfl

theorem pollReady_transportEvent (wait : Except UInt32 Bool) (signals : WorkerSignals) :
    (host.pollReady wait).2.transportEvent signals = host.transportEvent signals := by
  unfold pollReady
  split
  · rfl
  · split <;> rfl

theorem pollReady_ok {wait : Except UInt32 Bool} {ready : Bool}
    (h : (host.pollReady wait).1 = .ok ready) : wait = .ok ready := by
  unfold pollReady at h
  split_ifs at h
  split at h <;> exact h

@[simp] theorem pollExited_host (wait : Except UInt32 (Option UInt32)) :
    (host.pollExited wait).2 = host := by
  unfold pollExited
  split <;> rfl

@[simp] theorem authorizeTransportOpen_active (setEvent : Except UInt32 Unit) :
    (host.authorizeTransportOpen setEvent).2.active = host.active := by
  unfold authorizeTransportOpen
  split
  · rfl
  · split
    · rfl
    · split <;> rfl

theorem authorizeTransportOpen_transportEvent (setEvent : Except UInt32 Unit)
    (signals : WorkerSignals) :
    (host.authorizeTransportOpen setEvent).2.transportEvent signals = host.transportEvent signals := by
  unfold authorizeTransportOpen
  split
  · rfl
  · split
    · rfl
    · split <;> rfl

theorem stop_inactive {mode : V1EngineStopMode} {answers : StopAnswers} {code : UInt32}
    (h : (host.stop mode answers).1 = .ok code) : (host.stop mode answers).2.active = false := by
  unfold stop at h ⊢
  split_ifs at h ⊢ with hactive hmode
  · rfl
  · simpa using hactive

theorem startInternal_active {transportWorker applyEndpointVolume discoveryWorker : Bool}
    {answer : Except UInt32 Unit}
    (h : (startInternal transportWorker applyEndpointVolume discoveryWorker answer).1 = .ok ()) :
    (startInternal transportWorker applyEndpointVolume discoveryWorker answer).2.active := by
  unfold startInternal at h ⊢
  split at h
  · cases h
  · rfl

end V1EngineReadyHost

end NativeLdac.Agent
