/-
  The dispatcher of the direct PDO at run time
  (`direct-pdo/src/nativeldac_direct_pdo_dispatcher.c`): what it does under its lock, and what
  it uses there.

  * the arbiter at run time (`nativeldac_direct_pdo_arbiter.c`), the preemption of the
    diagnostic (`nativeldac_direct_pdo_preemption_contract.c`) and the watchdog of the media
    (`nativeldac_media_watchdog_contract.c`);
  * the request for a recovery and its validation (`nativeldac_direct_pdo_media_abi.c`);
  * `NldDirectPdoDispatcherContext`, with one function for each section under its lock.
-/
import NativeLdac.DirectPdo.Arbiter
import NativeLdac.DirectPdo.Dispatch
import NativeLdac.Protocol.Avdtp

namespace NativeLdac.DirectPdo

open NldDirectPdoKsIntent NldDirectPdoTransportState NldDirectPdoAction
  NldDirectPdoDispatchCommand NldDirectPdoArbiterClient
open NativeLdac.Protocol (AvdtpSource)

/-! ## The arbiter at run time -/

/-- `NLD_DIRECT_PDO_ARBITER_CONTEXT`, as `NldDirectPdoArbiterRuntimeInitialize` leaves it. -/
structure NldDirectPdoArbiterContext where
  owner : NldDirectPdoArbiterOwner := {}
  started : Bool := false
deriving DecidableEq, Repr

namespace NldDirectPdoArbiterContext

variable (context : NldDirectPdoArbiterContext)

def runtimeStart : NldDirectPdoArbiterContext :=
  if context.started then context
  else { owner := context.owner.onPnpStart.2, started := context.owner.onPnpStart.1 }

def runtimeStop : NldDirectPdoArbiterContext :=
  if context.started then
    { owner := context.owner.onPnpStop.2.forceOffline, started := false }
  else context

def runtimeSetRenderDemand (active : Bool) :
    NldDirectPdoArbiterDemandResult × NldDirectPdoArbiterContext :=
  if context.started then
    let result := context.owner.setRenderDemand active
    (result.1, { context with owner := result.2 })
  else (.demandRejected, context)

/-- `NldDirectPdoArbiterRuntimeTryAcquire`: the result, and the generation of the grant. -/
def runtimeTryAcquire (client : NldDirectPdoArbiterClient) :
    (NldDirectPdoArbiterAcquireResult × UInt32) × NldDirectPdoArbiterContext :=
  if context.started then
    let result := context.owner.tryAcquire client
    (result.1, { context with owner := result.2 })
  else ((.acquireRejected, 0), context)

def runtimeRelease (client : NldDirectPdoArbiterClient) (generation : UInt32) :
    Bool × NldDirectPdoArbiterContext :=
  if context.started then
    let result := context.owner.release client generation
    (result.1, { context with owner := result.2 })
  else (false, context)

end NldDirectPdoArbiterContext

/-! ## The preemption of the diagnostic -/

inductive NldDirectPdoPreemptionState where
  | preemptionOffline | preemptionIdle | cancelingDiagnostic | retryingRender
  | preemptionComplete | preemptionFaulted | preemptionStopping
deriving DecidableEq, Repr

inductive NldDirectPdoPreemptionAction where
  | preemptNone | cancelDiagnostic | retryRender
deriving DecidableEq, Repr

open NldDirectPdoPreemptionState NldDirectPdoPreemptionAction

/-- `NLD_DIRECT_PDO_PREEMPTION_OWNER`, as `NldDirectPdoPreemptionInitialize` leaves it. -/
structure NldDirectPdoPreemptionOwner where
  state : NldDirectPdoPreemptionState := preemptionOffline
  pendingAction : NldDirectPdoPreemptionAction := preemptNone
  activeAction : NldDirectPdoPreemptionAction := preemptNone
  generation : UInt32 := 0
  activeGeneration : UInt32 := 0
  pnpStarted : Bool := false
  stopRequested : Bool := false
deriving DecidableEq, Repr

/-- `NldDirectPdoPreemptionNextGeneration` -/
def nextPreemptionGeneration (generation : UInt32) : UInt32 :=
  if generation + 1 = 0 then 1 else generation + 1

namespace NldDirectPdoPreemptionOwner

variable (owner : NldDirectPdoPreemptionOwner)

def onPnpStart : NldDirectPdoPreemptionOwner :=
  if owner.pnpStarted ∨ owner.stopRequested ∨ owner.state ≠ preemptionOffline ∨
      owner.pendingAction ≠ preemptNone ∨ owner.activeAction ≠ preemptNone then owner
  else
    { owner with
      generation := nextPreemptionGeneration owner.generation
      state := preemptionIdle
      pnpStarted := true }

def onPnpStop : NldDirectPdoPreemptionOwner :=
  if ¬ owner.pnpStarted ∨ owner.stopRequested then owner
  else
    let owner := { owner with pnpStarted := false, pendingAction := preemptNone }
    if owner.activeAction = preemptNone then { owner with state := preemptionOffline }
    else { owner with state := preemptionStopping, stopRequested := true }

def requestRender : Bool × NldDirectPdoPreemptionOwner :=
  if ¬ owner.pnpStarted ∨ owner.stopRequested ∨ owner.pendingAction ≠ preemptNone ∨
      owner.activeAction ≠ preemptNone ∨
      owner.state ≠ preemptionIdle ∧ owner.state ≠ preemptionComplete ∧
        owner.state ≠ preemptionFaulted then (false, owner)
  else
    (true,
      { owner with
        generation := nextPreemptionGeneration owner.generation
        state := cancelingDiagnostic
        pendingAction := cancelDiagnostic })

/-- `NldDirectPdoPreemptionTakeAction`: the action, and the generation it is taken at. -/
def takeAction : (NldDirectPdoPreemptionAction × UInt32) × NldDirectPdoPreemptionOwner :=
  if owner.stopRequested ∨ owner.activeAction ≠ preemptNone ∨
      owner.pendingAction = preemptNone then ((preemptNone, 0), owner)
  else
    ((owner.pendingAction, owner.generation),
      { owner with
        pendingAction := preemptNone
        activeAction := owner.pendingAction
        activeGeneration := owner.generation })

def completeAction (generation : UInt32) (action : NldDirectPdoPreemptionAction)
    (succeeded : Bool) : NldDirectPdoPreemptionOwner :=
  if action = preemptNone ∨ action ≠ owner.activeAction ∨ generation = 0 ∨
      generation ≠ owner.activeGeneration then owner
  else
    let owner := { owner with activeAction := preemptNone, activeGeneration := 0 }
    if owner.stopRequested then
      { owner with
        state := preemptionOffline, pendingAction := preemptNone, stopRequested := false }
    else match action with
      | cancelDiagnostic =>
        if succeeded then { owner with state := retryingRender, pendingAction := retryRender }
        else { owner with state := preemptionFaulted }
      | retryRender =>
        { owner with state := if succeeded then preemptionComplete else preemptionFaulted }
      | preemptNone => owner

end NldDirectPdoPreemptionOwner

/-! ## The watchdog of the media -/

/-- `NLD_MEDIA_WATCHDOG_OWNER`, as `NldMediaWatchdogInitialize` leaves it. -/
structure NldMediaWatchdogOwner where
  generation : UInt32 := 0
  lastWriteTime100ns : UInt64 := 0
  armed : Bool := false
deriving DecidableEq, Repr

inductive NldMediaWatchdogResult where
  | watchdogIdle | watchdogWaiting (remaining100ns : UInt64) | watchdogExpired
deriving DecidableEq, Repr

open NldMediaWatchdogResult

namespace NldMediaWatchdogOwner

variable (owner : NldMediaWatchdogOwner)

def arm (generation : UInt32) (now100ns : UInt64) : NldMediaWatchdogOwner :=
  if generation = 0 ∨ now100ns = 0 then owner
  else { generation, lastWriteTime100ns := now100ns, armed := true }

def recordWrite (generation : UInt32) (now100ns : UInt64) : NldMediaWatchdogOwner :=
  if ¬ owner.armed ∨ generation = 0 ∨ generation ≠ owner.generation ∨ now100ns = 0 ∨
      now100ns < owner.lastWriteTime100ns then owner
  else { owner with lastWriteTime100ns := now100ns }

/-- `NldMediaWatchdogStop` -/
def stopped : NldMediaWatchdogOwner := {}

def check (generation : UInt32) (now100ns timeout100ns : UInt64) :
    NldMediaWatchdogResult × NldMediaWatchdogOwner :=
  if ¬ owner.armed ∨ generation = 0 ∨ generation ≠ owner.generation then (watchdogIdle, owner)
  else if now100ns = 0 ∨ timeout100ns = 0 ∨ now100ns < owner.lastWriteTime100ns then
    (watchdogExpired, stopped)
  else
    let elapsed := now100ns - owner.lastWriteTime100ns
    if timeout100ns ≤ elapsed then (watchdogExpired, stopped)
    else (watchdogWaiting (timeout100ns - elapsed), owner)

end NldMediaWatchdogOwner

/-! ## The request for a recovery -/

inductive NldDirectPdoFailureReason where
  | failureNone | failureRemoteDisconnect | failureMediaTimeout | failureBackend
deriving DecidableEq, Repr

open NldDirectPdoFailureReason

def NldDirectPdoFailureReason.value : NldDirectPdoFailureReason → UInt32
  | failureNone => 0
  | failureRemoteDisconnect => 1
  | failureMediaTimeout => 2
  | failureBackend => 3

def mediaAbiVersion : UInt32 := 3

def recoveryRequestSize : UInt32 := 32

/-- `NLD_DIRECT_PDO_RECOVERY_REQUEST_V1`; `reserved` has three entries. -/
structure NldDirectPdoRecoveryRequestV1 where
  size : UInt32 := recoveryRequestSize
  version : UInt32 := mediaAbiVersion
  expectedSessionGeneration : UInt32
  expectedFailureReason : UInt32
  flags : UInt32 := 0
  reserved : List UInt32 := [0, 0, 0]
deriving DecidableEq, Repr

inductive NldDirectPdoRecoveryValidation where
  | validationOk | validationBufferTooSmall | validationSize | validationVersion
  | validationFlags | validationReserved | validationGeneration | validationReason
deriving DecidableEq, Repr

open NldDirectPdoRecoveryValidation

def validateRecoveryRequest (request : NldDirectPdoRecoveryRequestV1) (bufferSize : UInt32)
    (observedSessionGeneration : UInt32) (observedFailureReason : NldDirectPdoFailureReason) :
    NldDirectPdoRecoveryValidation :=
  if bufferSize < recoveryRequestSize then validationBufferTooSmall
  else if request.size ≠ recoveryRequestSize ∨ bufferSize ≠ recoveryRequestSize then
    validationSize
  else if request.version ≠ mediaAbiVersion then validationVersion
  else if request.flags ≠ 0 then validationFlags
  else if request.reserved.any (· ≠ 0) then validationReserved
  else if request.expectedSessionGeneration = 0 ∨
      request.expectedSessionGeneration ≠ observedSessionGeneration then validationGeneration
  else if request.expectedFailureReason = failureNone.value ∨
      request.expectedFailureReason > failureBackend.value ∨
      request.expectedFailureReason ≠ observedFailureReason.value then validationReason
  else validationOk

/-! ## The dispatcher -/

/-- The `NTSTATUS` values that the dispatcher tells apart; `unsuccessful` is any other one that
    is not a success. -/
inductive NtStatus where
  | success | pending | timeout | ioTimeout | cancelled | retry | deviceBusy | deviceNotReady
  | deviceNotConnected | connectionDisconnected | requestNotAccepted | invalidParameter
  | invalidDeviceState | insufficientResources | bufferTooSmall | deviceProtocolError
  | unsuccessful
deriving DecidableEq, Repr

/-- `NT_SUCCESS` -/
def NtStatus.ntSuccess : NtStatus → Bool
  | success | pending | timeout => true
  | _ => false

/-- `NldDirectPdoDispatcherIsTransientOpenStatus` -/
def NtStatus.isTransientOpenStatus (status : NtStatus) : Bool :=
  status = requestNotAccepted || status = deviceBusy || status = deviceNotReady ||
    status = deviceNotConnected || status = timeout || status = ioTimeout ||
    status = connectionDisconnected

/-- `NLD_DIRECT_PDO_DISPATCHER_CONTEXT`, as `NldDirectPdoDispatcherInitialize` leaves it. -/
structure NldDirectPdoDispatcherContext where
  idleEvent : Bool := true
  openRetryEvent : Bool := false
  owner : NldDirectPdoDispatchOwner := {}
  preemption : NldDirectPdoPreemptionOwner := {}
  referenceDeviceObject : Bool := false
  workItem : Bool := false
  arbiterGeneration : UInt32 := 0
  startedInterruptTime100ns : UInt64 := 0
  avdtpSource : AvdtpSource := .init ⟨0, 0⟩ 0 0
  preferredSampleRateHz : UInt32 := 48000
  failureReason : NldDirectPdoFailureReason := failureNone
  mediaWatchdog : NldMediaWatchdogOwner := {}
  avdtpInitialized : Bool := false
  started : Bool := false
deriving DecidableEq, Repr

namespace NldDirectPdoDispatcherContext

variable (context : NldDirectPdoDispatcherContext)

/-- What the owner commands: whether the work item is queued, and the idle event with it. -/
def commanded (result : NldDirectPdoDispatchCommand × NldDirectPdoDispatchOwner) :
    Bool × NldDirectPdoDispatcherContext :=
  (result.1 = queueWorker,
    { context with
      owner := result.2, idleEvent := context.idleEvent && result.1 ≠ queueWorker })

/-- The first reason of a failure is kept. -/
def failed (reason : NldDirectPdoFailureReason) : NldDirectPdoDispatcherContext :=
  if context.failureReason = failureNone then { context with failureReason := reason }
  else context

/-- The section of `NldDirectPdoDispatcherTransportDisconnected`; it does not look at the
    generation of the channel. -/
def transportDisconnected : Bool × NldDirectPdoDispatcherContext :=
  if ¬ context.started ∨ ¬ context.workItem ∨ context.owner.stopRequested then (false, context)
  else
    ({ context with mediaWatchdog := .stopped }.failed failureRemoteDisconnect).commanded
      context.owner.onTransportLost

/-- The section of `NldDirectPdoDispatcherStart`, with a work item at hand. -/
def start (now100ns : UInt64) : NtStatus × NldDirectPdoDispatcherContext :=
  if context.started ∨ context.workItem ∨ context.referenceDeviceObject then
    (.invalidDeviceState, context)
  else
    (.success,
      { context with
        referenceDeviceObject := true
        workItem := true
        started := true
        startedInterruptTime100ns := now100ns
        arbiterGeneration := 0
        failureReason := failureNone
        avdtpInitialized := false
        openRetryEvent := false
        idleEvent := true
        owner := context.owner.onPnpStart.2
        preemption := context.preemption.onPnpStart })

def setFormat (sampleRateHz : UInt32) : NtStatus × NldDirectPdoDispatcherContext :=
  if sampleRateHz ≠ 44100 ∧ sampleRateHz ≠ 48000 ∧ sampleRateHz ≠ 88200 ∧
      sampleRateHz ≠ 96000 then (.invalidParameter, context)
  else if ¬ context.started ∨ context.owner.stopRequested then (.deviceNotReady, context)
  else (.success, { context with preferredSampleRateHz := sampleRateHz })

/-- The section of `NldDirectPdoDispatcherRequestRecovery`. -/
def requestRecovery (request : NldDirectPdoRecoveryRequestV1) (requestSize : UInt32) :
    NtStatus × (Bool × NldDirectPdoDispatcherContext) :=
  let validation := validateRecoveryRequest request requestSize
    context.owner.session.generation context.failureReason
  if validation ≠ validationOk then
    (if validation = validationGeneration ∨ validation = validationReason then .retry
      else .invalidParameter, (false, context))
  else if ¬ context.started ∨ context.owner.stopRequested ∨ ¬ context.workItem then
    (.deviceNotReady, (false, context))
  else if context.owner.session.transportState ≠ transportFaulted ∨
      context.owner.session.ksIntent ≠ ksStopped ∨ context.owner.workerOwned ∨
      context.owner.activeAction ≠ actionNone ∨
      context.owner.session.pendingAction ≠ actionNone ∨ context.arbiterGeneration ≠ 0 then
    (.deviceBusy, (false, context))
  else
    let result := context.owner.retry
    if result.2.session.generation = context.owner.session.generation ∨
        result.2.session.transportState ≠ transportClosed then
      (.invalidDeviceState, (false, { context with owner := result.2 }))
    else (.success, { context with failureReason := failureNone }.commanded result)

/-- The section of `NldDirectPdoDispatcherSetIntent`, once the arbiter has taken the demand. -/
def setIntent (intent : NldDirectPdoKsIntent) : Bool × NldDirectPdoDispatcherContext :=
  { context with
    mediaWatchdog := if intent ≠ ksRunning then .stopped else context.mediaWatchdog
      }.commanded (context.owner.setKsIntent intent)

/-- The section of `NldDirectPdoDispatcherCheckMediaWatchdog`. -/
def checkMediaWatchdog (timeoutMs : UInt32) (now100ns : UInt64) :
    Bool × NldDirectPdoDispatcherContext :=
  if timeoutMs = 0 then (false, context)
  else
    let checked := context.mediaWatchdog.check context.owner.session.generation now100ns
      (timeoutMs.toUInt64 * 10000)
    let context := { context with mediaWatchdog := checked.2 }
    if checked.1 = watchdogExpired ∧ context.started ∧ ¬ context.owner.stopRequested then
      (context.failed failureMediaTimeout).commanded context.owner.onTransportLost
    else (false, context)

/-- The last section of `NldDirectPdoDispatcherWriteMedia`, after a write that succeeded. -/
def mediaWritten (now100ns : UInt64) : NldDirectPdoDispatcherContext :=
  { context with
    mediaWatchdog :=
      context.mediaWatchdog.recordWrite context.owner.session.generation now100ns }

/-- The first section of `NldDirectPdoDispatcherStop`. -/
def stop : Bool × NldDirectPdoDispatcherContext :=
  { context with preemption := context.preemption.onPnpStop, openRetryEvent := true }.commanded
    context.owner.onPnpStop

/-- The last section of `NldDirectPdoDispatcherStop`. -/
def stopEnds : NldDirectPdoDispatcherContext :=
  { context with
    referenceDeviceObject := false
    workItem := false
    arbiterGeneration := 0
    started := false
    avdtpInitialized := false
    failureReason := failureNone
    mediaWatchdog := .stopped }

/-- The last section of a round of `NldDirectPdoDispatcherWorker`. -/
def completeAction (generation : UInt32) (action : NldDirectPdoAction) (status : NtStatus)
    (now100ns : UInt64) : NldDirectPdoDispatcherContext :=
  let context := if status.ntSuccess then context else context.failed failureBackend
  let result := context.owner.completeAction generation action status.ntSuccess
  let context := { context with owner := result.2 }
  if ¬ result.1 then context
  else if action = actionStart ∧ status.ntSuccess ∧
      context.owner.session.transportState = transportStreaming then
    { context with
      mediaWatchdog := context.mediaWatchdog.arm context.owner.session.generation now100ns }
  else if action = actionSuspend ∨ action = actionClose ∨ action = actionCancelAndClose ∨
      ¬ status.ntSuccess then { context with mediaWatchdog := .stopped }
  else context

end NldDirectPdoDispatcherContext

end NativeLdac.DirectPdo
