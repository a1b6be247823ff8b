/-
  The direct PDO at run time: the worker of the dispatcher and the threads around it
  (`direct-pdo/src/nativeldac_direct_pdo_dispatcher.c`).

  * `DirectPdoRuntime` is the dispatcher with the arbiter, the signaling and the media channel,
    the places where its threads are, and the disconnect callbacks that are yet to run;
  * the worker runs from `WorkerPoint` to `WorkerPoint`: what it does while it executes an
    action is an `Execution`, which calls a channel at most;
  * `NldDirectPdoDispatcherStart` and `NldDirectPdoDispatcherStop` run from `LifecyclePoint` to
    `LifecyclePoint`; `directPdoRuntime` is the machine of all these steps.
-/
import NativeLdac.DirectPdo.Dispatcher
import NativeLdac.DirectPdo.OpenChannel

namespace NativeLdac.DirectPdo

open NldDirectPdoKsIntent NldDirectPdoTransportState NldDirectPdoAction
  NldDirectPdoArbiterClient NldDirectPdoPreemptionAction NldBthTransferDirection
open NativeLdac.Protocol (AvdtpSource AvdtpAction AvdtpActionKind ldacSfAll ldacCmAll)

/-! ## Where the threads are -/

inductive ChannelSide where
  | signaling | media
deriving DecidableEq, Repr

/-- What a close of the worker is for: another attempt to open, or the end of the session. -/
inductive CloseReason where
  | attempt (n : Nat)
  | session (side : ChannelSide)
deriving DecidableEq, Repr

def CloseReason.side : CloseReason → ChannelSide
  | attempt _ => .signaling
  | session side => side

/-- What runs next of `NldDirectPdoDispatcherExecute`. -/
inductive ExecutePoint where
  -- `NldDirectPdoDispatcherOpenSignaling`
  | settle
  | attempt (n : Nat)
  | openDrain (n : Nat)
  | openSnapshot (n : Nat)
  | retryWait (n : Nat)
  -- `NldDirectPdoDispatcherRunAvdtp`, up to the action that ends it
  | allocate (expected : AvdtpActionKind) (action : AvdtpAction)
  | run (expected : AvdtpActionKind) (action : AvdtpAction)
  | writing (expected : AvdtpActionKind)
  | read (expected : AvdtpActionKind)
  | reading (expected : AvdtpActionKind)
  | openMedia (expected : AvdtpActionKind)
  | mediaDrain (expected : AvdtpActionKind)
  | mediaSnapshot (expected : AvdtpActionKind)
  -- `NldBthSignalingClose`
  | close (reason : CloseReason)
  | closing (reason : CloseReason)
deriving DecidableEq, Repr

/-- What runs next of `NldDirectPdoDispatcherWorker`. -/
inductive WorkerPoint where
  | ended
  | take
  -- `NldDirectPdoDispatcherAcquireRender`
  | acquire
  | rejected
  | preempt
  | preempting (action : NldDirectPdoPreemptionAction) (generation : UInt32)
  | preempted (action : NldDirectPdoPreemptionAction) (generation grant : UInt32)
  | execute (point : ExecutePoint)
  -- `NldDirectPdoDispatcherReleaseRenderIfClosed`
  | release
  | releaseGrant
  | complete
deriving DecidableEq, Repr

/-- The locals of `NldDirectPdoDispatcherWorker`. -/
structure DispatcherWorker where
  point : WorkerPoint := .ended
  action : NldDirectPdoAction := actionNone
  generation : UInt32 := 0
  status : NtStatus := .success
  /-- The requests to open that the worker has sent -/
  requests : List (ChannelSide × Nat) := []
deriving DecidableEq, Repr

/-- What runs next of `NldDirectPdoDispatcherStart` and `NldDirectPdoDispatcherStop`, which the
    adapter calls one after the other. -/
inductive LifecyclePoint where
  | rest
  | setCallback (side : ChannelSide)
  | clearCallback (side : ChannelSide) (cancelActive : Bool)
  | cancel (side : ChannelSide)
  | canceling (side : ChannelSide)
  | wait
  | stop (side : ChannelSide)
  | stopping (side : ChannelSide)
  | finish
deriving DecidableEq, Repr

/-- A disconnect callback that is yet to run. -/
structure DisconnectIndication where
  side : ChannelSide
  call : DisconnectCall
  /-- A close that took the channel has returned since it was disconnected. -/
  closed : Bool := false
deriving DecidableEq, Repr

structure DirectPdoRuntime where
  dispatcher : NldDirectPdoDispatcherContext := {}
  arbiter : NldDirectPdoArbiterContext := {}
  signaling : NldBthSignalingContext := {}
  media : NldBthSignalingContext := {}
  worker : DispatcherWorker := {}
  lifecycle : LifecyclePoint := .rest
  callbacks : List DisconnectIndication := []

/-- What a step of a thread gets from outside: what a wait or a request ends with, and the
    time. -/
structure ThreadInput where
  succeeded : Bool := true
  status : NtStatus := .success
  profileReady : Bool := true
  allocations : OpenAllocations := {}
  response : List UInt8 := []
  now100ns : UInt64 := 0
deriving DecidableEq, Repr

namespace DirectPdoRuntime

variable (s : DirectPdoRuntime)

/-! ## The channels -/

def channel : ChannelSide → NldBthSignalingContext
  | .signaling => s.signaling
  | .media => s.media

def setChannel (context : NldBthSignalingContext) : ChannelSide → DirectPdoRuntime
  | .signaling => { s with signaling := context }
  | .media => { s with media := context }

/-- What the owner commands is queued. -/
def queued (result : Bool × NldDirectPdoDispatcherContext) : DirectPdoRuntime :=
  { s with
    dispatcher := result.2
    worker := if result.1 then { s.worker with point := .take } else s.worker }

/-- A close returns that took the channel of a request. -/
def closes (side : ChannelSide) (op : SignalingChannelOp) (r : Nat) : Bool :=
  match op, (s.channel side).operationMutex with
  | .closeStep _, .closing call =>
    call.activeRequest = some r ∧
      (signalingChannel.next (s.channel side) op).operationMutex = .free
  | _, _ => false

/-- A channel takes a step.  The open worker calls the disconnect callback in the step; an
    indication calls it at a later time. -/
def channelStep (side : ChannelSide) (op : SignalingChannelOp) : DirectPdoRuntime :=
  let result := signalingChannel.step (s.channel side) op
  let callbacks := s.callbacks.map fun callback =>
    { callback with
      closed := callback.closed || (callback.side = side && s.closes side op callback.call.request) }
  let s := { s.setChannel result.2 side with callbacks }
  match result.1, op with
  | none, _ => s
  | some _, .openWorker _ _ => s.queued s.dispatcher.transportDisconnected
  | some call, _ => { s with callbacks := s.callbacks ++ [{ side, call }] }

/-- What `NldBthSignalingOpen` returns. -/
def openStatus (context : NldBthSignalingContext) (ready : Bool) (a : OpenAllocations) : NtStatus :=
  if context.profile.isNone ∨ ¬ ready then .deviceNotReady
  else if ¬ a.succeeded then .insufficientResources
  else if context.owner.requestOpen.1 ≠ .submitOpen ∨ context.pendingOpen.isSome then .deviceBusy
  else .pending

/-- What `NldBthSignalingTransferInternal` returns before its transfer is sent, if anything. -/
def transferStatus (context : NldBthSignalingContext) (direction : NldBthTransferDirection)
    (fits : Bool) : Option NtStatus :=
  let result := (context.transferOwner.beginTransfer direction).1.1
  let mtu := if direction = transferRead then context.incomingMtu else context.outgoingMtu
  if result = .transferDisconnected then some .connectionDisconnected
  else if result = .transferBusy then some .deviceBusy
  else if result ≠ .transferOk ∨ context.profile.isNone ∨ ¬ context.channelHandle ∨ mtu = 0 then
    some .deviceNotReady
  else if ¬ fits then some .bufferTooSmall
  else none

end DirectPdoRuntime

/-! ## The worker executes an action -/

/-- What a step of the worker does while it executes an action; it ends at no point. -/
structure Execution where
  point : Option ExecutePoint
  status : NtStatus
  avdtpSource : AvdtpSource
  avdtpInitialized : Bool
  openRetryEvent : Bool
  call : Option (ChannelSide × SignalingChannelOp) := none

namespace DirectPdoRuntime

variable (s : DirectPdoRuntime)

def executed (status : NtStatus) : Execution where
  point := none
  status
  avdtpSource := s.dispatcher.avdtpSource
  avdtpInitialized := s.dispatcher.avdtpInitialized
  openRetryEvent := s.dispatcher.openRetryEvent

/-- The worker goes on, or waits where it is. -/
def goesTo (point : ExecutePoint) : Execution :=
  { s.executed s.worker.status with point := some point }

/-- `NldDirectPdoDispatcherRunAvdtp` begins with an action of the source. -/
def runsAvdtp (expected : AvdtpActionKind) (result : AvdtpAction × AvdtpSource) : Execution :=
  { s.goesTo (.allocate expected result.1) with avdtpSource := result.2 }

/-- `NldDirectPdoDispatcherRunAvdtp` goes on with the next action of the source. -/
def runsOn (expected : AvdtpActionKind) (result : AvdtpAction × AvdtpSource) : Execution :=
  { s.goesTo (.run expected result.1) with avdtpSource := result.2 }

/-- `NldDirectPdoDispatcherCloseSession`, after the protocol; what failed before is kept. -/
def closesSession (status : NtStatus) : Execution :=
  { s.goesTo (.close (.session .media)) with status }

/-- `NldDirectPdoDispatcherCloseSession`, graceful and with a source -/
def closesGracefully : Execution :=
  if s.dispatcher.avdtpSource.state = .streaming then
    s.runsAvdtp .streamSuspended s.dispatcher.avdtpSource.suspend
  else if s.dispatcher.avdtpSource.state = .open_ then
    s.runsAvdtp .sessionClosed s.dispatcher.avdtpSource.close
  else s.closesSession .success

/-- `NldDirectPdoDispatcherExecute` -/
def executes (action : NldDirectPdoAction) : Execution :=
  match action with
  | actionOpen => { s.goesTo .settle with status := .success }
  | actionClose =>
    if s.dispatcher.avdtpInitialized then s.closesGracefully else s.closesSession .success
  | actionCancelAndClose => s.closesSession .success
  | actionStart =>
    if ¬ s.dispatcher.avdtpInitialized then s.executed .deviceNotReady
    else s.runsAvdtp .streamReady s.dispatcher.avdtpSource.start
  | actionSuspend =>
    if ¬ s.dispatcher.avdtpInitialized then s.executed .deviceNotReady
    else s.runsAvdtp .streamSuspended s.dispatcher.avdtpSource.suspend
  | actionNone => s.executed .invalidParameter

/-- `NldDirectPdoDispatcherRunAvdtp` returns. -/
def ranAvdtp (expected : AvdtpActionKind) (status : NtStatus) : Execution :=
  match s.worker.action with
  | actionOpen => if status.ntSuccess then s.executed status else s.closesSession status
  | actionClose =>
    if expected = .streamSuspended ∧ status.ntSuccess ∧
        s.dispatcher.avdtpSource.state = .open_ then
      s.runsAvdtp .sessionClosed s.dispatcher.avdtpSource.close
    else s.closesSession status
  | _ => s.executed status

/-- The wait for `OpenRetryEvent`, which a stop sets, or its timeout. -/
def retryEvent (point : ExecutePoint) : Execution :=
  if s.dispatcher.openRetryEvent then { s.executed .cancelled with openRetryEvent := false }
  else s.goesTo point

def attemptFailed (n : Nat) (status : NtStatus) : Execution :=
  { s.goesTo (.close (.attempt n)) with status }

/-- `NLD_DIRECT_PDO_OPEN_SETTLE_MS` -/
def openSettle100ns : UInt64 := 5000 * 10 * 1000

def openMaxAttempts : Nat := 5

def maxSignalingMtu : Nat := 4096

def settles (input : ThreadInput) : Execution :=
  let startedAt := s.dispatcher.startedInterruptTime100ns
  let elapsed := if input.now100ns ≥ startedAt then input.now100ns - startedAt else 0
  if elapsed < openSettle100ns then s.retryEvent (.attempt 1) else s.goesTo (.attempt 1)

/-- `NldBthSignalingOpen`, if the mutex is free: its request is sent, or it has failed. -/
def opens (point : ExecutePoint) (side : ChannelSide) (input : ThreadInput) (sent : ExecutePoint)
    (failed : NtStatus → Execution) : Execution :=
  if (s.channel side).operationMutex ≠ .free then s.goesTo point
  else
    let status := openStatus (s.channel side) input.profileReady input.allocations
    { (if status = .pending then s.goesTo sent else failed status) with
      call := some (side, .openChannel input.profileReady input.allocations) }

/-- `NldBthSignalingWaitForRequestDrain`, or its timeout. -/
def drains (point : ExecutePoint) (side : ChannelSide) (input : ThreadInput)
    (drained : ExecutePoint) (failed : NtStatus → Execution) : Execution :=
  if (s.channel side).requestDrained then s.goesTo drained
  else if input.status = .timeout then failed .ioTimeout
  else s.goesTo point

/-- What the snapshot of a channel that is not open says; the input has its last status. -/
def notOpened (input : ThreadInput) : NtStatus :=
  if input.status.ntSuccess then .deviceNotReady else input.status

/-- The signaling channel is open: the source begins. -/
def beginsAvdtp : Execution :=
  let source := AvdtpSource.init ⟨ldacSfAll, ldacCmAll⟩ 1 s.dispatcher.preferredSampleRateHz
  { s.runsAvdtp .sessionOpen source.begin_ with avdtpInitialized := true }

/-- `NldBthSignalingTransferInternal` begins, if the mutex is free. -/
def transfers (point : ExecutePoint) (direction : NldBthTransferDirection) (fits : Bool)
    (begun : ExecutePoint) (failed : NtStatus → Execution) : Execution :=
  if s.signaling.operationMutex ≠ .free then s.goesTo point
  else
    { (match transferStatus s.signaling direction fits with
        | some status => failed status
        | none => s.goesTo begun) with
      call := some (.signaling, .beginTransfer direction fits) }

def transferred (expected : AvdtpActionKind) (input : ThreadInput) (next : Execution) : Execution :=
  { (if input.status.ntSuccess then next else s.ranAvdtp expected input.status) with
    call := some (.signaling, .completeTransfer) }

/-- What `NldDirectPdoDispatcherRunAvdtp` does with an action. -/
def handlesAction (expected : AvdtpActionKind) (action : AvdtpAction) : Execution :=
  if action.kind = expected then s.ranAvdtp expected .success
  else if action.kind = .error then s.ranAvdtp expected .deviceProtocolError
  else if action.kind = .openMediaChannel then s.goesTo (.openMedia expected)
  else if action.kind ≠ .sendSignaling ∨ action.packet.length < 2 ∨
      action.packet.length > maxSignalingMtu then s.ranAvdtp expected .invalidDeviceState
  else s.transfers (.run expected action) transferWrite
    (action.packet.length ≤ s.signaling.outgoingMtu) (.writing expected) (s.ranAvdtp expected)

/-- A close of the worker has returned. -/
def closed (reason : CloseReason) (status : NtStatus) : Execution :=
  let kept := if s.worker.status.ntSuccess then status else s.worker.status
  match reason with
  | .attempt n =>
    if n = openMaxAttempts ∨ ¬ s.worker.status.isTransientOpenStatus then
      s.executed s.worker.status
    else s.goesTo (.retryWait n)
  | .session .media => { s.goesTo (.close (.session .signaling)) with status := kept }
  | .session .signaling =>
    { s.executed kept with avdtpInitialized := false, avdtpSource := .init ⟨0, 0⟩ 0 0 }

/-- A close of the worker goes on, and returns with its last step. -/
def closesOn (reason : CloseReason) (input : ThreadInput) : Execution :=
  let context := s.channel reason.side
  match context.operationMutex with
  | .closing call =>
    let returns := (context.closeStep call input.succeeded).operationMutex = .free
    { (if returns then s.closed reason (if call.succeeded then .success else .unsuccessful)
        else s.goesTo (.closing reason)) with
      call := some (reason.side, .closeStep input.succeeded) }
  | .free | .transferring _ _ _ => s.goesTo (.closing reason)

/-- The worker goes on executing its action. -/
def execution (input : ThreadInput) (point : ExecutePoint) : Execution :=
  match point with
  | .settle => s.settles input
  | .attempt n => s.opens point .signaling input (.openDrain n) (s.attemptFailed n)
  | .openDrain n => s.drains point .signaling input (.openSnapshot n) (s.attemptFailed n)
  | .openSnapshot n =>
    if s.signaling.owner.state = .channelOpen then s.beginsAvdtp
    else s.attemptFailed n (notOpened input)
  | .retryWait n => s.retryEvent (.attempt (n + 1))
  | .allocate expected action =>
    if input.succeeded then s.goesTo (.run expected action)
    else s.ranAvdtp expected .insufficientResources
  | .run expected action => s.handlesAction expected action
  | .writing expected => s.transferred expected input (s.goesTo (.read expected))
  | .read expected =>
    s.transfers point transferRead (s.signaling.incomingMtu ≤ maxSignalingMtu)
      (.reading expected) (s.ranAvdtp expected)
  | .reading expected =>
    s.transferred expected input
      (s.runsOn expected (s.dispatcher.avdtpSource.handleSignaling input.response))
  | .openMedia expected => s.opens point .media input (.mediaDrain expected) (s.ranAvdtp expected)
  | .mediaDrain expected =>
    s.drains point .media input (.mediaSnapshot expected) (s.ranAvdtp expected)
  | .mediaSnapshot expected =>
    if s.media.owner.state = .channelOpen ∧ s.media.outgoingMtu ≠ 0 then
      s.runsOn expected s.dispatcher.avdtpSource.mediaChannelOpened
    else s.ranAvdtp expected (notOpened input)
  | .close reason =>
    if (s.channel reason.side).operationMutex ≠ .free then s.goesTo point
    else { s.goesTo (.closing reason) with call := some (reason.side, .close false) }
  | .closing reason => s.closesOn reason input

/-- The request that a step of the worker sends, if any. -/
def sends (e : Execution) : Option (ChannelSide × Nat) :=
  match e.call with
  | some (side, .openChannel ready allocations) =>
    if openStatus (s.channel side) ready allocations = .pending then
      some (side, (s.channel side).allocated)
    else none
  | _ => none

/-- The worker has done a step of an execution. -/
def executing (e : Execution) : DirectPdoRuntime :=
  let sent := s.sends e
  let s := match e.call with
    | some (side, op) => s.channelStep side op
    | none => s
  { s with
    dispatcher := { s.dispatcher with
      avdtpSource := e.avdtpSource
      avdtpInitialized := e.avdtpInitialized
      openRetryEvent := e.openRetryEvent }
    worker := { s.worker with
      point := e.point.elim .release .execute
      status := e.status
      requests := sent.toList ++ s.worker.requests } }

/-! ## The worker -/

/-- The worker takes the next action, or ends. -/
def takesAction : DirectPdoRuntime :=
  let taken := s.dispatcher.owner.takeAction
  let dispatcher := { s.dispatcher with owner := taken.2 }
  if taken.1.1 = actionNone then
    { s with
      dispatcher := { dispatcher with idleEvent := true }
      worker := { s.worker with point := .ended } }
  else
    let s := { s with
      dispatcher
      worker := { s.worker with action := taken.1.1, generation := taken.1.2 } }
    if taken.1.1 = actionOpen ∨ taken.1.1 = actionStart ∨ taken.1.1 = actionSuspend then
      { s with worker := { s.worker with point := .acquire } }
    else s.executing (s.executes taken.1.1)

/-- `NldDirectPdoDispatcherAcquireRender` returns. -/
def acquired (status : NtStatus) : DirectPdoRuntime :=
  if status.ntSuccess then s.executing (s.executes s.worker.action)
  else s.executing (s.executed status)

def acquires : DirectPdoRuntime :=
  let result := s.arbiter.runtimeTryAcquire clientRender
  let s := { s with arbiter := result.2 }
  if result.1.1 = .acquireRejected then { s with worker := { s.worker with point := .rejected } }
  else
    { s with
      dispatcher := { s.dispatcher with arbiterGeneration := result.1.2 } }.acquired .success

/-- The snapshot of the arbiter that has rejected render. -/
def wasRejected : DirectPdoRuntime :=
  if s.arbiter.owner.renderDemand ∧ s.arbiter.owner.client = clientDiagnostic then
    { s with worker := { s.worker with point := .preempt } }
  else s.acquired .deviceBusy

/-- `NldDirectPdoDispatcherPreemptDiagnostic` takes its next action, or returns. -/
def preemptsNext (status : NtStatus) : DirectPdoRuntime :=
  let taken := s.dispatcher.preemption.takeAction
  let s := { s with dispatcher := { s.dispatcher with preemption := taken.2 } }
  if taken.1.1 = preemptNone then s.acquired status
  else { s with worker := { s.worker with point := .preempting taken.1.1 taken.1.2 } }

def preempts : DirectPdoRuntime :=
  let result := s.dispatcher.preemption.requestRender
  let s := { s with dispatcher := { s.dispatcher with preemption := result.2 } }
  if ¬ result.1 then s.acquired .deviceBusy else s.preemptsNext .deviceBusy

/-- The diagnostic is preempted, with the status of the input, or render is acquired. -/
def preempting (action : NldDirectPdoPreemptionAction) (generation : UInt32)
    (input : ThreadInput) : DirectPdoRuntime :=
  match action with
  | retryRender =>
    let result := s.arbiter.runtimeTryAcquire clientRender
    { s with
      arbiter := result.2
      worker := { s.worker with
        point := .preempted action generation result.1.2
        status := if result.1.1 = .acquireRejected then .deviceBusy else .success } }
  | cancelDiagnostic =>
    { s with
      worker := { s.worker with point := .preempted action generation 0, status := input.status } }
  | preemptNone =>
    { s with
      worker := { s.worker with
        point := .preempted action generation 0, status := .invalidDeviceState } }

def preempted (action : NldDirectPdoPreemptionAction) (generation grant : UInt32) :
    DirectPdoRuntime :=
  let status := s.worker.status
  let s := { s with
    dispatcher := { s.dispatcher with
      arbiterGeneration :=
        if status.ntSuccess ∧ action = retryRender then grant else s.dispatcher.arbiterGeneration
      preemption :=
        s.dispatcher.preemption.completeAction generation action status.ntSuccess } }
  s.preemptsNext status

/-- `NldDirectPdoDispatcherReleaseRenderIfClosed`, up to the snapshot of the channel. -/
def releases : DirectPdoRuntime :=
  { s with
    worker := { s.worker with
      point :=
        if s.dispatcher.arbiterGeneration = 0 ∨ s.signaling.owner.state ≠ .closed then .complete
        else .releaseGrant } }

def releasesGrant : DirectPdoRuntime :=
  let result := s.arbiter.runtimeRelease clientRender s.dispatcher.arbiterGeneration
  { s with
    arbiter := result.2
    dispatcher := { s.dispatcher with
      arbiterGeneration := if result.1 then 0 else s.dispatcher.arbiterGeneration }
    worker := { s.worker with point := .complete } }

def completes (input : ThreadInput) : DirectPdoRuntime :=
  { s with
    dispatcher := s.dispatcher.completeAction s.worker.generation s.worker.action s.worker.status
      input.now100ns
    worker := { s.worker with point := .take } }

/-- `NldDirectPdoDispatcherWorker` goes on. -/
def workerStep (input : ThreadInput) : DirectPdoRuntime :=
  match s.worker.point with
  | .ended => s
  | .take => s.takesAction
  | .acquire => s.acquires
  | .rejected => s.wasRejected
  | .preempt => s.preempts
  | .preempting action generation => s.preempting action generation input
  | .preempted action generation grant => s.preempted action generation grant
  | .execute point => s.executing (s.execution input point)
  | .release => s.releases
  | .releaseGrant => s.releasesGrant
  | .complete => s.completes input

/-! ## Start and stop -/

/-- `NldDirectPdoDispatcherStart`, up to its section. -/
def start (workItem : Bool) (now100ns : UInt64) : NtStatus × DirectPdoRuntime :=
  if ¬ s.arbiter.started ∨ ¬ s.arbiter.owner.pnpStarted ∨ s.arbiter.owner.stopRequested then
    (.deviceNotReady, s)
  else if s.signaling.owner.state ≠ .closed ∨ s.media.owner.state ≠ .closed then
    (.deviceNotReady, s)
  else if ¬ workItem then (.insufficientResources, s)
  else
    let result := s.dispatcher.start now100ns
    (result.1,
      { s with
        dispatcher := result.2
        lifecycle := if result.1 = .success then .setCallback .signaling else s.lifecycle })

/-- The first section of `NldDirectPdoDispatcherStop`, and the worker that it queues. -/
def stop : DirectPdoRuntime :=
  if ¬ s.dispatcher.started then s
  else
    let cancelActive := s.dispatcher.owner.onPnpStop.1 = .cancelActive
    { s with
      arbiter := (s.arbiter.runtimeSetRenderDemand false).2
      lifecycle := .clearCallback .signaling cancelActive }.queued s.dispatcher.stop

/-- A close of the stop begins, if the mutex is free. -/
def stopCloses (side : ChannelSide) (targetOffline : Bool) (point : LifecyclePoint) :
    DirectPdoRuntime :=
  if (s.channel side).operationMutex = .free then
    { s.channelStep side (.close targetOffline) with lifecycle := point }
  else s

/-- A close of the stop goes on, and returns with its last step. -/
def stopClosesOn (side : ChannelSide) (succeeded : Bool) (point : LifecyclePoint) :
    DirectPdoRuntime :=
  let next := s.channelStep side (.closeStep succeeded)
  if (next.channel side).operationMutex = .free then { next with lifecycle := point } else next

/-- The thread that starts and stops the dispatcher goes on.  The end of a stop releases the
    grant, and nobody else can have it any more. -/
def lifecycleStep (succeeded : Bool) : DirectPdoRuntime :=
  match s.lifecycle with
  | .rest => s
  | .setCallback .signaling =>
    { s.channelStep .signaling (.setDisconnectCallback true) with lifecycle := .setCallback .media }
  | .setCallback .media =>
    { s.channelStep .media (.setDisconnectCallback true) with lifecycle := .rest }
  | .clearCallback .signaling cancelActive =>
    { s.channelStep .signaling (.setDisconnectCallback false) with
      lifecycle := .clearCallback .media cancelActive }
  | .clearCallback .media cancelActive =>
    { s.channelStep .media (.setDisconnectCallback false) with
      lifecycle := if cancelActive then .cancel .signaling else .wait }
  | .cancel side => s.stopCloses side false (.canceling side)
  | .canceling .signaling => s.stopClosesOn .signaling succeeded (.cancel .media)
  | .canceling .media => s.stopClosesOn .media succeeded .wait
  | .wait => if s.dispatcher.idleEvent then { s with lifecycle := .stop .signaling } else s
  | .stop side => s.stopCloses side true (.stopping side)
  | .stopping .signaling => s.stopClosesOn .signaling succeeded (.stop .media)
  | .stopping .media => s.stopClosesOn .media succeeded .finish
  | .finish =>
    { s with
      arbiter := (s.arbiter.runtimeRelease clientRender s.dispatcher.arbiterGeneration).2
      dispatcher := s.dispatcher.stopEnds
      lifecycle := .rest }

end DirectPdoRuntime

/-! ## The machine -/

inductive DirectPdoOp where
  | arbiterStart
  | arbiterStop
  | start (workItem : Bool) (now100ns : UInt64)
  | stop
  | lifecycle (succeeded : Bool)
  | setFormat (sampleRateHz : UInt32)
  | setIntent (intent : NldDirectPdoKsIntent)
  | requestRecovery (request : NldDirectPdoRecoveryRequestV1) (requestSize : UInt32)
  | checkMediaWatchdog (timeoutMs : UInt32) (now100ns : UInt64)
  | mediaWritten (now100ns : UInt64)
  | worker (input : ThreadInput)
  | diagnosticAcquire
  | diagnosticRelease (generation : UInt32)
  | channel (side : ChannelSide) (op : SignalingChannelOp)
  | disconnectCallback (i : Nat)
deriving DecidableEq, Repr

namespace DirectPdoRuntime

variable (s : DirectPdoRuntime)

/-- The mutex of a channel is held by the worker, or by the thread that stops it. -/
def holdsMutex (side : ChannelSide) : Bool :=
  (match s.worker.point with
    | .execute (.closing reason) => reason.side = side
    | .execute (.writing _) | .execute (.reading _) => side = .signaling
    | _ => false) ||
  (match s.lifecycle with
    | .canceling closing | .stopping closing => closing = side
    | _ => false)

/-- What others than the dispatcher do with a channel: the Bluetooth stack, the adapter, the
    diagnostic and the writes of the media. -/
def isOthers (side : ChannelSide) : SignalingChannelOp → Bool
  | .setDisconnectCallback _ => false
  | .closeStep _ | .completeTransfer => !s.holdsMutex side
  | _ => true

def setIntent (intent : NldDirectPdoKsIntent) : NtStatus × DirectPdoRuntime :=
  if ¬ s.dispatcher.started ∨ ¬ s.dispatcher.workItem ∨ s.dispatcher.owner.stopRequested then
    (.deviceNotReady, s)
  else
    let demanded := s.arbiter.runtimeSetRenderDemand (intent ≠ ksStopped)
    let s := { s with arbiter := demanded.2 }
    if demanded.1 = .demandRejected then (.deviceNotReady, s)
    else (.success, s.queued (s.dispatcher.setIntent intent))

def requestRecovery (request : NldDirectPdoRecoveryRequestV1) (requestSize : UInt32) :
    NtStatus × DirectPdoRuntime :=
  let result := s.dispatcher.requestRecovery request requestSize
  (result.1, s.queued result.2)

def disconnectCallback (i : Nat) : DirectPdoRuntime :=
  if i < s.callbacks.length then
    { s with callbacks := s.callbacks.eraseIdx i }.queued s.dispatcher.transportDisconnected
  else s

/-- A step that is not open to its thread changes nothing. -/
def step : DirectPdoOp → Option NtStatus × DirectPdoRuntime
  | .arbiterStart => (none, { s with arbiter := s.arbiter.runtimeStart })
  | .arbiterStop =>
    -- The adapter stops the dispatcher first.
    (none,
      if s.dispatcher.started then s else { s with arbiter := s.arbiter.runtimeStop })
  | .start workItem now100ns =>
    if s.lifecycle = .rest then (s.start workItem now100ns).map some id else (none, s)
  | .stop => (none, if s.lifecycle = .rest then s.stop else s)
  | .lifecycle succeeded => (none, s.lifecycleStep succeeded)
  | .setFormat sampleRateHz =>
    let result := s.dispatcher.setFormat sampleRateHz
    (some result.1, { s with dispatcher := result.2 })
  | .setIntent intent => (s.setIntent intent).map some id
  | .requestRecovery request requestSize => (s.requestRecovery request requestSize).map some id
  | .checkMediaWatchdog timeoutMs now100ns =>
    (none, s.queued (s.dispatcher.checkMediaWatchdog timeoutMs now100ns))
  | .mediaWritten now100ns => (none, { s with dispatcher := s.dispatcher.mediaWritten now100ns })
  | .worker input => (none, s.workerStep input)
  | .diagnosticAcquire =>
    (none, { s with arbiter := (s.arbiter.runtimeTryAcquire clientDiagnostic).2 })
  | .diagnosticRelease generation =>
    (none, { s with arbiter := (s.arbiter.runtimeRelease clientDiagnostic generation).2 })
  | .channel side op => (none, if s.isOthers side op then s.channelStep side op else s)
  | .disconnectCallback i => (none, s.disconnectCallback i)

end DirectPdoRuntime

def directPdoRuntime : Reducer DirectPdoRuntime DirectPdoOp (Option NtStatus) where
  step := DirectPdoRuntime.step

/-! ## Parts of runs -/

/-- The adapter starts the channels, the arbiter and the dispatcher. -/
def startUp : List DirectPdoOp :=
  [.channel .signaling (.start true), .channel .media (.start true), .arbiterStart,
    .start true 1, .lifecycle true, .lifecycle true]

/-- The worker carries on, and nothing fails. -/
def carriesOn (n : Nat) : List DirectPdoOp := List.replicate n (.worker {})

/-- The intent asks for the transport; the worker waits for it to settle, and sends the request
    to open the signaling channel. -/
def requestsOpen : List DirectPdoOp :=
  [.setIntent ksAcquired, .worker {}, .worker {}, .worker { now100ns := 60000000 }, .worker {}]

/-- A request to open is completed, and the open worker runs. -/
def opensChannel (side : ChannelSide) (r : Nat) : List DirectPdoOp :=
  .channel side (.openCompleted r { succeeded := true, channelHandle := true }) ::
    List.replicate 6 (.channel side (.openWorker r true))

end NativeLdac.DirectPdo
