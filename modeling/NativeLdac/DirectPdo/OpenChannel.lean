/-
  A Bluetooth channel of the direct PDO and its open requests
  (`direct-pdo/src/nativeldac_bth_signaling.c`): what runs under the channel's lock is one
  step, and so is what a thread does alone between two such sections.

  * `NldBthAsyncOpenRequest` is one open request, with the account of what it holds;
  * `NldBthSignalingContext` is the channel: the owner and the transfers of the contracts,
    the pointers to the requests, and who holds the operation mutex;
  * the open worker runs from `OpenPoint` to `OpenPoint`, a close from `ClosePoint` to
    `ClosePoint`; `signalingChannel` is the machine of all these steps.
-/
import Mathlib.Logic.Function.Basic
import NativeLdac.DirectPdo.SignalingOwner
import NativeLdac.DirectPdo.TransferOwner

namespace NativeLdac.DirectPdo

open NldBthSignalingState NldBthTransferResult

/-! ## Open requests -/

structure Brb where
  allocated : Bool := false
  /-- The request's pointer to it is not null. -/
  pointer : Bool := false
  frees : Nat := 0
  /-- The frees through a profile that `NldBthSignalingStop` had already given up -/
  staleFrees : Nat := 0
deriving DecidableEq, Repr

namespace Brb

/-- `BthAllocateBrb` -/
def allocate (ok : Bool) : Brb := { allocated := ok, pointer := ok }

/-- `BthFreeBrb` -/
def free (brb : Brb) (stale : Bool) : Brb :=
  { brb with frees := brb.frees + 1, staleFrees := brb.staleFrees + stale.toNat }

/-- `if (… != NULL) BthFreeBrb(…)` -/
def freeHeld (brb : Brb) (stale : Bool) : Brb := if brb.pointer then brb.free stale else brb

/-- `… = NULL` -/
def clear (brb : Brb) : Brb := { brb with pointer := false }

end Brb

/-- What runs next of an open: `NldBthSignalingOpenWorker`, once the request is sent. -/
inductive OpenPoint where
  | unborn | sent | freeOpenBrb | clearOpenBrb | notify | closeChannel | settle | release | signal
  | done
deriving DecidableEq, Repr

/-- The locals of `NldBthSignalingOpenWorker`. -/
structure OpenWorker where
  action : NldBthSignalingAction := .none
  channelHandle : Bool := false
  closeBrb : Bool := false
  disconnectCallback : Bool := false
  closeSucceeded : Bool := true
  retainRequest : Bool := false
deriving DecidableEq, Repr

/-- `NLD_BTH_ASYNC_OPEN_REQUEST`: a profile is named by the stops before it was given. -/
structure NldBthAsyncOpenRequest where
  referenceCount : UInt32 := 0
  profile : Nat := 0
  openBrb : Brb := {}
  closeBrb : Brb := {}
  generation : UInt32 := 0
  remoteDisconnected : Bool := false
  point : OpenPoint := .unborn
  worker : OpenWorker := {}
  /-- The references that the Bluetooth stack holds -/
  stackReferences : Nat := 0
  baseReleases : Nat := 0
  freed : Bool := false
deriving DecidableEq, Repr

structure OpenAllocations where
  openBrb : Bool := true
  closeBrb : Bool := true
  irp : Bool := true
  workItem : Bool := true
deriving DecidableEq, Repr

def OpenAllocations.succeeded (a : OpenAllocations) : Bool :=
  a.openBrb && a.closeBrb && a.irp && a.workItem

namespace NldBthAsyncOpenRequest

variable (request : NldBthAsyncOpenRequest)

/-- `NldBthSignalingOpen`, up to its last section. -/
def allocate (profile : Nat) (a : OpenAllocations) : NldBthAsyncOpenRequest :=
  { referenceCount := 1, profile, openBrb := .allocate a.openBrb,
    closeBrb := .allocate a.closeBrb, point := .done }

def addReference : NldBthAsyncOpenRequest :=
  { request with referenceCount := request.referenceCount + 1 }

/-- `NldBthSignalingRequestRelease`, after a number of stops. -/
def release (stops : Nat) : NldBthAsyncOpenRequest :=
  let request := { request with referenceCount := request.referenceCount - 1 }
  if request.referenceCount ≠ 0 then request
  else
    { request with
      openBrb := request.openBrb.freeHeld (request.profile ≠ stops)
      closeBrb := request.closeBrb.freeHeld (request.profile ≠ stops)
      freed := true }

/-- The reference that the open took is released. -/
def releaseBase (stops : Nat) : NldBthAsyncOpenRequest :=
  { request.release stops with baseReleases := request.baseReleases + 1 }

/-- `close_brb = request->CloseBrb; request->CloseBrb = NULL` -/
def takeCloseBrb : NldBthAsyncOpenRequest := { request with closeBrb := request.closeBrb.clear }

def freeCloseBrb (stops : Nat) : NldBthAsyncOpenRequest :=
  { request with closeBrb := request.closeBrb.free (request.profile ≠ stops) }

def freeOpenBrb (stops : Nat) : NldBthAsyncOpenRequest :=
  { request with openBrb := request.openBrb.free (request.profile ≠ stops) }

def clearOpenBrb : NldBthAsyncOpenRequest := { request with openBrb := request.openBrb.clear }

end NldBthAsyncOpenRequest

/-! ## The channel -/

/-- What runs next of `NldBthSignalingCloseInternal`, after its first section. -/
inductive ClosePoint where
  | cancel | closeChannel | freeOpenBrb | clearOpenBrb | settle | release | drain
deriving DecidableEq, Repr

/-- The locals of `NldBthSignalingCloseInternal`. -/
structure CloseCall where
  point : ClosePoint := .closeChannel
  /-- Called by `NldBthSignalingStop` -/
  targetOffline : Bool
  action : NldBthSignalingAction
  pendingRequest : Option Nat := none
  activeRequest : Option Nat := none
  channelHandle : Bool := false
  closeBrb : Bool := false
  succeeded : Bool := true
  waitForDrain : Bool
deriving DecidableEq, Repr

inductive MutexHolder where
  | free
  | transferring (direction : NldBthTransferDirection) (channelGeneration requestGeneration : UInt32)
  | closing (call : CloseCall)
deriving DecidableEq, Repr

def MutexHolder.call : MutexHolder → Option CloseCall
  | closing call => some call
  | free | transferring _ _ _ => none

/-- `NLD_BTH_SIGNALING_CONTEXT`, as `NldBthSignalingInitialize` leaves it. -/
structure NldBthSignalingContext where
  operationMutex : MutexHolder := .free
  owner : NldBthSignalingOwner := {}
  transferOwner : NldBthTransferOwner := {}
  profile : Option Nat := none
  channelHandle : Bool := false
  incomingMtu : Nat := 0
  outgoingMtu : Nat := 0
  pendingOpen : Option Nat := none
  activeChannel : Option Nat := none
  requestDrained : Bool := true
  disconnectCallback : Bool := false
  /-- The stops that have returned -/
  stops : Nat := 0
  /-- The requests that have been allocated -/
  allocated : Nat := 0
  requests : Nat → NldBthAsyncOpenRequest := fun _ => {}

/-- What an open BRB completes with. -/
structure OpenResults where
  succeeded : Bool
  channelHandle : Bool
  incomingMtu : Nat := 672
  outgoingMtu : Nat := 672
deriving DecidableEq, Repr

namespace NldBthSignalingContext

variable (context : NldBthSignalingContext)

def setRequest (r : Nat) (request : NldBthAsyncOpenRequest) : NldBthSignalingContext :=
  { context with requests := Function.update context.requests r request }

/-- `ChannelHandle = NULL; IncomingMtu = 0; OutgoingMtu = 0` -/
def clearChannel : NldBthSignalingContext :=
  { context with channelHandle := false, incomingMtu := 0, outgoingMtu := 0 }

/-! ### Start and open -/

/-- `NldBthChannelStart`, with a profile that is ready or not. -/
def channelStart (ready : Bool) : NldBthSignalingContext :=
  if ¬ ready ∨ context.profile.isSome ∨ context.owner.state ≠ offline then context
  else { context with profile := some context.stops, owner := context.owner.onPnpStart.2 }

/-- The request of an open that is not submitted is released. -/
def openRefused (request : NldBthAsyncOpenRequest) : NldBthSignalingContext :=
  { context.setRequest context.allocated (request.releaseBase context.stops) with
    allocated := context.allocated + 1 }

/-- `NldBthSignalingOpen`, with a profile that is ready or not: the mutex keeps the profile
    from the first section to the last, and nobody else has the request between them. -/
def openChannel (ready : Bool) (a : OpenAllocations) : NldBthSignalingContext :=
  match context.profile with
  | none => context
  | some profile =>
    if ¬ ready then context
    else
      let request := NldBthAsyncOpenRequest.allocate profile a
      if ¬ a.succeeded then context.openRefused request
      else
        let result := context.owner.requestOpen
        let context := { context with owner := result.2 }
        if result.1 ≠ .submitOpen ∨ context.pendingOpen.isSome then context.openRefused request
        else
          let request := { request with generation := context.owner.generation, point := .sent }
          { context.setRequest context.allocated request with
            pendingOpen := some context.allocated
            requestDrained := false
            allocated := context.allocated + 1 }

/-! ### The open worker -/

/-- The worker leaves its first section with its locals. -/
def goOn (r : Nat) (worker : OpenWorker) : NldBthSignalingContext :=
  context.setRequest r { context.requests r with worker, point := .freeOpenBrb }

/-- The worker leaves its first section with the close BRB of its request. -/
def goOnClosing (r : Nat) (worker : OpenWorker) : NldBthSignalingContext :=
  let request := context.requests r
  (context.setRequest r request.takeCloseBrb).goOn r
    { worker with closeBrb := request.closeBrb.pointer }

/-- The remote side has disconnected the channel that was acquired. -/
def acquiredLost (r : Nat) (worker : OpenWorker) : NldBthSignalingContext :=
  let owner := (context.owner.onRemoteDisconnect (context.requests r).generation).2
  let transferOwner := (context.transferOwner.requestClose true).2.finishClose.2
  { context with owner, transferOwner }.goOn r
    { worker with disconnectCallback := context.disconnectCallback }

/-- The channel that was acquired becomes the active one, if the transfers let it. -/
def acquired (r : Nat) (worker : OpenWorker) (results : OpenResults) : NldBthSignalingContext :=
  let opened := context.transferOwner.openChannel
  let context := { context with
    channelHandle := true, incomingMtu := results.incomingMtu, outgoingMtu := results.outgoingMtu
    transferOwner := opened.2 }
  if opened.1 = 0 then
    let result := context.owner.requestClose false
    { context with activeChannel := none, owner := result.2 }.goOnClosing r
      { worker with action := result.1 }
  else { context with activeChannel := some r }.goOn r { worker with retainRequest := true }

/-- `NldBthSignalingOpenCompletion`, and the first section of the worker that it queues. -/
def openCompleted (r : Nat) (results : OpenResults) : NldBthSignalingContext :=
  let request := context.requests r
  let channelAcquired := results.succeeded && results.channelHandle
  let result :=
    context.owner.onOpenComplete request.generation results.succeeded channelAcquired
  let context := { context with
    pendingOpen := if context.pendingOpen = some r then none else context.pendingOpen
    owner := result.2 }
  let worker : OpenWorker := { action := result.1, channelHandle := channelAcquired }
  if ¬ channelAcquired then context.goOn r worker
  else if result.1 = .none ∧ context.owner.state = channelOpen then
    if request.remoteDisconnected then context.acquiredLost r worker
    else context.acquired r worker results
  else if result.1 = .submitClose then context.goOnClosing r worker
  else context.goOn r worker

/-- The worker closes a channel that nobody wants any more. -/
def workerCloses (r : Nat) (succeeded : Bool) : NldBthSignalingContext :=
  let request := context.requests r
  if request.worker.action = .submitClose ∧ request.worker.closeBrb ∧
      request.worker.channelHandle then
    context.setRequest r { request.freeCloseBrb context.stops with
      point := .settle, worker := { request.worker with closeSucceeded := succeeded } }
  else context.setRequest r { request with point := .release }

def openWorker (r : Nat) (succeeded : Bool) : NldBthSignalingContext :=
  let request := context.requests r
  match request.point with
  | .freeOpenBrb =>
    if request.openBrb.pointer then
      context.setRequest r { request.freeOpenBrb context.stops with point := .clearOpenBrb }
    else context.setRequest r { request with point := .notify }
  | .clearOpenBrb => context.setRequest r { request.clearOpenBrb with point := .notify }
  | .notify => context.setRequest r { request with point := .closeChannel }
  | .closeChannel => context.workerCloses r succeeded
  | .settle =>
    { context with
      owner := context.owner.onCloseComplete request.worker.closeSucceeded
        }.clearChannel.setRequest r { request with point := .release }
  | .release =>
    if request.worker.retainRequest then context.setRequest r { request with point := .signal }
    else
      context.setRequest r { request.releaseBase context.stops with point := .signal }
  | .signal => { context with requestDrained := true }.setRequest r { request with point := .done }
  | .unborn | .sent | .done => context

/-! ### Close and stop -/

/-- `ActiveChannel` is taken, and its close BRB with it. -/
def takeActive (call : CloseCall) : NldBthSignalingContext :=
  match context.activeChannel with
  | none => { context with operationMutex := .closing call }
  | some r =>
    { context.setRequest r (context.requests r).takeCloseBrb with
      activeChannel := none
      operationMutex := .closing
        { call with activeRequest := some r, closeBrb := (context.requests r).closeBrb.pointer } }

/-- The channel is not open: what is left of one that was disconnected is taken. -/
def takeDisconnected (call : CloseCall) : NldBthSignalingContext :=
  if context.channelHandle then { context with operationMutex := .closing call }
  else context.takeActive call

/-- The first section of `NldBthSignalingCloseInternal`. -/
def closeInternal (targetOffline : Bool) : NldBthSignalingContext :=
  let transferOwner := (context.transferOwner.requestClose false).2.finishClose.2
  let result := context.owner.requestClose targetOffline
  let call : CloseCall :=
    { targetOffline, action := result.1, waitForDrain := ¬ context.requestDrained }
  let context := { context with transferOwner, owner := result.2 }
  match result.1 with
  | .submitClose =>
    (context.takeActive { call with channelHandle := context.channelHandle }).clearChannel
  | .cancelOpen =>
    match context.pendingOpen with
    | some r =>
      { context.setRequest r (context.requests r).addReference with
        operationMutex := .closing { call with point := .cancel, pendingRequest := some r } }
    | none => context.takeDisconnected call
  | .none | .submitOpen => context.takeDisconnected call

/-- `NldBthSignalingClose` returns; `NldBthSignalingStop` gives up the profile first. -/
def closeReturns (call : CloseCall) : NldBthSignalingContext :=
  if call.targetOffline then
    { context with
      profile := none, disconnectCallback := false, stops := context.stops + 1
      operationMutex := .free }
  else { context with operationMutex := .free }

/-- A request that the close holds, if it holds one, changes. -/
def updateRequest (r : Option Nat) (f : NldBthAsyncOpenRequest → NldBthAsyncOpenRequest) :
    NldBthSignalingContext :=
  match r with
  | some r => context.setRequest r (f (context.requests r))
  | none => context

def closeGoesOn (call : CloseCall) : NldBthSignalingContext :=
  { context with operationMutex := .closing call }

/-- `NldBthSignalingCloseInternal` goes on, and what its close BRB ends with. -/
def closeStep (call : CloseCall) (succeeded : Bool) : NldBthSignalingContext :=
  match call.point with
  | .cancel =>
    -- The wait for the open that was cancelled
    if context.requestDrained then
      (context.updateRequest call.pendingRequest (·.release context.stops)).closeGoesOn
        { call with point := .closeChannel, waitForDrain := false }
    else context
  | .closeChannel =>
    let submits := call.closeBrb && call.action = .submitClose && call.channelHandle
    let call' := { call with point := .freeOpenBrb, succeeded := succeeded || !submits }
    if call.closeBrb then
      (context.updateRequest call.activeRequest (·.freeCloseBrb context.stops)).closeGoesOn call'
    else context.closeGoesOn call'
  | .freeOpenBrb =>
    if call.activeRequest.any fun r => (context.requests r).openBrb.pointer then
      (context.updateRequest call.activeRequest (·.freeOpenBrb context.stops)).closeGoesOn
        { call with point := .clearOpenBrb }
    else context.closeGoesOn { call with point := .settle }
  | .clearOpenBrb =>
    (context.updateRequest call.activeRequest (·.clearOpenBrb)).closeGoesOn
      { call with point := .settle }
  | .settle =>
    if call.action = .submitClose then
      { context with owner := context.owner.onCloseComplete call.succeeded
          }.clearChannel.closeGoesOn { call with point := .release }
    else context.closeGoesOn { call with point := .release }
  | .release =>
    (context.updateRequest call.activeRequest (·.releaseBase context.stops)).closeGoesOn
      { call with point := .drain }
  | .drain =>
    -- The wait for the worker of an open
    if call.waitForDrain && !context.requestDrained then context else context.closeReturns call

/-! ### Indications -/

/-- `IndicationRemoteDisconnect`, under the lock: whether the callback is called. -/
def remoteDisconnect (r : Nat) : Bool × NldBthSignalingContext :=
  let result := context.owner.onRemoteDisconnect (context.requests r).generation
  if context.activeChannel = some r ∧ result.1 then
    (context.disconnectCallback,
      { context with
        owner := result.2, transferOwner := (context.transferOwner.requestClose true).2
        }.clearChannel)
  else (false, context)

/-! ### Transfers -/

/-- `NldBthSignalingTransferInternal` begins: the MTU of its direction fits the buffer or not.
    A channel without an MTU is not ready, and its transfer stays begun. -/
def beginTransfer (direction : NldBthTransferDirection) (fits : Bool) : NldBthSignalingContext :=
  let result := context.transferOwner.beginTransfer direction
  let mtu := if direction = .transferRead then context.incomingMtu else context.outgoingMtu
  let begun := { context with transferOwner := result.2 }
  if result.1.1 ≠ transferOk then context
  else if context.profile.isNone ∨ ¬ context.channelHandle ∨ mtu = 0 then begun
  else if ¬ fits then
    { context with
      transferOwner := (result.2.complete direction result.1.2.1 result.1.2.2).2 }
  else { begun with operationMutex := .transferring direction result.1.2.1 result.1.2.2 }

def completeTransfer (direction : NldBthTransferDirection)
    (channelGeneration requestGeneration : UInt32) : NldBthSignalingContext :=
  { context with
    transferOwner :=
      (context.transferOwner.complete direction channelGeneration requestGeneration).2
    operationMutex := .free }

end NldBthSignalingContext

/-! ## The machine -/

inductive SignalingChannelOp where
  | start (ready : Bool)
  | setDisconnectCallback (callback : Bool)
  | openChannel (ready : Bool) (allocations : OpenAllocations)
  | openCompleted (request : Nat) (results : OpenResults)
  | openWorker (request : Nat) (succeeded : Bool)
  | close (targetOffline : Bool)
  | closeStep (succeeded : Bool)
  | addReference (request : Nat)
  | releaseReference (request : Nat)
  | disconnectIndicated (request : Nat)
  | remoteDisconnect (request : Nat)
  | beginTransfer (direction : NldBthTransferDirection) (fits : Bool)
  | completeTransfer
deriving DecidableEq, Repr

/-- The disconnect callback is called, for a request with a generation. -/
structure DisconnectCall where
  request : Nat
  generation : UInt32
deriving DecidableEq, Repr

namespace NldBthSignalingContext

variable (context : NldBthSignalingContext)

/-- The stack knows a request that was sent, until it is freed. -/
def isIndicated (r : Nat) : Bool :=
  let request := context.requests r
  request.point ≠ .unborn ∧ ¬ request.freed

def workerCalls (r : Nat) : Option DisconnectCall :=
  let request := context.requests r
  if request.point = .notify ∧ request.worker.disconnectCallback then
    some ⟨r, request.generation⟩
  else none

def indicationCalls (r : Nat) : Option DisconnectCall :=
  if (context.remoteDisconnect r).1 then some ⟨r, (context.requests r).generation⟩ else none

/-- A step that is not open to its thread changes nothing. -/
def step : SignalingChannelOp → Option DisconnectCall × NldBthSignalingContext
  | .start ready =>
    (none, if context.operationMutex = .free then context.channelStart ready else context)
  | .setDisconnectCallback callback => (none, { context with disconnectCallback := callback })
  | .openChannel ready allocations =>
    (none,
      if context.operationMutex = .free then context.openChannel ready allocations else context)
  | .openCompleted r results =>
    (none, if (context.requests r).point = .sent then context.openCompleted r results else context)
  | .openWorker r succeeded => (context.workerCalls r, context.openWorker r succeeded)
  | .close targetOffline =>
    (none, if context.operationMutex = .free then context.closeInternal targetOffline else context)
  | .closeStep succeeded =>
    (none, match context.operationMutex with
      | .closing call => context.closeStep call succeeded
      | .free | .transferring _ _ _ => context)
  | .addReference r =>
    (none,
      if context.isIndicated r then
        context.setRequest r { (context.requests r).addReference with
          stackReferences := (context.requests r).stackReferences + 1 }
      else context)
  | .releaseReference r =>
    (none,
      -- The stack balances its own references.
      if 0 < (context.requests r).stackReferences then
        context.setRequest r { (context.requests r).release context.stops with
          stackReferences := (context.requests r).stackReferences - 1 }
      else context)
  | .disconnectIndicated r =>
    (none,
      if context.isIndicated r then
        context.setRequest r { context.requests r with remoteDisconnected := true }
      else context)
  | .remoteDisconnect r =>
    if context.isIndicated r ∧ (context.requests r).remoteDisconnected then
      (context.indicationCalls r, (context.remoteDisconnect r).2)
    else (none, context)
  | .beginTransfer direction fits =>
    (none,
      if context.operationMutex = .free then context.beginTransfer direction fits else context)
  | .completeTransfer =>
    (none, match context.operationMutex with
      | .transferring direction channelGeneration requestGeneration =>
        context.completeTransfer direction channelGeneration requestGeneration
      | .free | .closing _ => context)

end NldBthSignalingContext

def signalingChannel :
    Reducer NldBthSignalingContext SignalingChannelOp (Option DisconnectCall) where
  step := NldBthSignalingContext.step

end NativeLdac.DirectPdo
