/-
  The transport driver at work (`driver/sys/connection.c`, `driver/sys/device.c`): requests
  that are dispatched in parallel, the functions that hold the operation lock, the rundown
  worker, and the Bluetooth stack.

  * a step is a section under the lock, a BRB that is submitted or completed, an event that
    is set, or what lies between two of these; a list of steps is an interleaving;
  * `Point` is where a request is: in the thread that dispatches it until its BRB is sent,
    then in the completion routine;
  * `Operation` is where the function is that holds `OperationLock`;
  * what may fail (an allocation, a send, a BRB) fails as the step says.

  Every request opens at most one channel, whose handle stands for it.
-/
import NativeLdac.Transport.Connection
import NativeLdac.Lib.Reducer

namespace NativeLdac.Transport

/-! ## Requests -/

/-- Where a request is. -/
inductive Point where
  | unborn
  /-- a reference is taken, and the lock is next; an incoming one has its BRB -/
  | entered
  /-- `LdacNativeOpenSignaling` waits, or flushes the rundown -/
  | waiting
  /-- the context points to it -/
  | accepted
  /-- its transfer memory is allocated -/
  | memory
  /-- its BRB is allocated -/
  | brb
  /-- its BRB is with the stack -/
  | sent
  /-- it cannot be sent -/
  | failing
  | failed (release : Bool)
  /-- the first section of its completion is over -/
  | settled (ok release : Bool)
  /-- the channel of an open that failed is reset -/
  | reset (release : Bool)
  /-- it is handed back, and its event is to be set -/
  | signalling (release : Bool)
  | done
  deriving DecidableEq, Repr

/-- How often something was taken, and released -/
structure Resource where
  taken : Nat := 0
  released : Nat := 0
  deriving DecidableEq, Repr

namespace Resource

def take (x : Resource) : Resource := { x with taken := x.taken + 1 }

def release (x : Resource) : Resource := { x with released := x.released + 1 }

/-- `if (… != NULL)` it is released -/
def releaseHeld (x : Resource) : Resource := if x.released < x.taken then x.release else x

end Resource

structure Request where
  kind : RequestKind := .openSignaling
  point : Point := .unborn
  reference : Resource := {}
  brb : Resource := {}
  memory : Resource := {}
  completions : Nat := 0
  /-- it has been sent -/
  submitted : Bool := false
  /-- it was cancelled after that -/
  cancelled : Bool := false
  deriving DecidableEq, Repr

namespace Request

def dereferenceIf (q : Request) (release : Bool) : Request :=
  if release then { q with reference := q.reference.release } else q

/-- `LdacNativeReleaseRequestBrb` -/
def releaseBrb (q : Request) : Request :=
  { q with brb := q.brb.releaseHeld, memory := q.memory.releaseHeld }

/-- `WdfRequestCompleteWithInformation` -/
def complete (q : Request) : Request := { q with completions := q.completions + 1 }

def handBack (q : Request) : Request :=
  ({ q with point := .done }.dereferenceIf true).complete

/-- The point after the section that accepts -/
def accepted (q : Request) : Acceptance → Request
  | .rejected _ => q.handBack
  | .connected | .waits => { q with point := .waiting }
  | .accepted => { q with point := if q.kind = .incomingSignaling then .brb else .accepted }

/-- The allocations of an accepted request; those of an open have no transfer memory. -/
def allocate (q : Request) (ok : Bool) : Request :=
  match q.point with
  | .accepted =>
    if ¬ ok then { q with point := .failing }
    else if q.kind.isTransfer then { q with point := .memory, memory := q.memory.take }
    else { q with point := .brb, brb := q.brb.take }
  | .memory =>
    if ¬ ok then { q with point := .failing }
    else { q with point := .brb, brb := q.brb.take }
  | _ => q

/-- `LdacNativeSendBrbAsynchronously` -/
def send (q : Request) (ok : Bool) : Request :=
  if ok then { q with point := .sent, submitted := true }
  else { q.releaseBrb with point := .failing }

end Request

/-- A request takes its next step: what becomes of it, and of the context -/
def Context.advance (c : Context) (r : RequestId) (q : Request) (ok : Bool) : Request × Context :=
  match q.point with
  | .unborn | .done => (q, c)
  | .entered =>
    let accepted := c.acceptSection q.kind r ok
    (q.accepted accepted.1, accepted.2)
  | .waiting => (q.handBack, c)
  | .accepted | .memory => (q.allocate ok, c)
  | .brb => (q.send ok, c)
  | .failing =>
    let failed := c.failSection q.kind r
    ({ q with point := .failed failed.1 }, failed.2)
  | .failed release =>
    (({ q.releaseBrb with point := .done }.dereferenceIf release).complete,
      c.signalCompleted q.kind)
  | .sent =>
    let settled := c.completionSection q.kind r ok
    ({ q with point := .settled settled.1 settled.2.1 }, settled.2.2)
  | .settled ok release =>
    if q.kind.isOpen ∧ ¬ ok then ({ q with point := .reset release }, c.resetLocked q.kind.channel)
    else (({ q.releaseBrb with point := .signalling release }.dereferenceIf release).complete, c)
  | .reset release =>
    (({ q.releaseBrb with point := .signalling release }.dereferenceIf release).complete, c)
  | .signalling release =>
    ({ q with point := .done },
      if q.kind = .incomingSignaling ∧ ¬ release then c else c.signalCompleted q.kind)

/-! ## Functions that hold the operation lock -/

/-- A cancel or a wait of `LdacNativeConnectionShutdown`, for a request that it captured -/
inductive ShutdownAct where
  | cancel (kind : RequestKind)
  | wait (kind : RequestKind)
  deriving DecidableEq, Repr

def shutdownActs : List ShutdownAct :=
  [.cancel .readSignaling, .cancel .writeSignaling, .cancel .writeMedia, .cancel .openMedia,
    .wait .openMedia, .cancel .openSignaling, .wait .openSignaling, .cancel .incomingSignaling,
    .wait .incomingSignaling, .wait .readSignaling, .wait .writeSignaling, .wait .writeMedia]

inductive ClosePoint where
  | start
  | send (handle : Option RequestId)
  /-- the BRB that closes the channel is with the stack -/
  | sent
  | reset
  deriving DecidableEq, Repr

/-- Where the function is that holds `OperationLock`. -/
inductive Operation where
  | free
  | register
  | registerSend
  | registerSent
  | unregister (worker : Bool)
  | unregisterSend (worker : Bool)
  | unregisterSent (worker : Bool)
  | capture
  | rundown (captured : RequestKind → Option RequestId) (acts : List ShutdownAct)
  | close (shutdown : Bool) (channel : Channel) (point : ClosePoint)
  | endShutdown

/-- The functions that take `OperationLock` -/
inductive OperationStart where
  | register
  | unregister
  | rundownWorker
  | closeChannels
  | shutdown
  deriving DecidableEq, Repr

/-- The rundown work item -/
inductive Worker where
  | idle
  | unregisters
  | reports (status : NtStatus)
  deriving DecidableEq, Repr

structure Driver where
  context : Context := {}
  requests : RequestId → Request := fun _ => {}
  operation : Operation := .free
  worker : Worker := .idle
  /-- (ghost) the channels that are open: not closed, nor disconnected by the headset -/
  isOpen : RequestId → Bool := fun _ => false
  /-- the channels that the headset disconnected -/
  disconnected : RequestId → Bool := fun _ => false
  /-- (ghost) a shutdown has returned since the device was last stopped -/
  suspended : Bool := false

namespace Driver

def setRequest (s : Driver) (r : RequestId) (q : Request) : Driver :=
  { s with requests := Function.update s.requests r q }

@[simp] theorem requests_setRequest (s : Driver) (r : RequestId) (q : Request) :
    (s.setRequest r q).requests r = q :=
  Function.update_self _ _ _

theorem requests_setRequest_of_ne (s : Driver) {r r' : RequestId} (h : r' ≠ r) (q : Request) :
    (s.setRequest r q).requests r' = s.requests r' :=
  Function.update_of_ne h _ _

def setOpen (s : Driver) (r : RequestId) (isOpen : Bool) : Driver :=
  { s with isOpen := Function.update s.isOpen r isOpen }

/-- The point after the close of a channel: media first, then signaling -/
def afterClose (shutdown : Bool) : Channel → Operation
  | .media => .close shutdown .signaling .start
  | .signaling => if shutdown then .endShutdown else .free

/-- `LdacNativeUnregisterSignalingServer` returns, to the rundown worker or to the device. -/
def unregistered (s : Driver) (worker : Bool) (status : NtStatus) : Driver :=
  { s with
    operation := .free
    worker := if worker then .reports status else s.worker }

/-- `WdfRequestCancelSentRequest` has no effect on a request that is not sent. -/
def cancel (s : Driver) : Option RequestId → Driver
  | some r =>
    if (s.requests r).point = .sent then
      s.setRequest r { s.requests r with cancelled := true }
    else s
  | none => s

/-- One act of `LdacNativeConnectionShutdown`; a wait goes on while the event is not set. -/
def shutdownAct (s : Driver) (captured : RequestKind → Option RequestId)
    (acts : List ShutdownAct) : ShutdownAct → Driver
  | .cancel kind => { s.cancel (captured kind) with operation := .rundown captured acts }
  | .wait kind =>
    if captured kind = none ∨ s.context.completedEvent kind then
      { s with operation := .rundown captured acts }
    else s

/-- One step of `LdacNativeCloseSignaling` or `LdacNativeCloseMedia` -/
def closeStep (s : Driver) (shutdown : Bool) (channel : Channel) (ok : Bool) :
    ClosePoint → Driver
  | .start =>
    match s.context.closeSection channel with
    | (some handle, context) =>
      { s with context, operation := .close shutdown channel (.send handle) }
    | (none, _) => { s with operation := afterClose shutdown channel }
  | .send handle =>
    if ok then
      { s with
        operation := .close shutdown channel .sent
        isOpen := fun r => s.isOpen r && handle != some r }
    else { s with operation := .close shutdown channel .reset }
  | .sent => { s with operation := .close shutdown channel .reset }
  | .reset =>
    { s with
      context := s.context.resetLocked channel
      operation := afterClose shutdown channel }

/-- The function that holds the operation lock takes its next step. -/
def operate (s : Driver) (ok : Bool) : Driver :=
  match s.operation with
  | .free => s
  | .register =>
    if s.context.serverRegistered then
      { s with context := s.context.reuseServer, operation := .free }
    else { s with operation := .registerSend }
  | .registerSend =>
    if ok then
      { s with
        context := s.context.setEvent .incomingSignaling false
        operation := .registerSent }
    else { s with operation := .free }
  | .registerSent =>
    { s with context := s.context.serverRegisterCompleted ok, operation := .free }
  | .unregister worker =>
    let drained := { s with context := s.context.drainServer worker }
    if s.context.serverRegistered then { drained with operation := .unregisterSend worker }
    else drained.unregistered worker .success
  | .unregisterSend worker =>
    if ok then { s with operation := .unregisterSent worker }
    else s.unregistered worker .unsuccessful
  | .unregisterSent worker =>
    { s with context := s.context.serverUnregisterCompleted ok }.unregistered worker
      (if ok then .success else .unsuccessful)
  | .capture =>
    { s with
      context := { s.context with shuttingDown := true }
      operation := .rundown s.context.request shutdownActs }
  | .rundown captured (act :: acts) => s.shutdownAct captured acts act
  | .rundown _ [] => { s with operation := .close true .media .start }
  | .close shutdown channel point => s.closeStep shutdown channel ok point
  | .endShutdown =>
    { s with
      context := s.context.endShutdown
      operation := .free
      suspended := s.suspended || !s.context.pnpStarted }

/-- A function that takes the operation lock starts when the lock is free. -/
def start (s : Driver) (function : OperationStart) : Driver :=
  match s.operation, function with
  | .free, .register => { s with operation := .register }
  | .free, .unregister => { s with operation := .unregister false }
  | .free, .rundownWorker =>
    if s.context.serverRundownQueued ∧ s.worker = .idle then
      { s with operation := .unregister true, worker := .unregisters }
    else s
  | .free, .closeChannels => { s with operation := .close false .media .start }
  | .free, .shutdown => { s with operation := .capture }
  | _, _ => s

end Driver

/-! ## Steps -/

inductive DriverStep where
  /-- a request comes: an IOCTL that passed its checks, or a connection of the headset -/
  | enter (r : RequestId) (kind : RequestKind)
  /-- a request takes its next step -/
  | advance (r : RequestId) (ok : Bool)
  /-- the headset disconnects a channel -/
  | disconnect (r : RequestId)
  /-- `LdacNativeSetLifecycleState(TRUE, FALSE)` or `(FALSE, TRUE)` -/
  | lifecycle (started : Bool)
  /-- a function takes the operation lock -/
  | start (function : OperationStart)
  /-- the function that holds it takes its next step -/
  | operate (ok : Bool)
  /-- the rundown worker ends -/
  | workerReports
  deriving DecidableEq, Repr

namespace Driver

/-- A request may come: those that open signaling find the device ready, those of the headset a
    server. -/
def admits (s : Driver) : RequestKind → Bool
  | .openSignaling => s.context.inboundSignalingReady
  | .incomingSignaling => s.context.serverRegistered
  | _ => true

def enter (s : Driver) (r : RequestId) (kind : RequestKind) : Driver :=
  if (s.requests r).point = .unborn ∧ s.admits kind then
    s.setRequest r { kind, point := .entered, reference := { taken := 1 } }
  else s

/-- The channel that a step of a request opens -/
def opens (s : Driver) (r : RequestId) (ok : Bool) : Bool :=
  (s.requests r).point == .sent && !(s.requests r).kind.isTransfer && ok && !s.disconnected r

def advance (s : Driver) (r : RequestId) (ok : Bool) : Driver :=
  let advanced := s.context.advance r (s.requests r) ok
  { s.setRequest r advanced.1 with
    context := advanced.2
    isOpen := Function.update s.isOpen r (s.isOpen r || s.opens r ok) }

/-- `IndicationRemoteDisconnect`, at most once for a channel, and not before its BRB is sent -/
def disconnect (s : Driver) (r : RequestId) : Driver :=
  if (s.requests r).submitted ∧ ¬ (s.requests r).kind.isTransfer ∧ ¬ s.disconnected r then
    { s.setOpen r false with
      context := s.context.remoteDisconnect (s.requests r).kind.channel
      disconnected := Function.update s.disconnected r true }
  else s

def lifecycle (s : Driver) (started : Bool) : Driver :=
  { s with
    context := s.context.setLifecycleState started (!started)
    suspended := s.suspended && !started }

def workerReports (s : Driver) : Driver :=
  match s.worker with
  | .reports status =>
    { s with context := s.context.reportRundown status, worker := .idle }
  | _ => s

end Driver

def transport : Reducer Driver DriverStep Unit where
  step s step := ((),
    match step with
    | .enter r kind => s.enter r kind
    | .advance r ok => s.advance r ok
    | .disconnect r => s.disconnect r
    | .lifecycle started => s.lifecycle started
    | .start function => s.start function
    | .operate ok => s.operate ok
    | .workerReports => s.workerReports)

/-- The device starts and registers its server, and the headset opens the signaling channel. -/
def headsetConnects : List DriverStep :=
  [.lifecycle true, .start .register, .operate true, .operate true, .operate true,
    .enter 0 .incomingSignaling, .advance 0 true, .advance 0 true, .advance 0 true,
    .advance 0 true, .advance 0 true]

end NativeLdac.Transport
