/-
  The diagnostic of the direct PDO at run time
  (`direct-pdo/src/nativeldac_direct_pdo_diagnostic.c`): the sections under its lock, its workers
  and the arbiter that it shares with render, in any order.

  * `discover` is the exchange of a Discover (`NldBthSignalingDiscover`);
  * `DiagnosticRuntime` and its operations, `diagnosticRuntime` the machine they make;
  * `Sound` holds in every state that is reached, with `Told` of the result.

  The signaling channel is outside: it answers anything.
-/
import NativeLdac.DirectPdo.AvdtpTransaction
import NativeLdac.DirectPdo.Diagnostic
import NativeLdac.DirectPdo.Worker

namespace NativeLdac.DirectPdo

open NativeLdac.Protocol
open NldDirectPdoArbiterState NldDirectPdoArbiterClient NldDirectPdoArbiterAcquireResult

/-! ## The signaling channel -/

/-- A status of the diagnostic; `none` is `STATUS_NOT_SUPPORTED`. -/
abbrev DiagnosticStatus := Option NtStatus

def DiagnosticStatus.ntSuccess (status : DiagnosticStatus) : Bool := status.any NtStatus.ntSuccess

/-- `NldBthSignalingMapAvdtpStatus` -/
def mapAvdtpStatus : NldAvdtpTransactionStatus → DiagnosticStatus
  | .ok => some .success
  | .invalidArgument => some .invalidParameter
  | .busy => some .deviceBusy
  | .unsupportedFragment => none
  | .rejected => some .requestNotAccepted
  | .stale => some .retry
  | .faulted => some .invalidDeviceState
  | .truncated | .unexpectedResponse => some .deviceProtocolError

/-- What the signaling channel answers while an action is carried out. -/
structure SignalingAnswers where
  opened : NtStatus := .success
  drained : NtStatus := .success
  isOpen : Bool := true
  lastOpenStatus : NtStatus := .success
  closed : NtStatus := .success
  written : NtStatus := .success
  read : NtStatus := .success
  response : List UInt8 := []
deriving DecidableEq, Repr

/-- `NldBthSignalingDiscover`: the status, the response and where its payload begins. -/
def discover (answers : SignalingAnswers) : DiagnosticStatus × List UInt8 × Nat :=
  let begun := ({} : NldAvdtpTransaction).reset.begin_ avdtpSignalDiscover 2
  let status := mapAvdtpStatus begun.1.1
  if ¬ status.ntSuccess ∨ begun.1.2.1.length ≠ 2 then
    (if status.ntSuccess then some .deviceProtocolError else status, [], 0)
  else if ¬ answers.written.ntSuccess then (some answers.written, [], 0)
  else if ¬ answers.read.ntSuccess then (some answers.read, [], 0)
  else
    let accepted := begun.2.acceptResponse begun.1.2.2 answers.response
    let status := mapAvdtpStatus accepted.1.1
    if ¬ status.ntSuccess ∨ accepted.1.2 > answers.response.length then
      (if status.ntSuccess then some .deviceProtocolError else status, [], 0)
    else (some .success, answers.response, accepted.1.2)

/-- `NldDirectPdoDiagnosticRuntimeExecute` -/
def runtimeExecute (action : NldDirectPdoDiagnosticAction) (answers : SignalingAnswers) :
    DiagnosticStatus × List UInt8 × Nat :=
  match action with
  | .open_ =>
    let status := if answers.opened = .pending then answers.drained else answers.opened
    if status.ntSuccess ∧ ¬ answers.isOpen then
      (some (if answers.lastOpenStatus.ntSuccess then .deviceNotReady else answers.lastOpenStatus),
        [], 0)
    else (some status, [], 0)
  | .discover => discover answers
  | .close | .cancelAndClose => (some answers.closed, [], 0)
  | .none => (some .invalidParameter, [], 0)

/-! ## The context -/

def diagnosticResponsePrefix : Nat := 32

def responsePrefixOf (response : List UInt8) : List UInt8 :=
  (response ++ .replicate diagnosticResponsePrefix 0).take diagnosticResponsePrefix

/-- `NLD_DIRECT_PDO_DIAGNOSTIC_CONTEXT`, as `NldDirectPdoDiagnosticRuntimeInitialize` leaves it; the
    pointers are set exactly while it is started. -/
structure NldDirectPdoDiagnosticContext where
  idleEvent : Bool := true
  owner : NldDirectPdoDiagnosticOwner := {}
  responsePrefix : List UInt8 := responsePrefixOf []
  responseLength : Nat := 0
  payloadOffset : Nat := 0
  resultGeneration : UInt32 := 0
  arbiterGeneration : UInt32 := 0
  lastAction : NldDirectPdoDiagnosticAction := .none
  lastStatus : DiagnosticStatus := none
  discoverStatus : DiagnosticStatus := none
  closeStatus : DiagnosticStatus := none
  responseTruncated : Bool := false
  started : Bool := false
deriving DecidableEq, Repr

namespace NldDirectPdoDiagnosticContext

variable (context : NldDirectPdoDiagnosticContext)

def withResponse (response : List UInt8) (payloadOffset : Nat) : NldDirectPdoDiagnosticContext :=
  { context with
    responsePrefix := responsePrefixOf response
    responseLength := response.length
    payloadOffset
    responseTruncated := response.length > diagnosticResponsePrefix }

def withStatus (status : DiagnosticStatus) : NldDirectPdoDiagnosticContext :=
  { context.withResponse [] 0 with
    lastStatus := status, discoverStatus := status, closeStatus := status }

/-- `NldDirectPdoDiagnosticRuntimeStart`, under the lock -/
def runtimeStart : NtStatus × NldDirectPdoDiagnosticContext :=
  if context.started then (.invalidDeviceState, context)
  else
    (.success, { context.withStatus none with
      started := true
      lastAction := .none
      resultGeneration := 0
      arbiterGeneration := 0
      idleEvent := true
      owner := context.owner.onPnpStart.2 })

/-- `NldDirectPdoDiagnosticRuntimeWorker`, after an action -/
def executed (action : NldDirectPdoDiagnosticAction) (generation : UInt32)
    (result : DiagnosticStatus × List UInt8 × Nat) : NldDirectPdoDiagnosticContext :=
  let context := { context with
    lastAction := action
    lastStatus := result.1
    owner := (context.owner.completeAction generation action result.1.ntSuccess).2 }
  match action with
  | .discover =>
    let context := { context with discoverStatus := result.1 }
    if result.1.ntSuccess then
      { context.withResponse result.2.1 result.2.2 with resultGeneration := generation }
    else context.withResponse [] 0
  | .close | .cancelAndClose => { context with closeStatus := result.1 }
  | _ => context

end NldDirectPdoDiagnosticContext

/-! ## The machine -/

/-- What a worker does next. -/
inductive DiagnosticTask where
  | take
  | execute (action : NldDirectPdoDiagnosticAction) (generation : UInt32)
deriving DecidableEq, Repr

/-- Where `NldDirectPdoDiagnosticRuntimeStop` is, if it runs. -/
inductive DiagnosticStop where
  | rest | wait | finish
deriving DecidableEq, Repr

structure DiagnosticRuntime where
  context : NldDirectPdoDiagnosticContext := {}
  arbiter : NldDirectPdoArbiterContext := {}
  workers : List DiagnosticTask := []
  stop : DiagnosticStop := .rest
deriving DecidableEq, Repr

namespace DiagnosticRuntime

variable (s : DiagnosticRuntime)

def releaseGrant : DiagnosticRuntime :=
  { s with
    arbiter := (s.arbiter.runtimeRelease clientDiagnostic s.context.arbiterGeneration).2
    context := { s.context with arbiterGeneration := 0 } }

/-- The owner has answered with a command, and a worker is queued if it says so. -/
def commanded (result : NldDirectPdoDiagnosticCommand × NldDirectPdoDiagnosticOwner) :
    DiagnosticRuntime :=
  let queues := result.1 = .queueWorker
  { s with
    context := { s.context with
      owner := result.2, idleEvent := s.context.idleEvent && ¬ queues }
    workers := if queues then s.workers ++ [.take] else s.workers }

/-- `NldDirectPdoDiagnosticRuntimeStart`, which gets its allocations or does not. -/
def runtimeStart (signalingClosed allocated : Bool) : NtStatus × DiagnosticRuntime :=
  if ¬ s.arbiter.started ∨ ¬ s.arbiter.owner.pnpStarted ∨ s.arbiter.owner.stopRequested ∨
      ¬ signalingClosed then (.deviceNotReady, s)
  else if ¬ allocated then (.insufficientResources, s)
  else s.context.runtimeStart.map id fun context => { s with context }

def runtimeRequestDiscover : NtStatus × DiagnosticRuntime :=
  if ¬ s.context.started ∨ s.context.owner.stopRequested then (.deviceNotReady, s)
  else if s.context.arbiterGeneration ≠ 0 then (.deviceBusy, s)
  else
    let acquired := s.arbiter.runtimeTryAcquire clientDiagnostic
    if acquired.1.1 = acquireRejected then (.deviceBusy, { s with arbiter := acquired.2 })
    else
      let requested := s.context.owner.requestDiscover
      let granted := { s.context with
        owner := requested.2, arbiterGeneration := acquired.1.2 }
      if requested.1 = .queueWorker then
        (.success, { s with
          arbiter := acquired.2
          context := { granted.withStatus (some .pending) with
            resultGeneration := requested.2.generation, idleEvent := false }
          workers := s.workers ++ [.take] })
      else (.deviceBusy, releaseGrant { s with arbiter := acquired.2, context := granted })

/-- `NldDirectPdoDiagnosticRuntimePreempt`, up to its wait -/
def runtimePreempt : NtStatus × DiagnosticRuntime :=
  if ¬ s.context.started ∨ s.context.owner.stopRequested then (.deviceNotReady, s)
  else
    let result := s.context.owner.requestCancel
    (if result.1 = .none ∧ ¬ result.2.cancelRequested then .deviceBusy else .pending,
      s.commanded result)

/-- `NldDirectPdoDiagnosticRuntimeWorker`: a worker takes an action, ends, or carries one out. -/
def worker (i : Nat) (answers : SignalingAnswers) (signalingClosed : Bool) : DiagnosticRuntime :=
  match s.workers[i]? with
  | none => s
  | some .take =>
    let taken := s.context.owner.takeAction
    let s : DiagnosticRuntime := { s with context := { s.context with owner := taken.2 } }
    if taken.1.1 = .none then
      let s := if s.context.arbiterGeneration ≠ 0 ∧ signalingClosed then s.releaseGrant else s
      { s with
        context := { s.context with idleEvent := true }
        workers := s.workers.eraseIdx i }
    else { s with workers := s.workers.set i (.execute taken.1.1 taken.1.2) }
  | some (.execute action generation) =>
    { s with
      context := s.context.executed action generation (runtimeExecute action answers)
      workers := s.workers.set i .take }

/-- `NldDirectPdoDiagnosticRuntimeStop`, up to its wait -/
def runtimeStop : DiagnosticRuntime :=
  if s.context.started then { s.commanded s.context.owner.onPnpStop with stop := .wait } else s

/-- `NldDirectPdoDiagnosticRuntimeStop`: its wait ends, or what is behind it. -/
def stopStep : DiagnosticRuntime :=
  match s.stop with
  | .rest => s
  | .wait => if s.context.idleEvent then { s with stop := .finish } else s
  | .finish =>
    let s := if s.context.arbiterGeneration ≠ 0 then s.releaseGrant else s
    { s with context := { s.context with started := false }, stop := .rest }

end DiagnosticRuntime

/-- The adapter starts and stops the arbiter and the diagnostic one after the other, the
    diagnostic while the arbiter is started. -/
inductive DiagnosticRuntimeOp where
  | arbiterStart
  | arbiterStop
  | setRenderDemand (active : Bool)
  | renderAcquire
  | renderRelease (generation : UInt32)
  | start (signalingClosed allocated : Bool)
  | requestDiscover
  | preempt
  | worker (i : Nat) (answers : SignalingAnswers) (signalingClosed : Bool)
  | stop
  | stopStep
deriving DecidableEq, Repr

/-- What a call returns, of those that return a status. -/
def diagnosticRuntime : Reducer DiagnosticRuntime DiagnosticRuntimeOp (Option NtStatus) where
  step s
    | .arbiterStart => (none, { s with arbiter := s.arbiter.runtimeStart })
    | .arbiterStop =>
      (none, if s.context.started then s else { s with arbiter := s.arbiter.runtimeStop })
    | .setRenderDemand active =>
      (none, { s with arbiter := (s.arbiter.runtimeSetRenderDemand active).2 })
    | .renderAcquire => (none, { s with arbiter := (s.arbiter.runtimeTryAcquire clientRender).2 })
    | .renderRelease generation =>
      (none, { s with arbiter := (s.arbiter.runtimeRelease clientRender generation).2 })
    | .start signalingClosed allocated =>
      if s.stop = .rest then (s.runtimeStart signalingClosed allocated).map some id else (none, s)
    | .requestDiscover => s.runtimeRequestDiscover.map some id
    | .preempt => s.runtimePreempt.map some id
    | .worker i answers signalingClosed => (none, s.worker i answers signalingClosed)
    | .stop => (none, if s.stop = .rest then s.runtimeStop else s)
    | .stopStep => (none, s.stopStep)

/-! ## The grant -/

/-- The generation that the diagnostic keeps is that of its grant; zero is none. -/
structure Lent (owner : NldDirectPdoArbiterOwner) (generation : UInt32) : Prop where
  coherent : owner.Coherent
  client : owner.client = clientDiagnostic ↔ generation ≠ 0
  number : generation ≠ 0 → owner.activeGeneration = generation

/-- The arbiter has a grant for the diagnostic. -/
def NldDirectPdoArbiterContext.Available (arbiter : NldDirectPdoArbiterContext) : Prop :=
  arbiter.started ∧ arbiter.owner.pnpStarted ∧ ¬ arbiter.owner.stopRequested ∧
    ¬ arbiter.owner.renderDemand ∧ arbiter.owner.client = clientNone ∧
    arbiter.owner.state = arbiterIdle

section
variable {owner owner' : NldDirectPdoArbiterOwner} {generation : UInt32} {op : NldDirectPdoArbiterOp}
variable {arbiter : NldDirectPdoArbiterContext} {answer : NldDirectPdoArbiterAnswer}

open NldDirectPdoArbiterOwner (coherent_effect nextArbiterGeneration_ne_zero)

/-- What others do to the arbiter leaves the grant alone. -/
theorem Lent.effect (h : Lent owner generation) (heffect : ArbiterEffect owner op (answer, owner'))
    (hacquire : op ≠ .tryAcquire clientDiagnostic)
    (hrelease : ∀ stale, op ≠ .release clientDiagnostic stale) (hforce : op ≠ .forceOffline) :
    Lent owner' generation := by
  have hcoherent := coherent_effect h.coherent heffect
  obtain ⟨-, hclient, hnumber⟩ := h
  cases heffect with
  | refused | started | stopped | stopping | demanded => exact ⟨hcoherent, hclient, hnumber⟩
  | granted | released => refine ⟨hcoherent, ?_, ?_⟩ <;> simp_all
  | forced => exact absurd rfl hforce

/-- The diagnostic is granted the channel exactly if it is available. -/
theorem acquire_cases (h : Lent arbiter.owner 0) :
    (arbiter.Available ∧ ∃ owner generation, generation ≠ 0 ∧ Lent owner generation ∧
      arbiter.runtimeTryAcquire clientDiagnostic =
        ((acquireGranted, generation), { arbiter with owner })) ∨
    ¬ arbiter.Available ∧
      arbiter.runtimeTryAcquire clientDiagnostic = ((acquireRejected, 0), arbiter) := by
  have hclient := mt h.client.mp (not_not.mpr rfl)
  unfold NldDirectPdoArbiterContext.runtimeTryAcquire NldDirectPdoArbiterOwner.tryAcquire
  by_cases havailable : arbiter.Available
  · obtain ⟨hstarted, hpnp, hstop, hdemand, hfree, hidle⟩ := id havailable
    have hne := nextArbiterGeneration_ne_zero arbiter.owner.generation
    have hgranted := ArbiterEffect.granted hpnp hfree hidle
      (show clientDiagnostic ≠ clientNone by nofun) fun _ => eq_false_of_ne_true hdemand
    exact .inl ⟨havailable, _, _, hne,
      ⟨coherent_effect h.coherent hgranted, iff_of_true rfl hne, fun _ => rfl⟩,
      by simp [hstarted, hpnp, hstop, hdemand, hfree, hidle]⟩
  · refine .inr ⟨havailable, ?_⟩
    unfold NldDirectPdoArbiterContext.Available at havailable
    rcases arbiter with ⟨owner, _ | _⟩
    · rfl
    · split_ifs <;> simp_all

theorem Lent.release (h : Lent arbiter.owner generation) (hstarted : arbiter.started)
    (hne : generation ≠ 0) :
    Lent (arbiter.runtimeRelease clientDiagnostic generation).2.owner 0 ∧
      (arbiter.runtimeRelease clientDiagnostic generation).2.started := by
  have hclient := h.client.mpr hne
  obtain rfl := h.number hne
  have hreleased : (arbiter.owner.release clientDiagnostic arbiter.owner.activeGeneration).2 =
      { arbiter.owner with
        client := clientNone
        activeGeneration := 0
        state := if arbiter.owner.stopRequested then arbiterOffline else arbiterIdle
        stopRequested := false } := by
    unfold NldDirectPdoArbiterOwner.release
    rw [if_neg (by simp [hclient, hne])]
    cases arbiter.owner.stopRequested <;> simp
  rw [NldDirectPdoArbiterContext.runtimeRelease, if_pos hstarted]
  refine ⟨?_, hstarted⟩
  dsimp only
  rw [hreleased]
  exact ⟨coherent_effect h.coherent
    (.released (by rw [hclient]; decide) hne), iff_of_false (by simp) (not_not.mpr rfl),
    fun h => absurd rfl h⟩

end

/-! ## The workers -/

namespace NldDirectPdoDiagnosticOwner

/-- The worker of an owner, with what it does next. -/
def tasks (owner : NldDirectPdoDiagnosticOwner) : List DiagnosticTask :=
  if owner.workerOwned then
    [if owner.activeAction = .none then .take
      else .execute owner.activeAction owner.activeGeneration]
  else []

/-- There is nothing left for the owner to do but the last close. -/
structure Ending (owner : NldDirectPdoDiagnosticOwner) : Prop where
  down : owner.pnpStarted = false
  closes : ∀ action, owner.Holds action → action = .none ∨ action = .cancelAndClose

def Requestable (owner : NldDirectPdoDiagnosticOwner) : Prop :=
  owner.pnpStarted ∧ owner.stopRequested = false ∧ owner.cancelRequested = false ∧
    owner.workerOwned = false ∧ owner.activeAction = .none ∧
    (owner.state = .idle ∨ owner.state = .complete ∨ owner.state = .faulted)

theorem requestDiscover_cases (owner : NldDirectPdoDiagnosticOwner) :
    owner.Requestable ∧ owner.requestDiscover = (.queueWorker, { owner with
        generation := nldDirectPdoDiagnosticNextGeneration owner.generation
        state := .opening
        pendingAction := .open_
        discoverSucceeded := false
        lastCloseSucceeded := false
        workerOwned := true }) ∨
      ¬ owner.Requestable ∧ owner.requestDiscover = (.none, owner) := by
  unfold Requestable requestDiscover ownWorker
  split_ifs <;> grind

theorem finished_worker (owner : NldDirectPdoDiagnosticOwner)
    (action : NldDirectPdoDiagnosticAction) (succeeded : Bool) :
    (owner.finished action succeeded).workerOwned = owner.workerOwned ∧
      (owner.finished action succeeded).activeAction = .none := by
  unfold finished
  dsimp only
  split_ifs <;> cases action <;> exact ⟨rfl, rfl⟩

end NldDirectPdoDiagnosticOwner

/-! ## The result -/

theorem mapAvdtpStatus_ntSuccess (status : NldAvdtpTransactionStatus) :
    (mapAvdtpStatus status).ntSuccess ↔ status = .ok := by
  cases status <;> decide

/-- A Discover that succeeds has got a response that accepts it. -/
theorem discover_succeeds {answers : SignalingAnswers} (h : (discover answers).1.ntSuccess) :
    (⟨0, avdtpSignalDiscover⟩ : AvdtpCommand).AcceptedBy answers.response ∧
      discover answers = (some .success, answers.response, 2) := by
  have hbegun : ({} : NldAvdtpTransaction).reset.begin_ avdtpSignalDiscover 2 =
      ((.ok, [0, avdtpSignalDiscover], 1), { ({} : NldAvdtpTransaction).reset with
        nextLabel := 1, pendingSignalId := avdtpSignalDiscover, pending := true }) := by
    decide
  unfold discover at h ⊢
  simp only [hbegun] at h ⊢
  rw [if_neg (by decide)] at h ⊢
  by_cases hwritten : answers.written.ntSuccess
  swap
  · rw [if_pos hwritten] at h
    exact absurd h hwritten
  by_cases hread : answers.read.ntSuccess
  swap
  · rw [if_neg (not_not.mpr hwritten), if_pos hread] at h
    exact absurd h hread
  rw [if_neg (not_not.mpr hwritten), if_neg (not_not.mpr hread)] at h ⊢
  rcases NldAvdtpTransaction.acceptResponse_cases _ 1 answers.response with
    ⟨status, haccept, hfailed, -⟩ | ⟨status, _, haccept, command, hpends, -, hok, -⟩ <;>
    rw [haccept] at h ⊢
  · have hno := mt (mapAvdtpStatus_ntSuccess status).mp hfailed
    rw [if_pos (.inl hno), if_neg hno] at h
    exact absurd h hno
  · by_cases hstatus : status = .ok
    · have hcommand : command = ⟨0, avdtpSignalDiscover⟩ :=
        AvdtpCommand.mk.injEq .. ▸ ⟨hpends.label.symm, hpends.signal.symm⟩
      have haccepted := hok.mp hstatus
      rw [hstatus, if_neg]
      · exact ⟨hcommand ▸ haccepted, rfl⟩
      · rintro (hno | hlong)
        · exact hno ((mapAvdtpStatus_ntSuccess .ok).mpr rfl)
        · exact absurd (isSingle_iff.mp haccepted).1 (not_le_of_gt hlong)
    · have hno := mt (mapAvdtpStatus_ntSuccess status).mp hstatus
      rw [if_pos (.inl hno), if_neg hno] at h
      exact absurd h hno

namespace NldDirectPdoDiagnosticContext

open NldDirectPdoDiagnosticOwner

variable {context : NldDirectPdoDiagnosticContext}

/-- The result is that of a response that accepts the Discover of the owner's generation. -/
def Reports (context : NldDirectPdoDiagnosticContext) (response : List UInt8) : Prop :=
  (⟨0, avdtpSignalDiscover⟩ : AvdtpCommand).AcceptedBy response ∧
    context.discoverStatus = some .success ∧
    context.resultGeneration = context.owner.generation ∧
    context.responsePrefix = responsePrefixOf response ∧
    context.responseLength = response.length ∧ context.payloadOffset = 2 ∧
    context.responseTruncated = decide (response.length > diagnosticResponsePrefix)

/-- What every step keeps of the result. -/
structure Told (context : NldDirectPdoDiagnosticContext) : Prop where
  fresh : context.owner.Holds .open_ ∨ context.owner.Holds .discover →
    context.owner.discoverSucceeded = false
  reported : context.owner.discoverSucceeded → ∃ response, context.Reports response
  complete : context.owner.state = .complete → context.owner.discoverSucceeded

/-- The owner moves on without a new result. -/
structure Moves (owner owner' : NldDirectPdoDiagnosticOwner) : Prop where
  holds : owner'.Holds .open_ ∨ owner'.Holds .discover → owner.Holds .open_ ∨ owner.Holds .discover
  succeeded : owner'.discoverSucceeded = owner.discoverSucceeded
  generation : owner'.generation = owner.generation
  state : owner'.state = .complete → owner.state = .complete ∨ owner.discoverSucceeded

theorem Told.moves (h : context.Told) {owner : NldDirectPdoDiagnosticOwner}
    (hmoves : Moves context.owner owner) : Told { context with owner } where
  fresh hheld := hmoves.succeeded.trans (h.fresh (hmoves.holds hheld))
  reported hsucceeded :=
    have ⟨response, haccepted, hstatus, hgeneration, hrest⟩ :=
      h.reported (hmoves.succeeded ▸ hsucceeded)
    ⟨response, haccepted, hstatus, hgeneration.trans hmoves.generation.symm, hrest⟩
  complete hcomplete := hmoves.succeeded ▸ (hmoves.state hcomplete).elim h.complete id

theorem Told.keeps (h : context.Told) (idleEvent started : Bool) (arbiterGeneration : UInt32) :
    Told { context with idleEvent, started, arbiterGeneration } :=
  ⟨h.fresh, h.reported, h.complete⟩

theorem moves_effect {owner : NldDirectPdoDiagnosticOwner} {op : NldDirectPdoDiagnosticOp}
    {result : NldDirectPdoDiagnosticAnswer × NldDirectPdoDiagnosticOwner}
    (heffect : owner.Effect op result)
    (hop : op = .takeAction ∨ op = .requestCancel ∨ op = .pnpStop) : Moves owner result.2 := by
  cases heffect with
  | started | requested | finished => rcases hop with h | h | h <;> cases h
  | refused | untaken | unfinished | drained => exact ⟨id, rfl, rfl, .inl⟩
  | stopped | cancelled => exact ⟨by grind [Holds], rfl, rfl, nofun⟩
  | took _ _ hactive => exact ⟨by simp [Holds, hactive], rfl, rfl, .inl⟩

theorem moves_finished {owner : NldDirectPdoDiagnosticOwner} (hactive : owner.activeAction ≠ .none)
    (hdiscover : owner.activeAction ≠ .discover) (succeeded : Bool) :
    Moves owner (owner.finished owner.activeAction succeeded) := by
  unfold finished
  dsimp only
  split_ifs <;> cases haction : owner.activeAction <;>
    constructor <;> simp_all [Holds]

theorem Told.executed (h : context.Told) (htrack : context.owner.OnTrack)
    (hactive : context.owner.activeAction ≠ .none) (answers : SignalingAnswers) :
    Told (context.executed context.owner.activeAction context.owner.activeGeneration
      (runtimeExecute context.owner.activeAction answers)) := by
  unfold NldDirectPdoDiagnosticContext.executed
  rw [NldDirectPdoDiagnosticOwner.completeAction, if_neg (by simp [hactive])]
  by_cases hdiscover : context.owner.activeAction = .discover
  · have hnone := h.fresh (.inr (.inr hdiscover))
    rw [hdiscover, htrack.current hactive]
    by_cases hredirected : context.owner.stopRequested ∨ context.owner.cancelRequested
    · obtain ⟨state, hstate, hfinished⟩ := finished_redirected
        (show NldDirectPdoDiagnosticAction.discover ≠ .cancelAndClose by decide) hredirected
        (runtimeExecute .discover answers).1.ntSuccess
      simp only [hfinished]
      have hne : state ≠ .complete := by rcases hstate with rfl | rfl <;> simp
      split_ifs <;> exact ⟨fun _ => hnone, fun hdone => (by cases hnone.symm.trans hdone),
        fun hcomplete => absurd hcomplete hne⟩
    · simp only [finished_discover hredirected]
      split_ifs with hsucceeded
      · obtain ⟨haccepted, hresult⟩ := discover_succeeds hsucceeded
        refine ⟨by simp [Holds, withResponse], fun _ => ⟨_, haccepted, ?_⟩, by simp [withResponse]⟩
        simp only [runtimeExecute, hresult]
        exact ⟨rfl, rfl, rfl, rfl, rfl, rfl⟩
      · exact ⟨by simp [Holds, withResponse], fun hdone => absurd hdone hsucceeded,
          by simp [withResponse]⟩
  · have hmoved := h.moves (moves_finished hactive hdiscover
      (runtimeExecute context.owner.activeAction answers).1.ntSuccess)
    cases haction : context.owner.activeAction <;> rw [haction] at hmoved
    case discover => exact absurd haction hdiscover
    all_goals exact ⟨hmoved.fresh, hmoved.reported, hmoved.complete⟩

end NldDirectPdoDiagnosticContext

namespace DiagnosticRuntime

open NldDirectPdoDiagnosticOwner NldDirectPdoDiagnosticContext

variable {s : DiagnosticRuntime}

/-- What every step keeps of the worker, the grant and the calls that start and stop. -/
structure Sound (s : DiagnosticRuntime) : Prop where
  onTrack : s.context.owner.OnTrack
  workers : s.workers = s.context.owner.tasks
  idle : s.context.idleEvent = !s.context.owner.workerOwned
  lent : Lent s.arbiter.owner s.context.arbiterGeneration
  started : s.context.started → s.arbiter.started
  offline : s.context.started = false → s.context.owner.state = .offline ∧
    s.context.owner.workerOwned = false ∧ s.context.arbiterGeneration = 0 ∧ s.stop = .rest
  stopping : s.stop ≠ .rest → s.context.owner.pnpStarted = false
  finish : s.stop = .finish → s.context.owner.workerOwned = false
  ungranted : s.context.arbiterGeneration = 0 → s.context.owner.workerOwned →
    s.context.owner.Ending
  told : s.context.Told

theorem sound_initialized : Sound {} where
  onTrack := NldDirectPdoDiagnosticOwner.onTrack_initialized
  workers := rfl
  idle := rfl
  lent := ⟨NldDirectPdoArbiterOwner.coherent_initialized, by decide, nofun⟩
  started := nofun
  offline _ := ⟨rfl, rfl, rfl, rfl⟩
  stopping h := absurd rfl h
  finish := nofun
  ungranted := nofun
  told := ⟨fun _ => rfl, nofun, nofun⟩

theorem Sound.arbitrates (h : s.Sound) {arbiter : NldDirectPdoArbiterContext}
    (hlent : Lent arbiter.owner s.context.arbiterGeneration)
    (hstarted : s.context.started → arbiter.started) : Sound { s with arbiter } :=
  { h with lent := hlent, started := hstarted }

/-- What others ask of the arbiter, if it is started. -/
theorem Sound.others (h : s.Sound) {arbiter : NldDirectPdoArbiterContext}
    (op : NldDirectPdoArbiterOp) (hacquire : op ≠ .tryAcquire clientDiagnostic)
    (hrelease : ∀ stale, op ≠ .release clientDiagnostic stale) (hforce : op ≠ .forceOffline)
    (hnext : arbiter = if s.arbiter.started then
      { s.arbiter with owner := DirectPdo.arbiter.next s.arbiter.owner op } else s.arbiter) :
    Sound { s with arbiter } := by
  subst hnext
  split_ifs
  · exact h.arbitrates (h.lent.effect (s.arbiter.owner.arbiter_effect op) hacquire hrelease hforce)
      h.started
  · exact h

theorem Sound.releaseGrant (h : s.Sound) (hne : s.context.arbiterGeneration ≠ 0)
    (hworker : s.context.owner.workerOwned = false) : s.releaseGrant.Sound := by
  have hstarted : s.context.started :=
    Bool.not_eq_false _ |>.mp fun hoff => hne (h.offline hoff).2.2.1
  obtain ⟨hlent, hon⟩ := h.lent.release (h.started hstarted) hne
  exact { h with
    lent := hlent
    started := fun _ => hon
    offline := fun hoff => by cases hstarted.symm.trans hoff
    ungranted := fun _ howned => by cases hworker.symm.trans howned
    told := h.told.keeps _ _ _ }

theorem Sound.moves (h : s.Sound) (op : NldDirectPdoDiagnosticOp)
    (hop : op = .takeAction ∨ op = .requestCancel ∨ op = .pnpStop)
    {owner : NldDirectPdoDiagnosticOwner} (hnext : diagnostic.next s.context.owner op = owner) :
    owner.OnTrack ∧ Told { s.context with owner } := by
  subst hnext
  have heffect := diagnostic_effect h.onTrack op
  exact ⟨heffect.onTrack h.onTrack, h.told.moves (moves_effect heffect hop)⟩

/-- Where a worker is, it is the one of the owner. -/
theorem Sound.worker_eq (h : s.Sound) {i : Nat} {task : DiagnosticTask}
    (htask : s.workers[i]? = some task) :
    s.context.owner.workerOwned ∧ i = 0 ∧ s.workers = [task] ∧
      task = if s.context.owner.activeAction = .none then .take
        else .execute s.context.owner.activeAction s.context.owner.activeGeneration := by
  have hworkers := h.workers
  unfold NldDirectPdoDiagnosticOwner.tasks at hworkers
  split at hworkers
  · rename_i howned
    rw [hworkers] at htask
    cases i with
    | zero =>
      obtain rfl := Option.some.inj htask
      exact ⟨howned, rfl, hworkers, rfl⟩
    | succ i => cases htask
  · rw [hworkers] at htask
    cases htask

theorem Sound.on (h : s.Sound) (howned : s.context.owner.workerOwned) {p : Prop}
    (hoff : s.context.started = false) : p := by
  cases howned.symm.trans (h.offline hoff).2.1

theorem Sound.take (h : s.Sound) {i : Nat} (htask : s.workers[i]? = some .take)
    (answers : SignalingAnswers) (signalingClosed : Bool) :
    (s.worker i answers signalingClosed).Sound := by
  obtain ⟨howned, rfl, hworkers, hactive⟩ := h.worker_eq htask
  have hactive : s.context.owner.activeAction = .none := by
    split at hactive
    · assumption
    · cases hactive
  obtain ⟨htrack, htold⟩ := h.moves .takeAction (.inl rfl) (rfl : _ = s.context.owner.takeAction.2)
  have hworks : ¬ (¬ s.context.owner.workerOwned ∨ s.context.owner.activeAction ≠ .none) := by
    simp [howned, hactive]
  simp only [worker, hworkers, List.getElem?_cons_zero]
  by_cases hpending : s.context.owner.pendingAction = .none
  · rw [takeAction, if_neg hworks, if_pos hpending] at htrack htold ⊢
    have hended : Sound { s with
        context := { s.context with
          owner := { s.context.owner with workerOwned := false }
          idleEvent := true }
        workers := [] } :=
      { h with
        onTrack := htrack, workers := rfl, idle := rfl, offline := h.on howned
        finish := fun _ => rfl, ungranted := fun _ howned => (by cases howned)
        told := htold.keeps _ _ _ }
    rw [if_pos rfl]
    split_ifs with hrelease
    · exact hended.releaseGrant hrelease.1 rfl
    · exact hended
  · rw [takeAction, if_neg hworks, if_neg hpending] at htrack htold ⊢
    rw [if_neg hpending]
    refine { h with
      onTrack := htrack, workers := ?_, offline := h.on howned, told := htold
      ungranted := fun hzero _ => ⟨(h.ungranted hzero howned).down, ?_⟩ }
    · simp [tasks, howned, hpending]
    · rintro action (hnone | haction)
      · exact .inl hnone.symm
      · exact (h.ungranted hzero howned).closes action (.inl haction)

theorem executed_frame (context : NldDirectPdoDiagnosticContext)
    (action : NldDirectPdoDiagnosticAction) (generation : UInt32)
    (result : DiagnosticStatus × List UInt8 × Nat) :
    (context.executed action generation result).owner =
        (context.owner.completeAction generation action result.1.ntSuccess).2 ∧
      (context.executed action generation result).idleEvent = context.idleEvent ∧
      (context.executed action generation result).arbiterGeneration = context.arbiterGeneration ∧
      (context.executed action generation result).started = context.started := by
  unfold NldDirectPdoDiagnosticContext.executed
  cases action <;> dsimp only <;> try split
  all_goals exact ⟨rfl, rfl, rfl, rfl⟩

theorem Sound.execute (h : s.Sound) {i : Nat} {action : NldDirectPdoDiagnosticAction}
    {generation : UInt32} (htask : s.workers[i]? = some (.execute action generation))
    (answers : SignalingAnswers) (signalingClosed : Bool) :
    (s.worker i answers signalingClosed).Sound := by
  obtain ⟨howned, rfl, hworkers, htask'⟩ := h.worker_eq htask
  split at htask'
  · cases htask'
  rename_i hactive
  cases htask'
  simp only [worker, hworkers, List.getElem?_cons_zero]
  obtain ⟨howner, hidle, hgrant, hstarted⟩ := executed_frame s.context
    s.context.owner.activeAction s.context.owner.activeGeneration
    (runtimeExecute s.context.owner.activeAction answers)
  rw [completeAction, if_neg (by simp [hactive])] at howner
  have htold := h.told.executed h.onTrack hactive answers
  generalize s.context.executed _ _ _ = context at *
  dsimp only at howner
  have htrack := onTrack_finished h.onTrack hactive
    (runtimeExecute s.context.owner.activeAction answers).1.ntSuccess
  have hkept := finished_worker s.context.owner s.context.owner.activeAction
    (runtimeExecute s.context.owner.activeAction answers).1.ntSuccess
  have hdown := @finished_pnpStarted s.context.owner s.context.owner.activeAction
    (runtimeExecute s.context.owner.activeAction answers).1.ntSuccess
  refine { h with
    onTrack := by rwa [howner]
    workers := by simp [tasks, howner, hkept, howned]
    idle := by rw [hidle, howner, hkept.1, h.idle]
    lent := by rw [hgrant]; exact h.lent
    started := by rw [hstarted]; exact h.started
    offline := by rw [hstarted]; exact h.on howned
    stopping := fun hstop => by rw [howner]; exact hdown (h.stopping hstop)
    finish := fun hfinish => by cases howned.symm.trans (h.finish hfinish)
    told := htold
    ungranted := fun hzero _ => ?_ }
  obtain ⟨hnone, hcloses⟩ := h.ungranted (hgrant ▸ hzero) howned
  have hoffline := IsDown.finished_state ⟨h.onTrack, hnone⟩
    (runtimeExecute s.context.owner.activeAction answers).1.ntSuccess
  rw [← (hcloses _ (.inr rfl)).resolve_left hactive] at hoffline
  rw [howner]
  refine ⟨hdown hnone, fun action haction => .inl ?_⟩
  obtain ⟨hpending, hactive'⟩ := htrack.offline hoffline
  exact haction.elim (fun h => h.symm.trans hpending) fun h => h.symm.trans hactive'

/-- Without a grant the worker only closes. -/
theorem Sound.active_closes (h : s.Sound) (hzero : s.context.arbiterGeneration = 0) :
    s.context.owner.activeAction = .none ∨ s.context.owner.activeAction = .cancelAndClose := by
  cases howned : s.context.owner.workerOwned with
  | true => exact (h.ungranted hzero howned).closes _ (.inr rfl)
  | false => exact .inl (h.onTrack.worker howned).2

theorem Sound.rest_of_pnpStarted (h : s.Sound) (hpnp : s.context.owner.pnpStarted) :
    s.stop = .rest :=
  not_not.mp fun hstop => by cases hpnp.symm.trans (h.stopping hstop)

theorem Sound.preempt (h : s.Sound) : s.runtimePreempt.2.Sound := by
  obtain ⟨htrack, htold⟩ :=
    h.moves .requestCancel (.inr (.inl rfl)) (rfl : _ = s.context.owner.requestCancel.2)
  unfold runtimePreempt
  split_ifs with hrefused
  · exact h
  unfold commanded requestCancel at *
  split_ifs at htrack htold ⊢ with hno hactive
  · simpa using h
  all_goals
    simp only [not_or, Bool.not_eq_true, Bool.not_eq_false] at hno
    have hrest := h.rest_of_pnpStarted hno.1
    have hgranted : s.context.arbiterGeneration ≠ 0 := fun hzero => by
      cases hno.1.symm.trans (h.ungranted hzero hno.2.2.2).down
    refine { h with
      onTrack := htrack, workers := ?_, idle := ?_, offline := ?_, stopping := ?_, finish := ?_
      ungranted := ?_, told := htold.keeps _ _ _ } <;> simp_all [tasks, h.workers, h.idle]

theorem Sound.stops (h : s.Sound) (hrest : s.stop = .rest) : s.runtimeStop.Sound := by
  obtain ⟨htrack, htold⟩ :=
    h.moves .pnpStop (.inr (.inr rfl)) (rfl : _ = s.context.owner.onPnpStop.2)
  unfold runtimeStop
  split_ifs with hstarted
  swap
  · exact h
  have hoff : ∀ {p : Prop}, s.context.started = false → p := fun hoff => by
    cases hstarted.symm.trans hoff
  have hdown : s.context.owner.state = .offline ∨ s.context.owner.state = .stopping →
      { s.commanded (.none, s.context.owner) with stop := .wait : DiagnosticRuntime }.Sound :=
    fun hstate => { h with
      idle := by simp [commanded, h.idle]
      offline := hoff
      stopping := fun _ => h.onTrack.started.mpr hstate
      finish := nofun
      told := h.told.keeps _ _ _ }
  unfold onPnpStop ownWorker at *
  dsimp only at htrack htold ⊢
  split_ifs at htrack htold ⊢ with hoffline hstop hactive howned
  · exact hdown (.inl hoffline)
  · exact hdown (.inr (h.onTrack.stopped.mp hstop))
  all_goals
    refine { h with
      onTrack := htrack, workers := ?_, idle := ?_, offline := hoff, stopping := fun _ => rfl
      finish := nofun, told := htold.keeps _ _ _
      ungranted := fun hzero _ => ⟨rfl, fun action haction => haction.elim
        (fun hpending => .inr hpending.symm) fun hbusy => hbusy ▸ h.active_closes hzero⟩ }
    all_goals simp_all [commanded, tasks, h.workers, h.idle]

/-- A request is taken if there is a grant for it, or else leaves the context alone. -/
theorem Sound.request_cases (h : s.Sound) :
    (s.context.started ∧ s.arbiter.Available ∧ s.context.owner.Requestable) ∧
      (∃ owner generation, generation ≠ 0 ∧ Lent owner generation ∧
      s.runtimeRequestDiscover = (.success, { s with
        arbiter := { s.arbiter with owner }
        context := { s.context.withStatus (some .pending) with
          owner := s.context.owner.requestDiscover.2
          arbiterGeneration := generation
          resultGeneration := s.context.owner.requestDiscover.2.generation
          idleEvent := false }
        workers := s.workers ++ [.take] })) ∨
    ¬ (s.context.started ∧ s.arbiter.Available ∧ s.context.owner.Requestable) ∧
      ∃ status arbiter, s.runtimeRequestDiscover = (status, { s with arbiter }) ∧
        status ≠ .success ∧ Lent arbiter.owner s.context.arbiterGeneration ∧
        (s.context.started → arbiter.started) := by
  unfold runtimeRequestDiscover
  by_cases hrefused : ¬ s.context.started ∨ s.context.owner.stopRequested
  · rw [if_pos hrefused]
    refine .inr ⟨fun htaken => ?_, _, s.arbiter, rfl, nofun, h.lent, h.started⟩
    exact hrefused.elim (fun hoff => hoff htaken.1) (by simp [htaken.2.2.2.1])
  rw [if_neg hrefused]
  by_cases hbusy : s.context.arbiterGeneration ≠ 0
  · rw [if_pos hbusy]
    refine .inr ⟨fun htaken => ?_, _, s.arbiter, rfl, nofun, h.lent, h.started⟩
    cases htaken.2.1.2.2.2.2.1.symm.trans (h.lent.client.mpr hbusy)
  rw [if_neg hbusy]
  rw [not_or, not_not] at hrefused
  rw [not_not] at hbusy
  have hlent : Lent s.arbiter.owner 0 := hbusy ▸ h.lent
  rcases acquire_cases hlent with
    ⟨havailable, owner, generation, hne, hgrant, hacquire⟩ | ⟨hno, hacquire⟩ <;> rw [hacquire]
  · rw [if_neg nofun]
    rcases requestDiscover_cases s.context.owner with ⟨hrequest, hasked⟩ | ⟨hno, hasked⟩ <;>
      rw [hasked]
    · exact .inl ⟨⟨hrefused.1, havailable, hrequest⟩, _, _, hne, hgrant, if_pos rfl⟩
    · have hreleased := @Lent.release generation { s.arbiter with owner } hgrant
        (h.started hrefused.1) hne
      have hsame : ({ s.context with arbiterGeneration := 0 } : NldDirectPdoDiagnosticContext) =
          s.context := by rw [← hbusy]
      rw [if_neg nofun]
      refine .inr ⟨fun htaken => hno htaken.2.2, .deviceBusy, _, ?_, nofun,
        hbusy ▸ hreleased.1, fun _ => hreleased.2⟩
      exact congrArg (fun context => (NtStatus.deviceBusy, ({ s with
        arbiter := (NldDirectPdoArbiterContext.runtimeRelease { s.arbiter with owner }
          clientDiagnostic generation).2
        context } : DiagnosticRuntime))) hsame
  · exact .inr ⟨fun htaken => hno htaken.2.1, _, s.arbiter, if_pos rfl, nofun, h.lent, h.started⟩

theorem Sound.request (h : s.Sound) : s.runtimeRequestDiscover.2.Sound := by
  rcases h.request_cases with ⟨⟨hstarted, -, hrequest⟩, _, _, hne, hlent, hresult⟩ |
    ⟨-, _, _, hresult, -, hlent, hon⟩ <;> rw [hresult]
  · have htrack : s.context.owner.requestDiscover.2.OnTrack :=
      (diagnostic_effect h.onTrack .requestDiscover).onTrack h.onTrack
    have hrest : s.stop = .rest := not_not.mp fun hstop => by
      cases hrequest.1.symm.trans (h.stopping hstop)
    rcases requestDiscover_cases s.context.owner with ⟨-, hasked⟩ | ⟨hno, -⟩
    swap
    · exact absurd hrequest hno
    rw [hasked] at htrack ⊢
    exact { h with
      onTrack := htrack
      workers := by simp [h.workers, tasks, hrequest.2.2.2.1, hrequest.2.2.2.2.1]
      idle := rfl
      lent := hlent
      offline := fun hoff => by cases hstarted.symm.trans hoff
      stopping := fun hstop => absurd hrest hstop
      finish := fun hfinish => by cases hrest.symm.trans hfinish
      ungranted := fun hzero => absurd hzero hne
      told := ⟨fun _ => rfl, nofun, nofun⟩ }
  · exact h.arbitrates hlent hon

theorem Sound.starts (h : s.Sound) (hrest : s.stop = .rest) (signalingClosed allocated : Bool) :
    (s.runtimeStart signalingClosed allocated).2.Sound := by
  have htrack : s.context.owner.onPnpStart.2.OnTrack :=
    (diagnostic_effect h.onTrack .pnpStart).onTrack h.onTrack
  unfold runtimeStart NldDirectPdoDiagnosticContext.runtimeStart
  split
  · exact h
  rename_i hrefused
  split
  · exact h
  split
  · exact h
  rename_i hstarted
  obtain ⟨hstate, hidle, hzero, -⟩ := h.offline (eq_false_of_ne_true hstarted)
  have hdown := h.onTrack.started.mpr (.inl hstate)
  rw [onPnpStart, if_neg (by simp [hdown, hstate, hidle, (h.onTrack.worker hidle).2])] at htrack ⊢
  exact
    { onTrack := htrack
      workers := by simp [h.workers, tasks, hidle]
      idle := by simp [hidle]
      lent := hzero ▸ h.lent
      started := fun _ => not_not.mp fun hoff => hrefused (.inl hoff)
      offline := fun hoff => by cases hoff
      stopping := fun hstop => absurd hrest hstop
      finish := fun _ => hidle
      ungranted := fun _ howned => by cases hidle.symm.trans howned
      told := ⟨fun _ => rfl, fun hdone => (by cases hdone), fun hdone => (by cases hdone)⟩ }

theorem Sound.stopStep (h : s.Sound) : s.stopStep.Sound := by
  unfold DiagnosticRuntime.stopStep
  split
  · exact h
  · rename_i hwait
    split_ifs with hidle
    · have hworker : s.context.owner.workerOwned = false := by simpa [hidle] using h.idle
      exact { h with
        offline := fun hoff => by cases hwait.symm.trans (h.offline hoff).2.2.2
        stopping := fun _ => h.stopping (by rw [hwait]; nofun)
        finish := fun _ => hworker }
    · exact h
  · rename_i hfinish
    have hworker := h.finish hfinish
    have hoffline : s.context.owner.state = .offline :=
      (h.onTrack.started.mp (h.stopping (by rw [hfinish]; nofun))).resolve_right fun hstate => by
        simpa [Holds, h.onTrack.worker hworker] using h.onTrack.stopping hstate
    have hended : ∀ t : DiagnosticRuntime, t.Sound → t.context.arbiterGeneration = 0 →
        t.context.owner = s.context.owner →
        Sound { t with context := { t.context with started := false }, stop := .rest } :=
      fun t ht hzero howner => { ht with
        started := nofun
        offline := fun _ => ⟨by rw [howner]; exact hoffline, by rw [howner]; exact hworker, hzero, rfl⟩
        stopping := fun hstop => absurd rfl hstop
        finish := nofun
        told := ht.told.keeps _ _ _ }
    dsimp only
    split_ifs with hne
    · exact hended _ (h.releaseGrant hne hworker) rfl rfl
    · exact hended s h (not_not.mp hne) rfl

theorem sound_step (h : s.Sound) (op : DiagnosticRuntimeOp) : (diagnosticRuntime.next s op).Sound := by
  cases op with
  | arbiterStart =>
    show Sound { s with arbiter := s.arbiter.runtimeStart }
    unfold NldDirectPdoArbiterContext.runtimeStart
    split_ifs with hon
    · exact h
    · have hlent := h.lent.effect (s.arbiter.owner.arbiter_effect .pnpStart) (by simp) (by simp)
        (by simp)
      exact h.arbitrates hlent fun hstarted => absurd (h.started hstarted) hon
  | arbiterStop =>
    show Sound (if _ then _ else _)
    split_ifs with hstarted
    · exact h
    · have hzero := (h.offline (eq_false_of_ne_true hstarted)).2.2.1
      unfold NldDirectPdoArbiterContext.runtimeStop
      split_ifs
      · have hstopped := NldDirectPdoArbiterOwner.coherent_effect h.lent.coherent
          (s.arbiter.owner.arbiter_effect .pnpStop)
        have hcoherent := NldDirectPdoArbiterOwner.coherent_effect hstopped .forced
        exact h.arbitrates ⟨hcoherent, by simp [NldDirectPdoArbiterOwner.forceOffline, hzero],
          fun hne => absurd hzero hne⟩ fun hon => absurd hon hstarted
      · exact h
  | setRenderDemand active =>
    exact h.others (.setRenderDemand active) (by simp) (by simp) (by simp)
      (by unfold NldDirectPdoArbiterContext.runtimeSetRenderDemand; split_ifs <;> rfl)
  | renderAcquire =>
    exact h.others (.tryAcquire clientRender) (by simp) (by simp) (by simp)
      (by unfold NldDirectPdoArbiterContext.runtimeTryAcquire; split_ifs <;> rfl)
  | renderRelease generation =>
    exact h.others (.release clientRender generation) (by simp) (by simp) (by simp)
      (by unfold NldDirectPdoArbiterContext.runtimeRelease; split_ifs <;> rfl)
  | start signalingClosed allocated =>
    show Sound (Prod.snd (if _ then _ else _))
    split_ifs with hrest
    · exact h.starts hrest signalingClosed allocated
    · exact h
  | requestDiscover => exact h.request
  | preempt => exact h.preempt
  | worker i answers signalingClosed =>
    show (s.worker i answers signalingClosed).Sound
    cases htask : s.workers[i]? with
    | none =>
      unfold worker
      rwa [htask]
    | some task =>
      cases task with
      | take => exact h.take htask answers signalingClosed
      | execute action generation => exact h.execute htask answers signalingClosed
  | stop =>
    show Sound (if _ then _ else _)
    split_ifs with hrest
    · exact h.stops hrest
    · exact h
  | stopStep => exact h.stopStep

theorem sound_after (ops : List DiagnosticRuntimeOp) : (diagnosticRuntime.after {} ops).Sound :=
  Reducer.after_inv (P := Sound) (Q := fun _ _ => True) (fun _ op h _ => sound_step h op)
    sound_initialized (Reducer.along_of_forall (fun _ _ => trivial) _ ops)

end DiagnosticRuntime

/-! ## Runs -/

/-- **One worker, under the grant**: in every state that is reached there is at most one worker, and
    none while the diagnostic is idle or stopped; the generation that it keeps is that of the
    arbiter's grant, and whatever but the last close is carried out, the grant is held. -/
theorem diagnostic_exclusive (ops : List DiagnosticRuntimeOp) :
    let s := diagnosticRuntime.after {} ops
    s.workers.length ≤ 1 ∧ s.context.idleEvent = s.workers.isEmpty ∧
    (s.context.started = false → s.workers = [] ∧ s.context.arbiterGeneration = 0) ∧
    (s.arbiter.owner.client = clientDiagnostic ↔ s.context.arbiterGeneration ≠ 0) ∧
    ∀ action generation, .execute action generation ∈ s.workers → action ≠ .cancelAndClose →
      s.arbiter.started ∧ s.arbiter.owner.client = clientDiagnostic ∧
        s.arbiter.owner.activeGeneration = s.context.arbiterGeneration := by
  intro s
  have h : s.Sound := DiagnosticRuntime.sound_after ops
  have htasks : s.workers.length ≤ 1 ∧ s.workers.isEmpty = !s.context.owner.workerOwned := by
    rw [h.workers, NldDirectPdoDiagnosticOwner.tasks]
    cases s.context.owner.workerOwned <;> exact ⟨by simp, rfl⟩
  refine ⟨htasks.1, h.idle.trans htasks.2.symm, fun hoff => ?_, h.lent.client,
    fun action generation hat hclose => ?_⟩
  · obtain ⟨-, hidle, hzero, -⟩ := h.offline hoff
    exact ⟨List.isEmpty_iff.mp (htasks.2.trans (by rw [hidle]; rfl)), hzero⟩
  · obtain ⟨i, hi⟩ := List.getElem?_of_mem hat
    obtain ⟨howned, -, -, htask⟩ := h.worker_eq hi
    split at htask
    · cases htask
    rename_i hactive
    cases htask
    have hne := mt h.active_closes (not_or.mpr ⟨hactive, hclose⟩)
    exact ⟨h.started (not_not.mp fun hoff => h.on howned (eq_false_of_ne_true hoff)),
      h.lent.client.mpr hne, h.lent.number hne⟩

/-- **The result of a Discover** that has succeeded is in every state that is reached that of a
    response that accepts it, at the generation of its request; a request is complete only then. -/
theorem diagnostic_result (ops : List DiagnosticRuntimeOp) :
    let context := (diagnosticRuntime.after {} ops).context
    (context.owner.discoverSucceeded → ∃ response, context.Reports response) ∧
      (context.owner.state = .complete → context.owner.discoverSucceeded) :=
  have h := (DiagnosticRuntime.sound_after ops).told
  ⟨h.reported, h.complete⟩

/-- **A request** is taken in a state that is reached exactly if the arbiter has a grant for it and
    the owner is at rest; one that is refused changes nothing but the arbiter. -/
theorem diagnostic_request (ops : List DiagnosticRuntimeOp) :
    let s := diagnosticRuntime.after {} ops
    (s.runtimeRequestDiscover.1 = .success ↔
      s.context.started ∧ s.arbiter.Available ∧ s.context.owner.Requestable) ∧
    (s.runtimeRequestDiscover.1 ≠ .success →
      s.runtimeRequestDiscover.2 = { s with arbiter := s.runtimeRequestDiscover.2.arbiter }) := by
  intro s
  rcases (DiagnosticRuntime.sound_after ops).request_cases with
    ⟨htaken, _, _, -, -, hresult⟩ | ⟨hno, _, _, hresult, hfailed, -⟩
  · rw [hresult]
    exact ⟨iff_of_true rfl htaken, fun hne => absurd rfl hne⟩
  · rw [hresult]
    exact ⟨iff_of_false hfailed hno, fun _ => rfl⟩

end NativeLdac.DirectPdo
