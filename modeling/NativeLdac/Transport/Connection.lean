/-
  The connection of the transport driver (`driver/sys/connection.c`): the device context
  and the sections of its functions.

  * `Context` has the fields that `SignalingLock` guards, and the completion events;
  * each function of the source that takes the lock is cut into its sections, in the
    source's order: a section runs as one step, and what it decides is its result;
  * the six requests that the context has a pointer for are told apart by `RequestKind`,
    and each of its fields that exists once for a request or a channel is a function of it.

  The diagnostics, the MTUs and the two disconnected events are left out: no section reads
  them, but for the MTU that a transfer has to fit.
-/
import Mathlib.Logic.Function.Basic
import Mathlib.Tactic.SplitIfs

namespace NativeLdac.Transport

/-! ## The context -/

inductive Channel where
  | signaling | media
  deriving DecidableEq, Repr

inductive ChannelState where
  | disconnected | connecting | connected | disconnecting
  deriving DecidableEq, Repr

/-- The requests that the context has a pointer for -/
inductive RequestKind where
  | openSignaling | incomingSignaling | readSignaling | writeSignaling | openMedia | writeMedia
  deriving DecidableEq, Repr

namespace RequestKind

def channel : RequestKind → Channel
  | openSignaling | incomingSignaling | readSignaling | writeSignaling => .signaling
  | openMedia | writeMedia => .media

/-- A request that transfers data, and has a pending flag -/
def isTransfer : RequestKind → Bool
  | readSignaling | writeSignaling | writeMedia => true
  | openSignaling | incomingSignaling | openMedia => false

/-- A request of `LdacNativeOpenSignaling` or `LdacNativeOpenMedia` -/
def isOpen : RequestKind → Bool
  | openSignaling | openMedia => true
  | incomingSignaling | readSignaling | writeSignaling | writeMedia => false

/-- A request that is sent with a timeout -/
def isTimed : RequestKind → Bool
  | openSignaling | openMedia | writeSignaling | writeMedia => true
  | incomingSignaling | readSignaling => false

def all : List RequestKind :=
  [openSignaling, incomingSignaling, readSignaling, writeSignaling, openMedia, writeMedia]

theorem mem_all (kind : RequestKind) : kind ∈ all := by
  cases kind <;> decide

theorem not_isTransfer_of_isOpen {kind : RequestKind} (h : kind.isOpen) : ¬ kind.isTransfer := by
  cases kind <;> first | decide | cases h

theorem eq_incomingSignaling {kind : RequestKind} (htransfer : ¬ kind.isTransfer)
    (hopen : ¬ kind.isOpen) : kind = .incomingSignaling := by
  cases kind <;> first | rfl | exact absurd rfl htransfer | exact absurd rfl hopen

end RequestKind

inductive NtStatus where
  | success | pending | deviceNotReady | deviceBusy | connectionDisconnected | bufferTooSmall
  | ioTimeout | unsuccessful
  deriving DecidableEq, Repr

/-- `NT_SUCCESS` -/
def NtStatus.isSuccess : NtStatus → Bool
  | success | pending => true
  | _ => false

/-- A request, and the channel that its BRB opens -/
abbrev RequestId := Nat

/-- `LDAC_NATIVE_DEVICE_CONTEXT`, as `LdacNativeEvtDeviceAdd` leaves it -/
structure Context where
  pnpStarted : Bool := false
  shuttingDown : Bool := true
  inboundSignalingReady : Bool := false
  /-- `SignalingServerHandle` is not null. -/
  serverRegistered : Bool := false
  serverDraining : Bool := false
  serverRundownQueued : Bool := false
  serverRundownStatus : NtStatus := .success
  channelState : Channel → ChannelState := fun _ => .disconnected
  channelHandle : Channel → Option RequestId := fun _ => none
  request : RequestKind → Option RequestId := fun _ => none
  pending : RequestKind → Bool := fun _ => false
  completedEvent : RequestKind → Bool := fun _ => true

namespace Context

def setState (c : Context) (channel : Channel) (state : ChannelState) : Context :=
  { c with channelState := Function.update c.channelState channel state }

def setRequest (c : Context) (kind : RequestKind) (request : Option RequestId) : Context :=
  { c with request := Function.update c.request kind request }

def setPending (c : Context) (kind : RequestKind) (pending : Bool) : Context :=
  { c with pending := Function.update c.pending kind pending }

/-- `KeSetEvent`, `KeClearEvent` -/
def setEvent (c : Context) (kind : RequestKind) (signalled : Bool) : Context :=
  { c with completedEvent := Function.update c.completedEvent kind signalled }

def setLifecycleState (c : Context) (pnpStarted shuttingDown : Bool) : Context :=
  { c with pnpStarted, shuttingDown }

/-- `LdacNativeResetSignalingLocked`, `LdacNativeResetMediaLocked` -/
def resetLocked (c : Context) (channel : Channel) : Context :=
  { c.setState channel .disconnected with
    channelHandle := Function.update c.channelHandle channel none }

def connect (c : Context) (channel : Channel) (handle : RequestId) : Context :=
  { c.setState channel .connected with
    channelHandle := Function.update c.channelHandle channel (some handle) }

/-- `if (Context->…Request == Request) Context->…Request = NULL`, and whether it was -/
def clearRequest (c : Context) (kind : RequestKind) (r : RequestId) : Bool × Context :=
  if c.request kind = some r then (true, c.setRequest kind none) else (false, c)

/-- `LdacNativeSignalingIndication`, `LdacNativeMediaIndication`: `IndicationRemoteDisconnect` -/
def remoteDisconnect (c : Context) (channel : Channel) : Context := c.resetLocked channel

/-! ## The signaling server -/

/-- `LdacNativeQueueSignalingServerRundownLocked` -/
def queueServerRundown (c : Context) : Context :=
  if c.serverRundownQueued then { c with serverDraining := true }
  else
    { c with
      serverDraining := true
      serverRundownQueued := true
      serverRundownStatus := .pending }

/-- `LdacNativeRegisterSignalingServer`: a server that is registered is not registered again. -/
def reuseServer (c : Context) : Context :=
  { c with
    serverDraining := false
    serverRundownStatus := .success
    inboundSignalingReady := true }

/-- `LdacNativeRegisterSignalingServer`, after its BRB -/
def serverRegisterCompleted (c : Context) (ok : Bool) : Context :=
  if ok then
    { c with
      serverRegistered := true
      serverDraining := false
      serverRundownStatus := .success
      inboundSignalingReady := true }
  else { c with serverRegistered := false }

/-- `LdacNativeUnregisterSignalingServer`: the first section -/
def drainServer (c : Context) (preserveReadyFlag : Bool) : Context :=
  { c with
    serverDraining := true
    inboundSignalingReady := c.inboundSignalingReady && preserveReadyFlag }

/-- `LdacNativeUnregisterSignalingServer`, after its BRB -/
def serverUnregisterCompleted (c : Context) (ok : Bool) : Context :=
  if ok then { c with serverRegistered := false } else c

/-- `LdacNativeSignalingServerRundownWorker`: the last section -/
def reportRundown (c : Context) (status : NtStatus) : Context :=
  { c with serverRundownStatus := status, serverRundownQueued := false }

/-! ## Requests that are accepted -/

end Context

/-- What the section that accepts a request decides. -/
inductive Acceptance where
  | rejected (status : NtStatus)
  /-- `LdacNativeOpenSignaling` finds the channel connected, and flushes the rundown. -/
  | connected
  /-- `LdacNativeOpenSignaling` waits for an incoming connection. -/
  | waits
  | accepted
  deriving DecidableEq, Repr

namespace Context

/-- The server listens, and the channel is free for its connection. -/
def awaitsIncoming (c : Context) : Bool :=
  (c.channelState .signaling == .connecting && (c.request .incomingSignaling).isSome) ||
  (c.channelState .signaling == .disconnected && c.serverRegistered && !c.serverDraining)

def openSignalingSection (c : Context) (r : RequestId) : Acceptance × Context :=
  if c.shuttingDown then (.rejected .deviceNotReady, c)
  else if c.channelState .signaling = .connected then (.connected, c)
  else if c.awaitsIncoming then (.waits, c)
  else if c.serverDraining then (.rejected .deviceBusy, c)
  else if c.channelState .signaling ≠ .disconnected then (.rejected .deviceBusy, c)
  else
    (.accepted, ((c.setState .signaling .connecting).setRequest .openSignaling r).setEvent
      .openSignaling false)

def openMediaSection (c : Context) (r : RequestId) : Acceptance × Context :=
  if c.channelState .signaling ≠ .connected then (.rejected .connectionDisconnected, c)
  else if c.shuttingDown then (.rejected .deviceNotReady, c)
  else if c.channelState .media ≠ .disconnected then (.rejected .deviceBusy, c)
  else
    (.accepted,
      ((c.setState .media .connecting).setRequest .openMedia r).setEvent .openMedia false)

/-- `LdacNativeTransferSignaling` and `LdacNativeWriteMedia` have one section; `fits` is what the
    MTU of the channel says. -/
def transferSection (c : Context) (kind : RequestKind) (r : RequestId) (fits : Bool) :
    Acceptance × Context :=
  if c.shuttingDown then (.rejected .deviceNotReady, c)
  else if c.channelState kind.channel ≠ .connected then (.rejected .connectionDisconnected, c)
  else if c.pending kind then (.rejected .deviceBusy, c)
  else if ¬ fits then (.rejected .bufferTooSmall, c)
  else (.accepted, ((c.setPending kind true).setRequest kind r).setEvent kind false)

/-- `LdacNativeSendIncomingSignalingResponse`; what is not accepted is refused to the headset.
    `matching` is that the connection is the headset's, and of AVDTP. -/
def incomingSection (c : Context) (r : RequestId) (matching : Bool) : Acceptance × Context :=
  if c.shuttingDown = false ∧ c.serverDraining = false ∧ matching ∧
      c.channelState .signaling = .disconnected ∧ c.request .incomingSignaling = none then
    (.accepted,
      (((c.setState .signaling .connecting).setRequest .incomingSignaling r).setEvent
        .incomingSignaling false).setEvent .openSignaling false)
  else (.rejected .unsuccessful, c)

def acceptSection (c : Context) (kind : RequestKind) (r : RequestId) (ok : Bool) :
    Acceptance × Context :=
  match kind with
  | .openSignaling => c.openSignalingSection r
  | .openMedia => c.openMediaSection r
  | .incomingSignaling => c.incomingSection r ok
  | .readSignaling | .writeSignaling | .writeMedia => c.transferSection kind r ok

/-! ## Requests that fail before they are sent -/

/-- The section after `fail:`, and whether the request's reference is released -/
def failSection (c : Context) (kind : RequestKind) (r : RequestId) : Bool × Context :=
  if kind.isTransfer then (c.setPending kind false).clearRequest kind r
  else if kind.isOpen then
    let cleared := c.clearRequest kind r
    (cleared.1, cleared.2.resetLocked kind.channel)
  else
    let cleared := c.clearRequest kind r
    if cleared.1 ∧ c.channelState kind.channel = .connecting then
      (cleared.1, cleared.2.resetLocked kind.channel)
    else cleared

/-- The events that are set for a request -/
def signalCompleted (c : Context) (kind : RequestKind) : Context :=
  if kind = .incomingSignaling then
    (c.setEvent .incomingSignaling true).setEvent .openSignaling true
  else c.setEvent kind true

/-! ## Requests that the stack completes -/

/-- `LdacNativeOpenSignalingCompletion`, `LdacNativeOpenMediaCompletion`: the first section, with
    the status that it leaves and whether the reference is released -/
def openCompletion (c : Context) (kind : RequestKind) (r : RequestId) (ok : Bool) :
    Bool × Bool × Context :=
  let cleared := c.clearRequest kind r
  if ok ∧ c.channelState kind.channel = .connecting then
    (true, cleared.1, cleared.2.connect kind.channel r)
  else (false, cleared.1, cleared.2)

/-- `LdacNativeIncomingSignalingCompletion`; a request that the context no longer points to is let
    go of. -/
def incomingCompletion (c : Context) (r : RequestId) (ok : Bool) : Bool × Bool × Context :=
  if c.request .incomingSignaling = some r then
    let cleared := c.setRequest .incomingSignaling none
    if ok ∧ c.channelState .signaling = .connecting then
      (true, true, (cleared.connect .signaling r).queueServerRundown)
    else if c.channelState .signaling = .connecting then
      (false, true, cleared.resetLocked .signaling)
    else (false, true, cleared)
  else (false, false, c)

def transferCompletion (c : Context) (kind : RequestKind) (r : RequestId) (ok : Bool) :
    Bool × Bool × Context :=
  let cleared := (c.setPending kind false).clearRequest kind r
  (ok, cleared.1, cleared.2)

def completionSection (c : Context) (kind : RequestKind) (r : RequestId) (ok : Bool) :
    Bool × Bool × Context :=
  match kind with
  | .openSignaling | .openMedia => c.openCompletion kind r ok
  | .incomingSignaling => c.incomingCompletion r ok
  | .readSignaling | .writeSignaling | .writeMedia => c.transferCompletion kind r ok

/-! ## Closing and shutting down -/

/-- `LdacNativeCloseSignaling`, `LdacNativeCloseMedia`: the first section, with the handle of a
    channel that is to be closed -/
def closeSection (c : Context) (channel : Channel) : Option (Option RequestId) × Context :=
  if c.channelState channel = .connected then
    (some (c.channelHandle channel), c.setState channel .disconnecting)
  else (none, c)

/-- `LdacNativeConnectionShutdown`: the last section -/
def endShutdown (c : Context) : Context :=
  if c.pnpStarted then { c with shuttingDown := false } else c

/-! ## What the sections do -/

/-- What `LdacNativeOpenSignaling` or `LdacNativeOpenMedia` finds when it accepts a request -/
def admitsOpen (c : Context) : RequestKind → Bool
  | .openSignaling =>
    !c.shuttingDown && c.channelState .signaling == .disconnected && !c.awaitsIncoming &&
      !c.serverDraining
  | .openMedia =>
    c.channelState .signaling == .connected && !c.shuttingDown &&
      c.channelState .media == .disconnected
  | _ => false

variable {kind : RequestKind} {c : Context}

theorem free_of_admitsOpen (h : c.admitsOpen kind) :
    c.shuttingDown = false ∧ c.channelState kind.channel = .disconnected := by
  cases kind <;> simp_all [admitsOpen, RequestKind.channel]

theorem accepted_of_admitsOpen {r : RequestId} {ok : Bool} (h : c.admitsOpen kind) :
    (c.acceptSection kind r ok).1 = .accepted := by
  cases kind with
  | openSignaling =>
    unfold acceptSection openSignalingSection
    unfold admitsOpen at h
    dsimp only
    split_ifs <;> simp_all
  | openMedia =>
    unfold acceptSection openMediaSection
    unfold admitsOpen at h
    dsimp only
    split_ifs <;> simp_all
  | incomingSignaling | readSignaling | writeSignaling | writeMedia => cases h

/-- What changes when a request of a kind is accepted, and what it takes. -/
structure Accepting (c c' : Context) (kind : RequestKind) (r : RequestId) : Prop where
  running : c.shuttingDown = false
  lifecycle : c'.shuttingDown = c.shuttingDown ∧ c'.pnpStarted = c.pnpStarted
  request : c'.request = Function.update c.request kind (some r)
  pending : c'.pending = if kind.isTransfer then Function.update c.pending kind true else c.pending
  idle : kind.isTransfer → c.pending kind = false
  alone : kind = .incomingSignaling → c.request kind = none
  admits : kind.isOpen → c.admitsOpen kind
  state : c'.channelState =
    if kind.isTransfer then c.channelState
    else Function.update c.channelState kind.channel .connecting
  channelFree : ¬ kind.isTransfer → c.channelState kind.channel = .disconnected
  handle : c'.channelHandle = c.channelHandle
  event : c'.completedEvent kind = false
  events : ∀ kind', c'.completedEvent kind' → c.completedEvent kind'

theorem setEvent_of {kind kind' : RequestKind} (h : (c.setEvent kind false).completedEvent kind') :
    c.completedEvent kind' := by
  by_cases hkind : kind' = kind
  · subst hkind
    simp [setEvent] at h
  · simpa [setEvent, Function.update_of_ne hkind] using h

theorem setEvent_self (c : Context) (kind : RequestKind) (signalled : Bool) :
    (c.setEvent kind signalled).completedEvent kind = signalled :=
  Function.update_self _ _ _

theorem accepting_open (r : RequestId) (hopen : kind.isOpen) (hadmits : c.admitsOpen kind) :
    Accepting c (((c.setState kind.channel .connecting).setRequest kind r).setEvent kind false)
      kind r := by
  have htransfer : kind.isTransfer = false :=
    Bool.eq_false_iff.mpr (RequestKind.not_isTransfer_of_isOpen hopen)
  exact
    { running := (free_of_admitsOpen hadmits).1
      lifecycle := ⟨rfl, rfl⟩
      request := rfl
      pending := by rw [htransfer]; rfl
      idle := by simp [htransfer]
      alone := by rintro rfl; cases hopen
      admits := fun _ => hadmits
      state := by rw [htransfer]; rfl
      channelFree := fun _ => (free_of_admitsOpen hadmits).2
      handle := rfl
      event := setEvent_self _ _ _
      events := fun _ => setEvent_of }

theorem accepting_transfer (r : RequestId) (htransfer : kind.isTransfer)
    (hrunning : c.shuttingDown = false) (hidle : c.pending kind = false) :
    Accepting c (((c.setPending kind true).setRequest kind r).setEvent kind false) kind r where
  running := hrunning
  lifecycle := ⟨rfl, rfl⟩
  request := rfl
  pending := by rw [if_pos htransfer]; rfl
  idle := fun _ => hidle
  alone := by rintro rfl; cases htransfer
  admits := fun hopen => absurd htransfer (RequestKind.not_isTransfer_of_isOpen hopen)
  state := by rw [if_pos htransfer]; rfl
  channelFree := fun h => absurd htransfer h
  handle := rfl
  event := setEvent_self _ _ _
  events := fun _ => setEvent_of

theorem transferSection_cases (c : Context) (r : RequestId) (fits : Bool)
    (htransfer : kind.isTransfer) :
    (c.transferSection kind r fits).1 ≠ .accepted ∧ (c.transferSection kind r fits).2 = c ∨
      (c.transferSection kind r fits).1 = .accepted ∧
        Accepting c (c.transferSection kind r fits).2 kind r := by
  unfold transferSection
  split_ifs with hshutting hstate hpending
  · exact .inl ⟨by simp, rfl⟩
  · exact .inl ⟨by simp, rfl⟩
  · exact .inl ⟨by simp, rfl⟩
  · exact .inr ⟨rfl, accepting_transfer r htransfer (by simpa using hshutting)
      (by simpa using hpending)⟩
  · exact .inl ⟨by simp, rfl⟩

theorem acceptSection_cases (c : Context) (kind : RequestKind) (r : RequestId) (ok : Bool) :
    (c.acceptSection kind r ok).1 ≠ .accepted ∧ (c.acceptSection kind r ok).2 = c ∨
      (c.acceptSection kind r ok).1 = .accepted ∧
        Accepting c (c.acceptSection kind r ok).2 kind r := by
  cases kind with
  | openSignaling =>
    unfold acceptSection openSignalingSection
    dsimp only
    split_ifs with hshutting hconnected hwaits hdraining hstate
    iterate 5 exact .inl ⟨by simp, rfl⟩
    have hadmits : c.admitsOpen .openSignaling := by simp_all [admitsOpen]
    exact .inr ⟨rfl, accepting_open r rfl hadmits⟩
  | openMedia =>
    unfold acceptSection openMediaSection
    dsimp only
    split_ifs with hconnected hshutting hstate
    iterate 3 exact .inl ⟨by simp, rfl⟩
    have hadmits : c.admitsOpen .openMedia := by simp_all [admitsOpen]
    exact .inr ⟨rfl, accepting_open r rfl hadmits⟩
  | incomingSignaling =>
    unfold acceptSection incomingSection
    dsimp only
    split_ifs with htakes
    · obtain ⟨hrunning, -, -, hfree, halone⟩ := htakes
      exact .inr ⟨rfl,
        { running := hrunning
          lifecycle := ⟨rfl, rfl⟩
          request := rfl
          pending := rfl
          idle := fun hidle => absurd hidle (by decide)
          alone := fun _ => halone
          admits := fun hadmits => absurd hadmits (by decide)
          state := rfl
          channelFree := fun _ => hfree
          handle := rfl
          event := rfl
          events := fun _ h => setEvent_of (setEvent_of h) }⟩
    · exact .inl ⟨by simp, rfl⟩
  | readSignaling => exact transferSection_cases c r ok rfl
  | writeSignaling => exact transferSection_cases c r ok rfl
  | writeMedia => exact transferSection_cases c r ok rfl

/-- What changes when a request is let go of. -/
structure LettingGo (c c' : Context) (kind : RequestKind) (r : RequestId) (release : Bool) :
    Prop where
  lifecycle : c'.shuttingDown = c.shuttingDown ∧ c'.pnpStarted = c.pnpStarted
  release : release = decide (c.request kind = some r)
  request : c'.request =
    if c.request kind = some r then Function.update c.request kind none else c.request
  pending : c'.pending =
    if kind.isTransfer then Function.update c.pending kind false else c.pending
  events : c'.completedEvent = c.completedEvent

/-- The sections let go of a request by `clearRequest`; a transfer is no longer pending then. -/
def cleared (c : Context) (kind : RequestKind) (r : RequestId) : Bool × Context :=
  (if kind.isTransfer then c.setPending kind false else c).clearRequest kind r

theorem lettingGo_cleared (c : Context) (kind : RequestKind) (r : RequestId) :
    LettingGo c (c.cleared kind r).2 kind r (c.cleared kind r).1 := by
  unfold cleared clearRequest
  by_cases htransfer : kind.isTransfer <;> by_cases hptr : c.request kind = some r <;>
    constructor <;> simp [htransfer, hptr, setPending, setRequest]

/-- The state and the handle of both channels -/
def channels (c : Context) : (Channel → ChannelState) × (Channel → Option RequestId) :=
  (c.channelState, c.channelHandle)

theorem channels_cleared (c : Context) (kind : RequestKind) (r : RequestId) :
    (c.cleared kind r).2.channels = c.channels := by
  unfold cleared clearRequest
  split_ifs <;> rfl

theorem channels_reset {c c' : Context} (h : c'.channels = c.channels) (channel : Channel) :
    (c'.resetLocked channel).channels = (c.resetLocked channel).channels := by
  obtain ⟨hstate, hhandle⟩ := Prod.mk.inj h
  simp only [channels, resetLocked, setState, hstate, hhandle]

theorem channels_connect {c c' : Context} (h : c'.channels = c.channels) (channel : Channel)
    (r : RequestId) : (c'.connect channel r).channels = (c.connect channel r).channels := by
  obtain ⟨hstate, hhandle⟩ := Prod.mk.inj h
  simp only [channels, connect, setState, hstate, hhandle]

theorem LettingGo.channelsChanged {c c' c'' : Context} {r : RequestId} {release : Bool}
    (h : LettingGo c c' kind r release)
    (hlifecycle : c''.shuttingDown = c'.shuttingDown ∧ c''.pnpStarted = c'.pnpStarted)
    (hrequest : c''.request = c'.request) (hpending : c''.pending = c'.pending)
    (hevents : c''.completedEvent = c'.completedEvent) : LettingGo c c'' kind r release where
  lifecycle := ⟨hlifecycle.1.trans h.lifecycle.1, hlifecycle.2.trans h.lifecycle.2⟩
  release := h.release
  request := hrequest.trans h.request
  pending := hpending.trans h.pending
  events := hevents.trans h.events

inductive FailedChannels (c c' : Context) (kind : RequestKind) : Prop
  | kept (h : ¬ kind.isOpen) (eq : c'.channels = c.channels)
  | incoming (h : kind = .incomingSignaling) (connecting : c.channelState kind.channel = .connecting)
      (eq : c'.channels = (c.resetLocked kind.channel).channels)
  | opened (h : kind.isOpen) (eq : c'.channels = (c.resetLocked kind.channel).channels)

theorem failSection_cases (c : Context) (kind : RequestKind) (r : RequestId) :
    LettingGo c (c.failSection kind r).2 kind r (c.failSection kind r).1 ∧
      FailedChannels c (c.failSection kind r).2 kind := by
  have hcleared := lettingGo_cleared c kind r
  have hchannels := channels_cleared c kind r
  by_cases htransfer : kind.isTransfer
  · have hopen : ¬ kind.isOpen := fun h => RequestKind.not_isTransfer_of_isOpen h htransfer
    have heq : c.failSection kind r = c.cleared kind r := by
      rw [failSection, cleared, if_pos htransfer, if_pos htransfer]
    rw [heq]
    exact ⟨hcleared, .kept hopen hchannels⟩
  · have heq : c.cleared kind r = c.clearRequest kind r := by rw [cleared, if_neg htransfer]
    rw [heq] at hcleared hchannels
    unfold failSection
    rw [if_neg htransfer]
    split_ifs with hopen
    · exact ⟨hcleared.channelsChanged ⟨rfl, rfl⟩ rfl rfl rfl,
        .opened hopen (channels_reset hchannels _)⟩
    · have hincoming := RequestKind.eq_incomingSignaling htransfer hopen
      dsimp only
      split_ifs with hreset
      · exact ⟨hcleared.channelsChanged ⟨rfl, rfl⟩ rfl rfl rfl,
          .incoming hincoming hreset.2 (channels_reset hchannels _)⟩
      · exact ⟨hcleared, .kept hopen hchannels⟩

/-- The channel that a request asked for is still waiting for it when its BRB succeeds. -/
def awaited (c : Context) (kind : RequestKind) (r : RequestId) : Prop :=
  c.channelState kind.channel = .connecting ∧
    (kind = .incomingSignaling → c.request kind = some r)

instance (c : Context) (kind : RequestKind) (r : RequestId) : Decidable (c.awaited kind r) :=
  inferInstanceAs (Decidable (_ ∧ _))

inductive CompletedChannels (c c' : Context) (kind : RequestKind) (r : RequestId) (ok : Bool) :
    Prop
  | connected (h : ¬ kind.isTransfer) (succeeded : ok) (awaited : c.awaited kind r)
      (eq : c'.channels = (c.connect kind.channel r).channels)
  | kept (h : ¬ kind.isTransfer → ¬ (ok ∧ c.awaited kind r)) (eq : c'.channels = c.channels)
  | incoming (h : kind = .incomingSignaling) (failed : ¬ ok)
      (connecting : c.channelState kind.channel = .connecting)
      (eq : c'.channels = (c.resetLocked kind.channel).channels)

theorem openCompletion_cases (c : Context) (r : RequestId) (ok : Bool) (hopen : kind.isOpen) :
    LettingGo c (c.openCompletion kind r ok).2.2 kind r (c.openCompletion kind r ok).2.1 ∧
      CompletedChannels c (c.openCompletion kind r ok).2.2 kind r ok := by
  have htransfer := RequestKind.not_isTransfer_of_isOpen hopen
  have hincoming : kind ≠ .incomingSignaling := by rintro rfl; cases hopen
  have heq : c.cleared kind r = c.clearRequest kind r := by rw [cleared, if_neg htransfer]
  have hcleared := heq ▸ lettingGo_cleared c kind r
  have hchannels := heq ▸ channels_cleared c kind r
  unfold openCompletion
  dsimp only
  split_ifs with hconnects
  · exact ⟨hcleared.channelsChanged ⟨rfl, rfl⟩ rfl rfl rfl,
      .connected htransfer hconnects.1 ⟨hconnects.2, fun h => absurd h hincoming⟩
        (channels_connect hchannels _ _)⟩
  · exact ⟨hcleared, .kept (fun _ h => hconnects ⟨h.1, h.2.1⟩) hchannels⟩

theorem incomingCompletion_cases (c : Context) (r : RequestId) (ok : Bool) :
    LettingGo c (c.incomingCompletion r ok).2.2 .incomingSignaling r
        (c.incomingCompletion r ok).2.1 ∧
      CompletedChannels c (c.incomingCompletion r ok).2.2 .incomingSignaling r ok := by
  have hcleared := lettingGo_cleared c .incomingSignaling r
  unfold incomingCompletion
  by_cases hptr : c.request .incomingSignaling = some r
  · have heq : c.cleared .incomingSignaling r = (true, c.setRequest .incomingSignaling none) := by
      rw [cleared, if_neg nofun, clearRequest, if_pos hptr]
    rw [heq] at hcleared
    rw [if_pos hptr]
    dsimp only
    split_ifs with hconnects hreset
    · refine ⟨hcleared.channelsChanged ?_ ?_ ?_ ?_, .connected nofun hconnects.1
        ⟨hconnects.2, fun _ => hptr⟩ ?_⟩ <;> unfold queueServerRundown <;> split_ifs <;>
        first | rfl | exact ⟨rfl, rfl⟩
    · exact ⟨hcleared.channelsChanged ⟨rfl, rfl⟩ rfl rfl rfl,
        .incoming rfl (fun hok => hconnects ⟨hok, hreset⟩) hreset rfl⟩
    · exact ⟨hcleared, .kept (fun _ h => hconnects ⟨h.1, h.2.1⟩) rfl⟩
  · have heq : c.cleared .incomingSignaling r = (false, c) := by
      rw [cleared, if_neg nofun, clearRequest, if_neg hptr]
    rw [heq] at hcleared
    rw [if_neg hptr]
    exact ⟨hcleared, .kept (fun _ h => hptr (h.2.2 rfl)) rfl⟩

theorem transferCompletion_cases (c : Context) (r : RequestId) (ok : Bool)
    (htransfer : kind.isTransfer) :
    LettingGo c (c.transferCompletion kind r ok).2.2 kind r (c.transferCompletion kind r ok).2.1 ∧
      CompletedChannels c (c.transferCompletion kind r ok).2.2 kind r ok := by
  have heq : c.transferCompletion kind r ok =
      (ok, (c.cleared kind r).1, (c.cleared kind r).2) := by
    rw [transferCompletion, cleared, if_pos htransfer]
  rw [heq]
  exact ⟨lettingGo_cleared c kind r, .kept (absurd htransfer) (channels_cleared c kind r)⟩

theorem completionSection_cases (c : Context) (kind : RequestKind) (r : RequestId) (ok : Bool) :
    LettingGo c (c.completionSection kind r ok).2.2 kind r (c.completionSection kind r ok).2.1 ∧
      CompletedChannels c (c.completionSection kind r ok).2.2 kind r ok := by
  cases kind with
  | openSignaling => exact openCompletion_cases c r ok rfl
  | openMedia => exact openCompletion_cases c r ok rfl
  | incomingSignaling => exact incomingCompletion_cases c r ok
  | readSignaling => exact transferCompletion_cases c r ok rfl
  | writeSignaling => exact transferCompletion_cases c r ok rfl
  | writeMedia => exact transferCompletion_cases c r ok rfl

end Context

end NativeLdac.Transport
