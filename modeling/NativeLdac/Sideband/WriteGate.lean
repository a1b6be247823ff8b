/-
  The write gate of the AVRCP observer driver (`avrcp-sideband/sys/device.c`): it
  accepts one write of the host at a time, which the worker passes to the
  protocol.  A command keeps the gate until its response was queued, a report
  until it was sent.

  * `WorkerPhase` is where the worker's loop stands; a step takes it to the next
    phase, so that requests of the host come between any two of them;
  * `Gated` is the invariant of the gate, `Awaited` what the host relies on: a
    command is outstanding, or a response is queued;
  * `mishaps` is a ghost that counts what the driver does not make up for: a write
    that is refused while nothing is awaited, the loss of the last queued
    response, and the end of the channel.
-/
import NativeLdac.Sideband.EventQueue
import NativeLdac.Protocol.AvrcpPlayback

namespace NativeLdac.Sideband

open Agent Protocol

/-! ## The driver -/

def errorReqNotAccep : UInt32 := 71

structure WriteRequest where
  pduId : UInt32
  response : UInt32
  parameters : List UInt8
  deriving DecidableEq, Repr

def WriteRequest.submitted (request : WriteRequest) (o : AvrcpObserver) :
    AvrcpObserverResult × AvrcpObserver :=
  avrcpObserverSubmitWrite o request.pduId.toUInt8 request.response.toUInt8 request.parameters

inductive WorkerPhase where
  | stopped
  | opening
  /-- at the head of its loop, or before its read -/
  | reading
  /-- a write was taken; `NldAvrcpObserverCompleteWrite` is next -/
  | completing
  /-- the event of a packet was queued -/
  | observed (event : Protocol.AvrcpObserverEvent)
  /-- at `Exit` -/
  | leaving
  | closing (remote : Bool)
  /-- it has stopped, and starts the driver again -/
  | restarting
  deriving DecidableEq

/-- `WorkerRunning` -/
def WorkerPhase.running : WorkerPhase → Bool
  | .stopped | .restarting => false
  | _ => true

/-- `NLD_AVRCP_OBSERVER_STATUS_CHANNEL_OPEN`: the flag is set before the loop and cleared
    after `Exit` -/
def WorkerPhase.channelOpen : WorkerPhase → Bool
  | .stopped | .opening | .restarting => false
  | _ => true

def WorkerPhase.serving : WorkerPhase → Bool
  | .reading | .completing | .observed _ => true
  | _ => false

/-- The write that holds the gate is done but for its completion. -/
def WorkerPhase.completes : WorkerPhase → Bool
  | .completing => true
  | .observed event => event.kind = .writeResponse
  | _ => false

open WorkerPhase (completes restarting running serving)

/-- `RuntimeFlags`, but for those that follow the worker's phase. -/
structure ObserverRuntimeFlags where
  outboundOpen : Bool := false
  activationRequired : Bool := false
  activationRequested : Bool := false
  volumeSupported : Bool := false
  observing : Bool := false
  deriving DecidableEq, Repr

/-- `NLD_AVRCP_OBSERVER_DEVICE_CONTEXT` -/
structure ObserverDevice where
  aclGeneration : UInt64 := 0
  eventQueue : NldAvrcpEventQueue NldAvrcpObserverEvent := {}
  observer : AvrcpObserver := {}
  worker : WorkerPhase := .stopped
  runtimeFlags : ObserverRuntimeFlags := {}
  activationRequested : Bool := false
  /-- none while `PendingWriteValid` is off -/
  pendingWrite : Option WriteRequest := none
  writeTransactionActive : Bool := false
  /-- ghost -/
  mishaps : Nat := 0
  deriving DecidableEq

namespace ObserverDevice

variable (d : ObserverDevice)

def CommandOutstanding : Prop :=
  d.worker.serving ∧ ((∃ request ∈ d.pendingWrite, request.response = 0) ∨ d.observer.writeActive)

def ResponseQueued : Prop := ∃ event ∈ d.eventQueue.events, event.type = .writeResponse

def Awaited : Prop := d.CommandOutstanding ∨ d.ResponseQueued

instance : Decidable d.CommandOutstanding := inferInstanceAs (Decidable (_ ∧ _))
instance : Decidable d.ResponseQueued :=
  inferInstanceAs (Decidable (∃ event ∈ d.eventQueue.events, event.type = .writeResponse))
instance : Decidable d.Awaited := inferInstanceAs (Decidable (_ ∨ _))

/-- The queue changes; it may lose the last response. -/
def withQueue (queue : NldAvrcpEventQueue NldAvrcpObserverEvent) : ObserverDevice :=
  let next := { d with eventQueue := queue }
  if d.ResponseQueued ∧ ¬ next.ResponseQueued then { next with mishaps := d.mishaps + 1 } else next

def push (event : NldAvrcpObserverEvent) : ObserverDevice :=
  d.withQueue (d.eventQueue.push d.aclGeneration event.type event).2

def queueProtocolEvent (event : Protocol.AvrcpObserverEvent) : ObserverDevice :=
  match protocolEventRecord event with
  | none => d
  | some record => d.push record

def endGeneration : ObserverDevice :=
  d.withQueue (d.eventQueue.endGeneration d.aclGeneration { type := .aclDisconnected }).2

def completeWrite : ObserverDevice := { d with writeTransactionActive := false }

def start : ObserverDevice :=
  let aclGeneration := nextNonzero d.aclGeneration
  { aclGeneration := aclGeneration
    eventQueue := (d.eventQueue.beginGeneration aclGeneration { type := .aclConnected }).2
    runtimeFlags := { outboundOpen := true, activationRequired := true }
    mishaps := d.mishaps + 1 }

/-- The loop is left for `Exit`. -/
def leave : ObserverDevice := { d with worker := .leaving, mishaps := d.mishaps + 1 }

/-! ### The worker -/

def openChannel : ObserverDevice :=
  match d.worker with
  | .opening =>
    let r := avrcpObserverBegin d.observer
    let d := { d with observer := r.2 }
    if r.1.packet = [] then (d.queueProtocolEvent r.1.event).leave
    else { d with worker := .reading }
  | _ => d

def openFailed : ObserverDevice :=
  match d.worker with
  | .opening => ({ d with worker := .stopped }.push { type := .protocolError }).endGeneration
  | _ => d

def takeWrite : ObserverDevice :=
  match d.worker, d.pendingWrite with
  | .reading, some request =>
    let r := request.submitted d.observer
    { d with
      pendingWrite := none
      observer := r.2
      worker := if r.1.packet ≠ [] ∧ request.response = 0 then .reading else .completing }
  | _, _ => d

def readPacket (packet : List UInt8) : ObserverDevice :=
  match d.worker with
  | .reading =>
    let r := avrcpObserverHandlePacket d.observer packet
    let d := { d with observer := r.2 }.queueProtocolEvent r.1.event
    if r.1.event.kind = .protocolError then d.leave else { d with worker := .observed r.1.event }
  | _ => d

/-- The loop ends: the driver stops, or the channel fails. -/
def break_ : ObserverDevice := if d.worker.serving ∨ d.worker = .opening then d.leave else d

/-- `Exit`, up to its `NldAvrcpObserverCompleteWrite` -/
def exit (remote : Bool) : ObserverDevice :=
  match d.worker with
  | .leaving => { d.completeWrite with worker := .closing remote }
  | _ => d

/-- What the worker does next by itself. -/
def settle : ObserverDevice :=
  match d.worker with
  | .completing => { d.completeWrite with worker := .reading }
  | .observed event =>
    let d := { d with worker := .reading }
    match event.kind with
    | .writeResponse => d.completeWrite
    | .volumeCapability =>
      { d with runtimeFlags := { d.runtimeFlags with
        volumeSupported := event.volumeSupported ≠ 0 } }
    | .volumeChanged => { d with runtimeFlags := { d.runtimeFlags with observing := true } }
    | _ => d
  | .closing remote =>
    { d with
      worker := if remote then .restarting else .stopped
      runtimeFlags := { d.runtimeFlags with observing := false } }.endGeneration
  | .restarting => d.start
  | _ => d

/-! ### The device -/

def flush (remote : Bool) : ObserverDevice := (d.break_.exit remote).settle.settle

def stop (remote : Bool) : ObserverDevice :=
  { (d.flush remote).completeWrite with runtimeFlags := {} }.endGeneration

def fileCleanup (remote : Bool) : ObserverDevice := (d.stop remote).start

/-! ### Requests of the host -/

def beginObservation : Except UInt32 Unit × ObserverDevice :=
  if d.activationRequested ∨ d.worker.running then (.error errorReqNotAccep, d)
  else if ¬ (d.runtimeFlags.outboundOpen ∧ d.runtimeFlags.activationRequired) then
    (.error V1AvrcpObserverHost.errorNotReady, d)
  else
    (.ok (), { d with
      activationRequested := true
      worker := .opening
      runtimeFlags := { d.runtimeFlags with
        activationRequired := false
        activationRequested := true } })

/-- The gate of the writes is closed. -/
def Busy : Prop :=
  d.pendingWrite.isSome ∨ d.writeTransactionActive ∨ ¬ d.worker.running ∨ ¬ d.worker.channelOpen

instance : Decidable d.Busy := inferInstanceAs (Decidable (_ ∨ _ ∨ _ ∨ _))

def refused : ObserverDevice := if d.Awaited then d else { d with mishaps := d.mishaps + 1 }

def sendCommand (request : WriteRequest) : Bool × ObserverDevice :=
  if request.parameters.length > 8 ∨ request.pduId = 0 ∨ request.response > 0x0F then (false, d)
  else if d.Busy then (false, d.refused)
  else
    (true, { d with pendingWrite := some request, writeTransactionActive := true })

def dequeueEvent : Except UInt32 NldAvrcpObserverEvent × ObserverDevice :=
  (match d.eventQueue.pop.1 with
    | none => .error errorNoMoreItems
    | some event => .ok event,
    { d with eventQueue := d.eventQueue.pop.2 })

end ObserverDevice

/-- What happens in the driver while the host does not ask. -/
inductive DriverStep where
  | openChannel
  | openFailed
  | takeWrite
  | readPacket (packet : List UInt8)
  | break_
  | exit (remote : Bool)
  | settle
  /-- the device is suspended, and restarted -/
  | stop (remote : Bool)
  | start
  deriving DecidableEq

def ObserverDevice.next (d : ObserverDevice) : DriverStep → ObserverDevice
  | .openChannel => d.openChannel
  | .openFailed => d.openFailed
  | .takeWrite => d.takeWrite
  | .readPacket packet => d.readPacket packet
  | .break_ => d.break_
  | .exit remote => d.exit remote
  | .settle => d.settle
  | .stop remote => d.stop remote
  | .start => d.start

/-! ## The protocol's side of a write -/

/-- The protocol has begun, and has not failed. -/
def Live (o : AvrcpObserver) : Prop := o.state ≠ .idle ∧ o.state ≠ .failed

inductive WriteEffect (o : AvrcpObserver) : AvrcpObserverResult × AvrcpObserver → Prop
  | failed {r} : r.1.event.kind = .protocolError → WriteEffect o r
  | answered {r} : Live r.2 → r.1.event.kind = .writeResponse → o.writeActive →
    r.2.writeActive = false → WriteEffect o r
  | passed {r} : Live r.2 → r.1.event.kind ≠ .writeResponse → r.2.writeActive = o.writeActive →
    WriteEffect o r

section
variable {o : AvrcpObserver}

theorem writeEffect_registerVolume {o' : AvrcpObserver} {event : Protocol.AvrcpObserverEvent}
    (hk : event.kind ≠ .writeResponse) (hw : o'.writeActive = o.writeActive) :
    WriteEffect o (avrcpObserverRegisterVolume o' event) := by
  simp only [avrcpObserverRegisterVolume]
  split_ifs
  · exact .failed rfl
  · exact .passed ⟨by simp, by simp⟩ hk hw

theorem submitPlaybackStatus_write (o : AvrcpObserver) (status : UInt8) :
    (avrcpObserverSubmitPlaybackStatus o status).2.state = o.state ∧
      (avrcpObserverSubmitPlaybackStatus o status).2.writeActive = o.writeActive := by
  simp only [avrcpObserverSubmitPlaybackStatus]
  split_ifs <;> exact ⟨rfl, rfl⟩

variable (hlive : Live o)
include hlive

theorem writeEffect_passThrough (packet : List UInt8) :
    WriteEffect o (avrcpObserverHandlePassThrough o packet) := by
  rcases handlePassThrough_cases o packet with
    ⟨error, stage, raw, hfail⟩ | ⟨answer, event, hstep, hkind, -⟩
  · rw [hfail]
    exact .failed rfl
  · rw [hstep]
    exact .passed hlive (by simp [hkind]) rfl

theorem writeEffect_vendorCommand (packet : List UInt8) (vendor : AvrcpVendorFrame) :
    WriteEffect o (avrcpObserverHandleVendorCommand o packet vendor) := by
  obtain ⟨hstate, hwrite, -⟩ := vendorAnswer_kept o vendor.frame.transactionLabel vendor.pduId
    (vendor.parameters packet)
  simp only [avrcpObserverHandleVendorCommand]
  split_ifs
  · exact .failed rfl
  · refine .passed ?_ (by simp) hwrite
    unfold Live
    rw [hstate]
    exact hlive

omit hlive in
theorem writeEffect_response (packet : List UInt8) (vendor : AvrcpVendorFrame) :
    WriteEffect o (avrcpObserverHandleResponse o packet vendor) := by
  simp only [avrcpObserverHandleResponse]
  split_ifs
  · exact .failed rfl
  · exact writeEffect_registerVolume (by simp) rfl
  · exact .passed ⟨by simp, by simp⟩ (by simp) rfl
  · exact .passed ⟨by simp, by simp⟩ (by simp) rfl
  · exact writeEffect_registerVolume (by simp) rfl
  · exact .failed rfl
  · exact .failed rfl

theorem writeEffect_packet (packet : List UInt8) :
    WriteEffect o (avrcpObserverHandlePacket o packet) := by
  rw [avrcpObserverHandlePacket, if_neg (not_or.mpr hlive)]
  rcases avrcpParseFrame packet with e | frame
  · exact .failed rfl
  dsimp only
  split_ifs
  · exact writeEffect_passThrough hlive packet
  rcases avrcpParseVendorFrame packet with e | vendor
  · exact .failed rfl
  dsimp only
  unfold avrcpObserverHandleVendor
  split_ifs with hanswers
  · obtain ⟨hstate, hwrite⟩ := submitPlaybackStatus_write { o with writeActive := false }
      o.playbackStatus
    simp only [avrcpAnswersWrite, decide_eq_true_eq] at hanswers
    refine .answered ?_ rfl hanswers.1 hwrite
    unfold Live avrcpObserverHandleWriteResponse
    dsimp only
    rw [hstate]
    exact hlive
  · exact writeEffect_vendorCommand hlive packet vendor
  · exact .failed rfl
  · exact writeEffect_response packet vendor

end

/-- The writes of the sink: a volume, or a report of the playback status. -/
inductive HostWrite : WriteRequest → Prop
  | volume (value : UInt8) : HostWrite ⟨0x50, 0, [value]⟩
  | report (status : UInt8) : HostWrite ⟨0x31, 0x0D, [0x01, status]⟩

theorem submitted_write {o : AvrcpObserver} (hlive : Live o) (hwrite : o.writeActive = false)
    (hlabel : o.nextTransactionLabel ≤ 0x0F) {request : WriteRequest} (h : HostWrite request) :
    Live (request.submitted o).2 ∧
      (request.response = 0 ∧ (request.submitted o).1.packet ≠ [] ∧
          (request.submitted o).2.writeActive ∨
        request.response ≠ 0 ∧ (request.submitted o).2.writeActive = false) := by
  cases h with
  | volume value =>
    have hidle : ¬ (o.state = .idle ∨ o.state = .failed ∨ o.writeActive) := by
      rintro (h | h | h)
      · exact hlive.1 h
      · exact hlive.2 h
      · rw [hwrite] at h
        cases h
    have hreport : ¬ avrcpIsPlaybackReport 0x50 0 [value] := by
      rw [avrcpIsPlaybackReport, decide_eq_true_eq]
      rintro ⟨h, -⟩
      exact absurd h (by decide)
    have hpacket : avrcpWriteVendorCommand avrcpMaxControlPacket o.nextTransactionLabel
        Protocol.avrcpCtypeControl 0x50 [value] ≠ [] := by
      rw [writeVendorCommand_eq hlabel, written_eq hlabel false _ (by simp)]
      simp
    have hsubmitted : (WriteRequest.mk 0x50 0 [value]).submitted o =
        ({ packet := avrcpWriteVendorCommand avrcpMaxControlPacket o.nextTransactionLabel
            Protocol.avrcpCtypeControl 0x50 [value] },
          { o with
            nextTransactionLabel := avrcpNextLabel o.nextTransactionLabel
            writeLabel := o.nextTransactionLabel
            writePduId := 0x50
            writeActive := true }) := by
      show avrcpObserverSubmitWrite o 0x50 0 [value] = _
      rw [avrcpObserverSubmitWrite, if_neg (by simp), if_neg hreport, if_neg hidle]
      dsimp only
      rw [if_pos rfl, if_neg hpacket]
    rw [hsubmitted]
    exact ⟨hlive, .inl ⟨rfl, hpacket, rfl⟩⟩
  | report status =>
    have hsubmitted : (WriteRequest.mk 0x31 0x0D [0x01, status]).submitted o =
        avrcpObserverSubmitPlaybackStatus o status := by
      show avrcpObserverSubmitWrite o 0x31 0x0D [0x01, status] = _
      have hreport : avrcpIsPlaybackReport 0x31 0x0D [0x01, status] := by
        rw [avrcpIsPlaybackReport, decide_eq_true_eq]
        exact ⟨rfl, rfl, rfl, rfl⟩
      rw [avrcpObserverSubmitWrite, if_neg (by simp), if_pos hreport]
      rfl
    obtain ⟨hstate, hactive⟩ := submitPlaybackStatus_write o status
    rw [hsubmitted]
    refine ⟨?_, .inr ⟨show (0x0D : UInt32) ≠ 0 by decide, hactive.trans hwrite⟩⟩
    unfold Live
    rw [hstate]
    exact hlive

/-! ## The invariant -/

/-- The driver since its start, before the channel is open. -/
structure ObserverDevice.Fresh (d : ObserverDevice) : Prop where
  current : d.eventQueue.generationCurrent
  observer : d.observer = {}
  pendingWrite : d.pendingWrite = none
  inactive : d.writeTransactionActive = false

/-- Who holds the gate while the worker is in its loop, by whether a completion is next, the
    pending write, whether the transaction is active, and the write of the protocol. -/
inductive Holds : Bool → Option WriteRequest → Bool → Bool → Prop
  | nobody : Holds false none false false
  /-- a write that was not taken -/
  | pending {request} : HostWrite request → Holds false (some request) true false
  /-- a command that was sent -/
  | sent : Holds false none true true
  /-- a write whose completion is next -/
  | done : Holds true none true false

/-- The driver, while the worker is in its loop. -/
structure ObserverDevice.Serves (d : ObserverDevice) : Prop where
  current : d.eventQueue.generationCurrent
  live : Live d.observer
  label : d.observer.nextTransactionLabel ≤ 0x0F
  holds : Holds d.worker.completes d.pendingWrite d.writeTransactionActive d.observer.writeActive

/-- **The invariant of the gate.** -/
structure Gated (d : ObserverDevice) : Prop where
  generation : d.eventQueue.aclGeneration = d.aclGeneration
  required : d.runtimeFlags.activationRequired → d.worker = .stopped ∧ d.Fresh
  opening : d.worker = .opening → d.Fresh
  serving : d.worker.serving → d.Serves

/-- What becomes of the driver: it keeps the invariant, and without a mishap what is awaited. -/
structure Proceeds (d d' : ObserverDevice) : Prop where
  mishaps : d.mishaps ≤ d'.mishaps
  gated : Gated d'
  awaited : d'.mishaps = d.mishaps → d.Awaited → d'.Awaited

section
variable {d d' d'' : ObserverDevice}

theorem Proceeds.refl (h : Gated d) : Proceeds d d := ⟨Nat.le_refl _, h, fun _ => id⟩

theorem Proceeds.trans (h : Proceeds d d') (h' : Gated d' → Proceeds d' d'') :
    Proceeds d d'' := by
  have hle := h.mishaps
  have hle' := (h' h.gated).mishaps
  exact ⟨Nat.le_trans hle hle', (h' h.gated).gated, fun hm ha =>
    (h' h.gated).awaited (by omega) (h.awaited (by omega) ha)⟩

theorem Proceeds.excused (hm : d.mishaps < d'.mishaps) (h : Gated d') : Proceeds d d' :=
  ⟨Nat.le_of_lt hm, h, fun heq => absurd heq (by omega)⟩

theorem Proceeds.outside (h : Gated d) (d' : ObserverDevice) (hm : d'.mishaps = d.mishaps)
    (hq : d'.eventQueue = d.eventQueue) (hgeneration : d'.aclGeneration = d.aclGeneration)
    (hr : ¬ d'.runtimeFlags.activationRequired) (hs : ¬ d.worker.serving)
    (ho' : d'.worker ≠ .opening) (hs' : ¬ d'.worker.serving) : Proceeds d d' := by
  refine ⟨Nat.le_of_eq hm.symm, ⟨?_, fun hreq => absurd hreq hr, fun ho => absurd ho ho',
    fun hserving => absurd hserving hs'⟩, fun _ ha => ?_⟩
  · rw [hq, hgeneration]
    exact h.generation
  · rcases ha with ⟨hserving, -⟩ | hqueued
    · exact absurd hserving hs
    · right
      unfold ObserverDevice.ResponseQueued
      rw [hq]
      exact hqueued

theorem Gated.activated (h : Gated d) (hw : d.worker ≠ .stopped) :
    ¬ d.runtimeFlags.activationRequired :=
  fun hr => hw (h.required hr).1

end

/-! ### The queue -/

section
variable {d : ObserverDevice}

theorem withQueue_eq (queue : NldAvrcpEventQueue NldAvrcpObserverEvent) :
    ∃ n, d.withQueue queue = { d with eventQueue := queue, mishaps := n } ∧ d.mishaps ≤ n ∧
      (n = d.mishaps → d.ResponseQueued →
        ({ d with eventQueue := queue } : ObserverDevice).ResponseQueued) := by
  simp only [ObserverDevice.withQueue]
  split_ifs with hlost
  · exact ⟨_, rfl, Nat.le_succ _, fun h => absurd h (by omega)⟩
  · refine ⟨_, rfl, Nat.le_refl _, fun _ hq => ?_⟩
    by_contra hnone
    exact hlost ⟨hq, hnone⟩

theorem withQueue_fields (queue : NldAvrcpEventQueue NldAvrcpObserverEvent) :
    (d.withQueue queue).worker = d.worker ∧ (d.withQueue queue).runtimeFlags = d.runtimeFlags := by
  obtain ⟨n, heq, -⟩ := withQueue_eq (d := d) queue
  rw [heq]
  exact ⟨rfl, rfl⟩

theorem append_fields {ρ : Type} (queue : NldAvrcpEventQueue ρ) (record : ρ) :
    (queue.append record).aclGeneration = queue.aclGeneration ∧
      (queue.append record).generationCurrent = queue.generationCurrent ∧
      record ∈ (queue.append record).events := by
  unfold NldAvrcpEventQueue.append
  split_ifs
  · exact ⟨rfl, rfl, List.mem_append_right _ (List.mem_singleton_self _)⟩
  · exact ⟨rfl, rfl, List.mem_append_right _ (List.mem_singleton_self _)⟩

theorem push_fields {ρ : Type} (queue : NldAvrcpEventQueue ρ) (g : UInt64)
    (type : NldAvrcpObserverEventType) (record : ρ) :
    (queue.push g type record).2.aclGeneration = queue.aclGeneration ∧
      (queue.push g type record).2.generationCurrent = queue.generationCurrent := by
  unfold NldAvrcpEventQueue.push
  split_ifs
  · exact ⟨rfl, rfl⟩
  · exact ⟨(append_fields queue record).1, (append_fields queue record).2.1⟩

theorem isNewerGeneration_next (g : UInt64) : isNewerGeneration (nextNonzero g) g := by
  by_cases hlast : g = 0xffffffffffffffff
  · rw [hlast]
    decide
  have hnonzero : g + 1 ≠ 0 := by
    intro h
    exact hlast (by grind)
  have hdistance : g + 1 - g = 1 := by grind
  rw [nextNonzero, if_neg hlast, isNewerGeneration, if_neg hnonzero, hdistance]
  split_ifs
  · rfl
  · decide

variable (h : Gated d)
include h

theorem Gated.requeued {queue : NldAvrcpEventQueue NldAvrcpObserverEvent}
    (hgeneration : queue.aclGeneration = d.eventQueue.aclGeneration)
    (hcurrent : d.runtimeFlags.activationRequired ∨ d.worker = .opening ∨ d.worker.serving →
      queue.generationCurrent = d.eventQueue.generationCurrent) (n : Nat) :
    Gated { d with eventQueue := queue, mishaps := n } := by
  refine ⟨hgeneration.trans h.generation, fun hr => ?_, fun ho => ?_, fun hs => ?_⟩
  · obtain ⟨hworker, hfresh⟩ := h.required hr
    exact ⟨hworker, (hcurrent (.inl hr)).trans hfresh.current, hfresh.observer,
      hfresh.pendingWrite, hfresh.inactive⟩
  · have hfresh := h.opening ho
    exact ⟨(hcurrent (.inr (.inl ho))).trans hfresh.current, hfresh.observer,
      hfresh.pendingWrite, hfresh.inactive⟩
  · have hserves := h.serving hs
    exact ⟨(hcurrent (.inr (.inr hs))).trans hserves.current, hserves.live, hserves.label,
      hserves.holds⟩

theorem proceeds_withQueue {queue : NldAvrcpEventQueue NldAvrcpObserverEvent}
    (hgeneration : queue.aclGeneration = d.eventQueue.aclGeneration)
    (hcurrent : d.runtimeFlags.activationRequired ∨ d.worker = .opening ∨ d.worker.serving →
      queue.generationCurrent = d.eventQueue.generationCurrent) :
    Proceeds d (d.withQueue queue) := by
  obtain ⟨n, heq, hle, hqueued⟩ := withQueue_eq (d := d) queue
  rw [heq]
  exact ⟨hle, h.requeued hgeneration hcurrent n, fun hm ha => ha.imp id (hqueued hm)⟩

theorem proceeds_push (event : NldAvrcpObserverEvent) : Proceeds d (d.push event) := by
  obtain ⟨hgeneration, hcurrent⟩ := push_fields d.eventQueue d.aclGeneration event.type event
  exact proceeds_withQueue h hgeneration fun _ => hcurrent

theorem proceeds_endGeneration (hr : ¬ d.runtimeFlags.activationRequired)
    (ho : d.worker ≠ .opening) (hs : ¬ d.worker.serving) : Proceeds d d.endGeneration := by
  refine proceeds_withQueue h ?_ fun hneeded => ?_
  · unfold NldAvrcpEventQueue.endGeneration
    split_ifs
    · rfl
    · exact (append_fields d.eventQueue _).1
  · rcases hneeded with hneeded | hneeded | hneeded
    · exact absurd hneeded hr
    · exact absurd hneeded ho
    · exact absurd hneeded hs

theorem proceeds_start : Proceeds d d.start := by
  have hnewer : isNewerGeneration (nextNonzero d.aclGeneration) d.eventQueue.aclGeneration := by
    rw [h.generation]
    exact isNewerGeneration_next _
  have hqueue : d.start.eventQueue.aclGeneration = d.start.aclGeneration ∧
      d.start.eventQueue.generationCurrent := by
    simp only [ObserverDevice.start, NldAvrcpEventQueue.beginGeneration]
    rw [if_neg (not_not.mpr hnewer)]
    exact ⟨(append_fields _ _).1, (append_fields _ _).2.1⟩
  exact .excused (Nat.lt_succ_self _) ⟨hqueue.1, fun _ => ⟨rfl, hqueue.2, rfl, rfl, rfl⟩,
    (fun ho => by cases ho), fun hs => absurd hs Bool.false_ne_true⟩

/-! ### The worker -/

theorem proceeds_leave (hw : d.worker ≠ .stopped) : Proceeds d d.leave :=
  .excused (Nat.lt_succ_self _) ⟨h.generation, fun hreq => absurd hreq (h.activated hw),
    (fun ho => by cases ho), fun hs => absurd hs Bool.false_ne_true⟩

omit h in
theorem begin_fresh :
    (avrcpObserverBegin {}).1.packet ≠ [] ∧ Live (avrcpObserverBegin {}).2 ∧
      (avrcpObserverBegin {}).2.nextTransactionLabel ≤ 0x0F ∧
      (avrcpObserverBegin {}).2.writeActive = false :=
  ⟨by decide, ⟨by decide, by decide⟩, by decide, by decide⟩

theorem proceeds_openChannel : Proceeds d d.openChannel := by
  unfold ObserverDevice.openChannel
  split
  · rename_i hw
    obtain ⟨hsent, hlive, hlabel, hwrite⟩ := begin_fresh
    have hfresh := h.opening hw
    dsimp only
    rw [hfresh.observer, if_neg hsent]
    refine ⟨Nat.le_refl _, ⟨h.generation, fun hr => ?_, (fun ho => by cases ho), fun _ => ?_⟩,
      fun _ ha => ?_⟩
    · exact absurd hr (h.activated (by simp [hw]))
    · refine ⟨hfresh.current, hlive, hlabel, ?_⟩
      dsimp only
      rw [hfresh.pendingWrite, hfresh.inactive, hwrite]
      exact .nobody
    · rcases ha with ⟨hs, -⟩ | hq
      · rw [hw] at hs
        cases hs
      · exact .inr hq
  · exact .refl h

theorem proceeds_openFailed : Proceeds d d.openFailed := by
  unfold ObserverDevice.openFailed
  split
  · rename_i hw
    have hr := h.activated (by simp [hw])
    refine (Proceeds.outside h { d with worker := .stopped } rfl rfl rfl hr
      (by simp [hw, serving]) (by simp) (by simp [serving])).trans
      fun h' => (proceeds_push h' { type := .protocolError }).trans fun h'' => ?_
    obtain ⟨hworker, hflags⟩ := withQueue_fields (d := { d with worker := .stopped }) _
    refine proceeds_endGeneration h'' ?_ ?_ ?_
    · rw [ObserverDevice.push, hflags]
      exact hr
    · rw [ObserverDevice.push, hworker]
      simp
    · rw [ObserverDevice.push, hworker]
      simp [serving]
  · exact .refl h

theorem proceeds_takeWrite : Proceeds d d.takeWrite := by
  unfold ObserverDevice.takeWrite
  split
  · rename_i request hw hp
    have hserves := h.serving (by simp [hw, serving])
    obtain ⟨hrequest, hactive, hwrite⟩ : HostWrite request ∧ d.writeTransactionActive ∧
        d.observer.writeActive = false := by
      have hholds := hserves.holds
      rw [hp, hw] at hholds
      generalize d.writeTransactionActive = active at hholds ⊢
      generalize d.observer.writeActive = write at hholds ⊢
      cases hholds with
      | pending hrequest => exact ⟨hrequest, rfl, rfl⟩
    obtain ⟨hlive, hsubmitted⟩ := submitted_write hserves.live hwrite hserves.label hrequest
    have hlabel : (request.submitted d.observer).2.nextTransactionLabel ≤ 0x0F :=
      label_step hserves.label (.write _ _ _)
    have hr := h.activated (by simp [hw])
    dsimp only
    rcases hsubmitted with ⟨hcommand, hsent, houtstanding⟩ | ⟨hreport, hidle⟩
    · rw [if_pos ⟨hsent, hcommand⟩]
      refine ⟨Nat.le_refl _, ⟨h.generation, fun hreq => absurd hreq hr, (fun ho => by cases ho),
        fun _ => ⟨hserves.current, hlive, hlabel, ?_⟩⟩, fun _ _ => .inl ⟨rfl, .inr houtstanding⟩⟩
      dsimp only
      rw [hactive, houtstanding]
      exact .sent
    · rw [if_neg fun hc => hreport hc.2]
      refine ⟨Nat.le_refl _, ⟨h.generation, fun hreq => absurd hreq hr, (fun ho => by cases ho),
        fun _ => ⟨hserves.current, hlive, hlabel, ?_⟩⟩, fun _ ha => ?_⟩
      · dsimp only
        rw [hactive, hidle]
        exact .done
      · rcases ha with ⟨-, ⟨_, hp', hcommand⟩ | hsent⟩ | hq
        · rw [hp] at hp'
          cases hp'
          exact absurd hcommand hreport
        · rw [hwrite] at hsent
          cases hsent
        · exact .inr hq
  · exact .refl h

omit h in
theorem queueProtocolEvent_eq (event : Protocol.AvrcpObserverEvent) :
    ∃ queue n, d.queueProtocolEvent event = { d with eventQueue := queue, mishaps := n } ∧
      d.mishaps ≤ n ∧ queue.aclGeneration = d.eventQueue.aclGeneration ∧
      queue.generationCurrent = d.eventQueue.generationCurrent ∧
      (n = d.mishaps → d.ResponseQueued →
        ({ d with eventQueue := queue } : ObserverDevice).ResponseQueued) ∧
      (event.kind = .writeResponse → d.eventQueue.generationCurrent →
        d.eventQueue.aclGeneration = d.aclGeneration →
        ({ d with eventQueue := queue } : ObserverDevice).ResponseQueued) := by
  unfold ObserverDevice.queueProtocolEvent
  rcases hrecord : protocolEventRecord event with _ | record
  · refine ⟨_, _, rfl, Nat.le_refl _, rfl, rfl, fun _ => id, fun hk => ?_⟩
    simp only [protocolEventRecord, hk] at hrecord
    cases hrecord
  · obtain ⟨hgeneration, hcurrent⟩ := push_fields d.eventQueue d.aclGeneration record.type record
    obtain ⟨n, heq, hle, hqueued⟩ := withQueue_eq (d := d)
      (d.eventQueue.push d.aclGeneration record.type record).2
    refine ⟨_, n, heq, hle, hgeneration, hcurrent, hqueued, fun hk hc hg => ?_⟩
    have htype : record.type = .writeResponse := by
      simp only [protocolEventRecord, hk] at hrecord
      cases hrecord
      rfl
    rw [NldAvrcpEventQueue.push, if_neg (by simp [hc, hg, htype])]
    exact ⟨record, (append_fields d.eventQueue record).2.2, htype⟩

theorem proceeds_readPacket (packet : List UInt8) : Proceeds d (d.readPacket packet) := by
  unfold ObserverDevice.readPacket
  split
  · rename_i hw
    have hserves := h.serving (by simp [hw, serving])
    have hr := h.activated (by simp [hw])
    have hlabel : (avrcpObserverHandlePacket d.observer packet).2.nextTransactionLabel ≤ 0x0F :=
      label_step hserves.label (.packet packet)
    have heffect := writeEffect_packet hserves.live packet
    dsimp only
    generalize avrcpObserverHandlePacket d.observer packet = r at hlabel heffect ⊢
    obtain ⟨queue, n, heq, hle, hgeneration, hcurrent, hkept, hanswered⟩ :=
      queueProtocolEvent_eq (d := { d with observer := r.2 }) r.1.event
    rw [heq]
    cases heffect with
    | failed hk =>
      rw [if_pos hk]
      exact .excused (Nat.lt_succ_of_le hle) ⟨hgeneration.trans h.generation,
        fun hreq => absurd hreq hr, (fun ho => by cases ho), fun hs => absurd hs Bool.false_ne_true⟩
    | answered hlive hk hwrite hwrite' =>
      rw [if_neg (by simp [hk])]
      refine ⟨hle, ⟨hgeneration.trans h.generation, fun hreq => absurd hreq hr,
        (fun ho => by cases ho), fun _ => ⟨hcurrent.trans hserves.current, hlive, hlabel, ?_⟩⟩,
        fun _ _ => .inr (hanswered hk hserves.current h.generation)⟩
      have hholds := hserves.holds
      rw [hw, hwrite] at hholds
      dsimp only [completes] at hholds ⊢
      rw [hwrite', hk]
      generalize d.pendingWrite = pending at hholds ⊢
      generalize d.writeTransactionActive = active at hholds ⊢
      cases hholds with
      | sent => exact .done
    | passed hlive hk hwrite =>
      by_cases herror : r.1.event.kind = .protocolError
      · rw [if_pos herror]
        exact .excused (Nat.lt_succ_of_le hle) ⟨hgeneration.trans h.generation,
          fun hreq => absurd hreq hr, (fun ho => by cases ho),
          fun hs => absurd hs Bool.false_ne_true⟩
      rw [if_neg herror]
      refine ⟨hle, ⟨hgeneration.trans h.generation, fun hreq => absurd hreq hr,
        (fun ho => by cases ho), fun _ => ⟨hcurrent.trans hserves.current, hlive, hlabel, ?_⟩⟩,
        fun hm ha => ?_⟩
      · have hholds := hserves.holds
        rw [hw] at hholds
        dsimp only [completes] at hholds ⊢
        rw [hwrite, decide_eq_false hk]
        exact hholds
      · rcases ha with ⟨-, hp | hsent⟩ | hq
        · exact .inl ⟨rfl, .inl hp⟩
        · exact .inl ⟨rfl, .inr (hwrite.trans hsent)⟩
        · exact .inr (hkept hm hq)
  · exact .refl h

theorem proceeds_break : Proceeds d d.break_ := by
  unfold ObserverDevice.break_
  split_ifs with hc
  · refine proceeds_leave h fun hw => ?_
    rw [hw] at hc
    simp [serving] at hc
  · exact .refl h

theorem proceeds_exit (remote : Bool) : Proceeds d (d.exit remote) := by
  unfold ObserverDevice.exit
  split
  · rename_i hw
    exact .outside h _ rfl rfl rfl (h.activated (by simp [hw])) (by simp [hw, serving])
      (by simp) (by simp [serving])
  · exact .refl h

theorem proceeds_completed (hc : d.worker.completes) :
    Proceeds d { d.completeWrite with worker := .reading } := by
  have hs : d.worker.serving := by
    cases hw : d.worker <;> simp [hw, completes, serving] at hc ⊢
  have hserves := h.serving hs
  have hr := h.activated fun hw => by simp [hw, serving] at hs
  obtain ⟨hp, hwrite⟩ : d.pendingWrite = none ∧ d.observer.writeActive = false := by
    have hholds := hserves.holds
    rw [hc] at hholds
    generalize d.pendingWrite = pending at hholds ⊢
    generalize d.writeTransactionActive = active at hholds
    generalize d.observer.writeActive = write at hholds ⊢
    cases hholds with
    | done => exact ⟨rfl, rfl⟩
  refine ⟨Nat.le_refl _, ⟨h.generation, fun hreq => absurd hreq hr, (fun ho => by cases ho),
    fun _ => ⟨hserves.current, hserves.live, hserves.label, ?_⟩⟩, fun _ ha => ?_⟩
  · show Holds false d.pendingWrite false d.observer.writeActive
    rw [hp, hwrite]
    exact .nobody
  · rcases ha with ⟨-, hpending | hsent⟩ | hq
    · rw [hp] at hpending
      obtain ⟨_, hmem, -⟩ := hpending
      cases hmem
    · rw [hwrite] at hsent
      cases hsent
    · exact .inr hq

theorem proceeds_readOn (hs : d.worker.serving) (hc : d.worker.completes = false)
    {flags : ObserverRuntimeFlags}
    (hflags : flags.activationRequired = d.runtimeFlags.activationRequired) :
    Proceeds d { d with worker := .reading, runtimeFlags := flags } := by
  have hserves := h.serving hs
  have hr := h.activated fun hw => by simp [hw, serving] at hs
  have hholds := hserves.holds
  rw [hc] at hholds
  refine ⟨Nat.le_refl _, ⟨h.generation, fun hreq => absurd (hflags.symm.trans hreq) hr,
    (fun ho => by cases ho), fun _ => ⟨hserves.current, hserves.live, hserves.label, hholds⟩⟩,
    fun _ ha => ?_⟩
  rcases ha with ⟨-, houtstanding⟩ | hq
  · exact .inl ⟨rfl, houtstanding⟩
  · exact .inr hq

theorem proceeds_settle : Proceeds d d.settle := by
  unfold ObserverDevice.settle
  split
  · rename_i hw
    exact proceeds_completed h (by rw [hw]; rfl)
  · rename_i event hw
    have hs : d.worker.serving := by rw [hw]; rfl
    have hon : event.kind ≠ .writeResponse → ∀ flags : ObserverRuntimeFlags,
        flags.activationRequired = d.runtimeFlags.activationRequired →
        Proceeds d { d with worker := .reading, runtimeFlags := flags } := by
      intro hk flags hflags
      exact proceeds_readOn h hs (by rw [hw]; exact decide_eq_false hk) hflags
    cases hk : event.kind with
    | writeResponse => exact proceeds_completed h (by rw [hw]; exact decide_eq_true hk)
    | volumeCapability => exact hon (by simp [hk]) _ rfl
    | volumeChanged => exact hon (by simp [hk]) _ rfl
    | _ => exact hon (by simp [hk]) d.runtimeFlags rfl
  · rename_i remote hw
    have hr := h.activated (by simp [hw])
    have hphase : ∀ phase, phase = (if remote then restarting else .stopped) →
        phase ≠ .opening ∧ ¬ phase.serving := by
      rintro _ rfl
      split_ifs
      · exact ⟨by simp, by simp [serving]⟩
      · exact ⟨by simp, by simp [serving]⟩
    obtain ⟨ho, hs⟩ := hphase _ rfl
    exact (Proceeds.outside h { d with
      worker := if remote then .restarting else .stopped
      runtimeFlags := { d.runtimeFlags with observing := false } } rfl rfl rfl hr
      (by simp [hw, serving]) ho hs).trans fun h' => proceeds_endGeneration h' hr ho hs
  · exact proceeds_start h
  · exact .refl h

theorem proceeds_flush (remote : Bool) : Proceeds d (d.flush remote) :=
  (proceeds_break h).trans fun h => (proceeds_exit h remote).trans fun h =>
    (proceeds_settle h).trans fun h => proceeds_settle h

/-! ### The device -/

omit h in
theorem exit_worker (remote : Bool) :
    (d.break_.exit remote).worker = .stopped ∨ (d.break_.exit remote).worker = .restarting ∨
      ∃ remote', (d.break_.exit remote).worker = .closing remote' := by
  cases hw : d.worker <;>
    simp [ObserverDevice.break_, ObserverDevice.exit, ObserverDevice.leave, serving, hw]

omit h in
theorem settle_closing {remote : Bool} (hw : d.worker = .closing remote) :
    d.settle.worker = if remote then .restarting else .stopped := by
  unfold ObserverDevice.settle ObserverDevice.endGeneration
  rw [hw]
  exact (withQueue_fields _).1

omit h in
theorem settle_restarting (hw : d.worker = .restarting) : d.settle.worker = .stopped := by
  unfold ObserverDevice.settle
  rw [hw]
  rfl

omit h in
theorem settle_stopped (hw : d.worker = .stopped) : d.settle.worker = .stopped := by
  unfold ObserverDevice.settle
  rw [hw]
  exact hw

omit h in
theorem flush_worker (remote : Bool) : (d.flush remote).worker = .stopped := by
  unfold ObserverDevice.flush
  rcases exit_worker (d := d) remote with hw | hw | ⟨remote', hw⟩
  · exact settle_stopped (settle_stopped hw)
  · exact settle_stopped (settle_restarting hw)
  · have hsettled := settle_closing hw
    cases remote' with
    | true => exact settle_restarting hsettled
    | false => exact settle_stopped hsettled

theorem proceeds_stop (remote : Bool) : Proceeds d (d.stop remote) := by
  have ho : (d.flush remote).worker ≠ .opening := by simp [flush_worker]
  have hs : ¬ (d.flush remote).worker.serving := by simp [flush_worker, serving]
  refine (proceeds_flush h remote).trans fun h => ?_
  refine (Proceeds.outside h { (d.flush remote).completeWrite with runtimeFlags := {} } rfl
    rfl rfl (by simp) hs ho hs).trans fun h => ?_
  exact proceeds_endGeneration h (by simp) ho hs

theorem proceeds_fileCleanup (remote : Bool) : Proceeds d (d.fileCleanup remote) :=
  (proceeds_stop h remote).trans fun h => proceeds_start h

theorem proceeds_next (step : DriverStep) : Proceeds d (d.next step) := by
  cases step with
  | openChannel => exact proceeds_openChannel h
  | openFailed => exact proceeds_openFailed h
  | takeWrite => exact proceeds_takeWrite h
  | readPacket packet => exact proceeds_readPacket h packet
  | break_ => exact proceeds_break h
  | exit remote => exact proceeds_exit h remote
  | settle => exact proceeds_settle h
  | stop remote => exact proceeds_stop h remote
  | start => exact proceeds_start h

theorem proceeds_foldl (steps : List DriverStep) : Proceeds d (steps.foldl (·.next) d) := by
  induction steps generalizing d with
  | nil => exact .refl h
  | cons step steps ih => exact (proceeds_next h step).trans fun h => ih h

/-! ### Requests of the host -/

theorem proceeds_beginObservation : Proceeds d d.beginObservation.2 := by
  unfold ObserverDevice.beginObservation
  split_ifs with hrunning hready
  · exact .refl h
  · obtain ⟨hworker, hfresh⟩ := h.required hready.2
    refine ⟨Nat.le_refl _, ⟨h.generation, fun hr => absurd hr Bool.false_ne_true,
      fun _ => ⟨hfresh.current, hfresh.observer, hfresh.pendingWrite, hfresh.inactive⟩,
      fun hs => absurd hs Bool.false_ne_true⟩, fun _ ha => ?_⟩
    rcases ha with ⟨hs, -⟩ | hq
    · rw [hworker] at hs
      cases hs
    · exact .inr hq
  · exact .refl h

theorem proceeds_refused :
    Proceeds d d.refused ∧ (d.refused.mishaps = d.mishaps → d.refused.Awaited) := by
  unfold ObserverDevice.refused
  by_cases ha : d.Awaited
  · rw [if_pos ha]
    exact ⟨.refl h, fun _ => ha⟩
  · rw [if_neg ha]
    exact ⟨.excused (Nat.lt_succ_self _) (h.requeued rfl (fun _ => rfl) _),
      fun hm => absurd hm (Nat.succ_ne_self _)⟩

omit h in
theorem hostWrite_valid {request : WriteRequest} (hr : HostWrite request) :
    ¬ (request.parameters.length > 8 ∨ request.pduId = 0 ∨ request.response > 0x0F) := by
  cases hr with
  | volume value => simp
  | report status => simp

theorem proceeds_sendCommand {request : WriteRequest} (hr : HostWrite request) :
    Proceeds d (d.sendCommand request).2 ∧
      ((d.sendCommand request).1 = false →
        (d.sendCommand request).2.mishaps = d.mishaps → (d.sendCommand request).2.Awaited) := by
  unfold ObserverDevice.sendCommand
  rw [if_neg (hostWrite_valid hr)]
  by_cases hbusy : d.Busy
  · rw [if_pos hbusy]
    obtain ⟨hproceeds, hrefused⟩ := proceeds_refused h
    exact ⟨hproceeds, fun _ => hrefused⟩
  · rw [if_neg hbusy]
    simp only [ObserverDevice.Busy, not_or, Bool.not_eq_true, Option.isSome_eq_false_iff,
      Option.isNone_iff_eq_none] at hbusy
    obtain ⟨hp, hactive, hrunning, hopen⟩ := hbusy
    have hworker : d.worker ≠ .stopped := by
      intro hw
      simp [hw, running] at hrunning
    refine ⟨⟨Nat.le_refl _, ⟨h.generation, fun hreq => absurd hreq (h.activated hworker),
      fun ho => ?_, fun hs => ?_⟩, fun _ ha => ?_⟩, fun hf => by cases hf⟩
    · rw [show d.worker = .opening from ho] at hopen
      simp [WorkerPhase.channelOpen] at hopen
    · have hserves := h.serving hs
      refine ⟨hserves.current, hserves.live, hserves.label, ?_⟩
      have hholds := hserves.holds
      rw [hp, hactive] at hholds
      dsimp only
      generalize d.worker.completes = completes at hholds ⊢
      generalize d.observer.writeActive = write at hholds ⊢
      cases hholds with
      | nobody => exact .pending hr
    · rcases ha with ⟨hs, ⟨_, hpending, -⟩ | hsent⟩ | hq
      · rw [hp] at hpending
        cases hpending
      · exact .inl ⟨hs, .inr hsent⟩
      · exact .inr hq

theorem gated_dequeueEvent : Gated d.dequeueEvent.2 := by
  refine h.requeued ?_ (fun _ => ?_) d.mishaps
  · unfold NldAvrcpEventQueue.pop
    split <;> rfl
  · unfold NldAvrcpEventQueue.pop
    split <;> rfl

theorem proceeds_dequeueEvent
    (hnot : ∀ event, d.dequeueEvent.1 = .ok event → event.type ≠ .writeResponse) :
    Proceeds d d.dequeueEvent.2 := by
  refine ⟨Nat.le_refl _, gated_dequeueEvent h, fun _ ha => ha.imp id ?_⟩
  rintro ⟨event, hmem, ht⟩
  unfold ObserverDevice.dequeueEvent NldAvrcpEventQueue.pop at hnot
  show ∃ event ∈ d.eventQueue.pop.2.events, event.type = .writeResponse
  unfold NldAvrcpEventQueue.pop
  rcases hevents : d.eventQueue.events with _ | ⟨first, rest⟩
  · rw [hevents] at hmem
    cases hmem
  · rw [hevents] at hmem hnot
    rcases List.mem_cons.mp hmem with rfl | hrest
    · exact absurd ht (hnot _ rfl)
    · exact ⟨event, hrest, ht⟩

end

end NativeLdac.Sideband
