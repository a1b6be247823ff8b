/-
  The trace queue of the AVRCP filter driver
  (`avrcp-filter/src/nativeldac_avrcp_filter_trace_contract.c`).

  * `NldAvrcpFilterTraceQueue` is the queue in its buffer, `filterTrace` the machine of its
    operations after `NldAvrcpFilterTraceInitialize`;
  * `traceFifo` is what the queue is for: a bounded FIFO that forgets its oldest event, beside
    the list of what was pushed;
  * `filterTrace_refines`: nothing tells the two apart.

  `Head` and `Count` are natural numbers: the invariant bounds them, so that none of their
  operations wraps.
-/
import NativeLdac.Lib.RingBuffer
import NativeLdac.Sideband.EventRing

namespace NativeLdac.Filter

open Sideband (sequenceNumber sequenceNumber_succ sequenceNumber_toNat)

/-! ## The queue -/

def nldAvrcpFilterTraceCapacity : Nat := 128
def nldAvrcpFilterRawPrefixCapacity : Nat := 32
def sizeofNldAvrcpFilterEvent : UInt32 := 96
def sizeofNldAvrcpFilterStatus : UInt32 := 64
def filterStatusQueueOverflow : UInt32 := 0x00000004

/-! `NLD_AVRCP_FILTER_EVENT_TYPE`; a caller may pass any value. -/

def filterEventLifecycle : Int32 := 1
def filterEventRequest : Int32 := 2
def filterEventCompletion : Int32 := 3
def filterEventCaptureFailure : Int32 := 4

structure NldAvrcpFilterEvent where
  size : UInt32 := 0
  type : UInt32 := 0
  sequence : UInt64 := 0
  requestId : UInt64 := 0
  timestamp100ns : UInt64 := 0
  flags : UInt32 := 0
  controlCode : UInt32 := 0
  inputSize : UInt32 := 0
  outputSize : UInt32 := 0
  status : Int32 := 0
  rawSize : UInt32 := 0
  information : UInt64 := 0
  rawPrefix : List UInt8 := .replicate nldAvrcpFilterRawPrefixCapacity 0
  deriving DecidableEq, Repr

/-- What `NldAvrcpFilterTracePush` is given besides the queue. A caller that passes bytes passes
    as many as it says, as far as they are read. -/
structure NldAvrcpFilterEventContent where
  type : Int32
  requestId : UInt64 := 0
  flags : UInt32 := 0
  controlCode : UInt32 := 0
  inputSize : UInt32 := 0
  outputSize : UInt32 := 0
  status : Int32 := 0
  information : UInt64 := 0
  rawPrefix : Option (List UInt8) := none
  rawSize : UInt32 := 0
  timestamp100ns : UInt64 := 0
  readable : ∀ bytes, rawPrefix = some bytes →
    min rawSize.toNat nldAvrcpFilterRawPrefixCapacity ≤ bytes.length := by simp

namespace NldAvrcpFilterEventContent

variable (content : NldAvrcpFilterEventContent)

def Traced : Prop :=
  ¬ (content.type < filterEventLifecycle ∨ content.type > filterEventCaptureFailure)

instance : Decidable content.Traced := inferInstanceAs (Decidable (¬ _))

def boundedRawSize : UInt32 :=
  if content.rawSize > UInt32.ofNat nldAvrcpFilterRawPrefixCapacity then
    UInt32.ofNat nldAvrcpFilterRawPrefixCapacity
  else content.rawSize

/-- The event that is stored, with its number. -/
def event (sequence : UInt64) : NldAvrcpFilterEvent :=
  let event : NldAvrcpFilterEvent :=
    { size := sizeofNldAvrcpFilterEvent
      type := content.type.toUInt32
      sequence := sequence
      requestId := content.requestId
      timestamp100ns := content.timestamp100ns
      flags := content.flags
      controlCode := content.controlCode
      inputSize := content.inputSize
      outputSize := content.outputSize
      status := content.status
      information := content.information }
  match content.rawPrefix with
  | none => event
  | some bytes =>
    if content.boundedRawSize ≠ 0 then
      { event with
        rawPrefix := CircularBuffer.overwrite event.rawPrefix 0
          (bytes.take content.boundedRawSize.toNat)
        rawSize := content.boundedRawSize }
    else event

end NldAvrcpFilterEventContent

structure NldAvrcpFilterTraceQueue where
  events : List NldAvrcpFilterEvent := .replicate nldAvrcpFilterTraceCapacity {}
  nextSequence : UInt64 := 0
  nextRequestId : UInt64 := 0
  requestsObserved : UInt64 := 0
  completionsObserved : UInt64 := 0
  captureFailures : UInt64 := 0
  head : Nat := 0
  count : Nat := 0
  droppedEvents : UInt32 := 0
  lastCompletionStatus : Int32 := 0
  deriving DecidableEq, Repr

structure NldAvrcpFilterStatus where
  size : UInt32 := sizeofNldAvrcpFilterStatus
  flags : UInt32
  queueDepth : Nat
  droppedEvents : UInt32
  nextSequence : UInt64
  nextRequestId : UInt64
  requestsObserved : UInt64
  completionsObserved : UInt64
  captureFailures : UInt64
  lastCompletionStatus : Int32
  deriving DecidableEq, Repr

def nldAvrcpFilterNextNonzero (value : UInt64) : UInt64 :=
  if value = 0xffffffffffffffff then 1 else value + 1

namespace NldAvrcpFilterTraceQueue

variable (queue : NldAvrcpFilterTraceQueue)

/-- `NldAvrcpFilterTraceInitialize` -/
def initialized : NldAvrcpFilterTraceQueue := { nextSequence := 1, nextRequestId := 1 }

def allocateRequestId : UInt64 × NldAvrcpFilterTraceQueue :=
  (queue.nextRequestId,
    { queue with nextRequestId := nldAvrcpFilterNextNonzero queue.nextRequestId })

/-- `NldAvrcpFilterTracePush`: a full queue forgets its oldest event. -/
def makeRoom : NldAvrcpFilterTraceQueue :=
  if queue.count = nldAvrcpFilterTraceCapacity then
    { queue with
      head := (queue.head + 1) % nldAvrcpFilterTraceCapacity
      count := queue.count - 1
      droppedEvents := queue.droppedEvents + 1 }
  else queue

/-- `NldAvrcpFilterTracePush`: the counters of the types. -/
def observe (type status : Int32) : NldAvrcpFilterTraceQueue :=
  if type = filterEventRequest then
    { queue with requestsObserved := queue.requestsObserved + 1 }
  else if type = filterEventCompletion then
    { queue with
      completionsObserved := queue.completionsObserved + 1
      lastCompletionStatus := status }
  else if type = filterEventCaptureFailure then
    { queue with captureFailures := queue.captureFailures + 1 }
  else queue

/-- `NldAvrcpFilterTracePush`: the event goes behind the others. -/
def store (content : NldAvrcpFilterEventContent) : NldAvrcpFilterTraceQueue :=
  let stored : NldAvrcpFilterTraceQueue :=
    { queue with
      events := queue.events.set ((queue.head + queue.count) % nldAvrcpFilterTraceCapacity)
        (content.event queue.nextSequence)
      nextSequence := nldAvrcpFilterNextNonzero queue.nextSequence }
  { stored.observe content.type content.status with count := queue.count + 1 }

def push (content : NldAvrcpFilterEventContent) : NldAvrcpFilterTraceQueue :=
  if ¬ content.Traced then queue else queue.makeRoom.store content

/-- `NldAvrcpFilterTracePop`: the slot is cleared. -/
def pop : Option NldAvrcpFilterEvent × NldAvrcpFilterTraceQueue :=
  if queue.count = 0 then (none, queue)
  else
    (some (queue.events.getD queue.head {}),
      { queue with
        events := queue.events.set queue.head {}
        head := (queue.head + 1) % nldAvrcpFilterTraceCapacity
        count := queue.count - 1 })

def getStatus (runtimeFlags : UInt32) : NldAvrcpFilterStatus where
  flags :=
    if queue.droppedEvents ≠ 0 then runtimeFlags ||| filterStatusQueueOverflow else runtimeFlags
  queueDepth := queue.count
  droppedEvents := queue.droppedEvents
  nextSequence := queue.nextSequence
  nextRequestId := queue.nextRequestId
  requestsObserved := queue.requestsObserved
  completionsObserved := queue.completionsObserved
  captureFailures := queue.captureFailures
  lastCompletionStatus := queue.lastCompletionStatus

end NldAvrcpFilterTraceQueue

/-- The operations of a queue, each with its arguments. -/
inductive NldAvrcpFilterTraceOp where
  | allocateRequestId
  | push (content : NldAvrcpFilterEventContent)
  | pop
  | getStatus (runtimeFlags : UInt32)

inductive NldAvrcpFilterTraceAnswer where
  | done
  | requestId (requestId : UInt64)
  | popped (event : Option NldAvrcpFilterEvent)
  | status (status : NldAvrcpFilterStatus)
  deriving DecidableEq, Repr

def filterTrace :
    Reducer NldAvrcpFilterTraceQueue NldAvrcpFilterTraceOp NldAvrcpFilterTraceAnswer where
  step queue
    | .allocateRequestId => queue.allocateRequestId.map .requestId id
    | .push content => (.done, queue.push content)
    | .pop => queue.pop.map .popped id
    | .getStatus runtimeFlags => (.status (queue.getStatus runtimeFlags), queue)

/-! ## The bounded FIFO -/

/-- What the queue is for: the FIFO, what was pushed into it, and how many events it has lost. -/
structure FilterTraceFifo where
  fifo : BoundedFifo NldAvrcpFilterEvent nldAvrcpFilterTraceCapacity := .empty
  traced : List NldAvrcpFilterEventContent := []
  lost : Nat := 0
  allocated : Nat := 0

namespace FilterTraceFifo

variable (a : FilterTraceFifo)

/-- An event of a type that is not traced leaves nothing behind. -/
def push (content : NldAvrcpFilterEventContent) : FilterTraceFifo :=
  if ¬ content.Traced then a
  else
    { a with
      fifo := a.fifo.push [content.event (sequenceNumber a.traced.length)]
      traced := a.traced ++ [content]
      lost := if a.fifo.contents.length = nldAvrcpFilterTraceCapacity then a.lost + 1 else a.lost }

/-- The events pushed of a type. -/
def observed (type : Int32) : List NldAvrcpFilterEventContent :=
  a.traced.filter (·.type = type)

def getStatus (runtimeFlags : UInt32) : NldAvrcpFilterStatus where
  flags :=
    if UInt32.ofNat a.lost ≠ 0 then runtimeFlags ||| filterStatusQueueOverflow else runtimeFlags
  queueDepth := a.fifo.contents.length
  droppedEvents := UInt32.ofNat a.lost
  nextSequence := sequenceNumber a.traced.length
  nextRequestId := sequenceNumber a.allocated
  requestsObserved := UInt64.ofNat (a.observed filterEventRequest).length
  completionsObserved := UInt64.ofNat (a.observed filterEventCompletion).length
  captureFailures := UInt64.ofNat (a.observed filterEventCaptureFailure).length
  lastCompletionStatus := (a.observed filterEventCompletion).getLast?.elim 0 (·.status)

/-- The operations, as the queue has them, with the FIFO in its place. -/
def step : NldAvrcpFilterTraceOp → NldAvrcpFilterTraceAnswer × FilterTraceFifo
  | .allocateRequestId =>
    (.requestId (sequenceNumber a.allocated), { a with allocated := a.allocated + 1 })
  | .push content => (.done, a.push content)
  | .pop => (.popped (a.fifo.pop 1).1.head?, { a with fifo := (a.fifo.pop 1).2 })
  | .getStatus runtimeFlags => (.status (a.getStatus runtimeFlags), a)

end FilterTraceFifo

def traceFifo : Reducer FilterTraceFifo NldAvrcpFilterTraceOp NldAvrcpFilterTraceAnswer where
  step := FilterTraceFifo.step

/-! ## The refinement -/

namespace NldAvrcpFilterTraceQueue

variable (queue : NldAvrcpFilterTraceQueue)

/-- The events in their buffer. -/
def ring : RingBuffer NldAvrcpFilterEvent := ⟨queue.events, queue.head, queue.count⟩

theorem ring_makeRoom : queue.makeRoom.ring = queue.ring.makeRoom nldAvrcpFilterTraceCapacity := by
  unfold makeRoom RingBuffer.makeRoom
  split_ifs with h h' h'
  · rfl
  · exact absurd h h'
  · exact absurd h' h
  · rfl

theorem ring_store (content : NldAvrcpFilterEventContent) :
    (queue.store content).ring =
      queue.ring.store nldAvrcpFilterTraceCapacity (content.event queue.nextSequence) := by
  unfold store observe
  split_ifs <;> rfl

theorem makeRoom_counters :
    queue.makeRoom.nextSequence = queue.nextSequence ∧
      queue.makeRoom.nextRequestId = queue.nextRequestId ∧
      queue.makeRoom.droppedEvents =
        if queue.count = nldAvrcpFilterTraceCapacity then queue.droppedEvents + 1
        else queue.droppedEvents := by
  unfold makeRoom
  split_ifs
  · exact ⟨rfl, rfl, rfl⟩
  · exact ⟨rfl, rfl, rfl⟩

theorem store_counters (content : NldAvrcpFilterEventContent) :
    (queue.store content).nextSequence = nldAvrcpFilterNextNonzero queue.nextSequence ∧
      (queue.store content).nextRequestId = queue.nextRequestId ∧
      (queue.store content).droppedEvents = queue.droppedEvents := by
  unfold store observe
  split_ifs <;> exact ⟨rfl, rfl, rfl⟩

theorem ring_pop :
    queue.pop.1 = (queue.ring.pop nldAvrcpFilterTraceCapacity {}).1 ∧
      queue.pop.2.ring = (queue.ring.pop nldAvrcpFilterTraceCapacity {}).2 := by
  unfold pop RingBuffer.pop
  split_ifs with h h' h'
  · exact ⟨rfl, rfl⟩
  · exact absurd h h'
  · exact absurd h' h
  · exact ⟨rfl, rfl⟩

end NldAvrcpFilterTraceQueue

/-- The counters of the types count what was pushed. -/
structure Tallied (queue : NldAvrcpFilterTraceQueue) (a : FilterTraceFifo) : Prop where
  requests : queue.requestsObserved = UInt64.ofNat (a.observed filterEventRequest).length
  completions : queue.completionsObserved = UInt64.ofNat (a.observed filterEventCompletion).length
  failures : queue.captureFailures = UInt64.ofNat (a.observed filterEventCaptureFailure).length
  lastStatus : queue.lastCompletionStatus =
    (a.observed filterEventCompletion).getLast?.elim 0 (·.status)

section
variable {queue : NldAvrcpFilterTraceQueue} {a : FilterTraceFifo}
variable {content : NldAvrcpFilterEventContent}

theorem observed_push (htraced : content.Traced) (type : Int32) :
    (a.push content).observed type =
      a.observed type ++ if content.type = type then [content] else [] := by
  rw [FilterTraceFifo.push, if_neg (not_not.mpr htraced)]
  simp only [FilterTraceFifo.observed, List.filter_append, List.filter_cons, List.filter_nil,
    decide_eq_true_eq]

theorem Tallied.makeRoom (h : Tallied queue a) : Tallied queue.makeRoom a := by
  unfold NldAvrcpFilterTraceQueue.makeRoom
  split_ifs
  · exact ⟨h.requests, h.completions, h.failures, h.lastStatus⟩
  · exact h

theorem Tallied.observe (h : Tallied queue a) (htraced : content.Traced) :
    Tallied (queue.observe content.type content.status) (a.push content) := by
  obtain ⟨hrequests, hcompletions, hfailures, hlast⟩ := h
  have hdistinct : filterEventRequest ≠ filterEventCompletion ∧
      filterEventRequest ≠ filterEventCaptureFailure ∧
      filterEventCompletion ≠ filterEventCaptureFailure := by decide
  obtain ⟨hrc, hrf, hcf⟩ := hdistinct
  unfold NldAvrcpFilterTraceQueue.observe
  by_cases hr : content.type = filterEventRequest
  · rw [if_pos hr]
    constructor <;> rw [observed_push htraced, hr]
    · rw [if_pos rfl, List.length_append, UInt64.ofNat_add, ← hrequests]
      rfl
    · rw [if_neg hrc, List.append_nil]
      exact hcompletions
    · rw [if_neg hrf, List.append_nil]
      exact hfailures
    · rw [if_neg hrc, List.append_nil]
      exact hlast
  rw [if_neg hr]
  by_cases hc : content.type = filterEventCompletion
  · rw [if_pos hc]
    constructor <;> rw [observed_push htraced, hc]
    · rw [if_neg hrc.symm, List.append_nil]
      exact hrequests
    · rw [if_pos rfl, List.length_append, UInt64.ofNat_add, ← hcompletions]
      rfl
    · rw [if_neg hcf, List.append_nil]
      exact hfailures
    · rw [if_pos rfl, List.getLast?_concat]
      rfl
  rw [if_neg hc]
  by_cases hf : content.type = filterEventCaptureFailure
  · rw [if_pos hf]
    constructor <;> rw [observed_push htraced, hf]
    · rw [if_neg hrf.symm, List.append_nil]
      exact hrequests
    · rw [if_neg hcf.symm, List.append_nil]
      exact hcompletions
    · rw [if_pos rfl, List.length_append, UInt64.ofNat_add, ← hfailures]
      rfl
    · rw [if_neg hcf.symm, List.append_nil]
      exact hlast
  · rw [if_neg hf]
    constructor <;> rw [observed_push htraced]
    · rw [if_neg hr, List.append_nil]
      exact hrequests
    · rw [if_neg hc, List.append_nil]
      exact hcompletions
    · rw [if_neg hf, List.append_nil]
      exact hfailures
    · rw [if_neg hc, List.append_nil]
      exact hlast

theorem Tallied.store (h : Tallied queue a) (htraced : content.Traced) :
    Tallied (queue.store content) (a.push content) := by
  have hstored : Tallied { queue with
      events := queue.events.set ((queue.head + queue.count) % nldAvrcpFilterTraceCapacity)
        (content.event queue.nextSequence)
      nextSequence := nldAvrcpFilterNextNonzero queue.nextSequence } a :=
    ⟨h.requests, h.completions, h.failures, h.lastStatus⟩
  obtain ⟨hrequests, hcompletions, hfailures, hlast⟩ := hstored.observe htraced
  exact ⟨hrequests, hcompletions, hfailures, hlast⟩

structure HoldsFifo (queue : NldAvrcpFilterTraceQueue) (a : FilterTraceFifo) : Prop where
  laid : queue.ring.Laid nldAvrcpFilterTraceCapacity
  contents : queue.ring.contents = a.fifo.contents
  sequence : queue.nextSequence = sequenceNumber a.traced.length
  requestId : queue.nextRequestId = sequenceNumber a.allocated
  dropped : queue.droppedEvents = UInt32.ofNat a.lost
  tallied : Tallied queue a

theorem HoldsFifo.count (h : HoldsFifo queue a) : queue.count = a.fifo.contents.length := by
  rw [← h.contents, h.laid.length_contents]
  rfl

theorem HoldsFifo.status (h : HoldsFifo queue a) (runtimeFlags : UInt32) :
    queue.getStatus runtimeFlags = a.getStatus runtimeFlags := by
  obtain ⟨hrequests, hcompletions, hfailures, hlast⟩ := h.tallied
  rw [NldAvrcpFilterTraceQueue.getStatus, FilterTraceFifo.getStatus, h.count, h.sequence,
    h.requestId, h.dropped, hrequests, hcompletions, hfailures, hlast]

theorem holdsFifo_initialized : HoldsFifo .initialized {} where
  laid := ⟨List.length_replicate, Nat.zero_lt_succ _, Nat.zero_le _⟩
  contents := rfl
  sequence := rfl
  requestId := rfl
  dropped := rfl
  tallied := ⟨rfl, rfl, rfl, rfl⟩

theorem HoldsFifo.push (h : HoldsFifo queue a) (content : NldAvrcpFilterEventContent) :
    HoldsFifo (queue.push content) (a.push content) := by
  by_cases htraced : content.Traced
  · have htallied := h.tallied.makeRoom.store htraced
    have hcount := h.count
    obtain ⟨hlaid, hcontents⟩ := h.laid.push (content.event queue.nextSequence)
    obtain ⟨hsequence, hrequestId, hdropped⟩ := queue.makeRoom_counters
    obtain ⟨hsequence', hrequestId', hdropped'⟩ := queue.makeRoom.store_counters content
    have hring : (queue.push content).ring = queue.ring.push nldAvrcpFilterTraceCapacity
        (content.event queue.nextSequence) := by
      rw [NldAvrcpFilterTraceQueue.push, if_neg (not_not.mpr htraced),
        NldAvrcpFilterTraceQueue.ring_store, NldAvrcpFilterTraceQueue.ring_makeRoom, hsequence]
      rfl
    rw [← hring] at hlaid hcontents
    rw [FilterTraceFifo.push, if_neg (not_not.mpr htraced)] at htallied ⊢
    rw [NldAvrcpFilterTraceQueue.push, if_neg (not_not.mpr htraced)] at hlaid hcontents ⊢
    refine ⟨hlaid, ?_, ?_, ?_, ?_, htallied⟩
    · rw [hcontents, BoundedFifo.contents_push_singleton, ← hcount, ← h.contents, ← h.sequence]
      rfl
    · rw [hsequence', hsequence, h.sequence, List.length_append]
      exact sequenceNumber_succ _
    · rw [hrequestId', hrequestId, h.requestId]
    · rw [hdropped', hdropped, h.dropped, hcount]
      split_ifs
      · exact (UInt32.ofNat_add a.lost 1).symm
      · rfl
  · rw [NldAvrcpFilterTraceQueue.push, if_pos htraced, FilterTraceFifo.push, if_pos htraced]
    exact h

theorem HoldsFifo.pop (h : HoldsFifo queue a) :
    queue.pop.1 = (a.fifo.pop 1).1.head? ∧
      HoldsFifo queue.pop.2 { a with fifo := (a.fifo.pop 1).2 } := by
  obtain ⟨hlaid, hpopped, hleft⟩ := h.laid.pop {}
  obtain ⟨hpop, hring⟩ := queue.ring_pop
  rw [← hring] at hlaid hleft
  rw [← hpop] at hpopped
  rw [h.contents] at hpopped hleft
  constructor
  · exact hpopped.trans a.fifo.pop_one.1.symm
  · have htallied := h.tallied
    have hcounters : queue.pop.2.nextSequence = queue.nextSequence ∧
        queue.pop.2.nextRequestId = queue.nextRequestId ∧
        queue.pop.2.droppedEvents = queue.droppedEvents ∧ Tallied queue.pop.2 a := by
      unfold NldAvrcpFilterTraceQueue.pop
      split_ifs
      · exact ⟨rfl, rfl, rfl, htallied⟩
      · exact ⟨rfl, rfl, rfl, htallied.requests, htallied.completions, htallied.failures,
          htallied.lastStatus⟩
    obtain ⟨hsequence, hrequestId, hdropped, hcounted⟩ := hcounters
    refine ⟨hlaid, ?_, hsequence.trans h.sequence, hrequestId.trans h.requestId,
      hdropped.trans h.dropped, hcounted.requests, hcounted.completions, hcounted.failures,
      hcounted.lastStatus⟩
    exact hleft.trans a.fifo.pop_one.2.symm

end

theorem holdsFifo_step (queue : NldAvrcpFilterTraceQueue) (a : FilterTraceFifo)
    (op : NldAvrcpFilterTraceOp) (h : HoldsFifo queue a) :
    filterTrace.out queue op = traceFifo.out a op ∧
      HoldsFifo (filterTrace.next queue op) (traceFifo.next a op) := by
  cases op with
  | allocateRequestId =>
    refine ⟨congrArg _ h.requestId, h.laid, h.contents, h.sequence, ?_, h.dropped, ?_⟩
    · exact (congrArg nldAvrcpFilterNextNonzero h.requestId).trans (sequenceNumber_succ _)
    · exact ⟨h.tallied.requests, h.tallied.completions, h.tallied.failures, h.tallied.lastStatus⟩
  | push content => exact ⟨rfl, h.push content⟩
  | pop =>
    obtain ⟨hpopped, hholds⟩ := h.pop
    exact ⟨congrArg NldAvrcpFilterTraceAnswer.popped hpopped, hholds⟩
  | getStatus runtimeFlags =>
    exact ⟨congrArg NldAvrcpFilterTraceAnswer.status (h.status runtimeFlags), h⟩

theorem filterTrace_refines (ops : List NldAvrcpFilterTraceOp) :
    filterTrace.outputs .initialized ops = traceFifo.outputs {} ops ∧
      HoldsFifo (filterTrace.after .initialized ops) (traceFifo.after {} ops) :=
  Reducer.simulation holdsFifo_step holdsFifo_initialized ops

end NativeLdac.Filter
