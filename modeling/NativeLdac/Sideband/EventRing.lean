/-
  The event queue of the AVRCP observer driver with its ring
  (`avrcp-sideband/src/nativeldac_avrcp_event_queue_contract.c`).

  * `NldAvrcpEventRing` is the queue in its buffer, `eventRing` the machine of its six
    operations;
  * `eventFifo` is what the queue is for: a bounded FIFO that forgets its oldest event,
    numbers the events of a generation and counts the forgotten ones;
  * `eventRing_refines`: nothing tells the two apart.

  Indices and counts of the ring are natural numbers: the invariant bounds them, so that none
  of their operations wraps.
-/
import NativeLdac.Lib.RingBuffer
import NativeLdac.Sideband.EventQueue

namespace NativeLdac.Sideband

open Agent CircularBuffer

/-! ## The ring -/

/-- `NLD_AVRCP_OBSERVER_EVENT` in full; the fifteen raw words after `Value0` are in their
    order. -/
structure NldAvrcpEventRecord where
  size : UInt32 := 0
  type : NldAvrcpObserverEventType := .none
  aclGeneration : UInt64 := 0
  sequence : UInt64 := 0
  timestamp100ns : UInt64 := 0
  flags : UInt32 := 0
  value0 : UInt32 := 0
  protocolStatus : Int32 := 0
  rawPrefixHigh : Vector UInt32 15 := .replicate 15 0
deriving DecidableEq, Repr

def sizeofNldAvrcpObserverEvent : UInt32 := 104
def sizeofNldAvrcpObserverStatus : UInt32 := 56
def observerStatusQueueOverflow : UInt32 := 0x00000040

/-- What `NldAvrcpEventQueueAppend` is given besides the queue. -/
structure NldAvrcpEventContent where
  type : NldAvrcpObserverEventType
  flags : UInt32 := 0
  value0 : UInt32 := 0
  protocolStatus : Int32 := 0
  rawPrefixSize : UInt32 := 0
  rawPrefixHighWords : Option (Vector UInt32 15) := none
  timestamp100ns : UInt64
deriving DecidableEq, Repr

/-- `NldAvrcpEventQueueAppend`: the event that is stored, with its number in its generation. -/
def NldAvrcpEventContent.record (content : NldAvrcpEventContent) (aclGeneration sequence : UInt64) :
    NldAvrcpEventRecord where
  size := sizeofNldAvrcpObserverEvent
  type := content.type
  aclGeneration := aclGeneration
  sequence := sequence
  timestamp100ns := content.timestamp100ns
  flags :=
    if content.rawPrefixSize ≠ 0 ∧ content.rawPrefixSize ≤ 64 then
      content.flags ||| (eventFlagRawPrefix ||| (content.rawPrefixSize <<< eventRawLengthShift))
    else content.flags
  value0 := content.value0
  protocolStatus := content.protocolStatus
  rawPrefixHigh := content.rawPrefixHighWords.getD (.replicate 15 0)

/-- `NLD_AVRCP_OBSERVER_STATUS`; what `NldAvrcpEventQueueGetStatus` does not fill is zero. -/
structure NldAvrcpQueueStatus where
  size : UInt32 := sizeofNldAvrcpObserverStatus
  flags : UInt32
  aclGeneration : UInt64
  queueDepth : Nat
  droppedEvents : UInt32
deriving DecidableEq, Repr

/-- `NLD_AVRCP_EVENT_QUEUE` -/
structure NldAvrcpEventRing where
  events : List NldAvrcpEventRecord := .replicate nldAvrcpEventQueueCapacity {}
  aclGeneration : UInt64 := 0
  nextSequence : UInt64 := 0
  head : Nat := 0
  count : Nat := 0
  droppedEvents : UInt32 := 0
  generationCurrent : Bool := false
deriving DecidableEq, Repr

namespace NldAvrcpEventRing

variable (queue : NldAvrcpEventRing)

/-- `NldAvrcpEventQueueAppend`: a full queue forgets its oldest event. -/
def makeRoom : NldAvrcpEventRing :=
  if queue.count = nldAvrcpEventQueueCapacity then
    { queue with
      head := (queue.head + 1) % nldAvrcpEventQueueCapacity
      count := queue.count - 1
      droppedEvents := queue.droppedEvents + 1 }
  else queue

/-- `NldAvrcpEventQueueAppend`: the event goes behind the others. -/
def store (content : NldAvrcpEventContent) : NldAvrcpEventRing :=
  { queue with
    events := queue.events.set ((queue.head + queue.count) % nldAvrcpEventQueueCapacity)
      (content.record queue.aclGeneration queue.nextSequence)
    nextSequence := nextNonzero queue.nextSequence
    count := queue.count + 1 }

def append (content : NldAvrcpEventContent) : NldAvrcpEventRing :=
  queue.makeRoom.store content

/-- `NldAvrcpEventQueueInitialize` -/
def initialized : NldAvrcpEventRing := { nextSequence := 1 }

def beginGeneration (aclGeneration timestamp100ns : UInt64) : Bool × NldAvrcpEventRing :=
  if ¬ isNewerGeneration aclGeneration queue.aclGeneration then (false, queue)
  else
    (true, append
      { queue with
        aclGeneration := aclGeneration
        nextSequence := 1
        head := 0
        count := 0
        droppedEvents := 0
        generationCurrent := true }
      { type := .aclConnected, timestamp100ns := timestamp100ns })

def endGeneration (aclGeneration timestamp100ns : UInt64) : Bool × NldAvrcpEventRing :=
  if ¬ queue.generationCurrent ∨ queue.aclGeneration ≠ aclGeneration then (false, queue)
  else
    (true,
      { queue.append { type := .aclDisconnected, timestamp100ns := timestamp100ns } with
        generationCurrent := false })

def push (aclGeneration : UInt64) (content : NldAvrcpEventContent) : Bool × NldAvrcpEventRing :=
  if ¬ queue.generationCurrent ∨ queue.aclGeneration ≠ aclGeneration ∨
      content.type = .none ∨ content.type = .aclConnected ∨
      content.type = .aclDisconnected then (false, queue)
  else (true, queue.append content)

/-- The event at the head of the ring. -/
def oldest : NldAvrcpEventRecord := queue.events.getD queue.head {}

/-- `NldAvrcpEventQueuePop`: the slot is cleared. -/
def pop : Option NldAvrcpEventRecord × NldAvrcpEventRing :=
  if queue.count = 0 then (none, queue)
  else
    (some queue.oldest,
      { queue with
        events := queue.events.set queue.head {}
        head := (queue.head + 1) % nldAvrcpEventQueueCapacity
        count := queue.count - 1 })

def getStatus : NldAvrcpQueueStatus where
  flags := if queue.droppedEvents ≠ 0 then observerStatusQueueOverflow else 0
  aclGeneration := queue.aclGeneration
  queueDepth := queue.count
  droppedEvents := queue.droppedEvents

/-! What an append and a pop make of the counters -/

section
variable (content : NldAvrcpEventContent)

theorem makeRoom_counters :
    queue.makeRoom.nextSequence = queue.nextSequence ∧
      queue.makeRoom.aclGeneration = queue.aclGeneration ∧
      queue.makeRoom.generationCurrent = queue.generationCurrent ∧
      queue.makeRoom.droppedEvents =
        if queue.count = nldAvrcpEventQueueCapacity then queue.droppedEvents + 1
        else queue.droppedEvents := by
  unfold makeRoom
  split_ifs
  · exact ⟨rfl, rfl, rfl, rfl⟩
  · exact ⟨rfl, rfl, rfl, rfl⟩

@[simp] theorem append_nextSequence :
    (queue.append content).nextSequence = nextNonzero queue.nextSequence :=
  congrArg nextNonzero queue.makeRoom_counters.1

@[simp] theorem append_aclGeneration :
    (queue.append content).aclGeneration = queue.aclGeneration :=
  queue.makeRoom_counters.2.1

@[simp] theorem append_generationCurrent :
    (queue.append content).generationCurrent = queue.generationCurrent :=
  queue.makeRoom_counters.2.2.1

theorem append_droppedEvents :
    (queue.append content).droppedEvents =
      if queue.count = nldAvrcpEventQueueCapacity then queue.droppedEvents + 1
      else queue.droppedEvents :=
  queue.makeRoom_counters.2.2.2

theorem pop_counters :
    queue.pop.2.nextSequence = queue.nextSequence ∧
      queue.pop.2.droppedEvents = queue.droppedEvents ∧
      queue.pop.2.aclGeneration = queue.aclGeneration ∧
      queue.pop.2.generationCurrent = queue.generationCurrent := by
  unfold pop
  split_ifs
  · exact ⟨rfl, rfl, rfl, rfl⟩
  · exact ⟨rfl, rfl, rfl, rfl⟩

end

end NldAvrcpEventRing

inductive NldAvrcpEventQueueOp where
  | initializeQueue
  | beginGeneration (aclGeneration timestamp100ns : UInt64)
  | endGeneration (aclGeneration timestamp100ns : UInt64)
  | push (aclGeneration : UInt64) (content : NldAvrcpEventContent)
  | pop
  | getStatus
deriving DecidableEq, Repr

inductive NldAvrcpEventQueueAnswer where
  | done
  | accepted (accepted : Bool)
  | popped (event : Option NldAvrcpEventRecord)
  | status (status : NldAvrcpQueueStatus)
deriving DecidableEq, Repr

def eventRing : Reducer NldAvrcpEventRing NldAvrcpEventQueueOp NldAvrcpEventQueueAnswer where
  step queue
    | .initializeQueue => (.done, .initialized)
    | .beginGeneration g t => (queue.beginGeneration g t).map .accepted id
    | .endGeneration g t => (queue.endGeneration g t).map .accepted id
    | .push g content => (queue.push g content).map .accepted id
    | .pop => queue.pop.map .popped id
    | .getStatus => (.status queue.getStatus, queue)

/-! ## The bounded FIFO -/

/-- What the queue is for; `published` and `lost` count in the current generation. -/
structure AvrcpEventFifo where
  fifo : BoundedFifo NldAvrcpEventRecord nldAvrcpEventQueueCapacity := .empty
  published : Nat := 0
  lost : Nat := 0
  aclGeneration : UInt64 := 0
  generationCurrent : Bool := false

/-- The numbers of the events of a generation: from 1 on, without 0 when they wrap. -/
def sequenceNumber (published : Nat) : UInt64 := UInt64.ofNat (published % (2 ^ 64 - 1) + 1)

namespace AvrcpEventFifo

variable (a : AvrcpEventFifo)

def publish (content : NldAvrcpEventContent) : AvrcpEventFifo :=
  { a with
    fifo := a.fifo.push [content.record a.aclGeneration (sequenceNumber a.published)]
    published := a.published + 1
    lost := if a.fifo.contents.length = nldAvrcpEventQueueCapacity then a.lost + 1 else a.lost }

/-- The operations, as the ring has them, with the FIFO in its place. -/
def step : NldAvrcpEventQueueOp → NldAvrcpEventQueueAnswer × AvrcpEventFifo
  | .initializeQueue => (.done, {})
  | .beginGeneration g t =>
    if ¬ isNewerGeneration g a.aclGeneration then (.accepted false, a)
    else
      (.accepted true,
        publish { aclGeneration := g, generationCurrent := true }
          { type := .aclConnected, timestamp100ns := t })
  | .endGeneration g t =>
    if ¬ a.generationCurrent ∨ a.aclGeneration ≠ g then (.accepted false, a)
    else
      (.accepted true,
        { a.publish { type := .aclDisconnected, timestamp100ns := t } with
          generationCurrent := false })
  | .push g content =>
    if ¬ a.generationCurrent ∨ a.aclGeneration ≠ g ∨ content.type = .none ∨
        content.type = .aclConnected ∨ content.type = .aclDisconnected then (.accepted false, a)
    else (.accepted true, a.publish content)
  | .pop => (.popped (a.fifo.pop 1).1.head?, { a with fifo := (a.fifo.pop 1).2 })
  | .getStatus =>
    (.status
      { flags := if UInt32.ofNat a.lost ≠ 0 then observerStatusQueueOverflow else 0
        aclGeneration := a.aclGeneration
        queueDepth := a.fifo.contents.length
        droppedEvents := UInt32.ofNat a.lost }, a)

end AvrcpEventFifo

def eventFifo : Reducer AvrcpEventFifo NldAvrcpEventQueueOp NldAvrcpEventQueueAnswer where
  step := AvrcpEventFifo.step

/-! ## The invariant -/

namespace NldAvrcpEventRing

/-- Where the events lie. -/
structure Laid (queue : NldAvrcpEventRing) : Prop where
  events : queue.events.length = nldAvrcpEventQueueCapacity
  head : queue.head < nldAvrcpEventQueueCapacity
  count : queue.count ≤ nldAvrcpEventQueueCapacity

/-- The events queued, the oldest first. -/
def contents (queue : NldAvrcpEventRing) : List NldAvrcpEventRecord :=
  view queue.events queue.head queue.count

variable {queue : NldAvrcpEventRing}

theorem Laid.length_contents (h : queue.Laid) : queue.contents.length = queue.count :=
  length_view _ (h.events ▸ h.count)

theorem laid_initialized : initialized.Laid where
  events := List.length_replicate
  head := Nat.zero_lt_succ _
  count := Nat.zero_le _

theorem laid_restarted (h : queue.Laid) (g : UInt64) :
    Laid { queue with
      aclGeneration := g, nextSequence := 1, head := 0, count := 0, droppedEvents := 0
      generationCurrent := true } where
  events := h.events
  head := Nat.zero_lt_succ _
  count := Nat.zero_le _

/-- The events in their buffer. -/
def ring (queue : NldAvrcpEventRing) : RingBuffer NldAvrcpEventRecord :=
  ⟨queue.events, queue.head, queue.count⟩

theorem Laid.ring (h : queue.Laid) : queue.ring.Laid nldAvrcpEventQueueCapacity :=
  ⟨h.events, h.head, h.count⟩

theorem laid_of_ring (h : queue.ring.Laid nldAvrcpEventQueueCapacity) : queue.Laid :=
  ⟨h.buffer, h.head, h.count⟩

theorem ring_append (content : NldAvrcpEventContent) :
    (queue.append content).ring = queue.ring.push nldAvrcpEventQueueCapacity
      (content.record queue.aclGeneration queue.nextSequence) := by
  unfold append store makeRoom RingBuffer.push RingBuffer.makeRoom
  split_ifs with h h' h'
  · rfl
  · exact absurd h h'
  · exact absurd h' h
  · rfl

theorem ring_pop :
    queue.pop.1 = (queue.ring.pop nldAvrcpEventQueueCapacity {}).1 ∧
      queue.pop.2.ring = (queue.ring.pop nldAvrcpEventQueueCapacity {}).2 := by
  unfold pop RingBuffer.pop
  split_ifs with h h' h'
  · exact ⟨rfl, rfl⟩
  · exact absurd h h'
  · exact absurd h' h
  · exact ⟨rfl, rfl⟩

theorem Laid.append_tail (h : queue.Laid) (content : NldAvrcpEventContent) :
    (queue.append content).Laid ∧
      (queue.append content).contents =
        (if queue.count = nldAvrcpEventQueueCapacity then queue.contents.tail
          else queue.contents) ++ [content.record queue.aclGeneration queue.nextSequence] := by
  obtain ⟨hlaid, hcontents⟩ :=
    h.ring.push_tail (content.record queue.aclGeneration queue.nextSequence)
  rw [← ring_append] at hlaid hcontents
  exact ⟨laid_of_ring hlaid, hcontents⟩

theorem Laid.append (h : queue.Laid) (content : NldAvrcpEventContent) :
    (queue.append content).Laid ∧
      queue.contents ++ [content.record queue.aclGeneration queue.nextSequence] =
        (if queue.count = nldAvrcpEventQueueCapacity then [queue.oldest] else []) ++
          (queue.append content).contents := by
  obtain ⟨hlaid, hcontents⟩ := h.append_tail content
  refine ⟨hlaid, ?_⟩
  rw [hcontents]
  split_ifs with hfull
  · have hled := h.ring.contents_eq (by rw [show queue.ring.count = _ from hfull]; decide) {}
    rw [show queue.contents = queue.oldest :: _ from hled]
    rfl
  · rfl

theorem Laid.pop (h : queue.Laid) : queue.pop.2.Laid ∧
    queue.pop.1 = queue.contents.head? ∧ queue.pop.2.contents = queue.contents.tail := by
  obtain ⟨hlaid, hpopped, hleft⟩ := h.ring.pop {}
  obtain ⟨hpop, hring⟩ := @ring_pop queue
  rw [← hring] at hlaid hleft
  exact ⟨laid_of_ring hlaid, hpop.trans hpopped, hleft⟩

end NldAvrcpEventRing

/-! ## The refinement -/

theorem sequenceNumber_toNat (n : Nat) : (sequenceNumber n).toNat = n % (2 ^ 64 - 1) + 1 := by
  have hlt := Nat.mod_lt n (show 2 ^ 64 - 1 > 0 by decide)
  exact UInt64.toNat_ofNat_of_lt' (show _ < 2 ^ 64 by omega)

theorem sequenceNumber_succ (n : Nat) :
    nextNonzero (sequenceNumber n) = sequenceNumber (n + 1) := by
  have hlt := Nat.mod_lt n (show 2 ^ 64 - 1 > 0 by decide)
  by_cases hmax : n % (2 ^ 64 - 1) + 1 = 2 ^ 64 - 1
  · have hlast : sequenceNumber n = 0xffffffffffffffff := by
      rw [sequenceNumber, hmax]
      rfl
    have hwrapped : (n + 1) % (2 ^ 64 - 1) = 0 := by
      rw [Nat.add_mod, Nat.mod_eq_of_lt (a := 1) (by decide), hmax, Nat.mod_self]
    rw [hlast, nextNonzero, if_pos rfl, sequenceNumber, hwrapped]
    rfl
  · have hne : sequenceNumber n ≠ 0xffffffffffffffff := by
      intro heq
      exact hmax ((sequenceNumber_toNat n).symm.trans (congrArg UInt64.toNat heq))
    have hnext : (n + 1) % (2 ^ 64 - 1) = n % (2 ^ 64 - 1) + 1 := by
      rw [Nat.add_mod, Nat.mod_eq_of_lt (a := 1) (by decide), Nat.mod_eq_of_lt (by omega)]
    rw [nextNonzero, if_neg hne, sequenceNumber, sequenceNumber, hnext]
    exact (UInt64.ofNat_add (n % (2 ^ 64 - 1) + 1) 1).symm

structure HoldsFifo (queue : NldAvrcpEventRing) (a : AvrcpEventFifo) : Prop where
  laid : queue.Laid
  contents : queue.contents = a.fifo.contents
  sequence : queue.nextSequence = sequenceNumber a.published
  dropped : queue.droppedEvents = UInt32.ofNat a.lost
  aclGeneration : queue.aclGeneration = a.aclGeneration
  generationCurrent : queue.generationCurrent = a.generationCurrent

section
variable {queue : NldAvrcpEventRing} {a : AvrcpEventFifo}

theorem HoldsFifo.count (h : HoldsFifo queue a) : queue.count = a.fifo.contents.length := by
  rw [← h.contents, h.laid.length_contents]

theorem holdsFifo_initialized : HoldsFifo .initialized {} where
  laid := NldAvrcpEventRing.laid_initialized
  contents := rfl
  sequence := rfl
  dropped := rfl
  aclGeneration := rfl
  generationCurrent := rfl

theorem HoldsFifo.append (h : HoldsFifo queue a) (content : NldAvrcpEventContent) :
    HoldsFifo (queue.append content) (a.publish content) := by
  obtain ⟨hlaid, hcontents⟩ := h.laid.append content
  have hcount := h.count
  constructor
  · exact hlaid
  · rw [AvrcpEventFifo.publish, BoundedFifo.contents_push_singleton, ← hcount, ← h.contents,
      ← h.aclGeneration, ← h.sequence, hcontents]
    split_ifs <;> rfl
  · rw [queue.append_nextSequence, h.sequence, sequenceNumber_succ]
    rfl
  · rw [queue.append_droppedEvents, h.dropped, hcount, AvrcpEventFifo.publish]
    split_ifs
    · exact (UInt32.ofNat_add a.lost 1).symm
    · rfl
  · exact (queue.append_aclGeneration content).trans h.aclGeneration
  · exact (queue.append_generationCurrent content).trans h.generationCurrent

theorem HoldsFifo.pop (h : HoldsFifo queue a) :
    queue.pop.1 = (a.fifo.pop 1).1.head? ∧
      HoldsFifo queue.pop.2 { a with fifo := (a.fifo.pop 1).2 } := by
  obtain ⟨hlaid, hpopped, hleft⟩ := h.laid.pop
  obtain ⟨hsequence, hdropped, hgeneration, hcurrent⟩ := queue.pop_counters
  rw [h.contents] at hpopped hleft
  exact ⟨hpopped.trans a.fifo.pop_one.1.symm, hlaid, hleft.trans a.fifo.pop_one.2.symm,
    hsequence.trans h.sequence, hdropped.trans h.dropped, hgeneration.trans h.aclGeneration,
    hcurrent.trans h.generationCurrent⟩

theorem holdsFifo_step (queue : NldAvrcpEventRing) (a : AvrcpEventFifo) (op : NldAvrcpEventQueueOp)
    (h : HoldsFifo queue a) :
    eventRing.out queue op = eventFifo.out a op ∧
      HoldsFifo (eventRing.next queue op) (eventFifo.next a op) := by
  cases op with
  | initializeQueue => exact ⟨rfl, holdsFifo_initialized⟩
  | beginGeneration g t =>
    simp only [Reducer.out, Reducer.next, eventRing, eventFifo, AvrcpEventFifo.step,
      NldAvrcpEventRing.beginGeneration, h.aclGeneration]
    by_cases hnewer : isNewerGeneration g a.aclGeneration = true
    · rw [if_neg (not_not.mpr hnewer), if_neg (not_not.mpr hnewer)]
      have hrestarted := NldAvrcpEventRing.laid_restarted h.laid g
      exact ⟨rfl, HoldsFifo.append (a := { aclGeneration := g, generationCurrent := true })
        ⟨hrestarted, rfl, rfl, rfl, rfl, rfl⟩ _⟩
    · rw [if_pos hnewer, if_pos hnewer]
      exact ⟨rfl, h⟩
  | endGeneration g t =>
    simp only [Reducer.out, Reducer.next, eventRing, eventFifo, AvrcpEventFifo.step,
      NldAvrcpEventRing.endGeneration, h.aclGeneration, h.generationCurrent]
    by_cases hrefused : ¬ a.generationCurrent = true ∨ a.aclGeneration ≠ g
    · rw [if_pos hrefused, if_pos hrefused]
      exact ⟨rfl, h⟩
    · rw [if_neg hrefused, if_neg hrefused]
      have happend := h.append { type := .aclDisconnected, timestamp100ns := t }
      exact ⟨rfl, ⟨happend.laid.events, happend.laid.head, happend.laid.count⟩,
        happend.contents, happend.sequence, happend.dropped, happend.aclGeneration, rfl⟩
  | push g content =>
    simp only [Reducer.out, Reducer.next, eventRing, eventFifo, AvrcpEventFifo.step,
      NldAvrcpEventRing.push, h.aclGeneration, h.generationCurrent]
    split_ifs
    · exact ⟨rfl, h⟩
    · exact ⟨rfl, h.append content⟩
  | pop =>
    obtain ⟨hpopped, hholds⟩ := h.pop
    exact ⟨congrArg NldAvrcpEventQueueAnswer.popped hpopped, hholds⟩
  | getStatus =>
    refine ⟨?_, h⟩
    simp only [Reducer.out, eventRing, eventFifo, AvrcpEventFifo.step,
      NldAvrcpEventRing.getStatus, h.aclGeneration, h.dropped, h.count]

end

theorem eventRing_refines (ops : List NldAvrcpEventQueueOp) :
    eventRing.outputs .initialized ops = eventFifo.outputs {} ops ∧
      HoldsFifo (eventRing.after .initialized ops) (eventFifo.after {} ops) :=
  Reducer.simulation holdsFifo_step holdsFifo_initialized ops

/-! ## The queue without its ring -/

namespace NldAvrcpEventRing

/-- The queue of the events, whose numbers are left out. -/
def queue (ring : NldAvrcpEventRing) : NldAvrcpEventQueue NldAvrcpEventRecord where
  events := ring.contents
  aclGeneration := ring.aclGeneration
  droppedEvents := ring.droppedEvents
  generationCurrent := ring.generationCurrent

variable {ring : NldAvrcpEventRing}

theorem queue_events (h : ring.Laid) : ring.queue.events.length = ring.count := h.length_contents

theorem queue_aclGeneration : ring.queue.aclGeneration = ring.aclGeneration := rfl

theorem queue_generationCurrent : ring.queue.generationCurrent = ring.generationCurrent := rfl

theorem queue_append (h : ring.Laid) (content : NldAvrcpEventContent) :
    (ring.append content).queue =
      ring.queue.append (content.record ring.aclGeneration ring.nextSequence) := by
  obtain ⟨-, hcontents⟩ := h.append_tail content
  have hfields : (ring.append content).queue = { ring.queue with
      events := (ring.append content).contents
      droppedEvents :=
        if ring.count = nldAvrcpEventQueueCapacity then ring.droppedEvents + 1
        else ring.droppedEvents } := by
    unfold queue append store makeRoom
    split_ifs <;> rfl
  rw [hfields, NldAvrcpEventQueue.append, queue_events h, hcontents]
  split_ifs <;> rfl

theorem queue_beginGeneration (h : ring.Laid) (g t : UInt64) :
    (ring.beginGeneration g t).map id queue =
      ring.queue.beginGeneration g
        (NldAvrcpEventContent.record { type := .aclConnected, timestamp100ns := t } g 1) := by
  rw [beginGeneration, NldAvrcpEventQueue.beginGeneration, queue_aclGeneration]
  by_cases hnewer : isNewerGeneration g ring.aclGeneration = true
  · rw [if_neg (not_not.mpr hnewer), if_neg (not_not.mpr hnewer)]
    exact congrArg (Prod.mk true) (queue_append (laid_restarted h g) _)
  · rw [if_pos hnewer, if_pos hnewer]
    rfl

theorem queue_endGeneration (h : ring.Laid) (g t : UInt64) :
    (ring.endGeneration g t).map id queue =
      ring.queue.endGeneration g
        (NldAvrcpEventContent.record { type := .aclDisconnected, timestamp100ns := t }
          ring.aclGeneration ring.nextSequence) := by
  rw [endGeneration, NldAvrcpEventQueue.endGeneration, ← queue_append h,
    @queue_aclGeneration ring, @queue_generationCurrent ring]
  split_ifs <;> rfl

theorem queue_push (h : ring.Laid) (g : UInt64) (content : NldAvrcpEventContent) :
    (ring.push g content).map id queue =
      ring.queue.push g content.type (content.record ring.aclGeneration ring.nextSequence) := by
  rw [push, NldAvrcpEventQueue.push, ← queue_append h, queue_aclGeneration,
    queue_generationCurrent]
  split_ifs <;> rfl

theorem queue_pop (h : ring.Laid) : ring.pop.map id queue = ring.queue.pop := by
  obtain ⟨-, hpopped, hleft⟩ := h.pop
  have hqueue : ring.pop.2.queue = { ring.queue with events := ring.pop.2.contents } := by
    unfold queue pop
    split_ifs <;> rfl
  rw [hleft] at hqueue
  refine (Prod.ext hpopped hqueue : ring.pop.map id queue =
    (ring.contents.head?, { ring.queue with events := ring.contents.tail })).trans ?_
  unfold NldAvrcpEventQueue.pop queue
  cases ring.contents <;> rfl

end NldAvrcpEventRing

open NldAvrcpEventRing in
/-- **The ring is the queue**: whatever its operations were, the next one acts on the events that
    the ring holds as it does on the queue of the observer. -/
theorem eventRing_queue (ops : List NldAvrcpEventQueueOp) :
    let ring := eventRing.after .initialized ops
    (∀ g t, (ring.beginGeneration g t).map id queue =
      ring.queue.beginGeneration g
        (NldAvrcpEventContent.record { type := .aclConnected, timestamp100ns := t } g 1)) ∧
    (∀ g t, (ring.endGeneration g t).map id queue =
      ring.queue.endGeneration g
        (NldAvrcpEventContent.record { type := .aclDisconnected, timestamp100ns := t }
          ring.aclGeneration ring.nextSequence)) ∧
    (∀ g content, (ring.push g content).map id queue =
      ring.queue.push g content.type (content.record ring.aclGeneration ring.nextSequence)) ∧
    ring.pop.map id queue = ring.queue.pop := by
  intro ring
  have hlaid : ring.Laid :=
    (Reducer.simulation holdsFifo_step holdsFifo_initialized ops).2.laid
  exact ⟨queue_beginGeneration hlaid, queue_endGeneration hlaid, queue_push hlaid,
    queue_pop hlaid⟩

end NativeLdac.Sideband
