/-
  What becomes of the events of a generation.  Each is popped, dropped or still queued, the
  three in the order of publication, and the numbers of two events popped tell how many were
  dropped between them.

  * `QueueHappening`, `told`: the history of the current generation, written down beside the
    ring (`toldRing`);
  * `Recorded` ties the ring to its history.
-/
import Mathlib.Data.List.Perm.Basic
import Mathlib.Data.Nat.ModEq
import NativeLdac.Sideband.EventRing

namespace NativeLdac.Sideband

open Agent

/-! ## Histories -/

inductive QueueHappening where
  | published (event : NldAvrcpEventRecord)
  | dropped (event : NldAvrcpEventRecord)
  | popped (event : NldAvrcpEventRecord)
deriving DecidableEq, Repr

namespace QueueHappening

def published? : QueueHappening → Option NldAvrcpEventRecord
  | published event => some event
  | _ => none

def dropped? : QueueHappening → Option NldAvrcpEventRecord
  | dropped event => some event
  | _ => none

def popped? : QueueHappening → Option NldAvrcpEventRecord
  | popped event => some event
  | _ => none

/-- An event leaves the queue when it is dropped and when it is popped. -/
def removed? : QueueHappening → Option NldAvrcpEventRecord
  | published _ => none
  | dropped event | popped event => some event

end QueueHappening

open QueueHappening

def publishedOf (history : List QueueHappening) : List NldAvrcpEventRecord :=
  history.filterMap published?

def droppedOf (history : List QueueHappening) : List NldAvrcpEventRecord :=
  history.filterMap dropped?

def poppedOf (history : List QueueHappening) : List NldAvrcpEventRecord :=
  history.filterMap popped?

def removedOf (history : List QueueHappening) : List NldAvrcpEventRecord :=
  history.filterMap removed?

namespace NldAvrcpEventRing

variable (queue : NldAvrcpEventRing)

/-- What an append overwrites, and what it publishes. -/
def appended (content : NldAvrcpEventContent) : List QueueHappening :=
  (if queue.count = nldAvrcpEventQueueCapacity then [dropped queue.oldest] else []) ++
    [published (content.record queue.aclGeneration queue.nextSequence)]

/-- The history of the current generation after an operation.  A generation that begins has a
    new one, and so has a queue that is initialized. -/
def told (history : List QueueHappening) : NldAvrcpEventQueueOp → List QueueHappening
  | .initializeQueue => []
  | .beginGeneration g t =>
    if (queue.beginGeneration g t).1 then
      [published (NldAvrcpEventContent.record { type := .aclConnected, timestamp100ns := t } g 1)]
    else history
  | .endGeneration g t =>
    if (queue.endGeneration g t).1 then
      history ++ queue.appended { type := .aclDisconnected, timestamp100ns := t }
    else history
  | .push g content =>
    if (queue.push g content).1 then history ++ queue.appended content else history
  | .pop => history ++ queue.pop.1.toList.map popped
  | .getStatus => history

end NldAvrcpEventRing

/-- The ring with the history of its current generation. -/
def toldRing :
    Reducer (NldAvrcpEventRing × List QueueHappening) NldAvrcpEventQueueOp
      NldAvrcpEventQueueAnswer where
  step s op := (eventRing.out s.1 op, (eventRing.next s.1 op, s.1.told s.2 op))

/-- An initialized queue, before anything happened, and what operations make of it. -/
def toldAfter (ops : List NldAvrcpEventQueueOp) : NldAvrcpEventRing × List QueueHappening :=
  toldRing.after (.initialized, []) ops

theorem toldRing_ring (s : NldAvrcpEventRing × List QueueHappening)
    (ops : List NldAvrcpEventQueueOp) : (toldRing.after s ops).1 = eventRing.after s.1 ops := by
  induction ops generalizing s with
  | nil => rfl
  | cons op ops ih => exact ih (toldRing.next s op)

/-! ## The ring and its history -/

/-- The ring and its history agree: what is published has left in its order or is queued in
    it, and the counters count the history. -/
structure Recorded (s : NldAvrcpEventRing × List QueueHappening) : Prop where
  laid : s.1.Laid
  order : publishedOf s.2 = removedOf s.2 ++ s.1.contents
  numbers : (publishedOf s.2).map (·.sequence) =
    (List.range (publishedOf s.2).length).map sequenceNumber
  next : s.1.nextSequence = sequenceNumber (publishedOf s.2).length
  dropped : s.1.droppedEvents = UInt32.ofNat (droppedOf s.2).length

section
variable {queue : NldAvrcpEventRing} {history : List QueueHappening}

theorem recorded_initialized : Recorded (.initialized, []) where
  laid := NldAvrcpEventRing.laid_initialized
  order := rfl
  numbers := rfl
  next := rfl
  dropped := rfl

theorem published_appended (content : NldAvrcpEventContent) :
    publishedOf (history ++ queue.appended content) =
      publishedOf history ++ [content.record queue.aclGeneration queue.nextSequence] := by
  rw [publishedOf, List.filterMap_append, NldAvrcpEventRing.appended]
  split_ifs <;> rfl

theorem removed_appended (content : NldAvrcpEventContent) :
    removedOf (history ++ queue.appended content) =
      removedOf history ++
        if queue.count = nldAvrcpEventQueueCapacity then [queue.oldest] else [] := by
  rw [removedOf, List.filterMap_append, NldAvrcpEventRing.appended]
  split_ifs <;> rfl

theorem dropped_appended (content : NldAvrcpEventContent) :
    (droppedOf (history ++ queue.appended content)).length =
      (droppedOf history).length +
        if queue.count = nldAvrcpEventQueueCapacity then 1 else 0 := by
  rw [droppedOf, List.filterMap_append, List.length_append, NldAvrcpEventRing.appended]
  split_ifs <;> rfl

theorem popped_appended (content : NldAvrcpEventContent) :
    poppedOf (history ++ queue.appended content) = poppedOf history := by
  rw [poppedOf, List.filterMap_append, NldAvrcpEventRing.appended]
  split_ifs <;> exact List.append_nil _

theorem Recorded.append (h : Recorded (queue, history)) (content : NldAvrcpEventContent) :
    Recorded (queue.append content, history ++ queue.appended content) := by
  obtain ⟨hlaid, hcontents⟩ := h.laid.append content
  have horder : publishedOf history = removedOf history ++ queue.contents := h.order
  have hnext : queue.nextSequence = sequenceNumber (publishedOf history).length := h.next
  have hdropped : queue.droppedEvents = UInt32.ofNat (droppedOf history).length := h.dropped
  constructor
  · exact hlaid
  · simp only [published_appended, removed_appended, List.append_assoc, ← hcontents]
    rw [horder, List.append_assoc]
  · simp only [published_appended, List.length_append, List.length_singleton, List.map_append,
      List.range_succ, List.map_cons, List.map_nil]
    rw [h.numbers, ← hnext]
    rfl
  · simp only [published_appended, List.length_append, List.length_singleton,
      queue.append_nextSequence, hnext]
    exact sequenceNumber_succ _
  · simp only [dropped_appended, queue.append_droppedEvents]
    split_ifs
    · rw [hdropped]
      exact (UInt32.ofNat_add _ 1).symm
    · exact hdropped

theorem Recorded.pop (h : Recorded (queue, history)) :
    Recorded (queue.pop.2, history ++ queue.pop.1.toList.map popped) := by
  obtain ⟨hlaid, hpopped, hleft⟩ := NldAvrcpEventRing.Laid.pop h.laid
  have hcontents : queue.contents = queue.pop.1.toList ++ queue.pop.2.contents := by
    rw [hpopped, hleft]
    generalize queue.contents = contents
    cases contents <;> rfl
  obtain ⟨hnext, hcounted, -, -⟩ := queue.pop_counters
  have hpublished : publishedOf (history ++ queue.pop.1.toList.map popped) =
      publishedOf history := by
    cases queue.pop.1 <;> simp [publishedOf, published?]
  have hremoved : removedOf (history ++ queue.pop.1.toList.map popped) =
      removedOf history ++ queue.pop.1.toList := by
    cases queue.pop.1 <;> simp [removedOf, removed?]
  have hdropped : droppedOf (history ++ queue.pop.1.toList.map popped) = droppedOf history := by
    cases queue.pop.1 <;> simp [droppedOf, dropped?]
  constructor
  · exact hlaid
  · simp only [hpublished, hremoved, List.append_assoc, ← hcontents]
    exact h.order
  · simp only [hpublished]
    exact h.numbers
  · simp only [hpublished, hnext]
    exact h.next
  · simp only [hdropped, hcounted]
    exact h.dropped

theorem recorded_step {s : NldAvrcpEventRing × List QueueHappening} (op : NldAvrcpEventQueueOp)
    (h : Recorded s) : Recorded (toldRing.next s op) := by
  obtain ⟨queue, history⟩ := s
  show Recorded (eventRing.next queue op, queue.told history op)
  cases op with
  | initializeQueue => exact recorded_initialized
  | beginGeneration g t =>
    show Recorded (((queue.beginGeneration g t).map _ id).2, ite _ _ _)
    rw [NldAvrcpEventRing.beginGeneration]
    by_cases hnewer : isNewerGeneration g queue.aclGeneration = true
    · rw [if_neg (not_not.mpr hnewer)]
      have hrestarted : Recorded ({ queue with
          aclGeneration := g, nextSequence := 1, head := 0, count := 0, droppedEvents := 0
          generationCurrent := true }, []) :=
        ⟨NldAvrcpEventRing.laid_restarted h.laid g, rfl, rfl, rfl, rfl⟩
      exact hrestarted.append { type := .aclConnected, timestamp100ns := t }
    · rw [if_pos hnewer]
      exact h
  | endGeneration g t =>
    show Recorded (((queue.endGeneration g t).map _ id).2, ite _ _ _)
    rw [NldAvrcpEventRing.endGeneration]
    by_cases hrefused : ¬ queue.generationCurrent = true ∨ queue.aclGeneration ≠ g
    · rw [if_pos hrefused]
      exact h
    · rw [if_neg hrefused]
      have happend := h.append { type := .aclDisconnected, timestamp100ns := t }
      exact ⟨⟨happend.laid.events, happend.laid.head, happend.laid.count⟩, happend.order,
        happend.numbers, happend.next, happend.dropped⟩
  | push g content =>
    show Recorded (((queue.push g content).map _ id).2, ite _ _ _)
    unfold NldAvrcpEventRing.push
    by_cases hrefused : ¬ queue.generationCurrent = true ∨ queue.aclGeneration ≠ g ∨
        content.type = .none ∨ content.type = .aclConnected ∨ content.type = .aclDisconnected
    · rw [if_pos hrefused]
      exact h
    · rw [if_neg hrefused]
      exact h.append content
  | pop => exact h.pop
  | getStatus => exact h

end

theorem recorded_after (ops : List NldAvrcpEventQueueOp) : Recorded (toldAfter ops) :=
  Reducer.after_inv (Q := fun _ _ => True) (fun _ op h _ => recorded_step op h)
    recorded_initialized (Reducer.along_of_forall (fun _ _ => trivial) _ ops)

/-! ## What a history tells -/

section
variable {history : List QueueHappening}

theorem popped_sublist (history : List QueueHappening) :
    (poppedOf history).Sublist (removedOf history) := by
  induction history with
  | nil => exact .slnil
  | cons happening history ih =>
    cases happening with
    | published event => exact ih
    | dropped event => exact ih.cons event
    | popped event => exact ih.cons_cons event

theorem removed_perm (history : List QueueHappening) :
    (removedOf history).Perm (poppedOf history ++ droppedOf history) := by
  induction history with
  | nil => exact .nil
  | cons happening history ih =>
    cases happening with
    | published event => exact ih
    | dropped event => exact (ih.cons event).trans List.perm_middle.symm
    | popped event => exact ih.cons event

theorem removed_eq_dropped (h : poppedOf history = []) : removedOf history = droppedOf history := by
  induction history with
  | nil => rfl
  | cons happening history ih =>
    cases happening with
    | published event => exact ih h
    | dropped event => exact congrArg (event :: ·) (ih h)
    | popped event => exact absurd h (List.cons_ne_nil _ _)

theorem Recorded.sequence_eq {s : NldAvrcpEventRing × List QueueHappening} (h : Recorded s)
    {front back : List NldAvrcpEventRecord} {event : NldAvrcpEventRecord}
    (hsplit : publishedOf s.2 = front ++ event :: back) :
    event.sequence = sequenceNumber front.length := by
  have hnumber := congrArg (·[front.length]?) h.numbers
  simpa [hsplit] using hnumber

theorem Recorded.between {s : NldAvrcpEventRing × List QueueHappening} (h : Recorded s)
    {before between later : List QueueHappening} {a b : NldAvrcpEventRecord}
    (hhistory : s.2 = before ++ popped a :: between ++ popped b :: later)
    (hbetween : poppedOf between = []) :
    publishedOf s.2 = (removedOf before ++ a :: droppedOf between) ++
      b :: (removedOf later ++ s.1.contents) := by
  have hremoved : removedOf s.2 =
      (removedOf before ++ a :: droppedOf between) ++ b :: removedOf later := by
    rw [hhistory, ← removed_eq_dropped hbetween]
    simp [removedOf, removed?]
  rw [h.order, hremoved, List.append_assoc, List.cons_append]

end

/-- **What becomes of the events**, over any operations: the ring answers as a bounded FIFO
    that forgets its oldest event; the events of a generation are popped in the order of
    their publication; each is popped, dropped or queued; the dropped ones are counted
    modulo `2 ^ 32`; and the numbers of two events popped one after the other differ by one
    more than what was dropped between them, modulo the count of numbers. -/
theorem eventQueue_history (ops : List NldAvrcpEventQueueOp) :
    eventRing.outputs .initialized ops = eventFifo.outputs {} ops ∧
    (poppedOf (toldAfter ops).2).Sublist (publishedOf (toldAfter ops).2) ∧
    (publishedOf (toldAfter ops).2).Perm (poppedOf (toldAfter ops).2 ++
      droppedOf (toldAfter ops).2 ++ (eventRing.after .initialized ops).contents) ∧
    (eventRing.after .initialized ops).droppedEvents =
      UInt32.ofNat (droppedOf (toldAfter ops).2).length ∧
    ∀ before a between b later,
      (toldAfter ops).2 = before ++ popped a :: between ++ popped b :: later →
      poppedOf between = [] →
        b.sequence.toNat ≡ a.sequence.toNat + (droppedOf between).length + 1
            [MOD 2 ^ 64 - 1] ∧
          ((publishedOf (toldAfter ops).2).length < 2 ^ 64 →
            b.sequence.toNat = a.sequence.toNat + (droppedOf between).length + 1) := by
  have h := recorded_after ops
  have hring : (toldAfter ops).1 = eventRing.after .initialized ops := toldRing_ring _ ops
  rw [← hring]
  refine ⟨(eventRing_refines ops).1, ?_, ?_, h.dropped, ?_⟩
  · rw [h.order]
    exact (popped_sublist _).trans (List.sublist_append_left _ _)
  · rw [h.order]
    exact (removed_perm _).append_right _
  · intro before a between b later hhistory hbetween
    have hpublished := h.between hhistory hbetween
    have hb := h.sequence_eq hpublished
    rw [List.append_assoc, List.cons_append] at hpublished
    have ha := h.sequence_eq hpublished
    have hlength := congrArg List.length hpublished
    simp only [List.length_append, List.length_cons] at hlength hb
    rw [ha, hb, sequenceNumber_toNat, sequenceNumber_toNat]
    constructor
    · show _ % _ = _ % _
      omega
    · intro hfew
      omega

def keyPress : NldAvrcpEventQueueOp := .push 1 { type := .passThrough, timestamp100ns := 0 }

/-- The connection is popped; then one press more than the ring has room for. -/
def overrun : List NldAvrcpEventQueueOp :=
  .beginGeneration 1 0 :: .pop :: List.replicate 65 keyPress ++ [.pop]

/-- One press is dropped, and the numbers of the events popped around it tell. -/
theorem eventQueue_history_overrun :
    ∃ before a between b, (toldAfter overrun).2 = before ++ popped a :: between ++ [popped b] ∧
      (droppedOf between).length = 1 ∧
      b.sequence.toNat = a.sequence.toNat + (droppedOf between).length + 1 := by
  obtain ⟨-, -, -, -, hgaps⟩ := eventQueue_history overrun
  let connected := NldAvrcpEventContent.record { type := .aclConnected, timestamp100ns := 0 } 1 1
  let press := NldAvrcpEventContent.record { type := .passThrough, timestamp100ns := 0 } 1 3
  have hhistory : (toldAfter overrun).2 = [published connected] ++ popped connected ::
      ((toldAfter overrun).2.drop 2).take 66 ++ [popped press] := by decide +kernel
  obtain ⟨-, hexact⟩ := hgaps _ _ _ _ _ hhistory (by decide +kernel)
  exact ⟨_, _, _, _, hhistory, by decide +kernel, hexact (by decide +kernel)⟩

theorem presses_published (n : Nat) (s : NldAvrcpEventRing × List QueueHappening)
    (hcurrent : s.1.generationCurrent = true) (hgeneration : s.1.aclGeneration = 1) :
    (publishedOf (toldRing.after s (List.replicate n keyPress)).2).length =
        (publishedOf s.2).length + n ∧
      poppedOf (toldRing.after s (List.replicate n keyPress)).2 = poppedOf s.2 := by
  induction n generalizing s with
  | zero => exact ⟨rfl, rfl⟩
  | succ n ih =>
    obtain ⟨queue, history⟩ := s
    let content : NldAvrcpEventContent := { type := .passThrough, timestamp100ns := 0 }
    have hpush : queue.push 1 content = (true, queue.append content) := by
      rw [NldAvrcpEventRing.push, if_neg]
      rintro (hended | hstale | hnone | hconnected | hdisconnected)
      · exact hended hcurrent
      · exact hstale hgeneration
      · cases hnone
      · cases hconnected
      · cases hdisconnected
    have hnext : toldRing.next (queue, history) keyPress =
        (queue.append content, history ++ queue.appended content) := by
      show (((queue.push 1 content).map _ id).2, ite _ _ _) = _
      rw [hpush]
      rfl
    obtain ⟨hpublished, hpopped⟩ := ih (toldRing.next (queue, history) keyPress)
      (by rw [hnext]; exact (queue.append_generationCurrent content).trans hcurrent)
      (by rw [hnext]; exact (queue.append_aclGeneration content).trans hgeneration)
    rw [List.replicate_succ, Reducer.after_cons, hpublished, hpopped, hnext]
    simp only [published_appended, popped_appended, List.length_append, List.length_singleton]
    exact ⟨by omega, trivial⟩

theorem presses_dropped (n : Nat) :
    n < (droppedOf (toldAfter (.beginGeneration 1 0 :: List.replicate n keyPress)).2).length +
      nldAvrcpEventQueueCapacity := by
  have h := recorded_after (.beginGeneration 1 0 :: List.replicate n keyPress)
  have hqueued := h.laid.length_contents.trans_le h.laid.count
  obtain ⟨hpublished, hpopped⟩ := presses_published n
    (toldRing.next (.initialized, []) (.beginGeneration 1 0)) (by decide) (by decide)
  have horder := congrArg List.length h.order
  have hnone : poppedOf (toldAfter (.beginGeneration 1 0 :: List.replicate n keyPress)).2 = [] :=
    hpopped
  have hbegun : (publishedOf (toldRing.next (.initialized, []) (.beginGeneration 1 0)).2).length =
    1 := by decide
  rw [List.length_append, removed_eq_dropped hnone] at horder
  rw [hbegun] at hpublished
  have hmany := hpublished.symm.trans horder
  omega

/-- Presses that are never popped, enough to wrap the counter of the dropped ones. -/
def uncounted : List NldAvrcpEventQueueOp :=
  .beginGeneration 1 0 :: List.replicate (2 ^ 32 + 64) keyPress

/-- The counter of the dropped events is short of them. -/
theorem dropped_events_uncounted :
    (eventRing.after .initialized uncounted).droppedEvents.toNat ≠
      (droppedOf (toldAfter uncounted).2).length := by
  have hdropped := presses_dropped (2 ^ 32 + 64)
  have hlt := (eventRing.after .initialized uncounted).droppedEvents.toNat_lt
  rw [nldAvrcpEventQueueCapacity] at hdropped
  rw [uncounted] at hlt ⊢
  omega

end NativeLdac.Sideband
