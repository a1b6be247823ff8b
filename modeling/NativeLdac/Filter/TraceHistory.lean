/-
  What becomes of the traced events.  Those that are popped come in the order of their pushes,
  as they were pushed, and their numbers tell how many were overwritten between them.

  * `tracedOf`, `eventsOf` and `poppedOf`: what was pushed, the events made of it, and what the
    pops gave back;
  * `Kept` ties the FIFO to what was pushed.
-/
import Mathlib.Data.List.GetD
import Mathlib.Data.Nat.ModEq
import NativeLdac.Filter.TraceQueue

namespace NativeLdac.Filter

open Sideband (sequenceNumber sequenceNumber_toNat)

/-- The contents pushed, of the types that are traced. -/
def tracedOf (ops : List NldAvrcpFilterTraceOp) : List NldAvrcpFilterEventContent :=
  ops.filterMap fun
    | .push content => if content.Traced then some content else none
    | _ => none

/-- The events made of the contents, numbered in their order. -/
def eventsOf (traced : List NldAvrcpFilterEventContent) : List NldAvrcpFilterEvent :=
  traced.mapIdx fun n content => content.event (sequenceNumber n)

/-- The events that the pops gave back. -/
def poppedOf (answers : List NldAvrcpFilterTraceAnswer) : List NldAvrcpFilterEvent :=
  answers.filterMap fun
    | .popped event => event
    | _ => none

/-- The operation overwrites the oldest event. -/
def NldAvrcpFilterTraceQueue.overwrites (queue : NldAvrcpFilterTraceQueue) :
    NldAvrcpFilterTraceOp → Bool
  | .push content => content.Traced ∧ queue.count = nldAvrcpFilterTraceCapacity
  | _ => false

open NldAvrcpFilterTraceQueue (overwrites)
/-! ## The bytes of an event -/

namespace NldAvrcpFilterEventContent

variable (content : NldAvrcpFilterEventContent) (sequence : UInt64)

theorem boundedRawSize_toNat :
    content.boundedRawSize.toNat = min content.rawSize.toNat nldAvrcpFilterRawPrefixCapacity := by
  unfold boundedRawSize
  split_ifs with h
  · exact (Nat.min_eq_right (Nat.le_of_lt (UInt32.lt_iff_toNat_lt.mp h))).symm
  · exact (Nat.min_eq_left (Nat.not_lt.mp (mt UInt32.lt_iff_toNat_lt.mpr h))).symm

@[simp] theorem event_sequence : (content.event sequence).sequence = sequence := by
  unfold event
  split
  · rfl
  · split <;> rfl

theorem event_raw {bytes : List UInt8} (h : content.rawPrefix = some bytes) :
    (content.event sequence).rawSize.toNat =
        min content.rawSize.toNat nldAvrcpFilterRawPrefixCapacity ∧
      (content.event sequence).rawPrefix.take
          (min content.rawSize.toNat nldAvrcpFilterRawPrefixCapacity) =
        bytes.take (min content.rawSize.toNat nldAvrcpFilterRawPrefixCapacity) := by
  have hreadable := content.readable bytes h
  have hsize := content.boundedRawSize_toNat
  rw [← hsize] at hreadable ⊢
  simp only [event, h]
  by_cases hzero : content.boundedRawSize = 0
  · rw [hzero, if_neg (not_not.mpr rfl)]
    exact ⟨rfl, rfl⟩
  · rw [if_pos hzero]
    refine ⟨rfl, ?_⟩
    rw [CircularBuffer.overwrite, List.take_zero, List.nil_append]
    have hlength : (bytes.take content.boundedRawSize.toNat).length =
        content.boundedRawSize.toNat := by
      rw [List.length_take, Nat.min_eq_left hreadable]
    rw [List.take_append_of_le_length hlength.ge, List.take_take, Nat.min_self]

end NldAvrcpFilterEventContent

/-! ## The FIFO and what was pushed -/

/-- The FIFO has the events made of what was pushed, without the first `gone`. -/
structure Kept (a : FilterTraceFifo) (gone : Nat) : Prop where
  contents : a.fifo.contents = (eventsOf a.traced).drop gone
  gone : gone ≤ a.traced.length

section
variable {a : FilterTraceFifo} {gone : Nat}

theorem length_eventsOf (traced : List NldAvrcpFilterEventContent) :
    (eventsOf traced).length = traced.length := List.length_mapIdx

theorem eventsOf_snoc (traced : List NldAvrcpFilterEventContent)
    (content : NldAvrcpFilterEventContent) :
    eventsOf (traced ++ [content]) =
      eventsOf traced ++ [content.event (sequenceNumber traced.length)] := by
  simp [eventsOf, List.mapIdx_append]

theorem eventsOf_append_extends (traced more : List NldAvrcpFilterEventContent) :
    eventsOf traced <+: eventsOf (traced ++ more) := by
  rw [eventsOf, eventsOf, List.mapIdx_append]
  exact List.prefix_append _ _

theorem Kept.length (h : Kept a gone) :
    a.traced.length = gone + a.fifo.contents.length := by
  have hgone := h.gone
  rw [h.contents, List.length_drop, length_eventsOf]
  omega

theorem kept_initialized : Kept {} 0 where
  contents := rfl
  gone := Nat.le_refl _

theorem Kept.push (h : Kept a gone) {content : NldAvrcpFilterEventContent}
    (htraced : content.Traced) :
    Kept (a.push content)
      (gone + if a.fifo.contents.length = nldAvrcpFilterTraceCapacity then 1 else 0) := by
  have hgone := h.gone
  have hlength := h.length
  rw [FilterTraceFifo.push, if_neg (not_not.mpr htraced)]
  constructor
  · simp only [BoundedFifo.contents_push_singleton, eventsOf_snoc]
    rw [← length_eventsOf] at hgone
    split_ifs with hfull
    · rw [← List.drop_drop, List.drop_append_of_le_length hgone, ← h.contents, List.drop_one]
    · rw [Nat.add_zero, List.drop_append_of_le_length hgone, ← h.contents]
  · simp only [List.length_append, List.length_singleton]
    split_ifs <;> omega

theorem Kept.pop (h : Kept a gone) :
    (a.fifo.pop 1).1.head? = (eventsOf a.traced)[gone]? ∧
      Kept { a with fifo := (a.fifo.pop 1).2 }
        (gone + (a.fifo.pop 1).1.head?.toList.length) := by
  obtain ⟨hpopped, hleft⟩ := a.fifo.pop_one
  have hhead : (a.fifo.pop 1).1.head? = (eventsOf a.traced)[gone]? := by
    rw [hpopped, h.contents, List.head?_drop]
  have hlength := h.length
  refine ⟨hhead, ?_, ?_⟩
  · show (a.fifo.pop 1).2.contents = _
    rw [hleft, hpopped, h.contents, ← List.drop_one, List.drop_drop]
    cases hdrop : (eventsOf a.traced).drop gone with
    | nil =>
      have hshort := List.drop_eq_nil_iff.mp hdrop
      rw [List.drop_eq_nil_of_le (by omega), List.drop_eq_nil_of_le (by simpa using hshort)]
    | cons event events => rfl
  · rw [hpopped]
    cases hcontents : a.fifo.contents with
    | nil => exact h.gone
    | cons event events =>
      rw [hcontents, List.length_cons] at hlength
      show gone + 1 ≤ a.traced.length
      omega

end

/-! ## Runs -/

section
variable {a : FilterTraceFifo} {queue : NldAvrcpFilterTraceQueue} {gone : Nat}

theorem overwrites_eq (h : HoldsFifo queue a) (content : NldAvrcpFilterEventContent)
    (htraced : content.Traced) :
    (queue.overwrites (.push content)).toNat =
      if a.fifo.contents.length = nldAvrcpFilterTraceCapacity then 1 else 0 := by
  simp only [overwrites, htraced, true_and, h.count]
  split_ifs with hfull <;> simp [hfull]

theorem tracedOf_cons (op : NldAvrcpFilterTraceOp) (ops : List NldAvrcpFilterTraceOp) :
    tracedOf (op :: ops) = tracedOf [op] ++ tracedOf ops := by
  rw [← List.singleton_append]
  exact List.filterMap_append

theorem poppedOf_cons (answer : NldAvrcpFilterTraceAnswer)
    (answers : List NldAvrcpFilterTraceAnswer) :
    poppedOf (answer :: answers) = poppedOf [answer] ++ poppedOf answers := by
  rw [← List.singleton_append]
  exact List.filterMap_append

/-- What one operation adds to what was pushed, takes off, and overwrites. -/
structure KeptStep (queue : NldAvrcpFilterTraceQueue) (a : FilterTraceFifo) (gone : Nat)
    (op : NldAvrcpFilterTraceOp) : Prop where
  traced : (traceFifo.next a op).traced = a.traced ++ tracedOf [op]
  lost : (traceFifo.next a op).lost = a.lost + (queue.overwrites op).toNat
  kept : Kept (traceFifo.next a op)
    (gone + (poppedOf [traceFifo.out a op]).length + (queue.overwrites op).toNat)
  popped : poppedOf [traceFifo.out a op] <+: (eventsOf a.traced).drop gone

theorem Kept.step (h : Kept a gone) (hholds : HoldsFifo queue a) (op : NldAvrcpFilterTraceOp) :
    KeptStep queue a gone op := by
  cases op with
  | allocateRequestId =>
    exact ⟨(List.append_nil _).symm, rfl, ⟨h.contents, h.gone⟩, List.nil_prefix⟩
  | getStatus flags => exact ⟨(List.append_nil _).symm, rfl, h, List.nil_prefix⟩
  | push content =>
    by_cases htraced : content.Traced
    · have hpushed : (a.push content).traced = a.traced ++ tracedOf [.push content] := by
        rw [FilterTraceFifo.push, if_neg (not_not.mpr htraced)]
        simp [tracedOf, htraced]
      have hkept := h.push htraced
      have hoverwrites := overwrites_eq hholds content htraced
      refine ⟨hpushed, ?_, ?_, List.nil_prefix⟩
      · rw [hoverwrites]
        show (a.push content).lost = _
        rw [FilterTraceFifo.push, if_neg (not_not.mpr htraced)]
        split_ifs <;> rfl
      · rw [hoverwrites]
        exact hkept
    · have hsame : a.push content = a := if_pos htraced
      have hnone : queue.overwrites (.push content) = false := by
        simp [overwrites, htraced]
      have hnext : traceFifo.next a (.push content) = a := hsame
      rw [← Bool.toNat_eq_zero] at hnone
      refine ⟨?_, ?_, ?_, List.nil_prefix⟩
      · rw [hnext]
        simp [tracedOf, htraced]
      · rw [hnext, hnone, Nat.add_zero]
      · rw [hnext, hnone, Nat.add_zero]
        exact h
  | pop =>
    obtain ⟨hhead, hkept⟩ := h.pop
    have hpopped : poppedOf [traceFifo.out a .pop] = (a.fifo.pop 1).1.head?.toList := by
      show [NldAvrcpFilterTraceAnswer.popped (a.fifo.pop 1).1.head?].filterMap _ = _
      cases (a.fifo.pop 1).1.head? <;> rfl
    refine ⟨(List.append_nil _).symm, rfl, ?_, ?_⟩
    · rw [hpopped]
      exact hkept
    · rw [hpopped, hhead, ← List.head?_drop]
      cases (eventsOf a.traced).drop gone with
      | nil => exact List.nil_prefix
      | cons event events => exact ⟨events, rfl⟩

theorem Kept.run (h : Kept a gone) (hholds : HoldsFifo queue a)
    (ops : List NldAvrcpFilterTraceOp) :
    (traceFifo.after a ops).traced = a.traced ++ tracedOf ops ∧
      (traceFifo.after a ops).lost =
        a.lost + filterTrace.count overwrites queue ops ∧
      Kept (traceFifo.after a ops)
        (gone + (poppedOf (traceFifo.outputs a ops)).length +
          filterTrace.count overwrites queue ops) ∧
      (poppedOf (traceFifo.outputs a ops)).Sublist
        ((eventsOf (a.traced ++ tracedOf ops)).drop gone) := by
  induction ops generalizing a queue gone with
  | nil => exact ⟨(List.append_nil _).symm, rfl, h, List.nil_sublist _⟩
  | cons op ops ih =>
    have hstep := h.step hholds op
    obtain ⟨htraced, hlost, hkept, hpopped⟩ := ih hstep.kept (holdsFifo_step queue a op hholds).2
    rw [hstep.traced, List.append_assoc, ← tracedOf_cons] at htraced hpopped
    rw [Reducer.outputs, poppedOf_cons, Reducer.count, Reducer.after_cons]
    refine ⟨htraced, ?_, ?_, ?_⟩
    · rw [hlost, hstep.lost, Nat.add_assoc]
    · rw [List.length_append]
      convert hkept using 1
      omega
    · -- what the first operation gives back leads what is left
      obtain ⟨left, hleft⟩ := hstep.popped.trans
        ((eventsOf_append_extends a.traced (tracedOf (op :: ops))).drop gone)
      have hrest : left = (eventsOf (a.traced ++ tracedOf (op :: ops))).drop
          (gone + (poppedOf [traceFifo.out a op]).length) := by
        rw [← List.drop_drop, ← hleft, List.drop_left]
      rw [← hleft, hrest]
      refine (List.Sublist.refl _).append (hpopped.trans ?_)
      rw [← List.drop_drop]
      exact List.drop_sublist _ _

theorem sequence_of_get? {traced : List NldAvrcpFilterEventContent} {event : NldAvrcpFilterEvent}
    {n : Nat} (h : (eventsOf traced)[n]? = some event) :
    event.sequence = sequenceNumber n ∧ n < traced.length := by
  have hn := (List.getElem?_eq_some_iff.mp h).1
  rw [eventsOf, List.getElem?_mapIdx] at h
  obtain ⟨content, -, rfl⟩ := Option.map_eq_some_iff.mp h
  exact ⟨content.event_sequence _, length_eventsOf traced ▸ hn⟩

theorem Kept.popped (h : Kept a gone) (hholds : HoldsFifo queue a) {event : NldAvrcpFilterEvent}
    (hpop : filterTrace.out queue .pop = .popped (some event)) :
    (eventsOf a.traced)[gone]? = some event := by
  rw [(holdsFifo_step queue a .pop hholds).1] at hpop
  have hhead : (a.fifo.pop 1).1.head? = some event := by
    injection hpop
  rw [← h.pop.1, hhead]

theorem Kept.between (h : Kept a gone) (hholds : HoldsFifo queue a)
    {between : List NldAvrcpFilterTraceOp} {event later : NldAvrcpFilterEvent}
    (hpop : filterTrace.out queue .pop = .popped (some event))
    (hbetween : poppedOf (filterTrace.outputs (filterTrace.next queue .pop) between) = [])
    (hlater : filterTrace.out (filterTrace.after queue (.pop :: between)) .pop =
      .popped (some later)) :
    event.sequence = sequenceNumber gone ∧
      later.sequence = sequenceNumber (gone + 1 +
        filterTrace.count overwrites (filterTrace.next queue .pop)
          between) ∧
      gone + 1 +
        filterTrace.count overwrites (filterTrace.next queue .pop)
          between < (a.traced ++ tracedOf between).length := by
  obtain ⟨hevent, -⟩ := sequence_of_get? (h.popped hholds hpop)
  obtain ⟨hpopped, hnext⟩ := holdsFifo_step queue a .pop hholds
  have hstep := (h.step hholds .pop).kept
  have hone : poppedOf [traceFifo.out a .pop] = [event] := by
    rw [← hpopped, hpop]
    rfl
  rw [hone] at hstep
  obtain ⟨htraced, -, hkept, -⟩ := hstep.run hnext between
  rw [← (Reducer.simulation holdsFifo_step hnext between).1, hbetween] at hkept
  have hafter := (Reducer.simulation holdsFifo_step hnext between).2
  obtain ⟨hnumber, hlength⟩ := sequence_of_get? (hkept.popped hafter hlater)
  rw [htraced] at hlength
  exact ⟨hevent, hnumber, hlength⟩

end

/-- **What becomes of the traced events**, over any operations: the queue answers as a bounded
    FIFO that forgets its oldest event; an event keeps what was pushed, and the first bytes it was
    given; the events are popped in the order of their pushes; each is popped, overwritten or
    queued; the overwritten ones are counted modulo `2 ^ 32`; and the numbers of two events popped
    one after the other differ by one more than what was overwritten between them, modulo the
    count of numbers. -/
theorem filterTrace_history (ops : List NldAvrcpFilterTraceOp) :
    filterTrace.outputs .initialized ops = traceFifo.outputs {} ops ∧
    (∀ content sequence bytes, NldAvrcpFilterEventContent.rawPrefix content = some bytes →
      (content.event sequence).rawSize.toNat =
          min content.rawSize.toNat nldAvrcpFilterRawPrefixCapacity ∧
        (content.event sequence).rawPrefix.take
            (min content.rawSize.toNat nldAvrcpFilterRawPrefixCapacity) =
          bytes.take (min content.rawSize.toNat nldAvrcpFilterRawPrefixCapacity)) ∧
    (poppedOf (filterTrace.outputs .initialized ops)).Sublist (eventsOf (tracedOf ops)) ∧
    (tracedOf ops).length = (poppedOf (filterTrace.outputs .initialized ops)).length +
      filterTrace.count NldAvrcpFilterTraceQueue.overwrites .initialized ops +
        (filterTrace.after .initialized ops).count ∧
    (filterTrace.after .initialized ops).droppedEvents =
      UInt32.ofNat (filterTrace.count NldAvrcpFilterTraceQueue.overwrites .initialized ops) ∧
    ∀ before between last event later, ops = before ++ .pop :: between ++ .pop :: last →
      let queue := filterTrace.after .initialized before
      filterTrace.out queue .pop = .popped (some event) →
      poppedOf (filterTrace.outputs (filterTrace.next queue .pop) between) = [] →
      filterTrace.out (filterTrace.after queue (.pop :: between)) .pop = .popped (some later) →
      let overwritten := filterTrace.count NldAvrcpFilterTraceQueue.overwrites
        (filterTrace.next queue .pop) between
      later.sequence.toNat ≡ event.sequence.toNat + overwritten + 1 [MOD 2 ^ 64 - 1] ∧
        ((tracedOf ops).length < 2 ^ 64 →
          later.sequence.toNat = event.sequence.toNat + overwritten + 1) := by
  obtain ⟨houtputs, hholds⟩ := filterTrace_refines ops
  obtain ⟨htraced, hlost, hkept, hpopped⟩ := kept_initialized.run holdsFifo_initialized ops
  rw [houtputs]
  refine ⟨rfl, fun content sequence bytes => content.event_raw sequence, hpopped, ?_, ?_, ?_⟩
  · have hlength := hkept.length
    rw [← hholds.count, htraced] at hlength
    rw [Nat.zero_add] at hlength
    exact hlength
  · rw [hholds.dropped, hlost]
    exact congrArg UInt32.ofNat (Nat.zero_add _)
  · intro before between last event later hops queue hpop hbetween hlater overwritten
    have hholds' := (filterTrace_refines before).2
    obtain ⟨htraced', -, hkept', -⟩ := kept_initialized.run holdsFifo_initialized before
    have hgap : event.sequence = sequenceNumber _ ∧
        later.sequence = sequenceNumber (_ + 1 + overwritten) ∧ _ + 1 + overwritten < _ :=
      hkept'.between hholds' hpop hbetween hlater
    obtain ⟨hevent, hnumber, hlength⟩ := hgap
    have hfew : (tracedOf before ++ tracedOf between).length ≤ (tracedOf ops).length := by
      rw [hops]
      simp only [tracedOf, List.filterMap_append, List.filterMap_cons, List.length_append]
      omega
    rw [htraced'] at hlength
    have hle := Nat.lt_of_lt_of_le hlength hfew
    rw [hevent, hnumber, sequenceNumber_toNat, sequenceNumber_toNat]
    constructor
    · show _ % _ = _ % _
      omega
    · intro hmany
      omega

/-- A request without its bytes. -/
def request : NldAvrcpFilterTraceOp := .push { type := filterEventRequest }

/-- One request is popped; then one more than the queue has room for. -/
def overrun : List NldAvrcpFilterTraceOp :=
  request :: .pop :: List.replicate 129 request ++ [.pop]

/-- One request is overwritten, and the numbers of the events popped around it tell. -/
theorem filterTrace_history_overrun :
    ∃ event later,
      filterTrace.out (filterTrace.after .initialized [request]) .pop = .popped (some event) ∧
      filterTrace.out (filterTrace.after (filterTrace.after .initialized [request])
        (.pop :: List.replicate 129 request)) .pop = .popped (some later) ∧
      later.sequence.toNat = event.sequence.toNat + 1 + 1 := by
  obtain ⟨-, -, -, -, -, hgaps⟩ := filterTrace_history overrun
  let content : NldAvrcpFilterEventContent := { type := filterEventRequest }
  have hpop : filterTrace.out (filterTrace.after .initialized [request]) .pop =
      .popped (some (content.event 1)) := by decide +kernel
  have hlater : filterTrace.out (filterTrace.after (filterTrace.after .initialized [request])
      (.pop :: List.replicate 129 request)) .pop = .popped (some (content.event 3)) := by
    decide +kernel
  have hoverwritten : filterTrace.count overwrites
      (filterTrace.next (filterTrace.after .initialized [request]) .pop)
      (List.replicate 129 request) = 1 := by decide +kernel
  obtain ⟨-, hexact⟩ := hgaps [request] (List.replicate 129 request) [] _ _
    (by rw [overrun, List.singleton_append]) hpop (by decide +kernel) hlater
  have hnumbers := hexact (by decide +kernel)
  rw [hoverwritten] at hnumbers
  exact ⟨_, _, hpop, hlater, hnumbers⟩

theorem tracedOf_requests (n : Nat) : (tracedOf (List.replicate n request)).length = n := by
  have htraced : NldAvrcpFilterEventContent.Traced { type := filterEventRequest } := by decide
  simp [tracedOf, request, htraced]

theorem poppedOf_requests (queue : NldAvrcpFilterTraceQueue) (n : Nat) :
    poppedOf (filterTrace.outputs queue (List.replicate n request)) = [] := by
  induction n generalizing queue with
  | zero => rfl
  | succ n ih => exact ih (filterTrace.next queue request)

theorem requests_overwritten (n : Nat) :
    n ≤ filterTrace.count overwrites .initialized
      (List.replicate n request) + 128 := by
  obtain ⟨htraced, -, hkept, -⟩ :=
    kept_initialized.run holdsFifo_initialized (List.replicate n request)
  have hlength := hkept.length
  have hbound : _ ≤ 128 := (traceFifo.after {} (List.replicate n request)).fifo.bound
  have hmany := tracedOf_requests n
  rw [htraced, ← (filterTrace_refines _).1, poppedOf_requests] at hlength
  simp only [List.nil_append, List.length_nil, Nat.zero_add, Nat.add_zero] at hlength
  omega

/-- Requests that are never popped, enough to wrap the counter of the overwritten ones. -/
def uncounted : List NldAvrcpFilterTraceOp := List.replicate (2 ^ 32 + 128) request

/-- The counter of the overwritten events is short of them. -/
theorem overwritten_uncounted :
    (filterTrace.after .initialized uncounted).droppedEvents.toNat ≠
      filterTrace.count NldAvrcpFilterTraceQueue.overwrites .initialized uncounted := by
  have hoverwritten := requests_overwritten (2 ^ 32 + 128)
  have hlt := (filterTrace.after .initialized uncounted).droppedEvents.toNat_lt
  rw [uncounted] at hlt ⊢
  omega

end NativeLdac.Filter
