/-
  Queues kept in a buffer of fixed size, from a head on and around the end, that overwrite
  their oldest element when they are full.
-/
import Mathlib.Algebra.Order.Group.Nat
import Mathlib.Data.List.GetD
import Mathlib.Tactic.SplitIfs
import NativeLdac.Lib.CircularBuffer

open CircularBuffer

structure RingBuffer (α : Type) where
  buffer : List α
  head : Nat
  count : Nat

namespace RingBuffer

variable {α : Type} (r : RingBuffer α) (capacity : Nat)

/-- A full ring gives up its oldest element. -/
def makeRoom : RingBuffer α :=
  if r.count = capacity then
    { r with head := (r.head + 1) % capacity, count := r.count - 1 }
  else r

/-- An element goes behind the others. -/
def store (x : α) : RingBuffer α :=
  { r with buffer := r.buffer.set ((r.head + r.count) % capacity) x, count := r.count + 1 }

def push (x : α) : RingBuffer α := (r.makeRoom capacity).store capacity x

/-- The oldest element, whose place is filled with `blank`. -/
def pop (blank : α) : Option α × RingBuffer α :=
  if r.count = 0 then (none, r)
  else
    (some (r.buffer.getD r.head blank),
      { buffer := r.buffer.set r.head blank
        head := (r.head + 1) % capacity
        count := r.count - 1 })

/-- The elements queued, the oldest first. -/
def contents : List α := view r.buffer r.head r.count

/-- The elements lie in the buffer. -/
structure Laid : Prop where
  buffer : r.buffer.length = capacity
  head : r.head < capacity
  count : r.count ≤ capacity

variable {r capacity}

theorem Laid.length_contents (h : r.Laid capacity) : r.contents.length = r.count :=
  length_view _ (h.buffer ▸ h.count)

theorem Laid.contents_eq (h : r.Laid capacity) (hcount : r.count ≠ 0) (blank : α) :
    r.contents = r.buffer.getD r.head blank ::
      view (r.buffer.set r.head blank) ((r.head + 1) % capacity) (r.count - 1) := by
  have hhead : r.head < r.buffer.length := h.buffer ▸ h.head
  have hlast : r.count - 1 < r.buffer.length := by
    have hc := h.count
    have hb := h.buffer
    omega
  have hview := view_succ hhead hlast blank
  rw [Nat.sub_add_cancel (Nat.pos_of_ne_zero hcount), h.buffer] at hview
  rw [contents, hview, List.getD_eq_getElem _ _ hhead]

theorem Laid.makeRoom (h : r.Laid capacity) :
    (r.makeRoom capacity).Laid capacity ∧ (r.makeRoom capacity).count < capacity ∧
      (r.makeRoom capacity).contents =
        if r.count = capacity then r.contents.tail else r.contents := by
  have hpos := h.head
  have hcount := h.count
  unfold RingBuffer.makeRoom
  split_ifs with hfull
  · refine ⟨⟨h.buffer, Nat.mod_lt _ (by omega), by dsimp only; omega⟩, by dsimp only; omega, ?_⟩
    have hhead : r.head < r.buffer.length := h.buffer ▸ h.head
    have hled := h.contents_eq (by omega) r.buffer[r.head]
    rw [List.set_getElem_self] at hled
    rw [hled]
    rfl
  · exact ⟨h, Nat.lt_of_le_of_ne hcount hfull, rfl⟩

theorem Laid.store (h : r.Laid capacity) (hroom : r.count < capacity) (x : α) :
    (r.store capacity x).Laid capacity ∧ (r.store capacity x).contents = r.contents ++ [x] := by
  constructor
  · exact ⟨(List.length_set ..).trans h.buffer, h.head, hroom⟩
  · have hbuffer : r.count < r.buffer.length := h.buffer ▸ hroom
    rw [contents, contents, RingBuffer.store, ← h.buffer]
    exact view_set_end hbuffer x

/-- **An element pushed** stands behind the others, without the oldest of a full ring. -/
theorem Laid.push_tail (h : r.Laid capacity) (x : α) :
    (r.push capacity x).Laid capacity ∧
      (r.push capacity x).contents =
        (if r.count = capacity then r.contents.tail else r.contents) ++ [x] := by
  obtain ⟨hlaid, hroom, hcontents⟩ := h.makeRoom
  obtain ⟨hstored, hstore⟩ := hlaid.store hroom x
  exact ⟨hstored, hcontents ▸ hstore⟩

theorem Laid.ne_nil (h : r.Laid capacity) (hfull : r.count = capacity) : r.contents ≠ [] := by
  intro hnil
  have hlength := h.length_contents
  have hhead := h.head
  rw [hnil, List.length_nil] at hlength
  omega

/-- It pushes out the oldest of a full ring. -/
theorem Laid.push (h : r.Laid capacity) (x : α) :
    (r.push capacity x).Laid capacity ∧
      (r.push capacity x).contents =
        if r.count = capacity then (r.contents ++ [x]).tail else r.contents ++ [x] := by
  obtain ⟨hpushed, hcontents⟩ := h.push_tail x
  refine ⟨hpushed, hcontents.trans ?_⟩
  split_ifs with hfull
  · exact (List.tail_append_of_ne_nil (h.ne_nil hfull)).symm
  · rfl

/-- **A pop** takes the oldest element. -/
theorem Laid.pop (h : r.Laid capacity) (blank : α) :
    (r.pop capacity blank).2.Laid capacity ∧
      (r.pop capacity blank).1 = r.contents.head? ∧
      (r.pop capacity blank).2.contents = r.contents.tail := by
  have hpos := h.head
  have hcount := h.count
  unfold RingBuffer.pop
  split_ifs with hzero
  · have hnil : r.contents = [] := List.eq_nil_of_length_eq_zero (h.length_contents.trans hzero)
    rw [hnil]
    exact ⟨h, rfl, rfl⟩
  · rw [h.contents_eq hzero blank]
    exact ⟨⟨(List.length_set ..).trans h.buffer, Nat.mod_lt _ (by omega), by dsimp only; omega⟩,
      rfl, rfl⟩

end RingBuffer
