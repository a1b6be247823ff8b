/-
  Bounded queues that forget their oldest elements, and buffers that are read and
  written around their end.

  * `BoundedFifo` is the queue;
  * `view buffer start n` is the part of a buffer that a queue is kept in: the `n`
    elements from `start` on, around the end.
-/
import Mathlib.Data.List.Rotate

/-- A queue of at most `capacity` elements. -/
structure BoundedFifo (α : Type) (capacity : Nat) where
  contents : List α
  bound : contents.length ≤ capacity

namespace BoundedFifo

variable {α : Type} {capacity : Nat}

def empty : BoundedFifo α capacity := ⟨[], Nat.zero_le _⟩

/-- The newest elements are kept. -/
def push (q : BoundedFifo α capacity) (data : List α) : BoundedFifo α capacity where
  contents := (q.contents ++ data).drop (q.contents.length + data.length - capacity)
  bound := by
    simp only [List.length_drop, List.length_append]
    omega

theorem contents_push (q : BoundedFifo α capacity) (data : List α) :
    (q.push data).contents =
      (q.contents ++ data).drop (q.contents.length + data.length - capacity) := rfl

/-- The oldest `n` elements, and the queue without them. -/
def pop (q : BoundedFifo α capacity) (n : Nat) : List α × BoundedFifo α capacity :=
  (q.contents.take n, ⟨q.contents.drop n, by
    have := q.bound
    simp only [List.length_drop]
    omega⟩)

theorem pop_one (q : BoundedFifo α capacity) :
    (q.pop 1).1.head? = q.contents.head? ∧ (q.pop 1).2.contents = q.contents.tail := by
  refine ⟨?_, List.drop_one⟩
  show (q.contents.take 1).head? = q.contents.head?
  cases q.contents <;> rfl

@[ext]
theorem ext {q q' : BoundedFifo α capacity} (h : q.contents = q'.contents) : q = q' := by
  cases q
  cases q'
  simpa using h

/-- Elements that the queue has no room for at all may be left out at once. -/
theorem push_drop (q : BoundedFifo α capacity) (data : List α) :
    (q.push (data.drop (data.length - capacity))).contents = (q.push data).contents := by
  have hb := q.bound
  simp only [push, List.length_drop, List.drop_append]
  by_cases h : data.length ≤ capacity
  · simp [Nat.sub_eq_zero_of_le h]
  · have hnil : ∀ d, q.contents.length ≤ d → q.contents.drop d = [] := fun d hd =>
      List.drop_eq_nil_of_le hd
    rw [hnil _ (by omega), hnil _ (by omega), List.drop_drop]
    congr 2
    omega

theorem push_contents (q : BoundedFifo α capacity) {data : List α} (h : data.length ≤ capacity) :
    (q.push data).contents =
      q.contents.drop (q.contents.length + data.length - capacity) ++ data := by
  have hb := q.bound
  simp only [push]
  rw [List.drop_append_of_le_length (by omega)]

/-- One element pushes out the oldest of a full queue, and only of a full one. -/
theorem contents_push_singleton (q : BoundedFifo α capacity) (x : α) :
    (q.push [x]).contents =
      if q.contents.length = capacity then (q.contents ++ [x]).tail else q.contents ++ [x] := by
  have hb := q.bound
  rw [contents_push, List.length_singleton]
  split_ifs with h
  · rw [h, Nat.add_sub_cancel_left, List.drop_one]
  · rw [Nat.sub_eq_zero_of_le (by omega), List.drop_zero]

theorem push_push (q : BoundedFifo α capacity) (data more : List α) :
    (q.push data).push more = q.push (data ++ more) := by
  apply ext
  simp only [push, List.length_drop, List.length_append]
  rw [← List.append_assoc, ← List.drop_append_of_le_length
    (by rw [List.length_append]; omega), List.drop_drop]
  congr 1
  omega

end BoundedFifo

namespace CircularBuffer

variable {α : Type} {buffer : List α} {data : List α}

/-- Data is copied into a buffer. -/
def overwrite (buffer : List α) (offset : Nat) (data : List α) : List α :=
  buffer.take offset ++ data ++ buffer.drop (offset + data.length)

/-- Data is copied into a buffer, and what reaches its end to its front. -/
def overwriteAround (buffer : List α) (offset : Nat) (data : List α) : List α :=
  let first := min data.length (buffer.length - offset)
  overwrite (overwrite buffer offset (data.take first)) 0 (data.drop first)

/-- `n` elements are copied from a buffer, around its end. -/
def readAround (buffer : List α) (offset n : Nat) : List α :=
  let first := min n (buffer.length - offset)
  (buffer.drop offset).take first ++ buffer.take (n - first)

/-- The `n` elements from `start` on, around the end. -/
def view (buffer : List α) (start n : Nat) : List α := (buffer.rotate start).take n

theorem overwrite_nil (buffer : List α) (offset : Nat) : overwrite buffer offset [] = buffer := by
  simp [overwrite]

theorem length_overwrite {offset : Nat} (h : offset + data.length ≤ buffer.length) :
    (overwrite buffer offset data).length = buffer.length := by
  simp only [overwrite, List.length_append, List.length_take, List.length_drop]
  omega

theorem length_overwriteAround {offset : Nat} (ho : offset ≤ buffer.length)
    (hd : data.length ≤ buffer.length) :
    (overwriteAround buffer offset data).length = buffer.length := by
  have hfirst : (overwrite buffer offset
      (data.take (min data.length (buffer.length - offset)))).length = buffer.length :=
    length_overwrite (by simp only [List.length_take]; omega)
  refine (length_overwrite ?_).trans hfirst
  rw [hfirst, List.length_drop]
  omega

theorem length_view {n : Nat} (start : Nat) (h : n ≤ buffer.length) :
    (view buffer start n).length = n := by
  simp [view, h]

/-- Seen from where it is written, the data stands in front of what it left. -/
theorem rotate_overwriteAround {offset : Nat} (ho : offset ≤ buffer.length)
    (hd : data.length ≤ buffer.length) :
    (overwriteAround buffer offset data).rotate offset =
      data ++ (buffer.rotate offset).drop data.length := by
  obtain ⟨front, back, rfl, rfl⟩ : ∃ front back, buffer = front ++ back ∧ offset = front.length :=
    ⟨buffer.take offset, buffer.drop offset, (List.take_append_drop ..).symm, by simp [ho]⟩
  rw [List.rotate_append_length_eq]
  simp only [overwriteAround, List.length_append, Nat.add_sub_cancel_left]
  by_cases h : data.length ≤ back.length
  · -- the data ends before the buffer does
    rw [Nat.min_eq_left h, List.take_length, List.drop_length, overwrite_nil, overwrite,
      List.take_left, List.append_assoc, List.rotate_append_length_eq,
      List.drop_append_of_le_length h, List.append_assoc]
    rw [List.drop_append, List.drop_eq_nil_of_le (Nat.le_add_right ..), Nat.add_sub_cancel_left,
      List.nil_append]
  · rw [Nat.min_eq_right (by omega)]
    obtain ⟨first, second, rfl, hfirst⟩ : ∃ first second, data = first ++ second ∧
        first.length = back.length :=
      ⟨data.take back.length, data.drop back.length, (List.take_append_drop ..).symm, by
        rw [List.length_take]
        omega⟩
    have hsecond : second.length ≤ front.length := by
      simp only [List.length_append] at hd
      omega
    rw [← hfirst, List.take_left, List.drop_left]
    have hwritten : overwrite (front ++ back) front.length first = front ++ first := by
      rw [overwrite, List.take_left, List.drop_eq_nil_of_le (by simp; omega), List.append_nil]
    rw [hwritten, overwrite, List.take_zero, List.nil_append, Nat.zero_add,
      List.drop_append_of_le_length hsecond]
    have hfront : front.length = (second ++ front.drop second.length).length := by
      simp only [List.length_append, List.length_drop]
      omega
    have hleft : (back ++ front).drop (first ++ second).length = front.drop second.length := by
      rw [List.length_append, hfirst, ← List.drop_drop, List.drop_left]
    rw [hleft, ← List.append_assoc, hfront, List.rotate_append_length_eq, List.append_assoc]

theorem view_mod (buffer : List α) (start n : Nat) :
    view buffer (start % buffer.length) n = view buffer start n := by
  rw [view, List.rotate_mod, view]

/-- **Data written behind a view** is appended to it. -/
theorem view_overwriteAround {start n : Nat} (hroom : n + data.length ≤ buffer.length) :
    view (overwriteAround buffer ((start + n) % buffer.length) data) start (n + data.length) =
      view buffer start n ++ data := by
  rcases Nat.eq_zero_or_pos buffer.length with hzero | hpos
  · have hn : n = 0 := by omega
    have hd : data = [] := List.eq_nil_of_length_eq_zero (by omega)
    subst hn hd
    simp [view]
  have hlt := Nat.mod_lt (start + n) hpos
  have hd : data.length ≤ buffer.length := by omega
  have hlength := length_overwriteAround hlt.le hd
  have hwritten := rotate_overwriteAround hlt.le hd
  rw [List.rotate_mod, ← List.rotate_rotate] at hwritten
  set written := overwriteAround buffer ((start + n) % buffer.length) data
  -- the view and what is free behind it
  obtain ⟨held, free, hview, rfl⟩ : ∃ held free, buffer.rotate start = held ++ free ∧
      n = held.length :=
    ⟨(buffer.rotate start).take n, (buffer.rotate start).drop n,
      (List.take_append_drop ..).symm, by simp; omega⟩
  have hfree : data.length ≤ free.length := by
    have := congrArg List.length hview
    simp only [List.length_rotate, List.length_append] at this
    omega
  rw [hview, List.rotate_append_length_eq, List.drop_append_of_le_length hfree] at hwritten
  have hrotated : written.rotate start = held ++ (data ++ free.drop data.length) := by
    apply List.rotate_injective held.length
    show (written.rotate start).rotate held.length =
      (held ++ (data ++ free.drop data.length)).rotate held.length
    rw [List.rotate_append_length_eq, List.rotate_rotate, List.append_assoc, ← hwritten, ← hlength,
      List.rotate_mod]
  rw [view, view, hrotated, hview, List.take_left, ← List.append_assoc,
    ← List.length_append, List.take_left]

/-- **Moving the start** of a view drops its first elements. -/
theorem view_drop {start n d : Nat} (hd : d ≤ n) (hn : n ≤ buffer.length) :
    view buffer ((start + d) % buffer.length) (n - d) = (view buffer start n).drop d := by
  rw [view_mod, view, view, ← List.rotate_rotate,
    List.rotate_eq_drop_append_take (by simp; omega), List.drop_take,
    List.take_append_of_le_length (by simp; omega)]

theorem view_take {start n k : Nat} (h : k ≤ n) :
    (view buffer start n).take k = view buffer start k := by
  rw [view, view, List.take_take, Nat.min_eq_left h]

theorem overwriteAround_singleton {offset : Nat} (h : offset < buffer.length) (x : α) :
    overwriteAround buffer offset [x] = buffer.set offset x := by
  have hfirst : min [x].length (buffer.length - offset) = 1 := by
    rw [List.length_singleton]
    omega
  rw [overwriteAround, hfirst, List.take_succ_cons, List.take_nil, List.drop_succ_cons,
    List.drop_nil, overwrite_nil, overwrite, List.length_singleton, List.set_eq_take_append_cons_drop,
    if_pos h, List.append_assoc, List.singleton_append]

/-- **An element set behind a view** is appended to it. -/
theorem view_set_end {start n : Nat} (hroom : n < buffer.length) (x : α) :
    view (buffer.set ((start + n) % buffer.length) x) start (n + 1) = view buffer start n ++ [x] := by
  rw [← overwriteAround_singleton (Nat.mod_lt _ (by omega))]
  exact view_overwriteAround hroom

/-- A view is led by the element at its start, whatever is set there next. -/
theorem view_succ {start n : Nat} (hs : start < buffer.length) (hn : n < buffer.length) (x : α) :
    view buffer start (n + 1) =
      buffer[start] :: view (buffer.set start x) ((start + 1) % buffer.length) n := by
  have hrotated : (buffer.set start x).rotate start = x :: (buffer.rotate start).drop 1 := by
    rw [← overwriteAround_singleton hs, rotate_overwriteAround hs.le (by simp; omega)]
    rfl
  have hmoved : view (buffer.set start x) ((start + 1) % (buffer.set start x).length) (n + 1 - 1) =
      (view (buffer.set start x) start (n + 1)).drop 1 :=
    view_drop (by omega) (by rw [List.length_set]; omega)
  rw [List.length_set, Nat.add_sub_cancel, view, view, hrotated, List.take_succ_cons,
    List.drop_succ_cons, List.drop_zero] at hmoved
  have hpos : 0 < (buffer.rotate start).length := by
    rw [List.length_rotate]
    omega
  have hlead : (buffer.rotate start)[0] = buffer[start] := by
    rw [List.getElem_rotate]
    simp [Nat.mod_eq_of_lt hs]
  have hsplit : buffer.rotate start = buffer[start] :: (buffer.rotate start).drop 1 := by
    rw [← hlead]
    exact (List.getElem_cons_drop hpos).symm
  rw [view, view, hmoved, ← List.take_succ_cons, ← hsplit]

/-- **Reading in two parts** reads the view. -/
theorem readAround_eq {start n : Nat} (hs : start ≤ buffer.length) (hn : n ≤ buffer.length) :
    readAround buffer start n = view buffer start n := by
  rw [view, List.rotate_eq_drop_append_take hs, readAround, List.take_append, List.length_drop,
    List.take_take]
  by_cases h : n ≤ buffer.length - start
  · simp [Nat.min_eq_left h, Nat.sub_eq_zero_of_le h]
  · have hpart : min (n - (buffer.length - start)) start = n - (buffer.length - start) := by omega
    have hlength : (buffer.drop start).length ≤ n := by
      rw [List.length_drop]
      omega
    rw [Nat.min_eq_right (by omega), hpart, List.take_of_length_le hlength,
      List.take_of_length_le (by rw [List.length_drop])]

end CircularBuffer
