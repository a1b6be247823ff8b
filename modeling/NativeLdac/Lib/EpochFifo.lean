/-
  A queue whose contents belong to one epoch: what is pushed for another epoch
  replaces them.

  * `push` and `pop` are the operations of the queue;
  * `Period` tells what was delivered and what was taken while one epoch lasted, and
    `periods` reads this from a history of deliveries and takings, the last period
    first;
  * `Conserves`: what was taken in a period is a prefix of what was delivered in
    it, and the queue holds the rest of the current period.  Both operations keep it.
-/
import Mathlib.Data.List.Basic
import Mathlib.Tactic.SplitIfs

/-- A queue and the epoch of its contents. -/
structure EpochFifo (ε α : Type) where
  epoch : ε
  queue : List α

namespace EpochFifo

variable {ε α : Type} [DecidableEq ε]

def push (q : EpochFifo ε α) (epoch : ε) (items : List α) : EpochFifo ε α :=
  if q.epoch = epoch then { q with queue := q.queue ++ items }
  else { epoch := epoch, queue := items }

def pop (q : EpochFifo ε α) (n : Nat) : List α × EpochFifo ε α :=
  (q.queue.take n, { q with queue := q.queue.drop n })

/-! ## Histories -/

inductive Event (ε α : Type) where
  | delivered (epoch : ε) (items : List α)
  | taken (items : List α)
deriving DecidableEq, Repr

/-- What was delivered and taken while an epoch lasted. -/
structure Period (ε α : Type) where
  epoch : ε
  delivered : List α
  taken : List α
deriving DecidableEq, Repr

/-- A delivery for another epoch starts a period. -/
def note : List (Period ε α) → Event ε α → List (Period ε α)
  | [], .delivered epoch items => [{ epoch := epoch, delivered := items, taken := [] }]
  | p :: past, .delivered epoch items =>
    if p.epoch = epoch then { p with delivered := p.delivered ++ items } :: past
    else { epoch := epoch, delivered := items, taken := [] } :: p :: past
  | [], .taken _ => []
  | p :: past, .taken items => { p with taken := p.taken ++ items } :: past

/-- The periods of a history, in an epoch that nothing was delivered for. -/
def periods (epoch : ε) (events : List (Event ε α)) : List (Period ε α) :=
  events.foldl note [{ epoch := epoch, delivered := [], taken := [] }]

theorem periods_concat (epoch : ε) (events : List (Event ε α)) (event : Event ε α) :
    periods epoch (events ++ [event]) = note (periods epoch events) event :=
  List.foldl_append

/-- **Nothing is lost, repeated or mixed**: each period took a prefix of what was
    delivered in it, and the rest of the current period is in the queue. -/
structure Conserves (q : EpochFifo ε α) (periods : List (Period ε α)) : Prop where
  past : ∀ p ∈ periods, p.taken <+: p.delivered
  current : ∃ p past, periods = p :: past ∧ p.epoch = q.epoch ∧ p.taken ++ q.queue = p.delivered

theorem conserves_empty (epoch : ε) :
    Conserves ⟨epoch, []⟩ (periods epoch ([] : List (Event ε α))) where
  past p hp := by
    obtain rfl := List.mem_singleton.mp hp
    exact List.prefix_refl _
  current := ⟨_, [], rfl, rfl, rfl⟩

section
variable {q : EpochFifo ε α} {ps : List (Period ε α)}

theorem Conserves.push (h : Conserves q ps) (epoch : ε) (items : List α) :
    Conserves (q.push epoch items) (note ps (.delivered epoch items)) := by
  obtain ⟨p, past, rfl, hepoch, hcurrent⟩ := h.current
  have hpast : ∀ p' ∈ past, p'.taken <+: p'.delivered :=
    fun p' hp' => h.past p' (List.mem_cons_of_mem _ hp')
  simp only [EpochFifo.push, note, hepoch]
  split_ifs with he
  · have hmore : p.taken ++ (q.queue ++ items) = p.delivered ++ items := by
      rw [← List.append_assoc, hcurrent]
    refine ⟨fun p' hp' => ?_, _, past, rfl, rfl, hmore⟩
    rcases List.mem_cons.mp hp' with rfl | hp'
    · exact ⟨_, hmore⟩
    · exact hpast p' hp'
  · refine ⟨fun p' hp' => ?_, _, p :: past, rfl, rfl, rfl⟩
    rcases List.mem_cons.mp hp' with rfl | hp'
    · exact List.nil_prefix
    · exact h.past p' hp'

theorem Conserves.pop (h : Conserves q ps) (n : Nat) :
    Conserves (q.pop n).2 (note ps (.taken (q.pop n).1)) := by
  obtain ⟨p, past, rfl, hepoch, hcurrent⟩ := h.current
  have htaken : p.taken ++ q.queue.take n ++ q.queue.drop n = p.delivered := by
    rw [List.append_assoc, List.take_append_drop, hcurrent]
  refine ⟨fun p' hp' => ?_, _, past, rfl, hepoch, htaken⟩
  rcases List.mem_cons.mp hp' with rfl | hp'
  · exact ⟨_, htaken⟩
  · exact h.past p' (List.mem_cons_of_mem _ hp')

end

end EpochFifo
