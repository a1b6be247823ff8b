/-
  Bracketed use of one resource: whether a history of calls opens and closes it
  in turn.  Histories are lists with the last call first.
-/
import Mathlib.Logic.Basic
import Mathlib.Tactic.SplitIfs

namespace Bracket

variable {α : Type} (opens closes : α → Bool)

/-- The resource after the calls: open (`some true`), closed (`some false`), or
    misused before (`none`): opened while open, or closed while closed. -/
def after : List α → Option Bool
  | [] => some false
  | a :: as =>
    if opens a then (if after as = some false then some true else none)
    else if closes a then (if after as = some true then some false else none)
    else after as

variable {opens closes} {a : α} {as : List α}

theorem after_other (ho : opens a = false) (hc : closes a = false) :
    after opens closes (a :: as) = after opens closes as := by
  simp [after, ho, hc]

theorem after_open (ho : opens a = true) (h : after opens closes as = some false) :
    after opens closes (a :: as) = some true := by
  simp [after, ho, h]

theorem after_close (ho : opens a = false) (hc : closes a = true)
    (h : after opens closes as = some true) : after opens closes (a :: as) = some false := by
  simp [after, ho, hc, h]

theorem after_close_closed (ho : opens a = false) (hc : closes a = true)
    (h : after opens closes as = some false) : after opens closes (a :: as) = none := by
  simp [after, ho, hc, h]

/-- **One close for each open**, but for the one that is open now. -/
theorem count_of_after (hd : ∀ a, opens a = true → closes a = false) {open_ : Bool}
    (h : after opens closes as = some open_) :
    as.countP opens = as.countP closes + open_.toNat := by
  induction as generalizing open_ with
  | nil =>
    cases h
    rfl
  | cons a as ih =>
    rw [List.countP_cons, List.countP_cons]
    unfold after at h
    split_ifs at h with ho hprev hc hprev
    · cases h
      rw [ih hprev, ho, hd a ho]
      simp
    · cases h
      rw [ih hprev, hc]
      simp [ho]
    · rw [ih h]
      simp [ho, hc]

end Bracket
