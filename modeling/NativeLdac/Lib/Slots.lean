/-
  Slots: a table that has one place for each key, and items that say which place they are in.

  * `Agree` says that the table points to an item exactly when the item is in that place, so
    that no two items are in one place;
  * `Agree.take` and `Agree.drop` are the moves that keep it: an item takes a place that is
    free, an item leaves its place;
  * `Agree.crowded`: an item that takes a place that is not free shares it with another.
-/
import Mathlib.Logic.Function.Basic

namespace Slots

open Function (update update_of_ne update_self)

variable {κ ι : Type}

/-- The table `slot` points to the items that say so. -/
def Agree (slot : κ → Option ι) (place : ι → Option κ) : Prop :=
  ∀ k i, slot k = some i ↔ place i = some k

/-- No two items are in one place. -/
def Apart (place : ι → Option κ) : Prop :=
  ∀ i j k, place i = some k → place j = some k → i = j

variable {slot : κ → Option ι} {place : ι → Option κ}

theorem agree_empty : Agree (fun _ : κ => (none : Option ι)) fun _ => none :=
  fun _ _ => ⟨nofun, nofun⟩

theorem Agree.apart (h : Agree slot place) : Apart place := fun i j k hi hj =>
  Option.some.inj (((h k i).mpr hi).symm.trans ((h k j).mpr hj))

theorem Agree.free (h : Agree slot place) {k : κ} (hk : slot k = none) (i : ι) :
    place i ≠ some k := fun hi => by
  have hpoints := (h k i).mpr hi
  rw [hk] at hpoints
  cases hpoints

variable [DecidableEq ι]

theorem Agree.crowded (h : Agree slot place) {k : κ} {i j : ι} (hk : slot k = some j)
    (hi : place i = none) : ¬ Apart (update place i (some k)) := by
  intro hapart
  have hj := (h k j).mp hk
  have hne : j ≠ i := by
    rintro rfl
    rw [hi] at hj
    cases hj
  refine hne (hapart j i k ?_ (update_self _ _ _))
  rw [update_of_ne hne, hj]

variable [DecidableEq κ]

theorem Agree.take (h : Agree slot place) {k : κ} {i : ι} (hk : slot k = none)
    (hi : place i = none) :
    Agree (update slot k (some i)) (update place i (some k)) := by
  intro k' j
  by_cases hkey : k' = k <;> by_cases hitem : j = i
  · subst hkey hitem
    simp
  · subst hkey
    rw [update_self, update_of_ne hitem]
    exact ⟨fun hj => absurd (Option.some.inj hj).symm hitem, fun hj => absurd hj (h.free hk j)⟩
  · subst hitem
    rw [update_self, update_of_ne hkey]
    refine ⟨fun hj => ?_, fun hj => absurd (Option.some.inj hj).symm hkey⟩
    have hplace := (h k' j).mp hj
    rw [hi] at hplace
    cases hplace
  · rw [update_of_ne hkey, update_of_ne hitem]
    exact h k' j

theorem Agree.drop (h : Agree slot place) {k : κ} {i : ι} (hk : slot k = some i) :
    Agree (update slot k none) (update place i none) := by
  have hi := (h k i).mp hk
  intro k' j
  by_cases hkey : k' = k <;> by_cases hitem : j = i
  · subst hkey hitem
    simp
  · subst hkey
    rw [update_self, update_of_ne hitem]
    exact ⟨nofun, fun hj => absurd (h.apart j i k' hj hi) hitem⟩
  · subst hitem
    rw [update_self, update_of_ne hkey]
    exact ⟨fun hj => absurd (Option.some.inj (((h k' j).mp hj).symm.trans hi)) hkey, nofun⟩
  · rw [update_of_ne hkey, update_of_ne hitem]
    exact h k' j

end Slots
