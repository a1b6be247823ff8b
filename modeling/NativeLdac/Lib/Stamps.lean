/-
  Stamps.  A machine gives out tokens that carry a mark, and a token counts only while the
  mark is the stamp of the machine's state.  Where no step takes the stamp back and giving
  out a token moves it on (`Stamped`):

  * the marks of the tokens of a run increase (`Stamped.pairwise`), so that at most one of
    them counts, and it is the last (`Stamped.countP_le_one`, `Stamped.getLast?_eq`).
-/
import Mathlib.Order.Basic
import NativeLdac.Lib.Reducer

namespace Reducer

variable {σ ι ο α : Type}

/-- The steps that satisfy `Q` never take the stamp back, and those that give out a token
    move it on to the token's mark. -/
structure Stamped [Preorder α] (M : Reducer σ ι ο) (Q : σ → ι → Prop) (token : ο → Bool)
    (stamp : σ → α) (mark : ο → α) : Prop where
  mono : ∀ {s i}, Q s i → stamp s ≤ stamp (M.next s i)
  moves : ∀ {s i}, Q s i → token (M.out s i) → stamp s < stamp (M.next s i)
  marked : ∀ {s i}, Q s i → token (M.out s i) → mark (M.out s i) = stamp (M.next s i)

namespace Stamped

variable [Preorder α] {M : Reducer σ ι ο} {Q : σ → ι → Prop} {token : ο → Bool}
  {stamp : σ → α} {mark : ο → α} {s : σ} {is : List ι}

theorem le_after (h : M.Stamped Q token stamp mark) (hq : M.Along Q s is) :
    stamp s ≤ stamp (M.after s is) :=
  after_inv (P := fun t => stamp s ≤ stamp t) (fun _ _ ht hi => ht.trans (h.mono hi)) le_rfl hq

/-- A step that moves the stamp on keeps it from ever coming back. -/
theorem lt_after (h : M.Stamped Q token stamp mark) {js ks : List ι} {i : ι}
    (hq : M.Along Q s (js ++ i :: ks))
    (hi : stamp (M.after s js) < stamp (M.next (M.after s js) i)) :
    stamp s < stamp (M.after s (js ++ i :: ks)) := by
  obtain ⟨hjs, -, hks⟩ := (along_append s js (i :: ks)).mp hq
  rw [after_append, after_cons]
  exact (h.le_after hjs).trans_lt (hi.trans_le (h.le_after hks))

/-- **Stale tokens**: after a step that moves the stamp on, a token given out before it
    counts no more. -/
theorem stale (h : M.Stamped Q token stamp mark) {js ks : List ι} {i j : ι}
    (hq : M.Along Q s (i :: js ++ j :: ks)) (hi : token (M.out s i))
    (hj : stamp (M.after s (i :: js)) < stamp (M.next (M.after s (i :: js)) j)) :
    mark (M.out s i) ≠ stamp (M.after s (i :: js ++ j :: ks)) := by
  rw [h.marked hq.1 hi]
  exact (h.lt_after hq.2 hj).ne

/-- The marks of a run lie after the stamp that it starts with, and none is ahead of the
    stamp that it ends with. -/
theorem bounds (h : M.Stamped Q token stamp mark) (hq : M.Along Q s is) {o : ο}
    (ho : o ∈ M.outputs s is) (ht : token o) :
    stamp s < mark o ∧ mark o ≤ stamp (M.after s is) := by
  induction is generalizing s with
  | nil => exact absurd ho List.not_mem_nil
  | cons i is ih =>
    rcases List.mem_cons.mp ho with rfl | ho
    · rw [h.marked hq.1 ht]
      exact ⟨h.moves hq.1 ht, h.le_after hq.2⟩
    · obtain ⟨hlt, hle⟩ := ih hq.2 ho
      exact ⟨(h.mono hq.1).trans_lt hlt, hle⟩

theorem pairwise (h : M.Stamped Q token stamp mark) (hq : M.Along Q s is) :
    ((M.outputs s is).filter token).Pairwise (mark · < mark ·) := by
  induction is generalizing s with
  | nil => exact List.Pairwise.nil
  | cons i is ih =>
    by_cases ht : token (M.out s i) = true
    · rw [outputs, List.filter_cons_of_pos ht]
      refine List.Pairwise.cons (fun o ho => ?_) (ih hq.2)
      obtain ⟨ho, hto⟩ := List.mem_filter.mp ho
      rw [h.marked hq.1 ht]
      exact (h.bounds hq.2 ho hto).1
    · rw [outputs, List.filter_cons_of_neg ht]
      exact ih hq.2

theorem getLast?_eq (h : M.Stamped Q token stamp mark) (hq : M.Along Q s is) {o : ο}
    (ho : o ∈ (M.outputs s is).filter token) (hm : mark o = stamp (M.after s is)) :
    ((M.outputs s is).filter token).getLast? = some o := by
  obtain ⟨os, os', hos⟩ := List.append_of_mem ho
  have hpair := h.pairwise hq
  rw [hos, List.pairwise_append, List.pairwise_cons] at hpair
  have hend : os' = [] := by
    refine List.eq_nil_iff_forall_not_mem.mpr fun o' ho' => ?_
    have hin' : o' ∈ (M.outputs s is).filter token :=
      hos ▸ List.mem_append_right os (List.mem_cons_of_mem o ho')
    obtain ⟨hin, ht⟩ := List.mem_filter.mp hin'
    have hlater := hpair.2.1.1 o' ho'
    rw [hm] at hlater
    exact absurd (h.bounds hq hin ht).2 hlater.not_ge
  rw [hos, hend, List.getLast?_concat]

theorem countP_le_one (h : M.Stamped Q token stamp mark) (hq : M.Along Q s is)
    {counts : ο → Bool} (hm : ∀ o, counts o → mark o = stamp (M.after s is)) :
    ((M.outputs s is).filter token).countP counts ≤ 1 := by
  rw [List.countP_eq_length_filter]
  have hpair := (h.pairwise hq).filter counts
  have hmem : ∀ o ∈ ((M.outputs s is).filter token).filter counts,
      mark o = stamp (M.after s is) :=
    fun o ho => hm o (List.mem_filter.mp ho).2
  -- two that count would have marks that are the same and increase
  rcases hl : ((M.outputs s is).filter token).filter counts with _ | ⟨o, _ | ⟨o', os⟩⟩
  · exact Nat.zero_le 1
  · exact Nat.le_refl 1
  · rw [hl] at hpair hmem
    have hlt : mark o < mark o' := (List.pairwise_cons.mp hpair).1 o' List.mem_cons_self
    rw [hmem o List.mem_cons_self, hmem o' (by simp)] at hlt
    exact absurd hlt (lt_irrefl _)

end Stamped

end Reducer
