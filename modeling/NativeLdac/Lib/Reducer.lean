/-
  Reducers: deterministic machines that consume inputs one at a time, update
  a state and emit an output at every step.

  * `after` is the state a list of inputs leads to, `Reach` the states that
    runs from the initial states reach;
  * `Along Q s is`: every step of the run of `is` from `s` satisfies `Q` (a
    relation of the state before the step and the input);
  * `Since E Q` says that a run has seen an event `E`, and only steps `Q` since;
  * `count` counts the steps of a run, and `count_balance` is the induction rule for what is
    taken in and given out.
-/
import Mathlib.Logic.Basic

/-- A deterministic machine with states `σ`, inputs `ι` and outputs `ο`. -/
structure Reducer (σ ι ο : Type) where
  step : σ → ι → ο × σ

namespace Reducer

variable {σ ι ο : Type} (M : Reducer σ ι ο)

/-- The state after one input. -/
def next (s : σ) (i : ι) : σ := (M.step s i).2

/-- The output of one input. -/
def out (s : σ) (i : ι) : ο := (M.step s i).1

/-- The state after a list of inputs. -/
def after (s : σ) : List ι → σ
  | [] => s
  | i :: is => after (M.next s i) is

/-- The outputs of a run. -/
def outputs (s : σ) : List ι → List ο
  | [] => []
  | i :: is => M.out s i :: outputs (M.next s i) is

/-- Every step of the run of the inputs from `s` satisfies `Q`. -/
def Along (Q : σ → ι → Prop) : σ → List ι → Prop
  | _, [] => True
  | s, i :: is => Q s i ∧ Along Q (M.next s i) is

/-- `Along` is decided by running. -/
def decidableAlong {Q : σ → ι → Prop} [∀ s i, Decidable (Q s i)] :
    ∀ s is, Decidable (M.Along Q s is)
  | _, [] => isTrue trivial
  | s, i :: is => @instDecidableAnd _ _ _ (decidableAlong (M.next s i) is)

instance {Q : σ → ι → Prop} [∀ s i, Decidable (Q s i)] (s : σ) (is : List ι) :
    Decidable (M.Along Q s is) :=
  M.decidableAlong s is

/-- The steps of a run that satisfy `p`. -/
def count (p : σ → ι → Bool) : σ → List ι → Nat
  | _, [] => 0
  | s, i :: is => (p s i).toNat + count p (M.next s i) is

/-- A step of the run from `s` was an event `E` (of the run before it and the input), and every
    step since satisfies `Q`. -/
def Since (E : List ι → ι → Prop) (Q : σ → ι → Prop) (s : σ) (is : List ι) : Prop :=
  ∃ js i ks, is = js ++ i :: ks ∧ E js i ∧ M.Along Q (M.next (M.after s js) i) ks

/-- The states reached from the states satisfying `I`. -/
inductive Reach (I : σ → Prop) : σ → Prop
  | init {s} : I s → Reach I s
  | step {s} (i : ι) : Reach I s → Reach I (M.next s i)

variable {M} {Q : σ → ι → Prop} {is : List ι} {s : σ} {P : σ → Prop}

@[simp] theorem after_cons (s : σ) (i : ι) (is : List ι) :
    M.after s (i :: is) = M.after (M.next s i) is := rfl

theorem after_append (s : σ) (is js : List ι) :
    M.after s (is ++ js) = M.after (M.after s is) js := by
  induction is generalizing s with
  | nil => rfl
  | cons i is ih => exact ih (M.next s i)

theorem Reach.after {I : σ → Prop} (h : M.Reach I s) (is : List ι) :
    M.Reach I (M.after s is) := by
  induction is generalizing s with
  | nil => exact h
  | cons i is ih => exact ih (.step i h)

/-- **Invariants of reachable states.** -/
theorem Reach.inv {I P : σ → Prop} (h₀ : ∀ s, I s → P s) (hs : ∀ s i, P s → P (M.next s i)) (h : M.Reach I s) : P s := by
  induction h with
  | init h => exact h₀ _ h
  | step i _ ih => exact hs _ i ih

theorem along_append (s : σ) (is js : List ι) :
    M.Along Q s (is ++ js) ↔ M.Along Q s is ∧ M.Along Q (M.after s is) js := by
  induction is generalizing s with
  | nil => exact ⟨fun h => ⟨trivial, h⟩, And.right⟩
  | cons i is ih =>
    simp only [List.cons_append, Along, ih, after_cons, and_assoc]

theorem along_of_forall (h : ∀ s i, Q s i) (s : σ) (is : List ι) :
    M.Along Q s is := by
  induction is generalizing s with
  | nil => trivial
  | cons i is ih => exact ⟨h s i, ih _⟩

theorem along_of_mem {P : ι → Prop} (h : ∀ i ∈ is, P i) (s : σ) :
    M.Along (fun _ i => P i) s is := by
  induction is generalizing s with
  | nil => trivial
  | cons i is ih => exact ⟨h i List.mem_cons_self, ih (fun j hj => h j (List.mem_cons_of_mem _ hj)) _⟩

/-- **Invariants of runs**: a property that each step satisfying `Q` preserves
    holds at the end of a run whose steps satisfy `Q`. -/
theorem after_inv (hs : ∀ s i, P s → Q s i → P (M.next s i)) (h : P s) (hq : M.Along Q s is) :
    P (M.after s is) := by
  induction is generalizing s with
  | nil => exact h
  | cons i is ih => exact ih (hs s i h hq.1) hq.2

/-- **Conservation along a run**: what each step takes in and gives out, a whole run does. -/
theorem count_balance {f : σ → Nat} {p q : σ → ι → Bool}
    (hs : ∀ s i, P s → Q s i → P (M.next s i))
    (hf : ∀ s i, P s → Q s i → (p s i).toNat + f s = (q s i).toNat + f (M.next s i)) (h : P s)
    (hq : M.Along Q s is) :
    M.count p s is + f s = M.count q s is + f (M.after s is) := by
  induction is generalizing s with
  | nil => rfl
  | cons i is ih =>
    have hstep := hf s i h hq.1
    have hrest := ih (hs s i h hq.1) hq.2
    simp only [count, after_cons]
    omega

/-- **Spending along a run**: where each step that is counted spends one of a budget, no more
    steps are counted than the budget had. -/
theorem count_le {f : σ → Nat} {p : σ → ι → Bool}
    (hf : ∀ s i, Q s i → (p s i).toNat + f (M.next s i) ≤ f s) (hq : M.Along Q s is) :
    M.count p s is + f (M.after s is) ≤ f s := by
  induction is generalizing s with
  | nil => exact Nat.le_of_eq (Nat.zero_add _)
  | cons i is ih =>
    have hstep := hf s i hq.1
    have hrest := ih hq.2
    simp only [count, after_cons]
    omega

theorem count_never (s : σ) (is : List ι) : M.count (fun _ _ => false) s is = 0 := by
  induction is generalizing s with
  | nil => rfl
  | cons i is ih => rw [count, ih, Bool.toNat_false]

/-- Where no step is counted, no step satisfies `p`. -/
theorem along_of_count_eq_zero {p : σ → ι → Bool} (h : M.count p s is = 0) :
    M.Along (fun s i => p s i = false) s is := by
  induction is generalizing s with
  | nil => trivial
  | cons i is ih =>
    rw [count, Nat.add_eq_zero_iff] at h
    exact ⟨Bool.toNat_eq_zero.mp h.1, ih h.2⟩

/-- What differs at the end of a run, some step of the run changes first. -/
theorem exists_step_ne {α : Type} (f : σ → α) (h : f (M.after s is) ≠ f s) :
    ∃ js i ks, is = js ++ i :: ks ∧ f (M.after s js) = f s ∧
      f (M.next (M.after s js) i) ≠ f s := by
  induction is generalizing s with
  | nil => exact absurd rfl h
  | cons i is ih =>
    by_cases hstep : f (M.next s i) = f s
    · obtain ⟨js, j, ks, rfl, hjs, hj⟩ := ih (s := M.next s i) (by rwa [hstep])
      exact ⟨i :: js, j, ks, rfl, by rw [after_cons, hjs, hstep], by rwa [after_cons, ← hstep]⟩
    · exact ⟨[], i, is, rfl, rfl, hstep⟩

/-- What an invariant says of every step, every step of a run satisfies. -/
theorem along_of_inv {Q R : σ → ι → Prop} (hs : ∀ s i, P s → Q s i → P (M.next s i))
    (hr : ∀ s i, P s → Q s i → R s i) (h : P s) (hq : M.Along Q s is) : M.Along R s is := by
  induction is generalizing s with
  | nil => trivial
  | cons i is ih => exact ⟨hr s i h hq.1, ih (hs s i h hq.1) hq.2⟩

/-- Two step properties that agree under an invariant hold along the same
    runs, if the invariant is kept by the steps that satisfy them. -/
theorem along_congr {Q R R' : σ → ι → Prop} (hs : ∀ s i, P s → Q s i → R s i → P (M.next s i))
    (hr : ∀ s i, P s → Q s i → (R s i ↔ R' s i)) (h : P s) (hq : M.Along Q s is) :
    M.Along R s is ↔ M.Along R' s is := by
  induction is generalizing s with
  | nil => exact Iff.rfl
  | cons i is ih =>
    have hstep := hr s i h hq.1
    constructor
    · rintro ⟨hi, his⟩
      exact ⟨hstep.mp hi, (ih (hs s i h hq.1 hi) hq.2).mp his⟩
    · rintro ⟨hi, his⟩
      exact ⟨hstep.mpr hi, (ih (hs s i h hq.1 (hstep.mpr hi)) hq.2).mpr his⟩

/-- What holds of every state of a run: of the first, and after every step. -/
theorem forall_prefix_iff :
    (∀ js, js <+: is → P (M.after s js)) ↔ P s ∧ M.Along (fun s i => P (M.next s i)) s is := by
  induction is generalizing s with
  | nil =>
    simp only [List.prefix_nil, forall_eq]
    exact ⟨fun h => ⟨h, trivial⟩, And.left⟩
  | cons i is ih =>
    constructor
    · intro h
      have hrest := ih.mp fun js hjs => h (i :: js) (List.cons_prefix_cons.mpr ⟨rfl, hjs⟩)
      exact ⟨h [] List.nil_prefix, hrest.1, hrest.2⟩
    · rintro ⟨hs, hi, his⟩ js hjs
      cases js with
      | nil => exact hs
      | cons j js =>
        obtain ⟨rfl, hprefix⟩ := List.cons_prefix_cons.mp hjs
        exact ih.mpr ⟨hi, his⟩ js hprefix

@[simp] theorem after_snoc (s : σ) (is : List ι) (i : ι) :
    M.after s (is ++ [i]) = M.next (M.after s is) i :=
  after_append s is [i]

theorem along_snoc (s : σ) (is : List ι) (i : ι) :
    M.Along Q s (is ++ [i]) ↔ M.Along Q s is ∧ Q (M.after s is) i := by
  rw [along_append]
  exact and_congr_right fun _ => ⟨And.left, fun h => ⟨h, trivial⟩⟩

/-- Every step of a run, by the run before it. -/
theorem along_iff_forall :
    M.Along Q s is ↔ ∀ js i ks, is = js ++ i :: ks → Q (M.after s js) i := by
  induction is generalizing s with
  | nil => simp [Along]
  | cons i is ih =>
    rw [Along, ih]
    constructor
    · rintro ⟨hi, his⟩ js j ks hrun
      rcases List.cons_eq_append_iff.mp hrun with ⟨rfl, hrun⟩ | ⟨js, rfl, rfl⟩
      · cases hrun
        exact hi
      · exact his js j ks rfl
    · intro h
      exact ⟨h [] i is rfl, fun js j ks hrun => h (i :: js) j ks (by rw [hrun]; rfl)⟩

section
variable {E : List ι → ι → Prop} {Q : σ → ι → Prop} {s : σ} {is : List ι}

theorem since_now {i : ι} (h : E is i) : M.Since E Q s (is ++ [i]) :=
  ⟨is, i, [], rfl, h, trivial⟩

theorem Since.snoc {i : ι} (h : M.Since E Q s is) (hq : Q (M.after s is) i) :
    M.Since E Q s (is ++ [i]) := by
  obtain ⟨js, j, ks, rfl, hj, hks⟩ := h
  refine ⟨js, j, ks ++ [i], by simp, hj, (along_snoc _ _ _).mpr ⟨hks, ?_⟩⟩
  rwa [after_append] at hq

/-- At the end of a run, the event is the last step, or was seen before it. -/
theorem since_snoc {i : ι} :
    M.Since E Q s (is ++ [i]) ↔ E is i ∨ M.Since E Q s is ∧ Q (M.after s is) i := by
  constructor
  · rintro ⟨js, j, ks, hrun, hj, hks⟩
    rcases List.eq_nil_or_concat ks with rfl | ⟨ks, k, rfl⟩
    · obtain ⟨rfl, hlast⟩ := List.append_inj' hrun rfl
      cases hlast
      exact .inl hj
    · rw [List.concat_eq_append] at hrun hks
      rw [← List.cons_append, ← List.append_assoc] at hrun
      obtain ⟨rfl, hlast⟩ := List.append_inj' hrun rfl
      cases hlast
      rw [along_snoc] at hks
      rw [after_append]
      exact .inr ⟨⟨js, j, ks, rfl, hj, hks.1⟩, hks.2⟩
  · rintro (h | ⟨h, hq⟩)
    · exact since_now h
    · exact h.snoc hq

/-- **What an event brings about and the steps since keep.** -/
theorem Since.inv {P : σ → Prop} (he : ∀ js i, E js i → P (M.next (M.after s js) i))
    (hs : ∀ s i, P s → Q s i → P (M.next s i)) (h : M.Since E Q s is) : P (M.after s is) := by
  obtain ⟨js, i, ks, rfl, hi, hks⟩ := h
  rw [after_append, after_cons]
  exact after_inv hs (he js i hi) hks

end

/-- **Simulation**: machines whose steps give the same outputs, and keep a relation between
    their states, give the same outputs along every run. -/
theorem simulation {τ : Type} {N : Reducer τ ι ο} {R : σ → τ → Prop}
    (hs : ∀ s t i, R s t → M.out s i = N.out t i ∧ R (M.next s i) (N.next t i)) {t : τ}
    (h : R s t) (is : List ι) :
    M.outputs s is = N.outputs t is ∧ R (M.after s is) (N.after t is) := by
  induction is generalizing s t with
  | nil => exact ⟨rfl, h⟩
  | cons i is ih =>
    obtain ⟨hout, hnext⟩ := hs s t i h
    obtain ⟨houts, hafter⟩ := ih hnext
    exact ⟨by rw [outputs, outputs, hout, houts], hafter⟩

end Reducer
