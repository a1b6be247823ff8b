/-
  Imperative programs over a state, whose loops run on fuel: a run returns a
  value or gets stuck when a loop has used up its fuel, and leaves a state
  either way.

  * `Triple P x Q D`: from a state satisfying `P`, the program `x` returns
    with `Q` or gets stuck with `D`.  There is one rule for each constructor of
    programs; `Triple.iterate` is the invariant rule of loops, and `Triple.iterateDown`
    the one of loops that do not use up their fuel;
  * `wp x Q D`: the weakest condition from which `x` returns with `Q` or gets
    stuck with `D`; its rules are equivalences, so that they rewrite a program to
    what it needs;
  * `Keeps I x`: the program `x` returns and keeps the invariant `I`.  Programs
    built from such programs keep it too;
  * `Quiet v x`: the program `x` returns and leaves the view `v` of the state
    unchanged.  Quiet programs compose, and keep every property of the view
    (`Triple.quiet`); `Returns x` says only that it returns;
  * `Frames v x`: the program `x` leaves the view `v` unchanged, whether it
    returns or gets stuck;
  * `within get put x`: the program `x` runs on a part of the state, and leaves the rest
    unchanged.
-/
import Mathlib.Logic.Basic

/-- A program with states `σ` and result `α`; no result means that the run got
    stuck. -/
def Prog (σ α : Type) := σ → Option α × σ

namespace Prog

variable {σ τ α β ι ν : Type}

instance : Monad (Prog σ) where
  pure a s := (some a, s)
  bind x f s := match x s with
    | (some a, s') => f a s'
    | (none, s') => (none, s')

/-- Read the state. -/
def read (f : σ → α) : Prog σ α := fun s => (some (f s), s)

/-- Change the state. -/
def update (f : σ → σ) : Prog σ Unit := fun s => (some (), f s)

/-- Change the state and return a value. -/
def step (f : σ → α × σ) : Prog σ α := fun s => (some (f s).1, (f s).2)

/-- Run the program if the condition holds. -/
def onlyIf (c : Prop) [Decidable c] (x : Prog σ Unit) : Prog σ Unit := if c then x else pure ()

/-- Run the body until it returns a result (`inr`), at most `n` times; `inl`
    carries the locals of the loop into the next round. -/
def iterate (body : ι → Prog σ (ι ⊕ β)) : Nat → ι → Prog σ β
  | 0, _ => fun s => (none, s)
  | n + 1, i => do
    match ← body i with
    | .inl j => iterate body n j
    | .inr b => pure b

/-- Run the body until it returns a result, at most `n` times. -/
def loop (n : Nat) (body : Prog σ (Option β)) : Prog σ β :=
  iterate (fun _ : Unit => do
    match ← body with
    | none => return .inl ()
    | some b => return .inr b) n ()

/-! ## Runs -/

/-- The run of a sequence, once its first program has returned. -/
theorem bind_run {x : Prog σ α} {f : α → Prog σ β} {s s' : σ} {a : α} (h : x s = (some a, s')) :
    (x >>= f) s = f a s' := by
  show (match x s with | (some a, s') => f a s' | (none, s') => (none, s')) = f a s'
  rw [h]

/-- The run of a sequence whose first program gets stuck. -/
theorem bind_stuck {x : Prog σ α} {f : α → Prog σ β} {s s' : σ} (h : x s = (none, s')) :
    (x >>= f) s = (none, s') := by
  show (match x s with | (some a, s') => f a s' | (none, s') => (none, s')) = (none, s')
  rw [h]

/-! ## Triples -/

/-- From `P`, the program returns with `Q` or gets stuck with `D`. -/
def Triple (P : σ → Prop) (x : Prog σ α) (Q : α → σ → Prop) (D : σ → Prop) : Prop :=
  ∀ s, P s → match x s with
    | (some a, s') => Q a s'
    | (none, s') => D s'

section
variable {P P' : σ → Prop} {Q Q' : α → σ → Prop} {R : β → σ → Prop} {D D' : σ → Prop}
variable {x : Prog σ α}

theorem Triple.pure {a : α} (h : ∀ s, P s → Q a s) : Triple P (Pure.pure a) Q D := h

theorem Triple.read {f : σ → α} (h : ∀ s, P s → Q (f s) s) : Triple P (Prog.read f) Q D := h

theorem Triple.update {f : σ → σ} {Q : Unit → σ → Prop} (h : ∀ s, P s → Q () (f s)) :
    Triple P (Prog.update f) Q D := h

theorem Triple.step {f : σ → α × σ} (h : ∀ s, P s → Q (f s).1 (f s).2) :
    Triple P (Prog.step f) Q D := h

theorem Triple.bind {f : α → Prog σ β} (hx : Triple P x Q D) (hf : ∀ a, Triple (Q a) (f a) R D) :
    Triple P (x >>= f) R D := by
  intro s hs
  have hx := hx s hs
  show match (match x s with | (some a, s') => f a s' | (none, s') => (none, s')) with
    | (some b, s') => R b s'
    | (none, s') => D s'
  generalize x s = r at hx ⊢
  match r, hx with
  | (none, _), hx => exact hx
  | (some a, s'), hx => exact hf a s' hx

/-- Nothing is claimed of the program. -/
theorem Triple.trivial : Triple P x (fun _ _ => True) fun _ => True := by
  intro s _
  rcases x s with ⟨_ | a, s'⟩
  · exact True.intro
  · exact True.intro

/-- **Consequence.** -/
theorem Triple.conseq (h : Triple P' x Q' D') (hp : ∀ s, P s → P' s) (hq : ∀ a s, Q' a s → Q a s)
    (hd : ∀ s, D' s → D s) : Triple P x Q D := by
  intro s hs
  have h := h s (hp s hs)
  generalize x s = r at h ⊢
  match r, h with
  | (none, _), h => exact hd _ h
  | (some _, _), h => exact hq _ _ h

theorem Triple.pre (h : Triple P' x Q D) (hp : ∀ s, P s → P' s) :
    Triple P x Q D :=
  h.conseq hp (fun _ _ => id) fun _ => id

theorem Triple.post (h : Triple P x Q' D) (hq : ∀ a s, Q' a s → Q a s) :
    Triple P x Q D :=
  h.conseq (fun _ => id) hq fun _ => id

/-- What a run that returns has reached. -/
theorem Triple.returns {s s' : σ} {a : α} (hrun : x s = (some a, s')) (h : Triple P x Q D)
    (hs : P s) : Q a s' := by
  have hs := h s hs
  rw [hrun] at hs
  exact hs

/-- What a run has reached, whether it returned or got stuck. -/
theorem Triple.final {R : σ → Prop} {s : σ} (h : Triple P x (fun _ => R) R) (hs : P s) :
    R (x s).2 := by
  have h := h s hs
  generalize x s = r at h ⊢
  match r, h with
  | (none, _), h => exact h
  | (some _, _), h => exact h

/-- **Conjunction.** -/
theorem Triple.and (h : Triple P x Q D) (h' : Triple P' x Q' D') :
    Triple (fun s => P s ∧ P' s) x (fun a s => Q a s ∧ Q' a s) fun s => D s ∧ D' s := by
  intro s hs
  have h := h s hs.1
  have h' := h' s hs.2
  generalize x s = r at h h' ⊢
  match r, h, h' with
  | (none, _), h, h' => exact ⟨h, h'⟩
  | (some _, _), h, h' => exact ⟨h, h'⟩

theorem Triple.ite {c : Prop} [Decidable c] {x y : Prog σ α} (hx : c → Triple P x Q D)
    (hy : ¬ c → Triple P y Q D) : Triple P (if c then x else y) Q D := by
  by_cases h : c
  · rw [if_pos h]
    exact hx h
  · rw [if_neg h]
    exact hy h

/-- **Loops keep what each round keeps.** -/
theorem Triple.iterate {I : ι → σ → Prop} {body : ι → Prog σ (ι ⊕ β)}
    (hb : ∀ i, Triple (I i) (body i) (fun r s => r.elim (fun j => I j s) (fun b => R b s)) D)
    (hd : ∀ i s, I i s → D s) (n : Nat) (i : ι) :
    Triple (I i) (Prog.iterate body n i) R D := by
  induction n generalizing i with
  | zero => exact hd i
  | succ n ih =>
    refine Triple.bind (hb i) fun r => ?_
    cases r with
    | inl j => exact ih j
    | inr b => exact .pure fun _ h => h

/-- **A loop whose measure falls** returns before its fuel is used up. -/
theorem Triple.iterateDown {I : ι → σ → Prop} {m : ι → σ → Nat} {body : ι → Prog σ (ι ⊕ β)}
    (hb : ∀ i k, Triple (fun s => I i s ∧ m i s = k) (body i)
      (fun r s => r.elim (fun j => I j s ∧ m j s < k) (fun b => R b s)) D) (n : Nat) (i : ι) :
    Triple (fun s => I i s ∧ m i s < n) (Prog.iterate body n i) R D := by
  induction n generalizing i with
  | zero => exact fun s hs => absurd hs.2 (Nat.not_lt_zero _)
  | succ n ih =>
    intro s hs
    refine Triple.bind (hb i (m i s)) (fun r => ?_) s ⟨hs.1, rfl⟩
    cases r with
    | inl j =>
      exact (ih j).pre fun s' h => ⟨h.1, Nat.lt_of_lt_of_le h.2 (Nat.le_of_lt_succ hs.2)⟩
    | inr b => exact .pure fun _ h => h

theorem Triple.loop {body : Prog σ (Option β)}
    (hb : Triple P body (fun r s => r.elim (P s) (fun b => R b s)) D) (hd : ∀ s, P s → D s)
    (n : Nat) : Triple P (Prog.loop n body) R D := by
  refine Triple.iterate (I := fun _ => P) (fun _ => Triple.bind hb fun r => ?_) (fun _ => hd) n ()
  cases r with
  | none => exact .pure fun _ h => h
  | some b => exact .pure fun _ h => h

end

/-! ## Weakest preconditions -/

/-- The weakest condition from which `x` returns with `Q` or gets stuck with
    `D`. -/
def wp (x : Prog σ α) (Q : α → σ → Prop) (D : σ → Prop) (s : σ) : Prop :=
  match x s with
  | (some a, s') => Q a s'
  | (none, s') => D s'

section
variable {Q Q' : α → σ → Prop} {R : β → σ → Prop} {D D' : σ → Prop} {s : σ}

/-- What `x` reaches, if it does not get stuck. -/
theorem wp_run {x : Prog σ α} (h : wp x Q (fun _ => False) s) :
    ∃ a s', x s = (some a, s') ∧ Q a s' := by
  unfold wp at h
  generalize x s = r at h ⊢
  rcases r with ⟨_ | a, s'⟩
  · exact h.elim
  · exact ⟨a, s', rfl, h⟩

theorem wp_pure (a : α) : wp (Pure.pure a) Q D s ↔ Q a s := Iff.rfl

theorem wp_read (f : σ → α) : wp (Prog.read f) Q D s ↔ Q (f s) s := Iff.rfl

theorem wp_update {Q : Unit → σ → Prop} (f : σ → σ) : wp (Prog.update f) Q D s ↔ Q () (f s) :=
  Iff.rfl

theorem wp_step (f : σ → α × σ) : wp (Prog.step f) Q D s ↔ Q (f s).1 (f s).2 := Iff.rfl

theorem wp_bind (x : Prog σ α) (f : α → Prog σ β) :
    wp (x >>= f) R D s ↔ wp x (fun a => wp (f a) R D) D s := by
  simp only [wp, bind]
  rcases x s with ⟨_ | a, s'⟩
  · exact Iff.rfl
  · exact Iff.rfl

theorem wp_ite (c : Prop) [Decidable c] (x y : Prog σ α) :
    wp (if c then x else y) Q D s ↔ if c then wp x Q D s else wp y Q D s := by
  by_cases h : c
  · rw [if_pos h, if_pos h]
  · rw [if_neg h, if_neg h]

theorem wp_onlyIf {Q : Unit → σ → Prop} (c : Prop) [Decidable c] (x : Prog σ Unit) :
    wp (Prog.onlyIf c x) Q D s ↔ if c then wp x Q D s else Q () s :=
  wp_ite c x (Pure.pure ())

/-- **Consequence**, from one state. -/
theorem wp_mono {x : Prog σ α} (h : wp x Q D s) (hq : ∀ a s', Q a s' → Q' a s')
    (hd : ∀ s', D s' → D' s') : wp x Q' D' s := by
  unfold wp at h ⊢
  generalize x s = r at h ⊢
  rcases r with ⟨_ | a, s'⟩
  · exact hd s' h
  · exact hq a s' h

end

/-! ## Programs that keep an invariant -/

/-- From a state satisfying `I`, the program returns in one that does. -/
def Keeps (I : σ → Prop) (x : Prog σ α) : Prop := Triple I x (fun _ => I) fun _ => False

section
variable {I : σ → Prop}

theorem Keeps.pure (a : α) : Keeps I (Pure.pure a : Prog σ α) := Triple.pure fun _ h => h

theorem Keeps.read (f : σ → α) : Keeps I (Prog.read f) := Triple.read fun _ h => h

theorem Keeps.update {f : σ → σ} (h : ∀ s, I s → I (f s)) : Keeps I (Prog.update f) :=
  Triple.update h

theorem Keeps.step {f : σ → α × σ} (h : ∀ s, I s → I (f s).2) : Keeps I (Prog.step f) :=
  Triple.step h

theorem Keeps.bind {x : Prog σ α} {f : α → Prog σ β} (hx : Keeps I x) (hf : ∀ a, Keeps I (f a)) :
    Keeps I (x >>= f) :=
  Triple.bind hx hf

theorem Keeps.ite {c : Prop} [Decidable c] {x y : Prog σ α} (hx : Keeps I x) (hy : Keeps I y) :
    Keeps I (if c then x else y) :=
  Triple.ite (fun _ => hx) fun _ => hy

theorem Keeps.onlyIf {c : Prop} [Decidable c] {x : Prog σ Unit} (hx : Keeps I x) :
    Keeps I (Prog.onlyIf c x) :=
  .ite hx (.pure ())

/-- A program that keeps an invariant returns, and keeps it. -/
theorem Keeps.run {x : Prog σ α} (h : Keeps I x) {s : σ} (hs : I s) :
    (x s).1.isSome ∧ I (x s).2 := by
  have h := h s hs
  generalize x s = r at h ⊢
  match r, h with
  | (some _, _), h => exact ⟨rfl, h⟩

end

/-! ## Quiet programs -/

/-- The program returns, and leaves the view `v` of the state unchanged. -/
def Quiet (v : σ → ν) (x : Prog σ α) : Prop := ∀ s, ∃ a s', x s = (some a, s') ∧ v s' = v s

section
variable {v : σ → ν}

theorem Quiet.pure (a : α) : Quiet v (Pure.pure a : Prog σ α) := fun s => ⟨a, s, rfl, rfl⟩

theorem Quiet.read (f : σ → α) : Quiet v (Prog.read f) := fun s => ⟨f s, s, rfl, rfl⟩

theorem Quiet.update {f : σ → σ} (h : ∀ s, v (f s) = v s) : Quiet v (Prog.update f) :=
  fun s => ⟨(), f s, rfl, h s⟩

theorem Quiet.step {f : σ → α × σ} (h : ∀ s, v (f s).2 = v s) : Quiet v (Prog.step f) :=
  fun s => ⟨(f s).1, (f s).2, rfl, h s⟩

theorem Quiet.bind {x : Prog σ α} {f : α → Prog σ β} (hx : Quiet v x) (hf : ∀ a, Quiet v (f a)) :
    Quiet v (x >>= f) := by
  intro s
  obtain ⟨a, s₁, h₁, hv₁⟩ := hx s
  obtain ⟨b, s₂, h₂, hv₂⟩ := hf a s₁
  refine ⟨b, s₂, ?_, hv₂.trans hv₁⟩
  show (match x s with | (some a, s') => f a s' | (none, s') => (none, s')) = (some b, s₂)
  rw [h₁]
  exact h₂

theorem Quiet.ite {c : Prop} [Decidable c] {x y : Prog σ α} (hx : Quiet v x) (hy : Quiet v y) :
    Quiet v (if c then x else y) := by
  split
  · exact hx
  · exact hy

theorem Quiet.onlyIf {c : Prop} [Decidable c] {x : Prog σ Unit} (hx : Quiet v x) :
    Quiet v (Prog.onlyIf c x) :=
  .ite hx (.pure ())

/-- The program returns from every state. -/
abbrev Returns (x : Prog σ α) : Prop := Quiet (fun _ : σ => ()) x

theorem Quiet.returns {x : Prog σ α} (h : Quiet v x) : Returns x := by
  intro s
  obtain ⟨a, s', hx, -⟩ := h s
  exact ⟨a, s', hx, rfl⟩

/-- **A quiet program returns with every property of the view.** -/
theorem Quiet.wp {x : Prog σ α} {Q : α → σ → Prop} {D : σ → Prop} {s : σ} (h : Quiet v x)
    (hQ : ∀ a s', v s' = v s → Q a s') : wp x Q D s := by
  obtain ⟨a, s', hx, hv⟩ := h s
  unfold Prog.wp
  rw [hx]
  exact hQ a s' hv

/-- **A quiet program keeps every property of the view.** -/
theorem Triple.quiet {x : Prog σ α} {p : ν → Prop} {D : σ → Prop} (h : Quiet v x) :
    Triple (fun s => p (v s)) x (fun _ s => p (v s)) D := by
  intro s hs
  obtain ⟨a, s', hx, hv⟩ := h s
  rw [hx]
  exact (congrArg p hv).mpr hs

end

/-! ## Frames -/

/-- The program leaves the view `v` of the state unchanged. -/
def Frames (v : σ → ν) (x : Prog σ α) : Prop := ∀ s, v (x s).2 = v s

section
variable {v : σ → ν}

theorem Frames.pure (a : α) : Frames v (Pure.pure a : Prog σ α) := fun _ => rfl

theorem Frames.read (f : σ → α) : Frames v (Prog.read f) := fun _ => rfl

theorem Frames.update {f : σ → σ} (h : ∀ s, v (f s) = v s) : Frames v (Prog.update f) := h

theorem Frames.step {f : σ → α × σ} (h : ∀ s, v (f s).2 = v s) : Frames v (Prog.step f) := h

theorem Frames.bind {x : Prog σ α} {f : α → Prog σ β} (hx : Frames v x)
    (hf : ∀ a, Frames v (f a)) : Frames v (x >>= f) := by
  intro s
  have hx := hx s
  show v (match x s with | (some a, s') => f a s' | (none, s') => (none, s')).2 = v s
  generalize x s = r at hx ⊢
  rcases r with ⟨_ | a, s'⟩
  · exact hx
  · exact (hf a s').trans hx

theorem Frames.ite {c : Prop} [Decidable c] {x y : Prog σ α} (hx : Frames v x)
    (hy : Frames v y) : Frames v (if c then x else y) := by
  by_cases h : c
  · rw [if_pos h]
    exact hx
  · rw [if_neg h]
    exact hy

theorem Frames.onlyIf {c : Prop} [Decidable c] {x : Prog σ Unit} (hx : Frames v x) :
    Frames v (Prog.onlyIf c x) :=
  .ite hx (.pure ())

theorem Quiet.frames {x : Prog σ α} (h : Quiet v x) : Frames v x := by
  intro s
  obtain ⟨a, s', hx, hv⟩ := h s
  rw [hx]
  exact hv

/-- **A program keeps every property of what it leaves unchanged.** -/
theorem Triple.frames {x : Prog σ α} {p : ν → Prop} (h : Frames v x) :
    Triple (fun s => p (v s)) x (fun _ s => p (v s)) fun s => p (v s) := by
  intro s hs
  have h := h s
  generalize x s = r at h ⊢
  rcases r with ⟨_ | a, s'⟩
  · exact (congrArg p h).mpr hs
  · exact (congrArg p h).mpr hs

end

/-! ## Parts of the state -/

/-- Run the program on the part `get` of the state. -/
def within (get : σ → τ) (put : τ → σ → σ) (x : Prog τ α) : Prog σ α :=
  fun s => ((x (get s)).1, put (x (get s)).2 s)

section
variable {get : σ → τ} {put : τ → σ → σ} {x : Prog τ α}

theorem wp_within {Q : α → σ → Prop} {D : σ → Prop} {s : σ} :
    wp (within get put x) Q D s ↔
      wp x (fun a t => Q a (put t s)) (fun t => D (put t s)) (get s) := by
  unfold wp within
  rcases x (get s) with ⟨_ | a, t⟩
  · exact Iff.rfl
  · exact Iff.rfl

/-- **Locality**: what does not depend on the part is unchanged. -/
theorem Frames.within {v : σ → ν} (h : ∀ t s, v (put t s) = v s) :
    Frames v (within get put x) :=
  fun s => h _ s

theorem Quiet.within {v : σ → ν} (hx : Returns x) (h : ∀ t s, v (put t s) = v s) :
    Quiet v (within get put x) := by
  intro s
  obtain ⟨a, t, ht, -⟩ := hx (get s)
  refine ⟨a, put t s, ?_, h t s⟩
  unfold Prog.within
  rw [ht]

end

end Prog
