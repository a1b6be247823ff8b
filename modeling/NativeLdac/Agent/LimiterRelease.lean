/-
  The release of the linked stereo limiter (`agent/v1_linked_stereo_block_limiter.cpp`), in exact
  arithmetic: behind the last frame over the ceiling the gain only rises, and is one again within
  the frames of the release time, however the frames are cut into blocks.

  * `gainStates`: the gain and the release step under which each frame of a run is scaled, and
    those after the last;
  * `GainHeld`: the gain is no further from one than the step makes up in the release time;
  * `Follows`: with no frame over the ceiling to come, the next state is the released one.
-/
import Mathlib.Algebra.Order.Floor.Semiring
import Mathlib.Algebra.Order.Archimedean.Basic
import Mathlib.Data.Rat.Floor
import Mathlib.Data.List.Iterate
import NativeLdac.Agent.LinkedStereoLimiter

namespace NativeLdac.Agent

open Engine Engine.FloatArith

/-! ## The gains of a run -/

section
variable {F : Type} [FloatArith F] (rounding : Rounding F) (ceiling : F) (sampleRateHz : UInt32)
variable (releaseMs : F)

/-- The states that scale the frames of the second pass. -/
def limitStates : LimiterLoop F → List (F × F) → List (V1LinkedStereoBlockLimiterState F)
  | _, [] => []
  | loop, frame :: rest =>
    match attackFrame rounding ceiling sampleRateHz releaseMs loop frame with
    | none => []
    | some attacked =>
      ⟨attacked.gain, attacked.releaseStep⟩ ::
        limitStates (limitFrame rounding ceiling attacked frame rest).2 rest

/-- The states of a block; one that is refused leaves the state alone. -/
def blockStates (frames : List (F × F)) (state : V1LinkedStereoBlockLimiterState F) :
    List (V1LinkedStereoBlockLimiterState F) :=
  match enterBlock rounding ceiling sampleRateHz releaseMs frames state with
  | none => frames.map fun _ => state
  | some loop => limitStates rounding ceiling sampleRateHz releaseMs loop frames

/-- The states of a run of blocks: one for each frame, and the last. -/
def gainStates : LimiterSession F → List (List (F × F)) →
    List (V1LinkedStereoBlockLimiterState F)
  | s, [] => [s.state]
  | s, frames :: blocks =>
    blockStates rounding ceiling sampleRateHz releaseMs frames s.state ++
      gainStates ((limiter rounding ceiling sampleRateHz releaseMs).next s frames) blocks

end

/-! ## One frame -/

def releaseFrames (sampleRateHz : UInt32) (releaseMs : ℚ) : ℚ :=
  sampleRateHz.toNat * releaseMs / 1000

def KeepsCeiling (ceiling : ℚ) (frames : List (ℚ × ℚ)) : Prop :=
  ∀ frame ∈ frames, framePeak frame ≤ ceiling

/-- The state after a frame with nothing to come. -/
def released (rounding : Rounding ℚ) (ceiling : ℚ) (state : V1LinkedStereoBlockLimiterState ℚ) :
    V1LinkedStereoBlockLimiterState ℚ :=
  let gain := recoverGain rounding ceiling state.gain state.releaseStep 0
  ⟨gain, if gain == 1.0 then 0.0 else state.releaseStep⟩

/-- The gain is no further from one than the step makes up in the release time. -/
structure GainHeld (frames : ℚ) (state : V1LinkedStereoBlockLimiterState ℚ) : Prop where
  recovering : Recovering state.gain state.releaseStep
  within : 1 - state.gain ≤ frames * state.releaseStep

section
variable {rounding : Rounding ℚ} {ceiling : ℚ} {sampleRateHz : UInt32} {releaseMs : ℚ}
variable {frames rest : List (ℚ × ℚ)} {state : V1LinkedStereoBlockLimiterState ℚ} {time : ℚ}

theorem KeepsCeiling.suffixPeak (hceiling : 0 < ceiling) (h : KeepsCeiling ceiling frames) :
    suffixPeak frames ≤ ceiling := by
  induction frames with
  | nil => exact rat_zero.trans_le hceiling.le
  | cons frame rest ih =>
    rw [suffixPeak_cons]
    exact max_le (ih fun other hother => h other (List.mem_cons_of_mem _ hother))
      (h frame List.mem_cons_self)

theorem allowedGain_keeps (hceiling : 0 < ceiling) (h : KeepsCeiling ceiling frames) :
    allowedGain ceiling (suffixPeak frames) = 1 :=
  if_pos (h.suffixPeak hceiling)

theorem recoverGain_zero (rounding : Rounding ℚ) (hceiling : 0 < ceiling) {gain step : ℚ}
    (h : Recovering gain step) :
    recoverGain rounding ceiling gain step 0 =
      if gain + step ≥ 1 - step then 1 else gain + step := by
  have hone : allowedGain ceiling 0 = 1 := if_pos hceiling.le
  unfold recoverGain
  rw [safeGainForPeak_eq rounding hceiling, hone, rat_one, rat_fmax, rat_fmin, rat_fmin]
  by_cases hlt : gain < 1
  · rw [if_pos hlt]
    have hstep := h.releasing hlt
    split_ifs with hsnap
    · simp [h.le_one]
    · have hbelow : gain + step ≤ 1 := by linarith
      rw [min_eq_right hbelow, min_eq_right hbelow, max_eq_right (by linarith)]
  · have hgain : gain = 1 := le_antisymm h.le_one (not_lt.mp hlt)
    rw [if_neg hlt, h.resting hgain, hgain]
    simp

theorem recoverGain_keeps (rounding : Rounding ℚ) (hceiling : 0 < ceiling)
    (h : KeepsCeiling ceiling rest) (gain step : ℚ) :
    recoverGain rounding ceiling gain step (suffixPeak rest) =
      recoverGain rounding ceiling gain step 0 := by
  unfold recoverGain
  rw [safeGainForPeak_eq rounding hceiling, safeGainForPeak_eq rounding hceiling,
    allowedGain_keeps hceiling h, show allowedGain ceiling 0 = 1 from if_pos hceiling.le]

theorem GainHeld.recover (h : GainHeld time state) {nextGain : ℚ} (hle : state.gain ≤ nextGain)
    (hone : nextGain ≤ 1) :
    GainHeld time ⟨nextGain, if nextGain == 1.0 then 0.0 else state.releaseStep⟩ := by
  refine ⟨h.recovering.recover hle hone, ?_⟩
  rw [rat_zero, rat_one]
  by_cases hrested : nextGain = 1
  · rw [if_pos (beq_iff_eq.mpr hrested), hrested]
    simp
  · rw [if_neg fun heq => hrested (beq_iff_eq.mp heq)]
    exact (sub_le_sub_left hle 1).trans h.within

theorem GainHeld.released (h : GainHeld time state) (rounding : Rounding ℚ)
    (hceiling : 0 < ceiling) :
    GainHeld time (released rounding ceiling state) ∧
      state.gain ≤ (Agent.released rounding ceiling state).gain := by
  have hone : allowedGain ceiling 0 = 1 := if_pos hceiling.le
  obtain ⟨hle, hmost⟩ := recoverGain_bounds rounding state.releaseStep hceiling
    (h.recovering.le_one.trans_eq hone.symm)
  exact ⟨h.recover hle (hmost.trans_eq hone), hle⟩

theorem released_cases (h : GainHeld time state) (rounding : Rounding ℚ) (hceiling : 0 < ceiling) :
    (Agent.released rounding ceiling state).gain = 1 ∨
      state.gain + state.releaseStep < 1 - state.releaseStep ∧
        Agent.released rounding ceiling state =
          ⟨state.gain + state.releaseStep, state.releaseStep⟩ := by
  have hgain := recoverGain_zero rounding hceiling h.recovering
  by_cases hsnap : state.gain + state.releaseStep ≥ 1 - state.releaseStep
  · rw [if_pos hsnap] at hgain
    exact .inl hgain
  · rw [if_neg hsnap] at hgain
    have hbelow : state.gain + state.releaseStep < 1 := by
      have := h.recovering.step_nonneg
      linarith
    refine .inr ⟨not_le.mp hsnap, ?_⟩
    unfold Agent.released
    dsimp only
    rw [hgain, rat_one, if_neg fun heq => hbelow.ne (beq_iff_eq.mp heq)]

theorem released_of_one (h : GainHeld time state) (rounding : Rounding ℚ) (hceiling : 0 < ceiling)
    (hone : state.gain = 1) : Agent.released rounding ceiling state = state := by
  have hgain := recoverGain_zero rounding hceiling h.recovering
  have hstep := h.recovering.resting hone
  rw [hone, hstep, add_zero, sub_zero, if_pos le_rfl] at hgain
  obtain ⟨gain, step⟩ := state
  dsimp only at hone hstep
  subst hone hstep
  unfold Agent.released
  dsimp only
  rw [hgain, rat_one, rat_zero, if_pos (beq_self_eq_true _)]

/-! ## Many frames -/

theorem iterate_released (h : GainHeld time state) (rounding : Rounding ℚ) (hceiling : 0 < ceiling)
    (k : ℕ) :
    let after := (Agent.released rounding ceiling)^[k] state
    GainHeld time after ∧ (after.gain = 1 ∨
      after.releaseStep = state.releaseStep ∧ after.gain = state.gain + k * state.releaseStep ∧
        (0 < k → after.gain < 1 - state.releaseStep)) := by
  induction k with
  | zero => exact ⟨h, .inr ⟨rfl, by simp, fun hk => absurd hk (lt_irrefl 0)⟩⟩
  | succ k ih =>
    rw [Function.iterate_succ_apply']
    obtain ⟨hheld, hafter⟩ := ih
    refine ⟨(hheld.released rounding hceiling).1, ?_⟩
    rcases hafter with hone | ⟨hstep, hgain, -⟩
    · rw [released_of_one hheld rounding hceiling hone]
      exact .inl hone
    · rcases released_cases hheld rounding hceiling with hone | ⟨hbelow, hnext⟩
      · exact .inl hone
      · rw [hnext]
        refine .inr ⟨hstep, ?_, fun _ => ?_⟩
        · dsimp only
          rw [hgain, hstep]
          push_cast
          ring
        · dsimp only
          rwa [hstep] at hbelow ⊢

theorem monotone_released (h : GainHeld time state) (rounding : Rounding ℚ)
    (hceiling : 0 < ceiling) :
    Monotone fun k => ((Agent.released rounding ceiling)^[k] state).gain := by
  refine monotone_nat_of_le_succ fun k => ?_
  rw [Function.iterate_succ_apply']
  exact ((iterate_released h rounding hceiling k).1.released rounding hceiling).2

theorem iterate_released_eq_one (h : GainHeld time state) (htime : 0 < time) (rounding : Rounding ℚ)
    (hceiling : 0 < ceiling) {k : ℕ} (hk : ⌈time⌉₊ ≤ k) :
    ((Agent.released rounding ceiling)^[k] state).gain = 1 := by
  have hpos : 0 < k := (Nat.ceil_pos.mpr htime).trans_le hk
  have htimek : time ≤ k := (Nat.le_ceil time).trans (by exact_mod_cast hk)
  rcases (iterate_released h rounding hceiling k).2 with hone | ⟨-, hgain, hbelow⟩
  · exact hone
  · exfalso
    have hlast := hbelow hpos
    have hstep := h.recovering.step_nonneg
    have hmade : time * state.releaseStep ≤ k * state.releaseStep :=
      mul_le_mul_of_nonneg_right htimek hstep
    have hwithin := h.within
    linarith

end

/-! ## Runs of states -/

/-- One state for each frame, and one behind the last: with no frame over the ceiling to come,
    the next state is the released one. -/
inductive Follows (rounding : Rounding ℚ) (ceiling : ℚ) :
    List (ℚ × ℚ) → List (V1LinkedStereoBlockLimiterState ℚ) → Prop
  | last {state} : Follows rounding ceiling [] [state]
  | frame {frame rest state next states} :
      (KeepsCeiling ceiling rest → next = released rounding ceiling state) →
      Follows rounding ceiling rest (next :: states) →
      Follows rounding ceiling (frame :: rest) (state :: next :: states)

section
variable {rounding : Rounding ℚ} {ceiling : ℚ} {sampleRateHz : UInt32} {releaseMs : ℚ}
variable {frames later : List (ℚ × ℚ)} {time : ℚ}
variable {states : List (V1LinkedStereoBlockLimiterState ℚ)} {frame : ℚ × ℚ} {rest : List (ℚ × ℚ)}
variable {loop : LimiterLoop ℚ}

theorem Follows.drop {front : List (ℚ × ℚ)}
    (h : Follows rounding ceiling (front ++ frames) states) :
    Follows rounding ceiling frames (states.drop front.length) := by
  induction front generalizing states with
  | nil => exact h
  | cons frame front ih =>
    cases h with
    | frame _ hrest => exact ih hrest

theorem Follows.released {state : V1LinkedStereoBlockLimiterState ℚ}
    (h : Follows rounding ceiling (frame :: rest) (state :: states))
    (hkeeps : KeepsCeiling ceiling rest) :
    state :: states =
      List.iterate (Agent.released rounding ceiling) state (rest.length + 2) := by
  induction rest generalizing frame state states with
  | nil =>
    cases h with
    | frame hnext hrest =>
      cases hrest
      rw [hnext hkeeps]
      rfl
  | cons next rest ih =>
    cases h with
    | frame hnext hrest =>
      have hrest' : KeepsCeiling ceiling rest := fun f hf => hkeeps f (List.mem_cons_of_mem _ hf)
      rw [ih hrest hrest', hnext hkeeps]
      rfl

/-- The states of a part of a run, in front of those of what comes later. -/
structure Extends (rounding : Rounding ℚ) (ceiling time : ℚ) (frames : List (ℚ × ℚ))
    (start : V1LinkedStereoBlockLimiterState ℚ)
    (states : List (V1LinkedStereoBlockLimiterState ℚ)) : Prop where
  follows : Follows rounding ceiling frames states
  starts : KeepsCeiling ceiling frames → states.head? = some start
  held : ∀ state ∈ states, GainHeld time state

theorem Extends.cons {start next : V1LinkedStereoBlockLimiterState ℚ}
    (h : Extends rounding ceiling time frames next states) (hheld : GainHeld time start)
    (hnext : KeepsCeiling ceiling frames → next = Agent.released rounding ceiling start) :
    Extends rounding ceiling time (frame :: frames) start (start :: states) := by
  obtain ⟨hfollows, hstarts, hall⟩ := h
  refine ⟨?_, fun _ => rfl, ?_⟩
  · cases states with
    | nil => cases hfollows
    | cons first states =>
      refine .frame (fun hkeeps => ?_) hfollows
      rw [← hnext hkeeps]
      exact Option.some.inj (hstarts hkeeps)
  · intro state hstate
    rcases List.mem_cons.mp hstate with rfl | hstate
    · exact hheld
    · exact hall state hstate

/-! ## The second pass -/

def LimiterLoop.held {F : Type} (loop : LimiterLoop F) : V1LinkedStereoBlockLimiterState F :=
  ⟨loop.gain, loop.releaseStep⟩

theorem limitFrame_held (loop : LimiterLoop ℚ) (frame : ℚ × ℚ) (rest : List (ℚ × ℚ)) :
    let gain := recoverGain rounding ceiling loop.gain loop.releaseStep (suffixPeak rest)
    (limitFrame rounding ceiling loop frame rest).2.held =
      ⟨gain, if gain == 1.0 then 0.0 else loop.releaseStep⟩ := rfl

theorem Planned.limitFrame_held (h : Planned ceiling (frame :: rest) loop)
    (hceiling : 0 < ceiling) (hheld : GainHeld time loop.held) :
    GainHeld time (Agent.limitFrame rounding ceiling loop frame rest).2.held ∧
      (KeepsCeiling ceiling rest →
        (Agent.limitFrame rounding ceiling loop frame rest).2.held =
          Agent.released rounding ceiling loop.held) := by
  obtain ⟨hle, hallowed⟩ := recoverGain_bounds rounding loop.releaseStep hceiling
    (h.of_rest hceiling)
  refine ⟨hheld.recover hle (hallowed.trans (allowedGain_le_one hceiling)), fun hkeeps => ?_⟩
  rw [Agent.limitFrame_held, recoverGain_keeps rounding hceiling hkeeps]
  rfl

theorem Planned.limitFrames_cons (h : Planned ceiling (frame :: rest) loop)
    (hceiling : 0 < ceiling) :
    let limited := Agent.limitFrame rounding ceiling loop frame rest
    let done := limitFrames rounding ceiling sampleRateHz releaseMs limited.2 rest
    Planned ceiling rest limited.2 ∧
      limitFrames rounding ceiling sampleRateHz releaseMs loop (frame :: rest) =
        (limited.1 :: done.1, done.2) ∧
      limitStates rounding ceiling sampleRateHz releaseMs loop (frame :: rest) =
        loop.held :: limitStates rounding ceiling sampleRateHz releaseMs limited.2 rest := by
  have hnone : ¬ safeGainForPeak rounding ceiling (framePeak frame) < loop.gain :=
    h.not_attacked hceiling
  refine ⟨(h.limitFrame hceiling rounding).2.1, ?_, ?_⟩
  · rw [limitFrames, attackFrame, if_neg hnone]
  · rw [limitStates, attackFrame, if_neg hnone]
    rfl

theorem limitStates_extends {loop loop' : LimiterLoop ℚ} {samples : List (ℚ × ℚ)}
    (h : Planned ceiling frames loop) (hceiling : 0 < ceiling) (hheld : GainHeld time loop.held)
    (hlimit : limitFrames rounding ceiling sampleRateHz releaseMs loop frames =
      (samples, some loop'))
    (hlater : Extends rounding ceiling time later loop'.held states) :
    Extends rounding ceiling time (frames ++ later) loop.held
      (limitStates rounding ceiling sampleRateHz releaseMs loop frames ++ states) := by
  induction frames generalizing loop samples with
  | nil =>
    cases hlimit
    exact hlater
  | cons frame rest ih =>
    obtain ⟨hplanned, hframes, hstates⟩ := h.limitFrames_cons hceiling
    obtain ⟨hnextHeld, hnext⟩ := @Planned.limitFrame_held rounding _ _ _ _ _ h hceiling hheld
    rw [hframes, Prod.mk.injEq] at hlimit
    rw [hstates]
    refine (ih hplanned hnextHeld (Prod.ext rfl hlimit.2)).cons hheld fun hkeeps =>
      hnext fun f hf => ?_
    exact hkeeps f (List.mem_append_left _ hf)

theorem limitFrames_samples (h : Planned ceiling frames loop) (hceiling : 0 < ceiling) :
    (limitFrames rounding ceiling sampleRateHz releaseMs loop frames).1 =
      List.zipWith (fun frame state => (frame.1 * state.gain, frame.2 * state.gain)) frames
        (limitStates rounding ceiling sampleRateHz releaseMs loop frames) := by
  induction frames generalizing loop with
  | nil => rfl
  | cons frame rest ih =>
    obtain ⟨hplanned, hframes, hstates⟩ := h.limitFrames_cons hceiling
    obtain ⟨⟨hsamples, -⟩, -⟩ := h.limitFrame_samples hceiling rounding
    rw [hframes, hstates, ih hplanned, hsamples]
    rfl

theorem limitFrames_held {loop loop' : LimiterLoop ℚ} {samples : List (ℚ × ℚ)}
    (h : Planned ceiling frames loop) (hceiling : 0 < ceiling) (hheld : GainHeld time loop.held)
    (hlimit : limitFrames rounding ceiling sampleRateHz releaseMs loop frames =
      (samples, some loop'))
    (hrested : frames = [] → time ≤ 1 → loop.gain = 1) :
    GainHeld time loop'.held ∧ (time ≤ 1 → loop'.gain = 1) := by
  induction frames generalizing loop samples with
  | nil =>
    cases hlimit
    exact ⟨hheld, hrested rfl⟩
  | cons frame rest ih =>
    obtain ⟨hplanned, hframes, -⟩ := h.limitFrames_cons hceiling
    obtain ⟨hnextHeld, hnext⟩ := @Planned.limitFrame_held rounding _ _ _ _ _ h hceiling hheld
    rw [hframes, Prod.mk.injEq] at hlimit
    refine ih hplanned hnextHeld (Prod.ext rfl hlimit.2) ?_
    rintro rfl hshort
    have hgain := congrArg V1LinkedStereoBlockLimiterState.gain (hnext (by simp [KeepsCeiling]))
    refine hgain.trans ((recoverGain_zero rounding hceiling hheld.recovering).trans ?_)
    have hstep := hheld.recovering.step_nonneg
    have hmade : time * loop.held.releaseStep ≤ 1 * loop.held.releaseStep :=
      mul_le_mul_of_nonneg_right hshort hstep
    have hwithin := hheld.within
    exact if_pos (by linarith)

end

/-! ## A block -/

/-- Between two blocks: with a release time of a frame or less, the gain is one. -/
structure Rested (time : ℚ) (state : V1LinkedStereoBlockLimiterState ℚ) : Prop where
  held : GainHeld time state
  rested : time ≤ 1 → state.gain = 1

section
variable {rounding : Rounding ℚ} {ceiling : ℚ} {sampleRateHz : UInt32} {releaseMs : ℚ}
variable {frames later : List (ℚ × ℚ)} {state : V1LinkedStereoBlockLimiterState ℚ}
variable {states : List (V1LinkedStereoBlockLimiterState ℚ)}

theorem settings_accepted
    (h : argumentsRefused ([] : List (ℚ × ℚ)) ceiling sampleRateHz releaseMs = false) :
    0 < ceiling ∧ 0 < releaseFrames sampleRateHz releaseMs ∧
      ∀ frames : List (ℚ × ℚ), frames.length ≤ v1LinkedStereoLimiterMaximumFrames →
        argumentsRefused frames ceiling sampleRateHz releaseMs = false := by
  simp only [argumentsRefused, rat_zero, Bool.or_eq_false_iff, decide_eq_false_iff_not, not_le,
    beq_eq_false_iff_ne, ne_eq] at h ⊢
  obtain ⟨⟨⟨⟨⟨⟨-, h₁⟩, hceiling⟩, h₂⟩, hrate⟩, h₃⟩, hrelease⟩ := h
  refine ⟨hceiling, ?_, fun frames hlength =>
    ⟨⟨⟨⟨⟨⟨not_lt.mpr hlength, h₁⟩, hceiling⟩, h₂⟩, hrate⟩, h₃⟩, hrelease⟩⟩
  have hpos : 0 < sampleRateHz.toNat := by
    refine Nat.pos_of_ne_zero fun hzero => hrate ?_
    exact UInt32.toNat_inj.mp hzero
  unfold releaseFrames
  have : (0 : ℚ) < sampleRateHz.toNat := by exact_mod_cast hpos
  positivity

theorem computeReleaseStep_eq (gain : ℚ) :
    computeReleaseStep gain sampleRateHz releaseMs =
      if (1 - gain) / releaseFrames sampleRateHz releaseMs ≤ 0 ∨
          1 < (1 - gain) / releaseFrames sampleRateHz releaseMs then none
      else some ((1 - gain) / releaseFrames sampleRateHz releaseMs) := by
  have hthousand : (1000.0 : ℚ) = 1000 := by norm_num
  unfold computeReleaseStep releaseFrames
  simp only [rat_zero, rat_one, hthousand, FloatArith.isFinite, FloatArith.ofNat, Bool.not_true,
    Bool.false_or, Bool.or_eq_true, decide_eq_true_eq, gt_iff_lt]

theorem attackBlock_held (hceiling : 0 < ceiling)
    (htime : 0 < releaseFrames sampleRateHz releaseMs)
    (h : GainHeld (releaseFrames sampleRateHz releaseMs) state)
    {next : V1LinkedStereoBlockLimiterTelemetry ℚ} (hpeak : next.blockPeak = suffixPeak frames) :
    match attackBlock rounding ceiling sampleRateHz releaseMs state next with
    | none => releaseFrames sampleRateHz releaseMs ≤ 1
    | some loop => GainHeld (releaseFrames sampleRateHz releaseMs) loop.held ∧
        (KeepsCeiling ceiling frames → loop.held = state) := by
  simp only [attackBlock, hpeak, safeGainForPeak_eq rounding hceiling, computeReleaseStep_eq]
  have hpos := @allowedGain_pos _ (suffixPeak frames) hceiling
  by_cases hover : allowedGain ceiling (suffixPeak frames) < state.gain
  · have hlt := hover.trans_le h.recovering.le_one
    rw [if_pos hover]
    have hstep : 0 < (1 - allowedGain ceiling (suffixPeak frames)) /
        releaseFrames sampleRateHz releaseMs := div_pos (sub_pos.mpr hlt) htime
    split_ifs with hrefused
    · rcases hrefused with hrefused | hrefused
      · exact absurd hstep (not_lt.mpr hrefused)
      · rw [one_lt_div htime] at hrefused
        show releaseFrames sampleRateHz releaseMs ≤ 1
        linarith
    · rw [not_or, not_le, not_lt] at hrefused
      refine ⟨⟨⟨hpos, hlt.le, fun _ => hstep, fun heq => absurd heq hlt.ne, hrefused.2⟩, ?_⟩, ?_⟩
      · exact (mul_div_cancel₀ _ htime.ne').ge
      · intro hkeeps
        rw [allowedGain_keeps hceiling hkeeps] at hlt
        exact absurd hlt (lt_irrefl 1)
  · rw [if_neg hover]
    exact ⟨h, fun _ => rfl⟩

theorem enterBlock_held
    (hsettings : argumentsRefused ([] : List (ℚ × ℚ)) ceiling sampleRateHz releaseMs = false)
    (hlength : frames.length ≤ v1LinkedStereoLimiterMaximumFrames)
    (h : GainHeld (releaseFrames sampleRateHz releaseMs) state) :
    match enterBlock rounding ceiling sampleRateHz releaseMs frames state with
    | none => releaseFrames sampleRateHz releaseMs ≤ 1
    | some loop => GainHeld (releaseFrames sampleRateHz releaseMs) loop.held ∧
        (KeepsCeiling ceiling frames → loop.held = state) := by
  obtain ⟨hceiling, htime, haccepted⟩ := settings_accepted hsettings
  obtain ⟨hpeak, -, -⟩ := measured ceiling frames
    (show 0 ≤ V1LinkedStereoBlockLimiterTelemetry.empty.blockPeak from rat_zero.ge)
  have hblock : max V1LinkedStereoBlockLimiterTelemetry.empty.blockPeak (suffixPeak frames) =
      suffixPeak frames := max_eq_right (rat_zero.trans_le (suffixPeak_nonneg frames))
  have hattack := @attackBlock_held rounding ceiling sampleRateHz releaseMs frames state hceiling
    htime h _ (hpeak.trans hblock)
  unfold enterBlock
  rw [haccepted frames hlength, h.recovering.not_refused, Bool.or_false,
    if_neg Bool.false_ne_true]
  cases hentered : attackBlock rounding ceiling sampleRateHz releaseMs state
    (frames.foldl (measureFrame ceiling) .empty) with
  | none =>
    rw [hentered] at hattack
    exact hattack
  | some loop =>
    rw [hentered] at hattack
    exact hattack

theorem replicate_extends {time : ℚ} (h : GainHeld time state) (hceiling : 0 < ceiling)
    (hone : state.gain = 1) (hlater : Extends rounding ceiling time later state states) :
    Extends rounding ceiling time (frames ++ later) state
      (frames.map (fun _ => state) ++ states) := by
  induction frames with
  | nil => exact hlater
  | cons frame rest ih =>
    exact ih.cons h fun _ => (released_of_one h rounding hceiling hone).symm

theorem blockStates_extends
    (hsettings : argumentsRefused ([] : List (ℚ × ℚ)) ceiling sampleRateHz releaseMs = false)
    (hlength : frames.length ≤ v1LinkedStereoLimiterMaximumFrames)
    {s : LimiterSession ℚ} (h : Rested (releaseFrames sampleRateHz releaseMs) s.state)
    (hlater : let next := (limiter rounding ceiling sampleRateHz releaseMs).next s frames
      Rested (releaseFrames sampleRateHz releaseMs) next.state →
      Extends rounding ceiling (releaseFrames sampleRateHz releaseMs) later next.state states) :
    Extends rounding ceiling (releaseFrames sampleRateHz releaseMs) (frames ++ later) s.state
      (blockStates rounding ceiling sampleRateHz releaseMs frames s.state ++ states) := by
  have hentered := @enterBlock_held rounding _ _ _ _ _ hsettings hlength h.held
  simp only [Reducer.next, limiter, processV1LinkedStereoBlock] at hlater
  unfold blockStates
  cases henter : enterBlock rounding ceiling sampleRateHz releaseMs frames s.state with
  | none =>
    rw [henter] at hentered hlater
    exact replicate_extends h.held (settings_accepted hsettings).1 (h.rested hentered) (hlater h)
  | some loop =>
    rw [henter] at hentered
    simp only [henter] at hlater
    obtain ⟨hheld, hstate⟩ := hentered
    obtain ⟨hceiling, hplanned, -⟩ := enterBlock_planned h.held.recovering henter
    obtain ⟨-, samples, loop', hlimit, -⟩ :=
      limitFrames_planned rounding sampleRateHz releaseMs hceiling hplanned
    simp only [hlimit] at hlater
    obtain ⟨hheld', hrested'⟩ := limitFrames_held hplanned hceiling hheld hlimit (by
      rintro rfl hshort
      exact (congrArg V1LinkedStereoBlockLimiterState.gain
        (hstate (by simp [KeepsCeiling]))).trans (h.rested hshort))
    obtain ⟨hfollows, hstarts, hall⟩ :=
      limitStates_extends hplanned hceiling hheld hlimit (hlater ⟨hheld', hrested'⟩)
    refine ⟨hfollows, fun hkeeps => ?_, hall⟩
    rw [hstarts hkeeps, hstate fun frame hframe => hkeeps frame (List.mem_append_left _ hframe)]

/-- **The output of a run**: each frame of a block that is accepted is scaled by the gain of its
    state, and a block that is refused is left as it is. -/
theorem limiter_scales (rounding : Rounding ℚ) (ceiling : ℚ) (sampleRateHz : UInt32)
    (releaseMs : ℚ) (blocks : List (List (ℚ × ℚ))) (frames : List (ℚ × ℚ)) :
    let m := limiter rounding ceiling sampleRateHz releaseMs
    let s := m.after .reset blocks
    (m.out s frames).samples =
      if (m.out s frames).accepted then
        List.zipWith (fun frame state => (frame.1 * state.gain, frame.2 * state.gain)) frames
          (blockStates rounding ceiling sampleRateHz releaseMs frames s.state)
      else frames := by
  intro m s
  have h : Recovering s.state.gain s.state.releaseStep := recovering_after blocks
  simp only [m, Reducer.out, limiter, processV1LinkedStereoBlock, blockStates]
  cases henter : enterBlock rounding ceiling sampleRateHz releaseMs frames s.state with
  | none => rfl
  | some loop =>
    obtain ⟨hceiling, hplanned, -⟩ := enterBlock_planned h henter
    obtain ⟨-, samples, loop', hlimit, -⟩ :=
      limitFrames_planned rounding sampleRateHz releaseMs hceiling hplanned
    have hsamples := @limitFrames_samples rounding ceiling sampleRateHz releaseMs frames loop
      hplanned hceiling
    rw [hlimit] at hsamples
    simp only [hlimit]
    exact hsamples

theorem gainStates_extends
    (hsettings : argumentsRefused ([] : List (ℚ × ℚ)) ceiling sampleRateHz releaseMs = false)
    {blocks : List (List (ℚ × ℚ))}
    (hblocks : ∀ frames ∈ blocks, frames.length ≤ v1LinkedStereoLimiterMaximumFrames)
    {s : LimiterSession ℚ} (h : Rested (releaseFrames sampleRateHz releaseMs) s.state) :
    Extends rounding ceiling (releaseFrames sampleRateHz releaseMs) blocks.flatten s.state
      (gainStates rounding ceiling sampleRateHz releaseMs s blocks) := by
  induction blocks generalizing s with
  | nil =>
    refine ⟨.last, fun _ => rfl, fun state hstate => ?_⟩
    rw [List.mem_singleton.mp hstate]
    exact h.held
  | cons frames blocks ih =>
    rw [List.flatten_cons, gainStates]
    refine blockStates_extends hsettings (hblocks frames List.mem_cons_self) h fun hnext => ?_
    exact ih (fun other hother => hblocks other (List.mem_cons_of_mem _ hother)) hnext

theorem rested_reset (time : ℚ) :
    Rested time (LimiterSession.reset : LimiterSession ℚ).state := by
  have hone : (LimiterSession.reset : LimiterSession ℚ).state.gain = 1 := rat_one
  have hzero : (LimiterSession.reset : LimiterSession ℚ).state.releaseStep = 0 := rat_zero
  refine ⟨⟨?_, ?_⟩, fun _ => hone⟩
  · rw [hone, hzero]
    exact ⟨one_pos, le_refl 1, fun hlt => absurd hlt (lt_irrefl 1), fun _ => rfl, zero_le_one⟩
  · rw [hone, hzero, sub_self, mul_zero]

end

/-! ## The release -/

/-- **The release of the limiter**: take any frame of a run, behind which no frame is over the
    ceiling.  From it on the gain never falls, and it is one as soon as the frames of the release
    time are through. -/
theorem limiter_releases (rounding : Rounding ℚ) {ceiling : ℚ} {sampleRateHz : UInt32}
    {releaseMs : ℚ}
    (hsettings : argumentsRefused ([] : List (ℚ × ℚ)) ceiling sampleRateHz releaseMs = false)
    {blocks : List (List (ℚ × ℚ))}
    (hblocks : ∀ frames ∈ blocks, frames.length ≤ v1LinkedStereoLimiterMaximumFrames)
    {front rest : List (ℚ × ℚ)} {last : ℚ × ℚ} (hsplit : blocks.flatten = front ++ last :: rest)
    (hkeeps : ∀ frame ∈ rest, framePeak frame ≤ ceiling) :
    let gains := ((gainStates rounding ceiling sampleRateHz releaseMs .reset blocks).map
      (·.gain)).drop front.length
    gains.length = rest.length + 2 ∧ gains.Pairwise (· ≤ ·) ∧
      ∀ k, ⌈sampleRateHz.toNat * releaseMs / 1000⌉₊ ≤ k → ∀ gain, gains[k]? = some gain →
        gain = 1 := by
  intro gains
  obtain ⟨hceiling, htime, -⟩ := settings_accepted hsettings
  obtain ⟨hfollows, -, hall⟩ := @gainStates_extends rounding ceiling sampleRateHz releaseMs
    hsettings blocks hblocks .reset (rested_reset _)
  have hdropped := Follows.drop (hsplit ▸ hfollows)
  have hgains : gains = (((gainStates rounding ceiling sampleRateHz releaseMs .reset blocks).drop
      front.length).map (·.gain)) := List.map_drop.symm
  have hheld : ∀ state ∈ (gainStates rounding ceiling sampleRateHz releaseMs .reset blocks).drop
      front.length, GainHeld (releaseFrames sampleRateHz releaseMs) state :=
    fun state hstate => hall state (List.mem_of_mem_drop hstate)
  generalize (gainStates rounding ceiling sampleRateHz releaseMs .reset blocks).drop
    front.length = states at hdropped hgains hheld
  cases states with
  | nil => cases hdropped
  | cons state states =>
    have hstate := hheld state List.mem_cons_self
    have hmono := monotone_released hstate rounding hceiling
    rw [hdropped.released hkeeps, ← List.range_map_iterate, List.map_map] at hgains
    rw [hgains]
    refine ⟨by simp, ?_, fun k hk gain hgain => ?_⟩
    · rw [List.pairwise_map]
      exact List.pairwise_lt_range.imp fun hlt => hmono hlt.le
    · rw [List.getElem?_map, Option.map_eq_some_iff] at hgain
      obtain ⟨index, hindex, rfl⟩ := hgain
      obtain ⟨-, rfl⟩ := List.getElem?_eq_some_iff.mp hindex
      rw [List.getElem_range]
      exact iterate_released_eq_one hstate htime rounding hceiling hk

/-- The first frame is over the ceiling, and the second is not: two frames of release. -/
theorem limiter_releases_twice :
    let gains := ((gainStates ⟨id, 0⟩ (1 / 2) 1000 2 .reset [[((1 : ℚ), 0)], [(0, 0)]]).map
      (·.gain)).drop 0
    gains.length = 3 ∧ gains.Pairwise (· ≤ ·) ∧
      ∀ k, ⌈((1000 : UInt32).toNat : ℚ) * 2 / 1000⌉₊ ≤ k → ∀ gain, gains[k]? = some gain →
        gain = 1 :=
  @limiter_releases ⟨id, 0⟩ (1 / 2) 1000 2 (by decide +kernel) [[(1, 0)], [(0, 0)]]
    (by simp [v1LinkedStereoLimiterMaximumFrames]) [] [(0, 0)] (1, 0) rfl (by decide +kernel)

end NativeLdac.Agent
