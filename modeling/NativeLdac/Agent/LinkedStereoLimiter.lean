/-
  The linked stereo limiter (`agent/v1_linked_stereo_block_limiter.cpp`): one gain scales both
  channels of a frame.  It is lowered before a block to what the peak of the block allows, and
  recovers from there frame by frame.

  * `processV1LinkedStereoBlock`, over any arithmetic;
  * `allowedGain`, what a peak allows in exact arithmetic;
  * `Planned`, the invariant of the loop: the gain is at most what the frames to come allow;
  * `limitFrames_planned`: from there on nothing is clamped, attacked or refused.
-/
import Mathlib.Algebra.Order.Field.Basic
import Mathlib.Data.List.Forall2
import Mathlib.Tactic.Linarith
import NativeLdac.Agent.PcmReport
import NativeLdac.Lib.Reducer

namespace NativeLdac.Agent

open Engine Engine.FloatArith

def v1LinkedStereoLimiterMaximumFrames : Nat := 128

/-! ## The limiter -/

section
variable {F : Type} [FloatArith F]

def v1LinkedStereoLimiterHardMaximumCeiling : F := 1.0

structure V1LinkedStereoBlockLimiterTelemetry (F : Type) where
  blockPeak : F
  outputPeak : F
  minimumGain : F
  lastGain : F
  maximumGainStep : F
  attackCount : UInt32
  reducedFrameCount : UInt64
  reducedSampleCount : UInt64
  fallbackClampCount : UInt64
  sanitizedSampleCount : UInt64
  preOverCeilingFrameCount : UInt64
  preOverCeilingSampleCount : UInt64

def V1LinkedStereoBlockLimiterTelemetry.empty : V1LinkedStereoBlockLimiterTelemetry F where
  blockPeak := 0.0
  outputPeak := 0.0
  minimumGain := 1.0
  lastGain := 1.0
  maximumGainStep := 0.0
  attackCount := 0
  reducedFrameCount := 0
  reducedSampleCount := 0
  fallbackClampCount := 0
  sanitizedSampleCount := 0
  preOverCeilingFrameCount := 0
  preOverCeilingSampleCount := 0

/-- `ResetV1LinkedStereoBlockLimiter` -/
def V1LinkedStereoBlockLimiterState.reset : V1LinkedStereoBlockLimiterState F where
  gain := 1.0
  releaseStep := 0.0

def isUnitScalar (value : F) : Bool := isFinite value && value ≥ 0.0 && value ≤ 1.0

/-- `Sanitized` -/
def finiteSample (sample : F) : F := if isFinite sample then sample else 0.0

def computeReleaseStep (attackedGain : F) (sampleRateHz : UInt32) (releaseMs : F) : Option F :=
  let releaseFrames := ofNat sampleRateHz.toNat * releaseMs / 1000.0
  let stored := (1.0 - attackedGain) / releaseFrames
  if !isFinite stored || stored ≤ 0.0 || stored > 1.0 then none else some stored

def framePeak (frame : F × F) : F := fmax (fabs (finiteSample frame.1)) (fabs (finiteSample frame.2))

/-- `suffix_peak`: the peak of the frames from one on; `0.0` behind the last. -/
def suffixPeak : List (F × F) → F
  | [] => 0.0
  | frame :: rest => fmax (suffixPeak rest) (framePeak frame)

/-- The first pass, over one frame. -/
def measureFrame (ceiling : F) (next : V1LinkedStereoBlockLimiterTelemetry F) (frame : F × F) :
    V1LinkedStereoBlockLimiterTelemetry F :=
  let leftOver : Bool := fabs (finiteSample frame.1) > ceiling
  let rightOver : Bool := fabs (finiteSample frame.2) > ceiling
  { next with
    blockPeak := fmax next.blockPeak (framePeak frame)
    sanitizedSampleCount := next.sanitizedSampleCount + (if isFinite frame.1 then 0 else 1) +
      (if isFinite frame.2 then 0 else 1)
    preOverCeilingSampleCount := next.preOverCeilingSampleCount + (if leftOver then 1 else 0) +
      (if rightOver then 1 else 0)
    preOverCeilingFrameCount := next.preOverCeilingFrameCount +
      (if leftOver || rightOver then 1 else 0) }

/-- The gain, its recovery and the telemetry between two frames. -/
structure LimiterLoop (F : Type) where
  gain : F
  releaseStep : F
  next : V1LinkedStereoBlockLimiterTelemetry F

/-- One sample of a frame: the output, the telemetry and whether it is reduced. -/
def limitSample (ceiling gain sample : F) (next : V1LinkedStereoBlockLimiterTelemetry F) :
    F × V1LinkedStereoBlockLimiterTelemetry F × Bool :=
  let input := finiteSample sample
  let scaled := input * gain
  let output := clamp scaled (-ceiling) ceiling
  let reduced := input != 0.0 && fabs output < fabs input
  (output,
    { next with
      fallbackClampCount := next.fallbackClampCount + (if output != scaled then 1 else 0)
      outputPeak := fmax next.outputPeak (fabs output)
      reducedSampleCount := next.reducedSampleCount + (if reduced then 1 else 0) },
    reduced)

def argumentsRefused (frames : List (F × F)) (ceiling : F) (sampleRateHz : UInt32) (releaseMs : F) :
    Bool :=
  frames.length > v1LinkedStereoLimiterMaximumFrames || !isFinite ceiling || ceiling ≤ 0.0 ||
    ceiling > v1LinkedStereoLimiterHardMaximumCeiling || sampleRateHz == 0 ||
    !isFinite releaseMs || releaseMs ≤ 0.0

def stateRefused (state : V1LinkedStereoBlockLimiterState F) : Bool :=
  !isUnitScalar state.gain || !isUnitScalar state.releaseStep ||
    (state.gain < 1.0 && state.releaseStep ≤ 0.0) ||
    (state.gain == 1.0 && state.releaseStep != 0.0)

structure LimiterResult (F : Type) where
  accepted : Bool
  samples : List (F × F)
  state : V1LinkedStereoBlockLimiterState F
  telemetry : V1LinkedStereoBlockLimiterTelemetry F

/-- `std::nextafter(·, 0.0f)`, and how often it is applied at most. -/
structure Rounding (F : Type) where
  nextafter : F → F
  fuel : Nat

variable (rounding : Rounding F) (ceiling : F) (sampleRateHz : UInt32) (releaseMs : F)

def lowerGain (peak : F) : Nat → F → F
  | 0, gain => gain
  | fuel + 1, gain =>
    if peak * gain > ceiling then lowerGain peak fuel (rounding.nextafter gain) else gain

def safeGainForPeak (peak : F) : F :=
  if peak ≤ ceiling then 1.0 else lowerGain rounding ceiling peak rounding.fuel (ceiling / peak)

/-- The attack before the second pass; none if it is refused. -/
def attackBlock (state : V1LinkedStereoBlockLimiterState F)
    (next : V1LinkedStereoBlockLimiterTelemetry F) : Option (LimiterLoop F) :=
  let blockLimit := safeGainForPeak rounding ceiling next.blockPeak
  if blockLimit < state.gain then
    (computeReleaseStep blockLimit sampleRateHz releaseMs).map fun releaseStep =>
      { gain := blockLimit
        releaseStep := releaseStep
        next := { next with
          maximumGainStep := state.gain - blockLimit
          attackCount := next.attackCount + 1 } }
  else some { gain := state.gain, releaseStep := state.releaseStep, next := next }

/-- The attack in the second pass; none if it is refused. -/
def attackFrame (loop : LimiterLoop F) (frame : F × F) : Option (LimiterLoop F) :=
  let frameLimit := safeGainForPeak rounding ceiling (framePeak frame)
  if frameLimit < loop.gain then
    (computeReleaseStep frameLimit sampleRateHz releaseMs).map fun releaseStep =>
      { gain := frameLimit
        releaseStep := releaseStep
        next := { loop.next with
          maximumGainStep := fmax loop.next.maximumGainStep (loop.gain - frameLimit)
          attackCount := loop.next.attackCount + 1 } }
  else some loop

/-- The gain of the next frame, before which `nextSuffixPeak` is still to come. -/
def recoverGain (gain releaseStep nextSuffixPeak : F) : F :=
  if gain < 1.0 then
    let suffixLimit := safeGainForPeak rounding ceiling nextSuffixPeak
    let released := if gain + releaseStep ≥ 1.0 - releaseStep then 1.0 else gain + releaseStep
    fmax gain (fmin suffixLimit (fmin 1.0 released))
  else gain

/-- One frame of the second pass, after its attack. -/
def limitFrame (loop : LimiterLoop F) (frame : F × F) (rest : List (F × F)) :
    (F × F) × LimiterLoop F :=
  let (left, next, leftReduced) := limitSample ceiling loop.gain frame.1
    { loop.next with
      minimumGain := fmin loop.next.minimumGain loop.gain
      lastGain := loop.gain }
  let (right, next, rightReduced) := limitSample ceiling loop.gain frame.2 next
  let nextGain := recoverGain rounding ceiling loop.gain loop.releaseStep (suffixPeak rest)
  ((left, right),
    { gain := nextGain
      releaseStep := if nextGain == 1.0 then 0.0 else loop.releaseStep
      next := { next with
        reducedFrameCount := next.reducedFrameCount + (if leftReduced || rightReduced then 1 else 0)
        maximumGainStep := fmax next.maximumGainStep (fabs (nextGain - loop.gain)) } })

/-- The second pass: the samples as it leaves them, and none if it is refused on the way. -/
def limitFrames : LimiterLoop F → List (F × F) → List (F × F) × Option (LimiterLoop F)
  | loop, [] => ([], some loop)
  | loop, frame :: rest =>
    match attackFrame rounding ceiling sampleRateHz releaseMs loop frame with
    | none => (frame :: rest, none)
    | some attacked =>
      let limited := limitFrame rounding ceiling attacked frame rest
      let done := limitFrames limited.2 rest
      (limited.1 :: done.1, done.2)

/-- What the second pass starts from; none if the call is refused before it. -/
def enterBlock (frames : List (F × F)) (state : V1LinkedStereoBlockLimiterState F) :
    Option (LimiterLoop F) :=
  if argumentsRefused frames ceiling sampleRateHz releaseMs || stateRefused state then none
  else
    (attackBlock rounding ceiling sampleRateHz releaseMs state
      (frames.foldl (measureFrame ceiling) .empty)).map fun loop =>
        { loop with next := { loop.next with
          minimumGain := if frames.length == 0 then loop.gain else 1.0
          lastGain := loop.gain } }

def processV1LinkedStereoBlock (frames : List (F × F)) (state : V1LinkedStereoBlockLimiterState F)
    (telemetry : V1LinkedStereoBlockLimiterTelemetry F) : LimiterResult F :=
  match enterBlock rounding ceiling sampleRateHz releaseMs frames state with
  | none => ⟨false, frames, state, telemetry⟩
  | some loop =>
    match limitFrames rounding ceiling sampleRateHz releaseMs loop frames with
    | (samples, none) => ⟨false, samples, state, telemetry⟩
    | (samples, some loop) => ⟨true, samples, ⟨loop.gain, loop.releaseStep⟩, loop.next⟩

end

/-! ## Exact arithmetic -/

section
variable (x y : ℚ)

theorem rat_zero : (0.0 : ℚ) = 0 := by norm_num

theorem rat_one : (1.0 : ℚ) = 1 := by norm_num

theorem rat_fabs : fabs x = |x| := by
  unfold fabs
  split
  · rename_i hneg
    rw [rat_zero] at hneg
    exact (abs_of_neg hneg).symm
  · rename_i hneg
    rw [rat_zero, not_lt] at hneg
    exact (abs_of_nonneg hneg).symm

theorem rat_fmax : fmax x y = max x y := by
  unfold fmax
  split
  · rename_i hlt
    exact (max_eq_right hlt.le).symm
  · rename_i hlt
    exact (max_eq_left (not_lt.mp hlt)).symm

theorem rat_fmin : fmin x y = min x y := by
  unfold fmin
  split
  · rename_i hlt
    exact (min_eq_right hlt.le).symm
  · rename_i hlt
    exact (min_eq_left (not_lt.mp hlt)).symm

theorem rat_clamp {bound : ℚ} (h : |x| ≤ bound) : clamp x (-bound) bound = x := by
  obtain ⟨hlow, hhigh⟩ := abs_le.mp h
  unfold clamp
  rw [if_neg (not_lt.mpr hlow), if_neg (not_lt.mpr hhigh)]

theorem rat_finiteSample : finiteSample x = x := rfl

end

/-! ## What a peak allows -/

/-- The largest gain in `(0, 1]` under which a peak keeps the ceiling. -/
def allowedGain (ceiling peak : ℚ) : ℚ := if peak ≤ ceiling then 1 else ceiling / peak

section
variable {ceiling peak : ℚ}

theorem allowedGain_pos (h : 0 < ceiling) : 0 < allowedGain ceiling peak := by
  unfold allowedGain
  split
  · exact one_pos
  · rename_i hover
    exact div_pos h (h.trans (not_le.mp hover))

theorem allowedGain_le_one (h : 0 < ceiling) : allowedGain ceiling peak ≤ 1 := by
  unfold allowedGain
  split
  · exact le_refl 1
  · rename_i hover
    rw [not_le] at hover
    exact (div_le_one (h.trans hover)).mpr hover.le

theorem allowedGain_anti (h : 0 < ceiling) {higher : ℚ} (hle : peak ≤ higher) :
    allowedGain ceiling higher ≤ allowedGain ceiling peak := by
  by_cases hpeak : peak ≤ ceiling
  · rw [show allowedGain ceiling peak = 1 from if_pos hpeak]
    exact allowedGain_le_one h
  · have hhigher : ¬ higher ≤ ceiling := fun hkeeps => hpeak (hle.trans hkeeps)
    rw [not_le] at hpeak
    rw [allowedGain, allowedGain, if_neg hhigher, if_neg (not_le.mpr hpeak)]
    exact div_le_div_of_nonneg_left h.le (h.trans hpeak) hle

theorem mul_le_ceiling (h : 0 < ceiling) (hpeak : 0 ≤ peak) {gain : ℚ}
    (hgain : gain ≤ allowedGain ceiling peak) : peak * gain ≤ ceiling := by
  refine (mul_le_mul_of_nonneg_left hgain hpeak).trans ?_
  unfold allowedGain
  split
  · rename_i hkeeps
    rwa [mul_one]
  · rename_i hover
    have hpos : 0 < peak := h.trans (not_le.mp hover)
    rw [mul_div_cancel₀ _ hpos.ne']

theorem safeGainForPeak_eq (rounding : Rounding ℚ) (h : 0 < ceiling) :
    safeGainForPeak rounding ceiling peak = allowedGain ceiling peak := by
  unfold safeGainForPeak allowedGain
  split
  · exact rat_one
  · rename_i hover
    have hpos : 0 < peak := h.trans (not_le.mp hover)
    cases rounding.fuel with
    | zero => rfl
    | succ fuel =>
      rw [lowerGain, if_neg]
      rw [mul_div_cancel₀ _ hpos.ne']
      exact lt_irrefl ceiling

end

/-! ## The loop -/

/-- A gain, and a step by which it recovers until it is one. -/
structure Recovering (gain releaseStep : ℚ) : Prop where
  pos : 0 < gain
  le_one : gain ≤ 1
  releasing : gain < 1 → 0 < releaseStep
  resting : gain = 1 → releaseStep = 0
  step_le_one : releaseStep ≤ 1

/-- **The invariant of the loop**: the gain is at most what the frames to come allow. -/
structure Planned (ceiling : ℚ) (frames : List (ℚ × ℚ)) (loop : LimiterLoop ℚ) : Prop where
  recovering : Recovering loop.gain loop.releaseStep
  allowed : loop.gain ≤ allowedGain ceiling (suffixPeak frames)
  unclamped : loop.next.fallbackClampCount = 0

/-- A sample frame is its frame under one gain, and keeps the ceiling. -/
def ScaledFrame (ceiling : ℚ) (frame sample : ℚ × ℚ) : Prop :=
  ∃ gain, (0 < gain ∧ gain ≤ 1) ∧ sample = (frame.1 * gain, frame.2 * gain) ∧
    |sample.1| ≤ ceiling ∧ |sample.2| ≤ ceiling

/-- No frame attacks: none allows less than the gain that it meets. -/
def NeverAttacks (rounding : Rounding ℚ) (ceiling : ℚ) : LimiterLoop ℚ → List (ℚ × ℚ) → Prop
  | _, [] => True
  | loop, frame :: rest =>
    ¬ safeGainForPeak rounding ceiling (framePeak frame) < loop.gain ∧
      NeverAttacks rounding ceiling (limitFrame rounding ceiling loop frame rest).2 rest

theorem framePeak_eq (frame : ℚ × ℚ) : framePeak frame = max |frame.1| |frame.2| := by
  rw [framePeak, rat_finiteSample, rat_finiteSample, rat_fabs, rat_fabs, rat_fmax]

theorem framePeak_nonneg (frame : ℚ × ℚ) : 0 ≤ framePeak frame := by
  rw [framePeak_eq]
  exact (abs_nonneg _).trans (le_max_left _ _)

theorem suffixPeak_cons (frame : ℚ × ℚ) (rest : List (ℚ × ℚ)) :
    suffixPeak (frame :: rest) = max (suffixPeak rest) (framePeak frame) := rat_fmax _ _

theorem Recovering.step_nonneg {gain releaseStep : ℚ} (h : Recovering gain releaseStep) :
    0 ≤ releaseStep := by
  obtain hlt | hone := h.le_one.lt_or_eq
  · exact (h.releasing hlt).le
  · exact (h.resting hone).ge

theorem Recovering.recover {gain releaseStep nextGain : ℚ} (h : Recovering gain releaseStep)
    (hle : gain ≤ nextGain) (hone : nextGain ≤ 1) :
    Recovering nextGain (if nextGain == 1.0 then 0.0 else releaseStep) := by
  rw [rat_zero, rat_one]
  by_cases hrested : nextGain = 1
  · rw [if_pos (beq_iff_eq.mpr hrested)]
    exact ⟨h.pos.trans_le hle, hone, fun hlt => absurd hrested hlt.ne, fun _ => rfl, zero_le_one⟩
  · rw [if_neg fun hone => hrested (beq_iff_eq.mp hone)]
    have hlt : gain < 1 := hle.trans_lt (lt_of_le_of_ne hone hrested)
    exact ⟨h.pos.trans_le hle, hone, fun _ => h.releasing hlt, fun hone => absurd hone hrested,
      h.step_le_one⟩

section
variable {rounding : Rounding ℚ} {ceiling : ℚ} {sampleRateHz : UInt32} {releaseMs : ℚ}
variable {frame : ℚ × ℚ} {rest : List (ℚ × ℚ)} {loop : LimiterLoop ℚ}

theorem Planned.of_frame (h : Planned ceiling (frame :: rest) loop) (hceiling : 0 < ceiling) :
    loop.gain ≤ allowedGain ceiling (framePeak frame) := by
  refine h.allowed.trans (allowedGain_anti hceiling ?_)
  rw [suffixPeak_cons]
  exact le_max_right _ _

theorem Planned.of_rest (h : Planned ceiling (frame :: rest) loop) (hceiling : 0 < ceiling) :
    loop.gain ≤ allowedGain ceiling (suffixPeak rest) := by
  refine h.allowed.trans (allowedGain_anti hceiling ?_)
  rw [suffixPeak_cons]
  exact le_max_left _ _

theorem limitSample_unclamped {gain sample : ℚ} (h : |sample * gain| ≤ ceiling)
    (next : V1LinkedStereoBlockLimiterTelemetry ℚ) :
    (limitSample ceiling gain sample next).1 = sample * gain ∧
      (limitSample ceiling gain sample next).2.1.fallbackClampCount = next.fallbackClampCount ∧
      (limitSample ceiling gain sample next).2.1.attackCount = next.attackCount := by
  simp only [limitSample, rat_finiteSample, rat_clamp _ h, bne_self_eq_false, Bool.false_eq_true,
    if_false]
  exact ⟨trivial, UInt64.add_zero _, trivial⟩

theorem recoverGain_bounds (rounding : Rounding ℚ) (releaseStep : ℚ) (hceiling : 0 < ceiling)
    {gain peak : ℚ} (hallowed : gain ≤ allowedGain ceiling peak) :
    gain ≤ recoverGain rounding ceiling gain releaseStep peak ∧
      recoverGain rounding ceiling gain releaseStep peak ≤ allowedGain ceiling peak := by
  unfold recoverGain
  split
  · rw [rat_fmax, rat_fmin, safeGainForPeak_eq rounding hceiling]
    exact ⟨le_max_left _ _, max_le hallowed (min_le_left _ _)⟩
  · exact ⟨le_refl gain, hallowed⟩

theorem Planned.not_attacked (h : Planned ceiling (frame :: rest) loop) (hceiling : 0 < ceiling) :
    ¬ safeGainForPeak rounding ceiling (framePeak frame) < loop.gain := by
  rw [safeGainForPeak_eq rounding hceiling]
  exact not_lt.mpr (h.of_frame hceiling)

theorem Planned.keeps_ceiling (h : Planned ceiling (frame :: rest) loop) (hceiling : 0 < ceiling)
    {sample : ℚ} (hle : |sample| ≤ framePeak frame) : |sample * loop.gain| ≤ ceiling := by
  have hpeak := mul_le_ceiling hceiling (framePeak_nonneg frame) (h.of_frame hceiling)
  rw [abs_mul, abs_of_pos h.recovering.pos]
  exact (mul_le_mul_of_nonneg_right hle h.recovering.pos.le).trans hpeak

theorem Planned.limitFrame_samples (h : Planned ceiling (frame :: rest) loop) (hceiling : 0 < ceiling)
    (rounding : Rounding ℚ) :
    ((limitFrame rounding ceiling loop frame rest).1 = (frame.1 * loop.gain, frame.2 * loop.gain) ∧
        |frame.1 * loop.gain| ≤ ceiling ∧ |frame.2 * loop.gain| ≤ ceiling) ∧
      (limitFrame rounding ceiling loop frame rest).2.next.fallbackClampCount =
        loop.next.fallbackClampCount ∧
      (limitFrame rounding ceiling loop frame rest).2.next.attackCount = loop.next.attackCount := by
  have hleft : |frame.1 * loop.gain| ≤ ceiling :=
    h.keeps_ceiling hceiling (by rw [framePeak_eq]; exact le_max_left _ _)
  have hright : |frame.2 * loop.gain| ≤ ceiling :=
    h.keeps_ceiling hceiling (by rw [framePeak_eq]; exact le_max_right _ _)
  obtain ⟨hleft₁, hleft₂, hleft₃⟩ := limitSample_unclamped hleft
    { loop.next with
      minimumGain := fmin loop.next.minimumGain loop.gain
      lastGain := loop.gain }
  obtain ⟨hright₁, hright₂, hright₃⟩ := limitSample_unclamped hright
    (limitSample ceiling loop.gain frame.1
      { loop.next with
        minimumGain := fmin loop.next.minimumGain loop.gain
        lastGain := loop.gain }).2.1
  exact ⟨⟨Prod.ext hleft₁ hright₁, hleft, hright⟩, hright₂.trans hleft₂, hright₃.trans hleft₃⟩

theorem Planned.limitFrame (h : Planned ceiling (frame :: rest) loop) (hceiling : 0 < ceiling)
    (rounding : Rounding ℚ) :
    ScaledFrame ceiling frame (limitFrame rounding ceiling loop frame rest).1 ∧
      Planned ceiling rest (limitFrame rounding ceiling loop frame rest).2 ∧
      (limitFrame rounding ceiling loop frame rest).2.next.attackCount = loop.next.attackCount := by
  obtain ⟨⟨hsamples, hleft, hright⟩, hclamps, hattacks⟩ := h.limitFrame_samples hceiling rounding
  obtain ⟨hle, hallowed⟩ := recoverGain_bounds rounding loop.releaseStep hceiling
    (h.of_rest hceiling)
  refine ⟨⟨loop.gain, ⟨h.recovering.pos, h.recovering.le_one⟩, hsamples, ?_, ?_⟩,
    ⟨?_, hallowed, ?_⟩, hattacks⟩
  · rwa [hsamples]
  · rwa [hsamples]
  · exact h.recovering.recover hle (hallowed.trans (allowedGain_le_one hceiling))
  · exact hclamps.trans h.unclamped

theorem limitFrames_planned (rounding : Rounding ℚ) (sampleRateHz : UInt32) (releaseMs : ℚ)
    (hceiling : 0 < ceiling) {frames : List (ℚ × ℚ)} (h : Planned ceiling frames loop) :
    NeverAttacks rounding ceiling loop frames ∧
      ∃ samples loop', limitFrames rounding ceiling sampleRateHz releaseMs loop frames =
          (samples, some loop') ∧
        List.Forall₂ (ScaledFrame ceiling) frames samples ∧ Planned ceiling [] loop' ∧
        loop'.next.attackCount = loop.next.attackCount := by
  induction frames generalizing loop with
  | nil => exact ⟨trivial, [], loop, rfl, .nil, h, rfl⟩
  | cons frame rest ih =>
    have hnone : ¬ safeGainForPeak rounding ceiling (framePeak frame) < loop.gain :=
      h.not_attacked hceiling
    obtain ⟨hscaled, hplanned, hcount⟩ := h.limitFrame hceiling rounding
    obtain ⟨hnever, samples, loop', hlimit, hsamples, hend, hcount'⟩ := ih hplanned
    refine ⟨⟨hnone, hnever⟩, _ :: samples, loop', ?_, .cons hscaled hsamples, hend,
      hcount'.trans hcount⟩
    rw [limitFrames, attackFrame, if_neg hnone]
    dsimp only
    rw [hlimit]

end

/-! ## A block -/

theorem measured (ceiling : ℚ) (frames : List (ℚ × ℚ))
    {next : V1LinkedStereoBlockLimiterTelemetry ℚ} (h : 0 ≤ next.blockPeak) :
    (frames.foldl (measureFrame ceiling) next).blockPeak = max next.blockPeak (suffixPeak frames) ∧
      (frames.foldl (measureFrame ceiling) next).fallbackClampCount = next.fallbackClampCount ∧
      (frames.foldl (measureFrame ceiling) next).attackCount = next.attackCount := by
  induction frames generalizing next with
  | nil => exact ⟨(max_eq_left (rat_zero.trans_le h)).symm, rfl, rfl⟩
  | cons frame rest ih =>
    have hmeasured : (measureFrame ceiling next frame).blockPeak =
        max next.blockPeak (framePeak frame) := rat_fmax _ _
    have hnonneg : 0 ≤ (measureFrame ceiling next frame).blockPeak := by
      rw [hmeasured]
      exact h.trans (le_max_left _ _)
    obtain ⟨hpeak, hclamps, hattacks⟩ := ih hnonneg
    refine ⟨?_, hclamps, hattacks⟩
    rw [List.foldl_cons, hpeak, hmeasured, suffixPeak_cons, max_assoc,
      max_comm (framePeak frame)]

theorem suffixPeak_nonneg (frames : List (ℚ × ℚ)) : 0 ≤ suffixPeak frames := by
  cases frames with
  | nil => exact rat_zero.ge
  | cons frame rest =>
    rw [suffixPeak_cons]
    exact (framePeak_nonneg frame).trans (le_max_right _ _)

theorem computeReleaseStep_some {attackedGain releaseMs releaseStep : ℚ} {sampleRateHz : UInt32}
    (h : computeReleaseStep attackedGain sampleRateHz releaseMs = some releaseStep) :
    0 < releaseStep ∧ releaseStep ≤ 1 := by
  unfold computeReleaseStep at h
  dsimp only at h
  split at h
  · cases h
  · rename_i hkept
    cases h
    simp only [Bool.or_eq_true, decide_eq_true_eq, not_or, not_le, not_lt, gt_iff_lt] at hkept
    exact ⟨rat_zero.symm.trans_lt hkept.1.2, hkept.2.trans_eq rat_one⟩

theorem Recovering.not_refused {state : V1LinkedStereoBlockLimiterState ℚ}
    (h : Recovering state.gain state.releaseStep) : stateRefused state = false := by
  have hgain : isUnitScalar state.gain = true := by
    simp only [isUnitScalar, rat_zero, rat_one]
    simp [FloatArith.isFinite, h.pos.le, h.le_one]
  have hstep : isUnitScalar state.releaseStep = true := by
    simp only [isUnitScalar, rat_zero, rat_one]
    simp [FloatArith.isFinite, h.step_nonneg, h.step_le_one]
  simp only [stateRefused, hgain, hstep, rat_zero, rat_one]
  obtain hlt | hone := h.le_one.lt_or_eq
  · simp [not_le.mpr (h.releasing hlt), hlt.ne]
  · simp [hone, h.resting hone]

section
variable {rounding : Rounding ℚ} {ceiling : ℚ} {sampleRateHz : UInt32} {releaseMs : ℚ}
variable {frames : List (ℚ × ℚ)} {state : V1LinkedStereoBlockLimiterState ℚ}

theorem attackBlock_planned (h : Recovering state.gain state.releaseStep) (hceiling : 0 < ceiling)
    {next : V1LinkedStereoBlockLimiterTelemetry ℚ} (hpeak : next.blockPeak = suffixPeak frames)
    (hclamps : next.fallbackClampCount = 0) {loop : LimiterLoop ℚ}
    (hattack : attackBlock rounding ceiling sampleRateHz releaseMs state next = some loop) :
    Planned ceiling frames loop ∧ loop.next.attackCount =
      next.attackCount + if allowedGain ceiling (suffixPeak frames) < state.gain then 1 else 0 := by
  simp only [attackBlock, hpeak, safeGainForPeak_eq rounding hceiling] at hattack
  split at hattack
  · rename_i hover
    simp only [Option.map_eq_some_iff] at hattack
    obtain ⟨releaseStep, hstep, rfl⟩ := hattack
    obtain ⟨hpos, hone⟩ := computeReleaseStep_some hstep
    have hlt := hover.trans_le h.le_one
    refine ⟨⟨⟨allowedGain_pos hceiling, hlt.le, fun _ => hpos, fun heq => absurd heq hlt.ne, hone⟩,
      le_refl _, hclamps⟩, ?_⟩
    rw [if_pos hover]
  · rename_i hkept
    cases hattack
    refine ⟨⟨h, not_lt.mp hkept, hclamps⟩, ?_⟩
    rw [if_neg hkept]
    exact (UInt32.add_zero _).symm

theorem enterBlock_planned (h : Recovering state.gain state.releaseStep) {loop : LimiterLoop ℚ}
    (henter : enterBlock rounding ceiling sampleRateHz releaseMs frames state = some loop) :
    0 < ceiling ∧ Planned ceiling frames loop ∧ loop.next.attackCount =
      if allowedGain ceiling (suffixPeak frames) < state.gain then 1 else 0 := by
  unfold enterBlock at henter
  split at henter
  · cases henter
  rename_i hguard
  have hceiling : 0 < ceiling := by
    simp only [argumentsRefused, rat_zero, Bool.or_eq_true, decide_eq_true_eq, not_or, not_le] at hguard
    exact hguard.1.1.1.1.1.2
  obtain ⟨hpeak, hclamps, hattacks⟩ := measured ceiling frames
    (show 0 ≤ V1LinkedStereoBlockLimiterTelemetry.empty.blockPeak from rat_zero.ge)
  have hblock : max V1LinkedStereoBlockLimiterTelemetry.empty.blockPeak (suffixPeak frames) =
      suffixPeak frames := max_eq_right (rat_zero.trans_le (suffixPeak_nonneg frames))
  rw [hblock] at hpeak
  simp only [Option.map_eq_some_iff] at henter
  obtain ⟨attacked, hattack, rfl⟩ := henter
  obtain ⟨hplanned, hcount⟩ := attackBlock_planned h hceiling hpeak hclamps hattack
  rw [hattacks] at hcount
  exact ⟨hceiling, ⟨hplanned.recovering, hplanned.allowed, hplanned.unclamped⟩,
    hcount.trans (UInt32.zero_add _)⟩

theorem enterBlock_none (other : V1LinkedStereoBlockLimiterState ℚ) (hle : state.gain ≤ other.gain)
    (h : Recovering state.gain state.releaseStep)
    (henter : enterBlock rounding ceiling sampleRateHz releaseMs frames state = none) :
    enterBlock rounding ceiling sampleRateHz releaseMs frames other = none := by
  unfold enterBlock at henter ⊢
  rw [h.not_refused, Bool.or_false] at henter
  split at henter
  · rename_i hrefused
    rw [if_pos (by rw [hrefused]; rfl)]
  · split
    · rfl
    rw [Option.map_eq_none_iff] at henter ⊢
    unfold attackBlock at henter ⊢
    dsimp only at henter ⊢
    split at henter
    · rename_i hover
      rw [if_pos (hover.trans_le hle)]
      rw [Option.map_eq_none_iff] at henter ⊢
      exact henter
    · cases henter

theorem processV1LinkedStereoBlock_limited (h : Recovering state.gain state.releaseStep)
    (telemetry : V1LinkedStereoBlockLimiterTelemetry ℚ) :
    let r := processV1LinkedStereoBlock rounding ceiling sampleRateHz releaseMs frames state telemetry
    Recovering r.state.gain r.state.releaseStep ∧
      (r.accepted = false → (r.samples = frames ∧ r.state = state ∧ r.telemetry = telemetry) ∧
        enterBlock rounding ceiling sampleRateHz releaseMs frames state = none) ∧
      (r.accepted = true → List.Forall₂ (ScaledFrame ceiling) frames r.samples ∧
        r.telemetry.fallbackClampCount = 0 ∧ r.telemetry.attackCount =
          if allowedGain ceiling (suffixPeak frames) < state.gain then 1 else 0) := by
  intro r
  simp only [r, processV1LinkedStereoBlock]
  rcases henter : enterBlock rounding ceiling sampleRateHz releaseMs frames state with _ | loop
  · exact ⟨h, fun _ => ⟨⟨rfl, rfl, rfl⟩, rfl⟩, fun haccepted => by cases haccepted⟩
  · obtain ⟨hceiling, hplanned, hcount⟩ := enterBlock_planned h henter
    obtain ⟨-, samples, loop', hlimit, hsamples, hend, hcount'⟩ :=
      limitFrames_planned rounding sampleRateHz releaseMs hceiling hplanned
    simp only [hlimit]
    exact ⟨hend.recovering, fun hrefused => (by cases hrefused),
      fun _ => ⟨hsamples, hend.unclamped, hcount'.trans hcount⟩⟩

end

/-! ## Sequences of blocks -/

section
variable {F : Type} [FloatArith F] (rounding : Rounding F) (ceiling : F) (sampleRateHz : UInt32)
variable (releaseMs : F)

/-- The state and the telemetry of the caller between two blocks. -/
structure LimiterSession (F : Type) where
  state : V1LinkedStereoBlockLimiterState F
  telemetry : V1LinkedStereoBlockLimiterTelemetry F

def LimiterSession.reset : LimiterSession F where
  state := .reset
  telemetry := .empty

/-- The limiter over blocks, with one ceiling, sample rate and release time. -/
def limiter : Reducer (LimiterSession F) (List (F × F)) (LimiterResult F) where
  step s frames :=
    let r := processV1LinkedStereoBlock rounding ceiling sampleRateHz releaseMs frames s.state
      s.telemetry
    (r, { state := r.state, telemetry := r.telemetry })

end

section
variable {rounding : Rounding ℚ} {ceiling : ℚ} {sampleRateHz : UInt32} {releaseMs : ℚ}

theorem recovering_after (blocks : List (List (ℚ × ℚ))) :
    let s := (limiter rounding ceiling sampleRateHz releaseMs).after .reset blocks
    Recovering s.state.gain s.state.releaseStep := by
  intro s
  refine Reducer.after_inv (P := fun s : LimiterSession ℚ => Recovering s.state.gain s.state.releaseStep)
    (Q := fun _ _ => True) ?_ ?_ (Reducer.along_of_forall (fun _ _ => trivial) _ blocks)
  · intro s frames h _
    exact (processV1LinkedStereoBlock_limited h s.telemetry).1
  · have hone : (LimiterSession.reset : LimiterSession ℚ).state.gain = 1 := rat_one
    have hzero : (LimiterSession.reset : LimiterSession ℚ).state.releaseStep = 0 := rat_zero
    rw [hone, hzero]
    exact ⟨one_pos, le_refl 1, fun hlt => absurd hlt (lt_irrefl 1), fun _ => rfl, zero_le_one⟩

end

/-- **The limiter over every sequence of blocks**: its state passes the guard; a block that is
    refused is refused in the reset state too, and changes nothing; in a block that is accepted
    every frame keeps the ceiling under one gain, without the clamp; and no frame attacks. -/
theorem limiter_laws (rounding : Rounding ℚ) (ceiling : ℚ) (sampleRateHz : UInt32) (releaseMs : ℚ)
    (blocks : List (List (ℚ × ℚ))) (frames : List (ℚ × ℚ)) :
    let m := limiter rounding ceiling sampleRateHz releaseMs
    let s := m.after .reset blocks
    let r := m.out s frames
    (Recovering s.state.gain s.state.releaseStep ∧ stateRefused s.state = false) ∧
      (r.accepted = false →
        (r.samples = frames ∧ r.state = s.state ∧ r.telemetry = s.telemetry) ∧
          (m.out .reset frames).accepted = false) ∧
      (r.accepted = true → List.Forall₂ (ScaledFrame ceiling) frames r.samples ∧
        r.telemetry.fallbackClampCount = 0 ∧ r.telemetry.attackCount =
          if allowedGain ceiling (suffixPeak frames) < s.state.gain then 1 else 0) ∧
      ∀ loop, enterBlock rounding ceiling sampleRateHz releaseMs frames s.state = some loop →
        NeverAttacks rounding ceiling loop frames := by
  intro m s r
  have h : Recovering s.state.gain s.state.releaseStep := recovering_after blocks
  obtain ⟨-, hrefused, haccepted⟩ := processV1LinkedStereoBlock_limited h s.telemetry
  refine ⟨⟨h, h.not_refused⟩, fun hfalse => ?_, haccepted, fun loop henter => ?_⟩
  · obtain ⟨hkept, hnone⟩ := hrefused hfalse
    have hreset := enterBlock_none LimiterSession.reset.state
      (h.le_one.trans_eq rat_one.symm) h hnone
    refine ⟨hkept, ?_⟩
    show (processV1LinkedStereoBlock rounding ceiling sampleRateHz releaseMs frames _ _).accepted = false
    rw [processV1LinkedStereoBlock, hreset]
  · obtain ⟨hceiling, hplanned, -⟩ := enterBlock_planned h henter
    exact (limitFrames_planned rounding sampleRateHz releaseMs hceiling hplanned).1

/-- The second frame waits at the gain that the third allows. -/
example : (processV1LinkedStereoBlock ⟨id, 0⟩ (1 / 4) 48000 50 [(1, -1 / 2), (1 / 10, 0), (-1, 1 / 4)]
    .reset .empty).samples = [(1 / 4, -1 / 8), (1 / 40, 0), (-1 / 4, (1 / 16 : ℚ))] := by
  decide +kernel

end NativeLdac.Agent
