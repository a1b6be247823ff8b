/-
  The fade-in of a session over whole runs of its calls (`agent/v1_sent_frame_fade_envelope.cpp`).

  * `fade`, the machine of the four calls, which remembers the blocks committed since Begin;
  * `committedFrames_eq`: the frames counted are those of the blocks committed since Begin;
  * `revision_after`: the revision counts the calls of Begin and End, and comes round;
  * `committed_faded`: the faded samples of the blocks committed are those of their frames as
    one stream, however it was split.
-/
import NativeLdac.Agent.PcmReport
import NativeLdac.Agent.SentFrameFade
import NativeLdac.Lib.Reducer

namespace NativeLdac.Agent

open Engine Engine.FloatArith

variable {F : Type} [FloatArith F] {actualSentFrames : UInt64}

/-! ## The calls -/

/-- The samples of a block of frames. -/
def interleave (frames : List (F × F)) : PcmBlock F := frames.flatMap fun frame => [frame.1, frame.2]

structure PreparedBlock (F : Type) where
  frames : List (F × F)
  faded : PcmBlock F
  block : V1SentFrameFadeBlock
deriving DecidableEq

/-- A commit, whose count of frames is a `std::size_t`. -/
def V1SentFrameFadeState.commitSent (state : V1SentFrameFadeState) (block : V1SentFrameFadeBlock)
    (actualSentFrames : UInt64) : Option V1SentFrameFadeState :=
  if actualSentFrames.toUInt32.toUInt64 = actualSentFrames then
    state.commitBlock block actualSentFrames.toUInt32
  else none

inductive FadeCall (F : Type) where
  | begin_ (sessionGeneration : UInt64)
  | end_
  | prepare (frames : List (F × F)) (sampleRateHz : UInt32) (fadeDurationMs : F)
  | commit (prepared : PreparedBlock F) (actualSentFrames : UInt64)

inductive FadeAnswer (F : Type) where
  | returned (accepted : Bool)
  | prepared (block : Option (PreparedBlock F))

/-- The envelope, and the blocks committed since the last Begin. -/
structure FadeSession (F : Type) where
  state : V1SentFrameFadeState := {}
  committed : List (PreparedBlock F) := []

def V1SentFrameFadeState.prepared (state : V1SentFrameFadeState) (frames : List (F × F))
    (sampleRateHz : UInt32) (fadeDurationMs : F) : Option (PreparedBlock F) :=
  (state.prepareBlock (interleave frames) frames.length sampleRateHz fadeDurationMs).map fun r =>
    { frames := frames, faded := r.1, block := r.2.1 }

def fade : Reducer (FadeSession F) (FadeCall F) (FadeAnswer F) where
  step s
    | .begin_ sessionGeneration =>
      match s.state.beginSession sessionGeneration with
      | none => (.returned false, s)
      | some state => (.returned true, { state := state, committed := [] })
    | .end_ => (.returned true, { s with state := s.state.endSession })
    | .prepare frames sampleRateHz fadeDurationMs =>
      (.prepared (s.state.prepared frames sampleRateHz fadeDurationMs), s)
    | .commit prepared actualSentFrames =>
      match s.state.commitSent prepared.block actualSentFrames with
      | none => (.returned false, s)
      | some state => (.returned true, { state := state, committed := s.committed ++ [prepared] })

def frameTotal (blocks : List (PreparedBlock F)) : Nat :=
  (blocks.map fun prepared => prepared.block.frameCount.toNat).sum

/-- The call is a Begin that is accepted, or an End. -/
def Rotates (_ : FadeSession F) : FadeCall F → Bool
  | .begin_ sessionGeneration => sessionGeneration ≠ 0
  | .end_ => true
  | _ => false

/-! ## One call -/

theorem commitSent_some {state state' : V1SentFrameFadeState} {block : V1SentFrameFadeBlock}
    (h : state.commitSent block actualSentFrames = some state') :
    state.active ∧ block.revision = state.revision ∧
      block.startingSentFrame = state.committedSentFrames ∧ 0 < block.frameCount.toNat ∧
      state.committedSentFrames.toNat + block.frameCount.toNat < 2 ^ 64 ∧
      state' = { state with
        committedSentFrames := state.committedSentFrames + block.frameCount.toUInt64 } := by
  unfold V1SentFrameFadeState.commitSent V1SentFrameFadeState.commitBlock at h
  split at h
  swap
  · cases h
  split at h
  · cases h
  rename_i hrefused
  simp only [not_or, Bool.not_eq_false, ne_eq, not_not] at hrefused
  obtain ⟨hactive, -, hrevision, hstart, hcount, -, hactual, hroom⟩ := hrefused
  cases h
  rw [hactual] at hroom ⊢
  refine ⟨hactive, hrevision, hstart, ?_, ?_, rfl⟩
  · rw [Nat.pos_iff_ne_zero]
    exact fun hzero => hcount (UInt32.toNat_inj.mp hzero)
  · have hsmall := block.frameCount.toNat_lt
    have hmax : block.frameCount.toUInt64 ≤ uint64Max := by
      rw [UInt64.le_iff_toNat_le, UInt32.toNat_toUInt64]
      exact Nat.le_trans hsmall.le (by decide)
    rw [gt_iff_lt, UInt64.not_lt, UInt64.le_iff_toNat_le, UInt64.toNat_sub_of_le _ _ hmax,
      UInt32.toNat_toUInt64] at hroom
    have hvalue : uint64Max.toNat = 2 ^ 64 - 1 := rfl
    omega

/-- What a call does to the envelope and to the blocks committed. -/
inductive FadeEffect (s : FadeSession F) : FadeCall F → FadeAnswer F × FadeSession F → Prop
  | refused {call} : Rotates s call = false → FadeEffect s call (.returned false, s)
  | began {sessionGeneration} : sessionGeneration ≠ 0 →
      FadeEffect s (.begin_ sessionGeneration) (.returned true,
        { state :=
            { sessionGeneration := sessionGeneration
              committedSentFrames := 0
              revision := nextRevision s.state.revision
              active := true }
          committed := [] })
  | ended : FadeEffect s .end_ (.returned true,
      { s with state :=
        { s.state with revision := nextRevision s.state.revision, active := false } })
  | prepared {frames sampleRateHz fadeDurationMs} :
      FadeEffect s (.prepare frames sampleRateHz fadeDurationMs)
        (.prepared (s.state.prepared frames sampleRateHz fadeDurationMs), s)
  | committed {prepared actualSentFrames} : s.state.active →
      prepared.block.revision = s.state.revision →
      prepared.block.startingSentFrame = s.state.committedSentFrames →
      0 < prepared.block.frameCount.toNat →
      s.state.committedSentFrames.toNat + prepared.block.frameCount.toNat < 2 ^ 64 →
      FadeEffect s (.commit prepared actualSentFrames) (.returned true,
        { state :=
            { s.state with committedSentFrames :=
              s.state.committedSentFrames + prepared.block.frameCount.toUInt64 }
          committed := s.committed ++ [prepared] })

theorem fade_effect (s : FadeSession F) (call : FadeCall F) : FadeEffect s call (fade.step s call) := by
  cases call with
  | begin_ sessionGeneration =>
    simp only [fade, V1SentFrameFadeState.beginSession]
    by_cases hzero : sessionGeneration = 0
    · simp only [hzero, if_true]
      exact .refused rfl
    · simp only [hzero, if_false]
      exact .began hzero
  | end_ => exact .ended
  | prepare frames sampleRateHz fadeDurationMs => exact .prepared
  | commit prepared actualSentFrames =>
    simp only [fade]
    rcases hcommit : s.state.commitSent prepared.block actualSentFrames with _ | state'
    · exact .refused rfl
    · obtain ⟨hactive, hrevision, hstart, hcount, hroom, rfl⟩ := commitSent_some hcommit
      exact .committed hactive hrevision hstart hcount hroom

/-! ## The frames that are counted -/

/-- The frames counted are those of the blocks committed, one after the other. -/
structure Counted (s : FadeSession F) : Prop where
  total : s.state.committedSentFrames.toNat = frameTotal s.committed
  revision : s.state.active → 1 ≤ s.state.revision.toNat

theorem nextRevision_toNat (revision : UInt64) :
    (nextRevision revision).toNat = revision.toNat % (2 ^ 64 - 1) + 1 := by
  have hlt := revision.toNat_lt
  have hvalue : uint64Max.toNat = 2 ^ 64 - 1 := rfl
  unfold nextRevision
  split
  · rename_i hmax
    rw [hmax, hvalue]
    rfl
  · rename_i hmax
    rw [← UInt64.toNat_inj, hvalue] at hmax
    rw [UInt64.toNat_add, UInt64.toNat_one]
    omega

omit [FloatArith F] in
theorem frameTotal_snoc (blocks : List (PreparedBlock F)) (prepared : PreparedBlock F) :
    frameTotal (blocks ++ [prepared]) = frameTotal blocks + prepared.block.frameCount.toNat := by
  simp [frameTotal]

section
variable {s : FadeSession F} {call : FadeCall F} {r : FadeAnswer F × FadeSession F}

theorem toNat_advanced {start : UInt64} {count : UInt32} (h : start.toNat + count.toNat < 2 ^ 64) :
    (start + count.toUInt64).toNat = start.toNat + count.toNat := by
  rw [UInt64.toNat_add, UInt32.toNat_toUInt64, Nat.mod_eq_of_lt h]

theorem FadeEffect.counted (heffect : FadeEffect s call r) (h : Counted s) : Counted r.2 := by
  cases heffect with
  | refused => exact h
  | prepared => exact h
  | began => exact ⟨rfl, fun _ => by simp [nextRevision_toNat]⟩
  | ended => exact ⟨h.total, fun _ => by simp [nextRevision_toNat]⟩
  | committed _ _ _ _ hroom =>
    refine ⟨?_, h.revision⟩
    rw [frameTotal_snoc, ← h.total]
    exact toNat_advanced hroom

theorem counted_after (calls : List (FadeCall F)) : Counted (fade.after {} calls) :=
  Reducer.after_inv (P := Counted) (Q := fun _ _ => True)
    (fun s call h _ => (fade_effect s call).counted h) ⟨rfl, fun h => by cases h⟩
    (Reducer.along_of_forall (fun _ _ => trivial) _ calls)

/-! ## Stale blocks -/

theorem revision_after {s : FadeSession F} (h : 1 ≤ s.state.revision.toNat)
    (calls : List (FadeCall F)) :
    (fade.after s calls).state.revision.toNat =
      (s.state.revision.toNat - 1 + fade.count Rotates s calls) % (2 ^ 64 - 1) + 1 := by
  induction calls generalizing s with
  | nil =>
    have hlt := s.state.revision.toNat_lt
    simp only [Reducer.after, Reducer.count]
    omega
  | cons call calls ih =>
    have hnext : (fade.next s call).state.revision.toNat =
        if Rotates s call then s.state.revision.toNat % (2 ^ 64 - 1) + 1
        else s.state.revision.toNat := by
      have heffect := fade_effect s call
      unfold Reducer.next
      generalize fade.step s call = r at heffect
      cases heffect with
      | refused hrotates => rw [hrotates]; rfl
      | prepared => rfl
      | committed => rfl
      | began hgeneration =>
        rw [if_pos (by simp [Rotates, hgeneration])]
        exact nextRevision_toNat _
      | ended => exact nextRevision_toNat _
    have hpos : 1 ≤ (fade.next s call).state.revision.toNat := by
      rw [hnext]
      split <;> omega
    have hlt := s.state.revision.toNat_lt
    rw [Reducer.after_cons, ih hpos, Reducer.count, hnext]
    cases Rotates s call
    · simp
    · simp only [if_true, Bool.toNat_true]
      omega

theorem committedFrames_le {s : FadeSession F} {calls : List (FadeCall F)}
    (h : fade.Along (fun s call => Rotates s call = false) s calls) :
    s.state.committedSentFrames ≤ (fade.after s calls).state.committedSentFrames := by
  refine Reducer.after_inv (P := fun s' : FadeSession F =>
    s.state.committedSentFrames ≤ s'.state.committedSentFrames) ?_ (UInt64.le_refl _) h
  intro s' call hle hrotates
  have heffect := fade_effect s' call
  unfold Reducer.next
  generalize fade.step s' call = r at heffect
  cases heffect with
  | refused | prepared => exact hle
  | began hgeneration => simp [Rotates, hgeneration] at hrotates
  | ended => cases hrotates
  | committed _ _ _ _ hroom =>
    refine UInt64.le_trans hle ?_
    rw [UInt64.le_iff_toNat_le, toNat_advanced hroom]
    exact Nat.le_add_right _ _

end

/-- The run `before` prepares the block, and after the calls `between` a commit of it is
    accepted. -/
structure CommitsPrepared (before : List (FadeCall F)) (frames : List (F × F))
    (sampleRateHz : UInt32) (fadeDurationMs : F) (between : List (FadeCall F))
    (prepared : PreparedBlock F) (actualSentFrames : UInt64) : Prop where
  prepares : (fade.after {} before).state.prepared frames sampleRateHz fadeDurationMs =
    some prepared
  commits : fade.out (fade.after {} (before ++ .prepare frames sampleRateHz fadeDurationMs :: between))
    (.commit prepared actualSentFrames) = .returned true

/-- Between its Prepare and a commit of it that is accepted, nothing begins or ends a session or
    commits the block. -/
structure CommittedOnce (before : List (FadeCall F)) (between : List (FadeCall F))
    (prepared : PreparedBlock F) : Prop where
  session : fade.count Rotates (fade.after {} before) between = 0
  once : ∀ mid prepared' actualSentFrames rest,
    between = mid ++ .commit prepared' actualSentFrames :: rest →
      prepared'.block = prepared.block →
        fade.out (fade.after (fade.after {} before) mid) (.commit prepared' actualSentFrames) ≠
          .returned true

def fadeDurationFrames (sampleRateHz : UInt32) (fadeDurationMs : F) : UInt64 :=
  toUInt64 (ceil (ofNat sampleRateHz.toNat * fadeDurationMs / 1000.0) : F)

theorem prepared_some {state : V1SentFrameFadeState} {frames : List (F × F)}
    {sampleRateHz : UInt32} {fadeDurationMs : F} {prepared : PreparedBlock F}
    (h : state.prepared frames sampleRateHz fadeDurationMs = some prepared) :
    (state.active ∧ 0 < frames.length ∧ frames.length ≤ v1SentFrameFadeMaximumFrames) ∧
      prepared.frames = frames ∧ prepared.block.startingSentFrame = state.committedSentFrames ∧
      prepared.block.revision = state.revision ∧
      prepared.block.frameCount = frames.length.toUInt32 ∧
      ∃ telemetry, prepared.faded =
        (fadeFrames (fadeDurationFrames sampleRateHz fadeDurationMs)
          prepared.block.startingSentFrame (interleave frames) telemetry).1 := by
  simp only [V1SentFrameFadeState.prepared, Option.map_eq_some_iff] at h
  obtain ⟨r, hr, rfl⟩ := h
  simp only [V1SentFrameFadeState.prepareBlock] at hr
  split at hr
  · cases hr
  rename_i hrefused
  simp only [not_or, Bool.not_eq_false, Nat.not_lt] at hrefused
  cases hr
  exact ⟨⟨hrefused.1, Nat.pos_of_ne_zero hrefused.2.2.1, hrefused.2.2.2.1⟩, rfl, rfl, rfl, rfl, _,
    rfl⟩

theorem out_commit {s : FadeSession F} {prepared : PreparedBlock F}
    (h : fade.out s (.commit prepared actualSentFrames) = .returned true) :
    prepared.block.revision = s.state.revision ∧
      prepared.block.startingSentFrame = s.state.committedSentFrames ∧
      0 < prepared.block.frameCount.toNat ∧
      (fade.next s (.commit prepared actualSentFrames)).state.committedSentFrames.toNat =
        s.state.committedSentFrames.toNat + prepared.block.frameCount.toNat := by
  have heffect := fade_effect s (.commit prepared actualSentFrames)
  unfold Reducer.out at h
  unfold Reducer.next
  generalize fade.step s (.commit prepared actualSentFrames) = r at heffect h
  cases heffect with
  | refused => cases h
  | committed _ hrevision hstart hcount hroom =>
    exact ⟨hrevision, hstart, hcount, toNat_advanced hroom⟩

theorem committedOnce {before between : List (FadeCall F)} {frames : List (F × F)}
    {sampleRateHz : UInt32} {fadeDurationMs : F} {prepared : PreparedBlock F}
    (h : CommitsPrepared before frames sampleRateHz fadeDurationMs between prepared actualSentFrames)
    (hrotations : fade.count Rotates (fade.after {} before) between < 2 ^ 64 - 1) :
    CommittedOnce before between prepared := by
  obtain ⟨hprepares, hcommits⟩ := h
  obtain ⟨⟨hactive, -⟩, -, hstart, hrevision, -⟩ := prepared_some hprepares
  have hsame : fade.after {} (before ++ .prepare frames sampleRateHz fadeDurationMs :: between) =
      fade.after (fade.after {} before) between := by rw [Reducer.after_append]; rfl
  rw [hsame] at hcommits
  obtain ⟨hrevision', hstart', hcount, -⟩ := out_commit hcommits
  have hpos := (counted_after before).revision hactive
  have hnone : fade.count Rotates (fade.after {} before) between = 0 := by
    have hround := revision_after hpos between
    have hlt := (fade.after {} before).state.revision.toNat_lt
    rw [← hrevision', hrevision] at hround
    omega
  refine ⟨hnone, ?_⟩
  rintro mid prepared' actual' rest rfl hblock hcommitted
  obtain ⟨-, hstart'', -, hnext⟩ := out_commit hcommitted
  have hkept := (Reducer.along_append _ _ _).mp (Reducer.along_of_count_eq_zero hnone)
  have hle := committedFrames_le hkept.2.2
  rw [Reducer.after_append, Reducer.after_cons] at hstart'
  rw [UInt64.le_iff_toNat_le, hnext, ← hstart', ← hstart'', hblock] at hle
  omega

/-! ## The stream of a session -/

/-- The faded samples of frames, from frame `absoluteFrame` of the session on. -/
def fadedSamples (durationFrames : UInt64) : UInt64 → List (F × F) → PcmBlock F
  | _, [] => []
  | absoluteFrame, (left, right) :: frames =>
    fadeSample (fadeGain durationFrames absoluteFrame) left ::
      fadeSample (fadeGain durationFrames absoluteFrame) right ::
        fadedSamples durationFrames (absoluteFrame + 1) frames

theorem fadeFrames_samples (durationFrames absoluteFrame : UInt64) (frames : List (F × F))
    (telemetry : V1SentFrameFadeTelemetry F) :
    (fadeFrames durationFrames absoluteFrame (interleave frames) telemetry).1 =
      fadedSamples durationFrames absoluteFrame frames := by
  induction frames generalizing absoluteFrame telemetry with
  | nil => rfl
  | cons frame frames ih =>
    simp only [interleave, List.flatMap_cons, List.cons_append, List.nil_append, fadeFrames,
      fadedSamples]
    exact congrArg _ (congrArg _ (ih _ _))

theorem fadedSamples_append (durationFrames absoluteFrame : UInt64) (frames frames' : List (F × F)) :
    fadedSamples durationFrames absoluteFrame (frames ++ frames') =
      fadedSamples durationFrames absoluteFrame frames ++
        fadedSamples durationFrames (absoluteFrame + UInt64.ofNat frames.length) frames' := by
  induction frames generalizing absoluteFrame with
  | nil => simp [fadedSamples]
  | cons frame frames ih =>
    have hlength : absoluteFrame + UInt64.ofNat (frame :: frames).length =
        absoluteFrame + 1 + UInt64.ofNat frames.length := by
      rw [List.length_cons, Nat.add_comm, UInt64.ofNat_add, UInt64.add_assoc]
      rfl
    simp only [List.cons_append, fadedSamples, ih, hlength]

/-- The blocks lie one after the other. -/
def PlacedFrom : UInt64 → List (PreparedBlock F) → UInt64 → Prop
  | start, [], stop => start = stop
  | start, prepared :: blocks, stop =>
    prepared.block.startingSentFrame = start ∧
      PlacedFrom (start + prepared.block.frameCount.toUInt64) blocks stop

omit [FloatArith F] in
theorem PlacedFrom.snoc {start stop : UInt64} {blocks : List (PreparedBlock F)}
    (h : PlacedFrom start blocks stop) {prepared : PreparedBlock F}
    (hstart : prepared.block.startingSentFrame = stop) :
    PlacedFrom start (blocks ++ [prepared]) (stop + prepared.block.frameCount.toUInt64) := by
  induction blocks generalizing start with
  | nil => exact ⟨hstart.trans h.symm, by rw [h.symm]; rfl⟩
  | cons first blocks ih => exact ⟨h.1, ih h.2⟩

theorem placed_after (calls : List (FadeCall F)) :
    PlacedFrom 0 (fade.after {} calls).committed (fade.after {} calls).state.committedSentFrames := by
  refine Reducer.after_inv (M := fade)
    (P := fun s : FadeSession F => PlacedFrom 0 s.committed s.state.committedSentFrames)
    (Q := fun _ _ => True) ?_ rfl (Reducer.along_of_forall (fun _ _ => trivial) _ calls)
  intro s call h _
  have heffect := fade_effect s call
  unfold Reducer.next
  generalize fade.step s call = r at heffect
  cases heffect with
  | refused | prepared | ended => exact h
  | began => rfl
  | committed _ _ hstart => exact h.snoc hstart

/-- The block is one that Prepare returns for its frames, with the rate and the duration. -/
def IsPrepared (sampleRateHz : UInt32) (fadeDurationMs : F) (prepared : PreparedBlock F) : Prop :=
  ∃ state : V1SentFrameFadeState,
    state.prepared prepared.frames sampleRateHz fadeDurationMs = some prepared

section
variable {sampleRateHz : UInt32} {fadeDurationMs : F} {prepared : PreparedBlock F}

theorem IsPrepared.frameCount (h : IsPrepared sampleRateHz fadeDurationMs prepared) :
    prepared.block.frameCount.toNat = prepared.frames.length ∧
      prepared.block.frameCount.toUInt64 = UInt64.ofNat prepared.frames.length := by
  obtain ⟨state, hprepares⟩ := h
  obtain ⟨⟨-, -, hlength⟩, -, -, -, hcount, -⟩ := prepared_some hprepares
  have hsmall : prepared.frames.length < 2 ^ 32 := by
    simp only [v1SentFrameFadeMaximumFrames] at hlength
    omega
  have hnat : prepared.block.frameCount.toNat = prepared.frames.length := by
    rw [hcount]
    exact Nat.mod_eq_of_lt hsmall
  refine ⟨hnat, ?_⟩
  rw [← UInt64.toNat_inj, UInt32.toNat_toUInt64, hnat, UInt64.toNat_ofNat', Nat.mod_eq_of_lt]
  omega

theorem placed_faded {start stop : UInt64} {blocks : List (PreparedBlock F)}
    (hplaced : PlacedFrom start blocks stop)
    (hprepared : ∀ prepared ∈ blocks, IsPrepared sampleRateHz fadeDurationMs prepared) :
    blocks.flatMap (·.faded) = fadedSamples (fadeDurationFrames sampleRateHz fadeDurationMs) start
      (blocks.flatMap (·.frames)) := by
  induction blocks generalizing start with
  | nil => rfl
  | cons first blocks ih =>
    have hcount := (hprepared first List.mem_cons_self).frameCount.2
    obtain ⟨state, hprepares⟩ := hprepared first List.mem_cons_self
    obtain ⟨-, -, -, -, -, telemetry, hfaded⟩ := prepared_some hprepares
    have hrest := ih hplaced.2 fun prepared hmem => hprepared prepared (List.mem_cons_of_mem _ hmem)
    rw [List.flatMap_cons, List.flatMap_cons, fadedSamples_append, hrest, hfaded,
      fadeFrames_samples, hplaced.1, hcount]

theorem frameTotal_prepared {blocks : List (PreparedBlock F)}
    (hprepared : ∀ prepared ∈ blocks, IsPrepared sampleRateHz fadeDurationMs prepared) :
    frameTotal blocks = (blocks.flatMap (·.frames)).length := by
  rw [List.length_flatMap]
  refine congrArg List.sum (List.map_congr_left fun prepared hmem => ?_)
  exact (hprepared prepared hmem).frameCount.1

end

theorem state_after {s : FadeSession F} {calls : List (FadeCall F)}
    (h : fade.Along (fun s call => Rotates s call = false) s calls) :
    (fade.after s calls).state =
      { s.state with committedSentFrames := (fade.after s calls).state.committedSentFrames } := by
  refine Reducer.after_inv (M := fade) (P := fun s' : FadeSession F => s'.state =
    { s.state with committedSentFrames := s'.state.committedSentFrames }) ?_ rfl h
  intro s' call hsame hrotates
  have heffect := fade_effect s' call
  unfold Reducer.next
  generalize fade.step s' call = r at heffect
  cases heffect with
  | refused | prepared => exact hsame
  | began hgeneration => simp [Rotates, hgeneration] at hrotates
  | ended => cases hrotates
  | committed => rw [hsame]

/-- A run of one session: after a Begin that is accepted nothing begins or ends a session, and the
    blocks committed are prepared with one rate and one duration. -/
structure OneSession (before : List (FadeCall F)) (sessionGeneration : UInt64)
    (sampleRateHz : UInt32) (fadeDurationMs : F) (calls : List (FadeCall F)) : Prop where
  generation : sessionGeneration ≠ 0
  session : fade.count Rotates (fade.after {} (before ++ [.begin_ sessionGeneration])) calls = 0
  prepared : ∀ prepared ∈
    (fade.after {} (before ++ .begin_ sessionGeneration :: calls)).committed,
      IsPrepared sampleRateHz fadeDurationMs prepared

theorem committed_faded {before calls : List (FadeCall F)} {sessionGeneration : UInt64}
    {sampleRateHz : UInt32} {fadeDurationMs : F}
    (h : OneSession before sessionGeneration sampleRateHz fadeDurationMs calls) :
    let begun := fade.after {} (before ++ [.begin_ sessionGeneration])
    let s := fade.after {} (before ++ .begin_ sessionGeneration :: calls)
    let stream := s.committed.flatMap (·.frames)
    (∀ telemetry, s.committed.flatMap (·.faded) =
        (fadeFrames (fadeDurationFrames sampleRateHz fadeDurationMs) 0 (interleave stream)
          telemetry).1) ∧
      s.state = { begun.state with committedSentFrames := UInt64.ofNat stream.length } := by
  intro begun s stream
  have hrun : s = fade.after begun calls := by
    show fade.after {} (before ++ .begin_ sessionGeneration :: calls) = _
    rw [← Reducer.after_append, List.append_assoc]
    rfl
  refine ⟨fun telemetry => ?_, ?_⟩
  · rw [fadeFrames_samples]
    exact placed_faded (placed_after _) h.prepared
  · have hstate := state_after (Reducer.along_of_count_eq_zero h.session)
    have htotal := (counted_after (before ++ .begin_ sessionGeneration :: calls)).total
    rw [frameTotal_prepared h.prepared] at htotal
    have hcount : s.state.committedSentFrames = UInt64.ofNat stream.length := by
      rw [← UInt64.toNat_inj, UInt64.toNat_ofNat', ← htotal]
      exact (Nat.mod_eq_of_lt s.state.committedSentFrames.toNat_lt).symm
    rw [← hcount, hrun]
    exact hstate

/-! ## The envelope -/

/-- **The fade over every sequence of calls**: the frames counted are those of the blocks committed
    since Begin, a prepared block is committed once and in its session, and the frames committed
    are faded alike however they are split into blocks. -/
theorem sentFrameFade_laws :
    (∀ calls : List (FadeCall F), (fade.after {} calls).state.committedSentFrames.toNat =
      frameTotal (fade.after {} calls).committed) ∧
    (∀ (before : List (FadeCall F)) frames sampleRateHz fadeDurationMs between prepared
        actualSentFrames,
      CommitsPrepared before frames sampleRateHz fadeDurationMs between prepared actualSentFrames →
        fade.count Rotates (fade.after {} before) between < 2 ^ 64 - 1 →
          CommittedOnce before between prepared) ∧
    ∀ (before : List (FadeCall F)) sessionGeneration sampleRateHz fadeDurationMs calls,
      OneSession before sessionGeneration sampleRateHz fadeDurationMs calls →
        let s := fade.after {} (before ++ .begin_ sessionGeneration :: calls)
        let stream := s.committed.flatMap (·.frames)
        (∀ telemetry, s.committed.flatMap (·.faded) =
          (fadeFrames (fadeDurationFrames sampleRateHz fadeDurationMs) 0 (interleave stream)
            telemetry).1) ∧
        ∀ calls', OneSession before sessionGeneration sampleRateHz fadeDurationMs calls' →
          let s' := fade.after {} (before ++ .begin_ sessionGeneration :: calls')
          s'.committed.flatMap (·.frames) = stream →
            s'.committed.flatMap (·.faded) = s.committed.flatMap (·.faded) ∧ s'.state = s.state := by
  refine ⟨fun calls => (counted_after calls).total,
    fun before frames sampleRateHz fadeDurationMs between prepared actualSentFrames h hrotations =>
      committedOnce h hrotations, fun before sessionGeneration sampleRateHz fadeDurationMs calls h => ?_⟩
  obtain ⟨hfaded, hstate⟩ := committed_faded h
  refine ⟨hfaded, ?_⟩
  intro calls' h' s' hstream
  obtain ⟨hfaded', hstate'⟩ := committed_faded h'
  rw [hstream] at hfaded' hstate'
  exact ⟨(hfaded' ⟨0, 0, 1.0, 1.0, 0, 0⟩).trans (hfaded _).symm, hstate'.trans hstate.symm⟩

/-! ## A block of silence -/

/-- A frame of silence, prepared in the first session. -/
def silentBlock : PreparedBlock ℚ where
  frames := [(0, 0)]
  faded := [0, 0]
  block :=
    { sessionGeneration := 7
      startingSentFrame := 0
      revision := 1
      frameCount := 1 }

theorem silentBlock_prepared :
    (fade.after ({} : FadeSession ℚ) [.begin_ 7]).state.prepared [(0, 0)] 48000 10 =
      some silentBlock := by
  decide +kernel

theorem after_begins {s : FadeSession ℚ} (hgeneration : s.state.sessionGeneration = 7)
    (hframes : s.state.committedSentFrames = 0) (hactive : s.state.active) (n : Nat) :
    (fade.after s (List.replicate n (.begin_ 7))).state.sessionGeneration = 7 ∧
      (fade.after s (List.replicate n (.begin_ 7))).state.committedSentFrames = 0 ∧
      (fade.after s (List.replicate n (.begin_ 7))).state.active ∧
      fade.count Rotates s (List.replicate n (.begin_ 7)) = n := by
  induction n generalizing s with
  | zero => exact ⟨hgeneration, hframes, hactive, rfl⟩
  | succ n ih =>
    obtain ⟨h₁, h₂, h₃, hcount⟩ := ih (s := fade.next s (.begin_ 7)) rfl rfl rfl
    refine ⟨h₁, h₂, h₃, ?_⟩
    rw [List.replicate_succ, Reducer.count, hcount]
    exact Nat.add_comm 1 n

theorem silentBlock_committed {s : FadeSession ℚ} (hgeneration : s.state.sessionGeneration = 7)
    (hframes : s.state.committedSentFrames = 0) (hactive : s.state.active)
    (hrevision : s.state.revision = 1) : fade.out s (.commit silentBlock 1) = .returned true := by
  obtain ⟨⟨_, _, _, _⟩, _⟩ := s
  dsimp only at hgeneration hframes hactive hrevision
  subst hgeneration hframes hactive hrevision
  rfl

/-- A session of the one block of silence. -/
def silentCalls : List (FadeCall ℚ) := [.prepare [(0, 0)] 48000 10, .commit silentBlock 1]

theorem oneSession_silent : OneSession [] 7 48000 10 silentCalls where
  generation := by decide
  session := by decide +kernel
  prepared prepared hmem := by
    have hcommitted : (fade.after ({} : FadeSession ℚ) ([] ++ .begin_ 7 :: silentCalls)).committed =
        [silentBlock] := by decide +kernel
    rw [hcommitted, List.mem_singleton] at hmem
    subst hmem
    exact ⟨_, silentBlock_prepared⟩

/-- The block of silence is committed once, and is faded as its frames are. -/
theorem sentFrameFade_laws_silent :
    CommittedOnce [.begin_ 7] [] silentBlock ∧
    ∀ telemetry, (fade.after ({} : FadeSession ℚ) (.begin_ 7 :: silentCalls)).committed.flatMap
        (·.faded) =
      (fadeFrames (fadeDurationFrames 48000 (10 : ℚ)) 0
        (interleave ((fade.after ({} : FadeSession ℚ) (.begin_ 7 :: silentCalls)).committed.flatMap
          (·.frames))) telemetry).1 := by
  obtain ⟨-, honce, hstream⟩ := @sentFrameFade_laws ℚ _
  refine ⟨honce [.begin_ 7] [(0, 0)] 48000 10 [] silentBlock 1
    ⟨silentBlock_prepared, silentBlock_committed rfl rfl rfl rfl⟩ (by decide), ?_⟩
  exact (hstream [] 7 48000 10 silentCalls oneSession_silent).1

/-- After `2 ^ 64 - 1` calls of Begin, a block of the first session is committed in the last. -/
theorem stale_block_committed :
    ¬ ∀ (before : List (FadeCall ℚ)) frames sampleRateHz fadeDurationMs between prepared
        actualSentFrames,
      CommitsPrepared before frames sampleRateHz fadeDurationMs between prepared actualSentFrames →
        CommittedOnce before between prepared := by
  intro h
  obtain ⟨n, hn⟩ : ∃ n, n = 2 ^ 64 - 1 := ⟨_, rfl⟩
  obtain ⟨h₁, h₂, h₃, hcount⟩ := after_begins (s := fade.after {} [.begin_ 7]) rfl rfl rfl n
  have hrevision : (fade.after (fade.after ({} : FadeSession ℚ) [.begin_ 7])
      (List.replicate n (.begin_ 7))).state.revision = 1 := by
    have hround := revision_after (s := fade.after ({} : FadeSession ℚ) [.begin_ 7]) (by decide)
      (List.replicate n (.begin_ 7))
    rw [hcount, hn] at hround
    rw [← UInt64.toNat_inj, hn, hround]
    decide
  have honce := h [.begin_ 7] [(0, 0)] 48000 10 (List.replicate n (.begin_ 7)) silentBlock 1
    ⟨silentBlock_prepared, silentBlock_committed h₁ h₂ h₃ hrevision⟩
  have hsession := honce.session
  rw [hcount, hn] at hsession
  cases hsession

end NativeLdac.Agent
