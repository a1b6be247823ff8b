/-
  Whole handoff sessions: every outcome of the external steps takes one of
  three courses (completed, bound but not signalled, not bound), and only the
  first keeps what the session promises.
-/
import NativeLdac.Agent.Handoff

namespace NativeLdac.Agent

open V1AvrcpHandoffState (step)

/-! ## The promise -/

def HandoffCall.isStage : HandoffCall → Bool
  | .stageObserver _ => true
  | _ => false

def HandoffCall.isRestore : HandoffCall → Bool
  | .restoreMicrosoft _ => true
  | _ => false

/-- A completion signal and its verdict. -/
def HandoffCall.completion? : HandoffCall → Option Bool
  | .signalHandoffCompleted ok | .signalRestoreCompleted _ ok => some ok
  | _ => none

open HandoffCall (isRestore isStage)

def NoStageAfterRestore : List HandoffCall → Prop
  | [] => True
  | c :: cs => (c.isRestore → cs.countP HandoffCall.isStage = 0) ∧ NoStageAfterRestore cs

/-- What a session promises: one staging and one restore at most, and unless
    the handoff completed, Microsoft ownership in the end and one completion
    signalled. -/
structure HandoffSession.Converged {Ω : Type} (r : HandoffSession Ω) : Prop where
  stagings : r.calls.countP HandoffCall.isStage ≤ 1
  restores : r.calls.countP HandoffCall.isRestore ≤ 1
  failed : .signalHandoffCompleted true ∉ r.calls →
    NoStageAfterRestore r.calls ∧ r.state.phase = .microsoftHeld ∧
      (some false ∈ r.calls.map HandoffCall.completion? ∨
        (r.calls.map HandoffCall.completion?).count (some true) = 1)

/-- Run `b` if `a` succeeds. -/
def ExternalStep.andThen {Ω : Type} (a b : ExternalStep Ω) : ExternalStep Ω := fun error world =>
  if (a error world).1 then b (a error world).2.1 (a error world).2.2 else a error world

/-- Run `b` if `a` fails. -/
def ExternalStep.orElse {Ω : Type} (a b : ExternalStep Ω) : ExternalStep Ω := fun error world =>
  if (a error world).1 then a error world else b (a error world).2.1 (a error world).2.2

namespace HandoffSteps

variable {Ω : Type} (steps : HandoffSteps Ω)

/-- The observer is staged, and it binds at once or after one restart. -/
def bindObserver : ExternalStep Ω :=
  steps.stageObserver.andThen (steps.waitForObserverBinding.orElse
    (steps.restartDevice.andThen steps.waitForObserverBinding))

/-- The observer binds and the daily host is told. -/
def completeHandoff (generation : UInt64) (restartCount : UInt32) : ExternalStep Ω :=
  steps.bindObserver.andThen (steps.signalHandoffCompleted generation restartCount "")

end HandoffSteps

/-! ## External calls -/

section
variable {Ω : Type} (steps : HandoffSteps Ω)

/-- The calls of one attempt to bind the observer. -/
structure Staging (cs : List HandoffCall) : Prop where
  staged : cs.countP HandoffCall.isStage = 1
  noRestore : cs.countP HandoffCall.isRestore = 0
  noSignal : .signalHandoffCompleted true ∉ cs

theorem stageAndBind_eq (r : HandoffSession Ω) : ∃ cs, Staging cs ∧ ∃ ok error world,
    steps.bindObserver r.error r.world = (ok, error, world) ∧
      stageAndBind steps r =
        (ok, { r with error := error, world := world, calls := r.calls ++ cs }) := by
  obtain ⟨⟨ok₁, e₁, w₁⟩, h₁⟩ : ∃ a, steps.stageObserver r.error r.world = a := ⟨_, rfl⟩
  obtain ⟨⟨ok₂, e₂, w₂⟩, h₂⟩ : ∃ a, steps.waitForObserverBinding e₁ w₁ = a := ⟨_, rfl⟩
  obtain ⟨⟨ok₃, e₃, w₃⟩, h₃⟩ : ∃ a, steps.restartDevice e₂ w₂ = a := ⟨_, rfl⟩
  obtain ⟨⟨ok₄, e₄, w₄⟩, h₄⟩ : ∃ a, steps.waitForObserverBinding e₃ w₃ = a := ⟨_, rfl⟩
  simp only [stageAndBind, HandoffSession.call, HandoffSteps.bindObserver, ExternalStep.andThen,
    ExternalStep.orElse, h₁]
  cases ok₁ with
  | false => exact ⟨[.stageObserver false], ⟨rfl, rfl, by simp⟩, _, _, _, rfl, by simp [*]⟩
  | true =>
    simp only [not_true_eq_false, if_false, if_true, h₂]
    cases ok₂ with
    | true => exact ⟨[.stageObserver true, .waitForObserverBinding true],
        ⟨rfl, rfl, by simp⟩, _, _, _, rfl, by simp [*]⟩
    | false =>
      simp only [Bool.false_eq_true, if_false, h₃]
      cases ok₃ with
      | false => exact ⟨[.stageObserver true, .waitForObserverBinding false, .restartDevice false],
          ⟨rfl, rfl, by simp⟩, _, _, _, rfl, by simp [*]⟩
      | true => exact ⟨[.stageObserver true, .waitForObserverBinding false, .restartDevice true,
          .waitForObserverBinding ok₄], ⟨rfl, rfl, by simp⟩, _, _, _, rfl, by simp [*]⟩

theorem restoreAndClear_eq (r : HandoffSession Ω) : ∃ ok error world,
    restoreAndClear steps r = (ok, { r with
      error := error, world := world, calls := r.calls ++ [.restoreMicrosoft ok] }) := by
  obtain ⟨⟨ok, e, w⟩, h⟩ : ∃ a, steps.restoreMicrosoft r.error r.world = a := ⟨_, rfl⟩
  simp only [restoreAndClear, HandoffSession.call, HandoffSession.clearResidentPublishedInf, h]
  cases ok with
  | false => exact ⟨false, e, w, by simp⟩
  | true => exact ⟨true, e, steps.clearResidentPublishedInf w, by simp⟩

/-! ## The rounds of a session -/

variable (generation : UInt64) (restartCount : UInt32) {input : V1AvrcpHandoffInput}

theorem round_held (input : V1AvrcpHandoffInput) (r : HandoffSession Ω)
    (hp : r.state.phase = .microsoftHeld) (hm : input.mediaStreaming = true) :
    ∃ cs, Staging cs ∧ ∃ ok error world,
      steps.bindObserver r.error r.world = (ok, error, world) ∧
      handoffRound steps generation restartCount input r =
        .next (if ok then { input with handoffRestartDone := true }
            else { input with handoffRestartFailed := true })
          { state := { r.state with phase := .handoffPending }, error := error, world := world,
            calls := r.calls ++ cs } := by
  obtain ⟨cs, hcs, ok, e, w, hb, h⟩ := stageAndBind_eq steps
    { r with state := { r.state with phase := .handoffPending } }
  refine ⟨cs, hcs, ok, e, w, hb, ?_⟩
  simp only [handoffRound, step, hp, hm, if_true, h]
  cases ok <;> simp

theorem round_pending_failed (input : V1AvrcpHandoffInput) (r : HandoffSession Ω)
    (hp : r.state.phase = .handoffPending) (hu : r.state.handoffRestartUsed = false)
    (hd : input.handoffRestartDone = false) (hf : input.handoffRestartFailed = true) :
    ∃ ok error world, handoffRound steps generation restartCount input r =
      .next (if ok then { input with restoreRestartDone := true }
          else { input with restoreRestartFailed := true })
        { state := { r.state with handoffRestartUsed := true, phase := .restorePending }
          error := error, world := world, calls := r.calls ++ [.restoreMicrosoft ok] } := by
  obtain ⟨ok, e, w, h⟩ := restoreAndClear_eq steps { r with
    state := { r.state with handoffRestartUsed := true, phase := .restorePending } }
  refine ⟨ok, e, w, ?_⟩
  simp only [handoffRound, step, hp, hu, hd, hf]
  cases ok <;> simp [h, hd, hf]

theorem round_restore (input : V1AvrcpHandoffInput) (r : HandoffSession Ω)
    (hp : r.state.phase = .restorePending) (hu : r.state.restoreRestartUsed = false)
    (hi : input.restoreRestartDone = true ∨ input.restoreRestartFailed = true) :
    ∃ degraded, handoffRound steps generation restartCount input r =
      .next input { r with state := { r.state with
        restoreRestartUsed := true, degraded := degraded, phase := .microsoftHeld } } := by
  simp only [handoffRound, step, hp, hu]
  by_cases hd : input.restoreRestartDone = true
  · exact ⟨r.state.degraded, by simp [hd]⟩
  · exact ⟨true, by simp [hd, hi.resolve_left hd]⟩

theorem round_pending_used {r : HandoffSession Ω} (hp : r.state.phase = .handoffPending)
    (hu : r.state.handoffRestartUsed = true) :
    handoffRound steps generation restartCount input r = .settled r := by
  simp [handoffRound, step, hp, hu]

theorem round_pending_done {r : HandoffSession Ω} (hp : r.state.phase = .handoffPending)
    (hu : r.state.handoffRestartUsed = false) (hd : input.handoffRestartDone = true) :
    handoffRound steps generation restartCount input r =
      notifyDailyActive steps generation restartCount input
        { r with state := { r.state with handoffRestartUsed := true, phase := .observerActive } } := by
  simp [handoffRound, step, hp, hu, hd]

theorem round_active {r : HandoffSession Ω} (hp : r.state.phase = .observerActive)
    (hm : input.mediaStreaming = true) (hf : input.observerOpenFailed = false) :
    handoffRound steps generation restartCount input r = .settled r := by
  simp [handoffRound, step, hp, hm, hf]

/-! ## Whole sessions -/

theorem session_completed {error : UInt32} {world : Ω}
    (hc : (steps.completeHandoff generation restartCount error world).1 = true) :
    ∃ r, runHandoff steps 5 generation restartCount error world = some (true, r) ∧
      ∃ cs, Staging cs ∧ r.calls = cs ++ [.signalHandoffCompleted true] := by
  obtain ⟨cs, hcs, ok, e, w, hb, h₁⟩ := round_held steps generation restartCount
    { mediaStreaming := true } { error := error, world := world } rfl rfl
  obtain ⟨⟨ok', e', w'⟩, hs⟩ :
    ∃ a, steps.signalHandoffCompleted generation restartCount "" e w = a := ⟨_, rfl⟩
  simp only [HandoffSteps.completeHandoff, ExternalStep.andThen, hb] at hc
  cases ok with
  | false => simp at hc
  | true =>
    simp only [if_true, hs] at hc
    subst hc
    simp only [if_true, List.nil_append] at h₁
    simp only [runHandoff, handoffLoop, h₁]
    rw [round_pending_done steps generation restartCount rfl rfl rfl]
    simp only [notifyDailyActive, HandoffSession.call, hs, if_true]
    rw [round_active steps generation restartCount rfl rfl rfl]
    simp only [finishHandoff, reduceCtorEq, false_and, if_false]
    exact ⟨_, rfl, cs, hcs, rfl⟩

theorem session_unsignalled {error : UInt32} {world : Ω}
    (hb : (steps.bindObserver error world).1 = true)
    (hc : (steps.completeHandoff generation restartCount error world).1 = false) :
    ∃ r, runHandoff steps 5 generation restartCount error world = some (false, r) ∧
      r.state.phase = .observerActive ∧
      ∃ cs ok, Staging cs ∧
        r.calls = cs ++ [.signalHandoffCompleted false, .restoreMicrosoft ok] := by
  obtain ⟨cs, hcs, ok, e, w, hb', h₁⟩ := round_held steps generation restartCount
    { mediaStreaming := true } { error := error, world := world } rfl rfl
  obtain ⟨⟨ok', e', w'⟩, hs⟩ :
    ∃ a, steps.signalHandoffCompleted generation restartCount "" e w = a := ⟨_, rfl⟩
  obtain rfl : ok = true := by simpa [hb'] using hb
  obtain rfl : ok' = false := by
    simpa [HandoffSteps.completeHandoff, ExternalStep.andThen, hb', hs] using hc
  simp only [if_true, List.nil_append] at h₁
  simp only [runHandoff, handoffLoop, h₁]
  rw [round_pending_done steps generation restartCount rfl rfl rfl]
  simp only [notifyDailyActive, HandoffSession.call, hs, Bool.false_eq_true, if_false]
  obtain ⟨ok'', e'', w'', hr⟩ := restoreAndClear_eq steps
    { state := { phase := .observerActive, handoffRestartUsed := true }, error := e', world := w'
      calls := cs ++ [.signalHandoffCompleted false] }
  rw [hr]
  cases ok'' with
  | false => exact ⟨_, rfl, rfl, cs, false, hcs, by simp⟩
  | true => exact ⟨_, rfl, rfl, cs, true, hcs, by simp⟩

/-- The input of a session whose binding failed, after its restore. -/
def restoredInput (ok : Bool) : V1AvrcpHandoffInput :=
  if ok then { mediaStreaming := true, handoffRestartFailed := true, restoreRestartDone := true }
  else { mediaStreaming := true, handoffRestartFailed := true, restoreRestartFailed := true }

theorem session_unbound {error : UInt32} {world : Ω}
    (hb : (steps.bindObserver error world).1 = false) :
    ∃ r, runHandoff steps 5 generation restartCount error world = some (true, r) ∧
      r.state.phase = .handoffPending ∧
      ∃ cs cs' ok, Staging cs ∧ Staging cs' ∧ r.calls = cs ++ [.restoreMicrosoft ok] ++ cs' := by
  obtain ⟨cs, hcs, ok, e, w, hb', h₁⟩ := round_held steps generation restartCount
    { mediaStreaming := true } { error := error, world := world } rfl rfl
  obtain rfl : ok = false := by simpa [hb'] using hb
  simp only [Bool.false_eq_true, if_false, List.nil_append] at h₁
  obtain ⟨ok₂, e₂, w₂, h₂⟩ := round_pending_failed steps generation restartCount
    { mediaStreaming := true, handoffRestartFailed := true }
    { state := { phase := .handoffPending }, error := e, world := w, calls := cs }
    rfl rfl rfl rfl
  obtain ⟨degraded, h₃⟩ := round_restore steps generation restartCount (restoredInput ok₂)
    { state := { phase := .restorePending, handoffRestartUsed := true }, error := e₂, world := w₂
      calls := cs ++ [.restoreMicrosoft ok₂] }
    rfl rfl (by cases ok₂ <;> simp [restoredInput])
  obtain ⟨cs', hcs', ok₄, e₄, w₄, -, h₄⟩ := round_held steps generation restartCount
    (restoredInput ok₂)
    { state := { restoreRestartUsed := true, handoffRestartUsed := true, degraded := degraded }
      error := e₂, world := w₂, calls := cs ++ [.restoreMicrosoft ok₂] }
    rfl (by cases ok₂ <;> rfl)
  simp only [restoredInput] at h₃ h₄
  simp only [runHandoff, handoffLoop, h₁, h₂, h₃, h₄]
  rw [round_pending_used steps generation restartCount rfl rfl]
  simp only [finishHandoff, reduceCtorEq, false_and, if_false]
  exact ⟨_, rfl, rfl, cs, cs', ok₂, hcs, hcs', rfl⟩

/-- **A handoff session converges exactly when its handoff completes**: it
    always ends within five rounds and never restores twice, but no failure
    path leaves Microsoft ownership in the machine with one completion
    signalled. -/
theorem runHandoff_converged_iff (steps : HandoffSteps Ω) (generation : UInt64)
    (restartCount error : UInt32) (world : Ω) :
    ∃ ok r, runHandoff steps 5 generation restartCount error world = some (ok, r) ∧
      r.calls.countP HandoffCall.isRestore ≤ 1 ∧
      (r.Converged ↔ (steps.completeHandoff generation restartCount error world).1 = true) := by
  by_cases hc : (steps.completeHandoff generation restartCount error world).1 = true
  · obtain ⟨r, hr, cs, hcs, h⟩ := session_completed steps generation restartCount hc
    have hrest : r.calls.countP isRestore = 0 := by
      simp [h, hcs.noRestore, isRestore]
    refine ⟨true, r, hr, by omega, iff_of_true ⟨?_, by omega, ?_⟩ hc⟩
    · simp [h, hcs.staged, isStage]
    · simp [h]
  · rw [Bool.not_eq_true] at hc
    cases hb : (steps.bindObserver error world).1 with
    | false =>
      obtain ⟨r, hr, hp, cs, cs', ok, hcs, hcs', h⟩ := session_unbound steps generation restartCount hb
      refine ⟨true, r, hr, ?_, iff_of_false (fun hv => ?_) (by simp [hc])⟩
      · simp [h, hcs.noRestore, hcs'.noRestore, List.countP_cons, isRestore]
      · have := hv.stagings
        simp [h, hcs.staged, hcs'.staged, isStage] at this
    | true =>
      obtain ⟨r, hr, hp, cs, ok, hcs, h⟩ := session_unsignalled steps generation restartCount hb hc
      refine ⟨false, r, hr, ?_, iff_of_false (fun hv => ?_) (by simp [hc])⟩
      · simp [h, hcs.noRestore, isRestore]
      · have hs : .signalHandoffCompleted true ∉ r.calls := by simp [h, hcs.noSignal]
        simpa [hp] using (hv.failed hs).2.1

end

/-- Every step succeeds, except that the observer package cannot be staged. -/
def stagingFails : HandoffSteps Unit where
  stageObserver _ _ := (false, 31, ())
  waitForObserverBinding e _ := (true, e, ())
  restartDevice e _ := (true, e, ())
  restoreMicrosoft _ _ := (true, 0, ())
  clearResidentPublishedInf := id
  signalHandoffCompleted _ _ _ _ _ := (true, 0, ())
  signalRestoreCompleted _ _ _ _ _ := (true, 0, ())

/-- A failed staging is restored, staged a second time and left pending. -/
theorem runHandoff_stagingFails : ∃ r,
    runHandoff stagingFails 5 1 0 0 () = some (true, r) ∧
      r.calls = [.stageObserver false, .restoreMicrosoft true, .stageObserver false] ∧
      r.state.phase = .handoffPending ∧ ¬ r.Converged := by
  refine ⟨_, rfl, rfl, rfl, fun h => ?_⟩
  exact absurd h.stagings (by decide)

end NativeLdac.Agent
