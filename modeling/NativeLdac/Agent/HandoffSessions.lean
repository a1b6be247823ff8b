/-
  The handoff machine over several media sessions (`agent/v1_avrcp_handoff_state.cpp`): what each
  session may request, and whether it can end.

  The restarts of a session are paid from two flags that are set once and never cleared, so the
  machine serves one session; `handoff_sessions` says what the later ones lack.
-/
import Mathlib.Tactic.ByContra
import NativeLdac.Agent.Handoff
import NativeLdac.Lib.Reducer

namespace NativeLdac.Agent

open V1AvrcpHandoffPhase
open V1AvrcpHandoffState (step)

/-- The phase machine. -/
def handoff : Reducer V1AvrcpHandoffState V1AvrcpHandoffInput V1AvrcpHandoffTransition where
  step := V1AvrcpHandoffState.step

def V1AvrcpHandoffInput.Reports (input : V1AvrcpHandoffInput) : V1AvrcpHandoffPhase → Prop
  | handoffPending => input.handoffRestartDone ∨ input.handoffRestartFailed
  | restorePending => input.restoreRestartDone ∨ input.restoreRestartFailed
  | microsoftHeld | observerActive => False

namespace V1AvrcpHandoffState

variable (s : V1AvrcpHandoffState)

/-- Every reported outcome moves the machine on. -/
def MovesOn : Prop := ∀ input, input.Reports s.phase → (handoff.next s input).phase ≠ s.phase

/-- Whatever is reported, Microsoft never holds AVRCP again. -/
def IsStuck : Prop := ∀ inputs, (handoff.after s inputs).phase ≠ microsoftHeld

/-- A media session: the inputs from the one that ends the hold of Microsoft, as long as it does
    not hold AVRCP again. -/
def IsMediaSession : List V1AvrcpHandoffInput → Prop
  | [] => False
  | input :: inputs =>
    s.phase = microsoftHeld ∧ (handoff.next s input).phase ≠ microsoftHeld ∧
      handoff.Along (fun s _ => s.phase ≠ microsoftHeld) (handoff.next s input) inputs

/-- A media session begins after an earlier one has used its restart. -/
def BeginsAgain (input : V1AvrcpHandoffInput) : Prop :=
  s.phase = microsoftHeld ∧ input.mediaStreaming ∧ s.handoffRestartUsed

end V1AvrcpHandoffState

/-! ## What a session requests -/

section
variable {s : V1AvrcpHandoffState} {input : V1AvrcpHandoffInput}

theorem step_held (h : s.phase = microsoftHeld)
    (hnext : (handoff.next s input).phase ≠ microsoftHeld) :
    handoff.step s input =
      ({ next := .handoffPending, requestStageObserver := true, changed := true },
        { s with phase := .handoffPending }) := by
  have hstep : handoff.step s input = s.step input := rfl
  rw [Reducer.next, hstep, step, h] at hnext
  rw [hstep, step, h]
  dsimp only at hnext ⊢
  split_ifs at hnext ⊢
  · rfl
  · exact absurd h hnext

def V1AvrcpHandoffPhase.notificationsLeft : V1AvrcpHandoffPhase → Nat
  | handoffPending => 1
  | microsoftHeld | observerActive | restorePending => 0

def V1AvrcpHandoffPhase.restoresLeft : V1AvrcpHandoffPhase → Nat
  | handoffPending | observerActive => 1
  | microsoftHeld | restorePending => 0

theorem step_session (h : s.phase ≠ microsoftHeld) :
    (handoff.out s input).requestStageObserver = false ∧
      (handoff.out s input).notifyDailyActive.toNat +
          (handoff.next s input).phase.notificationsLeft ≤ s.phase.notificationsLeft ∧
      (handoff.out s input).requestRestoreRestart.toNat +
          (handoff.next s input).phase.restoresLeft ≤ s.phase.restoresLeft := by
  simp only [handoff, Reducer.out, Reducer.next, step]
  rcases hphase : s.phase with _ | _ | _ | _
  · exact absurd hphase h
  all_goals
    dsimp only
    split_ifs <;> simp [notificationsLeft, restoresLeft, hphase]

theorem session_requests {inputs : List V1AvrcpHandoffInput} (h : s.IsMediaSession inputs) :
    handoff.count (fun s i => (handoff.out s i).requestStageObserver) s inputs = 1 ∧
      handoff.count (fun s i => (handoff.out s i).notifyDailyActive) s inputs ≤ 1 ∧
      handoff.count (fun s i => (handoff.out s i).requestRestoreRestart) s inputs ≤ 1 := by
  cases inputs with
  | nil => exact h.elim
  | cons input inputs =>
    obtain ⟨hheld, hnext, hrest⟩ := h
    have hstep := step_held hheld hnext
    have hphase : (handoff.next s input).phase = handoffPending := by rw [Reducer.next, hstep]
    have hstaged := Reducer.count_le
      (p := fun s i => (handoff.out s i).requestStageObserver) (f := fun _ => 0)
      (fun s i hs => by
        obtain ⟨hrequest, -⟩ : (handoff.out s i).requestStageObserver = false ∧ _ := step_session hs
        simp [hrequest]) hrest
    have hnotified := Reducer.count_le
      (p := fun s i => (handoff.out s i).notifyDailyActive)
      (f := fun s => s.phase.notificationsLeft) (fun s i hs => (step_session hs).2.1) hrest
    have hrestored := Reducer.count_le
      (p := fun s i => (handoff.out s i).requestRestoreRestart)
      (f := fun s => s.phase.restoresLeft) (fun s i hs => (step_session hs).2.2) hrest
    rw [hphase, notificationsLeft] at hnotified
    rw [hphase, restoresLeft] at hrestored
    simp only [Reducer.count, Reducer.out, hstep, Bool.toNat_true, Bool.toNat_false] at *
    omega

end

/-! ## Whether a session can end -/

/-- The restarts that the phase still needs are there. -/
def V1AvrcpHandoffState.Funded (s : V1AvrcpHandoffState) : Prop :=
  match s.phase with
  | microsoftHeld => s.restoreRestartUsed = s.handoffRestartUsed
  | handoffPending => s.handoffRestartUsed = false ∧ s.restoreRestartUsed = false
  | observerActive | restorePending => s.handoffRestartUsed = true ∧ s.restoreRestartUsed = false

section
variable {s : V1AvrcpHandoffState} {input : V1AvrcpHandoffInput}

theorem funded_next (h : s.Funded) (hnew : ¬ s.BeginsAgain input) :
    (handoff.next s input).Funded := by
  simp only [V1AvrcpHandoffState.Funded, V1AvrcpHandoffState.BeginsAgain, handoff, Reducer.next,
    step] at h hnew ⊢
  rcases hphase : s.phase with _ | _ | _ | _ <;> simp only [hphase] at h hnew ⊢
  · split_ifs with hstreaming
    · simp only [hstreaming, true_and, Bool.not_eq_true] at hnew
      exact ⟨hnew, h.trans hnew⟩
    · simpa only [hphase] using h
  · split_ifs
    · exact ⟨rfl, h.2⟩
    · exact ⟨rfl, h.2⟩
    · simpa only [hphase] using h
  · split_ifs
    · exact h
    · simpa only [hphase] using h
  · split_ifs
    · exact h.1.symm
    · exact h.1.symm
    · simpa only [hphase] using h

theorem funded_movesOn (h : s.Funded) : s.MovesOn := by
  intro input hreports
  simp only [V1AvrcpHandoffState.Funded, V1AvrcpHandoffInput.Reports, handoff, Reducer.next,
    step] at h hreports ⊢
  rcases hphase : s.phase with _ | _ | _ | _ <;> simp only [hphase] at h hreports ⊢
  · split_ifs with hdone hfailed
    · simp
    · simp
    · exact absurd hreports (by simpa [h.1] using And.intro hdone hfailed)
  · split_ifs with hdone hfailed
    · simp
    · simp
    · exact absurd hreports (by simpa [h.2] using And.intro hdone hfailed)

theorem funded_not_isStuck (h : s.Funded) : ¬ s.IsStuck := by
  intro hstuck
  rcases hphase : s.phase with _ | _ | _ | _ <;>
    simp only [V1AvrcpHandoffState.Funded, hphase] at h
  · exact hstuck [] hphase
  · refine hstuck [{ handoffRestartFailed := true }, { restoreRestartDone := true }] ?_
    simp [Reducer.after, Reducer.next, handoff, step, hphase, h]
  · refine hstuck [{}, { restoreRestartDone := true }] ?_
    simp [Reducer.after, Reducer.next, handoff, step, hphase, h]
  · refine hstuck [{ restoreRestartDone := true }] ?_
    simp [Reducer.after, Reducer.next, handoff, step, hphase, h]

theorem beginsAgain_not_movesOn (h : s.BeginsAgain input) : ¬ (handoff.next s input).MovesOn := by
  obtain ⟨hheld, hstreaming, hused⟩ := h
  have hnext : handoff.next s input = { s with phase := .handoffPending } := by
    simp [handoff, Reducer.next, step, hheld, hstreaming]
  intro hmoves
  rw [hnext] at hmoves
  refine hmoves { handoffRestartDone := true } (.inl rfl) ?_
  simp [handoff, Reducer.next, step, hused]

end

/-- **The handoff over every sequence of inputs**: each media session stages the observer once, and
    requests at most one daily-active notification and one restore; and in every state reached a
    reported outcome moves the machine on, and Microsoft can hold AVRCP again, exactly as long as
    no session begins after an earlier one has used its restart. -/
theorem handoff_sessions (inputs : List V1AvrcpHandoffInput) :
    (∀ before session rest, inputs = before ++ session ++ rest →
      (handoff.after {} before).IsMediaSession session →
      let s := handoff.after {} before
      handoff.count (fun s i => (handoff.out s i).requestStageObserver) s session = 1 ∧
        handoff.count (fun s i => (handoff.out s i).notifyDailyActive) s session ≤ 1 ∧
        handoff.count (fun s i => (handoff.out s i).requestRestoreRestart) s session ≤ 1) ∧
    ((∀ before, before <+: inputs →
        (handoff.after {} before).MovesOn ∧ ¬ (handoff.after {} before).IsStuck) ↔
      handoff.Along (fun s input => ¬ s.BeginsAgain input) {} inputs) := by
  refine ⟨fun before session rest _ hsession => session_requests hsession, ?_⟩
  have hfunded : ∀ s, V1AvrcpHandoffState.Funded s → s.MovesOn ∧ ¬ s.IsStuck :=
    fun s h => ⟨funded_movesOn h, funded_not_isStuck h⟩
  have hbegin : V1AvrcpHandoffState.Funded {} := rfl
  have hagain : ∀ s input, V1AvrcpHandoffState.Funded s →
      ((handoff.next s input).MovesOn ∧ ¬ (handoff.next s input).IsStuck ↔
        ¬ s.BeginsAgain input) := by
    intro s input h
    constructor
    · exact fun hmoves hagain => beginsAgain_not_movesOn hagain hmoves.1
    · exact fun hnew => hfunded _ (funded_next h hnew)
  refine (Reducer.forall_prefix_iff
    (P := fun s : V1AvrcpHandoffState => s.MovesOn ∧ ¬ s.IsStuck)).trans ?_
  rw [and_iff_right (hfunded _ hbegin)]
  exact Reducer.along_congr (P := V1AvrcpHandoffState.Funded) (Q := fun _ _ => True)
    (fun s input h _ hmoves => funded_next h ((hagain s input h).mp hmoves))
    (fun s input h _ => hagain s input h) hbegin (Reducer.along_of_forall (fun _ _ => trivial) _ _)

def secondMediaSession : List V1AvrcpHandoffInput :=
  [{ mediaStreaming := true }, { mediaStreaming := true, handoffRestartDone := true }, {},
    { restoreRestartDone := true }, { mediaStreaming := true }]

/-- The second session is staged, and then takes no notice of its restart. -/
theorem second_session_stuck :
    ¬ ∀ inputs, (handoff.after {} inputs).MovesOn := by
  intro h
  refine h secondMediaSession { mediaStreaming := true, handoffRestartDone := true } (.inl rfl) ?_
  decide

end NativeLdac.Agent
