/-
  The budget of open attempts (`agent/v1_lifecycle.cpp`): how many transports the reducer opens
  before the budget is reset, and what resets it.

  * `BudgetStep` says what one event does to the attempts.
-/
import Mathlib.Tactic.SplitIfs
import NativeLdac.Agent.Lifecycle

namespace NativeLdac.Agent

open V1LifecycleAction

section
variable (s : V1LifecycleState) (e : V1LifecycleEvent)

def opensTransport : Bool := hasV1LifecycleAction (v1Lifecycle.out s e) .openTransport

/-- The event gives attempts back. -/
def ResetsBudget : Prop :=
  (v1Lifecycle.next s e).openAttemptsForGeneration < s.openAttemptsForGeneration

/-- The events that may reset the budget: a connection, its end, a fresh render edge of a lifecycle
    with several media sessions, and a resumption that starts the engine. -/
def MayReset : Prop :=
  match e with
  | .aclConnected | .aclDisconnected | .watcherLeaseExpired => True
  | .renderStarted => s.renderDemand = .idle ∧ s.allowMultipleMediaSessions ∧
      s.mediaSession = .stopped ∧ s.engineLease = .absent
  | .hfpResumeLdac => hasV1LifecycleAction (v1Lifecycle.out s e) .startEngine
  | _ => False

/-- What one event does to the budget: it spends an attempt on a transport, keeps the attempts, or
    resets them. -/
inductive BudgetStep : Prop
  | spends : opensTransport s e = true → s.openAttemptsForGeneration < s.maximumOpenAttempts →
      (v1Lifecycle.next s e).openAttemptsForGeneration = s.openAttemptsForGeneration + 1 →
      BudgetStep
  | keeps : opensTransport s e = false →
      (v1Lifecycle.next s e).openAttemptsForGeneration = s.openAttemptsForGeneration → BudgetStep
  | resets : opensTransport s e = false → MayReset s e →
      (v1Lifecycle.next s e).openAttemptsForGeneration = 0 → BudgetStep

end

theorem budget_step (s : V1LifecycleState) (e : V1LifecycleEvent) : BudgetStep s e := by
  have hkeeps : ∀ {r}, reduceV1Lifecycle s e = r → hasV1LifecycleAction r.1 .openTransport = false →
      r.2.openAttemptsForGeneration = s.openAttemptsForGeneration → BudgetStep s e := by
    rintro r rfl hopen hsame
    exact .keeps hopen hsame
  have hresets : ∀ {r}, reduceV1Lifecycle s e = r → hasV1LifecycleAction r.1 .openTransport = false →
      MayReset s e → r.2.openAttemptsForGeneration = 0 → BudgetStep s e := by
    rintro r rfl hopen hmay hzero
    exact .resets hopen hmay hzero
  rcases hstep : reduceV1Lifecycle s e with ⟨w, s'⟩
  have hout : v1Lifecycle.out s e = w := congrArg Prod.fst hstep
  have hfold := hstep
  cases e <;> simp only [reduceV1Lifecycle] at hstep
  case aclConnected =>
    split_ifs at hstep <;> cases hstep
    · exact hkeeps hfold (by simp) rfl
    · exact hresets hfold (by simp) trivial rfl
    · exact hresets hfold (by simp) trivial rfl
  case aclDisconnected | watcherLeaseExpired =>
    cases hstep
    exact hresets hfold (by simp [disconnectActions, has_ite]) trivial rfl
  case renderStarted =>
    split_ifs at hstep with hsuspended hfresh hstarts hstarts <;> cases hstep
    · exact hkeeps hfold (by simp) rfl
    · exact hresets hfold (by simp) ⟨by simpa using hfresh.1, hfresh.2.1, hfresh.2.2.2.2.1,
        hfresh.2.2.2.1⟩ rfl
    · exact hresets hfold (by simp) ⟨by simpa using hfresh.1, hfresh.2.1, hfresh.2.2.2.2.1,
        hfresh.2.2.2.1⟩ rfl
    · exact hkeeps hfold (by simp) rfl
    · exact hkeeps hfold (by simp) rfl
  case hfpResumeLdac =>
    split_ifs at hstep with hsuspended hstarts <;> cases hstep
    · exact hresets hfold (by simp) (by simp [MayReset, hout]) rfl
    · exact hkeeps hfold (by simp) rfl
    · exact hkeeps hfold (by simp) rfl
  case engineReady =>
    split_ifs at hstep with hagain hrefused <;> cases hstep
    · exact hkeeps hfold (by simp) rfl
    · exact hkeeps hfold (by simp) rfl
    · simp only [not_or, ge_iff_le, UInt32.not_le] at hrefused
      refine .spends (by simp [opensTransport, hout]) hrefused.2.2.2.2 ?_
      rw [Reducer.next, show v1Lifecycle.step s .engineReady = _ from hfold]
  case mediaFailed =>
    cases hstep
    exact hkeeps hfold (by simp [stopEngineAction, has_ite]) rfl
  case mediaStopped =>
    split_ifs at hstep <;> cases hstep <;> exact hkeeps hfold (by simp) rfl
  all_goals
    split_ifs at hstep <;> cases hstep <;>
      exact hkeeps hfold (by simp [stopTransportAction, stopEngineAction, has_ite]) rfl

theorem maximumOpenAttempts_next (s : V1LifecycleState) (e : V1LifecycleEvent) :
    (v1Lifecycle.next s e).maximumOpenAttempts = s.maximumOpenAttempts := by
  simp only [v1Lifecycle, Reducer.next]
  cases e <;> simp only [reduceV1Lifecycle, resetDisconnectedState]
  all_goals split_ifs <;> rfl

theorem maximumOpenAttempts_after (s : V1LifecycleState) (events : List V1LifecycleEvent) :
    (v1Lifecycle.after s events).maximumOpenAttempts = s.maximumOpenAttempts :=
  Reducer.after_inv (P := fun s' => s'.maximumOpenAttempts = s.maximumOpenAttempts)
    (Q := fun _ _ => True) (fun s' e h _ => (maximumOpenAttempts_next s' e).trans h) rfl
    (Reducer.along_of_forall (fun _ _ => trivial) _ events)

section
variable {s : V1LifecycleState} {e : V1LifecycleEvent}

theorem toNat_succ_of_lt {a b : UInt32} (h : a < b) : (a + 1).toNat = a.toNat + 1 := by
  have hb := b.toNat_lt
  rw [UInt32.lt_iff_toNat_lt] at h
  rw [UInt32.toNat_add, UInt32.toNat_one]
  omega

theorem openAttempts_next (h : s.openAttemptsForGeneration ≤ s.maximumOpenAttempts) :
    (v1Lifecycle.next s e).openAttemptsForGeneration ≤
      (v1Lifecycle.next s e).maximumOpenAttempts := by
  rw [maximumOpenAttempts_next]
  rcases budget_step s e with ⟨-, hleft, hspent⟩ | ⟨-, hkept⟩ | ⟨-, -, hzero⟩
  · rw [hspent, UInt32.le_iff_toNat_le, toNat_succ_of_lt hleft]
    exact hleft
  · rwa [hkept]
  · rw [hzero]
    exact UInt32.zero_le

theorem opens_paid (h : ¬ ResetsBudget s e) :
    (opensTransport s e).toNat + ((v1Lifecycle.next s e).maximumOpenAttempts.toNat -
        (v1Lifecycle.next s e).openAttemptsForGeneration.toNat) ≤
      s.maximumOpenAttempts.toNat - s.openAttemptsForGeneration.toNat := by
  rw [ResetsBudget, UInt32.not_lt, UInt32.le_iff_toNat_le] at h
  rw [maximumOpenAttempts_next]
  rcases budget_step s e with ⟨hopen, hleft, hspent⟩ | ⟨hopen, -⟩ | ⟨hopen, -, -⟩
  · rw [hopen, hspent, toNat_succ_of_lt hleft, Bool.toNat_true]
    rw [UInt32.lt_iff_toNat_lt] at hleft
    omega
  · rw [hopen, Bool.toNat_false]
    omega
  · rw [hopen, Bool.toNat_false]
    omega

theorem mayReset_of_resets (h : ResetsBudget s e) : MayReset s e := by
  rw [ResetsBudget, UInt32.lt_iff_toNat_lt] at h
  rcases budget_step s e with ⟨-, hleft, hspent⟩ | ⟨-, hkept⟩ | ⟨-, hmay, -⟩
  · rw [hspent, toNat_succ_of_lt hleft] at h
    omega
  · rw [hkept] at h
    omega
  · exact hmay

end

/-- **The budget over every run** that begins with no attempt spent: the attempts never exceed the
    maximum; a part of the run without a reset opens at most that many transports; and what resets
    the budget may do so. -/
theorem lifecycle_budget (s : V1LifecycleState) (h : s.openAttemptsForGeneration = 0)
    (events : List V1LifecycleEvent) :
    (∀ before, before <+: events →
        (v1Lifecycle.after s before).openAttemptsForGeneration ≤ s.maximumOpenAttempts) ∧
      (∀ before part rest, events = before ++ part ++ rest →
        v1Lifecycle.Along (fun s e => ¬ ResetsBudget s e) (v1Lifecycle.after s before) part →
        v1Lifecycle.count opensTransport (v1Lifecycle.after s before) part ≤
          s.maximumOpenAttempts.toNat) ∧
      v1Lifecycle.Along (fun s e => ResetsBudget s e → MayReset s e) s events := by
  refine ⟨fun before _ => ?_, fun before part rest _ hpart => ?_, ?_⟩
  · rw [← maximumOpenAttempts_after s before]
    refine Reducer.after_inv
      (P := fun s : V1LifecycleState => s.openAttemptsForGeneration ≤ s.maximumOpenAttempts)
      (Q := fun _ _ => True) (fun _ _ hs _ => openAttempts_next hs) ?_
      (Reducer.along_of_forall (fun _ _ => trivial) _ _)
    rw [h]
    exact UInt32.zero_le
  · have hpaid := Reducer.count_le (p := opensTransport)
      (f := fun s => s.maximumOpenAttempts.toNat - s.openAttemptsForGeneration.toNat)
      (fun s e hs => opens_paid hs) hpart
    simp only [maximumOpenAttempts_after] at hpaid
    omega
  · exact Reducer.along_of_forall (fun _ _ => mayReset_of_resets) s events

/-- A transport that is opened, lost and retried. -/
def retriedOnce : List V1LifecycleEvent :=
  [.aclConnected, .renderStarted, .engineReady, .transportRetryableFailure, .transportRetryDue,
    .engineReady]

theorem lifecycle_budget_retried :
    (∀ before, before <+: retriedOnce →
        (v1Lifecycle.after {} before).openAttemptsForGeneration ≤
          kV1MaximumTransportOpenAttempts) ∧
      (∀ before part rest, retriedOnce = before ++ part ++ rest →
        v1Lifecycle.Along (fun s e => ¬ ResetsBudget s e) (v1Lifecycle.after {} before) part →
        v1Lifecycle.count opensTransport (v1Lifecycle.after {} before) part ≤
          kV1MaximumTransportOpenAttempts.toNat) ∧
      v1Lifecycle.Along (fun s e => ResetsBudget s e → MayReset s e) {} retriedOnce :=
  lifecycle_budget {} rfl retriedOnce

end NativeLdac.Agent
