/-
  The HFP suspension: from `HfpSuspendLdac` to the event that ends it, render
  demand, a late engine and the media session are all refused an engine or a
  transport. A due transport retry is not: it is the one event that starts an
  engine for a suspended headset.
-/
import Mathlib.Tactic.SplitIfs
import NativeLdac.Agent.Lifecycle

namespace NativeLdac.Agent

def SuspensionEnds (s : V1LifecycleState) (e : V1LifecycleEvent) : Prop :=
  e = .hfpResumeLdac ∨ e = .aclDisconnected ∨ e = .watcherLeaseExpired ∨
    (e = .aclConnected ∧ s.physicalPresence = .absent)

/-- The event makes the reducer claim the headset: an engine is started or a
    transport opened. -/
def ClaimsHeadset (s : V1LifecycleState) (e : V1LifecycleEvent) : Prop :=
  hasV1LifecycleAction (v1Lifecycle.out s e) .startEngine ∨
    hasV1LifecycleAction (v1Lifecycle.out s e) .openTransport

/-- The retry timer fires while the retry it was armed for is still possible. -/
def RetryFires (s : V1LifecycleState) (e : V1LifecycleEvent) : Prop :=
  e = .transportRetryDue ∧ s.physicalPresence = .present ∧ s.renderDemand = .running ∧
    s.engineLease = .absent ∧ s.mediaSession = .stopped ∧
    s.openAttemptsForGeneration ≠ 0 ∧ s.openAttemptsForGeneration < s.maximumOpenAttempts

instance (s : V1LifecycleState) (e : V1LifecycleEvent) : Decidable (SuspensionEnds s e) :=
  inferInstanceAs (Decidable (_ ∨ _))

instance (s : V1LifecycleState) (e : V1LifecycleEvent) : Decidable (ClaimsHeadset s e) :=
  inferInstanceAs (Decidable (_ ∨ _))

instance (s : V1LifecycleState) (e : V1LifecycleEvent) : Decidable (RetryFires s e) :=
  inferInstanceAs (Decidable (_ ∧ _))

@[simp] theorem has_stopTransportAction (s : V1LifecycleState) (a : V1LifecycleAction) :
    hasV1LifecycleAction (stopTransportAction s) a =
      if s.physicalPresence = .present then decide (a = .gracefulStopTransport)
      else decide (a = .cancelTransport) := by
  unfold stopTransportAction
  split_ifs <;> simp [eq_comm]

@[simp] theorem has_stopEngineAction (s : V1LifecycleState) (a : V1LifecycleAction) :
    hasV1LifecycleAction (stopEngineAction s) a =
      decide (s.engineLease ≠ .absent ∧ a = .stopEngine) := by
  unfold stopEngineAction
  split_ifs with h <;> simp [h, eq_comm]

theorem suspended_after_suspend (s : V1LifecycleState) :
    (v1Lifecycle.next s .hfpSuspendLdac).hfpSuspended = true := by
  simp only [v1Lifecycle, Reducer.next, reduceV1Lifecycle]
  split_ifs <;> rfl

theorem suspended_next {s : V1LifecycleState} {e : V1LifecycleEvent}
    (hs : s.hfpSuspended = true) (he : ¬ SuspensionEnds s e) :
    (v1Lifecycle.next s e).hfpSuspended = true := by
  cases e <;> simp [SuspensionEnds] at he <;>
    simp only [v1Lifecycle, Reducer.next, reduceV1Lifecycle]
  case aclConnected =>
    rw [if_pos]
    · exact hs
    · cases hp : s.physicalPresence with
      | absent => exact absurd hp he
      | present => rfl
  case hfpSuspendLdac => exact suspended_after_suspend s
  case mediaFailed => exact hs
  all_goals split_ifs <;> exact hs

theorem claims_iff_retryFires {s : V1LifecycleState} {e : V1LifecycleEvent}
    (hs : s.hfpSuspended = true) (he : ¬ SuspensionEnds s e) :
    ClaimsHeadset s e ↔ RetryFires s e := by
  simp only [ClaimsHeadset, RetryFires, v1Lifecycle, Reducer.out]
  cases e <;> simp only [SuspensionEnds, reduceV1Lifecycle] at he ⊢
  case transportRetryDue => split_ifs with h <;> simp [h]
  case aclConnected => split_ifs with h <;> simp_all
  case aclDisconnected | watcherLeaseExpired => simp at he
  case mediaStopped => simp
  case mediaFailed => simp [has_ite]
  all_goals split_ifs <;> simp_all

/-- **HFP owns the headset** for the whole suspension, exactly as long as no
    transport retry fires in it. -/
theorem suspension_unclaimed_iff (c : V1LifecycleConfig) (before window : List V1LifecycleEvent)
    (hw : v1Lifecycle.Along (fun s e => ¬ SuspensionEnds s e)
      (v1Lifecycle.after c.initial (before ++ [.hfpSuspendLdac])) window) :
    v1Lifecycle.Along (fun s e => ¬ ClaimsHeadset s e)
        (v1Lifecycle.after c.initial (before ++ [.hfpSuspendLdac])) window ↔
      v1Lifecycle.Along (fun s e => ¬ RetryFires s e)
        (v1Lifecycle.after c.initial (before ++ [.hfpSuspendLdac])) window := by
  refine Reducer.along_congr (P := fun s => s.hfpSuspended = true)
    (fun s e hs he _ => suspended_next hs he)
    (fun s e hs he => not_congr (claims_iff_retryFires hs he)) ?_ hw
  rw [Reducer.after_append]
  exact suspended_after_suspend _

def defaultLifecycle : V1LifecycleConfig :=
  ⟨kV1MaximumTransportOpenAttempts, false, false⟩

/-- A render, an engine that turns ready, and a transport failure that may be
    retried. -/
def failedOnce : List V1LifecycleEvent :=
  [.aclConnected, .renderStarted, .engineReady, .transportRetryableFailure]

theorem suspension_unclaimed_of_render_restart :
    v1Lifecycle.Along (fun s e => ¬ ClaimsHeadset s e)
      (v1Lifecycle.after defaultLifecycle.initial (failedOnce ++ [.hfpSuspendLdac]))
      [.renderStopped, .renderStarted, .engineReady] :=
  (suspension_unclaimed_iff defaultLifecycle failedOnce [.renderStopped, .renderStarted, .engineReady]
    (by decide)).2 (by decide)

/-- The retry armed before the suspension starts an engine inside it. -/
theorem suspension_claimed_by_retry :
    ¬ ∀ (c : V1LifecycleConfig) (before window : List V1LifecycleEvent),
      v1Lifecycle.Along (fun s e => ¬ SuspensionEnds s e)
        (v1Lifecycle.after c.initial (before ++ [.hfpSuspendLdac])) window →
      v1Lifecycle.Along (fun s e => ¬ ClaimsHeadset s e)
        (v1Lifecycle.after c.initial (before ++ [.hfpSuspendLdac])) window := by
  intro h
  exact absurd (h defaultLifecycle failedOnce [.transportRetryDue] (by decide)) (by decide)

end NativeLdac.Agent
