/-
  The fault latch: a media session that has faulted keeps its ACL generation
  from starting an engine or opening a transport. The reducer remembers the
  fault in the media session and in the attempts spent, and some events make
  it forget: `fault_latched_iff` says which.
-/
import Mathlib.Tactic.SplitIfs
import NativeLdac.Agent.LifecycleSuspension

namespace NativeLdac.Agent

/-- A lifecycle, and whether its media session has faulted in this generation (which the
    reducer does not read). -/
structure FaultWatch where
  lifecycle : V1LifecycleState
  faulted : Bool := false

def StartsGeneration (l : V1LifecycleState) (e : V1LifecycleEvent) : Prop :=
  e = .aclConnected ∧ l.physicalPresence = .absent

instance (l : V1LifecycleState) (e : V1LifecycleEvent) : Decidable (StartsGeneration l e) :=
  inferInstanceAs (Decidable (_ ∧ _))

def faultWatch : Reducer FaultWatch V1LifecycleEvent UInt32 where
  step watch e :=
    let r := reduceV1Lifecycle watch.lifecycle e
    (r.1,
      { lifecycle := r.2
        faulted :=
          if StartsGeneration watch.lifecycle e then false
          else watch.faulted || r.2.mediaSession = .faulted })

def FaultWatch.initial (c : V1LifecycleConfig) : FaultWatch := { lifecycle := c.initial }

/-- After a fault the event has no engine started and no transport opened. -/
def FaultLatched (watch : FaultWatch) (e : V1LifecycleEvent) : Prop :=
  watch.faulted = true → ¬ hasV1LifecycleAction (faultWatch.out watch e) .startEngine ∧
    ¬ hasV1LifecycleAction (faultWatch.out watch e) .openTransport

/-- The event finds a fault forgotten: a render start, with no attempt spent or with a stopped
    session that may be followed by another one; a due retry, or the end of a suspension, with
    a stopped session. -/
def Forgotten (l : V1LifecycleState) : V1LifecycleEvent → Prop
  | .renderStarted => l.physicalPresence = .present ∧ l.hfpSuspended = false ∧
      (l.openAttemptsForGeneration = 0 ∨
        l.mediaSession = .stopped ∧ l.renderDemand = .idle ∧ l.allowMultipleMediaSessions)
  | .transportRetryDue => l.physicalPresence = .present ∧ l.renderDemand = .running ∧
      l.mediaSession = .stopped ∧ l.openAttemptsForGeneration ≠ 0 ∧
      l.openAttemptsForGeneration < l.maximumOpenAttempts
  | .hfpResumeLdac => l.physicalPresence = .present ∧ l.hfpSuspended = true ∧
      l.renderDemand = .running ∧ l.mediaSession = .stopped
  | _ => False

instance (l : V1LifecycleState) : ∀ e, Decidable (Forgotten l e)
  | .renderStarted | .transportRetryDue | .hfpResumeLdac => inferInstanceAs (Decidable (_ ∧ _))
  | .aclConnected | .aclDisconnected | .renderStopped | .hfpSuspendLdac | .engineReady
  | .engineExited | .transportOpenSuppressed | .mediaStarted | .mediaStopped
  | .transportRetryableFailure | .mediaFailed | .watcherLeaseExpired => isFalse not_false

instance (watch : FaultWatch) (e : V1LifecycleEvent) : Decidable (FaultLatched watch e) :=
  inferInstanceAs (Decidable (_ → _))

section
variable {l : V1LifecycleState} {e : V1LifecycleEvent}

theorem starts_iff_forgotten (hl : l.engineLease = .absent) :
    hasV1LifecycleAction (v1Lifecycle.out l e) .startEngine ↔ Forgotten l e := by
  simp only [v1Lifecycle, Reducer.out]
  cases e <;> simp only [reduceV1Lifecycle, Forgotten]
  case renderStarted =>
    split_ifs with hsuspended hreset hstart hstart
    · simp [hsuspended]
    · simp only [has_bit, decide_true, true_iff]
      exact ⟨hstart.1, by simpa using hsuspended,
        .inr ⟨hreset.2.2.2.2.1, by simpa using hreset.1, hreset.2.1⟩⟩
    · exact absurd ⟨hreset.2.2.1, hl, rfl⟩ hstart
    · simp only [has_bit, decide_true, true_iff]
      exact ⟨hstart.1, by simpa using hsuspended, .inl hstart.2.2⟩
    · simp only [has_none, Bool.false_eq_true, false_iff]
      rintro ⟨hp, -, hzero | ⟨hstopped, hidle, hmultiple⟩⟩
      · exact hstart ⟨hp, hl, hzero⟩
      · refine hreset ⟨by simpa using hidle, hmultiple, hp, hl, hstopped, ?_⟩
        exact fun hzero => hstart ⟨hp, hl, hzero⟩
  case transportRetryDue =>
    split_ifs with hfires
    · simp [hfires]
    · simp only [has_none, Bool.false_eq_true, false_iff]
      rintro ⟨hp, hd, hm, hused, hleft⟩
      exact hfires ⟨hp, hd, hl, hm, hused, hleft⟩
  case hfpResumeLdac => split_ifs <;> simp_all
  case aclConnected => split_ifs <;> simp
  case mediaFailed => simp [has_ite]
  case aclDisconnected | watcherLeaseExpired => simp [disconnectActions, has_ite]
  case mediaStopped => simp
  all_goals split_ifs <;> simp

theorem opens_of_absent (hl : l.engineLease = .absent) :
    ¬ hasV1LifecycleAction (v1Lifecycle.out l e) .openTransport := by
  simp only [v1Lifecycle, Reducer.out]
  cases e <;> simp only [reduceV1Lifecycle]
  case engineReady => simp [hl]
  case mediaFailed => simp [has_ite]
  case aclDisconnected | watcherLeaseExpired => simp [disconnectActions, has_ite]
  case mediaStopped => simp
  all_goals split_ifs <;> simp

theorem lease_next (hl : l.engineLease = .absent)
    (he : ¬ hasV1LifecycleAction (v1Lifecycle.out l e) .startEngine) :
    (v1Lifecycle.next l e).engineLease = .absent := by
  revert he
  simp only [v1Lifecycle, Reducer.next, Reducer.out]
  cases e <;> simp only [reduceV1Lifecycle]
  case engineReady => simp [hl]
  case mediaFailed => simp
  case mediaStopped => simp
  case aclDisconnected | watcherLeaseExpired => simp [resetDisconnectedState]
  all_goals split_ifs <;> simp [hl]

theorem faulted_next (hm : l.mediaSession ≠ .faulted)
    (h : (v1Lifecycle.next l e).mediaSession = .faulted) :
    (v1Lifecycle.next l e).engineLease = .absent := by
  revert h
  simp only [v1Lifecycle, Reducer.next]
  cases e <;> simp only [reduceV1Lifecycle]
  case mediaFailed => simp
  case mediaStopped => simp
  case aclDisconnected | watcherLeaseExpired => simp [resetDisconnectedState]
  all_goals split_ifs <;> simp_all

end

/-- After a fault there is no engine, and a faulted session is known. -/
structure FaultHeld (watch : FaultWatch) : Prop where
  known : watch.lifecycle.mediaSession = .faulted → watch.faulted = true
  absent : watch.faulted = true → watch.lifecycle.engineLease = .absent

section
variable {watch : FaultWatch} {e : V1LifecycleEvent}

theorem faultHeld_next (h : FaultHeld watch) (he : FaultLatched watch e) :
    FaultHeld (faultWatch.next watch e) := by
  have hnew : StartsGeneration watch.lifecycle e →
      (v1Lifecycle.next watch.lifecycle e).mediaSession ≠ .faulted := by
    rintro ⟨rfl, hp⟩
    simp [v1Lifecycle, Reducer.next, reduceV1Lifecycle, hp]
  constructor
  · intro hm
    show (if StartsGeneration watch.lifecycle e then false else _) = true
    split_ifs with hstarts
    · exact absurd hm (hnew hstarts)
    · exact Bool.or_eq_true_iff.mpr (.inr (decide_eq_true hm))
  · intro hf
    change (if StartsGeneration watch.lifecycle e then false else _) = true at hf
    split_ifs at hf with hstarts
    show (v1Lifecycle.next watch.lifecycle e).engineLease = .absent
    cases hfaulted : watch.faulted with
    | true => exact lease_next (h.absent hfaulted) (he hfaulted).1
    | false =>
      rw [hfaulted, Bool.false_or, decide_eq_true_eq] at hf
      refine faulted_next ?_ hf
      intro hm
      simp [h.known hm] at hfaulted

theorem faultLatched_iff (h : FaultHeld watch) :
    FaultLatched watch e ↔ ¬ (watch.faulted = true ∧ Forgotten watch.lifecycle e) := by
  rw [not_and]
  refine imp_congr_right ?_
  intro hf
  have hl := h.absent hf
  have hstarts := starts_iff_forgotten (e := e) hl
  constructor
  · exact fun hlatched hforgotten => hlatched.1 (hstarts.mpr hforgotten)
  · exact fun hkept => ⟨fun hstart => hkept (hstarts.mp hstart), opens_of_absent hl⟩

end

/-- **The fault latch**: over every run, a fault keeps its generation from an engine and from a
    transport, exactly as long as no event finds it forgotten. -/
theorem fault_latched_iff (c : V1LifecycleConfig) (events : List V1LifecycleEvent) :
    faultWatch.Along FaultLatched (.initial c) events ↔
      faultWatch.Along (fun watch e => ¬ (watch.faulted = true ∧ Forgotten watch.lifecycle e))
        (.initial c) events := by
  refine Reducer.along_congr (P := FaultHeld) (Q := fun _ _ => True)
    (fun watch e h _ he => faultHeld_next h he) (fun watch e h _ => faultLatched_iff h)
    ⟨?_, ?_⟩ (Reducer.along_of_forall (fun _ _ => trivial) _ _)
  · simp [FaultWatch.initial, V1LifecycleConfig.initial]
  · simp [FaultWatch.initial]

/-- A media failure before the first open attempt. -/
def faultedEarly : List V1LifecycleEvent :=
  [.aclConnected, .renderStarted, .mediaFailed, .renderStarted]

/-- A media failure after it, a stop of the player and a suspension for a call. -/
def faultedAndStopped : List V1LifecycleEvent :=
  [.aclConnected, .renderStarted, .engineReady, .mediaFailed, .renderStopped, .renderStarted,
    .hfpSuspendLdac, .hfpResumeLdac]

/-- Both start an engine again. -/
theorem fault_forgotten :
    (∀ multiple : Bool, ¬ faultWatch.Along FaultLatched
      (.initial ⟨kV1MaximumTransportOpenAttempts, false, multiple⟩) faultedEarly) ∧
    ¬ faultWatch.Along FaultLatched (.initial defaultLifecycle) faultedAndStopped := by
  decide +kernel

end NativeLdac.Agent
