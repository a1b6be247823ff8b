/-
  The fail-safe of the single gain: the PC's endpoint gain is off only while a session of
  AVRCP is found ready.

  `LeavesGain`: the ways out of a reconciliation that set no event.  A reconciliation keeps
  the promise unless it takes one of them while the event is signaled.
-/
import NativeLdac.Agent.AvrcpControl
import NativeLdac.Agent.AvrcpSessions

namespace NativeLdac.Agent

open Prog AvrcpControlStage

variable {Ω α : Type}

/-! ## The promise -/

namespace AvrcpControlStage

/-- The event of the active engine is signaled: no PC gain is applied. -/
def Signaled (s : AvrcpControlStage Ω) : Prop :=
  s.engine.active ∧ s.engine.singleGainReadyEvent = some true

instance (s : AvrcpControlStage Ω) : Decidable s.Signaled := inferInstanceAs (Decidable (_ ∧ _))

/-- The event is signaled only for a session that the call polled and found ready. -/
def SignaledReady (s : AvrcpControlStage Ω) : Prop :=
  s.Signaled → s.polled.map AvrcpPoll.ready = some true

instance (s : AvrcpControlStage Ω) : Decidable s.SignaledReady :=
  inferInstanceAs (Decidable (_ → _))

/-- What a call may change of the gain. -/
def gain (s : AvrcpControlStage Ω) : V1EngineReadyHost × Option AvrcpPoll := (s.engine, s.polled)

end AvrcpControlStage

section
variable (env : AvrcpControlEnvironment Ω)

/-- A reconciliation that succeeds leaves the event signaled only for a session that it found
    ready. -/
def GainFailSafe (s : AvrcpControlStage Ω) (step : AvrcpControlStep Ω) : Prop :=
  ((avrcpControl env).out s step).map Prod.fst = some true →
    ((avrcpControl env).next s step).SignaledReady

instance (s : AvrcpControlStage Ω) (step : AvrcpControlStep Ω) :
    Decidable (GainFailSafe env s step) :=
  inferInstanceAs (Decidable (_ → _))

/-! ## The ways out that set no event -/

/-- The session of the filter's host cannot be begun, or its poll fails. -/
def FilterFails (s : AvrcpControlStage Ω) : Prop :=
  V1AvrcpFilterHost.Fails env.filter (takeSnapshot env s).1 (takeSnapshot env s).2.filterStage

/-- The observer is not active, and does not take the lease. -/
def LeaseRefused (s : AvrcpControlStage Ω) : Prop :=
  ∃ result, (offerLease env (takeSnapshot env s).1.media (takeSnapshot env s).2).1 =
    some (.ok result) ∧ result ≠ .active

/-- The reconciliation of the observer returns before it ends a session or polls one. -/
def ObserverBypassed (s : AvrcpControlStage Ω) (now : UInt64) : Prop :=
  ¬ s.state.avrcpObserverEnabled ∨
    ¬ s.suspends (takeSnapshot env s).1.media ∧
      (s.handoffUnsupported ∨ s.generationFailed ∨
        ¬ s.observer.mediaSessionActive ∧ (s.awaitsAttempt now ∨ LeaseRefused env s))

/-- A reconciliation from the stage takes a way out that sets no event. -/
def LeavesGain (s : AvrcpControlStage Ω) : AvrcpControlStep Ω → Prop
  | .reconcileFilterHost => FilterFails env s
  | .reconcileObserver now => ObserverBypassed env s now
  | .reconcileControl now =>
    if s.state.avrcpVolumeSyncEnabled then FilterFails env s else ObserverBypassed env s now
  | _ => False

/-- No such way out is taken while the event is signaled. -/
def SparesGain (s : AvrcpControlStage Ω) (step : AvrcpControlStep Ω) : Prop :=
  s.Signaled → ¬ LeavesGain env s.atCall step

end

/-! ## What leaves the gain alone -/

theorem gain_filtered (x : V1AvrcpFilterHost.Program Ω α) : Frames gain (filtered x) :=
  .within fun _ _ => rfl

theorem gain_observed (x : V1AvrcpObserverHost.Program Ω α) : Frames gain (observed x) :=
  .within fun _ _ => rfl

theorem gain_call (f : Ω → α × Ω) : Prog.Quiet gain (call f) := .step fun _ => rfl

theorem gain_onState (f : TrialState → TrialState) : Prog.Quiet (gain (Ω := Ω)) (onState f) :=
  .update fun _ => rfl

theorem gain_setNextAttemptTick (tick : UInt64) :
    Prog.Quiet (gain (Ω := Ω)) (setNextAttemptTick tick) :=
  .update fun _ => rfl

section
variable (env : AvrcpControlEnvironment Ω) {s : AvrcpControlStage Ω}

theorem gain_restoreMicrosoft : Prog.Quiet gain (restoreMicrosoft env) := by
  refine .bind (.read _) fun generation => .bind (gain_call _) fun answer => ?_
  rcases answer with e | _
  · exact .pure _
  · exact .bind (gain_call _) fun _ => .pure _

theorem gain_requestAvrcpHandoff : Prog.Quiet gain (requestAvrcpHandoff env) := by
  refine .bind (.read _) fun state => .ite (.pure _) (.bind ?_ fun completed => .ite ?_ ?_)
  · refine .bind (gain_call _) fun answer => ?_
    rcases answer with e | _
    · exact .pure _
    · exact .bind (gain_call _) fun _ => .pure _
  · exact gain_onState _
  · exact .bind (gain_onState _) fun _ => .bind (gain_restoreMicrosoft env) fun _ => .pure _

theorem gain_requestAvrcpHandoffWithEndpointQuiesce :
    Prog.Quiet gain (requestAvrcpHandoffWithEndpointQuiesce env) := by
  refine .bind (.update fun _ => rfl) fun _ => .bind (gain_requestAvrcpHandoff env) fun _ => ?_
  refine .bind (.read _) fun generation => .within ?_ fun _ _ => rfl
  exact (rebindEndpointPresenceLease_quiet generation).returns

theorem gain_endMediaSession :
    Prog.Quiet (gain (Ω := Ω)) (observed V1AvrcpObserverHost.endMediaSession) :=
  .within V1AvrcpObserverHost.returns_endMediaSession fun _ _ => rfl

theorem gain_releaseTransport :
    Prog.Quiet gain (observed (V1AvrcpObserverHost.releaseTransport env.observer)) :=
  .within (V1AvrcpObserverHost.returns_releaseTransport env.observer) fun _ _ => rfl

theorem gain_releaseToMicrosoft : Prog.Quiet gain (releaseToMicrosoft env) :=
  .bind (gain_restoreMicrosoft env) fun _ => .bind (gain_releaseTransport env) fun _ =>
    gain_onState _

theorem gain_endObserverSession : Prog.Quiet gain (endObserverSession env) := by
  have hrest : Prog.Quiet gain (do
      let s ← Prog.read id
      Prog.onlyIf (¬ s.observer.mediaSessionActive ∧ env.handoffIpcEnabled ∧
        s.state.avrcpHandoffReadyGeneration = s.state.lifecycle.aclGeneration)
        (releaseToMicrosoft env)) :=
    .bind (.read _) fun _ => .onlyIf (gain_releaseToMicrosoft env)
  refine .bind (.read _) fun active => .ite (.bind gain_endMediaSession fun _ => ?_) hrest
  exact .bind (gain_onState _) fun _ => .bind (.onlyIf (gain_releaseToMicrosoft env)) fun _ => hrest

theorem gain_withdrawLease (result : V1AvrcpObserverActivationResult) (now : UInt64) :
    Prog.Quiet gain (withdrawLease env result now) := by
  refine .bind (gain_onState _) fun _ => .bind gain_endMediaSession fun _ =>
    .bind (.onlyIf (gain_onState _)) fun _ => .ite (.bind (gain_onState _) fun _ => ?_)
      (gain_setNextAttemptTick _)
  exact .bind (gain_restoreMicrosoft env) fun _ => .bind (gain_setNextAttemptTick _) fun _ =>
    .bind (gain_releaseTransport env) fun _ => gain_onState _

theorem gain_offerLease (media : V1MediaSessionSnapshot) : Frames gain (offerLease env media) := by
  have hprepare : Prog.Quiet gain (prepareLease env) :=
    .bind (.read _) fun _ => .ite (gain_requestAvrcpHandoffWithEndpointQuiesce env) (.pure _)
  refine .bind hprepare.frames fun handed => ?_
  rcases handed with e | _
  · exact .pure _
  · exact .bind (.read _) fun _ => .bind (gain_observed _) fun _ => .pure _

theorem offerLease_active (media : V1MediaSessionSnapshot) :
    Triple (fun _ => True) (offerLease env media)
      (fun r s => r = .ok .active → s.observer.mediaSessionActive) fun _ => True := by
  refine .bind .trivial fun handed => ?_
  rcases handed with e | _
  · exact .pure fun s _ hr => by cases hr
  refine .bind .trivial fun state =>
    .bind (Q := fun r s => r.1 = .active → s.observer.mediaSessionActive) ?_ fun result =>
      .pure fun s h hr => h (by simpa using hr)
  intro s _
  exact wp_within.mpr
    (V1AvrcpObserverHost.beginMediaSession_active env.observer _ s.observerStage trivial)

/-! ## What sets the event -/

theorem setSingleGainReady_event {host : V1EngineReadyHost} {ready : Bool}
    {answer : Except UInt32 Unit} (h : (host.setSingleGainReady ready answer).1 = .ok ()) :
    (host.setSingleGainReady ready answer).2.singleGainReadyEvent = some ready := by
  unfold V1EngineReadyHost.setSingleGainReady at h ⊢
  by_cases hnone : ¬ host.singleGainFailSafeEnabled ∨ ¬ host.active
  · rw [if_pos hnone] at h
    cases h
  · rw [if_neg hnone] at h ⊢
    rcases answer with e | _
    · cases h
    · rfl

theorem setSingleGain_signaled (ready : Bool) (poll : Option AvrcpPoll) :
    Triple (fun s => s.polled = poll) (setSingleGain env ready)
      (fun r s => s.polled = poll ∧ (r = .ok () → s.Signaled → ready = true)) fun _ => True := by
  refine .bind (Q := fun engine s => s.engine = engine ∧ s.polled = poll)
    (.read fun s h => ⟨rfl, h⟩) fun engine => .ite (fun _ => ?_) fun hnone => ?_
  · refine .bind (Q := fun _ s => s.polled = poll) (.step fun s h => h.2) fun answer =>
      .step fun s h => ⟨h, fun hr hsignaled => ?_⟩
    have hevent := hsignaled.2
    rw [setSingleGainReady_event hr] at hevent
    exact Option.some.inj hevent
  · refine .pure fun s h => ⟨h.2, fun _ hsignaled => absurd ⟨?_, ?_⟩ hnone⟩
    · rw [← h.1]
      exact hsignaled.1
    · rw [← h.1, V1EngineReadyHost.singleGainFailSafeEnabled, hsignaled.2]
      rfl

/-- What a verdict promises of the gain. -/
def Promised (r : Bool × UInt32) (s : AvrcpControlStage Ω) : Prop := r.1 = true → s.SignaledReady

theorem promised_failed (e : UInt32) (s : AvrcpControlStage Ω) : Promised (false, e) s :=
  fun hr => absurd hr Bool.false_ne_true

theorem note_polled {P : AvrcpControlStage Ω → Prop} (poll : AvrcpPoll) :
    Triple P (note poll) (fun _ s => s.polled = some poll) fun _ => True :=
  .update fun _ _ => rfl

theorem setSingleGain_off {rest : Program Ω Unit} (hrest : Prog.Quiet gain rest) :
    Triple (fun _ => True) (do
      match ← setSingleGain env false with
      | .error e => return (false, e)
      | .ok () =>
        rest
        return (true, 0)) Promised fun _ => True := by
  intro s _
  refine Triple.bind (setSingleGain_signaled env false s.polled) (fun answer => ?_) s rfl
  rcases answer with e | _
  · exact .pure fun s _ => promised_failed e s
  · refine .bind (Q := fun _ s => ¬ s.Signaled) (fun s h => ?_) fun _ =>
      .pure fun s h _ hsignaled => absurd hsignaled h
    refine hrest.wp fun _ s' hgain hsignaled => Bool.false_ne_true (h.2 rfl ?_)
    have hengine : s'.engine = s.engine := congrArg Prod.fst hgain
    unfold AvrcpControlStage.Signaled at hsignaled ⊢
    rwa [hengine] at hsignaled

theorem setSingleGain_ready {ready : Bool} {poll : AvrcpPoll} (h : ready = true → poll.ready = true)
    (f : TrialState → TrialState) :
    Triple (fun s => s.polled = some poll) (do
      match ← setSingleGain env ready with
      | .error e => return (false, e)
      | .ok () =>
        onState f
        return (true, 0)) Promised fun _ => True := by
  refine .bind (setSingleGain_signaled env ready (some poll)) fun answer => ?_
  rcases answer with e | _
  · exact .pure fun s _ => promised_failed e s
  · refine .bind (Q := fun _ s => s.SignaledReady) (.update fun s hs hsignaled => ?_) fun _ =>
      .pure fun s hs _ => hs
    have hready := h (hs.2 rfl hsignaled)
    show s.polled.map AvrcpPoll.ready = some true
    rw [hs.1, Option.map_some, hready]

/-! ## The filter -/

theorem reconcileAvrcpFilterHost_promised (h : ¬ FilterFails env s) :
    wp (reconcileAvrcpFilterHost env) Promised (fun _ => True) s := by
  have hcall : Triple (fun t => t = s) (reconcileAvrcpFilterHost env) Promised fun _ => True := by
    refine .bind (Q := fun r t => (r, t) = takeSnapshot env s) (.step fun t ht => by rw [ht])
      fun r => ?_
    refine .bind (Q := fun way t => (∀ e, way ≠ .refused e ∧ way ≠ .pollFailed e) ∧
      (way = .polled → t.filterHost.sessionActive)) ?_ fun way => ?_
    · intro t ht
      have hpolled := V1AvrcpFilterHost.reconcile_polled env.filter r t.filterStage trivial
      have hfails := mt (V1AvrcpFilterHost.reconcile_fails env.filter r t.filterStage).mpr (by
        unfold FilterFails at h
        rwa [← ht] at h)
      refine wp_within.mpr ?_
      unfold wp
      generalize V1AvrcpFilterHost.reconcile env.filter r t.filterStage = run at hpolled hfails ⊢
      rcases run with ⟨_ | way, t'⟩
      · trivial
      · refine ⟨fun e => ⟨fun hway => hfails ⟨e, .inl ?_⟩, fun hway => hfails ⟨e, .inr ?_⟩⟩, hpolled⟩
        · exact congrArg some hway
        · exact congrArg some hway
    · cases way with
      | disabled => exact (setSingleGain_off env (gain_onState _)).pre fun _ _ => trivial
      | refused e => exact fun t ht => absurd rfl (ht.1 e).1
      | pollFailed e => exact fun t ht => absurd rfl (ht.1 e).2
      | polled =>
        refine .bind (Q := fun _ t => t.filterHost.sessionActive) (.step fun t ht => ht.2 rfl)
          fun endpointReady => ?_
        refine .bind (Q := fun s _ => s.filterHost.sessionActive) (.read fun t ht => ht) fun t => ?_
        by_cases hactive : t.filterHost.sessionActive
        · refine .bind (note_polled _) fun _ => setSingleGain_ready env (fun hready => ?_) _
          rw [Bool.and_eq_true] at hready
          simp only [AvrcpPoll.ready, hactive, hready.1, hready.2, Bool.and_self]
        · exact fun _ ht => absurd ht hactive
  exact hcall s rfl

theorem reconcileAvrcpFilterHost_left (h : FilterFails env s) :
    wp (reconcileAvrcpFilterHost env) (fun r t => r.1 = true ∧ t.gain = s.gain) (fun _ => False)
      s := by
  obtain ⟨e, hway⟩ := (V1AvrcpFilterHost.reconcile_fails env.filter _ _).mp h
  have hgain := gain_filtered (V1AvrcpFilterHost.reconcile env.filter (takeSnapshot env s).1)
    (takeSnapshot env s).2
  have hleave : ∀ t : AvrcpControlStage Ω, t.gain = s.gain → wp (do
      onState fun state => { state with avrcpObserverActive := false }
      return (true, e)) (fun r t => r.1 = true ∧ t.gain = s.gain) (fun _ => False) t :=
    fun t ht => ⟨rfl, ht⟩
  unfold reconcileAvrcpFilterHost
  rw [wp_bind, wp_step, wp_bind]
  unfold filtered at hgain ⊢
  rw [wp_within]
  unfold within at hgain
  unfold wp
  generalize V1AvrcpFilterHost.reconcile env.filter (takeSnapshot env s).1
    (takeSnapshot env s).2.filterStage = run at hway hgain ⊢
  obtain ⟨way, t⟩ := run
  rcases hway with hway | hway
  · subst hway
    exact hleave _ hgain
  · subst hway
    exact hleave _ hgain

/-! ## The observer -/

theorem timeOutControl_promised :
    Triple (fun _ => True) (timeOutControl env) Promised fun _ => True := by
  refine .bind .trivial fun _ => .bind .trivial fun _ => setSingleGain_off env (.onlyIf ?_)
  exact .bind (gain_releaseToMicrosoft env) fun _ => gain_onState _

theorem pollObserver_promised (now : UInt64) :
    Triple (fun s => s.observer.mediaSessionActive) (pollObserver env now) Promised
      fun _ => True := by
  refine .bind (Q := fun active _ => active = true) (.read fun s h => h) fun active => ?_
  refine .bind (Q := fun _ _ => active = true) (fun s h => ?_) fun polled => ?_
  · refine wp_within.mpr ?_
    unfold wp
    split
    · exact h
    · trivial
  rcases polled with e | _
  · have hrest : Prog.Quiet gain (Pure.pure () : Program Ω Unit) := .pure ()
    exact .bind .trivial fun _ => setSingleGain_off env hrest
  · refine .bind (Q := fun _ _ => active = true) (.read fun s h => h) fun s => ?_
    by_cases hactive : active = true
    · refine .bind (note_polled _) fun _ =>
        .ite (fun _ => (timeOutControl_promised env).pre fun _ _ => trivial) fun _ => ?_
      refine .bind (Q := fun _ t => t.polled = some _) (.ite (fun _ => .update fun _ ht => ht)
        fun _ => .pure fun _ ht => ht) fun _ => setSingleGain_ready env (fun hready => ?_) _
      simp only [V1AvrcpObserverHost.singleGainReady, decide_eq_true_eq] at hready
      simp only [AvrcpPoll.ready, hactive, Bool.and_eq_true]
      exact ⟨⟨trivial, hready.1⟩, hready.2⟩
    · exact fun _ h => absurd h hactive

theorem reconcileAvrcpObserver_promised {now : UInt64} (h : ¬ ObserverBypassed env s now) :
    wp (reconcileAvrcpObserver env now) Promised (fun _ => True) s := by
  unfold ObserverBypassed at h
  push Not at h
  obtain ⟨henabled, hways⟩ := h
  unfold reconcileAvrcpObserver
  rw [wp_bind, wp_read, id, if_neg (not_not.mpr henabled), wp_bind, wp_step]
  by_cases hsuspends : s.suspends (takeSnapshot env s).1.media
  · rw [if_pos hsuspends]
    exact setSingleGain_off env (gain_endObserverSession env) _ trivial
  obtain ⟨hsupported, hkept, hlease⟩ := hways hsuspends
  rw [if_neg hsuspends, if_neg hsupported, if_neg hkept]
  by_cases hactive : s.observer.mediaSessionActive
  · rw [if_pos hactive]
    refine Triple.bind (P := fun t => t.observer.mediaSessionActive) ?_
      (fun _ => pollObserver_promised env now) (takeSnapshot env s).2 hactive
    refine .ite (fun _ => ?_) fun hnot => absurd hactive hnot
    refine fun t ht => wp_within.mpr ?_
    exact ((Triple.frames (p := fun active => active = true)
      (V1AvrcpObserverHost.setMediaSessionSnapshot_mediaSessionActive env.observer _)).conseq
        (fun _ => id) (fun _ _ => id) fun _ _ => trivial) t.observerStage ht
  · obtain ⟨hdue, htaken⟩ := hlease hactive
    rw [if_neg hactive, if_neg hdue]
    refine Triple.bind (P := fun t => t = (takeSnapshot env s).2) (Q := fun _ t => t = _)
      (.ite (fun h => absurd h hactive) fun _ => .pure fun t ht => ht) (fun _ t ht => ?_) _ rfl
    subst ht
    have hoffered := offerLease_active env (takeSnapshot env s).1.media (takeSnapshot env s).2 trivial
    show wp _ _ _ _
    unfold activateObserver
    rw [wp_bind]
    unfold LeaseRefused at htaken
    unfold wp
    generalize offerLease env (takeSnapshot env s).1.media (takeSnapshot env s).2 = run
      at htaken hoffered ⊢
    obtain ⟨_ | (e | result), t⟩ := run
    · trivial
    · exact promised_failed e t
    · have hresult : result = .active := by
        by_contra hne
        exact htaken ⟨result, rfl, hne⟩
      subst hresult
      exact Triple.bind (Q := fun _ t => t.observer.mediaSessionActive) (.update fun _ h => h)
        (fun _ => .bind (Q := fun _ t => t.observer.mediaSessionActive) (.update fun _ h => h)
          fun _ => pollObserver_promised env now) t (hoffered rfl)

theorem activateObserver_left {media : V1MediaSessionSnapshot} (now : UInt64)
    {result : V1AvrcpObserverActivationResult}
    (hoffer : (offerLease env media s).1 = some (.ok result)) (hresult : result ≠ .active) :
    wp (activateObserver env media now) (fun r t => r.1 = true ∧ t.gain = s.gain) (fun _ => False)
      s := by
  have hwithdraw : ∀ t : AvrcpControlStage Ω, t.gain = s.gain → wp (do
      withdrawLease env result now
      return (true, 0)) (fun (r : Bool × UInt32) t => r.1 = true ∧ t.gain = s.gain)
      (fun _ => False) t := by
    intro t ht
    rw [wp_bind]
    exact (gain_withdrawLease env result now).wp fun _ t' ht' => ⟨rfl, ht'.trans ht⟩
  have hrun : offerLease env media s = (some (.ok result), (offerLease env media s).2) :=
    Prod.ext hoffer rfl
  have hgain := gain_offerLease env media s
  unfold activateObserver wp
  rw [bind_run hrun]
  cases result with
  | active => exact absurd rfl hresult
  | _ => exact hwithdraw _ hgain

theorem reconcileAvrcpObserver_left {now : UInt64} (h : ObserverBypassed env s now) :
    wp (reconcileAvrcpObserver env now) (fun r t => r.1 = true ∧ t.gain = s.gain)
      (fun _ => False) s := by
  unfold reconcileAvrcpObserver
  rw [wp_bind, wp_read, id]
  by_cases henabled : s.state.avrcpObserverEnabled
  · obtain ⟨hkept, hways⟩ := h.resolve_left (not_not.mpr henabled)
    rw [if_neg (not_not.mpr henabled), wp_bind, wp_step, if_neg hkept, wp_bind]
    have hsnapshot : Prog.Quiet gain (Prog.onlyIf (s.observer.mediaSessionActive = true)
        (observed (V1AvrcpObserverHost.setMediaSessionSnapshot env.observer
          (takeSnapshot env s).1.media))) :=
      .onlyIf (.within (V1AvrcpObserverHost.returns_setMediaSessionSnapshot env.observer _)
        fun _ _ => rfl)
    by_cases hactive : s.observer.mediaSessionActive
    · refine hsnapshot.wp fun _ t ht => ?_
      by_cases hunsupported : s.handoffUnsupported
      · rw [if_pos hunsupported]
        exact ⟨rfl, ht⟩
      · have hfailed := (hways.resolve_left hunsupported).resolve_right fun h => h.1 hactive
        rw [if_neg hunsupported, if_pos hfailed]
        exact ⟨rfl, ht⟩
    · rw [wp_onlyIf, if_neg hactive]
      split_ifs with hunsupported hfailed hawaits
      · exact ⟨rfl, rfl⟩
      · exact ⟨rfl, rfl⟩
      · exact ⟨rfl, rfl⟩
      · obtain ⟨-, hawaits' | ⟨result, hoffer, hresult⟩⟩ :=
          (hways.resolve_left hunsupported).resolve_left hfailed
        · exact absurd hawaits' hawaits
        · exact activateObserver_left env now hoffer hresult
  · rw [if_pos henabled]
    exact ⟨rfl, rfl⟩

/-! ## Runs -/

theorem promise_iff {x : Program Ω (Bool × UInt32)} {Leaves : Prop}
    (hkept : ¬ Leaves → wp x Promised (fun _ => True) s.atCall)
    (hleft : Leaves → wp x (fun r t => r.1 = true ∧ t.gain = s.atCall.gain) (fun _ => False)
      s.atCall) :
    ((x s.atCall).1.map Prod.fst = some true → (x s.atCall).2.SignaledReady) ↔
      (s.Signaled → ¬ Leaves) := by
  by_cases hl : Leaves
  · obtain ⟨r, t, hrun, hr, hgain⟩ := wp_run (hleft hl)
    have hengine : t.engine = s.engine := congrArg Prod.fst hgain
    have hpolled : t.polled = none := congrArg Prod.snd hgain
    have hsignaled : t.Signaled ↔ s.Signaled := by
      unfold AvrcpControlStage.Signaled
      rw [hengine]
    rw [hrun]
    constructor
    · intro h hs
      have hready := h (congrArg some hr) (hsignaled.mpr hs)
      rw [hpolled] at hready
      cases hready
    · exact fun h _ ht => absurd hl (h (hsignaled.mp ht))
  · refine iff_of_true (fun hr => ?_) fun _ => hl
    have h := hkept hl
    unfold wp at h
    generalize x s.atCall = run at h hr ⊢
    obtain ⟨_ | r, t⟩ := run
    · cases hr
    · exact h (Option.some.inj hr)

theorem gainFailSafe_iff_spares (s : AvrcpControlStage Ω) (step : AvrcpControlStep Ω) :
    GainFailSafe env s step ↔ SparesGain env s step := by
  have hother : step.program env = none → ¬ LeavesGain env s.atCall step →
      (GainFailSafe env s step ↔ SparesGain env s step) := by
    intro hnone hkept
    refine iff_of_true (fun hr => ?_) fun _ => hkept
    simp only [Reducer.out, avrcpControl, hnone] at hr
    cases hr
  cases step with
  | reconcileFilterHost =>
    exact promise_iff (reconcileAvrcpFilterHost_promised env) (reconcileAvrcpFilterHost_left env)
  | reconcileObserver now =>
    exact promise_iff (reconcileAvrcpObserver_promised env) (reconcileAvrcpObserver_left env)
  | reconcileControl now =>
    refine promise_iff (x := reconcileAvrcpControl env now) (fun h => ?_) fun h => ?_
    all_goals
      unfold reconcileAvrcpControl
      rw [wp_bind, wp_read]
      simp only [LeavesGain] at h
      by_cases hsync : s.atCall.state.avrcpVolumeSyncEnabled
    · rw [if_pos hsync] at h ⊢
      exact reconcileAvrcpFilterHost_promised env h
    · rw [if_neg hsync] at h ⊢
      exact reconcileAvrcpObserver_promised env h
    · rw [if_pos hsync] at h ⊢
      exact reconcileAvrcpFilterHost_left env h
    · rw [if_neg hsync] at h ⊢
      exact reconcileAvrcpObserver_left env h
  | startEngine transportWorker applyEndpointVolume discoveryWorker answer =>
    exact hother rfl id
  | stopEngine mode answers => exact hother rfl id
  | endSessions => exact hother rfl id
  | elsewhere world state nextAttemptTick => exact hother rfl id

/-- **The fail-safe of the single gain**: along every run, a reconciliation that succeeds leaves
    the event signaled only for a session that it found ready, exactly when none of them takes
    a way out that sets no event while the event is signaled. -/
theorem gain_failSafe_iff (s : AvrcpControlStage Ω) (steps : List (AvrcpControlStep Ω)) :
    (avrcpControl env).Along (GainFailSafe env) s steps ↔
      (avrcpControl env).Along (SparesGain env) s steps :=
  Reducer.along_congr (P := fun _ => True) (Q := fun _ _ => True) (fun _ _ _ _ _ => trivial)
    (fun s step _ _ => gainFailSafe_iff_spares env s step) trivial
    (Reducer.along_of_forall (fun _ _ => trivial) s steps)

end

/-! ## A poll that fails -/

/-- The endpoint, the keyboard, the clock and the writer do as they are told. -/
def obedientEndpoint : AvrcpEnvironment (List (Except UInt32 AvrcpObserverEvent)) where
  ensureVolume script := (true, script)
  setWindowsVolume _ script := (true, script)
  queryWindowsVolume script := (none, script)
  windowsVolumeNotificationsActive script := (true, script)
  consumeWindowsVolumeChange script := (none, script)
  injectVirtualKey _ script := (true, script)
  writeAvrcp _ _ _ script := (true, script)
  getTickCount script := (0, script)

/-- A filter whose events are scripted, and an observer that cannot be opened. -/
def scriptedControl : AvrcpControlEnvironment (List (Except UInt32 AvrcpObserverEvent)) where
  filter :=
    { obedientEndpoint with
      openFilter := fun script => (.ok (), script)
      dequeueEvent := fun script => (script.headD (.error errorNoMoreItems), script.tail) }
  observer :=
    { obedientEndpoint with
      openReadOnly := fun script => (.error V1AvrcpObserverHost.errorFileNotFound, script)
      openReadWrite := fun script => (.error V1AvrcpObserverHost.errorFileNotFound, script)
      closeDriver := fun script => ((), script)
      getVersion := fun script => (.error errorInvalidState, script)
      getStatus := fun script => (.error errorInvalidState, script)
      beginObservation := fun script => (.error errorInvalidState, script)
      dequeueEvent := fun script => (.error errorNoMoreItems, script) }
  endpoint :=
    { settles := fun script => (true, script)
      queryInfo := fun script => (.hung, script)
      queryPresence := fun script => (.hung, script)
      setPresence := fun _ script => (.hung, script)
      enumerate := fun script => (.ok ([], none), script) }
  monitorSnapshot _ script := (none, script)
  windowsVolumeEndpointReady script := (true, script)
  handoffIpcEnabled := false
  requestHandoff _ script := (.ok (), script)
  waitHandoffDone script := (.ok, script)
  requestRestore _ script := (.ok (), script)
  waitRestoreDone script := (.ok, script)
  setSingleGainEvent _ script := (.ok (), script)

/-- The headset is connected, and its volume is synchronised. -/
def synchronised : TrialState where
  lifecycle := { physicalPresence := .present, aclGeneration := 1 }
  avrcpVolumeSyncEnabled := true

/-- The filter reports the headset's volume; then its device is gone. -/
def volumeThenGone : List (Except UInt32 AvrcpObserverEvent) :=
  [.error errorNoMoreItems, .ok { kind := .volumeCapability, volumeSupported := 1 },
    .ok { kind := .volumeChanged, absoluteVolume := 64, responseCode := avrcpResponseChanged },
    .error errorNoMoreItems, .error V1AvrcpFilterHost.errorNoSuchDevice]

/-- An engine starts, the session is found ready, and its next poll fails: the call succeeds
    without a session, and leaves the event signaled. -/
theorem gain_left_off :
    let steps : List (AvrcpControlStep (List (Except UInt32 AvrcpObserverEvent))) :=
      [.startEngine true false false (.ok ()), .reconcileFilterHost]
    let start : AvrcpControlStage (List (Except UInt32 AvrcpObserverEvent)) :=
      { world := volumeThenGone, state := synchronised }
    let s := (avrcpControl scriptedControl).after start steps
    let t := (avrcpControl scriptedControl).next s .reconcileFilterHost
    s.Signaled ∧ s.SignaledReady ∧
      (avrcpControl scriptedControl).out s .reconcileFilterHost =
        some (true, V1AvrcpFilterHost.errorNoSuchDevice) ∧
      t.Signaled ∧ t.filterHost.sessionActive = false ∧
      ¬ (avrcpControl scriptedControl).Along (GainFailSafe scriptedControl) start
        (steps ++ [.reconcileFilterHost]) := by
  decide +kernel

end NativeLdac.Agent
