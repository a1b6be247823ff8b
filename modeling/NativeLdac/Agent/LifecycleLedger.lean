/-
  The resource ledger of the lifecycle stress test
  (`agent/tests/v1_lifecycle_stress_tests.cpp`): what an executor of the action
  words holds (endpoint, engine, transport), and the stop it waits for and
  feeds back to the reducer.

  `stress` composes the reducer with the ledger, one external event at a time.
  `Settled` is the invariant of its settled states.
-/
import Mathlib.Tactic.SplitIfs
import NativeLdac.Agent.LifecycleEffect

namespace NativeLdac.Agent

structure ResourceLedger where
  endpointPresent : Bool := false
  engineActive : Bool := false
  transportAuthorized : Bool := false
  engineGeneration : UInt64 := 0
  deriving DecidableEq, Repr

def applyExternalEvent (resources : ResourceLedger) : V1LifecycleEvent → ResourceLedger
  | .engineExited => { resources with engineActive := false, engineGeneration := 0 }
  | .transportOpenSuppressed | .transportRetryableFailure | .mediaFailed =>
    { resources with transportAuthorized := false }
  | .mediaStopped =>
    { resources with transportAuthorized := false, engineActive := false, engineGeneration := 0 }
  | _ => resources

/-- The endpoint and engine actions of a word, executed before its transport
    actions. -/
def applyEngineActions (resources : ResourceLedger) (state : V1LifecycleState)
    (actions : UInt32) : ResourceLedger :=
  let resources := if hasV1LifecycleAction actions .publishEndpointPresent then
    { resources with endpointPresent := true } else resources
  let resources := if hasV1LifecycleAction actions .publishEndpointAbsent then
    { resources with endpointPresent := false } else resources
  let resources := if hasV1LifecycleAction actions .startEngine then
    { resources with engineActive := true, engineGeneration := state.aclGeneration } else resources
  if hasV1LifecycleAction actions .stopEngine then
    { resources with engineActive := false, engineGeneration := 0 } else resources

/-- `ApplyActions`: `false` if an OPEN crosses the engine's ACL generation. -/
def applyActions (resources : ResourceLedger) (state : V1LifecycleState) (actions : UInt32) :
    Bool × ResourceLedger :=
  let resources := applyEngineActions resources state actions
  if hasV1LifecycleAction actions .openTransport ∧
      (¬ resources.engineActive ∨ resources.engineGeneration ≠ state.aclGeneration) then
    (false, resources)
  else
    let resources := if hasV1LifecycleAction actions .openTransport then
      { resources with transportAuthorized := true } else resources
    let resources := if hasV1LifecycleAction actions .cancelTransport ∨
        hasV1LifecycleAction actions .gracefulStopTransport then
      { resources with transportAuthorized := false } else resources
    (true, resources)

/-- `SettleSynchronousStop`: a graceful stop feeds back `MediaStopped`, a local
    stop `EngineExited`; `false` if the event fed back emits an action. -/
def settleSynchronousStop (state : V1LifecycleState) (resources : ResourceLedger)
    (actions : UInt32) : Bool × V1LifecycleState × ResourceLedger :=
  if ¬ hasV1LifecycleAction actions .stopEngine then (true, state, resources)
  else if hasV1LifecycleAction actions .gracefulStopTransport then
    let followup := reduceV1Lifecycle state .mediaStopped
    (followup.1 = v1ActionNone, followup.2, applyExternalEvent resources .mediaStopped)
  else if ¬ hasV1LifecycleAction actions .cancelTransport then
    let followup := reduceV1Lifecycle state .engineExited
    (followup.1 = v1ActionNone, followup.2, applyExternalEvent resources .engineExited)
  else (state.engineLease = .absent, state, resources)

/-- The lifecycle state and the resources its executor holds. -/
structure Stress where
  state : V1LifecycleState
  resources : ResourceLedger
  deriving DecidableEq, Repr

/-- What the stress test observes of one event. -/
structure StressOutput where
  /-- the action word of the event -/
  actions : UInt32
  /-- the state the reducer leaves, before a stop is fed back -/
  reduced : V1LifecycleState
  /-- the ledger the endpoint and engine actions leave -/
  engines : ResourceLedger
  /-- the verdict of `ApplyActions` -/
  applied : Bool
  /-- the verdict of `SettleSynchronousStop` -/
  settled : Bool

/-- The executor's part of one event: the actions, then the synchronous stop. -/
def execute (resources : ResourceLedger) (r : UInt32 × V1LifecycleState) :
    StressOutput × Stress :=
  let applied := applyActions resources r.2 r.1
  let settled := settleSynchronousStop r.2 applied.2 r.1
  (⟨r.1, r.2, applyEngineActions resources r.2 r.1, applied.1, settled.1⟩,
    ⟨settled.2.1, settled.2.2⟩)

/-- One external event: its own effect on the ledger, the reducer, and the
    executor. -/
def stress : Reducer Stress V1LifecycleEvent StressOutput where
  step x event := execute (applyExternalEvent x.resources event) (reduceV1Lifecycle x.state event)

open V1LifecycleAction

def Stress.initial (c : V1LifecycleConfig) : Stress := ⟨c.initial, {}⟩

/-! ## The invariant -/

/-- The invariant of the settled states: the ledger holds what the state says. -/
structure Settled (x : Stress) : Prop where
  wf : x.state.Wf
  endpoint : x.resources.endpointPresent = true ↔ x.state.physicalPresence = .present
  engine : x.resources.engineActive = true ↔ x.state.engineLease ≠ .absent
  generation : x.state.engineLease ≠ .absent →
    x.resources.engineGeneration = x.state.aclGeneration
  transport : x.resources.transportAuthorized = true → x.state.Transporting

theorem settled_initial (c : V1LifecycleConfig) : Settled (Stress.initial c) := by
  refine ⟨⟨?_, ?_, ?_, ?_⟩, ?_, ?_, ?_, ?_⟩ <;>
    simp [Stress.initial, V1LifecycleConfig.initial, V1LifecycleState.Transporting]

structure StressOutput.Consistent (o : StressOutput) : Prop where
  opens : hasV1LifecycleAction o.actions .openTransport →
    o.engines.engineActive = true ∧ o.engines.engineGeneration = o.reduced.aclGeneration
  applied : o.applied = true
  exclusive : ¬ (hasV1LifecycleAction o.actions .cancelTransport ∧
    hasV1LifecycleAction o.actions .gracefulStopTransport)
  settled : o.settled = true

/-! ## Executing one word -/

/-- The ledger after the event's own effect on it: only the end of the engine
    touches the engine. -/
structure Ready (x : Stress) (e : V1LifecycleEvent) (r : ResourceLedger) : Prop where
  endpoint : r.endpointPresent = x.resources.endpointPresent
  spared : e.SparesEngine → r.engineActive = x.resources.engineActive ∧
    r.engineGeneration = x.resources.engineGeneration
  exited : ¬ e.SparesEngine → r.engineActive = false
  transport : r.transportAuthorized = true → x.resources.transportAuthorized = true ∧
    e ≠ .transportOpenSuppressed ∧ e ≠ .mediaFailed ∧ e ≠ .mediaStopped

theorem ready_external (x : Stress) (e : V1LifecycleEvent) :
    Ready x e (applyExternalEvent x.resources e) := by
  constructor <;> cases e <;> simp [applyExternalEvent, V1LifecycleEvent.SparesEngine]

variable {r : ResourceLedger} {x : Stress} {s : V1LifecycleState} {w : UInt32}

theorem Ready.inactive {e : V1LifecycleEvent} (hr : Ready x e r) (h : Settled x)
    (hl : x.state.engineLease = .absent) :
    r.engineActive = false := by
  by_cases he : e.SparesEngine
  · rw [(hr.spared he).1, Bool.eq_false_iff, ne_eq, h.engine]
    exact fun hn => hn hl
  · exact hr.exited he

theorem Ready.unauthorized {e : V1LifecycleEvent} (hr : Ready x e r) (h : Settled x)
    (ht : ¬ x.state.Transporting) :
    r.transportAuthorized = false := by
  rw [Bool.eq_false_iff]
  exact fun hc => ht (h.transport (hr.transport hc).1)

theorem settled_of_absent (hl : x.state.engineLease = .absent) (hm : ¬ x.state.mediaSession.live)
    (hp : x.resources.endpointPresent = true ↔ x.state.physicalPresence = .present)
    (he : x.resources.engineActive = false) (ht : x.resources.transportAuthorized = false) :
    Settled x where
  wf := wf_of_absent hl hm
  endpoint := hp
  engine := by simp [he, hl]
  generation h := absurd hl h
  transport h := by simp [ht] at h

theorem settle_graceful (hs : hasV1LifecycleAction w .stopEngine)
    (hg : hasV1LifecycleAction w .gracefulStopTransport)
    (hp : r.endpointPresent = true ↔ s.physicalPresence = .present) :
    (settleSynchronousStop s r w).1 = true ∧
      Settled ⟨(settleSynchronousStop s r w).2.1, (settleSynchronousStop s r w).2.2⟩ := by
  simp only [settleSynchronousStop, hs, hg, not_true_eq_false, if_false, if_true]
  refine ⟨by simp [reduceV1Lifecycle], settled_of_absent rfl ?_ ?_ rfl rfl⟩
  · simp [reduceV1Lifecycle, V1MediaSession.live]
  · simp only [reduceV1Lifecycle, applyExternalEvent]
    split_ifs <;> exact hp

theorem settle_local (hs : hasV1LifecycleAction w .stopEngine)
    (hg : hasV1LifecycleAction w .gracefulStopTransport = false)
    (hc : hasV1LifecycleAction w .cancelTransport = false) (hm : ¬ s.mediaSession.live)
    (hp : r.endpointPresent = true ↔ s.physicalPresence = .present)
    (ht : r.transportAuthorized = false) :
    (settleSynchronousStop s r w).1 = true ∧
      Settled ⟨(settleSynchronousStop s r w).2.1, (settleSynchronousStop s r w).2.2⟩ := by
  simp only [settleSynchronousStop, hs, hg, hc, not_true_eq_false, if_false, Bool.false_eq_true,
    not_false_eq_true, if_true, reduce_engineExited hm]
  exact ⟨by simp, settled_of_absent rfl hm hp rfl ht⟩

theorem settle_revoked (hg : hasV1LifecycleAction w .gracefulStopTransport = false)
    (hc : hasV1LifecycleAction w .cancelTransport) (hl : s.engineLease = .absent) :
    settleSynchronousStop s r w = (true, s, r) := by
  simp [settleSynchronousStop, hg, hc, hl]

theorem settle_running (hs : hasV1LifecycleAction w .stopEngine = false) :
    settleSynchronousStop s r w = (true, s, r) := by
  simp [settleSynchronousStop, hs]

/-- What a quiet word leaves of the ledger. -/
structure QuietlyApplied (r r' : ResourceLedger) (w : UInt32) : Prop where
  endpoint : r'.endpointPresent = r.endpointPresent
  stopped : hasV1LifecycleAction w .stopEngine → r'.engineActive = false
  running : hasV1LifecycleAction w .stopEngine = false →
    r'.engineActive = r.engineActive ∧ r'.engineGeneration = r.engineGeneration
  transport : r'.transportAuthorized = true →
    r.transportAuthorized = true ∧ hasV1LifecycleAction w .cancelTransport = false

theorem applyActions_quiet (hq : Quiet w) (r : ResourceLedger) (s : V1LifecycleState) :
    (applyActions r s w).1 = true ∧ QuietlyApplied r (applyActions r s w).2 w := by
  obtain ⟨h1, h2, h3, h4⟩ := hq
  simp only [applyActions, applyEngineActions, h1, h2, h3, h4, Bool.false_eq_true, if_false,
    false_and, true_and]
  constructor <;> cases hasV1LifecycleAction w .stopEngine <;>
    cases hasV1LifecycleAction w .cancelTransport <;>
    cases hasV1LifecycleAction w .gracefulStopTransport <;> simp

theorem consistent_of_noOpen {o : StressOutput}
    (ho : hasV1LifecycleAction o.actions .openTransport = false) (ha : o.applied = true)
    (hx : hasV1LifecycleAction o.actions .cancelTransport = false ∨
      hasV1LifecycleAction o.actions .gracefulStopTransport = false) (hs : o.settled = true) :
    o.Consistent where
  opens h := by simp [ho] at h
  applied := ha
  exclusive h := by rcases hx with hx | hx <;> simp [hx] at h
  settled := hs

/-- Nothing is held. -/
def ResourceLedger.Empty (r : ResourceLedger) : Prop :=
  r.endpointPresent = false ∧ r.engineActive = false ∧ r.transportAuthorized = false

@[simp] theorem has_disconnectActions (s : V1LifecycleState) (a : V1LifecycleAction) :
    hasV1LifecycleAction (disconnectActions s) a =
      (decide (a = .failMute ∨ a = .publishEndpointAbsent) ||
        (s.mediaSession.live && decide (a = .cancelTransport)) ||
        (decide (s.engineLease ≠ .absent) && decide (a = .stopEngine))) := by
  simp only [disconnectActions, has_or, has_ite, has_none, has_bit]
  cases a <;> simp

theorem execute_disconnect (s : V1LifecycleState) (r : ResourceLedger)
    (hl : s.engineLease = .absent → r.engineActive = false)
    (hm : ¬ s.mediaSession.live → r.transportAuthorized = false) :
    (execute r (disconnectActions s, resetDisconnectedState s)).1.Consistent ∧
      (execute r (disconnectActions s, resetDisconnectedState s)).2.state =
        resetDisconnectedState s ∧
      (execute r (disconnectActions s, resetDisconnectedState s)).2.resources.Empty := by
  by_cases hl' : s.engineLease = .absent <;> cases hm' : s.mediaSession.live <;>
    simp only [hl', hm', Bool.false_eq_true, not_false_eq_true, true_implies] at hl hm
  all_goals
    refine ⟨consistent_of_noOpen ?_ ?_ (.inr ?_) ?_, ?_, ?_, ?_, ?_⟩ <;>
      simp [execute, applyActions, applyEngineActions, settleSynchronousStop, applyExternalEvent,
        *]
  all_goals rfl

theorem execute_settled {e : V1LifecycleEvent} {s' : V1LifecycleState} (h : Settled x)
    (hr : Ready x e r) (he : Effect x.state e w s') :
    (execute r (w, s')).1.Consistent ∧ Settled (execute r (w, s')).2 := by
  have hep : r.endpointPresent = true ↔ x.state.physicalPresence = .present :=
    hr.endpoint ▸ h.endpoint
  cases he with
  | connect hp hp' hl hm =>
    have hl₀ : x.state.engineLease = .absent := by
      by_contra hl₀; simp [h.wf.presence hl₀] at hp
    have ht₀ : ¬ x.state.Transporting := fun ht => by simp [h.wf.transporting ht] at hl₀
    refine ⟨consistent_of_noOpen (by simp [execute]) (by simp [execute, applyActions])
      (.inl (by simp [execute])) (by simp [execute, settleSynchronousStop]), ?_⟩
    simp only [execute, settle_running (w := publishEndpointPresent.bit) (by simp)]
    refine settled_of_absent hl (by simp [hm, V1MediaSession.live]) ?_ ?_ ?_
    · simp [applyActions, applyEngineActions, hp']
    · simpa [applyActions, applyEngineActions] using hr.inactive h hl₀
    · simpa [applyActions, applyEngineActions] using hr.unauthorized h ht₀
  | disconnect he =>
    obtain ⟨hc, hs, h₁, h₂, h₃⟩ := execute_disconnect x.state r (hr.inactive h)
      fun hm => hr.unauthorized h (not_transporting_of_not_live hm)
    refine ⟨hc, settled_of_absent ?_ ?_ ?_ h₂ h₃⟩
    · rw [hs]; rfl
    · rw [hs]; simp [resetDisconnectedState, V1MediaSession.live]
    · rw [hs, h₁]; simp [resetDisconnectedState]
  | start hl hp hp' hg hl' hm =>
    have ht₀ : ¬ x.state.Transporting := fun ht => by simp [h.wf.transporting ht] at hl
    have ht : ¬ s'.Transporting := by simpa only [V1LifecycleState.Transporting, hm] using ht₀
    refine ⟨consistent_of_noOpen (by simp [execute]) (by simp [execute, applyActions])
      (.inl (by simp [execute])) (by simp [execute, settleSynchronousStop]), ?_⟩
    simp only [execute, settle_running (w := startEngine.bit) (by simp)]
    constructor
    · exact ⟨fun _ => hp', by simp [hl'], fun h => absurd h ht, hm ▸ h.wf.stopping⟩
    all_goals simp [applyActions, applyEngineActions, hl', hp', hep, hp, hr.unauthorized h ht₀]
  | opened hs hl hp hg hl' hm ha =>
    obtain ⟨hact, hgen⟩ := hr.spared hs
    have hea : r.engineActive = true := hact ▸ h.engine.2 (by simp [hl])
    have hgn : r.engineGeneration = s'.aclGeneration := by
      rw [hgen, hg]; exact h.generation (by simp [hl])
    have hpr : s'.physicalPresence = .present := hp ▸ h.wf.presence (by simp [hl])
    constructor
    · constructor <;> simp [execute, applyActions, applyEngineActions, settleSynchronousStop, hea, hgn]
    · simp only [execute, settle_running (w := openTransport.bit) (by simp)]
      constructor
      · exact ⟨fun _ => hpr, fun _ => ha, fun _ => hl', by simp [hm]⟩
      all_goals simp [applyActions, applyEngineActions, hea, hgn, hl', hpr, hm, hep, ← hp,
        V1LifecycleState.Transporting]
  | stopGraceful hq hs hg hc hp =>
    obtain ⟨hap, hq'⟩ := applyActions_quiet hq r s'
    obtain ⟨hset, hst⟩ := settle_graceful (s := s') (r := (applyActions r s' w).2) hs hg
      (by rw [hq'.endpoint, hp]; exact hep)
    exact ⟨consistent_of_noOpen hq.noOpen hap (.inl hc) hset, hst⟩
  | stopLocal hq hs hg hc ht hm hp =>
    obtain ⟨hap, hq'⟩ := applyActions_quiet hq r s'
    have htr : (applyActions r s' w).2.transportAuthorized = false := by
      rw [Bool.eq_false_iff]
      exact fun hc => by simpa [hr.unauthorized h ht] using (hq'.transport hc).1
    obtain ⟨hset, hst⟩ := settle_local (s := s') (r := (applyActions r s' w).2) hs hg hc hm
      (by rw [hq'.endpoint, hp]; exact hep) htr
    exact ⟨consistent_of_noOpen hq.noOpen hap (.inl hc) hset, hst⟩
  | revoke hq hs hg hc hl hm hp =>
    obtain ⟨hap, hq'⟩ := applyActions_quiet hq r s'
    have hset := settle_revoked (r := (applyActions r s' w).2) hg hc hl
    have htr : (applyActions r s' w).2.transportAuthorized = false := by
      rw [Bool.eq_false_iff]
      exact fun ht => by simp [(hq'.transport ht).2] at hc
    refine ⟨consistent_of_noOpen hq.noOpen hap (.inr hg) (by simp only [execute, hset]), ?_⟩
    simp only [execute, hset]
    exact settled_of_absent hl hm (by rw [hq'.endpoint, hp]; exact hep) (hq'.stopped hs) htr
  | exited he hq hs hg hc hl hm hp =>
    obtain ⟨hap, hq'⟩ := applyActions_quiet hq r s'
    have hset := settle_running (s := s') (r := (applyActions r s' w).2) hs
    have hex : ¬ e.SparesEngine := by rintro ⟨h1, h2⟩; exact he.elim h1 h2
    have htr : (applyActions r s' w).2.transportAuthorized = false := by
      rw [Bool.eq_false_iff]
      intro ht
      obtain ⟨hrt, hcan⟩ := hq'.transport ht
      rcases hc (h.transport (hr.transport hrt).1) with hc | hc
      · simp [hcan] at hc
      · exact (hr.transport hrt).2.2.2 hc
    refine ⟨consistent_of_noOpen hq.noOpen hap (.inr hg) (by simp only [execute, hset]), ?_⟩
    simp only [execute, hset]
    exact settled_of_absent hl hm (by rw [hq'.endpoint, hp]; exact hep)
      ((hq'.running hs).1.trans (hr.exited hex)) htr
  | keep hsp hq hs hg hp hgen hl ha ht hm ht' =>
    obtain ⟨hap, hq'⟩ := applyActions_quiet hq r s'
    obtain ⟨hact, hgn⟩ := hr.spared hsp
    have hset := settle_running (s := s') (r := (applyActions r s' w).2) hs
    refine ⟨consistent_of_noOpen hq.noOpen hap (.inr hg) (by simp only [execute, hset]), ?_⟩
    simp only [execute, hset]
    constructor
    · refine ⟨by rw [hl, hp]; exact h.wf.presence, fun h' => ?_, fun h' => ?_, hm⟩
      · rw [ha h']; exact h.wf.ready (hl ▸ h')
      · rw [hl]; exact h.wf.transporting (ht h')
    · rw [hq'.endpoint, hp]; exact hep
    · rw [(hq'.running hs).1, hact, hl]; exact h.engine
    · rw [(hq'.running hs).2, hgn, hl, hgen]; exact h.generation
    · intro hta
      obtain ⟨hxt, hsup, hfail, -⟩ := hr.transport (hq'.transport hta).1
      exact (ht' (h.transport hxt)).elim id fun h => (h.elim hsup hfail).elim

/-! ## Whole runs -/

theorem next_settled (h : Settled x) (e : V1LifecycleEvent) :
    Settled (stress.next x e) :=
  (execute_settled h (ready_external x e) (reduce_effect h.wf e)).2

/-- What one event of a run satisfies. -/
structure StepConsistent (x : Stress) (e : V1LifecycleEvent) : Prop where
  output : (stress.out x e).Consistent
  disconnect : e = .aclDisconnected ∨ e = .watcherLeaseExpired →
    (stress.next x e).state = resetDisconnectedState x.state ∧
      (stress.next x e).resources.Empty

theorem step_consistent (h : Settled x) (e : V1LifecycleEvent) :
    StepConsistent x e where
  output := (execute_settled h (ready_external x e) (reduce_effect h.wf e)).1
  disconnect he := by
    have hr := ready_external x e
    have hd : reduceV1Lifecycle x.state e =
        (disconnectActions x.state, resetDisconnectedState x.state) := by
      rcases he with rfl | rfl <;> rfl
    have := execute_disconnect x.state _ (hr.inactive h)
      fun hm => hr.unauthorized h (not_transporting_of_not_live hm)
    rw [← hd] at this
    exact this.2

theorem one_le_of_ne_zero {a : UInt32} (h : a ≠ 0) : 1 ≤ a := by
  rw [ne_eq, ← UInt32.toNat_inj, UInt32.toNat_zero] at h
  rw [UInt32.le_iff_toNat_le, UInt32.toNat_one]
  omega

/-- The ledger and the media session agree with the state. -/
structure Stress.Consistent (x : Stress) : Prop where
  endpoint : x.resources.endpointPresent = true ↔ x.state.physicalPresence = .present
  engine : x.resources.engineActive = true ↔ x.state.engineLease ≠ .absent
  live : x.state.mediaSession = .opening ∨ x.state.mediaSession = .streaming →
    x.state.engineLease = .ready ∧ x.state.physicalPresence = .present ∧
      1 ≤ x.state.openAttemptsForGeneration
  stopping : x.state.mediaSession ≠ .stopping

theorem Settled.consistent (h : Settled x) : x.Consistent where
  endpoint := h.endpoint
  engine := h.engine
  live ht := by
    have hl := h.wf.transporting ht
    have ha := h.wf.ready hl
    exact ⟨hl, h.wf.presence (by simp [hl]), one_le_of_ne_zero ha⟩
  stopping := h.wf.stopping

/-- **Stress runs are consistent**: under every configuration and every
    sequence of events each step passes the checks of the stress test, and the
    ledger agrees with the settled state. -/
theorem stress_run_consistent (c : V1LifecycleConfig) (events : List V1LifecycleEvent) :
    stress.Along StepConsistent (Stress.initial c) events ∧
      (stress.after (Stress.initial c) events).Consistent := by
  have hq := Reducer.along_of_forall (M := stress) (Q := fun _ _ => True)
    (fun _ _ => trivial) (Stress.initial c) events
  have hn : ∀ x e, Settled x → True → Settled (stress.next x e) := fun _ e h _ => next_settled h e
  exact ⟨Reducer.along_of_inv hn (fun _ e h _ => step_consistent h e) (settled_initial c) hq,
    (Reducer.after_inv hn (settled_initial c) hq).consistent⟩

end NativeLdac.Agent
