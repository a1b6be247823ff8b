/-
  The engine's process and the engine lease of the lifecycle: which handler of
  the main loop leaves one without the other.

  `Executed` inverts the reducer for what `ExecuteEngineActions` makes of its
  action word; each part of a handler then has one lemma on what it needs (`wp`).
-/
import NativeLdac.Agent.LifecycleEffect
import NativeLdac.Agent.LifecycleSuspension
import NativeLdac.Agent.ContainedEngine

namespace NativeLdac.Agent

/-! ## The lifecycle -/

/-- A settled lifecycle whose starting engine has an attempt left, and a demand to
    serve. -/
structure V1LifecycleState.Startable (s : V1LifecycleState) : Prop extends s.Wf where
  starting : s.engineLease = .starting →
    s.openAttemptsForGeneration < s.maximumOpenAttempts ∧
      (s.renderDemand = .running ∨ s.toleratePretransportRenderGaps)
  budget : 0 < s.maximumOpenAttempts

/-- What a stop of the engine makes of the lifecycle, by the mode that the word
    asks for. -/
def stopSettled (actions : UInt32) (s : V1LifecycleState) : V1LifecycleState :=
  if hasV1LifecycleAction actions .cancelTransport then s
  else if hasV1LifecycleAction actions .gracefulStopTransport then
    (reduceV1Lifecycle s .mediaStopped).2
  else (reduceV1Lifecycle s .engineExited).2

/-- What the execution of a word does to the engine lease. -/
inductive Executed (s : V1LifecycleState) (w : UInt32) (s' : V1LifecycleState) : Prop where
  | kept : hasV1LifecycleAction w .startEngine = false →
      hasV1LifecycleAction w .stopEngine = false → s'.Startable →
      (s'.engineLease = .absent ↔ s.engineLease = .absent) → Executed s w s'
  | started : hasV1LifecycleAction w .startEngine → hasV1LifecycleAction w .stopEngine = false →
      s'.Startable → s.engineLease = .absent → s'.engineLease ≠ .absent → Executed s w s'
  | stopped : hasV1LifecycleAction w .startEngine = false → hasV1LifecycleAction w .stopEngine →
      (stopSettled w s').Startable → (stopSettled w s').engineLease = .absent → Executed s w s'

variable {s s' : V1LifecycleState}

theorem startable_absent (hl : s.engineLease = .absent) (hm : ¬ s.mediaSession.live)
    (hb : 0 < s.maximumOpenAttempts) : s.Startable where
  toWf := wf_of_absent hl hm
  starting h := absurd (hl.symm.trans h) (by simp)
  budget := hb

theorem reduce_budget (s : V1LifecycleState) (e : V1LifecycleEvent) :
    (reduceV1Lifecycle s e).2.maximumOpenAttempts = s.maximumOpenAttempts := by
  cases e <;> simp only [reduceV1Lifecycle] <;> first | rfl | (split_ifs <;> rfl)

theorem reduce_starting (h : s.Startable) (e : V1LifecycleEvent)
    (hs : (reduceV1Lifecycle s e).2.engineLease = .starting)
    (hw : hasV1LifecycleAction (reduceV1Lifecycle s e).1 .stopEngine = false) :
    (reduceV1Lifecycle s e).2.openAttemptsForGeneration <
        (reduceV1Lifecycle s e).2.maximumOpenAttempts ∧
      ((reduceV1Lifecycle s e).2.renderDemand = .running ∨
        (reduceV1Lifecycle s e).2.toleratePretransportRenderGaps) := by
  revert hs hw
  cases e with
  | renderStarted =>
    simp only [reduceV1Lifecycle]
    split_ifs with hsuspended hfresh hstart hstart
    · exact fun hs _ => ⟨(h.starting hs).1, .inl rfl⟩
    · exact fun _ _ => ⟨h.budget, .inl rfl⟩
    · exact absurd ⟨hfresh.2.2.1, hfresh.2.2.2.1, rfl⟩ hstart
    · exact fun _ _ => ⟨hstart.2.2 ▸ h.budget, .inl rfl⟩
    · exact fun hs _ => ⟨(h.starting hs).1, .inl rfl⟩
  | renderStopped =>
    simp only [reduceV1Lifecycle]
    split_ifs with hgap
    · exact fun hs _ => ⟨(h.starting hs).1, .inr hgap.1⟩
    all_goals
      intro hs hw
      have hlease : s.engineLease = .starting := hs
      simp [hlease] at hw
  | hfpResumeLdac =>
    simp only [reduceV1Lifecycle]
    split_ifs with hsuspended hstart
    · exact fun _ _ => ⟨h.budget, .inl hstart.2.1⟩
    · exact fun hs _ => h.starting hs
    · exact fun hs _ => h.starting hs
  | transportRetryDue =>
    simp only [reduceV1Lifecycle]
    split_ifs with hstart
    · exact fun _ _ => ⟨hstart.2.2.2.2.2, .inl hstart.2.1⟩
    · exact fun hs _ => h.starting hs
  | aclDisconnected | watcherLeaseExpired | mediaFailed =>
    simp [reduceV1Lifecycle, resetDisconnectedState]
  | _ =>
    simp only [reduceV1Lifecycle]
    split_ifs <;> first | exact fun hs _ => h.starting hs | simp

theorem startable_kept (h : s.Startable) {e : V1LifecycleEvent}
    (hwf : (reduceV1Lifecycle s e).2.Wf)
    (hw : hasV1LifecycleAction (reduceV1Lifecycle s e).1 .stopEngine = false) :
    (reduceV1Lifecycle s e).2.Startable where
  toWf := hwf
  starting hs := reduce_starting h e hs hw
  budget := (reduce_budget s e).symm ▸ h.budget

theorem stopSettled_startable {w : UInt32} (hb : 0 < s.maximumOpenAttempts)
    (hcancel : hasV1LifecycleAction w .cancelTransport →
      s.engineLease = .absent ∧ ¬ s.mediaSession.live)
    (hlocal : hasV1LifecycleAction w .gracefulStopTransport = false → ¬ s.mediaSession.live) :
    (stopSettled w s).Startable ∧ (stopSettled w s).engineLease = .absent := by
  unfold stopSettled
  split_ifs with hc hg
  · exact ⟨startable_absent (hcancel hc).1 (hcancel hc).2 hb, (hcancel hc).1⟩
  · have hlease : (reduceV1Lifecycle s .mediaStopped).2.engineLease = .absent := rfl
    exact ⟨startable_absent hlease (by simp [reduceV1Lifecycle, V1MediaSession.live])
      ((reduce_budget s _).symm ▸ hb), hlease⟩
  · have hlive : ¬ s.mediaSession.live := hlocal (by simpa using hg)
    rw [reduce_engineExited hlive]
    exact ⟨startable_absent rfl hlive hb, rfl⟩

theorem reduce_open {e : V1LifecycleEvent} (he : e ≠ .engineReady) :
    hasV1LifecycleAction (reduceV1Lifecycle s e).1 .openTransport = false := by
  cases e with
  | engineReady => exact absurd rfl he
  | _ =>
    simp only [reduceV1Lifecycle, disconnectActions]
    repeat' split
    all_goals simp

theorem reduce_executed (h : s.Startable) (e : V1LifecycleEvent) (he : e.SparesEngine)
    (hready : e ≠ .engineReady) :
    Executed s (reduceV1Lifecycle s e).1 (reduceV1Lifecycle s e).2 := by
  have hb : 0 < (reduceV1Lifecycle s e).2.maximumOpenAttempts :=
    (reduce_budget s e).symm ▸ h.budget
  have hstart := startable_kept h (e := e)
  have hopen := reduce_open (s := s) (e := e)
  generalize hw : (reduceV1Lifecycle s e).1 = w at *
  generalize hs' : (reduceV1Lifecycle s e).2 = s' at *
  have heffect := reduce_effect h.toWf e
  rw [hw, hs'] at heffect
  cases heffect with
  | connect hp hp' hl hm =>
    refine .kept (by simp) (by simp) (startable_absent hl (by simp [hm, V1MediaSession.live]) hb) ?_
    exact iff_of_true hl (by_contra fun hne => by simp [h.presence hne] at hp)
  | disconnect _ =>
    by_cases hlease : s.engineLease = .absent
    · refine .kept ?_ ?_ (startable_absent rfl (by simp [V1MediaSession.live, resetDisconnectedState]) hb)
        (iff_of_true rfl hlease)
      · simp [disconnectActions, has_ite]
      · simp [disconnectActions, has_ite, hlease]
    · have hlive : ¬ (resetDisconnectedState s).mediaSession.live := Bool.false_ne_true
      have hsettled := stopSettled_startable (w := disconnectActions s) hb (fun _ => ⟨rfl, hlive⟩)
        fun _ => hlive
      refine .stopped ?_ ?_ hsettled.1 hsettled.2
      · simp [disconnectActions, has_ite]
      · simp [disconnectActions, has_ite, hlease]
  | start hl hp hp' hg hl' hm =>
    have hnot : ¬ s'.Transporting := by
      intro ht
      have ht' : s.Transporting := by rwa [V1LifecycleState.Transporting, ← hm]
      exact absurd (hl.symm.trans (h.transporting ht')) (by simp)
    have hwf : s'.Wf :=
      ⟨fun _ => hp', fun hr => absurd (hl'.symm.trans hr) (by simp), fun ht => absurd ht hnot,
        hm ▸ h.stopping⟩
    exact .started (by simp) (by simp) (hstart hwf (by simp)) hl (by simp [hl'])
  | opened => exact absurd (hopen hready) (by simp)
  | stopGraceful hq hstop hgraceful hcancel _ =>
    have hsettled := stopSettled_startable (w := w) hb (by simp [hcancel]) (by simp [hgraceful])
    exact .stopped hq.noStart hstop hsettled.1 hsettled.2
  | stopLocal hq hstop _ hcancel _ hlive _ =>
    have hsettled := stopSettled_startable (w := w) hb (by simp [hcancel]) fun _ => hlive
    exact .stopped hq.noStart hstop hsettled.1 hsettled.2
  | revoke hq hstop _ _ hl hlive _ =>
    have hsettled := stopSettled_startable (w := w) hb (fun _ => ⟨hl, hlive⟩)
      fun _ => hlive
    exact .stopped hq.noStart hstop hsettled.1 hsettled.2
  | exited hexit =>
    rcases hexit with hexit | hexit
    · exact absurd hexit he.1
    · exact absurd hexit he.2
  | keep _ hq hstop _ hp _ hl ha ht hm _ =>
    have hwf : s'.Wf :=
      ⟨fun hl' => hp.trans (h.presence (hl ▸ hl')), fun hr => (ha hr).symm ▸ h.ready (hl ▸ hr),
        fun ht' => hl.trans (h.transporting (ht ht')), hm⟩
    exact .kept hq.noStart hstop (hstart hwf hstop) (by rw [hl])

/-! ## The execution of actions -/

namespace ContainedAgent

open Prog

/-- The engine is observed and runs the transport worker, and was never started
    over an active process. -/
structure Contained (s : ContainedAgent) : Prop where
  observer : s.state.engineReadyObserverEnabled
  worker : s.state.transportWorkerExerciseEnabled
  unbusy : s.startedBusy = false

/-- **The invariant**: the process is active exactly under a lease. -/
structure EngineHeld (s : ContainedAgent) : Prop extends Contained s where
  lifecycle : s.state.lifecycle.Startable
  agrees : s.engine.active ↔ s.state.lifecycle.engineLease ≠ .absent

/-- What a failure must leave. -/
def Unbusy (s : ContainedAgent) : Prop := s.startedBusy = false

variable {α : Type} {s : ContainedAgent} {actions : UInt32} {options : Options}
  {answers : EngineAnswers} {D : ContainedAgent → Prop} {Q : Unit → ContainedAgent → Prop}

theorem wp_onEngine {call : V1EngineReadyHost → Except UInt32 α × V1EngineReadyHost}
    {Q : α → ContainedAgent → Prop} :
    wp (onEngine call) Q D s ↔
      (∀ a, (call s.engine).1 = .ok a → Q a { s with engine := (call s.engine).2 }) ∧
        ∀ e, (call s.engine).1 = .error e →
          D { s with engine := (call s.engine).2, error := e } := by
  unfold wp onEngine
  rcases call s.engine with ⟨_ | a, engine⟩ <;> simp

theorem wp_onEngine_unbusy {call : V1EngineReadyHost → Except UInt32 α × V1EngineReadyHost}
    {Q : α → ContainedAgent → Prop} (h : Unbusy s)
    (hok : ∀ a, (call s.engine).1 = .ok a → Q a { s with engine := (call s.engine).2 }) :
    wp (onEngine call) Q Unbusy s :=
  wp_onEngine.mpr ⟨hok, fun _ _ => h⟩

theorem wp_archive (h : Unbusy s) (hq : Q () s) :
    wp (archive answers) Q Unbusy s :=
  wp_onEngine_unbusy h fun _ _ => hq

def withLifecycle (s : ContainedAgent) (l : V1LifecycleState) : ContainedAgent :=
  { s with state := { s.state with lifecycle := l } }

theorem Contained.withLifecycle (h : Contained s) (l : V1LifecycleState) :
    Contained (s.withLifecycle l) :=
  ⟨h.observer, h.worker, h.unbusy⟩

theorem wp_reduce {Q : UInt32 → ContainedAgent → Prop} (event : V1LifecycleEvent) :
    wp (reduce event) Q D s ↔
      Q (reduceV1Lifecycle s.state.lifecycle event).1
        (s.withLifecycle (reduceV1Lifecycle s.state.lifecycle event).2) := Iff.rfl

theorem wp_reduceOnly (event : V1LifecycleEvent) :
    wp (reduceOnly event) Q D s ↔
      Q () (s.withLifecycle (reduceV1Lifecycle s.state.lifecycle event).2) := Iff.rfl

theorem wp_reduceStopped {state : TrialState} (hworker : state.transportWorkerExerciseEnabled) :
    wp (reduceStopped (stopMode state actions)) Q D s ↔
      Q () (s.withLifecycle (stopSettled actions s.state.lifecycle)) := by
  simp only [stopMode, hworker, true_and, stopSettled]
  split_ifs
  · exact Iff.rfl
  · exact wp_reduceOnly .mediaStopped
  · exact wp_reduceOnly .engineExited

theorem wp_stopContainedEngine (h : Contained s) (hactive : s.engine.active)
    (hl : (stopSettled actions s.state.lifecycle).Startable)
    (habsent : (stopSettled actions s.state.lifecycle).engineLease = .absent) :
    wp (stopContainedEngine actions answers) (fun _ => EngineHeld) Unbusy s := by
  simp only [stopContainedEngine, wp_bind, wp_update, wp_read, wp_onlyIf, if_pos hactive]
  refine wp_onEngine_unbusy h.unbusy fun code hok => ?_
  have hstopped := s.engine.stop_inactive hok
  refine (wp_reduceStopped h.worker).mpr ?_
  exact ⟨⟨h.observer, h.worker, h.unbusy⟩, hl,
    iff_of_false (Bool.eq_false_iff.mp hstopped) (not_not.mpr habsent)⟩

variable {Q : Unit → ContainedAgent → Prop}

theorem wp_execute_kept (h : Contained s)
    (hstart : hasV1LifecycleAction actions .startEngine = false)
    (hstop : hasV1LifecycleAction actions .stopEngine = false) :
    wp (executeEngineActions options actions answers) Q D s ↔ Q () s := by
  simp only [executeEngineActions, wp_bind, wp_read, h.observer, if_true, wp_onlyIf, hstart, hstop,
    Bool.false_eq_true, if_false]

theorem wp_execute_stopped (h : Contained s) (hactive : s.engine.active)
    (hstart : hasV1LifecycleAction actions .startEngine = false)
    (hstop : hasV1LifecycleAction actions .stopEngine)
    (hl : (stopSettled actions s.state.lifecycle).Startable)
    (habsent : (stopSettled actions s.state.lifecycle).engineLease = .absent) :
    wp (executeEngineActions options actions answers) (fun _ => EngineHeld) Unbusy s := by
  simp only [executeEngineActions, executeStop, wp_bind, wp_read, h.observer, if_true, wp_onlyIf,
    hstart, hstop, Bool.false_eq_true, if_false]
  refine wp_mono (wp_stopContainedEngine h hactive hl habsent) (fun _ s' h' => ?_) fun _ => id
  simp only [wp_bind, wp_read, wp_onlyIf]
  split_ifs
  · exact wp_archive h'.unbusy h'
  · exact h'

theorem start_active {host : V1EngineReadyHost} {state : TrialState} {path : String}
    {applyEndpointVolume : Bool} {answer : Except UInt32 Unit} {u : Unit}
    (h : (if state.transportDiscoveryExerciseEnabled then
        host.startTransportDiscoveryWorker path applyEndpointVolume answer
      else if state.transportWorkerExerciseEnabled then
        V1EngineReadyHost.startTransportWorker applyEndpointVolume answer
      else V1EngineReadyHost.start answer).1 = .ok u) :
    (if state.transportDiscoveryExerciseEnabled then
        host.startTransportDiscoveryWorker path applyEndpointVolume answer
      else if state.transportWorkerExerciseEnabled then
        V1EngineReadyHost.startTransportWorker applyEndpointVolume answer
      else V1EngineReadyHost.start answer).2.active := by
  unfold V1EngineReadyHost.startTransportDiscoveryWorker at h ⊢
  split_ifs at h ⊢ <;> exact V1EngineReadyHost.startInternal_active h

theorem wp_execute_started (h : Contained s) (hinactive : s.engine.active = false)
    (hstart : hasV1LifecycleAction actions .startEngine)
    (hstop : hasV1LifecycleAction actions .stopEngine = false)
    (hl : s.state.lifecycle.Startable) (hlease : s.state.lifecycle.engineLease ≠ .absent) :
    wp (executeEngineActions options actions answers) (fun _ => EngineHeld) Unbusy s := by
  simp only [executeEngineActions, executeStart, startEngine, wp_bind, wp_read, h.observer,
    if_true, wp_onlyIf, hstart, hstop, hinactive, Bool.false_eq_true, if_false]
  refine wp_onEngine_unbusy h.unbusy fun _ hok => ?_
  simp only [wp_onlyIf, wp_update, hstop, Bool.false_eq_true, if_false]
  exact ⟨⟨h.observer, h.worker, h.unbusy⟩, hl, iff_of_true (start_active hok) hlease⟩

theorem wp_executed {l : V1LifecycleState} (h : Contained s)
    (hex : Executed l actions s.state.lifecycle)
    (hactive : s.engine.active ↔ l.engineLease ≠ .absent)
    (hstop : hasV1LifecycleAction actions .stopEngine → s.engine.active) :
    wp (executeEngineActions options actions answers) (fun _ => EngineHeld) Unbusy s := by
  rcases hex with ⟨hw₁, hw₂, hl, hkept⟩ | ⟨hw₁, hw₂, hl, hbefore, hafter⟩ | ⟨hw₁, hw₂, hl, habsent⟩
  · rw [wp_execute_kept h hw₁ hw₂]
    exact ⟨h, hl, hactive.trans (not_congr hkept).symm⟩
  · have hinactive : s.engine.active = false :=
      Bool.eq_false_iff.mpr fun ha => hactive.mp ha hbefore
    exact wp_execute_started h hinactive hw₁ hw₂ hl hafter
  · exact wp_execute_stopped h (hstop hw₂) hw₁ hw₂ hl habsent

end ContainedAgent

def V1LifecycleEvent.ofMainLoop : V1LifecycleEvent → Bool
  | .aclConnected | .aclDisconnected | .watcherLeaseExpired | .renderStarted | .renderStopped
  | .hfpSuspendLdac | .hfpResumeLdac | .transportRetryDue => true
  | _ => false

theorem reduce_stop {s : V1LifecycleState} {e : V1LifecycleEvent} (he : e.ofMainLoop)
    (hw : hasV1LifecycleAction (reduceV1Lifecycle s e).1 .stopEngine) :
    s.engineLease ≠ .absent := by
  intro hl
  revert hw
  cases e <;> simp only [V1LifecycleEvent.ofMainLoop, Bool.false_eq_true] at he <;>
    simp only [reduceV1Lifecycle, disconnectActions]
  all_goals
    repeat' split
    all_goals simp_all

namespace ContainedAgent

open Prog

variable {s : ContainedAgent} {options : Options} {answers : EngineAnswers}

theorem EngineHeld.wp_executed {s s' : ContainedAgent} (h : EngineHeld s) (h' : Contained s')
    (hengine : s'.engine = s.engine) {event : V1LifecycleEvent} (he : event.ofMainLoop)
    {actions : UInt32} (hreduce : reduceV1Lifecycle s.state.lifecycle event =
      (actions, s'.state.lifecycle)) :
    wp (executeEngineActions options actions answers) (fun _ => EngineHeld) Unbusy s' := by
  have hspares : event.SparesEngine ∧ event ≠ .engineReady := by
    cases event <;> simp [V1LifecycleEvent.ofMainLoop] at he <;>
      simp [V1LifecycleEvent.SparesEngine]
  have hex := reduce_executed h.lifecycle event hspares.1 hspares.2
  have hstop := reduce_stop (s := s.state.lifecycle) he
  rw [hreduce] at hex hstop
  refine ContainedAgent.wp_executed h' hex ?_ fun hw => ?_
  · rw [hengine]
    exact h.agrees
  · rw [hengine]
    exact h.agrees.mpr (hstop hw)

theorem EngineHeld.wp_execute (h : EngineHeld s) {event : V1LifecycleEvent}
    (he : event.ofMainLoop) :
    wp (execute options answers event) (fun _ => EngineHeld) Unbusy s := by
  simp only [execute, wp_bind, wp_reduce]
  exact h.wp_executed (h.toContained.withLifecycle (reduceV1Lifecycle s.state.lifecycle event).2)
    rfl he rfl

/-! ## The handlers of the main loop -/

theorem pollRenderDemand_lifecycle (agent : RenderAgent)
    (query : Except UInt32 (Bool × UInt64)) (media : Option V1MediaSessionSnapshot)
    (now : UInt64) (result : RenderPollResult)
    (h : (pollRenderDemand agent query now media).1 = some result) :
    (result.actions = v1ActionNone ∧
        (pollRenderDemand agent query now media).2.state.lifecycle = agent.state.lifecycle) ∨
      (result.transitioned ∧ ∃ event : V1LifecycleEvent, event.ofMainLoop ∧
        reduceV1Lifecycle agent.state.lifecycle event =
          (result.actions, (pollRenderDemand agent query now media).2.state.lifecycle)) := by
  rcases query with e | ⟨active, epoch⟩
  · simp only [pollRenderDemand] at h ⊢
    split_ifs at h ⊢ <;> cases h <;> exact .inl ⟨rfl, rfl⟩
  · simp only [pollRenderDemand] at h ⊢
    rcases observe_cases agent.state.renderTracker active with
      ⟨hedge, -⟩ | ⟨hedge, -⟩ | ⟨hedge, -⟩
    · rw [hedge] at h ⊢
      cases h
      exact .inl ⟨rfl, rfl⟩
    · rw [hedge] at h ⊢
      simp only [renderStarted, Prod.map] at h ⊢
      split_ifs at h ⊢ <;> cases h
      · exact .inl ⟨rfl, rfl⟩
      · exact .inr ⟨rfl, .renderStarted, rfl, rfl⟩
    · rw [hedge] at h ⊢
      simp only [renderStopped, Prod.map] at h ⊢
      split_ifs at h ⊢ <;> cases h
      · exact .inl ⟨rfl, rfl⟩
      · exact .inl ⟨rfl, rfl⟩
      · exact .inr ⟨rfl, .renderStopped, rfl, rfl⟩

theorem pollRenderDemand_modes (agent : RenderAgent) (query : Except UInt32 (Bool × UInt64))
    (media : Option V1MediaSessionSnapshot) (now : UInt64) :
    (pollRenderDemand agent query now media).2.state.engineReadyObserverEnabled =
        agent.state.engineReadyObserverEnabled ∧
      (pollRenderDemand agent query now media).2.state.transportWorkerExerciseEnabled =
        agent.state.transportWorkerExerciseEnabled := by
  rcases query with e | ⟨active, epoch⟩
  · simp only [pollRenderDemand]
    split_ifs <;> exact ⟨rfl, rfl⟩
  · simp only [pollRenderDemand]
    rcases observe_cases agent.state.renderTracker active with
      ⟨hedge, -⟩ | ⟨hedge, -⟩ | ⟨hedge, -⟩
    · rw [hedge]
      exact ⟨rfl, rfl⟩
    · rw [hedge]
      simp only [renderStarted, Prod.map]
      split_ifs <;> exact ⟨rfl, rfl⟩
    · rw [hedge]
      simp only [renderStopped, Prod.map]
      split_ifs <;> exact ⟨rfl, rfl⟩

theorem wp_clearRetry (h : EngineHeld s) : wp clearRetry (fun _ => EngineHeld) Unbusy s :=
  ⟨⟨h.observer, h.worker, h.unbusy⟩, h.lifecycle, h.agrees⟩

theorem wp_pollRender {Q : RenderPollResult → ContainedAgent → Prop}
    {query : Except UInt32 (Bool × UInt64)} {media : Option V1MediaSessionSnapshot} {now : UInt64}
    (h : Unbusy s)
    (hok : ∀ result, (pollRenderDemand s.toRenderAgent query now media).1 = some result →
      Q result { s with toRenderAgent := (pollRenderDemand s.toRenderAgent query now media).2 }) :
    wp (pollRender query media now) Q Unbusy s := by
  unfold wp pollRender
  generalize pollRenderDemand s.toRenderAgent query now media = r at *
  rcases r with ⟨_ | result, agent⟩
  · exact h
  · exact hok result rfl

theorem wp_handleRender (h : EngineHeld s) (query : Except UInt32 (Bool × UInt64))
    (media : Option V1MediaSessionSnapshot) (now : UInt64) :
    wp (handleRender options answers query media now) (fun _ => EngineHeld) Unbusy s := by
  obtain ⟨hobserver, hworker⟩ := pollRenderDemand_modes s.toRenderAgent query media now
  simp only [handleRender, wp_bind]
  refine wp_pollRender h.unbusy fun result hresult => ?_
  have hpolled := pollRenderDemand_lifecycle s.toRenderAgent query media now result hresult
  generalize pollRenderDemand s.toRenderAgent query now media = r at *
  have h' : Contained { s with toRenderAgent := r.2 } :=
    ⟨hobserver.trans h.observer, hworker.trans h.worker, h.unbusy⟩
  have hexecuted : wp (executeEngineActions options result.actions answers)
      (fun _ => EngineHeld) Unbusy { s with toRenderAgent := r.2 } := by
    rcases hpolled with ⟨hactions, hsame⟩ | ⟨-, event, he, hreduce⟩
    · rw [hactions, wp_execute_kept h' (by simp) (by simp)]
      exact ⟨h', hsame ▸ h.lifecycle, hsame ▸ h.agrees⟩
    · exact h.wp_executed h' rfl he hreduce
  simp only [wp_onlyIf, wp_bind]
  split_ifs with htransitioned
  · refine wp_mono hexecuted (fun _ s' h'' => ?_) fun _ => id
    rw [wp_onlyIf]
    split_ifs
    · exact h''
    · exact wp_clearRetry h''
  · rcases hpolled with ⟨-, hsame⟩ | ⟨htrans, -⟩
    · exact ⟨h', hsame ▸ h.lifecycle, hsame ▸ h.agrees⟩
    · exact absurd htrans htransitioned

theorem wp_handleClassify (h : EngineHeld s) (now : UInt64) :
    wp (handleClassify options answers now) (fun _ => EngineHeld) Unbusy s := by
  simp only [handleClassify, classifyRenderStop, wp_bind, wp_read, wp_onlyIf, decide_eq_true_eq]
  split_ifs with hdue
  · simp only [wp_bind, wp_step, hdue, if_true]
    have he : V1LifecycleEvent.renderStopped.ofMainLoop := rfl
    refine wp_mono (?_ : wp _ (fun _ => EngineHeld) Unbusy _) (fun _ _ h' => wp_clearRetry h')
      fun _ => id
    refine h.wp_executed ?_ ?_ he ?_
    · exact ⟨h.observer, h.worker, h.unbusy⟩
    · rfl
    · rfl
  · exact h

theorem wp_handleRetry (h : EngineHeld s) (now : UInt64) :
    wp (handleRetry options answers now) (fun _ => EngineHeld) Unbusy s := by
  simp only [handleRetry, wp_bind, wp_read, wp_onlyIf]
  split_ifs with hdue
  · exact wp_mono (wp_clearRetry h) (fun _ _ h' => h'.wp_execute rfl) fun _ => id
  · exact h

theorem wp_handleAcl (h : EngineHeld s) (connected : Bool) :
    wp (handleAcl options answers connected) (fun _ => EngineHeld) Unbusy s := by
  simp only [handleAcl, wp_bind, wp_read, wp_step]
  refine wp_mono (?_ : wp _ (fun _ => EngineHeld) Unbusy _) (fun _ s' h' => ?_) fun _ => id
  · cases connected with
    | false =>
      have he : V1LifecycleEvent.aclDisconnected.ofMainLoop := rfl
      refine h.wp_executed ?_ ?_ he ?_
      · exact ⟨h.observer, h.worker, h.unbusy⟩
      · rfl
      · rfl
    | true =>
      have he : V1LifecycleEvent.aclConnected.ofMainLoop := rfl
      refine h.wp_executed ?_ ?_ he ?_
      · exact ⟨h.observer, h.worker, h.unbusy⟩
      · rfl
      · rfl
  · cases connected with
    | false =>
      rw [wp_onlyIf, if_pos (by simp)]
      simp only [wp_onlyIf, wp_bind]
      split_ifs
      · refine wp_archive h'.unbusy ?_
        exact wp_clearRetry h'
      · exact wp_clearRetry h'
    | true => exact h'

theorem wp_handleStopRequest (h : EngineHeld s) :
    wp (handleStopRequest options answers) (fun _ => EngineHeld) Unbusy s := by
  simp only [handleStopRequest, wp_bind, wp_read, wp_onlyIf]
  split_ifs
  · simp only [wp_bind, wp_update]
    have h₁ : EngineHeld { s with
        state := { s.state with renderStopPending := false }
        renderStopDeadline := 0 } :=
      ⟨⟨h.observer, h.worker, h.unbusy⟩, h.lifecycle, h.agrees⟩
    exact wp_mono (h₁.wp_execute rfl) (fun _ _ h' => wp_clearRetry h') fun _ => id
  · exact h

theorem wp_handleCleanup (h : EngineHeld s) :
    wp (handleCleanup options answers) (fun _ => EngineHeld) Unbusy s := by
  simp only [handleCleanup, wp_bind, wp_read, wp_onlyIf]
  split_ifs
  · exact h.wp_execute rfl
  · exact h

end ContainedAgent

/-! ## The poll of the engine -/

theorem reduce_engineReady {s : V1LifecycleState} (h : s.Startable)
    (hl : s.engineLease ≠ .absent) :
    (reduceV1Lifecycle s .engineReady).2.Startable ∧
      ((reduceV1Lifecycle s .engineReady).2.engineLease = .absent ↔
        s.engineLease = .starting ∧ s.hfpSuspended) := by
  have hpresent := h.presence hl
  cases hlease : s.engineLease with
  | absent => exact absurd hlease hl
  | ready =>
    have hsame : (reduceV1Lifecycle s .engineReady).2 = s := by
      simp [reduceV1Lifecycle, hlease, h.ready hlease]
    rw [hsame]
    exact ⟨h, by simp [hlease]⟩
  | starting =>
    obtain ⟨hbudget, hdemand⟩ := h.starting hlease
    have hidle : ¬ s.Transporting := fun ht => by simp [h.transporting ht] at hlease
    cases hsuspended : s.hfpSuspended with
    | true =>
      have hfreed : (reduceV1Lifecycle s .engineReady).2 = { s with engineLease := .absent } := by
        simp [reduceV1Lifecycle, hlease, hsuspended]
      rw [hfreed]
      exact ⟨startable_absent rfl (not_live (s := s) h.toWf hidle) h.budget, by simp⟩
    | false =>
      have hopened : (reduceV1Lifecycle s .engineReady).2 =
          { s with
            engineLease := .ready, mediaSession := .opening
            openAttemptsForGeneration := s.openAttemptsForGeneration + 1 } := by
        have hready : ¬ (s.engineLease = .ready ∧ s.openAttemptsForGeneration ≠ 0) := by
          simp [hlease]
        have haccept : ¬ (s.physicalPresence ≠ .present ∨ s.hfpSuspended ∨
            (s.renderDemand ≠ .running ∧ ¬ s.toleratePretransportRenderGaps) ∨
            s.engineLease ≠ .starting ∨
            s.openAttemptsForGeneration ≥ s.maximumOpenAttempts) := by
          simp only [not_or, not_and_or, not_not, ne_eq, ge_iff_le, UInt32.not_le]
          exact ⟨hpresent, by simp [hsuspended], hdemand, hlease, hbudget⟩
        simp only [reduceV1Lifecycle, if_neg hready, if_neg haccept]
      rw [hopened]
      refine ⟨⟨⟨fun _ => hpresent, fun _ => succ_ne_zero_of_lt hbudget, fun _ => rfl, by simp⟩,
        by simp, h.budget⟩, by simp⟩

namespace ContainedAgent

open Prog

/-- The worker is seen ready under a suspension, which a due retry has started it
    in. -/
def RefusesReady (s : ContainedAgent) (answers : EngineAnswers) : Prop :=
  s.engine.readyObserved = false ∧ answers.ready = .ok true ∧
    s.state.lifecycle.engineLease = .starting ∧ s.state.lifecycle.hfpSuspended

/-- The event leaves a process without a lease. -/
def Frees (refused : Prop) (discovery : Bool) : V1TransportWorkerEvent → Prop
  | .mediaStopped => True
  | .retryableOpenFailure => False
  | .capabilitiesDiscovered => refused ∧ ¬ discovery
  | .none | .mediaStarted | .mediaFailed => refused

/-- **What frees a lease under a process**: an event of the worker that is taken
    for the end of a session, or a readiness that is refused. -/
def FreesLease (s : ContainedAgent) (answers : EngineAnswers) : Prop :=
  s.engine.active ∧ ∃ event, s.engine.transportEvent answers.signals = .ok event ∧
    Frees (RefusesReady s answers) s.state.transportDiscoveryExerciseEnabled event

/-- The agent in a poll that started at `s₀`: the lease is freed just if readiness
    was refused. -/
structure Polled (s₀ : ContainedAgent) (answers : EngineAnswers) (s : ContainedAgent) : Prop
    extends Contained s where
  lifecycle : s.state.lifecycle.Startable
  active : s.engine.active
  freed : s.state.lifecycle.engineLease = .absent ↔ RefusesReady s₀ answers
  discovery : s.state.transportDiscoveryExerciseEnabled =
    s₀.state.transportDiscoveryExerciseEnabled

/-- The agent in the first parts of a poll: no event was taken. -/
structure Polling (s₀ : ContainedAgent) (answers : EngineAnswers) (s : ContainedAgent) : Prop
    extends Polled s₀ answers s where
  events : s.engine.transportEvent answers.signals = s₀.engine.transportEvent answers.signals

variable {s₀ s : ContainedAgent} {options : Options} {answers : EngineAnswers}
variable {event : V1TransportWorkerEvent}

theorem Polling.clearReady (h : Polling s₀ answers s) :
    Polling s₀ answers { s with readyDeadline := 0 } :=
  ⟨⟨⟨h.observer, h.worker, h.unbusy⟩, h.lifecycle, h.active, h.freed, h.discovery⟩, h.events⟩

theorem Polling.wp_deliver (h : Polling s₀ answers s) (setEvent : Except UInt32 Unit) :
    wp (deliverTransportOpenAuthorization setEvent) (fun _ => Polling s₀ answers) Unbusy s :=
  wp_onEngine_unbusy h.unbusy fun _ _ =>
    { observer := h.observer, worker := h.worker, unbusy := h.unbusy, lifecycle := h.lifecycle
      active := (s.engine.authorizeTransportOpen_active setEvent).trans h.active
      freed := h.freed
      events := (s.engine.authorizeTransportOpen_transportEvent setEvent _).trans h.events
      discovery := h.discovery }

theorem Polling.wp_openTransport (h : Polling s₀ answers s) :
    wp (openTransport options answers) (fun _ => Polling s₀ answers) Unbusy s := by
  simp only [openTransport, wp_bind, wp_read, h.worker, if_true]
  by_cases hstability : options.transportOpenRenderStabilityMs ≠ 0
  · rw [if_pos hstability]
    exact ⟨⟨⟨h.observer, h.worker, h.unbusy⟩, h.lifecycle, h.active, h.freed, h.discovery⟩, h.events⟩
  · rw [if_neg hstability]
    exact h.wp_deliver answers.authorize

theorem wp_pollEngineReady (h : EngineHeld s) (hactive : s.engine.active) :
    wp (pollEngineReady options answers) (fun _ => Polling s answers) Unbusy s := by
  have hlease : s.state.lifecycle.engineLease ≠ .absent := h.agrees.mp hactive
  simp only [pollEngineReady, wp_bind, wp_read, wp_onlyIf]
  by_cases hobserved : s.engine.readyObserved = true
  · rw [if_neg (not_not.mpr hobserved)]
    exact ⟨⟨h.toContained, h.lifecycle, hactive,
      iff_of_false hlease fun hr => absurd (hobserved.symm.trans hr.1) (by simp), rfl⟩, rfl⟩
  · rw [if_pos hobserved]
    refine wp_onEngine_unbusy h.unbusy fun ready hok => ?_
    have hready : answers.ready = .ok ready := s.engine.pollReady_ok hok
    have hactive' : (s.engine.pollReady answers.ready).2.active :=
      (s.engine.pollReady_active _).trans hactive
    have hevents := s.engine.pollReady_transportEvent answers.ready answers.signals
    generalize (s.engine.pollReady answers.ready).2 = engine at *
    cases ready with
    | false =>
      have h' : Polling s answers { s with engine := engine } :=
        ⟨⟨⟨h.observer, h.worker, h.unbusy⟩, h.lifecycle, hactive',
          iff_of_false hlease fun hr => absurd (hready.symm.trans hr.2.1) (by simp), rfl⟩, hevents⟩
      simp only [Bool.false_eq_true, if_false, wp_bind, wp_read, wp_onlyIf]
      split_ifs
      · exact h.unbusy
      · exact h'
    | true =>
      obtain ⟨hl, hfreed⟩ := reduce_engineReady h.lifecycle hlease
      have h' : Polling s answers (withLifecycle { s with engine := engine }
          (reduceV1Lifecycle s.state.lifecycle .engineReady).2) :=
        ⟨⟨⟨h.observer, h.worker, h.unbusy⟩, hl, hactive',
          hfreed.trans ⟨fun hr => ⟨Bool.eq_false_iff.mpr hobserved, hready, hr⟩, fun hr => hr.2.2⟩,
          rfl⟩, hevents⟩
      simp only [if_true, wp_bind, wp_reduce, wp_onlyIf]
      split_ifs
      · exact wp_mono h'.wp_openTransport (fun _ _ h'' => h''.clearReady) fun _ => id
      · exact h'.clearReady

theorem Polling.wp_pollOpenStability (h : Polling s₀ answers s) :
    wp (pollOpenStability answers) (fun _ => Polling s₀ answers) Unbusy s := by
  simp only [pollOpenStability, wp_bind, wp_read, wp_onlyIf]
  split_ifs
  · simp only [wp_step, wp_onlyIf]
    generalize observeV1TransportOpenStability s.state.transportOpenStability _ _ _ _ = r
    have h' : Polling s₀ answers
        { s with state := { s.state with transportOpenStability := r.2 } } :=
      ⟨⟨⟨h.observer, h.worker, h.unbusy⟩, h.lifecycle, h.active, h.freed, h.discovery⟩, h.events⟩
    split_ifs
    · exact h'.wp_deliver answers.authorizeStable
    · exact h'
  · exact h

/-- The agent after an event of the worker: process and lease agree, just if the
    event frees no lease. -/
structure Reported (s₀ : ContainedAgent) (answers : EngineAnswers)
    (event : V1TransportWorkerEvent) (goOn : Bool) (s : ContainedAgent) : Prop
    extends Contained s where
  lifecycle : s.state.lifecycle.Startable
  agrees : (s.engine.active ↔ s.state.lifecycle.engineLease ≠ .absent) ↔
    ¬ Frees (RefusesReady s₀ answers) s₀.state.transportDiscoveryExerciseEnabled event
  active : goOn → s.engine.active

theorem Polled.reported (h : Polled s₀ answers s)
    (hfrees : Frees (RefusesReady s₀ answers) s₀.state.transportDiscoveryExerciseEnabled event ↔
      RefusesReady s₀ answers) (goOn : Bool) : Reported s₀ answers event goOn s where
  toContained := h.toContained
  lifecycle := h.lifecycle
  agrees := by simp [h.active, hfrees, h.freed]
  active _ := h.active

theorem EngineHeld.reported (h : EngineHeld s)
    (hfrees : ¬ Frees (RefusesReady s₀ answers) s₀.state.transportDiscoveryExerciseEnabled event) :
    Reported s₀ answers event false s where
  toContained := h.toContained
  lifecycle := h.lifecycle
  agrees := iff_of_true h.agrees hfrees
  active := by simp

theorem reduce_engineExited_startable {l : V1LifecycleState} (hb : 0 < l.maximumOpenAttempts) :
    (reduceV1Lifecycle l .engineExited).2.Startable ∧
      (reduceV1Lifecycle l .engineExited).2.engineLease = .absent := by
  have hbudget : 0 < (reduceV1Lifecycle l .engineExited).2.maximumOpenAttempts :=
    (reduce_budget l _).symm ▸ hb
  revert hbudget
  simp only [reduceV1Lifecycle]
  split_ifs with hlive
  · exact fun hbudget => ⟨startable_absent rfl (by simp [V1MediaSession.live]) hbudget, rfl⟩
  · exact fun hbudget => ⟨startable_absent rfl hlive hbudget, rfl⟩

theorem wp_endDiscovery (h : Contained s) (hb : 0 < s.state.lifecycle.maximumOpenAttempts) :
    wp (endDiscovery answers) (fun _ => EngineHeld) Unbusy s := by
  simp only [endDiscovery, wp_bind, wp_read, wp_reduceOnly]
  refine wp_onEngine_unbusy h.unbusy fun code hok => ?_
  have hstopped := s.engine.stop_inactive hok
  obtain ⟨hl, habsent⟩ := reduce_engineExited_startable ((reduce_budget s.state.lifecycle
    (if s.state.transportPcmBurstExerciseEnabled = true then .mediaStopped
      else .transportOpenSuppressed)).symm ▸ hb)
  exact ⟨⟨h.observer, h.worker, h.unbusy⟩, hl,
    iff_of_false (Bool.eq_false_iff.mp hstopped) (not_not.mpr habsent)⟩

theorem Polled.wp_retryable (h : Polled s₀ answers s) :
    wp (handleTransportEvent options answers .retryableOpenFailure)
      (Reported s₀ answers .retryableOpenFailure) Unbusy s := by
  simp only [handleTransportEvent, wp_bind]
  refine wp_archive h.unbusy ?_
  simp only [wp_bind, wp_reduce]
  have hex := reduce_executed h.lifecycle .transportRetryableFailure ⟨by simp, by simp⟩ (by simp)
  have hstart : hasV1LifecycleAction (reduceV1Lifecycle s.state.lifecycle
      .transportRetryableFailure).1 .startEngine = false := by
    simp only [reduceV1Lifecycle]
    split_ifs <;> simp
  have hstop : hasV1LifecycleAction (reduceV1Lifecycle s.state.lifecycle
      .transportRetryableFailure).1 .stopEngine = true := by
    simp only [reduceV1Lifecycle]
    split_ifs <;> simp
  rcases hex with ⟨-, hw, -⟩ | ⟨hw, -⟩ | ⟨-, -, hl, habsent⟩
  · exact absurd (hstop.symm.trans hw) (by simp)
  · exact absurd (hstart.symm.trans hw) (by simp)
  · refine wp_mono (wp_execute_stopped (h.toContained.withLifecycle _) h.active hstart hstop hl
      habsent) (fun _ s' h' => ?_) fun _ => id
    have hfrees : ¬ Frees (RefusesReady s₀ answers) s₀.state.transportDiscoveryExerciseEnabled
        .retryableOpenFailure := id
    simp only [wp_bind, wp_onlyIf]
    split_ifs
    · refine EngineHeld.reported ?_ hfrees
      exact ⟨⟨h'.observer, h'.worker, h'.unbusy⟩, h'.lifecycle, h'.agrees⟩
    · exact h'.reported hfrees

theorem Polled.wp_mediaFailed (h : Polled s₀ answers s) :
    wp (handleTransportEvent options answers .mediaFailed)
      (Reported s₀ answers .mediaFailed) Unbusy s := by
  simp only [handleTransportEvent, wp_bind]
  refine wp_archive h.unbusy ?_
  simp only [wp_bind, wp_reduce]
  have hex := reduce_executed h.lifecycle .mediaFailed ⟨by simp, by simp⟩ (by simp)
  have hstart : hasV1LifecycleAction (reduceV1Lifecycle s.state.lifecycle .mediaFailed).1
      .startEngine = false := by
    simp only [reduceV1Lifecycle]
    simp [has_ite]
  have hstop : hasV1LifecycleAction (reduceV1Lifecycle s.state.lifecycle .mediaFailed).1
      .stopEngine = decide (s.state.lifecycle.engineLease ≠ .absent) := by
    simp only [reduceV1Lifecycle]
    simp [has_ite]
  have hafter : (reduceV1Lifecycle s.state.lifecycle .mediaFailed).2.engineLease = .absent := rfl
  rcases hex with ⟨-, hw, hl, hkept⟩ | ⟨hw, -⟩ | ⟨-, hw, hl, habsent⟩
  · rw [wp_execute_kept (h.toContained.withLifecycle _) hstart hw, wp_pure]
    refine ⟨h.toContained.withLifecycle _, hl, ?_, by simp⟩
    have hrefused := h.freed.mp (hkept.mp hafter)
    exact iff_of_false (fun hagrees => hagrees.mp h.active hafter) (not_not.mpr hrefused)
  · exact absurd (hstart.symm.trans hw) (by simp)
  · refine wp_mono (wp_execute_stopped (h.toContained.withLifecycle _) h.active hstart hw hl
      habsent) (fun _ s' h' => ?_) fun _ => id
    have hlease : s.state.lifecycle.engineLease ≠ .absent := by
      rw [hstop] at hw
      simpa using hw
    exact h'.reported fun hr => hlease (h.freed.mpr hr)

theorem Polled.wp_handleTransportEvent (h : Polled s₀ answers s)
    (event : V1TransportWorkerEvent) :
    wp (handleTransportEvent options answers event) (Reported s₀ answers event) Unbusy s := by
  cases event with
  | none => exact h.reported Iff.rfl true
  | retryableOpenFailure => exact h.wp_retryable
  | mediaFailed => exact h.wp_mediaFailed
  | mediaStarted =>
    simp only [handleTransportEvent, wp_bind, wp_reduceOnly, wp_pure]
    have hnone : (reduceV1Lifecycle s.state.lifecycle .mediaStarted).1 = v1ActionNone := by
      simp only [reduceV1Lifecycle]
      split_ifs <;> rfl
    have hex := reduce_executed h.lifecycle .mediaStarted ⟨by simp, by simp⟩ (by simp)
    rw [hnone] at hex
    rcases hex with ⟨-, -, hl, hkept⟩ | ⟨hw, -⟩ | ⟨-, hw, -⟩
    · have h' : Polled s₀ answers
          (s.withLifecycle (reduceV1Lifecycle s.state.lifecycle .mediaStarted).2) :=
        ⟨h.toContained.withLifecycle _, hl, h.active, hkept.trans h.freed, h.discovery⟩
      exact h'.reported Iff.rfl true
    · exact absurd hw (by simp)
    · exact absurd hw (by simp)
  | mediaStopped =>
    simp only [handleTransportEvent, wp_bind, wp_reduceOnly, wp_pure]
    have hafter : (reduceV1Lifecycle s.state.lifecycle .mediaStopped).2.engineLease = .absent := rfl
    have hl : (reduceV1Lifecycle s.state.lifecycle .mediaStopped).2.Startable :=
      startable_absent hafter (by simp [reduceV1Lifecycle, V1MediaSession.live])
        ((reduce_budget s.state.lifecycle _).symm ▸ h.lifecycle.budget)
    refine ⟨h.toContained.withLifecycle _, hl, ?_, fun _ => h.active⟩
    exact iff_of_false (fun hagrees => hagrees.mp h.active hafter) (not_not.mpr trivial)
  | capabilitiesDiscovered =>
    simp only [handleTransportEvent, wp_bind]
    refine wp_archive h.unbusy ?_
    simp only [wp_read, wp_ite, wp_bind]
    split_ifs with hdiscovery
    · refine wp_mono (wp_endDiscovery h.toContained h.lifecycle.budget) (fun _ s' h' => ?_)
        fun _ => id
      exact h'.reported fun hfrees => hfrees.2 (h.discovery ▸ hdiscovery)
    · rw [h.discovery] at hdiscovery
      have hfrees : Frees (RefusesReady s₀ answers) s₀.state.transportDiscoveryExerciseEnabled
          .capabilitiesDiscovered ↔ RefusesReady s₀ answers := and_iff_left hdiscovery
      exact h.reported hfrees true

theorem Reported.wp_exited {goOn : Bool} (h : Reported s₀ answers event goOn s) :
    wp (Prog.onlyIf goOn (pollEngineExited answers)) (fun _ s' => Contained s' ∧
      s'.state.lifecycle.Startable ∧
      ((s'.engine.active ↔ s'.state.lifecycle.engineLease ≠ .absent) ↔
        ¬ Frees (RefusesReady s₀ answers) s₀.state.transportDiscoveryExerciseEnabled event))
      Unbusy s := by
  have hresult := And.intro h.toContained (And.intro h.lifecycle h.agrees)
  rw [wp_onlyIf]
  split_ifs
  · simp only [pollEngineExited, wp_bind]
    refine wp_onEngine_unbusy h.unbusy fun exited _ => ?_
    rw [wp_onlyIf]
    split_ifs
    · exact h.unbusy
    · rw [V1EngineReadyHost.pollExited_host]
      exact hresult
  · exact hresult

theorem EngineHeld.wp_poll (h : EngineHeld s) :
    wp (pollContainedEngine options answers) (fun _ s' => Contained s' ∧
      s'.state.lifecycle.Startable ∧
      ((s'.engine.active ↔ s'.state.lifecycle.engineLease ≠ .absent) ↔
        ¬ FreesLease s answers)) Unbusy s := by
  simp only [pollContainedEngine, wp_bind, wp_read, wp_onlyIf]
  split_ifs with hactive
  · refine wp_mono (wp_pollEngineReady h hactive) (fun _ s₁ h₁ => ?_) fun _ => id
    simp only [wp_bind]
    refine wp_mono h₁.wp_pollOpenStability (fun _ s₂ h₂ => ?_) fun _ => id
    simp only [pollTransport, wp_bind, wp_read, h₂.worker, if_true]
    refine wp_onEngine_unbusy h₂.unbusy fun event hok => ?_
    have hevent : s.engine.transportEvent answers.signals = .ok event := by
      rw [← h₂.events, ← V1EngineReadyHost.pollTransportEvent_event]
      exact hok
    have h₃ : Polled s answers
        { s₂ with engine := (s₂.engine.pollTransportEvent answers.signals).2 } :=
      ⟨⟨h₂.observer, h₂.worker, h₂.unbusy⟩, h₂.lifecycle,
        (s₂.engine.pollTransportEvent_active _).trans h₂.active, h₂.freed, h₂.discovery⟩
    have hfrees : FreesLease s answers ↔
        Frees (RefusesReady s answers) s.state.transportDiscoveryExerciseEnabled event := by
      simp [FreesLease, hactive, hevent]
    refine wp_mono (h₃.wp_handleTransportEvent event) (fun goOn s₄ h₄ => ?_) fun _ => id
    rw [hfrees]
    exact h₄.wp_exited
  · exact ⟨h.toContained, h.lifecycle, iff_of_true h.agrees fun hfrees => hactive hfrees.1⟩

/-- The step frees no lease under a process. -/
def Spares (s : ContainedAgent) (answers : EngineAnswers) : ContainedStep → Prop
  | .poll => ¬ FreesLease s answers
  | _ => True

theorem EngineHeld.wp_handle (h : EngineHeld s) (step : ContainedStep) :
    wp (handle options answers step) (fun _ s' => Contained s' ∧
      s'.state.lifecycle.Startable ∧
      ((s'.engine.active ↔ s'.state.lifecycle.engineLease ≠ .absent) ↔ Spares s answers step))
      Unbusy s := by
  have hheld : ∀ s', EngineHeld s' → Contained s' ∧ s'.state.lifecycle.Startable ∧
      ((s'.engine.active ↔ s'.state.lifecycle.engineLease ≠ .absent) ↔ True) :=
    fun s' h' => ⟨h'.toContained, h'.lifecycle, iff_of_true h'.agrees trivial⟩
  cases step with
  | poll => exact h.wp_poll
  | render query media now =>
    exact wp_mono (wp_handleRender h query media now) (fun _ => hheld) fun _ => id
  | classify now => exact wp_mono (wp_handleClassify h now) (fun _ => hheld) fun _ => id
  | retry now => exact wp_mono (wp_handleRetry h now) (fun _ => hheld) fun _ => id
  | hfp resume =>
    refine wp_mono (h.wp_execute ?_) (fun _ => hheld) fun _ => id
    cases resume <;> rfl
  | acl connected => exact wp_mono (wp_handleAcl h connected) (fun _ => hheld) fun _ => id
  | stopRequest => exact wp_mono (wp_handleStopRequest h) (fun _ => hheld) fun _ => id
  | cleanup => exact wp_mono (wp_handleCleanup h) (fun _ => hheld) fun _ => id

end ContainedAgent

/-! ## Process and lease -/

namespace ContainedRun

open ContainedAgent

/-- No process was started over another, and process and lease agree after the
    step, if it reports no failure. -/
def ProcessAgrees (options : Options) (s : ContainedRun)
    (i : ContainedStep × EngineAnswers) : Prop :=
  ((containedEngine options).next s i).agent.startedBusy = false ∧
    (((containedEngine options).next s i).failed = false →
      (((containedEngine options).next s i).agent.engine.active ↔
        ((containedEngine options).next s i).agent.state.lifecycle.engineLease ≠ .absent))

/-- A step that reports no failure frees no lease under a process. -/
def LeaseSpared (options : Options) (s : ContainedRun) (i : ContainedStep × EngineAnswers) :
    Prop :=
  ((containedEngine options).next s i).failed = false → s.agent.Spares i.2 i.1

/-- **The invariant of runs.** -/
structure ContainedHeld (s : ContainedRun) : Prop where
  unbusy : s.agent.startedBusy = false
  held : s.failed = false → s.agent.EngineHeld

variable {options : Options} {s : ContainedRun} {i : ContainedStep × EngineAnswers}

theorem held_initial (hobserver : options.observeEngineReady) (hworker : options.exercisesWorker) :
    ContainedHeld (.initial options) where
  unbusy := rfl
  held _ :=
    { observer := hobserver
      worker := hworker
      unbusy := rfl
      lifecycle := startable_absent rfl Bool.false_ne_true (by
        simp only [initial, Options.initialState, V1LifecycleConfig.initial]
        split <;> decide)
      agrees := by simp [initial, Options.initialState, V1LifecycleConfig.initial] }

theorem ContainedHeld.step (h : ContainedHeld s) :
    (ProcessAgrees options s i ↔ LeaseSpared options s i) ∧
      (ProcessAgrees options s i → ContainedHeld ((containedEngine options).next s i)) := by
  obtain ⟨step, answers⟩ := i
  unfold ProcessAgrees LeaseSpared
  cases hfailed : s.failed with
  | true =>
    have hsame : (containedEngine options).next s (step, answers) = s := by
      simp [Reducer.next, containedEngine, hfailed]
    rw [hsame]
    simp [hfailed, h.unbusy, h]
  | false =>
    have hnext : (containedEngine options).next s (step, answers) =
        { agent := (ContainedAgent.handle options answers step s.agent).2
          failed := (ContainedAgent.handle options answers step s.agent).1.isNone } := by
      simp [Reducer.next, containedEngine, hfailed]
    have hstep : Prog.wp (ContainedAgent.handle options answers step) _ Unbusy s.agent :=
      (h.held hfailed).wp_handle step
    rw [hnext]
    unfold Prog.wp at hstep
    generalize ContainedAgent.handle options answers step s.agent = r at *
    rcases r with ⟨_ | u, s'⟩
    · exact ⟨iff_of_true ⟨hstep, by simp⟩ (by simp), fun _ => ⟨hstep, by simp⟩⟩
    · obtain ⟨hcontained, hlifecycle, hspares⟩ := hstep
      refine ⟨?_, fun hagrees => ⟨hagrees.1, fun hok => ⟨hcontained, hlifecycle, hagrees.2 hok⟩⟩⟩
      rw [and_iff_right hcontained.unbusy]
      exact imp_congr_right fun _ => hspares

/-- **Process and lease agree** in a run, just if no step of it frees a lease under
    a process. -/
theorem process_agrees (options : Options) (hobserver : options.observeEngineReady)
    (hworker : options.exercisesWorker) (steps : List (ContainedStep × EngineAnswers)) :
    (containedEngine options).Along (ProcessAgrees options) (.initial options) steps ↔
      (containedEngine options).Along (LeaseSpared options) (.initial options) steps :=
  (containedEngine options).along_congr (P := ContainedHeld) (Q := fun _ _ => True)
    (fun _ _ h _ hagrees => h.step.2 hagrees) (fun _ _ h _ => h.step.1)
    (held_initial hobserver hworker)
    ((containedEngine options).along_of_forall (fun _ _ => trivial) _ _)

def dailyOptions : Options where
  observeEngineReady := true
  exerciseTransportPcmBurst := true
  pcmFastSignalingAcquisition := true
  transportOpenRenderStabilityMs := 1000
  transportResultPath := "result.json"
  dailyMode := true

def startWorker : List (ContainedStep × EngineAnswers) :=
  [(.acl true, {}), (.render (.ok (true, 1)) none 500, {}), (.render (.ok (true, 1)) none 1000, {}),
    (.poll, { ready := .ok true })]

theorem process_agrees_started :
    (containedEngine dailyOptions).Along (ProcessAgrees dailyOptions) (.initial dailyOptions)
        startWorker ↔
      (containedEngine dailyOptions).Along (LeaseSpared dailyOptions) (.initial dailyOptions)
        startWorker :=
  process_agrees dailyOptions rfl rfl startWorker

instance (options : Options) (s : ContainedRun) (i : ContainedStep × EngineAnswers) :
    Decidable (ProcessAgrees options s i) :=
  inferInstanceAs (Decidable (_ ∧ (_ → (_ ↔ _))))

/-- The worker reports that its media stopped, unasked. -/
theorem process_without_lease :
    ¬ (containedEngine dailyOptions).Along (ProcessAgrees dailyOptions) (.initial dailyOptions)
      (startWorker ++ [(.poll, { signals := { mediaStopped := .ok true } })]) := by
  decide

end ContainedRun

end NativeLdac.Agent
