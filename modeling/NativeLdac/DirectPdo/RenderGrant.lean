/-
  The grant of the arbiter that render holds (`NldDirectPdoDispatcherAcquireRender`,
  `NldDirectPdoDispatcherReleaseRenderIfClosed`).

  * `RenderHolds` says that the arbiter has granted render the channel;
  * `Held` holds in every state that is reached: `ArbiterGeneration` is that of the grant, and
    nobody uses it once the dispatcher has stopped.
-/
import NativeLdac.DirectPdo.FailureReason

namespace NativeLdac.DirectPdo

open NldDirectPdoAction NldDirectPdoDispatchCommand NldDirectPdoArbiterClient
  NldDirectPdoArbiterAcquireResult NldDirectPdoPreemptionAction

/-! ## The grant -/

namespace NldDirectPdoArbiterContext

/-- The arbiter has granted render the channel, with the generation. -/
structure RenderHolds (context : NldDirectPdoArbiterContext) (generation : UInt32) : Prop where
  started : context.started
  client : context.owner.client = clientRender
  activeGeneration : context.owner.activeGeneration = generation

variable {context : NldDirectPdoArbiterContext} {generation : UInt32}

theorem RenderHolds.next (h : context.RenderHolds generation) (op : NldDirectPdoArbiterOp)
    (hop : ¬ context.owner.Withdraws op) :
    RenderHolds { context with owner := arbiter.next context.owner op } generation := by
  have hclient : context.owner.client ≠ clientNone := by
    rw [h.client]
    nofun
  have hheld := NldDirectPdoArbiterOwner.held_effect (context.owner.arbiter_effect op) hclient hop
  exact ⟨h.started, hheld.1.trans h.client, hheld.2.trans h.activeGeneration⟩

theorem RenderHolds.runtimeStart (h : context.RenderHolds generation) :
    context.runtimeStart.RenderHolds generation := by
  rwa [NldDirectPdoArbiterContext.runtimeStart, if_pos h.started]

theorem RenderHolds.runtimeSetRenderDemand (h : context.RenderHolds generation) (active : Bool) :
    (context.runtimeSetRenderDemand active).2.RenderHolds generation := by
  rw [NldDirectPdoArbiterContext.runtimeSetRenderDemand, if_pos h.started]
  exact h.next (.setRenderDemand active) (by rintro (hop | hop) <;> cases hop)

theorem RenderHolds.runtimeTryAcquire (h : context.RenderHolds generation)
    (client : NldDirectPdoArbiterClient) :
    (context.runtimeTryAcquire client).2.RenderHolds generation := by
  rw [NldDirectPdoArbiterContext.runtimeTryAcquire, if_pos h.started]
  exact h.next (.tryAcquire client) (by rintro (hop | hop) <;> cases hop)

theorem RenderHolds.diagnosticRelease (h : context.RenderHolds generation) (stale : UInt32) :
    (context.runtimeRelease clientDiagnostic stale).2.RenderHolds generation := by
  rw [NldDirectPdoArbiterContext.runtimeRelease, if_pos h.started]
  refine h.next (.release clientDiagnostic stale) ?_
  rintro (hop | hop)
  · rw [NldDirectPdoArbiterOwner.Releases, h.client] at hop
    cases hop
  · cases hop

theorem renderHolds_tryAcquire
    (haccepted : (context.runtimeTryAcquire clientRender).1.1 ≠ acquireRejected) :
    (context.runtimeTryAcquire clientRender).2.RenderHolds
      (context.runtimeTryAcquire clientRender).1.2 := by
  unfold runtimeTryAcquire NldDirectPdoArbiterOwner.tryAcquire at haccepted ⊢
  dsimp only at haccepted ⊢
  split_ifs at haccepted ⊢ with hstarted hrefused hdemand howned hbusy hrender
  · exact absurd rfl haccepted
  · exact absurd rfl haccepted
  · exact ⟨hstarted, howned, rfl⟩
  · exact absurd rfl haccepted
  · exact ⟨hstarted, rfl, rfl⟩
  · exact absurd rfl hrender
  · exact absurd rfl haccepted

theorem RenderHolds.release (h : context.RenderHolds generation) (hgeneration : generation ≠ 0) :
    (context.runtimeRelease clientRender generation).1 = true := by
  rw [NldDirectPdoArbiterContext.runtimeRelease, if_pos h.started]
  unfold NldDirectPdoArbiterOwner.release
  rw [if_neg (by simp [h.client, h.activeGeneration, hgeneration])]

end NldDirectPdoArbiterContext

theorem NldDirectPdoDispatchOwner.activeAction_takeAction {owner : NldDirectPdoDispatchOwner}
    (h : owner.takeAction.1.1 ≠ actionNone) :
    owner.takeAction.2.activeAction = owner.takeAction.1.1 := by
  unfold takeAction at h ⊢
  dsimp only at h ⊢
  split_ifs at h ⊢
  · exact absurd rfl h
  · exact absurd rfl h
  · rfl

/-! ## What every step keeps -/

/-- The worker carries out an action. -/
def WorkerPoint.isBusy : WorkerPoint → Bool
  | ended | take => false
  | acquire | rejected | preempt | preempting _ _ | preempted _ _ _ | execute _ | release
  | releaseGrant | complete => true

/-- `NldDirectPdoDispatcherStop` has waited for the worker. -/
def LifecyclePoint.isDrained : LifecyclePoint → Bool
  | rest | setCallback _ | clearCallback _ _ | cancel _ | canceling _ | wait => false
  | stop _ | stopping _ | finish => true

theorem LifecyclePoint.isStopping_of_isDrained {point : LifecyclePoint} (h : point.isDrained) :
    point.isStopping := by
  cases point <;> first | rfl | cases h

namespace DirectPdoRuntime

/-- What every step keeps: `ArbiterGeneration` is that of the grant.  The worker, which alone
    acquires it, has ended when the dispatcher has stopped. -/
structure Held (s : DirectPdoRuntime) : Prop where
  busy : s.worker.point.isBusy → s.dispatcher.owner.activeAction ≠ actionNone
  idle : s.dispatcher.idleEvent → s.worker.point = .ended
  offline : s.dispatcher.started = false →
    s.dispatcher.arbiterGeneration = 0 ∧ s.dispatcher.idleEvent
  drained : s.lifecycle.isDrained → s.dispatcher.idleEvent
  grant : s.dispatcher.arbiterGeneration ≠ 0 →
    s.arbiter.RenderHolds s.dispatcher.arbiterGeneration
  granted : ∀ generation grant, s.worker.point = .preempted retryRender generation grant →
    s.worker.status.ntSuccess → s.arbiter.RenderHolds grant

theorem held_initialized : Held {} where
  busy := nofun
  idle _ := rfl
  offline _ := ⟨rfl, rfl⟩
  drained := nofun
  grant h := absurd rfl h
  granted := nofun

variable {s : DirectPdoRuntime}

theorem Held.idleEvent_of_busy (h : s.Held) (hbusy : s.worker.point ≠ .ended) :
    s.dispatcher.idleEvent = false :=
  Bool.eq_false_iff.mpr fun hidle => hbusy (h.idle hidle)

theorem Held.commanded (h : s.Held) {context : NldDirectPdoDispatcherContext}
    {result : NldDirectPdoDispatchCommand × NldDirectPdoDispatchOwner}
    (hstarted : context.started = s.dispatcher.started)
    (hidle : context.idleEvent = s.dispatcher.idleEvent)
    (hgeneration : context.arbiterGeneration = s.dispatcher.arbiterGeneration)
    (hactive : result.2.activeAction = s.dispatcher.owner.activeAction)
    (hqueues : result.1 = queueWorker → s.dispatcher.started ∧ s.lifecycle.isDrained = false) :
    (s.queued (context.commanded result)).Held := by
  unfold DirectPdoRuntime.queued NldDirectPdoDispatcherContext.commanded
  dsimp only
  by_cases hqueue : result.1 = queueWorker
  · obtain ⟨hon, hdrained⟩ := hqueues hqueue
    simp only [hqueue, decide_true, if_true, ne_eq, not_true, decide_false, Bool.and_false]
    refine ⟨nofun, nofun, fun hoff => ?_, fun hwaited => ?_, ?_, nofun⟩
    · exact absurd (hstarted.trans hon) (Bool.eq_false_iff.mp hoff)
    · exact absurd hwaited (Bool.eq_false_iff.mp hdrained)
    · dsimp only
      rw [hgeneration]
      exact h.grant
  · simp only [hqueue, decide_false, ne_eq, not_false_eq_true, decide_true, Bool.and_true,
      if_neg Bool.false_ne_true]
    refine ⟨fun hbusy => ?_, fun hwaited => ?_, fun hoff => ?_, fun hwaited => ?_, ?_, h.granted⟩
    · exact hactive ▸ h.busy hbusy
    · exact h.idle (hidle ▸ hwaited)
    · dsimp only at hoff ⊢
      rw [hstarted] at hoff
      rw [hgeneration, hidle]
      exact h.offline hoff
    · dsimp only
      rw [hidle]
      exact h.drained hwaited
    · dsimp only
      rw [hgeneration]
      exact h.grant

theorem Reasoned.isDrained_eq_false (h : s.Reasoned)
    (hstop : ¬ s.dispatcher.owner.stopRequested = true) : s.lifecycle.isDrained = false :=
  Bool.eq_false_iff.mpr fun hdrained =>
    hstop (h.stopping (LifecyclePoint.isStopping_of_isDrained hdrained))

theorem Held.transportDisconnected (h : s.Held) (hreasoned : s.Reasoned) :
    Held (s.queued s.dispatcher.transportDisconnected) := by
  unfold NldDirectPdoDispatcherContext.transportDisconnected
  split_ifs with hrefused
  · exact h
  · rw [not_or, not_or, not_not] at hrefused
    rw [failed_eq]
    exact h.commanded rfl rfl rfl (s.dispatcher.owner.movesTo_onTransportLost).activeAction
      fun _ => ⟨hrefused.1, hreasoned.isDrained_eq_false hrefused.2.2⟩

theorem Held.channelStep (h : s.Held) (hreasoned : s.Reasoned) (side : ChannelSide)
    (op : SignalingChannelOp) : (s.channelStep side op).Held := by
  refine (channelStep_inv (P := fun t => t.Reasoned ∧ t.Held) (fun t context side callbacks h => ?_)
    (fun t h => ⟨h.1.transportDisconnected, h.2.transportDisconnected h.1⟩) ⟨hreasoned, h⟩
    side op).2
  obtain ⟨hreasoned, h⟩ := h
  cases side <;>
    exact ⟨hreasoned.same rfl, ⟨h.busy, h.idle, h.offline, h.drained, h.grant, h.granted⟩⟩

@[simp] theorem activeAction_channelStep (s : DirectPdoRuntime) (side : ChannelSide)
    (op : SignalingChannelOp) :
    (s.channelStep side op).dispatcher.owner.activeAction = s.dispatcher.owner.activeAction := by
  refine channelStep_inv
    (P := fun t => t.dispatcher.owner.activeAction = s.dispatcher.owner.activeAction)
    (fun t context side _ h => by cases side <;> exact h) (fun t h => ?_) rfl side op
  refine Eq.trans ?_ h
  show t.dispatcher.transportDisconnected.2.owner.activeAction = _
  unfold NldDirectPdoDispatcherContext.transportDisconnected
  split_ifs
  · rfl
  · exact t.dispatcher.owner.movesTo_onTransportLost.activeAction

theorem idleEvent_channelStep (hidle : s.dispatcher.idleEvent = false) (side : ChannelSide)
    (op : SignalingChannelOp) : (s.channelStep side op).dispatcher.idleEvent = false := by
  refine channelStep_inv (P := fun t => t.dispatcher.idleEvent = false)
    (fun t context side _ h => by cases side <;> exact h) (fun t h => ?_) hidle side op
  show t.dispatcher.transportDisconnected.2.idleEvent = false
  unfold NldDirectPdoDispatcherContext.transportDisconnected
  split_ifs
  · exact h
  · rw [failed_eq]
    show (t.dispatcher.idleEvent && _) = false
    rw [h, Bool.false_and]

theorem Held.works (h : s.Held) (hidle : s.dispatcher.idleEvent = false)
    (hactive : s.dispatcher.owner.activeAction ≠ actionNone)
    {arbiter : NldDirectPdoArbiterContext} {context : NldDirectPdoDispatcherContext}
    {worker : DispatcherWorker} (howner : context.owner = s.dispatcher.owner)
    (hevent : context.idleEvent = s.dispatcher.idleEvent)
    (hstarted : context.started = s.dispatcher.started)
    (hgrant : context.arbiterGeneration ≠ 0 → arbiter.RenderHolds context.arbiterGeneration)
    (hgranted : ∀ generation grant, worker.point = .preempted retryRender generation grant →
      worker.status.ntSuccess → arbiter.RenderHolds grant) :
    Held { s with arbiter, dispatcher := context, worker } where
  busy _ := howner ▸ hactive
  idle hwaited := absurd (hevent ▸ hwaited) (Bool.eq_false_iff.mp hidle)
  offline hoff := absurd (h.offline (hstarted ▸ hoff)).2 (Bool.eq_false_iff.mp hidle)
  drained hwaited := absurd (h.drained hwaited) (Bool.eq_false_iff.mp hidle)
  grant := hgrant
  granted := hgranted

theorem Held.executing (h : s.Held) (hreasoned : s.Reasoned)
    (hidle : s.dispatcher.idleEvent = false)
    (hactive : s.dispatcher.owner.activeAction ≠ actionNone) (e : Execution) :
    (s.executing e).Held := by
  have hpoint : ∀ generation grant,
      e.point.elim WorkerPoint.release .execute ≠ .preempted retryRender generation grant := by
    intro generation grant
    cases e.point <;> nofun
  unfold DirectPdoRuntime.executing
  dsimp only
  split
  · rename_i side op _
    have hstep := h.channelStep hreasoned side op
    exact hstep.works (idleEvent_channelStep hidle side op)
      (by rwa [activeAction_channelStep]) rfl rfl rfl hstep.grant
      fun generation grant hat => absurd hat (hpoint generation grant)
  · exact h.works hidle hactive rfl rfl rfl h.grant
      fun generation grant hat => absurd hat (hpoint generation grant)

theorem Held.acquired (h : s.Held) (hreasoned : s.Reasoned)
    (hidle : s.dispatcher.idleEvent = false)
    (hactive : s.dispatcher.owner.activeAction ≠ actionNone) (status : NtStatus) :
    (s.acquired status).Held := by
  unfold DirectPdoRuntime.acquired
  split_ifs <;> exact h.executing hreasoned hidle hactive _

theorem Held.preemptsNext (h : s.Held) (hreasoned : s.Reasoned)
    (hidle : s.dispatcher.idleEvent = false)
    (hactive : s.dispatcher.owner.activeAction ≠ actionNone) (status : NtStatus) :
    (s.preemptsNext status).Held := by
  have hframe : Held { s with
      dispatcher := { s.dispatcher with preemption := s.dispatcher.preemption.takeAction.2 } } :=
    h.works hidle hactive rfl rfl rfl h.grant h.granted
  unfold DirectPdoRuntime.preemptsNext
  dsimp only
  split_ifs
  · exact hframe.acquired (hreasoned.same rfl) hidle hactive status
  · exact h.works hidle hactive rfl rfl rfl h.grant nofun

theorem Held.takesAction (h : s.Held) (hreasoned : s.Reasoned) (htake : s.worker.point = .take) :
    s.takesAction.Held := by
  have hidle := h.idleEvent_of_busy (by rw [htake]; nofun)
  unfold DirectPdoRuntime.takesAction
  dsimp only
  by_cases hnone : s.dispatcher.owner.takeAction.1.1 = actionNone
  · rw [if_pos hnone]
    exact ⟨nofun, fun _ => rfl, fun hoff => ⟨(h.offline hoff).1, rfl⟩, fun _ => rfl, h.grant,
      nofun⟩
  · rw [if_neg hnone]
    have hactive : s.dispatcher.owner.takeAction.2.activeAction ≠ actionNone := by
      rwa [NldDirectPdoDispatchOwner.activeAction_takeAction hnone]
    have htaken : Held { s with
        dispatcher := { s.dispatcher with owner := s.dispatcher.owner.takeAction.2 }
        worker := { s.worker with
          action := s.dispatcher.owner.takeAction.1.1
          generation := s.dispatcher.owner.takeAction.1.2 } } := by
      refine ⟨fun _ => hactive, h.idle, h.offline, h.drained, h.grant, fun _ _ hat => ?_⟩
      cases htake.symm.trans hat
    split_ifs
    · exact htaken.works hidle hactive rfl rfl rfl h.grant nofun
    · exact htaken.executing (hreasoned.taken rfl rfl rfl rfl) hidle hactive _

theorem Held.completes (h : s.Held) (hbusy : s.worker.point.isBusy) (input : ThreadInput) :
    (s.completes input).Held := by
  have hidle := h.idleEvent_of_busy fun hended => by simp [hended, WorkerPoint.isBusy] at hbusy
  have hframe : ∀ context : NldDirectPdoDispatcherContext,
      context.idleEvent = s.dispatcher.idleEvent → context.started = s.dispatcher.started →
      context.arbiterGeneration = s.dispatcher.arbiterGeneration →
      Held { s with dispatcher := context, worker := { s.worker with point := .take } } := by
    intro context hevent hstarted hgeneration
    refine ⟨nofun, fun hwaited => ?_, fun hoff => ?_, fun hwaited => ?_, ?_, nofun⟩
    · exact absurd (hevent ▸ hwaited) (Bool.eq_false_iff.mp hidle)
    · exact absurd (h.offline (hstarted ▸ hoff)).2 (Bool.eq_false_iff.mp hidle)
    · exact absurd (h.drained hwaited) (Bool.eq_false_iff.mp hidle)
    · dsimp only
      rw [hgeneration]
      exact h.grant
  unfold DirectPdoRuntime.completes NldDirectPdoDispatcherContext.completeAction
  cases s.worker.status.ntSuccess with
  | false =>
    rw [if_neg Bool.false_ne_true, failed_eq]
    dsimp only
    split_ifs <;> exact hframe _ rfl rfl rfl
  | true =>
    rw [if_pos rfl]
    dsimp only
    split_ifs <;> exact hframe _ rfl rfl rfl

theorem Held.workerStep (h : s.Held) (hreasoned : s.Reasoned) (input : ThreadInput) :
    (s.workerStep input).Held := by
  have hreasoned' : ∀ arbiter generation preemption, Reasoned { s with
      arbiter
      dispatcher := { s.dispatcher with arbiterGeneration := generation, preemption } } :=
    fun _ _ _ => hreasoned.same rfl
  by_cases hended : s.worker.point = .ended
  · rwa [DirectPdoRuntime.workerStep, hended]
  by_cases htake : s.worker.point = .take
  · rw [DirectPdoRuntime.workerStep, htake]
    exact h.takesAction hreasoned htake
  have hbusy : s.worker.point.isBusy := by
    cases hpoint : s.worker.point <;> first | rfl | contradiction
  have hidle := h.idleEvent_of_busy hended
  have hactive := h.busy hbusy
  unfold DirectPdoRuntime.workerStep
  split
  case h_1 => contradiction
  case h_2 => contradiction
  case h_3 =>
    unfold DirectPdoRuntime.acquires
    dsimp only
    split_ifs with hrejected
    · exact h.works hidle hactive rfl rfl rfl
        (fun hheld => (h.grant hheld).runtimeTryAcquire clientRender) nofun
    · have hgranted := NldDirectPdoArbiterContext.renderHolds_tryAcquire hrejected
      have hacquired : Held { s with
          arbiter := (s.arbiter.runtimeTryAcquire clientRender).2
          dispatcher := { s.dispatcher with
            arbiterGeneration := (s.arbiter.runtimeTryAcquire clientRender).1.2 } } :=
        h.works hidle hactive rfl rfl rfl (fun _ => hgranted)
          fun _ _ hat hsuccess => (h.granted _ _ hat hsuccess).runtimeTryAcquire clientRender
      exact hacquired.acquired (hreasoned' _ _ _) hidle hactive _
  case h_4 =>
    unfold DirectPdoRuntime.wasRejected
    split_ifs
    · exact h.works hidle hactive rfl rfl rfl h.grant nofun
    · exact h.acquired hreasoned hidle hactive _
  case h_5 =>
    have hrequested : Held { s with
        dispatcher := { s.dispatcher with
          preemption := s.dispatcher.preemption.requestRender.2 } } :=
      h.works hidle hactive rfl rfl rfl h.grant h.granted
    unfold DirectPdoRuntime.preempts
    dsimp only
    split_ifs
    · exact hrequested.preemptsNext (hreasoned' _ _ _) hidle hactive _
    · exact hrequested.acquired (hreasoned' _ _ _) hidle hactive _
  case h_6 =>
    unfold DirectPdoRuntime.preempting
    split
    · refine h.works hidle hactive rfl rfl rfl
        (fun hheld => (h.grant hheld).runtimeTryAcquire clientRender) ?_
      intro generation grant hat hsuccess
      dsimp only at hat hsuccess
      cases hat
      split_ifs at hsuccess with hrejected
      · cases hsuccess
      · exact NldDirectPdoArbiterContext.renderHolds_tryAcquire hrejected
    · exact h.works hidle hactive rfl rfl rfl h.grant nofun
    · exact h.works hidle hactive rfl rfl rfl h.grant nofun
  case h_7 action generation grant hpoint =>
    have hcompleted : Held { s with
        dispatcher := { s.dispatcher with
          arbiterGeneration :=
            if s.worker.status.ntSuccess ∧ action = retryRender then grant
            else s.dispatcher.arbiterGeneration
          preemption := s.dispatcher.preemption.completeAction generation action
            s.worker.status.ntSuccess } } := by
      refine h.works hidle hactive rfl rfl rfl ?_ h.granted
      dsimp only
      split_ifs with hretried
      · obtain ⟨hsuccess, rfl⟩ := hretried
        exact fun _ => h.granted _ _ hpoint hsuccess
      · exact h.grant
    exact hcompleted.preemptsNext (hreasoned' _ _ _) hidle hactive _
  case h_8 => exact h.executing hreasoned hidle hactive _
  case h_9 =>
    refine h.works hidle hactive rfl rfl rfl h.grant fun generation grant hat => ?_
    dsimp only at hat
    split_ifs at hat
  case h_10 =>
    refine h.works hidle hactive rfl rfl rfl (fun hheld => ?_) nofun
    dsimp only at hheld
    split_ifs at hheld with hreleased
    · exact absurd rfl hheld
    · exact absurd ((h.grant hheld).release hheld) hreleased
  case h_11 => exact h.completes hbusy input

theorem Held.goesOn (h : s.Held) {lifecycle : LifecyclePoint}
    (hdrained : lifecycle.isDrained → s.dispatcher.idleEvent) : Held { s with lifecycle } :=
  ⟨h.busy, h.idle, h.offline, hdrained, h.grant, h.granted⟩

theorem Held.goesOn_channelStep (h : s.Held) (hreasoned : s.Reasoned) (side : ChannelSide)
    (op : SignalingChannelOp) {lifecycle : LifecyclePoint}
    (hdrained : lifecycle.isDrained → s.lifecycle.isDrained) :
    Held { s.channelStep side op with lifecycle } := by
  have hstep := h.channelStep hreasoned side op
  exact hstep.goesOn fun hwaited =>
    hstep.drained (by rw [lifecycle_channelStep]; exact hdrained hwaited)

theorem Held.stopCloses (h : s.Held) (hreasoned : s.Reasoned) (side : ChannelSide)
    (targetOffline : Bool) {point : LifecyclePoint}
    (hdrained : point.isDrained → s.lifecycle.isDrained) :
    (s.stopCloses side targetOffline point).Held := by
  unfold DirectPdoRuntime.stopCloses
  split_ifs
  · exact h.goesOn_channelStep hreasoned side _ hdrained
  · exact h

theorem Held.stopClosesOn (h : s.Held) (hreasoned : s.Reasoned) (side : ChannelSide)
    (succeeded : Bool) {point : LifecyclePoint}
    (hdrained : point.isDrained → s.lifecycle.isDrained) :
    (s.stopClosesOn side succeeded point).Held := by
  unfold DirectPdoRuntime.stopClosesOn
  dsimp only
  split_ifs
  · exact h.goesOn_channelStep hreasoned side _ hdrained
  · exact h.channelStep hreasoned side _

theorem Held.lifecycleStep (h : s.Held) (hreasoned : s.Reasoned) (succeeded : Bool) :
    (s.lifecycleStep succeeded).Held := by
  unfold DirectPdoRuntime.lifecycleStep
  split
  case h_1 => exact h
  case h_2 | h_3 | h_4 => exact h.goesOn_channelStep hreasoned _ _ nofun
  case h_5 =>
    refine h.goesOn_channelStep hreasoned _ _ fun hdrained => ?_
    split_ifs at hdrained <;> cases hdrained
  case h_6 | h_10 =>
    rename_i hpoint
    refine h.stopCloses hreasoned _ _ fun hdrained => ?_
    rw [hpoint]
    exact hdrained
  case h_7 | h_8 | h_11 | h_12 =>
    rename_i hpoint
    refine h.stopClosesOn hreasoned _ _ fun hdrained => ?_
    rw [hpoint]
    exact hdrained
  case h_9 =>
    split_ifs with hidle
    · exact h.goesOn fun _ => hidle
    · exact h
  case h_13 =>
    rename_i hpoint
    have hidle := h.drained (by rw [hpoint]; rfl)
    have hended := h.idle hidle
    refine ⟨h.busy, h.idle, fun _ => ⟨rfl, hidle⟩, nofun, fun hheld => absurd rfl hheld, ?_⟩
    intro _ _ hat
    cases hended.symm.trans hat

theorem Held.start (h : s.Held) (workItem : Bool) (now100ns : UInt64) :
    (s.start workItem now100ns).2.Held := by
  rcases s.start_cases workItem now100ns with hrefused |
    ⟨hoff, context, hstarts, -, hstarted, -, hidle, hreleased, -⟩
  · rwa [hrefused]
  · have hended := h.idle (h.offline hoff).2
    rw [hstarts]
    refine ⟨fun hbusy => ?_, fun _ => hended, fun hoff => ?_, nofun,
      fun hheld => absurd hreleased hheld, fun _ _ hat => ?_⟩
    · rw [hended] at hbusy
      cases hbusy
    · exact absurd hstarted (Bool.eq_false_iff.mp hoff)
    · cases hended.symm.trans hat

theorem Held.stop (h : s.Held) : s.stop.Held := by
  unfold DirectPdoRuntime.stop NldDirectPdoDispatcherContext.stop
  split
  · exact h
  · rename_i hon
    have hframe : Held { s with
        arbiter := (s.arbiter.runtimeSetRenderDemand false).2
        lifecycle :=
          .clearCallback .signaling (s.dispatcher.owner.onPnpStop.1 = .cancelActive) } := by
      refine ⟨h.busy, h.idle, h.offline, nofun, fun hheld => ?_, fun _ _ hat hsuccess => ?_⟩
      · exact (h.grant hheld).runtimeSetRenderDemand false
      · exact (h.granted _ _ hat hsuccess).runtimeSetRenderDemand false
    exact hframe.commanded rfl rfl rfl s.dispatcher.owner.movesTo_onPnpStop.activeAction
      fun _ => ⟨not_not.mp hon, rfl⟩

theorem Held.setIntent (h : s.Held) (hreasoned : s.Reasoned) (intent : NldDirectPdoKsIntent) :
    (s.setIntent intent).2.Held := by
  have hframe : ∀ active,
      Held { s with arbiter := (s.arbiter.runtimeSetRenderDemand active).2 } := by
    refine fun active => ⟨h.busy, h.idle, h.offline, h.drained, fun hheld => ?_, ?_⟩
    · exact (h.grant hheld).runtimeSetRenderDemand active
    · exact fun _ _ hat hsuccess => (h.granted _ _ hat hsuccess).runtimeSetRenderDemand active
  unfold DirectPdoRuntime.setIntent
  dsimp only
  split
  · exact h
  rename_i hready
  rw [not_or, not_or, not_not] at hready
  split_ifs
  · exact hframe _
  · exact (hframe _).commanded rfl rfl rfl
      (s.dispatcher.owner.movesTo_setKsIntent intent).activeAction
      fun _ => ⟨hready.1, hreasoned.isDrained_eq_false hready.2.2⟩

theorem Held.requestRecovery (h : s.Held) (hreasoned : s.Reasoned)
    (request : NldDirectPdoRecoveryRequestV1) (requestSize : UInt32) :
    (s.requestRecovery request requestSize).2.Held := by
  have hmoves := s.dispatcher.owner.movesTo_retry
  unfold DirectPdoRuntime.requestRecovery NldDirectPdoDispatcherContext.requestRecovery
  dsimp only
  split
  · exact h
  split
  · exact h
  rename_i hready
  rw [not_or, not_or, not_not] at hready
  split
  · exact h
  split
  · refine ⟨fun hbusy => ?_, h.idle, h.offline, h.drained, h.grant, h.granted⟩
    exact hmoves.activeAction ▸ h.busy hbusy
  · exact h.commanded rfl rfl rfl hmoves.activeAction
      fun _ => ⟨hready.1, hreasoned.isDrained_eq_false hready.2.1⟩

theorem Held.checkMediaWatchdog (h : s.Held) (hreasoned : s.Reasoned) (timeoutMs : UInt32)
    (now100ns : UInt64) :
    Held (s.queued (s.dispatcher.checkMediaWatchdog timeoutMs now100ns)) := by
  unfold NldDirectPdoDispatcherContext.checkMediaWatchdog
  dsimp only
  split_ifs with hnever hexpired
  · exact h
  · rw [failed_eq]
    exact h.commanded rfl rfl rfl (s.dispatcher.owner.movesTo_onTransportLost).activeAction
      fun _ => ⟨hexpired.2.1, hreasoned.isDrained_eq_false hexpired.2.2⟩
  · exact ⟨h.busy, h.idle, h.offline, h.drained, h.grant, h.granted⟩

theorem Held.disconnectCallback (h : s.Held) (hreasoned : s.Reasoned) (i : Nat) :
    (s.disconnectCallback i).Held := by
  unfold DirectPdoRuntime.disconnectCallback
  split_ifs
  · have hframe : Held { s with callbacks := s.callbacks.eraseIdx i } :=
      ⟨h.busy, h.idle, h.offline, h.drained, h.grant, h.granted⟩
    exact hframe.transportDisconnected (hreasoned.same rfl)
  · exact h

theorem Held.arbitrates (h : s.Held) {arbiter : NldDirectPdoArbiterContext}
    (hkeeps : s.dispatcher.started → ∀ generation, s.arbiter.RenderHolds generation →
      arbiter.RenderHolds generation) : Held { s with arbiter } := by
  refine ⟨h.busy, h.idle, h.offline, h.drained, fun hheld => ?_, fun _ _ hat hsuccess => ?_⟩
  · refine hkeeps (not_not.mp fun hoff => hheld ?_) _ (h.grant hheld)
    exact (h.offline (Bool.eq_false_iff.mpr hoff)).1
  · refine hkeeps (not_not.mp fun hoff => ?_) _ (h.granted _ _ hat hsuccess)
    cases hat.symm.trans (h.idle (h.offline (Bool.eq_false_iff.mpr hoff)).2)

theorem held_step (h : s.Held) (hreasoned : s.Reasoned) (op : DirectPdoOp) :
    (directPdoRuntime.next s op).Held := by
  cases op with
  | arbiterStart => exact h.arbitrates fun _ _ hheld => hheld.runtimeStart
  | arbiterStop =>
    show Held (if _ then _ else _)
    split_ifs with hon
    · exact h
    · exact h.arbitrates fun hstarted => absurd hstarted hon
  | start workItem now100ns =>
    show Held (Prod.snd (if _ then _ else _))
    split_ifs
    · exact h.start workItem now100ns
    · exact h
  | stop =>
    show Held (if _ then _ else _)
    split_ifs
    · exact h.stop
    · exact h
  | lifecycle succeeded => exact h.lifecycleStep hreasoned succeeded
  | setFormat sampleRateHz =>
    show Held { s with dispatcher := (s.dispatcher.setFormat sampleRateHz).2 }
    unfold NldDirectPdoDispatcherContext.setFormat
    split_ifs <;> exact ⟨h.busy, h.idle, h.offline, h.drained, h.grant, h.granted⟩
  | setIntent intent => exact h.setIntent hreasoned intent
  | requestRecovery request requestSize => exact h.requestRecovery hreasoned request requestSize
  | checkMediaWatchdog timeoutMs now100ns =>
    exact h.checkMediaWatchdog hreasoned timeoutMs now100ns
  | mediaWritten now100ns => exact ⟨h.busy, h.idle, h.offline, h.drained, h.grant, h.granted⟩
  | worker input => exact h.workerStep hreasoned input
  | diagnosticAcquire =>
    exact h.arbitrates fun _ _ hheld => hheld.runtimeTryAcquire clientDiagnostic
  | diagnosticRelease generation =>
    exact h.arbitrates fun _ _ hheld => hheld.diagnosticRelease generation
  | channel side op =>
    show Held (if _ then _ else _)
    split_ifs
    · exact h.channelStep hreasoned side op
    · exact h
  | disconnectCallback i => exact h.disconnectCallback hreasoned i

theorem held_after (ops : List DirectPdoOp) :
    (directPdoRuntime.after {} ops).Reasoned ∧ (directPdoRuntime.after {} ops).Held :=
  Reducer.after_inv (P := fun s : DirectPdoRuntime => s.Reasoned ∧ s.Held) (Q := fun _ _ => True)
    (fun _ op h _ => ⟨reasoned_step h.1 op, held_step h.2 h.1 op⟩)
    ⟨reasoned_initialized, held_initialized⟩ (Reducer.along_of_forall (fun _ _ => trivial) _ ops)

end DirectPdoRuntime

end NativeLdac.DirectPdo
