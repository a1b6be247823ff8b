/-
  Why a session of the direct PDO has failed: what every step of the runtime keeps.

  * `Known` relates the session to the reason of its failure; `MovesTo` says what the operations
    of the owner leave alone;
  * `Reasoned` holds in every state that is reached: a session that has failed has a reason, and
    the dispatcher is started where the session is.
-/
import NativeLdac.DirectPdo.Worker

namespace NativeLdac.DirectPdo

open NldDirectPdoKsIntent NldDirectPdoTransportState NldDirectPdoAction
  NldDirectPdoDispatchCommand NldDirectPdoArbiterClient NldDirectPdoFailureReason
  NldDirectPdoRecoveryValidation

/-! ## The session and the reason of its failure -/

namespace NldDirectPdoSession

variable {session : NldDirectPdoSession}

/-- A session that has failed, or has to recover, has a reason. -/
def Known (session : NldDirectPdoSession) (reason : NldDirectPdoFailureReason) : Prop :=
  session.pnpStarted → session.transportState = transportFaulted ∨ session.recoveryRequired →
    reason ≠ failureNone

variable {reason : NldDirectPdoFailureReason}

theorem known_of_ne (h : reason ≠ failureNone) : session.Known reason := fun _ _ => h

theorem known_of_stopped (h : session.pnpStarted = false) : session.Known reason := fun hpnp =>
  absurd hpnp (Bool.eq_false_iff.mp h)

theorem known_onPnpStart (h : session.pnpStarted = false) : session.onPnpStart.2.Known reason := by
  unfold onPnpStart
  rw [if_neg (Bool.eq_false_iff.mp h)]
  intro _ hfailed
  simp at hfailed

theorem known_setKsIntent (h : session.Known reason) (intent : NldDirectPdoKsIntent) :
    (session.setKsIntent intent).2.Known reason := by
  intro hpnp hfailed
  refine h (by simpa using hpnp) (hfailed.imp (fun h => by simpa using h) fun h => ?_)
  exact (plan_recoveryRequired { session with ksIntent := intent }).symm.trans h

theorem retry_cases (session : NldDirectPdoSession) :
    session.retry.2 = session ∨
      session.pnpStarted ∧ session.retry.2.transportState = transportClosed ∧
        session.retry.2.recoveryRequired = false ∧
        session.retry.2.generation = session.generation + 1 := by
  unfold retry
  split_ifs with hrefused
  · exact .inl rfl
  · rw [not_or, not_not] at hrefused
    exact .inr ⟨hrefused.1, plan_transportState _, plan_recoveryRequired _, plan_generation _⟩

theorem known_completeAction (h : session.Known reason) (action : NldDirectPdoAction) :
    (session.completeAction action true).2.Known reason := by
  intro hpnp hfailed
  rw [completeAction_pnpStarted] at hpnp
  unfold completeAction at hfailed
  by_cases hrefused : action = actionNone ∨ action ≠ session.pendingAction
  · rw [if_pos hrefused] at hfailed
    exact h hpnp hfailed
  rw [if_neg hrefused] at hfailed
  dsimp only at hfailed
  by_cases hlost : action = actionCancelAndClose ∧ session.recoveryRequired = true
  · exact h hpnp (.inr hlost.2)
  rw [if_neg hlost, if_neg (by simp)] at hfailed
  rw [plan_transportState, plan_recoveryRequired] at hfailed
  refine h hpnp (.inr (hfailed.resolve_left fun hfaulted => hrefused (.inl ?_)))
  revert hfaulted
  cases action <;> simp [completed, hpnp]

end NldDirectPdoSession

open NldDirectPdoSession (known_of_ne known_of_stopped known_onPnpStart known_setKsIntent)

/-! ## What the operations of the owner leave alone -/

namespace NldDirectPdoDispatchOwner

variable (owner : NldDirectPdoDispatchOwner)

@[simp] theorem session_ownWorker (action : NldDirectPdoAction) :
    (owner.ownWorker action).2.session = owner.session := by
  rw [ownWorker_snd]

@[simp] theorem activeAction_ownWorker (action : NldDirectPdoAction) :
    (owner.ownWorker action).2.activeAction = owner.activeAction := by
  rw [ownWorker_snd]

@[simp] theorem stopRequested_ownWorker (action : NldDirectPdoAction) :
    (owner.ownWorker action).2.stopRequested = owner.stopRequested := by
  rw [ownWorker_snd]

/-- An operation moves the session as given, and goes on with the action that is active. -/
structure MovesTo (owner' : NldDirectPdoDispatchOwner) (session : NldDirectPdoSession) : Prop where
  session : owner'.session = owner.session ∨ owner'.session = session
  activeAction : owner'.activeAction = owner.activeAction
  stopRequested : owner.stopRequested → owner'.stopRequested

variable {owner}

theorem MovesTo.pnpStarted {owner' : NldDirectPdoDispatchOwner} {session : NldDirectPdoSession}
    (h : owner.MovesTo owner' session) (hpnp : session.pnpStarted → owner.session.pnpStarted) :
    owner'.session.pnpStarted → owner.session.pnpStarted := by
  rcases h.session with hsame | hmoved
  · rw [hsame]
    exact id
  · rw [hmoved]
    exact hpnp

theorem movesTo_setKsIntent (owner : NldDirectPdoDispatchOwner) (intent : NldDirectPdoKsIntent) :
    owner.MovesTo (owner.setKsIntent intent).2 (owner.session.setKsIntent intent).2 := by
  unfold setKsIntent
  split_ifs
  · exact ⟨.inl rfl, rfl, id⟩
  · exact ⟨.inr (by simp), by simp, by simp⟩

theorem movesTo_onTransportLost (owner : NldDirectPdoDispatchOwner) :
    owner.MovesTo owner.onTransportLost.2 owner.session.onTransportLost.2 := by
  unfold onTransportLost
  dsimp only
  split_ifs
  · exact ⟨.inl rfl, rfl, id⟩
  · exact ⟨.inr rfl, rfl, id⟩
  · exact ⟨.inr rfl, rfl, id⟩
  · exact ⟨.inr (by simp), by simp, by simp⟩

theorem movesTo_retry (owner : NldDirectPdoDispatchOwner) :
    owner.MovesTo owner.retry.2 owner.session.retry.2 := by
  unfold retry
  split_ifs
  · exact ⟨.inl rfl, rfl, id⟩
  · exact ⟨.inr (by simp), by simp, by simp⟩

theorem movesTo_onPnpStop (owner : NldDirectPdoDispatchOwner) :
    owner.MovesTo owner.onPnpStop.2 owner.session.onPnpStop.2 := by
  unfold onPnpStop
  dsimp only
  split_ifs
  · exact ⟨.inr rfl, rfl, fun _ => rfl⟩
  · exact ⟨.inr (by simp), by simp, by simp⟩

theorem stopRequested_onPnpStop : owner.onPnpStop.2.stopRequested = true := by
  unfold onPnpStop
  dsimp only
  split_ifs
  · rfl
  · simp

end NldDirectPdoDispatchOwner

open NldDirectPdoDispatchOwner (finished onPnpStart onTrack_completeAction onTrack_initialized
  onTrack_onPnpStart onTrack_onPnpStop onTrack_onTransportLost onTrack_retry onTrack_setKsIntent
  onTrack_takeAction session_ownWorker stopRequested_onPnpStop)

/-! ## What every step keeps -/

/-- `NldDirectPdoDispatcherStop` is under way. -/
def LifecyclePoint.isStopping : LifecyclePoint → Bool
  | rest | setCallback _ => false
  | clearCallback _ _ | cancel _ | canceling _ | wait | stop _ | stopping _ | finish => true

namespace DirectPdoRuntime

/-- What every step keeps: a session that has failed has a reason. -/
structure Reasoned (s : DirectPdoRuntime) : Prop where
  onTrack : s.dispatcher.owner.OnTrack
  workItem : s.dispatcher.workItem = s.dispatcher.started
  offline : s.dispatcher.started = false → s.dispatcher.owner.session.pnpStarted = false
  stopping : s.lifecycle.isStopping → s.dispatcher.owner.stopRequested
  known : s.dispatcher.owner.session.Known s.dispatcher.failureReason

theorem reasoned_initialized : Reasoned {} where
  onTrack := onTrack_initialized
  workItem := rfl
  offline _ := rfl
  stopping := nofun
  known := known_of_stopped rfl

variable {s : DirectPdoRuntime}

@[simp] theorem failureReason_failed_ne (context : NldDirectPdoDispatcherContext)
    {reason : NldDirectPdoFailureReason} (h : reason ≠ failureNone) :
    (context.failed reason).failureReason ≠ failureNone := by
  unfold NldDirectPdoDispatcherContext.failed
  split_ifs with hnone
  · exact h
  · exact hnone

theorem failed_eq (context : NldDirectPdoDispatcherContext) (reason : NldDirectPdoFailureReason) :
    context.failed reason =
      { context with failureReason := (context.failed reason).failureReason } := by
  unfold NldDirectPdoDispatcherContext.failed
  split_ifs <;> rfl

theorem Reasoned.same (h : s.Reasoned) {t : DirectPdoRuntime}
    (hsame : (t.dispatcher.owner, t.dispatcher.started, t.dispatcher.workItem,
      t.dispatcher.failureReason, t.lifecycle) = (s.dispatcher.owner, s.dispatcher.started,
        s.dispatcher.workItem, s.dispatcher.failureReason, s.lifecycle)) : t.Reasoned := by
  obtain ⟨howner, hstarted, hworkItem, hreason, hlifecycle⟩ := by simpa using hsame
  refine ⟨?_, ?_, ?_, ?_, ?_⟩ <;> simp only [howner, hstarted, hworkItem, hreason, hlifecycle]
  · exact h.onTrack
  · exact h.workItem
  · exact h.offline
  · exact h.stopping
  · exact h.known

theorem Reasoned.section (h : s.Reasoned) {context : NldDirectPdoDispatcherContext}
    {worker : DispatcherWorker}
    (hpnp : context.owner.session.pnpStarted → s.dispatcher.owner.session.pnpStarted)
    (hstop : s.dispatcher.owner.stopRequested → context.owner.stopRequested)
    (hstarted : context.started = s.dispatcher.started)
    (hworkItem : context.workItem = s.dispatcher.workItem) (honTrack : context.owner.OnTrack)
    (hknown : context.owner.session.Known context.failureReason) :
    Reasoned { s with dispatcher := context, worker } where
  onTrack := honTrack
  workItem := (hworkItem.trans h.workItem).trans hstarted.symm
  offline hoff := by
    have hoffline := h.offline (hstarted.symm.trans hoff)
    exact Bool.eq_false_iff.mpr fun hpnp' => Bool.eq_false_iff.mp hoffline (hpnp hpnp')
  stopping hstopping := hstop (h.stopping hstopping)
  known := hknown

theorem Reasoned.transportDisconnected (h : s.Reasoned) :
    Reasoned (s.queued s.dispatcher.transportDisconnected) := by
  unfold NldDirectPdoDispatcherContext.transportDisconnected
  split_ifs with hrefused
  · exact h
  · have hmoves := s.dispatcher.owner.movesTo_onTransportLost
    rw [failed_eq]
    exact h.section (hmoves.pnpStarted (by simp)) hmoves.stopRequested rfl rfl
      (onTrack_onTransportLost h.onTrack)
      (known_of_ne (failureReason_failed_ne _ nofun))

theorem channelStep_inv {P : DirectPdoRuntime → Prop}
    (hframe : ∀ s context side callbacks, P s →
      P { setChannel s context side with callbacks := callbacks })
    (hlost : ∀ s, P s → P (s.queued s.dispatcher.transportDisconnected)) (h : P s)
    (side : ChannelSide) (op : SignalingChannelOp) : P (s.channelStep side op) := by
  unfold channelStep
  dsimp only
  split
  · exact hframe s _ side _ h
  · exact hlost _ (hframe s _ side _ h)
  · exact hframe s _ side _ h

theorem Reasoned.channelStep (h : s.Reasoned) (side : ChannelSide) (op : SignalingChannelOp) :
    (s.channelStep side op).Reasoned := by
  refine channelStep_inv (fun s context side callbacks h => ?_)
    (fun s h => h.transportDisconnected) h side op
  cases side <;> exact h.same rfl

theorem Reasoned.executing (h : s.Reasoned) (e : Execution) : (s.executing e).Reasoned := by
  unfold DirectPdoRuntime.executing
  dsimp only
  split
  · have hstep := h.channelStep (by assumption) (by assumption)
    exact hstep.same rfl
  · exact h.same rfl

theorem Reasoned.acquired (h : s.Reasoned) (status : NtStatus) : (s.acquired status).Reasoned := by
  unfold DirectPdoRuntime.acquired
  split_ifs <;> exact h.executing _

theorem Reasoned.taken (h : s.Reasoned) {context : NldDirectPdoDispatcherContext}
    {worker : DispatcherWorker} (howner : context.owner = s.dispatcher.owner.takeAction.2)
    (hstarted : context.started = s.dispatcher.started)
    (hworkItem : context.workItem = s.dispatcher.workItem)
    (hreason : context.failureReason = s.dispatcher.failureReason) :
    Reasoned { s with dispatcher := context, worker } := by
  obtain ⟨hsession, hstop, -⟩ := s.dispatcher.owner.takeAction_cases
  have honTrack := onTrack_takeAction h.onTrack
  refine h.section ?_ ?_ hstarted hworkItem (howner ▸ honTrack) ?_ <;> rw [howner]
  · rw [hsession]
    exact id
  · rw [hstop]
    exact id
  · rw [hsession, hreason]
    exact h.known

theorem Reasoned.takesAction (h : s.Reasoned) : s.takesAction.Reasoned := by
  have htaken : Reasoned { s with
      dispatcher := { s.dispatcher with owner := s.dispatcher.owner.takeAction.2 }
      worker := { s.worker with
        action := s.dispatcher.owner.takeAction.1.1
        generation := s.dispatcher.owner.takeAction.1.2 } } := h.taken rfl rfl rfl rfl
  unfold DirectPdoRuntime.takesAction
  dsimp only
  split_ifs
  · exact h.taken rfl rfl rfl rfl
  · exact h.taken rfl rfl rfl rfl
  · exact htaken.executing _

theorem Reasoned.preemptsNext (h : s.Reasoned) (status : NtStatus) :
    (s.preemptsNext status).Reasoned := by
  have hframe : Reasoned { s with
      dispatcher := { s.dispatcher with preemption := s.dispatcher.preemption.takeAction.2 } } :=
    h.same rfl
  unfold DirectPdoRuntime.preemptsNext
  dsimp only
  split_ifs
  · exact hframe.acquired status
  · exact h.same rfl

theorem Reasoned.known_finished (h : s.Reasoned) {action : NldDirectPdoAction} {succeeded : Bool}
    {reason : NldDirectPdoFailureReason}
    (hkept : succeeded → reason = s.dispatcher.failureReason)
    (hfailed : succeeded = false → reason ≠ failureNone) :
    (s.dispatcher.owner.finished action succeeded).session.Known reason := by
  cases succeeded with
  | false => exact known_of_ne (hfailed rfl)
  | true =>
    rw [hkept rfl]
    unfold finished
    dsimp only
    split_ifs
    · exact h.known
    · exact NldDirectPdoSession.known_completeAction h.known action

theorem Reasoned.completes (h : s.Reasoned) (input : ThreadInput) :
    (s.completes input).Reasoned := by
  have hcontext : ∀ context : NldDirectPdoDispatcherContext,
      context.owner = s.dispatcher.owner → context.started = s.dispatcher.started →
      context.workItem = s.dispatcher.workItem →
      (s.worker.status.ntSuccess = true → context.failureReason = s.dispatcher.failureReason) →
      (s.worker.status.ntSuccess = false → context.failureReason ≠ failureNone) →
      ∀ watchdog worker, Reasoned { s with
        dispatcher := { context with
          owner := (context.owner.completeAction s.worker.generation s.worker.action
            s.worker.status.ntSuccess).2
          mediaWatchdog := watchdog }
        worker } := by
    intro context howner hstarted hworkItem hkept hfailed watchdog worker
    rw [howner]
    have honTrack := onTrack_completeAction h.onTrack
      s.worker.generation s.worker.action s.worker.status.ntSuccess
    rcases s.dispatcher.owner.completeAction_cases s.worker.generation s.worker.action
      s.worker.status.ntSuccess with hrefused | ⟨-, -, haccepted⟩
    · refine h.section ?_ ?_ hstarted hworkItem honTrack ?_ <;> rw [hrefused]
      · exact id
      · exact id
      · cases hstatus : s.worker.status.ntSuccess with
        | false => exact known_of_ne (hfailed hstatus)
        | true =>
          show s.dispatcher.owner.session.Known context.failureReason
          rw [hkept hstatus]
          exact h.known
    · refine h.section ?_ ?_ hstarted hworkItem honTrack ?_ <;> rw [haccepted]
      · unfold finished
        dsimp only
        split_ifs
        · exact id
        · exact fun hpnp => (NldDirectPdoSession.completeAction_pnpStarted _ _ _).symm.trans hpnp
      · unfold finished
        dsimp only
        split_ifs <;> exact id
      · exact h.known_finished hkept hfailed
  unfold DirectPdoRuntime.completes NldDirectPdoDispatcherContext.completeAction
  cases hstatus : s.worker.status.ntSuccess with
  | false =>
    rw [if_neg Bool.false_ne_true]
    rw [hstatus] at hcontext
    have hfailed := hcontext (s.dispatcher.failed failureBackend) (by rw [failed_eq])
      (by rw [failed_eq]) (by rw [failed_eq]) nofun
      (fun _ => failureReason_failed_ne _ nofun)
    dsimp only
    split_ifs <;> exact hfailed _ _
  | true =>
    rw [if_pos rfl]
    rw [hstatus] at hcontext
    have hkept := hcontext s.dispatcher rfl rfl rfl (fun _ => rfl) nofun
    dsimp only
    split_ifs <;> exact hkept _ _

theorem Reasoned.workerStep (h : s.Reasoned) (input : ThreadInput) :
    (s.workerStep input).Reasoned := by
  unfold DirectPdoRuntime.workerStep
  split
  · exact h
  · exact h.takesAction
  · unfold DirectPdoRuntime.acquires
    dsimp only
    split_ifs
    · exact h.same rfl
    · refine Reasoned.acquired ?_ _
      exact h.same rfl
  · unfold DirectPdoRuntime.wasRejected
    split_ifs
    · exact h.same rfl
    · exact h.acquired _
  · unfold DirectPdoRuntime.preempts
    dsimp only
    split_ifs
    · refine Reasoned.preemptsNext ?_ _
      exact h.same rfl
    · refine Reasoned.acquired ?_ _
      exact h.same rfl
  · unfold DirectPdoRuntime.preempting
    split <;> exact h.same rfl
  · unfold DirectPdoRuntime.preempted
    refine Reasoned.preemptsNext ?_ _
    exact h.same rfl
  · exact h.executing _
  · exact h.same rfl
  · exact h.same rfl
  · exact h.completes input

@[simp] theorem lifecycle_channelStep (s : DirectPdoRuntime) (side : ChannelSide)
    (op : SignalingChannelOp) : (s.channelStep side op).lifecycle = s.lifecycle := by
  refine channelStep_inv (P := fun t => t.lifecycle = s.lifecycle) (fun t context side _ h => ?_)
    (fun _ h => h) rfl side op
  cases side <;> exact h

theorem Reasoned.goesOn (h : s.Reasoned) {lifecycle : LifecyclePoint}
    (hstopping : lifecycle.isStopping → s.lifecycle.isStopping) :
    Reasoned { s with lifecycle } :=
  ⟨h.onTrack, h.workItem, h.offline, fun hstops => h.stopping (hstopping hstops), h.known⟩

theorem Reasoned.stopCloses (h : s.Reasoned) (side : ChannelSide) (targetOffline : Bool)
    (point : LifecyclePoint) (hstops : s.lifecycle.isStopping) :
    (s.stopCloses side targetOffline point).Reasoned := by
  unfold DirectPdoRuntime.stopCloses
  split_ifs
  · exact (h.channelStep side _).goesOn fun _ => by rwa [lifecycle_channelStep]
  · exact h

theorem Reasoned.stopClosesOn (h : s.Reasoned) (side : ChannelSide) (succeeded : Bool)
    (point : LifecyclePoint) (hstops : s.lifecycle.isStopping) :
    (s.stopClosesOn side succeeded point).Reasoned := by
  unfold DirectPdoRuntime.stopClosesOn
  dsimp only
  split_ifs
  · exact (h.channelStep side _).goesOn fun _ => by rwa [lifecycle_channelStep]
  · exact h.channelStep side _

theorem Reasoned.lifecycleStep (h : s.Reasoned) (succeeded : Bool) :
    (s.lifecycleStep succeeded).Reasoned := by
  unfold DirectPdoRuntime.lifecycleStep
  split
  case h_1 => exact h
  case h_2 | h_3 => exact (h.channelStep _ _).goesOn nofun
  case h_4 | h_5 =>
    rename_i hpoint
    refine (h.channelStep _ _).goesOn fun _ => ?_
    rw [lifecycle_channelStep, hpoint]
    rfl
  case h_6 | h_10 =>
    rename_i hpoint
    exact h.stopCloses _ _ _ (by rw [hpoint]; rfl)
  case h_7 | h_8 | h_11 | h_12 =>
    rename_i hpoint
    exact h.stopClosesOn _ _ _ (by rw [hpoint]; rfl)
  case h_9 =>
    rename_i hpoint
    split_ifs
    · exact h.goesOn fun _ => by rw [hpoint]; rfl
    · exact h
  case h_13 =>
    rename_i hpoint
    have hstopped := h.onTrack.stopped (h.stopping (by rw [hpoint]; rfl))
    exact ⟨h.onTrack, rfl, fun _ => hstopped, nofun, known_of_stopped hstopped⟩

theorem start_cases (s : DirectPdoRuntime) (workItem : Bool) (now100ns : UInt64) :
    (s.start workItem now100ns).2 = s ∨
      s.dispatcher.started = false ∧ ∃ context : NldDirectPdoDispatcherContext,
        (s.start workItem now100ns).2 =
          { s with dispatcher := context, lifecycle := .setCallback .signaling } ∧
        context.owner = s.dispatcher.owner.onPnpStart.2 ∧ context.started ∧ context.workItem ∧
        context.idleEvent ∧ context.arbiterGeneration = 0 ∧ context.failureReason = failureNone := by
  unfold DirectPdoRuntime.start NldDirectPdoDispatcherContext.start
  by_cases hstarted : s.dispatcher.started ∨ s.dispatcher.workItem ∨
      s.dispatcher.referenceDeviceObject
  · rw [if_pos hstarted]
    left
    split_ifs <;> rfl
  · rw [if_neg hstarted]
    rw [not_or, Bool.not_eq_true] at hstarted
    dsimp only
    split
    · exact .inl rfl
    split
    · exact .inl rfl
    split
    · exact .inl rfl
    · exact .inr ⟨hstarted.1, _, rfl, rfl, rfl, rfl, rfl, rfl, rfl⟩

theorem Reasoned.start (h : s.Reasoned) (workItem : Bool) (now100ns : UInt64) :
    (s.start workItem now100ns).2.Reasoned := by
  rcases s.start_cases workItem now100ns with hrefused |
    ⟨hoff, context, hstarts, howner, hstarted, hworkItem, -, -, -⟩
  · rwa [hrefused]
  · have hoffline := h.offline hoff
    rw [hstarts]
    refine ⟨?_, hworkItem.trans hstarted.symm, fun hoff => ?_, nofun, ?_⟩ <;> dsimp only at *
    · rw [howner]
      exact onTrack_onPnpStart h.onTrack
    · exact absurd hstarted (Bool.eq_false_iff.mp hoff)
    · rw [howner]
      unfold onPnpStart
      split_ifs
      · exact known_of_stopped hoffline
      · dsimp only
        rw [session_ownWorker]
        exact known_onPnpStart hoffline

theorem Reasoned.stop (h : s.Reasoned) : s.stop.Reasoned := by
  unfold DirectPdoRuntime.stop NldDirectPdoDispatcherContext.stop
  split
  · exact h
  · have hstopped : s.dispatcher.owner.onPnpStop.2.session.pnpStarted = false :=
      (onTrack_onPnpStop h.onTrack).stopped
        stopRequested_onPnpStop
    exact ⟨onTrack_onPnpStop h.onTrack, h.workItem, fun _ => hstopped,
      fun _ => stopRequested_onPnpStop,
      known_of_stopped hstopped⟩

theorem Reasoned.setIntent (h : s.Reasoned) (intent : NldDirectPdoKsIntent) :
    (s.setIntent intent).2.Reasoned := by
  have hframe : ∀ arbiter, Reasoned { s with arbiter } := fun _ =>
    h.same rfl
  have hmoves := s.dispatcher.owner.movesTo_setKsIntent intent
  have hknown : (s.dispatcher.owner.setKsIntent intent).2.session.Known
      s.dispatcher.failureReason := by
    rcases hmoves.session with hsame | hmoved
    · rw [hsame]
      exact h.known
    · rw [hmoved]
      exact known_setKsIntent h.known intent
  unfold DirectPdoRuntime.setIntent
  dsimp only
  split_ifs
  · exact h
  · exact hframe _
  · exact (hframe _).section (hmoves.pnpStarted (by simp)) hmoves.stopRequested rfl rfl
      (onTrack_setKsIntent h.onTrack intent) hknown

theorem Reasoned.requestRecovery (h : s.Reasoned) (request : NldDirectPdoRecoveryRequestV1)
    (requestSize : UInt32) : (s.requestRecovery request requestSize).2.Reasoned := by
  have hmoves := s.dispatcher.owner.movesTo_retry
  have honTrack := onTrack_retry h.onTrack
  have hpnp := hmoves.pnpStarted (by simp)
  have hknown : ∀ reason, (s.dispatcher.failureReason = reason ∨
      s.dispatcher.owner.retry.2.session.generation ≠ s.dispatcher.owner.session.generation) →
      s.dispatcher.owner.retry.2.session.Known reason := by
    intro reason hreason
    rcases hmoves.session with hsame | hmoved
    · rw [hsame] at hreason ⊢
      rw [← hreason.resolve_right (not_not.mpr rfl)]
      exact h.known
    · rw [hmoved] at hreason ⊢
      rcases s.dispatcher.owner.session.retry_cases with hsame | ⟨-, hclosed, hrecovered, -⟩
      · rw [hsame] at hreason ⊢
        rw [← hreason.resolve_right (not_not.mpr rfl)]
        exact h.known
      · intro _ hfailed
        rw [hclosed, hrecovered] at hfailed
        simp at hfailed
  unfold DirectPdoRuntime.requestRecovery NldDirectPdoDispatcherContext.requestRecovery
  dsimp only
  split
  · exact h
  split
  · exact h
  split
  · exact h
  split
  · exact h.section hpnp hmoves.stopRequested rfl rfl honTrack (hknown _ (.inl rfl))
  · rename_i hrefused
    rw [not_or] at hrefused
    exact h.section hpnp hmoves.stopRequested rfl rfl honTrack (hknown _ (.inr hrefused.1))

theorem Reasoned.checkMediaWatchdog (h : s.Reasoned) (timeoutMs : UInt32) (now100ns : UInt64) :
    (s.queued (s.dispatcher.checkMediaWatchdog timeoutMs now100ns)).Reasoned := by
  have hmoves := s.dispatcher.owner.movesTo_onTransportLost
  unfold NldDirectPdoDispatcherContext.checkMediaWatchdog
  dsimp only
  split_ifs
  · exact h
  · rw [failed_eq]
    exact h.section (hmoves.pnpStarted (by simp)) hmoves.stopRequested rfl rfl
      (onTrack_onTransportLost h.onTrack)
      (known_of_ne (failureReason_failed_ne _ nofun))
  · exact h.same rfl

theorem Reasoned.disconnectCallback (h : s.Reasoned) (i : Nat) :
    (s.disconnectCallback i).Reasoned := by
  unfold DirectPdoRuntime.disconnectCallback
  split_ifs
  · have hframe : Reasoned { s with callbacks := s.callbacks.eraseIdx i } :=
      h.same rfl
    exact hframe.transportDisconnected
  · exact h

theorem reasoned_step (h : s.Reasoned) (op : DirectPdoOp) :
    (directPdoRuntime.next s op).Reasoned := by
  cases op with
  | arbiterStart => exact h.same rfl
  | arbiterStop =>
    show Reasoned (if _ then _ else _)
    split_ifs
    · exact h
    · exact h.same rfl
  | start workItem now100ns =>
    show Reasoned (Prod.snd (if _ then _ else _))
    split_ifs
    · exact h.start workItem now100ns
    · exact h
  | stop =>
    show Reasoned (if _ then _ else _)
    split_ifs
    · exact h.stop
    · exact h
  | lifecycle succeeded => exact h.lifecycleStep succeeded
  | setFormat sampleRateHz =>
    show Reasoned { s with dispatcher := (s.dispatcher.setFormat sampleRateHz).2 }
    unfold NldDirectPdoDispatcherContext.setFormat
    split_ifs <;> exact h.same rfl
  | setIntent intent => exact h.setIntent intent
  | requestRecovery request requestSize => exact h.requestRecovery request requestSize
  | checkMediaWatchdog timeoutMs now100ns => exact h.checkMediaWatchdog timeoutMs now100ns
  | mediaWritten now100ns => exact h.same rfl
  | worker input => exact h.workerStep input
  | diagnosticAcquire => exact h.same rfl
  | diagnosticRelease generation =>
    exact h.same rfl
  | channel side op =>
    show Reasoned (if _ then _ else _)
    split_ifs
    · exact h.channelStep side op
    · exact h
  | disconnectCallback i => exact h.disconnectCallback i

theorem reasoned_after (ops : List DirectPdoOp) : (directPdoRuntime.after {} ops).Reasoned :=
  Reducer.after_inv (P := Reasoned) (Q := fun _ _ => True) (fun _ op h _ => reasoned_step h op)
    reasoned_initialized (Reducer.along_of_forall (fun _ _ => trivial) _ ops)

end DirectPdoRuntime

end NativeLdac.DirectPdo
