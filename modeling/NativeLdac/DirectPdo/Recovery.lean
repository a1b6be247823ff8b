/-
  Recovery from a fault (`NldDirectPdoDispatcherRequestRecovery` in
  `direct-pdo/src/nativeldac_direct_pdo_dispatcher.c`).

  * `recovers_iff`: a session that awaits its recovery recovers exactly if render has given its
    grant back and the session is numbered;
  * `GrantUsed` holds as long as no action leaves a grant behind: the session still needs what
    render holds.
-/
import NativeLdac.DirectPdo.RenderGrant

namespace NativeLdac.DirectPdo

open NldDirectPdoKsIntent NldDirectPdoTransportState NldDirectPdoAction
  NldDirectPdoDispatchCommand NldDirectPdoArbiterClient NldDirectPdoFailureReason
  NldDirectPdoRecoveryValidation

/-! ## What still needs the grant -/

namespace NldDirectPdoSession

/-- The session needs the grant: its transport is open, or something is to be done. -/
def Uses (session : NldDirectPdoSession) : Prop :=
  session.transportState = transportOpen ∨ session.transportState = transportStreaming ∨
    session.pendingAction ≠ actionNone

/-- A session that has failed, or has to recover, is numbered. -/
def FaultNumbered (session : NldDirectPdoSession) : Prop :=
  session.transportState = transportFaulted ∨ session.recoveryRequired → session.generation ≠ 0

variable {session : NldDirectPdoSession}

/-- A session goes on with what it needs and what it owes. -/
structure Continues (session session' : NldDirectPdoSession) : Prop where
  uses : session.Uses → session'.Uses
  closing : session.pendingAction = actionCancelAndClose →
    session'.pendingAction = actionCancelAndClose
  numbered : session.FaultNumbered → session'.FaultNumbered

theorem continues_refl (session : NldDirectPdoSession) : session.Continues session := ⟨id, id, id⟩

theorem continues_of_moves {result : NldDirectPdoAction × NldDirectPdoSession}
    (hmoves : session.Moves result)
    (hopen : session.transportState = transportOpen ∨
      session.transportState = transportStreaming → result.2.Uses)
    (hnumbered : session.FaultNumbered → result.2.FaultNumbered) :
    session.Continues result.2 where
  uses huses := by
    rcases huses with hstate | hstate | hpending
    · exact hopen (.inl hstate)
    · exact hopen (.inr hstate)
    · refine .inr (.inr ?_)
      rcases hmoves.kept hpending with hkept | hclose
      · exact hkept ▸ hpending
      · rw [hclose]
        nofun
  closing hclosing := by
    have hpending : session.pendingAction ≠ actionNone := by
      rw [hclosing]
      nofun
    exact (hmoves.kept hpending).elim (fun hkept => hkept.trans hclosing) id
  numbered := hnumbered

theorem continues_setKsIntent (h : session.OnTrack) (intent : NldDirectPdoKsIntent) :
    session.Continues (session.setKsIntent intent).2 := by
  refine continues_of_moves (moves_setKsIntent h intent) (fun hopen => ?_) fun hnumbered hfailed => ?_
  · have hstate := session.setKsIntent_transportState intent
    exact hopen.elim (fun hopen => .inl (hstate.trans hopen))
      fun hopen => .inr (.inl (hstate.trans hopen))
  · unfold setKsIntent at hfailed ⊢
    rw [plan_transportState, plan_recoveryRequired] at hfailed
    rw [plan_generation]
    exact hnumbered hfailed

theorem continues_onTransportLost (h : session.OnTrack) :
    session.Continues session.onTransportLost.2 := by
  refine continues_of_moves (moves_onTransportLost h) (fun hopen => ?_) fun hnumbered => ?_
  · have hstate : session.transportState ≠ transportClosed ∧
        session.transportState ≠ transportFaulted := by
      rcases hopen with hopen | hopen <;> rw [hopen] <;> exact ⟨nofun, nofun⟩
    have huses : session.Uses := hopen.elim .inl fun hopen => .inr (.inl hopen)
    unfold onTransportLost
    dsimp only
    split
    · exact huses
    split
    · exact huses
    · rw [if_neg fun hfaults => hfaults.1.elim hstate.1 hstate.2]
      exact .inr (.inr nofun)
  · have hgeneration : (if session.generation + 1 = 0 then session.generation + 1 + 1
        else session.generation + 1) ≠ 0 := by
      split_ifs with hzero
      · rw [hzero]
        decide
      · exact hzero
    unfold onTransportLost
    dsimp only
    split
    · exact hnumbered
    split
    · exact hnumbered
    split <;> exact fun _ => hgeneration

theorem continues_retry (h : session.OnTrack) : session.Continues session.retry.2 := by
  refine continues_of_moves (moves_retry h) (fun hopen => ?_) fun hnumbered => ?_
  · rw [retry, if_pos]
    · exact hopen.elim .inl fun hopen => .inr (.inl hopen)
    · refine .inr (.inr (.inl ?_))
      rcases hopen with hopen | hopen <;> simp [hopen]
  · rcases session.retry_cases with hsame | ⟨-, hclosed, hrecovered, -⟩
    · rwa [hsame]
    · intro hfailed
      rw [hclosed, hrecovered] at hfailed
      simp at hfailed

theorem faultNumbered_onPnpStart (h : session.FaultNumbered) :
    session.onPnpStart.2.FaultNumbered := by
  unfold onPnpStart
  split_ifs
  · exact h
  · intro hfailed
    rw [plan_transportState, plan_recoveryRequired] at hfailed
    simp at hfailed

theorem faultNumbered_onPnpStop (h : session.FaultNumbered) :
    session.onPnpStop.2.FaultNumbered := by
  unfold onPnpStop
  dsimp only
  split_ifs <;> rintro (hfaulted | hlost) <;>
    first | cases hlost | cases hfaulted | exact h (.inl hfaulted)

@[simp] theorem completeAction_generation (action : NldDirectPdoAction) (succeeded : Bool) :
    (session.completeAction action succeeded).2.generation = session.generation := by
  unfold completeAction
  dsimp only
  repeat (first | rfl | exact plan_generation _ | split)

theorem faultNumbered_completeAction (h : session.FaultNumbered) (action : NldDirectPdoAction)
    {succeeded : Bool} (hnumbered : succeeded ∨ session.generation ≠ 0) :
    (session.completeAction action succeeded).2.FaultNumbered := by
  by_cases hgeneration : session.generation = 0
  · obtain rfl := hnumbered.resolve_right (not_not.mpr hgeneration)
    have hlost : ¬ session.recoveryRequired = true := fun hlost => h (.inr hlost) hgeneration
    unfold completeAction
    by_cases hrefused : action = actionNone ∨ action ≠ session.pendingAction
    · rwa [if_pos hrefused]
    rw [if_neg hrefused]
    dsimp only
    rw [if_neg fun howed => hlost howed.2, if_neg (by simp)]
    intro hfailed
    rw [plan_transportState, plan_recoveryRequired] at hfailed
    rcases hfailed with hfaulted | hfailed
    · revert hrefused hfaulted
      cases action <;> simp [completed]
      split_ifs <;> simp
    · exact absurd hfailed hlost
  · intro _
    rwa [completeAction_generation]

end NldDirectPdoSession

namespace NldDirectPdoDispatchOwner

/-- What still needs the grant; a stop gives it back at its end. -/
def UsesGrant (owner : NldDirectPdoDispatchOwner) : Prop :=
  owner.stopRequested ∨ owner.session.Uses

/-- An owner goes on with what it needs and what it owes. -/
structure Continues (owner owner' : NldDirectPdoDispatchOwner) : Prop where
  uses : owner.UsesGrant → owner'.UsesGrant
  stopRequested : owner.stopRequested → owner'.stopRequested
  closing : owner.session.pendingAction = actionCancelAndClose →
    owner'.session.pendingAction = actionCancelAndClose
  numbered : owner.session.FaultNumbered → owner'.session.FaultNumbered

variable {owner : NldDirectPdoDispatchOwner}

theorem continues_of_movesTo {owner' : NldDirectPdoDispatchOwner} {session : NldDirectPdoSession}
    (h : owner.MovesTo owner' session) (hsession : owner.session.Continues session) :
    owner.Continues owner' := by
  have hcontinues : owner.session.Continues owner'.session := by
    rcases h.session with hsame | hmoved
    · rw [hsame]
      exact owner.session.continues_refl
    · rwa [hmoved]
  exact ⟨fun huses => huses.imp h.stopRequested hcontinues.uses, h.stopRequested,
    hcontinues.closing, hcontinues.numbered⟩

theorem continues_onPnpStop (h : owner.OnTrack) : owner.Continues owner.onPnpStop.2 := by
  have hstop : owner.onPnpStop.2.stopRequested = true := stopRequested_onPnpStop
  refine ⟨fun _ => .inl hstop, fun _ => hstop, fun hclosing => ?_, fun hnumbered => ?_⟩
  · rcases owner.movesTo_onPnpStop.session with hsame | hmoved
    · rwa [hsame]
    · have hpending : owner.session.pendingAction ≠ actionNone := by
        rw [hclosing]
        nofun
      rw [hmoved]
      exact ((NldDirectPdoSession.moves_onPnpStop h.session).kept hpending).elim
        (fun hkept => hkept.trans hclosing) id
  · rcases owner.movesTo_onPnpStop.session with hsame | hmoved
    · rwa [hsame]
    · rw [hmoved]
      exact NldDirectPdoSession.faultNumbered_onPnpStop hnumbered

theorem usesGrant_of_active (h : owner.OnTrack) (hactive : owner.activeAction ≠ actionNone) :
    owner.UsesGrant :=
  .inr (.inr (.inr (pendingAction_ne_of_active h hactive)))

end NldDirectPdoDispatchOwner

open NldDirectPdoDispatchOwner (activeAction_takeAction continues_of_movesTo continues_onPnpStop
  finished onPnpStart retry session_ownWorker usesGrant_of_active)

/-! ## What a recovery needs -/

namespace DirectPdoRuntime

variable (s : DirectPdoRuntime)

/-- The session is faulted, and nothing else is to be done. -/
def AwaitsRecovery : Prop :=
  s.dispatcher.owner.session.transportState = transportFaulted ∧
    s.dispatcher.owner.session.pnpStarted ∧ s.dispatcher.owner.stopRequested = false ∧
    s.dispatcher.owner.session.ksIntent = ksStopped ∧ s.dispatcher.owner.workerOwned = false

/-- The request for a recovery that names the current session and the reason of its failure. -/
def currentRequest : NldDirectPdoRecoveryRequestV1 where
  expectedSessionGeneration := s.dispatcher.owner.session.generation
  expectedFailureReason := s.dispatcher.failureReason.value

/-- The request is served: the session is closed, and has not failed. -/
def Recovers : Prop :=
  let result := s.requestRecovery s.currentRequest recoveryRequestSize
  result.1 = .success ∧
    result.2.dispatcher.owner.session.transportState = transportClosed ∧
    result.2.dispatcher.failureReason = failureNone

def Recoverable : Prop := s.AwaitsRecovery → s.Recovers

instance : Decidable s.AwaitsRecovery := inferInstanceAs (Decidable (_ ∧ _))

instance : Decidable s.Recovers := inferInstanceAs (Decidable (_ ∧ _))

instance : Decidable s.Recoverable := inferInstanceAs (Decidable (_ → _))

variable {s}

theorem validate_currentRequest (hgeneration : s.dispatcher.owner.session.generation ≠ 0)
    (hreason : s.dispatcher.failureReason ≠ failureNone) :
    validateRecoveryRequest s.currentRequest recoveryRequestSize
      s.dispatcher.owner.session.generation s.dispatcher.failureReason = validationOk := by
  have hvalue : s.dispatcher.failureReason.value ≠ failureNone.value ∧
      ¬ s.dispatcher.failureReason.value > failureBackend.value := by
    revert hreason
    cases s.dispatcher.failureReason <;> decide
  simp [validateRecoveryRequest, currentRequest, hgeneration, hvalue.1]
  exact UInt32.not_lt.mp hvalue.2

theorem requestRecovery_unnumbered (hgeneration : s.dispatcher.owner.session.generation = 0) :
    (s.requestRecovery s.currentRequest recoveryRequestSize).1 = .retry := by
  simp [requestRecovery, NldDirectPdoDispatcherContext.requestRecovery, validateRecoveryRequest,
    currentRequest, hgeneration]

theorem requestRecovery_held (hgeneration : s.dispatcher.owner.session.generation ≠ 0)
    (hreason : s.dispatcher.failureReason ≠ failureNone) (hstarted : s.dispatcher.started)
    (hworkItem : s.dispatcher.workItem) (hstop : s.dispatcher.owner.stopRequested = false)
    (hheld : s.dispatcher.arbiterGeneration ≠ 0) :
    (s.requestRecovery s.currentRequest recoveryRequestSize).1 = .deviceBusy := by
  have hvalid := validate_currentRequest hgeneration hreason
  simp [requestRecovery, NldDirectPdoDispatcherContext.requestRecovery, hvalid, hstarted,
    hworkItem, hstop, hheld]

theorem retry_of_awaits (hawaits : s.AwaitsRecovery)
    (hpending : s.dispatcher.owner.session.pendingAction = actionNone)
    (hactive : s.dispatcher.owner.activeAction = actionNone) :
    s.dispatcher.owner.retry.2.session.transportState = transportClosed ∧
      s.dispatcher.owner.retry.2.session.generation =
        s.dispatcher.owner.session.generation + 1 := by
  obtain ⟨hfaulted, hpnp, hstop, hstopped, howned⟩ := hawaits
  unfold retry NldDirectPdoSession.retry
  rw [if_neg (by simp [hstop, howned, hactive]),
    if_neg (by simp [hpnp, hpending, hfaulted, hstopped])]
  simp

theorem Reasoned.recovers_iff (h : s.Reasoned) (hawaits : s.AwaitsRecovery) :
    s.Recovers ↔
      s.dispatcher.arbiterGeneration = 0 ∧ s.dispatcher.owner.session.generation ≠ 0 := by
  obtain ⟨hfaulted, hpnp, hstop, hstopped, howned⟩ := id hawaits
  have hreason := h.known hpnp (.inl hfaulted)
  obtain ⟨hpending, hactive⟩ := h.onTrack.idle howned
  have hstarted : s.dispatcher.started = true := not_not.mp fun hoff =>
    Bool.eq_false_iff.mp (h.offline (Bool.eq_false_iff.mpr hoff)) hpnp
  have hworkItem := h.workItem.trans hstarted
  constructor
  · rintro ⟨hserved, -, -⟩
    have hgeneration : s.dispatcher.owner.session.generation ≠ 0 := fun hzero => by
      cases (requestRecovery_unnumbered hzero).symm.trans hserved
    refine ⟨not_not.mp fun hheld => ?_, hgeneration⟩
    cases (requestRecovery_held hgeneration hreason hstarted hworkItem hstop hheld).symm.trans
      hserved
  · rintro ⟨hreleased, hgeneration⟩
    have hvalid := validate_currentRequest hgeneration hreason
    obtain ⟨hclosed, hnext⟩ := retry_of_awaits hawaits hpending hactive
    have hnew : s.dispatcher.owner.session.generation + 1 ≠
        s.dispatcher.owner.session.generation := by
      simp
    unfold Recovers DirectPdoRuntime.requestRecovery NldDirectPdoDispatcherContext.requestRecovery
    dsimp only
    rw [if_neg (not_not.mpr hvalid), if_neg (by simp [hstarted, hstop, hworkItem]),
      if_neg (by simp [hfaulted, hstopped, howned, hactive, hpending, hreleased]),
      if_neg (by simp [hclosed, hnext])]
    exact ⟨rfl, hclosed, rfl⟩

/-! ## Runs that leave no grant behind -/

variable (s)

/-- The action leaves a session that needs the grant, or a close or a stop is still to come. -/
def keepsGrant : Bool :=
  s.dispatcher.owner.stopRequested = true ∨
    s.dispatcher.owner.session.pendingAction = actionCancelAndClose ∧
      s.worker.action ≠ actionCancelAndClose ∨
    s.worker.status.ntSuccess ∧
      (s.worker.action = actionOpen ∨ s.worker.action = actionStart ∨
        s.worker.action = actionSuspend)

/-- A step that leaves no grant behind: the worker finds the signaling channel closed where
    nothing is left that needs the grant, and no action fails at generation zero. -/
def isOrderly : DirectPdoOp → Bool
  | .worker _ =>
    match s.worker.point with
    | .release =>
      s.dispatcher.arbiterGeneration = 0 ∨ s.signaling.owner.state = .closed ∨ s.keepsGrant
    | .complete =>
      s.worker.status.ntSuccess ∨ s.dispatcher.owner.session.generation ≠ 0
    | _ => true
  | _ => true

/-- What orderly steps keep: what render holds is still needed. -/
structure GrantUsed : Prop where
  used : s.dispatcher.arbiterGeneration ≠ 0 → s.dispatcher.owner.UsesGrant
  released : s.worker.point = .complete → s.dispatcher.arbiterGeneration ≠ 0 → s.keepsGrant
  numbered : s.dispatcher.owner.session.FaultNumbered

variable {s}

theorem grantUsed_initialized : GrantUsed {} where
  used h := absurd rfl h
  released := nofun
  numbered := nofun

theorem keepsGrant_of_continues {t : DirectPdoRuntime} (h : s.keepsGrant)
    (hcontinues : s.dispatcher.owner.Continues t.dispatcher.owner) (hworker : t.worker = s.worker) :
    t.keepsGrant := by
  simp only [keepsGrant, decide_eq_true_eq] at h ⊢
  rw [hworker]
  exact h.imp hcontinues.stopRequested (Or.imp_left (And.imp_left hcontinues.closing))

theorem GrantUsed.commanded (h : s.GrantUsed) {context : NldDirectPdoDispatcherContext}
    {result : NldDirectPdoDispatchCommand × NldDirectPdoDispatchOwner}
    (hgeneration : context.arbiterGeneration = s.dispatcher.arbiterGeneration)
    (hcontinues : s.dispatcher.owner.Continues result.2) :
    (s.queued (context.commanded result)).GrantUsed := by
  unfold DirectPdoRuntime.queued NldDirectPdoDispatcherContext.commanded
  refine ⟨fun hheld => ?_, fun hat hheld => ?_, hcontinues.numbered h.numbered⟩
  · exact hcontinues.uses (h.used (hgeneration ▸ hheld))
  · by_cases hqueue : result.1 = queueWorker
    · simp [hqueue] at hat
    · simp only [hqueue, decide_false, if_neg Bool.false_ne_true] at hat ⊢
      exact keepsGrant_of_continues (h.released hat (hgeneration ▸ hheld)) hcontinues rfl

theorem GrantUsed.transportDisconnected (h : s.GrantUsed) (hreasoned : s.Reasoned) :
    GrantUsed (s.queued s.dispatcher.transportDisconnected) := by
  unfold NldDirectPdoDispatcherContext.transportDisconnected
  split_ifs
  · exact h
  · rw [failed_eq]
    exact h.commanded rfl (continues_of_movesTo
      s.dispatcher.owner.movesTo_onTransportLost
      (NldDirectPdoSession.continues_onTransportLost hreasoned.onTrack.session))

theorem GrantUsed.channelStep (h : s.GrantUsed) (hreasoned : s.Reasoned) (side : ChannelSide)
    (op : SignalingChannelOp) : (s.channelStep side op).GrantUsed := by
  refine (channelStep_inv (P := fun t => t.Reasoned ∧ t.GrantUsed)
    (fun t context side callbacks h => ?_)
    (fun t h => ⟨h.1.transportDisconnected, h.2.transportDisconnected h.1⟩) ⟨hreasoned, h⟩
    side op).2
  obtain ⟨hreasoned, h⟩ := h
  cases side <;> exact ⟨hreasoned.same rfl, ⟨h.used, h.released, h.numbered⟩⟩

theorem GrantUsed.works (h : s.GrantUsed) (hreasoned : s.Reasoned)
    (hactive : s.dispatcher.owner.activeAction ≠ actionNone)
    {arbiter : NldDirectPdoArbiterContext} {context : NldDirectPdoDispatcherContext}
    {worker : DispatcherWorker} (howner : context.owner = s.dispatcher.owner)
    (hpoint : worker.point ≠ .complete) :
    GrantUsed { s with arbiter, dispatcher := context, worker } where
  used _ := howner ▸ usesGrant_of_active hreasoned.onTrack hactive
  released hat := absurd hat hpoint
  numbered := howner ▸ h.numbered

theorem GrantUsed.executing (h : s.GrantUsed) (hreasoned : s.Reasoned)
    (hactive : s.dispatcher.owner.activeAction ≠ actionNone) (e : Execution) :
    (s.executing e).GrantUsed := by
  have hpoint : e.point.elim WorkerPoint.release .execute ≠ .complete := by
    cases e.point <;> nofun
  unfold DirectPdoRuntime.executing
  dsimp only
  split
  · rename_i side op _
    exact (h.channelStep hreasoned side op).works (hreasoned.channelStep side op)
      (by rwa [activeAction_channelStep]) rfl hpoint
  · exact h.works hreasoned hactive rfl hpoint

theorem GrantUsed.acquired (h : s.GrantUsed) (hreasoned : s.Reasoned)
    (hactive : s.dispatcher.owner.activeAction ≠ actionNone) (status : NtStatus) :
    (s.acquired status).GrantUsed := by
  unfold DirectPdoRuntime.acquired
  split_ifs <;> exact h.executing hreasoned hactive _

theorem GrantUsed.preemptsNext (h : s.GrantUsed) (hreasoned : s.Reasoned)
    (hactive : s.dispatcher.owner.activeAction ≠ actionNone) (hpoint : s.worker.point ≠ .complete)
    (status : NtStatus) : (s.preemptsNext status).GrantUsed := by
  have hframe : GrantUsed { s with
      dispatcher := { s.dispatcher with preemption := s.dispatcher.preemption.takeAction.2 } } :=
    h.works hreasoned hactive rfl hpoint
  unfold DirectPdoRuntime.preemptsNext
  dsimp only
  split_ifs
  · exact hframe.acquired (hreasoned.same rfl) hactive status
  · exact h.works hreasoned hactive rfl nofun

theorem GrantUsed.takesAction (h : s.GrantUsed) (hreasoned : s.Reasoned)
    (htake : s.worker.point = .take) : s.takesAction.GrantUsed := by
  obtain ⟨hsession, hstop, -⟩ := s.dispatcher.owner.takeAction_cases
  have htaken : ∀ (context : NldDirectPdoDispatcherContext) (worker : DispatcherWorker),
      context.owner = s.dispatcher.owner.takeAction.2 →
      context.arbiterGeneration = s.dispatcher.arbiterGeneration → worker.point ≠ .complete →
      GrantUsed { s with dispatcher := context, worker } := by
    intro context worker howner hgeneration hpoint
    refine ⟨fun hheld => ?_, fun hat => absurd hat hpoint, ?_⟩
    · have hused := h.used (hgeneration ▸ hheld)
      unfold NldDirectPdoDispatchOwner.UsesGrant at hused ⊢
      dsimp only
      rwa [howner, hsession, hstop]
    · dsimp only
      rw [howner, hsession]
      exact h.numbered
  unfold DirectPdoRuntime.takesAction
  dsimp only
  by_cases hnone : s.dispatcher.owner.takeAction.1.1 = actionNone
  · rw [if_pos hnone]
    exact htaken _ _ rfl rfl nofun
  · rw [if_neg hnone]
    have hactive : s.dispatcher.owner.takeAction.2.activeAction ≠ actionNone := by
      rwa [activeAction_takeAction hnone]
    have hexecuting : GrantUsed { s with
        dispatcher := { s.dispatcher with owner := s.dispatcher.owner.takeAction.2 }
        worker := { s.worker with
          action := s.dispatcher.owner.takeAction.1.1
          generation := s.dispatcher.owner.takeAction.1.2 } } :=
      htaken _ _ rfl rfl (by rw [htake]; nofun)
    split_ifs
    · exact htaken _ _ rfl rfl nofun
    · exact hexecuting.executing (hreasoned.taken rfl rfl rfl rfl) hactive _

theorem usesGrant_finished {owner : NldDirectPdoDispatchOwner} (honTrack : owner.OnTrack)
    {succeeded : Bool} (hactive : owner.activeAction ≠ actionNone)
    (hkeeps : owner.stopRequested = true ∨
      owner.session.pendingAction = actionCancelAndClose ∧
        owner.activeAction ≠ actionCancelAndClose ∨
      succeeded ∧ (owner.activeAction = actionOpen ∨ owner.activeAction = actionStart ∨
        owner.activeAction = actionSuspend)) :
    (owner.finished owner.activeAction succeeded).UsesGrant := by
  have hpending := NldDirectPdoDispatchOwner.pendingAction_ne_of_active honTrack hactive
  unfold finished
  dsimp only
  split
  · exact .inr (.inr (.inr hpending))
  rename_i hunowed
  rcases hkeeps with hstop | ⟨hclose, hother⟩ | ⟨rfl, haction⟩
  · exact .inl hstop
  · -- the close that has taken the place of the action is owed
    refine absurd ⟨?_, hclose, hother⟩ hunowed
    refine (honTrack.session.owed hclose).imp_left fun hpnp => honTrack.stopping hpnp ?_
    exact fun hoffline => hpending (honTrack.session.offline hoffline).2
  · right
    unfold NldDirectPdoSession.completeAction
    by_cases hrefused : owner.activeAction = actionNone ∨
        owner.activeAction ≠ owner.session.pendingAction
    · rw [if_pos hrefused]
      exact .inr (.inr hpending)
    · rw [if_neg hrefused]
      dsimp only
      rw [if_neg (by rcases haction with haction | haction | haction <;> simp [haction]),
        if_neg (by simp)]
      unfold NldDirectPdoSession.Uses
      rw [NldDirectPdoSession.plan_transportState]
      rcases haction with haction | haction | haction <;> rw [haction]
      · exact .inl rfl
      · exact .inr (.inl rfl)
      · exact .inl rfl

theorem GrantUsed.completes (h : s.GrantUsed) (hreasoned : s.Reasoned)
    (hat : s.worker.point = .complete) (input : ThreadInput)
    (hnumbered : s.worker.status.ntSuccess ∨ s.dispatcher.owner.session.generation ≠ 0) :
    (s.completes input).GrantUsed := by
  have hcompletes : ∀ context : NldDirectPdoDispatcherContext,
      context.owner = (s.dispatcher.owner.completeAction s.worker.generation s.worker.action
        s.worker.status.ntSuccess).2 →
      context.arbiterGeneration = s.dispatcher.arbiterGeneration →
      GrantUsed { s with dispatcher := context, worker := { s.worker with point := .take } } := by
    intro context howner hgeneration
    refine ⟨fun hheld => ?_, nofun, ?_⟩
    · have hkeeps := h.released hat (hgeneration ▸ hheld)
      simp only [keepsGrant, decide_eq_true_eq] at hkeeps
      dsimp only
      rw [howner]
      rcases s.dispatcher.owner.completeAction_cases s.worker.generation s.worker.action
        s.worker.status.ntSuccess with hrefused | ⟨hnone, hsame, haccepted⟩
      · rw [hrefused]
        exact h.used (hgeneration ▸ hheld)
      · rw [haccepted]
        rw [hsame] at hkeeps hnone ⊢
        exact usesGrant_finished hreasoned.onTrack hnone hkeeps
    · dsimp only
      rw [howner]
      rcases s.dispatcher.owner.completeAction_cases s.worker.generation s.worker.action
        s.worker.status.ntSuccess with hrefused | ⟨-, -, haccepted⟩
      · rw [hrefused]
        exact h.numbered
      · rw [haccepted]
        unfold finished
        dsimp only
        split
        · exact h.numbered
        · exact NldDirectPdoSession.faultNumbered_completeAction h.numbered _ hnumbered
  unfold DirectPdoRuntime.completes NldDirectPdoDispatcherContext.completeAction
  cases hstatus : s.worker.status.ntSuccess with
  | false =>
    rw [hstatus] at hcompletes
    rw [if_neg Bool.false_ne_true, failed_eq]
    dsimp only
    split_ifs <;> exact hcompletes _ rfl rfl
  | true =>
    rw [hstatus] at hcompletes
    rw [if_pos rfl]
    dsimp only
    split_ifs <;> exact hcompletes _ rfl rfl

theorem GrantUsed.workerStep (h : s.GrantUsed) (hreasoned : s.Reasoned) (hheld : s.Held)
    (input : ThreadInput) (horderly : s.isOrderly (.worker input)) :
    (s.workerStep input).GrantUsed := by
  have hreasoned' : ∀ arbiter generation preemption, Reasoned { s with
      arbiter
      dispatcher := { s.dispatcher with arbiterGeneration := generation, preemption } } :=
    fun _ _ _ => hreasoned.same rfl
  by_cases hended : s.worker.point = .ended
  · rwa [DirectPdoRuntime.workerStep, hended]
  by_cases htake : s.worker.point = .take
  · rw [DirectPdoRuntime.workerStep, htake]
    exact h.takesAction hreasoned htake
  have hactive := hheld.busy (by cases hpoint : s.worker.point <;> first | rfl | contradiction)
  by_cases hcomplete : s.worker.point = .complete
  · simp only [isOrderly, hcomplete, decide_eq_true_eq] at horderly
    rw [DirectPdoRuntime.workerStep, hcomplete]
    exact h.completes hreasoned hcomplete input horderly
  unfold DirectPdoRuntime.workerStep
  split
  case h_1 | h_2 | h_11 => contradiction
  case h_3 =>
    have hacquired : GrantUsed { s with
        arbiter := (s.arbiter.runtimeTryAcquire clientRender).2
        dispatcher := { s.dispatcher with
          arbiterGeneration := (s.arbiter.runtimeTryAcquire clientRender).1.2 } } :=
      h.works hreasoned hactive rfl hcomplete
    unfold DirectPdoRuntime.acquires
    dsimp only
    split_ifs
    · exact h.works hreasoned hactive rfl (by simp)
    · exact hacquired.acquired (hreasoned' _ _ _) hactive _
  case h_4 =>
    unfold DirectPdoRuntime.wasRejected
    split_ifs
    · exact h.works hreasoned hactive rfl (by simp)
    · exact h.acquired hreasoned hactive _
  case h_5 =>
    have hrequested : GrantUsed { s with
        dispatcher := { s.dispatcher with
          preemption := s.dispatcher.preemption.requestRender.2 } } :=
      h.works hreasoned hactive rfl hcomplete
    unfold DirectPdoRuntime.preempts
    dsimp only
    split_ifs
    · exact hrequested.preemptsNext (hreasoned' _ _ _) hactive hcomplete _
    · exact hrequested.acquired (hreasoned' _ _ _) hactive _
  case h_6 =>
    unfold DirectPdoRuntime.preempting
    split <;> exact h.works hreasoned hactive rfl (by simp)
  case h_7 action generation grant hpoint =>
    have hcompleted : GrantUsed { s with
        dispatcher := { s.dispatcher with
          arbiterGeneration :=
            if s.worker.status.ntSuccess ∧ action = .retryRender then grant
            else s.dispatcher.arbiterGeneration
          preemption := s.dispatcher.preemption.completeAction generation action
            s.worker.status.ntSuccess } } :=
      h.works hreasoned hactive rfl hcomplete
    exact hcompleted.preemptsNext (hreasoned' _ _ _) hactive hcomplete _
  case h_8 => exact h.executing hreasoned hactive _
  case h_9 hpoint =>
    simp only [isOrderly, hpoint, decide_eq_true_eq] at horderly
    refine ⟨h.used, fun hat hgrant => ?_, h.numbered⟩
    unfold DirectPdoRuntime.releases at hat
    dsimp only at hat
    split_ifs at hat with hkept
    have hopen := hkept.resolve_left hgrant
    exact (horderly.resolve_left hgrant).resolve_left hopen
  case h_10 =>
    have hreleased : (if (s.arbiter.runtimeRelease clientRender
        s.dispatcher.arbiterGeneration).1 = true then 0 else s.dispatcher.arbiterGeneration) =
        0 := by
      split_ifs with hreleased
      · rfl
      · exact not_not.mp fun hgrant =>
          hreleased ((hheld.grant hgrant).release hgrant)
    exact ⟨fun hgrant => absurd hreleased hgrant, fun _ hgrant => absurd hreleased hgrant,
      h.numbered⟩

theorem GrantUsed.stopCloses (h : s.GrantUsed) (hreasoned : s.Reasoned) (side : ChannelSide)
    (targetOffline : Bool) (point : LifecyclePoint) :
    (s.stopCloses side targetOffline point).GrantUsed := by
  unfold DirectPdoRuntime.stopCloses
  split_ifs
  · have hstep := h.channelStep hreasoned side (.close targetOffline)
    exact ⟨hstep.used, hstep.released, hstep.numbered⟩
  · exact h

theorem GrantUsed.stopClosesOn (h : s.GrantUsed) (hreasoned : s.Reasoned) (side : ChannelSide)
    (succeeded : Bool) (point : LifecyclePoint) :
    (s.stopClosesOn side succeeded point).GrantUsed := by
  have hstep := h.channelStep hreasoned side (.closeStep succeeded)
  unfold DirectPdoRuntime.stopClosesOn
  dsimp only
  split_ifs
  · exact ⟨hstep.used, hstep.released, hstep.numbered⟩
  · exact hstep

theorem GrantUsed.lifecycleStep (h : s.GrantUsed) (hreasoned : s.Reasoned) (succeeded : Bool) :
    (s.lifecycleStep succeeded).GrantUsed := by
  have hchannel : ∀ side op lifecycle, GrantUsed { s.channelStep side op with lifecycle } := by
    intro side op lifecycle
    have hstep := h.channelStep hreasoned side op
    exact ⟨hstep.used, hstep.released, hstep.numbered⟩
  unfold DirectPdoRuntime.lifecycleStep
  split
  case h_1 => exact h
  case h_2 | h_3 | h_4 | h_5 => exact hchannel _ _ _
  case h_6 | h_10 => exact h.stopCloses hreasoned _ _ _
  case h_7 | h_8 | h_11 | h_12 => exact h.stopClosesOn hreasoned _ _ _
  case h_9 =>
    split_ifs
    · exact ⟨h.used, h.released, h.numbered⟩
    · exact h
  case h_13 =>
    exact ⟨fun hgrant => absurd rfl hgrant, fun _ hgrant => absurd rfl hgrant, h.numbered⟩

theorem GrantUsed.start (h : s.GrantUsed) (workItem : Bool) (now100ns : UInt64) :
    (s.start workItem now100ns).2.GrantUsed := by
  rcases s.start_cases workItem now100ns with hrefused |
    ⟨-, context, hstarts, howner, -, -, -, hreleased, -⟩
  · rwa [hrefused]
  · rw [hstarts]
    refine ⟨fun hgrant => absurd hreleased hgrant, fun _ hgrant => absurd hreleased hgrant, ?_⟩
    dsimp only
    rw [howner]
    unfold onPnpStart
    split_ifs
    · exact h.numbered
    · dsimp only
      rw [session_ownWorker]
      exact NldDirectPdoSession.faultNumbered_onPnpStart h.numbered

theorem GrantUsed.stop (h : s.GrantUsed) (hreasoned : s.Reasoned) : s.stop.GrantUsed := by
  unfold DirectPdoRuntime.stop NldDirectPdoDispatcherContext.stop
  split
  · exact h
  · have hframe : GrantUsed { s with
        arbiter := (s.arbiter.runtimeSetRenderDemand false).2
        lifecycle :=
          .clearCallback .signaling (s.dispatcher.owner.onPnpStop.1 = .cancelActive) } :=
      ⟨h.used, h.released, h.numbered⟩
    exact hframe.commanded rfl (continues_onPnpStop hreasoned.onTrack)

theorem GrantUsed.setIntent (h : s.GrantUsed) (hreasoned : s.Reasoned)
    (intent : NldDirectPdoKsIntent) : (s.setIntent intent).2.GrantUsed := by
  have hframe : ∀ arbiter, GrantUsed { s with arbiter } := fun _ =>
    ⟨h.used, h.released, h.numbered⟩
  unfold DirectPdoRuntime.setIntent
  dsimp only
  split_ifs
  · exact h
  · exact hframe _
  · exact (hframe _).commanded rfl (continues_of_movesTo
      (s.dispatcher.owner.movesTo_setKsIntent intent)
      (NldDirectPdoSession.continues_setKsIntent hreasoned.onTrack.session intent))

theorem GrantUsed.requestRecovery (h : s.GrantUsed) (hreasoned : s.Reasoned)
    (request : NldDirectPdoRecoveryRequestV1) (requestSize : UInt32) :
    (s.requestRecovery request requestSize).2.GrantUsed := by
  have hcontinues := continues_of_movesTo
    s.dispatcher.owner.movesTo_retry
    (NldDirectPdoSession.continues_retry hreasoned.onTrack.session)
  unfold DirectPdoRuntime.requestRecovery NldDirectPdoDispatcherContext.requestRecovery
  dsimp only
  split
  · exact h
  split
  · exact h
  split
  · exact h
  split
  · refine ⟨fun hgrant => hcontinues.uses (h.used hgrant), fun hat hgrant => ?_,
      hcontinues.numbered h.numbered⟩
    exact keepsGrant_of_continues (h.released hat hgrant) hcontinues rfl
  · exact h.commanded rfl hcontinues

theorem GrantUsed.checkMediaWatchdog (h : s.GrantUsed) (hreasoned : s.Reasoned)
    (timeoutMs : UInt32) (now100ns : UInt64) :
    GrantUsed (s.queued (s.dispatcher.checkMediaWatchdog timeoutMs now100ns)) := by
  unfold NldDirectPdoDispatcherContext.checkMediaWatchdog
  dsimp only
  split_ifs
  · exact h
  · rw [failed_eq]
    exact h.commanded rfl (continues_of_movesTo
      s.dispatcher.owner.movesTo_onTransportLost
      (NldDirectPdoSession.continues_onTransportLost hreasoned.onTrack.session))
  · exact ⟨h.used, h.released, h.numbered⟩

theorem GrantUsed.disconnectCallback (h : s.GrantUsed) (hreasoned : s.Reasoned) (i : Nat) :
    (s.disconnectCallback i).GrantUsed := by
  unfold DirectPdoRuntime.disconnectCallback
  split_ifs
  · have hframe : GrantUsed { s with callbacks := s.callbacks.eraseIdx i } :=
      ⟨h.used, h.released, h.numbered⟩
    exact hframe.transportDisconnected (hreasoned.same rfl)
  · exact h

theorem grantUsed_step (h : s.GrantUsed) (hreasoned : s.Reasoned) (hheld : s.Held)
    {op : DirectPdoOp} (horderly : s.isOrderly op) : (directPdoRuntime.next s op).GrantUsed := by
  cases op with
  | arbiterStart => exact ⟨h.used, h.released, h.numbered⟩
  | arbiterStop =>
    show GrantUsed (if _ then _ else _)
    split_ifs
    · exact h
    · exact ⟨h.used, h.released, h.numbered⟩
  | start workItem now100ns =>
    show GrantUsed (Prod.snd (if _ then _ else _))
    split_ifs
    · exact h.start workItem now100ns
    · exact h
  | stop =>
    show GrantUsed (if _ then _ else _)
    split_ifs
    · exact h.stop hreasoned
    · exact h
  | lifecycle succeeded => exact h.lifecycleStep hreasoned succeeded
  | setFormat sampleRateHz =>
    show GrantUsed { s with dispatcher := (s.dispatcher.setFormat sampleRateHz).2 }
    unfold NldDirectPdoDispatcherContext.setFormat
    split_ifs <;> exact ⟨h.used, h.released, h.numbered⟩
  | setIntent intent => exact h.setIntent hreasoned intent
  | requestRecovery request requestSize => exact h.requestRecovery hreasoned request requestSize
  | checkMediaWatchdog timeoutMs now100ns =>
    exact h.checkMediaWatchdog hreasoned timeoutMs now100ns
  | mediaWritten now100ns => exact ⟨h.used, h.released, h.numbered⟩
  | worker input => exact h.workerStep hreasoned hheld input horderly
  | diagnosticAcquire => exact ⟨h.used, h.released, h.numbered⟩
  | diagnosticRelease generation => exact ⟨h.used, h.released, h.numbered⟩
  | channel side op =>
    show GrantUsed (if _ then _ else _)
    split_ifs
    · exact h.channelStep hreasoned side op
    · exact h
  | disconnectCallback i => exact h.disconnectCallback hreasoned i

theorem grantUsed_after {ops : List DirectPdoOp}
    (horderly : directPdoRuntime.Along (fun s op => s.isOrderly op) {} ops) :
    (directPdoRuntime.after {} ops).GrantUsed := by
  have hinv := Reducer.after_inv (M := directPdoRuntime)
    (P := fun s : DirectPdoRuntime => s.Reasoned ∧ s.Held ∧ s.GrantUsed)
    (fun s op h horderly => ⟨reasoned_step h.1 op, held_step h.2.1 h.1 op,
      grantUsed_step h.2.2 h.1 h.2.1 horderly⟩)
    ⟨reasoned_initialized, held_initialized, grantUsed_initialized⟩ horderly
  exact hinv.2.2

theorem GrantUsed.released_of_awaits (h : s.GrantUsed) (hreasoned : s.Reasoned)
    (hawaits : s.AwaitsRecovery) : s.dispatcher.arbiterGeneration = 0 := by
  obtain ⟨hfaulted, -, hstop, -, howned⟩ := hawaits
  refine not_not.mp fun hgrant => ?_
  rcases h.used hgrant with hstopping | hopen | hstreaming | hpending
  · cases hstop.symm.trans hstopping
  · cases hfaulted.symm.trans hopen
  · cases hfaulted.symm.trans hstreaming
  · exact hpending (hreasoned.onTrack.idle howned).1

end DirectPdoRuntime

open DirectPdoRuntime

/-- **Recovery from a fault.**  A session that awaits its recovery recovers exactly if render has
    given its grant back and the session is numbered; along a run that is orderly every one
    does. -/
theorem fault_recovers (ops : List DirectPdoOp) :
    ((directPdoRuntime.after {} ops).AwaitsRecovery →
      ((directPdoRuntime.after {} ops).Recovers ↔
        (directPdoRuntime.after {} ops).dispatcher.arbiterGeneration = 0 ∧
          (directPdoRuntime.after {} ops).dispatcher.owner.session.generation ≠ 0)) ∧
      (directPdoRuntime.Along (fun s op => s.isOrderly op) {} ops →
        ∀ before, before <+: ops → (directPdoRuntime.after {} before).Recoverable) := by
  have hreasoned := reasoned_after
  refine ⟨fun hawaits => (hreasoned ops).recovers_iff hawaits, ?_⟩
  rintro horderly before ⟨rest, rfl⟩ hawaits
  have hused := grantUsed_after ((Reducer.along_append _ _ _).mp horderly).1
  refine ((hreasoned before).recovers_iff hawaits).mpr
    ⟨hused.released_of_awaits (hreasoned before) hawaits, ?_⟩
  exact hused.numbered (.inl hawaits.1)

/-- An open that fails at once is closed again, and the session recovers. -/
def failedOpen : List DirectPdoOp :=
  startUp ++ requestsOpen.dropLast ++ [.worker { allocations := { openBrb := false } }] ++
    carriesOn 12 ++ [.setIntent ksStopped, .worker {}]

theorem failed_open_recovers :
    (directPdoRuntime.after {} failedOpen).AwaitsRecovery ∧
      (directPdoRuntime.after {} failedOpen).Recovers :=
  ⟨by decide +kernel,
    (fault_recovers failedOpen).2 (by decide +kernel) failedOpen List.prefix_rfl (by decide +kernel)⟩

/-- One command of the source and its response. -/
def exchange (response : List UInt8) : List DirectPdoOp := carriesOn 3 ++ [.worker { response }]

/-- The signaling channel is opened, the stream configured and the media channel opened. -/
def negotiation : List DirectPdoOp :=
  requestsOpen ++ opensChannel .signaling 0 ++ carriesOn 3 ++
    exchange [0x02, 0x01, 0x04, 0x08] ++
    exchange [0x12, 0x0C, 0x07, 0x0A, 0x00, 0xFF, 0x2D, 0x01, 0x00, 0x00, 0xAA, 0x00, 0x3C, 0x07] ++
    exchange [0x22, 0x03] ++ exchange [0x32, 0x06] ++ carriesOn 2 ++ opensChannel .media 0 ++ carriesOn 5

/-- A start whose command is not written in time; the intent goes back to Stopped. -/
def failedStart : List DirectPdoOp :=
  startUp ++ negotiation ++ [.setIntent ksRunning] ++ carriesOn 4 ++
    [.worker { status := .ioTimeout }] ++ carriesOn 2 ++ [.setIntent ksStopped, .worker {}]

/-- Nothing closes the channels after a start that has failed, and render keeps its grant: the
    recovery is refused. -/
theorem failed_start_unrecoverable :
    ¬ ∀ ops, (directPdoRuntime.after {} ops).Recoverable :=
  fun hrecoverable => absurd (hrecoverable failedStart) (by decide +kernel)

end NativeLdac.DirectPdo
