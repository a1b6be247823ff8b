/-
  The run of the PCM session as a whole: what holds when the report is
  returned, and what holds when a loop runs out of fuel.

  `run_holds`: a run that returns ends in a `Finished` state, one that does not
  in a `Stuck` one.
-/
import NativeLdac.Agent.PcmPause

namespace NativeLdac.Agent

open Engine Protocol

/-! ## The preflight -/

/-- The stream is not started, nor the signaling channel opened. -/
structure Unopened (c : PcmCore) : Prop where
  unopened : c.signalingOpened = false
  unsuspended : c.suspendedForPause = false

/-- The lease is held, and nothing else. -/
structure Leased (c : PcmCore) : Prop extends Unopened c where
  held : c.leaseHeld = true

/-- The lease is not held either. -/
structure Unleased (c : PcmCore) : Prop extends Unopened c where
  unheld : c.leaseHeld = false

/-- The session goes on, and no packet is written yet. -/
structure Unstreamed (e : PcmCore → Prop) (v : PcmView) : Prop extends Going e v where
  packets : mediaPackets v.calls = []

/-- The lease was asked for, before the first packet. -/
structure Preparing (ok : Bool) (v : PcmView) : Prop extends LeaseLags Unleased ok v where
  packets : mediaPackets v.calls = []

theorem Preparing.withRate {ok : Bool} {v : PcmView} (h : Preparing ok v) (rate : UInt32) :
    Preparing ok { v with core := { v.core with rate := rate } } where
  core := { h.core with }
  sound := h.sound.withRate h.packets _
  packets := h.packets

section
variable {F H Ω : Type} [FloatArith F] (env : PcmEnvironment F H Ω)
  (options : V1TransportPcmOptions F) {e : PcmCore → Prop}

theorem spec_acquireForPreflight (deadline : Nat) (error : UInt32) :
    Spec (Unstreamed Unopened) (acquireForPreflight env deadline error) fun r v =>
      r.elim (Done v) fun _ => Unstreamed Leased v := by
  unfold acquireForPreflight
  refine Spec.read_bind (fun v => v.core.leaseHeld) (fun _ => rfl) ?_
  intro held
  refine .ite ?_ ?_
  · intro hheld
    refine .pure fun v h => ?_
    exact ⟨⟨h.1.good, { h.1.core with held := h.2.symm.trans hheld }⟩, h.1.packets⟩
  intro hheld
  refine Spec.pre (?_ : Spec (Unstreamed Unleased) _ _) fun v h =>
    ⟨⟨h.1.good, { h.1.core with unheld := h.2.symm.trans (Bool.not_eq_true _ ▸ hheld) }⟩,
      h.1.packets⟩
  refine .calm_bind (calm_ask _) ?_
  intro now
  refine .calm_bind (calm_report fun _ => rfl) fun _ => ?_
  refine .calm_bind (.read _) ?_
  intro format
  refine .bind (Q := fun answer => Preparing answer.ok)
    (spec_askLogged fun answer v h => ⟨h.acquire h.core.unheld answer.ok, h.packets⟩) ?_
  intro answer
  refine .bind (Q := fun _ => Preparing answer.ok) (.update fun s h => h.withRate _) fun _ => ?_
  refine .ite ?_ ?_
  · intro hok
    rw [hok]
    refine Spec.pre (?_ : Spec (Going Unleased) _ _) fun v h => h.going h.core.unheld
    refine .calm_bind (calm_report fun _ => rfl) fun _ => ?_
    refine .calm_bind (calm_probeStop env) ?_
    intro stop
    exact .fails (fails_setFailureHere _) fun v h => h
  intro hok
  rw [Bool.not_eq_false] at hok
  rw [hok]
  refine .calm_bind (calm_report fun _ => rfl) fun _ => ?_
  refine .bind (Q := fun _ => Unstreamed Leased) (.update fun s h => ?_) fun _ => ?_
  · exact ⟨h.report fun c hc => { hc with held := rfl }, h.packets⟩
  refine .ite (fun _ => ?_) fun _ => ?_
  · exact .fails ((fails_protocolFailure _ _).pre fun v h => h.toGoing) fun v h => h
  · exact .pure fun v h => h

def PreflightEnds (r : UInt32 ⊕ Bool) (v : PcmView) : Prop :=
  r.elim (fun _ => Unstreamed Unopened v) fun ok => Yields (Unstreamed Leased) ok v

theorem spec_restartPreflight (error : UInt32) :
    Spec (Unstreamed Leased) (restartPreflight env error) PreflightEnds := by
  unfold restartPreflight
  refine .calm_bind (calm_probeStop env) ?_
  intro streamStop
  refine .ite (fun _ => ?_) fun _ => ?_
  · refine .calm_bind (calm_report fun _ => rfl) fun _ => ?_
    exact .fails ((fails_setFailureHere _).pre fun v h => h.toGoing) fun v h => h
  refine .calm_bind (calm_ask _) fun _ => ?_
  refine .calm_bind (calm_report fun _ => rfl) fun _ => ?_
  refine .bind (Q := fun _ v => LeaseLags Leased false v ∧ mediaPackets v.calls = [])
    (spec_askLogged fun released v h => ⟨h.release h.core.held (by simp), h.packets⟩) ?_
  intro released
  refine .bind (Q := fun _ => Unstreamed Unopened) (.update fun s h => ?_) fun _ => ?_
  · exact ⟨h.1.report fun c hc => { hc with }, h.2⟩
  refine .ite (fun _ => ?_) fun _ => ?_
  · refine .calm_bind (calm_report fun _ => rfl) fun _ => ?_
    exact .fails ((fails_setFailure _ _).pre fun v h => h.toGoing) fun v h => h
  refine .calm_bind (calm_report fun _ => rfl) fun _ => ?_
  refine .calm_bind (.read _) ?_
  intro restarts
  refine .ite (fun _ => ?_) fun _ => ?_
  · exact .fails ((fails_protocolFailure _ _).pre fun v h => h.toGoing) fun v h => h
  · refine .calm_bind (calm_report fun _ => rfl) fun _ => ?_
    exact .pure fun v h => h

theorem spec_readPreflight (deadline : Nat) (error : UInt32) :
    Spec (Unstreamed Leased) (readPreflight env options deadline error) PreflightEnds := by
  have hunopened (v : PcmView) (h : Unstreamed Leased v) : Unstreamed Unopened v :=
    ⟨h.mono fun _ hc => hc.toUnopened, h.packets⟩
  unfold readPreflight
  refine .calm_bind (calm_ask _) ?_
  intro now
  refine .calm_bind (.read _) ?_
  intro pcm
  refine .calm_bind (calm_ask _) ?_
  intro answer
  refine .calm_bind (.update fun _ => rfl) fun _ => ?_
  refine .ite (fun _ => ?_) fun _ => ?_
  · exact .pure hunopened
  refine .ite (fun _ => ?_) fun _ => ?_
  · exact spec_restartPreflight env _
  refine .ite (fun _ => ?_) fun _ => ?_
  · refine .calm_bind (calm_report fun _ => rfl) fun _ => ?_
    exact .fails ((fails_setFailureHere _).pre fun v h => h.toGoing) fun v h => h
  refine .calm_bind (.update fun _ => rfl) fun _ => ?_
  refine .calm_bind (calm_report fun _ => rfl) fun _ => ?_
  refine .calm_bind (.read _) ?_
  intro peak
  refine .ite (fun _ => ?_) fun _ => ?_
  · refine .calm_bind (calm_report fun _ => rfl) fun _ => ?_
    exact .pure fun v h => h
  · refine .calm_bind (calm_report fun _ => rfl) fun _ => ?_
    exact .pure hunopened

theorem spec_preflightRound (deadline : Nat) (error : UInt32) :
    Spec (Unstreamed Unopened) (preflightRound env options deadline error) PreflightEnds := by
  unfold preflightRound
  refine .calm_bind (calm_ask _) ?_
  intro now
  refine .ite (fun _ => ?_) fun _ => ?_
  · exact .fails ((fails_protocolFailure _ _).pre fun v h => h.toGoing) fun v h => h
  refine .calm_bind (calm_probeStop env) ?_
  intro stop
  refine .ite (fun _ => ?_) fun _ => ?_
  · exact .fails ((fails_setFailureHere _).pre fun v h => h.toGoing) fun v h => h
  refine .bind (spec_acquireForPreflight env deadline error) ?_
  intro error
  cases error with
  | none => exact .pure fun v h => h
  | some error => exact spec_readPreflight env options deadline error

theorem spec_prepareAudiblePcm (fuel : Nat) :
    Spec (Unstreamed Unopened) (prepareAudiblePcm env options fuel) (Yields (Going Leased)) := by
  unfold prepareAudiblePcm
  refine .calm_bind (calm_ask _) ?_
  intro start
  refine Spec.post (Spec.iterate (I := fun _ => Unstreamed Unopened)
    (R := Yields (Unstreamed Leased)) (fun error => (spec_preflightRound env options _ error).post
    fun r v h => ?_) (fun _ _ h => h.good.stuck) fuel 0) fun ok v h => ?_
  · cases r <;> exact h
  · cases ok with
    | true => exact h.toGoing
    | false => exact h

/-! ## Opening the stream -/

theorem spec_lockFormat :
    Spec (Going e) (lockFormat options : Prog (PcmSession F H Ω) Bool) (Yields (Going e)) := by
  unfold lockFormat
  refine .calm_bind (.update fun _ => rfl) fun _ => ?_
  refine .ite (fun _ => ?_) fun _ => ?_
  · exact .pure fun v h => h
  refine .calm_bind (.read _) ?_
  intro locked
  refine .ite (fun _ => ?_) fun _ => ?_
  · exact .fails (fails_protocolFailure _ _) fun v h => h
  · refine .calm_bind (calm_report fun _ => rfl) fun _ => ?_
    exact .pure fun v h => h

/-- The lease is held, whatever the channel. -/
structure Opened (c : PcmCore) : Prop where
  held : c.leaseHeld = true
  unsuspended : c.suspendedForPause = false

theorem spec_openSignaling :
    Spec (Going Leased) (openSignaling env options) (Yields (Going Opened)) := by
  unfold openSignaling
  refine .calm_bind (calm_probeStop env) ?_
  intro stop
  refine .ite (fun _ => ?_) fun _ => ?_
  · exact .fails (fails_setFailure _ _) fun v h => h
  refine .calm_bind (calm_report fun _ => rfl) fun _ => ?_
  refine .bind (Q := fun answer v => Leased v.core ∧ Sound v.core.cleanupRequired v.core.leaseHeld
    answer.ok v) (spec_askLogged fun answer v h => ?_) fun answer => ?_
  · have hsound : Sound v.core.cleanupRequired v.core.leaseHeld false v := by
      rw [← h.core.unopened]
      exact h.good
    exact ⟨h.core, hsound.openCall answer.ok⟩
  refine .calm_bind (.update fun _ => rfl) fun _ => ?_
  refine .ite ?_ ?_
  · intro hok
    rw [hok]
    refine Spec.pre (?_ : Spec (Going Leased) _ _) fun v h => ⟨?_, h.1⟩
    · refine .calm_bind (calm_report fun _ => rfl) fun _ => ?_
      refine .calm_bind (calm_probeStop env) ?_
      intro stop
      exact .fails (fails_setFailure _ _) fun v h => h
    · unfold Good
      rw [h.1.unopened]
      exact h.2
  · intro hok
    rw [Bool.not_eq_false] at hok
    rw [hok]
    refine .bind (Q := fun _ => Going Opened) (.update fun s h => ?_) fun _ => .pure fun v h => h
    exact ⟨h.2.withCore rfl, h.1.held, h.1.unsuspended⟩

/-- The invariant of the negotiation: the next command is the pending one. -/
abbrev Negotiating (e : PcmCore → Prop) (action : AvdtpAction) (v : PcmView) : Prop :=
  Going e v ∧ AvdtpSource.Settled (¬ IsStreamSignal ·) (action, v.avdtp)

theorem spec_negotiateRound (fuel : Nat) (action : AvdtpAction) :
    Spec (Negotiating e action) (negotiateRound env options fuel action) fun r v =>
      r.elim (fun next => Negotiating e next v) fun action => action.elim (Done v) fun _ =>
        Going e v := by
  unfold negotiateRound
  refine .ite (fun _ => ?_) fun _ => ?_
  · exact .pure fun v h => h.1
  split
  · exact .fails ((fails_setFailure _ _).pre fun v h => h.1) fun v h => h
  refine .bind (spec_exchange_own env options fuel action _ _) ?_
  intro next
  cases next with
  | none => exact .pure fun v h => h
  | some next =>
    refine .calm_bind (calm_report fun _ => rfl) fun _ => ?_
    exact .pure fun v h => h

theorem spec_negotiate (fuel : Nat) :
    Spec (Going e) (negotiate env options fuel) (Yields (Going e)) := by
  unfold negotiate
  refine .bind (Q := fun _ v => Going e v ∧ v.avdtp.pendingSignalId = 0) (.update fun s h => ?_)
    fun _ => ?_
  · exact ⟨⟨h.good.withAvdtp _, h.core⟩, rfl⟩
  refine .bind (spec_avdtpStep (e := e) (r := AvdtpSource.Settled (¬ IsStreamSignal ·)) fun v h =>
    ⟨h.1, AvdtpSource.settled_begin (by rw [h.2]; decide)⟩) ?_
  intro action
  refine .bind (Spec.iterate (I := Negotiating e) (spec_negotiateRound env options fuel)
    (fun _ _ h => h.1.good.stuck) fuel action) ?_
  intro action
  cases action with
  | none => exact .pure fun v h => h
  | some action =>
    refine .ite (fun _ => ?_) fun _ => ?_
    · exact .fails (fails_setFailure _ _) fun v h => h
    refine .calm_bind (.update fun _ => rfl) fun _ => ?_
    refine .calm_bind (.read _) ?_
    intro r
    refine .ite (fun _ => ?_) fun _ => ?_
    · exact .fails (fails_protocolFailure _ _) fun v h => h
    · exact .pure fun v h => h

theorem spec_openMedia : Spec (Going e) (openMedia env options) (Yields (Going e)) := by
  unfold openMedia
  refine .calm_bind (calm_report fun _ => rfl) fun _ => ?_
  refine .calm_bind (.read _) ?_
  intro error
  refine .calm_bind (calm_ask _) ?_
  intro answer
  refine .calm_bind (.update fun _ => rfl) fun _ => ?_
  refine .ite (fun _ => ?_) fun _ => ?_
  · exact .fails (fails_backendFailure _ _) fun v h => h
  refine .calm_bind (calm_report fun _ => rfl) fun _ => ?_
  refine .ite (fun _ => ?_) fun _ => ?_
  · exact .fails (fails_protocolFailure _ _) fun v h => h
  refine .bind (spec_avdtpStep (e := e) (r := fun _ => True) fun v h => ⟨h, trivial⟩) ?_
  intro opened
  refine Spec.pre (?_ : Spec (Going e) _ _) fun v h => h.1
  refine .ite (fun _ => ?_) fun _ => ?_
  · exact .fails (fails_protocolFailure _ _) fun v h => h
  · exact .pure fun v h => h

theorem spec_installEncoder :
    Spec (Going Opened) (installEncoder env options) (Yields (Going PcmCore.Streaming)) := by
  unfold installEncoder
  refine .bind (spec_createEncoder env options) ?_
  intro created
  split
  next encoder =>
    refine .bind (Q := fun _ => Going PcmCore.Streaming) (.update fun s h => ?_) fun _ => .pure
      fun v h => h
    have hrate : encoder.sampleRateHz = s.result.pcmFormat.sampleRateHz := h.rate encoder rfl
    exact ⟨h.good.withCore rfl,
      { encoderRate := congrArg some hrate
        samplesPerFrame := congrArg frameSamples hrate
        held := h.core.held
        unsuspended := h.core.unsuspended }⟩
  next => exact .fails ((fails_protocolFailure _ _).pre fun v h => h.toGoing) fun v h => h

theorem spec_notifyStarted : Spec (Going e) (notifyStarted env) (Yields (Going e)) := by
  unfold notifyStarted
  refine .calm_bind ?_ fun notified => ?_
  · split
    · exact .pure _
    · exact calm_askError _
  refine .ite (fun _ => ?_) fun _ => ?_
  · refine .calm_bind (.read _) ?_
    intro error
    exact .fails (fails_backendFailure _ _) fun v h => h
  · refine .calm_bind (calm_report fun _ => rfl) fun _ => ?_
    exact .pure fun v h => h

theorem spec_beginFadeSession :
    Spec (Going e) (beginFadeSession options : Prog (PcmSession F H Ω) Bool) (Yields (Going e)) := by
  unfold beginFadeSession
  refine .ite (fun _ => ?_) fun _ => ?_
  · exact .pure fun v h => h
  refine .calm_bind (.read _) ?_
  intro fadeState
  split
  · exact .fails (fails_protocolFailure _ _) fun v h => h
  · refine .calm_bind (.update fun _ => rfl) fun _ => ?_
    exact .pure fun v h => h

theorem spec_openStream (fuel : Nat) :
    Spec (Unstreamed Unopened) (openStream env options fuel) (Yields (Going PcmCore.Streaming)) :=
  .andAlso (spec_prepareAudiblePcm env options fuel) <| .andAlso (spec_lockFormat options) <|
  .andAlso (spec_openSignaling env options) <| .andAlso (spec_negotiate env options fuel) <|
  .andAlso (spec_openMedia env options) <| .andAlso (spec_installEncoder env options) <|
  .andAlso (spec_startStream env options fuel fun _ hc => { hc with }) <|
  .andAlso (spec_notifyStarted env) <| .andAlso (spec_beginPeerSignalingRead env options _) <|
  .andAlso (spec_beginFadeSession options) <| spec_sendStartupSilence env options fuel

/-! ## The main loop -/

theorem spec_checkStops :
    Spec (Going PcmCore.Streaming) (checkStops env options) StreamFlow := by
  unfold checkStops
  refine spec_checkPeer env options (fun v h => h) ?_
  refine .calm_bind (calm_probeStop env) ?_
  intro stop
  refine .ite (fun _ => ?_) fun _ => ?_
  · exact .fails (fails_setFailure _ _) fun v h => h
  · refine .ite (fun _ => ?_) fun _ => ?_
    · exact spec_leave fun _ hc => hc.stopping
    · exact .pure fun v h => h

theorem spec_takeBlock (fuel : Nat) :
    Spec (Going PcmCore.Streaming) (takeBlock env options fuel) StreamFlow := by
  unfold takeBlock
  refine .calm_bind (.read _) ?_
  intro usePreflightBlock
  refine .bind (Q := StreamFlow) (.ite (fun _ => .pure fun v h => h) fun _ => spec_readBlock env
    options fuel) ?_
  intro flow
  refine .calm_bind (.onlyIf (.update fun _ => rfl)) fun _ => ?_
  exact .pure fun v h => h

/-- The main loop ends with an orderly stop, or with the session. -/
def LoopEnds (flow : Flow) (v : PcmView) : Prop :=
  if flow = .leave then Going PcmCore.Stopping v else Done v

theorem spec_streamRound (fuel : Nat) (target : UInt64) :
    Spec (Going PcmCore.Streaming) (streamRound env options fuel target) fun r v =>
      r.elim (Going PcmCore.Streaming v) fun flow => LoopEnds flow v := by
  unfold streamRound
  refine .calm_bind (.read _) ?_
  intro sent
  refine .ite (fun _ => ?_) fun _ => ?_
  · refine .pure fun v h => ?_
    exact h.mono fun _ hc => hc.stopping
  have hgate : Spec (Going PcmCore.Streaming) (volumeGate env options) StreamFlow :=
    spec_volumeGate env options fun v h => h.mono fun _ hc => hc.stopping
  refine .bind (Q := StreamFlow) (.andThen (spec_checkStops env options) (fun _ h => h) <| .andThen
    (spec_takeBlock env options fuel) (fun _ h => h) <| .andThen hgate (fun _ h => h) <|
    spec_sendBlock env options) ?_
  intro flow
  cases flow with
  | proceed => exact .pure fun v h => h
  | next => exact .pure fun v h => h
  | leave => exact .pure fun v h => h
  | finish => exact .pure fun v h => h

/-! ## The orderly stop -/

theorem spec_settleFade :
    Spec (Going e) (settleFade options : Prog (PcmSession F H Ω) Bool) (Yields (Going e)) := by
  unfold settleFade
  refine .calm_bind (.update fun s => ?_) fun _ => ?_
  · split <;> rfl
  refine .calm_bind (.read _) ?_
  intro s
  refine .ite (fun _ => ?_) fun _ => ?_
  · refine .calm_bind (calm_report fun _ => rfl) fun _ => ?_
    exact .fails (fails_protocolFailure _ _) fun v h => h
  refine .calm_bind (calm_report fun s => ?_) fun _ => ?_
  · unfold updateDurationTelemetry
    split <;> rfl
  refine .calm_bind (.update fun _ => rfl) fun _ => ?_
  exact .pure fun v h => h

theorem spec_checkFinalPeerControl :
    Spec (Going e) (checkFinalPeerControl env options) (Yields (Going e)) := by
  unfold checkFinalPeerControl
  refine spec_checkPeer env options (fun v h => h) ?_
  refine .andAlso (spec_cancelPeerSignalingRead env options _) ?_
  refine .calm_bind (calm_stopIsCancel env) ?_
  intro cancelled
  refine .ite (fun _ => ?_) fun _ => ?_
  · exact .fails (fails_setFailure _ _) fun v h => h
  · exact .pure fun v h => h

theorem spec_suspendUnlessPaused (fuel : Nat) :
    Spec (Going PcmCore.Stopping) (suspendUnlessPaused env options fuel)
      (Yields (Going fun c => c.cleanupRequired = false)) := by
  unfold suspendUnlessPaused
  refine Spec.read_bind (fun v => v.core.suspendedForPause) (fun _ => rfl) ?_
  intro paused
  refine .ite ?_ ?_
  · intro hp
    refine .pure fun v h => ?_
    exact ⟨h.1.good, h.1.core (h.2.symm.trans hp)⟩
  · intro _
    exact (spec_suspendStream env options fuel fun _ _ => rfl).pre fun v h => h.1

theorem spec_stopStream (fuel : Nat) :
    Spec (Going PcmCore.Stopping) (stopStream env options fuel) fun _ => Done := by
  refine Spec.post (.andAlso (spec_settleFade options) <|
    .andAlso (spec_checkFinalPeerControl env options) <|
    .andAlso (spec_suspendUnlessPaused env options fuel) <|
    Spec.post (Q := Yields Done) (spec_closeStream env options fuel) fun ok v h => ?_)
    fun ok v h => ?_
  · cases ok <;> exact h
  · cases ok <;> exact h

theorem spec_streamSession (fuel : Nat) :
    Spec (Unstreamed Unopened) (streamSession env options fuel) fun _ => Done := by
  unfold streamSession
  refine .bind (spec_openStream env options fuel) ?_
  intro opened
  cases opened with
  | false => exact .pure fun v h => h
  | true =>
    refine .calm_bind (.read _) ?_
    intro rate
    refine .bind (Spec.loop (R := LoopEnds) (spec_streamRound env options fuel _)
      (fun v h => h.good.stuck) fuel) ?_
    intro flow
    refine .ite ?_ ?_
    · intro hleave
      rw [hleave]
      refine .bind (spec_stopStream env options fuel) fun _ => ?_
      exact .pure fun v h => h
    · intro hleave
      refine .pure fun v h => ?_
      rwa [LoopEnds, if_neg hleave] at h

end

/-! ## `Finish` -/

/-- The session is over, and its channel closed. -/
structure Closed (v : PcmView) : Prop where
  media : Media v.core.rate v.place (mediaPackets v.calls)
  signaling : SignalingClosed v.calls
  lease : LeaseOwed v.core.leaseHeld v.calls
  stream : StreamIs v.core.cleanupRequired v.calls
  dialogue : ∃ turn, PeerDialogue v.calls turn ∧ Concluded v turn

/-- The session has returned: the lease is given back, or was given back once
    too often. -/
structure Finished (v : PcmView) : Prop where
  media : Media v.core.rate v.place (mediaPackets v.calls)
  signaling : SignalingClosed v.calls
  lease : leaseAfter v.calls = some false ∧ ¬ PauseReleaseFailed v.calls ∨
    leaseAfter v.calls = none ∧ PauseReleaseFailed v.calls
  stream : StreamIs v.core.cleanupRequired v.calls
  dialogue : ∃ turn, PeerDialogue v.calls turn ∧ Concluded v turn

section
variable {v : PcmView}

theorem Done.unopened (h : Done v) (ho : v.core.signalingOpened = false) : Closed v where
  media := h.media
  signaling := by
    have hchannel := h.channel
    rw [ho] at hchannel
    rw [SignalingClosed, hchannel.opens, hchannel.closes]
    rfl
  lease := h.lease
  stream := h.stream
  dialogue := h.dialogue

theorem Done.closed (h : Done v) (ho : v.core.signalingOpened = true) (ok : Bool) :
    Closed { v with calls := .closeSignaling ok :: v.calls } where
  media := h.media
  signaling := by
    have hchannel := h.channel
    rw [ho] at hchannel
    unfold SignalingClosed
    rw [List.any_cons, hchannel.opens, List.countP_cons, hchannel.closes]
    rfl
  lease := by
    have hlease := h.lease
    unfold LeaseOwed leaseAfter at hlease ⊢
    rwa [Bracket.after_other rfl rfl, pauseReleaseFailed_cons (by simp)]
  stream := h.stream
  dialogue := by
    obtain ⟨turn, hd, hc⟩ := h.dialogue
    exact ⟨turn, .silent rfl hd, hc⟩

theorem Closed.unheld (h : Closed v) (hl : v.core.leaseHeld = false) : Finished v where
  media := h.media
  signaling := h.signaling
  lease := by
    obtain ⟨hafter, hf⟩ | ⟨-, hheld, -⟩ := h.lease
    · rw [hl] at hafter
      exact .inl ⟨hafter, hf⟩
    · rw [hl] at hheld
      cases hheld
  stream := h.stream
  dialogue := h.dialogue

theorem Closed.released (h : Closed v) (hl : v.core.leaseHeld = true) (ok : Bool) :
    Finished { v with calls := .release .finish ok :: v.calls } where
  media := h.media
  signaling := by
    have hs := h.signaling
    unfold SignalingClosed at hs ⊢
    rw [List.countP_cons, hs, List.any_cons]
    rfl
  lease := by
    show leaseAfter (.release .finish ok :: v.calls) = _ ∧ ¬ PauseReleaseFailed _ ∨
      leaseAfter (.release .finish ok :: v.calls) = _ ∧ PauseReleaseFailed _
    rw [pauseReleaseFailed_cons (by simp)]
    obtain ⟨hafter, hf⟩ | ⟨hafter, -, hf⟩ := h.lease
    · rw [hl] at hafter
      exact .inl ⟨Bracket.after_close rfl rfl hafter, hf⟩
    · exact .inr ⟨Bracket.after_close_closed rfl rfl hafter, hf⟩
  stream := h.stream
  dialogue := by
    obtain ⟨turn, hd, hc⟩ := h.dialogue
    exact ⟨turn, .silent rfl hd, hc⟩

end

section
variable {F H Ω : Type} [FloatArith F] (env : PcmEnvironment F H Ω)
  (options : V1TransportPcmOptions F)

theorem spec_closeSignalingOnce :
    Spec (fun v => Done v ∧ v.core.signalingOpened = true) (closeSignalingOnce env)
      fun _ => Closed := by
  unfold closeSignalingOnce
  refine .calm_bind (calm_report fun _ => rfl) fun _ => ?_
  refine .bind (Q := fun _ => Closed) (spec_askLogged fun answer v h => h.1.closed h.2 _) ?_
  intro answer
  refine .calm_bind (calm_report fun _ => rfl) fun _ => ?_
  exact .calm (.onlyIf (calm_report fun _ => rfl))

theorem spec_releaseHeldLease :
    Spec (fun v => Closed v ∧ v.core.leaseHeld = true) (releaseHeldLease env)
      fun _ => Finished := by
  unfold releaseHeldLease
  refine .bind (Q := fun _ => Finished) (spec_askLogged fun answer v h => h.1.released h.2 _) ?_
  intro answer
  refine .bind (Q := fun _ => Finished) (.update fun s h => ?_) fun _ => ?_
  · exact ⟨h.media, h.signaling, h.lease, h.stream, h.dialogue⟩
  refine .ite (fun _ => ?_) fun _ => ?_
  · exact .calm (calm_report fun _ => rfl)
  · exact .calm (calm_report fun _ => rfl)

theorem spec_finish : Spec Done (finish env) fun _ => Finished := by
  unfold finish
  refine .calm_bind (calm_report fun s => ?_) fun _ => ?_
  · unfold updateDurationTelemetry
    split <;> rfl
  refine Spec.read_bind (fun v => v.core.signalingOpened) (fun _ => rfl) ?_
  intro opened
  refine .bind (Q := fun _ => Closed) (.ite (fun ho => ?_) fun ho => .pure fun v h => ?_) fun _ =>
    ?_
  · exact (spec_closeSignalingOnce env).pre fun v h => ⟨h.1, h.2.symm.trans ho⟩
  · exact h.1.unopened (h.2.symm.trans (Bool.not_eq_true _ ▸ ho))
  refine Spec.read_bind (fun v => v.core.leaseHeld) (fun _ => rfl) ?_
  intro held
  refine .bind (Q := fun _ => Finished) (.ite (fun hl => ?_) fun hl => .pure fun v h => ?_) fun _ =>
    .calm (calm_report fun _ => rfl)
  · exact (spec_releaseHeldLease env).pre fun v h => ⟨h.1, h.2.symm.trans hl⟩
  · exact h.1.unheld (h.2.symm.trans (Bool.not_eq_true _ ▸ hl))

/-! ## The run -/

theorem initial_unstreamed (world : Ω) :
    Unstreamed Unopened (PcmSession.initial options world : PcmSession F H Ω).view where
  good :=
    { media := ⟨trivial, rfl, rfl, rfl, rfl, rfl⟩
      channel := ⟨rfl, rfl⟩
      lease := rfl
      released := by
        rintro (_ | _)
      stream := by
        constructor <;> rintro (_ | _)
      dialogue := .start
      order := .none }
  core := ⟨rfl, rfl⟩
  packets := rfl

def RunEnds : Option Unit × PcmSession F H Ω → Prop
  | (some (), s) => Finished s.view
  | (none, s) => Stuck s.view

theorem Spec.runEnds {P : PcmView → Prop} {x : Prog (PcmSession F H Ω) Unit}
    (h : Spec P x fun _ => Finished) {s : PcmSession F H Ω} (hs : P s.view) : RunEnds (x s) := by
  have hx := h s hs
  generalize x s = r at hx ⊢
  match r, hx with
  | (none, _), hx => exact hx
  | (some (), _), hx => exact hx

theorem run_holds (fuel : Nat) (world : Ω) :
    RunEnds (runV1TransportPcmBurstOnce env options fuel world) := by
  unfold runV1TransportPcmBurstOnce
  have hinitial := initial_unstreamed (H := H) options world
  split
  · exact (hinitial.good.done.unopened rfl).unheld rfl
  · have hrun : Spec (Unstreamed Unopened) (do
        streamSession env options fuel
        finish env
        destroyEncoder env : Prog (PcmSession F H Ω) Unit) fun _ => Finished :=
      .bind (spec_streamSession env options fuel) fun _ => .bind (spec_finish env) fun _ =>
        .calm (calm_destroyEncoder env)
    exact hrun.runEnds hinitial

end

end NativeLdac.Agent
