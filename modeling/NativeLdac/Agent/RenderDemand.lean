/-
  Render demand in the presence agent (`agent/v1_presence_agent.cpp`): the poll
  of the render stream, the classification of a stop that was put off, and what
  an ACL event does to both.

  A confirmed stop is reported to the lifecycle, put off for two seconds, or
  taken for a pause.  `unseen` is the ghost of a run that tells whether a stop
  is left that no deadline will report: one that was taken for a pause, or one
  that the tracker may have missed when it was reset under a running demand.
-/
import NativeLdac.Agent.AvrcpMapper
import NativeLdac.Agent.TrialState

namespace NativeLdac.Agent

/-! ## The poll -/

structure RenderPollResult where
  transitioned : Bool := false
  started : Bool := false
  actions : UInt32 := 0
  deriving DecidableEq, Repr

/-- The state of the agent, and the deadline that its main loop keeps. -/
structure RenderAgent where
  state : TrialState := {}
  renderStopDeadline : UInt64 := 0
  deriving DecidableEq, Repr

/-- The Win32 errors of a query that are only an unknown sample:
    `ERROR_TIMEOUT`, `WAIT_TIMEOUT`, `ERROR_OPERATION_ABORTED`,
    `ERROR_DEVICE_NOT_CONNECTED`, `ERROR_INVALID_HANDLE`, `ERROR_NOT_READY`,
    `ERROR_FILE_NOT_FOUND` and `ERROR_PATH_NOT_FOUND`. -/
def transientQueryErrors : List UInt32 := [1460, 258, 995, 1167, 6, 21, 2, 3]

def kRenderStopClassificationMs : UInt64 := 2000

/-- The media session is paused with play enabled, by the monitor's snapshot. -/
def PausedMedia (media : Option V1MediaSessionSnapshot) : Prop :=
  ∃ snapshot ∈ media, snapshot.AwaitsPlay

instance (media : Option V1MediaSessionSnapshot) : Decidable (PausedMedia media) :=
  inferInstanceAs (Decidable (∃ snapshot ∈ media, snapshot.AwaitsPlay))

/-- The agent streams PCM, so that a stop is not reported at once. -/
def TrialState.StreamsPcm (state : TrialState) : Prop :=
  state.transportPcmBurstExerciseEnabled ∧ state.lifecycle.mediaSession = .streaming

instance (state : TrialState) : Decidable state.StreamsPcm :=
  inferInstanceAs (Decidable (_ ∧ _))

/-- An event of the lifecycle: its action word and the agent after it. -/
def RenderAgent.reduce (agent : RenderAgent) (event : V1LifecycleEvent) : UInt32 × RenderAgent :=
  let r := reduceV1Lifecycle agent.state.lifecycle event
  (r.1, { agent with state := { agent.state with lifecycle := r.2 } })

/-- The branch of `PollRenderDemand` for a confirmed start. -/
def renderStarted (agent : RenderAgent) : RenderPollResult × RenderAgent :=
  if agent.state.renderStopPending then
    ({ transitioned := true, started := true },
      { agent with
        state := { agent.state with renderStopPending := false }
        renderStopDeadline := 0 })
  else
    let r := agent.reduce .renderStarted
    ({ transitioned := true, started := true, actions := r.1 }, r.2)

/-- The branch of `PollRenderDemand` for a confirmed stop. -/
def renderStopped (agent : RenderAgent) (now : UInt64) (media : Option V1MediaSessionSnapshot) :
    RenderPollResult × RenderAgent :=
  if PausedMedia media ∧ agent.state.StreamsPcm then
    -- a pause keeps the transport open
    ({ transitioned := true }, agent)
  else if agent.state.StreamsPcm then
    ({ transitioned := true },
      { agent with
        state := { agent.state with renderStopPending := true }
        renderStopDeadline := now + kRenderStopClassificationMs })
  else
    let r := agent.reduce .renderStopped
    ({ transitioned := true, actions := r.1 }, r.2)

/-- `PollRenderDemand`, for the answer of the endpoint and the snapshot of a
    monitor that is ready; none if it returns false. -/
def pollRenderDemand (agent : RenderAgent) (query : Except UInt32 (Bool × UInt64)) (now : UInt64)
    (media : Option V1MediaSessionSnapshot) : Option RenderPollResult × RenderAgent :=
  match query with
  | .error e =>
    if e ∉ transientQueryErrors then (none, agent)
    else if agent.state.lifecycle.engineLease = .absent ∧
        agent.state.lifecycle.mediaSession = .stopped ∧
        now ≥ agent.state.renderQueryRecoveryNextTick then
      -- the endpoint is opened again, whatever comes of it
      (some {}, { agent with
        state := { agent.state with renderQueryRecoveryNextTick := now + 1000 } })
    else (some {}, agent)
  | .ok (streamActive, streamEpoch) =>
    let r := observeV1RenderDemand agent.state.renderTracker streamActive
    let agent := { agent with
      state := { agent.state with lastStreamEpoch := streamEpoch, renderTracker := r.2 } }
    match r.1 with
    | .none => (some {}, agent)
    | .started => ((renderStarted agent).map some id)
    | .stopped => ((renderStopped agent now media).map some id)

/-! ## The main loop -/

def RenderAgent.StopDue (agent : RenderAgent) (now : UInt64) : Prop :=
  agent.renderStopDeadline ≠ 0 ∧ now ≥ agent.renderStopDeadline ∧ agent.state.renderStopPending

instance (agent : RenderAgent) (now : UInt64) : Decidable (agent.StopDue now) :=
  inferInstanceAs (Decidable (_ ∧ _))

/-- The step of the main loop that classifies a stop; with the actions to
    execute. -/
def classifyRenderStop (agent : RenderAgent) (now : UInt64) : UInt32 × RenderAgent :=
  if agent.StopDue now then
    RenderAgent.reduce
      { agent with
        state := { agent.state with renderStopPending := false }
        renderStopDeadline := 0 }
      .renderStopped
  else (v1ActionNone, agent)

/-- The ACL branch of the main loop, but for what it does to the AVRCP hosts and
    to the endpoint; with the actions to execute. -/
def handleAclEvent (agent : RenderAgent) (connected : Bool) : UInt32 × RenderAgent :=
  let r := agent.reduce (if connected then .aclConnected else .aclDisconnected)
  if connected then
    (r.1, { r.2 with state := { r.2.state with renderTracker := {} } })
  else
    (r.1,
      { state := { r.2.state with
          avrcpObserverActive := false
          avrcpControlReadyDeadline := 0
          avrcpHandoffFailedGeneration := 0
          avrcpHandoffReadyGeneration := 0
          renderStopPending := false
          renderTracker := {} }
        renderStopDeadline :=
          if r.2.state.renderStopPending then 0 else r.2.renderStopDeadline })

/-! ## Runs -/

/-- The events of the engine, of its worker and of the HFP arbitration. -/
def V1LifecycleEvent.ofEngineOrHfp : V1LifecycleEvent → Bool
  | .aclConnected | .aclDisconnected | .watcherLeaseExpired | .renderStarted | .renderStopped =>
    false
  | _ => true

structure RenderRun where
  agent : RenderAgent
  /-- the time of the last timed step -/
  now : UInt64 := 0
  /-- ghost: a stop is left that no deadline will report -/
  unseen : Bool := false
  deriving DecidableEq, Repr

inductive RenderStep where
  /-- `PollRenderDemand`, with what the endpoint and the media monitor answer -/
  | poll (query : Except UInt32 (Bool × UInt64)) (media : Option V1MediaSessionSnapshot)
      (now : UInt64)
  | classify (now : UInt64)
  | acl (connected : Bool)
  | lifecycle (event : { e : V1LifecycleEvent // e.ofEngineOrHfp })

def unseenAfterPoll (s : RenderRun) (active : Bool) (media : Option V1MediaSessionSnapshot) :
    Bool :=
  match (observeV1RenderDemand s.agent.state.renderTracker active).1 with
  | .none => s.unseen
  | .started => false
  | .stopped => PausedMedia media ∧ s.agent.state.StreamsPcm

def renderAgent : Reducer RenderRun RenderStep (Option RenderPollResult) where
  step s
    | .poll query media now =>
      let r := pollRenderDemand s.agent query now media
      (r.1,
        { agent := r.2
          now := now
          unseen := match query with
            | .ok (active, _) => unseenAfterPoll s active media
            | .error _ => s.unseen })
    | .classify now => (none, { s with agent := (classifyRenderStop s.agent now).2, now := now })
    | .acl connected =>
      (none, { s with
        agent := (handleAclEvent s.agent connected).2
        -- connected twice: the tracker is reset, the demand goes on
        unseen := connected ∧ s.agent.state.lifecycle.physicalPresence = .present ∧
          s.agent.state.lifecycle.renderDemand = .running ∧ ¬ s.agent.state.renderStopPending })
    | .lifecycle event => (none, { s with agent := (s.agent.reduce event.val).2 })

/-- An agent that was just started. -/
def RenderRun.initial (c : V1LifecycleConfig) (pcmBurst : Bool) : RenderRun where
  agent := { state :=
    { lifecycle := c.initial, transportPcmBurstExerciseEnabled := pcmBurst } }

/-- The clock does not go back. -/
def InOrder (s : RenderRun) : RenderStep → Prop
  | .poll _ _ now | .classify now => s.now ≤ now
  | .acl _ | .lifecycle _ => True

/-- After a poll whose query succeeds: if the confirmed state is stopped while the
    demand is running, a classification is pending within two seconds, or the
    player is paused. -/
def StopHeld (s : RenderRun) : RenderStep → Prop
  | .poll (.ok sample) media now =>
    let agent := (pollRenderDemand s.agent (.ok sample) now media).2
    agent.state.renderTracker.stableRunning = false →
      agent.state.lifecycle.renderDemand = .running →
      (agent.state.renderStopPending ∧ agent.renderStopDeadline.toNat ≤ now.toNat + 2000) ∨
        PausedMedia media
  | _ => True

/-- At a poll whose query succeeds: an unseen stop meets a paused player, unless
    the sample is the edge of a start. -/
def UnseenPaused (s : RenderRun) : RenderStep → Prop
  | .poll (.ok (active, _)) media _ =>
    s.unseen → (observeV1RenderDemand s.agent.state.renderTracker active).1 = .none →
      PausedMedia media
  | _ => True

/-! ## The lifecycle -/

def V1LifecycleState.StreamsOnDemand (state : V1LifecycleState) : Prop :=
  state.mediaSession = .streaming → state.renderDemand = .running

theorem reduce_renderDemand (state : V1LifecycleState) {event : V1LifecycleEvent}
    (h : event.ofEngineOrHfp) : (reduceV1Lifecycle state event).2.renderDemand =
      state.renderDemand := by
  cases event with
  | aclConnected | aclDisconnected | watcherLeaseExpired | renderStarted | renderStopped => cases h
  | mediaFailed => rfl
  | _ =>
    simp only [reduceV1Lifecycle]
    split_ifs <;> rfl

theorem reduce_streamsOnDemand {state : V1LifecycleState} (h : state.StreamsOnDemand)
    (event : V1LifecycleEvent) : (reduceV1Lifecycle state event).2.StreamsOnDemand := by
  unfold V1LifecycleState.StreamsOnDemand at h ⊢
  cases event with
  | mediaStarted =>
    simp only [reduceV1Lifecycle]
    split_ifs with hstart
    · exact fun _ => hstart.2.2.1
    · exact h
  | renderStopped =>
    simp only [reduceV1Lifecycle]
    split_ifs with hgap hlive hfaulted
    · exact fun hs => absurd hs hgap.2.1
    · simp
    · simp
    · exact fun hs => absurd (.inr hs) hlive
  | aclDisconnected | watcherLeaseExpired | mediaFailed =>
    simp [reduceV1Lifecycle, disconnectActions, resetDisconnectedState]
  | _ =>
    simp only [reduceV1Lifecycle]
    split_ifs <;> first | exact h | simp

theorem reduce_renderStopped (state : V1LifecycleState) :
    (reduceV1Lifecycle state .renderStopped).2.renderDemand = .idle := by
  simp only [reduceV1Lifecycle]
  split_ifs <;> rfl

theorem reduce_aclDisconnected (state : V1LifecycleState) :
    (reduceV1Lifecycle state .aclDisconnected).2.renderDemand = .idle := rfl

theorem reduce_aclConnected (state : V1LifecycleState) :
    (state.physicalPresence = .present ∧ (reduceV1Lifecycle state .aclConnected).2 = state) ∨
      (state.physicalPresence ≠ .present ∧
        (reduceV1Lifecycle state .aclConnected).2.renderDemand = .idle) := by
  by_cases h : state.physicalPresence = .present
  · exact .inl ⟨h, by simp only [reduceV1Lifecycle, if_pos h]⟩
  · exact .inr ⟨h, by simp only [reduceV1Lifecycle, if_neg h]⟩

/-! ## The invariant -/

/-- **The invariant**: an unseen stop is a stopped tracker under a running demand
    with no classification pending. -/
structure Tracked (s : RenderRun) : Prop where
  streams : s.agent.state.lifecycle.StreamsOnDemand
  pending : s.agent.state.renderStopPending →
    s.agent.state.renderTracker.stableRunning = false ∧
      s.agent.renderStopDeadline.toNat ≤ s.now.toNat + 2000
  unseen : s.unseen ↔ s.agent.state.renderTracker.stableRunning = false ∧
    s.agent.state.lifecycle.renderDemand = .running ∧ ¬ s.agent.state.renderStopPending

theorem tracked_initial (c : V1LifecycleConfig) (pcmBurst : Bool) :
    Tracked (.initial c pcmBurst) where
  streams := nofun
  pending := nofun
  unseen := ⟨nofun, nofun⟩

theorem deadline_le (now : UInt64) :
    (now + kRenderStopClassificationMs).toNat ≤ now.toNat + 2000 := by
  rw [UInt64.toNat_add]
  exact Nat.mod_le _ _

variable {s : RenderRun} {now : UInt64}

theorem Tracked.pending_later (h : Tracked s) (hnow : s.now ≤ now)
    (hp : s.agent.state.renderStopPending) :
    s.agent.renderStopDeadline.toNat ≤ now.toNat + 2000 := by
  obtain ⟨-, hdeadline⟩ := h.pending hp
  have hle : s.now.toNat ≤ now.toNat := UInt64.le_iff_toNat_le.mp hnow
  omega

theorem Tracked.of_stable (h : Tracked s) (hs : s.agent.state.renderTracker.stableRunning = true) :
    s.agent.state.renderStopPending = false ∧ s.unseen = false := by
  constructor
  · rw [← Bool.not_eq_true]
    intro hp
    obtain ⟨hstopped, -⟩ := h.pending hp
    rw [hs] at hstopped
    cases hstopped
  · rw [← Bool.not_eq_true]
    intro hu
    obtain ⟨hstopped, -⟩ := h.unseen.mp hu
    rw [hs] at hstopped
    cases hstopped

theorem tracked_started (h : Tracked s) {tracker : V1RenderDemandTracker}
    (htracker : tracker.stableRunning = true) (epoch now : UInt64) :
    Tracked
      { agent := (renderStarted { s.agent with
          state := { s.agent.state with lastStreamEpoch := epoch, renderTracker := tracker } }).2
        now := now, unseen := false } := by
  unfold renderStarted
  split_ifs with hp
  · exact ⟨h.streams, nofun, by simp [htracker]⟩
  · refine ⟨reduce_streamsOnDemand h.streams _, fun hpending => absurd hpending hp, ?_⟩
    simp [RenderAgent.reduce, htracker]

theorem tracked_stopped (h : Tracked s) (hs : s.agent.state.renderTracker.stableRunning = true)
    {tracker : V1RenderDemandTracker} (htracker : tracker.stableRunning = false)
    (epoch now : UInt64) (media : Option V1MediaSessionSnapshot) :
    Tracked
      { agent := (renderStopped { s.agent with
          state := { s.agent.state with lastStreamEpoch := epoch, renderTracker := tracker } }
            now media).2
        now := now, unseen := PausedMedia media ∧ s.agent.state.StreamsPcm } := by
  obtain ⟨hpending, -⟩ := h.of_stable hs
  unfold renderStopped
  split_ifs with hpaused hstreams
  · have hrunning : s.agent.state.lifecycle.renderDemand = .running := h.streams hpaused.2.2
    refine ⟨h.streams, fun hp => ?_, ?_⟩
    · exact absurd hp (by simp [hpending])
    · exact iff_of_true (decide_eq_true hpaused) ⟨htracker, hrunning, by simp [hpending]⟩
  · refine ⟨h.streams, fun _ => ⟨htracker, deadline_le now⟩, ?_⟩
    exact iff_of_false (fun hu => hpaused (of_decide_eq_true hu)) (fun hr => hr.2.2 rfl)
  · refine ⟨reduce_streamsOnDemand h.streams _, fun hp => ?_, ?_⟩
    · exact absurd hp (by simp [RenderAgent.reduce, hpending])
    · refine iff_of_false (fun hu => hpaused (of_decide_eq_true hu)) (fun hr => ?_)
      exact absurd (hr.2.1.symm.trans (reduce_renderStopped _)) (by simp)

theorem tracked_poll (h : Tracked s) (active : Bool) (epoch : UInt64)
    (media : Option V1MediaSessionSnapshot) (hnow : s.now ≤ now) :
    Tracked (renderAgent.next s (.poll (.ok (active, epoch)) media now)) := by
  simp only [Reducer.next, renderAgent, pollRenderDemand, unseenAfterPoll]
  rcases observe_cases s.agent.state.renderTracker active with
    ⟨hedge, hstable⟩ | ⟨hedge, hbefore, hafter⟩ | ⟨hedge, hbefore, hafter⟩
  · rw [hedge]
    refine ⟨h.streams, fun hp => ?_, ?_⟩
    · exact ⟨hstable.trans (h.pending hp).1, h.pending_later hnow hp⟩
    · show s.unseen ↔ (observeV1RenderDemand _ _).2.stableRunning = false ∧ _
      rw [hstable]
      exact h.unseen
  · rw [hedge]
    exact tracked_started h hafter epoch now
  · rw [hedge]
    exact tracked_stopped h hbefore hafter epoch now media

theorem tracked_failedQuery (h : Tracked s) (e : UInt32) (media : Option V1MediaSessionSnapshot)
    (hnow : s.now ≤ now) :
    Tracked (renderAgent.next s (.poll (.error e) media now)) := by
  simp only [Reducer.next, renderAgent, pollRenderDemand]
  split_ifs <;>
    exact ⟨h.streams, fun hp => ⟨(h.pending hp).1, h.pending_later hnow hp⟩, h.unseen⟩

theorem tracked_classify (h : Tracked s) (hnow : s.now ≤ now) :
    Tracked (renderAgent.next s (.classify now)) := by
  simp only [Reducer.next, renderAgent, classifyRenderStop]
  split_ifs with hdue
  · refine ⟨reduce_streamsOnDemand h.streams _, nofun, ?_⟩
    refine iff_of_false (fun hu => (h.unseen.mp hu).2.2 hdue.2.2) (fun hr => ?_)
    exact absurd (hr.2.1.symm.trans (reduce_renderStopped _)) (by simp)
  · exact ⟨h.streams, fun hp => ⟨(h.pending hp).1, h.pending_later hnow hp⟩, h.unseen⟩

theorem tracked_acl (h : Tracked s) (connected : Bool) :
    Tracked (renderAgent.next s (.acl connected)) := by
  cases connected with
  | false =>
    simp only [Reducer.next, renderAgent, handleAclEvent]
    refine ⟨reduce_streamsOnDemand h.streams _, nofun, ?_⟩
    exact iff_of_false (by simp) (fun hr =>
      absurd (hr.2.1.symm.trans (reduce_aclDisconnected _)) (by simp))
  | true =>
    simp only [Reducer.next, renderAgent, handleAclEvent]
    refine ⟨reduce_streamsOnDemand h.streams _, fun hp => ⟨rfl, (h.pending hp).2⟩, ?_⟩
    rcases reduce_aclConnected s.agent.state.lifecycle with ⟨hpresent, hsame⟩ | ⟨habsent, hidle⟩
    · simp [RenderAgent.reduce, hsame, hpresent]
    · simp [RenderAgent.reduce, hidle, habsent]

theorem tracked_lifecycle (h : Tracked s) (event : { e : V1LifecycleEvent // e.ofEngineOrHfp }) :
    Tracked (renderAgent.next s (.lifecycle event)) := by
  refine ⟨reduce_streamsOnDemand h.streams _, h.pending, ?_⟩
  show s.unseen ↔ _ ∧ (reduceV1Lifecycle _ _).2.renderDemand = _ ∧ _
  rw [reduce_renderDemand _ event.property]
  exact h.unseen

theorem tracked_step (h : Tracked s) {step : RenderStep} (horder : InOrder s step) :
    Tracked (renderAgent.next s step) := by
  cases step with
  | poll query media now =>
    rcases query with e | ⟨active, epoch⟩
    · exact tracked_failedQuery h e media horder
    · exact tracked_poll h active epoch media horder
  | classify now => exact tracked_classify h horder
  | acl connected => exact tracked_acl h connected
  | lifecycle event => exact tracked_lifecycle h event

/-! ## No stop is lost -/

theorem stopHeld_iff (h : Tracked s) (active : Bool) (epoch : UInt64)
    (media : Option V1MediaSessionSnapshot) (hnow : s.now ≤ now) :
    StopHeld s (.poll (.ok (active, epoch)) media now) ↔
      ((renderAgent.next s (.poll (.ok (active, epoch)) media now)).unseen →
        PausedMedia media) := by
  have h' := tracked_poll h active epoch media hnow
  constructor
  · intro hheld hunseen
    obtain ⟨hstopped, hrunning, hpending⟩ := h'.unseen.mp hunseen
    rcases hheld hstopped hrunning with ⟨hp, -⟩ | hpaused
    · exact absurd hp hpending
    · exact hpaused
  · intro hseen hstopped hrunning
    by_cases hp : (pollRenderDemand s.agent (.ok (active, epoch)) now
        media).2.state.renderStopPending
    · exact .inl ⟨hp, (h'.pending hp).2⟩
    · exact .inr (hseen (h'.unseen.mpr ⟨hstopped, hrunning, hp⟩))

theorem unseen_poll (active : Bool) (epoch : UInt64) (media : Option V1MediaSessionSnapshot)
    (now : UInt64) :
    ((renderAgent.next s (.poll (.ok (active, epoch)) media now)).unseen → PausedMedia media) ↔
      UnseenPaused s (.poll (.ok (active, epoch)) media now) := by
  show (unseenAfterPoll s active media = true → _) ↔ (_ → _ → _)
  unfold unseenAfterPoll
  rcases observe_cases s.agent.state.renderTracker active with
    ⟨hedge, -⟩ | ⟨hedge, -⟩ | ⟨hedge, -⟩
  · simp [hedge]
  · simp [hedge]
  · rw [hedge]
    refine iff_of_true (fun hpaused => ?_) (fun _ => nofun)
    exact (of_decide_eq_true hpaused).1

theorem stopHeld_step (h : Tracked s) {step : RenderStep} (horder : InOrder s step) :
    StopHeld s step ↔ UnseenPaused s step := by
  cases step with
  | poll query media now =>
    rcases query with e | ⟨active, epoch⟩
    · exact Iff.rfl
    · exact (stopHeld_iff h active epoch media horder).trans (unseen_poll active epoch media now)
  | classify now => exact Iff.rfl
  | acl connected => exact Iff.rfl
  | lifecycle event => exact Iff.rfl

instance (s : RenderRun) : ∀ step, Decidable (InOrder s step)
  | .poll _ _ now | .classify now => inferInstanceAs (Decidable (s.now ≤ now))
  | .acl _ | .lifecycle _ => isTrue trivial

instance (s : RenderRun) : ∀ step, Decidable (StopHeld s step)
  | .poll (.ok _) _ _ => inferInstanceAs (Decidable (_ → _ → (_ ∧ _ ≤ _) ∨ _))
  | .poll (.error _) _ _ | .classify _ | .acl _ | .lifecycle _ => isTrue trivial

/-- **A stop is never lost** in a run, just if an unseen stop meets a paused
    player at each of its polls. -/
theorem RenderRun.stop_held (c : V1LifecycleConfig) (pcmBurst : Bool) (steps : List RenderStep)
    (horder : renderAgent.Along InOrder (.initial c pcmBurst) steps) :
    renderAgent.Along StopHeld (.initial c pcmBurst) steps ↔
      renderAgent.Along UnseenPaused (.initial c pcmBurst) steps :=
  renderAgent.along_congr (fun _ _ h horder _ => tracked_step h horder)
    (fun _ _ h horder => stopHeld_step h horder) (tracked_initial c pcmBurst) horder

/-- The demand runs and the media streams. -/
def RenderStep.stream : List RenderStep :=
  [.acl true, .poll (.ok (true, 1)) none 500, .poll (.ok (true, 1)) none 1000,
    .lifecycle ⟨.engineReady, rfl⟩, .lifecycle ⟨.mediaStarted, rfl⟩]

/-- The stream stops under a player in the state `media`. -/
def RenderStep.stopStream (media : Option V1MediaSessionSnapshot) : List RenderStep :=
  stream ++ [.poll (.ok (false, 2)) media 1500, .poll (.ok (false, 2)) media 2000]

theorem RenderRun.stop_held_streaming :
    renderAgent.Along StopHeld (.initial ⟨4, true, true⟩ true) (RenderStep.stopStream none) ↔
      renderAgent.Along UnseenPaused (.initial ⟨4, true, true⟩ true) (RenderStep.stopStream none) :=
  RenderRun.stop_held ⟨4, true, true⟩ true (RenderStep.stopStream none) (by decide)

def RenderStep.stopPaused : List RenderStep :=
  stopStream (some { playback := .paused, playEnabled := true }) ++
    [.poll (.ok (false, 2)) (some { playback := .stopped }) 2500]

theorem RenderRun.stop_lost :
    renderAgent.Along InOrder (.initial ⟨4, true, true⟩ true) RenderStep.stopPaused ∧
      ¬ renderAgent.Along StopHeld (.initial ⟨4, true, true⟩ true) RenderStep.stopPaused := by
  decide

end NativeLdac.Agent
