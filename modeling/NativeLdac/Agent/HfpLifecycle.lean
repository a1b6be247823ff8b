/-
  The HFP switch and the lifecycle together (`agent/v1_hfp_shadow_state.cpp`,
  `agent/v1_hfp_lifecycle_adapter.cpp`, and how the loop of
  `agent/v1_presence_agent.cpp` composes them).

  * `reconcileHfpShadow` polls the switch on what the lifecycle shows, `hfpAgent`
    takes polls and lifecycle events in any order.
-/
import Mathlib.Tactic.SplitIfs
import NativeLdac.Agent.HfpSwitch
import NativeLdac.Agent.LifecycleSuspension

namespace NativeLdac.Agent

/-! ## The adapter -/

inductive V1HfpLifecycleCommand where
  | none | suspendLdac | resumeLdac
  deriving DecidableEq, Repr

structure V1HfpLifecyclePlan where
  proposedCommand : V1HfpLifecycleCommand := .none
  command : V1HfpLifecycleCommand := .none
  shadowOnly : Bool := true
  stale : Bool := false
  invalid : Bool := false
  enterHfpOutputRequested : Bool := false
  exitHfpOutputRequested : Bool := false
  deriving DecidableEq, Repr

def planV1HfpLifecycle (decision : V1HfpSwitchDecision) (currentAclGeneration : UInt64)
    (transportSwitchEnabled : Bool) : V1HfpLifecyclePlan :=
  let plan : V1HfpLifecyclePlan :=
    { enterHfpOutputRequested := hasV1HfpSwitchAction decision .enterHfpOutput
      exitHfpOutputRequested := hasV1HfpSwitchAction decision .exitHfpOutput }
  if decision.stale ∨ decision.aclGeneration = 0 ∨
      decision.aclGeneration ≠ currentAclGeneration then
    { plan with stale := true }
  else
    let stop := hasV1HfpSwitchAction decision .stopLdac
    let resume := hasV1HfpSwitchAction decision .resumeLdac
    if stop ∧ resume then { plan with invalid := true }
    else
      let plan :=
        if stop then { plan with proposedCommand := .suspendLdac }
        else if resume then { plan with proposedCommand := .resumeLdac }
        else plan
      if ¬ transportSwitchEnabled then plan
      else { plan with shadowOnly := false, command := plan.proposedCommand }

def v1HfpLifecycleEventForCommand : V1HfpLifecycleCommand → V1LifecycleEvent
  | .suspendLdac => .hfpSuspendLdac
  | .resumeLdac => .hfpResumeLdac
  | .none => .hfpResumeLdac

/-! ## The shadow -/

structure V1HfpCaptureSnapshot where
  endpointMatched : Bool := false
  captureActive : Bool := false
  sequence : UInt64 := 0
  deriving DecidableEq, Repr

structure V1HfpShadowInput where
  capture : V1HfpCaptureSnapshot
  aclGeneration : UInt64 := 0
  nowMs : UInt64 := 0
  monitorReady : Bool := false
  physicalConnected : Bool := false
  ldacPathActive : Bool := false
  renderDemand : Bool := false
  deriving DecidableEq, Repr

structure V1HfpShadowDecision where
  switchDecision : V1HfpSwitchDecision := {}
  snapshotChanged : Bool := false
  monitorReady : Bool := false
  endpointMatched : Bool := false
  captureActive : Bool := false
  captureSequence : UInt64 := 0
  deriving DecidableEq, Repr

structure V1HfpShadowState where
  switchState : V1HfpSwitchState := {}
  captureSequence : UInt64 := 0
  deriving DecidableEq, Repr

/-- A monitor that is not ready, and an endpoint that is not matched, count as inactive. -/
def V1HfpShadowInput.captureUsable (input : V1HfpShadowInput) : Bool :=
  input.monitorReady && input.capture.endpointMatched && input.capture.captureActive

def V1HfpShadowInput.switchInput (input : V1HfpShadowInput) : V1HfpSwitchInput :=
  { aclGeneration := input.aclGeneration
    nowMs := input.nowMs
    physicalConnected := input.physicalConnected
    captureActive := input.captureUsable
    ldacPathActive := input.ldacPathActive
    renderDemand := input.renderDemand }

def V1HfpShadowState.step (state : V1HfpShadowState) (input : V1HfpShadowInput) :
    V1HfpShadowDecision × V1HfpShadowState :=
  let r := state.switchState.step input.switchInput
  ({ switchDecision := r.1
     snapshotChanged := input.capture.sequence ≠ state.captureSequence
     monitorReady := input.monitorReady
     endpointMatched := input.monitorReady && input.capture.endpointMatched
     captureActive := input.captureUsable
     captureSequence := input.capture.sequence },
    { switchState := r.2, captureSequence := input.capture.sequence })

/-! ## The agent -/

def V1LifecycleState.ldacPathActive (state : V1LifecycleState) : Bool :=
  state.engineLease ≠ .absent ∨ state.mediaSession.live

/-- What `ReconcileHfpShadow` shows the shadow of the lifecycle. -/
def hfpShadowInput (lifecycle : V1LifecycleState) (capture : V1HfpCaptureSnapshot)
    (monitorReady : Bool) (now : UInt64) : V1HfpShadowInput :=
  { capture := capture
    aclGeneration := lifecycle.aclGeneration
    nowMs := now
    monitorReady := monitorReady
    physicalConnected := lifecycle.physicalPresence = .present
    ldacPathActive := lifecycle.ldacPathActive
    renderDemand := lifecycle.renderDemand = .running }

def reconcileHfpShadow (shadow : V1HfpShadowState) (lifecycle : V1LifecycleState)
    (capture : V1HfpCaptureSnapshot) (monitorReady : Bool) (now : UInt64)
    (transportSwitchEnabled : Bool) : V1HfpLifecyclePlan × V1HfpShadowState :=
  let r := shadow.step (hfpShadowInput lifecycle capture monitorReady now)
  (planV1HfpLifecycle r.1.switchDecision lifecycle.aclGeneration transportSwitchEnabled, r.2)

structure OutsideEvent where
  event : V1LifecycleEvent
  outside : event ≠ .hfpSuspendLdac ∧ event ≠ .hfpResumeLdac

inductive HfpAgentInput where
  | event (e : OutsideEvent)
  | poll (capture : V1HfpCaptureSnapshot) (monitorReady : Bool) (now : UInt64)

/-- The shadow and the lifecycle of an agent, and the generation that LDAC was suspended in
    last (which nothing in the agent reads). -/
structure HfpAgent where
  shadow : V1HfpShadowState := {}
  lifecycle : V1LifecycleState
  suspendedIn : Option UInt64 := none

def HfpAgent.execute (agent : HfpAgent) (transportSwitchEnabled : Bool)
    (plan : V1HfpLifecyclePlan) : UInt32 × HfpAgent :=
  if transportSwitchEnabled ∧ ¬ plan.shadowOnly ∧ ¬ plan.stale ∧ ¬ plan.invalid ∧
      plan.command ≠ .none then
    let event := v1HfpLifecycleEventForCommand plan.command
    let r := reduceV1Lifecycle agent.lifecycle event
    (r.1,
      { agent with
        lifecycle := r.2
        suspendedIn :=
          if event = .hfpSuspendLdac then some agent.lifecycle.aclGeneration
          else agent.suspendedIn })
  else (v1ActionNone, agent)

/-- The agent as a machine: events and polls in, lifecycle action words out. -/
def hfpAgent (transportSwitchEnabled : Bool) : Reducer HfpAgent HfpAgentInput UInt32 where
  step agent
    | .event e =>
      let r := reduceV1Lifecycle agent.lifecycle e.event
      (r.1, { agent with lifecycle := r.2 })
    | .poll capture monitorReady now =>
      let r := reconcileHfpShadow agent.shadow agent.lifecycle capture monitorReady now
        transportSwitchEnabled
      { agent with shadow := r.2 }.execute transportSwitchEnabled r.1

def HfpAgent.initial (c : V1LifecycleConfig) : HfpAgent := { lifecycle := c.initial }

abbrev HfpAgent.switch (agent : HfpAgent) : V1HfpSwitchState := agent.shadow.switchState

/-! ## What a poll does -/

def HfpAgent.commanded (agent : HfpAgent) (transportSwitchEnabled : Bool) (word : UInt32) :
    HfpAgent :=
  if transportSwitchEnabled ∧ hfpWordHas word .stopLdac then
    { agent with
      lifecycle := v1Lifecycle.next agent.lifecycle .hfpSuspendLdac
      suspendedIn := some agent.lifecycle.aclGeneration }
  else if transportSwitchEnabled ∧ hfpWordHas word .resumeLdac then
    { agent with lifecycle := v1Lifecycle.next agent.lifecycle .hfpResumeLdac }
  else agent

/-- What a poll does, on the input that it shows the switch. -/
inductive PollEffect (enabled : Bool) (agent : HfpAgent) (i : V1HfpSwitchInput) :
    HfpAgent → Prop
  | stale {sequence} : agent.switch.Stale i → PollEffect enabled agent i
      { agent with shadow := { switchState := agent.switch, captureSequence := sequence } }
  | lost {sequence} : ¬ agent.switch.Stale i → ¬ i.physicalConnected → PollEffect enabled agent i
      { agent with
        shadow :=
          { switchState := { phase := .disconnected, aclGeneration := i.aclGeneration }
            captureSequence := sequence } }
  | moved {w s' sequence} : ¬ agent.switch.Stale i → i.physicalConnected →
      V1HfpMove (agent.switch.arrived i) i (agent.switch.leftWord i) (w, s') →
      PollEffect enabled agent i
        ({ agent with shadow := { switchState := s', captureSequence := sequence } }.commanded
          enabled w)

section
variable {s : V1HfpSwitchState} {i : V1HfpSwitchInput}

theorem move_generation {w : UInt32} {r : UInt32 × V1HfpSwitchState} (h : V1HfpMove s i w r) :
    r.2.aclGeneration = s.aclGeneration := by
  cases h <;> rfl

theorem arrived_generation (s : V1HfpSwitchState) (i : V1HfpSwitchInput) :
    (s.arrived i).aclGeneration = i.aclGeneration := by
  unfold V1HfpSwitchState.arrived V1HfpSwitchState.connect
  split_ifs with hnew
  · rfl
  · exact (not_not.mp hnew).symm
  · exact (not_not.mp hnew).symm

end

theorem execute_plan (agent : HfpAgent) (enabled : Bool) {d : V1HfpSwitchDecision}
    (hfresh : d.stale = false) (hzero : d.aclGeneration ≠ 0)
    (hgeneration : d.aclGeneration = agent.lifecycle.aclGeneration)
    (honce : hfpWordHas d.actions .stopLdac → ¬ hfpWordHas d.actions .resumeLdac) :
    (agent.execute enabled (planV1HfpLifecycle d agent.lifecycle.aclGeneration enabled)).2 =
      agent.commanded enabled d.actions := by
  have hhas : ∀ a, hasV1HfpSwitchAction d a = hfpWordHas d.actions a := fun _ => rfl
  have hplan : ¬ (d.stale = true ∨ d.aclGeneration = 0 ∨
      d.aclGeneration ≠ agent.lifecycle.aclGeneration) := by
    rw [hgeneration] at hzero
    simp [hfresh, hgeneration, hzero]
  simp only [planV1HfpLifecycle, if_neg hplan, hhas]
  cases hstop : hfpWordHas d.actions .stopLdac with
  | true =>
    have hresume : hfpWordHas d.actions .resumeLdac = false := by
      simpa using honce hstop
    cases enabled <;>
      simp [HfpAgent.execute, HfpAgent.commanded, v1HfpLifecycleEventForCommand, hstop, hresume,
        Reducer.next, v1Lifecycle]
  | false =>
    cases hresume : hfpWordHas d.actions .resumeLdac <;> cases enabled <;>
      simp [HfpAgent.execute, HfpAgent.commanded, v1HfpLifecycleEventForCommand, hstop, hresume,
        Reducer.next, v1Lifecycle]

/-- The input that a poll shows the switch. -/
def HfpAgent.shows (agent : HfpAgent) (capture : V1HfpCaptureSnapshot) (monitorReady : Bool)
    (now : UInt64) : V1HfpSwitchInput :=
  (hfpShadowInput agent.lifecycle capture monitorReady now).switchInput

/-- What an input that a poll shows the switch takes over from the agent. -/
structure ShownBy (agent : HfpAgent) (now : UInt64) (i : V1HfpSwitchInput) : Prop where
  generation : i.aclGeneration = agent.lifecycle.aclGeneration
  connected : i.physicalConnected = decide (agent.lifecycle.physicalPresence = .present)
  demand : i.renderDemand = decide (agent.lifecycle.renderDemand = .running)
  path : i.ldacPathActive = agent.lifecycle.ldacPathActive
  now : i.nowMs = now

theorem shownBy_shows (agent : HfpAgent) (capture : V1HfpCaptureSnapshot) (monitorReady : Bool)
    (now : UInt64) : ShownBy agent now (agent.shows capture monitorReady now) where
  generation := rfl
  connected := rfl
  demand := rfl
  path := rfl
  now := rfl

theorem poll_effect (enabled : Bool) (agent : HfpAgent) (capture : V1HfpCaptureSnapshot)
    (monitorReady : Bool) (now : UInt64) :
    PollEffect enabled agent (agent.shows capture monitorReady now)
      ((hfpAgent enabled).next agent (.poll capture monitorReady now)) := by
  have hcourse := hfpSwitch_course agent.switch (agent.shows capture monitorReady now)
  have hnext : (hfpAgent enabled).next agent (.poll capture monitorReady now) =
      ({ agent with
          shadow :=
            { switchState :=
                (v1HfpSwitch.step agent.switch (agent.shows capture monitorReady now)).2
              captureSequence := capture.sequence } }.execute enabled
        (planV1HfpLifecycle
          (v1HfpSwitch.step agent.switch (agent.shows capture monitorReady now)).1
          agent.lifecycle.aclGeneration enabled)).2 := rfl
  rw [hnext]
  have hgeneration := (shownBy_shows agent capture monitorReady now).generation
  generalize agent.shows capture monitorReady now = i at hcourse hgeneration ⊢
  generalize v1HfpSwitch.step agent.switch i = r at hcourse
  cases hcourse with
  | stale hstale =>
    have hnone : (planV1HfpLifecycle (agent.switch.snapshot v1HfpActionNone true)
        agent.lifecycle.aclGeneration enabled).stale = true := by
      simp [planV1HfpLifecycle, V1HfpSwitchState.snapshot]
    rw [HfpAgent.execute, if_neg (by simp [hnone])]
    exact .stale hstale
  | disconnected hfresh hlost hw hs' =>
    subst hs'
    rw [execute_plan _ _ rfl (fun hzero => hfresh (.inl hzero)) hgeneration
      (by simp [V1HfpSwitchState.snapshot, hw]), HfpAgent.commanded,
      if_neg (by simp [V1HfpSwitchState.snapshot, hw]),
      if_neg (by simp [V1HfpSwitchState.snapshot, hw])]
    exact .lost hfresh hlost
  | @connected w s' hfresh hconnected hmove =>
    have hi : s'.aclGeneration = i.aclGeneration :=
      (move_generation hmove).trans (arrived_generation _ _)
    have htold := move_told hfresh hmove
    rw [execute_plan _ _ rfl (fun hzero => hfresh (.inl (hi ▸ hzero))) (hi.trans hgeneration)
      (fun hstop hresume => (htold.resume hresume).1.quiet (htold.stop hstop))]
    exact .moved hfresh hconnected hmove

/-! ## The suspension and the switch -/

section
variable {l : V1LifecycleState} {e : V1LifecycleEvent}

theorem generation_next (h : l.physicalPresence = .present → l.aclGeneration ≠ 0)
    (e : V1LifecycleEvent) (hpresent : (v1Lifecycle.next l e).physicalPresence = .present) :
    (v1Lifecycle.next l e).aclGeneration ≠ 0 := by
  revert hpresent
  cases e <;> simp only [v1Lifecycle, Reducer.next, reduceV1Lifecycle]
  case aclConnected =>
    split_ifs with hp hmax
    · exact h
    · simp
    · intro _ hzero
      refine hmax (?_ : l.aclGeneration = 0xffffffffffffffff)
      rw [← UInt64.toNat_inj] at hzero ⊢
      rw [UInt64.toNat_add] at hzero
      have hlt := l.aclGeneration.toNat_lt
      simp at hzero ⊢
      omega
  case aclDisconnected | watcherLeaseExpired => simp [resetDisconnectedState]
  case mediaFailed => exact h
  all_goals split_ifs <;> exact h

theorem outside_suspended (he : e ≠ .hfpSuspendLdac)
    (h : (v1Lifecycle.next l e).hfpSuspended = true) :
    l.hfpSuspended = true ∧ (v1Lifecycle.next l e).physicalPresence = l.physicalPresence ∧
      (v1Lifecycle.next l e).aclGeneration = l.aclGeneration := by
  revert h
  cases e <;> simp only [v1Lifecycle, Reducer.next, reduceV1Lifecycle]
  case aclConnected => split_ifs <;> simp
  case aclDisconnected | watcherLeaseExpired => simp [resetDisconnectedState]
  case hfpSuspendLdac => exact absurd rfl he
  case mediaFailed => simp
  all_goals split_ifs <;> simp_all

theorem command_connection (he : e = .hfpSuspendLdac ∨ e = .hfpResumeLdac) :
    (v1Lifecycle.next l e).physicalPresence = l.physicalPresence ∧
      (v1Lifecycle.next l e).aclGeneration = l.aclGeneration := by
  rcases he with rfl | rfl <;> simp only [v1Lifecycle, Reducer.next, reduceV1Lifecycle] <;>
    split_ifs <;> exact ⟨rfl, rfl⟩

theorem resumed_after_resume (l : V1LifecycleState) :
    (v1Lifecycle.next l .hfpResumeLdac).hfpSuspended = false := by
  simp only [v1Lifecycle, Reducer.next, reduceV1Lifecycle]
  split_ifs with h <;> simp_all

end

/-- A suspended lifecycle is connected, in the generation of the switch, which has had it
    suspended. -/
structure Latched (enabled : Bool) (agent : HfpAgent) : Prop where
  generation : agent.lifecycle.physicalPresence = .present → agent.lifecycle.aclGeneration ≠ 0
  present : agent.lifecycle.hfpSuspended = true → agent.lifecycle.physicalPresence = .present
  same : agent.lifecycle.hfpSuspended = true →
    agent.switch.aclGeneration = agent.lifecycle.aclGeneration
  told : agent.lifecycle.hfpSuspended = true →
    enabled ∧ agent.suspendedIn = some agent.lifecycle.aclGeneration
  connected : agent.lifecycle.hfpSuspended = true → agent.switch.phase ≠ .disconnected

theorem latched_initial (enabled : Bool) (c : V1LifecycleConfig) :
    Latched enabled (.initial c) := by
  constructor <;> simp [HfpAgent.initial, V1LifecycleConfig.initial]

section
variable {enabled : Bool} {agent : HfpAgent}

theorem Latched.arrived (h : Latched enabled agent) (hs : agent.lifecycle.hfpSuspended = true)
    {i : V1HfpSwitchInput} (hi : i.aclGeneration = agent.lifecycle.aclGeneration) :
    agent.switch.arrived i = agent.switch ∧ ¬ agent.switch.Stale i := by
  have hsame : i.aclGeneration = agent.switch.aclGeneration := hi.trans (h.same hs).symm
  constructor
  · unfold V1HfpSwitchState.arrived V1HfpSwitchState.connect
    rw [if_neg (not_not.mpr hsame), if_neg (h.connected hs)]
  · rintro (hzero | ⟨-, hne, -⟩)
    · exact h.generation (h.present hs) (hi ▸ hzero)
    · exact hne hsame

theorem arrived_phase (s : V1HfpSwitchState) (i : V1HfpSwitchInput) :
    (s.arrived i).phase ≠ .disconnected := by
  unfold V1HfpSwitchState.arrived V1HfpSwitchState.connect
  split_ifs with hnew hphase
  · simp
  · simp
  · exact hphase

theorem move_phase {s : V1HfpSwitchState} {i : V1HfpSwitchInput} {w : UInt32}
    {r : UInt32 × V1HfpSwitchState} (hphase : s.phase ≠ .disconnected) (h : V1HfpMove s i w r) :
    r.2.phase ≠ .disconnected := by
  cases h with
  | stop _ _ => simp
  | enter _ _ _ => simp
  | active _ _ _ => simp
  | hold _ _ => simp
  | expire _ _ _ => simp
  | idle _ _ _ _ => exact hphase

theorem latched_commanded {w : UInt32} (h : Latched enabled agent)
    (hsame : agent.switch.aclGeneration = agent.lifecycle.aclGeneration)
    (hphase : agent.switch.phase ≠ .disconnected)
    (hpresent : agent.lifecycle.physicalPresence = .present) :
    Latched enabled (agent.commanded enabled w) := by
  unfold HfpAgent.commanded
  split_ifs with hstop hresume
  · obtain ⟨hp, hg⟩ := command_connection (l := agent.lifecycle) (.inl rfl)
    exact ⟨fun _ => hg ▸ h.generation hpresent, fun _ => hp.trans hpresent,
      fun _ => hsame.trans hg.symm, fun _ => ⟨hstop.1, by rw [hg]⟩, fun _ => hphase⟩
  · obtain ⟨hp, hg⟩ := command_connection (l := agent.lifecycle) (.inr rfl)
    have hresumed := resumed_after_resume agent.lifecycle
    exact ⟨fun _ => hg ▸ h.generation hpresent, by simp [hresumed], by simp [hresumed],
      by simp [hresumed], by simp [hresumed]⟩
  · exact h

theorem latched_next (h : Latched enabled agent) (i : HfpAgentInput) :
    Latched enabled ((hfpAgent enabled).next agent i) := by
  cases i with
  | event e =>
    show Latched enabled { agent with lifecycle := v1Lifecycle.next agent.lifecycle e.event }
    have hout := outside_suspended (l := agent.lifecycle) e.outside.1
    refine ⟨generation_next h.generation e.event, ?_, ?_, ?_, ?_⟩ <;> intro hs
    · exact (hout hs).2.1.trans (h.present (hout hs).1)
    · exact (h.same (hout hs).1).trans (hout hs).2.2.symm
    · simp only [(hout hs).2.2]
      exact h.told (hout hs).1
    · exact h.connected (hout hs).1
  | poll capture monitorReady now =>
    have hpoll := poll_effect enabled agent capture monitorReady now
    obtain ⟨hi, hp, -, -, -⟩ := shownBy_shows agent capture monitorReady now
    generalize agent.shows capture monitorReady now = input at hpoll hi hp
    generalize (hfpAgent enabled).next agent (.poll capture monitorReady now) = agent' at hpoll
    cases hpoll with
    | stale _ => exact ⟨h.generation, h.present, h.same, h.told, h.connected⟩
    | lost _ hlost =>
      have hnone : ¬ agent.lifecycle.hfpSuspended = true := by
        intro hs
        simp [hp, h.present hs] at hlost
      exact ⟨h.generation, h.present, fun hs => absurd hs hnone, h.told, fun hs => absurd hs hnone⟩
    | @moved w s' _ hfresh hconnected hmove =>
      have hgeneration : s'.aclGeneration = agent.lifecycle.aclGeneration :=
        ((move_generation hmove).trans (arrived_generation _ _)).trans hi
      have hphase := move_phase (arrived_phase _ _) hmove
      have hpresent : agent.lifecycle.physicalPresence = .present := by simpa [hp] using hconnected
      refine latched_commanded ?_ hgeneration hphase hpresent
      exact ⟨h.generation, h.present, fun _ => hgeneration, h.told, fun _ => hphase⟩

end

/-! ## LDAC after a call -/

/-- Back from a call that had LDAC suspended, in the same generation, LDAC is not suspended. -/
def Resumed (agent : HfpAgent) : Prop :=
  agent.switch.phase = .ldacAvailable → agent.suspendedIn = some agent.switch.aclGeneration →
    agent.lifecycle.hfpSuspended = false

/-- The hold-off of a suspended lifecycle expires, and there is no render demand (or an LDAC
    path is alive still). -/
def Strands (agent : HfpAgent) : HfpAgentInput → Prop
  | .event _ => False
  | .poll capture monitorReady now =>
    agent.lifecycle.hfpSuspended = true ∧ agent.switch.phase = .releaseDelay ∧
      ¬ (agent.shows capture monitorReady now).captureActive ∧
      now ≥ agent.switch.releaseDeadlineMs ∧
      ¬ (agent.lifecycle.renderDemand = .running ∧ ¬ agent.lifecycle.ldacPathActive)

instance (agent : HfpAgent) : ∀ i, Decidable (Strands agent i)
  | .event _ => isFalse not_false
  | .poll _ _ _ => inferInstanceAs (Decidable (_ ∧ _))

section
variable {enabled : Bool} {agent : HfpAgent}

theorem Latched.resumed_iff (h : Latched enabled agent) :
    Resumed agent ↔
      ¬ (agent.lifecycle.hfpSuspended = true ∧ agent.switch.phase = .ldacAvailable) := by
  unfold Resumed
  constructor
  · rintro hresumed ⟨hs, hphase⟩
    have htold := (h.told hs).2
    rw [← h.same hs] at htold
    simp [hresumed hphase htold] at hs
  · intro hnot hphase _
    by_contra hs
    exact hnot ⟨by simpa using hs, hphase⟩

theorem commanded_none {w : UInt32} (hstop : ¬ hfpWordHas w .stopLdac)
    (hresume : ¬ hfpWordHas w .resumeLdac) : agent.commanded enabled w = agent := by
  rw [HfpAgent.commanded, if_neg (fun h => hstop h.2), if_neg (fun h => hresume h.2)]

theorem commanded_switch (agent : HfpAgent) (enabled : Bool) (w : UInt32) :
    (agent.commanded enabled w).switch = agent.switch := by
  unfold HfpAgent.commanded
  split_ifs <;> rfl

theorem commanded_suspended (agent : HfpAgent) (enabled : Bool) {w : UInt32}
    (hstop : ¬ hfpWordHas w .stopLdac) :
    (agent.commanded enabled w).lifecycle.hfpSuspended = true ↔
      agent.lifecycle.hfpSuspended = true ∧ ¬ (enabled ∧ hfpWordHas w .resumeLdac) := by
  unfold HfpAgent.commanded
  rw [if_neg (fun h => hstop h.2)]
  split_ifs with hresume
  · simp [resumed_after_resume, hresume]
  · simp [hresume]

theorem resumed_next_iff (h : Latched enabled agent) (hresumed : Resumed agent)
    (i : HfpAgentInput) :
    Resumed ((hfpAgent enabled).next agent i) ↔ ¬ Strands agent i := by
  rw [(latched_next h i).resumed_iff]
  rw [h.resumed_iff] at hresumed
  cases i with
  | event e =>
    show ¬ (_ ∧ agent.switch.phase = _) ↔ ¬ False
    simp only [not_false_eq_true, iff_true]
    rintro ⟨hs, hphase⟩
    exact hresumed ⟨(outside_suspended (l := agent.lifecycle) e.outside.1 hs).1, hphase⟩
  | poll capture monitorReady now =>
    have hpoll := poll_effect enabled agent capture monitorReady now
    dsimp only [Strands]
    obtain ⟨hi, hp, hdemand, hpath, hnow⟩ := shownBy_shows agent capture monitorReady now
    generalize agent.shows capture monitorReady now = input at hpoll hi hp hnow hdemand hpath ⊢
    generalize (hfpAgent enabled).next agent (.poll capture monitorReady now) = agent' at hpoll
    cases hpoll with
    | stale hstale =>
      -- nothing is suspended in another generation
      refine iff_of_true hresumed ?_
      rintro ⟨hs, -⟩
      exact (h.arrived hs hi).2 hstale
    | lost _ hlost =>
      refine iff_of_true (by simp) ?_
      rintro ⟨hs, -⟩
      simp [hp, h.present hs] at hlost
    | @moved w s' _ hfresh hconnected hmove =>
      have htold := move_told hfresh hmove
      rw [commanded_switch]
      cases hmove with
      | stop hcapture _ => exact iff_of_true (by simp) (fun hs => hs.2.2.1 hcapture)
      | enter hcapture _ _ => exact iff_of_true (by simp) (fun hs => hs.2.2.1 hcapture)
      | active hcapture _ _ => exact iff_of_true (by simp) (fun hs => hs.2.2.1 hcapture)
      | hold _ hphase =>
        refine iff_of_true (by simp) ?_
        rintro ⟨hs, hholding, -⟩
        rw [(h.arrived hs hi).1, hholding] at hphase
        simp at hphase
      | expire hquiet hphase hdue =>
        rw [hdemand, hpath] at htold ⊢
        generalize hw : (if decide (agent.lifecycle.renderDemand = .running) = true ∧
            ¬ agent.lifecycle.ldacPathActive = true then
              agent.switch.leftWord input ||| (agent.switch.arrived input).exitAction
                ||| V1HfpSwitchAction.resumeLdac.bit
            else agent.switch.leftWord input ||| (agent.switch.arrived input).exitAction) = word
          at htold ⊢
        have hstop : ¬ hfpWordHas word .stopLdac := fun hstop => hquiet (htold.stop hstop)
        have hresume : hfpWordHas word .resumeLdac ↔
            agent.lifecycle.renderDemand = .running ∧ ¬ agent.lifecycle.ldacPathActive := by
          rw [← hw]
          split_ifs with hback
          · simpa using hback
          · simpa [hfpWordHas_leftWord] using hback
        refine not_congr ?_
        rw [commanded_suspended _ _ hstop]
        constructor
        · rintro ⟨⟨hs, hkept⟩, -⟩
          rw [(h.arrived hs hi).1] at hphase hdue
          exact ⟨hs, hphase, hquiet, hnow ▸ hdue,
            fun hback => hkept ⟨(h.told hs).1, hresume.mpr hback⟩⟩
        · rintro ⟨hs, -, -, -, hback⟩
          exact ⟨⟨hs, fun hresumes => hback (hresume.mp hresumes.2)⟩, rfl⟩
      | idle hquiet _ _ hpending =>
        rw [commanded_none (fun hstop => hquiet (htold.stop hstop))
          (by simp [hfpWordHas_leftWord])]
        by_cases hs : agent.lifecycle.hfpSuspended = true
        · have harrived := (h.arrived hs hi).1
          simp only [harrived] at hpending ⊢
          refine iff_of_true hresumed ?_
          rintro ⟨-, hholding, -, hdue, -⟩
          exact hpending ⟨hholding, hnow ▸ hdue⟩
        · exact iff_of_true (fun hs' => hs hs'.1) (fun hstrands => hs hstrands.1)

end

/-- **LDAC is given back after a call**, in every state of a run, exactly as long as no
    hold-off of a suspended lifecycle expires without render demand. -/
theorem resumed_iff_demands (enabled : Bool) (c : V1LifecycleConfig)
    (inputs : List HfpAgentInput) :
    (hfpAgent enabled).Along (fun agent i => Resumed ((hfpAgent enabled).next agent i))
        (.initial c) inputs ↔
      (hfpAgent enabled).Along (fun agent i => ¬ Strands agent i) (.initial c) inputs := by
  refine Reducer.along_congr (P := fun agent => Latched enabled agent ∧ Resumed agent)
    (Q := fun _ _ => True) (fun agent i h _ hnext => ⟨latched_next h.1 i, hnext⟩)
    (fun agent i h _ => resumed_next_iff h.1 h.2 i) ⟨latched_initial enabled c, ?_⟩
    (Reducer.along_of_forall (fun _ _ => trivial) _ _)
  intro hphase
  simp [HfpAgent.initial] at hphase

def HfpAgentInput.outside (event : V1LifecycleEvent)
    (outside : event ≠ .hfpSuspendLdac ∧ event ≠ .hfpResumeLdac) : HfpAgentInput :=
  .event ⟨event, outside⟩

def openMicrophone : V1HfpCaptureSnapshot := { endpointMatched := true, captureActive := true }

/-- A call has LDAC suspended while it starts, the player is stopped in the call, and the call
    ends. -/
def stoppedInCall : List HfpAgentInput :=
  [.outside .aclConnected (by decide), .outside .renderStarted (by decide),
    .poll openMicrophone true 0, .outside .engineExited (by decide),
    .poll openMicrophone true 250, .outside .renderStopped (by decide),
    .poll {} true 500, .poll {} true 2500]

/-- LDAC stays suspended after that call, and the next render is refused. -/
theorem stopped_in_call_stranded :
    ¬ ∀ (enabled : Bool) (c : V1LifecycleConfig) (inputs : List HfpAgentInput),
      (hfpAgent enabled).Along (fun agent i => Resumed ((hfpAgent enabled).next agent i))
        (.initial c) inputs := by
  intro h
  have hrun := h true defaultLifecycle stoppedInCall
  exact absurd (hrun.2.2.2.2.2.2.2.1 (by decide +kernel) (by decide +kernel)) (by decide +kernel)

/-! ## LDAC in a call -/

/-- While the hands-free output is active, no event would open a transport. -/
def Excluded (agent : HfpAgent) : Prop :=
  agent.switch.hfpOutputActive = true →
    ∀ e, ¬ hasV1LifecycleAction (v1Lifecycle.out agent.lifecycle e) .openTransport

def StartsEngine (l : V1LifecycleState) (e : V1LifecycleEvent) : Prop :=
  RetryFires l e ∨
    e = .renderStarted ∧ l.physicalPresence = .present ∧ l.engineLease = .absent ∧
      0 < l.maximumOpenAttempts ∧
      (l.openAttemptsForGeneration = 0 ∨
        l.renderDemand = .idle ∧ l.allowMultipleMediaSessions ∧ l.mediaSession = .stopped)

instance (l : V1LifecycleState) (e : V1LifecycleEvent) : Decidable (StartsEngine l e) :=
  inferInstanceAs (Decidable (_ ∨ _))

/-- An engine is started in a call, for an LDAC that is not suspended. -/
def Intrudes (agent : HfpAgent) : HfpAgentInput → Prop
  | .event e => agent.switch.hfpOutputActive = true ∧ agent.lifecycle.hfpSuspended = false ∧
      StartsEngine agent.lifecycle e.event
  | .poll _ _ _ => False

instance (agent : HfpAgent) : ∀ i, Decidable (Intrudes agent i)
  | .event _ => inferInstanceAs (Decidable (_ ∧ _))
  | .poll _ _ _ => isFalse not_false

/-- The lifecycle is where the next ready engine opens a transport. -/
def V1LifecycleState.Openable (l : V1LifecycleState) : Prop :=
  l.physicalPresence = .present ∧ l.hfpSuspended = false ∧
    (l.renderDemand = .running ∨ l.toleratePretransportRenderGaps) ∧
    l.engineLease = .starting ∧ l.openAttemptsForGeneration < l.maximumOpenAttempts

/-- In a call, an engine that could open a transport is suspended. -/
def CallGuarded (agent : HfpAgent) : Prop :=
  agent.switch.hfpOutputActive = true → agent.lifecycle.hfpSuspended = false →
    agent.lifecycle.engineLease = .starting → agent.lifecycle.maximumOpenAttempts = 0

section
variable {l : V1LifecycleState} {e : V1LifecycleEvent}

theorem opens_iff : hasV1LifecycleAction (v1Lifecycle.out l e) .openTransport ↔
    e = .engineReady ∧ l.Openable := by
  simp only [v1Lifecycle, Reducer.out, V1LifecycleState.Openable]
  cases e <;> simp only [reduceV1Lifecycle]
  case engineReady =>
    split_ifs with hready hrefused
    · simp [hready]
    · simp only [has_bit]
      constructor
      · simp
      · rintro ⟨-, hp, hs, hd, hl, hattempts⟩
        rcases hrefused with h | h | ⟨h, htolerate⟩ | h | h
        · exact absurd hp h
        · simp [hs] at h
        · exact absurd (hd.resolve_left h) htolerate
        · exact absurd hl h
        · exact absurd hattempts (UInt32.not_lt.mpr h)
    · simp only [not_or, not_and, not_not] at hrefused
      obtain ⟨hp, hs, hd, hl, hattempts⟩ := hrefused
      simp only [has_bit, decide_true, true_iff]
      refine ⟨trivial, hp, by simpa using hs, ?_, hl, UInt32.not_le.mp hattempts⟩
      by_cases hrunning : l.renderDemand = .running
      · exact .inl hrunning
      · exact .inr (hd hrunning)
  case mediaFailed => simp [has_ite]
  case aclDisconnected | watcherLeaseExpired => simp [disconnectActions, has_ite]
  case mediaStopped => simp
  all_goals split_ifs <;> simp

theorem maximum_next (l : V1LifecycleState) (e : V1LifecycleEvent) :
    (v1Lifecycle.next l e).maximumOpenAttempts = l.maximumOpenAttempts := by
  cases e <;> simp only [v1Lifecycle, Reducer.next, reduceV1Lifecycle]
  case aclDisconnected | watcherLeaseExpired => rfl
  all_goals split_ifs <;> rfl

theorem openable_of_starts (hs : l.hfpSuspended = false) (h : StartsEngine l e) :
    (v1Lifecycle.next l e).Openable := by
  rcases h with ⟨rfl, hp, hd, hl, hm, hused, hattempts⟩ | ⟨rfl, hp, hl, hmax, hfresh⟩
  · simp [v1Lifecycle, Reducer.next, reduceV1Lifecycle, V1LifecycleState.Openable, *]
  · by_cases hzero : l.openAttemptsForGeneration = 0
    · simp [v1Lifecycle, Reducer.next, reduceV1Lifecycle, V1LifecycleState.Openable, *]
    · obtain ⟨hidle, hmultiple, hstopped⟩ := hfresh.resolve_left hzero
      simp [v1Lifecycle, Reducer.next, reduceV1Lifecycle, V1LifecycleState.Openable, *]

theorem starting_next (he : e ≠ .hfpResumeLdac) (hmax : l.maximumOpenAttempts ≠ 0)
    (hs : (v1Lifecycle.next l e).hfpSuspended = false)
    (hl : (v1Lifecycle.next l e).engineLease = .starting) :
    l.hfpSuspended = false ∧ (l.engineLease = .starting ∨ StartsEngine l e) := by
  have hpos : 0 < l.maximumOpenAttempts := UInt32.pos_iff_ne_zero.mpr hmax
  revert hs hl
  cases e <;> simp only [v1Lifecycle, Reducer.next, reduceV1Lifecycle]
  case aclConnected => split_ifs <;> simp_all
  case aclDisconnected | watcherLeaseExpired => simp [resetDisconnectedState]
  case renderStarted =>
    split_ifs with hsuspended hreset hstart hstart
    · simp [hsuspended]
    · exact fun hs _ => ⟨hs, .inr (.inr ⟨rfl, hstart.1, hstart.2.1, hpos,
        .inr ⟨by simpa using hreset.1, hreset.2.1, hreset.2.2.2.2.1⟩⟩)⟩
    · exact fun hs hl => ⟨hs, .inl hl⟩
    · exact fun hs _ => ⟨hs, .inr (.inr ⟨rfl, hstart.1, hstart.2.1, hpos, .inl hstart.2.2⟩)⟩
    · exact fun hs hl => ⟨hs, .inl hl⟩
  case transportRetryDue =>
    split_ifs with hfires
    · exact fun hs _ => ⟨hs, .inr (.inl ⟨rfl, hfires⟩)⟩
    · exact fun hs hl => ⟨hs, .inl hl⟩
  case hfpResumeLdac => exact absurd rfl he
  case mediaFailed => simp
  all_goals split_ifs <;> simp_all

end

section
variable {agent : HfpAgent}

theorem CallGuarded.excluded (h : CallGuarded agent) : Excluded agent := by
  intro hout e hopens
  obtain ⟨-, -, hs, -, hl, hattempts⟩ := opens_iff.mp hopens
  rw [h hout hs hl] at hattempts
  exact absurd hattempts UInt32.not_lt_zero

theorem move_active {s : V1HfpSwitchState} {i : V1HfpSwitchInput} {w : UInt32}
    {r : UInt32 × V1HfpSwitchState} (h : V1HfpMove s i w r) (hout : r.2.hfpOutputActive = true) :
    s.hfpOutputActive = true ∨ ¬ i.ldacPathActive := by
  cases h with
  | stop _ _ => exact .inl hout
  | enter _ hpath _ => exact .inr hpath
  | active _ _ h => exact .inl h
  | hold _ _ => exact .inl hout
  | expire _ _ _ => simp at hout
  | idle _ _ _ _ => exact .inl hout

theorem callGuarded_next (h : CallGuarded agent) {i : HfpAgentInput} (hi : ¬ Intrudes agent i) :
    CallGuarded ((hfpAgent true).next agent i) := by
  cases i with
  | event e =>
    intro hout hs hl
    change agent.switch.hfpOutputActive = true at hout
    change (v1Lifecycle.next agent.lifecycle e.event).hfpSuspended = false at hs
    change (v1Lifecycle.next agent.lifecycle e.event).engineLease = .starting at hl
    show (v1Lifecycle.next agent.lifecycle e.event).maximumOpenAttempts = 0
    rw [maximum_next]
    by_contra hmax
    obtain ⟨hsuspended, hstarting | hstarts⟩ := starting_next e.outside.2 hmax hs hl
    · exact hmax (h hout hsuspended hstarting)
    · exact hi ⟨hout, hsuspended, hstarts⟩
  | poll capture monitorReady now =>
    have hpoll := poll_effect true agent capture monitorReady now
    have hpath := (shownBy_shows agent capture monitorReady now).path
    generalize agent.shows capture monitorReady now = input at hpoll hpath
    generalize (hfpAgent true).next agent (.poll capture monitorReady now) = agent' at hpoll
    cases hpoll with
    | stale _ => exact h
    | lost _ _ => exact fun hout => absurd hout (by simp)
    | @moved w s' _ hfresh _ hmove =>
      have htold := move_told hfresh hmove
      intro hout
      rw [commanded_switch] at hout
      have hbefore := move_active hmove hout
      unfold HfpAgent.commanded
      split_ifs with hstop hresume
      · intro hs
        exact absurd (hs.symm.trans (suspended_after_suspend agent.lifecycle)) Bool.false_ne_true
      · -- the output is left before LDAC is resumed
        obtain ⟨hexpires, -⟩ := htold.resume hresume.2
        cases hmove with
        | stop hcapture _ => exact absurd hcapture hexpires.quiet
        | enter hcapture _ _ => exact absurd hcapture hexpires.quiet
        | active hcapture _ _ => exact absurd hcapture hexpires.quiet
        | hold _ hphase =>
          rw [hexpires.holding] at hphase
          simp at hphase
        | expire _ _ _ => simp at hout
        | idle _ _ _ hpending => exact absurd ⟨hexpires.holding, hexpires.due⟩ hpending
      · rcases hbefore with hactive | hidle
        · rw [arrived_output, Bool.and_eq_true] at hactive
          exact h hactive.1
        · intro _ hl
          simp only at hl
          simp [hpath, V1LifecycleState.ldacPathActive, hl] at hidle

theorem excluded_next_iff (h : CallGuarded agent) (i : HfpAgentInput) :
    Excluded ((hfpAgent true).next agent i) ↔ ¬ Intrudes agent i := by
  constructor
  · rintro hexcluded hintrudes
    cases i with
    | poll _ _ _ => exact hintrudes
    | event e =>
      obtain ⟨hout, hs, hstarts⟩ := hintrudes
      exact hexcluded hout .engineReady (opens_iff.mpr ⟨rfl, openable_of_starts hs hstarts⟩)
  · exact fun hi => (callGuarded_next h hi).excluded

end

/-- **LDAC and the hands-free output exclude each other**, in every state of a run, exactly as
    long as no engine is started in a call for an LDAC that is not suspended. -/
theorem excluded_iff_spares (c : V1LifecycleConfig) (inputs : List HfpAgentInput) :
    (hfpAgent true).Along (fun agent i => Excluded ((hfpAgent true).next agent i))
        (.initial c) inputs ↔
      (hfpAgent true).Along (fun agent i => ¬ Intrudes agent i) (.initial c) inputs := by
  refine Reducer.along_congr (P := CallGuarded) (Q := fun _ _ => True)
    (fun agent i h _ hnext => callGuarded_next h ((excluded_next_iff h i).mp hnext))
    (fun agent i h _ => excluded_next_iff h i) ?_ (Reducer.along_of_forall (fun _ _ => trivial) _ _)
  intro hout
  simp [HfpAgent.initial] at hout

/-- A call that finds LDAC idle, and a player that is started in it. -/
def startedInCall : List HfpAgentInput :=
  [.outside .aclConnected (by decide), .poll openMicrophone true 0,
    .outside .renderStarted (by decide)]

/-- The call does not suspend LDAC, and the engine that turns ready opens a transport. -/
theorem started_in_call_opens :
    ¬ ∀ (c : V1LifecycleConfig) (inputs : List HfpAgentInput),
      (hfpAgent true).Along (fun agent i => Excluded ((hfpAgent true).next agent i))
        (.initial c) inputs := by
  intro h
  have hrun := h defaultLifecycle startedInCall
  exact hrun.2.2.1 (by decide +kernel) .engineReady (by decide +kernel)

end NativeLdac.Agent
