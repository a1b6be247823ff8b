/-
  Presses that the driver published while no media session was active, and what
  becomes of them when a later session polls.

  * `Calm`: a change that routes no more keys and publishes no stale press.  All
    that the host does is calm, but for the beginning of a session;
  * `Routed` is the invariant: while the session of a run routes keys, the queue
    holds no press from outside of it.
-/
import NativeLdac.Sideband.QueuedHost

namespace NativeLdac.Sideband

open Agent AvrcpStage V1AvrcpControlMapperState V1AvrcpObserverHost Prog

variable {Ω α β : Type}

/-! ## What the host leaves -/

/-- What one state leaves of another: no more is routed, nor is more in a session, and
    the queue stays free of stale presses. -/
structure Calm (s s' : QueuedStage Ω) : Prop where
  follows : s.mapper.Follows → s'.mapper.Follows
  routes : Routes s'.mapper → Routes s.mapper
  active : s'.host.mediaSessionActive → s.host.mediaSessionActive
  routing : s'.host.options.mediaRouting = s.host.options.mediaRouting
  unstale : Unstale s.world.driver → Unstale s'.world.driver

/-- An operation that does not set the control mode. -/
def Tame : V1AvrcpMapperOp → Prop
  | .setControlMode .. => False
  | _ => True

theorem routes_untouched {m m' : V1AvrcpControlMapperState} (h : Untouched m m') :
    Routes m' ↔ Routes m :=
  decide_eq_decide.mp (congrArg Authorization.enabled h.passThrough)

theorem routes_step (m : V1AvrcpControlMapperState) {op : V1AvrcpMapperOp} (h : Tame op) :
    Routes (avrcpMapper.next m op) → Routes m := by
  cases op with
  | setControlMode g volumeSync mediaRouting => exact h.elim
  | beginAclGeneration g =>
    simp only [Routes, Reducer.next, avrcpMapper, v1AvrcpBeginAclGeneration,
      beginAvrcpPassThroughAclGeneration, clearGenerationState,
      AvrcpPassThroughGateState.resetHeldOperation]
    split_ifs <;> simp
  | endAclGeneration g =>
    simp only [Routes, Reducer.next, avrcpMapper, v1AvrcpEndAclGeneration,
      endAvrcpPassThroughAclGeneration, clearGenerationState,
      AvrcpPassThroughGateState.resetHeldOperation]
    split_ifs <;> simp
  | acquireOwnerLease g lease =>
    simp only [Routes, Reducer.next, avrcpMapper, v1AvrcpAcquireOwnerLease,
      acquireAvrcpPassThroughOwnerLease, AvrcpPassThroughGateState.resetHeldOperation]
    split_ifs <;> exact id
  | revokeOwnerLease g lease =>
    simp only [Routes, Reducer.next, avrcpMapper, v1AvrcpRevokeOwnerLease,
      revokeAvrcpPassThroughOwnerLease, AvrcpPassThroughGateState.resetHeldOperation]
    split_ifs <;> exact id
  | _ => exact (routes_untouched (untouched_observation trivial)).mp

section
variable {env : QueuedEnvironment Ω} {s : QueuedStage Ω}

theorem calm_world {world : QueuedWorld Ω}
    (h : Unstale s.world.driver → Unstale world.driver) : Calm s { s with world := world } :=
  ⟨id, id, id, rfl, h⟩

theorem calm_mapper (op : V1AvrcpMapperOp) (h : Tame op) (log : List AvrcpMoment) :
    Calm s { s with mapper := avrcpMapper.next s.mapper op, log := log } :=
  ⟨fun hf => follows_step hf op, routes_step s.mapper h, id, rfl, id⟩

theorem unstale_during (call : Ω → α × Ω) (world : QueuedWorld Ω) (h : Unstale world.driver) :
    Unstale (env.during call world).2.driver :=
  unstale_goOn h

/-- An assertion that calm changes keep. -/
def Closed (I : QueuedStage Ω → Prop) : Prop := ∀ s s', Calm s s' → I s → I s'

variable {I : QueuedStage Ω → Prop} (hI : Closed I)
include hI

theorem sturdy_closed : Sturdy env.environment.toAvrcpEnvironment I where
  world h s := hI _ _ (calm_world fun hs => by cases h <;> exact unstale_during _ _ hs)
  sink _ _ _ := hI _ _ ⟨id, id, id, rfl, id⟩
  mapper _ _ _ hu := hI _ _
    ⟨hu.follows, (routes_untouched hu).mp, id, rfl, id⟩

theorem keeps_ask {call : QueuedWorld Ω → α × QueuedWorld Ω}
    (h : ∀ world, Unstale world.driver → Unstale (call world).2.driver) : Keeps I (ask call) :=
  .step fun _ => hI _ _ (calm_world (h _))

theorem keeps_mapped (op : V1AvrcpMapperOp) (h : Tame op) (dispatched : Bool) :
    Keeps I (mapped op dispatched) :=
  .step fun _ => hI _ _ (calm_mapper op h _)

theorem keeps_discarded (op : V1AvrcpMapperOp) (h : Tame op) : Keeps I (discarded op) :=
  .bind (keeps_mapped hI op h false) fun _ => .pure ()

theorem keeps_modify {f : V1AvrcpObserverHost → V1AvrcpObserverHost}
    (ha : ∀ host, (f host).mediaSessionActive → host.mediaSessionActive)
    (ho : ∀ host, (f host).options.mediaRouting = host.options.mediaRouting) :
    Keeps I (modify f) :=
  .update fun s => hI _ _ ⟨id, id, ha s.host, ho s.host, id⟩

theorem keeps_endMediaSession : Keeps I endMediaSession := by
  have hend : Keeps I (modify fun h => { h with
      mediaSessionActive := false
      mediaSessionsEnded := h.mediaSessionsEnded + 1 }) :=
    keeps_modify hI (fun _ h => absurd h Bool.false_ne_true) fun _ => rfl
  refine .bind (.read _) fun s => .ite (.ite (.bind ?_ fun _ => hend) hend) (.pure _)
  exact keeps_discarded hI (.revokeOwnerLease _ _) trivial

theorem keeps_releaseTransport : Keeps I (releaseTransport env.environment) :=
  .bind (keeps_endMediaSession hI) fun _ =>
    .bind (keeps_ask hI fun _ => unstale_closeHandle) fun _ =>
      keeps_modify hI (fun _ => id) fun _ => rfl

theorem keeps_endMapperGeneration : Keeps I endMapperGeneration :=
  .bind (.read _) fun _ =>
    .ite (keeps_discarded hI (.endAclGeneration _) trivial) (.pure _)

theorem keeps_close : Keeps I (close env.environment) :=
  .bind (keeps_releaseTransport hI) fun _ => keeps_endMapperGeneration hI

theorem keeps_openDriver : Keeps I (openDriver env.environment) := by
  refine .bind (.read _) fun host => .ite (.pure _) (.bind ?_ fun opened => ?_)
  · by_cases hwrite : host.writeEnabled
    · rw [if_pos hwrite]
      exact keeps_ask hI fun _ h => unstale_openHandle h _
    · rw [if_neg hwrite]
      exact keeps_ask hI fun _ h => unstale_openHandle h _
  · rcases opened with e | _
    · exact .pure _
    · exact .bind (keeps_modify hI (fun _ => id) fun _ => rfl) fun _ => .pure _

theorem keeps_ensureOpened : Keeps I (ensureOpened env.environment) := by
  refine .bind (keeps_openDriver hI) fun opened => ?_
  rcases opened with e | _
  · exact .ite (.pure _) (.pure _)
  refine .bind (keeps_ask hI (unstale_during _)) fun answer => ?_
  rcases answer with e | version
  · exact .bind (keeps_close hI) fun _ => .pure _
  · exact .ite (.bind (keeps_close hI) fun _ => .pure _)
      (.ite (.bind (keeps_close hI) fun _ => .pure _) (.pure _))

theorem keeps_readStatus : Keeps I (readStatus env.environment) := by
  refine .bind (keeps_ask hI (unstale_during _)) fun answer => ?_
  rcases answer with e | status
  · exact .pure _
  refine .ite (.pure _) (.bind (keeps_modify hI ?_ ?_) fun _ => .pure _)
  · intro host h
    unfold observeStatus at h
    split_ifs at h <;> exact h
  · intro host
    unfold observeStatus
    split_ifs <;> rfl

theorem keeps_ensureMapperLease : Keeps I (ensureMapperLease (Ω := QueuedWorld Ω)) := by
  refine .bind (.read _) fun s => .ite (.pure _) (.ite (.pure _) ?_)
  exact .bind (keeps_discarded hI (.acquireOwnerLease _ _) trivial) fun _ => .read _

theorem beginGeneration_current (hf : ∀ s, I s → s.mapper.Follows) {generation : UInt64}
    (hg : generation ≠ 0) :
    Triple I (beginGeneration generation)
      (fun r s => I s ∧ (r = .ok () → s.mapper.isCurrentGeneration generation))
      fun _ => False := by
  have hbegin : Triple
      (fun s => I s ∧ (s.mapper.aclGenerationCurrent → s.mapper.aclGeneration = generation))
      (beginUnlessCurrent generation)
      (fun r s => I s ∧ (r = .ok () → s.mapper.isCurrentGeneration generation))
      fun _ => False := by
    refine .bind (Q := fun current s => s.mapper.aclGenerationCurrent = current ∧ I s ∧
        (s.mapper.aclGenerationCurrent → s.mapper.aclGeneration = generation))
      (.read fun s h => ⟨rfl, h⟩) fun current => .ite (fun hcurrent => ?_) fun _ => ?_
    · exact .pure fun s h => ⟨h.2.1, fun _ => isCurrentGeneration_iff.mpr
        ⟨hg, h.1.trans hcurrent, h.2.2 (h.1.trans hcurrent)⟩⟩
    · refine .bind (Q := fun begun s => I s ∧
          (begun.aclGeneration = generation → s.mapper.generation = (generation, true)))
        (.step fun s h =>
          ⟨hI _ _ (calm_mapper (.beginAclGeneration generation) trivial _) h.2.1, fun hout => ?_⟩)
        fun begun => ?_
      · rcases generation_begin s.mapper generation with ⟨hbegun, -⟩ | ⟨-, hzero⟩
        · exact hbegun
        · exact absurd (hout.symm.trans hzero) hg
      · refine .ite (fun _ => .pure fun s h => ⟨h.1, fun hr => by cases hr⟩) fun hbegun => ?_
        refine .pure fun s h => ⟨h.1, fun _ => ?_⟩
        obtain ⟨hgeneration, hcurrent⟩ := Prod.mk.inj (h.2 (not_not.mp hbegun))
        exact isCurrentGeneration_iff.mpr ⟨hg, hcurrent, hgeneration⟩
  refine .bind (Q := fun mapper s => s.mapper = mapper ∧ I s) (.read fun s h => ⟨rfl, h⟩)
    fun mapper => .ite (fun hother => ?_) fun hother => ?_
  · refine .bind (Q := fun _ s => I s ∧ s.mapper.aclGenerationCurrent = false) ?_ fun _ =>
      hbegin.pre fun s h => ⟨h.1, fun hcurrent => absurd (h.2.symm.trans hcurrent) (by simp)⟩
    refine .bind (Q := fun mapper' s => s.mapper = mapper' ∧ mapper' = mapper ∧ I s)
      (.read fun s h => ⟨rfl, h⟩) fun mapper' => .ite (fun _ => ?_) fun hdormant s h => ?_
    · refine .bind (Q := fun _ s => I s ∧ s.mapper.aclGenerationCurrent = false)
        (.step fun s h => ⟨hI _ _ (calm_mapper (.endAclGeneration _) trivial _) h.2.2, ?_⟩)
        fun _ => .pure fun _ => id
      obtain ⟨hmapper, rfl, hs⟩ := h
      subst hmapper
      exact congrArg Prod.snd (generation_end hother.1 ((hf s hs).nonzero hother.1))
    · exact absurd (h.2.1 ▸ hother.1) hdormant
  · refine hbegin.pre fun s h => ⟨h.2, fun hcurrent => ?_⟩
    by_contra hne
    exact hother ⟨h.1 ▸ hcurrent, h.1 ▸ hne⟩

theorem keeps_activate (status : NldAvrcpObserverStatus) :
    Keeps I (activate env.environment status) := by
  have hmodify : ∀ f : V1AvrcpObserverHost → V1AvrcpObserverHost,
      (∀ host, (f host).mediaSessionActive = host.mediaSessionActive) →
      (∀ host, (f host).options = host.options) → Keeps I (modify f) :=
    fun f ha ho => keeps_modify hI (fun host h => (ha host) ▸ h)
      fun host => congrArg _ (ho host)
  refine .bind (.read _) fun host => .ite (.pure _) (.ite ?_ (.ite ?_ (.pure _)))
  · refine .bind (keeps_ask hI (unstale_during _)) fun answer => ?_
    rcases answer with e | _
    · exact .bind (hmodify _ (fun _ => rfl) fun _ => rfl) fun _ => .pure _
    · exact .bind (hmodify _ (fun _ => rfl) fun _ => rfl) fun _ => .pure _
  · exact .bind (hmodify _ (fun _ => rfl) fun _ => rfl) fun _ => .pure _

omit hI in
theorem triple_keeps {x : Program (QueuedWorld Ω) α} {D : QueuedStage Ω → Prop}
    (h : Keeps I x) : Triple I x (fun _ => I) D :=
  h.conseq (fun _ => id) (fun _ _ => id) fun _ => False.elim

theorem triple_executes {x : Program (QueuedWorld Ω) α}
    (h : Executes env.environment.toAvrcpEnvironment x) : Triple I x (fun _ => I) I :=
  h.sturdy (sturdy_closed hI)

theorem triple_feedDriverEvent (event : NldAvrcpObserverEvent) :
    Triple I (feedDriverEvent env.environment event) (fun _ => I) I := by
  refine .bind (triple_keeps (.read _)) fun generation => ?_
  rcases hevent : mapDriverEvent event generation with _ | observed
  · exact triple_keeps (.pure _)
  · obtain ⟨hs, he⟩ := mapDriverEvent_kind hevent
    refine .bind (triple_keeps (.read _)) fun options =>
      .bind (triple_executes hI (executes_feedEvent _ hs he options)) fun _ => ?_
    exact .ite (fun _ => triple_keeps (keeps_ensureMapperLease hI))
      fun _ => triple_keeps (.pure _)

theorem triple_pollEvents (n : Nat) (observed : Bool) :
    Triple I (pollEvents env.environment n observed) (fun _ => I) I := by
  induction n generalizing observed with
  | zero => exact triple_keeps (.pure _)
  | succ n ih =>
    refine .bind (triple_keeps (keeps_ask hI fun _ => unstale_dequeueEvent)) fun answer => ?_
    rcases answer with e | event
    · exact .ite (fun _ => triple_keeps (.pure _)) fun _ => triple_keeps (.pure _)
    · refine .bind (triple_feedDriverEvent hI event) fun _ => ?_
      exact .ite (fun _ => ih _) fun _ => triple_keeps (.pure _)

theorem triple_pollWindowsVolume :
    Triple I (pollWindowsVolume env.environment) (fun _ => I) I := by
  have hunnotified : Triple I (queryWindowsVolumeUnnotified env.environment) (fun _ => I) I := by
    refine .bind (triple_executes hI (.ask .getTickCount)) fun now =>
      .bind (triple_executes hI (.ask .windowsVolumeNotificationsActive)) fun active =>
        .bind (triple_keeps (.read _)) fun last => .ite (fun _ => ?_) fun _ => triple_keeps (.pure _)
    refine .bind (triple_keeps (keeps_modify hI (fun _ => id) fun _ => rfl)) fun _ =>
      .bind (triple_executes hI (.ask .queryWindowsVolume)) fun current => ?_
    rcases current with _ | current
    · exact triple_keeps (.pure _)
    · exact .bind (triple_keeps (.read _)) fun generation => triple_executes hI
        (executes_mapAndDispatch _ (.observeWindowsVolume generation current) trivial)
  refine .bind (triple_executes hI (.ask .consumeWindowsVolumeChange)) fun notified => ?_
  rcases notified with _ | notified
  · exact hunnotified
  · refine .bind (triple_keeps (.read _)) fun generation => .bind ?_ fun _ => hunnotified
    exact triple_executes hI
      (executes_mapAndDispatch _ (.observeWindowsVolume generation notified) trivial)

theorem triple_poll : Triple I (poll env.environment) (fun _ => I) I := by
  refine .bind (triple_keeps (.read _)) fun host =>
    .ite (fun _ => triple_keeps (.pure _)) fun _ => ?_
  refine .bind (triple_keeps (keeps_readStatus hI)) fun status => ?_
  rcases status with e | status
  · exact triple_keeps (.pure _)
  refine .bind (triple_pollEvents hI _ _) fun polled => ?_
  rcases polled with e | observed
  · exact triple_keeps (.pure _)
  refine .bind (triple_keeps (.read _)) fun s => .bind
    (.ite (fun _ => triple_pollWindowsVolume hI) fun _ => triple_keeps (.pure _)) fun _ =>
      .bind (triple_keeps (.read _)) fun ready => .bind (.ite (fun _ => ?_) fun _ => ?_) fun _ =>
        triple_keeps (.pure _)
  · exact triple_executes hI (executes_retryPendingWrites _)
  · exact triple_keeps (.pure _)

theorem triple_setMediaSessionSnapshot (snapshot : V1MediaSessionSnapshot) :
    Triple I (setMediaSessionSnapshot env.environment snapshot) (fun _ => I) I := by
  refine .bind (triple_keeps (keeps_modify hI (fun _ => id) fun _ => rfl)) fun _ =>
    .bind (triple_keeps (.read _)) fun current => .ite (fun _ => ?_) fun _ =>
      triple_keeps (.pure _)
  exact triple_executes hI (executes_mapAndDispatch _ (.setMediaSessionSnapshot snapshot) trivial)

end

/-! ## The invariant -/

/-- **The invariant**: while a session routes keys, the queue holds no press from outside
    of it. -/
structure Routed (s : QueuedStage Ω) : Prop where
  follows : s.mapper.Follows
  unstale : s.host.mediaSessionActive → Routes s.mapper → Unstale s.world.driver

/-- A session that is being begun can be left: it ends, or it was active before. -/
structure Abandonable (starting : Bool) (s : QueuedStage Ω) : Prop where
  follows : s.mapper.Follows
  resumed : ¬ starting → Routed s

/-- A session is being begun; if it will route keys, the queue allows it. -/
structure Beginning (starting : Bool) (s : QueuedStage Ω) : Prop where
  abandonable : Abandonable starting s
  routing : s.host.options.mediaRouting → Unstale s.world.driver

section
variable {starting : Bool} {s : QueuedStage Ω}

theorem closed_routed : Closed (Ω := Ω) Routed := fun _ _ hc h =>
  ⟨hc.follows h.follows, fun ha hr => hc.unstale (h.unstale (hc.active ha) (hc.routes hr))⟩

theorem closed_beginning : Closed (Ω := Ω) (Beginning starting) := fun s s' hc h =>
  ⟨⟨hc.follows h.abandonable.follows,
    fun hs => closed_routed s s' hc (h.abandonable.resumed hs)⟩,
    fun hr => hc.unstale (h.routing (hc.routing ▸ hr))⟩

theorem Routed.abandonable (h : Routed s) : Abandonable starting s :=
  ⟨h.follows, fun _ => h⟩

/-! ## The beginning of a session -/

theorem endMediaSession_routed :
    Triple (fun s : QueuedStage Ω => s.mapper.Follows) endMediaSession (fun _ => Routed)
      fun _ => False := by
  have hclosed : Closed (Ω := Ω) (fun s => s.mapper.Follows) := fun _ _ hc => hc.follows
  have hend : Triple (fun s : QueuedStage Ω => s.mapper.Follows) (modify fun h => { h with
      mediaSessionActive := false
      mediaSessionsEnded := h.mediaSessionsEnded + 1 }) (fun _ => Routed) fun _ => False :=
    .update fun s h => ⟨h, fun ha => absurd ha Bool.false_ne_true⟩
  refine .bind (Q := fun t s => s = t ∧ s.mapper.Follows) (.read fun s h => ⟨rfl, h⟩) fun t =>
    .ite (fun _ => .ite (fun _ => ?_) fun _ => hend.pre fun _ => And.right) fun hidle => ?_
  · exact (Triple.bind (keeps_discarded hclosed (.revokeOwnerLease _ _) trivial)
      fun _ => hend).pre fun _ => And.right
  · refine .pure fun s h => ⟨h.2, fun ha => ?_⟩
    obtain ⟨rfl, -⟩ := h
    exact absurd ha hidle

theorem abandon_routed (result : V1AvrcpObserverActivationResult) (error : UInt32) :
    Triple (Abandonable (Ω := Ω) starting) (abandon starting result error) (fun _ => Routed)
      fun _ => False :=
  .bind (.ite (fun _ => endMediaSession_routed.pre fun _ => Abandonable.follows)
    fun hresumed => .pure fun _ h => h.resumed hresumed) fun _ => .pure fun _ h => h

theorem routes_setControlMode {m : V1AvrcpControlMapperState} (hf : m.Follows) {g : UInt64}
    (hg : m.isCurrentGeneration g) {volumeSync mediaRouting : Bool}
    (h : Routes (avrcpMapper.next m (.setControlMode g volumeSync mediaRouting))) :
    mediaRouting := by
  have hgate : m.passThrough.isCurrent g := (hf.isCurrent_passThrough g).trans hg
  cases mediaRouting with
  | true => rfl
  | false =>
    simp only [Routes, Reducer.next, avrcpMapper, v1AvrcpSetControlMode, hg, hgate,
      setAvrcpPassThroughGateMode, AvrcpPassThroughGateState.resetHeldOperation] at h
    split_ifs at h <;> simp_all

variable {env : QueuedEnvironment Ω}

theorem configureMapper_routed (generation : UInt64) :
    Triple (fun s => Beginning starting s ∧ s.mapper.isCurrentGeneration generation)
      (configureMapper env.environment generation) (fun _ => Routed) Routed := by
  have hrest : Triple
      (fun s => Beginning starting s ∧ s.mapper.isCurrentGeneration generation)
      (tellOptions env.environment generation) (fun _ => Routed) Routed := by
    refine .bind (Q := fun host s => s.host = host ∧ Beginning starting s ∧
      s.mapper.isCurrentGeneration generation) (.read fun s h => ⟨rfl, h⟩) fun host => ?_
    refine .bind (Q := fun _ => Routed) (.bind (Q := fun _ => Routed) (.step fun s h => ?_)
      fun _ => .pure fun _ => id) fun _ => ?_
    · obtain ⟨rfl, hbeginning, hcurrent⟩ := h
      have hf := hbeginning.abandonable.follows
      exact ⟨follows_step hf _, fun _ hroutes =>
        hbeginning.routing (routes_setControlMode hf hcurrent hroutes)⟩
    · exact .bind (triple_keeps (keeps_discarded closed_routed (.acquireOwnerLease _ _) trivial))
        fun _ => .bind
          (triple_keeps (keeps_discarded closed_routed (.observeWindowsVolume _ _) trivial))
          fun _ => triple_executes closed_routed
            (executes_mapAndDispatch _ (.setMediaSessionSnapshot _) trivial)
  have hmodify : ∀ f : V1AvrcpObserverHost → V1AvrcpObserverHost,
      (∀ host, (f host).mediaSessionActive = host.mediaSessionActive) →
      (∀ host, (f host).options.mediaRouting = host.options.mediaRouting) →
      Triple (fun s : QueuedStage Ω =>
          Beginning starting s ∧ s.mapper.isCurrentGeneration generation) (modify f)
        (fun _ s => Beginning starting s ∧ s.mapper.isCurrentGeneration generation) Routed :=
    fun f ha ho => .update fun s h =>
      ⟨closed_beginning s _ ⟨id, id, fun h => (ha s.host) ▸ h, ho s.host, id⟩ h.1, h.2⟩
  refine .bind (Q := fun _ s => Beginning starting s ∧ s.mapper.isCurrentGeneration generation)
    (.update fun s h => ⟨closed_beginning s _ ⟨?_, id, id, rfl, id⟩ h.1, h.2⟩) fun _ =>
      .bind (hmodify _ (fun _ => rfl) fun _ => rfl) fun _ =>
        .bind (Q := fun _ s => Beginning starting s ∧ s.mapper.isCurrentGeneration generation)
          (.step fun s h => ⟨closed_beginning s _ (calm_world (unstale_during _ _)) h.1, h.2⟩)
          fun current => ?_
  · exact fun hf => hf.congr rfl rfl (.refl _) (.refl _)
  · rcases current with _ | current
    · exact hrest
    · exact .bind (hmodify _ (fun _ => rfl) fun _ => rfl) fun _ => hrest

theorem preparePhysicalMapper_routed :
    Triple (Beginning starting) (preparePhysicalMapper env.environment)
      (fun r s => Abandonable starting s ∧ (r = .ok () → Routed s)) Routed := by
  have herror : ∀ e : UInt32, Triple (fun s : QueuedStage Ω => Abandonable starting s)
      (Pure.pure (.error e : Except UInt32 Unit))
      (fun r s => Abandonable starting s ∧ (r = .ok () → Routed s)) Routed :=
    fun e => .pure fun s h => ⟨h, fun hr => by cases hr⟩
  refine .bind (triple_keeps (.read fun s => s.host.options.aclGeneration)) fun generation =>
    .ite (fun _ => (herror _).pre fun _ => Beginning.abandonable) fun hg => ?_
  refine .bind ((beginGeneration_current closed_beginning (fun _ h => h.abandonable.follows)
    hg).conseq (fun _ => id) (fun _ _ => id) fun _ => False.elim) fun begun => ?_
  rcases begun with e | _
  · exact (herror e).pre fun _ h => h.1.abandonable
  · refine .bind ((configureMapper_routed generation).pre fun _ h => ⟨h.1, h.2 rfl⟩) fun _ =>
      .bind (triple_keeps (keeps_ensureMapperLease closed_routed)) fun _ => .ite (fun _ => ?_)
        fun _ => ?_
    · exact .pure fun s h => ⟨h.abandonable, fun _ => h⟩
    · exact (herror _).pre fun _ => Routed.abandonable

theorem beginMediaSession_routed (options : V1AvrcpReplayOptions) :
    Triple (fun s => Routed s ∧ (options.mediaRouting → Unstale s.world.driver))
      (beginMediaSession env.environment options) (fun _ => Routed) Routed := by
  have habandon : ∀ starting result error,
      Triple (Abandonable (Ω := Ω) starting) (abandon starting result error) (fun _ => Routed)
        Routed :=
    fun starting result error => (abandon_routed result error).conseq (fun _ => id)
      (fun _ _ => id) fun _ => False.elim
  refine .bind (Q := fun _ s => Routed s ∧
      (s.host.options.mediaRouting → Unstale s.world.driver))
    (.update fun s h => ⟨⟨h.1.follows, h.1.unstale⟩, h.2⟩) fun _ => ?_
  refine .bind (Q := fun starting s => starting = !s.host.mediaSessionActive ∧ Routed s ∧
      (s.host.options.mediaRouting → Unstale s.world.driver)) (.read fun s h => ⟨rfl, h⟩)
    fun starting => ?_
  refine .bind (Q := fun _ => Beginning starting)
    (.ite (fun hs => .update fun s h => ?_) fun hs => .pure fun s h => ?_) fun _ => ?_
  · exact ⟨⟨h.2.1.follows, fun hresumed => absurd hs hresumed⟩, h.2.2⟩
  · exact ⟨h.2.1.abandonable, h.2.2⟩
  refine .bind (triple_keeps (keeps_ensureOpened closed_beginning)) fun opened => ?_
  rcases opened with ⟨result, e⟩ | _
  · exact (habandon _ _ _).pre fun _ => Beginning.abandonable
  refine .bind (triple_keeps (keeps_readStatus closed_beginning)) fun status => ?_
  rcases status with e | status
  · exact (habandon _ _ _).pre fun _ => Beginning.abandonable
  refine .bind preparePhysicalMapper_routed fun prepared => ?_
  rcases prepared with e | _
  · exact (habandon _ _ _).pre fun _ => And.left
  refine Triple.pre (.bind (triple_keeps (keeps_activate closed_routed status)) fun activated => ?_)
    fun _ h => h.2 rfl
  rcases activated with ⟨result, e⟩ | _
  · exact (habandon _ _ _).pre fun _ => Routed.abandonable
  refine .bind (triple_keeps (keeps_ensureMapperLease closed_routed)) fun _ =>
    .ite (fun _ => .pure fun _ => id) fun _ => (habandon _ _ _).pre fun _ => Routed.abandonable

/-! ## Runs -/

theorem call_routed (call : V1AvrcpObserverHost.Call) (h : Routed s)
    (hb : BegunUnstale s (.call call)) : Routed (call.program env.environment s).2 := by
  have hrun : ∀ {β : Type} {P : QueuedStage Ω → Prop} {x : Program (QueuedWorld Ω) β},
      Triple P x (fun _ => Routed) Routed → P s → Routed (x s).2 := by
    intro β P x hx hs
    have hx := hx s hs
    generalize x s = r at hx ⊢
    rcases r with ⟨_ | _, s'⟩
    · exact hx
    · exact hx
  cases call with
  | beginMediaSession options =>
    exact hrun (.bind (beginMediaSession_routed options) fun _ => .pure fun _ => id) ⟨h, hb⟩
  | poll => exact hrun (.bind (triple_poll closed_routed) fun _ => .pure fun _ => id) h
  | setMediaSessionSnapshot snapshot =>
    exact hrun (triple_setMediaSessionSnapshot closed_routed snapshot) h
  | endMediaSession => exact hrun (triple_keeps (keeps_endMediaSession closed_routed)) h
  | releaseTransport => exact hrun (triple_keeps (keeps_releaseTransport closed_routed)) h
  | close => exact hrun (triple_keeps (keeps_close closed_routed)) h

theorem routed_step (h : Routed s) {step : QueuedStep} (hb : BegunUnstale s step) :
    Routed ((queuedHost env).next s step) := by
  cases step with
  | call call => exact call_routed call h hb
  | publish event =>
    refine ⟨h.follows, fun ha hr => ?_⟩
    show Unstale (s.world.driver.publish (!s.host.mediaSessionActive) event)
    rw [show s.host.mediaSessionActive = true from ha]
    exact unstale_publish (h.unstale ha hr) event
  | start => exact ⟨h.follows, fun ha hr => unstale_start (h.unstale ha hr)⟩
  | stop => exact ⟨h.follows, fun ha hr => unstale_stop (h.unstale ha hr)⟩

theorem fedRecords_idle (n : Nat) (h : Routes s.mapper → Unstale s.world.driver) :
    ∀ fed ∈ fedRecords env n s, fed.1.StaleKey → dispatchedActions fed.2 fed.1.event = [] := by
  have hclosed : Closed (Ω := Ω) fun s => Routes s.mapper → Unstale s.world.driver :=
    fun _ _ hc h hr => hc.unstale (h (hc.routes hr))
  induction n generalizing s with
  | zero => exact fun _ hmem => absurd hmem List.not_mem_nil
  | succ n ih =>
    intro fed hmem hkey
    rw [fedRecords] at hmem
    cases hdequeued : env.dequeued s.world with
    | error e =>
      rw [hdequeued] at hmem
      exact absurd hmem List.not_mem_nil
    | ok record =>
      rw [hdequeued] at hmem
      rcases List.mem_cons.mp hmem with rfl | hrest
      · by_contra hdispatched
        obtain ⟨hroutes, hpress⟩ := routes_of_dispatched hkey hdispatched
        exact h hroutes record (mem_of_dequeued hdequeued) hpress
      · have hnext := hclosed s { s with world := (env.dequeueEvent s.world).2 }
          (calm_world unstale_dequeueEvent) h
        split at hrest
        · rename_i s' heq
          have hfed := Triple.returns heq (triple_feedDriverEvent hclosed record.event) hnext
          exact ih hfed fed hrest hkey
        · exact absurd hrest List.not_mem_nil

theorem staleKeysIdle_step (h : Routed s) (step : QueuedStep) :
    StaleKeysIdle env s step := by
  cases step with
  | call call =>
    cases call with
    | poll =>
      intro fed hmem
      rw [polledRecords] at hmem
      split_ifs at hmem with hidle
      · exact absurd hmem List.not_mem_nil
      · rw [not_or, not_not] at hidle
        have hclosed : Closed (Ω := Ω) fun s => Routes s.mapper → Unstale s.world.driver :=
          fun _ _ hc h hr => hc.unstale (h (hc.routes hr))
        split at hmem
        · rename_i heq
          have hstatus := Triple.returns heq (keeps_readStatus hclosed) (h.unstale hidle.1)
          exact fedRecords_idle _ hstatus fed hmem
        · exact absurd hmem List.not_mem_nil
    | _ => trivial
  | _ => trivial

end

instance (env : QueuedEnvironment Ω) (s : QueuedStage Ω) :
    ∀ step, Decidable (StaleKeysIdle env s step)
  | .call .poll => inferInstanceAs (Decidable (∀ fed ∈ polledRecords env s, fed.1.StaleKey →
    dispatchedActions fed.2 fed.1.event = []))
  | .call (.beginMediaSession _) | .call (.setMediaSessionSnapshot _) | .call .endMediaSession
  | .call .releaseTransport | .call .close | .publish _ | .start | .stop => isTrue trivial

instance (s : QueuedStage Ω) : ∀ step, Decidable (BegunUnstale s step)
  | .call (.beginMediaSession options) =>
    inferInstanceAs (Decidable (options.mediaRouting → Unstale s.world.driver))
  | .call .poll | .call (.setMediaSessionSnapshot _) | .call .endMediaSession
  | .call .releaseTransport | .call .close | .publish _ | .start | .stop => isTrue trivial

/-- A driver and a sink that do what they are told. -/
def willingDriver : AvrcpObserverEnvironment Unit where
  ensureVolume world := (true, world)
  setWindowsVolume _ world := (true, world)
  queryWindowsVolume world := (none, world)
  windowsVolumeNotificationsActive world := (true, world)
  consumeWindowsVolumeChange world := (none, world)
  injectVirtualKey _ world := (true, world)
  writeAvrcp _ _ _ world := (true, world)
  getTickCount world := (0, world)
  openReadOnly world := (.ok (), world)
  openReadWrite world := (.ok (), world)
  closeDriver world := ((), world)
  getVersion world := (.ok ⟨sizeofAbiVersion, abiMajor, abiMinor⟩, world)
  getStatus world := (.ok
    { size := sizeofStatus
      flags := statusOutboundOpen ||| statusActivationRequested
      aclGeneration := 1 }, world)
  beginObservation world := (.ok (), world)
  dequeueEvent world := (.ok {}, world)

def plainDriver : QueuedEnvironment Unit where
  outer := willingDriver
  publishes world := ([], world)

def playingOptions : V1AvrcpReplayOptions where
  aclGeneration := 1
  mediaSession := { aclGeneration := 1, playback := .playing, pauseEnabled := true }

def pausePress : NldAvrcpObserverEvent := { type := .passThrough, value0 := 0x46 }

/-- A press of PAUSE in the first session and one between the sessions, which is polled in
    the second. -/
def pauseBetween : List QueuedStep :=
  [.start, .call (.beginMediaSession playingOptions), .publish pausePress, .call .poll,
    .call .endMediaSession, .publish pausePress, .call (.beginMediaSession playingOptions),
    .call .poll]

end NativeLdac.Sideband
