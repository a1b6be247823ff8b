/-
  The writes that the Windows sink tries again.

  A refused write waits in its slot of the sink, while the authorization it
  needs waits in the mapper.  `Sound` says that the two agree; it is kept by
  everything the hosts do, but for the operations of the mapper that disturb a
  pending write (`Disturbs`): those that take its authorization away, and the
  Windows volumes that replace the volume it has and are not sent on.
-/
import NativeLdac.Agent.AvrcpExecutor
import NativeLdac.Agent.AvrcpMapperSends
import NativeLdac.Agent.VolumeGate

namespace NativeLdac.Agent

open AvrcpStage V1AvrcpControlMapperState

/-! ## Retries in a log -/

/-- The mode that writes of the slot need. -/
def PendingSlot.enabled (mapper : V1AvrcpControlMapperState) : PendingSlot → Bool
  | .windowsVolume | .xm5Volume => mapper.volumeSyncEnabled
  | .playbackStatus => mapper.mediaRoutingEnabled

/-- The generation and the lease are held, and the mode of the slot is on. -/
structure Held (mapper : V1AvrcpControlMapperState) (slot : PendingSlot)
    (aclGeneration ownerLease : UInt64) : Prop where
  current : mapper.isCurrentGeneration aclGeneration
  lease : ownerLease ≠ 0 ∧ mapper.ownerLease = ownerLease
  enabled : slot.enabled mapper

/-- The projection of the Windows volume that the gate observed last. -/
def projectedVolume (mapper : V1AvrcpControlMapperState) : Nat :=
  projectWindowsVolumeToXm5 mapper.absoluteVolume.lastWindowsVolume

/-- The write that the slot kept last, with the generation and the lease of its
    action. -/
def lastKept (slot : PendingSlot) : List AvrcpMoment → Option (PendingWrite × UInt64 × UInt64)
  | [] => none
  | .kept write aclGeneration ownerLease :: earlier =>
    if write.slot = slot then some (write, aclGeneration, ownerLease) else lastKept slot earlier
  | _ :: earlier => lastKept slot earlier

/-- The retry of a write is timely: the write is the one that its slot kept last,
    for an action whose authorization is held still, and a headset volume is
    the projection of the Windows volume observed last. -/
def Timely (write : PendingWrite) (mapper : V1AvrcpControlMapperState)
    (earlier : List AvrcpMoment) : Prop :=
  (∃ aclGeneration ownerLease,
    lastKept write.slot earlier = some (write, aclGeneration, ownerLease) ∧
      Held mapper write.slot aclGeneration ownerLease) ∧
  ∀ volume, write = .xm5Volume volume → volume = projectedVolume mapper

/-- **Retried writes are never stale.** -/
def RetriesTimely : List AvrcpMoment → Prop
  | [] => True
  | .retried write mapper :: earlier => Timely write mapper earlier ∧ RetriesTimely earlier
  | _ :: earlier => RetriesTimely earlier

section
variable (mapper : V1AvrcpControlMapperState) (write : PendingWrite) (earlier : List AvrcpMoment)

instance (slot : PendingSlot) (g lease : UInt64) : Decidable (Held mapper slot g lease) :=
  decidable_of_iff (mapper.isCurrentGeneration g ∧ (lease ≠ 0 ∧ mapper.ownerLease = lease) ∧
    slot.enabled mapper) ⟨fun ⟨hc, hl, he⟩ => ⟨hc, hl, he⟩, fun ⟨hc, hl, he⟩ => ⟨hc, hl, he⟩⟩

instance : Decidable (∃ g lease, lastKept write.slot earlier = some (write, g, lease) ∧
    Held mapper write.slot g lease) :=
  match lastKept write.slot earlier with
  | none => isFalse fun ⟨_, _, h, _⟩ => nomatch h
  | some (kept, g, lease) =>
    decidable_of_iff (kept = write ∧ Held mapper write.slot g lease)
      ⟨fun ⟨hkept, hheld⟩ => ⟨g, lease, by rw [hkept], hheld⟩,
        fun ⟨_, _, hkept, hheld⟩ => by cases hkept; exact ⟨rfl, hheld⟩⟩

instance : Decidable (∀ volume, write = .xm5Volume volume → volume = projectedVolume mapper) :=
  match write with
  | .xm5Volume volume => decidable_of_iff (volume = projectedVolume mapper)
      ⟨fun h _ heq => by cases heq; exact h, fun h => h volume rfl⟩
  | .windowsVolume _ | .playbackStatus _ => isTrue nofun

instance : Decidable (Timely write mapper earlier) :=
  inferInstanceAs (Decidable (_ ∧ _))

end

def RetriesTimely.decide : ∀ log, Decidable (RetriesTimely log)
  | [] => isTrue trivial
  | .retried _ _ :: earlier => @instDecidableAnd _ _ _ (RetriesTimely.decide earlier)
  | .kept _ _ _ :: earlier => RetriesTimely.decide earlier
  | .mapped _ _ _ _ :: earlier => RetriesTimely.decide earlier

instance : DecidablePred RetriesTimely := RetriesTimely.decide

/-! ## Disturbances -/

/-- The operation takes the authorization of the slot's writes away. -/
def Withdraws (mapper : V1AvrcpControlMapperState) (slot : PendingSlot) : V1AvrcpMapperOp → Prop
  | .endAclGeneration g => mapper.isCurrentGeneration g
  | .setControlMode g volumeSync mediaRouting => mapper.isCurrentGeneration g ∧
    match slot with
    | .windowsVolume | .xm5Volume => ¬ volumeSync
    | .playbackStatus => ¬ mediaRouting
  | .revokeOwnerLease g lease =>
    mapper.isCurrentGeneration g ∧ lease ≠ 0 ∧ mapper.ownerLease = lease
  | _ => False

/-- The operation observes a Windows volume that projects to another headset
    volume than the pending one, and that is not sent on: its action set is
    thrown away, or has no headset volume. -/
def Supersedes (mapper : V1AvrcpControlMapperState) (pending : Nat) (dispatched : Bool) :
    V1AvrcpMapperOp → Prop
  | .observeWindowsVolume g observed => mapper.isCurrentGeneration g ∧
    projectWindowsVolumeToXm5 observed ≠ pending ∧
    ¬ (dispatched ∧
      v1AvrcpHasAction (v1AvrcpObserveWindowsVolume mapper g observed).1 .sendXm5Volume)
  | _ => False

/-- A moment at which an operation of the mapper disturbs a pending write. -/
def Disturbs : AvrcpMoment → Prop
  | .mapped mapper sink op dispatched =>
    (∃ slot, (sink.pending slot).isSome ∧ Withdraws mapper slot op) ∨
      ∃ volume, sink.pendingXm5Volume = some volume ∧ Supersedes mapper volume dispatched op
  | _ => False

instance (mapper : V1AvrcpControlMapperState) (slot : PendingSlot) (op : V1AvrcpMapperOp) :
    Decidable (Withdraws mapper slot op) :=
  match op, slot with
  | .endAclGeneration _, _ => inferInstanceAs (Decidable (_ = true))
  | .setControlMode _ _ _, .windowsVolume | .setControlMode _ _ _, .xm5Volume
  | .setControlMode _ _ _, .playbackStatus => inferInstanceAs (Decidable (_ ∧ _))
  | .revokeOwnerLease _ _, _ => inferInstanceAs (Decidable (_ ∧ _ ∧ _))
  | .beginAclGeneration _, _ | .acquireOwnerLease _ _, _ | .observeVolumeCapability _ _, _
  | .observeWindowsVolume _ _, _ | .observeXm5AbsoluteVolume _ _ _, _
  | .observePassThrough _ _ _, _ | .setMediaSessionSnapshot _, _ => isFalse id

instance (mapper : V1AvrcpControlMapperState) (pending : Nat) (dispatched : Bool)
    (op : V1AvrcpMapperOp) : Decidable (Supersedes mapper pending dispatched op) :=
  match op with
  | .observeWindowsVolume _ _ => inferInstanceAs (Decidable (_ ∧ _ ∧ ¬ _))
  | .beginAclGeneration _ | .endAclGeneration _ | .setControlMode _ _ _
  | .acquireOwnerLease _ _ | .revokeOwnerLease _ _ | .observeVolumeCapability _ _
  | .observeXm5AbsoluteVolume _ _ _ | .observePassThrough _ _ _
  | .setMediaSessionSnapshot _ => isFalse id

instance (p : PendingSlot → Prop) [DecidablePred p] : Decidable (∃ slot, p slot) :=
  decidable_of_iff (p .windowsVolume ∨ p .xm5Volume ∨ p .playbackStatus)
    ⟨fun h => h.elim (⟨_, ·⟩) fun h => h.elim (⟨_, ·⟩) (⟨_, ·⟩),
      fun ⟨slot, h⟩ => match slot with
        | .windowsVolume => .inl h
        | .xm5Volume => .inr (.inl h)
        | .playbackStatus => .inr (.inr h)⟩

instance (mapper : V1AvrcpControlMapperState) (sink : V1AvrcpWindowsSink) (op : V1AvrcpMapperOp)
    (dispatched : Bool) : Decidable
      (∃ volume, sink.pendingXm5Volume = some volume ∧ Supersedes mapper volume dispatched op) :=
  inferInstanceAs (Decidable (∃ volume ∈ sink.pendingXm5Volume, _))

instance : DecidablePred Disturbs
  | .mapped _ _ _ _ => inferInstanceAs (Decidable (_ ∨ _))
  | .kept _ _ _ | .retried _ _ => isFalse id

/-- No operation of the mapper disturbs a pending write. -/
def Undisturbed (log : List AvrcpMoment) : Prop := ∀ moment ∈ log, ¬ Disturbs moment

instance (log : List AvrcpMoment) : Decidable (Undisturbed log) :=
  inferInstanceAs (Decidable (∀ moment ∈ log, _))

theorem Undisturbed.tail {moment : AvrcpMoment} {log : List AvrcpMoment}
    (h : Undisturbed (moment :: log)) : Undisturbed log :=
  fun m hm => h m (List.mem_cons_of_mem _ hm)

/-! ## The mapper -/

/-- Any operation but the beginning of a generation. -/
def Continues : V1AvrcpMapperOp → Prop
  | .beginAclGeneration _ => False
  | _ => True

variable {m : V1AvrcpControlMapperState} {op : V1AvrcpMapperOp} {actions : V1AvrcpActionSet}
variable {s : AvrcpAbsoluteVolumeGateState}

theorem not_repeats_of_continues (h : Continues op) : ¬ RepeatsGeneration m op := by
  cases op with
  | beginAclGeneration g => exact h.elim
  | _ => exact id

theorem synced_of_continues (hs : m.Synced) (h : Continues op) :
    (avrcpMapper.next m op).Synced :=
  synced_step hs (not_repeats_of_continues h)

theorem Held.congr {m' : V1AvrcpControlMapperState} {slot : PendingSlot} {g lease : UInt64}
    (h : Held m slot g lease) (hmedia : m'.mediaAuthorization = m.mediaAuthorization)
    (hvolume : m'.volumeAuthorization = m.volumeAuthorization) : Held m' slot g lease := by
  simp only [mediaAuthorization, volumeAuthorization, Authorization.mk.injEq] at hmedia hvolume
  obtain ⟨hcur, ⟨hz, hlease⟩, hon⟩ := h
  refine ⟨?_, ⟨hz, hmedia.2.2.1.trans hlease⟩, ?_⟩
  · rw [isCurrentGeneration_iff] at hcur ⊢
    rw [hmedia.1, hmedia.2.1]
    exact hcur
  · cases slot with
    | windowsVolume => exact hvolume.2.2.2.trans hon
    | xm5Volume => exact hvolume.2.2.2.trans hon
    | playbackStatus => exact hmedia.2.2.2.trans hon

theorem Held.untouched {m' : V1AvrcpControlMapperState} {slot : PendingSlot} {g lease : UInt64}
    (h : Held m slot g lease) (hu : Untouched m m') : Held m' slot g lease :=
  h.congr hu.media hu.volume

theorem acquire_held (hs : m.Synced) (g lease : UInt64) (h : m.ownerLease ≠ 0) :
    (v1AvrcpAcquireOwnerLease m g lease).2.mediaAuthorization = m.mediaAuthorization ∧
      (v1AvrcpAcquireOwnerLease m g lease).2.volumeAuthorization = m.volumeAuthorization := by
  have hgate := congrArg Authorization.ownerLease
    (AvrcpAbsoluteVolumeGateState.acquire_authorization m.absoluteVolume g lease)
  rw [hs.absoluteVolume, Authorization.acquire] at hgate
  unfold v1AvrcpAcquireOwnerLease
  dsimp only
  split_ifs with hrefused hother
  · exact ⟨rfl, rfl⟩
  · exact ⟨rfl, rfl⟩
  · rw [not_or, not_not, not_not] at hother
    have hlease : lease = m.ownerLease := by
      by_contra hne
      rw [if_pos (.inr (.inr ⟨h, Ne.symm hne⟩))] at hgate
      exact hne (hother.2.symm.trans hgate)
    rw [hlease]
    exact ⟨rfl, rfl⟩

theorem held_step (hs : m.Synced) (hc : Continues op) {slot : PendingSlot} {g lease : UInt64}
    (h : Held m slot g lease) (hw : ¬ Withdraws m slot op) :
    Held (avrcpMapper.next m op) slot g lease := by
  cases op with
  | beginAclGeneration g' => exact hc.elim
  | endAclGeneration g' =>
    have hcur : ¬ m.isCurrentGeneration g' := hw
    simp only [Reducer.next, avrcpMapper, v1AvrcpEndAclGeneration]
    rw [if_pos hcur]
    exact h
  | setControlMode g' volumeSync mediaRouting =>
    simp only [Reducer.next, avrcpMapper, v1AvrcpSetControlMode]
    by_cases hcur : m.isCurrentGeneration g'
    · rw [if_neg (not_not.mpr hcur)]
      refine ⟨h.current, h.lease, ?_⟩
      have hmode := not_and.mp hw hcur
      cases slot with
      | windowsVolume => exact not_not.mp hmode
      | xm5Volume => exact not_not.mp hmode
      | playbackStatus => exact not_not.mp hmode
    · rw [if_pos hcur]
      exact h
  | acquireOwnerLease g' lease' =>
    have hnz : m.ownerLease ≠ 0 := by
      rw [h.lease.2]
      exact h.lease.1
    obtain ⟨hmedia, hvolume⟩ := acquire_held hs g' lease' hnz
    exact h.congr hmedia hvolume
  | revokeOwnerLease g' lease' =>
    have hno : ¬ (m.isCurrentGeneration g' ∧ lease' ≠ 0 ∧ m.ownerLease = lease') := hw
    simp only [Reducer.next, avrcpMapper, v1AvrcpRevokeOwnerLease]
    rw [if_pos]
    · exact h
    · by_contra hall
      rw [not_or, not_or, not_not, not_not] at hall
      exact hno hall
  | _ => exact h.untouched (untouched_observation trivial)

/-! ### The last Windows volume -/

theorem projectWindowsVolumeToXm5_clamp (volume : AvrcpWindowsVolume) :
    projectWindowsVolumeToXm5 (clampWindowsVolume volume) = projectWindowsVolumeToXm5 volume := by
  unfold projectWindowsVolumeToXm5 clampWindowsVolume windowsPercentToXm5AbsoluteVolume
  have hzero : min volume.percent 100 = 0 ↔ volume.percent = 0 := by omega
  have hmin : min (min volume.percent 100) 100 = min volume.percent 100 := by omega
  simp only [hzero, hmin]

/-- The Windows volume that an operation makes the gate observe. -/
def observedBy (m : V1AvrcpControlMapperState) : V1AvrcpMapperOp → Option AvrcpWindowsVolume
  | .observeWindowsVolume g observed => if m.isCurrentGeneration g then some observed else none
  | _ => none

theorem activate_lastWindowsVolume (s : AvrcpAbsoluteVolumeGateState) :
    (activateGateIfAuthorized s).2.lastWindowsVolume = s.lastWindowsVolume := by
  unfold activateGateIfAuthorized
  split_ifs <;> rfl

theorem projectedVolume_step (hs : m.Synced) (hc : Continues op) :
    projectedVolume (avrcpMapper.next m op) =
      match observedBy m op with
      | some observed => projectWindowsVolumeToXm5 observed
      | none => projectedVolume m := by
  cases op with
  | beginAclGeneration g => exact hc.elim
  | observeWindowsVolume g observed =>
    simp only [observedBy, Reducer.next, avrcpMapper, v1AvrcpObserveWindowsVolume]
    by_cases hcur : m.isCurrentGeneration g
    · rw [if_neg (not_not.mpr hcur), if_pos hcur]
      have hgate := (hs.follows.isCurrentAclGeneration g).trans hcur
      simp only [projectedVolume, observeWindowsEndpointVolumeThroughGate]
      rw [if_neg (not_not.mpr hgate), ← projectWindowsVolumeToXm5_clamp observed]
      split_ifs
      · rfl
      · rw [activate_lastWindowsVolume]
      · rfl
    · rw [if_pos hcur, if_neg hcur]
  | endAclGeneration g =>
    simp only [observedBy, projectedVolume, Reducer.next, avrcpMapper, v1AvrcpEndAclGeneration,
      endAvrcpAbsoluteVolumeAclGeneration]
    split_ifs <;> rfl
  | setControlMode g volumeSync mediaRouting =>
    simp only [observedBy, projectedVolume, Reducer.next, avrcpMapper, v1AvrcpSetControlMode,
      setAvrcpAbsoluteVolumeGateMode]
    split_ifs <;> first | rfl | rw [activate_lastWindowsVolume]
  | acquireOwnerLease g lease =>
    simp only [observedBy, projectedVolume, Reducer.next, avrcpMapper, v1AvrcpAcquireOwnerLease,
      acquireAvrcpAbsoluteVolumeOwnerLease]
    split_ifs <;> first | rfl | rw [activate_lastWindowsVolume]
  | revokeOwnerLease g lease =>
    simp only [observedBy, projectedVolume, Reducer.next, avrcpMapper, v1AvrcpRevokeOwnerLease,
      revokeAvrcpAbsoluteVolumeOwnerLease]
    split_ifs <;> rfl
  | observeVolumeCapability g supported =>
    simp only [observedBy, projectedVolume, Reducer.next, avrcpMapper,
      v1AvrcpObserveVolumeCapability, observeAvrcpAbsoluteVolumeCapability]
    split_ifs <;> first | rfl | rw [activate_lastWindowsVolume]
  | observeXm5AbsoluteVolume g volume event =>
    simp only [observedBy, projectedVolume, Reducer.next, avrcpMapper,
      v1AvrcpObserveXm5AbsoluteVolume, adoptXm5Volume, observeXm5AbsoluteVolumeThroughGate]
    split_ifs <;> rfl
  | observePassThrough g id released =>
    simp only [observedBy, projectedVolume, Reducer.next, avrcpMapper, v1AvrcpObservePassThrough,
      updatePlaybackState]
    split_ifs <;> rfl
  | setMediaSessionSnapshot snapshot =>
    simp only [observedBy, projectedVolume, Reducer.next, avrcpMapper,
      v1AvrcpSetMediaSessionSnapshot]
    split_ifs <;> rfl

/-! ### Action sets -/

@[simp] theorem hasAction_add (actions : V1AvrcpActionSet) (x y : V1AvrcpAction) :
    v1AvrcpHasAction (actions.add x) y ↔ y = x ∨ v1AvrcpHasAction actions y := by
  simp [v1AvrcpHasAction, V1AvrcpActionSet.add]

@[simp] theorem hasAction_request (actions : V1AvrcpActionSet) (x y : V1AvrcpAction)
    (playback : V1AvrcpPlaybackState) :
    v1AvrcpHasAction (actions.request x playback) y ↔ y = x ∨ v1AvrcpHasAction actions y :=
  hasAction_add actions x y

@[simp] theorem not_hasAction_snapshot (x : V1AvrcpAction) :
    ¬ v1AvrcpHasAction m.snapshot x := by
  simp [v1AvrcpHasAction, snapshot]

@[simp] theorem not_hasAction_none (x : V1AvrcpAction) : ¬ v1AvrcpHasAction {} x := by
  simp [v1AvrcpHasAction]

/-- The action set asks for the volume that the gate projects, and for what the
    modes and the lease of the mapper allow. -/
structure Warranted (m : V1AvrcpControlMapperState) (actions : V1AvrcpActionSet) : Prop where
  authorized : actions.authorizedCurrent →
    actions.aclGeneration = m.aclGeneration ∧ m.aclGenerationCurrent ∧ m.ownerLease ≠ 0
  volume : v1AvrcpHasAction actions .setWindowsVolume ∨ v1AvrcpHasAction actions .sendXm5Volume →
    m.volumeSyncEnabled
  status : v1AvrcpHasAction actions .notifyPlaybackStatus → m.mediaRoutingEnabled
  sends : v1AvrcpHasAction actions .sendXm5Volume →
    actions.authorizedCurrent ∧ actions.xm5AbsoluteVolume = projectedVolume m

/-- An action set with the mapper's snapshot, and none of the actions that wait
    for a retry. -/
structure Idle (m : V1AvrcpControlMapperState) (actions : V1AvrcpActionSet) : Prop where
  aclGeneration : actions.aclGeneration = m.aclGeneration
  authorized : actions.authorizedCurrent = m.snapshot.authorizedCurrent
  windows : ¬ v1AvrcpHasAction actions .setWindowsVolume
  xm5 : ¬ v1AvrcpHasAction actions .sendXm5Volume
  status : ¬ v1AvrcpHasAction actions .notifyPlaybackStatus

theorem idle_snapshot : Idle m m.snapshot :=
  ⟨rfl, rfl, not_hasAction_snapshot _, not_hasAction_snapshot _, not_hasAction_snapshot _⟩

/-- The actions that wait for no retry. -/
def V1AvrcpAction.passes : V1AvrcpAction → Bool
  | .setWindowsVolume | .sendXm5Volume | .notifyPlaybackStatus => false
  | _ => true

theorem Idle.add (h : Idle m actions) {x : V1AvrcpAction} (hx : x.passes) :
    Idle m (actions.add x) := by
  refine ⟨h.aclGeneration, h.authorized, ?_, ?_, ?_⟩
  all_goals rw [hasAction_add, not_or]
  all_goals constructor
  · rintro rfl
    cases hx
  · exact h.windows
  · rintro rfl
    cases hx
  · exact h.xm5
  · rintro rfl
    cases hx
  · exact h.status

theorem Idle.request (h : Idle m actions) {x : V1AvrcpAction} (hx : x.passes)
    (playback : V1AvrcpPlaybackState) : Idle m (actions.request x playback) := by
  have ha := h.add hx
  exact ⟨ha.aclGeneration, ha.authorized, ha.windows, ha.xm5, ha.status⟩

theorem Idle.ite {c : Prop} [Decidable c] {a b : V1AvrcpActionSet} (ha : Idle m a)
    (hb : Idle m b) : Idle m (if c then a else b) := by
  split
  · exact ha
  · exact hb

theorem Idle.warranted (h : Idle m actions) :
    Warranted m actions where
  authorized ha := by
    rw [h.authorized, snapshot, decide_eq_true_eq] at ha
    exact ⟨h.aclGeneration, ha⟩
  volume hv := absurd hv (not_or.mpr ⟨h.windows, h.xm5⟩)
  status hn := absurd hn h.status
  sends hx := absurd hx h.xm5

theorem warranted_none : Warranted m {} where
  authorized := nofun
  volume h := absurd h (by simp)
  status h := absurd h (by simp)
  sends h := absurd h (by simp)

/-! ### Decisions of the gate -/

theorem not_hasVolumeAction_none (x : AvrcpAbsoluteVolumeAction) :
    ¬ hasAvrcpAbsoluteVolumeAction {} x := by
  simp [hasAvrcpAbsoluteVolumeAction]

theorem actions_ne_zero {d : AvrcpAbsoluteVolumeDecision} {x : AvrcpAbsoluteVolumeAction}
    (h : hasAvrcpAbsoluteVolumeAction d x) : d.actions ≠ 0 := by
  intro hz
  unfold hasAvrcpAbsoluteVolumeAction at h
  rw [hz] at h
  simp at h

theorem gate_issued (gateOp : AvrcpAbsoluteVolumeGateOp)
    (h : (absoluteVolumeGate.out s gateOp).volume.actions ≠ 0) :
    gateCanSynchronize (absoluteVolumeGate.next s gateOp) := by
  have heffect := gate_effect s gateOp
  unfold Reducer.out at h
  unfold Reducer.next
  generalize absoluteVolumeGate.step s gateOp = r at h heffect ⊢
  cases heffect with
  | revoked _ => exact absurd rfl h
  | kept _ _ hissued => exact (hissued h).1

theorem authorized_of_canSynchronize (hs : m.Synced)
    (h : gateCanSynchronize m.absoluteVolume) :
    m.snapshot.authorizedCurrent ∧ m.volumeSyncEnabled := by
  unfold gateCanSynchronize at h
  rw [decide_eq_true_eq] at h
  have hc : m.aclGenerationCurrent = true := hs.follows.absoluteVolumeCurrent.symm.trans h.1
  obtain ⟨-, -, -, hlease, hmode, -⟩ := hs.gatesAgree hc
  refine ⟨?_, hmode.mp h.2.2.2.1⟩
  rw [snapshot, decide_eq_true_eq, ← hlease]
  exact ⟨hc, h.2.2.1⟩

theorem observeWindows_sends {s : AvrcpAbsoluteVolumeState} {g : UInt64}
    {volume : AvrcpWindowsVolume}
    (h : hasAvrcpAbsoluteVolumeAction (observeWindowsEndpointVolume s g volume).1
      .sendXm5AbsoluteVolume) :
    (observeWindowsEndpointVolume s g volume).1.xm5AbsoluteVolume =
      projectWindowsVolumeToXm5 volume := by
  rw [← projectWindowsVolumeToXm5_clamp volume]
  unfold observeWindowsEndpointVolume sendAuthoritativeWindowsVolume at h ⊢
  dsimp only at h ⊢
  split_ifs at h ⊢ <;> first | rfl | exact absurd h (not_hasVolumeAction_none _)

theorem observeXm5_sends_nothing {s : AvrcpAbsoluteVolumeState} {g : UInt64} {volume : Nat}
    {event : AvrcpXm5VolumeEvent} :
    ¬ hasAvrcpAbsoluteVolumeAction (observeXm5AbsoluteVolume s g volume event).1
      .sendXm5AbsoluteVolume := by
  unfold observeXm5AbsoluteVolume
  dsimp only
  split_ifs <;> simp [hasAvrcpAbsoluteVolumeAction, AvrcpAbsoluteVolumeAction.bit]
  decide

theorem observeWindows_sets_nothing {s : AvrcpAbsoluteVolumeState} {g : UInt64}
    {volume : AvrcpWindowsVolume} :
    ¬ hasAvrcpAbsoluteVolumeAction (observeWindowsEndpointVolume s g volume).1
      .setWindowsEndpoint := by
  unfold observeWindowsEndpointVolume sendAuthoritativeWindowsVolume
  dsimp only
  split_ifs <;> simp [hasAvrcpAbsoluteVolumeAction, AvrcpAbsoluteVolumeAction.bit] <;> decide

theorem activate_sets_nothing :
    ¬ hasAvrcpAbsoluteVolumeAction (activateGateIfAuthorized s).1.volume .setWindowsEndpoint := by
  by_cases hs : Starts s
  · rw [activate_of_starts hs, beginSession_fresh (ne_zero_of_gateCanSynchronize hs.1)]
    simp [hasAvrcpAbsoluteVolumeAction, AvrcpAbsoluteVolumeAction.bit]
    decide
  · rw [activate_of_not_starts hs]
    exact not_hasVolumeAction_none _

theorem activate_sends
    (h : hasAvrcpAbsoluteVolumeAction (activateGateIfAuthorized s).1.volume
      .sendXm5AbsoluteVolume) :
    (activateGateIfAuthorized s).1.volume.xm5AbsoluteVolume =
      projectWindowsVolumeToXm5 s.lastWindowsVolume := by
  by_cases hs : Starts s
  · rw [activate_of_starts hs, beginSession_fresh (ne_zero_of_gateCanSynchronize hs.1)]
    exact projectWindowsVolumeToXm5_clamp _
  · rw [activate_of_not_starts hs] at h
    exact absurd h (not_hasVolumeAction_none _)

theorem authorize_sends {d : AvrcpAbsoluteVolumeDecision} {x : AvrcpAbsoluteVolumeAction}
    (h : hasAvrcpAbsoluteVolumeAction (authorizeGateDecision s d).volume x) :
    (authorizeGateDecision s d).volume = d ∧ hasAvrcpAbsoluteVolumeAction d x := by
  unfold authorizeGateDecision at h ⊢
  split_ifs at h ⊢
  · exact absurd h (not_hasVolumeAction_none _)
  · exact ⟨rfl, h⟩

theorem gate_sends (gateOp : AvrcpAbsoluteVolumeGateOp)
    (h : hasAvrcpAbsoluteVolumeAction (absoluteVolumeGate.out s gateOp).volume
      .sendXm5AbsoluteVolume) :
    (absoluteVolumeGate.out s gateOp).volume.xm5AbsoluteVolume =
      projectWindowsVolumeToXm5 (absoluteVolumeGate.next s gateOp).lastWindowsVolume := by
  have hnone : ∀ {p : Prop}, hasAvrcpAbsoluteVolumeAction {} .sendXm5AbsoluteVolume → p :=
    fun h => absurd h (not_hasVolumeAction_none _)
  cases gateOp with
  | beginAcl g =>
    simp only [Reducer.out, absoluteVolumeGate, beginAvrcpAbsoluteVolumeAclGeneration] at h
    split_ifs at h <;> exact hnone h
  | setMode g mode =>
    simp only [Reducer.out, Reducer.next, absoluteVolumeGate,
      setAvrcpAbsoluteVolumeGateMode] at h ⊢
    split_ifs at h ⊢
    · exact hnone h
    · rw [activate_lastWindowsVolume]
      exact activate_sends h
    · exact hnone h
  | acquireLease g lease =>
    simp only [Reducer.out, Reducer.next, absoluteVolumeGate,
      acquireAvrcpAbsoluteVolumeOwnerLease] at h ⊢
    split_ifs at h ⊢
    · exact hnone h
    · rw [activate_lastWindowsVolume]
      exact activate_sends h
  | revokeLease g lease =>
    simp only [Reducer.out, absoluteVolumeGate, revokeAvrcpAbsoluteVolumeOwnerLease] at h
    split_ifs at h <;> exact hnone h
  | observeCapability g support =>
    simp only [Reducer.out, Reducer.next, absoluteVolumeGate,
      observeAvrcpAbsoluteVolumeCapability] at h ⊢
    split_ifs at h ⊢
    · exact hnone h
    · rw [activate_lastWindowsVolume]
      exact activate_sends h
    · exact hnone h
  | observeWindows g volume =>
    simp only [Reducer.out, Reducer.next, absoluteVolumeGate,
      observeWindowsEndpointVolumeThroughGate] at h ⊢
    split_ifs at h ⊢
    · obtain ⟨heq, hsends⟩ := authorize_sends h
      rw [heq]
      exact observeWindows_sends hsends
    · rw [activate_lastWindowsVolume]
      exact activate_sends h
    · exact hnone h
    · exact hnone h
  | observeXm5 g volume event =>
    simp only [Reducer.out, absoluteVolumeGate, observeXm5AbsoluteVolumeThroughGate] at h
    split_ifs at h
    · exact hnone h
    · exact hnone h
    · exact absurd (authorize_sends h).2 observeXm5_sends_nothing
  | endAcl g =>
    simp only [Reducer.out, absoluteVolumeGate, endAvrcpAbsoluteVolumeAclGeneration] at h
    split_ifs at h <;> exact hnone h

/-! ### What the mapper's action sets ask for -/

theorem mergeVolumeActions_has (actions : V1AvrcpActionSet) (d : AvrcpAbsoluteVolumeGateDecision)
    (x : V1AvrcpAction) :
    v1AvrcpHasAction (mergeVolumeActions actions d) x ↔ v1AvrcpHasAction actions x ∨
      (x = .setWindowsVolume ∧ hasAvrcpAbsoluteVolumeAction d.volume .setWindowsEndpoint) ∨
      (x = .sendXm5Volume ∧ hasAvrcpAbsoluteVolumeAction d.volume .sendXm5AbsoluteVolume) := by
  unfold mergeVolumeActions
  dsimp only
  split_ifs with hw hx hx
  all_goals simp only [v1AvrcpHasAction, V1AvrcpActionSet.add, List.mem_insert_iff,
    decide_eq_true_eq, hw, hx]
  all_goals tauto

theorem warranted_merge (hs : m.Synced) {d : AvrcpAbsoluteVolumeGateDecision}
    (hissued : d.volume.actions ≠ 0 → gateCanSynchronize m.absoluteVolume)
    (hsends : hasAvrcpAbsoluteVolumeAction d.volume .sendXm5AbsoluteVolume →
      d.volume.xm5AbsoluteVolume = projectedVolume m) :
    Warranted m (mergeVolumeActions m.snapshot d) := by
  have hfields : (mergeVolumeActions m.snapshot d).aclGeneration = m.aclGeneration ∧
      (mergeVolumeActions m.snapshot d).authorizedCurrent = m.snapshot.authorizedCurrent := by
    unfold mergeVolumeActions
    dsimp only
    split_ifs <;> exact ⟨rfl, rfl⟩
  have hvolume : v1AvrcpHasAction (mergeVolumeActions m.snapshot d) .setWindowsVolume ∨
      v1AvrcpHasAction (mergeVolumeActions m.snapshot d) .sendXm5Volume →
      m.snapshot.authorizedCurrent ∧ m.volumeSyncEnabled := by
    intro h
    refine authorized_of_canSynchronize hs (hissued ?_)
    rw [mergeVolumeActions_has, mergeVolumeActions_has] at h
    simp only [not_hasAction_snapshot, false_or, true_and, reduceCtorEq, false_and,
      or_false] at h
    rcases h with h | h
    · exact actions_ne_zero h
    · exact actions_ne_zero h
  refine ⟨fun h => ?_, fun h => (hvolume h).2, fun h => ?_, fun h => ?_⟩
  · rw [hfields.2, snapshot, decide_eq_true_eq] at h
    exact ⟨hfields.1, h⟩
  · rw [mergeVolumeActions_has] at h
    simp at h
  · have hd := (mergeVolumeActions_has _ _ _).mp h
    simp only [not_hasAction_snapshot, false_or, true_and, reduceCtorEq, false_and] at hd
    refine ⟨hfields.2.trans (hvolume (.inr h)).1, ?_⟩
    rw [← hsends hd]
    unfold mergeVolumeActions
    rw [if_pos hd]

theorem warranted_filter (h : Warranted m actions) (m' : V1AvrcpControlMapperState) :
    Warranted m (filterHeadsetPreferredPush m' actions) := by
  unfold filterHeadsetPreferredPush
  split_ifs
  · exact h
  · have hless : ∀ x, v1AvrcpHasAction
        { actions with actions := actions.actions.erase .sendXm5Volume } x →
        v1AvrcpHasAction actions x := by
      intro x hx
      simp only [v1AvrcpHasAction, decide_eq_true_eq] at hx ⊢
      exact List.mem_of_mem_erase hx
    refine ⟨h.authorized, fun hv => h.volume ?_, fun hn => h.status (hless _ hn),
      fun hx => h.sends (hless _ hx)⟩
    exact hv.imp (hless _) (hless _)

theorem warranted_adopt (hs : m.Synced) (h : Warranted m actions) (volume : UInt8) :
    Warranted (adoptXm5Volume m actions volume).2 (adoptXm5Volume m actions volume).1 := by
  have hkept : Warranted (adoptXm5Volume m actions volume).2
      (filterHeadsetPreferredPush { m with xm5VolumeSeen := true } actions) := by
    have hf := warranted_filter h { m with xm5VolumeSeen := true }
    have heq : ∀ {P : V1AvrcpControlMapperState → Prop},
        P { m with
          xm5VolumeSeen := true
          absoluteVolume := { m.absoluteVolume with
            reducer := { m.absoluteVolume.reducer with
              lastXm5VolumeSent := (volume &&& 0x7F).toNat
              outboundEchoPending := false } } } →
        P (adoptXm5Volume m actions volume).2 := by
      intro P hP
      unfold adoptXm5Volume
      dsimp only
      split_ifs <;> exact hP
    exact heq (P := fun m' => Warranted m' _) ⟨hf.authorized, hf.volume, hf.status, hf.sends⟩
  unfold adoptXm5Volume at hkept ⊢
  dsimp only at hkept ⊢
  split_ifs at hkept ⊢ with hsync hlast
  · exact hkept
  · refine ⟨hkept.authorized, fun _ => ?_, fun hn => hkept.status ?_, fun hx => hkept.sends ?_⟩
    · have henabled := congrArg Authorization.enabled hs.absoluteVolume
      exact henabled.symm.trans (decide_eq_true hsync.2.1)
    · exact ((hasAction_add _ _ _).mp hn).resolve_left (by decide)
    · exact ((hasAction_add _ _ _).mp hx).resolve_left (by decide)
  · exact hkept

theorem idle_mergePassThrough (eligibility : V1MediaSessionEligibility) (h : Idle m actions)
    (d : AvrcpPassThroughDecision) :
    Idle m (mergePassThroughActions eligibility actions d) := by
  have hobserved : Idle m
      { actions with eventObserved := actions.eventObserved || d.eventObserved } :=
    ⟨h.aclGeneration, h.authorized, h.windows, h.xm5, h.status⟩
  have hup := Idle.ite (c := hasAvrcpPassThroughAction d .stepVolumeUp)
    (hobserved.add (x := .stepVolumeUp) rfl) hobserved
  have hdown := Idle.ite (c := hasAvrcpPassThroughAction d .stepVolumeDown)
    (hup.add (x := .stepVolumeDown) rfl) hup
  have hmute := Idle.ite (c := hasAvrcpPassThroughAction d .toggleMute)
    (hdown.add (x := .toggleMute) rfl) hdown
  have hplay := Idle.ite (c := eligibility.pauseEligible ∧ hasAvrcpPassThroughAction d .play)
    (hmute.request (x := .mediaPlayPause) rfl .paused)
    (Idle.ite (c := eligibility.playEligible ∧ hasAvrcpPassThroughAction d .play)
      (hmute.request (x := .mediaPlay) rfl .playing) hmute)
  have hpause := Idle.ite (c := eligibility.playEligible ∧ hasAvrcpPassThroughAction d .pause)
    (hplay.request (x := .mediaPlayPause) rfl .playing)
    (Idle.ite (c := eligibility.pauseEligible ∧ hasAvrcpPassThroughAction d .pause)
      (hplay.request (x := .mediaPause) rfl .paused) hplay)
  have hstop := Idle.ite (c := eligibility.sessionPresent ∧ hasAvrcpPassThroughAction d .stop)
    (hpause.request (x := .mediaStop) rfl .stopped) hpause
  have hnext := Idle.ite (c := eligibility.nextEligible ∧ hasAvrcpPassThroughAction d .nextTrack)
    (hstop.add (x := .mediaNextTrack) rfl) hstop
  exact Idle.ite (hnext.add rfl) hnext

theorem idle_updatePlaybackState (actions : V1AvrcpActionSet) {actions' : V1AvrcpActionSet}
    (h : Idle m actions') : Idle (updatePlaybackState m actions) actions' := by
  unfold updatePlaybackState
  split_ifs <;> exact ⟨h.aclGeneration, h.authorized, h.windows, h.xm5, h.status⟩

theorem warranted_step (hs : m.Synced) (hc : Continues op) :
    Warranted (avrcpMapper.next m op) (avrcpMapper.out m op) := by
  have hsynced := synced_of_continues hs hc
  cases op with
  | beginAclGeneration g => exact hc.elim
  | endAclGeneration g =>
    simp only [Reducer.next, Reducer.out, avrcpMapper, v1AvrcpEndAclGeneration]
    split_ifs
    · exact idle_snapshot.warranted
    · exact warranted_none
  | setControlMode g volumeSync mediaRouting =>
    simp only [Reducer.next, Reducer.out, avrcpMapper, v1AvrcpSetControlMode]
    by_cases hcur : m.isCurrentGeneration g
    · rw [if_neg (not_not.mpr hcur)]
      exact idle_snapshot.warranted
    · rw [if_pos hcur]
      exact warranted_none
  | acquireOwnerLease g lease =>
    simp only [Reducer.next, Reducer.out, avrcpMapper, v1AvrcpAcquireOwnerLease]
    split_ifs
    · exact warranted_none
    · exact warranted_none
    · exact idle_snapshot.warranted
  | revokeOwnerLease g lease =>
    simp only [Reducer.next, Reducer.out, avrcpMapper, v1AvrcpRevokeOwnerLease]
    split_ifs
    · exact warranted_none
    · exact idle_snapshot.warranted
  | observeVolumeCapability g supported =>
    simp only [Reducer.next, Reducer.out, avrcpMapper, v1AvrcpObserveVolumeCapability] at hsynced ⊢
    by_cases hcur : m.isCurrentGeneration g
    · rw [if_neg (not_not.mpr hcur)] at hsynced ⊢
      exact warranted_filter (warranted_merge hsynced (gate_issued (.observeCapability g _))
        (gate_sends (.observeCapability g _))) _
    · rw [if_pos hcur]
      exact warranted_none
  | observeWindowsVolume g observed =>
    simp only [Reducer.next, Reducer.out, avrcpMapper, v1AvrcpObserveWindowsVolume] at hsynced ⊢
    by_cases hcur : m.isCurrentGeneration g
    · rw [if_neg (not_not.mpr hcur)] at hsynced ⊢
      exact warranted_filter (warranted_merge hsynced (gate_issued (.observeWindows g observed))
        (gate_sends (.observeWindows g observed))) _
    · rw [if_pos hcur]
      exact warranted_none
  | observeXm5AbsoluteVolume g volume event =>
    simp only [Reducer.next, Reducer.out, avrcpMapper, v1AvrcpObserveXm5AbsoluteVolume]
    have hgate : Synced { m with absoluteVolume :=
        (observeXm5AbsoluteVolumeThroughGate m.absoluteVolume g volume.toNat event).2 } :=
      ⟨hs.nonzero, hs.passThrough,
        (AvrcpAbsoluteVolumeGateState.observeXm5_authorization _ _ _ _).trans hs.absoluteVolume⟩
    have hmerged := warranted_merge hgate (gate_issued (.observeXm5 g volume.toNat event))
      (gate_sends (.observeXm5 g volume.toNat event))
    split_ifs
    · exact warranted_adopt hgate hmerged volume
    · exact hmerged
    · exact warranted_none
  | observePassThrough g id released =>
    simp only [Reducer.next, Reducer.out, avrcpMapper, v1AvrcpObservePassThrough]
    split_ifs
    · refine (idle_updatePlaybackState _ (idle_mergePassThrough m.mediaEligibility ?_ _)).warranted
      exact idle_snapshot
    · exact warranted_none
  | setMediaSessionSnapshot snapshot =>
    simp only [Reducer.next, Reducer.out, avrcpMapper, v1AvrcpSetMediaSessionSnapshot]
    split_ifs with hcur hnotify
    · have hidle := idle_snapshot (m := m)
      refine ⟨fun h => ?_, fun h => ?_, fun _ => hnotify.1, fun h => ?_⟩
      · exact hidle.warranted.authorized h
      · simp at h
      · simp at h
    · exact idle_snapshot.warranted
    · exact warranted_none

end NativeLdac.Agent
