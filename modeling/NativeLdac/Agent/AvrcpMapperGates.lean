/-
  The three copies of the mapper's authorization: its own, the pass-through
  gate's and the absolute-volume gate's.

  `Authorization` is the machine all of them mean to be: one generation, one
  lease, one mode.  Both gates are this machine (`passThrough_authorization`,
  `absoluteVolume_authorization`); the mapper is, except when it begins its
  current generation again.
-/
import NativeLdac.Agent.AvrcpMapper
import NativeLdac.Agent.VolumeEcho
import Mathlib.Tactic.ByContra

namespace NativeLdac.Agent


/-! ## The authorization machine -/

/-- What allows actions: the ACL generation, whether it is current, the owner's
    lease, and whether the acting mode is on. -/
structure Authorization where
  aclGeneration : UInt64 := 0
  current : Bool := false
  ownerLease : UInt64 := 0
  enabled : Bool := false
  deriving DecidableEq, Repr

namespace Authorization

variable (a : Authorization)

def isCurrent (g : UInt64) : Bool := g ≠ 0 ∧ a.current ∧ a.aclGeneration = g

def begin_ (g : UInt64) : Authorization :=
  if ¬ isNewerGeneration g a.aclGeneration then a
  else { aclGeneration := g, current := true }

def end_ (g : UInt64) : Authorization :=
  if ¬ a.isCurrent g then a else { aclGeneration := a.aclGeneration }

def setMode (g : UInt64) (enabled : Bool) : Authorization :=
  if ¬ a.isCurrent g then a else { a with enabled := enabled }

def acquire (g lease : UInt64) : Authorization :=
  if ¬ a.isCurrent g ∨ lease = 0 ∨ (a.ownerLease ≠ 0 ∧ a.ownerLease ≠ lease) then a
  else { a with ownerLease := lease }

def revoke (g lease : UInt64) : Authorization :=
  if ¬ a.isCurrent g ∨ lease = 0 ∨ a.ownerLease ≠ lease then a else { a with ownerLease := 0 }

/-- The two states are at the same generation. -/
structure SameGeneration (a a' : Authorization) : Prop where
  aclGeneration : a'.aclGeneration = a.aclGeneration
  current : a'.current = a.current

theorem SameGeneration.refl : a.SameGeneration a := ⟨rfl, rfl⟩

theorem sameGeneration_setMode (g : UInt64) (enabled : Bool) :
    a.SameGeneration (a.setMode g enabled) := by
  unfold setMode
  split_ifs <;> exact ⟨rfl, rfl⟩

theorem sameGeneration_acquire (g lease : UInt64) : a.SameGeneration (a.acquire g lease) := by
  unfold acquire
  split_ifs <;> exact ⟨rfl, rfl⟩

theorem sameGeneration_revoke (g lease : UInt64) : a.SameGeneration (a.revoke g lease) := by
  unfold revoke
  split_ifs <;> exact ⟨rfl, rfl⟩

end Authorization

/-! ## The pass-through gate -/

namespace AvrcpPassThroughGateState

def authorization (s : AvrcpPassThroughGateState) : Authorization :=
  { aclGeneration := s.aclGeneration
    current := s.aclGenerationCurrent
    ownerLease := s.ownerLease
    enabled := s.mode = .routeToCurrentMediaSession }

variable (s : AvrcpPassThroughGateState) (g lease : UInt64)

@[simp] theorem authorization_isCurrent : s.authorization.isCurrent g = s.isCurrent g := rfl

@[simp] theorem begin_authorization :
    (beginAvrcpPassThroughAclGeneration s g).2.authorization = s.authorization.begin_ g := by
  unfold beginAvrcpPassThroughAclGeneration Authorization.begin_
  by_cases h : isNewerGeneration g s.aclGeneration
  · rw [if_neg (not_not.mpr h)]
    exact (if_neg (not_not.mpr h)).symm
  · rw [if_pos h]
    exact (if_pos h).symm

@[simp] theorem end_authorization :
    (endAvrcpPassThroughAclGeneration s g).2.authorization = s.authorization.end_ g := by
  unfold endAvrcpPassThroughAclGeneration Authorization.end_
  rw [authorization_isCurrent]
  split_ifs <;> rfl

@[simp] theorem setMode_authorization (mode : AvrcpPassThroughGateMode) :
    (setAvrcpPassThroughGateMode s g mode).2.authorization =
      s.authorization.setMode g (mode = .routeToCurrentMediaSession) := by
  unfold setAvrcpPassThroughGateMode Authorization.setMode
  rw [authorization_isCurrent]
  by_cases h : s.isCurrent g
  · rw [if_neg (not_not.mpr h), if_neg (not_not.mpr h)]
    dsimp only
    by_cases hm : s.mode = mode
    · rw [if_neg (not_not.mpr hm), ← hm]
      rfl
    · rw [if_pos hm]
      rfl
  · rw [if_pos h, if_pos h]

@[simp] theorem acquire_authorization :
    (acquireAvrcpPassThroughOwnerLease s g lease).2.authorization =
      s.authorization.acquire g lease := by
  unfold acquireAvrcpPassThroughOwnerLease Authorization.acquire
  rw [authorization_isCurrent]
  by_cases h : ¬ s.isCurrent g ∨ lease = 0 ∨ (s.ownerLease ≠ 0 ∧ s.ownerLease ≠ lease)
  · rw [if_pos h]
    exact (if_pos h).symm
  · rw [if_neg h]
    refine Eq.trans ?_ (if_neg h).symm
    dsimp only
    by_cases hz : s.ownerLease = 0
    · rw [if_pos hz]
      rfl
    · have hsame : s.ownerLease = lease := by
        by_contra hne
        exact h (.inr (.inr ⟨hz, hne⟩))
      rw [if_neg hz, ← hsame]
      rfl

@[simp] theorem revoke_authorization :
    (revokeAvrcpPassThroughOwnerLease s g lease).2.authorization =
      s.authorization.revoke g lease := by
  unfold revokeAvrcpPassThroughOwnerLease Authorization.revoke
  rw [authorization_isCurrent]
  by_cases h : ¬ s.isCurrent g ∨ lease = 0 ∨ s.ownerLease ≠ lease
  · rw [if_pos h]
    exact (if_pos h).symm
  · rw [if_neg h]
    exact (if_neg h).symm

@[simp] theorem observe_authorization (event : AvrcpPassThroughEvent) :
    (observeAvrcpPassThroughEvent s g event).2.authorization = s.authorization := by
  have h := observeAvrcpPassThroughEvent_authorization s g event
  simp only [authorization, h.aclGeneration, h.aclGenerationCurrent, h.ownerLease, h.mode]

end AvrcpPassThroughGateState

/-! ## The absolute-volume gate -/

namespace AvrcpAbsoluteVolumeGateState

def authorization (s : AvrcpAbsoluteVolumeGateState) : Authorization :=
  { aclGeneration := s.aclGeneration
    current := s.aclGenerationCurrent
    ownerLease := s.ownerLease
    enabled := s.mode = .synchronize }

variable (s : AvrcpAbsoluteVolumeGateState) (g lease : UInt64)

@[simp] theorem authorization_isCurrent :
    s.authorization.isCurrent g = isCurrentAclGeneration s g := rfl

@[simp] theorem activate_authorization :
    (activateGateIfAuthorized s).2.authorization = s.authorization := by
  unfold activateGateIfAuthorized
  split_ifs <;> rfl

@[simp] theorem begin_authorization :
    (beginAvrcpAbsoluteVolumeAclGeneration s g).2.authorization = s.authorization.begin_ g := by
  unfold beginAvrcpAbsoluteVolumeAclGeneration Authorization.begin_
  by_cases h : isNewerGeneration g s.aclGeneration
  · rw [if_neg (not_not.mpr h)]
    exact (if_neg (not_not.mpr h)).symm
  · rw [if_pos h]
    exact (if_pos h).symm

@[simp] theorem end_authorization :
    (endAvrcpAbsoluteVolumeAclGeneration s g).2.authorization = s.authorization.end_ g := by
  unfold endAvrcpAbsoluteVolumeAclGeneration Authorization.end_
  rw [authorization_isCurrent]
  split_ifs <;> rfl

@[simp] theorem setMode_authorization (mode : AvrcpAbsoluteVolumeGateMode) :
    (setAvrcpAbsoluteVolumeGateMode s g mode).2.authorization =
      s.authorization.setMode g (mode = .synchronize) := by
  unfold setAvrcpAbsoluteVolumeGateMode Authorization.setMode
  rw [authorization_isCurrent]
  by_cases h : isCurrentAclGeneration s g
  · rw [if_neg (not_not.mpr h), if_neg (not_not.mpr h)]
    dsimp only
    split_ifs
    · rfl
    · rw [activate_authorization]
      rfl
  · rw [if_pos h, if_pos h]

@[simp] theorem acquire_authorization :
    (acquireAvrcpAbsoluteVolumeOwnerLease s g lease).2.authorization =
      s.authorization.acquire g lease := by
  unfold acquireAvrcpAbsoluteVolumeOwnerLease Authorization.acquire
  rw [authorization_isCurrent]
  by_cases h : lease = 0 ∨ ¬ isCurrentAclGeneration s g ∨
      (s.ownerLease ≠ 0 ∧ s.ownerLease ≠ lease)
  · rw [if_pos h]
    exact (if_pos (or_left_comm.mp h)).symm
  · rw [if_neg h, activate_authorization]
    exact (if_neg (mt or_left_comm.mpr h)).symm

@[simp] theorem revoke_authorization :
    (revokeAvrcpAbsoluteVolumeOwnerLease s g lease).2.authorization =
      s.authorization.revoke g lease := by
  unfold revokeAvrcpAbsoluteVolumeOwnerLease Authorization.revoke
  rw [authorization_isCurrent]
  by_cases h : lease = 0 ∨ ¬ isCurrentAclGeneration s g ∨ s.ownerLease ≠ lease
  · rw [if_pos h]
    exact (if_pos (or_left_comm.mp h)).symm
  · rw [if_neg h]
    exact (if_neg (mt or_left_comm.mpr h)).symm

@[simp] theorem observeCapability_authorization (support : AvrcpAbsoluteVolumeSupport) :
    (observeAvrcpAbsoluteVolumeCapability s g support).2.authorization = s.authorization := by
  unfold observeAvrcpAbsoluteVolumeCapability
  dsimp only
  split_ifs
  · rfl
  · rw [activate_authorization]
    rfl
  · rfl

@[simp] theorem observeWindows_authorization (volume : AvrcpWindowsVolume) :
    (observeWindowsEndpointVolumeThroughGate s g volume).2.authorization = s.authorization := by
  unfold observeWindowsEndpointVolumeThroughGate
  dsimp only
  split_ifs
  · rfl
  · rw [activate_authorization]
    rfl
  · rfl
  · rfl

@[simp] theorem observeXm5_authorization (volume : Nat) (event : AvrcpXm5VolumeEvent) :
    (observeXm5AbsoluteVolumeThroughGate s g volume event).2.authorization = s.authorization := by
  unfold observeXm5AbsoluteVolumeThroughGate
  dsimp only
  split_ifs <;> rfl

end AvrcpAbsoluteVolumeGateState

/-! ## The mapper -/

namespace V1AvrcpControlMapperState

variable (s : V1AvrcpControlMapperState)

/-- The mapper's own copy of the absolute-volume gate's authorization. -/
def volumeAuthorization : Authorization :=
  { aclGeneration := s.aclGeneration
    current := s.aclGenerationCurrent
    ownerLease := s.ownerLease
    enabled := s.volumeSyncEnabled }

/-- The mapper's own copy of the pass-through gate's authorization. -/
def mediaAuthorization : Authorization :=
  { aclGeneration := s.aclGeneration
    current := s.aclGenerationCurrent
    ownerLease := s.ownerLease
    enabled := s.mediaRoutingEnabled }

/-- While the mapper's generation is current, both gates hold its generation,
    lease and modes. -/
def GatesAgree : Prop :=
  s.aclGenerationCurrent →
    (s.passThrough.aclGeneration = s.aclGeneration ∧ s.passThrough.aclGenerationCurrent) ∧
    (s.absoluteVolume.aclGeneration = s.aclGeneration ∧ s.absoluteVolume.aclGenerationCurrent) ∧
    s.passThrough.ownerLease = s.ownerLease ∧ s.absoluteVolume.ownerLease = s.ownerLease ∧
    (s.absoluteVolume.mode = .synchronize ↔ s.volumeSyncEnabled) ∧
    (s.passThrough.mode = .routeToCurrentMediaSession ↔ s.mediaRoutingEnabled)

/-- The gates are at the mapper's generation. -/
structure Follows : Prop where
  passThrough : s.passThrough.aclGeneration = s.aclGeneration
  passThroughCurrent : s.passThrough.aclGenerationCurrent = s.aclGenerationCurrent
  absoluteVolume : s.absoluteVolume.aclGeneration = s.aclGeneration
  absoluteVolumeCurrent : s.absoluteVolume.aclGenerationCurrent = s.aclGenerationCurrent
  nonzero : s.aclGenerationCurrent → s.aclGeneration ≠ 0

/-- All copies of the authorization are the same. -/
structure Synced : Prop where
  nonzero : s.aclGenerationCurrent → s.aclGeneration ≠ 0
  passThrough : s.passThrough.authorization = s.mediaAuthorization
  absoluteVolume : s.absoluteVolume.authorization = s.volumeAuthorization

variable {s}

theorem Synced.gatesAgree (h : s.Synced) : s.GatesAgree := by
  intro hc
  obtain ⟨-, hp, hv⟩ := h
  simp only [AvrcpPassThroughGateState.authorization, mediaAuthorization,
    Authorization.mk.injEq] at hp
  simp only [AvrcpAbsoluteVolumeGateState.authorization, volumeAuthorization,
    Authorization.mk.injEq] at hv
  obtain ⟨hpg, hpc, hpl, hpm⟩ := hp
  obtain ⟨hvg, hvc, hvl, hvm⟩ := hv
  refine ⟨⟨hpg, hpc.trans hc⟩, ⟨hvg, hvc.trans hc⟩, hpl, hvl, ?_, ?_⟩
  · rw [← hvm, decide_eq_true_eq]
  · rw [← hpm, decide_eq_true_eq]

theorem Synced.follows (h : s.Synced) : s.Follows :=
  ⟨congrArg Authorization.aclGeneration h.passThrough,
    congrArg Authorization.current h.passThrough,
    congrArg Authorization.aclGeneration h.absoluteVolume,
    congrArg Authorization.current h.absoluteVolume, h.nonzero⟩

end V1AvrcpControlMapperState

open V1AvrcpControlMapperState

/-- The operation begins the mapper's current generation again, with a lease
    held or a mode on. -/
def RepeatsGeneration (s : V1AvrcpControlMapperState) : V1AvrcpMapperOp → Prop
  | .beginAclGeneration g => s.isCurrentGeneration g ∧
    (s.ownerLease ≠ 0 ∨ s.volumeSyncEnabled ∨ s.mediaRoutingEnabled)
  | _ => False

instance (s : V1AvrcpControlMapperState) (op : V1AvrcpMapperOp) :
    Decidable (RepeatsGeneration s op) :=
  match op with
  | .beginAclGeneration _ => inferInstanceAs (Decidable (_ ∧ _))
  | .endAclGeneration _ | .setControlMode _ _ _ | .acquireOwnerLease _ _
  | .revokeOwnerLease _ _ | .observeVolumeCapability _ _ | .observeWindowsVolume _ _
  | .observeXm5AbsoluteVolume _ _ _ | .observePassThrough _ _ _
  | .setMediaSessionSnapshot _ => isFalse id

theorem isNewerGeneration_self (g : UInt64) : ¬ isNewerGeneration g g := by
  unfold isNewerGeneration
  split_ifs with h
  · simp
  · simp

variable {s : V1AvrcpControlMapperState} {s' : V1AvrcpControlMapperState}

theorem isCurrentGeneration_iff {g : UInt64} :
    s.isCurrentGeneration g ↔ g ≠ 0 ∧ s.aclGenerationCurrent ∧ s.aclGeneration = g := by
  unfold isCurrentGeneration
  rw [decide_eq_true_eq]

/-- The two gates after the mapper begins a generation. -/
def begunGates (s : V1AvrcpControlMapperState) (g : UInt64) : V1AvrcpControlMapperState :=
  { s with
    passThrough := (beginAvrcpPassThroughAclGeneration s.passThrough g).2
    absoluteVolume := (beginAvrcpAbsoluteVolumeAclGeneration s.absoluteVolume g).2 }

theorem begin_cases (h : s.Follows) (g : UInt64) :
    (isNewerGeneration g s.aclGeneration ∧ (v1AvrcpBeginAclGeneration s g).2 = clearGenerationState
        { begunGates s g with aclGeneration := g, aclGenerationCurrent := true }) ∨
      (s.isCurrentGeneration g ∧ (v1AvrcpBeginAclGeneration s g).2 = clearGenerationState s) ∨
      (¬ s.isCurrentGeneration g ∧ (v1AvrcpBeginAclGeneration s g).2 = s) := by
  have hpass : beginAvrcpPassThroughAclGeneration s.passThrough g =
      if ¬ isNewerGeneration g s.aclGeneration then ({}, s.passThrough) else
        beginAvrcpPassThroughAclGeneration s.passThrough g := by
    unfold beginAvrcpPassThroughAclGeneration
    rw [h.passThrough]
    split_ifs <;> rfl
  have hvolume : beginAvrcpAbsoluteVolumeAclGeneration s.absoluteVolume g =
      if ¬ isNewerGeneration g s.aclGeneration then ({}, s.absoluteVolume) else
        beginAvrcpAbsoluteVolumeAclGeneration s.absoluteVolume g := by
    unfold beginAvrcpAbsoluteVolumeAclGeneration
    rw [h.absoluteVolume]
    split_ifs <;> rfl
  by_cases hnew : isNewerGeneration g s.aclGeneration
  · refine .inl ⟨hnew, ?_⟩
    unfold v1AvrcpBeginAclGeneration
    dsimp only
    rw [if_neg]
    · rfl
    · simp [beginAvrcpPassThroughAclGeneration, beginAvrcpAbsoluteVolumeAclGeneration,
        h.passThrough, h.absoluteVolume, hnew, AvrcpPassThroughGateState.resetHeldOperation]
  · rw [if_pos hnew] at hpass hvolume
    refine .inr ?_
    unfold v1AvrcpBeginAclGeneration
    rw [hpass, hvolume]
    dsimp only
    rw [h.passThrough, h.passThroughCurrent, h.absoluteVolume, h.absoluteVolumeCurrent]
    by_cases hc : s.isCurrentGeneration g
    · obtain ⟨hg, hcur, rfl⟩ := isCurrentGeneration_iff.mp hc
      refine .inl ⟨hc, ?_⟩
      rw [if_neg (by simp [hcur])]
      show clearGenerationState { s with aclGenerationCurrent := true } = _
      rw [← hcur]
    · refine .inr ⟨hc, ?_⟩
      rw [if_pos]
      by_contra hall
      simp only [not_or, ne_eq, not_not] at hall
      obtain ⟨rfl, hcur, -, -⟩ := hall
      exact hc (isCurrentGeneration_iff.mpr ⟨h.nonzero hcur, hcur, rfl⟩)

theorem V1AvrcpControlMapperState.Follows.congr (h : s.Follows)
    (hg : s'.aclGeneration = s.aclGeneration)
    (hc : s'.aclGenerationCurrent = s.aclGenerationCurrent)
    (hp : s.passThrough.authorization.SameGeneration s'.passThrough.authorization)
    (hv : s.absoluteVolume.authorization.SameGeneration s'.absoluteVolume.authorization) :
    s'.Follows where
  passThrough := (hp.aclGeneration.trans h.passThrough).trans hg.symm
  passThroughCurrent := (hp.current.trans h.passThroughCurrent).trans hc.symm
  absoluteVolume := (hv.aclGeneration.trans h.absoluteVolume).trans hg.symm
  absoluteVolumeCurrent := (hv.current.trans h.absoluteVolumeCurrent).trans hc.symm
  nonzero := by
    rw [hg, hc]
    exact h.nonzero

theorem V1AvrcpControlMapperState.Follows.isCurrent_passThrough (h : s.Follows) (g : UInt64) :
    s.passThrough.authorization.isCurrent g = s.isCurrentGeneration g := by
  show s.passThrough.isCurrent g = _
  rw [AvrcpPassThroughGateState.isCurrent, h.passThrough, h.passThroughCurrent,
    isCurrentGeneration]

theorem V1AvrcpControlMapperState.Follows.isCurrent_absoluteVolume (h : s.Follows) (g : UInt64) :
    s.absoluteVolume.authorization.isCurrent g = s.isCurrentGeneration g := by
  show isCurrentAclGeneration s.absoluteVolume g = _
  rw [isCurrentAclGeneration, h.absoluteVolume, h.absoluteVolumeCurrent, isCurrentGeneration]

/-- An operation that touches no authorization. -/
structure Untouched (s s' : V1AvrcpControlMapperState) : Prop where
  media : s'.mediaAuthorization = s.mediaAuthorization
  volume : s'.volumeAuthorization = s.volumeAuthorization
  passThrough : s'.passThrough.authorization = s.passThrough.authorization
  absoluteVolume : s'.absoluteVolume.authorization = s.absoluteVolume.authorization

theorem Untouched.refl (s : V1AvrcpControlMapperState) : Untouched s s := ⟨rfl, rfl, rfl, rfl⟩

theorem Untouched.follows (hu : Untouched s s') (h : s.Follows) : s'.Follows := by
  refine h.congr (congrArg Authorization.aclGeneration hu.media)
    (congrArg Authorization.current hu.media) ?_ ?_
  · rw [hu.passThrough]
    exact .refl _
  · rw [hu.absoluteVolume]
    exact .refl _

theorem Untouched.synced (hu : Untouched s s') (h : s.Synced) : s'.Synced where
  nonzero := (hu.follows h.follows).nonzero
  passThrough := by rw [hu.passThrough, hu.media, h.passThrough]
  absoluteVolume := by rw [hu.absoluteVolume, hu.volume, h.absoluteVolume]

theorem untouched_adopt (actions : V1AvrcpActionSet) (volume : UInt8) :
    Untouched s (adoptXm5Volume s actions volume).2 := by
  unfold adoptXm5Volume
  dsimp only
  split_ifs <;> exact ⟨rfl, rfl, rfl, rfl⟩

theorem untouched_observation {op : V1AvrcpMapperOp} (h : match op with
      | .observeVolumeCapability .. | .observeWindowsVolume .. | .observeXm5AbsoluteVolume ..
      | .observePassThrough .. | .setMediaSessionSnapshot .. => True
      | _ => False) : Untouched s (avrcpMapper.next s op) := by
  cases op with
  | observeVolumeCapability g supported =>
    simp only [Reducer.next, avrcpMapper, v1AvrcpObserveVolumeCapability]
    split_ifs
    · exact ⟨rfl, rfl, rfl, AvrcpAbsoluteVolumeGateState.observeCapability_authorization _ _ _⟩
    · exact ⟨rfl, rfl, rfl, AvrcpAbsoluteVolumeGateState.observeCapability_authorization _ _ _⟩
    · exact .refl s
  | observeWindowsVolume g observed =>
    simp only [Reducer.next, avrcpMapper, v1AvrcpObserveWindowsVolume]
    split_ifs
    · exact ⟨rfl, rfl, rfl, AvrcpAbsoluteVolumeGateState.observeWindows_authorization _ _ _⟩
    · exact .refl s
  | observeXm5AbsoluteVolume g volume event =>
    have hgate := AvrcpAbsoluteVolumeGateState.observeXm5_authorization s.absoluteVolume g
      volume.toNat event
    simp only [Reducer.next, avrcpMapper, v1AvrcpObserveXm5AbsoluteVolume]
    split_ifs
    · obtain ⟨hm, hv, hp, ha⟩ := untouched_adopt (s := { s with absoluteVolume :=
        (observeXm5AbsoluteVolumeThroughGate s.absoluteVolume g volume.toNat event).2 })
        (mergeVolumeActions (snapshot { s with absoluteVolume :=
          (observeXm5AbsoluteVolumeThroughGate s.absoluteVolume g volume.toNat event).2 })
          (observeXm5AbsoluteVolumeThroughGate s.absoluteVolume g volume.toNat event).1) volume
      exact ⟨hm, hv, hp, ha.trans hgate⟩
    · exact ⟨rfl, rfl, rfl, hgate⟩
    · exact .refl s
  | observePassThrough g id released =>
    have hgate := AvrcpPassThroughGateState.observe_authorization s.passThrough g
      (makeAvrcpPassThroughEvent id released)
    simp only [Reducer.next, avrcpMapper, v1AvrcpObservePassThrough]
    split_ifs
    · unfold updatePlaybackState
      split_ifs <;> exact ⟨rfl, rfl, hgate, rfl⟩
    · exact .refl s
  | setMediaSessionSnapshot snapshot =>
    simp only [Reducer.next, avrcpMapper, v1AvrcpSetMediaSessionSnapshot]
    split_ifs <;> exact ⟨rfl, rfl, rfl, rfl⟩
  | _ => exact h.elim

/-- What an operation does to the fields that only the mapper has. -/
inductive OwnMove (s s' : V1AvrcpControlMapperState) : V1AvrcpMapperOp → Prop
  | same {op : V1AvrcpMapperOp} : s'.aclGeneration = s.aclGeneration →
      s'.aclGenerationCurrent = s.aclGenerationCurrent → s'.ownerLease = s.ownerLease →
      s'.xm5VolumeSeen = s.xm5VolumeSeen → OwnMove s s' op
  | begins (g : UInt64) : s'.ownerLease = 0 → ¬ s'.xm5VolumeSeen →
      OwnMove s s' (.beginAclGeneration g)
  | ends (g : UInt64) : s'.ownerLease = 0 → ¬ s'.xm5VolumeSeen → OwnMove s s' (.endAclGeneration g)
  | acquires (g lease : UInt64) : s'.aclGeneration = s.aclGeneration →
      s'.aclGenerationCurrent = s.aclGenerationCurrent → s'.ownerLease = lease →
      s'.xm5VolumeSeen = s.xm5VolumeSeen → s.isCurrentGeneration g →
      OwnMove s s' (.acquireOwnerLease g lease)
  | revokes (g lease : UInt64) : s'.aclGeneration = s.aclGeneration →
      s'.aclGenerationCurrent = s.aclGenerationCurrent → s'.ownerLease = 0 →
      s'.xm5VolumeSeen = s.xm5VolumeSeen → OwnMove s s' (.revokeOwnerLease g lease)
  | sees (g : UInt64) (volume : UInt8) (event : AvrcpXm5VolumeEvent) :
      s'.aclGeneration = s.aclGeneration → s'.aclGenerationCurrent = s.aclGenerationCurrent →
      s'.ownerLease = s.ownerLease →
      s.isCurrentGeneration g ∧ s.headsetPreferred ∧ ¬ s.xm5VolumeSeen →
      OwnMove s s' (.observeXm5AbsoluteVolume g volume event)

theorem own_next (s : V1AvrcpControlMapperState) (op : V1AvrcpMapperOp) :
    (avrcpMapper.next s op).headsetPreferred = s.headsetPreferred ∧
      OwnMove s (avrcpMapper.next s op) op := by
  cases op with
  | beginAclGeneration g =>
    simp only [Reducer.next, avrcpMapper, v1AvrcpBeginAclGeneration]
    split_ifs
    · exact ⟨rfl, .same rfl rfl rfl rfl⟩
    · exact ⟨rfl, .begins g rfl (by rintro ⟨⟩)⟩
  | endAclGeneration g =>
    simp only [Reducer.next, avrcpMapper, v1AvrcpEndAclGeneration]
    split_ifs
    · exact ⟨rfl, .ends g rfl (by rintro ⟨⟩)⟩
    · exact ⟨rfl, .same rfl rfl rfl rfl⟩
  | setControlMode g volumeSync mediaRouting =>
    simp only [Reducer.next, avrcpMapper, v1AvrcpSetControlMode]
    split_ifs <;> exact ⟨rfl, .same rfl rfl rfl rfl⟩
  | acquireOwnerLease g lease =>
    simp only [Reducer.next, avrcpMapper, v1AvrcpAcquireOwnerLease]
    split_ifs with hrefused
    · exact ⟨rfl, .same rfl rfl rfl rfl⟩
    · exact ⟨rfl, .same rfl rfl rfl rfl⟩
    · exact ⟨rfl, .acquires g lease rfl rfl rfl rfl (not_not.mp (not_or.mp hrefused).1)⟩
  | revokeOwnerLease g lease =>
    simp only [Reducer.next, avrcpMapper, v1AvrcpRevokeOwnerLease]
    split_ifs
    · exact ⟨rfl, .same rfl rfl rfl rfl⟩
    · exact ⟨rfl, .revokes g lease rfl rfl rfl rfl⟩
  | observeVolumeCapability g supported =>
    simp only [Reducer.next, avrcpMapper, v1AvrcpObserveVolumeCapability]
    split_ifs <;> exact ⟨rfl, .same rfl rfl rfl rfl⟩
  | observeWindowsVolume g observed =>
    simp only [Reducer.next, avrcpMapper, v1AvrcpObserveWindowsVolume]
    split_ifs <;> exact ⟨rfl, .same rfl rfl rfl rfl⟩
  | observeXm5AbsoluteVolume g volume event =>
    simp only [Reducer.next, avrcpMapper, v1AvrcpObserveXm5AbsoluteVolume]
    by_cases hc : s.isCurrentGeneration g
    · rw [if_neg (not_not.mpr hc)]
      by_cases hfirst : s.headsetPreferred ∧ ¬ s.xm5VolumeSeen
      · rw [if_pos hfirst]
        unfold adoptXm5Volume
        dsimp only
        split_ifs <;> exact ⟨rfl, .sees g volume event rfl rfl rfl ⟨hc, hfirst⟩⟩
      · rw [if_neg hfirst]
        exact ⟨rfl, .same rfl rfl rfl rfl⟩
    · rw [if_pos hc]
      exact ⟨rfl, .same rfl rfl rfl rfl⟩
  | observePassThrough g id released =>
    simp only [Reducer.next, avrcpMapper, v1AvrcpObservePassThrough, updatePlaybackState]
    split_ifs <;> exact ⟨rfl, .same rfl rfl rfl rfl⟩
  | setMediaSessionSnapshot snapshot =>
    simp only [Reducer.next, avrcpMapper, v1AvrcpSetMediaSessionSnapshot]
    split_ifs <;> exact ⟨rfl, .same rfl rfl rfl rfl⟩

theorem follows_step (h : s.Follows) (op : V1AvrcpMapperOp) :
    (avrcpMapper.next s op).Follows := by
  cases op with
  | beginAclGeneration g =>
    show (v1AvrcpBeginAclGeneration s g).2.Follows
    rcases begin_cases h g with ⟨hnew, hbegin⟩ | ⟨-, hbegin⟩ | ⟨-, hbegin⟩
    · rw [hbegin]
      have hpass : (begunGates s g).passThrough.authorization = { aclGeneration := g, current := true } := by
        show (beginAvrcpPassThroughAclGeneration s.passThrough g).2.authorization = _
        rw [AvrcpPassThroughGateState.begin_authorization, Authorization.begin_]
        rw [show s.passThrough.authorization.aclGeneration = _ from h.passThrough,
          if_neg (not_not.mpr hnew)]
      have hvolume : (begunGates s g).absoluteVolume.authorization = { aclGeneration := g, current := true } := by
        show (beginAvrcpAbsoluteVolumeAclGeneration s.absoluteVolume g).2.authorization = _
        rw [AvrcpAbsoluteVolumeGateState.begin_authorization, Authorization.begin_]
        rw [show s.absoluteVolume.authorization.aclGeneration = _ from h.absoluteVolume,
          if_neg (not_not.mpr hnew)]
      exact ⟨congrArg Authorization.aclGeneration hpass, congrArg Authorization.current hpass,
        congrArg Authorization.aclGeneration hvolume, congrArg Authorization.current hvolume,
        fun _ => ne_zero_of_newer hnew⟩
    · rw [hbegin]
      exact ⟨h.1, h.2, h.3, h.4, h.5⟩
    · rw [hbegin]
      exact h
  | endAclGeneration g =>
    show (v1AvrcpEndAclGeneration s g).2.Follows
    unfold v1AvrcpEndAclGeneration
    by_cases hc : s.isCurrentGeneration g
    · have hp := AvrcpPassThroughGateState.end_authorization s.passThrough g
      have hv := AvrcpAbsoluteVolumeGateState.end_authorization s.absoluteVolume g
      rw [Authorization.end_, h.isCurrent_passThrough, if_neg (not_not.mpr hc)] at hp
      rw [Authorization.end_, h.isCurrent_absoluteVolume, if_neg (not_not.mpr hc)] at hv
      rw [if_neg (not_not.mpr hc)]
      exact ⟨(congrArg Authorization.aclGeneration hp).trans h.passThrough,
        congrArg Authorization.current hp,
        (congrArg Authorization.aclGeneration hv).trans h.absoluteVolume,
        congrArg Authorization.current hv, nofun⟩
    · rw [if_pos hc]
      exact h
  | setControlMode g volumeSync mediaRouting =>
    show (v1AvrcpSetControlMode s g volumeSync mediaRouting).2.Follows
    unfold v1AvrcpSetControlMode
    by_cases hc : s.isCurrentGeneration g
    · rw [if_neg (not_not.mpr hc)]
      refine h.congr rfl rfl ?_ ?_
      · dsimp only
        rw [AvrcpPassThroughGateState.setMode_authorization]
        exact Authorization.sameGeneration_setMode _ _ _
      · dsimp only
        rw [AvrcpAbsoluteVolumeGateState.setMode_authorization]
        exact Authorization.sameGeneration_setMode _ _ _
    · rw [if_pos hc]
      exact h
  | acquireOwnerLease g lease =>
    have hp : s.passThrough.authorization.SameGeneration
        (acquireAvrcpPassThroughOwnerLease s.passThrough g lease).2.authorization := by
      rw [AvrcpPassThroughGateState.acquire_authorization]
      exact Authorization.sameGeneration_acquire _ _ _
    have hv : s.absoluteVolume.authorization.SameGeneration
        (acquireAvrcpAbsoluteVolumeOwnerLease s.absoluteVolume g lease).2.authorization := by
      rw [AvrcpAbsoluteVolumeGateState.acquire_authorization]
      exact Authorization.sameGeneration_acquire _ _ _
    simp only [Reducer.next, avrcpMapper, v1AvrcpAcquireOwnerLease]
    split_ifs
    · exact h
    · exact h.congr rfl rfl hp hv
    · exact h.congr rfl rfl hp hv
  | revokeOwnerLease g lease =>
    simp only [Reducer.next, avrcpMapper, v1AvrcpRevokeOwnerLease]
    split_ifs
    · exact h
    · refine h.congr rfl rfl ?_ ?_
      · rw [AvrcpPassThroughGateState.revoke_authorization]
        exact Authorization.sameGeneration_revoke _ _ _
      · rw [AvrcpAbsoluteVolumeGateState.revoke_authorization]
        exact Authorization.sameGeneration_revoke _ _ _
  | _ => exact (untouched_observation trivial).follows h

theorem synced_begin (h : s.Synced) {g : UInt64}
    (hr : ¬ RepeatsGeneration s (.beginAclGeneration g)) :
    (v1AvrcpBeginAclGeneration s g).2.Synced := by
  have hf := h.follows
  rcases begin_cases hf g with ⟨hnew, hbegin⟩ | ⟨hc, hbegin⟩ | ⟨-, hbegin⟩
  · have hp := AvrcpPassThroughGateState.begin_authorization s.passThrough g
    have hv := AvrcpAbsoluteVolumeGateState.begin_authorization s.absoluteVolume g
    rw [h.passThrough, Authorization.begin_,
      if_neg (not_not.mpr (show isNewerGeneration g s.mediaAuthorization.aclGeneration from hnew))]
      at hp
    rw [h.absoluteVolume, Authorization.begin_,
      if_neg (not_not.mpr (show isNewerGeneration g s.volumeAuthorization.aclGeneration from hnew))]
      at hv
    rw [hbegin]
    exact ⟨fun _ => ne_zero_of_newer hnew, hp, hv⟩
  · -- nothing of the mapper is left to clear
    have hclear : s.ownerLease = 0 ∧ s.volumeSyncEnabled = false ∧ s.mediaRoutingEnabled = false := by
      by_contra hne
      refine hr ⟨hc, ?_⟩
      by_contra hnone
      simp only [not_or, ne_eq, not_not, Bool.not_eq_true] at hnone
      exact hne hnone
    rw [hbegin]
    refine ⟨hf.nonzero, h.passThrough.trans ?_, h.absoluteVolume.trans ?_⟩
    · rw [mediaAuthorization, hclear.1, hclear.2.2]
      rfl
    · rw [volumeAuthorization, hclear.1, hclear.2.1]
      rfl
  · rw [hbegin]
    exact h

theorem synced_end (h : s.Synced) (g : UInt64) : (v1AvrcpEndAclGeneration s g).2.Synced := by
  unfold v1AvrcpEndAclGeneration
  by_cases hc : s.isCurrentGeneration g
  · have hp := AvrcpPassThroughGateState.end_authorization s.passThrough g
    have hv := AvrcpAbsoluteVolumeGateState.end_authorization s.absoluteVolume g
    rw [h.passThrough, Authorization.end_,
      if_neg (not_not.mpr (show s.mediaAuthorization.isCurrent g from hc))] at hp
    rw [h.absoluteVolume, Authorization.end_,
      if_neg (not_not.mpr (show s.volumeAuthorization.isCurrent g from hc))] at hv
    rw [if_neg (not_not.mpr hc)]
    exact ⟨nofun, hp, hv⟩
  · rw [if_pos hc]
    exact h

theorem synced_setControlMode (h : s.Synced) (g : UInt64) (volumeSync mediaRouting : Bool) :
    (v1AvrcpSetControlMode s g volumeSync mediaRouting).2.Synced := by
  unfold v1AvrcpSetControlMode
  by_cases hc : s.isCurrentGeneration g
  · have hp := AvrcpPassThroughGateState.setMode_authorization s.passThrough g
      (if mediaRouting then .routeToCurrentMediaSession else .observeOnly)
    have hv := AvrcpAbsoluteVolumeGateState.setMode_authorization s.absoluteVolume g
      (if volumeSync then .synchronize else .observeOnly)
    rw [h.passThrough, Authorization.setMode,
      if_neg (not_not.mpr (show s.mediaAuthorization.isCurrent g from hc))] at hp
    rw [h.absoluteVolume, Authorization.setMode,
      if_neg (not_not.mpr (show s.volumeAuthorization.isCurrent g from hc))] at hv
    rw [if_neg (not_not.mpr hc)]
    refine ⟨h.nonzero, hp.trans ?_, hv.trans ?_⟩
    · cases mediaRouting <;> rfl
    · cases volumeSync <;> rfl
  · rw [if_pos hc]
    exact h

theorem synced_acquireOwnerLease (h : s.Synced) (g lease : UInt64) :
    (v1AvrcpAcquireOwnerLease s g lease).2.Synced := by
  unfold v1AvrcpAcquireOwnerLease
  by_cases hc : ¬ s.isCurrentGeneration g ∨ lease = 0
  · rw [if_pos hc]
    exact h
  · have hp := AvrcpPassThroughGateState.acquire_authorization s.passThrough g lease
    have hv := AvrcpAbsoluteVolumeGateState.acquire_authorization s.absoluteVolume g lease
    rw [if_neg hc]
    rw [not_or, not_not] at hc
    by_cases hother : s.ownerLease ≠ 0 ∧ s.ownerLease ≠ lease
    · -- another owner holds the lease: the gates refuse
      have hrefused : ∀ a : Authorization, a.ownerLease = s.ownerLease → a.acquire g lease = a := by
        intro a ha
        exact if_pos (.inr (.inr (by rw [ha]; exact hother)))
      rw [h.passThrough, hrefused _ rfl] at hp
      rw [h.absoluteVolume, hrefused _ rfl] at hv
      have hne : (acquireAvrcpPassThroughOwnerLease s.passThrough g lease).2.ownerLease ≠ lease := by
        intro heq
        exact hother.2 ((congrArg Authorization.ownerLease hp).symm.trans heq)
      rw [if_pos (.inl hne)]
      exact ⟨h.nonzero, hp, hv⟩
    · have hacquired : ∀ a : Authorization, a.ownerLease = s.ownerLease → a.isCurrent g →
          a.acquire g lease = { a with ownerLease := lease } := by
        intro a ha hcur
        refine if_neg ?_
        rw [not_or, not_or, not_not, ha]
        exact ⟨hcur, hc.2, hother⟩
      rw [h.passThrough, hacquired s.mediaAuthorization rfl hc.1] at hp
      rw [h.absoluteVolume, hacquired s.volumeAuthorization rfl hc.1] at hv
      rw [if_neg]
      · exact ⟨h.nonzero, hp, hv⟩
      · rw [not_or, not_not, not_not]
        exact ⟨congrArg Authorization.ownerLease hp, congrArg Authorization.ownerLease hv⟩

theorem synced_revokeOwnerLease (h : s.Synced) (g lease : UInt64) :
    (v1AvrcpRevokeOwnerLease s g lease).2.Synced := by
  unfold v1AvrcpRevokeOwnerLease
  by_cases hc : ¬ s.isCurrentGeneration g ∨ lease = 0 ∨ s.ownerLease ≠ lease
  · rw [if_pos hc]
    exact h
  · have hp := AvrcpPassThroughGateState.revoke_authorization s.passThrough g lease
    have hv := AvrcpAbsoluteVolumeGateState.revoke_authorization s.absoluteVolume g lease
    have hrevoked : ∀ a : Authorization, a.ownerLease = s.ownerLease →
        a.isCurrent g = s.isCurrentGeneration g →
        a.revoke g lease = { a with ownerLease := 0 } := by
      intro a ha hcur
      refine if_neg ?_
      rw [ha, hcur]
      exact hc
    rw [h.passThrough, hrevoked s.mediaAuthorization rfl rfl] at hp
    rw [h.absoluteVolume, hrevoked s.volumeAuthorization rfl rfl] at hv
    rw [if_neg hc]
    exact ⟨h.nonzero, hp, hv⟩

theorem synced_step (h : s.Synced) {op : V1AvrcpMapperOp} (hr : ¬ RepeatsGeneration s op) :
    (avrcpMapper.next s op).Synced := by
  cases op with
  | beginAclGeneration g => exact synced_begin h hr
  | endAclGeneration g => exact synced_end h g
  | setControlMode g volumeSync mediaRouting =>
    exact synced_setControlMode h g volumeSync mediaRouting
  | acquireOwnerLease g lease => exact synced_acquireOwnerLease h g lease
  | revokeOwnerLease g lease => exact synced_revokeOwnerLease h g lease
  | _ => exact (untouched_observation trivial).synced h

theorem not_gatesAgree_of_repeats (h : s.Synced) {op : V1AvrcpMapperOp}
    (hr : RepeatsGeneration s op) : ¬ (avrcpMapper.next s op).GatesAgree := by
  cases op with
  | beginAclGeneration g =>
    obtain ⟨hc, hheld⟩ := hr
    obtain ⟨hg, hcur, rfl⟩ := isCurrentGeneration_iff.mp hc
    have hbegin : (avrcpMapper.next s (.beginAclGeneration s.aclGeneration)) =
        clearGenerationState s := by
      rcases begin_cases h.follows s.aclGeneration with ⟨hnew, -⟩ | ⟨-, hbegin⟩ | ⟨hn, -⟩
      · exact absurd hnew (isNewerGeneration_self _)
      · exact hbegin
      · exact absurd hc hn
    rw [hbegin]
    intro hagree
    obtain ⟨-, -, hlease, -, hsync, hroute⟩ := hagree hcur
    obtain ⟨-, -, hlease', -, hsync', hroute'⟩ := h.gatesAgree hcur
    rcases hheld with hl | hs | hm
    · exact hl (hlease'.symm.trans hlease)
    · exact absurd (hsync.mp (hsync'.mpr hs)) nofun
    · exact absurd (hroute.mp (hroute'.mpr hm)) nofun
  | _ => exact hr.elim

theorem synced_init : ({} : V1AvrcpControlMapperState).Synced :=
  ⟨nofun, rfl, rfl⟩

theorem gatesAgree_iff_of_synced (h : s.Synced) (ops : List V1AvrcpMapperOp) :
    (∀ n, (avrcpMapper.after s (ops.take n)).GatesAgree) ↔
      avrcpMapper.Along (fun s op => ¬ RepeatsGeneration s op) s ops := by
  induction ops generalizing s with
  | nil =>
    refine ⟨fun _ => trivial, fun _ n => ?_⟩
    rw [List.take_nil]
    exact h.gatesAgree
  | cons op ops ih =>
    constructor
    · intro hall
      have hr : ¬ RepeatsGeneration s op := fun hr => not_gatesAgree_of_repeats h hr (hall 1)
      exact ⟨hr, (ih (synced_step h hr)).mp fun n => hall (n + 1)⟩
    · rintro ⟨hr, hlater⟩ n
      cases n with
      | zero => exact h.gatesAgree
      | succ n => exact (ih (synced_step h hr)).mpr hlater n

/-- **The mapper and its gates agree** in every state of a run exactly if no
    operation of the run begins the current generation again while a lease is
    held or a mode is on. -/
theorem gatesAgree_iff (ops : List V1AvrcpMapperOp) :
    (∀ n, (avrcpMapper.after {} (ops.take n)).GatesAgree) ↔
      avrcpMapper.Along (fun s op => ¬ RepeatsGeneration s op) {} ops :=
  gatesAgree_iff_of_synced synced_init ops

/-- A generation begun twice: the gates keep the lease and the modes that the
    mapper forgets. -/
theorem gates_split_by_repeat :
    ¬ (avrcpMapper.after {} [.beginAclGeneration 1, .setControlMode 1 true true,
      .acquireOwnerLease 1 42, .beginAclGeneration 1]).GatesAgree := by
  intro h
  have hlease := (h (by decide)).2.2.1
  exact absurd hlease (by decide)

end NativeLdac.Agent
