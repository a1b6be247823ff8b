/-
  The authority of the headset over the first volume of an ACL generation.

  A mapper that prefers the headset holds back its commands until it has seen a
  headset volume.  The volume becomes the shared gain (`TakesOver`) only under a
  lease and in synchronize mode; a volume that comes before is seen all the same.
-/
import Mathlib.Data.List.Induction
import NativeLdac.Agent.AvrcpRetries
import NativeLdac.Agent.AvrcpFrames

namespace NativeLdac.Agent

open V1AvrcpControlMapperState

variable {m : V1AvrcpControlMapperState} {op : V1AvrcpMapperOp} {ops : List V1AvrcpMapperOp}

/-- The Windows volume of a headset volume. -/
def headsetGain (absoluteVolume : UInt8) : AvrcpWindowsVolume :=
  ⟨xm5AbsoluteVolumeToWindowsPercent absoluteVolume.toNat, absoluteVolume = 0⟩

/-- The operation makes a headset volume the shared gain: it comes in the current
    generation, with a lease held and the volume sync on, and is written to Windows
    unless Windows has it. -/
def TakesOver (m : V1AvrcpControlMapperState) : V1AvrcpMapperOp → Prop
  | .observeXm5AbsoluteVolume g volume event =>
    m.isCurrentGeneration g ∧ m.ownerLease ≠ 0 ∧ m.absoluteVolume.mode = .synchronize ∧
      (v1AvrcpHasAction (v1AvrcpObserveXm5AbsoluteVolume m g volume event).1 .setWindowsVolume ∧
          (v1AvrcpObserveXm5AbsoluteVolume m g volume event).1.windowsVolume = headsetGain volume ∨
        m.absoluteVolume.windowsVolumeObserved ∧
          m.absoluteVolume.lastWindowsVolume = headsetGain volume)
  | _ => False

instance (m : V1AvrcpControlMapperState) : (op : V1AvrcpMapperOp) → Decidable (TakesOver m op)
  | .observeXm5AbsoluteVolume _ _ _ => inferInstanceAs (Decidable (_ ∧ _ ∧ _ ∧ (_ ∨ _)))
  | .beginAclGeneration _ | .endAclGeneration _ | .setControlMode _ _ _ | .acquireOwnerLease _ _
  | .revokeOwnerLease _ _ | .observeVolumeCapability _ _ | .observeWindowsVolume _ _
  | .observePassThrough _ _ _ | .setMediaSessionSnapshot _ => inferInstanceAs (Decidable False)

/-- The operation stays in the ACL generation. -/
def KeepsGeneration (m : V1AvrcpControlMapperState) (op : V1AvrcpMapperOp) : Prop :=
  (avrcpMapper.next m op).generation = m.generation

/-- In the run, a headset volume was taken over in the ACL generation that the run ends
    in. -/
def TakenOver (m : V1AvrcpControlMapperState) (ops : List V1AvrcpMapperOp) : Prop :=
  ∃ before op since, ops = before ++ op :: since ∧ TakesOver (avrcpMapper.after m before) op ∧
    avrcpMapper.Along KeepsGeneration (avrcpMapper.after m before) (op :: since)

/-- The first headset volume of a generation comes with a lease held and the volume
    sync on. -/
def ComesAuthorized (m : V1AvrcpControlMapperState) : V1AvrcpMapperOp → Prop
  | .observeXm5AbsoluteVolume g _ _ => m.isCurrentGeneration g → ¬ m.xm5VolumeSeen →
      m.ownerLease ≠ 0 ∧ m.absoluteVolume.mode = .synchronize
  | _ => True

instance (m : V1AvrcpControlMapperState) :
    (op : V1AvrcpMapperOp) → Decidable (ComesAuthorized m op)
  | .observeXm5AbsoluteVolume _ _ _ => inferInstanceAs (Decidable (_ → ¬ _ → _ ∧ _))
  | .beginAclGeneration _ | .endAclGeneration _ | .setControlMode _ _ _ | .acquireOwnerLease _ _
  | .revokeOwnerLease _ _ | .observeVolumeCapability _ _ | .observeWindowsVolume _ _
  | .observePassThrough _ _ _ | .setMediaSessionSnapshot _ => inferInstanceAs (Decidable True)

/-! ## One operation -/

theorem filter_holds_back {m' : V1AvrcpControlMapperState} (hp : m'.headsetPreferred)
    (hs : ¬ m'.xm5VolumeSeen) (d : AvrcpAbsoluteVolumeGateDecision) :
    ¬ v1AvrcpHasAction (filterHeadsetPreferredPush m' (mergeVolumeActions m.snapshot d))
      .sendXm5Volume := by
  have hnodup : (mergeVolumeActions m.snapshot d).actions.Nodup := by
    unfold mergeVolumeActions
    dsimp only [snapshot, V1AvrcpActionSet.add]
    split_ifs <;> simp [List.insert]
  unfold filterHeadsetPreferredPush
  rw [if_neg (by simp [hp, hs]), v1AvrcpHasAction, decide_eq_true_eq]
  exact hnodup.not_mem_erase

theorem gate_observeXm5 (s : AvrcpAbsoluteVolumeGateState) (g : UInt64) (volume : UInt8)
    (event : AvrcpXm5VolumeEvent) :
    (¬ hasAvrcpAbsoluteVolumeAction
        (observeXm5AbsoluteVolumeThroughGate s g volume.toNat event).1.volume
        .sendXm5AbsoluteVolume) ∧
      (hasAvrcpAbsoluteVolumeAction
          (observeXm5AbsoluteVolumeThroughGate s g volume.toNat event).1.volume
          .setWindowsEndpoint →
        (observeXm5AbsoluteVolumeThroughGate s g volume.toNat event).1.volume.windowsVolume =
          headsetGain volume) := by
  unfold observeXm5AbsoluteVolumeThroughGate
  dsimp only
  split_ifs
  · exact ⟨not_hasVolumeAction_none _, fun h => absurd h (not_hasVolumeAction_none _)⟩
  · exact ⟨not_hasVolumeAction_none _, fun h => absurd h (not_hasVolumeAction_none _)⟩
  · refine ⟨fun h => observeXm5_sends_nothing (authorize_sends h).2, fun h => ?_⟩
    obtain ⟨heq, hset⟩ := authorize_sends h
    rw [heq]
    unfold observeXm5AbsoluteVolume at hset ⊢
    dsimp only at hset ⊢
    split_ifs at hset ⊢
    · exact absurd hset (not_hasVolumeAction_none _)
    · exact absurd hset (not_hasVolumeAction_none _)
    · exact absurd hset (not_hasVolumeAction_none _)
    · exact absurd hset (not_hasVolumeAction_none _)
    · exact absurd hset (not_hasVolumeAction_none _)
    · simp only [headsetGain, AvrcpWindowsVolume.mk.injEq, decide_eq_decide, true_and]
      exact UInt8.toNat_inj (b := 0)

theorem gate_observeXm5_windows (s : AvrcpAbsoluteVolumeGateState) (g : UInt64) (volume : Nat)
    (event : AvrcpXm5VolumeEvent) :
    (observeXm5AbsoluteVolumeThroughGate s g volume event).2.mode = s.mode ∧
      (observeXm5AbsoluteVolumeThroughGate s g volume event).2.windowsVolumeObserved =
        s.windowsVolumeObserved ∧
      (observeXm5AbsoluteVolumeThroughGate s g volume event).2.lastWindowsVolume =
        s.lastWindowsVolume := by
  unfold observeXm5AbsoluteVolumeThroughGate
  dsimp only
  split_ifs <;> exact ⟨rfl, rfl, rfl⟩

theorem seen_of_sends (hp : m.headsetPreferred)
    (h : v1AvrcpHasAction (avrcpMapper.out m op) .sendXm5Volume) : m.xm5VolumeSeen := by
  by_contra hs
  cases op with
  | observeVolumeCapability g supported =>
    simp only [Reducer.out, avrcpMapper, v1AvrcpObserveVolumeCapability] at h
    by_cases hc : m.isCurrentGeneration g
    · rw [if_neg (not_not.mpr hc)] at h
      exact filter_holds_back hp hs _ h
    · rw [if_pos hc] at h
      exact not_hasAction_none _ h
  | observeWindowsVolume g observed =>
    simp only [Reducer.out, avrcpMapper, v1AvrcpObserveWindowsVolume] at h
    split_ifs at h
    · exact filter_holds_back hp hs _ h
    · exact not_hasAction_none _ h
  | observeXm5AbsoluteVolume g volume event =>
    have hsilent : ∀ m' : V1AvrcpControlMapperState, ¬ v1AvrcpHasAction
        (mergeVolumeActions m'.snapshot
          (observeXm5AbsoluteVolumeThroughGate m.absoluteVolume g volume.toNat event).1)
        .sendXm5Volume := by
      intro m'
      rw [mergeVolumeActions_has]
      simp [(gate_observeXm5 m.absoluteVolume g volume event).1]
    simp only [Reducer.out, avrcpMapper, v1AvrcpObserveXm5AbsoluteVolume, adoptXm5Volume,
      filterHeadsetPreferredPush, or_true, if_true] at h
    split_ifs at h
    · exact hsilent _ h
    · exact hsilent _ (((hasAction_add _ _ _).mp h).resolve_left (by decide))
    · exact hsilent _ h
    · exact hsilent _ h
    · exact not_hasAction_none _ h
  | observePassThrough g id released =>
    simp only [Reducer.out, avrcpMapper, v1AvrcpObservePassThrough] at h
    split_ifs at h
    · exact (idle_mergePassThrough _ idle_snapshot _).xm5 h
    · exact not_hasAction_none _ h
  | setMediaSessionSnapshot snapshot =>
    simp only [Reducer.out, avrcpMapper, v1AvrcpSetMediaSessionSnapshot] at h
    split_ifs at h <;> simp at h
  | beginAclGeneration g =>
    simp only [Reducer.out, avrcpMapper, v1AvrcpBeginAclGeneration] at h
    split_ifs at h <;> simp at h
  | endAclGeneration g =>
    simp only [Reducer.out, avrcpMapper, v1AvrcpEndAclGeneration] at h
    split_ifs at h <;> simp at h
  | setControlMode g volumeSync mediaRouting =>
    simp only [Reducer.out, avrcpMapper, v1AvrcpSetControlMode] at h
    split_ifs at h <;> simp at h
  | acquireOwnerLease g lease =>
    simp only [Reducer.out, avrcpMapper, v1AvrcpAcquireOwnerLease] at h
    split_ifs at h <;> simp at h
  | revokeOwnerLease g lease =>
    simp only [Reducer.out, avrcpMapper, v1AvrcpRevokeOwnerLease] at h
    split_ifs at h <;> simp at h

theorem takesOver_of_authorized (hp : m.headsetPreferred) (hs : ¬ m.xm5VolumeSeen) {g : UInt64}
    (hc : m.isCurrentGeneration g) (hlease : m.ownerLease ≠ 0)
    (hmode : m.absoluteVolume.mode = .synchronize) (volume : UInt8)
    (event : AvrcpXm5VolumeEvent) :
    TakesOver m (.observeXm5AbsoluteVolume g volume event) := by
  refine ⟨hc, hlease, hmode, ?_⟩
  obtain ⟨-, hgain⟩ := gate_observeXm5 m.absoluteVolume g volume event
  obtain ⟨hkept, hobserved, hlast⟩ :=
    gate_observeXm5_windows m.absoluteVolume g volume.toNat event
  simp only [v1AvrcpObserveXm5AbsoluteVolume, adoptXm5Volume, filterHeadsetPreferredPush, hobserved,
    hlast, hkept, or_true, if_true]
  rw [if_neg (not_not.mpr hc), if_pos ⟨hp, hs⟩]
  split_ifs with hadopt hmatches
  · right
    obtain ⟨hknown, hpercent, hmuted⟩ := hmatches
    exact ⟨hknown, by rw [headsetGain, ← hpercent, ← hmuted]⟩
  · left
    exact ⟨(hasAction_add _ _ _).mpr (.inl rfl), rfl⟩
  · left
    have hset : v1AvrcpHasAction (mergeVolumeActions _ _) .setWindowsVolume :=
      not_not.mp fun hn => hadopt ⟨hlease, hmode, hn⟩
    refine ⟨hset, ?_⟩
    rw [mergeVolumeActions_has] at hset
    simp only [not_hasAction_snapshot, false_or, true_and, reduceCtorEq, false_and, or_false]
      at hset
    rw [← hgain hset]
    unfold mergeVolumeActions
    dsimp only
    rw [if_pos hset]
    split_ifs <;> rfl

theorem seen_step (hs : (avrcpMapper.next m op).xm5VolumeSeen) :
    (m.xm5VolumeSeen ∧ KeepsGeneration m op) ∨
      ∃ g volume event, op = .observeXm5AbsoluteVolume g volume event ∧ m.isCurrentGeneration g ∧
        m.headsetPreferred ∧ ¬ m.xm5VolumeSeen := by
  cases (own_next m op).2 with
  | same hg hc _ hseen => exact .inl ⟨hseen ▸ hs, Prod.ext hg hc⟩
  | acquires g lease hg hc _ hseen => exact .inl ⟨hseen ▸ hs, Prod.ext hg hc⟩
  | revokes g lease hg hc _ hseen => exact .inl ⟨hseen ▸ hs, Prod.ext hg hc⟩
  | begins g _ hseen => exact absurd hs hseen
  | ends g _ hseen => exact absurd hs hseen
  | sees g volume event _ _ _ hfirst => exact .inr ⟨g, volume, event, rfl, hfirst⟩

/-! ## Runs -/

theorem TakenOver.keeps (h : TakenOver m ops) (hk : KeepsGeneration (avrcpMapper.after m ops) op) :
    TakenOver m (ops ++ [op]) := by
  obtain ⟨before, t, since, rfl, ht, halong⟩ := h
  refine ⟨before, t, since ++ [op], by simp, ht, ?_⟩
  rw [← List.cons_append, Reducer.along_append]
  rw [Reducer.after_append] at hk
  exact ⟨halong, hk, trivial⟩

theorem TakesOver.takenOver (h : TakesOver (avrcpMapper.after m ops) op) :
    TakenOver m (ops ++ [op]) := by
  refine ⟨ops, op, [], rfl, h, ?_, trivial⟩
  cases op with
  | observeXm5AbsoluteVolume g volume event => exact generation_step _ trivial
  | _ => exact h.elim

theorem takenOver_of_seen (hs : ¬ m.xm5VolumeSeen)
    (ops : List V1AvrcpMapperOp) (hq : avrcpMapper.Along ComesAuthorized m ops)
    (hseen : (avrcpMapper.after m ops).xm5VolumeSeen) : TakenOver m ops := by
  induction ops using List.reverseRecOn with
  | nil => exact absurd hseen hs
  | append_singleton ops op ih =>
    rw [Reducer.along_append] at hq
    rw [Reducer.after_append] at hseen
    rcases seen_step hseen with ⟨hold, hkeeps⟩ | ⟨g, volume, event, rfl, hc, hpref, hfirst⟩
    · exact (ih hq.1 hold).keeps hkeeps
    · obtain ⟨hlease, hmode⟩ := hq.2.1 hc hfirst
      exact (takesOver_of_authorized hpref hfirst hc hlease hmode volume event).takenOver

/-- **The headset's volume comes first**: in a run in which the first headset volume of
    each generation comes authorized, no command is sent in a generation before a
    headset volume was taken over in it. -/
theorem headset_volume_first (hp : m.headsetPreferred) (hs : ¬ m.xm5VolumeSeen)
    (ops : List V1AvrcpMapperOp) (hq : avrcpMapper.Along ComesAuthorized m ops)
    (op : V1AvrcpMapperOp)
    (hsend : v1AvrcpHasAction (avrcpMapper.out (avrcpMapper.after m ops) op) .sendXm5Volume) :
    TakenOver m ops := by
  refine takenOver_of_seen hs ops hq (seen_of_sends ?_ hsend)
  exact Reducer.after_inv (P := fun s => s.headsetPreferred) (Q := fun _ _ => True)
    (fun s i h _ => (own_next s i).1.trans h) hp
    (Reducer.along_of_forall (fun _ _ => trivial) _ _)

theorem not_takenOver (h : avrcpMapper.Along (fun m op => ¬ TakesOver m op) m ops) :
    ¬ TakenOver m ops := by
  rintro ⟨before, op, since, rfl, htakes, -⟩
  rw [Reducer.along_append] at h
  exact h.2.1 htakes

def preferringMapper : V1AvrcpControlMapperState := { headsetPreferred := true }

/-- The lease and the mode come before the headset's volume: it is taken over. -/
theorem headset_volume_first_leased :
    TakenOver preferringMapper [.beginAclGeneration 1, .setControlMode 1 true false,
      .acquireOwnerLease 1 7, .observeXm5AbsoluteVolume 1 64 .remoteNotification,
      .observeVolumeCapability 1 true] :=
  headset_volume_first (by decide) (by decide) [.beginAclGeneration 1, .setControlMode 1 true false,
    .acquireOwnerLease 1 7, .observeXm5AbsoluteVolume 1 64 .remoteNotification,
    .observeVolumeCapability 1 true] (by decide) (.observeWindowsVolume 1 ⟨80, false⟩) (by decide)

/-- The headset's volume comes before the lease: the PC's volume is sent to the headset
    all the same. -/
theorem headset_volume_lost :
    let ops : List V1AvrcpMapperOp := [.beginAclGeneration 1,
      .observeXm5AbsoluteVolume 1 64 .remoteNotification, .observeVolumeCapability 1 true,
      .setControlMode 1 true false, .acquireOwnerLease 1 7]
    v1AvrcpHasAction (avrcpMapper.out (avrcpMapper.after preferringMapper ops)
        (.observeWindowsVolume 1 ⟨80, false⟩)) .sendXm5Volume ∧
      ¬ TakenOver preferringMapper ops :=
  ⟨by decide, not_takenOver (by decide)⟩

end NativeLdac.Agent
