/-
  The volumes the reducer records as sent, and the commands the mapper emits.

  The absolute-volume gate emits every volume that it lets the reducer record
  (`gate_emits`).  The mapper passes that decision on when an observation causes
  it, and drops it when a mode or a lease does.
-/
import NativeLdac.Agent.AvrcpMapperGates

namespace NativeLdac.Agent

open AvrcpAbsoluteVolumeAction

/-! ## Recording and emitting -/

/-- A synchronization with the headset: that one took place, whether its echo
    is awaited, and the volume sent. -/
def AvrcpAbsoluteVolumeState.synchronization (s : AvrcpAbsoluteVolumeState) : Bool × Bool × Nat :=
  (s.firstSessionSyncComplete, s.outboundEchoPending, s.lastXm5VolumeSent)

/-- Between the two states the reducer recorded a volume as sent to the
    headset. -/
def Records (before after : AvrcpAbsoluteVolumeState) (v : Nat) : Prop :=
  after.synchronization = (true, true, v) ∧ before.synchronization ≠ after.synchronization

/-- A decision asks to send a volume. -/
def Emits (d : AvrcpAbsoluteVolumeDecision) (v : Nat) : Prop :=
  hasAvrcpAbsoluteVolumeAction d .sendXm5AbsoluteVolume ∧ d.xm5AbsoluteVolume = v

variable {v : Nat}

theorem not_records_of_eq {before after : AvrcpAbsoluteVolumeState}
    (h : after.synchronization = before.synchronization) : ¬ Records before after v :=
  fun hr => hr.2 h.symm

theorem not_records_of_silent {before after : AvrcpAbsoluteVolumeState}
    (h : after.outboundEchoPending = false) : ¬ Records before after v := by
  intro hr
  have hecho : after.outboundEchoPending = true := congrArg (fun p => p.2.1) hr.1
  rw [h] at hecho
  cases hecho

theorem sendAuthoritative_emits {before s : AvrcpAbsoluteVolumeState}
    (hs : s.synchronization = before.synchronization)
    (h : Records before (sendAuthoritativeWindowsVolume s).2 v) :
    Emits (sendAuthoritativeWindowsVolume s).1 v := by
  unfold sendAuthoritativeWindowsVolume at h ⊢
  split_ifs at h ⊢
  · exact absurd h (not_records_of_eq hs)
  · refine ⟨by simp, ?_⟩
    exact congrArg (fun p => p.2.2) h.1

theorem observeWindows_emits {s : AvrcpAbsoluteVolumeState} {g : UInt64}
    {volume : AvrcpWindowsVolume} (h : Records s (observeWindowsEndpointVolume s g volume).2 v) :
    Emits (observeWindowsEndpointVolume s g volume).1 v := by
  unfold observeWindowsEndpointVolume at h ⊢
  dsimp only at h ⊢
  split_ifs at h ⊢
  · exact absurd h (not_records_of_silent rfl)
  · exact sendAuthoritative_emits rfl h
  · exact absurd h (not_records_of_eq rfl)
  · exact absurd h (not_records_of_eq rfl)
  · exact sendAuthoritative_emits rfl h
  · exact absurd h (not_records_of_eq rfl)

theorem observeXm5_not_records {s : AvrcpAbsoluteVolumeState} {g : UInt64} {volume v : Nat}
    {event : AvrcpXm5VolumeEvent} :
    ¬ Records s (observeXm5AbsoluteVolume s g volume event).2 v := by
  unfold observeXm5AbsoluteVolume
  dsimp only
  split_ifs
  · exact not_records_of_eq rfl
  · exact not_records_of_silent rfl
  · exact not_records_of_eq rfl
  · exact not_records_of_eq rfl
  · exact not_records_of_silent rfl
  · exact not_records_of_silent rfl

theorem beginSession_fresh {g : UInt64} (hg : g ≠ 0) (volume : AvrcpWindowsVolume) :
    beginAvrcpAbsoluteVolumeSession {} g .supported volume =
      ({ actions := sendXm5AbsoluteVolume.bit
         xm5AbsoluteVolume := projectWindowsVolumeToXm5 (clampWindowsVolume volume) },
        { generation := g
          sessionActive := true
          support := .supported
          windowsVolumeKnown := true
          windowsVolume := clampWindowsVolume volume
          firstSessionSyncComplete := true
          outboundEchoPending := true
          lastXm5VolumeSent := projectWindowsVolumeToXm5 (clampWindowsVolume volume) }) := by
  have hnew : isNewerGeneration g 0 := by simp [isNewerGeneration, hg]
  unfold beginAvrcpAbsoluteVolumeSession sendAuthoritativeWindowsVolume
  rw [if_neg (not_not.mpr hnew)]
  rfl

/-! ## The gate -/

/-- The gate starts a session in the state. -/
def Starts (s : AvrcpAbsoluteVolumeGateState) : Prop :=
  gateCanSynchronize s ∧ ¬ s.reducer.sessionActive

instance (s : AvrcpAbsoluteVolumeGateState) : Decidable (Starts s) :=
  inferInstanceAs (Decidable (_ ∧ _))

theorem ne_zero_of_gateCanSynchronize {s : AvrcpAbsoluteVolumeGateState}
    (h : gateCanSynchronize s) : s.aclGeneration ≠ 0 := by
  unfold gateCanSynchronize at h
  rw [decide_eq_true_eq] at h
  exact h.2.1

theorem activate_of_starts {s : AvrcpAbsoluteVolumeGateState} (h : Starts s) :
    activateGateIfAuthorized s =
      ({ volume := (beginAvrcpAbsoluteVolumeSession {} s.aclGeneration .supported
           s.lastWindowsVolume).1
         aclGeneration := s.aclGeneration
         ownerLease := s.ownerLease
         authorizationEpoch := s.authorizationEpoch },
        { s with reducer := (beginAvrcpAbsoluteVolumeSession {} s.aclGeneration .supported
            s.lastWindowsVolume).2 }) := by
  have hg := ne_zero_of_gateCanSynchronize h.1
  unfold activateGateIfAuthorized
  rw [if_neg (by rw [not_or, not_not]; exact h)]
  dsimp only [resetGateReducer]
  rw [beginSession_fresh hg]
  unfold authorizeGateDecision
  rw [if_neg]
  rw [not_or, not_not]
  refine ⟨h.1, ?_⟩
  show ¬ sendXm5AbsoluteVolume.bit = 0
  decide

theorem activate_of_not_starts {s : AvrcpAbsoluteVolumeGateState} (h : ¬ Starts s) :
    activateGateIfAuthorized s = ({}, s) := by
  unfold activateGateIfAuthorized
  rw [if_pos]
  by_contra hne
  rw [not_or, not_not] at hne
  exact h hne

/-- Outside a session the reducer is fresh. -/
def Fresh (s : AvrcpAbsoluteVolumeGateState) : Prop :=
  ¬ s.reducer.sessionActive → s.reducer = {}

theorem fresh_of_reducer {s s' : AvrcpAbsoluteVolumeGateState} (h : Fresh s)
    (hr : s'.reducer = s.reducer) : Fresh s' := by
  unfold Fresh
  rw [hr]
  exact h

theorem fresh_of_active {s : AvrcpAbsoluteVolumeGateState} (h : s.reducer.sessionActive) :
    Fresh s :=
  fun hn => absurd h hn

theorem fresh_activate {s : AvrcpAbsoluteVolumeGateState} (h : Fresh s) :
    Fresh (activateGateIfAuthorized s).2 := by
  by_cases hs : Starts s
  · rw [activate_of_starts hs, beginSession_fresh (ne_zero_of_gateCanSynchronize hs.1)]
    exact fresh_of_active rfl
  · rw [activate_of_not_starts hs]
    exact h

theorem observeWindows_sessionActive (s : AvrcpAbsoluteVolumeState) (g : UInt64)
    (volume : AvrcpWindowsVolume) :
    (observeWindowsEndpointVolume s g volume).2.sessionActive = s.sessionActive := by
  unfold observeWindowsEndpointVolume sendAuthoritativeWindowsVolume
  dsimp only
  split_ifs <;> rfl

theorem observeXm5_sessionActive (s : AvrcpAbsoluteVolumeState) (g : UInt64) (volume : Nat)
    (event : AvrcpXm5VolumeEvent) :
    (observeXm5AbsoluteVolume s g volume event).2.sessionActive = s.sessionActive := by
  unfold observeXm5AbsoluteVolume
  dsimp only
  split_ifs <;> rfl

theorem fresh_step {s : AvrcpAbsoluteVolumeGateState} (h : Fresh s)
    (op : AvrcpAbsoluteVolumeGateOp) : Fresh (absoluteVolumeGate.next s op) := by
  cases op with
  | beginAcl g =>
    simp only [Reducer.next, absoluteVolumeGate, beginAvrcpAbsoluteVolumeAclGeneration]
    split_ifs
    · intro _
      rfl
    · exact h
  | setMode g mode =>
    simp only [Reducer.next, absoluteVolumeGate, setAvrcpAbsoluteVolumeGateMode]
    split_ifs
    · intro _
      rfl
    · exact fresh_activate (fresh_of_reducer h rfl)
    · exact h
  | acquireLease g lease =>
    simp only [Reducer.next, absoluteVolumeGate, acquireAvrcpAbsoluteVolumeOwnerLease]
    split_ifs
    · exact h
    · exact fresh_activate (fresh_of_reducer h rfl)
  | revokeLease g lease =>
    simp only [Reducer.next, absoluteVolumeGate, revokeAvrcpAbsoluteVolumeOwnerLease]
    split_ifs
    · exact h
    · intro _
      rfl
  | observeCapability g support =>
    simp only [Reducer.next, absoluteVolumeGate, observeAvrcpAbsoluteVolumeCapability]
    split_ifs
    · intro _
      rfl
    · exact fresh_activate (fresh_of_reducer h rfl)
    · exact h
  | observeWindows g volume =>
    simp only [Reducer.next, absoluteVolumeGate, observeWindowsEndpointVolumeThroughGate]
    split_ifs with hc hs ha
    · exact fresh_of_active ((observeWindows_sessionActive _ _ _).trans ha)
    · exact fresh_activate (fresh_of_reducer h rfl)
    · exact fresh_of_reducer h rfl
    · exact h
  | observeXm5 g volume event =>
    simp only [Reducer.next, absoluteVolumeGate, observeXm5AbsoluteVolumeThroughGate]
    split_ifs with hc hs
    · exact h
    · exact fresh_of_reducer h rfl
    · refine fresh_of_active ?_
      rw [not_or, not_not, not_not] at hs
      exact (observeXm5_sessionActive _ _ _ _).trans hs.2
  | endAcl g =>
    simp only [Reducer.next, absoluteVolumeGate, endAvrcpAbsoluteVolumeAclGeneration]
    split_ifs
    · intro _
      rfl
    · exact h

theorem activate_emits {r : AvrcpAbsoluteVolumeState} {s : AvrcpAbsoluteVolumeGateState}
    (hr : s.reducer = r) (h : Records r (activateGateIfAuthorized s).2.reducer v) :
    Emits (activateGateIfAuthorized s).1.volume v := by
  by_cases hs : Starts s
  · rw [activate_of_starts hs, beginSession_fresh (ne_zero_of_gateCanSynchronize hs.1)] at h ⊢
    refine ⟨by simp, ?_⟩
    exact congrArg (fun p => p.2.2) h.1
  · rw [activate_of_not_starts hs] at h
    exact absurd h (not_records_of_eq (congrArg _ hr))

theorem records_of_starts {s : AvrcpAbsoluteVolumeGateState} (hf : Fresh s) (h : Starts s) :
    Records s.reducer (activateGateIfAuthorized s).2.reducer
      (projectWindowsVolumeToXm5 (clampWindowsVolume s.lastWindowsVolume)) := by
  rw [activate_of_starts h, beginSession_fresh (ne_zero_of_gateCanSynchronize h.1), hf h.2]
  refine ⟨rfl, ?_⟩
  intro heq
  cases congrArg Prod.fst heq

theorem authorize_emits {s : AvrcpAbsoluteVolumeGateState} {d : AvrcpAbsoluteVolumeDecision}
    (hs : gateCanSynchronize s) (h : Emits d v) :
    Emits (authorizeGateDecision s d).volume v := by
  have hne : d.actions ≠ 0 := by
    intro hz
    have hsend := h.1
    unfold hasAvrcpAbsoluteVolumeAction at hsend
    rw [hz] at hsend
    simp at hsend
  unfold authorizeGateDecision
  rw [if_neg]
  · exact h
  · rw [not_or, not_not]
    exact ⟨hs, hne⟩

theorem gate_emits {s : AvrcpAbsoluteVolumeGateState} (op : AvrcpAbsoluteVolumeGateOp)
    (h : Records s.reducer (absoluteVolumeGate.next s op).reducer v) :
    Emits (absoluteVolumeGate.out s op).volume v := by
  cases op with
  | beginAcl g =>
    simp only [Reducer.next, absoluteVolumeGate, beginAvrcpAbsoluteVolumeAclGeneration] at h
    split_ifs at h
    · exact absurd h (not_records_of_silent rfl)
    · exact absurd h (not_records_of_eq rfl)
  | setMode g mode =>
    simp only [Reducer.next, Reducer.out, absoluteVolumeGate,
      setAvrcpAbsoluteVolumeGateMode] at h ⊢
    split_ifs at h ⊢
    · exact absurd h (not_records_of_silent rfl)
    · exact activate_emits rfl h
    · exact absurd h (not_records_of_eq rfl)
  | acquireLease g lease =>
    simp only [Reducer.next, Reducer.out, absoluteVolumeGate,
      acquireAvrcpAbsoluteVolumeOwnerLease] at h ⊢
    split_ifs at h ⊢
    · exact absurd h (not_records_of_eq rfl)
    · exact activate_emits rfl h
  | revokeLease g lease =>
    simp only [Reducer.next, absoluteVolumeGate, revokeAvrcpAbsoluteVolumeOwnerLease] at h
    split_ifs at h
    · exact absurd h (not_records_of_eq rfl)
    · exact absurd h (not_records_of_silent rfl)
  | observeCapability g support =>
    simp only [Reducer.next, Reducer.out, absoluteVolumeGate,
      observeAvrcpAbsoluteVolumeCapability] at h ⊢
    split_ifs at h ⊢
    · exact absurd h (not_records_of_silent rfl)
    · exact activate_emits rfl h
    · exact absurd h (not_records_of_eq rfl)
  | observeWindows g volume =>
    simp only [Reducer.next, Reducer.out, absoluteVolumeGate,
      observeWindowsEndpointVolumeThroughGate] at h ⊢
    split_ifs at h ⊢ with hc hs ha
    · exact authorize_emits hs (observeWindows_emits h)
    · exact activate_emits rfl h
    · exact absurd h (not_records_of_eq rfl)
    · exact absurd h (not_records_of_eq rfl)
  | observeXm5 g volume event =>
    simp only [Reducer.next, absoluteVolumeGate, observeXm5AbsoluteVolumeThroughGate] at h
    split_ifs at h
    · exact absurd h (not_records_of_eq rfl)
    · exact absurd h (not_records_of_eq rfl)
    · exact absurd h observeXm5_not_records
  | endAcl g =>
    simp only [Reducer.next, absoluteVolumeGate, endAvrcpAbsoluteVolumeAclGeneration] at h
    split_ifs at h
    · exact absurd h (not_records_of_silent rfl)
    · exact absurd h (not_records_of_eq rfl)

/-! ## The mapper -/

variable {s : V1AvrcpControlMapperState}

/-- Every volume that the operation records, its action set sends. -/
def Sent (s : V1AvrcpControlMapperState) (op : V1AvrcpMapperOp) : Prop :=
  ∀ v, Records s.absoluteVolume.reducer (avrcpMapper.next s op).absoluteVolume.reducer v →
    v1AvrcpHasAction (avrcpMapper.out s op) .sendXm5Volume ∧
      (avrcpMapper.out s op).xm5AbsoluteVolume = v

/-- The operation's mode or lease is the last thing the gate misses to start a
    session. -/
def StartsUnsent (s : V1AvrcpControlMapperState) : V1AvrcpMapperOp → Prop
  | .setControlMode g volumeSync _ => s.isCurrentGeneration g ∧ volumeSync ∧
    Starts { s.absoluteVolume with mode := .synchronize }
  | .acquireOwnerLease g lease => s.isCurrentGeneration g ∧ lease ≠ 0 ∧
    (s.absoluteVolume.ownerLease = 0 ∨ s.absoluteVolume.ownerLease = lease) ∧
    Starts { s.absoluteVolume with ownerLease := lease }
  | _ => False

instance (s : V1AvrcpControlMapperState) (op : V1AvrcpMapperOp) :
    Decidable (StartsUnsent s op) :=
  match op with
  | .setControlMode _ _ _ => inferInstanceAs (Decidable (_ ∧ _ ∧ _))
  | .acquireOwnerLease _ _ => inferInstanceAs (Decidable (_ ∧ _ ∧ _ ∧ _))
  | .beginAclGeneration _ | .endAclGeneration _ | .revokeOwnerLease _ _
  | .observeVolumeCapability _ _ | .observeWindowsVolume _ _ | .observeXm5AbsoluteVolume _ _ _
  | .observePassThrough _ _ _ | .setMediaSessionSnapshot _ => isFalse id

structure PcPreferred (s : V1AvrcpControlMapperState) : Prop where
  follows : s.Follows
  fresh : Fresh s.absoluteVolume
  preferred : s.headsetPreferred = false

theorem mergeVolumeActions_emits {actions : V1AvrcpActionSet}
    {d : AvrcpAbsoluteVolumeGateDecision} (h : Emits d.volume v) :
    v1AvrcpHasAction (mergeVolumeActions actions d) .sendXm5Volume ∧
      (mergeVolumeActions actions d).xm5AbsoluteVolume = v := by
  unfold mergeVolumeActions
  rw [if_pos h.1]
  refine ⟨?_, h.2⟩
  simp [v1AvrcpHasAction, V1AvrcpActionSet.add]

theorem filtered_emits (h : s.headsetPreferred = false) {actions : V1AvrcpActionSet}
    {d : AvrcpAbsoluteVolumeGateDecision} (hd : Emits d.volume v) :
    v1AvrcpHasAction (filterHeadsetPreferredPush s (mergeVolumeActions actions d))
        .sendXm5Volume ∧
      (filterHeadsetPreferredPush s (mergeVolumeActions actions d)).xm5AbsoluteVolume = v := by
  unfold filterHeadsetPreferredPush
  rw [if_pos (.inl (by simp [h]))]
  exact mergeVolumeActions_emits hd

theorem sent_of_eq {op : V1AvrcpMapperOp}
    (h : (avrcpMapper.next s op).absoluteVolume = s.absoluteVolume) : Sent s op := by
  intro v hr
  rw [h] at hr
  exact absurd rfl hr.2

theorem not_records_of_silent_gate {s : AvrcpAbsoluteVolumeGateState}
    (op : AvrcpAbsoluteVolumeGateOp) (h : (absoluteVolumeGate.out s op).volume.actions = 0) :
    ¬ Records s.reducer (absoluteVolumeGate.next s op).reducer v := by
  intro hr
  have hemits := (gate_emits op hr).1
  unfold hasAvrcpAbsoluteVolumeAction at hemits
  rw [h] at hemits
  simp at hemits

theorem sent_iff_of_dropped {op : V1AvrcpMapperOp} (gate : AvrcpAbsoluteVolumeGateState)
    (hf : Fresh s.absoluteVolume) (hr : gate.reducer = s.absoluteVolume.reducer)
    (hnext : (avrcpMapper.next s op).absoluteVolume = (activateGateIfAuthorized gate).2)
    (hout : (avrcpMapper.out s op).actions = []) : Sent s op ↔ ¬ Starts gate := by
  constructor
  · intro hsent hs
    have hrec := records_of_starts (fresh_of_reducer hf hr) hs
    rw [← hnext, hr] at hrec
    have hin := (hsent _ hrec).1
    unfold v1AvrcpHasAction at hin
    rw [hout] at hin
    simp at hin
  · intro hs v hrec
    rw [hnext, activate_of_not_starts hs] at hrec
    exact absurd (congrArg _ hr.symm) hrec.2

theorem V1AvrcpControlMapperState.Follows.isCurrentAclGeneration (h : s.Follows) (g : UInt64) :
    isCurrentAclGeneration s.absoluteVolume g = s.isCurrentGeneration g :=
  h.isCurrent_absoluteVolume g

theorem sent_setControlMode (h : PcPreferred s) (g : UInt64) (volumeSync mediaRouting : Bool) :
    Sent s (.setControlMode g volumeSync mediaRouting) ↔
      ¬ StartsUnsent s (.setControlMode g volumeSync mediaRouting) := by
  by_cases hc : s.isCurrentGeneration g
  · have hcur := (h.follows.isCurrentAclGeneration g).trans hc
    have hstep : avrcpMapper.step s (.setControlMode g volumeSync mediaRouting) =
        v1AvrcpSetControlMode s g volumeSync mediaRouting := rfl
    unfold v1AvrcpSetControlMode at hstep
    rw [if_neg (not_not.mpr hc)] at hstep
    have hgate : (avrcpMapper.next s (.setControlMode g volumeSync mediaRouting)).absoluteVolume =
        (setAvrcpAbsoluteVolumeGateMode s.absoluteVolume g
          (if volumeSync then .synchronize else .observeOnly)).2 := by
      rw [Reducer.next, hstep]
    have hout : (avrcpMapper.out s (.setControlMode g volumeSync mediaRouting)).actions = [] := by
      rw [Reducer.out, hstep]
      rfl
    unfold setAvrcpAbsoluteVolumeGateMode at hgate
    rw [if_neg (not_not.mpr hcur)] at hgate
    cases volumeSync with
    | true =>
      refine (sent_iff_of_dropped { s.absoluteVolume with mode := .synchronize }
        h.fresh rfl hgate hout).trans (not_congr ?_)
      exact ⟨fun hs => ⟨hc, rfl, hs⟩, fun hs => hs.2.2⟩
    | false =>
      refine ⟨fun _ hs => Bool.false_ne_true hs.2.1, fun _ v hr => ?_⟩
      rw [hgate] at hr
      exact absurd hr (not_records_of_silent rfl)
  · refine ⟨fun _ hs => hc hs.1, fun _ => sent_of_eq ?_⟩
    show (v1AvrcpSetControlMode s g volumeSync mediaRouting).2.absoluteVolume = _
    unfold v1AvrcpSetControlMode
    rw [if_pos hc]

theorem sent_acquireOwnerLease (h : PcPreferred s) (g lease : UInt64) :
    Sent s (.acquireOwnerLease g lease) ↔ ¬ StartsUnsent s (.acquireOwnerLease g lease) := by
  by_cases hc : ¬ s.isCurrentGeneration g ∨ lease = 0
  · refine ⟨fun _ hs => ?_, fun _ => sent_of_eq ?_⟩
    · rcases hc with hc | hz
      · exact hc hs.1
      · exact hs.2.1 hz
    · show (v1AvrcpAcquireOwnerLease s g lease).2.absoluteVolume = _
      unfold v1AvrcpAcquireOwnerLease
      rw [if_pos hc]
  · have hgate : (avrcpMapper.next s (.acquireOwnerLease g lease)).absoluteVolume =
        (acquireAvrcpAbsoluteVolumeOwnerLease s.absoluteVolume g lease).2 := by
      show (v1AvrcpAcquireOwnerLease s g lease).2.absoluteVolume = _
      unfold v1AvrcpAcquireOwnerLease
      rw [if_neg hc]
      dsimp only
      split_ifs <;> rfl
    have hout : (avrcpMapper.out s (.acquireOwnerLease g lease)).actions = [] := by
      show (v1AvrcpAcquireOwnerLease s g lease).1.actions = _
      unfold v1AvrcpAcquireOwnerLease
      rw [if_neg hc]
      dsimp only
      split_ifs <;> rfl
    rw [not_or, not_not] at hc
    have hcur := (h.follows.isCurrentAclGeneration g).trans hc.1
    unfold acquireAvrcpAbsoluteVolumeOwnerLease at hgate
    by_cases hother : s.absoluteVolume.ownerLease ≠ 0 ∧ s.absoluteVolume.ownerLease ≠ lease
    · rw [if_pos (.inr (.inr hother))] at hgate
      refine ⟨fun _ hs => ?_, fun _ => sent_of_eq hgate⟩
      rcases hs.2.2.1 with hz | heq
      · exact hother.1 hz
      · exact hother.2 heq
    · rw [if_neg (by rw [not_or, not_or, not_not]; exact ⟨hc.2, hcur, hother⟩)] at hgate
      refine (sent_iff_of_dropped { s.absoluteVolume with ownerLease := lease }
        h.fresh rfl hgate hout).trans (not_congr ?_)
      rw [ne_eq, ne_eq, ← not_or, not_not] at hother
      exact ⟨fun hs => ⟨hc.1, hc.2, hother, hs⟩, fun hs => hs.2.2.2⟩

theorem sent_iff (h : PcPreferred s) (op : V1AvrcpMapperOp) : Sent s op ↔ ¬ StartsUnsent s op := by
  cases op with
  | setControlMode g volumeSync mediaRouting =>
    exact sent_setControlMode h g volumeSync mediaRouting
  | acquireOwnerLease g lease => exact sent_acquireOwnerLease h g lease
  | beginAclGeneration g =>
    refine ⟨fun _ => id, fun _ v hr => ?_⟩
    have hgate : (avrcpMapper.next s (.beginAclGeneration g)).absoluteVolume =
        absoluteVolumeGate.next s.absoluteVolume (.beginAcl g) := by
      show (v1AvrcpBeginAclGeneration s g).2.absoluteVolume = _
      unfold v1AvrcpBeginAclGeneration
      dsimp only
      split_ifs <;> rfl
    rw [hgate] at hr
    refine absurd hr (not_records_of_silent_gate (.beginAcl g) ?_)
    show (beginAvrcpAbsoluteVolumeAclGeneration s.absoluteVolume g).1.volume.actions = 0
    unfold beginAvrcpAbsoluteVolumeAclGeneration
    split_ifs <;> rfl
  | endAclGeneration g =>
    refine ⟨fun _ => id, fun _ v hr => ?_⟩
    simp only [Reducer.next, avrcpMapper, v1AvrcpEndAclGeneration] at hr
    split_ifs at hr
    · refine absurd hr (not_records_of_silent_gate (.endAcl g) ?_)
      show (endAvrcpAbsoluteVolumeAclGeneration s.absoluteVolume g).1.volume.actions = 0
      unfold endAvrcpAbsoluteVolumeAclGeneration
      split_ifs <;> rfl
    · exact absurd rfl hr.2
  | revokeOwnerLease g lease =>
    refine ⟨fun _ => id, fun _ v hr => ?_⟩
    simp only [Reducer.next, avrcpMapper, v1AvrcpRevokeOwnerLease] at hr
    split_ifs at hr
    · exact absurd rfl hr.2
    · refine absurd hr (not_records_of_silent_gate (.revokeLease g lease) ?_)
      show (revokeAvrcpAbsoluteVolumeOwnerLease s.absoluteVolume g lease).1.volume.actions = 0
      unfold revokeAvrcpAbsoluteVolumeOwnerLease
      split_ifs <;> rfl
  | observeVolumeCapability g supported =>
    refine ⟨fun _ => id, fun _ v hr => ?_⟩
    simp only [Reducer.next, Reducer.out, avrcpMapper, v1AvrcpObserveVolumeCapability] at hr ⊢
    by_cases hc : s.isCurrentGeneration g
    · rw [if_neg (not_not.mpr hc)] at hr ⊢
      exact filtered_emits h.preferred
        (gate_emits (.observeCapability g (if supported then .supported else .unsupported)) hr)
    · rw [if_pos hc] at hr
      exact absurd rfl hr.2
  | observeWindowsVolume g observed =>
    refine ⟨fun _ => id, fun _ v hr => ?_⟩
    simp only [Reducer.next, Reducer.out, avrcpMapper, v1AvrcpObserveWindowsVolume] at hr ⊢
    by_cases hc : s.isCurrentGeneration g
    · rw [if_neg (not_not.mpr hc)] at hr ⊢
      exact filtered_emits h.preferred (gate_emits (.observeWindows g observed) hr)
    · rw [if_pos hc] at hr
      exact absurd rfl hr.2
  | observeXm5AbsoluteVolume g volume event =>
    refine ⟨fun _ => id, fun _ v hr => ?_⟩
    simp only [Reducer.next, Reducer.out, avrcpMapper, v1AvrcpObserveXm5AbsoluteVolume] at hr ⊢
    by_cases hc : s.isCurrentGeneration g
    · have hadopt : ¬ (s.headsetPreferred ∧ ¬ s.xm5VolumeSeen) := by simp [h.preferred]
      rw [if_neg (not_not.mpr hc), if_neg hadopt] at hr ⊢
      exact mergeVolumeActions_emits (gate_emits (.observeXm5 g volume.toNat event) hr)
    · rw [if_pos hc] at hr
      exact absurd rfl hr.2
  | observePassThrough g id released =>
    refine ⟨fun _ => False.elim, fun _ => sent_of_eq ?_⟩
    simp only [Reducer.next, avrcpMapper, v1AvrcpObservePassThrough, updatePlaybackState]
    split_ifs <;> rfl
  | setMediaSessionSnapshot snapshot =>
    refine ⟨fun _ => False.elim, fun _ => sent_of_eq ?_⟩
    simp only [Reducer.next, avrcpMapper, v1AvrcpSetMediaSessionSnapshot]
    split_ifs <;> rfl

theorem absoluteVolume_next (h : s.headsetPreferred = false) (op : V1AvrcpMapperOp) :
    (avrcpMapper.next s op).absoluteVolume = s.absoluteVolume ∨
      ∃ gateOp, (avrcpMapper.next s op).absoluteVolume =
        absoluteVolumeGate.next s.absoluteVolume gateOp := by
  cases op with
  | beginAclGeneration g =>
    refine .inr ⟨.beginAcl g, ?_⟩
    simp only [Reducer.next, avrcpMapper, v1AvrcpBeginAclGeneration]
    split_ifs <;> rfl
  | endAclGeneration g =>
    simp only [Reducer.next, avrcpMapper, v1AvrcpEndAclGeneration]
    split_ifs
    · exact .inr ⟨.endAcl g, rfl⟩
    · exact .inl rfl
  | setControlMode g volumeSync mediaRouting =>
    simp only [Reducer.next, avrcpMapper, v1AvrcpSetControlMode]
    by_cases hc : s.isCurrentGeneration g
    · rw [if_neg (not_not.mpr hc)]
      exact .inr ⟨.setMode g (if volumeSync then .synchronize else .observeOnly), rfl⟩
    · rw [if_pos hc]
      exact .inl rfl
  | acquireOwnerLease g lease =>
    simp only [Reducer.next, avrcpMapper, v1AvrcpAcquireOwnerLease]
    split_ifs
    · exact .inl rfl
    · exact .inr ⟨.acquireLease g lease, rfl⟩
    · exact .inr ⟨.acquireLease g lease, rfl⟩
  | revokeOwnerLease g lease =>
    simp only [Reducer.next, avrcpMapper, v1AvrcpRevokeOwnerLease]
    split_ifs
    · exact .inl rfl
    · exact .inr ⟨.revokeLease g lease, rfl⟩
  | observeVolumeCapability g supported =>
    simp only [Reducer.next, avrcpMapper, v1AvrcpObserveVolumeCapability]
    by_cases hc : s.isCurrentGeneration g
    · rw [if_neg (not_not.mpr hc)]
      exact .inr ⟨.observeCapability g (if supported then .supported else .unsupported), rfl⟩
    · rw [if_pos hc]
      exact .inl rfl
  | observeWindowsVolume g observed =>
    simp only [Reducer.next, avrcpMapper, v1AvrcpObserveWindowsVolume]
    split_ifs
    · exact .inr ⟨.observeWindows g observed, rfl⟩
    · exact .inl rfl
  | observeXm5AbsoluteVolume g volume event =>
    have hadopt : ¬ (s.headsetPreferred ∧ ¬ s.xm5VolumeSeen) := by simp [h]
    simp only [Reducer.next, avrcpMapper, v1AvrcpObserveXm5AbsoluteVolume]
    by_cases hc : s.isCurrentGeneration g
    · rw [if_neg (not_not.mpr hc), if_neg hadopt]
      exact .inr ⟨.observeXm5 g volume.toNat event, rfl⟩
    · rw [if_pos hc]
      exact .inl rfl
  | observePassThrough g id released =>
    refine .inl ?_
    simp only [Reducer.next, avrcpMapper, v1AvrcpObservePassThrough, updatePlaybackState]
    split_ifs <;> rfl
  | setMediaSessionSnapshot snapshot =>
    refine .inl ?_
    simp only [Reducer.next, avrcpMapper, v1AvrcpSetMediaSessionSnapshot]
    split_ifs <;> rfl

theorem pcPreferred_step (h : PcPreferred s) (op : V1AvrcpMapperOp) :
    PcPreferred (avrcpMapper.next s op) where
  follows := follows_step h.follows op
  fresh := by
    rcases absoluteVolume_next h.preferred op with heq | ⟨gateOp, heq⟩
    · rw [heq]
      exact h.fresh
    · rw [heq]
      exact fresh_step h.fresh gateOp
  preferred := (own_next s op).1.trans h.preferred

theorem pcPreferred_init : PcPreferred {} :=
  ⟨synced_init.follows, fun _ => rfl, rfl⟩

theorem along_sent (h : PcPreferred s) (ops : List V1AvrcpMapperOp) :
    avrcpMapper.Along Sent s ops ↔ avrcpMapper.Along (fun s op => ¬ StartsUnsent s op) s ops :=
  Reducer.along_congr (Q := fun _ _ => True) (fun _ op h _ _ => pcPreferred_step h op)
    (fun _ op h _ => sent_iff h op) h (Reducer.along_of_forall (fun _ _ => trivial) _ _)

/-- **Every volume recorded is sent** exactly in the runs in which no mode and no
    lease is the last thing the gate misses. -/
theorem sent_along_iff (ops : List V1AvrcpMapperOp) :
    avrcpMapper.Along Sent {} ops ↔ avrcpMapper.Along (fun s op => ¬ StartsUnsent s op) {} ops :=
  along_sent pcPreferred_init ops

/-- The mode comes last: the volume is recorded and not sent. -/
theorem mode_last_unsent :
    ¬ avrcpMapper.Along Sent {} [.beginAclGeneration 1, .observeVolumeCapability 1 true,
      .observeWindowsVolume 1 ⟨50, false⟩, .acquireOwnerLease 1 7,
      .setControlMode 1 true false] := by
  rw [along_sent pcPreferred_init]
  decide

end NativeLdac.Agent
