/-
  Two remote volumes in flight: the headset changes twice before Windows has
  answered once. The reducer has one slot for what it waits for, so the first
  of the two callbacks is taken for a refusal of the second request.
-/
import Mathlib.Tactic.ByContra
import NativeLdac.Agent.VolumeEcho

namespace NativeLdac.Agent

open AvrcpAbsoluteVolumeAction

/-- The value survives the detour over the percents. -/
def Survives (v : Nat) : Prop :=
  windowsPercentToXm5AbsoluteVolume (xm5AbsoluteVolumeToWindowsPercent v) = v

instance (v : Nat) : Decidable (Survives v) := inferInstanceAs (Decidable (_ = _))

/-- The volumes that decisions ask the endpoint for. -/
def requestedVolumes (decisions : List AvrcpAbsoluteVolumeDecision) : List AvrcpWindowsVolume :=
  (decisions.filter fun d => hasAvrcpAbsoluteVolumeAction d .setWindowsEndpoint).map
    (·.windowsVolume)

/-- The decisions on the callbacks of an endpoint that applies volumes in their order. -/
def callbackDecisions (s : AvrcpAbsoluteVolumeState) (g : UInt64) :
    List AvrcpWindowsVolume → List AvrcpAbsoluteVolumeDecision
  | [] => []
  | w :: ws =>
    absoluteVolume.out s (.observeWindows g w) ::
      callbackDecisions (absoluteVolume.next s (.observeWindows g w)) g ws

/-- The remote values `a` and `b` arrive before any callback; then the endpoint applies what
    was requested, in order. The headset is told nothing, and Windows ends at `b`. -/
def LatestWins (s : AvrcpAbsoluteVolumeState) (a b : Nat) : Prop :=
  let g := s.generation
  let first := absoluteVolume.step s (.observeXm5 g a .remoteNotification)
  let second := absoluteVolume.step first.2 (.observeXm5 g b .remoteNotification)
  let volumes := requestedVolumes [first.1, second.1]
  (∀ d ∈ [first.1, second.1] ++ callbackDecisions second.2 g volumes,
    ¬ hasAvrcpAbsoluteVolumeAction d .sendXm5AbsoluteVolume) ∧
  projectWindowsVolumeToXm5
    (absoluteVolume.after second.2 (volumes.map (.observeWindows g))).windowsVolume = b

section
variable {s : AvrcpAbsoluteVolumeState} {g : UInt64} {v : Nat}

theorem Survives.le (h : Survives v) : v ≤ 127 := by
  rw [← h]
  unfold windowsPercentToXm5AbsoluteVolume
  omega

theorem Survives.project (h : Survives v) :
    projectWindowsVolumeToXm5 (clampWindowsVolume (convertXm5Volume v)) = v := by
  rw [clamp_convertXm5Volume, project_convertXm5Volume h.le]
  exact h

/-- The state that waits for a remote value to be applied. -/
def awaiting (s : AvrcpAbsoluteVolumeState) (v : Nat) : AvrcpAbsoluteVolumeState :=
  { s with
    inboundVolumeSeen := true, lastXm5VolumeReceived := v, outboundEchoPending := false
    windowsUpdatePending := true, pendingXm5Volume := v }

/-- The request of a remote value. -/
def volumeRequest (v : Nat) : AvrcpAbsoluteVolumeDecision :=
  { actions := setWindowsEndpoint.bit, windowsVolume := convertXm5Volume v }

theorem observeRemote_new (h : SessionInv s) (ha : s.sessionActive = true)
    (hs : s.support = .supported) (hv : v ≤ 127)
    (hnew : ¬ (s.inboundVolumeSeen = true ∧ v = s.lastXm5VolumeReceived))
    (hd : v ≠ projectWindowsVolumeToXm5 s.windowsVolume) :
    absoluteVolume.step s (.observeXm5 s.generation v .remoteNotification) =
      (volumeRequest v, awaiting s v) := by
  show observeXm5AbsoluteVolume s s.generation v .remoteNotification = _
  rw [observeRemote_eq h ha hs hv, if_neg hnew, if_neg (Ne.symm hd)]
  rfl

theorem requestedVolumes_pair (a b : Nat) :
    requestedVolumes [volumeRequest a, volumeRequest b] =
      [convertXm5Volume a, convertXm5Volume b] := by
  simp [requestedVolumes, volumeRequest]

theorem callback_awaited (hg : isCurrentSession s g = true) (hs : s.support = .supported)
    (hp : s.windowsUpdatePending = true) (hv : Survives v) (hpending : s.pendingXm5Volume = v) :
    ¬ hasAvrcpAbsoluteVolumeAction
        (absoluteVolume.out s (.observeWindows g (convertXm5Volume v))) .sendXm5AbsoluteVolume ∧
      projectWindowsVolumeToXm5
        (absoluteVolume.next s (.observeWindows g (convertXm5Volume v))).windowsVolume = v := by
  constructor
  · show ¬ hasAvrcpAbsoluteVolumeAction
      (observeWindowsEndpointVolume s g (convertXm5Volume v)).1 .sendXm5AbsoluteVolume
    rw [observeWindows_pending hg hs hp, hv.project, hpending]
    simp
  · show projectWindowsVolumeToXm5
      (observeWindowsEndpointVolume s g (convertXm5Volume v)).2.windowsVolume = v
    simp only [observeWindowsEndpointVolume, hg, hp, hv.project, hpending, not_true_eq_false,
      if_false, if_true, decide_true]

end

/-- **The latest headset value wins** exactly when the earlier of the two repeats the last
    value received, so that only the later one is requested. -/
theorem latest_wins_iff {s : AvrcpAbsoluteVolumeState}
    (hr : absoluteVolume.Reach (· = {}) s) (ha : s.sessionActive = true)
    (hs : s.support = .supported) {a b : Nat} (hne : a ≠ b) (hsa : Survives a) (hsb : Survives b)
    (hda : a ≠ projectWindowsVolumeToXm5 s.windowsVolume)
    (hdb : b ≠ projectWindowsVolumeToXm5 s.windowsVolume) :
    LatestWins s a b ↔ s.inboundVolumeSeen = true ∧ a = s.lastXm5VolumeReceived := by
  have h := session_inv hr
  have hcurrent := isCurrentSession_self h ha
  constructor
  · rintro ⟨hsilent, -⟩
    by_contra hnew
    have hsecond : absoluteVolume.step (awaiting s a)
        (.observeXm5 s.generation b .remoteNotification) =
          (volumeRequest b, awaiting (awaiting s a) b) :=
      observeRemote_new (s := awaiting s a) ⟨h.generation, h.known⟩ ha hs hsb.le
        (fun hrepeat => hne hrepeat.2.symm) hdb
    rw [observeRemote_new h ha hs hsa.le hnew hda, hsecond, requestedVolumes_pair] at hsilent
    -- the first callback is compared with the second request
    have hfirst := hsilent (absoluteVolume.out (awaiting (awaiting s a) b)
      (.observeWindows s.generation (convertXm5Volume a))) (by simp [callbackDecisions])
    refine hfirst ?_
    show hasAvrcpAbsoluteVolumeAction (observeWindowsEndpointVolume (awaiting (awaiting s a) b)
      s.generation (convertXm5Volume a)).1 .sendXm5AbsoluteVolume
    rw [observeWindows_pending (s := awaiting (awaiting s a) b) hcurrent hs rfl, hsa.project]
    exact decide_eq_true hne
  · intro hrepeat
    have hfirst : absoluteVolume.step s (.observeXm5 s.generation a .remoteNotification) =
        ({}, s) := by
      show observeXm5AbsoluteVolume s s.generation a .remoteNotification = _
      rw [observeRemote_eq h ha hs hsa.le, if_pos hrepeat]
    have hsecond := observeRemote_new h ha hs hsb.le
      (fun hb => hne (hrepeat.2.trans hb.2.symm)) hdb
    have hvolumes : requestedVolumes [{}, volumeRequest b] = [convertXm5Volume b] := by
      simp [requestedVolumes, volumeRequest]
    obtain ⟨hsilent, hwindows⟩ :=
      callback_awaited (s := awaiting s b) hcurrent hs rfl hsb rfl
    unfold LatestWins
    simp only [hfirst, hsecond, hvolumes]
    refine ⟨?_, hwindows⟩
    simp only [callbackDecisions, List.cons_append, List.nil_append, List.forall_mem_cons,
      List.not_mem_nil, false_imp_iff, implies_true, and_true]
    exact ⟨by simp, by simp [volumeRequest], hsilent⟩

/-- The headset has asked for 64, and Windows has moved on to 80 percent. -/
def movedOn : List AvrcpAbsoluteVolumeOp :=
  sessionAtThirty ++ [.observeXm5 1 64 .remoteNotification, .observeWindows 1 ⟨50, false⟩,
    .observeWindows 1 ⟨80, false⟩]

theorem latest_wins_moved_on :
    LatestWins (absoluteVolume.after {} movedOn) 64 89 ↔
      (absoluteVolume.after {} movedOn).inboundVolumeSeen = true ∧
        64 = (absoluteVolume.after {} movedOn).lastXm5VolumeReceived :=
  latest_wins_iff (reach_ops _) (by decide) (by decide) (by decide) (by decide) (by decide)
    (by decide) (by decide)

/-- The headset asks for 64 and for 89 before Windows answers, and is told 64 again. -/
theorem latest_loses_at_thirty :
    ¬ ∀ s, absoluteVolume.Reach (· = {}) s → s.sessionActive = true → s.support = .supported →
      s.windowsUpdatePending = false → ∀ a b, a ≠ b → Survives a → Survives b →
      a ≠ projectWindowsVolumeToXm5 s.windowsVolume →
      b ≠ projectWindowsVolumeToXm5 s.windowsVolume → LatestWins s a b := by
  intro h
  obtain ⟨hsilent, -⟩ := h _ (reach_ops sessionAtThirty) (by decide) (by decide) (by decide) 64 89
    (by decide) (by decide) (by decide) (by decide) (by decide)
  exact absurd hsilent (by decide)

end NativeLdac.Agent
