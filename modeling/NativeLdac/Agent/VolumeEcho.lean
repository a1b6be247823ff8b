/-
  The shared volume between Windows and the headset: when a remote change is
  forwarded to Windows, and when the Windows callback that answers it is
  recognised as its own echo.
-/
import Mathlib.Tactic.SplitIfs
import NativeLdac.Agent.Volume

namespace NativeLdac.Agent

open AvrcpAbsoluteVolumeAction

/-! ## The percent scale and the 7-bit scale -/

theorem xm5AbsoluteVolumeToWindowsPercent_le (v : Nat) :
    xm5AbsoluteVolumeToWindowsPercent v ≤ 100 := by
  unfold xm5AbsoluteVolumeToWindowsPercent
  omega

theorem percent_roundtrip {p : Nat} (hp : p ≤ 100) :
    xm5AbsoluteVolumeToWindowsPercent (windowsPercentToXm5AbsoluteVolume p) = p := by
  unfold xm5AbsoluteVolumeToWindowsPercent windowsPercentToXm5AbsoluteVolume
  omega

def convertXm5Volume (v : Nat) : AvrcpWindowsVolume :=
  ⟨xm5AbsoluteVolumeToWindowsPercent v, v = 0⟩

theorem project_convertXm5Volume {v : Nat} (hv : v ≤ 127) :
    projectWindowsVolumeToXm5 (convertXm5Volume v) =
      windowsPercentToXm5AbsoluteVolume (xm5AbsoluteVolumeToWindowsPercent v) := by
  rcases Nat.eq_zero_or_pos v with rfl | h
  · rfl
  · have hp : xm5AbsoluteVolumeToWindowsPercent v ≠ 0 := by
      unfold xm5AbsoluteVolumeToWindowsPercent
      omega
    simp [projectWindowsVolumeToXm5, convertXm5Volume, hp, Nat.pos_iff_ne_zero.1 h]

theorem project_convert_eq_iff {v : Nat} (hv : v ≤ 127) :
    projectWindowsVolumeToXm5 (convertXm5Volume v) = v ↔
      ∃ p ≤ 100, windowsPercentToXm5AbsoluteVolume p = v := by
  rw [project_convertXm5Volume hv]
  constructor
  · exact fun h => ⟨_, xm5AbsoluteVolumeToWindowsPercent_le v, h⟩
  · rintro ⟨p, hp, rfl⟩
    rw [percent_roundtrip hp]

/-! ## Reachable states -/

@[simp] theorem hasVolumeAction_none (a : AvrcpAbsoluteVolumeAction) :
    hasAvrcpAbsoluteVolumeAction {} a = false := by
  cases a <;> rfl

@[simp] theorem hasVolumeAction_bit (a b : AvrcpAbsoluteVolumeAction) (w : AvrcpWindowsVolume)
    (x : Nat) : hasAvrcpAbsoluteVolumeAction ⟨a.bit, w, x⟩ b = decide (a = b) := by
  show (a.bit &&& b.bit != 0) = decide (a = b)
  cases a <;> cases b <;> rfl

/-- An active session has a generation and has seen the Windows volume. -/
structure SessionInv (s : AvrcpAbsoluteVolumeState) : Prop where
  generation : s.sessionActive = true → s.generation ≠ 0
  known : s.sessionActive = true → s.windowsVolumeKnown = true

theorem ne_zero_of_newer {candidate current : UInt64}
    (h : isNewerGeneration candidate current = true) : candidate ≠ 0 := by
  rintro rfl
  simp [isNewerGeneration] at h

variable {s : AvrcpAbsoluteVolumeState}

theorem sendAuthoritative_inv (h : SessionInv s) :
    SessionInv (sendAuthoritativeWindowsVolume s).2 := by
  unfold sendAuthoritativeWindowsVolume
  split_ifs
  · exact h
  · exact ⟨h.generation, h.known⟩

theorem session_inv (h : absoluteVolume.Reach (· = {}) s) :
    SessionInv s := by
  refine h.inv (P := SessionInv) ?_ ?_
  · rintro _ rfl
    exact ⟨nofun, nofun⟩
  · intro s op h
    cases op <;> simp only [absoluteVolume, Reducer.next, beginAvrcpAbsoluteVolumeSession,
      setAvrcpAbsoluteVolumeSupport, observeWindowsEndpointVolume, observeXm5AbsoluteVolume,
      endAvrcpAbsoluteVolumeSession]
    case beginSession =>
      split_ifs with hn
      · exact sendAuthoritative_inv ⟨fun _ => ne_zero_of_newer hn, fun _ => rfl⟩
      · exact h
    case setSupport =>
      split_ifs
      · exact ⟨h.generation, h.known⟩
      · exact ⟨h.generation, h.known⟩
      · exact sendAuthoritative_inv ⟨h.generation, h.known⟩
      · exact h
    case observeWindows =>
      split_ifs
      · exact ⟨h.generation, fun _ => rfl⟩
      · exact sendAuthoritative_inv ⟨h.generation, fun _ => rfl⟩
      · exact ⟨h.generation, fun _ => rfl⟩
      · exact ⟨h.generation, fun _ => rfl⟩
      · exact sendAuthoritative_inv ⟨h.generation, fun _ => rfl⟩
      · exact h
    case observeXm5 => split_ifs <;> exact ⟨h.generation, h.known⟩
    case endSession =>
      split_ifs
      · exact ⟨nofun, nofun⟩
      · exact h

theorem reach_ops (ops : List AvrcpAbsoluteVolumeOp) :
    absoluteVolume.Reach (· = {}) (absoluteVolume.after {} ops) := by
  have h : absoluteVolume.Reach (· = {}) {} := .init rfl
  exact h.after ops

theorem isCurrentSession_self (h : SessionInv s) (ha : s.sessionActive = true) :
    isCurrentSession s s.generation = true := by
  simp [isCurrentSession, ha, h.generation ha]

/-! ## Remote changes -/

theorem observeRemote_eq (h : SessionInv s) (ha : s.sessionActive = true)
    (hs : s.support = .supported) {v : Nat} (hv : v ≤ 127) :
    observeXm5AbsoluteVolume s s.generation v .remoteNotification =
      if s.inboundVolumeSeen = true ∧ v = s.lastXm5VolumeReceived then ({}, s) else
      if projectWindowsVolumeToXm5 s.windowsVolume = v then
        ({}, { s with
          inboundVolumeSeen := true, lastXm5VolumeReceived := v, outboundEchoPending := false })
      else
        ({ actions := setWindowsEndpoint.bit, windowsVolume := convertXm5Volume v },
          { s with
            inboundVolumeSeen := true, lastXm5VolumeReceived := v, outboundEchoPending := false
            windowsUpdatePending := true, pendingXm5Volume := v }) := by
  simp [observeXm5AbsoluteVolume, isCurrentSession_self h ha, hs, h.known ha, Nat.not_lt.2 hv,
    convertXm5Volume]

/-- **Remote changes are forwarded**, except a value that repeats the last one
    received, whatever Windows has done since. -/
theorem remote_change_forwarded_iff {s : AvrcpAbsoluteVolumeState}
    (hr : absoluteVolume.Reach (· = {}) s) (ha : s.sessionActive = true)
    (hs : s.support = .supported) {v : Nat} (hv : v ≤ 127)
    (hd : v ≠ projectWindowsVolumeToXm5 s.windowsVolume) :
    (hasAvrcpAbsoluteVolumeAction
          (observeXm5AbsoluteVolume s s.generation v .remoteNotification).1 .setWindowsEndpoint ∧
        (observeXm5AbsoluteVolume s s.generation v .remoteNotification).1.windowsVolume =
          convertXm5Volume v) ↔
      ¬ (s.inboundVolumeSeen = true ∧ v = s.lastXm5VolumeReceived) := by
  rw [observeRemote_eq (session_inv hr) ha hs hv]
  split_ifs with h₁ h₂
  · exact iff_of_false (by simp) (fun h => h h₁)
  · exact absurd h₂.symm hd
  · exact iff_of_true ⟨by simp, rfl⟩ h₁

/-- A supported session at 30 percent. -/
def sessionAtThirty : List AvrcpAbsoluteVolumeOp := [.beginSession 1 .supported ⟨30, false⟩]

theorem remote_change_forwarded_at_thirty :
    (hasAvrcpAbsoluteVolumeAction
          (observeXm5AbsoluteVolume (absoluteVolume.after {} sessionAtThirty) 1 64
            .remoteNotification).1 .setWindowsEndpoint ∧
        (observeXm5AbsoluteVolume (absoluteVolume.after {} sessionAtThirty) 1 64
            .remoteNotification).1.windowsVolume = convertXm5Volume 64) ↔
      ¬ ((absoluteVolume.after {} sessionAtThirty).inboundVolumeSeen = true ∧
        64 = (absoluteVolume.after {} sessionAtThirty).lastXm5VolumeReceived) :=
  remote_change_forwarded_iff (reach_ops _) (by decide) (by decide) (by decide)
    (by decide)

/-- The headset asks for 64, Windows applies it and moves on to 80 percent, and
    the headset asks for 64 again: the second request is dropped. -/
theorem repeated_remote_change_dropped :
    ¬ ∀ s, absoluteVolume.Reach (· = {}) s → s.sessionActive = true → s.support = .supported →
      s.windowsUpdatePending = false → ∀ v ≤ 127,
      v ≠ projectWindowsVolumeToXm5 s.windowsVolume →
      hasAvrcpAbsoluteVolumeAction
          (observeXm5AbsoluteVolume s s.generation v .remoteNotification).1 .setWindowsEndpoint ∧
        (observeXm5AbsoluteVolume s s.generation v .remoteNotification).1.windowsVolume =
          convertXm5Volume v := by
  intro h
  have hr : absoluteVolume.Reach (· = {}) (absoluteVolume.after {} (sessionAtThirty ++
      [.observeXm5 1 64 .remoteNotification, .observeWindows 1 ⟨50, false⟩,
        .observeWindows 1 ⟨80, false⟩])) := reach_ops _
  exact absurd (h _ hr (by decide) (by decide) (by decide) 64 (by decide) (by decide)).1
    (by decide)

/-! ## Echoes of remote changes -/

theorem observeWindows_pending {g : UInt64} (hg : isCurrentSession s g = true)
    (hs : s.support = .supported) (hp : s.windowsUpdatePending = true) (w : AvrcpWindowsVolume) :
    hasAvrcpAbsoluteVolumeAction (observeWindowsEndpointVolume s g w).1 .sendXm5AbsoluteVolume =
      decide (projectWindowsVolumeToXm5 (clampWindowsVolume w) ≠ s.pendingXm5Volume) := by
  simp only [observeWindowsEndpointVolume, hg, hp, not_true_eq_false, if_false, if_true,
    sendAuthoritativeWindowsVolume, hs]
  split_ifs with h₁ <;> simp_all

theorem clamp_convertXm5Volume (v : Nat) :
    clampWindowsVolume (convertXm5Volume v) = convertXm5Volume v := by
  simp [clampWindowsVolume, convertXm5Volume, xm5AbsoluteVolumeToWindowsPercent_le]

/-- **Echo suppression**: the endpoint that applies exactly what a remote value
    asked for is left alone exactly when that value is the projection of a
    percent. -/
theorem echo_suppressed_iff {s : AvrcpAbsoluteVolumeState}
    (hr : absoluteVolume.Reach (· = {}) s) (ha : s.sessionActive = true)
    (hs : s.support = .supported) {v : Nat} (hv : v ≤ 127)
    (hw : hasAvrcpAbsoluteVolumeAction
      (observeXm5AbsoluteVolume s s.generation v .remoteNotification).1 .setWindowsEndpoint) :
    ¬ hasAvrcpAbsoluteVolumeAction (observeWindowsEndpointVolume
        (observeXm5AbsoluteVolume s s.generation v .remoteNotification).2 s.generation
        (observeXm5AbsoluteVolume s s.generation v .remoteNotification).1.windowsVolume).1
        .sendXm5AbsoluteVolume ↔
      ∃ p ≤ 100, windowsPercentToXm5AbsoluteVolume p = v := by
  have h := session_inv hr
  rw [← project_convert_eq_iff hv]
  rw [observeRemote_eq h ha hs hv] at hw ⊢
  split_ifs at hw ⊢ with h₁ h₂
  · simp at hw
  · simp at hw
  · rw [observeWindows_pending, clamp_convertXm5Volume]
    · simp
    · have hc := isCurrentSession_self h ha
      exact hc
    · exact hs
    · rfl

theorem echo_suppressed_at_thirty :
    ¬ hasAvrcpAbsoluteVolumeAction (observeWindowsEndpointVolume
        (observeXm5AbsoluteVolume (absoluteVolume.after {} sessionAtThirty) 1 64
          .remoteNotification).2 1
        (observeXm5AbsoluteVolume (absoluteVolume.after {} sessionAtThirty) 1 64
          .remoteNotification).1.windowsVolume).1 .sendXm5AbsoluteVolume ↔
      ∃ p ≤ 100, windowsPercentToXm5AbsoluteVolume p = 64 :=
  echo_suppressed_iff (reach_ops _) (by decide) (by decide) (by decide) (by decide)

/-- The headset asks for 2, Windows applies the 2 percent it is converted to,
    and the headset is told 3. -/
theorem echo_answered :
    ¬ ∀ s, absoluteVolume.Reach (· = {}) s → s.sessionActive = true → s.support = .supported →
      ∀ v ≤ 127, hasAvrcpAbsoluteVolumeAction
          (observeXm5AbsoluteVolume s s.generation v .remoteNotification).1 .setWindowsEndpoint →
        ¬ hasAvrcpAbsoluteVolumeAction (observeWindowsEndpointVolume
          (observeXm5AbsoluteVolume s s.generation v .remoteNotification).2 s.generation
          (observeXm5AbsoluteVolume s s.generation v .remoteNotification).1.windowsVolume).1
          .sendXm5AbsoluteVolume := by
  intro h
  have hr : absoluteVolume.Reach (· = {}) (absoluteVolume.after {} sessionAtThirty) :=
    reach_ops _
  exact absurd (h _ hr (by decide) (by decide) 2 (by decide) (by decide)) (by decide)

end NativeLdac.Agent
