/-
  The controller of the adaptive bit rate (`engine/src/abr_controller.c`): from one window of link
  measurements to the next it lowers the encoder's quality on a congested link, and raises it
  again on a clean one.

  * `ldacAbrUpdate` and `abr`, the machine it makes;
  * `AbrEffect` says what one window does;
  * `AbrSound` and `AbrHistory` are what every run keeps, of the state and of the windows seen.
-/
import Mathlib.Data.List.Induction
import Mathlib.Tactic.SplitIfs
import NativeLdac.Engine.LdacEncoder
import NativeLdac.Lib.Reducer

namespace NativeLdac.Engine

/-! ## The controller -/

def ldacAbrWarmupWindows : Nat := 2
def ldacAbrDowngradeSlowPercent : Nat := 20
def ldacAbrSevereSlowPercent : Nat := 60
def ldacAbrCleanPacketPercent : Nat := 3
def ldacAbrSwitchCooldownWindows : Nat := 5
def ldacAbrUpgradeCleanWindows : Nat := 20

def LdacEncoderQuality.code : LdacEncoderQuality → Int
  | .hq => 0
  | .sq => 1
  | .mq => 2

open LdacEncoderQuality (code)
structure LdacAbrWindow where
  totalPackets : UInt32
  slowWritePackets : UInt32
deriving DecidableEq, Repr

inductive LdacAbrReason where
  | none | congestion | cleanLink
deriving DecidableEq, Repr

structure LdacAbrDecision where
  quality : Int
  reason : LdacAbrReason := .none
  changed : Bool := false
deriving DecidableEq, Repr

/-- `ldac_abr_controller`; the quality is the value of the enumeration -/
structure LdacAbrController where
  quality : Int
  warmupWindows : Nat
  cleanWindows : Nat
  cooldownWindows : Nat
deriving DecidableEq, Repr

def validQuality (quality : Int) : Bool :=
  quality = LdacEncoderQuality.hq.code ∨ quality = LdacEncoderQuality.sq.code ∨
    quality = LdacEncoderQuality.mq.code

def percentageAtLeast (count total : UInt32) (percentage : Nat) : Bool :=
  if total = 0 then false else count.toNat * 100 ≥ total.toNat * percentage

def ldacAbrInit (initialQuality : Int) : LdacAbrController where
  quality := if validQuality initialQuality then initialQuality else LdacEncoderQuality.hq.code
  warmupWindows := ldacAbrWarmupWindows
  cleanWindows := 0
  cooldownWindows := 0

namespace LdacAbrWindow

variable (window : LdacAbrWindow)

def congested : Bool :=
  percentageAtLeast window.slowWritePackets window.totalPackets ldacAbrDowngradeSlowPercent

def severe : Bool :=
  percentageAtLeast window.slowWritePackets window.totalPackets ldacAbrSevereSlowPercent

def clean : Bool :=
  !percentageAtLeast window.slowWritePackets window.totalPackets ldacAbrCleanPacketPercent

end LdacAbrWindow

def ldacAbrUpdate (controller : LdacAbrController) (window : LdacAbrWindow) :
    LdacAbrDecision × LdacAbrController :=
  let decision : LdacAbrDecision := { quality := controller.quality }
  if window.totalPackets = 0 then (decision, controller)
  else if controller.warmupWindows > 0 then
    (decision,
      { controller with
        warmupWindows := controller.warmupWindows - 1
        cleanWindows := 0 })
  else
    let wasCoolingDown := controller.cooldownWindows > 0
    let controller :=
      if wasCoolingDown then { controller with cooldownWindows := controller.cooldownWindows - 1 }
      else controller
    if window.congested ∧ controller.quality < LdacEncoderQuality.mq.code ∧
        (¬ wasCoolingDown ∨ window.severe) then
      ({ quality := controller.quality + 1, reason := .congestion, changed := true },
        { controller with
          quality := controller.quality + 1
          cleanWindows := 0
          cooldownWindows := ldacAbrSwitchCooldownWindows })
    else if wasCoolingDown then (decision, { controller with cleanWindows := 0 })
    else if ¬ window.clean ∨ controller.quality = LdacEncoderQuality.hq.code then
      (decision, { controller with cleanWindows := 0 })
    else
      let controller := { controller with cleanWindows := controller.cleanWindows + 1 }
      if controller.cleanWindows ≥ ldacAbrUpgradeCleanWindows then
        ({ quality := controller.quality - 1, reason := .cleanLink, changed := true },
          { controller with
            quality := controller.quality - 1
            cleanWindows := 0
            cooldownWindows := ldacAbrSwitchCooldownWindows })
      else (decision, controller)

def abr : Reducer LdacAbrController LdacAbrWindow LdacAbrDecision where
  step := ldacAbrUpdate

/-! ## One window -/

/-- What a window does to the controller. -/
inductive AbrEffect (c : LdacAbrController) (w : LdacAbrWindow) :
    LdacAbrDecision × LdacAbrController → Prop
  | empty : w.totalPackets = 0 → AbrEffect c w ({ quality := c.quality }, c)
  | warming : w.totalPackets ≠ 0 → 0 < c.warmupWindows →
      AbrEffect c w ({ quality := c.quality },
        { c with warmupWindows := c.warmupWindows - 1, cleanWindows := 0 })
  | lowered : w.totalPackets ≠ 0 → c.warmupWindows = 0 → c.quality < LdacEncoderQuality.mq.code →
      (c.cooldownWindows = 0 ∨ w.severe) →
      AbrEffect c w ({ quality := c.quality + 1, reason := .congestion, changed := true },
        { c with
          quality := c.quality + 1
          cleanWindows := 0
          cooldownWindows := ldacAbrSwitchCooldownWindows })
  /-- the link is cooling down, or not clean, or as good as it can be -/
  | waited : w.totalPackets ≠ 0 → c.warmupWindows = 0 →
      AbrEffect c w ({ quality := c.quality },
        { c with cleanWindows := 0, cooldownWindows := c.cooldownWindows - 1 })
  | counted : w.totalPackets ≠ 0 → c.warmupWindows = 0 → c.cooldownWindows = 0 → w.clean →
      c.cleanWindows + 1 < ldacAbrUpgradeCleanWindows →
      AbrEffect c w ({ quality := c.quality }, { c with cleanWindows := c.cleanWindows + 1 })
  | raised : w.totalPackets ≠ 0 → c.warmupWindows = 0 → c.cooldownWindows = 0 → w.clean →
      c.quality ≠ LdacEncoderQuality.hq.code →
      ldacAbrUpgradeCleanWindows ≤ c.cleanWindows + 1 →
      AbrEffect c w ({ quality := c.quality - 1, reason := .cleanLink, changed := true },
        { c with
          quality := c.quality - 1
          cleanWindows := 0
          cooldownWindows := ldacAbrSwitchCooldownWindows })

theorem abr_effect (c : LdacAbrController) (w : LdacAbrWindow) : AbrEffect c w (abr.step c w) := by
  simp only [abr, ldacAbrUpdate]
  split
  · exact .empty ‹_›
  rename_i hpackets
  split
  · exact .warming hpackets ‹_›
  rename_i hwarm
  have hwarmed : c.warmupWindows = 0 := by omega
  by_cases hcooling : c.cooldownWindows > 0
  · simp only [hcooling, if_true, not_true_eq_false, false_or]
    split
    · rename_i hlower
      exact .lowered hpackets hwarmed hlower.2.1 (.inr hlower.2.2)
    · exact .waited hpackets hwarmed
  · have hzero : c.cooldownWindows = 0 := by omega
    simp only [hcooling, if_false, not_false_eq_true, true_or, and_true]
    split
    · rename_i hlower
      exact .lowered hpackets hwarmed hlower.2 (.inl hzero)
    split
    · have hwaited := AbrEffect.waited (c := c) hpackets hwarmed
      rwa [show c.cooldownWindows - 1 = c.cooldownWindows by omega] at hwaited
    rename_i hgood
    rw [not_or, not_not] at hgood
    split
    · exact .raised hpackets hwarmed hzero hgood.1 hgood.2 ‹_›
    · exact .counted hpackets hwarmed hzero hgood.1 (by omega)

/-! ## What every run keeps -/

/-- What every window keeps of the controller. -/
structure AbrSound (c : LdacAbrController) : Prop where
  range : LdacEncoderQuality.hq.code ≤ c.quality ∧ c.quality ≤ LdacEncoderQuality.mq.code
  clean : c.cleanWindows < ldacAbrUpgradeCleanWindows
  cooldown : c.cooldownWindows ≤ ldacAbrSwitchCooldownWindows

theorem abrSound_init (initialQuality : Int) : AbrSound (ldacAbrInit initialQuality) := by
  refine ⟨?_, by simp [ldacAbrInit, ldacAbrUpgradeCleanWindows], by simp [ldacAbrInit]⟩
  unfold ldacAbrInit
  dsimp only
  by_cases hvalid : validQuality initialQuality
  · rw [if_pos hvalid]
    rw [validQuality, decide_eq_true_eq] at hvalid
    simp only [code] at hvalid ⊢
    omega
  · rw [if_neg hvalid]
    decide

section
variable {c : LdacAbrController} {w : LdacAbrWindow} {r : LdacAbrDecision × LdacAbrController}

theorem AbrEffect.sound (heffect : AbrEffect c w r) (h : AbrSound c) : AbrSound r.2 := by
  obtain ⟨⟨hlow, hhigh⟩, hclean, hcooldown⟩ := h
  have hpos : 0 < ldacAbrUpgradeCleanWindows := by decide
  simp only [code] at hlow hhigh
  cases heffect with
  | empty => exact ⟨⟨hlow, hhigh⟩, hclean, hcooldown⟩
  | warming => exact ⟨⟨hlow, hhigh⟩, hpos, hcooldown⟩
  | waited => exact ⟨⟨hlow, hhigh⟩, hpos, Nat.le_trans (Nat.sub_le _ _) hcooldown⟩
  | counted _ _ _ _ hbelow => exact ⟨⟨hlow, hhigh⟩, hbelow, hcooldown⟩
  | lowered _ _ hquality =>
    simp only [code] at hquality
    refine ⟨?_, hpos, Nat.le_refl _⟩
    simp only [code]
    omega
  | raised _ _ _ _ hquality =>
    simp only [code] at hquality
    refine ⟨?_, hpos, Nat.le_refl _⟩
    simp only [code]
    omega

theorem AbrEffect.quality (heffect : AbrEffect c w r) :
    r.2.quality = c.quality ∨ r.2.quality = c.quality + 1 ∨ r.2.quality = c.quality - 1 := by
  cases heffect with
  | empty | warming | waited | counted => exact .inl rfl
  | lowered => exact .inr (.inl rfl)
  | raised => exact .inr (.inr rfl)

theorem AbrEffect.of_raised (heffect : AbrEffect c w r) (h : r.2.quality < c.quality) :
    w.totalPackets ≠ 0 ∧ c.warmupWindows = 0 ∧ c.cooldownWindows = 0 ∧ w.clean ∧
      ldacAbrUpgradeCleanWindows ≤ c.cleanWindows + 1 := by
  cases heffect with
  | raised hpackets hwarmed hcool hclean _ hcount => exact ⟨hpackets, hwarmed, hcool, hclean, hcount⟩
  | lowered => exact absurd h (by dsimp only; omega)
  | empty | warming | waited | counted => exact absurd h (Int.lt_irrefl _)

theorem AbrEffect.of_lowered (heffect : AbrEffect c w r) (h : c.quality < r.2.quality) :
    c.cooldownWindows = 0 ∨ w.severe := by
  cases heffect with
  | lowered _ _ _ hcool => exact hcool
  | raised => exact absurd h (by dsimp only; omega)
  | empty | warming | waited | counted => exact absurd h (Int.lt_irrefl _)

theorem AbrEffect.of_changed (heffect : AbrEffect c w r) (h : r.2.quality ≠ c.quality) :
    c.warmupWindows = 0 := by
  cases heffect with
  | lowered _ hwarmed => exact hwarmed
  | raised _ hwarmed => exact hwarmed
  | empty | warming | waited | counted => exact absurd rfl h

theorem AbrEffect.of_empty (heffect : AbrEffect c w r) (h : w.totalPackets = 0) :
    r = ({ quality := c.quality }, c) := by
  cases heffect with
  | empty => rfl
  | warming hpackets | lowered hpackets | waited hpackets | counted hpackets | raised hpackets =>
    exact absurd h hpackets

end

/-- The windows that are not empty. -/
def measured (windows : List LdacAbrWindow) : Nat :=
  windows.countP fun window => window.totalPackets ≠ 0

/-- The window changes the quality. -/
def Changes (c : LdacAbrController) (w : LdacAbrWindow) : Prop := (abr.next c w).quality ≠ c.quality

def CountsClean (c : LdacAbrController) (w : LdacAbrWindow) : Prop :=
  w.totalPackets = 0 ∨ c.warmupWindows = 0 ∧ c.cooldownWindows = 0 ∧ w.clean

/-- The run ends with `count` clean windows, without counting the empty ones among them. -/
def CleanFor (initialQuality : Int) (count : Nat) (windows : List LdacAbrWindow) : Prop :=
  ∃ before recent, windows = before ++ recent ∧ measured recent = count ∧
    abr.Along CountsClean (abr.after (ldacAbrInit initialQuality) before) recent

/-- What the controller remembers of the windows of a run. -/
structure AbrHistory (initialQuality : Int) (windows : List LdacAbrWindow)
    (c : LdacAbrController) : Prop where
  warmup : ldacAbrWarmupWindows ≤ measured windows + c.warmupWindows
  clean : CleanFor initialQuality c.cleanWindows windows
  cooldown : ∀ before w between, windows = before ++ w :: between →
    Changes (abr.after (ldacAbrInit initialQuality) before) w →
    ldacAbrSwitchCooldownWindows ≤ measured between + c.cooldownWindows

section
variable {initialQuality : Int} {windows : List LdacAbrWindow} {w : LdacAbrWindow}

@[simp] theorem measured_snoc (windows : List LdacAbrWindow) (w : LdacAbrWindow) :
    measured (windows ++ [w]) = measured windows + if w.totalPackets = 0 then 0 else 1 := by
  unfold measured
  rw [List.countP_append, List.countP_singleton]
  simp

theorem cleanFor_zero (initialQuality : Int) (windows : List LdacAbrWindow) :
    CleanFor initialQuality 0 windows :=
  ⟨windows, [], by simp, rfl, trivial⟩

theorem CleanFor.snoc {count : Nat} (h : CleanFor initialQuality count windows)
    (hw : CountsClean (abr.after (ldacAbrInit initialQuality) windows) w) :
    CleanFor initialQuality (count + if w.totalPackets = 0 then 0 else 1) (windows ++ [w]) := by
  obtain ⟨before, recent, rfl, rfl, hrecent⟩ := h
  rw [Reducer.after_append] at hw
  exact ⟨before, recent ++ [w], List.append_assoc _ _ _, measured_snoc recent w,
    (Reducer.along_snoc _ _ _).mpr ⟨hrecent, hw⟩⟩

theorem AbrHistory.cooldown_snoc {c c' : LdacAbrController}
    (h : AbrHistory initialQuality windows c)
    (hkept : c.cooldownWindows ≤ c'.cooldownWindows + if w.totalPackets = 0 then 0 else 1)
    (hchanges : Changes (abr.after (ldacAbrInit initialQuality) windows) w →
      c'.cooldownWindows = ldacAbrSwitchCooldownWindows) :
    ∀ before w' between, windows ++ [w] = before ++ w' :: between →
      Changes (abr.after (ldacAbrInit initialQuality) before) w' →
      ldacAbrSwitchCooldownWindows ≤ measured between + c'.cooldownWindows := by
  intro before w' between hrun hchange
  rcases List.eq_nil_or_concat between with rfl | ⟨between, last, rfl⟩
  · obtain ⟨rfl, hlast⟩ := List.append_inj' hrun rfl
    cases hlast
    rw [hchanges hchange]
    exact Nat.le_add_left _ _
  · rw [List.concat_eq_append] at hrun ⊢
    rw [← List.cons_append, ← List.append_assoc] at hrun
    obtain ⟨hwindows, hlast⟩ := List.append_inj' hrun rfl
    cases hlast
    have hbefore := h.cooldown before w' between hwindows hchange
    rw [measured_snoc]
    omega

theorem AbrEffect.history {c : LdacAbrController} {r : LdacAbrDecision × LdacAbrController}
    (heffect : AbrEffect c w r) (hsound : AbrSound c) (h : AbrHistory initialQuality windows c)
    (hc : abr.after (ldacAbrInit initialQuality) windows = c) (hr : abr.next c w = r.2) :
    AbrHistory initialQuality (windows ++ [w]) r.2 := by
  have hchange : Changes (abr.after (ldacAbrInit initialQuality) windows) w →
      r.2.quality ≠ c.quality := by
    rw [hc, ← hr]
    exact id
  have hwarmup := h.warmup
  cases heffect with
  | empty hempty =>
    have hclean := h.clean.snoc (w := w) (.inl hempty)
    rw [if_pos hempty] at hclean
    refine ⟨?_, hclean, h.cooldown_snoc ?_ fun hc => absurd rfl (hchange hc)⟩
    · rw [measured_snoc, if_pos hempty]
      exact hwarmup
    · rw [if_pos hempty]
      exact Nat.le_refl _
  | warming hw =>
    refine ⟨?_, cleanFor_zero _ _, h.cooldown_snoc ?_ fun hc => absurd rfl (hchange hc)⟩
    · rw [measured_snoc, if_neg hw]
      dsimp only
      omega
    · exact Nat.le_add_right _ _
  | waited hw hwarmed =>
    refine ⟨?_, cleanFor_zero _ _, h.cooldown_snoc ?_ fun hc => absurd rfl (hchange hc)⟩
    · rw [measured_snoc, if_neg hw]
      dsimp only
      omega
    · rw [if_neg hw]
      dsimp only
      omega
  | counted hw hwarmed hcool hclean =>
    have hcounts : CountsClean (abr.after (ldacAbrInit initialQuality) windows) w := by
      rw [hc]
      exact .inr ⟨hwarmed, hcool, hclean⟩
    have hcount := h.clean.snoc hcounts
    rw [if_neg hw] at hcount
    refine ⟨?_, hcount, h.cooldown_snoc ?_ fun hc => absurd rfl (hchange hc)⟩
    · rw [measured_snoc, if_neg hw]
      dsimp only
      omega
    · exact Nat.le_add_right _ _
  | lowered hw hwarmed =>
    refine ⟨?_, cleanFor_zero _ _, h.cooldown_snoc ?_ fun _ => rfl⟩
    · rw [measured_snoc, if_neg hw]
      dsimp only
      omega
    · exact Nat.le_trans hsound.cooldown (Nat.le_add_right _ _)
  | raised hw hwarmed hcool =>
    refine ⟨?_, cleanFor_zero _ _, h.cooldown_snoc ?_ fun _ => rfl⟩
    · rw [measured_snoc, if_neg hw]
      dsimp only
      omega
    · rw [hcool]
      exact Nat.zero_le _

theorem abrSound_after (initialQuality : Int) (windows : List LdacAbrWindow) :
    AbrSound (abr.after (ldacAbrInit initialQuality) windows) :=
  Reducer.after_inv (P := AbrSound) (Q := fun _ _ => True)
    (fun c w h _ => (abr_effect c w).sound h) (abrSound_init initialQuality)
    (Reducer.along_of_forall (fun _ _ => trivial) _ windows)

theorem abrHistory_after (initialQuality : Int) (windows : List LdacAbrWindow) :
    AbrHistory initialQuality windows (abr.after (ldacAbrInit initialQuality) windows) := by
  induction windows using List.reverseRecOn with
  | nil =>
    refine ⟨Nat.le_add_left _ _, cleanFor_zero _ _, fun before w between hrun => ?_⟩
    cases before <;> cases hrun
  | append_singleton windows w ih =>
    rw [Reducer.after_snoc]
    exact (abr_effect _ w).history (abrSound_after initialQuality windows) ih rfl rfl

end

/-! ## The laws -/

/-- The run is less than a cooldown past a change of the quality. -/
def Cooling (initialQuality : Int) (windows : List LdacAbrWindow) : Prop :=
  ∃ before w between, windows = before ++ w :: between ∧
    Changes (abr.after (ldacAbrInit initialQuality) before) w ∧
    measured between < ldacAbrSwitchCooldownWindows

/-- The run ends with `count` clean windows that are neither empty nor in a cooldown, and with no
    other windows among them but empty ones. -/
def EndsClean (initialQuality : Int) (count : Nat) (windows : List LdacAbrWindow) : Prop :=
  ∃ before recent, windows = before ++ recent ∧ measured recent = count ∧
    ∀ mid w rest, recent = mid ++ w :: rest →
      w.totalPackets = 0 ∨ w.clean ∧ ¬ Cooling initialQuality (before ++ mid)

/-- What holds of every history of windows. -/
structure AbrLaws (initialQuality : Int) (windows : List LdacAbrWindow) : Prop where
  range : let c := abr.after (ldacAbrInit initialQuality) windows
    LdacEncoderQuality.hq.code ≤ c.quality ∧ c.quality ≤ LdacEncoderQuality.mq.code
  step : ∀ w, let c := abr.after (ldacAbrInit initialQuality) windows
    c.quality - 1 ≤ (abr.next c w).quality ∧ (abr.next c w).quality ≤ c.quality + 1
  raised : ∀ w, let c := abr.after (ldacAbrInit initialQuality) windows
    (abr.next c w).quality < c.quality →
      EndsClean initialQuality ldacAbrUpgradeCleanWindows (windows ++ [w])
  lowered : ∀ w, let c := abr.after (ldacAbrInit initialQuality) windows
    c.quality < (abr.next c w).quality → ¬ w.severe → ¬ Cooling initialQuality windows
  warmup : ∀ w, Changes (abr.after (ldacAbrInit initialQuality) windows) w →
    ldacAbrWarmupWindows ≤ measured windows
  empty : ∀ w, w.totalPackets = 0 → let c := abr.after (ldacAbrInit initialQuality) windows
    abr.step c w = ({ quality := c.quality }, c)

section
variable {initialQuality : Int} {windows : List LdacAbrWindow}

theorem not_cooling (h : (abr.after (ldacAbrInit initialQuality) windows).cooldownWindows = 0) :
    ¬ Cooling initialQuality windows := by
  rintro ⟨before, w, between, hrun, hchange, hshort⟩
  have hlong := (abrHistory_after initialQuality windows).cooldown before w between hrun hchange
  omega

theorem CleanFor.endsClean {count : Nat} (h : CleanFor initialQuality count windows) :
    EndsClean initialQuality count windows := by
  obtain ⟨before, recent, hrun, hcount, hrecent⟩ := h
  refine ⟨before, recent, hrun, hcount, fun mid w rest hsplit => ?_⟩
  have hw := Reducer.along_iff_forall.mp hrecent mid w rest hsplit
  rw [← Reducer.after_append] at hw
  exact hw.imp_right fun ⟨_, hcool, hclean⟩ => ⟨hclean, not_cooling hcool⟩

end

/-- **The laws of the controller.** -/
theorem abr_laws (initialQuality : Int) (windows : List LdacAbrWindow) :
    AbrLaws initialQuality windows := by
  have hsound := abrSound_after initialQuality windows
  have hhistory := abrHistory_after initialQuality windows
  have heffect := abr_effect (abr.after (ldacAbrInit initialQuality) windows)
  refine ⟨hsound.range, fun w => ?_, fun w => ?_, fun w => ?_, fun w => ?_, fun w hempty => ?_⟩
  · have hquality := (heffect w).quality
    change (abr.next _ w).quality = _ ∨ (abr.next _ w).quality = _ ∨ (abr.next _ w).quality = _
      at hquality
    dsimp only
    omega
  · intro c hraised
    obtain ⟨hpackets, hwarmed, hcool, hclean, hcount⟩ := (heffect w).of_raised hraised
    have hrecent := (hhistory.clean.snoc (w := w) (.inr ⟨hwarmed, hcool, hclean⟩)).endsClean
    have htwenty : c.cleanWindows + 1 = ldacAbrUpgradeCleanWindows :=
      Nat.le_antisymm hsound.clean hcount
    rw [if_neg hpackets] at hrecent
    exact htwenty ▸ hrecent
  · intro c hlowered hsevere
    exact not_cooling (((heffect w).of_lowered hlowered).resolve_right hsevere)
  · intro hchange
    have hwarmed := (heffect w).of_changed hchange
    have hwarmup := hhistory.warmup
    omega
  · exact (heffect w).of_empty hempty

end NativeLdac.Engine
