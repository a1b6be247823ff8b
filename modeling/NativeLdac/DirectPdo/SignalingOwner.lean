/-
  The owner of a signaling channel
  (`direct-pdo/src/nativeldac_bth_signaling_contract.c`).

  * `NldBthSignalingOwner` and its six operations, `signalingOwner` the machine they make;
  * `SignalingEffect` says what one operation can do;
  * `Kept` holds of every state that is reached; `isConsistent_iff` says what is left of the
    owner's own consistency: a channel that may be opened belongs to a started device.
-/
import Mathlib.Tactic.ByContra
import Mathlib.Tactic.SplitIfs
import NativeLdac.Lib.Reducer

namespace NativeLdac.DirectPdo

/-! ## The contract -/

inductive NldBthSignalingState where
  | offline | closed | opening | channelOpen | closing | faulted
deriving DecidableEq, Repr

inductive NldBthSignalingAction where
  | none | submitOpen | cancelOpen | submitClose
deriving DecidableEq, Repr

/-- `NLD_BTH_SIGNALING_OWNER`, as `NldBthSignalingOwnerInitialize` leaves it. -/
structure NldBthSignalingOwner where
  state : NldBthSignalingState := .offline
  generation : UInt32 := 0
  pnpStarted : Bool := false
  openPending : Bool := false
  channelHeld : Bool := false
  closeRequested : Bool := false
  targetOffline : Bool := false
deriving DecidableEq, Repr

namespace NldBthSignalingOwner

variable (owner : NldBthSignalingOwner)

def resetRequestFlags : NldBthSignalingOwner :=
  { owner with
    openPending := false, channelHeld := false, closeRequested := false, targetOffline := false }

def onPnpStart : NldBthSignalingAction × NldBthSignalingOwner :=
  if owner.pnpStarted ∨ owner.state ≠ .offline then (.none, owner)
  else
    let owner := resetRequestFlags { owner with pnpStarted := true, state := .closed }
    (.none, { owner with generation := owner.generation + 1 })

def requestOpen : NldBthSignalingAction × NldBthSignalingOwner :=
  if ¬ owner.pnpStarted ∨ owner.state ≠ .closed ∨ owner.openPending ∨ owner.channelHeld then
    (.none, owner)
  else
    (.submitOpen,
      { owner with
        state := .opening, openPending := true, closeRequested := false, targetOffline := false })

/-- `NldBthSignalingOwnerRequestClose`: the request is noted. -/
def noteClose (targetOffline : Bool) : NldBthSignalingOwner :=
  let owner := { owner with closeRequested := true }
  if targetOffline then { owner with targetOffline := true, pnpStarted := false } else owner

def requestClose (targetOffline : Bool) : NldBthSignalingAction × NldBthSignalingOwner :=
  let owner := owner.noteClose targetOffline
  if owner.state = .opening ∧ owner.openPending then (.cancelOpen, owner)
  else if owner.state = .channelOpen ∧ owner.channelHeld then
    (.submitClose, { owner with state := .closing })
  else if owner.state = .closed ∨ owner.state = .faulted ∨ owner.state = .offline then
    (.none,
      resetRequestFlags
        { owner with state := if owner.targetOffline then .offline else .closed })
  else (.none, owner)

def onRemoteDisconnect (generation : UInt32) : Bool × NldBthSignalingOwner :=
  if generation ≠ owner.generation ∨ ¬ owner.pnpStarted ∨ owner.state ≠ .channelOpen ∨
      ¬ owner.channelHeld then (false, owner)
  else
    let owner := resetRequestFlags { owner with state := .faulted }
    let next := owner.generation + 1
    (true, { owner with generation := if next = 0 then next + 1 else next })

def onOpenComplete (generation : UInt32) (succeeded channelAcquired : Bool) :
    NldBthSignalingAction × NldBthSignalingOwner :=
  if generation ≠ owner.generation ∨ ¬ owner.openPending ∨ owner.state ≠ .opening then
    (if channelAcquired then .submitClose else .none, owner)
  else
    let owner := { owner with openPending := false }
    if succeeded ∧ channelAcquired then
      let owner := { owner with channelHeld := true }
      if owner.closeRequested ∨ owner.targetOffline ∨ ¬ owner.pnpStarted then
        (.submitClose, { owner with state := .closing })
      else (.none, { owner with state := .channelOpen })
    else
      (.none,
        { owner with
          channelHeld := false
          state :=
            if owner.targetOffline ∨ ¬ owner.pnpStarted then .offline
            else if owner.closeRequested then .closed
            else .faulted
          closeRequested := false
          targetOffline := false })

def onCloseComplete (succeeded : Bool) : NldBthSignalingOwner :=
  if owner.state ≠ .closing then owner
  else
    resetRequestFlags
      { owner with
        state :=
          if owner.targetOffline ∨ ¬ owner.pnpStarted then .offline
          else if succeeded then .closed
          else .faulted }

/-- `NldBthSignalingOwnerIsConsistent`; the state is one of the six by its type. -/
def isConsistent : Bool :=
  owner.openPending = decide (owner.state = .opening) ∧
    owner.channelHeld = decide (owner.state = .channelOpen ∨ owner.state = .closing) ∧
    ¬ (¬ owner.pnpStarted ∧ owner.state ≠ .offline ∧ ¬ owner.targetOffline) ∧
    ¬ (owner.state = .offline ∧ owner.pnpStarted)

end NldBthSignalingOwner

inductive NldBthSignalingOp where
  | pnpStart
  | requestOpen
  | requestClose (targetOffline : Bool)
  | remoteDisconnect (generation : UInt32)
  | openComplete (generation : UInt32) (succeeded channelAcquired : Bool)
  | closeComplete (succeeded : Bool)
deriving DecidableEq, Repr

/-- What an operation returns; the end of a close returns nothing. -/
inductive NldBthSignalingAnswer where
  | action (action : NldBthSignalingAction)
  | accepted (accepted : Bool)
  | done
deriving DecidableEq, Repr

def signalingOwner : Reducer NldBthSignalingOwner NldBthSignalingOp NldBthSignalingAnswer where
  step owner
    | .pnpStart => owner.onPnpStart.map .action id
    | .requestOpen => owner.requestOpen.map .action id
    | .requestClose targetOffline => (owner.requestClose targetOffline).map .action id
    | .remoteDisconnect generation => (owner.onRemoteDisconnect generation).map .accepted id
    | .openComplete generation succeeded channelAcquired =>
      (owner.onOpenComplete generation succeeded channelAcquired).map .action id
    | .closeComplete succeeded => (.done, owner.onCloseComplete succeeded)

namespace NldBthSignalingOp

/-- An open that completed with a channel. -/
def acquires : NldBthSignalingOp → Bool
  | openComplete _ _ channelAcquired => channelAcquired
  | _ => false

/-- A channel is reported with success only, as `NldBthSignalingOpenWorker` does. -/
def Truthful : NldBthSignalingOp → Prop
  | openComplete _ succeeded channelAcquired => channelAcquired → succeeded
  | _ => True

instance : DecidablePred Truthful
  | openComplete _ succeeded channelAcquired =>
    inferInstanceAs (Decidable (channelAcquired = true → succeeded = true))
  | pnpStart | requestOpen | requestClose _ | remoteDisconnect _ | closeComplete _ =>
    isTrue trivial

end NldBthSignalingOp

namespace NldBthSignalingAnswer

/-- The channel goes back: its close is submitted. -/
def closes (answer : NldBthSignalingAnswer) : Bool := answer = .action .submitClose

/-- The channel is gone: the remote side has disconnected it. -/
def loses (answer : NldBthSignalingAnswer) : Bool := answer = .accepted true

end NldBthSignalingAnswer

/-! ## What an operation does -/

open NldBthSignalingState NldBthSignalingAction NldBthSignalingOp NldBthSignalingAnswer

/-- Where the owner may end without a channel: offline, or with a device that is started. -/
def NldBthSignalingOwner.Ends (s : NldBthSignalingOwner) (state : NldBthSignalingState) : Prop :=
  state = offline ∧ (s.targetOffline ∨ ¬ s.pnpStarted) ∨
    (state = closed ∨ state = faulted) ∧ s.pnpStarted ∧ s.targetOffline = false

/-- What an operation can do to the owner and to a channel. -/
inductive SignalingEffect (s : NldBthSignalingOwner) :
    NldBthSignalingOp → NldBthSignalingAnswer × NldBthSignalingOwner → Prop
  | refused {op answer} : op.acquires = false → answer.closes = false → answer.loses = false →
      SignalingEffect s op (answer, s)
  | handedBack {g succeeded} :
      SignalingEffect s (openComplete g succeeded true) (action submitClose, s)
  | started : s.state = offline →
      SignalingEffect s pnpStart (action none,
        { s.resetRequestFlags with
          pnpStarted := true, state := closed, generation := s.generation + 1 })
  | openSubmitted : s.state = closed → s.pnpStarted → s.channelHeld = false →
      SignalingEffect s requestOpen (action submitOpen,
        { s with
          state := opening, openPending := true, closeRequested := false, targetOffline := false })
  | closeNoted {b a} : s.state = opening ∨ s.state = channelOpen ∧ ¬ s.channelHeld ∨
      s.state = closing → a ≠ submitClose →
      SignalingEffect s (requestClose b) (action a, s.noteClose b)
  | closeSubmitted {b} : s.state = channelOpen → s.channelHeld →
      SignalingEffect s (requestClose b) (action submitClose, { s.noteClose b with state := closing })
  | closeSettled {b} : s.state = closed ∨ s.state = faulted ∨ s.state = offline →
      SignalingEffect s (requestClose b) (action none,
        { (s.noteClose b).resetRequestFlags with
          state := if (s.noteClose b).targetOffline then offline else closed })
  | disconnected {g g'} : s.state = channelOpen → s.pnpStarted → s.channelHeld →
      SignalingEffect s (remoteDisconnect g) (accepted true,
        { s.resetRequestFlags with state := faulted, generation := g' })
  | opened {g} : s.state = opening → s.pnpStarted → s.targetOffline = false →
      SignalingEffect s (openComplete g true true) (action none,
        { s with openPending := false, channelHeld := true, state := channelOpen })
  | openedLate {g} : s.state = opening →
      SignalingEffect s (openComplete g true true) (action submitClose,
        { s with openPending := false, channelHeld := true, state := closing })
  | openFailed {g succeeded acquired state'} : s.state = opening →
      ¬ (succeeded = true ∧ acquired = true) → s.Ends state' →
      SignalingEffect s (openComplete g succeeded acquired) (action none,
        { s.resetRequestFlags with state := state' })
  | closeDone {b state'} : s.state = closing → s.Ends state' →
      SignalingEffect s (closeComplete b) (done, { s.resetRequestFlags with state := state' })

namespace NldBthSignalingOwner

variable (s : NldBthSignalingOwner)

theorem ends_ite (p : Prop) [Decidable p] {faultedOrClosed other : NldBthSignalingState}
    (h : faultedOrClosed = closed ∨ faultedOrClosed = faulted)
    (hother : other = closed ∨ other = faulted) :
    s.Ends (if s.targetOffline ∨ ¬ s.pnpStarted then offline
      else if p then faultedOrClosed else other) := by
  by_cases hoffline : s.targetOffline = true ∨ ¬ s.pnpStarted = true
  · rw [if_pos hoffline]
    exact .inl ⟨rfl, hoffline⟩
  · rw [if_neg hoffline]
    rw [not_or, not_not, Bool.not_eq_true] at hoffline
    refine .inr ⟨?_, hoffline.2, hoffline.1⟩
    split_ifs
    · exact h
    · exact hother

theorem requestClose_effect (b : Bool) :
    SignalingEffect s (.requestClose b) ((s.requestClose b).map .action id) := by
  have hstate : (s.noteClose b).state = s.state := by
    unfold noteClose
    cases b <;> rfl
  have hheld : (s.noteClose b).channelHeld = s.channelHeld := by
    unfold noteClose
    cases b <;> rfl
  simp only [requestClose, hstate, hheld]
  by_cases hopening : s.state = opening ∧ (s.noteClose b).openPending = true
  · rw [if_pos hopening]
    exact .closeNoted (.inl hopening.1) (fun h => by cases h)
  rw [if_neg hopening]
  by_cases hopen : s.state = channelOpen ∧ s.channelHeld = true
  · rw [if_pos hopen, ← hheld]
    exact .closeSubmitted hopen.1 hopen.2
  rw [if_neg hopen]
  by_cases hrest : s.state = closed ∨ s.state = faulted ∨ s.state = offline
  · rw [if_pos hrest]
    exact .closeSettled hrest
  · rw [if_neg hrest]
    refine .closeNoted ?_ (fun h => by cases h)
    cases h : s.state with
    | offline => exact absurd (.inr (.inr h)) hrest
    | closed => exact absurd (.inl h) hrest
    | faulted => exact absurd (.inr (.inl h)) hrest
    | opening => exact .inl rfl
    | channelOpen => exact .inr (.inl ⟨rfl, fun hheld => hopen ⟨h, hheld⟩⟩)
    | closing => exact .inr (.inr rfl)

theorem onOpenComplete_effect (g : UInt32) (succeeded acquired : Bool) :
    SignalingEffect s (.openComplete g succeeded acquired)
      ((s.onOpenComplete g succeeded acquired).map .action id) := by
  unfold onOpenComplete
  dsimp only
  by_cases hstale : g ≠ s.generation ∨ ¬ s.openPending = true ∨ s.state ≠ opening
  · rw [if_pos hstale]
    cases acquired with
    | false => exact .refused rfl rfl rfl
    | true => exact .handedBack
  · rw [if_neg hstale]
    have hopening : s.state = opening := not_not.mp fun h => hstale (.inr (.inr h))
    by_cases hacquired : succeeded = true ∧ acquired = true
    · rw [if_pos hacquired]
      obtain ⟨rfl, rfl⟩ := hacquired
      by_cases hlate : s.closeRequested = true ∨ s.targetOffline = true ∨ ¬ s.pnpStarted = true
      · rw [if_pos hlate]
        exact .openedLate hopening
      · rw [if_neg hlate]
        rw [not_or, not_or, not_not, Bool.not_eq_true, Bool.not_eq_true] at hlate
        exact .opened hopening hlate.2.2 hlate.2.1
    · rw [if_neg hacquired]
      exact .openFailed hopening hacquired (s.ends_ite _ (.inl rfl) (.inr rfl))

theorem signaling_effect (op : NldBthSignalingOp) :
    SignalingEffect s op (signalingOwner.step s op) := by
  cases op with
  | pnpStart =>
    simp only [signalingOwner, onPnpStart]
    split_ifs with hrefused
    · exact .refused rfl rfl rfl
    · exact .started (not_not.mp fun h => hrefused (.inr h))
  | requestOpen =>
    simp only [signalingOwner, NldBthSignalingOwner.requestOpen]
    split_ifs with hrefused
    · exact .refused rfl rfl rfl
    · rw [not_or, not_or, not_or, not_not, not_not, Bool.not_eq_true, Bool.not_eq_true] at hrefused
      exact .openSubmitted hrefused.2.1 hrefused.1 hrefused.2.2.2
  | requestClose b => exact s.requestClose_effect b
  | remoteDisconnect g =>
    simp only [signalingOwner, onRemoteDisconnect]
    by_cases hrefused : g ≠ s.generation ∨ ¬ s.pnpStarted = true ∨ s.state ≠ channelOpen ∨
        ¬ s.channelHeld = true
    · rw [if_pos hrefused]
      exact .refused rfl rfl rfl
    · rw [if_neg hrefused]
      rw [not_or, not_or, not_or, not_not, not_not, not_not, not_not] at hrefused
      exact .disconnected hrefused.2.2.1 hrefused.2.1 hrefused.2.2.2
  | openComplete g succeeded acquired => exact s.onOpenComplete_effect g succeeded acquired
  | closeComplete b =>
    simp only [signalingOwner, onCloseComplete]
    by_cases hclosing : s.state = closing
    · rw [if_neg (not_not.mpr hclosing)]
      exact .closeDone hclosing (s.ends_ite _ (.inl rfl) (.inr rfl))
    · rw [if_pos hclosing]
      exact .refused rfl rfl rfl

end NldBthSignalingOwner

/-! ## The invariant -/

/-- What every operation keeps. -/
structure Kept (s : NldBthSignalingOwner) : Prop where
  pending : s.openPending = decide (s.state = opening)
  held : s.channelHeld = decide (s.state = channelOpen ∨ s.state = closing)
  cleared : s.state = offline ∨ s.state = closed ∨ s.state = faulted → s.targetOffline = false
  busy : s.state = opening ∨ s.state = channelOpen ∨ s.state = closing →
    s.pnpStarted ∨ s.targetOffline
  stopped : s.targetOffline → s.pnpStarted = false
  offline : s.state = offline → s.pnpStarted = false

/-- A channel that may be opened, or has failed, belongs to a started device. -/
def Attended (s : NldBthSignalingOwner) : Prop :=
  s.state = closed ∨ s.state = faulted → s.pnpStarted

section
variable {s s' : NldBthSignalingOwner} {op : NldBthSignalingOp} {answer : NldBthSignalingAnswer}

theorem kept_initialized : Kept {} where
  pending := rfl
  held := rfl
  cleared _ := rfl
  busy := by simp
  stopped := by simp
  offline _ := rfl

theorem kept_ends (h : Kept s) {state' : NldBthSignalingState} (hends : s.Ends state') :
    Kept { s.resetRequestFlags with state := state' } := by
  rcases hends with ⟨rfl, hstopped⟩ | ⟨hstate', hpnp, -⟩
  · refine ⟨rfl, rfl, fun _ => rfl, by simp, fun _ => ?_, fun _ => ?_⟩ <;>
    · rcases hstopped with htarget | hpnp
      · exact h.stopped htarget
      · exact Bool.eq_false_iff.mpr hpnp
  · rcases hstate' with rfl | rfl
    · exact ⟨rfl, rfl, fun _ => rfl, by simp, by simp [NldBthSignalingOwner.resetRequestFlags],
        by simp⟩
    · exact ⟨rfl, rfl, fun _ => rfl, by simp, by simp [NldBthSignalingOwner.resetRequestFlags],
        by simp⟩

theorem kept_noteClose (h : Kept s) (b : Bool)
    (hbusy : s.state = opening ∨ s.state = channelOpen ∨ s.state = closing) :
    Kept (s.noteClose b) := by
  have hrest : ¬ (s.state = offline ∨ s.state = closed ∨ s.state = faulted) := by
    rcases hbusy with hstate | hstate | hstate <;> simp [hstate]
  cases b with
  | false => exact ⟨h.pending, h.held, h.cleared, h.busy, h.stopped, h.offline⟩
  | true =>
    exact ⟨h.pending, h.held, fun hstate => absurd hstate hrest, fun _ => .inr rfl, fun _ => rfl,
      fun _ => rfl⟩

theorem kept_settled (h : Kept s) (b : Bool)
    (hrest : s.state = closed ∨ s.state = faulted ∨ s.state = offline) :
    Kept { (s.noteClose b).resetRequestFlags with
      state := if (s.noteClose b).targetOffline then NldBthSignalingState.offline else closed } := by
  have hcleared : s.targetOffline = false := by
    refine h.cleared ?_
    rcases hrest with hstate | hstate | hstate
    · exact .inr (.inl hstate)
    · exact .inr (.inr hstate)
    · exact .inl hstate
  have hnote : (s.noteClose b).targetOffline = b := by
    cases b with
    | false => exact hcleared
    | true => rfl
  rw [hnote]
  cases b with
  | false =>
    exact ⟨rfl, rfl, fun _ => rfl, by simp, by simp [NldBthSignalingOwner.resetRequestFlags],
      by simp⟩
  | true => exact ⟨rfl, rfl, fun _ => rfl, by simp, fun _ => rfl, fun _ => rfl⟩

theorem kept_effect (h : Kept s) (he : SignalingEffect s op (answer, s')) : Kept s' := by
  cases he with
  | refused _ _ _ => exact h
  | handedBack => exact h
  | started _ =>
    exact ⟨rfl, rfl, fun _ => rfl, by simp, by simp [NldBthSignalingOwner.resetRequestFlags],
      by simp⟩
  | openSubmitted _ hpnp hheld =>
    exact ⟨rfl, hheld, by simp, fun _ => .inl hpnp, by simp, by simp⟩
  | closeNoted hstate _ =>
    refine kept_noteClose h _ ?_
    rcases hstate with hstate | ⟨hstate, -⟩ | hstate
    · exact .inl hstate
    · exact .inr (.inl hstate)
    · exact .inr (.inr hstate)
  | @closeSubmitted b hopen hheld =>
    have hnoted := kept_noteClose h b (.inr (.inl hopen))
    have hstate : (s.noteClose b).state = channelOpen := by
      rw [← hopen]
      cases b <;> rfl
    have hpending := hnoted.pending
    have hchannel := hnoted.held
    rw [hstate] at hpending hchannel
    exact ⟨hpending, hchannel, by simp, fun _ => hnoted.busy (.inr (.inl hstate)), hnoted.stopped,
      by simp⟩
  | closeSettled hrest => exact kept_settled h _ hrest
  | disconnected _ _ _ =>
    exact ⟨rfl, rfl, fun _ => rfl, by simp, by simp [NldBthSignalingOwner.resetRequestFlags],
      by simp⟩
  | opened _ hpnp htarget =>
    exact ⟨rfl, rfl, by simp, fun _ => .inl hpnp, by simp [htarget], by simp⟩
  | openedLate hopening =>
    exact ⟨rfl, rfl, by simp, fun _ => h.busy (.inl hopening), h.stopped, by simp⟩
  | openFailed _ _ hends => exact kept_ends h hends
  | closeDone _ hends => exact kept_ends h hends

theorem kept_step (h : Kept s) (op : NldBthSignalingOp) : Kept (signalingOwner.next s op) :=
  kept_effect h (s.signaling_effect op)

theorem isConsistent_iff (h : Kept s) : s.isConsistent = true ↔ Attended s := by
  simp only [NldBthSignalingOwner.isConsistent, decide_eq_true_eq]
  constructor
  · rintro ⟨-, -, hattended, -⟩ hstate
    by_contra hpnp
    have hcleared := h.cleared (.inr hstate)
    refine hattended ⟨hpnp, ?_, by simp [hcleared]⟩
    rcases hstate with hstate | hstate <;> simp [hstate]
  · intro hattended
    refine ⟨h.pending, h.held, ?_, ?_⟩
    · rintro ⟨hpnp, hoffline, htarget⟩
      cases hstate : s.state with
      | offline => exact hoffline hstate
      | closed => exact hpnp (hattended (.inl hstate))
      | faulted => exact hpnp (hattended (.inr hstate))
      | opening => exact (h.busy (.inl hstate)).elim hpnp htarget
      | channelOpen => exact (h.busy (.inr (.inl hstate))).elim hpnp htarget
      | closing => exact (h.busy (.inr (.inr hstate))).elim hpnp htarget
    · rintro ⟨hoffline, hpnp⟩
      exact Bool.eq_false_iff.mp (h.offline hoffline) hpnp

end

theorem kept_after (ops : List NldBthSignalingOp) : Kept (signalingOwner.after {} ops) :=
  Reducer.after_inv (P := Kept) (Q := fun _ _ => True) (fun _ op h _ => kept_step h op)
    kept_initialized (Reducer.along_of_forall (fun _ _ => trivial) _ ops)

/-! ## What each operation answers -/

section
variable {s : NldBthSignalingOwner}

theorem onPnpStart_offline (h : Kept s) (hstate : s.state = offline) :
    s.onPnpStart.2.state = closed := by
  have hpnp := h.offline hstate
  simp [NldBthSignalingOwner.onPnpStart, hstate, hpnp, NldBthSignalingOwner.resetRequestFlags]

theorem requestOpen_refused (h : s.requestOpen.1 ≠ .submitOpen) : s.requestOpen.2 = s := by
  unfold NldBthSignalingOwner.requestOpen at h ⊢
  split_ifs at h ⊢ with hrefused
  · rfl
  · exact absurd rfl h

theorem requestOpen_submitted (h : s.requestOpen.1 = .submitOpen) :
    s.state = closed ∧ s.requestOpen.2.state = opening ∧
      s.requestOpen.2.generation = s.generation := by
  unfold NldBthSignalingOwner.requestOpen at h ⊢
  split_ifs at h ⊢ with hrefused
  rw [not_or, not_or] at hrefused
  exact ⟨not_not.mp hrefused.2.1, rfl, rfl⟩

theorem onRemoteDisconnect_accepted {g : UInt32} (h : (s.onRemoteDisconnect g).1) :
    s.state = channelOpen ∧ (s.onRemoteDisconnect g).2.state = faulted := by
  unfold NldBthSignalingOwner.onRemoteDisconnect at h ⊢
  split_ifs at h ⊢ with hrefused
  rw [not_or, not_or, not_or] at hrefused
  exact ⟨not_not.mp hrefused.2.2.1, rfl⟩

theorem onCloseComplete_cases (succeeded : Bool) :
    s.onCloseComplete succeeded = s ∨
      s.state = closing ∧ s.Ends (s.onCloseComplete succeeded).state := by
  unfold NldBthSignalingOwner.onCloseComplete
  by_cases hclosing : s.state ≠ closing
  · rw [if_pos hclosing]
    exact .inl rfl
  · rw [if_neg hclosing]
    exact .inr ⟨not_not.mp hclosing, s.ends_ite _ (.inl rfl) (.inr rfl)⟩

theorem onOpenComplete_cases (h : Kept s) (hstate : s.state = opening) (succeeded acquired : Bool) :
    (s.onOpenComplete s.generation succeeded acquired).1 = .none ∧
        (s.onOpenComplete s.generation succeeded acquired).2.state = channelOpen ∧
        (s.onOpenComplete s.generation succeeded acquired).2.pnpStarted ∧ acquired ∨
      (s.onOpenComplete s.generation succeeded acquired).1 = .submitClose ∧
        (s.onOpenComplete s.generation succeeded acquired).2.state = closing ∧ acquired ∨
      (s.onOpenComplete s.generation succeeded acquired).1 = .none ∧
        s.Ends (s.onOpenComplete s.generation succeeded acquired).2.state := by
  have hpending : s.openPending = true := by rw [h.pending, hstate]; rfl
  unfold NldBthSignalingOwner.onOpenComplete
  dsimp only
  rw [if_neg (by simp [hpending, hstate])]
  by_cases hacquired : succeeded = true ∧ acquired = true
  · rw [if_pos hacquired]
    split_ifs with hlate
    · exact .inr (.inl ⟨rfl, rfl, hacquired.2⟩)
    · rw [not_or, not_or, not_not] at hlate
      exact .inl ⟨rfl, rfl, hlate.2.2, hacquired.2⟩
  · rw [if_neg hacquired]
    exact .inr (.inr ⟨rfl, s.ends_ite _ (.inl rfl) (.inr rfl)⟩)

theorem generation_onOpenComplete (g : UInt32) (succeeded acquired : Bool) :
    (s.onOpenComplete g succeeded acquired).2.generation = s.generation := by
  unfold NldBthSignalingOwner.onOpenComplete
  dsimp only
  split_ifs <;> rfl

theorem onRemoteDisconnect_open (h : Kept s) (hstate : s.state = channelOpen) (hpnp : s.pnpStarted) :
    (s.onRemoteDisconnect s.generation).2.state = faulted := by
  have hheld : s.channelHeld = true := by rw [h.held, hstate]; rfl
  unfold NldBthSignalingOwner.onRemoteDisconnect
  rw [if_neg (by simp [hstate, hpnp, hheld])]
  rfl

theorem requestClose_cases (h : Kept s) (b : Bool) :
    s.state = opening ∧ (s.requestClose b).1 = .cancelOpen ∧ (s.requestClose b).2.state = opening ∧
        (s.requestClose b).2.generation = s.generation ∨
      s.state = channelOpen ∧ (s.requestClose b).1 = .submitClose ∧
        (s.requestClose b).2.state = closing ∨
      (s.state = closed ∨ s.state = faulted ∨ s.state = offline) ∧
        (s.requestClose b).1 = .none ∧
        ((s.requestClose b).2.state = offline ∨ (s.requestClose b).2.state = closed) ∨
      s.state = closing ∧ (s.requestClose b).1 = .none ∧ (s.requestClose b).2.state = closing := by
  have hnote : (s.noteClose b).state = s.state ∧ (s.noteClose b).generation = s.generation ∧
      (s.noteClose b).openPending = s.openPending ∧
      (s.noteClose b).channelHeld = s.channelHeld := by
    cases b <;> exact ⟨rfl, rfl, rfl, rfl⟩
  obtain ⟨hstate, hgeneration, hpending, hheld⟩ := hnote
  have hpending' := h.pending
  have hheld' := h.held
  simp only [NldBthSignalingOwner.requestClose, hstate, hpending, hheld]
  cases hs : s.state <;> rw [hs] at hpending' hheld' <;> simp at hpending' hheld' <;>
    simp [hpending', hheld', hstate, hs, hgeneration, NldBthSignalingOwner.resetRequestFlags]

theorem ends_ne {state : NldBthSignalingState} (h : s.Ends state) :
    state ≠ opening ∧ state ≠ channelOpen := by
  obtain ⟨rfl, -⟩ | ⟨rfl | rfl, -⟩ := h <;> exact ⟨nofun, nofun⟩

end

end NativeLdac.DirectPdo
