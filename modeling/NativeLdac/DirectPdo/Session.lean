/-
  The session of the direct PDO (`direct-pdo/src/nativeldac_direct_pdo_contract.c`): what the
  endpoint intends, where the transport is, and the one action that brings them together.

  * `NldDirectPdoSession` and its operations;
  * `planned` is the action that `NldDirectPdoPlan` finds, and `OnTrack` what every operation
    keeps: an action that is planned is pending, and a close that is owed is never lost.
-/
import Mathlib.Logic.Basic
import Mathlib.Tactic.ByContra
import Mathlib.Tactic.SplitIfs

namespace NativeLdac.DirectPdo

/-! ## The contract -/

inductive NldDirectPdoKsIntent where
  | ksStopped | ksAcquired | ksRunning
deriving DecidableEq, Repr

inductive NldDirectPdoTransportState where
  | transportOffline | transportClosed | transportOpen | transportStreaming | transportFaulted
deriving DecidableEq, Repr

inductive NldDirectPdoAction where
  | actionNone | actionOpen | actionStart | actionSuspend | actionClose | actionCancelAndClose
deriving DecidableEq, Repr

open NldDirectPdoKsIntent NldDirectPdoTransportState NldDirectPdoAction

/-- `NLD_DIRECT_PDO_SESSION`, as `NldDirectPdoInitialize` leaves it. -/
structure NldDirectPdoSession where
  ksIntent : NldDirectPdoKsIntent := ksStopped
  transportState : NldDirectPdoTransportState := transportOffline
  pendingAction : NldDirectPdoAction := actionNone
  generation : UInt32 := 0
  pnpStarted : Bool := false
  recoveryRequired : Bool := false
deriving DecidableEq, Repr

namespace NldDirectPdoSession

variable (session : NldDirectPdoSession)

/-- `NldDirectPdoPlan`: the action that the intent asks for in the state of the transport. -/
def planned : NldDirectPdoAction :=
  if ¬ session.pnpStarted then
    if session.transportState ≠ transportOffline then actionCancelAndClose else actionNone
  else match session.ksIntent, session.transportState with
    | ksRunning, transportClosed => actionOpen
    | ksRunning, transportOpen => actionStart
    | ksAcquired, transportClosed => actionOpen
    | ksAcquired, transportStreaming => actionSuspend
    | ksStopped, transportStreaming => actionSuspend
    | ksStopped, transportOpen => actionClose
    | _, _ => actionNone

def plan : NldDirectPdoAction × NldDirectPdoSession :=
  if session.pendingAction ≠ actionNone ∨ session.transportState = transportFaulted then
    (actionNone, session)
  else (session.planned, { session with pendingAction := session.planned })

def onPnpStart : NldDirectPdoAction × NldDirectPdoSession :=
  if session.pnpStarted then (actionNone, session)
  else
    plan
      { session with
        pnpStarted := true
        ksIntent := ksStopped
        transportState := transportClosed
        pendingAction := actionNone
        recoveryRequired := false
        generation := session.generation + 1 }

def onPnpStop : NldDirectPdoAction × NldDirectPdoSession :=
  let session :=
    { session with pnpStarted := false, ksIntent := ksStopped, recoveryRequired := false }
  if session.transportState = transportOffline then
    (actionNone, { session with pendingAction := actionNone })
  else if session.transportState = transportClosed ∧ session.pendingAction = actionNone then
    (actionNone, { session with transportState := transportOffline })
  else (actionCancelAndClose, { session with pendingAction := actionCancelAndClose })

/-- `NldDirectPdoSetKsIntent`; the intent is one of the three by its type. -/
def setKsIntent (intent : NldDirectPdoKsIntent) : NldDirectPdoAction × NldDirectPdoSession :=
  plan { session with ksIntent := intent }

def onTransportLost : NldDirectPdoAction × NldDirectPdoSession :=
  if ¬ session.pnpStarted ∨ session.transportState = transportOffline then (actionNone, session)
  else if session.recoveryRequired then (session.pendingAction, session)
  else
    let next := session.generation + 1
    let session :=
      { session with
        recoveryRequired := true
        generation := if next = 0 then next + 1 else next }
    if (session.transportState = transportClosed ∨ session.transportState = transportFaulted) ∧
        session.pendingAction = actionNone then
      (actionNone, { session with transportState := transportFaulted })
    else (actionCancelAndClose, { session with pendingAction := actionCancelAndClose })

/-- `NldDirectPdoCompleteAction`: where an action that succeeded leaves the transport. -/
def completed : NldDirectPdoAction → NldDirectPdoTransportState
  | actionOpen => transportOpen
  | actionStart => transportStreaming
  | actionSuspend => transportOpen
  | actionClose => transportClosed
  | actionCancelAndClose => if session.pnpStarted then transportClosed else transportOffline
  | actionNone => transportFaulted

def completeAction (action : NldDirectPdoAction) (succeeded : Bool) :
    NldDirectPdoAction × NldDirectPdoSession :=
  if action = actionNone ∨ action ≠ session.pendingAction then (actionNone, session)
  else
    let session := { session with pendingAction := actionNone }
    if action = actionCancelAndClose ∧ session.recoveryRequired then
      (actionNone, { session with transportState := transportFaulted })
    else if ¬ succeeded then
      (actionNone,
        { session with
          transportState :=
            if action = actionCancelAndClose ∧ ¬ session.pnpStarted then transportOffline
            else transportFaulted })
    else plan { session with transportState := session.completed action }

def retry : NldDirectPdoAction × NldDirectPdoSession :=
  if ¬ session.pnpStarted ∨ session.pendingAction ≠ actionNone ∨
      session.transportState ≠ transportFaulted ∨ session.ksIntent ≠ ksStopped then
    (actionNone, session)
  else
    plan
      { session with
        transportState := transportClosed
        recoveryRequired := false
        generation := session.generation + 1 }

/-- `NldDirectPdoIsConsistent`; the fields of an enumeration are in range by their types. -/
def isConsistent : Bool :=
  ¬ (¬ session.pnpStarted ∧ session.transportState ≠ transportOffline ∧
      session.pendingAction ≠ actionCancelAndClose) ∧
    ¬ (session.transportState = transportOffline ∧ session.pnpStarted) ∧
    ¬ (session.recoveryRequired ∧ session.transportState ≠ transportFaulted ∧
      session.pendingAction ≠ actionCancelAndClose)

end NldDirectPdoSession

/-! ## Who starts and who stops -/

namespace NldDirectPdoSession

variable (session : NldDirectPdoSession)

@[simp] theorem plan_pnpStarted : session.plan.2.pnpStarted = session.pnpStarted := by
  unfold plan
  split_ifs <;> rfl

@[simp] theorem plan_transportState : session.plan.2.transportState = session.transportState := by
  unfold plan
  split_ifs <;> rfl

@[simp] theorem plan_recoveryRequired :
    session.plan.2.recoveryRequired = session.recoveryRequired := by
  unfold plan
  split_ifs <;> rfl

@[simp] theorem plan_generation : session.plan.2.generation = session.generation := by
  unfold plan
  split_ifs <;> rfl

@[simp] theorem onPnpStart_pnpStarted : session.onPnpStart.2.pnpStarted = true := by
  unfold onPnpStart
  split_ifs with hstarted
  · exact hstarted
  · exact plan_pnpStarted _

@[simp] theorem onPnpStop_pnpStarted : session.onPnpStop.2.pnpStarted = false := by
  unfold onPnpStop
  dsimp only
  split_ifs <;> rfl

@[simp] theorem setKsIntent_pnpStarted (intent : NldDirectPdoKsIntent) :
    (session.setKsIntent intent).2.pnpStarted = session.pnpStarted :=
  plan_pnpStarted _

@[simp] theorem setKsIntent_transportState (intent : NldDirectPdoKsIntent) :
    (session.setKsIntent intent).2.transportState = session.transportState :=
  plan_transportState _

@[simp] theorem onTransportLost_pnpStarted :
    session.onTransportLost.2.pnpStarted = session.pnpStarted := by
  unfold onTransportLost
  dsimp only
  repeat (first | rfl | split)

@[simp] theorem completeAction_pnpStarted (action : NldDirectPdoAction) (succeeded : Bool) :
    (session.completeAction action succeeded).2.pnpStarted = session.pnpStarted := by
  unfold completeAction
  dsimp only
  repeat (first | rfl | exact plan_pnpStarted _ | split)

@[simp] theorem retry_pnpStarted : session.retry.2.pnpStarted = session.pnpStarted := by
  unfold retry
  split_ifs
  · rfl
  · exact plan_pnpStarted _

variable {session}

theorem onTransportLost_of_stopped (h : session.pnpStarted = false) :
    session.onTransportLost = (actionNone, session) :=
  if_pos (.inl (Bool.eq_false_iff.mp h))

theorem retry_of_stopped (h : session.pnpStarted = false) :
    session.retry = (actionNone, session) :=
  if_pos (.inl (Bool.eq_false_iff.mp h))

end NldDirectPdoSession

/-! ## What the operations keep -/

/-- What every operation keeps.  `settled` says that nothing is left to do when nothing is
    pending. -/
structure NldDirectPdoSession.OnTrack (session : NldDirectPdoSession) : Prop where
  offline : session.transportState = transportOffline →
    session.pnpStarted = false ∧ session.pendingAction = actionNone
  stopped : session.pnpStarted = false → session.recoveryRequired = false ∧
    (session.transportState ≠ transportOffline → session.pendingAction = actionCancelAndClose)
  owed : session.pendingAction = actionCancelAndClose →
    session.pnpStarted = false ∨ session.recoveryRequired
  recovery : session.recoveryRequired →
    session.transportState = transportFaulted ∧ session.pendingAction = actionNone ∨
      session.pendingAction = actionCancelAndClose
  settled : session.pendingAction = actionNone → session.transportState ≠ transportFaulted →
    session.planned = actionNone

namespace NldDirectPdoSession

theorem onTrack_initialized : OnTrack {} where
  offline _ := ⟨rfl, rfl⟩
  stopped _ := ⟨rfl, fun h => absurd rfl h⟩
  owed := nofun
  recovery := nofun
  settled _ _ := rfl

variable {session : NldDirectPdoSession}

theorem isConsistent_of_onTrack (h : session.OnTrack) : session.isConsistent = true := by
  simp only [isConsistent, decide_eq_true_eq]
  refine ⟨?_, ?_, ?_⟩
  · rintro ⟨hstopped, hoffline, hpending⟩
    exact hpending ((h.stopped (Bool.eq_false_iff.mpr hstopped)).2 hoffline)
  · rintro ⟨hoffline, hstarted⟩
    exact Bool.eq_false_iff.mp (h.offline hoffline).1 hstarted
  · rintro ⟨hrecovery, hfaulted, hpending⟩
    exact (h.recovery hrecovery).elim (fun h => hfaulted h.1) hpending

theorem planned_ne_cancelAndClose (h : session.pnpStarted) :
    session.planned ≠ actionCancelAndClose := by
  unfold planned
  rw [if_neg (not_not.mpr h)]
  split <;> simp

theorem onTrack_plan (hstarted : session.pnpStarted)
    (hoffline : session.transportState ≠ transportOffline)
    (hrecovery : session.recoveryRequired = false)
    (hpending : session.pendingAction = actionNone) : session.plan.2.OnTrack := by
  have hno : ¬ session.recoveryRequired = true := Bool.eq_false_iff.mp hrecovery
  unfold plan
  by_cases hfaulted : session.transportState = transportFaulted
  · rw [if_pos (.inr hfaulted)]
    exact ⟨fun h => absurd h hoffline, fun h => absurd hstarted (Bool.eq_false_iff.mp h),
      fun h => (nomatch hpending.symm.trans h), fun h => absurd h hno, fun _ h => absurd hfaulted h⟩
  · rw [if_neg (not_or.mpr ⟨not_not.mpr hpending, hfaulted⟩)]
    exact ⟨fun h => absurd h hoffline, fun h => absurd hstarted (Bool.eq_false_iff.mp h),
      fun h => absurd h (planned_ne_cancelAndClose hstarted), fun h => absurd h hno, fun h _ => h⟩

theorem onTrack_onPnpStart (h : session.OnTrack) : session.onPnpStart.2.OnTrack := by
  unfold onPnpStart
  split_ifs
  · exact h
  · exact onTrack_plan rfl (by simp) rfl rfl

theorem onTrack_onPnpStop : session.onPnpStop.2.OnTrack := by
  unfold onPnpStop
  dsimp only
  split_ifs with hoffline hclosed
  · exact ⟨fun _ => ⟨rfl, rfl⟩, fun _ => ⟨rfl, fun hstate => absurd hoffline hstate⟩, nofun, nofun,
      fun _ _ => by simp [planned, hoffline]⟩
  · exact ⟨fun _ => ⟨rfl, hclosed.2⟩, fun _ => ⟨rfl, fun hstate => absurd rfl hstate⟩,
      fun _ => .inl rfl, nofun, fun _ _ => by simp [planned]⟩
  · exact ⟨fun hstate => absurd hstate hoffline, fun _ => ⟨rfl, fun _ => rfl⟩, fun _ => .inl rfl,
      nofun, nofun⟩

theorem onTrack_setKsIntent (h : session.OnTrack) (intent : NldDirectPdoKsIntent) :
    (session.setKsIntent intent).2.OnTrack := by
  unfold setKsIntent plan
  split_ifs with hbusy
  · refine ⟨h.offline, h.stopped, h.owed, h.recovery, fun hpending hfaulted => ?_⟩
    exact (hbusy.elim (· hpending) hfaulted).elim
  · rw [not_or, not_not] at hbusy
    obtain ⟨hpending, hfaulted⟩ := hbusy
    by_cases hstarted : session.pnpStarted = true
    · have hrecovery : session.recoveryRequired = false := by
        refine Bool.eq_false_iff.mpr fun hlost => ?_
        rcases h.recovery hlost with ⟨hfault, -⟩ | howed
        · exact hfaulted hfault
        · cases hpending.symm.trans howed
      have hoffline : session.transportState ≠ transportOffline := fun hoffline =>
        Bool.eq_false_iff.mp (h.offline hoffline).1 hstarted
      have hplan := @onTrack_plan { session with ksIntent := intent } hstarted hoffline hrecovery
        hpending
      rwa [plan, if_neg (not_or.mpr ⟨not_not.mpr hpending, hfaulted⟩)] at hplan
    · rw [Bool.not_eq_true] at hstarted
      have hoffline : session.transportState = transportOffline := by
        by_contra hoffline
        cases hpending.symm.trans ((h.stopped hstarted).2 hoffline)
      have hnone : planned { session with ksIntent := intent } = actionNone := by
        simp [planned, hstarted, hoffline]
      have hlost := (h.stopped hstarted).1
      dsimp only
      rw [hnone]
      exact ⟨fun _ => ⟨hstarted, rfl⟩, fun _ => ⟨hlost, fun hstate => absurd hoffline hstate⟩,
        nofun, fun h => absurd h (Bool.eq_false_iff.mp hlost), fun _ _ => hnone⟩

theorem onTrack_onTransportLost (h : session.OnTrack) : session.onTransportLost.2.OnTrack := by
  unfold onTransportLost
  dsimp only
  by_cases hignored : ¬ session.pnpStarted = true ∨ session.transportState = transportOffline
  · rw [if_pos hignored]
    exact h
  rw [if_neg hignored]
  rw [not_or, not_not] at hignored
  have hstill : ¬ session.pnpStarted = false := by rw [hignored.1]; nofun
  by_cases hlost : session.recoveryRequired = true
  · rw [if_pos hlost]
    exact h
  rw [if_neg hlost]
  by_cases hfaults : (session.transportState = transportClosed ∨
      session.transportState = transportFaulted) ∧ session.pendingAction = actionNone
  · rw [if_pos hfaults]
    exact ⟨nofun, fun h => absurd h hstill, fun _ => .inr rfl, fun _ => .inl ⟨rfl, hfaults.2⟩,
      fun _ h => absurd rfl h⟩
  · rw [if_neg hfaults]
    exact ⟨fun h => absurd h hignored.2, fun h => absurd h hstill, fun _ => .inr rfl,
      fun _ => .inr rfl, nofun⟩

theorem onTrack_completeAction (h : session.OnTrack) (action : NldDirectPdoAction)
    (succeeded : Bool) : (session.completeAction action succeeded).2.OnTrack := by
  unfold completeAction
  by_cases hrefused : action = actionNone ∨ action ≠ session.pendingAction
  · rw [if_pos hrefused]
    exact h
  rw [if_neg hrefused]
  rw [not_or, not_not] at hrefused
  obtain ⟨hnone, rfl⟩ := hrefused
  have hoffline : session.transportState ≠ transportOffline := fun hoffline =>
    hnone (h.offline hoffline).2
  by_cases hstarted : session.pnpStarted = true
  · have hstill : ¬ session.pnpStarted = false := by rw [hstarted]; nofun
    by_cases hlost : session.recoveryRequired = true
    · have hclose : session.pendingAction = actionCancelAndClose :=
        (h.recovery hlost).resolve_left fun hfault => hnone hfault.2
      rw [if_pos ⟨hclose, hlost⟩]
      exact ⟨nofun, fun h => absurd h hstill, nofun, fun _ => .inl ⟨rfl, rfl⟩,
        fun _ h => absurd rfl h⟩
    · have hkept : session.recoveryRequired = false := Bool.eq_false_iff.mpr hlost
      rw [if_neg fun h => hlost h.2]
      cases succeeded with
      | false =>
        rw [if_pos Bool.false_ne_true, if_neg fun h => h.2 hstarted]
        exact ⟨nofun, fun h => absurd h hstill, nofun, fun h => absurd h hlost,
          fun _ h => absurd rfl h⟩
      | true =>
        rw [if_neg (by simp)]
        refine onTrack_plan hstarted ?_ hkept rfl
        have hcompleted : session.completed session.pendingAction ≠ transportOffline := by
          cases session.pendingAction <;> simp [completed, hstarted]
        exact hcompleted
  · rw [Bool.not_eq_true] at hstarted
    obtain ⟨hkept, howed⟩ := h.stopped hstarted
    have hclose := howed hoffline
    have hlost : ¬ session.recoveryRequired = true := Bool.eq_false_iff.mp hkept
    -- the close that a stop owes takes the transport offline whether it succeeds or not
    rw [if_neg fun h => hlost h.2]
    have hdone : OnTrack { session with
        transportState := transportOffline, pendingAction := actionNone } :=
      ⟨fun _ => ⟨hstarted, rfl⟩, fun _ => ⟨hkept, fun h => absurd rfl h⟩, nofun,
        fun h => absurd h hlost, fun _ _ => by simp [planned, hstarted]⟩
    cases succeeded with
    | false => simpa [hclose, hstarted] using hdone
    | true => simpa [hclose, hstarted, plan, planned, completed] using hdone

theorem onTrack_retry (h : session.OnTrack) : session.retry.2.OnTrack := by
  unfold retry
  split_ifs with hrefused
  · exact h
  · rw [not_or, not_or, not_or, not_not, not_not, not_not] at hrefused
    exact onTrack_plan hrefused.1 (by simp) rfl hrefused.2.1

/-! ## The action that an operation returns -/

end NldDirectPdoSession

/-- What an operation returns is what it leaves pending, where nothing was; what was pending
    stays, or a close takes its place. -/
structure NldDirectPdoSession.Moves (session : NldDirectPdoSession)
    (result : NldDirectPdoAction × NldDirectPdoSession) : Prop where
  onTrack : result.2.OnTrack
  announced : session.pendingAction = actionNone → result.2.pendingAction = result.1
  kept : session.pendingAction ≠ actionNone →
    result.2.pendingAction = session.pendingAction ∨
      result.2.pendingAction = actionCancelAndClose

namespace NldDirectPdoSession

variable {session : NldDirectPdoSession}

theorem plan_of_pending (h : session.pendingAction ≠ actionNone) :
    session.plan = (actionNone, session) := if_pos (.inl h)

theorem plan_announced (h : session.pendingAction = actionNone) :
    session.plan.2.pendingAction = session.plan.1 := by
  unfold plan
  split_ifs
  · exact h
  · rfl

theorem moves_onPnpStart (h : session.OnTrack) (hpending : session.pendingAction = actionNone) :
    session.Moves session.onPnpStart := by
  refine ⟨onTrack_onPnpStart h, fun _ => ?_, fun hbusy => absurd hpending hbusy⟩
  unfold onPnpStart
  split_ifs
  · exact hpending
  · exact plan_announced rfl

theorem moves_onPnpStop (h : session.OnTrack) : session.Moves session.onPnpStop := by
  refine ⟨onTrack_onPnpStop, fun hpending => ?_, fun hbusy => .inr ?_⟩
  · unfold onPnpStop
    dsimp only
    split_ifs
    · rfl
    · exact hpending
    · rfl
  · unfold onPnpStop
    dsimp only
    rw [if_neg fun hoffline => hbusy (h.offline hoffline).2, if_neg fun hclosed => hbusy hclosed.2]

theorem moves_setKsIntent (h : session.OnTrack) (intent : NldDirectPdoKsIntent) :
    session.Moves (session.setKsIntent intent) := by
  refine ⟨onTrack_setKsIntent h intent, fun hpending => ?_, fun hbusy => .inl ?_⟩
  · exact @plan_announced { session with ksIntent := intent } hpending
  · rw [setKsIntent, @plan_of_pending { session with ksIntent := intent } hbusy]

theorem moves_onTransportLost (h : session.OnTrack) : session.Moves session.onTransportLost := by
  refine ⟨onTrack_onTransportLost h, fun hpending => ?_, fun hbusy => ?_⟩
  · unfold onTransportLost
    dsimp only
    by_cases hignored : ¬ session.pnpStarted = true ∨ session.transportState = transportOffline
    · rw [if_pos hignored]
      exact hpending
    rw [if_neg hignored]
    split_ifs <;> first | rfl | exact hpending
  · unfold onTransportLost
    dsimp only
    by_cases hignored : ¬ session.pnpStarted = true ∨ session.transportState = transportOffline
    · rw [if_pos hignored]
      exact .inl rfl
    rw [if_neg hignored]
    by_cases hlost : session.recoveryRequired = true
    · rw [if_pos hlost]
      exact .inl rfl
    · rw [if_neg hlost, if_neg fun hfaults => hbusy hfaults.2]
      exact .inr rfl

theorem moves_retry (h : session.OnTrack) : session.Moves session.retry := by
  refine ⟨onTrack_retry h, fun hpending => ?_, fun hbusy => .inl ?_⟩
  · unfold retry
    split_ifs
    · exact hpending
    · exact plan_announced hpending
  · rw [retry, if_pos (.inr (.inl hbusy))]

end NldDirectPdoSession

end NativeLdac.DirectPdo
