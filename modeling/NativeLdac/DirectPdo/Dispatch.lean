/-
  The dispatcher of the direct PDO: the session and the worker that carries out its actions
  (`direct-pdo/src/nativeldac_direct_pdo_dispatch_contract.c`).

  * `NldDirectPdoDispatchOwner` and its operations, `dispatcher` the machine they make;
  * `OnTrack` holds of every state that is reached.
-/
import Mathlib.Algebra.Order.Group.Nat
import NativeLdac.DirectPdo.Session
import NativeLdac.Lib.Reducer

namespace NativeLdac.DirectPdo

open NldDirectPdoKsIntent NldDirectPdoTransportState NldDirectPdoAction

/-! ## The contract -/

inductive NldDirectPdoDispatchCommand where
  | dispatchNone | queueWorker | cancelActive
deriving DecidableEq, Repr

open NldDirectPdoDispatchCommand

/-- `NLD_DIRECT_PDO_DISPATCH_OWNER`, as `NldDirectPdoDispatchInitialize` leaves it. -/
structure NldDirectPdoDispatchOwner where
  session : NldDirectPdoSession := {}
  activeAction : NldDirectPdoAction := actionNone
  activeGeneration : UInt32 := 0
  workerOwned : Bool := false
  stopRequested : Bool := false
deriving DecidableEq, Repr

namespace NldDirectPdoDispatchOwner

variable (owner : NldDirectPdoDispatchOwner)

def ownWorker (action : NldDirectPdoAction) :
    NldDirectPdoDispatchCommand × NldDirectPdoDispatchOwner :=
  if action = actionNone ∨ owner.workerOwned then (dispatchNone, owner)
  else (queueWorker, { owner with workerOwned := true })

def onPnpStart : NldDirectPdoDispatchCommand × NldDirectPdoDispatchOwner :=
  if owner.workerOwned ∨ owner.activeAction ≠ actionNone then (dispatchNone, owner)
  else
    let (action, session) := owner.session.onPnpStart
    ownWorker { owner with stopRequested := false, session := session } action

def onPnpStop : NldDirectPdoDispatchCommand × NldDirectPdoDispatchOwner :=
  let (action, session) := owner.session.onPnpStop
  let owner := { owner with session := session, stopRequested := true }
  if owner.activeAction ≠ actionNone then (cancelActive, owner) else owner.ownWorker action

def setKsIntent (intent : NldDirectPdoKsIntent) :
    NldDirectPdoDispatchCommand × NldDirectPdoDispatchOwner :=
  if owner.stopRequested then (dispatchNone, owner)
  else
    let (action, session) := owner.session.setKsIntent intent
    ownWorker { owner with session := session } action

def onTransportLost : NldDirectPdoDispatchCommand × NldDirectPdoDispatchOwner :=
  if owner.stopRequested then (dispatchNone, owner)
  else
    let (action, session) := owner.session.onTransportLost
    let owner := { owner with session := session }
    if owner.activeAction ≠ actionNone then
      (if action = actionCancelAndClose then cancelActive else dispatchNone, owner)
    else owner.ownWorker action

def retry : NldDirectPdoDispatchCommand × NldDirectPdoDispatchOwner :=
  if owner.stopRequested ∨ owner.workerOwned ∨ owner.activeAction ≠ actionNone then
    (dispatchNone, owner)
  else
    let (action, session) := owner.session.retry
    ownWorker { owner with session := session } action

/-- `NldDirectPdoDispatchTakeAction`: the action, and the generation it is taken at. -/
def takeAction : (NldDirectPdoAction × UInt32) × NldDirectPdoDispatchOwner :=
  if ¬ owner.workerOwned ∨ owner.activeAction ≠ actionNone then ((actionNone, 0), owner)
  else
    let action := owner.session.pendingAction
    if action = actionNone then ((actionNone, 0), { owner with workerOwned := false })
    else
      ((action, owner.session.generation),
        { owner with activeAction := action, activeGeneration := owner.session.generation })

/-- `NldDirectPdoDispatchCompleteAction`, where the completion is that of the active action. -/
def finished (action : NldDirectPdoAction) (succeeded : Bool) : NldDirectPdoDispatchOwner :=
  let owner := { owner with activeAction := actionNone, activeGeneration := 0 }
  if (owner.stopRequested ∨ owner.session.recoveryRequired) ∧
      owner.session.pendingAction = actionCancelAndClose ∧ action ≠ actionCancelAndClose then owner
  else { owner with session := (owner.session.completeAction action succeeded).2 }

def completeAction (generation : UInt32) (action : NldDirectPdoAction) (succeeded : Bool) :
    Bool × NldDirectPdoDispatchOwner :=
  if action = actionNone ∨ action ≠ owner.activeAction ∨ generation ≠ owner.activeGeneration then
    (false, owner)
  else (true, owner.finished action succeeded)

/-- `NldDirectPdoDispatchIsConsistent`; the active action is one of the six by its type. -/
def isConsistent : Bool :=
  owner.session.isConsistent ∧
    (owner.activeAction = actionNone ↔ owner.activeGeneration = 0) ∧
    ¬ (owner.activeAction ≠ actionNone ∧ ¬ owner.workerOwned) ∧
    ¬ (¬ owner.workerOwned ∧ owner.session.pendingAction ≠ actionNone) ∧
    ¬ (owner.stopRequested ∧ owner.session.pnpStarted)

end NldDirectPdoDispatchOwner

inductive NldDirectPdoDispatchOp where
  | pnpStart
  | pnpStop
  | setKsIntent (intent : NldDirectPdoKsIntent)
  | transportLost
  | retry
  | takeAction
  | completeAction (generation : UInt32) (action : NldDirectPdoAction) (succeeded : Bool)
deriving DecidableEq, Repr

inductive NldDirectPdoDispatchAnswer where
  | command (command : NldDirectPdoDispatchCommand)
  | taken (action : NldDirectPdoAction) (generation : UInt32)
  | completed (accepted : Bool)
deriving DecidableEq, Repr

open NldDirectPdoDispatchOp NldDirectPdoDispatchAnswer

def dispatcher :
    Reducer NldDirectPdoDispatchOwner NldDirectPdoDispatchOp NldDirectPdoDispatchAnswer where
  step owner
    | .pnpStart => owner.onPnpStart.map command id
    | .pnpStop => owner.onPnpStop.map command id
    | .setKsIntent intent => (owner.setKsIntent intent).map command id
    | .transportLost => owner.onTransportLost.map command id
    | .retry => owner.retry.map command id
    | .takeAction => owner.takeAction.map (fun taking => taken taking.1 taking.2) id
    | .completeAction generation action succeeded =>
      (owner.completeAction generation action succeeded).map completed id

/-! ## What the operations keep -/

/-- What every operation keeps.  The action that the worker carries out is still pending,
    unless a close has taken its place. -/
structure NldDirectPdoDispatchOwner.OnTrack (owner : NldDirectPdoDispatchOwner) : Prop where
  session : owner.session.OnTrack
  idle : owner.workerOwned = false →
    owner.session.pendingAction = actionNone ∧ owner.activeAction = actionNone
  active : owner.activeAction ≠ actionNone →
    owner.session.pendingAction = owner.activeAction ∨
      owner.session.pendingAction = actionCancelAndClose
  quiet : owner.activeAction = actionNone → owner.activeGeneration = 0
  stopped : owner.stopRequested → owner.session.pnpStarted = false
  stopping : owner.session.pnpStarted = false →
    owner.session.transportState ≠ transportOffline → owner.stopRequested

namespace NldDirectPdoDispatchOwner

theorem onTrack_initialized : OnTrack {} where
  session := NldDirectPdoSession.onTrack_initialized
  idle _ := ⟨rfl, rfl⟩
  active h := absurd rfl h
  quiet _ := rfl
  stopped := nofun
  stopping _ h := absurd rfl h

variable {owner : NldDirectPdoDispatchOwner}

theorem ownWorker_snd (action : NldDirectPdoAction) :
    (owner.ownWorker action).2 =
      { owner with workerOwned := owner.workerOwned || action ≠ actionNone } := by
  obtain ⟨session, activeAction, activeGeneration, workerOwned, stopRequested⟩ := owner
  unfold ownWorker
  split_ifs with hrefused
  · rcases hrefused with rfl | rfl <;> simp
  · rw [not_or] at hrefused
    simp [hrefused.1]

theorem onTrack_active (h : owner.OnTrack) {result : NldDirectPdoAction × NldDirectPdoSession}
    (hmoves : owner.session.Moves result) {stop : Bool}
    (hstopped : stop → result.2.pnpStarted = false)
    (hstopping : result.2.pnpStarted = false →
      result.2.transportState ≠ transportOffline → stop)
    (hactive : owner.activeAction ≠ actionNone) :
    OnTrack { owner with session := result.2, stopRequested := stop } := by
  have hpending : owner.session.pendingAction ≠ actionNone := by
    rcases h.active hactive with hpending | hpending <;> rw [hpending]
    · exact hactive
    · nofun
  refine ⟨hmoves.onTrack, fun hidle => absurd (h.idle hidle).2 hactive, fun _ => ?_,
    fun hnone => absurd hnone hactive, hstopped, hstopping⟩
  rcases hmoves.kept hpending with hkept | hclose
  · dsimp only
    rw [hkept]
    exact h.active hactive
  · exact .inr hclose

theorem onTrack_ownWorker (h : owner.OnTrack) {result : NldDirectPdoAction × NldDirectPdoSession}
    (hmoves : owner.session.Moves result) {stop : Bool}
    (hstopped : stop → result.2.pnpStarted = false)
    (hstopping : result.2.pnpStarted = false →
      result.2.transportState ≠ transportOffline → stop)
    (hactive : owner.activeAction = actionNone) :
    OnTrack (ownWorker { owner with session := result.2, stopRequested := stop } result.1).2 := by
  rw [ownWorker_snd]
  refine ⟨hmoves.onTrack, fun hidle => ?_, fun hbusy => absurd hactive hbusy, h.quiet, hstopped,
    hstopping⟩
  rw [Bool.or_eq_false_iff, decide_eq_false_iff_not, not_not] at hidle
  obtain ⟨hworker, hnone⟩ := hidle
  exact ⟨(hmoves.announced (h.idle hworker).1).trans hnone, hactive⟩

theorem onTrack_onPnpStart (h : owner.OnTrack) : owner.onPnpStart.2.OnTrack := by
  unfold onPnpStart
  split_ifs with hrefused
  · exact h
  · rw [not_or, Bool.not_eq_true, not_not] at hrefused
    have hmoves := NldDirectPdoSession.moves_onPnpStart h.session (h.idle hrefused.1).1
    exact onTrack_ownWorker h hmoves nofun (fun hstopped => by simp at hstopped) hrefused.2

theorem onTrack_onPnpStop (h : owner.OnTrack) : owner.onPnpStop.2.OnTrack := by
  have hmoves := NldDirectPdoSession.moves_onPnpStop h.session
  have hstopped := owner.session.onPnpStop_pnpStarted
  unfold onPnpStop
  dsimp only
  split_ifs with hactive
  · exact onTrack_active h hmoves (fun _ => hstopped) (fun _ _ => rfl) hactive
  · exact onTrack_ownWorker h hmoves (fun _ => hstopped) (fun _ _ => rfl) (not_not.mp hactive)

theorem onTrack_setKsIntent (h : owner.OnTrack) (intent : NldDirectPdoKsIntent) :
    (owner.setKsIntent intent).2.OnTrack := by
  unfold setKsIntent
  split_ifs with hstop
  · exact h
  · have hmoves := NldDirectPdoSession.moves_setKsIntent h.session intent
    have hstopping : (owner.session.setKsIntent intent).2.pnpStarted = false →
        (owner.session.setKsIntent intent).2.transportState ≠ transportOffline →
          owner.stopRequested := by
      rw [NldDirectPdoSession.setKsIntent_pnpStarted,
        NldDirectPdoSession.setKsIntent_transportState]
      exact h.stopping
    have hstopped : owner.stopRequested → (owner.session.setKsIntent intent).2.pnpStarted = false :=
      fun hstopped => absurd hstopped hstop
    by_cases hactive : owner.activeAction = actionNone
    · exact onTrack_ownWorker h hmoves hstopped hstopping hactive
    · -- what the session returns while an action is carried out is not announced
      have hpending : owner.session.pendingAction ≠ actionNone := by
        rcases h.active hactive with hpending | hpending <;> rw [hpending]
        · exact hactive
        · nofun
      have hworker : owner.workerOwned = true :=
        not_not.mp fun hidle => hactive (h.idle (Bool.eq_false_iff.mpr hidle)).2
      dsimp only
      rw [ownWorker_snd]
      simpa [hworker] using onTrack_active h hmoves hstopped hstopping hactive

theorem onTrack_onTransportLost (h : owner.OnTrack) : owner.onTransportLost.2.OnTrack := by
  unfold onTransportLost
  split_ifs with hstop
  · exact h
  · have hmoves := NldDirectPdoSession.moves_onTransportLost h.session
    have hstopped : owner.stopRequested → owner.session.onTransportLost.2.pnpStarted = false :=
      fun hstopped => absurd hstopped hstop
    have hstopping : owner.session.onTransportLost.2.pnpStarted = false →
        owner.session.onTransportLost.2.transportState ≠ transportOffline →
          owner.stopRequested := by
      rw [NldDirectPdoSession.onTransportLost_pnpStarted]
      intro hpnp
      rw [NldDirectPdoSession.onTransportLost_of_stopped hpnp]
      exact h.stopping hpnp
    dsimp only
    by_cases hactive : owner.activeAction = actionNone
    · rw [if_neg (not_not.mpr hactive)]
      exact onTrack_ownWorker h hmoves hstopped hstopping hactive
    · rw [if_pos hactive]
      exact onTrack_active h hmoves hstopped hstopping hactive

theorem onTrack_retry (h : owner.OnTrack) : owner.retry.2.OnTrack := by
  unfold retry
  split_ifs with hrefused
  · exact h
  · rw [not_or, not_or, not_not] at hrefused
    obtain ⟨hstop, -, hactive⟩ := hrefused
    have hmoves := NldDirectPdoSession.moves_retry h.session
    refine onTrack_ownWorker h hmoves (fun hstopped => absurd hstopped hstop) ?_ hactive
    rw [NldDirectPdoSession.retry_pnpStarted]
    intro hpnp
    rw [NldDirectPdoSession.retry_of_stopped hpnp]
    exact h.stopping hpnp

theorem onTrack_takeAction (h : owner.OnTrack) : owner.takeAction.2.OnTrack := by
  unfold takeAction
  dsimp only
  by_cases hrefused : ¬ owner.workerOwned = true ∨ owner.activeAction ≠ actionNone
  · rw [if_pos hrefused]
    exact h
  rw [if_neg hrefused]
  rw [not_or, not_not, not_not] at hrefused
  by_cases hpending : owner.session.pendingAction = actionNone
  · rw [if_pos hpending]
    exact ⟨h.session, fun _ => ⟨hpending, hrefused.2⟩, h.active, h.quiet, h.stopped, h.stopping⟩
  · rw [if_neg hpending]
    have howned : ¬ owner.workerOwned = false := by rw [hrefused.1]; nofun
    exact ⟨h.session, fun hidle => absurd hidle howned, fun _ => .inl rfl,
      fun hnone => absurd hnone hpending, h.stopped, h.stopping⟩

theorem onTrack_finished (h : owner.OnTrack) (hactive : owner.activeAction ≠ actionNone)
    (succeeded : Bool) : (owner.finished owner.activeAction succeeded).OnTrack := by
  have howned : ¬ owner.workerOwned = false := fun hidle => hactive (h.idle hidle).2
  unfold finished
  dsimp only
  split_ifs with howed
  · exact ⟨h.session, fun hidle => absurd hidle howned, fun hbusy => absurd rfl hbusy,
      fun _ => rfl, h.stopped, h.stopping⟩
  · refine ⟨NldDirectPdoSession.onTrack_completeAction h.session _ _,
      fun hidle => absurd hidle howned, fun hbusy => absurd rfl hbusy, fun _ => rfl,
      fun hstop => ?_, fun hpnp _ => ?_⟩
    · exact (NldDirectPdoSession.completeAction_pnpStarted _ _ _).trans (h.stopped hstop)
    · rw [NldDirectPdoSession.completeAction_pnpStarted] at hpnp
      refine h.stopping hpnp fun hoffline => ?_
      have hnone := (h.session.offline hoffline).2
      rcases h.active hactive with hpending | hpending
      · exact hactive (hpending ▸ hnone)
      · cases hnone.symm.trans hpending

theorem onTrack_completeAction (h : owner.OnTrack) (generation : UInt32)
    (action : NldDirectPdoAction) (succeeded : Bool) :
    (owner.completeAction generation action succeeded).2.OnTrack := by
  unfold completeAction
  split_ifs with hrefused
  · exact h
  · rw [not_or, not_or, not_not] at hrefused
    obtain ⟨hnone, rfl, -⟩ := hrefused
    exact onTrack_finished h hnone succeeded

theorem onTrack_step (h : owner.OnTrack) (op : NldDirectPdoDispatchOp) :
    (dispatcher.next owner op).OnTrack := by
  cases op with
  | pnpStart => exact onTrack_onPnpStart h
  | pnpStop => exact onTrack_onPnpStop h
  | setKsIntent intent => exact onTrack_setKsIntent h intent
  | transportLost => exact onTrack_onTransportLost h
  | retry => exact onTrack_retry h
  | takeAction => exact onTrack_takeAction h
  | completeAction generation action succeeded =>
    exact onTrack_completeAction h generation action succeeded

theorem onTrack_after (h : owner.OnTrack) (ops : List NldDirectPdoDispatchOp) :
    (dispatcher.after owner ops).OnTrack :=
  Reducer.after_inv (P := OnTrack) (Q := fun _ _ => True) (fun _ op h _ => onTrack_step h op) h
    (Reducer.along_of_forall (fun _ _ => trivial) _ ops)

/-! ## The worker -/

theorem completeAction_cases (owner : NldDirectPdoDispatchOwner) (generation : UInt32)
    (action : NldDirectPdoAction) (succeeded : Bool) :
    owner.completeAction generation action succeeded = (false, owner) ∨
      action ≠ actionNone ∧ action = owner.activeAction ∧
        owner.completeAction generation action succeeded =
          (true, owner.finished action succeeded) := by
  unfold completeAction
  split_ifs with hrefused
  · exact .inl rfl
  · rw [not_or, not_or, not_not] at hrefused
    exact .inr ⟨hrefused.1, hrefused.2.1, rfl⟩

theorem takeAction_cases (owner : NldDirectPdoDispatchOwner) :
    owner.takeAction.2.session = owner.session ∧
      owner.takeAction.2.stopRequested = owner.stopRequested ∧
      (owner.takeAction.1.1 = actionNone ∨
        owner.takeAction.1.1 = owner.session.pendingAction) := by
  unfold takeAction
  dsimp only
  split_ifs
  · exact ⟨rfl, rfl, .inl rfl⟩
  · exact ⟨rfl, rfl, .inl rfl⟩
  · exact ⟨rfl, rfl, .inr rfl⟩

theorem pendingAction_ne_of_active (h : owner.OnTrack) (hactive : owner.activeAction ≠ actionNone) :
    owner.session.pendingAction ≠ actionNone := by
  rcases h.active hactive with hpending | hpending
  · rwa [hpending]
  · rw [hpending]
    decide

theorem next_takeAction_of_pending (h : owner.OnTrack) (hactive : owner.activeAction = actionNone)
    (hpending : owner.session.pendingAction ≠ actionNone) :
    dispatcher.next owner .takeAction =
      { owner with
        activeAction := owner.session.pendingAction
        activeGeneration := owner.session.generation } := by
  have howned : owner.workerOwned = true :=
    not_not.mp fun hidle => hpending (h.idle (Bool.eq_false_iff.mpr hidle)).1
  simp [Reducer.next, dispatcher, takeAction, howned, hactive, hpending]

theorem next_takeAction_of_idle (h : owner.OnTrack)
    (hpending : owner.session.pendingAction = actionNone) :
    dispatcher.next owner .takeAction = { owner with workerOwned := false } := by
  have hactive : owner.activeAction = actionNone :=
    not_not.mp fun hactive => pendingAction_ne_of_active h hactive hpending
  obtain ⟨session, activeAction, activeGeneration, workerOwned, stopRequested⟩ := owner
  cases workerOwned <;> simp_all [Reducer.next, dispatcher, takeAction]

/-- One round of the worker: it takes the action that is pending and completes it. -/
def round (owner : NldDirectPdoDispatchOwner) (succeeded : Bool) : NldDirectPdoDispatchOwner :=
  let owner := dispatcher.next owner .takeAction
  dispatcher.next owner
    (.completeAction owner.activeGeneration owner.activeAction succeeded)

theorem round_of_active (hactive : owner.activeAction ≠ actionNone) (succeeded : Bool) :
    owner.round succeeded = owner.finished owner.activeAction succeeded := by
  have htake : dispatcher.next owner .takeAction = owner := by
    simp [Reducer.next, dispatcher, takeAction, hactive]
  rw [round, htake]
  simp [Reducer.next, dispatcher, completeAction, hactive]

theorem round_of_pending (h : owner.OnTrack) (hactive : owner.activeAction = actionNone)
    (hpending : owner.session.pendingAction ≠ actionNone) (succeeded : Bool) :
    owner.round succeeded =
      finished
        { owner with
          activeAction := owner.session.pendingAction
          activeGeneration := owner.session.generation }
        owner.session.pendingAction succeeded := by
  rw [round, next_takeAction_of_pending h hactive hpending]
  simp [Reducer.next, dispatcher, completeAction, hpending]

theorem round_of_idle (h : owner.OnTrack) (hpending : owner.session.pendingAction = actionNone)
    (succeeded : Bool) : owner.round succeeded = { owner with workerOwned := false } := by
  have hactive : owner.activeAction = actionNone :=
    not_not.mp fun hactive => pendingAction_ne_of_active h hactive hpending
  rw [round, next_takeAction_of_idle h hpending]
  simp [Reducer.next, dispatcher, completeAction, hactive]

/-! ## The generation of an action -/

/-- An action that is carried out carries a generation. -/
def Numbered (owner : NldDirectPdoDispatchOwner) : Prop :=
  owner.activeAction ≠ actionNone → owner.activeGeneration ≠ 0

theorem isConsistent_iff (h : owner.OnTrack) : owner.isConsistent = true ↔ owner.Numbered := by
  simp only [isConsistent, decide_eq_true_eq]
  constructor
  · rintro ⟨-, hnumber, -⟩ hactive hzero
    exact hactive (hnumber.mpr hzero)
  · intro hnumbered
    refine ⟨NldDirectPdoSession.isConsistent_of_onTrack h.session,
      ⟨h.quiet, fun hzero => ?_⟩, ?_, ?_, ?_⟩
    · exact not_not.mp fun hactive => hnumbered hactive hzero
    · rintro ⟨hactive, hidle⟩
      exact hactive (h.idle (Bool.eq_false_iff.mpr hidle)).2
    · rintro ⟨hidle, hpending⟩
      exact hpending (h.idle (Bool.eq_false_iff.mpr hidle)).1
    · rintro ⟨hstop, hstarted⟩
      exact Bool.eq_false_iff.mp (h.stopped hstop) hstarted

/-- The worker takes an action while the generation is zero. -/
def TakesUnnumbered (owner : NldDirectPdoDispatchOwner) (op : NldDirectPdoDispatchOp) : Prop :=
  op = .takeAction ∧ owner.workerOwned ∧ owner.activeAction = actionNone ∧
    owner.session.pendingAction ≠ actionNone ∧ owner.session.generation = 0

theorem numbered_ownWorker (h : owner.Numbered) (session : NldDirectPdoSession) (stop : Bool)
    (action : NldDirectPdoAction) :
    (ownWorker { owner with session := session, stopRequested := stop } action).2.Numbered := by
  rw [ownWorker_snd]
  exact h

theorem numbered_takeAction_iff (h : owner.Numbered) :
    owner.takeAction.2.Numbered ↔ ¬ owner.TakesUnnumbered .takeAction := by
  unfold takeAction
  dsimp only
  by_cases hrefused : ¬ owner.workerOwned = true ∨ owner.activeAction ≠ actionNone
  · rw [if_pos hrefused]
    refine ⟨fun _ => ?_, fun _ => h⟩
    rintro ⟨-, howned, hactive, -⟩
    exact hrefused.elim (· howned) (· hactive)
  rw [if_neg hrefused]
  rw [not_or, not_not, not_not] at hrefused
  by_cases hpending : owner.session.pendingAction = actionNone
  · rw [if_pos hpending]
    exact ⟨fun _ htakes => htakes.2.2.2.1 hpending, fun _ => h⟩
  · rw [if_neg hpending]
    constructor
    · rintro hnumbered ⟨-, -, -, -, hzero⟩
      exact hnumbered hpending hzero
    · exact fun htakes _ hzero => htakes ⟨rfl, hrefused.1, hrefused.2, hpending, hzero⟩

theorem numbered_step_iff (h : owner.Numbered) (op : NldDirectPdoDispatchOp) :
    (dispatcher.next owner op).Numbered ↔ ¬ owner.TakesUnnumbered op := by
  by_cases htake : op = .takeAction
  · subst htake
    exact numbered_takeAction_iff h
  refine iff_of_true ?_ fun htakes => htake htakes.1
  cases op with
  | pnpStart =>
    show owner.onPnpStart.2.Numbered
    unfold onPnpStart
    split_ifs
    · exact h
    · exact numbered_ownWorker h _ _ _
  | pnpStop =>
    show owner.onPnpStop.2.Numbered
    unfold onPnpStop
    dsimp only
    split_ifs
    · exact h
    · exact numbered_ownWorker h _ _ _
  | setKsIntent intent =>
    show (owner.setKsIntent intent).2.Numbered
    unfold setKsIntent
    split_ifs
    · exact h
    · exact numbered_ownWorker h _ _ _
  | transportLost =>
    show owner.onTransportLost.2.Numbered
    unfold onTransportLost
    split_ifs
    · exact h
    · dsimp only
      split
      · exact h
      · exact numbered_ownWorker h _ _ _
  | retry =>
    show owner.retry.2.Numbered
    unfold retry
    split_ifs
    · exact h
    · exact numbered_ownWorker h _ _ _
  | takeAction => exact absurd rfl htake
  | completeAction generation action succeeded =>
    show (owner.completeAction generation action succeeded).2.Numbered
    unfold completeAction finished
    dsimp only
    split_ifs
    · exact h
    · exact fun hactive => absurd rfl hactive
    · exact fun hactive => absurd rfl hactive

end NldDirectPdoDispatchOwner

open NldDirectPdoDispatchOwner

/-- What `NldDirectPdoDispatchIsConsistent` checks, and with it the generation of an action. -/
def NldDirectPdoDispatchOwner.Sound (owner : NldDirectPdoDispatchOwner) : Prop :=
  owner.isConsistent ∧ owner.Numbered

/-- **The dispatcher is sound** in every state of a run exactly if no action of the run is taken
    at generation zero. -/
theorem dispatch_sound_iff (ops : List NldDirectPdoDispatchOp) :
    (∀ before, before <+: ops → (dispatcher.after {} before).Sound) ↔
      dispatcher.Along (fun owner op => ¬ owner.TakesUnnumbered op) {} ops := by
  rw [Reducer.forall_prefix_iff]
  have hinit : Numbered {} := fun hactive => absurd rfl hactive
  have hsound : Sound {} := ⟨by decide, hinit⟩
  rw [and_iff_right hsound]
  refine Reducer.along_congr (P := fun owner => owner.OnTrack ∧ owner.Numbered)
    (Q := fun _ _ => True) (fun _ op h _ hop => ⟨onTrack_step h.1 op, hop.2⟩) ?_
    ⟨onTrack_initialized, hinit⟩ (Reducer.along_of_forall (fun _ _ => trivial) _ ops)
  rintro owner op ⟨htrack, hnumbered⟩ -
  rw [Sound, isConsistent_iff (onTrack_step htrack op), and_self]
  exact numbered_step_iff hnumbered op

/-- A start and a stop, over and over. -/
def restarts : Nat → List NldDirectPdoDispatchOp
  | 0 => []
  | n + 1 => pnpStart :: pnpStop :: restarts n

theorem after_restarts (n : Nat) (generation : UInt32) (stop : Bool) :
    ∃ stop', dispatcher.after
        { session := { generation := generation }, stopRequested := stop } (restarts n) =
      { session := { generation := generation + UInt32.ofNat n }, stopRequested := stop' } := by
  induction n generalizing generation stop with
  | zero => exact ⟨stop, by simp [restarts, Reducer.after]⟩
  | succ n ih =>
    obtain ⟨stop', hrest⟩ := ih (generation + 1) true
    refine ⟨stop', ?_⟩
    have hgeneration : generation + 1 + UInt32.ofNat n = generation + UInt32.ofNat (n + 1) := by
      rw [UInt32.ofNat_add, UInt32.add_assoc, UInt32.add_comm (UInt32.ofNat n)]
      rfl
    rw [← hgeneration, ← hrest]
    rfl

/-- The generation wraps to zero at a start, and the open of that session is taken with it. -/
theorem wrapped_open_unsound :
    ¬ (dispatcher.after {}
      (restarts (2 ^ 32 - 1) ++ [pnpStart, setKsIntent ksRunning, takeAction])).Sound := by
  rw [Reducer.after_append]
  obtain ⟨stop', hrest⟩ := after_restarts (2 ^ 32 - 1) 0 false
  rw [show ({} : NldDirectPdoDispatchOwner) =
    { session := { generation := 0 }, stopRequested := false } from rfl, hrest]
  rintro ⟨hconsistent, -⟩
  cases stop' <;> exact absurd hconsistent (by decide)

end NativeLdac.DirectPdo
