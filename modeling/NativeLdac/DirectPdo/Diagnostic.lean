/-
  The diagnostic of the direct PDO: a worker that opens a signaling channel, discovers the
  endpoints and closes the channel again
  (`direct-pdo/src/nativeldac_direct_pdo_diagnostic_contract.c`).

  * `NldDirectPdoDiagnosticOwner` and its operations, `diagnostic` the machine they make;
  * `Effect` says what one operation does, `OnTrack` what every operation keeps;
  * `diagnostic_contract`: the owner stays consistent, a channel that was opened is closed, a
    request is complete only if its Discover and its Close have succeeded, and after a stop
    nothing but the close is carried out.
-/
import Mathlib.Data.List.Induction
import Mathlib.Tactic.ByContra
import Mathlib.Tactic.SplitIfs
import NativeLdac.Lib.Reducer

namespace NativeLdac.DirectPdo

/-! ## The contract -/

inductive NldDirectPdoDiagnosticState where
  | offline | idle | opening | discovering | closing | complete | faulted | stopping
deriving DecidableEq, Repr

inductive NldDirectPdoDiagnosticAction where
  | none | open_ | discover | close | cancelAndClose
deriving DecidableEq, Repr

inductive NldDirectPdoDiagnosticCommand where
  | none | queueWorker | cancelActive
deriving DecidableEq, Repr

/-- `NLD_DIRECT_PDO_DIAGNOSTIC_OWNER`, as `NldDirectPdoDiagnosticInitialize` leaves it. -/
structure NldDirectPdoDiagnosticOwner where
  state : NldDirectPdoDiagnosticState := .offline
  pendingAction : NldDirectPdoDiagnosticAction := .none
  activeAction : NldDirectPdoDiagnosticAction := .none
  generation : UInt32 := 0
  activeGeneration : UInt32 := 0
  pnpStarted : Bool := false
  workerOwned : Bool := false
  stopRequested : Bool := false
  cancelRequested : Bool := false
  discoverSucceeded : Bool := false
  lastCloseSucceeded : Bool := false
deriving DecidableEq, Repr

def nldDirectPdoDiagnosticNextGeneration (generation : UInt32) : UInt32 :=
  if generation + 1 = 0 then 1 else generation + 1

namespace NldDirectPdoDiagnosticOwner

variable (owner : NldDirectPdoDiagnosticOwner)

def ownWorker : NldDirectPdoDiagnosticCommand × NldDirectPdoDiagnosticOwner :=
  if owner.pendingAction = .none ∨ owner.workerOwned then (.none, owner)
  else (.queueWorker, { owner with workerOwned := true })

def onPnpStart : NldDirectPdoDiagnosticCommand × NldDirectPdoDiagnosticOwner :=
  if owner.pnpStarted ∨ owner.state ≠ .offline ∨ owner.workerOwned ∨
      owner.activeAction ≠ .none then (.none, owner)
  else
    (.none,
      { owner with
        state := .idle
        generation := nldDirectPdoDiagnosticNextGeneration owner.generation
        pnpStarted := true
        stopRequested := false
        cancelRequested := false
        discoverSucceeded := false
        lastCloseSucceeded := false })

def onPnpStop : NldDirectPdoDiagnosticCommand × NldDirectPdoDiagnosticOwner :=
  if owner.state = .offline then (.none, owner)
  else if owner.stopRequested then (.none, owner)
  else
    let owner :=
      { owner with
        pnpStarted := false
        stopRequested := true
        cancelRequested := false
        state := .stopping
        pendingAction := .cancelAndClose }
    if owner.activeAction ≠ .none then (.cancelActive, owner) else owner.ownWorker

def requestDiscover : NldDirectPdoDiagnosticCommand × NldDirectPdoDiagnosticOwner :=
  if ¬ owner.pnpStarted ∨ owner.stopRequested ∨ owner.cancelRequested ∨ owner.workerOwned ∨
      owner.activeAction ≠ .none ∨
      (owner.state ≠ .idle ∧ owner.state ≠ .complete ∧ owner.state ≠ .faulted) then (.none, owner)
  else
    ownWorker
      { owner with
        generation := nldDirectPdoDiagnosticNextGeneration owner.generation
        state := .opening
        pendingAction := .open_
        discoverSucceeded := false
        lastCloseSucceeded := false }

def requestCancel : NldDirectPdoDiagnosticCommand × NldDirectPdoDiagnosticOwner :=
  if ¬ owner.pnpStarted ∨ owner.stopRequested ∨ owner.cancelRequested ∨ ¬ owner.workerOwned then
    (.none, owner)
  else
    (if owner.activeAction ≠ .none then .cancelActive else .none,
      { owner with
        cancelRequested := true
        state := .closing
        pendingAction := .cancelAndClose })

/-- `NldDirectPdoDiagnosticTakeAction`: the action, and the generation it is taken at. -/
def takeAction : (NldDirectPdoDiagnosticAction × UInt32) × NldDirectPdoDiagnosticOwner :=
  if ¬ owner.workerOwned ∨ owner.activeAction ≠ .none then ((.none, 0), owner)
  else if owner.pendingAction = .none then ((.none, 0), { owner with workerOwned := false })
  else
    ((owner.pendingAction, owner.generation),
      { owner with
        pendingAction := .none
        activeAction := owner.pendingAction
        activeGeneration := owner.generation })

/-- `NldDirectPdoDiagnosticCompleteAction`, where the completion is that of the active action. -/
def finished (action : NldDirectPdoDiagnosticAction) (succeeded : Bool) :
    NldDirectPdoDiagnosticOwner :=
  let owner := { owner with activeAction := .none, activeGeneration := 0 }
  if owner.stopRequested ∧ action ≠ .cancelAndClose then
    { owner with state := .stopping, pendingAction := .cancelAndClose }
  else if owner.cancelRequested ∧ action ≠ .cancelAndClose then
    { owner with state := .closing, pendingAction := .cancelAndClose }
  else match action with
    | .open_ =>
      if succeeded then { owner with state := .discovering, pendingAction := .discover }
      else { owner with state := .faulted }
    | .discover =>
      { owner with discoverSucceeded := succeeded, state := .closing, pendingAction := .close }
    | .close =>
      { owner with
        lastCloseSucceeded := succeeded
        state := if succeeded ∧ owner.discoverSucceeded then .complete else .faulted }
    | .cancelAndClose =>
      if owner.cancelRequested then
        { owner with
          lastCloseSucceeded := succeeded
          state := if succeeded then .idle else .faulted
          cancelRequested := false
          pendingAction := .none }
      else
        { owner with
          lastCloseSucceeded := succeeded
          state := .offline
          pendingAction := .none
          pnpStarted := false
          stopRequested := false }
    | .none => owner

def completeAction (generation : UInt32) (action : NldDirectPdoDiagnosticAction)
    (succeeded : Bool) : Bool × NldDirectPdoDiagnosticOwner :=
  if action = .none ∨ action ≠ owner.activeAction ∨ generation ≠ owner.activeGeneration then
    (false, owner)
  else (true, owner.finished action succeeded)

/-- `NldDirectPdoDiagnosticIsConsistent`; the fields of an enumeration are in range by their
    types. -/
def isConsistent : Bool :=
  (owner.activeAction = .none ↔ owner.activeGeneration = 0) ∧
    ¬ (owner.activeAction ≠ .none ∧ ¬ owner.workerOwned) ∧
    ¬ (owner.pendingAction ≠ .none ∧ ¬ owner.workerOwned) ∧
    ¬ (¬ owner.pnpStarted ∧ owner.state ≠ .offline ∧ owner.state ≠ .stopping) ∧
    (owner.stopRequested ↔ owner.state = .stopping) ∧
    ¬ (owner.cancelRequested ∧ (¬ owner.pnpStarted ∨ owner.stopRequested ∨ ¬ owner.workerOwned ∨
      owner.state ≠ .closing))

end NldDirectPdoDiagnosticOwner

inductive NldDirectPdoDiagnosticOp where
  | pnpStart
  | pnpStop
  | requestDiscover
  | requestCancel
  | takeAction
  | completeAction (generation : UInt32) (action : NldDirectPdoDiagnosticAction) (succeeded : Bool)
deriving DecidableEq, Repr

inductive NldDirectPdoDiagnosticAnswer where
  | command (command : NldDirectPdoDiagnosticCommand)
  | taken (action : NldDirectPdoDiagnosticAction) (generation : UInt32)
  | completed (accepted : Bool)
deriving DecidableEq, Repr

def diagnostic :
    Reducer NldDirectPdoDiagnosticOwner NldDirectPdoDiagnosticOp NldDirectPdoDiagnosticAnswer where
  step owner
    | .pnpStart => owner.onPnpStart.map .command id
    | .pnpStop => owner.onPnpStop.map .command id
    | .requestDiscover => owner.requestDiscover.map .command id
    | .requestCancel => owner.requestCancel.map .command id
    | .takeAction => owner.takeAction.map (fun taking => .taken taking.1 taking.2) id
    | .completeAction generation action succeeded =>
      (owner.completeAction generation action succeeded).map .completed id

/-! ## What an operation does -/

namespace NldDirectPdoDiagnosticOwner

/-- The worker holds an action that it is to carry out, or is carrying out. -/
def Holds (owner : NldDirectPdoDiagnosticOwner) (action : NldDirectPdoDiagnosticAction) : Prop :=
  owner.pendingAction = action ∨ owner.activeAction = action

/-- What every operation keeps. -/
structure OnTrack (owner : NldDirectPdoDiagnosticOwner) : Prop where
  worker : owner.workerOwned = false → owner.pendingAction = .none ∧ owner.activeAction = .none
  quiet : owner.activeAction = .none → owner.activeGeneration = 0
  current : owner.activeAction ≠ .none → owner.activeGeneration = owner.generation
  numbered : owner.state ≠ .offline → owner.generation ≠ 0
  offline : owner.state = .offline → owner.pendingAction = .none ∧ owner.activeAction = .none
  stopped : owner.stopRequested ↔ owner.state = .stopping
  started : owner.pnpStarted = false ↔ owner.state = .offline ∨ owner.state = .stopping
  stopping : owner.state = .stopping → owner.Holds .cancelAndClose
  cancelling : owner.cancelRequested → owner.state = .closing ∧ owner.Holds .cancelAndClose

theorem onTrack_initialized : OnTrack {} where
  worker _ := ⟨rfl, rfl⟩
  quiet _ := rfl
  current h := absurd rfl h
  numbered h := absurd rfl h
  offline _ := ⟨rfl, rfl⟩
  stopped := by decide
  started := by decide
  stopping h := by cases h
  cancelling h := by cases h

theorem nextGeneration_ne (generation : UInt32) :
    nldDirectPdoDiagnosticNextGeneration generation ≠ 0 ∧
      nldDirectPdoDiagnosticNextGeneration generation ≠ generation := by
  unfold nldDirectPdoDiagnosticNextGeneration
  split_ifs with hwrap
  · refine ⟨by decide, fun hsame => ?_⟩
    rw [← hsame] at hwrap
    cases hwrap
  · exact ⟨hwrap, fun hsame => by simp at hsame⟩

variable {owner : NldDirectPdoDiagnosticOwner}

/-- What one operation answers, and the state it leaves. -/
inductive Effect (owner : NldDirectPdoDiagnosticOwner) :
    NldDirectPdoDiagnosticOp → NldDirectPdoDiagnosticAnswer × NldDirectPdoDiagnosticOwner → Prop
  | refused {op command} : command ≠ .queueWorker → Effect owner op (.command command, owner)
  | untaken : Effect owner .takeAction (.taken .none 0, owner)
  | unfinished {generation action succeeded} :
      Effect owner (.completeAction generation action succeeded) (.completed false, owner)
  | started : owner.state = .offline → owner.workerOwned = false →
      Effect owner .pnpStart (.command .none, { owner with
        state := .idle
        generation := nldDirectPdoDiagnosticNextGeneration owner.generation
        pnpStarted := true
        stopRequested := false
        cancelRequested := false
        discoverSucceeded := false
        lastCloseSucceeded := false })
  | stopped {command worker} : owner.state ≠ .offline → worker = true →
      Effect owner .pnpStop (.command command, { owner with
        pnpStarted := false
        stopRequested := true
        cancelRequested := false
        state := .stopping
        pendingAction := .cancelAndClose
        workerOwned := worker })
  | requested : owner.pnpStarted → owner.stopRequested = false → owner.cancelRequested = false →
      owner.workerOwned = false →
      Effect owner .requestDiscover (.command .queueWorker, { owner with
        generation := nldDirectPdoDiagnosticNextGeneration owner.generation
        state := .opening
        pendingAction := .open_
        discoverSucceeded := false
        lastCloseSucceeded := false
        workerOwned := true })
  | cancelled {command} : command ≠ .queueWorker → owner.pnpStarted → owner.stopRequested = false →
      owner.workerOwned →
      Effect owner .requestCancel (.command command, { owner with
        cancelRequested := true
        state := .closing
        pendingAction := .cancelAndClose })
  | drained : owner.pendingAction = .none → owner.activeAction = .none →
      Effect owner .takeAction (.taken .none 0, { owner with workerOwned := false })
  | took : owner.workerOwned → owner.pendingAction ≠ .none → owner.activeAction = .none →
      Effect owner .takeAction (.taken owner.pendingAction owner.generation, { owner with
        pendingAction := .none
        activeAction := owner.pendingAction
        activeGeneration := owner.generation })
  | finished {succeeded} : owner.activeAction ≠ .none →
      Effect owner (.completeAction owner.activeGeneration owner.activeAction succeeded)
        (.completed true, owner.finished owner.activeAction succeeded)

theorem diagnostic_effect (h : owner.OnTrack) (op : NldDirectPdoDiagnosticOp) :
    owner.Effect op (diagnostic.step owner op) := by
  cases op with
  | pnpStart =>
    simp only [diagnostic, onPnpStart]
    split_ifs with hrefused
    · exact .refused (by simp)
    · rw [not_or, not_or, not_or, not_not, Bool.not_eq_true] at hrefused
      exact .started hrefused.2.1 (by simpa using hrefused.2.2.1)
  | pnpStop =>
    simp only [diagnostic, onPnpStop]
    split_ifs with hoffline hstop hactive
    · exact .refused (by simp)
    · exact .refused (by simp)
    · have howned : owner.workerOwned = true :=
        Bool.not_eq_false _ |>.mp fun hidle => hactive (h.worker hidle).2
      exact .stopped hoffline howned
    · unfold ownWorker
      split
      · rename_i howned
        exact .stopped hoffline (howned.resolve_left (by simp))
      · exact .stopped hoffline rfl
  | requestDiscover =>
    simp only [diagnostic, requestDiscover]
    split_ifs with hrefused
    · exact .refused (by simp)
    · simp only [not_or, Bool.not_eq_true, Bool.not_eq_false, not_not] at hrefused
      obtain ⟨hstarted, hstop, hcancel, hworker, -⟩ := hrefused
      simp only [ownWorker, hworker]
      exact .requested hstarted hstop hcancel hworker
  | requestCancel =>
    simp only [diagnostic, requestCancel]
    split_ifs with hrefused hactive
    · exact .refused (by simp)
    · simp only [not_or, Bool.not_eq_true, Bool.not_eq_false] at hrefused
      exact .cancelled (by simp) hrefused.1 hrefused.2.1 hrefused.2.2.2
    · simp only [not_or, Bool.not_eq_true, Bool.not_eq_false] at hrefused
      exact .cancelled (by simp) hrefused.1 hrefused.2.1 hrefused.2.2.2
  | takeAction =>
    simp only [diagnostic, takeAction]
    split_ifs with hrefused hpending
    · exact .untaken
    · simp only [not_or, not_not] at hrefused
      exact .drained hpending hrefused.2
    · simp only [not_or, not_not] at hrefused
      exact .took hrefused.1 hpending hrefused.2
  | completeAction generation action succeeded =>
    simp only [diagnostic, completeAction]
    split_ifs with hrefused
    · exact .unfinished
    · simp only [not_or, not_not] at hrefused
      obtain ⟨haction, rfl, rfl⟩ := hrefused
      exact .finished haction

theorem onTrack_online (hactive : owner.activeAction = .none) (hquiet : owner.activeGeneration = 0)
    (howned : owner.workerOwned) (hnumbered : owner.generation ≠ 0)
    (hstop : owner.stopRequested = false) (hcancel : owner.cancelRequested = false)
    (hstarted : owner.pnpStarted) (honline : owner.state ≠ .offline ∧ owner.state ≠ .stopping) :
    owner.OnTrack where
  worker hidle := by rw [howned] at hidle; cases hidle
  quiet _ := hquiet
  current hbusy := absurd hactive hbusy
  numbered _ := hnumbered
  offline hoffline := absurd hoffline honline.1
  stopped := by simp [hstop, honline.2]
  started := by simp [hstarted, honline]
  stopping hstopping := absurd hstopping honline.2
  cancelling hcancelling := by rw [hcancel] at hcancelling; cases hcancelling

theorem OnTrack.owned (h : owner.OnTrack) (hactive : owner.activeAction ≠ .none) :
    owner.workerOwned :=
  Bool.not_eq_false _ |>.mp fun hidle => hactive (h.worker hidle).2

theorem OnTrack.online (h : owner.OnTrack) (hactive : owner.activeAction ≠ .none) :
    owner.state ≠ .offline :=
  fun hoffline => hactive (h.offline hoffline).2

theorem OnTrack.pnpStarted (h : owner.OnTrack) (hoffline : owner.state ≠ .offline)
    (hstop : owner.stopRequested = false) : owner.pnpStarted := by
  rw [← Bool.not_eq_false]
  intro hstarted
  rcases h.started.mp hstarted with hstate | hstate
  · exact hoffline hstate
  · rw [h.stopped.mpr hstate] at hstop
    cases hstop

theorem finished_redirected {action : NldDirectPdoDiagnosticAction}
    (haction : action ≠ .cancelAndClose) (hredirected : owner.stopRequested ∨ owner.cancelRequested)
    (succeeded : Bool) :
    ∃ state, (state = .stopping ∨ state = .closing) ∧
      owner.finished action succeeded = { owner with
        activeAction := .none
        activeGeneration := 0
        state := state
        pendingAction := .cancelAndClose } := by
  unfold finished
  dsimp only
  by_cases hstop : owner.stopRequested
  · exact ⟨.stopping, .inl rfl, by rw [if_pos ⟨hstop, haction⟩]⟩
  · refine ⟨.closing, .inr rfl, ?_⟩
    rw [if_neg fun h => hstop h.1, if_pos ⟨hredirected.resolve_left hstop, haction⟩]

section
variable (hgoes : ¬ (owner.stopRequested ∨ owner.cancelRequested)) (succeeded : Bool)
include hgoes

theorem finished_open : owner.finished .open_ succeeded =
    { owner with
      activeAction := .none
      activeGeneration := 0
      state := if succeeded then .discovering else .faulted
      pendingAction := if succeeded then .discover else owner.pendingAction } := by
  rw [not_or] at hgoes
  unfold finished
  dsimp only
  rw [if_neg fun h => hgoes.1 h.1, if_neg fun h => hgoes.2 h.1]
  cases succeeded <;> rfl

theorem finished_discover : owner.finished .discover succeeded =
    { owner with
      activeAction := .none
      activeGeneration := 0
      discoverSucceeded := succeeded
      state := .closing
      pendingAction := .close } := by
  rw [not_or] at hgoes
  unfold finished
  dsimp only
  rw [if_neg fun h => hgoes.1 h.1, if_neg fun h => hgoes.2 h.1]

theorem finished_close : owner.finished .close succeeded =
    { owner with
      activeAction := .none
      activeGeneration := 0
      lastCloseSucceeded := succeeded
      state := if succeeded ∧ owner.discoverSucceeded then .complete else .faulted } := by
  rw [not_or] at hgoes
  unfold finished
  dsimp only
  rw [if_neg fun h => hgoes.1 h.1, if_neg fun h => hgoes.2 h.1]

end

theorem onTrack_finished (h : owner.OnTrack) (hactive : owner.activeAction ≠ .none)
    (succeeded : Bool) : (owner.finished owner.activeAction succeeded).OnTrack := by
  have howned := h.owned hactive
  have honline := h.online hactive
  have hnumbered := h.numbered honline
  unfold finished
  dsimp only
  by_cases hclose : owner.activeAction = .cancelAndClose
  · simp only [hclose, ne_eq, not_true_eq_false, and_false, if_false]
    by_cases hcancel : owner.cancelRequested
    · rw [if_pos hcancel]
      have hclosing := (h.cancelling hcancel).1
      have hstop : owner.stopRequested = false := by simp [← Bool.not_eq_true, h.stopped, hclosing]
      refine onTrack_online rfl rfl howned hnumbered hstop rfl (h.pnpStarted honline hstop) ?_
      cases succeeded <;> simp
    · rw [if_neg hcancel]
      refine ⟨by simp [howned], fun _ => rfl, by simp, by simp, fun _ => ⟨rfl, rfl⟩, by simp,
        by simp, by simp, fun hcancelling => absurd hcancelling hcancel⟩
  · simp only [ne_eq, hclose, not_false_eq_true, and_true]
    by_cases hstop : owner.stopRequested
    · rw [if_pos hstop]
      have hstopping := h.stopped.mp hstop
      refine ⟨by simp [howned], fun _ => rfl, by simp, fun _ => hnumbered, by simp, by simp [hstop],
        by simp [h.started.mpr (.inr hstopping)], fun _ => .inl rfl, fun hcancelling => ?_⟩
      cases (h.cancelling hcancelling).1.symm.trans hstopping
    rw [if_neg hstop]
    rw [Bool.not_eq_true] at hstop
    have hstarted := h.pnpStarted honline hstop
    by_cases hcancel : owner.cancelRequested
    · rw [if_pos hcancel]
      exact ⟨by simp [howned], fun _ => rfl, by simp, fun _ => hnumbered, by simp, by simp [hstop],
        by simp [hstarted], by simp, fun _ => ⟨rfl, .inl rfl⟩⟩
    rw [if_neg hcancel]
    rw [Bool.not_eq_true] at hcancel
    cases haction : owner.activeAction with
    | none => exact absurd haction hactive
    | open_ =>
      cases succeeded <;>
        exact onTrack_online rfl rfl howned hnumbered hstop hcancel hstarted (by simp)
    | discover => exact onTrack_online rfl rfl howned hnumbered hstop hcancel hstarted (by simp)
    | close =>
      refine onTrack_online rfl rfl howned hnumbered hstop hcancel hstarted ?_
      dsimp only
      split <;> simp
    | cancelAndClose => exact absurd haction hclose

theorem Effect.onTrack {op : NldDirectPdoDiagnosticOp}
    {result : NldDirectPdoDiagnosticAnswer × NldDirectPdoDiagnosticOwner}
    (heffect : owner.Effect op result) (h : owner.OnTrack) : result.2.OnTrack := by
  cases heffect with
  | refused => exact h
  | untaken => exact h
  | unfinished => exact h
  | started hoffline hworker =>
    obtain ⟨hpending, hactive⟩ := h.offline hoffline
    exact ⟨fun _ => ⟨hpending, hactive⟩, h.quiet, fun hbusy => absurd hactive hbusy,
      fun _ => (nextGeneration_ne _).1, by simp, by simp, by simp, by simp, by simp⟩
  | stopped hoffline hworker =>
    exact ⟨by simp [hworker], h.quiet, h.current, fun _ => h.numbered hoffline, by simp, by simp,
      by simp, fun _ => .inl rfl, by simp⟩
  | requested hstarted hstop hcancel hworker =>
    have hactive := (h.worker hworker).2
    exact onTrack_online hactive (h.quiet hactive) rfl (nextGeneration_ne _).1 hstop hcancel hstarted
      (by simp)
  | cancelled _ hstarted hstop hworker =>
    have honline : owner.state ≠ .offline := fun hoffline => by
      rw [h.started.mpr (.inl hoffline)] at hstarted
      cases hstarted
    exact ⟨by simp [hworker], h.quiet, h.current, fun _ => h.numbered honline, by simp,
      by simp [hstop], by simp [hstarted], by simp, fun _ => ⟨rfl, .inl rfl⟩⟩
  | drained hpending hactive =>
    exact ⟨fun _ => ⟨hpending, hactive⟩, h.quiet, h.current, h.numbered, h.offline, h.stopped,
      h.started, h.stopping, h.cancelling⟩
  | took hworker hpending hactive =>
    have hmoved : ∀ {action}, owner.Holds action → action ≠ .none → owner.pendingAction = action :=
      fun hholds haction => hholds.resolve_right fun h => haction (h.symm.trans hactive)
    refine ⟨by simp [hworker], fun hnone => absurd hnone hpending, fun _ => rfl, h.numbered,
      fun hoffline => absurd (h.offline hoffline).1 hpending, h.stopped, h.started, ?_, ?_⟩
    · exact fun hstopping => .inr (hmoved (h.stopping hstopping) (by simp))
    · intro hcancel
      obtain ⟨hclosing, hholds⟩ := h.cancelling hcancel
      exact ⟨hclosing, .inr (hmoved hholds (by simp))⟩
  | finished hactive => exact onTrack_finished h hactive _

theorem onTrack_after (ops : List NldDirectPdoDiagnosticOp) : (diagnostic.after {} ops).OnTrack :=
  Reducer.after_inv (P := OnTrack) (Q := fun _ _ => True)
    (fun _ op h _ => (diagnostic_effect h op).onTrack h) onTrack_initialized
    (Reducer.along_of_forall (fun _ _ => trivial) _ ops)

theorem OnTrack.isConsistent (h : owner.OnTrack) : owner.isConsistent := by
  have hactive : owner.activeAction = .none ↔ owner.activeGeneration = 0 := by
    refine ⟨h.quiet, fun hzero => ?_⟩
    by_contra hbusy
    exact h.numbered (h.online hbusy) ((h.current hbusy).symm.trans hzero)
  unfold NldDirectPdoDiagnosticOwner.isConsistent
  rw [decide_eq_true_eq]
  refine ⟨hactive, fun ⟨hbusy, hidle⟩ => hidle (h.owned hbusy), fun ⟨hpending, hidle⟩ => ?_,
    fun ⟨hstarted, hoffline, hstopping⟩ => ?_, h.stopped, fun ⟨hcancel, hbad⟩ => ?_⟩
  · exact hpending (h.worker (by simpa using hidle)).1
  · rcases h.started.mp (by simpa using hstarted) with hstate | hstate
    · exact hoffline hstate
    · exact hstopping hstate
  · obtain ⟨hclosing, hholds⟩ := h.cancelling hcancel
    have hstop : owner.stopRequested = false := by simp [← Bool.not_eq_true, h.stopped, hclosing]
    rcases hbad with hstarted | hstopped | hidle | hstate
    · exact hstarted (h.pnpStarted (by simp [hclosing]) hstop)
    · rw [hstop] at hstopped
      cases hstopped
    · obtain ⟨hpending, hactive⟩ := h.worker (by simpa using hidle)
      rcases hholds with hholds | hholds
      · cases hpending.symm.trans hholds
      · cases hactive.symm.trans hholds
    · exact hstate hclosing

end NldDirectPdoDiagnosticOwner

/-! ## What a run has seen -/

open NldDirectPdoDiagnosticOwner

variable {owner : NldDirectPdoDiagnosticOwner} {ops : List NldDirectPdoDiagnosticOp}
  {op : NldDirectPdoDiagnosticOp}
variable {result : NldDirectPdoDiagnosticAnswer × NldDirectPdoDiagnosticOwner}
variable {action : NldDirectPdoDiagnosticAction}

def AcceptsRequest (owner : NldDirectPdoDiagnosticOwner) (op : NldDirectPdoDiagnosticOp) : Prop :=
  op = .requestDiscover ∧ diagnostic.out owner op = .command .queueWorker

/-- The step takes a Close or a CancelAndClose. -/
def TakesClose (owner : NldDirectPdoDiagnosticOwner) (op : NldDirectPdoDiagnosticOp) : Prop :=
  ∃ generation, diagnostic.out owner op = .taken .close generation ∨
    diagnostic.out owner op = .taken .cancelAndClose generation

/-- The step completes the action, which has succeeded. -/
def Succeeds (action : NldDirectPdoDiagnosticAction) (owner : NldDirectPdoDiagnosticOwner)
    (op : NldDirectPdoDiagnosticOp) : Prop :=
  ∃ generation, op = .completeAction generation action true ∧
    diagnostic.out owner op = .completed true

/-- An Open has succeeded, and no close has been taken since. -/
def LeftOpen (ops : List NldDirectPdoDiagnosticOp) : Prop :=
  diagnostic.Since (fun before op => Succeeds .open_ (diagnostic.after {} before) op)
    (fun owner op => ¬ TakesClose owner op) {} ops

def Requested (ops : List NldDirectPdoDiagnosticOp) : Prop :=
  diagnostic.Since (fun before op => AcceptsRequest (diagnostic.after {} before) op)
    (fun owner op => ¬ AcceptsRequest owner op) {} ops

/-- The Discover of the last request has succeeded. -/
def Discovered (ops : List NldDirectPdoDiagnosticOp) : Prop :=
  diagnostic.Since
    (fun before op => Requested before ∧ Succeeds .discover (diagnostic.after {} before) op)
    (fun owner op => ¬ AcceptsRequest owner op) {} ops

/-- The Discover of the last request has succeeded, and then its Close. -/
def DiscoverCompleted (ops : List NldDirectPdoDiagnosticOp) : Prop :=
  diagnostic.Since
    (fun before op => Discovered before ∧ Succeeds .close (diagnostic.after {} before) op)
    (fun owner op => ¬ AcceptsRequest owner op) {} ops

/-! ### A channel that is left open -/

structure NldDirectPdoDiagnosticOwner.OwesClose (owner : NldDirectPdoDiagnosticOwner) : Prop where
  onTrack : owner.OnTrack
  online : owner.state ≠ .offline
  active : owner.activeAction = .discover ∨ owner.activeAction = .none ∧
    (owner.pendingAction = .discover ∨ owner.pendingAction = .close ∨
      owner.pendingAction = .cancelAndClose)

theorem NldDirectPdoDiagnosticOwner.OwesClose.pending (h : owner.OwesClose)
    (hactive : owner.activeAction = .none) :
    owner.pendingAction = .discover ∨ owner.pendingAction = .close ∨
      owner.pendingAction = .cancelAndClose := by
  rcases h.active with hdiscover | ⟨-, hpending⟩
  · cases hactive.symm.trans hdiscover
  · exact hpending

theorem NldDirectPdoDiagnosticOwner.OwesClose.owned (h : owner.OwesClose) :
    owner.workerOwned = true := by
  rw [← Bool.not_eq_false]
  intro hidle
  obtain ⟨hnone, hactive⟩ := h.onTrack.worker hidle
  rcases h.pending hactive with hpending | hpending | hpending <;> cases hnone.symm.trans hpending

theorem next_completeAction {generation : UInt32} {succeeded : Bool}
    (hout : diagnostic.out owner (.completeAction generation action succeeded) = .completed true) :
    owner.activeAction = action ∧
      diagnostic.next owner (.completeAction generation action succeeded) =
        owner.finished action succeeded := by
  simp only [Reducer.out, Reducer.next, diagnostic, completeAction] at hout ⊢
  split_ifs at hout ⊢ with hrefused
  · cases hout
  · simp only [not_or, not_not] at hrefused
    exact ⟨hrefused.2.1.symm, rfl⟩

theorem Succeeds.next (hop : Succeeds action owner op) :
    diagnostic.next owner op = owner.finished action true := by
  obtain ⟨generation, rfl, hout⟩ := hop
  exact (next_completeAction hout).2

theorem owesClose_opened (h : owner.OnTrack) (hop : Succeeds .open_ owner op) :
    (diagnostic.next owner op).OwesClose := by
  have htrack := (diagnostic_effect h op).onTrack h
  change (diagnostic.next owner op).OnTrack at htrack
  rw [hop.next] at htrack ⊢
  by_cases hredirected : owner.stopRequested ∨ owner.cancelRequested
  · obtain ⟨state, hstate, hfinished⟩ := finished_redirected
      (show NldDirectPdoDiagnosticAction.open_ ≠ .cancelAndClose by simp) hredirected true
    rw [hfinished] at htrack ⊢
    refine ⟨htrack, ?_, .inr ⟨rfl, .inr (.inr rfl)⟩⟩
    rcases hstate with rfl | rfl <;> simp
  · rw [finished_open hredirected] at htrack ⊢
    exact ⟨htrack, by simp, .inr ⟨rfl, .inl rfl⟩⟩

theorem NldDirectPdoDiagnosticOwner.Effect.owesClose
    (heffect : owner.Effect op result) (h : owner.OwesClose)
    (htakes : ∀ generation, result.1 ≠ .taken .close generation ∧
      result.1 ≠ .taken .cancelAndClose generation) : result.2.OwesClose := by
  have htrack := heffect.onTrack h.onTrack
  cases heffect with
  | refused => exact h
  | untaken => exact h
  | unfinished => exact h
  | started hoffline => exact absurd hoffline h.online
  | stopped =>
    exact ⟨htrack, by simp, h.active.imp_right fun hactive => ⟨hactive.1, .inr (.inr rfl)⟩⟩
  | requested _ _ _ hworker =>
    rw [h.owned] at hworker
    cases hworker
  | cancelled =>
    exact ⟨htrack, by simp, h.active.imp_right fun hactive => ⟨hactive.1, .inr (.inr rfl)⟩⟩
  | drained hnone hactive =>
    rcases h.pending hactive with hpending | hpending | hpending <;> cases hnone.symm.trans hpending
  | took hworker hne hactive =>
    refine ⟨htrack, h.online, ?_⟩
    rcases h.pending hactive with hpending | hpending | hpending
    · exact .inl hpending
    · exact absurd (by rw [hpending]) (htakes owner.generation).1
    · exact absurd (by rw [hpending]) (htakes owner.generation).2
  | finished hactive =>
    have hdiscover : owner.activeAction = .discover := h.active.resolve_right fun h => hactive h.1
    rw [hdiscover] at htrack ⊢
    by_cases hredirected : owner.stopRequested ∨ owner.cancelRequested
    · obtain ⟨state, hstate, hfinished⟩ := finished_redirected
        (show NldDirectPdoDiagnosticAction.discover ≠ .cancelAndClose by simp) hredirected _
      rw [hfinished] at htrack ⊢
      refine ⟨htrack, ?_, .inr ⟨rfl, .inr (.inr rfl)⟩⟩
      rcases hstate with rfl | rfl <;> simp
    · rw [finished_discover hredirected] at htrack ⊢
      exact ⟨htrack, by simp, .inr ⟨rfl, .inr (.inl rfl)⟩⟩

theorem owesClose_of_leftOpen (h : LeftOpen ops) : (diagnostic.after {} ops).OwesClose :=
  Reducer.Since.inv (fun before _ hop => owesClose_opened (onTrack_after before) hop)
    (fun _ op h hop => (diagnostic_effect h.onTrack op).owesClose h fun generation =>
      ⟨fun hclose => hop ⟨generation, .inl hclose⟩, fun hclose => hop ⟨generation, .inr hclose⟩⟩) h

theorem NldDirectPdoDiagnosticOwner.OwesClose.not_opens (h : owner.OwesClose)
    (op : NldDirectPdoDiagnosticOp) (generation : UInt32) :
    diagnostic.out owner op ≠ .taken .open_ generation := by
  intro hout
  have heffect := diagnostic_effect h.onTrack op
  change (diagnostic.step owner op).1 = _ at hout
  generalize diagnostic.step owner op = result at heffect hout
  cases heffect with
  | took _ _ hactive =>
    injection hout with haction
    rcases h.pending hactive with hpending | hpending | hpending <;> cases haction.symm.trans hpending
  | refused | untaken | unfinished | started | stopped | requested | cancelled | drained
    | finished => cases hout

/-! ### A request that is complete -/

/-- How far the worker is with the last request of the run that has led to its state. -/
structure Staged (ops : List NldDirectPdoDiagnosticOp) (owner : NldDirectPdoDiagnosticOwner) :
    Prop where
  requested : owner.Holds .open_ ∨ owner.Holds .discover → Requested ops
  discovered : owner.Holds .close → owner.discoverSucceeded → Discovered ops
  complete : owner.state = .complete → DiscoverCompleted ops

theorem staged_initialized : Staged [] {} where
  requested h := by rcases h with (h | h) | (h | h) <;> cases h
  discovered h := by rcases h with h | h <;> cases h
  complete h := by cases h

section
variable {owner' : NldDirectPdoDiagnosticOwner}

theorem Staged.waits (h : Staged ops owner) (hop : ¬ AcceptsRequest (diagnostic.after {} ops) op)
    (hholds : ∀ action, action ≠ .none → action ≠ .cancelAndClose → owner'.Holds action →
      owner.Holds action)
    (hdiscover : owner'.discoverSucceeded → owner.discoverSucceeded)
    (hstate : owner'.state = .complete → owner.state = .complete) :
    Staged (ops ++ [op]) owner' where
  requested hrequested := (h.requested (hrequested.imp (hholds _ (by simp) (by simp))
    (hholds _ (by simp) (by simp)))).snoc hop
  discovered hclose hsucceeded :=
    (h.discovered (hholds _ (by simp) (by simp) hclose) (hdiscover hsucceeded)).snoc hop
  complete hcomplete := (h.complete (hstate hcomplete)).snoc hop

theorem Staged.finished (h : Staged ops owner) (howner : diagnostic.after {} ops = owner)
    {generation : UInt32} {succeeded : Bool} (hactive : owner.activeAction ≠ .none)
    (hop : op = .completeAction generation owner.activeAction succeeded)
    (hout : diagnostic.out owner op = .completed true) :
    Staged (ops ++ [op]) (owner.finished owner.activeAction succeeded) := by
  have hnone : ¬ AcceptsRequest (diagnostic.after {} ops) op := by
    rintro ⟨rfl, -⟩
    cases hop
  have hsucceeds : ∀ action, owner.activeAction = action → succeeded →
      Succeeds action (diagnostic.after {} ops) op := by
    rintro action rfl rfl
    exact ⟨generation, hop, howner ▸ hout⟩
  by_cases hclose : owner.activeAction = .cancelAndClose
  · rw [hclose]
    refine h.waits hnone ?_ ?_ ?_ <;> unfold NldDirectPdoDiagnosticOwner.finished <;>
      simp only [ne_eq, not_true_eq_false, and_false, if_false]
    · intro action haction _ hholds
      split at hholds <;> rcases hholds with hholds | hholds <;> exact absurd hholds.symm haction
    · split <;> exact id
    · split
      · dsimp only
        split <;> simp
      · simp
  by_cases hredirected : owner.stopRequested ∨ owner.cancelRequested
  · obtain ⟨state, hstate, hfinished⟩ := finished_redirected hclose hredirected succeeded
    rw [hfinished]
    refine h.waits hnone ?_ id ?_
    · rintro action haction hne (hholds | hholds)
      · exact absurd hholds.symm hne
      · exact absurd hholds.symm haction
    · rintro rfl
      rcases hstate with hstate | hstate <;> cases hstate
  have hholds : ∀ action, action ≠ .none → owner.pendingAction = action ∨ .none = action →
      owner.Holds action := fun action haction hholds =>
    .inl (hholds.resolve_right fun h => haction h.symm)
  cases haction : owner.activeAction with
  | none => exact absurd haction hactive
  | cancelAndClose => exact absurd haction hclose
  | open_ =>
    rw [finished_open hredirected]
    cases succeeded with
    | true =>
      refine ⟨fun _ => (h.requested (.inl (.inr haction))).snoc hnone, ?_, by rintro ⟨⟩⟩
      rintro (hpending | hpending) <;> cases hpending
    | false => exact h.waits hnone (fun action haction _ => hholds action haction) id (by rintro ⟨⟩)
  | discover =>
    rw [finished_discover hredirected]
    refine ⟨?_, fun _ hsucceeded => ?_, by rintro ⟨⟩⟩
    · rintro ((hpending | hpending) | (hpending | hpending)) <;> cases hpending
    · exact Reducer.since_now ⟨h.requested (.inr (.inr haction)), hsucceeds _ haction hsucceeded⟩
  | close =>
    rw [finished_close hredirected]
    refine ⟨fun hrequested => ?_, fun hclosing hdiscovered => ?_, fun hcomplete => ?_⟩
    · exact (h.requested (hrequested.imp (hholds _ (by simp)) (hholds _ (by simp)))).snoc hnone
    · exact (h.discovered (hholds _ (by simp) hclosing) hdiscovered).snoc hnone
    · dsimp only at hcomplete
      split at hcomplete
      · rename_i hsucceeded
        exact Reducer.since_now
          ⟨h.discovered (.inr haction) hsucceeded.2, hsucceeds _ haction hsucceeded.1⟩
      · cases hcomplete

end

theorem NldDirectPdoDiagnosticOwner.Effect.staged (heffect : owner.Effect op result)
    (h : Staged ops owner) (howner : diagnostic.after {} ops = owner)
    (hout : diagnostic.out owner op = result.1) :
    Staged (ops ++ [op]) result.2 := by
  subst howner
  have hnone : result.1 ≠ .command .queueWorker → ¬ AcceptsRequest (diagnostic.after {} ops) op :=
    fun hne hop => hne (hout.symm.trans hop.2)
  cases heffect with
  | refused hcommand => exact h.waits (hnone (by simpa using hcommand)) (fun _ _ _ => id) id id
  | untaken => exact h.waits (hnone (by simp)) (fun _ _ _ => id) id id
  | unfinished => exact h.waits (hnone (by simp)) (fun _ _ _ => id) id id
  | started => exact h.waits (hnone (by simp)) (fun _ _ _ => id) (by simp) (by simp)
  | stopped =>
    refine h.waits (fun hop => by cases hop.1) (fun action _ hclose hholds => ?_) id (by simp)
    exact .inr (hholds.resolve_left fun hpending => hclose hpending.symm)
  | requested hstarted hstop hcancel hworker =>
    refine ⟨fun _ => Reducer.since_now ⟨rfl, hout⟩, fun _ hdiscovered => ?_, fun hcomplete => ?_⟩
    · cases hdiscovered
    · cases hcomplete
  | cancelled hcommand =>
    refine h.waits (hnone (by simpa using hcommand)) (fun action _ hclose hholds => ?_) id (by simp)
    exact .inr (hholds.resolve_left fun hpending => hclose hpending.symm)
  | drained => exact h.waits (hnone (by simp)) (fun _ _ _ => id) id id
  | took =>
    refine h.waits (hnone (by simp)) (fun action haction _ hholds => ?_) id id
    exact .inl (hholds.resolve_left fun hpending => haction hpending.symm)
  | finished hactive => exact h.finished rfl hactive rfl hout

theorem staged_after (ops : List NldDirectPdoDiagnosticOp) : Staged ops (diagnostic.after {} ops) := by
  induction ops using List.reverseRecOn with
  | nil => exact staged_initialized
  | append_singleton ops op ih =>
    rw [Reducer.after_snoc]
    exact (diagnostic_effect (onTrack_after ops) op).staged ih rfl rfl

/-! ### After a stop -/

def StartsPnp (owner : NldDirectPdoDiagnosticOwner) (op : NldDirectPdoDiagnosticOp) : Prop :=
  op = .pnpStart ∧ diagnostic.next owner op ≠ owner

/-- PnP has stopped, and has not started since. -/
def Stopped (ops : List NldDirectPdoDiagnosticOp) : Prop :=
  diagnostic.Since (fun before op => op = .pnpStop ∧ (diagnostic.after {} before).state ≠ .offline)
    (fun owner op => ¬ StartsPnp owner op) {} ops

/-- PnP is not started: the owner is stopping, or has stopped. -/
structure NldDirectPdoDiagnosticOwner.IsDown (owner : NldDirectPdoDiagnosticOwner) : Prop where
  onTrack : owner.OnTrack
  down : owner.pnpStarted = false

theorem finished_pnpStarted (action : NldDirectPdoDiagnosticAction) (succeeded : Bool)
    (h : owner.pnpStarted = false) : (owner.finished action succeeded).pnpStarted = false := by
  unfold NldDirectPdoDiagnosticOwner.finished
  dsimp only
  split
  · exact h
  split
  · exact h
  cases action <;> dsimp only <;> first | exact h | (split <;> first | exact h | rfl)

theorem NldDirectPdoDiagnosticOwner.Effect.down (heffect : owner.Effect op result)
    (hdown : owner.pnpStarted = false) (hstarts : op = .pnpStart → result.2 = owner) :
    result.2.pnpStarted = false := by
  cases heffect with
  | refused => exact hdown
  | untaken => exact hdown
  | unfinished => exact hdown
  | started hoffline => rw [hstarts rfl]; exact hdown
  | stopped => rfl
  | requested => exact hdown
  | cancelled => exact hdown
  | drained => exact hdown
  | took => exact hdown
  | finished => exact finished_pnpStarted _ _ hdown

theorem onPnpStop_pnpStarted (h : owner.OnTrack) (hoffline : owner.state ≠ .offline) :
    (diagnostic.next owner .pnpStop).pnpStarted = false := by
  simp only [Reducer.next, diagnostic, onPnpStop, if_neg hoffline]
  split_ifs with hstop
  · exact h.started.mpr (.inr (h.stopped.mp hstop))
  · rfl
  · unfold ownWorker
    split <;> rfl

theorem isDown_of_stopped (h : Stopped ops) : (diagnostic.after {} ops).IsDown := by
  refine Reducer.Since.inv ?_ ?_ h
  · rintro before _ ⟨rfl, hoffline⟩
    exact ⟨(diagnostic_effect (onTrack_after before) _).onTrack (onTrack_after before),
      onPnpStop_pnpStarted (onTrack_after before) hoffline⟩
  · intro owner op h hop
    have heffect := diagnostic_effect h.onTrack op
    refine ⟨heffect.onTrack h.onTrack, heffect.down h.down fun hstart => ?_⟩
    by_contra hne
    exact hop ⟨hstart, hne⟩

theorem NldDirectPdoDiagnosticOwner.IsDown.pending (h : owner.IsDown)
    (hactive : owner.activeAction = .none) :
    owner.pendingAction = .none ∨ owner.pendingAction = .cancelAndClose := by
  rcases h.onTrack.started.mp h.down with hoffline | hstopping
  · exact .inl (h.onTrack.offline hoffline).1
  · rcases h.onTrack.stopping hstopping with hpending | hclose
    · exact .inr hpending
    · cases hactive.symm.trans hclose

theorem NldDirectPdoDiagnosticOwner.IsDown.takes (h : owner.IsDown) {generation : UInt32}
    (hout : diagnostic.out owner op = .taken action generation) :
    action = .none ∨ action = .cancelAndClose := by
  have heffect := diagnostic_effect h.onTrack op
  change (diagnostic.step owner op).1 = _ at hout
  generalize diagnostic.step owner op = result at heffect hout
  cases heffect with
  | untaken => injection hout with haction; exact .inl haction.symm
  | drained => injection hout with haction; exact .inl haction.symm
  | took _ _ hactive =>
    injection hout with haction
    exact haction ▸ h.pending hactive
  | refused | unfinished | started | stopped | requested | cancelled | finished => cases hout

theorem NldDirectPdoDiagnosticOwner.IsDown.finished_state (h : owner.IsDown) (succeeded : Bool) :
    (owner.finished .cancelAndClose succeeded).state = .offline := by
  have hcancel : ¬ owner.cancelRequested := by
    intro hcancel
    have hclosing := (h.onTrack.cancelling hcancel).1
    rcases h.onTrack.started.mp h.down with hstate | hstate <;> cases hclosing.symm.trans hstate
  simp [NldDirectPdoDiagnosticOwner.finished, hcancel]

/-! ### The contract -/

/-- What the diagnostic promises of every run. -/
structure DiagnosticContract (ops : List NldDirectPdoDiagnosticOp) : Prop where
  consistent : (diagnostic.after {} ops).isConsistent
  closed : LeftOpen ops → (diagnostic.after {} ops).state ≠ .offline ∧
    ∀ op generation, diagnostic.out (diagnostic.after {} ops) op ≠ .taken .open_ generation
  complete : (diagnostic.after {} ops).state = .complete → DiscoverCompleted ops
  stopped : Stopped ops →
    (∀ op action generation, diagnostic.out (diagnostic.after {} ops) op = .taken action generation →
      action = .none ∨ action = .cancelAndClose) ∧
    ∀ generation succeeded,
      diagnostic.out (diagnostic.after {} ops)
          (.completeAction generation .cancelAndClose succeeded) = .completed true →
        (diagnostic.next (diagnostic.after {} ops)
          (.completeAction generation .cancelAndClose succeeded)).state = .offline

theorem diagnostic_contract (ops : List NldDirectPdoDiagnosticOp) : DiagnosticContract ops where
  consistent := (onTrack_after ops).isConsistent
  closed hopen := by
    have howes := owesClose_of_leftOpen hopen
    exact ⟨howes.online, howes.not_opens⟩
  complete := (staged_after ops).complete
  stopped hstopped := by
    have hdown := isDown_of_stopped hstopped
    refine ⟨fun op action generation hout => hdown.takes hout, fun generation succeeded hout => ?_⟩
    rw [(next_completeAction hout).2]
    exact hdown.finished_state succeeded

example : (diagnostic.after {} [.pnpStart, .requestDiscover, .takeAction,
    .completeAction 2 .open_ true, .takeAction, .completeAction 2 .discover true, .takeAction,
    .completeAction 2 .close true]).state = .complete := by
  decide

end NativeLdac.DirectPdo
