/-
  The orderly stop of the direct PDO: from a stop to the next start that is accepted, the
  worker is asked for nothing but the close that is owed, which is never lost and is carried
  out once.  In every run there is one worker at most, and an action that is pending has it.
-/
import Mathlib.Algebra.Order.Group.Nat
import NativeLdac.DirectPdo.Dispatch

namespace NativeLdac.DirectPdo

open NldDirectPdoTransportState NldDirectPdoAction NldDirectPdoDispatchCommand
  NldDirectPdoDispatchOp NldDirectPdoDispatchAnswer

namespace NldDirectPdoDispatchOwner

/-! ## What a stop asks for -/

def AcceptsStart (owner : NldDirectPdoDispatchOwner) (op : NldDirectPdoDispatchOp) : Prop :=
  op = pnpStart ∧ owner.workerOwned = false ∧ owner.activeAction = actionNone

def queues (owner : NldDirectPdoDispatchOwner) (op : NldDirectPdoDispatchOp) : Bool :=
  dispatcher.out owner op = command queueWorker

/-- The worker finds nothing to do, and ends. -/
def drains (owner : NldDirectPdoDispatchOwner) (op : NldDirectPdoDispatchOp) : Bool :=
  op = .takeAction ∧ owner.workerOwned ∧ ¬ (dispatcher.next owner op).workerOwned

def closes (owner : NldDirectPdoDispatchOwner) (op : NldDirectPdoDispatchOp) : Bool :=
  dispatcher.out owner op = completed true ∧ owner.activeAction = actionCancelAndClose

/-- One worker at most is queued, and an action that is pending has it: the worker takes the
    action unless it carries out another one, which completes first. -/
def WorkerKept (ops : List NldDirectPdoDispatchOp) : Prop :=
  let owner := dispatcher.after {} ops
  dispatcher.count queues {} ops = dispatcher.count drains {} ops + owner.workerOwned.toNat ∧
    (owner.session.pendingAction ≠ actionNone →
      owner.workerOwned ∧
        (owner.activeAction = actionNone → dispatcher.out owner .takeAction =
          taken owner.session.pendingAction owner.session.generation))

/-- What holds of an owner that was stopped and not started since. -/
structure WindsDown (owner : NldDirectPdoDispatchOwner) : Prop where
  /-- The one action that is taken is the close. -/
  taken : ∀ action generation, dispatcher.out owner .takeAction = taken action generation →
    action = actionNone ∨ action = actionCancelAndClose
  /-- An action that completes, well or not, leaves the close that is owed pending. -/
  owed : ∀ op, dispatcher.out owner op = completed true →
    (owner.activeAction ≠ actionCancelAndClose →
      (dispatcher.next owner op).session.pendingAction = actionCancelAndClose) ∧
    ((dispatcher.next owner op).session.transportState ≠ transportOffline →
      (dispatcher.next owner op).session.pendingAction = actionCancelAndClose)
  /-- A close that completes, well or not, ends the session. -/
  closed : ∀ op, owner.closes op →
    (dispatcher.next owner op).session.transportState = transportOffline
  /-- A session that has ended has nothing left to do, and its worker ends. -/
  drained : owner.session.transportState = transportOffline →
    owner.session.pendingAction = actionNone ∧ owner.activeAction = actionNone ∧
      (dispatcher.next owner .takeAction).workerOwned = false
  /-- Two rounds of the worker end the session, whatever comes of them. -/
  ends : ∀ first second,
    ((owner.round first).round second).session.transportState = transportOffline

/-- **The orderly stop**, at every point of a run. -/
def OrderlyStop (ops : List NldDirectPdoDispatchOp) : Prop :=
  WorkerKept ops ∧
    ∀ before between, ops = before ++ pnpStop :: between →
      let stopped := dispatcher.after {} (before ++ [pnpStop])
      dispatcher.Along (fun owner op => ¬ owner.AcceptsStart op) stopped between →
        WindsDown (dispatcher.after stopped between) ∧
          dispatcher.count closes stopped between ≤ 1

/-! ## The worker -/

section
variable {owner : NldDirectPdoDispatchOwner}

/-- A command that queues the worker makes it owned, and no other command does. -/
def Hires (owner : NldDirectPdoDispatchOwner)
    (result : NldDirectPdoDispatchCommand × NldDirectPdoDispatchOwner) : Prop :=
  (decide (result.1 = queueWorker)).toNat + owner.workerOwned.toNat =
    result.2.workerOwned.toNat

theorem hires_ownWorker (action : NldDirectPdoAction) : owner.Hires (owner.ownWorker action) := by
  unfold Hires ownWorker
  split_ifs with hrefused
  · simp
  · rw [not_or, Bool.not_eq_true] at hrefused
    simp [hrefused.2]

theorem hires_none (owner : NldDirectPdoDispatchOwner) : owner.Hires (dispatchNone, owner) := by
  simp [Hires]

theorem hires_onPnpStart : owner.Hires owner.onPnpStart := by
  unfold onPnpStart
  split_ifs
  · exact hires_none owner
  · exact @hires_ownWorker { owner with session := _, stopRequested := _ } _

theorem hires_onPnpStop : owner.Hires owner.onPnpStop := by
  unfold onPnpStop
  dsimp only
  split_ifs
  · simp [Hires]
  · exact @hires_ownWorker { owner with session := _, stopRequested := _ } _

theorem hires_setKsIntent (intent : NldDirectPdoKsIntent) :
    owner.Hires (owner.setKsIntent intent) := by
  unfold setKsIntent
  split_ifs
  · exact hires_none owner
  · exact @hires_ownWorker { owner with session := _ } _

theorem hires_onTransportLost : owner.Hires owner.onTransportLost := by
  unfold onTransportLost
  split_ifs
  · exact hires_none owner
  · dsimp only
    split
    · split_ifs <;> simp [Hires]
    · exact @hires_ownWorker { owner with session := _ } _

theorem hires_retry : owner.Hires owner.retry := by
  unfold retry
  split_ifs
  · exact hires_none owner
  · exact @hires_ownWorker { owner with session := _ } _

theorem worker_balance_of_hires {op : NldDirectPdoDispatchOp}
    {result : NldDirectPdoDispatchCommand × NldDirectPdoDispatchOwner}
    (hstep : dispatcher.step owner op = result.map command id) (hop : op ≠ .takeAction)
    (h : owner.Hires result) :
    (owner.queues op).toNat + owner.workerOwned.toNat =
      (owner.drains op).toNat + (dispatcher.next owner op).workerOwned.toNat := by
  have hdrains : owner.drains op = false := by simp [drains, hop]
  have hqueues : owner.queues op = decide (result.1 = queueWorker) := by
    simp [queues, Reducer.out, hstep]
  rw [hdrains, hqueues, Reducer.next, hstep, Bool.toNat_false, zero_add]
  exact h

theorem worker_balance (owner : NldDirectPdoDispatchOwner) (op : NldDirectPdoDispatchOp) :
    (owner.queues op).toNat + owner.workerOwned.toNat =
      (owner.drains op).toNat + (dispatcher.next owner op).workerOwned.toNat := by
  cases op with
  | pnpStart => exact worker_balance_of_hires rfl nofun hires_onPnpStart
  | pnpStop => exact worker_balance_of_hires rfl nofun hires_onPnpStop
  | setKsIntent intent => exact worker_balance_of_hires rfl nofun (hires_setKsIntent intent)
  | transportLost => exact worker_balance_of_hires rfl nofun hires_onTransportLost
  | retry => exact worker_balance_of_hires rfl nofun hires_retry
  | takeAction =>
    simp only [queues, drains, Reducer.out, Reducer.next, dispatcher, Prod.map, id, reduceCtorEq,
      decide_false, Bool.toNat_false, zero_add, true_and]
    unfold takeAction
    dsimp only
    split_ifs with hrefused hnone
    · cases owner.workerOwned <;> simp
    · have howned := (not_or.mp hrefused).1
      rw [not_not] at howned
      simp [howned]
    · cases owner.workerOwned <;> simp
  | completeAction generation action succeeded =>
    simp only [queues, drains, Reducer.out, Reducer.next, dispatcher, Prod.map, id, reduceCtorEq,
      false_and, decide_false, Bool.toNat_false, zero_add]
    unfold completeAction finished
    dsimp only
    split_ifs <;> rfl

theorem out_takeAction (howned : owner.workerOwned) (hactive : owner.activeAction = actionNone)
    (hpending : owner.session.pendingAction ≠ actionNone) :
    dispatcher.out owner .takeAction =
      taken owner.session.pendingAction owner.session.generation := by
  simp [Reducer.out, dispatcher, takeAction, howned, hactive, hpending]

theorem workerKept (ops : List NldDirectPdoDispatchOp) : WorkerKept ops := by
  have htrack := onTrack_after onTrack_initialized ops
  have hbalance := Reducer.count_balance (M := dispatcher) (P := fun _ => True)
    (Q := fun _ _ => True) (f := fun owner => owner.workerOwned.toNat) (fun _ _ _ _ => trivial)
    (fun owner op _ _ => worker_balance owner op) trivial
    (Reducer.along_of_forall (fun _ _ => trivial) {} ops)
  refine ⟨hbalance, fun hpending => ?_⟩
  have howned : (dispatcher.after {} ops).workerOwned = true :=
    not_not.mp fun hidle => hpending (htrack.idle (Bool.eq_false_iff.mpr hidle)).1
  exact ⟨howned, fun hactive => out_takeAction howned hactive hpending⟩

/-! ## After a stop -/

theorem onPnpStop_stopRequested (owner : NldDirectPdoDispatchOwner) :
    (dispatcher.next owner pnpStop).stopRequested = true := by
  show owner.onPnpStop.2.stopRequested = true
  unfold onPnpStop
  dsimp only
  split_ifs
  · rfl
  · rw [ownWorker_snd]

theorem pending_of_stopped (h : owner.OnTrack) (hstop : owner.stopRequested) :
    owner.session.transportState = transportOffline ∧ owner.session.pendingAction = actionNone ∨
      owner.session.transportState ≠ transportOffline ∧
        owner.session.pendingAction = actionCancelAndClose := by
  by_cases hoffline : owner.session.transportState = transportOffline
  · exact .inl ⟨hoffline, (h.session.offline hoffline).2⟩
  · exact .inr ⟨hoffline, (h.session.stopped (h.stopped hstop)).2 hoffline⟩

theorem pending_of_active (h : owner.OnTrack) (hstop : owner.stopRequested)
    (hactive : owner.activeAction ≠ actionNone) :
    owner.session.transportState ≠ transportOffline ∧
      owner.session.pendingAction = actionCancelAndClose := by
  rcases pending_of_stopped h hstop with ⟨-, hnone⟩ | howed
  · rcases h.active hactive with hpending | hpending
    · exact absurd (hpending.symm.trans hnone) hactive
    · cases hnone.symm.trans hpending
  · exact howed

theorem completeAction_offline {session : NldDirectPdoSession} (h : session.OnTrack)
    (hstopped : session.pnpStarted = false) (hclose : session.pendingAction = actionCancelAndClose)
    (succeeded : Bool) :
    (session.completeAction actionCancelAndClose succeeded).2.transportState = transportOffline := by
  have hkept := (h.stopped hstopped).1
  unfold NldDirectPdoSession.completeAction
  rw [if_neg (by simp [hclose])]
  dsimp only
  rw [if_neg (by simp [hkept])]
  cases succeeded with
  | false => simp [hstopped]
  | true => simp [NldDirectPdoSession.completed, hstopped]

theorem finished_other (h : owner.OnTrack) (hstop : owner.stopRequested)
    (hactive : owner.activeAction ≠ actionNone) (hother : owner.activeAction ≠ actionCancelAndClose)
    (succeeded : Bool) :
    owner.finished owner.activeAction succeeded =
      { owner with activeAction := actionNone, activeGeneration := 0 } :=
  if_pos ⟨.inl hstop, (pending_of_active h hstop hactive).2, hother⟩

theorem finished_close (h : owner.OnTrack) (hstop : owner.stopRequested)
    (hclose : owner.activeAction = actionCancelAndClose) (succeeded : Bool) :
    (owner.finished owner.activeAction succeeded).session.transportState = transportOffline := by
  have howed := pending_of_active h hstop (by rw [hclose]; nofun)
  unfold finished
  rw [hclose]
  dsimp only
  rw [if_neg fun hother => hother.2.2 rfl]
  exact completeAction_offline h.session (h.stopped hstop) howed.2 succeeded

theorem finished_stopRequested (action : NldDirectPdoAction) (succeeded : Bool) :
    (owner.finished action succeeded).stopRequested = owner.stopRequested := by
  unfold finished
  dsimp only
  split_ifs <;> rfl

def ended (owner : NldDirectPdoDispatchOwner) : Bool :=
  owner.session.transportState = transportOffline

theorem stopped_step (h : owner.OnTrack) (hstop : owner.stopRequested)
    (op : NldDirectPdoDispatchOp) (hop : ¬ owner.AcceptsStart op) :
    (dispatcher.next owner op).stopRequested = true ∧
      (owner.closes op).toNat + owner.ended.toNat = (dispatcher.next owner op).ended.toNat := by
  cases op with
  | pnpStart =>
    have hrefused : owner.onPnpStart = (dispatchNone, owner) := by
      refine if_pos ?_
      by_cases howned : owner.workerOwned = true
      · exact .inl howned
      · exact .inr fun hactive => hop ⟨rfl, Bool.eq_false_iff.mpr howned, hactive⟩
    simp [closes, Reducer.out, Reducer.next, dispatcher, hrefused, hstop]
  | pnpStop =>
    refine ⟨onPnpStop_stopRequested owner, ?_⟩
    have hended : (dispatcher.next owner pnpStop).ended = owner.ended := by
      show decide (owner.onPnpStop.2.session.transportState = _) = decide _
      have hsession : owner.onPnpStop.2.session = owner.session.onPnpStop.2 := by
        unfold onPnpStop
        dsimp only
        split_ifs
        · rfl
        · rw [ownWorker_snd]
      rw [hsession]
      unfold NldDirectPdoSession.onPnpStop
      dsimp only
      rcases pending_of_stopped h hstop with ⟨hoffline, -⟩ | ⟨hoffline, howed⟩
      · rw [if_pos hoffline]
      · rw [if_neg hoffline, if_neg (by simp [howed])]
    rw [hended]
    simp [closes, Reducer.out, dispatcher]
  | setKsIntent intent =>
    simp [closes, Reducer.out, Reducer.next, dispatcher, setKsIntent, hstop]
  | transportLost => simp [closes, Reducer.out, Reducer.next, dispatcher, onTransportLost, hstop]
  | retry => simp [closes, Reducer.out, Reducer.next, dispatcher, retry, hstop]
  | takeAction =>
    obtain ⟨hsession, hkept, -⟩ := takeAction_cases owner
    have hended : (dispatcher.next owner .takeAction).ended = owner.ended := by
      show decide (owner.takeAction.2.session.transportState = _) = decide _
      rw [hsession]
    refine ⟨hkept.trans hstop, ?_⟩
    rw [hended]
    simp [closes, Reducer.out, dispatcher]
  | completeAction generation action succeeded =>
    rcases completeAction_cases owner generation action succeeded with
      hrefused | ⟨hnone, rfl, haccepted⟩
    · simp [closes, Reducer.out, Reducer.next, dispatcher, hrefused, hstop]
    · have hnext : dispatcher.next owner (.completeAction generation owner.activeAction succeeded) =
          owner.finished owner.activeAction succeeded := by
        simp [Reducer.next, dispatcher, haccepted]
      have hcloses : owner.closes (.completeAction generation owner.activeAction succeeded) =
          decide (owner.activeAction = actionCancelAndClose) := by
        simp [closes, Reducer.out, dispatcher, haccepted]
      rw [hnext, hcloses, finished_stopRequested]
      refine ⟨hstop, ?_⟩
      by_cases hclose : owner.activeAction = actionCancelAndClose
      · have hopen := (pending_of_active h hstop hnone).1
        rw [ended, ended, finished_close h hstop hclose succeeded]
        simp [hclose, hopen]
      · simp [ended, finished_other h hstop hnone hclose, hclose]

theorem round_of_stopped (h : owner.OnTrack) (hstop : owner.stopRequested) (succeeded : Bool) :
    (owner.round succeeded).session.transportState = transportOffline ∨
      owner.activeAction ≠ actionNone ∧ (owner.round succeeded).activeAction = actionNone := by
  by_cases hactive : owner.activeAction = actionNone
  · left
    rcases pending_of_stopped h hstop with ⟨hoffline, hnone⟩ | ⟨-, howed⟩
    · rw [round_of_idle h hnone]
      exact hoffline
    · have hpending : owner.session.pendingAction ≠ actionNone := by rw [howed]; nofun
      have htaken := onTrack_step h .takeAction
      rw [next_takeAction_of_pending h hactive hpending] at htaken
      rw [round_of_pending h hactive hpending]
      exact finished_close htaken hstop howed succeeded
  · rw [round_of_active hactive]
    by_cases hclose : owner.activeAction = actionCancelAndClose
    · exact .inl (finished_close h hstop hclose succeeded)
    · rw [finished_other h hstop hactive hclose]
      exact .inr ⟨hactive, rfl⟩

theorem round_stopped (h : owner.OnTrack) (hstop : owner.stopRequested) (succeeded : Bool) :
    (owner.round succeeded).OnTrack ∧ (owner.round succeeded).stopRequested = true ∧
      (owner.ended = true → (owner.round succeeded).ended = true) := by
  have htaken := onTrack_step h .takeAction
  have htake := stopped_step h hstop .takeAction fun haccepts => nomatch haccepts.1
  have hcomplete := stopped_step htaken htake.1
    (.completeAction (dispatcher.next owner .takeAction).activeGeneration
      (dispatcher.next owner .takeAction).activeAction succeeded)
    fun haccepts => nomatch haccepts.1
  refine ⟨onTrack_step htaken _, hcomplete.1, fun hended => ?_⟩
  have hlate : (owner.round succeeded).ended.toNat ≥ owner.ended.toNat := by
    show (dispatcher.next (dispatcher.next owner .takeAction) _).ended.toNat ≥ _
    omega
  cases hround : (owner.round succeeded).ended with
  | true => rfl
  | false => simp [hround, hended] at hlate

theorem completes_of_completed {op : NldDirectPdoDispatchOp} {accepted : Bool}
    (h : dispatcher.out owner op = completed accepted) :
    ∃ generation action succeeded, op = .completeAction generation action succeeded := by
  cases op with
  | completeAction generation action succeeded => exact ⟨_, _, _, rfl⟩
  | pnpStart | pnpStop | setKsIntent _ | transportLost | retry | takeAction =>
    simp [Reducer.out, dispatcher] at h

theorem windsDown_of_stopped (h : owner.OnTrack) (hstop : owner.stopRequested) :
    owner.WindsDown where
  taken action generation htaken := by
    obtain ⟨-, -, haction⟩ := takeAction_cases owner
    have heq : owner.takeAction.1.1 = action := by
      simp only [Reducer.out, dispatcher, Prod.map, taken.injEq] at htaken
      exact htaken.1
    rw [heq] at haction
    rcases haction with hnone | hpending
    · exact .inl hnone
    · rw [hpending]
      exact (pending_of_stopped h hstop).imp And.right And.right
  owed op haccepted := by
    have hop : ¬ owner.AcceptsStart op := by
      rintro ⟨rfl, -⟩
      simp [Reducer.out, dispatcher] at haccepted
    have hstopped := (onTrack_step h op).stopped (stopped_step h hstop op hop).1
    refine ⟨fun hother => ?_, ((onTrack_step h op).session.stopped hstopped).2⟩
    obtain ⟨generation, action, succeeded, rfl⟩ := completes_of_completed haccepted
    rcases completeAction_cases owner generation action succeeded with
      hrefused | ⟨hnone, rfl, haccept⟩
    · simp [Reducer.out, dispatcher, hrefused] at haccepted
    · show (owner.completeAction generation owner.activeAction succeeded).2.session.pendingAction = _
      rw [haccept]
      dsimp only
      rw [finished_other h hstop hnone hother]
      exact (pending_of_active h hstop hnone).2
  closed op hcloses := by
    have hstep := stopped_step h hstop op ?_
    · rw [hcloses] at hstep
      have hended : (dispatcher.next owner op).ended = true := by
        cases hended : (dispatcher.next owner op).ended with
        | true => rfl
        | false => simp [hended] at hstep
      exact of_decide_eq_true hended
    · rintro ⟨rfl, -⟩
      simp [closes, Reducer.out, dispatcher] at hcloses
  drained hoffline := by
    have hnone := (h.session.offline hoffline).2
    have hactive : owner.activeAction = actionNone := by
      by_contra hactive
      exact (pending_of_active h hstop hactive).1 hoffline
    refine ⟨hnone, hactive, ?_⟩
    rw [next_takeAction_of_idle h hnone]
  ends first second := by
    obtain ⟨htrack, hstopped, -⟩ := round_stopped h hstop first
    rcases round_of_stopped h hstop first with hoffline | ⟨-, hidle⟩
    · exact of_decide_eq_true
        ((round_stopped htrack hstopped second).2.2 (decide_eq_true hoffline))
    · rcases round_of_stopped htrack hstopped second with hoffline | ⟨hactive, -⟩
      · exact hoffline
      · exact absurd hidle hactive

end

/-- **The orderly stop.** -/
theorem orderly_stop (ops : List NldDirectPdoDispatchOp) : OrderlyStop ops := by
  refine ⟨workerKept ops, ?_⟩
  rintro before between rfl stopped hbetween
  have htrack : stopped.OnTrack := onTrack_after onTrack_initialized _
  have hstop : stopped.stopRequested = true := by
    show (dispatcher.after {} (before ++ [pnpStop])).stopRequested = true
    rw [Reducer.after_append]
    exact onPnpStop_stopRequested _
  have hwinds := Reducer.after_inv
    (P := fun owner : NldDirectPdoDispatchOwner => owner.OnTrack ∧ owner.stopRequested = true)
    (fun owner op h hop => ⟨onTrack_step h.1 op, (stopped_step h.1 h.2 op hop).1⟩) ⟨htrack, hstop⟩
    hbetween
  refine ⟨windsDown_of_stopped hwinds.1 hwinds.2, ?_⟩
  have hcloses := Reducer.count_balance (M := dispatcher)
    (P := fun owner : NldDirectPdoDispatchOwner => owner.OnTrack ∧ owner.stopRequested = true)
    (f := fun owner => owner.ended.toNat) (q := fun _ _ => false)
    (fun owner op h hop => ⟨onTrack_step h.1 op, (stopped_step h.1 h.2 op hop).1⟩)
    (fun owner op h hop => by simpa using (stopped_step h.1 h.2 op hop).2) ⟨htrack, hstop⟩ hbetween
  have hone := Bool.toNat_le (dispatcher.after stopped between).ended
  rw [Reducer.count_never] at hcloses
  omega

end NldDirectPdoDispatchOwner

end NativeLdac.DirectPdo
