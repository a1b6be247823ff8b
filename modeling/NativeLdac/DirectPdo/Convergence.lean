/-
  Convergence of the direct PDO: while the intent stays and every action that is taken
  succeeds, three completions at most bring the transport to where the intent asks for it.

  `remaining` is the measure: the action that is pending, and the `steps` that the transport is
  away from its target after it.
-/
import Mathlib.Algebra.Order.Group.Nat
import Mathlib.Logic.Function.Iterate
import NativeLdac.DirectPdo.Dispatch

namespace NativeLdac.DirectPdo

open NldDirectPdoKsIntent NldDirectPdoTransportState NldDirectPdoAction
  NldDirectPdoDispatchCommand NldDirectPdoDispatchAnswer

/-- Where the intent asks the transport to be. -/
def NldDirectPdoKsIntent.target : NldDirectPdoKsIntent → NldDirectPdoTransportState
  | ksRunning => transportStreaming
  | ksAcquired => transportOpen
  | ksStopped => transportClosed

/-- The actions that bring the transport to the target of the intent. -/
def NldDirectPdoKsIntent.steps : NldDirectPdoKsIntent → NldDirectPdoTransportState → Nat
  | ksRunning, transportClosed => 2
  | ksRunning, transportOpen => 1
  | ksAcquired, transportClosed => 1
  | ksAcquired, transportStreaming => 1
  | ksStopped, transportStreaming => 2
  | ksStopped, transportOpen => 1
  | _, _ => 0

namespace NldDirectPdoDispatchOwner

/-- The intent stays, and no action that is taken fails. -/
def Steady (owner : NldDirectPdoDispatchOwner) : NldDirectPdoDispatchOp → Prop
  | .pnpStart | .retry | .takeAction => True
  | .setKsIntent intent => intent = owner.session.ksIntent
  | .completeAction generation action succeeded =>
    dispatcher.out owner (.completeAction generation action succeeded) = completed true →
      succeeded
  | .pnpStop | .transportLost => False

instance (owner : NldDirectPdoDispatchOwner) : DecidablePred owner.Steady
  | .pnpStart | .retry | .takeAction => isTrue trivial
  | .setKsIntent intent => inferInstanceAs (Decidable (intent = owner.session.ksIntent))
  | .completeAction _ _ _ => inferInstanceAs (Decidable (_ → _))
  | .pnpStop | .transportLost => isFalse id

def completes (owner : NldDirectPdoDispatchOwner) (op : NldDirectPdoDispatchOp) : Bool :=
  dispatcher.out owner op = completed true

/-- The rounds of a worker whose actions succeed. -/
def rounds (n : Nat) (owner : NldDirectPdoDispatchOwner) : NldDirectPdoDispatchOwner :=
  (fun owner => round owner true)^[n] owner

/-- The transport is where the intent asks for it, and there is nothing left to take. -/
structure Settled (owner : NldDirectPdoDispatchOwner) (intent : NldDirectPdoKsIntent) : Prop where
  wanted : owner.session.ksIntent = intent
  reached : owner.session.transportState = intent.target
  idle : owner.session.pendingAction = actionNone ∧ owner.activeAction = actionNone
  nothing : dispatcher.out owner .takeAction = taken actionNone 0

/-! ## The measure -/

/-- The actions that are left: the one that is pending, and those that follow it. -/
def remaining (owner : NldDirectPdoDispatchOwner) : Nat :=
  if owner.session.pendingAction = actionNone then 0
  else 1 + owner.session.ksIntent.steps (owner.session.completed owner.session.pendingAction)

theorem steps_le (intent : NldDirectPdoKsIntent) (state : NldDirectPdoTransportState) :
    intent.steps state ≤ 2 := by
  cases intent <;> cases state <;> decide

theorem remaining_le (owner : NldDirectPdoDispatchOwner) : owner.remaining ≤ 3 := by
  unfold remaining
  have hsteps := steps_le owner.session.ksIntent
    (owner.session.completed owner.session.pendingAction)
  split_ifs <;> omega

/-- The transport is in one of the states that an action leads to. -/
def Placed (session : NldDirectPdoSession) : Prop :=
  session.pnpStarted ∧ session.transportState ≠ transportOffline ∧
    session.transportState ≠ transportFaulted

theorem steps_planned {session : NldDirectPdoSession} (h : Placed session) :
    session.ksIntent.steps session.transportState =
      if session.planned = actionNone then 0
      else 1 + session.ksIntent.steps (session.completed session.planned) := by
  obtain ⟨hstarted, hoffline, hfaulted⟩ := h
  cases hintent : session.ksIntent <;> cases hstate : session.transportState <;>
    simp_all [NldDirectPdoSession.planned, NldDirectPdoSession.completed,
      NldDirectPdoKsIntent.steps]

theorem target_of_planned {session : NldDirectPdoSession} (h : Placed session)
    (hplanned : session.planned = actionNone) :
    session.transportState = session.ksIntent.target := by
  obtain ⟨hstarted, hoffline, hfaulted⟩ := h
  cases hintent : session.ksIntent <;> cases hstate : session.transportState <;>
    simp_all [NldDirectPdoSession.planned, NldDirectPdoKsIntent.target]

/-! ## What a steady operation keeps -/

/-- A started session that has not failed, with its intent. -/
structure Converging (intent : NldDirectPdoKsIntent) (owner : NldDirectPdoDispatchOwner) :
    Prop where
  track : owner.OnTrack
  placed : Placed owner.session
  recovered : owner.session.recoveryRequired = false
  wanted : owner.session.ksIntent = intent

section
variable {owner : NldDirectPdoDispatchOwner} {intent : NldDirectPdoKsIntent}

theorem Converging.pending_ne_close (h : owner.Converging intent) :
    owner.session.pendingAction ≠ actionCancelAndClose := by
  intro hclose
  rcases h.track.session.owed hclose with hstopped | hlost
  · exact Bool.eq_false_iff.mp hstopped h.placed.1
  · exact Bool.eq_false_iff.mp h.recovered hlost

theorem Converging.stopRequested (h : owner.Converging intent) : owner.stopRequested = false :=
  Bool.eq_false_iff.mpr fun hstop => Bool.eq_false_iff.mp (h.track.stopped hstop) h.placed.1

theorem Converging.active (h : owner.Converging intent) (hactive : owner.activeAction ≠ actionNone) :
    owner.session.pendingAction = owner.activeAction :=
  (h.track.active hactive).resolve_right h.pending_ne_close

theorem completeAction_succeeds {session : NldDirectPdoSession} (hplaced : Placed session)
    (hnone : session.pendingAction ≠ actionNone)
    (hclose : session.pendingAction ≠ actionCancelAndClose) :
    let session' :=
      { session with
        transportState := session.completed session.pendingAction, pendingAction := actionNone }
    Placed session' ∧ (session.completeAction session.pendingAction true).2 =
      { session' with pendingAction := session'.planned } := by
  intro session'
  have hcompleted : session.completed session.pendingAction ≠ transportOffline ∧
      session.completed session.pendingAction ≠ transportFaulted := by
    cases hpending : session.pendingAction <;> simp_all [NldDirectPdoSession.completed]
  refine ⟨⟨hplaced.1, hcompleted.1, hcompleted.2⟩, ?_⟩
  unfold NldDirectPdoSession.completeAction
  rw [if_neg (by simp [hnone])]
  dsimp only
  rw [if_neg fun h => hclose h.1, if_neg (by simp)]
  exact congrArg Prod.snd (if_neg (not_or.mpr ⟨not_not.mpr rfl, hcompleted.2⟩))

theorem converging_finished (h : owner.Converging intent)
    (hactive : owner.activeAction ≠ actionNone) :
    (owner.finished owner.activeAction true).Converging intent ∧
      owner.remaining = 1 + (owner.finished owner.activeAction true).remaining := by
  have htrack := onTrack_finished h.track hactive true
  have hpending := h.active hactive
  have hnone : owner.session.pendingAction ≠ actionNone := by rwa [hpending]
  obtain ⟨hplaced, hsession⟩ := completeAction_succeeds h.placed hnone h.pending_ne_close
  have hfinished : (owner.finished owner.activeAction true).session =
      (owner.session.completeAction owner.session.pendingAction true).2 := by
    rw [← hpending]
    exact congrArg session (if_neg fun howed => h.pending_ne_close howed.2.1)
  refine ⟨⟨htrack, ?_, ?_, ?_⟩, ?_⟩
  · rw [hfinished, hsession]
    exact hplaced
  · rw [hfinished, hsession]
    exact h.recovered
  · rw [hfinished, hsession]
    exact h.wanted
  · have hsteps := steps_planned hplaced
    unfold remaining
    rw [hfinished, hsession, if_neg hnone]
    exact congrArg (1 + ·) hsteps

theorem plan_eq_self (h : owner.Converging intent) :
    owner.session.plan = (actionNone, owner.session) := by
  by_cases hpending : owner.session.pendingAction = actionNone
  · have hplanned := h.track.session.settled hpending h.placed.2.2
    unfold NldDirectPdoSession.plan
    rw [if_neg (by simp [hpending, h.placed.2.2]), hplanned, ← hpending]
  · exact NldDirectPdoSession.plan_of_pending hpending

theorem converging_step (h : owner.Converging intent) (op : NldDirectPdoDispatchOp)
    (hop : owner.Steady op) :
    (dispatcher.next owner op).Converging intent ∧
      owner.remaining = (owner.completes op).toNat + (dispatcher.next owner op).remaining := by
  have hstop := h.stopRequested
  cases op with
  | pnpStart =>
    have hsame : dispatcher.next owner .pnpStart = owner := by
      obtain ⟨session, activeAction, activeGeneration, workerOwned, stopRequested⟩ := owner
      have hstarted : session.pnpStarted = true := h.placed.1
      cases hstop
      show (onPnpStart _).2 = _
      unfold onPnpStart
      split_ifs
      · rfl
      · simp [NldDirectPdoSession.onPnpStart, hstarted, ownWorker]
    rw [hsame]
    exact ⟨h, by simp [completes, Reducer.out, dispatcher]⟩
  | pnpStop => exact hop.elim
  | setKsIntent intent' =>
    have hsame : dispatcher.next owner (.setKsIntent intent') = owner := by
      cases hop
      have hplan : owner.session.setKsIntent owner.session.ksIntent = (actionNone, owner.session) :=
        plan_eq_self h
      show (owner.setKsIntent owner.session.ksIntent).2 = owner
      unfold setKsIntent
      rw [if_neg (Bool.eq_false_iff.mp hstop), hplan]
      simp [ownWorker]
    rw [hsame]
    exact ⟨h, by simp [completes, Reducer.out, dispatcher]⟩
  | transportLost => exact hop.elim
  | retry =>
    have hsame : dispatcher.next owner .retry = owner := by
      show owner.retry.2 = owner
      unfold retry
      split_ifs
      · rfl
      · simp [NldDirectPdoSession.retry, h.placed.2.2, ownWorker]
    rw [hsame]
    exact ⟨h, by simp [completes, Reducer.out, dispatcher]⟩
  | takeAction =>
    obtain ⟨hsession, -, -⟩ := takeAction_cases owner
    have hsession : (dispatcher.next owner .takeAction).session = owner.session := hsession
    refine ⟨⟨onTrack_step h.track _, hsession ▸ h.placed, hsession ▸ h.recovered,
      hsession ▸ h.wanted⟩, ?_⟩
    have hcompletes : owner.completes .takeAction = false := by
      simp [completes, Reducer.out, dispatcher]
    unfold remaining
    rw [hcompletes, hsession, Bool.toNat_false, zero_add]
  | completeAction generation action succeeded =>
    rcases completeAction_cases owner generation action succeeded with
      hrefused | ⟨hnone, rfl, haccepted⟩
    · simp [completes, Reducer.out, Reducer.next, dispatcher, hrefused, h]
    · have hsucceeded : succeeded = true :=
        hop (by simp [Reducer.out, dispatcher, haccepted])
      subst hsucceeded
      have hfinished := converging_finished h hnone
      simpa [completes, Reducer.out, Reducer.next, dispatcher, haccepted] using hfinished

theorem converging_round (h : owner.Converging intent) :
    (owner.round true).Converging intent ∧ (owner.round true).remaining = owner.remaining - 1 := by
  have htaken := converging_step h .takeAction trivial
  have hround := converging_step htaken.1 (.completeAction
    (dispatcher.next owner .takeAction).activeGeneration
    (dispatcher.next owner .takeAction).activeAction true) fun _ => rfl
  refine ⟨hround.1, ?_⟩
  by_cases hactive : owner.activeAction = actionNone
  · by_cases hpending : owner.session.pendingAction = actionNone
    · rw [round_of_idle h.track hpending]
      simp [remaining, hpending]
    · have hnext := next_takeAction_of_pending h.track hactive hpending
      have hfinished := converging_finished (hnext ▸ htaken.1) hpending
      rw [round_of_pending h.track hactive hpending]
      exact Nat.eq_sub_of_add_eq' hfinished.2.symm
  · rw [round_of_active hactive]
    have hfinished := converging_finished h hactive
    omega

theorem converging_rounds (h : owner.Converging intent) (n : Nat) :
    (rounds n owner).Converging intent ∧ (rounds n owner).remaining = owner.remaining - n := by
  induction n with
  | zero => exact ⟨h, rfl⟩
  | succ n ih =>
    have hsucc : rounds (n + 1) owner = (rounds n owner).round true :=
      Function.iterate_succ_apply' _ n owner
    rw [hsucc]
    obtain ⟨hround, hleft⟩ := converging_round ih.1
    exact ⟨hround, by omega⟩

theorem settled_of_remaining (h : owner.Converging intent) (hleft : owner.remaining = 0) :
    owner.Settled intent := by
  have hpending : owner.session.pendingAction = actionNone := by
    by_contra hpending
    rw [remaining, if_neg hpending] at hleft
    omega
  have hactive : owner.activeAction = actionNone := by
    by_contra hactive
    exact hactive ((h.active hactive).symm.trans hpending)
  refine ⟨h.wanted, ?_, ⟨hpending, hactive⟩, ?_⟩
  · rw [← h.wanted]
    exact target_of_planned h.placed (h.track.session.settled hpending h.placed.2.2)
  · cases howned : owner.workerOwned <;>
      simp [Reducer.out, dispatcher, takeAction, hactive, hpending, howned]

end

/-- **Convergence**: from a started session that has not failed, along a run whose intent stays
    and whose actions succeed, three actions at most complete, and as many rounds as are left
    of the three leave the transport where the intent asks for it, with nothing to do. -/
theorem dispatch_converges {before later : List NldDirectPdoDispatchOp}
    (hstarted : (dispatcher.after {} before).session.pnpStarted)
    (hfaulted : (dispatcher.after {} before).session.transportState ≠ transportFaulted)
    (hrecovery : (dispatcher.after {} before).session.recoveryRequired = false)
    (hsteady : dispatcher.Along Steady (dispatcher.after {} before) later) :
    dispatcher.count completes (dispatcher.after {} before) later ≤ 3 ∧
      ∀ n, 3 ≤ dispatcher.count completes (dispatcher.after {} before) later + n →
        (rounds n (dispatcher.after {} (before ++ later))).Settled
          (dispatcher.after {} before).session.ksIntent := by
  have htrack := onTrack_after onTrack_initialized before
  have hoffline : (dispatcher.after {} before).session.transportState ≠ transportOffline :=
    fun hoffline => Bool.eq_false_iff.mp (htrack.session.offline hoffline).1 hstarted
  let intent := (dispatcher.after {} before).session.ksIntent
  have hbegin : (dispatcher.after {} before).Converging intent :=
    ⟨htrack, ⟨hstarted, hoffline, hfaulted⟩, hrecovery, rfl⟩
  have hend := Reducer.after_inv (P := Converging intent)
    (fun _ op h hop => (converging_step h op hop).1) hbegin hsteady
  have hleft := Reducer.count_balance (M := dispatcher) (P := Converging intent)
    (p := fun _ _ => false) (f := remaining)
    (fun _ op h hop => (converging_step h op hop).1)
    (fun owner op h hop => by simpa using (converging_step h op hop).2) hbegin hsteady
  have hthree := remaining_le (dispatcher.after {} before)
  rw [Reducer.count_never] at hleft
  refine ⟨by omega, fun n hn => ?_⟩
  rw [Reducer.after_append]
  obtain ⟨hrounds, hremaining⟩ := converging_rounds hend n
  exact settled_of_remaining hrounds (by omega)

/-- The intent is withdrawn while the open it asked for is under way: the channel that opens
    is closed again. -/
theorem withdrawn_open_converges :
    (rounds 2 (dispatcher.after {} ([.pnpStart, .setKsIntent ksRunning, .takeAction,
      .setKsIntent ksStopped] ++ [.completeAction 1 actionOpen true]))).Settled ksStopped :=
  (@dispatch_converges [.pnpStart, .setKsIntent ksRunning, .takeAction, .setKsIntent ksStopped]
    _ (by decide) (by decide) (by decide) (by decide)).2 2 (by decide)

end NldDirectPdoDispatchOwner

end NativeLdac.DirectPdo
