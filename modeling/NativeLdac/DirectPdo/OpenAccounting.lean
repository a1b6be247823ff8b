/-
  Open requests are accounted for: the base reference of each is released once, each of its
  BRBs is freed once, and not through a profile that was given up.

  * `coherent_step`: every orderly step keeps the channel coherent.
-/
import NativeLdac.DirectPdo.CloseSections
import NativeLdac.DirectPdo.OpenSections

namespace NativeLdac.DirectPdo

open NldBthSignalingState NldBthSignalingContext
open NldBthAsyncOpenRequest (holdings references_eq workerHolds workerHoldsCloseBrb)
open NldBthSignalingContext (beginTransfer remoteDisconnect setRequest step)

section
variable {c : NldBthSignalingContext} {o : Option Nat}

/-! ## Every step -/

theorem Coherent.transfers (h : Coherent c o) (transferOwner : NldBthTransferOwner)
    {m : MutexHolder} (hm : m.call = none) (hc : c.operationMutex.call = none) :
    Coherent { c with transferOwner, operationMutex := m } o := by
  refine ⟨h.kept, h.flight, h.drained, h.fresh, h.pending, h.openPending, h.generation, h.active,
    h.opened, h.retained, h.course, ?_, h.profile, fun r => ?_⟩
  · rintro call rfl
    cases hm
  · have hsame : standing { c with transferOwner, operationMutex := m } r = c.standing r := by
      unfold standing
      rw [hm, hc]
    rw [hsame]
    exact h.account r

theorem coherent_beginTransfer (h : Coherent c o) (hm : c.operationMutex = .free)
    (direction : NldBthTransferDirection) (fits : Bool) :
    Coherent (c.beginTransfer direction fits) o := by
  have hsame : ∀ transferOwner : NldBthTransferOwner, Coherent { c with transferOwner } o :=
    fun transferOwner => h.transfers transferOwner (m := c.operationMutex) (by rw [hm]; rfl)
      (by rw [hm]; rfl)
  unfold beginTransfer
  dsimp only
  split_ifs
  · exact h
  all_goals first
    | exact hsame _
    | exact h.transfers _ rfl (by rw [hm]; rfl)

end

/-- A close takes an active channel, and an open is submitted, when no open is in flight; a
    stop returns when no request that is still there has its close BRB; and a reference is
    added where the count can hold it. -/
def NldBthSignalingContext.isOrderly (c : NldBthSignalingContext) : SignalingChannelOp → Bool
  | .openChannel _ _ => c.owner.requestOpen.1 ≠ .submitOpen || c.requestDrained
  | .close _ =>
    (c.activeChannel.isNone || c.requestDrained) &&
      c.pendingOpen.all fun r => (c.requests r).referenceCount ≠ 0xFFFFFFFF
  | .closeStep _ =>
    match c.operationMutex with
    | .closing call =>
      call.point ≠ .drain || !call.targetOffline || (call.waitForDrain && !c.requestDrained) ||
        (List.range c.allocated).all fun r =>
          (c.requests r).freed || !(c.requests r).closeBrb.pointer
    | .free | .transferring _ _ _ => true
  | .addReference r => (c.requests r).referenceCount ≠ 0xFFFFFFFF
  | .start _ | .setDisconnectCallback _ | .openCompleted _ _ | .openWorker _ _
  | .releaseReference _ | .disconnectIndicated _ | .remoteDisconnect _ | .beginTransfer _ _
  | .completeTransfer => true

theorem coherent_step {c : NldBthSignalingContext} {o : Option Nat} (h : Coherent c o)
    (op : SignalingChannelOp) (hop : c.isOrderly op) :
    ∃ o', Coherent (signalingChannel.next c op) o' := by
  show ∃ o', Coherent (c.step op).2 o'
  cases op with
  | start ready =>
    refine ⟨o, ?_⟩
    dsimp only [step]
    split_ifs
    · exact coherent_channelStart h ready
    · exact h
  | setDisconnectCallback callback =>
    exact ⟨o, h.kept, h.flight, h.drained, h.fresh, h.pending, h.openPending, h.generation,
      h.active, h.opened, h.retained, h.course, fun call hm => (h.call call hm).sees rfl, h.profile,
      h.account⟩
  | openChannel ready allocations =>
    dsimp only [step]
    split_ifs with hm
    · refine coherent_openChannel h hm ready allocations fun hsubmit => ?_
      simpa [isOrderly, hsubmit] using hop
    · exact ⟨o, h⟩
  | openCompleted r results =>
    refine ⟨o, ?_⟩
    dsimp only [step]
    split_ifs with hsent
    · exact coherent_openCompleted h hsent results
    · exact h
  | openWorker r succeeded =>
    dsimp only [step]
    cases hpoint : (c.requests r).point with
    | unborn | sent | done => exact ⟨o, by simpa only [openWorker, hpoint] using h⟩
    | freeOpenBrb => exact ⟨o, coherent_freeOpenBrb h hpoint succeeded⟩
    | clearOpenBrb => exact ⟨o, coherent_clearOpenBrb h hpoint succeeded⟩
    | notify => exact ⟨o, coherent_notify h hpoint succeeded⟩
    | closeChannel => exact ⟨o, coherent_workerCloses h hpoint succeeded⟩
    | settle => exact ⟨o, coherent_workerSettles h hpoint succeeded⟩
    | release => exact ⟨o, coherent_workerReleases h hpoint succeeded⟩
    | signal => exact ⟨none, coherent_workerSignals h hpoint succeeded⟩
  | close targetOffline =>
    refine ⟨o, ?_⟩
    dsimp only [step]
    split_ifs with hm
    · simp only [isOrderly, Bool.and_eq_true, Bool.or_eq_true, Option.isNone_iff_eq_none,
        Option.all_eq_true, decide_eq_true_eq] at hop
      exact coherent_closeInternal h hm targetOffline (fun hne => hop.1.resolve_left hne) hop.2
    · exact h
  | closeStep succeeded =>
    refine ⟨o, ?_⟩
    dsimp only [step]
    cases hm : c.operationMutex with
    | free => exact h
    | transferring _ _ _ => exact h
    | closing call =>
      dsimp only
      cases hpoint : call.point with
      | cancel => exact coherent_cancel h hm hpoint succeeded
      | closeChannel => exact coherent_closeChannel h hm hpoint succeeded
      | freeOpenBrb => exact coherent_freeActiveOpenBrb h hm hpoint succeeded
      | clearOpenBrb => exact absurd hpoint (h.call call hm).clears
      | settle => exact coherent_settle h hm hpoint succeeded
      | release => exact coherent_release h hm hpoint succeeded
      | drain =>
        refine coherent_drain h hm hpoint succeeded fun hstop hdrained r hr hfreed => ?_
        simp only [isOrderly, hm, hpoint, hstop] at hop
        have hbusy : (call.waitForDrain && !c.requestDrained) = false := by
          cases hw : call.waitForDrain with
          | false => rfl
          | true => simp [hdrained hw]
        rw [hbusy] at hop
        simp only [ne_eq, not_true_eq_false, decide_false, Bool.not_true, Bool.false_or,
          List.all_eq_true, List.mem_range] at hop
        simpa [hfreed] using hop r hr
  | addReference r =>
    refine ⟨o, ?_⟩
    dsimp only [step]
    split_ifs with hr
    · exact coherent_addReference h hr (by simpa [isOrderly] using hop)
    · exact h
  | releaseReference r =>
    refine ⟨o, ?_⟩
    dsimp only [step]
    split_ifs with hr
    · exact coherent_releaseReference h hr
    · exact h
  | disconnectIndicated r =>
    refine ⟨o, ?_⟩
    dsimp only [step]
    split_ifs
    · exact coherent_disconnectIndicated h
    · exact h
  | remoteDisconnect r =>
    refine ⟨o, ?_⟩
    dsimp only [step]
    split_ifs
    · exact coherent_remoteDisconnect h
    · exact h
  | beginTransfer direction fits =>
    refine ⟨o, ?_⟩
    dsimp only [step]
    split_ifs with hm
    · exact coherent_beginTransfer h hm direction fits
    · exact h
  | completeTransfer =>
    refine ⟨o, ?_⟩
    dsimp only [step]
    cases hm : c.operationMutex with
    | free => exact h
    | closing _ => exact h
    | transferring _ _ _ => exact h.transfers _ rfl (by rw [hm]; rfl)

/-! ## The pointers -/

/-- A pointer is not replaced by one to another request. -/
def Follows (p p' : Option Nat) : Prop := p' = p ∨ p' = none ∨ p = none

/-- Neither pointer of the channel is overwritten. -/
def NldBthSignalingContext.Keeping (c c' : NldBthSignalingContext) : Prop :=
  Follows c.pendingOpen c'.pendingOpen ∧ Follows c.activeChannel c'.activeChannel

section
variable {c c' : NldBthSignalingContext}

theorem keeping_of_eq (hpending : c'.pendingOpen = c.pendingOpen)
    (hactive : c'.activeChannel = c.activeChannel) : c.Keeping c' :=
  ⟨.inl hpending, .inl hactive⟩

theorem keeping_openChannel (ready : Bool) (a : OpenAllocations) :
    c.Keeping (c.openChannel ready a) := by
  unfold openChannel
  cases c.profile with
  | none => exact keeping_of_eq rfl rfl
  | some profile =>
    dsimp only
    split_ifs with hready hallocated hrefused
    · exact keeping_of_eq rfl rfl
    · refine ⟨.inr (.inr ?_), .inl rfl⟩
      simp only [not_or, Bool.not_eq_true, Option.isSome_eq_false_iff,
        Option.isNone_iff_eq_none] at hrefused
      exact hrefused.2
    · exact keeping_of_eq rfl rfl
    · exact keeping_of_eq rfl rfl

theorem keeping_openWorker (r : Nat) (succeeded : Bool) : c.Keeping (c.openWorker r succeeded) := by
  unfold openWorker workerCloses
  dsimp only
  split <;> (try split_ifs) <;> exact keeping_of_eq rfl rfl

theorem keeping_updateRequest (r : Option Nat) (f : NldBthAsyncOpenRequest → NldBthAsyncOpenRequest)
    (call : CloseCall) : c.Keeping ((c.updateRequest r f).closeGoesOn call) := by
  cases r <;> exact keeping_of_eq rfl rfl

theorem keeping_closeStep (call : CloseCall) (succeeded : Bool) :
    c.Keeping (c.closeStep call succeeded) := by
  unfold closeStep closeReturns
  dsimp only
  split <;> (try split_ifs) <;> first
    | exact keeping_of_eq rfl rfl
    | exact keeping_updateRequest _ _ _

theorem keeping_takeActive (call : CloseCall) : c.Keeping (c.takeActive call) := by
  unfold takeActive
  split
  · exact keeping_of_eq rfl rfl
  · exact ⟨.inl rfl, .inr (.inl rfl)⟩

theorem keeping_takeDisconnected (call : CloseCall) : c.Keeping (c.takeDisconnected call) := by
  unfold takeDisconnected
  split_ifs
  · exact keeping_of_eq rfl rfl
  · exact keeping_takeActive call

theorem keeping_closeInternal (b : Bool) : c.Keeping (c.closeInternal b) := by
  unfold closeInternal
  dsimp only
  split
  · exact keeping_takeActive (c := { c with owner := _, transferOwner := _ }) _
  · split
    · exact keeping_of_eq rfl rfl
    · exact keeping_takeDisconnected (c := { c with owner := _, transferOwner := _ }) _
  · exact keeping_takeDisconnected (c := { c with owner := _, transferOwner := _ }) _
  · exact keeping_takeDisconnected (c := { c with owner := _, transferOwner := _ }) _

theorem keeping_openCompleted (hactive : c.activeChannel = none) (r : Nat) (results : OpenResults) :
    c.Keeping (c.openCompleted r results) := by
  refine ⟨?_, .inr (.inr hactive)⟩
  unfold openCompleted acquiredLost acquired goOnClosing goOn Follows
  dsimp only
  split_ifs <;> simp [setRequest, *]

end

theorem Coherent.keeping {c : NldBthSignalingContext} {o : Option Nat} (h : Coherent c o)
    (op : SignalingChannelOp) : c.Keeping (signalingChannel.next c op) := by
  show c.Keeping (c.step op).2
  cases op with
  | start ready =>
    dsimp only [step, channelStart]
    split_ifs <;> exact keeping_of_eq rfl rfl
  | setDisconnectCallback callback => exact keeping_of_eq rfl rfl
  | openChannel ready allocations =>
    dsimp only [step]
    split_ifs
    · exact keeping_openChannel ready allocations
    · exact keeping_of_eq rfl rfl
  | openCompleted r results =>
    dsimp only [step]
    split_ifs with hsent
    · exact keeping_openCompleted (h.activeChannel_sent hsent) r results
    · exact keeping_of_eq rfl rfl
  | openWorker r succeeded => exact keeping_openWorker r succeeded
  | close targetOffline =>
    dsimp only [step]
    split_ifs
    · exact keeping_closeInternal targetOffline
    · exact keeping_of_eq rfl rfl
  | closeStep succeeded =>
    dsimp only [step]
    split
    · exact keeping_closeStep _ succeeded
    · exact keeping_of_eq rfl rfl
    · exact keeping_of_eq rfl rfl
  | addReference r | releaseReference r | disconnectIndicated r =>
    dsimp only [step]
    split_ifs <;> exact keeping_of_eq rfl rfl
  | remoteDisconnect r =>
    dsimp only [step, remoteDisconnect]
    split_ifs <;> exact keeping_of_eq rfl rfl
  | beginTransfer direction fits =>
    dsimp only [step, beginTransfer]
    split_ifs <;> exact keeping_of_eq rfl rfl
  | completeTransfer =>
    dsimp only [step]
    split <;> exact keeping_of_eq rfl rfl

/-! ## The account of a run -/

/-- How many places have the base reference of a request: `PendingOpen`, `ActiveChannel`, its
    worker, and a close that took it. -/
def NldBthSignalingContext.baseHolders (c : NldBthSignalingContext) (r : Nat) : Nat :=
  ((c.requests r).holdings (c.standing r)).base

structure RequestAccounted (c : NldBthSignalingContext) (r : Nat) : Prop where
  /-- Its base reference is in one place, or was released once. -/
  base : (c.requests r).point ≠ .unborn → c.baseHolders r + (c.requests r).baseReleases = 1
  openBrb : (c.requests r).openBrb.frees ≤ 1
  closeBrb : (c.requests r).closeBrb.frees ≤ 1
  /-- No BRB was freed through a profile that a stop had given up. -/
  stale : (c.requests r).openBrb.staleFrees = 0 ∧ (c.requests r).closeBrb.staleFrees = 0
  /-- When it is gone, everything was given back once. -/
  freed : (c.requests r).point ≠ .unborn → (c.requests r).freed →
    (c.requests r).baseReleases = 1 ∧ (c.requests r).stackReferences = 0 ∧
    (c.requests r).openBrb.frees = (c.requests r).openBrb.allocated.toNat ∧
    (c.requests r).closeBrb.frees = (c.requests r).closeBrb.allocated.toNat

/-- The requests of a channel are accounted for. -/
structure NldBthSignalingContext.Accounted (c : NldBthSignalingContext) : Prop where
  requests : ∀ r, RequestAccounted c r
  /-- An open that has not completed is the one that is pending. -/
  pending : ∀ r, c.pendingOpen = some r ↔ (c.requests r).point = .sent
  /-- The active channel is there. -/
  active : ∀ r, c.activeChannel = some r → (c.requests r).freed = false

section
variable {c : NldBthSignalingContext} {o : Option Nat}

theorem Coherent.closeBrb_freed (h : Coherent c o) {r : Nat} (hfreed : (c.requests r).freed)
    (hbase : ((c.requests r).holdings (c.standing r)).base = 0) :
    ((c.requests r).holdings (c.standing r)).closeBrb = 0 := by
  have hworker : (c.requests r).workerHolds = false ∧ (c.standing r).taken = false := by
    unfold holdings at hbase
    dsimp only at hbase
    refine ⟨?_, ?_⟩ <;>
    · rw [← Bool.toNat_eq_zero]
      omega
  have hcloseBrb : (c.requests r).workerHoldsCloseBrb = false := by
    by_contra hholds
    rw [Bool.not_eq_false] at hholds
    have hretain := ((h.course r).closes hholds).2.2
    have hnot := hworker.1
    unfold workerHolds at hnot
    unfold workerHoldsCloseBrb at hholds
    cases hpoint : (c.requests r).point <;> simp [hpoint, hretain] at hnot hholds
  have htaken : (c.standing r).closeBrb = false := by
    have hnot := hworker.2
    unfold standing at hnot ⊢
    dsimp only at hnot ⊢
    cases hcall : c.operationMutex.call with
    | none => rfl
    | some call =>
      rw [hcall, Option.any_some] at hnot
      simp only [CloseCall.hasTaken, decide_eq_false_iff_not, not_and] at hnot
      simp only [Option.any_some, CloseCall.hasCloseBrb, decide_eq_false_iff_not]
      rintro ⟨hactive, -, hpoint⟩
      refine hnot hactive ?_
      rcases hpoint with hpoint | hpoint <;> simp [hpoint]
  have hpointer : (c.requests r).holds (c.requests r).closeBrb = false := by simp [hfreed]
  unfold holdings
  rw [hpointer, hcloseBrb, htaken]
  rfl

theorem Coherent.requestFreed (h : Coherent c o) {r : Nat} (hborn : (c.requests r).point ≠ .unborn)
    (hfreed : (c.requests r).freed) : (c.requests r).baseReleases = 1 ∧
      (c.requests r).stackReferences = 0 ∧
      (c.requests r).openBrb.frees = (c.requests r).openBrb.allocated.toNat ∧
      (c.requests r).closeBrb.frees = (c.requests r).closeBrb.allocated.toNat := by
  have hbalanced := h.account r
  have hcount := hbalanced.count
  rw [show (c.requests r).ledger.freed = true from hfreed, if_pos rfl,
    references_eq] at hcount
  have hbase := hbalanced.base
  rw [show ((c.requests r).holdings (c.standing r)).born = true by
    simp [holdings, hborn], Bool.toNat_true] at hbase
  have hopen := hbalanced.openBrb
  rw [show ((c.requests r).holdings (c.standing r)).openBrb = 0 by
    simp [holdings, hfreed]] at hopen
  have hclose := hbalanced.closeBrb
  rw [h.closeBrb_freed hfreed (by omega)] at hclose
  refine ⟨?_, by omega, hopen, hclose⟩
  have hreleases : (c.requests r).ledger.baseReleases = (c.requests r).baseReleases := rfl
  omega

theorem Coherent.accounted (h : Coherent c o) : c.Accounted := by
  refine ⟨fun r => ?_, h.pending, fun r hr => ?_⟩
  · have hbalanced := h.account r
    have hopen : (c.requests r).openBrb.frees ≤ (c.requests r).openBrb.allocated.toNat :=
      Nat.le.intro hbalanced.openBrb
    have hclose : (c.requests r).closeBrb.frees ≤ (c.requests r).closeBrb.allocated.toNat :=
      Nat.le.intro hbalanced.closeBrb
    refine ⟨fun hborn => ?_, ?_, ?_, hbalanced.stale, h.requestFreed⟩
    · have hbase := hbalanced.base
      rwa [show ((c.requests r).holdings (c.standing r)).born = true by
        simp [holdings, hborn]] at hbase
    · exact hopen.trans (Bool.toNat_le _)
    · exact hclose.trans (Bool.toNat_le _)
  · exact h.not_freed (.inr (.inl (by simp [standing, hr])))

end

/-- **Open requests are accounted for** in every orderly run: in every state that it reaches,
    each base reference is in one place or was released once, each BRB is freed once and not
    through a profile that was given up, and no pointer is overwritten. -/
theorem open_requests_accounted (ops : List SignalingChannelOp)
    (h : signalingChannel.Along (fun c op => c.isOrderly op = true) {} ops) :
    (signalingChannel.after {} ops).Accounted ∧
      signalingChannel.Along (fun c op => c.Keeping (signalingChannel.next c op)) {} ops := by
  have hstart : ∃ o, Coherent {} o := ⟨none, coherent_initialized⟩
  have hstep : ∀ c op, (∃ o, Coherent c o) → c.isOrderly op = true →
      ∃ o, Coherent (signalingChannel.next c op) o := by
    rintro c op ⟨o, hc⟩ hop
    exact coherent_step hc op hop
  refine ⟨?_, Reducer.along_of_inv hstep (fun c op hc _ => ?_) hstart h⟩
  · obtain ⟨o, hc⟩ := Reducer.after_inv (P := fun c => ∃ o, Coherent c o) hstep hstart h
    exact hc.accounted
  · obtain ⟨o, hc⟩ := hc
    exact hc.keeping op

def workerRuns (r : Nat) : List SignalingChannelOp :=
  List.replicate 8 (.openWorker r true)

/-- A channel is opened, lost, closed, opened again, and stopped while it opens. -/
def channelLife : List SignalingChannelOp :=
  [.start true, .setDisconnectCallback true, .openChannel true {},
    .openCompleted 0 { succeeded := true, channelHandle := true }, .addReference 0] ++
  workerRuns 0 ++ [.disconnectIndicated 0, .remoteDisconnect 0, .close false] ++
  List.replicate 6 (.closeStep true) ++ [.releaseReference 0, .openChannel true {}, .close true,
    .openCompleted 1 { succeeded := true, channelHandle := true }] ++
  workerRuns 1 ++ List.replicate 7 (.closeStep true)

theorem channelLife_accounted :
    (signalingChannel.after {} channelLife).Accounted ∧
      signalingChannel.Along (fun c op => c.Keeping (signalingChannel.next c op)) {} channelLife :=
  open_requests_accounted channelLife (by decide +kernel)

/-- The stack keeps a reference to a request whose channel was lost before its open completed. -/
def lostWhileOpening : List SignalingChannelOp :=
  [.start true, .openChannel true {}, .addReference 0, .disconnectIndicated 0,
    .openCompleted 0 { succeeded := true, channelHandle := true }] ++
  workerRuns 0 ++ [.close true] ++ List.replicate 6 (.closeStep true) ++ [.releaseReference 0]

/-- **The close BRB outlives the stop**: it is freed through the profile that was given up. -/
theorem close_brb_outlives_stop : ¬ ∀ ops, (signalingChannel.after {} ops).Accounted := by
  intro h
  have hstale := ((h lostWhileOpening).requests 0).stale.2
  revert hstale
  decide +kernel

/-- A close overtakes the worker that has just made the channel the active one. -/
def closedUnderWorker : List SignalingChannelOp :=
  [.start true, .openChannel true {},
    .openCompleted 0 { succeeded := true, channelHandle := true }, .openWorker 0 true,
    .close false, .closeStep true, .closeStep true]

theorem open_brb_freed_twice :
    ((signalingChannel.after {} closedUnderWorker).requests 0).openBrb.frees = 2 := by
  decide +kernel

end NativeLdac.DirectPdo
