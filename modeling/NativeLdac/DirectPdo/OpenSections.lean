/-
  The sections of an open keep a channel coherent: start, open, and the worker of the open.

  * an open is refused, and its request released at once, or it is submitted and is the one in
    flight (`coherent_openChannel`);
  * its completion hands the request to its worker or makes it the active channel
    (`Coherent.completes`);
  * the worker frees the BRBs, and releases the request that it does not retain.
-/
import NativeLdac.DirectPdo.OpenCoherence

namespace NativeLdac.DirectPdo

open NldBthSignalingState NldBthSignalingContext
open NldBthAsyncOpenRequest (allocate clearOpenBrb freeCloseBrb freeOpenBrb holdings holds ledger
  release releaseBase takeCloseBrb workerHolds workerHoldsCloseBrb)

section
variable {c : NldBthSignalingContext} {o : Option Nat} {r : Nat}

/-! ## Start and open -/

theorem coherent_channelStart (h : Coherent c o) (ready : Bool) :
    Coherent (c.channelStart ready) o := by
  unfold channelStart
  split_ifs with hrefused
  · exact h
  rw [not_or, not_or, not_not, not_not] at hrefused
  have hoffline := hrefused.2.2
  have hclosed := onPnpStart_offline h.kept hoffline
  have hpending : c.pendingOpen = none := by
    by_contra hne
    exact absurd (hoffline.symm.trans (h.openPending.mpr hne)) nofun
  refine ⟨kept_step h.kept .pnpStart, h.flight, h.drained, h.fresh, h.pending, ?_, ?_, ?_, ?_,
    h.retained, h.course, ?_, ?_, h.account⟩
  · refine ⟨fun hopening => ?_, fun hne => absurd hpending hne⟩
    exact absurd (hclosed.symm.trans hopening) nofun
  · exact fun r hr => absurd (hpending.symm.trans hr) nofun
  · intro r hr
    obtain ⟨hopen, -⟩ | ⟨hfaulted, -⟩ := h.active r hr
    · exact absurd (hoffline.symm.trans hopen) nofun
    · exact absurd (hoffline.symm.trans hfaulted) nofun
  · exact fun hopen => absurd (hclosed.symm.trans hopen) nofun
  · exact fun call hm => (h.call call hm).sees rfl
  · exact fun p hp => (Option.some.inj hp).symm

theorem Coherent.allocates (h : Coherent c o) {q : NldBthAsyncOpenRequest}
    (hpoint : q.point = .done) (hcourse : q.OnCourse)
    (haccount : Account (c.standing c.allocated) q) :
    Coherent { c.setRequest c.allocated q with allocated := c.allocated + 1 } o := by
  have hunborn := h.fresh c.allocated (Nat.le_refl _)
  refine ⟨h.kept, ?_, h.drained, ?_, ?_, h.openPending, ?_, h.active, h.opened, ?_, ?_, ?_,
    h.profile, ?_⟩
  · refine forall_request (P := fun r q => q.point.isInFlight ↔ o = some r) ?_ fun r' _ => h.flight r'
    rw [← h.flight, hpoint, hunborn]
    rfl
  · refine fun r (hr : c.allocated + 1 ≤ r) => ?_
    show (Function.update c.requests c.allocated q r).point = _
    rw [Function.update_of_ne (by omega)]
    exact h.fresh r (by omega)
  · refine forall_request (P := fun r q => c.pendingOpen = some r ↔ q.point = .sent) ?_
      fun r' _ => h.pending r'
    rw [h.pending, hpoint, hunborn]
    exact ⟨nofun, nofun⟩
  · refine forall_request (P := fun r q => c.pendingOpen = some r →
      q.generation = c.owner.generation) (fun hr => ?_) fun r' _ => h.generation r'
    rw [h.pending, hunborn] at hr
    cases hr
  · refine forall_request (P := fun r q => o = some r →
      c.activeChannel = if q.worker.retainRequest then some r else none) (fun hr => ?_)
      fun r' _ => h.retained r'
    rw [← h.flight, hunborn] at hr
    cases hr
  · exact forall_request (P := fun _ q => q.OnCourse) hcourse fun r' _ => h.course r'
  · exact fun call hm => (h.call call hm).sees rfl
  · exact forall_request (P := fun r q => Account (c.standing r) q) haccount
      fun r' _ => h.account r'

theorem Coherent.standing_fresh (h : Coherent c o) (hm : c.operationMutex = .free) :
    c.standing c.allocated = { stops := c.stops } := by
  have hunborn := h.fresh c.allocated (Nat.le_refl _)
  have hpending : decide (c.pendingOpen = some c.allocated) = false :=
    Bool.eq_false_iff.mpr fun hv => h.born (.inl hv) hunborn
  have hactive : decide (c.activeChannel = some c.allocated) = false :=
    Bool.eq_false_iff.mpr fun hv => h.born (.inr (.inl hv)) hunborn
  unfold standing
  rw [hpending, hactive, hm]
  rfl

theorem coherent_openRefused (h : Coherent c o) (hm : c.operationMutex = .free)
    (a : OpenAllocations) :
    Coherent (c.openRefused (allocate c.stops a)) o := by
  refine h.allocates (by simp [releaseBase, allocate])
    ⟨fun _ => .inr ?_, ?_, ?_, ?_⟩ ?_
  · simp [releaseBase, allocate,
      release]
  · simp [releaseBase, allocate]
  · simp [releaseBase, allocate]
  · simp [releaseBase, allocate]
  · rw [h.standing_fresh hm]
    exact Account.refused c.stops a

theorem coherent_openSubmitted (h : Coherent c none) (hm : c.operationMutex = .free)
    (a : OpenAllocations) (hsubmit : c.owner.requestOpen.1 = .submitOpen)
    (hpending : c.pendingOpen = none) :
    Coherent
      { c.setRequest c.allocated { allocate c.stops a with
            generation := c.owner.requestOpen.2.generation, point := .sent } with
        owner := c.owner.requestOpen.2
        pendingOpen := some c.allocated
        requestDrained := false
        allocated := c.allocated + 1 } (some c.allocated) := by
  obtain ⟨hclosed, hopening, -⟩ := requestOpen_submitted hsubmit
  have hactive : c.activeChannel = none := by
    cases hchannel : c.activeChannel with
    | none => rfl
    | some r =>
      obtain ⟨hopen, -⟩ | ⟨hfaulted, -⟩ := h.active r hchannel
      · exact absurd (hclosed.symm.trans hopen) nofun
      · exact absurd (hclosed.symm.trans hfaulted) nofun
  have hfresh := h.standing_fresh hm
  refine ⟨kept_step h.kept .requestOpen, ?_, rfl, ?_, ?_, ?_, ?_, ?_, ?_, ?_, ?_, ?_, h.profile, ?_⟩
  · refine forall_request (P := fun r q => q.point.isInFlight ↔ some c.allocated = some r) ?_ ?_
    · exact ⟨fun _ => rfl, fun _ => rfl⟩
    · intro r hne
      rw [h.flight r]
      exact ⟨nofun, fun heq => absurd (Option.some.inj heq).symm hne⟩
  · refine fun r (hr : c.allocated + 1 ≤ r) => ?_
    show (Function.update c.requests c.allocated _ r).point = _
    rw [Function.update_of_ne (by omega)]
    exact h.fresh r (by omega)
  · refine forall_request (P := fun r q => some c.allocated = some r ↔ q.point = .sent) ?_ ?_
    · exact ⟨fun _ => rfl, fun _ => rfl⟩
    · intro r hne
      rw [← h.pending r, hpending]
      exact ⟨fun heq => absurd (Option.some.inj heq).symm hne, nofun⟩
  · exact ⟨fun _ => nofun, fun _ => hopening⟩
  · refine forall_request (P := fun r q => some c.allocated = some r →
      q.generation = c.owner.requestOpen.2.generation) (fun _ => rfl) ?_
    exact fun r hne heq => absurd (Option.some.inj heq).symm hne
  · exact fun r hr => absurd (hactive.symm.trans hr) nofun
  · exact fun hopen => absurd (hopening.symm.trans hopen) nofun
  · refine forall_request (P := fun r q => some c.allocated = some r →
      c.activeChannel = if q.worker.retainRequest then some r else none) (fun _ => hactive) ?_
    exact fun r hne heq => absurd (Option.some.inj heq).symm hne
  · exact forall_request (P := fun _ q => q.OnCourse) ⟨nofun, nofun, nofun, nofun⟩ fun r _ => h.course r
  · exact fun call hcall => absurd (hm.symm.trans hcall) nofun
  · refine forall_request
      (P := fun r q => Account { c.standing r with pending := some c.allocated = some r } q) ?_ ?_
    · rw [hfresh]
      simpa using Account.sent c.stops c.owner.requestOpen.2.generation a
    · intro r hne
      have hstanding : { c.standing r with pending := some c.allocated = some r } = c.standing r := by
        simp [standing, hpending, hne.symm]
      rw [hstanding]
      exact h.account r

theorem coherent_openChannel (h : Coherent c o) (hm : c.operationMutex = .free) (ready : Bool)
    (a : OpenAllocations) (hdrained : c.owner.requestOpen.1 = .submitOpen → c.requestDrained) :
    ∃ o', Coherent (c.openChannel ready a) o' := by
  unfold openChannel
  cases hprofile : c.profile with
  | none => exact ⟨o, h⟩
  | some p =>
    obtain rfl := h.profile p hprofile
    dsimp only
    by_cases hready : ¬ ready = true
    · rw [if_pos hready]
      exact ⟨o, h⟩
    rw [if_neg hready]
    by_cases hallocated : ¬ a.succeeded = true
    · rw [if_pos hallocated]
      exact ⟨o, coherent_openRefused h hm a⟩
    rw [if_neg hallocated]
    by_cases hsubmit : c.owner.requestOpen.1 = .submitOpen
    · obtain ⟨hclosed, -, -⟩ := requestOpen_submitted hsubmit
      have hpending : c.pendingOpen = none := by
        by_contra hne
        exact absurd (hclosed.symm.trans (h.openPending.mpr hne)) nofun
      rw [if_neg (by rw [hpending]; simp [hsubmit])]
      have ho : o = none := Option.isNone_iff_eq_none.mp (h.drained.symm.trans (hdrained hsubmit))
      subst ho
      have hcoherent := coherent_openSubmitted h hm a hsubmit hpending
      rw [← hprofile]
      exact ⟨_, hcoherent⟩
    · rw [if_pos (.inl hsubmit), requestOpen_refused hsubmit]
      have hcoherent := coherent_openRefused h hm a
      rw [← hprofile]
      exact ⟨o, hcoherent⟩

/-! ## The open worker -/

theorem Coherent.activeChannel_sent (h : Coherent c o) (hsent : (c.requests r).point = .sent) :
    c.activeChannel = none := by
  have hr : c.pendingOpen = some r := (h.pending r).mpr hsent
  have hstate : c.owner.state = .opening := h.openPending.mpr (by rw [hr]; nofun)
  cases hchannel : c.activeChannel with
  | none => rfl
  | some r' =>
    obtain ⟨hopen, -⟩ | ⟨hfaulted, -⟩ := h.active r' hchannel
    · exact absurd (hstate.symm.trans hopen) nofun
    · exact absurd (hstate.symm.trans hfaulted) nofun

/-- What the first section of the worker leaves alone -/
structure Keeps (c c' : NldBthSignalingContext) : Prop where
  operationMutex : c'.operationMutex = c.operationMutex
  requestDrained : c'.requestDrained = c.requestDrained
  allocated : c'.allocated = c.allocated
  profile : c'.profile = c.profile
  stops : c'.stops = c.stops

theorem Coherent.completes (h : Coherent c o) (hsent : (c.requests r).point = .sent)
    {c' : NldBthSignalingContext} {q : NldBthAsyncOpenRequest} (hkeeps : Keeps c c')
    (hrequests : c'.requests = Function.update c.requests r q) (hpending : c'.pendingOpen = none)
    (hactive : c'.activeChannel = if q.worker.retainRequest then some r else none)
    (hkept : Kept c'.owner) (hopening : c'.owner.state ≠ opening)
    (hopened : c'.owner.state = channelOpen ↔ q.worker.retainRequest)
    (hhandle : q.worker.retainRequest → c'.channelHandle) (hpoint : q.point = .freeOpenBrb)
    (hledger : q.ledger = (c.requests r).ledger)
    (hopenBrb : q.openBrb.pointer = (c.requests r).openBrb.pointer)
    (hcloseBrb : (q.holds q.closeBrb).toNat + q.worker.closeBrb.toNat =
      ((c.requests r).holds (c.requests r).closeBrb).toNat)
    (hcloses : q.worker.closeBrb →
      q.worker.action = .submitClose ∧ q.worker.channelHandle ∧ q.worker.retainRequest = false) :
    Coherent c' o := by
  have hr : c.pendingOpen = some r := (h.pending r).mpr hsent
  have hflight : o = some r := h.inFlight (by rw [hsent]; rfl)
  have hstate : c.owner.state = opening := h.openPending.mpr (by rw [hr]; nofun)
  have hnone := h.activeChannel_sent hsent
  have hactiveR : ∀ r', c'.activeChannel = some r' → q.worker.retainRequest ∧ r' = r := by
    intro r' hr'
    rw [hactive] at hr'
    split_ifs at hr' with hretain
    exact ⟨hretain, (Option.some.inj hr').symm⟩
  refine ⟨hkept, ?_, ?_, ?_, ?_, ?_, ?_, ?_, ?_, ?_, ?_, ?_, ?_, ?_⟩
  · rw [hrequests]
    exact forall_request (P := fun r q => q.point.isInFlight ↔ o = some r)
      (by rw [hpoint, hflight]; exact ⟨fun _ => rfl, fun _ => rfl⟩) fun r' _ => h.flight r'
  · rw [hkeeps.requestDrained]
    exact h.drained
  · rw [hrequests, hkeeps.allocated]
    refine forall_request (P := fun r q => c.allocated ≤ r → q.point = .unborn) ?_
      fun r' _ => h.fresh r'
    intro hfresh
    exact absurd (hsent.symm.trans (h.fresh r hfresh)) nofun
  · rw [hrequests, hpending]
    refine forall_request (P := fun r q => none = some r ↔ q.point = .sent) ?_ ?_
    · rw [hpoint]
      exact ⟨nofun, nofun⟩
    · refine fun r' hne => ⟨nofun, fun hsent' => ?_⟩
      exact absurd (Option.some.inj (((h.pending r').mpr hsent').symm.trans hr)) hne
  · rw [hpending]
    exact ⟨fun hstate' => absurd hstate' hopening, fun hne => absurd rfl hne⟩
  · rw [hpending]
    exact nofun
  · intro r' hr'
    obtain ⟨hretain, -⟩ := hactiveR r' hr'
    exact .inl ⟨hopened.mpr hretain, hhandle hretain⟩
  · intro hopen
    rw [hactive, if_pos (hopened.mp hopen)]
    nofun
  · rw [hrequests]
    refine forall_request (P := fun r q => o = some r →
      c'.activeChannel = if q.worker.retainRequest then some r else none) (fun _ => hactive) ?_
    intro r' hne hr'
    exact absurd (Option.some.inj (hr'.symm.trans hflight)) hne
  · rw [hrequests]
    refine forall_request (P := fun _ q => q.OnCourse) ⟨?_, ?_, ?_, ?_⟩ fun r' _ => h.course r'
    · rw [hpoint]
      nofun
    · intro hholds
      refine hcloses ?_
      simpa [hpoint] using hholds
    · rw [hpoint]
      nofun
    · rw [hpoint]
      nofun
  · rw [hkeeps.operationMutex]
    refine fun call hm => ⟨(h.call call hm).waits, (h.call call hm).takes, fun haction => ?_,
      (h.call call hm).clears⟩
    have hdone := (h.call call hm).waits ((h.call call hm).takes (.inr haction))
    exact absurd (hdone.symm.trans hflight) nofun
  · rw [hkeeps.profile, hkeeps.stops]
    exact h.profile
  · rw [hrequests]
    refine forall_request (P := fun r q => Account (c'.standing r) q) ?_ ?_
    · refine (h.account r).pass hledger ?_
      have hfreed : q.freed = (c.requests r).freed := congrArg (·.freed) hledger
      simp only [holds, hfreed] at hcloseBrb
      simp only [holdings, standing, workerHolds,
        workerHoldsCloseBrb, holds, hpoint, hsent,
        hpending, hr, hnone, hactive, hopenBrb, hfreed, hkeeps.operationMutex, hkeeps.stops]
      simp
      refine ⟨?_, hcloseBrb⟩
      cases q.worker.retainRequest <;> simp [Nat.add_comm]
    · intro r' hne
      have hstanding : c'.standing r' = c.standing r' := by
        simp only [standing, hpending, hr, hnone, hactive, hkeeps.operationMutex, hkeeps.stops]
        cases q.worker.retainRequest <;> simp [hne.symm]
      rw [hstanding]
      exact h.account r'

theorem requests_goOnClosing (c : NldBthSignalingContext) (r : Nat) (worker : OpenWorker) :
    (c.goOnClosing r worker).requests = Function.update c.requests r
      { (c.requests r).takeCloseBrb with
        worker := { worker with closeBrb := (c.requests r).closeBrb.pointer }
        point := .freeOpenBrb } := by
  simp [goOnClosing, goOn, NldBthSignalingContext.setRequest]

theorem Coherent.completesClosing (h : Coherent c o) (hsent : (c.requests r).point = .sent)
    {c' : NldBthSignalingContext} {worker : OpenWorker} (hkeeps : Keeps c c')
    (hrequests : c'.requests = c.requests) (hpending : c'.pendingOpen = none)
    (hactive : c'.activeChannel = none) (hkept : Kept c'.owner) (hclosing : c'.owner.state = closing)
    (haction : worker.action = .submitClose) (hhandle : worker.channelHandle)
    (hretain : worker.retainRequest = false) : Coherent (c'.goOnClosing r worker) o := by
  have hupdate := requests_goOnClosing c' r worker
  rw [hrequests] at hupdate
  refine h.completes hsent ⟨hkeeps.operationMutex, hkeeps.requestDrained, hkeeps.allocated,
    hkeeps.profile, hkeeps.stops⟩ hupdate hpending ?_ hkept ?_ ?_ ?_ rfl rfl rfl ?_ ?_
  · exact hactive.trans (if_neg (by simp [hretain])).symm
  · exact fun hopening => absurd (hclosing.symm.trans hopening) nofun
  · exact ⟨fun hopen => absurd (hclosing.symm.trans hopen) nofun, by simp [hretain]⟩
  · simp [hretain]
  · have hfreed := h.not_freed (r := r) (.inl (by simp [standing, (h.pending r).mpr hsent]))
    simp [takeCloseBrb, Brb.clear, hfreed]
  · exact fun _ => ⟨haction, hhandle, hretain⟩

theorem coherent_openCompleted (h : Coherent c o) (hsent : (c.requests r).point = .sent)
    (results : OpenResults) : Coherent (c.openCompleted r results) o := by
  have hr : c.pendingOpen = some r := (h.pending r).mpr hsent
  have hgeneration := h.generation r hr
  have hstate : c.owner.state = opening := h.openPending.mpr (by rw [hr]; nofun)
  have hkept := kept_step h.kept (.openComplete c.owner.generation results.succeeded
    (results.succeeded && results.channelHandle))
  have hnone := h.activeChannel_sent hsent
  have hcases := onOpenComplete_cases h.kept hstate results.succeeded
    (results.succeeded && results.channelHandle)
  have hsame := generation_onOpenComplete (s := c.owner) c.owner.generation results.succeeded
    (results.succeeded && results.channelHandle)
  unfold openCompleted
  dsimp only
  rw [hgeneration, hr, if_pos rfl]
  change Kept (c.owner.onOpenComplete _ _ _).2 at hkept
  generalize c.owner.onOpenComplete c.owner.generation results.succeeded
    (results.succeeded && results.channelHandle) = result at hkept hcases hsame ⊢
  generalize (results.succeeded && results.channelHandle) = acquired at hcases ⊢
  obtain ⟨haction, hopen, hpnp, rfl⟩ | ⟨haction, hclosing, rfl⟩ | ⟨haction, hends⟩ := hcases
  · rw [if_neg (not_not.mpr rfl), if_pos ⟨haction, hopen⟩]
    split_ifs with hlost
    · -- The remote side has disconnected it in the meantime.
      have hfaulted := onRemoteDisconnect_open hkept hopen hpnp
      rw [hsame, ← hgeneration] at hfaulted
      refine h.completes hsent ⟨rfl, rfl, rfl, rfl, rfl⟩ rfl rfl hnone
        (kept_step hkept (.remoteDisconnect _)) ?_ ?_ nofun rfl rfl rfl rfl nofun
      · exact fun hstate' => absurd (hfaulted.symm.trans hstate') nofun
      · exact ⟨fun hstate' => absurd (hfaulted.symm.trans hstate') nofun, nofun⟩
    · unfold acquired
      dsimp only
      split_ifs with hrefused
      · obtain ⟨hopening, -⟩ | ⟨-, haction', hclosing⟩ | ⟨hrest, -⟩ | ⟨hclosing, -⟩ :=
          requestClose_cases hkept false
        · exact absurd (hopen.symm.trans hopening) nofun
        · exact h.completesClosing hsent ⟨rfl, rfl, rfl, rfl, rfl⟩ rfl rfl rfl
            (kept_step hkept (.requestClose false)) hclosing haction' rfl rfl
        · rw [hopen] at hrest
          simp at hrest
        · exact absurd (hopen.symm.trans hclosing) nofun
      · refine h.completes hsent ⟨rfl, rfl, rfl, rfl, rfl⟩ rfl rfl rfl hkept ?_ ?_ (fun _ => rfl) rfl
          rfl rfl rfl nofun
        · exact fun hopening => absurd (hopen.symm.trans hopening) nofun
        · exact ⟨fun _ => rfl, fun _ => hopen⟩
  · rw [if_neg (not_not.mpr rfl), if_neg (by rw [haction]; exact fun hnot => nomatch hnot.1),
      if_pos haction]
    exact h.completesClosing hsent ⟨rfl, rfl, rfl, rfl, rfl⟩ rfl rfl hnone hkept hclosing haction rfl
      rfl
  · rw [if_neg (show ¬ (result.1 = .none ∧ result.2.state = channelOpen) from
        fun hopen => (ends_ne hends).2 hopen.2),
      if_neg (show ¬ result.1 = .submitClose by rw [haction]; nofun), ite_self]
    refine h.completes hsent ⟨rfl, rfl, rfl, rfl, rfl⟩ rfl rfl hnone hkept (ends_ne hends).1 ?_
      nofun rfl rfl rfl rfl nofun
    exact ⟨fun hopen => absurd hopen (ends_ne hends).2, nofun⟩

theorem coherent_freeOpenBrb (h : Coherent c o) (hpoint : (c.requests r).point = .freeOpenBrb)
    (succeeded : Bool) : Coherent (c.openWorker r succeeded) o := by
  have hcourse := h.course r
  simp only [openWorker, hpoint]
  split_ifs with hpointer
  · have hfreed := h.freed_eq_false (r := r) (by rw [hpoint]; rfl)
    refine h.setRequest ?_ ⟨by simp, ?_, by simp, by simp⟩ ((h.account r).freeOpenBrb rfl ?_)
    · exact ⟨by rw [hpoint]; rfl, by simp [hpoint], by simp [hpoint], rfl, rfl⟩
    · simpa [freeOpenBrb, hpoint] using hcourse.closes
    · simp [holdings, freeOpenBrb, hpoint, hpointer,
        hfreed]
  · refine h.workerPasses ?_ rfl ?_ ⟨fun _ => .inl (Bool.eq_false_iff.mpr hpointer), ?_,
      by simp, by simp⟩
    · exact ⟨by rw [hpoint]; rfl, by simp [hpoint], by simp [hpoint], rfl, rfl⟩
    · simp [holdings, hpoint, hpointer]
    · simpa [hpoint] using hcourse.closes

theorem coherent_clearOpenBrb (h : Coherent c o) (hpoint : (c.requests r).point = .clearOpenBrb)
    (succeeded : Bool) : Coherent (c.openWorker r succeeded) o := by
  have hcourse := h.course r
  simp only [openWorker, hpoint]
  refine h.workerPasses ?_ rfl ?_ ⟨fun _ => .inl rfl, ?_, nofun, nofun⟩
  · exact ⟨by rw [hpoint]; rfl, by simp [hpoint], by simp [hpoint], rfl, rfl⟩
  · simp [holdings, clearOpenBrb, Brb.clear, hpoint]
  · simpa [clearOpenBrb, hpoint] using hcourse.closes

theorem coherent_notify (h : Coherent c o) (hpoint : (c.requests r).point = .notify)
    (succeeded : Bool) : Coherent (c.openWorker r succeeded) o := by
  have hcourse := h.course r
  simp only [openWorker, hpoint]
  refine h.workerPasses ?_ rfl ?_ ⟨fun _ => hcourse.openBrb (by rw [hpoint]; rfl), ?_, nofun,
    nofun⟩
  · exact ⟨by rw [hpoint]; rfl, by simp [hpoint], by simp [hpoint], rfl, rfl⟩
  · simp [holdings, hpoint]
  · simpa [hpoint] using hcourse.closes

theorem coherent_workerCloses (h : Coherent c o) (hpoint : (c.requests r).point = .closeChannel)
    (succeeded : Bool) : Coherent (c.openWorker r succeeded) o := by
  have hcourse := h.course r
  have hopenBrb := hcourse.openBrb (by rw [hpoint]; rfl)
  simp only [openWorker, hpoint, workerCloses]
  split_ifs with hcloses
  · obtain ⟨-, hbrb, -⟩ := hcloses
    have hretain := (hcourse.closes (by simp [hpoint, hbrb])).2.2
    refine h.setRequest ?_ ⟨fun _ => hopenBrb, ?_, fun _ => hretain, by simp⟩
      ((h.account r).freeCloseBrb rfl ?_)
    · exact ⟨by rw [hpoint]; rfl, by simp [hpoint], by simp [hpoint], rfl, rfl⟩
    · simp
    · simp [holdings, freeCloseBrb, Brb.free, hpoint,
        hbrb, Nat.add_right_comm]
  · have hbrb : (c.requests r).worker.closeBrb = false := by
      by_contra hbrb
      rw [Bool.not_eq_false] at hbrb
      obtain ⟨haction, hhandle, -⟩ := hcourse.closes (by simp [hpoint, hbrb])
      exact hcloses ⟨haction, hbrb, hhandle⟩
    refine h.workerPasses ?_ rfl ?_ ⟨fun _ => hopenBrb, by simp, by simp, by simp⟩
    · exact ⟨by rw [hpoint]; rfl, by simp [hpoint], by simp [hpoint], rfl, rfl⟩
    · simp [holdings, hpoint, hbrb]

theorem coherent_workerSettles (h : Coherent c o) (hpoint : (c.requests r).point = .settle)
    (succeeded : Bool) : Coherent (c.openWorker r succeeded) o := by
  have hcourse := h.course r
  have hretained := h.retained r (h.inFlight (by rw [hpoint]; rfl))
  rw [hcourse.settles hpoint, if_neg Bool.false_ne_true] at hretained
  simp only [openWorker, hpoint]
  refine (h.closeCompleted hretained _).workerPasses ?_ rfl ?_
    ⟨fun _ => hcourse.openBrb (by rw [hpoint]; rfl), by simp, nofun, nofun⟩
  · exact ⟨by simp [clearChannel, hpoint], by simp [clearChannel, hpoint],
      by simp [clearChannel, hpoint], rfl, rfl⟩
  · simp [holdings, clearChannel, hpoint]

theorem coherent_workerReleases (h : Coherent c o) (hpoint : (c.requests r).point = .release)
    (succeeded : Bool) : Coherent (c.openWorker r succeeded) o := by
  have hcourse := h.course r
  have hopenBrb := hcourse.openBrb (by rw [hpoint]; rfl)
  simp only [openWorker, hpoint]
  split_ifs with hretain
  · refine h.workerPasses ?_ rfl ?_ ⟨fun _ => hopenBrb, by simp, by simp, by simp⟩
    · exact ⟨by rw [hpoint]; rfl, by simp [hpoint], by simp [hpoint], rfl, rfl⟩
    · simp [holdings, hpoint, hretain]
  · have hfreed := h.freed_eq_false (r := r) (by rw [hpoint]; rfl)
    have hpointer := hopenBrb.resolve_right (by simp [hfreed])
    refine h.setRequest ?_ ⟨fun _ => .inl ?_, by simp, by simp, by simp⟩
      ((h.account r).release (by simp [hpoint]) ?_ ?_ ?_ ?_)
    · exact ⟨by simp [hpoint], by simp [hpoint], by simp [hpoint],
        by simp [releaseBase], by simp [releaseBase]⟩
    · simp [releaseBase, hpointer]
    · rfl
    · simp [holdings, releaseBase, hpoint]
    · simp [holdings, releaseBase, hpoint, hretain]
      omega
    · simp [holdings, releaseBase, hpoint, hretain,
        Ledger.references, ledger]
      omega

theorem coherent_workerSignals (h : Coherent c o) (hpoint : (c.requests r).point = .signal)
    (succeeded : Bool) : Coherent (c.openWorker r succeeded) none := by
  have hcourse := h.course r
  have hflight := h.inFlight (r := r) (by rw [hpoint]; rfl)
  simp only [openWorker, hpoint]
  refine ⟨h.kept, ?_, rfl, ?_, ?_, h.openPending, ?_, h.active, h.opened, nofun, ?_, ?_, h.profile, ?_⟩
  · refine forall_request (P := fun r q => q.point.isInFlight ↔ none = some r) (by simp) ?_
    intro r' hne
    rw [h.flight r', hflight]
    exact ⟨fun heq => absurd (Option.some.inj heq).symm hne, nofun⟩
  · refine forall_request (P := fun r q => c.allocated ≤ r → q.point = .unborn) ?_
      fun r' _ => h.fresh r'
    intro hr
    rw [h.fresh r hr] at hpoint
    cases hpoint
  · refine forall_request (P := fun r q => c.pendingOpen = some r ↔ q.point = .sent) ?_
      fun r' _ => h.pending r'
    rw [h.pending r, hpoint]
    exact ⟨nofun, nofun⟩
  · exact forall_request (P := fun r q => c.pendingOpen = some r → q.generation = c.owner.generation)
      (h.generation r) fun r' _ => h.generation r'
  · refine forall_request (P := fun _ q => q.OnCourse) ⟨fun _ => ?_, by simp, nofun, nofun⟩
      fun r' _ => h.course r'
    exact hcourse.openBrb (by rw [hpoint]; rfl)
  · exact fun call hm => ⟨fun _ => rfl, (h.call call hm).takes, (h.call call hm).closes,
      (h.call call hm).clears⟩
  · refine forall_request (P := fun r q => Account (c.standing r) q) ?_ fun r' _ => h.account r'
    refine (h.account r).pass rfl ?_
    simp [holdings, hpoint]

end

end NativeLdac.DirectPdo
