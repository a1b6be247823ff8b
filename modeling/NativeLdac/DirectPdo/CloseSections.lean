/-
  The sections of a close keep a channel coherent.

  * the first section cancels the open in flight, or takes the active channel
    (`coherent_closeInternal`);
  * the others free the close BRB that was taken and release the request;
  * a stop gives up the profile when no request needs it any more (`coherent_drain`).
-/
import NativeLdac.DirectPdo.OpenCoherence

namespace NativeLdac.DirectPdo

open NldBthSignalingState NldBthSignalingContext
open CloseCall (hasCanceled hasCloseBrb hasTaken)
open NldBthAsyncOpenRequest (addReference freeCloseBrb holdings references_eq releaseBase
  takeCloseBrb workerHoldsCloseBrb)

section
variable {c : NldBthSignalingContext} {o : Option Nat} {r : Nat}

/-! ## Close and stop -/

structure CloseCall.Starts (call : CloseCall) (c : NldBthSignalingContext) : Prop where
  point : call.point = .closeChannel
  pendingRequest : call.pendingRequest = none
  activeRequest : call.activeRequest = none
  waitForDrain : call.waitForDrain = !c.requestDrained
  submits : call.action = .submitClose → c.activeChannel ≠ none

theorem takeDisconnected_eq (call : CloseCall)
    (h : c.channelHandle → c.activeChannel = none) : c.takeDisconnected call = c.takeActive call := by
  unfold takeDisconnected
  split_ifs with hhandle
  · unfold takeActive
    rw [h hhandle]
  · rfl

theorem Coherent.takesActive (h : Coherent c o) (hm : c.operationMutex = .free)
    (hdrained : c.activeChannel ≠ none → c.requestDrained) {owner : NldBthSignalingOwner}
    {transferOwner : NldBthTransferOwner} (hkept : Kept owner)
    (hstate : owner.state ≠ opening ∧ owner.state ≠ channelOpen) (hpending : c.pendingOpen = none)
    {call : CloseCall} (hcall : call.Starts c) :
    Coherent (NldBthSignalingContext.takeActive { c with owner, transferOwner } call) o := by
  have hdrain : call.waitForDrain = false → o = none := by
    rw [hcall.waitForDrain, h.drained]
    cases o <;> simp
  have hpoint : call.point ≠ .clearOpenBrb := by simp [hcall.point]
  have hopening : owner.state = .opening ↔ c.pendingOpen ≠ none :=
    ⟨fun hopening => absurd hopening hstate.1, fun hne => absurd hpending hne⟩
  have hgeneration : ∀ q : NldBthAsyncOpenRequest, ∀ r, c.pendingOpen = some r →
      q.generation = owner.generation := by simp [hpending]
  unfold takeActive
  dsimp only
  cases hactive : c.activeChannel with
  | none =>
    refine ⟨hkept, h.flight, h.drained, h.fresh, h.pending, hopening, fun r => hgeneration _ r,
      by simp, fun hopen => absurd hopen hstate.2, fun r hr => hactive.symm.trans (h.retained r hr),
      h.course, ?_, h.profile, ?_⟩
    · intro call' hcall'
      cases hcall'
      refine ⟨hdrain, ?_, fun _ => rfl, hpoint⟩
      rintro (htaken | hsubmits)
      · exact absurd hcall.activeRequest htaken
      · exact absurd hactive (hcall.submits hsubmits)
    · intro r
      refine (h.account r).pass rfl ?_
      simp [holdings, standing, hm, hactive, MutexHolder.call,
        hasTaken, hasCloseBrb, hasCanceled, hcall.activeRequest,
        hcall.pendingRequest]
  | some r =>
    have hdone : c.requestDrained = true := hdrained (by simp [hactive])
    have ho : o = none := Option.isNone_iff_eq_none.mp (h.drained.symm.trans hdone)
    subst ho
    have hborn := h.born (r := r) (.inr (.inl (by simp [standing, hactive])))
    have hfreed := h.not_freed (r := r) (.inr (.inl (by simp [standing, hactive])))
    have hidle : (c.requests r).point = .done := by
      have hnot : ¬ (c.requests r).point.isInFlight := fun hr => by
        cases (h.flight r).mp hr
      revert hborn hnot
      cases (c.requests r).point <;> simp
    refine ⟨hkept, ?_, h.drained, ?_, ?_, hopening, ?_, by simp, fun hopen => absurd hopen hstate.2,
      by simp, ?_, ?_, h.profile, ?_⟩
    · exact forall_request (P := fun r q => q.point.isInFlight ↔ none = some r) (h.flight r)
        fun r' _ => h.flight r'
    · exact forall_request (P := fun r q => c.allocated ≤ r → q.point = .unborn) (h.fresh r)
        fun r' _ => h.fresh r'
    · exact forall_request (P := fun r q => c.pendingOpen = some r ↔ q.point = .sent) (h.pending r)
        fun r' _ => h.pending r'
    · exact forall_request
        (P := fun r q => c.pendingOpen = some r → q.generation = owner.generation)
        (hgeneration _ r) fun r' _ => hgeneration _ r'
    · exact forall_request (P := fun _ q => q.OnCourse)
        ⟨(h.course r).openBrb, (h.course r).closes, (h.course r).settles, fun _ => rfl⟩
        fun r' _ => h.course r'
    · intro call' hcall'
      cases hcall'
      refine ⟨fun _ => rfl, fun _ => ?_, fun _ => rfl, hpoint⟩
      rw [hcall.waitForDrain, hdone]
      rfl
    · refine forall_request (P := fun r' q => Account (standing { c with
          activeChannel := none
          operationMutex := .closing { call with
            activeRequest := some r, closeBrb := (c.requests r).closeBrb.pointer } } r') q) ?_ ?_
      · refine (h.account r).pass rfl ?_
        simp [holdings, standing, hm, hactive, MutexHolder.call,
          hasTaken, hasCloseBrb, hasCanceled, hcall.pendingRequest,
          hcall.point, takeCloseBrb, Brb.clear, hidle, hfreed]
      · intro r' hne
        refine (h.account r').pass rfl ?_
        simp [holdings, standing, hm, hactive, MutexHolder.call,
          hasTaken, hasCloseBrb, hasCanceled, hcall.pendingRequest,
          hne.symm]

theorem Coherent.takesDisconnected (h : Coherent c o) (hm : c.operationMutex = .free)
    (hdrained : c.activeChannel ≠ none → c.requestDrained) {owner : NldBthSignalingOwner}
    {transferOwner : NldBthTransferOwner} (hkept : Kept owner)
    (hstate : owner.state ≠ opening ∧ owner.state ≠ channelOpen) (hpending : c.pendingOpen = none)
    (hhandle : c.channelHandle → c.activeChannel = none) {call : CloseCall}
    (hcall : call.Starts c) :
    Coherent (NldBthSignalingContext.takeDisconnected { c with owner, transferOwner } call) o := by
  have heq : NldBthSignalingContext.takeDisconnected { c with owner, transferOwner } call =
      NldBthSignalingContext.takeActive { c with owner, transferOwner } call :=
    takeDisconnected_eq call hhandle
  rw [heq]
  exact h.takesActive hm hdrained hkept hstate hpending hcall

theorem Coherent.cancels (h : Coherent c o) (hm : c.operationMutex = .free)
    (hr : c.pendingOpen = some r) (hcount : (c.requests r).referenceCount ≠ 0xFFFFFFFF)
    (call : CloseCall) (hactive : call.activeRequest = none) (haction : call.action ≠ .submitClose)
    (hpoint : call.point = .cancel) (hpending : call.pendingRequest = some r)
    (hwait : call.waitForDrain = !c.requestDrained) :
    Coherent { c.setRequest r (c.requests r).addReference with
      operationMutex := .closing call } o := by
  have hstanding : (c.standing r).pending := by simp [standing, hr]
  refine h.change ⟨rfl, Iff.rfl, Iff.rfl, rfl, rfl⟩
    ⟨(h.course r).openBrb, (h.course r).closes, (h.course r).settles, (h.course r).fresh⟩ ?_ ?_ ?_
  · intro call' hcall'
    cases hcall'
    refine ⟨?_, ?_, fun hsubmit => absurd hsubmit haction, by rw [hpoint]; nofun⟩
    · rw [hwait, h.drained]
      cases o <;> simp
    · rintro (htaken | hsubmit)
      · exact absurd hactive htaken
      · exact absurd hsubmit haction
  · refine (h.account r).addReference (h.not_freed (.inl hstanding)) hcount rfl ?_ ?_
    · have htaken : call.hasTaken r = false := by simp [hasTaken, hactive]
      have hbrb : call.hasCloseBrb r = false := by simp [hasCloseBrb, hactive]
      simp only [holdings, standing, hm, MutexHolder.call, Option.any_some,
        Option.any_none, htaken, hbrb]
      rfl
    · simp [addReference, standing, hm, MutexHolder.call,
        hasCanceled, hpending, hpoint]
  · intro r' hne
    simp [standing, hm, MutexHolder.call, hasTaken, hasCloseBrb,
      hasCanceled, hactive, hpending, hne.symm]

theorem Coherent.clearChannel (h : Coherent c o) (hactive : c.activeChannel = none) :
    Coherent c.clearChannel o :=
  ⟨h.kept, h.flight, h.drained, h.fresh, h.pending, h.openPending, h.generation,
    fun _ hr => absurd (hactive.symm.trans hr) nofun, h.opened, h.retained, h.course,
    fun call hm => (h.call call hm).sees rfl, h.profile, h.account⟩

theorem activeChannel_takeActive (c : NldBthSignalingContext) (call : CloseCall) :
    (c.takeActive call).activeChannel = none := by
  unfold takeActive
  cases hactive : c.activeChannel with
  | none => rfl
  | some r => rfl

theorem coherent_closeInternal (h : Coherent c o) (hm : c.operationMutex = .free) (b : Bool)
    (hdrained : c.activeChannel ≠ none → c.requestDrained)
    (hcount : ∀ r, c.pendingOpen = some r → (c.requests r).referenceCount ≠ 0xFFFFFFFF) :
    Coherent (c.closeInternal b) o := by
  have hkept := kept_step h.kept (.requestClose b)
  change Kept (c.owner.requestClose b).2 at hkept
  have hpending : c.owner.state ≠ opening → c.pendingOpen = none := by
    intro hne
    by_contra hsome
    exact hne (h.openPending.mpr hsome)
  have hhandle : c.owner.state ≠ channelOpen → c.channelHandle → c.activeChannel = none := by
    intro hne hhandle
    by_contra hsome
    obtain ⟨r, hr⟩ := Option.ne_none_iff_exists'.mp hsome
    obtain ⟨hopen, -⟩ | ⟨-, hnot⟩ := h.active r hr
    · exact hne hopen
    · exact hnot hhandle
  unfold closeInternal
  dsimp only
  obtain ⟨hopening, haction, hstate, hgeneration⟩ | ⟨hopen, haction, hstate⟩ |
    ⟨hrest, haction, hstate⟩ | ⟨hclosing, haction, hstate⟩ := requestClose_cases h.kept b
  · obtain ⟨r, hr⟩ := Option.ne_none_iff_exists'.mp (h.openPending.mp hopening)
    simp only [haction, hr]
    have howner : Coherent { c with
        transferOwner := (c.transferOwner.requestClose false).2.finishClose.2
        owner := (c.owner.requestClose b).2 } o := by
      refine ⟨hkept, h.flight, h.drained, h.fresh, h.pending, ?_, ?_, ?_, ?_, h.retained, h.course,
        ?_, h.profile, h.account⟩
      · exact ⟨fun _ => h.openPending.mp hopening, fun _ => hstate⟩
      · exact fun r hr => (h.generation r hr).trans hgeneration.symm
      · intro r hr
        obtain ⟨hopen, -⟩ | ⟨hfaulted, -⟩ := h.active r hr
        · exact absurd (hopening.symm.trans hopen) nofun
        · exact absurd (hopening.symm.trans hfaulted) nofun
      · exact fun hopen => absurd (hstate.symm.trans hopen) nofun
      · exact fun call hcall => absurd (hm.symm.trans hcall) nofun
    have hcancel := howner.cancels (r := r) hm hr (hcount r hr)
      { point := .cancel, targetOffline := b, action := .cancelOpen
        pendingRequest := some r, waitForDrain := !c.requestDrained }
      rfl nofun rfl rfl rfl
    rw [hr] at hcancel
    simpa using hcancel
  · simp only [haction]
    refine Coherent.clearChannel (h.takesActive hm hdrained hkept ?_ ?_ ⟨rfl, rfl, rfl, ?_, ?_⟩)
      (activeChannel_takeActive _ _)
    · rw [hstate]
      exact ⟨nofun, nofun⟩
    · exact hpending (by rw [hopen]; nofun)
    · simp
    · exact fun _ => h.opened hopen
  · simp only [haction]
    refine h.takesDisconnected hm hdrained hkept ?_ ?_
      (hhandle (by rcases hrest with hs | hs | hs <;> rw [hs] <;> nofun))
      ⟨rfl, rfl, rfl, ?_, nofun⟩
    · rcases hstate with hstate | hstate <;> rw [hstate] <;> exact ⟨nofun, nofun⟩
    · exact hpending (by rcases hrest with hs | hs | hs <;> rw [hs] <;> nofun)
    · simp
  · simp only [haction]
    refine h.takesDisconnected hm hdrained hkept ?_ ?_ (hhandle (by rw [hclosing]; nofun))
      ⟨rfl, rfl, rfl, ?_, nofun⟩
    · rw [hstate]
      exact ⟨nofun, nofun⟩
    · exact hpending (by rw [hclosing]; nofun)
    · simp

theorem Coherent.done (h : Coherent c none)
    (hv : (c.standing r).pending ∨ (c.standing r).active ∨ (c.standing r).taken) :
    (c.requests r).point = .done := by
  have hborn := h.born hv
  have hnot : ¬ (c.requests r).point.isInFlight := fun hr => nomatch (h.flight r).mp hr
  revert hborn hnot
  cases (c.requests r).point <;> simp

section
variable {call : CloseCall}

theorem standing_closing (hm : c.operationMutex = .closing call) (r : Nat) :
    c.standing r =
      { pending := c.pendingOpen = some r, active := c.activeChannel = some r
        taken := call.hasTaken r, closeBrb := call.hasCloseBrb r, canceled := call.hasCanceled r
        stops := c.stops } := by
  unfold standing
  rw [hm]
  rfl

theorem Coherent.goesOn (h : Coherent c o) (hm : c.operationMutex = .closing call)
    {call' : CloseCall} (hcall : call'.Coherent c o)
    (htaken : ∀ r, call'.hasTaken r = call.hasTaken r)
    (hbrb : ∀ r, call'.hasCloseBrb r = call.hasCloseBrb r)
    (hcanceled : ∀ r, call'.hasCanceled r = call.hasCanceled r) :
    Coherent (c.closeGoesOn call') o := by
  refine h.closeGoesOn hcall fun r => ?_
  rw [standing_closing hm, standing_closing (c := c.closeGoesOn call') rfl, htaken, hbrb, hcanceled]
  rfl

theorem updateRequest_none {r : Option Nat} (h : r = none)
    (f : NldBthAsyncOpenRequest → NldBthAsyncOpenRequest) : c.updateRequest r f = c := by
  rw [h]
  rfl

theorem updateRequest_some {r : Option Nat} {r' : Nat} (h : r = some r')
    (f : NldBthAsyncOpenRequest → NldBthAsyncOpenRequest) :
    c.updateRequest r f = c.setRequest r' (f (c.requests r')) := by
  rw [h]
  rfl

theorem coherent_cancel (h : Coherent c o) (hm : c.operationMutex = .closing call)
    (hpoint : call.point = .cancel) (succeeded : Bool) : Coherent (c.closeStep call succeeded) o := by
  have hcall := h.call call hm
  simp only [closeStep, hpoint]
  split_ifs with hdrained
  · have ho : o = none := Option.isNone_iff_eq_none.mp (h.drained.symm.trans hdrained)
    subst ho
    have hnext : CloseCall.Coherent { call with point := .closeChannel, waitForDrain := false } c none :=
      ⟨fun _ => rfl, fun _ => rfl, hcall.closes, nofun⟩
    have htaken : ∀ r, hasTaken
        { call with point := .closeChannel, waitForDrain := false } r = call.hasTaken r :=
      fun r => by simp [hasTaken, hpoint]
    have hbrb : ∀ r, hasCloseBrb
        { call with point := .closeChannel, waitForDrain := false } r = call.hasCloseBrb r :=
      fun r => by simp [hasCloseBrb, hpoint]
    obtain hpending | ⟨r, hpending⟩ := Option.eq_none_or_eq_some call.pendingRequest
    · rw [updateRequest_none hpending]
      exact h.goesOn hm hnext htaken hbrb fun r => by simp [hasCanceled, hpending]
    · rw [updateRequest_some hpending]
      have hv := standing_closing hm r
      have hcanceled : call.hasCanceled r = true := by simp [hasCanceled, hpending, hpoint]
      have hgone : hasCanceled
          { call with point := .closeChannel, waitForDrain := false } r = false := by
        simp [hasCanceled]
      have hheld : (c.requests r).ledger.references ((c.requests r).holdings (c.standing r)) ≠ 0 := by
        rw [references_eq, hv, hcanceled]
        simp
      have hv' : standing { c with operationMutex := .closing { call with
          point := .closeChannel, waitForDrain := false } } r =
            { c.standing r with canceled := false } := by
        rw [standing_closing rfl, hv, htaken, hbrb, hgone]
      have hfreed := (h.account r).freed_eq_false hheld
      have hidle : ¬ (c.requests r).point.isInFlight := fun hr => nomatch (h.flight r).mp hr
      refine h.change ?_ ?_ ?_ ((h.account r).release ?_ ?_ ?_ ?_ ?_) ?_
      · exact ⟨by simp, by simp, by simp, by simp, by simp⟩
      · refine ⟨fun hp => .inl ?_, by simpa using (h.course r).closes,
          by simpa using (h.course r).settles, by simpa using (h.course r).fresh⟩
        have hpointer := ((h.course r).openBrb (by simpa using hp)).resolve_right (by simp [hfreed])
        simpa using hpointer
      · intro call' hcall'
        cases hcall'
        exact hnext
      · intro hclear
        rw [hclear] at hidle
        exact absurd rfl hidle
      · rfl
      · rw [hv']
        rfl
      · rw [hv']
        simp [holdings]
      · rw [hv', references_eq, references_eq, hv,
          hcanceled]
        simp [holdings]
      · intro r' hne
        rw [standing_closing rfl, standing_closing hm, htaken, hbrb]
        simp [hasCanceled, hpending, hne.symm]
  · exact h

theorem coherent_closeChannel (h : Coherent c o) (hm : c.operationMutex = .closing call)
    (hpoint : call.point = .closeChannel) (succeeded : Bool) :
    Coherent (c.closeStep call succeeded) o := by
  have hcall := h.call call hm
  simp only [closeStep, hpoint]
  generalize (succeeded || !(call.closeBrb && decide (call.action = .submitClose) &&
    call.channelHandle)) = status
  have hnext : CloseCall.Coherent { call with point := .freeOpenBrb, succeeded := status } c o :=
    hcall.congr rfl rfl rfl nofun
  have htaken : ∀ r, hasTaken { call with point := .freeOpenBrb, succeeded := status } r =
      call.hasTaken r := fun r => by simp [hasTaken, hpoint]
  have hcanceled : ∀ r, hasCanceled
      { call with point := .freeOpenBrb, succeeded := status } r = call.hasCanceled r :=
    fun r => by simp [hasCanceled, hpoint]
  have hbrb : ∀ r, hasCloseBrb
      { call with point := .freeOpenBrb, succeeded := status } r = false :=
    fun r => by simp [hasCloseBrb]
  split_ifs with hheld
  · obtain hactive | ⟨r, hactive⟩ := Option.eq_none_or_eq_some call.activeRequest
    · rw [updateRequest_none hactive]
      exact h.goesOn hm hnext htaken (fun r => by simp [hasCloseBrb, hactive]) hcanceled
    · rw [updateRequest_some hactive]
      have hv := standing_closing hm r
      have hhas : call.hasCloseBrb r = true := by simp [hasCloseBrb, hactive, hheld, hpoint]
      have hv' : standing { c with operationMutex := .closing { call with
          point := .freeOpenBrb, succeeded := status } } r =
            { c.standing r with closeBrb := false } := by
        rw [standing_closing rfl, hv, htaken, hbrb, hcanceled]
      refine h.change ⟨rfl, Iff.rfl, Iff.rfl, rfl, rfl⟩ ⟨(h.course r).openBrb, (h.course r).closes,
        (h.course r).settles, (h.course r).fresh⟩ ?_ ((h.account r).freeCloseBrb rfl ?_) ?_
      · intro call' hcall'
        cases hcall'
        exact hnext
      · rw [hv', hv, hhas]
        simp [holdings, freeCloseBrb, Brb.free]
      · intro r' hne
        rw [standing_closing rfl, standing_closing hm, htaken, hcanceled]
        simp [hasCloseBrb, hactive, hne.symm]
  · exact h.goesOn hm hnext htaken (fun r => by simp [hasCloseBrb, hheld]) hcanceled

theorem coherent_freeActiveOpenBrb (h : Coherent c o) (hm : c.operationMutex = .closing call)
    (hpoint : call.point = .freeOpenBrb) (succeeded : Bool) :
    Coherent (c.closeStep call succeeded) o := by
  have hcall := h.call call hm
  have hnone : (call.activeRequest.any fun r => (c.requests r).openBrb.pointer) = false := by
    obtain hactive | ⟨r, hactive⟩ := Option.eq_none_or_eq_some call.activeRequest
    · rw [hactive]
      rfl
    · -- The close has waited, or nothing was in flight: the worker has freed it.
      have ho := hcall.waits (hcall.takes (.inl (by rw [hactive]; nofun)))
      subst ho
      have htaken : (c.standing r).taken = true := by
        rw [standing_closing hm]
        simp [hasTaken, hactive, hpoint]
      have hdone := h.done (.inr (.inr htaken))
      have hfreed := h.not_freed (.inr (.inr htaken))
      rw [hactive, Option.any_some]
      exact ((h.course r).openBrb (by rw [hdone]; rfl)).resolve_right (by simp [hfreed])
  simp only [closeStep, hpoint, hnone]
  exact h.goesOn hm (hcall.congr rfl rfl rfl nofun) (fun r => by simp [hasTaken, hpoint])
    (fun r => by simp [hasCloseBrb, hpoint])
    fun r => by simp [hasCanceled, hpoint]

theorem coherent_settle (h : Coherent c o) (hm : c.operationMutex = .closing call)
    (hpoint : call.point = .settle) (succeeded : Bool) :
    Coherent (c.closeStep call succeeded) o := by
  have hcall := h.call call hm
  have htaken : ∀ r, hasTaken { call with point := .release } r = call.hasTaken r :=
    fun r => by simp [hasTaken, hpoint]
  have hbrb : ∀ r, hasCloseBrb { call with point := .release } r = call.hasCloseBrb r :=
    fun r => by simp [hasCloseBrb, hpoint]
  have hcanceled : ∀ r, hasCanceled { call with point := .release } r =
      call.hasCanceled r := fun r => by simp [hasCanceled, hpoint]
  simp only [closeStep, hpoint]
  split_ifs with hsubmits
  · have hclosed := h.closeCompleted (hcall.closes hsubmits) call.succeeded
    exact hclosed.goesOn hm ((hclosed.call call hm).congr rfl rfl rfl nofun) htaken hbrb hcanceled
  · exact h.goesOn hm (hcall.congr rfl rfl rfl nofun) htaken hbrb hcanceled

theorem coherent_release (h : Coherent c o) (hm : c.operationMutex = .closing call)
    (hpoint : call.point = .release) (succeeded : Bool) :
    Coherent (c.closeStep call succeeded) o := by
  have hcall := h.call call hm
  have hnext : CloseCall.Coherent { call with point := .drain } c o :=
    hcall.congr rfl rfl rfl nofun
  have hbrb : ∀ r, hasCloseBrb { call with point := .drain } r = call.hasCloseBrb r :=
    fun r => by simp [hasCloseBrb, hpoint]
  have hcanceled : ∀ r, hasCanceled { call with point := .drain } r =
      call.hasCanceled r := fun r => by simp [hasCanceled, hpoint]
  simp only [closeStep, hpoint]
  obtain hactive | ⟨r, hactive⟩ := Option.eq_none_or_eq_some call.activeRequest
  · rw [updateRequest_none hactive]
    exact h.goesOn hm hnext (fun r => by simp [hasTaken, hactive]) hbrb hcanceled
  · rw [updateRequest_some hactive]
    have ho := hcall.waits (hcall.takes (.inl (by rw [hactive]; nofun)))
    subst ho
    have hhas : call.hasTaken r = true := by simp [hasTaken, hactive, hpoint]
    have hv := standing_closing hm r
    have htaken : (c.standing r).taken = true := by rw [hv, hhas]
    have hdone := h.done (.inr (.inr htaken))
    have hfreed := h.not_freed (.inr (.inr htaken))
    have hpointer := ((h.course r).openBrb (by rw [hdone]; rfl)).resolve_right (by simp [hfreed])
    have hv' : standing { c with operationMutex := .closing { call with point := .drain } } r =
        { c.standing r with taken := false } := by
      rw [standing_closing rfl, hv, hbrb, hcanceled]
      simp [hasTaken]
    refine h.change ?_ ⟨fun _ => .inl ?_, ?_, ?_, ?_⟩ ?_ ((h.account r).release ?_ rfl ?_ ?_ ?_) ?_
    · exact ⟨by simp [releaseBase], by simp [releaseBase],
        by simp [releaseBase], by simp [releaseBase],
        by simp [releaseBase]⟩
    · simpa [releaseBase] using hpointer
    · simp [releaseBase, hdone]
    · simp [releaseBase, hdone]
    · simp [releaseBase, hdone]
    · intro call' hcall'
      cases hcall'
      exact hnext
    · simp [hdone]
    · rw [hv']
      rfl
    · rw [hv', hv, hhas]
      simp [holdings, releaseBase, hdone]
      omega
    · rw [hv', references_eq, references_eq, hv, hhas]
      simp [holdings, releaseBase, hdone]
      omega
    · intro r' hne
      rw [standing_closing rfl, standing_closing hm, hbrb, hcanceled]
      simp [hasTaken, hactive, hne.symm]

theorem Coherent.holdings_idle (h : Coherent c none) (hm : c.operationMutex = .closing call)
    (hpoint : call.point = .drain)
    (hbrb : (c.requests r).freed = false → (c.requests r).closeBrb.pointer = false) :
    ((c.requests r).holdings (c.standing r)).openBrb +
      ((c.requests r).holdings (c.standing r)).closeBrb = 0 := by
  have hidle : ¬ (c.requests r).point.isInFlight := fun hr => nomatch (h.flight r).mp hr
  have hopen : (c.requests r).holds (c.requests r).openBrb = false := by
    have hgone := (h.course r).openBrb (by
      revert hidle
      cases (c.requests r).point <;> simp)
    rcases hgone with hgone | hgone <;> simp [hgone]
  have hclose : (c.requests r).holds (c.requests r).closeBrb = false := by
    cases hfreed : (c.requests r).freed with
    | false => simp [hbrb hfreed]
    | true => simp [hfreed]
  have hworker : (c.requests r).workerHoldsCloseBrb = false := by
    revert hidle
    unfold workerHoldsCloseBrb
    cases (c.requests r).point <;> simp
  rw [standing_closing hm]
  unfold holdings
  rw [hopen, hclose, hworker]
  simp [hasCloseBrb, hpoint]

theorem coherent_drain (h : Coherent c o) (hm : c.operationMutex = .closing call)
    (hpoint : call.point = .drain) (succeeded : Bool)
    (hstops : call.targetOffline → (call.waitForDrain → c.requestDrained) →
      ∀ r < c.allocated, (c.requests r).freed = false → (c.requests r).closeBrb.pointer = false) :
    Coherent (c.closeStep call succeeded) o := by
  have hcall := h.call call hm
  simp only [closeStep, hpoint]
  split_ifs with hwait
  · exact h
  have hdrained : call.waitForDrain → c.requestDrained := by
    cases hdrain : c.requestDrained <;> cases hw : call.waitForDrain <;> simp [hdrain, hw] at hwait ⊢
  have ho : o = none := by
    cases hw : call.waitForDrain with
    | false => exact hcall.waits hw
    | true => exact Option.isNone_iff_eq_none.mp (h.drained.symm.trans (hdrained hw))
  subst ho
  have hv : ∀ r, c.standing r =
      { pending := c.pendingOpen = some r, active := c.activeChannel = some r
        stops := c.stops } := by
    intro r
    rw [standing_closing hm]
    simp [hasTaken, hasCloseBrb, hasCanceled, hpoint]
  unfold closeReturns
  split_ifs with hstop
  · refine ⟨h.kept, h.flight, h.drained, h.fresh, h.pending, h.openPending, h.generation, h.active,
      h.opened, h.retained, h.course, ?_, ?_, fun r => ?_⟩
    · intro call' hcall'
      cases hcall'
    · intro n hprofile
      cases hprofile
    refine (h.account r).stop (h.holdings_idle hm hpoint ?_) rfl ?_
    · by_cases hr : r < c.allocated
      · exact hstops hstop hdrained r hr
      · exact fun _ => (h.course r).fresh (h.fresh r (by omega))
    · rw [hv r]
      rfl
  · refine ⟨h.kept, h.flight, h.drained, h.fresh, h.pending, h.openPending, h.generation, h.active,
      h.opened, h.retained, h.course, ?_, h.profile, fun r => ?_⟩
    · intro call' hcall'
      cases hcall'
    have hsame : standing { c with operationMutex := .free } r = c.standing r := by
      rw [hv r]
      rfl
    rw [hsame]
    exact h.account r

end

end

end NativeLdac.DirectPdo
