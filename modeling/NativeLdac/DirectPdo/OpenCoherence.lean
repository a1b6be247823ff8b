/-
  A Bluetooth channel and its open requests agree.

  * `Coherent` relates the owner, the pointers of the channel and the requests, with the open
    that is in flight;
  * a section changes one request and who has the mutex (`Coherent.change`);
  * the indications of the stack keep coherence.
-/
import NativeLdac.DirectPdo.OpenRequestAccount

namespace NativeLdac.DirectPdo

open NldBthSignalingState NldBthSignalingContext
open NldBthAsyncOpenRequest (holdings ledger references_eq workerHolds)

/-! ## What holds a request of a channel -/

namespace CloseCall

variable (call : CloseCall) (r : Nat)

def hasTaken : Bool := call.activeRequest = some r ∧ call.point ≠ .drain

def hasCloseBrb : Bool :=
  call.activeRequest = some r ∧ call.closeBrb ∧ (call.point = .cancel ∨ call.point = .closeChannel)

def hasCanceled : Bool := call.pendingRequest = some r ∧ call.point = .cancel

end CloseCall

namespace NldBthSignalingContext

def standing (c : NldBthSignalingContext) (r : Nat) : Standing where
  pending := c.pendingOpen = some r
  active := c.activeChannel = some r
  taken := c.operationMutex.call.any (·.hasTaken r)
  closeBrb := c.operationMutex.call.any (·.hasCloseBrb r)
  canceled := c.operationMutex.call.any (·.hasCanceled r)
  stops := c.stops

@[simp] theorem stops_standing (c : NldBthSignalingContext) (r : Nat) :
    (c.standing r).stops = c.stops := rfl

end NldBthSignalingContext

/-! ## Coherence -/

/-- What the point of a request says of its BRBs and of the locals of its worker. -/
structure NldBthAsyncOpenRequest.OnCourse (q : NldBthAsyncOpenRequest) : Prop where
  openBrb : q.point.holdsOpenBrb = false → q.openBrb.pointer = false ∨ q.freed
  closes : q.workerHoldsCloseBrb →
    q.worker.action = .submitClose ∧ q.worker.channelHandle ∧ q.worker.retainRequest = false
  settles : q.point = .settle → q.worker.retainRequest = false
  fresh : q.point = .unborn → q.closeBrb.pointer = false

/-- A close that has the mutex, while an open is in flight or none is. -/
structure CloseCall.Coherent (call : CloseCall) (c : NldBthSignalingContext) (o : Option Nat) :
    Prop where
  waits : call.waitForDrain = false → o = none
  takes : call.activeRequest ≠ none ∨ call.action = .submitClose → call.waitForDrain = false
  closes : call.action = .submitClose → c.activeChannel = none
  clears : call.point ≠ .clearOpenBrb

/-- The owner, the pointers of the channel and its requests agree, with `o` the open that is in
    flight. -/
structure Coherent (c : NldBthSignalingContext) (o : Option Nat) : Prop where
  kept : Kept c.owner
  flight : ∀ r, (c.requests r).point.isInFlight ↔ o = some r
  drained : c.requestDrained = o.isNone
  fresh : ∀ r, c.allocated ≤ r → (c.requests r).point = .unborn
  pending : ∀ r, c.pendingOpen = some r ↔ (c.requests r).point = .sent
  openPending : c.owner.state = opening ↔ c.pendingOpen ≠ none
  generation : ∀ r, c.pendingOpen = some r → (c.requests r).generation = c.owner.generation
  active : ∀ r, c.activeChannel = some r →
    c.owner.state = channelOpen ∧ c.channelHandle ∨ c.owner.state = faulted ∧ ¬ c.channelHandle
  opened : c.owner.state = channelOpen → c.activeChannel ≠ none
  retained : ∀ r, o = some r →
    c.activeChannel = if (c.requests r).worker.retainRequest then some r else none
  course : ∀ r, (c.requests r).OnCourse
  call : ∀ call, c.operationMutex = .closing call → call.Coherent c o
  profile : ∀ p, c.profile = some p → p = c.stops
  account : ∀ r, Account (c.standing r) (c.requests r)

theorem coherent_initialized : Coherent {} none where
  kept := kept_initialized
  flight _ := ⟨nofun, nofun⟩
  drained := rfl
  fresh _ _ := rfl
  pending _ := ⟨nofun, nofun⟩
  openPending := ⟨nofun, fun h => absurd rfl h⟩
  generation := nofun
  active := nofun
  opened := nofun
  retained := nofun
  course _ := ⟨fun _ => .inl rfl, nofun, nofun, fun _ => rfl⟩
  call call hcall := by cases hcall
  profile := nofun
  account _ := .unborn rfl rfl rfl rfl rfl

/-! ## What a step keeps -/

/-- A request changes, and stays where it is. -/
structure Carries (q q' : NldBthAsyncOpenRequest) : Prop where
  flight : q'.point.isInFlight = q.point.isInFlight
  sent : q'.point = .sent ↔ q.point = .sent
  unborn : q'.point = .unborn ↔ q.point = .unborn
  generation : q'.generation = q.generation
  retained : q'.worker.retainRequest = q.worker.retainRequest

section
variable {c : NldBthSignalingContext} {o : Option Nat} {q : NldBthAsyncOpenRequest}

theorem forall_request {P : Nat → NldBthAsyncOpenRequest → Prop}
    {requests : Nat → NldBthAsyncOpenRequest} {r : Nat} (hr : P r q)
    (hrest : ∀ r', r' ≠ r → P r' (requests r')) (r' : Nat) :
    P r' (Function.update requests r q r') :=
  (Function.forall_update_iff requests P).mpr ⟨hr, hrest⟩ r'

theorem Coherent.inFlight (h : Coherent c o) {r : Nat} (hr : (c.requests r).point.isInFlight) :
    o = some r :=
  (h.flight r).mp hr

theorem CloseCall.Coherent.congr {call call' : CloseCall} (h : call.Coherent c o)
    (hwait : call'.waitForDrain = call.waitForDrain)
    (hactive : call'.activeRequest = call.activeRequest) (haction : call'.action = call.action)
    (hpoint : call'.point ≠ .clearOpenBrb) : call'.Coherent c o where
  waits := by rw [hwait]; exact h.waits
  takes := by rw [hwait, hactive, haction]; exact h.takes
  closes := by rw [haction]; exact h.closes
  clears := hpoint

theorem CloseCall.Coherent.sees {call : CloseCall} (h : call.Coherent c o)
    {c' : NldBthSignalingContext} (hactive : c'.activeChannel = c.activeChannel) :
    call.Coherent c' o :=
  ⟨h.waits, h.takes, by rw [hactive]; exact h.closes, h.clears⟩

theorem Coherent.change (h : Coherent c o) {r : Nat}
    {m : MutexHolder} (hcarries : Carries (c.requests r) q) (hcourse : q.OnCourse)
    (hcall : ∀ call, m = .closing call → call.Coherent c o)
    (haccount : Account (standing { c with operationMutex := m } r) q)
    (hrest : ∀ r', r' ≠ r → standing { c with operationMutex := m } r' = c.standing r') :
    Coherent { c.setRequest r q with operationMutex := m } o where
  kept := h.kept
  flight := forall_request (P := fun r q => q.point.isInFlight ↔ o = some r)
    (by rw [hcarries.flight]; exact h.flight r) fun r' _ => h.flight r'
  drained := h.drained
  fresh := forall_request (P := fun r q => c.allocated ≤ r → q.point = .unborn)
    (by rw [hcarries.unborn]; exact h.fresh r) fun r' _ => h.fresh r'
  pending := forall_request (P := fun r q => c.pendingOpen = some r ↔ q.point = .sent)
    (by rw [hcarries.sent]; exact h.pending r) fun r' _ => h.pending r'
  openPending := h.openPending
  generation := forall_request
    (P := fun r q => c.pendingOpen = some r → q.generation = c.owner.generation)
    (by rw [hcarries.generation]; exact h.generation r) fun r' _ => h.generation r'
  active := h.active
  opened := h.opened
  retained := forall_request
    (P := fun r q => o = some r →
      c.activeChannel = if q.worker.retainRequest then some r else none)
    (by rw [hcarries.retained]; exact h.retained r) fun r' _ => h.retained r'
  course := forall_request (P := fun _ q => q.OnCourse) hcourse fun r' _ => h.course r'
  call call hm := (hcall call hm).sees rfl
  profile := h.profile
  account := forall_request (P := fun r q => Account (standing { c with operationMutex := m } r) q)
    haccount fun r' hne => by rw [hrest r' hne]; exact h.account r'

theorem Coherent.setRequest (h : Coherent c o) {r : Nat} (hcarries : Carries (c.requests r) q)
    (hcourse : q.OnCourse) (haccount : Account (c.standing r) q) : Coherent (c.setRequest r q) o :=
  h.change hcarries hcourse h.call haccount fun _ _ => rfl

theorem Coherent.closeGoesOn (h : Coherent c o) {call : CloseCall} (hcall : call.Coherent c o)
    (hrest : ∀ r, (c.closeGoesOn call).standing r = c.standing r) :
    Coherent (c.closeGoesOn call) o where
  kept := h.kept
  flight := h.flight
  drained := h.drained
  fresh := h.fresh
  pending := h.pending
  openPending := h.openPending
  generation := h.generation
  active := h.active
  opened := h.opened
  retained := h.retained
  course := h.course
  call call' hm := by
    cases hm
    exact hcall.sees rfl
  profile := h.profile
  account r := by
    rw [hrest r]
    exact h.account r

theorem Coherent.closeCompleted (h : Coherent c o) (hactive : c.activeChannel = none)
    (succeeded : Bool) :
    Coherent { c with owner := c.owner.onCloseComplete succeeded }.clearChannel o := by
  have hstate := onCloseComplete_cases (s := c.owner) succeeded
  have hgeneration : (c.owner.onCloseComplete succeeded).generation = c.owner.generation := by
    unfold NldBthSignalingOwner.onCloseComplete NldBthSignalingOwner.resetRequestFlags
    split_ifs <;> rfl
  refine ⟨kept_step h.kept (.closeComplete succeeded), h.flight, h.drained, h.fresh, h.pending,
    ?_, ?_, ?_, ?_, ?_, h.course, ?_, h.profile, h.account⟩
  · obtain hsame | ⟨hclosing, hends⟩ := hstate
    · show (c.owner.onCloseComplete succeeded).state = .opening ↔ _
      rw [hsame]
      exact h.openPending
    · refine ⟨fun hopening => absurd hopening (ends_ne hends).1, fun hpending => ?_⟩
      rw [h.openPending.mpr hpending] at hclosing
      exact absurd hclosing nofun
  · intro r hr
    exact (h.generation r hr).trans hgeneration.symm
  · intro r hr
    exact absurd (hactive.symm.trans hr) nofun
  · intro hopen
    obtain hsame | ⟨-, hends⟩ := hstate
    · exact h.opened ((congrArg (·.state) hsame).symm.trans hopen)
    · exact absurd hopen (ends_ne hends).2
  · exact h.retained
  · exact fun call hm => (h.call call hm).sees rfl

/-! ## What points to a request -/

variable {r : Nat}

theorem Coherent.base_pos (h : Coherent c o) (hpoint : (c.requests r).point.holdsRequest) :
    0 < ((c.requests r).holdings (c.standing r)).base := by
  have hflight : o = some r := by
    refine h.inFlight ?_
    revert hpoint
    cases (c.requests r).point <;> exact fun hpoint => by first | rfl | exact absurd hpoint nofun
  have hretained := h.retained r hflight
  unfold holdings workerHolds standing
  dsimp only
  cases hretain : (c.requests r).worker.retainRequest with
  | true =>
    rw [hretain, if_pos rfl] at hretained
    rw [hretained, decide_eq_true rfl, Bool.toNat_true]
    omega
  | false =>
    rw [hpoint, Bool.not_false, Bool.and_true, Bool.toNat_true]
    omega

theorem Coherent.freed_eq_false (h : Coherent c o) (hpoint : (c.requests r).point.holdsRequest) :
    (c.requests r).freed = false := by
  have hbase := h.base_pos hpoint
  refine (h.account r).freed_eq_false ?_
  rw [references_eq]
  omega

theorem Coherent.not_freed (h : Coherent c o)
    (hv : (c.standing r).pending ∨ (c.standing r).active ∨ (c.standing r).taken) :
    (c.requests r).freed = false := by
  refine (h.account r).freed_eq_false ?_
  rw [references_eq]
  unfold holdings
  dsimp only
  rcases hv with hv | hv | hv <;> rw [hv, Bool.toNat_true] <;> omega

theorem Coherent.born (h : Coherent c o)
    (hv : (c.standing r).pending ∨ (c.standing r).active ∨ (c.standing r).taken) :
    (c.requests r).point ≠ .unborn := by
  intro hunborn
  have hbase := (h.account r).base
  simp only [holdings, hunborn, ne_eq, not_true_eq_false, decide_false,
    Bool.toNat_false] at hbase
  rcases hv with hv | hv | hv <;> rw [hv, Bool.toNat_true] at hbase <;> omega

theorem Coherent.workerPasses (h : Coherent c o) (hcarries : Carries (c.requests r) q)
    (hledger : q.ledger = (c.requests r).ledger)
    (hholdings : q.holdings (c.standing r) = (c.requests r).holdings (c.standing r))
    (hcourse : q.OnCourse) : Coherent (c.setRequest r q) o :=
  h.setRequest hcarries hcourse ((h.account r).pass hledger hholdings)

/-! ## Indications -/

theorem Coherent.isIndicated (h : c.isIndicated r) :
    (c.requests r).point ≠ .unborn ∧ (c.requests r).freed = false := by
  simpa [NldBthSignalingContext.isIndicated] using h

theorem coherent_addReference (h : Coherent c o) (hr : c.isIndicated r)
    (hcount : (c.requests r).referenceCount ≠ 0xFFFFFFFF) :
    Coherent (c.setRequest r { (c.requests r).addReference with
      stackReferences := (c.requests r).stackReferences + 1 }) o := by
  have hcourse := h.course r
  refine h.setRequest ⟨rfl, Iff.rfl, Iff.rfl, rfl, rfl⟩
    ⟨hcourse.openBrb, hcourse.closes, hcourse.settles, hcourse.fresh⟩
    ((h.account r).addReference (Coherent.isIndicated hr).2 hcount rfl rfl ?_)
  dsimp only
  omega

theorem coherent_releaseReference (h : Coherent c o) (hr : 0 < (c.requests r).stackReferences) :
    Coherent (c.setRequest r { (c.requests r).release c.stops with
      stackReferences := (c.requests r).stackReferences - 1 }) o := by
  have hcourse := h.course r
  have hheld : (c.requests r).ledger.references ((c.requests r).holdings (c.standing r)) ≠ 0 := by
    rw [references_eq]
    omega
  have hfreed := (h.account r).freed_eq_false hheld
  refine h.setRequest ?_ ⟨fun hpoint => .inl ?_, ?_, ?_, ?_⟩
    ((h.account r).release (fun hpoint => ?_) ?_ ?_ ?_ ?_)
  · exact ⟨by simp, by simp, by simp, by simp, by simp⟩
  · have hpointer := (hcourse.openBrb (by simpa using hpoint)).resolve_right (by simp [hfreed])
    simpa using hpointer
  · simpa using hcourse.closes
  · simpa using hcourse.settles
  · simpa using hcourse.fresh
  · have hbase := h.base_pos (r := r) (by rw [hpoint]; rfl)
    rw [references_eq]
    omega
  · rfl
  · rfl
  · simp [holdings]
  · simp [holdings, Ledger.references, ledger]
    omega

theorem coherent_disconnectIndicated (h : Coherent c o) :
    Coherent (c.setRequest r { c.requests r with remoteDisconnected := true }) o :=
  h.setRequest ⟨rfl, Iff.rfl, Iff.rfl, rfl, rfl⟩
    ⟨(h.course r).openBrb, (h.course r).closes, (h.course r).settles, (h.course r).fresh⟩ ((h.account r).pass rfl rfl)

theorem coherent_remoteDisconnect (h : Coherent c o) : Coherent (c.remoteDisconnect r).2 o := by
  unfold remoteDisconnect
  dsimp only
  split_ifs with haccepted
  · obtain ⟨hactive, haccepted⟩ := haccepted
    obtain ⟨hopen, hfaulted⟩ := onRemoteDisconnect_accepted haccepted
    have hpending : c.pendingOpen = none := by
      by_contra hne
      rw [h.openPending.mpr hne] at hopen
      cases hopen
    refine ⟨kept_step h.kept (.remoteDisconnect _), h.flight, h.drained, h.fresh, h.pending, ?_, ?_,
      fun r' _ => .inr ⟨hfaulted, nofun⟩, ?_, h.retained, h.course, ?_, h.profile, h.account⟩
    · refine ⟨fun hopening => ?_, fun hne => absurd hpending hne⟩
      exact absurd (hfaulted.symm.trans hopening) nofun
    · exact fun r' hr' => absurd (hpending.symm.trans hr') nofun
    · exact fun hopen => absurd (hfaulted.symm.trans hopen) nofun
    · exact fun call hm => (h.call call hm).sees rfl
  · exact h

end

end NativeLdac.DirectPdo
