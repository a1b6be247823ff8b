/-
  What becomes of a channel that the remote side has disconnected
  (`direct-pdo/src/nativeldac_bth_signaling.c`).

  * `ChannelMoves` says what a step of a channel does with its pointers to the requests;
  * a channel that is `Lost` stays the active one until a close takes it, and once that close
    has returned it is `Gone` for good.
-/
import NativeLdac.DirectPdo.OpenCoherence

namespace NativeLdac.DirectPdo

open NldBthSignalingState NldBthSignalingContext

/-! ## What a step does -/

/-- The open of a request has been completed. -/
def OpenPoint.isPast : OpenPoint → Bool
  | unborn | sent => false
  | freeOpenBrb | clearOpenBrb | notify | closeChannel | settle | release | signal | done => true

structure NldBthAsyncOpenRequest.GoesOn (q q' : NldBthAsyncOpenRequest) : Prop where
  past : q.point.isPast → q'.point.isPast
  sent : q'.point = .sent → q.point = .sent

/-- A close has taken the channel of a request, and has not returned yet. -/
def NldBthSignalingContext.Closing (c : NldBthSignalingContext) (r : Nat) : Prop :=
  ∃ call, c.operationMutex = .closing call ∧ call.activeRequest = some r

/-- What a step does with the requests and with the pointers to them. -/
structure ChannelMoves (c c' : NldBthSignalingContext) : Prop where
  allocated : c.allocated ≤ c'.allocated
  requests : ∀ r, r < c.allocated → (c.requests r).GoesOn (c'.requests r)
  sent : ∀ r, (c'.requests r).point = .sent → (c.requests r).point = .sent ∨ r < c'.allocated
  active : ∀ r, c'.activeChannel = some r →
    c.activeChannel = some r ∨ (c.requests r).point = .sent ∧ (c'.requests r).point.isPast
  closing : ∀ r, c'.Closing r →
    c.Closing r ∨ c.activeChannel = some r ∧ c'.activeChannel = none

section
variable {c c' : NldBthSignalingContext} {r : Nat} {c₁ : NldBthSignalingContext}
variable {call : CloseCall} {owner : NldBthSignalingOwner} {q : NldBthAsyncOpenRequest}

theorem NldBthAsyncOpenRequest.goesOn_of_point {q q' : NldBthAsyncOpenRequest}
    (h : q'.point = q.point) : q.GoesOn q' :=
  ⟨fun hpast => h ▸ hpast, fun hsent => h ▸ hsent⟩

theorem NldBthAsyncOpenRequest.goesOn_of_past {q q' : NldBthAsyncOpenRequest}
    (h : q'.point.isPast) : q.GoesOn q' :=
  ⟨fun _ => h, fun hsent => by rw [hsent] at h; cases h⟩

open NldBthAsyncOpenRequest (goesOn_of_past goesOn_of_point)

theorem moves_of_goesOn (hallocated : c'.allocated = c.allocated)
    (hrequests : ∀ r, (c.requests r).GoesOn (c'.requests r))
    (hactive : c'.activeChannel = c.activeChannel)
    (hmutex : c'.operationMutex = c.operationMutex) : ChannelMoves c c' where
  allocated := hallocated.ge
  requests r _ := hrequests r
  sent r hsent := .inl ((hrequests r).sent hsent)
  active r hr := .inl (hactive ▸ hr)
  closing r hclosing := .inl (by rwa [Closing, ← hmutex])

theorem goesOn_setRequest (h : (c.requests r).GoesOn q) (r' : Nat) :
    (c.requests r').GoesOn ((c.setRequest r q).requests r') :=
  forall_request (P := fun r' q => (c.requests r').GoesOn q) h
    (fun _ _ => goesOn_of_point rfl) r'

theorem goesOn_takeCloseBrb (c : NldBthSignalingContext) (r r' : Nat) :
    (c.requests r').GoesOn ((c.setRequest r (c.requests r).takeCloseBrb).requests r') := by
  refine goesOn_setRequest ?_ r'
  exact goesOn_of_point rfl

theorem moves_refl (c : NldBthSignalingContext) : ChannelMoves c c :=
  moves_of_goesOn rfl (fun _ => goesOn_of_point rfl) rfl rfl

theorem moves_setRequest (h : (c.requests r).GoesOn q) :
    ChannelMoves c (c.setRequest r q) :=
  moves_of_goesOn rfl (goesOn_setRequest h) rfl rfl

/-! ### Open -/

theorem moves_allocates (hallocated : c'.allocated = c.allocated + 1)
    (hrequests : c'.requests = Function.update c.requests c.allocated q)
    (hactive : c'.activeChannel = c.activeChannel) (hmutex : c'.operationMutex = c.operationMutex) :
    ChannelMoves c c' where
  allocated := by omega
  requests r hr := by
    rw [hrequests, Function.update_of_ne (by omega)]
    exact goesOn_of_point rfl
  sent r hsent := by
    rw [hrequests] at hsent
    by_cases hr : r = c.allocated
    · exact .inr (by omega)
    · rw [Function.update_of_ne hr] at hsent
      exact .inl hsent
  active r hr := .inl (hactive ▸ hr)
  closing r hclosing := .inl (by rwa [Closing, ← hmutex])

theorem moves_openChannel (c : NldBthSignalingContext) (ready : Bool) (a : OpenAllocations) :
    ChannelMoves c (c.openChannel ready a) := by
  unfold openChannel openRefused
  dsimp only
  split
  · exact moves_refl c
  split
  · exact moves_refl c
  split
  · exact moves_allocates rfl rfl rfl rfl
  split
  · exact moves_allocates rfl rfl rfl rfl
  · exact moves_allocates rfl rfl rfl rfl

theorem moves_goOn (hsent : (c.requests r).point = .sent)
    (hallocated : c₁.allocated = c.allocated)
    (hrequests : ∀ r, (c.requests r).GoesOn (c₁.requests r))
    (hactive : ∀ r', c₁.activeChannel = some r' → c.activeChannel = some r' ∨ r' = r)
    (hmutex : c₁.operationMutex = c.operationMutex) (worker : OpenWorker) :
    ChannelMoves c (c₁.goOn r worker) := by
  have hself : ((c₁.goOn r worker).requests r).point = .freeOpenBrb := by
    simp [goOn, setRequest]
  have hgoesOn : ∀ r', (c.requests r').GoesOn ((c₁.goOn r worker).requests r') := by
    intro r'
    by_cases hr : r' = r
    · subst hr
      exact goesOn_of_past (by rw [hself]; rfl)
    · simpa [goOn, setRequest, hr] using hrequests r'
  refine ⟨hallocated.ge, fun r' _ => hgoesOn r', fun r' hsent' => .inl ((hgoesOn r').sent hsent'),
    fun r' hr' => ?_, fun r' hclosing => .inl (by rwa [Closing, ← hmutex])⟩
  refine (hactive r' hr').imp_right fun hr => ?_
  subst hr
  exact ⟨hsent, by rw [hself]; rfl⟩

theorem moves_openCompleted (hsent : (c.requests r).point = .sent) (results : OpenResults) :
    ChannelMoves c (c.openCompleted r results) := by
  have hsame : ∀ r, (c.requests r).GoesOn (c.requests r) := fun _ =>
    goesOn_of_point rfl
  have htaken := goesOn_takeCloseBrb c r
  unfold openCompleted
  dsimp only
  split
  · refine moves_goOn hsent ?_ ?_ ?_ ?_ _
    exacts [rfl, hsame, fun _ => .inl, rfl]
  split
  · split
    · refine moves_goOn hsent ?_ ?_ ?_ ?_ _
      exacts [rfl, hsame, fun _ => .inl, rfl]
    · unfold acquired
      dsimp only
      split
      · refine moves_goOn hsent ?_ ?_ ?_ ?_ _
        exacts [rfl, htaken, nofun, rfl]
      · refine moves_goOn hsent ?_ ?_ ?_ ?_ _
        exacts [rfl, hsame, fun _ hr => .inr (Option.some.inj hr).symm, rfl]
  split
  · refine moves_goOn hsent ?_ ?_ ?_ ?_ _
    exacts [rfl, htaken, fun _ => .inl, rfl]
  · refine moves_goOn hsent ?_ ?_ ?_ ?_ _
    exacts [rfl, hsame, fun _ => .inl, rfl]

theorem moves_openWorker (c : NldBthSignalingContext) (r : Nat) (succeeded : Bool) :
    ChannelMoves c (c.openWorker r succeeded) := by
  have hpast : ∀ (c₁ : NldBthSignalingContext) (q : NldBthAsyncOpenRequest),
      c₁.allocated = c.allocated → c₁.requests = c.requests →
      c₁.activeChannel = c.activeChannel → c₁.operationMutex = c.operationMutex →
      q.point.isPast → ChannelMoves c (c₁.setRequest r q) := by
    intro c₁ q hallocated hrequests hactive hmutex hq
    refine moves_of_goesOn hallocated (fun r' => ?_) hactive hmutex
    rw [← hrequests]
    exact goesOn_setRequest (goesOn_of_past hq) r'
  unfold openWorker workerCloses
  dsimp only
  split
  · split <;> exact hpast _ _ rfl rfl rfl rfl rfl
  · exact hpast _ _ rfl rfl rfl rfl rfl
  · exact hpast _ _ rfl rfl rfl rfl rfl
  · split <;> exact hpast _ _ rfl rfl rfl rfl rfl
  · exact hpast _ _ rfl rfl rfl rfl rfl
  · split <;> exact hpast _ _ rfl rfl rfl rfl rfl
  · exact hpast _ _ rfl rfl rfl rfl rfl
  · exact moves_refl c
  · exact moves_refl c
  · exact moves_refl c

/-! ### Close -/

theorem moves_closes (hallocated : c₁.allocated = c.allocated)
    (hrequests : ∀ r, (c.requests r).GoesOn (c₁.requests r))
    (hactive : ∀ r, c₁.activeChannel = some r → c.activeChannel = some r) (hmutex : c₁.operationMutex = .closing call)
    (htaken : ∀ r, call.activeRequest = some r →
      c.activeChannel = some r ∧ c₁.activeChannel = none) : ChannelMoves c c₁ := by
  refine ⟨hallocated.ge, fun r _ => hrequests r, fun r hsent => .inl ((hrequests r).sent hsent),
    fun r hr => .inl (hactive r hr), fun r hclosing => .inr ?_⟩
  obtain ⟨call', hcall, hr⟩ := hclosing
  cases hmutex.symm.trans hcall
  exact htaken r hr

theorem moves_takeActive (hallocated : c₁.allocated = c.allocated)
    (hrequests : c₁.requests = c.requests) (hactive : c₁.activeChannel = c.activeChannel)
    (hnone : call.activeRequest = none) :
    ChannelMoves c (c₁.takeActive call) := by
  have hsame : ∀ r, (c.requests r).GoesOn (c₁.requests r) := fun r =>
    goesOn_of_point (by rw [hrequests])
  unfold takeActive
  split
  · exact moves_closes hallocated hsame (fun r hr => hactive ▸ hr) rfl
      fun r hr => absurd (hnone.symm.trans hr) nofun
  · rename_i r hr
    refine moves_closes hallocated (fun r' => ?_) nofun rfl fun r' hr' => ?_
    · rw [← hrequests]
      exact goesOn_takeCloseBrb c₁ r r'
    · cases Option.some.inj hr'
      exact ⟨hactive ▸ hr, rfl⟩

theorem moves_takeDisconnected (hallocated : c₁.allocated = c.allocated)
    (hrequests : c₁.requests = c.requests) (hactive : c₁.activeChannel = c.activeChannel)
    (hnone : call.activeRequest = none) :
    ChannelMoves c (c₁.takeDisconnected call) := by
  unfold takeDisconnected
  split
  · exact moves_closes hallocated (fun r => goesOn_of_point (by rw [hrequests]))
      (fun r hr => hactive ▸ hr) rfl fun r hr => absurd (hnone.symm.trans hr) nofun
  · exact moves_takeActive hallocated hrequests hactive hnone

theorem moves_closeInternal (c : NldBthSignalingContext) (targetOffline : Bool) :
    ChannelMoves c (c.closeInternal targetOffline) := by
  unfold closeInternal
  dsimp only
  split
  · have hmoves : ChannelMoves c
        (takeActive
          { c with
            transferOwner := (c.transferOwner.requestClose false).2.finishClose.2
            owner := (c.owner.requestClose targetOffline).2 }
          { targetOffline
            action := (c.owner.requestClose targetOffline).1
            waitForDrain := ¬ c.requestDrained
            channelHandle := c.channelHandle }) := by
      refine moves_takeActive ?_ ?_ ?_ ?_ <;> rfl
    exact ⟨hmoves.allocated, hmoves.requests, hmoves.sent, hmoves.active, hmoves.closing⟩
  · split
    · exact moves_closes rfl (goesOn_setRequest (goesOn_of_point rfl))
        (fun _ => id) rfl nofun
    · refine moves_takeDisconnected ?_ ?_ ?_ ?_ <;> rfl
  · refine moves_takeDisconnected ?_ ?_ ?_ ?_ <;> rfl
  · refine moves_takeDisconnected ?_ ?_ ?_ ?_ <;> rfl

theorem goesOn_updateRequest (c : NldBthSignalingContext) (o : Option Nat)
    {f : NldBthAsyncOpenRequest → NldBthAsyncOpenRequest} (hf : ∀ q, (f q).point = q.point)
    (r : Nat) : (c.requests r).GoesOn ((c.updateRequest o f).requests r) := by
  cases o with
  | none => exact goesOn_of_point rfl
  | some r' =>
    refine goesOn_setRequest ?_ r
    exact goesOn_of_point (hf _)

@[simp] theorem allocated_updateRequest (c : NldBthSignalingContext) (o : Option Nat)
    (f : NldBthAsyncOpenRequest → NldBthAsyncOpenRequest) :
    (c.updateRequest o f).allocated = c.allocated := by
  cases o <;> rfl

@[simp] theorem activeChannel_updateRequest (c : NldBthSignalingContext) (o : Option Nat)
    (f : NldBthAsyncOpenRequest → NldBthAsyncOpenRequest) :
    (c.updateRequest o f).activeChannel = c.activeChannel := by
  cases o <;> rfl

theorem moves_closeGoesOn {call call' : CloseCall} (hmutex : c.operationMutex = .closing call)
    (hallocated : c₁.allocated = c.allocated)
    (hrequests : ∀ r, (c.requests r).GoesOn (c₁.requests r))
    (hactive : c₁.activeChannel = c.activeChannel)
    (htaken : call'.activeRequest = call.activeRequest) :
    ChannelMoves c (c₁.closeGoesOn call') := by
  refine ⟨hallocated.ge, fun r _ => hrequests r, fun r hsent => .inl ((hrequests r).sent hsent),
    fun r hr => .inl (hactive ▸ hr), fun r hclosing => .inl ?_⟩
  obtain ⟨_, hcall, hr⟩ := hclosing
  cases hcall
  exact ⟨call, hmutex, htaken.symm.trans hr⟩

theorem moves_closeStep (hmutex : c.operationMutex = .closing call) (succeeded : Bool) :
    ChannelMoves c (c.closeStep call succeeded) := by
  have hsame : ∀ r, (c.requests r).GoesOn (c.requests r) := fun _ =>
    goesOn_of_point rfl
  have hupdates : ∀ (o : Option Nat) (f : NldBthAsyncOpenRequest → NldBthAsyncOpenRequest)
      (call' : CloseCall), (∀ q, (f q).point = q.point) →
      call'.activeRequest = call.activeRequest →
      ChannelMoves c ((c.updateRequest o f).closeGoesOn call') := fun o f call' hf htaken =>
    moves_closeGoesOn hmutex (allocated_updateRequest c o f) (goesOn_updateRequest c o hf)
      (activeChannel_updateRequest c o f) htaken
  unfold closeStep
  split
  · split
    · exact hupdates _ _ _ (fun q => q.point_release _) rfl
    · exact moves_refl c
  · dsimp only
    split
    · exact hupdates _ _ _ (fun _ => rfl) rfl
    · exact moves_closeGoesOn hmutex rfl hsame rfl rfl
  · split
    · exact hupdates _ _ _ (fun _ => rfl) rfl
    · exact moves_closeGoesOn hmutex rfl hsame rfl rfl
  · exact hupdates _ _ _ (fun _ => rfl) rfl
  · split
    · refine moves_closeGoesOn hmutex ?_ ?_ ?_ ?_
      exacts [rfl, hsame, rfl, rfl]
    · exact moves_closeGoesOn hmutex rfl hsame rfl rfl
  · exact hupdates _ _ _ (fun q => q.point_release _) rfl
  · split
    · exact moves_refl c
    · have hreturns : (c.closeReturns call).operationMutex = .free := by
        unfold closeReturns
        split_ifs <;> rfl
      have hkept : (c.closeReturns call).allocated = c.allocated ∧
          (c.closeReturns call).requests = c.requests ∧
          (c.closeReturns call).activeChannel = c.activeChannel := by
        unfold closeReturns
        split_ifs <;> exact ⟨rfl, rfl, rfl⟩
      obtain ⟨hallocated, hrequests, hactive⟩ := hkept
      refine ⟨hallocated.ge, fun r _ => ?_, fun r hsent => .inl ?_, fun r hr => .inl ?_,
        fun r hclosing => ?_⟩
      · rw [hrequests]
        exact hsame r
      · rwa [← hrequests]
      · rwa [← hactive]
      · obtain ⟨_, hcall, -⟩ := hclosing
        cases hreturns.symm.trans hcall

/-! ### The step -/

theorem next_closeStep_of_closing (hmutex : c.operationMutex = .closing call) (succeeded : Bool) :
    signalingChannel.next c (.closeStep succeeded) = c.closeStep call succeeded := by
  simp only [Reducer.next, signalingChannel, step, hmutex]

theorem next_closeStep (c : NldBthSignalingContext) (succeeded : Bool) :
    (∃ call, c.operationMutex = .closing call ∧
      signalingChannel.next c (.closeStep succeeded) = c.closeStep call succeeded) ∨
    signalingChannel.next c (.closeStep succeeded) = c := by
  cases hmutex : c.operationMutex with
  | closing call => exact .inl ⟨call, rfl, next_closeStep_of_closing hmutex succeeded⟩
  | free => exact .inr (by simp only [Reducer.next, signalingChannel, step, hmutex])
  | transferring _ _ _ => exact .inr (by simp only [Reducer.next, signalingChannel, step, hmutex])

theorem next_completeTransfer (c : NldBthSignalingContext) :
    (∃ direction channelGeneration requestGeneration,
      c.operationMutex = .transferring direction channelGeneration requestGeneration ∧
      signalingChannel.next c .completeTransfer =
        c.completeTransfer direction channelGeneration requestGeneration) ∨
    signalingChannel.next c .completeTransfer = c := by
  cases hmutex : c.operationMutex with
  | transferring direction channelGeneration requestGeneration =>
    refine .inl ⟨direction, channelGeneration, requestGeneration, rfl, ?_⟩
    simp only [Reducer.next, signalingChannel, step, hmutex]
  | free => exact .inr (by simp only [Reducer.next, signalingChannel, step, hmutex])
  | closing _ => exact .inr (by simp only [Reducer.next, signalingChannel, step, hmutex])

theorem channel_moves (c : NldBthSignalingContext) (op : SignalingChannelOp) :
    ChannelMoves c (signalingChannel.next c op) := by
  have hsame : ∀ r, (c.requests r).GoesOn (c.requests r) := fun _ =>
    goesOn_of_point rfl
  have hguard : ∀ (p : Prop) [Decidable p] (c' : NldBthSignalingContext),
      (p → ChannelMoves c c') → ChannelMoves c (if p then c' else c) := by
    intro p _ c' hmoves
    split
    · exact hmoves ‹p›
    · exact moves_refl c
  have hrequest : ∀ r q, q.point = (c.requests r).point → ChannelMoves c (c.setRequest r q) :=
    fun _ _ hpoint => moves_setRequest (goesOn_of_point hpoint)
  cases op with
  | start ready =>
    refine hguard _ _ fun _ => ?_
    unfold channelStart
    split
    · exact moves_refl c
    · exact moves_of_goesOn rfl hsame rfl rfl
  | setDisconnectCallback callback => exact moves_of_goesOn rfl hsame rfl rfl
  | openChannel ready a => exact hguard _ _ fun _ => moves_openChannel c ready a
  | openCompleted r results => exact hguard _ _ fun hsent => moves_openCompleted hsent results
  | openWorker r succeeded => exact moves_openWorker c r succeeded
  | close targetOffline => exact hguard _ _ fun _ => moves_closeInternal c targetOffline
  | closeStep succeeded =>
    obtain ⟨call, hmutex, hnext⟩ | hnext := next_closeStep c succeeded
    · rw [hnext]
      exact moves_closeStep hmutex succeeded
    · rw [hnext]
      exact moves_refl c
  | addReference r => exact hguard _ _ fun _ => hrequest r _ rfl
  | releaseReference r =>
    exact hguard _ _ fun _ => hrequest r _ ((c.requests r).point_release c.stops)
  | disconnectIndicated r => exact hguard _ _ fun _ => hrequest r _ rfl
  | remoteDisconnect r =>
    show ChannelMoves c (Prod.snd (if _ then _ else _))
    unfold remoteDisconnect
    dsimp only
    split
    · split
      · exact moves_of_goesOn rfl hsame rfl rfl
      · exact moves_refl c
    · exact moves_refl c
  | beginTransfer direction fits =>
    refine hguard _ _ fun hfree => ?_
    unfold beginTransfer
    dsimp only
    generalize (if direction = .transferRead then c.incomingMtu else c.outgoingMtu) = mtu
    split
    · exact moves_refl c
    split
    · exact moves_of_goesOn rfl hsame rfl rfl
    split
    · exact moves_of_goesOn rfl hsame rfl rfl
    · refine ⟨Nat.le_refl _, fun r _ => hsame r, fun _ => .inl, fun _ => .inl, fun r hclosing => ?_⟩
      obtain ⟨_, hcall, -⟩ := hclosing
      cases hcall
  | completeTransfer =>
    obtain ⟨direction, channelGeneration, requestGeneration, -, hnext⟩ | hnext :=
      next_completeTransfer c
    · rw [hnext]
      refine ⟨Nat.le_refl _, fun r _ => hsame r, fun _ => .inl, fun _ => .inl, fun r hclosing => ?_⟩
      obtain ⟨_, hcall, -⟩ := hclosing
      cases hcall
    · rw [hnext]
      exact moves_refl c

/-! ## What becomes of a channel -/

/-- The open of a request has been completed. -/
structure Completed (c : NldBthSignalingContext) (r : Nat) : Prop where
  allocated : r < c.allocated
  past : (c.requests r).point.isPast

theorem completed_step (h : Completed c r) (op : SignalingChannelOp) :
    Completed (signalingChannel.next c op) r :=
  ⟨Nat.lt_of_lt_of_le h.allocated (channel_moves c op).allocated,
    ((channel_moves c op).requests r h.allocated).past h.past⟩

theorem Completed.not_sent (h : Completed c r) : (c.requests r).point ≠ .sent := fun hsent => by
  have hpast := h.past
  rw [hsent] at hpast
  cases hpast

/-- What every step keeps of the pointers to the requests. -/
structure Pointed (c : NldBthSignalingContext) : Prop where
  sent : ∀ r, (c.requests r).point = .sent → r < c.allocated
  active : ∀ r, c.activeChannel = some r → Completed c r
  closing : ∀ r, c.Closing r → Completed c r ∧ c.activeChannel ≠ some r

theorem pointed_initialized : Pointed {} where
  sent := nofun
  active := nofun
  closing := by
    rintro r ⟨call, hcall, -⟩
    cases hcall

theorem pointed_step (h : Pointed c) (op : SignalingChannelOp) :
    Pointed (signalingChannel.next c op) := by
  have hmoves := channel_moves c op
  refine ⟨fun r hsent => ?_, fun r hr => ?_, fun r hclosing => ?_⟩
  · exact (hmoves.sent r hsent).elim
      (fun hsent => Nat.lt_of_lt_of_le (h.sent r hsent) hmoves.allocated) id
  · rcases hmoves.active r hr with hactive | ⟨hsent, hpast⟩
    · exact completed_step (h.active r hactive) op
    · exact ⟨Nat.lt_of_lt_of_le (h.sent r hsent) hmoves.allocated, hpast⟩
  · rcases hmoves.closing r hclosing with hclosing | ⟨hactive, hnone⟩
    · obtain ⟨hcompleted, hother⟩ := h.closing r hclosing
      refine ⟨completed_step hcompleted op, fun hr => ?_⟩
      rcases hmoves.active r hr with hactive | ⟨hsent, -⟩
      · exact hother hactive
      · exact hcompleted.not_sent hsent
    · exact ⟨completed_step (h.active r hactive) op, by rw [hnone]; nofun⟩

/-- A channel that the remote side has disconnected, and that no close has taken yet. -/
structure Lost (c : NldBthSignalingContext) (r : Nat) : Prop where
  active : c.activeChannel = some r
  faulted : c.owner.state = faulted
  channelHandle : c.channelHandle = false

/-- A channel that a close has taken, and returned. -/
structure Gone (c : NldBthSignalingContext) (r : Nat) : Prop where
  completed : Completed c r
  active : c.activeChannel ≠ some r
  closing : ¬ c.Closing r

theorem gone_step (h : Gone c r) (op : SignalingChannelOp) :
    Gone (signalingChannel.next c op) r := by
  have hmoves := channel_moves c op
  refine ⟨completed_step h.completed op, fun hr => ?_, fun hclosing => ?_⟩
  · rcases hmoves.active r hr with hactive | ⟨hsent, -⟩
    · exact h.active hactive
    · exact h.completed.not_sent hsent
  · rcases hmoves.closing r hclosing with hclosing | ⟨hactive, -⟩
    · exact h.closing hclosing
    · exact h.active hactive

theorem gone_of_closed (hpointed : Pointed c) (hclosing : c.Closing r) {op : SignalingChannelOp}
    (hfree : (signalingChannel.next c op).operationMutex = .free) :
    Gone (signalingChannel.next c op) r := by
  obtain ⟨hcompleted, hother⟩ := hpointed.closing r hclosing
  refine ⟨completed_step hcompleted op, fun hr => ?_, fun hstill => ?_⟩
  · rcases (channel_moves c op).active r hr with hactive | ⟨hsent, -⟩
    · exact hother hactive
    · exact hcompleted.not_sent hsent
  · obtain ⟨call, hcall, -⟩ := hstill
    cases hfree.symm.trans hcall

/-! ### A channel that is lost -/

theorem onOpenComplete_of_faulted (h : owner.state = faulted) (generation : UInt32)
    (succeeded acquired : Bool) :
    (owner.onOpenComplete generation succeeded acquired).2 = owner := by
  unfold NldBthSignalingOwner.onOpenComplete
  rw [if_pos (.inr (.inr (by rw [h]; nofun)))]

theorem onCloseComplete_of_faulted (h : owner.state = faulted) (succeeded : Bool) :
    owner.onCloseComplete succeeded = owner :=
  if_pos (by rw [h]; nofun)

theorem requestOpen_of_faulted (h : owner.state = faulted) :
    owner.requestOpen = (.none, owner) :=
  if_pos (.inr (.inl (by rw [h]; nofun)))

theorem requestClose_of_faulted (h : owner.state = faulted) (targetOffline : Bool) :
    (owner.requestClose targetOffline).1 = .none := by
  unfold NldBthSignalingOwner.requestClose NldBthSignalingOwner.noteClose
  cases targetOffline <;> simp [h]

theorem Lost.stays (h : Lost c r) (hactive : c'.activeChannel = c.activeChannel)
    (howner : c'.owner = c.owner) (hhandle : c'.channelHandle = false) : Lost c' r :=
  ⟨hactive.trans h.active, by rw [howner, h.faulted], hhandle⟩

theorem lost_openCompleted (h : Lost c r) (r' : Nat) (results : OpenResults) :
    Lost (c.openCompleted r' results) r := by
  have howner := onOpenComplete_of_faulted h.faulted (c.requests r').generation results.succeeded
    (results.succeeded && results.channelHandle)
  have hopen : ¬ c.owner.state = channelOpen := by
    rw [h.faulted]
    nofun
  unfold openCompleted
  dsimp only
  split
  · exact h.stays rfl howner h.channelHandle
  split
  · rename_i hacquired
    rw [howner] at hacquired
    exact absurd hacquired.2 hopen
  split
  · exact h.stays rfl howner h.channelHandle
  · exact h.stays rfl howner h.channelHandle

theorem lost_openWorker (h : Lost c r) (r' : Nat) (succeeded : Bool) :
    Lost (c.openWorker r' succeeded) r := by
  have hclosed := onCloseComplete_of_faulted h.faulted (c.requests r').worker.closeSucceeded
  unfold openWorker workerCloses
  dsimp only
  split
  · split <;> exact h.stays rfl rfl h.channelHandle
  · exact h.stays rfl rfl h.channelHandle
  · exact h.stays rfl rfl h.channelHandle
  · split <;> exact h.stays rfl rfl h.channelHandle
  · exact h.stays rfl hclosed rfl
  · split <;> exact h.stays rfl rfl h.channelHandle
  · exact h.stays rfl rfl h.channelHandle
  · exact h
  · exact h
  · exact h

theorem closing_closeInternal (h : Lost c r) (targetOffline : Bool) :
    (c.closeInternal targetOffline).Closing r := by
  have hnone := requestClose_of_faulted h.faulted targetOffline
  unfold closeInternal
  dsimp only
  rw [hnone]
  dsimp only
  unfold takeDisconnected takeActive
  rw [if_neg (by simp [h.channelHandle])]
  dsimp only
  rw [h.active]
  exact ⟨_, rfl, rfl⟩

theorem lost_closeStep (h : Lost c r) (call : CloseCall) (succeeded : Bool) :
    Lost (c.closeStep call succeeded) r := by
  have hupdates : ∀ (o : Option Nat) (f : NldBthAsyncOpenRequest → NldBthAsyncOpenRequest)
      (call' : CloseCall), Lost ((c.updateRequest o f).closeGoesOn call') r := by
    intro o f call'
    cases o <;> exact h.stays rfl rfl h.channelHandle
  have hclosed := onCloseComplete_of_faulted h.faulted call.succeeded
  unfold closeStep closeReturns
  dsimp only
  split
  · split
    · exact hupdates _ _ _
    · exact h
  · split
    · exact hupdates _ _ _
    · exact h.stays rfl rfl h.channelHandle
  · split
    · exact hupdates _ _ _
    · exact h.stays rfl rfl h.channelHandle
  · exact hupdates _ _ _
  · split
    · exact h.stays rfl hclosed rfl
    · exact h.stays rfl rfl h.channelHandle
  · exact hupdates _ _ _
  · split
    · exact h
    split <;> exact h.stays rfl rfl h.channelHandle

theorem lost_step (h : Lost c r) (op : SignalingChannelOp) :
    Lost (signalingChannel.next c op) r ∨ (signalingChannel.next c op).Closing r := by
  have hguard : ∀ (p : Prop) [Decidable p] (c' : NldBthSignalingContext),
      Lost c' r → Lost (if p then c' else c) r := by
    intro p _ c' h'
    split
    · exact h'
    · exact h
  cases op with
  | start ready =>
    refine .inl (hguard _ _ ?_)
    unfold channelStart
    rw [if_pos (.inr (.inr (by rw [h.faulted]; nofun)))]
    exact h
  | setDisconnectCallback callback => exact .inl (h.stays rfl rfl h.channelHandle)
  | openChannel ready a =>
    refine .inl (hguard _ _ ?_)
    unfold openChannel openRefused
    dsimp only
    rw [requestOpen_of_faulted h.faulted]
    split
    · exact h
    split
    · exact h
    split
    · exact h.stays rfl rfl h.channelHandle
    · rw [if_pos (.inl nofun)]
      exact h.stays rfl rfl h.channelHandle
  | openCompleted r' results => exact .inl (hguard _ _ (lost_openCompleted h r' results))
  | openWorker r' succeeded => exact .inl (lost_openWorker h r' succeeded)
  | close targetOffline =>
    show Lost (if _ then _ else _) r ∨ NldBthSignalingContext.Closing (if _ then _ else _) r
    split
    · exact .inr (closing_closeInternal h targetOffline)
    · exact .inl h
  | closeStep succeeded =>
    left
    obtain ⟨call, -, hnext⟩ | hnext := next_closeStep c succeeded
    · rw [hnext]
      exact lost_closeStep h call succeeded
    · rw [hnext]
      exact h
  | addReference r' => exact .inl (hguard _ _ (h.stays rfl rfl h.channelHandle))
  | releaseReference r' => exact .inl (hguard _ _ (h.stays rfl rfl h.channelHandle))
  | disconnectIndicated r' => exact .inl (hguard _ _ (h.stays rfl rfl h.channelHandle))
  | remoteDisconnect r' =>
    left
    show Lost (Prod.snd (if _ then _ else _)) r
    unfold remoteDisconnect
    dsimp only
    split
    · split
      · rename_i haccepted
        cases h.faulted.symm.trans (onRemoteDisconnect_accepted haccepted.2).1
      · exact h
    · exact h
  | beginTransfer direction fits =>
    refine .inl (hguard _ _ ?_)
    unfold beginTransfer
    dsimp only
    generalize (if direction = .transferRead then c.incomingMtu else c.outgoingMtu) = mtu
    split
    · exact h
    split
    · exact h.stays rfl rfl h.channelHandle
    split <;> exact h.stays rfl rfl h.channelHandle
  | completeTransfer =>
    left
    obtain ⟨direction, channelGeneration, requestGeneration, -, hnext⟩ | hnext :=
      next_completeTransfer c
    · rw [hnext]
      exact h.stays rfl rfl h.channelHandle
    · rw [hnext]
      exact h

theorem lost_remoteDisconnect {call : DisconnectCall}
    (hcalls : signalingChannel.out c (.remoteDisconnect r) = some call) :
    call.request = r ∧ Lost (signalingChannel.next c (.remoteDisconnect r)) r := by
  have hout : signalingChannel.out c (.remoteDisconnect r) = Prod.fst (if c.isIndicated r ∧
      (c.requests r).remoteDisconnected then (c.indicationCalls r, (c.remoteDisconnect r).2)
    else (none, c)) := rfl
  have hnext : signalingChannel.next c (.remoteDisconnect r) = Prod.snd (if c.isIndicated r ∧
      (c.requests r).remoteDisconnected then (c.indicationCalls r, (c.remoteDisconnect r).2)
    else (none, c)) := rfl
  rw [hout] at hcalls
  rw [hnext]
  split_ifs at hcalls ⊢ with hindicated
  dsimp only at hcalls ⊢
  unfold indicationCalls remoteDisconnect at hcalls
  unfold remoteDisconnect
  dsimp only at hcalls ⊢
  by_cases haccepted : c.activeChannel = some r ∧
      (c.owner.onRemoteDisconnect (c.requests r).generation).1
  · rw [if_pos haccepted] at hcalls ⊢
    split_ifs at hcalls
    cases hcalls
    exact ⟨rfl, haccepted.1, (onRemoteDisconnect_accepted haccepted.2).2, rfl⟩
  · rw [if_neg haccepted] at hcalls
    cases hcalls

/-! ### A channel that is closed -/

theorem mutex_openCompleted (c : NldBthSignalingContext) (r : Nat) (results : OpenResults) :
    (c.openCompleted r results).operationMutex = c.operationMutex := by
  unfold openCompleted acquired
  dsimp only
  repeat (first | rfl | split)

theorem mutex_openWorker (c : NldBthSignalingContext) (r : Nat) (succeeded : Bool) :
    (c.openWorker r succeeded).operationMutex = c.operationMutex := by
  unfold openWorker workerCloses
  dsimp only
  repeat (first | rfl | split)

theorem mutex_of_closing (hmutex : c.operationMutex = .closing call) {op : SignalingChannelOp}
    (hop : ∀ succeeded, op ≠ .closeStep succeeded) :
    (signalingChannel.next c op).operationMutex = .closing call := by
  have hheld : c.operationMutex ≠ .free := by
    rw [hmutex]
    nofun
  have hguard : ∀ (p : Prop) [Decidable p] (c' : NldBthSignalingContext),
      (p → c'.operationMutex = .closing call) →
      (if p then c' else c).operationMutex = .closing call := by
    intro p _ c' h'
    split
    · exact h' ‹p›
    · exact hmutex
  cases op with
  | start _ | openChannel _ _ | close _ | beginTransfer _ _ =>
    exact hguard _ _ fun hfree => absurd hfree hheld
  | setDisconnectCallback _ => exact hmutex
  | openCompleted r results =>
    exact hguard _ _ fun _ => (mutex_openCompleted c r results).trans hmutex
  | openWorker r succeeded => exact (mutex_openWorker c r succeeded).trans hmutex
  | closeStep succeeded => exact absurd rfl (hop succeeded)
  | addReference _ | releaseReference _ | disconnectIndicated _ => exact hguard _ _ fun _ => hmutex
  | remoteDisconnect r =>
    show NldBthSignalingContext.operationMutex (Prod.snd (if _ then _ else _)) = _
    unfold remoteDisconnect
    dsimp only
    repeat (first | exact hmutex | split)
  | completeTransfer =>
    obtain ⟨_, _, _, htransferring, -⟩ | hnext := next_completeTransfer c
    · cases hmutex.symm.trans htransferring
    · rw [hnext]
      exact hmutex

theorem mutex_closeStep (hmutex : c.operationMutex = .closing call) (succeeded : Bool) :
    (∃ call', (c.closeStep call succeeded).operationMutex = .closing call' ∧
      call'.activeRequest = call.activeRequest) ∨
    (c.closeStep call succeeded).operationMutex = .free := by
  unfold closeStep closeReturns
  dsimp only
  repeat (first
    | exact .inl ⟨_, rfl, rfl⟩
    | exact .inl ⟨call, hmutex, rfl⟩
    | exact .inr rfl
    | split)

theorem closing_step (h : c.Closing r) (op : SignalingChannelOp) :
    (signalingChannel.next c op).Closing r ∨
      (∃ succeeded, op = .closeStep succeeded) ∧
        (signalingChannel.next c op).operationMutex = .free := by
  obtain ⟨call, hmutex, hr⟩ := h
  by_cases hop : ∃ succeeded, op = .closeStep succeeded
  · obtain ⟨succeeded, rfl⟩ := hop
    rw [next_closeStep_of_closing hmutex]
    rcases mutex_closeStep hmutex succeeded with ⟨call', hcall, hsame⟩ | hfree
    · exact .inl ⟨call', hcall, hsame.trans hr⟩
    · exact .inr ⟨⟨succeeded, rfl⟩, hfree⟩
  · exact .inl ⟨call, mutex_of_closing hmutex fun succeeded heq => hop ⟨succeeded, heq⟩, hr⟩

end

end NativeLdac.DirectPdo
