/-
  Stale disconnects (`NldDirectPdoDispatcherTransportDisconnected` in
  `direct-pdo/src/nativeldac_direct_pdo_dispatcher.c`): the callback runs after the lock of the
  channel was released, and does not look at the generation that it gets.

  * `Current` says which channel the session uses, or tries to open;
  * `Tracked` relates the callbacks that are yet to run to the channels: those of a channel that
    no close has returned from are of a current one, the others never are again.
-/
import NativeLdac.DirectPdo.ChannelLoss
import NativeLdac.DirectPdo.FailureReason

namespace NativeLdac.DirectPdo

open NldDirectPdoTransportState NldDirectPdoAction

/-! ## What a disconnect callback may do -/

instance (c : NldBthSignalingContext) (r : Nat) : Decidable (c.Closing r) :=
  decidable_of_iff (∃ call ∈ c.operationMutex.call, call.activeRequest = some r) <| by
    unfold NldBthSignalingContext.Closing
    cases c.operationMutex <;> simp [MutexHolder.call]

namespace DirectPdoRuntime

variable (s : DirectPdoRuntime)

/-- The worker has opened the channel of the request, and uses it, or its open is in progress:
    it is the active one, it is in flight, or a close that took it has not returned. -/
def Current (side : ChannelSide) (r : Nat) : Prop :=
  (side, r) ∈ s.worker.requests ∧
    ((s.channel side).activeChannel = some r ∨ ((s.channel side).requests r).point.isInFlight ∨
      (s.channel side).Closing r)

instance (side : ChannelSide) (r : Nat) : Decidable (s.Current side r) :=
  inferInstanceAs (Decidable (_ ∧ _))

/-- The disconnect callback that a step runs. -/
def disconnects : DirectPdoOp → Option DisconnectIndication
  | .disconnectCallback i => s.callbacks[i]?
  | .channel side (.openWorker r _) =>
    ((s.channel side).workerCalls r).map fun call => { side, call }
  | _ => none

/-- A disconnect that takes effect is of the channel that the session uses. -/
def NoStaleDisconnect (op : DirectPdoOp) : Prop :=
  ∀ callback ∈ s.disconnects op,
    s.dispatcher.transportDisconnected.2.owner ≠ s.dispatcher.owner →
      s.Current callback.side callback.call.request

instance (op : DirectPdoOp) : Decidable (s.NoStaleDisconnect op) :=
  inferInstanceAs (Decidable (∀ callback ∈ s.disconnects op, _))

/-- The session can be lost: it is started, and does not stop or recover already. -/
def canBeLost : Bool :=
  s.dispatcher.started ∧ s.dispatcher.workItem ∧ ¬ s.dispatcher.owner.stopRequested ∧
    s.dispatcher.owner.session.pnpStarted ∧
    s.dispatcher.owner.session.transportState ≠ transportOffline ∧
    ¬ s.dispatcher.owner.session.recoveryRequired

/-- The callback is of a channel that the worker did not open, or a close that took the channel
    has returned since it was disconnected, and its open with it. -/
def isStale (callback : DisconnectIndication) : Bool :=
  (callback.side, callback.call.request) ∉ s.worker.requests ∨
    callback.closed ∧
      ¬ ((s.channel callback.side).requests callback.call.request).point.isInFlight

/-- No callback that is stale runs while the session can be lost. -/
def isTimely (op : DirectPdoOp) : Bool :=
  ∀ callback ∈ s.disconnects op, s.canBeLost → ¬ s.isStale callback

/-! ## The callbacks that are yet to run -/

/-- What every step keeps of the channels and of the callbacks that are yet to run. -/
structure Tracked : Prop where
  pointed : ∀ side, Pointed (s.channel side)
  pending : ∀ x ∈ s.callbacks, x.closed = false →
    Lost (s.channel x.side) x.call.request ∨ (s.channel x.side).Closing x.call.request
  closed : ∀ x ∈ s.callbacks, x.closed = true → Gone (s.channel x.side) x.call.request

theorem tracked_initialized : Tracked {} where
  pointed side := by cases side <;> exact pointed_initialized
  pending := nofun
  closed := nofun

variable {s}

theorem channel_setChannel (context : NldBthSignalingContext) (side side' : ChannelSide) :
    (s.setChannel context side).channel side' =
      if side' = side then context else s.channel side' := by
  cases side <;> cases side' <;> rfl

theorem channel_channelStep (side side' : ChannelSide) (op : SignalingChannelOp) :
    (s.channelStep side op).channel side' =
      if side' = side then signalingChannel.next (s.channel side) op else s.channel side' := by
  rw [← channel_setChannel]
  unfold channelStep
  dsimp only
  split <;> cases side' <;> rfl

theorem mem_callbacks_channelStep {side : ChannelSide} {op : SignalingChannelOp}
    {x : DisconnectIndication} (hx : x ∈ (s.channelStep side op).callbacks) :
    (∃ y ∈ s.callbacks,
      x = { y with
        closed := y.closed || (y.side = side && s.closes side op y.call.request) }) ∨
    ∃ call, x = { side, call } ∧ signalingChannel.out (s.channel side) op = some call ∧
      ∀ r succeeded, op ≠ .openWorker r succeeded := by
  unfold channelStep at hx
  dsimp only at hx
  split at hx
  · obtain ⟨y, hy, rfl⟩ := List.mem_map.mp hx
    exact .inl ⟨y, hy, rfl⟩
  · obtain ⟨y, hy, rfl⟩ := List.mem_map.mp hx
    exact .inl ⟨y, hy, rfl⟩
  · rename_i call hop hcalls
    rcases List.mem_append.mp hx with hx | hx
    · obtain ⟨y, hy, rfl⟩ := List.mem_map.mp hx
      exact .inl ⟨y, hy, rfl⟩
    · rw [List.mem_singleton] at hx
      exact .inr ⟨call, hx, hcalls, fun r succeeded heq => hop r succeeded heq⟩

theorem out_eq_some {c : NldBthSignalingContext} {op : SignalingChannelOp} {call : DisconnectCall}
    (hcalls : signalingChannel.out c op = some call)
    (hop : ∀ r succeeded, op ≠ .openWorker r succeeded) : ∃ r, op = .remoteDisconnect r := by
  cases op with
  | remoteDisconnect r => exact ⟨r, rfl⟩
  | openWorker r succeeded => exact absurd rfl (hop r succeeded)
  | start _ | setDisconnectCallback _ | openChannel _ _ | openCompleted _ _ | close _
  | closeStep _ | addReference _ | releaseReference _ | disconnectIndicated _ | beginTransfer _ _
  | completeTransfer => cases hcalls

theorem closing_of_closes {side : ChannelSide} {op : SignalingChannelOp} {r : Nat}
    (h : s.closes side op r) :
    (s.channel side).Closing r ∧
      (signalingChannel.next (s.channel side) op).operationMutex = .free := by
  unfold closes at h
  split at h
  · rename_i succeeded call hmutex
    rw [decide_eq_true_eq] at h
    exact ⟨⟨call, hmutex, h.1⟩, h.2⟩
  · cases h

theorem closes_of_closing {side : ChannelSide} {succeeded : Bool} {r : Nat}
    (h : (s.channel side).Closing r)
    (hfree : (signalingChannel.next (s.channel side) (.closeStep succeeded)).operationMutex = .free) :
    s.closes side (.closeStep succeeded) r := by
  obtain ⟨call, hmutex, hr⟩ := h
  simp [closes, hmutex, hr, hfree]

theorem Tracked.channelStep (h : s.Tracked) (side : ChannelSide) (op : SignalingChannelOp) :
    (s.channelStep side op).Tracked := by
  have hchannel : (s.channelStep side op).channel side =
      signalingChannel.next (s.channel side) op := by
    rw [channel_channelStep, if_pos rfl]
  refine ⟨fun side' => ?_, fun x hx hopen => ?_, fun x hx hclosed => ?_⟩
  · rw [channel_channelStep]
    split
    · exact pointed_step (h.pointed side) op
    · exact h.pointed side'
  · rcases mem_callbacks_channelStep hx with ⟨y, hy, rfl⟩ | ⟨call, rfl, hcalls, hop⟩
    · rw [Bool.or_eq_false_iff] at hopen
      by_cases hside : y.side = side
      · subst hside
        dsimp only
        rw [hchannel]
        rcases h.pending y hy hopen.1 with hlost | hclosing
        · exact lost_step hlost op
        · rcases closing_step hclosing op with hstill | ⟨⟨succeeded, rfl⟩, hfree⟩
          · exact .inr hstill
          · simp [closes_of_closing hclosing hfree] at hopen
      · dsimp only
        rw [channel_channelStep, if_neg hside]
        exact h.pending y hy hopen.1
    · obtain ⟨r, rfl⟩ := out_eq_some hcalls hop
      obtain ⟨rfl, hlost⟩ := lost_remoteDisconnect hcalls
      dsimp only
      rw [hchannel]
      exact .inl hlost
  · rcases mem_callbacks_channelStep hx with ⟨y, hy, rfl⟩ | ⟨call, rfl, -, -⟩
    · by_cases hside : y.side = side
      · subst hside
        dsimp only
        rw [hchannel]
        rcases Bool.or_eq_true_iff.mp hclosed with hclosed | hcloses
        · exact gone_step (h.closed y hy hclosed) op
        · rw [decide_eq_true rfl, Bool.true_and] at hcloses
          obtain ⟨hclosing, hfree⟩ := closing_of_closes hcloses
          exact gone_of_closed (h.pointed y.side) hclosing hfree
      · simp only [hside, decide_false, Bool.false_and, Bool.or_false] at hclosed
        dsimp only
        rw [channel_channelStep, if_neg hside]
        exact h.closed y hy hclosed
    · cases hclosed

theorem Tracked.frame (h : s.Tracked) {dispatcher : NldDirectPdoDispatcherContext}
    {arbiter : NldDirectPdoArbiterContext} {worker : DispatcherWorker}
    {lifecycle : LifecyclePoint} : Tracked { s with dispatcher, arbiter, worker, lifecycle } :=
  ⟨h.pointed, h.pending, h.closed⟩

theorem Tracked.executing (h : s.Tracked) (e : Execution) : (s.executing e).Tracked := by
  unfold DirectPdoRuntime.executing
  dsimp only
  split
  · exact (h.channelStep _ _).frame
  · exact h.frame

theorem Tracked.acquired (h : s.Tracked) (status : NtStatus) : (s.acquired status).Tracked := by
  unfold DirectPdoRuntime.acquired
  split_ifs <;> exact h.executing _

theorem Tracked.preemptsNext (h : s.Tracked) (status : NtStatus) :
    (s.preemptsNext status).Tracked := by
  unfold DirectPdoRuntime.preemptsNext
  dsimp only
  split_ifs
  · refine Tracked.acquired ?_ status
    exact h.frame
  · exact h.frame

theorem Tracked.workerStep (h : s.Tracked) (input : ThreadInput) :
    (s.workerStep input).Tracked := by
  unfold DirectPdoRuntime.workerStep
  split
  · exact h
  · unfold DirectPdoRuntime.takesAction
    dsimp only
    split_ifs
    · exact h.frame
    · exact h.frame
    · refine Tracked.executing ?_ _
      exact h.frame
  · unfold DirectPdoRuntime.acquires
    dsimp only
    split_ifs
    · exact h.frame
    · refine Tracked.acquired ?_ _
      exact h.frame
  · unfold DirectPdoRuntime.wasRejected
    split_ifs
    · exact h.frame
    · exact h.acquired _
  · unfold DirectPdoRuntime.preempts
    dsimp only
    split_ifs
    · refine Tracked.preemptsNext ?_ _
      exact h.frame
    · refine Tracked.acquired ?_ _
      exact h.frame
  · unfold DirectPdoRuntime.preempting
    split <;> exact h.frame
  · unfold DirectPdoRuntime.preempted
    refine Tracked.preemptsNext ?_ _
    exact h.frame
  · exact h.executing _
  · exact h.frame
  · exact h.frame
  · exact h.frame

theorem Tracked.lifecycleStep (h : s.Tracked) (succeeded : Bool) :
    (s.lifecycleStep succeeded).Tracked := by
  unfold DirectPdoRuntime.lifecycleStep DirectPdoRuntime.stopCloses DirectPdoRuntime.stopClosesOn
  dsimp only
  split
  case h_1 => exact h
  case h_2 | h_3 | h_4 | h_5 => exact (h.channelStep _ _).frame
  case h_6 | h_10 =>
    split_ifs
    · exact (h.channelStep _ _).frame
    · exact h
  case h_7 | h_8 | h_11 | h_12 =>
    split_ifs
    · exact (h.channelStep _ _).frame
    · exact h.channelStep _ _
  case h_9 =>
    split_ifs
    · exact h.frame
    · exact h
  case h_13 => exact h.frame

theorem tracked_step (h : s.Tracked) (op : DirectPdoOp) :
    (directPdoRuntime.next s op).Tracked := by
  cases op with
  | arbiterStart => exact h.frame
  | arbiterStop =>
    show Tracked (if _ then _ else _)
    split_ifs
    · exact h
    · exact h.frame
  | start workItem now100ns =>
    show Tracked (Prod.snd (if _ then _ else _))
    split_ifs
    · show (s.start workItem now100ns).2.Tracked
      rcases s.start_cases workItem now100ns with hrefused | ⟨-, context, hstarts, -⟩
      · rwa [hrefused]
      · rw [hstarts]
        exact h.frame
    · exact h
  | stop =>
    show Tracked (if _ then _ else _)
    unfold DirectPdoRuntime.stop
    split
    · split
      · exact h
      · exact h.frame
    · exact h
  | lifecycle succeeded => exact h.lifecycleStep succeeded
  | setFormat sampleRateHz => exact h.frame
  | setIntent intent =>
    show (s.setIntent intent).2.Tracked
    unfold DirectPdoRuntime.setIntent
    dsimp only
    split_ifs
    · exact h
    · exact h.frame
    · exact h.frame
  | requestRecovery request requestSize => exact h.frame
  | checkMediaWatchdog timeoutMs now100ns => exact h.frame
  | mediaWritten now100ns => exact h.frame
  | worker input => exact h.workerStep input
  | diagnosticAcquire => exact h.frame
  | diagnosticRelease generation => exact h.frame
  | channel side op =>
    show Tracked (if _ then _ else _)
    split_ifs
    · exact h.channelStep side op
    · exact h
  | disconnectCallback i =>
    show (s.disconnectCallback i).Tracked
    unfold DirectPdoRuntime.disconnectCallback
    split_ifs
    · refine Tracked.frame (s := { s with callbacks := s.callbacks.eraseIdx i }) ?_
      exact ⟨h.pointed, fun x hx => h.pending x (List.mem_of_mem_eraseIdx hx),
        fun x hx => h.closed x (List.mem_of_mem_eraseIdx hx)⟩
    · exact h

/-! ## When a disconnect is stale -/

theorem recoveryRequired_onTransportLost {session : NldDirectPdoSession} (hpnp : session.pnpStarted)
    (hoffline : session.transportState ≠ transportOffline)
    (hlost : ¬ session.recoveryRequired = true) :
    session.onTransportLost.2.recoveryRequired = true := by
  unfold NldDirectPdoSession.onTransportLost
  rw [if_neg (by simp [hpnp, hoffline]), if_neg hlost]
  dsimp only
  split_ifs <;> rfl

theorem onTransportLost_of_kept {owner : NldDirectPdoDispatchOwner} (h : owner.OnTrack)
    (hkept : owner.session.onTransportLost = (actionNone, owner.session) ∨
      owner.session.onTransportLost = (owner.session.pendingAction, owner.session)) :
    owner.onTransportLost.2 = owner := by
  have howned : ∀ action, action = actionNone ∨ action = owner.session.pendingAction →
      (owner.ownWorker action).2 = owner := by
    intro action haction
    unfold NldDirectPdoDispatchOwner.ownWorker
    rw [if_pos]
    rcases haction with hnone | rfl
    · exact .inl hnone
    · by_cases howned : owner.workerOwned = true
      · exact .inr howned
      · exact .inl (h.idle (Bool.eq_false_iff.mpr howned)).1
  unfold NldDirectPdoDispatchOwner.onTransportLost
  rcases hkept with hkept | hkept <;> rw [hkept] <;> dsimp only <;> split_ifs
  · rfl
  · rfl
  · rfl
  · exact howned _ (.inl rfl)
  · rfl
  · rfl
  · rfl
  · exact howned _ (.inr rfl)

theorem session_onTransportLost {owner : NldDirectPdoDispatchOwner}
    (hstop : ¬ owner.stopRequested = true) :
    owner.onTransportLost.2.session = owner.session.onTransportLost.2 := by
  unfold NldDirectPdoDispatchOwner.onTransportLost
  rw [if_neg hstop]
  dsimp only
  split_ifs
  · rfl
  · rfl
  · rw [NldDirectPdoDispatchOwner.session_ownWorker]

theorem Reasoned.takesEffect_iff (h : s.Reasoned) :
    s.dispatcher.transportDisconnected.2.owner ≠ s.dispatcher.owner ↔ s.canBeLost := by
  unfold NldDirectPdoDispatcherContext.transportDisconnected
  simp only [canBeLost, decide_eq_true_eq]
  split_ifs with hrefused
  · refine iff_of_false (not_not.mpr rfl) ?_
    rintro ⟨hstarted, hworkItem, hstop, -⟩
    exact hrefused.elim (· hstarted) fun h => h.elim (· hworkItem) hstop
  · simp only [not_or, not_not] at hrefused
    obtain ⟨hstarted, hworkItem, hstop⟩ := hrefused
    show s.dispatcher.owner.onTransportLost.2 ≠ s.dispatcher.owner ↔ _
    constructor
    · intro hchanged
      refine ⟨hstarted, hworkItem, hstop, ?_⟩
      by_contra hkept
      refine hchanged (onTransportLost_of_kept h.onTrack ?_)
      unfold NldDirectPdoSession.onTransportLost
      split_ifs with hignored hlost
      · exact .inl rfl
      · exact .inr rfl
      · rw [not_or, not_not] at hignored
        exact absurd ⟨hignored.1, hignored.2, hlost⟩ hkept
    · rintro ⟨-, -, -, hpnp, hoffline, hlost⟩ hsame
      have hnow := recoveryRequired_onTransportLost hpnp hoffline hlost
      rw [← session_onTransportLost hstop, hsame] at hnow
      exact hlost hnow

theorem Tracked.current_iff (h : s.Tracked) {op : DirectPdoOp} {callback : DisconnectIndication}
    (hcallback : callback ∈ s.disconnects op) :
    s.Current callback.side callback.call.request ↔ ¬ s.isStale callback := by
  simp only [Current, isStale, decide_eq_true_eq, not_or, not_not]
  refine and_congr_right fun _ => ?_
  rw [not_and_or, not_not, Bool.not_eq_true]
  cases op with
  | disconnectCallback i =>
    have hmem : callback ∈ s.callbacks := List.mem_of_getElem? hcallback
    cases hclosed : callback.closed with
    | false =>
      refine iff_of_true ?_ (.inl rfl)
      exact (h.pending callback hmem hclosed).elim (fun hlost => .inl hlost.active)
        fun hclosing => .inr (.inr hclosing)
    | true =>
      have hgone := h.closed callback hmem hclosed
      simp [hgone.active, hgone.closing]
  | channel side op =>
    cases op with
    | openWorker r succeeded =>
      obtain ⟨call, hcalls, rfl⟩ := Option.map_eq_some_iff.mp hcallback
      unfold NldBthSignalingContext.workerCalls at hcalls
      dsimp only at hcalls
      split_ifs at hcalls with hnotify
      cases hcalls
      exact iff_of_true (.inr (.inl (by rw [hnotify.1]; rfl))) (.inl rfl)
    | _ => cases hcallback
  | _ => cases hcallback

end DirectPdoRuntime

open DirectPdoRuntime

/-- **No stale disconnect** takes effect along exactly the runs in which every callback that runs
    while the session can be lost is of a channel that the worker opened, and that no close has
    returned from since it was disconnected. -/
theorem stale_disconnect_iff (ops : List DirectPdoOp) :
    directPdoRuntime.Along (fun s op => s.NoStaleDisconnect op) {} ops ↔
      directPdoRuntime.Along (fun s op => s.isTimely op) {} ops := by
  refine Reducer.along_congr (P := fun s : DirectPdoRuntime => s.Reasoned ∧ s.Tracked)
    (Q := fun _ _ => True)
    (fun s op h _ _ => ⟨reasoned_step h.1 op, tracked_step h.2 op⟩) ?_
    ⟨reasoned_initialized, tracked_initialized⟩ (Reducer.along_of_forall (fun _ _ => trivial) _ ops)
  rintro s op ⟨hreasoned, htracked⟩ -
  simp only [NoStaleDisconnect, isTimely, decide_eq_true_eq]
  refine forall₂_congr fun callback hcallback => ?_
  rw [hreasoned.takesEffect_iff, htracked.current_iff hcallback]

/-- The first attempt to open is lost and closed again, the second one succeeds; the callback of
    the first runs after that. -/
def lateCallback : List DirectPdoOp :=
  startUp ++ requestsOpen ++ opensChannel .signaling 0 ++
    [.channel .signaling (.disconnectIndicated 0), .channel .signaling (.remoteDisconnect 0)] ++
    carriesOn 10 ++ opensChannel .signaling 1 ++ [.disconnectCallback 0]

/-- **The late callback** of the first attempt tears the session of the second one down. -/
theorem late_callback_stale :
    ¬ ∀ ops, directPdoRuntime.Along (fun s op => s.NoStaleDisconnect op) {} ops :=
  fun hnever => absurd (hnever lateCallback) (by decide +kernel)

end NativeLdac.DirectPdo
