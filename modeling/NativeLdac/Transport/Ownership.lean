/-
  Open channels and the handles of the context (`driver/sys/connection.c`).

  * a channel is open from the completion of its open to the close that is submitted for it,
    or to its remote disconnect (`Driver.isOpen`, which the code does not see);
  * `Driver.Owned`: the handle of a channel that is open is stored, and its state says so;
  * the fields of a channel are reset by a remote disconnect, by an open that failed, and by a
    close at its end, each without a look at whose handle is stored. `Driver.Keeps` says when
    a reset forgets no channel, and when an open that succeeds is stored.
-/
import NativeLdac.Transport.Requests

namespace NativeLdac.Transport

/-- The stack has completed the request. -/
def Point.isSettled : Point → Bool
  | .settled _ _ | .reset _ | .signalling _ | .done => true
  | .unborn | .entered | .waiting | .accepted | .memory | .brb | .sent | .failing | .failed _ =>
    false

theorem settled_advance {c : Context} {r : RequestId} {q : Request} {ok : Bool}
    (h : q.point.isSettled ∨ q.point = .sent) : (c.advance r q ok).1.point.isSettled := by
  unfold Context.advance
  cases hpoint : q.point with
  | settled ok release =>
    dsimp only
    split_ifs
    · rfl
    · simp [Point.isSettled]
  | reset release => simp [Point.isSettled]
  | sent | signalling => rfl
  | done => rw [hpoint]; rfl
  | unborn | entered | waiting | accepted | memory | brb | failing | failed =>
    rw [hpoint] at h
    rcases h with h | h <;> cases h

/-! ## The channels after a step of a request -/

/-- The next step of an open that failed resets the fields of its channel. -/
def Request.resets (q : Request) : Bool :=
  q.kind.isOpen &&
    match q.point with
    | .failing | .settled false _ => true
    | _ => false

/-- How a step of a request changes the channels. -/
inductive Touched (c c' : Context) (r : RequestId) (q : Request) (ok : Bool) : Prop
  | kept (lost : ¬ (q.point = .sent ∧ ¬ q.kind.isTransfer ∧ ok ∧ c.awaited q.kind r))
      (stays : q.resets = false) (eq : c'.channels = c.channels)
  | connecting (entered : q.point = .entered)
      (free : c.channelState q.kind.channel = .disconnected)
      (eq : c'.channels = (c.setState q.kind.channel .connecting).channels)
  | connected (sent : q.point = .sent) (opening : ¬ q.kind.isTransfer) (succeeded : ok)
      (awaited : c.awaited q.kind r) (eq : c'.channels = (c.connect q.kind.channel r).channels)
  | abandoned (failed : q.point = .sent → ¬ ok) (stays : q.resets = false)
      (connecting : c.channelState q.kind.channel = .connecting)
      (eq : c'.channels = (c.resetLocked q.kind.channel).channels)
  | reset (resets : q.resets) (eq : c'.channels = (c.resetLocked q.kind.channel).channels)

theorem touched (c : Context) (r : RequestId) (q : Request) (ok : Bool) :
    Touched c (c.advance r q ok).2 r q ok := by
  unfold Context.advance
  cases hpoint : q.point with
  | unborn | waiting | accepted | memory | brb | reset | done =>
    exact .kept (by simp [hpoint]) (by simp [Request.resets, hpoint]) rfl
  | entered =>
    dsimp only
    have hkept : ∀ c' : Context, c'.channels = c.channels → Touched c c' r q ok :=
      fun _ => .kept (by simp [hpoint]) (by simp [Request.resets, hpoint])
    obtain ⟨-, hsame⟩ | ⟨-, haccepting⟩ := Context.acceptSection_cases c q.kind r ok
    · exact hkept _ (by rw [hsame])
    · have hstate := haccepting.state
      by_cases htransfer : q.kind.isTransfer
      · rw [if_pos htransfer] at hstate
        exact hkept _ (Prod.ext hstate haccepting.handle)
      · rw [if_neg htransfer] at hstate
        exact .connecting hpoint (haccepting.channelFree htransfer)
          (Prod.ext hstate haccepting.handle)
  | sent =>
    dsimp only
    have hstays : q.resets = false := by simp [Request.resets, hpoint]
    obtain ⟨hopening, hok, hawaited, heq⟩ | ⟨hlost, heq⟩ | ⟨-, hfailed, hconnecting, heq⟩ :=
      (Context.completionSection_cases c q.kind r ok).2
    · exact .connected hpoint hopening hok hawaited heq
    · exact .kept (fun h => hlost h.2.1 h.2.2) hstays heq
    · exact .abandoned (fun _ => hfailed) hstays hconnecting heq
  | failing =>
    dsimp only
    obtain ⟨hclosed, heq⟩ | ⟨hincoming, hconnecting, heq⟩ | ⟨hopen, heq⟩ :=
      (Context.failSection_cases c q.kind r).2
    · exact .kept (by simp [hpoint]) (by simp [Request.resets, hclosed]) heq
    · exact .abandoned (by simp [hpoint]) (by rw [Request.resets, hincoming]; rfl) hconnecting heq
    · exact .reset (by simp [Request.resets, hpoint, hopen]) heq
  | failed release =>
    refine .kept (by simp [hpoint]) (by simp [Request.resets, hpoint]) ?_
    dsimp only [Context.signalCompleted]
    split_ifs <;> rfl
  | settled ok release =>
    dsimp only
    split_ifs with hreset
    · have hfailed : ok = false := by simpa using hreset.2
      subst hfailed
      exact .reset (by simp [Request.resets, hpoint, hreset.1]) rfl
    · refine .kept (by simp [hpoint]) ?_ rfl
      cases ok with
      | true => simp [Request.resets, hpoint]
      | false =>
        have hclosed : q.kind.isOpen = false := by simpa using hreset
        simp [Request.resets, hclosed]
  | signalling release =>
    refine .kept (by simp [hpoint]) (by simp [Request.resets, hpoint]) ?_
    dsimp only [Context.signalCompleted]
    split_ifs <;> rfl

namespace Driver

/-! ## Channels that are open -/

/-- The handle of a channel that is open is stored, with the state of an open channel. -/
def Owned (s : Driver) : Prop :=
  ∀ r, s.isOpen r → s.context.channelHandle (s.requests r).kind.channel = some r ∧
    (s.context.channelState (s.requests r).kind.channel = .connected ∨
      s.context.channelState (s.requests r).kind.channel = .disconnecting)

/-- The handle that is stored for a channel is that of an open one. -/
def Holds (s : Driver) (channel : Channel) : Prop :=
  ∃ r ∈ s.context.channelHandle channel, s.isOpen r

instance (s : Driver) (channel : Channel) : Decidable (s.Holds channel) :=
  inferInstanceAs (Decidable (∃ r ∈ s.context.channelHandle channel, s.isOpen r))

/-- A step resets no channel whose handle is that of an open one, but for the channel that it
    says is disconnected; and an open that succeeds is still awaited. -/
def Keeps (s : Driver) : DriverStep → Prop
  | .disconnect r =>
    (s.requests r).submitted → ¬ (s.requests r).kind.isTransfer → s.disconnected r = false →
      ∀ r' ∈ s.context.channelHandle (s.requests r).kind.channel, s.isOpen r' → r' = r
  | .operate _ =>
    match s.operation with
    | .close _ channel .reset => ¬ s.Holds channel
    | _ => True
  | .advance r ok =>
    (s.opens r ok → s.context.awaited (s.requests r).kind r) ∧
      ((s.requests r).resets → ¬ s.Holds (s.requests r).kind.channel)
  | _ => True

/-- What is stored for a channel is the handle of an open of it that the stack completed. -/
def Stored (s : Driver) : Prop :=
  ∀ channel r, s.context.channelHandle channel = some r →
    (s.requests r).point.isSettled ∧ (s.requests r).kind.channel = channel

theorem stored_init : ({} : Driver).Stored := nofun

theorem owned_init : ({} : Driver).Owned := nofun

variable {s : Driver} {r : RequestId}

theorem Owned.stored (h : s.Owned) (hstored : s.Stored) (hopen : s.isOpen r) :
    (s.requests r).point.isSettled :=
  (hstored _ r (h r hopen).1).1

theorem not_holds_of_state (h : s.Owned) (hstored : s.Stored) {channel : Channel}
    (hconnected : s.context.channelState channel ≠ .connected)
    (hdisconnecting : s.context.channelState channel ≠ .disconnecting) : ¬ s.Holds channel := by
  rintro ⟨r, hr, hopen⟩
  have hchannel := (hstored channel r hr).2
  have hstate := (h r hopen).2
  rw [hchannel] at hstate
  exact hstate.elim hconnected hdisconnecting

/-! ### What a change of the channels does to those that are open -/

section
variable {s s' : Driver} (h : s.Owned) (hstored : s.Stored)
  (hopens : ∀ r, s'.isOpen r → s.isOpen r)
  (hkind : ∀ r, s'.isOpen r → (s'.requests r).kind = (s.requests r).kind)
include h hopens hkind

theorem owned_kept (heq : s'.context.channels = s.context.channels) : s'.Owned := by
  intro r hopen
  obtain ⟨hstate, hhandle⟩ := Prod.mk.inj heq
  rw [hkind r hopen, hstate, hhandle]
  exact h r (hopens r hopen)

theorem owned_setState {channel : Channel} {state : ChannelState}
    (hstate : state = .disconnecting ∨ ¬ s.Holds channel)
    (heq : s'.context.channels = (s.context.setState channel state).channels) : s'.Owned := by
  intro r hopen
  obtain ⟨hstate', hhandle⟩ := Prod.mk.inj heq
  obtain ⟨hptr, hbefore⟩ := h r (hopens r hopen)
  rw [hkind r hopen, hstate', hhandle]
  refine ⟨hptr, ?_⟩
  by_cases hchannel : (s.requests r).kind.channel = channel
  · rcases hstate with hdisconnecting | hnot
    · refine .inr ?_
      simp only [Context.setState, hchannel, Function.update_self]
      exact hdisconnecting
    · exact absurd ⟨r, hchannel ▸ hptr, hopens r hopen⟩ hnot
  · simpa only [Context.setState, Function.update_of_ne hchannel] using hbefore

include hstored in
theorem owned_reset_iff {channel : Channel}
    (heq : s'.context.channels = (s.context.resetLocked channel).channels) :
    s'.Owned ↔ ∀ r ∈ s.context.channelHandle channel, ¬ s'.isOpen r := by
  obtain ⟨hstate, hhandle⟩ := Prod.mk.inj heq
  constructor
  · intro howned r hr hopen
    have hptr := (howned r hopen).1
    rw [hkind r hopen, hhandle, (hstored channel r hr).2] at hptr
    simp [Context.resetLocked] at hptr
  · intro hnot r hopen
    obtain ⟨hptr, hbefore⟩ := h r (hopens r hopen)
    by_cases hchannel : (s.requests r).kind.channel = channel
    · exact absurd hopen (hnot r (hchannel ▸ hptr))
    · rw [hkind r hopen, hstate, hhandle]
      simp only [Context.resetLocked, Context.setState, Function.update_of_ne hchannel]
      exact ⟨hptr, hbefore⟩

end

/-! ### The handles that are stored -/

theorem kind_requests_advance (s : Driver) (r : RequestId) (ok : Bool) (r' : RequestId) :
    ((s.advance r ok).requests r').kind = (s.requests r').kind := by
  by_cases hr : r' = r
  · subst hr
    rw [requests_advance, kind_advance]
  · rw [requests_advance_of_ne s hr]

theorem settled_requests_advance {ok : Bool} {r' : RequestId}
    (h : (s.requests r').point.isSettled) : ((s.advance r ok).requests r').point.isSettled := by
  by_cases hr : r' = r
  · subst hr
    rw [requests_advance]
    exact settled_advance (.inl h)
  · rw [requests_advance_of_ne s hr]
    exact h

theorem stored_advance (h : s.Stored) (r : RequestId) (ok : Bool) :
    (s.advance r ok).Stored := by
  have hbefore : ∀ channel r', s.context.channelHandle channel = some r' →
      ((s.advance r ok).requests r').point.isSettled ∧
        ((s.advance r ok).requests r').kind.channel = channel := by
    intro channel r' hr'
    obtain ⟨hsettled, hchannel⟩ := h channel r' hr'
    exact ⟨settled_requests_advance hsettled, by rw [kind_requests_advance, hchannel]⟩
  intro channel r' hr'
  have hhandle : (s.context.advance r (s.requests r) ok).2.channelHandle channel = some r' := hr'
  rcases touched s.context r (s.requests r) ok with
    ⟨-, -, heq⟩ | ⟨-, -, heq⟩ | ⟨hsent, -, -, -, heq⟩ | ⟨-, -, -, heq⟩ | ⟨-, heq⟩ <;>
    rw [(Prod.mk.inj heq).2] at hhandle
  · exact hbefore channel r' hhandle
  · exact hbefore channel r' hhandle
  · by_cases hchannel : channel = (s.requests r).kind.channel
    · subst hchannel
      simp only [Context.connect, Function.update_self, Option.some.injEq] at hhandle
      subst hhandle
      refine ⟨?_, by rw [kind_requests_advance]⟩
      rw [requests_advance]
      exact settled_advance (.inr hsent)
    · simp only [Context.connect, Function.update_of_ne hchannel] at hhandle
      exact hbefore channel r' hhandle
  all_goals
    by_cases hchannel : channel = (s.requests r).kind.channel
    · simp [Context.resetLocked, hchannel] at hhandle
    · simp only [Context.resetLocked, Function.update_of_ne hchannel] at hhandle
      exact hbefore channel r' hhandle

theorem stored_quiet {s s' : Driver} (h : s.Stored) (hquiet : Quiet s s')
    (hhandle : ∀ channel r, s'.context.channelHandle channel = some r →
      s.context.channelHandle channel = some r) : s'.Stored := by
  intro channel r hr
  obtain ⟨hsettled, hchannel⟩ := h channel r (hhandle channel r hr)
  obtain ⟨cancelled, hrequest⟩ := hquiet.requests r
  rw [hrequest]
  exact ⟨hsettled, hchannel⟩

theorem handle_reset {c : Context} {channel channel' : Channel}
    (h : (c.resetLocked channel).channelHandle channel' = some r) :
    c.channelHandle channel' = some r := by
  by_cases hchannel : channel' = channel
  · simp [Context.resetLocked, hchannel] at h
  · simpa only [Context.resetLocked, Function.update_of_ne hchannel] using h

/-- A step leaves the channels alone, the fields and those that are open. -/
def LeavesChannels (s s' : Driver) : Prop :=
  s'.context.channels = s.context.channels ∧ s'.isOpen = s.isOpen

theorem leavesChannels_operate (ok : Bool)
    (hnot : ∀ shutdown channel point, s.operation ≠ .close shutdown channel point) :
    LeavesChannels s (s.operate ok) := by
  unfold operate
  cases hop : s.operation with
  | free => exact ⟨rfl, rfl⟩
  | register => dsimp only; split_ifs <;> exact ⟨rfl, rfl⟩
  | registerSend => dsimp only; split_ifs <;> exact ⟨rfl, rfl⟩
  | registerSent =>
    dsimp only [Context.serverRegisterCompleted]
    split_ifs <;> exact ⟨rfl, rfl⟩
  | unregister worker => dsimp only; split_ifs <;> exact ⟨rfl, rfl⟩
  | unregisterSend worker => dsimp only; split_ifs <;> exact ⟨rfl, rfl⟩
  | unregisterSent worker =>
    dsimp only [Context.serverUnregisterCompleted, unregistered]
    split_ifs <;> exact ⟨rfl, rfl⟩
  | capture => exact ⟨rfl, rfl⟩
  | rundown captured acts =>
    cases acts with
    | nil => exact ⟨rfl, rfl⟩
    | cons act acts =>
      cases act with
      | cancel kind =>
        dsimp only [shutdownAct, cancel]
        split
        · split_ifs <;> exact ⟨rfl, rfl⟩
        · exact ⟨rfl, rfl⟩
      | wait kind => dsimp only [shutdownAct]; split_ifs <;> exact ⟨rfl, rfl⟩
  | close shutdown channel point => exact absurd hop (hnot shutdown channel point)
  | endShutdown => dsimp only [Context.endShutdown]; split_ifs <;> exact ⟨rfl, rfl⟩

theorem leavesChannels_start (s : Driver) (function : OperationStart) :
    LeavesChannels s (s.start function) := by
  unfold start
  split <;> first | exact ⟨rfl, rfl⟩ | (split_ifs <;> exact ⟨rfl, rfl⟩)

theorem leavesChannels_workerReports (s : Driver) : LeavesChannels s s.workerReports := by
  unfold workerReports
  split <;> exact ⟨rfl, rfl⟩

inductive ClosedChannels (s s' : Driver) (channel : Channel) (point : ClosePoint) : Prop
  | kept (later : point ≠ .reset) (eq : s'.context.channels = s.context.channels)
      (opens : ∀ r, s'.isOpen r → s.isOpen r)
  | disconnecting (later : point ≠ .reset)
      (eq : s'.context.channels = (s.context.setState channel .disconnecting).channels)
      (opens : s'.isOpen = s.isOpen)
  | reset (now : point = .reset)
      (eq : s'.context.channels = (s.context.resetLocked channel).channels)
      (opens : s'.isOpen = s.isOpen)

theorem closedChannels (s : Driver) (shutdown : Bool) (channel : Channel) (ok : Bool)
    (point : ClosePoint) :
    ClosedChannels s (s.closeStep shutdown channel ok point) channel point := by
  unfold closeStep Context.closeSection
  cases point with
  | start =>
    dsimp only
    split_ifs
    · exact .disconnecting nofun rfl rfl
    · exact .kept nofun rfl fun _ h => h
  | send handle =>
    dsimp only
    split_ifs
    · exact .kept nofun rfl fun _ h => (Bool.and_eq_true_iff.mp h).1
    · exact .kept nofun rfl fun _ h => h
  | sent => exact .kept nofun rfl fun _ h => h
  | reset => exact .reset rfl rfl rfl

theorem stored_operate (h : s.Stored) (ok : Bool) : (s.operate ok).Stored := by
  refine stored_quiet h (quiet_operate s ok) fun channel r hr => ?_
  cases hop : s.operation with
  | close shutdown channel' point =>
    have hnext : s.operate ok = s.closeStep shutdown channel' ok point := by
      simp only [operate, hop]
    rw [hnext] at hr
    rcases closedChannels s shutdown channel' ok point with
      ⟨-, heq, -⟩ | ⟨-, heq, -⟩ | ⟨-, heq, -⟩ <;> rw [(Prod.mk.inj heq).2] at hr
    · exact hr
    · exact hr
    · exact handle_reset hr
  | _ =>
    have heq := (leavesChannels_operate ok (s := s) (by rw [hop]; nofun)).1
    rwa [(Prod.mk.inj heq).2] at hr

theorem stored_next (h : s.Stored) (step : DriverStep) :
    (transport.next s step).Stored := by
  cases step with
  | enter r kind =>
    by_cases hadmits : (s.requests r).point = .unborn ∧ s.admits kind
    · have hnext : transport.next s (.enter r kind) =
          s.setRequest r { kind, point := .entered, reference := { taken := 1 } } :=
        if_pos hadmits
      rw [hnext]
      intro channel r' hr'
      obtain ⟨hsettled, hchannel⟩ := h channel r' hr'
      have hne : r' ≠ r := by
        rintro rfl
        rw [hadmits.1] at hsettled
        cases hsettled
      rw [requests_setRequest_of_ne s hne]
      exact ⟨hsettled, hchannel⟩
    · have hsame : transport.next s (.enter r kind) = s := if_neg hadmits
      rwa [hsame]
  | advance r ok => exact stored_advance h r ok
  | disconnect r =>
    refine stored_quiet h (quiet_disconnect s r) fun channel r' hr' => ?_
    have hcontext : (s.disconnect r).context.channelHandle channel = some r' := hr'
    unfold disconnect at hcontext
    split_ifs at hcontext
    · exact handle_reset hcontext
    · exact hcontext
  | lifecycle started => exact h
  | start function =>
    refine stored_quiet h (quiet_start s function) fun channel r hr => ?_
    have heq := (leavesChannels_start s function).1
    exact (congrFun (Prod.mk.inj heq).2 channel).symm.trans hr
  | operate ok => exact stored_operate h ok
  | workerReports =>
    refine stored_quiet h (quiet_workerReports s) fun channel r hr => ?_
    have heq := (leavesChannels_workerReports s).1
    exact (congrFun (Prod.mk.inj heq).2 channel).symm.trans hr

/-! ## Each step keeps the open channels -/

theorem kind_quiet {s s' : Driver} (h : Quiet s s') (r : RequestId) :
    (s'.requests r).kind = (s.requests r).kind := by
  obtain ⟨cancelled, hr⟩ := h.requests r
  rw [hr]

theorem isOpen_advance (s : Driver) (r : RequestId) (ok : Bool) :
    (s.advance r ok).isOpen r = (s.isOpen r || s.opens r ok) :=
  Function.update_self _ _ _

theorem isOpen_advance_of_ne (s : Driver) {r r' : RequestId} (h : r' ≠ r) (ok : Bool) :
    (s.advance r ok).isOpen r' = s.isOpen r' :=
  Function.update_of_ne h _ _

theorem opens_iff {ok : Bool} :
    s.opens r ok ↔ (s.requests r).point = .sent ∧ ¬ (s.requests r).kind.isTransfer ∧ ok ∧
      s.disconnected r = false := by
  simp [opens, and_assoc]

theorem isOpen_of_not_opens {ok : Bool} (h : ¬ s.opens r ok) :
    (s.advance r ok).isOpen = s.isOpen := by
  funext r'
  by_cases hr : r' = r
  · subst hr
    rw [isOpen_advance, Bool.eq_false_iff.mpr h, Bool.or_false]
  · exact isOpen_advance_of_ne s hr ok

theorem owned_connect (h : s.Owned) {ok : Bool}
    (hconnecting : s.context.channelState (s.requests r).kind.channel = .connecting)
    (heq : (s.advance r ok).context.channels =
      (s.context.connect (s.requests r).kind.channel r).channels) : (s.advance r ok).Owned := by
  intro r' hopen
  obtain ⟨hstate, hhandle⟩ := Prod.mk.inj heq
  rw [kind_requests_advance, hstate, hhandle]
  by_cases hr : r' = r
  · subst hr
    simp [Context.connect, Context.setState]
  · rw [isOpen_advance_of_ne s hr] at hopen
    obtain ⟨hptr, hbefore⟩ := h r' hopen
    have hchannel : (s.requests r').kind.channel ≠ (s.requests r).kind.channel := by
      intro hsame
      rw [hsame, hconnecting] at hbefore
      rcases hbefore with hbefore | hbefore <;> cases hbefore
    simpa [Context.connect, Context.setState, Function.update_of_ne hchannel] using
      And.intro hptr hbefore

theorem owned_advance_iff (h : s.Owned) (hstored : s.Stored) (r : RequestId) (ok : Bool) :
    (s.advance r ok).Owned ↔ s.Keeps (.advance r ok) := by
  have hkind : ∀ r', (s.advance r ok).isOpen r' →
      ((s.advance r ok).requests r').kind = (s.requests r').kind :=
    fun r' _ => kind_requests_advance s r ok r'
  have hsame : ¬ s.opens r ok → ∀ r', (s.advance r ok).isOpen r' → s.isOpen r' :=
    fun hopens r' hr' => by rwa [isOpen_of_not_opens hopens] at hr'
  have htouched : Touched s.context (s.advance r ok).context r (s.requests r) ok :=
    touched s.context r (s.requests r) ok
  rcases htouched with
    ⟨hlost, hstays, heq⟩ | ⟨hentered, hfree, heq⟩ | ⟨hsent, hopening, hok, hawaited, heq⟩ |
    ⟨hfailed, hstays, hconnecting, heq⟩ | ⟨hresets, heq⟩
  · by_cases hopens : s.opens r ok
    · -- An open that succeeds is not stored: the handle of a request that the stack has not
      -- completed is stored nowhere.
      obtain ⟨hsent, hopening, hok, -⟩ := opens_iff.mp hopens
      refine iff_of_false (fun howned => ?_) fun hkeeps =>
        hlost ⟨hsent, hopening, hok, hkeeps.1 hopens⟩
      have hptr := (howned r (by rw [isOpen_advance, hopens, Bool.or_true])).1
      rw [kind_requests_advance, (Prod.mk.inj heq).2] at hptr
      have hsettled := (hstored _ r hptr).1
      rw [hsent] at hsettled
      cases hsettled
    · exact iff_of_true (owned_kept h (hsame hopens) hkind heq)
        ⟨fun hyes => absurd hyes hopens, fun hyes => by rw [hstays] at hyes; cases hyes⟩
  · have hopens : ¬ s.opens r ok := fun hyes => by
      rw [(opens_iff.mp hyes).1] at hentered
      cases hentered
    have hnot := not_holds_of_state h hstored (by rw [hfree]; nofun) (by rw [hfree]; nofun)
    exact iff_of_true (owned_setState h (hsame hopens) hkind (.inr hnot) heq)
      ⟨fun hyes => absurd hyes hopens, fun _ => hnot⟩
  · refine iff_of_true (owned_connect h hawaited.1 heq) ⟨fun _ => hawaited, fun hyes => ?_⟩
    rw [Request.resets, hsent] at hyes
    simp at hyes
  · have hopens : ¬ s.opens r ok := fun hyes =>
      hfailed (opens_iff.mp hyes).1 (opens_iff.mp hyes).2.2.1
    have hnot := not_holds_of_state h hstored (by rw [hconnecting]; nofun)
      (by rw [hconnecting]; nofun)
    refine iff_of_true ?_
      ⟨fun hyes => absurd hyes hopens, fun hyes => by rw [hstays] at hyes; cases hyes⟩
    exact (owned_reset_iff h hstored (hsame hopens) hkind heq).mpr
      fun r' hr' hopen => hnot ⟨r', hr', hsame hopens r' hopen⟩
  · have hopens : ¬ s.opens r ok := fun hyes => by
      rw [Request.resets, (opens_iff.mp hyes).1] at hresets
      simp at hresets
    rw [owned_reset_iff h hstored (hsame hopens) hkind heq, isOpen_of_not_opens hopens]
    constructor
    · intro hnone
      exact ⟨fun hyes => absurd hyes hopens, fun _ ⟨r', hr', hopen⟩ => hnone r' hr' hopen⟩
    · rintro ⟨-, hnot⟩ r' hr' hopen
      exact hnot hresets ⟨r', hr', hopen⟩

theorem owned_operate_iff (h : s.Owned) (hstored : s.Stored) (ok : Bool) :
    (s.operate ok).Owned ↔ s.Keeps (.operate ok) := by
  have hkind : ∀ r, (s.operate ok).isOpen r →
      ((s.operate ok).requests r).kind = (s.requests r).kind :=
    fun r _ => kind_quiet (quiet_operate s ok) r
  cases hop : s.operation with
  | close shutdown channel point =>
    have hnext : s.operate ok = s.closeStep shutdown channel ok point := by
      simp only [operate, hop]
    rw [hnext] at hkind ⊢
    unfold Keeps
    rcases closedChannels s shutdown channel ok point with
      ⟨hlater, heq, hopens⟩ | ⟨hlater, heq, hopens⟩ | ⟨rfl, heq, hopens⟩
    · refine iff_of_true (owned_kept h hopens hkind heq) ?_
      rw [hop]
      cases point <;> trivial
    · refine iff_of_true (owned_setState h (fun _ hr => hopens ▸ hr) hkind (.inl rfl) heq) ?_
      rw [hop]
      cases point <;> trivial
    · rw [owned_reset_iff h hstored (fun _ hr => hopens ▸ hr) hkind heq, hopens, hop]
      exact ⟨fun hnone ⟨r, hr, hopen⟩ => hnone r hr hopen, fun hnot r hr hopen =>
        hnot ⟨r, hr, hopen⟩⟩
  | _ =>
    obtain ⟨heq, hopens⟩ := leavesChannels_operate ok (s := s) (by rw [hop]; nofun)
    refine iff_of_true (owned_kept h (fun _ hr => hopens ▸ hr) hkind heq) ?_
    simp only [Keeps, hop]

theorem owned_disconnect_iff (h : s.Owned) (hstored : s.Stored) (r : RequestId) :
    (s.disconnect r).Owned ↔ s.Keeps (.disconnect r) := by
  have hkind : ∀ r', (s.disconnect r).isOpen r' →
      ((s.disconnect r).requests r').kind = (s.requests r').kind :=
    fun r' _ => kind_quiet (quiet_disconnect s r) r'
  by_cases hindicated : (s.requests r).submitted ∧ ¬ (s.requests r).kind.isTransfer ∧
      ¬ s.disconnected r
  · have hnext : s.disconnect r = { s.setOpen r false with
        context := s.context.remoteDisconnect (s.requests r).kind.channel
        disconnected := Function.update s.disconnected r true } := if_pos hindicated
    have hopens : ∀ r', (s.disconnect r).isOpen r' ↔ s.isOpen r' ∧ r' ≠ r := by
      intro r'
      rw [hnext]
      by_cases hr : r' = r
      · subst hr
        simp [setOpen]
      · simp [setOpen, hr]
    have heq : (s.disconnect r).context.channels =
        (s.context.resetLocked (s.requests r).kind.channel).channels := by
      rw [hnext]
      rfl
    rw [owned_reset_iff h hstored (fun r' hr' => ((hopens r').mp hr').1) hkind heq]
    constructor
    · intro hnone hsubmitted hopening hfirst r' hr' hopen
      exact by_contra fun hne => hnone r' hr' ((hopens r').mpr ⟨hopen, hne⟩)
    · intro hkeeps r' hr' hopen
      obtain ⟨hbefore, hne⟩ := (hopens r').mp hopen
      exact hne (hkeeps hindicated.1 hindicated.2.1 (by simpa using hindicated.2.2) r' hr' hbefore)
  · have hsame : s.disconnect r = s := if_neg hindicated
    rw [hsame]
    exact iff_of_true h fun hsubmitted hopening hfirst =>
      absurd ⟨hsubmitted, hopening, by simp [hfirst]⟩ hindicated

theorem owned_next_iff (h : s.Owned) (hstored : s.Stored) (step : DriverStep) :
    (transport.next s step).Owned ↔ s.Keeps step := by
  cases step with
  | enter r kind =>
    refine iff_of_true ?_ trivial
    by_cases hadmits : (s.requests r).point = .unborn ∧ s.admits kind
    · have hnext : transport.next s (.enter r kind) =
          s.setRequest r { kind, point := .entered, reference := { taken := 1 } } :=
        if_pos hadmits
      rw [hnext]
      refine owned_kept h (fun _ hr => hr) (fun r' hopen => ?_) rfl
      have hne : r' ≠ r := by
        rintro rfl
        have hsettled := h.stored hstored hopen
        rw [hadmits.1] at hsettled
        cases hsettled
      rw [requests_setRequest_of_ne s hne]
    · have hsame : transport.next s (.enter r kind) = s := if_neg hadmits
      rwa [hsame]
  | advance r ok => exact owned_advance_iff h hstored r ok
  | disconnect r => exact owned_disconnect_iff h hstored r
  | lifecycle started => exact iff_of_true h trivial
  | start function =>
    obtain ⟨heq, hopens⟩ := leavesChannels_start s function
    exact iff_of_true (owned_kept h (fun _ hr => hopens ▸ hr)
      (fun r _ => kind_quiet (quiet_start s function) r) heq) trivial
  | operate ok => exact owned_operate_iff h hstored ok
  | workerReports =>
    obtain ⟨heq, hopens⟩ := leavesChannels_workerReports s
    exact iff_of_true (owned_kept h (fun _ hr => hopens ▸ hr)
      (fun r _ => kind_quiet (quiet_workerReports s) r) heq) trivial

/-- **Open channels are owned, exactly as long as each step keeps them.** -/
theorem owned_iff_keeps (steps : List DriverStep) :
    transport.Along (fun s step => (transport.next s step).Owned) {} steps ↔
      transport.Along Keeps {} steps := by
  refine Reducer.along_congr (P := fun s => s.Owned ∧ s.Stored) (Q := fun _ _ => True) ?_ ?_
    ⟨owned_init, stored_init⟩ (Reducer.along_of_forall (fun _ _ => trivial) _ _)
  · intro s step h _ howned
    exact ⟨howned, stored_next h.2 step⟩
  · intro s step h _
    exact owned_next_iff h.1 h.2 step

/-- The signaling channel is closed, and the BRB that closes it is not allocated. -/
def closeFails : List DriverStep :=
  headsetConnects ++
    [.start .closeChannels, .operate true, .operate true, .operate false, .operate true]

/-- The channel is open, and nothing is stored for it. -/
theorem close_fails_forgotten :
    ¬ transport.Along (fun s step => (transport.next s step).Owned) {} closeFails ∧
      (transport.after {} closeFails).isOpen 0 ∧
      (transport.after {} closeFails).context.channelHandle .signaling = none := by
  have hend : (transport.after {} closeFails).isOpen 0 ∧
      ((transport.after {} closeFails).requests 0).kind.channel = .signaling ∧
      (transport.after {} closeFails).context.channelHandle .signaling = none := by
    decide
  refine ⟨fun halong => ?_, hend.1, hend.2.2⟩
  have howned : (transport.after {} closeFails).Owned :=
    Reducer.after_inv (fun _ _ _ hnext => hnext) owned_init halong
  have hptr := (howned 0 hend.1).1
  rw [hend.2.1, hend.2.2] at hptr
  cases hptr

end Driver

end NativeLdac.Transport
