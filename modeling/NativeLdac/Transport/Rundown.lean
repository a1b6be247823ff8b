/-
  The rundown of the shutdown (`driver/sys/connection.c`, `LdacNativeConnectionShutdown`;
  `driver/sys/device.c`, the suspend, restart and cleanup callbacks).

  * when the shutdown comes to its last section nothing is outstanding and neither channel is
    connected, and after a suspend none is until the device is started again (`RunDown`);
  * the shutdown knows a request by the pointer of its kind, and its end by the event of its
    kind: an event that is set means that nothing of its kind is outstanding
    (`Ordered.events`);
  * the event of a request is set after the request has been handed back, and may then be that
    of the next one. `Driver.RunsDown` excludes that, an open that takes the place of another,
    and a device that is started while a shutdown is at work.
-/
import NativeLdac.Transport.Requests

namespace NativeLdac.Transport

/-! ## Where a shutdown is -/

namespace Operation

/-- A shutdown has set `ShuttingDown`, and has not returned. -/
def shutsDown : Operation → Bool
  | .rundown _ _ | .close true _ _ | .endShutdown => true
  | .free | .register | .registerSend | .registerSent | .unregister _ | .unregisterSend _
  | .unregisterSent _ | .capture | .close false _ _ => false

def pastWaits : Operation → Bool
  | .close true _ _ | .endShutdown => true
  | .free | .register | .registerSend | .registerSent | .unregister _ | .unregisterSend _
  | .unregisterSent _ | .capture | .rundown _ _ | .close false _ _ => false

/-- It has taken a channel out of `Connected`. -/
def hasClosed : Operation → Channel → Bool
  | .close true .media .start, _ => false
  | .close true .media _, channel => channel = .media
  | .close true .signaling .start, channel => channel = .media
  | .close true .signaling _, _ => true
  | .endShutdown, _ => true
  | _, _ => false

theorem shutsDown_of_pastWaits {operation : Operation} (h : operation.pastWaits) :
    operation.shutsDown := by
  cases operation with
  | close shutdown => cases shutdown <;> first | rfl | cases h
  | endShutdown => rfl
  | _ => cases h

theorem pastWaits_of_hasClosed {operation : Operation} {channel : Channel}
    (h : operation.hasClosed channel) : operation.pastWaits := by
  cases operation with
  | close shutdown => cases shutdown <;> first | rfl | cases h
  | endShutdown => rfl
  | _ => cases h

end Operation

/-! ## Events -/

/-- The events that the next step of a request sets -/
def Request.signals (q : Request) : List RequestKind :=
  match q.point with
  | .failed _ => kinds
  | .signalling release => if q.kind = .incomingSignaling ∧ ¬ release then [] else kinds
  | _ => []
where
  kinds := if q.kind = .incomingSignaling then [.incomingSignaling, .openSignaling] else [q.kind]

theorem event_signalCompleted {c : Context} {q : Request} {kind : RequestKind}
    (h : (c.signalCompleted q.kind).completedEvent kind) :
    c.completedEvent kind ∨ kind ∈ Request.signals.kinds q := by
  by_cases hmem : kind ∈ Request.signals.kinds q
  · exact .inr hmem
  · refine .inl ?_
    unfold Context.signalCompleted at h
    unfold Request.signals.kinds at hmem
    split_ifs at h hmem with hincoming
    · obtain ⟨hother, hopen⟩ : kind ≠ .incomingSignaling ∧ kind ≠ .openSignaling := by
        simpa using hmem
      simpa [Context.setEvent, Function.update_of_ne hother, Function.update_of_ne hopen] using h
    · have hother : kind ≠ q.kind := by simpa using hmem
      simpa [Context.setEvent, Function.update_of_ne hother] using h

theorem event_advance {c : Context} {r : RequestId} {q : Request} {ok : Bool}
    {kind : RequestKind} (h : (c.advance r q ok).2.completedEvent kind) :
    c.completedEvent kind ∨ kind ∈ q.signals := by
  unfold Context.advance at h
  unfold Request.signals
  cases hpoint : q.point with
  | unborn | waiting | accepted | memory | brb | reset | done => rw [hpoint] at h; exact .inl h
  | entered =>
    rw [hpoint] at h
    dsimp only at h
    obtain ⟨-, hsame⟩ | ⟨-, haccepting⟩ := Context.acceptSection_cases c q.kind r ok
    · rw [hsame] at h
      exact .inl h
    · exact .inl (haccepting.events kind h)
  | sent =>
    rw [hpoint] at h
    dsimp only at h
    rw [(Context.completionSection_cases c q.kind r ok).1.events] at h
    exact .inl h
  | failing =>
    rw [hpoint] at h
    dsimp only at h
    rw [(Context.failSection_cases c q.kind r).1.events] at h
    exact .inl h
  | failed release => rw [hpoint] at h; exact event_signalCompleted h
  | settled ok release =>
    rw [hpoint] at h
    dsimp only at h
    split_ifs at h <;> exact .inl h
  | signalling release =>
    rw [hpoint] at h
    dsimp only at h ⊢
    split_ifs at h ⊢ with hquiet
    · exact .inl h
    · exact event_signalCompleted h

/-! ## Channels -/

theorem connected_reset {c c' : Context} {channel channel' : Channel}
    (heq : c'.channels = (c.resetLocked channel).channels)
    (h : c'.channelState channel' = .connected) : c.channelState channel' = .connected := by
  rw [(Prod.mk.inj heq).1] at h
  by_cases hchannel : channel' = channel
  · subst hchannel
    simp [Context.resetLocked, Context.setState] at h
  · simpa [Context.resetLocked, Context.setState, Function.update_of_ne hchannel] using h

theorem connected_advance {c : Context} {r : RequestId} {q : Request} {ok : Bool}
    {channel : Channel} (h : (c.advance r q ok).2.channelState channel = .connected) :
    c.channelState channel = .connected ∨ q.point = .sent := by
  unfold Context.advance at h
  cases hpoint : q.point with
  | unborn | waiting | accepted | memory | brb | reset | done => rw [hpoint] at h; exact .inl h
  | entered =>
    rw [hpoint] at h
    dsimp only at h
    obtain ⟨-, hsame⟩ | ⟨-, haccepting⟩ := Context.acceptSection_cases c q.kind r ok
    · rw [hsame] at h
      exact .inl h
    · rw [haccepting.state] at h
      split_ifs at h
      · exact .inl h
      · by_cases hchannel : channel = q.kind.channel
        · subst hchannel
          simp at h
        · rw [Function.update_of_ne hchannel] at h
          exact .inl h
  | sent => exact .inr rfl
  | failing =>
    rw [hpoint] at h
    dsimp only at h
    obtain ⟨-, heq⟩ | ⟨-, -, heq⟩ | ⟨-, heq⟩ := (Context.failSection_cases c q.kind r).2
    · rw [(Prod.mk.inj heq).1] at h
      exact .inl h
    · exact .inl (connected_reset heq h)
    · exact .inl (connected_reset heq h)
  | failed release =>
    rw [hpoint] at h
    dsimp only [Context.signalCompleted] at h
    split_ifs at h <;> exact .inl h
  | settled ok release =>
    rw [hpoint] at h
    dsimp only at h
    split_ifs at h
    · exact .inl (connected_reset rfl h)
    · exact .inl h
  | signalling release =>
    rw [hpoint] at h
    dsimp only [Context.signalCompleted] at h
    split_ifs at h <;> exact .inl h

/-! ## The rundown -/

namespace Driver

/-- When a shutdown comes to its last section nothing is outstanding and no channel is
    connected; after a suspend none is until the device is started. -/
structure RunDown (s : Driver) : Prop where
  returns : s.operation = .endShutdown →
    (∀ r, ¬ (s.requests r).point.isOutstanding) ∧
      ∀ channel, s.context.channelState channel ≠ .connected
  suspended : s.suspended → ∀ channel, s.context.channelState channel ≠ .connected

/-- The steps that a rundown relies on: an open finds its place free, an event is set while
    nothing of its kind is outstanding, and no shutdown is at work when the device starts. -/
def RunsDown (s : Driver) (step : DriverStep) : Prop :=
  s.Spares step ∧
    match step with
    | .advance r _ => ∀ kind ∈ (s.requests r).signals, s.context.request kind = none
    | .lifecycle started => started → ¬ s.operation.shutsDown
    | _ => True

instance (s : Driver) (step : DriverStep) : Decidable (s.RunsDown step) :=
  match step with
  | .advance r _ =>
    inferInstanceAs (Decidable (_ ∧ ∀ kind ∈ (s.requests r).signals, _))
  | .lifecycle _ => inferInstanceAs (Decidable (_ ∧ (_ → _)))
  | .enter _ _ | .disconnect _ | .start _ | .operate _ | .workerReports =>
    inferInstanceAs (Decidable (_ ∧ True))

/-- What a rundown keeps in order. -/
structure Ordered (s : Driver) : Prop where
  tracked : s.Tracked
  events : ∀ kind, s.context.completedEvent kind → s.context.request kind = none
  stopped : s.context.pnpStarted = false → s.context.shuttingDown = true
  shutdown : s.operation.shutsDown → s.context.shuttingDown = true
  rundown : ∀ captured acts, s.operation = .rundown captured acts → ∀ kind r,
    s.context.request kind = some r → captured kind = some r ∧ .wait kind ∈ acts
  idle : s.operation.pastWaits → ∀ kind, s.context.request kind = none
  closed : ∀ channel, s.operation.hasClosed channel →
    s.context.channelState channel ≠ .connected
  suspended : s.suspended → s.context.pnpStarted = false ∧
    (∀ kind, s.context.request kind = none) ∧
    ∀ channel, s.context.channelState channel ≠ .connected

theorem ordered_init : ({} : Driver).Ordered where
  tracked := tracked_init
  events := fun _ _ => rfl
  stopped := fun _ => rfl
  shutdown := nofun
  rundown := nofun
  idle := nofun
  closed := nofun
  suspended := nofun

variable {s : Driver} {s s' : Driver} {r : RequestId} {ok : Bool}

theorem Ordered.runDown (h : s.Ordered) : s.RunDown where
  returns := fun hend => by
    refine ⟨fun r hout => ?_, fun channel => h.closed channel (by rw [hend]; rfl)⟩
    have hptr := h.tracked.request hout
    rw [h.idle (by rw [hend]; rfl)] at hptr
    cases hptr
  suspended := fun hsuspended => (h.suspended hsuspended).2.2

/-! ### A request takes a step -/

theorem request_advance (h : s.Tracked) {kind : RequestKind} {r' : RequestId}
    (hshutting : s.context.shuttingDown = true)
    (hptr : (s.advance r ok).context.request kind = some r') :
    s.context.request kind = some r' := by
  rcases advance_cases s.context r (s.requests r) ok with
    ⟨-, haccepting, -⟩ | ⟨hout, release, hgo, -⟩ | ⟨hsteady, -⟩
  · rw [haccepting.running] at hshutting
    cases hshutting
  · have hrequest := hgo.request
    rw [if_pos (h.request hout)] at hrequest
    have hptr' : Function.update s.context.request (s.requests r).kind none kind = some r' :=
      hrequest ▸ hptr
    by_cases hkind : kind = (s.requests r).kind
    · subst hkind
      rw [Function.update_self] at hptr'
      cases hptr'
    · rwa [Function.update_of_ne hkind] at hptr'
  · exact hsteady.request ▸ hptr

theorem lifecycle_advance (s : Driver) (r : RequestId) (ok : Bool) :
    (s.advance r ok).context.shuttingDown = s.context.shuttingDown ∧
      (s.advance r ok).context.pnpStarted = s.context.pnpStarted := by
  rcases advance_cases s.context r (s.requests r) ok with
    ⟨-, haccepting, -⟩ | ⟨-, release, hgo, -⟩ | ⟨hsteady, -⟩
  · exact haccepting.lifecycle
  · exact hgo.lifecycle
  · exact hsteady.lifecycle

theorem disconnected_advance (h : s.Tracked) (hidle : ∀ kind, s.context.request kind = none)
    {channel : Channel} (hstate : s.context.channelState channel ≠ .connected) :
    (s.advance r ok).context.channelState channel ≠ .connected := by
  intro hconnected
  rcases connected_advance hconnected with hbefore | hsent
  · exact hstate hbefore
  · have hptr := h.request (r := r) (by rw [hsent]; rfl)
    rw [hidle] at hptr
    cases hptr

theorem idle_advance (h : s.Tracked) (hshutting : s.context.shuttingDown = true)
    (hidle : ∀ kind, s.context.request kind = none) (kind : RequestKind) :
    (s.advance r ok).context.request kind = none := by
  refine Option.eq_none_iff_forall_ne_some.mpr fun r' hptr => ?_
  have hbefore := request_advance h hshutting hptr
  rw [hidle] at hbefore
  cases hbefore

theorem events_advance (h : s.Ordered) (hruns : s.RunsDown (.advance r ok)) (kind : RequestKind)
    (hevent : (s.advance r ok).context.completedEvent kind) :
    (s.advance r ok).context.request kind = none := by
  have hbefore : s.context.request kind = none := by
    rcases event_advance hevent with hset | hsignal
    · exact h.events kind hset
    · exact hruns.2 kind hsignal
  rcases advance_cases s.context r (s.requests r) ok with
    ⟨-, haccepting, -⟩ | ⟨-, release, hgo, -⟩ | ⟨hsteady, -⟩
  · by_cases hkind : kind = (s.requests r).kind
    · subst hkind
      have hclear : (s.advance r ok).context.completedEvent (s.requests r).kind = false :=
        haccepting.event
      rw [hclear] at hevent
      cases hevent
    · exact (congrFun haccepting.request kind).trans
        ((Function.update_of_ne hkind _ _).trans hbefore)
  · refine (congrFun hgo.request kind).trans ?_
    split_ifs
    · by_cases hkind : kind = (s.requests r).kind
      · rw [hkind, Function.update_self]
      · rw [Function.update_of_ne hkind, hbefore]
    · exact hbefore
  · exact (congrFun hsteady.request kind).trans hbefore

theorem ordered_advance (h : s.Ordered) (hruns : s.RunsDown (.advance r ok)) :
    (s.advance r ok).Ordered where
  tracked := tracked_next h.tracked hruns.1
  events := events_advance h hruns
  stopped := by
    rw [(lifecycle_advance s r ok).1, (lifecycle_advance s r ok).2]
    exact h.stopped
  shutdown := by
    rw [(lifecycle_advance s r ok).1]
    exact h.shutdown
  rundown := fun captured acts hop kind r' hptr =>
    h.rundown captured acts hop kind r' (request_advance h.tracked
      (h.shutdown ((congrArg Operation.shutsDown hop).trans rfl)) hptr)
  idle := fun hpast => idle_advance h.tracked
    (h.shutdown (Operation.shutsDown_of_pastWaits hpast)) (h.idle hpast)
  closed := fun channel hclosed => disconnected_advance h.tracked
    (h.idle (Operation.pastWaits_of_hasClosed hclosed)) (h.closed channel hclosed)
  suspended := fun hsuspended => by
    obtain ⟨hstopped, hidle, hstate⟩ := h.suspended hsuspended
    exact ⟨(lifecycle_advance s r ok).2.trans hstopped,
      idle_advance h.tracked (h.stopped hstopped) hidle,
      fun channel => disconnected_advance h.tracked hidle (hstate channel)⟩

/-! ### No request moves -/

/-- No request moves, no event is set, no channel becomes connected, and the lifecycle stays. -/
structure Calm (s s' : Driver) : Prop where
  quiet : Quiet s s'
  events : ∀ kind, s'.context.completedEvent kind → s.context.completedEvent kind
  connected : ∀ channel, s'.context.channelState channel = .connected →
    s.context.channelState channel = .connected
  lifecycle : s'.context.shuttingDown = s.context.shuttingDown ∧
    s'.context.pnpStarted = s.context.pnpStarted
  suspended : s'.suspended = s.suspended

theorem Calm.of_eq (hquiet : Quiet s s')
    (hevents : s'.context.completedEvent = s.context.completedEvent)
    (hstate : s'.context.channelState = s.context.channelState)
    (hlifecycle : s'.context.shuttingDown = s.context.shuttingDown ∧
      s'.context.pnpStarted = s.context.pnpStarted)
    (hsuspended : s'.suspended = s.suspended) : Calm s s' :=
  ⟨hquiet, fun _ h => hevents ▸ h, fun _ h => hstate ▸ h, hlifecycle, hsuspended⟩

theorem calm_shutdownAct (s : Driver) (captured : RequestKind → Option RequestId)
    (acts : List ShutdownAct) (act : ShutdownAct) : Calm s (s.shutdownAct captured acts act) := by
  have hquiet := quiet_shutdownAct s captured acts act
  cases act with
  | cancel kind =>
    have hsame : (s.cancel (captured kind)).context = s.context ∧
        (s.cancel (captured kind)).suspended = s.suspended := by
      unfold cancel
      split
      · split_ifs <;> exact ⟨rfl, rfl⟩
      · exact ⟨rfl, rfl⟩
    have hcontext : (s.shutdownAct captured acts (.cancel kind)).context = s.context := hsame.1
    exact .of_eq hquiet (by rw [hcontext]) (by rw [hcontext]) (by rw [hcontext]; exact ⟨rfl, rfl⟩)
      hsame.2
  | wait kind =>
    revert hquiet
    unfold shutdownAct
    dsimp only
    split_ifs <;> exact fun hquiet => .of_eq hquiet rfl rfl ⟨rfl, rfl⟩ rfl

theorem calm_closeStep (s : Driver) (shutdown : Bool) (channel : Channel) (ok : Bool)
    (point : ClosePoint) : Calm s (s.closeStep shutdown channel ok point) := by
  have hquiet := quiet_closeStep s shutdown channel ok point
  revert hquiet
  unfold closeStep Context.closeSection
  cases point with
  | start =>
    dsimp only
    split_ifs with hconnected
    · refine fun hquiet => ⟨hquiet, fun _ h => h, fun channel' h => ?_, ⟨rfl, rfl⟩, rfl⟩
      by_cases hchannel : channel' = channel
      · rw [hchannel, hconnected]
      · simpa [Context.setState, Function.update_of_ne hchannel] using h
    · exact fun hquiet => .of_eq hquiet rfl rfl ⟨rfl, rfl⟩ rfl
  | send handle =>
    dsimp only
    split_ifs <;> exact fun hquiet => .of_eq hquiet rfl rfl ⟨rfl, rfl⟩ rfl
  | sent => exact fun hquiet => .of_eq hquiet rfl rfl ⟨rfl, rfl⟩ rfl
  | reset =>
    exact fun hquiet => ⟨hquiet, fun _ h => h, fun _ h => connected_reset rfl h, ⟨rfl, rfl⟩, rfl⟩

theorem calm_operate (ok : Bool) (hcapture : s.operation ≠ .capture)
    (hend : s.operation ≠ .endShutdown) : Calm s (s.operate ok) := by
  have hquiet := quiet_operate s ok
  revert hquiet
  unfold operate
  cases hop : s.operation with
  | free => exact fun hquiet => .of_eq hquiet rfl rfl ⟨rfl, rfl⟩ rfl
  | register =>
    dsimp only
    split_ifs <;> exact fun hquiet => .of_eq hquiet rfl rfl ⟨rfl, rfl⟩ rfl
  | registerSend =>
    dsimp only
    split_ifs
    · exact fun hquiet =>
        ⟨hquiet, fun _ h => Context.setEvent_of h, fun _ h => h, ⟨rfl, rfl⟩, rfl⟩
    · exact fun hquiet => .of_eq hquiet rfl rfl ⟨rfl, rfl⟩ rfl
  | registerSent =>
    dsimp only [Context.serverRegisterCompleted]
    split_ifs <;> exact fun hquiet => .of_eq hquiet rfl rfl ⟨rfl, rfl⟩ rfl
  | unregister worker =>
    dsimp only
    split_ifs <;> exact fun hquiet => .of_eq hquiet rfl rfl ⟨rfl, rfl⟩ rfl
  | unregisterSend worker =>
    dsimp only
    split_ifs <;> exact fun hquiet => .of_eq hquiet rfl rfl ⟨rfl, rfl⟩ rfl
  | unregisterSent worker =>
    dsimp only [Context.serverUnregisterCompleted, unregistered]
    split_ifs <;> exact fun hquiet => .of_eq hquiet rfl rfl ⟨rfl, rfl⟩ rfl
  | rundown captured acts =>
    cases acts with
    | nil => exact fun hquiet => .of_eq hquiet rfl rfl ⟨rfl, rfl⟩ rfl
    | cons act acts => exact fun _ => calm_shutdownAct s captured acts act
  | close shutdown channel point => exact fun _ => calm_closeStep s shutdown channel ok point
  | capture => exact absurd hop hcapture
  | endShutdown => exact absurd hop hend

theorem Calm.tracked (hcalm : Calm s s') (h : s.Tracked) : s'.Tracked where
  agree := by
    rw [hcalm.quiet.request, hcalm.quiet.place]
    exact h.agree
  pending := by
    rw [hcalm.quiet.request, hcalm.quiet.pending]
    exact h.pending

theorem Ordered.calm (h : s.Ordered) (hcalm : Calm s s')
    (hshutdown : s'.operation.shutsDown → s.operation.shutsDown)
    (hrundown : ∀ captured acts, s'.operation = .rundown captured acts → ∀ kind r,
      s.context.request kind = some r → captured kind = some r ∧ .wait kind ∈ acts)
    (hidle : s'.operation.pastWaits → ∀ kind, s.context.request kind = none)
    (hclosed : ∀ channel, s'.operation.hasClosed channel →
      s'.context.channelState channel ≠ .connected) : s'.Ordered where
  tracked := hcalm.tracked h.tracked
  events := by
    rw [hcalm.quiet.request]
    exact fun kind hevent => h.events kind (hcalm.events kind hevent)
  stopped := by
    rw [hcalm.lifecycle.1, hcalm.lifecycle.2]
    exact h.stopped
  shutdown := by
    rw [hcalm.lifecycle.1]
    exact fun hs' => h.shutdown (hshutdown hs')
  rundown := by
    rw [hcalm.quiet.request]
    exact hrundown
  idle := by
    rw [hcalm.quiet.request]
    exact hidle
  closed := hclosed
  suspended := by
    rw [hcalm.suspended, hcalm.lifecycle.2, hcalm.quiet.request]
    intro hsuspended
    obtain ⟨hstopped, hnone, hstate⟩ := h.suspended hsuspended
    exact ⟨hstopped, hnone, fun channel hs' => hstate channel (hcalm.connected channel hs')⟩

theorem Ordered.calm_of_not (h : s.Ordered) (hcalm : Calm s s')
    (hnot : s'.operation.shutsDown = false) : s'.Ordered := by
  have hpast : ¬ s'.operation.pastWaits := fun hpast => by
    rw [Operation.shutsDown_of_pastWaits hpast] at hnot
    cases hnot
  refine h.calm hcalm (fun hs' => ?_) (fun captured acts hop => ?_) (fun hs' => absurd hs' hpast)
    fun channel hs' => absurd (Operation.pastWaits_of_hasClosed hs') hpast
  · rw [hnot] at hs'
    cases hs'
  · rw [hop] at hnot
    cases hnot

theorem Ordered.calm_of_eq (h : s.Ordered) (hcalm : Calm s s') (hop : s'.operation = s.operation) :
    s'.Ordered := by
  refine h.calm hcalm ?_ ?_ ?_ ?_
  · rw [hop]
    exact fun hs => hs
  · rw [hop]
    exact h.rundown
  · rw [hop]
    exact h.idle
  · rw [hop]
    exact fun channel hclosed hs' => h.closed channel hclosed (hcalm.connected channel hs')

/-! ### The shutdown takes a step -/

theorem ordered_capture (h : s.Ordered) (hop : s.operation = .capture) (ok : Bool) :
    (s.operate ok).Ordered := by
  have heq : s.operate ok = { s with
      context := { s.context with shuttingDown := true }
      operation := .rundown s.context.request shutdownActs } := by
    simp only [operate, hop]
  rw [heq]
  exact
    { tracked := ⟨h.tracked.agree, h.tracked.pending⟩
      events := h.events
      stopped := fun _ => rfl
      shutdown := fun _ => rfl
      rundown := by
        rintro captured acts hrundown kind r hptr
        cases hrundown
        exact ⟨hptr, by cases kind <;> decide⟩
      idle := nofun
      closed := nofun
      suspended := h.suspended }

theorem ordered_act (h : s.Ordered) {captured : RequestKind → Option RequestId}
    {acts : List ShutdownAct} {act : ShutdownAct}
    (hop : s.operation = .rundown captured (act :: acts)) :
    (s.shutdownAct captured acts act).Ordered := by
  have hcalm := calm_shutdownAct s captured acts act
  rcases shutdownAct_cases s captured acts act with hover | hsame
  · have hremains : ∀ kind r, s.context.request kind = some r →
        captured kind = some r ∧ .wait kind ∈ acts := by
      intro kind r hptr
      obtain ⟨hcaptured, hmem⟩ := h.rundown captured (act :: acts) hop kind r hptr
      refine ⟨hcaptured, (List.mem_cons.mp hmem).resolve_left ?_⟩
      rintro rfl
      unfold shutdownAct at hover
      dsimp only at hover
      split_ifs at hover with hdone
      · rcases hdone with hnone | hevent
        · rw [hcaptured] at hnone
          cases hnone
        · rw [h.events kind hevent] at hptr
          cases hptr
      · rw [hop] at hover
        exact absurd (Operation.rundown.inj hover).2 (List.cons_ne_self _ _)
    refine h.calm hcalm (fun _ => by rw [hop]; rfl) (fun captured' acts' hop' => ?_)
      (fun hpast => ?_) (fun channel hclosed => ?_)
    · rw [hover] at hop'
      cases hop'
      exact hremains
    · rw [hover] at hpast
      cases hpast
    · rw [hover] at hclosed
      cases hclosed
  · rw [hsame]
    exact h

theorem hasClosed_closeStep {channel channel' : Channel} {point : ClosePoint}
    (h : (s.closeStep true channel ok point).operation.hasClosed channel') :
    (Operation.close true channel point).hasClosed channel' ∨
      point = .start ∧ channel' = channel := by
  unfold closeStep Context.closeSection at h
  cases point with
  | start =>
    dsimp only at h
    split_ifs at h <;> cases channel <;> cases channel' <;>
      simp_all [Operation.hasClosed, afterClose]
  | send handle =>
    dsimp only at h
    split_ifs at h <;> cases channel <;> exact .inl h
  | sent => cases channel <;> exact .inl h
  | reset => cases channel <;> cases channel' <;> simp_all [Operation.hasClosed, afterClose]

theorem state_closeStart (s : Driver) (channel : Channel) (ok : Bool) :
    (s.closeStep true channel ok .start).context.channelState channel ≠ .connected := by
  unfold closeStep Context.closeSection
  dsimp only
  split_ifs with hconnected
  · simp [Context.setState]
  · exact hconnected

theorem ordered_close (h : s.Ordered) {channel : Channel} {point : ClosePoint}
    (hop : s.operation = .close true channel point) (ok : Bool) :
    (s.closeStep true channel ok point).Ordered := by
  have hpast : s.operation.pastWaits := by rw [hop]; rfl
  have hidle := h.idle hpast
  have hcalm := calm_closeStep s true channel ok point
  refine h.calm hcalm (fun _ => Operation.shutsDown_of_pastWaits hpast)
    (fun captured acts hrundown => absurd hrundown (operation_closeStep s true channel ok point _ _))
    (fun _ => hidle) fun channel' hclosed hconnected => ?_
  have hbefore := hcalm.connected channel' hconnected
  rcases hasClosed_closeStep hclosed with hwas | ⟨rfl, rfl⟩
  · exact h.closed channel' (by rw [hop]; exact hwas) hbefore
  · exact state_closeStart s channel' ok hconnected

theorem shutsDown_closeStep (s : Driver) (channel : Channel) (ok : Bool) (point : ClosePoint) :
    (s.closeStep false channel ok point).operation.shutsDown = false := by
  unfold closeStep Context.closeSection
  cases point with
  | start => dsimp only; split_ifs <;> cases channel <;> rfl
  | send handle => dsimp only; split_ifs <;> rfl
  | sent => rfl
  | reset => cases channel <;> rfl

theorem ordered_end (h : s.Ordered) (hop : s.operation = .endShutdown) (ok : Bool) :
    (s.operate ok).Ordered := by
  have hpast : s.operation.pastWaits := by rw [hop]; rfl
  have hshutting := h.shutdown (Operation.shutsDown_of_pastWaits hpast)
  have heq : s.operate ok = { s with
      context := s.context.endShutdown
      operation := .free
      suspended := s.suspended || !s.context.pnpStarted } := by
    simp only [operate, hop]
  have hsame : s.context.endShutdown = { s.context with
      shuttingDown := s.context.shuttingDown && !s.context.pnpStarted } := by
    cases hstarted : s.context.pnpStarted with
    | true => simp [Context.endShutdown, hstarted]
    | false =>
      rw [Bool.not_false, Bool.and_true]
      exact if_neg (by rw [hstarted]; nofun)
  rw [heq, hsame]
  exact
    { tracked := ⟨h.tracked.agree, h.tracked.pending⟩
      events := h.events
      stopped := fun hstopped => by
        have hstopped' : s.context.pnpStarted = false := hstopped
        simp [hshutting, hstopped']
      shutdown := nofun
      rundown := nofun
      idle := nofun
      closed := nofun
      suspended := fun hsuspended => by
        refine ⟨?_, h.idle hpast, fun channel => h.closed channel (by rw [hop]; rfl)⟩
        rcases Bool.or_eq_true_iff.mp hsuspended with hbefore | hnow
        · exact (h.suspended hbefore).1
        · simpa using hnow }

theorem ordered_operate (h : s.Ordered) (ok : Bool) : (s.operate ok).Ordered := by
  cases hop : s.operation with
  | capture => exact ordered_capture h hop ok
  | rundown captured acts =>
    cases acts with
    | nil =>
      have hcalm := calm_operate ok (s := s) (by rw [hop]; nofun) (by rw [hop]; nofun)
      have hnext : (s.operate ok).operation = .close true .media .start := by
        simp only [operate, hop]
      refine h.calm hcalm (fun _ => by rw [hop]; rfl) ?_ (fun _ kind => ?_) ?_
      · rw [hnext]
        nofun
      · refine Option.eq_none_iff_forall_ne_some.mpr fun r hptr => ?_
        cases (h.rundown captured [] hop kind r hptr).2
      · rw [hnext]
        nofun
    | cons act acts =>
      have hnext : s.operate ok = s.shutdownAct captured acts act := by
        simp only [operate, hop]
      rw [hnext]
      exact ordered_act h hop
  | close shutdown channel point =>
    have hnext : s.operate ok = s.closeStep shutdown channel ok point := by
      simp only [operate, hop]
    rw [hnext]
    cases shutdown with
    | true => exact ordered_close h hop ok
    | false =>
      exact h.calm_of_not (calm_closeStep s false channel ok point)
        (shutsDown_closeStep s channel ok point)
  | endShutdown => exact ordered_end h hop ok
  | free =>
    have hsame : s.operate ok = s := by simp only [operate, hop]
    rwa [hsame]
  | register | registerSend | registerSent | unregister | unregisterSend | unregisterSent =>
    refine h.calm_of_not (calm_operate ok (by rw [hop]; nofun) (by rw [hop]; nofun)) ?_
    simp only [operate, hop, unregistered]
    try split_ifs
    all_goals rfl

/-! ### Every step -/

theorem calm_start (s : Driver) (function : OperationStart) : Calm s (s.start function) := by
  have hquiet := quiet_start s function
  revert hquiet
  unfold start
  split
  · exact fun hquiet => .of_eq hquiet rfl rfl ⟨rfl, rfl⟩ rfl
  · exact fun hquiet => .of_eq hquiet rfl rfl ⟨rfl, rfl⟩ rfl
  · split_ifs <;> exact fun hquiet => .of_eq hquiet rfl rfl ⟨rfl, rfl⟩ rfl
  · exact fun hquiet => .of_eq hquiet rfl rfl ⟨rfl, rfl⟩ rfl
  · exact fun hquiet => .of_eq hquiet rfl rfl ⟨rfl, rfl⟩ rfl
  · exact fun hquiet => .of_eq hquiet rfl rfl ⟨rfl, rfl⟩ rfl

theorem ordered_start (h : s.Ordered) (function : OperationStart) :
    (s.start function).Ordered := by
  cases hop : s.operation with
  | free =>
    refine h.calm_of_not (calm_start s function) ?_
    cases function with
    | rundownWorker =>
      simp only [start, hop]
      split_ifs
      · rfl
      · rw [hop]
        rfl
    | register | unregister | closeChannels | shutdown => simp only [start, hop]; rfl
  | _ =>
    have hsame : s.start function = s := by simp only [start, hop]
    rw [hsame]
    exact h

theorem ordered_lifecycle (h : s.Ordered) {started : Bool}
    (hruns : s.RunsDown (.lifecycle started)) : (s.lifecycle started).Ordered where
  tracked := ⟨h.tracked.agree, h.tracked.pending⟩
  events := h.events
  stopped := fun hstopped => by
    have hstopped' : started = false := hstopped
    subst hstopped'
    rfl
  shutdown := fun hop => by
    cases started with
    | true => exact absurd hop (hruns.2 rfl)
    | false => rfl
  rundown := h.rundown
  idle := h.idle
  closed := h.closed
  suspended := fun hsuspended => by
    obtain ⟨hbefore, hstopped⟩ := Bool.and_eq_true_iff.mp hsuspended
    have hstarted : started = false := by simpa using hstopped
    exact ⟨hstarted, (h.suspended hbefore).2⟩

theorem ordered_next {step : DriverStep} (h : s.Ordered) (hruns : s.RunsDown step) :
    (transport.next s step).Ordered := by
  cases step with
  | enter r kind =>
    by_cases hadmits : (s.requests r).point = .unborn ∧ s.admits kind
    · have hnext : transport.next s (.enter r kind) =
          s.setRequest r { kind, point := .entered, reference := { taken := 1 } } :=
        if_pos hadmits
      have htracked := tracked_next h.tracked hruns.1
      rw [hnext] at htracked ⊢
      exact
        { tracked := htracked
          events := h.events
          stopped := h.stopped
          shutdown := h.shutdown
          rundown := h.rundown
          idle := h.idle
          closed := h.closed
          suspended := h.suspended }
    · have hsame : transport.next s (.enter r kind) = s := if_neg hadmits
      rwa [hsame]
  | advance r ok => exact ordered_advance h hruns
  | disconnect r =>
    have hquiet := quiet_disconnect s r
    have hcalm : Calm s (s.disconnect r) ∧ (s.disconnect r).operation = s.operation := by
      revert hquiet
      unfold disconnect
      split_ifs
      · exact fun hquiet => ⟨⟨hquiet, fun _ hevent => hevent,
          fun _ hstate => connected_reset rfl hstate, ⟨rfl, rfl⟩, rfl⟩, rfl⟩
      · exact fun hquiet => ⟨.of_eq hquiet rfl rfl ⟨rfl, rfl⟩ rfl, rfl⟩
    exact h.calm_of_eq hcalm.1 hcalm.2
  | lifecycle started => exact ordered_lifecycle h hruns
  | start function => exact ordered_start h function
  | operate ok => exact ordered_operate h ok
  | workerReports =>
    have hquiet := quiet_workerReports s
    have hcalm : Calm s s.workerReports ∧ s.workerReports.operation = s.operation := by
      revert hquiet
      unfold workerReports
      split <;> exact fun hquiet => ⟨.of_eq hquiet rfl rfl ⟨rfl, rfl⟩ rfl, rfl⟩
    exact h.calm_of_eq hcalm.1 hcalm.2

/-- **The rundown is complete**: when a shutdown comes to its last section nothing is outstanding
    and no channel is connected, and none is after a suspend until the device is started. -/
theorem rundown_complete {steps : List DriverStep} (h : transport.Along RunsDown {} steps) :
    (transport.after {} steps).RunDown :=
  (Reducer.after_inv (fun _ _ => ordered_next) ordered_init h).runDown

/-- A read is with the stack, is cancelled there, and completed before the shutdown waits. -/
theorem rundown_complete_read :
    (transport.after {} (headsetConnects ++
      [.enter 1 .readSignaling, .advance 1 true, .advance 1 true, .advance 1 true, .advance 1 true,
        .start .shutdown, .operate true, .operate true, .advance 1 true, .advance 1 true,
        .advance 1 true] ++ List.replicate 16 (.operate true))).RunDown :=
  rundown_complete (by decide +kernel)

/-- A read is handed back, and another accepted before the event of the first one is set: the
    shutdown takes it for that of the second. -/
def staleSignal : List DriverStep :=
  headsetConnects ++
    [.enter 1 .readSignaling, .advance 1 true, .advance 1 true, .advance 1 true, .advance 1 true,
      .advance 1 true, .advance 1 true, .enter 2 .readSignaling, .advance 2 true, .advance 1 true,
      .start .shutdown] ++ List.replicate 19 (.operate true)

/-- The shutdown is over while the second read is allocated, and it is sent after that. -/
theorem stale_signal_not_runDown :
    ¬ (transport.after {} staleSignal).RunDown ∧
      ((transport.after {} (staleSignal ++ [.operate true, .advance 2 true, .advance 2 true,
        .advance 2 true])).requests 2).point = .sent := by
  have hend : (transport.after {} staleSignal).operation = .endShutdown := rfl
  refine ⟨fun hrunDown => (hrunDown.returns hend).1 2 ?_, ?_⟩ <;> decide

end Driver

end NativeLdac.Transport
