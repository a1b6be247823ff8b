/-
  Opening signaling while the server listens (`driver/sys/connection.c`,
  `LdacNativeOpenSignaling`, with the registration and the rundown of the server).

  * `Context.openSignaling` is a whole call, cut at its locks; every BRB succeeds, and the
    headset's request comes to a server that is registered, at a time that `Arrival` says;
  * the headset's request takes the steps of any request (`answer`), so it may be anywhere
    when the call looks at it;
  * `Context.Listens` is what the call needs of the state that it finds: a server that is not
    registered is registered afresh, one that is must neither be draining nor have left the
    event of an earlier connection set.
-/
import NativeLdac.Transport.Requests

namespace NativeLdac.Transport

/-! ## The call -/

/-- When the headset's request takes its steps: before the call, and before its section; and
    whether the rundown worker runs before that, if it can -/
structure Arrival where
  before : Nat
  between : Nat
  workerFirst : Bool

/-- The headset's request takes some steps; its BRB succeeds. -/
def answer (r : RequestId) : Nat → Request × Context → Request × Context
  | 0, (q, c) => (q, c)
  | n + 1, (q, c) => answer r n (c.advance r q true)

/-- A request of the headset comes. -/
def incomingRequest : Request :=
  { kind := .incomingSignaling, point := .entered, reference := { taken := 1 } }

namespace Context

/-- `LdacNativeRegisterSignalingServer`, and its BRB succeeds -/
def registerServer (c : Context) : Context :=
  if c.serverRegistered then c.reuseServer
  else (c.setEvent .incomingSignaling false).serverRegisterCompleted true

/-- `WdfWorkItemFlush`: the rundown worker has run, and its BRB succeeded. -/
def flushRundown (c : Context) : Context :=
  if c.serverRundownQueued then
    let drained := c.drainServer true
    (if c.serverRegistered then drained.serverUnregisterCompleted true else drained).reportRundown
      .success
  else c

/-- The channel is connected: the rundown is flushed, and its status is returned if it failed. -/
def reportConnected (c : Context) : NtStatus × Context :=
  let flushed := c.flushRundown
  let status := flushed.serverRundownStatus
  if ¬ status.isSuccess ∨ flushed.channelState .signaling ≠ .connected then
    (if status.isSuccess then .connectionDisconnected else status, flushed)
  else (.success, flushed)

/-- After the wait for the headset -/
def woken (c : Context) (timedOut : Bool) : NtStatus × Context :=
  if c.shuttingDown then (.deviceNotReady, c)
  else if c.channelState .signaling = .connected then c.reportConnected
  else if timedOut then (.ioTimeout, c)
  else (.connectionDisconnected, c)

/-- The wait ends at once if the event is set, else when the headset's request has been answered,
    or with its timeout. -/
def awaitIncoming (c : Context) (r : RequestId) (q : Request) : NtStatus × Context :=
  if c.completedEvent .incomingSignaling then c.woken false
  else
    let answered := answer r 5 (q, c)
    answered.2.woken (!answered.2.completedEvent .incomingSignaling)

/-- `registerIncomingServer` -/
def registersServer (c : Context) : Bool :=
  c.pnpStarted && !c.shuttingDown && c.channelState .signaling == .disconnected &&
    !c.serverRegistered

/-- The call `q` from its section on, while the headset's request `r` goes on -/
def openSignalingEnd (c : Context) (q r : RequestId) (incoming : Request) : NtStatus × Context :=
  match c.openSignalingSection q with
  | (.rejected status, context) => (status, context)
  | (.connected, context) => context.reportConnected
  | (.waits, context) => context.awaitIncoming r incoming
  | (.accepted, context) =>
    let completed := context.openCompletion .openSignaling q true
    (if completed.1 then .success else .unsuccessful, completed.2.2)

/-- `LdacNativeOpenSignaling`, as the call `q`, with the headset's request `r` -/
def openSignaling (c : Context) (q r : RequestId) (arrival : Arrival) : NtStatus × Context :=
  let arrived :=
    if c.serverRegistered then answer r arrival.before (incomingRequest, c)
    else (incomingRequest, c)
  if ¬ arrived.2.inboundSignalingReady then (.deviceNotReady, arrived.2)
  else
    let flushed := arrived.2.flushRundown
    if arrived.2.serverRundownQueued ∧ ¬ flushed.serverRundownStatus.isSuccess then
      (flushed.serverRundownStatus, flushed)
    else
      let registered := if flushed.registersServer then flushed.registerServer else flushed
      let answered := answer r arrival.between (arrived.1, registered)
      let found := if arrival.workerFirst then answered.2.flushRundown else answered.2
      found.openSignalingEnd q r answered.1

/-- A call returns success, with the headset's channel connected. -/
def Succeeds (r : RequestId) (result : NtStatus × Context) : Prop :=
  result.1 = .success ∧ result.2.channelState .signaling = .connected ∧
    result.2.channelHandle .signaling = some r

/-- The next call waits for the headset, and succeeds, whenever its request comes. -/
def Recovers (c : Context) : Prop :=
  ∀ q r arrival, Succeeds r (c.openSignaling q r arrival)

/-- The server listens, or is registered when the call comes. -/
def Listens (c : Context) : Bool :=
  c.inboundSignalingReady &&
    (!c.serverRegistered || !c.serverDraining && !c.completedEvent .incomingSignaling)

end Context

/-! ## The headset's request -/

/-- The server listens for the headset. -/
structure Awaiting (c : Context) : Prop where
  state : c.channelState .signaling = .disconnected
  registered : c.serverRegistered = true
  draining : c.serverDraining = false
  rundown : c.serverRundownQueued = false
  request : c.request .incomingSignaling = none
  event : c.completedEvent .incomingSignaling = false

/-- The headset is being answered. -/
structure Connecting (r : RequestId) (c : Context) : Prop where
  state : c.channelState .signaling = .connecting
  rundown : c.serverRundownQueued = false
  request : c.request .incomingSignaling = some r
  event : c.completedEvent .incomingSignaling = false

/-- The headset's channel is connected, and the rundown is on its way or over. -/
structure Connected (r : RequestId) (c : Context) : Prop where
  state : c.channelState .signaling = .connected
  handle : c.channelHandle .signaling = some r
  rundown : c.serverRundownQueued = true ∨ c.serverRundownStatus = .success

/-- Where the headset's request is when it has `n` steps before it -/
inductive Stage (r : RequestId) (q : Request) (c : Context) : Nat → Prop
  | comes (point : q.point = .entered) (h : Awaiting c) : Stage r q c 5
  | accepted (point : q.point = .brb) (h : Connecting r c) : Stage r q c 4
  | sent (point : q.point = .sent) (h : Connecting r c) : Stage r q c 3
  | settled (point : q.point = .settled true true) (h : Connected r c) : Stage r q c 2
  | signalling (point : q.point = .signalling true) (h : Connected r c) : Stage r q c 1
  | done (point : q.point = .done) (h : Connected r c)
      (event : c.completedEvent .incomingSignaling = true) : Stage r q c 0

structure Answering (r : RequestId) (q : Request) (c : Context) (n : Nat) : Prop where
  kind : q.kind = .incomingSignaling
  running : c.shuttingDown = false
  ready : c.inboundSignalingReady = true
  stage : Stage r q c n

variable {c : Context} {r : RequestId} {q : Request} {n : Nat}

theorem connected_queueServerRundown (hstate : c.channelState .signaling = .connected)
    (hhandle : c.channelHandle .signaling = some r) : Connected r c.queueServerRundown := by
  unfold Context.queueServerRundown
  split_ifs with hqueued
  · exact ⟨hstate, hhandle, .inl hqueued⟩
  · exact ⟨hstate, hhandle, .inl rfl⟩

theorem answering_advance (h : Answering r q c n) :
    Answering r (c.advance r q true).1 (c.advance r q true).2 (n - 1) := by
  obtain ⟨hkind, hrunning, hready, hstage⟩ := h
  have hkind' : (c.advance r q true).1.kind = .incomingSignaling :=
    (kind_advance c r q true).trans hkind
  unfold Context.advance at hkind' ⊢
  cases hstage with
  | comes hpoint hawaiting =>
    obtain ⟨hstate, hregistered, hdraining, hrundown, hrequest, hevent⟩ := hawaiting
    have haccepted : c.acceptSection q.kind r true = (.accepted,
        (((c.setState .signaling .connecting).setRequest .incomingSignaling r).setEvent
          .incomingSignaling false).setEvent .openSignaling false) := by
      rw [hkind]
      exact if_pos ⟨hrunning, hdraining, rfl, hstate, hrequest⟩
    rw [hpoint] at hkind' ⊢
    dsimp only at hkind' ⊢
    rw [haccepted] at hkind' ⊢
    refine ⟨hkind', hrunning, hready, .accepted ?_ ⟨rfl, hrundown, rfl, rfl⟩⟩
    exact if_pos hkind
  | accepted hpoint hconnecting =>
    rw [hpoint] at hkind' ⊢
    exact ⟨hkind', hrunning, hready, .sent rfl hconnecting⟩
  | sent hpoint hconnecting =>
    obtain ⟨hstate, hrundown, hrequest, hevent⟩ := hconnecting
    have hcompleted : c.completionSection q.kind r true =
        (true, true, (((c.setRequest .incomingSignaling none).connect .signaling
          r).queueServerRundown)) := by
      rw [hkind]
      exact (if_pos hrequest).trans (if_pos ⟨rfl, hstate⟩)
    rw [hpoint] at hkind' ⊢
    dsimp only at hkind' ⊢
    rw [hcompleted]
    have hlifecycle : ∀ c' : Context, c'.queueServerRundown.shuttingDown = c'.shuttingDown ∧
        c'.queueServerRundown.inboundSignalingReady = c'.inboundSignalingReady := by
      intro c'
      unfold Context.queueServerRundown
      split_ifs <;> exact ⟨rfl, rfl⟩
    exact ⟨hkind', (hlifecycle _).1.trans hrunning, (hlifecycle _).2.trans hready,
      .settled rfl (connected_queueServerRundown rfl rfl)⟩
  | settled hpoint hconnected =>
    rw [hpoint] at hkind' ⊢
    dsimp only at hkind' ⊢
    have hclosed : ¬ (q.kind.isOpen ∧ ¬ true) := fun hreset => hreset.2 rfl
    rw [if_neg hclosed] at hkind' ⊢
    exact ⟨hkind', hrunning, hready, .signalling rfl hconnected⟩
  | signalling hpoint hconnected =>
    obtain ⟨hstate, hhandle, hrundown⟩ := hconnected
    rw [hpoint] at hkind' ⊢
    dsimp only at hkind' ⊢
    rw [if_neg fun hquiet => hquiet.2 rfl, hkind]
    exact ⟨rfl, hrunning, hready, .done rfl ⟨hstate, hhandle, hrundown⟩ rfl⟩
  | done hpoint hconnected hevent =>
    rw [hpoint] at hkind' ⊢
    exact ⟨hkind, hrunning, hready, .done hpoint hconnected hevent⟩

theorem answering_answer (h : Answering r q c n) (m : Nat) :
    Answering r (answer r m (q, c)).1 (answer r m (q, c)).2 (n - m) := by
  induction m generalizing q c n with
  | zero => exact h
  | succ m ih =>
    have hnext := ih (answering_advance h)
    rwa [Nat.sub_sub, Nat.add_comm 1 m] at hnext

/-! ## The rundown worker -/

theorem connected_flushRundown (h : Connected r c) :
    Connected r c.flushRundown ∧ c.flushRundown.serverRundownStatus = .success := by
  obtain ⟨hstate, hhandle, hrundown⟩ := h
  unfold Context.flushRundown
  split_ifs with hqueued hregistered
  · exact ⟨⟨hstate, hhandle, .inr rfl⟩, rfl⟩
  · exact ⟨⟨hstate, hhandle, .inr rfl⟩, rfl⟩
  · have hsuccess := hrundown.resolve_left hqueued
    exact ⟨⟨hstate, hhandle, .inr hsuccess⟩, hsuccess⟩

theorem flushRundown_of_not (h : c.serverRundownQueued = false) :
    c.flushRundown = c :=
  if_neg (by rw [h]; nofun)

theorem lifecycle_flushRundown (c : Context) :
    c.flushRundown.shuttingDown = c.shuttingDown ∧
      c.flushRundown.inboundSignalingReady = c.inboundSignalingReady ∧
      c.flushRundown.completedEvent = c.completedEvent := by
  unfold Context.flushRundown
  split_ifs
  · exact ⟨rfl, Bool.and_true _, rfl⟩
  · exact ⟨rfl, Bool.and_true _, rfl⟩
  · exact ⟨rfl, rfl, rfl⟩

theorem answering_flushRundown (h : Answering r q c n) :
    Answering r q c.flushRundown n := by
  obtain ⟨hkind, hrunning, hready, hstage⟩ := h
  obtain ⟨hshutting, hflag, hevents⟩ := lifecycle_flushRundown c
  refine ⟨hkind, hshutting.trans hrunning, hflag.trans hready, ?_⟩
  cases hstage with
  | comes hpoint hawaiting =>
    exact (flushRundown_of_not hawaiting.rundown).symm ▸ .comes hpoint hawaiting
  | accepted hpoint hconnecting =>
    exact (flushRundown_of_not hconnecting.rundown).symm ▸ .accepted hpoint hconnecting
  | sent hpoint hconnecting =>
    exact (flushRundown_of_not hconnecting.rundown).symm ▸ .sent hpoint hconnecting
  | settled hpoint hconnected => exact .settled hpoint (connected_flushRundown hconnected).1
  | signalling hpoint hconnected => exact .signalling hpoint (connected_flushRundown hconnected).1
  | done hpoint hconnected hevent =>
    exact .done hpoint (connected_flushRundown hconnected).1 (hevents ▸ hevent)

/-! ## The call returns -/

theorem succeeds_reportConnected (h : Connected r c) :
    Context.Succeeds r c.reportConnected := by
  obtain ⟨hflushed, hstatus⟩ := connected_flushRundown h
  unfold Context.reportConnected
  dsimp only
  rw [if_neg (by rw [hstatus, hflushed.state]; simp [NtStatus.isSuccess])]
  exact ⟨rfl, hflushed.state, hflushed.handle⟩

theorem succeeds_woken (hrunning : c.shuttingDown = false) (h : Connected r c) (timedOut : Bool) :
    Context.Succeeds r (c.woken timedOut) := by
  unfold Context.woken
  rw [if_neg (by rw [hrunning]; nofun), if_pos h.state]
  exact succeeds_reportConnected h

theorem succeeds_awaitIncoming (h : Answering r q c n) (hn : n ≤ 5)
    (hevent : c.completedEvent .incomingSignaling = false) :
    Context.Succeeds r (c.awaitIncoming r q) := by
  have hend := answering_answer h 5
  rw [Nat.sub_eq_zero_of_le hn] at hend
  have hstage := hend.stage
  unfold Context.awaitIncoming
  rw [if_neg (by rw [hevent]; nofun)]
  dsimp only
  generalize answer r 5 (q, c) = answered at hend hstage ⊢
  cases hstage with
  | done _ hconnected _ => exact succeeds_woken hend.running hconnected _

theorem succeeds_openSignalingEnd {q r : RequestId} {incoming : Request}
    (h : Answering r incoming c n) :
    Context.Succeeds r (c.openSignalingEnd q r incoming) := by
  have hrunning := h.running
  have hwaits : c.channelState .signaling ≠ .connected → c.awaitsIncoming →
      c.openSignalingSection q = (.waits, c) := by
    intro hstate hawaits
    unfold Context.openSignalingSection
    rw [if_neg (by rw [hrunning]; nofun), if_neg hstate, if_pos hawaits]
  have hconnects : ∀ {c : Context}, c.shuttingDown = false →
      c.channelState .signaling = .connected → c.openSignalingSection q = (.connected, c) := by
    intro c hrunning hstate
    unfold Context.openSignalingSection
    rw [if_neg (by rw [hrunning]; nofun), if_pos hstate]
  unfold Context.openSignalingEnd
  cases h.stage with
  | comes hpoint hawaiting =>
    rw [hwaits (by rw [hawaiting.state]; nofun)
      (by simp [Context.awaitsIncoming, hawaiting.state, hawaiting.registered, hawaiting.draining])]
    exact succeeds_awaitIncoming h (Nat.le_refl 5) hawaiting.event
  | accepted hpoint hconnecting =>
    rw [hwaits (by rw [hconnecting.state]; nofun)
      (by simp [Context.awaitsIncoming, hconnecting.state, hconnecting.request])]
    exact succeeds_awaitIncoming h (by decide) hconnecting.event
  | sent hpoint hconnecting =>
    rw [hwaits (by rw [hconnecting.state]; nofun)
      (by simp [Context.awaitsIncoming, hconnecting.state, hconnecting.request])]
    exact succeeds_awaitIncoming h (by decide) hconnecting.event
  | settled _ hconnected | signalling _ hconnected | done _ hconnected _ =>
    rw [hconnects hrunning hconnected.state]
    exact succeeds_reportConnected hconnected

/-! ## The next call -/

/-- The device runs, and nothing goes on that concerns the signaling channel. -/
structure Context.Idle (c : Context) : Prop where
  started : c.pnpStarted = true
  running : c.shuttingDown = false
  state : c.channelState .signaling = .disconnected
  requests : ∀ kind, c.request kind = none
  rundown : c.serverRundownQueued = false

theorem flushed_of_answering (h : Answering r q c n) :
    ¬ (c.serverRundownQueued ∧ ¬ c.flushRundown.serverRundownStatus.isSuccess) := by
  rintro ⟨hqueued, hfailed⟩
  have hflushed : Connected r c → False := fun hconnected =>
    hfailed (by rw [(connected_flushRundown hconnected).2]; rfl)
  have hnot : c.serverRundownQueued = false → False := fun hnone => by
    rw [hnone] at hqueued
    cases hqueued
  cases h.stage with
  | comes _ hawaiting => exact hnot hawaiting.rundown
  | accepted _ hconnecting | sent _ hconnecting => exact hnot hconnecting.rundown
  | settled _ hconnected | signalling _ hconnected | done _ hconnected _ =>
    exact hflushed hconnected

theorem registersServer_of_answering (h : Answering r q c n) :
    c.registersServer = false := by
  unfold Context.registersServer
  cases h.stage with
  | comes _ hawaiting => simp [hawaiting.registered]
  | accepted _ hconnecting | sent _ hconnecting => simp [hconnecting.state]
  | settled _ hconnected | signalling _ hconnected | done _ hconnected _ =>
    simp [hconnected.state]

theorem succeeds_of_answering {q r : RequestId} {incoming : Request}
    (h : Answering r incoming c n) (arrival : Arrival) :
    Context.Succeeds r
      ((if arrival.workerFirst then (answer r arrival.between (incoming, c)).2.flushRundown
        else (answer r arrival.between (incoming, c)).2).openSignalingEnd q r
          (answer r arrival.between (incoming, c)).1) := by
  have hanswered := answering_answer h arrival.between
  split_ifs
  · exact succeeds_openSignalingEnd (answering_flushRundown hanswered)
  · exact succeeds_openSignalingEnd hanswered

theorem recovers_of_listens (h : c.Idle) (hlistens : c.Listens) : c.Recovers := by
  obtain ⟨hstarted, hrunning, hstate, hrequests, hrundown⟩ := h
  intro q r arrival
  unfold Context.openSignaling
  unfold Context.Listens at hlistens
  obtain ⟨hready, hserver⟩ := Bool.and_eq_true_iff.mp hlistens
  cases hregistered : c.serverRegistered with
  | true =>
    obtain ⟨hdraining, hevent⟩ : c.serverDraining = false ∧
        c.completedEvent .incomingSignaling = false := by
      simpa [hregistered] using hserver
    have hcomes : Answering r incomingRequest c 5 := ⟨rfl, hrunning, hready,
      .comes rfl ⟨hstate, hregistered, hdraining, hrundown, hrequests _, hevent⟩⟩
    have harrived := answering_answer hcomes arrival.before
    have hflushed := answering_flushRundown harrived
    simp only [if_true]
    generalize answer r arrival.before (incomingRequest, c) = arrived at harrived hflushed ⊢
    rw [if_neg (by rw [harrived.ready]; nofun), if_neg (flushed_of_answering harrived),
      registersServer_of_answering hflushed]
    exact succeeds_of_answering hflushed arrival
  | false =>
    have hflush := flushRundown_of_not hrundown
    have hregisters : c.registersServer = true := by
      simp [Context.registersServer, hstarted, hrunning, hstate, hregistered]
    have hcomes : Answering r incomingRequest c.registerServer 5 := by
      unfold Context.registerServer
      rw [hregistered]
      exact ⟨rfl, hrunning, rfl, .comes rfl ⟨hstate, rfl, rfl, hrundown, hrequests _, rfl⟩⟩
    simp only [Bool.false_eq_true, if_false]
    rw [if_neg (by rw [hready]; nofun), hflush, if_neg (by rw [hrundown]; nofun), if_pos hregisters]
    exact succeeds_of_answering hcomes arrival

theorem openSignaling_of_registered (h : c.Idle) (hready : c.inboundSignalingReady = true)
    (hregistered : c.serverRegistered = true) (q r : RequestId) :
    c.openSignaling q r ⟨0, 0, false⟩ = c.openSignalingEnd q r incomingRequest := by
  have hregisters : c.registersServer = false := by simp [Context.registersServer, hregistered]
  unfold Context.openSignaling
  simp only [hregistered, if_true, answer, hready, not_true_eq_false, if_false,
    flushRundown_of_not h.rundown, h.rundown, Bool.false_eq_true, false_and, hregisters]

theorem openSignaling_of_not_ready (hready : c.inboundSignalingReady = false) (q r : RequestId) :
    (c.openSignaling q r ⟨0, 0, false⟩).1 = .deviceNotReady := by
  have harrived : (if c.serverRegistered then answer r 0 (incomingRequest, c)
      else (incomingRequest, c)) = (incomingRequest, c) := by
    split_ifs <;> rfl
  unfold Context.openSignaling
  dsimp only
  rw [harrived, if_pos (by rw [hready]; nofun)]

theorem openSignalingEnd_of_draining (h : c.Idle) (hdraining : c.serverDraining = true)
    (q r : RequestId) (incoming : Request) :
    (c.openSignalingEnd q r incoming).1 = .deviceBusy := by
  have hsection : c.openSignalingSection q = (.rejected .deviceBusy, c) := by
    unfold Context.openSignalingSection
    rw [if_neg (by rw [h.running]; nofun), if_neg (by rw [h.state]; nofun),
      if_neg (by simp [Context.awaitsIncoming, h.state, hdraining]), if_pos hdraining]
  unfold Context.openSignalingEnd
  rw [hsection]

theorem openSignalingEnd_of_event (h : c.Idle) (hregistered : c.serverRegistered = true)
    (hdraining : c.serverDraining = false) (hevent : c.completedEvent .incomingSignaling = true)
    (q r : RequestId) (incoming : Request) :
    (c.openSignalingEnd q r incoming).1 = .connectionDisconnected := by
  have hsection : c.openSignalingSection q = (.waits, c) := by
    unfold Context.openSignalingSection
    rw [if_neg (by rw [h.running]; nofun), if_neg (by rw [h.state]; nofun),
      if_pos (by simp [Context.awaitsIncoming, h.state, hregistered, hdraining])]
  unfold Context.openSignalingEnd
  rw [hsection]
  dsimp only
  unfold Context.awaitIncoming Context.woken
  rw [if_pos hevent, if_neg (by rw [h.running]; nofun), if_neg (by rw [h.state]; nofun),
    if_neg nofun]

theorem listens_of_recovers (h : c.Idle) (hrecovers : c.Recovers) : c.Listens := by
  have hsuccess := (hrecovers 0 0 ⟨0, 0, false⟩).1
  cases hready : c.inboundSignalingReady with
  | false =>
    rw [openSignaling_of_not_ready hready] at hsuccess
    cases hsuccess
  | true =>
    cases hregistered : c.serverRegistered with
    | false => simp [Context.Listens, hready, hregistered]
    | true =>
      rw [openSignaling_of_registered h hready hregistered] at hsuccess
      cases hdraining : c.serverDraining with
      | true =>
        rw [openSignalingEnd_of_draining h hdraining] at hsuccess
        cases hsuccess
      | false =>
        cases hevent : c.completedEvent .incomingSignaling with
        | false => simp [Context.Listens, hready, hregistered, hdraining, hevent]
        | true =>
          rw [openSignalingEnd_of_event h hregistered hdraining hevent] at hsuccess
          cases hsuccess

/-! ## Over all histories -/

namespace Driver

/-- The device runs, the signaling channel is disconnected, and nothing is in progress. -/
structure Quiescent (s : Driver) : Prop where
  idle : s.context.Idle
  requests : ∀ r, (s.requests r).point = .unborn ∨ (s.requests r).point = .done
  operation : s.operation = .free
  worker : s.worker = .idle

/-- **Listening recovers**, after any history that ends at rest, exactly when the server is not
    registered, or listens and has no connection's event left. -/
theorem recovers_iff_listens {steps : List DriverStep}
    (h : (transport.after {} steps).Quiescent) :
    (transport.after {} steps).context.Recovers ↔ (transport.after {} steps).context.Listens :=
  ⟨listens_of_recovers h.idle, recovers_of_listens h.idle⟩

/-- The device has started. -/
theorem recovers_iff_listens_started :
    (transport.after {} [.lifecycle true, .start .register, .operate true, .operate true,
        .operate true]).context.Recovers ↔
      (transport.after {} [.lifecycle true, .start .register, .operate true, .operate true,
        .operate true]).context.Listens :=
  recovers_iff_listens
    { idle := ⟨rfl, rfl, rfl, fun _ => rfl, rfl⟩
      requests := fun _ => .inl rfl
      operation := rfl
      worker := rfl }

/-- The headset's first request is accepted, and fails. -/
def incomingFails : List DriverStep :=
  [.lifecycle true, .start .register, .operate true, .operate true, .operate true,
    .enter 0 .incomingSignaling, .advance 0 true, .advance 0 true, .advance 0 false,
    .advance 0 true, .advance 0 true]

/-- The headset connects, the server is not unregistered after that, and the headset disconnects. -/
def unregisterFails : List DriverStep :=
  headsetConnects ++
    [.start .rundownWorker, .operate true, .operate true, .operate false, .workerReports,
      .disconnect 0]

theorem idle_of_only_zero {steps : List DriverStep} (hnot : ∀ r kind, r ≠ 0 → .enter r kind ∉ steps)
    (hdone : ((transport.after {} steps).requests 0).point = .done) (r : RequestId) :
    ((transport.after {} steps).requests r).point = .unborn ∨
      ((transport.after {} steps).requests r).point = .done := by
  by_cases hr : r = 0
  · subst hr
    exact .inr hdone
  · exact .inl (unborn_after rfl fun kind => hnot r kind hr)

/-- After an attempt that failed the next call finds its event set, and after a server that was not
    unregistered every call finds it draining. -/
theorem listening_lost :
    ((transport.after {} incomingFails).Quiescent ∧
        ((transport.after {} incomingFails).context.openSignaling 1 2 ⟨0, 0, false⟩).1 =
          .connectionDisconnected) ∧
      (transport.after {} unregisterFails).Quiescent ∧
        ((transport.after {} unregisterFails).context.openSignaling 1 2 ⟨0, 0, false⟩).1 =
          .deviceBusy := by
  have hnot : ∀ steps ∈ [incomingFails, unregisterFails], ∀ r kind, r ≠ 0 →
      DriverStep.enter r kind ∉ steps := by
    intro steps hsteps r kind hr hmem
    simp only [List.mem_cons, List.not_mem_nil, or_false] at hsteps
    rcases hsteps with rfl | rfl
    · simp [incomingFails, hr] at hmem
    · simp [unregisterFails, headsetConnects, hr] at hmem
  refine ⟨⟨?_, by decide⟩, ?_, by decide⟩
  · exact
      { idle := ⟨by decide, by decide, by decide, fun kind => by cases kind <;> decide, by decide⟩
        requests := idle_of_only_zero (hnot _ (by simp)) (by decide)
        operation := rfl
        worker := by decide }
  · exact
      { idle := ⟨by decide, by decide, by decide, fun kind => by cases kind <;> decide, by decide⟩
        requests := idle_of_only_zero (hnot _ (by simp)) (by decide)
        operation := rfl
        worker := by decide }

end Driver

end NativeLdac.Transport
