/-
  The handshake of the transport sessions of the agent: the backend they run
  against, their external calls and what each of them gets from the peer, and
  the loop over the commands of a negotiation.

  * `HandshakeSession` holds what a session reports, its AVDTP source, and in
    `calls` the external calls it has made, the last one first;
  * `acceptedSteps` reads from the calls alone what the peer accepted, in order;
  * `OnCourse` relates the source to these steps, by the course of the source;
  * `spec_whileSending`: a negotiation ends, and keeps that relation.
-/
import NativeLdac.Agent.PcmSession
import NativeLdac.Lib.Bracket
import NativeLdac.Protocol.AvdtpNegotiation

namespace NativeLdac.Agent

open Protocol

/-! ## Sessions -/

/-- `V1TransportConfigurationBackend`.  The last `UInt32` of a call is the error
    code it finds; timeouts come before it. -/
structure V1TransportConfigurationBackend (Ω : Type) where
  openSignaling : UInt32 → UInt32 → Ω → Answer × Ω
  closeSignaling : UInt32 → Ω → Answer × Ω
  exchangeSignaling : List UInt8 → UInt32 → UInt32 → Ω → ExchangeAnswer × Ω
  openMedia : UInt32 → UInt16 → UInt32 → Ω → OpenMediaAnswer × Ω

/-- `V1TransportCancelProbe`, null or not. -/
def V1TransportCancelProbe (Ω : Type) := Option (Ω → Bool × Ω)

def V1TransportCancelProbe.answer {Ω : Type} (probe : V1TransportCancelProbe Ω) (world : Ω) :
    Bool × Ω :=
  match probe with
  | none => (false, world)
  | some probe => probe world

/-- What the session receives, unless the exchange failed. -/
def ExchangeAnswer.reply? (answer : ExchangeAnswer) : Option (List UInt8) :=
  if answer.ok then some answer.response else none

/-- The disposition of a session whose backend call failed. -/
def failedCall (cancelled : Bool) : V1TransportConfigurationDisposition :=
  if cancelled then .cancelled else .backendFailure

theorem failedCall_ne (cancelled : Bool) : failedCall cancelled ≠ .succeeded := by
  cases cancelled <;> decide

/-- An external call of a session and its answer. -/
inductive HandshakeCall where
  | openSignaling (ok : Bool)
  | closeSignaling (ok : Bool)
  /-- a packet sent, and the packet received unless the exchange failed -/
  | exchange (sent : List UInt8) (reply : Option (List UInt8))
  | openMedia (ok : Bool)
  | writeMedia (packet : List UInt8) (ok : Bool)
deriving DecidableEq, Repr

structure HandshakeSession (R Ω : Type) where
  world : Ω
  calls : List HandshakeCall
  result : R
  avdtp : AvdtpSource

namespace Handshake

section
variable {R Ω α : Type}

/-- A call that the session does not keep. -/
def ask (f : Ω → α × Ω) : Prog (HandshakeSession R Ω) α :=
  .step fun s => ((f s.world).1, { s with world := (f s.world).2 })

/-- A call that the session keeps. -/
def askLogged (f : Ω → α × Ω) (call : α → HandshakeCall) : Prog (HandshakeSession R Ω) α :=
  .step fun s => ((f s.world).1, { s with
    world := (f s.world).2
    calls := call (f s.world).1 :: s.calls })

def isCancelled (probe : V1TransportCancelProbe Ω) : Prog (HandshakeSession R Ω) Bool :=
  ask probe.answer

def report (f : R → R) : Prog (HandshakeSession R Ω) Unit :=
  .update fun s => { s with result := f s.result }

/-- An operation of the AVDTP source. -/
def operate (f : AvdtpSource → AvdtpAction × AvdtpSource) :
    Prog (HandshakeSession R Ω) AvdtpAction :=
  .step fun s => ((f s.avdtp).1, { s with avdtp := (f s.avdtp).2 })

/-- A negotiation sends fewer commands: one DISCOVER, two queries for each
    sink, SET_CONFIGURATION and OPEN. -/
def maximumNegotiationRounds : Nat := 517

/-- The loop of a negotiation: exchange as long as the action sends a command.
    None if an exchange ended the session. -/
def whileSending (exchange : AvdtpAction → Prog (HandshakeSession R Ω) (Option AvdtpAction))
    (action : AvdtpAction) : Prog (HandshakeSession R Ω) (Option AvdtpAction) :=
  Prog.iterate (fun action => do
    if action.kind ≠ .sendSignaling then
      return .inr (some action)
    match ← exchange action with
    | none => return .inr none
    | some next => return .inl next) maximumNegotiationRounds action

section
variable {D : HandshakeSession R Ω → Prop} {s : HandshakeSession R Ω}

theorem wp_ask {Q : α → HandshakeSession R Ω → Prop} (f : Ω → α × Ω) :
    Prog.wp (ask f) Q D s ↔ Q (f s.world).1 { s with world := (f s.world).2 } := Iff.rfl

theorem wp_askLogged {Q : α → HandshakeSession R Ω → Prop} (f : Ω → α × Ω)
    (call : α → HandshakeCall) :
    Prog.wp (askLogged f call) Q D s ↔ Q (f s.world).1 { s with
      world := (f s.world).2
      calls := call (f s.world).1 :: s.calls } := Iff.rfl

theorem wp_report {Q : Unit → HandshakeSession R Ω → Prop} (f : R → R) :
    Prog.wp (report f) Q D s ↔ Q () { s with result := f s.result } := Iff.rfl

theorem wp_operate {Q : AvdtpAction → HandshakeSession R Ω → Prop}
    (f : AvdtpSource → AvdtpAction × AvdtpSource) :
    Prog.wp (operate f) Q D s ↔ Q (f s.avdtp).1 { s with avdtp := (f s.avdtp).2 } := Iff.rfl

end

end

end Handshake

/-! ## What the peer accepted -/

/-- A step of the handshake that the peer accepts: a command, the media
    channel, a packet on it. -/
inductive HandshakeStep where
  | accepted (signal : UInt8)
  | mediaChannel
  | mediaPacket
deriving DecidableEq, Repr

namespace HandshakeCall

/-- The step that a call completes. -/
def step? : HandshakeCall → Option HandshakeStep
  | .exchange sent (some reply) => (commandOf sent).bind fun command =>
    if command.AcceptedBy reply then some (.accepted command.signalId) else none
  | .openMedia true => some .mediaChannel
  | .writeMedia _ true => some .mediaPacket
  | _ => none

def opens : HandshakeCall → Bool
  | .openSignaling ok => ok
  | _ => false

def closes : HandshakeCall → Bool
  | .closeSignaling _ => true
  | _ => false

end HandshakeCall

/-- The steps completed by the calls, in order. -/
def acceptedSteps (calls : List HandshakeCall) : List HandshakeStep :=
  (calls.filterMap HandshakeCall.step?).reverse

/-- The signaling channel is closed again: once if it was opened, and never
    otherwise, and not before it was opened. -/
structure ClosedOnce (calls : List HandshakeCall) : Prop where
  closes : calls.countP HandshakeCall.closes =
    if HandshakeCall.openSignaling true ∈ calls then 1 else 0
  order : Bracket.after HandshakeCall.opens HandshakeCall.closes calls = some false

/-- The steps up to the media channel, for the capability queries accepted. -/
def mediaChannelSteps (queries : List UInt8) : List HandshakeStep :=
  .accepted avdtpSignalDiscover :: queries.map .accepted ++
    [.accepted avdtpSignalSetConfiguration, .accepted avdtpSignalOpen, .mediaChannel]

/-- The peer accepted DISCOVER, capability queries, SET_CONFIGURATION, OPEN and the media
    channel, then the steps given, in this order, and nothing else. -/
def AcceptedInOrder (calls : List HandshakeCall) (rest : List HandshakeStep) : Prop :=
  ∃ queries, queries ≠ [] ∧ (∀ signal ∈ queries, Protocol.IsCapabilityQuery signal) ∧
    acceptedSteps calls = mediaChannelSteps queries ++ rest

/-- What holds of a session that is over: the channel is closed once if it was
    opened, and success is reported only if the peer accepted every step, up to
    the media channel and then those of `rest`. -/
structure HandshakeOutcome (rest : List HandshakeStep) (calls : List HandshakeCall)
    (primary disposition : V1TransportConfigurationDisposition) : Prop where
  closedOnce : ClosedOnce calls
  accepted : primary = .succeeded ∨ disposition = .succeeded → AcceptedInOrder calls rest

theorem acceptedSteps_cons (call : HandshakeCall) (calls : List HandshakeCall) :
    acceptedSteps (call :: calls) = acceptedSteps calls ++ call.step?.toList := by
  unfold acceptedSteps
  cases h : call.step? with
  | none => simp [h]
  | some step => simp [h]

/-! ## The channel -/

structure SignalingOpen (calls : List HandshakeCall) : Prop where
  opened : HandshakeCall.openSignaling true ∈ calls
  closes : calls.countP HandshakeCall.closes = 0
  order : Bracket.after HandshakeCall.opens HandshakeCall.closes calls = some true

theorem SignalingOpen.start : SignalingOpen [.openSignaling true] where
  opened := List.mem_singleton_self _
  closes := rfl
  order := rfl

variable {calls : List HandshakeCall}

theorem SignalingOpen.call (h : SignalingOpen calls) {call : HandshakeCall}
    (ho : call.opens = false) (hc : call.closes = false) :
    SignalingOpen (call :: calls) where
  opened := List.mem_cons_of_mem _ h.opened
  closes := by
    rw [List.countP_cons, h.closes, hc]
    rfl
  order := (Bracket.after_other ho hc).trans h.order

theorem SignalingOpen.close (h : SignalingOpen calls) (ok : Bool) :
    ClosedOnce (.closeSignaling ok :: calls) where
  closes := by
    rw [if_pos (List.mem_cons_of_mem _ h.opened), List.countP_cons, h.closes]
    rfl
  order := Bracket.after_close rfl rfl h.order

theorem closedOnce_unopened (h : calls = [] ∨ calls = [.openSignaling false]) :
    ClosedOnce calls := by
  rcases h with rfl | rfl
  · exact ⟨rfl, rfl⟩
  · exact ⟨rfl, rfl⟩

theorem HandshakeOutcome.unopened {rest : List HandshakeStep}
    {primary disposition : V1TransportConfigurationDisposition}
    (hc : calls = [] ∨ calls = [.openSignaling false]) (hp : primary ≠ .succeeded)
    (hd : disposition ≠ .succeeded) : HandshakeOutcome rest calls primary disposition where
  closedOnce := closedOnce_unopened hc
  accepted := fun hs => absurd hs (not_or.mpr ⟨hp, hd⟩)

/-! ## The source and the steps -/

def HandshakeStep.ofGrant : Grant → HandshakeStep
  | .accepted signal => .accepted signal
  | .mediaChannel => .mediaChannel

/-- The calls of a session and its source. -/
structure HandshakeView where
  calls : List HandshakeCall
  avdtp : AvdtpSource

def HandshakeSession.view {R Ω : Type} (s : HandshakeSession R Ω) : HandshakeView :=
  { calls := s.calls, avdtp := s.avdtp }

/-- The command of the action was exchanged for a reply, which the source
    handled without an error. -/
structure Exchanged (action : AvdtpAction) (v : HandshakeView) (next : AvdtpAction)
    (v' : HandshakeView) : Prop where
  sends : action.kind = .sendSignaling
  reply : ∃ reply, v'.calls = .exchange action.packet (some reply) :: v.calls ∧
    v.avdtp.handleSignaling reply = (next, v'.avdtp)
  next : next.kind ≠ .error

/-- **The source is on course**: the peer accepted what leads to its state, and
    the action sends the command it waits for. -/
structure OnCourse (action : AvdtpAction) (v : HandshakeView) : Prop where
  sent : v.avdtp.Sent action
  granted : ∃ ledger, Course (v.avdtp, ledger) ∧
    acceptedSteps v.calls = ledger.grants.map .ofGrant

section
variable {source : AvdtpSource} {action next : AvdtpAction} {v v' : HandshakeView}

theorem step?_exchange (hs : source.Sent action) (hk : action.kind = .sendSignaling)
    (reply : List UInt8) :
    (HandshakeCall.exchange action.packet (some reply)).step? =
      if source.pendingCommand.AcceptedBy reply then some (.accepted source.pendingSignalId)
      else none := by
  obtain ⟨header, hp, -, hl, -, hsignal⟩ := hs hk
  have hcommand : commandOf action.packet = some source.pendingCommand := by
    unfold commandOf AvdtpSource.pendingCommand
    rw [hp, Option.map_some, hl, hsignal]
  show ((commandOf action.packet).bind fun command => if command.AcceptedBy reply then
    some (HandshakeStep.accepted command.signalId) else none) = _
  rw [hcommand]
  rfl

theorem OnCourse.exchanged (h : OnCourse action v) (hx : Exchanged action v next v') :
    OnCourse next v' := by
  obtain ⟨ledger, hcourse, hsteps⟩ := h.granted
  obtain ⟨reply, hcalls, hhandled⟩ := hx.reply
  have hsent : v'.avdtp.Sent next := by
    have hsettled : AvdtpSource.Settled (fun _ => True) (v.avdtp.handleSignaling reply) :=
      AvdtpSource.settled_handleSignaling (fun _ _ => trivial) trivial reply
    have := hsettled.sent
    rwa [hhandled] at this
  refine ⟨hsent, (course.next (v.avdtp, ledger) (.packet reply)).2, ?_, ?_⟩
  · have := course_step hcourse (.packet reply)
    have hsource : (course.next (v.avdtp, ledger) (.packet reply)).1 = v'.avdtp :=
      congrArg Prod.snd hhandled
    rw [← hsource]
    exact this
  · have hwaits : v.avdtp.state.Waits := by
      by_contra hw
      obtain ⟨errorCode, he⟩ := AvdtpSource.handleSignaling_of_not_waits hw reply
      rw [he] at hhandled
      exact hx.next (congrArg (·.1.kind) hhandled).symm
    have hout : ledger.outstanding = [v.avdtp.pendingCommand] := hcourse.waits hwaits
    have hgrants : (course.next (v.avdtp, ledger) (.packet reply)).2.grants =
        (ledger.receive (.packet reply)).grants := by
      show (Protocol.Ledger.send _ _).grants = _
      unfold Protocol.Ledger.send
      split_ifs <;> rfl
    rw [hgrants, hcalls, acceptedSteps_cons, hsteps, step?_exchange h.sent hx.sends]
    simp only [Protocol.Ledger.receive, hout, List.map_append]
    by_cases ha : v.avdtp.pendingCommand.AcceptedBy reply
    · have hfilter : [v.avdtp.pendingCommand].filter
          (fun command => decide (command.AcceptedBy reply)) = [v.avdtp.pendingCommand] := by
        simp [ha]
      rw [hfilter, if_pos ha]
      rfl
    · have hfilter : [v.avdtp.pendingCommand].filter
          (fun command => decide (command.AcceptedBy reply)) = [] := by
        simp [ha]
      rw [hfilter, if_neg ha]
      rfl

theorem OnCourse.begin_ (localCapabilities : LdacCapabilities) (localSeid : UInt8)
    (preferredSampleRateHz : UInt32) {calls : List HandshakeCall} (h : acceptedSteps calls = []) :
    let begun := (AvdtpSource.init localCapabilities localSeid preferredSampleRateHz).begin_
    OnCourse begun.1 ⟨calls, begun.2⟩ := by
  have hinit : Course (.init localCapabilities localSeid preferredSampleRateHz, .empty) :=
    course_init ⟨_, _, _, rfl⟩
  have hsignal : ¬ IsStreamSignal (0 : UInt8) := by decide
  refine ⟨(AvdtpSource.settled_begin hsignal).sent, _, course_step hinit .begin_, ?_⟩
  have hgrants : (course.next (.init localCapabilities localSeid preferredSampleRateHz, .empty)
      .begin_).2.grants = [] := by
    show (Protocol.Ledger.send _ _).grants = []
    unfold Protocol.Ledger.send
    split_ifs <;> rfl
  exact h.trans (congrArg (List.map HandshakeStep.ofGrant) hgrants).symm

theorem OnCourse.mediaChannel (h : OnCourse action v)
    (ho : v.avdtp.mediaChannelOpened.1.kind = .sessionOpen) :
    AcceptedInOrder (.openMedia true :: v.calls) [] := by
  unfold AvdtpSource.mediaChannelOpened at ho
  split_ifs at ho with hs
  · cases ho
  · rw [ne_eq, not_not] at hs
    obtain ⟨ledger, hcourse, hsteps⟩ := h.granted
    have hg := hcourse.granted
    rw [show (v.avdtp, ledger).1.state = _ from hs] at hg
    obtain ⟨queries, hne, hq, hg⟩ := hg
    refine ⟨queries, hne, hq, ?_⟩
    rw [acceptedSteps_cons, hsteps, hg]
    simp [HandshakeCall.step?, mediaChannelSteps, discovered, HandshakeStep.ofGrant]

theorem Exchanged.stream {signal : UInt8} {kind : AvdtpActionKind} {state' : AvdtpSourceState}
    (hi : AvdtpSource.Issued signal kind state' (action, v.avdtp))
    (hx : Exchanged action v next v') :
    next.kind = kind ∧
      acceptedSteps v'.calls = acceptedSteps v.calls ++ [.accepted signal] := by
  obtain ⟨reply, hcalls, hhandled⟩ := hx.reply
  obtain ⟨hsignal, hwait⟩ := hi.waits hx.sends
  rcases AvdtpSource.handleSignaling_stream hwait rfl reply with ⟨haccepts, hh⟩ | ⟨-, hh⟩
  · have heq := hh.symm.trans hhandled
    have haccepts : v.avdtp.pendingCommand.AcceptedBy reply := haccepts
    refine ⟨congrArg (·.1.kind) heq.symm, ?_⟩
    rw [hcalls, acceptedSteps_cons, step?_exchange hi.sent hx.sends, if_pos haccepts, hsignal]
    rfl
  · rw [hhandled] at hh
    exact absurd hh hx.next

theorem AcceptedInOrder.append {calls calls' : List HandshakeCall} {rest more : List HandshakeStep}
    (h : AcceptedInOrder calls rest) (hs : acceptedSteps calls' = acceptedSteps calls ++ more) :
    AcceptedInOrder calls' (rest ++ more) := by
  obtain ⟨queries, hne, hq, heq⟩ := h
  exact ⟨queries, hne, hq, by rw [hs, heq, List.append_assoc]⟩

theorem AcceptedInOrder.other {calls : List HandshakeCall} {rest : List HandshakeStep}
    (h : AcceptedInOrder calls rest) {call : HandshakeCall} (hc : call.step? = none) :
    AcceptedInOrder (call :: calls) rest := by
  have hs := acceptedSteps_cons call calls
  rw [hc] at hs
  have := h.append hs
  rwa [Option.toList_none, List.append_nil] at this

end

/-! ## Negotiations end -/

namespace Handshake

variable {R Ω : Type}

/-- The rounds that the loop of a negotiation still takes. -/
def roundsLeft (action : AvdtpAction) (s : HandshakeSession R Ω) : Nat :=
  if action.kind = .sendSignaling then AvdtpSource.commandsLeft s.avdtp + 1 else 0

theorem roundsLeft_exchanged {action next : AvdtpAction} {s s' : HandshakeSession R Ω}
    (h : Exchanged action s.view next s'.view) : roundsLeft next s' < roundsLeft action s := by
  obtain ⟨reply, -, hhandled⟩ := h.reply
  unfold roundsLeft
  rw [if_pos h.sends]
  split_ifs with hk
  · have hless := @AvdtpSource.commandsLeft_handleSignaling s.avdtp reply
    rw [show s.avdtp.handleSignaling reply = (next, s'.avdtp) from hhandled] at hless
    exact Nat.succ_lt_succ (hless hk)
  · exact Nat.succ_pos _

theorem roundsLeft_begin {source : AvdtpSource} {s : HandshakeSession R Ω}
    (hs : s.avdtp = source.begin_.2) : roundsLeft source.begin_.1 s < maximumNegotiationRounds := by
  unfold roundsLeft maximumNegotiationRounds
  rw [hs]
  split_ifs with hk
  · rw [AvdtpSource.commandsLeft_begin hk]
    decide
  · decide

theorem spec_whileSending {I : HandshakeSession R Ω → Prop} {D : HandshakeSession R Ω → Prop}
    {exchange : AvdtpAction → Prog (HandshakeSession R Ω) (Option AvdtpAction)}
    (hx : ∀ action s, I s → Prog.wp (exchange action) (fun r s' => I s' ∧
      ∀ next, r = some next → Exchanged action s.view next s'.view) D s)
    (action : AvdtpAction) :
    Prog.Triple (fun s => (I s ∧ OnCourse action s.view) ∧
        roundsLeft action s < maximumNegotiationRounds)
      (whileSending exchange action)
      (fun r s' => I s' ∧ ∀ last, r = some last → OnCourse last s'.view) D := by
  refine Prog.Triple.iterateDown (m := roundsLeft)
    (I := fun action (s : HandshakeSession R Ω) => I s ∧ OnCourse action s.view)
    (fun action k => ?_) _ action
  rintro s ⟨⟨hI, hn⟩, hk⟩
  show Prog.wp _ _ D s
  rw [Prog.wp_ite]
  split_ifs with hsends
  · exact ⟨hI, fun last hlast => Option.some.inj hlast ▸ hn⟩
  · rw [Prog.wp_bind]
    refine Prog.wp_mono (hx action s hI) (fun r s' h => ?_) fun _ => id
    rcases r with _ | next
    · exact ⟨h.1, nofun⟩
    · have hnext := h.2 next rfl
      exact ⟨⟨h.1, hn.exchanged hnext⟩, hk ▸ roundsLeft_exchanged hnext⟩

end Handshake

end NativeLdac.Agent
