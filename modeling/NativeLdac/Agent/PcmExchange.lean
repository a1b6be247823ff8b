/-
  One exchange of an own command: while it waits, the commands of the peer are
  answered in order or end the session, and the source stays as it is; the
  reply that ends the wait is the only thing the source handles.

  `spec_exchange_own` is the result for the commands of the negotiation,
  `spec_exchange_stream` the one for START, SUSPEND and CLOSE.
-/
import NativeLdac.Agent.PcmSpec
import NativeLdac.Protocol.AvdtpCourse

namespace NativeLdac.Agent

open Engine Protocol

/-! ## What an exchange keeps -/

/-- Everything in the invariant but the dialogue. -/
structure Ledger (core : PcmCore) (started : Bool) (place : MediaPlace) (calls : List PcmCall) :
    Prop where
  media : Media core.rate place (mediaPackets calls)
  channel : Channel core.signalingOpened calls
  lease : leaseAfter calls = some core.leaseHeld
  released : ¬ PauseReleaseFailed calls
  stream : StreamIs started calls

section
variable {core : PcmCore} {started : Bool} {place : MediaPlace} {calls : List PcmCall}

theorem Ledger.signal (h : Ledger core started place calls) {call : PcmCall} {started' : Bool}
    (hs : call.isSignaling = true) (hst : StreamIs started' (call :: calls)) :
    Ledger core started' place (call :: calls) := by
  have hw : call.mediaWritten? = none := by cases call <;> first | rfl | cases hs
  have ho : call.opensSignaling = false := by cases call <;> first | rfl | cases hs
  have hc : call.closesSignaling = false := by cases call <;> first | rfl | cases hs
  have ha : call.acquires = false := by cases call <;> first | rfl | cases hs
  have hr : call.releases = false := by cases call <;> first | rfl | cases hs
  have hm := h.media
  exact
    { media := by simpa [mediaPackets, hw] using hm
      channel := ⟨by rw [List.any_cons, ho, Bool.false_or, h.channel.opens],
        by rw [List.countP_cons, hc, h.channel.closes]; rfl⟩
      lease := (Bracket.after_other ha hr).trans h.lease
      released := by
        rw [pauseReleaseFailed_cons (by rintro rfl; cases hs)]
        exact h.released
      stream := hst }

theorem Ledger.sound {v : PcmView} (h : Ledger v.core started v.place v.calls)
    (hd : PeerDialogue v.calls .idle) (ho : PeerOrder (answered v.calls) v.peers) :
    Sound started v.core.leaseHeld v.core.signalingOpened v :=
  { media := h.media, channel := h.channel, lease := h.lease, released := h.released
    stream := h.stream, dialogue := hd, order := ho }

theorem Ledger.withCleanup (h : Ledger core started place calls) (required : Bool) :
    Ledger { core with cleanupRequired := required } started place calls := { h with }

theorem Ledger.over {v : PcmView} (h : Ledger v.core v.core.cleanupRequired v.place v.calls)
    {turnIs : PcmView → PeerTurn → Prop} {turn : PeerTurn} (hd : PeerDialogue v.calls turn)
    (ht : turnIs v turn) : Over turnIs v :=
  { media := h.media, channel := h.channel, lease := .inl ⟨h.lease, h.released⟩
    stream := h.stream, dialogue := ⟨turn, hd, ht⟩ }

theorem Good.ledger {v : PcmView} (h : Good v) :
    Ledger v.core v.core.cleanupRequired v.place v.calls :=
  { media := h.media, channel := h.channel, lease := h.lease, released := h.released
    stream := h.stream }

end

/-! ## Calls of an exchange -/

section
variable {source : AvdtpSource} {sent reply : List UInt8} {calls : List PcmCall}

theorem acceptedStreamCommand?_reply (ho : outstanding (.exchange source sent (some reply) :: calls) =
      some (source.pendingTransactionLabel, source.pendingSignalId)) :
    acceptedStreamCommand? calls (.exchange source sent (some reply)) =
      if source.Accepts reply ∧ IsStreamSignal source.pendingSignalId then
        some source.pendingSignalId else none := by
  simp only [acceptedStreamCommand?, ho]
  by_cases ha : source.Accepts reply
  · rw [acceptOf?_eq.mpr ha]
    simp [ha]
  · cases hr : acceptOf? reply with
    | none => simp [ha]
    | some p =>
      obtain ⟨label, signal⟩ := p
      have hne : ¬ (source.pendingTransactionLabel = label ∧ source.pendingSignalId = signal) := by
        rintro ⟨rfl, rfl⟩
        exact ha (acceptOf?_eq.mp hr)
      simp [ha, hne]

/-- The stream after the reply. -/
def startedAfter (source : AvdtpSource) (reply : List UInt8) (started : Bool) : Bool :=
  if source.Accepts reply ∧ IsStreamSignal source.pendingSignalId then
    source.pendingSignalId = avdtpSignalStart
  else started

theorem StreamIs.afterReply {started : Bool} (h : StreamIs started calls)
    (ho : outstanding (.exchange source sent (some reply) :: calls) =
      some (source.pendingTransactionLabel, source.pendingSignalId)) :
    StreamIs (startedAfter source reply started)
      (.exchange source sent (some reply) :: calls) := by
  unfold StreamIs startedAfter
  rw [lastStreamCommand, acceptedStreamCommand?_reply ho]
  split_ifs with hc
  · rw [Option.some_or, decide_eq_true_eq, Option.some.injEq]
  · rw [Option.none_or]
    exact h

theorem StreamIs.noReply {started : Bool} (h : StreamIs started calls)
    {answer : Option (List UInt8)} (ha : ∀ reply, answer = some reply → acceptOf? reply = none) :
    StreamIs started (.exchange source sent answer :: calls) := by
  unfold StreamIs
  rw [lastStreamCommand_other]
  · exact h
  · cases answer with
    | none => rfl
    | some reply => simp only [acceptedStreamCommand?, ha reply rfl]

end

/-! ## Answers -/

section
variable {F : Type} [FloatArith F] {source : AvdtpSource} {header : AvdtpHeader}
  {packet : List UInt8} {signals : List UInt8}

theorem isAnswer_discover (h : buildPeerDiscoverAccept source header packet ≠ []) :
    (PeerRequest.mk source header).IsAnswer (buildPeerDiscoverAccept source header packet) ∧
      header.signalId = avdtpSignalDiscover := by
  unfold buildPeerDiscoverAccept at h ⊢
  split_ifs at h ⊢ with hc
  · exact absurd rfl h
  · simp only [not_or, not_ne_iff] at hc
    refine ⟨?_, hc.2.2.1⟩
    show IsSingle _ header.transactionLabel (if header.signalId = _ then .reject else .accept)
      header.signalId
    rw [hc.2.2.1]
    exact isSingle_writeSingle h

theorem isAnswer_capabilities (h : buildPeerCapabilitiesAccept source header packet ≠ []) :
    (PeerRequest.mk source header).IsAnswer (buildPeerCapabilitiesAccept source header packet) ∧
      IsCapabilityQuery header.signalId := by
  unfold buildPeerCapabilitiesAccept at h ⊢
  split_ifs at h ⊢ with hc
  · exact absurd rfl h
  · simp only [not_or, not_and_or, not_ne_iff] at hc
    have hq : IsCapabilityQuery header.signalId := hc.2.2.1
    refine ⟨?_, hq⟩
    show IsSingle _ header.transactionLabel (if header.signalId = _ then .reject else .accept)
      header.signalId
    rw [if_neg]
    · exact isSingle_writeSingle h
    · rcases hq with hq | hq <;> rw [hq] <;> decide

theorem isAnswer_configuration (h : buildPeerSetConfigurationReject source header packet ≠ []) :
    (PeerRequest.mk source header).IsAnswer
        (buildPeerSetConfigurationReject source header packet) ∧
      header.signalId = avdtpSignalSetConfiguration := by
  unfold buildPeerSetConfigurationReject at h ⊢
  dsimp only at h ⊢
  split_ifs at h ⊢ with hc
  · exact absurd rfl h
  · exact absurd rfl h
  · exact absurd rfl h
  · simp only [not_or, not_ne_iff] at hc
    refine ⟨?_, hc.2.2.1⟩
    show IsSingle _ header.transactionLabel (if header.signalId = _ then .reject else .accept)
      header.signalId
    rw [hc.2.2.1]
    exact isSingle_writeSingle h

theorem isAnswer_close (h : buildPeerCloseAccept source header packet ≠ []) :
    (PeerRequest.mk source header).IsAnswer (buildPeerCloseAccept source header packet) ∧
      header.signalId = avdtpSignalClose ∧ header.messageType = .command := by
  unfold buildPeerCloseAccept at h ⊢
  split_ifs at h ⊢ with hc
  · exact absurd rfl h
  · simp only [not_or, not_ne_iff] at hc
    refine ⟨?_, hc.2.2.1, hc.2.1⟩
    show IsSingle _ header.transactionLabel (if header.signalId = _ then .reject else .accept)
      header.signalId
    rw [hc.2.2.1]
    exact isSingle_writeSingle h

def V1TransportPcmResult.peerCounts (r : V1TransportPcmResult F) : PeerCounts :=
  ⟨r.peerDiscoverCommandsAccepted, r.peerCapabilityCommandsAccepted,
    r.peerConfigurationCommandsRejected⟩

theorem PeerOrder.of_discover_zero {counts : PeerCounts} (h : PeerOrder signals counts)
    (hd : counts.discover = 0) :
    signals = [] ∧ counts = ⟨0, 0, 0⟩ := by
  cases h <;> first | exact ⟨rfl, rfl⟩ | exact absurd hd (by decide)

theorem PeerOrder.of_capability_zero {counts : PeerCounts} (h : PeerOrder signals counts)
    (hd : counts.discover = 1) (hc : counts.capability = 0) :
    signals = [avdtpSignalDiscover] ∧ counts = ⟨1, 0, 0⟩ := by
  cases h <;> first
    | exact ⟨rfl, rfl⟩
    | exact absurd hd (by decide)
    | exact absurd hc (by decide)

theorem PeerOrder.of_configuration_zero {counts : PeerCounts} (h : PeerOrder signals counts)
    (hc : counts.capability = 1) (hk : counts.configuration = 0) :
    ∃ query, IsCapabilityQuery query ∧ signals = [query, avdtpSignalDiscover] ∧
      counts = ⟨1, 1, 0⟩ := by
  cases h with
  | none => exact absurd hc (by decide)
  | discover => exact absurd hc (by decide)
  | capability hq => exact ⟨_, hq, rfl, rfl⟩
  | configuration => exact absurd hk (by decide)

theorem answerPeerCommand_order {r : V1TransportPcmResult F} (ho : PeerOrder signals r.peerCounts)
    (h : (answerPeerCommand source header packet r).1 ≠ []) :
    (PeerRequest.mk source header).IsAnswer (answerPeerCommand source header packet r).1 ∧
      NextWhileWaiting signals header.signalId ∧
      PeerOrder (header.signalId :: signals)
        (answerPeerCommand source header packet r).2.peerCounts := by
  unfold answerPeerCommand at h ⊢
  dsimp only at h ⊢
  split_ifs at h ⊢ with hfirst he hsecond he hthird he
  all_goals try exact absurd rfl h
  · obtain ⟨ha, hs⟩ := isAnswer_discover he
    obtain ⟨rfl, hr⟩ := ho.of_discover_zero hfirst.2.2
    refine ⟨ha, hs ▸ .discover, ?_⟩
    rw [V1TransportPcmResult.peerCounts, PeerCounts.mk.injEq] at hr
    show PeerOrder _ ⟨r.peerDiscoverCommandsAccepted + 1, r.peerCapabilityCommandsAccepted,
      r.peerConfigurationCommandsRejected⟩
    rw [hr.1, hr.2.1, hr.2.2, hs]
    exact .discover
  · obtain ⟨ha, hs⟩ := isAnswer_capabilities he
    obtain ⟨rfl, hr⟩ := ho.of_capability_zero hsecond.2.1 hsecond.2.2
    refine ⟨ha, .capabilities hs, ?_⟩
    rw [V1TransportPcmResult.peerCounts, PeerCounts.mk.injEq] at hr
    show PeerOrder _ ⟨r.peerDiscoverCommandsAccepted, r.peerCapabilityCommandsAccepted + 1,
      r.peerConfigurationCommandsRejected⟩
    rw [hr.1, hr.2.1, hr.2.2]
    exact .capability hs
  · obtain ⟨ha, hs⟩ := isAnswer_configuration he
    obtain ⟨query, hq, rfl, hr⟩ := ho.of_configuration_zero hthird.2.2.1 hthird.2.2.2
    refine ⟨ha, hs ▸ .configuration hq, ?_⟩
    rw [V1TransportPcmResult.peerCounts, PeerCounts.mk.injEq] at hr
    show PeerOrder _ ⟨r.peerDiscoverCommandsAccepted, r.peerCapabilityCommandsAccepted,
      r.peerConfigurationCommandsRejected + 1⟩
    rw [hr.1, hr.2.1, hr.2.2, hs]
    exact .configuration hq

theorem view_answerPeerCommand {H Ω : Type} (s : PcmSession F H Ω) :
    PcmSession.view { s with result := (answerPeerCommand source header packet s.result).2 } =
      { s.view with peers := (answerPeerCommand source header packet s.result).2.peerCounts } := by
  unfold answerPeerCommand
  dsimp only
  split_ifs <;> rfl

end

/-! ## One transfer -/

/-- The next packet to send: the own command, or the answer to a command of the
    peer. -/
inductive Outbound (source : AvdtpSource) (outbound : List UInt8) (v : PcmView) : Prop
  | own (dialogue : PeerDialogue v.calls .idle) (order : PeerOrder (answered v.calls) v.peers)
      (command : IsSingle outbound source.pendingTransactionLabel .command source.pendingSignalId)
  | answer (command : AvdtpHeader) (dialogue : PeerDialogue v.calls (.asked ⟨source, command⟩))
      (isAnswer : (PeerRequest.mk source command).IsAnswer outbound)
      (next : NextWhileWaiting (answered v.calls) command.signalId)
      (order : PeerOrder (command.signalId :: answered v.calls) v.peers)
      (pending : outstanding v.calls =
        some (source.pendingTransactionLabel, source.pendingSignalId))

/-- The state before a transfer of an exchange from `source`. -/
structure Exchanging (c : PcmCore) (source : AvdtpSource) (outbound : List UInt8)
    (v : PcmView) : Prop where
  core : v.core = c
  avdtp : v.avdtp = source
  ledger : Ledger c c.cleanupRequired v.place v.calls
  outbound : Outbound source outbound v

/-- The stream after the transfer that received `reply`. -/
def startedBy (source : AvdtpSource) (started : Bool) : Option (List UInt8) → Bool
  | none => started
  | some reply => startedAfter source reply started

/-- The state after the transfer that received `reply`. -/
structure Transferred (c : PcmCore) (source : AvdtpSource) (reply : Option (List UInt8))
    (v : PcmView) : Prop where
  core : v.core = c
  avdtp : v.avdtp = source
  ledger : Ledger c (startedBy source c.cleanupRequired reply) v.place v.calls
  dialogue : PeerDialogue v.calls (turnOf .asked source reply)
  order : PeerOrder (answered v.calls) v.peers
  pending : outstanding v.calls = some (source.pendingTransactionLabel, source.pendingSignalId)

section
variable {c : PcmCore} {source : AvdtpSource} {outbound : List UInt8} {v : PcmView}

theorem Exchanging.over (h : Exchanging c source outbound v)
    {turnIs : PcmView → PeerTurn → Prop} (hi : turnIs v .idle)
    (ha : ∀ command, NextWhileWaiting (answered v.calls) command.signalId →
      turnIs v (.asked ⟨source, command⟩)) : Over turnIs v := by
  have hl := h.ledger
  rw [← h.core] at hl
  cases h.outbound with
  | own dialogue _ _ => exact hl.over dialogue hi
  | answer command dialogue _ next _ _ => exact hl.over dialogue (ha command next)

theorem Exchanging.withPrimary (h : Exchanging c source outbound v)
    (primary : V1TransportConfigurationDisposition) :
    Exchanging c source outbound { v with primary := primary } where
  core := h.core
  avdtp := h.avdtp
  ledger := h.ledger
  outbound := by
    cases h.outbound with
    | own dialogue order command => exact .own dialogue order command
    | answer command dialogue isAnswer next order pending =>
      exact .answer command dialogue isAnswer next order pending

theorem Exchanging.done (h : Exchanging c source outbound v)
    {primary : V1TransportConfigurationDisposition}
    (hp : primary = .cancelled ∨ primary = .backendFailure) :
    Done { v with primary := primary } :=
  (h.withPrimary primary).over trivial fun _ hn => ⟨h.avdtp, .inr ⟨hn, hp⟩⟩

theorem Exchanging.stuck (h : Exchanging c source outbound v) : Stuck v :=
  h.over trivial fun _ hn => ⟨h.avdtp, hn⟩

theorem Exchanging.transfer (h : Exchanging c source outbound v) (reply : Option (List UInt8)) :
    Transferred c source reply
      { v with calls := .exchange v.avdtp outbound reply :: v.calls } := by
  obtain rfl := h.avdtp
  have hpending : outstanding (.exchange v.avdtp outbound reply :: v.calls) =
      some (v.avdtp.pendingTransactionLabel, v.avdtp.pendingSignalId) := by
    cases h.outbound with
    | own _ _ command => rw [outstanding, commandOf?_own command, Option.some_or]
    | answer _ _ isAnswer _ _ pending =>
      rw [outstanding, commandOf?_answer isAnswer, Option.none_or, pending]
  have hstream : StreamIs (startedBy v.avdtp c.cleanupRequired reply)
      (.exchange v.avdtp outbound reply :: v.calls) := by
    cases reply with
    | none => exact h.ledger.stream.noReply fun _ hr => nomatch hr
    | some reply => exact h.ledger.stream.afterReply hpending
  refine ⟨h.core, rfl, h.ledger.signal rfl hstream, ?_, ?_, hpending⟩
  · cases h.outbound with
    | own dialogue _ command => exact .command dialogue command
    | answer command dialogue isAnswer next _ _ => exact .answer dialogue isAnswer next
  · show PeerOrder ((answerOf? outbound).toList ++ answered v.calls) v.peers
    cases h.outbound with
    | own _ order command =>
      rw [answerOf?_own command]
      exact order
    | answer command _ isAnswer _ order _ =>
      rw [answerOf?_answer isAnswer]
      exact order

theorem Transferred.failed (h : Transferred c source none v)
    (primary : V1TransportConfigurationDisposition) : Done { v with primary := primary } := by
  have hl := h.ledger
  rw [← h.core] at hl
  exact Ledger.over (v := { v with primary := primary }) hl h.dialogue trivial

theorem Transferred.sound {reply : List UInt8} (h : Transferred c source (some reply) v)
    (hr : peerCommand? reply = none) :
    Sound (startedAfter source reply c.cleanupRequired) c.leaseHeld c.signalingOpened v := by
  have hl := h.ledger
  have hd := h.dialogue
  have hturn : turnOf .asked source (some reply) = .idle := by
    unfold turnOf
    rw [Option.bind_some, hr]
  rw [hturn] at hd
  obtain rfl := h.core
  exact hl.sound hd h.order

theorem Transferred.command {reply : List UInt8} {command : AvdtpHeader}
    (h : Transferred c source (some reply) v) (hr : peerCommand? reply = some command) :
    Ledger c c.cleanupRequired v.place v.calls ∧
      PeerDialogue v.calls (.asked ⟨source, command⟩) := by
  have hl := h.ledger
  have hd := h.dialogue
  have hturn : turnOf .asked source (some reply) = .asked ⟨source, command⟩ := by
    unfold turnOf
    rw [Option.bind_some, hr]
  have hstarted : startedBy source c.cleanupRequired (some reply) = c.cleanupRequired := by
    show startedAfter source reply c.cleanupRequired = c.cleanupRequired
    unfold startedAfter
    rw [if_neg]
    rintro ⟨ha, -⟩
    have := acceptOf?_eq.mpr ha
    rw [acceptOf?_command hr] at this
    cases this
  rw [hturn] at hd
  rw [hstarted] at hl
  exact ⟨hl, hd⟩

end

section
variable {F H Ω : Type} [FloatArith F] (env : PcmEnvironment F H Ω)
  (options : V1TransportPcmOptions F) {c : PcmCore} {source : AvdtpSource}

/-- What a transfer leads to: the reply, or the end of the session. -/
def TransferEnds (c : PcmCore) (source : AvdtpSource) : Option (List UInt8) → PcmView → Prop
  | some reply, v => Transferred c source (some reply) v ∧ peerCommand? reply = none
  | none, v => Done v

/-- The answer to a command of the peer is the next packet to send; without
    one, the session ends. -/
def AnswerIs (c : PcmCore) (source : AvdtpSource) (response : List UInt8) (v : PcmView) : Prop :=
  if response = [] then Done { v with primary := .protocolFailure }
  else Exchanging c source response v

theorem Transferred.answer {s : PcmSession F H Ω} {reply : List UInt8} {command : AvdtpHeader}
    (h : Transferred c source (some reply) s.view) (hr : peerCommand? reply = some command) :
    AnswerIs c source (answerPeerCommand s.avdtp command reply s.result).1 (PcmSession.view
      { s with result := (answerPeerCommand s.avdtp command reply s.result).2 }) := by
  obtain ⟨hl, hd⟩ := h.command hr
  obtain rfl : s.avdtp = source := h.avdtp
  rw [view_answerPeerCommand]
  unfold AnswerIs
  split_ifs with he
  · rw [← h.core] at hl
    exact Ledger.over (v := { s.view with primary := .protocolFailure, peers := _ }) hl hd
      ⟨rfl, .inl rfl⟩
  · obtain ⟨hanswer, hnext, horder⟩ := answerPeerCommand_order h.order he
    exact ⟨h.core, rfl, hl, .answer command hd hanswer hnext horder h.pending⟩

variable (c source) in
theorem spec_exchangeRound (stage : V1TransportSilenceStage) (cancelOnly : Bool) (deadline : Nat)
    (round : ExchangeRound) :
    Spec (Exchanging c source round.outbound)
      (exchangeRound env options stage cancelOnly deadline round)
      fun r v => r.elim (fun next => Exchanging c source next.outbound v)
        fun reply => TransferEnds c source reply v := by
  unfold exchangeRound
  refine .calm_bind (calm_probeStop env) ?_
  intro stop
  refine .ite (fun _ => ?_) fun _ => ?_
  · refine .bind (spec_setFailure _ _ fun v h => h.done (.inl rfl)) fun _ => ?_
    exact .pure fun v h => h
  refine .calm_bind (calm_ask _) ?_
  intro now
  refine .ite (fun _ => ?_) fun _ => ?_
  · refine .bind ?_ fun _ => .pure fun v h => h
    refine .calm_bind (calm_report fun _ => rfl) fun _ => ?_
    exact spec_setFailure _ _ fun v h => h.done (.inr rfl)
  refine .calm_bind (calm_report fun _ => rfl) fun _ => ?_
  refine .bind (Q := fun answer => Transferred c source
    (if answer.ok then some answer.response else none))
    (spec_askLogged fun answer v h => h.transfer _) ?_
  intro answer
  refine .ite ?_ ?_
  · intro hok
    refine .calm_bind (calm_report fun _ => rfl) fun _ => ?_
    refine .calm_bind (calm_stopIsCancel env) ?_
    intro cancelled
    refine .bind (spec_setFailure _ _ fun v h => ?_) fun _ => .pure fun v h => h
    rw [if_neg (by simp [hok])] at h
    exact h.failed _
  intro hok
  rw [Bool.not_eq_false] at hok
  rw [if_pos hok]
  cases hr : peerCommand? answer.response with
  | none => exact .pure fun v h => ⟨h, hr⟩
  | some command =>
    refine .calm_bind (calm_report fun _ => rfl) fun _ => ?_
    refine .bind (Q := AnswerIs c source) (.step fun s h => h.answer hr) ?_
    intro response
    refine .ite ?_ ?_
    · intro he
      refine .bind (.calm_bind (calm_report fun _ => rfl) fun _ => spec_setFailure _ _ fun v h =>
        ?_) fun _ => .pure fun v h => h
      rwa [AnswerIs, if_pos he] at h
    · intro he
      refine .pure fun v h => ?_
      rwa [AnswerIs, if_neg he] at h

/-! ## The exchange -/

/-- The reply that ends an exchange was handled. -/
structure Handled (c : PcmCore) (source : AvdtpSource) (reply : List UInt8) (next : AvdtpAction)
    (v : PcmView) : Prop where
  sound : Sound (startedAfter source reply c.cleanupRequired) c.leaseHeld c.signalingOpened v
  core : v.core = c
  handled : source.handleSignaling reply = (next, v.avdtp)

/-- What an exchange leads to: a reply that the source handled without error, or
    the end of the session. -/
def ExchangeEnds (c : PcmCore) (source : AvdtpSource) (action : AvdtpAction) :
    Option AvdtpAction → PcmView → Prop
  | none, v => Done v
  | some next, v => action.kind = .sendSignaling ∧ ∃ reply, Handled c source reply next v ∧
      next.kind ≠ .error

theorem spec_exchange (fuel : Nat) (action : AvdtpAction) (stage : V1TransportSilenceStage)
    (cancelOnly : Bool) (hsent : source.Sent action)
    (herror : action.kind = .sendSignaling → ∀ reply,
      (source.handleSignaling reply).1.kind = .error →
      ¬ (source.Accepts reply ∧ IsStreamSignal source.pendingSignalId)) :
    Spec (fun v => Going (· = c) v ∧ v.avdtp = source)
      (exchange env options fuel action stage cancelOnly) (ExchangeEnds c source action) := by
  unfold exchange
  refine .calm_bind (calm_probeStop env) ?_
  intro stop
  refine .ite ?_ ?_
  · intro _
    refine .bind (spec_setFailure _ _ fun v h => h.1.failed _) fun _ => ?_
    exact .pure fun v h => h
  intro hkind
  replace hkind : action.kind = .sendSignaling := by_contra fun hk => hkind (.inl hk)
  refine .calm_bind (calm_report fun _ => rfl) fun _ => ?_
  refine .calm_bind (calm_ask _) ?_
  intro start
  have hloop := Spec.iterate (R := TransferEnds c source)
    (fun round => spec_exchangeRound env options c source stage cancelOnly
      (start + options.exchangeTimeoutMs.toNat * 1000000) round)
    (fun _ _ h => h.stuck) fuel { outbound := action.packet, firstTransfer := true, error := 0 }
  refine .bind (hloop.pre fun v h => ?_) fun reply => ?_
  · obtain ⟨⟨hgood, rfl⟩, rfl⟩ := h
    exact ⟨rfl, rfl, hgood.ledger, .own hgood.dialogue hgood.order (hsent hkind)⟩
  cases reply with
  | none => exact .pure fun v h => h
  | some reply =>
    refine .bind (Q := fun next => Handled c source reply next) (.step fun s h => ?_) fun next => ?_
    · obtain ⟨htransferred, hr⟩ := h
      have havdtp : s.avdtp = source := htransferred.avdtp
      have hsound := htransferred.sound hr
      refine ⟨?_, htransferred.core, ?_⟩
      · exact hsound.withAvdtp _
      · rw [← havdtp]
        rfl
    refine .ite ?_ ?_
    · intro hk
      refine .bind (.calm_bind (calm_report fun _ => rfl) fun _ => spec_setFailure _ _ fun v h =>
        ?_) fun _ => .pure fun v h => h
      have hstarted : startedAfter source reply c.cleanupRequired = c.cleanupRequired :=
        if_neg (herror hkind reply (by rw [h.handled]; exact hk))
      have hsound := h.sound
      rw [hstarted, ← h.core] at hsound
      exact Good.failed hsound _
    · intro hk
      exact .pure fun v h => ⟨hkind, reply, h, hk⟩

variable {e : PcmCore → Prop}

theorem spec_exchange_own (fuel : Nat) (action : AvdtpAction) (stage : V1TransportSilenceStage)
    (cancelOnly : Bool) :
    Spec (fun v => Going e v ∧ AvdtpSource.Settled (¬ IsStreamSignal ·) (action, v.avdtp))
      (exchange env options fuel action stage cancelOnly) fun r v => r.elim (Done v) fun next =>
        Going e v ∧ AvdtpSource.Settled (¬ IsStreamSignal ·) (next, v.avdtp) := by
  refine Spec.fixing (fun v => (v.core, v.avdtp))
    (p := fun a => e a.1 ∧ AvdtpSource.Settled (¬ IsStreamSignal ·) (action, a.2))
    (fun v h => ⟨h.1.core, h.2⟩) fun (c, source) ⟨hcore, hsettled⟩ => ?_
  have hown := spec_exchange env options (c := c) fuel action stage cancelOnly hsettled.sent
    fun _ reply _ ha => hsettled.signal ha.2
  refine (hown.pre fun v h => ?_).post fun r v h => ?_
  · obtain ⟨hgoing, hat⟩ := h
    cases hat
    exact ⟨⟨hgoing.1.good, rfl⟩, rfl⟩
  cases r with
  | none => exact h
  | some next =>
    obtain ⟨-, reply, hhandled, -⟩ := h
    obtain rfl := hhandled.core
    have hstarted : startedAfter source reply v.core.cleanupRequired = v.core.cleanupRequired :=
      if_neg fun ha => hsettled.signal ha.2
    have hsound := hhandled.sound
    have hnext := AvdtpSource.settled_handleSignaling (fun _ hs => hs) hsettled.signal reply
    rw [hstarted] at hsound
    rw [hhandled.handled] at hnext
    exact ⟨⟨hsound, hcore⟩, hnext⟩

theorem spec_exchange_stream {signal : UInt8} {kind : AvdtpActionKind} {state' : AvdtpSourceState}
    (fuel : Nat) (action : AvdtpAction) (stage : V1TransportSilenceStage) (cancelOnly : Bool) :
    Spec (fun v => Going e v ∧ AvdtpSource.Issued signal kind state' (action, v.avdtp))
      (exchange env options fuel action stage cancelOnly) fun r v => r.elim (Done v) fun next =>
        Sound (signal = avdtpSignalStart) v.core.leaseHeld v.core.signalingOpened v ∧ e v.core ∧
          next.kind = kind := by
  refine Spec.fixing (fun v => (v.core, v.avdtp))
    (p := fun a => e a.1 ∧ AvdtpSource.Issued signal kind state' (action, a.2))
    (fun v h => ⟨h.1.core, h.2⟩) fun (c, source) ⟨hcore, hissued⟩ => ?_
  have hanswer (hk : action.kind = .sendSignaling) (reply : List UInt8) :=
    AvdtpSource.handleSignaling_stream (hissued.waits hk).2 rfl reply
  have hstream := spec_exchange env options (c := c) fuel action stage cancelOnly hissued.sent
    fun hk reply he ha => ?_
  · refine (hstream.pre fun v h => ?_).post fun r v h => ?_
    · obtain ⟨hgoing, hat⟩ := h
      cases hat
      exact ⟨⟨hgoing.1.good, rfl⟩, rfl⟩
    cases r with
    | none => exact h
    | some next =>
      obtain ⟨hk, reply, hhandled, hne⟩ := h
      obtain rfl := hhandled.core
      obtain ⟨ha, hnext⟩ | ⟨-, he⟩ := hanswer hk reply
      · obtain ⟨hpending, hwait⟩ := hissued.waits hk
        have hstarted : startedAfter source reply v.core.cleanupRequired =
            decide (signal = avdtpSignalStart) := by
          rw [startedAfter, if_pos ⟨ha, hpending ▸ hwait.isStreamSignal⟩]
          exact congrArg (fun s => decide (s = avdtpSignalStart)) hpending
        have hsound := hhandled.sound
        rw [hhandled.handled, Prod.mk.injEq] at hnext
        rw [hstarted] at hsound
        refine ⟨hsound, hcore, ?_⟩
        rw [hnext.1]
        rfl
      · rw [hhandled.handled] at he
        exact absurd he hne
  · obtain ⟨-, hnext⟩ | ⟨hn, -⟩ := hanswer hk reply
    · rw [hnext] at he
      exact (hissued.waits hk).2.kind_ne_error he
    · exact hn ha.1

end

end NativeLdac.Agent
