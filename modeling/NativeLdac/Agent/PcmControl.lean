/-
  The peer of a PCM session that streams or is suspended: its CLOSE is
  accepted and ends the session, any other packet is a protocol failure.
-/
import NativeLdac.Agent.PcmExchange

namespace NativeLdac.Agent

open Engine Protocol

section
variable {e : PcmCore → Prop} {v : PcmView}

/-- The state after a packet was polled. -/
structure Polled (packet : List UInt8) (v : PcmView) : Prop where
  ledger : Ledger v.core v.core.cleanupRequired v.place v.calls
  dialogue : PeerDialogue v.calls (turnOf .polled v.avdtp (some packet))
  order : PeerOrder (answered v.calls) v.peers

theorem Going.polled (h : Going e v) (packet : List UInt8) :
    Polled packet { v with calls := .peerPacket v.avdtp packet :: v.calls } where
  ledger := h.good.ledger.signal rfl (by
    have hs := h.good.stream
    unfold StreamIs at hs ⊢
    rwa [lastStreamCommand_other rfl])
  dialogue := .poll h.good.dialogue
  order := h.good.order

theorem Polled.refused {packet : List UInt8} (h : Polled packet v) :
    Done { v with primary := .protocolFailure } := by
  refine Ledger.over (v := { v with primary := .protocolFailure }) h.ledger h.dialogue ?_
  unfold turnOf
  split
  · exact ⟨rfl, rfl⟩
  · trivial

def AcceptsClose (source : AvdtpSource) (packet response : List UInt8) : Prop :=
  ∃ command, peerCommand? packet = some command ∧ command.signalId = avdtpSignalClose ∧
    (PeerRequest.mk source command).IsAnswer response

theorem PeerOrder.close_not_mem {signals : List UInt8} {counts : PeerCounts}
    (h : PeerOrder signals counts) : avdtpSignalClose ∉ signals := by
  cases h with
  | none => simp
  | discover => decide
  | capability hq => rcases hq with rfl | rfl <;> decide
  | configuration hq => rcases hq with rfl | rfl <;> decide

theorem StreamIs.accepted {source : AvdtpSource} {packet response : List UInt8}
    (ha : AcceptsClose source packet response) (calls : List PcmCall) :
    StreamIs false (.peerResponse source response true :: calls) := by
  obtain ⟨command, -, hclose, hanswer⟩ := ha
  have haccept : acceptOf? response = some (command.transactionLabel, command.signalId) := by
    unfold PeerRequest.IsAnswer at hanswer
    rw [if_neg (by rw [hclose]; decide)] at hanswer
    exact acceptOf?_eq.mpr hanswer
  have haccepted : acceptedStreamCommand? calls (.peerResponse source response true) =
      some avdtpSignalClose := by
    simp only [acceptedStreamCommand?, haccept, hclose, if_true]
  unfold StreamIs
  rw [lastStreamCommand, haccepted, Option.some_or]
  decide

theorem Polled.responded {packet response : List UInt8} (h : Polled packet v)
    (ha : AcceptsClose v.avdtp packet response) {ok started : Bool}
    (hs : StreamIs started (.peerResponse v.avdtp response ok :: v.calls))
    (primary : V1TransportConfigurationDisposition) :
    Done { v with
      core := { v.core with cleanupRequired := started }
      calls := .peerResponse v.avdtp response ok :: v.calls
      primary := primary } := by
  obtain ⟨command, hcommand, hclose, hanswer⟩ := ha
  have hdialogue := h.dialogue
  have hturn : turnOf .polled v.avdtp (some packet) = .polled ⟨v.avdtp, command⟩ := by
    unfold turnOf
    rw [Option.bind_some, hcommand]
  rw [hturn] at hdialogue
  have hnext : NextWhileStreaming (answered v.calls) command.signalId :=
    ⟨hclose, h.order.close_not_mem⟩
  exact Ledger.over (v := { v with
    core := { v.core with cleanupRequired := started }
    calls := .peerResponse v.avdtp response ok :: v.calls
    primary := primary })
    ((h.ledger.signal rfl hs).withCleanup started) (.respond hdialogue hanswer hnext) rfl

end

section
variable {F H Ω : Type} [FloatArith F] (env : PcmEnvironment F H Ω)
  (options : V1TransportPcmOptions F) {e : PcmCore → Prop}

theorem acceptsClose_answer {source : AvdtpSource} {packet : List UInt8}
    {r : V1TransportPcmResult F} (h : answerPeerClose source packet r ≠ []) :
    AcceptsClose source packet (answerPeerClose source packet r) := by
  unfold answerPeerClose at h ⊢
  cases hp : avdtpParseHeader packet with
  | none =>
    rw [hp] at h
    exact absurd rfl h
  | some header =>
    rw [hp] at h
    dsimp only at h ⊢
    split_ifs at h ⊢ with hc
    · exact absurd rfl h
    · obtain ⟨hanswer, hclose, hcommand⟩ := isAnswer_close h
      refine ⟨header, ?_, hclose, hanswer⟩
      simp [peerCommand?, hp, hcommand]

/-- The polled packet, and the answer to it, if any. -/
structure PolledWith (packet response : List UInt8) (v : PcmView) : Prop
    extends Polled packet v where
  accepts : response ≠ [] → AcceptsClose v.avdtp packet response

/-- The report after the answer was sent, or not. -/
def Responded (ok : Bool) (v : PcmView) : Prop :=
  ∀ primary, Done { v with
    core := if ok then { v.core with cleanupRequired := false } else v.core
    primary := primary }

theorem PolledWith.responded {packet response : List UInt8} {v : PcmView}
    (h : PolledWith packet response v) (hne : response ≠ []) (ok : Bool) :
    Responded ok { v with calls := .peerResponse v.avdtp response ok :: v.calls } := by
  intro primary
  cases ok with
  | true => exact h.toPolled.responded (h.accepts hne) (.accepted (h.accepts hne) _) primary
  | false =>
    refine h.toPolled.responded (h.accepts hne) ?_ primary
    have hs := h.ledger.stream
    unfold StreamIs at hs ⊢
    rwa [lastStreamCommand_other rfl]

theorem spec_handlePeerPacket (packet : List UInt8) (error : UInt32) :
    Spec (Polled packet) (handlePeerPacket env options packet error) fun disposition v =>
      disposition ≠ .continue_ ∧ Done v := by
  unfold handlePeerPacket
  have hrefused (response : List UInt8) (protocolError : Int) : Spec (PolledWith packet response)
      (protocolFailure protocolError .writePcm : Prog (PcmSession F H Ω) Unit) fun _ => Done :=
    .calm_bind (calm_report fun _ => rfl) fun _ => spec_setFailure _ _ fun v h => h.refused
  refine .calm_bind (.onlyIf (calm_report fun _ => rfl)) fun _ => ?_
  refine .bind (Q := PolledWith packet) (.read fun s h => ⟨h, acceptsClose_answer⟩) ?_
  intro response
  refine .ite ?_ ?_
  · intro _
    exact .fails (hrefused _ _) fun v h => ⟨by decide, h⟩
  intro hne
  refine .ite (fun _ => ?_) fun _ => ?_
  · exact .fails (hrefused _ _) fun v h => ⟨by decide, h⟩
  refine .bind (Q := fun answer => Responded answer.ok)
    (spec_askLogged fun answer v h => h.responded hne answer.ok) ?_
  intro answer
  refine .ite ?_ ?_
  · intro hok
    rw [hok]
    exact .fails (.calm_bind (calm_report fun _ => rfl) fun _ =>
      spec_setFailure _ _ fun v h => h _) fun v h => ⟨by decide, h⟩
  · intro hok
    rw [Bool.not_eq_false] at hok
    rw [hok]
    refine .bind (Q := fun _ v => ∀ primary, Done { v with primary := primary })
      (.update fun s h => h) fun _ => ?_
    exact .fails (spec_setFailure _ _ fun v h => h _) fun v h => ⟨by decide, h⟩

theorem spec_observePeerStreamControl :
    Spec (Going e) (observePeerStreamControl env options) fun disposition v =>
      if disposition = .continue_ then Going e v else Done v := by
  unfold observePeerStreamControl
  refine .ite (fun _ => ?_) fun _ => ?_
  · exact .pure fun v h => h
  refine .bind (Q := fun polled v => if polled.disposition = .packet then Polled polled.packet
    v else Going e v) (.step fun s h => ?_) fun polled => ?_
  · show ite _ _ _
    dsimp only
    split_ifs
    · exact h.polled _
    · exact h
  cases polled.disposition with
  | noPacket => exact .pure fun v h => h
  | timedOut =>
    refine .calm_bind (calm_report fun _ => rfl) fun _ => ?_
    refine .calm_bind (calm_ask _) ?_
    intro begun
    refine .ite (fun _ => ?_) fun _ => ?_
    · exact .pure fun v h => h
    · exact .fails (fails_backendFailure _ _) fun v h => h
  | failure => exact .fails (fails_backendFailure _ _) fun v h => h
  | packet =>
    refine (spec_handlePeerPacket env options _ _).post fun disposition v h => ?_
    rw [if_neg h.1]
    exact h.2

theorem spec_checkPeer {α : Type} {a : α} {k : Prog (PcmSession F H Ω) α} {R : α → PcmView → Prop}
    (hend : ∀ v, Done v → R a v) (hk : Spec (Going e) k R) :
    Spec (Going e) (do
      let peerControl ← observePeerStreamControl env options
      if peerControl ≠ .continue_ then return a
      k) R := by
  refine .bind (spec_observePeerStreamControl env options) ?_
  intro peerControl
  refine .ite ?_ ?_
  · intro hne
    refine .pure fun v h => ?_
    rw [if_neg hne] at h
    exact hend v h
  · intro hc
    refine hk.pre fun v h => ?_
    rwa [if_pos (not_not.mp hc)] at h

/-! ## The read of peer commands -/

theorem spec_beginPeerSignalingRead (stage : V1TransportSilenceStage) :
    Spec (Going e) (beginPeerSignalingRead env options stage) (Yields (Going e)) := by
  unfold beginPeerSignalingRead
  refine .ite (fun _ => ?_) fun _ => ?_
  · exact .pure fun v h => h
  refine .calm_bind (calm_askError _) ?_
  intro ok
  refine .ite (fun _ => ?_) fun _ => ?_
  · refine .calm_bind (.read _) ?_
    intro error
    exact .fails (fails_backendFailure _ _) fun v h => h
  · exact .pure fun v h => h

theorem spec_cancelPeerSignalingRead (stage : V1TransportSilenceStage) :
    Spec (Going e) (cancelPeerSignalingRead env options stage) (Yields (Going e)) := by
  unfold cancelPeerSignalingRead
  refine .ite (fun _ => ?_) fun _ => ?_
  · exact .pure fun v h => h
  refine .calm_bind (calm_askError _) ?_
  intro ok
  refine .ite (fun _ => ?_) fun _ => ?_
  · refine .calm_bind (.read _) ?_
    intro error
    exact .fails (fails_backendFailure _ _) fun v h => h
  · exact .pure fun v h => h

end

end NativeLdac.Agent
