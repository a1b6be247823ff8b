/-
  The answer to a command packet and what the mapper does with it.

  The answer is decided by the lists of the protocol code, the effect by those of
  the agent.  The one command that is refused and still acted on is
  SET_ABSOLUTE_VOLUME.
-/
import NativeLdac.Sideband.EventFidelity

namespace NativeLdac.Sideband

open Agent Protocol

/-- The packet of the result answers with the code. -/
def Answers (result : AvrcpObserverResult) (code : UInt8) : Prop :=
  result.packet ≠ [] ∧ byteAt result.packet 3 = code

/-- The packet of the result answers NOT_IMPLEMENTED or REJECTED. -/
def Refuses (result : AvrcpObserverResult) : Prop :=
  Answers result avrcpResponseNotImplemented ∨ Answers result avrcpResponseRejected

instance (result : AvrcpObserverResult) (code : UInt8) : Decidable (Answers result code) :=
  inferInstanceAs (Decidable (_ ∧ _))

theorem Refuses.answers {result : AvrcpObserverResult} (h : Refuses result) :
    result.packet ≠ [] :=
  h.elim And.left And.left

theorem answered_cases {o : AvrcpObserver} {packet : List UInt8} {frame : AvrcpFrame}
    (hframe : avrcpParseFrame packet = .ok frame) (hcommand : frame.commandResponse = 0)
    (h : (avrcpObserverHandlePacket o packet).1.packet ≠ []) :
    o.state ≠ .idle ∧ o.state ≠ .failed ∧
      ((∃ parsed, avrcpParsePassThrough packet = .ok parsed ∧ parsed.frame.commandResponse = 0 ∧
          parsed.frame.ctypeOrResponse = Protocol.avrcpCtypeControl) ∨
        ∃ vendor, avrcpParseVendorFrame packet = .ok vendor ∧
          vendor.frame.commandResponse = 0) := by
  by_cases hstate : o.state = .idle ∨ o.state = .failed
  · rw [avrcpObserverHandlePacket, if_pos hstate] at h
    exact absurd rfl h
  rw [avrcpObserverHandlePacket, if_neg hstate, hframe] at h
  dsimp only at h
  obtain ⟨hidle, hfailed⟩ := not_or.mp hstate
  refine ⟨hidle, hfailed, ?_⟩
  by_cases hpass : frame.opcode = avrcpOpcodePassThrough ∧ frame.commandResponse = 0
  · rw [if_pos hpass, avrcpObserverHandlePassThrough] at h
    rcases hparse : avrcpParsePassThrough packet with e | parsed
    · rw [hparse] at h
      exact absurd rfl h
    · rw [hparse] at h
      dsimp only at h
      by_cases hcontrol : parsed.frame.commandResponse ≠ 0 ∨
          parsed.frame.ctypeOrResponse ≠ Protocol.avrcpCtypeControl
      · rw [if_pos hcontrol] at h
        exact absurd rfl h
      · rw [not_or, not_not, not_not] at hcontrol
        exact .inl ⟨parsed, rfl, hcontrol⟩
  · rw [if_neg hpass] at h
    rcases hparse : avrcpParseVendorFrame packet with e | vendor
    · rw [hparse] at h
      exact absurd rfl h
    · have hsame := (parseVendorFrame_frame hparse).1
      rw [hframe] at hsame
      cases hsame
      exact .inr ⟨vendor, rfl, hcommand⟩

/-! ## PASS THROUGH -/

theorem decodeOperation_unknown {operationId : UInt8} (h : ¬ avrcpKnownOperation operationId) :
    decodeOperation operationId = .unknown := by
  simp only [avrcpKnownOperation, decide_eq_true_eq, not_or] at h
  obtain ⟨hup, hdown, hmute, hplay, hstop, hpause, hforward, hbackward⟩ := h
  rw [decodeOperation]
  exact (if_neg hup).trans <| (if_neg hdown).trans <| (if_neg hmute).trans <|
    (if_neg hplay).trans <| (if_neg hstop).trans <| (if_neg hpause).trans <|
    (if_neg hforward).trans <| if_neg hbackward

theorem observeAvrcpPassThroughEvent_unknown (state : AvrcpPassThroughGateState) (g : UInt64)
    {event : AvrcpPassThroughEvent} (h : event.operation = .unknown) :
    (observeAvrcpPassThroughEvent state g event).1.actions = [] := by
  simp only [observeAvrcpPassThroughEvent, h, if_true]
  split_ifs <;> rfl

theorem mergePassThroughActions_nil (eligibility : V1MediaSessionEligibility)
    (actions : V1AvrcpActionSet) {decision : AvrcpPassThroughDecision}
    (h : decision.actions = []) :
    (mergePassThroughActions eligibility actions decision).actions = actions.actions := by
  simp [mergePassThroughActions, hasAvrcpPassThroughAction, h]

theorem observePassThrough_unknown (m : V1AvrcpControlMapperState) (g : UInt64)
    {operationId : UInt8} (released : Bool) (h : decodeOperation operationId = .unknown) :
    (v1AvrcpObservePassThrough m g operationId released).1.actions = [] := by
  simp only [v1AvrcpObservePassThrough]
  split_ifs
  · exact mergePassThroughActions_nil _ _ (observeAvrcpPassThroughEvent_unknown _ _ h)
  · rfl

section
variable {o : AvrcpObserver} {packet : List UInt8} (hidle : o.state ≠ .idle)
  (hfailed : o.state ≠ .failed)
include hidle hfailed

theorem refused_passThrough {parsed : AvrcpPassThrough}
    (hparse : avrcpParsePassThrough packet = .ok parsed)
    (hcommand : parsed.frame.commandResponse = 0)
    (hcontrol : parsed.frame.ctypeOrResponse = Protocol.avrcpCtypeControl)
    (h : Refuses (avrcpObserverHandlePacket o packet).1) :
    decodeOperation parsed.operationId = .unknown := by
  apply decodeOperation_unknown
  intro hknown
  obtain ⟨hframe, -, -⟩ := parsePassThrough_frame hparse
  have hlength := (parseFrame_fields hframe).1
  have hbyte : byteAt (avrcpObserverHandlePacket o packet).1.packet 3 = avrcpResponseAccepted := by
    rw [handlePacket_passThrough hidle hfailed hparse hcommand hcontrol, if_pos hknown]
    have hin : 3 < ((packet.take 8).set 0 (byteAt packet 0 ||| 0x02)).length := by
      simp only [List.length_set, List.length_take]
      omega
    rw [byteAt, List.getD_eq_getElem?_getD, List.getElem?_set_self hin]
    rfl
  rcases h with ⟨-, h⟩ | ⟨-, h⟩
  · rw [hbyte] at h
    exact absurd h (by decide)
  · rw [hbyte] at h
    exact absurd h (by decide)

theorem mapperOp_vendorCommand {g : UInt64} (hg : g ≠ 0) {vendor : AvrcpVendorFrame}
    (hparse : avrcpParseVendorFrame packet = .ok vendor)
    (hcommand : vendor.frame.commandResponse = 0)
    (hpdu : vendor.pduId ≠ avrcpPduSetAbsoluteVolume) : mapperOp g o packet = none := by
  have hunanswered : ¬ avrcpAnswersWrite o vendor := by
    simp [avrcpAnswersWrite, hcommand]
  obtain ⟨answer, -, -, hresult⟩ := handleVendorCommand_eq o hparse
  rw [mapperOp, handlePacket_vendor hidle hfailed hparse, avrcpObserverHandleVendor,
    if_neg hunanswered, if_pos hcommand, hresult, eventOp_vendorCommand hg, if_neg hpdu]

theorem volumeCommand_answer {parameters : List UInt8} (h : IsVolumeCommand packet parameters) :
    Answers (avrcpObserverHandlePacket o packet).1 avrcpResponseNotImplemented := by
  obtain ⟨vendor, hparse, hcommand, hpdu, -⟩ := h
  have hunanswered : ¬ avrcpAnswersWrite o vendor := by
    simp [avrcpAnswersWrite, hcommand]
  obtain ⟨answer, hne, hbyte, hresult⟩ := handleVendorCommand_eq o hparse
  rw [handlePacket_vendor hidle hfailed hparse, avrcpObserverHandleVendor, if_neg hunanswered,
    if_pos hcommand, hresult]
  refine ⟨hne, hbyte.trans ?_⟩
  have hcapabilities : avrcpPduSetAbsoluteVolume ≠ avrcpPduGetCapabilities := by decide
  have hregister : avrcpPduSetAbsoluteVolume ≠ avrcpPduRegisterNotification := by decide
  have hstatus : avrcpPduSetAbsoluteVolume ≠ avrcpPduGetPlayStatus := by decide
  rw [avrcpVendorAnswer, hpdu, if_neg (by simp [hcapabilities]), if_neg (by simp [hregister]),
    if_neg hstatus]

end

theorem mapDriverEvent_generation (record : NldAvrcpObserverEvent) :
    mapDriverEvent record 0 = none := rfl

theorem mapperOp_zero (o : AvrcpObserver) (packet : List UInt8) : mapperOp 0 o packet = none := by
  rw [mapperOp, eventOp]
  cases protocolEventRecord (avrcpObserverHandlePacket o packet).1.event with
  | none => rfl
  | some record =>
    rw [Option.bind_some, mapDriverEvent_generation]
    rfl

/-- The headset as the owner of a generation with volume sync on. -/
def synchronized : List V1AvrcpMapperOp :=
  [.beginAclGeneration 1, .setControlMode 1 true true, .acquireOwnerLease 1 1,
    .observeVolumeCapability 1 true, .observeWindowsVolume 1 ⟨30, false⟩]

/-- **Answer and effect**: a command that is refused makes the mapper do nothing,
    SET_ABSOLUTE_VOLUME apart, which is refused and has its volume passed on. -/
theorem refused_effect (inputs : List AvrcpObserverInput) (ops : List V1AvrcpMapperOp)
    (packet : List UInt8) (g : UInt64) (frame : AvrcpFrame)
    (hframe : avrcpParseFrame packet = .ok frame) (hcommand : frame.commandResponse = 0)
    (hrefused : Refuses (avrcpObserverHandlePacket (avrcpObserver.after {} inputs) packet).1) :
    (∀ op, mapperOp g (avrcpObserver.after {} inputs) packet = some op →
        (avrcpMapper.out (avrcpMapper.after {} ops) op).actions = []) ∨
      ∃ parameters, IsVolumeCommand packet parameters ∧
        Answers (avrcpObserverHandlePacket (avrcpObserver.after {} inputs) packet).1
          avrcpResponseNotImplemented ∧
        ∀ volume ≤ 0x7F, parameters.head? = some volume → g ≠ 0 →
          mapperOp g (avrcpObserver.after {} inputs) packet =
            some (.observeXm5AbsoluteVolume g volume .remoteNotification) := by
  generalize avrcpObserver.after {} inputs = o at hrefused ⊢
  obtain ⟨hidle, hfailed, hcases⟩ := answered_cases hframe hcommand hrefused.answers
  by_cases hg : g = 0
  · left
    intro op hop
    rw [hg, mapperOp_zero] at hop
    cases hop
  rcases hcases with ⟨parsed, hparse, hcommand, hcontrol⟩ | ⟨vendor, hparse, hcommand⟩
  · left
    intro op hop
    rw [mapperOp_key hg hidle hfailed ⟨parsed, hparse, hcommand, hcontrol, rfl, rfl⟩] at hop
    cases hop
    exact observePassThrough_unknown _ _ _
      (refused_passThrough hidle hfailed hparse hcommand hcontrol hrefused)
  · by_cases hpdu : vendor.pduId = avrcpPduSetAbsoluteVolume
    · have hvolume : IsVolumeCommand packet (vendor.parameters packet) :=
        ⟨vendor, hparse, hcommand, hpdu, rfl⟩
      refine .inr ⟨_, hvolume, volumeCommand_answer hidle hfailed hvolume, ?_⟩
      intro volume hle hhead _
      obtain ⟨rest, hrest⟩ := List.head?_eq_some_iff.mp hhead
      have hbyte : byteAt (vendor.parameters packet) 0 = volume := by
        rw [hrest]
        rfl
      rw [mapperOp_command hg hidle hfailed hvolume, hbyte, and_seven.mpr hle]
    · left
      intro op hop
      rw [mapperOp_vendorCommand hidle hfailed hg hparse hcommand hpdu] at hop
      cases hop

def headsetCommand (pduId : UInt8) (parameters : List UInt8) : List UInt8 :=
  avrcpWriteVendorCommand avrcpMaxControlPacket 2 Protocol.avrcpCtypeControl pduId parameters

theorem refused_volumeCommand :
    (∀ op, mapperOp 1 (avrcpObserver.after {} [.begin_])
          (headsetCommand avrcpPduSetAbsoluteVolume [0x40]) = some op →
        (avrcpMapper.out (avrcpMapper.after {} synchronized) op).actions = []) ∨
      ∃ parameters, IsVolumeCommand (headsetCommand avrcpPduSetAbsoluteVolume [0x40]) parameters ∧
        Answers (avrcpObserverHandlePacket (avrcpObserver.after {} [.begin_])
          (headsetCommand avrcpPduSetAbsoluteVolume [0x40])).1 avrcpResponseNotImplemented ∧
        ∀ volume ≤ 0x7F, parameters.head? = some volume → (1 : UInt64) ≠ 0 →
          mapperOp 1 (avrcpObserver.after {} [.begin_])
              (headsetCommand avrcpPduSetAbsoluteVolume [0x40]) =
            some (.observeXm5AbsoluteVolume 1 volume .remoteNotification) :=
  refused_effect [.begin_] synchronized (headsetCommand avrcpPduSetAbsoluteVolume [0x40]) 1 _ rfl
    (by decide) (.inl (by decide))

/-- SET_ABSOLUTE_VOLUME is refused, and sets the Windows volume. -/
theorem volumeCommand_effective :
    (∃ frame, avrcpParseFrame (headsetCommand avrcpPduSetAbsoluteVolume [0x40]) = .ok frame ∧
        frame.commandResponse = 0) ∧
      Refuses (avrcpObserverHandlePacket (avrcpObserver.after {} [.begin_])
        (headsetCommand avrcpPduSetAbsoluteVolume [0x40])).1 ∧
      ∃ op, mapperOp 1 (avrcpObserver.after {} [.begin_])
          (headsetCommand avrcpPduSetAbsoluteVolume [0x40]) = some op ∧
        (avrcpMapper.out (avrcpMapper.after {} synchronized) op).actions =
          [.setWindowsVolume] :=
  ⟨⟨_, rfl, by decide⟩, .inl (by decide), _, rfl, by decide⟩

end NativeLdac.Sideband
