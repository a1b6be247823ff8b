/-
  What the mapper is told of a packet: the observer's event, the driver's record
  of it, the host's reading of the record, and the mapper's operation for it.

  * `mapperOp` composes the four layers;
  * `Faithful` says that the operation is what the packet says;
  * `VolumeStated` is the condition for it: an answer to SET_ABSOLUTE_VOLUME is
    ACCEPTED, and it and the command carry a volume.
-/
import NativeLdac.Protocol.AvrcpPlayback
import NativeLdac.Sideband.EventQueue

namespace NativeLdac.Sideband

open Agent Protocol
open V1AvrcpObservedEvent (op)

/-! ## The layers -/

/-- The mapper's operation for an event of the observer, in the generation. -/
def eventOp (generation : UInt64) (event : Protocol.AvrcpObserverEvent) :
    Option V1AvrcpMapperOp :=
  (protocolEventRecord event).bind fun record =>
    (mapDriverEvent record generation).bind V1AvrcpObservedEvent.op

/-- The mapper's operation for a packet. -/
def mapperOp (generation : UInt64) (o : AvrcpObserver) (packet : List UInt8) :
    Option V1AvrcpMapperOp :=
  eventOp generation (avrcpObserverHandlePacket o packet).1.event

theorem word_low (bytes : List UInt8) :
    wordOfBytes bytes &&& 0xFF = (byteAt bytes 0).toUInt32 := by
  have hmask : ∀ j : Fin 32, (255#32)[j.val] = decide (j.val < 8) := by decide
  rw [wordOfBytes, ← UInt32.toBitVec_inj]
  ext i hi
  have hbit : (255#32)[i] = decide (i < 8) := hmask ⟨i, hi⟩
  by_cases hlow : i < 8
  · have h₂ : i < 16 := by omega
    have h₃ : i < 24 := by omega
    simp [hbit, hlow, h₂, h₃]
  · have hhigh : (byteAt bytes 0).toBitVec.getLsbD i = false :=
      BitVec.getLsbD_of_ge _ _ (by omega)
    simp [hbit, hlow, hhigh]

theorem byte_low (b : UInt8) : b.toUInt32 &&& 0xFF = b.toUInt32 := by
  rw [← UInt32.toNat_inj, UInt32.toNat_and, UInt8.toNat_toUInt32]
  show b.toNat &&& (2 ^ 8 - 1) = b.toNat
  rw [Nat.and_two_pow_sub_one_eq_mod, Nat.mod_eq_of_lt b.toNat_lt]

theorem and_seven {b : UInt8} : b &&& 0x7F = b ↔ b ≤ 0x7F := by
  rw [← UInt8.toNat_inj, UInt8.toNat_and, UInt8.le_iff_toNat_le]
  show b.toNat &&& (2 ^ 7 - 1) = b.toNat ↔ b.toNat ≤ 127
  rw [Nat.and_two_pow_sub_one_eq_mod]
  omega

theorem pdu_word (pduId : UInt8) :
    pduId.toUInt32 &&& 0xFF = 0x50 ↔ pduId = avrcpPduSetAbsoluteVolume := by
  rw [byte_low, ← UInt32.toNat_inj, UInt8.toNat_toUInt32, ← UInt8.toNat_inj]
  rfl

theorem byte_word (b : UInt8) : b.toUInt32 ≠ 0 ↔ b ≠ 0 := by
  rw [ne_eq, ← UInt32.toNat_inj, UInt8.toNat_toUInt32, ne_eq, ← UInt8.toNat_inj]
  rfl

theorem byteAt_take (bytes : List UInt8) : byteAt (bytes.take 8) 0 = byteAt bytes 0 := by
  cases bytes <;> rfl

section
variable {g : UInt64} (hg : g ≠ 0)
include hg

theorem eventOp_passThrough (operationId released : UInt8) :
    eventOp g { kind := .passThrough, operationId := operationId, released := released } =
      some (.observePassThrough g (operationId &&& 0x7F) (released ≠ 0)) := by
  by_cases hr : released = 0
  · simp [eventOp, protocolEventRecord, mapDriverEvent, hg, op, hr]
  · simp [eventOp, protocolEventRecord, mapDriverEvent, hg, op, hr,
      eventFlagReleased, kFlagReleased]

theorem eventOp_volumeCapability (supported : UInt8) :
    eventOp g { kind := .volumeCapability, volumeSupported := supported } =
      some (.observeVolumeCapability g (supported ≠ 0)) := by
  simp only [eventOp, protocolEventRecord, mapDriverEvent, Option.bind_some, if_neg hg,
    op, byte_word]

theorem eventOp_volumeChanged (volume response : UInt8) :
    eventOp g
        { kind := .volumeChanged
          volumeSupported := 1
          absoluteVolume := volume
          responseCode := response } =
      some (.observeXm5AbsoluteVolume g (volume &&& 0x7F)
        (if response = Protocol.avrcpResponseChanged then .remoteNotification else .commandResponse)) := by
  by_cases hi : response = avrcpResponseInterim
  · rw [if_neg (by rw [hi]; decide)]
    simp [eventOp, protocolEventRecord, mapDriverEvent, hg, op, hi]
    decide
  · by_cases hc : response = Protocol.avrcpResponseChanged
    · rw [if_pos hc]
      simp [eventOp, protocolEventRecord, mapDriverEvent, hg, op, hc]
      decide
    · rw [if_neg hc]
      simp [eventOp, protocolEventRecord, mapDriverEvent, hg, op, hi, hc]
      decide

theorem eventOp_writeResponse (response pduId : UInt8) (parameters : List UInt8) :
    eventOp g
        { kind := .writeResponse
          responseCode := response
          pduId := pduId
          parameterBytes := parameters } =
      if pduId = avrcpPduSetAbsoluteVolume then
        some (.observeXm5AbsoluteVolume g (byteAt parameters 0 &&& 0x7F) .commandResponse)
      else none := by
  simp only [eventOp, protocolEventRecord, mapDriverEvent, Option.bind_some, if_neg hg]
  by_cases h : pduId = avrcpPduSetAbsoluteVolume
  · rw [if_neg (not_not_intro ((pdu_word pduId).mpr h)), if_pos h, word_low]
    simp [op]
  · rw [if_pos (mt (pdu_word pduId).mp h), if_neg h]
    rfl

theorem eventOp_vendorCommand (pduId : UInt8) (parameters : List UInt8) :
    eventOp g { kind := .vendorCommand, pduId := pduId, parameterBytes := parameters } =
      if pduId = avrcpPduSetAbsoluteVolume then
        some (.observeXm5AbsoluteVolume g (byteAt parameters 0 &&& 0x7F) .remoteNotification)
      else none := by
  simp only [eventOp, protocolEventRecord, mapDriverEvent, Option.bind_some, if_neg hg]
  by_cases h : pduId = avrcpPduSetAbsoluteVolume
  · rw [if_neg (not_not_intro ((pdu_word pduId).mpr h)), if_pos h, word_low]
    simp [op]
  · rw [if_pos (mt (pdu_word pduId).mp h), if_neg h]
    rfl

theorem eventOp_protocolError {event : Protocol.AvrcpObserverEvent}
    (h : event.kind = .protocolError) : eventOp g event = none := by
  simp only [eventOp, protocolEventRecord, h]
  split_ifs <;> simp [mapDriverEvent, hg]

end

/-! ## What a packet says -/

/-- The packet is a PASS THROUGH command. -/
def IsKey (packet : List UInt8) (operationId : UInt8) (released : Bool) : Prop :=
  ∃ parsed, avrcpParsePassThrough packet = .ok parsed ∧ parsed.frame.commandResponse = 0 ∧
    parsed.frame.ctypeOrResponse = Protocol.avrcpCtypeControl ∧ parsed.operationId = operationId ∧
    decide (parsed.released ≠ 0) = released

/-- The packet notifies the volume that the observer asked for: the first answer is
    INTERIM, the next is CHANGED. -/
def IsVolumeNotification (o : AvrcpObserver) (packet : List UInt8) (volume response : UInt8) :
    Prop :=
  ∃ vendor, avrcpParseVendorFrame packet = .ok vendor ∧ vendor.frame.commandResponse ≠ 0 ∧
    ¬ avrcpAnswersWrite o vendor ∧ vendor.frame.transactionLabel = o.pendingTransactionLabel ∧
    vendor.pduId = o.pendingPduId ∧ vendor.frame.ctypeOrResponse = response ∧
    ((o.state = .waitVolumeInterim ∧ response = avrcpResponseInterim) ∨
      (o.state = .observing ∧ response = Protocol.avrcpResponseChanged)) ∧
    vendor.parameters packet = [avrcpEventVolumeChanged, volume] ∧ volume ≤ 0x7F

/-- The packet answers the host's SET_ABSOLUTE_VOLUME. -/
def IsVolumeResponse (o : AvrcpObserver) (packet : List UInt8) (response : UInt8)
    (parameters : List UInt8) : Prop :=
  ∃ vendor, avrcpParseVendorFrame packet = .ok vendor ∧ avrcpAnswersWrite o vendor ∧
    vendor.pduId = avrcpPduSetAbsoluteVolume ∧ vendor.frame.ctypeOrResponse = response ∧
    vendor.parameters packet = parameters

def IsVolumeCommand (packet : List UInt8) (parameters : List UInt8) : Prop :=
  ∃ vendor, avrcpParseVendorFrame packet = .ok vendor ∧ vendor.frame.commandResponse = 0 ∧
    vendor.pduId = avrcpPduSetAbsoluteVolume ∧ vendor.parameters packet = parameters

/-- The mapper is told what the packet says. -/
structure Faithful (o : AvrcpObserver) (packet : List UInt8) (g : UInt64)
    (told : Option V1AvrcpMapperOp) : Prop where
  key : ∀ operationId released, IsKey packet operationId released →
    told = some (.observePassThrough g operationId released)
  notification : ∀ volume response, IsVolumeNotification o packet volume response →
    told = some (.observeXm5AbsoluteVolume g volume
      (if response = Protocol.avrcpResponseChanged then .remoteNotification else .commandResponse))
  response : ∀ response parameters, IsVolumeResponse o packet response parameters →
    ∀ volume event, told = some (.observeXm5AbsoluteVolume g volume event) →
      response = avrcpResponseAccepted ∧ parameters.head? = some volume
  command : ∀ parameters, IsVolumeCommand packet parameters →
    ∀ volume event, told = some (.observeXm5AbsoluteVolume g volume event) →
      parameters.head? = some volume
  onlyKey : ∀ operationId released, told = some (.observePassThrough g operationId released) →
    IsKey packet operationId released
  onlyVolume : ∀ volume event, told = some (.observeXm5AbsoluteVolume g volume event) →
    (∃ response, IsVolumeNotification o packet volume response) ∨
      (∃ response parameters, IsVolumeResponse o packet response parameters) ∨
      ∃ parameters, IsVolumeCommand packet parameters

/-- An answer to SET_ABSOLUTE_VOLUME is ACCEPTED, and it and the command carry a
    volume. -/
structure VolumeStated (o : AvrcpObserver) (packet : List UInt8) : Prop where
  response : ∀ response parameters, IsVolumeResponse o packet response parameters →
    response = avrcpResponseAccepted ∧ ∃ volume ≤ 0x7F, parameters.head? = some volume
  command : ∀ parameters, IsVolumeCommand packet parameters →
    ∃ volume ≤ 0x7F, parameters.head? = some volume

theorem parameters_pair {parameters : List UInt8} {first : UInt8} (hl : parameters.length = 2)
    (hf : byteAt parameters 0 = first) : parameters = [first, byteAt parameters 1] := by
  obtain ⟨a, b, rfl⟩ := List.length_eq_two.mp hl
  rw [← hf]
  rfl

theorem handleResponse_cases {o : AvrcpObserver} (packet : List UInt8) (vendor : AvrcpVendorFrame)
    (hl : o.nextTransactionLabel ≤ 0x0F) :
    (∃ e o', avrcpObserverHandleResponse o packet vendor =
        avrcpObserverFailStage o' e 4 packet) ∨
      (∃ supported, (avrcpObserverHandleResponse o packet vendor).1.event =
        { kind := .volumeCapability, volumeSupported := supported }) ∨
      ∃ volume response, vendor.frame.ctypeOrResponse = response ∧
        ((o.state = .waitVolumeInterim ∧ response = avrcpResponseInterim) ∨
          (o.state = .observing ∧ response = Protocol.avrcpResponseChanged)) ∧
        vendor.parameters packet = [avrcpEventVolumeChanged, volume] ∧ volume ≤ 0x7F := by
  simp only [avrcpObserverHandleResponse]
  split_ifs with hwait hstable hsupported hvolume hinterim hchanged
  · exact .inl ⟨_, _, rfl⟩
  · refine .inr (.inl ⟨1, ?_⟩)
    apply registerVolume_event
    exact hl
  · exact .inr (.inl ⟨_, rfl⟩)
  · exact .inr (.inr ⟨_, _, rfl, .inl hinterim.symm, parameters_pair hvolume.2.1 hvolume.2.2.1,
      hvolume.2.2.2⟩)
  · exact .inr (.inr ⟨_, _, rfl, .inr hchanged.symm, parameters_pair hvolume.2.1 hvolume.2.2.1,
      hvolume.2.2.2⟩)
  · exact .inl ⟨_, _, rfl⟩
  · exact .inl ⟨_, _, rfl⟩

section
variable {o : AvrcpObserver} {packet : List UInt8} {g : UInt64} (hg : g ≠ 0)
  (hidle : o.state ≠ .idle) (hfailed : o.state ≠ .failed)
include hg hidle hfailed

theorem mapperOp_key {operationId : UInt8} {released : Bool}
    (h : IsKey packet operationId released) :
    mapperOp g o packet = some (.observePassThrough g operationId released) := by
  obtain ⟨parsed, hparse, hcommand, hcontrol, rfl, rfl⟩ := h
  rw [mapperOp, handlePacket_passThrough hidle hfailed hparse hcommand hcontrol,
    eventOp_passThrough hg, (parsePassThrough_frame hparse).2.2, avrcpPassThroughOperationMask,
    UInt8.and_assoc, UInt8.and_self]

theorem mapperOp_notification (hl : o.nextTransactionLabel ≤ 0x0F) {volume response : UInt8}
    (h : IsVolumeNotification o packet volume response) :
    mapperOp g o packet = some (.observeXm5AbsoluteVolume g volume
      (if response = Protocol.avrcpResponseChanged then .remoteNotification else .commandResponse)) := by
  obtain ⟨vendor, hparse, hresponse, hanswers, hlabel, hpdu, rfl, hstate, hparams, hvolume⟩ := h
  have hevent : (avrcpObserverHandlePacket o packet).1.event =
      { kind := .volumeChanged
        volumeSupported := 1
        absoluteVolume := volume
        responseCode := vendor.frame.ctypeOrResponse } := by
    have hhead : byteAt (vendor.parameters packet) 0 = avrcpEventVolumeChanged := by
      rw [hparams]
      rfl
    have hbyte : byteAt (vendor.parameters packet) 1 = volume := by
      rw [hparams]
      rfl
    rw [handlePacket_vendor hidle hfailed hparse, avrcpObserverHandleVendor, if_neg hanswers,
      if_neg hresponse, if_neg (by simp [hlabel, hpdu])]
    have hlength : (vendor.parameters packet).length = 2 := by rw [hparams]; rfl
    rcases hstate with ⟨hstate, hcode⟩ | ⟨hstate, hcode⟩
    · simp [avrcpObserverHandleResponse, hstate, hcode, hlength, hhead, hbyte, hvolume]
    · have hinterim : Protocol.avrcpResponseChanged ≠ avrcpResponseInterim := by decide
      simp only [avrcpObserverHandleResponse, hstate, hcode, hlength, hhead, hbyte, hvolume,
        hinterim, reduceCtorEq, and_self, or_true, if_true, if_false]
      apply registerVolume_event
      exact hl
  rw [mapperOp, hevent, eventOp_volumeChanged hg, and_seven.mpr hvolume]

theorem mapperOp_response {response : UInt8} {parameters : List UInt8}
    (h : IsVolumeResponse o packet response parameters) :
    mapperOp g o packet =
      some (.observeXm5AbsoluteVolume g (byteAt parameters 0 &&& 0x7F) .commandResponse) := by
  obtain ⟨vendor, hparse, hanswers, hpdu, -, rfl⟩ := h
  rw [mapperOp, handlePacket_vendor hidle hfailed hparse, avrcpObserverHandleVendor,
    if_pos hanswers]
  show eventOp g { kind := .writeResponse, responseCode := _, pduId := _, parameterBytes := _ } = _
  rw [eventOp_writeResponse hg, if_pos hpdu, byteAt_take]

theorem mapperOp_command {parameters : List UInt8} (h : IsVolumeCommand packet parameters) :
    mapperOp g o packet =
      some (.observeXm5AbsoluteVolume g (byteAt parameters 0 &&& 0x7F) .remoteNotification) := by
  obtain ⟨vendor, hparse, hcommand, hpdu, rfl⟩ := h
  have hunanswered : ¬ avrcpAnswersWrite o vendor := by
    simp [avrcpAnswersWrite, hcommand]
  obtain ⟨answer, -, -, hresult⟩ := handleVendorCommand_eq o hparse
  rw [mapperOp, handlePacket_vendor hidle hfailed hparse, avrcpObserverHandleVendor,
    if_neg hunanswered, if_pos hcommand, hresult, eventOp_vendorCommand hg, if_pos hpdu,
    byteAt_take]

theorem mapperOp_cases (hl : o.nextTransactionLabel ≤ 0x0F) :
    mapperOp g o packet = none ∨
      (∃ supported, mapperOp g o packet = some (.observeVolumeCapability g supported)) ∨
      (∃ operationId released, IsKey packet operationId released) ∨
      (∃ volume response, IsVolumeNotification o packet volume response) ∨
      (∃ response parameters, IsVolumeResponse o packet response parameters) ∨
      ∃ parameters, IsVolumeCommand packet parameters := by
  have herror : ∀ (o' : AvrcpObserver) e stage,
      eventOp g (avrcpObserverFailStage o' e stage packet).1.event = none :=
    fun o' e stage => eventOp_protocolError hg rfl
  unfold mapperOp avrcpObserverHandlePacket
  rw [if_neg (by simp [hidle, hfailed])]
  rcases hframe : avrcpParseFrame packet with e | frame
  · exact .inl (herror _ _ _)
  dsimp only
  split_ifs with hpass
  · unfold avrcpObserverHandlePassThrough
    rcases hparse : avrcpParsePassThrough packet with e | parsed
    · exact .inl (herror _ _ _)
    dsimp only
    by_cases hcommand : parsed.frame.commandResponse ≠ 0 ∨
        parsed.frame.ctypeOrResponse ≠ Protocol.avrcpCtypeControl
    · rw [if_pos hcommand]
      exact .inl (herror _ _ _)
    · rw [not_or, not_not, not_not] at hcommand
      exact .inr (.inr (.inl ⟨_, _, parsed, hparse, hcommand.1, hcommand.2, rfl, rfl⟩))
  rcases hparse : avrcpParseVendorFrame packet with e | vendor
  · exact .inl (herror _ _ _)
  dsimp only [avrcpObserverHandleVendor]
  split_ifs with hanswers hcommand hpending
  · by_cases hpdu : vendor.pduId = avrcpPduSetAbsoluteVolume
    · exact .inr (.inr (.inr (.inr (.inl ⟨_, _, vendor, hparse, hanswers, hpdu, rfl, rfl⟩))))
    · refine .inl ?_
      exact (eventOp_writeResponse hg _ _ _).trans (if_neg hpdu)
  · by_cases hpdu : vendor.pduId = avrcpPduSetAbsoluteVolume
    · exact .inr (.inr (.inr (.inr (.inr ⟨_, vendor, hparse, hcommand, hpdu, rfl⟩))))
    · obtain ⟨answer, -, -, hresult⟩ := handleVendorCommand_eq o hparse
      rw [hresult]
      exact .inl ((eventOp_vendorCommand hg _ _).trans (if_neg hpdu))
  · exact .inl (herror _ _ _)
  · rw [not_or, not_not, not_not] at hpending
    rcases handleResponse_cases packet vendor hl with ⟨e, o', he⟩ | ⟨supported, he⟩ |
      ⟨volume, response, hcode, hstate, hparams, hvolume⟩
    · rw [he]
      exact .inl (herror _ _ _)
    · rw [he, eventOp_volumeCapability hg]
      exact .inr (.inl ⟨_, rfl⟩)
    · exact .inr (.inr (.inr (.inl ⟨_, _, vendor, hparse, hcommand, hanswers, hpending.1,
        hpending.2, hcode, hstate, hparams, hvolume⟩)))

end

/-- **Fidelity**: in every reachable state, what the mapper is told of a handled
    packet is what the packet says, exactly when it states the volumes it is read
    for. -/
theorem faithful_iff (inputs : List AvrcpObserverInput) (packet : List UInt8) (g : UInt64)
    (hg : g ≠ 0) (hidle : (avrcpObserver.after {} inputs).state ≠ .idle)
    (hfailed : (avrcpObserver.after {} inputs).state ≠ .failed) :
    Faithful (avrcpObserver.after {} inputs) packet g
        (mapperOp g (avrcpObserver.after {} inputs) packet) ↔
      VolumeStated (avrcpObserver.after {} inputs) packet := by
  have hl := label_after inputs
  generalize avrcpObserver.after {} inputs = o at hidle hfailed hl ⊢
  have hfirst : ∀ {parameters : List UInt8} {volume : UInt8}, parameters.head? = some volume →
      byteAt parameters 0 = volume := by
    intro parameters volume h
    obtain ⟨rest, rfl⟩ := List.head?_eq_some_iff.mp h
    rfl
  constructor
  · intro h
    constructor
    · intro response parameters hr
      obtain ⟨hcode, hhead⟩ := h.response response parameters hr _ _
        (mapperOp_response hg hidle hfailed hr)
      exact ⟨hcode, _, UInt8.and_le_right, hhead⟩
    · intro parameters hc
      exact ⟨_, UInt8.and_le_right,
        h.command parameters hc _ _ (mapperOp_command hg hidle hfailed hc)⟩
  · intro h
    have hcases : mapperOp g o packet = none ∨ _ := mapperOp_cases hg hidle hfailed hl
    constructor
    · intro operationId released hkey
      exact mapperOp_key hg hidle hfailed hkey
    · intro volume response hn
      exact mapperOp_notification hg hidle hfailed hl hn
    · intro response parameters hr volume event htold
      obtain ⟨hcode, volume', hle, hhead⟩ := h.response response parameters hr
      rw [mapperOp_response hg hidle hfailed hr, hfirst hhead, and_seven.mpr hle] at htold
      cases htold
      exact ⟨hcode, hhead⟩
    · intro parameters hc volume event htold
      obtain ⟨volume', hle, hhead⟩ := h.command parameters hc
      rw [mapperOp_command hg hidle hfailed hc, hfirst hhead, and_seven.mpr hle] at htold
      cases htold
      exact hhead
    · intro operationId released htold
      rcases hcases with h | ⟨supported, h⟩ | ⟨operationId', released', hk⟩ |
        ⟨volume, response, hn⟩ | ⟨response, parameters, hr⟩ | ⟨parameters, hc⟩
      · rw [h] at htold
        cases htold
      · rw [h] at htold
        cases htold
      · rw [mapperOp_key hg hidle hfailed hk] at htold
        cases htold
        exact hk
      · rw [mapperOp_notification hg hidle hfailed hl hn] at htold
        cases htold
      · rw [mapperOp_response hg hidle hfailed hr] at htold
        cases htold
      · rw [mapperOp_command hg hidle hfailed hc] at htold
        cases htold
    · intro volume event htold
      rcases hcases with h | ⟨supported, h⟩ | ⟨operationId', released', hk⟩ |
        ⟨volume, response, hn⟩ | hr | hc
      · rw [h] at htold
        cases htold
      · rw [h] at htold
        cases htold
      · rw [mapperOp_key hg hidle hfailed hk] at htold
        cases htold
      · rw [mapperOp_notification hg hidle hfailed hl hn] at htold
        cases htold
        exact .inl ⟨response, hn⟩
      · exact .inr (.inl hr)
      · exact .inr (.inr hc)

def volumeWritten : List AvrcpObserverInput :=
  [.begin_, .write avrcpPduSetAbsoluteVolume 0 [0x2A]]

def volumeAnswer (response volume : UInt8) : List UInt8 :=
  avrcpWriteVendorResponse avrcpMaxControlPacket 1 response avrcpPduSetAbsoluteVolume [volume]

theorem faithful_accepted :
    Faithful (avrcpObserver.after {} volumeWritten) (volumeAnswer avrcpResponseAccepted 0x2A) 1
        (mapperOp 1 (avrcpObserver.after {} volumeWritten)
          (volumeAnswer avrcpResponseAccepted 0x2A)) ↔
      VolumeStated (avrcpObserver.after {} volumeWritten)
        (volumeAnswer avrcpResponseAccepted 0x2A) :=
  faithful_iff volumeWritten (volumeAnswer avrcpResponseAccepted 0x2A) 1 (by decide) (by decide)
    (by decide)

/-- The error code of a REJECTED answer is told as the headset's volume. -/
theorem unfaithful_rejected :
    ¬ Faithful (avrcpObserver.after {} volumeWritten) (volumeAnswer avrcpResponseRejected 0x01) 1
      (mapperOp 1 (avrcpObserver.after {} volumeWritten)
        (volumeAnswer avrcpResponseRejected 0x01)) := by
  intro h
  obtain ⟨vendor, hparse, hframe, hpdu, hparams⟩ := parse_written (by decide : (1 : UInt8) ≤ 0x0F)
    (by decide : avrcpResponseRejected ≤ 0x0F) true avrcpPduSetAbsoluteVolume
    (by decide : [(0x01 : UInt8)].length ≤ 9)
  rw [← writeVendorResponse_eq (by decide)] at hparse hparams
  have hanswers : avrcpAnswersWrite (avrcpObserver.after {} volumeWritten) vendor := by
    rw [avrcpAnswersWrite, hframe, hpdu]
    decide
  have hr : IsVolumeResponse (avrcpObserver.after {} volumeWritten)
      (volumeAnswer avrcpResponseRejected 0x01) avrcpResponseRejected [0x01] :=
    ⟨vendor, hparse, hanswers, hpdu, by rw [hframe]; rfl, hparams⟩
  have htold : mapperOp 1 (avrcpObserver.after {} volumeWritten)
      (volumeAnswer avrcpResponseRejected 0x01) =
      some (.observeXm5AbsoluteVolume 1 1 .commandResponse) := by decide
  exact absurd (h.response _ _ hr _ _ htold).1 (by decide)

end NativeLdac.Sideband
