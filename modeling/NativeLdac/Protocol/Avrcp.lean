/-
  The AVRCP control channel of the headset (`protocol/src/avrcp.c`): AV/C frames,
  and the observer that asks for the headset's volume, answers its commands, and
  submits the writes of the host.

  A packet is a list of bytes; the writers return the empty list where the source
  returns the size 0.  Every operation of the observer returns its result and the
  new state.
-/
import Mathlib.Tactic.SplitIfs
import NativeLdac.Protocol.LdacCodec
import NativeLdac.Lib.Reducer

namespace NativeLdac.Protocol

/-! ## Frames -/

def avrcpProfileId : UInt16 := 0x110E
def avrcpCompanyIdBluetoothSig : UInt32 := 0x001958
def avrcpPanelSubunitType : UInt8 := 0x09
def avrcpPanelSubunitId : UInt8 := 0x00
def avrcpPassThroughReleasedMask : UInt8 := 0x80
def avrcpPassThroughOperationMask : UInt8 := 0x7F

def avrcpOpcodeVendorDependent : UInt8 := 0x00
def avrcpOpcodePassThrough : UInt8 := 0x7C

def avrcpCtypeControl : UInt8 := 0x00
def avrcpCtypeStatus : UInt8 := 0x01
def avrcpCtypeNotify : UInt8 := 0x03
def avrcpResponseNotImplemented : UInt8 := 0x08
def avrcpResponseAccepted : UInt8 := 0x09
def avrcpResponseRejected : UInt8 := 0x0A
def avrcpResponseStable : UInt8 := 0x0C
def avrcpResponseChanged : UInt8 := 0x0D
def avrcpResponseInterim : UInt8 := 0x0F

def avrcpPduGetCapabilities : UInt8 := 0x10
def avrcpPduGetPlayStatus : UInt8 := 0x20
def avrcpPduRegisterNotification : UInt8 := 0x31
def avrcpPduSetAbsoluteVolume : UInt8 := 0x50

def avrcpCapabilityEventsSupported : UInt8 := 0x03
def avrcpEventPlaybackStatusChanged : UInt8 := 0x01
def avrcpEventTrackChanged : UInt8 := 0x02
def avrcpEventVolumeChanged : UInt8 := 0x0D

def avrcpPlaybackStatusStopped : UInt8 := 0x00
def avrcpPlaybackStatusPlaying : UInt8 := 0x01
def avrcpPlaybackStatusPaused : UInt8 := 0x02

def avrcpOperationVolumeUp : UInt8 := 0x41
def avrcpOperationVolumeDown : UInt8 := 0x42
def avrcpOperationMute : UInt8 := 0x43
def avrcpOperationPlay : UInt8 := 0x44
def avrcpOperationStop : UInt8 := 0x45
def avrcpOperationPause : UInt8 := 0x46
def avrcpOperationForward : UInt8 := 0x4B
def avrcpOperationBackward : UInt8 := 0x4C

def avrcpMaxControlPacket : Nat := 64
def avctpPacketSingle : UInt8 := 0

/-- The statuses other than `AVRCP_OK`. -/
inductive AvrcpError where
  | invalidArgument | truncated | unsupportedFragment | protocolError | noSpace
  | unexpectedResponse
deriving DecidableEq, Repr

def AvrcpError.code : AvrcpError → Int32
  | .invalidArgument => -1
  | .truncated => -2
  | .unsupportedFragment => -3
  | .protocolError => -4
  | .noSpace => -5
  | .unexpectedResponse => -6

structure AvrcpFrame where
  transactionLabel : UInt8
  packetType : UInt8
  commandResponse : UInt8
  invalidProfileId : UInt8
  profileId : UInt16
  ctypeOrResponse : UInt8
  subunitType : UInt8
  subunitId : UInt8
  opcode : UInt8
  operandsOffset : Nat
  operandsSize : Nat
deriving DecidableEq, Repr

structure AvrcpVendorFrame where
  frame : AvrcpFrame
  companyId : UInt32
  pduId : UInt8
  pduPacketType : UInt8
  parametersOffset : Nat
  parametersSize : Nat
deriving DecidableEq, Repr

structure AvrcpPassThrough where
  frame : AvrcpFrame
  operationId : UInt8
  released : UInt8
  operationDataOffset : Nat
  operationDataSize : Nat
deriving DecidableEq, Repr

def avrcpParseFrame (packet : List UInt8) : Except AvrcpError AvrcpFrame :=
  if packet.length < 6 then .error .truncated
  else
    let first := byteAt packet 0
    let frame : AvrcpFrame :=
      { transactionLabel := first >>> 4
        packetType := (first >>> 2) &&& 0x03
        commandResponse := (first >>> 1) &&& 0x01
        invalidProfileId := first &&& 0x01
        profileId := ((byteAt packet 1).toUInt16 <<< 8) ||| (byteAt packet 2).toUInt16
        ctypeOrResponse := byteAt packet 3 &&& 0x0F
        subunitType := byteAt packet 4 >>> 3
        subunitId := byteAt packet 4 &&& 0x07
        opcode := byteAt packet 5
        operandsOffset := 6
        operandsSize := packet.length - 6 }
    if frame.packetType ≠ avctpPacketSingle then .error .unsupportedFragment
    else if frame.invalidProfileId ≠ 0 ∨ frame.profileId ≠ avrcpProfileId ∨
        byteAt packet 3 &&& 0xF0 ≠ 0 then .error .protocolError
    else if frame.subunitType ≠ avrcpPanelSubunitType ∨ frame.subunitId ≠ avrcpPanelSubunitId then
      .error .protocolError
    else .ok frame

/-- The bytes after the declared end of a frame, which may only be padding. -/
def avrcpPadded (packet : List UInt8) (declaredEnd : Nat) : Bool :=
  (packet.drop declaredEnd).all (· = 0)

def avrcpParseVendorFrame (packet : List UInt8) : Except AvrcpError AvrcpVendorFrame :=
  match avrcpParseFrame packet with
  | .error e => .error e
  | .ok frame =>
    if frame.opcode ≠ avrcpOpcodeVendorDependent then .error .protocolError
    else if frame.operandsSize < 7 then .error .truncated
    else
      let vendor : AvrcpVendorFrame :=
        { frame := frame
          companyId := ((byteAt packet 6).toUInt32 <<< 16) |||
            ((byteAt packet 7).toUInt32 <<< 8) ||| (byteAt packet 8).toUInt32
          pduId := byteAt packet 9
          pduPacketType := byteAt packet 10 &&& 0x03
          parametersOffset := 13
          parametersSize := (byteAt packet 11).toNat * 256 + (byteAt packet 12).toNat }
      if vendor.companyId ≠ avrcpCompanyIdBluetoothSig ∨ byteAt packet 10 &&& 0xFC ≠ 0 ∨
          vendor.pduPacketType ≠ 0 then .error .protocolError
      else if vendor.parametersSize > packet.length - vendor.parametersOffset then
        .error .truncated
      else if ¬ avrcpPadded packet (vendor.parametersOffset + vendor.parametersSize) then
        .error .protocolError
      else .ok vendor

def AvrcpVendorFrame.parameters (vendor : AvrcpVendorFrame) (packet : List UInt8) : List UInt8 :=
  (packet.drop vendor.parametersOffset).take vendor.parametersSize

def avrcpParsePassThrough (packet : List UInt8) : Except AvrcpError AvrcpPassThrough :=
  match avrcpParseFrame packet with
  | .error e => .error e
  | .ok frame =>
    if frame.operandsSize < 2 then .error .truncated
    else if frame.opcode ≠ avrcpOpcodePassThrough then .error .protocolError
    else
      let parsed : AvrcpPassThrough :=
        { frame := frame
          operationId := byteAt packet 6 &&& avrcpPassThroughOperationMask
          released := if byteAt packet 6 &&& avrcpPassThroughReleasedMask ≠ 0 then 1 else 0
          operationDataOffset := 8
          operationDataSize := (byteAt packet 7).toNat }
      if parsed.operationDataSize > packet.length - parsed.operationDataOffset then
        .error .truncated
      else if ¬ avrcpPadded packet (parsed.operationDataOffset + parsed.operationDataSize) then
        .error .protocolError
      else .ok parsed

variable {packet : List UInt8} {parsed : AvrcpPassThrough}

theorem parseFrame_fields {frame : AvrcpFrame} (h : avrcpParseFrame packet = .ok frame) :
    6 ≤ packet.length ∧ frame.transactionLabel ≤ 0x0F ∧ frame.opcode = byteAt packet 5 := by
  simp only [avrcpParseFrame] at h
  split_ifs at h with hlength
  cases h
  refine ⟨by omega, ?_, rfl⟩
  show byteAt packet 0 >>> 4 ≤ 0x0F
  rw [UInt8.le_iff_toNat_le, UInt8.toNat_shiftRight]
  have := (byteAt packet 0).toNat_lt
  simp only [UInt8.reduceToNat, Nat.shiftRight_eq_div_pow, Nat.reduceMod, Nat.reducePow]
  omega

theorem parseVendorFrame_frame {vendor : AvrcpVendorFrame}
    (h : avrcpParseVendorFrame packet = .ok vendor) :
    avrcpParseFrame packet = .ok vendor.frame ∧
      vendor.frame.opcode = avrcpOpcodeVendorDependent := by
  rw [avrcpParseVendorFrame] at h
  rcases hframe : avrcpParseFrame packet with e | frame
  · rw [hframe] at h
    cases h
  · rw [hframe] at h
    dsimp only at h
    split_ifs at h with hopcode
    cases h
    exact ⟨rfl, not_not.mp hopcode⟩

theorem parsePassThrough_frame (h : avrcpParsePassThrough packet = .ok parsed) :
    avrcpParseFrame packet = .ok parsed.frame ∧ parsed.frame.opcode = avrcpOpcodePassThrough ∧
      parsed.operationId = byteAt packet 6 &&& avrcpPassThroughOperationMask := by
  rw [avrcpParsePassThrough] at h
  rcases hframe : avrcpParseFrame packet with e | frame
  · rw [hframe] at h
    cases h
  · rw [hframe] at h
    dsimp only at h
    generalize (if byteAt packet 6 &&& avrcpPassThroughReleasedMask ≠ 0 then (1 : UInt8)
      else 0) = released at h
    split_ifs at h with _ hopcode
    cases h
    exact ⟨rfl, not_not.mp hopcode, rfl⟩

/-! ## Writers -/

/-- `avrcp_write_vendor_frame`, for a buffer of `outSize` bytes -/
def avrcpWriteVendorFrame (outSize : Nat) (header0 ctype pduId : UInt8)
    (parameters : List UInt8) : List UInt8 :=
  if header0 &&& 0x0D ≠ 0 ∨ parameters.length > 0xFFFF ∨ outSize < 13 + parameters.length then []
  else
    [header0, 0x11, 0x0E, ctype, (avrcpPanelSubunitType <<< 3) ||| avrcpPanelSubunitId,
      avrcpOpcodeVendorDependent, 0x00, 0x19, 0x58, pduId, 0,
      UInt8.ofNat (parameters.length / 256), UInt8.ofNat parameters.length] ++ parameters

def avrcpWriteVendorCommand (outSize : Nat) (transactionLabel ctype pduId : UInt8)
    (parameters : List UInt8) : List UInt8 :=
  if transactionLabel > 0x0F then []
  else avrcpWriteVendorFrame outSize (transactionLabel <<< 4) ctype pduId parameters

def avrcpWriteVendorResponse (outSize : Nat) (transactionLabel response pduId : UInt8)
    (parameters : List UInt8) : List UInt8 :=
  if transactionLabel > 0x0F then []
  else avrcpWriteVendorFrame outSize ((transactionLabel <<< 4) ||| 0x02) response pduId parameters

def avrcpWriteGetCapabilitiesEvents (outSize : Nat) (transactionLabel : UInt8) : List UInt8 :=
  avrcpWriteVendorCommand outSize transactionLabel avrcpCtypeStatus avrcpPduGetCapabilities
    [avrcpCapabilityEventsSupported]

def avrcpWriteRegisterNotification (outSize : Nat) (transactionLabel eventId : UInt8)
    (playbackIntervalSeconds : UInt32) : List UInt8 :=
  avrcpWriteVendorCommand outSize transactionLabel avrcpCtypeNotify avrcpPduRegisterNotification
    [eventId, (playbackIntervalSeconds >>> 24).toUInt8, (playbackIntervalSeconds >>> 16).toUInt8,
      (playbackIntervalSeconds >>> 8).toUInt8, playbackIntervalSeconds.toUInt8]

/-- The command's first bytes, turned into its response. -/
def avrcpWritePassThroughResponse (outSize : Nat) (command : List UInt8) (responseCode : UInt8) :
    List UInt8 :=
  if responseCode ≠ avrcpResponseAccepted ∧ responseCode ≠ avrcpResponseRejected ∧
      responseCode ≠ avrcpResponseNotImplemented then []
  else
    match avrcpParsePassThrough command with
    | .error _ => []
    | .ok parsed =>
      if parsed.frame.commandResponse ≠ 0 ∨ outSize < min command.length 8 then []
      else ((command.take 8).set 0 (byteAt command 0 ||| 0x02)).set 3 responseCode

theorem writePassThroughResponse_eq
    (hparse : avrcpParsePassThrough packet = .ok parsed)
    (hcommand : parsed.frame.commandResponse = 0) {outSize : Nat}
    (hfits : min packet.length 8 ≤ outSize) {response : UInt8}
    (hresponse : response = avrcpResponseAccepted ∨ response = avrcpResponseRejected ∨
      response = avrcpResponseNotImplemented) :
    avrcpWritePassThroughResponse outSize packet response =
      ((packet.take 8).set 0 (byteAt packet 0 ||| 0x02)).set 3 response := by
  have hcode : ¬ (response ≠ avrcpResponseAccepted ∧ response ≠ avrcpResponseRejected ∧
      response ≠ avrcpResponseNotImplemented) := by
    rintro ⟨h₁, h₂, h₃⟩
    rcases hresponse with h | h | h
    · exact h₁ h
    · exact h₂ h
    · exact h₃ h
  have hrefused : ¬ (parsed.frame.commandResponse ≠ 0 ∨ outSize < min packet.length 8) := by
    rintro (h | h)
    · exact h hcommand
    · omega
  rw [avrcpWritePassThroughResponse, if_neg hcode, hparse]
  dsimp only
  rw [if_neg hrefused]

theorem passThroughResponse_eq (hparse : avrcpParsePassThrough packet = .ok parsed)
    (hcommand : parsed.frame.commandResponse = 0) {response : UInt8}
    (hresponse : response = avrcpResponseAccepted ∨ response = avrcpResponseNotImplemented) :
    avrcpWritePassThroughResponse avrcpMaxControlPacket packet response =
      ((packet.take 8).set 0 (byteAt packet 0 ||| 0x02)).set 3 response := by
  refine writePassThroughResponse_eq hparse hcommand ?_ ?_
  · simp only [avrcpMaxControlPacket]
    omega
  · rcases hresponse with h | h
    · exact .inl h
    · exact .inr (.inr h)

/-! ## The observer -/

inductive AvrcpObserverState where
  | idle | waitCapabilities | waitVolumeInterim | observing | unsupported | failed
deriving DecidableEq, Repr

inductive AvrcpObserverEventKind where
  | none | volumeCapability | volumeChanged | passThrough | vendorCommand | writeResponse
  | protocolError
deriving DecidableEq, Repr

/-- `avrcp_observer_event`; `parameterBytes` and `rawPrefix` hold the bytes up to
    `parameter_size` and `raw_prefix_size`. -/
structure AvrcpObserverEvent where
  kind : AvrcpObserverEventKind := .none
  volumeSupported : UInt8 := 0
  absoluteVolume : UInt8 := 0
  operationId : UInt8 := 0
  released : UInt8 := 0
  responseCode : UInt8 := 0
  pduId : UInt8 := 0
  parameterBytes : List UInt8 := []
  errorStage : UInt8 := 0
  errorCode : Int32 := 0
  rawPrefix : List UInt8 := []
  rawTotalSize : UInt16 := 0
deriving DecidableEq

structure AvrcpObserverResult where
  packet : List UInt8 := []
  event : AvrcpObserverEvent := {}
deriving DecidableEq

structure AvrcpObserver where
  state : AvrcpObserverState := .idle
  nextTransactionLabel : UInt8 := 0
  pendingTransactionLabel : UInt8 := 0
  pendingPduId : UInt8 := 0
  writeLabel : UInt8 := 0
  writePduId : UInt8 := 0
  writeActive : Bool := false
  volumeSupported : Bool := false
  lastAbsoluteVolume : UInt8 := 0
  lastAbsoluteVolumeValid : Bool := false
  playbackStatus : UInt8 := 0
  playbackStatusValid : Bool := false
  playbackNotificationLabel : UInt8 := 0
  playbackNotificationActive : Bool := false
  playbackNotificationPending : Bool := false
deriving DecidableEq, Repr

/-- The label after `label`. -/
def avrcpNextLabel (label : UInt8) : UInt8 := (label + 1) &&& 0x0F

def avrcpIsValidPlaybackStatus (status : UInt8) : Bool :=
  status = avrcpPlaybackStatusStopped ∨ status = avrcpPlaybackStatusPlaying ∨
    status = avrcpPlaybackStatusPaused

def avrcpCurrentPlaybackStatus (observer : AvrcpObserver) : UInt8 :=
  if observer.playbackStatusValid ∧ avrcpIsValidPlaybackStatus observer.playbackStatus then
    observer.playbackStatus
  else avrcpPlaybackStatusStopped

def avrcpObserverFailStage (observer : AvrcpObserver) (error : AvrcpError) (errorStage : UInt8)
    (packet : List UInt8) : AvrcpObserverResult × AvrcpObserver :=
  ({ event :=
      { kind := .protocolError
        errorStage := errorStage
        errorCode := error.code
        rawTotalSize := UInt16.ofNat (min packet.length 0xFFFF)
        rawPrefix := packet.take 64 } },
    { observer with state := .failed })

def avrcpObserverFail (observer : AvrcpObserver) (error : AvrcpError) :
    AvrcpObserverResult × AvrcpObserver :=
  avrcpObserverFailStage observer error 0 []

def avrcpObserverRegisterVolume (observer : AvrcpObserver) (event : AvrcpObserverEvent) :
    AvrcpObserverResult × AvrcpObserver :=
  let label := observer.nextTransactionLabel
  let observer := { observer with
    nextTransactionLabel := avrcpNextLabel label
    pendingTransactionLabel := label
    pendingPduId := avrcpPduRegisterNotification
    state := .waitVolumeInterim }
  let packet :=
    avrcpWriteRegisterNotification avrcpMaxControlPacket label avrcpEventVolumeChanged 0
  if packet = [] then avrcpObserverFail observer .noSpace
  else ({ packet := packet, event := event }, observer)

def avrcpObserverBegin (observer : AvrcpObserver) : AvrcpObserverResult × AvrcpObserver :=
  if observer.state ≠ .idle then avrcpObserverFail observer .unexpectedResponse
  else
    let label := observer.nextTransactionLabel
    let observer := { observer with
      nextTransactionLabel := avrcpNextLabel label
      pendingTransactionLabel := label
      pendingPduId := avrcpPduGetCapabilities
      state := .waitCapabilities }
    let packet := avrcpWriteGetCapabilitiesEvents avrcpMaxControlPacket label
    if packet = [] then avrcpObserverFail observer .noSpace
    else ({ packet := packet }, observer)

/-- The operations that are answered ACCEPTED. -/
def avrcpKnownOperation (operationId : UInt8) : Bool :=
  operationId = avrcpOperationVolumeUp ∨ operationId = avrcpOperationVolumeDown ∨
    operationId = avrcpOperationMute ∨ operationId = avrcpOperationPlay ∨
    operationId = avrcpOperationStop ∨ operationId = avrcpOperationPause ∨
    operationId = avrcpOperationForward ∨ operationId = avrcpOperationBackward

def avrcpObserverHandlePassThrough (observer : AvrcpObserver) (packet : List UInt8) :
    AvrcpObserverResult × AvrcpObserver :=
  match avrcpParsePassThrough packet with
  | .error _ => avrcpObserverFailStage observer .protocolError 5 packet
  | .ok parsed =>
    if parsed.frame.commandResponse ≠ 0 ∨ parsed.frame.ctypeOrResponse ≠ avrcpCtypeControl then
      avrcpObserverFailStage observer .protocolError 5 packet
    else
      let response := if avrcpKnownOperation parsed.operationId then avrcpResponseAccepted
        else avrcpResponseNotImplemented
      let answer := avrcpWritePassThroughResponse avrcpMaxControlPacket packet response
      if answer = [] then avrcpObserverFail observer .noSpace
      else
        ({ packet := answer
           event :=
            { kind := .passThrough
              operationId := parsed.operationId
              released := parsed.released } },
          observer)

def avrcpCapabilitiesIncludeVolume (parameters : List UInt8) : Bool :=
  if parameters.length < 2 ∨ byteAt parameters 0 ≠ avrcpCapabilityEventsSupported then false
  else if parameters.length ≠ (byteAt parameters 1).toNat + 2 then false
  else avrcpEventVolumeChanged ∈ parameters.drop 2

/-- The answer to a vendor command: a response code and its parameters. -/
def avrcpVendorAnswer (observer : AvrcpObserver) (label pduId : UInt8) (parameters : List UInt8) :
    (UInt8 × List UInt8) × AvrcpObserver :=
  if pduId = avrcpPduGetCapabilities ∧ parameters.length ≥ 1 ∧
      byteAt parameters 0 = avrcpCapabilityEventsSupported then
    ((avrcpResponseStable,
      [avrcpCapabilityEventsSupported, 3, avrcpEventPlaybackStatusChanged, avrcpEventTrackChanged,
        avrcpEventVolumeChanged]), observer)
  else if pduId = avrcpPduRegisterNotification ∧ parameters.length ≥ 1 then
    let eventId := byteAt parameters 0
    if eventId = avrcpEventPlaybackStatusChanged then
      let observer := { observer with
        playbackNotificationLabel := label
        playbackNotificationActive := true
        playbackNotificationPending := false }
      ((avrcpResponseInterim,
        [avrcpEventPlaybackStatusChanged, avrcpCurrentPlaybackStatus observer]), observer)
    else if eventId = avrcpEventTrackChanged then
      ((avrcpResponseInterim, avrcpEventTrackChanged :: List.replicate 8 0), observer)
    else if eventId = avrcpEventVolumeChanged then
      ((avrcpResponseInterim,
        [avrcpEventVolumeChanged,
          if observer.lastAbsoluteVolumeValid then observer.lastAbsoluteVolume else 0]), observer)
    else ((avrcpResponseNotImplemented, []), observer)
  else if pduId = avrcpPduGetPlayStatus then
    ((avrcpResponseStable, avrcpCurrentPlaybackStatus observer :: List.replicate 8 0), observer)
  else ((avrcpResponseNotImplemented, []), observer)

def avrcpObserverHandleVendorCommand (observer : AvrcpObserver) (packet : List UInt8)
    (vendor : AvrcpVendorFrame) : AvrcpObserverResult × AvrcpObserver :=
  let parameters := vendor.parameters packet
  let r := avrcpVendorAnswer observer vendor.frame.transactionLabel vendor.pduId parameters
  let answer := avrcpWriteVendorResponse avrcpMaxControlPacket vendor.frame.transactionLabel
    r.1.1 vendor.pduId r.1.2
  if answer = [] then avrcpObserverFail r.2 .noSpace
  else
    ({ packet := answer
       event :=
        { kind := .vendorCommand
          pduId := vendor.pduId
          parameterBytes := parameters.take 8 } },
      r.2)

def avrcpObserverSubmitPlaybackStatus (observer : AvrcpObserver) (playbackStatus : UInt8) :
    AvrcpObserverResult × AvrcpObserver :=
  if ¬ avrcpIsValidPlaybackStatus playbackStatus ∨ observer.state = .idle ∨
      observer.state = .failed then ({}, observer)
  else
    let observer := { observer with
      playbackStatus := playbackStatus
      playbackStatusValid := true }
    if ¬ observer.playbackNotificationActive then
      ({}, { observer with playbackNotificationPending := false })
    else
      let observer := { observer with playbackNotificationPending := true }
      if observer.writeActive then ({}, observer)
      else
        let packet := avrcpWriteVendorResponse avrcpMaxControlPacket
          observer.playbackNotificationLabel avrcpResponseChanged avrcpPduRegisterNotification
          [avrcpEventPlaybackStatusChanged, playbackStatus]
        if packet = [] then ({}, observer)
        else
          ({ packet := packet },
            { observer with
              playbackNotificationActive := false
              playbackNotificationPending := false })

def avrcpIsPlaybackReport (pduId responseCode : UInt8) (parameters : List UInt8) : Bool :=
  pduId = avrcpPduRegisterNotification ∧ responseCode = avrcpResponseChanged ∧
    parameters.length = 2 ∧ byteAt parameters 0 = avrcpEventPlaybackStatusChanged

def avrcpObserverSubmitWrite (observer : AvrcpObserver) (pduId responseCode : UInt8)
    (parameters : List UInt8) : AvrcpObserverResult × AvrcpObserver :=
  if pduId = 0 ∨ parameters.length > 8 then ({}, observer)
  else if avrcpIsPlaybackReport pduId responseCode parameters then
    avrcpObserverSubmitPlaybackStatus observer (byteAt parameters 1)
  else if observer.state = .idle ∨ observer.state = .failed ∨ observer.writeActive then
    ({}, observer)
  else
    let label := observer.nextTransactionLabel
    let observer := { observer with nextTransactionLabel := avrcpNextLabel label }
    let packet :=
      if responseCode = 0 then
        avrcpWriteVendorCommand avrcpMaxControlPacket label avrcpCtypeControl pduId parameters
      else avrcpWriteVendorResponse avrcpMaxControlPacket label responseCode pduId parameters
    if packet = [] then ({}, observer)
    else
      ({ packet := packet },
        { observer with writeLabel := label, writePduId := pduId, writeActive := true })

def avrcpAnswersWrite (observer : AvrcpObserver) (vendor : AvrcpVendorFrame) : Bool :=
  observer.writeActive ∧ vendor.frame.commandResponse ≠ 0 ∧
    vendor.frame.transactionLabel = observer.writeLabel ∧ vendor.pduId = observer.writePduId

def avrcpObserverHandleWriteResponse (observer : AvrcpObserver) (packet : List UInt8)
    (vendor : AvrcpVendorFrame) : AvrcpObserverResult × AvrcpObserver :=
  let observer := { observer with writeActive := false }
  let notification := avrcpObserverSubmitPlaybackStatus observer observer.playbackStatus
  ({ packet := notification.1.packet
     event :=
      { kind := .writeResponse
        responseCode := vendor.frame.ctypeOrResponse
        pduId := vendor.pduId
        parameterBytes := (vendor.parameters packet).take 8 } },
    notification.2)

def avrcpObserverHandleResponse (observer : AvrcpObserver) (packet : List UInt8)
    (vendor : AvrcpVendorFrame) : AvrcpObserverResult × AvrcpObserver :=
  let parameters := vendor.parameters packet
  let response := vendor.frame.ctypeOrResponse
  if observer.state = .waitCapabilities then
    if response ≠ avrcpResponseStable then
      avrcpObserverFailStage observer .unexpectedResponse 4 packet
    else
      let supported := avrcpCapabilitiesIncludeVolume parameters
      let observer := { observer with volumeSupported := supported }
      let event : AvrcpObserverEvent :=
        { kind := .volumeCapability, volumeSupported := if supported then 1 else 0 }
      if supported then avrcpObserverRegisterVolume observer event
      else ({ event := event }, { observer with state := .unsupported })
  else if (observer.state = .waitVolumeInterim ∨ observer.state = .observing) ∧
      parameters.length = 2 ∧ byteAt parameters 0 = avrcpEventVolumeChanged ∧
      byteAt parameters 1 ≤ 0x7F then
    let observer := { observer with
      lastAbsoluteVolume := byteAt parameters 1
      lastAbsoluteVolumeValid := true }
    let event : AvrcpObserverEvent :=
      { kind := .volumeChanged
        volumeSupported := 1
        absoluteVolume := byteAt parameters 1
        responseCode := response }
    if response = avrcpResponseInterim ∧ observer.state = .waitVolumeInterim then
      ({ event := event }, { observer with state := .observing })
    else if response = avrcpResponseChanged ∧ observer.state = .observing then
      avrcpObserverRegisterVolume observer event
    else avrcpObserverFailStage observer .unexpectedResponse 4 packet
  else avrcpObserverFailStage observer .unexpectedResponse 4 packet

/-- The branches for vendor frames. -/
def avrcpObserverHandleVendor (observer : AvrcpObserver) (packet : List UInt8)
    (vendor : AvrcpVendorFrame) : AvrcpObserverResult × AvrcpObserver :=
  if avrcpAnswersWrite observer vendor then
    avrcpObserverHandleWriteResponse observer packet vendor
  else if vendor.frame.commandResponse = 0 then
    avrcpObserverHandleVendorCommand observer packet vendor
  else if vendor.frame.transactionLabel ≠ observer.pendingTransactionLabel ∨
      vendor.pduId ≠ observer.pendingPduId then
    avrcpObserverFailStage observer .unexpectedResponse 3 packet
  else avrcpObserverHandleResponse observer packet vendor

def avrcpObserverHandlePacket (observer : AvrcpObserver) (packet : List UInt8) :
    AvrcpObserverResult × AvrcpObserver :=
  if observer.state = .idle ∨ observer.state = .failed then
    avrcpObserverFail observer .unexpectedResponse
  else
    match avrcpParseFrame packet with
    | .error e => avrcpObserverFailStage observer e 1 packet
    | .ok frame =>
      if frame.opcode = avrcpOpcodePassThrough ∧ frame.commandResponse = 0 then
        avrcpObserverHandlePassThrough observer packet
      else
        match avrcpParseVendorFrame packet with
        | .error e => avrcpObserverFailStage observer e 2 packet
        | .ok vendor => avrcpObserverHandleVendor observer packet vendor

theorem passThrough_response (operationId : UInt8) :
    ∃ response, response = (if avrcpKnownOperation operationId then avrcpResponseAccepted
        else avrcpResponseNotImplemented) ∧
      (response = avrcpResponseAccepted ∨ response = avrcpResponseNotImplemented) := by
  refine ⟨_, rfl, ?_⟩
  split
  · exact .inl rfl
  · exact .inr rfl

theorem or_response_bit (b : UInt8) : (b ||| 0x02) &&& 0x02 = 0x02 := by
  apply UInt8.toBitVec_inj.mp
  ext i hi
  simp only [UInt8.toBitVec_and, UInt8.toBitVec_or, BitVec.getElem_and, BitVec.getElem_or]
  cases (UInt8.toBitVec 0x02)[i] <;> simp

theorem passThroughResponse_bytes (hparse : avrcpParsePassThrough packet = .ok parsed)
    (hcommand : parsed.frame.commandResponse = 0) {response : UInt8}
    (hresponse : response = avrcpResponseAccepted ∨ response = avrcpResponseNotImplemented) :
    byteAt (avrcpWritePassThroughResponse avrcpMaxControlPacket packet response) 0 &&& 0x02 =
        0x02 ∧
      byteAt (avrcpWritePassThroughResponse avrcpMaxControlPacket packet response) 5 =
        avrcpOpcodePassThrough := by
  obtain ⟨hframe, hopcode, -⟩ := parsePassThrough_frame hparse
  have hlength := (parseFrame_fields hframe).1
  rw [(parseFrame_fields hframe).2.2] at hopcode
  rw [passThroughResponse_eq hparse hcommand hresponse]
  constructor
  · obtain ⟨b, rest, rfl⟩ : ∃ b rest, packet = b :: rest :=
      List.exists_cons_of_length_pos (by omega)
    simp [byteAt, or_response_bit]
  · simpa [byteAt, List.getElem?_set, List.getElem?_take] using hopcode

theorem handlePassThrough_cases (o : AvrcpObserver) (packet : List UInt8) :
    (∃ error stage raw,
        avrcpObserverHandlePassThrough o packet = avrcpObserverFailStage o error stage raw) ∨
      ∃ answer event, avrcpObserverHandlePassThrough o packet = ({ packet := answer, event }, o) ∧
        event.kind = .passThrough ∧ byteAt answer 0 &&& 0x02 = 0x02 ∧
        byteAt answer 5 = avrcpOpcodePassThrough := by
  unfold avrcpObserverHandlePassThrough
  rcases hparse : avrcpParsePassThrough packet with e | parsed
  · exact .inl ⟨_, _, _, rfl⟩
  dsimp only
  by_cases hcommand : parsed.frame.commandResponse ≠ 0 ∨
      parsed.frame.ctypeOrResponse ≠ avrcpCtypeControl
  · exact .inl ⟨_, _, _, if_pos hcommand⟩
  rw [if_neg hcommand]
  rw [not_or, not_not] at hcommand
  obtain ⟨response, hresponse, hknown⟩ := passThrough_response parsed.operationId
  rw [← hresponse]
  split_ifs
  · exact .inl ⟨_, _, _, rfl⟩
  · exact .inr ⟨_, _, rfl, rfl, passThroughResponse_bytes hparse hcommand.1 hknown⟩

theorem vendorAnswer_kept (o : AvrcpObserver) (label pduId : UInt8) (parameters : List UInt8) :
    (avrcpVendorAnswer o label pduId parameters).2.state = o.state ∧
      (avrcpVendorAnswer o label pduId parameters).2.writeActive = o.writeActive ∧
      (avrcpVendorAnswer o label pduId parameters).2.nextTransactionLabel =
        o.nextTransactionLabel := by
  simp only [avrcpVendorAnswer]
  split_ifs <;> exact ⟨rfl, rfl, rfl⟩

theorem handlePacket_passThrough {o : AvrcpObserver} (hidle : o.state ≠ .idle)
    (hfailed : o.state ≠ .failed) (hparse : avrcpParsePassThrough packet = .ok parsed)
    (hcommand : parsed.frame.commandResponse = 0)
    (hcontrol : parsed.frame.ctypeOrResponse = avrcpCtypeControl) :
    avrcpObserverHandlePacket o packet =
      ({ packet := ((packet.take 8).set 0 (byteAt packet 0 ||| 0x02)).set 3
          (if avrcpKnownOperation parsed.operationId then avrcpResponseAccepted
            else avrcpResponseNotImplemented)
         event :=
          { kind := .passThrough
            operationId := parsed.operationId
            released := parsed.released } },
        o) := by
  obtain ⟨hframe, hopcode, -⟩ := parsePassThrough_frame hparse
  have hlength := (parseFrame_fields hframe).1
  obtain ⟨response, hresponse, hknown⟩ := passThrough_response parsed.operationId
  have hwrite := passThroughResponse_eq hparse hcommand hknown
  have hne : avrcpWritePassThroughResponse avrcpMaxControlPacket packet response ≠ [] := by
    intro h
    have := congrArg List.length (hwrite.symm.trans h)
    simp only [List.length_set, List.length_take, List.length_nil] at this
    omega
  rw [avrcpObserverHandlePacket, if_neg (by simp [hidle, hfailed]), hframe]
  dsimp only
  rw [if_pos ⟨hopcode, hcommand⟩, avrcpObserverHandlePassThrough, hparse]
  dsimp only
  rw [if_neg (by simp [hcommand, hcontrol]), ← hresponse, if_neg hne, hwrite]

theorem handlePacket_vendor {o : AvrcpObserver} {vendor : AvrcpVendorFrame}
    (hidle : o.state ≠ .idle) (hfailed : o.state ≠ .failed)
    (hparse : avrcpParseVendorFrame packet = .ok vendor) :
    avrcpObserverHandlePacket o packet = avrcpObserverHandleVendor o packet vendor := by
  obtain ⟨hframe, hopcode⟩ := parseVendorFrame_frame hparse
  have hvendor : ¬ (vendor.frame.opcode = avrcpOpcodePassThrough ∧
      vendor.frame.commandResponse = 0) := by
    rintro ⟨h, -⟩
    rw [hopcode] at h
    exact absurd h (by decide)
  rw [avrcpObserverHandlePacket, if_neg (by simp [hidle, hfailed]), hframe]
  dsimp only
  rw [if_neg hvendor, hparse]

inductive AvrcpObserverInput where
  | begin_
  | packet (packet : List UInt8)
  | playbackStatus (status : UInt8)
  | write (pduId responseCode : UInt8) (parameters : List UInt8)
deriving DecidableEq, Repr

def avrcpObserver : Reducer AvrcpObserver AvrcpObserverInput AvrcpObserverResult where
  step observer
    | .begin_ => avrcpObserverBegin observer
    | .packet packet => avrcpObserverHandlePacket observer packet
    | .playbackStatus status => avrcpObserverSubmitPlaybackStatus observer status
    | .write pduId responseCode parameters =>
      avrcpObserverSubmitWrite observer pduId responseCode parameters

/-! ## Labels -/

theorem nextLabel_le (label : UInt8) : avrcpNextLabel label ≤ 0x0F := UInt8.and_le_right

theorem registerVolume_label (o : AvrcpObserver) (event : AvrcpObserverEvent) :
    (avrcpObserverRegisterVolume o event).2.nextTransactionLabel ≤ 0x0F := by
  simp only [avrcpObserverRegisterVolume]
  split_ifs <;> exact nextLabel_le _

section
variable {o : AvrcpObserver} (h : o.nextTransactionLabel ≤ 0x0F)
include h

theorem submitPlaybackStatus_label (status : UInt8) :
    (avrcpObserverSubmitPlaybackStatus o status).2.nextTransactionLabel ≤ 0x0F := by
  simp only [avrcpObserverSubmitPlaybackStatus]
  split_ifs <;> exact h

theorem handlePassThrough_label (packet : List UInt8) :
    (avrcpObserverHandlePassThrough o packet).2.nextTransactionLabel ≤ 0x0F := by
  rcases handlePassThrough_cases o packet with
    ⟨error, stage, raw, hfail⟩ | ⟨answer, event, hstep, -⟩
  · rw [hfail]
    exact h
  · rw [hstep]
    exact h

theorem handleVendorCommand_label (packet : List UInt8) (vendor : AvrcpVendorFrame) :
    (avrcpObserverHandleVendorCommand o packet vendor).2.nextTransactionLabel ≤ 0x0F := by
  have hanswer : (avrcpVendorAnswer o vendor.frame.transactionLabel vendor.pduId
      (vendor.parameters packet)).2.nextTransactionLabel ≤ 0x0F := by
    rw [(vendorAnswer_kept o _ _ _).2.2]
    exact h
  simp only [avrcpObserverHandleVendorCommand]
  split_ifs <;> exact hanswer

theorem handleResponse_label (packet : List UInt8) (vendor : AvrcpVendorFrame) :
    (avrcpObserverHandleResponse o packet vendor).2.nextTransactionLabel ≤ 0x0F := by
  simp only [avrcpObserverHandleResponse]
  split_ifs
  · exact h
  · exact registerVolume_label _ _
  · exact h
  · exact h
  · exact registerVolume_label _ _
  · exact h
  · exact h

theorem handlePacket_label (packet : List UInt8) :
    (avrcpObserverHandlePacket o packet).2.nextTransactionLabel ≤ 0x0F := by
  unfold avrcpObserverHandlePacket
  split_ifs
  · exact h
  rcases avrcpParseFrame packet with e | frame
  · exact h
  dsimp only
  split_ifs
  · exact handlePassThrough_label h packet
  rcases avrcpParseVendorFrame packet with e | vendor
  · exact h
  dsimp only [avrcpObserverHandleVendor]
  split_ifs
  · exact submitPlaybackStatus_label (o := { o with writeActive := false }) h _
  · exact handleVendorCommand_label h packet vendor
  · exact h
  · exact handleResponse_label h packet vendor

theorem label_step (input : AvrcpObserverInput) :
    (avrcpObserver.next o input).nextTransactionLabel ≤ 0x0F := by
  cases input with
  | begin_ =>
    show (avrcpObserverBegin o).2.nextTransactionLabel ≤ 0x0F
    simp only [avrcpObserverBegin]
    split_ifs
    · exact h
    · exact nextLabel_le _
    · exact nextLabel_le _
  | packet packet => exact handlePacket_label h packet
  | playbackStatus status => exact submitPlaybackStatus_label h status
  | write pduId responseCode parameters =>
    show (avrcpObserverSubmitWrite o pduId responseCode parameters).2.nextTransactionLabel ≤ 0x0F
    unfold avrcpObserverSubmitWrite
    split_ifs
    · exact h
    · exact submitPlaybackStatus_label h _
    · exact h
    · dsimp only
      split_ifs <;> exact nextLabel_le _
    · dsimp only
      split_ifs <;> exact nextLabel_le _

end

theorem label_after (inputs : List AvrcpObserverInput) :
    (avrcpObserver.after {} inputs).nextTransactionLabel ≤ 0x0F :=
  Reducer.after_inv (P := fun o : AvrcpObserver => o.nextTransactionLabel ≤ 0x0F) (Q := fun _ _ => True)
    (fun _ input h _ => label_step h input) (by decide)
    (Reducer.along_of_forall (fun _ _ => trivial) _ inputs)

end NativeLdac.Protocol
