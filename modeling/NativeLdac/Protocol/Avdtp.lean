/-
  The AVDTP signaling of the source side (`protocol/src/avdtp.c`): packet
  headers, single packets, and the state machine that discovers a sink,
  configures it, and opens, starts, suspends and closes the stream.

  A packet is a list of bytes; `avdtpWriteSingle` returns the empty list where
  the source returns the size 0.  Every operation of the machine returns its
  action and the new state.
-/
import NativeLdac.Protocol.LdacCodec

namespace NativeLdac.Protocol

/-! ## Packets -/

def avdtpSignalDiscover : UInt8 := 0x01
def avdtpSignalGetCapabilities : UInt8 := 0x02
def avdtpSignalSetConfiguration : UInt8 := 0x03
def avdtpSignalOpen : UInt8 := 0x06
def avdtpSignalStart : UInt8 := 0x07
def avdtpSignalClose : UInt8 := 0x08
def avdtpSignalSuspend : UInt8 := 0x09
def avdtpSignalGetAllCapabilities : UInt8 := 0x0C

def avdtpMaxSignalingPacket : Nat := 64
def avdtpMaxRemoteSeids : Nat := 63

inductive AvdtpPacketType where
  | single | start | continue_ | end_
deriving DecidableEq, Repr

inductive AvdtpMessageType where
  | command | generalReject | accept | reject
deriving DecidableEq, Repr

def AvdtpPacketType.ofBits (b : UInt8) : AvdtpPacketType :=
  if b = 0 then .single else if b = 1 then .start else if b = 2 then .continue_ else .end_

def AvdtpMessageType.ofBits (b : UInt8) : AvdtpMessageType :=
  if b = 0 then .command else if b = 1 then .generalReject else if b = 2 then .accept else .reject

def AvdtpPacketType.toBits : AvdtpPacketType → UInt8
  | .single => 0
  | .start => 1
  | .continue_ => 2
  | .end_ => 3

def AvdtpMessageType.toBits : AvdtpMessageType → UInt8
  | .command => 0
  | .generalReject => 1
  | .accept => 2
  | .reject => 3

structure AvdtpHeader where
  transactionLabel : UInt8
  packetType : AvdtpPacketType
  messageType : AvdtpMessageType
  packetCount : UInt8
  signalId : UInt8
  payloadOffset : Nat
deriving DecidableEq, Repr

/-- The header of a packet, or none where the source returns a status other
    than `AVDTP_OK` (an empty or truncated packet). -/
def avdtpParseHeader (packet : List UInt8) : Option AvdtpHeader :=
  if packet.length < 1 then none
  else
    let first := byteAt packet 0
    let header : AvdtpHeader :=
      { transactionLabel := first >>> 4
        packetType := .ofBits ((first >>> 2) &&& 0x03)
        messageType := .ofBits (first &&& 0x03)
        packetCount := 0
        signalId := 0
        payloadOffset := 0 }
    match header.packetType with
    | .single =>
      if packet.length < 2 then none
      else some { header with signalId := byteAt packet 1 &&& 0x3F, payloadOffset := 2 }
    | .start =>
      if packet.length < 3 then none
      else some { header with
        packetCount := byteAt packet 1
        signalId := byteAt packet 2 &&& 0x3F
        payloadOffset := 3 }
    | .continue_ | .end_ => some { header with payloadOffset := 1 }

/-- A single packet for a buffer of `outSize` bytes. -/
def avdtpWriteSingle (outSize : Nat) (transactionLabel : UInt8) (messageType : AvdtpMessageType)
    (signalId : UInt8) (payload : List UInt8) : List UInt8 :=
  if transactionLabel > 0x0F ∨ signalId = 0 ∨ signalId > 0x3F then []
  else if outSize < 2 + payload.length then []
  else
    (transactionLabel <<< 4 ||| AvdtpPacketType.single.toBits <<< 2 |||
      (messageType.toBits &&& 0x03)) :: signalId :: payload

/-! ## The source -/

inductive AvdtpSourceState where
  | idle | discoverSent | capabilitiesSent | configurationSent | openSent
  | waitingForMediaChannel | open_ | startSent | streaming | suspendSent | closeSent | closed
  | failed
deriving DecidableEq, Repr

inductive AvdtpActionKind where
  | none | sendSignaling | openMediaChannel | sessionOpen | streamReady | streamSuspended
  | sessionClosed | error
deriving DecidableEq, Repr

structure AvdtpAction where
  kind : AvdtpActionKind
  packet : List UInt8
  errorCode : Int
deriving DecidableEq, Repr

def avdtpSourceErrorBadPacket : Int := 0x100
def avdtpSourceErrorUnexpectedResponse : Int := 0x101
def avdtpSourceErrorNoAudioSink : Int := 0x102
def avdtpSourceErrorLdacNotSupported : Int := 0x103
def avdtpSourceErrorNoCommonConfiguration : Int := 0x104
def avdtpSourceErrorMediaChannelState : Int := 0x105

/-- `remoteSeids` holds the used entries of the table. -/
structure AvdtpSource where
  state : AvdtpSourceState
  localCapabilities : LdacCapabilities
  remoteCapabilities : LdacCapabilities
  configuration : LdacConfiguration
  preferredSampleRateHz : UInt32
  localSeid : UInt8
  remoteSeid : UInt8
  remoteSeids : List UInt8
  remoteSeidCount : UInt8
  remoteSeidIndex : UInt8
  nextTransactionLabel : UInt8
  pendingTransactionLabel : UInt8
  pendingSignalId : UInt8
  usedLegacyCapabilities : Bool
deriving DecidableEq, Repr

def makeAction (kind : AvdtpActionKind) : AvdtpAction :=
  { kind := kind, packet := [], errorCode := 0 }

namespace AvdtpSource

variable (source : AvdtpSource)

def fail (errorCode : Int) : AvdtpAction × AvdtpSource :=
  ({ makeAction .error with errorCode := errorCode }, { source with state := .failed })

def sendCommand (signalId : UInt8) (payload : List UInt8) : AvdtpAction × AvdtpSource :=
  let label := source.nextTransactionLabel
  let source := { source with
    nextTransactionLabel := (label + 1) &&& 0x0F
    pendingTransactionLabel := label
    pendingSignalId := signalId }
  let packet := avdtpWriteSingle avdtpMaxSignalingPacket label .command signalId payload
  if packet = [] then source.fail avdtpSourceErrorBadPacket
  else ({ makeAction .sendSignaling with packet := packet }, source)

/-- The free audio sinks among the endpoints of a DISCOVER answer. -/
def collectFrom : List UInt8 → List UInt8
  | first :: second :: rest =>
    let candidate := first >>> 2
    let inUse := (first >>> 1) &&& 0x01
    let mediaType := second >>> 4
    let tsep := (second >>> 3) &&& 0x01
    if candidate ≠ 0 ∧ inUse = 0 ∧ mediaType = avdtpMediaTypeAudio ∧ tsep = 1 then
      candidate :: collectFrom rest
    else collectFrom rest
  | _ => []

def collectAudioSinks (payload : List UInt8) : List UInt8 :=
  if payload.length % 2 ≠ 0 then [] else (collectFrom payload).take avdtpMaxRemoteSeids

def queryCurrentSink : AvdtpAction × AvdtpSource :=
  { source with state := .capabilitiesSent, usedLegacyCapabilities := false }.sendCommand
    avdtpSignalGetAllCapabilities [source.remoteSeid <<< 2]

def queryNextSink : AvdtpAction × AvdtpSource :=
  if source.remoteSeidIndex.toNat + 1 ≥ source.remoteSeidCount.toNat then
    source.fail avdtpSourceErrorLdacNotSupported
  else
    let index := source.remoteSeidIndex + 1
    { source with
      remoteSeidIndex := index
      remoteSeid := byteAt source.remoteSeids index.toNat }.queryCurrentSink

def init (localCapabilities : LdacCapabilities) (localSeid : UInt8)
    (preferredSampleRateHz : UInt32) : AvdtpSource :=
  { state := .idle
    localCapabilities :=
      { sampleRates := localCapabilities.sampleRates &&& ldacSfAll
        channelModes := localCapabilities.channelModes &&& ldacCmAll }
    remoteCapabilities := { sampleRates := 0, channelModes := 0 }
    configuration := { sampleRate := 0, channelMode := 0 }
    preferredSampleRateHz := preferredSampleRateHz
    localSeid := localSeid
    remoteSeid := 0
    remoteSeids := []
    remoteSeidCount := 0
    remoteSeidIndex := 0
    nextTransactionLabel := 0
    pendingTransactionLabel := 0
    pendingSignalId := 0
    usedLegacyCapabilities := false }

def begin_ : AvdtpAction × AvdtpSource :=
  if source.state ≠ .idle ∨ source.localSeid = 0 ∨ source.localSeid > 0x3F ∨
      source.localCapabilities.sampleRates = 0 ∨ source.localCapabilities.channelModes = 0 then
    source.fail avdtpSourceErrorUnexpectedResponse
  else { source with state := .discoverSent }.sendCommand avdtpSignalDiscover []

def handleReject (messageType : AvdtpMessageType) (payload : List UInt8) :
    AvdtpAction × AvdtpSource :=
  if source.state = .capabilitiesSent ∧ source.pendingSignalId = avdtpSignalGetAllCapabilities ∧
      source.usedLegacyCapabilities = false then
    { source with usedLegacyCapabilities := true }.sendCommand
      avdtpSignalGetCapabilities [source.remoteSeid <<< 2]
  else if source.state = .capabilitiesSent then source.queryNextSink
  else if messageType = .reject ∧ payload ≠ [] then
    source.fail (byteAt payload (payload.length - 1)).toNat
  else source.fail avdtpSourceErrorUnexpectedResponse

/-- The accepted answer to a capability query. -/
def handleCapabilities (payload : List UInt8) : AvdtpAction × AvdtpSource :=
  let found := ldacFindInServiceCapabilities payload source.remoteCapabilities
  let source := { source with remoteCapabilities := found.2 }
  if found.1 = .notFound then source.queryNextSink
  else if found.1 ≠ .ok then source.fail avdtpSourceErrorBadPacket
  else
    let chosen := ldacChooseConfiguration source.localCapabilities source.remoteCapabilities
      source.preferredSampleRateHz
    let source := { source with configuration := chosen.2 }
    if chosen.1 ≠ .ok then source.fail avdtpSourceErrorNoCommonConfiguration
    else
      let configurationPayload := ldacBuildSetConfigurationPayload source.remoteSeid
        source.localSeid source.configuration
      if configurationPayload = [] then source.fail avdtpSourceErrorBadPacket
      else { source with state := .configurationSent }.sendCommand
        avdtpSignalSetConfiguration configurationPayload

/-- The accepted answer to the pending command. -/
def handleAccept (payload : List UInt8) : AvdtpAction × AvdtpSource :=
  match source.state with
  | .discoverSent =>
    let sinks := collectAudioSinks payload
    if sinks = [] then source.fail avdtpSourceErrorNoAudioSink
    else
      { source with
        remoteSeids := sinks
        remoteSeidCount := sinks.length.toUInt8
        remoteSeidIndex := 0
        remoteSeid := byteAt sinks 0 }.queryCurrentSink
  | .capabilitiesSent => source.handleCapabilities payload
  | .configurationSent =>
    { source with state := .openSent }.sendCommand avdtpSignalOpen [source.remoteSeid <<< 2]
  | .openSent => (makeAction .openMediaChannel, { source with state := .waitingForMediaChannel })
  | .startSent => (makeAction .streamReady, { source with state := .streaming })
  | .suspendSent => (makeAction .streamSuspended, { source with state := .open_ })
  | .closeSent => (makeAction .sessionClosed, { source with state := .closed })
  | .waitingForMediaChannel | .open_ | .idle | .streaming | .closed | .failed =>
    source.fail avdtpSourceErrorUnexpectedResponse

def handleSignaling (packet : List UInt8) : AvdtpAction × AvdtpSource :=
  if source.state = .failed ∨ source.state = .idle ∨ source.state = .streaming then
    source.fail avdtpSourceErrorUnexpectedResponse
  else match avdtpParseHeader packet with
    | none => source.fail avdtpSourceErrorBadPacket
    | some header =>
      if header.packetType ≠ .single ∨ header.payloadOffset > packet.length then
        source.fail avdtpSourceErrorBadPacket
      else if header.transactionLabel ≠ source.pendingTransactionLabel ∨
          header.signalId ≠ source.pendingSignalId ∨ header.messageType = .command then
        source.fail avdtpSourceErrorUnexpectedResponse
      else
        let payload := packet.drop header.payloadOffset
        if header.messageType = .reject ∨ header.messageType = .generalReject then
          source.handleReject header.messageType payload
        else source.handleAccept payload

def mediaChannelOpened : AvdtpAction × AvdtpSource :=
  if source.state ≠ .waitingForMediaChannel then source.fail avdtpSourceErrorMediaChannelState
  else (makeAction .sessionOpen, { source with state := .open_ })

def start : AvdtpAction × AvdtpSource :=
  if source.state ≠ .open_ then source.fail avdtpSourceErrorUnexpectedResponse
  else { source with state := .startSent }.sendCommand avdtpSignalStart [source.remoteSeid <<< 2]

def suspend : AvdtpAction × AvdtpSource :=
  if source.state ≠ .streaming then source.fail avdtpSourceErrorUnexpectedResponse
  else { source with state := .suspendSent }.sendCommand avdtpSignalSuspend
    [source.remoteSeid <<< 2]

def close : AvdtpAction × AvdtpSource :=
  if source.state ≠ .open_ then source.fail avdtpSourceErrorUnexpectedResponse
  else { source with state := .closeSent }.sendCommand avdtpSignalClose [source.remoteSeid <<< 2]

end AvdtpSource

end NativeLdac.Protocol
