/-
  The signaling of the PCM session: the answers to peer commands, one exchange
  of an own command, and the peer commands polled while streaming.

  A builder returns the answer to a peer command, or the empty list where the
  source returns `false`.
-/
import NativeLdac.Agent.PcmSession

namespace NativeLdac.Agent

open Engine Protocol

/-! ## Answers to peer commands -/

def buildPeerDiscoverAccept (state : AvdtpSource) (command : AvdtpHeader) (packet : List UInt8) :
    List UInt8 :=
  if command.packetType ≠ .single ∨ command.messageType ≠ .command ∨
      command.signalId ≠ avdtpSignalDiscover ∨ command.payloadOffset ≠ packet.length ∨
      state.state ≠ .discoverSent ∨ state.pendingSignalId ≠ avdtpSignalDiscover ∨
      state.localSeid = 0 ∨ state.localSeid > 0x3F then []
  else avdtpWriteSingle avdtpMaxSignalingPacket command.transactionLabel .accept
    avdtpSignalDiscover [state.localSeid <<< 2 ||| 0x02, 0x00]

def buildPeerCapabilitiesAccept (state : AvdtpSource) (command : AvdtpHeader)
    (packet : List UInt8) : List UInt8 :=
  if command.packetType ≠ .single ∨ command.messageType ≠ .command ∨
      (command.signalId ≠ avdtpSignalGetCapabilities ∧
        command.signalId ≠ avdtpSignalGetAllCapabilities) ∨
      command.payloadOffset + 1 ≠ packet.length ∨
      byteAt packet command.payloadOffset >>> 2 ≠ state.localSeid ∨
      state.state ≠ .capabilitiesSent ∨ state.localSeid = 0 ∨ state.localSeid > 0x3F ∨
      state.localCapabilities.sampleRates = 0 ∨ state.localCapabilities.channelModes = 0 then []
  else avdtpWriteSingle avdtpMaxSignalingPacket command.transactionLabel .accept command.signalId
    ([avdtpServiceMediaTransport, 0x00, avdtpServiceMediaCodec, 0x0A, avdtpMediaTypeAudio <<< 4,
      avdtpCodecVendor] ++
      ldacBuildCodecInfo state.localCapabilities.sampleRates state.localCapabilities.channelModes)

def ldacConfigurationPayloadSize : Nat := 16

def buildPeerSetConfigurationReject (state : AvdtpSource) (command : AvdtpHeader)
    (packet : List UInt8) : List UInt8 :=
  if command.packetType ≠ .single ∨ command.messageType ≠ .command ∨
      command.signalId ≠ avdtpSignalSetConfiguration ∨
      command.payloadOffset + ldacConfigurationPayloadSize ≠ packet.length ∨
      state.state ≠ .capabilitiesSent ∨
      (state.pendingSignalId ≠ avdtpSignalGetCapabilities ∧
        state.pendingSignalId ≠ avdtpSignalGetAllCapabilities) ∨
      state.localSeid = 0 ∨ state.localSeid > 0x3F then []
  else
    let payload := packet.drop command.payloadOffset
    let initiatorSeid := byteAt payload 1 >>> 2
    if byteAt payload 0 &&& 0x03 ≠ 0 ∨ byteAt payload 0 >>> 2 ≠ state.localSeid ∨
        byteAt payload 1 &&& 0x03 ≠ 0 ∨ initiatorSeid = 0 ∨
        byteAt payload 2 ≠ avdtpServiceMediaTransport ∨ byteAt payload 3 ≠ 0 then []
    else
      let found := ldacFindInServiceCapabilities
        ((payload.drop 2).take (ldacConfigurationPayloadSize - 2))
        { sampleRates := 0, channelModes := 0 }
      let requested := found.2
      if found.1 ≠ .ok ∨ requested.sampleRates &&& (requested.sampleRates - 1) ≠ 0 ∨
          requested.channelModes &&& (requested.channelModes - 1) ≠ 0 ∨
          requested.sampleRates &&& state.localCapabilities.sampleRates ≠ requested.sampleRates ∨
          requested.channelModes &&& state.localCapabilities.channelModes ≠
            requested.channelModes then []
      else avdtpWriteSingle avdtpMaxSignalingPacket command.transactionLabel .reject
        avdtpSignalSetConfiguration [0x00, avdtpErrorSepInUse]

def buildPeerCloseAccept (state : AvdtpSource) (command : AvdtpHeader) (packet : List UInt8) :
    List UInt8 :=
  if command.packetType ≠ .single ∨ command.messageType ≠ .command ∨
      command.signalId ≠ avdtpSignalClose ∨ command.payloadOffset + 1 ≠ packet.length ∨
      (state.state ≠ .streaming ∧ state.state ≠ .open_) ∨
      state.localSeid = 0 ∨ state.localSeid > 0x3F ∨
      byteAt packet command.payloadOffset &&& 0x03 ≠ 0 ∨
      byteAt packet command.payloadOffset >>> 2 ≠ state.localSeid then []
  else avdtpWriteSingle avdtpMaxSignalingPacket command.transactionLabel .accept
    avdtpSignalClose []

/-- The header of a packet that carries a command. -/
def peerCommand? (packet : List UInt8) : Option AvdtpHeader :=
  match avdtpParseHeader packet with
  | some header => if header.messageType = .command then some header else none
  | none => none

section
variable {F H Ω : Type} [FloatArith F]

/-- The answer to a command received while waiting for a reply, and the report
    that counts it. -/
def answerPeerCommand (state : AvdtpSource) (command : AvdtpHeader) (packet : List UInt8)
    (r : V1TransportPcmResult F) : List UInt8 × V1TransportPcmResult F :=
  if r.peerSignalingCommandsReceived ≤ maximumPeerSignalingCommands ∧
      command.signalId = avdtpSignalDiscover ∧ r.peerDiscoverCommandsAccepted = 0 then
    let response := buildPeerDiscoverAccept state command packet
    if response = [] then ([], r)
    else (response, { r with peerDiscoverCommandsAccepted := r.peerDiscoverCommandsAccepted + 1 })
  else if r.peerSignalingCommandsReceived ≤ maximumPeerSignalingCommands ∧
      r.peerDiscoverCommandsAccepted = 1 ∧ r.peerCapabilityCommandsAccepted = 0 then
    let response := buildPeerCapabilitiesAccept state command packet
    if response = [] then ([], r)
    else (response, { r with
      peerCapabilityCommandsAccepted := r.peerCapabilityCommandsAccepted + 1 })
  else if r.peerSignalingCommandsReceived ≤ maximumPeerSignalingCommands ∧
      r.peerDiscoverCommandsAccepted = 1 ∧ r.peerCapabilityCommandsAccepted = 1 ∧
      r.peerConfigurationCommandsRejected = 0 then
    let response := buildPeerSetConfigurationReject state command packet
    if response = [] then ([], r)
    else (response, { r with
      peerConfigurationCommandsRejected := r.peerConfigurationCommandsRejected + 1 })
  else ([], r)

variable (env : PcmEnvironment F H Ω) (options : V1TransportPcmOptions F)

/-! ## One exchange -/

/-- The locals of the loop of `Exchange`. -/
structure ExchangeRound where
  outbound : List UInt8
  firstTransfer : Bool
  error : UInt32

/-- Only `Cancel` stops an exchange, if `cancelOnly`. -/
def stops (cancelOnly : Bool) (stop : V1TransportPcmStopDisposition) : Bool :=
  if cancelOnly then stop = .cancel else stop ≠ .none

/-- One transfer: the packet that ends the wait, or the answer to a peer
    command as the next packet to send. -/
def exchangeRound (stage : V1TransportSilenceStage) (cancelOnly : Bool) (deadline : Nat)
    (round : ExchangeRound) :
    Prog (PcmSession F H Ω) (ExchangeRound ⊕ Option (List UInt8)) := do
  let currentStop ← probeStop env
  if stops cancelOnly currentStop then
    setFailure .cancelled stage
    return .inr none
  let now ← ask env.host.now
  if deadline ≤ now then
    backendFailure timeoutError stage
    return .inr none
  let remaining := (deadline - now) / 1000000
  let timeoutMs := if round.firstTransfer then options.exchangeTimeoutMs
    else (max 1 remaining).toUInt32
  report fun r => { r with signalingExchanges := r.signalingExchanges + 1 }
  let answer ← askLogged (env.backend.exchangeSignaling round.outbound timeoutMs round.error)
    fun source answer => .exchange source round.outbound
      (if answer.ok then some answer.response else none)
  if answer.ok = false then
    report fun r => { r with backendError := answer.error }
    let cancelled ← stopIsCancel env
    setFailure (if cancelled then .cancelled else .backendFailure) stage
    return .inr none
  match peerCommand? answer.response with
  | none => return .inr (some answer.response)
  | some command =>
    report fun r => { r with peerSignalingCommandsReceived := r.peerSignalingCommandsReceived + 1 }
    let peerResponse ← Prog.step fun s =>
      let answered := answerPeerCommand s.avdtp command answer.response s.result
      (answered.1, { s with result := answered.2 })
    if peerResponse = [] then
      protocolFailure avdtpSourceErrorUnexpectedResponse stage
      return .inr none
    return .inl { outbound := peerResponse, firstTransfer := false, error := answer.error }

/-- Send an own command and handle the reply; none where the source returns
    `false`. -/
def exchange (fuel : Nat) (action : AvdtpAction) (stage : V1TransportSilenceStage)
    (cancelOnly : Bool) : Prog (PcmSession F H Ω) (Option AvdtpAction) := do
  let stop ← probeStop env
  if action.kind ≠ .sendSignaling ∨ stops cancelOnly stop then
    setFailure (if stop ≠ .none then .cancelled else .protocolFailure) stage
    return none
  report fun r => { r with stage := stage }
  let start ← ask env.host.now
  let deadline := start + options.exchangeTimeoutMs.toNat * 1000000
  match ← Prog.iterate (exchangeRound env options stage cancelOnly deadline) fuel
      { outbound := action.packet, firstTransfer := true, error := 0 } with
  | none => return none
  | some response =>
    let next ← Prog.step fun s =>
      let handled := s.avdtp.handleSignaling response
      (handled.1, { s with avdtp := handled.2 })
    if next.kind = .error then
      protocolFailure next.errorCode stage
      return none
    return some next

/-! ## Peer commands while streaming -/

inductive PeerStreamControlDisposition where
  | continue_ | peerClosed | failure
deriving DecidableEq, Repr

/-- The answer to a polled packet. -/
def answerPeerClose (state : AvdtpSource) (packet : List UInt8) (r : V1TransportPcmResult F) :
    List UInt8 :=
  match avdtpParseHeader packet with
  | none => []
  | some header =>
    if r.peerSignalingCommandsReceived > maximumPeerSignalingCommands + 1 ∨
        r.peerCloseCommandsAccepted ≠ 0 then []
    else buildPeerCloseAccept state header packet

def handlePeerPacket (packet : List UInt8) (error : UInt32) :
    Prog (PcmSession F H Ω) PeerStreamControlDisposition := do
  Prog.onlyIf ((peerCommand? packet).isSome = true) <|
    report fun r => { r with peerSignalingCommandsReceived := r.peerSignalingCommandsReceived + 1 }
  let response ← Prog.read fun s => answerPeerClose s.avdtp packet s.result
  if response = [] then
    protocolFailure avdtpSourceErrorUnexpectedResponse .writePcm
    return .failure
  if avdtpParseHeader response = none then
    protocolFailure avdtpSourceErrorBadPacket .writePcm
    return .failure
  let answer ← askLogged
    (env.backend.sendPeerSignalingResponse response options.exchangeTimeoutMs error)
    fun source answer => .peerResponse source response answer.ok
  if answer.ok = false then
    backendFailure answer.error .writePcm
    return .failure
  report fun r => { r with
    peerCloseCommandsAccepted := r.peerCloseCommandsAccepted + 1
    endedByPeerClose := true
    remoteStreamCleanupRequired := false }
  setFailure .cancelled .writePcm
  return .peerClosed

def observePeerStreamControl : Prog (PcmSession F H Ω) PeerStreamControlDisposition := do
  if options.observePeerCloseWhileStreaming = false then
    return .continue_
  let polled ← Prog.step fun s =>
    let polled := env.backend.pollPeerSignalingRead 0 s.world
    (polled.1, { s with
      world := polled.2
      calls := if polled.1.disposition = .packet then
        .peerPacket s.avdtp polled.1.packet :: s.calls else s.calls })
  match polled.disposition with
  | .noPacket => return .continue_
  | .timedOut =>
    report fun r => { r with peerSignalingReadTimeouts := r.peerSignalingReadTimeouts + 1 }
    let begun ← ask (env.backend.beginPeerSignalingRead maximumTimeoutMs polled.error)
    if begun.ok then
      return .continue_
    backendFailure begun.error .writePcm
    return .failure
  | .failure =>
    backendFailure polled.error .writePcm
    return .failure
  | .packet => handlePeerPacket env options polled.packet polled.error

/-- `BeginPeerSignalingRead`, where peer commands are observed. -/
def beginPeerSignalingRead (stage : V1TransportSilenceStage) : Prog (PcmSession F H Ω) Bool := do
  if options.observePeerCloseWhileStreaming = false then
    return true
  let ok ← askError (env.backend.beginPeerSignalingRead maximumTimeoutMs)
  if ok = false then
    let error ← Prog.read (·.error)
    backendFailure error stage
    return false
  return true

/-- `CancelPeerSignalingRead`, where peer commands are observed. -/
def cancelPeerSignalingRead (stage : V1TransportSilenceStage) : Prog (PcmSession F H Ω) Bool := do
  if options.observePeerCloseWhileStreaming = false then
    return true
  let ok ← askError env.backend.cancelPeerSignalingRead
  if ok = false then
    let error ← Prog.read (·.error)
    backendFailure error stage
    return false
  return true

end

end NativeLdac.Agent
