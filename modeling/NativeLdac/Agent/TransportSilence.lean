/-
  The silence session of the agent
  (`agent/v1_transport_silence_session.cpp`): it configures, opens and starts a
  stream, writes packets of silence, and suspends and closes the stream again.

  The diagnostics of a failed open are only reported, and are left out.
-/
import NativeLdac.Agent.TransportConfiguration

namespace NativeLdac.Agent

open Engine Protocol

structure V1TransportSilenceOptions where
  openTimeoutMs : UInt32 := 10000
  exchangeTimeoutMs : UInt32 := 5000
  mediaTimeoutMs : UInt32 := 5000
  preferredMediaMtu : UInt16 := 1000
  packetLimit : UInt32 := 4
  preferredSampleRateHz : UInt32 := 96000
deriving DecidableEq, Repr

structure V1TransportSilenceResult where
  disposition : V1TransportConfigurationDisposition := .invalidConfiguration
  primaryDisposition : V1TransportConfigurationDisposition := .invalidConfiguration
  stage : V1TransportSilenceStage := .none
  backendError : UInt32 := 0
  cleanupError : UInt32 := 0
  protocolError : Int := 0
  remoteSeid : UInt8 := 0
  configuration : LdacConfiguration := ⟨0, 0⟩
  openAttempts : UInt32 := 0
  signalingExchanges : UInt32 := 0
  incomingMtu : UInt16 := 0
  outgoingMtu : UInt16 := 0
  mediaPacketsWritten : UInt32 := 0
  mediaBytesWritten : UInt32 := 0
  signalingOpened : Bool := false
  setConfigurationAccepted : Bool := false
  avdtpOpenAccepted : Bool := false
  mediaOpened : Bool := false
  avdtpStartAccepted : Bool := false
  avdtpSuspendAccepted : Bool := false
  avdtpCloseAccepted : Bool := false
  remoteStreamCleanupRequired : Bool := false
  closeAttempted : Bool := false
  closeSucceeded : Bool := false
deriving DecidableEq, Repr

abbrev SilenceSession (Ω : Type) := HandshakeSession V1TransportSilenceResult Ω

namespace Handshake.Silence

def optionsAreValid (options : V1TransportSilenceOptions) : Prop :=
  options.openTimeoutMs ≠ 0 ∧ options.openTimeoutMs ≤ maximumTimeoutMs ∧
    options.exchangeTimeoutMs ≠ 0 ∧ options.exchangeTimeoutMs ≤ maximumTimeoutMs ∧
    options.mediaTimeoutMs ≠ 0 ∧ options.mediaTimeoutMs ≤ maximumTimeoutMs ∧
    options.preferredMediaMtu ≠ 0 ∧ options.packetLimit ≠ 0 ∧ options.packetLimit ≤ 4

instance (options : V1TransportSilenceOptions) : Decidable (optionsAreValid options) :=
  inferInstanceAs (Decidable (_ ∧ _))

def packetCapacity : Nat := 4096
def silenceSsrc : UInt32 := 0x56315A30

def stageForSignal (signal : UInt8) : V1TransportSilenceStage :=
  if signal = avdtpSignalStart then .start
  else if signal = avdtpSignalSuspend then .suspend
  else if signal = avdtpSignalClose then .close
  else .negotiate

def encoderChannelMode (channelMode : UInt8) : LdacEncoderChannelMode :=
  if channelMode = ldacCmStereo then .stereo
  else if channelMode = ldacCmDual then .dual
  else .mono

section
variable {F H Ω : Type} [FloatArith F] (backend : PcmBackend Ω) (library : LdacBt F H Ω)
  (options : V1TransportSilenceOptions) (probe : V1TransportCancelProbe Ω)

def setFailure (disposition : V1TransportConfigurationDisposition)
    (stage : V1TransportSilenceStage) : Prog (SilenceSession Ω) Unit :=
  report fun r => { r with
    primaryDisposition := disposition
    disposition := disposition
    stage := stage }

/-- `SetFailure` at the stage reached. -/
def setFailureHere (disposition : V1TransportConfigurationDisposition) :
    Prog (SilenceSession Ω) Unit :=
  report fun r => { r with primaryDisposition := disposition, disposition := disposition }

def setProtocolError (protocolError : Int) : Prog (SilenceSession Ω) Unit :=
  report fun r => { r with protocolError := protocolError }

def finish : Prog (SilenceSession Ω) Unit := do
  let opened ← Prog.read (·.result.signalingOpened)
  if opened = false then
    return
  report fun r => { r with closeAttempted := true }
  let answer ← askLogged (backend.closeSignaling 0) fun answer => .closeSignaling answer.ok
  report fun r => { r with closeSucceeded := answer.ok, cleanupError := answer.error }
  if answer.ok = false then
    report fun r => { r with disposition := .cleanupFailure, stage := .closeChannels }

/-- The action sends no command, or the session is cancelled. -/
def cannotSend (action : AvdtpAction) : Prog (SilenceSession Ω) Bool :=
  if action.kind ≠ .sendSignaling then pure true else isCancelled probe

/-- Exchange the command of the action and handle the reply; none where the
    source returns `false`. -/
def exchange (action : AvdtpAction) (stage : V1TransportSilenceStage) :
    Prog (SilenceSession Ω) (Option AvdtpAction) := do
  let stopped ← cannotSend probe action
  if stopped then
    let cancelled ← isCancelled probe
    setFailure (if cancelled then .cancelled else .protocolFailure) stage
    return none
  report fun r => { r with stage := stage, signalingExchanges := r.signalingExchanges + 1 }
  let answer ← askLogged
    (backend.exchangeSignaling action.packet options.exchangeTimeoutMs 0)
    fun answer => .exchange action.packet answer.reply?
  if answer.ok = false then
    report fun r => { r with backendError := answer.error }
    let cancelled ← isCancelled probe
    setFailure (failedCall cancelled) stage
    return none
  let next ← operate (·.handleSignaling answer.response)
  if next.kind = .error then
    setProtocolError next.errorCode
    setFailure .protocolFailure stage
    return none
  return some next

/-! ## Packets of silence -/

def destroyEncoder (encoder : LdacEncoder H) : Prog (SilenceSession Ω) Unit :=
  ask fun world => ((), encoder.destroy library world)

/-- The end of the loop of `SendZeroPackets`. -/
def endPackets (encoder : LdacEncoder H) : Prog (SilenceSession Ω) Bool := do
  destroyEncoder library encoder
  let r ← Prog.read (·.result)
  Prog.onlyIf (r.mediaPacketsWritten ≠ options.packetLimit ∧ r.protocolError = 0) <|
    setProtocolError LdacEncoderStatus.invalidOutput.code
  return r.mediaPacketsWritten = options.packetLimit

def countPacket (packet : List UInt8) (r : V1TransportSilenceResult) : V1TransportSilenceResult :=
  { r with
    mediaPacketsWritten := r.mediaPacketsWritten + 1
    mediaBytesWritten := r.mediaBytesWritten + packet.length.toUInt32 }

/-- `ldac_encoder_encode_f32` on a block of zeros. -/
def encodeSilence (encoder : LdacEncoder H) :
    Prog (SilenceSession Ω) (LdacEncoder.Encoded × LdacEncoder H) :=
  ask fun world =>
    let encoded := encoder.encodeF32 library
      (List.replicate (ldacEncoderPcmFramesPerCall * 2) (0.0 : F)) world
    ((encoded.1, encoded.2.1), encoded.2.2)

/-- The loop of `SendZeroPackets`, with the calls of the encoder left. -/
def writePackets (samplesPerFrame : UInt32) :
    Nat → LdacEncoder H → UInt16 → UInt32 → Prog (SilenceSession Ω) Bool
  | 0, encoder, _, _ => endPackets library options encoder
  | calls + 1, encoder, sequence, timestamp => do
    let r ← Prog.read (·.result)
    if options.packetLimit ≤ r.mediaPacketsWritten then
      endPackets library options encoder
    else
      let cancelled ← isCancelled probe
      if cancelled then
        destroyEncoder library encoder
        return false
      let (encoded, encoder) ← encodeSilence library encoder
      if encoded.status ≠ .ok then
        setProtocolError LdacEncoderStatus.encodingFailed.code
        destroyEncoder library encoder
        return false
      if encoded.bytes.length = 0 then
        writePackets samplesPerFrame calls encoder sequence timestamp
      else
        let built := ldacRtpBuildUnfragmented packetCapacity r.outgoingMtu.toNat sequence
          timestamp silenceSsrc encoded.transportFrameCount encoded.bytes
        if built.1 ≠ .ok then
          setProtocolError avdtpSourceErrorBadPacket
          destroyEncoder library encoder
          return false
        let answer ← askLogged (backend.writeMedia built.2 options.mediaTimeoutMs 0)
          fun answer => .writeMedia built.2 answer.ok
        if answer.ok = false then
          report fun r => { r with backendError := answer.error }
          destroyEncoder library encoder
          return false
        report (countPacket built.2)
        writePackets samplesPerFrame calls encoder (sequence + 1)
          (timestamp + encoded.transportFrameCount.toUInt32 * samplesPerFrame)

def sendZeroPackets : Prog (SilenceSession Ω) Bool := do
  let r ← Prog.read (·.result)
  if r.outgoingMtu.toNat ≤ ldacRtpOverhead then
    setProtocolError avdtpSourceErrorBadPacket
    return false
  let created ← ask (LdacEncoder.createWithChannelMode library
    (r.outgoingMtu.toNat - ldacRtpOverhead) .hq (ldacSampleRateToHz r.configuration.sampleRate)
    (encoderChannelMode r.configuration.channelMode))
  match created with
  | (.ok, some encoder) =>
    writePackets backend library options probe encoder.samplesPerTransportFrame 32 encoder 0 0
  | _ =>
    setProtocolError LdacEncoderStatus.initializationFailed.code
    return false

/-! ## The session -/

def negotiate (action : AvdtpAction) : Prog (SilenceSession Ω) (Option AvdtpAction) :=
  match avdtpParseHeader action.packet with
  | none => do
    setFailure .protocolFailure .negotiate
    return none
  | some header => do
    match ← exchange backend options probe action (stageForSignal header.signalId) with
    | none => return none
    | some next =>
      Prog.onlyIf (header.signalId = avdtpSignalSetConfiguration) <|
        report fun r => { r with setConfigurationAccepted := true }
      Prog.onlyIf (header.signalId = avdtpSignalOpen) <|
        report fun r => { r with avdtpOpenAccepted := true }
      return some next

/-- An exchange of a stream command, whose reply must lead to the action given. -/
def exchangeFor (action : AvdtpAction) (stage : V1TransportSilenceStage) (kind : AvdtpActionKind)
    (sent accepted : V1TransportSilenceResult → V1TransportSilenceResult) :
    Prog (SilenceSession Ω) Bool := do
  match ← exchange backend options probe action stage with
  | none => return false
  | some next =>
    report sent
    if next.kind ≠ kind then
      setProtocolError avdtpSourceErrorUnexpectedResponse
      setFailure .protocolFailure stage
      return false
    report accepted
    return true

def exchangeStart : Prog (SilenceSession Ω) Bool := do
  let action ← operate AvdtpSource.start
  exchangeFor backend options probe action .start .streamReady
    (fun r => { r with remoteStreamCleanupRequired := true })
    (fun r => { r with avdtpStartAccepted := true, stage := .writeSilence })

def exchangeSuspend : Prog (SilenceSession Ω) Bool := do
  let action ← operate AvdtpSource.suspend
  exchangeFor backend options probe action .suspend .streamSuspended id
    (fun r => { r with avdtpSuspendAccepted := true, remoteStreamCleanupRequired := false })

def exchangeClose : Prog (SilenceSession Ω) Bool := do
  let action ← operate AvdtpSource.close
  exchangeFor backend options probe action .close .sessionClosed id
    (fun r => { r with
      avdtpCloseAccepted := true
      primaryDisposition := .succeeded
      disposition := .succeeded })

/-- The stream: START, the packets, SUSPEND and CLOSE. -/
def stream : Prog (SilenceSession Ω) Unit := do
  let started ← exchangeStart backend options probe
  if started = false then
    return
  let written ← sendZeroPackets backend library options probe
  if written = false then
    let cancelled ← isCancelled probe
    let error ← Prog.read (·.result.backendError)
    setFailureHere (if cancelled then .cancelled
      else if error ≠ 0 then .backendFailure else .protocolFailure)
    return
  let suspended ← exchangeSuspend backend options probe
  if suspended = false then
    return
  let _ ← exchangeClose backend options probe

/-- The session after the negotiation, from the error code that it finds. -/
def openAndStream (error : UInt32) : Prog (SilenceSession Ω) Unit := do
  .update fun s => { s with result := { s.result with
    remoteSeid := s.avdtp.remoteSeid
    configuration := s.avdtp.configuration
    stage := .openMedia } }
  let media ← askLogged
    (backend.openMedia options.mediaTimeoutMs options.preferredMediaMtu error)
    fun answer => .openMedia answer.ok
  report fun r => { r with incomingMtu := media.incomingMtu, outgoingMtu := media.outgoingMtu }
  if media.ok = false then
    report fun r => { r with backendError := media.error }
    setFailureHere .backendFailure
    return
  report fun r => { r with mediaOpened := true }
  if media.incomingMtu = 0 ∨ media.outgoingMtu.toNat ≤ ldacRtpOverhead ∨
      media.outgoingMtu.toNat - ldacRtpOverhead < ldacEncoderMinPayloadMtu then
    setProtocolError avdtpSourceErrorBadPacket
    setFailureHere .protocolFailure
    return
  let opened ← operate AvdtpSource.mediaChannelOpened
  if opened.kind ≠ .sessionOpen then
    setFailureHere .protocolFailure
    return
  stream backend library options probe

/-- The session on the open channel, up to `Finish`. -/
def burst (error : UInt32) : Prog (SilenceSession Ω) Unit := do
  let begun ← operate fun _ => (AvdtpSource.init ⟨ldacSfAll, ldacCmStereo⟩ 1
    options.preferredSampleRateHz).begin_
  match ← whileSending (negotiate backend options probe) begun with
  | none => return
  | some action =>
    if action.kind ≠ .openMediaChannel then
      setFailure .protocolFailure .negotiate
    else
      openAndStream backend library options probe error

def runV1TransportSilenceBurstOnce : Prog (SilenceSession Ω) Unit := do
  if ¬ optionsAreValid options then
    return
  let cancelled ← isCancelled probe
  if cancelled then
    setFailure .cancelled .openSignaling
    return
  report fun r => { r with stage := .openSignaling, openAttempts := 1 }
  let opened ← askLogged (backend.openSignaling options.openTimeoutMs 0)
    fun answer => .openSignaling answer.ok
  if opened.ok = false then
    report fun r => { r with backendError := opened.error }
    setFailure .backendFailure .openSignaling
    return
  report fun r => { r with signalingOpened := true }
  burst backend library options probe opened.error
  finish backend

end

/-- A session before its run. -/
def start {Ω : Type} (world : Ω) : SilenceSession Ω :=
  { world := world, calls := [], result := {}, avdtp := .init ⟨0, 0⟩ 0 0 }

/-! ## Runs -/

/-- The steps after the media channel, for a number of packets. -/
def silenceSteps (packets : Nat) : List HandshakeStep :=
  [.accepted avdtpSignalStart] ++ List.replicate packets .mediaPacket ++
    [.accepted avdtpSignalSuspend] ++ [.accepted avdtpSignalClose]

/-- The session goes on, on an open channel, with the packets written so far. -/
structure Going (written : UInt32) (calls : List HandshakeCall) (r : V1TransportSilenceResult) :
    Prop where
  channel : SignalingOpen calls
  opened : r.signalingOpened = true
  unsuccessful : r.primaryDisposition ≠ .succeeded ∧ r.disposition ≠ .succeeded
  written : r.mediaPacketsWritten = written

/-- The body of the session is over: success means that the peer accepted all
    of it. -/
structure Over (packetLimit : UInt32) (calls : List HandshakeCall)
    (r : V1TransportSilenceResult) : Prop where
  channel : SignalingOpen calls
  opened : r.signalingOpened = true
  disposition : r.disposition = .succeeded → r.primaryDisposition = .succeeded
  accepted : r.primaryDisposition = .succeeded →
    AcceptedInOrder calls (silenceSteps packetLimit.toNat)

section
variable {written : UInt32} {calls : List HandshakeCall} {r r' : V1TransportSilenceResult}

theorem Going.over {packetLimit : UInt32} (h : Going written calls r) :
    Over packetLimit calls r where
  channel := h.channel
  opened := h.opened
  disposition := fun hs => absurd hs h.unsuccessful.2
  accepted := fun hs => absurd hs h.unsuccessful.1

theorem Going.call (h : Going written calls r) {call : HandshakeCall} (ho : call.opens = false)
    (hc : call.closes = false) : Going written (call :: calls) r :=
  { h with channel := h.channel.call ho hc }

theorem Going.report (h : Going written calls r) (hr : r'.signalingOpened = r.signalingOpened)
    (hw : r'.mediaPacketsWritten = r.mediaPacketsWritten)
    (hp : r'.primaryDisposition ≠ .succeeded ∧ r'.disposition ≠ .succeeded) :
    Going written calls r' where
  channel := h.channel
  opened := hr.trans h.opened
  unsuccessful := hp
  written := hw.trans h.written

theorem Going.failed (h : Going written calls r) (hr : r'.signalingOpened = r.signalingOpened)
    (hw : r'.mediaPacketsWritten = r.mediaPacketsWritten)
    (hp : r'.primaryDisposition ≠ .succeeded) (hd : r'.disposition = r'.primaryDisposition) :
    Going written calls r' :=
  h.report hr hw ⟨hp, hd ▸ hp⟩

end

section
variable {F H Ω : Type} [FloatArith F] {backend : PcmBackend Ω} {library : LdacBt F H Ω}
  {options : V1TransportSilenceOptions} {probe : V1TransportCancelProbe Ω} {written : UInt32}
  {s : SilenceSession Ω}

theorem spec_exchange (action : AvdtpAction) (stage : V1TransportSilenceStage)
    (h : Going written s.calls s.result) :
    Prog.wp (exchange backend options probe action stage) (fun r s' =>
      Going written s'.calls s'.result ∧
        ∀ next, r = some next → Exchanged action s.view next s'.view) (fun _ => False) s := by
  unfold exchange cannotSend
  rw [Prog.wp_bind, Prog.wp_ite]
  by_cases hsends : action.kind = .sendSignaling
  · rw [if_neg (not_not.mpr hsends)]
    simp only [Prog.wp_bind, Prog.wp_ite, Prog.wp_pure, wp_report, isCancelled, wp_ask,
      wp_askLogged, wp_operate, setFailure, setProtocolError]
    split_ifs with hcancelled hprobe hfailed herror
    · exact ⟨h.failed rfl rfl (by rintro ⟨⟩) rfl, by rintro _ ⟨⟩⟩
    · exact ⟨h.failed rfl rfl (by rintro ⟨⟩) rfl, by rintro _ ⟨⟩⟩
    · exact ⟨.failed (h.call rfl rfl) rfl rfl (failedCall_ne _) rfl, by rintro _ ⟨⟩⟩
    · exact ⟨.failed (h.call rfl rfl) rfl rfl (by rintro ⟨⟩) rfl, by rintro _ ⟨⟩⟩
    · rw [Bool.not_eq_false] at hfailed
      refine ⟨.report (h.call rfl rfl) rfl rfl h.unsuccessful, fun next hnext => ?_⟩
      cases hnext
      exact
        { sends := hsends
          reply := ⟨_, congrArg (fun reply => HandshakeCall.exchange _ reply :: _)
            (if_pos hfailed), rfl⟩
          next := herror }
  · rw [if_pos hsends]
    simp only [Prog.wp_bind, Prog.wp_pure, wp_report, isCancelled, wp_ask, setFailure, if_true]
    split_ifs
    · exact ⟨h.failed rfl rfl (by rintro ⟨⟩) rfl, by rintro _ ⟨⟩⟩
    · exact ⟨h.failed rfl rfl (by rintro ⟨⟩) rfl, by rintro _ ⟨⟩⟩

/-! ### Packets -/

/-- What `SendZeroPackets` does: more packets on the channel, up to the limit if it
    succeeds. -/
structure Sent (packetLimit : UInt32) (s : SilenceSession Ω) (ok : Bool) (s' : SilenceSession Ω) :
    Prop where
  going : ∃ written, Going written s'.calls s'.result
  avdtp : s'.avdtp = s.avdtp
  packets : ok = true → acceptedSteps s'.calls = acceptedSteps s.calls ++
    List.replicate (packetLimit.toNat - s.result.mediaPacketsWritten.toNat) .mediaPacket

theorem Sent.failed {packetLimit : UInt32} {s' : SilenceSession Ω}
    (h : Going written s'.calls s'.result) (ha : s'.avdtp = s.avdtp) :
    Sent packetLimit s false s' where
  going := ⟨written, h⟩
  avdtp := ha
  packets := nofun

omit [FloatArith F] in
theorem spec_endPackets (encoder : LdacEncoder H) (h : Going written s.calls s.result) :
    Prog.wp (endPackets library options encoder) (Sent options.packetLimit s) (fun _ => False)
      s := by
  have packets : decide (s.result.mediaPacketsWritten = options.packetLimit) = true →
      acceptedSteps s.calls = acceptedSteps s.calls ++ List.replicate
        (options.packetLimit.toNat - s.result.mediaPacketsWritten.toNat) .mediaPacket := by
    intro hall
    rw [of_decide_eq_true hall, Nat.sub_self, List.replicate_zero, List.append_nil]
  unfold endPackets destroyEncoder
  simp only [Prog.wp_bind, Prog.wp_read, Prog.wp_onlyIf, Prog.wp_pure, wp_ask, setProtocolError,
    wp_report]
  split_ifs
  · exact ⟨⟨written, h.report rfl rfl h.unsuccessful⟩, rfl, packets⟩
  · exact ⟨⟨written, h⟩, rfl, packets⟩

theorem Sent.packet {packetLimit : UInt32} {s₁ s' : SilenceSession Ω} {ok : Bool}
    (h : Sent packetLimit s₁ ok s')
    (hcalls : ∃ packet, s₁.calls = .writeMedia packet true :: s.calls) (ha : s₁.avdtp = s.avdtp)
    (hwritten : s₁.result.mediaPacketsWritten = s.result.mediaPacketsWritten + 1)
    (hlt : s.result.mediaPacketsWritten < packetLimit) : Sent packetLimit s ok s' where
  going := h.going
  avdtp := h.avdtp.trans ha
  packets := by
    intro hok
    obtain ⟨packet, hcalls⟩ := hcalls
    have hnat : (s.result.mediaPacketsWritten + 1).toNat =
        s.result.mediaPacketsWritten.toNat + 1 := by
      have := UInt32.lt_iff_toNat_lt.mp hlt
      have := packetLimit.toNat_lt
      rw [UInt32.toNat_add, show (1 : UInt32).toNat = 1 from rfl]
      omega
    have hsucc : packetLimit.toNat - s.result.mediaPacketsWritten.toNat =
        (packetLimit.toNat - (s.result.mediaPacketsWritten.toNat + 1)) + 1 := by
      have := UInt32.lt_iff_toNat_lt.mp hlt
      omega
    rw [h.packets hok, hcalls, hwritten, hnat, acceptedSteps_cons, hsucc, List.replicate_succ,
      List.append_assoc]
    rfl

theorem spec_writePackets (samplesPerFrame : UInt32) (calls : Nat) (encoder : LdacEncoder H)
    (sequence : UInt16) (timestamp : UInt32) (h : Going written s.calls s.result) :
    Prog.wp (writePackets backend library options probe samplesPerFrame calls encoder sequence
      timestamp) (Sent options.packetLimit s) (fun _ => False) s := by
  induction calls generalizing s written encoder sequence timestamp with
  | zero => exact spec_endPackets encoder h
  | succ calls ih =>
    unfold writePackets
    simp only [Prog.wp_bind, Prog.wp_read, Prog.wp_ite, Prog.wp_pure, wp_report, isCancelled,
      wp_ask, wp_askLogged, setProtocolError, destroyEncoder, encodeSilence]
    split_ifs with hlimit hcancelled hencoded hempty hbuilt hfailed
    · exact spec_endPackets encoder h
    · exact Sent.failed h rfl
    · exact Sent.failed (h.report rfl rfl h.unsuccessful) rfl
    · refine Prog.wp_mono (ih _ _ _ (s := { s with world := _ }) h) (fun ok s' hs => ?_) fun _ => id
      exact ⟨hs.going, hs.avdtp, hs.packets⟩
    · exact Sent.failed (h.report rfl rfl h.unsuccessful) rfl
    · exact Sent.failed (.report (h.call rfl rfl) rfl rfl h.unsuccessful) rfl
    · rw [Bool.not_eq_false] at hfailed
      rw [UInt32.not_le] at hlimit
      refine Prog.wp_mono (ih _ _ _ (?_ : Going (written + 1) _ _)) (fun ok s' hs => ?_)
        fun _ => id
      · exact
          { channel := h.channel.call rfl rfl
            opened := h.opened
            unsuccessful := h.unsuccessful
            written := congrArg (· + 1) h.written }
      · refine hs.packet ?_ rfl rfl hlimit
        exact ⟨_, congrArg (fun ok => HandshakeCall.writeMedia _ ok :: _) hfailed⟩

theorem spec_sendZeroPackets (h : Going written s.calls s.result) :
    Prog.wp (sendZeroPackets backend library options probe) (Sent options.packetLimit s)
      (fun _ => False) s := by
  unfold sendZeroPackets
  simp only [Prog.wp_bind, Prog.wp_read, Prog.wp_ite, Prog.wp_pure, wp_ask, wp_report,
    setProtocolError]
  split_ifs
  · exact Sent.failed (h.report rfl rfl h.unsuccessful) rfl
  · split
    · rename_i encoder _
      refine Prog.wp_mono (spec_writePackets _ _ encoder _ _ (s := { s with world := _ }) h)
        (fun ok s' hs => ?_) fun _ => id
      exact ⟨hs.going, hs.avdtp, hs.packets⟩
    · exact Sent.failed (h.report rfl rfl h.unsuccessful) rfl

/-! ### The session -/

theorem spec_negotiate (action : AvdtpAction) (h : Going written s.calls s.result) :
    Prog.wp (negotiate backend options probe action) (fun r s' =>
      Going written s'.calls s'.result ∧
        ∀ next, r = some next → Exchanged action s.view next s'.view) (fun _ => False) s := by
  unfold negotiate
  cases avdtpParseHeader action.packet with
  | none => exact ⟨h.failed rfl rfl nofun rfl, nofun⟩
  | some header =>
    dsimp only
    rw [Prog.wp_bind]
    refine Prog.wp_mono (spec_exchange action _ h) (fun r s' hr => ?_) fun _ => id
    obtain ⟨hgoing, hexchanged⟩ := hr
    cases r with
    | none => exact ⟨hgoing, nofun⟩
    | some next =>
      have hnext := hexchanged next rfl
      simp only [Prog.wp_bind, Prog.wp_onlyIf, Prog.wp_pure, wp_report]
      split_ifs
      · exact ⟨hgoing.report rfl rfl hgoing.unsuccessful, fun _ heq => Option.some.inj heq ▸ hnext⟩
      · exact ⟨hgoing.report rfl rfl hgoing.unsuccessful, fun _ heq => Option.some.inj heq ▸ hnext⟩
      · exact ⟨hgoing.report rfl rfl hgoing.unsuccessful, fun _ heq => Option.some.inj heq ▸ hnext⟩
      · exact ⟨hgoing, fun _ heq => Option.some.inj heq ▸ hnext⟩

theorem spec_exchangeFor {signal : UInt8} {kind : AvdtpActionKind} {state' : AvdtpSourceState}
    {action : AvdtpAction} (stage : V1TransportSilenceStage)
    {sent accepted : V1TransportSilenceResult → V1TransportSilenceResult}
    (hi : AvdtpSource.Issued signal kind state' (action, s.avdtp))
    (hs : ∀ calls r, Going written calls r → Going written calls (sent r))
    (h : Going written s.calls s.result) :
    Prog.wp (exchangeFor backend options probe action stage kind sent accepted) (fun ok s' =>
      (ok = false → Going written s'.calls s'.result) ∧
        (ok = true → (∃ r, Going written s'.calls r ∧ s'.result = accepted r) ∧
          acceptedSteps s'.calls = acceptedSteps s.calls ++ [.accepted signal]))
      (fun _ => False) s := by
  unfold exchangeFor
  rw [Prog.wp_bind]
  refine Prog.wp_mono (spec_exchange action stage h) (fun r s' hr => ?_) fun _ => id
  obtain ⟨hgoing, hexchanged⟩ := hr
  cases r with
  | none => exact ⟨fun _ => hgoing, nofun⟩
  | some next =>
    have hsent := hs _ _ hgoing
    obtain ⟨hkind, hsteps⟩ := (hexchanged next rfl).stream hi
    simp only [Prog.wp_bind, Prog.wp_ite, Prog.wp_pure, wp_report]
    rw [if_neg (not_not.mpr hkind)]
    exact ⟨nofun, fun _ => ⟨⟨_, hsent, rfl⟩, hsteps⟩⟩

theorem spec_stream (h : Going 0 s.calls s.result) (ha : AcceptedInOrder s.calls []) :
    Prog.wp (stream backend library options probe)
      (fun _ s' => Over options.packetLimit s'.calls s'.result) (fun _ => False) s := by
  unfold stream exchangeStart exchangeSuspend exchangeClose
  rw [Prog.wp_bind, Prog.wp_bind, wp_operate]
  refine Prog.wp_mono (spec_exchangeFor .start (AvdtpSource.start_issued _)
    (fun _ _ h => h.report rfl rfl h.unsuccessful) h) (fun started s₁ h₁ => ?_) fun _ => id
  cases started with
  | false => exact (h₁.1 rfl).over
  | true =>
  obtain ⟨⟨r₁, hgoing₁, hr₁⟩, hsteps₁⟩ := h₁.2 rfl
  have hgoing₁ : Going 0 s₁.calls s₁.result := by
    rw [hr₁]
    exact hgoing₁.report rfl rfl hgoing₁.unsuccessful
  rw [Prog.wp_ite, if_neg nofun, Prog.wp_bind]
  refine Prog.wp_mono (spec_sendZeroPackets hgoing₁) (fun ok s₂ h₂ => ?_) fun _ => id
  obtain ⟨written, hgoing₂⟩ := h₂.going
  cases ok with
  | false =>
    simp only [Prog.wp_bind, Prog.wp_read, Prog.wp_pure, isCancelled, wp_ask, setFailureHere,
      wp_report, if_true]
    refine Going.over (hgoing₂.failed rfl rfl ?_ rfl)
    split_ifs <;> rintro ⟨⟩
  | true =>
  have hsteps₂ := h₂.packets rfl
  rw [hgoing₁.written] at hsteps₂
  rw [Prog.wp_ite, if_neg nofun, Prog.wp_bind, Prog.wp_bind, wp_operate]
  refine Prog.wp_mono (spec_exchangeFor .suspend (AvdtpSource.suspend_issued _)
    (fun _ _ h => h) hgoing₂) (fun suspended s₃ h₃ => ?_) fun _ => id
  cases suspended with
  | false => exact (h₃.1 rfl).over
  | true =>
  obtain ⟨⟨r₃, hgoing₃, hr₃⟩, hsteps₃⟩ := h₃.2 rfl
  have hgoing₃ : Going written s₃.calls s₃.result := by
    rw [hr₃]
    exact hgoing₃.report rfl rfl hgoing₃.unsuccessful
  rw [Prog.wp_ite, if_neg nofun, Prog.wp_bind, Prog.wp_bind, wp_operate]
  refine Prog.wp_mono (spec_exchangeFor .close (AvdtpSource.close_issued _)
    (fun _ _ h => h) hgoing₃) (fun closed s₄ h₄ => ?_) fun _ => id
  cases closed with
  | false => exact (h₄.1 rfl).over
  | true =>
  obtain ⟨⟨r₄, hgoing₄, hr₄⟩, hsteps₄⟩ := h₄.2 rfl
  show Over options.packetLimit s₄.calls s₄.result
  rw [hr₄]
  refine { channel := hgoing₄.channel, opened := hgoing₄.opened, disposition := fun _ => rfl
           accepted := fun _ => ?_ }
  exact (((ha.append hsteps₁).append hsteps₂).append hsteps₃).append hsteps₄

theorem spec_openAndStream {action : AvdtpAction} (error : UInt32)
    (h : Going 0 s.calls s.result) (hn : OnCourse action s.view) :
    Prog.wp (openAndStream backend library options probe error)
      (fun _ s' => Over options.packetLimit s'.calls s'.result) (fun _ => False) s := by
  unfold openAndStream
  simp only [Prog.wp_bind, Prog.wp_ite, Prog.wp_pure, Prog.wp_update, wp_report, wp_askLogged,
    wp_operate, setFailureHere, setProtocolError]
  split_ifs with hfailed hmtu hchannel
  · exact Going.over (.failed (h.call rfl rfl) rfl rfl nofun rfl)
  · exact Going.over (.failed (h.call rfl rfl) rfl rfl nofun rfl)
  · exact Going.over (.failed (h.call rfl rfl) rfl rfl nofun rfl)
  · rw [Bool.not_eq_false] at hfailed
    rw [not_not] at hchannel
    refine spec_stream (.report (h.call rfl rfl) rfl rfl h.unsuccessful) ?_
    rw [hfailed]
    exact hn.mediaChannel hchannel

theorem spec_burst (error : UInt32) (h : Going 0 s.calls s.result)
    (hs : acceptedSteps s.calls = []) :
    Prog.wp (burst backend library options probe error)
      (fun _ s' => Over options.packetLimit s'.calls s'.result) (fun _ => False) s := by
  unfold burst
  rw [Prog.wp_bind, wp_operate, Prog.wp_bind]
  refine Prog.wp_mono (spec_whileSending (I := fun s => Going 0 s.calls s.result)
    (fun action _ => spec_negotiate action) _ _
    ⟨⟨h, .begin_ _ _ _ hs⟩, roundsLeft_begin rfl⟩) (fun r s' hr => ?_) fun _ => id
  obtain ⟨hgoing, honCourse⟩ := hr
  cases r with
  | none => exact hgoing.over
  | some action =>
    rw [Prog.wp_ite]
    split_ifs
    · exact Going.over (hgoing.failed rfl rfl nofun rfl)
    · exact spec_openAndStream error hgoing (honCourse action rfl)

/-- The session is over. -/
abbrev Outcome (packetLimit : UInt32) (s : SilenceSession Ω) : Prop :=
  HandshakeOutcome (silenceSteps packetLimit.toNat) s.calls s.result.primaryDisposition
    s.result.disposition

theorem spec_finish {packetLimit : UInt32} (h : Over packetLimit s.calls s.result) :
    Prog.wp (finish backend) (fun _ => Outcome packetLimit) (fun _ => False) s := by
  unfold finish
  simp only [Prog.wp_bind, Prog.wp_read, Prog.wp_ite, Prog.wp_pure, wp_report, wp_askLogged,
    h.opened, Bool.true_eq_false, if_false]
  split_ifs
  · exact ⟨h.channel.close _, fun hs => (h.accepted (hs.resolve_right nofun)).other rfl⟩
  · exact ⟨h.channel.close _, fun hs => (h.accepted (hs.elim id h.disposition)).other rfl⟩

/-- **The silence session** ends, closes the channel once if it opened it, and
    reports success only for a stream that the peer opened, started, suspended
    and closed, with all packets on it. -/
theorem spec_run (world : Ω) :
    Prog.wp (runV1TransportSilenceBurstOnce backend library options probe)
      (fun _ => Outcome options.packetLimit) (fun _ => False) (start world) := by
  unfold runV1TransportSilenceBurstOnce
  simp only [Prog.wp_bind, Prog.wp_ite, Prog.wp_pure, wp_report, isCancelled, wp_ask,
    wp_askLogged, setFailure]
  by_cases hvalid : optionsAreValid options
  case neg =>
    rw [if_pos hvalid]
    exact .unopened (.inl rfl) (by rintro ⟨⟩) (by rintro ⟨⟩)
  rw [if_neg (not_not.mpr hvalid)]
  split_ifs with hcancelled hfailed
  · exact .unopened (.inl rfl) (by rintro ⟨⟩) (by rintro ⟨⟩)
  · refine .unopened (.inr ?_) (by rintro ⟨⟩) (by rintro ⟨⟩)
    exact congrArg (fun ok => [HandshakeCall.openSignaling ok]) hfailed
  · rw [Bool.not_eq_false] at hfailed
    refine Prog.wp_mono (spec_burst _ ?_ ?_) (fun _ s' => spec_finish) fun _ => id
    · refine { channel := ?_, opened := rfl, unsuccessful := ⟨by rintro ⟨⟩, by rintro ⟨⟩⟩, written := rfl }
      rw [hfailed]
      exact .start
    · rw [hfailed]
      rfl

end

end Handshake.Silence

/-! ## The two sessions -/

/-- **The transport sessions**, whatever the backend answers and whenever they
    are cancelled: each ends, closes the signaling channel once if it opened it and
    never otherwise, and reports success only if the peer accepted its whole
    handshake in order. -/
theorem transportSessions_complete {F H Ω : Type} [FloatArith F] (probe : V1TransportCancelProbe Ω)
    (world : Ω) :
    (∀ (backend : V1TransportConfigurationBackend Ω) (options : V1TransportConfigurationOptions),
      ∃ s, Handshake.Configuration.runV1TransportConfigurationOnce backend options probe
          (Handshake.Configuration.start world) = (some (), s) ∧
        ClosedOnce s.calls ∧
        (s.result.primaryDisposition = .succeeded ∨ s.result.disposition = .succeeded →
          AcceptedInOrder s.calls [.accepted avdtpSignalClose])) ∧
      ∀ (backend : PcmBackend Ω) (library : LdacBt F H Ω) (options : V1TransportSilenceOptions),
        ∃ s, Handshake.Silence.runV1TransportSilenceBurstOnce backend library options probe
            (Handshake.Silence.start world) = (some (), s) ∧
          ClosedOnce s.calls ∧
          (s.result.primaryDisposition = .succeeded ∨ s.result.disposition = .succeeded →
            AcceptedInOrder s.calls
              (Handshake.Silence.silenceSteps options.packetLimit.toNat)) := by
  refine ⟨fun backend options => ?_, fun backend library options => ?_⟩
  · obtain ⟨_, s, hrun, hs⟩ := Prog.wp_run (Handshake.Configuration.spec_run world)
    exact ⟨s, hrun, hs.closedOnce, hs.accepted⟩
  · have hspec : Prog.wp
        (Handshake.Silence.runV1TransportSilenceBurstOnce backend library options probe)
        (fun _ => Handshake.Silence.Outcome options.packetLimit) (fun _ => False)
        (Handshake.Silence.start world) := Handshake.Silence.spec_run world
    obtain ⟨_, s, hrun, hs⟩ := Prog.wp_run hspec
    exact ⟨s, hrun, hs.closedOnce, hs.accepted⟩

end NativeLdac.Agent
