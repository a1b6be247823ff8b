/-
  The stream of the PCM session: the audible preflight, media packets, pauses,
  rebinds, and `RunV1TransportPcmBurstOnce` as a whole.

  The body of the run is cut at its comments and returns; each piece says how
  the run goes on (`Flow`), and `Flow.finish` stands for `return Finish(..)`.
  `fuel` bounds the rounds of each loop.
-/
import NativeLdac.Agent.PcmSignaling

namespace NativeLdac.Agent

open Engine Engine.FloatArith Protocol

/-- How the main loop goes on after a piece of its body. -/
inductive Flow where
  | proceed | next | leave | finish
deriving DecidableEq, Repr

section
variable {F H Ω : Type} [FloatArith F]
variable (env : PcmEnvironment F H Ω) (options : V1TransportPcmOptions F)

/-- Run the next piece if the first one proceeds. -/
def Flow.andThen (x y : Prog (PcmSession F H Ω) Flow) : Prog (PcmSession F H Ω) Flow := do
  match ← x with
  | .proceed => y
  | flow => return flow

/-- Run the next piece if the first one returns `true`. -/
def andAlso (x y : Prog (PcmSession F H Ω) Bool) : Prog (PcmSession F H Ω) Bool := do
  if ← x then
    y
  else
    return false

/-! ## Samples -/

def sanitizeSample (sample : F) : F := if isFinite sample then clamp sample (-1.0) 1.0 else 0.0

def peakOf (block : PcmBlock F) : F := block.foldl (fun peak sample => fmax peak (fabs sample)) 0.0

/-- `ApplyOutputPolicy`; none if the limiter refuses the block. -/
def applyOutputPolicy (sampleRateHz : UInt32) (outputPeakCeiling : F)
    (state : V1LinkedStereoBlockLimiterState F) (pcm : PcmBlock F) :
    Option (PcmBlock F × V1LinkedStereoBlockLimiterState F) :=
  let unlimited := pcm.map fun sample => sanitizeSample sample * options.maximumGainScalar
  if options.limiterMode = .hardClip then
    some (unlimited.map (clamp · (-outputPeakCeiling) outputPeakCeiling), state)
  else env.limiter unlimited outputPeakCeiling sampleRateHz options.limiterReleaseMs state

def ceilingForSentFrame (sampleRateHz : UInt32) (committedSentFrames : UInt64) : F :=
  if options.ceilingRampMs ≤ 0.0 then options.maximumOutputPeak
  else
    let rampFrames := ceil (ofNat sampleRateHz.toNat * options.ceilingRampMs / 1000.0)
    let progress := clamp (ofNat committedSentFrames.toNat / rampFrames) 0.0 1.0
    options.ceilingRampStart + (options.maximumOutputPeak - options.ceilingRampStart) * progress

/-- The fade-in after a pause or a rebind, from frame `frame` of the block on:
    `faded` frames are below the target. -/
def resumeFade (processed target faded : UInt64) : Nat → PcmBlock F → PcmBlock F
  | frame, left :: right :: rest =>
    let position := processed.toNat + frame + 1
    let gain : F := if frame < faded.toNat then fmin 1.0 (ofNat position / ofNat target.toNat)
      else 1.0
    left * gain :: right * gain :: resumeFade processed target faded (frame + 1) rest
  | _, _ => []

/-! ## Formats -/

def sameLockedPcmFormat (locked current : V1TransportPcmFormat F) : Bool :=
  current.sampleRateHz = locked.sampleRateHz && current.bitsPerSample = locked.bitsPerSample &&
    current.volumeControlAvailable = locked.volumeControlAvailable

def sameVolume (previous current : V1TransportPcmFormat F) : Bool :=
  current.muted = previous.muted &&
    fabs (current.volumeScalar - previous.volumeScalar) ≤ 0.000001 &&
    fabs (current.volumeDb - previous.volumeDb) ≤ 0.001

def finiteVolume (format : V1TransportPcmFormat F) : Bool :=
  isFinite format.volumeScalar && isFinite format.volumeDb

inductive StableVolumeCheck where
  | stable | queryFailure | streamEpochChanged | formatChanged | changed
deriving DecidableEq, Repr

def checkStableVolume : Prog (PcmSession F H Ω) StableVolumeCheck := do
  let error ← Prog.read (·.error)
  let answer ← ask (env.source.queryFormat (.empty F) error)
  Prog.update fun s => { s with error := answer.error }
  if answer.ok = false then
    report fun r => { r with volumeStable := false }
    return .queryFailure
  let current := answer.format
  let locked ← Prog.read (·.lockedFormat)
  if sameLockedPcmFormat locked current = false ∨ finiteVolume current = false then
    report fun r => { r with volumeStable := false }
    return .formatChanged
  let observed ← Prog.read (·.observedFormat)
  let changed := sameVolume observed current = false
  Prog.onlyIf changed do
    report fun r => { r with volumeStable := false }
    Prog.update fun s => { s with observedFormat := { s.observedFormat with
      muted := current.muted
      volumeScalar := current.volumeScalar
      volumeDb := current.volumeDb } }
  if changed ∧ options.allowDynamicVolume = false then
    return .changed
  if current.streamEpoch ≠ observed.streamEpoch then
    return .streamEpochChanged
  return .stable

/-- What the main loop does on the answer of `CheckStableVolume`. -/
def volumeGate : Prog (PcmSession F H Ω) Flow := do
  if options.requireStableVolume = false then
    return .proceed
  let volume ← checkStableVolume env options
  if volume = .streamEpochChanged then
    if options.allowPostStartPcmRebind then
      Prog.update fun s => { s with forcePostStartPcmRebind := true }
      return .next
    Prog.update fun s => { s with gracefulStop := true }
    return .leave
  if volume ≠ .stable then
    Prog.update fun s =>
      { s with
        result :=
          if volume = .queryFailure then { s.result with backendError := s.error }
          else { s.result with protocolError := LdacEncoderStatus.invalidOutput.code }
        gracefulStop := true }
    return .leave
  return .proceed

/-! ## The audible preflight -/

def countRelease : Prog (PcmSession F H Ω) Unit :=
  report fun r =>
    let r := { r with consumerLeaseReleaseCount := r.consumerLeaseReleaseCount + 1 }
    { r with consumerLeaseReleased :=
        r.consumerLeaseAcquireCount = r.consumerLeaseReleaseCount }

def countAcquire : Prog (PcmSession F H Ω) Unit :=
  report fun r => { r with
    consumerLeaseAcquired := true
    consumerLeaseReleased := false
    consumerLeaseHeld := true
    consumerLeaseAcquireCount := r.consumerLeaseAcquireCount + 1 }

def preparePcm (format : V1TransportPcmFormat F) (timeoutMs error : UInt32) :
    Prog (PcmSession F H Ω) (PrepareAnswer F) :=
  askLogged (env.source.prepare format timeoutMs error) fun _ answer => .prepare answer.ok

/-- Acquire the lease if it is not held; the error code, or none where the
    source returns `false`. -/
def acquireForPreflight (deadline : Nat) (error : UInt32) :
    Prog (PcmSession F H Ω) (Option UInt32) := do
  let held ← Prog.read (·.result.consumerLeaseHeld)
  if held then
    return some error
  let now ← ask env.host.now
  report fun r => { r with stage := .preparePcm, pcmPrepareAttempts := r.pcmPrepareAttempts + 1 }
  let format ← Prog.read (·.result.pcmFormat)
  let answer ← preparePcm env format (max 1 ((deadline - now) / 1000000)).toUInt32 error
  report fun r => { r with pcmFormat := answer.format }
  if answer.ok = false then
    report fun r => { r with backendError := answer.error }
    let stop ← probeStop env
    setFailureHere (if stop ≠ .none then .cancelled else .backendFailure)
    return none
  report fun r => { r with pcmPrepared := true }
  countAcquire
  if supportedSampleRate answer.format.sampleRateHz = false ∨
      (answer.format.bitsPerSample ≠ 16 ∧ answer.format.bitsPerSample ≠ 24) then
    protocolFailure LdacEncoderStatus.configurationFailed.code .preparePcm
    return none
  return some answer.error

/-- The stream stopped before anything audible was read. -/
def restartPreflight (error : UInt32) : Prog (PcmSession F H Ω) (UInt32 ⊕ Bool) := do
  let streamStop ← probeStop env
  if streamStop ≠ .none then
    report fun r => { r with backendError := error }
    setFailureHere .cancelled
    return .inr false
  ask fun world => ((), env.source.querySnapshot world)
  report fun r => { r with stage := .releasePcm }
  let released ← releaseSource env .preflight error
  report fun r => { r with consumerLeaseHeld := false }
  if released.ok = false then
    report fun r => { r with cleanupError := released.error }
    setFailure .cleanupFailure .releasePcm
    return .inr false
  countRelease
  let restarts ← Prog.read (·.result.pcmEpochRestarts)
  if restarts ≥ maximumPreflightEpochRestarts then
    protocolFailure LdacEncoderStatus.invalidOutput.code .preparePcm
    return .inr false
  report fun r => { r with pcmEpochRestarts := r.pcmEpochRestarts + 1 }
  return .inl released.error

def readPreflight (deadline : Nat) (error : UInt32) :
    Prog (PcmSession F H Ω) (UInt32 ⊕ Bool) := do
  let now ← ask env.host.now
  let remaining := (deadline - now) / 1000000
  let readTimeoutMs := (max 1 (min options.pcmReadTimeoutMs.toNat remaining)).toUInt32
  let pcm ← Prog.read (·.pcm)
  let answer ← ask (env.source.readFrames pcm ldacEncoderPcmFramesPerCall readTimeoutMs error)
  Prog.update fun s => { s with pcm := answer.frames }
  if answer.disposition = .timeout then
    return .inl answer.error
  if answer.disposition = .streamStopped then
    restartPreflight env answer.error
  else if answer.disposition ≠ .data ∨ answer.framesRead ≠ ldacEncoderPcmFramesPerCall then
    report fun r => { r with backendError := answer.error }
    setFailureHere .backendFailure
    return .inr false
  else
    Prog.update fun s => { s with pcm := s.pcm.map sanitizeSample }
    report fun r => { r with pcmFramesRead := r.pcmFramesRead + answer.framesRead.toUInt64 }
    let peak ← Prog.read fun s => peakOf s.pcm
    if options.audiblePeakThreshold ≤ peak then
      report fun r => { r with audiblePcmConfirmedBeforeOpen := true }
      return .inr true
    report fun r => { r with
      preStartPcmFramesDiscarded := r.preStartPcmFramesDiscarded + answer.framesRead.toUInt64 }
    return .inl answer.error

def preflightRound (deadline : Nat) (error : UInt32) :
    Prog (PcmSession F H Ω) (UInt32 ⊕ Bool) := do
  let now ← ask env.host.now
  if deadline ≤ now then
    protocolFailure LdacEncoderStatus.invalidOutput.code .preparePcm
    return .inr false
  let stop ← probeStop env
  if stop ≠ .none then
    setFailureHere .cancelled
    return .inr false
  match ← acquireForPreflight env deadline error with
  | none => return .inr false
  | some error => readPreflight env options deadline error

def prepareAudiblePcm (fuel : Nat) : Prog (PcmSession F H Ω) Bool := do
  let start ← ask env.host.now
  let deadline := start + options.audiblePreflightTimeoutMs.toNat * 1000000
  Prog.iterate (preflightRound env options deadline) fuel 0

/-! ## Media packets -/

/-- `ldac_encoder_encode_f32` on the encoder of the session. -/
def encodeBlock (pcm : PcmBlock F) : Prog (PcmSession F H Ω) LdacEncoder.Encoded :=
  .step fun s => match s.encoder with
    | none => (⟨.invalidArgument, [], 0⟩, s)
    | some encoder =>
      let encoded := encoder.encodeF32 env.library pcm s.world
      (encoded.1, { s with encoder := some encoded.2.1, world := encoded.2.2 })

/-- The packet that carries the frames at the place of the stream reached. -/
def buildMediaPacket (encoded : LdacEncoder.Encoded) :
    Prog (PcmSession F H Ω) (LdacRtpStatus × List UInt8) :=
  .read fun s => ldacRtpBuildUnfragmented mediaPacketCapacity s.result.outgoingMtu.toNat
    s.sequence s.timestamp mediaSsrc encoded.transportFrameCount encoded.bytes

/-- `WriteMediaWithTransientNotReadyRetry`, with the attempts left. -/
def writeMediaAttempts (packet : List UInt8) (allowGracefulStop : Bool) :
    Nat → UInt32 → Prog (PcmSession F H Ω) Answer
  | 0, error => return ⟨false, error⟩
  | left + 1, error => do
    let answer ← askLogged (env.backend.writeMedia packet options.mediaTimeoutMs error)
      fun _ answer => .writeMedia packet answer.ok
    if answer.ok then
      return answer
    let stop ← probeStop env
    let stopRequested := stop = .cancel ∨ (allowGracefulStop = false ∧ stop = .graceful)
    if answer.error ≠ notReadyError ∨ left = 0 ∨ stopRequested then
      Prog.onlyIf (answer.error = notReadyError ∧ left = 0) <|
        report fun r => { r with
          mediaWriteNotReadyExhaustions := r.mediaWriteNotReadyExhaustions + 1 }
      return ⟨false, answer.error⟩
    report fun r => { r with mediaWriteNotReadyRetries := r.mediaWriteNotReadyRetries + 1 }
    ask fun world => ((), env.host.sleepForMs 20 world)
    writeMediaAttempts packet allowGracefulStop left answer.error

def writeMediaWithTransientNotReadyRetry (packet : List UInt8) (allowGracefulStop : Bool)
    (error : UInt32) : Prog (PcmSession F H Ω) Answer :=
  writeMediaAttempts env options packet allowGracefulStop (transientMediaWriteRetries + 1) error

def countPacket (packet : List UInt8) (r : V1TransportPcmResult F) : V1TransportPcmResult F :=
  { r with
    mediaPacketsWritten := r.mediaPacketsWritten + 1
    mediaBytesWritten := r.mediaBytesWritten + packet.length.toUInt32 }

/-- The locals of the loop of `SendBoundarySilence`. -/
structure SilenceRound where
  generatedFrames : UInt64
  pendingFrames : UInt64
  flushBlocks : UInt32

def sendSilencePacket (allowGracefulStop : Bool) (encoded : LdacEncoder.Encoded)
    (packetSamples : UInt32) : Prog (PcmSession F H Ω) Bool := do
  let built ← buildMediaPacket encoded
  if built.1 ≠ .ok then
    protocolFailure avdtpSourceErrorBadPacket .writePcm
    return false
  let written ← Prog.read (·.result.mediaPacketsWritten)
  if options.maximumPackets ≠ 0 ∧ written ≥ options.maximumPackets then
    protocolFailure LdacEncoderStatus.invalidOutput.code .writePcm
    return false
  let place ← Prog.read fun s => (s.transportFramesSent, s.result.pcmFormat.sampleRateHz)
  let waited ← ask (env.source.waitUntilSample place.1 place.2 0)
  if waited.ok = false then
    let stop ← probeStop env
    report fun r => { r with backendError := waited.error }
    setFailure (if stop = .cancel then .cancelled else .backendFailure) .writePcm
    return false
  report fun r => { r with pacingWaits := r.pacingWaits + 1 }
  let stop ← probeStop env
  if stop = .cancel ∨ (allowGracefulStop = false ∧ stop = .graceful) then
    setFailure .cancelled .writePcm
    return false
  let sent ← writeMediaWithTransientNotReadyRetry env options built.2 allowGracefulStop waited.error
  if sent.ok = false then
    report fun r => { r with backendError := sent.error }
    let stop ← probeStop env
    setFailure (if stop = .cancel then .cancelled else .backendFailure) .writePcm
    return false
  Prog.update fun s =>
    let transportFramesSent := s.transportFramesSent + packetSamples.toUInt64
    { s with
      transportFramesSent := transportFramesSent
      result := { countPacket built.2 s.result with
        transportFramesSent := transportFramesSent
        startupSilenceFramesSent := s.result.startupSilenceFramesSent + packetSamples.toUInt64
        startupSilencePacketsWritten := s.result.startupSilencePacketsWritten + 1 }
      timestamp := s.timestamp + packetSamples
      sequence := s.sequence + 1 }
  return true

def silenceRound (allowGracefulStop : Bool) (samplesPerFrame : UInt32) (targetFrames : UInt64)
    (round : SilenceRound) : Prog (PcmSession F H Ω) (SilenceRound ⊕ Bool) := do
  if targetFrames ≤ round.generatedFrames ∧ round.pendingFrames = 0 then
    return .inr true
  let padding := targetFrames ≤ round.generatedFrames
  let round : SilenceRound :=
    { generatedFrames := round.generatedFrames + framesPerBlock
      pendingFrames := round.pendingFrames + framesPerBlock
      flushBlocks := if padding then round.flushBlocks + 1 else round.flushBlocks }
  if padding ∧ round.flushBlocks > 64 then
    protocolFailure LdacEncoderStatus.invalidOutput.code .writePcm
    return .inr false
  let encoded ← encodeBlock env (List.replicate 256 0.0)
  if encoded.status ≠ .ok then
    protocolFailure encoded.status.code .writePcm
    return .inr false
  if encoded.bytes.length = 0 then
    return .inl round
  let packetSamples := encoded.transportFrameCount.toUInt32 * samplesPerFrame
  if packetSamples.toUInt64 ≠ round.pendingFrames then
    protocolFailure LdacEncoderStatus.invalidOutput.code .writePcm
    return .inr false
  if ← sendSilencePacket env options allowGracefulStop encoded packetSamples then
    return .inl { round with pendingFrames := 0 }
  else
    return .inr false

def sendBoundarySilence (fuel : Nat) (durationMs : F) (allowGracefulStop : Bool) :
    Prog (PcmSession F H Ω) Bool := do
  if durationMs == 0.0 then
    return true
  let rate ← Prog.read (·.result.pcmFormat.sampleRateHz)
  let samplesPerFrame ← Prog.read fun s =>
    s.encoder.map LdacEncoder.samplesPerTransportFrame
  match samplesPerFrame with
  | none => return false
  | some samplesPerFrame =>
    if rate = 0 then
      return false
    let requestedFrames := toUInt64 (ceil (ofNat rate.toNat * durationMs / 1000.0))
    let targetFrames := (requestedFrames + framesPerBlock - 1) / framesPerBlock * framesPerBlock
    if targetFrames = 0 then
      return true
    Prog.iterate (silenceRound env options allowGracefulStop samplesPerFrame targetFrames) fuel
      { generatedFrames := 0, pendingFrames := 0, flushBlocks := 0 }

end

end NativeLdac.Agent
