/-
  `RunV1TransportPcmBurstOnce`: opening the stream, the main loop with its
  pauses and rebinds, and the orderly stop.

  The body is cut at its loops and shared passages.  A piece that returns
  `false` or `Flow.finish` stands for `return Finish(..)` in the source.
-/
import NativeLdac.Agent.PcmTransport

namespace NativeLdac.Agent

open Engine Engine.FloatArith Protocol
open LdacEncoderStatus (configurationFailed invalidOutput)

section
variable {F H Ω : Type} [FloatArith F]
variable (env : PcmEnvironment F H Ω) (options : V1TransportPcmOptions F)

def fidelityMode : Bool := options.limiterMode = .linkedStereoSamplePeakFidelity

def avdtpStep (f : AvdtpSource → AvdtpAction × AvdtpSource) :
    Prog (PcmSession F H Ω) AvdtpAction :=
  .step fun s => ((f s.avdtp).1, { s with avdtp := (f s.avdtp).2 })

def stopGracefully : Prog (PcmSession F H Ω) Unit :=
  .update fun s => { s with gracefulStop := true }

def clearPendingFade : Prog (PcmSession F H Ω) Unit :=
  .update fun s => { s with pendingFadeBlocks := [], pendingFadeFrames := 0 }

/-! ## The encoder -/

def createEncoder : Prog (PcmSession F H Ω) (LdacEncoderStatus × Option (LdacEncoder H)) :=
  .step fun s =>
    let created := LdacEncoder.createWithChannelMode env.library
      (s.result.outgoingMtu.toNat - ldacRtpOverhead) options.quality
      s.result.pcmFormat.sampleRateHz options.channelMode s.world
    (created.1, { s with world := created.2 })

def destroyEncoder : Prog (PcmSession F H Ω) Unit :=
  .update fun s => match s.encoder with
    | none => s
    | some encoder => { s with world := encoder.destroy env.library s.world }

def resetTransportEncoder : Prog (PcmSession F H Ω) Bool := do
  match ← createEncoder env options with
  | (.ok, some replacement) =>
    destroyEncoder env
    Prog.update fun s => { s with encoder := some replacement }
    return true
  | (status, _) =>
    protocolFailure status.code .writePcm
    return false

def sendStartupSilence (fuel : Nat) : Prog (PcmSession F H Ω) Bool :=
  if fidelityMode options = true ∧ 0.0 < options.startupSilenceMs then
    sendBoundarySilence env options fuel options.startupSilenceMs true
  else return true

/-- The fade-in of the frames after a boundary. -/
def beginResumeFade : Prog (PcmSession F H Ω) Unit :=
  .update fun s =>
    let target := toUInt64
      (ceil (ofNat s.result.pcmFormat.sampleRateHz.toNat * options.fadeInMs / 1000.0))
    { s with
      result := { s.result with boundaryResumeCount := s.result.boundaryResumeCount + 1 }
      resumeFadeFramesProcessed := 0
      resumeFadeTargetFrames := target
      resumeFadeActive := fidelityMode options && target ≠ 0 }

/-- A fresh encoder, boundary silence and a fade-in. -/
def restartEncoding (fuel : Nat) : Prog (PcmSession F H Ω) Bool :=
  andAlso (resetTransportEncoder env options) <| andAlso (sendStartupSilence env options fuel) do
    beginResumeFade options
    return true

/-! ## Pauses -/

inductive PauseTransitionResult where
  | resumed | gracefulStop | ended
deriving DecidableEq, Repr

def suspendStream (fuel : Nat) : Prog (PcmSession F H Ω) Bool := do
  let action ← avdtpStep AvdtpSource.suspend
  match ← exchange env options fuel action .suspend true with
  | none => return false
  | some next =>
    if next.kind ≠ .streamSuspended then
      protocolFailure avdtpSourceErrorUnexpectedResponse .suspend
      return false
    report fun r => { r with avdtpSuspendAccepted := true, remoteStreamCleanupRequired := false }
    return true

/-- The consumer lease is given back for the time of the pause. -/
def releaseForPause : Prog (PcmSession F H Ω) Bool := do
  report fun r => { r with pauseSuspendCount := r.pauseSuspendCount + 1 }
  Prog.update fun s => { s with transportSuspendedForPause := true }
  clearPendingFade
  report fun r => { r with stage := .releasePcm }
  let error ← Prog.read (·.error)
  let released ← releaseSource env .pause error
  Prog.update fun s => { s with error := released.error }
  if released.ok = false then
    report fun r => { r with cleanupError := released.error }
    setFailure .cleanupFailure .releasePcm
    return false
  report fun r => { r with consumerLeaseHeld := false }
  countRelease
  return true

/-- One attempt to acquire the lease again; the carried format is the one the
    attempts write. -/
def waitForRenderRound (resumedFormat : V1TransportPcmFormat F) :
    Prog (PcmSession F H Ω)
      (V1TransportPcmFormat F ⊕ (PauseTransitionResult × V1TransportPcmFormat F)) := do
  let pausedStop ← probeStop env
  if pausedStop = .cancel then
    setFailure .cancelled .suspend
    return .inr (.ended, resumedFormat)
  if pausedStop = .graceful then
    stopGracefully
    return .inr (.gracefulStop, resumedFormat)
  let peerControl ← observePeerStreamControl env options
  if peerControl ≠ .continue_ then
    return .inr (.ended, resumedFormat)
  report fun r => { r with
    stage := .preparePcm
    pcmPrepareAttempts := r.pcmPrepareAttempts + 1
    pauseWaitPrepareAttempts := r.pauseWaitPrepareAttempts + 1 }
  let error ← Prog.read (·.error)
  let answer ← preparePcm env resumedFormat pauseResumePrepareWindowMs error
  Prog.update fun s => { s with error := answer.error }
  if answer.ok then
    countAcquire
    return .inr (.resumed, answer.format)
  let prepareStop ← probeStop env
  if prepareStop = .cancel then
    setFailure .cancelled .preparePcm
    return .inr (.ended, answer.format)
  if prepareStop = .graceful then
    stopGracefully
    return .inr (.gracefulStop, answer.format)
  if isPauseResumeWaitError answer.error = false then
    backendFailure answer.error .preparePcm
    return .inr (.ended, answer.format)
  return .inl answer.format

/-- START on the transport that was kept open. -/
def restartStream (fuel : Nat) : Prog (PcmSession F H Ω) Bool := do
  let action ← avdtpStep AvdtpSource.start
  match ← exchange env options fuel action .start false with
  | none => return false
  | some next =>
    if next.kind ≠ .streamReady then
      protocolFailure avdtpSourceErrorUnexpectedResponse .start
      return false
    Prog.update fun s =>
      { s with
        transportSuspendedForPause := false
        result := { s.result with
          pauseResumeStartCount := s.result.pauseResumeStartCount + 1
          remoteStreamCleanupRequired := true } }
    return true

/-- The format of a lease acquired again must be the locked one. -/
def adoptFormat (format : V1TransportPcmFormat F) : Prog (PcmSession F H Ω) Unit :=
  .update fun s => { s with
    result := { s.result with
      pcmFormat := { s.result.pcmFormat with streamEpoch := format.streamEpoch } }
    observedFormat := format }

def resumeStream (fuel : Nat) (resumedFormat : V1TransportPcmFormat F) :
    Prog (PcmSession F H Ω) Bool := do
  let locked ← Prog.read (·.lockedFormat)
  if sameLockedPcmFormat locked resumedFormat = false ∨ finiteVolume resumedFormat = false then
    protocolFailure LdacEncoderStatus.invalidOutput.code .preparePcm
    return false
  adoptFormat resumedFormat
  andAlso (cancelPeerSignalingRead env options .start) <|
    andAlso (restartStream env options fuel) <|
    andAlso (beginPeerSignalingRead env options .writePcm) <|
    andAlso (restartEncoding env options fuel) do
      report fun r => { r with stage := .writePcm }
      return true

def suspendAndWaitForRender (fuel : Nat) : Prog (PcmSession F H Ω) PauseTransitionResult := do
  let paused ← andAlso (cancelPeerSignalingRead env options .suspend) <|
    andAlso (suspendStream env options fuel) <|
    andAlso (releaseForPause env) (beginPeerSignalingRead env options .suspend)
  if paused = false then
    return .ended
  let waited ← Prog.iterate (waitForRenderRound env options) fuel (.empty F)
  match waited.1 with
  | .resumed =>
    if ← resumeStream env options fuel waited.2 then
      return .resumed
    else
      return .ended
  | result => return result

/-! ## Interrupted reads -/

/-- The lease is released and acquired again for a new stream epoch. -/
def rebindPcm (fuel : Nat) : Prog (PcmSession F H Ω) Flow := do
  Prog.update fun s => { s with pcmTimeoutStreakMs := 0 }
  clearPendingFade
  report fun r => { r with stage := .releasePcm }
  let error ← Prog.read (·.error)
  let released ← releaseSource env .rebind error
  Prog.update fun s => { s with error := released.error }
  report fun r => { r with consumerLeaseHeld := false }
  if released.ok = false then
    report fun r => { r with cleanupError := released.error }
    setFailure .cleanupFailure .releasePcm
    return .finish
  countRelease
  let restarts ← Prog.read (·.result.pcmEpochRestarts)
  if restarts ≥ maximumPreflightEpochRestarts then
    report fun r => { r with protocolError := LdacEncoderStatus.invalidOutput.code }
    stopGracefully
    return .leave
  report fun r => { r with
    pcmEpochRestarts := r.pcmEpochRestarts + 1
    stage := .preparePcm
    pcmPrepareAttempts := r.pcmPrepareAttempts + 1
    pcmRebindAttempts := r.pcmRebindAttempts + 1 }
  let answer ← preparePcm env (.empty F) options.postStartStopClassificationTimeoutMs released.error
  Prog.update fun s => { s with error := answer.error }
  if answer.ok = false then
    report fun r => { r with pcmRebindFailures := r.pcmRebindFailures + 1 }
    let readStop ← probeStop env
    if readStop = .graceful then
      stopGracefully
      return .leave
    report fun r => { r with backendError := answer.error }
    setFailure (if readStop = .cancel then .cancelled else .backendFailure) .preparePcm
    return .finish
  report fun r => { r with pcmRebindSuccesses := r.pcmRebindSuccesses + 1 }
  countAcquire
  let readStop ← probeStop env
  if readStop = .cancel then
    setFailure .cancelled .writePcm
    return .finish
  if readStop = .graceful then
    stopGracefully
    return .leave
  let locked ← Prog.read (·.lockedFormat)
  if sameLockedPcmFormat locked answer.format = false ∨ finiteVolume answer.format = false then
    report fun r => { r with
      volumeStable := false
      protocolError := LdacEncoderStatus.invalidOutput.code }
    stopGracefully
    return .leave
  let observed ← Prog.read (·.observedFormat)
  let changed := sameVolume observed answer.format = false
  Prog.onlyIf changed <| report fun r => { r with volumeStable := false }
  if changed ∧ options.allowDynamicVolume = false then
    report fun r => { r with protocolError := LdacEncoderStatus.invalidOutput.code }
    stopGracefully
    return .leave
  adoptFormat answer.format
  if ← restartEncoding env options fuel then
    return .next
  else
    return .finish

/-- A read that neither gave a block nor led to a pause or a rebind. -/
def classifyStop (fuel : Nat) (readStop : V1TransportPcmStopDisposition)
    (disposition : V1TransportPcmReadDisposition) : Prog (PcmSession F H Ω) Flow := do
  let readStop ←
    (if readStop = .none ∧ disposition = .streamStopped ∧
        options.postStartStopClassificationTimeoutMs ≠ 0 then
      waitForExplicitStop env fuel options.postStartStopClassificationTimeoutMs
    else pure readStop)
  if readStop = .graceful ∨ (readStop ≠ .cancel ∧ disposition = .streamStopped ∧
      options.postStartStopClassificationTimeoutMs = 0) then
    stopGracefully
    return .leave
  let error ← Prog.read (·.error)
  report fun r => { r with backendError := error }
  setFailure (if readStop = .cancel then .cancelled else .backendFailure) .writePcm
  return .finish

/-- A read that did not give a whole block. -/
def handleInterruptedRead (fuel : Nat) (forcedRebind : Bool)
    (disposition : V1TransportPcmReadDisposition) : Prog (PcmSession F H Ω) Flow := do
  let readStop ← probeStop env
  if readStop = .none ∧ disposition = .streamStopped ∧ options.pauseSuspend = true ∧
      forcedRebind = false then
    Prog.update fun s => { s with pcmTimeoutStreakMs := 0 }
    match ← suspendAndWaitForRender env options fuel with
    | .ended => return .finish
    | .gracefulStop => return .leave
    | .resumed =>
      Prog.update fun s => { s with usePreflightBlock := false }
      return .next
  Prog.onlyIf (readStop = .none ∧ disposition = .streamStopped ∧ forcedRebind = false) <|
    ask fun world => ((), env.source.querySnapshot world)
  if readStop = .none ∧ disposition = .streamStopped ∧ options.allowPostStartPcmRebind = true then
    rebindPcm env options fuel
  else
    classifyStop env options fuel readStop disposition

/-! ## Reading and shaping a block -/

/-- A read of the main loop; a forced rebind reads nothing. -/
def readPcm (forcedRebind : Bool) : Prog (PcmSession F H Ω) (ReadAnswer F) := do
  let pcm ← Prog.read (·.pcm)
  let error ← Prog.read (·.error)
  if forcedRebind then
    return ⟨.streamStopped, pcm, 0, error⟩
  let answer ← ask
    (env.source.readFrames pcm ldacEncoderPcmFramesPerCall options.pcmReadTimeoutMs error)
  Prog.update fun s => { s with pcm := answer.frames, error := answer.error }
  return answer

/-- The first block after timeouts. -/
def recoverFromTimeouts (fuel : Nat) : Prog (PcmSession F H Ω) Bool := do
  let streak ← Prog.read (·.pcmTimeoutStreakMs)
  if streak = 0 then
    return true
  Prog.update fun s => { s with pcmTimeoutStreakMs := 0 }
  clearPendingFade
  let ok ← askError env.source.resetPacing
  if ok = false then
    let error ← Prog.read (·.error)
    backendFailure error .writePcm
    return false
  restartEncoding env options fuel

def readBlock (fuel : Nat) : Prog (PcmSession F H Ω) Flow := do
  let forcedRebind ← Prog.read (·.forcePostStartPcmRebind)
  let answer ← readPcm env options forcedRebind
  Prog.update fun s => { s with forcePostStartPcmRebind := false }
  Prog.onlyIf (answer.disposition = .timeout) <| Prog.update fun s =>
    { s with pcmTimeoutStreakMs := s.pcmTimeoutStreakMs + options.pcmReadTimeoutMs.toUInt64 }
  let streak ← Prog.read (·.pcmTimeoutStreakMs)
  if answer.disposition = .timeout ∧ options.pcmTimeoutToleranceMs ≠ 0 ∧
      streak ≤ options.pcmTimeoutToleranceMs.toUInt64 then
    return .next
  if answer.disposition ≠ .data ∨ answer.framesRead ≠ ldacEncoderPcmFramesPerCall then
    handleInterruptedRead env options fuel forcedRebind answer.disposition
  else
    let recovered ← recoverFromTimeouts env options fuel
    if recovered = false then
      return .finish
    report fun r => { r with pcmFramesRead := r.pcmFramesRead + answer.framesRead.toUInt64 }
    return .proceed

/-- The fade-in of the session; none where the source returns. -/
def fadeBlock : Prog (PcmSession F H Ω) (Option (PcmBlock F)) := do
  let s ← Prog.read id
  if fidelityMode options = false then
    return some s.pcm
  if s.pendingFadeBlocks.length ≥ maximumPendingFadeBlocks then
    protocolFailure LdacEncoderStatus.invalidOutput.code .writePcm
    return none
  let prepareState := { s.fadeState with
    committedSentFrames := s.fadeState.committedSentFrames + s.pendingFadeFrames }
  match prepareState.prepareBlock s.pcm ldacEncoderPcmFramesPerCall
      s.result.pcmFormat.sampleRateHz options.fadeInMs with
  | none =>
    protocolFailure LdacEncoderStatus.invalidOutput.code .writePcm
    return none
  | some (faded, block, _) =>
    Prog.update fun s => { s with
      pendingFadeBlocks := s.pendingFadeBlocks ++ [block]
      pendingFadeFrames := s.pendingFadeFrames + framesPerBlock }
    return some faded

def fadeAfterBoundary (block : PcmBlock F) : Prog (PcmSession F H Ω) (PcmBlock F) :=
  .step fun s =>
    if s.resumeFadeActive = false then (block, s)
    else
      let faded := min framesPerBlock (s.resumeFadeTargetFrames - s.resumeFadeFramesProcessed)
      let processed := s.resumeFadeFramesProcessed + faded
      (resumeFade s.resumeFadeFramesProcessed s.resumeFadeTargetFrames faded 0 block, { s with
        resumeFadeFramesProcessed := processed
        resumeFadeActive := processed < s.resumeFadeTargetFrames })

/-- The block as it goes to the encoder; none where the source returns. -/
def shapeBlock : Prog (PcmSession F H Ω) (Option (PcmBlock F)) := do
  match ← fadeBlock options with
  | none => return none
  | some block =>
    let block ← fadeAfterBoundary block
    let s ← Prog.read id
    let ceiling := ceilingForSentFrame options s.result.pcmFormat.sampleRateHz
      (if fidelityMode options then
        s.fadeState.committedSentFrames + s.pendingFadeFrames - framesPerBlock
      else s.result.pcmFramesSent)
    match applyOutputPolicy env options s.result.pcmFormat.sampleRateHz ceiling s.limiterState
        block with
    | none =>
      protocolFailure LdacEncoderStatus.invalidOutput.code .writePcm
      return none
    | some (block, limiterState) =>
      Prog.update fun s => { s with limiterState := limiterState }
      return some block

/-! ## Sending a block -/

def commitBlocks (state : V1SentFrameFadeState) (blocks : List V1SentFrameFadeBlock) :
    Option V1SentFrameFadeState :=
  blocks.foldlM (fun state block => state.commitBlock block block.frameCount) state

/-- The fade state after the packet; none where the source returns. -/
def commitFade (packetSamples : UInt32) :
    Prog (PcmSession F H Ω) (Option V1SentFrameFadeState) := do
  let s ← Prog.read id
  if fidelityMode options = false then
    return some s.fadeState
  let committed := if packetSamples.toUInt64 ≠ s.pendingFadeFrames then none
    else commitBlocks s.fadeState s.pendingFadeBlocks
  match committed with
  | some state => return some state
  | none =>
    report fun r => { r with fadeCommitFailures := r.fadeCommitFailures + 1 }
    protocolFailure LdacEncoderStatus.invalidOutput.code .writePcm
    return none

/-- The wait for the time of the packet. -/
def paceWrite : Prog (PcmSession F H Ω) Flow := do
  let s ← Prog.read fun s => (s.transportFramesSent, s.result.pcmFormat.sampleRateHz)
  let ok ← askError (env.source.waitUntilSample s.1 s.2)
  if ok = false then
    let waitStop ← probeStop env
    if waitStop = .graceful then
      stopGracefully
      return .leave
    let error ← Prog.read (·.error)
    report fun r => { r with backendError := error }
    setFailure (if waitStop = .cancel then .cancelled else .backendFailure) .writePcm
    return .finish
  report fun r => { r with pacingWaits := r.pacingWaits + 1 }
  let writeStop ← probeStop env
  if writeStop = .cancel then
    setFailure .cancelled .writePcm
    return .finish
  if writeStop = .graceful then
    stopGracefully
    return .leave
  return .proceed

def writePacket (packet : List UInt8) (packetSamples : UInt32)
    (committedFadeState : V1SentFrameFadeState) : Prog (PcmSession F H Ω) Flow := do
  let error ← Prog.read (·.error)
  let sent ← writeMediaWithTransientNotReadyRetry env options packet false error
  Prog.update fun s => { s with error := sent.error }
  if sent.ok = false then
    report fun r => { r with backendError := sent.error }
    let cancelled ← stopIsCancel env
    setFailure (if cancelled then .cancelled else .backendFailure) .writePcm
    return .finish
  Prog.onlyIf (fidelityMode options) <| Prog.update fun s => { s with
    fadeState := committedFadeState
    result := { s.result with
      fadeCommittedSentFrames := committedFadeState.committedSentFrames }
    pendingFadeBlocks := []
    pendingFadeFrames := 0 }
  Prog.update fun s =>
    let transportFramesSent := s.transportFramesSent + packetSamples.toUInt64
    { s with
      transportFramesSent := transportFramesSent
      result := { countPacket packet s.result with
        pcmFramesSent := s.result.pcmFramesSent + packetSamples.toUInt64
        transportFramesSent := transportFramesSent }
      timestamp := s.timestamp + packetSamples
      sequence := s.sequence + 1 }
  return .next

def sendBlock : Prog (PcmSession F H Ω) Flow := do
  match ← shapeBlock env options with
  | none => return .finish
  | some block =>
    let encoded ← encodeBlock env block
    if encoded.status ≠ .ok then
      protocolFailure encoded.status.code .writePcm
      return .finish
    if encoded.bytes.length = 0 then
      return .next
    let built ← buildMediaPacket encoded
    if built.1 ≠ .ok then
      protocolFailure avdtpSourceErrorBadPacket .writePcm
      return .finish
    let written ← Prog.read (·.result.mediaPacketsWritten)
    if options.maximumPackets ≠ 0 ∧ written ≥ options.maximumPackets then
      protocolFailure LdacEncoderStatus.invalidOutput.code .writePcm
      return .finish
    let samplesPerFrame ← Prog.read (·.samplesPerFrame)
    let packetSamples := encoded.transportFrameCount.toUInt32 * samplesPerFrame
    match ← commitFade options packetSamples with
    | none => return .finish
    | some committedFadeState =>
      Flow.andThen (paceWrite env) <| Flow.andThen (volumeGate env options) <|
        writePacket env options built.2 packetSamples committedFadeState

/-! ## The main loop -/

/-- The peer and the stop probe, at the top of a round. -/
def checkStops : Prog (PcmSession F H Ω) Flow := do
  let peerControl ← observePeerStreamControl env options
  if peerControl ≠ .continue_ then
    return .finish
  let stop ← probeStop env
  if stop = .cancel then
    setFailure .cancelled .writePcm
    return .finish
  if stop = .graceful then
    stopGracefully
    return .leave
  return .proceed

/-- The preflight block, or the next one read. -/
def takeBlock (fuel : Nat) : Prog (PcmSession F H Ω) Flow := do
  let usePreflightBlock ← Prog.read (·.usePreflightBlock)
  let flow ← (if usePreflightBlock then pure .proceed else readBlock env options fuel)
  Prog.onlyIf (flow = .proceed) <| Prog.update fun s => { s with usePreflightBlock := false }
  return flow

def targetSamples (rate : UInt32) : UInt64 :=
  if options.continuousUntilStop then uint64Max
  else rate.toUInt64 * options.durationMs.toUInt64 / 1000

/-- One round; some flow if it ends the loop. -/
def streamRound (fuel : Nat) (target : UInt64) : Prog (PcmSession F H Ω) (Option Flow) := do
  let sent ← Prog.read (·.result.pcmFramesSent)
  if target ≤ sent then
    return some .leave
  let flow ← Flow.andThen (checkStops env options) <| Flow.andThen (takeBlock env options fuel) <|
    Flow.andThen (volumeGate env options) (sendBlock env options)
  match flow with
  | .proceed | .next => return none
  | flow => return some flow

/-! ## Opening the stream -/

def lockFormat : Prog (PcmSession F H Ω) Bool := do
  Prog.update fun s => { s with
    lockedFormat := s.result.pcmFormat
    observedFormat := s.result.pcmFormat }
  if options.requireStableVolume = false then
    return true
  let locked ← Prog.read (·.lockedFormat)
  if locked.volumeControlAvailable = false ∨ locked.muted = true ∨ finiteVolume locked = false then
    protocolFailure LdacEncoderStatus.invalidOutput.code .preparePcm
    return false
  report fun r => { r with volumeStable := true }
  return true

def openSignaling : Prog (PcmSession F H Ω) Bool := do
  let stop ← probeStop env
  if stop ≠ .none then
    setFailure .cancelled .openSignaling
    return false
  report fun r => { r with stage := .openSignaling, openAttempts := 1 }
  let answer ← askLogged (env.backend.openSignaling options.openTimeoutMs 0)
    fun _ answer => .openSignaling answer.ok
  Prog.update fun s => { s with error := answer.error }
  if answer.ok = false then
    report fun r => { r with backendError := answer.error }
    let stop ← probeStop env
    setFailure (if stop = .cancel then .cancelled else .backendFailure) .openSignaling
    return false
  report fun r => { r with signalingOpened := true }
  return true

def negotiateRound (fuel : Nat) (action : AvdtpAction) :
    Prog (PcmSession F H Ω) (AvdtpAction ⊕ Option AvdtpAction) := do
  if action.kind ≠ .sendSignaling then
    return .inr (some action)
  match avdtpParseHeader action.packet with
  | none =>
    setFailure .protocolFailure .negotiate
    return .inr none
  | some header =>
    match ← exchange env options fuel action .negotiate false with
    | none => return .inr none
    | some next =>
      report fun r => { r with
        setConfigurationAccepted := r.setConfigurationAccepted ||
          header.signalId = avdtpSignalSetConfiguration
        avdtpOpenAccepted := r.avdtpOpenAccepted || header.signalId = avdtpSignalOpen }
      return .inl next

def negotiate (fuel : Nat) : Prog (PcmSession F H Ω) Bool := do
  Prog.update fun s => { s with
    avdtp := AvdtpSource.init
      { sampleRates := ldacSfAll, channelModes := channelModeCapability options.channelMode } 1
      s.result.pcmFormat.sampleRateHz }
  let action ← avdtpStep AvdtpSource.begin_
  match ← Prog.iterate (negotiateRound env options fuel) fuel action with
  | none => return false
  | some action =>
    if action.kind ≠ .openMediaChannel then
      setFailure .protocolFailure .negotiate
      return false
    Prog.update fun s => { s with
      result := { s.result with
        remoteSeid := s.avdtp.remoteSeid
        configuration := s.avdtp.configuration } }
    let r ← Prog.read (·.result)
    if ldacSampleRateToHz r.configuration.sampleRate ≠ r.pcmFormat.sampleRateHz ∨
        r.configuration.channelMode ≠ channelModeCapability options.channelMode then
      protocolFailure LdacEncoderStatus.configurationFailed.code .negotiate
      return false
    return true

def openMedia : Prog (PcmSession F H Ω) Bool := do
  report fun r => { r with stage := .openMedia }
  let error ← Prog.read (·.error)
  let answer ← ask
    (env.backend.openMedia options.mediaTimeoutMs options.preferredMediaMtu error)
  Prog.update fun s => { s with
    error := answer.error
    result := { s.result with incomingMtu := answer.incomingMtu, outgoingMtu := answer.outgoingMtu } }
  if answer.ok = false then
    backendFailure answer.error .openMedia
    return false
  report fun r => { r with mediaOpened := true }
  if answer.incomingMtu = 0 ∨ answer.outgoingMtu.toNat ≤ ldacRtpOverhead ∨
      answer.outgoingMtu.toNat - ldacRtpOverhead < ldacEncoderMinPayloadMtu then
    protocolFailure avdtpSourceErrorBadPacket .openMedia
    return false
  let opened ← avdtpStep AvdtpSource.mediaChannelOpened
  if opened.kind ≠ .sessionOpen then
    protocolFailure avdtpSourceErrorBadPacket .openMedia
    return false
  return true

def installEncoder : Prog (PcmSession F H Ω) Bool := do
  match ← createEncoder env options with
  | (.ok, some encoder) =>
    Prog.update fun s => { s with
      encoder := some encoder
      samplesPerFrame := encoder.samplesPerTransportFrame }
    return true
  | (status, _) =>
    protocolFailure status.code .start
    return false

/-- START, sent and accepted for the first time. -/
def startStream (fuel : Nat) : Prog (PcmSession F H Ω) Bool := do
  let action ← avdtpStep AvdtpSource.start
  match ← exchange env options fuel action .start false with
  | none => return false
  | some next =>
    report fun r => { r with remoteStreamCleanupRequired := true }
    if next.kind ≠ .streamReady then
      protocolFailure avdtpSourceErrorUnexpectedResponse .start
      return false
    report fun r => { r with avdtpStartAccepted := true }
    return true

def notifyStarted : Prog (PcmSession F H Ω) Bool := do
  let notified ← (match env.host.startedNotifier with
    | none => pure true
    | some notifier => askError notifier)
  if notified = false then
    let error ← Prog.read (·.error)
    backendFailure error .start
    return false
  report fun r => { r with mediaStartedNotified := true }
  return true

def beginFadeSession : Prog (PcmSession F H Ω) Bool := do
  if fidelityMode options = false then
    return true
  let fadeState ← Prog.read (·.fadeState)
  match fadeState.beginSession options.sessionGeneration with
  | none =>
    protocolFailure LdacEncoderStatus.invalidOutput.code .writePcm
    return false
  | some fadeState =>
    Prog.update fun s => { s with
      fadeState := fadeState
      result := { s.result with fadeSessionStarted := true } }
    return true

/-- Everything before the main loop. -/
def openStream (fuel : Nat) : Prog (PcmSession F H Ω) Bool :=
  andAlso (prepareAudiblePcm env options fuel) <| andAlso (lockFormat options) <|
  andAlso (openSignaling env options) <| andAlso (negotiate env options fuel) <|
  andAlso (openMedia env options) <| andAlso (installEncoder env options) <|
  andAlso (startStream env options fuel) <| andAlso (notifyStarted env) <|
  andAlso (beginPeerSignalingRead env options .writePcm) <| andAlso (beginFadeSession options) <|
  sendStartupSilence env options fuel

/-! ## The orderly stop -/

/-- The books of the fade must be closed. -/
def settleFade : Prog (PcmSession F H Ω) Bool := do
  Prog.update fun s =>
    if fidelityMode options = true ∧ s.gracefulStop = true then
      { s with pendingFadeBlocks := [], pendingFadeFrames := 0 }
    else s
  let s ← Prog.read id
  if fidelityMode options = true ∧ (s.result.fadeCommittedSentFrames ≠ s.result.pcmFramesSent ∨
      s.pendingFadeBlocks ≠ [] ∨ s.pendingFadeFrames ≠ 0) then
    report fun r => { r with fadeCommitFailures := r.fadeCommitFailures + 1 }
    protocolFailure LdacEncoderStatus.invalidOutput.code .writePcm
    return false
  report updateDurationTelemetry
  Prog.update fun s => { s with
    result := { s.result with endedByGracefulStop := s.gracefulStop } }
  return true

/-- The last look at the peer. -/
def checkFinalPeerControl : Prog (PcmSession F H Ω) Bool := do
  let peerControl ← observePeerStreamControl env options
  if peerControl ≠ .continue_ then
    return false
  andAlso (cancelPeerSignalingRead env options .suspend) do
    let cancelled ← stopIsCancel env
    if cancelled then
      setFailure .cancelled .suspend
      return false
    return true

def suspendUnlessPaused (fuel : Nat) : Prog (PcmSession F H Ω) Bool := do
  let paused ← Prog.read (·.transportSuspendedForPause)
  if paused then
    return true
  suspendStream env options fuel

def closeStream (fuel : Nat) : Prog (PcmSession F H Ω) Bool := do
  let action ← avdtpStep AvdtpSource.close
  match ← exchange env options fuel action .close true with
  | none => return false
  | some next =>
    if next.kind ≠ .sessionClosed then
      protocolFailure avdtpSourceErrorUnexpectedResponse .close
      return false
    report fun r =>
      let primary := if r.completedFullDuration then .succeeded else .cancelled
      { r with avdtpCloseAccepted := true, primaryDisposition := primary, disposition := primary }
    return true

def stopStream (fuel : Nat) : Prog (PcmSession F H Ω) Bool :=
  andAlso (settleFade options) <| andAlso (checkFinalPeerControl env options) <|
  andAlso (suspendUnlessPaused env options fuel) <| closeStream env options fuel

/-! ## The whole run -/

/-- The checks on the options, before anything is called. -/
def optionsValid : Bool :=
  let profileConfigurationInvalid :=
    if options.continuousUntilStop then
      options.durationMs ≠ 0 || options.maximumPackets ≠ 0 || env.host.stopProbe.isNone
    else
      options.durationMs = 0 || options.durationMs > maximumDurationMs ||
        options.maximumPackets = 0 || options.maximumPackets > maximumPacketCount
  let fidelityCeilingValid :=
    fabs (options.maximumOutputPeak - 0.89125094) ≤ 0.000001 ||
      fabs (options.maximumOutputPeak - 1.0) ≤ 0.000001
  let fidelity := fidelityMode options
  !(options.openTimeoutMs = 0 || options.openTimeoutMs > maximumTimeoutMs ||
    options.exchangeTimeoutMs = 0 || options.exchangeTimeoutMs > maximumTimeoutMs ||
    options.mediaTimeoutMs = 0 || options.mediaTimeoutMs > maximumTimeoutMs ||
    options.pcmReadTimeoutMs = 0 || options.pcmReadTimeoutMs > maximumTimeoutMs ||
    options.pcmTimeoutToleranceMs > maximumPcmTimeoutToleranceMs ||
    options.postStartStopClassificationTimeoutMs > maximumTimeoutMs ||
    options.audiblePreflightTimeoutMs = 0 ||
    options.audiblePreflightTimeoutMs > maximumAudiblePreflightTimeoutMs ||
    profileConfigurationInvalid || options.preferredMediaMtu = 0 ||
    !isFinite options.maximumGainScalar || options.maximumGainScalar ≤ 0.0 ||
    options.maximumGainScalar > 1.0 ||
    !isFinite options.maximumOutputPeak || options.maximumOutputPeak ≤ 0.0 ||
    (!fidelity && options.maximumOutputPeak > 0.25) ||
    (fidelity && options.maximumOutputPeak > 1.0) ||
    !isFinite options.audiblePeakThreshold || options.audiblePeakThreshold ≤ 0.0 ||
    !isFinite options.startupSilenceMs || options.startupSilenceMs < 0.0 ||
    options.startupSilenceMs > 1000.0 ||
    (options.limiterMode ≠ .hardClip &&
      (!isFinite options.limiterReleaseMs || options.limiterReleaseMs ≤ 0.0 ||
        options.limiterReleaseMs > 1000.0)) ||
    (fidelity &&
      (!fidelityCeilingValid || options.sessionGeneration = 0 ||
        ((!options.requireStableVolume && !options.singleGainMode) ||
          (options.singleGainMode && options.requireStableVolume)) ||
        (options.allowPostStartPcmRebind &&
          options.postStartStopClassificationTimeoutMs = 0) ||
        !isFinite options.fadeInMs || options.fadeInMs ≤ 0.0 ||
        options.fadeInMs > v1SentFrameFadeMaximumDurationMs ||
        !isFinite options.ceilingRampStart || options.ceilingRampStart ≤ 0.0 ||
        options.ceilingRampStart > options.maximumOutputPeak ||
        !isFinite options.ceilingRampMs || options.ceilingRampMs < 0.0 ||
        options.ceilingRampMs > 5000.0 ||
        (options.ceilingRampMs == 0.0 &&
          fabs (options.ceilingRampStart - options.maximumOutputPeak) > 0.000001) ||
        (options.ceilingRampMs > 0.0 && options.ceilingRampStart > 0.25))) ||
    (!fidelity &&
      (options.startupSilenceMs != 0.0 || options.fadeInMs != 0.0 ||
        options.ceilingRampMs != 0.0 || options.singleGainMode || options.requireStableVolume ||
        options.allowDynamicVolume || options.allowPostStartPcmRebind)))

/-- The session before its first call. -/
def PcmSession.initial (world : Ω) : PcmSession F H Ω where
  world := world
  calls := []
  result := { targetDurationMs := options.durationMs, sessionGeneration := options.sessionGeneration }
  error := 0
  avdtp := AvdtpSource.init { sampleRates := 0, channelModes := 0 } 0 0
  encoder := none
  samplesPerFrame := 0
  lockedFormat := .empty F
  observedFormat := .empty F
  pcm := List.replicate 256 0.0
  sequence := 0
  timestamp := 0
  transportFramesSent := 0
  usePreflightBlock := true
  gracefulStop := false
  transportSuspendedForPause := false
  forcePostStartPcmRebind := false
  resumeFadeActive := false
  resumeFadeFramesProcessed := 0
  resumeFadeTargetFrames := 0
  pcmTimeoutStreakMs := 0
  limiterState := { gain := 1.0, releaseStep := 0.0 }
  fadeState := {}
  pendingFadeBlocks := []
  pendingFadeFrames := 0

/-- Everything before `Finish`. -/
def streamSession (fuel : Nat) : Prog (PcmSession F H Ω) Unit := do
  let opened ← openStream env options fuel
  if opened then
    let rate ← Prog.read (·.result.pcmFormat.sampleRateHz)
    let flow ← Prog.loop fuel (streamRound env options fuel (targetSamples options rate))
    if flow = .leave then
      let _ ← stopStream env options fuel
      return ()

/-- `RunV1TransportPcmBurstOnce`: the final session, and whether the run
    returned within the fuel. -/
def runV1TransportPcmBurstOnce (fuel : Nat) (world : Ω) : Option Unit × PcmSession F H Ω :=
  if optionsValid env options = false then (some (), .initial options world)
  else
    (do
      streamSession env options fuel
      finish env
      destroyEncoder env : Prog (PcmSession F H Ω) Unit) (.initial options world)

end

end NativeLdac.Agent
