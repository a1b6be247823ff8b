/-
  The PCM transport session (`agent/v1_transport_pcm_session.cpp`): its
  options, its report, the backend, source and host it runs against, and the
  state its programs act on.

  * `PcmEnvironment` answers every external call; the answers depend on a world
    `Ω`, which the calls may change, and nothing is assumed of them;
  * `PcmSession` holds the locals of `RunV1TransportPcmBurstOnce`, and in
    `calls` the external calls the session has made, the last one first;
  * floats that are only reported, the diagnostics and the snapshots are left
    out.
-/
import NativeLdac.Agent.SentFrameFade
import NativeLdac.Engine.LdacEncoder
import NativeLdac.Lib.Prog
import NativeLdac.Protocol.Avdtp
import NativeLdac.Protocol.RtpLdac

namespace NativeLdac.Agent

open Engine Engine.FloatArith Protocol

/-! ## Enumerations and constants -/

inductive V1TransportPcmReadDisposition where
  | data | timeout | streamStopped | failure
deriving DecidableEq, Repr

inductive V1TransportPcmStopDisposition where
  | none | graceful | cancel
deriving DecidableEq, Repr

inductive V1TransportPcmLimiterMode where
  | hardClip | linkedStereoBlock | linkedStereoSamplePeakFidelity
deriving DecidableEq, Repr

inductive V1TransportSignalingReadDisposition where
  | noPacket | packet | timedOut | failure
deriving DecidableEq, Repr

inductive V1TransportConfigurationDisposition where
  | succeeded | cancelled | invalidConfiguration | backendFailure | protocolFailure
  | cleanupFailure
deriving DecidableEq, Repr

inductive V1TransportSilenceStage where
  | none | openSignaling | negotiate | openMedia | start | writeSilence | suspend | close
  | closeChannels | preparePcm | releasePcm | writePcm
deriving DecidableEq, Repr

def maximumTimeoutMs : UInt32 := 30000
def maximumAudiblePreflightTimeoutMs : UInt32 := 120000
def maximumDurationMs : UInt32 := 60000
def maximumPacketCount : UInt32 := 32768
def maximumPreflightEpochRestarts : UInt32 := 32
def maximumPeerSignalingCommands : UInt32 := 3
def maximumPcmTimeoutToleranceMs : UInt32 := 5000
def timeoutError : UInt32 := 1460
def notReadyError : UInt32 := 21
def waitTimeoutError : UInt32 := 258
def deviceNotConnectedError : UInt32 := 1167
def fileNotFoundError : UInt32 := 2
def pathNotFoundError : UInt32 := 3
def invalidHandleError : UInt32 := 6
def operationAbortedError : UInt32 := 995
def cancelledError : UInt32 := 1223
def pauseResumePrepareWindowMs : UInt32 := 1000
def transientMediaWriteRetries : Nat := 50
def avdtpErrorSepInUse : UInt8 := 0x13
def mediaPacketCapacity : Nat := 4096
def mediaSsrc : UInt32 := 0x56315043
def maximumPendingFadeBlocks : Nat := 64
def framesPerBlock : UInt64 := 128

def isPauseResumeWaitError (error : UInt32) : Bool :=
  error = waitTimeoutError || error = timeoutError || error = notReadyError ||
    error = deviceNotConnectedError || error = fileNotFoundError || error = pathNotFoundError ||
    error = invalidHandleError || error = operationAbortedError || error = cancelledError

def channelModeCapability : LdacEncoderChannelMode → UInt8
  | .stereo => ldacCmStereo
  | .dual => ldacCmDual
  | .mono => ldacCmMono

/-! ## Options and report -/

structure V1TransportPcmFormat (F : Type) where
  sampleRateHz : UInt32
  bitsPerSample : UInt32
  streamEpoch : UInt64
  volumeControlAvailable : Bool
  muted : Bool
  volumeScalar : F
  volumeDb : F

/-- The format of `V1TransportPcmFormat{}`. -/
def V1TransportPcmFormat.empty (F : Type) [FloatArith F] : V1TransportPcmFormat F where
  sampleRateHz := 0
  bitsPerSample := 0
  streamEpoch := 0
  volumeControlAvailable := false
  muted := false
  volumeScalar := 0.0
  volumeDb := 0.0

structure V1TransportPcmOptions (F : Type) [FloatArith F] where
  openTimeoutMs : UInt32 := 10000
  exchangeTimeoutMs : UInt32 := 5000
  mediaTimeoutMs : UInt32 := 5000
  pcmReadTimeoutMs : UInt32 := 250
  pcmTimeoutToleranceMs : UInt32 := 0
  postStartStopClassificationTimeoutMs : UInt32 := 0
  audiblePreflightTimeoutMs : UInt32 := 3000
  durationMs : UInt32 := 10000
  maximumPackets : UInt32 := 4096
  preferredMediaMtu : UInt16 := 1000
  maximumGainScalar : F := 0.01
  maximumOutputPeak : F := 0.25
  audiblePeakThreshold : F := 0.0001
  limiterMode : V1TransportPcmLimiterMode := .hardClip
  limiterReleaseMs : F := 50.0
  sessionGeneration : UInt64 := 0
  continuousUntilStop : Bool := false
  pauseSuspend : Bool := false
  singleGainMode : Bool := false
  requireStableVolume : Bool := false
  allowDynamicVolume : Bool := false
  allowPostStartPcmRebind : Bool := false
  observePeerCloseWhileStreaming : Bool := false
  startupSilenceMs : F := 0.0
  fadeInMs : F := 0.0
  ceilingRampStart : F := 0.25
  ceilingRampMs : F := 0.0
  quality : LdacEncoderQuality := .hq
  channelMode : LdacEncoderChannelMode := .stereo

/-- `V1TransportPcmResult`, with the fields of `V1TransportSilenceResult`. -/
structure V1TransportPcmResult (F : Type) [FloatArith F] where
  disposition : V1TransportConfigurationDisposition := .invalidConfiguration
  primaryDisposition : V1TransportConfigurationDisposition := .invalidConfiguration
  stage : V1TransportSilenceStage := .none
  backendError : UInt32 := 0
  cleanupError : UInt32 := 0
  protocolError : Int := 0
  remoteSeid : UInt8 := 0
  configuration : LdacConfiguration := { sampleRate := 0, channelMode := 0 }
  openAttempts : UInt32 := 0
  signalingExchanges : UInt32 := 0
  peerSignalingCommandsReceived : UInt32 := 0
  peerDiscoverCommandsAccepted : UInt32 := 0
  peerCapabilityCommandsAccepted : UInt32 := 0
  peerConfigurationCommandsRejected : UInt32 := 0
  peerCloseCommandsAccepted : UInt32 := 0
  peerSignalingReadTimeouts : UInt32 := 0
  incomingMtu : UInt16 := 0
  outgoingMtu : UInt16 := 0
  mediaPacketsWritten : UInt32 := 0
  mediaBytesWritten : UInt32 := 0
  signalingOpened : Bool := false
  setConfigurationAccepted : Bool := false
  avdtpOpenAccepted : Bool := false
  mediaOpened : Bool := false
  avdtpStartAccepted : Bool := false
  avdtpSuspendAccepted : Bool := false
  avdtpCloseAccepted : Bool := false
  endedByPeerClose : Bool := false
  remoteStreamCleanupRequired : Bool := false
  closeAttempted : Bool := false
  closeSucceeded : Bool := false
  pcmFormat : V1TransportPcmFormat F := .empty F
  pcmFramesRead : UInt64 := 0
  pcmFramesSent : UInt64 := 0
  transportFramesSent : UInt64 := 0
  preStartPcmFramesDiscarded : UInt64 := 0
  pcmPrepareAttempts : UInt32 := 0
  pcmEpochRestarts : UInt32 := 0
  pcmRebindAttempts : UInt32 := 0
  pcmRebindSuccesses : UInt32 := 0
  pcmRebindFailures : UInt32 := 0
  consumerLeaseAcquireCount : UInt32 := 0
  consumerLeaseReleaseCount : UInt32 := 0
  targetDurationMs : UInt32 := 0
  actualDurationMs : UInt32 := 0
  pacingWaits : UInt32 := 0
  mediaWriteNotReadyRetries : UInt32 := 0
  mediaWriteNotReadyExhaustions : UInt32 := 0
  sessionGeneration : UInt64 := 0
  startupSilenceFramesSent : UInt64 := 0
  startupSilencePacketsWritten : UInt32 := 0
  fadeCommittedSentFrames : UInt64 := 0
  fadeCommitFailures : UInt64 := 0
  boundaryResumeCount : UInt32 := 0
  pauseSuspendCount : UInt32 := 0
  pauseResumeStartCount : UInt32 := 0
  pauseWaitPrepareAttempts : UInt32 := 0
  volumeStable : Bool := false
  fadeSessionStarted : Bool := false
  pcmPrepared : Bool := false
  consumerLeaseAcquired : Bool := false
  consumerLeaseReleased : Bool := false
  consumerLeaseHeld : Bool := false
  audiblePcmConfirmedBeforeOpen : Bool := false
  mediaStartedNotified : Bool := false
  completedFullDuration : Bool := false
  endedByGracefulStop : Bool := false

/-! ## The environment -/

/-- The answer of a call that returns a `bool` and writes an error code. -/
structure Answer where
  ok : Bool
  error : UInt32

structure ExchangeAnswer extends Answer where
  response : List UInt8

structure PollAnswer where
  disposition : V1TransportSignalingReadDisposition
  packet : List UInt8
  error : UInt32

structure OpenMediaAnswer extends Answer where
  incomingMtu : UInt16
  outgoingMtu : UInt16

structure PrepareAnswer (F : Type) extends Answer where
  format : V1TransportPcmFormat F

structure ReadAnswer (F : Type) where
  disposition : V1TransportPcmReadDisposition
  frames : PcmBlock F
  framesRead : Nat
  error : UInt32

/-- `V1TransportSilenceBackend`.  The last `UInt32` of a call is the error code
    it finds; timeouts come before it. -/
structure PcmBackend (Ω : Type) where
  openSignaling : UInt32 → UInt32 → Ω → Answer × Ω
  closeSignaling : UInt32 → Ω → Answer × Ω
  exchangeSignaling : List UInt8 → UInt32 → UInt32 → Ω → ExchangeAnswer × Ω
  openMedia : UInt32 → UInt16 → UInt32 → Ω → OpenMediaAnswer × Ω
  writeMedia : List UInt8 → UInt32 → UInt32 → Ω → Answer × Ω
  beginPeerSignalingRead : UInt32 → UInt32 → Ω → Answer × Ω
  pollPeerSignalingRead : UInt32 → Ω → PollAnswer × Ω
  sendPeerSignalingResponse : List UInt8 → UInt32 → UInt32 → Ω → Answer × Ω
  cancelPeerSignalingRead : UInt32 → Ω → Answer × Ω

/-- `V1TransportPcmSource`.  The answer of `querySnapshot` is only reported. -/
structure PcmSource (F Ω : Type) where
  prepare : V1TransportPcmFormat F → UInt32 → UInt32 → Ω → PrepareAnswer F × Ω
  readFrames : PcmBlock F → Nat → UInt32 → UInt32 → Ω → ReadAnswer F × Ω
  queryFormat : V1TransportPcmFormat F → UInt32 → Ω → PrepareAnswer F × Ω
  querySnapshot : Ω → Ω
  waitUntilSample : UInt64 → UInt32 → UInt32 → Ω → Answer × Ω
  resetPacing : UInt32 → Ω → Answer × Ω
  release : UInt32 → Ω → Answer × Ω

/-- The steady clock, in nanoseconds, and the callbacks of the caller, null or
    not. -/
structure PcmHost (Ω : Type) where
  now : Ω → Nat × Ω
  sleepForMs : Nat → Ω → Ω
  stopProbe : Option (Ω → V1TransportPcmStopDisposition × Ω)
  startedNotifier : Option (UInt32 → Ω → Answer × Ω)

structure V1LinkedStereoBlockLimiterState (F : Type) where
  gain : F
  releaseStep : F

structure PcmEnvironment (F H Ω : Type) where
  backend : PcmBackend Ω
  source : PcmSource F Ω
  host : PcmHost Ω
  library : LdacBt F H Ω
  /-- `ProcessV1LinkedStereoBlock`: block, ceiling, rate, release time and
      state; none if it is refused -/
  limiter : PcmBlock F → F → UInt32 → F → V1LinkedStereoBlockLimiterState F →
    Option (PcmBlock F × V1LinkedStereoBlockLimiterState F)

/-! ## The session -/

/-- Where `Release` is called. -/
inductive ReleaseSite where
  | preflight | pause | rebind | finish
deriving DecidableEq, Repr

/-- An external call of a session and its answer.  The signaling calls keep
    the AVDTP source they were made from. -/
inductive PcmCall where
  | prepare (ok : Bool)
  | release (site : ReleaseSite) (ok : Bool)
  | openSignaling (ok : Bool)
  | closeSignaling (ok : Bool)
  /-- a packet sent, and the packet received unless the exchange failed -/
  | exchange (source : AvdtpSource) (sent : List UInt8) (reply : Option (List UInt8))
  | peerPacket (source : AvdtpSource) (packet : List UInt8)
  | peerResponse (source : AvdtpSource) (packet : List UInt8) (ok : Bool)
  | writeMedia (packet : List UInt8) (ok : Bool)
deriving DecidableEq, Repr

structure PcmSession (F H Ω : Type) [FloatArith F] where
  world : Ω
  calls : List PcmCall
  result : V1TransportPcmResult F
  error : UInt32
  avdtp : AvdtpSource
  encoder : Option (LdacEncoder H)
  samplesPerFrame : UInt32
  lockedFormat : V1TransportPcmFormat F
  observedFormat : V1TransportPcmFormat F
  pcm : PcmBlock F
  sequence : UInt16
  timestamp : UInt32
  transportFramesSent : UInt64
  usePreflightBlock : Bool
  gracefulStop : Bool
  transportSuspendedForPause : Bool
  forcePostStartPcmRebind : Bool
  resumeFadeActive : Bool
  resumeFadeFramesProcessed : UInt64
  resumeFadeTargetFrames : UInt64
  pcmTimeoutStreakMs : UInt64
  limiterState : V1LinkedStereoBlockLimiterState F
  fadeState : V1SentFrameFadeState
  pendingFadeBlocks : List V1SentFrameFadeBlock
  pendingFadeFrames : UInt64

section
variable {F H Ω α : Type} [FloatArith F]

/-- A call whose answer the session does not keep. -/
def ask (f : Ω → α × Ω) : Prog (PcmSession F H Ω) α :=
  .step fun s => ((f s.world).1, { s with world := (f s.world).2 })

/-- A call that the session keeps. -/
def askLogged (f : Ω → α × Ω) (call : AvdtpSource → α → PcmCall) : Prog (PcmSession F H Ω) α :=
  .step fun s => ((f s.world).1, { s with
    world := (f s.world).2
    calls := call s.avdtp (f s.world).1 :: s.calls })

/-- A call that reads and writes the error code of the session. -/
def askError (f : UInt32 → Ω → Answer × Ω) : Prog (PcmSession F H Ω) Bool :=
  .step fun s => ((f s.error s.world).1.ok, { s with
    world := (f s.error s.world).2
    error := (f s.error s.world).1.error })

def report (f : V1TransportPcmResult F → V1TransportPcmResult F) :
    Prog (PcmSession F H Ω) Unit :=
  .update fun s => { s with result := f s.result }

variable (env : PcmEnvironment F H Ω)

def probeStop : Prog (PcmSession F H Ω) V1TransportPcmStopDisposition :=
  match env.host.stopProbe with
  | none => pure .none
  | some probe => ask probe

def stopIsCancel : Prog (PcmSession F H Ω) Bool := do
  let stop ← probeStop env
  return stop = .cancel

def waitForExplicitStop (fuel : Nat) (timeoutMs : UInt32) :
    Prog (PcmSession F H Ω) V1TransportPcmStopDisposition := do
  let stop ← probeStop env
  if stop ≠ .none ∨ timeoutMs = 0 then
    return stop
  let start ← ask env.host.now
  let deadline := start + timeoutMs.toNat * 1000000
  Prog.loop fuel do
    ask fun world => ((), env.host.sleepForMs 10 world)
    let stop ← probeStop env
    if stop ≠ .none then
      return some stop
    let now ← ask env.host.now
    if now < deadline then
      return none
    return some .none

def setFailure (disposition : V1TransportConfigurationDisposition)
    (stage : V1TransportSilenceStage) : Prog (PcmSession F H Ω) Unit :=
  report fun r => { r with
    primaryDisposition := disposition
    disposition := disposition
    stage := stage }

/-- `SetFailure` at the stage reached. -/
def setFailureHere (disposition : V1TransportConfigurationDisposition) :
    Prog (PcmSession F H Ω) Unit :=
  report fun r => { r with primaryDisposition := disposition, disposition := disposition }

def backendFailure (error : UInt32) (stage : V1TransportSilenceStage) :
    Prog (PcmSession F H Ω) Unit := do
  report fun r => { r with backendError := error }
  setFailure .backendFailure stage

def protocolFailure (protocolError : Int) (stage : V1TransportSilenceStage) :
    Prog (PcmSession F H Ω) Unit := do
  report fun r => { r with protocolError := protocolError }
  setFailure .protocolFailure stage

def updateDurationTelemetry (r : V1TransportPcmResult F) : V1TransportPcmResult F :=
  if r.pcmFormat.sampleRateHz = 0 then r
  else
    let actualDurationMs := r.pcmFramesSent * 1000 / r.pcmFormat.sampleRateHz.toUInt64
    let targetFrames := r.pcmFormat.sampleRateHz.toUInt64 * r.targetDurationMs.toUInt64 / 1000
    { r with
      actualDurationMs := (min actualDurationMs 0xFFFFFFFF).toUInt32
      completedFullDuration := r.targetDurationMs ≠ 0 && targetFrames ≤ r.pcmFramesSent }

/-- A call of `Release`. -/
def releaseSource (site : ReleaseSite) (error : UInt32) : Prog (PcmSession F H Ω) Answer :=
  askLogged (env.source.release error) fun _ answer => .release site answer.ok

def closeSignalingOnce : Prog (PcmSession F H Ω) Unit := do
  report fun r => { r with closeAttempted := true }
  let answer ← askLogged (env.backend.closeSignaling 0) fun _ answer => .closeSignaling answer.ok
  report fun r => { r with closeSucceeded := answer.ok, cleanupError := answer.error }
  Prog.onlyIf (answer.ok = false) <|
    report fun r => { r with disposition := .cleanupFailure, stage := .closeChannels }

def releaseHeldLease : Prog (PcmSession F H Ω) Unit := do
  let answer ← releaseSource env .finish 0
  report fun r => { r with consumerLeaseHeld := false }
  if answer.ok then
    report fun r => { r with consumerLeaseReleaseCount := r.consumerLeaseReleaseCount + 1 }
  else
    report fun r => { r with
      cleanupError := if r.cleanupError = 0 then answer.error else r.cleanupError
      disposition := .cleanupFailure
      stage := .releasePcm }

def finish : Prog (PcmSession F H Ω) Unit := do
  report updateDurationTelemetry
  let opened ← Prog.read (·.result.signalingOpened)
  Prog.onlyIf opened (closeSignalingOnce env)
  let held ← Prog.read (·.result.consumerLeaseHeld)
  Prog.onlyIf held (releaseHeldLease env)
  report fun r => { r with
    consumerLeaseReleased := r.consumerLeaseAcquired && !r.consumerLeaseHeld &&
      r.consumerLeaseAcquireCount = r.consumerLeaseReleaseCount }

end

end NativeLdac.Agent
