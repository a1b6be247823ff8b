/-
  The fade-in of a session (`agent/v1_sent_frame_fade_envelope.cpp`): a block
  is faded by the number of frames sent before it, and counts as sent only once
  it is committed.
-/
import NativeLdac.Engine.FloatArith

namespace NativeLdac.Agent

open Engine Engine.FloatArith

def v1SentFrameFadeMaximumFrames : Nat := 128

def v1SentFrameFadeMaximumDurationMs {F : Type} [FloatArith F] : F := 1000.0

structure V1SentFrameFadeState where
  sessionGeneration : UInt64 := 0
  committedSentFrames : UInt64 := 0
  revision : UInt64 := 0
  active : Bool := false
deriving DecidableEq, Repr

structure V1SentFrameFadeBlock where
  sessionGeneration : UInt64
  startingSentFrame : UInt64
  revision : UInt64
  frameCount : UInt32
deriving DecidableEq, Repr

structure V1SentFrameFadeTelemetry (F : Type) where
  startingSentFrame : UInt64
  fadeDurationFrames : UInt64
  minimumGain : F
  lastGain : F
  framesBelowUnity : UInt64
  sanitizedSampleCount : UInt64

def uint64Max : UInt64 := 0xFFFFFFFFFFFFFFFF

def nextRevision (revision : UInt64) : UInt64 :=
  if revision = uint64Max then 1 else revision + 1

/-- `BeginV1SentFrameFadeSession`; none if it is refused. -/
def V1SentFrameFadeState.beginSession (state : V1SentFrameFadeState) (sessionGeneration : UInt64) :
    Option V1SentFrameFadeState :=
  if sessionGeneration = 0 then none
  else some
    { sessionGeneration := sessionGeneration
      committedSentFrames := 0
      revision := nextRevision state.revision
      active := true }

/-- `EndV1SentFrameFadeSession` -/
def V1SentFrameFadeState.endSession (state : V1SentFrameFadeState) : V1SentFrameFadeState :=
  { state with revision := nextRevision state.revision, active := false }

section
variable {F : Type} [FloatArith F]

/-- The gain of a frame of the session. -/
def fadeGain (durationFrames absoluteFrame : UInt64) : F :=
  if absoluteFrame ≥ durationFrames then 1.0
  else ofNat (absoluteFrame + 1).toNat / ofNat durationFrames.toNat

def fadeSample (gain source : F) : F := (if isFinite source then source else 0.0) * gain

/-- The frames of a block from frame `absoluteFrame` of the session on: the
    faded samples and the telemetry. -/
def fadeFrames (durationFrames : UInt64) :
    UInt64 → PcmBlock F → V1SentFrameFadeTelemetry F → PcmBlock F × V1SentFrameFadeTelemetry F
  | absoluteFrame, left :: right :: rest, telemetry =>
    let gain := fadeGain durationFrames absoluteFrame
    let telemetry := { telemetry with
      minimumGain := fmin telemetry.minimumGain gain
      lastGain := gain
      framesBelowUnity := telemetry.framesBelowUnity + (if gain < 1.0 then 1 else 0)
      sanitizedSampleCount := telemetry.sanitizedSampleCount +
        (if isFinite left then 0 else 1) + (if isFinite right then 0 else 1) }
    let faded := fadeFrames durationFrames (absoluteFrame + 1) rest telemetry
    (fadeSample gain left :: fadeSample gain right :: faded.1, faded.2)
  | _, _, telemetry => ([], telemetry)

/-- `PrepareV1SentFrameFadeBlock`; none if it is refused. -/
def V1SentFrameFadeState.prepareBlock (state : V1SentFrameFadeState) (source : PcmBlock F)
    (frameCount : Nat) (sampleRateHz : UInt32) (fadeDurationMs : F) :
    Option (PcmBlock F × V1SentFrameFadeBlock × V1SentFrameFadeTelemetry F) :=
  let durationFramesValue : F := ceil (ofNat sampleRateHz.toNat * fadeDurationMs / 1000.0)
  if state.active = false ∨ state.sessionGeneration = 0 ∨ frameCount = 0 ∨
      frameCount > v1SentFrameFadeMaximumFrames ∨ sampleRateHz = 0 ∨
      isFinite fadeDurationMs = false ∨ fadeDurationMs ≤ 0.0 ∨
      fadeDurationMs > v1SentFrameFadeMaximumDurationMs ∨
      state.committedSentFrames > uint64Max - frameCount.toUInt64 ∨
      isFinite durationFramesValue = false ∨ durationFramesValue < 1.0 ∨
      durationFramesValue > ofNat uint64Max.toNat then none
  else
    let durationFrames := toUInt64 durationFramesValue
    let faded := fadeFrames durationFrames state.committedSentFrames source
      { startingSentFrame := state.committedSentFrames
        fadeDurationFrames := durationFrames
        minimumGain := 1.0
        lastGain := 1.0
        framesBelowUnity := 0
        sanitizedSampleCount := 0 }
    some (faded.1,
      { sessionGeneration := state.sessionGeneration
        startingSentFrame := state.committedSentFrames
        revision := state.revision
        frameCount := frameCount.toUInt32 }, faded.2)

end

/-- `CommitV1SentFrameFadeBlock`; none if it is refused. -/
def V1SentFrameFadeState.commitBlock (state : V1SentFrameFadeState) (block : V1SentFrameFadeBlock)
    (actualSentFrames : UInt32) : Option V1SentFrameFadeState :=
  if state.active = false ∨ block.sessionGeneration ≠ state.sessionGeneration ∨
      block.revision ≠ state.revision ∨ block.startingSentFrame ≠ state.committedSentFrames ∨
      block.frameCount = 0 ∨ block.frameCount.toNat > v1SentFrameFadeMaximumFrames ∨
      actualSentFrames ≠ block.frameCount ∨
      state.committedSentFrames > uint64Max - actualSentFrames.toUInt64 then none
  else some { state with
    committedSentFrames := state.committedSentFrames + actualSentFrames.toUInt64 }

end NativeLdac.Agent
