/-
  The wrapper around the LDAC encoder library (`engine/src/ldac_encoder.c`).
  The library itself is a parameter: its calls act on a world `Ω` and on
  handles `H`, and may answer anything.
-/
import NativeLdac.Engine.FloatArith
import Mathlib.Tactic.SplitIfs

namespace NativeLdac.Engine

def ldacEncoderPcmFramesPerCall : Nat := 128
def ldacEncoderMaxOutputBytes : Nat := 1024
def ldacEncoderMinPayloadMtu : Nat := 679

inductive LdacEncoderQuality where
  | hq | sq | mq
deriving DecidableEq, Repr

inductive LdacEncoderChannelMode where
  | stereo | dual | mono
deriving DecidableEq, Repr

inductive LdacEncoderStatus where
  | ok | invalidArgument | noMemory | initializationFailed | encodingFailed | noSpace
  | invalidOutput | configurationFailed
deriving DecidableEq, Repr

def LdacEncoderStatus.code : LdacEncoderStatus → Int
  | .ok => 0
  | .invalidArgument => -1
  | .noMemory => -2
  | .initializationFailed => -3
  | .encodingFailed => -4
  | .noSpace => -5
  | .invalidOutput => -6
  | .configurationFailed => -7

/-- The answer of `ldacBT_encode`; `stream` is what it left in the output
    buffer. -/
structure LdacBtEncoded where
  result : Int
  pcmUsed : Int
  streamSize : Int
  frameCount : Int
  stream : List UInt8

/-- The calls of the encoder library. -/
structure LdacBt (F H Ω : Type) where
  allocate : Ω → Bool × Ω
  getHandle : Ω → Option H × Ω
  initHandleEncode : H → Nat → LdacEncoderQuality → LdacEncoderChannelMode → UInt32 → Ω → Int × Ω
  freeHandle : H → Ω → Ω
  getErrorCode : H → Ω → Int × Ω
  encode : H → PcmBlock F → Ω → LdacBtEncoded × Ω

structure LdacEncoder (H : Type) where
  handle : H
  encodedPayloadMtu : Nat
  quality : LdacEncoderQuality
  channelMode : LdacEncoderChannelMode
  sampleRateHz : UInt32
  lastError : Int

def supportedSampleRate (sampleRateHz : UInt32) : Bool :=
  sampleRateHz = 44100 || sampleRateHz = 48000 || sampleRateHz = 88200 || sampleRateHz = 96000

namespace LdacEncoder

variable {F H Ω : Type} (library : LdacBt F H Ω)

def createWithChannelMode (encodedPayloadMtu : Nat) (quality : LdacEncoderQuality)
    (sampleRateHz : UInt32) (channelMode : LdacEncoderChannelMode) (world : Ω) :
    (LdacEncoderStatus × Option (LdacEncoder H)) × Ω :=
  if encodedPayloadMtu < ldacEncoderMinPayloadMtu ∨ encodedPayloadMtu > 2147483647 ∨
      supportedSampleRate sampleRateHz = false then ((.invalidArgument, none), world)
  else
    let allocated := library.allocate world
    if allocated.1 = false then ((.noMemory, none), allocated.2)
    else
      match library.getHandle allocated.2 with
      | (none, world) => ((.noMemory, none), world)
      | (some handle, world) =>
        let initialized := library.initHandleEncode handle encodedPayloadMtu quality channelMode
          sampleRateHz world
        if initialized.1 ≠ 0 then
          ((.initializationFailed, none),
            library.freeHandle handle (library.getErrorCode handle initialized.2).2)
        else
          ((.ok, some
            { handle := handle
              encodedPayloadMtu := encodedPayloadMtu
              quality := quality
              channelMode := channelMode
              sampleRateHz := sampleRateHz
              lastError := 0 }), initialized.2)

def destroy (encoder : LdacEncoder H) (world : Ω) : Ω := library.freeHandle encoder.handle world

/-- The mean of the two channels of each frame. -/
def monoOf [FloatArith F] : PcmBlock F → List F
  | left :: right :: rest => (left + right) * 0.5 :: monoOf rest
  | _ => []

/-- What `ldac_encoder_encode_f32` writes for its caller. -/
structure Encoded where
  status : LdacEncoderStatus
  bytes : List UInt8
  transportFrameCount : UInt8

/-- `ldac_encoder_encode_f32`, for a block of 128 frames and an output buffer
    of 1024 bytes. -/
def encodeF32 [FloatArith F] (encoder : LdacEncoder H) (pcm : PcmBlock F) (world : Ω) :
    Encoded × LdacEncoder H × Ω :=
  let pcm := if encoder.channelMode = .mono then monoOf pcm else pcm
  let expectedPcmBytes : Int :=
    ldacEncoderPcmFramesPerCall * (if encoder.channelMode = .mono then 1 else 2) * 4
  let encoded := library.encode encoder.handle pcm world
  if encoded.1.result ≠ 0 then
    let code := library.getErrorCode encoder.handle encoded.2
    (⟨.encodingFailed, [], 0⟩, { encoder with lastError := code.1 }, code.2)
  else if encoded.1.pcmUsed ≠ expectedPcmBytes ∨ encoded.1.streamSize < 0 ∨
      encoded.1.streamSize > ldacEncoderMaxOutputBytes ∨
      encoded.1.streamSize > encoder.encodedPayloadMtu ∨
      encoded.1.frameCount < 0 ∨ encoded.1.frameCount > 31 ∨
      ¬ (encoded.1.streamSize = 0 ↔ encoded.1.frameCount = 0) then
    (⟨.invalidOutput, [], 0⟩, encoder, encoded.2)
  else
    (⟨.ok, encoded.1.stream.takeD encoded.1.streamSize.toNat 0,
      encoded.1.frameCount.toNat.toUInt8⟩, encoder, encoded.2)

def samplesPerTransportFrame (encoder : LdacEncoder H) : UInt32 :=
  if encoder.sampleRateHz ≥ 88200 then 256 else 128

variable {library}

theorem sampleRateHz_of_create {mtu : Nat} {quality : LdacEncoderQuality} {rate : UInt32}
    {mode : LdacEncoderChannelMode} {world : Ω} {encoder : LdacEncoder H}
    (h : (createWithChannelMode library mtu quality rate mode world).1.2 = some encoder) :
    encoder.sampleRateHz = rate := by
  unfold createWithChannelMode at h
  split at h
  · cases h
  · dsimp only at h
    split at h
    · cases h
    · split at h
      · cases h
      · split at h
        · cases h
        · cases h
          rfl

theorem sampleRateHz_encodeF32 [FloatArith F] (encoder : LdacEncoder H) (pcm : PcmBlock F)
    (world : Ω) :
    (encodeF32 library encoder pcm world).2.1.sampleRateHz = encoder.sampleRateHz := by
  unfold encodeF32
  dsimp only
  split_ifs <;> rfl

end LdacEncoder

end NativeLdac.Engine
