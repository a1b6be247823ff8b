/-
  Unfragmented LDAC packets over RTP (`protocol/src/rtp_ldac.c`), and how a
  receiver reads them: the sequence number, the timestamp and the frame count
  that were written are read back (`RtpPacket`).
-/
import NativeLdac.Protocol.LdacCodec
import Mathlib.Tactic.SplitIfs

namespace NativeLdac.Protocol

/-! ## Building -/

def rtpFixedHeaderSize : Nat := 12
def ldacMediaHeaderSize : Nat := 1
def ldacRtpOverhead : Nat := rtpFixedHeaderSize + ldacMediaHeaderSize
def ldacRtpDefaultPayloadType : UInt8 := 96
def ldacRtpMaxFrameCount : UInt8 := 31

inductive LdacRtpStatus where
  | ok | invalidArgument | noSpace | mtuExceeded
deriving DecidableEq, Repr

def writeU16Be (value : UInt16) : List UInt8 := [(value >>> 8).toUInt8, value.toUInt8]

def writeU32Be (value : UInt32) : List UInt8 :=
  [(value >>> 24).toUInt8, (value >>> 16).toUInt8, (value >>> 8).toUInt8, value.toUInt8]

/-- A packet for a buffer of `outSize` bytes. -/
def ldacRtpBuildUnfragmented (outSize l2capMtu : Nat) (sequenceNumber : UInt16)
    (timestamp ssrc : UInt32) (frameCount : UInt8) (encodedFrames : List UInt8) :
    LdacRtpStatus × List UInt8 :=
  if encodedFrames.length = 0 ∨ frameCount = 0 ∨ frameCount > ldacRtpMaxFrameCount then
    (.invalidArgument, [])
  else
    let required := ldacRtpOverhead + encodedFrames.length
    if required > l2capMtu then (.mtuExceeded, [])
    else if required > outSize then (.noSpace, [])
    else (.ok, [0x80, ldacRtpDefaultPayloadType] ++ writeU16Be sequenceNumber ++
      writeU32Be timestamp ++ writeU32Be ssrc ++ [frameCount] ++ encodedFrames)

/-! ## Reading -/

/-- The number whose base-256 digits are the bytes, the first one leading. -/
def readBe (bytes : List UInt8) : Nat := bytes.foldl (fun n b => 256 * n + b.toNat) 0

namespace RtpPacket

def sequenceNumber (packet : List UInt8) : Nat := readBe ((packet.drop 2).take 2)

def timestamp (packet : List UInt8) : Nat := readBe ((packet.drop 4).take 4)

/-- The number of LDAC frames, from the media payload header. -/
def frameCount (packet : List UInt8) : Nat := (byteAt packet 12).toNat

end RtpPacket

theorem readBe_writeU16Be (value : UInt16) : readBe (writeU16Be value) = value.toNat := by
  have := value.toNat_lt
  simp [readBe, writeU16Be, Nat.shiftRight_eq_div_pow]
  omega

theorem readBe_writeU32Be (value : UInt32) : readBe (writeU32Be value) = value.toNat := by
  have := value.toNat_lt
  simp [readBe, writeU32Be, Nat.shiftRight_eq_div_pow]
  omega

theorem RtpPacket.read_build {outSize l2capMtu : Nat} {sequenceNumber : UInt16}
    {timestamp ssrc : UInt32} {frameCount : UInt8} {encodedFrames : List UInt8}
    (h : (ldacRtpBuildUnfragmented outSize l2capMtu sequenceNumber timestamp ssrc frameCount
      encodedFrames).1 = .ok) :
    let packet := (ldacRtpBuildUnfragmented outSize l2capMtu sequenceNumber timestamp ssrc
      frameCount encodedFrames).2
    RtpPacket.sequenceNumber packet = sequenceNumber.toNat ∧
      RtpPacket.timestamp packet = timestamp.toNat ∧
      RtpPacket.frameCount packet = frameCount.toNat := by
  unfold ldacRtpBuildUnfragmented at h ⊢
  dsimp only at h ⊢
  split_ifs at h ⊢
  exact ⟨readBe_writeU16Be sequenceNumber, readBe_writeU32Be timestamp, rfl⟩

end NativeLdac.Protocol
