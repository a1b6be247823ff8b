/-
  The LDAC codec element of A2DP (`protocol/src/ldac_codec.c`): the vendor
  codec info, the search through a list of service capabilities, and the choice
  of one sample rate and one channel mode.

  Buffers are lists of bytes.  A function that writes an `out` parameter takes
  its old value and returns the new one; a failed search leaves it as it was.
-/
import Mathlib.Data.List.Basic

namespace NativeLdac.Protocol

/-! ## Constants -/

def ldacVendorId : UInt32 := 0x0000012D
def ldacCodecId : UInt16 := 0x00AA
def ldacCodecInfoSize : Nat := 8

def ldacSf44100 : UInt8 := 0x20
def ldacSf48000 : UInt8 := 0x10
def ldacSf88200 : UInt8 := 0x08
def ldacSf96000 : UInt8 := 0x04
def ldacSfAll : UInt8 := ldacSf44100 ||| ldacSf48000 ||| ldacSf88200 ||| ldacSf96000

def ldacCmStereo : UInt8 := 0x01
def ldacCmDual : UInt8 := 0x02
def ldacCmMono : UInt8 := 0x04
def ldacCmAll : UInt8 := ldacCmStereo ||| ldacCmDual ||| ldacCmMono

def avdtpServiceMediaTransport : UInt8 := 0x01
def avdtpServiceMediaCodec : UInt8 := 0x07
def avdtpMediaTypeAudio : UInt8 := 0x00
def avdtpCodecVendor : UInt8 := 0xFF

structure LdacCapabilities where
  sampleRates : UInt8
  channelModes : UInt8
deriving DecidableEq, Repr

structure LdacConfiguration where
  sampleRate : UInt8
  channelMode : UInt8
deriving DecidableEq, Repr

inductive LdacCodecStatus where
  | ok | invalidArgument | truncated | notFound | unsupported | noSpace
deriving DecidableEq, Repr

/-- The byte at `i`, for an index the code has checked. -/
def byteAt (bytes : List UInt8) (i : Nat) : UInt8 := bytes.getD i 0

/-! ## Choosing a configuration -/

def chooseSampleRate (rates : UInt8) (preferredHz : UInt32) : UInt8 :=
  let preferred : UInt8 :=
    if preferredHz = 44100 then ldacSf44100
    else if preferredHz = 48000 then ldacSf48000
    else if preferredHz = 88200 then ldacSf88200
    else if preferredHz = 96000 then ldacSf96000
    else 0
  if preferred ≠ 0 ∧ rates &&& preferred ≠ 0 then preferred
  else if rates &&& ldacSf96000 ≠ 0 then ldacSf96000
  else if rates &&& ldacSf88200 ≠ 0 then ldacSf88200
  else if rates &&& ldacSf48000 ≠ 0 then ldacSf48000
  else if rates &&& ldacSf44100 ≠ 0 then ldacSf44100
  else 0

def chooseChannelMode (modes : UInt8) : UInt8 :=
  if modes &&& ldacCmStereo ≠ 0 then ldacCmStereo
  else if modes &&& ldacCmDual ≠ 0 then ldacCmDual
  else if modes &&& ldacCmMono ≠ 0 then ldacCmMono
  else 0

def ldacChooseConfiguration (local_ remote : LdacCapabilities) (preferredSampleRateHz : UInt32) :
    LdacCodecStatus × LdacConfiguration :=
  let rates := local_.sampleRates &&& remote.sampleRates &&& ldacSfAll
  let modes := local_.channelModes &&& remote.channelModes &&& ldacCmAll
  let out : LdacConfiguration :=
    { sampleRate := chooseSampleRate rates preferredSampleRateHz
      channelMode := chooseChannelMode modes }
  if out.sampleRate = 0 ∨ out.channelMode = 0 then
    (.unsupported, { sampleRate := 0, channelMode := 0 })
  else (.ok, out)

def ldacSampleRateToHz (sampleRateBit : UInt8) : UInt32 :=
  if sampleRateBit = ldacSf44100 then 44100
  else if sampleRateBit = ldacSf48000 then 48000
  else if sampleRateBit = ldacSf88200 then 88200
  else if sampleRateBit = ldacSf96000 then 96000
  else 0

/-! ## The codec element -/

def ldacBuildCodecInfo (sampleRates channelModes : UInt8) : List UInt8 :=
  [0x2D, 0x01, 0x00, 0x00, 0xAA, 0x00, sampleRates, channelModes]

def ldacParseCodecInfo (info : List UInt8) (out : LdacCapabilities) :
    LdacCodecStatus × LdacCapabilities :=
  if info.length < ldacCodecInfoSize then (.truncated, out)
  else
    let vendorId : UInt32 := (byteAt info 0).toUInt32 ||| ((byteAt info 1).toUInt32 <<< 8) |||
      ((byteAt info 2).toUInt32 <<< 16) ||| ((byteAt info 3).toUInt32 <<< 24)
    let codecId : UInt16 := (byteAt info 4).toUInt16 ||| ((byteAt info 5).toUInt16 <<< 8)
    if vendorId ≠ ldacVendorId ∨ codecId ≠ ldacCodecId then (.notFound, out)
    else
      let out : LdacCapabilities :=
        { sampleRates := byteAt info 6 &&& ldacSfAll, channelModes := byteAt info 7 &&& ldacCmAll }
      if out.sampleRates = 0 ∨ out.channelModes = 0 then (.unsupported, out) else (.ok, out)

/-- One (category, length, item) triple of the list: a result that ends the
    search, or none. -/
def codecElement (category : UInt8) (item : List UInt8) (out : LdacCapabilities) :
    Option (LdacCodecStatus × LdacCapabilities) :=
  if category = avdtpServiceMediaCodec ∧ 2 ≤ item.length ∧
      byteAt item 0 >>> 4 = avdtpMediaTypeAudio ∧ byteAt item 1 = avdtpCodecVendor ∧
      2 + ldacCodecInfoSize ≤ item.length then
    let parsed := ldacParseCodecInfo (item.drop 2) out
    if parsed.1 = .ok ∨ parsed.1 = .unsupported then some parsed else none
  else none

/-- The search from an offset: the list is what is left.  Every round consumes
    two bytes at least, so the length of the list is enough fuel. -/
def findInServiceCapabilitiesFrom :
    Nat → List UInt8 → LdacCapabilities → LdacCodecStatus × LdacCapabilities
  | 0, _, out => (.notFound, out)
  | _ + 1, [], out => (.notFound, out)
  | _ + 1, [_], out => (.truncated, out)
  | fuel + 1, category :: size :: rest, out =>
    if rest.length < size.toNat then (.truncated, out)
    else match codecElement category (rest.take size.toNat) out with
      | some found => found
      | none => findInServiceCapabilitiesFrom fuel (rest.drop size.toNat) out

def ldacFindInServiceCapabilities (capabilities : List UInt8) (out : LdacCapabilities) :
    LdacCodecStatus × LdacCapabilities :=
  findInServiceCapabilitiesFrom (capabilities.length + 1) capabilities out

/-- The payload of SET_CONFIGURATION; empty if the arguments are refused. -/
def ldacBuildSetConfigurationPayload (remoteSeid localSeid : UInt8)
    (configuration : LdacConfiguration) : List UInt8 :=
  if remoteSeid = 0 ∨ remoteSeid > 0x3F ∨ localSeid = 0 ∨ localSeid > 0x3F ∨
      configuration.sampleRate = 0 ∨
      configuration.sampleRate &&& ldacSfAll ≠ configuration.sampleRate ∨
      configuration.sampleRate &&& (configuration.sampleRate - 1) ≠ 0 ∨
      configuration.channelMode = 0 ∨
      configuration.channelMode &&& ldacCmAll ≠ configuration.channelMode ∨
      configuration.channelMode &&& (configuration.channelMode - 1) ≠ 0 then []
  else
    [remoteSeid <<< 2, localSeid <<< 2, avdtpServiceMediaTransport, 0, avdtpServiceMediaCodec,
      (2 + ldacCodecInfoSize).toUInt8, avdtpMediaTypeAudio <<< 4, avdtpCodecVendor] ++
      ldacBuildCodecInfo configuration.sampleRate configuration.channelMode

end NativeLdac.Protocol
