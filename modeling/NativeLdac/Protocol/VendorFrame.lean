/-
  Vendor frames: what `avrcp_write_vendor_frame` writes and `avrcp_parse_vendor_frame` reads.

  * `parseVendorFrame_written`: a written frame is read back as what was written;
  * `written_of_parseVendorFrame`: a packet that is accepted is a written frame, and zeros.
-/
import Mathlib.Tactic.SplitIfs
import NativeLdac.Protocol.Avrcp

namespace NativeLdac.Protocol

/-- The header of a vendor frame, for the bit that tells responses from commands. -/
def avrcpVendorHeader (transactionLabel : UInt8) (response : Bool) : UInt8 :=
  (transactionLabel <<< 4) ||| (if response then 0x02 else 0)

/-- The thirteen bytes before the parameters. -/
def avrcpVendorPrefix (header0 ctype pduId : UInt8) (parametersSize : Nat) : List UInt8 :=
  [header0, 0x11, 0x0E, ctype, 0x48, avrcpOpcodeVendorDependent, 0x00, 0x19, 0x58, pduId, 0,
    UInt8.ofNat (parametersSize / 256), UInt8.ofNat parametersSize]

/-- The frame that a vendor frame is read back as, in a packet with `operandsSize` bytes of
    operands. -/
def avrcpVendorFrameRead (label ctype : UInt8) (response : Bool) (operandsSize : Nat) :
    AvrcpFrame where
  transactionLabel := label
  packetType := avctpPacketSingle
  commandResponse := if response then 1 else 0
  invalidProfileId := 0
  profileId := avrcpProfileId
  ctypeOrResponse := ctype
  subunitType := avrcpPanelSubunitType
  subunitId := avrcpPanelSubunitId
  opcode := avrcpOpcodeVendorDependent
  operandsOffset := 6
  operandsSize := operandsSize

/-! ## Bits and bytes -/

theorem label_cases {label : UInt8} (h : label ≤ 0x0F) :
    ∃ n : Fin 16, label = UInt8.ofNat n.val := by
  refine ⟨⟨label.toNat, Nat.lt_succ_of_le (UInt8.le_iff_toNat_le.mp h)⟩, ?_⟩
  simp

theorem byte_cases (byte : UInt8) : ∃ n : Fin 256, byte = UInt8.ofNat n.val :=
  ⟨⟨byte.toNat, byte.toNat_lt⟩, by simp⟩

theorem header_bits {label : UInt8} (h : label ≤ 0x0F) (response : Bool) :
    avrcpVendorHeader label response >>> 4 = label ∧
      (avrcpVendorHeader label response >>> 2) &&& 0x03 = 0 ∧
      (avrcpVendorHeader label response >>> 1) &&& 0x01 = (if response then 1 else 0) ∧
      avrcpVendorHeader label response &&& 0x01 = 0 ∧
      avrcpVendorHeader label response &&& 0x0D = 0 := by
  obtain ⟨n, rfl⟩ := label_cases h
  revert n
  cases response <;> decide

theorem header_eq {header : UInt8} (hsingle : (header >>> 2) &&& 0x03 = 0)
    (hprofile : header &&& 0x01 = 0) :
    header = avrcpVendorHeader (header >>> 4) ((header >>> 1) &&& 0x01 ≠ 0) := by
  obtain ⟨n, rfl⟩ := byte_cases header
  revert n
  decide +kernel

theorem ctype_bits {ctype : UInt8} (h : ctype ≤ 0x0F) : ctype &&& 0x0F = ctype ∧ ctype &&& 0xF0 = 0 := by
  obtain ⟨n, rfl⟩ := label_cases h
  revert n
  decide

theorem ctype_eq {byte : UInt8} (h : byte &&& 0xF0 = 0) : byte &&& 0x0F = byte := by
  obtain ⟨n, rfl⟩ := byte_cases byte
  revert n
  decide +kernel

theorem subunit_eq {byte : UInt8} (htype : byte >>> 3 = avrcpPanelSubunitType)
    (hid : byte &&& 0x07 = avrcpPanelSubunitId) : byte = 0x48 := by
  obtain ⟨n, rfl⟩ := byte_cases byte
  revert n
  decide +kernel

theorem pduPacketType_eq {byte : UInt8} (hhigh : byte &&& 0xFC = 0) (hlow : byte &&& 0x03 = 0) :
    byte = 0 := by
  obtain ⟨n, rfl⟩ := byte_cases byte
  revert n
  decide +kernel

theorem toNat_bigEndian16 (a b : UInt8) :
    ((a.toUInt16 <<< 8) ||| b.toUInt16).toNat = a.toNat * 256 + b.toNat := by
  have ha := a.toNat_lt
  have hb := b.toNat_lt
  have hor := Nat.shiftLeft_add_eq_or_of_lt (i := 8) (b := b.toNat) (by omega) a.toNat
  simp only [UInt16.toNat_or, UInt16.toNat_shiftLeft, UInt8.toNat_toUInt16, Nat.shiftLeft_eq,
    UInt16.reduceToNat, Nat.reduceMod, Nat.reducePow] at *
  rw [Nat.mod_eq_of_lt (by omega), ← hor]

theorem toNat_bigEndian24 (a b c : UInt8) :
    ((a.toUInt32 <<< 16) ||| (b.toUInt32 <<< 8) ||| c.toUInt32).toNat =
      a.toNat * 65536 + b.toNat * 256 + c.toNat := by
  have ha := a.toNat_lt
  have hb := b.toNat_lt
  have hc := c.toNat_lt
  have h₁ := Nat.shiftLeft_add_eq_or_of_lt (i := 16) (b := b.toNat * 256) (by omega) a.toNat
  have h₂ := Nat.shiftLeft_add_eq_or_of_lt (i := 8) (b := c.toNat) (by omega)
    (a.toNat * 256 + b.toNat)
  simp only [UInt32.toNat_or, UInt32.toNat_shiftLeft, UInt8.toNat_toUInt32, Nat.shiftLeft_eq,
    UInt32.reduceToNat, Nat.reduceMod, Nat.reducePow, Nat.add_mul, Nat.mul_assoc,
    Nat.reduceMul] at *
  rw [Nat.mod_eq_of_lt (by omega), Nat.mod_eq_of_lt (by omega), ← h₁, ← h₂]

theorem profileId_bytes {a b : UInt8} (h : (a.toUInt16 <<< 8) ||| b.toUInt16 = avrcpProfileId) :
    a = 0x11 ∧ b = 0x0E := by
  have ha := a.toNat_lt
  have hb := b.toNat_lt
  have hid := toNat_bigEndian16 a b
  have hv : avrcpProfileId.toNat = 4366 := rfl
  rw [h, hv] at hid
  simp only [← UInt8.toNat_inj, UInt8.reduceToNat]
  omega

theorem companyId_bytes {a b c : UInt8}
    (h : (a.toUInt32 <<< 16) ||| (b.toUInt32 <<< 8) ||| c.toUInt32 = avrcpCompanyIdBluetoothSig) :
    a = 0x00 ∧ b = 0x19 ∧ c = 0x58 := by
  have ha := a.toNat_lt
  have hb := b.toNat_lt
  have hc := c.toNat_lt
  have hid := toNat_bigEndian24 a b c
  have hv : avrcpCompanyIdBluetoothSig.toNat = 6488 := rfl
  rw [h, hv] at hid
  simp only [← UInt8.toNat_inj, UInt8.reduceToNat]
  omega

/-! ## What is written -/

section
variable {outSize : Nat} {label ctype : UInt8} (hl : label ≤ 0x0F) (response : Bool) (pduId : UInt8)
  {parameters : List UInt8} (hp : parameters.length ≤ 0xFFFF)
include hl

theorem writeVendorFrame_eq (hp : parameters.length ≤ 0xFFFF)
    (hfits : 13 + parameters.length ≤ outSize) :
    avrcpWriteVendorFrame outSize (avrcpVendorHeader label response) ctype pduId parameters =
      avrcpVendorPrefix (avrcpVendorHeader label response) ctype pduId parameters.length ++
        parameters := by
  have hroom : ¬ (avrcpVendorHeader label response &&& 0x0D ≠ 0 ∨ parameters.length > 0xFFFF ∨
      outSize < 13 + parameters.length) := by
    rintro (h | h | h)
    · exact h (header_bits hl response).2.2.2.2
    · omega
    · omega
  rw [avrcpWriteVendorFrame, if_neg hroom]
  rfl

theorem parseFrame_prefix (hc : ctype ≤ 0x0F) (size : Nat) (rest : List UInt8) :
    avrcpParseFrame
        (avrcpVendorPrefix (avrcpVendorHeader label response) ctype pduId size ++ rest) =
      .ok (avrcpVendorFrameRead label ctype response (rest.length + 7)) := by
  obtain ⟨h₄, h₂, h₁, h₀, -⟩ := header_bits hl response
  obtain ⟨hlow, hhigh⟩ := ctype_bits hc
  simp only [avrcpParseFrame, avrcpVendorPrefix, byteAt, List.cons_append, List.nil_append,
    List.length_cons, List.getD_cons_zero, List.getD_cons_succ, h₄, h₂, h₁, h₀, hlow, hhigh]
  rw [if_neg (by omega), if_neg (by decide), if_neg (by decide), if_neg (by decide)]
  rfl

theorem parseVendorFrame_prefix (hc : ctype ≤ 0x0F) {size : Nat} (hsize : size ≤ 0xFFFF)
    {rest : List UInt8} (hrest : size ≤ rest.length) (hpadded : avrcpPadded rest size) :
    avrcpParseVendorFrame
        (avrcpVendorPrefix (avrcpVendorHeader label response) ctype pduId size ++ rest) =
      .ok
        { frame := avrcpVendorFrameRead label ctype response (rest.length + 7)
          companyId := avrcpCompanyIdBluetoothSig
          pduId := pduId
          pduPacketType := 0
          parametersOffset := 13
          parametersSize := size } := by
  have hbytes : (UInt8.ofNat (size / 256)).toNat * 256 + (UInt8.ofNat size).toNat = size := by
    rw [UInt8.toNat_ofNat', UInt8.toNat_ofNat']
    omega
  rw [avrcpParseVendorFrame, parseFrame_prefix hl response pduId hc]
  simp only [avrcpVendorPrefix, byteAt, List.cons_append, List.nil_append, List.length_cons,
    List.getD_cons_zero, List.getD_cons_succ, hbytes]
  rw [if_neg (by simp [avrcpVendorFrameRead]), if_neg (by simp [avrcpVendorFrameRead]),
    if_neg (by decide), if_neg (by omega), if_neg]
  · rfl
  · rw [not_not, avrcpPadded, Nat.add_comm 13]
    exact hpadded

end

variable {packet : List UInt8}

theorem padded_end {n : Nat} (h : packet.length ≤ n) :
    avrcpPadded packet n := by
  rw [avrcpPadded, List.drop_eq_nil_of_le h]
  rfl

theorem parseVendorFrame_written {outSize : Nat} {label ctype : UInt8} (hl : label ≤ 0x0F)
    (hc : ctype ≤ 0x0F) (response : Bool) (pduId : UInt8) {parameters : List UInt8}
    (hp : parameters.length ≤ 0xFFFF) (hfits : 13 + parameters.length ≤ outSize) :
    ∃ vendor, avrcpParseVendorFrame (avrcpWriteVendorFrame outSize
        (avrcpVendorHeader label response) ctype pduId parameters) = .ok vendor ∧
      vendor.frame = avrcpVendorFrameRead label ctype response (parameters.length + 7) ∧
      vendor.pduId = pduId ∧
      vendor.parameters (avrcpWriteVendorFrame outSize (avrcpVendorHeader label response) ctype
        pduId parameters) = parameters := by
  rw [writeVendorFrame_eq hl response pduId hp hfits,
    parseVendorFrame_prefix hl response pduId hc hp (Nat.le_refl _) (padded_end (Nat.le_refl _))]
  exact ⟨_, rfl, rfl, rfl, by simp [AvrcpVendorFrame.parameters, avrcpVendorPrefix]⟩

/-! ## What is accepted -/

theorem take_header (h : 13 ≤ packet.length) :
    packet.take 13 = (List.range 13).map (byteAt packet) := by
  refine List.ext_getElem (by simp [h]) fun index hindex _ => ?_
  have hlt : index < packet.length := by
    rw [List.length_take] at hindex
    omega
  simp [byteAt, List.getD_eq_getElem?_getD, hlt]

theorem eq_replicate_of_padded {n : Nat} (h : avrcpPadded packet n) :
    packet.drop n = List.replicate (packet.length - n) 0 := by
  rw [List.eq_replicate_iff]
  refine ⟨by simp, fun byte hbyte => ?_⟩
  simpa using List.all_eq_true.mp h byte hbyte

theorem parseFrame_ok {frame : AvrcpFrame} (h : avrcpParseFrame packet = .ok frame) :
    byteAt packet 0 = avrcpVendorHeader frame.transactionLabel (frame.commandResponse ≠ 0) ∧
      byteAt packet 1 = 0x11 ∧ byteAt packet 2 = 0x0E ∧ byteAt packet 3 = frame.ctypeOrResponse ∧
      byteAt packet 4 = 0x48 ∧ byteAt packet 5 = frame.opcode ∧
      frame.operandsSize = packet.length - 6 := by
  simp only [avrcpParseFrame] at h
  split_ifs at h with _ hsingle hprofile hsubunit
  cases h
  simp only [not_or, not_not] at hsingle hprofile hsubunit
  obtain ⟨hinvalid, hid, hctype⟩ := hprofile
  obtain ⟨h₁, h₂⟩ := profileId_bytes hid
  exact ⟨header_eq hsingle hinvalid, h₁, h₂, (ctype_eq hctype).symm,
    subunit_eq hsubunit.1 hsubunit.2, rfl, rfl⟩

theorem parseVendorFrame_ok {vendor : AvrcpVendorFrame}
    (h : avrcpParseVendorFrame packet = .ok vendor) :
    packet.take 13 = avrcpVendorPrefix
        (avrcpVendorHeader vendor.frame.transactionLabel (vendor.frame.commandResponse ≠ 0))
        vendor.frame.ctypeOrResponse vendor.pduId vendor.parametersSize ∧
      13 + vendor.parametersSize ≤ packet.length ∧ vendor.parametersSize ≤ 0xFFFF ∧
      vendor.parametersOffset = 13 ∧ avrcpPadded packet (13 + vendor.parametersSize) := by
  obtain ⟨hframe, hopcode⟩ := parseVendorFrame_frame h
  have hlength := (parseFrame_fields hframe).1
  obtain ⟨h₀, h₁, h₂, h₃, h₄, h₅, hoperands⟩ := parseFrame_ok hframe
  rw [avrcpParseVendorFrame, hframe] at h
  dsimp only at h
  rw [if_neg (not_not_intro hopcode)] at h
  split_ifs at h with hshort hheader hroom hpadded
  simp only [not_or, not_not] at hheader hpadded
  obtain ⟨hcompany, hhigh, hlow⟩ := hheader
  obtain ⟨h₆, h₇, h₈⟩ := companyId_bytes hcompany
  have h₁₀ := pduPacketType_eq hhigh hlow
  have h₁₁ := (byteAt packet 11).toNat_lt
  have h₁₂ := (byteAt packet 12).toNat_lt
  have hthirteen : 13 ≤ packet.length := by omega
  generalize hvendor : vendor.frame = frame at h h₀ h₁ h₂ h₃ h₄ h₅ hoperands hopcode ⊢
  cases h
  dsimp only at hroom hpadded ⊢
  refine ⟨?_, by omega, by omega, rfl, hpadded⟩
  have hsize : UInt8.ofNat (((byteAt packet 11).toNat * 256 + (byteAt packet 12).toNat) / 256) =
        byteAt packet 11 ∧
      UInt8.ofNat ((byteAt packet 11).toNat * 256 + (byteAt packet 12).toNat) = byteAt packet 12 := by
    simp only [← UInt8.toNat_inj, UInt8.toNat_ofNat']
    omega
  rw [take_header hthirteen, avrcpVendorPrefix, hsize.1, hsize.2, ← h₀, ← h₃, ← hopcode, ← h₅]
  simp [List.range_succ, h₁, h₂, h₄, h₆, h₇, h₈, h₁₀]

theorem written_of_parseVendorFrame {vendor : AvrcpVendorFrame}
    (h : avrcpParseVendorFrame packet = .ok vendor) {outSize : Nat}
    (hfits : 13 + vendor.parametersSize ≤ outSize) :
    ∃ padding, packet = avrcpWriteVendorFrame outSize
      (avrcpVendorHeader vendor.frame.transactionLabel (vendor.frame.commandResponse ≠ 0))
      vendor.frame.ctypeOrResponse vendor.pduId (vendor.parameters packet) ++
        List.replicate padding 0 := by
  obtain ⟨hvendor, hlength, hsize, hoffset, hpadded⟩ := parseVendorFrame_ok h
  have hlabel := (parseFrame_fields (parseVendorFrame_frame h).1).2.1
  have hparameters : (vendor.parameters packet).length = vendor.parametersSize := by
    rw [AvrcpVendorFrame.parameters, hoffset, List.length_take, List.length_drop]
    omega
  refine ⟨packet.length - (13 + vendor.parametersSize), ?_⟩
  rw [writeVendorFrame_eq hlabel _ _ (hparameters ▸ hsize) (hparameters ▸ hfits), hparameters,
    ← hvendor, ← eq_replicate_of_padded hpadded, AvrcpVendorFrame.parameters, hoffset,
    ← List.drop_drop, List.append_assoc, List.take_append_drop, List.take_append_drop]

/-- **Writing and parsing vendor frames are inverse.** -/
theorem vendorFrame_inverse :
    (∀ outSize label ctype response pduId parameters, label ≤ 0x0F → ctype ≤ 0x0F →
      parameters.length ≤ 0xFFFF → 13 + parameters.length ≤ outSize →
      ∃ vendor, avrcpParseVendorFrame (avrcpWriteVendorFrame outSize
          (avrcpVendorHeader label response) ctype pduId parameters) = .ok vendor ∧
        vendor.frame.transactionLabel = label ∧
        vendor.frame.commandResponse = (if response then 1 else 0) ∧
        vendor.frame.ctypeOrResponse = ctype ∧ vendor.pduId = pduId ∧
        vendor.parameters (avrcpWriteVendorFrame outSize (avrcpVendorHeader label response) ctype
          pduId parameters) = parameters) ∧
    ∀ packet vendor, avrcpParseVendorFrame packet = .ok vendor →
      ∀ outSize, 13 + vendor.parametersSize ≤ outSize →
        ∃ padding, packet = avrcpWriteVendorFrame outSize
          (avrcpVendorHeader vendor.frame.transactionLabel (vendor.frame.commandResponse ≠ 0))
          vendor.frame.ctypeOrResponse vendor.pduId (vendor.parameters packet) ++
            List.replicate padding 0 := by
  constructor
  · intro outSize label ctype response pduId parameters hl hc hp hfits
    obtain ⟨vendor, hparse, hframe, hpdu, hparameters⟩ :=
      parseVendorFrame_written hl hc response pduId hp hfits
    refine ⟨vendor, hparse, ?_, ?_, ?_, hpdu, hparameters⟩ <;> rw [hframe] <;> rfl
  · intro packet vendor hparse outSize hfits
    exact written_of_parseVendorFrame hparse hfits

theorem parseVendorFrame_padded :
    avrcpParseVendorFrame
        [0x12, 0x11, 0x0E, 0x09, 0x48, 0, 0, 0x19, 0x58, 0x50, 0, 0, 1, 0x40, 0, 0] =
      .ok
        { frame := avrcpVendorFrameRead 1 avrcpResponseAccepted true 10
          companyId := avrcpCompanyIdBluetoothSig
          pduId := avrcpPduSetAbsoluteVolume
          pduPacketType := 0
          parametersOffset := 13
          parametersSize := 1 } := by
  decide

theorem vendorFrame_inverse_volume :
    (∃ vendor, avrcpParseVendorFrame (avrcpWriteVendorFrame 64 (avrcpVendorHeader 1 false)
          avrcpCtypeControl avrcpPduSetAbsoluteVolume [0x40]) = .ok vendor ∧
        vendor.frame.transactionLabel = 1 ∧
        vendor.frame.commandResponse = (if false then 1 else 0) ∧
        vendor.frame.ctypeOrResponse = avrcpCtypeControl ∧
        vendor.pduId = avrcpPduSetAbsoluteVolume ∧
        vendor.parameters (avrcpWriteVendorFrame 64 (avrcpVendorHeader 1 false) avrcpCtypeControl
          avrcpPduSetAbsoluteVolume [0x40]) = [0x40]) ∧
      ∃ padding, [0x12, 0x11, 0x0E, 0x09, 0x48, 0, 0, 0x19, 0x58, 0x50, 0, 0, 1, 0x40, 0, 0] =
        avrcpWriteVendorFrame 64 (avrcpVendorHeader 1 true) avrcpResponseAccepted
          avrcpPduSetAbsoluteVolume [0x40] ++ List.replicate padding 0 :=
  ⟨vendorFrame_inverse.1 64 1 avrcpCtypeControl false avrcpPduSetAbsoluteVolume [0x40] (by decide)
    (by decide) (by decide) (by decide),
    vendorFrame_inverse.2 _ _ parseVendorFrame_padded 64 (by decide)⟩

end NativeLdac.Protocol
