/-
  The search of `protocol/src/ldac_codec.c` over the buffer that it reads: the offsets of the
  loop, and every byte that it looks at.

  * `scanRound` is one round of the loop, and `scanFrom` the loop.  A read past the end of the
    buffer faults (`none`);
  * `scanFrom_eq`: the loop does not fault, and finds what the search over the rest of the list
    finds;
  * `scanRound_advances`: a round that goes on moves the offset, inside the buffer;
  * `ldacBuildSetConfigurationPayload_found`: the search finds what the configuration says.
-/
import NativeLdac.Protocol.ServiceCapabilities

namespace NativeLdac.Protocol

section
variable (bytes : List UInt8) (out : LdacCapabilities)

/-- `ldac_parse_codec_info` for the bytes of the buffer from an offset. -/
def parseCodecInfoAt (offset infoSize : Nat) : Option (LdacCodecStatus × LdacCapabilities) :=
  if infoSize < ldacCodecInfoSize then some (.truncated, out)
  else do
    let b₀ ← bytes[offset]?
    let b₁ ← bytes[offset + 1]?
    let b₂ ← bytes[offset + 2]?
    let b₃ ← bytes[offset + 3]?
    let b₄ ← bytes[offset + 4]?
    let b₅ ← bytes[offset + 5]?
    let vendorId : UInt32 := b₀.toUInt32 ||| (b₁.toUInt32 <<< 8) ||| (b₂.toUInt32 <<< 16) |||
      (b₃.toUInt32 <<< 24)
    let codecId : UInt16 := b₄.toUInt16 ||| (b₅.toUInt16 <<< 8)
    if vendorId ≠ ldacVendorId ∨ codecId ≠ ldacCodecId then some (.notFound, out)
    else do
      let b₆ ← bytes[offset + 6]?
      let b₇ ← bytes[offset + 7]?
      let out : LdacCapabilities :=
        { sampleRates := b₆ &&& ldacSfAll, channelModes := b₇ &&& ldacCmAll }
      if out.sampleRates = 0 ∨ out.channelModes = 0 then some (.unsupported, out)
      else some (.ok, out)

/-- What the loop makes of the item at an offset: a result that ends the search, or none. -/
def scanItem (category : UInt8) (offset itemSize : Nat) :
    Option (Option (LdacCodecStatus × LdacCapabilities)) :=
  if category = avdtpServiceMediaCodec ∧ 2 ≤ itemSize then do
    let first ← bytes[offset]?
    let codecType ← bytes[offset + 1]?
    if first >>> 4 = avdtpMediaTypeAudio ∧ codecType = avdtpCodecVendor ∧
        2 + ldacCodecInfoSize ≤ itemSize then do
      let parsed ← parseCodecInfoAt bytes out (offset + 2) (itemSize - 2)
      if parsed.1 = .ok ∨ parsed.1 = .unsupported then some (some parsed) else some none
    else some none
  else some none

/-- A round of the loop: the next offset, or the result. -/
def scanRound (offset : Nat) : Option (Nat ⊕ (LdacCodecStatus × LdacCapabilities)) :=
  if bytes.length - offset < 2 then some (.inr (.truncated, out))
  else do
    let category ← bytes[offset]?
    let itemSize ← bytes[offset + 1]?
    if itemSize.toNat > bytes.length - (offset + 2) then some (.inr (.truncated, out))
    else do
      match ← scanItem bytes out category (offset + 2) itemSize.toNat with
      | some found => some (.inr found)
      | none => some (.inl (offset + 2 + itemSize.toNat))

/-- The loop from an offset, for a number of rounds. -/
def scanFrom : Nat → Nat → Option (LdacCodecStatus × LdacCapabilities)
  | 0, _ => none
  | fuel + 1, offset =>
    if offset < bytes.length then
      match scanRound bytes out offset with
      | none => none
      | some (.inr found) => some found
      | some (.inl next) => scanFrom fuel next
    else some (.notFound, out)

end

/-! ## Reads -/

section
variable {bytes : List UInt8} {out : LdacCapabilities} {offset : Nat}

theorem getElem?_eq_byteAt {i : Nat} (h : i < bytes.length) :
    bytes[i]? = some (byteAt bytes i) := by
  rw [byteAt, List.getD_eq_getElem?_getD, List.getElem?_eq_getElem h]
  rfl

theorem byteAt_part {size i : Nat} (h : i < size) :
    byteAt ((bytes.drop offset).take size) i = byteAt bytes (offset + i) := by
  simp [byteAt, h]

theorem parseCodecInfoAt_eq {infoSize : Nat} (h : offset + infoSize ≤ bytes.length) :
    parseCodecInfoAt bytes out offset infoSize =
      some (ldacParseCodecInfo ((bytes.drop offset).take infoSize) out) := by
  have hlength : ((bytes.drop offset).take infoSize).length = infoSize := by
    rw [List.length_take, List.length_drop]
    omega
  unfold parseCodecInfoAt ldacParseCodecInfo
  rw [hlength]
  by_cases hshort : infoSize < ldacCodecInfoSize
  · rw [if_pos hshort, if_pos hshort]
  · rw [if_neg hshort, if_neg hshort]
    unfold ldacCodecInfoSize at hshort
    have hread : ∀ i < 8, bytes[offset + i]? =
        some (byteAt ((bytes.drop offset).take infoSize) i) := by
      intro i hi
      rw [byteAt_part (by omega)]
      exact getElem?_eq_byteAt (by omega)
    have hfirst := hread 0 (by omega)
    rw [Nat.add_zero] at hfirst
    simp only [hfirst, hread 1 (by omega), hread 2 (by omega), hread 3 (by omega),
      hread 4 (by omega), hread 5 (by omega), hread 6 (by omega), hread 7 (by omega),
      Option.bind_eq_bind, Option.bind_some]
    split_ifs <;> rfl

theorem scanItem_eq (category : UInt8) {itemSize : Nat} (h : offset + itemSize ≤ bytes.length) :
    scanItem bytes out category offset itemSize =
      some (codecElement category ((bytes.drop offset).take itemSize) out) := by
  have hlength : ((bytes.drop offset).take itemSize).length = itemSize := by
    rw [List.length_take, List.length_drop]
    omega
  unfold scanItem codecElement
  rw [hlength]
  by_cases hcategory : category = avdtpServiceMediaCodec ∧ 2 ≤ itemSize
  · rw [if_pos hcategory]
    obtain ⟨hcategory, hsize⟩ := hcategory
    have hfirst : bytes[offset]? = some (byteAt ((bytes.drop offset).take itemSize) 0) := by
      rw [byteAt_part (by omega)]
      exact getElem?_eq_byteAt (by omega)
    have hcodec : bytes[offset + 1]? = some (byteAt ((bytes.drop offset).take itemSize) 1) := by
      rw [byteAt_part (by omega)]
      exact getElem?_eq_byteAt (by omega)
    simp only [hfirst, hcodec, hcategory, hsize, Option.bind_eq_bind, Option.bind_some, true_and]
    have hpart : ((bytes.drop offset).take itemSize).drop 2 =
        (bytes.drop (offset + 2)).take (itemSize - 2) := by
      rw [List.drop_take, List.drop_drop]
    by_cases hvendor : byteAt ((bytes.drop offset).take itemSize) 0 >>> 4 = avdtpMediaTypeAudio ∧
        byteAt ((bytes.drop offset).take itemSize) 1 = avdtpCodecVendor ∧
        2 + ldacCodecInfoSize ≤ itemSize
    · rw [if_pos hvendor, if_pos hvendor, parseCodecInfoAt_eq (by omega), ← hpart,
        Option.bind_some]
      split_ifs <;> rfl
    · rw [if_neg hvendor, if_neg hvendor]
  · rw [if_neg hcategory, if_neg fun hall => hcategory ⟨hall.1, hall.2.1⟩]

theorem scanRound_cons {category size : UInt8} {rest : List UInt8}
    (h : bytes.drop offset = category :: size :: rest) :
    scanRound bytes out offset =
      if rest.length < size.toNat then some (.inr (.truncated, out))
      else match codecElement category (rest.take size.toNat) out with
        | some found => some (.inr found)
        | none => some (.inl (offset + 2 + size.toNat)) := by
  have hlength : bytes.length - offset = rest.length + 2 := by
    rw [← List.length_drop, h]
    rfl
  have hcategory : bytes[offset]? = some category := by
    rw [← List.head?_drop, h]
    rfl
  have hsize : bytes[offset + 1]? = some size := by
    rw [← List.getElem?_drop, h]
    rfl
  have hrest : bytes.drop (offset + 2) = rest := by
    rw [← List.drop_drop, h]
    rfl
  unfold scanRound
  rw [if_neg (by omega)]
  simp only [hcategory, hsize, Option.bind_eq_bind, Option.bind_some]
  by_cases hshort : rest.length < size.toNat
  · rw [if_pos (by omega), if_pos hshort]
  · rw [if_neg (by omega), if_neg hshort, scanItem_eq category (by omega), hrest, Option.bind_some]

theorem scanRound_advances {next : Nat} (h : scanRound bytes out offset = some (.inl next)) :
    offset + 2 ≤ next ∧ next ≤ bytes.length := by
  match hdrop : bytes.drop offset with
  | [] | [_] =>
    have hshort : bytes.length - offset < 2 := by
      rw [← List.length_drop, hdrop]
      simp
    rw [scanRound, if_pos hshort] at h
    cases h
  | category :: size :: rest =>
    have hlength : bytes.length - offset = rest.length + 2 := by
      rw [← List.length_drop, hdrop]
      rfl
    rw [scanRound_cons hdrop] at h
    split_ifs at h with hshort
    · cases h
    · split at h
      · cases h
      · cases h
        exact ⟨Nat.le_add_right _ _, by omega⟩

theorem scanFrom_eq {fuel : Nat} (h : bytes.length - offset < fuel) :
    scanFrom bytes out fuel offset =
      some (findInServiceCapabilitiesFrom fuel (bytes.drop offset) out) := by
  induction fuel generalizing offset with
  | zero => exact absurd h (Nat.not_lt_zero _)
  | succ fuel ih =>
    unfold scanFrom
    match hdrop : bytes.drop offset with
    | [] =>
      rw [if_neg (by rw [List.drop_eq_nil_iff] at hdrop; omega)]
      rfl
    | [b] =>
      have hlength : bytes.length - offset = 1 := by
        rw [← List.length_drop, hdrop]
        rfl
      rw [if_pos (by omega), scanRound, if_pos (by omega)]
      rfl
    | category :: size :: rest =>
      have hlength : bytes.length - offset = rest.length + 2 := by
        rw [← List.length_drop, hdrop]
        rfl
      have hrest : bytes.drop (offset + 2 + size.toNat) = rest.drop size.toNat := by
        rw [← List.drop_drop, ← List.drop_drop, hdrop]
        rfl
      rw [if_pos (by omega), scanRound_cons hdrop, findInServiceCapabilitiesFrom]
      by_cases hshort : rest.length < size.toNat
      · rw [if_pos hshort, if_pos hshort]
      · rw [if_neg hshort, if_neg hshort]
        cases codecElement category (rest.take size.toNat) out with
        | some found => rfl
        | none =>
          dsimp only
          rw [ih (by omega), hrest]

end

/-! ## The configuration -/

theorem ldacBuildSetConfigurationPayload_eq {remoteSeid localSeid : UInt8}
    {configuration : LdacConfiguration} (hremote : 0 < remoteSeid ∧ remoteSeid ≤ 0x3F)
    (hlocal : 0 < localSeid ∧ localSeid ≤ 0x3F)
    (hrate : configuration.sampleRate ∈ ldacSampleRateBits)
    (hmode : configuration.channelMode ∈ ldacChannelModeBits) :
    ldacBuildSetConfigurationPayload remoteSeid localSeid configuration =
      [remoteSeid <<< 2, localSeid <<< 2, avdtpServiceMediaTransport, 0, avdtpServiceMediaCodec,
        (2 + ldacCodecInfoSize).toUInt8, avdtpMediaTypeAudio <<< 4, avdtpCodecVendor] ++
        ldacBuildCodecInfo configuration.sampleRate configuration.channelMode := by
  obtain ⟨hr₁, hr₂, hr₃⟩ := rateBit_single hrate
  obtain ⟨hm₁, hm₂, hm₃⟩ := modeBit_single hmode
  unfold ldacBuildSetConfigurationPayload
  rw [if_neg]
  rintro (h | h | h | h | h | h | h | h | h | h)
  · exact absurd (h ▸ hremote.1) (by decide)
  · exact absurd h (UInt8.not_lt.mpr hremote.2)
  · exact absurd (h ▸ hlocal.1) (by decide)
  · exact absurd h (UInt8.not_lt.mpr hlocal.2)
  · exact hr₁ h
  · exact h hr₂
  · exact h hr₃
  · exact hm₁ h
  · exact h hm₂
  · exact h hm₃

/-- What the search returns for the first LDAC element of a list. -/
def LdacOffer.result (out : LdacCapabilities) : LdacOffer → LdacCodecStatus × LdacCapabilities
  | .absent => (.notFound, out)
  | .malformed => (.truncated, out)
  | .ldac capabilities =>
    (if capabilities.sampleRates = 0 ∨ capabilities.channelModes = 0 then .unsupported else .ok,
      capabilities)

theorem ldacBuildSetConfigurationPayload_found {remoteSeid localSeid : UInt8}
    {configuration : LdacConfiguration} (hremote : 0 < remoteSeid ∧ remoteSeid ≤ 0x3F)
    (hlocal : 0 < localSeid ∧ localSeid ≤ 0x3F)
    (hrate : configuration.sampleRate ∈ ldacSampleRateBits)
    (hmode : configuration.channelMode ∈ ldacChannelModeBits) (out : LdacCapabilities) :
    ldacFindInServiceCapabilities
        ((ldacBuildSetConfigurationPayload remoteSeid localSeid configuration).drop 2) out =
      (.ok, ⟨configuration.sampleRate, configuration.channelMode⟩) := by
  rw [ldacBuildSetConfigurationPayload_eq hremote hlocal hrate hmode]
  obtain ⟨rate, mode⟩ := configuration
  simp only [ldacSampleRateBits, ldacChannelModeBits, List.mem_cons, List.not_mem_nil,
    or_false] at hrate hmode
  rcases hrate with rfl | rfl | rfl | rfl <;> rcases hmode with rfl | rfl | rfl <;> rfl

/-- **The search for LDAC**: it finds the first LDAC element before the list breaks off, its
    rounds stay inside the buffer and move on, and it reads a configuration back from the payload
    that was built for it. -/
theorem ldacServiceCapabilities (bytes : List UInt8) (out : LdacCapabilities) :
    ldacFindInServiceCapabilities bytes out = (firstLdac bytes).result out ∧
      scanFrom bytes out (bytes.length + 1) 0 =
        some (ldacFindInServiceCapabilities bytes out) ∧
      (∀ offset next, scanRound bytes out offset = some (.inl next) →
        offset + 2 ≤ next ∧ next ≤ bytes.length) ∧
      ∀ (remoteSeid localSeid : UInt8) (configuration : LdacConfiguration),
        0 < remoteSeid ∧ remoteSeid ≤ 0x3F → 0 < localSeid ∧ localSeid ≤ 0x3F →
        configuration.sampleRate ∈ ldacSampleRateBits →
        configuration.channelMode ∈ ldacChannelModeBits →
          ldacFindInServiceCapabilities
              ((ldacBuildSetConfigurationPayload remoteSeid localSeid configuration).drop 2) out =
            (.ok, ⟨configuration.sampleRate, configuration.channelMode⟩) := by
  refine ⟨?_, ?_, fun offset next => scanRound_advances, ?_⟩
  · rw [ldacFindInServiceCapabilities_eq]
    rfl
  · exact scanFrom_eq (Nat.lt_succ_self _)
  · exact fun remoteSeid localSeid configuration hremote hlocal hrate hmode =>
      ldacBuildSetConfigurationPayload_found hremote hlocal hrate hmode out

/-- One rate and one mode between the sinks 1 and 2. -/
theorem ldacServiceCapabilities_stereo :
    ldacFindInServiceCapabilities
        ((ldacBuildSetConfigurationPayload 1 2 ⟨ldacSf96000, ldacCmStereo⟩).drop 2) ⟨0, 0⟩ =
      (.ok, ⟨ldacSf96000, ldacCmStereo⟩) :=
  (ldacServiceCapabilities [] ⟨0, 0⟩).2.2.2 1 2 ⟨ldacSf96000, ldacCmStereo⟩ (by decide) (by decide)
    (by decide) (by decide)

end NativeLdac.Protocol
