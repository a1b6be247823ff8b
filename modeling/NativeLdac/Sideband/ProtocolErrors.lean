/-
  The diagnostic of a protocol error: the driver's record of it
  (`NldAvrcpObserverQueueProtocolEvent` in `avrcp-sideband/sys/device.c`) and its
  reading by the probe (`tools/v1_avrcp_observer_probe.cpp`).

  * `protocolErrorEvent` packs the stage, the size and the first bytes of the packet;
  * `readError` takes them out again, by the masks of the host's header;
  * `DecodesBack`: what is read is the stage, the prefix and the size capped at 255.

  The size is cut to its low byte where the header has it capped.
-/
import NativeLdac.Sideband.EventFidelity

namespace NativeLdac.Sideband

open Agent Protocol

/-! ## Packing and reading -/

def eventRawLengthMask : UInt32 := 0x0000FF00
def eventPacketSizeMask : UInt32 := 0x00FF0000
def eventParseStageMask : UInt32 := 0xFF000000

/-- The MTU of the control channel: a read gets no more bytes. -/
def l2capDefaultMtu : Nat := 672

/-- A record with the fields that only the diagnostics use: `rawPrefixHighWords` are
    the words after `rawPrefixHigh`. -/
structure NldAvrcpErrorEvent extends NldAvrcpObserverEvent where
  protocolStatus : Int32 := 0
  rawPrefixHighWords : List UInt32 := List.replicate 14 0
  deriving DecidableEq, Repr

/-- `NldAvrcpObserverQueueProtocolEvent`, for a protocol error: a prefix of one to
    64 bytes is packed with the stage and the size, else the record has the status
    alone. -/
def protocolErrorEvent (event : Protocol.AvrcpObserverEvent) : NldAvrcpErrorEvent :=
  if event.rawPrefix ≠ [] ∧ event.rawPrefix.length ≤ 64 then
    { type := .protocolError
      flags := eventFlagRawPrefix |||
        (UInt32.ofNat event.rawPrefix.length <<< eventRawLengthShift) |||
        ((event.rawTotalSize.toUInt32 &&& 0xFF) <<< eventPacketSizeShift) |||
        (event.errorStage.toUInt32 <<< eventParseStageShift)
      value0 := wordOfBytes event.rawPrefix
      rawPrefixHigh := wordOfBytes (event.rawPrefix.drop 4)
      protocolStatus := event.errorCode
      rawPrefixHighWords := (List.range 14).map fun word =>
        wordOfBytes (event.rawPrefix.drop (4 + (word + 1) * 4)) }
  else { type := .protocolError, protocolStatus := event.errorCode }

/-- `NldAvrcpEventQueueAppend`: the queue marks a prefix and its length once more. -/
def markRawPrefix (rawPrefixSize : Nat) (event : NldAvrcpErrorEvent) : NldAvrcpErrorEvent :=
  if rawPrefixSize ≠ 0 ∧ rawPrefixSize ≤ 64 then
    { event with
      flags := event.flags |||
        (eventFlagRawPrefix ||| (UInt32.ofNat rawPrefixSize <<< eventRawLengthShift)) }
  else event

def queuedErrorEvent (event : Protocol.AvrcpObserverEvent) : NldAvrcpErrorEvent :=
  markRawPrefix event.rawPrefix.length (protocolErrorEvent event)

/-- `RawWord` of the probe -/
def rawWord (event : NldAvrcpErrorEvent) : Nat → UInt32
  | 0 => event.value0
  | 1 => event.rawPrefixHigh
  | word + 2 => event.rawPrefixHighWords.getD word 0

/-- What a reader gets out of the record. -/
structure ErrorReport where
  stage : UInt32
  raw : List UInt8
  packetSize : UInt32
  deriving DecidableEq, Repr

def readError (event : NldAvrcpErrorEvent) : ErrorReport :=
  let rawLength := (event.flags &&& eventRawLengthMask) >>> eventRawLengthShift
  { stage := (event.flags &&& eventParseStageMask) >>> eventParseStageShift
    packetSize := (event.flags &&& eventPacketSizeMask) >>> eventPacketSizeShift
    raw :=
      if event.flags &&& eventFlagRawPrefix ≠ 0 ∧ rawLength ≠ 0 ∧ rawLength ≤ 64 then
        (List.range rawLength.toNat).map fun index =>
          ((rawWord event (index / 4) >>> (UInt32.ofNat (index % 4) * 8)) &&& 0xFF).toUInt8
      else [] }

/-- The record of an error on a packet decodes back to its stage, its first 64 bytes
    and its size, capped at 255. -/
def DecodesBack (event : Protocol.AvrcpObserverEvent) (packet : List UInt8) : Prop :=
  readError (queuedErrorEvent event) =
    { stage := event.errorStage.toUInt32
      raw := packet.take 64
      packetSize := UInt32.ofNat (min packet.length 255) }

instance (event : Protocol.AvrcpObserverEvent) (packet : List UInt8) :
    Decidable (DecodesBack event packet) :=
  inferInstanceAs (Decidable (_ = _))

variable {event : Protocol.AvrcpObserverEvent}

theorem protocolErrorEvent_record (h : event.kind = .protocolError)
    (hl : event.rawPrefix.length ≤ 64) :
    protocolEventRecord event = some (protocolErrorEvent event).toNldAvrcpObserverEvent := by
  by_cases hp : event.rawPrefix = []
  · simp [protocolEventRecord, protocolErrorEvent, h, hp]
  · simp [protocolEventRecord, protocolErrorEvent, h, hp, hl]

theorem queuedErrorEvent_eq (event : Protocol.AvrcpObserverEvent) :
    queuedErrorEvent event = protocolErrorEvent event := by
  have hor : ∀ a b c d : UInt32, a ||| b ||| c ||| d ||| (a ||| b) = a ||| b ||| c ||| d := by
    intro a b c d
    rw [UInt32.or_assoc (a ||| b) c d, UInt32.or_comm _ (a ||| b), ← UInt32.or_assoc,
      UInt32.or_self]
  rw [queuedErrorEvent, markRawPrefix]
  split_ifs with hmark
  · have hp : event.rawPrefix ≠ [] ∧ event.rawPrefix.length ≤ 64 :=
      ⟨fun h => hmark.1 (by simp [h]), hmark.2⟩
    rw [protocolErrorEvent, if_pos hp]
    simp only [hor]
  · rfl

/-! ## The fields of a word -/

theorem byte_high (b : UInt8) {i : Nat} (h : 8 ≤ i) : b.toNat.testBit i = false :=
  Nat.testBit_lt_two_pow (Nat.lt_of_lt_of_le b.toNat_lt (Nat.pow_le_pow_right (by decide) h))

theorem word_bit (bytes : List UInt8) {i : Nat} (hi : i < 32) :
    (wordOfBytes bytes).toNat.testBit i = (byteAt bytes (i / 8)).toNat.testBit (i % 8) := by
  rw [wordOfBytes]
  simp only [UInt32.toNat_or, UInt32.toNat_shiftLeft, UInt8.toNat_toUInt32, Nat.testBit_or,
    Nat.testBit_mod_two_pow, Nat.testBit_shiftLeft, hi, decide_true, Bool.true_and]
  rcases (by omega : i / 8 = 0 ∨ i / 8 = 1 ∨ i / 8 = 2 ∨ i / 8 = 3) with h | h | h | h
  · have hm : ¬ 8 ≤ i ∧ ¬ 16 ≤ i ∧ ¬ 24 ≤ i ∧ i % 8 = i := by omega
    simp [h, hm]
  · have hm : 8 ≤ i ∧ ¬ 16 ≤ i ∧ ¬ 24 ≤ i ∧ i % 8 = i - 8 := by omega
    simp [h, hm, byte_high _ hm.1]
  · have hm : 8 ≤ i - 8 ∧ 8 ≤ i ∧ 16 ≤ i ∧ ¬ 24 ≤ i ∧ i % 8 = i - 16 := by omega
    simp [h, hm, byte_high _ hm.1, byte_high _ hm.2.1]
  · have hm : 8 ≤ i - 16 ∧ 8 ≤ i - 8 ∧ 8 ≤ i ∧ 16 ≤ i ∧ 24 ≤ i ∧ i % 8 = i - 24 := by omega
    simp [h, hm, byte_high _ hm.1, byte_high _ hm.2.1, byte_high _ hm.2.2.1]

theorem word_byte (bytes : List UInt8) {index : Nat} (hi : index < 4) :
    (wordOfBytes bytes >>> (UInt32.ofNat index * 8)) &&& 0xFF =
      (byteAt bytes index).toUInt32 := by
  have hs : (UInt32.ofNat index * 8).toNat % 32 = index * 8 := by
    rw [UInt32.toNat_mul, UInt32.toNat_ofNat']
    show index % 2 ^ 32 * 8 % 2 ^ 32 % 32 = _
    omega
  rw [← UInt32.toNat_inj, UInt32.toNat_and, UInt32.toNat_shiftRight, hs, UInt8.toNat_toUInt32]
  show _ &&& (2 ^ 8 - 1) = _
  rw [Nat.and_two_pow_sub_one_eq_mod]
  apply Nat.eq_of_testBit_eq
  intro i
  rw [Nat.testBit_mod_two_pow, Nat.testBit_shiftRight]
  by_cases h : i < 8
  · have hd : (index * 8 + i) / 8 = index ∧ (index * 8 + i) % 8 = i := by omega
    rw [word_bit bytes (by omega), hd.1, hd.2, decide_eq_true h, Bool.true_and]
  · rw [decide_eq_false h, Bool.false_and, byte_high _ (Nat.le_of_not_lt h)]

theorem word_field (a b c d : UInt8) :
    (wordOfBytes [a, b, c, d] &&& eventRawLengthMask) >>> eventRawLengthShift = b.toUInt32 ∧
      (wordOfBytes [a, b, c, d] &&& eventPacketSizeMask) >>> eventPacketSizeShift = c.toUInt32 ∧
      (wordOfBytes [a, b, c, d] &&& eventParseStageMask) >>> eventParseStageShift =
        d.toUInt32 := by
  have hbyte := @word_byte [a, b, c, d]
  generalize wordOfBytes [a, b, c, d] = w at hbyte ⊢
  rw [UInt32.shiftRight_and, UInt32.shiftRight_and, UInt32.shiftRight_and]
  exact ⟨@hbyte 1 (by decide), @hbyte 2 (by decide), @hbyte 3 (by decide)⟩

/-! ## What is read -/

theorem flags_word {length : Nat} (hl : length ≤ 64) (size : UInt16) (stage : UInt8) :
    eventFlagRawPrefix ||| (UInt32.ofNat length <<< eventRawLengthShift) |||
        ((size.toUInt32 &&& 0xFF) <<< eventPacketSizeShift) |||
        (stage.toUInt32 <<< eventParseStageShift) =
      wordOfBytes [0x20, UInt8.ofNat length, size.toUInt8, stage] := by
  have hlength : UInt32.ofNat length = (UInt8.ofNat length).toUInt32 := by
    rw [← UInt32.toNat_inj, UInt8.toNat_toUInt32, UInt32.toNat_ofNat', UInt8.toNat_ofNat']
    omega
  have hsize : size.toUInt32 &&& 0xFF = size.toUInt8.toUInt32 := by
    rw [← UInt32.toNat_inj, UInt8.toNat_toUInt32, UInt32.toNat_and, UInt16.toNat_toUInt32,
      UInt16.toNat_toUInt8]
    exact Nat.and_two_pow_sub_one_eq_mod _ 8
  rw [hlength, hsize]
  rfl

theorem flags_marked (b c d : UInt8) :
    wordOfBytes [0x20, b, c, d] &&& eventFlagRawPrefix ≠ 0 := by
  have h : wordOfBytes [0x20, b, c, d] &&& eventFlagRawPrefix = 0x20 := by
    rw [show eventFlagRawPrefix = 0xFF &&& 0x20 by decide, ← UInt32.and_assoc, word_low]
    show (0x20 : UInt8).toUInt32 &&& 0x20 = 0x20
    decide
  rw [h]
  decide

theorem rawWord_event (hp : event.rawPrefix ≠ []) (hl : event.rawPrefix.length ≤ 64) {word : Nat}
    (hw : word < 16) :
    rawWord (protocolErrorEvent event) word = wordOfBytes (event.rawPrefix.drop (word * 4)) := by
  rw [protocolErrorEvent, if_pos ⟨hp, hl⟩]
  match word with
  | 0 => rfl
  | 1 => rfl
  | word + 2 =>
    have h : word < 14 ∧ (word + 2) * 4 = 4 + (word + 1) * 4 := by omega
    simp [rawWord, List.getD_eq_getElem?_getD, h]

theorem readError_eq (hp : event.rawPrefix ≠ []) (hl : event.rawPrefix.length ≤ 64) :
    readError (protocolErrorEvent event) =
      { stage := event.errorStage.toUInt32
        raw := event.rawPrefix
        packetSize := event.rawTotalSize.toUInt8.toUInt32 } := by
  have hflags : (protocolErrorEvent event).flags =
      wordOfBytes [0x20, UInt8.ofNat event.rawPrefix.length, event.rawTotalSize.toUInt8,
        event.errorStage] := by
    rw [protocolErrorEvent, if_pos ⟨hp, hl⟩]
    exact flags_word hl _ _
  obtain ⟨hlength, hsize, hstage⟩ := word_field 0x20 (UInt8.ofNat event.rawPrefix.length)
    event.rawTotalSize.toUInt8 event.errorStage
  have hpos := List.length_pos_iff.mpr hp
  have hnat : (UInt8.ofNat event.rawPrefix.length).toUInt32.toNat = event.rawPrefix.length := by
    rw [UInt8.toNat_toUInt32, UInt8.toNat_ofNat']
    omega
  simp only [readError, hflags, hlength, hsize, hstage, ErrorReport.mk.injEq, true_and, and_true]
  rw [if_pos ⟨flags_marked _ _ _, by rw [ne_eq, ← UInt32.toNat_inj, hnat]; exact Nat.ne_of_gt hpos,
    by rw [UInt32.le_iff_toNat_le, hnat]; exact hl⟩, hnat]
  refine List.ext_getElem (by simp) fun index h _ => ?_
  have hi : index < event.rawPrefix.length := by simpa using h
  have hd : index / 4 * 4 + index % 4 = index := by omega
  rw [List.getElem_map, List.getElem_range, rawWord_event hp hl (by omega),
    word_byte _ (by omega)]
  simp [byteAt, List.getElem?_drop, hd, hi]

/-! ## Reported errors -/

theorem failStage_decodes_iff (o : AvrcpObserver) (error : AvrcpError) (stage : UInt8)
    {packet : List UInt8} (hmtu : packet.length ≤ l2capDefaultMtu) :
    DecodesBack (avrcpObserverFailStage o error stage packet).1.event packet ↔
      (packet = [] → stage = 0) ∧ (packet.length ≤ 255 ∨ packet.length = 511) := by
  rw [l2capDefaultMtu] at hmtu
  by_cases hp : packet = []
  · subst hp
    simp only [true_implies, List.length_nil, Nat.zero_le, true_or, and_true, DecodesBack,
      queuedErrorEvent_eq]
    have hread : readError (protocolErrorEvent (avrcpObserverFailStage o error stage []).1.event) =
        { stage := 0, raw := [], packetSize := 0 } := by
      simp [readError, protocolErrorEvent, avrcpObserverFailStage]
    rw [hread]
    constructor
    · intro h
      have hstage : 0 = stage.toUInt32 := congrArg ErrorReport.stage h
      rw [← UInt8.toNat_inj, ← UInt8.toNat_toUInt32, ← hstage]
      rfl
    · rintro rfl
      rfl
  · have hpos := List.length_pos_iff.mpr hp
    have htake : packet.take 64 ≠ [] := by simp [hp]
    rw [DecodesBack, queuedErrorEvent_eq, readError_eq htake (List.length_take_le 64 packet)]
    simp only [avrcpObserverFailStage, ErrorReport.mk.injEq, true_and, hp, false_implies]
    rw [← UInt32.toNat_inj, UInt8.toNat_toUInt32, UInt16.toNat_toUInt8, UInt16.toNat_ofNat',
      UInt32.toNat_ofNat']
    omega

/-- The result reports no error, or an error at a stage, on the packet. -/
def StagesErrors (packet : List UInt8) (result : AvrcpObserverResult × AvrcpObserver) : Prop :=
  result.1.event.kind ≠ .protocolError ∨
    ∃ o error stage, stage ≠ 0 ∧ result = avrcpObserverFailStage o error stage packet

theorem handlePassThrough_error {o : AvrcpObserver} {packet : List UInt8}
    (hidle : o.state ≠ .idle) (hfailed : o.state ≠ .failed) {frame : AvrcpFrame}
    (hframe : avrcpParseFrame packet = .ok frame)
    (hpass : frame.opcode = avrcpOpcodePassThrough ∧ frame.commandResponse = 0) :
    StagesErrors packet (avrcpObserverHandlePacket o packet) := by
  have hhandle : avrcpObserverHandlePacket o packet = avrcpObserverHandlePassThrough o packet := by
    rw [avrcpObserverHandlePacket, if_neg (by simp [hidle, hfailed]), hframe]
    exact if_pos hpass
  rcases hparse : avrcpParsePassThrough packet with e | parsed
  · rw [hhandle, avrcpObserverHandlePassThrough, hparse]
    exact .inr ⟨o, _, 5, by decide, rfl⟩
  by_cases hcommand : parsed.frame.commandResponse ≠ 0 ∨
      parsed.frame.ctypeOrResponse ≠ Protocol.avrcpCtypeControl
  · rw [hhandle, avrcpObserverHandlePassThrough, hparse]
    exact .inr ⟨o, _, 5, by decide, if_pos hcommand⟩
  · rw [not_or, not_not, not_not] at hcommand
    rw [handlePacket_passThrough hidle hfailed hparse hcommand.1 hcommand.2]
    exact .inl (by simp)

theorem handleResponse_error {o : AvrcpObserver} (packet : List UInt8) (vendor : AvrcpVendorFrame)
    (hl : o.nextTransactionLabel ≤ 0x0F) :
    StagesErrors packet (avrcpObserverHandleResponse o packet vendor) := by
  have hregister : ∀ (o' : AvrcpObserver) (event : Protocol.AvrcpObserverEvent),
      o'.nextTransactionLabel = o.nextTransactionLabel → event.kind ≠ .protocolError →
      StagesErrors packet (avrcpObserverRegisterVolume o' event) := by
    intro o' event hlabel hkind
    refine .inl ?_
    rwa [registerVolume_event (hlabel ▸ hl)]
  simp only [avrcpObserverHandleResponse]
  split_ifs
  · exact .inr ⟨_, _, 4, by decide, rfl⟩
  · exact hregister _ _ rfl (by simp)
  · exact .inl (by simp)
  · exact .inl (by simp)
  · exact hregister _ _ rfl (by simp)
  · exact .inr ⟨_, _, 4, by decide, rfl⟩
  · exact .inr ⟨_, _, 4, by decide, rfl⟩

theorem handlePacket_error {o : AvrcpObserver} (packet : List UInt8)
    (hidle : o.state ≠ .idle) (hfailed : o.state ≠ .failed)
    (hl : o.nextTransactionLabel ≤ 0x0F) :
    StagesErrors packet (avrcpObserverHandlePacket o packet) := by
  rcases hframe : avrcpParseFrame packet with e | frame
  · refine .inr ⟨o, e, 1, by decide, ?_⟩
    rw [avrcpObserverHandlePacket, if_neg (by simp [hidle, hfailed]), hframe]
  by_cases hpass : frame.opcode = avrcpOpcodePassThrough ∧ frame.commandResponse = 0
  · exact handlePassThrough_error hidle hfailed hframe hpass
  rcases hparse : avrcpParseVendorFrame packet with e | vendor
  · refine .inr ⟨o, e, 2, by decide, ?_⟩
    rw [avrcpObserverHandlePacket, if_neg (by simp [hidle, hfailed]), hframe]
    dsimp only
    rw [if_neg hpass, hparse]
  rw [handlePacket_vendor hidle hfailed hparse, avrcpObserverHandleVendor]
  split_ifs
  · exact .inl (by simp [avrcpObserverHandleWriteResponse])
  · obtain ⟨answer, -, -, hresult⟩ := handleVendorCommand_eq o hparse
    rw [hresult]
    exact .inl (by simp)
  · exact .inr ⟨o, _, 3, by decide, rfl⟩
  · exact handleResponse_error packet vendor hl

/-- **The diagnostic**: in every reachable state, the record of a protocol error
    decodes back exactly when there is a packet and its size is not cut: it fits a
    byte, or its low byte is the cap. -/
theorem protocolError_decodes_iff (inputs : List AvrcpObserverInput) (packet : List UInt8)
    (hmtu : packet.length ≤ l2capDefaultMtu)
    (hidle : (avrcpObserver.after {} inputs).state ≠ .idle)
    (hfailed : (avrcpObserver.after {} inputs).state ≠ .failed)
    (herror : (avrcpObserverHandlePacket (avrcpObserver.after {} inputs) packet).1.event.kind =
      .protocolError) :
    DecodesBack (avrcpObserverHandlePacket (avrcpObserver.after {} inputs) packet).1.event
        packet ↔
      packet ≠ [] ∧ (packet.length ≤ 255 ∨ packet.length = 511) := by
  rcases handlePacket_error packet hidle hfailed (label_after inputs) with
    hnone | ⟨o, error, stage, hstage, hresult⟩
  · exact absurd herror hnone
  · rw [hresult, failStage_decodes_iff o error stage hmtu]
    simp [hstage]

/-- The observer waits for the capabilities, and gets bytes that are no frame. -/
theorem protocolError_decodes_short :
    DecodesBack (avrcpObserverHandlePacket (avrcpObserver.after {} [.begin_]) [0x10]).1.event
        [0x10] ↔
      ([0x10] : List UInt8) ≠ [] ∧
        (([0x10] : List UInt8).length ≤ 255 ∨ ([0x10] : List UInt8).length = 511) :=
  protocolError_decodes_iff [.begin_] [0x10] (by decide) (by decide) (by decide) (by decide)

/-- The size of a packet of 256 bytes is told as zero. -/
theorem not_decodesBack :
    (avrcpObserverHandlePacket (avrcpObserver.after {} [.begin_])
        (List.replicate 256 0)).1.event.kind = .protocolError ∧
      ¬ DecodesBack (avrcpObserverHandlePacket (avrcpObserver.after {} [.begin_])
        (List.replicate 256 0)).1.event (List.replicate 256 0) := by
  decide +kernel

end NativeLdac.Sideband
