/-
  The commands of the headset: the observer answers each of them once, and goes on with what it
  has outstanding.

  * `passThrough_answered` and `vendorCommand_answered`: the commands that are answered;
  * `command_refused`: any other command makes the observer fail;
  * `failed_run`: an observer that has failed is silent, and stays failed.
-/
import NativeLdac.Protocol.AvrcpTransactions

namespace NativeLdac.Protocol

def IsPassThroughControl (packet : List UInt8) (parsed : AvrcpPassThrough) : Prop :=
  avrcpParsePassThrough packet = .ok parsed ∧ parsed.frame.commandResponse = 0 ∧
    parsed.frame.ctypeOrResponse = avrcpCtypeControl

def IsVendorCommand (packet : List UInt8) (vendor : AvrcpVendorFrame) : Prop :=
  avrcpParseVendorFrame packet = .ok vendor ∧ vendor.frame.commandResponse = 0

structure AvrcpObserver.Undisturbed (o o' : AvrcpObserver) : Prop where
  state : o'.state = o.state
  pendingTransactionLabel : o'.pendingTransactionLabel = o.pendingTransactionLabel
  pendingPduId : o'.pendingPduId = o.pendingPduId
  writeActive : o'.writeActive = o.writeActive
  writeLabel : o'.writeLabel = o.writeLabel
  writePduId : o'.writePduId = o.writePduId

/-- The packet is a response to the frame of a command. -/
structure RespondsTo (answer : List UInt8) (command frame : AvrcpFrame) : Prop where
  parsed : avrcpParseFrame answer = .ok frame
  response : frame.commandResponse = 1
  transactionLabel : frame.transactionLabel = command.transactionLabel
  opcode : frame.opcode = command.opcode
  fits : answer.length ≤ avrcpMaxControlPacket

/-! ## PASS THROUGH -/

theorem header_answered (header : UInt8) :
    (header ||| 2) >>> 4 = header >>> 4 ∧
      ((header ||| 2) >>> 2) &&& (3 : UInt8) = (header >>> 2) &&& (3 : UInt8) ∧
      ((header ||| 2) >>> 1) &&& (1 : UInt8) = 1 ∧
      (header ||| 2) &&& (1 : UInt8) = header &&& 1 := by
  obtain ⟨n, rfl⟩ := byte_cases header
  revert n
  decide +kernel

variable {packet : List UInt8}

theorem answer_bytes (hlength : 8 ≤ packet.length) (header response : UInt8) :
    let answer := ((packet.take 8).set 0 header).set 3 response
    answer.length = 8 ∧ byteAt answer 0 = header ∧ byteAt answer 3 = response ∧
      ∀ index, index < 8 → index ≠ 0 → index ≠ 3 → byteAt answer index = byteAt packet index := by
  have hmin : min 8 packet.length = 8 := Nat.min_eq_left hlength
  refine ⟨by simp [hlength], ?_, ?_, ?_⟩
  · simp [byteAt, hmin]
  · simp [byteAt, hmin]
  · intro index hindex h₀ h₃
    simp [byteAt, hindex, Ne.symm h₀, Ne.symm h₃]

theorem parseFrame_answer {frame : AvrcpFrame} (hframe : avrcpParseFrame packet = .ok frame)
    (hlength : 8 ≤ packet.length) (response : UInt8) (hresponse : response ≤ 0x0F) :
    avrcpParseFrame (((packet.take 8).set 0 (byteAt packet 0 ||| 0x02)).set 3 response) =
      .ok { frame with commandResponse := 1, ctypeOrResponse := response, operandsSize := 2 } := by
  obtain ⟨hsize, h₀, h₃, hbytes⟩ := answer_bytes hlength (byteAt packet 0 ||| 0x02) response
  generalize ((packet.take 8).set 0 (byteAt packet 0 ||| 0x02)).set 3 response = answer at *
  obtain ⟨hlabel, hsingle, hbit, hinvalid⟩ := header_answered (byteAt packet 0)
  obtain ⟨hlow, hhigh⟩ := ctype_bits hresponse
  simp only [avrcpParseFrame] at hframe ⊢
  split_ifs at hframe with hshort hfragment hprofile hsubunit
  cases hframe
  rw [h₀, h₃, hbytes 1 (by simp) (by simp) (by simp), hbytes 2 (by simp) (by simp) (by simp),
    hbytes 4 (by simp) (by simp) (by simp), hbytes 5 (by simp) (by simp) (by simp), hlabel, hsingle,
    hbit, hinvalid, hlow, hhigh, hsize, if_neg (by decide), if_neg hfragment, if_neg, if_neg hsubunit]
  rintro (h | h | h)
  · exact hprofile (.inl h)
  · exact hprofile (.inr (.inl h))
  · exact h rfl

theorem parsePassThrough_length {parsed : AvrcpPassThrough}
    (h : avrcpParsePassThrough packet = .ok parsed) : 8 ≤ packet.length := by
  obtain ⟨hframe, -, -⟩ := parsePassThrough_frame h
  have hoperands := (parseFrame_ok hframe).2.2.2.2.2.2
  rw [avrcpParsePassThrough, hframe] at h
  dsimp only at h
  split at h
  · cases h
  · omega

def ReadsAsResponse (response : List UInt8) (command : AvrcpPassThrough) (responseCode : UInt8) :
    Prop :=
  ∃ answer, avrcpParsePassThrough response = .ok answer ∧
    answer.frame.commandResponse = 1 ∧
    answer.frame.transactionLabel = command.frame.transactionLabel ∧
    answer.operationId = command.operationId ∧ answer.released = command.released ∧
    answer.frame.ctypeOrResponse = responseCode

theorem parsePassThrough_released {parsed : AvrcpPassThrough}
    (h : avrcpParsePassThrough packet = .ok parsed) :
    parsed.released =
      if byteAt packet 6 &&& avrcpPassThroughReleasedMask ≠ 0 then 1 else 0 := by
  rw [avrcpParsePassThrough] at h
  rcases hframe : avrcpParseFrame packet with e | frame
  · rw [hframe] at h
    cases h
  · rw [hframe] at h
    dsimp only at h
    generalize (if byteAt packet 6 &&& avrcpPassThroughReleasedMask ≠ 0 then (1 : UInt8)
      else 0) = released at h ⊢
    split_ifs at h
    cases h
    rfl

/-- **The response to a PASS THROUGH command reads back** where the command has no operation
    data: the response keeps the length of the data, and leaves the data out. -/
theorem passThroughResponse_reads_iff {packet : List UInt8} {parsed : AvrcpPassThrough}
    (hparse : avrcpParsePassThrough packet = .ok parsed)
    (hcommand : parsed.frame.commandResponse = 0) {outSize : Nat} (hsize : 8 ≤ outSize)
    {responseCode : UInt8}
    (hcode : responseCode = avrcpResponseAccepted ∨ responseCode = avrcpResponseRejected ∨
      responseCode = avrcpResponseNotImplemented) :
    ReadsAsResponse (avrcpWritePassThroughResponse outSize packet responseCode) parsed
        responseCode ↔ byteAt packet 7 = 0 := by
  obtain ⟨hframe, hopcode, hid⟩ := parsePassThrough_frame hparse
  have hreleased := parsePassThrough_released hparse
  have hlength := parsePassThrough_length hparse
  have hanswer := parseFrame_answer hframe hlength responseCode
    (by rcases hcode with rfl | rfl | rfl <;> decide)
  obtain ⟨hanswerLength, -, -, hbytes⟩ :=
    answer_bytes hlength (byteAt packet 0 ||| 0x02) responseCode
  rw [writePassThroughResponse_eq hparse hcommand (by omega) hcode]
  generalize ((packet.take 8).set 0 (byteAt packet 0 ||| 0x02)).set 3 responseCode = answer at *
  have h₆ := hbytes 6 (by simp) (by simp) (by simp)
  have h₇ := hbytes 7 (by simp) (by simp) (by simp)
  constructor
  · rintro ⟨read, hread, -⟩
    rw [avrcpParsePassThrough, hanswer] at hread
    dsimp only at hread
    rw [if_neg (by decide), if_neg (by simp [hopcode]), h₇, hanswerLength] at hread
    by_cases hdata : (byteAt packet 7).toNat > 8 - 8
    · rw [if_pos hdata] at hread
      cases hread
    · exact UInt8.toNat_inj.mp (by simpa using hdata)
  · intro hnone
    have hread : avrcpParsePassThrough answer = .ok
        { frame :=
            { parsed.frame with
              commandResponse := 1
              ctypeOrResponse := responseCode
              operandsSize := 2 }
          operationId := parsed.operationId
          released := parsed.released
          operationDataOffset := 8
          operationDataSize := 0 } := by
      rw [avrcpParsePassThrough, hanswer]
      dsimp only
      rw [if_neg (by decide), if_neg (by simp [hopcode]), h₆, h₇, hnone, hanswerLength, ← hid,
        ← hreleased]
      simp [avrcpPadded, List.drop_of_length_le (Nat.le_of_eq hanswerLength)]
    exact ⟨_, hread, rfl, rfl, rfl, rfl, rfl⟩

/-- The key for the next track is pressed. -/
def forwardPressed : List UInt8 := [0x30, 0x11, 0x0E, 0x00, 0x48, 0x7C, 0x4B, 0x00]

/-- A command with one byte of operation data. -/
def forwardWithData : List UInt8 := [0x30, 0x11, 0x0E, 0x00, 0x48, 0x7C, 0x4B, 0x01, 0x07]

def forwardCommand (data : Nat) : AvrcpPassThrough :=
  { frame :=
      { transactionLabel := 3, packetType := 0, commandResponse := 0, invalidProfileId := 0,
        profileId := 0x110E, ctypeOrResponse := 0, subunitType := 9, subunitId := 0,
        opcode := 0x7C, operandsOffset := 6, operandsSize := 2 + data }
    operationId := 0x4B
    released := 0
    operationDataOffset := 8
    operationDataSize := data }

theorem passThroughResponse_reads_iff_forward :
    ReadsAsResponse (avrcpWritePassThroughResponse 16 forwardPressed avrcpResponseAccepted)
        (forwardCommand 0) avrcpResponseAccepted ↔ byteAt forwardPressed 7 = 0 :=
  passThroughResponse_reads_iff (by rfl) rfl (by simp) (.inl rfl)

/-- The response to the command with data is cut short. -/
theorem not_readsAsResponse :
    avrcpParsePassThrough forwardWithData = .ok (forwardCommand 1) ∧
      ¬ ReadsAsResponse
        (avrcpWritePassThroughResponse 16 forwardWithData avrcpResponseAccepted)
        (forwardCommand 1) avrcpResponseAccepted := by
  refine ⟨by rfl, ?_⟩
  rintro ⟨answer, hread, -⟩
  have hshort : avrcpParsePassThrough
      (avrcpWritePassThroughResponse 16 forwardWithData avrcpResponseAccepted) =
        .error .truncated := by rfl
  rw [hshort] at hread
  cases hread

/-! ## What is answered -/

section
variable {o : AvrcpObserver} {packet : List UInt8} (hidle : o.state ≠ .idle)
  (hfailed : o.state ≠ .failed)
include hidle hfailed

theorem passThrough_answered {parsed : AvrcpPassThrough} (h : IsPassThroughControl packet parsed) :
    (∃ frame, RespondsTo (avrcpObserver.out o (.packet packet)).packet parsed.frame frame) ∧
      o.Undisturbed (avrcpObserver.next o (.packet packet)) := by
  obtain ⟨hparse, hcommand, hcontrol⟩ := h
  obtain ⟨hframe, -, -⟩ := parsePassThrough_frame hparse
  obtain ⟨response, hresponse, hknown⟩ := passThrough_response parsed.operationId
  have hlength := parsePassThrough_length hparse
  have hstep := handlePacket_passThrough hidle hfailed hparse hcommand hcontrol
  rw [← hresponse] at hstep
  have hanswer := parseFrame_answer hframe hlength response
    (by rcases hknown with rfl | rfl <;> decide)
  have hsize := (answer_bytes hlength (byteAt packet 0 ||| 0x02) response).1
  simp only [Reducer.out, Reducer.next, avrcpObserver, hstep]
  exact ⟨⟨_, hanswer, rfl, rfl, rfl, by rw [hsize]; decide⟩, ⟨rfl, rfl, rfl, rfl, rfl, rfl⟩⟩

omit hidle hfailed in
theorem vendorAnswer_bounds (label pduId : UInt8) (parameters : List UInt8) :
    (avrcpVendorAnswer o label pduId parameters).1.1 ≤ 0x0F ∧
      (avrcpVendorAnswer o label pduId parameters).1.2.length ≤ 9 ∧
      o.Undisturbed (avrcpVendorAnswer o label pduId parameters).2 := by
  rcases vendorAnswer_cases o label pduId parameters with ⟨-, h⟩ | ⟨response, answer, h, hc, hp, -⟩
  · rw [h]
    exact ⟨(by decide : avrcpResponseInterim ≤ 0x0F), by simp, ⟨rfl, rfl, rfl, rfl, rfl, rfl⟩⟩
  · rw [h]
    exact ⟨hc, hp, ⟨rfl, rfl, rfl, rfl, rfl, rfl⟩⟩

theorem vendorCommand_answered {vendor : AvrcpVendorFrame} (h : IsVendorCommand packet vendor) :
    (∃ answer,
        avrcpParseVendorFrame (avrcpObserver.out o (.packet packet)).packet = .ok answer ∧
        RespondsTo (avrcpObserver.out o (.packet packet)).packet vendor.frame answer.frame ∧
        answer.pduId = vendor.pduId) ∧
      o.Undisturbed (avrcpObserver.next o (.packet packet)) := by
  obtain ⟨hparse, hcommand⟩ := h
  obtain ⟨hframe, hopcode⟩ := parseVendorFrame_frame hparse
  have hl := (parseFrame_fields hframe).2.1
  obtain ⟨hc, hp, hkept⟩ := vendorAnswer_bounds (o := o) vendor.frame.transactionLabel vendor.pduId
    (vendor.parameters packet)
  have hwrite : ¬ avrcpAnswersWrite o vendor := by simp [avrcpAnswersWrite, hcommand]
  simp only [Reducer.out, Reducer.next, avrcpObserver]
  rw [handlePacket_vendor hidle hfailed hparse, avrcpObserverHandleVendor, if_neg hwrite,
    if_pos hcommand]
  simp only [avrcpObserverHandleVendorCommand, writeVendorResponse_eq hl]
  generalize (avrcpVendorAnswer o vendor.frame.transactionLabel vendor.pduId
    (vendor.parameters packet)) = r at hc hp hkept ⊢
  obtain ⟨answer, hread, hanswer, hpdu, -⟩ := parse_written hl hc true vendor.pduId hp
  have hbytes := @written_eq _ _ r.1.1 hl true vendor.pduId hp
  rw [if_neg (by rw [hbytes]; simp)]
  refine ⟨⟨answer, hread, ⟨?_, ?_, ?_, ?_, ?_⟩, hpdu⟩, hkept⟩
  · exact (parseVendorFrame_frame hread).1
  · rw [hanswer]
    rfl
  · rw [hanswer]
    rfl
  · rw [hanswer, hopcode]
    rfl
  · rw [hbytes]
    simp only [List.length_append, List.length_cons, List.length_nil, avrcpMaxControlPacket]
    omega

theorem command_refused (hcommand : byteAt packet 0 &&& 0x02 = 0)
    (hpass : ∀ parsed, ¬ IsPassThroughControl packet parsed)
    (hvendor : ∀ vendor, ¬ IsVendorCommand packet vendor) :
    (avrcpObserver.out o (.packet packet)).packet = [] ∧
      (avrcpObserver.next o (.packet packet)).state = .failed := by
  have hbit : ∀ {frame}, avrcpParseFrame packet = .ok frame → frame.commandResponse = 0 := by
    intro frame hframe
    by_contra hresponse
    rw [(parseFrame_ok hframe).1, header_response (parseFrame_fields hframe).2.1] at hcommand
    simp [hresponse] at hcommand
  simp only [Reducer.out, Reducer.next, avrcpObserver]
  rw [avrcpObserverHandlePacket, if_neg (by simp [hidle, hfailed])]
  rcases hframe : avrcpParseFrame packet with e | frame
  · exact ⟨rfl, rfl⟩
  dsimp only
  split
  · unfold avrcpObserverHandlePassThrough
    rcases hparse : avrcpParsePassThrough packet with e | parsed
    · exact ⟨rfl, rfl⟩
    dsimp only
    rw [if_pos]
    · exact ⟨rfl, rfl⟩
    · by_contra hcontrol
      rw [not_or, not_not, not_not] at hcontrol
      exact hpass parsed ⟨hparse, hcontrol⟩
  · rcases hparse : avrcpParseVendorFrame packet with e | vendor
    · exact ⟨rfl, rfl⟩
    · exact absurd ⟨hparse, hbit (parseVendorFrame_frame hparse).1⟩ (hvendor vendor)

end

/-! ## An observer that has failed -/

theorem failed_step {o : AvrcpObserver} (h : o.state = .failed) (input : AvrcpObserverInput) :
    (avrcpObserver.out o input).packet = [] ∧ (avrcpObserver.next o input).state = .failed := by
  cases input with
  | begin_ =>
    simp only [Reducer.out, Reducer.next, avrcpObserver, avrcpObserverBegin]
    rw [if_pos (by rw [h]; simp)]
    exact ⟨rfl, rfl⟩
  | packet packet =>
    simp only [Reducer.out, Reducer.next, avrcpObserver, avrcpObserverHandlePacket]
    rw [if_pos (.inr h)]
    exact ⟨rfl, rfl⟩
  | playbackStatus status =>
    simp only [Reducer.out, Reducer.next, avrcpObserver]
    rw [submit_refused (by simp [AvrcpObserver.accepts, h])]
    exact ⟨rfl, h⟩
  | write pduId responseCode parameters =>
    simp only [Reducer.out, Reducer.next, avrcpObserver, avrcpObserverSubmitWrite]
    split
    · exact ⟨rfl, h⟩
    split
    · rw [submit_refused (by simp [AvrcpObserver.accepts, h])]
      exact ⟨rfl, h⟩
    · rw [if_pos (.inr (.inl h))]
      exact ⟨rfl, h⟩

theorem failed_run {o : AvrcpObserver} (h : o.state = .failed) (inputs : List AvrcpObserverInput) :
    (∀ result ∈ avrcpObserver.outputs o inputs, result.packet = []) ∧
      (avrcpObserver.after o inputs).state = .failed := by
  induction inputs generalizing o with
  | nil => exact ⟨by simp [Reducer.outputs], h⟩
  | cons input inputs ih =>
    obtain ⟨hout, hnext⟩ := failed_step h input
    obtain ⟨houts, hafter⟩ := ih hnext
    refine ⟨?_, hafter⟩
    rintro result hresult
    rcases List.mem_cons.mp hresult with rfl | hresult
    · exact hout
    · exact houts result hresult

/-- **Every command is answered once, or makes the observer fail**; an observer that has failed
    is silent. -/
theorem commands_answered (o : AvrcpObserver) :
    (o.state ≠ .idle → o.state ≠ .failed → ∀ packet,
      let result := avrcpObserver.out o (.packet packet)
      let o' := avrcpObserver.next o (.packet packet)
      (∀ parsed, IsPassThroughControl packet parsed →
        (∃ frame, RespondsTo result.packet parsed.frame frame) ∧ o.Undisturbed o') ∧
      (∀ vendor, IsVendorCommand packet vendor →
        (∃ answer, avrcpParseVendorFrame result.packet = .ok answer ∧
          RespondsTo result.packet vendor.frame answer.frame ∧ answer.pduId = vendor.pduId) ∧
        o.Undisturbed o') ∧
      (byteAt packet 0 &&& 0x02 = 0 → (∀ parsed, ¬ IsPassThroughControl packet parsed) →
        (∀ vendor, ¬ IsVendorCommand packet vendor) → result.packet = [] ∧ o'.state = .failed)) ∧
    (o.state = .failed → ∀ inputs,
      (∀ result ∈ avrcpObserver.outputs o inputs, result.packet = []) ∧
        (avrcpObserver.after o inputs).state = .failed) :=
  ⟨fun hidle hfailed _ => ⟨fun _ => passThrough_answered hidle hfailed,
    fun _ => vendorCommand_answered hidle hfailed, command_refused hidle hfailed⟩, failed_run⟩

def playCommand : List UInt8 := [0x30, 0x11, 0x0E, 0x00, 0x48, 0x7C, 0x44, 0x00]

def playParsed : AvrcpPassThrough where
  frame := { avrcpVendorFrameRead 3 avrcpCtypeControl false 2 with opcode := avrcpOpcodePassThrough }
  operationId := avrcpOperationPlay
  released := 0
  operationDataOffset := 8
  operationDataSize := 0

def playStatusCommand : List UInt8 :=
  [0x40, 0x11, 0x0E, 0x01, 0x48, 0x00, 0x00, 0x19, 0x58, 0x20, 0x00, 0x00, 0x00]

def playStatusParsed : AvrcpVendorFrame where
  frame := avrcpVendorFrameRead 4 avrcpCtypeStatus false 7
  companyId := avrcpCompanyIdBluetoothSig
  pduId := avrcpPduGetPlayStatus
  pduPacketType := 0
  parametersOffset := 13
  parametersSize := 0

theorem commands_answered_begun :
    let o := avrcpObserver.after {} [.begin_]
    (∃ frame, RespondsTo (avrcpObserver.out o (.packet playCommand)).packet playParsed.frame frame) ∧
      (∃ answer, avrcpParseVendorFrame
          (avrcpObserver.out o (.packet playStatusCommand)).packet = .ok answer ∧
        RespondsTo (avrcpObserver.out o (.packet playStatusCommand)).packet playStatusParsed.frame
          answer.frame ∧
        answer.pduId = avrcpPduGetPlayStatus) ∧
      (avrcpObserver.next o (.packet [])).state = .failed ∧
      (avrcpObserver.after (avrcpObserver.next o (.packet [])) [.packet playCommand]).state =
        .failed := by
  have hbegun := (commands_answered (avrcpObserver.after {} [.begin_])).1 (by decide) (by decide)
  have hpass : ∀ parsed, ¬ IsPassThroughControl [] parsed := fun _ h => by cases h.1
  have hvendor : ∀ vendor, ¬ IsVendorCommand [] vendor := fun _ h => by cases h.1
  refine ⟨((hbegun playCommand).1 playParsed ⟨by decide, rfl, rfl⟩).1,
    ((hbegun playStatusCommand).2.1 playStatusParsed ⟨by decide, rfl⟩).1,
    ((hbegun []).2.2 rfl hpass hvendor).2, ?_⟩
  exact ((commands_answered _).2 ((hbegun []).2.2 rfl hpass hvendor).2 _).2

end NativeLdac.Protocol
