/-
  The transactions of the AVRCP observer: which of its writes opened the one that is
  outstanding, and the labels of its own commands that wait for a response.

  * `AvrcpTransactions` is what an onlooker knows who sees the inputs and the frames;
  * `TransactionEffect` says what one input does to the label counter and to the write
    transaction;
  * from it, for every run: when responses open no transaction, and when a command never
    carries the label of another command that waits.
-/
import NativeLdac.Protocol.AvrcpPlayback

namespace NativeLdac.Protocol

/-! ## Commands on the wire -/

def avrcpIsCommand (packet : List UInt8) : Bool :=
  packet ≠ [] ∧ byteAt packet 0 &&& 0x02 = 0

structure OwnCommand where
  label : UInt8
  pduId : UInt8
  notify : Bool
  /-- how many labels were taken before its own -/
  ordinal : Nat
deriving DecidableEq, Repr

def ownCommand? (packet : List UInt8) (ordinal : Nat) : Option OwnCommand :=
  if avrcpIsCommand packet then
    some
      { label := byteAt packet 0 >>> 4
        pduId := byteAt packet 9
        notify := byteAt packet 3 = avrcpCtypeNotify
        ordinal := ordinal }
  else none

/-- A packet of the headset ends the wait of a command.  A notification waits for CHANGED. -/
def OwnCommand.answeredBy (command : OwnCommand) (packet : List UInt8) : Bool :=
  match avrcpParseVendorFrame packet with
  | .error _ => false
  | .ok vendor =>
    vendor.frame.commandResponse ≠ 0 ∧ vendor.frame.transactionLabel = command.label ∧
      vendor.pduId = command.pduId ∧
      ¬ (command.notify ∧ vendor.frame.ctypeOrResponse = avrcpResponseInterim)

/-! ## Which inputs take a label -/

namespace AvrcpObserver

/-- A write becomes the outstanding one. -/
def takesWrite (observer : AvrcpObserver) (pduId responseCode : UInt8)
    (parameters : List UInt8) : Bool :=
  pduId ≠ 0 ∧ parameters.length ≤ 8 ∧ ¬ avrcpIsPlaybackReport pduId responseCode parameters ∧
    observer.state ≠ .idle ∧ observer.state ≠ .failed ∧ ¬ observer.writeActive

/-- A packet makes the observer register for the volume, at first or again. -/
def registers (observer : AvrcpObserver) (packet : List UInt8) : Bool :=
  match avrcpParseVendorFrame packet with
  | .error _ => false
  | .ok vendor =>
    let parameters := vendor.parameters packet
    let response := vendor.frame.ctypeOrResponse
    ¬ avrcpAnswersWrite observer vendor ∧ vendor.frame.commandResponse ≠ 0 ∧
      vendor.frame.transactionLabel = observer.pendingTransactionLabel ∧
      vendor.pduId = observer.pendingPduId ∧
      (observer.state = .waitCapabilities ∧ response = avrcpResponseStable ∧
          avrcpCapabilitiesIncludeVolume parameters ∨
        observer.state = .observing ∧ response = avrcpResponseChanged ∧
          parameters.length = 2 ∧ byteAt parameters 0 = avrcpEventVolumeChanged ∧
          byteAt parameters 1 ≤ 0x7F)

/-- The observer sends a command of its own. -/
def commands (observer : AvrcpObserver) : AvrcpObserverInput → Bool
  | .begin_ => observer.state = .idle
  | .packet packet => observer.registers packet
  | .playbackStatus _ => false
  | .write pduId responseCode parameters =>
    responseCode = 0 ∧ observer.takesWrite pduId responseCode parameters

/-- A response is taken as a write that a reply is due to. -/
def takesResponse (observer : AvrcpObserver) : AvrcpObserverInput → Bool
  | .write pduId responseCode parameters =>
    responseCode ≠ 0 ∧ observer.takesWrite pduId responseCode parameters
  | _ => false

end AvrcpObserver

open AvrcpObserver (commands registers takesResponse takesWrite)

/-! ## The onlooker -/

structure AvrcpTransactions where
  /-- the response code of the write taken last, 0 for a command -/
  openedBy : UInt8 := 0
  /-- the labels taken -/
  taken : Nat := 0
  outstanding : List OwnCommand := []
deriving DecidableEq, Repr

namespace AvrcpTransactions

/-- The commands that wait when an input has arrived. -/
def waiting (transactions : AvrcpTransactions) : AvrcpObserverInput → List OwnCommand
  | .packet packet => transactions.outstanding.filter fun command => ¬ command.answeredBy packet
  | _ => transactions.outstanding

def record (transactions : AvrcpTransactions) (observer : AvrcpObserver)
    (input : AvrcpObserverInput) (result : AvrcpObserverResult) : AvrcpTransactions where
  openedBy :=
    match input with
    | .write pduId responseCode parameters =>
      if observer.takesWrite pduId responseCode parameters then responseCode
      else transactions.openedBy
    | _ => transactions.openedBy
  taken :=
    if observer.commands input ∨ observer.takesResponse input then transactions.taken + 1
    else transactions.taken
  outstanding :=
    (ownCommand? result.packet transactions.taken).toList ++ transactions.waiting input

end AvrcpTransactions

/-- The observer with its onlooker. -/
def avrcpTransactions :
    Reducer (AvrcpObserver × AvrcpTransactions) AvrcpObserverInput AvrcpObserverResult where
  step s input :=
    let r := avrcpObserver.step s.1 input
    (r.1, r.2, s.2.record s.1 input r.1)

/-! ## One input -/

/-- A vendor frame as it is written. -/
def vendorBytes (label ctype : UInt8) (response : Bool) (pduId : UInt8)
    (parameters : List UInt8) : List UInt8 :=
  [avrcpVendorHeader label response, 0x11, 0x0E, ctype, 0x48, 0x00, 0x00, 0x19, 0x58, pduId, 0,
    0, UInt8.ofNat parameters.length] ++ parameters

/-- What an input does to the labels and to the write transaction. -/
inductive TransactionEffect (o : AvrcpObserver) (input : AvrcpObserverInput) :
    AvrcpObserverResult × AvrcpObserver → Prop
  /-- no label is taken, and the write stays as it is -/
  | kept {r} : ¬ o.commands input → ¬ o.takesResponse input →
      r.2.nextTransactionLabel = o.nextTransactionLabel → r.2.writeActive = o.writeActive →
      ¬ avrcpIsCommand r.1.packet → r.1.event.kind ≠ .writeResponse → TransactionEffect o input r
  /-- the reply to the write -/
  | replied {r} : ¬ o.commands input → ¬ o.takesResponse input →
      r.2.nextTransactionLabel = o.nextTransactionLabel → o.writeActive → ¬ r.2.writeActive →
      ¬ avrcpIsCommand r.1.packet → TransactionEffect o input r
  /-- the request of the capabilities, or of the volume -/
  | asked {r ctype pduId parameters} : o.commands input →
      r.2.nextTransactionLabel = avrcpNextLabel o.nextTransactionLabel →
      r.2.writeActive = o.writeActive →
      r.1.packet = vendorBytes o.nextTransactionLabel ctype false pduId parameters →
      r.1.event.kind ≠ .writeResponse → TransactionEffect o input r
  /-- a write -/
  | wrote {r pduId responseCode ctype parameters} :
      input = .write pduId responseCode parameters → o.takesWrite pduId responseCode parameters →
      r.2.nextTransactionLabel = avrcpNextLabel o.nextTransactionLabel → r.2.writeActive →
      r.1.packet = vendorBytes o.nextTransactionLabel ctype (responseCode ≠ 0) pduId parameters →
      r.1.event.kind ≠ .writeResponse → TransactionEffect o input r

theorem header_response {label : UInt8} (h : label ≤ 0x0F) (response : Bool) :
    avrcpVendorHeader label response &&& 0x02 = (if response then 0x02 else 0) := by
  obtain ⟨n, rfl⟩ := label_cases h
  revert n
  cases response <;> decide

theorem isCommand_vendorBytes {label : UInt8} (h : label ≤ 0x0F) (ctype : UInt8)
    (response : Bool) (pduId : UInt8) (parameters : List UInt8) :
    avrcpIsCommand (vendorBytes label ctype response pduId parameters) = !response := by
  have hhead : byteAt (vendorBytes label ctype response pduId parameters) 0 =
      avrcpVendorHeader label response := rfl
  have hne : vendorBytes label ctype response pduId parameters ≠ [] := by simp [vendorBytes]
  rw [avrcpIsCommand, hhead, header_response h]
  cases response <;> simp [hne]

theorem isCommand_response (outSize : Nat) (label response pduId : UInt8)
    (parameters : List UInt8) :
    ¬ avrcpIsCommand (avrcpWriteVendorResponse outSize label response pduId parameters) := by
  unfold avrcpWriteVendorResponse avrcpWriteVendorFrame
  split_ifs with hlabel hroom
  · simp [avrcpIsCommand]
  · simp [avrcpIsCommand]
  · have hheader := header_response (by simpa using hlabel) true
    rw [avrcpVendorHeader, if_pos rfl] at hheader
    simp [avrcpIsCommand, byteAt, hheader]

theorem isCommand_marked {packet : List UInt8} (h : byteAt packet 0 &&& 0x02 = 0x02) :
    ¬ avrcpIsCommand packet := by
  simp [avrcpIsCommand, h]

theorem submitPlaybackStatus_transaction (o : AvrcpObserver) (status : UInt8) :
    (avrcpObserverSubmitPlaybackStatus o status).2.nextTransactionLabel =
        o.nextTransactionLabel ∧
      (avrcpObserverSubmitPlaybackStatus o status).2.writeActive = o.writeActive ∧
      ¬ avrcpIsCommand (avrcpObserverSubmitPlaybackStatus o status).1.packet ∧
      (avrcpObserverSubmitPlaybackStatus o status).1.event.kind ≠ .writeResponse := by
  simp only [avrcpObserverSubmitPlaybackStatus]
  split_ifs
  all_goals first
    | exact ⟨rfl, rfl, isCommand_response _ _ _ _ _, by rintro ⟨⟩⟩
    | exact ⟨rfl, rfl, by simp [avrcpIsCommand], by rintro ⟨⟩⟩

section
variable {o : AvrcpObserver} {packet : List UInt8} {vendor : AvrcpVendorFrame}

theorem fail_transaction {o' : AvrcpObserver} (hc : ¬ o.registers packet)
    (hl : o'.nextTransactionLabel = o.nextTransactionLabel) (hw : o'.writeActive = o.writeActive)
    (error : AvrcpError) (stage : UInt8) (raw : List UInt8) :
    TransactionEffect o (.packet packet) (avrcpObserverFailStage o' error stage raw) :=
  .kept hc Bool.false_ne_true hl hw (by simp [avrcpObserverFailStage, avrcpIsCommand])
    (by rintro ⟨⟩)

theorem handlePassThrough_transaction (hc : ¬ o.registers packet) :
    TransactionEffect o (.packet packet) (avrcpObserverHandlePassThrough o packet) := by
  rcases handlePassThrough_cases o packet with
    ⟨error, stage, raw, hfail⟩ | ⟨answer, event, hstep, hkind, hmarked, -⟩
  · rw [hfail]
    exact fail_transaction hc rfl rfl _ _ _
  · rw [hstep]
    exact .kept hc Bool.false_ne_true rfl rfl (isCommand_marked hmarked) (by simp [hkind])

theorem handleVendorCommand_transaction (hc : ¬ o.registers packet) :
    TransactionEffect o (.packet packet) (avrcpObserverHandleVendorCommand o packet vendor) := by
  obtain ⟨-, hwrite, hlabel⟩ := vendorAnswer_kept o vendor.frame.transactionLabel vendor.pduId
    (vendor.parameters packet)
  simp only [avrcpObserverHandleVendorCommand]
  split_ifs
  · exact fail_transaction hc hlabel hwrite _ _ _
  · exact .kept hc Bool.false_ne_true hlabel hwrite (isCommand_response _ _ _ _ _)
      (by rintro ⟨⟩)

theorem writeVendorCommand_bytes {label : UInt8} (hl : label ≤ 0x0F) (ctype pduId : UInt8)
    {parameters : List UInt8} (hp : parameters.length ≤ 9) :
    avrcpWriteVendorCommand avrcpMaxControlPacket label ctype pduId parameters =
      vendorBytes label ctype false pduId parameters := by
  rw [writeVendorCommand_eq hl, written_eq hl false pduId hp, vendorBytes]

theorem writeVendorResponse_bytes {label : UInt8} (hl : label ≤ 0x0F) (ctype pduId : UInt8)
    {parameters : List UInt8} (hp : parameters.length ≤ 9) :
    avrcpWriteVendorResponse avrcpMaxControlPacket label ctype pduId parameters =
      vendorBytes label ctype true pduId parameters := by
  rw [writeVendorResponse_eq hl, written_eq hl true pduId hp, vendorBytes]

theorem vendorBytes_ne_nil (label ctype : UInt8) (response : Bool) (pduId : UInt8)
    (parameters : List UInt8) : ¬ vendorBytes label ctype response pduId parameters = [] := by
  simp [vendorBytes]

theorem registerVolume_transaction {o' : AvrcpObserver}
    (hl : o.nextTransactionLabel ≤ 0x0F) (hc : o.registers packet)
    (hlabel : o'.nextTransactionLabel = o.nextTransactionLabel)
    (hw : o'.writeActive = o.writeActive) {event : AvrcpObserverEvent}
    (he : event.kind ≠ .writeResponse) :
    TransactionEffect o (.packet packet) (avrcpObserverRegisterVolume o' event) := by
  simp only [avrcpObserverRegisterVolume, avrcpWriteRegisterNotification, hlabel]
  rw [writeVendorCommand_bytes hl _ _ (by simp), if_neg (vendorBytes_ne_nil _ _ _ _ _)]
  exact .asked hc rfl hw rfl he

theorem handleResponse_transaction
    (hl : o.nextTransactionLabel ≤ 0x0F) (hparse : avrcpParseVendorFrame packet = .ok vendor)
    (hwrite : ¬ avrcpAnswersWrite o vendor) (hresponse : vendor.frame.commandResponse ≠ 0)
    (hpending : ¬ (vendor.frame.transactionLabel ≠ o.pendingTransactionLabel ∨
      vendor.pduId ≠ o.pendingPduId)) :
    TransactionEffect o (.packet packet) (avrcpObserverHandleResponse o packet vendor) := by
  rw [not_or, not_not, not_not] at hpending
  have hregisters : o.registers packet =
      (o.state = .waitCapabilities ∧ vendor.frame.ctypeOrResponse = avrcpResponseStable ∧
          avrcpCapabilitiesIncludeVolume (vendor.parameters packet) ∨
        o.state = .observing ∧ vendor.frame.ctypeOrResponse = avrcpResponseChanged ∧
          (vendor.parameters packet).length = 2 ∧
          byteAt (vendor.parameters packet) 0 = avrcpEventVolumeChanged ∧
          byteAt (vendor.parameters packet) 1 ≤ 0x7F : Bool) := by
    simp [registers, hparse, hwrite, hresponse, hpending]
  simp only [avrcpObserverHandleResponse]
  split_ifs with hstate hstable hsupported hvolume hinterim hchanged
  · exact fail_transaction (by simp [hregisters, hstate, hstable]) rfl rfl _ _ _
  · refine registerVolume_transaction hl ?_ ?_ ?_ ?_
    · rw [hregisters]
      simp [hstate, not_not.mp hstable, hsupported]
    · rfl
    · rfl
    · simp
  · refine .kept ?_ Bool.false_ne_true rfl rfl (by simp [avrcpIsCommand]) ?_
    · show ¬ o.registers packet
      simp [hregisters, hstate, hsupported]
    · simp
  · refine .kept ?_ Bool.false_ne_true rfl rfl (by simp [avrcpIsCommand]) ?_
    · show ¬ o.registers packet
      simp [hregisters, hinterim.2]
    · simp
  · refine registerVolume_transaction hl ?_ ?_ ?_ ?_
    · rw [hregisters]
      simp [hchanged, hvolume]
    · rfl
    · rfl
    · simp
  · refine fail_transaction ?_ ?_ ?_ _ _ _
    · rw [hregisters]
      simp only [hstate, false_and, false_or, decide_eq_true_eq]
      rintro ⟨hobserving, hresponse, -⟩
      exact hchanged ⟨hresponse, hobserving⟩
    · rfl
    · rfl
  · refine fail_transaction ?_ rfl rfl _ _ _
    rw [hregisters]
    simp only [hstate, false_and, false_or, decide_eq_true_eq]
    rintro ⟨hobserving, -, hfields⟩
    exact hvolume ⟨.inr hobserving, hfields⟩

theorem handleWriteResponse_transaction (hparse : avrcpParseVendorFrame packet = .ok vendor)
    (hwrite : avrcpAnswersWrite o vendor) :
    TransactionEffect o (.packet packet) (avrcpObserverHandleWriteResponse o packet vendor) := by
  obtain ⟨hlabel, hactive, hcommand, -⟩ :=
    submitPlaybackStatus_transaction { o with writeActive := false } o.playbackStatus
  refine .replied ?_ Bool.false_ne_true hlabel ?_ ?_ hcommand
  · show ¬ o.registers packet
    simp [registers, hparse, hwrite]
  · simp only [avrcpAnswersWrite, decide_eq_true_eq] at hwrite
    exact hwrite.1
  · simp [avrcpObserverHandleWriteResponse, hactive]

theorem handlePacket_transaction (hl : o.nextTransactionLabel ≤ 0x0F)
    (hpending : o.state = .idle ∨ o.state = .failed → ¬ o.registers packet) :
    TransactionEffect o (.packet packet) (avrcpObserverHandlePacket o packet) := by
  unfold avrcpObserverHandlePacket
  split_ifs with hstate
  · exact fail_transaction (hpending hstate) rfl rfl _ _ _
  rcases hframe : avrcpParseFrame packet with e | frame
  · refine fail_transaction ?_ rfl rfl _ _ _
    simp [registers, avrcpParseVendorFrame, hframe]
  dsimp only
  split_ifs with hpass
  · refine handlePassThrough_transaction ?_
    have hopcode : frame.opcode ≠ avrcpOpcodeVendorDependent := by
      rw [hpass.1]
      decide
    simp [registers, avrcpParseVendorFrame, hframe, hopcode]
  rcases hparse : avrcpParseVendorFrame packet with e | vendor
  · refine fail_transaction ?_ rfl rfl _ _ _
    simp [registers, hparse]
  dsimp only [avrcpObserverHandleVendor]
  split_ifs with hwrite hcommand hother
  · exact handleWriteResponse_transaction hparse hwrite
  · refine handleVendorCommand_transaction ?_
    simp [registers, hparse, hcommand]
  · refine fail_transaction ?_ rfl rfl _ _ _
    rw [registers, hparse]
    simp only [decide_eq_true_eq]
    rintro ⟨-, -, hlabel, hpdu, -⟩
    rcases hother with h | h
    · exact h hlabel
    · exact h hpdu
  · exact handleResponse_transaction hl hparse hwrite hcommand hother

end

variable {o : AvrcpObserver}

theorem submitWrite_transaction (hl : o.nextTransactionLabel ≤ 0x0F) (pduId responseCode : UInt8)
    (parameters : List UInt8) :
    TransactionEffect o (.write pduId responseCode parameters)
      (avrcpObserverSubmitWrite o pduId responseCode parameters) := by
  have hrefused : ¬ o.takesWrite pduId responseCode parameters →
      ¬ o.commands (.write pduId responseCode parameters) ∧
        ¬ o.takesResponse (.write pduId responseCode parameters) := by
    intro h
    constructor
    · simp [commands, h]
    · simp [takesResponse, h]
  unfold avrcpObserverSubmitWrite
  split_ifs with hshape hreport hbusy hresponse
  · obtain ⟨hc, hr⟩ := hrefused (by
      simp only [takesWrite, decide_eq_true_eq]
      rintro ⟨hpdu, hsize, -⟩
      rcases hshape with h | h
      · exact hpdu h
      · omega)
    exact .kept hc hr rfl rfl (by simp [avrcpIsCommand]) (by rintro ⟨⟩)
  · obtain ⟨hlabel, hactive, hcommand, hkind⟩ :=
      submitPlaybackStatus_transaction o (byteAt parameters 1)
    obtain ⟨hc, hr⟩ := hrefused (by simp [takesWrite, hreport])
    exact .kept hc hr hlabel hactive hcommand hkind
  · obtain ⟨hc, hr⟩ := hrefused (by
      simp only [takesWrite, decide_eq_true_eq]
      rintro ⟨-, -, -, hidle, hfailed, hactive⟩
      rcases hbusy with h | h | h
      · exact hidle h
      · exact hfailed h
      · exact hactive h)
    exact .kept hc hr rfl rfl (by simp [avrcpIsCommand]) (by rintro ⟨⟩)
  all_goals
    have hsize : parameters.length ≤ 9 := by omega
    have htakes : o.takesWrite pduId responseCode parameters := by
      simp only [not_or] at hbusy hshape
      simp [takesWrite, hshape.1, Nat.le_of_not_lt hshape.2, hreport, hbusy]
    dsimp only
  · rw [writeVendorCommand_bytes hl _ _ hsize, if_neg (vendorBytes_ne_nil _ _ _ _ _)]
    exact .wrote rfl htakes rfl rfl (by simp [hresponse]; rfl) (by rintro ⟨⟩)
  · rw [writeVendorResponse_bytes hl _ _ hsize, if_neg (vendorBytes_ne_nil _ _ _ _ _)]
    exact .wrote rfl htakes rfl rfl (by simp [hresponse]; rfl) (by rintro ⟨⟩)

theorem transaction_effect (hl : o.nextTransactionLabel ≤ 0x0F) (input : AvrcpObserverInput) :
    TransactionEffect o input (avrcpObserver.step o input) := by
  cases input with
  | begin_ =>
    show TransactionEffect o .begin_ (avrcpObserverBegin o)
    rw [avrcpObserverBegin]
    by_cases hidle : o.state = .idle
    · have hframe : avrcpWriteGetCapabilitiesEvents avrcpMaxControlPacket o.nextTransactionLabel =
          vendorBytes o.nextTransactionLabel avrcpCtypeStatus false avrcpPduGetCapabilities
            [avrcpCapabilityEventsSupported] := writeVendorCommand_bytes hl _ _ (by simp)
      rw [if_neg (not_not.mpr hidle)]
      dsimp only
      rw [hframe, if_neg (vendorBytes_ne_nil _ _ _ _ _)]
      exact .asked (by simpa [commands] using hidle) rfl rfl rfl (by rintro ⟨⟩)
    · rw [if_pos hidle]
      exact .kept (by simpa [commands] using hidle) Bool.false_ne_true rfl rfl
        (by simp [avrcpObserverFail, avrcpObserverFailStage, avrcpIsCommand]) (by rintro ⟨⟩)
  | packet packet =>
    refine handlePacket_transaction hl ?_
    intro hstate
    unfold registers
    rcases avrcpParseVendorFrame packet with e | vendor
    · simp
    · rcases hstate with h | h
      · simp [h]
      · simp [h]
  | playbackStatus status =>
    obtain ⟨hlabel, hactive, hcommand, hkind⟩ := submitPlaybackStatus_transaction o status
    exact .kept Bool.false_ne_true Bool.false_ne_true hlabel hactive hcommand hkind
  | write pduId responseCode parameters =>
    exact submitWrite_transaction hl pduId responseCode parameters

/-! ## Runs -/

/-- The observer with its onlooker before anything has happened. -/
def quietStart : AvrcpObserver × AvrcpTransactions := ({}, {})

/-- The label counter counts the labels taken, and so do the labels on the wire. -/
structure Numbered (s : AvrcpObserver × AvrcpTransactions) : Prop where
  label : s.1.nextTransactionLabel.toNat = s.2.taken % 16
  outstanding : ∀ command ∈ s.2.outstanding, command.label.toNat = command.ordinal % 16 ∧
    command.ordinal < s.2.taken

theorem numbered_start : Numbered quietStart where
  label := rfl
  outstanding := fun _ h => absurd h List.not_mem_nil

variable {s : AvrcpObserver × AvrcpTransactions} {input : AvrcpObserverInput}

theorem Numbered.label_le (h : Numbered s) :
    s.1.nextTransactionLabel ≤ 0x0F := by
  have hlabel := h.label
  rw [UInt8.le_iff_toNat_le]
  show s.1.nextTransactionLabel.toNat ≤ 15
  omega

theorem nextLabel_toNat {label : UInt8} {n : Nat} (h : label.toNat = n % 16) :
    (avrcpNextLabel label).toNat = (n + 1) % 16 := by
  have hmask : (avrcpNextLabel label).toNat = ((label.toNat + 1) % 256) % 16 := by
    rw [avrcpNextLabel, UInt8.toNat_and, UInt8.toNat_add]
    exact Nat.and_two_pow_sub_one_eq_mod _ 4
  rw [hmask]
  omega

theorem mem_waiting {t : AvrcpTransactions} {command : OwnCommand} (h : command ∈ t.waiting input) :
    command ∈ t.outstanding := by
  cases input with
  | packet packet => exact List.mem_of_mem_filter h
  | _ => exact h

def sentCommand (s : AvrcpObserver × AvrcpTransactions) (input : AvrcpObserverInput) :
    Option OwnCommand :=
  ownCommand? (avrcpTransactions.out s input).packet s.2.taken

theorem ownCommand_none {packet : List UInt8} (h : ¬ avrcpIsCommand packet) (n : Nat) :
    ownCommand? packet n = none := if_neg h

theorem ownCommand_vendorBytes {label : UInt8} (hl : label ≤ 0x0F) (ctype pduId : UInt8)
    (parameters : List UInt8) (n : Nat) :
    ∃ command, ownCommand? (vendorBytes label ctype false pduId parameters) n = some command ∧
      command.label = label ∧ command.ordinal = n := by
  have hcommand : avrcpIsCommand (vendorBytes label ctype false pduId parameters) := by
    rw [isCommand_vendorBytes hl]
    rfl
  exact ⟨_, if_pos hcommand, (header_bits hl false).1, rfl⟩

theorem sentCommand_cases (h : Numbered s) (input : AvrcpObserverInput) :
    (¬ s.1.commands input ∧ sentCommand s input = none) ∨
      ∃ command, s.1.commands input ∧ sentCommand s input = some command ∧
        command.label = s.1.nextTransactionLabel ∧ command.ordinal = s.2.taken := by
  have hl := h.label_le
  have heffect := transaction_effect hl input
  have hout : avrcpTransactions.out s input = (avrcpObserver.step s.1 input).1 := rfl
  rw [sentCommand, hout]
  cases heffect with
  | kept hc _ _ _ hframe => exact .inl ⟨hc, ownCommand_none hframe _⟩
  | replied hc _ _ _ _ hframe => exact .inl ⟨hc, ownCommand_none hframe _⟩
  | asked hc _ _ hpacket =>
    rw [hpacket]
    obtain ⟨command, hown, hlabel, hordinal⟩ := ownCommand_vendorBytes hl _ _ _ s.2.taken
    exact .inr ⟨command, hc, hown, hlabel, hordinal⟩
  | @wrote pduId responseCode ctype parameters hinput htakes _ _ hpacket =>
    rw [hpacket]
    by_cases hresponse : responseCode = 0
    · have hfalse : decide (responseCode ≠ 0) = false := by simp [hresponse]
      rw [hfalse]
      obtain ⟨command, hown, hlabel, hordinal⟩ := ownCommand_vendorBytes hl _ _ _ s.2.taken
      refine .inr ⟨command, ?_, hown, hlabel, hordinal⟩
      rw [hresponse] at htakes
      simp [hinput, commands, htakes, hresponse]
    · refine .inl ⟨?_, ownCommand_none ?_ _⟩
      · simp [hinput, commands, hresponse]
      · rw [isCommand_vendorBytes hl]
        simp [hresponse]

theorem taken_cases (h : Numbered s) (input : AvrcpObserverInput) :
    (¬ s.1.commands input ∧ ¬ s.1.takesResponse input ∧
        (avrcpObserver.step s.1 input).2.nextTransactionLabel = s.1.nextTransactionLabel) ∨
      ((s.1.commands input ∨ s.1.takesResponse input) ∧
        (avrcpObserver.step s.1 input).2.nextTransactionLabel =
          avrcpNextLabel s.1.nextTransactionLabel) := by
  cases transaction_effect h.label_le input with
  | kept hc hr hkept => exact .inl ⟨hc, hr, hkept⟩
  | replied hc hr hkept => exact .inl ⟨hc, hr, hkept⟩
  | asked hc hadvanced => exact .inr ⟨.inl hc, hadvanced⟩
  | wrote hinput htakes hadvanced =>
    refine .inr ⟨?_, hadvanced⟩
    rw [hinput]
    simp only [commands, takesResponse, htakes, and_true,
      decide_eq_true_eq]
    exact Decidable.em _

theorem taken_next (h : Numbered s) (input : AvrcpObserverInput) :
    (avrcpTransactions.next s input).1.nextTransactionLabel.toNat =
        (avrcpTransactions.next s input).2.taken % 16 ∧
      s.2.taken ≤ (avrcpTransactions.next s input).2.taken ∧
      (s.1.commands input → (avrcpTransactions.next s input).2.taken = s.2.taken + 1) := by
  have htaken : (avrcpTransactions.next s input).2.taken =
      if s.1.commands input ∨ s.1.takesResponse input then s.2.taken + 1 else s.2.taken := rfl
  have hnext : (avrcpTransactions.next s input).1 = (avrcpObserver.step s.1 input).2 := rfl
  rw [htaken, hnext]
  rcases taken_cases h input with ⟨hc, hr, hkept⟩ | ⟨htakes, hadvanced⟩
  · rw [if_neg (by simp [hc, hr]), hkept]
    exact ⟨h.label, Nat.le_refl _, fun hcommands => absurd hcommands hc⟩
  · rw [if_pos htakes, hadvanced]
    exact ⟨nextLabel_toNat h.label, Nat.le_succ _, fun _ => rfl⟩

theorem numbered_step (h : Numbered s) (input : AvrcpObserverInput) :
    Numbered (avrcpTransactions.next s input) := by
  obtain ⟨hlabel, hle, hone⟩ := taken_next h input
  refine ⟨hlabel, fun command hmem => ?_⟩
  have hmem' : command ∈ (sentCommand s input).toList ++ s.2.waiting input := hmem
  rcases List.mem_append.mp hmem' with hsent | hwaiting
  · rcases sentCommand_cases h input with ⟨-, hnone⟩ | ⟨own, hc, hsome, hown, hordinal⟩
    · rw [hnone] at hsent
      cases hsent
    · rw [hsome] at hsent
      cases List.mem_singleton.mp hsent
      rw [hown, hordinal, hone hc]
      exact ⟨h.label, Nat.lt_succ_self _⟩
  · obtain ⟨heq, hlt⟩ := h.outstanding command (mem_waiting hwaiting)
    exact ⟨heq, Nat.lt_of_lt_of_le hlt hle⟩

def headsetVendorFrame (label response pduId : UInt8) (parameters : List UInt8) :
    AvrcpObserverInput :=
  .packet (avrcpWriteVendorResponse avrcpMaxControlPacket label response pduId parameters)

/-- The volume is registered for on label 1. -/
def untilObserving : List AvrcpObserverInput :=
  [.begin_, headsetVendorFrame 0 avrcpResponseStable avrcpPduGetCapabilities
      [avrcpCapabilityEventsSupported, 1, avrcpEventVolumeChanged],
    headsetVendorFrame 1 avrcpResponseInterim avrcpPduRegisterNotification
      [avrcpEventVolumeChanged, 0x26]]

/-- The host writes a volume, and the headset accepts it. -/
def volumeExchange (label : UInt8) : List AvrcpObserverInput :=
  [.write avrcpPduSetAbsoluteVolume 0 [0x30],
    headsetVendorFrame label avrcpResponseAccepted avrcpPduSetAbsoluteVolume [0x30]]

/-! ### Responses -/

namespace AvrcpObserverInput

def isResponse : AvrcpObserverInput → Bool
  | .write _ responseCode _ => responseCode ≠ 0
  | _ => false

def isCommand : AvrcpObserverInput → Bool
  | .write _ responseCode _ => responseCode = 0
  | _ => false

end AvrcpObserverInput

/-- A response opens no transaction: on its account no command is refused, and no packet is taken
    for a reply. -/
def OpenedByCommands (s : AvrcpObserver × AvrcpTransactions) (input : AvrcpObserverInput) : Prop :=
  (input.isResponse → ¬ s.1.writeActive →
    ¬ (avrcpTransactions.next s input).1.writeActive) ∧
  (input.isCommand ∨ (avrcpTransactions.out s input).event.kind = .writeResponse →
    s.1.writeActive → s.2.openedBy = 0)

instance (s : AvrcpObserver × AvrcpTransactions) (input : AvrcpObserverInput) :
    Decidable (OpenedByCommands s input) :=
  inferInstanceAs (Decidable ((input.isResponse → ¬ s.1.writeActive →
      ¬ (avrcpTransactions.next s input).1.writeActive) ∧
    (input.isCommand ∨ (avrcpTransactions.out s input).event.kind = .writeResponse →
      s.1.writeActive → s.2.openedBy = 0)))

/-- The invariant: the outstanding write is a command. -/
structure CommandOpen (s : AvrcpObserver × AvrcpTransactions) : Prop where
  numbered : Numbered s
  opened : s.1.writeActive → s.2.openedBy = 0

theorem isResponse_of_takesResponse (h : o.takesResponse input) :
    input.isResponse ∧ ¬ o.writeActive := by
  cases input with
  | write pduId responseCode parameters =>
    simp only [takesResponse, takesWrite, decide_eq_true_eq] at h
    exact ⟨by simpa [AvrcpObserverInput.isResponse] using h.1, h.2.2.2.2.2.2⟩
  | _ => cases h

theorem commands_write {pduId responseCode : UInt8} {parameters : List UInt8}
    (h : o.commands (.write pduId responseCode parameters)) :
    responseCode = 0 ∧ o.takesWrite pduId responseCode parameters ∧ ¬ o.writeActive := by
  simp only [commands, decide_eq_true_eq] at h
  refine ⟨h.1, h.2, ?_⟩
  have htakes := h.2
  simp only [takesWrite, decide_eq_true_eq] at htakes
  exact htakes.2.2.2.2.2

theorem openedBy_kept (hc : ¬ s.1.commands input ∨ s.1.writeActive)
    (hr : ¬ s.1.takesResponse input) :
    (avrcpTransactions.next s input).2.openedBy = s.2.openedBy := by
  cases input with
  | write pduId responseCode parameters =>
    refine if_neg fun htakes => ?_
    by_cases hresponse : responseCode = 0
    · have hcommands : s.1.commands (.write pduId responseCode parameters) := by
        simp only [commands, htakes, and_true, decide_eq_true_eq]
        exact hresponse
      rcases hc with hc | hactive
      · exact hc hcommands
      · exact (commands_write hcommands).2.2 hactive
    · refine hr ?_
      simp only [takesResponse, htakes, and_true, decide_eq_true_eq]
      exact hresponse
  | _ => rfl

theorem writeActive_next (h : Numbered s) (input : AvrcpObserverInput) :
    (s.1.takesResponse input → (avrcpTransactions.next s input).1.writeActive) ∧
      (¬ s.1.takesResponse input → (avrcpTransactions.next s input).1.writeActive →
        s.1.writeActive ∧ (avrcpTransactions.next s input).2.openedBy = s.2.openedBy ∨
          ¬ input.isResponse ∧ (avrcpTransactions.next s input).2.openedBy = 0) := by
  have hnext : (avrcpTransactions.next s input).1 = (avrcpObserver.step s.1 input).2 := rfl
  rw [hnext]
  cases transaction_effect h.label_le input with
  | kept hc hr _ hactive =>
    exact ⟨fun h => absurd h hr, fun _ ha => .inl ⟨hactive ▸ ha, openedBy_kept (.inl hc) hr⟩⟩
  | replied hc hr _ _ hactive =>
    exact ⟨fun h => absurd h hr, fun _ ha => absurd ha hactive⟩
  | asked hc _ hactive =>
    refine ⟨fun hr => ?_, fun hr ha => .inl ⟨hactive ▸ ha, openedBy_kept (.inr (hactive ▸ ha)) hr⟩⟩
    cases input with
    | write pduId responseCode parameters =>
      simp [takesResponse, (commands_write hc).1] at hr
    | _ => cases hr
  | @wrote pduId responseCode ctype parameters hinput htakes _ hactive =>
    refine ⟨fun _ => hactive, fun hr _ => .inr ?_⟩
    have hcommand : responseCode = 0 := by
      by_contra hresponse
      simp [hinput, takesResponse, htakes, hresponse] at hr
    have hopened : (avrcpTransactions.next s input).2.openedBy = responseCode := by
      rw [hinput]
      exact if_pos htakes
    refine ⟨?_, hopened.trans hcommand⟩
    simp [hinput, AvrcpObserverInput.isResponse, hcommand]

theorem commandOpen_step (h : CommandOpen s) (hr : ¬ s.1.takesResponse input) :
    CommandOpen (avrcpTransactions.next s input) := by
  refine ⟨numbered_step h.numbered input, fun hactive => ?_⟩
  rcases (writeActive_next h.numbered input).2 hr hactive with ⟨hbefore, hopened⟩ | ⟨-, hopened⟩
  · exact hopened.trans (h.opened hbefore)
  · exact hopened

theorem openedByCommands_iff (h : CommandOpen s) (input : AvrcpObserverInput) :
    OpenedByCommands s input ↔ ¬ s.1.takesResponse input := by
  obtain ⟨htaken, hother⟩ := writeActive_next h.numbered input
  constructor
  · rintro ⟨hopens, -⟩ htakes
    obtain ⟨hresponse, hactive⟩ := isResponse_of_takesResponse htakes
    exact hopens hresponse hactive (htaken htakes)
  · refine fun hr => ⟨fun hresponse hbefore hactive => ?_, fun _ => h.opened⟩
    rcases hother hr hactive with ⟨hactive, -⟩ | ⟨hcommand, -⟩
    · exact hbefore hactive
    · exact hcommand hresponse

/-- **Responses open no transaction** in a run, and none is felt later, if and only if no response
    is taken but the reports of the playback status. -/
theorem opened_by_commands_iff (inputs : List AvrcpObserverInput) :
    avrcpTransactions.Along OpenedByCommands quietStart inputs ↔
      avrcpTransactions.Along (fun s input => ¬ s.1.takesResponse input) quietStart inputs :=
  Reducer.along_congr (P := CommandOpen) (Q := fun _ _ => True)
    (fun _ input h _ hr => commandOpen_step h ((openedByCommands_iff h input).mp hr))
    (fun _ input h _ => openedByCommands_iff h input)
    ⟨numbered_start, fun h => absurd h Bool.false_ne_true⟩
    (Reducer.along_of_forall (fun _ _ => trivial) _ inputs)

/-- An answer to the headset's query of the play status, as a write: the next volume is
    refused. -/
theorem response_refuses_volume :
    ¬ avrcpTransactions.Along OpenedByCommands quietStart
        (untilObserving ++ [.write avrcpPduGetPlayStatus avrcpResponseStable [],
          .write avrcpPduSetAbsoluteVolume 0 [0x30]]) ∧
      (avrcpTransactions.out (avrcpTransactions.after quietStart (untilObserving ++
          [.write avrcpPduGetPlayStatus avrcpResponseStable []]))
        (.write avrcpPduSetAbsoluteVolume 0 [0x30])).packet = [] := by
  decide +kernel

/-! ### Labels of commands that wait -/

/-- A command is not sent on the label of another one that waits. -/
def FreshLabel (s : AvrcpObserver × AvrcpTransactions) (input : AvrcpObserverInput) : Prop :=
  ∀ command ∈ sentCommand s input, ∀ earlier ∈ s.2.waiting input, command.label ≠ earlier.label

/-- When a command is sent, no multiple of 16 labels have been taken since one that waits. -/
def Unwrapped (s : AvrcpObserver × AvrcpTransactions) (input : AvrcpObserverInput) : Prop :=
  s.1.commands input → ∀ earlier ∈ s.2.waiting input, (s.2.taken - earlier.ordinal) % 16 ≠ 0

instance (s : AvrcpObserver × AvrcpTransactions) (input : AvrcpObserverInput) :
    Decidable (FreshLabel s input) :=
  inferInstanceAs (Decidable (∀ command ∈ sentCommand s input, ∀ earlier ∈ s.2.waiting input,
    command.label ≠ earlier.label))

instance (s : AvrcpObserver × AvrcpTransactions) (input : AvrcpObserverInput) :
    Decidable (Unwrapped s input) :=
  inferInstanceAs (Decidable (s.1.commands input → ∀ earlier ∈ s.2.waiting input,
    (s.2.taken - earlier.ordinal) % 16 ≠ 0))

theorem freshLabel_iff (h : Numbered s) (input : AvrcpObserverInput) :
    FreshLabel s input ↔ Unwrapped s input := by
  have hlabels : ∀ earlier ∈ s.2.waiting input, s.1.nextTransactionLabel ≠ earlier.label ↔
      (s.2.taken - earlier.ordinal) % 16 ≠ 0 := by
    intro earlier hmem
    obtain ⟨heq, hlt⟩ := h.outstanding earlier (mem_waiting hmem)
    have hlabel := h.label
    rw [ne_eq, ← UInt8.toNat_inj, hlabel, heq]
    omega
  unfold FreshLabel Unwrapped
  rcases sentCommand_cases h input with ⟨hc, hnone⟩ | ⟨own, hc, hsome, hown, -⟩
  · rw [hnone]
    exact ⟨fun _ hcommands => absurd hcommands hc, fun _ command hmem => by cases hmem⟩
  · rw [hsome]
    constructor
    · intro hfresh _ earlier hmem
      exact (hlabels earlier hmem).mp (hown ▸ hfresh own rfl earlier hmem)
    · rintro hun command hcommand earlier hmem
      cases hcommand
      rw [hown]
      exact (hlabels earlier hmem).mpr (hun hc earlier hmem)

/-- **Labels of commands**: in every run no command is sent on the label of another one that
    waits if and only if none is sent when a multiple of 16 labels have been taken since one
    that waits. -/
theorem labels_fresh_iff (inputs : List AvrcpObserverInput) :
    avrcpTransactions.Along FreshLabel quietStart inputs ↔
      avrcpTransactions.Along Unwrapped quietStart inputs :=
  Reducer.along_congr (P := Numbered) (Q := fun _ _ => True)
    (fun _ input h _ _ => numbered_step h input) (fun _ input h _ => freshLabel_iff h input)
    numbered_start (Reducer.along_of_forall (fun _ _ => trivial) _ inputs)

/-- The sixteenth volume goes out on the label of the registration, which waits for CHANGED. -/
theorem volume_on_registered_label :
    ¬ avrcpTransactions.Along FreshLabel quietStart
      (untilObserving ++
        ([2, 3, 4, 5, 6, 7, 8, 9, 10, 11, 12, 13, 14, 15, 0] : List UInt8).flatMap volumeExchange ++
        [.write avrcpPduSetAbsoluteVolume 0 [0x30]]) := by
  decide +kernel

end NativeLdac.Protocol
