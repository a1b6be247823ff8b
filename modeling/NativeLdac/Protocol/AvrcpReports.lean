/-
  The CHANGED notifications of the playback status: which of them report a status that the host
  has submitted since the headset registered.

  * `avrcpChangedReport` reads such a notification off a frame;
  * `Registered`, `SubmittedSince` and `IsHonest` speak of the inputs of a run;
  * `ReportEffect` says what one input does to the notification.
-/
import Mathlib.Data.List.Induction
import NativeLdac.Protocol.AvrcpPlayback

namespace NativeLdac.Protocol

/-! ## Notifications -/

/-- The label and the status of a CHANGED notification of the playback status. -/
def avrcpChangedReport (packet : List UInt8) : Option (UInt8 × UInt8) :=
  match avrcpParseVendorFrame packet with
  | .error _ => none
  | .ok vendor =>
    let parameters := vendor.parameters packet
    if vendor.frame.commandResponse ≠ 0 ∧ vendor.pduId = avrcpPduRegisterNotification ∧
        vendor.frame.ctypeOrResponse = avrcpResponseChanged ∧ parameters.length = 2 ∧
        byteAt parameters 0 = avrcpEventPlaybackStatusChanged then
      some (vendor.frame.transactionLabel, byteAt parameters 1)
    else none

theorem changedReport_bytes {packet : List UInt8} {report : UInt8 × UInt8}
    (h : avrcpChangedReport packet = some report) :
    byteAt packet 3 = avrcpResponseChanged ∧ byteAt packet 5 = avrcpOpcodeVendorDependent := by
  rw [avrcpChangedReport] at h
  rcases hparse : avrcpParseVendorFrame packet with e | vendor
  · rw [hparse] at h
    cases h
  · rw [hparse] at h
    dsimp only at h
    split at h
    · rename_i hreport
      obtain ⟨hframe, hopcode⟩ := parseVendorFrame_frame hparse
      obtain ⟨-, -, -, hcode, -, hread, -⟩ := parseFrame_ok hframe
      exact ⟨hcode.trans hreport.2.2.1, hread.trans hopcode⟩
    · cases h

theorem changedReport_none {packet : List UInt8}
    (h : byteAt packet 3 ≠ avrcpResponseChanged ∨ byteAt packet 5 ≠ avrcpOpcodeVendorDependent) :
    avrcpChangedReport packet = none := by
  by_contra hsome
  obtain ⟨report, hreport⟩ := Option.ne_none_iff_exists'.mp hsome
  obtain ⟨hcode, hopcode⟩ := changedReport_bytes hreport
  exact h.elim (fun h => h hcode) (fun h => h hopcode)

theorem changedReport_response {label ctype : UInt8} (hl : label ≤ 0x0F) (hc : ctype ≤ 0x0F)
    (pduId : UInt8) {parameters : List UInt8} (hp : parameters.length ≤ 9) :
    avrcpChangedReport
        (avrcpWriteVendorResponse avrcpMaxControlPacket label ctype pduId parameters) =
      if avrcpIsPlaybackReport pduId ctype parameters then some (label, byteAt parameters 1)
      else none := by
  obtain ⟨vendor, hparse, hframe, hpdu, hparams⟩ := parse_written hl hc true pduId hp
  rw [avrcpChangedReport, writeVendorResponse_eq hl, hparse]
  simp only [hframe, hpdu, hparams, writtenFrame, avrcpIsPlaybackReport]
  simp

theorem writeVendorCommand_code (label ctype pduId : UInt8) {parameters : List UInt8}
    (hp : parameters.length ≤ 9) (hc : ctype ≠ avrcpResponseChanged) :
    avrcpChangedReport
      (avrcpWriteVendorCommand avrcpMaxControlPacket label ctype pduId parameters) = none := by
  by_cases hl : label > 0x0F
  · rw [avrcpWriteVendorCommand, if_pos hl]
    rfl
  · have hl' : label ≤ 0x0F := by simpa using hl
    refine changedReport_none (.inl ?_)
    rw [writeVendorCommand_eq hl', written_eq hl' false _ hp]
    exact hc

/-! ## Events of a run -/

/-- The input is a registration of the headset, on the label, that is handled. -/
def Registers (label : UInt8) (o : AvrcpObserver) (input : AvrcpObserverInput) : Prop :=
  o.state ≠ .idle ∧ o.state ≠ .failed ∧
    ∃ packet, input = .packet packet ∧ RegistersPlayback packet label

/-- The input submits the status, which is accepted. -/
def Submits (status : UInt8) (o : AvrcpObserver) (input : AvrcpObserverInput) : Prop :=
  input.submits = some status ∧ o.accepts status

/-- The input is the response to the outstanding write, and is handled. -/
def EndsWrite (o : AvrcpObserver) (input : AvrcpObserverInput) : Prop :=
  o.state ≠ .idle ∧ o.state ≠ .failed ∧ ∃ packet, input = .packet packet ∧ AnswersWrite o packet

/-- The last registration of the run is on the label. -/
def Registered (label : UInt8) (inputs : List AvrcpObserverInput) : Prop :=
  avrcpObserver.Since (fun before input => Registers label (avrcpObserver.after {} before) input)
    (fun o input => ∀ label, ¬ Registers label o input) {} inputs

/-- The status has been submitted after the last registration, which is on the label, and none
    since. -/
def SubmittedSince (label status : UInt8) (inputs : List AvrcpObserverInput) : Prop :=
  avrcpObserver.Since
    (fun before input =>
      Registered label before ∧ Submits status (avrcpObserver.after {} before) input)
    (fun o input => (∀ label, ¬ Registers label o input) ∧ ∀ status, ¬ Submits status o input) {}
    inputs

/-- A notification that the input sends reports a status submitted since the registration. -/
def IsHonest (before : List AvrcpObserverInput) (input : AvrcpObserverInput) : Prop :=
  ∀ label status,
    avrcpChangedReport (avrcpObserver.out (avrcpObserver.after {} before) input).packet =
        some (label, status) →
      SubmittedSince label status (before ++ [input])

/-- A write that is answered while a registration waits finds a status pending. -/
def IsOwed (o : AvrcpObserver) (input : AvrcpObserverInput) : Prop :=
  EndsWrite o input → o.playbackNotificationActive → o.playbackNotificationPending

/-! ## One input -/

/-- What an input does to the notification. -/
inductive ReportEffect (o : AvrcpObserver) (input : AvrcpObserverInput) :
    AvrcpObserverResult × AvrcpObserver → Prop
  /-- nothing is reported, and nothing happens to the registration -/
  | quiet {r} : avrcpChangedReport r.1.packet = none → r.2.playback = o.playback →
      (∀ label, ¬ Registers label o input) → (∀ status, ¬ Submits status o input) →
      ¬ EndsWrite o input → ReportEffect o input r
  /-- a status is submitted -/
  | submitted {status} : Submits status o input → (∀ label, ¬ Registers label o input) →
      ¬ EndsWrite o input → ReportEffect o input (avrcpObserverSubmitPlaybackStatus o status)
  /-- the headset registers -/
  | registered {label r} : Registers label o input → (∀ status, ¬ Submits status o input) →
      ¬ EndsWrite o input → avrcpChangedReport r.1.packet = none → r.2 = o.register label →
      ReportEffect o input r
  /-- the outstanding write is answered, and the status submitted again -/
  | answered {event r} : EndsWrite o input → (∀ label, ¬ Registers label o input) →
      (∀ status, ¬ Submits status o input) →
      r = avrcpObserverSubmitPlaybackStatus o.answered o.playbackStatus →
      ReportEffect o input ({ packet := r.1.packet, event := event }, r.2)

section
variable {o : AvrcpObserver} {packet : List UInt8} {vendor : AvrcpVendorFrame}

theorem not_submits_packet (status : UInt8) : ¬ Submits status o (.packet packet) :=
  fun h => by cases h.1

theorem not_registers_of_response (hparse : avrcpParseVendorFrame packet = .ok vendor)
    (hresponse : vendor.frame.commandResponse ≠ 0) (label : UInt8) :
    ¬ Registers label o (.packet packet) := by
  rintro ⟨-, -, packet', hpacket, vendor', hparse', hcommand, -⟩
  cases hpacket
  cases hparse.symm.trans hparse'
  exact hresponse hcommand

theorem quiet_of_error {e : AvrcpError} {r : AvrcpObserverResult × AvrcpObserver}
    (hparse : avrcpParseVendorFrame packet = .error e)
    (hreport : avrcpChangedReport r.1.packet = none) (hp : r.2.playback = o.playback) :
    ReportEffect o (.packet packet) r := by
  refine .quiet hreport hp ?_ not_submits_packet ?_
  · rintro label ⟨-, -, packet', hpacket, vendor, hparse', -⟩
    cases hpacket
    cases hparse.symm.trans hparse'
  · rintro ⟨-, -, packet', hpacket, vendor, hparse', -⟩
    cases hpacket
    cases hparse.symm.trans hparse'

theorem quiet_of_vendor {r : AvrcpObserverResult × AvrcpObserver}
    (hparse : avrcpParseVendorFrame packet = .ok vendor)
    (hregisters : ∀ label, ¬ RegistersPlayback packet label)
    (hanswers : ¬ avrcpAnswersWrite o vendor) (hreport : avrcpChangedReport r.1.packet = none)
    (hp : r.2.playback = o.playback) :
    ReportEffect o (.packet packet) r := by
  refine .quiet hreport hp ?_ not_submits_packet ?_
  · rintro label ⟨-, -, packet', hpacket, h⟩
    cases hpacket
    exact hregisters label h
  · rintro ⟨-, -, packet', hpacket, vendor', hparse', h⟩
    cases hpacket
    cases hparse.symm.trans hparse'
    exact hanswers h

theorem registerVolume_report (event : AvrcpObserverEvent) :
    avrcpChangedReport (avrcpObserverRegisterVolume o event).1.packet = none ∧
      (avrcpObserverRegisterVolume o event).2.playback = o.playback := by
  simp only [avrcpObserverRegisterVolume]
  split
  · exact ⟨rfl, rfl⟩
  · exact ⟨writeVendorCommand_code _ _ _ (by simp) (by decide), rfl⟩

theorem vendorAnswer_code (label pduId : UInt8) (parameters : List UInt8) :
    (avrcpVendorAnswer o label pduId parameters).1.1 ≠ avrcpResponseChanged := by
  simp only [avrcpVendorAnswer]
  split_ifs <;> simp [avrcpResponseChanged, avrcpResponseStable, avrcpResponseInterim,
    avrcpResponseNotImplemented]

theorem vendorAnswer_other (label pduId : UInt8) (parameters : List UInt8)
    (h : ¬ (pduId = avrcpPduRegisterNotification ∧ parameters.length ≥ 1 ∧
      byteAt parameters 0 = avrcpEventPlaybackStatusChanged)) :
    (avrcpVendorAnswer o label pduId parameters).2 = o := by
  simp only [avrcpVendorAnswer]
  split_ifs with h₁ h₂ h₃
  · rfl
  · exact absurd ⟨h₂.1, h₂.2, h₃⟩ h
  all_goals rfl

theorem vendorCommand_reports (hidle : o.state ≠ .idle) (hfailed : o.state ≠ .failed)
    (hparse : avrcpParseVendorFrame packet = .ok vendor)
    (hcommand : vendor.frame.commandResponse = 0) :
    ReportEffect o (.packet packet) (avrcpObserverHandleVendorCommand o packet vendor) := by
  obtain ⟨answer, -, hcode, hstep⟩ := handleVendorCommand_eq o hparse
  have hreport : avrcpChangedReport answer = none :=
    changedReport_none (.inl (by rw [hcode]; exact vendorAnswer_code _ _ _))
  have hanswers : ¬ avrcpAnswersWrite o vendor := by simp [avrcpAnswersWrite, hcommand]
  rw [hstep]
  by_cases hregisters : vendor.pduId = avrcpPduRegisterNotification ∧
      (vendor.parameters packet).length ≥ 1 ∧
      byteAt (vendor.parameters packet) 0 = avrcpEventPlaybackStatusChanged
  · obtain ⟨hpdu, hlength, hevent⟩ := hregisters
    have hregistered : Registers vendor.frame.transactionLabel o (.packet packet) :=
      ⟨hidle, hfailed, packet, rfl, vendor, hparse, hcommand, rfl, hpdu, hlength, hevent⟩
    refine .registered hregistered not_submits_packet ?_ hreport ?_
    · rintro ⟨-, -, packet', hpacket, vendor', hparse', h⟩
      cases hpacket
      cases hparse.symm.trans hparse'
      exact hanswers h
    · rw [hpdu, vendorAnswer_registers o _ hlength hevent]
  · refine quiet_of_vendor hparse ?_ hanswers hreport ?_
    · rintro label ⟨vendor', hparse', -, -, h⟩
      cases hparse.symm.trans hparse'
      exact hregisters h
    · rw [vendorAnswer_other _ _ _ hregisters]

theorem response_reports (hparse : avrcpParseVendorFrame packet = .ok vendor)
    (hresponse : vendor.frame.commandResponse ≠ 0) (hanswers : ¬ avrcpAnswersWrite o vendor) :
    ReportEffect o (.packet packet) (avrcpObserverHandleResponse o packet vendor) := by
  have hregisters : ∀ label, ¬ RegistersPlayback packet label := by
    rintro label ⟨vendor', hparse', hcommand, -⟩
    cases hparse.symm.trans hparse'
    exact hresponse hcommand
  have hquiet : ∀ {r : AvrcpObserverResult × AvrcpObserver},
      avrcpChangedReport r.1.packet = none ∧ r.2.playback = o.playback →
        ReportEffect o (.packet packet) r :=
    fun h => quiet_of_vendor hparse hregisters hanswers h.1 h.2
  simp only [avrcpObserverHandleResponse]
  split_ifs
  · exact hquiet ⟨rfl, rfl⟩
  · exact hquiet (registerVolume_report _)
  · exact hquiet ⟨rfl, rfl⟩
  · exact hquiet ⟨rfl, rfl⟩
  · exact hquiet (registerVolume_report _)
  · exact hquiet ⟨rfl, rfl⟩
  · exact hquiet ⟨rfl, rfl⟩

theorem passThrough_reports {frame : AvrcpFrame} (hframe : avrcpParseFrame packet = .ok frame)
    (hopcode : frame.opcode = avrcpOpcodePassThrough) :
    ReportEffect o (.packet packet) (avrcpObserverHandlePassThrough o packet) := by
  have herror : avrcpParseVendorFrame packet = .error .protocolError := by
    rw [avrcpParseVendorFrame, hframe]
    exact if_pos (by rw [hopcode]; decide)
  rcases handlePassThrough_cases o packet with
    ⟨error, stage, raw, hfail⟩ | ⟨answer, event, hstep, -, -, hanswer⟩
  · rw [hfail]
    exact quiet_of_error herror rfl rfl
  · rw [hstep]
    refine quiet_of_error herror (changedReport_none (.inr ?_)) rfl
    rw [hanswer]
    decide

theorem packet_reports (o : AvrcpObserver) (packet : List UInt8) :
    ReportEffect o (.packet packet) (avrcpObserverHandlePacket o packet) := by
  unfold avrcpObserverHandlePacket
  by_cases hstate : o.state = .idle ∨ o.state = .failed
  · rw [if_pos hstate]
    refine .quiet rfl rfl ?_ not_submits_packet ?_
    · rintro label ⟨hidle, hfailed, -⟩
      exact hstate.elim hidle hfailed
    · rintro ⟨hidle, hfailed, -⟩
      exact hstate.elim hidle hfailed
  rw [if_neg hstate]
  rw [not_or] at hstate
  rcases hframe : avrcpParseFrame packet with e | frame
  · have herror : avrcpParseVendorFrame packet = .error e := by rw [avrcpParseVendorFrame, hframe]
    exact quiet_of_error herror rfl rfl
  dsimp only
  split_ifs with hpass
  · exact passThrough_reports hframe hpass.1
  rcases hparse : avrcpParseVendorFrame packet with e | vendor
  · exact quiet_of_error hparse rfl rfl
  dsimp only
  unfold avrcpObserverHandleVendor
  split_ifs with hanswers hcommand hpending
  · have hresponse : vendor.frame.commandResponse ≠ 0 := by
      simp only [avrcpAnswersWrite, decide_eq_true_eq] at hanswers
      exact hanswers.2.1
    exact .answered ⟨hstate.1, hstate.2, packet, rfl, vendor, hparse, hanswers⟩
      (not_registers_of_response hparse hresponse) not_submits_packet rfl
  · exact vendorCommand_reports hstate.1 hstate.2 hparse hcommand
  · refine quiet_of_vendor hparse ?_ hanswers rfl rfl
    rintro label ⟨vendor', hparse', hcommand', -⟩
    cases hparse.symm.trans hparse'
    exact hcommand hcommand'
  · exact response_reports hparse hcommand hanswers

theorem not_packet {input : AvrcpObserverInput} (h : ∀ packet, input ≠ .packet packet) :
    (∀ label, ¬ Registers label o input) ∧ ¬ EndsWrite o input :=
  ⟨fun _ ⟨_, _, packet, hpacket, _⟩ => h packet hpacket,
    fun ⟨_, _, packet, hpacket, _⟩ => h packet hpacket⟩

theorem submission_reports {input : AvrcpObserverInput} {status : UInt8}
    (hsubmits : input.submits = some status) (hpacket : ∀ packet, input ≠ .packet packet) :
    ReportEffect o input (avrcpObserverSubmitPlaybackStatus o status) := by
  obtain ⟨hregisters, hends⟩ := not_packet (o := o) hpacket
  by_cases ha : o.accepts status
  · exact .submitted ⟨hsubmits, ha⟩ hregisters hends
  · rw [submit_refused ha]
    refine .quiet rfl rfl hregisters ?_ hends
    rintro status' ⟨hsubmits', ha'⟩
    cases hsubmits.symm.trans hsubmits'
    exact ha ha'

theorem write_report {label : UInt8} (hl : label ≤ 0x0F) {pduId responseCode : UInt8}
    {parameters : List UInt8} (hp : parameters.length ≤ 8)
    (hordinary : ¬ avrcpIsPlaybackReport pduId responseCode parameters) :
    avrcpChangedReport
      (if responseCode = 0 then
        avrcpWriteVendorCommand avrcpMaxControlPacket label avrcpCtypeControl pduId parameters
      else avrcpWriteVendorResponse avrcpMaxControlPacket label responseCode pduId parameters) =
        none := by
  split
  · exact writeVendorCommand_code _ _ _ (by omega) (by decide)
  · by_cases hcode : responseCode = avrcpResponseChanged
    · have hc : responseCode ≤ 0x0F := by rw [hcode]; decide
      rw [changedReport_response hl hc pduId (by omega), if_neg hordinary]
    · refine changedReport_none (.inl ?_)
      rw [writeVendorResponse_eq hl, written_eq hl true _ (by omega)]
      exact hcode

theorem report_effect (hl : o.nextTransactionLabel ≤ 0x0F) (input : AvrcpObserverInput) :
    ReportEffect o input (avrcpObserver.step o input) := by
  cases input with
  | begin_ =>
    obtain ⟨hregisters, hends⟩ := not_packet (o := o)
      (show ∀ packet, AvrcpObserverInput.begin_ ≠ .packet packet by simp)
    have hsubmits : ∀ status, ¬ Submits status o .begin_ := fun _ h => by cases h.1
    show ReportEffect o _ (avrcpObserverBegin o)
    simp only [avrcpObserverBegin]
    split_ifs
    · exact .quiet rfl rfl hregisters hsubmits hends
    · exact .quiet rfl rfl hregisters hsubmits hends
    · exact .quiet (writeVendorCommand_code _ _ _ (by simp) (by decide)) rfl hregisters hsubmits hends
  | packet packet => exact packet_reports o packet
  | playbackStatus status => exact submission_reports rfl (by simp)
  | write pduId responseCode parameters =>
    show ReportEffect o _ (avrcpObserverSubmitWrite o pduId responseCode parameters)
    by_cases hreport : avrcpIsPlaybackReport pduId responseCode parameters
    · have hargs : ¬ (pduId = 0 ∨ parameters.length > 8) := by
        simp only [avrcpIsPlaybackReport, decide_eq_true_eq] at hreport
        rintro (h | h)
        · rw [h] at hreport
          exact absurd hreport.1 (by decide)
        · omega
      rw [avrcpObserverSubmitWrite, if_neg hargs, if_pos hreport]
      exact submission_reports (if_pos hreport) (by simp)
    · obtain ⟨hregisters, hends⟩ := not_packet (o := o)
        (show ∀ packet, AvrcpObserverInput.write pduId responseCode parameters ≠ .packet packet
          by simp)
      have hsubmits : ∀ status, ¬ Submits status o (.write pduId responseCode parameters) :=
        fun status h => by
          have hnone : (AvrcpObserverInput.write pduId responseCode parameters).submits = none :=
            if_neg hreport
          cases hnone.symm.trans h.1
      simp only [avrcpObserverSubmitWrite, if_neg hreport]
      split
      · exact .quiet rfl rfl hregisters hsubmits hends
      rename_i hargs
      rw [not_or, Nat.not_lt] at hargs
      have hwritten := write_report hl hargs.2 hreport
      split_ifs at hwritten ⊢
      all_goals first
        | exact .quiet rfl rfl hregisters hsubmits hends
        | exact .quiet hwritten rfl hregisters hsubmits hends

theorem submit_report {status : UInt8} (ha : o.accepts status)
    (hl : o.playbackNotificationLabel ≤ 0x0F) :
    avrcpChangedReport (avrcpObserverSubmitPlaybackStatus o status).1.packet =
      if o.playbackNotificationActive ∧ ¬ o.writeActive then
        some (o.playbackNotificationLabel, status)
      else none := by
  have hreport := changedReport_response hl (by decide : avrcpResponseChanged ≤ 0x0F)
    avrcpPduRegisterNotification
    (show [avrcpEventPlaybackStatusChanged, status].length ≤ 9 by simp)
  rw [if_pos (by simp [avrcpIsPlaybackReport, byteAt])] at hreport
  simp only [AvrcpObserver.accepts, decide_eq_true_eq] at ha
  have hstate : ¬ (¬ avrcpIsValidPlaybackStatus status ∨ o.state = .idle ∨ o.state = .failed) := by
    rintro (h | h | h)
    · exact h ha.1
    · exact ha.2.1 h
    · exact ha.2.2 h
  rw [avrcpObserverSubmitPlaybackStatus, if_neg hstate]
  dsimp only
  cases hactive : o.playbackNotificationActive with
  | false => rfl
  | true =>
    cases hwrite : o.writeActive with
    | true => rfl
    | false =>
      simp only [not_true_eq_false, if_false, Bool.false_eq_true, not_false_eq_true, and_self, if_true]
      split
      · rename_i hnone
        rw [hnone] at hreport
        cases hreport
      · exact hreport

end

/-! ## Runs -/

theorem told_after (inputs : List AvrcpObserverInput) :
    ∃ ledger, Told (avrcpObserver.after {} inputs, ledger) :=
  Reducer.after_inv (M := avrcpObserver) (P := fun o => ∃ ledger, Told (o, ledger))
    (Q := fun _ _ => True) (fun _ input ⟨_, h⟩ _ => ⟨_, told_step h input⟩) ⟨_, told_init⟩
    (Reducer.along_of_forall (fun _ _ => trivial) _ inputs)

/-- What a registration that waits says of the run. -/
structure Waits (inputs : List AvrcpObserverInput) (o : AvrcpObserver) : Prop where
  registered : o.playbackNotificationActive → Registered o.playbackNotificationLabel inputs
  pending : o.playbackNotificationActive → o.playbackNotificationPending →
    SubmittedSince o.playbackNotificationLabel o.playbackStatus inputs
  unsubmitted : o.playbackNotificationActive → o.playbackNotificationPending = false →
    ∀ label status, ¬ SubmittedSince label status inputs

section
variable {inputs : List AvrcpObserverInput} {input : AvrcpObserverInput} {o o' : AvrcpObserver}

theorem waits_of_inactive (h : o.playbackNotificationActive = false) : Waits inputs o := by
  constructor <;> intro hactive <;> rw [h] at hactive <;> cases hactive

theorem submittedSince_snoc
    (hregisters : ∀ label, ¬ Registers label (avrcpObserver.after {} inputs) input)
    (hsubmits : ∀ status, ¬ Submits status (avrcpObserver.after {} inputs) input)
    {label status : UInt8} :
    SubmittedSince label status (inputs ++ [input]) ↔ SubmittedSince label status inputs := by
  rw [SubmittedSince, Reducer.since_snoc]
  constructor
  · rintro (⟨-, h⟩ | ⟨h, -⟩)
    · exact absurd h (hsubmits status)
    · exact h
  · exact fun h => .inr ⟨h, hregisters, hsubmits⟩

theorem Waits.quiet (h : Waits inputs o) (hp : o'.playback = o.playback)
    (hregisters : ∀ label, ¬ Registers label (avrcpObserver.after {} inputs) input)
    (hsubmits : ∀ status, ¬ Submits status (avrcpObserver.after {} inputs) input) :
    Waits (inputs ++ [input]) o' := by
  simp only [AvrcpObserver.playback, AvrcpObserver.Playback.mk.injEq] at hp
  obtain ⟨hstatus, -, hlabel, hactive, hpending⟩ := hp
  constructor
  · rw [hactive, hlabel]
    exact fun ha => (h.registered ha).snoc hregisters
  · rw [hactive, hpending, hlabel, hstatus, submittedSince_snoc hregisters hsubmits]
    exact h.pending
  · rw [hactive, hpending]
    intro ha hnone label status
    rw [submittedSince_snoc hregisters hsubmits]
    exact h.unsubmitted ha hnone label status

theorem answered_inactive {ledger : AvrcpPlaybackLedger} (htold : Told (o, ledger))
    (hidle : o.state ≠ .idle) (hfailed : o.state ≠ .failed) :
    o.answered.accepts o.playbackStatus ∧
      (avrcpObserverSubmitPlaybackStatus o.answered
        o.playbackStatus).2.playbackNotificationActive = false := by
  have ha : o.answered.accepts o.playbackStatus := by
    simp only [AvrcpObserver.accepts, decide_eq_true_eq]
    exact ⟨htold.valid, hidle, hfailed⟩
  refine ⟨ha, ?_⟩
  rcases submit_cases ha htold.label with ⟨hinactive, hr⟩ | ⟨-, hwrite, -⟩ | ⟨-, -, packet, -, hr⟩
  · rw [hr]
    exact hinactive
  · cases hwrite
  · rw [hr]

theorem waits_step (h : Waits inputs (avrcpObserver.after {} inputs)) (input : AvrcpObserverInput) :
    Waits (inputs ++ [input]) (avrcpObserver.next (avrcpObserver.after {} inputs) input) := by
  obtain ⟨ledger, htold⟩ := told_after inputs
  have heffect := report_effect (label_after inputs) input
  unfold Reducer.next
  generalize avrcpObserver.step (avrcpObserver.after {} inputs) input = r at heffect
  cases heffect with
  | quiet _ hp hregisters hsubmits => exact h.quiet hp hregisters hsubmits
  | submitted hsubmits hregisters =>
    rcases submit_cases hsubmits.2 htold.label with ⟨hinactive, hr⟩ | ⟨hactive, hwrite, hr⟩ |
      ⟨-, -, packet, -, hr⟩
    · rw [hr]
      exact waits_of_inactive hinactive
    · have hregistered := h.registered hactive
      rw [hr]
      exact ⟨fun _ => hregistered.snoc hregisters,
        fun _ _ => Reducer.since_now ⟨hregistered, hsubmits⟩, fun _ hnone => by cases hnone⟩
    · rw [hr]
      exact waits_of_inactive rfl
  | @registered label r hregisters hsubmits _ _ hr =>
    rw [hr]
    refine ⟨fun _ => Reducer.since_now hregisters, (fun _ hpending => by cases hpending), ?_⟩
    intro _ _ label' status hsubmitted
    rcases Reducer.since_snoc.mp hsubmitted with ⟨-, hnow⟩ | ⟨-, hkept, -⟩
    · exact hsubmits status hnow
    · exact hkept label hregisters
  | @answered event r hends _ _ hr =>
    rw [hr]
    exact waits_of_inactive (answered_inactive htold hends.1 hends.2.1).2

theorem waits_after (inputs : List AvrcpObserverInput) :
    Waits inputs (avrcpObserver.after {} inputs) := by
  induction inputs using List.reverseRecOn with
  | nil => exact waits_of_inactive rfl
  | append_singleton inputs input ih =>
    rw [Reducer.after_snoc]
    exact waits_step ih input

theorem isHonest_iff (before : List AvrcpObserverInput) (input : AvrcpObserverInput) :
    IsHonest before input ↔ IsOwed (avrcpObserver.after {} before) input := by
  obtain ⟨ledger, htold⟩ := told_after before
  have hwaits := waits_after before
  have heffect := report_effect (label_after before) input
  unfold IsHonest Reducer.out
  generalize avrcpObserver.step (avrcpObserver.after {} before) input = r at heffect
  cases heffect with
  | quiet hreport _ _ _ hends =>
    refine ⟨fun _ h => absurd h hends, fun _ label status hsome => ?_⟩
    cases hreport.symm.trans hsome
  | @submitted status hsubmits _ hends =>
    refine ⟨fun _ h => absurd h hends, fun _ label status' hsome => ?_⟩
    rw [submit_report hsubmits.2 htold.label] at hsome
    split at hsome
    · rename_i hsent
      cases hsome
      exact Reducer.since_now ⟨hwaits.registered hsent.1, hsubmits⟩
    · cases hsome
  | registered _ _ hends hreport =>
    refine ⟨fun _ h => absurd h hends, fun _ label status hsome => ?_⟩
    cases hreport.symm.trans hsome
  | @answered event r hends hregisters hsubmits hr =>
    have hreport := submit_report (answered_inactive htold hends.1 hends.2.1).1 htold.label
    rw [← hr] at hreport
    constructor
    · intro hhonest _ hactive
      rw [← Bool.not_eq_false]
      intro hnone
      refine hwaits.unsubmitted hactive hnone _ _ ((submittedSince_snoc hregisters hsubmits).mp
        (hhonest _ _ (hreport.trans (if_pos ⟨hactive, ?_⟩))))
      simp [AvrcpObserver.answered]
    · intro howed label status hsome
      rw [submittedSince_snoc hregisters hsubmits]
      rw [hreport] at hsome
      split at hsome
      · rename_i hsent
        cases hsome
        exact hwaits.pending hsent.1 (howed hends hsent.1)
      · cases hsome

end

/-- Every notification of the run reports a status submitted since the registration. -/
def ReportsHonest (inputs : List AvrcpObserverInput) : Prop :=
  ∀ before input later, inputs = before ++ input :: later → IsHonest before input

/-- **The notifications of a run are honest exactly if every write that is answered while a
    registration waits finds a status pending.** -/
theorem reports_honest_iff (inputs : List AvrcpObserverInput) :
    ReportsHonest inputs ↔ avrcpObserver.Along IsOwed {} inputs := by
  rw [Reducer.along_iff_forall]
  refine forall_congr' fun before => forall_congr' fun input => forall_congr' fun later => ?_
  exact imp_congr_right fun _ => isHonest_iff before input

/-- The headset registers for the playback status, and the host sets the volume; no status is
    ever submitted. -/
def volumeSet : List AvrcpObserverInput :=
  [.begin_,
    .packet [0x50, 0x11, 0x0E, 0x03, 0x48, 0x00, 0x00, 0x19, 0x58, 0x31, 0, 0, 5, 0x01, 0, 0, 0, 0],
    .write avrcpPduSetAbsoluteVolume 0 [0x40]]

def volumeAccepted : List UInt8 :=
  [0x12, 0x11, 0x0E, 0x09, 0x48, 0x00, 0x00, 0x19, 0x58, 0x50, 0, 0, 1, 0x40]

theorem volume_reports_status : ¬ ∀ inputs, ReportsHonest inputs := by
  intro h
  have hhonest := h (volumeSet ++ [.packet volumeAccepted]) volumeSet (.packet volumeAccepted) [] rfl
  have hanswers : AnswersWrite (avrcpObserver.after {} volumeSet) volumeAccepted :=
    ⟨{ frame := avrcpVendorFrameRead 1 avrcpResponseAccepted true 8
       companyId := avrcpCompanyIdBluetoothSig
       pduId := avrcpPduSetAbsoluteVolume
       pduPacketType := 0
       parametersOffset := 13
       parametersSize := 1 }, by decide, by decide⟩
  have hpending := (isHonest_iff volumeSet (.packet volumeAccepted)).mp hhonest
    ⟨by decide, by decide, volumeAccepted, rfl, hanswers⟩ (by decide)
  exact absurd hpending (by decide)

end NativeLdac.Protocol
