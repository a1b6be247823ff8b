/-
  The playback status of the AVRCP observer: what the headset has been told of it
  for its registration, and what it is still owed.

  * `avrcpConveyedStatus` reads a status off a frame sent to the headset;
  * `PlaybackLedger` remembers the status last conveyed and the one last accepted,
    as an observer of the inputs and results would;
  * `PlaybackEffect` says what one input does to the playback side.
-/
import Mathlib.Data.List.Basic
import Mathlib.Tactic.SplitIfs
import Mathlib.Tactic.ByContra
import NativeLdac.Protocol.VendorFrame

namespace NativeLdac.Protocol

/-! ## Frames read back -/

variable {parameters : List UInt8} {label ctype : UInt8} {o : AvrcpObserver}

theorem written_eq (hl : label ≤ 0x0F) (response : Bool) (pduId : UInt8)
    (hp : parameters.length ≤ 9) :
    avrcpWriteVendorFrame avrcpMaxControlPacket (avrcpVendorHeader label response) ctype pduId
        parameters =
      [avrcpVendorHeader label response, 0x11, 0x0E, ctype, 0x48, 0x00, 0x00, 0x19, 0x58, pduId, 0,
        0, UInt8.ofNat parameters.length] ++ parameters := by
  rw [writeVendorFrame_eq hl response pduId (by omega) (by simp only [avrcpMaxControlPacket]; omega),
    avrcpVendorPrefix, Nat.div_eq_of_lt (by omega)]
  rfl

def writtenFrame (label ctype : UInt8) (response : Bool) (parameters : List UInt8) : AvrcpFrame where
  transactionLabel := label
  packetType := avctpPacketSingle
  commandResponse := if response then 1 else 0
  invalidProfileId := 0
  profileId := avrcpProfileId
  ctypeOrResponse := ctype
  subunitType := avrcpPanelSubunitType
  subunitId := avrcpPanelSubunitId
  opcode := avrcpOpcodeVendorDependent
  operandsOffset := 6
  operandsSize := parameters.length + 7

theorem parse_written (hl : label ≤ 0x0F) (hc : ctype ≤ 0x0F) (response : Bool) (pduId : UInt8)
    (hp : parameters.length ≤ 9) :
    ∃ vendor, avrcpParseVendorFrame (avrcpWriteVendorFrame avrcpMaxControlPacket
        (avrcpVendorHeader label response) ctype pduId parameters) = .ok vendor ∧
      vendor.frame = writtenFrame label ctype response parameters ∧ vendor.pduId = pduId ∧
      vendor.parameters (avrcpWriteVendorFrame avrcpMaxControlPacket
        (avrcpVendorHeader label response) ctype pduId parameters) = parameters :=
  parseVendorFrame_written hl hc response pduId (by omega)
    (by simp only [avrcpMaxControlPacket]; omega)

/-! ## What the headset is told -/

/-- The playback status that a frame conveys for the registration with the label, in
    an INTERIM or a CHANGED response. -/
def avrcpConveyedStatus (label : UInt8) (packet : List UInt8) : Option UInt8 :=
  match avrcpParseVendorFrame packet with
  | .error _ => none
  | .ok vendor =>
    let parameters := vendor.parameters packet
    if vendor.frame.commandResponse ≠ 0 ∧ vendor.frame.transactionLabel = label ∧
        vendor.pduId = avrcpPduRegisterNotification ∧
        (vendor.frame.ctypeOrResponse = avrcpResponseInterim ∨
          vendor.frame.ctypeOrResponse = avrcpResponseChanged) ∧
        parameters.length = 2 ∧ byteAt parameters 0 = avrcpEventPlaybackStatusChanged then
      some (byteAt parameters 1)
    else none

theorem conveyedStatus_nil (label : UInt8) : avrcpConveyedStatus label [] = none := rfl

theorem writeVendorResponse_eq {label : UInt8} (hl : label ≤ 0x0F) (ctype pduId : UInt8)
    (parameters : List UInt8) :
    avrcpWriteVendorResponse avrcpMaxControlPacket label ctype pduId parameters =
      avrcpWriteVendorFrame avrcpMaxControlPacket (avrcpVendorHeader label true) ctype pduId
        parameters := by
  rw [avrcpWriteVendorResponse, if_neg (by simpa using hl)]
  rfl

theorem writeVendorCommand_eq {label : UInt8} (hl : label ≤ 0x0F) (ctype pduId : UInt8)
    (parameters : List UInt8) :
    avrcpWriteVendorCommand avrcpMaxControlPacket label ctype pduId parameters =
      avrcpWriteVendorFrame avrcpMaxControlPacket (avrcpVendorHeader label false) ctype pduId
        parameters := by
  rw [avrcpWriteVendorCommand, if_neg (by simpa using hl), avrcpVendorHeader]
  simp

theorem registerVolume_event (hl : o.nextTransactionLabel ≤ 0x0F) (event : AvrcpObserverEvent) :
    (avrcpObserverRegisterVolume o event).1.event = event := by
  simp only [avrcpObserverRegisterVolume, avrcpWriteRegisterNotification, writeVendorCommand_eq hl]
  rw [written_eq hl false _ (by simp), if_neg (by simp)]

theorem conveyedStatus_response (hl : label ≤ 0x0F) (hc : ctype ≤ 0x0F) (pduId : UInt8)
    (hp : parameters.length ≤ 9) (label' : UInt8) :
    avrcpConveyedStatus label'
        (avrcpWriteVendorResponse avrcpMaxControlPacket label ctype pduId parameters) =
      if label = label' ∧ pduId = avrcpPduRegisterNotification ∧
        (ctype = avrcpResponseInterim ∨ ctype = avrcpResponseChanged) ∧ parameters.length = 2 ∧
        byteAt parameters 0 = avrcpEventPlaybackStatusChanged then some (byteAt parameters 1)
      else none := by
  obtain ⟨vendor, hparse, hframe, hpdu, hparams⟩ := parse_written hl hc true pduId hp
  rw [avrcpConveyedStatus, writeVendorResponse_eq hl, hparse]
  simp only [hframe, hpdu, hparams, writtenFrame]
  simp

theorem conveyedStatus_report (hl : label ≤ 0x0F)
    (hc : ctype = avrcpResponseInterim ∨ ctype = avrcpResponseChanged) (status : UInt8) :
    avrcpConveyedStatus label (avrcpWriteVendorResponse avrcpMaxControlPacket label ctype
      avrcpPduRegisterNotification [avrcpEventPlaybackStatusChanged, status]) = some status := by
  have hresponse : ctype ≤ 0x0F := by rcases hc with rfl | rfl <;> decide
  rw [conveyedStatus_response hl hresponse _ (by simp), if_pos ⟨rfl, rfl, hc, rfl, rfl⟩]
  rfl

theorem conveyedStatus_command (label ctype pduId : UInt8) (hc : ctype ≤ 0x0F)
    (hp : parameters.length ≤ 9) (label' : UInt8) :
    avrcpConveyedStatus label'
      (avrcpWriteVendorCommand avrcpMaxControlPacket label ctype pduId parameters) = none := by
  by_cases hl : label > 0x0F
  · rw [avrcpWriteVendorCommand, if_pos hl]
    rfl
  · have hl' : label ≤ 0x0F := by simpa using hl
    obtain ⟨vendor, hparse, hframe, -⟩ := parse_written hl' hc false pduId hp
    rw [avrcpConveyedStatus, writeVendorCommand_eq hl', hparse]
    simp [hframe, writtenFrame]

theorem conveyedStatus_opcode {packet : List UInt8}
    (h : byteAt packet 5 ≠ avrcpOpcodeVendorDependent) (label : UInt8) :
    avrcpConveyedStatus label packet = none := by
  have herror : ∃ e, avrcpParseVendorFrame packet = .error e := by
    rw [avrcpParseVendorFrame]
    rcases hframe : avrcpParseFrame packet with e | frame
    · exact ⟨e, rfl⟩
    · refine ⟨.protocolError, if_pos ?_⟩
      simp only [avrcpParseFrame] at hframe
      split_ifs at hframe
      cases hframe
      exact h
  obtain ⟨e, he⟩ := herror
  rw [avrcpConveyedStatus, he]

/-! ## The ledger -/

structure AvrcpPlaybackLedger where
  /-- the status conveyed last for the registration -/
  conveyed : Option UInt8 := none
  /-- the submitted status accepted last -/
  accepted : Option UInt8 := none
deriving DecidableEq, Repr

namespace AvrcpObserverInput

/-- The playback status that an input submits. -/
def submits : AvrcpObserverInput → Option UInt8
  | .playbackStatus status => some status
  | .write pduId responseCode parameters =>
    if avrcpIsPlaybackReport pduId responseCode parameters then some (byteAt parameters 1)
    else none
  | _ => none

/-- A write that is no report goes out on a label of the observer's own. -/
def ordinaryWrite : AvrcpObserverInput → Bool
  | .write pduId responseCode parameters => !avrcpIsPlaybackReport pduId responseCode parameters
  | _ => false

end AvrcpObserverInput

def AvrcpObserver.accepts (observer : AvrcpObserver) (status : UInt8) : Bool :=
  avrcpIsValidPlaybackStatus status ∧ observer.state ≠ .idle ∧ observer.state ≠ .failed

def AvrcpPlaybackLedger.record (ledger : AvrcpPlaybackLedger) (observer : AvrcpObserver)
    (input : AvrcpObserverInput) (r : AvrcpObserverResult × AvrcpObserver) :
    AvrcpPlaybackLedger where
  conveyed :=
    if input.ordinaryWrite then ledger.conveyed
    else (avrcpConveyedStatus r.2.playbackNotificationLabel r.1.packet).or ledger.conveyed
  accepted := (input.submits.filter observer.accepts).or ledger.accepted

def playbackLedger :
    Reducer (AvrcpObserver × AvrcpPlaybackLedger) AvrcpObserverInput AvrcpObserverResult where
  step s input :=
    let r := avrcpObserver.step s.1 input
    (r.1, r.2, s.2.record s.1 input r)

/-! ## One input -/

namespace AvrcpObserver

/-- The playback side of an observer. -/
structure Playback where
  status : UInt8
  valid : Bool
  label : UInt8
  active : Bool
  pending : Bool
deriving DecidableEq, Repr

def playback (observer : AvrcpObserver) : Playback where
  status := observer.playbackStatus
  valid := observer.playbackStatusValid
  label := observer.playbackNotificationLabel
  active := observer.playbackNotificationActive
  pending := observer.playbackNotificationPending

end AvrcpObserver

theorem submit_cases {status : UInt8} (ha : o.accepts status)
    (hl : o.playbackNotificationLabel ≤ 0x0F) :
    (o.playbackNotificationActive = false ∧
        avrcpObserverSubmitPlaybackStatus o status = ({}, { o with
          playbackStatus := status
          playbackStatusValid := true
          playbackNotificationPending := false })) ∨
      (o.playbackNotificationActive ∧ o.writeActive ∧
        avrcpObserverSubmitPlaybackStatus o status = ({}, { o with
          playbackStatus := status
          playbackStatusValid := true
          playbackNotificationPending := true })) ∨
      (o.playbackNotificationActive ∧ o.writeActive = false ∧
        ∃ packet, avrcpConveyedStatus o.playbackNotificationLabel packet = some status ∧
          avrcpObserverSubmitPlaybackStatus o status = ({ packet := packet }, { o with
            playbackStatus := status
            playbackStatusValid := true
            playbackNotificationActive := false
            playbackNotificationPending := false })) := by
  simp only [AvrcpObserver.accepts, decide_eq_true_eq] at ha
  have hstate : ¬ (¬ avrcpIsValidPlaybackStatus status ∨ o.state = .idle ∨ o.state = .failed) := by
    rintro (h | h | h)
    · exact h ha.1
    · exact ha.2.1 h
    · exact ha.2.2 h
  rw [avrcpObserverSubmitPlaybackStatus, if_neg hstate]
  dsimp only
  cases hactive : o.playbackNotificationActive with
  | false => exact .inl ⟨rfl, by simp⟩
  | true =>
    cases hwrite : o.writeActive with
    | true => exact .inr (.inl ⟨rfl, rfl, by simp⟩)
    | false =>
      have hc := conveyedStatus_report hl (.inr rfl) status
      refine .inr (.inr ⟨rfl, rfl, _, hc, ?_⟩)
      have hsent : avrcpWriteVendorResponse avrcpMaxControlPacket o.playbackNotificationLabel
          avrcpResponseChanged avrcpPduRegisterNotification
          [avrcpEventPlaybackStatusChanged, status] ≠ [] := by
        intro h
        rw [h, conveyedStatus_nil] at hc
        cases hc
      simp [hsent]

theorem submit_refused {status : UInt8} (ha : ¬ o.accepts status) :
    avrcpObserverSubmitPlaybackStatus o status = ({}, o) := by
  rw [avrcpObserverSubmitPlaybackStatus, if_pos]
  simp only [AvrcpObserver.accepts, decide_eq_true_eq] at ha
  by_contra h
  rw [not_or, not_or, not_not] at h
  exact ha h

def AvrcpObserver.register (o : AvrcpObserver) (label : UInt8) : AvrcpObserver :=
  { o with
    playbackNotificationLabel := label
    playbackNotificationActive := true
    playbackNotificationPending := false }

/-- The observer without its outstanding write. -/
def AvrcpObserver.answered (o : AvrcpObserver) : AvrcpObserver := { o with writeActive := false }

inductive PlaybackEffect (o : AvrcpObserver) (input : AvrcpObserverInput) :
    AvrcpObserverResult × AvrcpObserver → Prop
  /-- nothing: no status is conveyed or accepted, and no write is answered -/
  | quiet {result o'} : o'.playback = o.playback → (o'.state = .idle → o.state = .idle) →
      (o.writeActive → o'.writeActive) →
      (input.ordinaryWrite ∨ ∀ label, avrcpConveyedStatus label result.packet = none) →
      (input.submits.filter o.accepts = none) → PlaybackEffect o input (result, o')
  /-- a status is submitted -/
  | submitted {status} : input.submits = some status → o.accepts status →
      input.ordinaryWrite = false →
      PlaybackEffect o input (avrcpObserverSubmitPlaybackStatus o status)
  /-- the headset registers, and is answered with the current status -/
  | registered {label packet event} : label ≤ 0x0F → o.state ≠ .idle → input.submits = none →
      input.ordinaryWrite = false →
      avrcpConveyedStatus label packet = some (avrcpCurrentPlaybackStatus o) →
      PlaybackEffect o input ({ packet := packet, event := event }, o.register label)
  /-- the outstanding write is answered, and the status submitted again -/
  | answered {event r} : o.state ≠ .idle → o.state ≠ .failed → input.submits = none →
      input.ordinaryWrite = false →
      r = avrcpObserverSubmitPlaybackStatus o.answered o.playbackStatus →
      PlaybackEffect o input ({ packet := r.1.packet, event := event }, r.2)

theorem vendorAnswer_cases (o : AvrcpObserver) (label pduId : UInt8) (parameters : List UInt8) :
    (pduId = avrcpPduRegisterNotification ∧
        avrcpVendorAnswer o label pduId parameters =
          ((avrcpResponseInterim,
            [avrcpEventPlaybackStatusChanged, avrcpCurrentPlaybackStatus o]), o.register label)) ∨
      ∃ response answer, avrcpVendorAnswer o label pduId parameters = ((response, answer), o) ∧
        response ≤ 0x0F ∧ answer.length ≤ 9 ∧
        ¬ (pduId = avrcpPduRegisterNotification ∧ answer.length = 2 ∧
          byteAt answer 0 = avrcpEventPlaybackStatusChanged) := by
  simp only [avrcpVendorAnswer]
  generalize (if o.lastAbsoluteVolumeValid then o.lastAbsoluteVolume else 0) = volume
  split_ifs with h₁ h₂ h₃ h₄
  · exact .inr ⟨_, _, rfl, by decide, by simp, by simp⟩
  · exact .inl ⟨h₂.1, rfl⟩
  · exact .inr ⟨_, _, rfl, by decide, by simp, by simp⟩
  · refine .inr ⟨_, _, rfl, by decide, by simp, ?_⟩
    rintro ⟨-, -, hevent⟩
    exact absurd hevent (by decide : avrcpEventVolumeChanged ≠ avrcpEventPlaybackStatusChanged)
  · exact .inr ⟨_, _, rfl, by decide, by simp, by simp⟩
  · exact .inr ⟨_, _, rfl, by decide, by simp, by simp⟩
  · exact .inr ⟨_, _, rfl, by decide, by simp, by simp⟩

theorem vendorAnswer_registers (o : AvrcpObserver) (label : UInt8) (hl : parameters.length ≥ 1)
    (he : byteAt parameters 0 = avrcpEventPlaybackStatusChanged) :
    avrcpVendorAnswer o label avrcpPduRegisterNotification parameters =
      ((avrcpResponseInterim,
        [avrcpEventPlaybackStatusChanged, avrcpCurrentPlaybackStatus o]), o.register label) := by
  have hpdu : ¬ (avrcpPduRegisterNotification = avrcpPduGetCapabilities ∧ parameters.length ≥ 1 ∧
      byteAt parameters 0 = avrcpCapabilityEventsSupported) := by
    rintro ⟨h, -⟩
    exact absurd h (by decide)
  rw [avrcpVendorAnswer, if_neg hpdu, if_pos ⟨rfl, hl⟩]
  dsimp only
  rw [if_pos he]
  rfl

theorem handleVendorCommand_eq (o : AvrcpObserver) {packet : List UInt8}
    {vendor : AvrcpVendorFrame} (hparse : avrcpParseVendorFrame packet = .ok vendor) :
    ∃ answer, answer ≠ [] ∧
      byteAt answer 3 = (avrcpVendorAnswer o vendor.frame.transactionLabel vendor.pduId
        (vendor.parameters packet)).1.1 ∧
      avrcpObserverHandleVendorCommand o packet vendor =
        ({ packet := answer
           event :=
            { kind := .vendorCommand
              pduId := vendor.pduId
              parameterBytes := (vendor.parameters packet).take 8 } },
          (avrcpVendorAnswer o vendor.frame.transactionLabel vendor.pduId
            (vendor.parameters packet)).2) := by
  have hl := (parseFrame_fields (parseVendorFrame_frame hparse).1).2.1
  have hsize : (avrcpVendorAnswer o vendor.frame.transactionLabel vendor.pduId
      (vendor.parameters packet)).1.2.length ≤ 9 := by
    rcases vendorAnswer_cases o vendor.frame.transactionLabel vendor.pduId
      (vendor.parameters packet) with ⟨-, h⟩ | ⟨response, answer, h, -, hp, -⟩
    · rw [h]
      simp
    · rw [h]
      exact hp
  simp only [avrcpObserverHandleVendorCommand, writeVendorResponse_eq hl, written_eq hl true _ hsize]
  exact ⟨_, by simp, rfl, if_neg (by simp)⟩

section
variable {o : AvrcpObserver} {packet : List UInt8}

theorem quiet_packet {result : AvrcpObserverResult} {o' : AvrcpObserver}
    (hp : o'.playback = o.playback) (hi : o'.state = .idle → o.state = .idle)
    (hw : o.writeActive → o'.writeActive)
    (hs : ∀ label, avrcpConveyedStatus label result.packet = none) :
    PlaybackEffect o (.packet packet) (result, o') :=
  .quiet hp hi hw (.inr hs) rfl

theorem fail_effect {o' : AvrcpObserver} (error : AvrcpError) (stage : UInt8)
    (raw : List UInt8) (hp : o'.playback = o.playback) (hw : o.writeActive → o'.writeActive) :
    PlaybackEffect o (.packet packet) (avrcpObserverFailStage o' error stage raw) :=
  quiet_packet hp (by simp) hw conveyedStatus_nil

theorem registerVolume_effect {o' : AvrcpObserver} (event : AvrcpObserverEvent)
    (hp : o'.playback = o.playback) (hw : o.writeActive → o'.writeActive) :
    PlaybackEffect o (.packet packet) (avrcpObserverRegisterVolume o' event) := by
  simp only [avrcpObserverRegisterVolume]
  split_ifs
  · exact fail_effect _ _ _ hp hw
  · refine quiet_packet hp (by simp) hw fun label => ?_
    exact conveyedStatus_command _ _ _ (by decide) (by simp) label

theorem handlePassThrough_effect (o : AvrcpObserver) (packet : List UInt8) :
    PlaybackEffect o (.packet packet) (avrcpObserverHandlePassThrough o packet) := by
  rcases handlePassThrough_cases o packet with
    ⟨error, stage, raw, hfail⟩ | ⟨answer, event, hstep, -, -, hopcode⟩
  · rw [hfail]
    exact fail_effect _ _ _ rfl id
  · rw [hstep]
    refine quiet_packet rfl id id fun label => conveyedStatus_opcode ?_ label
    rw [hopcode]
    decide

theorem handleVendorCommand_effect {vendor : AvrcpVendorFrame}
    (hparse : avrcpParseVendorFrame packet = .ok vendor) (hstate : o.state ≠ .idle) :
    PlaybackEffect o (.packet packet) (avrcpObserverHandleVendorCommand o packet vendor) := by
  have hl := (parseFrame_fields (parseVendorFrame_frame hparse).1).2.1
  unfold avrcpObserverHandleVendorCommand
  rcases vendorAnswer_cases o vendor.frame.transactionLabel vendor.pduId
    (vendor.parameters packet) with ⟨hpdu, hanswer⟩ | ⟨response, answer, hanswer, hc, hp, hn⟩
  · have hconveyed := conveyedStatus_report hl (.inl rfl) (avrcpCurrentPlaybackStatus o)
    dsimp only
    rw [hanswer, hpdu]
    split_ifs with hroom
    · rw [hroom, conveyedStatus_nil] at hconveyed
      cases hconveyed
    · exact .registered hl hstate rfl rfl hconveyed
  · dsimp only
    rw [hanswer]
    split_ifs with hroom
    · exact fail_effect _ _ _ rfl id
    · refine quiet_packet rfl id id fun label => ?_
      rw [conveyedStatus_response hl hc vendor.pduId hp label, if_neg]
      rintro ⟨-, hpdu, -, hlength, hevent⟩
      exact hn ⟨hpdu, hlength, hevent⟩

theorem handleResponse_effect (o : AvrcpObserver) (packet : List UInt8)
    (vendor : AvrcpVendorFrame) :
    PlaybackEffect o (.packet packet) (avrcpObserverHandleResponse o packet vendor) := by
  simp only [avrcpObserverHandleResponse]
  split_ifs
  · exact fail_effect _ _ _ rfl id
  · exact registerVolume_effect _ rfl id
  · exact quiet_packet rfl (by simp) id conveyedStatus_nil
  · exact quiet_packet rfl (by simp) id conveyedStatus_nil
  · exact registerVolume_effect _ rfl id
  · exact fail_effect _ _ _ rfl id
  · exact fail_effect _ _ _ rfl id

theorem handlePacket_effect (o : AvrcpObserver) (packet : List UInt8) :
    PlaybackEffect o (.packet packet) (avrcpObserverHandlePacket o packet) := by
  unfold avrcpObserverHandlePacket
  by_cases hstate : o.state = .idle ∨ o.state = .failed
  · rw [if_pos hstate]
    exact fail_effect _ _ _ rfl id
  rw [if_neg hstate]
  rw [not_or] at hstate
  rcases avrcpParseFrame packet with e | frame
  · exact fail_effect _ _ _ rfl id
  dsimp only
  split_ifs
  · exact handlePassThrough_effect o packet
  rcases hparse : avrcpParseVendorFrame packet with e | vendor
  · exact fail_effect _ _ _ rfl id
  dsimp only
  unfold avrcpObserverHandleVendor
  split_ifs
  · exact .answered hstate.1 hstate.2 rfl rfl rfl
  · exact handleVendorCommand_effect hparse hstate.1
  · exact fail_effect _ _ _ rfl id
  · exact handleResponse_effect o packet vendor

end

theorem submit_effect {input : AvrcpObserverInput} {status : UInt8}
    (hs : input.submits = some status) (hi : input.ordinaryWrite = false) :
    PlaybackEffect o input (avrcpObserverSubmitPlaybackStatus o status) := by
  by_cases ha : o.accepts status
  · exact .submitted hs ha hi
  · rw [submit_refused ha]
    exact .quiet rfl id id (.inr conveyedStatus_nil) (by rw [hs]; simp [ha])

theorem playback_effect (o : AvrcpObserver) (input : AvrcpObserverInput) :
    PlaybackEffect o input (avrcpObserver.step o input) := by
  cases input with
  | begin_ =>
    show PlaybackEffect o _ (avrcpObserverBegin o)
    simp only [avrcpObserverBegin]
    split_ifs
    · exact .quiet rfl (by simp) id (.inr conveyedStatus_nil) rfl
    · exact .quiet rfl (by simp) id (.inr conveyedStatus_nil) rfl
    · refine .quiet rfl (by simp) id (.inr fun label => ?_) rfl
      exact conveyedStatus_command _ _ _ (by decide) (by simp) label
  | packet packet => exact handlePacket_effect o packet
  | playbackStatus status => exact submit_effect rfl rfl
  | write pduId responseCode parameters =>
    show PlaybackEffect o _ (avrcpObserverSubmitWrite o pduId responseCode parameters)
    by_cases hreport : avrcpIsPlaybackReport pduId responseCode parameters
    · have hargs : ¬ (pduId = 0 ∨ parameters.length > 8) := by
        simp only [avrcpIsPlaybackReport, decide_eq_true_eq] at hreport
        rintro (h | h)
        · rw [h] at hreport
          exact absurd hreport.1 (by decide)
        · omega
      rw [avrcpObserverSubmitWrite, if_neg hargs, if_pos hreport]
      refine submit_effect ?_ ?_
      · exact if_pos hreport
      · simp [AvrcpObserverInput.ordinaryWrite, hreport]
    · have hordinary : (AvrcpObserverInput.write pduId responseCode parameters).ordinaryWrite := by
        simp [AvrcpObserverInput.ordinaryWrite, hreport]
      have hsubmits : (AvrcpObserverInput.write pduId responseCode parameters).submits = none :=
        if_neg hreport
      simp only [avrcpObserverSubmitWrite, if_neg hreport]
      generalize (if responseCode = 0 then avrcpWriteVendorCommand avrcpMaxControlPacket
        o.nextTransactionLabel avrcpCtypeControl pduId parameters else
        avrcpWriteVendorResponse avrcpMaxControlPacket o.nextTransactionLabel responseCode pduId
          parameters) = packet
      split_ifs
      · exact .quiet rfl id id (.inl hordinary) (by rw [hsubmits]; rfl)
      · exact .quiet rfl id id (.inl hordinary) (by rw [hsubmits]; rfl)
      · exact .quiet rfl id id (.inl hordinary) (by rw [hsubmits]; rfl)
      · exact .quiet rfl id (fun _ => rfl) (.inl hordinary) (by rw [hsubmits]; rfl)

/-! ## Runs -/

/-- What the observer and the ledger agree on, in every state of a run. -/
structure Told (s : AvrcpObserver × AvrcpPlaybackLedger) : Prop where
  idle : s.1.state = .idle → s.1.playbackNotificationActive = false
  label : s.1.playbackNotificationLabel ≤ 0x0F
  valid : avrcpIsValidPlaybackStatus s.1.playbackStatus
  accepted : ∀ status, s.2.accepted = some status →
    s.1.playbackStatusValid ∧ s.1.playbackStatus = status
  owed : s.1.playbackNotificationActive → ∀ status, s.2.accepted = some status →
    s.2.conveyed = some status ∨ (s.1.playbackNotificationPending ∧ s.1.writeActive)

theorem told_init : Told ({}, {}) := by
  constructor <;> simp [avrcpIsValidPlaybackStatus, avrcpPlaybackStatusStopped]

section
variable {o o' : AvrcpObserver} {l : AvrcpPlaybackLedger} {input : AvrcpObserverInput}

theorem told_quiet (h : Told (o, l)) (hp : o'.playback = o.playback)
    (hi : o'.state = .idle → o.state = .idle) (hw : o.writeActive → o'.writeActive) :
    Told (o', l) := by
  obtain ⟨hidle, hlabel, hvalid, haccepted, howed⟩ := h
  simp only [AvrcpObserver.playback, AvrcpObserver.Playback.mk.injEq] at hp
  obtain ⟨hstatus, hv, hl, ha, hpending⟩ := hp
  constructor
  · intro h
    rw [ha]
    exact hidle (hi h)
  · rw [hl]
    exact hlabel
  · rw [hstatus]
    exact hvalid
  · intro status h
    rw [hv, hstatus]
    exact haccepted status h
  · intro hactive status h
    rw [ha] at hactive
    rw [hpending]
    exact (howed hactive status h).imp_right fun h => ⟨h.1, hw h.2⟩

theorem told_submit (hidle : o.state = .idle → o.playbackNotificationActive = false)
    (hlabel : o.playbackNotificationLabel ≤ 0x0F) {status : UInt8} (ha : o.accepts status) :
    Told ((avrcpObserverSubmitPlaybackStatus o status).2,
      { conveyed := (avrcpConveyedStatus
          (avrcpObserverSubmitPlaybackStatus o status).2.playbackNotificationLabel
          (avrcpObserverSubmitPlaybackStatus o status).1.packet).or l.conveyed
        accepted := some status }) := by
  have hvalid : avrcpIsValidPlaybackStatus status := by
    simp only [AvrcpObserver.accepts, decide_eq_true_eq] at ha
    exact ha.1
  rcases submit_cases ha hlabel with ⟨hactive, hr⟩ | ⟨hactive, hwrite, hr⟩ |
    ⟨hactive, hwrite, packet, hpacket, hr⟩ <;> rw [hr]
  · refine ⟨fun _ => hactive, hlabel, hvalid, by simp, ?_⟩
    intro h
    rw [show o.playbackNotificationActive = false from hactive] at h
    cases h
  · refine ⟨hidle, hlabel, hvalid, by simp, ?_⟩
    intro _ _ _
    exact .inr ⟨rfl, hwrite⟩
  · exact ⟨fun _ => rfl, hlabel, hvalid, by simp, by simp⟩

theorem told_forget {conveyed : Option UInt8} {status : UInt8}
    (h : Told (o, { conveyed := conveyed, accepted := some status })) {accepted : Option UInt8}
    (ha : ∀ status', accepted = some status' → status' = status) :
    Told (o, { conveyed := conveyed, accepted := accepted }) := by
  refine ⟨h.idle, h.label, h.valid, ?_, ?_⟩
  · intro status' h'
    rw [ha status' h']
    exact h.accepted status rfl
  · intro hactive status' h'
    rw [ha status' h']
    exact h.owed hactive status rfl

theorem told_step {s : AvrcpObserver × AvrcpPlaybackLedger} (h : Told s)
    (input : AvrcpObserverInput) : Told (playbackLedger.next s input) := by
  obtain ⟨o, l⟩ := s
  have heffect := playback_effect o input
  show Told ((avrcpObserver.step o input).2, l.record o input (avrcpObserver.step o input))
  generalize avrcpObserver.step o input = r at heffect
  cases heffect with
  | @quiet result o' hp hi hw hs hn =>
    have hrecord : l.record o input (result, o') = l := by
      rw [AvrcpPlaybackLedger.record, hn]
      rcases hs with hs | hs
      · rw [if_pos hs]
        rfl
      · rw [hs]
        simp
    rw [hrecord]
    exact told_quiet h hp hi hw
  | @submitted status hs ha hi =>
    have hrecord : (input.submits.filter o.accepts).or l.accepted = some status := by
      rw [hs, Option.filter_some, if_pos ha]
      rfl
    rw [AvrcpPlaybackLedger.record, hi, hrecord]
    exact told_submit h.idle h.label ha
  | @registered label packet event hl hstate hs hi hc =>
    have hrecord : l.record o input ({ packet := packet, event := event }, o.register label) =
        { conveyed := some (avrcpCurrentPlaybackStatus o), accepted := l.accepted } := by
      have hc' : avrcpConveyedStatus (o.register label).playbackNotificationLabel packet =
          some (avrcpCurrentPlaybackStatus o) := hc
      simp [AvrcpPlaybackLedger.record, hi, hs, hc']
    rw [hrecord]
    refine ⟨fun hidle => absurd hidle hstate, hl, h.valid, h.accepted, ?_⟩
    intro _ status haccepted
    obtain ⟨hv, hstatus⟩ := h.accepted status haccepted
    refine .inl ?_
    rw [avrcpCurrentPlaybackStatus, if_pos ⟨hv, h.valid⟩]
    exact congrArg some hstatus
  | @answered event r hidle hfailed hs hi hr =>
    have ha : o.answered.accepts o.playbackStatus := by
      simp only [AvrcpObserver.accepts, decide_eq_true_eq]
      exact ⟨h.valid, hidle, hfailed⟩
    have hsubmit := told_submit (o := o.answered) (l := l) (fun hstate => absurd hstate hidle)
      h.label ha
    rw [AvrcpPlaybackLedger.record, hi, hs]
    rw [← hr] at hsubmit
    refine told_forget hsubmit fun status haccepted => ?_
    exact (h.accepted status haccepted).2.symm

end

/-- The packet is a command that registers for the playback status, on the label. -/
def RegistersPlayback (packet : List UInt8) (label : UInt8) : Prop :=
  ∃ vendor, avrcpParseVendorFrame packet = .ok vendor ∧ vendor.frame.commandResponse = 0 ∧
    vendor.frame.transactionLabel = label ∧ vendor.pduId = avrcpPduRegisterNotification ∧
    (vendor.parameters packet).length ≥ 1 ∧
    byteAt (vendor.parameters packet) 0 = avrcpEventPlaybackStatusChanged

def AnswersWrite (o : AvrcpObserver) (packet : List UInt8) : Prop :=
  ∃ vendor, avrcpParseVendorFrame packet = .ok vendor ∧ avrcpAnswersWrite o vendor

/-- **No submitted status is lost**: for a registration that has been told another
    status, a write is in flight whose answer brings the status; and a registration
    is answered with it. -/
structure StatusKept (s : AvrcpObserver × AvrcpPlaybackLedger) : Prop where
  pending : s.1.state ≠ .failed → s.1.playbackNotificationActive →
    ∀ status, s.2.accepted = some status → s.2.conveyed ≠ some status →
      s.1.playbackNotificationPending ∧ s.1.writeActive
  sent : s.1.state ≠ .failed → s.1.playbackNotificationActive →
    ∀ status, s.2.accepted = some status → ∀ packet, AnswersWrite s.1 packet →
      avrcpConveyedStatus s.1.playbackNotificationLabel
        (avrcpObserverHandlePacket s.1 packet).1.packet = some status
  registered : s.1.state ≠ .idle → s.1.state ≠ .failed →
    ∀ status, s.2.accepted = some status → ∀ packet label, RegistersPlayback packet label →
      avrcpConveyedStatus label (avrcpObserverHandlePacket s.1 packet).1.packet = some status

theorem statusKept_of_told {s : AvrcpObserver × AvrcpPlaybackLedger} (h : Told s) :
    StatusKept s := by
  obtain ⟨o, l⟩ := s
  constructor
  · intro _ hactive status haccepted hconveyed
    exact (h.owed hactive status haccepted).resolve_left hconveyed
  · intro hfailed hactive status haccepted packet hanswers
    obtain ⟨vendor, hparse, hanswers⟩ := hanswers
    have hidle : o.state ≠ .idle := by
      intro hidle
      rw [h.idle hidle] at hactive
      cases hactive
    obtain ⟨-, rfl⟩ := h.accepted status haccepted
    have ha : o.answered.accepts o.playbackStatus := by
      simp only [AvrcpObserver.accepts, decide_eq_true_eq]
      exact ⟨h.valid, hidle, hfailed⟩
    dsimp only
    rw [handlePacket_vendor hidle hfailed hparse, avrcpObserverHandleVendor, if_pos hanswers]
    show avrcpConveyedStatus o.playbackNotificationLabel
      (avrcpObserverSubmitPlaybackStatus o.answered o.playbackStatus).1.packet = _
    rcases submit_cases ha h.label with ⟨hinactive, -⟩ | ⟨-, hwrite, -⟩ |
      ⟨-, -, answer, hanswer, hr⟩
    · rw [show o.playbackNotificationActive = false from hinactive] at hactive
      cases hactive
    · cases hwrite
    · rw [hr]
      exact hanswer
  · intro hidle hfailed status haccepted packet label hregisters
    obtain ⟨vendor, hparse, hcommand, rfl, hpdu, hlength, hevent⟩ := hregisters
    have hl := (parseFrame_fields (parseVendorFrame_frame hparse).1).2.1
    have hcurrent : avrcpCurrentPlaybackStatus o = status := by
      obtain ⟨hvalid, rfl⟩ := h.accepted status haccepted
      exact if_pos ⟨hvalid, h.valid⟩
    have hconveyed := conveyedStatus_report hl (.inl rfl) status
    have hunanswered : ¬ avrcpAnswersWrite o vendor := by
      simp [avrcpAnswersWrite, hcommand]
    dsimp only
    rw [handlePacket_vendor hidle hfailed hparse, avrcpObserverHandleVendor, if_neg hunanswered,
      if_pos hcommand, avrcpObserverHandleVendorCommand, hpdu,
      vendorAnswer_registers o _ hlength hevent, hcurrent]
    split_ifs with hroom
    · rw [hroom, conveyedStatus_nil] at hconveyed
      cases hconveyed
    · exact hconveyed

/-- **The playback status of every run.** -/
theorem playback_status_kept (inputs : List AvrcpObserverInput) :
    StatusKept (playbackLedger.after ({}, {}) inputs) :=
  statusKept_of_told (Reducer.after_inv (P := Told) (Q := fun _ _ => True)
    (fun _ input h _ => told_step h input) told_init
    (Reducer.along_of_forall (fun _ _ => trivial) _ inputs))

end NativeLdac.Protocol
