/-
  The passive decoder of what the AVRCP filter records (`agent/v1_avrcp_filter_decoder.cpp`),
  beside the observer that takes part in the exchange.

  * `v1AvrcpFilterDetectLayout` and `v1AvrcpFilterDecodePacket` are the decoder;
  * `PacketReport` says what the observer reports of a packet, `Asked` what it has asked for in
    which state.
-/
import NativeLdac.Protocol.AvrcpPlayback

namespace NativeLdac.Protocol

/-! ## The decoder -/

inductive V1AvrcpFilterPayloadLayout where
  | none | direct | microsoftPrivateHeader
deriving DecidableEq, Repr

def kMicrosoftHeaderSize : Nat := 8
def kEventRawPrefixCapacity : Nat := 64

/-- `CopyRawPrefix`, into an event that is cleared -/
def copyRawPrefix (data : List UInt8) : AvrcpObserverEvent where
  rawPrefix := data.take kEventRawPrefixCapacity
  rawTotalSize := if data.length > 0xFFFF then 0xFFFF else UInt16.ofNat data.length

def capabilitiesIncludeVolume (parameters : List UInt8) : Bool :=
  if parameters.length < 2 ∨ byteAt parameters 0 ≠ avrcpCapabilityEventsSupported then false
  else
    let count := (byteAt parameters 1).toNat
    if parameters.length ≠ count + 2 then false
    else (parameters.drop 2).any (· = avrcpEventVolumeChanged)

/-- The private header in front of a frame with the profile of AVRCP. -/
def hasMicrosoftPrivateHeader (data : List UInt8) : Bool :=
  data.length ≥ 11 ∧ byteAt data 0 = 0x01 ∧ byteAt data 1 = 0x00 ∧ byteAt data 2 = 0x00 ∧
    byteAt data 3 = 0x00 ∧ byteAt data 9 = 0x11 ∧ byteAt data 10 = 0x0E

def v1AvrcpFilterDetectLayout (data : List UInt8) : V1AvrcpFilterPayloadLayout :=
  if hasMicrosoftPrivateHeader data then .microsoftPrivateHeader
  else if data.length ≥ 8 ∧ byteAt data 1 = 0x11 ∧ byteAt data 2 = 0x0E then .direct
  else .none

/-- The event of a packet that is refused. -/
def decodeError (out : AvrcpObserverEvent) (error : AvrcpError) :
    Except AvrcpError Unit × AvrcpObserverEvent :=
  (.error error, { out with kind := .protocolError, errorCode := error.code })

/-- `V1AvrcpFilterDecodePacket`: the branch for vendor frames -/
def decodeVendorFrame (packet : List UInt8) (out : AvrcpObserverEvent)
    (vendor : AvrcpVendorFrame) : AvrcpObserverEvent :=
  let parameters := vendor.parameters packet
  let out := { out with pduId := vendor.pduId, parameterBytes := parameters.take 8 }
  if vendor.frame.commandResponse = 0 then { out with kind := .vendorCommand }
  else
    let out := { out with responseCode := vendor.frame.ctypeOrResponse }
    if vendor.pduId = avrcpPduGetCapabilities ∧ parameters.length ≥ 2 ∧
        byteAt parameters 0 = avrcpCapabilityEventsSupported then
      { out with
        kind := .volumeCapability
        volumeSupported := if capabilitiesIncludeVolume parameters then 1 else 0 }
    else if vendor.pduId = avrcpPduRegisterNotification ∧ parameters.length ≥ 2 ∧
        byteAt parameters 0 = avrcpEventVolumeChanged ∧ byteAt parameters 1 ≤ 0x7F then
      { out with
        kind := .volumeChanged
        volumeSupported := 1
        absoluteVolume := byteAt parameters 1 }
    else { out with kind := .vendorCommand }

/-- `V1AvrcpFilterDecodePacket`, once the packet is found -/
def decodeFrame (packet : List UInt8) (out : AvrcpObserverEvent) :
    Except AvrcpError Unit × AvrcpObserverEvent :=
  match avrcpParseFrame packet with
  | .error e => decodeError out e
  | .ok frame =>
    if frame.opcode = avrcpOpcodePassThrough then
      match avrcpParsePassThrough packet with
      | .error e => decodeError out e
      | .ok passThrough =>
        (.ok (),
          { out with
            kind := .passThrough
            operationId := passThrough.operationId
            released := passThrough.released
            responseCode := frame.ctypeOrResponse })
    else
      match avrcpParseVendorFrame packet with
      | .error e => decodeError out e
      | .ok vendor => (.ok (), decodeVendorFrame packet out vendor)

/-- `V1AvrcpFilterDecodePacket`; without a layout the event is not written. -/
def v1AvrcpFilterDecodePacket (data : List UInt8) (layout : V1AvrcpFilterPayloadLayout) :
    Except AvrcpError Unit × Option AvrcpObserverEvent :=
  match layout with
  | .none => (.error .invalidArgument, none)
  | .direct => (decodeFrame data (copyRawPrefix data)).map id some
  | .microsoftPrivateHeader =>
    if ¬ hasMicrosoftPrivateHeader data then
      (decodeError (copyRawPrefix data) .protocolError).map id some
    else (decodeFrame (data.drop kMicrosoftHeaderSize) (copyRawPrefix data)).map id some

/-! ## The private header -/

def AvrcpObserverEvent.withoutRaw (event : AvrcpObserverEvent) : AvrcpObserverEvent :=
  { event with rawPrefix := [], rawTotalSize := 0 }

theorem decodeVendorFrame_withoutRaw (packet : List UInt8) (out : AvrcpObserverEvent)
    (vendor : AvrcpVendorFrame) :
    (decodeVendorFrame packet out vendor).withoutRaw =
      decodeVendorFrame packet out.withoutRaw vendor := by
  unfold decodeVendorFrame
  dsimp only
  split_ifs <;> rfl

theorem decodeFrame_withoutRaw (packet : List UInt8) (out : AvrcpObserverEvent) :
    (decodeFrame packet out).map id AvrcpObserverEvent.withoutRaw =
      decodeFrame packet out.withoutRaw := by
  unfold decodeFrame
  rcases avrcpParseFrame packet with e | frame
  · rfl
  dsimp only
  split_ifs
  · rcases avrcpParsePassThrough packet with e | parsed
    · rfl
    · rfl
  · rcases avrcpParseVendorFrame packet with e | vendor
    · rfl
    · exact congrArg (Prod.mk _) (decodeVendorFrame_withoutRaw packet out vendor)

theorem detectLayout_header {data : List UInt8}
    (h : v1AvrcpFilterDetectLayout data = .microsoftPrivateHeader) :
    hasMicrosoftPrivateHeader data = true := by
  unfold v1AvrcpFilterDetectLayout at h
  split_ifs at h with hheader
  exact hheader

theorem decode_header {header packet : List UInt8} (hsize : header.length = kMicrosoftHeaderSize)
    (h : v1AvrcpFilterDetectLayout (header ++ packet) = .microsoftPrivateHeader) :
    (v1AvrcpFilterDecodePacket (header ++ packet) .microsoftPrivateHeader).map id
        (Option.map AvrcpObserverEvent.withoutRaw) =
      (v1AvrcpFilterDecodePacket packet .direct).map id
        (Option.map AvrcpObserverEvent.withoutRaw) := by
  have hpacket : (header ++ packet).drop kMicrosoftHeaderSize = packet := by
    rw [← hsize, List.drop_left]
  have hdecoded := (decodeFrame_withoutRaw packet (copyRawPrefix (header ++ packet))).trans
    (decodeFrame_withoutRaw packet (copyRawPrefix packet)).symm
  have hheader : v1AvrcpFilterDecodePacket (header ++ packet) .microsoftPrivateHeader =
      (decodeFrame packet (copyRawPrefix (header ++ packet))).map id some := by
    simp only [v1AvrcpFilterDecodePacket]
    rw [if_neg (not_not.mpr (detectLayout_header h)), hpacket]
  rw [hheader]
  exact congrArg (Prod.map id some) hdecoded

/-! ## What the observer has asked for -/

/-- The request that is pending in a state. -/
structure Asked (o : AvrcpObserver) : Prop where
  capabilities : o.state = .waitCapabilities → o.pendingPduId = avrcpPduGetCapabilities
  volume : o.state = .waitVolumeInterim ∨ o.state = .observing →
    o.pendingPduId = avrcpPduRegisterNotification

section
variable {o o' : AvrcpObserver}

theorem Asked.congr (h : Asked o) (hstate : o'.state = o.state)
    (hpending : o'.pendingPduId = o.pendingPduId) : Asked o' := by
  constructor
  · rw [hstate, hpending]
    exact h.capabilities
  · rw [hstate, hpending]
    exact h.volume

theorem asked_of_state (hstate : o.state = .failed ∨ o.state = .unsupported ∨ o.state = .idle) :
    Asked o := by
  constructor
  · intro h
    rw [h] at hstate
    rcases hstate with h | h | h <;> cases h
  · rintro (h | h)
    all_goals
      rw [h] at hstate
      rcases hstate with h | h | h <;> cases h

theorem asked_fail (o : AvrcpObserver) (error : AvrcpError) (stage : UInt8) (raw : List UInt8) :
    Asked (avrcpObserverFailStage o error stage raw).2 :=
  asked_of_state (.inl rfl)

theorem asked_registerVolume (o : AvrcpObserver) (event : AvrcpObserverEvent) :
    Asked (avrcpObserverRegisterVolume o event).2 := by
  simp only [avrcpObserverRegisterVolume]
  split_ifs
  · exact asked_fail _ _ _ _
  · exact ⟨(fun h => by cases h), fun _ => rfl⟩

theorem Asked.submitPlaybackStatus (h : Asked o) (status : UInt8) :
    Asked (avrcpObserverSubmitPlaybackStatus o status).2 := by
  simp only [avrcpObserverSubmitPlaybackStatus]
  split_ifs <;> exact h.congr rfl rfl

theorem Asked.handlePassThrough (h : Asked o) (packet : List UInt8) :
    Asked (avrcpObserverHandlePassThrough o packet).2 := by
  rcases handlePassThrough_cases o packet with
    ⟨error, stage, raw, hfail⟩ | ⟨answer, event, hstep, -⟩
  · rw [hfail]
    exact asked_fail _ _ _ _
  · rw [hstep]
    exact h

theorem Asked.handleVendorCommand (h : Asked o) (packet : List UInt8) (vendor : AvrcpVendorFrame) :
    Asked (avrcpObserverHandleVendorCommand o packet vendor).2 := by
  have hanswer : Asked (avrcpVendorAnswer o vendor.frame.transactionLabel vendor.pduId
      (vendor.parameters packet)).2 := by
    rcases vendorAnswer_cases o vendor.frame.transactionLabel vendor.pduId
      (vendor.parameters packet) with ⟨-, hregister⟩ | ⟨response, answer, hother, -⟩
    · rw [hregister]
      exact h.congr rfl rfl
    · rw [hother]
      exact h
  simp only [avrcpObserverHandleVendorCommand]
  split_ifs
  · exact asked_fail _ _ _ _
  · exact hanswer

theorem Asked.handleResponse (h : Asked o) (packet : List UInt8) (vendor : AvrcpVendorFrame) :
    Asked (avrcpObserverHandleResponse o packet vendor).2 := by
  simp only [avrcpObserverHandleResponse]
  split_ifs with _ _ _ _ hinterim
  · exact asked_fail _ _ _ _
  · exact asked_registerVolume _ _
  · exact asked_of_state (.inr (.inl rfl))
  · -- the interim answer keeps the request pending
    exact ⟨(fun h => by cases h), fun _ => h.volume (.inl hinterim.2)⟩
  · exact asked_registerVolume _ _
  · exact asked_fail _ _ _ _
  · exact asked_fail _ _ _ _

theorem Asked.handlePacket (h : Asked o) (packet : List UInt8) :
    Asked (avrcpObserverHandlePacket o packet).2 := by
  unfold avrcpObserverHandlePacket
  split_ifs
  · exact asked_fail _ _ _ _
  rcases avrcpParseFrame packet with e | frame
  · exact asked_fail _ _ _ _
  dsimp only
  split_ifs
  · exact h.handlePassThrough packet
  rcases avrcpParseVendorFrame packet with e | vendor
  · exact asked_fail _ _ _ _
  dsimp only [avrcpObserverHandleVendor]
  split_ifs
  · exact Asked.submitPlaybackStatus (o := { o with writeActive := false }) (h.congr rfl rfl) _
  · exact h.handleVendorCommand packet vendor
  · exact asked_fail _ _ _ _
  · exact h.handleResponse packet vendor

theorem asked_step (h : Asked o) (input : AvrcpObserverInput) :
    Asked (avrcpObserver.next o input) := by
  cases input with
  | begin_ =>
    show Asked (avrcpObserverBegin o).2
    simp only [avrcpObserverBegin]
    split_ifs
    · exact asked_fail _ _ _ _
    · exact asked_fail _ _ _ _
    · exact ⟨fun _ => rfl, fun h => by rcases h with h | h <;> cases h⟩
  | packet packet => exact h.handlePacket packet
  | playbackStatus status => exact h.submitPlaybackStatus status
  | write pduId responseCode parameters =>
    show Asked (avrcpObserverSubmitWrite o pduId responseCode parameters).2
    unfold avrcpObserverSubmitWrite
    split_ifs
    · exact h
    · exact h.submitPlaybackStatus _
    · exact h
    · dsimp only
      split_ifs <;> exact h.congr rfl rfl
    · dsimp only
      split_ifs <;> exact h.congr rfl rfl

end

theorem asked_after (inputs : List AvrcpObserverInput) :
    Asked (avrcpObserver.after {} inputs) :=
  Reducer.after_inv (P := Asked) (Q := fun _ _ => True) (fun _ input h _ => asked_step h input)
    (asked_of_state (.inr (.inr rfl))) (Reducer.along_of_forall (fun _ _ => trivial) _ inputs)

/-! ## What the observer reports -/

def AvrcpObserverEvent.Reports (event : AvrcpObserverEvent) : Prop :=
  event.kind = .passThrough ∨ event.kind = .volumeChanged ∨ event.kind = .volumeCapability

/-- What the observer reports of a packet, and what it has found in it. -/
inductive PacketReport (o : AvrcpObserver) (packet : List UInt8) : AvrcpObserverEvent → Prop
  | silent {event} : ¬ AvrcpObserverEvent.Reports event → PacketReport o packet event
  | passThrough {parsed} : avrcpParsePassThrough packet = .ok parsed →
      parsed.frame.ctypeOrResponse = avrcpCtypeControl →
      PacketReport o packet
        { kind := .passThrough, operationId := parsed.operationId, released := parsed.released }
  | volumeCapability {vendor} : avrcpParseVendorFrame packet = .ok vendor →
      vendor.frame.commandResponse ≠ 0 → o.state = .waitCapabilities →
      vendor.pduId = o.pendingPduId → vendor.frame.ctypeOrResponse = avrcpResponseStable →
      PacketReport o packet
        { kind := .volumeCapability
          volumeSupported :=
            if avrcpCapabilitiesIncludeVolume (vendor.parameters packet) then 1 else 0 }
  | volumeChanged {vendor} : avrcpParseVendorFrame packet = .ok vendor →
      vendor.frame.commandResponse ≠ 0 →
      o.state = .waitVolumeInterim ∨ o.state = .observing → vendor.pduId = o.pendingPduId →
      (vendor.parameters packet).length = 2 →
      byteAt (vendor.parameters packet) 0 = avrcpEventVolumeChanged →
      byteAt (vendor.parameters packet) 1 ≤ 0x7F →
      PacketReport o packet
        { kind := .volumeChanged
          volumeSupported := 1
          absoluteVolume := byteAt (vendor.parameters packet) 1
          responseCode := vendor.frame.ctypeOrResponse }

section
variable {o : AvrcpObserver} {packet : List UInt8}

theorem report_fail (o' : AvrcpObserver) (error : AvrcpError) (stage : UInt8) (raw : List UInt8) :
    PacketReport o packet (avrcpObserverFailStage o' error stage raw).1.event :=
  .silent (by simp [AvrcpObserverEvent.Reports, avrcpObserverFailStage])

theorem handlePassThrough_report :
    PacketReport o packet (avrcpObserverHandlePassThrough o packet).1.event := by
  unfold avrcpObserverHandlePassThrough
  rcases hparse : avrcpParsePassThrough packet with e | parsed
  · exact report_fail _ _ _ _
  dsimp only
  split_ifs with hcontrol
  · exact report_fail _ _ _ _
  · exact report_fail _ _ _ _
  · rw [not_or, not_not, not_not] at hcontrol
    exact .passThrough hparse hcontrol.2
  · exact report_fail _ _ _ _
  · rw [not_or, not_not, not_not] at hcontrol
    exact .passThrough hparse hcontrol.2

theorem handleResponse_report {vendor : AvrcpVendorFrame} (hl : o.nextTransactionLabel ≤ 0x0F)
    (hparse : avrcpParseVendorFrame packet = .ok vendor)
    (hresponse : vendor.frame.commandResponse ≠ 0) (hpending : vendor.pduId = o.pendingPduId) :
    PacketReport o packet (avrcpObserverHandleResponse o packet vendor).1.event := by
  have hregister : ∀ o' event, o'.nextTransactionLabel = o.nextTransactionLabel →
      (avrcpObserverRegisterVolume o' event).1.event = event :=
    fun o' event h => registerVolume_event (h ▸ hl) event
  simp only [avrcpObserverHandleResponse]
  split_ifs with hstate hstable hsupported hvolume hinterim hchanged
  · exact report_fail _ _ _ _
  · have hreport := PacketReport.volumeCapability hparse hresponse hstate hpending
      (not_not.mp hstable)
    rw [if_pos hsupported] at hreport
    rwa [hregister]
    rfl
  · have hreport := PacketReport.volumeCapability hparse hresponse hstate hpending
      (not_not.mp hstable)
    rw [if_neg hsupported] at hreport
    exact hreport
  · exact .volumeChanged hparse hresponse hvolume.1 hpending hvolume.2.1 hvolume.2.2.1
      hvolume.2.2.2
  · rw [hregister]
    · exact .volumeChanged hparse hresponse hvolume.1 hpending hvolume.2.1 hvolume.2.2.1
        hvolume.2.2.2
    · rfl
  · exact report_fail _ _ _ _
  · exact report_fail _ _ _ _

theorem handlePacket_report (hl : o.nextTransactionLabel ≤ 0x0F) :
    PacketReport o packet (avrcpObserverHandlePacket o packet).1.event := by
  unfold avrcpObserverHandlePacket
  split_ifs
  · exact report_fail _ _ _ _
  rcases avrcpParseFrame packet with e | frame
  · exact report_fail _ _ _ _
  dsimp only
  split_ifs
  · exact handlePassThrough_report
  rcases hparse : avrcpParseVendorFrame packet with e | vendor
  · exact report_fail _ _ _ _
  dsimp only [avrcpObserverHandleVendor]
  split_ifs with hwrite hcommand hpending
  · exact .silent (by simp [AvrcpObserverEvent.Reports, avrcpObserverHandleWriteResponse])
  · simp only [avrcpObserverHandleVendorCommand]
    split_ifs
    · exact report_fail _ _ _ _
    · exact .silent (by simp [AvrcpObserverEvent.Reports])
  · exact report_fail _ _ _ _
  · rw [not_or, not_not, not_not] at hpending
    exact handleResponse_report hl hparse hcommand hpending.2

end

/-! ## The two side by side -/

/-- The fields that both fill: what kind of event, and what it tells. -/
structure SameReport (e e' : AvrcpObserverEvent) : Prop where
  kind : e'.kind = e.kind
  operationId : e'.operationId = e.operationId
  released : e'.released = e.released
  absoluteVolume : e'.absoluteVolume = e.absoluteVolume
  volumeSupported : e'.volumeSupported = e.volumeSupported
  responseCode : e'.responseCode = e.responseCode

def ListsEvents (packet : List UInt8) : Prop :=
  ∃ vendor, avrcpParseVendorFrame packet = .ok vendor ∧
    (vendor.parameters packet).length ≥ 2 ∧
    byteAt (vendor.parameters packet) 0 = avrcpCapabilityEventsSupported

section
variable {packet : List UInt8} (out : AvrcpObserverEvent)

theorem decodeFrame_passThrough {parsed : AvrcpPassThrough}
    (hparse : avrcpParsePassThrough packet = .ok parsed) :
    decodeFrame packet out =
      (.ok (),
        { out with
          kind := .passThrough
          operationId := parsed.operationId
          released := parsed.released
          responseCode := parsed.frame.ctypeOrResponse }) := by
  obtain ⟨hframe, hopcode, -⟩ := parsePassThrough_frame hparse
  simp only [decodeFrame, hframe, hparse]
  rw [if_pos hopcode]

theorem decodeFrame_vendor {vendor : AvrcpVendorFrame}
    (hparse : avrcpParseVendorFrame packet = .ok vendor) :
    decodeFrame packet out = (.ok (), decodeVendorFrame packet out vendor) := by
  obtain ⟨hframe, hopcode⟩ := parseVendorFrame_frame hparse
  have hother : vendor.frame.opcode ≠ avrcpOpcodePassThrough := by
    rw [hopcode]
    decide
  simp only [decodeFrame, hframe, hparse]
  rw [if_neg hother]

theorem capabilitiesIncludeVolume_eq (parameters : List UInt8) :
    capabilitiesIncludeVolume parameters = avrcpCapabilitiesIncludeVolume parameters := by
  have hany : (parameters.drop 2).any (· = avrcpEventVolumeChanged) =
      decide (avrcpEventVolumeChanged ∈ parameters.drop 2) := by
    rw [Bool.eq_iff_iff]
    simp
  simp only [capabilitiesIncludeVolume, avrcpCapabilitiesIncludeVolume, hany]

theorem capabilitiesIncludeVolume_unlisted {parameters : List UInt8}
    (h : ¬ (parameters.length ≥ 2 ∧ byteAt parameters 0 = avrcpCapabilityEventsSupported)) :
    avrcpCapabilitiesIncludeVolume parameters = false := by
  rw [avrcpCapabilitiesIncludeVolume, if_pos]
  by_contra hnot
  rw [not_or, not_not, Nat.not_lt] at hnot
  exact h hnot

variable {vendor : AvrcpVendorFrame}

theorem decodeVendorFrame_capability (hresponse : vendor.frame.commandResponse ≠ 0)
    (hpdu : vendor.pduId = avrcpPduGetCapabilities) :
    decodeVendorFrame packet out vendor =
      let out := { out with
        pduId := vendor.pduId
        parameterBytes := (vendor.parameters packet).take 8
        responseCode := vendor.frame.ctypeOrResponse }
      if (vendor.parameters packet).length ≥ 2 ∧
          byteAt (vendor.parameters packet) 0 = avrcpCapabilityEventsSupported then
        { out with
          kind := .volumeCapability
          volumeSupported :=
            if avrcpCapabilitiesIncludeVolume (vendor.parameters packet) then 1 else 0 }
      else { out with kind := .vendorCommand } := by
  have hother : vendor.pduId ≠ avrcpPduRegisterNotification := by
    rw [hpdu]
    decide
  simp only [decodeVendorFrame, capabilitiesIncludeVolume_eq]
  rw [if_neg hresponse]
  by_cases hlisted : (vendor.parameters packet).length ≥ 2 ∧
      byteAt (vendor.parameters packet) 0 = avrcpCapabilityEventsSupported
  · rw [if_pos ⟨hpdu, hlisted⟩, if_pos hlisted]
  · rw [if_neg fun h => hlisted h.2, if_neg fun h => hother h.1, if_neg hlisted]

theorem decodeVendorFrame_volume (hresponse : vendor.frame.commandResponse ≠ 0)
    (hpdu : vendor.pduId = avrcpPduRegisterNotification)
    (hlength : (vendor.parameters packet).length = 2)
    (hevent : byteAt (vendor.parameters packet) 0 = avrcpEventVolumeChanged)
    (hvolume : byteAt (vendor.parameters packet) 1 ≤ 0x7F) :
    decodeVendorFrame packet out vendor =
      { out with
        pduId := vendor.pduId
        parameterBytes := (vendor.parameters packet).take 8
        responseCode := vendor.frame.ctypeOrResponse
        kind := .volumeChanged
        volumeSupported := 1
        absoluteVolume := byteAt (vendor.parameters packet) 1 } := by
  have hother : vendor.pduId ≠ avrcpPduGetCapabilities := by
    rw [hpdu]
    decide
  simp only [decodeVendorFrame]
  rw [if_neg hresponse, if_neg fun h => hother h.1,
    if_pos ⟨hpdu, Nat.le_of_eq hlength.symm, hevent, hvolume⟩]

end

/-- What the decoder makes of a packet that the observer reports as a capability. -/
structure CapabilityDecoded (packet : List UInt8) (e e' : AvrcpObserverEvent) : Prop where
  stable : e'.responseCode = avrcpResponseStable ∧ e.responseCode = 0
  listed : ListsEvents packet →
    SameReport { e with responseCode := avrcpResponseStable } e'
  unlisted : ¬ ListsEvents packet → e.volumeSupported = 0 ∧ e'.kind = .vendorCommand

/-- **The decoder and the observer.** In every state that the observer can be in, what it reports of
    a packet the decoder reports too: a key and a volume with every field; the capability with the
    response code, which the observer leaves out, and only from a list of events. And a recognized
    private header in front of a packet changes only what is recorded of the bytes. -/
theorem decoder_agrees :
    (∀ inputs packet,
      let event := (avrcpObserverHandlePacket (avrcpObserver.after {} inputs) packet).1.event
      event.Reports → ∃ decoded,
        v1AvrcpFilterDecodePacket packet .direct = (.ok (), some decoded) ∧
        (event.kind ≠ .volumeCapability → SameReport event decoded) ∧
        (event.kind = .volumeCapability → CapabilityDecoded packet event decoded)) ∧
    ∀ header packet, header.length = kMicrosoftHeaderSize →
      v1AvrcpFilterDetectLayout (header ++ packet) = .microsoftPrivateHeader →
      (v1AvrcpFilterDecodePacket (header ++ packet) .microsoftPrivateHeader).map id
          (Option.map AvrcpObserverEvent.withoutRaw) =
        (v1AvrcpFilterDecodePacket packet .direct).map id
          (Option.map AvrcpObserverEvent.withoutRaw) := by
  refine ⟨?_, fun header packet hsize h => decode_header hsize h⟩
  intro inputs packet event hreports
  have hasked := asked_after inputs
  have hreport : PacketReport _ packet event := handlePacket_report (label_after inputs)
  have hdirect : v1AvrcpFilterDecodePacket packet .direct =
      (decodeFrame packet (copyRawPrefix packet)).map id some := rfl
  rw [hdirect]
  generalize event = e at hreports hreport
  cases hreport with
  | silent hsilent => exact absurd hreports hsilent
  | passThrough hparse hcontrol =>
    rw [decodeFrame_passThrough _ hparse]
    refine ⟨_, rfl, fun _ => ⟨rfl, rfl, rfl, rfl, rfl, hcontrol⟩, fun h => ?_⟩
    cases h
  | @volumeCapability vendor hparse hresponse hstate hpending hstable =>
    have hpdu := hpending.trans (hasked.capabilities hstate)
    have hlists : ListsEvents packet ↔ (vendor.parameters packet).length ≥ 2 ∧
        byteAt (vendor.parameters packet) 0 = avrcpCapabilityEventsSupported := by
      constructor
      · rintro ⟨vendor', hparse', hlisted⟩
        rw [hparse] at hparse'
        cases hparse'
        exact hlisted
      · exact fun hlisted => ⟨vendor, hparse, hlisted⟩
    rw [decodeFrame_vendor _ hparse, decodeVendorFrame_capability _ hresponse hpdu]
    refine ⟨_, rfl, fun h => absurd rfl h, fun _ => ⟨⟨?_, rfl⟩, fun hlisted => ?_,
      fun hlisted => ?_⟩⟩
    · dsimp only
      split_ifs <;> exact hstable
    · rw [hlists] at hlisted
      rw [if_pos hlisted]
      exact ⟨rfl, rfl, rfl, rfl, rfl, hstable⟩
    · rw [hlists] at hlisted
      rw [if_neg hlisted, capabilitiesIncludeVolume_unlisted hlisted]
      exact ⟨rfl, rfl⟩
  | @volumeChanged vendor hparse hresponse hstate hpending hlength hevent hvolume =>
    have hpdu := hpending.trans (hasked.volume hstate)
    rw [decodeFrame_vendor _ hparse,
      decodeVendorFrame_volume _ hresponse hpdu hlength hevent hvolume]
    refine ⟨_, rfl, fun _ => ⟨rfl, rfl, rfl, rfl, rfl, rfl⟩, fun h => ?_⟩
    cases h

/-- The headset lists the volume among its events. -/
def capabilitiesStable : List UInt8 :=
  [0x02, 0x11, 0x0E, 0x0C, 0x48, 0x00, 0x00, 0x19, 0x58, 0x10, 0x00, 0x00, 0x03, 0x03, 0x01, 0x0D]

/-- The headset's volume is 42. -/
def volumeInterim : List UInt8 :=
  [0x12, 0x11, 0x0E, 0x0F, 0x48, 0x00, 0x00, 0x19, 0x58, 0x31, 0x00, 0x00, 0x02, 0x0D, 0x2A]

theorem decoder_agrees_interim :
    ∃ decoded, v1AvrcpFilterDecodePacket volumeInterim .direct = (.ok (), some decoded) ∧
      decoded.kind = .volumeChanged ∧ decoded.absoluteVolume = 42 := by
  have hreport : (avrcpObserverHandlePacket
      (avrcpObserver.after {} [.begin_, .packet capabilitiesStable]) volumeInterim).1.event =
      { kind := .volumeChanged
        volumeSupported := 1
        absoluteVolume := 42
        responseCode := avrcpResponseInterim } := by
    decide +kernel
  obtain ⟨decoded, hdecode, hsame, -⟩ :=
    decoder_agrees.1 [.begin_, .packet capabilitiesStable] volumeInterim
      (by rw [hreport]; exact .inr (.inl rfl))
  rw [hreport] at hsame
  have hfields := hsame (by decide)
  exact ⟨decoded, hdecode, hfields.kind, hfields.absoluteVolume⟩

/-- The decoder reports the response code of the list, the observer none. -/
theorem capability_code_differs :
    ¬ ∀ inputs packet,
      let event := (avrcpObserverHandlePacket (avrcpObserver.after {} inputs) packet).1.event
      event.Reports → ∃ decoded,
        v1AvrcpFilterDecodePacket packet .direct = (.ok (), some decoded) ∧
        SameReport event decoded := by
  intro h
  have hbegun : ((avrcpObserverHandlePacket (avrcpObserver.after {} [.begin_])
      capabilitiesStable).1.event) = { kind := .volumeCapability, volumeSupported := 1 } := by
    decide +kernel
  have hdecoded : (v1AvrcpFilterDecodePacket capabilitiesStable .direct).2.map
      (·.responseCode) = some 0x0C := by
    decide +kernel
  obtain ⟨decoded, hdecode, hsame⟩ := h [.begin_] capabilitiesStable
    (by rw [hbegun]; exact .inr (.inr rfl))
  rw [hdecode] at hdecoded
  have hcode := hsame.responseCode
  rw [hbegun] at hcode
  rw [Option.map_some, hcode] at hdecoded
  exact absurd hdecoded (by decide)

end NativeLdac.Protocol
