/-
  The AVRCP control of the direct PDO (`direct-pdo/src/nativeldac_avrcp_control.c`): it holds the
  observer of the AVRCP channel, and writes the volume of Windows to the headset.

  * `NldAvrcpControlContext` and its three operations; a buffer of the caller is its capacity, or
    `none` for a null pointer;
  * `avrcpControl`, the machine they make, with a ledger of the volumes that were accepted and
    that were sent.
-/
import NativeLdac.Protocol.AvrcpTransactions

namespace NativeLdac.DirectPdo

open Protocol

/-! ## The control -/

inductive NldAvrcpControlState where
  | offline | opening | observing | failed
deriving DecidableEq, Repr

/-- `NLD_AVRCP_CONTROL_CONTEXT`, as `NldAvrcpControlInitialize` leaves it. -/
structure NldAvrcpControlContext where
  observer : AvrcpObserver := {}
  state : NldAvrcpControlState := .offline
  generation : UInt32 := 0
  windowsPercent : UInt8 := 0
  xm5Volume : UInt8 := 0
  xm5VolumeValid : Bool := false
  windowsVolumePending : Bool := false
  pendingWindowsPercent : UInt8 := 0
  writeInFlight : Bool := false
deriving DecidableEq, Repr

def clampPercent (percent : UInt8) : UInt8 := if percent > 100 then 100 else percent

def nldAvrcpControlPercentToXm5 (percent : UInt8) : UInt8 :=
  UInt8.ofNat (((clampPercent percent).toNat * 127 + 50) / 100)

def nldAvrcpControlXm5ToPercent (volume : UInt8) : UInt8 :=
  let clamped := if volume > 127 then 127 else volume.toNat
  UInt8.ofNat ((clamped * 100 + 63) / 127)

def fitsBuffer (capacity : Option Nat) (packet : List UInt8) : Bool :=
  match capacity with
  | none => false
  | some capacity => packet.length ≤ capacity

/-- `NldAvrcpControlBegin`: what it returns, and the packet -/
def nldAvrcpControlBegin (context : NldAvrcpControlContext) (generation : UInt32)
    (capacity : Option Nat) : (Bool × List UInt8) × NldAvrcpControlContext :=
  if generation = 0 ∨ capacity = none ∨ context.state ≠ .offline then ((false, []), context)
  else
    let r := avrcpObserverBegin {}
    let context := { context with observer := r.2 }
    if r.1.packet = [] ∨ ¬ fitsBuffer capacity r.1.packet then
      ((false, []), { context with state := .failed })
    else ((true, r.1.packet), { context with generation := generation, state := .opening })

def nldAvrcpControlHandlePacket (context : NldAvrcpControlContext) (packet : List UInt8)
    (capacity : Option Nat) : (Bool × List UInt8) × NldAvrcpControlContext :=
  if packet = [] ∨ context.state = .offline ∨ context.state = .failed then ((false, []), context)
  else
    let r := avrcpObserverHandlePacket context.observer packet
    let context := { context with observer := r.2 }
    if r.1.event.kind = .protocolError then ((false, []), { context with state := .failed })
    else
      let context :=
        if r.1.event.kind = .volumeChanged then
          { context with
            xm5Volume := r.1.event.absoluteVolume
            xm5VolumeValid := true
            windowsPercent := nldAvrcpControlXm5ToPercent r.1.event.absoluteVolume }
        else context
      let context :=
        if context.observer.state = .observing then { context with state := .observing }
        else context
      if r.1.packet ≠ [] ∧ ¬ fitsBuffer capacity r.1.packet then
        ((false, []), { context with state := .failed })
      else ((true, r.1.packet), { context with writeInFlight := context.observer.writeActive })

def nldAvrcpControlSetWindowsPercent (context : NldAvrcpControlContext) (percent : UInt8)
    (capacity : Option Nat) : (Bool × List UInt8) × NldAvrcpControlContext :=
  if context.state ≠ .observing then ((false, []), context)
  else
    let r := avrcpObserverSubmitWrite context.observer avrcpPduSetAbsoluteVolume 0
      [nldAvrcpControlPercentToXm5 percent]
    let context :=
      { context with
        observer := r.2
        windowsPercent := clampPercent percent
        pendingWindowsPercent := clampPercent percent
        windowsVolumePending := true }
    if r.1.packet = [] then
      ((true, []), { context with writeInFlight := context.observer.writeActive })
    else if ¬ fitsBuffer capacity r.1.packet then ((false, []), context)
    else
      ((true, r.1.packet), { context with windowsVolumePending := false, writeInFlight := true })

/-! ## Volumes on the wire -/

/-- The volume that a SET_ABSOLUTE_VOLUME command carries. -/
def avrcpSentVolume (packet : List UInt8) : Option UInt8 :=
  match avrcpParseVendorFrame packet with
  | .error _ => none
  | .ok vendor =>
    let parameters := vendor.parameters packet
    if vendor.frame.commandResponse = 0 ∧ vendor.frame.ctypeOrResponse = avrcpCtypeControl ∧
        vendor.pduId = avrcpPduSetAbsoluteVolume ∧ parameters.length = 1 then
      some (byteAt parameters 0)
    else none

theorem sentVolume_written {label : UInt8} (hl : label ≤ 0x0F) (volume : UInt8) :
    avrcpSentVolume (avrcpWriteVendorCommand avrcpMaxControlPacket label avrcpCtypeControl
      avrcpPduSetAbsoluteVolume [volume]) = some volume := by
  obtain ⟨vendor, hparse, hframe, hpdu, hparameters⟩ := parse_written hl
    (by decide : avrcpCtypeControl ≤ 0x0F) false avrcpPduSetAbsoluteVolume
    (show [volume].length ≤ 9 by simp)
  rw [avrcpSentVolume, writeVendorCommand_eq hl, hparse]
  simp only [hframe, hpdu, hparameters, writtenFrame]
  rfl

theorem sentVolume_bytes {packet : List UInt8} {volume : UInt8}
    (h : avrcpSentVolume packet = some volume) :
    avrcpIsCommand packet ∧ byteAt packet 9 = avrcpPduSetAbsoluteVolume := by
  rw [avrcpSentVolume] at h
  rcases hparse : avrcpParseVendorFrame packet with e | vendor
  · rw [hparse] at h
    cases h
  rw [hparse] at h
  dsimp only at h
  split at h
  · rename_i hvolume
    obtain ⟨hframe, -⟩ := parseVendorFrame_frame hparse
    obtain ⟨hvendor, -⟩ := parseVendorFrame_ok hparse
    have hlength := (parseFrame_fields hframe).1
    constructor
    · rw [avrcpIsCommand, (parseFrame_ok hframe).1, header_response (parseFrame_fields hframe).2.1]
      have hne : packet ≠ [] := by
        rintro rfl
        simp at hlength
      simp [hvolume.1, hne]
    · have hpdu := congrArg (byteAt · 9) hvendor
      simp only [byteAt, List.getD_eq_getElem?_getD, List.getElem?_take, avrcpVendorPrefix] at hpdu ⊢
      simpa [hvolume.2.2.1] using hpdu
  · cases h

theorem sentVolume_none {packet : List UInt8}
    (h : ¬ avrcpIsCommand packet ∨ byteAt packet 9 ≠ avrcpPduSetAbsoluteVolume) :
    avrcpSentVolume packet = none := by
  by_contra hsome
  obtain ⟨volume, hvolume⟩ := Option.ne_none_iff_exists'.mp hsome
  obtain ⟨hcommand, hpdu⟩ := sentVolume_bytes hvolume
  exact h.elim (fun h => h hcommand) (fun h => h hpdu)

/-! ## What a packet does -/

/-- A packet that the observer handles sends no volume, and only its response ends a write. -/
structure PacketKeeps (o : AvrcpObserver) (packet : List UInt8)
    (r : AvrcpObserverResult × AvrcpObserver) : Prop where
  volume : avrcpSentVolume r.1.packet = none
  idle : r.2.state = .idle → o.state = .idle
  failed : r.2.state = .failed → r.1.event.kind = .protocolError
  write : o.writeActive → ¬ AnswersWrite o packet → r.2.writeActive

section
variable {o o' : AvrcpObserver} {packet : List UInt8}

theorem fail_keeps (error : AvrcpError) (stage : UInt8) (raw : List UInt8)
    (hwrite : o'.writeActive = o.writeActive) :
    PacketKeeps o packet (avrcpObserverFailStage o' error stage raw) :=
  ⟨rfl, by simp [avrcpObserverFailStage], fun _ => rfl, fun h _ => hwrite.trans h⟩

theorem registerVolume_keeps {event : AvrcpObserverEvent} (hwrite : o'.writeActive = o.writeActive) :
    PacketKeeps o packet (avrcpObserverRegisterVolume o' event) := by
  simp only [avrcpObserverRegisterVolume]
  split_ifs
  · exact fail_keeps _ _ _ hwrite
  · refine ⟨sentVolume_none ?_, by simp, by simp, fun h _ => hwrite.trans h⟩
    simp only [avrcpWriteRegisterNotification]
    by_cases hl : o'.nextTransactionLabel ≤ 0x0F
    · rw [writeVendorCommand_bytes hl _ _ (by simp)]
      exact .inr (by decide : avrcpPduRegisterNotification ≠ avrcpPduSetAbsoluteVolume)
    · rw [avrcpWriteVendorCommand, if_pos (by simpa using hl)]
      exact .inl (by simp [avrcpIsCommand])

theorem handlePassThrough_keeps (hlive : o.state ≠ .failed) :
    PacketKeeps o packet (avrcpObserverHandlePassThrough o packet) := by
  rcases handlePassThrough_cases o packet with
    ⟨error, stage, raw, hfail⟩ | ⟨answer, event, hstep, -, hmarked, -⟩
  · rw [hfail]
    exact fail_keeps _ _ _ rfl
  · rw [hstep]
    exact ⟨sentVolume_none (.inl (isCommand_marked hmarked)), id, fun h => absurd h hlive,
      fun h _ => h⟩

theorem handleVendorCommand_keeps (hlive : o.state ≠ .failed) (vendor : AvrcpVendorFrame) :
    PacketKeeps o packet (avrcpObserverHandleVendorCommand o packet vendor) := by
  obtain ⟨hstate, hwrite, -⟩ := vendorAnswer_kept o vendor.frame.transactionLabel vendor.pduId
    (vendor.parameters packet)
  simp only [avrcpObserverHandleVendorCommand]
  split_ifs
  · exact fail_keeps _ _ _ hwrite
  · exact ⟨sentVolume_none (.inl (isCommand_response _ _ _ _ _)), fun h => hstate ▸ h,
      fun h => absurd (hstate ▸ h) hlive, fun h _ => hwrite ▸ h⟩

theorem handleWriteResponse_keeps (hlive : o.state ≠ .failed) {vendor : AvrcpVendorFrame}
    (hanswers : AnswersWrite o packet) :
    PacketKeeps o packet (avrcpObserverHandleWriteResponse o packet vendor) := by
  have hstate : (avrcpObserverSubmitPlaybackStatus o.answered o.playbackStatus).2.state =
      o.state := by
    simp only [avrcpObserverSubmitPlaybackStatus]
    split_ifs <;> rfl
  have hreport := (submitPlaybackStatus_transaction o.answered o.playbackStatus).2.2.1
  exact ⟨sentVolume_none (.inl hreport), fun h => hstate ▸ h, fun h => absurd (hstate ▸ h) hlive,
    fun _ h => absurd hanswers h⟩

theorem handleResponse_keeps (vendor : AvrcpVendorFrame) :
    PacketKeeps o packet (avrcpObserverHandleResponse o packet vendor) := by
  simp only [avrcpObserverHandleResponse]
  split_ifs
  · exact fail_keeps _ _ _ rfl
  · exact registerVolume_keeps rfl
  · exact ⟨rfl, by simp, by simp, fun h _ => h⟩
  · exact ⟨rfl, by simp, by simp, fun h _ => h⟩
  · exact registerVolume_keeps rfl
  · exact fail_keeps _ _ _ rfl
  · exact fail_keeps _ _ _ rfl

theorem handlePacket_keeps (o : AvrcpObserver) (packet : List UInt8) :
    PacketKeeps o packet (avrcpObserverHandlePacket o packet) := by
  unfold avrcpObserverHandlePacket
  by_cases hstate : o.state = .idle ∨ o.state = .failed
  · rw [if_pos hstate]
    exact fail_keeps _ _ _ rfl
  rw [if_neg hstate]
  rw [not_or] at hstate
  rcases avrcpParseFrame packet with e | frame
  · exact fail_keeps _ _ _ rfl
  dsimp only
  split_ifs
  · exact handlePassThrough_keeps hstate.2
  rcases hparse : avrcpParseVendorFrame packet with e | vendor
  · exact fail_keeps _ _ _ rfl
  dsimp only [avrcpObserverHandleVendor]
  split_ifs with hanswers
  · exact handleWriteResponse_keeps hstate.2 ⟨vendor, hparse, hanswers⟩
  · exact handleVendorCommand_keeps hstate.2 vendor
  · exact fail_keeps _ _ _ rfl
  · exact handleResponse_keeps vendor

end

/-! ## Runs -/

inductive NldAvrcpControlOp where
  | begin_ (generation : UInt32) (capacity : Option Nat)
  | handlePacket (packet : List UInt8) (capacity : Option Nat)
  | setWindowsPercent (percent : UInt8) (capacity : Option Nat)
deriving DecidableEq, Repr

/-- The volumes, as the headset counts them. -/
structure VolumeLedger where
  /-- of the last percent that was accepted -/
  accepted : Option UInt8 := none
  /-- that was sent last -/
  sent : Option UInt8 := none
deriving DecidableEq, Repr

def NldAvrcpControlContext.step (context : NldAvrcpControlContext) :
    NldAvrcpControlOp → (Bool × List UInt8) × NldAvrcpControlContext
  | .begin_ generation capacity => nldAvrcpControlBegin context generation capacity
  | .handlePacket packet capacity => nldAvrcpControlHandlePacket context packet capacity
  | .setWindowsPercent percent capacity => nldAvrcpControlSetWindowsPercent context percent capacity

/-- The volume that the operation asks for, which is accepted if it returns success. -/
def NldAvrcpControlOp.volume : NldAvrcpControlOp → Option UInt8
  | .setWindowsPercent percent _ => some (nldAvrcpControlPercentToXm5 percent)
  | _ => none

def VolumeLedger.record (ledger : VolumeLedger) (op : NldAvrcpControlOp)
    (answer : Bool × List UInt8) : VolumeLedger where
  accepted := (op.volume.filter fun _ => answer.1).or ledger.accepted
  sent := (avrcpSentVolume answer.2).or ledger.sent

def avrcpControl :
    Reducer (NldAvrcpControlContext × VolumeLedger) NldAvrcpControlOp (Bool × List UInt8) where
  step s op :=
    let r := s.1.step op
    (r.1, r.2, s.2.record op r.1)

/-- A volume that is pending waits for a write in flight, and the volume accepted last has been
    sent or is the one that is pending. -/
structure VolumeKept (s : NldAvrcpControlContext × VolumeLedger) : Prop where
  inFlight : s.1.windowsVolumePending → s.1.observer.writeActive
  reaches : s.2.sent = s.2.accepted ∨ s.1.windowsVolumePending ∧
    s.2.accepted = some (nldAvrcpControlPercentToXm5 s.1.pendingWindowsPercent)

/-- The operation handles the response to the write in flight, and a volume is pending. -/
def AnsweredWhilePending (s : NldAvrcpControlContext × VolumeLedger) (op : NldAvrcpControlOp) :
    Prop :=
  s.1.windowsVolumePending ∧ s.1.state = .observing ∧
    ∃ packet capacity, op = .handlePacket packet capacity ∧ AnswersWrite s.1.observer packet

/-- Such a response makes the control send the pending volume. -/
def VolumeFlushed (s : NldAvrcpControlContext × VolumeLedger) (op : NldAvrcpControlOp) : Prop :=
  AnsweredWhilePending s op →
    avrcpSentVolume (avrcpControl.out s op).2 =
      some (nldAvrcpControlPercentToXm5 s.1.pendingWindowsPercent)

/-- No volume is lost in the run. -/
def VolumesKept (ops : List NldAvrcpControlOp) : Prop :=
  (∀ before, before <+: ops → VolumeKept (avrcpControl.after ({}, {}) before)) ∧
    avrcpControl.Along VolumeFlushed ({}, {}) ops

/-- What every operation keeps of the context. -/
structure ControlSound (context : NldAvrcpControlContext) : Prop where
  label : context.observer.nextTransactionLabel ≤ 0x0F
  live : context.state = .opening ∨ context.state = .observing →
    context.observer.state ≠ .idle ∧ context.observer.state ≠ .failed
  pending : context.windowsVolumePending → context.state = .observing ∨ context.state = .failed

section
variable {context : NldAvrcpControlContext} {ledger : VolumeLedger}

theorem handlePacket_silent (packet : List UInt8) (capacity : Option Nat) :
    avrcpSentVolume (nldAvrcpControlHandlePacket context packet capacity).1.2 = none := by
  have hvolume := (handlePacket_keeps context.observer packet).volume
  simp only [nldAvrcpControlHandlePacket]
  split
  · rfl
  split
  · rfl
  split
  · rfl
  · exact hvolume

theorem handlePacket_cases (context : NldAvrcpControlContext) (packet : List UInt8)
    (capacity : Option Nat) :
    (nldAvrcpControlHandlePacket context packet capacity).2 = context ∨
      let context' := (nldAvrcpControlHandlePacket context packet capacity).2
      (context.state ≠ .offline ∧ context.state ≠ .failed) ∧
      context'.observer = (avrcpObserverHandlePacket context.observer packet).2 ∧
      context'.windowsVolumePending = context.windowsVolumePending ∧
      context'.pendingWindowsPercent = context.pendingWindowsPercent ∧
      (context'.state = .failed ∨ context'.observer.state ≠ .failed ∧
        (context'.state = .observing ∨ context'.state = context.state)) := by
  have hkeeps := handlePacket_keeps context.observer packet
  simp only [nldAvrcpControlHandlePacket]
  split
  · exact .inl rfl
  rename_i hstate
  simp only [not_or] at hstate
  refine .inr ⟨hstate.2, ?_⟩
  split
  · exact ⟨rfl, rfl, rfl, .inl rfl⟩
  rename_i herror
  have hlive : (avrcpObserverHandlePacket context.observer packet).2.state ≠ .failed :=
    fun h => herror (hkeeps.failed h)
  split
  · exact ⟨by split_ifs <;> rfl, by split_ifs <;> rfl, by split_ifs <;> rfl, .inl rfl⟩
  · refine ⟨by split_ifs <;> rfl, by split_ifs <;> rfl, by split_ifs <;> rfl, .inr ⟨?_, ?_⟩⟩
    · split_ifs <;> exact hlive
    · split_ifs <;> first | exact .inl rfl | exact .inr rfl

theorem handlePacket_sound (h : ControlSound context) (packet : List UInt8)
    (capacity : Option Nat) :
    ControlSound (nldAvrcpControlHandlePacket context packet capacity).2 := by
  rcases handlePacket_cases context packet capacity with hsame |
    ⟨hstate, hobserver, hpending, -, hnext⟩
  · rw [hsame]
    exact h
  have hkeeps := handlePacket_keeps context.observer packet
  refine ⟨by rw [hobserver]; exact handlePacket_label h.label packet, fun hlive => ?_, fun hset => ?_⟩
  · rcases hnext with hfailed | ⟨hobserving, -⟩
    · rw [hfailed] at hlive
      rcases hlive with hlive | hlive <;> cases hlive
    · refine ⟨fun hidle => ?_, hobserving⟩
      have hbefore : context.state = .opening ∨ context.state = .observing := by
        cases hcontext : context.state <;> simp [hcontext] at hstate ⊢
      exact (h.live hbefore).1 (hkeeps.idle (hobserver ▸ hidle))
  · rcases hnext with hfailed | ⟨-, hobserving | hsame⟩
    · exact .inr hfailed
    · exact .inl hobserving
    · rw [hsame]
      exact h.pending (hpending ▸ hset)

theorem handlePacket_kept (hsound : ControlSound context) (h : VolumeKept (context, ledger))
    {packet : List UInt8} {capacity : Option Nat}
    (hanswered : ¬ AnsweredWhilePending (context, ledger) (.handlePacket packet capacity)) :
    VolumeKept (avrcpControl.next (context, ledger) (.handlePacket packet capacity)) := by
  have hledger : ledger.record (.handlePacket packet capacity)
      (nldAvrcpControlHandlePacket context packet capacity).1 = ledger := by
    rw [VolumeLedger.record, handlePacket_silent]
    rfl
  show VolumeKept ((nldAvrcpControlHandlePacket context packet capacity).2,
    ledger.record (.handlePacket packet capacity)
      (nldAvrcpControlHandlePacket context packet capacity).1)
  rw [hledger]
  rcases handlePacket_cases context packet capacity with hsame |
    ⟨hstate, hobserver, hpending, hpercent, -⟩
  · rw [hsame]
    exact h
  refine ⟨?_, by rw [hpending, hpercent]; exact h.reaches⟩
  rw [hpending, hobserver]
  intro hset
  have hobserving := (hsound.pending hset).resolve_right hstate.2
  exact (handlePacket_keeps context.observer packet).write (h.inFlight hset)
    fun hanswers => hanswered ⟨hset, hobserving, packet, capacity, rfl, hanswers⟩

theorem submitVolume_cases (hsound : ControlSound context) (hobserving : context.state = .observing)
    (volume : UInt8) :
    let r := avrcpObserverSubmitWrite context.observer avrcpPduSetAbsoluteVolume 0 [volume]
    (r.2.nextTransactionLabel ≤ 0x0F ∧ r.2.state = context.observer.state) ∧ r.2.writeActive ∧
      (r.1.packet = [] ∧ context.observer.writeActive ∨
        context.observer.writeActive = false ∧ avrcpSentVolume r.1.packet = some volume) := by
  obtain ⟨hidle, hfailed⟩ := hsound.live (.inr hobserving)
  have hargs : ¬ (avrcpPduSetAbsoluteVolume = 0 ∨ [volume].length > 8) := by
    simp [avrcpPduSetAbsoluteVolume]
  have hreport : ¬ avrcpIsPlaybackReport avrcpPduSetAbsoluteVolume 0 [volume] := by
    simp [avrcpIsPlaybackReport]
  have hsent := sentVolume_written hsound.label volume
  simp only [avrcpObserverSubmitWrite, if_neg hargs, if_neg hreport]
  cases hwrite : context.observer.writeActive with
  | true =>
    rw [if_pos (.inr (.inr rfl))]
    exact ⟨⟨hsound.label, rfl⟩, hwrite, .inl ⟨rfl, rfl⟩⟩
  | false =>
    rw [if_neg (by simp [hidle, hfailed])]
    simp only [if_true]
    rw [if_neg]
    · exact ⟨⟨nextLabel_le _, rfl⟩, rfl, .inr ⟨trivial, hsent⟩⟩
    · intro hnone
      rw [hnone] at hsent
      cases hsent

theorem begin_kept (hsound : ControlSound context) (h : VolumeKept (context, ledger))
    (generation : UInt32) (capacity : Option Nat) :
    ControlSound (nldAvrcpControlBegin context generation capacity).2 ∧
      VolumeKept (avrcpControl.next (context, ledger) (.begin_ generation capacity)) := by
  show _ ∧ VolumeKept ((nldAvrcpControlBegin context generation capacity).2,
    ledger.record (.begin_ generation capacity)
      (nldAvrcpControlBegin context generation capacity).1)
  have hsilent : avrcpSentVolume (avrcpObserverBegin {}).1.packet = none := by decide
  have hlive : (avrcpObserverBegin {}).2.nextTransactionLabel ≤ 0x0F ∧
      (avrcpObserverBegin {}).2.state ≠ .idle ∧ (avrcpObserverBegin {}).2.state ≠ .failed := by
    decide
  simp only [nldAvrcpControlBegin]
  split
  · exact ⟨hsound, h⟩
  rename_i hoffline
  simp only [not_or, not_not] at hoffline
  have hset : ¬ context.windowsVolumePending := by
    intro hset
    rcases hsound.pending hset with hstate | hstate <;> cases hoffline.2.2.symm.trans hstate
  have hkept : ledger.sent = ledger.accepted := h.reaches.resolve_right fun h => hset h.1
  split
  · exact ⟨⟨hlive.1, by simp, fun h => absurd h hset⟩, fun h => absurd h hset, .inl hkept⟩
  · refine ⟨⟨hlive.1, fun _ => hlive.2, fun h => absurd h hset⟩, fun h => absurd h hset, .inl ?_⟩
    rw [VolumeLedger.record, hsilent]
    exact hkept

theorem percentToXm5_clampPercent (percent : UInt8) :
    nldAvrcpControlPercentToXm5 (clampPercent percent) = nldAvrcpControlPercentToXm5 percent := by
  have hclamp : clampPercent (clampPercent percent) = clampPercent percent := by
    unfold clampPercent
    split_ifs <;> rfl
  rw [nldAvrcpControlPercentToXm5, hclamp]
  rfl

theorem setWindowsPercent_kept (hsound : ControlSound context) (h : VolumeKept (context, ledger))
    (percent : UInt8) (capacity : Option Nat) :
    ControlSound (nldAvrcpControlSetWindowsPercent context percent capacity).2 ∧
      VolumeKept (avrcpControl.next (context, ledger) (.setWindowsPercent percent capacity)) := by
  show _ ∧ VolumeKept ((nldAvrcpControlSetWindowsPercent context percent capacity).2,
    ledger.record (.setWindowsPercent percent capacity)
      (nldAvrcpControlSetWindowsPercent context percent capacity).1)
  by_cases hobserving : context.state = .observing
  swap
  · rw [nldAvrcpControlSetWindowsPercent, if_pos hobserving]
    exact ⟨hsound, h⟩
  obtain ⟨⟨hlabel, hstate⟩, hactive, hcases⟩ := submitVolume_cases hsound hobserving
    (nldAvrcpControlPercentToXm5 percent)
  have hlive := hsound.live (.inr hobserving)
  rw [nldAvrcpControlSetWindowsPercent, if_neg (not_not_intro hobserving)]
  dsimp only
  generalize avrcpObserverSubmitWrite context.observer avrcpPduSetAbsoluteVolume 0
    [nldAvrcpControlPercentToXm5 percent] = r at hlabel hstate hactive hcases ⊢
  rw [← hstate] at hlive
  rcases hcases with ⟨hdeferred, -⟩ | ⟨hfree, hsent⟩
  · rw [if_pos hdeferred]
    refine ⟨⟨hlabel, fun _ => hlive, fun _ => .inl hobserving⟩, fun _ => hactive, .inr ⟨rfl, ?_⟩⟩
    exact congrArg some (percentToXm5_clampPercent percent).symm
  have hne : r.1.packet ≠ [] := by
    intro hnone
    rw [hnone] at hsent
    cases hsent
  rw [if_neg hne]
  split
  · -- the buffer is too small: the write is in flight, and the caller has nothing to send
    refine ⟨⟨hlabel, fun _ => hlive, fun _ => .inl hobserving⟩, fun _ => hactive, .inl ?_⟩
    refine h.reaches.resolve_right fun hpending => ?_
    rw [show context.observer.writeActive = true from h.inFlight hpending.1] at hfree
    cases hfree
  · refine ⟨⟨hlabel, fun _ => hlive, fun _ => .inl hobserving⟩, (fun hset => by cases hset),
      .inl ?_⟩
    rw [VolumeLedger.record, hsent]
    rfl

end

theorem control_kept {s : NldAvrcpControlContext × VolumeLedger} {op : NldAvrcpControlOp}
    (h : ControlSound s.1 ∧ VolumeKept s) (hop : ¬ AnsweredWhilePending s op) :
    ControlSound (avrcpControl.next s op).1 ∧ VolumeKept (avrcpControl.next s op) := by
  obtain ⟨context, ledger⟩ := s
  cases op with
  | begin_ generation capacity => exact begin_kept h.1 h.2 generation capacity
  | handlePacket packet capacity =>
    exact ⟨handlePacket_sound h.1 packet capacity, handlePacket_kept h.1 h.2 hop⟩
  | setWindowsPercent percent capacity => exact setWindowsPercent_kept h.1 h.2 percent capacity

/-- The control is observing; the volume is set to 50 percent, and to 80 while the write is in
    flight. -/
def volumeSetTwice : List NldAvrcpControlOp :=
  [.begin_ 1 (some 64),
    .handlePacket [0x02, 0x11, 0x0E, 0x0C, 0x48, 0x00, 0x00, 0x19, 0x58, 0x10, 0, 0, 3, 0x03, 1, 0x0D]
      (some 64),
    .handlePacket [0x12, 0x11, 0x0E, 0x0F, 0x48, 0x00, 0x00, 0x19, 0x58, 0x31, 0, 0, 2, 0x0D, 0x20]
      (some 64),
    .setWindowsPercent 50 (some 64), .setWindowsPercent 80 (some 64)]

def firstVolumeAccepted : List UInt8 :=
  [0x22, 0x11, 0x0E, 0x09, 0x48, 0x00, 0x00, 0x19, 0x58, 0x50, 0, 0, 1, 0x40]

end NativeLdac.DirectPdo
