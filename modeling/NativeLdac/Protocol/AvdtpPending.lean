/-
  The command an AVDTP source waits for: a single packet parses back to what
  was written, the pending label and signal are those of the command sent last,
  and the signal is the one of the state.
-/
import NativeLdac.Protocol.Avdtp
import Mathlib.Tactic.SplitIfs

namespace NativeLdac.Protocol

/-! ## Packets -/

theorem firstByte_bits {label : UInt8} (h : label ≤ 0x0F) (m : AvdtpMessageType) :
    let first := label <<< 4 ||| AvdtpPacketType.single.toBits <<< 2 ||| (m.toBits &&& 0x03)
    first >>> 4 = label ∧ AvdtpPacketType.ofBits ((first >>> 2) &&& 0x03) = .single ∧
      AvdtpMessageType.ofBits (first &&& 0x03) = m := by
  have key : ∀ n < 16, ∀ m : AvdtpMessageType,
      let first := UInt8.ofNat n <<< 4 ||| AvdtpPacketType.single.toBits <<< 2 |||
        (m.toBits &&& 0x03)
      first >>> 4 = UInt8.ofNat n ∧ AvdtpPacketType.ofBits ((first >>> 2) &&& 0x03) = .single ∧
        AvdtpMessageType.ofBits (first &&& 0x03) = m := by
    intro n hn m
    cases m <;> revert n <;> decide
  have hn : label.toNat < 16 := Nat.lt_succ_of_le (UInt8.le_iff_toNat_le.mp h)
  simpa using key label.toNat hn m

theorem signal_bits {signal : UInt8} (h : signal ≤ 0x3F) : signal &&& 0x3F = signal := by
  have key : ∀ n < 64, UInt8.ofNat n &&& 0x3F = UInt8.ofNat n := by decide
  have hn : signal.toNat < 64 := Nat.lt_succ_of_le (UInt8.le_iff_toNat_le.mp h)
  simpa using key signal.toNat hn

theorem avdtpParseHeader_writeSingle {outSize : Nat} {label signal : UInt8}
    {m : AvdtpMessageType} {payload : List UInt8}
    (h : avdtpWriteSingle outSize label m signal payload ≠ []) :
    avdtpParseHeader (avdtpWriteSingle outSize label m signal payload) =
      some ⟨label, .single, m, 0, signal, 2⟩ := by
  unfold avdtpWriteSingle at h ⊢
  split_ifs at h ⊢ with hargs hsize
  · exact absurd rfl h
  · exact absurd rfl h
  · simp only [not_or, UInt8.not_lt] at hargs
    obtain ⟨hl, hp, hm⟩ := firstByte_bits hargs.1 m
    simp only [avdtpParseHeader, List.length_cons, byteAt, List.getD_cons_zero,
      List.getD_cons_succ, hl, hp, hm, signal_bits hargs.2.2]
    rw [if_neg (by omega), if_neg (by omega)]

theorem avdtpParseHeader_payload_le {packet : List UInt8} {header : AvdtpHeader}
    (h : avdtpParseHeader packet = some header) : header.payloadOffset ≤ packet.length := by
  unfold avdtpParseHeader at h
  split at h
  · cases h
  · dsimp only at h
    split at h
    · split at h <;> cases h
      dsimp only
      omega
    · split at h <;> cases h
      dsimp only
      omega
    · cases h
      dsimp only
      omega
    · cases h
      dsimp only
      omega

/-- The packet is the single packet of the message, with the label and the
    signal given. -/
def IsSingle (packet : List UInt8) (label : UInt8) (m : AvdtpMessageType) (signal : UInt8) : Prop :=
  ∃ header, avdtpParseHeader packet = some header ∧ header.packetType = .single ∧
    header.transactionLabel = label ∧ header.messageType = m ∧ header.signalId = signal

instance (packet : List UInt8) (label : UInt8) (m : AvdtpMessageType) (signal : UInt8) :
    Decidable (IsSingle packet label m signal) :=
  match h : avdtpParseHeader packet with
  | none => isFalse fun ⟨_, h', _⟩ => by rw [h] at h'; cases h'
  | some header =>
    if hs : header.packetType = .single ∧ header.transactionLabel = label ∧
        header.messageType = m ∧ header.signalId = signal then isTrue ⟨header, h, hs⟩
    else isFalse fun ⟨_, h', hs'⟩ => by
      rw [h] at h'
      cases h'
      exact hs hs'

theorem IsSingle.parse {packet : List UInt8} {label signal : UInt8} {m : AvdtpMessageType}
    (h : IsSingle packet label m signal) : ∃ count offset,
    avdtpParseHeader packet = some ⟨label, .single, m, count, signal, offset⟩ := by
  obtain ⟨⟨_, _, _, count, _, offset⟩, hp, rfl, rfl, rfl, rfl⟩ := h
  exact ⟨count, offset, hp⟩

theorem isSingle_writeSingle {outSize : Nat} {label signal : UInt8} {m : AvdtpMessageType}
    {payload : List UInt8} (h : avdtpWriteSingle outSize label m signal payload ≠ []) :
    IsSingle (avdtpWriteSingle outSize label m signal payload) label m signal :=
  ⟨_, avdtpParseHeader_writeSingle h, rfl, rfl, rfl, rfl⟩

/-! ## The pending command -/

/-- The signals of the command pending in a state. -/
def AvdtpSourceState.Awaits : AvdtpSourceState → UInt8 → Prop
  | .discoverSent, signal => signal = avdtpSignalDiscover
  | .capabilitiesSent, signal =>
    signal = avdtpSignalGetAllCapabilities ∨ signal = avdtpSignalGetCapabilities
  | .configurationSent, signal => signal = avdtpSignalSetConfiguration
  | .openSent, signal => signal = avdtpSignalOpen
  | .startSent, signal => signal = avdtpSignalStart
  | .suspendSent, signal => signal = avdtpSignalSuspend
  | .closeSent, signal => signal = avdtpSignalClose
  | _, _ => True

def IsStreamSignal (signal : UInt8) : Prop :=
  signal = avdtpSignalStart ∨ signal = avdtpSignalSuspend ∨ signal = avdtpSignalClose

instance (signal : UInt8) : Decidable (IsStreamSignal signal) :=
  inferInstanceAs (Decidable (_ ∨ _ ∨ _))

namespace AvdtpSource

/-- The source waits for the answer to the command of its state. -/
def Pending (source : AvdtpSource) : Prop := source.state.Awaits source.pendingSignalId

/-- A command that was sent is the pending one. -/
def Sent (source : AvdtpSource) (action : AvdtpAction) : Prop :=
  action.kind = .sendSignaling →
    IsSingle action.packet source.pendingTransactionLabel .command source.pendingSignalId

/-- The answer accepts the pending command. -/
def Accepts (source : AvdtpSource) (reply : List UInt8) : Prop :=
  IsSingle reply source.pendingTransactionLabel .accept source.pendingSignalId

instance (source : AvdtpSource) (reply : List UInt8) : Decidable (source.Accepts reply) :=
  inferInstanceAs (Decidable (IsSingle _ _ _ _))

/-- An operation leaves the source waiting for the command it sent, with a
    signal in `S`. -/
structure Settled (S : UInt8 → Prop) (r : AvdtpAction × AvdtpSource) : Prop where
  pending : r.2.Pending
  sent : r.2.Sent r.1
  signal : S r.2.pendingSignalId

variable {S : UInt8 → Prop} {source : AvdtpSource} {wait state' : AvdtpSourceState}
variable {kind : AvdtpActionKind} {signal : UInt8}

theorem settled_fail (h : S source.pendingSignalId) (errorCode : Int) :
    Settled S (source.fail errorCode) :=
  { pending := trivial
    sent := fun hk => by cases hk
    signal := h }

theorem settled_sendCommand {signalId : UInt8} (payload : List UInt8)
    (h : source.state.Awaits signalId) (hs : S signalId) :
    Settled S (source.sendCommand signalId payload) := by
  unfold sendCommand
  dsimp only
  split_ifs with hp
  · exact settled_fail hs _
  · exact ⟨h, fun _ => isSingle_writeSingle hp, hs⟩

/-! ### Answers -/

section
variable (hS : ∀ signal, ¬ IsStreamSignal signal → S signal)
include hS

theorem settled_queryCurrentSink : Settled S source.queryCurrentSink :=
  settled_sendCommand _ (.inl rfl) (hS _ (by decide))

theorem settled_queryNextSink (h : S source.pendingSignalId) : Settled S source.queryNextSink := by
  unfold queryNextSink
  split_ifs
  · exact settled_fail h _
  · exact settled_queryCurrentSink hS

theorem settled_handleReject (h : S source.pendingSignalId) (m : AvdtpMessageType)
    (payload : List UInt8) : Settled S (source.handleReject m payload) := by
  unfold handleReject
  split_ifs with hall
  · refine settled_sendCommand _ ?_ (hS _ (by decide))
    rw [hall.1]
    exact .inr rfl
  · exact settled_queryNextSink hS h
  · exact settled_fail h _
  · exact settled_fail h _

theorem settled_handleCapabilities (h : S source.pendingSignalId) (payload : List UInt8) :
    Settled S (source.handleCapabilities payload) := by
  unfold handleCapabilities
  dsimp only
  split_ifs
  · exact settled_queryNextSink hS h
  · refine settled_fail ?_ _
    exact h
  · refine settled_fail ?_ _
    exact h
  · refine settled_fail ?_ _
    exact h
  · exact settled_sendCommand _ rfl (hS _ (by decide))

theorem settled_handleAccept (h : S source.pendingSignalId) (payload : List UInt8) :
    Settled S (source.handleAccept payload) := by
  have idle : ∀ {kind} {state : AvdtpSourceState}, kind ≠ .sendSignaling →
      state.Awaits source.pendingSignalId →
      Settled S (makeAction kind, { source with state := state }) :=
    fun hk hs => ⟨hs, fun h => absurd h hk, h⟩
  unfold handleAccept
  split
  · dsimp only
    split_ifs
    · exact settled_fail h _
    · exact settled_queryCurrentSink hS
  · exact settled_handleCapabilities hS h _
  · exact settled_sendCommand _ rfl (hS _ (by decide))
  · exact idle (by decide) trivial
  · exact idle (by decide) trivial
  · exact idle (by decide) trivial
  · exact idle (by decide) trivial
  all_goals exact settled_fail h _

theorem settled_handleSignaling (h : S source.pendingSignalId) (packet : List UInt8) :
    Settled S (source.handleSignaling packet) := by
  unfold handleSignaling
  split_ifs
  · exact settled_fail h _
  · split
    · exact settled_fail h _
    · split_ifs
      · exact settled_fail h _
      · exact settled_fail h _
      · exact settled_handleReject hS h _ _
      · exact settled_handleAccept hS h _

end

/-! ### Commands -/

theorem settled_begin (h : ¬ IsStreamSignal source.pendingSignalId) :
    Settled (¬ IsStreamSignal ·) source.begin_ := by
  unfold begin_
  split_ifs
  · exact settled_fail h _
  · exact settled_sendCommand _ rfl (by decide)

/-- A stream command, the state that waits for its answer, and what the
    accepted answer does. -/
inductive StreamWait : UInt8 → AvdtpSourceState → AvdtpActionKind → AvdtpSourceState → Prop
  | start : StreamWait avdtpSignalStart .startSent .streamReady .streaming
  | suspend : StreamWait avdtpSignalSuspend .suspendSent .streamSuspended .open_
  | close : StreamWait avdtpSignalClose .closeSent .sessionClosed .closed

theorem StreamWait.isStreamSignal (h : StreamWait signal wait kind state') :
    IsStreamSignal signal := by
  cases h <;> decide

theorem StreamWait.kind_ne_error (h : StreamWait signal wait kind state') :
    kind ≠ .error := by
  cases h <;> decide

/-- An operation sends a stream command and waits for its answer, or fails. -/
structure Issued (signal : UInt8) (kind : AvdtpActionKind) (state' : AvdtpSourceState)
    (r : AvdtpAction × AvdtpSource) : Prop where
  sent : r.2.Sent r.1
  waits : r.1.kind = .sendSignaling →
    r.2.pendingSignalId = signal ∧ StreamWait signal r.2.state kind state'

variable {signal : UInt8} {kind : AvdtpActionKind} {state' : AvdtpSourceState}

theorem issued_fail (errorCode : Int) : Issued signal kind state' (source.fail errorCode) where
  sent := fun hk => by cases hk
  waits := fun hk => by cases hk

theorem issued_sendCommand (payload : List UInt8)
    (h : StreamWait signal source.state kind state') :
    Issued signal kind state' (source.sendCommand signal payload) := by
  unfold sendCommand
  dsimp only
  split_ifs with hp
  · exact issued_fail _
  · exact ⟨fun _ => isSingle_writeSingle hp, fun _ => ⟨rfl, h⟩⟩

theorem start_issued (source : AvdtpSource) :
    Issued avdtpSignalStart .streamReady .streaming source.start := by
  unfold start
  split_ifs
  · exact issued_fail _
  · exact issued_sendCommand _ .start

theorem suspend_issued (source : AvdtpSource) :
    Issued avdtpSignalSuspend .streamSuspended .open_ source.suspend := by
  unfold suspend
  split_ifs
  · exact issued_fail _
  · exact issued_sendCommand _ .suspend

theorem close_issued (source : AvdtpSource) :
    Issued avdtpSignalClose .sessionClosed .closed source.close := by
  unfold close
  split_ifs
  · exact issued_fail _
  · exact issued_sendCommand _ .close

theorem StreamWait.handleAccept (h : StreamWait signal wait kind state')
    (hw : source.state = wait) (payload : List UInt8) :
    source.handleAccept payload = (makeAction kind, { source with state := state' }) := by
  cases h <;> simp only [AvdtpSource.handleAccept, hw]

theorem StreamWait.handleReject (h : StreamWait signal wait kind state')
    (hw : source.state = wait) (m : AvdtpMessageType) (payload : List UInt8) :
    (source.handleReject m payload).1.kind = .error := by
  have hc : source.state ≠ .capabilitiesSent := by
    rw [hw]
    cases h <;> decide
  unfold AvdtpSource.handleReject
  rw [if_neg fun hall => hc hall.1, if_neg hc]
  split_ifs <;> rfl

end AvdtpSource

end NativeLdac.Protocol
