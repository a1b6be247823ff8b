/-
  The invariant of the PCM session: what its state has to do with the calls it
  has made.

  * `PcmView` is the part of the state that matters;
  * `Sound started held opened v` is the invariant while the session goes on,
    for a stream that is started, a lease that is held and a channel that is
    opened or not; `Good v` says that the report agrees;
  * `Done v` holds once the session is about to finish, `Stuck v` when a loop
    has run out of fuel.
-/
import NativeLdac.Agent.PcmLedger

namespace NativeLdac.Agent

open Engine Protocol

/-! ## The view -/

/-- The flags of the session, and the rate of its encoder. -/
structure PcmCore where
  rate : UInt32
  encoderRate : Option UInt32
  samplesPerFrame : UInt32
  leaseHeld : Bool
  signalingOpened : Bool
  suspendedForPause : Bool
  cleanupRequired : Bool

/-- The place in the media stream: of the next packet, and as reported. -/
structure MediaPlace where
  sequence : UInt16
  timestamp : UInt32
  transportFramesSent : UInt64
  framesAccounted : UInt64
  framesReported : UInt64

/-- How many peer commands were answered while waiting. -/
structure PeerCounts where
  discover : UInt32
  capability : UInt32
  configuration : UInt32

structure PcmView where
  core : PcmCore
  place : MediaPlace
  peers : PeerCounts
  calls : List PcmCall
  avdtp : AvdtpSource
  primary : V1TransportConfigurationDisposition

def PcmSession.view {F H Ω : Type} [FloatArith F] (s : PcmSession F H Ω) : PcmView where
  core :=
    { rate := s.result.pcmFormat.sampleRateHz
      encoderRate := s.encoder.map LdacEncoder.sampleRateHz
      samplesPerFrame := s.samplesPerFrame
      leaseHeld := s.result.consumerLeaseHeld
      signalingOpened := s.result.signalingOpened
      suspendedForPause := s.transportSuspendedForPause
      cleanupRequired := s.result.remoteStreamCleanupRequired }
  place :=
    { sequence := s.sequence
      timestamp := s.timestamp
      transportFramesSent := s.transportFramesSent
      framesAccounted := s.result.pcmFramesSent + s.result.startupSilenceFramesSent
      framesReported := s.result.transportFramesSent }
  peers :=
    { discover := s.result.peerDiscoverCommandsAccepted
      capability := s.result.peerCapabilityCommandsAccepted
      configuration := s.result.peerConfigurationCommandsRejected }
  calls := s.calls
  avdtp := s.avdtp
  primary := s.result.primaryDisposition

/-! ## The invariant -/

/-- The place is the end of the packets written. -/
structure Media (rate : UInt32) (place : MediaPlace) (packets : List (List UInt8)) : Prop where
  continuous : Continuous rate packets
  sequence : place.sequence.toNat = packets.length % 2 ^ 16
  timestamp : place.timestamp.toNat = samplesOf rate packets % 2 ^ 32
  transport : place.transportFramesSent.toNat = samplesOf rate packets % 2 ^ 64
  accounted : place.framesAccounted = place.transportFramesSent
  reported : place.framesReported = place.transportFramesSent

/-- The signaling channel was opened or not, and not closed yet. -/
structure Channel (opened : Bool) (calls : List PcmCall) : Prop where
  opens : calls.any PcmCall.opensSignaling = opened
  closes : calls.countP PcmCall.closesSignaling = 0

/-- The last stream command accepted was START, or not. -/
def StreamIs (started : Bool) (calls : List PcmCall) : Prop :=
  lastStreamCommand calls = some avdtpSignalStart ↔ started = true

/-- The counts of the report are those of the answers. -/
inductive PeerOrder : List UInt8 → PeerCounts → Prop
  | none : PeerOrder [] ⟨0, 0, 0⟩
  | discover : PeerOrder [avdtpSignalDiscover] ⟨1, 0, 0⟩
  | capability {query} : IsCapabilityQuery query →
      PeerOrder [query, avdtpSignalDiscover] ⟨1, 1, 0⟩
  | configuration {query} : IsCapabilityQuery query →
      PeerOrder [avdtpSignalSetConfiguration, query, avdtpSignalDiscover] ⟨1, 1, 1⟩

/-- A failed release at a pause: the report still says that the lease is
    held. -/
def PauseReleaseFailed (calls : List PcmCall) : Prop := .release .pause false ∈ calls

theorem pauseReleaseFailed_cons {call : PcmCall} {calls : List PcmCall}
    (h : call ≠ .release .pause false) :
    PauseReleaseFailed (call :: calls) ↔ PauseReleaseFailed calls := by
  unfold PauseReleaseFailed
  rw [List.mem_cons, or_iff_right h.symm]

structure Sound (started held opened : Bool) (v : PcmView) : Prop where
  media : Media v.core.rate v.place (mediaPackets v.calls)
  channel : Channel opened v.calls
  lease : leaseAfter v.calls = some held
  released : ¬ PauseReleaseFailed v.calls
  stream : StreamIs started v.calls
  dialogue : PeerDialogue v.calls .idle
  order : PeerOrder (answered v.calls) v.peers

/-- **The invariant** of a session that goes on. -/
def Good (v : PcmView) : Prop :=
  Sound v.core.cleanupRequired v.core.leaseHeld v.core.signalingOpened v

/-- What a session that ends says of a peer command still pending: it is a
    protocol failure, or the next one in order while a reply was awaited, and the
    session was cancelled or the backend failed before the answer was sent. -/
def Concluded (v : PcmView) : PeerTurn → Prop
  | .idle => True
  | .asked request => v.avdtp = request.source ∧ (v.primary = .protocolFailure ∨
      NextWhileWaiting (answered v.calls) request.command.signalId ∧
        (v.primary = .cancelled ∨ v.primary = .backendFailure))
  | .polled request => v.avdtp = request.source ∧ v.primary = .protocolFailure
  | .left source => v.avdtp = source

/-- A session that goes on owes the peer the next answer at most. -/
def Underway (v : PcmView) : PeerTurn → Prop
  | .idle => True
  | .asked request => v.avdtp = request.source ∧
      NextWhileWaiting (answered v.calls) request.command.signalId
  | .polled _ => False
  | .left _ => False

/-- What the report of the lease is worth in the end: it is right, unless a
    pause failed to release the lease. -/
def LeaseOwed (held : Bool) (calls : List PcmCall) : Prop :=
  leaseAfter calls = some held ∧ ¬ PauseReleaseFailed calls ∨
    leaseAfter calls = some false ∧ held = true ∧ PauseReleaseFailed calls

/-- The invariant of a session that no longer goes on. -/
structure Over (turnIs : PcmView → PeerTurn → Prop) (v : PcmView) : Prop where
  media : Media v.core.rate v.place (mediaPackets v.calls)
  channel : Channel v.core.signalingOpened v.calls
  lease : LeaseOwed v.core.leaseHeld v.calls
  stream : StreamIs v.core.cleanupRequired v.calls
  dialogue : ∃ turn, PeerDialogue v.calls turn ∧ turnIs v turn

def Done (v : PcmView) : Prop := Over Concluded v

def Stuck (v : PcmView) : Prop := Over Underway v

variable {v : PcmView} {started held opened : Bool}

theorem Good.over {turnIs : PcmView → PeerTurn → Prop} (hi : turnIs v .idle) (h : Good v) :
    Over turnIs v :=
  { media := h.media
    channel := h.channel
    lease := .inl ⟨h.lease, h.released⟩
    stream := h.stream
    dialogue := ⟨.idle, h.dialogue, hi⟩ }

theorem Good.done (h : Good v) : Done v := h.over trivial

theorem Good.stuck (h : Good v) : Stuck v := h.over trivial

theorem Sound.withCore (h : Sound started held opened v) {core : PcmCore}
    (hr : core.rate = v.core.rate) : Sound started held opened { v with core := core } := by
  have hm := h.media
  rw [← hr] at hm
  exact { h with media := hm }

theorem Sound.withAvdtp (h : Sound started held opened v) (avdtp : AvdtpSource) :
    Sound started held opened { v with avdtp := avdtp } := { h with }

theorem Sound.withPrimary (h : Sound started held opened v)
    (primary : V1TransportConfigurationDisposition) :
    Sound started held opened { v with primary := primary } := { h with }

theorem Good.failed (h : Good v) (primary : V1TransportConfigurationDisposition) :
    Done { v with primary := primary } :=
  Good.done (h.withPrimary primary)

/-- A session that goes on, with flags that satisfy `e`. -/
structure Going (e : PcmCore → Prop) (v : PcmView) : Prop where
  good : Good v
  core : e v.core

theorem Going.failed {e : PcmCore → Prop} (h : Going e v)
    (primary : V1TransportConfigurationDisposition) : Done { v with primary := primary } :=
  h.good.failed primary

theorem Sound.withRate (h : Sound started held opened v) (hp : mediaPackets v.calls = [])
    (core : PcmCore) : Sound started held opened { v with core := core } := by
  have hm := h.media
  have hm' : Media core.rate v.place (mediaPackets v.calls) := by
    rw [hp] at hm ⊢
    exact ⟨trivial, hm.sequence, hm.timestamp, hm.transport, hm.accounted, hm.reported⟩
  exact { h with media := hm' }

/-! ## Calls -/

theorem lastStreamCommand_other {call : PcmCall} {calls : List PcmCall}
    (h : acceptedStreamCommand? calls call = none) :
    lastStreamCommand (call :: calls) = lastStreamCommand calls := by
  rw [lastStreamCommand, h, Option.none_or]

theorem Sound.silentCall (h : Sound started held opened v) {call : PcmCall} {held' opened' : Bool}
    (hw : call.mediaWritten? = none) (hs : call.isSignaling = false)
    (hch : Channel opened' (call :: v.calls)) (hl : leaseAfter (call :: v.calls) = some held')
    (hr : call ≠ .release .pause false) :
    Sound started held' opened' { v with calls := call :: v.calls } where
  media := by
    have := h.media
    simpa [mediaPackets, hw] using this
  channel := hch
  lease := hl
  released := by
    rw [pauseReleaseFailed_cons hr]
    exact h.released
  stream := by
    have := h.stream
    unfold StreamIs at this ⊢
    rwa [lastStreamCommand_other]
    cases call <;> first | rfl | cases hs
  dialogue := .silent hs h.dialogue
  order := by
    have := h.order
    cases call <;> first | exact this | cases hs

theorem Channel.other (h : Channel opened v.calls) {call : PcmCall}
    (ho : call.opensSignaling = false) (hc : call.closesSignaling = false) :
    Channel opened (call :: v.calls) where
  opens := by rw [List.any_cons, ho, Bool.false_or, h.opens]
  closes := by rw [List.countP_cons, hc, h.closes]; rfl

theorem Sound.prepared (h : Sound started false opened v) :
    Sound started true opened { v with calls := .prepare true :: v.calls } :=
  h.silentCall rfl rfl (h.channel.other rfl rfl) (Bracket.after_open rfl h.lease) (by simp)

theorem Sound.prepareFailed (h : Sound started held opened v) :
    Sound started held opened { v with calls := .prepare false :: v.calls } :=
  h.silentCall rfl rfl (h.channel.other rfl rfl) ((Bracket.after_other rfl rfl).trans h.lease)
    (by simp)

theorem Sound.releaseCall (h : Sound started true opened v) {site : ReleaseSite} {ok : Bool}
    (hs : site = .pause → ok = true) :
    Sound started false opened { v with calls := .release site ok :: v.calls } := by
  refine h.silentCall rfl rfl (h.channel.other rfl rfl) (Bracket.after_close rfl rfl h.lease) ?_
  intro he
  cases he
  cases hs rfl

theorem Sound.openCall (h : Sound started held false v) (ok : Bool) :
    Sound started held ok { v with calls := .openSignaling ok :: v.calls } := by
  refine h.silentCall rfl rfl ?_ ((Bracket.after_other rfl rfl).trans h.lease) (by simp)
  refine ⟨?_, ?_⟩
  · rw [List.any_cons, h.channel.opens, Bool.or_false]
    cases ok <;> rfl
  · rw [List.countP_cons, h.channel.closes]
    rfl

theorem Sound.writeFailed (h : Sound started held opened v) (packet : List UInt8) :
    Sound started held opened { v with calls := .writeMedia packet false :: v.calls } :=
  h.silentCall rfl rfl (h.channel.other rfl rfl) ((Bracket.after_other rfl rfl).trans h.lease)
    (by simp)

/-! ## Packets -/

def MediaPlace.advance (place : MediaPlace) (samples : UInt32) : MediaPlace where
  sequence := place.sequence + 1
  timestamp := place.timestamp + samples
  transportFramesSent := place.transportFramesSent + samples.toUInt64
  framesAccounted := place.framesAccounted + samples.toUInt64
  framesReported := place.transportFramesSent + samples.toUInt64

/-- The packet continues the stream at the place, with that many samples. -/
structure Fits (rate : UInt32) (place : MediaPlace) (packet : List UInt8) (samples : UInt32) :
    Prop where
  sequence : RtpPacket.sequenceNumber packet = place.sequence.toNat
  timestamp : RtpPacket.timestamp packet = place.timestamp.toNat
  samples : samples.toNat = packetSamples rate packet

theorem Media.append {rate : UInt32} {place : MediaPlace} {packets : List (List UInt8)}
    (h : Media rate place packets) {packet : List UInt8} {samples : UInt32}
    (hf : Fits rate place packet samples) :
    Media rate (place.advance samples) (packet :: packets) := by
  have hsum : samplesOf rate (packet :: packets) = samples.toNat + samplesOf rate packets := by
    rw [hf.samples]
    rfl
  have hs : samples.toUInt64.toNat = samples.toNat := UInt32.toNat_toUInt64 samples
  have htransport : (place.transportFramesSent + samples.toUInt64).toNat =
      samplesOf rate (packet :: packets) % 2 ^ 64 := by
    rw [UInt64.toNat_add, h.transport, hs, hsum]
    omega
  exact
    { continuous := ⟨hf.sequence.trans h.sequence, hf.timestamp.trans h.timestamp, h.continuous⟩
      sequence := by
        show (place.sequence + 1).toNat = (packets.length + 1) % 2 ^ 16
        rw [UInt16.toNat_add, h.sequence]
        simp
      timestamp := by
        show (place.timestamp + samples).toNat = _
        rw [UInt32.toNat_add, h.timestamp, hsum]
        omega
      transport := htransport
      accounted := by
        show place.framesAccounted + _ = _
        rw [h.accounted]
        rfl
      reported := rfl }

theorem Sound.written (h : Sound started held opened v) {packet : List UInt8} {samples : UInt32}
    (hf : Fits v.core.rate v.place packet samples) :
    Sound started held opened { v with
      calls := .writeMedia packet true :: v.calls
      place := v.place.advance samples } where
  media := h.media.append hf
  channel := h.channel.other rfl rfl
  lease := (Bracket.after_other rfl rfl).trans h.lease
  released := by
    rw [pauseReleaseFailed_cons (by simp)]
    exact h.released
  stream := h.stream
  dialogue := .silent rfl h.dialogue
  order := h.order

end NativeLdac.Agent
