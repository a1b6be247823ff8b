/-
  What the external calls of a PCM session amount to: the packets of the
  stream, the consumer lease, the last stream command accepted, and the
  dialogue with the peer.

  Calls are listed with the last one first.  Nothing here looks at the state of
  the session; the invariants that tie the two are in `PcmInvariant`.
-/
import NativeLdac.Agent.PcmSignaling
import NativeLdac.Lib.Bracket
import NativeLdac.Protocol.AvdtpPending
import Mathlib.Tactic.Ring

namespace NativeLdac.Agent

open Protocol

/-! ## The packets of the stream -/

def PcmCall.mediaWritten? : PcmCall → Option (List UInt8)
  | .writeMedia packet true => some packet
  | _ => none

/-- The packets written with success, the last one first. -/
def mediaPackets (calls : List PcmCall) : List (List UInt8) :=
  calls.filterMap PcmCall.mediaWritten?

def frameSamples (rate : UInt32) : UInt32 := if rate ≥ 88200 then 256 else 128

def packetSamples (rate : UInt32) (packet : List UInt8) : Nat :=
  RtpPacket.frameCount packet * (frameSamples rate).toNat

def samplesOf (rate : UInt32) (packets : List (List UInt8)) : Nat :=
  (packets.map (packetSamples rate)).sum

/-- One stream from 0 on: the sequence number counts the earlier packets, the
    timestamp their samples. -/
def Continuous (rate : UInt32) : List (List UInt8) → Prop
  | [] => True
  | packet :: earlier =>
    RtpPacket.sequenceNumber packet = earlier.length % 2 ^ 16 ∧
      RtpPacket.timestamp packet = samplesOf rate earlier % 2 ^ 32 ∧ Continuous rate earlier

/-! ## The lease and the signaling channel -/

def PcmCall.acquires : PcmCall → Bool
  | .prepare true => true
  | _ => false

def PcmCall.releases : PcmCall → Bool
  | .release _ _ => true
  | _ => false

/-- The lease after the calls; none if `Release` was called without a lease, or
    `Prepare` succeeded twice. -/
def leaseAfter (calls : List PcmCall) : Option Bool :=
  Bracket.after PcmCall.acquires PcmCall.releases calls

def PcmCall.opensSignaling : PcmCall → Bool
  | .openSignaling true => true
  | _ => false

def PcmCall.closesSignaling : PcmCall → Bool
  | .closeSignaling _ => true
  | _ => false

/-- `CloseSignaling` was called once if `OpenSignaling` succeeded, and never
    otherwise. -/
def SignalingClosed (calls : List PcmCall) : Prop :=
  calls.countP PcmCall.closesSignaling = if calls.any PcmCall.opensSignaling then 1 else 0

/-- `Release` was called once for each lease and never without one, and the
    signaling channel was closed once if it was opened. -/
structure Returned (calls : List PcmCall) : Prop where
  lease : leaseAfter calls = some false
  signaling : SignalingClosed calls

/-! ## The last stream command accepted -/

/-- The label and the signal of a command. -/
def commandOf? (packet : List UInt8) : Option (UInt8 × UInt8) :=
  (peerCommand? packet).map fun header => (header.transactionLabel, header.signalId)

/-- The label and the signal of a single accepting packet. -/
def acceptOf? (packet : List UInt8) : Option (UInt8 × UInt8) :=
  match avdtpParseHeader packet with
  | some header =>
    if header.packetType = .single ∧ header.messageType = .accept then
      some (header.transactionLabel, header.signalId)
    else none
  | none => none

/-- The own command sent last, if any. -/
def outstanding : List PcmCall → Option (UInt8 × UInt8)
  | [] => none
  | .exchange _ sent _ :: calls => (commandOf? sent).or (outstanding calls)
  | _ :: calls => outstanding calls

/-- The stream command that a call shows to be accepted: an own START, SUSPEND
    or CLOSE by the peer's reply, or a CLOSE of the peer by our answer. -/
def acceptedStreamCommand? (earlier : List PcmCall) : PcmCall → Option UInt8
  | .exchange source sent (some reply) =>
    match acceptOf? reply with
    | some (label, signal) =>
      if outstanding (.exchange source sent (some reply) :: earlier) = some (label, signal) ∧
          IsStreamSignal signal then some signal
      else none
    | none => none
  | .peerResponse _ packet true =>
    match acceptOf? packet with
    | some (_, signal) => if signal = avdtpSignalClose then some signal else none
    | none => none
  | _ => none

def lastStreamCommand : List PcmCall → Option UInt8
  | [] => none
  | call :: earlier => (acceptedStreamCommand? earlier call).or (lastStreamCommand earlier)

/-! ## The dialogue with the peer -/

/-- A command of the peer, and the local source when it arrived. -/
structure PeerRequest where
  source : AvdtpSource
  command : AvdtpHeader

/-- Whose turn it is: no command of the peer is pending, one came while a reply
    was awaited or was polled, or the peer was answered that it may leave. -/
inductive PeerTurn where
  | idle
  | asked (request : PeerRequest)
  | polled (request : PeerRequest)
  | left (source : AvdtpSource)

/-- The turn after a packet arrived. -/
def turnOf (came : PeerRequest → PeerTurn) (source : AvdtpSource) (packet : Option (List UInt8)) :
    PeerTurn :=
  match packet.bind peerCommand? with
  | some command => came ⟨source, command⟩
  | none => .idle

def answerOf? (packet : List UInt8) : Option UInt8 :=
  match avdtpParseHeader packet with
  | some header =>
    if header.messageType = .accept ∨ header.messageType = .reject then some header.signalId
    else none
  | none => none

/-- The signals of the peer's commands that were answered, the last one
    first. -/
def answered : List PcmCall → List UInt8
  | [] => []
  | .exchange _ sent _ :: calls | .peerResponse _ sent _ :: calls =>
    (answerOf? sent).toList ++ answered calls
  | _ :: calls => answered calls

/-- The answer to a command: a reject for SET_CONFIGURATION, an accept for the
    others, with the peer's own label. -/
def PeerRequest.IsAnswer (request : PeerRequest) (packet : List UInt8) : Prop :=
  IsSingle packet request.command.transactionLabel
    (if request.command.signalId = avdtpSignalSetConfiguration then .reject else .accept)
    request.command.signalId

def IsCapabilityQuery (signal : UInt8) : Prop :=
  signal = avdtpSignalGetCapabilities ∨ signal = avdtpSignalGetAllCapabilities

/-- The commands answered while a reply is awaited: DISCOVER, one capability
    query, SET_CONFIGURATION, each after the one before. -/
inductive NextWhileWaiting : List UInt8 → UInt8 → Prop
  | discover : NextWhileWaiting [] avdtpSignalDiscover
  | capabilities {signal} : IsCapabilityQuery signal →
      NextWhileWaiting [avdtpSignalDiscover] signal
  | configuration {query} : IsCapabilityQuery query →
      NextWhileWaiting [query, avdtpSignalDiscover] avdtpSignalSetConfiguration

/-- The command answered while streaming or suspended: CLOSE, once. -/
def NextWhileStreaming (answered : List UInt8) (signal : UInt8) : Prop :=
  signal = avdtpSignalClose ∧ avdtpSignalClose ∉ answered

def PcmCall.isSignaling : PcmCall → Bool
  | .exchange .. | .peerPacket .. | .peerResponse .. => true
  | _ => false

/-- The calls are a dialogue in which every command of the peer is answered at
    once and in order, from an unchanged source, or is the last thing that
    happens. -/
inductive PeerDialogue : List PcmCall → PeerTurn → Prop
  | start : PeerDialogue [] .idle
  | silent {call calls turn} : call.isSignaling = false → PeerDialogue calls turn →
      PeerDialogue (call :: calls) turn
  /-- an own command is sent -/
  | command {calls source sent reply} : PeerDialogue calls .idle →
      IsSingle sent source.pendingTransactionLabel .command source.pendingSignalId →
      PeerDialogue (.exchange source sent reply :: calls) (turnOf .asked source reply)
  /-- the answer is sent while a reply is awaited -/
  | answer {calls request sent reply} : PeerDialogue calls (.asked request) →
      request.IsAnswer sent → NextWhileWaiting (answered calls) request.command.signalId →
      PeerDialogue (.exchange request.source sent reply :: calls) (turnOf .asked request.source reply)
  /-- a packet is polled while streaming -/
  | poll {calls source packet} : PeerDialogue calls .idle →
      PeerDialogue (.peerPacket source packet :: calls) (turnOf .polled source (some packet))
  /-- the peer may leave -/
  | respond {calls request packet ok} : PeerDialogue calls (.polled request) →
      request.IsAnswer packet → NextWhileStreaming (answered calls) request.command.signalId →
      PeerDialogue (.peerResponse request.source packet ok :: calls) (.left request.source)

/-! ## Packets -/

variable {packet : List UInt8}

theorem commandOf?_own {label signal : UInt8} (h : IsSingle packet label .command signal) :
    commandOf? packet = some (label, signal) := by
  obtain ⟨count, offset, hp⟩ := h.parse
  simp [commandOf?, peerCommand?, hp]

theorem answerOf?_own {label signal : UInt8} (h : IsSingle packet label .command signal) :
    answerOf? packet = none := by
  obtain ⟨count, offset, hp⟩ := h.parse
  simp [answerOf?, hp]

theorem commandOf?_answer {request : PeerRequest} (h : request.IsAnswer packet) :
    commandOf? packet = none := by
  obtain ⟨count, offset, hp⟩ := h.parse
  rw [commandOf?, peerCommand?, hp]
  dsimp only
  rw [if_neg]
  · rfl
  · split_ifs <;> decide

theorem answerOf?_answer {request : PeerRequest} (h : request.IsAnswer packet) :
    answerOf? packet = some request.command.signalId := by
  obtain ⟨count, offset, hp⟩ := h.parse
  rw [answerOf?, hp]
  dsimp only
  rw [if_pos]
  split_ifs
  · exact .inr rfl
  · exact .inl rfl

theorem acceptOf?_command {header : AvdtpHeader} (h : peerCommand? packet = some header) :
    acceptOf? packet = none := by
  unfold peerCommand? at h
  unfold acceptOf?
  cases hp : avdtpParseHeader packet with
  | none => rfl
  | some header' =>
    rw [hp] at h
    dsimp only at h ⊢
    split_ifs at h with hm
    rw [if_neg]
    rintro ⟨-, ha⟩
    rw [hm] at ha
    cases ha

theorem acceptOf?_eq {label signal : UInt8} :
    acceptOf? packet = some (label, signal) ↔ IsSingle packet label .accept signal := by
  constructor
  · intro h
    unfold acceptOf? at h
    cases hp : avdtpParseHeader packet with
    | none =>
      rw [hp] at h
      cases h
    | some header =>
      rw [hp] at h
      dsimp only at h
      split_ifs at h with hs
      cases h
      exact ⟨header, hp, hs.1, rfl, hs.2, rfl⟩
  · intro h
    obtain ⟨count, offset, hp⟩ := h.parse
    simp [acceptOf?, hp]

end NativeLdac.Agent
