/-
  The reference search for an LDAC sink, over a peer that replies to the
  frames it received.

  * `Peer.ask` sends one command and reads the reply;
  * `Peer.query` asks one endpoint for its capabilities, with the legacy command
    if the first one is rejected;
  * `Peer.walk` goes through the endpoints, and `Peer.search` starts it from
    the answer to DISCOVER.

  `Reading` says which endpoints of an answer are walked, and what a list of
  capabilities offers.
-/
import NativeLdac.Protocol.AvdtpCourse

namespace NativeLdac.Protocol

/-! ## Peers -/

/-- The reply to the frames received so far, the oldest first. -/
abbrev Peer := List (List UInt8) → List UInt8

/-- The label of the command after `n` others. -/
def labelAt (n : Nat) : UInt8 := UInt8.ofNat (n % 16)

/-- The frame of the command after `n` others. -/
def frameAt (n : Nat) (signal : UInt8) (payload : List UInt8) : List UInt8 :=
  avdtpWriteSingle avdtpMaxSignalingPacket (labelAt n) .command signal payload

/-- What a reply says to a command. -/
inductive Answer where
  | accepted (payload : List UInt8) | rejected | malformed
deriving DecidableEq, Repr

def AvdtpCommand.answerOf (command : AvdtpCommand) (reply : List UInt8) : Answer :=
  if command.AcceptedBy reply then .accepted (reply.drop 2)
  else if command.AnsweredBy reply then .rejected
  else .malformed

/-- One command, after the frames `sent`: the answer, and the frames sent. -/
def Peer.ask (peer : Peer) (sent : List (List UInt8)) (signal : UInt8) (payload : List UInt8) :
    Answer × List (List UInt8) :=
  let sent' := sent ++ [frameAt sent.length signal payload]
  (AvdtpCommand.answerOf ⟨labelAt sent.length, signal⟩ (peer sent'), sent')

/-- The capabilities of an endpoint: GET_ALL_CAPABILITIES, and once
    GET_CAPABILITIES if that is rejected. -/
def Peer.query (peer : Peer) (sent : List (List UInt8)) (seid : UInt8) :
    Answer × List (List UInt8) :=
  match peer.ask sent avdtpSignalGetAllCapabilities [seid <<< 2] with
  | (.rejected, sent) => peer.ask sent avdtpSignalGetCapabilities [seid <<< 2]
  | answer => answer

/-! ## Readings -/

def endpoints : List UInt8 → List (UInt8 × UInt8)
  | first :: second :: rest => (first, second) :: endpoints rest
  | _ => []

def IsFreeAudioSink (endpoint : UInt8 × UInt8) : Prop :=
  endpoint.1 >>> 2 ≠ 0 ∧ (endpoint.1 >>> 1) &&& 1 = 0 ∧ endpoint.2 >>> 4 = 0 ∧
    (endpoint.2 >>> 3) &&& 1 = 1

instance (endpoint : UInt8 × UInt8) : Decidable (IsFreeAudioSink endpoint) :=
  inferInstanceAs (Decidable (_ ∧ _))

/-- The SEIDs of the free audio sinks of an answer to DISCOVER, in order. -/
def freeSinks (payload : List UInt8) : List UInt8 :=
  ((endpoints payload).filter (IsFreeAudioSink ·)).map fun endpoint => endpoint.1 >>> (2 : UInt8)

/-- How the two kinds of accepted payload are read. -/
structure Reading where
  sinks : List UInt8 → List UInt8
  offer : List UInt8 → LdacOffer

/-- Every free sink is walked, and a list is malformed wherever it is cut. -/
def Reading.strict : Reading where
  sinks := freeSinks
  offer list := if (serviceElements list).2 then firstLdac list else .malformed

/-- The first 63 free sinks are walked, none of an answer with half an
    endpoint, and a list is read up to its first LDAC element. -/
def Reading.lenient : Reading where
  sinks payload :=
    if payload.length % 2 = 0 then (freeSinks payload).take avdtpMaxRemoteSeids else []
  offer := firstLdac

/-! ## The search -/

/-- The endpoint that the search selects, and what it offers. -/
structure Selection where
  seid : UInt8
  remote : LdacCapabilities
deriving DecidableEq, Repr

section
variable (peer : Peer) (reading : Reading) (local_ : LdacCapabilities)

/-- The walk through the endpoints: the first that offers LDAC decides. -/
def Peer.walk : List UInt8 → List (List UInt8) → Option Selection × List (List UInt8)
  | [], sent => (none, sent)
  | seid :: rest, sent =>
    match peer.query sent seid with
    | (.malformed, sent) => (none, sent)
    | (.rejected, sent) => Peer.walk rest sent
    | (.accepted list, sent) =>
      match reading.offer list with
      | .absent => Peer.walk rest sent
      | .malformed => (none, sent)
      | .ldac remote => (if HasCommon local_ remote then some ⟨seid, remote⟩ else none, sent)

def Peer.search : Option Selection × List (List UInt8) :=
  match peer.ask [] avdtpSignalDiscover [] with
  | (.accepted payload, sent) => peer.walk reading local_ (reading.sinks payload) sent
  | (_, sent) => (none, sent)

end

/-! ## What the search sends -/

def CarriesSignal (frame : List UInt8) (signal : UInt8) : Prop :=
  ∃ command, commandOf frame = some command ∧ command.signalId = signal

theorem labelAt_le (n : Nat) : labelAt n ≤ 0x0F := by
  unfold labelAt
  rw [UInt8.le_iff_toNat_le, UInt8.toNat_ofNat']
  show n % 16 % 256 ≤ 15
  omega

theorem labelAt_succ (n : Nat) : (labelAt n + 1) &&& 0x0F = labelAt (n + 1) := by
  have key : ∀ k < 16, (UInt8.ofNat k + 1) &&& 0x0F = UInt8.ofNat ((k + 1) % 16) := by decide
  have hk := key (n % 16) (Nat.mod_lt _ (by decide))
  unfold labelAt
  rw [hk]
  congr 1
  omega

theorem frameAt_ne_nil (n : Nat) {signal : UInt8} {payload : List UInt8}
    (hs : signal ≠ 0 ∧ signal ≤ 0x3F) (hp : payload.length ≤ 62) :
    frameAt n signal payload ≠ [] := by
  unfold frameAt avdtpWriteSingle
  rw [if_neg, if_neg]
  · exact List.cons_ne_nil _ _
  · show ¬ 64 < 2 + payload.length
    omega
  · simp only [not_or, UInt8.not_lt]
    exact ⟨labelAt_le n, hs.1, hs.2⟩

theorem commandOf_frameAt (n : Nat) {signal : UInt8} {payload : List UInt8}
    (hs : signal ≠ 0 ∧ signal ≤ 0x3F) (hp : payload.length ≤ 62) :
    commandOf (frameAt n signal payload) = some ⟨labelAt n, signal⟩ := by
  have hne := frameAt_ne_nil n hs hp
  unfold frameAt at hne ⊢
  rw [commandOf, avdtpParseHeader_writeSingle hne]
  rfl

end NativeLdac.Protocol
