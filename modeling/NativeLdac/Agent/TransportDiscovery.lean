/-
  The discovery session of the agent (`agent/v1_transport_session.cpp`): it
  opens the signaling channel, searches the sinks of the peer with a header
  parser and a walk of its own, and closes the channel.

  The backend is a record of its answers: the open, the reply or error to the
  frames exchanged so far, the close, and the answer to each cancel probe.
-/
import NativeLdac.Protocol.SinkConversation

namespace NativeLdac.Agent

open NativeLdac.Protocol NativeLdac.Protocol.AvdtpSource

inductive V1TransportDiscoveryDisposition where
  | succeeded | cancelled | invalidConfiguration | backendFailure | protocolFailure
  | cleanupFailure
deriving DecidableEq, Repr

inductive V1TransportDiscoveryStage where
  | none | openSignaling | discover | getCapabilities | closeSignaling
deriving DecidableEq, Repr

inductive V1TransportDiscoveryProtocolError where
  | none | invalidResponse | remoteRejected | noAudioSink | ldacNotSupported
  | noCommonConfiguration
deriving DecidableEq, Repr

structure V1TransportDiscoveryOptions where
  openTimeoutMs : UInt32 := 10000
  exchangeTimeoutMs : UInt32 := 5000
  preferredSampleRateHz : UInt32 := 96000
  localCapabilities : LdacCapabilities := ⟨ldacSfAll, ldacCmStereo⟩
deriving DecidableEq, Repr

structure V1TransportDiscoveryResult where
  disposition : V1TransportDiscoveryDisposition := .invalidConfiguration
  primaryDisposition : V1TransportDiscoveryDisposition := .invalidConfiguration
  stage : V1TransportDiscoveryStage := .none
  protocolError : V1TransportDiscoveryProtocolError := .none
  backendError : UInt32 := 0
  cleanupError : UInt32 := 0
  remoteRejectError : UInt8 := 0
  remoteSeid : UInt8 := 0
  remoteCapabilities : LdacCapabilities := ⟨0, 0⟩
  configuration : LdacConfiguration := ⟨0, 0⟩
  openAttempts : Nat := 0
  signalingExchanges : Nat := 0
  sinkCandidates : Nat := 0
  legacyCapabilityFallbacks : Nat := 0
  signalingOpened : Bool := false
  closeAttempted : Bool := false
  closeSucceeded : Bool := false
deriving DecidableEq, Repr

/-- The backend and the cancel probe.  `openSignaling` is the error of a failed
    open; `cancelled n` answers the probe after `n` others. -/
structure V1TransportDiscoveryBackend where
  openSignaling : Option UInt32
  exchangeSignaling : List (List UInt8) → Except UInt32 (List UInt8)
  closeSignaling : Bool × UInt32
  cancelled : Nat → Bool

structure ParsedResponse where
  messageType : AvdtpMessageType
  payload : List UInt8
  rejectError : UInt8
deriving DecidableEq, Repr

/-- The session: its result so far, the label of the next command, the frames
    exchanged and the number of cancel probes. -/
structure Discovery where
  result : V1TransportDiscoveryResult
  nextLabel : UInt8
  sent : List (List UInt8)
  probes : Nat

def kMaximumTimeoutMs : UInt32 := 30000

def optionsAreValid (options : V1TransportDiscoveryOptions) : Prop :=
  options.openTimeoutMs ≠ 0 ∧ options.openTimeoutMs ≤ kMaximumTimeoutMs ∧
    options.exchangeTimeoutMs ≠ 0 ∧ options.exchangeTimeoutMs ≤ kMaximumTimeoutMs ∧
    options.localCapabilities.sampleRates &&& ldacSfAll ≠ 0 ∧
    options.localCapabilities.channelModes &&& ldacCmAll ≠ 0

instance (options : V1TransportDiscoveryOptions) : Decidable (optionsAreValid options) :=
  inferInstanceAs (Decidable (_ ∧ _))

def parseResponse (response : List UInt8) (expectedLabel expectedSignal : UInt8) :
    Option ParsedResponse :=
  match avdtpParseHeader response with
  | none => none
  | some header =>
    if header.packetType ≠ .single ∨ header.payloadOffset > response.length ∨
        header.transactionLabel ≠ expectedLabel ∨ header.signalId ≠ expectedSignal ∨
        header.messageType = .command then none
    else
      let payload := response.drop header.payloadOffset
      some
        { messageType := header.messageType
          payload := payload
          rejectError :=
            if (header.messageType = .reject ∨ header.messageType = .generalReject) ∧
                payload ≠ [] then byteAt payload (payload.length - 1)
            else 0 }

/-- The loop of `CollectAudioSinks`: the endpoints left, and the SEIDs found. -/
def collectSinksFrom (capacity : Nat) : List UInt8 → List UInt8 → List UInt8
  | first :: second :: rest, seids =>
    let candidate := first >>> 2
    let inUse := (first >>> 1) &&& 0x01
    let mediaType := second >>> 4
    let endpointType := (second >>> 3) &&& 0x01
    if candidate ≠ 0 ∧ inUse = 0 ∧ mediaType = avdtpMediaTypeAudio ∧ endpointType = 1 ∧
        seids.length < capacity then
      collectSinksFrom capacity rest (seids ++ [candidate])
    else collectSinksFrom capacity rest seids
  | _, seids => seids

def collectSinks (payload : List UInt8) (capacity : Nat) : List UInt8 :=
  if payload.length % 2 ≠ 0 then [] else collectSinksFrom capacity payload []

namespace Discovery

variable (backend : V1TransportDiscoveryBackend) (options : V1TransportDiscoveryOptions)

def setPrimary (s : Discovery) (disposition : V1TransportDiscoveryDisposition)
    (stage : V1TransportDiscoveryStage) : Discovery :=
  { s with result := { s.result with
      primaryDisposition := disposition
      disposition := disposition
      stage := stage } }

def protocolFailure (s : Discovery) (error : V1TransportDiscoveryProtocolError)
    (stage : V1TransportDiscoveryStage) : Discovery :=
  Discovery.setPrimary { s with result := { s.result with protocolError := error } }
    .protocolFailure stage

def isCancelled (s : Discovery) : Bool × Discovery :=
  (backend.cancelled s.probes, { s with probes := s.probes + 1 })

def backendFailure (s : Discovery) (error : UInt32) (stage : V1TransportDiscoveryStage) :
    Discovery :=
  let (cancelled, s) :=
    Discovery.isCancelled backend { s with result := { s.result with backendError := error } }
  s.setPrimary (if cancelled then .cancelled else .backendFailure) stage

def exchange (s : Discovery) (signal : UInt8) (payload : List UInt8) :
    Option ParsedResponse × Discovery :=
  let label := s.nextLabel
  let s := { s with nextLabel := (label + 1) &&& 0x0F }
  let request := avdtpWriteSingle avdtpMaxSignalingPacket label .command signal payload
  if request = [] then (none, s.protocolFailure .invalidResponse s.result.stage)
  else
    let s := { s with
      sent := s.sent ++ [request]
      result := { s.result with signalingExchanges := s.result.signalingExchanges + 1 } }
    match backend.exchangeSignaling s.sent with
    | .error error => (none, s.backendFailure backend error s.result.stage)
    | .ok response =>
      match parseResponse response label signal with
      | none => (none, s.protocolFailure .invalidResponse s.result.stage)
      | some parsed => (some parsed, s)

def finish (s : Discovery) : V1TransportDiscoveryResult :=
  if s.result.signalingOpened = false then s.result
  else
    let result := { s.result with
      closeAttempted := true
      closeSucceeded := backend.closeSignaling.1
      cleanupError := backend.closeSignaling.2 }
    if backend.closeSignaling.1 = false then
      { result with disposition := .cleanupFailure, stage := .closeSignaling }
    else result

/-- The accepted capabilities of an endpoint: the end of the session, or none to
    go on with the next endpoint. -/
def judge (s : Discovery) (seid : UInt8) (payload : List UInt8) : Option Discovery :=
  let found := ldacFindInServiceCapabilities payload ⟨0, 0⟩
  if found.1 = .notFound then none
  else if found.1 ≠ .ok then some (s.protocolFailure .invalidResponse .getCapabilities)
  else
    let chosen := ldacChooseConfiguration options.localCapabilities found.2
      options.preferredSampleRateHz
    if chosen.1 ≠ .ok then some (s.protocolFailure .noCommonConfiguration .getCapabilities)
    else
      some (Discovery.setPrimary { s with result := { s.result with
        remoteSeid := seid
        remoteCapabilities := found.2
        configuration := chosen.2
        protocolError := .none } } .succeeded .getCapabilities)

/-- The query of one endpoint, with its legacy fallback: the response, or none
    if the session ends. -/
def query (s : Discovery) (seid : UInt8) : Option ParsedResponse × Discovery :=
  match s.exchange backend avdtpSignalGetAllCapabilities [seid <<< 2] with
  | (none, s) => (none, s)
  | (some parsed, s) =>
    if parsed.messageType ≠ .accept then
      let s := { s with result := { s.result with
        legacyCapabilityFallbacks := s.result.legacyCapabilityFallbacks + 1 } }
      let (cancelled, s) := s.isCancelled backend
      if cancelled then (none, s.setPrimary .cancelled .getCapabilities)
      else s.exchange backend avdtpSignalGetCapabilities [seid <<< 2]
    else (some parsed, s)

/-- The loop over the sinks found. -/
def querySinks (s : Discovery) : List UInt8 → Discovery
  | [] => s.protocolFailure .ldacNotSupported .getCapabilities
  | seid :: rest =>
    let (cancelled, s) := s.isCancelled backend
    if cancelled then s.setPrimary .cancelled .getCapabilities
    else match s.query backend seid with
      | (none, s) => s
      | (some parsed, s) =>
        if parsed.messageType ≠ .accept then
          querySinks { s with result := { s.result with
            remoteRejectError := parsed.rejectError } } rest
        else match s.judge options seid parsed.payload with
          | some s => s
          | none => querySinks s rest

/-- The search on an open channel. -/
def search (s : Discovery) : Discovery :=
  let s := { s with result := { s.result with stage := .discover } }
  match s.exchange backend avdtpSignalDiscover [] with
  | (none, s) => s
  | (some parsed, s) =>
    if parsed.messageType ≠ .accept then
      Discovery.protocolFailure { s with result := { s.result with
        remoteRejectError := parsed.rejectError } } .remoteRejected .discover
    else
      let seids := collectSinks parsed.payload avdtpMaxRemoteSeids
      let s := { s with result := { s.result with sinkCandidates := seids.length } }
      if seids = [] then s.protocolFailure .noAudioSink .discover
      else
        Discovery.querySinks backend options
          { s with result := { s.result with stage := .getCapabilities } } seids

end Discovery

def runV1TransportDiscoveryOnce (backend : V1TransportDiscoveryBackend)
    (options : V1TransportDiscoveryOptions) : V1TransportDiscoveryResult :=
  let s : Discovery := { result := {}, nextLabel := 0, sent := [], probes := 0 }
  if ¬ optionsAreValid options then s.result
  else
    let (cancelled, s) := s.isCancelled backend
    if cancelled then (s.setPrimary .cancelled .openSignaling).result
    else
      let s := { s with result := { s.result with stage := .openSignaling, openAttempts := 1 } }
      match backend.openSignaling with
      | some error => (s.backendFailure backend error .openSignaling).result
      | none =>
        let s := { s with result := { s.result with signalingOpened := true } }
        let (cancelled, s) := s.isCancelled backend
        if cancelled then (s.setPrimary .cancelled .discover).finish backend
        else (s.search backend options).finish backend

/-! ## Responses and sinks -/

theorem parseResponse_of_answer (response : List UInt8) (label signal : UInt8) :
    match AvdtpCommand.answerOf ⟨label, signal⟩ response with
    | .accepted payload => ∃ rejectError,
      parseResponse response label signal = some ⟨.accept, payload, rejectError⟩
    | .rejected => ∃ parsed, parseResponse response label signal = some parsed ∧
      parsed.messageType ≠ .accept
    | .malformed => parseResponse response label signal = none := by
  unfold AvdtpCommand.answerOf parseResponse
  cases hp : avdtpParseHeader response with
  | none =>
    have hans : ¬ AvdtpCommand.AnsweredBy ⟨label, signal⟩ response := by
      intro h
      obtain ⟨header, h⟩ := h.parse
      rw [hp] at h
      cases h
    rw [if_neg fun hacc => hans hacc.answeredBy, if_neg hans]
  | some header =>
    have hle := avdtpParseHeader_payload_le hp
    have hacc := @AvdtpCommand.acceptedBy_iff response ⟨label, signal⟩ header hp
    have hans := @AvdtpCommand.answeredBy_iff response ⟨label, signal⟩ header hp
    dsimp only at hacc hans ⊢
    by_cases h : AvdtpCommand.AnsweredBy ⟨label, signal⟩ response
    · obtain ⟨hsingle, hl, hs, hm⟩ := hans.mp h
      have hvalid : ¬ (header.packetType ≠ .single ∨ header.payloadOffset > response.length ∨
          header.transactionLabel ≠ label ∨ header.signalId ≠ signal ∨
          header.messageType = .command) := by
        simp only [not_or, ne_eq, not_not, Nat.not_lt]
        exact ⟨hsingle, hle, hl, hs, hm⟩
      rw [if_neg hvalid, (avdtpParseHeader_single hp hsingle).1]
      by_cases hm' : header.messageType = .accept
      · rw [if_pos (hacc.mpr ⟨hsingle, hl, hm', hs⟩)]
        exact ⟨_, congrArg some (by rw [hm'])⟩
      · rw [if_neg fun h => hm' (hacc.mp h).2.2.1, if_pos h]
        exact ⟨_, rfl, hm'⟩
    · have hinvalid : header.packetType ≠ .single ∨ header.payloadOffset > response.length ∨
          header.transactionLabel ≠ label ∨ header.signalId ≠ signal ∨
          header.messageType = .command := by
        by_contra hvalid
        simp only [not_or, ne_eq, not_not, Nat.not_lt] at hvalid
        exact h (hans.mpr ⟨hvalid.1, hvalid.2.2.1, hvalid.2.2.2.1, hvalid.2.2.2.2⟩)
      rw [if_neg fun hacc => h (hacc.answeredBy), if_neg h, if_pos hinvalid]

theorem collectSinksFrom_eq (capacity : Nat) (payload seids : List UInt8)
    (h : seids.length ≤ capacity) :
    collectSinksFrom capacity payload seids = (seids ++ collectFrom payload).take capacity := by
  induction payload using endpoints.induct generalizing seids with
  | case1 first second rest ih =>
    unfold collectSinksFrom collectFrom
    dsimp only
    by_cases hfree : first >>> 2 ≠ 0 ∧ (first >>> 1) &&& 0x01 = 0 ∧
        second >>> 4 = avdtpMediaTypeAudio ∧ (second >>> 3) &&& 0x01 = 1
    · rw [if_pos hfree]
      by_cases hroom : seids.length < capacity
      · rw [if_pos ⟨hfree.1, hfree.2.1, hfree.2.2.1, hfree.2.2.2, hroom⟩, ih]
        · simp
        · simp only [List.length_append, List.length_singleton]
          omega
      · rw [if_neg fun h => hroom h.2.2.2.2, ih seids h]
        have hfull : seids.length = capacity := by omega
        rw [← hfull, List.take_left', List.take_left']
        · rfl
        · rfl
    · rw [if_neg fun h => hfree ⟨h.1, h.2.1, h.2.2.1, h.2.2.2.1⟩, if_neg hfree, ih seids h]
  | case2 list hshort =>
    rcases list with _ | ⟨first, _ | ⟨second, rest⟩⟩
    · simp [collectSinksFrom, collectFrom, List.take_of_length_le h]
    · simp [collectSinksFrom, collectFrom, List.take_of_length_le h]
    · exact (hshort first second rest rfl).elim

theorem collectSinks_eq (payload : List UInt8) :
    collectSinks payload avdtpMaxRemoteSeids = Reading.lenient.sinks payload := by
  rw [← collectAudioSinks_eq, collectSinks, collectAudioSinks,
    collectSinksFrom_eq _ _ _ (Nat.zero_le _)]
  rfl

/-! ## The session of a peer -/

/-- A backend that passes the frames to a peer, with a channel that opens and
    closes, and no cancellation. -/
structure V1TransportDiscoveryBackend.Serves (backend : V1TransportDiscoveryBackend)
    (peer : Peer) : Prop where
  opens : backend.openSignaling = none
  replies : ∀ frames, backend.exchangeSignaling frames = .ok (peer frames)
  closes : backend.closeSignaling.1 = true
  quiet : ∀ n, backend.cancelled n = false

namespace Discovery

/-- The label and the count of exchanges follow the frames. -/
structure Synced (s : Discovery) : Prop where
  label : s.nextLabel = labelAt s.sent.length
  exchanges : s.result.signalingExchanges = s.sent.length
  opened : s.result.signalingOpened = true

variable {backend : V1TransportDiscoveryBackend} {peer : Peer} {s : Discovery}
  {options : V1TransportDiscoveryOptions}

/-- The session failed with the frames sent. -/
structure Refused (s : Discovery) (sent : List (List UInt8)) : Prop where
  sent : s.sent = sent
  exchanges : s.result.signalingExchanges = s.sent.length
  opened : s.result.signalingOpened = true
  failed : s.result.disposition = .protocolFailure

def Exchanged (r : Option ParsedResponse × Discovery) : Protocol.Answer × List (List UInt8) → Prop
  | (.accepted payload, sent) =>
    ∃ rejectError, r.1 = some ⟨.accept, payload, rejectError⟩ ∧ r.2.Synced ∧ r.2.sent = sent
  | (.rejected, sent) =>
    ∃ parsed, r.1 = some parsed ∧ parsed.messageType ≠ .accept ∧ r.2.Synced ∧ r.2.sent = sent
  | (.malformed, sent) => r.1 = none ∧ r.2.Refused sent

theorem Synced.refused (h : s.Synced) (error : V1TransportDiscoveryProtocolError)
    (stage : V1TransportDiscoveryStage) : (s.protocolFailure error stage).Refused s.sent :=
  ⟨rfl, h.exchanges, h.opened, rfl⟩

theorem exchange_spec (hb : backend.Serves peer) (h : s.Synced) {signal : UInt8}
    {payload : List UInt8} (hs : signal ≠ 0 ∧ signal ≤ 0x3F) (hp : payload.length ≤ 62) :
    Exchanged (s.exchange backend signal payload) (peer.ask s.sent signal payload) := by
  have hne := frameAt_ne_nil s.sent.length hs hp
  have hread := parseResponse_of_answer
    (peer (s.sent ++ [frameAt s.sent.length signal payload])) (labelAt s.sent.length) signal
  unfold frameAt at hne hread
  unfold exchange Peer.ask frameAt
  dsimp only
  rw [h.label, if_neg hne, hb.replies]
  have hsync : ∀ label, label = labelAt (s.sent.length + 1) →
      Synced { s with
        nextLabel := label
        sent := s.sent ++ [avdtpWriteSingle avdtpMaxSignalingPacket (labelAt s.sent.length)
          .command signal payload]
        result := { s.result with
          signalingExchanges := s.result.signalingExchanges + 1 } } := by
    rintro label rfl
    refine ⟨?_, ?_, h.opened⟩
    · rw [List.length_append]
      rfl
    · rw [List.length_append, h.exchanges]
      rfl
  have hsync := hsync _ (labelAt_succ _)
  dsimp only
  cases hans : AvdtpCommand.answerOf ⟨labelAt s.sent.length, signal⟩
      (peer (s.sent ++ [avdtpWriteSingle avdtpMaxSignalingPacket (labelAt s.sent.length)
        .command signal payload])) with
  | accepted list =>
    rw [hans] at hread
    obtain ⟨rejectError, hparse⟩ := hread
    rw [hparse]
    exact ⟨rejectError, rfl, hsync, rfl⟩
  | rejected =>
    rw [hans] at hread
    obtain ⟨parsed, hparse, hm⟩ := hread
    rw [hparse]
    exact ⟨parsed, rfl, hm, hsync, rfl⟩
  | malformed =>
    rw [hans] at hread
    rw [show parseResponse _ _ _ = none from hread]
    exact ⟨rfl, hsync.refused _ _⟩

theorem query_spec (hb : backend.Serves peer) (h : s.Synced) (seid : UInt8) :
    Exchanged (s.query backend seid) (peer.query s.sent seid) := by
  have hall := exchange_spec hb h (show avdtpSignalGetAllCapabilities ≠ 0 ∧ _ by decide)
    (show [seid <<< 2].length ≤ 62 by simp)
  unfold query Peer.query
  revert hall
  cases s.exchange backend avdtpSignalGetAllCapabilities [seid <<< 2] with
  | mk response s₁ =>
    cases peer.ask s.sent avdtpSignalGetAllCapabilities [seid <<< 2] with
    | mk answer sent =>
      intro hall
      cases answer with
      | accepted list =>
        obtain ⟨rejectError, rfl, hsync, hsent⟩ := hall
        exact ⟨rejectError, rfl, hsync, hsent⟩
      | malformed =>
        obtain ⟨rfl, href⟩ := hall
        exact ⟨rfl, href⟩
      | rejected =>
        obtain ⟨parsed, rfl, hm, hsync, rfl⟩ := hall
        have hfallback : Synced { s₁ with
            result := { s₁.result with
              legacyCapabilityFallbacks := s₁.result.legacyCapabilityFallbacks + 1 }
            probes := s₁.probes + 1 } := ⟨hsync.label, hsync.exchanges, hsync.opened⟩
        dsimp only [isCancelled]
        rw [if_pos hm, hb.quiet, if_neg Bool.false_ne_true]
        exact exchange_spec hb hfallback (show avdtpSignalGetCapabilities ≠ 0 ∧ _ by decide)
          (show [seid <<< 2].length ≤ 62 by simp)

/-- The end of a session is the end of the reference search. -/
def Concludes (options : V1TransportDiscoveryOptions) (s : Discovery) :
    Option Selection × List (List UInt8) → Prop
  | (none, sent) => s.Refused sent
  | (some selection, sent) => s.sent = sent ∧ s.result.signalingExchanges = s.sent.length ∧
    s.result.signalingOpened = true ∧ s.result.disposition = .succeeded ∧
    s.result.remoteSeid = selection.seid ∧ s.result.configuration =
      (ldacChooseConfiguration options.localCapabilities selection.remote
        options.preferredSampleRateHz).2

theorem judge_spec (h : s.Synced) (seid : UInt8) (list : List UInt8) :
    match firstLdac list with
    | .absent => s.judge options seid list = none
    | .malformed => ∃ s', s.judge options seid list = some s' ∧
      s'.Concludes options (none, s.sent)
    | .ldac remote => ∃ s', s.judge options seid list = some s' ∧ s'.Concludes options
      (if HasCommon options.localCapabilities remote then some ⟨seid, remote⟩ else none,
        s.sent) := by
  unfold judge
  rw [ldacFindInServiceCapabilities_eq]
  cases firstLdac list with
  | absent => rfl
  | malformed => exact ⟨_, rfl, h.refused _ _⟩
  | ldac remote =>
    dsimp only
    by_cases hempty : remote.sampleRates = 0 ∨ remote.channelModes = 0
    · rw [if_pos hempty, if_neg (by decide), if_pos (by decide),
        if_neg (not_hasCommon_of_empty _ hempty)]
      exact ⟨_, rfl, h.refused _ _⟩
    · rw [if_neg hempty, if_neg (by decide), if_neg (by decide)]
      rcases ldacChooseConfiguration_spec options.localCapabilities remote
        options.preferredSampleRateHz with ⟨hcommon, hok, -⟩ | ⟨hcommon, hno⟩
      · rw [hok, if_neg (by decide), if_pos hcommon]
        exact ⟨_, rfl, rfl, h.exchanges, h.opened, rfl, rfl, rfl⟩
      · rw [hno, if_pos (by decide), if_neg hcommon]
        exact ⟨_, rfl, h.refused _ _⟩

theorem querySinks_spec (hb : backend.Serves peer) (seids : List UInt8) (h : s.Synced) :
    (s.querySinks backend options seids).Concludes options
      (peer.walk .lenient options.localCapabilities seids s.sent) := by
  induction seids generalizing s with
  | nil => exact h.refused _ _
  | cons seid rest ih =>
    have hprobe : Synced { s with probes := s.probes + 1 } := ⟨h.label, h.exchanges, h.opened⟩
    have hquery := query_spec hb hprobe seid
    unfold querySinks Peer.walk
    dsimp only [isCancelled]
    rw [hb.quiet, if_neg Bool.false_ne_true]
    revert hquery
    show Exchanged _ (peer.query s.sent seid) → _
    cases query backend { s with probes := s.probes + 1 } seid with
    | mk response s₁ =>
      cases peer.query s.sent seid with
      | mk answer sent =>
        intro hquery
        cases answer with
        | malformed =>
          obtain ⟨rfl, href⟩ := hquery
          exact href
        | rejected =>
          obtain ⟨parsed, rfl, hm, hsync, rfl⟩ := hquery
          have hnext : Synced { s₁ with result := { s₁.result with
              remoteRejectError := parsed.rejectError } } :=
            ⟨hsync.label, hsync.exchanges, hsync.opened⟩
          dsimp only
          rw [if_pos hm]
          exact ih hnext
        | accepted list =>
          obtain ⟨rejectError, rfl, hsync, rfl⟩ := hquery
          have hjudge := @judge_spec s₁ options hsync seid list
          dsimp only
          rw [if_neg (not_not.mpr rfl)]
          show Concludes options _ (match firstLdac list with
            | .absent => peer.walk .lenient options.localCapabilities rest s₁.sent
            | .malformed => (none, s₁.sent)
            | .ldac remote => (if HasCommon options.localCapabilities remote then
                some ⟨seid, remote⟩ else none, s₁.sent))
          cases hoffer : firstLdac list with
          | absent =>
            rw [hoffer] at hjudge
            rw [show s₁.judge options seid list = none from hjudge]
            exact ih hsync
          | malformed =>
            rw [hoffer] at hjudge
            obtain ⟨s₂, heq, hs₂⟩ := hjudge
            rw [heq]
            exact hs₂
          | ldac remote =>
            rw [hoffer] at hjudge
            obtain ⟨s₂, heq, hs₂⟩ := hjudge
            rw [heq]
            exact hs₂

theorem search_spec (hb : backend.Serves peer) (h : s.Synced) (hs : s.sent = []) :
    (s.search backend options).Concludes options
      (peer.search .lenient options.localCapabilities) := by
  have hstage : Synced { s with result := { s.result with stage := .discover } } :=
    ⟨h.label, h.exchanges, h.opened⟩
  have hdiscover := exchange_spec hb hstage (show avdtpSignalDiscover ≠ 0 ∧ _ by decide)
    (show ([] : List UInt8).length ≤ 62 by decide)
  unfold search Peer.search
  dsimp only
  generalize exchange backend { s with result := { s.result with stage := .discover } }
    avdtpSignalDiscover [] = r at hdiscover ⊢
  replace hdiscover : Exchanged r (peer.ask s.sent avdtpSignalDiscover []) := hdiscover
  rw [hs] at hdiscover
  cases r with
  | mk response s₁ =>
    revert hdiscover
    cases peer.ask [] avdtpSignalDiscover [] with
    | mk answer sent =>
      intro hdiscover
      cases answer with
      | malformed =>
        obtain ⟨rfl, href⟩ := hdiscover
        exact href
      | rejected =>
        obtain ⟨parsed, rfl, hm, hsync, rfl⟩ := hdiscover
        dsimp only
        rw [if_pos hm]
        exact ⟨rfl, hsync.exchanges, hsync.opened, rfl⟩
      | accepted list =>
        obtain ⟨rejectError, rfl, hsync, rfl⟩ := hdiscover
        dsimp only
        rw [if_neg (not_not.mpr rfl), collectSinks_eq]
        by_cases hnone : Reading.lenient.sinks list = []
        · rw [if_pos hnone, hnone]
          exact ⟨rfl, hsync.exchanges, hsync.opened, rfl⟩
        · rw [if_neg hnone]
          have hwalk : Synced { s₁ with result := { s₁.result with
              sinkCandidates := (Reading.lenient.sinks list).length
              stage := .getCapabilities } } := ⟨hsync.label, hsync.exchanges, hsync.opened⟩
          exact querySinks_spec hb _ hwalk

end Discovery

theorem runV1TransportDiscoveryOnce_spec {backend : V1TransportDiscoveryBackend} {peer : Peer}
    {options : V1TransportDiscoveryOptions} (hb : backend.Serves peer)
    (hv : optionsAreValid options) :
    ∃ s : Discovery, s.Concludes options (peer.search .lenient options.localCapabilities) ∧
      runV1TransportDiscoveryOnce backend options = s.finish backend := by
  -- the session on the open channel
  have hopen : Discovery.Synced
      { result := { stage := .openSignaling, openAttempts := 1, signalingOpened := true }
        nextLabel := 0
        sent := []
        probes := 2 } := ⟨rfl, rfl, rfl⟩
  refine ⟨_, Discovery.search_spec hb hopen rfl, ?_⟩
  unfold runV1TransportDiscoveryOnce
  rw [if_neg (not_not.mpr hv)]
  simp only [Discovery.isCancelled, hb.quiet, hb.opens, if_neg Bool.false_ne_true]

theorem Discovery.finish_of_closes {backend : V1TransportDiscoveryBackend} {peer : Peer}
    (hb : backend.Serves peer) {s : Discovery} (ho : s.result.signalingOpened = true) :
    s.finish backend = { s.result with
      closeAttempted := true
      closeSucceeded := true
      cleanupError := backend.closeSignaling.2 } := by
  unfold Discovery.finish
  rw [if_neg (by rw [ho]; decide), hb.closes]
  rfl

theorem search_masked (peer : Peer) (local_ : LdacCapabilities) :
    peer.search .lenient
        ⟨local_.sampleRates &&& ldacSfAll, local_.channelModes &&& ldacCmAll⟩ =
      peer.search .lenient local_ := by
  have walk : ∀ seids sent, peer.walk .lenient
        ⟨local_.sampleRates &&& ldacSfAll, local_.channelModes &&& ldacCmAll⟩ seids sent =
      peer.walk .lenient local_ seids sent := by
    intro seids
    induction seids with
    | nil => exact fun _ => rfl
    | cons seid rest ih =>
      intro sent
      simp only [Peer.walk, ih, hasCommon_masked]
  simp only [Peer.search, walk]

def peerBackend (peer : Peer) : V1TransportDiscoveryBackend where
  openSignaling := none
  exchangeSignaling frames := .ok (peer frames)
  closeSignaling := (true, 0)
  cancelled _ := false

end NativeLdac.Agent
