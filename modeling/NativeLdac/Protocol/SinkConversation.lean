/-
  An AVDTP source in conversation with a peer, and the search it carries out.

  `Peer.talk` exchanges command and reply `n` times.  The source walks the
  endpoints as the reference search does (`talk_search`), and sends one
  SET_CONFIGURATION at most (`sendsNoConfiguration_of_past`).
-/
import NativeLdac.Protocol.SinkSearch
import Mathlib.Logic.Function.Iterate

namespace NativeLdac.Protocol

/-- The frames sent, and the source that waits for the reply. -/
structure Talk where
  sent : List (List UInt8)
  source : AvdtpSource
deriving DecidableEq, Repr

/-- What the source sends with an action. -/
def AvdtpAction.frames (action : AvdtpAction) : List (List UInt8) :=
  if action.kind = .sendSignaling then [action.packet] else []

def Talk.add (sent : List (List UInt8)) (result : AvdtpAction × AvdtpSource) : Talk :=
  { sent := sent ++ result.1.frames, source := result.2 }

/-- The peer replies to the frames sent, and the source handles the reply. -/
def Peer.exchange (peer : Peer) (talk : Talk) : Talk :=
  .add talk.sent (talk.source.handleSignaling (peer talk.sent))

/-- The conversation after `n` replies. -/
def Peer.talk (peer : Peer) (source : AvdtpSource) (n : Nat) : Talk :=
  peer.exchange^[n] (.add [] source.begin_)

/-! ## Commands -/

namespace AvdtpSource

/-- The source after it sent the command of a signal as its `n`-th. -/
def sentCommand (source : AvdtpSource) (n : Nat) (signal : UInt8) : AvdtpSource :=
  { source with
    nextTransactionLabel := labelAt (n + 1)
    pendingTransactionLabel := labelAt n
    pendingSignalId := signal }

theorem add_sendCommand (source : AvdtpSource) {sent : List (List UInt8)} {signal : UInt8}
    {payload : List UInt8} (hl : source.nextTransactionLabel = labelAt sent.length)
    (hs : signal ≠ 0 ∧ signal ≤ 0x3F) (hp : payload.length ≤ 62) :
    Talk.add sent (source.sendCommand signal payload) =
      { sent := sent ++ [frameAt sent.length signal payload]
        source := source.sentCommand sent.length signal } := by
  have hne := frameAt_ne_nil sent.length hs hp
  unfold frameAt at hne
  unfold sendCommand
  dsimp only
  rw [hl, if_neg hne, labelAt_succ]
  rfl

@[simp] theorem add_fail (source : AvdtpSource) (sent : List (List UInt8)) (errorCode : Int) :
    Talk.add sent (source.fail errorCode) = { sent := sent, source := { source with state := .failed } } := by
  simp [Talk.add, fail, AvdtpAction.frames, makeAction]

/-! ## A query -/

/-- The setup of a source does not change while it searches. -/
structure SameSetup (setup source : AvdtpSource) : Prop where
  localCapabilities : source.localCapabilities = setup.localCapabilities
  localSeid : source.localSeid = setup.localSeid
  preferred : source.preferredSampleRateHz = setup.preferredSampleRateHz

/-- A SEID that the code can address. -/
def IsSeid (seid : UInt8) : Prop := seid ≠ 0 ∧ seid ≤ 0x3F

/-- The source is at an endpoint of its table: `rest` comes after it. -/
structure At (source : AvdtpSource) (seid : UInt8) (rest : List UInt8) : Prop where
  remoteSeid : source.remoteSeid = seid
  count : source.remoteSeidCount.toNat = source.remoteSeids.length
  index : source.remoteSeidIndex.toNat < source.remoteSeids.length
  after : source.remoteSeids.drop (source.remoteSeidIndex.toNat + 1) = rest
  seids : ∀ other ∈ seid :: rest, IsSeid other

end AvdtpSource

open AvdtpSource

/-- The source has asked the endpoint with the command of a signal, after the
    frames `sent`. -/
structure Talk.Asked (setup : AvdtpSource) (sent : List (List UInt8)) (seid : UInt8)
    (rest : List UInt8) (signal : UInt8) (talk : Talk) : Prop where
  setup : SameSetup setup talk.source
  at_ : talk.source.At seid rest
  state : talk.source.state = .capabilitiesSent
  pending : talk.source.pendingCommand = ⟨labelAt sent.length, signal⟩
  label : talk.source.nextTransactionLabel = labelAt (sent.length + 1)
  legacy : talk.source.usedLegacyCapabilities = false ↔ signal = avdtpSignalGetAllCapabilities
  sent : talk.sent = sent ++ [frameAt sent.length signal [seid <<< 2]]

variable {setup source : AvdtpSource} {sent : List (List UInt8)} {seid : UInt8} {rest : List UInt8}
  {signal : UInt8} {talk : Talk}

theorem asked_queryCurrentSink (hsetup : SameSetup setup source) (hat : source.At seid rest)
    (hl : source.nextTransactionLabel = labelAt sent.length) :
    Talk.Asked setup sent seid rest avdtpSignalGetAllCapabilities
      (.add sent source.queryCurrentSink) := by
  have hsent := add_sendCommand
    { source with state := .capabilitiesSent, usedLegacyCapabilities := false }
    hl (show avdtpSignalGetAllCapabilities ≠ 0 ∧ _ by decide)
    (show [source.remoteSeid <<< 2].length ≤ 62 by simp)
  unfold queryCurrentSink
  rw [hsent]
  refine ⟨⟨hsetup.1, hsetup.2, hsetup.3⟩, ⟨hat.1, hat.2, hat.3, hat.4, hat.5⟩, rfl, rfl, rfl, ?_, ?_⟩
  · exact ⟨fun _ => rfl, fun _ => rfl⟩
  · show sent ++ [frameAt sent.length _ [source.remoteSeid <<< 2]] = _
    rw [hat.remoteSeid]

theorem asked_legacy (hsetup : SameSetup setup source) (hat : source.At seid rest)
    (hs : source.state = .capabilitiesSent)
    (hl : source.nextTransactionLabel = labelAt sent.length) :
    Talk.Asked setup sent seid rest avdtpSignalGetCapabilities
      (.add sent (AvdtpSource.sendCommand { source with usedLegacyCapabilities := true }
        avdtpSignalGetCapabilities [source.remoteSeid <<< 2])) := by
  have hsent := add_sendCommand { source with usedLegacyCapabilities := true } hl
    (show avdtpSignalGetCapabilities ≠ 0 ∧ _ by decide)
    (show [source.remoteSeid <<< 2].length ≤ 62 by simp)
  rw [hsent]
  refine ⟨⟨hsetup.1, hsetup.2, hsetup.3⟩, ⟨hat.1, hat.2, hat.3, hat.4, hat.5⟩, hs, rfl, rfl, ?_, ?_⟩
  · exact ⟨nofun, fun h => absurd h (by decide)⟩
  · show sent ++ [frameAt sent.length _ [source.remoteSeid <<< 2]] = _
    rw [hat.remoteSeid]

/-- The search stops without a selection. -/
def Talk.Failed (sent : List (List UInt8)) (talk : Talk) : Prop :=
  talk.source.state = .failed ∧ talk.sent = sent

theorem failed_fail (source : AvdtpSource) (sent : List (List UInt8)) (errorCode : Int) :
    Talk.Failed sent (.add sent (source.fail errorCode)) := by
  rw [add_fail]
  exact ⟨rfl, rfl⟩

/-- The search goes on with the endpoints of a list. -/
def Talk.GoesOn (setup : AvdtpSource) (sent : List (List UInt8)) (talk : Talk) :
    List UInt8 → Prop
  | [] => talk.Failed sent
  | seid :: rest => talk.Asked setup sent seid rest avdtpSignalGetAllCapabilities

theorem goesOn_queryNextSink (hsetup : SameSetup setup source) (hat : source.At seid rest)
    (hl : source.nextTransactionLabel = labelAt sent.length) :
    Talk.GoesOn setup sent (.add sent source.queryNextSink) rest := by
  have hcount := hat.count
  have hdrop := hat.after
  unfold queryNextSink
  split_ifs with hend
  · rw [List.drop_eq_nil_of_le (by omega)] at hdrop
    subst hdrop
    exact failed_fail _ _ _
  · have hlt : source.remoteSeidIndex.toNat + 1 < source.remoteSeids.length := by omega
    have hsize := source.remoteSeidCount.toNat_lt
    have hindex : (source.remoteSeidIndex + 1).toNat = source.remoteSeidIndex.toNat + 1 := by
      rw [UInt8.toNat_add]
      show (source.remoteSeidIndex.toNat + 1) % 256 = _
      omega
    rw [List.drop_eq_getElem_cons hlt] at hdrop
    subst hdrop
    refine asked_queryCurrentSink ⟨hsetup.1, hsetup.2, hsetup.3⟩ ⟨?_, hcount, ?_, ?_, ?_⟩ hl
    · show byteAt source.remoteSeids (source.remoteSeidIndex + 1).toNat = _
      simp [hindex, byteAt, hlt]
    · show (source.remoteSeidIndex + 1).toNat < _
      rw [hindex]
      exact hlt
    · show source.remoteSeids.drop ((source.remoteSeidIndex + 1).toNat + 1) = _
      rw [hindex]
    · intro other ho
      exact hat.seids other (List.mem_cons_of_mem _ ho)

/-! ## The configuration -/

theorem length_setConfiguration_le (remoteSeid localSeid : UInt8)
    (configuration : LdacConfiguration) :
    (ldacBuildSetConfigurationPayload remoteSeid localSeid configuration).length ≤ 62 := by
  unfold ldacBuildSetConfigurationPayload
  split_ifs
  · simp
  · simp [ldacBuildCodecInfo]

theorem setConfiguration_ne_nil {local_ remote : LdacCapabilities} {preferred : UInt32}
    {configuration : LdacConfiguration} {remoteSeid localSeid : UInt8} (hr : IsSeid remoteSeid)
    (hl : IsSeid localSeid) (h : ConfigurationFits local_ remote preferred configuration) :
    ldacBuildSetConfigurationPayload remoteSeid localSeid configuration ≠ [] := by
  obtain ⟨hr₁, hr₂, hr₃⟩ := rateBit_single h.rate
  obtain ⟨hm₁, hm₂, hm₃⟩ := modeBit_single h.mode
  unfold ldacBuildSetConfigurationPayload
  rw [if_neg]
  · exact List.cons_ne_nil _ _
  · simp only [not_or, ne_eq, not_not, UInt8.not_lt]
    exact ⟨hr.1, hr.2, hl.1, hl.2, hr₁, hr₂, hr₃, hm₁, hm₂, hm₃⟩

/-- The search ends with a selection: the endpoint is configured. -/
structure Talk.Selected (setup : AvdtpSource) (selection : Selection)
    (sent : List (List UInt8)) (talk : Talk) : Prop where
  state : talk.source.state = .configurationSent
  remoteSeid : talk.source.remoteSeid = selection.seid
  fits : ConfigurationFits setup.localCapabilities selection.remote setup.preferredSampleRateHz
    talk.source.configuration
  chosen : talk.source.configuration = (ldacChooseConfiguration setup.localCapabilities
    selection.remote setup.preferredSampleRateHz).2
  sent : talk.sent = sent ++ [frameAt sent.length avdtpSignalSetConfiguration
    (ldacBuildSetConfigurationPayload selection.seid setup.localSeid talk.source.configuration)]

/-- What the end of a search is for the source. -/
def Talk.Ends (setup : AvdtpSource) (talk : Talk) :
    Option Selection × List (List UInt8) → Prop
  | (some selection, sent) => talk.Selected setup selection sent
  | (none, sent) => talk.Failed sent

theorem ends_ldac (hsetup : SameSetup setup source) (hlocal : IsSeid setup.localSeid)
    (hat : source.At seid rest) (hl : source.nextTransactionLabel = labelAt sent.length)
    {list : List UInt8} {remote : LdacCapabilities} (hoffer : firstLdac list = .ldac remote) :
    Talk.Ends setup (.add sent (source.handleCapabilities list))
      (if HasCommon setup.localCapabilities remote then some ⟨seid, remote⟩ else none, sent) := by
  have hfailed : ∀ (source : AvdtpSource) errorCode,
      Talk.Ends setup (.add sent (source.fail errorCode)) (none, sent) :=
    fun source errorCode => failed_fail source sent errorCode
  unfold handleCapabilities
  rw [ldacFindInServiceCapabilities_eq, hoffer]
  dsimp only
  by_cases hempty : remote.sampleRates = 0 ∨ remote.channelModes = 0
  · -- an element without a rate or a mode has none in common
    have hnone := not_hasCommon_of_empty setup.localCapabilities hempty
    rw [if_pos hempty, if_neg (by decide), if_pos (by decide), if_neg hnone]
    exact hfailed _ _
  · rw [if_neg hempty, if_neg (by decide), if_neg (by decide), hsetup.localCapabilities,
      hsetup.preferred, hsetup.localSeid, hat.remoteSeid]
    rcases ldacChooseConfiguration_spec setup.localCapabilities remote
      setup.preferredSampleRateHz with ⟨hcommon, hok, hfits⟩ | ⟨hcommon, hno⟩
    · have hsent := add_sendCommand { source with
          state := .configurationSent
          localCapabilities := setup.localCapabilities
          preferredSampleRateHz := setup.preferredSampleRateHz
          localSeid := setup.localSeid
          remoteSeid := seid
          remoteCapabilities := remote
          configuration := (ldacChooseConfiguration setup.localCapabilities remote
            setup.preferredSampleRateHz).2 } hl
        (show avdtpSignalSetConfiguration ≠ 0 ∧ _ by decide)
        (length_setConfiguration_le seid setup.localSeid
          (ldacChooseConfiguration setup.localCapabilities remote
            setup.preferredSampleRateHz).2)
      have hseid : IsSeid seid := hat.seids seid (List.mem_cons_self ..)
      rw [hok, if_neg (by decide), if_neg (setConfiguration_ne_nil hseid hlocal hfits),
        if_pos hcommon, hsent]
      exact ⟨rfl, rfl, hfits, rfl, rfl⟩
    · rw [hno, if_pos (by decide), if_neg hcommon]
      exact hfailed _ _

/-! ## One exchange -/

/-- What a reply makes of the talk that asked an endpoint. -/
def Talk.Continues (setup : AvdtpSource) (sent : List (List UInt8)) (seid : UInt8)
    (rest : List UInt8) (signal : UInt8) (talk : Talk) : Answer → Prop
  | .malformed => talk.Failed sent
  | .rejected =>
    if signal = avdtpSignalGetAllCapabilities then
      talk.Asked setup sent seid rest avdtpSignalGetCapabilities
    else talk.GoesOn setup sent rest
  | .accepted list =>
    match firstLdac list with
    | .absent => talk.GoesOn setup sent rest
    | .malformed => talk.Failed sent
    | .ldac remote => talk.Ends setup
        (if HasCommon setup.localCapabilities remote then some ⟨seid, remote⟩ else none, sent)

theorem Talk.Asked.exchange (peer : Peer) (hlocal : IsSeid setup.localSeid)
    (h : talk.Asked setup sent seid rest signal) :
    Talk.Continues setup talk.sent seid rest signal (peer.exchange talk)
      (AvdtpCommand.answerOf ⟨labelAt sent.length, signal⟩ (peer talk.sent)) := by
  have hl : talk.source.nextTransactionLabel = labelAt talk.sent.length := by
    rw [h.label, h.sent, List.length_append]
    rfl
  have hlive : ¬ (talk.source.state = .failed ∨ talk.source.state = .idle ∨
      talk.source.state = .streaming) := by
    rw [h.state]
    decide
  have hsignal : talk.source.pendingSignalId = signal := congrArg AvdtpCommand.signalId h.pending
  unfold Peer.exchange AvdtpCommand.answerOf
  rw [← h.pending]
  rcases handleSignaling_cases hlive (peer talk.sent) with
    ⟨hans, e, he⟩ | ⟨hans, hacc, m, hm⟩ | ⟨hacc, ha⟩
  · rw [if_neg fun hacc => hans hacc.answeredBy, if_neg hans, he]
    exact failed_fail _ _ _
  · rw [if_neg hacc, if_pos hans, hm]
    unfold handleReject
    by_cases hall : signal = avdtpSignalGetAllCapabilities
    · rw [if_pos ⟨h.state, hsignal.trans hall, h.legacy.mpr hall⟩]
      show ite _ _ _
      rw [if_pos hall]
      exact asked_legacy h.setup h.at_ h.state hl
    · rw [if_neg fun hc => hall (hsignal.symm.trans hc.2.1), if_pos h.state]
      show ite _ _ _
      rw [if_neg hall]
      exact goesOn_queryNextSink h.setup h.at_ hl
  · rw [if_pos hacc, ha]
    unfold Talk.Continues handleAccept
    rw [h.state]
    dsimp only
    cases hoffer : firstLdac ((peer talk.sent).drop 2) with
    | absent =>
      unfold handleCapabilities
      rw [ldacFindInServiceCapabilities_eq, hoffer]
      exact goesOn_queryNextSink h.setup h.at_ hl
    | malformed =>
      unfold handleCapabilities
      rw [ldacFindInServiceCapabilities_eq, hoffer]
      exact failed_fail _ _ _
    | ldac remote => exact ends_ldac h.setup hlocal h.at_ hl hoffer

/-! ## The walk -/

theorem Talk.Asked.ask (peer : Peer) (h : talk.Asked setup sent seid rest signal) :
    peer.ask sent signal [seid <<< 2] =
      (AvdtpCommand.answerOf ⟨labelAt sent.length, signal⟩ (peer talk.sent), talk.sent) := by
  unfold Peer.ask
  rw [h.sent]

/-- The talk reaches the end of a search that began with the frames `sent`. -/
def Talk.Reaches (peer : Peer) (setup : AvdtpSource) (sent : List (List UInt8)) (talk : Talk)
    (result : Option Selection × List (List UInt8)) : Prop :=
  ∃ n, sent.length + n = result.2.length ∧ Talk.Ends setup (peer.exchange^[n] talk) result

theorem Talk.Ends.reaches {peer : Peer} {found : Option Selection}
    (h : talk.Ends setup (found, sent)) : talk.Reaches peer setup sent (found, sent) :=
  ⟨0, rfl, h⟩

theorem Talk.Asked.reaches {peer : Peer} {result : Option Selection × List (List UInt8)}
    (h : talk.Asked setup sent seid rest signal)
    (hnext : (peer.exchange talk).Reaches peer setup talk.sent result) :
    talk.Reaches peer setup sent result := by
  obtain ⟨n, hlen, hends⟩ := hnext
  refine ⟨n + 1, ?_, hends⟩
  rw [h.sent, List.length_append, List.length_singleton] at hlen
  omega

theorem Talk.GoesOn.reaches (peer : Peer) (hlocal : IsSeid setup.localSeid) {seids : List UInt8}
    (h : talk.GoesOn setup sent seids) :
    talk.Reaches peer setup sent (peer.walk .lenient setup.localCapabilities seids sent) := by
  induction seids generalizing talk sent with
  | nil =>
    have h : Talk.Ends setup talk (none, sent) := h
    exact h.reaches
  | cons seid rest ih =>
    have h : talk.Asked setup sent seid rest avdtpSignalGetAllCapabilities := h
    -- an accepted list decides, unless it has no LDAC element
    have accepted : ∀ {signal sent talk list},
        Talk.Continues setup sent seid rest signal talk (.accepted list) →
        talk.Reaches peer setup sent (match Reading.lenient.offer list with
          | .absent => peer.walk .lenient setup.localCapabilities rest sent
          | .malformed => (none, sent)
          | .ldac remote =>
            (if HasCommon setup.localCapabilities remote then some ⟨seid, remote⟩ else none,
              sent)) := by
      intro signal sent talk list hc
      simp only [Talk.Continues] at hc
      show talk.Reaches peer setup sent (match firstLdac list with
          | .absent => peer.walk .lenient setup.localCapabilities rest sent
          | .malformed => (none, sent)
          | .ldac remote =>
            (if HasCommon setup.localCapabilities remote then some ⟨seid, remote⟩ else none, sent))
      cases hoffer : firstLdac list with
      | absent =>
        rw [hoffer] at hc
        exact ih hc
      | malformed =>
        rw [hoffer] at hc
        exact Talk.Ends.reaches hc
      | ldac remote =>
        rw [hoffer] at hc
        exact Talk.Ends.reaches hc
    have hc := h.exchange peer hlocal
    unfold Peer.walk Peer.query
    rw [h.ask]
    cases hans : AvdtpCommand.answerOf ⟨labelAt sent.length, avdtpSignalGetAllCapabilities⟩
        (peer talk.sent) with
    | malformed =>
      rw [hans] at hc
      exact h.reaches (Talk.Ends.reaches hc)
    | accepted list =>
      rw [hans] at hc
      exact h.reaches (accepted hc)
    | rejected =>
      rw [hans] at hc
      have hlegacy : (peer.exchange talk).Asked setup talk.sent seid rest
          avdtpSignalGetCapabilities := hc
      have hc := hlegacy.exchange peer hlocal
      refine h.reaches (hlegacy.reaches ?_)
      dsimp only
      rw [hlegacy.ask]
      cases hans : AvdtpCommand.answerOf ⟨labelAt talk.sent.length, avdtpSignalGetCapabilities⟩
          (peer (peer.exchange talk).sent) with
      | malformed =>
        rw [hans] at hc
        exact Talk.Ends.reaches hc
      | accepted list =>
        rw [hans] at hc
        exact accepted hc
      | rejected =>
        rw [hans] at hc
        exact ih hc

/-! ## The search -/

theorem collectFrom_eq (payload : List UInt8) : collectFrom payload = freeSinks payload := by
  unfold freeSinks
  induction payload using endpoints.induct with
  | case1 first second rest ih =>
    simp only [collectFrom, endpoints]
    by_cases h : IsFreeAudioSink (first, second)
    · rw [List.filter_cons_of_pos (by simpa using h), List.map_cons, ← ih]
      exact if_pos h
    · rw [List.filter_cons_of_neg (by simpa using h), ← ih]
      exact if_neg h
  | case2 list h =>
    match list with
    | [] => rfl
    | [_] => rfl
    | first :: second :: rest => exact (h first second rest rfl).elim

theorem collectAudioSinks_eq (payload : List UInt8) :
    collectAudioSinks payload = Reading.lenient.sinks payload := by
  unfold collectAudioSinks
  rw [collectFrom_eq]
  show _ = if payload.length % 2 = 0 then _ else _
  by_cases h : payload.length % 2 = 0
  · rw [if_neg (not_not.mpr h), if_pos h]
  · rw [if_pos h, if_neg h]

theorem shiftRight_two_le (b : UInt8) : b >>> 2 ≤ 0x3F := by
  have key : ∀ n < 256, UInt8.ofNat n >>> 2 ≤ 0x3F := by decide +kernel
  simpa using key b.toNat b.toNat_lt

theorem isSeid_of_mem_sinks {payload : List UInt8} {seid : UInt8}
    (h : seid ∈ Reading.lenient.sinks payload) : IsSeid seid := by
  have hfree : seid ∈ freeSinks payload := by
    simp only [Reading.lenient] at h
    split_ifs at h
    · exact List.mem_of_mem_take h
    · cases h
  unfold freeSinks at hfree
  obtain ⟨endpoint, he, rfl⟩ := List.mem_map.mp hfree
  have hsink := (List.mem_filter.mp he).2
  rw [decide_eq_true_eq] at hsink
  exact ⟨hsink.1, shiftRight_two_le _⟩

theorem length_sinks_le (payload : List UInt8) :
    (Reading.lenient.sinks payload).length ≤ 63 := by
  simp only [Reading.lenient]
  split_ifs
  · exact Nat.le_trans (List.length_take_le _ _) (Nat.le_refl _)
  · exact Nat.zero_le _

/-- A source that may begin: the endpoint and the capabilities that `begin`
    checks. -/
structure AvdtpSource.Ready (source : AvdtpSource) : Prop where
  idle : source.state = .idle
  localSeid : IsSeid source.localSeid
  sampleRates : source.localCapabilities.sampleRates ≠ 0
  channelModes : source.localCapabilities.channelModes ≠ 0
  label : source.nextTransactionLabel = labelAt 0

def AvdtpSource.discovering (setup : AvdtpSource) : AvdtpSource :=
  AvdtpSource.sentCommand { setup with state := .discoverSent } 0 avdtpSignalDiscover

theorem talk_begin (h : setup.Ready) : Talk.add [] setup.begin_ =
    { sent := [frameAt 0 avdtpSignalDiscover []], source := setup.discovering } := by
  have hsent := add_sendCommand { setup with state := .discoverSent }
    (show setup.nextTransactionLabel = labelAt ([] : List (List UInt8)).length from h.label)
    (show avdtpSignalDiscover ≠ 0 ∧ _ by decide) (show ([] : List UInt8).length ≤ 62 by decide)
  unfold begin_
  rw [if_neg]
  · exact hsent
  · simp only [not_or, ne_eq, not_not, UInt8.not_lt]
    exact ⟨h.idle, h.localSeid.1, h.localSeid.2, h.sampleRates, h.channelModes⟩

theorem goesOn_discovered (setup : AvdtpSource) (hlen : sent.length = 1) (list : List UInt8) :
    (Talk.add sent (setup.discovering.handleAccept list)).GoesOn setup sent
      (Reading.lenient.sinks list) := by
  have hsinks := length_sinks_le list
  have hseids := fun seid => @isSeid_of_mem_sinks list seid
  have hlabel : setup.discovering.nextTransactionLabel = labelAt sent.length := by
    rw [hlen]
    rfl
  have haccept : setup.discovering.handleAccept list =
      if collectAudioSinks list = [] then setup.discovering.fail avdtpSourceErrorNoAudioSink
      else AvdtpSource.queryCurrentSink { setup.discovering with
        remoteSeids := collectAudioSinks list
        remoteSeidCount := (collectAudioSinks list).length.toUInt8
        remoteSeidIndex := 0
        remoteSeid := byteAt (collectAudioSinks list) 0 } := rfl
  rw [haccept, collectAudioSinks_eq]
  cases hs : Reading.lenient.sinks list with
  | nil => exact failed_fail _ _ _
  | cons seid rest =>
    rw [hs] at hsinks hseids
    rw [if_neg (List.cons_ne_nil _ _)]
    refine asked_queryCurrentSink ⟨rfl, rfl, rfl⟩ ⟨rfl, ?_, ?_, rfl, hseids⟩ hlabel
    · show (seid :: rest).length.toUInt8.toNat = _
      rw [Nat.toUInt8_eq, UInt8.toNat_ofNat']
      exact Nat.mod_eq_of_lt (Nat.lt_of_le_of_lt hsinks (by decide))
    · exact Nat.succ_pos _

theorem talk_search (peer : Peer) (h : setup.Ready) :
    Talk.Ends setup (peer.talk setup (peer.search .lenient setup.localCapabilities).2.length)
      (peer.search .lenient setup.localCapabilities) := by
  have hreach : (Talk.add [] setup.begin_).Reaches peer setup []
      (peer.search .lenient setup.localCapabilities) := by
    -- one exchange answers DISCOVER
    have once : ∀ {result}, (peer.exchange (.add [] setup.begin_)).Reaches peer setup
        [frameAt 0 avdtpSignalDiscover []] result →
        (Talk.add [] setup.begin_).Reaches peer setup [] result := by
      rintro result ⟨n, hlen, hends⟩
      refine ⟨n + 1, ?_, hends⟩
      rw [List.length_singleton] at hlen
      rw [List.length_nil]
      omega
    refine once ?_
    have hlive : ¬ (setup.discovering.state = .failed ∨ setup.discovering.state = .idle ∨
        setup.discovering.state = .streaming) := by
      rintro (hs | hs | hs) <;> cases hs
    have hcommand : setup.discovering.pendingCommand = ⟨labelAt 0, avdtpSignalDiscover⟩ := rfl
    have hcases := handleSignaling_cases hlive (peer [frameAt 0 avdtpSignalDiscover []])
    unfold Peer.search Peer.ask AvdtpCommand.answerOf Peer.exchange
    rw [talk_begin h]
    rw [hcommand] at hcases
    dsimp only [List.length_nil, List.nil_append]
    rcases hcases with ⟨hans, e, he⟩ | ⟨hans, hacc, m, hm⟩ | ⟨hacc, ha⟩
    · rw [if_neg fun hacc => hans hacc.answeredBy, if_neg hans, he]
      have hfailed := failed_fail setup.discovering [frameAt 0 avdtpSignalDiscover []] e
      exact Talk.Ends.reaches hfailed
    · rw [if_neg hacc, if_pos hans, hm]
      have hreject : ∃ e, setup.discovering.handleReject m
          ((peer [frameAt 0 avdtpSignalDiscover []]).drop 2) = setup.discovering.fail e := by
        have hs : setup.discovering.state ≠ .capabilitiesSent := nofun
        unfold handleReject
        rw [if_neg fun hall => hs hall.1, if_neg hs]
        split_ifs
        · exact ⟨_, rfl⟩
        · exact ⟨_, rfl⟩
      obtain ⟨e, he⟩ := hreject
      rw [he]
      have hfailed := failed_fail setup.discovering [frameAt 0 avdtpSignalDiscover []] e
      exact Talk.Ends.reaches hfailed
    · rw [if_pos hacc, ha]
      exact (goesOn_discovered setup rfl _).reaches peer h.localSeid
  obtain ⟨n, hlen, hends⟩ := hreach
  rw [List.length_nil, Nat.zero_add] at hlen
  rw [← hlen]
  exact hends

/-! ## One configuration -/

theorem walk_sent (peer : Peer) (reading : Reading) (local_ : LdacCapabilities)
    (seids : List UInt8) {sent : List (List UInt8)}
    (h : ∀ frame ∈ sent, ¬ CarriesSignal frame avdtpSignalSetConfiguration) :
    ∀ frame ∈ (peer.walk reading local_ seids sent).2,
      ¬ CarriesSignal frame avdtpSignalSetConfiguration := by
  have ask : ∀ {sent : List (List UInt8)} {signal : UInt8} {payload : List UInt8},
      IsCapabilityQuery signal → payload.length ≤ 62 →
      (∀ frame ∈ sent, ¬ CarriesSignal frame avdtpSignalSetConfiguration) →
      ∀ frame ∈ (peer.ask sent signal payload).2,
        ¬ CarriesSignal frame avdtpSignalSetConfiguration := by
    intro sent signal payload hq hp h frame hf
    rcases List.mem_append.mp hf with hf | hf
    · exact h frame hf
    · rw [List.mem_singleton] at hf
      have hs : signal ≠ 0 ∧ signal ≤ 0x3F ∧ signal ≠ avdtpSignalSetConfiguration := by
        rcases hq with rfl | rfl <;> decide
      rintro ⟨command, hc, hsignal⟩
      rw [hf, commandOf_frameAt _ ⟨hs.1, hs.2.1⟩ hp] at hc
      cases hc
      exact hs.2.2 hsignal
  have query : ∀ {sent : List (List UInt8)} {seid : UInt8},
      (∀ frame ∈ sent, ¬ CarriesSignal frame avdtpSignalSetConfiguration) →
      ∀ frame ∈ (peer.query sent seid).2, ¬ CarriesSignal frame avdtpSignalSetConfiguration := by
    intro sent seid h
    have hall := @ask sent avdtpSignalGetAllCapabilities [seid <<< 2] (.inl rfl) (by simp) h
    unfold Peer.query
    split
    · rename_i sent' heq
      rw [heq] at hall
      exact ask (.inr rfl) (by simp) hall
    · exact hall
  induction seids generalizing sent with
  | nil => exact h
  | cons seid rest ih =>
    have hquery := @query sent seid h
    unfold Peer.walk
    split
    · rename_i sent' heq
      rwa [heq] at hquery
    · rename_i sent' heq
      rw [heq] at hquery
      exact ih hquery
    · rename_i list sent' heq
      rw [heq] at hquery
      split
      · exact ih hquery
      · exact hquery
      · exact hquery

theorem search_sent (peer : Peer) (reading : Reading) (local_ : LdacCapabilities) :
    ∀ frame ∈ (peer.search reading local_).2,
      ¬ CarriesSignal frame avdtpSignalSetConfiguration := by
  have discover : ∀ frame ∈ (peer.ask [] avdtpSignalDiscover []).2,
      ¬ CarriesSignal frame avdtpSignalSetConfiguration := by
    intro frame hf
    rw [show frame = _ from List.mem_singleton.mp hf]
    rintro ⟨command, hc, hsignal⟩
    rw [commandOf_frameAt _ (by decide) (by decide)] at hc
    cases hc
    exact absurd hsignal (by decide)
  unfold Peer.search
  split
  · rename_i payload sent heq
    rw [heq] at discover
    exact walk_sent peer reading local_ _ discover
  · rename_i answer sent _ heq
    rwa [heq] at discover

/-- The state comes after the search. -/
def AvdtpSourceState.IsPast (state : AvdtpSourceState) : Prop :=
  state ≠ .idle ∧ state ≠ .discoverSent ∧ state ≠ .capabilitiesSent

def AvdtpAction.ConfiguresNothing (action : AvdtpAction) : Prop :=
  ∀ frame ∈ action.frames, ¬ CarriesSignal frame avdtpSignalSetConfiguration

def operations : Reducer AvdtpSource AvdtpSourceOp AvdtpAction where
  step := AvdtpSource.step

structure PastResult (result : AvdtpAction × AvdtpSource) : Prop where
  past : result.2.state.IsPast
  configures : result.1.ConfiguresNothing

theorem pastResult_fail (source : AvdtpSource) (errorCode : Int) :
    PastResult (source.fail errorCode) :=
  ⟨⟨nofun, nofun, nofun⟩, fun _ hf => absurd hf (List.not_mem_nil)⟩

theorem pastResult_sendCommand (hp : source.state.IsPast)
    (hs : signal ≠ avdtpSignalSetConfiguration) (payload : List UInt8) :
    PastResult (source.sendCommand signal payload) := by
  unfold sendCommand
  dsimp only
  split_ifs with hne
  · exact pastResult_fail _ _
  · refine ⟨hp, fun frame hf => ?_⟩
    rw [show frame = _ from List.mem_singleton.mp hf]
    rintro ⟨command, hc, hsignal⟩
    rw [commandOf, avdtpParseHeader_writeSingle hne] at hc
    cases hc
    exact hs hsignal

theorem pastResult_handleSignaling (hp : source.state.IsPast) (packet : List UInt8) :
    PastResult (source.handleSignaling packet) := by
  by_cases hlive : source.state = .failed ∨ source.state = .idle ∨ source.state = .streaming
  · unfold handleSignaling
    rw [if_pos hlive]
    exact pastResult_fail _ _
  · rcases handleSignaling_cases hlive packet with ⟨-, e, he⟩ | ⟨-, -, m, hm⟩ | ⟨-, ha⟩
    · rw [he]
      exact pastResult_fail _ _
    · rw [hm]
      unfold handleReject
      rw [if_neg fun hall => hp.2.2 hall.1, if_neg hp.2.2]
      split_ifs
      · exact pastResult_fail _ _
      · exact pastResult_fail _ _
    · rw [ha]
      unfold handleAccept
      cases hs : source.state <;> rw [hs] at hp
      case idle => exact absurd rfl hp.1
      case discoverSent => exact absurd rfl hp.2.1
      case capabilitiesSent => exact absurd rfl hp.2.2
      case configurationSent =>
        refine pastResult_sendCommand ?_ (by decide) _
        exact ⟨nofun, nofun, nofun⟩
      case openSent | startSent | suspendSent | closeSent =>
        exact ⟨⟨nofun, nofun, nofun⟩, fun _ hf => absurd hf (List.not_mem_nil)⟩
      all_goals exact pastResult_fail _ _

theorem pastResult_step (hp : source.state.IsPast) (op : AvdtpSourceOp) :
    PastResult (source.step op) := by
  have command : ∀ {c : Prop} [Decidable c] {e : Int} {state : AvdtpSourceState} {signal : UInt8}
      {payload : List UInt8}, state.IsPast → signal ≠ avdtpSignalSetConfiguration →
      PastResult (if c then source.fail e else
        AvdtpSource.sendCommand { source with state := state } signal payload) := by
    intro c _ e state signal payload hs hsignal
    split_ifs
    · exact pastResult_fail _ _
    · exact pastResult_sendCommand hs hsignal _
  cases op with
  | packet bytes => exact pastResult_handleSignaling hp bytes
  | begin_ =>
    show PastResult source.begin_
    unfold begin_
    rw [if_pos (.inl hp.1)]
    exact pastResult_fail _ _
  | start => exact command ⟨nofun, nofun, nofun⟩ (by decide)
  | suspend => exact command ⟨nofun, nofun, nofun⟩ (by decide)
  | close => exact command ⟨nofun, nofun, nofun⟩ (by decide)
  | mediaChannelOpened =>
    show PastResult source.mediaChannelOpened
    unfold mediaChannelOpened
    split_ifs
    · exact pastResult_fail _ _
    · exact ⟨⟨nofun, nofun, nofun⟩, fun _ hf => absurd hf (List.not_mem_nil)⟩

theorem along_configuresNothing (hp : source.state.IsPast) (ops : List AvdtpSourceOp) :
    operations.Along (fun source op => (source.step op).1.ConfiguresNothing) source ops :=
  Reducer.along_of_inv (P := fun source => source.state.IsPast) (Q := fun _ _ => True)
    (fun _ op h _ => (pastResult_step h op).past)
    (fun _ op h _ => (pastResult_step h op).configures) hp
    (Reducer.along_of_forall (fun _ _ => trivial) _ ops)

/-! ## The search of a source -/

/-- The source searches the sinks of a peer as the reference search does:
    without a selection it fails; otherwise it configures the endpoint selected,
    with one rate and one mode.  No other frame is a SET_CONFIGURATION, neither
    before nor after. -/
structure Searches (peer : Peer) (reading : Reading) (setup : AvdtpSource) : Prop where
  ends : Talk.Ends setup (peer.talk setup (peer.search reading setup.localCapabilities).2.length)
    (peer.search reading setup.localCapabilities)
  before : ∀ frame ∈ (peer.search reading setup.localCapabilities).2,
    ¬ CarriesSignal frame avdtpSignalSetConfiguration
  after : ∀ ops, operations.Along (fun source op => (source.step op).1.ConfiguresNothing)
    (peer.talk setup (peer.search reading setup.localCapabilities).2.length).source ops

theorem Talk.Ends.isPast {result : Option Selection × List (List UInt8)}
    (h : talk.Ends setup result) : talk.source.state.IsPast := by
  obtain ⟨found, sent⟩ := result
  cases found with
  | none =>
    rw [AvdtpSourceState.IsPast, h.1]
    exact ⟨nofun, nofun, nofun⟩
  | some selection =>
    rw [AvdtpSourceState.IsPast, h.state]
    exact ⟨nofun, nofun, nofun⟩

theorem ready_init {localCapabilities : LdacCapabilities} {localSeid : UInt8}
    (preferredSampleRateHz : UInt32) (hseid : IsSeid localSeid)
    (hrates : localCapabilities.sampleRates &&& ldacSfAll ≠ 0)
    (hmodes : localCapabilities.channelModes &&& ldacCmAll ≠ 0) :
    (init localCapabilities localSeid preferredSampleRateHz).Ready :=
  ⟨rfl, hseid, hrates, hmodes, rfl⟩

/-- **A source searches** as the reference does, whatever the peer replies. -/
theorem avdtpSource_searches (peer : Peer) (localCapabilities : LdacCapabilities)
    (localSeid : UInt8) (preferredSampleRateHz : UInt32) (hseid : IsSeid localSeid)
    (hrates : localCapabilities.sampleRates &&& ldacSfAll ≠ 0)
    (hmodes : localCapabilities.channelModes &&& ldacCmAll ≠ 0) :
    Searches peer .lenient (init localCapabilities localSeid preferredSampleRateHz) := by
  have hends := talk_search peer (ready_init preferredSampleRateHz hseid hrates hmodes)
  refine ⟨hends, ?_, ?_⟩
  · exact search_sent peer .lenient _
  · intro ops
    exact along_configuresNothing hends.isPast ops

/-- A peer with one sink, whose list goes on after the LDAC element. -/
def trailingPeer : Peer := fun frames =>
  if frames.length = 1 then [0x02, 0x01, 0x04, 0x08]
  else [0x12, 0x0C, 0x07, 0x0A, 0x00, 0xFF, 0x2D, 0x01, 0x00, 0x00, 0xAA, 0x00, 0x3C, 0x07, 0x08]

theorem avdtpSource_searches_trailing :
    Searches trailingPeer .lenient (init ⟨0x3C, 0x01⟩ 1 96000) :=
  avdtpSource_searches trailingPeer ⟨0x3C, 0x01⟩ 1 96000 ⟨by decide, by decide⟩ (by decide)
    (by decide)

/-- A list that is cut after its LDAC element is not refused. -/
theorem avdtpSource_not_strict :
    ¬ ∀ peer localCapabilities localSeid preferredSampleRateHz, IsSeid localSeid →
      localCapabilities.sampleRates &&& ldacSfAll ≠ 0 →
      localCapabilities.channelModes &&& ldacCmAll ≠ 0 →
      Searches peer .strict (init localCapabilities localSeid preferredSampleRateHz) := by
  intro h
  have hends := (h trailingPeer ⟨0x3C, 0x01⟩ 1 96000 ⟨by decide, by decide⟩ (by decide)
    (by decide)).ends
  have hdiscover : trailingPeer.ask [] avdtpSignalDiscover [] =
      (.accepted [0x04, 0x08], [[0x00, 0x01]]) := by decide +kernel
  have hquery : trailingPeer.ask [[0x00, 0x01]] avdtpSignalGetAllCapabilities [(1 : UInt8) <<< 2] =
      (.accepted [0x07, 0x0A, 0x00, 0xFF, 0x2D, 0x01, 0x00, 0x00, 0xAA, 0x00, 0x3C, 0x07, 0x08],
        [[0x00, 0x01], [0x10, 0x0C, 0x04]]) := by decide +kernel
  have hoffer : Reading.strict.offer
      [0x07, 0x0A, 0x00, 0xFF, 0x2D, 0x01, 0x00, 0x00, 0xAA, 0x00, 0x3C, 0x07, 0x08] =
      .malformed := by
    simp [Reading.strict, serviceElements]
  have hsearch : trailingPeer.search .strict ⟨0x3C, 0x01⟩ =
      (none, [[0x00, 0x01], [0x10, 0x0C, 0x04]]) := by
    unfold Peer.search
    rw [hdiscover]
    show trailingPeer.walk .strict ⟨0x3C, 0x01⟩ [1] [[0x00, 0x01]] = _
    unfold Peer.walk Peer.query
    rw [hquery]
    dsimp only
    rw [hoffer]
  have hstate : (trailingPeer.talk (init ⟨0x3C, 0x01⟩ 1 96000) 2).source.state =
      .configurationSent := by decide +kernel
  rw [show (init ⟨0x3C, 0x01⟩ 1 96000).localCapabilities = ⟨0x3C, 0x01⟩ by decide, hsearch] at hends
  have hidle := hstate.symm.trans hends.1
  cases hidle

end NativeLdac.Protocol
