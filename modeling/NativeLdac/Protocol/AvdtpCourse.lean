/-
  The course of an AVDTP session over whole runs, told from the outside: from
  the packets received, the packets sent and the media channel alone.

  `Ledger` holds the commands that were sent and not answered, and what the
  peer granted: the commands it accepted, and the media channel.  `course` runs
  the source and keeps the ledger.  `Course` says which grants lead to each
  state, and which command is outstanding there.
-/
import NativeLdac.Lib.Reducer
import NativeLdac.Protocol.AvdtpPending
import NativeLdac.Protocol.ServiceCapabilities

namespace NativeLdac.Protocol

/-! ## Operations -/

inductive AvdtpSourceOp where
  | begin_ | packet (bytes : List UInt8) | mediaChannelOpened | start | suspend | close
deriving DecidableEq, Repr

def AvdtpSource.step (source : AvdtpSource) : AvdtpSourceOp → AvdtpAction × AvdtpSource
  | .begin_ => source.begin_
  | .packet bytes => source.handleSignaling bytes
  | .mediaChannelOpened => source.mediaChannelOpened
  | .start => source.start
  | .suspend => source.suspend
  | .close => source.close

/-! ## Responses -/

/-- A command as the peer sees it. -/
structure AvdtpCommand where
  transactionLabel : UInt8
  signalId : UInt8
deriving DecidableEq, Repr

/-- The command a packet carries. -/
def commandOf (packet : List UInt8) : Option AvdtpCommand :=
  (avdtpParseHeader packet).map fun header => ⟨header.transactionLabel, header.signalId⟩

def AvdtpCommand.AcceptedBy (command : AvdtpCommand) (packet : List UInt8) : Prop :=
  IsSingle packet command.transactionLabel .accept command.signalId

instance (command : AvdtpCommand) (packet : List UInt8) : Decidable (command.AcceptedBy packet) :=
  inferInstanceAs (Decidable (IsSingle _ _ _ _))

/-- The packet is a single-packet response to the command. -/
def AvdtpCommand.AnsweredBy (command : AvdtpCommand) (packet : List UInt8) : Prop :=
  command.AcceptedBy packet ∨
    IsSingle packet command.transactionLabel .reject command.signalId ∨
    IsSingle packet command.transactionLabel .generalReject command.signalId

instance (command : AvdtpCommand) (packet : List UInt8) : Decidable (command.AnsweredBy packet) :=
  inferInstanceAs (Decidable (_ ∨ _ ∨ _))

def IsCapabilityQuery (signal : UInt8) : Prop :=
  signal = avdtpSignalGetAllCapabilities ∨ signal = avdtpSignalGetCapabilities

instance (signal : UInt8) : Decidable (IsCapabilityQuery signal) :=
  inferInstanceAs (Decidable (_ ∨ _))

/-- The payload of an accepted command has the length that its signal asks
    for, as far as the source reads it: whole endpoints, and a list of
    capabilities that is not cut short before its first LDAC element. -/
def AvdtpCommand.ReadsWhole (command : AvdtpCommand) (payload : List UInt8) : Prop :=
  (command.signalId = avdtpSignalDiscover → payload.length % 2 = 0) ∧
    (IsCapabilityQuery command.signalId → firstLdac payload ≠ .malformed)

/-- The length is the one of the signal to the byte: the other responses have
    no payload. -/
def AvdtpCommand.HasLength (command : AvdtpCommand) (payload : List UInt8) : Prop :=
  command.ReadsWhole payload ∧
    (command.signalId ≠ avdtpSignalDiscover → ¬ IsCapabilityQuery command.signalId → payload = [])

/-- A response to the command whose payload satisfies `whole` if it accepts. -/
def AvdtpCommand.Responds (command : AvdtpCommand) (whole : List UInt8 → Prop)
    (packet : List UInt8) : Prop :=
  command.AnsweredBy packet ∧ (command.AcceptedBy packet → whole (packet.drop 2))

variable {packet : List UInt8} {command : AvdtpCommand}

theorem avdtpParseHeader_single {header : AvdtpHeader} (h : avdtpParseHeader packet = some header)
    (hs : header.packetType = .single) :
    header.payloadOffset = 2 ∧ 2 ≤ packet.length := by
  unfold avdtpParseHeader at h
  split at h
  · cases h
  · dsimp only at h
    split at h
    · split at h <;> cases h
      exact ⟨rfl, by omega⟩
    · split at h <;> cases h
      simp_all
    · cases h
      simp_all
    · cases h
      simp_all

theorem AvdtpCommand.answeredBy_iff {header : AvdtpHeader}
    (h : avdtpParseHeader packet = some header) :
    command.AnsweredBy packet ↔ header.packetType = .single ∧
      header.transactionLabel = command.transactionLabel ∧ header.signalId = command.signalId ∧
      header.messageType ≠ .command := by
  unfold AnsweredBy AcceptedBy IsSingle
  simp only [h, Option.some.injEq, exists_eq_left']
  cases header.messageType <;> simp

theorem AvdtpCommand.acceptedBy_iff {header : AvdtpHeader}
    (h : avdtpParseHeader packet = some header) :
    command.AcceptedBy packet ↔ header.packetType = .single ∧
      header.transactionLabel = command.transactionLabel ∧ header.messageType = .accept ∧
      header.signalId = command.signalId := by
  unfold AcceptedBy IsSingle
  simp only [h, Option.some.injEq, exists_eq_left']

theorem AvdtpCommand.AcceptedBy.answeredBy (h : command.AcceptedBy packet) :
    command.AnsweredBy packet :=
  .inl h

theorem AvdtpCommand.AnsweredBy.parse (h : command.AnsweredBy packet) :
    ∃ header, avdtpParseHeader packet = some header := by
  rcases h with ⟨header, h, -⟩ | ⟨header, h, -⟩ | ⟨header, h, -⟩
  · exact ⟨header, h⟩
  · exact ⟨header, h⟩
  · exact ⟨header, h⟩

namespace AvdtpSource

/-- The command the source waits for. -/
def pendingCommand (source : AvdtpSource) : AvdtpCommand :=
  ⟨source.pendingTransactionLabel, source.pendingSignalId⟩

theorem handleSignaling_cases {source : AvdtpSource}
    (hlive : ¬ (source.state = .failed ∨ source.state = .idle ∨ source.state = .streaming))
    (packet : List UInt8) :
    (¬ source.pendingCommand.AnsweredBy packet ∧
        ∃ errorCode, source.handleSignaling packet = source.fail errorCode) ∨
      (source.pendingCommand.AnsweredBy packet ∧ ¬ source.pendingCommand.AcceptedBy packet ∧
        ∃ m, source.handleSignaling packet = source.handleReject m (packet.drop 2)) ∨
      (source.pendingCommand.AcceptedBy packet ∧
        source.handleSignaling packet = source.handleAccept (packet.drop 2)) := by
  unfold handleSignaling
  rw [if_neg hlive]
  cases hp : avdtpParseHeader packet with
  | none =>
    refine .inl ⟨fun h => ?_, _, rfl⟩
    obtain ⟨header, h⟩ := h.parse
    rw [hp] at h
    cases h
  | some header =>
    rw [AvdtpCommand.answeredBy_iff hp, AvdtpCommand.acceptedBy_iff hp]
    dsimp only
    split_ifs with hsingle hmatch hreject
    · refine .inl ⟨fun h => ?_, _, rfl⟩
      exact hsingle.elim (· h.1) fun hl =>
        absurd (avdtpParseHeader_payload_le hp) (Nat.not_le.mpr hl)
    · refine .inl ⟨fun h => ?_, _, rfl⟩
      obtain ⟨-, hl, hs, hm⟩ := h
      rcases hmatch with hl' | hs' | hm'
      · exact hl' hl
      · exact hs' hs
      · exact hm hm'
    · simp only [not_or, ne_eq, not_not] at hsingle hmatch
      rw [(avdtpParseHeader_single hp hsingle.1).1]
      refine .inr (.inl ⟨⟨hsingle.1, hmatch.1, hmatch.2.1, hmatch.2.2⟩, fun h => ?_, _, rfl⟩)
      rw [h.2.2.1] at hreject
      rcases hreject with hr | hr <;> cases hr
    · simp only [not_or, ne_eq, not_not] at hsingle hmatch hreject
      rw [(avdtpParseHeader_single hp hsingle.1).1]
      refine .inr (.inr ⟨⟨hsingle.1, hmatch.1, ?_, hmatch.2.1⟩, rfl⟩)
      cases hm : header.messageType with
      | command => exact absurd hm hmatch.2.2
      | generalReject => exact absurd hm hreject.2
      | accept => rfl
      | reject => exact absurd hm hreject.1

theorem handleSignaling_stream {source : AvdtpSource} {signal : UInt8}
    {wait state' : AvdtpSourceState} {kind : AvdtpActionKind}
    (h : StreamWait signal wait kind state') (hw : source.state = wait) (reply : List UInt8) :
    (source.Accepts reply ∧
        source.handleSignaling reply = (makeAction kind, { source with state := state' })) ∨
      (¬ source.Accepts reply ∧ (source.handleSignaling reply).1.kind = .error) := by
  have hlive : ¬ (source.state = .failed ∨ source.state = .idle ∨ source.state = .streaming) := by
    rw [hw]
    cases h <;> decide
  rcases handleSignaling_cases hlive reply with
    ⟨hanswered, e, he⟩ | ⟨-, haccepted, m, hm⟩ | ⟨haccepted, ha⟩
  · refine .inr ⟨fun h => hanswered (AvdtpCommand.AcceptedBy.answeredBy h), ?_⟩
    rw [he]
    rfl
  · refine .inr ⟨haccepted, ?_⟩
    rw [hm]
    exact h.handleReject hw _ _
  · refine .inl ⟨haccepted, ?_⟩
    rw [ha]
    exact h.handleAccept hw _

end AvdtpSource

/-! ## The ledger -/

/-- What the peer grants: a command it accepts, or the media channel. -/
inductive Grant where
  | accepted (signal : UInt8) | mediaChannel
deriving DecidableEq, Repr

structure Ledger where
  outstanding : List AvdtpCommand
  grants : List Grant
deriving DecidableEq, Repr

namespace Ledger

def empty : Ledger := { outstanding := [], grants := [] }

/-- What the peer or the media channel does. -/
def receive (ledger : Ledger) : AvdtpSourceOp → Ledger
  | .packet bytes =>
    { outstanding := ledger.outstanding.filter fun command => ¬ command.AnsweredBy bytes
      grants := ledger.grants ++
        (ledger.outstanding.filter fun command => command.AcceptedBy bytes).map
          fun command => .accepted command.signalId }
  | .mediaChannelOpened => { ledger with grants := ledger.grants ++ [.mediaChannel] }
  | .begin_ | .start | .suspend | .close => ledger

/-- What the source does. -/
def send (ledger : Ledger) (action : AvdtpAction) : Ledger :=
  if action.kind = .sendSignaling then
    { ledger with outstanding := ledger.outstanding ++ (commandOf action.packet).toList }
  else ledger

end Ledger

/-- The source together with the ledger of its run. -/
def course : Reducer (AvdtpSource × Ledger) AvdtpSourceOp AvdtpAction where
  step s op :=
    let result := s.1.step op
    (result.1, result.2, (s.2.receive op).send result.1)

/-- The course starts with any capabilities, endpoint and preferred rate. -/
def IsInitial (s : AvdtpSource × Ledger) : Prop :=
  ∃ localCapabilities localSeid preferredSampleRateHz,
    s = (.init localCapabilities localSeid preferredSampleRateHz, .empty)

/-! ## What leads to each state -/

/-- DISCOVER was accepted, then the queries. -/
def discovered (queries : List UInt8) : List Grant :=
  .accepted avdtpSignalDiscover :: queries.map .accepted

/-- The stream was configured and opened, with a media channel, and then
    started and suspended some times. -/
def established (queries : List UInt8) (rounds : Nat) : List Grant :=
  discovered queries ++
    [.accepted avdtpSignalSetConfiguration, .accepted avdtpSignalOpen, .mediaChannel] ++
    (List.replicate rounds [.accepted avdtpSignalStart, .accepted avdtpSignalSuspend]).flatten

/-- The grants are those of an open stream. -/
def IsEstablished (grants : List Grant) : Prop :=
  ∃ queries rounds, queries ≠ [] ∧ (∀ signal ∈ queries, IsCapabilityQuery signal) ∧
    grants = established queries rounds

/-- The grants that lead to a state. -/
def Granted : AvdtpSourceState → List Grant → Prop
  | .idle, grants => grants = []
  | .discoverSent, grants => grants = []
  | .capabilitiesSent, grants =>
    ∃ queries, (∀ signal ∈ queries, IsCapabilityQuery signal) ∧ grants = discovered queries
  | .configurationSent, grants =>
    ∃ queries, queries ≠ [] ∧ (∀ signal ∈ queries, IsCapabilityQuery signal) ∧
      grants = discovered queries
  | .openSent, grants =>
    ∃ queries, queries ≠ [] ∧ (∀ signal ∈ queries, IsCapabilityQuery signal) ∧
      grants = discovered queries ++ [.accepted avdtpSignalSetConfiguration]
  | .waitingForMediaChannel, grants =>
    ∃ queries, queries ≠ [] ∧ (∀ signal ∈ queries, IsCapabilityQuery signal) ∧
      grants = discovered queries ++
        [.accepted avdtpSignalSetConfiguration, .accepted avdtpSignalOpen]
  | .open_, grants => IsEstablished grants
  | .startSent, grants => IsEstablished grants
  | .closeSent, grants => IsEstablished grants
  | .streaming, grants =>
    ∃ before, IsEstablished before ∧ grants = before ++ [.accepted avdtpSignalStart]
  | .suspendSent, grants =>
    ∃ before, IsEstablished before ∧ grants = before ++ [.accepted avdtpSignalStart]
  | .closed, grants =>
    ∃ before, IsEstablished before ∧ grants = before ++ [.accepted avdtpSignalClose]
  | .failed, _ => True

/-- A command is outstanding in these states. -/
def AvdtpSourceState.Waits : AvdtpSourceState → Prop
  | .discoverSent | .capabilitiesSent | .configurationSent | .openSent | .startSent
  | .suspendSent | .closeSent => True
  | _ => False

/-- **The course**: the grants are those that lead to the state, and the
    pending command is the one outstanding, if the source waits for any. -/
structure Course (s : AvdtpSource × Ledger) : Prop where
  pending : s.1.Pending
  granted : Granted s.1.state s.2.grants
  waits : s.1.state.Waits → s.2.outstanding = [s.1.pendingCommand]
  rests : s.1.state ≠ .failed → ¬ s.1.state.Waits → s.2.outstanding = []
  single : s.2.outstanding.length ≤ 1

theorem isEstablished_round {grants : List Grant} (h : IsEstablished grants) :
    IsEstablished (grants ++ [.accepted avdtpSignalStart] ++ [.accepted avdtpSignalSuspend]) := by
  obtain ⟨queries, rounds, hne, hq, rfl⟩ := h
  refine ⟨queries, rounds + 1, hne, hq, ?_⟩
  simp [established, List.replicate_succ', List.append_assoc]

theorem isEstablished_first {queries : List UInt8} (hne : queries ≠ [])
    (hq : ∀ signal ∈ queries, IsCapabilityQuery signal) :
    IsEstablished (discovered queries ++
      [.accepted avdtpSignalSetConfiguration, .accepted avdtpSignalOpen] ++ [.mediaChannel]) :=
  ⟨queries, 0, hne, hq, by simp [established]⟩

/-! ## One step -/

section
variable {source : AvdtpSource} {ledger : Ledger}

/-- A result of an operation keeps the course, for the ledger of what the
    operation received. -/
def KeepsCourse (ledger : Ledger) (result : AvdtpAction × AvdtpSource) : Prop :=
  Course (result.2, ledger.send result.1)

theorem keepsCourse_fail (h : ledger.outstanding.length ≤ 1) (errorCode : Int) :
    KeepsCourse ledger (source.fail errorCode) where
  pending := trivial
  granted := trivial
  waits := False.elim
  rests := fun hf => absurd rfl hf
  single := h

theorem keepsCourse_sendCommand {signalId : UInt8} (payload : List UInt8)
    (hnone : ledger.outstanding = []) (hg : Granted source.state ledger.grants)
    (hw : source.state.Waits) (ha : source.state.Awaits signalId) :
    KeepsCourse ledger (source.sendCommand signalId payload) := by
  unfold AvdtpSource.sendCommand
  dsimp only
  split_ifs with hp
  · exact keepsCourse_fail (by simp [hnone]) _
  · have hsent : (ledger.send { makeAction .sendSignaling with
        packet := avdtpWriteSingle avdtpMaxSignalingPacket source.nextTransactionLabel .command
          signalId payload }) =
        { ledger with outstanding := [⟨source.nextTransactionLabel, signalId⟩] } := by
      simp [Ledger.send, makeAction, commandOf, avdtpParseHeader_writeSingle hp, hnone]
    unfold KeepsCourse
    rw [hsent]
    exact ⟨ha, hg, fun _ => rfl, fun _ h => absurd hw h, Nat.le_refl _⟩

theorem keepsCourse_rest {kind : AvdtpActionKind} {state : AvdtpSourceState}
    (hk : kind ≠ .sendSignaling) (hnone : ledger.outstanding = []) (hw : ¬ state.Waits)
    (ha : state.Awaits source.pendingSignalId) (hg : Granted state ledger.grants) :
    KeepsCourse ledger (makeAction kind, { source with state := state }) := by
  have hsent : ledger.send (makeAction kind) = ledger := if_neg hk
  unfold KeepsCourse
  rw [hsent]
  exact ⟨ha, hg, fun h => absurd h hw, fun _ _ => hnone, by simp [hnone]⟩

/-! ### Answers -/

theorem keepsCourse_queryCurrentSink (queries : List UInt8) (hnone : ledger.outstanding = [])
    (hq : ∀ signal ∈ queries, IsCapabilityQuery signal) (hg : ledger.grants = discovered queries) :
    KeepsCourse ledger source.queryCurrentSink :=
  keepsCourse_sendCommand _ hnone ⟨queries, hq, hg⟩ trivial (.inl rfl)

theorem keepsCourse_queryNextSink {queries : List UInt8} (hnone : ledger.outstanding = [])
    (hq : ∀ signal ∈ queries, IsCapabilityQuery signal) (hg : ledger.grants = discovered queries) :
    KeepsCourse ledger source.queryNextSink := by
  unfold AvdtpSource.queryNextSink
  split_ifs
  · exact keepsCourse_fail (by simp [hnone]) _
  · exact keepsCourse_queryCurrentSink queries hnone hq hg

theorem keepsCourse_handleReject (hnone : ledger.outstanding = [])
    (hg : Granted source.state ledger.grants) (m : AvdtpMessageType) (payload : List UInt8) :
    KeepsCourse ledger (source.handleReject m payload) := by
  have hfail : ∀ errorCode, KeepsCourse ledger (source.fail errorCode) :=
    keepsCourse_fail (by simp [hnone])
  unfold AvdtpSource.handleReject
  split_ifs with hall hcap
  · refine keepsCourse_sendCommand _ hnone hg ?_ ?_
    · show source.state.Waits
      rw [hall.1]
      trivial
    · show source.state.Awaits _
      rw [hall.1]
      exact .inr rfl
  · rw [hcap] at hg
    obtain ⟨queries, hq, hg⟩ := hg
    exact keepsCourse_queryNextSink hnone hq hg
  · exact hfail _
  · exact hfail _

theorem keepsCourse_handleCapabilities (queries : List UInt8) (hnone : ledger.outstanding = [])
    (hne : queries ≠ []) (hq : ∀ signal ∈ queries, IsCapabilityQuery signal)
    (hg : ledger.grants = discovered queries) (payload : List UInt8) :
    KeepsCourse ledger (source.handleCapabilities payload) := by
  have hfail : ∀ (source : AvdtpSource) errorCode, KeepsCourse ledger (source.fail errorCode) :=
    fun _ => keepsCourse_fail (by simp [hnone])
  unfold AvdtpSource.handleCapabilities
  dsimp only
  split_ifs
  · exact keepsCourse_queryNextSink hnone hq hg
  · exact hfail _ _
  · exact hfail _ _
  · exact hfail _ _
  · exact keepsCourse_sendCommand _ hnone ⟨queries, hne, hq, hg⟩ trivial rfl

theorem keepsCourse_handleAccept {grants : List Grant} (hw : source.state.Waits)
    (hp : source.Pending) (hg : Granted source.state grants) (hnone : ledger.outstanding = [])
    (hgrant : ledger.grants = grants ++ [.accepted source.pendingSignalId])
    (payload : List UInt8) : KeepsCourse ledger (source.handleAccept payload) := by
  unfold AvdtpSource.Pending at hp
  unfold AvdtpSource.handleAccept
  cases hstate : source.state <;> rw [hstate] at hw hp hg <;> dsimp only
  case discoverSent =>
    split_ifs
    · exact keepsCourse_fail (by simp [hnone]) _
    · refine keepsCourse_queryCurrentSink [] hnone (by simp) ?_
      rw [hgrant, hg, hp]
      rfl
  case capabilitiesSent =>
    obtain ⟨queries, hq, rfl⟩ := hg
    refine keepsCourse_handleCapabilities (queries ++ [source.pendingSignalId]) hnone
      (by simp) ?_ ?_ payload
    · intro signal hs
      rcases List.mem_append.mp hs with hs | hs
      · exact hq signal hs
      · rw [List.mem_singleton.mp hs]
        exact hp
    · rw [hgrant]
      simp [discovered]
  case configurationSent =>
    obtain ⟨queries, hne, hq, rfl⟩ := hg
    refine keepsCourse_sendCommand _ hnone ⟨queries, hne, hq, ?_⟩ trivial rfl
    rw [hgrant, hp]
  case openSent =>
    obtain ⟨queries, hne, hq, rfl⟩ := hg
    refine keepsCourse_rest (by decide) hnone id trivial ⟨queries, hne, hq, ?_⟩
    rw [hgrant, hp, List.append_assoc]
    rfl
  case startSent =>
    refine keepsCourse_rest (by decide) hnone id trivial ⟨grants, hg, ?_⟩
    rw [hgrant, hp]
  case suspendSent =>
    obtain ⟨before, hbefore, rfl⟩ := hg
    refine keepsCourse_rest (by decide) hnone id trivial ?_
    rw [hgrant, hp]
    exact isEstablished_round hbefore
  case closeSent =>
    refine keepsCourse_rest (by decide) hnone id trivial ⟨grants, hg, ?_⟩
    rw [hgrant, hp]
  all_goals exact hw.elim

end

theorem AvdtpSource.handleSignaling_of_not_waits {source : AvdtpSource}
    (h : ¬ source.state.Waits) (packet : List UInt8) :
    ∃ errorCode, source.handleSignaling packet = source.fail errorCode := by
  by_cases hlive : source.state = .failed ∨ source.state = .idle ∨ source.state = .streaming
  · exact ⟨_, if_pos hlive⟩
  · rcases AvdtpSource.handleSignaling_cases hlive packet with ⟨-, e, he⟩ | ⟨-, -, m, hm⟩ | ⟨-, ha⟩
    · exact ⟨e, he⟩
    · rw [hm]
      have hcap : source.state ≠ .capabilitiesSent := by
        intro hc
        rw [hc] at h
        exact h trivial
      unfold AvdtpSource.handleReject
      rw [if_neg fun hall => hcap hall.1, if_neg hcap]
      split_ifs
      · exact ⟨_, rfl⟩
      · exact ⟨_, rfl⟩
    · rw [ha]
      unfold AvdtpSource.handleAccept
      cases hs : source.state <;> rw [hs] at h
      case discoverSent | capabilitiesSent | configurationSent | openSent | startSent |
          suspendSent | closeSent => exact absurd trivial h
      all_goals exact ⟨_, rfl⟩

theorem Ledger.receive_outstanding_le (ledger : Ledger) (op : AvdtpSourceOp) :
    (ledger.receive op).outstanding.length ≤ ledger.outstanding.length := by
  cases op with
  | packet bytes => exact List.length_filter_le _ _
  | _ => exact Nat.le_refl _

variable {s : AvdtpSource × Ledger}

theorem keepsCourse_packet (h : Course s) (packet : List UInt8) :
    KeepsCourse (s.2.receive (.packet packet)) (s.1.handleSignaling packet) := by
  have hle := Nat.le_trans (s.2.receive_outstanding_le (.packet packet)) h.single
  by_cases hw : s.1.state.Waits
  · have hlive : ¬ (s.1.state = .failed ∨ s.1.state = .idle ∨ s.1.state = .streaming) := by
      rintro (hs | hs | hs)
      · rw [hs] at hw
        exact hw
      · rw [hs] at hw
        exact hw
      · rw [hs] at hw
        exact hw
    have hout := h.waits hw
    rcases AvdtpSource.handleSignaling_cases hlive packet with
      ⟨-, e, he⟩ | ⟨hans, hacc, m, hm⟩ | ⟨hacc, ha⟩
    · rw [he]
      exact keepsCourse_fail hle e
    · rw [hm]
      refine keepsCourse_handleReject ?_ ?_ m _
      · simp [Ledger.receive, hout, hans]
      · have hsame : (s.2.receive (.packet packet)).grants = s.2.grants := by
          simp [Ledger.receive, hout, hacc]
        rw [hsame]
        exact h.granted
    · rw [ha]
      refine keepsCourse_handleAccept hw h.pending h.granted ?_ ?_ _
      · simp [Ledger.receive, hout, hacc.answeredBy]
      · have hfilter : [s.1.pendingCommand].filter
            (fun command => decide (command.AcceptedBy packet)) = [s.1.pendingCommand] := by
          simp [hacc]
        simp only [Ledger.receive, hout, hfilter]
        rfl
  · obtain ⟨e, he⟩ := AvdtpSource.handleSignaling_of_not_waits hw packet
    rw [he]
    exact keepsCourse_fail hle e

theorem course_step (h : Course s) (op : AvdtpSourceOp) :
    Course (course.next s op) := by
  have hle := h.single
  have hg := h.granted
  -- the commands of the user go out from a state without an outstanding one
  have send : ∀ {signal : UInt8} {rest state : AvdtpSourceState} (payload : List UInt8),
      s.1.state = rest → rest ≠ .failed → ¬ rest.Waits → Granted state s.2.grants →
      state.Waits → state.Awaits signal →
      KeepsCourse s.2 (AvdtpSource.sendCommand { s.1 with state := state } signal payload) := by
    intro signal rest state payload hs hf hrest hg hw ha
    subst hs
    exact keepsCourse_sendCommand payload (h.rests hf hrest) hg hw ha
  cases op with
  | packet bytes => exact keepsCourse_packet h bytes
  | begin_ =>
    show KeepsCourse s.2 s.1.begin_
    unfold AvdtpSource.begin_
    split_ifs with hc
    · exact keepsCourse_fail hle _
    · have hs : s.1.state = .idle := not_not.mp (not_or.mp hc).1
      rw [hs] at hg
      exact send _ hs (by decide) id hg trivial rfl
  | mediaChannelOpened =>
    show KeepsCourse (s.2.receive .mediaChannelOpened) s.1.mediaChannelOpened
    unfold AvdtpSource.mediaChannelOpened
    split_ifs with hs
    · exact @keepsCourse_fail s.1 (s.2.receive .mediaChannelOpened) hle _
    · rw [ne_eq, not_not] at hs
      have hnone : s.2.outstanding = [] := h.rests (by rw [hs]; decide) (by rw [hs]; exact id)
      rw [hs] at hg
      obtain ⟨queries, hne, hq, hg⟩ := hg
      refine keepsCourse_rest (by decide) hnone id trivial ?_
      show IsEstablished (s.2.grants ++ [.mediaChannel])
      rw [hg]
      exact isEstablished_first hne hq
  | start =>
    show KeepsCourse s.2 s.1.start
    unfold AvdtpSource.start
    split_ifs with hs
    · exact keepsCourse_fail hle _
    · rw [ne_eq, not_not] at hs
      rw [hs] at hg
      exact send _ hs (by decide) id hg trivial rfl
  | suspend =>
    show KeepsCourse s.2 s.1.suspend
    unfold AvdtpSource.suspend
    split_ifs with hs
    · exact keepsCourse_fail hle _
    · rw [ne_eq, not_not] at hs
      rw [hs] at hg
      exact send _ hs (by decide) id hg trivial rfl
  | close =>
    show KeepsCourse s.2 s.1.close
    unfold AvdtpSource.close
    split_ifs with hs
    · exact keepsCourse_fail hle _
    · rw [ne_eq, not_not] at hs
      rw [hs] at hg
      exact send _ hs (by decide) id hg trivial rfl

theorem course_init (h : IsInitial s) : Course s := by
  obtain ⟨localCapabilities, localSeid, preferredSampleRateHz, rfl⟩ := h
  exact ⟨trivial, rfl, False.elim, fun _ _ => rfl, Nat.zero_le _⟩

theorem course_of_reach (h : course.Reach IsInitial s) : Course s :=
  h.inv (fun _ => course_init) (fun _ op h => course_step h op)

/-! ## Failures -/

/-- An operation fails the session: the state is FAILED, and nothing is sent. -/
def Fails (result : AvdtpAction × AvdtpSource) : Prop :=
  result.2.state = .failed ∧ result.1.kind ≠ .sendSignaling

theorem fails_fail (source : AvdtpSource) (errorCode : Int) : Fails (source.fail errorCode) :=
  ⟨rfl, nofun⟩

theorem fails_of_failed {source : AvdtpSource} (h : source.state = .failed) (op : AvdtpSourceOp) :
    Fails (source.step op) := by
  cases op with
  | packet bytes =>
    show Fails (source.handleSignaling bytes)
    unfold AvdtpSource.handleSignaling
    rw [if_pos (.inl h)]
    exact fails_fail _ _
  | begin_ =>
    show Fails source.begin_
    unfold AvdtpSource.begin_
    rw [if_pos (.inl (by rw [h]; decide))]
    exact fails_fail _ _
  | mediaChannelOpened =>
    show Fails source.mediaChannelOpened
    unfold AvdtpSource.mediaChannelOpened
    rw [if_pos (by rw [h]; decide)]
    exact fails_fail _ _
  | start =>
    show Fails source.start
    unfold AvdtpSource.start
    rw [if_pos (by rw [h]; decide)]
    exact fails_fail _ _
  | suspend =>
    show Fails source.suspend
    unfold AvdtpSource.suspend
    rw [if_pos (by rw [h]; decide)]
    exact fails_fail _ _
  | close =>
    show Fails source.close
    unfold AvdtpSource.close
    rw [if_pos (by rw [h]; decide)]
    exact fails_fail _ _

theorem AvdtpSourceState.Awaits.of_reads {state : AvdtpSourceState} {signal : UInt8}
    (h : state.Awaits signal) (hw : state.Waits)
    (hr : signal = avdtpSignalDiscover ∨ IsCapabilityQuery signal) :
    state = .discoverSent ∧ signal = avdtpSignalDiscover ∨
      state = .capabilitiesSent ∧ IsCapabilityQuery signal := by
  cases state
  case discoverSent => exact .inl ⟨rfl, h⟩
  case capabilitiesSent => exact .inr ⟨rfl, h⟩
  case configurationSent | openSent | startSent | suspendSent | closeSent =>
    rw [show signal = _ from h] at hr
    exact absurd hr (by decide)
  all_goals exact hw.elim

theorem fails_of_not_readsWhole {source : AvdtpSource} (hw : source.state.Waits)
    (hp : source.Pending) {payload : List UInt8}
    (h : ¬ source.pendingCommand.ReadsWhole payload) : Fails (source.handleAccept payload) := by
  have hreads : source.pendingSignalId = avdtpSignalDiscover ∨
      IsCapabilityQuery source.pendingSignalId := by
    by_contra hother
    rw [not_or] at hother
    exact h ⟨fun hd => absurd hd hother.1, fun hq => absurd hq hother.2⟩
  unfold AvdtpSource.handleAccept
  rcases AvdtpSourceState.Awaits.of_reads hp hw hreads with ⟨hs, hd⟩ | ⟨hs, hq⟩
  · have hodd : payload.length % 2 ≠ 0 := by
      intro heven
      refine h ⟨fun _ => heven, fun hq => ?_⟩
      rw [show source.pendingCommand.signalId = _ from hd] at hq
      exact absurd hq (by decide)
    simp only [hs, AvdtpSource.collectAudioSinks, if_pos hodd, if_true]
    exact fails_fail _ _
  · have hcut : firstLdac payload = .malformed := by
      by_contra hne
      refine h ⟨fun hd => ?_, fun _ => hne⟩
      rw [show source.pendingSignalId = _ from hd] at hq
      exact absurd hq (by decide)
    simp only [hs, AvdtpSource.handleCapabilities, ldacFindInServiceCapabilities_eq, hcut]
    exact fails_fail _ _

theorem fails_of_not_responds (h : Course s)
    (hr : ¬ ∃ command ∈ s.2.outstanding, command.Responds command.ReadsWhole packet) :
    Fails (s.1.handleSignaling packet) := by
  by_cases hw : s.1.state.Waits
  · rw [h.waits hw] at hr
    simp only [List.mem_singleton, exists_eq_left] at hr
    have hlive : ¬ (s.1.state = .failed ∨ s.1.state = .idle ∨ s.1.state = .streaming) := by
      rintro (hs | hs | hs) <;> rw [hs] at hw <;> exact hw
    rcases AvdtpSource.handleSignaling_cases hlive packet with
      ⟨-, e, he⟩ | ⟨hans, hacc, -⟩ | ⟨hacc, ha⟩
    · rw [he]
      exact fails_fail _ _
    · exact absurd ⟨hans, fun h => absurd h hacc⟩ hr
    · rw [ha]
      exact fails_of_not_readsWhole hw h.pending fun hwhole => hr ⟨hacc.answeredBy, fun _ => hwhole⟩
  · obtain ⟨e, he⟩ := AvdtpSource.handleSignaling_of_not_waits hw packet
    rw [he]
    exact fails_fail _ _

/-! ## Entering OPEN -/

namespace AvdtpSource

/-- A state of an open stream. -/
def IsRest (state : AvdtpSourceState) : Prop := state = .open_ ∨ state = .suspendSent

instance (state : AvdtpSourceState) : Decidable (IsRest state) :=
  inferInstanceAs (Decidable (_ ∨ _))

variable {source : AvdtpSource}

theorem sendCommand_not_isRest (h : ¬ IsRest source.state) (signalId : UInt8)
    (payload : List UInt8) : ¬ IsRest (source.sendCommand signalId payload).2.state := by
  unfold sendCommand
  dsimp only
  split_ifs
  · show ¬ IsRest .failed
    decide
  · exact h

theorem queryNextSink_not_isRest (source : AvdtpSource) :
    ¬ IsRest source.queryNextSink.2.state := by
  unfold queryNextSink
  split_ifs
  · show ¬ IsRest .failed
    decide
  · refine sendCommand_not_isRest ?_ _ _
    show ¬ IsRest .capabilitiesSent
    decide

theorem handleReject_not_isRest (source : AvdtpSource) (m : AvdtpMessageType)
    (payload : List UInt8) : ¬ IsRest (source.handleReject m payload).2.state := by
  unfold handleReject
  split_ifs with hall
  · refine sendCommand_not_isRest ?_ _ _
    show ¬ IsRest source.state
    rw [hall.1]
    decide
  · exact queryNextSink_not_isRest _
  · show ¬ IsRest .failed
    decide
  · show ¬ IsRest .failed
    decide

theorem handleCapabilities_not_isRest (source : AvdtpSource) (payload : List UInt8) :
    ¬ IsRest (source.handleCapabilities payload).2.state := by
  have hfailed : ¬ IsRest .failed := by decide
  unfold handleCapabilities
  dsimp only
  split_ifs
  · exact queryNextSink_not_isRest _
  · exact hfailed
  · exact hfailed
  · exact hfailed
  · refine sendCommand_not_isRest ?_ _ _
    show ¬ IsRest .configurationSent
    decide

theorem handleAccept_isRest {payload : List UInt8}
    (h : IsRest (source.handleAccept payload).2.state) :
    source.state = .suspendSent ∧ (source.handleAccept payload).2.state = .open_ := by
  have hfailed : ¬ IsRest .failed := by decide
  unfold handleAccept at h ⊢
  cases hs : source.state <;> rw [hs] at h <;> dsimp only at h ⊢
  case discoverSent =>
    split_ifs at h
    · exact absurd h hfailed
    · refine absurd h (sendCommand_not_isRest ?_ _ _)
      show ¬ IsRest .capabilitiesSent
      decide
  case capabilitiesSent => exact absurd h (handleCapabilities_not_isRest _ _)
  case configurationSent =>
    refine absurd h (sendCommand_not_isRest ?_ _ _)
    show ¬ IsRest .openSent
    decide
  case suspendSent => exact ⟨rfl, rfl⟩
  case openSent | startSent | closeSent => exact absurd h (by decide)
  all_goals exact absurd h hfailed

theorem handleSignaling_isRest {packet : List UInt8}
    (h : IsRest (source.handleSignaling packet).2.state) :
    source.state = .suspendSent ∧ source.pendingCommand.AcceptedBy packet ∧
      (source.handleSignaling packet).2.state = .open_ := by
  have hfailed : ¬ IsRest .failed := by decide
  by_cases hlive : source.state = .failed ∨ source.state = .idle ∨ source.state = .streaming
  · unfold handleSignaling at h
    rw [if_pos hlive] at h
    exact absurd h hfailed
  · rcases handleSignaling_cases hlive packet with ⟨-, e, he⟩ | ⟨-, -, m, hm⟩ | ⟨hacc, ha⟩
    · rw [he] at h
      exact absurd h hfailed
    · rw [hm] at h
      exact absurd h (handleReject_not_isRest _ _ _)
    · rw [ha] at h ⊢
      obtain ⟨hs, ho⟩ := handleAccept_isRest h
      exact ⟨hs, hacc, ho⟩

theorem step_isRest {op : AvdtpSourceOp} (h : IsRest (source.step op).2.state) :
    (source.state = .waitingForMediaChannel ∧ op = .mediaChannelOpened ∧
        (source.step op).2.state = .open_) ∨
      (source.state = .suspendSent ∧ (source.step op).2.state = .open_ ∧
        ∃ packet, op = .packet packet ∧ source.pendingCommand.AcceptedBy packet) ∨
      (source.state = .streaming ∧ op = .suspend ∧ (source.step op).2.state = .suspendSent) := by
  have hfailed : ¬ IsRest .failed := by decide
  have command : ∀ {c : Prop} [Decidable c] {e : Int} {state : AvdtpSourceState} {signal : UInt8}
      {payload : List UInt8}, ¬ IsRest state →
      ¬ IsRest (if c then source.fail e else
        AvdtpSource.sendCommand { source with state := state } signal payload).2.state := by
    intro c _ e state signal payload hs
    split_ifs
    · exact hfailed
    · exact sendCommand_not_isRest hs _ _
  cases op with
  | packet bytes =>
    obtain ⟨hs, hacc, ho⟩ := handleSignaling_isRest h
    exact .inr (.inl ⟨hs, ho, bytes, rfl, hacc⟩)
  | begin_ => exact absurd h (command (by decide))
  | start => exact absurd h (command (by decide))
  | close => exact absurd h (command (by decide))
  | mediaChannelOpened =>
    simp only [step, mediaChannelOpened] at h ⊢
    split_ifs at h ⊢ with hs
    · exact absurd h hfailed
    · exact .inl ⟨not_not.mp hs, trivial, rfl⟩
  | suspend =>
    simp only [step, suspend] at h ⊢
    split_ifs at h ⊢ with hs
    · exact absurd h hfailed
    · refine .inr (.inr ⟨not_not.mp hs, trivial, ?_⟩)
      unfold sendCommand at h ⊢
      dsimp only at h ⊢
      split_ifs at h ⊢
      · exact absurd h hfailed
      · rfl

end AvdtpSource

/-! ## The course of every run -/

/-- What the course of a session promises in a state: which grants lead to OPEN
    and to STREAMING, how OPEN is entered again, that one command at most is
    outstanding, and that FAILED follows every packet that is no response of
    the length `whole` and cannot be left. -/
structure FollowsCourse (whole : AvdtpCommand → List UInt8 → Prop) (s : AvdtpSource × Ledger) :
    Prop where
  opened : s.1.state = .open_ → IsEstablished s.2.grants
  streaming : s.1.state = .streaming →
    ∃ before, IsEstablished before ∧ s.2.grants = before ++ [.accepted avdtpSignalStart]
  entered : ∀ op, (course.next s op).1.state = .open_ →
    (s.1.state = .waitingForMediaChannel ∧ op = .mediaChannelOpened) ∨
      (s.1.state = .suspendSent ∧ ∃ packet, op = .packet packet ∧
        ∃ command ∈ s.2.outstanding, command.signalId = avdtpSignalSuspend ∧
          command.AcceptedBy packet)
  suspending : ∀ op, (course.next s op).1.state = .suspendSent → s.1.state = .streaming
  single : s.2.outstanding.length ≤ 1
  failing : ∀ packet, (¬ ∃ command ∈ s.2.outstanding, command.Responds (whole command) packet) →
    Fails (s.1.handleSignaling packet)
  sink : s.1.state = .failed → ∀ op, Fails (s.1.step op)

theorem Course.follows (h : Course s) :
    FollowsCourse AvdtpCommand.ReadsWhole s where
  opened hs := by
    have hg := h.granted
    rwa [hs] at hg
  streaming hs := by
    have hg := h.granted
    rwa [hs] at hg
  entered op ho := by
    rcases AvdtpSource.step_isRest (.inl ho) with
      ⟨hs, hop, -⟩ | ⟨hs, -, packet, hop, hacc⟩ | ⟨-, -, hs⟩
    · exact .inl ⟨hs, hop⟩
    · have hw : s.1.state.Waits := by
        rw [hs]
        trivial
      have hp := h.pending
      unfold AvdtpSource.Pending at hp
      rw [hs] at hp
      refine .inr ⟨hs, packet, hop, s.1.pendingCommand, ?_, hp, hacc⟩
      rw [h.waits hw]
      exact List.mem_singleton_self _
    · rw [show (s.1.step op).2.state = _ from ho] at hs
      cases hs
  suspending op ho := by
    rcases AvdtpSource.step_isRest (.inr ho) with ⟨-, -, hs⟩ | ⟨-, hs, -⟩ | ⟨hs, -⟩
    · rw [show (s.1.step op).2.state = _ from ho] at hs
      cases hs
    · rw [show (s.1.step op).2.state = _ from ho] at hs
      cases hs
    · exact hs
  single := h.single
  failing packet hr := fails_of_not_responds h hr
  sink hs op := fails_of_failed hs op

/-- **The course of a session**, in every state that any operations and packets
    lead to. -/
theorem avdtpSource_followsCourse (localCapabilities : LdacCapabilities) (localSeid : UInt8)
    (preferredSampleRateHz : UInt32) (ops : List AvdtpSourceOp) :
    FollowsCourse AvdtpCommand.ReadsWhole
      (course.after (.init localCapabilities localSeid preferredSampleRateHz, .empty) ops) := by
  refine Course.follows (course_of_reach ?_)
  exact Reducer.Reach.after (.init ⟨_, _, _, rfl⟩) ops

def openedByPeer : List AvdtpSourceOp :=
  [.begin_, .packet [0x02, 0x01, 0x04, 0x08],
    .packet [0x12, 0x0C, 0x07, 0x0A, 0x00, 0xFF, 0x2D, 0x01, 0x00, 0x00, 0xAA, 0x00, 0x3C, 0x07],
    .packet [0x22, 0x03]]

/-- A response to OPEN with a byte too many does not fail the session. -/
theorem avdtpSource_surplus_byte :
    ¬ ∀ localCapabilities localSeid preferredSampleRateHz ops,
      FollowsCourse AvdtpCommand.HasLength
        (course.after (.init localCapabilities localSeid preferredSampleRateHz, .empty) ops) := by
  intro h
  have hfailing := (h ⟨0x3C, 0x01⟩ 1 96000 openedByPeer).failing [0x32, 0x06, 0x00]
  have hout : (course.after (.init ⟨0x3C, 0x01⟩ 1 96000, .empty) openedByPeer).2.outstanding =
      [⟨3, avdtpSignalOpen⟩] := by decide +kernel
  have hstate : ((course.after (.init ⟨0x3C, 0x01⟩ 1 96000, .empty) openedByPeer).1.handleSignaling
      [0x32, 0x06, 0x00]).2.state = .waitingForMediaChannel := by decide +kernel
  refine absurd (hfailing ?_).1 (by rw [hstate]; decide)
  rw [hout]
  rintro ⟨command, hc, -, hwhole⟩
  rw [List.mem_singleton] at hc
  subst hc
  exact absurd ((hwhole (by decide)).2 (by decide) (by decide)) (by decide)

end NativeLdac.Protocol
