/-
  The configuration session of the agent
  (`agent/v1_transport_configuration_session.cpp`): it opens the signaling
  channel, configures and opens a stream with its media channel, closes the
  stream again, and closes the channel.
-/
import NativeLdac.Agent.TransportHandshake

namespace NativeLdac.Agent

open Protocol

inductive V1TransportConfigurationStage where
  | none | openSignaling | discoverCapabilities | setConfiguration | avdtpOpen | openMedia
  | avdtpClose | closeChannels
deriving DecidableEq, Repr

structure V1TransportConfigurationOptions where
  openTimeoutMs : UInt32 := 10000
  exchangeTimeoutMs : UInt32 := 5000
  mediaOpenTimeoutMs : UInt32 := 10000
  preferredMediaMtu : UInt16 := 1000
  localSeid : UInt8 := 1
  preferredSampleRateHz : UInt32 := 96000
  localCapabilities : LdacCapabilities := ⟨ldacSfAll, ldacCmStereo⟩
deriving DecidableEq, Repr

structure V1TransportConfigurationResult where
  disposition : V1TransportConfigurationDisposition := .invalidConfiguration
  primaryDisposition : V1TransportConfigurationDisposition := .invalidConfiguration
  stage : V1TransportConfigurationStage := .none
  backendError : UInt32 := 0
  cleanupError : UInt32 := 0
  protocolError : Int := 0
  remoteSeid : UInt8 := 0
  configuration : LdacConfiguration := ⟨0, 0⟩
  openAttempts : UInt32 := 0
  signalingExchanges : UInt32 := 0
  incomingMtu : UInt16 := 0
  outgoingMtu : UInt16 := 0
  signalingOpened : Bool := false
  setConfigurationAccepted : Bool := false
  avdtpOpenAccepted : Bool := false
  mediaOpened : Bool := false
  avdtpCloseAccepted : Bool := false
  closeAttempted : Bool := false
  closeSucceeded : Bool := false
deriving DecidableEq, Repr

abbrev ConfigurationSession (Ω : Type) := HandshakeSession V1TransportConfigurationResult Ω

namespace Handshake.Configuration

def optionsAreValid (options : V1TransportConfigurationOptions) : Prop :=
  options.openTimeoutMs ≠ 0 ∧ options.openTimeoutMs ≤ maximumTimeoutMs ∧
    options.exchangeTimeoutMs ≠ 0 ∧ options.exchangeTimeoutMs ≤ maximumTimeoutMs ∧
    options.mediaOpenTimeoutMs ≠ 0 ∧ options.mediaOpenTimeoutMs ≤ maximumTimeoutMs ∧
    options.preferredMediaMtu ≠ 0 ∧ options.localSeid ≠ 0 ∧ options.localSeid ≤ 0x3F ∧
    options.localCapabilities.sampleRates &&& ldacSfAll ≠ 0 ∧
    options.localCapabilities.channelModes &&& ldacCmAll ≠ 0

instance (options : V1TransportConfigurationOptions) : Decidable (optionsAreValid options) :=
  inferInstanceAs (Decidable (_ ∧ _))

def stageForSignal (signal : UInt8) : V1TransportConfigurationStage :=
  if signal = avdtpSignalDiscover ∨ signal = avdtpSignalGetCapabilities ∨
      signal = avdtpSignalGetAllCapabilities then .discoverCapabilities
  else if signal = avdtpSignalSetConfiguration then .setConfiguration
  else if signal = avdtpSignalOpen then .avdtpOpen
  else if signal = avdtpSignalClose then .avdtpClose
  else .none

section
variable {Ω : Type} (backend : V1TransportConfigurationBackend Ω)
  (options : V1TransportConfigurationOptions) (probe : V1TransportCancelProbe Ω)

def setPrimary (disposition : V1TransportConfigurationDisposition)
    (stage : V1TransportConfigurationStage) : Prog (ConfigurationSession Ω) Unit :=
  report fun r => { r with
    primaryDisposition := disposition
    disposition := disposition
    stage := stage }

/-- `SetPrimary` at the stage reached. -/
def setPrimaryHere (disposition : V1TransportConfigurationDisposition) :
    Prog (ConfigurationSession Ω) Unit :=
  report fun r => { r with primaryDisposition := disposition, disposition := disposition }

def finish : Prog (ConfigurationSession Ω) Unit := do
  let opened ← Prog.read (·.result.signalingOpened)
  if opened = false then
    return
  report fun r => { r with closeAttempted := true }
  let answer ← askLogged (backend.closeSignaling 0) fun answer => .closeSignaling answer.ok
  report fun r => { r with closeSucceeded := answer.ok, cleanupError := answer.error }
  if answer.ok = false then
    report fun r => { r with disposition := .cleanupFailure, stage := .closeChannels }

def commandHeader? (action : AvdtpAction) : Option AvdtpHeader :=
  if action.kind ≠ .sendSignaling then none else avdtpParseHeader action.packet

/-- What the reply to a command accepts, in the report. -/
def noteAccepted (signal : UInt8) (next : AvdtpActionKind) (r : V1TransportConfigurationResult) :
    V1TransportConfigurationResult :=
  if signal = avdtpSignalSetConfiguration ∧ next ≠ .error then
    { r with setConfigurationAccepted := true }
  else if signal = avdtpSignalOpen ∧ next ≠ .error then { r with avdtpOpenAccepted := true }
  else if signal = avdtpSignalClose ∧ next = .sessionClosed then
    { r with avdtpCloseAccepted := true }
  else r

/-- Exchange the command of the action and handle the reply; none where the
    source returns `false`. -/
def exchangeAction (action : AvdtpAction) : Prog (ConfigurationSession Ω) (Option AvdtpAction) :=
  match commandHeader? action with
  | none => do
    report fun r => { r with protocolError := avdtpSourceErrorBadPacket }
    setPrimaryHere .protocolFailure
    return none
  | some header => do
    report fun r => { r with stage := stageForSignal header.signalId }
    let cancelled ← isCancelled probe
    if cancelled then
      setPrimaryHere .cancelled
      return none
    report fun r => { r with signalingExchanges := r.signalingExchanges + 1 }
    let answer ← askLogged
      (backend.exchangeSignaling action.packet options.exchangeTimeoutMs 0)
      fun answer => .exchange action.packet answer.reply?
    if answer.ok = false then
      report fun r => { r with backendError := answer.error }
      let cancelled ← isCancelled probe
      setPrimaryHere (failedCall cancelled)
      return none
    let next ← operate (·.handleSignaling answer.response)
    report (noteAccepted header.signalId next.kind)
    if next.kind = .error then
      report fun r => { r with protocolError := next.errorCode }
      setPrimaryHere .protocolFailure
      return none
    return some next

def unexpectedAction (action : AvdtpAction) : Prog (ConfigurationSession Ω) Unit :=
  report fun r => { r with
    protocolError := if action.kind = .error then action.errorCode
      else avdtpSourceErrorUnexpectedResponse }

/-- The session after the negotiation, from the error code that it finds. -/
def openAndClose (error : UInt32) : Prog (ConfigurationSession Ω) Unit := do
  .update fun s => { s with result := { s.result with
    remoteSeid := s.avdtp.remoteSeid
    configuration := s.avdtp.configuration } }
  let cancelled ← isCancelled probe
  if cancelled then
    setPrimary .cancelled .openMedia
    return
  report fun r => { r with stage := .openMedia }
  let media ← askLogged
    (backend.openMedia options.mediaOpenTimeoutMs options.preferredMediaMtu error)
    fun answer => .openMedia answer.ok
  report fun r => { r with incomingMtu := media.incomingMtu, outgoingMtu := media.outgoingMtu }
  if media.ok = false then
    report fun r => { r with backendError := media.error }
    setPrimary .backendFailure .openMedia
    return
  report fun r => { r with mediaOpened := true }
  let opened ← operate AvdtpSource.mediaChannelOpened
  if opened.kind ≠ .sessionOpen then
    report fun r => { r with protocolError := opened.errorCode }
    setPrimary .protocolFailure .openMedia
    return
  let closing ← operate AvdtpSource.close
  match ← exchangeAction backend options probe closing with
  | none => return
  | some closed =>
    if closed.kind ≠ .sessionClosed then
      unexpectedAction closed
      setPrimary .protocolFailure .avdtpClose
    else
      setPrimary .succeeded .avdtpClose

/-- The session on the open channel, up to `Finish`. -/
def configure (error : UInt32) : Prog (ConfigurationSession Ω) Unit := do
  let begun ← operate fun _ => (AvdtpSource.init options.localCapabilities options.localSeid
    options.preferredSampleRateHz).begin_
  match ← whileSending (exchangeAction backend options probe) begun with
  | none => return
  | some action =>
    if action.kind ≠ .openMediaChannel then
      unexpectedAction action
      setPrimaryHere .protocolFailure
    else
      openAndClose backend options probe error

def runV1TransportConfigurationOnce : Prog (ConfigurationSession Ω) Unit := do
  if ¬ optionsAreValid options then
    return
  let cancelled ← isCancelled probe
  if cancelled then
    setPrimary .cancelled .openSignaling
    return
  report fun r => { r with stage := .openSignaling, openAttempts := 1 }
  let opened ← askLogged (backend.openSignaling options.openTimeoutMs 0)
    fun answer => .openSignaling answer.ok
  if opened.ok = false then
    report fun r => { r with backendError := opened.error }
    let cancelled ← isCancelled probe
    setPrimary (failedCall cancelled) .openSignaling
    return
  report fun r => { r with signalingOpened := true }
  configure backend options probe opened.error
  finish backend

end

/-- A session before its run. -/
def start {Ω : Type} (world : Ω) : ConfigurationSession Ω :=
  { world := world, calls := [], result := {}, avdtp := .init ⟨0, 0⟩ 0 0 }

/-! ## Runs -/

/-- The session goes on, on an open channel. -/
structure Going (calls : List HandshakeCall) (r : V1TransportConfigurationResult) : Prop where
  channel : SignalingOpen calls
  opened : r.signalingOpened = true
  unsuccessful : r.primaryDisposition ≠ .succeeded ∧ r.disposition ≠ .succeeded

/-- The body of the session is over: success means that the peer accepted all
    of it. -/
structure Over (calls : List HandshakeCall) (r : V1TransportConfigurationResult) : Prop where
  channel : SignalingOpen calls
  opened : r.signalingOpened = true
  disposition : r.disposition = .succeeded → r.primaryDisposition = .succeeded
  accepted : r.primaryDisposition = .succeeded →
    AcceptedInOrder calls [.accepted avdtpSignalClose]

section
variable {Ω : Type} {backend : V1TransportConfigurationBackend Ω}
  {options : V1TransportConfigurationOptions} {probe : V1TransportCancelProbe Ω}
  {s : ConfigurationSession Ω} {calls : List HandshakeCall} {r : V1TransportConfigurationResult}

theorem Going.over (h : Going calls r) : Over calls r where
  channel := h.channel
  opened := h.opened
  disposition := fun hs => absurd hs h.unsuccessful.2
  accepted := fun hs => absurd hs h.unsuccessful.1

theorem Going.call (h : Going calls r) {call : HandshakeCall} (ho : call.opens = false)
    (hc : call.closes = false) : Going (call :: calls) r :=
  { h with channel := h.channel.call ho hc }

theorem Going.report {r r' : V1TransportConfigurationResult} (h : Going calls r)
    (hr : r'.signalingOpened = r.signalingOpened)
    (hp : r'.primaryDisposition ≠ .succeeded ∧ r'.disposition ≠ .succeeded) :
    Going calls r' where
  channel := h.channel
  opened := hr.trans h.opened
  unsuccessful := hp

theorem noteAccepted_signalingOpened (signal : UInt8) (next : AvdtpActionKind)
    (r : V1TransportConfigurationResult) :
    (noteAccepted signal next r).signalingOpened = r.signalingOpened := by
  unfold noteAccepted
  split_ifs <;> rfl

theorem noteAccepted_unsuccessful {signal : UInt8} {next : AvdtpActionKind}
    (h : r.primaryDisposition ≠ .succeeded ∧ r.disposition ≠ .succeeded) :
    (noteAccepted signal next r).primaryDisposition ≠ .succeeded ∧
      (noteAccepted signal next r).disposition ≠ .succeeded := by
  unfold noteAccepted
  split_ifs <;> exact h

theorem Going.failed {r r' : V1TransportConfigurationResult} (h : Going calls r)
    (hr : r'.signalingOpened = r.signalingOpened) (hp : r'.primaryDisposition ≠ .succeeded)
    (hd : r'.disposition = r'.primaryDisposition) :
    Going calls r' :=
  h.report hr ⟨hp, hd ▸ hp⟩

theorem spec_exchangeAction (action : AvdtpAction) (h : Going s.calls s.result) :
    Prog.wp (exchangeAction backend options probe action) (fun r s' => Going s'.calls s'.result ∧
      ∀ next, r = some next → Exchanged action s.view next s'.view) (fun _ => False) s := by
  unfold exchangeAction commandHeader?
  by_cases hsends : action.kind = .sendSignaling
  · rw [if_neg (not_not.mpr hsends)]
    cases avdtpParseHeader action.packet with
    | none => exact ⟨h.failed rfl nofun rfl, nofun⟩
    | some header =>
      simp only [Prog.wp_bind, Prog.wp_ite, Prog.wp_pure, wp_report, isCancelled, wp_ask,
        wp_askLogged, wp_operate, setPrimaryHere]
      split_ifs with hcancelled hfailed herror
      · exact ⟨h.failed rfl nofun rfl, nofun⟩
      · exact ⟨.failed (h.call rfl rfl) rfl (failedCall_ne _) rfl, nofun⟩
      · exact ⟨.failed (h.call rfl rfl) (noteAccepted_signalingOpened ..) nofun rfl, nofun⟩
      · rw [Bool.not_eq_false] at hfailed
        refine ⟨.report (h.call rfl rfl) (noteAccepted_signalingOpened ..)
          (noteAccepted_unsuccessful h.unsuccessful), fun next hnext => ?_⟩
        cases hnext
        exact
          { sends := hsends
            reply := ⟨_, congrArg (fun reply => HandshakeCall.exchange _ reply :: _)
              (if_pos hfailed), rfl⟩
            next := herror }
  · rw [if_pos hsends]
    exact ⟨h.failed rfl nofun rfl, nofun⟩

theorem spec_openAndClose {action : AvdtpAction} (error : UInt32) (h : Going s.calls s.result)
    (hn : OnCourse action s.view) :
    Prog.wp (openAndClose backend options probe error) (fun _ s' => Over s'.calls s'.result)
      (fun _ => False) s := by
  unfold openAndClose
  simp only [Prog.wp_bind, Prog.wp_ite, Prog.wp_pure, Prog.wp_update, wp_report, isCancelled,
    wp_ask, wp_askLogged, wp_operate, setPrimary]
  split_ifs with hcancelled hfailed hchannel
  · exact Going.over (h.failed rfl nofun rfl)
  · exact Going.over (.failed (h.call rfl rfl) rfl nofun rfl)
  · exact Going.over (.failed (h.call rfl rfl) rfl nofun rfl)
  · rw [Bool.not_eq_false] at hfailed
    rw [not_not] at hchannel
    have haccepted := hn.mediaChannel hchannel
    refine Prog.wp_mono (spec_exchangeAction _ ?_) (fun r s' hr => ?_) fun _ => id
    · exact .report (h.call rfl rfl) rfl h.unsuccessful
    · obtain ⟨hgoing, hexchanged⟩ := hr
      cases r with
      | none => exact hgoing.over
      | some closed =>
        obtain ⟨hkind, hsteps⟩ := (hexchanged closed rfl).stream (AvdtpSource.close_issued _)
        rw [Prog.wp_ite, if_neg (not_not.mpr hkind)]
        refine { channel := hgoing.channel, opened := hgoing.opened, disposition := fun _ => rfl
                 accepted := fun _ => ?_ }
        have hbefore : AcceptedInOrder _ [] := hfailed ▸ haccepted
        exact hbefore.append hsteps

theorem spec_configure (error : UInt32) (h : Going s.calls s.result)
    (hs : acceptedSteps s.calls = []) :
    Prog.wp (configure backend options probe error) (fun _ s' => Over s'.calls s'.result)
      (fun _ => False) s := by
  unfold configure
  rw [Prog.wp_bind, wp_operate, Prog.wp_bind]
  refine Prog.wp_mono (spec_whileSending (I := fun s => Going s.calls s.result)
    (fun action _ => spec_exchangeAction action) _ _
    ⟨⟨h, .begin_ _ _ _ hs⟩, roundsLeft_begin rfl⟩) (fun r s' hr => ?_) fun _ => id
  obtain ⟨hgoing, honCourse⟩ := hr
  cases r with
  | none => exact hgoing.over
  | some action =>
    rw [Prog.wp_ite]
    split_ifs
    · exact Going.over (hgoing.failed rfl nofun rfl)
    · exact spec_openAndClose error hgoing (honCourse action rfl)

/-- The session is over. -/
abbrev Outcome (s : ConfigurationSession Ω) : Prop :=
  HandshakeOutcome [.accepted avdtpSignalClose] s.calls s.result.primaryDisposition
    s.result.disposition

theorem spec_finish (h : Over s.calls s.result) :
    Prog.wp (finish backend) (fun _ => Outcome) (fun _ => False) s := by
  unfold finish
  simp only [Prog.wp_bind, Prog.wp_read, Prog.wp_ite, Prog.wp_pure, wp_report, wp_askLogged,
    h.opened, Bool.true_eq_false, if_false]
  split_ifs
  · exact ⟨h.channel.close _, fun hs => (h.accepted (hs.resolve_right nofun)).other rfl⟩
  · exact ⟨h.channel.close _, fun hs => (h.accepted (hs.elim id h.disposition)).other rfl⟩

/-- **The configuration session** ends, closes the channel once if it opened it,
    and reports success only for a stream that the peer opened and closed. -/
theorem spec_run (world : Ω) :
    Prog.wp (runV1TransportConfigurationOnce backend options probe) (fun _ => Outcome)
      (fun _ => False) (start world) := by
  unfold runV1TransportConfigurationOnce
  simp only [Prog.wp_bind, Prog.wp_ite, Prog.wp_pure, wp_report, isCancelled, wp_ask,
    wp_askLogged, setPrimary]
  by_cases hvalid : optionsAreValid options
  case neg =>
    rw [if_pos hvalid]
    exact .unopened (.inl rfl) nofun nofun
  rw [if_neg (not_not.mpr hvalid)]
  split_ifs with hcancelled hfailed
  · exact .unopened (.inl rfl) nofun nofun
  · refine .unopened (.inr ?_) (failedCall_ne _) (failedCall_ne _)
    exact congrArg (fun ok => [HandshakeCall.openSignaling ok]) hfailed
  · rw [Bool.not_eq_false] at hfailed
    refine Prog.wp_mono (spec_configure _ ?_ ?_) (fun _ s' => spec_finish) fun _ => id
    · refine { channel := ?_, opened := rfl, unsuccessful := ⟨nofun, nofun⟩ }
      rw [hfailed]
      exact .start
    · rw [hfailed]
      rfl

end

end Handshake.Configuration

end NativeLdac.Agent
