/-
  The endpoint's sink (`agent/v1_endpoint_presence_sink.cpp`) and the poll of the
  render demand over it (`agent/v1_presence_agent.cpp`).

  One property request may be in flight in the whole process.  A request that is
  not completed in time is left to its worker and holds that slot until the
  driver completes it; until then every other request is refused as busy.
-/
import NativeLdac.Agent.RenderDemand
import NativeLdac.Lib.Prog

namespace NativeLdac.Agent

open Prog

variable {Ω α : Type}

/-! ## The endpoint -/

/-- The fields of `NATIVE_LDAC_PCM_INFO` that the sink checks or reads. -/
structure NativeLdacPcmInfo where
  size : UInt32
  abiVersion : UInt32
  capacityBytes : UInt32
  availableBytes : UInt32
  flags : UInt32
  streamEpoch : UInt64
  deriving DecidableEq, Repr

/-- The fields of `NATIVE_LDAC_PRESENCE_STATE` that the sink checks or sets. -/
structure NativeLdacPresenceState where
  size : UInt32
  abiVersion : UInt32
  state : UInt32
  flags : UInt32
  presenceGeneration : UInt64
  deriving DecidableEq, Repr

/-- `sizeof(NATIVE_LDAC_PCM_INFO)` -/
def pcmInfoSize : UInt32 := 64

/-- `sizeof(NATIVE_LDAC_PRESENCE_STATE)` -/
def presenceStateSize : UInt32 := 40

def nativeLdacPcmAbiVersion : UInt32 := 2
def nativeLdacPcmRingCapacityBytes : UInt32 := 48000
def nativeLdacPcmFlagStreamActive : UInt32 := 1
def nativeLdacPresenceStateAbiVersion : UInt32 := 1
def nativeLdacPresenceStateFlagNone : UInt32 := 0
def nativeLdacPresenceAbsent : UInt32 := 0
def nativeLdacPresencePresent : UInt32 := 1

/-- What becomes of a property request. -/
inductive PropertyReply (α : Type) where
  /-- completed in time, with this many bytes -/
  | completed (bytes : UInt32) (value : α)
  /-- failed in time, or could not be handed to a worker -/
  | failed (error : UInt32)
  /-- the wait timed out; the request goes on -/
  | hung
  /-- the wait failed; the request goes on -/
  | waitFailed (error : UInt32)

inductive AudioInterface where
  | skipped
  | refused (error : UInt32)
  | opened

/-- The endpoint's driver and the enumeration of devices. -/
structure EndpointEnvironment (Ω : Type) where
  /-- the request that was left to its worker is completed by now -/
  settles : Ω → Bool × Ω
  queryInfo : Ω → PropertyReply NativeLdacPcmInfo × Ω
  queryPresence : Ω → PropertyReply NativeLdacPresenceState × Ω
  setPresence : NativeLdacPresenceState → Ω → PropertyReply Unit × Ω
  /-- the present audio interfaces, and the error that ends their enumeration if it is not
      `ERROR_NO_MORE_ITEMS` -/
  enumerate : Ω → Except UInt32 (List AudioInterface × Option UInt32) × Ω

/-- The agent with its sink. -/
structure EndpointStage (Ω : Type) where
  world : Ω
  agent : RenderAgent
  /-- `device_` is a handle -/
  isOpen : Bool
  inFlight : Bool

abbrev EndpointProgram (Ω α : Type) := Prog (EndpointStage Ω) α

namespace V1EndpointPresenceSink

def errorSuccess : UInt32 := 0
def errorInvalidData : UInt32 := 13
def errorNotSupported : UInt32 := 50
def errorInvalidParameter : UInt32 := 87
def errorBusy : UInt32 := 170
def errorNotFound : UInt32 := 1168
def errorDeviceNotConnected : UInt32 := 1167
def errorTimeout : UInt32 := 1460
def errorInvalidState : UInt32 := 5023

variable (env : EndpointEnvironment Ω)

/-! ## Requests -/

/-- The slot is free, or the request that holds it is completed by now; with the world
    after that was found out. -/
def slotFree (s : EndpointStage Ω) : Bool × Ω :=
  if s.inFlight then env.settles s.world else (true, s.world)

/-- The exchange of the slot: it is held afterwards, by this request or by the earlier one. -/
def takeSlot : EndpointProgram Ω Bool :=
  Prog.step fun s => ((slotFree env s).1,
    { s with world := (slotFree env s).2, inFlight := true })

/-- `ReleaseEndpointPropertyIo` of the last reference -/
def releaseSlot : EndpointProgram Ω Unit := Prog.update fun s => { s with inFlight := false }

def ask (call : Ω → α × Ω) : EndpointProgram Ω α :=
  Prog.step fun s => ((call s.world).1, { s with world := (call s.world).2 })

/-- `RunEndpointPropertyIoctl` on a handle, for the request `call`, with what it returns and
    the bytes of it. -/
def runEndpointPropertyIoctl (call : Ω → PropertyReply α × Ω) :
    EndpointProgram Ω (Except UInt32 (UInt32 × α)) := do
  if ¬ (← takeSlot env) then
    return .error errorBusy
  else
    match ← ask call with
    | .completed bytes value =>
      releaseSlot
      return .ok (bytes, value)
    | .failed e =>
      releaseSlot
      return .error e
    -- the worker has the other reference
    | .hung => return .error errorTimeout
    | .waitFailed e => return .error e

/-! ## The sink -/

/-- What `IsNativeLdacEndpoint` asks of the info. -/
def IsEndpointInfo (bytes : UInt32) (info : NativeLdacPcmInfo) : Prop :=
  bytes ≥ pcmInfoSize ∧ info.size = pcmInfoSize ∧ info.abiVersion = nativeLdacPcmAbiVersion

instance (bytes : UInt32) (info : NativeLdacPcmInfo) : Decidable (IsEndpointInfo bytes info) :=
  inferInstanceAs (Decidable (_ ∧ _))

/-- What `IsNativeLdacEndpoint` asks of the presence. -/
def IsEndpointPresence (bytes : UInt32) (presence : NativeLdacPresenceState) : Prop :=
  bytes ≥ presenceStateSize ∧ presence.size = presenceStateSize ∧
    presence.abiVersion = nativeLdacPresenceStateAbiVersion

instance (bytes : UInt32) (presence : NativeLdacPresenceState) :
    Decidable (IsEndpointPresence bytes presence) :=
  inferInstanceAs (Decidable (_ ∧ _))

/-- `IsNativeLdacEndpoint` of the candidate; an error is the last error that it leaves. -/
def isNativeLdacEndpoint : EndpointProgram Ω (Except UInt32 Unit) := do
  match ← runEndpointPropertyIoctl env env.queryInfo with
  | .error e => return .error e
  | .ok (bytes, info) =>
    if ¬ IsEndpointInfo bytes info then
      return .error errorSuccess
    else
      match ← runEndpointPropertyIoctl env env.queryPresence with
      | .error e => return .error e
      | .ok (bytes, presence) =>
        return if IsEndpointPresence bytes presence then .ok () else .error errorSuccess

def close : EndpointProgram Ω Unit := Prog.update fun s => { s with isOpen := false }

/-- The loop of `OpenForInstanceId` over the interfaces. -/
def openCandidates (ended : Option UInt32) :
    List AudioInterface → UInt32 → EndpointProgram Ω (Except UInt32 Unit)
  | [], finalError => return .error (ended.getD finalError)
  | .skipped :: rest, finalError => openCandidates ended rest finalError
  | .refused e :: rest, _ => openCandidates ended rest e
  | .opened :: rest, _ => do
    match ← isNativeLdacEndpoint env with
    | .ok () =>
      Prog.update fun s => { s with isOpen := true }
      return .ok ()
    | .error e =>
      openCandidates ended rest (if e = errorSuccess then errorNotSupported else e)

/-- `OpenForInstanceId` for the empty id, as `Open` calls it -/
def openForInstanceId : EndpointProgram Ω (Except UInt32 Unit) := do
  close
  match ← ask env.enumerate with
  | .error e => return .error e
  | .ok (interfaces, ended) => openCandidates env ended interfaces errorNotFound

def query : EndpointProgram Ω (Except UInt32 NativeLdacPresenceState) := do
  if ¬ (← Prog.read (·.isOpen)) then
    return .error errorInvalidParameter
  else
    match ← runEndpointPropertyIoctl env env.queryPresence with
    | .error e => return .error e
    | .ok (bytes, presence) =>
      return if IsEndpointPresence bytes presence ∧
          presence.flags = nativeLdacPresenceStateFlagNone ∧
          presence.state ≤ nativeLdacPresencePresent then .ok presence
        else .error errorInvalidData

def set (present : Bool) (presenceGeneration : UInt64) :
    EndpointProgram Ω (Except UInt32 Unit) := do
  if ¬ (← Prog.read (·.isOpen)) ∨ presenceGeneration = 0 then
    return .error errorInvalidState
  else
    let state : NativeLdacPresenceState :=
      { size := presenceStateSize
        abiVersion := nativeLdacPresenceStateAbiVersion
        state := if present then nativeLdacPresencePresent else nativeLdacPresenceAbsent
        flags := nativeLdacPresenceStateFlagNone
        presenceGeneration := presenceGeneration }
    match ← runEndpointPropertyIoctl env (env.setPresence state) with
    | .error e => return .error e
    | .ok _ =>
      match ← query env with
      | .error e => return .error e
      | .ok observed =>
        return if observed.state = state.state ∧
            observed.presenceGeneration = presenceGeneration then .ok ()
          else .error errorInvalidData

/-- What `QueryRenderActive` asks of the info. -/
def IsRenderInfo (bytes : UInt32) (info : NativeLdacPcmInfo) : Prop :=
  IsEndpointInfo bytes info ∧ info.capacityBytes = nativeLdacPcmRingCapacityBytes ∧
    info.availableBytes ≤ info.capacityBytes

instance (bytes : UInt32) (info : NativeLdacPcmInfo) : Decidable (IsRenderInfo bytes info) :=
  inferInstanceAs (Decidable (_ ∧ _))

/-- `QueryRenderActive`, with the stream's epoch -/
def queryRenderActive : EndpointProgram Ω (Except UInt32 (Bool × UInt64)) := do
  if ¬ (← Prog.read (·.isOpen)) then
    return .error errorInvalidParameter
  else
    match ← runEndpointPropertyIoctl env env.queryInfo with
    | .error e => return .error e
    | .ok (bytes, info) =>
      return if IsRenderInfo bytes info then
          .ok (info.flags &&& nativeLdacPcmFlagStreamActive ≠ 0, info.streamEpoch)
        else .error errorInvalidData

end V1EndpointPresenceSink

/-! ## The agent -/

open V1EndpointPresenceSink

variable (env : EndpointEnvironment Ω)

def kMaximumRebindAttempts : Nat := 30

/-- One round of `RebindEndpointPresenceLease`. -/
def rebindAttempt (generation : UInt64) : EndpointProgram Ω (Except UInt32 Unit) := do
  match ← openForInstanceId env with
  | .error e => return .error e
  | .ok () => set env true generation

/-- The rounds of `RebindEndpointPresenceLease`. -/
def rebindAttempts (generation : UInt64) : Nat → UInt32 → EndpointProgram Ω (Except UInt32 Unit)
  | 0, lastError => return .error lastError
  | n + 1, _ => do
    match ← rebindAttempt env generation with
    | .ok () => return .ok ()
    | .error e =>
      close
      rebindAttempts generation n e

def rebindEndpointPresenceLease (generation : UInt64) :
    EndpointProgram Ω (Except UInt32 Unit) := do
  if generation = 0 then
    return .error V1EndpointPresenceSink.errorInvalidParameter
  else
    close
    rebindAttempts env generation kMaximumRebindAttempts errorDeviceNotConnected

/-- The sample is unknown, no engine or media session owns the endpoint, and it is
    time to open it again. -/
def RecoversEndpoint (agent : RenderAgent) (now : UInt64) : Except UInt32 (Bool × UInt64) → Prop
  | .ok _ => False
  | .error e => e ∈ transientQueryErrors ∧ agent.state.lifecycle.engineLease = .absent ∧
    agent.state.lifecycle.mediaSession = .stopped ∧
    now ≥ agent.state.renderQueryRecoveryNextTick

instance (agent : RenderAgent) (now : UInt64) :
    ∀ sample, Decidable (RecoversEndpoint agent now sample)
  | .ok _ => inferInstanceAs (Decidable False)
  | .error _ => inferInstanceAs (Decidable (_ ∧ _))

/-- `PollRenderDemand` over the sink; none if it returns false. -/
def pollEndpoint (now : UInt64) (media : Option V1MediaSessionSnapshot) :
    EndpointProgram Ω (Option RenderPollResult) := do
  let agent ← Prog.read (·.agent)
  let sample ← queryRenderActive env
  let r := pollRenderDemand agent sample now media
  Prog.update fun s => { s with agent := r.2 }
  Prog.onlyIf (RecoversEndpoint agent now sample) do
    let _ ← rebindEndpointPresenceLease env agent.state.lifecycle.aclGeneration
  return r.1

/-! ## Runs -/

inductive EndpointStep where
  | poll (media : Option V1MediaSessionSnapshot) (now : UInt64)
  | classify (now : UInt64)
  | acl (connected : Bool)
  | lifecycle (event : V1LifecycleEvent)
  /-- the heartbeat of the presence, and its release -/
  | presence (present : Bool)
  | openSink
  /-- the endpoint after a handoff -/
  | rebind

/-- The agent as a machine; it puts out what a poll returns. -/
def endpointAgent : Reducer (EndpointStage Ω) EndpointStep (Option (Option RenderPollResult)) where
  step s
    | .poll media now => pollEndpoint env now media s
    | .classify now => (none, { s with agent := (classifyRenderStop s.agent now).2 })
    | .acl connected => (none, { s with agent := (handleAclEvent s.agent connected).2 })
    | .lifecycle event => (none, { s with agent := (s.agent.reduce event).2 })
    | .presence present =>
      (none, (set env present s.agent.state.lifecycle.aclGeneration s).2)
    | .openSink => (none, (openForInstanceId env s).2)
    | .rebind =>
      (none, (rebindEndpointPresenceLease env s.agent.state.lifecycle.aclGeneration s).2)

/-- The agent has the lifecycle and the tracker that it had. -/
def RenderAgent.SameDemand (agent agent' : RenderAgent) : Prop :=
  agent'.state.lifecycle = agent.state.lifecycle ∧
    agent'.state.renderTracker = agent.state.renderTracker

/-- A poll does not return false, and if it gets no valid sample it leaves the
    lifecycle and the tracker unchanged. -/
def PollSurvives (s : EndpointStage Ω) : EndpointStep → Prop
  | .poll media now =>
    (∃ result, (pollEndpoint env now media s).1 = some (some result)) ∧
      ((∃ sample, (queryRenderActive env s).1 = some (.ok sample)) ∨
        s.agent.SameDemand (pollEndpoint env now media s).2.agent)
  | _ => True

/-- What the poll can do with the answer to its request. -/
def Tolerable : PropertyReply NativeLdacPcmInfo → Prop
  | .completed bytes info => IsRenderInfo bytes info
  | .failed e | .waitFailed e => e ∈ transientQueryErrors
  | .hung => True

/-- At a poll: the sink has a handle, no earlier request holds the slot, and the
    request hangs, completes with valid info, or fails with a transient error. -/
def Requestable (s : EndpointStage Ω) : EndpointStep → Prop
  | .poll _ _ => s.isOpen ∧ (slotFree env s).1 ∧ Tolerable (env.queryInfo (slotFree env s).2).1
  | _ => True

/-! ## The agent's state -/

section
variable {env}

theorem runEndpointPropertyIoctl_quiet (call : Ω → PropertyReply α × Ω) :
    Prog.Quiet EndpointStage.agent (runEndpointPropertyIoctl env call) := by
  refine .bind (.step fun _ => rfl) fun free => .ite (.pure _) ?_
  refine .bind (.step fun _ => rfl) fun reply => ?_
  cases reply with
  | completed bytes value => exact .bind (.update fun _ => rfl) fun _ => .pure _
  | failed e => exact .bind (.update fun _ => rfl) fun _ => .pure _
  | hung => exact .pure _
  | waitFailed e => exact .pure _

theorem isNativeLdacEndpoint_quiet : Prog.Quiet EndpointStage.agent (isNativeLdacEndpoint env) := by
  refine .bind (runEndpointPropertyIoctl_quiet _) fun info => ?_
  rcases info with e | ⟨bytes, info⟩
  · exact .pure _
  refine .ite (.pure _) (.bind (runEndpointPropertyIoctl_quiet _) fun presence => ?_)
  rcases presence with e | ⟨bytes, presence⟩
  · exact .pure _
  · exact .pure _

theorem openCandidates_quiet (ended : Option UInt32) (interfaces : List AudioInterface)
    (finalError : UInt32) :
    Prog.Quiet EndpointStage.agent (openCandidates env ended interfaces finalError) := by
  induction interfaces generalizing finalError with
  | nil => exact .pure _
  | cons found rest ih =>
    cases found with
    | skipped => exact ih finalError
    | refused e => exact ih e
    | opened =>
      refine .bind isNativeLdacEndpoint_quiet fun r => ?_
      rcases r with e | _
      · exact ih _
      · exact .bind (.update fun _ => rfl) fun _ => .pure _

theorem openForInstanceId_quiet : Prog.Quiet EndpointStage.agent (openForInstanceId env) := by
  refine .bind (.update fun _ => rfl) fun _ => .bind (.step fun _ => rfl) fun found => ?_
  rcases found with e | ⟨interfaces, ended⟩
  · exact .pure _
  · exact openCandidates_quiet ended interfaces _

theorem query_quiet : Prog.Quiet EndpointStage.agent (query env) := by
  refine .bind (.read _) fun isOpen => .ite (.pure _) ?_
  refine .bind (runEndpointPropertyIoctl_quiet _) fun presence => ?_
  rcases presence with e | ⟨bytes, presence⟩
  · exact .pure _
  · exact .pure _

theorem set_quiet (present : Bool) (generation : UInt64) :
    Prog.Quiet EndpointStage.agent (set env present generation) := by
  refine .bind (.read _) fun isOpen => .ite (.pure _) ?_
  refine .bind (runEndpointPropertyIoctl_quiet _) fun r => ?_
  rcases r with e | _
  · exact .pure _
  refine .bind query_quiet fun observed => ?_
  rcases observed with e | observed
  · exact .pure _
  · exact .pure _

theorem rebindAttempts_quiet (generation : UInt64) (n : Nat) (lastError : UInt32) :
    Prog.Quiet EndpointStage.agent (rebindAttempts env generation n lastError) := by
  have hattempt : Prog.Quiet EndpointStage.agent (rebindAttempt env generation) := by
    refine .bind openForInstanceId_quiet fun opened => ?_
    rcases opened with e | _
    · exact .pure _
    · exact set_quiet true generation
  induction n generalizing lastError with
  | zero => exact .pure _
  | succ n ih =>
    refine .bind hattempt fun r => ?_
    rcases r with e | _
    · exact .bind (.update fun _ => rfl) fun _ => ih e
    · exact .pure _

theorem rebindEndpointPresenceLease_quiet (generation : UInt64) :
    Prog.Quiet EndpointStage.agent (rebindEndpointPresenceLease env generation) :=
  .ite (.pure _) (.bind (.update fun _ => rfl) fun _ => rebindAttempts_quiet generation _ _)

/-! ## The poll -/

/-- The poll can go on with the sample. -/
def Unfatal : Except UInt32 (Bool × UInt64) → Prop
  | .ok _ => True
  | .error e => e ∈ transientQueryErrors

instance : ∀ sample, Decidable (Unfatal sample)
  | .ok _ => inferInstanceAs (Decidable True)
  | .error _ => inferInstanceAs (Decidable (_ ∈ transientQueryErrors))

variable (env) in
theorem queryRenderActive_unfatal (s : EndpointStage Ω) (media : Option V1MediaSessionSnapshot)
    (now : UInt64) :
    wp (queryRenderActive env) (fun sample _ => Unfatal sample ↔ Requestable env s (.poll media now))
      (fun _ => False) s := by
  simp only [queryRenderActive, wp_bind, wp_read, wp_ite, wp_pure]
  split_ifs with hopen
  · simp only [runEndpointPropertyIoctl, takeSlot, ask, releaseSlot, wp_bind, wp_step, wp_ite,
      wp_pure]
    split_ifs with hfree
    · simp only [Requestable, hopen, hfree, true_and]
      cases (env.queryInfo (slotFree env s).2).1 with
      | completed bytes info =>
        simp only [wp_bind, wp_update, wp_pure, Tolerable]
        split_ifs with hinfo
        · exact iff_of_true trivial hinfo
        · exact iff_of_false (by decide) hinfo
      | failed e => exact Iff.rfl
      | waitFailed e => exact Iff.rfl
      | hung => exact iff_of_true (by decide) trivial
    · exact iff_of_false (by decide) fun h => hfree h.2.1
  · exact iff_of_false (by decide) fun h => hopen h.1

theorem pollRenderDemand_isSome (agent : RenderAgent) (sample : Except UInt32 (Bool × UInt64))
    (now : UInt64) (media : Option V1MediaSessionSnapshot) :
    (∃ result, (pollRenderDemand agent sample now media).1 = some result) ↔ Unfatal sample := by
  rcases sample with e | ⟨active, epoch⟩
  · simp only [pollRenderDemand, Unfatal]
    split_ifs with hlisted hdue
    · exact iff_of_true ⟨_, rfl⟩ hlisted
    · exact iff_of_true ⟨_, rfl⟩ hlisted
    · refine iff_of_false ?_ hlisted
      rintro ⟨_, hnone⟩
      cases hnone
  · refine iff_of_true ?_ trivial
    simp only [pollRenderDemand]
    split
    · exact ⟨_, rfl⟩
    · exact ⟨_, rfl⟩
    · exact ⟨_, rfl⟩

theorem pollRenderDemand_error (agent : RenderAgent) (e : UInt32) (now : UInt64)
    (media : Option V1MediaSessionSnapshot) :
    agent.SameDemand (pollRenderDemand agent (.error e) now media).2 := by
  simp only [pollRenderDemand]
  split_ifs
  · exact ⟨rfl, rfl⟩
  · exact ⟨rfl, rfl⟩
  · exact ⟨rfl, rfl⟩

theorem pollEndpoint_sampled {s s' : EndpointStage Ω} {sample : Except UInt32 (Bool × UInt64)}
    (hrun : queryRenderActive env s = (some sample, s')) (media : Option V1MediaSessionSnapshot)
    (now : UInt64) :
    wp (pollEndpoint env now media)
      (fun r s' => r = (pollRenderDemand s.agent sample now media).1 ∧
        s'.agent = (pollRenderDemand s.agent sample now media).2) (fun _ => False) s := by
  have hsampled : ∀ Q, wp (queryRenderActive env) Q (fun _ => False) s ↔ Q sample s' := by
    intro Q
    simp only [wp, hrun]
  have hreopen : ∀ generation, Triple
      (fun s' => s'.agent = (pollRenderDemand s.agent sample now media).2)
      (rebindEndpointPresenceLease env generation)
      (fun _ s' => s'.agent = (pollRenderDemand s.agent sample now media).2) (fun _ => False) :=
    fun generation => Triple.quiet (p := (· = (pollRenderDemand s.agent sample now media).2))
      (rebindEndpointPresenceLease_quiet generation)
  simp only [pollEndpoint, wp_bind, wp_read, hsampled, wp_update, wp_onlyIf, wp_pure]
  by_cases hrecovers : RecoversEndpoint s.agent now sample
  · rw [if_pos hrecovers]
    exact wp_mono (hreopen _ _ rfl) (fun _ _ hagent => ⟨rfl, hagent⟩) fun _ => id
  · rw [if_neg hrecovers]
    exact ⟨trivial, trivial⟩

theorem pollSurvives_iff (s : EndpointStage Ω) (step : EndpointStep) :
    PollSurvives env s step ↔ Requestable env s step := by
  cases step with
  | poll media now =>
    obtain ⟨sample, s₁, hrun, hunfatal⟩ := wp_run (queryRenderActive_unfatal env s media now)
    obtain ⟨r, s₂, hpoll, hr, hagent⟩ := wp_run (pollEndpoint_sampled hrun media now)
    rw [← hunfatal, ← pollRenderDemand_isSome s.agent sample now media, ← hr]
    simp only [PollSurvives, hpoll, hrun, Option.some.injEq]
    refine ⟨And.left, fun hresult => ⟨hresult, ?_⟩⟩
    rcases sample with e | sample
    · rw [hagent]
      exact .inr (pollRenderDemand_error s.agent e now media)
    · exact .inl ⟨sample, rfl⟩
  | _ => exact Iff.rfl

/-! ## A failed reopening -/

theorem rebindAttempts_closed (generation : UInt64) (n : Nat) (lastError : UInt32) :
    Triple (fun s => s.isOpen = false) (rebindAttempts env generation n lastError)
      (fun r s => r ≠ .ok () → s.isOpen = false) (fun _ => True) := by
  induction n generalizing lastError with
  | zero => exact .pure fun _ h _ => h
  | succ n ih =>
    refine .bind (Q := fun _ _ => True) ?_ fun r => ?_
    · intro s _
      rcases rebindAttempt env generation s with ⟨_ | _, _⟩
      · trivial
      · trivial
    · rcases r with e | _
      · exact .bind (.update fun _ _ => rfl) fun _ => ih e
      · exact .pure fun _ _ h => absurd rfl h

theorem rebind_failed_fatal {generation : UInt64} (hg : generation ≠ 0) {e : UInt32}
    {s s' : EndpointStage Ω}
    (hrun : rebindEndpointPresenceLease env generation s = (some (.error e), s'))
    (media : Option V1MediaSessionSnapshot) (now : UInt64) :
    ¬ PollSurvives env s' (.poll media now) := by
  have hclosed : Triple (fun _ => True) (rebindEndpointPresenceLease env generation)
      (fun r s => r ≠ .ok () → s.isOpen = false) (fun _ => True) :=
    .ite (fun h => absurd h hg) fun _ =>
      .bind (.update fun _ _ => rfl) fun _ => rebindAttempts_closed generation _ _
  have hclosed : s'.isOpen = false := Triple.returns hrun hclosed trivial (by simp)
  rw [pollSurvives_iff]
  rintro ⟨hopen, -⟩
  rw [hclosed] at hopen
  cases hopen

end

/-- **No poll of a run is fatal**, just if at each of them the sink has a handle, no
    earlier request holds the slot, and the request itself can be tolerated. -/
theorem EndpointStage.polls_survive (env : EndpointEnvironment Ω) (s : EndpointStage Ω)
    (steps : List EndpointStep) :
    (endpointAgent env).Along (PollSurvives env) s steps ↔
      (endpointAgent env).Along (Requestable env) s steps :=
  Reducer.along_congr (P := fun _ => True) (Q := fun _ _ => True) (fun _ _ _ _ _ => trivial)
    (fun s step _ _ => pollSurvives_iff s step) trivial
    (Reducer.along_of_forall (fun _ _ => trivial) s steps)

/-- An endpoint that completes so many queries of its info, and then hangs. -/
def hangingEndpoint : EndpointEnvironment Nat where
  settles world := (false, world)
  queryInfo
    | 0 => (.hung, 0)
    | world + 1 => (.completed pcmInfoSize
        { size := pcmInfoSize
          abiVersion := nativeLdacPcmAbiVersion
          capacityBytes := nativeLdacPcmRingCapacityBytes
          availableBytes := 0
          flags := nativeLdacPcmFlagStreamActive
          streamEpoch := 1 }, world)
  queryPresence world := (.completed presenceStateSize
    { size := presenceStateSize
      abiVersion := nativeLdacPresenceStateAbiVersion
      state := nativeLdacPresenceAbsent
      flags := nativeLdacPresenceStateFlagNone
      presenceGeneration := 0 }, world)
  setPresence _ world := (.completed presenceStateSize (), world)
  enumerate world := (.ok ([.opened], none), world)

/-- The sink of an agent that was just started. -/
def EndpointStage.initial (world : Ω) (c : V1LifecycleConfig) (pcmBurst : Bool) :
    EndpointStage Ω where
  world := world
  agent := (RenderRun.initial c pcmBurst).agent
  isOpen := false
  inFlight := false

/-- The media streams, and the request of the last poll hangs. -/
def EndpointStep.streamThenHang : List EndpointStep :=
  [.openSink, .acl true, .poll none 500, .poll none 1000, .lifecycle .engineReady,
    .lifecycle .mediaStarted, .poll none 1500]

/-- The stage after the hung request. -/
def EndpointStage.hanging : EndpointStage Nat :=
  (endpointAgent hangingEndpoint).after (.initial 3 ⟨4, true, true⟩ true)
    EndpointStep.streamThenHang

/-- The poll after the hung request finds the endpoint busy, and returns false. -/
theorem EndpointStage.busy_fatal :
    EndpointStage.hanging.agent.state.lifecycle.mediaSession = .streaming ∧
      ¬ (endpointAgent hangingEndpoint).Along (PollSurvives hangingEndpoint)
        (.initial 3 ⟨4, true, true⟩ true) (EndpointStep.streamThenHang ++ [.poll none 2000]) := by
  refine ⟨by decide +kernel, fun h => ?_⟩
  rw [Reducer.along_append] at h
  obtain ⟨-, ⟨⟨result, hresult⟩, -⟩, -⟩ := h
  have hbusy : (pollEndpoint hangingEndpoint 2000 none EndpointStage.hanging).1 = some none := by
    rfl
  cases hbusy.symm.trans hresult

end NativeLdac.Agent
