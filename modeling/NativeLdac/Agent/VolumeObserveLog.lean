/-
  The observe log of the absolute volume (`agent/avrcp_absolute_volume_observe_log.cpp`): a bounded
  record of what was observed, replayed through the gate that would have acted on it.

  * `recordAvrcpVolumeObserveEvent` and `replayAvrcpVolumeObserveLog`;
  * `RecordedLog`, the invariant of the log: its events take the cursor to where the log says;
  * `observed_next`: a gate that only observes decides nothing;
  * `Consistent`, what the counts and the observations of a snapshot have to do with each other;
  * `replay_recorded`: every log that was recorded is replayed, to a snapshot that is consistent.

  A value outside its enumeration is `none`. The counters are `Nat`: a log has at most 256 events.
-/
import NativeLdac.Agent.Volume
import Mathlib.Data.UInt

namespace NativeLdac.Agent

def avrcpVolumeObserveLogCapacity : Nat := 256

def avrcpVolumeObserveSnapshotSchema : Nat := 1

inductive AvrcpVolumeObserveEventKind where
  | generationStarted | generationEnded | capability | windowsVolumeCallback | xm5Volume
  | ownerLeaseAcquired | ownerLeaseRevoked | modeChanged
  deriving DecidableEq, Repr

inductive AvrcpVolumeObserveStatus where
  | accepted | invalidArgument | invalidEnum | outOfRange | staleGeneration | invalidTransition
  | capacityExceeded | actionViolation
  deriving DecidableEq, Repr

structure AvrcpVolumeObserveEvent where
  sequence : UInt64 := 0
  generation : UInt64 := 0
  kind : Option AvrcpVolumeObserveEventKind := some .generationStarted
  support : Option AvrcpAbsoluteVolumeSupport := some .unknown
  windowsVolume : AvrcpWindowsVolume := {}
  xm5AbsoluteVolume : Nat := 0
  xm5Event : Option AvrcpXm5VolumeEvent := some .commandResponse
  ownerLease : UInt64 := 0
  mode : Option AvrcpAbsoluteVolumeGateMode := some .observeOnly
  deriving DecidableEq, Repr

structure AvrcpVolumeObserveLog where
  events : List AvrcpVolumeObserveEvent := []
  lastGeneration : UInt64 := 0
  generationCurrent : Bool := false
  observedOwnerLease : UInt64 := 0
  deriving DecidableEq, Repr

structure AvrcpVolumeObserveSnapshot where
  schemaVersion : Nat := avrcpVolumeObserveSnapshotSchema
  replayedEventCount : Nat := 0
  lastSequence : UInt64 := 0
  generationsStarted : Nat := 0
  generationsEnded : Nat := 0
  currentGeneration : UInt64 := 0
  generationCurrent : Bool := false
  support : Option AvrcpAbsoluteVolumeSupport := some .unknown
  capabilityEventCount : Nat := 0
  windowsVolumeObserved : Bool := false
  windowsVolume : AvrcpWindowsVolume := {}
  windowsCallbackCount : Nat := 0
  xm5VolumeObserved : Bool := false
  xm5AbsoluteVolume : Nat := 0
  xm5Event : Option AvrcpXm5VolumeEvent := some .commandResponse
  xm5CommandResponseCount : Nat := 0
  xm5RemoteNotificationCount : Nat := 0
  ownerLease : UInt64 := 0
  leaseAcquireCount : Nat := 0
  leaseRevokeCount : Nat := 0
  requestedMode : Option AvrcpAbsoluteVolumeGateMode := some .observeOnly
  modeChangeCount : Nat := 0
  enforcedReplayMode : Option AvrcpAbsoluteVolumeGateMode := some .observeOnly
  emittedActionCount : Nat := 0
  deriving DecidableEq, Repr

/-! ## The recorder -/

structure ObserveCursor where
  lastGeneration : UInt64 := 0
  generationCurrent : Bool := false
  ownerLease : UInt64 := 0
  deriving DecidableEq, Repr

/-- `ValidateAndApplyEvent`: the cursor after the event, or why it is refused. -/
def validateAndApplyEvent (event : AvrcpVolumeObserveEvent) (expectedSequence : UInt64)
    (cursor : ObserveCursor) : Except AvrcpVolumeObserveStatus ObserveCursor :=
  if event.sequence ≠ expectedSequence ∨ event.generation = 0 then .error .invalidArgument
  else if event.kind = none ∨ event.support = none ∨ event.xm5Event = none ∨ event.mode = none then
    .error .invalidEnum
  else if event.windowsVolume.percent > 100 ∨ event.xm5AbsoluteVolume > 127 then
    .error .outOfRange
  else if event.kind = some .generationStarted then
    if ¬ isNewerGeneration event.generation cursor.lastGeneration then .error .staleGeneration
    else .ok
      { lastGeneration := event.generation
        generationCurrent := true
        ownerLease := 0 }
  else if ¬ cursor.generationCurrent ∨ event.generation ≠ cursor.lastGeneration then
    .error .staleGeneration
  else
    match event.kind with
    | some .generationEnded => .ok { cursor with generationCurrent := false, ownerLease := 0 }
    | some .capability | some .windowsVolumeCallback | some .xm5Volume | some .modeChanged =>
      .ok cursor
    | some .ownerLeaseAcquired =>
      if event.ownerLease = 0 then .error .outOfRange
      else if cursor.ownerLease ≠ 0 ∧ cursor.ownerLease ≠ event.ownerLease then
        .error .invalidTransition
      else .ok { cursor with ownerLease := event.ownerLease }
    | some .ownerLeaseRevoked =>
      if event.ownerLease = 0 then .error .outOfRange
      else if cursor.ownerLease ≠ event.ownerLease then .error .invalidTransition
      else .ok { cursor with ownerLease := 0 }
    | some .generationStarted | none => .error .invalidEnum

/-- The cursor after events, the first of which is at the index. -/
def applyEvents : Nat → List AvrcpVolumeObserveEvent → ObserveCursor →
    Except AvrcpVolumeObserveStatus ObserveCursor
  | _, [], cursor => .ok cursor
  | index, event :: events, cursor =>
    match validateAndApplyEvent event (UInt64.ofNat index + 1) cursor with
    | .error status => .error status
    | .ok cursor => applyEvents (index + 1) events cursor

def AvrcpVolumeObserveLog.cursor (log : AvrcpVolumeObserveLog) : ObserveCursor where
  lastGeneration := log.lastGeneration
  generationCurrent := log.generationCurrent
  ownerLease := log.observedOwnerLease

def recordAvrcpVolumeObserveEvent (log : AvrcpVolumeObserveLog) (event : AvrcpVolumeObserveEvent) :
    AvrcpVolumeObserveStatus × AvrcpVolumeObserveLog :=
  if event.sequence ≠ 0 ∨ log.events.length > avrcpVolumeObserveLogCapacity then
    (.invalidArgument, log)
  else
    match applyEvents 0 log.events {} with
    | .error status => (status, log)
    | .ok cursor =>
      if cursor ≠ log.cursor then (.invalidTransition, log)
      else if log.events.length = avrcpVolumeObserveLogCapacity then (.capacityExceeded, log)
      else
        let candidate := { event with sequence := UInt64.ofNat log.events.length + 1 }
        match validateAndApplyEvent candidate candidate.sequence cursor with
        | .error status => (status, log)
        | .ok cursor =>
          (.accepted,
            { events := log.events ++ [candidate]
              lastGeneration := cursor.lastGeneration
              generationCurrent := cursor.generationCurrent
              observedOwnerLease := cursor.ownerLease })

/-! ## The replay -/

def decisionIsEmpty (decision : AvrcpAbsoluteVolumeGateDecision) : Bool :=
  decision.volume.actions = 0 ∧ decision.aclGeneration = 0 ∧ decision.ownerLease = 0 ∧
    decision.authorizationEpoch = 0

def resetCurrentGenerationSnapshot (snapshot : AvrcpVolumeObserveSnapshot) (generation : UInt64) :
    AvrcpVolumeObserveSnapshot :=
  { snapshot with
    currentGeneration := generation
    generationCurrent := true
    support := some .unknown
    windowsVolumeObserved := false
    windowsVolume := {}
    xm5VolumeObserved := false
    xm5AbsoluteVolume := 0
    xm5Event := some .commandResponse
    ownerLease := 0
    requestedMode := some .observeOnly }

/-- The operation of the gate that an event is replayed through. A mode is recorded, never
    enforced. -/
def AvrcpVolumeObserveEvent.gateOp (event : AvrcpVolumeObserveEvent) :
    Option AvrcpAbsoluteVolumeGateOp :=
  match event.kind with
  | some .generationStarted => some (.beginAcl event.generation)
  | some .generationEnded => some (.endAcl event.generation)
  | some .capability => event.support.map (.observeCapability event.generation)
  | some .windowsVolumeCallback => some (.observeWindows event.generation event.windowsVolume)
  | some .xm5Volume =>
    event.xm5Event.map (.observeXm5 event.generation event.xm5AbsoluteVolume)
  | some .ownerLeaseAcquired => some (.acquireLease event.generation event.ownerLease)
  | some .ownerLeaseRevoked => some (.revokeLease event.generation event.ownerLease)
  | some .modeChanged => some (.setMode event.generation .observeOnly)
  | none => none

/-- What an event adds to the snapshot. -/
def AvrcpVolumeObserveSnapshot.observe (next : AvrcpVolumeObserveSnapshot)
    (event : AvrcpVolumeObserveEvent) : AvrcpVolumeObserveSnapshot :=
  match event.kind with
  | some .generationStarted =>
    resetCurrentGenerationSnapshot
      { next with generationsStarted := next.generationsStarted + 1 } event.generation
  | some .generationEnded =>
    { next with
      generationsEnded := next.generationsEnded + 1
      generationCurrent := false
      ownerLease := 0
      requestedMode := some .observeOnly }
  | some .capability =>
    { next with
      support := event.support
      capabilityEventCount := next.capabilityEventCount + 1 }
  | some .windowsVolumeCallback =>
    { next with
      windowsVolumeObserved := true
      windowsVolume := event.windowsVolume
      windowsCallbackCount := next.windowsCallbackCount + 1 }
  | some .xm5Volume =>
    let next := { next with
      xm5VolumeObserved := true
      xm5AbsoluteVolume := event.xm5AbsoluteVolume % 256
      xm5Event := event.xm5Event }
    if event.xm5Event = some .commandResponse then
      { next with xm5CommandResponseCount := next.xm5CommandResponseCount + 1 }
    else { next with xm5RemoteNotificationCount := next.xm5RemoteNotificationCount + 1 }
  | some .ownerLeaseAcquired =>
    { next with
      ownerLease := event.ownerLease
      leaseAcquireCount := next.leaseAcquireCount + 1 }
  | some .ownerLeaseRevoked =>
    { next with
      ownerLease := 0
      leaseRevokeCount := next.leaseRevokeCount + 1 }
  | some .modeChanged =>
    { next with
      requestedMode := event.mode
      modeChangeCount := next.modeChangeCount + 1 }
  | none => next

structure ObserveReplay where
  cursor : ObserveCursor := {}
  gate : AvrcpAbsoluteVolumeGateState := {}
  next : AvrcpVolumeObserveSnapshot := {}

def ObserveReplay.event (s : ObserveReplay) (index : Nat) (event : AvrcpVolumeObserveEvent) :
    Except AvrcpVolumeObserveStatus ObserveReplay :=
  match validateAndApplyEvent event (UInt64.ofNat index + 1) s.cursor with
  | .error status => .error status
  | .ok cursor =>
    let r := match event.gateOp with
      | some op => absoluteVolumeGate.step s.gate op
      | none => ({}, s.gate)
    let next := s.next.observe event
    if ¬ decisionIsEmpty r.1 then .error .actionViolation
    else .ok
      { cursor := cursor
        gate := r.2
        next := { next with
          replayedEventCount := next.replayedEventCount + 1
          lastSequence := event.sequence } }

def ObserveReplay.events : Nat → List AvrcpVolumeObserveEvent → ObserveReplay →
    Except AvrcpVolumeObserveStatus ObserveReplay
  | _, [], s => .ok s
  | index, event :: events, s =>
    match s.event index event with
    | .error status => .error status
    | .ok s => ObserveReplay.events (index + 1) events s

def replayAvrcpVolumeObserveLog (log : AvrcpVolumeObserveLog) :
    Except AvrcpVolumeObserveStatus AvrcpVolumeObserveSnapshot :=
  if log.events.length > avrcpVolumeObserveLogCapacity then .error .invalidArgument
  else
    match ObserveReplay.events 0 log.events {} with
    | .error status => .error status
    | .ok s =>
      if s.cursor ≠ log.cursor then .error .invalidTransition
      else .ok { s.next with emittedActionCount := 0 }

/-! ## One event -/

/-- What the recorder checks of the fields of an event. -/
structure ValidEvent (event : AvrcpVolumeObserveEvent) (expectedSequence : UInt64) : Prop where
  sequence : event.sequence = expectedSequence
  generation : event.generation ≠ 0
  support : event.support ≠ none
  xm5Event : event.xm5Event ≠ none
  mode : event.mode ≠ none
  windowsVolume : event.windowsVolume.percent ≤ 100
  xm5AbsoluteVolume : event.xm5AbsoluteVolume ≤ 127

/-- The cursor after an event that is accepted. -/
inductive EventApplied (event : AvrcpVolumeObserveEvent) (cursor : ObserveCursor) :
    ObserveCursor → Prop
  | started : event.kind = some .generationStarted → EventApplied event cursor
      { lastGeneration := event.generation, generationCurrent := true, ownerLease := 0 }
  | ended : event.kind = some .generationEnded → cursor.generationCurrent = true →
      EventApplied event cursor { cursor with generationCurrent := false, ownerLease := 0 }
  | capability : event.kind = some .capability → cursor.generationCurrent = true →
      EventApplied event cursor cursor
  | windowsVolume : event.kind = some .windowsVolumeCallback → cursor.generationCurrent = true →
      EventApplied event cursor cursor
  | xm5Volume : event.kind = some .xm5Volume → cursor.generationCurrent = true →
      EventApplied event cursor cursor
  | acquired : event.kind = some .ownerLeaseAcquired → cursor.generationCurrent = true →
      event.ownerLease ≠ 0 → EventApplied event cursor { cursor with ownerLease := event.ownerLease }
  | revoked : event.kind = some .ownerLeaseRevoked → cursor.generationCurrent = true →
      cursor.ownerLease ≠ 0 → EventApplied event cursor { cursor with ownerLease := 0 }
  | modeChanged : event.kind = some .modeChanged → cursor.generationCurrent = true →
      EventApplied event cursor cursor

theorem eventApplied {event : AvrcpVolumeObserveEvent} {expectedSequence : UInt64}
    {cursor cursor' : ObserveCursor}
    (h : validateAndApplyEvent event expectedSequence cursor = .ok cursor') :
    ValidEvent event expectedSequence ∧ EventApplied event cursor cursor' := by
  unfold validateAndApplyEvent at h
  split at h
  · cases h
  rename_i hargument
  split at h
  · cases h
  rename_i henum
  split at h
  · cases h
  rename_i hrange
  simp only [not_or, not_not, not_lt] at hargument henum hrange
  refine ⟨⟨hargument.1, hargument.2, henum.2.1, henum.2.2.1, henum.2.2.2, hrange.1, hrange.2⟩, ?_⟩
  split at h
  · rename_i hkind
    split at h
    · cases h
    · cases h
      exact .started hkind
  split at h
  · cases h
  rename_i hcurrent
  simp only [not_or, not_not] at hcurrent
  rcases hkind : event.kind with _ | kind
  · exact absurd hkind henum.1
  rw [hkind] at h
  cases kind with
  | generationStarted => cases h
  | generationEnded => cases h; exact .ended hkind hcurrent.1
  | capability => cases h; exact .capability hkind hcurrent.1
  | windowsVolumeCallback => cases h; exact .windowsVolume hkind hcurrent.1
  | xm5Volume => cases h; exact .xm5Volume hkind hcurrent.1
  | ownerLeaseAcquired =>
    dsimp only at h
    split at h
    · cases h
    rename_i hlease
    split at h
    · cases h
    · cases h
      exact .acquired hkind hcurrent.1 hlease
  | ownerLeaseRevoked =>
    dsimp only at h
    split at h
    · cases h
    rename_i hlease
    split at h
    · cases h
    · rename_i howner
      rw [not_not] at howner
      cases h
      exact .revoked hkind hcurrent.1 (howner ▸ hlease)
  | modeChanged => cases h; exact .modeChanged hkind hcurrent.1

/-! ## The gate that only observes -/

section
variable {gate : AvrcpAbsoluteVolumeGateState}

theorem cannot_synchronize (h : gate.mode = .observeOnly) : gateCanSynchronize gate = false := by
  simp [gateCanSynchronize, h]

theorem activate_observing (h : gate.mode = .observeOnly) :
    (activateGateIfAuthorized gate).1 = {} ∧
      (activateGateIfAuthorized gate).2.mode = .observeOnly := by
  rw [activateGateIfAuthorized, if_pos (.inl (by simp [cannot_synchronize h]))]
  exact ⟨rfl, h⟩

theorem observed_next (h : gate.mode = .observeOnly) {op : AvrcpAbsoluteVolumeGateOp}
    (hop : ∀ g, op ≠ .setMode g .synchronize) :
    absoluteVolumeGate.out gate op = {} ∧ (absoluteVolumeGate.next gate op).mode = .observeOnly := by
  unfold Reducer.out Reducer.next
  cases op with
  | beginAcl g =>
    simp only [absoluteVolumeGate, beginAvrcpAbsoluteVolumeAclGeneration]
    split
    · exact ⟨rfl, h⟩
    · exact ⟨rfl, rfl⟩
  | setMode g mode =>
    simp only [absoluteVolumeGate, setAvrcpAbsoluteVolumeGateMode]
    cases mode with
    | observeOnly =>
      split
      · exact ⟨rfl, h⟩
      · exact ⟨rfl, rfl⟩
    | synchronize => exact absurd rfl (hop g)
  | acquireLease g lease =>
    simp only [absoluteVolumeGate, acquireAvrcpAbsoluteVolumeOwnerLease]
    split
    · exact ⟨rfl, h⟩
    · exact activate_observing h
  | revokeLease g lease =>
    simp only [absoluteVolumeGate, revokeAvrcpAbsoluteVolumeOwnerLease]
    split <;> exact ⟨rfl, h⟩
  | observeCapability g support =>
    simp only [absoluteVolumeGate, observeAvrcpAbsoluteVolumeCapability]
    split
    · exact ⟨rfl, h⟩
    split
    · exact ⟨rfl, h⟩
    · exact activate_observing h
  | observeWindows g volume =>
    simp only [absoluteVolumeGate, observeWindowsEndpointVolumeThroughGate]
    split
    · exact ⟨rfl, h⟩
    · rw [if_pos (by simp [gateCanSynchronize, h])]
      exact ⟨rfl, h⟩
  | observeXm5 g value event =>
    simp only [absoluteVolumeGate, observeXm5AbsoluteVolumeThroughGate]
    split
    · exact ⟨rfl, h⟩
    · rw [if_pos (.inl (by simp [gateCanSynchronize, h]))]
      exact ⟨rfl, h⟩
  | endAcl g =>
    simp only [absoluteVolumeGate, endAvrcpAbsoluteVolumeAclGeneration]
    split
    · exact ⟨rfl, h⟩
    · exact ⟨rfl, rfl⟩

end

theorem gateOp_ne {event : AvrcpVolumeObserveEvent} {op : AvrcpAbsoluteVolumeGateOp}
    (h : event.gateOp = some op) (g : UInt64) : op ≠ .setMode g .synchronize := by
  rintro rfl
  unfold AvrcpVolumeObserveEvent.gateOp at h
  split at h <;> simp at h

/-! ## The snapshot -/

/-- The events of a snapshot, by their kinds. -/
def AvrcpVolumeObserveSnapshot.categorized (next : AvrcpVolumeObserveSnapshot) : Nat :=
  next.generationsStarted + next.generationsEnded + next.capabilityEventCount +
    next.windowsCallbackCount + next.xm5CommandResponseCount + next.xm5RemoteNotificationCount +
    next.leaseAcquireCount + next.leaseRevokeCount + next.modeChangeCount

open AvrcpVolumeObserveSnapshot (categorized observe)

/-- What the counts and the observations of a snapshot have to do with each other, and with the
    cursor of the recorder. -/
structure Consistent (cursor : ObserveCursor) (next : AvrcpVolumeObserveSnapshot) : Prop where
  schema : next.schemaVersion = avrcpVolumeObserveSnapshotSchema
  current : next.generationCurrent = cursor.generationCurrent
  lease : next.ownerLease = cursor.ownerLease
  /-- every event is one of a generation that started -/
  unstarted : next.generationsStarted = 0 → next.categorized = 0
  generation : next.generationsStarted = 0 ↔ next.currentGeneration = 0
  ended : next.generationsEnded + next.generationCurrent.toNat ≤ next.generationsStarted
  finished : next.generationCurrent = false → next.generationsStarted ≠ 0 → next.generationsEnded ≠ 0
  support : next.support ≠ none
  capability : next.support ≠ some .unknown → next.capabilityEventCount ≠ 0
  windows : next.windowsVolumeObserved = true → next.windowsCallbackCount ≠ 0
  percent : next.windowsVolume.percent ≤ 100
  xm5 : next.xm5VolumeObserved = true →
    next.xm5CommandResponseCount ≠ 0 ∨ next.xm5RemoteNotificationCount ≠ 0
  xm5Volume : next.xm5AbsoluteVolume ≤ 127
  xm5Event : next.xm5Event ≠ none
  revoked : next.leaseRevokeCount + (if next.ownerLease = 0 then 0 else 1) ≤ next.leaseAcquireCount
  mode : next.requestedMode ≠ none
  synchronize : next.requestedMode = some .synchronize → next.modeChangeCount ≠ 0
  idle : next.generationCurrent = false →
    next.ownerLease = 0 ∧ next.requestedMode = some .observeOnly
  enforced : next.enforcedReplayMode = some .observeOnly
  emitted : next.emittedActionCount = 0

theorem consistent_empty : Consistent {} {} := by
  constructor <;> simp [categorized]

section
variable {event : AvrcpVolumeObserveEvent} {expectedSequence : UInt64}
variable {cursor cursor' : ObserveCursor} {next : AvrcpVolumeObserveSnapshot}

theorem categorized_observe (h : EventApplied event cursor cursor') :
    (next.observe event).categorized = next.categorized + 1 := by
  cases h with
  | xm5Volume hkind =>
    simp only [observe, hkind]
    split <;> simp only [categorized] <;> omega
  | started hkind | ended hkind | capability hkind | windowsVolume hkind | acquired hkind
  | revoked hkind | modeChanged hkind =>
    simp only [observe, categorized,
      resetCurrentGenerationSnapshot, hkind]
    omega

theorem Consistent.started (h : Consistent cursor next) (hcurrent : cursor.generationCurrent = true) :
    0 < next.generationsStarted := by
  have hended := h.ended
  rw [h.current, hcurrent, Bool.toNat_true] at hended
  omega

theorem Consistent.observe (h : Consistent cursor next) (hvalid : ValidEvent event expectedSequence)
    (happlied : EventApplied event cursor cursor') : Consistent cursor' (next.observe event) := by
  have hended := h.ended
  cases happlied with
  | started hkind =>
    have hle := Bool.toNat_le next.generationCurrent
    simp only [observe, hkind, resetCurrentGenerationSnapshot]
    exact { h with
      current := rfl
      lease := rfl
      unstarted := fun hnone => by simp at hnone
      generation := by simp [hvalid.generation]
      ended := by simp only [Bool.toNat_true]; omega
      finished := fun hover => by cases hover
      support := by simp
      capability := by simp
      windows := by simp
      percent := by simp
      xm5 := by simp
      xm5Volume := by simp
      xm5Event := by simp
      revoked := by
        have hrevoked := h.revoked
        simp only [if_true]
        omega
      mode := by simp
      synchronize := by simp
      idle := by simp }
  | ended hkind hcurrent =>
    have hstarted := h.started hcurrent
    simp only [observe, hkind]
    rw [h.current, hcurrent, Bool.toNat_true] at hended
    exact { h with
      current := rfl
      lease := rfl
      unstarted := fun hnone => by simp only at hnone; omega
      ended := by simp only [Bool.toNat_false]; omega
      finished := by simp
      revoked := by
        have hrevoked := h.revoked
        simp only [if_true]
        omega
      mode := by simp
      synchronize := by simp
      idle := by simp }
  | capability hkind hcurrent =>
    have hstarted := h.started hcurrent
    simp only [observe, hkind]
    exact { h with
      unstarted := fun hnone => by simp only at hnone; omega
      support := hvalid.support
      capability := by simp }
  | windowsVolume hkind hcurrent =>
    have hstarted := h.started hcurrent
    simp only [observe, hkind]
    exact { h with
      unstarted := fun hnone => by simp only at hnone; omega
      windows := by simp
      percent := hvalid.windowsVolume }
  | xm5Volume hkind hcurrent =>
    have hstarted := h.started hcurrent
    have hrange := hvalid.xm5AbsoluteVolume
    simp only [observe, hkind]
    split
    · exact { h with
        unstarted := fun hnone => by simp only at hnone; omega
        xm5 := by simp
        xm5Volume := by simp only; omega
        xm5Event := hvalid.xm5Event }
    · exact { h with
        unstarted := fun hnone => by simp only at hnone; omega
        xm5 := by simp
        xm5Volume := by simp only; omega
        xm5Event := hvalid.xm5Event }
  | acquired hkind hcurrent hlease =>
    have hstarted := h.started hcurrent
    have hrevoked := h.revoked
    simp only [observe, hkind]
    exact { h with
      lease := rfl
      unstarted := fun hnone => by simp only at hnone; omega
      revoked := by simp only [hlease, if_false]; omega
      idle := fun hidle => by rw [h.current, hcurrent] at hidle; cases hidle }
  | revoked hkind hcurrent hlease =>
    have hstarted := h.started hcurrent
    have hrevoked := h.revoked
    rw [h.lease, if_neg hlease] at hrevoked
    simp only [observe, hkind]
    exact { h with
      lease := rfl
      unstarted := fun hnone => by simp only at hnone; omega
      revoked := by simp only [if_true]; omega
      idle := fun hidle => by rw [h.current, hcurrent] at hidle; cases hidle }
  | modeChanged hkind hcurrent =>
    have hstarted := h.started hcurrent
    simp only [observe, hkind]
    exact { h with
      unstarted := fun hnone => by simp only at hnone; omega
      mode := hvalid.mode
      synchronize := by simp
      idle := fun hidle => by rw [h.current, hcurrent] at hidle; cases hidle }

end

/-! ## The replay of a log -/

/-- The replay after `n` events. -/
structure Replayed (n : Nat) (s : ObserveReplay) : Prop where
  observing : s.gate.mode = .observeOnly
  consistent : Consistent s.cursor s.next
  count : s.next.replayedEventCount = n
  categorized : s.next.categorized = n
  sequence : s.next.lastSequence = UInt64.ofNat n

theorem replayed_empty : Replayed 0 {} := ⟨rfl, consistent_empty, rfl, rfl, rfl⟩

theorem observe_count (next : AvrcpVolumeObserveSnapshot) (event : AvrcpVolumeObserveEvent) :
    (next.observe event).replayedEventCount = next.replayedEventCount := by
  unfold observe
  split
  case h_5 =>
    dsimp only
    split <;> rfl
  all_goals rfl

theorem Replayed.event {n : Nat} {s : ObserveReplay} (h : Replayed n s)
    {event : AvrcpVolumeObserveEvent} {cursor' : ObserveCursor}
    (hvalid : validateAndApplyEvent event (UInt64.ofNat n + 1) s.cursor = .ok cursor') :
    ∃ s', s.event n event = .ok s' ∧ s'.cursor = cursor' ∧ Replayed (n + 1) s' := by
  obtain ⟨hfields, happlied⟩ := eventApplied hvalid
  have hconsistent := h.consistent.observe hfields happlied
  have hgate : ∃ gate, gate.mode = .observeOnly ∧ (match event.gateOp with
      | some op => absoluteVolumeGate.step s.gate op
      | none => ({}, s.gate)) = ({}, gate) := by
    rcases hop : event.gateOp with _ | op
    · exact ⟨s.gate, h.observing, rfl⟩
    · obtain ⟨hempty, hobserving⟩ := observed_next h.observing (gateOp_ne hop)
      exact ⟨_, hobserving, Prod.ext hempty rfl⟩
  obtain ⟨gate, hobserving, hstep⟩ := hgate
  unfold ObserveReplay.event
  simp only [hvalid, hstep]
  rw [if_neg (by decide)]
  refine ⟨_, rfl, rfl, hobserving, ?_, ?_, ?_, ?_⟩
  · exact { hconsistent with }
  · exact congrArg (· + 1) ((observe_count _ _).trans h.count)
  · exact (categorized_observe happlied).trans (congrArg (· + 1) h.categorized)
  · exact hfields.sequence.trans (UInt64.ofNat_add n 1).symm

theorem Replayed.events {n : Nat} {s : ObserveReplay} (h : Replayed n s)
    {events : List AvrcpVolumeObserveEvent} {cursor' : ObserveCursor}
    (hvalid : applyEvents n events s.cursor = .ok cursor') :
    ∃ s', ObserveReplay.events n events s = .ok s' ∧ s'.cursor = cursor' ∧
      Replayed (n + events.length) s' := by
  induction events generalizing n s with
  | nil =>
    cases hvalid
    exact ⟨s, rfl, rfl, h⟩
  | cons event events ih =>
    simp only [applyEvents] at hvalid
    split at hvalid
    · cases hvalid
    rename_i hevent
    obtain ⟨s₁, hstep, rfl, hreplayed⟩ := h.event hevent
    obtain ⟨s', hrest, hcursor, hend⟩ := ih hreplayed hvalid
    refine ⟨s', ?_, hcursor, ?_⟩
    · simp only [ObserveReplay.events, hstep, hrest]
    · rwa [List.length_cons, Nat.add_comm events.length, ← Nat.add_assoc]

/-! ## The log -/

/-- The recorder as a machine. -/
def observeLog : Reducer AvrcpVolumeObserveLog AvrcpVolumeObserveEvent AvrcpVolumeObserveStatus where
  step := recordAvrcpVolumeObserveEvent

/-- **The invariant of the log**: its events take the cursor to where the log says. -/
structure RecordedLog (log : AvrcpVolumeObserveLog) : Prop where
  capacity : log.events.length ≤ avrcpVolumeObserveLogCapacity
  cursor : applyEvents 0 log.events {} = .ok log.cursor

theorem applyEvents_snoc {index : Nat} {events : List AvrcpVolumeObserveEvent}
    {event : AvrcpVolumeObserveEvent} {cursor cursor₁ cursor₂ : ObserveCursor}
    (h : applyEvents index events cursor = .ok cursor₁)
    (hevent : validateAndApplyEvent event (UInt64.ofNat (index + events.length) + 1) cursor₁ =
      .ok cursor₂) :
    applyEvents index (events ++ [event]) cursor = .ok cursor₂ := by
  induction events generalizing index cursor with
  | nil =>
    cases h
    simp only [List.nil_append, applyEvents]
    rw [List.length_nil, Nat.add_zero] at hevent
    rw [hevent]
  | cons first events ih =>
    simp only [applyEvents] at h
    split at h
    · cases h
    rename_i hfirst
    rw [List.length_cons, Nat.add_comm events.length, ← Nat.add_assoc] at hevent
    simp only [List.cons_append, applyEvents, hfirst]
    exact ih h hevent

variable {log : AvrcpVolumeObserveLog}

theorem record_refused {event : AvrcpVolumeObserveEvent}
    (h : (recordAvrcpVolumeObserveEvent log event).1 ≠ .accepted) :
    (recordAvrcpVolumeObserveEvent log event).2 = log := by
  revert h
  unfold recordAvrcpVolumeObserveEvent
  split
  · exact fun _ => rfl
  split
  · exact fun _ => rfl
  split
  · exact fun _ => rfl
  split
  · exact fun _ => rfl
  dsimp only
  split
  · exact fun _ => rfl
  · exact fun h => absurd rfl h

theorem RecordedLog.record (h : RecordedLog log) (event : AvrcpVolumeObserveEvent) :
    RecordedLog (recordAvrcpVolumeObserveEvent log event).2 := by
  unfold recordAvrcpVolumeObserveEvent
  split
  · exact h
  split
  · exact h
  rename_i cursor hcursor
  split
  · exact h
  split
  · exact h
  rename_i hroom
  dsimp only
  split
  · exact h
  rename_i cursor' hvalid
  have hcapacity := h.capacity
  refine ⟨?_, ?_⟩
  · rw [List.length_append, List.length_singleton]
    omega
  · refine applyEvents_snoc hcursor ?_
    rw [Nat.zero_add]
    exact hvalid

theorem recordedLog_after (events : List AvrcpVolumeObserveEvent) :
    RecordedLog (observeLog.after {} events) :=
  Reducer.after_inv (M := observeLog) (P := RecordedLog) (Q := fun _ _ => True)
    (fun _ event h _ => h.record event) ⟨Nat.zero_le _, rfl⟩
    (Reducer.along_of_forall (fun _ _ => trivial) _ events)

/-- A snapshot of a log: its counts are those of the events, and consistent. -/
structure Genuine (log : AvrcpVolumeObserveLog) (snapshot : AvrcpVolumeObserveSnapshot) :
    Prop where
  consistent : Consistent log.cursor snapshot
  count : snapshot.replayedEventCount = log.events.length
  capacity : log.events.length ≤ avrcpVolumeObserveLogCapacity
  categorized : snapshot.categorized = log.events.length
  sequence : snapshot.lastSequence = UInt64.ofNat log.events.length

theorem replay_recorded (h : RecordedLog log) :
    ∃ snapshot, replayAvrcpVolumeObserveLog log = .ok snapshot ∧ Genuine log snapshot := by
  obtain ⟨s, hreplay, hcursor, hreplayed⟩ := replayed_empty.events h.cursor
  rw [Nat.zero_add] at hreplayed
  unfold replayAvrcpVolumeObserveLog
  rw [if_neg (Nat.not_lt.mpr h.capacity)]
  simp only [hreplay, hcursor, ne_eq, not_true, if_false]
  have hconsistent := hreplayed.consistent
  rw [hcursor] at hconsistent
  exact ⟨_, rfl, { hconsistent with emitted := rfl }, hreplayed.count, h.capacity,
    hreplayed.categorized, hreplayed.sequence⟩

end NativeLdac.Agent
