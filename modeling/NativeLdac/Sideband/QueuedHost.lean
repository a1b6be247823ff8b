/-
  The observer's host over the driver's event queue.

  * `ObserverDriver` is the driver's queue with its generation; its records carry
    a ghost that tells whether they were published outside of a media session;
  * `QueuedEnvironment.environment` is the host's environment over that queue: the
    driver may publish during every call that the host makes, and all such calls
    but the closing of the handle are made in a media session;
  * `polledRecords` are the records that a poll feeds to the mapper, and
    `dispatchedActions` what comes of one of them.
-/
import NativeLdac.Sideband.AnswerEffect
import NativeLdac.Agent.AvrcpObserverLease

namespace NativeLdac.Sideband

open Agent AvrcpStage V1AvrcpControlMapperState V1AvrcpObserverHost Prog

variable {Ω α β : Type}

/-! ## The driver -/

structure PublishedRecord where
  event : NldAvrcpObserverEvent
  /-- ghost: it was published while no media session was active -/
  stale : Bool
  deriving DecidableEq, Repr

/-- The driver's context, as far as its queue goes. -/
structure ObserverDriver where
  aclGeneration : UInt64 := 0
  eventQueue : NldAvrcpEventQueue PublishedRecord := {}

namespace ObserverDriver

def connectedRecord : PublishedRecord := ⟨{ type := .aclConnected }, false⟩
def disconnectedRecord : PublishedRecord := ⟨{ type := .aclDisconnected }, false⟩

variable (driver : ObserverDriver)

/-- `NldAvrcpObserverQueueProtocolEvent`, for its record -/
def publish (stale : Bool) (event : NldAvrcpObserverEvent) : ObserverDriver :=
  { driver with
    eventQueue := (driver.eventQueue.push driver.aclGeneration event.type ⟨event, stale⟩).2 }

/-- The queue's part of `NldAvrcpObserverStart`. -/
def start : ObserverDriver :=
  let aclGeneration := nextNonzero driver.aclGeneration
  { aclGeneration := aclGeneration
    eventQueue := (driver.eventQueue.beginGeneration aclGeneration connectedRecord).2 }

/-- The queue's part of `NldAvrcpObserverStop`. -/
def stop : ObserverDriver :=
  { driver with
    eventQueue := (driver.eventQueue.endGeneration driver.aclGeneration disconnectedRecord).2 }

/-- The queue's part of `NldAvrcpObserverEvtFileCleanup`. -/
def fileCleanup : ObserverDriver := driver.stop.start

end ObserverDriver

/-! ## The host's environment -/

/-- The environment but for the queue: what the driver and the sink answer otherwise, and
    the events that the driver publishes during a call. -/
structure QueuedEnvironment (Ω : Type) where
  outer : AvrcpObserverEnvironment Ω
  publishes : Ω → List NldAvrcpObserverEvent × Ω

structure QueuedWorld (Ω : Type) where
  outer : Ω
  driver : ObserverDriver := {}
  handleOpen : Bool := false

namespace QueuedEnvironment

def errorInvalidHandle : UInt32 := 6

variable (env : QueuedEnvironment Ω)

/-- The driver goes on, in a media session. -/
def goOn (world : QueuedWorld Ω) : QueuedWorld Ω :=
  { world with
    outer := (env.publishes world.outer).2
    driver := (env.publishes world.outer).1.foldl (fun d event => d.publish false event)
      world.driver }

/-- A call, during which the driver goes on. -/
def during (call : Ω → α × Ω) (world : QueuedWorld Ω) : α × QueuedWorld Ω :=
  ((call world.outer).1, env.goOn { world with outer := (call world.outer).2 })

/-- `CloseHandle` of the driver's handle. -/
def closeHandle (world : QueuedWorld Ω) : QueuedWorld Ω :=
  { world with
    driver := if world.handleOpen then world.driver.fileCleanup else world.driver
    handleOpen := false }

/-- `OpenImpl`, which closes first -/
def openHandle (call : Ω → Except UInt32 Unit × Ω) (world : QueuedWorld Ω) :
    Except UInt32 Unit × QueuedWorld Ω :=
  let r := env.during call (closeHandle world)
  match r.1 with
  | .ok () => (.ok (), { r.2 with handleOpen := true })
  | .error e => (.error e, r.2)

/-- The record that a call of `Dequeue` takes. -/
def dequeued (world : QueuedWorld Ω) : Except UInt32 PublishedRecord :=
  if ¬ world.handleOpen then .error errorInvalidHandle
  else
    match (env.outer.dequeueEvent world.outer).1, world.driver.eventQueue.pop.1 with
    | .error e, _ => .error e
    | .ok _, none => .error errorNoMoreItems
    | .ok _, some record => .ok record

/-- `Dequeue`; the answer of the outer environment tells whether the request fails -/
def dequeueEvent (world : QueuedWorld Ω) :
    Except UInt32 NldAvrcpObserverEvent × QueuedWorld Ω :=
  let outer := (env.outer.dequeueEvent world.outer).2
  match env.dequeued world with
  | .error e => (.error e, env.goOn { world with outer := outer })
  | .ok record =>
    (.ok record.event, env.goOn
      { world with
        outer := outer
        driver := { world.driver with eventQueue := world.driver.eventQueue.pop.2 } })

def environment : AvrcpObserverEnvironment (QueuedWorld Ω) where
  ensureVolume := env.during env.outer.ensureVolume
  setWindowsVolume volume := env.during (env.outer.setWindowsVolume volume)
  queryWindowsVolume := env.during env.outer.queryWindowsVolume
  windowsVolumeNotificationsActive := env.during env.outer.windowsVolumeNotificationsActive
  consumeWindowsVolumeChange := env.during env.outer.consumeWindowsVolumeChange
  injectVirtualKey vk := env.during (env.outer.injectVirtualKey vk)
  writeAvrcp pdu response parameters := env.during (env.outer.writeAvrcp pdu response parameters)
  getTickCount := env.during env.outer.getTickCount
  openReadOnly := env.openHandle env.outer.openReadOnly
  openReadWrite := env.openHandle env.outer.openReadWrite
  closeDriver world := ((), closeHandle world)
  getVersion := env.during env.outer.getVersion
  getStatus := env.during env.outer.getStatus
  beginObservation := env.during env.outer.beginObservation
  dequeueEvent := env.dequeueEvent

end QueuedEnvironment

/-! ## What a poll feeds -/

/-- The record is of a key, and was published outside of a media session. -/
def PublishedRecord.StaleKey (record : PublishedRecord) : Prop :=
  record.stale ∧ record.event.type = .passThrough

instance (record : PublishedRecord) : Decidable record.StaleKey :=
  inferInstanceAs (Decidable (_ ∧ _))

/-- It is the press of a key that the mapper has an action for. -/
def PublishedRecord.StalePress (record : PublishedRecord) : Prop :=
  record.StaleKey ∧ record.event.flags &&& kFlagReleased = 0 ∧
    decodeOperation (record.event.value0 &&& 0x7F).toUInt8 ≠ .unknown

instance (record : PublishedRecord) : Decidable record.StalePress :=
  inferInstanceAs (Decidable (_ ∧ _))

/-- The actions that are dispatched to the sink when the event is fed. -/
def dispatchedActions (mapper : V1AvrcpControlMapperState) (event : NldAvrcpObserverEvent) :
    List V1AvrcpAction :=
  match (mapDriverEvent event mapper.aclGeneration).bind V1AvrcpObservedEvent.op with
  | none => []
  | some op =>
    if mapper.aclGenerationCurrent ∧ (avrcpMapper.out mapper op).authorizedCurrent then
      (avrcpMapper.out mapper op).actions
    else []

variable (env : QueuedEnvironment Ω)

abbrev QueuedStage (Ω : Type) := AvrcpStage (QueuedWorld Ω) V1AvrcpObserverHost

/-- The records that the loop of `Poll` feeds, each with the mapper that it meets. -/
def fedRecords : Nat → QueuedStage Ω → List (PublishedRecord × V1AvrcpControlMapperState)
  | 0, _ => []
  | n + 1, s =>
    match env.dequeued s.world with
    | .error _ => []
    | .ok record =>
      (record, s.mapper) ::
        match feedDriverEvent env.environment record.event
            { s with world := (env.dequeueEvent s.world).2 } with
        | (some true, s') => fedRecords n s'
        | _ => []

def polledRecords (s : QueuedStage Ω) : List (PublishedRecord × V1AvrcpControlMapperState) :=
  if ¬ s.host.mediaSessionActive ∨ ¬ s.host.observerOpen then []
  else
    match readStatus env.environment s with
    | (some (.ok _), s') => fedRecords env V1AvrcpObserverHost.kMaximumEventsPerPoll s'
    | _ => []

/-! ## Runs -/

inductive QueuedStep where
  /-- a call of the host -/
  | call (call : V1AvrcpObserverHost.Call)
  /-- the driver publishes an event between two calls -/
  | publish (event : NldAvrcpObserverEvent)
  /-- the device starts and stops -/
  | start
  | stop
  deriving DecidableEq

def onDriver (f : ObserverDriver → ObserverDriver) (s : QueuedStage Ω) : QueuedStage Ω :=
  { s with world := { s.world with driver := f s.world.driver } }

def queuedHost : Reducer (QueuedStage Ω) QueuedStep Unit where
  step s
    | .call call => ((), (call.program env.environment s).2)
    | .publish event => ((), onDriver (·.publish (!s.host.mediaSessionActive) event) s)
    | .start => ((), onDriver (·.start) s)
    | .stop => ((), onDriver (·.stop) s)

/-- No key from outside of a media session makes an action. -/
def StaleKeysIdle (s : QueuedStage Ω) : QueuedStep → Prop
  | .call .poll => ∀ fed ∈ polledRecords env s, fed.1.StaleKey →
    dispatchedActions fed.2 fed.1.event = []
  | _ => True

/-- The queue holds no press from outside of a media session. -/
def Unstale (driver : ObserverDriver) : Prop :=
  ∀ record ∈ driver.eventQueue.events, ¬ record.StalePress

instance (driver : ObserverDriver) : Decidable (Unstale driver) :=
  inferInstanceAs (Decidable (∀ record ∈ driver.eventQueue.events, ¬ record.StalePress))

/-- A session that routes keys is begun on a queue without such presses. -/
def BegunUnstale (s : QueuedStage Ω) : QueuedStep → Prop
  | .call (.beginMediaSession options) => options.mediaRouting → Unstale s.world.driver
  | _ => True

/-! ## The queue -/

section
variable {driver : ObserverDriver}

theorem unstale_append {queue : NldAvrcpEventQueue PublishedRecord} {record : PublishedRecord}
    (h : ∀ r ∈ queue.events, ¬ r.StalePress) (hr : ¬ record.StalePress) :
    ∀ r ∈ (queue.append record).events, ¬ r.StalePress := by
  intro r hmem
  unfold NldAvrcpEventQueue.append at hmem
  split_ifs at hmem
  · rcases List.mem_append.mp hmem with hold | hnew
    · exact h r (List.mem_of_mem_tail hold)
    · rwa [List.mem_singleton.mp hnew]
  · rcases List.mem_append.mp hmem with hold | hnew
    · exact h r hold
    · rwa [List.mem_singleton.mp hnew]

theorem not_stalePress_of_live {record : PublishedRecord} (h : record.stale = false) :
    ¬ record.StalePress := by
  rintro ⟨⟨hstale, -⟩, -⟩
  rw [h] at hstale
  cases hstale

theorem unstale_publish (h : Unstale driver) (event : NldAvrcpObserverEvent) :
    Unstale (driver.publish false event) := by
  unfold Unstale ObserverDriver.publish NldAvrcpEventQueue.push
  split_ifs
  · exact h
  · exact unstale_append h (not_stalePress_of_live rfl)

theorem unstale_start (h : Unstale driver) : Unstale driver.start := by
  unfold Unstale ObserverDriver.start NldAvrcpEventQueue.beginGeneration
  dsimp only
  split_ifs
  · exact unstale_append (by simp) (not_stalePress_of_live rfl)
  · exact h

theorem unstale_stop (h : Unstale driver) : Unstale driver.stop := by
  unfold Unstale ObserverDriver.stop NldAvrcpEventQueue.endGeneration
  split_ifs
  · exact h
  · exact unstale_append h (not_stalePress_of_live rfl)

theorem unstale_pop (h : Unstale driver) :
    Unstale { driver with eventQueue := driver.eventQueue.pop.2 } := by
  unfold Unstale NldAvrcpEventQueue.pop
  split
  · exact h
  · rename_i record rest hevents
    intro r hr
    exact h r (hevents ▸ List.mem_cons_of_mem record hr)

variable {env : QueuedEnvironment Ω} {world : QueuedWorld Ω}

theorem unstale_goOn (h : Unstale world.driver) : Unstale (env.goOn world).driver := by
  unfold QueuedEnvironment.goOn
  dsimp only
  generalize (env.publishes world.outer).1 = events
  revert h
  generalize world.driver = driver
  intro h
  induction events generalizing driver with
  | nil => exact h
  | cons event events ih => exact ih _ (unstale_publish h event)

theorem unstale_closeHandle (h : Unstale world.driver) :
    Unstale (QueuedEnvironment.closeHandle world).driver := by
  unfold QueuedEnvironment.closeHandle
  dsimp only
  split_ifs
  · exact unstale_start (unstale_stop h)
  · exact h

theorem unstale_openHandle (h : Unstale world.driver) (call : Ω → Except UInt32 Unit × Ω) :
    Unstale (env.openHandle call world).2.driver := by
  have hduring : Unstale (env.during call (QueuedEnvironment.closeHandle world)).2.driver :=
    unstale_goOn (unstale_closeHandle h)
  unfold QueuedEnvironment.openHandle
  dsimp only
  split
  · exact hduring
  · exact hduring

theorem unstale_dequeueEvent (h : Unstale world.driver) :
    Unstale (env.dequeueEvent world).2.driver := by
  unfold QueuedEnvironment.dequeueEvent
  dsimp only
  split
  · exact unstale_goOn h
  · exact unstale_goOn (unstale_pop h)

theorem mem_of_dequeued {record : PublishedRecord} (h : env.dequeued world = .ok record) :
    record ∈ world.driver.eventQueue.events := by
  unfold QueuedEnvironment.dequeued NldAvrcpEventQueue.pop at h
  split_ifs at h
  split at h
  · cases h
  · cases h
  · rename_i hpop
    cases h
    split at hpop
    · cases hpop
    · rename_i hevents
      cases hpop
      rw [hevents]
      exact List.mem_cons_self

end

/-! ## The mapper -/

/-- The gate routes keys to the media session. -/
def Routes (m : V1AvrcpControlMapperState) : Prop :=
  m.passThrough.mode = .routeToCurrentMediaSession

theorem gate_actions {gate : AvrcpPassThroughGateState} {g : UInt64} {operationId : UInt8}
    {released : Bool}
    (h : (observeAvrcpPassThroughEvent gate g
      (makeAvrcpPassThroughEvent operationId released)).1.actions ≠ []) :
    gate.mode = .routeToCurrentMediaSession ∧ released = false ∧
      decodeOperation operationId ≠ .unknown := by
  have hknown : decodeOperation operationId ≠ .unknown :=
    fun hu => h (observeAvrcpPassThroughEvent_unknown gate g hu)
  have hreleased : released = false := by
    rw [← Bool.not_eq_true]
    rintro rfl
    refine h ?_
    simp only [observeAvrcpPassThroughEvent, makeAvrcpPassThroughEvent, if_neg hknown, if_true]
    split_ifs <;> rfl
  refine ⟨?_, hreleased, hknown⟩
  by_contra hmode
  subst hreleased
  refine h ?_
  simp only [observeAvrcpPassThroughEvent, makeAvrcpPassThroughEvent, if_neg hknown,
    Bool.false_eq_true, if_false, reduceCtorEq, if_pos (Or.inl hmode : _ ∨ gate.ownerLease = 0)]
  split_ifs <;> rfl

theorem observePassThrough_actions {m : V1AvrcpControlMapperState} {g : UInt64}
    {operationId : UInt8} {released : Bool}
    (h : (v1AvrcpObservePassThrough m g operationId released).1.actions ≠ []) :
    Routes m ∧ released = false ∧ decodeOperation operationId ≠ .unknown := by
  simp only [v1AvrcpObservePassThrough] at h
  split_ifs at h
  · refine gate_actions (g := g) fun hnone => h ?_
    exact mergePassThroughActions_nil _ _ hnone
  · exact absurd rfl h

theorem routes_of_dispatched {m : V1AvrcpControlMapperState} {record : PublishedRecord}
    (hkey : record.StaleKey) (h : dispatchedActions m record.event ≠ []) :
    Routes m ∧ record.StalePress := by
  by_cases hg : m.aclGeneration = 0
  · refine absurd ?_ h
    simp only [dispatchedActions, mapDriverEvent, if_pos hg, Option.bind_none]
  · simp only [dispatchedActions, mapDriverEvent, if_neg hg, hkey.2, Option.bind_some,
      V1AvrcpObservedEvent.op] at h
    split_ifs at h
    · obtain ⟨hroutes, hpressed, hknown⟩ := observePassThrough_actions h
      exact ⟨hroutes, hkey, by simpa using hpressed, hknown⟩
    · exact absurd rfl h

end NativeLdac.Sideband
