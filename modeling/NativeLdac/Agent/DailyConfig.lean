/-
  The configuration server of the daily mode (`agent/v1_daily_config_ipc.cpp`): a request with a
  newer revision replaces the record in a file and waits for the agent to take it; a restart reads
  the record back.

  * `dailyConfig`, the machine of the requests, the calls of the agent and the restarts, each made
    under the lock of the server;
  * `ConfigEffect`, what one of them does;
  * `Recorded`, the invariant while every restart reads the record: the requested configuration is
    the one in the file.
-/
import NativeLdac.Lib.Reducer
import Mathlib.Data.List.Basic
import Mathlib.Data.UInt

namespace NativeLdac.Agent

namespace V1DailyConfigServer

def errorFileNotFound : UInt32 := 2
def errorInvalidData : UInt32 := 13
def errorRevisionMismatch : UInt32 := 1306

end V1DailyConfigServer

open V1DailyConfigServer (errorFileNotFound errorInvalidData errorRevisionMismatch)

inductive V1DailyQuality where
  | hq | sq | mq
deriving DecidableEq, Repr

def V1DailyQuality.toUInt32 : V1DailyQuality → UInt32
  | hq => 0
  | sq => 1
  | mq => 2

inductive V1DailyConfigStatus where
  | accepted | rejected | invalid | staleRevision | error
deriving DecidableEq, Repr

structure V1DailyConfigRequest where
  magic : UInt32 := 0x31434C4E
  version : UInt16 := 1
  messageType : UInt16 := 1
  messageBytes : UInt32 := 28
  revision : UInt64 := 0
  quality : UInt32 := 0
  reserved : UInt32 := 0
deriving DecidableEq, Repr

structure V1DailyConfigResponse where
  magic : UInt32 := 0x31434C4E
  version : UInt16 := 1
  messageType : UInt16 := 2
  messageBytes : UInt32 := 40
  status : V1DailyConfigStatus := .error
  requestedRevision : UInt64 := 0
  appliedRevision : UInt64 := 0
  error : UInt32 := 0
  reserved : UInt32 := 0
deriving DecidableEq, Repr

def isV1DailyQuality (value : UInt32) : Bool := value ≤ V1DailyQuality.mq.toUInt32

def validateV1DailyConfigRequest (request : V1DailyConfigRequest) : Bool :=
  request.magic == 0x31434C4E && request.version == 1 && request.messageType == 1 &&
    request.messageBytes == 28 && request.revision != 0 && isV1DailyQuality request.quality &&
    request.reserved == 0

/-! ## The server -/

structure V1DailyConfigServer where
  requested : V1DailyConfigRequest
  applied : V1DailyConfigRequest
  pending : V1DailyConfigRequest
  pendingAvailable : Bool
  rejectedCount : UInt32
  lastError : UInt32
deriving DecidableEq, Repr

/-- The file of the server: a record, or less than one. -/
inductive PersistedFile where
  | missing
  | short
  | record (request : V1DailyConfigRequest)
deriving DecidableEq, Repr

inductive FileRead where
  | openFails (error : UInt32)
  | readFails
  | reads
deriving DecidableEq, Repr

def PersistedFile.recorded : PersistedFile → Option V1DailyConfigRequest
  | .record request => if validateV1DailyConfigRequest request then some request else none
  | _ => none

/-- `LoadPersisted`: the record, or the error. -/
def loadPersisted (file : PersistedFile) : FileRead → Except UInt32 V1DailyConfigRequest
  | .openFails error => .error error
  | .readFails => .error errorInvalidData
  | .reads =>
    match file with
    | .missing => .error errorFileNotFound
    | .short => .error errorInvalidData
    | .record request =>
      if validateV1DailyConfigRequest request then .ok request else .error errorInvalidData

/-- `Start`, up to the thread of the pipe. -/
def V1DailyConfigServer.start (defaultQuality : V1DailyQuality) (defaultRevision : UInt64)
    (file : PersistedFile) (read : FileRead) : V1DailyConfigServer :=
  let default : V1DailyConfigRequest :=
    { revision := defaultRevision, quality := defaultQuality.toUInt32 }
  let server : V1DailyConfigServer :=
    { requested := default
      applied := default
      pending := {}
      pendingAvailable := false
      rejectedCount := 0
      lastError := 0 }
  match loadPersisted file read with
  | .ok request => { server with requested := request, applied := request }
  | .error error => if error = errorFileNotFound then server else { server with lastError := error }

/-- The server and its file. -/
structure DailyConfig where
  server : V1DailyConfigServer
  file : PersistedFile
deriving DecidableEq, Repr

/-- `Handle`; `persistError` is the error of `Persist`, none if it replaces the file. -/
def DailyConfig.handle (s : DailyConfig) (request : V1DailyConfigRequest)
    (persistError : Option UInt32) : V1DailyConfigResponse × DailyConfig :=
  let response : V1DailyConfigResponse :=
    { requestedRevision := request.revision, appliedRevision := s.server.applied.revision }
  let rejected (status : V1DailyConfigStatus) (error : UInt32) :
      V1DailyConfigResponse × DailyConfig :=
    ({ response with status := status, error := error },
      { s with server :=
        { s.server with rejectedCount := s.server.rejectedCount + 1, lastError := error } })
  if !validateV1DailyConfigRequest request then rejected .invalid errorInvalidData
  else if request.revision ≤ s.server.requested.revision then
    rejected .staleRevision errorRevisionMismatch
  else
    match persistError with
    | some error => rejected .error error
    | none =>
      ({ response with status := .accepted, error := 0 },
        { server :=
            { s.server with
              requested := request
              pending := request
              pendingAvailable := true
              lastError := 0 }
          file := .record request })

def V1DailyConfigServer.takeAccepted (server : V1DailyConfigServer) :
    Option V1DailyConfigRequest × V1DailyConfigServer :=
  if !server.pendingAvailable then (none, server)
  else (some server.pending, { server with pendingAvailable := false })

def V1DailyConfigServer.markApplied (server : V1DailyConfigServer) (revision : UInt64) :
    Except UInt32 Unit × V1DailyConfigServer :=
  if revision ≠ server.requested.revision then (.error errorRevisionMismatch, server)
  else (.ok (), { server with applied := server.requested })

/-- The file that the server leaves if it ends; with a request, while it handles that one and after
    `Persist` has replaced the file. -/
def DailyConfig.left (s : DailyConfig) : Option V1DailyConfigRequest → PersistedFile
  | none => s.file
  | some request =>
    if validateV1DailyConfigRequest request ∧ s.server.requested.revision < request.revision then
      .record request
    else s.file

inductive ConfigCall where
  | handle (request : V1DailyConfigRequest) (persistError : Option UInt32)
  | takeAccepted
  | markApplied (revision : UInt64)
  /-- the server ends, and starts again -/
  | restart (during : Option V1DailyConfigRequest) (defaultQuality : V1DailyQuality)
      (read : FileRead)

inductive ConfigAnswer where
  | response (response : V1DailyConfigResponse)
  | taken (request : Option V1DailyConfigRequest)
  | marked (result : Except UInt32 Unit)
  | started

def dailyConfig (defaultRevision : UInt64) : Reducer DailyConfig ConfigCall ConfigAnswer where
  step s
    | .handle request persistError =>
      let r := s.handle request persistError
      (.response r.1, r.2)
    | .takeAccepted =>
      let r := s.server.takeAccepted
      (.taken r.1, { s with server := r.2 })
    | .markApplied revision =>
      let r := s.server.markApplied revision
      (.marked r.1, { s with server := r.2 })
    | .restart during defaultQuality read =>
      (.started,
        { server := .start defaultQuality defaultRevision (s.left during) read
          file := s.left during })

/-- The server after its first start. -/
def started (defaultRevision : UInt64) (defaultQuality : V1DailyQuality) (file : PersistedFile)
    (read : FileRead) : DailyConfig where
  server := .start defaultQuality defaultRevision file read
  file := file

/-! ## One call -/

/-- The answer `Accepted`. -/
def ConfigAnswer.isAccepted : ConfigAnswer → Bool
  | .response answer => answer.status = .accepted
  | _ => false

/-- The request waits for the agent to take it. -/
def V1DailyConfigServer.Waits (server : V1DailyConfigServer) (request : V1DailyConfigRequest) :
    Prop :=
  server.pendingAvailable = true ∧ server.pending = request

open V1DailyConfigServer (markApplied start takeAccepted)

/-- What a call does to the server and to its file. -/
inductive ConfigEffect (defaultRevision : UInt64) (s : DailyConfig) :
    ConfigCall → ConfigAnswer × DailyConfig → Prop
  | accepted {request response} : validateV1DailyConfigRequest request = true →
      s.server.requested.revision < request.revision →
      response.status = V1DailyConfigStatus.accepted →
      ConfigEffect defaultRevision s (.handle request none) (.response response,
        { server :=
            { s.server with
              requested := request
              pending := request
              pendingAvailable := true
              lastError := 0 }
          file := .record request })
  | refused {request persistError response} (rejectedCount lastError) :
      response.status ≠ V1DailyConfigStatus.accepted →
      ConfigEffect defaultRevision s (.handle request persistError) (.response response,
        { s with server :=
          { s.server with rejectedCount := rejectedCount, lastError := lastError } })
  | taken {request} : s.server.Waits request →
      ConfigEffect defaultRevision s .takeAccepted (.taken (some request),
        { s with server := { s.server with pendingAvailable := false } })
  | empty : s.server.pendingAvailable = false →
      ConfigEffect defaultRevision s .takeAccepted (.taken none, s)
  | marked {revision} : revision = s.server.requested.revision →
      ConfigEffect defaultRevision s (.markApplied revision) (.marked (.ok ()),
        { s with server := { s.server with applied := s.server.requested } })
  | mismatched {revision} : revision ≠ s.server.requested.revision →
      ConfigEffect defaultRevision s (.markApplied revision)
        (.marked (.error errorRevisionMismatch), s)
  | restarted {during defaultQuality read} :
      ConfigEffect defaultRevision s (.restart during defaultQuality read) (.started,
        started defaultRevision defaultQuality (s.left during) read)

theorem config_effect (defaultRevision : UInt64) (s : DailyConfig) (call : ConfigCall) :
    ConfigEffect defaultRevision s call ((dailyConfig defaultRevision).step s call) := by
  cases call with
  | handle request persistError =>
    simp only [dailyConfig, DailyConfig.handle]
    by_cases hvalid : validateV1DailyConfigRequest request = true
    · rw [hvalid, Bool.not_true, if_neg Bool.false_ne_true]
      by_cases hstale : request.revision ≤ s.server.requested.revision
      · rw [if_pos hstale]
        exact .refused _ _ (by simp)
      · rw [if_neg hstale]
        cases persistError with
        | none => exact .accepted hvalid (UInt64.not_le.mp hstale) rfl
        | some error => exact .refused _ _ (by simp)
    · rw [if_pos (by simp [hvalid])]
      exact .refused _ _ (by simp)
  | takeAccepted =>
    simp only [dailyConfig, takeAccepted]
    by_cases hpending : s.server.pendingAvailable = true
    · rw [hpending, Bool.not_true, if_neg Bool.false_ne_true]
      exact .taken ⟨hpending, rfl⟩
    · rw [Bool.not_eq_true] at hpending
      rw [hpending, Bool.not_false, if_pos rfl]
      exact .empty hpending
  | markApplied revision =>
    simp only [dailyConfig, markApplied]
    by_cases hrevision : revision = s.server.requested.revision
    · rw [if_neg (not_not.mpr hrevision)]
      exact .marked hrevision
    · rw [if_pos hrevision]
      exact .mismatched hrevision
  | restart during defaultQuality read => exact .restarted

/-! ## What the file records -/

/-- **The invariant**: the requested configuration is the one in the file, or the default. -/
structure Recorded (defaultRevision : UInt64) (s : DailyConfig) : Prop where
  requested : ∀ request, s.file.recorded = some request → s.server.requested = request
  default : s.file.recorded = none → s.server.requested.revision = defaultRevision
  applied : s.server.applied.revision ≤ s.server.requested.revision

/-- The start reads the file, if a configuration is recorded there. -/
def Reads (file : PersistedFile) (read : FileRead) : Prop :=
  file.recorded.isSome → read = .reads

/-- A restart reads the file, if a configuration is recorded there. -/
def RestartReads (s : DailyConfig) : ConfigCall → Prop
  | .restart during _ read => Reads (s.left during) read
  | _ => True

theorem loadPersisted_recorded {file : PersistedFile} {request : V1DailyConfigRequest}
    (h : file.recorded = some request) : loadPersisted file .reads = .ok request := by
  cases file with
  | missing => cases h
  | short => cases h
  | record stored =>
    simp only [PersistedFile.recorded] at h
    simp only [loadPersisted]
    split at h
    · rename_i hvalid
      cases h
      rw [if_pos hvalid]
    · cases h

theorem loadPersisted_none {file : PersistedFile} (h : file.recorded = none) (read : FileRead) :
    ∃ error, loadPersisted file read = .error error := by
  cases read with
  | openFails error => exact ⟨error, rfl⟩
  | readFails => exact ⟨_, rfl⟩
  | reads =>
    cases file with
    | missing => exact ⟨_, rfl⟩
    | short => exact ⟨_, rfl⟩
    | record stored =>
      simp only [PersistedFile.recorded] at h
      simp only [loadPersisted]
      split at h
      · cases h
      · rename_i hinvalid
        rw [if_neg hinvalid]
        exact ⟨_, rfl⟩

section
variable (defaultRevision : UInt64) (defaultQuality : V1DailyQuality) {file : PersistedFile}
variable {read : FileRead} {request : V1DailyConfigRequest}

theorem start_recorded (h : file.recorded = some request) (hread : Reads file read) :
    (start defaultQuality defaultRevision file read).requested = request ∧
      (start defaultQuality defaultRevision file read).applied = request := by
  have hreads : read = .reads := hread (by rw [h]; rfl)
  subst hreads
  simp only [start, loadPersisted_recorded h]
  exact ⟨trivial, trivial⟩

theorem start_default (h : file.recorded = none) (read : FileRead) :
    (start defaultQuality defaultRevision file read).requested.revision =
        defaultRevision ∧
      (start defaultQuality defaultRevision file read).applied.revision =
        defaultRevision := by
  obtain ⟨error, herror⟩ := loadPersisted_none h read
  simp only [start, herror]
  split <;> exact ⟨rfl, rfl⟩

theorem start_pending (file : PersistedFile) (read : FileRead) :
    (start defaultQuality defaultRevision file read).pendingAvailable =
      false := by
  simp only [start]
  split
  · rfl
  · split <;> rfl

theorem recorded_started (hread : Reads file read) :
    Recorded defaultRevision (started defaultRevision defaultQuality file read) := by
  rcases hrecorded : file.recorded with _ | stored
  · obtain ⟨hrequested, happlied⟩ := start_default defaultRevision defaultQuality hrecorded read
    refine ⟨fun request hsome => ?_, fun _ => hrequested, ?_⟩
    · exact absurd (hrecorded.symm.trans hsome) (by simp)
    · exact UInt64.le_of_eq (happlied.trans hrequested.symm)
  · obtain ⟨hrequested, happlied⟩ := start_recorded defaultRevision defaultQuality hrecorded hread
    refine ⟨fun request hsome => ?_, fun hnone => ?_, ?_⟩
    · exact hrequested.trans (Option.some.inj (hrecorded.symm.trans hsome))
    · exact absurd (hrecorded.symm.trans hnone) (by simp)
    · exact UInt64.le_of_eq (congrArg _ (happlied.trans hrequested.symm))

end

/-- The requested and the applied configuration, the one that waits, and the file. -/
def DailyConfig.configurations (s : DailyConfig) :
    V1DailyConfigRequest × V1DailyConfigRequest × (V1DailyConfigRequest × Bool) × PersistedFile :=
  (s.server.requested, s.server.applied, (s.server.pending, s.server.pendingAvailable), s.file)

section
variable {defaultRevision : UInt64} {s : DailyConfig} {call : ConfigCall}

theorem Recorded.left (h : Recorded defaultRevision s) (during : Option V1DailyConfigRequest) :
    (∃ request, (s.left during).recorded = some request ∧
      s.server.requested.revision ≤ request.revision) ∨
    (s.left during).recorded = none ∧ s.server.requested.revision = defaultRevision := by
  have hfile : (∃ request, s.file.recorded = some request ∧
        s.server.requested.revision ≤ request.revision) ∨
      s.file.recorded = none ∧ s.server.requested.revision = defaultRevision := by
    rcases hrecorded : s.file.recorded with _ | request
    · exact .inr ⟨rfl, h.default hrecorded⟩
    · refine .inl ⟨request, rfl, ?_⟩
      rw [h.requested request hrecorded]
      exact UInt64.le_refl _
  cases during with
  | none => exact hfile
  | some request =>
    simp only [DailyConfig.left]
    split
    · rename_i hnewer
      refine .inl ⟨request, ?_, UInt64.le_of_lt hnewer.2⟩
      simp only [PersistedFile.recorded, if_pos hnewer.1]
    · exact hfile

theorem Recorded.next (h : Recorded defaultRevision s) (hreads : RestartReads s call) :
    Recorded defaultRevision ((dailyConfig defaultRevision).next s call) ∧
      s.server.requested.revision ≤
        ((dailyConfig defaultRevision).next s call).server.requested.revision ∧
      s.server.applied.revision ≤
        ((dailyConfig defaultRevision).next s call).server.applied.revision := by
  have heffect := config_effect defaultRevision s call
  unfold Reducer.next
  generalize (dailyConfig defaultRevision).step s call = r at heffect
  cases heffect with
  | accepted hvalid hnewer =>
    refine ⟨⟨fun request hsome => ?_, fun hnone => ?_, ?_⟩, UInt64.le_of_lt hnewer,
      UInt64.le_refl _⟩
    · simp only [PersistedFile.recorded, if_pos hvalid, Option.some.injEq] at hsome
      exact hsome
    · simp only [PersistedFile.recorded, if_pos hvalid] at hnone
      cases hnone
    · exact UInt64.le_trans h.applied (UInt64.le_of_lt hnewer)
  | refused | mismatched | empty | taken =>
    exact ⟨⟨h.requested, h.default, h.applied⟩, UInt64.le_refl _, UInt64.le_refl _⟩
  | marked =>
    exact ⟨⟨h.requested, h.default, UInt64.le_refl _⟩, UInt64.le_refl _, h.applied⟩
  | @restarted during defaultQuality read =>
    refine ⟨recorded_started defaultRevision defaultQuality hreads, ?_⟩
    obtain ⟨request, hrecorded, hle⟩ | ⟨hnone, hdefault⟩ := h.left during
    · obtain ⟨hrequested, happlied⟩ := start_recorded defaultRevision defaultQuality hrecorded hreads
      simp only [started, hrequested, happlied]
      exact ⟨hle, UInt64.le_trans h.applied hle⟩
    · obtain ⟨hrequested, happlied⟩ := start_default defaultRevision defaultQuality hnone read
      simp only [started, hrequested, happlied]
      exact ⟨UInt64.le_of_eq hdefault, UInt64.le_trans h.applied (UInt64.le_of_eq hdefault)⟩

end

/-! ## The request that waits -/

/-- The answer does not touch the request that waits. -/
def ConfigAnswer.leavesPending : ConfigAnswer → Bool
  | .response answer => answer.status ≠ .accepted
  | .taken request => request = none
  | .marked _ => true
  | .started => false

open ConfigAnswer (isAccepted leavesPending)

/-- The call after the run is the request, and is answered `Accepted`. -/
def AcceptedAfter (defaultRevision : UInt64) (s₀ : DailyConfig) (request : V1DailyConfigRequest)
    (before : List ConfigCall) (call : ConfigCall) : Prop :=
  (∃ persistError, call = .handle request persistError) ∧
    ((dailyConfig defaultRevision).out ((dailyConfig defaultRevision).after s₀ before)
      call).isAccepted = true

/-- The request is the latest that was accepted; it was not taken, and the server did not end. -/
def LatestAccepted (defaultRevision : UInt64) (s₀ : DailyConfig) (request : V1DailyConfigRequest)
    (calls : List ConfigCall) : Prop :=
  (dailyConfig defaultRevision).Since (AcceptedAfter defaultRevision s₀ request)
    (fun s call => ((dailyConfig defaultRevision).out s call).leavesPending = true) s₀ calls

section
variable {defaultRevision : UInt64} {s : DailyConfig} {call : ConfigCall}
variable {request : V1DailyConfigRequest}

theorem waits_next :
    ((dailyConfig defaultRevision).next s call).server.Waits request ↔
      ((∃ persistError, call = .handle request persistError) ∧
          ((dailyConfig defaultRevision).out s call).isAccepted = true) ∨
        s.server.Waits request ∧
          ((dailyConfig defaultRevision).out s call).leavesPending = true := by
  have heffect := config_effect defaultRevision s call
  unfold Reducer.next Reducer.out
  generalize (dailyConfig defaultRevision).step s call = r at heffect
  cases heffect with
  | accepted _ _ hstatus =>
    simp [V1DailyConfigServer.Waits, isAccepted, leavesPending, hstatus]
  | refused _ _ hstatus =>
    simp [V1DailyConfigServer.Waits, isAccepted, leavesPending, hstatus]
  | taken => simp [V1DailyConfigServer.Waits, leavesPending]
  | empty => simp [V1DailyConfigServer.Waits, leavesPending]
  | marked => simp [V1DailyConfigServer.Waits, leavesPending]
  | mismatched => simp [leavesPending]
  | restarted =>
    simp [V1DailyConfigServer.Waits, leavesPending, started, start_pending]

theorem waits_after {s₀ : DailyConfig} (hstarted : s₀.server.pendingAvailable = false)
    (calls : List ConfigCall) :
    ((dailyConfig defaultRevision).after s₀ calls).server.Waits request ↔
      LatestAccepted defaultRevision s₀ request calls := by
  induction calls using List.reverseRecOn with
  | nil =>
    constructor
    · rintro ⟨havailable, -⟩
      exact absurd (hstarted.symm.trans havailable) (by simp)
    · rintro ⟨before, call, rest, hrun, -⟩
      simp at hrun
  | append_singleton calls call ih =>
    rw [Reducer.after_snoc, waits_next, ih]
    unfold LatestAccepted
    rw [Reducer.since_snoc]
    exact Iff.rfl

theorem out_taken :
    (dailyConfig defaultRevision).out s .takeAccepted = .taken (some request) ↔
      s.server.Waits request := by
  have heffect := config_effect defaultRevision s .takeAccepted
  unfold Reducer.out
  generalize (dailyConfig defaultRevision).step s .takeAccepted = r at heffect
  cases heffect with
  | taken hwaits =>
    obtain ⟨havailable, rfl⟩ := hwaits
    simp [V1DailyConfigServer.Waits, havailable]
  | empty hnone => simp [V1DailyConfigServer.Waits, hnone]

end

/-! ## Runs -/

/-- **The laws of the configuration server**, at the end of a run. -/
structure ConfigLaws (defaultRevision : UInt64) (s₀ : DailyConfig) (calls : List ConfigCall) :
    Prop where
  /-- the requested and the applied revision do not decrease -/
  revisions_le : ∀ before rest, calls = before ++ rest →
    ((dailyConfig defaultRevision).after s₀ before).server.requested.revision ≤
        ((dailyConfig defaultRevision).after s₀ calls).server.requested.revision ∧
      ((dailyConfig defaultRevision).after s₀ before).server.applied.revision ≤
        ((dailyConfig defaultRevision).after s₀ calls).server.applied.revision
  /-- no request that was accepted is newer than the requested revision -/
  accepted_le : ∀ before call rest request, calls = before ++ call :: rest →
    AcceptedAfter defaultRevision s₀ request before call →
      request.revision ≤
        ((dailyConfig defaultRevision).after s₀ calls).server.requested.revision
  /-- a request that is not accepted changes nothing -/
  refused : ∀ request persistError,
    ((dailyConfig defaultRevision).out ((dailyConfig defaultRevision).after s₀ calls)
        (.handle request persistError)).isAccepted = false →
      ((dailyConfig defaultRevision).next ((dailyConfig defaultRevision).after s₀ calls)
          (.handle request persistError)).configurations =
        ((dailyConfig defaultRevision).after s₀ calls).configurations
  /-- a Take returns the latest request that was accepted, if it was not taken yet -/
  taken_iff : ∀ request,
    (dailyConfig defaultRevision).out ((dailyConfig defaultRevision).after s₀ calls)
        .takeAccepted = .taken (some request) ↔
      LatestAccepted defaultRevision s₀ request calls
  /-- what is taken later is newer -/
  taken_lt : ∀ before rest request request', calls = before ++ .takeAccepted :: rest →
    (dailyConfig defaultRevision).out ((dailyConfig defaultRevision).after s₀ before)
        .takeAccepted = .taken (some request) →
      (dailyConfig defaultRevision).out ((dailyConfig defaultRevision).after s₀ calls)
          .takeAccepted = .taken (some request') →
        request.revision < request'.revision

section
variable {defaultRevision : UInt64} {s : DailyConfig} {calls : List ConfigCall}
variable {request : V1DailyConfigRequest}

theorem handle_refused {persistError : Option UInt32}
    (h : ((dailyConfig defaultRevision).out s (.handle request persistError)).isAccepted = false) :
    ((dailyConfig defaultRevision).next s (.handle request persistError)).configurations =
      s.configurations := by
  have heffect := config_effect defaultRevision s (.handle request persistError)
  unfold Reducer.next
  unfold Reducer.out at h
  generalize (dailyConfig defaultRevision).step s (.handle request persistError) = r at heffect h
  cases heffect with
  | accepted _ _ hstatus => simp [isAccepted, hstatus] at h
  | refused => rfl

theorem next_accepted {call : ConfigCall}
    (hcall : ∃ persistError, call = .handle request persistError)
    (h : ((dailyConfig defaultRevision).out s call).isAccepted = true) :
    ((dailyConfig defaultRevision).next s call).server.requested = request := by
  obtain ⟨persistError, rfl⟩ := hcall
  have heffect := config_effect defaultRevision s (.handle request persistError)
  unfold Reducer.next
  unfold Reducer.out at h
  generalize (dailyConfig defaultRevision).step s (.handle request persistError) = r at heffect h
  cases heffect with
  | accepted => rfl
  | refused _ _ hstatus => simp [isAccepted, hstatus] at h

theorem next_taken (defaultRevision : UInt64) (s : DailyConfig) :
    ((dailyConfig defaultRevision).next s .takeAccepted).server.pendingAvailable = false ∧
      ((dailyConfig defaultRevision).next s .takeAccepted).server.requested =
        s.server.requested := by
  have heffect := config_effect defaultRevision s .takeAccepted
  unfold Reducer.next
  generalize (dailyConfig defaultRevision).step s .takeAccepted = r at heffect
  cases heffect with
  | taken => exact ⟨rfl, rfl⟩
  | empty hnone => exact ⟨hnone, rfl⟩

theorem revisions_after (h : Recorded defaultRevision s)
    (hreads : (dailyConfig defaultRevision).Along RestartReads s calls) :
    Recorded defaultRevision ((dailyConfig defaultRevision).after s calls) ∧
      s.server.requested.revision ≤
        ((dailyConfig defaultRevision).after s calls).server.requested.revision ∧
      s.server.applied.revision ≤
        ((dailyConfig defaultRevision).after s calls).server.applied.revision := by
  refine Reducer.after_inv (M := dailyConfig defaultRevision) (P := fun s' : DailyConfig =>
    Recorded defaultRevision s' ∧ s.server.requested.revision ≤ s'.server.requested.revision ∧
      s.server.applied.revision ≤ s'.server.applied.revision) ?_
    ⟨h, UInt64.le_refl _, UInt64.le_refl _⟩ hreads
  rintro s' call ⟨hrecorded, hrequested, happlied⟩ hcall
  obtain ⟨hnext, hrequested', happlied'⟩ := hrecorded.next hcall
  exact ⟨hnext, UInt64.le_trans hrequested hrequested', UInt64.le_trans happlied happlied'⟩

theorem waits_newer (h : Recorded defaultRevision s) (hempty : s.server.pendingAvailable = false)
    (hreads : (dailyConfig defaultRevision).Along RestartReads s calls)
    (hwaits : ((dailyConfig defaultRevision).after s calls).server.Waits request) :
    s.server.requested.revision < request.revision := by
  have hinv := Reducer.after_inv (M := dailyConfig defaultRevision) (P := fun s' : DailyConfig =>
    (Recorded defaultRevision s' ∧ s.server.requested.revision ≤ s'.server.requested.revision) ∧
      (s'.server.pendingAvailable = true →
        s.server.requested.revision < s'.server.pending.revision)) ?_
    ⟨⟨h, UInt64.le_refl _⟩, fun havailable => absurd (hempty.symm.trans havailable) (by simp)⟩
    hreads
  · obtain ⟨havailable, rfl⟩ := hwaits
    exact hinv.2 havailable
  · rintro s' call ⟨⟨hrecorded, hle⟩, hpending⟩ hcall
    obtain ⟨hnext, hrequested, -⟩ := hrecorded.next hcall
    refine ⟨⟨hnext, UInt64.le_trans hle hrequested⟩, ?_⟩
    have heffect := config_effect defaultRevision s' call
    unfold Reducer.next
    generalize (dailyConfig defaultRevision).step s' call = r at heffect
    cases heffect with
    | accepted _ hnewer => exact fun _ => UInt64.lt_of_le_of_lt hle hnewer
    | refused | empty | marked | mismatched => exact hpending
    | taken => exact fun havailable => absurd havailable (by simp)
    | restarted => exact fun havailable => absurd havailable (by simp [started, start_pending])

theorem waits_requested {s₀ : DailyConfig} (h : s₀.server.pendingAvailable = false) :
    ((dailyConfig defaultRevision).after s₀ calls).server.pendingAvailable = true →
      ((dailyConfig defaultRevision).after s₀ calls).server.requested =
        ((dailyConfig defaultRevision).after s₀ calls).server.pending := by
  refine Reducer.after_inv (M := dailyConfig defaultRevision) (P := fun s : DailyConfig =>
    s.server.pendingAvailable = true → s.server.requested = s.server.pending)
    (Q := fun _ _ => True) ?_ (fun havailable => absurd (h.symm.trans havailable) (by simp))
    (Reducer.along_of_forall (fun _ _ => trivial) _ calls)
  intro s call hwaits _
  have heffect := config_effect defaultRevision s call
  unfold Reducer.next
  generalize (dailyConfig defaultRevision).step s call = r at heffect
  cases heffect with
  | accepted => exact fun _ => rfl
  | refused | empty | marked | mismatched => exact hwaits
  | taken => exact fun havailable => absurd havailable (by simp)
  | restarted => exact fun havailable => absurd havailable (by simp [started, start_pending])

end

/-- **The configuration server over every run** in which a start reads the file wherever a
    configuration is recorded there. -/
theorem configLaws (defaultRevision : UInt64) (defaultQuality : V1DailyQuality)
    (file : PersistedFile) (read : FileRead) (calls : List ConfigCall)
    (hstart : Reads file read)
    (hreads : (dailyConfig defaultRevision).Along RestartReads
      (started defaultRevision defaultQuality file read) calls) :
    ConfigLaws defaultRevision (started defaultRevision defaultQuality file read) calls := by
  have hrecorded : Recorded defaultRevision (started defaultRevision defaultQuality file read) :=
    recorded_started defaultRevision defaultQuality hstart
  have hempty : (started defaultRevision defaultQuality file read).server.pendingAvailable = false :=
    start_pending defaultRevision defaultQuality file read
  constructor
  case revisions_le =>
    rintro before rest rfl
    obtain ⟨hbefore, hrest⟩ := (Reducer.along_append _ _ _).mp hreads
    rw [Reducer.after_append]
    exact (revisions_after (revisions_after hrecorded hbefore).1 hrest).2
  case accepted_le =>
    rintro before call rest request rfl ⟨hcall, haccepted⟩
    obtain ⟨hbefore, hnow, hrest⟩ := (Reducer.along_append _ _ _).mp hreads
    have hnext := ((revisions_after hrecorded hbefore).1.next hnow).1
    rw [Reducer.after_append, Reducer.after_cons, ← next_accepted hcall haccepted]
    exact (revisions_after hnext hrest).2.1
  case refused => exact fun request persistError hrefused => handle_refused hrefused
  case taken_iff =>
    intro request
    rw [out_taken]
    exact waits_after hempty calls
  case taken_lt =>
    rintro before rest request request' rfl hfirst hlater
    obtain ⟨hbefore, hnow, hrest⟩ := (Reducer.along_append _ _ _).mp hreads
    have hnext := ((revisions_after hrecorded hbefore).1.next hnow).1
    obtain ⟨havailable, rfl⟩ := out_taken.mp hfirst
    rw [Reducer.after_append, Reducer.after_cons, out_taken] at hlater
    obtain ⟨hnone, hrequested⟩ := next_taken defaultRevision
      ((dailyConfig defaultRevision).after
        (started defaultRevision defaultQuality file read) before)
    have hnewer := waits_newer hnext hnone hrest hlater
    rwa [hrequested, waits_requested hempty havailable] at hnewer

/-- A request as the settings send it. -/
def qualityRequest (revision : UInt64) (quality : V1DailyQuality) : V1DailyConfigRequest :=
  { revision := revision, quality := quality.toUInt32 }

/-- The agent takes and applies a request, and is killed while it stores the next one. -/
theorem configLaws_killed :
    ConfigLaws 0 (started 0 .hq .missing .reads)
      [.handle (qualityRequest 5 .sq) none, .takeAccepted, .markApplied 5,
        .restart (some (qualityRequest 6 .mq)) .hq .reads] :=
  configLaws 0 .hq .missing .reads _ (fun _ => rfl) ⟨trivial, trivial, trivial, fun _ => rfl, trivial⟩

/-- A restart that cannot open the file: the requested revision falls from 5 to the default. -/
theorem unread_record_forgotten :
    ¬ ∀ calls, ConfigLaws 0 (started 0 .hq .missing .reads) calls := by
  intro h
  have hlaws := h [.handle (qualityRequest 5 .sq) none, .restart none .hq (.openFails 32)]
  have hle := (hlaws.revisions_le [.handle (qualityRequest 5 .sq) none] _ rfl).1
  revert hle
  decide

end NativeLdac.Agent
