/-
  The snapshot of the observe log as JSON (`agent/avrcp_absolute_volume_observe_json.cpp`): it is
  validated, written into a fixed buffer, and copied out if it fits.

  * `unsignedDigits_uint64`: the twenty places for digits are enough, for every 64-bit value;
  * `fits_fields`: a list of short fields does not fill the buffer;
  * `validate_genuine`: a snapshot that was replayed passes the validation.
-/
import NativeLdac.Agent.VolumeObserveLog

namespace NativeLdac.Agent

def avrcpVolumeObserveSnapshotMaximumJsonBytes : Nat := 4096

inductive AvrcpVolumeObserveJsonStatus where
  | succeeded | invalidArgument | invalidEnum | outOfRange | invalidSnapshot | bufferTooSmall
  | internalOverflow
  deriving DecidableEq, Repr

def supportName : Option AvrcpAbsoluteVolumeSupport → Option String
  | some .unknown => some "unknown"
  | some .unsupported => some "unsupported"
  | some .supported => some "supported"
  | none => none

def xm5EventName : Option AvrcpXm5VolumeEvent → Option String
  | some .commandResponse => some "command_response"
  | some .remoteNotification => some "remote_notification"
  | none => none

def gateModeName : Option AvrcpAbsoluteVolumeGateMode → Option String
  | some .observeOnly => some "observe_only"
  | some .synchronize => some "synchronize"
  | none => none

/-! ## The writer -/

/-- The bytes of the buffer that are written. -/
structure FixedJsonWriter where
  storage : List Char := []
  overflow : Bool := false
  deriving DecidableEq, Repr

/-- The digits of a value, into an array of `places`. -/
def unsignedDigits : Nat → Nat → List Char
  | 0, _ => []
  | places + 1, value =>
    let digit := Nat.digitChar (value % 10)
    if value / 10 = 0 then [digit] else unsignedDigits places (value / 10) ++ [digit]

inductive JsonValue where
  | unsigned (value : Nat)
  | boolean (value : Bool)
  | string (value : Option String)

namespace FixedJsonWriter

/-- `Reserve`, and the copy into the buffer. -/
def append (writer : FixedJsonWriter) (bytes : List Char) : FixedJsonWriter :=
  if writer.overflow ∨
      bytes.length > avrcpVolumeObserveSnapshotMaximumJsonBytes - writer.storage.length then
    { writer with overflow := true }
  else { writer with storage := writer.storage ++ bytes }

def character (writer : FixedJsonWriter) (value : Char) : FixedJsonWriter := writer.append [value]

def text (writer : FixedJsonWriter) : Option String → FixedJsonWriter
  | none => { writer with overflow := true }
  | some value => writer.append value.toList

def unsigned (writer : FixedJsonWriter) (value : Nat) : FixedJsonWriter :=
  writer.append (unsignedDigits 20 value)

def boolean (writer : FixedJsonWriter) (value : Bool) : FixedJsonWriter :=
  writer.text (some (if value then "true" else "false"))

def key (writer : FixedJsonWriter) (value : String) (first : Bool) : FixedJsonWriter :=
  let writer := if first then writer else writer.character ','
  ((writer.character '\x22').text (some value)).text (some "\x22:")

def string (writer : FixedJsonWriter) (value : Option String) : FixedJsonWriter :=
  ((writer.character '\x22').text value).character '\x22'

def value (writer : FixedJsonWriter) : JsonValue → FixedJsonWriter
  | .unsigned value => writer.unsigned value
  | .boolean value => writer.boolean value
  | .string value => writer.string value

def fields (writer : FixedJsonWriter) : Bool → List (String × JsonValue) → FixedJsonWriter
  | _, [] => writer
  | first, field :: rest => ((writer.key field.1 first).value field.2).fields false rest

end FixedJsonWriter

/-! ## The snapshot -/

def validateSnapshot (value : AvrcpVolumeObserveSnapshot) : AvrcpVolumeObserveJsonStatus :=
  if supportName value.support = none ∨ xm5EventName value.xm5Event = none ∨
      gateModeName value.requestedMode = none ∨ gateModeName value.enforcedReplayMode = none then
    .invalidEnum
  else if value.schemaVersion ≠ avrcpVolumeObserveSnapshotSchema ∨
      value.replayedEventCount > avrcpVolumeObserveLogCapacity ∨
      value.generationsStarted > value.replayedEventCount ∨
      value.generationsEnded > value.replayedEventCount ∨
      value.capabilityEventCount > value.replayedEventCount ∨
      value.windowsCallbackCount > value.replayedEventCount ∨
      value.xm5CommandResponseCount > value.replayedEventCount ∨
      value.xm5RemoteNotificationCount > value.replayedEventCount ∨
      value.leaseAcquireCount > value.replayedEventCount ∨
      value.leaseRevokeCount > value.replayedEventCount ∨
      value.modeChangeCount > value.replayedEventCount ∨
      value.windowsVolume.percent > 100 ∨ value.xm5AbsoluteVolume > 127 then
    .outOfRange
  else if value.categorized ≠ value.replayedEventCount ∨
      value.lastSequence ≠ UInt64.ofNat value.replayedEventCount ∨
      value.generationsEnded > value.generationsStarted ∨
      (value.replayedEventCount ≠ 0 ∧ value.generationsStarted = 0) ∨
      (value.generationsStarted = 0 ∧ value.currentGeneration ≠ 0) ∨
      (value.generationsStarted ≠ 0 ∧ value.currentGeneration = 0) ∨
      (value.generationCurrent ∧ value.currentGeneration = 0) ∨
      (value.generationCurrent ∧ value.generationsStarted ≤ value.generationsEnded) ∨
      (¬ value.generationCurrent ∧ value.generationsStarted ≠ 0 ∧ value.generationsEnded = 0) ∨
      (value.support ≠ some .unknown ∧ value.capabilityEventCount = 0) ∨
      (value.windowsVolumeObserved ∧ value.windowsCallbackCount = 0) ∨
      (value.xm5VolumeObserved ∧ value.xm5CommandResponseCount = 0 ∧
        value.xm5RemoteNotificationCount = 0) ∨
      value.leaseRevokeCount > value.leaseAcquireCount ∨
      (value.ownerLease ≠ 0 ∧ value.leaseAcquireCount ≤ value.leaseRevokeCount) ∨
      (value.requestedMode = some .synchronize ∧ value.modeChangeCount = 0) ∨
      (¬ value.generationCurrent ∧ value.ownerLease ≠ 0) ∨
      (¬ value.generationCurrent ∧ value.requestedMode ≠ some .observeOnly) ∨
      value.enforcedReplayMode ≠ some .observeOnly ∨ value.emittedActionCount ≠ 0 then
    .invalidSnapshot
  else .succeeded

def AvrcpVolumeObserveSnapshot.jsonFields (snapshot : AvrcpVolumeObserveSnapshot) :
    List (String × JsonValue) :=
  [("schema_version", .unsigned snapshot.schemaVersion),
    ("replayed_event_count", .unsigned snapshot.replayedEventCount),
    ("last_sequence", .unsigned snapshot.lastSequence.toNat),
    ("generations_started", .unsigned snapshot.generationsStarted),
    ("generations_ended", .unsigned snapshot.generationsEnded),
    ("current_generation", .unsigned snapshot.currentGeneration.toNat),
    ("generation_current", .boolean snapshot.generationCurrent),
    ("support", .string (supportName snapshot.support)),
    ("capability_event_count", .unsigned snapshot.capabilityEventCount),
    ("windows_volume_observed", .boolean snapshot.windowsVolumeObserved),
    ("windows_volume_percent", .unsigned snapshot.windowsVolume.percent),
    ("windows_volume_muted", .boolean snapshot.windowsVolume.muted),
    ("windows_callback_count", .unsigned snapshot.windowsCallbackCount),
    ("xm5_volume_observed", .boolean snapshot.xm5VolumeObserved),
    ("xm5_absolute_volume", .unsigned snapshot.xm5AbsoluteVolume),
    ("xm5_event", .string (xm5EventName snapshot.xm5Event)),
    ("xm5_command_response_count", .unsigned snapshot.xm5CommandResponseCount),
    ("xm5_remote_notification_count", .unsigned snapshot.xm5RemoteNotificationCount),
    ("owner_lease", .unsigned snapshot.ownerLease.toNat),
    ("lease_acquire_count", .unsigned snapshot.leaseAcquireCount),
    ("lease_revoke_count", .unsigned snapshot.leaseRevokeCount),
    ("requested_mode", .string (gateModeName snapshot.requestedMode)),
    ("mode_change_count", .unsigned snapshot.modeChangeCount),
    ("enforced_replay_mode", .string (gateModeName snapshot.enforcedReplayMode)),
    ("emitted_action_count", .unsigned snapshot.emittedActionCount)]

/-- The text, in the staging buffer. -/
def stagedJson (snapshot : AvrcpVolumeObserveSnapshot) : FixedJsonWriter :=
  (((({} : FixedJsonWriter).character '\x7b').fields true snapshot.jsonFields).character '\x7d')

/-- `SerializeAvrcpVolumeObserveSnapshotJson`: the text that is copied out, without its NUL. -/
def serializeAvrcpVolumeObserveSnapshotJson (snapshot : AvrcpVolumeObserveSnapshot)
    (outputCapacity : Nat) : Except AvrcpVolumeObserveJsonStatus (List Char) :=
  if outputCapacity = 0 then .error .invalidArgument
  else if validateSnapshot snapshot ≠ .succeeded then .error (validateSnapshot snapshot)
  else if (stagedJson snapshot).overflow then .error .internalOverflow
  else if outputCapacity ≤ (stagedJson snapshot).storage.length then .error .bufferTooSmall
  else .ok (stagedJson snapshot).storage

/-! ## The digits -/

theorem unsignedDigits_eq {places value : Nat} (h : value < 10 ^ (places + 1)) :
    unsignedDigits (places + 1) value = Nat.toDigits 10 value := by
  induction places generalizing value with
  | zero =>
    rw [unsignedDigits, if_pos (by omega), Nat.toDigits_of_lt_base (by omega)]
    rw [Nat.mod_eq_of_lt (by omega)]
  | succ places ih =>
    rw [unsignedDigits, Nat.toDigits_eq_if (by decide)]
    by_cases hlast : value < 10
    · rw [if_pos (by omega), if_pos hlast, Nat.mod_eq_of_lt hlast]
    · rw [if_neg (by omega), if_neg hlast, ih]
      rw [Nat.pow_succ] at h
      omega

theorem length_unsignedDigits (places value : Nat) :
    (unsignedDigits places value).length ≤ places := by
  induction places generalizing value with
  | zero => exact Nat.le_refl 0
  | succ places ih =>
    rw [unsignedDigits]
    split
    · simp
    · rw [List.length_append, List.length_singleton]
      exact Nat.add_le_add_right (ih _) 1

/-! ## The size -/

/-- The writer did not overflow, and wrote at most `n` bytes. -/
def FixedJsonWriter.Fits (writer : FixedJsonWriter) (n : Nat) : Prop :=
  writer.overflow = false ∧ writer.storage.length ≤ n

/-- A value of at most 21 bytes. -/
def JsonValue.Short : JsonValue → Prop
  | .string none => False
  | .string (some value) => value.length ≤ 19
  | _ => True

/-- A field of at most 55 bytes, with the comma before it. -/
def ShortField (field : String × JsonValue) : Prop := field.1.length ≤ 30 ∧ field.2.Short

namespace FixedJsonWriter
variable {writer : FixedJsonWriter} {n : Nat}

theorem Fits.append (h : writer.Fits n) {bytes : List Char} (k : Nat) (hbytes : bytes.length ≤ k)
    (hroom : n + k ≤ avrcpVolumeObserveSnapshotMaximumJsonBytes) :
    (writer.append bytes).Fits (n + k) := by
  obtain ⟨hoverflow, hlength⟩ := h
  unfold FixedJsonWriter.append
  rw [if_neg]
  · refine ⟨hoverflow, ?_⟩
    rw [List.length_append]
    omega
  · rw [hoverflow]
    simp only [Bool.false_eq_true, false_or]
    omega

theorem Fits.character (h : writer.Fits n) (value : Char)
    (hroom : n + 1 ≤ avrcpVolumeObserveSnapshotMaximumJsonBytes) :
    (writer.character value).Fits (n + 1) :=
  h.append 1 (Nat.le_refl 1) hroom

theorem Fits.text (h : writer.Fits n) {value : String} (k : Nat) (hvalue : value.length ≤ k)
    (hroom : n + k ≤ avrcpVolumeObserveSnapshotMaximumJsonBytes) :
    (writer.text (some value)).Fits (n + k) :=
  h.append k (by rwa [String.length_toList]) hroom

theorem Fits.key (h : writer.Fits n) {value : String} (hvalue : value.length ≤ 30) (first : Bool)
    (hroom : n + 34 ≤ avrcpVolumeObserveSnapshotMaximumJsonBytes) :
    (writer.key value first).Fits (n + 34) := by
  have hcomma : (if first then writer else writer.character ',').Fits (n + 1) := by
    split
    · exact ⟨h.1, Nat.le_succ_of_le h.2⟩
    · exact h.character ',' (by omega)
  have hquote := hcomma.character '\x22' (by omega)
  exact (hquote.text 30 hvalue (by omega)).text 2 (by decide) (by omega)

theorem Fits.value (h : writer.Fits n) {value : JsonValue} (hvalue : value.Short)
    (hroom : n + 21 ≤ avrcpVolumeObserveSnapshotMaximumJsonBytes) :
    (writer.value value).Fits (n + 21) := by
  cases value with
  | unsigned value => exact h.append 21 ((length_unsignedDigits 20 value).trans (by decide)) hroom
  | boolean value => exact h.text 21 (by cases value <;> decide) hroom
  | string value =>
    cases value with
    | none => exact hvalue.elim
    | some value =>
      have hquote := h.character '\x22' (by omega)
      exact (hquote.text 19 hvalue (by omega)).character '\x22' (by omega)

theorem fits_fields {fields : List (String × JsonValue)} (hfields : ∀ field ∈ fields, ShortField field)
    (h : writer.Fits n) (first : Bool)
    (hroom : n + 55 * fields.length ≤ avrcpVolumeObserveSnapshotMaximumJsonBytes) :
    (writer.fields first fields).Fits (n + 55 * fields.length) := by
  induction fields generalizing writer n first with
  | nil => exact h
  | cons field rest ih =>
    obtain ⟨hname, hvalue⟩ := hfields field List.mem_cons_self
    rw [List.length_cons] at hroom ⊢
    have hfield := (h.key hname first (by omega)).value hvalue (by omega)
    have hrest := ih (fun field hmem => hfields field (List.mem_cons_of_mem _ hmem)) hfield false
      (by omega)
    refine ⟨hrest.1, hrest.2.trans ?_⟩
    omega

end FixedJsonWriter

/-! ## A snapshot that was replayed -/

theorem supportName_ne {support : Option AvrcpAbsoluteVolumeSupport} (h : support ≠ none) :
    ∃ name, supportName support = some name ∧ name.length ≤ 19 := by
  rcases support with _ | support
  · exact absurd rfl h
  · cases support <;> exact ⟨_, rfl, by decide⟩

theorem xm5EventName_ne {event : Option AvrcpXm5VolumeEvent} (h : event ≠ none) :
    ∃ name, xm5EventName event = some name ∧ name.length ≤ 19 := by
  rcases event with _ | event
  · exact absurd rfl h
  · cases event <;> exact ⟨_, rfl, by decide⟩

theorem gateModeName_ne {mode : Option AvrcpAbsoluteVolumeGateMode} (h : mode ≠ none) :
    ∃ name, gateModeName mode = some name ∧ name.length ≤ 19 := by
  rcases mode with _ | mode
  · exact absurd rfl h
  · cases mode <;> exact ⟨_, rfl, by decide⟩

section
variable {log : AvrcpVolumeObserveLog} {snapshot : AvrcpVolumeObserveSnapshot}

theorem validate_genuine (h : Genuine log snapshot) : validateSnapshot snapshot = .succeeded := by
  obtain ⟨hconsistent, hcount, hcapacity, hcategorized, hsequence⟩ := h
  obtain ⟨support, hsupport, -⟩ := supportName_ne hconsistent.support
  obtain ⟨event, hevent, -⟩ := xm5EventName_ne hconsistent.xm5Event
  obtain ⟨mode, hmode, -⟩ := gateModeName_ne hconsistent.mode
  have hended := hconsistent.ended
  have hrevoked := hconsistent.revoked
  have hunstarted := hconsistent.unstarted
  rw [hcategorized] at hunstarted
  unfold validateSnapshot
  rw [if_neg, if_neg, if_neg]
  · rw [hcount, hcategorized]
    rintro (hne | hne | hne | hne | hne | hne | hne | hne | hne | hne | hne | hne | hne | hne |
      hne | hne | hne | hne | hne)
    · exact hne rfl
    · exact hne hsequence
    · omega
    · exact hne.1 (hunstarted hne.2)
    · exact hne.2 (hconsistent.generation.mp hne.1)
    · exact hne.1 (hconsistent.generation.mpr hne.2)
    · have hstarted := hconsistent.generation.mpr hne.2
      rw [hne.1, Bool.toNat_true] at hended
      omega
    · rw [hne.1, Bool.toNat_true] at hended
      omega
    · exact hconsistent.finished (Bool.eq_false_iff.mpr hne.1) hne.2.1 hne.2.2
    · exact hconsistent.capability hne.1 hne.2
    · exact hconsistent.windows hne.1 hne.2
    · obtain hcommand | hremote := hconsistent.xm5 hne.1
      · exact hcommand hne.2.1
      · exact hremote hne.2.2
    · omega
    · rw [if_neg hne.1] at hrevoked
      omega
    · exact hconsistent.synchronize hne.1 hne.2
    · exact hne.2 (hconsistent.idle (Bool.eq_false_iff.mpr hne.1)).1
    · exact hne.2 (hconsistent.idle (Bool.eq_false_iff.mpr hne.1)).2
    · exact hne hconsistent.enforced
    · exact hne hconsistent.emitted
  · have hschema := hconsistent.schema
    have hpercent := hconsistent.percent
    have hvolume := hconsistent.xm5Volume
    simp only [AvrcpVolumeObserveSnapshot.categorized] at hcategorized
    omega
  · rw [hsupport, hevent, hmode, hconsistent.enforced]
    simp [gateModeName]

theorem shortField_named (hsupport : snapshot.support ≠ none) (hevent : snapshot.xm5Event ≠ none)
    (hmode : snapshot.requestedMode ≠ none) (henforced : snapshot.enforcedReplayMode ≠ none) :
    ∀ field ∈ snapshot.jsonFields, ShortField field := by
  obtain ⟨support, hsupport, hsupportLength⟩ := supportName_ne hsupport
  obtain ⟨event, hevent, heventLength⟩ := xm5EventName_ne hevent
  obtain ⟨mode, hmode, hmodeLength⟩ := gateModeName_ne hmode
  obtain ⟨enforced, henforced, henforcedLength⟩ := gateModeName_ne henforced
  unfold AvrcpVolumeObserveSnapshot.jsonFields
  rw [hsupport, hevent, hmode, henforced]
  simp only [List.forall_mem_cons, ShortField, JsonValue.Short, hsupportLength, heventLength,
    hmodeLength, henforcedLength, and_true]
  refine ⟨?_, ?_, ?_, ?_, ?_, ?_, ?_, ?_, ?_, ?_, ?_, ?_, ?_, ?_, ?_, ?_, ?_, ?_, ?_, ?_, ?_, ?_, ?_,
    ?_, ?_, List.forall_mem_nil _⟩ <;> decide

theorem stagedJson_fits (hfields : ∀ field ∈ snapshot.jsonFields, ShortField field) :
    (stagedJson snapshot).Fits 1377 := by
  have hlength : snapshot.jsonFields.length = 25 := rfl
  have hempty : ({} : FixedJsonWriter).Fits 0 := ⟨rfl, Nat.le_refl 0⟩
  have hopened := hempty.character '\x7b' (by decide)
  have hwritten := FixedJsonWriter.fits_fields hfields hopened true (by rw [hlength]; decide)
  rw [hlength] at hwritten
  exact hwritten.character '\x7d' (by decide)

theorem serialize_staged (hvalid : validateSnapshot snapshot = .succeeded)
    (hstaged : (stagedJson snapshot).overflow = false) {outputCapacity : Nat}
    (hroom : (stagedJson snapshot).storage.length < outputCapacity) :
    serializeAvrcpVolumeObserveSnapshotJson snapshot outputCapacity =
      .ok (stagedJson snapshot).storage := by
  unfold serializeAvrcpVolumeObserveSnapshotJson
  rw [if_neg (Nat.ne_of_gt (Nat.zero_lt_of_lt hroom)), if_neg (not_not.mpr hvalid),
    hstaged, if_neg Bool.false_ne_true, if_neg (Nat.not_le.mpr hroom)]

theorem shortField_genuine (h : Genuine log snapshot) :
    ∀ field ∈ snapshot.jsonFields, ShortField field := by
  refine shortField_named h.consistent.support h.consistent.xm5Event h.consistent.mode ?_
  rw [h.consistent.enforced]
  exact Option.some_ne_none _

theorem serialize_genuine (h : Genuine log snapshot) :
    (stagedJson snapshot).storage.length < avrcpVolumeObserveSnapshotMaximumJsonBytes ∧
      ∀ outputCapacity, (stagedJson snapshot).storage.length < outputCapacity →
        serializeAvrcpVolumeObserveSnapshotJson snapshot outputCapacity =
          .ok (stagedJson snapshot).storage := by
  have hstaged := stagedJson_fits (shortField_genuine h)
  exact ⟨Nat.lt_of_le_of_lt hstaged.2 (by decide),
    fun _ hroom => serialize_staged (validate_genuine h) hstaged.1 hroom⟩

end

/-- **The observe log over every sequence of events**: a call that is refused leaves it unchanged,
    and whatever it holds is replayed, and serialized into every buffer that holds the text. -/
theorem observeLog_laws (events : List AvrcpVolumeObserveEvent) :
    let log := observeLog.after {} events
    (∀ event, observeLog.out log event ≠ .accepted → observeLog.next log event = log) ∧
      ∃ snapshot, replayAvrcpVolumeObserveLog log = .ok snapshot ∧
        ∃ text : List Char, text.length < avrcpVolumeObserveSnapshotMaximumJsonBytes ∧
          ∀ outputCapacity, text.length < outputCapacity →
            serializeAvrcpVolumeObserveSnapshotJson snapshot outputCapacity = .ok text := by
  intro log
  refine ⟨fun event hrefused => record_refused hrefused, ?_⟩
  obtain ⟨snapshot, hreplay, hgenuine⟩ := replay_recorded (recordedLog_after events)
  exact ⟨snapshot, hreplay, _, serialize_genuine hgenuine⟩

end NativeLdac.Agent
