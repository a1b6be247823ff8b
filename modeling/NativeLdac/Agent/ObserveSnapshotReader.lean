/-
  The reader of the observe snapshot (`ui/avrcp_observe_snapshot.py`), beside the writer of the
  agent (`agent/avrcp_absolute_volume_observe_json.cpp`).

  * `parseAvrcpObserveSnapshotJson` takes a document to the record it describes;
  * `jsonText` is the text of a snapshot, of any values;
  * `writer_text`: the writer of the agent writes this text;
  * `parse_jsonText`: what the reader makes of it;
  * `validate_iff`: the checks of the two are the same.

  The enumerations of the reader have the members of those of the agent, and its own names for
  them. A document is its decoded text.
-/
import NativeLdac.Lib.Json
import NativeLdac.Agent.VolumeObserveJson

namespace NativeLdac.Agent

open Json (unescape codes intValue)
open TextBytes (Ascii)

/-! ## The reader -/

namespace ObserveSnapshotReader

def schemaVersion : Nat := 1
def maxEventCount : Nat := 256
def maxJsonBytes : Nat := 4096
def maxUint64 : Nat := 2 ^ 64 - 1

def avrcpSupport : List (String × AvrcpAbsoluteVolumeSupport) :=
  [("unknown", .unknown), ("unsupported", .unsupported), ("supported", .supported)]

def xm5VolumeEvent : List (String × AvrcpXm5VolumeEvent) :=
  [("command_response", .commandResponse), ("remote_notification", .remoteNotification)]

def volumeGateMode : List (String × AvrcpAbsoluteVolumeGateMode) :=
  [("observe_only", .observeOnly), ("synchronize", .synchronize)]

end ObserveSnapshotReader

structure AvrcpObserveSnapshot where
  schemaVersion : Nat
  replayedEventCount : Nat
  lastSequence : Nat
  generationsStarted : Nat
  generationsEnded : Nat
  currentGeneration : Nat
  generationCurrent : Bool
  support : AvrcpAbsoluteVolumeSupport
  capabilityEventCount : Nat
  windowsVolumeObserved : Bool
  windowsVolumePercent : Nat
  windowsVolumeMuted : Bool
  windowsCallbackCount : Nat
  xm5VolumeObserved : Bool
  xm5AbsoluteVolume : Nat
  xm5Event : AvrcpXm5VolumeEvent
  xm5CommandResponseCount : Nat
  xm5RemoteNotificationCount : Nat
  ownerLease : Nat
  leaseAcquireCount : Nat
  leaseRevokeCount : Nat
  requestedMode : AvrcpAbsoluteVolumeGateMode
  modeChangeCount : Nat
  enforcedReplayMode : AvrcpAbsoluteVolumeGateMode
  emittedActionCount : Nat
  deriving DecidableEq, Repr

namespace ObserveSnapshotReader

def fieldOrder : List String :=
  ["schema_version", "replayed_event_count", "last_sequence", "generations_started",
    "generations_ended", "current_generation", "generation_current", "support",
    "capability_event_count", "windows_volume_observed", "windows_volume_percent",
    "windows_volume_muted", "windows_callback_count", "xm5_volume_observed",
    "xm5_absolute_volume", "xm5_event", "xm5_command_response_count",
    "xm5_remote_notification_count", "owner_lease", "lease_acquire_count", "lease_revoke_count",
    "requested_mode", "mode_change_count", "enforced_replay_mode", "emitted_action_count"]

inductive ValueError where
  /-- `json.loads` or one of its hooks. -/
  | json
  | fields (missing : List String) (extra : List (List Nat))
  | invalid (field : String) (value : List Nat)
  | message (text : String)
  deriving DecidableEq, Repr

abbrev Payload := List (List Char × Json)

/-- The field that a key names. -/
def key (member : List Char × Json) : List Nat := unescape member.1

def code (name : String) : List Nat := codes name.toList

/-- `_reject_constant` and `_strict_object`: what the hooks let pass. -/
def strict : Json → Bool
  | .constant _ => false
  | .obj members => decide (members.map key).Nodup
  | _ => true

/-- `payload[field]`, of a payload that has the field. -/
def item (payload : Payload) (field : String) : Json :=
  match payload.find? (fun member => key member = code field) with
  | some member => member.2
  | none => .null

def uint (payload : Payload) (field : String) (maximum : Nat) : Except ValueError Nat :=
  let refused := .error (.message s!"{field} must be an unsigned integer <= {maximum}")
  match item payload field with
  | .int negative digits =>
    let value := intValue negative digits
    if value < 0 ∨ value > maximum then refused else .ok value.toNat
  | _ => refused

def boolean (payload : Payload) (field : String) : Except ValueError Bool :=
  match item payload field with
  | .bool value => .ok value
  | _ => .error (.message s!"{field} must be a boolean")

def enum {ε : Type} (payload : Payload) (field : String) (enumType : List (String × ε)) :
    Except ValueError ε :=
  match item payload field with
  | .str raw =>
    match enumType.find? (fun enumerator => code enumerator.1 = unescape raw) with
    | some enumerator => .ok enumerator.2
    | none => .error (.invalid field (unescape raw))
  | _ => .error (.message s!"{field} must be a string")

def decodeJson (document : List Char) : Except ValueError Payload :=
  let encodedSize := (document.map Char.utf8Size).sum
  if encodedSize = 0 ∨ encodedSize > maxJsonBytes then
    .error (.message "snapshot JSON size is outside the fixed contract")
  else
    match Json.loads strict document with
    | none => .error .json
    | some (.obj payload) =>
      let missing := fieldOrder.filter (fun field => code field ∉ payload.map key)
      let extra := (payload.map key).filter (fun field => field ∉ fieldOrder.map code)
      if missing ≠ [] ∨ extra ≠ [] then .error (.fields missing extra) else .ok payload
    | some _ => .error (.message "snapshot JSON root must be an object")

def raiseIf (condition : Prop) [Decidable condition] (text : String) : Except ValueError Unit :=
  if condition then .error (.message text) else .ok ()

/-- The fields of the payload, in their types and ranges. -/
def readFields (payload : Payload) : Except ValueError AvrcpObserveSnapshot := do
  let version ← uint payload "schema_version" (2 ^ 32 - 1)
  raiseIf (version ≠ schemaVersion) "unsupported AVRCP ObserveOnly snapshot schema"
  let replayedEventCount ← uint payload "replayed_event_count" maxEventCount
  let lastSequence ← uint payload "last_sequence" maxUint64
  let generationsStarted ← uint payload "generations_started" maxEventCount
  let generationsEnded ← uint payload "generations_ended" maxEventCount
  let currentGeneration ← uint payload "current_generation" maxUint64
  let generationCurrent ← boolean payload "generation_current"
  let support ← enum payload "support" avrcpSupport
  let capabilityEventCount ← uint payload "capability_event_count" maxEventCount
  let windowsVolumeObserved ← boolean payload "windows_volume_observed"
  let windowsVolumePercent ← uint payload "windows_volume_percent" 100
  let windowsVolumeMuted ← boolean payload "windows_volume_muted"
  let windowsCallbackCount ← uint payload "windows_callback_count" maxEventCount
  let xm5VolumeObserved ← boolean payload "xm5_volume_observed"
  let xm5AbsoluteVolume ← uint payload "xm5_absolute_volume" 127
  let xm5Event ← enum payload "xm5_event" xm5VolumeEvent
  let xm5CommandResponseCount ← uint payload "xm5_command_response_count" maxEventCount
  let xm5RemoteNotificationCount ← uint payload "xm5_remote_notification_count" maxEventCount
  let ownerLease ← uint payload "owner_lease" maxUint64
  let leaseAcquireCount ← uint payload "lease_acquire_count" maxEventCount
  let leaseRevokeCount ← uint payload "lease_revoke_count" maxEventCount
  let requestedMode ← enum payload "requested_mode" volumeGateMode
  let modeChangeCount ← uint payload "mode_change_count" maxEventCount
  let enforcedReplayMode ← enum payload "enforced_replay_mode" volumeGateMode
  let emittedActionCount ← uint payload "emitted_action_count" maxEventCount
  return ⟨version, replayedEventCount, lastSequence, generationsStarted, generationsEnded,
    currentGeneration, generationCurrent, support, capabilityEventCount, windowsVolumeObserved,
    windowsVolumePercent, windowsVolumeMuted, windowsCallbackCount, xm5VolumeObserved,
    xm5AbsoluteVolume, xm5Event, xm5CommandResponseCount, xm5RemoteNotificationCount, ownerLease,
    leaseAcquireCount, leaseRevokeCount, requestedMode, modeChangeCount, enforcedReplayMode,
    emittedActionCount⟩

def counts (r : AvrcpObserveSnapshot) : List Nat :=
  [r.generationsStarted, r.generationsEnded, r.capabilityEventCount, r.windowsCallbackCount,
    r.xm5CommandResponseCount, r.xm5RemoteNotificationCount, r.leaseAcquireCount,
    r.leaseRevokeCount, r.modeChangeCount]

def checkFields (r : AvrcpObserveSnapshot) : Except ValueError Unit := do
  raiseIf (∃ value ∈ counts r, value > r.replayedEventCount)
    "event category count exceeds replayed_event_count"
  raiseIf ((counts r).sum ≠ r.replayedEventCount)
    "event category counts do not match replayed total"
  raiseIf (r.lastSequence ≠ r.replayedEventCount) "last_sequence does not match replayed total"
  raiseIf (r.generationsEnded > r.generationsStarted)
    "ended generation count exceeds started count"
  raiseIf (r.replayedEventCount ≠ 0 ∧ r.generationsStarted = 0)
    "non-empty snapshot has no generation start"
  raiseIf (decide (r.generationsStarted = 0) ≠ decide (r.currentGeneration = 0))
    "current_generation does not match generation history"
  raiseIf (r.generationCurrent ∧ r.currentGeneration = 0) "current generation cannot be zero"
  raiseIf (r.generationCurrent ∧ r.generationsStarted ≤ r.generationsEnded)
    "current generation has already ended"
  raiseIf (¬ r.generationCurrent ∧ r.generationsStarted ≠ 0 ∧ r.generationsEnded = 0)
    "inactive generation history has no end event"
  raiseIf (r.support ≠ .unknown ∧ r.capabilityEventCount = 0)
    "support value lacks a capability event"
  raiseIf (r.windowsVolumeObserved ∧ r.windowsCallbackCount = 0)
    "Windows volume value lacks a callback event"
  raiseIf (r.xm5VolumeObserved ∧ r.xm5CommandResponseCount = 0 ∧ r.xm5RemoteNotificationCount = 0)
    "XM5 volume value lacks an XM5 event"
  raiseIf (r.leaseRevokeCount > r.leaseAcquireCount) "lease revocations exceed acquisitions"
  raiseIf (r.ownerLease ≠ 0 ∧ r.leaseAcquireCount ≤ r.leaseRevokeCount)
    "active owner lease has no unmatched acquisition"
  raiseIf (r.requestedMode = .synchronize ∧ r.modeChangeCount = 0)
    "synchronize request lacks a mode event"
  raiseIf (¬ r.generationCurrent ∧ r.ownerLease ≠ 0) "inactive generation retains an owner lease"
  raiseIf (¬ r.generationCurrent ∧ r.requestedMode ≠ .observeOnly)
    "inactive generation retains synchronize mode"
  raiseIf (r.enforcedReplayMode ≠ .observeOnly) "consumer accepts ObserveOnly replay mode only"
  raiseIf (r.emittedActionCount ≠ 0) "consumer rejects snapshots with emitted actions"

end ObserveSnapshotReader

def parseAvrcpObserveSnapshotJson (document : List Char) :
    Except ObserveSnapshotReader.ValueError AvrcpObserveSnapshot := do
  let payload ← ObserveSnapshotReader.decodeJson document
  let r ← ObserveSnapshotReader.readFields payload
  ObserveSnapshotReader.checkFields r
  return r

/-! ## The text of a snapshot -/

open ObserveSnapshotReader

def enumerators : List String :=
  avrcpSupport.map (·.1) ++ xm5VolumeEvent.map (·.1) ++ volumeGateMode.map (·.1)

/-- A string for a value outside its enumeration: it is the name of no enumerator. -/
structure Misnomer where
  text : String
  plain : Json.Plain text.toList
  foreign : text ∉ enumerators

instance : Inhabited Misnomer := ⟨⟨"3", by decide, by decide⟩⟩

def JsonValue.scalar (misnomer : Misnomer) : JsonValue → Json.Scalar
  | .unsigned value => .nat value
  | .boolean value => .bool value
  | .string value => .str (value.getD misnomer.text).toList

def scalarField (misnomer : Misnomer) (field : String × JsonValue) : List Char × Json.Scalar :=
  (field.1.toList, field.2.scalar misnomer)

/-- The text with the values of a snapshot, laid out as the writer does. -/
def AvrcpVolumeObserveSnapshot.jsonText (misnomer : Misnomer)
    (snapshot : AvrcpVolumeObserveSnapshot) : List Char :=
  Json.Layout.object {} (snapshot.jsonFields.map (scalarField misnomer))

/-! ### What the writer writes -/

/-- If the second writer did not overflow, it has written the text after the first one. -/
def FixedJsonWriter.Wrote (writer writer' : FixedJsonWriter) (text : List Char) : Prop :=
  writer'.overflow = false → writer.overflow = false ∧ writer'.storage = writer.storage ++ text

def JsonValue.Places : JsonValue → Prop
  | .unsigned value => value < 10 ^ 20
  | _ => True

namespace FixedJsonWriter
variable {writer writer' writer'' : FixedJsonWriter} {text text' : List Char}

theorem Wrote.refl : writer.Wrote writer [] := fun h => ⟨h, (List.append_nil _).symm⟩

theorem Wrote.trans (h : writer.Wrote writer' text) (h' : writer'.Wrote writer'' text') :
    writer.Wrote writer'' (text ++ text') := by
  intro hoverflow
  obtain ⟨hoverflow', hstorage'⟩ := h' hoverflow
  obtain ⟨hoverflow'', hstorage⟩ := h hoverflow'
  exact ⟨hoverflow'', by rw [hstorage', hstorage, List.append_assoc]⟩

theorem wrote_append (bytes : List Char) : writer.Wrote (writer.append bytes) bytes := by
  unfold Wrote append
  split
  · exact fun h => absurd h (by simp)
  · exact fun h => ⟨h, rfl⟩

theorem wrote_key (value : String) (first : Bool) : writer.Wrote (writer.key value first)
    ((if first then [] else [',']) ++ '\x22' :: (value.toList ++ ['\x22', ':'])) := by
  have hcomma : writer.Wrote (if first then writer else writer.character ',')
      (if first then [] else [',']) := by
    cases first with
    | true => exact .refl
    | false => exact wrote_append _
  exact hcomma.trans (((wrote_append ['\x22']).trans (wrote_append _)).trans (wrote_append _))

theorem wrote_value (misnomer : Misnomer) {value : JsonValue} (hplaces : value.Places) :
    writer.Wrote (writer.value value) (value.scalar misnomer).text := by
  cases value with
  | unsigned value =>
    simp only [FixedJsonWriter.value, unsigned, unsignedDigits_eq hplaces]
    exact wrote_append _
  | boolean value => cases value <;> exact wrote_append _
  | string value =>
    cases value with
    | none =>
      intro hoverflow
      simp [FixedJsonWriter.value, FixedJsonWriter.string, FixedJsonWriter.character,
        FixedJsonWriter.text, append] at hoverflow
    | some value => exact ((wrote_append ['\x22']).trans (wrote_append _)).trans (wrote_append _)

theorem wrote_fields (misnomer : Misnomer) {fields : List (String × JsonValue)}
    (hplaces : ∀ field ∈ fields, field.2.Places) :
    writer.Wrote (writer.fields false fields)
      (Json.Layout.more {} (fields.map (scalarField misnomer))) := by
  induction fields generalizing writer with
  | nil => exact .refl
  | cons field fields ih =>
    have hkey : writer.Wrote (writer.key field.1 false) _ := wrote_key field.1 false
    have hfirst := hkey.trans (wrote_value misnomer (hplaces field List.mem_cons_self))
    have hrest := hfirst.trans (ih fun field hmem => hplaces field (List.mem_cons_of_mem _ hmem))
    simpa [Json.Layout.more, Json.Layout.member, scalarField, FixedJsonWriter.fields] using hrest

end FixedJsonWriter

section
variable {misnomer : Misnomer} {snapshot : AvrcpVolumeObserveSnapshot} {name : String}
variable {field : String × JsonValue}

theorem writer_text (misnomer : Misnomer) (hplaces : ∀ field ∈ snapshot.jsonFields, field.2.Places)
    (hstaged : (stagedJson snapshot).overflow = false) :
    (stagedJson snapshot).storage = snapshot.jsonText misnomer := by
  obtain ⟨field, fields, heq⟩ : ∃ field fields, snapshot.jsonFields = field :: fields :=
    ⟨_, _, rfl⟩
  rw [heq, List.forall_mem_cons] at hplaces
  have hopened : FixedJsonWriter.Wrote {} _ _ := FixedJsonWriter.wrote_append ['\x7b']
  have hfirst := (hopened.trans (FixedJsonWriter.wrote_key field.1 true)).trans
    (FixedJsonWriter.wrote_value misnomer hplaces.1)
  have hfields := hfirst.trans (FixedJsonWriter.wrote_fields misnomer hplaces.2)
  have hclosed := hfields.trans (FixedJsonWriter.wrote_append ['\x7d'])
  unfold stagedJson at hstaged ⊢
  unfold AvrcpVolumeObserveSnapshot.jsonText
  rw [heq] at hstaged ⊢
  obtain ⟨-, hstorage⟩ := hclosed hstaged
  simpa [Json.Layout.object, Json.Layout.member, scalarField, FixedJsonWriter.fields,
    FixedJsonWriter.character] using hstorage

/-! ### What the reader finds in it -/

theorem code_injective : Function.Injective code := by
  intro name name' h
  have hchars : Function.Injective Char.toNat := fun _ _ => Char.toNat_inj.mp
  exact String.toList_inj.mp (hchars.list_map h)

theorem names_fieldOrder (snapshot : AvrcpVolumeObserveSnapshot) :
    snapshot.jsonFields.map (·.1) = fieldOrder := rfl

theorem plain_fieldOrder : ∀ name ∈ fieldOrder, Json.Plain name.toList := by decide

theorem nodup_fieldOrder : fieldOrder.Nodup := by decide

theorem key_pair (field : String × JsonValue) (hplain : Json.Plain field.1.toList) :
    key (Json.Layout.pair (scalarField misnomer field)) = code field.1 :=
  Json.unescape_plain fun hmem => (hplain _ hmem).2.1 rfl

/-- The fields as the reader finds them. -/
def AvrcpVolumeObserveSnapshot.payload (misnomer : Misnomer)
    (snapshot : AvrcpVolumeObserveSnapshot) : Payload :=
  (snapshot.jsonFields.map (scalarField misnomer)).map Json.Layout.pair

theorem keys_payload (misnomer : Misnomer) (snapshot : AvrcpVolumeObserveSnapshot) :
    (snapshot.payload misnomer).map key = fieldOrder.map code := by
  unfold AvrcpVolumeObserveSnapshot.payload
  rw [← names_fieldOrder snapshot, List.map_map, List.map_map, List.map_map]
  refine List.map_congr_left fun field hmem => key_pair field ?_
  exact plain_fieldOrder _ (names_fieldOrder _ ▸ List.mem_map_of_mem hmem)

theorem names_enumerators {value : Option String}
    (hmem : (name, .string value) ∈ snapshot.jsonFields) :
    ∀ text ∈ value, text ∈ enumerators := by
  have hsupport : ∀ text ∈ supportName snapshot.support, text ∈ enumerators := by
    rcases snapshot.support with _ | _ | _ | _ <;> simp [supportName, enumerators, avrcpSupport]
  have hevent : ∀ text ∈ xm5EventName snapshot.xm5Event, text ∈ enumerators := by
    rcases snapshot.xm5Event with _ | _ | _ <;> simp [xm5EventName, enumerators, xm5VolumeEvent]
  have hmode : ∀ mode, ∀ text ∈ gateModeName mode, text ∈ enumerators := by
    rintro (_ | _ | _) <;> simp [gateModeName, enumerators, volumeGateMode]
  simp only [AvrcpVolumeObserveSnapshot.jsonFields, List.mem_cons, List.not_mem_nil, Prod.mk.injEq,
    reduceCtorEq, and_false, false_or, or_false, JsonValue.string.injEq] at hmem
  obtain ⟨-, rfl⟩ | ⟨-, rfl⟩ | ⟨-, rfl⟩ | ⟨-, rfl⟩ := hmem
  · exact hsupport
  · exact hevent
  · exact hmode _
  · exact hmode _

theorem plain_enumerators : ∀ name ∈ enumerators, Json.Plain name.toList := by decide

theorem plain_scalar (misnomer : Misnomer) (hmem : field ∈ snapshot.jsonFields) :
    (field.2.scalar misnomer).Plain := by
  obtain ⟨name, value⟩ := field
  cases value with
  | unsigned value => trivial
  | boolean value => trivial
  | string value =>
    cases value with
    | none => exact misnomer.plain
    | some text => exact plain_enumerators text (names_enumerators hmem text rfl)

theorem loads_jsonText :
    Json.loads strict (snapshot.jsonText misnomer) = some (.obj (snapshot.payload misnomer)) := by
  have hspace : ∀ c ∈ ([] : List Char), Json.isSpace c := fun _ hmem => nomatch hmem
  rw [← List.append_nil (snapshot.jsonText misnomer)]
  refine Json.loads_object _ (fun field hfield => ?_) ?_ hspace
  · obtain ⟨field, hmem, rfl⟩ := List.mem_map.mp hfield
    refine ⟨plain_fieldOrder _ (names_fieldOrder _ ▸ List.mem_map_of_mem hmem),
      plain_scalar misnomer hmem, ?_⟩
    unfold scalarField
    cases JsonValue.scalar misnomer field.2 <;> rfl
  · have hkeys := keys_payload misnomer snapshot
    unfold AvrcpVolumeObserveSnapshot.payload at hkeys
    rw [strict, hkeys, decide_eq_true_eq]
    exact nodup_fieldOrder.map code_injective

theorem decodeJson_jsonText :
    decodeJson (snapshot.jsonText misnomer) =
      if ((snapshot.jsonText misnomer).map Char.utf8Size).sum > maxJsonBytes then
        .error (.message "snapshot JSON size is outside the fixed contract")
      else .ok (snapshot.payload misnomer) := by
  have hsize : ((snapshot.jsonText misnomer).map Char.utf8Size).sum ≠ 0 := by
    obtain ⟨text, htext⟩ : ∃ text, snapshot.jsonText misnomer = '\x7b' :: text := ⟨_, rfl⟩
    rw [htext, List.map_cons, List.sum_cons]
    exact Nat.ne_of_gt (Nat.add_pos_left (Char.utf8Size_pos _) _)
  unfold decodeJson
  simp only [hsize, false_or, loads_jsonText, keys_payload]
  split
  · rfl
  · rw [List.filter_eq_nil_iff.mpr, List.filter_eq_nil_iff.mpr]
    · rfl
    · exact fun field hmem => by simpa using hmem
    · intro name hmem
      simp only [decide_not, Bool.not_eq_true', decide_eq_false_iff_not, not_not]
      exact List.mem_map_of_mem hmem

theorem find?_field (misnomer : Misnomer) {fields : List (String × JsonValue)}
    (hplain : ∀ field ∈ fields, Json.Plain field.1.toList) (hnodup : (fields.map (·.1)).Nodup)
    (hmem : field ∈ fields) :
    ((fields.map (scalarField misnomer)).map Json.Layout.pair).find?
        (fun member => key member = code field.1) =
      some (Json.Layout.pair (scalarField misnomer field)) := by
  induction fields with
  | nil => cases hmem
  | cons first fields ih =>
    rw [List.map_cons, List.map_cons, List.find?_cons,
      key_pair first (hplain first List.mem_cons_self)]
    rw [List.map_cons, List.nodup_cons] at hnodup
    obtain rfl | hmem := List.mem_cons.mp hmem
    · simp
    · have hne : first.1 ≠ field.1 := fun heq => hnodup.1 (heq ▸ List.mem_map_of_mem hmem)
      simp only [code_injective.ne hne, decide_false]
      exact ih (fun field hmem => hplain field (List.mem_cons_of_mem _ hmem)) hnodup.2 hmem

theorem item_payload (misnomer : Misnomer) (hmem : field ∈ snapshot.jsonFields) :
    item (snapshot.payload misnomer) field.1 = (field.2.scalar misnomer).json := by
  have hfind := find?_field misnomer
    (fun field hmem => plain_fieldOrder _ (names_fieldOrder _ ▸ List.mem_map_of_mem hmem))
    (names_fieldOrder snapshot ▸ nodup_fieldOrder) hmem
  unfold item AvrcpVolumeObserveSnapshot.payload
  rw [hfind]
  rfl

theorem mem_of_item (h : item (snapshot.payload misnomer) name ≠ .null) :
    ∃ value, (name, value) ∈ snapshot.jsonFields := by
  unfold item at h
  split at h
  · rename_i member hfind
    have hkey : key member = code name := by simpa using List.find?_some hfind
    have hmem := List.mem_of_find?_eq_some hfind
    unfold AvrcpVolumeObserveSnapshot.payload at hmem
    rw [List.map_map, List.mem_map] at hmem
    obtain ⟨field, hmem, rfl⟩ := hmem
    have hplain := plain_fieldOrder _
      (names_fieldOrder snapshot ▸ List.mem_map_of_mem hmem)
    rw [Function.comp_apply, key_pair field hplain] at hkey
    exact ⟨field.2, code_injective hkey ▸ hmem⟩
  · exact absurd rfl h

theorem uint_eq_ok {maximum result : Nat} :
    uint (snapshot.payload misnomer) name maximum = .ok result ↔
      ∃ value, (name, .unsigned value) ∈ snapshot.jsonFields ∧ value ≤ maximum ∧
        value = result := by
  constructor
  · intro h
    have hitem : item (snapshot.payload misnomer) name ≠ .null := fun hnull => by
      simp [uint, hnull] at h
    obtain ⟨value, hmem⟩ := mem_of_item hitem
    unfold uint at h
    rw [item_payload misnomer hmem] at h
    cases value with
    | unsigned value =>
      have hvalue : intValue false (Nat.toDigits 10 value) = (value : Int) :=
        congrArg Nat.cast Nat.ofDigitChars_ten_toDigits
      simp only [JsonValue.scalar, Json.Scalar.json, hvalue] at h
      split at h
      · cases h
      · rename_i haccepted
        rw [Int.toNat_natCast, Except.ok.injEq] at h
        exact ⟨value, hmem, by omega, h⟩
    | boolean value => cases h
    | string value => cases h
  · rintro ⟨value, hmem, hmaximum, rfl⟩
    have hvalue : intValue false (Nat.toDigits 10 value) = (value : Int) :=
      congrArg Nat.cast Nat.ofDigitChars_ten_toDigits
    unfold uint
    rw [item_payload misnomer hmem]
    simp only [JsonValue.scalar, Json.Scalar.json, hvalue]
    rw [if_neg (by omega), Int.toNat_natCast]

theorem boolean_eq_ok {result : Bool} :
    boolean (snapshot.payload misnomer) name = .ok result ↔
      (name, .boolean result) ∈ snapshot.jsonFields := by
  constructor
  · intro h
    have hitem : item (snapshot.payload misnomer) name ≠ .null := fun hnull => by
      simp [boolean, hnull] at h
    obtain ⟨value, hmem⟩ := mem_of_item hitem
    unfold boolean at h
    rw [item_payload misnomer hmem] at h
    cases value with
    | unsigned value => cases h
    | boolean value =>
      cases h
      exact hmem
    | string value => cases h
  · intro hmem
    unfold boolean
    rw [item_payload misnomer hmem]
    rfl

theorem enum_field {ε : Type} {value : Option String} {result : ε} {enumType : List (String × ε)}
    (hmem : (name, .string value) ∈ snapshot.jsonFields)
    (hforeign : misnomer.text ∉ enumType.map (·.1)) :
    enum (snapshot.payload misnomer) name enumType = .ok result ↔
      ∃ text ∈ value, (enumType.find? (fun enumerator => enumerator.1 = text)).map (·.2) =
        some result := by
  have hraw : unescape (value.getD misnomer.text).toList = code (value.getD misnomer.text) :=
    Json.unescape_plain fun hbackslash =>
      (plain_scalar misnomer hmem _ hbackslash).2.1 rfl
  unfold enum
  rw [item_payload misnomer hmem]
  simp only [JsonValue.scalar, Json.Scalar.json, hraw, code_injective.eq_iff]
  cases value with
  | none =>
    have hnone : enumType.find? (fun enumerator => enumerator.1 = misnomer.text) = none := by
      rw [List.find?_eq_none]
      intro enumerator hmem heq
      exact hforeign (of_decide_eq_true heq ▸ List.mem_map_of_mem hmem)
    simp [hnone]
  | some text =>
    simp only [Option.getD_some, Option.mem_some]
    cases hfind : enumType.find? (fun enumerator => enumerator.1 = text) with
    | none => simp [hfind]
    | some enumerator => simp [hfind]

theorem enum_support {result : AvrcpAbsoluteVolumeSupport} :
    enum (snapshot.payload misnomer) "support" avrcpSupport = .ok result ↔
      snapshot.support = some result := by
  have hmem : ("support", .string (supportName snapshot.support)) ∈ snapshot.jsonFields := by
    simp [AvrcpVolumeObserveSnapshot.jsonFields]
  rw [enum_field hmem (fun hmem => misnomer.foreign (by simp [enumerators, hmem]))]
  rcases snapshot.support with _ | support
  · simp [supportName]
  · cases support <;> cases result <;> simp [supportName, avrcpSupport]

theorem enum_xm5Event {result : AvrcpXm5VolumeEvent} :
    enum (snapshot.payload misnomer) "xm5_event" xm5VolumeEvent = .ok result ↔
      snapshot.xm5Event = some result := by
  have hmem : ("xm5_event", .string (xm5EventName snapshot.xm5Event)) ∈ snapshot.jsonFields := by
    simp [AvrcpVolumeObserveSnapshot.jsonFields]
  rw [enum_field hmem (fun hmem => misnomer.foreign (by simp [enumerators, hmem]))]
  rcases snapshot.xm5Event with _ | event
  · simp [xm5EventName]
  · cases event <;> cases result <;> simp [xm5EventName, xm5VolumeEvent]

theorem enum_mode {mode : Option AvrcpAbsoluteVolumeGateMode}
    {result : AvrcpAbsoluteVolumeGateMode}
    (hmem : (name, .string (gateModeName mode)) ∈ snapshot.jsonFields) :
    enum (snapshot.payload misnomer) name volumeGateMode = .ok result ↔ mode = some result := by
  rw [enum_field hmem (fun hmem => misnomer.foreign (by simp [enumerators, hmem]))]
  rcases mode with _ | mode
  · simp [gateModeName]
  · cases mode <;> cases result <;> simp [gateModeName, volumeGateMode]

theorem bind_eq_ok {ε α β : Type} {x : Except ε α} {f : α → Except ε β} {result : β} :
    (x >>= f) = .ok result ↔ ∃ a, x = .ok a ∧ f a = .ok result := by
  cases x with
  | error e => simp [bind, Except.bind]
  | ok a => simp [bind, Except.bind]

theorem raiseIf_eq_ok {condition : Prop} [Decidable condition] {text : String} {result : Unit} :
    raiseIf condition text = .ok result ↔ ¬ condition := by
  unfold raiseIf
  split <;> simp [*]

end

/-- The values of a snapshot, with these enumerators. -/
def AvrcpVolumeObserveSnapshot.recordWith (snapshot : AvrcpVolumeObserveSnapshot)
    (support : AvrcpAbsoluteVolumeSupport) (xm5Event : AvrcpXm5VolumeEvent)
    (requestedMode enforcedReplayMode : AvrcpAbsoluteVolumeGateMode) : AvrcpObserveSnapshot where
  schemaVersion := snapshot.schemaVersion
  replayedEventCount := snapshot.replayedEventCount
  lastSequence := snapshot.lastSequence.toNat
  generationsStarted := snapshot.generationsStarted
  generationsEnded := snapshot.generationsEnded
  currentGeneration := snapshot.currentGeneration.toNat
  generationCurrent := snapshot.generationCurrent
  support := support
  capabilityEventCount := snapshot.capabilityEventCount
  windowsVolumeObserved := snapshot.windowsVolumeObserved
  windowsVolumePercent := snapshot.windowsVolume.percent
  windowsVolumeMuted := snapshot.windowsVolume.muted
  windowsCallbackCount := snapshot.windowsCallbackCount
  xm5VolumeObserved := snapshot.xm5VolumeObserved
  xm5AbsoluteVolume := snapshot.xm5AbsoluteVolume
  xm5Event := xm5Event
  xm5CommandResponseCount := snapshot.xm5CommandResponseCount
  xm5RemoteNotificationCount := snapshot.xm5RemoteNotificationCount
  ownerLease := snapshot.ownerLease.toNat
  leaseAcquireCount := snapshot.leaseAcquireCount
  leaseRevokeCount := snapshot.leaseRevokeCount
  requestedMode := requestedMode
  modeChangeCount := snapshot.modeChangeCount
  enforcedReplayMode := enforcedReplayMode
  emittedActionCount := snapshot.emittedActionCount

def AvrcpVolumeObserveSnapshot.record? (snapshot : AvrcpVolumeObserveSnapshot) :
    Option AvrcpObserveSnapshot := do
  some (snapshot.recordWith (← snapshot.support) (← snapshot.xm5Event) (← snapshot.requestedMode)
    (← snapshot.enforcedReplayMode))

namespace ObserveSnapshotReader

/-- The ranges of the fields of a record. -/
structure InRange (r : AvrcpObserveSnapshot) : Prop where
  schemaVersion : r.schemaVersion = schemaVersion
  replayedEventCount : r.replayedEventCount ≤ maxEventCount
  counts : ∀ value ∈ counts r, value ≤ maxEventCount
  lastSequence : r.lastSequence ≤ maxUint64
  currentGeneration : r.currentGeneration ≤ maxUint64
  windowsVolumePercent : r.windowsVolumePercent ≤ 100
  xm5AbsoluteVolume : r.xm5AbsoluteVolume ≤ 127
  ownerLease : r.ownerLease ≤ maxUint64
  emittedActionCount : r.emittedActionCount ≤ maxEventCount

end ObserveSnapshotReader

section
variable {misnomer : Misnomer} {snapshot : AvrcpVolumeObserveSnapshot} {r : AvrcpObserveSnapshot}

theorem record_eq_some : snapshot.record? = some r ↔
    ∃ support event requested enforced, snapshot.support = some support ∧
      snapshot.xm5Event = some event ∧ snapshot.requestedMode = some requested ∧
      snapshot.enforcedReplayMode = some enforced ∧
      snapshot.recordWith support event requested enforced = r := by
  simp only [AvrcpVolumeObserveSnapshot.record?, Option.bind_eq_bind, Option.bind_eq_some_iff,
    Option.some.injEq]
  constructor
  · rintro ⟨support, hsupport, event, hevent, requested, hrequested, enforced, henforced, heq⟩
    exact ⟨support, event, requested, enforced, hsupport, hevent, hrequested, henforced, heq⟩
  · rintro ⟨support, event, requested, enforced, hsupport, hevent, hrequested, henforced, heq⟩
    exact ⟨support, hsupport, event, hevent, requested, hrequested, enforced, henforced, heq⟩

theorem readFields_iff : readFields (snapshot.payload misnomer) = .ok r ↔
    snapshot.record? = some r ∧ InRange r := by
  have hrequested : ∀ {result}, enum (snapshot.payload misnomer) "requested_mode" volumeGateMode =
      .ok result ↔ snapshot.requestedMode = some result :=
    enum_mode (by simp [AvrcpVolumeObserveSnapshot.jsonFields])
  have henforced : ∀ {result}, enum (snapshot.payload misnomer) "enforced_replay_mode"
      volumeGateMode = .ok result ↔ snapshot.enforcedReplayMode = some result :=
    enum_mode (by simp [AvrcpVolumeObserveSnapshot.jsonFields])
  unfold readFields
  simp only [bind_eq_ok, raiseIf_eq_ok, uint_eq_ok, boolean_eq_ok, enum_support, enum_xm5Event,
    hrequested, henforced]
  simp only [AvrcpVolumeObserveSnapshot.jsonFields, List.mem_cons, Prod.mk.injEq, String.reduceEq,
    JsonValue.unsigned.injEq, JsonValue.boolean.injEq, reduceCtorEq, true_and, false_and, false_or,
    or_false, and_false, List.not_mem_nil, exists_eq_left, and_assoc, exists_and_left,
    exists_eq_left', exists_const]
  constructor
  · rintro ⟨hversion, hschema, hreplayed, hsequence, hstarted, hended, hgeneration, support,
      hsupport, hcapability, hpercent, hcallback, hvolume, event, hevent, hresponse, hremote,
      hlease, hacquire, hrevoke, requested, hrequested, hmode, enforced, henforced, hemitted, heq⟩
    cases heq
    refine ⟨record_eq_some.mpr ⟨support, event, requested, enforced, hsupport, hevent, hrequested,
        henforced, rfl⟩,
      not_not.mp hschema, hreplayed, ?_, hsequence, hgeneration, hpercent, hvolume, hlease,
      hemitted⟩
    simp only [counts, List.forall_mem_cons, List.not_mem_nil, false_implies, implies_true,
      and_true]
    exact ⟨hstarted, hended, hcapability, hcallback, hresponse, hremote, hacquire, hrevoke, hmode⟩
  · rintro ⟨hrecord, hrange⟩
    obtain ⟨support, event, requested, enforced, hsupport, hevent, hrequested, henforced, rfl⟩ :=
      record_eq_some.mp hrecord
    obtain ⟨hschema, hreplayed, hcounts, hsequence, hgeneration, hpercent, hvolume, hlease,
      hemitted⟩ := hrange
    simp only [counts, List.forall_mem_cons, List.not_mem_nil, false_implies, implies_true,
      and_true] at hcounts
    obtain ⟨hstarted, hended, hcapability, hcallback, hresponse, hremote, hacquire, hrevoke,
      hmode⟩ := hcounts
    have hversion : snapshot.schemaVersion ≤ 2 ^ 32 - 1 := hschema.le.trans (by decide)
    exact ⟨hversion, not_not.mpr hschema, hreplayed, hsequence, hstarted, hended, hgeneration,
      support, hsupport, hcapability, hpercent, hcallback, hvolume, event, hevent, hresponse,
      hremote, hlease, hacquire, hrevoke, requested, hrequested, hmode, enforced, henforced,
      hemitted, rfl⟩

theorem decide_ne_iff {p q : Prop} [Decidable p] [Decidable q] :
    decide p ≠ decide q ↔ p ∧ ¬ q ∨ ¬ p ∧ q := by
  by_cases hp : p <;> by_cases hq : q <;> simp [hp, hq]

theorem eq_zero_iff (value : UInt64) : value = 0 ↔ value.toNat = 0 :=
  UInt64.toNat_inj.symm

theorem validate_iff (hrecord : snapshot.record? = some r) :
    validateSnapshot snapshot = .succeeded ↔ InRange r ∧ checkFields r = .ok () := by
  obtain ⟨support, event, requested, enforced, hsupport, hevent, hrequested, henforced, rfl⟩ :=
    record_eq_some.mp hrecord
  have hnames : ¬ (supportName snapshot.support = none ∨ xm5EventName snapshot.xm5Event = none ∨
      gateModeName snapshot.requestedMode = none ∨
      gateModeName snapshot.enforcedReplayMode = none) := by
    rw [hsupport, hevent, hrequested, henforced]
    cases support <;> cases event <;> cases requested <;> cases enforced <;>
      simp [supportName, xm5EventName, gateModeName]
  have hsum : snapshot.generationsStarted + (snapshot.generationsEnded +
      (snapshot.capabilityEventCount + (snapshot.windowsCallbackCount +
      (snapshot.xm5CommandResponseCount + (snapshot.xm5RemoteNotificationCount +
      (snapshot.leaseAcquireCount + (snapshot.leaseRevokeCount +
      (snapshot.modeChangeCount + 0)))))))) = snapshot.categorized := by
    unfold AvrcpVolumeObserveSnapshot.categorized
    omega
  unfold validateSnapshot
  rw [if_neg hnames, hsupport, hrequested, henforced]
  simp only [checkFields, bind_eq_ok, raiseIf_eq_ok, exists_const, decide_ne_iff]
  simp only [counts, AvrcpVolumeObserveSnapshot.recordWith, List.sum_cons, List.sum_nil, hsum,
    not_or, and_assoc, ← eq_zero_iff, ite_eq_iff, reduceCtorEq, and_false, false_or, and_true,
    ne_eq, not_exists, not_and, not_not, not_lt, gt_iff_lt, List.forall_mem_cons,
    List.not_mem_nil, false_implies, implies_true, Option.some.injEq]
  constructor
  · rintro ⟨hschema, hreplayed, hstarted, hended, hcapability, hcallback, hresponse, hremote,
      hacquire, hrevoke, hmode, hpercent, hvolume, htotal, hsequence, hrest⟩
    have hchecked := hrest
    obtain ⟨-, -, -, -, -, -, -, -, -, -, -, -, -, -, -, -, hemitted⟩ := hchecked
    have hreplayed' : snapshot.replayedEventCount < 2 ^ 64 := hreplayed.trans_lt (by decide)
    refine ⟨⟨hschema, hreplayed, ?_, ?_, ?_, hpercent, hvolume, ?_, ?_⟩,
      hstarted, hended, hcapability, hcallback, hresponse, hremote, hacquire, hrevoke, hmode,
      htotal, ?_, hrest⟩
    · simp only [counts, List.forall_mem_cons, List.not_mem_nil, false_implies, implies_true,
        and_true]
      exact ⟨hstarted.trans hreplayed, hended.trans hreplayed, hcapability.trans hreplayed,
        hcallback.trans hreplayed, hresponse.trans hreplayed, hremote.trans hreplayed,
        hacquire.trans hreplayed, hrevoke.trans hreplayed, hmode.trans hreplayed⟩
    · exact Nat.le_sub_one_of_lt snapshot.lastSequence.toNat_lt
    · exact Nat.le_sub_one_of_lt snapshot.currentGeneration.toNat_lt
    · exact Nat.le_sub_one_of_lt snapshot.ownerLease.toNat_lt
    · exact hemitted.le.trans (by decide)
    · rw [hsequence, UInt64.toNat_ofNat_of_lt' hreplayed']
  · rintro ⟨⟨hschema, hreplayed, -, -, -, hpercent, hvolume, -, -⟩,
      hstarted, hended, hcapability, hcallback, hresponse, hremote, hacquire, hrevoke, hmode,
      htotal, hsequence, hrest⟩
    refine ⟨hschema, hreplayed, hstarted, hended, hcapability, hcallback, hresponse, hremote,
      hacquire, hrevoke, hmode, hpercent, hvolume, htotal, ?_, hrest⟩
    rw [← hsequence, UInt64.ofNat_toNat]

/-- `categorized_events`, in the 64 bits of the writer. -/
def AvrcpVolumeObserveSnapshot.categorizedEvents (snapshot : AvrcpVolumeObserveSnapshot) : UInt64 :=
  UInt64.ofNat snapshot.generationsStarted + UInt64.ofNat snapshot.generationsEnded +
    UInt64.ofNat snapshot.capabilityEventCount + UInt64.ofNat snapshot.windowsCallbackCount +
    UInt64.ofNat snapshot.xm5CommandResponseCount +
    UInt64.ofNat snapshot.xm5RemoteNotificationCount + UInt64.ofNat snapshot.leaseAcquireCount +
    UInt64.ofNat snapshot.leaseRevokeCount + UInt64.ofNat snapshot.modeChangeCount

open AvrcpVolumeObserveSnapshot (categorized categorizedEvents jsonFields recordWith)

theorem categorizedEvents_eq_iff (hnames : validateSnapshot snapshot ≠ .invalidEnum)
    (hrange : validateSnapshot snapshot ≠ .outOfRange) :
    snapshot.categorizedEvents = UInt64.ofNat snapshot.replayedEventCount ↔
      snapshot.categorized = snapshot.replayedEventCount := by
  have hsum : snapshot.categorizedEvents = UInt64.ofNat snapshot.categorized := by
    simp only [categorizedEvents,
      categorized, UInt64.ofNat_add]
  unfold validateSnapshot at hnames hrange
  split at hrange
  · rename_i hnone
    exact absurd (if_pos hnone) hnames
  · split at hrange
    · exact absurd rfl hrange
    · rename_i hinside
      simp only [not_or, not_lt, gt_iff_lt, avrcpVolumeObserveLogCapacity] at hinside
      rw [hsum, ← UInt64.toNat_inj, UInt64.toNat_ofNat_of_lt', UInt64.toNat_ofNat_of_lt']
      · simp only [UInt64.size]
        omega
      · simp only [UInt64.size, categorized]
        omega

theorem parse_jsonText : parseAvrcpObserveSnapshotJson (snapshot.jsonText misnomer) = .ok r ↔
    ((snapshot.jsonText misnomer).map Char.utf8Size).sum ≤ maxJsonBytes ∧
      snapshot.record? = some r ∧ InRange r ∧ checkFields r = .ok () := by
  unfold parseAvrcpObserveSnapshotJson
  rw [decodeJson_jsonText]
  simp only [bind_eq_ok, ite_eq_iff, reduceCtorEq, and_false, false_or, Except.ok.injEq, not_lt,
    gt_iff_lt]
  constructor
  · rintro ⟨_, ⟨hsize, rfl⟩, r', hread, _, hchecked, hr⟩
    obtain ⟨hrecord, hrange⟩ := readFields_iff.mp hread
    cases hr
    exact ⟨hsize, hrecord, hrange, hchecked⟩
  · rintro ⟨hsize, hrecord, hrange, hchecked⟩
    exact ⟨_, ⟨hsize, rfl⟩, r, readFields_iff.mpr ⟨hrecord, hrange⟩, (), hchecked, rfl⟩

/-! ### A snapshot that is valid -/

theorem enumerators_of_record (hrecord : snapshot.record? = some r) :
    snapshot.support ≠ none ∧ snapshot.xm5Event ≠ none ∧ snapshot.requestedMode ≠ none ∧
      snapshot.enforcedReplayMode ≠ none := by
  obtain ⟨support, event, requested, enforced, hsupport, hevent, hrequested, henforced, -⟩ :=
    record_eq_some.mp hrecord
  rw [hsupport, hevent, hrequested, henforced]
  exact ⟨Option.some_ne_none _, Option.some_ne_none _, Option.some_ne_none _,
    Option.some_ne_none _⟩

theorem places_inRange (hrecord : snapshot.record? = some r) (hrange : InRange r) :
    ∀ field ∈ snapshot.jsonFields, field.2.Places := by
  obtain ⟨support, event, requested, enforced, -, -, -, -, rfl⟩ := record_eq_some.mp hrecord
  obtain ⟨hschema, hreplayed, hcounts, hsequence, hgeneration, hpercent, hvolume, hlease,
    hemitted⟩ := hrange
  simp only [counts, List.forall_mem_cons] at hcounts
  simp only [recordWith, schemaVersion, maxEventCount,
    maxUint64] at *
  simp only [jsonFields, List.forall_mem_cons, JsonValue.Places,
    List.not_mem_nil, false_implies, implies_true, true_and, and_true]
  omega

theorem ascii_jsonText (hrecord : snapshot.record? = some r) :
    Ascii (snapshot.jsonText misnomer) := by
  refine Json.Layout.ascii_object fun field hfield => ?_
  obtain ⟨field, hmem, rfl⟩ := List.mem_map.mp hfield
  have hnames : ∀ name ∈ fieldOrder, Ascii name.toList := by decide
  have henumerators : ∀ name ∈ enumerators, Ascii name.toList := by decide
  refine ⟨hnames _ (names_fieldOrder _ ▸ List.mem_map_of_mem hmem), fun raw hraw => ?_⟩
  obtain ⟨hsupport, hevent, hmode, henforced⟩ := enumerators_of_record hrecord
  have hshort := (shortField_named hsupport hevent hmode henforced field hmem).2
  obtain ⟨name, value⟩ := field
  cases value with
  | unsigned value => cases hraw
  | boolean value => cases hraw
  | string value =>
    cases value with
    | none => exact hshort.elim
    | some text =>
      cases hraw
      exact henumerators text (names_enumerators hmem text rfl)

theorem record_of_valid (hvalid : validateSnapshot snapshot = .succeeded) :
    ∃ r, snapshot.record? = some r := by
  unfold validateSnapshot at hvalid
  split at hvalid
  · cases hvalid
  · rename_i hnames
    simp only [not_or] at hnames
    obtain ⟨hsupport, hevent, hmode, henforced⟩ := hnames
    obtain ⟨support, hsupport⟩ : ∃ support, snapshot.support = some support :=
      Option.ne_none_iff_exists'.mp fun h => hsupport (by rw [h]; rfl)
    obtain ⟨event, hevent⟩ : ∃ event, snapshot.xm5Event = some event :=
      Option.ne_none_iff_exists'.mp fun h => hevent (by rw [h]; rfl)
    obtain ⟨requested, hmode⟩ : ∃ requested, snapshot.requestedMode = some requested :=
      Option.ne_none_iff_exists'.mp fun h => hmode (by rw [h]; rfl)
    obtain ⟨enforced, henforced⟩ : ∃ enforced, snapshot.enforcedReplayMode = some enforced :=
      Option.ne_none_iff_exists'.mp fun h => henforced (by rw [h]; rfl)
    exact ⟨_, record_eq_some.mpr ⟨support, event, requested, enforced, hsupport, hevent, hmode,
      henforced, rfl⟩⟩

theorem valid_agrees (misnomer : Misnomer) (hrecord : snapshot.record? = some r)
    (hvalid : validateSnapshot snapshot = .succeeded) (spare : Nat) :
    serializeAvrcpVolumeObserveSnapshotJson snapshot
        ((snapshot.jsonText misnomer).length + 1 + spare) = .ok (snapshot.jsonText misnomer) ∧
      parseAvrcpObserveSnapshotJson (snapshot.jsonText misnomer) = .ok r := by
  obtain ⟨hrange, hchecked⟩ := (validate_iff hrecord).mp hvalid
  obtain ⟨hsupport, hevent, hmode, henforced⟩ := enumerators_of_record hrecord
  have hstaged := stagedJson_fits (shortField_named hsupport hevent hmode henforced)
  have htext := writer_text misnomer (places_inRange hrecord hrange) hstaged.1
  have hlength := hstaged.2
  rw [htext] at hlength
  constructor
  · rw [serialize_staged hvalid hstaged.1 (by rw [htext]; omega), htext]
  · rw [parse_jsonText, (ascii_jsonText hrecord).size]
    exact ⟨hlength.trans (by decide), hrecord, hrange, hchecked⟩

theorem invalid_agrees (misnomer : Misnomer) (hvalid : validateSnapshot snapshot ≠ .succeeded)
    (spare : Nat) :
    (∃ status, serializeAvrcpVolumeObserveSnapshotJson snapshot
        ((snapshot.jsonText misnomer).length + 1 + spare) = .error status) ∧
      ∃ e, parseAvrcpObserveSnapshotJson (snapshot.jsonText misnomer) = .error e := by
  constructor
  · unfold serializeAvrcpVolumeObserveSnapshotJson
    rw [if_neg (by omega), if_pos hvalid]
    exact ⟨_, rfl⟩
  · cases hparse : parseAvrcpObserveSnapshotJson (snapshot.jsonText misnomer) with
    | error e => exact ⟨e, rfl⟩
    | ok r =>
      obtain ⟨-, hrecord, hchecked⟩ := parse_jsonText.mp hparse
      exact absurd ((validate_iff hrecord).mpr hchecked) hvalid

/-- **The writer and the reader of the observe snapshot agree**, whatever the values of the
    snapshot: the writer writes the text of the snapshot exactly if the reader accepts it, and then
    the record of the reader has the values of the snapshot. -/
theorem observeSnapshot_agrees (misnomer : Misnomer) (snapshot : AvrcpVolumeObserveSnapshot)
    (spare : Nat) :
    Option.Rel (fun written r => written = snapshot.jsonText misnomer ∧ snapshot.record? = some r)
      (serializeAvrcpVolumeObserveSnapshotJson snapshot
        ((snapshot.jsonText misnomer).length + 1 + spare)).toOption
      (parseAvrcpObserveSnapshotJson (snapshot.jsonText misnomer)).toOption := by
  by_cases hvalid : validateSnapshot snapshot = .succeeded
  · obtain ⟨r, hrecord⟩ := record_of_valid hvalid
    obtain ⟨hwritten, hparsed⟩ := valid_agrees misnomer hrecord hvalid spare
    rw [hwritten, hparsed]
    exact .some ⟨rfl, hrecord⟩
  · obtain ⟨⟨status, hwritten⟩, e, hparsed⟩ :=
      invalid_agrees misnomer hvalid spare
    rw [hwritten, hparsed]
    exact .none

end

end NativeLdac.Agent
