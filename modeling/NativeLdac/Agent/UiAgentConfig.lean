/-
  The configuration of the agent as the user interface reads and writes it
  (`ui/agent_config.py`: `_parse_config`, `load_config`, `save_config`, `update_config`).

  * `parseConfig` takes what `json.loads` gives to a configuration, and `saveConfig` gives the text
    of the file;
  * `parseConfig_toOption`: a configuration is accepted when each of its fields is;
  * `loads_saved` and `parseConfig_saved`: what is saved is read back;
  * `configFile` is the file under updates, `configStore` what it is for: `configFile_refines`.

  `floatInt` is the integer that the number of a literal with a point or an exponent equals, if
  there is one.
-/
import NativeLdac.Lib.Json
import NativeLdac.Lib.Reducer

namespace NativeLdac.Agent

open Json (unescape codes intValue)

namespace Ui

def validQualities : List String := ["mq", "sq", "hq", "auto"]
def validChannelModes : List String := ["stereo", "dual", "mono"]
def validSampleRates : List Int := [44100, 48000, 88200, 96000]
def validBitsPerSample : List Int := [16, 24]

structure AgentConfig where
  enabled : Bool := true
  quality : String := "hq"
  revision : Int := 0
  channelMode : String := "stereo"
  sampleRate : Int := 48000
  bitsPerSample : Int := 16
deriving DecidableEq, Repr

inductive Error where
  | valueError (message : String)
  | jsonDecodeError
  /-- A list or an object is looked for in a set. -/
  | typeError
deriving DecidableEq, Repr

def raiseIf (condition : Prop) [Decidable condition] (message : String) : Except Error Unit :=
  if condition then .error (.valueError message) else .ok ()

/-- The members that a field names. -/
def named (members : List (List Char × Json)) (field : String) : List (List Char × Json) :=
  members.filter fun member => unescape member.1 = codes field.toList

/-- `payload.get(field)`: of members with the same key, the last one stays. -/
def get (members : List (List Char × Json)) (field : String) : Option Json :=
  (named members field).getLast?.map Prod.snd

section
variable (floatInt : List Char → Option Int)

/-- The integer that a value equals. -/
def numeric : Json → Option Int
  | .int negative digits => some (intValue negative digits)
  | .bool value => some (if value then 1 else 0)
  | .float literal => floatInt literal
  | _ => none

/-- `payload.get("version")`, which has to be one of 1, 2 and 3. -/
def versionField (value : Option Json) : Except Error Int :=
  match (value.bind (numeric floatInt)).filter (fun n => n ∈ [1, 2, 3]) with
  | some version => .ok version
  | none => .error (.valueError "unsupported agent config version")

/-- A value that has to be in a set of integers. -/
def numberField (allowed : List Int) (message : String) : Json → Except Error Int
  | .arr _ => .error .typeError
  | .obj _ => .error .typeError
  | value =>
    match (numeric floatInt value).filter (fun n => n ∈ allowed) with
    | some n => .ok n
    | none => .error (.valueError message)

def stringField (allowed : List String) (message : String) : Option Json → Except Error String
  | some (.str raw) =>
    match allowed.find? (fun word => codes word.toList = unescape raw) with
    | some word => .ok word
    | none => .error (.valueError message)
  | _ => .error (.valueError message)

def enabledField : Option Json → Except Error Bool
  | some (.bool enabled) => .ok enabled
  | _ => .error (.valueError "enabled must be boolean")

def requireInt (field : String) : Option Json → Except Error Int
  | some (.int negative digits) =>
    if intValue negative digits < 0 then
      .error (.valueError s!"{field} must be a non-negative integer")
    else .ok (intValue negative digits)
  | _ => .error (.valueError s!"{field} must be a non-negative integer")

def channelModeField (version : Int) (value : Option Json) : Except Error String := do
  raiseIf (version ≥ 2 ∧ value.isNone) "channel_mode is missing"
  stringField validChannelModes "channel_mode is invalid" (value.getD (.str "stereo".toList))

/-- The sample rate and the bit depth. -/
def formatFields (version : Int) (rate bits : Option Json) : Except Error (Int × Int) := do
  raiseIf (version = 3 ∧ (rate.isNone ∨ bits.isNone)) "endpoint format is missing"
  let sampleRate ← numberField floatInt validSampleRates "sample_rate is invalid"
    (rate.getD (.int false "48000".toList))
  let bitsPerSample ← numberField floatInt validBitsPerSample "bits_per_sample is invalid"
    (bits.getD (.int false "16".toList))
  return (sampleRate, bitsPerSample)

def parseConfig (payload : Json) : Except Error AgentConfig :=
  match payload with
  | .obj members => do
    let version ← versionField floatInt (get members "version")
    let enabled ← enabledField (get members "enabled")
    let quality ← stringField validQualities "quality is invalid" (get members "quality")
    let revision ← requireInt "revision" (get members "revision")
    let channelMode ← channelModeField version (get members "channel_mode")
    let (sampleRate, bitsPerSample) ←
      formatFields floatInt version (get members "sample_rate") (get members "bits_per_sample")
    return { enabled, quality, revision, channelMode, sampleRate, bitsPerSample }
  | _ => .error (.valueError "unsupported agent config version")

/-- `load_config`, of the text of the file if there is one. -/
def loadConfig (defaultQuality : String) (file : Option (List Char)) :
    Except Error AgentConfig := do
  raiseIf (defaultQuality ∉ validQualities) "default quality is invalid"
  match file with
  | none => .ok { quality := defaultQuality }
  | some text =>
    match Json.loads (fun _ => true) text with
    | some payload => parseConfig floatInt payload
    | none => .error .jsonDecodeError

end

/-! ## Saving -/

/-- `indent=2` -/
def layout : Json.Layout := { lead := "\n  ".toList, gap := [' '], close := ['\n'] }

def payload (config : AgentConfig) : List (List Char × Json.Scalar) :=
  [("version".toList, .nat 3), ("revision".toList, .nat config.revision.toNat),
    ("enabled".toList, .bool config.enabled), ("quality".toList, .str config.quality.toList),
    ("channel_mode".toList, .str config.channelMode.toList),
    ("sample_rate".toList, .nat config.sampleRate.toNat),
    ("bits_per_sample".toList, .nat config.bitsPerSample.toNat)]

def savedText (config : AgentConfig) : List Char := layout.object (payload config) ++ ['\n']

/-- What `save_config` lets pass. -/
def AgentConfig.Valid (config : AgentConfig) : Prop :=
  config.quality ∈ validQualities ∧ config.channelMode ∈ validChannelModes ∧
    config.sampleRate ∈ validSampleRates ∧ config.bitsPerSample ∈ validBitsPerSample ∧
    0 ≤ config.revision

instance (config : AgentConfig) : Decidable config.Valid := by
  unfold AgentConfig.Valid
  infer_instance

/-- `save_config`: the text that the file has afterwards. -/
def saveConfig (config : AgentConfig) : Except Error (List Char) := do
  raiseIf (¬ config.Valid) "agent config is invalid"
  return savedText config

/-- The arguments of `update_config`. -/
structure Update where
  enabled : Option Bool := none
  quality : Option String := none
  channelMode : Option String := none
  sampleRate : Option Int := none
  bitsPerSample : Option Int := none

/-- The configuration that an update starts from: that of the file, or the default one where it is
not valid. -/
def currentConfig (floatInt : List Char → Option Int) (file : Option (List Char)) :
    Except Error AgentConfig :=
  match loadConfig floatInt "hq" file with
  | .ok current => .ok current
  | .error .typeError => .error .typeError
  | .error _ => .ok {}

def Update.apply (update : Update) (current : AgentConfig) : AgentConfig where
  enabled := update.enabled.getD current.enabled
  quality := update.quality.getD current.quality
  revision := current.revision + 1
  channelMode := update.channelMode.getD current.channelMode
  sampleRate := update.sampleRate.getD current.sampleRate
  bitsPerSample := update.bitsPerSample.getD current.bitsPerSample

/-- `update_config`: the configuration that is returned, and the text of the file. -/
def updateConfig (floatInt : List Char → Option Int) (file : Option (List Char)) (update : Update) :
    Except Error (AgentConfig × List Char) := do
  let current ← currentConfig floatInt file
  let text ← saveConfig (update.apply current)
  return (update.apply current, text)

theorem saveConfig_eq_ok {config : AgentConfig} {text : List Char} :
    saveConfig config = .ok text ↔ config.Valid ∧ savedText config = text := by
  rw [saveConfig, raiseIf]
  by_cases hvalid : config.Valid
  · rw [if_neg (not_not.mpr hvalid)]
    exact ⟨fun h => ⟨hvalid, Except.ok.inj h⟩, fun h => congrArg Except.ok h.2⟩
  · rw [if_pos hvalid]
    exact ⟨(fun h => by cases h), fun h => absurd h.1 hvalid⟩

/-! ## What is accepted -/

theorem toOption_bind {α β : Type} (x : Except Error α) (f : α → Except Error β) :
    (x >>= f).toOption = x.toOption.bind fun a => (f a).toOption := by
  cases x <;> rfl

theorem toOption_raiseIf {β : Type} (condition : Prop) [Decidable condition] (message : String)
    (f : Unit → Except Error β) :
    (raiseIf condition message >>= f).toOption = if condition then none else (f ()).toOption := by
  unfold raiseIf
  split <;> rfl

section
variable (floatInt : List Char → Option Int)

theorem versionField_toOption (value : Option Json) :
    (versionField floatInt value).toOption =
      (value.bind (numeric floatInt)).filter fun n => n ∈ [1, 2, 3] := by
  unfold versionField
  generalize (value.bind (numeric floatInt)).filter _ = version
  cases version <;> rfl

theorem numberField_toOption (allowed : List Int) (message : String) (value : Json) :
    (numberField floatInt allowed message value).toOption =
      (numeric floatInt value).filter fun n => n ∈ allowed := by
  unfold numberField
  split
  · rfl
  · rfl
  · generalize (numeric floatInt value).filter _ = n
    cases n <;> rfl

theorem parseConfig_toOption (members : List (List Char × Json)) :
    (parseConfig floatInt (.obj members)).toOption =
      (versionField floatInt (get members "version")).toOption.bind fun version =>
        (requireInt "revision" (get members "revision")).toOption.bind fun revision =>
          (enabledField (get members "enabled")).toOption.bind fun enabled =>
            (stringField validQualities "quality is invalid"
                (get members "quality")).toOption.bind fun quality =>
              (channelModeField version (get members "channel_mode")).toOption.bind
                fun channelMode =>
                  (formatFields floatInt version (get members "sample_rate")
                      (get members "bits_per_sample")).toOption.map fun format =>
                    ⟨enabled, quality, revision, channelMode, format.1, format.2⟩ := by
  simp only [parseConfig, toOption_bind]
  refine Option.bind_congr fun version _ => ?_
  cases requireInt "revision" (get members "revision") with
  | error e =>
    cases enabledField (get members "enabled") with
    | error e' => rfl
    | ok enabled =>
      cases stringField validQualities "quality is invalid" (get members "quality") <;> rfl
  | ok revision =>
    have hrevision : (Except.ok revision : Except Error Int).toOption = some revision := rfl
    simp only [hrevision, Option.bind_some]
    refine Option.bind_congr fun enabled _ => Option.bind_congr fun quality _ =>
      Option.bind_congr fun channelMode _ => ?_
    exact Option.map_eq_bind.symm

end

/-! ## What is saved -/

theorem intValue_toDigits {n : Int} (hn : 0 ≤ n) :
    intValue false (Nat.toDigits 10 n.toNat) = n := by
  simp only [intValue, Nat.ofDigitChars_ten_toDigits, Bool.false_eq_true, if_false]
  exact Int.toNat_of_nonneg hn

def savedMembers (config : AgentConfig) : List (List Char × Json) :=
  (payload config).map Json.Layout.pair

theorem plain_choice : ∀ word ∈ validQualities ++ validChannelModes, Json.Plain word.toList := by
  decide

theorem loads_saved {config : AgentConfig} (h : config.Valid) :
    Json.loads (fun _ => true) (savedText config) = some (.obj (savedMembers config)) := by
  obtain ⟨hquality, hmode, -, -, -⟩ := h
  have hplain : ∀ field ∈ payload config, Json.Plain field.1 ∧ field.2.Plain := by
    simp only [payload, List.forall_mem_cons, List.not_mem_nil, false_implies, implies_true,
      and_true]
    refine ⟨⟨?_, trivial⟩, ⟨?_, trivial⟩, ⟨?_, trivial⟩, ⟨?_, plain_choice _ ?_⟩,
      ⟨?_, plain_choice _ ?_⟩, ⟨?_, trivial⟩, ⟨?_, trivial⟩⟩
    all_goals first | decide | exact List.mem_append_left _ hquality |
      exact List.mem_append_right _ hmode
  exact Json.loads_object layout
    (fun field hmem => ⟨(hplain field hmem).1, (hplain field hmem).2, rfl⟩) rfl (by decide)

theorem get_saved (config : AgentConfig) :
    get (savedMembers config) "version" = some (.int false (Nat.toDigits 10 3)) ∧
      get (savedMembers config) "revision" =
        some (.int false (Nat.toDigits 10 config.revision.toNat)) ∧
      get (savedMembers config) "enabled" = some (.bool config.enabled) ∧
      get (savedMembers config) "quality" = some (.str config.quality.toList) ∧
      get (savedMembers config) "channel_mode" = some (.str config.channelMode.toList) ∧
      get (savedMembers config) "sample_rate" =
        some (.int false (Nat.toDigits 10 config.sampleRate.toNat)) ∧
      get (savedMembers config) "bits_per_sample" =
        some (.int false (Nat.toDigits 10 config.bitsPerSample.toNat)) :=
  ⟨rfl, rfl, rfl, rfl, rfl, rfl, rfl⟩

theorem stringField_choice (message : String) :
    (∀ word ∈ validQualities, stringField validQualities message (some (.str word.toList)) =
      .ok word) ∧
    ∀ word ∈ validChannelModes, stringField validChannelModes message (some (.str word.toList)) =
      .ok word := by
  constructor
  · simp only [validQualities, List.forall_mem_cons, List.not_mem_nil, false_implies, implies_true,
      and_true]
    exact ⟨rfl, rfl, rfl, rfl⟩
  · simp only [validChannelModes, List.forall_mem_cons, List.not_mem_nil, false_implies,
      implies_true, and_true]
    exact ⟨rfl, rfl, rfl⟩

theorem numberField_toDigits (floatInt : List Char → Option Int) {allowed : List Int}
    (message : String) {n : Int} (hn : 0 ≤ n) (h : n ∈ allowed) :
    numberField floatInt allowed message (.int false (Nat.toDigits 10 n.toNat)) = .ok n := by
  simp [numberField, numeric, intValue_toDigits hn, h, Option.filter]

theorem parseConfig_saved (floatInt : List Char → Option Int) {config : AgentConfig}
    (h : config.Valid) : parseConfig floatInt (.obj (savedMembers config)) = .ok config := by
  obtain ⟨hquality, hmode, hrate, hbits, hrevision⟩ := h
  obtain ⟨hversion, hgetRevision, henabled, hgetQuality, hgetMode, hgetRate, hgetBits⟩ :=
    get_saved config
  have hrate' : 0 ≤ config.sampleRate := (by decide : ∀ n ∈ validSampleRates, 0 ≤ n) _ hrate
  have hbits' : 0 ≤ config.bitsPerSample := (by decide : ∀ n ∈ validBitsPerSample, 0 ≤ n) _ hbits
  have hthree : versionField floatInt (some (.int false (Nat.toDigits 10 3))) = .ok 3 := rfl
  have hrequired : requireInt "revision"
      (some (.int false (Nat.toDigits 10 config.revision.toNat))) = .ok config.revision := by
    rw [requireInt, intValue_toDigits hrevision, if_neg (by omega)]
  have hchannel : channelModeField 3 (some (.str config.channelMode.toList)) =
      .ok config.channelMode := (stringField_choice _).2 _ hmode
  have hformat : formatFields floatInt 3
      (some (.int false (Nat.toDigits 10 config.sampleRate.toNat)))
      (some (.int false (Nat.toDigits 10 config.bitsPerSample.toNat))) =
      .ok (config.sampleRate, config.bitsPerSample) := by
    simp only [formatFields, Option.getD_some, numberField_toDigits floatInt _ hrate' hrate,
      numberField_toDigits floatInt _ hbits' hbits]
    rfl
  have hbind : ∀ {α β : Type} (a : α) (f : α → Except Error β), (Except.ok a >>= f) = f a :=
    fun _ _ => rfl
  simp only [parseConfig, hversion, hgetRevision, henabled, hgetQuality, hgetMode, hgetRate,
    hgetBits, hthree, hrequired, (stringField_choice _).1 _ hquality, hbind, hchannel, hformat]
  rfl

/-! ## Updates -/

/-- The file under updates; one that fails leaves it alone. -/
def configFile (floatInt : List Char → Option Int) :
    Reducer (Option (List Char)) Update (Except Error AgentConfig) where
  step file update :=
    match updateConfig floatInt file update with
    | .ok (updated, text) => (.ok updated, some text)
    | .error e => (.error e, file)

/-- The update leaves the configuration valid. -/
def accepts (current : AgentConfig) (update : Update) : Bool := (update.apply current).Valid

/-- What the file is for: it keeps a configuration, and takes the updates that leave it valid. -/
def configStore : Reducer AgentConfig Update (Except Error AgentConfig) where
  step current update :=
    if accepts current update then (.ok (update.apply current), update.apply current)
    else (.error (.valueError "agent config is invalid"), current)

section
variable {floatInt : List Char → Option Int} {file : Option (List Char)} {current : AgentConfig}

theorem currentConfig_saved (h : current.Valid) :
    currentConfig floatInt (some (savedText current)) = .ok current := by
  have hload : loadConfig floatInt "hq" (some (savedText current)) = .ok current := by
    unfold loadConfig raiseIf
    rw [if_neg (by decide)]
    dsimp only [bind, Except.bind]
    rw [loads_saved h]
    exact parseConfig_saved floatInt h
  rw [currentConfig, hload]

/-- The file holds the configuration; once one was accepted, it is the text of that one. -/
structure Keeps (floatInt : List Char → Option Int) (first : Option (List Char))
    (start : AgentConfig) (file : Option (List Char)) (current : AgentConfig) : Prop where
  reads : currentConfig floatInt file = .ok current
  saved : current = start ∧ file = first ∨ current.Valid ∧ file = some (savedText current)

theorem Keeps.update {first : Option (List Char)} {start : AgentConfig}
    (h : Keeps floatInt first start file current) (update : Update) :
    (configFile floatInt).out file update = configStore.out current update ∧
      Keeps floatInt first start ((configFile floatInt).next file update)
        (configStore.next current update) := by
  have hupdate : updateConfig floatInt file update =
      saveConfig (update.apply current) >>= fun text => .ok (update.apply current, text) := by
    rw [updateConfig, h.reads]
    rfl
  simp only [Reducer.out, Reducer.next, configFile, configStore, accepts, hupdate, saveConfig,
    raiseIf, decide_eq_true_eq]
  by_cases hvalid : (update.apply current).Valid
  · rw [if_neg (not_not.mpr hvalid), if_pos hvalid]
    exact ⟨rfl, currentConfig_saved hvalid, .inr ⟨hvalid, rfl⟩⟩
  · rw [if_pos hvalid, if_neg hvalid]
    exact ⟨rfl, h⟩

theorem revision_after (current : AgentConfig) (updates : List Update) :
    (configStore.after current updates).revision =
      current.revision + configStore.count accepts current updates := by
  induction updates generalizing current with
  | nil => exact (Int.add_zero _).symm
  | cons update updates ih =>
    rw [Reducer.after_cons, ih, Reducer.count]
    simp only [Reducer.next, configStore]
    cases accepts current update with
    | false => simp
    | true =>
      simp only [if_true, Update.apply, Bool.toNat_true]
      omega

end

end Ui

end NativeLdac.Agent
