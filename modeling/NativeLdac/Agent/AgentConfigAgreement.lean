/-
  The two readers of the configuration of the agent: `ReadAgentConfig` of the agent, which
  searches the text of the file for its keys, and `_parse_config` of the user interface, which is
  given what `json.loads` makes of the text.

  * `PlainConfig`, the texts in which every field of the version stands as the search expects it:
    its name is nowhere in quotes but as a key of the object, and its value is written plainly;
  * `Stands.read`: what the search finds of a field is what the object has of it;
  * `numbers_agree`, `strings_agree`, `channelModes_agree` and `formats_agree`: the checks of the
    two readers, field by field;
  * `plain_saved`: the texts that the user interface saves are plain.
-/
import NativeLdac.Agent.AgentConfigReader
import NativeLdac.Agent.UiAgentConfig

namespace NativeLdac.Agent

open Json (unescape codes intValue)
open TextBytes (utf8 utf8_append utf8_cons utf8_eq_iff Ascii occurrences)
open AgentConfigReader

/-! ## Plain texts -/

/-- The members of the object that a text holds. -/
def rootMembers : Json → List (List Char × Json)
  | .obj members => members
  | _ => []

/-- How a field stands in a text: its name is in quotes once, as the key of a member of the object,
or not at all. -/
inductive Stands (text : List Char) (members : List (List Char × Json)) (field : String) : Prop
  | absent : Ui.named members field = [] → occurrences (quoted field) text = 0 →
      Stands text members field
  | once (json : Json) : Ui.named members field = [(field.toList, json)] →
      occurrences (quoted field) text = 1 → Stands text members field

/-- The fields that a configuration has beside its version. -/
def fieldsOf (version : Int) : List String :=
  ["revision", "enabled", "quality"] ++ (if version ≥ 2 then ["channel_mode"] else []) ++
    if version = 3 then ["sample_rate", "bits_per_sample"] else []

/-- A value that is a string of these has no escapes. -/
def WrittenString (allowed : List String) (value : Option Json) : Prop :=
  ∀ raw, value = some (.str raw) → (∃ word ∈ allowed, codes word.toList = unescape raw) → '\\' ∉ raw

section
variable (floatInt : List Char → Option Int)

/-- A value that equals one of these numbers is written as an integer. -/
def WrittenInteger (allowed : List Int) (value : Option Json) : Prop :=
  ∀ json n, value = some json → Ui.numeric floatInt json = some n → n ∈ allowed →
    ∃ digits, json = .int false digits

/-- The fields of a version stand in the text and are written plainly, and those of later versions
are left out or have their defaults. -/
structure PlainFields (text : List Char) (members : List (List Char × Json)) (version : Int) :
    Prop where
  stands : ∀ field ∈ fieldsOf version, Stands text members field
  revision : ∀ negative digits, Ui.get members "revision" = some (.int negative digits) →
    0 ≤ intValue negative digits → negative = false ∧ intValue negative digits < 2 ^ 64
  quality : WrittenString Ui.validQualities (Ui.get members "quality")
  channelMode : version ≥ 2 → WrittenString Ui.validChannelModes (Ui.get members "channel_mode")
  sampleRate : version = 3 →
    WrittenInteger floatInt Ui.validSampleRates (Ui.get members "sample_rate")
  bitsPerSample : version = 3 →
    WrittenInteger floatInt Ui.validBitsPerSample (Ui.get members "bits_per_sample")
  defaultMode : version < 2 → ∀ json, Ui.get members "channel_mode" = some json →
    ∃ raw, json = .str raw ∧ unescape raw = codes "stereo".toList
  defaultFormat : version ≠ 3 →
    (∀ json, Ui.get members "sample_rate" = some json →
      Ui.numeric floatInt json = some 48000) ∧
    ∀ json, Ui.get members "bits_per_sample" = some json → Ui.numeric floatInt json = some 16

structure PlainConfig (text : List Char) (members : List (List Char × Json)) : Prop where
  stands : Stands text members "version"
  version : WrittenInteger floatInt [1, 2, 3] (Ui.get members "version")
  fields : ∀ version,
    (Ui.versionField floatInt (Ui.get members "version")).toOption = some version →
      PlainFields floatInt text members version

end

/-! ## What the search finds -/

section
variable {text : List Char} {payload : Json} {field : String}

theorem Stands.read (hloads : Json.loads (fun _ => true) text = some payload)
    (h : Stands text (rootMembers payload) field) (hascii : Ascii field.toList) :
    (Ui.get (rootMembers payload) field = none ∧ findJsonValue (utf8 text) field = none) ∨
      ∃ json spelling after, Ui.get (rootMembers payload) field = some json ∧
        json.Spelt spelling ∧ Json.Ended after ∧
        findJsonValue (utf8 text) field = some (utf8 (spelling ++ after)) := by
  cases h with
  | absent hnamed hoccurs =>
    refine .inl ⟨?_, findJsonValue_none hascii hoccurs⟩
    rw [Ui.get, hnamed]
    rfl
  | once json hnamed hoccurs =>
    have hmem : (field.toList, json) ∈ rootMembers payload := by
      have hmem : (field.toList, json) ∈ Ui.named (rootMembers payload) field := by simp [hnamed]
      exact (List.mem_filter.mp hmem).1
    cases payload with
    | obj members =>
      obtain ⟨spelling, after, hspelt, hended, hfind⟩ :=
        findJsonValue_once hascii (Json.loads_member hloads _ hmem) hoccurs
      refine .inr ⟨json, spelling, after, ?_, hspelt, hended, hfind⟩
      rw [Ui.get, hnamed]
      rfl
    | _ => cases hmem

theorem Stands.unsigned (hloads : Json.loads (fun _ => true) text = some payload)
    (h : Stands text (rootMembers payload) field) (hascii : Ascii field.toList) :
    parseJsonUnsigned (utf8 text) field = (Ui.get (rootMembers payload) field).bind unsignedOf := by
  obtain ⟨hget, hfind⟩ | ⟨json, spelling, after, hget, hspelt, hended, hfind⟩ :=
    h.read hloads hascii
  · rw [hget, parseJsonUnsigned, hfind]
    rfl
  · rw [hget, parseJsonUnsigned_spelt hspelt hended hfind]
    rfl

theorem Stands.bool (hloads : Json.loads (fun _ => true) text = some payload)
    (h : Stands text (rootMembers payload) field) (hascii : Ascii field.toList) :
    parseJsonBool (utf8 text) field = (Ui.get (rootMembers payload) field).bind boolOf := by
  obtain ⟨hget, hfind⟩ | ⟨json, spelling, after, hget, hspelt, hended, hfind⟩ :=
    h.read hloads hascii
  · rw [hget, parseJsonBool, hfind]
    rfl
  · rw [hget, parseJsonBool_spelt hspelt hended hfind]
    rfl

theorem Stands.string (hloads : Json.loads (fun _ => true) text = some payload)
    (h : Stands text (rootMembers payload) field) (hascii : Ascii field.toList) :
    parseJsonAsciiString (utf8 text) field = (Ui.get (rootMembers payload) field).bind asciiOf := by
  obtain ⟨hget, hfind⟩ | ⟨json, spelling, after, hget, hspelt, hended, hfind⟩ :=
    h.read hloads hascii
  · rw [hget, parseJsonAsciiString, hfind]
    rfl
  · rw [hget, parseJsonAsciiString_spelt hspelt hended hfind]
    rfl

end

/-! ## The checks -/

theorem rel_bind {α β γ δ : Type} {R : α → β → Prop} {S : γ → δ → Prop} {x : Option α}
    {y : Option β} {f : α → Option γ} {g : β → Option δ} (h : Option.Rel R x y)
    (hf : ∀ a b, R a b → Option.Rel S (f a) (g b)) : Option.Rel S (x.bind f) (y.bind g) := by
  cases h with
  | some hab => exact hf _ _ hab
  | none => exact .none

theorem unsignedOf_eq_some {json : Json} {value : UInt64} :
    unsignedOf json = some value ↔
      ∃ digits, json = .int false digits ∧ (value.toNat : Int) = intValue false digits := by
  constructor
  · intro h
    unfold unsignedOf at h
    split at h
    · rename_i digits
      split at h
      · rename_i hlt
        cases h
        refine ⟨digits, rfl, ?_⟩
        rw [UInt64.toNat_ofNat_of_lt' hlt]
        rfl
      · cases h
    · cases h
  · rintro ⟨digits, rfl, hvalue⟩
    have hvalue' : value.toNat = Nat.ofDigitChars 10 digits 0 := Int.ofNat_inj.mp hvalue
    rw [unsignedOf, ← hvalue', if_pos value.toNat_lt, UInt64.ofNat_toNat]

theorem exists_uint64 {n : Int} (hpos : 0 ≤ n) (hlt : n < 2 ^ 64) :
    ∃ v : UInt64, (v.toNat : Int) = n := by
  have hnat : n.toNat < 2 ^ 64 := by omega
  refine ⟨UInt64.ofNat n.toNat, ?_⟩
  rw [UInt64.toNat_ofNat_of_lt' hnat]
  exact Int.toNat_of_nonneg hpos

section
variable (floatInt : List Char → Option Int)

theorem numbers_agree {allowed : List Int} (hallowed : ∀ n ∈ allowed, 0 ≤ n ∧ n < 2 ^ 64)
    {accepted : List UInt64} (haccepted : accepted.map (fun v => (v.toNat : Int)) = allowed)
    {value : Option Json} (hwritten : WrittenInteger floatInt allowed value) :
    Option.Rel (fun v n => (v.toNat : Int) = n ∧ n ∈ allowed)
      ((value.bind unsignedOf).filter fun v => v ∈ accepted)
      ((value.bind (Ui.numeric floatInt)).filter fun n => n ∈ allowed) := by
  have hmem : ∀ v : UInt64, v ∈ accepted ↔ (v.toNat : Int) ∈ allowed := fun v => by
    rw [← haccepted, List.mem_map]
    refine ⟨fun h => ⟨v, h, rfl⟩, ?_⟩
    rintro ⟨v', hv', heq⟩
    rwa [UInt64.toNat_inj.mp (Int.ofNat_inj.mp heq)] at hv'
  cases value with
  | none => exact .none
  | some json =>
    rw [Option.bind_some, Option.bind_some]
    by_cases htaken : ∃ n, Ui.numeric floatInt json = some n ∧ n ∈ allowed
    · obtain ⟨n, hn, hin⟩ := htaken
      obtain ⟨digits, rfl⟩ := hwritten json n rfl hn hin
      obtain rfl : intValue false digits = n := Option.some.inj hn
      obtain ⟨hpos, hlt⟩ := hallowed _ hin
      obtain ⟨v, hvalue⟩ := exists_uint64 hpos hlt
      rw [unsignedOf_eq_some.mpr ⟨digits, rfl, hvalue⟩, hn, Option.filter_some, Option.filter_some,
        if_pos (decide_eq_true ((hmem _).mpr (hvalue ▸ hin))), if_pos (decide_eq_true hin)]
      exact .some ⟨hvalue, hin⟩
    · have hright : (Ui.numeric floatInt json).filter (fun n => n ∈ allowed) = none := by
        rw [Option.filter_eq_none_iff]
        exact fun n hn hin => htaken ⟨n, hn, of_decide_eq_true hin⟩
      have hleft : (unsignedOf json).filter (fun v => v ∈ accepted) = none := by
        rw [Option.filter_eq_none_iff]
        intro v hv hin
        obtain ⟨digits, rfl, hvalue⟩ := unsignedOf_eq_some.mp hv
        exact htaken ⟨_, rfl, hvalue ▸ (hmem v).mp (of_decide_eq_true hin)⟩
      rw [hleft, hright]
      exact .none

end

theorem revisions_agree {value : Option Json}
    (hwritten : ∀ negative digits, value = some (.int negative digits) →
      0 ≤ intValue negative digits → negative = false ∧ intValue negative digits < 2 ^ 64) :
    Option.Rel (fun v n => (v.toNat : Int) = n) (value.bind unsignedOf)
      (Ui.requireInt "revision" value).toOption := by
  have hother : ∀ json, (∀ digits, json ≠ .int false digits) → unsignedOf json = none :=
    fun json hjson => Option.eq_none_iff_forall_ne_some.mpr fun v hv => by
      obtain ⟨digits, rfl, -⟩ := unsignedOf_eq_some.mp hv
      exact hjson digits rfl
  cases value with
  | none => exact .none
  | some json =>
    cases json with
    | int negative digits =>
      rw [Option.bind_some, Ui.requireInt]
      by_cases hnegative : intValue negative digits < 0
      · rw [if_pos hnegative, hother _ fun digits' heq => ?_]
        · exact .none
        · obtain ⟨rfl, -⟩ := Json.int.inj heq
          exact absurd hnegative (Int.not_lt.mpr (Int.natCast_nonneg _))
      · obtain ⟨rfl, hlt⟩ := hwritten negative digits rfl (Int.not_lt.mp hnegative)
        obtain ⟨v, hvalue⟩ := exists_uint64 (Int.not_lt.mp hnegative) hlt
        rw [if_neg hnegative, unsignedOf_eq_some.mpr ⟨digits, rfl, hvalue⟩]
        exact .some hvalue
    | _ =>
      rw [Option.bind_some, hother _ (by rintro digits ⟨⟩)]
      exact .none

theorem codes_inj {text text' : List Char} (h : codes text = codes text') : text = text' :=
  List.map_injective_iff.mpr (fun _ _ => Char.toNat_inj.mp) h

theorem strings_agree {allowed : List String} (hascii : ∀ word ∈ allowed, Ascii word.toList)
    (message : String) {value : Option Json} (hwritten : WrittenString allowed value) :
    Option.Rel (fun text word => text = bytes word ∧ word ∈ allowed)
      ((value.bind asciiOf).filter fun text => text ∈ allowed.map bytes)
      (Ui.stringField allowed message value).toOption := by
  cases value with
  | none => exact .none
  | some json =>
    cases json with
    | str raw =>
      rw [Option.bind_some, asciiOf, Ui.stringField]
      cases hfind : allowed.find? (fun word => codes word.toList = unescape raw) with
      | some word =>
        have hword : codes word.toList = unescape raw := by simpa using List.find?_some hfind
        have hin := List.mem_of_find?_eq_some hfind
        have hplain := hwritten raw rfl ⟨word, hin, hword⟩
        rw [Json.unescape_plain hplain] at hword
        obtain rfl := codes_inj hword
        have hbytes : utf8 word.toList ∈ allowed.map bytes := List.mem_map.mpr ⟨word, hin, rfl⟩
        rw [if_neg hplain, Option.filter_some, if_pos (decide_eq_true hbytes)]
        exact .some ⟨rfl, hin⟩
      | none =>
        have hleft : (if '\\' ∈ raw then none else some (utf8 raw)).filter
            (fun text => text ∈ allowed.map bytes) = none := by
          rw [Option.filter_eq_none_iff]
          intro text htext hin
          split at htext
          · cases htext
          · rename_i hplain
            obtain ⟨word, hword, heq⟩ := List.mem_map.mp (of_decide_eq_true hin)
            have hraw : raw = word.toList :=
              (utf8_eq_iff (hascii word hword) raw).mp ((Option.some.inj htext).trans heq.symm)
            refine (List.find?_eq_none.mp hfind word hword) (decide_eq_true ?_)
            rw [Json.unescape_plain hplain, hraw]
        rw [hleft]
        exact .none
    | _ => exact .none

def SameVersion (version : UInt64) (version' : Int) : Prop :=
  (version.toNat : Int) = version' ∧ version' ∈ [(1 : Int), 2, 3]

section
variable {floatInt : List Char → Option Int} {text : List Char} {payload : Json}
  {version : UInt64} {version' : Int}

theorem channelModes_agree (hloads : Json.loads (fun _ => true) text = some payload)
    (hplain : PlainFields floatInt text (rootMembers payload) version')
    (hversion : SameVersion version version') :
    Option.Rel (fun mode word => mode = bytes word ∧ word ∈ Ui.validChannelModes)
      (readChannelMode (utf8 text) version)
      (Ui.channelModeField version' (Ui.get (rootMembers payload) "channel_mode")).toOption := by
  have hle : version ≥ 2 ↔ version' ≥ 2 := by
    rw [ge_iff_le, UInt64.le_iff_toNat_le, ← hversion.1, show (2 : UInt64).toNat = 2 from rfl]
    omega
  rw [readChannelMode, Ui.channelModeField, Ui.toOption_raiseIf]
  by_cases htwo : version' ≥ 2
  · have hstands : Stands text (rootMembers payload) "channel_mode" :=
      hplain.stands _ (by simp [fieldsOf, htwo])
    have hagree := strings_agree (by decide) "channel_mode is invalid" (hplain.channelMode htwo)
    rw [if_pos (hle.mpr htwo), hstands.string hloads (by decide)]
    cases hget : Ui.get (rootMembers payload) "channel_mode" with
    | none =>
      rw [if_pos ⟨htwo, rfl⟩]
      exact .none
    | some json =>
      rw [hget] at hagree
      rw [if_neg (by simp)]
      exact hagree
  · rw [if_neg (mt hle.mp htwo), if_neg fun h => htwo h.1]
    cases hget : Ui.get (rootMembers payload) "channel_mode" with
    | none => exact .some ⟨rfl, by decide⟩
    | some json =>
      obtain ⟨raw, rfl, hraw⟩ := hplain.defaultMode (not_le.mp htwo) json hget
      rw [Option.getD_some, Ui.stringField, hraw]
      exact .some ⟨rfl, by decide⟩

theorem formats_agree (hloads : Json.loads (fun _ => true) text = some payload)
    (hplain : PlainFields floatInt text (rootMembers payload) version')
    (hversion : SameVersion version version') :
    Option.Rel (fun format format' =>
        ((format.1.toNat : Int) = format'.1 ∧ format'.1 ∈ Ui.validSampleRates) ∧
          (format.2.toNat : Int) = format'.2 ∧ format'.2 ∈ Ui.validBitsPerSample)
      (readFormat (utf8 text) version)
      (Ui.formatFields floatInt version' (Ui.get (rootMembers payload) "sample_rate")
        (Ui.get (rootMembers payload) "bits_per_sample")).toOption := by
  have heq : version = 3 ↔ version' = 3 := by
    rw [← UInt64.toNat_inj, ← hversion.1, show (3 : UInt64).toNat = 3 from rfl]
    omega
  rw [readFormat, Ui.formatFields, Ui.toOption_raiseIf]
  simp only [Ui.toOption_bind, Ui.numberField_toOption]
  by_cases hthree : version' = 3
  · have hrate : Stands text (rootMembers payload) "sample_rate" :=
      hplain.stands _ (by simp [fieldsOf, hthree])
    have hbits : Stands text (rootMembers payload) "bits_per_sample" :=
      hplain.stands _ (by simp [fieldsOf, hthree])
    have hrates := numbers_agree floatInt (by decide)
      (show [(44100 : UInt64), 48000, 88200, 96000].map (fun v => (v.toNat : Int)) =
        Ui.validSampleRates from rfl) (hplain.sampleRate hthree)
    have hdepths := numbers_agree floatInt (by decide)
      (show [(16 : UInt64), 24].map (fun v => (v.toNat : Int)) = Ui.validBitsPerSample from rfl)
      (hplain.bitsPerSample hthree)
    rw [if_pos (heq.mpr hthree), hrate.unsigned hloads (by decide),
      hbits.unsigned hloads (by decide)]
    cases hgetRate : Ui.get (rootMembers payload) "sample_rate" with
    | none =>
      rw [if_pos ⟨hthree, .inl rfl⟩]
      exact .none
    | some rate =>
      cases hgetBits : Ui.get (rootMembers payload) "bits_per_sample" with
      | none =>
        rw [if_pos ⟨hthree, .inr rfl⟩]
        simp only [Option.bind_eq_bind, Option.bind_none, Option.filter_none, Option.bind_fun_none]
        exact .none
      | some bits =>
        rw [hgetRate] at hrates
        rw [hgetBits] at hdepths
        rw [if_neg (by simp)]
        exact rel_bind hrates fun _ _ hrate' => rel_bind hdepths fun _ _ hbits' =>
          .some ⟨hrate', hbits'⟩
  · obtain ⟨hrate, hbits⟩ := hplain.defaultFormat hthree
    have hrate' : Ui.numeric floatInt ((Ui.get (rootMembers payload) "sample_rate").getD
        (.int false "48000".toList)) = some 48000 := by
      cases hget : Ui.get (rootMembers payload) "sample_rate" with
      | none => rfl
      | some json => exact hrate json hget
    have hbits' : Ui.numeric floatInt ((Ui.get (rootMembers payload) "bits_per_sample").getD
        (.int false "16".toList)) = some 16 := by
      cases hget : Ui.get (rootMembers payload) "bits_per_sample" with
      | none => rfl
      | some json => exact hbits json hget
    rw [if_neg (mt heq.mp hthree), if_neg fun h => hthree h.1, hrate', hbits']
    exact .some ⟨⟨rfl, by decide⟩, rfl, by decide⟩

end

def SameConfig (config : AgentConfig) (config' : Ui.AgentConfig) : Prop :=
  config.enabled = config'.enabled ∧ config.quality = config'.quality ∧
    config.channelMode = config'.channelMode ∧
    (config.sampleRate.toNat : Int) = config'.sampleRate ∧
    (config.bitsPerSample.toNat : Int) = config'.bitsPerSample ∧
    (config.revision.toNat : Int) = config'.revision

theorem widen_bytes : ∀ word ∈ Ui.validQualities ++ Ui.validChannelModes,
    widen (bytes word) = word := by
  decide

theorem toUInt32_small {allowed : List Int} (hallowed : ∀ n ∈ allowed, n < 2 ^ 32) {v : UInt64}
    {n : Int} (hn : (v.toNat : Int) = n ∧ n ∈ allowed) : (v.toUInt32.toNat : Int) = n := by
  have hlt := hallowed n hn.2
  rw [UInt64.toNat_toUInt32, Nat.mod_eq_of_lt (by omega)]
  exact hn.1

variable {text : List Char} {payload : Json}

theorem configs_agree {floatInt : List Char → Option Int}
    (hloads : Json.loads (fun _ => true) text = some payload)
    (hplain : PlainConfig floatInt text (rootMembers payload)) :
    Option.Rel SameConfig (parseAgentConfig (utf8 text))
      (Ui.parseConfig floatInt payload).toOption := by
  have hpayload : (Ui.parseConfig floatInt payload).toOption =
      (Ui.parseConfig floatInt (.obj (rootMembers payload))).toOption := by
    cases payload <;> rfl
  have hversions := numbers_agree floatInt (by decide)
    (show [(1 : UInt64), 2, 3].map (fun v => (v.toNat : Int)) = [1, 2, 3] from rfl) hplain.version
  rw [← hplain.stands.unsigned hloads (by decide), ← Ui.versionField_toOption] at hversions
  rw [hpayload, Ui.parseConfig_toOption, parseAgentConfig]
  simp only [Option.bind_eq_bind]
  generalize (parseJsonUnsigned (utf8 text) "version").filter _ = version at hversions ⊢
  cases hversion : (Ui.versionField floatInt
    (Ui.get (rootMembers payload) "version")).toOption with
  | none =>
    rw [hversion] at hversions
    cases hversions
    exact .none
  | some version' =>
    rw [hversion] at hversions
    obtain @⟨version, _, hsame⟩ := hversions
    have hfields := hplain.fields version' hversion
    have hrevision : Stands text (rootMembers payload) "revision" :=
      hfields.stands _ (by simp [fieldsOf])
    have henabled : Stands text (rootMembers payload) "enabled" :=
      hfields.stands _ (by simp [fieldsOf])
    have hquality : Stands text (rootMembers payload) "quality" :=
      hfields.stands _ (by simp [fieldsOf])
    rw [hrevision.unsigned hloads (by decide), henabled.bool hloads (by decide),
      hquality.string hloads (by decide)]
    have henabledField : ∀ value, (Ui.enabledField value).toOption = value.bind boolOf := by
      rintro (_ | json)
      · rfl
      · cases json <;> rfl
    rw [Option.bind_some, Option.bind_some]
    refine rel_bind (revisions_agree hfields.revision) fun revision revision' hrevision => ?_
    rw [henabledField]
    cases (Ui.get (rootMembers payload) "enabled").bind boolOf with
    | none => exact .none
    | some enabled =>
      rw [Option.bind_some, Option.bind_some]
      refine rel_bind (strings_agree (by decide) _ hfields.quality)
        fun quality quality' hquality => ?_
      refine rel_bind (channelModes_agree hloads hfields hsame) fun mode mode' hmode => ?_
      rw [Option.map_eq_bind]
      refine rel_bind (formats_agree hloads hfields hsame) fun format format' hformat => ?_
      obtain ⟨hrate, hbits⟩ := hformat
      obtain ⟨rfl, hquality⟩ := hquality
      obtain ⟨rfl, hmode⟩ := hmode
      exact .some ⟨rfl, widen_bytes _ (List.mem_append_left _ hquality),
        widen_bytes _ (List.mem_append_right _ hmode), toUInt32_small (by decide) hrate,
        toUInt32_small (by decide) hbits, hrevision⟩

/-! ## Files -/

/-- The bytes of a text, with the mark that they are UTF-8 or without it. -/
def fileOf (mark : Bool) (text : List Char) : List UInt8 :=
  (if mark then byteOrderMark else []) ++ utf8 text

def loadedConfig : ConfigReadResult × AgentConfig × UInt32 → Option AgentConfig
  | (.loaded, config, _) => some config
  | _ => none

theorem withoutMark_fileOf
    (hloads : Json.loads (fun _ => true) text = some payload) (mark : Bool) :
    withoutMark (fileOf mark text) = utf8 text := by
  cases mark with
  | true =>
    rw [fileOf, if_pos rfl, withoutMark, if_pos (TextBytes.isPrefixOf_append _)]
    rfl
  | false =>
    obtain ⟨c, more, rfl, hc⟩ := Json.loads_head hloads
    have hstart : byteOrderMark.isPrefixOf (utf8 (c :: more)) = false := by
      have hne : (0xEF : UInt8) ≠ TextBytes.byte c := fun heq => by
        obtain ⟨hbyte, hlt⟩ := TextBytes.toNat_byte hc
        rw [← heq] at hbyte
        exact absurd hlt (by rw [← hbyte]; decide)
      rw [utf8_cons hc, byteOrderMark, List.isPrefixOf_cons_cons, beq_false_of_ne hne,
        Bool.false_and]
    rw [fileOf, if_neg Bool.false_ne_true, List.nil_append, withoutMark, hstart,
      if_neg Bool.false_ne_true]

theorem readAgentConfig_file {path : String} (hpath : ¬ path.isEmpty)
    (hloads : Json.loads (fun _ => true) text = some payload) (mark : Bool)
    (hsize : (fileOf mark text).length ≤ 4096) (config : AgentConfig) :
    readAgentConfig path (.file (fileOf mark text)) config =
      match parseAgentConfig (utf8 text) with
      | none => (.invalid, config, AgentConfigReader.errorInvalidData)
      | some parsed => (.loaded, parsed, errorSuccess) := by
  have hpos : (fileOf mark text).length ≠ 0 := by
    obtain ⟨c, more, rfl, hc⟩ := Json.loads_head hloads
    rw [fileOf, utf8_cons hc, List.length_append, List.length_cons]
    omega
  have hread : readSmallFile (.file (fileOf mark text)) = .ok (fileOf mark text) := by
    rw [FileCalls.file, readSmallFile, if_neg (by omega)]
    exact if_neg (by simp)
  rw [readAgentConfig, if_neg hpath, hread]
  cases hparsed : parseAgentConfig (utf8 text) <;> simp only [withoutMark_fileOf hloads, hparsed]

theorem loadedConfig_file {path : String} (hpath : ¬ path.isEmpty)
    (hloads : Json.loads (fun _ => true) text = some payload) (mark : Bool)
    (hsize : (fileOf mark text).length ≤ 4096) (config : AgentConfig) :
    loadedConfig (readAgentConfig path (.file (fileOf mark text)) config) =
      parseAgentConfig (utf8 text) := by
  rw [readAgentConfig_file hpath hloads mark hsize]
  cases parseAgentConfig (utf8 text) <;> rfl

/-! ## What the user interface saves -/

section
variable {config : Ui.AgentConfig}

def fieldNames : List String := "version" :: fieldsOf 3

theorem fieldNames_word : ∀ field ∈ fieldNames, Json.Word field.toList := by decide

theorem choice_facts : ∀ word ∈ Ui.validQualities ++ Ui.validChannelModes,
    Ascii word.toList ∧ word.toList.length ≤ 6 ∧ '\x22' ∉ word.toList ∧ '\\' ∉ word.toList ∧
      ∀ field ∈ fieldNames, word.toList ≠ field.toList := by
  decide

theorem occurrences_saved (h : config.Valid) {field : String} (hfield : field ∈ fieldNames) :
    occurrences (quoted field) (Ui.savedText config) = 1 := by
  obtain ⟨hquality, hmode, -, -, -⟩ := h
  obtain ⟨-, -, hquote, -, hne⟩ := choice_facts _ (List.mem_append_left _ hquality)
  obtain ⟨-, -, hquote', -, hne'⟩ := choice_facts _ (List.mem_append_right _ hmode)
  have hkeys : (Ui.payload config).map Prod.fst = fieldNames.map String.toList := rfl
  have hunquoted : ∀ field ∈ Ui.payload config, Json.Layout.Unquoted field := fun field hmem => by
    have hkey : field.1 ∈ fieldNames.map String.toList := hkeys ▸ List.mem_map_of_mem hmem
    have hquotes : ∀ key ∈ fieldNames.map String.toList, '\x22' ∉ key := by decide
    refine ⟨hquotes _ hkey, fun raw hraw => ?_⟩
    simp only [Ui.payload, List.mem_cons, List.not_mem_nil, or_false] at hmem
    obtain rfl | rfl | rfl | rfl | rfl | rfl | rfl := hmem <;> cases hraw
    · exact hquote
    · exact hquote'
  have hstrings : Json.Scalar.str field.toList ∉ (Ui.payload config).map Prod.snd := fun hmem => by
    simp only [Ui.payload, List.map_cons, List.map_nil, List.mem_cons, List.not_mem_nil, or_false,
      Json.Scalar.str.injEq, reduceCtorEq, false_or] at hmem
    obtain heq | heq := hmem
    · exact hne field hfield heq.symm
    · exact hne' field hfield heq.symm
  have hcounts : ∀ field ∈ fieldNames, (fieldNames.map String.toList).count field.toList = 1 := by
    decide
  have hoccurs := @Json.Layout.occurrences_object field.toList Ui.layout _
    (fieldNames_word field hfield) hunquoted ['\n'] (by decide)
  rw [Json.Layout.sum_uses, hkeys, hcounts field hfield,
    List.count_eq_zero_of_not_mem hstrings] at hoccurs
  exact hoccurs

theorem plain_saved (floatInt : List Char → Option Int) (h : config.Valid)
    (hrevision : config.revision < 2 ^ 64) :
    PlainConfig floatInt (Ui.savedText config) (Ui.savedMembers config) := by
  obtain ⟨hversion, hgetRevision, henabled, hgetQuality, hgetMode, hgetRate, hgetBits⟩ :=
    Ui.get_saved config
  have hstands : ∀ field ∈ fieldNames,
      Stands (Ui.savedText config) (Ui.savedMembers config) field := fun field hfield => by
    have hoccurs := occurrences_saved h hfield
    simp only [fieldNames, fieldsOf, ge_iff_le, Int.reduceLE, if_true, List.cons_append,
      List.nil_append, List.mem_cons, List.not_mem_nil, or_false] at hfield
    obtain rfl | rfl | rfl | rfl | rfl | rfl | rfl := hfield <;> exact .once _ rfl hoccurs
  obtain ⟨hquality, hmode, -, -, hpos⟩ := h
  obtain ⟨-, -, -, hbackslash, -⟩ := choice_facts _ (List.mem_append_left _ hquality)
  obtain ⟨-, -, -, hbackslash', -⟩ := choice_facts _ (List.mem_append_right _ hmode)
  refine ⟨hstands _ List.mem_cons_self, fun json n hjson _ _ => ?_, fun version hthree => ?_⟩
  · rw [hversion] at hjson
    exact ⟨_, (Option.some.inj hjson).symm⟩
  · rw [hversion] at hthree
    obtain rfl : 3 = version := Option.some.inj hthree
    constructor
    · exact fun field hfield => hstands field (List.mem_cons_of_mem _ hfield)
    · intro negative digits hget _
      rw [hgetRevision] at hget
      obtain ⟨rfl, rfl⟩ := Json.int.inj (Option.some.inj hget)
      rw [Ui.intValue_toDigits hpos]
      exact ⟨rfl, hrevision⟩
    · intro raw hget _
      rw [hgetQuality] at hget
      rwa [← Json.str.inj (Option.some.inj hget)]
    · intro _ raw hget _
      rw [hgetMode] at hget
      rwa [← Json.str.inj (Option.some.inj hget)]
    · intro _ json n hget _ _
      rw [hgetRate] at hget
      exact ⟨_, (Option.some.inj hget).symm⟩
    · intro _ json n hget _ _
      rw [hgetBits] at hget
      exact ⟨_, (Option.some.inj hget).symm⟩
    · exact fun hlt => absurd hlt (by decide)
    · exact fun hne => absurd rfl hne

theorem length_saved (h : config.Valid) (hrevision : config.revision < 2 ^ 64) :
    (fileOf false (Ui.savedText config)).length ≤ 4096 := by
  obtain ⟨hquality, hmode, hrate, hbits, hpos⟩ := h
  obtain ⟨hascii, hlength, -⟩ := choice_facts _ (List.mem_append_left _ hquality)
  obtain ⟨hascii', hlength', -⟩ := choice_facts _ (List.mem_append_right _ hmode)
  have hfields : ∀ field ∈ Ui.payload config,
      Ascii field.1 ∧ ∀ raw, field.2 = .str raw → Ascii raw := by
    simp only [Ui.payload, List.forall_mem_cons, List.not_mem_nil, false_implies, implies_true,
      and_true, reduceCtorEq, Json.Scalar.str.injEq, forall_eq']
    exact ⟨by decide, by decide, by decide, ⟨by decide, hascii⟩, ⟨by decide, hascii'⟩, by decide,
      by decide⟩
  have hsaved : Ascii (Ui.savedText config) :=
    .append (Json.Layout.ascii_object hfields) (by decide)
  have hdigits : ∀ n k : Nat, 0 < k → n < 10 ^ k → (Nat.toDigits 10 n).length ≤ k :=
    fun n k hk hn => (Nat.length_toDigits_le_iff (by decide) hk).mpr hn
  have hrevisionDigits := hdigits config.revision.toNat 20 (by decide) (by omega)
  have hrateDigits := hdigits config.sampleRate.toNat 5 (by decide)
    ((by decide : ∀ n ∈ Ui.validSampleRates, n.toNat < 10 ^ 5) _ hrate)
  have hbitsDigits := hdigits config.bitsPerSample.toNat 2 (by decide)
    ((by decide : ∀ n ∈ Ui.validBitsPerSample, n.toNat < 10 ^ 2) _ hbits)
  have hversionDigits := hdigits 3 1 (by decide) (by decide)
  have hbool : (Json.Scalar.text (.bool config.enabled)).length ≤ 5 := by
    cases config.enabled <;> decide
  have hnat : ∀ n, (Json.Scalar.nat n).text.length = (Nat.toDigits 10 n).length := fun _ => rfl
  have hstr : ∀ raw, (Json.Scalar.str raw).text.length = raw.length + 2 := fun raw => by
    simp [Json.Scalar.text]
  rw [fileOf, if_neg Bool.false_ne_true, List.nil_append, TextBytes.length_utf8, hsaved.size]
  simp only [Ui.savedText, Ui.payload, Json.Layout.object, Json.Layout.more, Json.Layout.member,
    List.length_append, List.length_cons, List.length_nil, hnat, hstr]
  have hkeys : ((fieldNames.map String.toList).map List.length).sum = 67 := by decide
  have hlead : Ui.layout.lead.length = 3 := rfl
  have hgap : Ui.layout.gap.length = 1 := rfl
  have hclose : Ui.layout.close.length = 1 := rfl
  simp only [fieldNames, fieldsOf, ge_iff_le, Int.reduceLE, if_true, List.cons_append,
    List.nil_append, List.map_cons, List.map_nil, List.sum_cons, List.sum_nil] at hkeys
  omega

end

/-! ## The agreement -/

theorem readAgentConfig_saved {path : String} (hpath : ¬ path.isEmpty) {saved : Ui.AgentConfig}
    (hsaved : Ui.saveConfig saved = .ok text) (hrevision : saved.revision < 2 ^ 64)
    (config : AgentConfig) :
    ∃ loaded, SameConfig loaded saved ∧
      readAgentConfig path (.file (utf8 text)) config = (.loaded, loaded, errorSuccess) := by
  obtain ⟨hvalid, rfl⟩ := Ui.saveConfig_eq_ok.mp hsaved
  have hloads := Ui.loads_saved hvalid
  have hagree := configs_agree hloads (plain_saved (fun _ => none) hvalid hrevision)
  rw [Ui.parseConfig_saved _ hvalid] at hagree
  have hread := readAgentConfig_file hpath hloads false (length_saved hvalid hrevision) config
  generalize parseAgentConfig (utf8 (Ui.savedText saved)) = parsed at hagree hread
  obtain @⟨loaded, _, hsame⟩ := hagree
  exact ⟨loaded, hsame, hread⟩

def nestedVersion : List Char :=
  ("\x7b\"version\":1,\"revision\":0,\"enabled\":true,\"quality\":\"hq\"," ++
    "\"next\":\x7b\"version\":3\x7d\x7d").toList

end NativeLdac.Agent
