/-
  The agent's reader of its configuration (`agent/runtime_support.cpp`, `ReadAgentConfig`).

  * `findJsonValue` searches the bytes of the file for a quoted key, and `parseJsonUnsigned`,
    `parseJsonBool` and `parseJsonAsciiString` scan what is behind it;
  * `findJsonValue_once`: a key that occurs once, as a member of the object of a JSON text, leads
    to the spelling of its value, and `findJsonValue_none`: one that does not occur leads nowhere;
  * `parseJsonUnsigned_spelt`, `parseJsonBool_spelt` and `parseJsonAsciiString_spelt`: what the
    scans make of the spelling of a value;
  * `readAgentConfig_kept`: the configuration of the caller changes only when one is loaded.
-/
import NativeLdac.Lib.Json
import Mathlib.Data.UInt

namespace NativeLdac.Agent

open TextBytes

namespace AgentConfigReader

def errorSuccess : UInt32 := 0
def errorFileNotFound : UInt32 := 2
def errorPathNotFound : UInt32 := 3
def errorInvalidData : UInt32 := 13
def errorReadFault : UInt32 := 30
def errorInvalidParameter : UInt32 := 87

/-- The bytes of a word of the source. -/
def bytes (word : String) : List UInt8 := utf8 word.toList

def quoted (key : String) : List Char := inQuotes '\x22' key.toList

def isJsonSpace (b : UInt8) : Bool :=
  b == byte ' ' || b == byte '\t' || b == byte '\r' || b == byte '\n'

/-- The text from the value of a key on. The key must not occur twice. -/
def findJsonValue (json : List UInt8) (key : String) : Option (List UInt8) := do
  let token := utf8 (quoted key)
  let rest ← after? token json
  guard (after? token rest = none)
  match rest.dropWhile isJsonSpace with
  | colon :: rest =>
    guard (colon = byte ':')
    guard (rest.dropWhile isJsonSpace ≠ [])
    some (rest.dropWhile isJsonSpace)
  | [] => none

def isJsonValueTerminated (rest : List UInt8) : Bool :=
  match rest.dropWhile isJsonSpace with
  | b :: _ => b == byte ',' || b == byte '\x7d'
  | [] => false

def isJsonDigit (b : UInt8) : Bool := byte '0' ≤ b && b ≤ byte '9'

/-- The loop over the digits: the number, and what is after it. -/
def jsonDigits (parsed : UInt64) : List UInt8 → Option (UInt64 × List UInt8)
  | b :: rest =>
    if isJsonDigit b then
      let digit := (b - byte '0').toUInt64
      if parsed > (0xFFFFFFFFFFFFFFFF - digit) / 10 then none
      else jsonDigits (parsed * 10 + digit) rest
    else some (parsed, b :: rest)
  | [] => some (parsed, [])

def parseJsonUnsigned (json : List UInt8) (key : String) : Option UInt64 := do
  let value ← findJsonValue json key
  guard ((value.head?.map isJsonDigit).getD false)
  let (parsed, rest) ← jsonDigits 0 value
  guard (isJsonValueTerminated rest)
  some parsed

def parseJsonBool (json : List UInt8) (key : String) : Option Bool := do
  let value ← findJsonValue json key
  if (bytes "true").isPrefixOf value then
    guard (isJsonValueTerminated (value.drop 4))
    some true
  else if (bytes "false").isPrefixOf value then
    guard (isJsonValueTerminated (value.drop 5))
    some false
  else none

def parseJsonAsciiString (json : List UInt8) (key : String) : Option (List UInt8) := do
  match ← findJsonValue json key with
  | quote :: value =>
    guard (quote = byte '\x22')
    let text := value.takeWhile (· != byte '\x22')
    match value.dropWhile (· != byte '\x22') with
    | _ :: rest =>
      guard (byte '\\' ∉ text)
      guard (isJsonValueTerminated rest)
      some text
    | [] => none
  | [] => none

/-- What `CreateFileW`, `GetFileSizeEx` and `ReadFile` give. -/
inductive FileCalls where
  | openFails (error : UInt32)
  | sizeFails (error : UInt32)
  | opened (size : Int) (read : Except UInt32 (List UInt8))

def FileCalls.file (contents : List UInt8) : FileCalls := .opened contents.length (.ok contents)

def readSmallFile : FileCalls → Except UInt32 (List UInt8)
  | .openFails error => .error error
  | .sizeFails error => .error error
  | .opened size read =>
    if size ≤ 0 ∨ size > 4096 then .error errorInvalidData
    else
      match read with
      | .error error => .error (if error = errorSuccess then errorReadFault else error)
      | .ok contents => if contents.length ≠ size then .error errorReadFault else .ok contents

def byteOrderMark : List UInt8 := [0xEF, 0xBB, 0xBF]

def withoutMark (json : List UInt8) : List UInt8 :=
  if byteOrderMark.isPrefixOf json then json.drop 3 else json

end AgentConfigReader

inductive ConfigReadResult where
  | loaded | missing | invalid
deriving DecidableEq, Repr

structure AgentConfig where
  enabled : Bool := true
  quality : String := "hq"
  channelMode : String := "stereo"
  sampleRate : UInt32 := 48000
  bitsPerSample : UInt32 := 16
  revision : UInt64 := 0
deriving DecidableEq, Repr

namespace AgentConfigReader

/-- `std::wstring::assign` of the characters of a narrow string. -/
def widen (text : List UInt8) : String := String.ofList (text.map fun b => Char.ofNat b.toNat)

def readChannelMode (json : List UInt8) (version : UInt64) : Option (List UInt8) :=
  if version ≥ 2 then
    (parseJsonAsciiString json "channel_mode").filter
      fun channelMode => channelMode ∈ ["stereo", "dual", "mono"].map bytes
  else some (bytes "stereo")

/-- The sample rate and the bit depth. -/
def readFormat (json : List UInt8) (version : UInt64) : Option (UInt64 × UInt64) :=
  if version = 3 then do
    let sampleRate ← (parseJsonUnsigned json "sample_rate").filter
      fun sampleRate => sampleRate ∈ [44100, 48000, 88200, 96000]
    let bitsPerSample ← (parseJsonUnsigned json "bits_per_sample").filter
      fun bitsPerSample => bitsPerSample ∈ [16, 24]
    some (sampleRate, bitsPerSample)
  else some (48000, 16)

/-- The configuration of a text, with all the checks of `ReadAgentConfig`. -/
def parseAgentConfig (json : List UInt8) : Option AgentConfig := do
  let version ← (parseJsonUnsigned json "version").filter fun version => version ∈ [1, 2, 3]
  let revision ← parseJsonUnsigned json "revision"
  let enabled ← parseJsonBool json "enabled"
  let quality ← (parseJsonAsciiString json "quality").filter
    fun quality => quality ∈ ["mq", "sq", "hq", "auto"].map bytes
  let channelMode ← readChannelMode json version
  let (sampleRate, bitsPerSample) ← readFormat json version
  some {
    enabled
    quality := widen quality
    channelMode := widen channelMode
    sampleRate := sampleRate.toUInt32
    bitsPerSample := bitsPerSample.toUInt32
    revision }

end AgentConfigReader

open AgentConfigReader

/-- The result, the configuration of the caller afterwards, and the error. -/
def readAgentConfig (path : String) (calls : FileCalls) (config : AgentConfig) :
    ConfigReadResult × AgentConfig × UInt32 :=
  if path.isEmpty then (.invalid, config, AgentConfigReader.errorInvalidParameter)
  else
    match readSmallFile calls with
    | .error error =>
      if error = errorFileNotFound ∨ error = errorPathNotFound then (.missing, config, errorSuccess)
      else (.invalid, config, error)
    | .ok json =>
      match parseAgentConfig (withoutMark json) with
      | none => (.invalid, config, AgentConfigReader.errorInvalidData)
      | some parsed => (.loaded, parsed, errorSuccess)

theorem readAgentConfig_kept (path : String) (calls : FileCalls) (config : AgentConfig)
    (h : (readAgentConfig path calls config).1 ≠ .loaded) :
    (readAgentConfig path calls config).2.1 = config := by
  unfold readAgentConfig at h ⊢
  split
  · rfl
  · rename_i hpath
    split
    · split <;> rfl
    · rename_i json hread
      split
      · rfl
      · rename_i parsed hparsed
        simp [hpath, hread, hparsed] at h

/-! ## Scanning a text -/

theorem lifts_isJsonSpace : Lifts isJsonSpace Json.isSpace := by
  have hspace : Json.isSpace = fun c => c == ' ' || c == '\t' || c == '\r' || c == '\n' := by
    funext c
    unfold Json.isSpace
    ac_rfl
  rw [hspace]
  exact (((lifts_eq rfl).or (lifts_eq rfl)).or (lifts_eq rfl)).or (lifts_eq rfl)

theorem dropWhile_isJsonSpace (text : List Char) :
    (utf8 text).dropWhile isJsonSpace = utf8 (Json.skipSpace text) :=
  dropWhile_utf8 lifts_isJsonSpace text

theorem isJsonDigit_byte {c : Char} (hc : c.utf8Size = 1) : isJsonDigit (byte c) = c.isDigit := by
  have hbyte := (toNat_byte hc).1
  rw [Bool.eq_iff_iff]
  simp only [isJsonDigit, Char.isDigit, Bool.and_eq_true, decide_eq_true_eq, UInt8.le_iff_toNat_le,
    hbyte, UInt32.le_iff_toNat_le, ge_iff_le]
  exact Iff.rfl

theorem ascii_quoted {key : String} (hkey : Ascii key.toList) : Ascii (quoted key) :=
  .cons (by decide) (.append hkey (by decide))

theorem utf8_ne_nil {text : List Char} (h : text ≠ []) : utf8 text ≠ [] := by
  obtain ⟨c, more, rfl⟩ := List.exists_cons_of_ne_nil h
  exact List.append_ne_nil_of_left_ne_nil String.utf8EncodeChar_ne_nil _

section
variable {text : List Char} {key : String} {json : Json}

theorem findJsonValue_none (hkey : Ascii key.toList) (h : occurrences (quoted key) text = 0) :
    findJsonValue (utf8 text) key = none := by
  rw [← occurrences_utf8 (ascii_quoted hkey) (List.cons_ne_nil _ _)] at h
  simp only [findJsonValue, after?_none h]
  rfl

theorem findJsonValue_once (hkey : Ascii key.toList) (hmember : Json.Member text (key.toList, json))
    (h : occurrences (quoted key) text = 1) :
    ∃ spelling after, json.Spelt spelling ∧ Json.Ended after ∧
      findJsonValue (utf8 text) key = some (utf8 (spelling ++ after)) := by
  obtain @⟨before, _, colonBefore, colonAfter, spelling, after, _, hbefore, hafter, hspelt,
    hended⟩ := hmember
  refine ⟨spelling, after, hspelt, hended, ?_⟩
  obtain ⟨c, more, hhead, hbegins⟩ := hspelt.begins
  have hsplit : before ++ '\x22' :: (key.toList ++ '\x22' :: (colonBefore ++ ':' ::
      (colonAfter ++ (spelling ++ after)))) =
      before ++ (quoted key ++ (colonBefore ++ ':' :: (colonAfter ++ (spelling ++ after)))) := by
    simp [quoted, inQuotes]
  have hcolon : Json.skipSpace (colonBefore ++ ':' :: (colonAfter ++ (spelling ++ after))) =
      ':' :: (colonAfter ++ (spelling ++ after)) :=
    (Json.skipSpace_append hbefore _).trans (Json.skipSpace_cons rfl _)
  have hvalue : Json.skipSpace (colonAfter ++ (spelling ++ after)) = spelling ++ after := by
    rw [Json.skipSpace_append hafter, hhead]
    exact Json.skipSpace_cons hbegins.not_space.2 _
  rw [hsplit] at h ⊢
  rw [← occurrences_utf8 (ascii_quoted hkey) (List.cons_ne_nil _ _), utf8_append, utf8_append] at h
  have htoken : utf8 (quoted key) ≠ [] := utf8_ne_nil (List.cons_ne_nil _ _)
  obtain ⟨hfound, honce⟩ := after?_once htoken h
  rw [utf8_append, utf8_append]
  have hne : utf8 (spelling ++ after) ≠ [] :=
    utf8_ne_nil (List.append_ne_nil_of_left_ne_nil hspelt.ne_nil _)
  unfold findJsonValue
  simp only [hfound, honce, dropWhile_isJsonSpace, hcolon, hvalue, hne, guard,
    @utf8_cons ':' rfl, Option.bind_eq_bind, Option.bind_some, if_true, ne_eq, not_false_eq_true]
  rfl

end

/-! ## The values -/

theorem le_ofDigitChars (digits : List Char) (value : Nat) :
    value ≤ Nat.ofDigitChars 10 digits value := by
  induction digits generalizing value with
  | nil => exact Nat.le_refl _
  | cons c digits ih =>
    rw [Nat.ofDigitChars_cons]
    exact Nat.le_trans (by omega) (ih _)

theorem jsonDigit_step (parsed : UInt64) {c : Char} (hc : c.isDigit) :
    (parsed > (0xFFFFFFFFFFFFFFFF - (byte c - byte '0').toUInt64) / 10 ↔
      2 ^ 64 ≤ 10 * parsed.toNat + (c.toNat - '0'.toNat)) ∧
    (10 * parsed.toNat + (c.toNat - '0'.toNat) < 2 ^ 64 →
      (parsed * 10 + (byte c - byte '0').toUInt64).toNat =
        10 * parsed.toNat + (c.toNat - '0'.toNat)) := by
  have hbyte := (toNat_byte (ascii_isDigit hc)).1
  have hzero : (byte '0').toNat = 48 := rfl
  have hchar : '0'.toNat = 48 := rfl
  have hrange : 48 ≤ c.toNat ∧ c.toNat ≤ 57 := by
    simp only [Char.isDigit, Bool.and_eq_true, decide_eq_true_eq, ge_iff_le,
      UInt32.le_iff_toNat_le] at hc
    exact hc
  have hle : byte '0' ≤ byte c := by
    rw [UInt8.le_iff_toNat_le, hbyte, hzero]
    exact hrange.1
  have hdigit : (byte c - byte '0').toUInt64.toNat = c.toNat - 48 := by
    rw [UInt8.toNat_toUInt64, UInt8.toNat_sub_of_le _ _ hle, hbyte, hzero]
  have hmax : (0xFFFFFFFFFFFFFFFF : UInt64).toNat = 2 ^ 64 - 1 := rfl
  have hten : (10 : UInt64).toNat = 10 := rfl
  have hle64 : (byte c - byte '0').toUInt64 ≤ 0xFFFFFFFFFFFFFFFF := by
    rw [UInt64.le_iff_toNat_le, hdigit, hmax]
    omega
  rw [hchar]
  constructor
  · rw [gt_iff_lt, UInt64.lt_iff_toNat_lt, UInt64.toNat_div, UInt64.toNat_sub_of_le _ _ hle64,
      hdigit, hmax, hten]
    omega
  · intro hlt
    rw [UInt64.toNat_add, UInt64.toNat_mul, hdigit, hten]
    omega

theorem jsonDigits_spelt {digits : List Char} (hdigits : ∀ c ∈ digits, c.isDigit) {mark : Char}
    (hmark : mark.utf8Size = 1) (hstop : mark.isDigit = false) (more : List Char)
    (parsed : UInt64) :
    jsonDigits parsed (utf8 (digits ++ mark :: more)) =
      if Nat.ofDigitChars 10 digits parsed.toNat < 2 ^ 64 then
        some (UInt64.ofNat (Nat.ofDigitChars 10 digits parsed.toNat), utf8 (mark :: more))
      else none := by
  induction digits generalizing parsed with
  | nil =>
    rw [List.nil_append, utf8_cons hmark, jsonDigits, isJsonDigit_byte hmark, hstop,
      if_neg Bool.false_ne_true, Nat.ofDigitChars_nil, if_pos parsed.toNat_lt,
      UInt64.ofNat_toNat]
  | cons c digits ih =>
    obtain ⟨hc, hdigits⟩ := List.forall_mem_cons.mp hdigits
    obtain ⟨hover, hfits⟩ := jsonDigit_step parsed hc
    rw [List.cons_append, utf8_cons (ascii_isDigit hc), jsonDigits,
      isJsonDigit_byte (ascii_isDigit hc), if_pos hc, Nat.ofDigitChars_cons]
    by_cases hlt : 10 * parsed.toNat + (c.toNat - '0'.toNat) < 2 ^ 64
    · rw [if_neg (mt hover.mp (Nat.not_le.mpr hlt)), ih hdigits, hfits hlt]
    · have hgrows := le_ofDigitChars digits (10 * parsed.toNat + (c.toNat - '0'.toNat))
      rw [if_pos (hover.mpr (Nat.not_lt.mp hlt)), if_neg (by omega)]

theorem isJsonValueTerminated_ended {after : List Char} (h : Json.Ended after) :
    isJsonValueTerminated (utf8 after) = true := by
  obtain @⟨space, mark, rest, hspace, hmark⟩ := h
  have hskip : Json.skipSpace (space ++ mark :: rest) = mark :: rest := by
    rw [Json.skipSpace_append hspace]
    obtain rfl | rfl := hmark <;> exact Json.skipSpace_cons rfl _
  rw [isJsonValueTerminated, dropWhile_isJsonSpace, hskip]
  obtain rfl | rfl := hmark <;> rw [utf8_cons rfl] <;> rfl

/-- What the scan for a number makes of a value. -/
def unsignedOf : Json → Option UInt64
  | .int false digits =>
    if Nat.ofDigitChars 10 digits 0 < 2 ^ 64 then some (UInt64.ofNat (Nat.ofDigitChars 10 digits 0))
    else none
  | _ => none

def boolOf : Json → Option Bool
  | .bool value => some value
  | _ => none

def asciiOf : Json → Option (List UInt8)
  | .str raw => if '\\' ∈ raw then none else some (utf8 raw)
  | _ => none

section
variable {contents : List UInt8} {key : String} {json : Json} {spelling after : List Char}

theorem parseJsonUnsigned_head {c : Char} {more : List Char}
    (hfind : findJsonValue contents key = some (utf8 (c :: more))) (hc : c.utf8Size = 1)
    (hdigit : c.isDigit = false) : parseJsonUnsigned contents key = none := by
  simp [parseJsonUnsigned, hfind, utf8_cons hc, isJsonDigit_byte hc, hdigit, guard]

theorem parseJsonUnsigned_digits {digits more : List Char} {mark : Char}
    (hfind : findJsonValue contents key = some (utf8 (digits ++ mark :: more)))
    (hne : digits ≠ []) (hdigits : ∀ c ∈ digits, c.isDigit) (hmark : mark.utf8Size = 1)
    (hstop : mark.isDigit = false) :
    parseJsonUnsigned contents key =
      if isJsonValueTerminated (utf8 (mark :: more)) then unsignedOf (.int false digits)
      else none := by
  have hscan := jsonDigits_spelt hdigits hmark hstop more 0
  have hhead : ((utf8 (digits ++ mark :: more)).head?.map isJsonDigit).getD false = true := by
    obtain ⟨c, digits, rfl⟩ := List.exists_cons_of_ne_nil hne
    have hc := hdigits c List.mem_cons_self
    rw [List.cons_append, utf8_cons (ascii_isDigit hc)]
    exact (isJsonDigit_byte (ascii_isDigit hc)).trans hc
  rw [show (0 : UInt64).toNat = 0 from rfl] at hscan
  simp only [parseJsonUnsigned, hfind, Option.bind_eq_bind, Option.bind_some, hhead, hscan,
    unsignedOf, guard, if_true]
  by_cases hlt : Nat.ofDigitChars 10 digits 0 < 2 ^ 64
  · rw [if_pos hlt, if_pos hlt]
    split <;> simp [*]
  · rw [if_neg hlt, if_neg hlt, ite_self]
    rfl

theorem parseJsonUnsigned_spelt (hspelt : json.Spelt spelling) (hended : Json.Ended after)
    (hfind : findJsonValue contents key = some (utf8 (spelling ++ after))) :
    parseJsonUnsigned contents key = unsignedOf json := by
  obtain ⟨c, more, hhead, hbegins⟩ := hspelt.begins
  have hother : c.isDigit = false → parseJsonUnsigned contents key = none := fun hdigit => by
    rw [hhead] at hfind
    exact parseJsonUnsigned_head hfind hbegins.not_space.1 hdigit
  cases hspelt with
  | @int digits negative hne hdigits =>
    cases negative with
    | false =>
      obtain ⟨mark, more', rfl, hmark⟩ := hended.cases
      obtain ⟨hstop, -⟩ := Json.not_isDigit_of_ended hmark
      rw [Json.signText, if_neg Bool.false_ne_true, List.nil_append] at hfind
      rw [parseJsonUnsigned_digits hfind hne hdigits (Json.ended_ascii hmark) hstop,
        isJsonValueTerminated_ended hended, if_pos rfl]
    | true => exact hother ((show c = '-' from hbegins) ▸ rfl)
  | @float digits negative mark more' hne hdigits hmark =>
    cases negative with
    | false =>
      obtain ⟨hascii, hstop, hspace, hcomma, hbrace⟩ : mark.utf8Size = 1 ∧ mark.isDigit = false ∧
          Json.isSpace mark = false ∧ mark ≠ ',' ∧ mark ≠ '\x7d' := by
        obtain rfl | rfl | rfl := hmark <;> decide
      rw [Json.signText, if_neg Bool.false_ne_true, List.nil_append, List.append_assoc,
        List.cons_append] at hfind
      have hunterminated : isJsonValueTerminated (utf8 (mark :: (more' ++ after))) = false := by
        rw [isJsonValueTerminated, dropWhile_isJsonSpace, Json.skipSpace_cons hspace,
          utf8_cons hascii]
        have hne' := mt (byte_inj hascii rfl).mp hcomma
        have hne'' := mt (byte_inj hascii rfl).mp hbrace
        simp [hne', hne'']
      rw [parseJsonUnsigned_digits hfind hne hdigits hascii hstop, hunterminated,
        if_neg Bool.false_ne_true]
      rfl
    | true => exact hother ((List.cons.inj hhead).1 ▸ rfl)
  | null => exact hother ((show c = 'n' from hbegins) ▸ rfl)
  | bool b =>
    obtain rfl : c = if b then 't' else 'f' := hbegins
    exact hother (by cases b <;> rfl)
  | constant mark more' hmark => exact hother (by obtain rfl | rfl | rfl := hbegins <;> rfl)
  | str _ => exact hother ((show c = '\x22' from hbegins) ▸ rfl)
  | arr _ more' => exact hother ((show c = '[' from hbegins) ▸ rfl)
  | obj _ more' => exact hother ((show c = '\x7b' from hbegins) ▸ rfl)

theorem parseJsonBool_head {c : Char} {more : List Char}
    (hfind : findJsonValue contents key = some (utf8 (c :: more))) (ht : c ≠ 't') (hf : c ≠ 'f') :
    parseJsonBool contents key = none := by
  have hword : ∀ (d : Char) (word : List Char), Ascii (d :: word) → c ≠ d →
      (utf8 (d :: word)).isPrefixOf (utf8 (c :: more)) = false := fun d word hword hne => by
    rw [isPrefixOf_utf8 hword, List.isPrefixOf_cons_cons, beq_false_of_ne hne.symm, Bool.false_and]
  have htrue : (bytes "true").isPrefixOf (utf8 (c :: more)) = false :=
    hword 't' ['r', 'u', 'e'] (by decide) ht
  have hfalse : (bytes "false").isPrefixOf (utf8 (c :: more)) = false :=
    hword 'f' ['a', 'l', 's', 'e'] (by decide) hf
  simp only [parseJsonBool, hfind, htrue, hfalse, Option.bind_eq_bind, Option.bind_some,
    Bool.false_eq_true, if_false]

theorem parseJsonBool_spelt (hspelt : json.Spelt spelling) (hended : Json.Ended after)
    (hfind : findJsonValue contents key = some (utf8 (spelling ++ after))) :
    parseJsonBool contents key = boolOf json := by
  by_cases hbool : ∀ b, json ≠ .bool b
  · obtain ⟨c, more, hhead, hbegins⟩ := hspelt.begins
    rw [hhead] at hfind
    obtain ⟨ht, hf⟩ := hbegins.not_letter hbool
    rw [parseJsonBool_head hfind ht hf]
    cases json with
    | bool b => exact absurd rfl (hbool b)
    | _ => rfl
  · simp only [ne_eq, not_forall, not_not] at hbool
    obtain ⟨b, rfl⟩ := hbool
    have hterminated := isJsonValueTerminated_ended hended
    have hword : ∀ word : List Char, Ascii word →
        (utf8 word).isPrefixOf (utf8 (word ++ after)) = true := fun word hword => by
      rw [isPrefixOf_utf8 hword]
      exact isPrefixOf_append after
    cases hspelt
    cases b with
    | true =>
      have htrue : (bytes "true").isPrefixOf (utf8 ("true".toList ++ after)) = true :=
        hword "true".toList (by decide)
      have hdrop : (utf8 ("true".toList ++ after)).drop 4 = utf8 after := by
        rw [utf8_append]
        exact List.drop_left' rfl
      simp only [parseJsonBool, hfind, if_true, htrue, hdrop, hterminated, Option.bind_eq_bind,
        Option.bind_some]
      rfl
    | false =>
      have htrue : (bytes "true").isPrefixOf (utf8 ("false".toList ++ after)) = false := by
        rw [bytes, isPrefixOf_utf8 (by decide)]
        rfl
      have hfalse : (bytes "false").isPrefixOf (utf8 ("false".toList ++ after)) = true :=
        hword "false".toList (by decide)
      have hdrop : (utf8 ("false".toList ++ after)).drop 5 = utf8 after := by
        rw [utf8_append]
        exact List.drop_left' rfl
      simp only [parseJsonBool, hfind, if_true, if_false, htrue, hfalse, hdrop, hterminated,
        Option.bind_eq_bind, Option.bind_some, Bool.false_eq_true]
      rfl

theorem scan_quote {text : List Char} (h : '\x22' ∉ text) (after : List Char) :
    (text ++ '\x22' :: after).takeWhile (· != '\x22') = text ∧
      (text ++ '\x22' :: after).dropWhile (· != '\x22') = '\x22' :: after := by
  have hall : ∀ c ∈ text, (c != '\x22') = true := fun c hc =>
    bne_iff_ne.mpr fun heq => h (heq ▸ hc)
  rw [List.takeWhile_append_of_pos hall, List.dropWhile_append_of_pos hall,
    List.takeWhile_cons_of_neg (by decide), List.dropWhile_cons_of_neg (by decide), List.append_nil]
  exact ⟨rfl, rfl⟩

theorem scan_string {raw : List Char} (h : Json.Escaped raw) (after : List Char) :
    ∃ text rest, (raw ++ '\x22' :: after).takeWhile (· != '\x22') = text ∧
      (raw ++ '\x22' :: after).dropWhile (· != '\x22') = '\x22' :: rest ∧
      ('\\' ∉ raw → text = raw ∧ rest = after) ∧ ('\\' ∈ raw → '\\' ∈ text) := by
  by_cases hquote : '\x22' ∈ raw
  · obtain ⟨text, rest, rfl, hfirst⟩ := List.eq_append_cons_of_mem hquote
    obtain ⟨htake, hdrop⟩ := scan_quote hfirst (rest ++ '\x22' :: after)
    have hbackslash := h text rest rfl
    rw [List.append_assoc, List.cons_append]
    exact ⟨text, _, htake, hdrop, fun hnot => absurd (List.mem_append_left _ hbackslash) hnot,
      fun _ => hbackslash⟩
  · obtain ⟨htake, hdrop⟩ := scan_quote hquote after
    exact ⟨raw, after, htake, hdrop, fun _ => ⟨rfl, rfl⟩, id⟩

theorem parseJsonAsciiString_spelt (hspelt : json.Spelt spelling) (hended : Json.Ended after)
    (hfind : findJsonValue contents key = some (utf8 (spelling ++ after))) :
    parseJsonAsciiString contents key = asciiOf json := by
  by_cases hstr : ∀ raw, json ≠ .str raw
  · obtain ⟨c, more, hhead, hbegins⟩ := hspelt.begins
    obtain ⟨hascii, -⟩ := hbegins.not_space
    have hquote := mt (byte_inj hascii rfl).mp (hbegins.not_quote hstr)
    rw [hhead, List.cons_append, utf8_cons hascii] at hfind
    simp only [parseJsonAsciiString, hfind, hquote, Option.bind_eq_bind, Option.bind_some, guard,
      if_false]
    cases json with
    | str raw => exact absurd rfl (hstr raw)
    | _ => rfl
  · simp only [ne_eq, not_forall, not_not] at hstr
    obtain ⟨raw, rfl⟩ := hstr
    cases hspelt with
    | str hescaped =>
      have hterminated := isJsonValueTerminated_ended hended
      obtain ⟨text, rest, htake, hdrop, hplain, hbackslash⟩ := scan_string hescaped after
      have hlift := lifts_ne (show ('\x22' : Char).utf8Size = 1 from rfl)
      rw [List.cons_append, List.append_assoc, List.singleton_append, utf8_cons rfl] at hfind
      simp only [parseJsonAsciiString, hfind, Option.bind_eq_bind, Option.bind_some, guard, if_true,
        takeWhile_utf8 hlift, dropWhile_utf8 hlift, htake, hdrop, @utf8_cons '\x22' rfl,
        mem_utf8 (show ('\\' : Char).utf8Size = 1 from rfl), asciiOf]
      by_cases hraw : '\\' ∈ raw
      · rw [if_neg (not_not.mpr (hbackslash hraw)), if_pos hraw]
        rfl
      · obtain ⟨rfl, rfl⟩ := hplain hraw
        rw [if_pos hraw, if_neg hraw, hterminated]
        rfl

end

end NativeLdac.Agent
