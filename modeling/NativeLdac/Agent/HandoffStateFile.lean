/-
  The state file of a handoff as text (`EscapeJson`, `V1AvrcpHandoffIpc::WriteState` and
  `ReadState` in `agent/v1_avrcp_handoff_ipc.cpp`).

  * `stateText` is what is written, `readState` what is made of a file;
  * no text of a field is taken for a key (`after?_value`), so that `readState_stateText` says what
    is read of any record;
  * a text is read back as it was written exactly when it has nothing to escape; the records
    without an error, of requests and completions, are.
-/
import NativeLdac.Agent.HandoffIpc
import NativeLdac.Lib.TextBytes
import NativeLdac.Lib.WideText

namespace NativeLdac.Agent

open TextBytes WideText

def quoteUnit : UInt16 := 34
def backslashUnit : UInt16 := 92

def escapeJson (text : List UInt16) : List UInt16 :=
  text.flatMap fun character =>
    if character = backslashUnit ∨ character = quoteUnit then [backslashUnit, character]
    else [character]

/-- `SYSTEMTIME`, what a timestamp has of it -/
structure SystemTime where
  year : UInt16
  month : UInt16
  day : UInt16
  hour : UInt16
  minute : UInt16
  second : UInt16
  deriving DecidableEq, Repr

/-- `%0*u` -/
def padded (width : Nat) (n : UInt16) : List UInt16 :=
  List.replicate (width - (decimal n.toNat).length) 48 ++ decimal n.toNat

/-- `FormatTimestamp`; it fits the buffer of 64. -/
def formatTimestamp (time : SystemTime) : List UInt16 :=
  padded 4 time.year ++ wide "-" ++ padded 2 time.month ++ wide "-" ++ padded 2 time.day ++
    wide "T" ++ padded 2 time.hour ++ wide ":" ++ padded 2 time.minute ++ wide ":" ++
    padded 2 time.second

/-- The arguments of `WriteState`, with the times that it gets; the second one only for a record
of a completion. -/
structure HandoffRecord where
  state : CString
  aclGeneration : UInt64
  restartCount : UInt32
  errorText : CString
  requestedAt : SystemTime
  completedAt : Option SystemTime
  deriving DecidableEq, Repr

namespace HandoffRecord

variable (record : HandoffRecord)

def completedText : List UInt16 := (record.completedAt.map formatTimestamp).getD []

/-- `state_text` of `WriteState` -/
def stateText : List UInt16 :=
  wide "\x7b\r\n" ++
    wide "  \"schema_version\": 1,\r\n" ++
    wide "  \"state\": \"" ++ escapeJson record.state.units ++ wide "\",\r\n" ++
    wide "  \"generation\": " ++ decimal record.aclGeneration.toNat ++ wide ",\r\n" ++
    wide "  \"restart_count\": " ++ decimal record.restartCount.toNat ++ wide ",\r\n" ++
    wide "  \"error\": \"" ++ escapeJson record.errorText.units ++ wide "\",\r\n" ++
    wide "  \"requested_at\": \"" ++ formatTimestamp record.requestedAt ++ wide "\",\r\n" ++
    wide "  \"completed_at\": \"" ++ record.completedText ++ wide "\"\r\n" ++
    wide "\x7d\r\n"

/-- `WriteState`: the file that replaces the state file; the size in bytes is a `DWORD`. -/
def writeState : List UInt16 :=
  record.stateText.take (2 * record.stateText.length % 2 ^ 32 / 2)

end HandoffRecord

/-- The results of `ReadState` -/
structure HandoffState where
  state : List UInt16
  generation : UInt64
  restartCount : UInt32
  errorText : List UInt16
  deriving DecidableEq, Repr

inductive HandoffReadError where
  | fileNotFound | invalidData
  deriving DecidableEq, Repr

/-- What is `offset` units behind the first occurrence of a token. -/
def behind? (token : String) (offset : Nat) (content : List UInt16) : Option (List UInt16) :=
  (find? (wide token) content).map fun position => content.drop (position + offset)

/-- The units up to the next quote -/
def untilQuote? (text : List UInt16) : Option (List UInt16) :=
  if quoteUnit ∈ text then some (text.takeWhile fun unit => !decide (unit = quoteUnit)) else none

/-- `ReadState`, of what was read of the file -/
def readContent (content : List UInt16) : Option HandoffState := do
  let state ← (behind? "\"state\": \"" 10 content).bind untilQuote?
  let generationText ← behind? "\"generation\": " 14 content
  let restartText ← behind? "\"restart_count\": " 17 content
  let errorStart ← behind? "\"error\": \"" 10 content
  let generation ← wcsto (2 ^ 64 - 1) generationText
  let restartCount ← wcsto (2 ^ 32 - 1) restartText
  let errorText ← untilQuote? errorStart
  some ⟨state, UInt64.ofNat generation, UInt32.ofNat restartCount, errorText⟩

/-- `ReadState`, for a file that can be opened and read: of a file of a mebibyte nothing is read. -/
def readState (file : List UInt16) : Except HandoffReadError HandoffState :=
  let content :=
    if 0 < 2 * file.length ∧ 2 * file.length < 1024 * 1024 then
      file.takeWhile fun unit => !decide (unit = 0)
    else []
  if content = [] then .error .fileNotFound
  else
    match readContent content with
    | none => .error .invalidData
    | some state => .ok state

/-! ## Searching the record -/

theorem behind?_eq {token : String} {offset : Nat} (h : (wide token).length = offset)
    (content : List UInt16) : behind? token offset content = after? (wide token) content := by
  rw [behind?, after?_eq_find?, h]

theorem escapeJson_cons (character : UInt16) (text : List UInt16) :
    escapeJson (character :: text) =
      if character = backslashUnit ∨ character = quoteUnit then
        backslashUnit :: character :: escapeJson text
      else character :: escapeJson text := by
  rw [escapeJson, List.flatMap_cons]
  split_ifs <;> rfl

theorem not_prefix_escaped {word : List UInt16} (hquote : quoteUnit ∉ word)
    (hbackslash : backslashUnit ∉ word) (more text rest : List UInt16) :
    ¬ (word ++ quoteUnit :: 58 :: more) <+: (escapeJson text ++ quoteUnit :: 44 :: rest) := by
  induction text generalizing word with
  | nil =>
    cases word with
    | nil =>
      intro h
      obtain ⟨-, h⟩ := List.cons_prefix_cons.mp h
      exact absurd (List.cons_prefix_cons.mp h).1 (by decide)
    | cons a word =>
      intro h
      exact hquote ((List.cons_prefix_cons.mp h).1 ▸ List.mem_cons_self)
  | cons character text ih =>
    rw [escapeJson_cons]
    split_ifs with hspecial
    · cases word with
      | nil =>
        intro h
        exact absurd (List.cons_prefix_cons.mp h).1 (by decide)
      | cons a word =>
        intro h
        exact hbackslash ((List.cons_prefix_cons.mp h).1 ▸ List.mem_cons_self)
    · cases word with
      | nil =>
        intro h
        exact hspecial (.inr (List.cons_prefix_cons.mp h).1.symm)
      | cons a word =>
        intro h
        exact ih (fun hmem => hquote (List.mem_cons_of_mem _ hmem))
          (fun hmem => hbackslash (List.mem_cons_of_mem _ hmem)) (List.cons_prefix_cons.mp h).2

theorem after?_value {a : UInt16} {word : List UInt16} (hquote : quoteUnit ∉ a :: word)
    (hbackslash : backslashUnit ∉ a :: word) (hcomma : a ≠ 44) (more text rest : List UInt16) :
    after? (quoteUnit :: (a :: word ++ quoteUnit :: 58 :: more))
        (quoteUnit :: (escapeJson text ++ quoteUnit :: 44 :: rest)) =
      after? (quoteUnit :: (a :: word ++ quoteUnit :: 58 :: more)) (44 :: rest) := by
  have hstep : ∀ text' : List UInt16,
      after? (quoteUnit :: (a :: word ++ quoteUnit :: 58 :: more))
          (quoteUnit :: (escapeJson text' ++ quoteUnit :: 44 :: rest)) =
        after? (quoteUnit :: (a :: word ++ quoteUnit :: 58 :: more))
          (escapeJson text' ++ quoteUnit :: 44 :: rest) := by
    intro text'
    rw [after?, if_neg]
    rw [List.isPrefixOf_iff_prefix, List.cons_prefix_cons, not_and]
    exact fun _ => not_prefix_escaped hquote hbackslash more text' rest
  have hplain : ∀ {unit : UInt16} (units : List UInt16), unit ≠ quoteUnit →
      after? (quoteUnit :: (a :: word ++ quoteUnit :: 58 :: more)) (unit :: units) =
        after? (quoteUnit :: (a :: word ++ quoteUnit :: 58 :: more)) units := by
    intro unit units hunit
    exact @after?_skip _ _ [unit] _ _ _ (by simpa using hunit.symm)
  have hend : after? (quoteUnit :: (a :: word ++ quoteUnit :: 58 :: more))
      (quoteUnit :: 44 :: rest) =
        after? (quoteUnit :: (a :: word ++ quoteUnit :: 58 :: more)) (44 :: rest) := by
    rw [after?, if_neg]
    rw [List.isPrefixOf_iff_prefix, List.cons_append, List.cons_prefix_cons, List.cons_prefix_cons]
    exact fun h => hcomma h.2.1
  rw [hstep]
  generalize quoteUnit :: (a :: word ++ quoteUnit :: 58 :: more) = token at hstep hplain hend ⊢
  induction text with
  | nil => exact hend
  | cons character text ih =>
    rw [escapeJson_cons]
    split_ifs with hspecial
    · rw [List.cons_append, List.cons_append, hplain _ (by decide)]
      by_cases hc : character = quoteUnit
      · rw [hc, hstep, ih]
      · rw [hplain _ hc, ih]
    · rw [List.cons_append, hplain _ (fun hc => hspecial (.inr hc)), ih]

/-! ## What is read of a record -/

/-- A text as it is read: escaped, and cut at the first quote. -/
def readText (text : List UInt16) : List UInt16 :=
  (escapeJson text).takeWhile fun unit => !decide (unit = quoteUnit)

theorem untilQuote?_append (text rest : List UInt16) :
    untilQuote? (escapeJson text ++ quoteUnit :: rest) = some (readText text) := by
  rw [untilQuote?, if_pos (List.mem_append_right _ List.mem_cons_self), readText]
  congr 1
  induction escapeJson text with
  | nil => rfl
  | cons unit units ih =>
    rw [List.cons_append, List.takeWhile_cons, List.takeWhile_cons, ih]

namespace HandoffRecord

variable (record : HandoffRecord)

/-- The record behind the error text -/
def trailer : List UInt16 :=
  wide "\r\n" ++ wide "  \"requested_at\": \"" ++ formatTimestamp record.requestedAt ++
    wide "\",\r\n" ++ wide "  \"completed_at\": \"" ++ record.completedText ++ wide "\"\r\n" ++
    wide "\x7d\r\n"

/-- The record behind the state -/
def numbers : List UInt16 :=
  wide "\r\n" ++ (wide "  \"generation\": " ++ (decimal record.aclGeneration.toNat ++ 44 ::
    (wide "\r\n" ++ (wide "  \"restart_count\": " ++ (decimal record.restartCount.toNat ++ 44 ::
      (wide "\r\n" ++ (wide "  \"error\": " ++ quoteUnit ::
        (escapeJson record.errorText.units ++ quoteUnit :: 44 :: record.trailer))))))))

theorem stateText_eq :
    record.stateText = wide "\x7b\r\n" ++ (wide "  \"schema_version\": 1,\r\n" ++
      (wide "  \"state\": " ++ quoteUnit ::
        (escapeJson record.state.units ++ quoteUnit :: 44 :: record.numbers))) := by
  have hstate : wide "  \"state\": \"" = wide "  \"state\": " ++ [quoteUnit] := by decide
  have herror : wide "  \"error\": \"" = wide "  \"error\": " ++ [quoteUnit] := by decide
  have htext : wide "\",\r\n" = [quoteUnit, 44] ++ wide "\r\n" := by decide
  have hnumber : wide ",\r\n" = [44] ++ wide "\r\n" := by decide
  unfold stateText numbers trailer
  simp only [hstate, herror, htext, hnumber, List.append_assoc, List.cons_append, List.nil_append]

theorem after?_state :
    after? (wide "\"state\": \"") record.stateText =
      some (escapeJson record.state.units ++ quoteUnit :: 44 :: record.numbers) := by
  rw [stateText_eq]
  rfl

theorem after?_numbers {a : UInt16} {word more : List UInt16} (hquote : quoteUnit ∉ a :: word)
    (hbackslash : backslashUnit ∉ a :: word) (hcomma : a ≠ 44)
    (hkey : ∀ rest, after? (quoteUnit :: (a :: word ++ quoteUnit :: 58 :: more))
      (wide "\x7b\r\n" ++ (wide "  \"schema_version\": 1,\r\n" ++ (wide "  \"state\": " ++ rest))) =
        after? (quoteUnit :: (a :: word ++ quoteUnit :: 58 :: more)) rest) :
    after? (quoteUnit :: (a :: word ++ quoteUnit :: 58 :: more)) record.stateText =
      after? (quoteUnit :: (a :: word ++ quoteUnit :: 58 :: more)) (44 :: record.numbers) := by
  rw [stateText_eq, hkey]
  exact after?_value hquote hbackslash hcomma more record.state.units record.numbers

theorem after?_decimal (n : Nat) (more rest : List UInt16) :
    after? (quoteUnit :: more) (decimal n ++ rest) = after? (quoteUnit :: more) rest :=
  after?_skip fun h => absurd (decimal_isDigit n _ h) (by decide)

theorem after?_generation :
    ∃ rest, after? (wide "\"generation\": ") record.stateText =
      some (decimal record.aclGeneration.toNat ++ 44 :: rest) := by
  have htoken : wide "\"generation\": " =
      quoteUnit :: (103 :: wide "eneration" ++ quoteUnit :: 58 :: [32]) := by decide
  rw [htoken, after?_numbers record (by decide) (by decide) (by decide) (fun _ => rfl), ← htoken,
    numbers]
  exact ⟨_, rfl⟩

theorem after?_restartCount :
    ∃ rest, after? (wide "\"restart_count\": ") record.stateText =
      some (decimal record.restartCount.toNat ++ 44 :: rest) := by
  have htoken : wide "\"restart_count\": " =
      quoteUnit :: (114 :: wide "estart_count" ++ quoteUnit :: 58 :: [32]) := by decide
  have hgeneration : ∀ rest, after? (wide "\"restart_count\": ")
      (44 :: (wide "\r\n" ++ (wide "  \"generation\": " ++ rest))) =
        after? (wide "\"restart_count\": ") rest := fun _ => rfl
  rw [htoken, after?_numbers record (by decide) (by decide) (by decide) (fun _ => rfl), ← htoken,
    numbers, hgeneration, htoken, after?_decimal, ← htoken]
  exact ⟨_, rfl⟩

theorem after?_error :
    after? (wide "\"error\": \"") record.stateText =
      some (escapeJson record.errorText.units ++ quoteUnit :: 44 :: record.trailer) := by
  have htoken : wide "\"error\": \"" =
      quoteUnit :: (101 :: wide "rror" ++ quoteUnit :: 58 :: [32, quoteUnit]) := by decide
  have hgeneration : ∀ rest, after? (wide "\"error\": \"")
      (44 :: (wide "\r\n" ++ (wide "  \"generation\": " ++ rest))) =
        after? (wide "\"error\": \"") rest := fun _ => rfl
  have hrestart : ∀ rest, after? (wide "\"error\": \"")
      (44 :: (wide "\r\n" ++ (wide "  \"restart_count\": " ++ rest))) =
        after? (wide "\"error\": \"") rest := fun _ => rfl
  rw [htoken, after?_numbers record (by decide) (by decide) (by decide) (fun _ => rfl), ← htoken,
    numbers, hgeneration, htoken, after?_decimal, ← htoken, hrestart, htoken, after?_decimal,
    ← htoken]
  rfl

theorem readContent_stateText :
    readContent record.stateText = some
      { state := readText record.state.units
        generation := record.aclGeneration
        restartCount := record.restartCount
        errorText := readText record.errorText.units } := by
  obtain ⟨afterGeneration, hgeneration⟩ := record.after?_generation
  obtain ⟨afterRestart, hrestart⟩ := record.after?_restartCount
  have hmax : record.aclGeneration.toNat ≤ 2 ^ 64 - 1 :=
    Nat.le_sub_one_of_lt record.aclGeneration.toNat_lt
  have hmax' : record.restartCount.toNat ≤ 2 ^ 32 - 1 :=
    Nat.le_sub_one_of_lt record.restartCount.toNat_lt
  have hcomma : isDigit 44 = false := by decide
  rw [readContent, behind?_eq (by decide), behind?_eq (by decide), behind?_eq (by decide),
    behind?_eq (by decide), record.after?_state, hgeneration, hrestart, record.after?_error]
  simp only [Option.bind_some, Option.bind_eq_bind, untilQuote?_append, wcsto_decimal hmax hcomma,
    wcsto_decimal hmax' hcomma, UInt64.ofNat_toNat, UInt32.ofNat_toNat]

end HandoffRecord

/-! ## Sizes -/

/-- The text has nothing to escape. -/
def Plain (text : List UInt16) : Prop := quoteUnit ∉ text ∧ backslashUnit ∉ text

instance (text : List UInt16) : Decidable (Plain text) := inferInstanceAs (Decidable (_ ∧ _))

theorem mem_escapeJson {unit : UInt16} (h : unit ≠ backslashUnit) (text : List UInt16) :
    unit ∈ escapeJson text ↔ unit ∈ text := by
  induction text with
  | nil => rfl
  | cons character text ih =>
    rw [escapeJson_cons]
    split_ifs <;> simp [ih, h]

theorem length_escapeJson_le (text : List UInt16) :
    (escapeJson text).length ≤ 2 * text.length := by
  induction text with
  | nil => exact Nat.le_refl 0
  | cons character text ih =>
    rw [escapeJson_cons]
    split_ifs <;> simp only [List.length_cons] <;> omega

theorem Plain.escapeJson_eq {text : List UInt16} (h : Plain text) : escapeJson text = text := by
  induction text with
  | nil => rfl
  | cons character text ih =>
    obtain ⟨hquote, hbackslash⟩ := h
    rw [List.mem_cons, not_or] at hquote hbackslash
    rw [escapeJson_cons, if_neg (by simp [Ne.symm hquote.1, Ne.symm hbackslash.1]),
      ih ⟨hquote.2, hbackslash.2⟩]

theorem plain_of_length {text : List UInt16} (h : (escapeJson text).length ≤ text.length) :
    Plain text := by
  have hle : ∀ text : List UInt16, text.length ≤ (escapeJson text).length := by
    intro text
    induction text with
    | nil => exact Nat.le_refl 0
    | cons character text ih =>
      rw [escapeJson_cons]
      split_ifs <;> simp only [List.length_cons] <;> omega
  induction text with
  | nil => exact ⟨List.not_mem_nil, List.not_mem_nil⟩
  | cons character text ih =>
    rw [escapeJson_cons] at h
    split_ifs at h with hspecial
    · have := hle text
      simp only [List.length_cons] at h
      omega
    · obtain ⟨hquote, hbackslash⟩ := ih (by simpa using h)
      rw [not_or] at hspecial
      constructor
      · rw [List.mem_cons, not_or]
        exact ⟨hspecial.2 ∘ Eq.symm, hquote⟩
      · rw [List.mem_cons, not_or]
        exact ⟨hspecial.1 ∘ Eq.symm, hbackslash⟩

theorem readText_eq_iff (text : List UInt16) : readText text = text ↔ Plain text := by
  constructor
  · intro h
    have hquote : quoteUnit ∉ text := by
      intro hmem
      rw [← h] at hmem
      have := List.mem_takeWhile_imp hmem
      simp at this
    have hescaped : readText text = escapeJson text := by
      rw [readText, List.takeWhile_eq_self_iff]
      intro unit hunit
      have hne : unit ≠ quoteUnit := by
        rintro rfl
        exact hquote ((mem_escapeJson (by decide) text).mp hunit)
      simp [hne]
    exact plain_of_length (by rw [← hescaped, h])
  · intro h
    rw [readText, h.escapeJson_eq, List.takeWhile_eq_self_iff]
    intro unit hunit
    have hne : unit ≠ quoteUnit := by
      rintro rfl
      exact h.1 hunit
    simp [hne]

namespace HandoffRecord

variable (record : HandoffRecord)

theorem stateText_noNul : 0 ∉ record.stateText := by
  have htext : ∀ text : CString, 0 ∉ escapeJson text.units := fun text =>
    mt (mem_escapeJson (by decide) text.units).mp text.noNul
  have hdecimal : ∀ n, 0 ∉ decimal n := fun n h =>
    absurd (decimal_isDigit n 0 h) (by decide)
  have hpadded : ∀ width n, 0 ∉ padded width n := by
    intro width n h
    rcases List.mem_append.mp h with h | h
    · exact absurd (List.eq_of_mem_replicate h) (by decide)
    · exact hdecimal _ h
  have htime : ∀ time, 0 ∉ formatTimestamp time := by
    intro time
    have hmarks : 0 ∉ wide "-" ∧ 0 ∉ wide "T" ∧ 0 ∉ wide ":" := by decide
    simp [formatTimestamp, hpadded, hmarks]
  have hcompleted : 0 ∉ record.completedText := by
    rw [completedText]
    cases record.completedAt with
    | none => exact List.not_mem_nil
    | some time => exact htime time
  rw [stateText_eq, numbers, trailer]
  simp only [List.mem_append, List.mem_cons, not_or, htext, hdecimal, htime, hcompleted,
    not_false_eq_true, true_and, and_true]
  decide

def plainLength : Nat :=
  148 + record.state.units.length + (decimal record.aclGeneration.toNat).length +
    (decimal record.restartCount.toNat).length + record.errorText.units.length +
    (formatTimestamp record.requestedAt).length + record.completedText.length

theorem length_stateText :
    record.stateText.length + record.state.units.length + record.errorText.units.length =
      record.plainLength + (escapeJson record.state.units).length +
        (escapeJson record.errorText.units).length := by
  have hopen : (wide "\x7b\r\n").length = 3 := by decide
  have hversion : (wide "  \"schema_version\": 1,\r\n").length = 24 := by decide
  have hstate : (wide "  \"state\": ").length = 11 := by decide
  have hline : (wide "\r\n").length = 2 := by decide
  have hgeneration : (wide "  \"generation\": ").length = 16 := by decide
  have hrestart : (wide "  \"restart_count\": ").length = 19 := by decide
  have herror : (wide "  \"error\": ").length = 11 := by decide
  have hrequested : (wide "  \"requested_at\": \"").length = 19 := by decide
  have hnext : (wide "\",\r\n").length = 4 := by decide
  have hcompleted : (wide "  \"completed_at\": \"").length = 19 := by decide
  have hlast : (wide "\"\r\n").length = 3 := by decide
  have hclose : (wide "\x7d\r\n").length = 3 := by decide
  rw [stateText_eq, numbers, trailer, plainLength]
  simp only [List.length_append, List.length_cons, hopen, hversion, hstate, hline, hgeneration,
    hrestart, herror, hrequested, hnext, hcompleted, hlast, hclose]
  omega

theorem length_numbers_le :
    (decimal record.aclGeneration.toNat).length ≤ 20 ∧
      (decimal record.restartCount.toNat).length ≤ 10 ∧
      (formatTimestamp record.requestedAt).length ≤ 45 ∧ record.completedText.length ≤ 45 := by
  have hdecimal : ∀ {n k : Nat}, 0 < k → n < 10 ^ k → (decimal n).length ≤ k := by
    intro n k hk hn
    rw [decimal, List.length_map]
    exact (Nat.length_toDigits_le_iff (by decide) hk).mpr hn
  have hpadded : ∀ {width : Nat} (n : UInt16), width ≤ 5 → (padded width n).length ≤ 5 := by
    intro width n hwidth
    have hn : (decimal n.toNat).length ≤ 5 :=
      hdecimal (by decide) (Nat.lt_trans n.toNat_lt (by decide))
    rw [padded, List.length_append, List.length_replicate]
    omega
  have htime : ∀ time : SystemTime, (formatTimestamp time).length ≤ 45 := by
    intro time
    have hmarks : (wide "-").length = 1 ∧ (wide "T").length = 1 ∧ (wide ":").length = 1 := by decide
    have hyear := hpadded time.year (by decide : 4 ≤ 5)
    have hmonth := hpadded time.month (by decide : 2 ≤ 5)
    have hday := hpadded time.day (by decide : 2 ≤ 5)
    have hhour := hpadded time.hour (by decide : 2 ≤ 5)
    have hminute := hpadded time.minute (by decide : 2 ≤ 5)
    have hsecond := hpadded time.second (by decide : 2 ≤ 5)
    simp only [formatTimestamp, List.length_append, hmarks]
    omega
  refine ⟨hdecimal (by decide) (Nat.lt_trans record.aclGeneration.toNat_lt (by decide)),
    hdecimal (by decide) (Nat.lt_trans record.restartCount.toNat_lt (by decide)),
    htime record.requestedAt, ?_⟩
  rw [completedText]
  cases record.completedAt with
  | none => exact Nat.zero_le _
  | some time => exact htime time

end HandoffRecord

theorem readContent_length {content : List UInt16} {state : HandoffState}
    (h : readContent content = some state) :
    state.state.length ≤ content.length ∧ state.errorText.length ≤ content.length := by
  have hbehind : ∀ {token : String} {offset : Nat} {text : List UInt16},
      behind? token offset content = some text → text.length ≤ content.length := by
    intro token offset text h
    obtain ⟨position, -, rfl⟩ := Option.map_eq_some_iff.mp h
    rw [List.length_drop]
    exact Nat.sub_le _ _
  have huntil : ∀ {text text' : List UInt16},
      untilQuote? text = some text' → text'.length ≤ text.length := by
    intro text text' h
    rw [untilQuote?] at h
    split_ifs at h
    cases h
    exact (List.takeWhile_sublist _).length_le
  simp only [readContent, Option.bind_eq_bind, Option.bind_eq_some_iff, Option.some.injEq] at h
  obtain ⟨text, ⟨stateStart, hstate, htext⟩, -, -, -, -, errorStart, herror, -, -, -, -, errorText,
    herrorText, rfl⟩ := h
  exact ⟨(huntil htext).trans (hbehind hstate), (huntil herrorText).trans (hbehind herror)⟩

theorem readState_ok {file : List UInt16} {state : HandoffState} (h : readState file = .ok state) :
    2 * file.length < 1024 * 1024 ∧
      readContent (file.takeWhile fun unit => !decide (unit = 0)) = some state := by
  by_cases hsize : 0 < 2 * file.length ∧ 2 * file.length < 1024 * 1024
  · simp only [readState, if_pos hsize] at h
    refine ⟨hsize.2, ?_⟩
    split_ifs at h
    cases hread : readContent (file.takeWhile fun unit => !decide (unit = 0)) with
    | none => rw [hread] at h; cases h
    | some state' => rw [hread] at h; cases h; rfl
  · rw [readState, if_neg hsize] at h
    cases h

namespace HandoffRecord

variable (record : HandoffRecord)

theorem readState_stateText (h : 2 * record.stateText.length < 1024 * 1024) :
    readState record.writeState = .ok
      { state := readText record.state.units
        generation := record.aclGeneration
        restartCount := record.restartCount
        errorText := readText record.errorText.units } := by
  have hwhole : record.writeState = record.stateText := by
    rw [writeState, List.take_of_length_le]
    omega
  have hunits : record.stateText.takeWhile (fun unit => !decide (unit = 0)) = record.stateText := by
    rw [List.takeWhile_eq_self_iff]
    intro unit hunit
    have hne : unit ≠ 0 := by
      rintro rfl
      exact record.stateText_noNul hunit
    simp [hne]
  have hne : record.stateText ≠ [] := by
    rw [stateText_eq]
    simp [wide]
  have hsize : 0 < 2 * record.stateText.length ∧ 2 * record.stateText.length < 1024 * 1024 :=
    ⟨Nat.mul_pos (by decide) (List.length_pos_iff.mpr hne), h⟩
  simp only [hwhole, readState, if_pos hsize, hunits, hne, if_false, readContent_stateText]

/-- The texts have nothing to escape, and the record is under a mebibyte. -/
structure Kept : Prop where
  state : Plain record.state.units
  errorText : Plain record.errorText.units
  size : 2 * record.plainLength < 1024 * 1024

theorem length_plain {record : HandoffRecord} (hstate : Plain record.state.units)
    (herror : Plain record.errorText.units) :
    record.stateText.length = record.plainLength := by
  have h := record.length_stateText
  rw [hstate.escapeJson_eq, herror.escapeJson_eq] at h
  omega

theorem Kept.readState {record : HandoffRecord} (h : record.Kept) :
    readState record.writeState = .ok
      { state := record.state.units
        generation := record.aclGeneration
        restartCount := record.restartCount
        errorText := record.errorText.units } := by
  have hfile : 2 * record.stateText.length < 1024 * 1024 := by
    rw [length_plain h.state h.errorText]
    exact h.size
  rw [readState_stateText record hfile, (readText_eq_iff _).mpr h.state,
    (readText_eq_iff _).mpr h.errorText]

/-- **Written and read**: the state, the numbers and the error text are read back exactly when the
texts have no quote and no backslash, and the record is under a mebibyte. -/
theorem readState_writeState_iff :
    readState record.writeState = .ok
        { state := record.state.units
          generation := record.aclGeneration
          restartCount := record.restartCount
          errorText := record.errorText.units } ↔
      record.Kept := by
  constructor
  · intro h
    obtain ⟨hsize, hread⟩ := readState_ok h
    -- what is read bounds the texts, so that no part of the record was cut off
    obtain ⟨hstate, herror⟩ := readContent_length hread
    dsimp only at hstate herror
    have hcontent := (record.writeState.takeWhile_sublist fun unit => !decide (unit = 0)).length_le
    have hlength := record.length_stateText
    have hnumbers := record.length_numbers_le
    have hescaped := length_escapeJson_le record.state.units
    have hescaped' := length_escapeJson_le record.errorText.units
    have hsmall : 2 * record.stateText.length < 2 ^ 32 := by
      rw [plainLength] at hlength
      omega
    have hfile : 2 * record.stateText.length < 1024 * 1024 := by
      rw [writeState, List.length_take] at hsize
      omega
    rw [readState_stateText record hfile] at h
    have hresult := Except.ok.inj h
    have htext := (readText_eq_iff _).mp (congrArg HandoffState.state hresult)
    have htext' := (readText_eq_iff _).mp (congrArg HandoffState.errorText hresult)
    exact ⟨htext, htext', by rwa [← length_plain htext htext']⟩
  · intro h
    exact h.readState

def ofError (errorText : CString) : HandoffRecord where
  state := ⟨wide "microsoft-held", by decide⟩
  aclGeneration := 7
  restartCount := 1
  errorText := errorText
  requestedAt := ⟨2026, 1, 2, 3, 4, 5⟩
  completedAt := none

/-- A quote in the error text ends it, and leaves the backslash before it. -/
theorem not_readBack :
    readState (ofError ⟨wide "no \"XM5\" found", by decide⟩).writeState ≠ .ok
      { state := wide "microsoft-held"
        generation := 7
        restartCount := 1
        errorText := wide "no \"XM5\" found" } := by
  decide +kernel

end HandoffRecord

/-! ## Requests and completions -/

/-- `kStateHandoffPending` and its kin -/
def HandoffFileState.name : HandoffFileState → CString
  | handoffPending => ⟨wide "handoff-pending", by decide⟩
  | observerActive => ⟨wide "observer-active", by decide⟩
  | restorePending => ⟨wide "restore-pending", by decide⟩
  | microsoftHeld => ⟨wide "microsoft-held", by decide⟩

/-- The record that a request writes, or a completion without an error -/
def HandoffFileState.record (state : HandoffFileState) (identity : RequestIdentity)
    (requestedAt : SystemTime) (completedAt : Option SystemTime) : HandoffRecord where
  state := state.name
  aclGeneration := identity.aclGeneration
  restartCount := identity.restartCount
  errorText := default
  requestedAt := requestedAt
  completedAt := completedAt

theorem HandoffFileState.readState_record (state : HandoffFileState) (identity : RequestIdentity)
    (requestedAt : SystemTime) (completedAt : Option SystemTime) :
    readState (state.record identity requestedAt completedAt).writeState = .ok
      { state := state.name.units
        generation := identity.aclGeneration
        restartCount := identity.restartCount
        errorText := [] } := by
  have hname : Plain state.name.units ∧ state.name.units.length ≤ 15 := by
    cases state <;> decide
  refine HandoffRecord.Kept.readState
    ⟨hname.1, ⟨List.not_mem_nil, List.not_mem_nil⟩, ?_⟩
  have hnumbers := (state.record identity requestedAt completedAt).length_numbers_le
  have hstate : (state.record identity requestedAt completedAt).state.units.length ≤ 15 := hname.2
  have herror : (state.record identity requestedAt completedAt).errorText.units.length = 0 := rfl
  rw [HandoffRecord.plainLength]
  omega

end NativeLdac.Agent
