/-
  JSON texts: a reader that takes a text to its value, and a writer of flat objects.

  * `loads` reads a whole text; `accept` is asked about every value on the way, and what it does
    not accept fails the reading;
  * `Spelt` tells how the text of a value begins, and `Member` where a member of an object stands
    in the text: `loads_spelt` and `loads_member` find the values that are read there;
  * `Layout.object` writes an object, and `loads_object` reads it back.

  A string is kept as it is spelled between its quotes, and an integer as its digits; `unescape`
  and `intValue` are their values.
-/
import NativeLdac.Lib.TextBytes
import Mathlib.Data.List.TakeWhile

inductive Json where
  | null
  | bool (value : Bool)
  | int (negative : Bool) (digits : List Char)
  | float (literal : List Char)
  /-- `NaN`, `Infinity` or `-Infinity` -/
  | constant (literal : List Char)
  | str (raw : List Char)
  | arr (elements : List Json)
  | obj (members : List (List Char × Json))

namespace Json

open TextBytes (Ascii ascii_isDigit inQuotes occurrences occurrences_skip occurrences_quoted)

/-! ## The values of strings and of integers -/

def hexDigit? (c : Char) : Option Nat :=
  if c.isDigit then some (c.toNat - 48)
  else if 97 ≤ c.toNat ∧ c.toNat ≤ 102 then some (c.toNat - 87)
  else if 65 ≤ c.toNat ∧ c.toNat ≤ 70 then some (c.toNat - 55)
  else none

def hex4? (digits : List Char) : Option Nat :=
  digits.foldl (fun sofar c => do some (16 * (← sofar) + (← hexDigit? c))) (some 0)

/-- The characters that may follow a backslash, with what they stand for. -/
def escapes : List (Char × Nat) :=
  [('\x22', 34), ('\\', 92), ('/', 47), ('b', 8), ('f', 12), ('n', 10), ('r', 13), ('t', 9)]

/-- A code unit before code points; the two halves of a surrogate pair are one code point. -/
def joinSurrogates (unit : Nat) : List Nat → List Nat
  | low :: rest =>
    if 0xD800 ≤ unit ∧ unit < 0xDC00 ∧ 0xDC00 ≤ low ∧ low < 0xE000 then
      (0x10000 + (unit - 0xD800) * 0x400 + (low - 0xDC00)) :: rest
    else unit :: low :: rest
  | [] => [unit]

/-- The code points of a string. -/
def unescape : List Char → List Nat
  | '\\' :: 'u' :: a :: b :: c :: d :: rest =>
    joinSurrogates ((hex4? [a, b, c, d]).getD 0) (unescape rest)
  | '\\' :: e :: rest => (escapes.lookup e).getD 0 :: unescape rest
  | c :: rest => c.toNat :: unescape rest
  | [] => []

def codes (text : List Char) : List Nat := text.map Char.toNat

def intValue (negative : Bool) (digits : List Char) : Int :=
  let value : Int := Nat.ofDigitChars 10 digits 0
  if negative then -value else value

/-! ## The reader -/

def isSpace (c : Char) : Bool := c == ' ' || c == '\t' || c == '\n' || c == '\r'

def skipSpace (text : List Char) : List Char := text.dropWhile isSpace

def expect (c : Char) : List Char → Option (List Char)
  | d :: rest => if d = c then some rest else none
  | [] => none

/-- What is before the quote that ends a string, and what is after it. -/
def stringBody : List Char → Option (List Char × List Char)
  | [] => none
  | '\x22' :: rest => some ([], rest)
  | '\\' :: 'u' :: a :: b :: c :: d :: rest => do
    let _ ← hex4? [a, b, c, d]
    let (raw, rest) ← stringBody rest
    some ('\\' :: 'u' :: a :: b :: c :: d :: raw, rest)
  | '\\' :: e :: rest => do
    let _ ← escapes.lookup e
    let (raw, rest) ← stringBody rest
    some ('\\' :: e :: raw, rest)
  | c :: rest => do
    guard (32 ≤ c.toNat)
    let (raw, rest) ← stringBody rest
    some (c :: raw, rest)

def digitsOf (text : List Char) : List Char × List Char :=
  (text.takeWhile Char.isDigit, text.dropWhile Char.isDigit)

/-- The digits before a point or an exponent: a number does not begin with further zeros. -/
def wholePart : List Char → Option (List Char × List Char)
  | '0' :: rest => some (['0'], rest)
  | text => if (digitsOf text).1 = [] then none else some (digitsOf text)

/-- The digits after a mark, or nothing where none follow it. -/
def marked (mark : List Char) (text : List Char) (unmarked : List Char) : List Char × List Char :=
  if (digitsOf text).1 = [] then ([], unmarked) else (mark ++ (digitsOf text).1, (digitsOf text).2)

def fraction : List Char → List Char × List Char
  | '.' :: rest => marked ['.'] rest ('.' :: rest)
  | text => ([], text)

def exponent : List Char → List Char × List Char
  | e :: sign :: rest =>
    if e = 'e' ∨ e = 'E' then
      if sign = '+' ∨ sign = '-' then marked [e, sign] rest (e :: sign :: rest)
      else marked [e] (sign :: rest) (e :: sign :: rest)
    else ([], e :: sign :: rest)
  | text => ([], text)

/-- A minus sign, and what is after it. -/
def sign : List Char → Bool × List Char
  | '-' :: rest => (true, rest)
  | text => (false, text)

def signText (negative : Bool) : List Char := if negative then ['-'] else []

def number (text : List Char) : Option (Json × List Char) := do
  let (negative, text) := sign text
  let (whole, rest) ← wholePart text
  let (frac, rest) := fraction rest
  let (exp, rest) := exponent rest
  if frac ++ exp = [] then some (.int negative whole, rest)
  else some (.float (signText negative ++ whole ++ (frac ++ exp)), rest)

def words : List (List Char × Json) :=
  [("null".toList, .null), ("true".toList, .bool true), ("false".toList, .bool false),
    ("NaN".toList, .constant "NaN".toList), ("Infinity".toList, .constant "Infinity".toList),
    ("-Infinity".toList, .constant "-Infinity".toList)]

/-- A word at the beginning of a text, or else a number. -/
def literal (text : List Char) : Option (Json × List Char) :=
  match words.find? (fun word => word.1.isPrefixOf text) with
  | some word => some (word.2, text.drop word.1.length)
  | none => number text

section
variable (accept : Json → Bool)

mutual

/-- The value at the beginning of a text, and what is after it. -/
def value : Nat → List Char → Option (Json × List Char)
  | 0, _ => none
  | fuel + 1, text =>
    Option.filter (fun read => accept read.1) <|
      match text with
      | '\x22' :: rest => do
        let (raw, rest) ← stringBody rest
        some (.str raw, rest)
      | '[' :: rest =>
        match expect ']' (skipSpace rest) with
        | some rest => some (.arr [], rest)
        | none => do
          let (items, rest) ← elements fuel (skipSpace rest)
          some (.arr items, rest)
      | '\x7b' :: rest =>
        match expect '\x7d' (skipSpace rest) with
        | some rest => some (.obj [], rest)
        | none => do
          let (pairs, rest) ← members fuel (skipSpace rest)
          some (.obj pairs, rest)
      | text => literal text

/-- The elements of an array, up to the bracket that closes it. -/
def elements : Nat → List Char → Option (List Json × List Char)
  | 0, _ => none
  | fuel + 1, text => do
    let (json, rest) ← value fuel text
    match expect ']' (skipSpace rest) with
    | some rest => some ([json], rest)
    | none => do
      let rest ← expect ',' (skipSpace rest)
      let (items, rest) ← elements fuel (skipSpace rest)
      some (json :: items, rest)

/-- The members of an object, up to the brace that closes it. -/
def members : Nat → List Char → Option (List (List Char × Json) × List Char)
  | 0, _ => none
  | fuel + 1, text => do
    let rest ← expect '\x22' text
    let (key, rest) ← stringBody rest
    let rest ← expect ':' (skipSpace rest)
    let (json, rest) ← value fuel (skipSpace rest)
    match expect '\x7d' (skipSpace rest) with
    | some rest => some ([(key, json)], rest)
    | none => do
      let rest ← expect ',' (skipSpace rest)
      let (pairs, rest) ← members fuel (skipSpace rest)
      some ((key, json) :: pairs, rest)

end

/-- The value of a text with white space around it; the text is read with this much fuel. -/
def loadsWith (fuel : Nat) (text : List Char) : Option Json := do
  let (json, rest) ← value accept fuel (skipSpace text)
  guard (skipSpace rest = [])
  some json

/-- The value of a text. -/
def loads (text : List Char) : Option Json := loadsWith accept (2 * text.length + 1) text

end

/-! ## Where the values stand in the text -/

/-- No quote in the text without a backslash before it. -/
def Escaped (raw : List Char) : Prop := ∀ a b, raw = a ++ '\x22' :: b → '\\' ∈ a

/-- How a value is spelled; of an array or an object, how its spelling begins. -/
inductive Spelt : Json → List Char → Prop
  | null : Spelt .null "null".toList
  | bool (b : Bool) : Spelt (.bool b) (if b then "true" else "false").toList
  | constant (mark : Char) (more : List Char) : mark = 'N' ∨ mark = 'I' ∨ mark = '-' →
      Spelt (.constant (mark :: more)) (mark :: more)
  | int {digits : List Char} (negative : Bool) : digits ≠ [] → (∀ c ∈ digits, c.isDigit) →
      Spelt (.int negative digits) (signText negative ++ digits)
  | float {digits : List Char} (negative : Bool) (mark : Char) (more : List Char) : digits ≠ [] →
      (∀ c ∈ digits, c.isDigit) → mark = '.' ∨ mark = 'e' ∨ mark = 'E' →
      Spelt (.float (signText negative ++ digits ++ mark :: more))
        (signText negative ++ digits ++ mark :: more)
  | str {raw : List Char} : Escaped raw → Spelt (.str raw) ('\x22' :: (raw ++ ['\x22']))
  | arr (elements : List Json) (more : List Char) : Spelt (.arr elements) ('[' :: more)
  | obj (members : List (List Char × Json)) (more : List Char) :
      Spelt (.obj members) ('\x7b' :: more)

/-- What may follow a value in an object. -/
inductive Ended : List Char → Prop
  | intro {space : List Char} (mark : Char) (rest : List Char) : (∀ c ∈ space, isSpace c) →
      mark = ',' ∨ mark = '\x7d' → Ended (space ++ mark :: rest)

/-- A member of an object in the text of the object, `before` and `after` around it. -/
inductive Member : List Char → List Char × Json → Prop
  | intro (before : List Char) {key colonBefore colonAfter spelling after : List Char}
      {json : Json} : (∀ c ∈ colonBefore, isSpace c) → (∀ c ∈ colonAfter, isSpace c) →
      json.Spelt spelling → Ended after →
      Member (before ++ '\x22' :: (key ++ '\x22' :: (colonBefore ++ ':' ::
        (colonAfter ++ (spelling ++ after))))) (key, json)

/-! ### The parts of a value -/

@[simp] theorem expect_eq_some {c : Char} {text rest : List Char} :
    expect c text = some rest ↔ text = c :: rest := by
  cases text with
  | nil => simp [expect]
  | cons d more =>
    by_cases hd : d = c
    · simp [expect, hd]
    · simp [expect, hd]

theorem skipSpace_split (text : List Char) :
    ∃ space, (∀ c ∈ space, isSpace c) ∧ text = space ++ skipSpace text :=
  ⟨text.takeWhile isSpace, fun _ => List.mem_takeWhile_imp,
    (List.takeWhile_append_dropWhile).symm⟩

theorem escaped_cons {c : Char} {raw : List Char} (hc : c ≠ '\x22') (h : Escaped raw) :
    Escaped (c :: raw) := by
  intro a b heq
  cases a with
  | nil => exact absurd (List.cons.inj heq).1 hc
  | cons d a =>
    obtain ⟨-, htail⟩ := List.cons.inj heq
    exact List.mem_cons_of_mem _ (h a b htail)

theorem escaped_backslash (raw : List Char) : Escaped ('\\' :: raw) := by
  intro a b heq
  cases a with
  | nil => exact absurd (List.cons.inj heq).1 (by decide)
  | cons d a =>
    obtain ⟨hd, -⟩ := List.cons.inj heq
    exact hd ▸ List.mem_cons_self

/-- **The text between the quotes of a string.** -/
theorem stringBody_spelt {text raw rest : List Char} (h : stringBody text = some (raw, rest)) :
    text = raw ++ '\x22' :: rest ∧ Escaped raw := by
  fun_induction stringBody text generalizing raw with
  | case1 => cases h
  | case2 more =>
    cases h
    exact ⟨rfl, fun a b heq => by simp at heq⟩
  | case3 a b c d more ih =>
    simp only [Option.bind_eq_bind, Option.bind_eq_some_iff, Prod.exists, Option.some.injEq,
      Prod.mk.injEq] at h
    obtain ⟨-, -, raw', rest', hbody, rfl, rfl⟩ := h
    exact ⟨by rw [(ih hbody).1]; rfl, escaped_backslash _⟩
  | case4 e more hne ih =>
    simp only [Option.bind_eq_bind, Option.bind_eq_some_iff, Prod.exists, Option.some.injEq,
      Prod.mk.injEq] at h
    obtain ⟨-, -, raw', rest', hbody, rfl, rfl⟩ := h
    exact ⟨by rw [(ih hbody).1]; rfl, escaped_backslash _⟩
  | case5 c more hquote hu he ih =>
    simp only [Option.bind_eq_bind, Option.bind_eq_some_iff, Prod.exists, Option.some.injEq,
      Prod.mk.injEq] at h
    obtain ⟨-, -, raw', rest', hbody, rfl, rfl⟩ := h
    exact ⟨by rw [(ih hbody).1]; rfl, escaped_cons hquote (ih hbody).2⟩

theorem digitsOf_spelt (text : List Char) :
    text = (digitsOf text).1 ++ (digitsOf text).2 ∧ ∀ c ∈ (digitsOf text).1, c.isDigit :=
  ⟨(List.takeWhile_append_dropWhile).symm, fun _ => List.mem_takeWhile_imp⟩

theorem wholePart_spelt {text digits rest : List Char} (h : wholePart text = some (digits, rest)) :
    text = digits ++ rest ∧ digits ≠ [] ∧ ∀ c ∈ digits, c.isDigit := by
  unfold wholePart at h
  split at h
  · cases h
    exact ⟨rfl, by simp, by decide⟩
  · split at h
    · cases h
    · rename_i hdigits
      rw [Option.some.injEq] at h
      rw [h] at hdigits
      have hspelt := digitsOf_spelt text
      rw [h] at hspelt
      exact ⟨hspelt.1, hdigits, hspelt.2⟩

theorem marked_spelt (mark text : List Char) :
    mark ++ text = (marked mark text (mark ++ text)).1 ++ (marked mark text (mark ++ text)).2 ∧
      ((marked mark text (mark ++ text)).1 ≠ [] →
        ∃ more, (marked mark text (mark ++ text)).1 = mark ++ more) := by
  unfold marked
  split
  · exact ⟨rfl, fun hne => absurd rfl hne⟩
  · refine ⟨?_, fun _ => ⟨_, rfl⟩⟩
    rw [List.append_assoc, ← (digitsOf_spelt _).1]

/-- Nothing, or a mark and more. -/
def Marked (p : Char → Prop) (text : List Char) : Prop :=
  text ≠ [] → ∃ c more, text = c :: more ∧ p c

theorem fraction_spelt (text : List Char) :
    text = (fraction text).1 ++ (fraction text).2 ∧ Marked (· = '.') (fraction text).1 := by
  unfold fraction
  split
  · rename_i rest
    obtain ⟨hsplit, hmark⟩ := marked_spelt ['.'] rest
    refine ⟨hsplit, fun hne => ?_⟩
    obtain ⟨more, heq⟩ := hmark hne
    exact ⟨'.', more, heq, rfl⟩
  · exact ⟨rfl, fun hne => absurd rfl hne⟩

theorem exponent_spelt (text : List Char) :
    text = (exponent text).1 ++ (exponent text).2 ∧
      Marked (fun c => c = 'e' ∨ c = 'E') (exponent text).1 := by
  unfold exponent
  split
  · rename_i e sign rest
    split
    · rename_i he
      split
      · obtain ⟨hsplit, hmark⟩ := marked_spelt [e, sign] rest
        refine ⟨hsplit, fun hne => ?_⟩
        obtain ⟨more, heq⟩ := hmark hne
        exact ⟨e, sign :: more, heq, he⟩
      · obtain ⟨hsplit, hmark⟩ := marked_spelt [e] (sign :: rest)
        refine ⟨hsplit, fun hne => ?_⟩
        obtain ⟨more, heq⟩ := hmark hne
        exact ⟨e, more, heq, he⟩
    · exact ⟨rfl, fun hne => absurd rfl hne⟩
  · exact ⟨rfl, fun hne => absurd rfl hne⟩

theorem sign_spelt (text : List Char) : text = signText (sign text).1 ++ (sign text).2 := by
  unfold sign
  split <;> rfl

theorem number_spelt {text rest : List Char} {json : Json} (h : number text = some (json, rest)) :
    ∃ spelling, text = spelling ++ rest ∧ json.Spelt spelling := by
  simp only [number, Option.bind_eq_bind, Option.bind_eq_some_iff, Prod.exists] at h
  obtain ⟨digits, after, hwhole, h⟩ := h
  obtain ⟨htext, hne, hdigits⟩ := wholePart_spelt hwhole
  obtain ⟨hfraction, hpoint⟩ := fraction_spelt after
  obtain ⟨hexponent, he⟩ := exponent_spelt (fraction after).2
  have hsign := sign_spelt text
  by_cases hmarks : (fraction after).1 ++ (exponent (fraction after).2).1 = []
  · rw [if_pos hmarks] at h
    cases h
    refine ⟨_, ?_, .int (sign text).1 hne hdigits⟩
    obtain ⟨hnone, hnone'⟩ := List.append_eq_nil_iff.mp hmarks
    rw [hnone', List.nil_append] at hexponent
    rw [hnone, List.nil_append] at hfraction
    rw [← hexponent, ← hfraction, List.append_assoc, ← htext]
    exact hsign
  · rw [if_neg hmarks] at h
    cases h
    have hmark : ∃ c more, (fraction after).1 ++ (exponent (fraction after).2).1 = c :: more ∧
        (c = '.' ∨ c = 'e' ∨ c = 'E') := by
      by_cases hnone : (fraction after).1 = []
      · rw [hnone, List.nil_append] at hmarks ⊢
        obtain ⟨c, more, heq, hc⟩ := he hmarks
        exact ⟨c, more, heq, .inr hc⟩
      · obtain ⟨c, more, heq, hc⟩ := hpoint hnone
        exact ⟨c, more ++ _, by rw [heq]; rfl, .inl hc⟩
    obtain ⟨c, more, hmarks', hc⟩ := hmark
    refine ⟨_, ?_, hmarks'.symm ▸ Spelt.float (sign text).1 c more hne hdigits hc⟩
    rw [List.append_assoc, List.append_assoc, List.append_assoc, ← hexponent, ← hfraction, ← htext]
    exact hsign

theorem literal_spelt {text rest : List Char} {json : Json} (h : literal text = some (json, rest)) :
    ∃ spelling, text = spelling ++ rest ∧ json.Spelt spelling := by
  unfold literal at h
  split at h
  · rename_i word hword
    cases h
    have hstart := List.find?_some hword
    rw [List.isPrefixOf_iff_prefix] at hstart
    refine ⟨word.1, ?_, ?_⟩
    · obtain ⟨more, rfl⟩ := hstart
      rw [List.drop_left]
    · have hmem := List.mem_of_find?_eq_some hword
      simp only [words, List.mem_cons, List.not_mem_nil, or_false] at hmem
      obtain rfl | rfl | rfl | rfl | rfl | rfl := hmem
      · exact .null
      · exact .bool true
      · exact .bool false
      · exact .constant 'N' _ (.inl rfl)
      · exact .constant 'I' _ (.inr (.inl rfl))
      · exact .constant '-' _ (.inr (.inr rfl))
  · exact number_spelt h

/-! ### The values themselves -/

section
variable {accept : Json → Bool} {fuel : Nat} {text rest : List Char} {json : Json}
variable {pairs : List (List Char × Json)} {c : Char}

/-- What `value` reads. -/
inductive ValueRead (accept : Json → Bool) (fuel : Nat) : List Char → Json → List Char → Prop
  | str {text raw rest : List Char} : stringBody text = some (raw, rest) →
      ValueRead accept fuel ('\x22' :: text) (.str raw) rest
  | noElements {text rest : List Char} : skipSpace text = ']' :: rest →
      ValueRead accept fuel ('[' :: text) (.arr []) rest
  | arr {text rest : List Char} {items : List Json} :
      elements accept fuel (skipSpace text) = some (items, rest) →
      ValueRead accept fuel ('[' :: text) (.arr items) rest
  | noMembers {text rest : List Char} : skipSpace text = '\x7d' :: rest →
      ValueRead accept fuel ('\x7b' :: text) (.obj []) rest
  | obj {text rest : List Char} {pairs : List (List Char × Json)} :
      members accept fuel (skipSpace text) = some (pairs, rest) →
      ValueRead accept fuel ('\x7b' :: text) (.obj pairs) rest
  | literal {text rest : List Char} {json : Json} : literal text = some (json, rest) →
      ValueRead accept fuel text json rest

theorem value_read (h : value accept (fuel + 1) text = some (json, rest)) :
    ValueRead accept fuel text json rest := by
  unfold value at h
  rw [Option.filter_eq_some_iff] at h
  obtain ⟨h, -⟩ := h
  split at h
  · simp only [Option.bind_eq_bind, Option.bind_eq_some_iff, Prod.exists, Option.some.injEq,
      Prod.mk.injEq] at h
    obtain ⟨raw, after, hbody, rfl, rfl⟩ := h
    exact .str hbody
  · split at h
    · rename_i hclosed
      cases h
      exact .noElements (expect_eq_some.mp hclosed)
    · simp only [Option.bind_eq_bind, Option.bind_eq_some_iff, Prod.exists, Option.some.injEq,
        Prod.mk.injEq] at h
      obtain ⟨items, after, hitems, rfl, rfl⟩ := h
      exact .arr hitems
  · split at h
    · rename_i hclosed
      cases h
      exact .noMembers (expect_eq_some.mp hclosed)
    · simp only [Option.bind_eq_bind, Option.bind_eq_some_iff, Prod.exists, Option.some.injEq,
        Prod.mk.injEq] at h
      obtain ⟨pairs, after, hpairs, rfl, rfl⟩ := h
      exact .obj hpairs
  · exact .literal h

theorem elements_read {items : List Json}
    (h : elements accept (fuel + 1) text = some (items, rest)) :
    ∃ json after, value accept fuel text = some (json, after) ∧
      (skipSpace after = ']' :: rest ∨
        ∃ more items', skipSpace after = ',' :: more ∧
          elements accept fuel (skipSpace more) = some (items', rest)) := by
  simp only [elements, Option.bind_eq_bind, Option.bind_eq_some_iff, Prod.exists] at h
  obtain ⟨json, after, hvalue, h⟩ := h
  refine ⟨json, after, hvalue, ?_⟩
  split at h
  · rename_i hclosed
    cases h
    exact .inl (expect_eq_some.mp hclosed)
  · simp only [Option.bind_eq_some_iff, Prod.exists, Option.some.injEq, Prod.mk.injEq,
      expect_eq_some] at h
    obtain ⟨more, hcomma, items', rest', hitems, -, rfl⟩ := h
    exact .inr ⟨more, items', hcomma, hitems⟩

theorem members_read (h : members accept (fuel + 1) text = some (pairs, rest)) :
    ∃ body key colon afterColon json after,
      text = '\x22' :: body ∧ stringBody body = some (key, colon) ∧
      skipSpace colon = ':' :: afterColon ∧
      value accept fuel (skipSpace afterColon) = some (json, after) ∧
      (skipSpace after = '\x7d' :: rest ∧ pairs = [(key, json)] ∨
        ∃ more pairs', skipSpace after = ',' :: more ∧
          members accept fuel (skipSpace more) = some (pairs', rest) ∧
          pairs = (key, json) :: pairs') := by
  simp only [members, Option.bind_eq_bind, Option.bind_eq_some_iff, Prod.exists,
    expect_eq_some] at h
  obtain ⟨body, htext, key, colon, hbody, afterColon, hcolon, json, after, hvalue, h⟩ := h
  refine ⟨body, key, colon, afterColon, json, after, htext, hbody, hcolon, hvalue, ?_⟩
  split at h
  · rename_i hclosed
    cases h
    exact .inl ⟨expect_eq_some.mp hclosed, rfl⟩
  · simp only [Option.bind_eq_some_iff, Prod.exists, Option.some.injEq, Prod.mk.injEq,
      expect_eq_some] at h
    obtain ⟨more, hcomma, pairs', rest', hpairs, rfl, rfl⟩ := h
    exact .inr ⟨more, pairs', hcomma, hpairs, rfl⟩

/-- The rest of a text after at least one character of it. -/
def After (text rest : List Char) : Prop := ∃ read, read ≠ [] ∧ text = read ++ rest

theorem After.length_lt (h : After text rest) : rest.length < text.length := by
  obtain ⟨read, hne, rfl⟩ := h
  rw [List.length_append]
  have hpos := List.length_pos_iff.mpr hne
  omega

theorem After.append (h : After text rest) (before : List Char) : After (before ++ text) rest := by
  obtain ⟨read, hne, rfl⟩ := h
  exact ⟨before ++ read, List.append_ne_nil_of_right_ne_nil _ hne,
    (List.append_assoc _ _ _).symm⟩

theorem After.cons (c : Char) : After (c :: text) text := ⟨[c], List.cons_ne_nil _ _, rfl⟩

theorem After.trans {text' : List Char} (h : After text text') (h' : After text' rest) :
    After text rest := by
  obtain ⟨read, -, rfl⟩ := h
  exact h'.append read

theorem After.stringBody {raw : List Char} (h : stringBody text = some (raw, rest)) :
    After text rest := by
  rw [(stringBody_spelt h).1]
  exact (After.cons _).append raw

theorem After.space (h : After (skipSpace text) rest) : After text rest := by
  obtain ⟨space, -, heq⟩ := skipSpace_split text
  rw [heq]
  exact h.append space

theorem After.mark (h : skipSpace text = c :: rest) : After text rest :=
  After.space (h ▸ After.cons c)

/-- The characters that a value may begin with. -/
def Begins : Json → Char → Prop
  | .null, c => c = 'n'
  | .bool b, c => c = if b then 't' else 'f'
  | .int negative _, c => if negative then c = '-' else c.isDigit
  | .float _, c => c = '-' ∨ c.isDigit
  | .constant _, c => c = 'N' ∨ c = 'I' ∨ c = '-'
  | .str _, c => c = '\x22'
  | .arr _, c => c = '['
  | .obj _, c => c = '\x7b'

theorem Spelt.begins {spelling : List Char} (h : json.Spelt spelling) :
    ∃ c more, spelling = c :: more ∧ Begins json c := by
  cases h with
  | null => exact ⟨_, _, rfl, rfl⟩
  | bool b => cases b <;> exact ⟨_, _, rfl, rfl⟩
  | constant mark more hmark => exact ⟨mark, more, rfl, hmark⟩
  | @int digits negative hne hdigits =>
    obtain ⟨c, digits, rfl⟩ := List.exists_cons_of_ne_nil hne
    cases negative with
    | false => exact ⟨c, digits, rfl, hdigits c List.mem_cons_self⟩
    | true => exact ⟨'-', _, rfl, rfl⟩
  | @float digits negative mark more hne hdigits _ =>
    obtain ⟨c, digits, rfl⟩ := List.exists_cons_of_ne_nil hne
    cases negative with
    | false => exact ⟨c, _, rfl, .inr (hdigits c List.mem_cons_self)⟩
    | true => exact ⟨'-', _, rfl, .inl rfl⟩
  | str _ => exact ⟨_, _, rfl, rfl⟩
  | arr _ more => exact ⟨_, _, rfl, rfl⟩
  | obj _ more => exact ⟨_, _, rfl, rfl⟩

theorem Spelt.ne_nil {spelling : List Char} (h : json.Spelt spelling) :
    spelling ≠ [] := by
  obtain ⟨c, more, rfl, -⟩ := h.begins
  exact List.cons_ne_nil _ _

/-- What is known of a reading at some fuel. -/
structure Sound (accept : Json → Bool) (fuel : Nat) : Prop where
  value : ∀ {text rest json}, value accept fuel text = some (json, rest) → After text rest
  elements : ∀ {text rest items}, elements accept fuel text = some (items, rest) → After text rest
  members : ∀ {text rest pairs}, members accept fuel text = some (pairs, rest) → After text rest

theorem sound_step (ih : Sound accept fuel) : Sound accept (fuel + 1) where
  value {text rest json} h := by
    cases value_read h with
    | str hbody => exact (After.cons _).trans (.stringBody hbody)
    | noElements hclosed => exact (After.cons _).trans (.mark hclosed)
    | arr hitems => exact (After.cons _).trans (ih.elements hitems).space
    | noMembers hclosed => exact (After.cons _).trans (.mark hclosed)
    | obj hpairs => exact (After.cons _).trans (ih.members hpairs).space
    | literal hliteral =>
      obtain ⟨spelling, htext, hspelt⟩ := literal_spelt hliteral
      exact ⟨spelling, hspelt.ne_nil, htext⟩
  elements {text rest items} h := by
    obtain ⟨json, after, hvalue, hclosed | ⟨more, items', hcomma, hitems⟩⟩ := elements_read h
    · exact (ih.value hvalue).trans (.mark hclosed)
    · exact ((ih.value hvalue).trans (.mark hcomma)).trans (ih.elements hitems).space
  members {text rest pairs} h := by
    obtain ⟨body, key, colon, afterColon, json, after, rfl, hbody, hcolon, hvalue, hmore⟩ :=
      members_read h
    have hkey : After ('\x22' :: body) colon := (After.cons _).trans (.stringBody hbody)
    have hpair := (hkey.trans (.mark hcolon)).trans (ih.value hvalue).space
    obtain ⟨hclosed, -⟩ | ⟨more, pairs', hcomma, hpairs, -⟩ := hmore
    · exact hpair.trans (.mark hclosed)
    · exact (hpair.trans (.mark hcomma)).trans (ih.members hpairs).space

theorem sound (accept : Json → Bool) (fuel : Nat) : Sound accept fuel := by
  induction fuel with
  | zero =>
    exact ⟨fun h => by simp [value] at h, fun h => by simp [elements] at h,
      fun h => by simp [members] at h⟩
  | succ fuel ih => exact sound_step ih

/-- **The spelling of a value** is at the beginning of the text. -/
theorem value_spelt (h : value accept fuel text = some (json, rest)) :
    ∃ spelling, text = spelling ++ rest ∧ json.Spelt spelling := by
  obtain _ | fuel := fuel
  · simp [value] at h
  · cases value_read h with
    | str hbody =>
      obtain ⟨rfl, hescaped⟩ := stringBody_spelt hbody
      exact ⟨_, by simp, .str hescaped⟩
    | noElements hclosed =>
      obtain ⟨read, -, rfl⟩ := After.mark hclosed
      exact ⟨'[' :: read, rfl, .arr _ read⟩
    | arr hitems =>
      obtain ⟨read, -, rfl⟩ := ((sound accept fuel).elements hitems).space
      exact ⟨'[' :: read, rfl, .arr _ read⟩
    | noMembers hclosed =>
      obtain ⟨read, -, rfl⟩ := After.mark hclosed
      exact ⟨'\x7b' :: read, rfl, .obj _ read⟩
    | obj hpairs =>
      obtain ⟨read, -, rfl⟩ := ((sound accept fuel).members hpairs).space
      exact ⟨'\x7b' :: read, rfl, .obj _ read⟩
    | literal hliteral => exact literal_spelt hliteral

theorem Ended.of_mark (hc : c = ',' ∨ c = '\x7d') (h : skipSpace text = c :: rest) :
    Ended text := by
  obtain ⟨space, hspace, htext⟩ := skipSpace_split text
  rw [htext, h]
  exact .intro c rest hspace hc

theorem Member.append {member : List Char × Json} (h : Member text member) (more : List Char) :
    Member (more ++ text) member := by
  obtain ⟨before, hbefore, hafter, hspelt, hended⟩ := h
  rw [← List.append_assoc]
  exact .intro (more ++ before) hbefore hafter hspelt hended

theorem Member.after {member : List Char × Json} (h : Member rest member)
    (hafter : After text rest) : Member text member := by
  obtain ⟨read, -, rfl⟩ := hafter
  exact h.append read

/-- **The members of an object** stand in its text. -/
theorem members_member (h : members accept fuel text = some (pairs, rest)) :
    ∀ member ∈ pairs, Member text member := by
  induction fuel generalizing text pairs with
  | zero => simp [members] at h
  | succ fuel ih =>
    obtain ⟨body, key, colon, afterColon, json, after, rfl, hbody, hcolon, hvalue, hmore⟩ :=
      members_read h
    have hended : Ended after := by
      obtain ⟨hclosed, -⟩ | ⟨more, pairs', hcomma, -⟩ := hmore
      · exact .of_mark (.inr rfl) hclosed
      · exact .of_mark (.inl rfl) hcomma
    have hfirst : Member ('\x22' :: body) (key, json) := by
      obtain ⟨spaceBefore, hspaceBefore, htextBefore⟩ := skipSpace_split colon
      obtain ⟨spaceAfter, hspaceAfter, htextAfter⟩ := skipSpace_split afterColon
      obtain ⟨spelling, hspelling, hspelt⟩ := value_spelt hvalue
      rw [(stringBody_spelt hbody).1, htextBefore, hcolon, htextAfter, hspelling]
      exact .intro [] hspaceBefore hspaceAfter hspelt hended
    obtain ⟨-, rfl⟩ | ⟨more, pairs', hcomma, hpairs, rfl⟩ := hmore
    · intro member hmem
      rw [List.mem_singleton.mp hmem]
      exact hfirst
    · intro member hmem
      obtain rfl | hmem := List.mem_cons.mp hmem
      · exact hfirst
      · have hkey : After ('\x22' :: body) colon := (After.cons _).trans (.stringBody hbody)
        have hpair := (hkey.trans (.mark hcolon)).trans ((sound accept fuel).value hvalue).space
        obtain ⟨space, -, htext⟩ := skipSpace_split more
        refine Member.after ?_ (hpair.trans (.mark hcomma))
        rw [htext]
        exact (ih hpairs member hmem).append space

theorem literal_ne_obj :
    literal text ≠ some (.obj pairs, rest) := by
  intro h
  unfold literal at h
  split at h
  · rename_i word hword
    have hmem := List.mem_of_find?_eq_some hword
    simp only [words, List.mem_cons, List.not_mem_nil, or_false] at hmem
    obtain rfl | rfl | rfl | rfl | rfl | rfl := hmem <;> cases h
  · simp only [number, Option.bind_eq_bind, Option.bind_eq_some_iff, Prod.exists] at h
    obtain ⟨digits, after, -, h⟩ := h
    split at h <;> cases h

/-- **The members of the object that a text holds** stand in the text. -/
theorem loads_member (h : loads accept text = some (.obj pairs)) :
    ∀ member ∈ pairs, Member text member := by
  simp only [loads, loadsWith, Option.bind_eq_bind, Option.bind_eq_some_iff, Prod.exists,
    Option.some.injEq] at h
  obtain ⟨json, rest, hvalue, -, -, rfl⟩ := h
  obtain ⟨space, -, htext⟩ := skipSpace_split text
  intro member hmem
  rw [htext]
  refine Member.append ?_ space
  generalize skipSpace text = body at hvalue
  cases value_read hvalue with
  | noMembers => cases hmem
  | @obj inner _ _ hpairs =>
    obtain ⟨space', -, htext'⟩ := skipSpace_split inner
    refine Member.after ?_ (After.cons _)
    rw [htext']
    exact (members_member hpairs member hmem).append space'
  | literal hliteral => exact absurd hliteral literal_ne_obj

theorem digit_not_space (hc : c.isDigit) : isSpace c = false := by
  rw [Bool.eq_false_iff]
  intro hspace
  simp only [isSpace, Bool.or_eq_true, beq_iff_eq] at hspace
  obtain ((rfl | rfl) | rfl) | rfl := hspace <;> exact absurd hc (by decide)

/-- What digits and the marks of the other kinds satisfy, a value begins with. -/
theorem Begins.elim {P : Char → Prop} (h : Begins json c)
    (hdigit : ∀ c, c.isDigit → P c) (hmark : ∀ c ∈ ['n', 'N', 'I', '-', '[', '\x7b'], P c)
    (hbool : ∀ b, json = .bool b → P 't' ∧ P 'f') (hstr : ∀ raw, json = .str raw → P '\x22') :
    P c := by
  cases json with
  | null => exact hmark c (by simp [show c = 'n' from h])
  | bool b =>
    obtain rfl : c = if b then 't' else 'f' := h
    cases b with
    | false => exact (hbool _ rfl).2
    | true => exact (hbool _ rfl).1
  | int negative digits =>
    cases negative with
    | false => exact hdigit c h
    | true => exact hmark c (by simp [show c = '-' from h])
  | float literal =>
    obtain rfl | hc := h
    · exact hmark '-' (by simp)
    · exact hdigit c hc
  | constant literal => obtain rfl | rfl | rfl := h <;> exact hmark _ (by simp)
  | str raw => exact (show c = '\x22' from h) ▸ hstr raw rfl
  | arr elements => exact hmark c (by simp [show c = '[' from h])
  | obj members => exact hmark c (by simp [show c = '\x7b' from h])

theorem Begins.not_space (h : Begins json c) :
    c.utf8Size = 1 ∧ isSpace c = false :=
  h.elim (P := fun c => c.utf8Size = 1 ∧ isSpace c = false)
    (fun _ hc => ⟨ascii_isDigit hc, digit_not_space hc⟩) (by decide) (fun _ _ => by decide)
    fun _ _ => by decide

theorem Begins.not_letter (h : Begins json c) (hbool : ∀ b, json ≠ .bool b) :
    c ≠ 't' ∧ c ≠ 'f' :=
  h.elim (P := fun c => c ≠ 't' ∧ c ≠ 'f')
    (fun _ hc => ⟨fun heq => absurd (heq ▸ hc) (by decide),
      fun heq => absurd (heq ▸ hc) (by decide)⟩)
    (by decide) (fun b hb => absurd hb (hbool b)) fun _ _ => by decide

theorem Begins.not_quote (h : Begins json c) (hstr : ∀ raw, json ≠ .str raw) :
    c ≠ '\x22' :=
  h.elim (P := (· ≠ '\x22')) (fun _ hc heq => absurd (heq ▸ hc) (by decide)) (by decide)
    (fun _ _ => by decide) fun raw hraw => absurd hraw (hstr raw)

theorem space_ascii (hc : isSpace c = true) : c.utf8Size = 1 := by
  simp only [isSpace, Bool.or_eq_true, beq_iff_eq] at hc
  obtain ((rfl | rfl) | rfl) | rfl := hc <;> decide

/-- A text that is read begins with a character of one byte. -/
theorem loads_head (h : loads accept text = some json) :
    ∃ c more, text = c :: more ∧ c.utf8Size = 1 := by
  simp only [loads, loadsWith, Option.bind_eq_bind, Option.bind_eq_some_iff, Prod.exists] at h
  obtain ⟨json', rest, hvalue, -⟩ := h
  obtain ⟨space, hspace, htext⟩ := skipSpace_split text
  obtain ⟨spelling, hspelling, hspelt⟩ := value_spelt hvalue
  obtain ⟨c, more, rfl, hbegins⟩ := hspelt.begins
  rw [htext, hspelling]
  cases space with
  | nil => exact ⟨c, _, rfl, hbegins.not_space.1⟩
  | cons d space => exact ⟨d, _, rfl, space_ascii (hspace d List.mem_cons_self)⟩

/-! ### The fuel -/

theorem length_skipSpace_le (text : List Char) : (skipSpace text).length ≤ text.length := by
  obtain ⟨space, -, htext⟩ := skipSpace_split text
  have hlength := congrArg List.length htext
  rw [List.length_append] at hlength
  omega

/-- From here on more fuel changes nothing. -/
structure Enough (accept : Json → Bool) (fuel : Nat) : Prop where
  value : ∀ {text}, 2 * text.length + 1 ≤ fuel →
    value accept (fuel + 1) text = value accept fuel text
  elements : ∀ {text}, 2 * text.length + 2 ≤ fuel →
    elements accept (fuel + 1) text = elements accept fuel text
  members : ∀ {text}, 2 * text.length + 2 ≤ fuel →
    members accept (fuel + 1) text = members accept fuel text

theorem enough_step (ih : Enough accept fuel) : Enough accept (fuel + 1) where
  value {text} hfuel := by
    unfold Json.value
    split
    · rfl
    · rename_i more
      have hspace := length_skipSpace_le more
      rw [List.length_cons] at hfuel
      rw [ih.elements (by omega)]
    · rename_i more
      have hspace := length_skipSpace_le more
      rw [List.length_cons] at hfuel
      rw [ih.members (by omega)]
    · rfl
  elements {text} hfuel := by
    unfold Json.elements
    rw [ih.value (by omega)]
    refine Option.bind_congr fun ⟨json, after⟩ hread => ?_
    have hafter := ((sound accept fuel).value hread).length_lt
    dsimp only
    split
    · rfl
    · refine Option.bind_congr fun more hmore => ?_
      have hcomma := (After.mark (expect_eq_some.mp hmore)).length_lt
      have hspace := length_skipSpace_le more
      rw [ih.elements (by omega)]
  members {text} hfuel := by
    unfold Json.members
    refine Option.bind_congr fun body hbody => ?_
    refine Option.bind_congr fun key hkey => ?_
    refine Option.bind_congr fun afterColon hcolon => ?_
    rw [expect_eq_some] at hbody hcolon
    have hread := (((After.cons '\x22').trans (.stringBody hkey)).trans (.mark hcolon)).length_lt
    have hspace := length_skipSpace_le afterColon
    rw [hbody] at hfuel
    rw [ih.value (by omega)]
    refine Option.bind_congr fun ⟨json, after⟩ hjson => ?_
    have hafter := ((sound accept fuel).value hjson).length_lt
    dsimp only
    split
    · rfl
    · refine Option.bind_congr fun more hmore => ?_
      have hcomma := (After.mark (expect_eq_some.mp hmore)).length_lt
      have hspace' := length_skipSpace_le more
      rw [ih.members (by omega)]

theorem enough (accept : Json → Bool) (fuel : Nat) : Enough accept fuel := by
  induction fuel with
  | zero => exact ⟨fun h => by omega, fun h => by omega, fun h => by omega⟩
  | succ fuel ih => exact enough_step ih

/-- **The fuel is enough**: with more of it every text is read the same. -/
theorem loads_fuel (h : 2 * text.length + 1 ≤ fuel) :
    loadsWith accept fuel text = loads accept text := by
  induction fuel, h using Nat.le_induction with
  | base => rfl
  | succ fuel hfuel ih =>
    rw [← ih]
    unfold loadsWith
    have hspace := length_skipSpace_le text
    rw [(enough accept fuel).value (by omega)]

end

/-! ## Writing an object -/

/-- A value that is written as it is. -/
inductive Scalar where
  | nat (value : Nat)
  | bool (value : Bool)
  | str (raw : List Char)
deriving DecidableEq, Repr

def Scalar.json : Scalar → Json
  | nat value => .int false (Nat.toDigits 10 value)
  | bool value => .bool value
  | str raw => .str raw

def Scalar.text : Scalar → List Char
  | nat value => Nat.toDigits 10 value
  | bool value => (if value then "true" else "false").toList
  | str raw => '\x22' :: (raw ++ ['\x22'])

/-- Characters that stand for themselves in a string. -/
def Plain (raw : List Char) : Prop := ∀ c ∈ raw, c ≠ '\x22' ∧ c ≠ '\\' ∧ 32 ≤ c.toNat

instance (raw : List Char) : Decidable (Plain raw) := by unfold Plain; infer_instance

def Scalar.Plain : Scalar → Prop
  | str raw => Json.Plain raw
  | _ => True

/-- The white space that a writer puts before a key, after a colon and before the last brace. -/
structure Layout where
  lead : List Char := []
  gap : List Char := []
  close : List Char := []
  lead_space : ∀ c ∈ lead, isSpace c := by decide
  gap_space : ∀ c ∈ gap, isSpace c := by decide
  close_space : ∀ c ∈ close, isSpace c := by decide

namespace Layout
variable (layout : Layout)

def member (field : List Char × Scalar) : List Char :=
  '\x22' :: (field.1 ++ '\x22' :: ':' :: (layout.gap ++ field.2.text))

/-- Members, with a comma before each. -/
def more : List (List Char × Scalar) → List Char
  | [] => []
  | field :: fields => ',' :: (layout.lead ++ (layout.member field ++ more fields))

def object : List (List Char × Scalar) → List Char
  | [] => ['\x7b', '\x7d']
  | field :: fields =>
    '\x7b' :: (layout.lead ++ (layout.member field ++ (layout.more fields ++
      (layout.close ++ ['\x7d']))))

end Layout

/-! ### Reading it back -/

theorem skipSpace_append {space : List Char} (hspace : ∀ c ∈ space, isSpace c) (text : List Char) :
    skipSpace (space ++ text) = skipSpace text :=
  List.dropWhile_append_of_pos hspace

theorem skipSpace_cons {c : Char} (hc : isSpace c = false) (text : List Char) :
    skipSpace (c :: text) = c :: text :=
  List.dropWhile_cons_of_neg (by rw [hc]; exact Bool.false_ne_true)

theorem stringBody_plain {raw : List Char} (h : Plain raw) (rest : List Char) :
    stringBody (raw ++ '\x22' :: rest) = some (raw, rest) := by
  induction raw with
  | nil => simp [stringBody]
  | cons c raw ih =>
    obtain ⟨hquote, hbackslash, hcontrol⟩ := h c List.mem_cons_self
    rw [List.cons_append, stringBody.eq_5 _ _ hquote (fun _ _ _ _ _ hu => absurd hu hbackslash)
      (fun _ _ hu => absurd hu hbackslash), ih fun c hc => h c (List.mem_cons_of_mem _ hc)]
    simp [guard, hcontrol]

theorem unescape_plain {raw : List Char} (h : '\\' ∉ raw) : unescape raw = codes raw := by
  induction raw with
  | nil => rfl
  | cons c raw ih =>
    obtain ⟨hc, hraw⟩ := not_or.mp (mt List.mem_cons.mpr h)
    rw [unescape.eq_3 _ _ (fun _ _ _ _ _ hu => absurd hu.symm hc) (fun _ _ hu => absurd hu.symm hc),
      ih hraw]
    rfl

theorem isDigit_toDigits (n : Nat) : ∀ c ∈ Nat.toDigits 10 n, c.isDigit :=
  fun _ => Nat.isDigit_of_mem_toDigits (by decide) (by decide)

theorem toDigits_cons (n : Nat) :
    ∃ c digits, Nat.toDigits 10 n = c :: digits ∧ c.isDigit := by
  obtain ⟨c, digits, hdigits⟩ := List.exists_cons_of_ne_nil (@Nat.toDigits_ne_nil n 10)
  exact ⟨c, digits, hdigits, isDigit_toDigits n c (hdigits ▸ List.mem_cons_self)⟩

theorem toDigits_head {n : Nat} (hn : n ≠ 0) : (Nat.toDigits 10 n).head? ≠ some '0' := by
  have hdigit : ∀ m < 10, m ≠ 0 → [Nat.digitChar m].head? ≠ some '0' := by decide
  induction n using Nat.strong_induction_on with
  | _ n ih =>
    rw [Nat.toDigits_eq_if (by decide)]
    split
    · exact hdigit n ‹_› hn
    · obtain ⟨c, digits, hdigits, -⟩ := toDigits_cons (n / 10)
      have hhead := ih (n / 10) (by omega) (by omega)
      rw [hdigits] at hhead ⊢
      exact hhead

variable {text : List Char}

theorem Ended.cases (h : Ended text) :
    ∃ c more, text = c :: more ∧ (isSpace c = true ∨ c = ',' ∨ c = '\x7d') := by
  obtain @⟨space, mark, rest, hspace, hmark⟩ := h
  cases space with
  | nil => exact ⟨mark, rest, rfl, .inr hmark⟩
  | cons c space => exact ⟨c, _, rfl, .inl (hspace c List.mem_cons_self)⟩

theorem not_isDigit_of_ended {c : Char} (h : isSpace c = true ∨ c = ',' ∨ c = '\x7d') :
    c.isDigit = false ∧ c ≠ '.' ∧ c ≠ 'e' ∧ c ≠ 'E' := by
  simp only [isSpace, Bool.or_eq_true, beq_iff_eq] at h
  obtain (((rfl | rfl) | rfl) | rfl) | rfl | rfl := h <;> decide

theorem ended_ascii {c : Char} (h : isSpace c = true ∨ c = ',' ∨ c = '\x7d') :
    c.utf8Size = 1 := by
  obtain h | rfl | rfl := h
  · exact space_ascii h
  · decide
  · decide

theorem fraction_ended (h : Ended text) : fraction text = ([], text) := by
  obtain ⟨c, more, rfl, hc⟩ := h.cases
  unfold fraction
  split
  · rename_i heq
    exact absurd (List.cons.inj heq).1 (not_isDigit_of_ended hc).2.1
  · rfl

theorem exponent_ended (h : Ended text) : exponent text = ([], text) := by
  obtain ⟨c, more, rfl, hc⟩ := h.cases
  obtain ⟨-, -, he, hE⟩ := not_isDigit_of_ended hc
  unfold exponent
  split
  · rename_i heq
    obtain ⟨rfl, rfl⟩ := List.cons.inj heq
    exact if_neg (not_or.mpr ⟨he, hE⟩)
  · rfl

theorem digitsOf_append {digits text : List Char} (hdigits : ∀ c ∈ digits, c.isDigit)
    (h : Ended text) : digitsOf (digits ++ text) = (digits, text) := by
  obtain ⟨c, more, rfl, hc⟩ := h.cases
  have hstop : ¬ c.isDigit = true := by
    rw [(not_isDigit_of_ended hc).1]
    exact Bool.false_ne_true
  unfold digitsOf
  rw [List.takeWhile_append_of_pos hdigits, List.dropWhile_append_of_pos hdigits,
    List.takeWhile_cons_of_neg hstop, List.dropWhile_cons_of_neg hstop, List.append_nil]

theorem wholePart_toDigits (n : Nat) (h : Ended text) :
    wholePart (Nat.toDigits 10 n ++ text) = some (Nat.toDigits 10 n, text) := by
  by_cases hn : n = 0
  · subst hn
    rfl
  · unfold wholePart
    split
    · rename_i rest heq
      obtain ⟨c, digits, hdigits, -⟩ := toDigits_cons n
      have hhead := toDigits_head hn
      rw [hdigits] at heq hhead
      exact absurd (congrArg some (List.cons.inj heq).1) hhead
    · rw [digitsOf_append (isDigit_toDigits n) h]
      exact if_neg Nat.toDigits_ne_nil

theorem sign_toDigits (n : Nat) (text : List Char) :
    sign (Nat.toDigits 10 n ++ text) = (false, Nat.toDigits 10 n ++ text) := by
  obtain ⟨c, digits, hdigits, hc⟩ := toDigits_cons n
  rw [hdigits]
  unfold sign
  split
  · rename_i heq
    obtain ⟨rfl, -⟩ := List.cons.inj heq
    exact absurd hc (by decide)
  · rfl

theorem number_toDigits (n : Nat) (h : Ended text) :
    number (Nat.toDigits 10 n ++ text) = some (.int false (Nat.toDigits 10 n), text) := by
  unfold number
  rw [sign_toDigits]
  dsimp only
  rw [wholePart_toDigits n h]
  simp [fraction_ended h, exponent_ended h]

theorem literal_toDigits (n : Nat) (h : Ended text) :
    literal (Nat.toDigits 10 n ++ text) = some (.int false (Nat.toDigits 10 n), text) := by
  have hword : words.find? (fun word => word.1.isPrefixOf (Nat.toDigits 10 n ++ text)) = none := by
    obtain ⟨c, digits, hdigits, hc⟩ := toDigits_cons n
    rw [hdigits, List.find?_eq_none]
    intro word hmem hstart
    obtain ⟨d, more, hd, hletter⟩ : ∃ d more, word.1 = d :: more ∧ d.isDigit = false := by
      simp only [words, List.mem_cons, List.not_mem_nil, or_false] at hmem
      obtain rfl | rfl | rfl | rfl | rfl | rfl := hmem <;> exact ⟨_, _, rfl, rfl⟩
    rw [hd, List.cons_append, List.isPrefixOf_cons_cons, Bool.and_eq_true, beq_iff_eq] at hstart
    rw [← hstart.1, hletter] at hc
    exact Bool.false_ne_true hc
  unfold literal
  rw [hword]
  exact number_toDigits n h

section
variable {accept : Json → Bool} {fuel : Nat} {rest : List Char}

theorem literal_word (word : List Char × Json) (hword : word ∈ words.take 3) (rest : List Char) :
    literal (word.1 ++ rest) = some (word.2, rest) := by
  simp only [words, List.take_succ_cons, List.take_zero, List.mem_cons, List.not_mem_nil,
    or_false] at hword
  obtain rfl | rfl | rfl := hword <;> rfl

theorem value_literal {c : Char} {text : List Char} {json : Json}
    (hc : c ≠ '\x22' ∧ c ≠ '[' ∧ c ≠ '\x7b') (haccept : accept json = true)
    (h : literal (c :: text) = some (json, rest)) :
    value accept (fuel + 1) (c :: text) = some (json, rest) := by
  unfold value
  rw [Option.filter_eq_some_iff]
  refine ⟨?_, haccept⟩
  split
  · exact absurd (List.cons.inj ‹_›).1 hc.1
  · exact absurd (List.cons.inj ‹_›).1 hc.2.1
  · exact absurd (List.cons.inj ‹_›).1 hc.2.2
  · exact h

/-- **A scalar that is written is read back.** -/
theorem value_scalar {scalar : Scalar} (hplain : scalar.Plain)
    (haccept : accept scalar.json = true) (h : Ended rest) :
    value accept (fuel + 1) (scalar.text ++ rest) = some (scalar.json, rest) := by
  cases scalar with
  | nat n =>
    have hliteral := literal_toDigits n h
    obtain ⟨c, digits, hdigits, hc⟩ := toDigits_cons n
    simp only [Scalar.text, Scalar.json] at haccept ⊢
    rw [hdigits, List.cons_append] at hliteral ⊢
    refine value_literal ⟨?_, ?_, ?_⟩ (hdigits ▸ haccept) hliteral <;>
      · rintro rfl
        exact absurd hc (by decide)
  | bool b =>
    cases b with
    | true =>
      exact value_literal (by decide) haccept
        (literal_word ("true".toList, .bool true) (by simp [words]) rest)
    | false =>
      exact value_literal (by decide) haccept
        (literal_word ("false".toList, .bool false) (by simp [words]) rest)
  | str raw =>
    unfold value
    rw [Option.filter_eq_some_iff]
    refine ⟨?_, haccept⟩
    simp only [Scalar.text, Scalar.json, List.cons_append, List.append_assoc, List.nil_append]
    rw [stringBody_plain hplain]
    rfl

namespace Layout
variable {layout : Layout}

theorem ended_more (fields : List (List Char × Scalar)) :
    Ended (layout.more fields ++ (layout.close ++ '\x7d' :: rest)) := by
  cases fields with
  | nil => exact .intro '\x7d' rest layout.close_space (.inr rfl)
  | cons field fields => exact @Ended.intro [] ',' _ (by simp) (.inl rfl)

theorem skipSpace_scalar {scalar : Scalar} (rest : List Char) :
    skipSpace (scalar.text ++ rest) = scalar.text ++ rest := by
  cases scalar with
  | nat n =>
    obtain ⟨c, digits, hdigits, hc⟩ := toDigits_cons n
    rw [Scalar.text, hdigits]
    refine skipSpace_cons ?_ _
    rw [Bool.eq_false_iff]
    intro hspace
    rw [(not_isDigit_of_ended (.inl hspace)).1] at hc
    exact Bool.false_ne_true hc
  | bool b => cases b <;> rfl
  | str raw => rfl

/-- What the reader makes of a field. -/
def pair (field : List Char × Scalar) : List Char × Json := (field.1, field.2.json)

/-- One member that is written, and then either the brace or a comma and the other members. -/
theorem members_member_written {field : List Char × Scalar} {tail : List Char}
    (hkey : Plain field.1) (hplain : field.2.Plain) (haccept : accept field.2.json = true)
    (htail : Ended tail) :
    members accept (fuel + 2) (layout.member field ++ tail) =
      match expect '\x7d' (skipSpace tail) with
      | some rest => some ([pair field], rest)
      | none =>
        (expect ',' (skipSpace tail)).bind fun rest =>
          (members accept (fuel + 1) (skipSpace rest)).bind fun (pairs, rest) =>
            some (pair field :: pairs, rest) := by
  have hcolon : skipSpace (':' :: (layout.gap ++ (field.2.text ++ tail))) =
      ':' :: (layout.gap ++ (field.2.text ++ tail)) := skipSpace_cons rfl _
  rw [members]
  simp only [member, List.cons_append, List.append_assoc, expect, if_true, Option.bind_eq_bind,
    Option.bind_some, stringBody_plain hkey, hcolon, skipSpace_append layout.gap_space,
    skipSpace_scalar, value_scalar hplain haccept htail]
  rfl

theorem members_written {fields : List (List Char × Scalar)} {field : List Char × Scalar}
    (hfields : ∀ field' ∈ field :: fields,
      Plain field'.1 ∧ field'.2.Plain ∧ accept field'.2.json = true) :
    members accept (fuel + fields.length + 2)
        (layout.member field ++ (layout.more fields ++ (layout.close ++ '\x7d' :: rest))) =
      some ((field :: fields).map pair, rest) := by
  obtain ⟨hkey, hplain, haccept⟩ := hfields field List.mem_cons_self
  induction fields generalizing field fuel with
  | nil =>
    rw [members_member_written hkey hplain haccept (ended_more [])]
    have hbrace : skipSpace (layout.close ++ '\x7d' :: rest) = '\x7d' :: rest :=
      (skipSpace_append layout.close_space _).trans (skipSpace_cons rfl _)
    simp [more, hbrace, expect]
  | cons next fields ih =>
    have hrest := fun field' hmem => hfields field' (List.mem_cons_of_mem _ hmem)
    obtain ⟨hkey', hplain', haccept'⟩ := hrest next List.mem_cons_self
    rw [members_member_written hkey hplain haccept (ended_more (next :: fields))]
    have hcomma : skipSpace (layout.more (next :: fields) ++ (layout.close ++ '\x7d' :: rest)) =
        ',' :: (layout.lead ++ (layout.member next ++
          (layout.more fields ++ (layout.close ++ '\x7d' :: rest)))) := by
      simp only [more, List.cons_append, List.append_assoc]
      exact skipSpace_cons rfl _
    have hnext : skipSpace (layout.lead ++ (layout.member next ++
        (layout.more fields ++ (layout.close ++ '\x7d' :: rest)))) =
        layout.member next ++ (layout.more fields ++ (layout.close ++ '\x7d' :: rest)) :=
      (skipSpace_append layout.lead_space _).trans (skipSpace_cons rfl _)
    have hfuel : fuel + (next :: fields).length + 1 = fuel + fields.length + 2 := rfl
    have hmembers := @ih fuel next hrest hkey' hplain' haccept'
    rw [hcomma, hfuel]
    simp [expect, hnext, hmembers]

end Layout

theorem value_members {body : List Char} {pairs : List (List Char × Json)}
    (hopen : expect '\x7d' (skipSpace body) = none)
    (hmembers : members accept fuel (skipSpace body) = some (pairs, rest))
    (haccept : accept (.obj pairs) = true) :
    value accept (fuel + 1) ('\x7b' :: body) = some (.obj pairs, rest) := by
  unfold value
  rw [Option.filter_eq_some_iff]
  refine ⟨?_, haccept⟩
  simp only [hopen, hmembers]
  rfl

/-- **An object that is written is read back**, also before white space. -/
theorem loads_object (layout : Layout) {fields : List (List Char × Scalar)} {space : List Char}
    (hfields : ∀ field ∈ fields, Plain field.1 ∧ field.2.Plain ∧ accept field.2.json = true)
    (haccept : accept (.obj (fields.map Layout.pair)) = true) (hspace : ∀ c ∈ space, isSpace c) :
    loads accept (layout.object fields ++ space) = some (.obj (fields.map Layout.pair)) := by
  have hvalue : value accept (2 * (layout.object fields ++ space).length + fields.length + 2)
      (layout.object fields ++ space) = some (.obj (fields.map Layout.pair), space) := by
    cases fields with
    | nil =>
      unfold value
      rw [Option.filter_eq_some_iff]
      exact ⟨rfl, haccept⟩
    | cons field fields =>
      have htext : layout.object (field :: fields) ++ space = '\x7b' :: (layout.lead ++
          (layout.member field ++ (layout.more fields ++ (layout.close ++ '\x7d' :: space)))) := by
        simp [Layout.object]
      have hlead := (skipSpace_append layout.lead_space (layout.member field ++
        (layout.more fields ++ (layout.close ++ '\x7d' :: space)))).trans (skipSpace_cons rfl _)
      rw [htext]
      refine value_members ?_ ?_ haccept
      · rw [hlead]
        rfl
      · rw [hlead]
        exact Layout.members_written hfields
  have hfuel : 2 * (layout.object fields ++ space).length + 1 ≤
      2 * (layout.object fields ++ space).length + fields.length + 2 := by omega
  rw [← loads_fuel hfuel]
  unfold loadsWith
  have hstart : skipSpace (layout.object fields ++ space) = layout.object fields ++ space := by
    cases fields <;> exact skipSpace_cons rfl _
  have hend : skipSpace space = [] := List.dropWhile_eq_nil_iff.mpr hspace
  rw [hstart, hvalue]
  simp [hend, guard]

end

/-! ### How often a word in quotes is written -/

/-- A word that does not begin as what may follow a string does. -/
def Word : List Char → Prop
  | [] => False
  | c :: more => '\x22' ∉ c :: more ∧ c ≠ ':' ∧ isSpace c = false ∧ c ≠ ',' ∧ c ≠ '\x7d'

instance : (word : List Char) → Decidable (Word word)
  | [] => inferInstanceAs (Decidable False)
  | c :: more => inferInstanceAs (Decidable ('\x22' ∉ c :: more ∧ c ≠ ':' ∧ isSpace c = false ∧
      c ≠ ',' ∧ c ≠ '\x7d'))

section
variable {word : List Char}

theorem quote_not_mem_space {space : List Char} (h : ∀ c ∈ space, isSpace c) : '\x22' ∉ space :=
  fun hmem => absurd (h _ hmem) (by decide)

theorem occurrences_skipped {before : List Char} (h : '\x22' ∉ before) (text : List Char) :
    occurrences (inQuotes '\x22' word) (before ++ text) =
      occurrences (inQuotes '\x22' word) text :=
  occurrences_skip h

theorem occurrences_string {raw : List Char} (hword : Word word) (hraw : '\x22' ∉ raw)
    {c : Char} (hc : c = ':' ∨ isSpace c = true ∨ c = ',' ∨ c = '\x7d') (text : List Char) :
    occurrences (inQuotes '\x22' word) (inQuotes '\x22' raw ++ c :: text) =
      (if raw = word then 1 else 0) + occurrences (inQuotes '\x22' word) (c :: text) := by
  cases word with
  | nil => exact hword.elim
  | cons a more =>
    obtain ⟨hquote, hcolon, hspace, hcomma, hbrace⟩ := hword
    refine occurrences_quoted hquote hraw ?_ text
    rintro rfl
    obtain h | h | h | h := hc
    · exact hcolon h
    · rw [hspace] at h
      exact Bool.false_ne_true h
    · exact hcomma h
    · exact hbrace h

theorem occurrences_scalar {scalar : Scalar} (hword : Word word)
    (hraw : ∀ raw, scalar = .str raw → '\x22' ∉ raw) {text : List Char} (h : Ended text) :
    occurrences (inQuotes '\x22' word) (scalar.text ++ text) =
      (if scalar = .str word then 1 else 0) + occurrences (inQuotes '\x22' word) text := by
  cases scalar with
  | nat value =>
    rw [Scalar.text, occurrences_skipped fun hmem => absurd (isDigit_toDigits value _ hmem)
      (by decide)]
    simp
  | bool value =>
    have hquote : '\x22' ∉ (Scalar.bool value).text := by cases value <;> decide
    rw [occurrences_skipped hquote]
    simp
  | str raw =>
    obtain ⟨c, more, rfl, hc⟩ := h.cases
    rw [show (Scalar.str raw).text = inQuotes '\x22' raw from rfl,
      occurrences_string hword (hraw raw rfl) (.inr hc)]
    simp

namespace Layout
variable {layout : Layout}

/-- A field whose key, and whose value if it is a string, have no quotes in them. -/
def Unquoted (field : List Char × Scalar) : Prop :=
  '\x22' ∉ field.1 ∧ ∀ raw, field.2 = .str raw → '\x22' ∉ raw

/-- How often a word is the key or the value of a field. -/
def uses (word : List Char) (field : List Char × Scalar) : Nat :=
  (if field.1 = word then 1 else 0) + if field.2 = .str word then 1 else 0

theorem sum_uses (word : List Char) (fields : List (List Char × Scalar)) :
    (fields.map (uses word)).sum =
      (fields.map Prod.fst).count word + (fields.map Prod.snd).count (.str word) := by
  induction fields with
  | nil => rfl
  | cons field fields ih =>
    rw [List.map_cons, List.sum_cons, ih, List.map_cons, List.map_cons, List.count_cons,
      List.count_cons, uses]
    simp only [beq_iff_eq]
    omega

theorem occurrences_member {field : List Char × Scalar} (hword : Word word)
    (hfield : Unquoted field) {text : List Char} (h : Ended text) :
    occurrences (inQuotes '\x22' word) (layout.member field ++ text) =
      uses word field + occurrences (inQuotes '\x22' word) text := by
  have hsplit : layout.member field ++ text =
      inQuotes '\x22' field.1 ++ ':' :: (layout.gap ++ (field.2.text ++ text)) := by
    simp [member, inQuotes]
  have hgap : '\x22' ∉ ':' :: layout.gap := fun hmem =>
    quote_not_mem_space layout.gap_space ((List.mem_cons.mp hmem).resolve_left (by decide))
  rw [hsplit, occurrences_string hword hfield.1 (.inl rfl), ← List.cons_append,
    occurrences_skipped hgap, occurrences_scalar hword hfield.2 h, uses, Nat.add_assoc]

theorem occurrences_more {fields : List (List Char × Scalar)} (hword : Word word)
    (hfields : ∀ field ∈ fields, Unquoted field) {after : List Char} (hafter : '\x22' ∉ after) :
    occurrences (inQuotes '\x22' word)
        (layout.more fields ++ (layout.close ++ '\x7d' :: after)) =
      (fields.map (uses word)).sum := by
  induction fields with
  | nil =>
    have hclose : '\x22' ∉ layout.close ++ '\x7d' :: after := fun hmem => by
      obtain hmem | hmem := List.mem_append.mp hmem
      · exact quote_not_mem_space layout.close_space hmem
      · exact hafter ((List.mem_cons.mp hmem).resolve_left (by decide))
    have hskip := @occurrences_skipped word _ hclose []
    rw [List.append_nil] at hskip
    exact hskip
  | cons field fields ih =>
    obtain ⟨hfield, hfields⟩ := List.forall_mem_cons.mp hfields
    have hsplit : layout.more (field :: fields) ++ (layout.close ++ '\x7d' :: after) =
        (',' :: layout.lead) ++ (layout.member field ++
          (layout.more fields ++ (layout.close ++ '\x7d' :: after))) := by
      simp [more]
    have hlead : '\x22' ∉ ',' :: layout.lead := fun hmem =>
      quote_not_mem_space layout.lead_space ((List.mem_cons.mp hmem).resolve_left (by decide))
    rw [hsplit, occurrences_skipped hlead, occurrences_member hword hfield (ended_more fields),
      ih hfields, List.map_cons, List.sum_cons]

/-- **How often a word in quotes occurs** in the text of an object: as often as it is the key or
the value of a field. -/
theorem occurrences_object {fields : List (List Char × Scalar)} (hword : Word word)
    (hfields : ∀ field ∈ fields, Unquoted field) {after : List Char} (hafter : '\x22' ∉ after) :
    occurrences (inQuotes '\x22' word) (layout.object fields ++ after) =
      (fields.map (uses word)).sum := by
  cases fields with
  | nil =>
    have hbraces : '\x22' ∉ ['\x7b', '\x7d'] ++ after := fun hmem =>
      (List.mem_append.mp hmem).elim (by decide) hafter
    have hskip := @occurrences_skipped word _ hbraces []
    rw [List.append_nil] at hskip
    exact hskip
  | cons field fields =>
    obtain ⟨hfield, hfields⟩ := List.forall_mem_cons.mp hfields
    have hsplit : layout.object (field :: fields) ++ after =
        ('\x7b' :: layout.lead) ++ (layout.member field ++
          (layout.more fields ++ (layout.close ++ '\x7d' :: after))) := by
      simp [object]
    have hlead : '\x22' ∉ '\x7b' :: layout.lead := fun hmem =>
      quote_not_mem_space layout.lead_space ((List.mem_cons.mp hmem).resolve_left (by decide))
    rw [hsplit, occurrences_skipped hlead, occurrences_member hword hfield (ended_more fields),
      occurrences_more hword hfields hafter, List.map_cons, List.sum_cons]

end Layout

end

/-! ### The bytes of what is written -/

theorem ascii_space {space : List Char} (h : ∀ c ∈ space, isSpace c) : Ascii space := by
  exact fun c hmem => space_ascii (h c hmem)

theorem ascii_scalar {scalar : Scalar} (h : ∀ raw, scalar = .str raw → Ascii raw) :
    Ascii scalar.text := by
  cases scalar with
  | nat value => exact fun c hmem => ascii_isDigit (isDigit_toDigits value c hmem)
  | bool value =>
    cases value with
    | true => exact (by decide : Ascii "true".toList)
    | false => exact (by decide : Ascii "false".toList)
  | str raw => exact .cons (by decide) (.append (h raw rfl) (by decide))

namespace Layout
variable {layout : Layout}

theorem ascii_more {fields : List (List Char × Scalar)}
    (hfields : ∀ field ∈ fields, Ascii (layout.member field)) : Ascii (layout.more fields) := by
  induction fields with
  | nil => exact fun _ hmem => nomatch hmem
  | cons field fields ih =>
    obtain ⟨hfield, hrest⟩ := List.forall_mem_cons.mp hfields
    exact .cons (by decide) (.append (ascii_space layout.lead_space) (.append hfield (ih hrest)))

theorem ascii_object {fields : List (List Char × Scalar)}
    (hfields : ∀ field ∈ fields, Ascii field.1 ∧ ∀ raw, field.2 = .str raw → Ascii raw) :
    Ascii (layout.object fields) := by
  have hmember : ∀ field ∈ fields, Ascii (layout.member field) := fun field hmem =>
    .cons (by decide) (.append (hfields field hmem).1 (.cons (by decide) (.cons (by decide)
      (.append (ascii_space layout.gap_space) (ascii_scalar (hfields field hmem).2)))))
  cases fields with
  | nil => exact (by decide : Ascii ['\x7b', '\x7d'])
  | cons field fields =>
    obtain ⟨hfirst, hrest⟩ := List.forall_mem_cons.mp hmember
    exact .cons (by decide) (.append (ascii_space layout.lead_space) (.append hfirst
      (.append (ascii_more hrest) (.append (ascii_space layout.close_space) (by decide)))))

end Layout

end Json
