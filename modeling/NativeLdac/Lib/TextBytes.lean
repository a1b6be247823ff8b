/-
  Texts, their bytes in UTF-8, and how a token is searched for in them.

  * `after?` finds the first occurrence of a token (`find?` its position), and `occurrences` counts
    them all;
    `after?_once`: a token that occurs once is found where it stands;
  * `utf8` are the bytes of a text; `Lifts` relates a test of bytes to a test of characters, and
    `takeWhile_utf8` and `dropWhile_utf8` scan the bytes as the characters.
-/
import Mathlib.Data.List.TakeWhile
import Mathlib.Data.UInt

namespace TextBytes

/-- A text is decided by its characters, not by all there are. -/
instance (priority := 1100) decidableForallMem {p : Char → Prop} [DecidablePred p]
    (text : List Char) : Decidable (∀ c ∈ text, p c) := List.decidableBAll p text

/-! ## Searching -/

/-- A word between two quotes. -/
def inQuotes {α : Type} (quote : α) (word : List α) : List α := quote :: (word ++ [quote])

theorem inQuotes_append {α : Type} (quote : α) (word text : List α) :
    inQuotes quote word ++ text = quote :: (word ++ quote :: text) := by
  simp [inQuotes]

section
variable {α : Type} [DecidableEq α] {token before text : List α}

/-- What is after the first occurrence of a token. -/
def after? (token : List α) : List α → Option (List α)
  | [] => none
  | a :: text =>
    if token.isPrefixOf (a :: text) then some ((a :: text).drop token.length)
    else after? token text

/-- The position of the first occurrence of a token. -/
def find? (token : List α) : List α → Option Nat
  | [] => none
  | a :: text =>
    if token.isPrefixOf (a :: text) then some 0 else (find? token text).map (· + 1)

def occurrences (token : List α) : List α → Nat
  | [] => 0
  | a :: text => (if token.isPrefixOf (a :: text) then 1 else 0) + occurrences token text

theorem after?_eq_find? (token text : List α) :
    after? token text = (find? token text).map fun position =>
      text.drop (position + token.length) := by
  induction text with
  | nil => rfl
  | cons a text ih =>
    rw [after?, find?]
    split_ifs
    · rw [Option.map_some, Nat.zero_add]
    · rw [ih, Option.map_map]
      congr 1
      funext position
      rw [Function.comp_apply, Nat.add_right_comm, List.drop_succ_cons]

theorem after?_none (h : occurrences token text = 0) : after? token text = none := by
  induction text with
  | nil => rfl
  | cons a text ih =>
    rw [occurrences] at h
    obtain ⟨hfirst, hrest⟩ := Nat.add_eq_zero_iff.mp h
    rw [after?, if_neg (fun hstarts => by simp [hstarts] at hfirst)]
    exact ih hrest

theorem occurrences_le_append (before : List α) :
    occurrences token text ≤ occurrences token (before ++ text) := by
  induction before with
  | nil => exact Nat.le_refl _
  | cons a before ih => exact ih.trans (Nat.le_add_left _ _)

theorem isPrefixOf_append (text : List α) : token.isPrefixOf (token ++ text) = true :=
  List.isPrefixOf_iff_prefix.mpr (List.prefix_append _ _)

theorem occurrences_pos (hne : token ≠ []) : 1 ≤ occurrences token (token ++ text) := by
  obtain ⟨a, more, rfl⟩ := List.exists_cons_of_ne_nil hne
  rw [List.cons_append, occurrences, ← List.cons_append, if_pos (isPrefixOf_append _)]
  exact Nat.le_add_right _ _

/-- **A token that occurs once is found**, and not again. -/
theorem after?_once (hne : token ≠ []) (h : occurrences token (before ++ (token ++ text)) = 1) :
    after? token (before ++ (token ++ text)) = some text ∧ after? token text = none := by
  induction before with
  | nil =>
    obtain ⟨a, more, rfl⟩ := List.exists_cons_of_ne_nil hne
    rw [List.nil_append] at h ⊢
    have hstarts := @isPrefixOf_append _ _ (a :: more) text
    rw [List.cons_append] at h hstarts ⊢
    rw [occurrences, if_pos hstarts] at h
    rw [after?, if_pos hstarts, ← List.cons_append, List.drop_left]
    have hrest := @occurrences_le_append _ _ (a :: more) text more
    exact ⟨rfl, after?_none (by omega)⟩
  | cons a before ih =>
    have hlater : 1 ≤ occurrences token (before ++ (token ++ text)) :=
      (occurrences_pos hne).trans (occurrences_le_append before)
    rw [List.cons_append, occurrences] at h
    by_cases hstarts : token.isPrefixOf (a :: (before ++ (token ++ text))) = true
    · rw [if_pos hstarts] at h
      omega
    · rw [if_neg hstarts, Nat.zero_add] at h
      rw [List.cons_append, after?, if_neg hstarts]
      exact ih h

/-- No occurrence begins with anything but the head of the token. -/
theorem occurrences_skip {a : α} {more : List α} (h : a ∉ before) :
    occurrences (a :: more) (before ++ text) = occurrences (a :: more) text := by
  induction before with
  | nil => rfl
  | cons b before ih =>
    obtain ⟨hb, hbefore⟩ := not_or.mp (mt List.mem_cons.mpr h)
    rw [List.cons_append, occurrences, ih hbefore, List.isPrefixOf_cons_cons]
    simp [hb]

theorem after?_skip {a : α} {more : List α} (h : a ∉ before) :
    after? (a :: more) (before ++ text) = after? (a :: more) text := by
  induction before with
  | nil => rfl
  | cons b before ih =>
    obtain ⟨hb, hbefore⟩ := not_or.mp (mt List.mem_cons.mpr h)
    rw [List.cons_append, after?, ih hbefore, List.isPrefixOf_cons_cons]
    simp [hb]

section
variable {quote : α} {word word' : List α}

theorem takeWhile_quote (h : quote ∉ word) (text : List α) :
    (word ++ quote :: text).takeWhile (fun a => !decide (a = quote)) = word := by
  have hword : ∀ a ∈ word, (!decide (a = quote)) = true := fun a ha => by
    rw [Bool.not_eq_true', decide_eq_false_iff_not]
    rintro rfl
    exact h ha
  rw [List.takeWhile_append_of_pos hword, List.takeWhile_cons_of_neg (by simp), List.append_nil]

theorem isPrefixOf_inQuotes (hword : quote ∉ word) (hword' : quote ∉ word') (text : List α) :
    (inQuotes quote word).isPrefixOf (inQuotes quote word' ++ text) = true ↔ word' = word := by
  rw [List.isPrefixOf_iff_prefix]
  constructor
  · rintro ⟨more, hmore⟩
    rw [inQuotes_append, inQuotes_append] at hmore
    have htake := congrArg (List.takeWhile fun a => !decide (a = quote)) (List.cons.inj hmore).2
    rw [takeWhile_quote hword, takeWhile_quote hword'] at htake
    exact htake.symm
  · rintro rfl
    exact List.prefix_append _ _

/-- **How often a word in quotes occurs** where another one stands, with a letter behind it that
the word does not begin with. -/
theorem occurrences_quoted {a : α} {more : List α} (hword : quote ∉ a :: more)
    (hword' : quote ∉ word') {b : α} (hne : a ≠ b) (text : List α) :
    occurrences (inQuotes quote (a :: more)) (inQuotes quote word' ++ b :: text) =
      (if word' = a :: more then 1 else 0) +
        occurrences (inQuotes quote (a :: more)) (b :: text) := by
  have hprefix := isPrefixOf_inQuotes hword hword' (b :: text)
  have hlast : (inQuotes quote (a :: more)).isPrefixOf (quote :: b :: text) = false := by
    simp [inQuotes, List.isPrefixOf, hne]
  have hskip := @occurrences_skip α _ word' (quote :: b :: text) quote (a :: more ++ [quote]) hword'
  rw [show quote :: (a :: more ++ [quote]) = inQuotes quote (a :: more) from rfl] at hskip
  rw [inQuotes_append] at hprefix ⊢
  simp only [occurrences, hskip, hprefix, hlast, Bool.false_eq_true, if_false, Nat.zero_add]

end

end

/-! ## Bytes -/

def utf8 (text : List Char) : List UInt8 := text.flatMap String.utf8EncodeChar

/-- Characters of one byte. -/
def Ascii (text : List Char) : Prop := ∀ c ∈ text, c.utf8Size = 1

instance (text : List Char) : Decidable (Ascii text) := by unfold Ascii; infer_instance

def byte (c : Char) : UInt8 := UInt8.ofNat c.toNat

theorem utf8EncodeChar_ascii {c : Char} (h : c.utf8Size = 1) : String.utf8EncodeChar c = [byte c] :=
  String.utf8EncodeChar_eq_singleton h

theorem utf8_cons {c : Char} (h : c.utf8Size = 1) (text : List Char) :
    utf8 (c :: text) = byte c :: utf8 text := by
  rw [utf8, List.flatMap_cons, utf8EncodeChar_ascii h]
  rfl

theorem utf8_append (text text' : List Char) : utf8 (text ++ text') = utf8 text ++ utf8 text' :=
  List.flatMap_append

theorem toNat_byte {c : Char} (h : c.utf8Size = 1) : (byte c).toNat = c.toNat ∧ c.toNat < 128 := by
  rw [Char.utf8Size_eq_one_iff, UInt32.le_iff_toNat_le] at h
  have hlt : c.toNat < 128 := Nat.lt_succ_of_le h
  exact ⟨UInt8.toNat_ofNat_of_lt' (hlt.trans (by decide)), hlt⟩

theorem byte_inj {c d : Char} (hc : c.utf8Size = 1) (hd : d.utf8Size = 1) :
    byte c = byte d ↔ c = d := by
  rw [← UInt8.toNat_inj, (toNat_byte hc).1, (toNat_byte hd).1, Char.toNat_inj]

theorem large_bytes {c : Char} (h : c.utf8Size ≠ 1) :
    ∀ b ∈ String.utf8EncodeChar c, 128 ≤ b.toNat := by
  have hor : ∀ (a k : UInt8), 128 ≤ k.toNat → 128 ≤ (a ||| k).toNat := fun a k hk => by
    rw [UInt8.toNat_or]
    exact hk.trans Nat.right_le_or
  have hsize : c.utf8Size = 2 ∨ c.utf8Size = 3 ∨ c.utf8Size = 4 := by
    have hpos := c.utf8Size_pos
    have hle := c.utf8Size_le_four
    omega
  obtain hsize | hsize | hsize := hsize
  · rw [String.utf8EncodeChar_eq_cons_cons hsize]
    simp only [List.forall_mem_cons, List.not_mem_nil, false_implies, implies_true, and_true]
    exact ⟨hor _ _ (by decide), hor _ _ (by decide)⟩
  · rw [String.utf8EncodeChar_eq_cons_cons_cons hsize]
    simp only [List.forall_mem_cons, List.not_mem_nil, false_implies, implies_true, and_true]
    exact ⟨hor _ _ (by decide), hor _ _ (by decide), hor _ _ (by decide)⟩
  · rw [String.utf8EncodeChar_eq_cons_cons_cons_cons hsize]
    simp only [List.forall_mem_cons, List.not_mem_nil, false_implies, implies_true, and_true]
    exact ⟨hor _ _ (by decide), hor _ _ (by decide), hor _ _ (by decide), hor _ _ (by decide)⟩

theorem length_utf8 (text : List Char) : (utf8 text).length = (text.map Char.utf8Size).sum := by
  induction text with
  | nil => rfl
  | cons c text ih =>
    rw [utf8, List.flatMap_cons, List.length_append, String.length_utf8EncodeChar, List.map_cons,
      List.sum_cons, ← ih]
    rfl

theorem Ascii.size {text : List Char} (h : Ascii text) :
    (text.map Char.utf8Size).sum = text.length := by
  induction text with
  | nil => rfl
  | cons c text ih =>
    obtain ⟨hc, htext⟩ := List.forall_mem_cons.mp h
    rw [List.map_cons, List.sum_cons, hc, ih htext, List.length_cons, Nat.add_comm]

theorem Ascii.append {text text' : List Char} (h : Ascii text) (h' : Ascii text') :
    Ascii (text ++ text') :=
  List.forall_mem_append.mpr ⟨h, h'⟩

theorem Ascii.cons {c : Char} {text : List Char} (hc : c.utf8Size = 1) (h : Ascii text) :
    Ascii (c :: text) :=
  List.forall_mem_cons.mpr ⟨hc, h⟩

theorem ascii_isDigit {c : Char} (h : c.isDigit = true) : c.utf8Size = 1 := by
  rw [Char.utf8Size_eq_one_iff]
  simp only [Char.isDigit, Bool.and_eq_true, decide_eq_true_eq] at h
  exact UInt32.le_trans h.2 (by decide)

/-! ### Scanning -/

/-- A test of bytes that tests characters: all larger characters have the same answer. -/
structure Lifts (test : UInt8 → Bool) (p : Char → Bool) : Prop where
  ascii : ∀ c : Char, c.utf8Size = 1 → test (byte c) = p c
  large : ∃ answer, (∀ b : UInt8, 128 ≤ b.toNat → test b = answer) ∧
    ∀ c : Char, c.utf8Size ≠ 1 → p c = answer

section
variable {test : UInt8 → Bool} {p : Char → Bool}

/-- What a test says of the bytes of a character is what it says of the character. -/
theorem Lifts.char (h : Lifts test p) (c : Char) : ∀ b ∈ String.utf8EncodeChar c, test b = p c := by
  by_cases hc : c.utf8Size = 1
  · rw [utf8EncodeChar_ascii hc]
    intro b hb
    rw [List.mem_singleton.mp hb]
    exact h.ascii c hc
  · obtain ⟨answer, hbytes, hchars⟩ := h.large
    intro b hb
    rw [hbytes b (large_bytes hc b hb), hchars c hc]

theorem takeWhile_utf8 (h : Lifts test p) (text : List Char) :
    (utf8 text).takeWhile test = utf8 (text.takeWhile p) := by
  induction text with
  | nil => rfl
  | cons c text ih =>
    have hutf8 : utf8 (c :: text) = String.utf8EncodeChar c ++ utf8 text := rfl
    by_cases hc : p c = true
    · have hbytes : ∀ b ∈ String.utf8EncodeChar c, test b := fun b hb => (h.char c b hb).trans hc
      rw [hutf8, List.takeWhile_append_of_pos hbytes, ih, List.takeWhile_cons_of_pos hc]
      rfl
    · obtain ⟨b, more, hmore⟩ := List.exists_cons_of_ne_nil (String.utf8EncodeChar_ne_nil (c := c))
      have hb : ¬ test b = true := by
        rw [h.char c b (hmore ▸ List.mem_cons_self)]
        exact hc
      rw [hutf8, hmore, List.cons_append, List.takeWhile_cons_of_neg hb,
        List.takeWhile_cons_of_neg hc]
      rfl

theorem dropWhile_utf8 (h : Lifts test p) (text : List Char) :
    (utf8 text).dropWhile test = utf8 (text.dropWhile p) := by
  have hsplit := congrArg utf8 (List.takeWhile_append_dropWhile (p := p) (l := text))
  rw [utf8_append, ← takeWhile_utf8 h] at hsplit
  exact List.append_cancel_left (List.takeWhile_append_dropWhile.trans hsplit.symm)

theorem all_utf8 (h : Lifts test p) (text : List Char) : (utf8 text).all test = text.all p := by
  induction text with
  | nil => rfl
  | cons c text ih =>
    have hutf8 : utf8 (c :: text) = String.utf8EncodeChar c ++ utf8 text := rfl
    have hchar : (String.utf8EncodeChar c).all test = p c := by
      obtain ⟨b, more, hmore⟩ := List.exists_cons_of_ne_nil (String.utf8EncodeChar_ne_nil (c := c))
      have hbytes := h.char c
      rw [hmore] at hbytes ⊢
      rw [Bool.eq_iff_iff, List.all_eq_true]
      exact ⟨fun hall => hbytes b List.mem_cons_self ▸ hall b List.mem_cons_self,
        fun hc b' hb' => (hbytes b' hb').trans hc⟩
    rw [hutf8, List.all_append, hchar, ih, List.all_cons]

end

theorem lifts_eq {d : Char} (hd : d.utf8Size = 1) : Lifts (· == byte d) (· == d) where
  ascii c hc := by
    rw [Bool.eq_iff_iff, beq_iff_eq, beq_iff_eq, byte_inj hc hd]
  large := by
    refine ⟨false, fun b hb => ?_, fun c hc => ?_⟩
    · rw [beq_eq_false_iff_ne]
      rintro rfl
      obtain ⟨heq, hlt⟩ := toNat_byte hd
      omega
    · rw [beq_eq_false_iff_ne]
      rintro rfl
      exact hc hd

theorem Lifts.not {test : UInt8 → Bool} {p : Char → Bool} (h : Lifts test p) :
    Lifts (fun b => !test b) (fun c => !p c) where
  ascii c hc := congrArg Bool.not (h.ascii c hc)
  large := by
    obtain ⟨answer, hbytes, hchars⟩ := h.large
    exact ⟨!answer, fun b hb => congrArg Bool.not (hbytes b hb),
      fun c hc => congrArg Bool.not (hchars c hc)⟩

theorem Lifts.or {test test' : UInt8 → Bool} {p p' : Char → Bool} (h : Lifts test p)
    (h' : Lifts test' p') : Lifts (fun b => test b || test' b) (fun c => p c || p' c) where
  ascii c hc := congrArg₂ Bool.or (h.ascii c hc) (h'.ascii c hc)
  large := by
    obtain ⟨answer, hbytes, hchars⟩ := h.large
    obtain ⟨answer', hbytes', hchars'⟩ := h'.large
    exact ⟨answer || answer', fun b hb => congrArg₂ Bool.or (hbytes b hb) (hbytes' b hb),
      fun c hc => congrArg₂ Bool.or (hchars c hc) (hchars' c hc)⟩

theorem lifts_ne {d : Char} (hd : d.utf8Size = 1) : Lifts (· != byte d) (· != d) :=
  (lifts_eq hd).not

theorem mem_utf8 {d : Char} (hd : d.utf8Size = 1) (text : List Char) :
    byte d ∈ utf8 text ↔ d ∈ text := by
  have hall := all_utf8 (lifts_ne hd) text
  rw [Bool.eq_iff_iff, List.all_eq_true, List.all_eq_true] at hall
  rw [← not_iff_not]
  simp only [bne_iff_ne, ne_eq] at hall
  exact ⟨fun hb hmem => hall.mp (fun b hb' heq => hb (heq ▸ hb')) d hmem rfl,
    fun hd' hmem => hall.mpr (fun c hc heq => hd' (heq ▸ hc)) _ hmem rfl⟩

/-! ### Tokens -/

section
variable {token : List Char}

theorem isPrefixOf_utf8 (htoken : Ascii token) (text : List Char) :
    (utf8 token).isPrefixOf (utf8 text) = token.isPrefixOf text := by
  induction token generalizing text with
  | nil => rw [show utf8 [] = [] from rfl, List.isPrefixOf_nil_left, List.isPrefixOf_nil_left]
  | cons c token ih =>
    obtain ⟨hc, htoken⟩ := List.forall_mem_cons.mp htoken
    rw [utf8_cons hc]
    cases text with
    | nil => rfl
    | cons d text =>
      by_cases hd : d.utf8Size = 1
      · rw [utf8_cons hd, List.isPrefixOf_cons_cons, List.isPrefixOf_cons_cons, ih htoken,
          Bool.eq_iff_iff]
        simp [byte_inj hc hd]
      · have hutf8 : utf8 (d :: text) = String.utf8EncodeChar d ++ utf8 text := rfl
        obtain ⟨b, more, hmore⟩ :=
          List.exists_cons_of_ne_nil (String.utf8EncodeChar_ne_nil (c := d))
        have hlarge := large_bytes hd b (hmore ▸ List.mem_cons_self)
        obtain ⟨hbyte, hlt⟩ := toNat_byte hc
        have hne : byte c ≠ b := fun heq => by rw [heq] at hbyte; omega
        have hne' : c ≠ d := fun heq => hd (heq ▸ hc)
        rw [hutf8, hmore, List.cons_append, List.isPrefixOf_cons_cons, List.isPrefixOf_cons_cons,
          beq_false_of_ne hne, beq_false_of_ne hne', Bool.false_and, Bool.false_and]

theorem utf8_eq_iff (htoken : Ascii token) (text : List Char) :
    utf8 text = utf8 token ↔ text = token := by
  refine ⟨fun h => ?_, fun h => h ▸ rfl⟩
  have hprefix := isPrefixOf_utf8 htoken text
  rw [h, List.isPrefixOf_iff_prefix.mpr (List.prefix_refl _)] at hprefix
  obtain ⟨rest, rfl⟩ := List.isPrefixOf_iff_prefix.mp hprefix.symm
  rw [utf8_append, List.append_right_eq_self] at h
  cases rest with
  | nil => exact List.append_nil _
  | cons c rest =>
    exact absurd (List.append_eq_nil_iff.mp h).1 String.utf8EncodeChar_ne_nil

/-- **A token of one-byte characters occurs in the bytes as often as in the text.** -/
theorem occurrences_utf8 (htoken : Ascii token) (hne : token ≠ []) (text : List Char) :
    occurrences (utf8 token) (utf8 text) = occurrences token text := by
  obtain ⟨c, more, rfl⟩ := List.exists_cons_of_ne_nil hne
  have hc := (List.forall_mem_cons.mp htoken).1
  induction text with
  | nil => rfl
  | cons d text ih =>
    by_cases hd : d.utf8Size = 1
    · have hstarts := isPrefixOf_utf8 htoken (d :: text)
      rw [utf8_cons hd] at hstarts ⊢
      rw [occurrences, occurrences, hstarts, ih]
    · have hutf8 : utf8 (d :: text) = String.utf8EncodeChar d ++ utf8 text := rfl
      have hbytes : byte c ∉ String.utf8EncodeChar d := fun hmem => by
        have hlarge := large_bytes hd _ hmem
        obtain ⟨hbyte, hlt⟩ := toNat_byte hc
        omega
      have hchars : c ∉ [d] := fun hmem => hd (List.mem_singleton.mp hmem ▸ hc)
      rw [utf8_cons hc] at ih ⊢
      rw [hutf8, occurrences_skip hbytes, ih, ← List.singleton_append (l := text),
        occurrences_skip hchars]

end

end TextBytes
