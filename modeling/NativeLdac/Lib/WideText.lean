/-
  Texts of 16-bit units, as the wide strings of Windows have them.

  * a `CString` has no terminator inside;
  * `decimal` writes a number and `wcsto` reads one; `wcsto_decimal`: it reads what was written.
-/
import Mathlib.Data.UInt
import Mathlib.Tactic.SplitIfs

namespace WideText

def wideChar (c : Char) : UInt16 := UInt16.ofNat c.toNat

def wide (text : String) : List UInt16 := text.toList.map wideChar

/-- A text is decided by its units, not by all there are. -/
instance (priority := 1100) decidableForallMem {p : UInt16 → Prop} [DecidablePred p]
    (text : List UInt16) : Decidable (∀ unit ∈ text, p unit) := List.decidableBAll p text

/-- The units before a terminator. -/
structure CString where
  units : List UInt16
  noNul : 0 ∉ units
  deriving DecidableEq, Repr

instance : Inhabited CString := ⟨[], List.not_mem_nil⟩

/-! ## Numbers -/

/-- `std::to_wstring`, for an unsigned number -/
def decimal (n : Nat) : List UInt16 := (Nat.toDigits 10 n).map wideChar

def isSpace (unit : UInt16) : Bool := unit = 32 || (9 ≤ unit && unit ≤ 13)

def isDigit (unit : UInt16) : Bool := 48 ≤ unit && unit ≤ 57

def digitsValue (digits : List UInt16) : Nat :=
  digits.foldl (fun value unit => 10 * value + (unit.toNat - 48)) 0

/-- `wcstoul` and its kin, in base ten, for a type with a largest value: spaces, a sign, and digits;
none if nothing is converted. -/
def wcsto (max : Nat) (text : List UInt16) : Option Nat :=
  let text := text.dropWhile isSpace
  let negative := text.head? = some 45
  let text := if text.head? = some 43 ∨ text.head? = some 45 then text.tail else text
  let digits := text.takeWhile isDigit
  if digits = [] then none
  else if digitsValue digits > max then some max
  else if negative then some ((max + 1 - digitsValue digits) % (max + 1))
  else some (digitsValue digits)

theorem toNat_wideDigit {c : Char} (h : c.isDigit) : (wideChar c).toNat = c.toNat := by
  rw [wideChar, UInt16.toNat_ofNat']
  simp only [Char.isDigit, Bool.and_eq_true, decide_eq_true_eq, UInt32.le_iff_toNat_le] at h
  have hle : c.toNat ≤ 57 := h.2
  omega

theorem isDigit_wideChar {c : Char} (h : c.isDigit) : isDigit (wideChar c) = true := by
  have hunit := toNat_wideDigit h
  simp only [Char.isDigit, Bool.and_eq_true, decide_eq_true_eq, UInt32.le_iff_toNat_le] at h
  simp only [isDigit, Bool.and_eq_true, decide_eq_true_eq, UInt16.le_iff_toNat_le, hunit]
  exact h

theorem decimal_isDigit (n : Nat) : ∀ unit ∈ decimal n, isDigit unit = true := by
  intro unit hmem
  obtain ⟨c, hc, rfl⟩ := List.mem_map.mp hmem
  exact isDigit_wideChar (Nat.isDigit_of_mem_toDigits (by decide) (by decide) hc)

theorem decimal_ne_nil (n : Nat) : decimal n ≠ [] :=
  mt List.map_eq_nil_iff.mp Nat.toDigits_ne_nil

theorem digitsValue_map {digits : List Char} (h : ∀ c ∈ digits, c.isDigit) (value : Nat) :
    (digits.map wideChar).foldl (fun value unit => 10 * value + (unit.toNat - 48)) value =
      Nat.ofDigitChars 10 digits value := by
  induction digits generalizing value with
  | nil => rfl
  | cons c digits ih =>
    obtain ⟨hc, hdigits⟩ := List.forall_mem_cons.mp h
    rw [List.map_cons, List.foldl_cons, ih hdigits, toNat_wideDigit hc, Nat.ofDigitChars_cons]
    rfl

theorem digitsValue_decimal (n : Nat) : digitsValue (decimal n) = n := by
  have hdigits : ∀ c ∈ Nat.toDigits 10 n, c.isDigit :=
    fun c hc => Nat.isDigit_of_mem_toDigits (by decide) (by decide) hc
  rw [digitsValue, decimal, digitsValue_map hdigits, Nat.ofDigitChars_ten_toDigits]

theorem isDigit_cases {unit : UInt16} (h : isDigit unit = true) :
    isSpace unit = false ∧ unit ≠ 43 ∧ unit ≠ 45 := by
  simp only [isDigit, Bool.and_eq_true, decide_eq_true_eq, UInt16.le_iff_toNat_le] at h
  have hge : 48 ≤ unit.toNat := h.1
  refine ⟨?_, ?_, ?_⟩
  · have h₃₂ : unit ≠ 32 := by rintro rfl; exact absurd hge (by decide)
    have h₁₃ : ¬ unit ≤ 13 := by
      rw [UInt16.le_iff_toNat_le]
      show ¬ unit.toNat ≤ 13
      omega
    simp [isSpace, h₃₂, h₁₃]
  · rintro rfl
    exact absurd hge (by decide)
  · rintro rfl
    exact absurd hge (by decide)

/-- **A written number is read back**, whatever stands behind its digits. -/
theorem wcsto_decimal {n max : Nat} (hn : n ≤ max) {unit : UInt16} (hunit : isDigit unit = false)
    (text : List UInt16) : wcsto max (decimal n ++ unit :: text) = some n := by
  have htake : (decimal n ++ unit :: text).takeWhile isDigit = decimal n := by
    rw [List.takeWhile_append_of_pos (decimal_isDigit n),
      List.takeWhile_cons_of_neg (by simp [hunit]), List.append_nil]
  obtain ⟨first, more, hdecimal⟩ := List.exists_cons_of_ne_nil (decimal_ne_nil n)
  obtain ⟨hspace, hplus, hminus⟩ :=
    isDigit_cases (decimal_isDigit n first (hdecimal ▸ List.mem_cons_self))
  have hdrop : (decimal n ++ unit :: text).dropWhile isSpace = decimal n ++ unit :: text := by
    rw [hdecimal, List.cons_append, List.dropWhile_cons_of_neg (by simp [hspace])]
  have hhead : (decimal n ++ unit :: text).head? = some first := by
    rw [hdecimal]
    rfl
  have hpositive : ¬ some first = some (43 : UInt16) := by simp [hplus]
  have hnegative : ¬ some first = some (45 : UInt16) := by simp [hminus]
  have hlarge : ¬ n > max := Nat.not_lt.mpr hn
  simp only [wcsto, hdrop, hhead, hpositive, hnegative, or_self, htake, decimal_ne_nil,
    digitsValue_decimal, hlarge, if_false]

end WideText
