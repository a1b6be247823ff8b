/-
  How a Windows command line is split into the arguments behind the program's name (the rules of
  `CommandLineToArgvW`).

  * `splitFrom` is the splitter in the middle of a line: the argument so far, whether quotes are
    open, and how many backslashes were just read;
  * `Reads` says what a piece of a line is read as; `splitArguments_join`: pieces with spaces
    between them are read as their arguments.
-/
import Mathlib.Data.UInt
import Mathlib.Tactic.SplitIfs

namespace CommandLine

def space : UInt16 := 32
def tab : UInt16 := 9
def quote : UInt16 := 34
def backslash : UInt16 := 92

/-- The rest of a line. Of the backslashes before a quote every two are one, and an odd one makes
the quote a character; otherwise a quote opens or closes, and backslashes are themselves. Spaces and
tabs end an argument where quotes are not open. -/
def splitFrom (current : Option (List UInt16)) (inQuotes : Bool) (backslashes : Nat) :
    List UInt16 → List (List UInt16)
  | [] => (current.map fun argument => argument ++ List.replicate backslashes backslash).toList
  | character :: rest =>
    if character = backslash then
      splitFrom (some (current.getD [])) inQuotes (backslashes + 1) rest
    else if character = quote then
      let argument := current.getD [] ++ List.replicate (backslashes / 2) backslash
      if backslashes % 2 = 0 then splitFrom (some argument) (!inQuotes) 0 rest
      else splitFrom (some (argument ++ [quote])) inQuotes 0 rest
    else if (character = space ∨ character = tab) ∧ ¬ inQuotes then
      (current.map fun argument => argument ++ List.replicate backslashes backslash).toList ++
        splitFrom none false 0 rest
    else
      splitFrom (some (current.getD [] ++ List.replicate backslashes backslash ++ [character]))
        inQuotes 0 rest

/-- The arguments of a line behind the program's name -/
def splitArguments (line : List UInt16) : List (List UInt16) := splitFrom none false 0 line

/-! ## Characters -/

section
variable (current : Option (List UInt16)) (inQuotes : Bool) (backslashes : Nat)
  (rest : List UInt16)

theorem splitFrom_backslash :
    splitFrom current inQuotes backslashes (backslash :: rest) =
      splitFrom (some (current.getD [])) inQuotes (backslashes + 1) rest :=
  if_pos rfl

theorem splitFrom_backslashes (argument : List UInt16) (count : Nat) :
    splitFrom (some argument) inQuotes backslashes (List.replicate count backslash ++ rest) =
      splitFrom (some argument) inQuotes (backslashes + count) rest := by
  induction count generalizing backslashes with
  | zero => rfl
  | succ count ih =>
    rw [List.replicate_succ, List.cons_append, splitFrom_backslash, Option.getD_some, ih]
    congr 1
    omega

theorem splitFrom_even (argument : List UInt16) :
    splitFrom (some argument) inQuotes 0
        (List.replicate (backslashes * 2) backslash ++ quote :: rest) =
      splitFrom (some (argument ++ List.replicate backslashes backslash)) (!inQuotes) 0 rest := by
  rw [splitFrom_backslashes, splitFrom, if_neg (by decide), if_pos rfl]
  simp only [Option.getD_some]
  rw [if_pos (by omega), show (0 + backslashes * 2) / 2 = backslashes by omega]

theorem splitFrom_odd (argument : List UInt16) :
    splitFrom (some argument) inQuotes 0
        (List.replicate (backslashes * 2 + 1) backslash ++ quote :: rest) =
      splitFrom (some (argument ++ List.replicate backslashes backslash ++ [quote])) inQuotes 0
        rest := by
  rw [splitFrom_backslashes, splitFrom, if_neg (by decide), if_pos rfl]
  simp only [Option.getD_some]
  rw [if_neg (by omega), show (0 + (backslashes * 2 + 1)) / 2 = backslashes by omega]

/-- A character that is no quote and does not end the argument takes the backslashes before it
along. -/
theorem splitFrom_character {character : UInt16} (hbackslash : character ≠ backslash)
    (hquote : character ≠ quote)
    (hinside : ¬ ((character = space ∨ character = tab) ∧ ¬ inQuotes)) :
    splitFrom current inQuotes backslashes (character :: rest) =
      splitFrom (some (current.getD [] ++ List.replicate backslashes backslash ++ [character]))
        inQuotes 0 rest := by
  rw [splitFrom, if_neg hbackslash, if_neg hquote, if_neg hinside]

end

/-! ## Pieces -/

/-- The line is at its end or at a space. -/
def AtSpace (line : List UInt16) : Prop := ∀ character ∈ line.head?, character = space

/-- A piece of a line is read as the argument, where it ends or a space follows. -/
def Reads (piece argument : List UInt16) : Prop :=
  ∀ rest, AtSpace rest → splitArguments (piece ++ rest) = argument :: splitArguments rest

theorem splitFrom_atSpace (argument : List UInt16) (backslashes : Nat) {rest : List UInt16}
    (h : AtSpace rest) :
    splitFrom (some argument) false backslashes rest =
      (argument ++ List.replicate backslashes backslash) :: splitArguments rest := by
  cases rest with
  | nil => rfl
  | cons character rest =>
    obtain rfl : character = space := h character rfl
    have hspace : (space = space ∨ space = tab) ∧ ¬ (false : Bool) = true := by decide
    rw [splitArguments, splitFrom, splitFrom, if_neg (by decide), if_neg (by decide),
      if_pos hspace, if_neg (by decide), if_neg (by decide), if_pos hspace]
    rfl

/-- **A joined line** is split into the arguments of its pieces. -/
theorem splitArguments_join {pieces arguments : List (List UInt16)}
    (h : List.Forall₂ Reads pieces arguments) :
    splitArguments (List.intercalate [space] pieces) = arguments := by
  induction h with
  | nil => rfl
  | @cons piece argument pieces arguments hpiece hpieces ih =>
    cases pieces with
    | nil =>
      cases hpieces
      have hlast := hpiece [] (by simp [AtSpace])
      rw [List.append_nil] at hlast
      rw [show List.intercalate [space] [piece] = piece by simp [List.intercalate], hlast]
      rfl
    | cons next pieces =>
      have hline : List.intercalate [space] (piece :: next :: pieces) =
          piece ++ space :: List.intercalate [space] (next :: pieces) := by
        simp [List.intercalate]
      have hspace : splitArguments (space :: List.intercalate [space] (next :: pieces)) =
          splitArguments (List.intercalate [space] (next :: pieces)) := by
        conv_lhs => rw [splitArguments, splitFrom, if_neg (by decide), if_neg (by decide),
          if_pos (by decide)]
        rfl
      rw [hline, hpiece _ (by simp [AtSpace]), hspace, ih]

end CommandLine
