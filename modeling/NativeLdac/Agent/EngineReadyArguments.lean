/-
  The arguments of the engine's command line (`QuoteCommandLineArgument` in
  `agent/v1_engine_ready_host.cpp`): quoted and joined with spaces, they are split back.
-/
import NativeLdac.Lib.CommandLine
import NativeLdac.Lib.WideText

namespace NativeLdac.Agent

open CommandLine WideText

/-- The loop of `QuoteCommandLineArgument`: what is quoted so far, the backslashes after it, and the
rest of the argument. -/
def quoteLoop (quoted : List UInt16) (backslashes : Nat) : List UInt16 → List UInt16
  | [] => quoted ++ List.replicate (backslashes * 2) backslash ++ [quote]
  | character :: rest =>
    if character = backslash then quoteLoop quoted (backslashes + 1) rest
    else if character = quote then
      quoteLoop (quoted ++ List.replicate (backslashes * 2 + 1) backslash ++ [quote]) 0 rest
    else quoteLoop (quoted ++ List.replicate backslashes backslash ++ [character]) 0 rest

def quoteCommandLineArgument (argument : List UInt16) : List UInt16 :=
  if argument = [] then [quote, quote]
  else if ∀ character ∈ argument, character ∉ [space, tab, quote] then argument
  else quoteLoop [quote] 0 argument

/-! ## Quoted arguments -/

theorem quoteLoop_append (quoted : List UInt16) (backslashes : Nat) (argument : List UInt16) :
    quoteLoop quoted backslashes argument = quoted ++ quoteLoop [] backslashes argument := by
  induction argument generalizing quoted backslashes with
  | nil => simp [quoteLoop]
  | cons character rest ih =>
    rw [quoteLoop, quoteLoop]
    split_ifs
    · exact ih quoted (backslashes + 1)
    · rw [ih, ih ([] ++ _ ++ _)]
      simp
    · rw [ih, ih ([] ++ _ ++ _)]
      simp

/-- **The two runs agree**: in quotes the splitter takes what the loop writes for the rest of the
argument, with the backslashes that the loop holds back. -/
theorem splitFrom_quoteLoop (current : List UInt16) (backslashes : Nat)
    (argument rest : List UInt16) :
    splitFrom (some current) true 0 (quoteLoop [] backslashes argument ++ rest) =
      splitFrom (some (current ++ List.replicate backslashes backslash ++ argument)) false 0
        rest := by
  induction argument generalizing current backslashes with
  | nil =>
    rw [quoteLoop, List.nil_append, List.append_assoc, List.singleton_append, splitFrom_even,
      List.append_nil]
    rfl
  | cons character argument ih =>
    rw [quoteLoop]
    split_ifs with hbackslash hquote
    · rw [ih, hbackslash, List.replicate_succ']
      simp
    · rw [quoteLoop_append, List.nil_append, List.append_assoc, List.append_assoc,
        List.singleton_append, splitFrom_odd, ih, hquote]
      simp
    · rw [quoteLoop_append, List.nil_append, List.append_assoc, List.append_assoc,
        List.singleton_append, splitFrom_backslashes,
        splitFrom_character _ _ _ _ hbackslash hquote (by simp), ih]
      simp

theorem reads_quoted (argument : List UInt16) :
    CommandLine.Reads (quoteLoop [quote] 0 argument) argument := by
  intro rest hrest
  have hopen : splitArguments (quoteLoop [quote] 0 argument ++ rest) =
      splitFrom (some []) true 0 (quoteLoop [] 0 argument ++ rest) := by
    rw [quoteLoop_append, List.append_assoc, List.singleton_append, splitArguments, splitFrom,
      if_neg (by decide), if_pos rfl]
    rfl
  rw [hopen, splitFrom_quoteLoop, splitFrom_atSpace _ _ hrest]
  simp

/-! ## Plain arguments -/

theorem splitFrom_plain {argument : List UInt16}
    (h : ∀ character ∈ argument, character ∉ [space, tab, quote]) (current : List UInt16)
    (backslashes : Nat) {rest : List UInt16} (hrest : AtSpace rest) :
    splitFrom (some current) false backslashes (argument ++ rest) =
      (current ++ List.replicate backslashes backslash ++ argument) :: splitArguments rest := by
  induction argument generalizing current backslashes with
  | nil => rw [List.nil_append, splitFrom_atSpace _ _ hrest, List.append_nil]
  | cons character argument ih =>
    obtain ⟨hcharacter, hargument⟩ := List.forall_mem_cons.mp h
    by_cases hbackslash : character = backslash
    · rw [hbackslash, List.cons_append, splitFrom_backslash, Option.getD_some, ih hargument,
        List.replicate_succ']
      simp
    · simp only [List.mem_cons, List.not_mem_nil, or_false, not_or] at hcharacter
      rw [List.cons_append, splitFrom_character _ _ _ _ hbackslash hcharacter.2.2
        (by simp [hcharacter.1, hcharacter.2.1]), ih hargument]
      simp

theorem reads_plain {argument : List UInt16} (hne : argument ≠ [])
    (h : ∀ character ∈ argument, character ∉ [space, tab, quote]) :
    CommandLine.Reads argument argument := by
  intro rest hrest
  -- at its first character the argument begins
  have hbegin : splitArguments (argument ++ rest) =
      splitFrom (some []) false 0 (argument ++ rest) := by
    obtain ⟨character, more, rfl⟩ := List.exists_cons_of_ne_nil hne
    have hcharacter := h character List.mem_cons_self
    simp only [List.mem_cons, List.not_mem_nil, or_false, not_or] at hcharacter
    rw [splitArguments, List.cons_append, splitFrom, splitFrom]
    simp [hcharacter]
  rw [hbegin, splitFrom_plain h [] 0 hrest]
  rfl

theorem reads_quoteCommandLineArgument (argument : List UInt16) :
    CommandLine.Reads (quoteCommandLineArgument argument) argument := by
  rw [quoteCommandLineArgument]
  split_ifs with hempty hplain
  · rw [hempty]
    intro rest hrest
    exact splitFrom_atSpace [] 0 hrest
  · exact reads_plain hempty hplain
  · exact reads_quoted argument

/-- **Quoted and split**: the arguments, quoted and joined with single spaces, are split back into
the same arguments. -/
theorem splitArguments_quoted (arguments : List CString) :
    splitArguments (List.intercalate [space]
        (arguments.map fun argument => quoteCommandLineArgument argument.units)) =
      arguments.map CString.units := by
  apply splitArguments_join
  rw [List.forall₂_map_left_iff, List.forall₂_map_right_iff, List.forall₂_same]
  exact fun argument _ => reads_quoteCommandLineArgument argument.units

end NativeLdac.Agent
