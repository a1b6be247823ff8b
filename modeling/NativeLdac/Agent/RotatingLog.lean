/-
  The agent's log (`RotatingLog` and `WriteAll` in `agent/runtime_support.cpp`): a file that is
  appended to, and moved through a chain of backups when a record would not fit.

  * the files are numbered as their backup paths, the current one is 0; `fails` says which of a
    call's operations fail (a file that is not there fails none);
  * `rotate_ok`: a rotation without a failure drops the oldest file and moves each other one on;
  * `Holds` says which data is in which file, and `holds_after` that no record is lost but with
    the oldest file, for runs without a failure;
  * a failed rotation leaves the log closed, and closed it stays.

  Sizes are natural numbers: no file is near 2^64 bytes.
-/
import Mathlib.Algebra.Group.Nat.Defs
import Mathlib.Data.List.Infix
import Mathlib.Logic.Function.Basic
import Mathlib.Tactic.SplitIfs
import NativeLdac.Lib.Reducer

namespace NativeLdac.Agent

/-- The current file is 0, the others are the backups. -/
abbrev LogFiles := Nat → Option (List UInt8)

/-- The operations of a rotation -/
inductive FileOp where
  | delete (index : Nat)
  | move (source destination : Nat)
  | create
  | size
  deriving DecidableEq, Repr

structure RotatingLog where
  /-- `handle_` is valid -/
  handle : Bool := false
  currentSize : Nat := 0
  maxBytes : Nat
  backupCount : Nat
  deriving DecidableEq, Repr

structure LogState where
  log : RotatingLog
  files : LogFiles

/-! ## Rotation -/

section
variable (fails : FileOp → Bool)

/-- `DeleteFileW`, as its result is taken -/
def deleteFile (index : Nat) (files : LogFiles) : Bool × LogFiles :=
  if fails (.delete index) then (false, files) else (true, Function.update files index none)

/-- `MoveFileExW`, as its result is taken -/
def moveFile (source destination : Nat) (files : LogFiles) : Bool × LogFiles :=
  if fails (.move source destination) then (false, files)
  else
    match files source with
    | none => (true, files)
    | some data =>
      (true, Function.update (Function.update files destination (some data)) source none)

/-- The loop of `RotatingLog::Rotate`, from an index down -/
def moveBackups : Nat → LogFiles → Bool × LogFiles
  | index + 2, files =>
    let moved := moveFile fails (index + 1) (index + 2) files
    if moved.1 then moveBackups (index + 1) moved.2 else moved
  | _, files => (true, files)

/-- `RotatingLog::Rotate`, between closing and opening -/
def shiftFiles (backupCount : Nat) (files : LogFiles) : Bool × LogFiles :=
  if backupCount = 0 then deleteFile fails 0 files
  else
    let deleted := deleteFile fails backupCount files
    if ¬ deleted.1 then deleted
    else
      let moved := moveBackups fails backupCount deleted.2
      if ¬ moved.1 then moved else moveFile fails 0 1 moved.2

def RotatingLog.close (log : RotatingLog) : RotatingLog :=
  { log with handle := false, currentSize := 0 }

namespace LogState

variable (s : LogState)

def current : List UInt8 := (s.files 0).getD []

def openCurrent : Bool × LogState :=
  if fails .create then (false, { s with log := { s.log with handle := false } })
  else
    let files := Function.update s.files 0 (some s.current)
    if fails .size then (false, ⟨{ s.log with handle := false }, files⟩)
    else (true, ⟨{ s.log with handle := true, currentSize := s.current.length }, files⟩)

def rotate : Bool × LogState :=
  let shifted := shiftFiles fails s.log.backupCount s.files
  if shifted.1 then openCurrent fails ⟨s.log.close, shifted.2⟩
  else (false, ⟨s.log.close, shifted.2⟩)

end LogState

/-- A log that is not open yet -/
def closedLog (maxBytes backupCount : Nat) (files : LogFiles) : LogState :=
  ⟨{ maxBytes := maxBytes, backupCount := backupCount }, files⟩

/-- `RotatingLog::Open`; `parentReady` is the result of `EnsureParentDirectory`. -/
def openLog (parentReady : Bool) (maxBytes backupCount : Nat) (files : LogFiles) :
    Bool × LogState :=
  let closed := closedLog maxBytes backupCount files
  if ¬ parentReady then (false, closed)
  else
    let opened := closed.openCurrent fails
    if ¬ opened.1 then opened
    else if maxBytes ≠ 0 ∧ opened.2.log.currentSize ≥ maxBytes then opened.2.rotate fails
    else opened

end

/-! ## Writes -/

/-- `WriteAll`, with the answers of `WriteFile`: how many bytes each call writes, none if it
    fails -/
def writeAll : List Nat → List UInt8 → Bool × List UInt8
  | [], data => (data = [], [])
  | answer :: answers, data =>
    let count := min answer (min data.length (2 ^ 32 - 1))
    if data = [] then (true, [])
    else if count = 0 then (false, [])
    else
      let rest := writeAll answers (data.drop count)
      (rest.1, data.take count ++ rest.2)

/-- A call of `RotatingLog::Write`, with what the system answers it -/
structure LogWrite where
  data : List UInt8
  fails : FileOp → Bool
  answers : List Nat

namespace LogState

variable (s : LogState) (w : LogWrite)

/-- The record does not fit behind the others. -/
def Overflows : Prop :=
  s.log.maxBytes ≠ 0 ∧ s.log.currentSize ≠ 0 ∧
    w.data.length > s.log.maxBytes - min s.log.currentSize s.log.maxBytes

instance : Decidable (s.Overflows w) := inferInstanceAs (Decidable (_ ∧ _))

/-- `RotatingLog::Write`, behind the rotation -/
def writeRecord : Bool × LogState :=
  let written := writeAll w.answers w.data
  let files := Function.update s.files 0 (some (s.current ++ written.2))
  if written.1 then
    (true, ⟨{ s.log with currentSize := s.log.currentSize + w.data.length }, files⟩)
  else (false, ⟨s.log, files⟩)

def write : Bool × LogState :=
  if ¬ s.log.handle then (false, s)
  else if w.data = [] then (true, s)
  else if s.Overflows w then
    let rotated := s.rotate w.fails
    if ¬ rotated.1 then rotated else rotated.2.writeRecord w
  else s.writeRecord w

end LogState

def rotatingLog : Reducer LogState LogWrite Bool where
  step s w := s.write w

/-! ## What a rotation does -/

/-- The moves of the loop, from an index down -/
def backupMoves : Nat → List FileOp
  | index + 2 => .move (index + 1) (index + 2) :: backupMoves (index + 1)
  | _ => []

/-- The operations that move the files of a log -/
def shiftOps (backupCount : Nat) : List FileOp :=
  if backupCount = 0 then [.delete 0]
  else .delete backupCount :: (backupMoves backupCount ++ [.move 0 1])

/-- The operations of a rotation, in order -/
def rotationOps (backupCount : Nat) : List FileOp := shiftOps backupCount ++ [.create, .size]

section
variable {fails : FileOp → Bool} {files : LogFiles}

theorem deleteFile_ok (index : Nat) :
    (deleteFile fails index files).1 = true ↔ fails (.delete index) = false := by
  rw [deleteFile]
  split_ifs with h <;> simp [h]

theorem moveFile_ok (source destination : Nat) :
    (moveFile fails source destination files).1 = true ↔
      fails (.move source destination) = false := by
  rw [moveFile]
  split_ifs with h
  · simp [h]
  · cases files source <;> simp [h]

theorem moveFile_files {source destination : Nat} (hfree : files destination = none)
    (hne : source ≠ destination) (h : (moveFile fails source destination files).1 = true) :
    (moveFile fails source destination files).2 = fun index =>
      if index = destination then files source else if index = source then none
      else files index := by
  rw [moveFile] at h ⊢
  split_ifs at h ⊢
  funext index
  cases hsource : files source with
  | none =>
    by_cases hd : index = destination
    · simp [hd, hfree]
    · by_cases hs : index = source
      · simp [hs, hsource]
      · simp [hd, hs]
  | some data =>
    by_cases hs : index = source
    · simp [hs, hne]
    · by_cases hd : index = destination
      · subst hd
        simp [hs]
      · simp [hd, hs]

theorem moveBackups_ok (index : Nat) :
    (moveBackups fails index files).1 = true ↔ ∀ op ∈ backupMoves index, fails op = false := by
  induction index using Nat.twoStepInduction generalizing files with
  | zero => simp [moveBackups, backupMoves]
  | one => simp [moveBackups, backupMoves]
  | more index _ ih =>
    rw [moveBackups, backupMoves, List.forall_mem_cons, ← @moveFile_ok fails files]
    split_ifs with hmoved
    · rw [ih, and_iff_right hmoved]
    · exact ⟨fun h => absurd h hmoved, fun h => absurd h.1 hmoved⟩

theorem moveBackups_files {index : Nat} (hpos : index ≠ 0) (hfree : files index = none)
    (h : (moveBackups fails index files).1 = true) :
    (moveBackups fails index files).2 = fun i =>
      if i = 1 then none else if 2 ≤ i ∧ i ≤ index then files (i - 1) else files i := by
  induction index using Nat.twoStepInduction generalizing files with
  | zero => exact absurd rfl hpos
  | one =>
    funext i
    by_cases hi : i = 1
    · rw [if_pos hi, hi]
      exact hfree
    · rw [if_neg hi, if_neg (by omega)]
      rfl
  | more index _ ih =>
    rw [moveBackups] at h ⊢
    split_ifs at h ⊢ with hmoved
    · have hfiles := moveFile_files hfree (by omega) hmoved
      rw [ih (by omega) (by rw [hfiles]; simp) h, hfiles]
      funext i
      dsimp only
      by_cases hone : i = 1
      · simp [hone]
      · rw [if_neg hone, if_neg hone]
        by_cases hinside : 2 ≤ i ∧ i ≤ index + 1
        · rw [if_pos hinside, if_neg (by omega), if_neg (by omega), if_pos (by omega)]
        · rw [if_neg hinside]
          by_cases hlast : i = index + 2
          · rw [if_pos hlast, if_pos (by omega), hlast]
            rfl
          · rw [if_neg hlast, if_neg (by omega), if_neg (by omega)]
    · exact absurd h hmoved

theorem shiftFiles_ok (backupCount : Nat) :
    (shiftFiles fails backupCount files).1 = true ↔
      ∀ op ∈ shiftOps backupCount, fails op = false := by
  rw [shiftFiles, shiftOps]
  by_cases hnone : backupCount = 0
  · rw [if_pos hnone, if_pos hnone, deleteFile_ok, List.forall_mem_singleton]
  rw [if_neg hnone, if_neg hnone, List.forall_mem_cons, List.forall_mem_append,
    List.forall_mem_singleton, ← @deleteFile_ok fails files]
  by_cases hdeleted : (deleteFile fails backupCount files).1 = true
  · rw [← @moveBackups_ok fails (deleteFile fails backupCount files).2]
    by_cases hmoved :
        (moveBackups fails backupCount (deleteFile fails backupCount files).2).1 = true
    · simp [hdeleted, hmoved, moveFile_ok]
    · simp [hdeleted, hmoved]
  · simp [hdeleted]

theorem shiftFiles_files {backupCount : Nat} (h : (shiftFiles fails backupCount files).1 = true) :
    (shiftFiles fails backupCount files).2 = fun i =>
      if i = 0 then none else if i ≤ backupCount then files (i - 1) else files i := by
  rw [shiftFiles] at h ⊢
  by_cases hnone : backupCount = 0
  · rw [if_pos hnone, deleteFile] at h ⊢
    split_ifs at h ⊢
    funext i
    by_cases hi : i = 0
    · simp [hi]
    · simp [hi, hnone]
  rw [if_neg hnone] at h ⊢
  by_cases hdeleted : (deleteFile fails backupCount files).1 = true
  · by_cases hmoved :
        (moveBackups fails backupCount (deleteFile fails backupCount files).2).1 = true
    · simp only [hdeleted, hmoved, not_true_eq_false, if_false] at h ⊢
      have hgone : (deleteFile fails backupCount files).2 =
          Function.update files backupCount none := by
        rw [deleteFile, if_neg (by simp [(deleteFile_ok backupCount).mp hdeleted])]
      have hbackups := moveBackups_files hnone (by rw [hgone]; simp) hmoved
      rw [moveFile_files (by rw [hbackups]; simp) (by decide) h, hbackups, hgone]
      funext i
      simp only [Function.update_apply]
      rcases (by omega : i = 0 ∨ i = 1 ∨ 2 ≤ i) with rfl | rfl | hi
      · rfl
      · simp [Ne.symm hnone, Nat.one_le_iff_ne_zero, hnone]
      · have hne : i ≠ 0 ∧ i ≠ 1 := by omega
        by_cases hinside : i ≤ backupCount
        · have hbefore : i - 1 ≠ backupCount := by omega
          simp [hne, hi, hinside, hbefore]
        · have hbehind : i ≠ backupCount := by omega
          simp [hne, hinside, hbehind]
    · simp only [hdeleted, hmoved, not_true_eq_false, if_false] at h
      exact absurd h hmoved
  · simp only [hdeleted] at h
    exact absurd h hdeleted

end

/-- The data of the backups, the oldest first -/
def backups (files : LogFiles) : Nat → List (List UInt8)
  | 0 => []
  | count + 1 => (files (count + 1)).getD [] :: backups files count

theorem backups_congr {files files' : LogFiles} (h : ∀ i, i ≠ 0 → files' i = files i)
    (count : Nat) : backups files' count = backups files count := by
  induction count with
  | zero => rfl
  | succ count ih => rw [backups, backups, h _ (Nat.succ_ne_zero count), ih]

theorem backups_moved {files files' : LogFiles} {backupCount : Nat}
    (h : ∀ i, i ≠ 0 → i ≤ backupCount → files' i = files (i - 1)) :
    backups files' backupCount =
      (backups files backupCount ++ [(files 0).getD []]).tail := by
  induction backupCount with
  | zero => rfl
  | succ count ih =>
    rw [backups, ih fun i hi hle => h i hi (Nat.le_succ_of_le hle),
      h _ (Nat.succ_ne_zero count) (Nat.le_refl _), Nat.succ_sub_one, backups, List.cons_append,
      List.tail_cons]
    cases count with
    | zero => rfl
    | succ count => rfl

namespace LogState

variable {fails : FileOp → Bool} {s : LogState}

theorem openCurrent_ok :
    (s.openCurrent fails).1 = true ↔ fails .create = false ∧ fails .size = false := by
  rw [openCurrent]
  split_ifs with hcreate hsize <;> simp [*]

theorem openCurrent_eq (h : (s.openCurrent fails).1 = true) :
    (s.openCurrent fails).2 =
      ⟨{ s.log with handle := true, currentSize := s.current.length },
        Function.update s.files 0 (some s.current)⟩ := by
  obtain ⟨hcreate, hsize⟩ := openCurrent_ok.mp h
  simp [openCurrent, hcreate, hsize]

theorem rotate_ok :
    (s.rotate fails).1 = true ↔ ∀ op ∈ rotationOps s.log.backupCount, fails op = false := by
  rw [rotate, rotationOps, List.forall_mem_append, ← @shiftFiles_ok fails s.files]
  by_cases hshifted : (shiftFiles fails s.log.backupCount s.files).1 = true
  · simp [hshifted, openCurrent_ok]
  · simp [hshifted]

/-- **A rotation**: the files have moved on, and the current one is empty. -/
structure Rotated (s s' : LogState) : Prop where
  backups : backups s'.files s.log.backupCount =
    (backups s.files s.log.backupCount ++ [s.current]).tail
  files : s'.files 0 = some []
  log : s'.log = { s.log with handle := true, currentSize := 0 }

theorem rotate_rotated (h : (s.rotate fails).1 = true) : Rotated s (s.rotate fails).2 := by
  rw [rotate] at h ⊢
  by_cases hshifted : (shiftFiles fails s.log.backupCount s.files).1 = true
  · simp only [hshifted, if_true] at h ⊢
    have hfiles := shiftFiles_files hshifted
    have hcurrent : (⟨s.log.close, (shiftFiles fails s.log.backupCount s.files).2⟩ :
        LogState).current = [] := by
      rw [current, hfiles]
      rfl
    rw [openCurrent_eq h, hcurrent]
    refine ⟨backups_moved fun i hi hle => ?_, by simp, rfl⟩
    dsimp only
    rw [Function.update_of_ne hi, hfiles]
    simp [hi, hle]
  · simp only [hshifted] at h
    cases h

theorem rotate_closed (h : ¬ (s.rotate fails).1 = true) :
    (s.rotate fails).2.log.handle = false := by
  rw [rotate] at h ⊢
  by_cases hshifted : (shiftFiles fails s.log.backupCount s.files).1 = true
  · simp only [hshifted, if_true] at h ⊢
    rw [openCurrent] at h ⊢
    split_ifs at h ⊢
    · rfl
    · rfl
    · exact absurd rfl h
  · simp only [hshifted]
    rfl

end LogState

theorem writeAll_ok {answers : List Nat} {data : List UInt8}
    (h : (writeAll answers data).1 = true) : (writeAll answers data).2 = data := by
  induction answers generalizing data with
  | nil => exact (of_decide_eq_true h).symm
  | cons answer answers ih =>
    rw [writeAll] at h ⊢
    dsimp only at h ⊢
    split_ifs at h ⊢ with hdata hcount
    · exact hdata.symm
    · rw [ih h, List.take_append_drop]

/-! ## Which data is in which file -/

/-- Data that a log found when it was opened, or a record -/
inductive LogChunk where
  | found (data : List UInt8)
  | record (data : List UInt8)
  deriving DecidableEq, Repr

def LogChunk.data : LogChunk → List UInt8
  | found data | record data => data

def chunkData (part : List LogChunk) : List UInt8 := part.flatMap LogChunk.data

/-- The part has no more than the limit, or is a single record. -/
def Bounded (maxBytes : Nat) (part : List LogChunk) : Prop :=
  maxBytes ≠ 0 → (chunkData part).length ≤ maxBytes ∨
    ∃ data, .record data ∈ part ∧ chunkData part = data

/-- **What the files hold**: the backups, the oldest first, and the current file are parts of all
data, cut between chunks; nothing is missing at the end, and a part with a record is bounded. -/
structure Holds (s : LogState) (chunks : List LogChunk) (parts : List (List LogChunk))
    (last : List LogChunk) : Prop where
  backups : backups s.files s.log.backupCount = parts.map chunkData
  current : s.files 0 = some (chunkData last)
  suffix : parts.flatten ++ last <:+ chunks
  bounded : ∀ part ∈ parts ++ [last], (∃ data, .record data ∈ part) → Bounded s.log.maxBytes part

/-- The log is open and knows the size of its file, which is bounded also without a record. -/
structure Running (s : LogState) (chunks : List LogChunk) (parts : List (List LogChunk))
    (last : List LogChunk) : Prop extends Holds s chunks parts last where
  handle : s.log.handle = true
  size : s.log.currentSize = s.current.length
  lastBounded : Bounded s.log.maxBytes last

section
variable {s s' : LogState} {chunks : List LogChunk} {parts : List (List LogChunk)}
  {last : List LogChunk}

theorem Holds.current_eq (h : Holds s chunks parts last) : s.current = chunkData last := by
  rw [LogState.current, h.current]
  rfl

theorem Holds.rotated (h : Holds s chunks parts last) (hrotated : LogState.Rotated s s') :
    Running s' chunks (parts ++ [last]).tail [] where
  backups := by
    rw [hrotated.log, hrotated.backups, h.backups, h.current_eq, List.map_tail, List.map_append]
    rfl
  current := hrotated.files
  suffix := by
    have htail : (parts ++ [last]).tail.flatten <:+ (parts ++ [last]).flatten := by
      cases parts with
      | nil => exact List.nil_suffix
      | cons part parts => exact List.suffix_append _ _
    rw [List.append_nil]
    refine htail.trans ?_
    rw [List.flatten_append, List.flatten_singleton]
    exact h.suffix
  bounded := by
    intro part hpart hrecord
    rw [hrotated.log]
    rcases List.mem_append.mp hpart with hpart | hpart
    · exact h.bounded part (List.mem_of_mem_tail hpart) hrecord
    · obtain ⟨data, hdata⟩ := hrecord
      rw [List.mem_singleton.mp hpart] at hdata
      exact absurd hdata List.not_mem_nil
  handle := by rw [hrotated.log]
  size := by
    rw [hrotated.log, LogState.current, hrotated.files]
    rfl
  lastBounded := fun _ => .inl (Nat.zero_le _)

theorem Holds.append (h : Holds s chunks parts last) {data : List UInt8}
    (hbackups : NativeLdac.Agent.backups s'.files s.log.backupCount =
      NativeLdac.Agent.backups s.files s.log.backupCount)
    (hcurrent : s'.files 0 = some (s.current ++ data))
    (hlog : s'.log.maxBytes = s.log.maxBytes ∧ s'.log.backupCount = s.log.backupCount)
    (hfits : Bounded s.log.maxBytes (last ++ [.record data])) :
    Holds s' (chunks ++ [.record data]) parts (last ++ [.record data]) where
  backups := by rw [hlog.2, hbackups, h.backups]
  current := by
    rw [hcurrent, h.current_eq]
    simp [chunkData, LogChunk.data]
  suffix := by
    obtain ⟨front, hfront⟩ := h.suffix
    exact ⟨front, by rw [← hfront]; simp⟩
  bounded := by
    rw [hlog.1]
    intro part hpart hrecord
    rcases List.mem_append.mp hpart with hpart | hpart
    · exact h.bounded part (List.mem_append_left _ hpart) hrecord
    · rw [List.mem_singleton.mp hpart]
      exact hfits

end

/-! ## Runs without a failure -/

namespace LogState

variable {s : LogState} {w : LogWrite}

/-- The call rotates the log. -/
def Rotates (s : LogState) (w : LogWrite) : Prop :=
  s.log.handle = true ∧ w.data ≠ [] ∧ s.Overflows w

/-- None of the operations on files fails that the call comes to. -/
structure OperationsSucceed (s : LogState) (w : LogWrite) : Prop where
  rotation : s.Rotates w → ∀ op ∈ rotationOps s.log.backupCount, w.fails op = false
  write : (writeAll w.answers w.data).1 = true

theorem writeRecord_eq (h : (writeAll w.answers w.data).1 = true) :
    s.writeRecord w =
      (true, ⟨{ s.log with currentSize := s.log.currentSize + w.data.length },
        Function.update s.files 0 (some (s.current ++ w.data))⟩) := by
  rw [writeRecord]
  simp only [h, if_true, writeAll_ok h]

end LogState

section
variable {s : LogState} {w : LogWrite} {chunks : List LogChunk} {parts : List (List LogChunk)}
  {last : List LogChunk}

theorem Running.writeRecord (h : Running s chunks parts last) (hdata : w.data ≠ [])
    (hwrite : (writeAll w.answers w.data).1 = true) (hroom : ¬ s.Overflows w) :
    Running (s.writeRecord w).2 (chunks ++ [.record w.data]) parts (last ++ [.record w.data]) := by
  have hlast : chunkData (last ++ [.record w.data]) = s.current ++ w.data := by
    rw [h.current_eq]
    simp [chunkData, LogChunk.data]
  have hfits : Bounded s.log.maxBytes (last ++ [.record w.data]) := by
    intro hmax
    rw [hlast]
    by_cases hempty : s.log.currentSize = 0
    · right
      have hnil : s.current = [] := List.length_eq_zero_iff.mp (h.size.symm.trans hempty)
      exact ⟨w.data, List.mem_append_right _ List.mem_cons_self, by rw [hnil, List.nil_append]⟩
    · left
      have hpos := List.length_pos_iff.mpr hdata
      have hsize := h.size
      have hle : ¬ w.data.length > s.log.maxBytes - min s.log.currentSize s.log.maxBytes :=
        fun hover => hroom ⟨hmax, hempty, hover⟩
      rw [List.length_append]
      omega
  rw [LogState.writeRecord_eq hwrite]
  refine ⟨h.append ?_ (by simp) ⟨rfl, rfl⟩ hfits, h.handle, ?_, hfits⟩
  · exact backups_congr (fun i hi => Function.update_of_ne hi _ _) _
  · simp [LogState.current, h.size]

theorem Running.empty (h : Running s chunks parts last) :
    Running s (chunks ++ [.record []]) parts (last ++ [.record []]) := by
  have hlast : chunkData (last ++ [.record []]) = chunkData last := by
    simp [chunkData, LogChunk.data]
  have hfits : Bounded s.log.maxBytes (last ++ [.record []]) := by
    intro hmax
    rw [hlast]
    rcases h.lastBounded hmax with hle | ⟨data, hmem, heq⟩
    · exact .inl hle
    · exact .inr ⟨data, List.mem_append_left _ hmem, heq⟩
  refine ⟨h.append rfl ?_ ⟨rfl, rfl⟩ hfits, h.handle, h.size, hfits⟩
  rw [List.append_nil, h.current_eq]
  exact h.current

theorem Running.write (h : Running s chunks parts last) (hops : s.OperationsSucceed w) :
    ∃ parts' last', Running (s.write w).2 (chunks ++ [.record w.data]) parts' last' := by
  rw [LogState.write, if_neg (not_not_intro h.handle)]
  by_cases hdata : w.data = []
  · rw [if_pos hdata, hdata]
    exact ⟨_, _, h.empty⟩
  rw [if_neg hdata]
  by_cases hover : s.Overflows w
  · have hrotated : (s.rotate w.fails).1 = true :=
      LogState.rotate_ok.mpr (hops.rotation ⟨h.handle, hdata, hover⟩)
    have hspec := LogState.rotate_rotated hrotated
    have hroom : ¬ (s.rotate w.fails).2.Overflows w := by
      rw [LogState.Overflows, hspec.log]
      exact fun hover => hover.2.1 rfl
    simp only [if_pos hover, hrotated, not_true_eq_false, if_false]
    exact ⟨_, _, (h.rotated hspec).writeRecord hdata hops.write hroom⟩
  · rw [if_neg hover]
    exact ⟨_, _, h.writeRecord hdata hops.write hover⟩

theorem Running.after (h : Running s chunks parts last) {writes : List LogWrite}
    (hops : rotatingLog.Along LogState.OperationsSucceed s writes) :
    ∃ parts' last', Running (rotatingLog.after s writes)
      (chunks ++ writes.map fun w => .record w.data) parts' last' := by
  induction writes generalizing s chunks parts last with
  | nil =>
    rw [List.map_nil, List.append_nil]
    exact ⟨parts, last, h⟩
  | cons w writes ih =>
    obtain ⟨parts', last', hnext⟩ := h.write hops.1
    have hrest := ih hnext hops.2
    rwa [List.append_assoc] at hrest

end

/-! ## Opening -/

/-- The data that a log finds, the oldest first -/
def foundChunks (s : LogState) : List LogChunk :=
  (backups s.files s.log.backupCount ++ [s.current]).map LogChunk.found

theorem holds_found {s : LogState} (h : s.files 0 = some s.current) :
    Holds s (foundChunks s)
      ((backups s.files s.log.backupCount).map fun data => [.found data])
      [.found s.current] where
  backups := by
    rw [List.map_map]
    conv_lhs => rw [← List.map_id (backups s.files s.log.backupCount)]
    refine List.map_congr_left fun data _ => ?_
    simp [chunkData, LogChunk.data]
  current := by
    rw [h]
    simp [chunkData, LogChunk.data]
  suffix := by
    have hparts : ∀ files : List (List UInt8),
        (files.map fun data => [LogChunk.found data]).flatten = files.map .found := by
      intro files
      induction files with
      | nil => rfl
      | cons data files ih => rw [List.map_cons, List.flatten_cons, ih, List.map_cons]; rfl
    rw [hparts, foundChunks, List.map_append]
    exact List.suffix_refl _
  bounded := by
    rintro part hpart ⟨data, hdata⟩
    have hfound : ∃ data, part = [.found data] := by
      rcases List.mem_append.mp hpart with hpart | hpart
      · obtain ⟨data, -, rfl⟩ := List.mem_map.mp hpart
        exact ⟨data, rfl⟩
      · exact ⟨_, List.mem_singleton.mp hpart⟩
    obtain ⟨data', rfl⟩ := hfound
    simp at hdata

theorem openCurrent_holds {fails : FileOp → Bool} {s : LogState}
    (h : (s.openCurrent fails).1 = true) :
    ∃ parts last, Holds (s.openCurrent fails).2 (foundChunks s) parts last := by
  have hcurrent : (s.openCurrent fails).2.current = s.current := by
    rw [LogState.openCurrent_eq h]
    simp [LogState.current]
  have hfound : foundChunks (s.openCurrent fails).2 = foundChunks s := by
    rw [foundChunks, foundChunks, hcurrent, LogState.openCurrent_eq h]
    congr 2
    exact backups_congr (fun i hi => Function.update_of_ne hi _ _) _
  rw [← hfound]
  refine ⟨_, _, holds_found ?_⟩
  rw [hcurrent, LogState.openCurrent_eq h]
  simp

theorem openLog_running {fails : FileOp → Bool} {parentReady : Bool} {maxBytes backupCount : Nat}
    {files : LogFiles} (h : (openLog fails parentReady maxBytes backupCount files).1 = true) :
    ∃ parts last, Running (openLog fails parentReady maxBytes backupCount files).2
      (foundChunks (closedLog maxBytes backupCount files)) parts last := by
  rw [openLog] at h ⊢
  by_cases hparent : parentReady = true
  · simp only [hparent, not_true_eq_false, if_false] at h ⊢
    generalize hclosed : closedLog maxBytes backupCount files = closed at h ⊢
    have hmax : closed.log.maxBytes = maxBytes := by
      rw [← hclosed]
      rfl
    by_cases hopened : (closed.openCurrent fails).1 = true
    · simp only [hopened, not_true_eq_false, if_false] at h ⊢
      obtain ⟨parts, last, hholds⟩ := openCurrent_holds hopened
      split_ifs at h ⊢ with hfull
      · exact ⟨_, _, hholds.rotated (LogState.rotate_rotated h)⟩
      · refine ⟨parts, last, hholds, ?_, ?_, fun hlimit => .inl ?_⟩
        · rw [LogState.openCurrent_eq hopened]
        · rw [LogState.openCurrent_eq hopened]
          simp [LogState.current]
        · rw [← hholds.current_eq]
          rw [LogState.openCurrent_eq hopened] at hfull hlimit ⊢
          simp only [hmax, LogState.current, Function.update_self, Option.getD_some]
            at hfull hlimit ⊢
          omega
    · simp only [hopened] at h
      exact absurd h hopened
  · simp only [hparent] at h
    cases h

/-! ## Failed rotations -/

namespace LogState

variable {s : LogState} {w : LogWrite}

/-- The call rotates the log, and an operation of the rotation fails. -/
def RotationFails (s : LogState) (w : LogWrite) : Prop :=
  s.Rotates w ∧ ∃ op ∈ rotationOps s.log.backupCount, w.fails op = true

/-- The call stores its record, at the end of the current file. -/
def Stores (s : LogState) (w : LogWrite) : Prop :=
  (s.write w).1 = true ∧ ∃ before, (s.write w).2.files 0 = some (before ++ w.data)

theorem write_closed (h : s.log.handle = false) : s.write w = (false, s) := by
  simp [write, h]

theorem writeRecord_handle : (s.writeRecord w).2.log.handle = s.log.handle := by
  rw [writeRecord]
  split_ifs <;> rfl

theorem write_handle (h : s.log.handle = true) :
    (s.write w).2.log.handle = true ↔ ¬ s.RotationFails w := by
  rw [write, if_neg (not_not_intro h)]
  by_cases hdata : w.data = []
  · rw [if_pos hdata]
    exact ⟨fun _ hfails => hfails.1.2.1 hdata, fun _ => h⟩
  rw [if_neg hdata]
  by_cases hover : s.Overflows w
  · by_cases hrotated : (s.rotate w.fails).1 = true
    · simp only [if_pos hover, hrotated, not_true_eq_false, if_false]
      rw [writeRecord_handle, (rotate_rotated hrotated).log]
      refine ⟨fun _ hfails => ?_, fun _ => rfl⟩
      obtain ⟨op, hop, hfail⟩ := hfails.2
      exact absurd ((rotate_ok.mp hrotated op hop).symm.trans hfail) (by decide)
    · simp only [if_pos hover, hrotated, Bool.false_eq_true, not_false_eq_true, if_true]
      rw [rotate_closed hrotated]
      refine ⟨fun hopen => absurd hopen (by decide), fun hnone => absurd ?_ hnone⟩
      rw [rotate_ok] at hrotated
      push Not at hrotated
      obtain ⟨op, hop, hfail⟩ := hrotated
      exact ⟨⟨h, hdata, hover⟩, op, hop, by simpa using hfail⟩
  · rw [if_neg hover, writeRecord_handle]
    exact ⟨fun _ hfails => hover hfails.1.2.2, fun _ => h⟩

theorem after_closed (h : s.log.handle = false) (writes : List LogWrite) :
    rotatingLog.after s writes = s := by
  induction writes with
  | nil => rfl
  | cons w writes ih =>
    have hnext : rotatingLog.next s w = s := congrArg Prod.snd (write_closed h)
    rw [Reducer.after_cons, hnext, ih]

theorem after_handle (h : s.log.handle = true) (writes : List LogWrite) :
    (rotatingLog.after s writes).log.handle = true ↔
      rotatingLog.Along (fun s w => ¬ s.RotationFails w) s writes := by
  induction writes generalizing s with
  | nil => exact ⟨fun _ => trivial, fun _ => h⟩
  | cons w writes ih =>
    have hstep : (rotatingLog.next s w).log.handle = true ↔ ¬ s.RotationFails w := write_handle h
    by_cases hopen : (rotatingLog.next s w).log.handle = true
    · rw [Reducer.after_cons, ih hopen]
      exact ⟨fun hrest => ⟨hstep.mp hopen, hrest⟩, fun hall => hall.2⟩
    · have hclosed : (rotatingLog.next s w).log.handle = false := by simpa using hopen
      rw [Reducer.after_cons, after_closed hclosed]
      exact ⟨fun hhandle => absurd hhandle hopen, fun hall => absurd (hstep.mpr hall.1) hopen⟩

theorem stores_iff (hdata : w.data ≠ []) (hops : s.OperationsSucceed w) :
    s.Stores w ↔ s.log.handle = true := by
  constructor
  · intro hstores
    by_contra hclosed
    rw [Bool.not_eq_true] at hclosed
    rw [Stores, write_closed hclosed] at hstores
    exact Bool.false_ne_true hstores.1
  · intro hopen
    rw [Stores, write, if_neg (not_not_intro hopen), if_neg hdata]
    by_cases hover : s.Overflows w
    · have hrotated : (s.rotate w.fails).1 = true :=
        rotate_ok.mpr (hops.rotation ⟨hopen, hdata, hover⟩)
      simp only [if_pos hover, hrotated, not_true_eq_false, if_false]
      rw [writeRecord_eq hops.write]
      exact ⟨rfl, (s.rotate w.fails).2.current, by simp⟩
    · rw [if_neg hover, writeRecord_eq hops.write]
      exact ⟨rfl, s.current, by simp⟩

end LogState

/-- **The log**: after it was opened, a run without a failure leaves the found data and all records
in the files, cut between records and bounded, but for what was dropped with the oldest files. In
any run, a record with all its file operations succeeding is stored exactly if no rotation has
failed before. -/
theorem rotatingLog_keeps {fails : FileOp → Bool} {parentReady : Bool} {maxBytes backupCount : Nat}
    {files : LogFiles} (hopen : (openLog fails parentReady maxBytes backupCount files).1 = true)
    (writes : List LogWrite) :
    (rotatingLog.Along LogState.OperationsSucceed
        (openLog fails parentReady maxBytes backupCount files).2 writes →
      ∃ parts last, Holds
        (rotatingLog.after (openLog fails parentReady maxBytes backupCount files).2 writes)
        (foundChunks (closedLog maxBytes backupCount files) ++ writes.map fun w => .record w.data)
        parts last) ∧
    ∀ w : LogWrite, w.data ≠ [] →
      (rotatingLog.after (openLog fails parentReady maxBytes backupCount files).2
        writes).OperationsSucceed w →
      ((rotatingLog.after (openLog fails parentReady maxBytes backupCount files).2
          writes).Stores w ↔
        rotatingLog.Along (fun s w => ¬ s.RotationFails w)
          (openLog fails parentReady maxBytes backupCount files).2 writes) := by
  obtain ⟨parts, last, hrunning⟩ := openLog_running hopen
  constructor
  · intro hops
    obtain ⟨parts', last', hafter⟩ := hrunning.after hops
    exact ⟨parts', last', hafter.toHolds⟩
  · intro w hdata hops
    rw [LogState.stores_iff hdata hops, LogState.after_handle hrunning.handle]

/-- A new log of four bytes with one backup -/
def smallLog : LogState := (openLog (fun _ => false) true 4 1 fun _ => none).2

/-- A call whose operations all succeed -/
def soundWrite (data : List UInt8) : LogWrite := ⟨data, fun _ => false, [data.length]⟩

/-- A call that cannot move the current file away -/
def sharedWrite (data : List UInt8) : LogWrite :=
  ⟨data, fun op => op = .move 0 1, [data.length]⟩

theorem rotatingLog_keeps_small :
    (rotatingLog.Along LogState.OperationsSucceed smallLog [soundWrite [1, 2, 3]] →
      ∃ parts last, Holds (rotatingLog.after smallLog [soundWrite [1, 2, 3]])
        (foundChunks (closedLog 4 1 fun _ => none) ++
          [soundWrite [1, 2, 3]].map fun w => .record w.data) parts last) ∧
    ∀ w : LogWrite, w.data ≠ [] →
      (rotatingLog.after smallLog [soundWrite [1, 2, 3]]).OperationsSucceed w →
      ((rotatingLog.after smallLog [soundWrite [1, 2, 3]]).Stores w ↔
        rotatingLog.Along (fun s w => ¬ s.RotationFails w) smallLog [soundWrite [1, 2, 3]]) :=
  rotatingLog_keeps (by decide) [soundWrite [1, 2, 3]]

/-- After the failed rotation a small record is lost, though no operation fails. -/
theorem not_stored :
    (rotatingLog.after smallLog
        [soundWrite [1, 2, 3], sharedWrite [4, 5, 6]]).OperationsSucceed (soundWrite [7]) ∧
      ¬ (rotatingLog.after smallLog
        [soundWrite [1, 2, 3], sharedWrite [4, 5, 6]]).Stores (soundWrite [7]) := by
  have hclosed : (rotatingLog.after smallLog
      [soundWrite [1, 2, 3], sharedWrite [4, 5, 6]]).log.handle = false := by decide
  refine ⟨⟨fun _ op _ => rfl, by decide⟩, fun hstores => ?_⟩
  rw [LogState.Stores, LogState.write_closed hclosed] at hstores
  exact Bool.false_ne_true hstores.1

end NativeLdac.Agent
