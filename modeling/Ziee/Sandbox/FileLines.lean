/-
**Reading and editing the lines of a workspace file** (`code_sandbox/tools/files.rs`).

Both tools load the file's text and split it into lines. The reader clamps the range that the model
asks for, and slices; the editor takes the lines of the range out and puts the new ones in, one by
one.

* `insertLines_eq` — what the editor's loop of insertions makes of the lines.
* **`readFile_exact_iff`** — **when it does**: unless the range ends before the line that precedes
  its start, in a file that has its start.
-/

import Ziee.Files.FileVersions
import Ziee.Library.JoinedLines

namespace Ziee.Sandbox

open Ziee.Providers Ziee.Files Ziee.Library.JoinedLines

/-- `items[from..to]`; `none` where it panics. -/
def slice {α : Type} (start stop : Nat) (items : List α) : Option (List α) :=
  if stop < start ∨ items.length < stop then none else some ((items.take stop).drop start)

def numberedLine (line : String × Nat) : String := s!"{line.2}: {line.1}\n"

/-- The reader's answer. -/
def fileText (text : String) (totalLines : Nat) : Json :=
  .object [("text", .string text), ("total_lines", natural totalLines)]

/-- **`read_file`**, on the text that was loaded; `none` where it panics. -/
def readFile (loaded : Except FileError String) (startLine endLine : Option Nat) :
    Option (Except FileError Json) :=
  match loaded with
  | .error error => some (.error error)
  | .ok content =>
    let all := lines content
    let start := max (startLine.getD 1) 1
    let stop := min (endLine.getD all.length) all.length
    if all.length < start then some (.ok (fileText "" all.length))
    else
      (slice (start - 1) stop all).map fun part =>
        .ok (fileText (String.join ((part.zipIdx start).map numberedLine)) all.length)

/-! ### The editor -/

def bad (message : String) : FileError := .badRequest "INVALID_FILENAME" message

def insertLines {α : Type} (place : Nat) : List α → List α → List α
  | [], all => all
  | line :: new, all => insertLines (place + 1) new (all.insertIdx place line)

/-- **`edit_file`**: what it writes, on the text that was loaded. -/
def editFile (loaded : Except FileError (List Char)) (startLine endLine : Nat)
    (newContent : List Char) : Except FileError (List Char) :=
  match loaded with
  | .error error => .error error
  | .ok existing =>
    let all := lineTexts existing
    if startLine = 0 then .error (bad "start_line must be >= 1")
    else if all.length + 1 < startLine then
      .error (bad (s!"start_line {startLine} is past end-of-file ({all.length} lines); " ++
        s!"use start_line={all.length + 1} to append"))
    else if endLine < startLine then .error (bad "end_line must be >= start_line")
    else
      let appendMode := startLine = all.length + 1
      let edited :=
        if appendMode then all ++ lineTexts newContent
        else
          insertLines (startLine - 1) (lineTexts newContent)
            (all.take (startLine - 1) ++ all.drop (min endLine all.length))
      let out := ['\n'].intercalate edited
      if existing ≠ [] ∧ existing.getLast? = some '\n' then .ok (out ++ ['\n'])
      else if appendMode ∧ newContent ≠ [] then .ok (out ++ ['\n'])
      else .ok out

theorem insertIdx_front {α : Type} (front back : List α) (line : α) :
    (front ++ back).insertIdx front.length line = front ++ [line] ++ back := by
  induction front with
  | nil => rfl
  | cons first front ih =>
    rw [List.cons_append, List.length_cons, List.insertIdx_succ_cons, ih]
    rfl

theorem insertLines_eq {α : Type} (front new back : List α) :
    insertLines front.length new (front ++ back) = front ++ new ++ back := by
  induction new generalizing front with
  | nil => rw [insertLines, List.append_nil]
  | cons line new ih =>
    have longer : front.length + 1 = (front ++ [line]).length := by simp
    rw [insertLines, insertIdx_front, longer, ih, List.append_assoc front]
    rfl

/-! ### What the reader returns -/

/-- **The reader returns the lines that were asked for**, each with its own number. -/
def ReadsExactly (content : String) (startLine endLine : Option Nat) : Prop :=
  let asked := ((lines content).zipIdx 1).filter fun line =>
    startLine.getD 1 ≤ line.2 && line.2 ≤ endLine.getD (lines content).length
  readFile (.ok content) startLine endLine =
    some (.ok (fileText (String.join (asked.map numberedLine)) (lines content).length))

/-- **When it does**: the first line asked for is not there, or the last one is not before the line
that precedes it. -/
theorem readFile_exact_iff (content : String) (startLine endLine : Option Nat) :
    ReadsExactly content startLine endLine ↔ (lines content).length < startLine.getD 1 ∨
        ∀ last, endLine = some last → startLine.getD 1 ≤ last + 1 := by
  have asked := filter_zipIdx 1 (startLine.getD 1) (endLine.getD (lines content).length)
    (lines content)
  unfold ReadsExactly readFile
  dsimp only
  rw [asked]
  generalize lines content = all
  generalize startLine.getD 1 = first
  by_cases past : all.length < max first 1
  · have none : (all.take (endLine.getD all.length + 1 - 1)).drop (first - 1) = [] := by
      rw [List.drop_eq_nil_iff, List.length_take]
      omega
    rw [if_pos past, none]
    refine iff_of_true rfl ?_
    by_cases zero : first = 0
    · exact Or.inr fun last _ => by omega
    · exact Or.inl (by omega)
  · rw [if_neg past]
    by_cases crossed : min (endLine.getD all.length) all.length < max first 1 - 1
    · rw [slice, if_pos (Or.inl crossed)]
      refine iff_of_false nofun ?_
      rintro (beyond | ordered)
      · omega
      · cases endLine with
        | none =>
          rw [Option.getD_none] at crossed
          omega
        | some last =>
          have near := ordered last rfl
          rw [Option.getD_some] at crossed
          omega
    · have inside : ¬(min (endLine.getD all.length) all.length < max first 1 - 1 ∨
          all.length < min (endLine.getD all.length) all.length) := by omega
      have same : max first 1 - 1 = first - 1 := by omega
      rw [slice, if_neg inside, same, Nat.add_sub_cancel, ← List.take_eq_take_min]
      refine iff_of_true rfl (Or.inr fun last given => ?_)
      rw [given, Option.getD_some] at crossed
      omega

theorem crossed_range_panics : readFile (.ok "a\nb\n") (some 2) (some 0) = none ∧
    ¬ReadsExactly "a\nb\n" (some 2) (some 0) := by
  have two : lines "a\nb\n" = ["a", "b"] := by decide
  have panics : readFile (.ok "a\nb\n") (some 2) (some 0) = none := by
    rw [readFile, two]
    rfl
  refine ⟨panics, fun reads => ?_⟩
  rw [ReadsExactly, panics] at reads
  cases reads

end Ziee.Sandbox
