/-
**How a POSIX shell reads words.**

Blanks separate words. A quoted part of a word is taken literally, and adjacent parts are joined. A
line is read to its words only: where a character outside quotes is an operator, or is expanded, the
line has no reading here.

* `Reader.step` — one character.
* `words` — the words of a line.
-/

import Mathlib.Data.List.Basic

namespace Ziee.Library.ShellWords

/-- Where the reader is; after a backslash, whether a word has begun. -/
inductive Position
  | between
  | bare
  | escaped (begun : Bool)
  | single
  | double
  | doubleEscaped
  deriving DecidableEq, Repr

def Position.begun : Position → Bool
  | .between | .escaped false => false
  | _ => true

structure Reader where
  words : List (List Char)
  word : List Char
  position : Position
  deriving DecidableEq, Repr

def isBlank (c : Char) : Bool := c = ' ' || c = '\t'

/-- The characters that end a word, or are expanded, outside quotes. -/
def isSpecial (c : Char) : Bool :=
  ['\n', '|', '&', ';', '<', '>', '(', ')', '$', Char.ofNat 0x60, '*', '?', '[', '~'].contains c

def escapesInDouble (c : Char) : Bool := ['$', Char.ofNat 0x60, '"', '\\'].contains c

namespace Reader

def start : Reader := ⟨[], [], .between⟩

/-- A literal character of the word. -/
def take (reader : Reader) (c : Char) (position : Position) : Reader :=
  { reader with word := reader.word ++ [c], position := position }

def close (reader : Reader) : Reader := ⟨reader.words ++ [reader.word], [], .between⟩

/-- A character of a word outside quotes. -/
def stepBare (reader : Reader) (c : Char) : Option Reader :=
  if c = '\'' then some { reader with position := .single }
  else if c = '"' then some { reader with position := .double }
  else if c = '\\' then some { reader with position := .escaped true }
  else if isSpecial c then none
  else some (reader.take c .bare)

/-- **One character.** -/
def step (reader : Reader) (c : Char) : Option Reader :=
  match reader.position with
  | .between =>
    if isBlank c then some reader
    else if c = '\\' then some { reader with position := .escaped false }
    else if c = '#' then none
    else reader.stepBare c
  | .bare => if isBlank c then some reader.close else reader.stepBare c
  -- a newline after a backslash is taken away with it
  | .escaped begun =>
    if c = '\n' then some { reader with position := if begun then .bare else .between }
    else some (reader.take c .bare)
  | .single =>
    if c = '\'' then some { reader with position := .bare } else some (reader.take c .single)
  | .double =>
    if c = '"' then some { reader with position := .bare }
    else if c = '\\' then some { reader with position := .doubleEscaped }
    else if c = '$' || c = Char.ofNat 0x60 then none
    else some (reader.take c .double)
  | .doubleEscaped =>
    if c = '\n' then some { reader with position := .double }
    else if escapesInDouble c then some (reader.take c .double)
    else some ((reader.take '\\' .double).take c .double)

/-- A row of characters. -/
def steps : List Char → Reader → Option Reader
  | [], reader => some reader
  | c :: rest, reader => (reader.step c).bind (steps rest)

/-- The words, where no quote and no escape is open. -/
def finish (reader : Reader) : Option (List (List Char)) :=
  match reader.position with
  | .between => some reader.words
  | .bare => some reader.close.words
  | _ => none

end Reader

def words (line : List Char) : Option (List (List Char)) :=
  (Reader.start.steps line).bind Reader.finish

section Steps

variable {line rest text : List Char} {reader reader' : Reader} {c : Char}
  {earlier : List (List Char)}

namespace Reader

theorem steps_append : reader.steps (line ++ rest) = (reader.steps line).bind (steps rest) := by
  induction line generalizing reader with
  | nil => rfl
  | cons c line ih =>
    rw [List.cons_append, steps, steps, Option.bind_assoc]
    exact congrArg (Option.bind _) (funext fun next => ih)

def behind (earlier : List (List Char)) (reader : Reader) : Reader :=
  { reader with words := earlier ++ reader.words }

theorem close_behind : (reader.behind earlier).close = reader.close.behind earlier := by
  simp only [close, behind, List.append_assoc]

theorem stepBare_behind :
    (reader.behind earlier).stepBare c = (reader.stepBare c).map (behind earlier) := by
  unfold stepBare
  split_ifs
  all_goals rfl

/-- **What was read before does not matter.** -/
theorem step_behind : (reader.behind earlier).step c = (reader.step c).map (behind earlier) := by
  have position : (reader.behind earlier).position = reader.position := rfl
  unfold step
  rw [position, close_behind, stepBare_behind]
  cases reader.position with
  | between | bare | escaped | single | double | doubleEscaped =>
    dsimp only
    split_ifs
    all_goals rfl

theorem steps_behind :
    (reader.behind earlier).steps line = (reader.steps line).map (behind earlier) := by
  induction line generalizing reader with
  | nil => rfl
  | cons c line ih =>
    rw [steps, steps, step_behind]
    cases stepped : reader.step c with
    | none => rfl
    | some next => exact ih

theorem finish_behind : (reader.behind earlier).finish = reader.finish.map (earlier ++ ·) := by
  have position : (reader.behind earlier).position = reader.position := rfl
  unfold finish
  rw [position, close_behind]
  cases reader.position
  all_goals rfl

/-! ### Between words -/

def Settled (reader : Reader) : Prop :=
  reader.position = .between ∨ reader.position = .escaped false → reader.word = []

theorem Settled.inside (begun : reader.position.begun = true) : reader.Settled := by
  rintro (same | same)
  · rw [same] at begun
    cases begun
  · rw [same] at begun
    cases begun

theorem stepBare_settled (stepped : reader.stepBare c = some reader') : reader'.Settled := by
  unfold stepBare at stepped
  split_ifs at stepped
  all_goals
    cases stepped
    exact Settled.inside rfl

theorem Settled.step (settled : reader.Settled) (stepped : reader.step c = some reader') :
    reader'.Settled := by
  unfold Reader.step at stepped
  cases position : reader.position with
  | between =>
    have empty : reader.word = [] := settled (Or.inl position)
    rw [position] at stepped
    dsimp only at stepped
    split_ifs at stepped
    · cases stepped
      exact settled
    · cases stepped
      exact fun _ => empty
    · exact stepBare_settled stepped
  | bare =>
    rw [position] at stepped
    dsimp only at stepped
    split_ifs at stepped
    · cases stepped
      exact fun _ => rfl
    · exact stepBare_settled stepped
  | escaped begun =>
    rw [position] at stepped
    dsimp only at stepped
    split_ifs at stepped with newline begins
    · cases stepped
      exact Settled.inside rfl
    · cases stepped
      have empty : reader.word = [] :=
        settled (Or.inr (by rw [position, Bool.eq_false_iff.mpr begins]))
      exact fun _ => empty
    · cases stepped
      exact Settled.inside rfl
  | single =>
    rw [position] at stepped
    dsimp only at stepped
    split_ifs at stepped
    all_goals
      cases stepped
      exact Settled.inside rfl
  | double =>
    rw [position] at stepped
    dsimp only at stepped
    split_ifs at stepped
    all_goals
      cases stepped
      exact Settled.inside rfl
  | doubleEscaped =>
    rw [position] at stepped
    dsimp only at stepped
    split_ifs at stepped
    all_goals
      cases stepped
      exact Settled.inside rfl

theorem Settled.steps (settled : reader.Settled) (stepped : reader.steps line = some reader') :
    reader'.Settled := by
  induction line generalizing reader with
  | nil =>
    cases stepped
    exact settled
  | cons c line ih =>
    obtain ⟨next, one, rest⟩ := Option.bind_eq_some_iff.mp stepped
    exact ih (settled.step one) rest

/-! ### Quotes -/

/-- **Inside single quotes** every other character is literal. -/
theorem steps_literal (literal : '\'' ∉ text) (words : List (List Char)) (word : List Char) :
    steps text ⟨words, word, .single⟩ = some ⟨words, word ++ text, .single⟩ := by
  induction text generalizing word with
  | nil => rw [List.append_nil, steps]
  | cons c text ih =>
    obtain ⟨other, literal⟩ := List.ne_and_not_mem_of_not_mem_cons literal
    have one : step ⟨words, word, .single⟩ c = some ⟨words, word ++ [c], .single⟩ :=
      if_neg (Ne.symm other)
    rw [steps, one, Option.bind_some, ih literal, List.append_assoc, List.singleton_append]

end Reader

/-! ### Lines between blanks -/

open Reader

theorem steps_blank {ws : List (List Char)} (reads : words line = some ws) :
    start.steps (line ++ [' ']) = some ⟨ws, [], .between⟩ := by
  obtain ⟨reader, read, finished⟩ := Option.bind_eq_some_iff.mp reads
  have settled : reader.Settled := Settled.steps (fun _ => rfl) read
  rw [steps_append, read, Option.bind_some, steps]
  unfold finish at finished
  cases position : reader.position with
  | between =>
    have empty : reader.word = [] := settled (Or.inl position)
    rw [position] at finished
    cases finished
    have one : reader.step ' ' = some reader := by
      rw [step, position]
      rfl
    rw [one]
    show some reader = _
    rw [← position, ← empty]
  | bare =>
    rw [position] at finished
    cases finished
    have one : reader.step ' ' = some reader.close := by
      rw [step, position]
      rfl
    rw [one]
    rfl
  | escaped begun =>
    rw [position] at finished
    cases finished
  | single =>
    rw [position] at finished
    cases finished
  | double =>
    rw [position] at finished
    cases finished
  | doubleEscaped =>
    rw [position] at finished
    cases finished

/-- **A blank joins the words of two lines.** -/
theorem words_blank {ws : List (List Char)} (reads : words line = some ws) :
    words (line ++ ' ' :: rest) = (words rest).map (ws ++ ·) := by
  have split : line ++ ' ' :: rest = (line ++ [' ']) ++ rest := by simp
  have after : (⟨ws, [], .between⟩ : Reader) = start.behind ws := by simp [behind, start]
  rw [words, split, steps_append, steps_blank reads, Option.bind_some, after, steps_behind, words]
  cases start.steps rest with
  | none => rfl
  | some reader => exact finish_behind

end Steps

end Ziee.Library.ShellWords
