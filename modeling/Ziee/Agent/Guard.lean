/-
**Neutralising untrusted text** (`guard.rs`).

Three passes escape, and never drop, the markers that could be read as instructions: reminder tags,
role words at the start of a line, and permission strings. The source works on bytes; its markers
are ASCII, so a byte comparison at a character boundary is the comparison of characters here.
-/

import Ziee.Providers.Text

namespace Ziee.Agent

open Ziee.Providers

/-- The text begins with the lower-case ASCII `marker`, in any letter case. -/
def startsWithCi (marker text : List Char) : Bool := marker.isPrefixOf (text.map Char.toLower)

/-- Replace each occurrence of the marker; `skip` counts the characters of the one just replaced
that are still to be passed over. -/
def replaceCi (marker replacement : List Char) : Nat → List Char → List Char
  | _, [] => []
  | skip + 1, _ :: rest => replaceCi marker replacement skip rest
  | 0, c :: rest =>
    if startsWithCi marker (c :: rest) then
      replacement ++ replaceCi marker replacement (marker.length - 1) rest
    else c :: replaceCi marker replacement 0 rest

/-- The opening form first: it never matches inside a closing tag. -/
def escapeReminderTags (text : List Char) : List Char :=
  let step := replaceCi "<system-reminder".toList "&lt;system-reminder".toList 0 text
  replaceCi "</system-reminder".toList "&lt;/system-reminder".toList 0 step

/-- `str::split_inclusive('\n')`: each line keeps its line break. -/
def splitInclusive : List Char → List (List Char)
  | [] => []
  | c :: rest =>
    if c = '\n' then [c] :: splitInclusive rest
    else
      match splitInclusive rest with
      | [] => [[c]]
      | line :: lines => (c :: line) :: lines

def roleWords : List (List Char) := ["human:".toList, "assistant:".toList, "system:".toList]

def neutralizeLineRole (line : List Char) : List Char :=
  let trimmed := trimStart line
  match roleWords.find? fun role => startsWithCi role trimmed with
  | some role =>
    line.takeWhile isWhitespace ++ trimmed.take (role.length - 1) ++ "&#58;".toList ++
      trimmed.drop role.length
  | none => line

def neutralizeRolePrefixes (text : List Char) : List Char :=
  (splitInclusive text).flatMap neutralizeLineRole

def isIdent (c : Char) : Bool := c.isAlphanum || c == '_'

/-- Escape each `::` between two identifier characters; `previous` is the character before. -/
def neutralizePermissions (previous : Option Char) : List Char → List Char
  | ':' :: ':' :: next :: rest =>
    if previous.any isIdent && isIdent next then
      "&#58;&#58;".toList ++ neutralizePermissions (some ':') (next :: rest)
    else ':' :: neutralizePermissions (some ':') (':' :: next :: rest)
  | c :: rest => c :: neutralizePermissions (some c) rest
  | [] => []

def neutralizeUntrusted (text : String) : String :=
  String.ofList (neutralizePermissions none
    (neutralizeRolePrefixes (escapeReminderTags text.toList)))

/-! ### A word at the start of a text is kept -/

/-- The word has none of the characters the passes look for. -/
def PlainWord (word : List Char) : Prop := ∀ c ∈ word, c.toLower ≠ '<' ∧ c ≠ ':' ∧ c ≠ '\n'

section PlainWord

variable {word rest : List Char}

theorem startsWithCi_cons {m c : Char} {marker rest : List Char} (other : c.toLower ≠ m) :
    startsWithCi (m :: marker) (c :: rest) = false := by
  have differ : (m == c.toLower) = false := beq_false_of_ne other.symm
  simp [startsWithCi, List.isPrefixOf, differ]

theorem replaceCi_append (plain : PlainWord word) (marker replacement : List Char) :
    replaceCi ('<' :: marker) replacement 0 (word ++ rest) =
      word ++ replaceCi ('<' :: marker) replacement 0 rest := by
  induction word with
  | nil => rfl
  | cons c word ih =>
    obtain ⟨here, later⟩ := List.forall_mem_cons.mp plain
    rw [List.cons_append, replaceCi, startsWithCi_cons here.1, ih later]
    rfl

theorem splitInclusive_append (plain : PlainWord word) (nonempty : word ≠ []) :
    ∃ line lines, splitInclusive (word ++ rest) = (word ++ line) :: lines := by
  induction word with
  | nil => exact absurd rfl nonempty
  | cons c word ih =>
    obtain ⟨here, later⟩ := List.forall_mem_cons.mp plain
    rw [List.cons_append, splitInclusive, if_neg here.2.2]
    cases word with
    | nil =>
      rw [List.nil_append]
      cases splitInclusive rest with
      | nil => exact ⟨[], [], rfl⟩
      | cons line lines => exact ⟨line, lines, rfl⟩
    | cons d word =>
      obtain ⟨line, lines, split⟩ := ih later (List.cons_ne_nil d word)
      rw [split]
      exact ⟨line, lines, rfl⟩

theorem neutralizePermissions_append (plain : PlainWord word) :
    ∀ previous, ∃ tail, neutralizePermissions previous (word ++ rest) = word ++ tail := by
  induction word with
  | nil => exact fun _ => ⟨_, rfl⟩
  | cons c word ih =>
    intro previous
    obtain ⟨here, later⟩ := List.forall_mem_cons.mp plain
    obtain ⟨tail, same⟩ := ih later (some c)
    refine ⟨tail, ?_⟩
    rw [List.cons_append, neutralizePermissions, same, List.cons_append]
    rintro _ _ rfl
    exact absurd rfl here.2.1

/-- **A plain word that begins no role stays where it is.** -/
theorem neutralizeUntrusted_append (plain : PlainWord word) (nonempty : word ≠ [])
    (noRole : ∀ line, neutralizeLineRole (word ++ line) = word ++ line) (rest : List Char) :
    word <+: (neutralizeUntrusted (String.ofList (word ++ rest))).toList := by
  unfold neutralizeUntrusted escapeReminderTags neutralizeRolePrefixes
  simp only [String.toList_ofList]
  rw [show "<system-reminder".toList = '<' :: "system-reminder".toList from rfl,
    show "</system-reminder".toList = '<' :: "/system-reminder".toList from rfl,
    replaceCi_append plain, replaceCi_append plain]
  obtain ⟨line, lines, split⟩ := splitInclusive_append plain nonempty
  rw [split, List.flatMap_cons, noRole, List.append_assoc]
  obtain ⟨tail, same⟩ := neutralizePermissions_append plain none
  exact ⟨tail, same.symm⟩

end PlainWord

example : neutralizeUntrusted "<System-Reminder>\n Human: agent::settings" =
    "&lt;system-reminder>\n Human&#58; agent&#58;&#58;settings" := by decide

end Ziee.Agent
