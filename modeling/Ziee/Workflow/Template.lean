/-
**The template engine's reference parser** (`template.rs`, `parse_expr`).

The body of a `{{ … }}` is split at the first `|` into a reference and a filter; the reference is
read by a loop over what is left of it. `parseAccesses` is that loop, with its errors; it reads
exactly the access chains of the grammar (`parseAccesses_ok_iff`), and `parseExpr` reads exactly
the references with one of the filters the engine knows (`parseExpr_ok_iff`).
-/

import Ziee.Workflow.References

namespace Ziee.Workflow

open Ziee.Providers

inductive TemplateError
  | unknownVariable (name : String)
  | invalidSyntax (detail : String)
  | stepNotYetRun (stepId : String)
  | unknownFilter (name : String)
  | indexOutOfBounds (idx len : Nat)
  | notAnArray
  | missingField (field path : String)
  | notAnObject (field path : String)
  | io (detail : String)
  deriving DecidableEq, Repr

inductive Filter
  | none
  | json
  | raw
  deriving DecidableEq, Repr

structure ParsedExpr where
  head : String
  accesses : List Access
  filter : Filter
  deriving DecidableEq, Repr

/-- The access loop: `accesses` is what it has read, `rest` what is left. -/
def parseAccesses (source : String) (accesses : List Access) (rest : List Char) :
    Except TemplateError (List Access) :=
  match rest with
  | [] => .ok accesses
  | c :: stripped =>
    if c = '.' then
      if (trim (untilAccess stripped)).isEmpty then
        .error (.invalidSyntax ("empty field access in '" ++ source ++ "'"))
      else
        parseAccesses source (accesses ++ [.field (String.ofList (trim (untilAccess stripped)))])
          (fromAccess stripped)
    else if c = '[' then
      if ']' ∈ stripped then
        match parseUsize (trim (untilBracket stripped)) with
        | some index => parseAccesses source (accesses ++ [.index index]) (afterBracket stripped)
        | none =>
          .error (.invalidSyntax
            ("non-numeric index '" ++ String.ofList (trim (untilBracket stripped)) ++ "'"))
      else .error (.invalidSyntax ("unbalanced [ in '" ++ source ++ "'"))
    else
      .error (.invalidSyntax
        ("unexpected token near '" ++ String.ofList rest ++ "' in '" ++ source ++ "'"))
termination_by rest.length
decreasing_by
  · exact Nat.lt_succ_of_le (length_fromAccess_le stripped)
  · exact Nat.lt_succ_of_le (length_afterBracket_le stripped)

/-- The text before the first `|`. -/
def beforeFilter (text : List Char) : List Char := text.takeWhile fun c => c != '|'

/-- The text after the first `|`. -/
def afterFilter (text : List Char) : List Char := (text.dropWhile fun c => c != '|').drop 1

/-- What stands after the first `|`. -/
def filterName (text : List Char) : String := String.ofList (trim (afterFilter text))

def splitFilter (text : List Char) : Except TemplateError (List Char × Filter) :=
  if '|' ∈ text then
    if filterName text = "json" then .ok (trim (beforeFilter text), .json)
    else if filterName text = "raw" then .ok (trim (beforeFilter text), .raw)
    else .error (.unknownFilter (filterName text))
  else .ok (trim text, .none)

def parseExpr (s : String) : Except TemplateError ParsedExpr :=
  match splitFilter s.toList with
  | .error error => .error error
  | .ok (lhs, filter) =>
    if lhs.isEmpty then .error (.invalidSyntax s)
    else
      let head := trim (untilAccess lhs)
      if head.isEmpty then
        .error (.invalidSyntax ("missing head identifier in '" ++ s ++ "'"))
      else
        (parseAccesses s [] (fromAccess lhs)).map fun accesses =>
          ⟨String.ofList head, accesses, filter⟩

/-! ### What it reads -/

theorem map_eq_ok_iff {ε α β : Type} {result : Except ε α} {f : α → β} {value : β} :
    result.map f = .ok value ↔ ∃ before, result = .ok before ∧ f before = value := by
  cases result with
  | error | ok => simp [Except.map]

/-- **The loop reads the access chains.** -/
theorem parseAccesses_ok_iff (source : String) (accesses : List Access) (rest : List Char) :
    ∀ {all : List Access}, parseAccesses source accesses rest = .ok all ↔
      ∃ chain, AccessChain rest chain ∧ all = accesses ++ chain := by
  fun_induction parseAccesses source accesses rest with
  | case1 accesses =>
    intro all
    simp [accessChain_nil_iff, eq_comm]
  | case2 accesses stripped blank =>
    intro all
    have none : trim (untilAccess stripped) = [] := List.isEmpty_iff.mp blank
    simp [accessChain_dot_iff, none]
  | case3 accesses stripped filled ih =>
    intro all
    have some : trim (untilAccess stripped) ≠ [] := fun none => filled (List.isEmpty_iff.mpr none)
    rw [ih]
    constructor
    · rintro ⟨chain, read, rfl⟩
      exact ⟨_, accessChain_dot_iff.mpr ⟨some, chain, read, rfl⟩, by simp⟩
    · rintro ⟨whole, read, rfl⟩
      obtain ⟨-, chain, later, rfl⟩ := accessChain_dot_iff.mp read
      exact ⟨chain, later, by simp⟩
  | case4 accesses stripped closed index parsed dot ih =>
    intro all
    rw [ih]
    constructor
    · rintro ⟨chain, read, rfl⟩
      exact ⟨_, accessChain_bracket_iff.mpr ⟨closed, index, chain, parsed, read, rfl⟩, by simp⟩
    · rintro ⟨whole, read, rfl⟩
      obtain ⟨-, other, chain, same, later, rfl⟩ := accessChain_bracket_iff.mp read
      cases parsed.symm.trans same
      exact ⟨chain, later, by simp⟩
  | case5 accesses stripped closed unparsed dot =>
    intro all
    simp [accessChain_bracket_iff, unparsed]
  | case6 accesses stripped unclosed dot =>
    intro all
    simp [unclosed, accessChain_bracket_iff]
  | case7 accesses c stripped dot bracket =>
    intro all
    simp [not_accessChain_cons dot bracket]

/-- **The filters the engine accepts**: none, or `json` or `raw` after the first `|`. -/
def FilterSuffix (text : List Char) : Filter → Prop
  | .none => '|' ∉ text
  | .json => '|' ∈ text ∧ filterName text = "json"
  | .raw => '|' ∈ text ∧ filterName text = "raw"

section Parsing

variable {s head : String} {text lhs : List Char} {accesses : List Access} {filter : Filter}

theorem beforeFilter_of_not_mem (plain : '|' ∉ text) : beforeFilter text = text := by
  refine List.takeWhile_eq_self_iff.mpr fun c member => ?_
  simpa using fun same : c = '|' => plain (same ▸ member)

theorem splitFilter_ok_iff : splitFilter text = .ok (lhs, filter) ↔
      lhs = trim (beforeFilter text) ∧ FilterSuffix text filter := by
  unfold splitFilter
  by_cases split : '|' ∈ text
  · rw [if_pos split]
    by_cases json : filterName text = "json"
    · cases filter <;> simp [FilterSuffix, split, json, eq_comm]
    · rw [if_neg json]
      by_cases raw : filterName text = "raw"
      · cases filter <;> simp [FilterSuffix, split, raw, eq_comm]
      · cases filter <;> simp [FilterSuffix, split, raw, json]
  · rw [if_neg split, beforeFilter_of_not_mem split]
    cases filter <;> simp [FilterSuffix, split, eq_comm]

theorem Reference.ne_nil (reference : Reference text head accesses) : text ≠ [] := by
  rintro rfl
  exact reference.1 rfl

/-- **`parse_expr` reads the references that carry an accepted filter.** -/
theorem parseExpr_ok_iff : parseExpr s = .ok ⟨head, accesses, filter⟩ ↔
      Reference (trim (beforeFilter s.toList)) head accesses ∧ FilterSuffix s.toList filter := by
  have unique : ∀ {lhs : List Char} {found : Filter}, splitFilter s.toList = .ok (lhs, found) →
      (FilterSuffix s.toList filter ↔ found = filter) := by
    intro lhs found split
    obtain ⟨same, -⟩ := splitFilter_ok_iff.mp split
    have either := @splitFilter_ok_iff s.toList lhs filter
    rw [split, same] at either
    simpa using either.symm
  unfold parseExpr
  split
  · rename_i error failed
    refine iff_of_false nofun fun ⟨_, suffix⟩ => ?_
    rw [splitFilter_ok_iff.mpr ⟨rfl, suffix⟩] at failed
    cases failed
  · rename_i lhs found split
    obtain ⟨rfl, -⟩ := splitFilter_ok_iff.mp split
    rw [unique split]
    by_cases empty : trim (beforeFilter s.toList) = []
    · rw [if_pos (List.isEmpty_iff.mpr empty)]
      exact iff_of_false nofun fun ⟨reference, _⟩ => reference.ne_nil empty
    · rw [if_neg (by simpa using empty)]
      by_cases headless : trim (untilAccess (trim (beforeFilter s.toList))) = []
      · rw [if_pos (List.isEmpty_iff.mpr headless)]
        exact iff_of_false nofun fun ⟨reference, _⟩ => reference.1 headless
      · rw [if_neg (by simpa using headless)]
        rw [map_eq_ok_iff]
        constructor
        · rintro ⟨read, parsed, same⟩
          obtain ⟨chain, spelled, rfl⟩ := (parseAccesses_ok_iff s [] _).mp parsed
          simp only [ParsedExpr.mk.injEq] at same
          obtain ⟨rfl, rfl, rfl⟩ := same
          exact ⟨⟨headless, rfl, spelled⟩, rfl⟩
        · rintro ⟨⟨-, rfl, spelled⟩, rfl⟩
          exact ⟨accesses, (parseAccesses_ok_iff s [] _).mpr ⟨accesses, spelled, rfl⟩, rfl⟩

end Parsing

end Ziee.Workflow
