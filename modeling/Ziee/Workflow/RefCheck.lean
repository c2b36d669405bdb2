/-
**The validator's reference parser** (`ref_check.rs`, `parse_ref`).

The validator has a parser of its own for the bodies it type-checks; it drops the filter and gives
up where the engine reports an error. It reads exactly the references of the grammar
(`parseRef_some_iff`), and so does the engine's, so the two agree on every body up to the filter:
`parsers_in_lockstep`.
-/

import Ziee.Workflow.Template

namespace Ziee.Workflow

open Ziee.Providers

structure RefExpr where
  head : String
  accesses : List Access
  deriving DecidableEq, Repr

/-- The access loop: `accesses` is what it has read, `rest` what is left. -/
def refAccesses (accesses : List Access) (rest : List Char) : Option (List Access) :=
  match rest with
  | [] => some accesses
  | c :: stripped =>
    if c = '.' then
      if (trim (untilAccess stripped)).isEmpty then none
      else
        refAccesses (accesses ++ [.field (String.ofList (trim (untilAccess stripped)))])
          (fromAccess stripped)
    else if c = '[' then
      if ']' ∈ stripped then
        match parseUsize (trim (untilBracket stripped)) with
        | some index => refAccesses (accesses ++ [.index index]) (afterBracket stripped)
        | none => none
      else none
    else none
termination_by rest.length
decreasing_by
  · exact Nat.lt_succ_of_le (length_fromAccess_le stripped)
  · exact Nat.lt_succ_of_le (length_afterBracket_le stripped)

/-- **`parse_ref`**: the loop runs before the head is looked at. -/
def parseRef (body : String) : Option RefExpr :=
  let lhs := trim (beforeFilter body.toList)
  if lhs.isEmpty then none
  else
    match refAccesses [] (fromAccess lhs) with
    | none => none
    | some accesses =>
      let head := trim (untilAccess lhs)
      if head.isEmpty then none else some ⟨String.ofList head, accesses⟩

/-! ### What it reads -/

theorem refAccesses_eq (source : String) (accesses : List Access) (rest : List Char) :
    refAccesses accesses rest = (parseAccesses source accesses rest).toOption := by
  fun_induction refAccesses accesses rest <;> rw [parseAccesses] <;> simp_all [Except.toOption]

theorem refAccesses_some_iff {accesses all : List Access} {rest : List Char} :
    refAccesses accesses rest = some all ↔
      ∃ chain, AccessChain rest chain ∧ all = accesses ++ chain := by
  rw [refAccesses_eq "", ← parseAccesses_ok_iff ""]
  cases parseAccesses "" accesses rest <;> simp [Except.toOption]

/-- **`parse_ref` reads the references**, whatever follows the first `|`. -/
theorem parseRef_some_iff {s head : String} {accesses : List Access} :
    parseRef s = some ⟨head, accesses⟩ ↔
      Reference (trim (beforeFilter s.toList)) head accesses := by
  unfold parseRef
  dsimp only
  by_cases empty : trim (beforeFilter s.toList) = []
  · rw [if_pos (List.isEmpty_iff.mpr empty)]
    exact iff_of_false nofun fun reference => reference.ne_nil empty
  · rw [if_neg (by simpa using empty)]
    cases read : refAccesses [] (fromAccess (trim (beforeFilter s.toList))) with
    | none =>
      refine iff_of_false nofun fun reference => ?_
      rw [refAccesses_some_iff.mpr ⟨accesses, reference.2.2, rfl⟩] at read
      cases read
    | some all =>
      obtain ⟨chain, spelled, rfl⟩ := refAccesses_some_iff.mp read
      dsimp only
      by_cases headless : trim (untilAccess (trim (beforeFilter s.toList))) = []
      · rw [if_pos (List.isEmpty_iff.mpr headless)]
        exact iff_of_false nofun fun reference => reference.1 headless
      · rw [if_neg (by simpa using headless)]
        simp only [Option.some.injEq, RefExpr.mk.injEq] at read ⊢
        constructor
        · rintro ⟨rfl, rfl⟩
          exact ⟨headless, rfl, spelled⟩
        · rintro ⟨-, rfl, spelled'⟩
          have same := (@refAccesses_some_iff [] _ _).mpr ⟨accesses, spelled', rfl⟩
          rw [read, Option.some.injEq] at same
          exact ⟨rfl, same⟩

/-- **The two parsers are in lockstep**: on every body, the engine reads a head and accesses exactly
when the validator reads the same ones and the body has a filter the engine accepts. -/
theorem parsers_in_lockstep (s head : String) (accesses : List Access) (filter : Filter) :
    parseExpr s = .ok ⟨head, accesses, filter⟩ ↔
      parseRef s = some ⟨head, accesses⟩ ∧ FilterSuffix s.toList filter := by
  rw [parseExpr_ok_iff, parseRef_some_iff]

end Ziee.Workflow
