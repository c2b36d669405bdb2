/-
**References in templates** (the grammar shared by `template.rs` and `ref_check.rs`).

A reference is a head followed by a chain of accesses, `head.field[3].field`; blanks around the
parts are cut. `AccessChain text accesses` says that the text spells the accesses. Two scanners
read it, each with a loop of its own; the inversion lemmas below are the steps of such a loop, so
that a scanner is compared with the grammar and not with the other scanner.

* `accessChain_dot_iff`, `accessChain_bracket_iff` — how a chain begins.
* `Reference text head accesses` — the whole reference, without its filter.
-/

import Ziee.Providers.Text
import Mathlib.Data.List.TakeWhile

namespace Ziee.Workflow

open Ziee.Providers

/-- One access after the head: `.field` or `[3]`. -/
inductive Access
  | field (name : String)
  | index (index : Nat)
  deriving DecidableEq, Repr

/-- The characters at which a head or a field name ends. -/
def opensAccess (c : Char) : Bool := c == '.' || c == '['

def untilAccess (text : List Char) : List Char := text.takeWhile fun c => !opensAccess c

def fromAccess (text : List Char) : List Char := text.dropWhile fun c => !opensAccess c

def untilBracket (text : List Char) : List Char := text.takeWhile fun c => c != ']'

def afterBracket (text : List Char) : List Char := (text.dropWhile fun c => c != ']').drop 1

theorem length_fromAccess_le (text : List Char) : (fromAccess text).length ≤ text.length :=
  (List.dropWhile_sublist _).length_le

theorem length_afterBracket_le (text : List Char) : (afterBracket text).length ≤ text.length :=
  ((List.drop_sublist _ _).trans (List.dropWhile_sublist _)).length_le

/-! ### The grammar -/

/-- **The text spells the accesses.** -/
inductive AccessChain : List Char → List Access → Prop
  | nil : AccessChain [] []
  | field {name rest : List Char} {accesses : List Access} :
      (∀ c ∈ name, opensAccess c = false) → trim name ≠ [] → AccessChain rest accesses →
      AccessChain ('.' :: (name ++ rest)) (.field (String.ofList (trim name)) :: accesses)
  | index {digits rest : List Char} {index : Nat} {accesses : List Access} :
      ']' ∉ digits → parseUsize (trim digits) = some index → AccessChain rest accesses →
      AccessChain ('[' :: (digits ++ ']' :: rest)) (.index index :: accesses)

/-- **A reference**: a head that is not blank, and a chain of accesses. -/
def Reference (text : List Char) (head : String) (accesses : List Access) : Prop :=
  trim (untilAccess text) ≠ [] ∧ head = String.ofList (trim (untilAccess text)) ∧
    AccessChain (fromAccess text) accesses

section Chains

variable {text name rest stripped : List Char} {accesses : List Access}

theorem untilAccess_append (plain : ∀ c ∈ name, opensAccess c = false) :
    untilAccess (name ++ rest) = name ++ untilAccess rest :=
  List.takeWhile_append_of_pos fun c member => by simp [plain c member]

theorem fromAccess_append (plain : ∀ c ∈ name, opensAccess c = false) :
    fromAccess (name ++ rest) = fromAccess rest :=
  List.dropWhile_append_of_pos fun c member => by simp [plain c member]

theorem untilAccess_append_fromAccess (text : List Char) :
    untilAccess text ++ fromAccess text = text :=
  List.takeWhile_append_dropWhile

theorem opensAccess_of_mem_untilAccess {c : Char} (member : c ∈ untilAccess text) :
    opensAccess c = false := by
  simpa using List.mem_takeWhile_imp member

theorem AccessChain.starts (chain : AccessChain text accesses) :
    untilAccess text = [] ∧ fromAccess text = text := by
  cases chain with
  | nil | field | index => exact ⟨rfl, rfl⟩

theorem accessChain_nil_iff : AccessChain [] accesses ↔ accesses = [] := by
  constructor
  · intro chain
    cases chain
    rfl
  · rintro rfl
    exact .nil

theorem accessChain_dot_iff : AccessChain ('.' :: stripped) accesses ↔
      trim (untilAccess stripped) ≠ [] ∧ ∃ later, AccessChain (fromAccess stripped) later ∧
        accesses = .field (String.ofList (trim (untilAccess stripped))) :: later := by
  constructor
  · intro chain
    cases chain with
    | @field name rest later plain filled chain =>
      rw [untilAccess_append plain, fromAccess_append plain, chain.starts.1, chain.starts.2,
        List.append_nil]
      exact ⟨filled, later, chain, rfl⟩
  · rintro ⟨filled, later, chain, rfl⟩
    have whole := AccessChain.field (fun c => opensAccess_of_mem_untilAccess) filled chain
    rwa [untilAccess_append_fromAccess] at whole

theorem untilBracket_append_afterBracket (closed : ']' ∈ stripped) :
    stripped = untilBracket stripped ++ ']' :: afterBracket stripped := by
  unfold untilBracket afterBracket
  induction stripped with
  | nil => cases closed
  | cons c rest ih =>
    by_cases closes : c = ']'
    · subst closes
      rfl
    · have later : ']' ∈ rest := by simpa [Ne.symm closes] using closed
      rw [List.takeWhile_cons_of_pos (by simpa using closes),
        List.dropWhile_cons_of_pos (by simpa using closes), List.cons_append, ← ih later]

theorem not_mem_untilBracket : ']' ∉ untilBracket stripped := fun member => by
  simpa using List.mem_takeWhile_imp member

theorem untilBracket_append (digits : List Char) (plain : ']' ∉ digits) :
    untilBracket (digits ++ ']' :: rest) = digits ∧
      afterBracket (digits ++ ']' :: rest) = rest := by
  have goesOn : ∀ c ∈ digits, (c != ']') = true := by
    intro c member
    simpa using fun same : c = ']' => plain (same ▸ member)
  constructor
  · show List.takeWhile _ _ = _
    rw [List.takeWhile_append_of_pos goesOn]
    simp
  · show List.drop 1 (List.dropWhile _ _) = _
    rw [List.dropWhile_append_of_pos goesOn]
    simp

theorem accessChain_bracket_iff : AccessChain ('[' :: stripped) accesses ↔
      ']' ∈ stripped ∧ ∃ index later, parseUsize (trim (untilBracket stripped)) = some index ∧
        AccessChain (afterBracket stripped) later ∧ accesses = .index index :: later := by
  constructor
  · intro chain
    cases chain with
    | @index digits rest index later plain parsed chain =>
      obtain ⟨inside, outside⟩ := untilBracket_append digits plain
      rw [inside, outside]
      exact ⟨by simp, index, later, parsed, chain, rfl⟩
  · rintro ⟨closed, index, later, parsed, chain, rfl⟩
    have whole := AccessChain.index not_mem_untilBracket parsed chain
    rwa [← untilBracket_append_afterBracket closed] at whole

theorem not_accessChain_cons {c : Char} (dot : c ≠ '.') (bracket : c ≠ '[') :
    ¬ AccessChain (c :: stripped) accesses := by
  intro chain
  cases chain with
  | field => exact dot rfl
  | index => exact bracket rfl

end Chains

end Ziee.Workflow
