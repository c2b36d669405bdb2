/-
**Inlining the references of a request schema** (`control_mcp/schema_inline.rs`).

A schema of the OpenAPI document refers to the components of the document, which the model cannot
see. References are expanded in place; one that would recur, or for which the budget has run out,
becomes a reference to the `$defs` of the result.

* `walkNode` — the walk over one schema, given how a component is expanded; `walk` — the whole walk.
* `closeDefs` — the components that the rewritten ones need.
* `compactForm` — nothing is expanded, and large definitions may be left out.
* **`inlineSchemaWith`**.

Members of an object are not kept sorted: nothing here depends on their order.
-/

import Ziee.Providers.Chat
import Mathlib.Algebra.Ring.Nat
import Mathlib.Data.List.Sort
import Mathlib.Data.String.Basic

namespace Ziee.Control

open Ziee.Providers (Json)

abbrev Members : Type := List (String × Json)

/-- `COMPONENT_PREFIX`. -/
def componentStart : String := "#/components/schemas/"

/-- `DEFS_PREFIX`. -/
def defsStart : String := "#/$defs/"

/-- `str::strip_prefix`. -/
def stripStart (start text : String) : Option String :=
  if start.toList.isPrefixOf text.toList then
    some (String.ofList (text.toList.drop start.toList.length))
  else none

def asStr : Json → Option String
  | .string text => some text
  | _ => none

/-- `Value::get`. -/
def get (name : String) : Json → Option Json
  | .object members => members.lookup name
  | _ => none

def pointer (members : Members) : Option String := (members.lookup "$ref").bind asStr

def componentRefName (members : Members) : Option String :=
  (pointer members).bind (stripStart componentStart)

def component (components : Json) (name : String) : Option Json :=
  (get "schemas" components).bind (get name)

/-- What stands beside a reference. -/
def siblings (members : Members) : Members := members.filter fun member => member.1 != "$ref"

/-- A reference to a definition, and what stands beside it. -/
def defsRef (name : String) (beside : Members) : Json :=
  .object (("$ref", .string (defsStart ++ name)) :: beside)

/-- `{ "$comment": … }`, which accepts anything. -/
def comment (text : String) : Json := .object [("$comment", .string text)]

def unresolved (name : String) : Json := comment ("unresolved $ref: " ++ componentStart ++ name)

/-! ### The walk -/

structure Budget where
  maxDepth : Nat
  maxExpansions : Nat
  maxBytes : Nat
  hardMaxBytes : Nat

inductive Keyword
  /-- A map of names to schemas. -/
  | map
  | array
  /-- A schema, or an array of schemas. -/
  | single
  /-- A schema or a `bool`. -/
  | boolean
  | literal
  deriving DecidableEq

def keywordOf (key : String) : Keyword :=
  if key ∈ ["properties", "patternProperties", "$defs", "definitions", "dependentSchemas"] then .map
  else if key ∈ ["allOf", "anyOf", "oneOf", "prefixItems"] then .array
  else if key ∈ ["items", "additionalItems", "unevaluatedItems", "contains", "not", "if", "then",
      "else", "propertyNames"] then .single
  else if key ∈ ["additionalProperties", "unevaluatedProperties"] then .boolean
  else .literal

structure WalkState where
  /-- The names that were cut out of the expansion. -/
  deferred : List String
  expansions : Nat

/-- Its own members win. -/
def mergeSiblings (expanded : Json) (beside : Members) : Json :=
  match expanded with
  | .object members =>
    .object (members ++ beside.filter fun member => (members.lookup member.1).isNone)
  | other => other

section Walk

variable (components : Json) (budget : Budget) (onStack : String → Bool)
  (expand : String → Json → Nat → WalkState → Json × WalkState)

def mustDefer (name : String) (depth : Nat) (state : WalkState) : Bool :=
  onStack name || decide (budget.maxDepth ≤ depth) || decide
    (budget.maxExpansions ≤ state.expansions)

/-- `walk` of an object, and `walk_ref`, where `expand` walks a component and `walkBeside` the
members. A pointer to something else is left as it is, as `walk_keyword` copies it. -/
def walkObject (depth : Nat) (state : WalkState) (members : Members)
    (walkBeside : WalkState → Members × WalkState) : Json × WalkState :=
  match componentRefName members with
  | none =>
    let (walked, state) := walkBeside state
    (.object walked, state)
  | some name =>
    match component components name with
    | none => (unresolved name, state)
    | some target =>
      if mustDefer budget onStack name depth state then
        let (walked, state) := walkBeside { state with deferred := state.deferred.insert name }
        (defsRef name (siblings walked), state)
      else
        let (expanded, state) := expand name target (depth + 1)
          { state with expansions := state.expansions + 1 }
        let (walked, state) := walkBeside state
        (mergeSiblings expanded (siblings walked), state)

mutual

def walkNode (depth : Nat) (state : WalkState) : Json → Json × WalkState
  | .object members =>
    walkObject components budget onStack expand depth state members fun state =>
      walkMembers depth state members
  | other => (other, state)

def walkMembers (depth : Nat) (state : WalkState) : Members → Members × WalkState
  | [] => ([], state)
  | (key, value) :: rest =>
    let (value, state) := walkKeyword (keywordOf key) depth state value
    let (rest, state) := walkMembers depth state rest
    ((key, value) :: rest, state)

def walkKeyword (keyword : Keyword) (depth : Nat) (state : WalkState) : Json → Json × WalkState
  | .object members =>
    match keyword with
    | .map =>
      let (walked, state) := walkEntries (depth + 1) state members
      (.object walked, state)
    | .single | .boolean =>
      walkObject components budget onStack expand (depth + 1) state members fun state =>
        walkMembers (depth + 1) state members
    | _ => (.object members, state)
  | .array items =>
    match keyword with
    | .array | .single =>
      let (walked, state) := walkItems (depth + 1) state items
      (.array walked, state)
    | _ => (.array items, state)
  | other => (other, state)

def walkEntries (depth : Nat) (state : WalkState) : Members → Members × WalkState
  | [] => ([], state)
  | (key, value) :: rest =>
    let (value, state) := walkNode depth state value
    let (rest, state) := walkEntries depth state rest
    ((key, value) :: rest, state)

def walkItems (depth : Nat) (state : WalkState) : List Json → List Json × WalkState
  | [] => ([], state)
  | item :: rest =>
    let (item, state) := walkNode depth state item
    let (rest, state) := walkItems depth state rest
    (item :: rest, state)

end

end Walk

def componentNames (components : Json) : List String :=
  match get "schemas" components with
  | some (.object members) => members.map Prod.fst
  | _ => []

/-- **The walk**, with as much room as there are components that are not on the stack. -/
def walk (components : Json) (budget : Budget) :
    Nat → List String → Nat → WalkState → Json → Json × WalkState
  -- all components are on the stack
  | 0, _ => walkNode components budget (fun _ => true) fun _ target _ state => (target, state)
  | room + 1, stack =>
    walkNode components budget stack.contains fun name target depth state =>
      walk components budget room (name :: stack) depth state target

/-! ### Definitions -/

mutual

/-- `rewrite_refs_to_defs`, the node. -/
def rewriteRefs : Json → Json
  | .object members =>
    match componentRefName members with
    | some name => defsRef name (siblings members)
    | none => .object (rewriteMembers members)
  | .array items => .array (rewriteItems items)
  | other => other

def rewriteMembers : Members → Members
  | [] => []
  | (key, value) :: rest => (key, rewriteRefs value) :: rewriteMembers rest

def rewriteItems : List Json → List Json
  | [] => []
  | item :: rest => rewriteRefs item :: rewriteItems rest

end

mutual

/-- `rewrite_refs_to_defs`, the names it records. -/
def namesIn (seen : List String) : Json → List String
  | .object members =>
    match componentRefName members with
    | some name => seen.insert name
    | none => namesInMembers seen members
  | .array items => namesInItems seen items
  | _ => seen

def namesInMembers (seen : List String) : Members → List String
  | [] => seen
  | (_, value) :: rest => namesInMembers (namesIn seen value) rest

def namesInItems (seen : List String) : List Json → List String
  | [] => seen
  | item :: rest => namesInItems (namesIn seen item) rest

end

def definitionOf (components : Json) (name : String) : Json :=
  match component components name with
  | some body => rewriteRefs body
  | none => unresolved name

/-- The components that a definition refers to. -/
def neededBy (components : Json) (name : String) : List String :=
  match component components name with
  | some body => namesIn [] body
  | none => []

/-- `close_defs`, the loop. The room is enough for every round; the queue's end comes first. -/
def closeLoop (components : Json) : Nat → List String → Members → Members
  | 0, _, defs => defs
  | _, [], defs => defs
  | room + 1, name :: queue, defs =>
    if (defs.lookup name).isSome then closeLoop components room queue defs
    else
      let found := (neededBy components name).filter fun other => (defs.lookup other).isNone
      closeLoop components room (found.reverse ++ queue)
        (defs ++ [(name, definitionOf components name)])

def closeRounds (components : Json) (seed : List String) : Nat :=
  seed.length + ((componentNames components).map fun name => (neededBy components name).length).sum
    + 1

def closeDefs (components : Json) (seed : List String) : Members :=
  closeLoop components (closeRounds components seed) seed.reverse []

def attachDefs (root : Json) (defs : Members) : Json :=
  match root with
  | .object members =>
    match members.lookup "$defs" with
    | none => .object (members ++ [("$defs", .object defs)])
    | some _ => .object (members.map fun member =>
        if member.1 = "$defs" then
          match member.2 with
          | .object own =>
            (member.1, .object (own ++ defs.filter fun entry => (own.lookup entry.1).isNone))
          | _ => member
        else member)
  | _ => .object [("$comment", .string "non-object root schema"), ("$defs", .object defs)]

/-! ### Size -/

inductive SchemaForm
  | inline
  | defs
  deriving DecidableEq

structure InlinedSchema where
  schema : Json
  form : SchemaForm
  truncated : Bool

def serializedLen (value : Json) : Nat := value.render.utf8ByteSize

/-- The entry of a definition that is left out. -/
def placeholder (name : String) : Json := comment ("schema \"" ++ name ++ "\" omitted for size")

def setEntry (name : String) (body : Json) (defs : Members) : Members :=
  defs.map fun entry => if entry.1 = name then (name, body) else entry

/-- The loop that leaves out definitions: the definitions, and whether any was left out. -/
def elide (root : Json) (hardMaxBytes : Nat) : List (Nat × String) → Members → Bool → Members × Bool
  | [], defs, truncated => (defs, truncated)
  | (size, name) :: rest, defs, truncated =>
    if serializedLen (attachDefs root defs) ≤ hardMaxBytes then (defs, truncated)
    else if size ≤ serializedLen (placeholder name) then (defs, truncated)
    else elide root hardMaxBytes rest (setEntry name (placeholder name) defs) true

/-- Larger ones first, then by name. -/
def bySize (first second : Nat × String) : Prop :=
  second.1 < first.1 ∨ first.1 = second.1 ∧ first.2 ≤ second.2

instance : DecidableRel bySize := fun first second =>
  inferInstanceAs (Decidable (second.1 < first.1 ∨ first.1 = second.1 ∧ first.2 ≤ second.2))

def compactForm (schema components : Json) (budget : Budget) : InlinedSchema :=
  let root := rewriteRefs schema
  let defs := closeDefs components (namesIn [] schema)
  let sizes := (defs.map fun entry => (serializedLen entry.2, entry.1)).insertionSort bySize
  let (defs, truncated) := elide root budget.hardMaxBytes sizes defs false
  ⟨if defs.isEmpty then root else attachDefs root defs, .defs, truncated⟩

def walkRoot (schema components : Json) (budget : Budget) : Json × WalkState :=
  walk components budget (componentNames components).length [] 0 ⟨[], 0⟩ schema

def inlineSchemaWith (schema components : Json) (budget : Budget) : InlinedSchema :=
  let (root, state) := walkRoot schema components budget
  let defs := closeDefs components state.deferred
  let whole := if defs.isEmpty then root else attachDefs root defs
  if serializedLen whole ≤ budget.maxBytes ∨ state.expansions = 0 then
    ⟨whole, if defs.isEmpty then .inline else .defs, false⟩
  else compactForm schema components budget

end Ziee.Control
