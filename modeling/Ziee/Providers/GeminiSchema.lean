/-
**Tool schemas for Gemini** (`providers/gemini.rs`, `sanitize_schema_for_gemini`).

Gemini refuses some keywords of JSON Schema, so they are removed from a tool's parameters before the
request goes out. The walk visits every object of the schema and removes the members of these names
from each; it does not tell a schema from the map of its properties, where the names are the tool's.

* `sanitizeSchemaForGemini`, `convertTools` — the walk, and the declarations that are sent.
* `sanitized_iff` — the declared properties are kept exactly when none of them, at any depth, has
  the name of a removed keyword; the keywords are always removed, and a second walk changes nothing.
-/

import Ziee.Providers.Chat

namespace Ziee.Providers

def unsupportedKeywords : List String := ["exclusiveMinimum", "exclusiveMaximum", "title"]

mutual

def sanitizeSchemaForGemini : Json → Json
  | .object members => .object (sanitizeMembers members)
  | .array items => .array (sanitizeItems items)
  | .null => .null
  | .bool value => .bool value
  | .number value => .number value
  | .string value => .string value

def sanitizeItems : List Json → List Json
  | [] => []
  | item :: rest => sanitizeSchemaForGemini item :: sanitizeItems rest

/-- The members left after `remove`, each sanitized. -/
def sanitizeMembers : List (String × Json) → List (String × Json)
  | [] => []
  | (key, value) :: rest =>
    if key ∈ unsupportedKeywords then sanitizeMembers rest
    else (key, sanitizeSchemaForGemini value) :: sanitizeMembers rest

end

structure FunctionTool where
  name : String
  description : Option String
  parameters : Json

structure GeminiFunctionDeclaration where
  name : String
  description : String
  parameters : Option Json

/-- `convert_tools`: no tool, no declaration list. -/
def convertTools (tools : List FunctionTool) : List (List GeminiFunctionDeclaration) :=
  if tools.isEmpty then []
  else [tools.map fun tool =>
    { name := tool.name
      description := tool.description.getD ""
      parameters := some (sanitizeSchemaForGemini tool.parameters) }]

/-! ### Subschemas -/

/-- A member of an object, or an item of an array. -/
inductive Segment
  | key (name : String)
  | index (place : Nat)
  deriving DecidableEq, Repr

def child : Segment → Json → Option Json
  | .key name, .object members => members.lookup name
  | .index place, .array items => items[place]?
  | _, _ => none

def follow : List Segment → Json → Option Json
  | [], value => some value
  | segment :: rest, value => (child segment value).bind (follow rest)

inductive Combinator
  | allOf
  | anyOf
  | oneOf
  deriving DecidableEq, Repr

def Combinator.keyword : Combinator → String
  | .allOf => "allOf"
  | .anyOf => "anyOf"
  | .oneOf => "oneOf"

/-- How a subschema is nested in its schema. -/
inductive SchemaStep
  | property (name : String)
  | items
  | item (place : Nat)
  | branch (combinator : Combinator) (place : Nat)
  | negated
  deriving DecidableEq, Repr

def SchemaStep.segments : SchemaStep → List Segment
  | .property name => [.key "properties", .key name]
  | .items => [.key "items"]
  | .item place => [.key "items", .index place]
  | .branch combinator place => [.key combinator.keyword, .index place]
  | .negated => [.key "not"]

/-- **The subschema at a place of a schema.** -/
def reach (schema : Json) (path : List SchemaStep) : Option Json :=
  follow (path.flatMap SchemaStep.segments) schema

def KeepsDeclared (schema : Json) : Prop :=
  ∀ path name declared, reach schema (path ++ [.property name]) = some declared →
    reach (sanitizeSchemaForGemini schema) (path ++ [.property name]) =
      some (sanitizeSchemaForGemini declared)

def FreeOfKeywords (schema : Json) : Prop :=
  ∀ path found, reach schema path = some found →
    ∀ keyword ∈ unsupportedKeywords, child (.key keyword) found = none

/-- **No declared property, at any depth, has the name of an unsupported keyword.** -/
def DeclaresNoKeyword (schema : Json) : Prop :=
  ∀ path name declared, reach schema (path ++ [.property name]) = some declared →
    name ∉ unsupportedKeywords

/-! ### The walk at a member or an item -/

def Segment.removed : Segment → Bool
  | .key name => name ∈ unsupportedKeywords
  | .index _ => false

theorem lookup_sanitizeMembers (members : List (String × Json)) (name : String) :
    (sanitizeMembers members).lookup name =
      if name ∈ unsupportedKeywords then none
      else (members.lookup name).map sanitizeSchemaForGemini := by
  induction members with
  | nil => simp [sanitizeMembers]
  | cons member rest ih =>
    obtain ⟨key, value⟩ := member
    rw [sanitizeMembers]
    by_cases same : name = key
    · subst same
      by_cases removed : name ∈ unsupportedKeywords
      · rw [if_pos removed, if_pos removed, ih, if_pos removed]
      · rw [if_neg removed, if_neg removed]
        simp
    · have other : (name == key) = false := beq_false_of_ne same
      by_cases removed : key ∈ unsupportedKeywords
      · rw [if_pos removed, ih, List.lookup_cons, other]
      · rw [if_neg removed, List.lookup_cons, other, ih, List.lookup_cons, other]

theorem getElem?_sanitizeItems (items : List Json) (place : Nat) :
    (sanitizeItems items)[place]? = items[place]?.map sanitizeSchemaForGemini := by
  induction items generalizing place with
  | nil => simp [sanitizeItems]
  | cons item rest ih =>
    rw [sanitizeItems]
    cases place with
    | zero => rfl
    | succ place => exact ih place

/-- **One member or item of what the walk leaves.** -/
theorem child_sanitize (segment : Segment) (value : Json) :
    child segment (sanitizeSchemaForGemini value) =
      if segment.removed then none else (child segment value).map sanitizeSchemaForGemini := by
  cases segment with
  | key name =>
    cases value with
    | object members =>
      simpa [child, sanitizeSchemaForGemini, Segment.removed] using
        lookup_sanitizeMembers members name
    | _ => simp [child, sanitizeSchemaForGemini]
  | index place =>
    cases value with
    | array items =>
      simpa [child, sanitizeSchemaForGemini, Segment.removed] using
        getElem?_sanitizeItems items place
    | _ => simp [child, sanitizeSchemaForGemini]

theorem follow_sanitize {segments : List Segment}
    (kept : ∀ segment ∈ segments, segment.removed = false) (value : Json) :
    follow segments (sanitizeSchemaForGemini value) =
      (follow segments value).map sanitizeSchemaForGemini := by
  induction segments generalizing value with
  | nil => rfl
  | cons segment rest ih =>
    rw [follow, follow, child_sanitize, kept segment List.mem_cons_self]
    cases child segment value with
    | none => rfl
    | some inner => exact ih (fun other member => kept other (List.mem_cons_of_mem _ member)) inner

theorem follow_append (first second : List Segment) (value : Json) :
    follow (first ++ second) value = (follow first value).bind (follow second) := by
  induction first generalizing value with
  | nil => rfl
  | cons segment rest ih =>
    rw [List.cons_append, follow, follow, Option.bind_assoc]
    exact congrArg _ (funext fun inner => ih inner)

/-- **Nothing sanitized has a removed member**, wherever it stands. -/
theorem follow_removed {segments : List Segment} {value found : Json}
    (there : follow segments (sanitizeSchemaForGemini value) = some found) :
    ∃ inner, found = sanitizeSchemaForGemini inner := by
  induction segments generalizing value with
  | nil => exact ⟨value, (Option.some.inj there).symm⟩
  | cons segment rest ih =>
    obtain ⟨middle, here, later⟩ := Option.bind_eq_some_iff.mp there
    rw [child_sanitize] at here
    split at here
    · exact absurd here (by simp)
    · obtain ⟨inner, -, rfl⟩ := Option.map_eq_some_iff.mp here
      exact ih later

/-! ### The walk at a subschema -/

section Reach

variable {schema declared found : Json} {path : List SchemaStep} {name : String}

theorem reach_cons (step : SchemaStep) (path : List SchemaStep) (schema : Json) :
    reach schema (step :: path) = (follow step.segments schema).bind fun inner =>
      reach inner path := by
  rw [reach, List.flatMap_cons, follow_append]
  rfl

theorem SchemaStep.kept (step : SchemaStep)
    (named : ∀ name, step = .property name → name ∉ unsupportedKeywords) :
    ∀ segment ∈ step.segments, segment.removed = false := by
  cases step with
  | property name =>
    have own := named name rfl
    simp only [SchemaStep.segments, List.mem_cons, List.not_mem_nil, or_false]
    rintro segment (rfl | rfl)
    · rfl
    · simpa [Segment.removed] using own
  | branch combinator place =>
    simp only [SchemaStep.segments, List.mem_cons, List.not_mem_nil, or_false]
    rintro segment (rfl | rfl)
    · cases combinator <;> decide
    · rfl
  | items => decide
  | item place =>
    simp only [SchemaStep.segments, List.mem_cons, List.not_mem_nil, or_false]
    rintro segment (rfl | rfl) <;> rfl
  | negated => decide

theorem DeclaresNoKeyword.inner {step : SchemaStep} (clean : DeclaresNoKeyword schema)
    {inner : Json} (there : follow step.segments schema = some inner) :
    DeclaresNoKeyword inner := by
  intro path name declared reached
  refine clean (step :: path) name declared ?_
  rw [List.cons_append, reach_cons, there]
  exact reached

/-- **A subschema of a schema that declares no keyword is kept, and sanitized.** -/
theorem reach_sanitized (clean : DeclaresNoKeyword schema)
    (reached : reach schema path = some found) :
    reach (sanitizeSchemaForGemini schema) path = some (sanitizeSchemaForGemini found) := by
  induction path generalizing schema with
  | nil =>
    obtain rfl := Option.some.inj reached
    rfl
  | cons step rest ih =>
    rw [reach_cons] at reached
    obtain ⟨inner, here, later⟩ := Option.bind_eq_some_iff.mp reached
    have named : ∀ name, step = .property name → name ∉ unsupportedKeywords := by
      rintro name rfl
      refine clean [] name inner ?_
      rw [List.nil_append, reach_cons, here]
      rfl
    rw [reach_cons, follow_sanitize (step.kept named), here]
    exact ih (clean.inner here) later

theorem reach_removed (keyword : name ∈ unsupportedKeywords) (path : List SchemaStep) :
    reach (sanitizeSchemaForGemini schema) (path ++ [.property name]) = none := by
  cases reached : reach (sanitizeSchemaForGemini schema) (path ++ [.property name]) with
  | none => rfl
  | some found =>
    rw [reach, List.flatMap_append, follow_append] at reached
    obtain ⟨inner, before, last⟩ := Option.bind_eq_some_iff.mp reached
    obtain ⟨original, rfl⟩ := follow_removed before
    have split : follow [.key "properties", .key name] (sanitizeSchemaForGemini original) =
        some found := last
    obtain ⟨properties, there, member⟩ := Option.bind_eq_some_iff.mp split
    have walked :
        follow [.key "properties"] (sanitizeSchemaForGemini original) = some properties := by
      rw [follow, there]
      rfl
    obtain ⟨map, rfl⟩ := follow_removed walked
    have gone : child (.key name) (sanitizeSchemaForGemini map) = none := by
      rw [child_sanitize, Segment.removed, decide_eq_true keyword]
      rfl
    rw [follow, gone] at member
    exact absurd member (by simp)

/-- **The keywords are always removed**, at every depth. -/
theorem sanitized_free (schema : Json) : FreeOfKeywords (sanitizeSchemaForGemini schema) := by
  intro path found reached keyword listed
  obtain ⟨inner, rfl⟩ := follow_removed reached
  rw [child_sanitize, Segment.removed, decide_eq_true listed]
  rfl

end Reach

/-! ### The walk twice -/

mutual

/-- **A second walk changes nothing.** -/
theorem sanitize_idempotent : ∀ schema : Json,
    sanitizeSchemaForGemini (sanitizeSchemaForGemini schema) = sanitizeSchemaForGemini schema
  | .null => rfl
  | .bool _ => rfl
  | .number _ => rfl
  | .string _ => rfl
  | .array items => by
    simp only [sanitizeSchemaForGemini]
    exact congrArg Json.array (sanitizeItems_idempotent items)
  | .object members => by
    simp only [sanitizeSchemaForGemini]
    exact congrArg Json.object (sanitizeMembers_idempotent members)

theorem sanitizeItems_idempotent : ∀ items : List Json,
    sanitizeItems (sanitizeItems items) = sanitizeItems items
  | [] => rfl
  | item :: rest => by
    simp only [sanitizeItems]
    rw [sanitize_idempotent item, sanitizeItems_idempotent rest]

theorem sanitizeMembers_idempotent : ∀ members : List (String × Json),
    sanitizeMembers (sanitizeMembers members) = sanitizeMembers members
  | [] => rfl
  | (key, value) :: rest => by
    rw [sanitizeMembers]
    split
    · exact sanitizeMembers_idempotent rest
    · rename_i supported
      rw [sanitizeMembers, if_neg supported, sanitize_idempotent value,
        sanitizeMembers_idempotent rest]

end

/-! ### The declared properties -/

/-- **What the walk promises a tool's schema, it keeps exactly when no declared property has the
name of an unsupported keyword.** -/
theorem sanitized_iff (schema : Json) :
    (KeepsDeclared schema ∧ FreeOfKeywords (sanitizeSchemaForGemini schema) ∧
      sanitizeSchemaForGemini (sanitizeSchemaForGemini schema) = sanitizeSchemaForGemini schema) ↔
    DeclaresNoKeyword schema := by
  constructor
  · rintro ⟨keeps, -, -⟩ path name declared reached keyword
    have kept := keeps path name declared reached
    rw [reach_removed keyword path] at kept
    exact absurd kept (by simp)
  · intro clean
    exact ⟨fun path name declared reached => reach_sanitized clean reached, sanitized_free schema,
      sanitize_idempotent schema⟩

/-- A tool that takes a title loses the parameter. -/
theorem title_property_lost :
    ¬ KeepsDeclared (.object
      [("properties", .object [("title", .object [("type", .string "string")])]),
        ("type", .string "object")]) := by
  intro keeps
  have kept := keeps [] "title" (.object [("type", .string "string")]) rfl
  cases kept

end Ziee.Providers
