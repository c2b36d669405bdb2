/-
**What a schema accepts**, for the part of JSON Schema that request schemas use: `type`, `enum`,
`required`, `properties`, `items`, `allOf`, `anyOf`, `oneOf`, and a reference with all that stands
beside it.

* `Evaluates` — the verdict of a schema; a schema that refers to itself in a circle has none.
* **`evaluates_object`** — the verdict of an object is that of all its keywords.
-/

import Ziee.Control.SelfContained
import Ziee.Library.Verdicts

namespace Ziee.Control

open Ziee.Providers (Json JsonNumber)
open Ziee.Library

/-! ### Keywords -/

/-- What is left open: which numbers and objects are equal, which decimals are whole, and what the
schemas of other documents accept. -/
structure Setting where
  equal : Json → Json → Bool
  whole : String → Bool
  elsewhere : String → Json → Bool

inductive Clause
  | type
  | enum
  | required
  | properties
  | items
  | allOf
  | anyOf
  | oneOf
  deriving DecidableEq

def Clause.key : Clause → String
  | .type => "type"
  | .enum => "enum"
  | .required => "required"
  | .properties => "properties"
  | .items => "items"
  | .allOf => "allOf"
  | .anyOf => "anyOf"
  | .oneOf => "oneOf"

def clauses : List Clause :=
  [.type, .enum, .required, .properties, .items, .allOf, .anyOf, .oneOf]

/-- What stands under a reference, and the keywords. -/
def conjuncts : List (Option Clause) := none :: clauses.map some

/-- A schema, and a value that it judges. -/
abbrev Question : Type := Json × Json

section Meaning

variable (setting : Setting)

def hasType (type : String) : Json → Bool
  | .null => type == "null"
  | .bool _ => type == "boolean"
  | .number (.float printed) => type == "number" || type == "integer" && setting.whole printed
  | .number _ => type == "number" || type == "integer"
  | .string _ => type == "string"
  | .array _ => type == "array"
  | .object _ => type == "object"

def typeAllows (types value : Json) : Bool :=
  match types with
  | .string type => hasType setting type value
  | .array types => types.any fun type => (asStr type).any (hasType setting · value)
  | _ => true

def enumAllows (values value : Json) : Bool :=
  match values with
  | .array values => values.any (setting.equal value)
  | _ => true

def requiredAllows (names value : Json) : Bool :=
  match names, value with
  | .array names, .object members =>
    names.all fun name => (asStr name).all fun name => (members.lookup name).isSome
  | _, _ => true

def elements : Json → List Json
  | .array items => items
  | _ => []

def all (subs : List Question) : Conjunct Question := ⟨subs, fun verdicts => verdicts.all id⟩

def propertiesConjunct (schemas value : Json) : Conjunct Question :=
  match schemas with
  | .object entries => all (entries.filterMap fun entry => (get entry.1 value).map (entry.2, ·))
  | _ => .fixed true

def itemsConjunct (schema value : Json) : Conjunct Question :=
  match schema with
  | .array schemas => all (schemas.zip (elements value))
  | schema => all ((elements value).map (schema, ·))

/-- Several schemas, and how many of them must accept. -/
def schemasConjunct (combine : List Bool → Bool) (schemas value : Json) : Conjunct Question :=
  match schemas with
  | .array schemas => ⟨schemas.map (·, value), combine⟩
  | _ => .fixed true

/-- What a keyword demands. -/
def clauseConjunct (clause : Clause) (given : Option Json) (value : Json) : Conjunct Question :=
  match given with
  | none => .fixed true
  | some given =>
    match clause with
    | .type => .fixed (typeAllows setting given value)
    | .enum => .fixed (enumAllows setting given value)
    | .required => .fixed (requiredAllows given value)
    | .properties => propertiesConjunct given value
    | .items => itemsConjunct given value
    | .allOf => schemasConjunct (fun verdicts => verdicts.all id) given value
    | .anyOf => schemasConjunct (fun verdicts => verdicts.any id) given value
    | .oneOf => schemasConjunct (fun verdicts => verdicts.count true == 1) given value

variable (resolve : String → Option Json)

def referenceConjunct (reference : Option String) (value : Json) : Conjunct Question :=
  match reference with
  | none => .fixed true
  | some text =>
    match resolve text with
    | some target => all [(target, value)]
    | none => .fixed (setting.elsewhere text value)

def memberConjunct (members : Members) (value : Json) : Option Clause → Conjunct Question
  | none => referenceConjunct setting resolve (pointer members) value
  | some clause => clauseConjunct setting clause (members.lookup clause.key) value

/-- A `bool` is a schema. -/
def literalVerdict : Json → Bool
  | .bool allowed => allowed
  | _ => true

/-- What a schema demands; what is neither a `bool` nor an object demands nothing. -/
def schemaConjunct (key : Option Clause) (question : Question) : Conjunct Question :=
  match question.1 with
  | .object members => memberConjunct setting resolve members question.2 key
  | other => .fixed (literalVerdict other)

/-- **The verdict of a schema.** -/
def Evaluates (schema value : Json) (verdict : Bool) : Prop :=
  Judged conjuncts (schemaConjunct setting resolve) (schema, value) verdict

end Meaning

/-- The references of a document: to its definitions. -/
def resolveIn (root : Json) (text : String) : Option Json :=
  (stripStart defsStart text).bind (definition root)

def componentOr (components : Json) (name : String) : Json :=
  (component components name).getD (unresolved name)

/-- The references of a schema of the OpenAPI document: to the components as well. -/
def resolveSource (schema components : Json) (text : String) : Option Json :=
  match stripStart componentStart text with
  | some name => some (componentOr components name)
  | none => resolveIn schema text

/-! ### The verdict of an object -/

section Verdicts

variable {setting : Setting} {resolve : String → Option Json} {members others : Members}
    {value : Json}
  {verdict : Bool} {settled : Question → Bool → Prop}

/-- The verdicts of all the keywords of an object. -/
def Members.Agree (setting : Setting) (resolve : String → Option Json)
    (settled : Question → Bool → Prop) (members : Members) (value : Json)
    (reference : Bool) (found : Clause → Bool) : Prop :=
  (referenceConjunct setting resolve (pointer members) value).Settles settled reference ∧
    ∀ clause, (clauseConjunct setting clause (members.lookup clause.key) value).Settles settled
      (found clause)

theorem mem_clauses (clause : Clause) : clause ∈ clauses := by
  cases clause <;> decide

theorem agreed_object : Agreed conjuncts settled (fun key => schemaConjunct setting resolve key
      (.object members, value)) verdict ↔
    ∃ reference found, Members.Agree setting resolve settled members value reference found ∧
      (reference && clauses.all found) = verdict := by
  constructor
  · rintro ⟨found, each, same⟩
    refine ⟨found none, fun clause => found (some clause),
      ⟨each none List.mem_cons_self, fun clause =>
      each (some clause) (List.mem_cons_of_mem _ (List.mem_map_of_mem (mem_clauses clause)))⟩, ?_⟩
    rw [← same, conjuncts, List.all_cons, List.all_map]
    rfl
  · rintro ⟨reference, found, ⟨here, each⟩, same⟩
    refine ⟨fun key => key.elim reference found, fun key _ => ?_, ?_⟩
    · cases key with
      | none => exact here
      | some clause => exact each clause
    · rw [← same, conjuncts, List.all_cons, List.all_map]
      rfl

/-- **The verdict of an object** is that of all its keywords. -/
theorem evaluates_object : Evaluates setting resolve (.object members) value verdict ↔
    ∃ reference found, Members.Agree setting resolve
        (fun question verdict => Evaluates setting resolve question.1 question.2 verdict)
        members value reference found ∧ (reference && clauses.all found) = verdict := by
  rw [Evaluates, judged_iff]
  exact agreed_object

theorem agreed_literal {node : Json} (literal : ∀ members, node ≠ .object members) :
    Agreed conjuncts settled (fun key => schemaConjunct setting resolve key (node, value)) verdict ↔
      literalVerdict node = verdict := by
  have fixed : ∀ key, schemaConjunct setting resolve key (node, value) = .fixed
    (literalVerdict node) := by
    intro key
    cases node with
    | object members => exact absurd rfl (literal members)
    | array | null | bool | number | string => rfl
  have whole : ∀ {found : Option Clause → Bool}, (∀ key, found key = literalVerdict node) →
      conjuncts.all found = literalVerdict node := by
    intro found each
    rw [funext each]
    cases literalVerdict node <;> rfl
  constructor
  · rintro ⟨found, each, same⟩
    have all : ∀ key, found key = literalVerdict node := by
      intro key
      have member : key ∈ conjuncts := by
        cases key with
        | none => exact List.mem_cons_self
        | some clause => exact List.mem_cons_of_mem _ (List.mem_map_of_mem (mem_clauses clause))
      have settled := each key member
      simp only [fixed] at settled
      exact (Conjunct.settles_fixed.mp settled).symm
    exact (whole all).symm.trans same
  · rintro rfl
    refine ⟨fun _ => literalVerdict node, fun key _ => ?_, whole fun _ => rfl⟩
    simp only [fixed]
    exact Conjunct.settles_fixed.mpr rfl

theorem evaluates_literal {node : Json} (literal : ∀ members, node ≠ .object members) :
    Evaluates setting resolve node value verdict ↔ literalVerdict node = verdict := by
  rw [Evaluates, judged_iff]
  exact agreed_literal literal

end Verdicts

end Ziee.Control
