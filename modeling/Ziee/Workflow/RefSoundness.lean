/-
**What the type check promises of a reference** (`ref_check.rs`, `type_infer.rs`).

A reference the check reports nothing for can still fail on the shape of its value: a declared
property need not be in the response, a provided input need not look like the default, and the item
of a map is not checked at all. Where these are excluded, it does not fail on a shape.

* `Clean.of_value`, `Clean.of_schema` — a walk the check is silent on, over a value of the type.
* `silent_references_fail` — one that does, in each of the three cases.
-/

import Ziee.Workflow.RenderRefs

namespace Ziee.Workflow.Typing

open Ziee.Providers Ziee.Agent

variable {items : List Json} {members : List (String × Json)} {name : String}
  {accesses : List Access}

/-- The value is not of the shape an access needs. -/
def IsShapeError : TemplateError → Prop
  | .notAnArray => True
  | .notAnObject _ _ => True
  | .missingField _ _ => True
  | _ => False

/-- **No shape error.** -/
def FitsShape {α : Type} (result : Except TemplateError α) : Prop :=
  ∀ error, result = .error error → ¬IsShapeError error

variable {rest : List Access} {type : InferredType}

theorem FitsShape.ok {α : Type} (value : α) : FitsShape (.ok value : Except TemplateError α) :=
  nofun

theorem FitsShape.error {α : Type} {error : TemplateError} (other : ¬IsShapeError error) :
    FitsShape (.error error : Except TemplateError α) := by
  intro error' same
  cases same
  exact other

theorem FitsShape.map {α β : Type} {result : Except TemplateError α} (fits : FitsShape result)
    (f : α → β) : FitsShape (result.map f) := by
  cases result with
  | ok value => exact .ok _
  | error error => exact .error (fits error rfl)

theorem fitsShape_walk_index {path : String} {index : Nat}
    (each : ∀ item ∈ items, FitsShape (walkValue path item rest)) :
    FitsShape (walkValue path (.array items) (.index index :: rest)) := by
  cases found : items[index]? with
  | none =>
    simp only [walkValue, found]
    exact .error id
  | some item =>
    simp only [walkValue, found]
    exact each item (List.mem_of_getElem? found)

theorem fitsShape_walk_field {path : String} {item : Json} (found : members.lookup name = some item)
    (fits : FitsShape (walkValue path item rest)) :
    FitsShape (walkValue path (.object members) (.field name :: rest)) := by
  simp only [walkValue, found]
  exact fits

theorem inferItems_eq_map (items : List Json) :
    inferItems items = items.map inferFromJsonValue := by
  induction items with
  | nil => rfl
  | cons item rest ih => rw [inferItems, ih, List.map_cons]

theorem inferFromJsonValue_of_array {inner : InferredType}
    (inferred : inferFromJsonValue (.array items) = .array inner) :
    ∀ item ∈ items, inferFromJsonValue item = inner := by
  rw [inferFromJsonValue, inferItems_eq_map] at inferred
  cases items with
  | nil => cases inferred
  | cons first rest =>
    simp only [List.map_cons] at inferred
    split at inferred
    · rename_i agree
      cases inferred
      intro item member
      rcases List.mem_cons.mp member with rfl | later
      · rfl
      · have all := List.all_eq_true.mp agree _ (List.mem_map_of_mem later)
        exact InferredType.eq_of_beq all
    · cases inferred

theorem inferFromJsonValue_array (items : List Json) :
    (∃ inner, inferFromJsonValue (.array items) = .array inner) ∨
      inferFromJsonValue (.array items) = .arrayUnknown := by
  rw [inferFromJsonValue]
  split
  · exact Or.inr rfl
  · split
    · exact Or.inl ⟨_, rfl⟩
    · exact Or.inr rfl

theorem fitsShape_walk_nil (path : String) (value : Json) : FitsShape
    (walkValue path value []) := by
  unfold walkValue
  exact .ok _

/-- **The walk of a value along accesses its own type allows.** -/
theorem Clean.of_value {path : String} {value : Json}
    (clean : Clean (inferFromJsonValue value) accesses) :
    FitsShape (walkValue path value accesses) := by
  induction accesses generalizing value with
  | nil => exact fitsShape_walk_nil path value
  | cons access rest ih =>
    cases value with
    | array items =>
      rcases inferFromJsonValue_array items with ⟨inner, inferred⟩ | inferred
      · have each := inferFromJsonValue_of_array inferred
        rw [inferred] at clean
        cases clean with
        | item clean =>
          refine fitsShape_walk_index fun item member => ih ?_
          rw [each item member]
          exact clean
      · rw [inferred] at clean
        cases clean with
        | unknownItem => exact fitsShape_walk_index fun item _ => fitsShape_walk_nil path item
    | _ =>
      rw [inferFromJsonValue] at clean
      cases clean

/-! ### A value its schema admits -/

/-- **The schema requires what the accesses take**: at each a plain schema of one type, an object's
that requires the field or an array's whose items it describes. -/
def RequiredPath (schema : Json) : List Access → Prop
  | [] => True
  | .field name :: rest =>
    keyword schema "$ref" = none ∧ keyword schema "type" = some (.string "object") ∧
      (∃ names, keyword schema "required" = some (.array names) ∧ .string name ∈ names) ∧
      ∀ properties sub, keyword schema "properties" = some (.object properties) →
        properties.lookup name = some sub → RequiredPath sub rest
  | .index _ :: rest =>
    keyword schema "$ref" = none ∧ keyword schema "type" = some (.string "array") ∧
      (rest ≠ [] → keyword schema "prefixItems" = none ∧
        ∀ sub, keyword schema "items" = some sub → RequiredPath sub rest)

theorem lookup_map_infer (properties : List (String × Json)) (name : String) :
    (properties.map fun entry => (entry.1, inferFromJsonSchema entry.2)).lookup name =
      (properties.lookup name).map inferFromJsonSchema := by
  induction properties with
  | nil => rfl
  | cons entry rest ih =>
    rw [List.map_cons, List.lookup_cons, List.lookup_cons, ih]
    cases name == entry.1 <;> rfl

theorem inferFromJsonSchema_object {schema : Json} {properties : List (String × Json)}
    (object : keyword schema "type" = some (.string "object"))
    (listed : keyword schema "properties" = some (.object properties)) :
    inferFromJsonSchema schema =
      objectOf (properties.map fun entry => (entry.1, inferFromJsonSchema entry.2)) := by
  cases schema with
  | object members =>
    simp only [keyword] at object listed
    rw [inferFromJsonSchema]
    simp only [object, textOf]
    split
    · rename_i found
      cases listed.symm.trans found
      have whole := List.attach_map_val (l := properties)
        (f := fun entry => (entry.1, inferFromJsonSchema entry.2))
      rw [← whole]
    · rename_i other
      exact absurd listed (other _)
  | _ => cases object

theorem inferFromJsonSchema_unlisted {schema : Json}
    (object : keyword schema "type" = some (.string "object"))
    (unlisted : ¬∃ properties, keyword schema "properties" = some (.object properties)) :
    inferFromJsonSchema schema = .objectUnknown := by
  cases schema with
  | object members =>
    simp only [keyword] at object unlisted
    rw [inferFromJsonSchema]
    simp only [object, textOf]
    split
    · rename_i properties found
      exact absurd ⟨properties, found⟩ unlisted
    · rfl
  | _ => cases object

theorem clean_field_of_schema {schema : Json}
    (object : keyword schema "type" = some (.string "object"))
    (clean : Clean (inferFromJsonSchema schema) (.field name :: rest)) :
    ∃ properties sub, keyword schema "properties" = some (.object properties) ∧
      properties.lookup name = some sub ∧ Clean (inferFromJsonSchema sub) rest := by
  by_cases listed : ∃ properties, keyword schema "properties" = some (.object properties)
  · obtain ⟨properties, listed⟩ := listed
    rw [inferFromJsonSchema_object object listed, objectOf] at clean
    split at clean
    · cases clean
    · cases clean with
      | field found clean =>
        rw [lookup_map_infer, Option.map_eq_some_iff] at found
        obtain ⟨sub, found, rfl⟩ := found
        exact ⟨properties, sub, listed, found, clean⟩
  · rw [inferFromJsonSchema_unlisted object listed] at clean
    cases clean

theorem clean_index_of_schema {schema : Json} {index : Nat}
    (array : keyword schema "type" = some (.string "array"))
    (clean : Clean (inferFromJsonSchema schema) (.index index :: rest)) :
    rest = [] ∨ ∃ sub, keyword schema "items" = some sub ∧
      Clean (inferFromJsonSchema sub) rest := by
  cases schema with
  | object members =>
    simp only [keyword] at array ⊢
    rw [inferFromJsonSchema] at clean
    simp only [array, textOf] at clean
    split at clean
    · rename_i sub found
      cases clean with
      | item clean => exact Or.inr ⟨sub, found, clean⟩
    · cases clean with
      | unknownItem => exact Or.inl rfl
  | _ => cases array

theorem inferFromJsonSchema_other {schema : Json} (other : ∀ members, schema ≠ .object members) :
    inferFromJsonSchema schema = .objectUnknown := by
  cases schema with
  | object members => exact absurd rfl (other members)
  | _ =>
    rw [inferFromJsonSchema]
    exact other

section Schema

variable {engine : SchemaEngine} {root value schema part : Json} {path : String}

/-- **The walk of a part that a schema applies to**, along accesses the schema requires. -/
theorem Clean.of_schema (documented : engine.Documented) (compiled : engine.compiles root = true)
    (accepted : engine.errors root value = [])
    (applies : Applies root value schema part) (required : RequiredPath schema accesses)
    (clean : Clean (inferFromJsonSchema schema) accesses) :
    FitsShape (walkValue path part accesses) := by
  induction accesses generalizing schema part with
  | nil => exact fitsShape_walk_nil path part
  | cons access rest ih =>
    cases access with
    | field name =>
      obtain ⟨plain, object, ⟨names, requires, named⟩, below⟩ := required
      obtain ⟨properties, sub, listed, found, clean⟩ := clean_field_of_schema object clean
      obtain ⟨members, rfl⟩ := documented.objects compiled accepted applies plain object
      obtain ⟨item, present⟩ :=
        documented.required compiled accepted applies plain requires named
      exact fitsShape_walk_field present (ih (.property applies plain listed found present)
          (below properties sub listed found) clean)
    | index index =>
      obtain ⟨plain, array, below⟩ := required
      obtain ⟨items, rfl⟩ := documented.arrays compiled accepted applies plain array
      refine fitsShape_walk_index fun item member => ?_
      by_cases ends : rest = []
      · rw [ends]
        exact fitsShape_walk_nil path item
      · obtain ⟨whole, below⟩ := below ends
        rcases clean_index_of_schema array clean with none | ⟨sub, described, clean⟩
        · exact absurd none ends
        · refine ih (.item applies plain whole described ?_ member) (below sub described) clean
          rintro subs rfl
          rw [inferFromJsonSchema_other (by simp)] at clean
          cases clean
          exact ends rfl

end Schema

/-! ### The inputs -/

def BoundTo (provided : List (String × Json)) (input : InputDef) (value : Json) : Prop :=
  provided.lookup input.name = some value ∨
    provided.lookup input.name = none ∧ (input.default = some value ∨ input.default = none)

section Inputs

variable {provided bound bound' : List (String × Json)}

theorem bindInputs_cons (name : String) {input : InputDef} {rest : List InputDef}
    (binds : bindInputs provided (input :: rest) bound = .ok bound') :
    ∃ bound₁, bindInputs provided rest bound₁ = .ok bound' ∧
      ∀ value, bound₁.lookup name = some value →
        (input.name = name → BoundTo provided input value) ∧
          (input.name ≠ name → bound.lookup name = some value) := by
  rw [bindInputs] at binds
  have newest : ∀ (fresh value : Json), ((input.name, fresh) :: bound).lookup name = some value →
      (input.name = name → fresh = value) ∧
        (input.name ≠ name → bound.lookup name = some value) := by
    intro fresh value found
    rw [List.lookup_cons] at found
    by_cases same : input.name = name
    · exact ⟨fun _ => by simpa [same] using found, fun different => absurd same different⟩
    · have other : (name == input.name) = false := by simpa using Ne.symm same
      rw [other] at found
      exact ⟨fun same' => absurd same' same, fun _ => found⟩
  split at binds
  · rename_i given provides
    refine ⟨_, binds, fun value found => ⟨fun same => Or.inl ?_, (newest _ _ found).2⟩⟩
    rw [provides, (newest _ _ found).1 same]
  · rename_i absent
    split at binds
    · rename_i default declared
      refine ⟨_, binds, fun value found =>
        ⟨fun same => Or.inr ⟨absent, Or.inl ?_⟩, (newest _ _ found).2⟩⟩
      rw [declared, (newest _ _ found).1 same]
    · rename_i undeclared
      split at binds
      · cases binds
      · exact ⟨_, binds, fun value found =>
          ⟨fun _ => Or.inr ⟨absent, Or.inr undeclared⟩, fun _ => found⟩⟩

/-- **What a name is bound to** is said by the last declaration of it. -/
theorem bindInputs_lookup {inputs : List InputDef} {value : Json}
    (binds : bindInputs provided inputs bound = .ok bound')
    (found : bound'.lookup name = some value) :
    (∃ input, inputs.reverse.find? (·.name = name) = some input ∧ BoundTo provided input value) ∨
      inputs.reverse.find? (·.name = name) = none ∧ bound.lookup name = some value := by
  induction inputs generalizing bound with
  | nil =>
    cases binds
    exact Or.inr ⟨rfl, found⟩
  | cons input rest ih =>
    obtain ⟨bound₁, later, first⟩ := bindInputs_cons name binds
    rw [List.reverse_cons, List.find?_append]
    rcases ih later with ⟨input', named, origin⟩ | ⟨unnamed, before⟩
    · rw [named]
      exact Or.inl ⟨input', rfl, origin⟩
    · rw [unnamed]
      by_cases same : input.name = name
      · exact Or.inl ⟨input, by simp [same], (first value before).1 same⟩
      · exact Or.inr ⟨by simp [same], (first value before).2 same⟩

end Inputs

/-! ### The references -/

/-- **The values a reference meets are of the declared shape**: its head is not the item of a map; a
provided input that it looks into would be looked into as silently if it were the default; the
schema of an elicit step compiles, and requires what is taken of the response. -/
structure Declared (engine : SchemaEngine) (workflow : WorkflowDef) (request : Json)
    (bindings : List (String × Json)) (expr : RefExpr) : Prop where
  unbound : bindings.lookup expr.head = none
  inputs : ∀ {name : String} {rest : List Access} {value : Json}, expr.head = "inputs" →
    expr.accesses = .field name :: rest → keyword request name = some value →
    Clean (inferFromJsonValue value) rest
  responses : ∀ {step : StepDef} {schema : Json} {rest : List Access}, step ∈ workflow.steps →
    step.id = expr.head → expr.head ≠ "inputs" → step.config = .elicit schema →
    expr.accesses = .field "output" :: rest → rest ≠ [] →
    engine.compiles schema = true ∧ RequiredPath schema rest

section References

variable {engine : SchemaEngine} {workflow : WorkflowDef} {request : Json} {ctx : RunContext}
  {bindings : List (String × Json)} {loc : String}

theorem clean_formatType {format : OutputFormat}
    (clean : Clean (formatType format) accesses) : accesses = [] := by
  cases format with
  | text =>
    cases clean
    rfl
  | json => exact clean_unknown_iff.mp clean

/-- **A step's output, along accesses the check is silent on.** -/
theorem fitsShape_output (documented : engine.Documented) {config : StepConfig} {value : Json}
    {path : String} (admitted : Admitted engine config value)
    (clean : Clean (inferStepOutputType config) accesses)
    (declared : ∀ schema, config = .elicit schema → accesses ≠ [] →
      engine.compiles schema = true ∧ RequiredPath schema accesses) :
    FitsShape (walkValue path value accesses) := by
  by_cases ends : accesses = []
  · rw [ends]
    exact fitsShape_walk_nil path value
  cases config with
  | llm | agent => exact absurd (clean_formatType clean) ends
  | sandbox | tool => exact absurd (clean_unknown_iff.mp clean) ends
  | llmMap format =>
    obtain ⟨items, rfl, -⟩ := admitted
    cases clean with
    | done => exact absurd rfl ends
    | item clean =>
      rw [clean_formatType clean]
      exact fitsShape_walk_index fun item _ => fitsShape_walk_nil path item
  | elicit schema =>
    obtain ⟨compiled, required⟩ := declared schema rfl ends
    obtain ⟨-, accepted⟩ := admitted
    cases schema with
    | object members =>
      have none : (engine.errors (.object members) value).isEmpty = true := by
        by_contra some
        simp [validateResponseShape, compiled, some] at accepted
      exact clean.of_schema documented compiled (List.isEmpty_iff.mp none) .root required
    | _ =>
      rw [inferStepOutputType, inferFromJsonSchema_other (by simp)] at clean
      cases clean
      exact absurd rfl ends

theorem clean_of_input {expr : RefExpr}
    (head : expr.head = "inputs") (taken : expr.accesses = .field name :: rest)
    (typed : workflow.inputType name = some type) (silent : checkOneRef workflow loc expr = []) :
    Clean type rest := by
  unfold checkOneRef at silent
  rw [if_pos head, taken] at silent
  dsimp only at silent
  rw [typed] at silent
  exact walkAccesses_eq_nil_iff.mp silent

theorem clean_of_output {expr : RefExpr}
    (head : expr.head ≠ "inputs") (taken : expr.accesses = .field "output" :: rest)
    (typed : workflow.stepType expr.head = some type)
    (silent : checkOneRef workflow loc expr = []) : Clean type rest := by
  unfold checkOneRef at silent
  rw [if_neg head, taken, typed] at silent
  exact walkAccesses_eq_nil_iff.mp silent

theorem keyword_of_provided {provided : List (String × Json)} {value : Json}
    (members : providedInputs request = .ok provided) (given : provided.lookup name = some value) :
    keyword request name = some value := by
  cases request with
  | object listed =>
    cases members
    exact given
  | null =>
    cases members
    cases given
  | _ => cases members

theorem fitsShape_inputs {expr : ParsedExpr} (reached : Reached engine workflow request ctx)
    (head : expr.head = "inputs") (silent : checkOneRef workflow loc
      ⟨expr.head, expr.accesses⟩ = [])
    (declared : Declared engine workflow request bindings ⟨expr.head, expr.accesses⟩) :
    FitsShape (resolveExpr ctx expr) := by
  unfold resolveExpr
  rw [if_pos head]
  split
  · rename_i name rest taken
    split
    · rename_i base found
      obtain ⟨provided, members, binds⟩ := reached.inputs
      rcases bindInputs_lookup binds found with ⟨input, named, bound⟩ | ⟨-, impossible⟩
      · have typed : workflow.inputType name = some (inferInputType input.default) := by
          rw [WorkflowDef.inputType, named]
          rfl
        have clean := clean_of_input head taken typed silent
        obtain rfl : input.name = name := by simpa using List.find?_some named
        rcases bound with given | ⟨-, default | undeclared⟩
        · exact (declared.inputs head taken (keyword_of_provided members given)).of_value
        · rw [default] at clean
          exact clean.of_value
        · rw [undeclared] at clean
          rw [clean_unknown_iff.mp clean]
          exact fitsShape_walk_nil _ base
      · cases impossible
    · exact .error id
  · exact .error id

theorem stepType_eq {step : StepDef} {id : String} (member : step ∈ workflow.steps)
    (named : step.id = id) : workflow.stepType id = some (inferStepOutputType step.config) := by
  cases found : workflow.steps.find? (·.id = id) with
  | none => exact absurd named (by simpa using List.find?_eq_none.mp found step member)
  | some other =>
    have here : other ∈ workflow.steps := List.mem_of_find?_eq_some found
    have same : other.id = id := by simpa using List.find?_some found
    have unique := List.inj_on_of_nodup_map workflow.distinct here member (same.trans named.symm)
    rw [WorkflowDef.stepType, found, unique]
    rfl

theorem fitsShape_step {expr : ParsedExpr} (documented : engine.Documented)
    (reached : Reached engine workflow request ctx) (head : expr.head ≠ "inputs")
    (silent : checkOneRef workflow loc ⟨expr.head, expr.accesses⟩ = [])
    (declared : Declared engine workflow request bindings ⟨expr.head, expr.accesses⟩) :
    FitsShape (resolveExpr ctx expr) := by
  unfold resolveExpr
  rw [if_neg head]
  split
  · exact .error id
  · rename_i output found
    split
    · exact .error id
    · rename_i first rest taken
      split
      · rename_i isOutput
        split
        · exact .error id
        · rename_i base read
          obtain ⟨step, member, named, admitted⟩ := reached.outputs found read
          subst isOutput
          have clean := clean_of_output head taken (stepType_eq member named) silent
          exact fitsShape_output documented admitted clean fun schema elicits more =>
            declared.responses member named head elicits taken more
      · split
        · split
          · exact .ok _
          · exact .error id
        · exact .error id
    · exact .error id

theorem parseAccesses_fitsShape (source : String) (accesses : List Access) (rest : List Char) :
    FitsShape (parseAccesses source accesses rest) := by
  fun_induction parseAccesses source accesses rest with
  | case1 => exact .ok _
  | case2 => exact .error id
  | case3 _ _ _ ih => exact ih
  | case4 _ _ _ _ _ _ ih => exact ih
  | case5 => exact .error id
  | case6 => exact .error id
  | case7 => exact .error id

theorem splitFilter_fitsShape (text : List Char) : FitsShape (splitFilter text) := by
  unfold splitFilter
  split
  · split
    · exact .ok _
    · split
      · exact .ok _
      · exact .error id
  · exact .ok _

theorem parseExpr_fitsShape (body : String) : FitsShape (parseExpr body) := by
  unfold parseExpr
  split
  · rename_i error failed
    exact .error (splitFilter_fitsShape _ error failed)
  · split
    · exact .error id
    · dsimp only
      split
      · exact .error id
      · exact (parseAccesses_fitsShape _ _ _).map _

/-- **A reference the check is silent on is never rendered to a shape error**, for any inputs that
`preflight` accepts and any outputs the steps can have, where the values it meets are of the
declared shape. -/
theorem typed_ref_sound {body : String} (documented : engine.Documented)
    (reached : Reached engine workflow request ctx) (silent : checkRef workflow loc body = [])
    (declared : ∀ expr, parseRef body = some expr →
      Declared engine workflow request bindings expr) :
    FitsShape (renderRef bindings ctx body) := by
  unfold renderRef
  cases parsed : parseExpr body with
  | error error => exact .error (parseExpr_fitsShape body error parsed)
  | ok expr =>
    refine FitsShape.map ?_ _
    obtain ⟨reference, -⟩ := parseExpr_ok_iff.mp parsed
    have read : parseRef body = some ⟨expr.head, expr.accesses⟩ := parseRef_some_iff.mpr reference
    have shaped := declared _ read
    have quiet : checkOneRef workflow loc ⟨expr.head, expr.accesses⟩ = [] := by
      rw [checkRef, read] at silent
      exact silent
    rw [shaped.unbound]
    by_cases head : expr.head = "inputs"
    · exact fitsShape_inputs reached head quiet shaped
    · exact fitsShape_step documented reached head quiet shaped

end References

/-! ### An engine for the structural keywords -/

def propertySchema (schema : Json) (name : String) : Option Json :=
  match keyword schema "properties" with
  | some (.object properties) => properties.lookup name
  | _ => none

def itemSchema (schema : Json) : Option Json :=
  match keyword schema "prefixItems", keyword schema "items" with
  | none, some (.array _) => none
  | none, some sub => some sub
  | _, _ => none

def allowsType (schema value : Json) : Bool :=
  match textOf (keyword schema "type") with
  | some type => isOfType type value
  | none => true

def hasRequired (schema : Json) (members : List (String × Json)) : Bool :=
  match keyword schema "required" with
  | some (.array names) => (checkRequired members names).isOk
  | _ => true

mutual

/-- Whether a value has no errors against a schema of `type`, `required`, `properties` and `items`;
what is behind a `$ref` is not looked at. -/
def conforms : Json → Json → Bool
  | .object members, schema => (keyword schema "$ref").isSome ||
      allowsType schema (.object members) && hasRequired schema members &&
        conformsMembers members schema
  | .array items, schema => (keyword schema "$ref").isSome ||
      allowsType schema (.array items) && conformsItems items schema
  | value, schema => (keyword schema "$ref").isSome || allowsType schema value

def conformsMembers : List (String × Json) → Json → Bool
  | [], _ => true
  | (name, value) :: rest, schema =>
    (match propertySchema schema name with
      | some sub => conforms value sub
      | none => true) && conformsMembers rest schema

def conformsItems : List Json → Json → Bool
  | [], _ => true
  | item :: rest, schema =>
    (match itemSchema schema with
      | some sub => conforms item sub
      | none => true) && conformsItems rest schema

end

def structuralEngine : SchemaEngine where
  compiles _ := true
  errors schema value := if conforms value schema then [] else ["the value does not conform"]

section Structural

variable {schema sub : Json}

theorem conforms_type {value : Json} (plain : keyword schema "$ref" = none)
    (holds : conforms value schema = true) : allowsType schema value = true := by
  cases value with
  | object members =>
    simp only [conforms, plain, Option.isSome_none, Bool.false_or, Bool.and_eq_true] at holds
    exact holds.1.1
  | array items =>
    simp only [conforms, plain, Option.isSome_none, Bool.false_or, Bool.and_eq_true] at holds
    exact holds.1
  | _ => simpa [conforms, plain] using holds

theorem conformsMembers_mem {value : Json}
    (each : conformsMembers members schema = true) (member : (name, value) ∈ members)
    (described : propertySchema schema name = some sub) : conforms value sub = true := by
  induction members with
  | nil => cases member
  | cons entry rest ih =>
    obtain ⟨other, value'⟩ := entry
    rw [conformsMembers, Bool.and_eq_true] at each
    rcases List.mem_cons.mp member with same | later
    · cases same
      rw [described] at each
      exact each.1
    · exact ih each.2 later

theorem conformsItems_mem {item : Json}
    (each : conformsItems items schema = true) (member : item ∈ items)
    (described : itemSchema schema = some sub) : conforms item sub = true := by
  induction items with
  | nil => cases member
  | cons other rest ih =>
    rw [conformsItems, Bool.and_eq_true] at each
    rcases List.mem_cons.mp member with rfl | later
    · rw [described] at each
      exact each.1
    · exact ih each.2 later

theorem conforms_of_applies {root value part : Json} (whole : conforms value root = true)
    (applies : Applies root value schema part) : conforms part schema = true := by
  induction applies with
  | root => exact whole
  | property _ plain listed described found ih =>
    simp only [conforms, plain, Option.isSome_none, Bool.false_or, Bool.and_eq_true] at ih
    refine conformsMembers_mem ih.2 (mem_of_lookup found) ?_
    rw [propertySchema, listed]
    exact described
  | @item schema sub item items _ plain unfixed listed single member ih =>
    simp only [conforms, plain, Option.isSome_none, Bool.false_or, Bool.and_eq_true] at ih
    refine conformsItems_mem ih.2 member ?_
    rw [itemSchema, unfixed, listed]
    split
    · rename_i tuple
      cases tuple
      exact absurd rfl (single _)
    · rename_i same
      exact same.symm
    · rename_i other
      exact (other sub rfl rfl).elim

theorem checkRequired_ok {names : List Json}
    (held : (checkRequired members names).isOk = true) (member : .string name ∈ names) :
    ∃ item, members.lookup name = some item := by
  induction names with
  | nil => cases member
  | cons first rest ih =>
    cases first with
    | string key =>
      rw [checkRequired] at held
      split at held
      · rename_i present
        rcases List.mem_cons.mp member with same | later
        · cases same
          exact Option.isSome_iff_exists.mp present
        · exact ih held later
      · cases held
    | _ =>
      rw [checkRequired] at held
      · rcases List.mem_cons.mp member with same | later
        · cases same
        · exact ih held later
      · exact nofun

end Structural

/-- **The structural engine does what JSON Schema says** of the keywords relied on. -/
theorem structuralEngine_documented : structuralEngine.Documented := by
  have conforming : ∀ {root value : Json}, structuralEngine.errors root value = [] →
      conforms value root = true := by
    intro root value none
    by_contra some
    rw [structuralEngine] at none
    simp [some] at none
  refine ⟨?_, ?_, fun _ none applies plain requires named => ?_⟩
  · intro root value schema part _ none applies plain object
    have typed := conforms_type plain (conforms_of_applies (conforming none) applies)
    rw [allowsType, object] at typed
    cases part with
    | object members => exact ⟨members, rfl⟩
    | _ => simp [textOf, isOfType] at typed
  · intro root value schema part _ none applies plain array
    have typed := conforms_type plain (conforms_of_applies (conforming none) applies)
    rw [allowsType, array] at typed
    cases part with
    | array items => exact ⟨items, rfl⟩
    | _ => simp [textOf, isOfType] at typed
  · have holds := conforms_of_applies (conforming none) applies
    simp only [conforms, plain, Option.isSome_none, Bool.false_or, Bool.and_eq_true] at holds
    have required := holds.1.2
    rw [hasRequired, requires] at required
    exact checkRequired_ok required named

/-! ### A property that is required, and one that is not -/

def noteSchema (required : List Json) : Json :=
  .object [("type", .string "object"),
    ("properties", .object [("note", .object [("type", .string "string")])]),
    ("required", .array required)]

def noteWorkflow (required : List Json) : WorkflowDef where
  steps := [⟨"gate", .elicit (noteSchema required)⟩]
  inputs := []
  distinct := List.nodup_singleton _

def answeredContext (response : List (String × Json)) : RunContext where
  inputs := []
  stepOutputs := [("gate", ⟨.json, .ok (.object response)⟩)]

def noteAccesses : List Access := [.field "output", .field "note"]

theorem note_reference :
    Reference (trim (beforeFilter "gate.output.note".toList)) "gate" noteAccesses := by
  refine ⟨by decide, by decide, ?_⟩
  show AccessChain ('.' :: ("output".toList ++ '.' :: ("note".toList ++ []))) _
  exact .field (by simp [opensAccess]) (by decide) (.field (by simp [opensAccess]) (by decide) .nil)

theorem parseRef_note : parseRef "gate.output.note" = some ⟨"gate", noteAccesses⟩ :=
  parseRef_some_iff.mpr note_reference

theorem parseExpr_note : parseExpr "gate.output.note" = .ok ⟨"gate", noteAccesses, .none⟩ :=
  parseExpr_ok_iff.mpr ⟨note_reference, (by decide : '|' ∉ "gate.output.note".toList)⟩

theorem note_silent (required : List Json) :
    checkRef (noteWorkflow required) "say.prompt" "gate.output.note" = [] := by
  rw [checkRef, parseRef_note]
  show walkAccesses _ _ (inferFromJsonSchema (noteSchema required)) [.field "note"] = []
  rw [walkAccesses_eq_nil_iff, inferFromJsonSchema_object rfl rfl]
  exact .field rfl (.done _)

theorem note_reached {required : List Json} {response : List (String × Json)}
    (conforming : conforms (.object response) (noteSchema required) = true) :
    Reached structuralEngine (noteWorkflow required) .null (answeredContext response) := by
  refine ⟨⟨[], rfl, rfl⟩, fun {id output value} found read => ?_⟩
  obtain ⟨same, rfl⟩ : id = "gate" ∧ output = ⟨.json, .ok (.object response)⟩ := by
    by_cases gate : id = "gate"
    · subst gate
      cases found
      exact ⟨rfl, rfl⟩
    · have other : (id == "gate") = false := by simpa using gate
      rw [answeredContext, List.lookup_cons, other] at found
      cases found
  cases read
  refine ⟨_, List.mem_singleton.mpr rfl, same.symm, nofun, ?_⟩
  show validateResponseShape structuralEngine (noteSchema required) (.object response) = .ok ()
  have none : structuralEngine.errors (noteSchema required) (.object response) = [] :=
    if_pos conforming
  show (if (structuralEngine.errors (noteSchema required) (.object response)).isEmpty then _ else _)
    = _
  rw [none]
  rfl

theorem required_note_sound :
    FitsShape (renderRef [] (answeredContext [("note", .string "ship it")])
      "gate.output.note") := by
  refine typed_ref_sound structuralEngine_documented
    (note_reached (by decide : conforms _ (noteSchema [.string "note"]) = true)) (note_silent _)
    fun expr read => ?_
  cases parseRef_note.symm.trans read
  refine ⟨rfl, nofun, ?_⟩
  rintro step schema rest member - - elicits taken -
  cases List.mem_singleton.mp member
  cases elicits
  cases taken
  refine ⟨rfl, rfl, rfl, ⟨_, rfl, List.mem_singleton.mpr rfl⟩, fun _ _ _ _ => trivial⟩

/-- An input that the declaration gives a list for, and the request a text. -/
def rowsWorkflow : WorkflowDef where
  steps := []
  inputs := [⟨"rows", false, some (.array [.string "a", .string "b"])⟩]
  distinct := List.nodup_nil

def rowsContext : RunContext := ⟨[("rows", .string "all")], []⟩

theorem parseRef_rows : parseRef "inputs.rows[0]" = some ⟨"inputs", [.field "rows", .index 0]⟩ ∧
    parseExpr "inputs.rows[0]" = .ok ⟨"inputs", [.field "rows", .index 0], .none⟩ := by
  have reference : Reference (trim (beforeFilter "inputs.rows[0]".toList)) "inputs"
      [.field "rows", .index 0] := by
    refine ⟨by decide, by decide, ?_⟩
    show AccessChain ('.' :: ("rows".toList ++ '[' :: ("0".toList ++ ']' :: []))) _
    exact .field (by simp [opensAccess]) (by decide) (.index (by decide) (by decide) .nil)
  exact ⟨parseRef_some_iff.mpr reference,
    parseExpr_ok_iff.mpr ⟨reference, (by decide : '|' ∉ "inputs.rows[0]".toList)⟩⟩

theorem parseRef_row : parseRef "row.id" = some ⟨"row", [.field "id"]⟩ ∧
    parseExpr "row.id" = .ok ⟨"row", [.field "id"], .none⟩ := by
  have reference : Reference (trim (beforeFilter "row.id".toList)) "row" [.field "id"] := by
    refine ⟨by decide, by decide, ?_⟩
    show AccessChain ('.' :: ("id".toList ++ [])) _
    exact .field (by simp [opensAccess]) (by decide) .nil
  exact ⟨parseRef_some_iff.mpr reference,
    parseExpr_ok_iff.mpr ⟨reference, (by decide : '|' ∉ "row.id".toList)⟩⟩

/-- **References the check is silent on fail**: on a property that the schema declares and the
admitted answer leaves out, on a provided input that is not the list its default is, and on the
item of a map, which is not checked. -/
theorem silent_references_fail :
    (Reached structuralEngine (noteWorkflow []) .null (answeredContext []) ∧
      checkRef (noteWorkflow []) "say.prompt" "gate.output.note" = [] ∧
      renderRef [] (answeredContext []) "gate.output.note" =
        .error (.missingField "note" "gate.output.note")) ∧
    (Reached structuralEngine rowsWorkflow (.object [("rows", .string "all")]) rowsContext ∧
      checkRef rowsWorkflow "say.prompt" "inputs.rows[0]" = [] ∧
      renderRef [] rowsContext "inputs.rows[0]" = .error .notAnArray) ∧
    Reached structuralEngine (noteWorkflow []) .null (answeredContext []) ∧
      checkRef (noteWorkflow []) "say.prompt" "row.id" = [] ∧
      renderRef [("row", .string "a")] (answeredContext []) "row.id" =
        .error (.notAnObject "id" "row.id") := by
  have answered : Reached structuralEngine (noteWorkflow []) .null (answeredContext []) :=
    note_reached (by decide)
  refine ⟨⟨answered, note_silent [], ?_⟩, ⟨⟨⟨_, rfl, rfl⟩, nofun⟩, ?_, ?_⟩, answered, ?_, ?_⟩
  · rw [renderRef, parseExpr_note]
    rfl
  · rw [checkRef, parseRef_rows.1]
    rfl
  · rw [renderRef, parseRef_rows.2]
    rfl
  · rw [checkRef, parseRef_row.1]
    rfl
  · rw [renderRef, parseRef_row.2]
    rfl

end Ziee.Workflow.Typing
