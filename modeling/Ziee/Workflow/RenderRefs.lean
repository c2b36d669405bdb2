/-
**Rendering a reference** (`template.rs`, `runner.rs`, `elicit.rs`).

What a reference is resolved against: the inputs `preflight` binds, and the step outputs the
dispatchers write. An elicit response is one its schema admits (`validate_response_shape`), by the
`jsonschema` crate where the schema compiles and by a structural check where it does not.

* `walkValue`, `resolveExpr`, `renderRef` — the renderer, with its errors.
* `bindInputs`, `Admitted`, `Reached` — the values that can reach it.
* `SchemaEngine.Documented` — what is relied on of the `jsonschema` crate.
-/

import Ziee.Agent.Types
import Ziee.Workflow.TypedRefs

namespace Ziee.Workflow.Typing

open Ziee.Providers Ziee.Agent

inductive ParsedAs
  | json
  | text
  deriving DecidableEq, Repr

structure StepOutput where
  parsedAs : ParsedAs
  /-- What reading the output file gives. -/
  content : Except String Json

/-- What a template is rendered against; the newest binding of a name is the first. -/
structure RunContext where
  inputs : List (String × Json)
  stepOutputs : List (String × StepOutput)

def walkValue (path : String) : Json → List Access → Except TemplateError Json
  | cur, [] => .ok cur
  | .array items, .index index :: rest =>
    match items[index]? with
    | some item => walkValue path item rest
    | none => .error (.indexOutOfBounds index items.length)
  | _, .index _ :: _ => .error .notAnArray
  | .object members, .field field :: rest =>
    match members.lookup field with
    | some value => walkValue path value rest
    | none => .error (.missingField field path)
  | _, .field field :: _ => .error (.notAnObject field path)

def stepOutputSandboxPath (stepId : String) (output : StepOutput) : String :=
  match output.parsedAs with
  | .json => "outputs/" ++ stepId ++ ".json"
  | .text => "outputs/" ++ stepId ++ ".txt"

def resolveExpr (ctx : RunContext) (expr : ParsedExpr) : Except TemplateError Json :=
  let path := renderExpr expr.head expr.accesses
  if expr.head = "inputs" then
    match expr.accesses with
    | .field name :: rest =>
      match ctx.inputs.lookup name with
      | some base => walkValue path base rest
      | none => .error (.unknownVariable ("inputs." ++ name))
    | _ =>
      .error (.invalidSyntax ("'inputs' must be followed by an input name (in '" ++ path ++ "')"))
  else
    match ctx.stepOutputs.lookup expr.head with
    | none => .error (.stepNotYetRun expr.head)
    | some output =>
      match expr.accesses with
      | [] => .error (.unknownVariable (expr.head ++ " (expected '.output' or '.path')"))
      | .field first :: rest =>
        if first = "output" then
          match output.content with
          | .error detail => .error (.io detail)
          | .ok base => walkValue path base rest
        else if first = "path" then
          if rest.isEmpty then .ok (.string (stepOutputSandboxPath expr.head output))
          else .error (.invalidSyntax ("'.path' is a string; cannot access '" ++ path ++ "' on it"))
        else .error (.unknownVariable (expr.head ++ "." ++ first))
      | .index index :: _ =>
        .error (.unknownVariable (expr.head ++ ".[" ++ toString index ++ "]"))

def stringify (value : Json) : Filter → String
  | .json => value.render
  | _ =>
    match value with
    | .string text => text
    | other => other.render

/-- What `render` and `render_with_bindings` put for one body; a bound head comes first. -/
def renderRef (bindings : List (String × Json)) (ctx : RunContext) (body : String) :
    Except TemplateError String :=
  match parseExpr body with
  | .error error => .error error
  | .ok expr =>
    let resolved :=
      match bindings.lookup expr.head with
      | some bound => walkValue (renderExpr expr.head expr.accesses) bound expr.accesses
      | none => resolveExpr ctx expr
    resolved.map fun value => stringify value expr.filter

/-! ### The inputs -/

/-- The loop of `preflight` over the declared inputs. -/
def bindInputs (provided : List (String × Json)) :
    List InputDef → List (String × Json) → Except AppError (List (String × Json))
  | [], bound => .ok bound
  | input :: rest, bound =>
    match provided.lookup input.name with
    | some value => bindInputs provided rest ((input.name, value) :: bound)
    | none =>
      match input.default with
      | some default => bindInputs provided rest ((input.name, default) :: bound)
      | none =>
        if input.required then .error ⟨"required input '" ++ input.name ++ "' not provided"⟩
        else bindInputs provided rest bound

def providedInputs : Json → Except AppError (List (String × Json))
  | .object members => .ok members
  | .null => .ok []
  | _ => .error ⟨"request inputs must be a JSON object"⟩

/-! ### The responses -/

/-- The `jsonschema` crate: whether a schema compiles, and the errors of a value. -/
structure SchemaEngine where
  compiles : Json → Bool
  errors : Json → Json → List String

def keyword (schema : Json) (name : String) : Option Json :=
  match schema with
  | .object members => members.lookup name
  | _ => none

def isInteger : JsonNumber → Bool
  | .posInt _ => true
  | .negInt _ => true
  | .float _ => false

/-- Whether a value is of a type the structural check names. -/
def isOfType (type : String) (value : Json) : Bool :=
  match type, value with
  | "object", .object _ => true
  | "object", _ => false
  | "array", .array _ => true
  | "array", _ => false
  | "string", .string _ => true
  | "string", _ => false
  | "number", .number _ => true
  | "number", _ => false
  | "integer", .number number => isInteger number
  | "integer", _ => false
  | "boolean", .bool _ => true
  | "boolean", _ => false
  | "null", .null => true
  | "null", _ => false
  | _, _ => true

def asU64 : Option Json → Option Nat
  | some (.number (.posInt value)) => some value
  | _ => none

def checkItemCounts (schema : Json) (count : Nat) : Except String Unit :=
  match asU64 (keyword schema "minItems") with
  | some least =>
    if count < least then
      .error ("array has " ++ toString count ++ " items, fewer than minItems " ++ toString least)
    else checkMost
  | none => checkMost
where
  checkMost : Except String Unit :=
    match asU64 (keyword schema "maxItems") with
    | some most =>
      if most < count then
        .error ("array has " ++ toString count ++ " items, more than maxItems " ++ toString most)
      else .ok ()
    | none => .ok ()

def checkRequired (response : List (String × Json)) : List Json → Except String Unit
  | [] => .ok ()
  | .string key :: rest =>
    if (response.lookup key).isSome then checkRequired response rest
    else .error ("missing required field '" ++ key ++ "'")
  | _ :: rest => checkRequired response rest

def checkProperties (response : List (String × Json)) : List (String × Json) → Except String Unit
  | [] => .ok ()
  | (key, schema) :: rest =>
    match response.lookup key, textOf (keyword schema "type") with
    | some value, some type =>
      if isOfType type value then checkProperties response rest
      else .error ("field '" ++ key ++ "' is not of type '" ++ type ++ "'")
    | _, _ => checkProperties response rest

def validateResponseShapeLightweight (schema response : Json) : Except String Unit := do
  match textOf (keyword schema "type") with
  | some type =>
    if isOfType type response then pure ()
    else throw ("response is not of type '" ++ type ++ "'")
  | none => pure ()
  match response with
  | .array items => checkItemCounts schema items.length
  | .object members =>
    match keyword schema "required" with
    | some (.array names) => checkRequired members names
    | _ => pure ()
    match keyword schema "properties" with
    | some (.object properties) => checkProperties members properties
    | _ => pure ()
  | _ => pure ()

def validateResponseShape (engine : SchemaEngine) (schema response : Json) : Except String Unit :=
  match schema with
  | .object _ =>
    if engine.compiles schema then
      if (engine.errors schema response).isEmpty then .ok ()
      else .error ("; ".intercalate ((engine.errors schema response).take 5))
    else validateResponseShapeLightweight schema response
  | _ => .ok ()

/-! ### What reaches the renderer -/

/-- `parse_llm_output`, as what it can give. -/
def OfFormat : OutputFormat → Json → Prop
  | .text, value => ∃ text, value = .string text
  | .json, _ => True

/-- **What a dispatcher writes as the output of a step**: a skipped item of a map is null, a
response is not null and has passed its schema. -/
def Admitted (engine : SchemaEngine) : StepConfig → Json → Prop
  | .llm format, value => OfFormat format value
  | .llmMap format, value => ∃ items, value = .array items ∧
      ∀ item ∈ items, item = .null ∨ OfFormat format item
  | .sandbox, _ => True
  | .elicit schema, value => value ≠ .null ∧ validateResponseShape engine schema value = .ok ()
  | .tool, _ => True
  | .agent format, value => OfFormat format value

structure Reached (engine : SchemaEngine) (workflow : WorkflowDef) (request : Json)
    (ctx : RunContext) : Prop where
  inputs : ∃ provided, providedInputs request = .ok provided ∧
    bindInputs provided workflow.inputs [] = .ok ctx.inputs
  outputs : ∀ {id : String} {output : StepOutput} {value : Json},
    ctx.stepOutputs.lookup id = some output → output.content = .ok value →
    ∃ step ∈ workflow.steps, step.id = id ∧ Admitted engine step.config value

/-! ### What is relied on of the engine -/

/-- A subschema applies to a part of the value, by `properties` and `items`; a schema with a `$ref`
may ignore its other keywords, and `prefixItems` keeps items from `items`. -/
inductive Applies (root value : Json) : Json → Json → Prop
  | root : Applies root value root value
  | property {schema sub item : Json} {members properties : List (String × Json)} {name : String} :
      Applies root value schema (.object members) → keyword schema "$ref" = none →
      keyword schema "properties" = some (.object properties) →
      properties.lookup name = some sub → members.lookup name = some item →
      Applies root value sub item
  | item {schema sub item : Json} {items : List Json} :
      Applies root value schema (.array items) → keyword schema "$ref" = none →
      keyword schema "prefixItems" = none → keyword schema "items" = some sub →
      (∀ subs, sub ≠ .array subs) → item ∈ items → Applies root value sub item

/-- **What JSON Schema says of a value without errors**: where a subschema applies, its `type` and
its `required` hold. -/
structure SchemaEngine.Documented (engine : SchemaEngine) : Prop where
  objects : ∀ {root value schema part : Json}, engine.compiles root = true →
    engine.errors root value = [] → Applies root value schema part →
    keyword schema "$ref" = none → keyword schema "type" = some (.string "object") →
    ∃ members, part = .object members
  arrays : ∀ {root value schema part : Json}, engine.compiles root = true →
    engine.errors root value = [] → Applies root value schema part →
    keyword schema "$ref" = none → keyword schema "type" = some (.string "array") →
    ∃ items, part = .array items
  required : ∀ {root value schema : Json} {members : List (String × Json)} {names : List Json}
    {name : String}, engine.compiles root = true → engine.errors root value = [] →
    Applies root value schema (.object members) → keyword schema "$ref" = none →
    keyword schema "required" = some (.array names) → .string name ∈ names →
    ∃ item, members.lookup name = some item

end Ziee.Workflow.Typing
