/-
**The types of references** (`type_infer.rs`, `ref_check.rs`).

The validator infers a coarse type for every step output and every input, and walks each reference
of a template against it: an access that cannot hold is an error, one on an unknown shape a warning.

* `inferFromJsonSchema`, `inferFromJsonValue` — the types of an elicit schema and of a default.
* `walkAccesses_eq_nil_iff` — what it takes to report nothing (`Clean`).
-/

import Ziee.Workflow.RefCheck
import Ziee.Providers.Chat

namespace Ziee.Workflow.Typing

open Ziee.Providers

/-- A coarse JSON shape; the fields of an object in the order of its schema. -/
inductive InferredType
  | string
  | number
  | bool
  | null
  | array (inner : InferredType)
  | arrayUnknown
  | object (fields : List (String × InferredType))
  | objectUnknown
  | unknown

namespace InferredType

def label : InferredType → String
  | .string => "string"
  | .number => "number"
  | .bool => "bool"
  | .null => "null"
  | .array inner => "array<" ++ inner.label ++ ">"
  | .arrayUnknown => "array<unknown>"
  | .object _ => "object\x7b…\x7d"
  | .objectUnknown => "object"
  | .unknown => "unknown"

mutual

/-- `PartialEq`. -/
def beq : InferredType → InferredType → Bool
  | .string, .string => true
  | .number, .number => true
  | .bool, .bool => true
  | .null, .null => true
  | .array first, .array second => beq first second
  | .arrayUnknown, .arrayUnknown => true
  | .object first, .object second => beqFields first second
  | .objectUnknown, .objectUnknown => true
  | .unknown, .unknown => true
  | _, _ => false

def beqFields : List (String × InferredType) → List (String × InferredType) → Bool
  | [], [] => true
  | (name, first) :: rest, (name', second) :: rest' =>
    name == name' && beq first second && beqFields rest rest'
  | _, _ => false

end

mutual

theorem eq_of_beq : ∀ {first second : InferredType}, beq first second = true → first = second
  | .array _, .array _, same => congrArg array (eq_of_beq same)
  | .object _, .object _, same => congrArg object (eq_of_beqFields same)
  | .string, .string, _ => rfl
  | .number, .number, _ => rfl
  | .bool, .bool, _ => rfl
  | .null, .null, _ => rfl
  | .arrayUnknown, .arrayUnknown, _ => rfl
  | .objectUnknown, .objectUnknown, _ => rfl
  | .unknown, .unknown, _ => rfl

theorem eq_of_beqFields : ∀ {first second : List (String × InferredType)},
    beqFields first second = true → first = second
  | [], [], _ => rfl
  | (name, first) :: rest, (name', second) :: rest', same => by
    simp only [beqFields, Bool.and_eq_true, beq_iff_eq] at same
    rw [same.1.1, eq_of_beq same.1.2, eq_of_beqFields same.2]

end

end InferredType

/-! ### Inference -/

mutual

/-- `infer_from_json_value`: an array has an element type where all its items agree. -/
def inferFromJsonValue : Json → InferredType
  | .string _ => .string
  | .number _ => .number
  | .bool _ => .bool
  | .null => .null
  | .array items =>
    match inferItems items with
    | [] => .arrayUnknown
    | first :: rest => if rest.all (·.beq first) then .array first else .arrayUnknown
  | .object _ => .objectUnknown

def inferItems : List Json → List InferredType
  | [] => []
  | item :: rest => inferFromJsonValue item :: inferItems rest

end

def inferInputType : Option Json → InferredType
  | some default => inferFromJsonValue default
  | none => .unknown

/-- A keyword of a schema, read as a string. -/
def textOf : Option Json → Option String
  | some (.string text) => some text
  | _ => none

def objectOf (fields : List (String × InferredType)) : InferredType :=
  if fields.isEmpty then .objectUnknown else .object fields

theorem mem_of_lookup {α : Type} {entries : List (String × α)} {name : String} {value : α}
    (found : entries.lookup name = some value) : (name, value) ∈ entries := by
  obtain ⟨before, after, rfl, -⟩ := List.lookup_eq_some_iff.mp found
  exact List.mem_append_right _ List.mem_cons_self

theorem sizeOf_lookup_lt {members : List (String × Json)} {name : String} {value : Json}
    (found : members.lookup name = some value) : sizeOf value < sizeOf (Json.object members) := by
  have size := List.sizeOf_lt_of_mem (mem_of_lookup found)
  simp only [Prod.mk.sizeOf_spec] at size
  simp only [Json.object.sizeOf_spec]
  omega

/-- `infer_from_json_schema`. A schema without a type of its own that has properties is read as an
object's. -/
def inferFromJsonSchema (schema : Json) : InferredType :=
  match schema with
  | .object members =>
    let ofProperties : InferredType :=
      match _found : members.lookup "properties" with
      | some (.object properties) =>
        objectOf (properties.attach.map fun entry => (entry.1.1, inferFromJsonSchema entry.1.2))
      | _ => .objectUnknown
    match textOf (members.lookup "type") with
    | some "object" => ofProperties
    | some "array" =>
      match _found : members.lookup "items" with
      | some items => .array (inferFromJsonSchema items)
      | none => .arrayUnknown
    | some "string" => .string
    | some "integer" => .number
    | some "number" => .number
    | some "boolean" => .bool
    | some "null" => .null
    | _ => if (members.lookup "properties").isSome then ofProperties else .unknown
  | _ => .objectUnknown
termination_by schema
decreasing_by
  · have size := List.sizeOf_lt_of_mem entry.2
    have whole := sizeOf_lookup_lt _found
    rw [Json.object.sizeOf_spec] at whole
    have pair : sizeOf entry.1.2 < sizeOf entry.1 := by
      rw [show sizeOf entry.1 = 1 + sizeOf entry.1.1 + sizeOf entry.1.2 from rfl]
      omega
    omega
  · exact sizeOf_lookup_lt _found

/-! ### The workflow -/

structure InputDef where
  name : String
  required : Bool
  default : Option Json

inductive OutputFormat
  | text
  | json
  deriving DecidableEq, Repr

inductive StepConfig
  | llm (outputFormat : OutputFormat)
  | llmMap (outputFormat : OutputFormat)
  | sandbox
  | elicit (schema : Json)
  | tool
  | agent (outputFormat : OutputFormat)

structure StepDef where
  id : String
  config : StepConfig

structure WorkflowDef where
  steps : List StepDef
  inputs : List InputDef
  distinct : (steps.map (·.id)).Nodup

def formatType : OutputFormat → InferredType
  | .text => .string
  | .json => .unknown

def inferStepOutputType : StepConfig → InferredType
  | .llm format => formatType format
  | .llmMap format => .array (formatType format)
  | .sandbox => .unknown
  | .elicit schema => inferFromJsonSchema schema
  | .tool => .unknown
  | .agent format => formatType format

/-- `infer_all_step_types`, as a lookup. -/
def WorkflowDef.stepType (workflow : WorkflowDef) (id : String) : Option InferredType :=
  (workflow.steps.find? (·.id = id)).map fun step => inferStepOutputType step.config

/-- `infer_all_input_types`, as a lookup: of two inputs with one name the later counts. -/
def WorkflowDef.inputType (workflow : WorkflowDef) (name : String) : Option InferredType :=
  (workflow.inputs.reverse.find? (·.name = name)).map fun input => inferInputType input.default

/-! ### The findings -/

inductive Severity
  | error
  | warning
  deriving DecidableEq, Repr

structure ValidationError where
  layer : String
  code : String
  message : String
  location : Option String
  severity : Severity
  deriving DecidableEq, Repr

namespace ValidationError

def atLocation (layer code message location : String) : ValidationError :=
  ⟨layer, code, message, some location, .error⟩

def warn (layer code message location : String) : ValidationError :=
  ⟨layer, code, message, some location, .warning⟩

end ValidationError

/-- `access_label` of the validator. -/
def accessLabel : Access → String
  | .field name => name
  | .index index => toString index

def renderAccess : Access → String
  | .field name => "." ++ name
  | .index index => "[" ++ toString index ++ "]"

/-- `render_expr`, and `ParsedExpr::render` of the engine. -/
def renderExpr (head : String) (accesses : List Access) : String :=
  head ++ String.join (accesses.map renderAccess)

def fieldNames (fields : List (String × InferredType)) : String :=
  ", ".intercalate ((fields.map Prod.fst).mergeSort fun first second => decide (first ≤ second))

/-- **`walk_accesses`**: the first access that cannot hold ends it. -/
def walkAccesses (loc : String) (expr : RefExpr) : InferredType → List Access →
    List ValidationError
  | _, [] => []
  | .array inner, .index _ :: rest => walkAccesses loc expr inner rest
  | .arrayUnknown, .index _ :: rest => walkAccesses loc expr .unknown rest
  | .unknown, .index index :: rest =>
    .warn "semantic" "WORKFLOW_REF_INDEX_UNRESOLVED"
      ("'" ++ renderExpr expr.head expr.accesses ++ "' indexed with [" ++
        accessLabel (.index index) ++
        "] but its type is unresolved; ensure it is an array at runtime") loc ::
      walkAccesses loc expr .unknown rest
  | other, .index index :: _ =>
    [.atLocation "semantic" "WORKFLOW_REF_INDEX_NON_ARRAY"
      ("'" ++ renderExpr expr.head expr.accesses ++ "' indexed with [" ++
        accessLabel (.index index) ++ "] but resolves to " ++ other.label ++ " (not an array)") loc]
  | .object fields, .field field :: rest =>
    match fields.lookup field with
    | some type => walkAccesses loc expr type rest
    | none =>
      [.atLocation "semantic" "WORKFLOW_REF_UNKNOWN_FIELD"
        ("'" ++ renderExpr expr.head expr.accesses ++ "' accesses field '." ++ field ++
          "' which is not present on object \x7b" ++ fieldNames fields ++ "\x7d") loc]
  | .objectUnknown, .field field :: rest =>
    unresolved field :: walkAccesses loc expr .unknown rest
  | .unknown, .field field :: rest => unresolved field :: walkAccesses loc expr .unknown rest
  | other, .field field :: _ =>
    [.atLocation "semantic" "WORKFLOW_REF_FIELD_NON_OBJECT"
      ("'" ++ renderExpr expr.head expr.accesses ++ "' accesses field '." ++ field ++
        "' but resolves to " ++ other.label ++ " (not an object)") loc]
where
  unresolved (field : String) : ValidationError :=
    .warn "semantic" "WORKFLOW_REF_FIELD_UNRESOLVED"
      ("'" ++ renderExpr expr.head expr.accesses ++ "' accesses field '." ++ field ++
        "' but the object shape is unknown; cannot type-check (ensure the field exists at " ++
        "runtime)") loc

/-- **`check_one_ref`**: a head that names no input and no step is the name check's business. -/
def checkOneRef (workflow : WorkflowDef) (loc : String) (expr : RefExpr) : List ValidationError :=
  if expr.head = "inputs" then
    match expr.accesses with
    | .field name :: rest =>
      match workflow.inputType name with
      | none => []
      | some type => walkAccesses loc expr type rest
    | _ => []
  else
    match workflow.stepType expr.head with
    | none => []
    | some type =>
      match expr.accesses with
      | .field first :: rest =>
        if first = "path" then
          match rest with
          | [] => []
          | next :: _ =>
            [.atLocation "semantic" "WORKFLOW_PATH_ACCESS"
              ("'" ++ expr.head ++ ".path' is a string; cannot access '." ++ accessLabel next ++
                "'/index on it") loc]
        else if first = "output" then walkAccesses loc expr type rest
        else []
      | _ => []

/-- The findings of the body of one reference; one the parser gives up on is not checked. -/
def checkRef (workflow : WorkflowDef) (loc body : String) : List ValidationError :=
  match parseRef body with
  | none => []
  | some expr => checkOneRef workflow loc expr

/-! ### What it takes to report nothing -/

/-- **The accesses hold of the type**: every index is into an array and every field is one the type
lists; an unknown item is not looked into. -/
inductive Clean : InferredType → List Access → Prop
  | done (type : InferredType) : Clean type []
  | item {inner : InferredType} {index : Nat} {rest : List Access} :
      Clean inner rest → Clean (.array inner) (.index index :: rest)
  | unknownItem {index : Nat} : Clean .arrayUnknown [.index index]
  | field {fields : List (String × InferredType)} {name : String} {type : InferredType}
      {rest : List Access} : fields.lookup name = some type → Clean type rest →
      Clean (.object fields) (.field name :: rest)

theorem clean_unknown_iff {accesses : List Access} : Clean .unknown accesses ↔ accesses = [] := by
  constructor
  · intro clean
    cases clean
    rfl
  · rintro rfl
    exact .done _

theorem walkAccesses_eq_nil_iff {loc : String} {expr : RefExpr} {type : InferredType}
    {accesses : List Access} : walkAccesses loc expr type accesses = [] ↔ Clean type accesses := by
  fun_induction walkAccesses loc expr type accesses with
  | case1 type => exact iff_of_true rfl (.done _)
  | case2 inner index rest ih =>
    rw [ih]
    constructor
    · exact .item
    · rintro (_ | clean)
      assumption
  | case3 index rest ih =>
    rw [ih, clean_unknown_iff]
    constructor
    · rintro rfl
      exact .unknownItem
    · intro clean
      cases clean
      rfl
  | case4 index rest ih => exact iff_of_false (List.cons_ne_nil _ _) nofun
  | case5 other index rest known unknownItems unresolved =>
    refine iff_of_false (List.cons_ne_nil _ _) fun clean => ?_
    cases clean with
    | item => exact known _ rfl
    | unknownItem => exact unknownItems rfl
  | case6 fields field rest type found ih =>
    rw [ih]
    constructor
    · exact .field found
    · intro clean
      cases clean with
      | field found' clean =>
        cases found.symm.trans found'
        exact clean
  | case7 fields field rest missing =>
    refine iff_of_false (List.cons_ne_nil _ _) fun clean => ?_
    cases clean with
    | field found =>
      rw [missing] at found
      cases found
  | case8 field rest ih => exact iff_of_false (List.cons_ne_nil _ _) nofun
  | case9 field rest ih => exact iff_of_false (List.cons_ne_nil _ _) nofun
  | case10 other field rest known unknownFields unresolved =>
    refine iff_of_false (List.cons_ne_nil _ _) fun clean => ?_
    cases clean with
    | field => exact known _ rfl

end Ziee.Workflow.Typing
