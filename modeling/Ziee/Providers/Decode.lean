/-
**Reading a JSON value into a type of the program** (`serde_json::from_value` with derived
`Deserialize`).

A derived reader takes a struct from an object, by the names of the members in the map's order, or
from an array, by position; members it does not know are skipped. `DecodeError` is what can go
wrong, with the text it prints. The debug form of a string in such a text depends on Unicode
tables, so `display` takes it as an argument.
-/

import Ziee.Providers.Chat

namespace Ziee.Providers

inductive DecodeError
  | invalidType (unexpected : Json) (expected : String)
  | invalidLength (length : Nat) (expected : String)
  | missingField (field : String)
  | unknownVariant (variant : String) (expected : List String)
  | custom (message : String)

/-- How a value of the wrong type is named. -/
def Json.unexpected (debug : String → String) : Json → String
  | .null => "null"
  | .bool value => "boolean " ++ "`" ++ (if value then "true" else "false") ++ "`"
  | .number (.float printed) => "floating point `" ++ printed ++ "`"
  | .number value => "integer `" ++ Json.printNumber value ++ "`"
  | .string value => "string " ++ debug value
  | .array _ => "sequence"
  | .object _ => "map"

def oneOf : List String → String
  | [] => "there are no variants"
  | [only] => "expected `" ++ only ++ "`"
  | [first, second] => "expected `" ++ first ++ "` or `" ++ second ++ "`"
  | variants => "expected one of " ++ ", ".intercalate (variants.map fun name => "`" ++ name ++ "`")

def DecodeError.display (debug : String → String) : DecodeError → String
  | .invalidType value expected =>
    "invalid type: " ++ value.unexpected debug ++ ", expected " ++ expected
  | .invalidLength length expected =>
    "invalid length " ++ toString length ++ ", expected " ++ expected
  | .missingField field => "missing field `" ++ field ++ "`"
  | .unknownVariant variant expected => "unknown variant `" ++ variant ++ "`, " ++ oneOf expected
  | .custom message => message

/-! ### Readers -/

abbrev Reader (α : Type) : Type := Json → Except DecodeError α

def readString : Reader String
  | .string value => .ok value
  | value => .error (.invalidType value "a string")

/-- `Option<T>`: `null` is `None`. -/
def readOption {α : Type} (read : Reader α) : Reader (Option α)
  | .null => .ok none
  | value => (read value).map some

/-- `Vec<T>`: the items in order, up to the first that cannot be read. -/
def readVec {α : Type} (read : Reader α) : Reader (List α)
  | .array items => items.mapM read
  | value => .error (.invalidType value "a sequence")

def readMembers {δ : Type} (readMember : δ → String → Json → Except DecodeError δ) (start : δ)
    (members : List (String × Json)) : Except DecodeError δ :=
  members.foldlM (fun draft member => readMember draft member.1 member.2) start

def required {α : Type} (field : String) : Option α → Except DecodeError α
  | some value => .ok value
  | none => .error (.missingField field)

/-- A field with a default at a position of an array. -/
def readItem {α : Type} (read : Reader α) (default : α) (items : List Json) (index : Nat) :
    Except DecodeError α :=
  match items[index]? with
  | some item => read item
  | none => .ok default

def noMoreItems (items : List Json) (fields : Nat) : Except DecodeError Unit :=
  if items.length ≤ fields then .ok ()
  else .error (.invalidLength items.length "fewer elements in array")

theorem bind_eq_ok {ε α β : Type} {first : Except ε α} {rest : α → Except ε β} {result : β}
    (whole : (first >>= rest) = .ok result) :
    ∃ value, first = .ok value ∧ rest value = .ok result := by
  cases first with
  | error error => cases whole
  | ok value => exact ⟨value, rfl, whole⟩

end Ziee.Providers
