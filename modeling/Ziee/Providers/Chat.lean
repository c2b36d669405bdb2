/-
**The provider-neutral chat messages** (`ai-providers`, `models/chat.rs`).

A message is a role and a list of content blocks. Tool requests and tool results travel inside the
blocks, so everything the agent loop knows about a pending tool call it reads off the messages; the
projections `toolUses` and `toolResultIds` are what the pairing results are stated with.
-/

import Mathlib.Data.List.Basic

namespace Ziee.Providers

/-- A JSON number as `serde_json` keeps it; a float by its printed text. -/
inductive JsonNumber
  | posInt (value : Nat)
  | negInt (value : Int)
  | float (printed : String)
  deriving DecidableEq, Repr

/-- `serde_json::Value`; an object's members in the map's own order. -/
inductive Json
  | null
  | bool (value : Bool)
  | number (value : JsonNumber)
  | string (value : String)
  | array (items : List Json)
  | object (members : List (String × Json))

namespace Json

def printNumber : JsonNumber → String
  | .posInt value => toString value
  | .negInt value => toString value
  | .float printed => printed

/-- One character of a JSON string literal; control characters below `0x20` are escaped. -/
def escapeChar (c : Char) : String :=
  if c = '"' then "\\\""
  else if c = '\\' then "\\\\"
  else if c.toNat = 0x08 then "\\b"
  else if c.toNat = 0x09 then "\\t"
  else if c.toNat = 0x0A then "\\n"
  else if c.toNat = 0x0C then "\\f"
  else if c.toNat = 0x0D then "\\r"
  else if c.toNat < 0x20 then
    "\\u00" ++ String.ofList [Nat.digitChar (c.toNat / 16), Nat.digitChar (c.toNat % 16)]
  else c.toString

def quote (text : String) : String :=
  "\"" ++ String.join (text.toList.map escapeChar) ++ "\""

mutual

/-- The compact text of a value: what its `Display` prints. -/
def render : Json → String
  | .null => "null"
  | .bool value => if value then "true" else "false"
  | .number value => printNumber value
  | .string value => quote value
  | .array items => "[" ++ ",".intercalate (renderItems items) ++ "]"
  | .object members => "\x7b" ++ ",".intercalate (renderMembers members) ++ "\x7d"

def renderItems : List Json → List String
  | [] => []
  | item :: rest => render item :: renderItems rest

def renderMembers : List (String × Json) → List String
  | [] => []
  | (key, value) :: rest => (quote key ++ ":" ++ render value) :: renderMembers rest

end

end Json

/-! ### Messages -/

inductive Role
  | system
  | user
  | assistant
  | tool
  deriving DecidableEq, Repr

inductive ImageSource
  | base64 (mediaType data : String)
  | url (url : String) (detail : Option String)
  | file (fileId : String) (mediaType : Option String)
  deriving DecidableEq, Repr

inductive DocumentSource
  | base64 (mediaType data : String)
  | url (url : String)
  | file (fileId : String) (mediaType : Option String)
  deriving DecidableEq, Repr

inductive ContentBlock
  | text (text : String)
  | thinking (thinking : String) (signature : Option String)
  | redactedThinking (data : String)
  | image (source : ImageSource)
  | document (source : DocumentSource)
  | toolUse (id name : String) (input : Json)
  | toolResult (toolUseId : String) (name : Option String) (content : List ContentBlock)
      (isError : Option Bool)

structure ChatMessage where
  role : Role
  content : List ContentBlock

namespace ChatMessage

/-- `ChatMessage::system`: one text block. -/
def ofSystem (content : String) : ChatMessage := ⟨.system, [.text content]⟩

/-- `ChatMessage::user`: one text block. -/
def ofUser (content : String) : ChatMessage := ⟨.user, [.text content]⟩

end ChatMessage

/-- A tool offered to the model; the loop only passes it on, so its name stands for it. -/
structure Tool where
  name : String
  deriving DecidableEq, Repr

structure ChatRequest where
  model : String
  messages : List ChatMessage
  tools : List Tool

/-! ### What a message says about tools -/

namespace ContentBlock

def isToolUse : ContentBlock → Bool
  | .toolUse .. => true
  | _ => false

def isToolResult : ContentBlock → Bool
  | .toolResult .. => true
  | _ => false

def toolUseId? : ContentBlock → Option String
  | .toolUse id _ _ => some id
  | _ => none

def toolResultId? : ContentBlock → Option String
  | .toolResult id _ _ _ => some id
  | _ => none

end ContentBlock

namespace ChatMessage

def toolUseIds (message : ChatMessage) : List String :=
  message.content.filterMap ContentBlock.toolUseId?

def toolResultIds (message : ChatMessage) : List String :=
  message.content.filterMap ContentBlock.toolResultId?

theorem any_isToolUse_iff (message : ChatMessage) :
    message.content.any ContentBlock.isToolUse = true ↔ message.toolUseIds ≠ [] := by
  unfold toolUseIds
  induction message.content with
  | nil => simp
  | cons block rest ih =>
    cases block <;> simp_all [ContentBlock.isToolUse, ContentBlock.toolUseId?]

theorem any_isToolResult_iff (message : ChatMessage) :
    message.content.any ContentBlock.isToolResult = true ↔ message.toolResultIds ≠ [] := by
  unfold toolResultIds
  induction message.content with
  | nil => simp
  | cons block rest ih =>
    cases block <;> simp_all [ContentBlock.isToolResult, ContentBlock.toolResultId?]

end ChatMessage

end Ziee.Providers
