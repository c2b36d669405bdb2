/-
**The serialized form of chat messages** (`models/chat.rs`, with serde's documented encoding).

`ContentBlock`, `ImageSource` and `DocumentSource` are internally tagged by `type`; an image or a
document flattens its source, which is itself tagged by `type`, into its own object. A JSON object
is a sorted map: writing a key a second time replaces its value.

* `ContentBlock.toJson` and `readBlock` are the derived writer and reader. A reader looks at the
  members it knows in the map's order, so the first of them that cannot be read is the error, and
  then takes them by name. The form as an array, which the readers of structs also accept and no
  writer makes, is left out.
* `hasMedia_of_read` — with one, it is not: the source's tag has replaced the block's.
-/

import Ziee.Providers.Decode

namespace Ziee.Providers

/-- `Map::insert`: in the order of the keys, a key that is there gets the new value. -/
def insertMember : List (String × Json) → String → Json → List (String × Json)
  | [], key, value => [(key, value)]
  | member :: rest, key, value =>
    if key = member.1 then (key, value) :: rest
    else if key < member.1 then (key, value) :: member :: rest
    else member :: insertMember rest key value

def objectOf (entries : List (String × Json)) : List (String × Json) :=
  entries.foldl (fun members entry => insertMember members entry.1 entry.2) []

/-- `skip_serializing_if = "Option::is_none"`. -/
def optionEntry {α : Type} (name : String) (write : α → Json) (value : Option α) :
    List (String × Json) :=
  match value with
  | some value => [(name, write value)]
  | none => []

/-! ### Writing -/

def ImageSource.entries : ImageSource → List (String × Json)
  | .base64 mediaType data =>
    [("type", .string "base64"), ("media_type", .string mediaType), ("data", .string data)]
  | .url address detail =>
    [("type", .string "url"), ("url", .string address)] ++ optionEntry "detail" Json.string detail
  | .file fileId mediaType =>
    [("type", .string "file"), ("file_id", .string fileId)] ++
      optionEntry "media_type" Json.string mediaType

def DocumentSource.entries : DocumentSource → List (String × Json)
  | .base64 mediaType data =>
    [("type", .string "base64"), ("media_type", .string mediaType), ("data", .string data)]
  | .url address => [("type", .string "url"), ("url", .string address)]
  | .file fileId mediaType =>
    [("type", .string "file"), ("file_id", .string fileId)] ++
      optionEntry "media_type" Json.string mediaType

mutual

def ContentBlock.entries : ContentBlock → List (String × Json)
  | .text text => [("type", .string "text"), ("text", .string text)]
  | .thinking thinking signature =>
    [("type", .string "thinking"), ("thinking", .string thinking)] ++
      optionEntry "signature" Json.string signature
  | .redactedThinking data => [("type", .string "redacted_thinking"), ("data", .string data)]
  | .image source => ("type", .string "image") :: source.entries
  | .document source => ("type", .string "document") :: source.entries
  | .toolUse id name input =>
    [("type", .string "tool_use"), ("id", .string id), ("name", .string name), ("input", input)]
  | .toolResult toolUseId name content isError =>
    [("type", .string "tool_result"), ("tool_use_id", .string toolUseId)] ++
      optionEntry "name" Json.string name ++ [("content", .array (blocksToJson content))] ++
      optionEntry "is_error" Json.bool isError

def blocksToJson : List ContentBlock → List Json
  | [] => []
  | block :: rest => .object (objectOf block.entries) :: blocksToJson rest

end

def ContentBlock.toJson (block : ContentBlock) : Json := .object (objectOf block.entries)

/-- `rename_all = "lowercase"`. -/
def Role.name : Role → String
  | .system => "system"
  | .user => "user"
  | .assistant => "assistant"
  | .tool => "tool"

def ChatMessage.entries (message : ChatMessage) : List (String × Json) :=
  ("role", .string message.role.name) ::
    if message.content.isEmpty then [] else [("content", .array (blocksToJson message.content))]

def ChatMessage.toJson (message : ChatMessage) : Json := .object (objectOf message.entries)

/-- `serde_json::to_value` of a transcript. -/
def encodeTranscript (messages : List ChatMessage) : Json :=
    .array (messages.map ChatMessage.toJson)

/-! ### Reading -/

structure Member where
  name : String
  value : Json
  blocks : Except DecodeError (List ContentBlock)

def find (members : List Member) (name : String) : Option Member :=
  members.find? fun member => member.name == name

def readable {α : Type} (read : Reader α) (member : Member) : Except DecodeError Unit := do
  let _ ← read member.value
  pure ()

def readableBlocks (member : Member) : Except DecodeError Unit := do
  let _ ← member.blocks
  pure ()

abbrev Fields : Type := List (String × (Member → Except DecodeError Unit))

def checkMember (known : Fields) (member : Member) : Except DecodeError Unit :=
  match known.lookup member.name with
  | some check => check member
  | none => .ok ()

/-- The members in the map's order; the first that cannot be read is the error. -/
def checkMembers (known : Fields) (members : List Member) : Except DecodeError Unit :=
  members.forM (checkMember known)

def field {α : Type} (read : Reader α) (name : String) (members : List Member) :
    Except DecodeError α :=
  match find members name with
  | some member => read member.value
  | none => .error (.missingField name)

/-- A field of an `Option` type may be left out. -/
def optionField {α : Type} (read : Reader α) (name : String) (members : List Member) :
    Except DecodeError (Option α) :=
  match find members name with
  | some member => readOption read member.value
  | none => .ok none

def readBool : Reader Bool
  | .bool value => .ok value
  | value => .error (.invalidType value "a boolean")

/-- `serde_json::Value`: any value. -/
def readValue : Reader Json := .ok

/-- The tag of an internally tagged enum. -/
def tagOf (members : List Member) : Except DecodeError String :=
  match find members "type" with
  | some ⟨_, .string tag, _⟩ => .ok tag
  | some ⟨_, value, _⟩ => .error (.invalidType value "variant identifier")
  | none => .error (.missingField "type")

def untagged (members : List Member) : List Member :=
  members.filter fun member => member.name != "type"

def ImageSource.read (members : List Member) : Except DecodeError ImageSource := do
  match ← tagOf members with
  | "base64" =>
    checkMembers [("media_type", readable readString), ("data", readable readString)]
      (untagged members)
    let mediaType ← field readString "media_type" members
    let data ← field readString "data" members
    pure (.base64 mediaType data)
  | "url" =>
    checkMembers [("url", readable readString), ("detail", readable (readOption readString))]
      (untagged members)
    let url ← field readString "url" members
    let detail ← optionField readString "detail" members
    pure (.url url detail)
  | "file" =>
    checkMembers [("file_id", readable readString),
      ("media_type", readable (readOption readString))] (untagged members)
    let fileId ← field readString "file_id" members
    let mediaType ← optionField readString "media_type" members
    pure (.file fileId mediaType)
  | tag => .error (.unknownVariant tag ["base64", "url", "file"])

def DocumentSource.read (members : List Member) : Except DecodeError DocumentSource := do
  match ← tagOf members with
  | "base64" =>
    checkMembers [("media_type", readable readString), ("data", readable readString)]
      (untagged members)
    let mediaType ← field readString "media_type" members
    let data ← field readString "data" members
    pure (.base64 mediaType data)
  | "url" =>
    checkMembers [("url", readable readString)] (untagged members)
    let url ← field readString "url" members
    pure (.url url)
  | "file" =>
    checkMembers [("file_id", readable readString),
      ("media_type", readable (readOption readString))] (untagged members)
    let fileId ← field readString "file_id" members
    let mediaType ← optionField readString "media_type" members
    pure (.file fileId mediaType)
  | tag => .error (.unknownVariant tag ["base64", "url", "file"])

def ContentBlock.ofTag (members : List Member) : String → Except DecodeError ContentBlock
  | "text" => do
    checkMembers [("text", readable readString)] members
    let text ← field readString "text" members
    pure (.text text)
  | "thinking" => do
    checkMembers [("thinking", readable readString),
      ("signature", readable (readOption readString))] members
    let thinking ← field readString "thinking" members
    let signature ← optionField readString "signature" members
    pure (.thinking thinking signature)
  | "redacted_thinking" => do
    checkMembers [("data", readable readString)] members
    let data ← field readString "data" members
    pure (.redactedThinking data)
  | "image" => do
    let source ← ImageSource.read members
    pure (.image source)
  | "document" => do
    let source ← DocumentSource.read members
    pure (.document source)
  | "tool_use" => do
    checkMembers [("id", readable readString), ("name", readable readString),
      ("input", readable readValue)] members
    let id ← field readString "id" members
    let name ← field readString "name" members
    let input ← field readValue "input" members
    pure (.toolUse id name input)
  | "tool_result" => do
    checkMembers [("tool_use_id", readable readString), ("name", readable (readOption readString)),
      ("content", readableBlocks), ("is_error", readable (readOption readBool))] members
    let toolUseId ← field readString "tool_use_id" members
    let name ← optionField readString "name" members
    match find members "content" with
    | none => .error (.missingField "content")
    | some member => do
      let content ← member.blocks
      let isError ← optionField readBool "is_error" members
      pure (.toolResult toolUseId name content isError)
  | tag => .error (.unknownVariant tag ["text", "thinking", "redacted_thinking", "image",
      "document", "tool_use", "tool_result"])

mutual

def readBlock : Json → Except DecodeError ContentBlock
  | .object members =>
    let looked := lookAt members
    match tagOf looked with
    | .ok tag => ContentBlock.ofTag (untagged looked) tag
    | .error error => .error error
  | value => .error (.invalidType value "internally tagged enum ContentBlock")

/-- `Vec<ContentBlock>`. -/
def readBlocks : List Json → Except DecodeError (List ContentBlock)
  | [] => .ok []
  | item :: rest => do
    let block ← readBlock item
    let blocks ← readBlocks rest
    pure (block :: blocks)

/-- The members of an object with what each is as a list of blocks. -/
def lookAt : List (String × Json) → List Member
  | [] => []
  | (name, value) :: rest => ⟨name, value, readContent value⟩ :: lookAt rest

def readContent : Json → Except DecodeError (List ContentBlock)
  | .array items => readBlocks items
  | value => .error (.invalidType value "a sequence")

end

def Role.ofName (name : String) : Except DecodeError Role :=
  match name with
  | "system" => .ok .system
  | "user" => .ok .user
  | "assistant" => .ok .assistant
  | "tool" => .ok .tool
  | _ => .error (.unknownVariant name ["system", "user", "assistant", "tool"])

def Role.read : Reader Role
  | .string name => Role.ofName name
  | .object [(name, content)] => do
    let role ← Role.ofName name
    match content with
    | .null => pure role
    | value => .error (.invalidType value "unit")
  | .object _ => .error (.custom "invalid value: map, expected map with a single key")
  | value => .error (.invalidType value "string or map")

def ChatMessage.read : Reader ChatMessage
  | .object members => do
    let members := lookAt members
    checkMembers [("role", readable Role.read), ("content", readableBlocks)] members
    let role ← field Role.read "role" members
    let content ← ((find members "content").map Member.blocks).getD (.ok [])
    pure ⟨role, content⟩
  | value => .error (.invalidType value "struct ChatMessage")

/-- `serde_json::from_value` of a transcript. -/
def decodeTranscript : Reader (List ChatMessage) := readVec ChatMessage.read

/-! ### What is read from an object that was written -/

section Objects

variable {entries members : List (String × Json)} {key name : String} {value : Json}

variable {member : String × Json} {looked : List Member} {known : Fields}
  {messages : List ChatMessage}

theorem lookup_cons_ite {α : Type} {value : α} {rest : List (String × α)} :
    ((key, value) :: rest).lookup name = if name = key then some value else rest.lookup name := by
  by_cases same : name = key
  · simp [same]
  · simp [List.lookup_cons, beq_false_of_ne same, same]

theorem lookup_insertMember :
    (insertMember members key value).lookup name = ((key, value) :: members).lookup name := by
  induction members with
  | nil => rfl
  | cons member rest ih =>
    obtain ⟨key', value'⟩ := member
    unfold insertMember
    split
    · rename_i same
      simp only at same
      simp only [lookup_cons_ite, same]
      split
      · rfl
      · rfl
    · split
      · rfl
      · rename_i distinct _
        simp only [lookup_cons_ite, ih]
        by_cases found : name = key'
        · rw [if_pos found, if_neg fun same => distinct (same.symm.trans found), if_pos found]
        · rw [if_neg found, if_neg found]

theorem lookup_foldl_insertMember : ∀ {members : List (String × Json)},
    (entries.foldl (fun members entry => insertMember members entry.1 entry.2) members).lookup
      name = (entries.reverse ++ members).lookup name := by
  induction entries with
  | nil => exact rfl
  | cons entry rest ih =>
    intro members
    rw [List.foldl_cons, ih, List.lookup_append, lookup_insertMember, ← List.lookup_append,
      List.reverse_cons, List.append_assoc, List.singleton_append]

/-- **The entry that was written last counts.** -/
theorem lookup_objectOf : (objectOf entries).lookup name = entries.reverse.lookup name := by
  unfold objectOf
  rw [lookup_foldl_insertMember, List.append_nil]

theorem mem_insertMember (among : member ∈ insertMember members key value) :
    member = (key, value) ∨ member ∈ members := by
  induction members with
  | nil => exact Or.inl (List.mem_singleton.mp among)
  | cons first rest ih =>
    unfold insertMember at among
    split at among
    · rcases List.mem_cons.mp among with rfl | later
      · exact Or.inl rfl
      · exact Or.inr (List.mem_cons_of_mem _ later)
    · split at among
      · exact List.mem_cons.mp among
      · rcases List.mem_cons.mp among with rfl | later
        · exact Or.inr List.mem_cons_self
        · exact (ih later).imp_right (List.mem_cons_of_mem _)

theorem mem_objectOf (among : member ∈ objectOf entries) : member ∈ entries := by
  have all : ∀ {entries members : List (String × Json)}, member ∈ entries.foldl
      (fun members entry => insertMember members entry.1 entry.2) members →
      member ∈ entries ∨ member ∈ members := by
    intro entries
    induction entries with
    | nil => exact Or.inr
    | cons entry rest ih =>
      intro members among
      rcases ih among with later | before
      · exact Or.inl (List.mem_cons_of_mem _ later)
      · rcases mem_insertMember before with rfl | before
        · exact Or.inl List.mem_cons_self
        · exact Or.inr before
  exact (all among).resolve_right List.not_mem_nil

def look (name : String) (value : Json) : Member := ⟨name, value, readContent value⟩

theorem lookAt_eq : lookAt members = members.map fun member => look member.1 member.2 := by
  induction members with
  | nil => rfl
  | cons member rest ih =>
    obtain ⟨name, value⟩ := member
    rw [lookAt, ih]
    rfl

theorem find_lookAt : find (lookAt members) name = (members.lookup name).map (look name) := by
  rw [lookAt_eq]
  induction members with
  | nil => rfl
  | cons member rest ih =>
    obtain ⟨key, value⟩ := member
    unfold find at ih ⊢
    rw [List.map_cons, List.find?_cons, ih, lookup_cons_ite]
    by_cases same : name = key
    · simp [look, same]
    · simp [look, same, beq_false_of_ne (Ne.symm same)]

theorem find_untagged (other : name ≠ "type") : find (untagged looked) name = find looked name := by
  unfold find untagged
  rw [List.find?_filter]
  refine congrFun (congrArg _ ?_) _
  funext member
  by_cases same : member.name = name
  · simp [same, other]
  · simp [beq_false_of_ne same]

theorem find_objectOf (other : name ≠ "type") : find (untagged (lookAt (objectOf entries))) name =
      (entries.reverse.lookup name).map (look name) := by
  rw [find_untagged other, find_lookAt, lookup_objectOf]

theorem tagOf_objectOf {tag : String} (tagged : entries.reverse.lookup "type" = some
    (.string tag)) : tagOf (lookAt (objectOf entries)) = .ok tag := by
  unfold tagOf
  rw [find_lookAt, lookup_objectOf, tagged]
  rfl

theorem checkMembers_eq_ok_iff :
    checkMembers known looked = .ok () ↔ ∀ member ∈ looked, checkMember known member = .ok () := by
  unfold checkMembers
  induction looked with
  | nil => simp [pure, Except.pure]
  | cons member rest ih =>
    rw [List.forall_mem_cons, ← ih]
    show (do checkMember known member; rest.forM (checkMember known)) = _ ↔ _
    cases checkMember known member with
    | error | ok => simp [bind, Except.bind]

theorem checkMembers_lookAt (readable : ∀ entry ∈ entries,
    checkMember known (look entry.1 entry.2) = .ok ()) :
    checkMembers known (lookAt (objectOf entries)) = .ok () := by
  refine checkMembers_eq_ok_iff.mpr fun member among => ?_
  rw [lookAt_eq] at among
  obtain ⟨entry, written, rfl⟩ := List.mem_map.mp among
  exact readable entry (mem_objectOf written)

theorem checkMembers_objectOf (readable : ∀ entry ∈ entries,
    entry.1 = "type" ∨ checkMember known (look entry.1 entry.2) = .ok ()) :
    checkMembers known (untagged (lookAt (objectOf entries))) = .ok () := by
  refine checkMembers_eq_ok_iff.mpr fun member among => ?_
  obtain ⟨among, other⟩ := List.mem_filter.mp among
  rw [lookAt_eq] at among
  obtain ⟨entry, written, rfl⟩ := List.mem_map.mp among
  have distinct : entry.1 ≠ "type" := by simpa [look] using other
  exact (readable entry (mem_objectOf written)).resolve_left distinct

end Objects

/-! ### Round trip -/

mutual

def ContentBlock.hasMedia : ContentBlock → Bool
  | .image _ | .document _ => true
  | .toolResult _ _ content _ => anyMedia content
  | _ => false

def anyMedia : List ContentBlock → Bool
  | [] => false
  | block :: rest => block.hasMedia || anyMedia rest

end

section Fields

variable {block : ContentBlock} {name : String}

/-- What is left of a written block when its tag has been taken. -/
abbrev ContentBlock.fields (block : ContentBlock) : List Member :=
  untagged (lookAt (objectOf block.entries))

theorem field_string {text : String} (other : name ≠ "type")
    (written : block.entries.reverse.lookup name = some (.string text)) :
    field readString name block.fields = .ok text := by
  unfold field
  rw [find_objectOf other, written]
  rfl

theorem optionField_string {text : Option String} (other : name ≠ "type")
    (written : block.entries.reverse.lookup name = text.map Json.string) :
    optionField readString name block.fields = .ok text := by
  unfold optionField
  rw [find_objectOf other, written]
  cases text <;> rfl

theorem readBlock_toJson_eq (tag : String)
    (tagged : block.entries.reverse.lookup "type" = some (.string tag)) :
    readBlock block.toJson = ContentBlock.ofTag block.fields tag := by
  unfold ContentBlock.toJson
  rw [readBlock, tagOf_objectOf tagged]

theorem forall_optionEntry {α : Type} {write : α → Json} {value : Option α}
    {property : String × Json → Prop} (each : ∀ value, property (name, write value)) :
    ∀ entry ∈ optionEntry name write value, property entry := by
  cases value with
  | none => exact List.forall_mem_nil _
  | some value => exact List.forall_mem_singleton.mpr (each value)

end Fields

theorem readBlock_text (text : String) :
    readBlock (ContentBlock.text text).toJson = .ok (.text text) := by
  have read : field readString "text" (ContentBlock.text text).fields = .ok text :=
    field_string (by decide) rfl
  rw [readBlock_toJson_eq "text" rfl, ContentBlock.ofTag, checkMembers_objectOf, read]
  · rfl
  · exact List.forall_mem_cons.mpr ⟨Or.inl rfl, List.forall_mem_singleton.mpr (Or.inr rfl)⟩

theorem readBlock_thinking (thinking : String) (signature : Option String) :
    readBlock (ContentBlock.thinking thinking signature).toJson =
      .ok (.thinking thinking signature) := by
  let block := ContentBlock.thinking thinking signature
  have tag : block.entries.reverse.lookup "type" = some (.string "thinking") := by
    cases signature <;> rfl
  have text : field readString "thinking" block.fields = .ok thinking :=
    field_string (by decide) (by cases signature <;> rfl)
  have sign : optionField readString "signature" block.fields = .ok signature :=
    optionField_string (by decide) (by cases signature <;> rfl)
  rw [readBlock_toJson_eq _ tag, ContentBlock.ofTag, checkMembers_objectOf, text, sign]
  · rfl
  · exact List.forall_mem_append.mpr ⟨List.forall_mem_cons.mpr ⟨Or.inl rfl,
      List.forall_mem_singleton.mpr (Or.inr rfl)⟩, forall_optionEntry fun _ => Or.inr rfl⟩

theorem readBlock_redactedThinking (data : String) :
    readBlock (ContentBlock.redactedThinking data).toJson = .ok (.redactedThinking data) := by
  have read : field readString "data" (ContentBlock.redactedThinking data).fields = .ok data :=
    field_string (by decide) rfl
  rw [readBlock_toJson_eq "redacted_thinking" rfl, ContentBlock.ofTag, checkMembers_objectOf, read]
  · rfl
  · exact List.forall_mem_cons.mpr ⟨Or.inl rfl, List.forall_mem_singleton.mpr (Or.inr rfl)⟩

theorem readBlock_toolUse (id name : String) (input : Json) :
    readBlock (ContentBlock.toolUse id name input).toJson = .ok (.toolUse id name input) := by
  let block := ContentBlock.toolUse id name input
  have called : field readString "id" block.fields = .ok id := field_string (by decide) rfl
  have named : field readString "name" block.fields = .ok name := field_string (by decide) rfl
  have given : field readValue "input" block.fields = .ok input := by
    unfold field
    rw [find_objectOf (by decide)]
    rfl
  rw [readBlock_toJson_eq "tool_use" rfl, ContentBlock.ofTag, checkMembers_objectOf,
    called, named, given]
  · rfl
  · exact List.forall_mem_cons.mpr ⟨Or.inl rfl, List.forall_mem_cons.mpr ⟨Or.inr rfl,
      List.forall_mem_cons.mpr ⟨Or.inr rfl, List.forall_mem_singleton.mpr (Or.inr rfl)⟩⟩⟩

section ToolResult

variable {toolUseId : String} {name : Option String} {content : List ContentBlock}
  {isError : Option Bool}

theorem find_content : find (ContentBlock.toolResult toolUseId name content isError).fields
      "content" = some (look "content" (.array (blocksToJson content))) := by
  rw [find_objectOf (by decide)]
  cases name <;> cases isError <;> rfl

theorem tag_toolResult : (ContentBlock.toolResult toolUseId name content
    isError).entries.reverse.lookup "type" = some (.string "tool_result") := by
  cases name <;> cases isError <;> rfl

theorem readBlock_toolResult (read : readBlocks (blocksToJson content) = .ok content) :
    readBlock (ContentBlock.toolResult toolUseId name content isError).toJson =
      .ok (.toolResult toolUseId name content isError) := by
  let block := ContentBlock.toolResult toolUseId name content isError
  have answers : field readString "tool_use_id" block.fields = .ok toolUseId :=
    field_string (by decide) (by cases name <;> cases isError <;> rfl)
  have named : optionField readString "name" block.fields = .ok name :=
    optionField_string (by decide) (by cases name <;> cases isError <;> rfl)
  have failed : optionField readBool "is_error" block.fields = .ok isError := by
    unfold optionField
    rw [find_objectOf (by decide)]
    cases name <;> cases isError <;> rfl
  have blocks : (look "content" (.array (blocksToJson content))).blocks = .ok content := read
  rw [readBlock_toJson_eq _ tag_toolResult, ContentBlock.ofTag, checkMembers_objectOf, answers,
    named, find_content]
  · dsimp only
    rw [blocks, failed]
    rfl
  · have readable : readableBlocks (look "content" (.array (blocksToJson content))) = .ok () := by
      unfold readableBlocks
      rw [blocks]
      rfl
    simp only [ContentBlock.entries, List.forall_mem_append]
    exact ⟨⟨⟨List.forall_mem_cons.mpr ⟨Or.inl rfl, List.forall_mem_singleton.mpr (Or.inr rfl)⟩,
      forall_optionEntry fun _ => Or.inr rfl⟩, List.forall_mem_singleton.mpr (Or.inr readable)⟩,
      forall_optionEntry fun _ => Or.inr rfl⟩

theorem readBlocks_of_toolResult {block : ContentBlock}
    (read : readBlock (ContentBlock.toolResult toolUseId name content isError).toJson = .ok block) :
    ∃ blocks, readBlocks (blocksToJson content) = .ok blocks := by
  rw [readBlock_toJson_eq _ tag_toolResult, ContentBlock.ofTag] at read
  obtain ⟨_, checked, -⟩ := bind_eq_ok read
  have all := checkMembers_eq_ok_iff.mp checked _ (List.mem_of_find?_eq_some find_content)
  have readable : readableBlocks (look "content" (.array (blocksToJson content))) = .ok () := all
  obtain ⟨blocks, found, -⟩ := bind_eq_ok readable
  exact ⟨blocks, found⟩

end ToolResult

mutual

/-- **Without an image or a document a block is read back.** -/
theorem readBlock_toJson : ∀ block : ContentBlock, block.hasMedia = false →
    readBlock block.toJson = .ok block
  | .text text, _ => readBlock_text text
  | .thinking thinking signature, _ => readBlock_thinking thinking signature
  | .redactedThinking data, _ => readBlock_redactedThinking data
  | .toolUse id name input, _ => readBlock_toolUse id name input
  | .toolResult _ _ content _, free => readBlock_toolResult (readBlocks_toJson content free)

theorem readBlocks_toJson : ∀ blocks : List ContentBlock, anyMedia blocks = false →
    readBlocks (blocksToJson blocks) = .ok blocks
  | [], _ => rfl
  | block :: rest, free => by
    obtain ⟨here, later⟩ := Bool.or_eq_false_iff.mp free
    show (do
      let block ← readBlock block.toJson
      let blocks ← readBlocks (blocksToJson rest)
      pure (block :: blocks)) = _
    rw [readBlock_toJson block here, readBlocks_toJson rest later]
    rfl

end

theorem not_readBlock_of_source {block : ContentBlock} (tag : String)
    (tagged : block.entries.reverse.lookup "type" = some (.string tag))
    (source : tag ∈ ["base64", "url", "file"]) : ∀ result, readBlock block.toJson ≠ .ok result := by
  intro result read
  rw [readBlock_toJson_eq tag tagged] at read
  rcases List.mem_cons.mp source with rfl | source
  · cases read
  rcases List.mem_cons.mp source with rfl | source
  · cases read
  cases List.mem_singleton.mp source
  cases read

mutual

/-- **A block that can be read back has no image and no document.** -/
theorem hasMedia_of_read : ∀ {block result : ContentBlock},
    readBlock block.toJson = .ok result → block.hasMedia = false
  | .text _, _, _ => rfl
  | .thinking _ _, _, _ => rfl
  | .redactedThinking _, _, _ => rfl
  | .toolUse _ _ _, _, _ => rfl
  | .toolResult _ _ _ _, _, read =>
    have ⟨_, content⟩ := readBlocks_of_toolResult read
    anyMedia_of_read content
  | .image (.base64 _ _), result, read =>
    absurd read (not_readBlock_of_source _ rfl (by decide) result)
  | .image (.url _ detail), result, read =>
    absurd read (not_readBlock_of_source "url" (by cases detail <;> rfl) (by decide) result)
  | .image (.file _ mediaType), result, read =>
    absurd read (not_readBlock_of_source "file" (by cases mediaType <;> rfl) (by decide) result)
  | .document (.base64 _ _), result, read =>
    absurd read (not_readBlock_of_source _ rfl (by decide) result)
  | .document (.url _), result, read =>
    absurd read (not_readBlock_of_source _ rfl (by decide) result)
  | .document (.file _ mediaType), result, read =>
    absurd read (not_readBlock_of_source "file" (by cases mediaType <;> rfl) (by decide) result)

theorem anyMedia_of_read : ∀ {blocks result : List ContentBlock},
    readBlocks (blocksToJson blocks) = .ok result → anyMedia blocks = false
  | [], _, _ => rfl
  | block :: rest, result, read => by
    have split : (do
      let block ← readBlock block.toJson
      let blocks ← readBlocks (blocksToJson rest)
      pure (block :: blocks)) = .ok result := read
    obtain ⟨_, here, split⟩ := bind_eq_ok split
    obtain ⟨_, later, -⟩ := bind_eq_ok split
    exact Bool.or_eq_false_iff.mpr ⟨hasMedia_of_read here, anyMedia_of_read later⟩

end

/-! ### Transcripts -/

theorem Role.read_name (role : Role) : Role.read (.string role.name) = .ok role := by
  cases role <;> rfl

section Message

variable {message : ChatMessage}

theorem find_role : find (lookAt (objectOf message.entries)) "role" =
    some (look "role" (.string message.role.name)) := by
  rw [find_lookAt, lookup_objectOf]
  unfold ChatMessage.entries
  split <;> rfl

theorem find_message_content : find (lookAt (objectOf message.entries)) "content" =
    if message.content.isEmpty then none
    else some (look "content" (.array (blocksToJson message.content))) := by
  rw [find_lookAt, lookup_objectOf]
  unfold ChatMessage.entries
  split <;> rfl

theorem content_toJson :
    ((find (lookAt (objectOf message.entries)) "content").map Member.blocks).getD (.ok []) =
      readBlocks (blocksToJson message.content) := by
  rw [find_message_content]
  split
  · rename_i empty
    rw [List.isEmpty_iff.mp empty]
    rfl
  · rfl

theorem ChatMessage.read_toJson (free : anyMedia message.content = false) :
    ChatMessage.read message.toJson = .ok message := by
  have content := readBlocks_toJson message.content free
  have role : field Role.read "role" (lookAt (objectOf message.entries)) = .ok message.role := by
    unfold field
    rw [find_role]
    exact Role.read_name _
  have found := content_toJson.trans content
  unfold ChatMessage.toJson ChatMessage.read
  dsimp only
  rw [checkMembers_lookAt, role, found]
  · rfl
  · have named : readable Role.read (look "role" (.string message.role.name)) = .ok () := by
      unfold readable look
      rw [Role.read_name]
      rfl
    refine List.forall_mem_cons.mpr ⟨named, ?_⟩
    split
    · exact List.forall_mem_nil _
    · have blocks : readableBlocks (look "content" (.array (blocksToJson message.content))) =
          .ok () := by
        unfold readableBlocks look readContent
        rw [content]
        rfl
      exact List.forall_mem_singleton.mpr blocks

theorem ChatMessage.free_of_read {result : ChatMessage}
    (read : ChatMessage.read message.toJson = .ok result) : anyMedia message.content = false := by
  unfold ChatMessage.toJson ChatMessage.read at read
  dsimp only at read
  rw [content_toJson] at read
  obtain ⟨_, -, read⟩ := bind_eq_ok read
  obtain ⟨_, -, read⟩ := bind_eq_ok read
  obtain ⟨_, content, -⟩ := bind_eq_ok read
  exact anyMedia_of_read content

end Message

/-- No message has an image or a document, at any depth. -/
def MediaFree (messages : List ChatMessage) : Prop :=
  ∀ message ∈ messages, anyMedia message.content = false

theorem decodeTranscript_encode (free : MediaFree messages) :
    decodeTranscript (encodeTranscript messages) = .ok messages := by
  show (messages.map ChatMessage.toJson).mapM ChatMessage.read = _
  induction messages with
  | nil => rfl
  | cons message rest ih =>
    obtain ⟨here, later⟩ := List.forall_mem_cons.mp free
    rw [List.map_cons, List.mapM_cons, ChatMessage.read_toJson here, ih later]
    rfl

theorem mediaFree_of_decode :
    ∀ {result}, decodeTranscript (encodeTranscript messages) = .ok result → MediaFree messages := by
  induction messages with
  | nil => exact fun _ => List.forall_mem_nil _
  | cons message rest ih =>
    intro result read
    have split : (do
      let message ← ChatMessage.read message.toJson
      let messages ← decodeTranscript (encodeTranscript rest)
      pure (message :: messages)) = Except.ok result := by
      rw [← read]
      show _ = ((message :: rest).map ChatMessage.toJson).mapM ChatMessage.read
      rw [List.map_cons, List.mapM_cons]
      rfl
    obtain ⟨first, here, split⟩ := bind_eq_ok split
    obtain ⟨others, later, -⟩ := bind_eq_ok split
    exact List.forall_mem_cons.mpr ⟨ChatMessage.free_of_read here, ih later⟩

/-- **A transcript is read back exactly when it has no image and no document.** -/
theorem decodeTranscript_iff :
    decodeTranscript (encodeTranscript messages) = .ok messages ↔ MediaFree messages :=
  ⟨mediaFree_of_decode, decodeTranscript_encode⟩

end Ziee.Providers
