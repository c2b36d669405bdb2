/-
**The messages of an OpenAI request** (`OpenAIProvider::convert_messages`).

A message becomes one message with its text, images, documents and tool calls, and one message of
the role `tool` for each of its tool results. The images of a result follow it in a message of the
user. In the end all system messages are merged to one at the front.

* `convertMessage`, `convertMessages` — the conversion.
* `rounds_contiguous_iff` — **the rounds are contiguous exactly when they are in order and bare**;
  `two_screenshots` are not.
-/

import Ziee.Providers.Chat

namespace Ziee.Providers

structure OpenAIImageUrl where
  url : String
  detail : Option String

structure OpenAIFileRef where
  fileId : Option String
  filename : Option String
  fileData : Option String

inductive OpenAIContentPart
  | text (text : String)
  | imageUrl (imageUrl : OpenAIImageUrl)
  | file (file : OpenAIFileRef)

inductive OpenAIContent
  | text (text : String)
  | multimodal (parts : List OpenAIContentPart)

structure OpenAIFunctionCall where
  name : String
  arguments : String

structure OpenAIToolCall where
  id : String
  toolType : String
  function : OpenAIFunctionCall

structure OpenAIMessage where
  role : String
  content : Option OpenAIContent
  name : Option String
  toolCallId : Option String
  toolCalls : Option (List OpenAIToolCall)

namespace OpenAI

/-! ### The conversion -/

def imagePart : ImageSource → Option OpenAIContentPart
  | .base64 mediaType data => some (.imageUrl ⟨"data:" ++ mediaType ++ ";base64," ++ data, none⟩)
  | .url url detail => some (.imageUrl ⟨url, detail⟩)
  | .file _ _ => none

def synthFilename (mediaType : String) : String :=
  let ext :=
    if mediaType = "application/pdf" then "pdf"
    else if mediaType = "text/plain" then "txt"
    else if mediaType = "text/markdown" then "md"
    else if mediaType = "application/json" then "json"
    else "bin"
  "document." ++ ext

def documentPart : DocumentSource → Option OpenAIContentPart
  | .base64 mediaType data =>
    some (.file ⟨none, some (synthFilename mediaType),
      some ("data:" ++ mediaType ++ ";base64," ++ data)⟩)
  | .file fileId _ => some (.file ⟨some fileId, none, none⟩)
  | .url _ => none

def buildContent : List OpenAIContentPart → Option OpenAIContent
  | [] => none
  | [.text text] => some (.text text)
  | parts => some (.multimodal parts)

structure ToolResultMsg where
  id : String
  name : Option String
  text : String
  images : List OpenAIContentPart

def contentPart : ContentBlock → Option OpenAIContentPart
  | .text text => some (.text text)
  | .image source => imagePart source
  | .document source => documentPart source
  | _ => none

def toolCall : ContentBlock → Option OpenAIToolCall
  | .toolUse id name input => some ⟨id, "function", ⟨name, input.render⟩⟩
  | _ => none

def resultText : ContentBlock → Option String
  | .text text => some text
  | _ => none

def resultImage : ContentBlock → Option OpenAIContentPart
  | .image source => imagePart source
  | _ => none

def toolResultMsg : ContentBlock → Option ToolResultMsg
  | .toolResult toolUseId name content _ =>
    some ⟨toolUseId, name, "\n".intercalate (content.filterMap resultText),
      content.filterMap resultImage⟩
  | _ => none

def roleName : Role → String
  | .system => "system"
  | .user => "user"
  | .assistant => "assistant"
  | .tool => "tool"

def toolMessage (result : ToolResultMsg) : OpenAIMessage :=
  let text :=
    if result.text ≠ "" then result.text
    else if result.images.isEmpty then "[no output]"
    else "[tool returned image(s); see following message]"
  ⟨"tool", some (.text text), none, some result.id, none⟩

def imageMessage (result : ToolResultMsg) : OpenAIMessage :=
  let label := "[tool " ++ result.name.getD "result" ++ " returned image(s)]"
  ⟨"user", some (.multimodal (.text label :: result.images)), none, none, none⟩

def resultMessages (result : ToolResultMsg) : List OpenAIMessage :=
  toolMessage result :: if result.images.isEmpty then [] else [imageMessage result]

def mainMessage (message : ChatMessage) : Option OpenAIMessage :=
  let content := buildContent (message.content.filterMap contentPart)
  let calls := message.content.filterMap toolCall
  if content.isSome || !calls.isEmpty then
    some ⟨roleName message.role, content, none, none, if calls.isEmpty then none else some calls⟩
  else none

def convertMessage (message : ChatMessage) : List OpenAIMessage :=
  (mainMessage message).toList ++
    (message.content.filterMap toolResultMsg).flatMap resultMessages

def systemText (message : OpenAIMessage) : String :=
  match message.content with
  | some (.text text) => text
  | some (.multimodal parts) => "\n\n".intercalate (parts.filterMap fun part => match part with
    | .text text => some text
    | _ => none)
  | none => ""

def mergeSystem (out : List OpenAIMessage) : List OpenAIMessage :=
  let text := (out.filter fun message => message.role = "system").foldl
    (fun text message =>
      if systemText message = "" then text
      else if text = "" then systemText message
      else text ++ "\n\n" ++ systemText message) ""
  (if text = "" then [] else [⟨"system", some (.text text), none, none, none⟩]) ++
    out.filter fun message => message.role ≠ "system"

def convertMessages (messages : List ChatMessage) : List OpenAIMessage :=
  mergeSystem (messages.flatMap convertMessage)

/-! ### Tool rounds -/

/-- The next messages answer the calls, in their order. -/
def AnsweredBy (calls : List OpenAIToolCall) (after : List OpenAIMessage) : Prop :=
  (after.take calls.length).map (fun message => (message.role, message.toolCallId)) =
    calls.map fun call => ("tool", some call.id)

/-- **After each message of the assistant with tool calls**: one message of the role `tool` for each
id, in order, before any other message. -/
def Contiguous : List OpenAIMessage → Prop
  | [] => True
  | message :: after =>
    (message.role = "assistant" → ∀ calls, message.toolCalls = some calls →
      AnsweredBy calls after) ∧
      Contiguous after

/-- **Every message of the role `tool` has an id.** -/
def Named (out : List OpenAIMessage) : Prop :=
  ∀ message ∈ out, message.role = "tool" → message.toolCallId.isSome = true

/-- **Every message of the assistant with tool calls is followed by one tool message that answers
exactly its ids.** -/
def Answered : List ChatMessage → Prop
  | [] => True
  | message :: after =>
    (message.role = .assistant → message.toolUseIds ≠ [] → ∃ answer later, after = answer :: later ∧
      answer.role = .tool ∧ answer.toolResultIds.Perm message.toolUseIds) ∧ Answered after

def hasImage : ContentBlock → Bool
  | .toolResult _ _ content _ => content.any fun block => match block with
    | .image source => (imagePart source).isSome
    | _ => false
  | _ => false

def isMain : ContentBlock → Bool
  | .text _ => true
  | .image source => (imagePart source).isSome
  | .document source => (documentPart source).isSome
  | .toolUse .. => true
  | _ => false

/-- **The results that come first have the ids of the calls, in order, and only the last of them has
images.** -/
def FirstResults (ids : List String) (results : List ContentBlock) : Prop :=
  (results.take ids.length).map ContentBlock.toolResultId? = ids.map some ∧
    ∀ block ∈ results.take (ids.length - 1), hasImage block = false

/-- **The rounds are in order**: the results are those of the message itself and of the next one. -/
def InOrder : List ChatMessage → Prop
  | [] => True
  | message :: after =>
    (message.role = .assistant → ∀ answer later, after = answer :: later → message.toolUseIds ≠ [] →
      FirstResults message.toolUseIds
        ((message.content ++ answer.content).filter ContentBlock.isToolResult)) ∧ InOrder after

/-- **Tool messages have nothing but results** that would be sent. -/
def Bare (messages : List ChatMessage) : Prop :=
  ∀ message ∈ messages, message.role = .tool → ∀ block ∈ message.content, isMain block = false

/-! ### The answers of a round -/

section Rounds

variable {blocks : List ContentBlock} {calls : List OpenAIToolCall} {out later : List OpenAIMessage}
  {message : ChatMessage} {messages : List ChatMessage}

def resultsOf (blocks : List ContentBlock) : List OpenAIMessage :=
  (blocks.filterMap toolResultMsg).flatMap resultMessages

theorem resultsOf_append (blocks others : List ContentBlock) :
    resultsOf (blocks ++ others) = resultsOf blocks ++ resultsOf others := by
  rw [resultsOf, List.filterMap_append, List.flatMap_append, resultsOf, resultsOf]

theorem resultsOf_filter (blocks : List ContentBlock) :
    resultsOf (blocks.filter ContentBlock.isToolResult) = resultsOf blocks := by
  have same : (blocks.filter ContentBlock.isToolResult).filterMap toolResultMsg =
      blocks.filterMap toolResultMsg := by
    rw [List.filterMap_filter]
    refine List.filterMap_congr fun block _ => ?_
    cases block <;> rfl
  rw [resultsOf, same, resultsOf]

theorem hasImage_toolResult (id : String) (name : Option String) (content : List ContentBlock)
    (isError : Option Bool) : hasImage (.toolResult id name content isError) =
      !(content.filterMap resultImage).isEmpty := by
  rw [hasImage]
  induction content with
  | nil => rfl
  | cons block content ih =>
    rw [List.any_cons, ih]
    cases block with
    | image source =>
      cases part : imagePart source with
      | none =>
        rw [List.filterMap_cons_none (show resultImage (.image source) = none from part)]
        simp [part]
      | some =>
        rw [List.filterMap_cons_some (show resultImage (.image source) = some _ from part)]
        simp [part]
    | _ => rfl

theorem firstResults_cons {id : String} {ids : List String} {block : ContentBlock} :
    FirstResults (id :: ids) (block :: blocks) ↔
      block.toolResultId? = some id ∧ (ids ≠ [] → hasImage block = false) ∧
        FirstResults ids blocks := by
  cases ids with
  | nil => simp [FirstResults]
  | cons next ids =>
    simp only [FirstResults, List.length_cons, List.take_succ_cons, List.map_cons, List.cons.injEq,
      Nat.add_sub_cancel, List.mem_cons, forall_eq_or_imp, ne_eq, reduceCtorEq, not_false_eq_true,
      true_imp_iff]
    tauto

theorem answeredBy_cons {call : OpenAIToolCall} {first : OpenAIMessage} :
    AnsweredBy (call :: calls) (first :: later) ↔
      first.role = "tool" ∧ first.toolCallId = some call.id ∧ AnsweredBy calls later := by
  simp only [AnsweredBy, List.length_cons, List.take_succ_cons, List.map_cons, List.cons.injEq,
    Prod.mk.injEq, and_assoc]

/-- **The calls are answered** exactly when the first results are theirs and only the last of those
has images. -/
theorem answeredBy_results (results : ∀ block ∈ blocks, block.isToolResult = true)
    (enough : calls.length ≤ blocks.length) : AnsweredBy calls (resultsOf blocks ++ later) ↔
      FirstResults (calls.map OpenAIToolCall.id) blocks := by
  induction calls generalizing blocks with
  | nil => simp [AnsweredBy, FirstResults]
  | cons call calls ih =>
    cases blocks with
    | nil => exact absurd enough (Nat.not_succ_le_zero _)
    | cons block blocks =>
      have rest := ih (fun other member => results other (List.mem_cons_of_mem _ member))
        (Nat.le_of_succ_le_succ enough)
      rw [List.map_cons, firstResults_cons]
      cases block with
      | toolResult id name content isError =>
        rw [hasImage_toolResult]
        have sent : resultsOf (.toolResult id name content isError :: blocks) ++ later =
            toolMessage ⟨id, name, "\n".intercalate (content.filterMap resultText),
              content.filterMap resultImage⟩ ::
            ((if (content.filterMap resultImage).isEmpty then [] else
              [imageMessage ⟨id, name, "\n".intercalate (content.filterMap resultText),
                content.filterMap resultImage⟩]) ++ (resultsOf blocks ++ later)) := by
          rw [← List.append_assoc]
          rfl
        rw [sent, answeredBy_cons]
        have first : (some id = some call.id) ↔
            (ContentBlock.toolResult id name content isError).toolResultId? = some call.id :=
              Iff.rfl
        by_cases none : (content.filterMap resultImage).isEmpty
        · rw [if_pos none, List.nil_append, rest]
          simp [toolMessage, first, none]
        · -- the images are in the way of every other call
          rw [if_neg none]
          cases calls with
          | nil => simp [toolMessage, first, AnsweredBy, FirstResults]
          | cons next calls =>
            rw [List.singleton_append, answeredBy_cons]
            simp [imageMessage, none]
      | _ => exact absurd (results _ List.mem_cons_self) (by simp [ContentBlock.isToolResult])

/-! ### One message -/

/-- What is left of a message when the system messages are taken out. -/
def sent (message : ChatMessage) : List OpenAIMessage :=
  (convertMessage message).filter fun message => message.role ≠ "system"

theorem resultsOf_role : ∀ answer ∈ resultsOf blocks,
    (answer.role = "tool" ∧ answer.toolCallId.isSome = true ∨ answer.role = "user") ∧
      answer.toolCalls = none := by
  intro answer member
  obtain ⟨result, -, member⟩ := List.mem_flatMap.mp member
  rcases List.mem_cons.mp member with rfl | member
  · exact ⟨.inl ⟨rfl, rfl⟩, rfl⟩
  · split at member
    · cases member
    · rw [List.mem_singleton.mp member]
      exact ⟨.inr rfl, rfl⟩

theorem sent_eq (message : ChatMessage) : sent message =
    ((mainMessage message).toList.filter fun message => message.role ≠ "system") ++
      resultsOf message.content := by
  rw [sent, convertMessage, List.filter_append]
  congr 1
  refine List.filter_eq_self.mpr fun answer member => ?_
  rcases (resultsOf_role answer member).1 with ⟨role, -⟩ | role <;> simp [role]

theorem contiguous_plain {front : List OpenAIMessage} (plain : ∀ answer ∈ front,
    answer.role = "assistant" → answer.toolCalls = none) :
    Contiguous (front ++ later) ↔ Contiguous later := by
  induction front with
  | nil => rfl
  | cons first front ih =>
    rw [List.cons_append, Contiguous, ih fun answer member =>
      plain answer (List.mem_cons_of_mem _ member)]
    refine and_iff_right fun role calls some => ?_
    rw [plain first List.mem_cons_self role] at some
    cases some

theorem roleName_injective {role role' : Role} (same : roleName role = roleName role') :
    role = role' := by
  cases role <;> cases role' <;> first | rfl | exact absurd same (by decide)

theorem toolCall_ids (blocks : List ContentBlock) :
    (blocks.filterMap toolCall).map OpenAIToolCall.id =
      blocks.filterMap ContentBlock.toolUseId? := by
  rw [List.map_filterMap]
  refine List.filterMap_congr fun block _ => ?_
  cases block <;> rfl

/-- **A message**: its calls are answered by what follows, its own results first. -/
theorem contiguous_sent (message : ChatMessage) (later : List OpenAIMessage) :
    Contiguous (sent message ++ later) ↔
      (message.role = .assistant → message.toolUseIds ≠ [] →
        AnsweredBy (message.content.filterMap toolCall) (resultsOf message.content ++ later)) ∧
      Contiguous later := by
  have own : Contiguous (resultsOf message.content ++ later) ↔ Contiguous later :=
    contiguous_plain fun answer member _ => (resultsOf_role answer member).2
  have calls : message.toolUseIds = [] ↔ message.content.filterMap toolCall = [] := by
    rw [ChatMessage.toolUseIds, ← toolCall_ids, List.map_eq_nil_iff]
  rw [sent_eq, List.append_assoc]
  cases main : mainMessage message with
  | none =>
    have idle : message.content.filterMap toolCall = [] := by
      rw [mainMessage] at main
      by_contra some
      simp [some] at main
    simp [own, calls, idle]
  | some first =>
    have first_eq : first = ⟨roleName message.role,
      buildContent (message.content.filterMap contentPart),
        none, none, if (message.content.filterMap toolCall).isEmpty then none
          else some (message.content.filterMap toolCall)⟩ := by
      rw [mainMessage] at main
      split at main
      · exact (Option.some.inj main).symm
      · cases main
    by_cases role : message.role = .assistant
    · have kept : [first].filter (fun message => message.role ≠ "system") = [first] := by
        simp [first_eq, role, roleName]
      rw [Option.toList_some, kept, List.singleton_append, Contiguous, own]
      refine and_congr_left fun _ => ?_
      simp only [first_eq, role, roleName, forall_const]
      by_cases idle : message.content.filterMap toolCall = []
      · simp [idle, calls.mpr idle]
      · simp [idle, mt calls.mp idle]
    · have front : Contiguous (([first].filter fun message => message.role ≠ "system") ++
          (resultsOf message.content ++ later)) ↔
            Contiguous (resultsOf message.content ++ later) := by
        refine contiguous_plain fun answer member assistant => absurd ?_ role
        obtain rfl := List.mem_singleton.mp (List.mem_of_mem_filter member)
        rw [first_eq] at assistant
        exact roleName_injective assistant
      rw [Option.toList_some, front, own]
      simp [role]

/-! ### All messages -/

theorem rest_eq (messages : List ChatMessage) :
    (messages.flatMap convertMessage).filter (fun message => message.role ≠ "system") =
      messages.flatMap sent := by
  rw [List.filter_flatMap]
  rfl

theorem contiguous_mergeSystem (messages : List ChatMessage) :
    Contiguous (convertMessages messages) ↔ Contiguous (messages.flatMap sent) := by
  rw [convertMessages, mergeSystem, rest_eq]
  refine contiguous_plain fun answer member role => ?_
  split at member
  · cases member
  · rw [List.mem_singleton.mp member]

theorem named_mergeSystem (messages : List ChatMessage) :
    Named (convertMessages messages) ↔ ∀ message ∈ messages, ∀ main,
      mainMessage message = some main →
      main.role ≠ "tool" := by
  rw [convertMessages, mergeSystem, rest_eq]
  constructor
  · intro named message member main here role
    have inside : main ∈ sent message := by
      rw [sent_eq, here]
      refine List.mem_append_left _ (List.mem_filter.mpr ⟨List.mem_singleton_self _, ?_⟩)
      simp [role]
    have id := named main (List.mem_append_right _ (List.mem_flatMap.mpr ⟨message, member, inside⟩))
      role
    rw [mainMessage] at here
    split at here
    · rw [← Option.some.inj here] at id
      cases id
    · cases here
  · intro main answer member role
    rcases List.mem_append.mp member with member | member
    · split at member
      · cases member
      · rw [List.mem_singleton.mp member] at role
        exact absurd (show "system" = "tool" from role) (by decide)
    · obtain ⟨message, inside, member⟩ := List.mem_flatMap.mp member
      rw [sent_eq] at member
      rcases List.mem_append.mp member with own | result
      · have here := Option.mem_toList.mp (List.mem_of_mem_filter own)
        exact absurd role (main message inside answer here)
      · rcases (resultsOf_role answer result).1 with ⟨-, id⟩ | user
        · exact id
        · rw [user] at role
          exact absurd role (by decide)

theorem mainMessage_none (message : ChatMessage) :
    mainMessage message = none ↔ ∀ block ∈ message.content, isMain block = false := by
  have empty : ∀ parts, (buildContent parts).isSome = !parts.isEmpty := by
    intro parts
    unfold buildContent
    split <;> simp_all
  have parts : ∀ block, isMain block = false ↔ contentPart block = none ∧
    toolCall block = none := by
    intro block
    cases block <;> simp [isMain, contentPart, toolCall]
  have nothing : mainMessage message = none ↔
      message.content.filterMap contentPart = [] ∧ message.content.filterMap toolCall = [] := by
    rw [mainMessage, empty]
    by_cases content : message.content.filterMap contentPart = []
    · by_cases calls : message.content.filterMap toolCall = []
      · simp [content, calls]
      · simp [content, calls]
    · simp [content]
  rw [nothing, List.filterMap_eq_nil_iff, List.filterMap_eq_nil_iff]
  simp only [parts]
  exact ⟨fun none block member => ⟨none.1 block member, none.2 block member⟩,
    fun none => ⟨fun block member => (none block member).1, fun block member =>
      (none block member).2⟩⟩

theorem named_iff (messages : List ChatMessage) : Named (convertMessages messages) ↔
    Bare messages := by
  rw [named_mergeSystem]
  refine forall₂_congr fun message _ => ?_
  rw [← mainMessage_none]
  have roles : ∀ main, mainMessage message = some main → main.role = roleName message.role := by
    intro main here
    rw [mainMessage] at here
    split at here
    · rw [← Option.some.inj here]
    · cases here
  constructor
  · intro other role
    by_contra some
    obtain ⟨main, here⟩ := Option.ne_none_iff_exists'.mp some
    exact other main here ((roles main here).trans (congrArg roleName role))
  · intro bare main here role
    rw [roles main here] at role
    rw [bare (roleName_injective role)] at here
    cases here

theorem length_results (message : ChatMessage) : message.toolResultIds.length =
    (message.content.filter ContentBlock.isToolResult).length := by
  rw [ChatMessage.toolResultIds]
  induction message.content with
  | nil => rfl
  | cons block blocks ih =>
    cases block with
    | toolResult => exact congrArg (· + 1) ih
    | _ => exact ih

/-- **Bare rounds are contiguous exactly when they are in order.** -/
theorem contiguous_iff (answered : Answered messages) (bare : Bare messages) :
    Contiguous (messages.flatMap sent) ↔ InOrder messages := by
  induction messages with
  | nil => rfl
  | cons message after ih =>
    obtain ⟨next, answered⟩ := answered
    have later := ih answered fun other member => bare other (List.mem_cons_of_mem _ member)
    rw [List.flatMap_cons, contiguous_sent, later, InOrder]
    refine and_congr_left fun _ => imp_congr_right fun role => ?_
    have round : ∀ answer later, after = answer :: later → message.toolUseIds ≠ [] →
        (AnsweredBy (message.content.filterMap toolCall)
            (resultsOf message.content ++ after.flatMap sent) ↔
          FirstResults message.toolUseIds
            ((message.content ++ answer.content).filter ContentBlock.isToolResult)) := by
      rintro answer later rfl uses
      obtain ⟨_, _, same, tool, permuted⟩ := next role uses
      obtain ⟨rfl, -⟩ := List.cons.inj same
      have own : sent answer = resultsOf answer.content := by
        rw [sent_eq, (mainMessage_none answer).mpr (bare answer (by simp) tool)]
        rfl
      rw [List.flatMap_cons, own, ← List.append_assoc, ← resultsOf_append, ← resultsOf_filter,
        answeredBy_results (fun block member => (List.mem_filter.mp member).2), toolCall_ids,
        ChatMessage.toolUseIds]
      have count : (message.content.filterMap toolCall).length = answer.toolResultIds.length := by
        rw [permuted.length_eq, ChatMessage.toolUseIds, ← toolCall_ids, List.length_map]
      rw [count, length_results, List.filter_append, List.length_append]
      exact Nat.le_add_left _ _
    constructor
    · intro answers answer later same uses
      exact (round answer later same uses).mp (answers uses)
    · intro ordered uses
      obtain ⟨answer, later, same, -⟩ := next role uses
      exact (round answer later same uses).mpr (ordered answer later same uses)

/-- **Tool rounds are contiguous** exactly when they are in order and tool messages are bare. -/
theorem rounds_contiguous_iff (answered : Answered messages) :
    Contiguous (convertMessages messages) ∧ Named (convertMessages messages) ↔
      InOrder messages ∧ Bare messages := by
  rw [named_iff, contiguous_mergeSystem]
  exact and_congr_left fun bare => contiguous_iff answered bare

end Rounds

/-! ### Two tool rounds -/

def twoCalls (first second : List ContentBlock) : List ChatMessage :=
  [⟨.assistant, [.toolUse "a" "snap" .null, .toolUse "b" "snap" .null]⟩,
   ⟨.tool, [.toolResult "a" none first none, .toolResult "b" none second none]⟩]

theorem twoCalls_answered (first second : List ContentBlock) : Answered
    (twoCalls first second) := by
  refine ⟨fun _ _ => ⟨_, _, rfl, rfl, .refl _⟩, fun role => ?_, trivial⟩
  cases role

theorem rounds_contiguous_text : Contiguous (convertMessages (twoCalls [.text "ok"]
      [.image (.base64 "image/png" "QQ")])) ∧
    Named (convertMessages (twoCalls [.text "ok"] [.image (.base64 "image/png" "QQ")])) := by
  refine (rounds_contiguous_iff (twoCalls_answered _ _)).mpr ⟨⟨fun _ => ?_, ?_, trivial⟩, ?_⟩
  · rintro answer later same -
    obtain ⟨rfl, rfl⟩ := List.cons.inj same
    refine ⟨rfl, fun block first => ?_⟩
    rw [List.mem_singleton.mp (show block ∈ [.toolResult "a" none [.text "ok"] none] from first)]
    rfl
  · exact nofun
  · intro message member role block inside
    simp only [twoCalls, List.mem_cons, List.not_mem_nil, or_false] at member
    rcases member with rfl | rfl
    · cases role
    · simp only [List.mem_cons, List.not_mem_nil, or_false] at inside
      rcases inside with rfl | rfl <;> rfl

/-- **Two screenshots**: the first one comes before the second result. -/
theorem two_screenshots : Answered (twoCalls [.image (.base64 "image/png" "QQ")]
      [.image (.base64 "image/png" "QQ")]) ∧
    ¬Contiguous (convertMessages (twoCalls [.image (.base64 "image/png" "QQ")]
      [.image (.base64 "image/png" "QQ")])) := by
  refine ⟨twoCalls_answered _ _, fun contiguous => ?_⟩
  have answered := contiguous.1 rfl [⟨"a", "function", ⟨"snap", "null"⟩⟩,
    ⟨"b", "function", ⟨"snap", "null"⟩⟩] rfl
  have second : ("user", (none : Option String)) = ("tool", some "b") :=
    (List.cons.inj (List.cons.inj answered).2).1
  exact absurd second (by decide)

end OpenAI

end Ziee.Providers
