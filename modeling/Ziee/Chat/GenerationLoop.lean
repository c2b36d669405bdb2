/-
**The generation loop** (`StreamingService::send_message` in `chat/core/services/streaming.rs`).

The task that writes a reply is a program over its ports: the repository, the extensions, the
provider and the channel to its consumer. It goes round after round, from the history to the
provider and through the accumulator to the tools, until an arm leaves the loop.

* `GenerationQuery` — what the task asks of its ports.
* `appendResults` — the tool results of a round; its `break` leaves the loop over them only.
-/

import Ziee.Chat.BranchStore
import Ziee.Library.PortProgram
import Ziee.Providers.SseDriver

namespace Ziee.Chat

open PortProgram
open Ziee.Agent (Uuid)
open Ziee.Providers (ChatMessage ContentBlockDelta Json StreamChatChunk StreamUsage)
open Ziee.Scheduler (AppError)

structure StreamError where
  message : String
  code : Option String

inductive CompletionState
  | aborted
  | failed
  | budgetTruncated
  | contentFiltered
  | empty

structure ChatStreamChunk where
  content : List ContentBlockDelta
  messageId : Option Uuid
  conversationId : Option Uuid
  branchId : Option Uuid
  finishReason : Option String
  completionState : Option CompletionState
  usage : Option StreamUsage
  error : Option StreamError

/-- What is sent to the consumer. -/
abbrev StreamResult : Type := Except AppError ChatStreamChunk

inductive TurnEnd
  | normal
  | cancelled
  | failed
  deriving DecidableEq

def isOneOf (known : List String) (reason : String) : Bool := known.contains reason.toLower

def isBudgetExhausted : String → Bool := isOneOf ["length", "max_tokens"]

def isContentBlocked : String → Bool :=
  isOneOf ["content_filter", "refusal", "safety", "recitation", "prohibited_content", "blocklist"]

def isNormalStop : String → Bool := isOneOf ["stop", "end_turn", "stop_sequence"]

def classifyCompletionState (providerFinishReason : Option String) (producedVisibleContent : Bool)
    (ended : TurnEnd) : Option CompletionState :=
  if producedVisibleContent then none
  else match ended with
    | .cancelled => some .aborted
    | .failed => some .failed
    | .normal => match providerFinishReason with
      | none => some .empty
      | some reason =>
        if isBudgetExhausted reason then some .budgetTruncated
        else if isContentBlocked reason then some .contentFiltered
        else if isNormalStop reason then some .empty
        else none

/-! ### Ports -/

structure MessageWithContent where
  message : Message
  contents : List MessageContent

inductive BeforeLlmAction
  | goOn
  | complete
  | completeWithContent (text : String)

inductive ExtensionAction
  | complete
  /-- The tool results: their types and contents. -/
  | goOn (assistantMessageContent : List (String × Json))
  | completeWithContent (text : String)

/-- What the task reads of the accumulator when `finalize` has returned `Ok`. -/
structure FinalizedReply where
  producedVisibleContent : Bool
  extensionAction : Option ExtensionAction
  finishReason : Option String
  usage : Option StreamUsage

/-- Where `append_content` is called: in an arm that completes the turn, or in the `Continue`
arm. -/
inductive AppendSite
  | answer
  | toolRound
  deriving DecidableEq

inductive GenerationQuery
  | getConversationHistory
  | parseContent (content : MessageContent)
  | processContentFromDb (content : MessageContent) (iteration : Nat)
  | ensureModelToolsCapable
  | seedAvailableFiles
  | convertHistory (history : List MessageWithContent) (iteration : Nat)
  | callBeforeLlmCall (messages : List ChatMessage) (iteration : Nat)
  | callAfterLlmSkipped
  | appendContent (site : AppendSite) (contentType : String) (content : Json)
  | chatStream (messages : List ChatMessage)
  | isClosed
  | markTurnEnd (ended : TurnEnd)
  | processChunk (chunk : StreamChatChunk)
  | finalize
  | getMessageWithContent
  | send (item : StreamResult)

/-- A provider's stream is answered with its items, as far as a run gets; a chunk with the deltas
that are shown. -/
abbrev GenerationQuery.Answer : GenerationQuery → Type
  | .getConversationHistory => Except AppError (List MessageWithContent)
  | .parseContent _ => Except AppError Unit
  | .processContentFromDb _ _ => Except AppError Unit
  | .ensureModelToolsCapable => Bool
  | .seedAvailableFiles => Unit
  | .convertHistory _ _ => Except AppError (List ChatMessage)
  | .callBeforeLlmCall _ _ => Except AppError (BeforeLlmAction × List ChatMessage)
  | .callAfterLlmSkipped => Unit
  | .appendContent _ _ _ => Except AppError MessageContent
  | .chatStream _ => Except String (List (Except String StreamChatChunk))
  | .isClosed => Bool
  | .markTurnEnd _ => Unit
  | .processChunk _ => Except AppError (List ContentBlockDelta)
  | .finalize => Except AppError FinalizedReply
  | .getMessageWithContent => Except AppError (Option MessageWithContent)
  | .send _ => Bool

abbrev generationPorts : Interface := ⟨GenerationQuery, GenerationQuery.Answer⟩

/-- The task returns; an error of a step is an item that it sends. -/
abbrev Generating (α : Type) : Type := Program generationPorts Empty α

abbrev GenerationEvent : Type := Event generationPorts

def ask (query : GenerationQuery) : Generating query.Answer :=
  Program.perform (I := generationPorts) query

/-! ### The task -/

/-- What the task is started with. -/
structure GenerationSettings where
  conversationId : Uuid
  branchId : Uuid
  assistantMessageId : Uuid
  /-- Whether there is an `extension_registry`. -/
  registry : Bool
  /-- `dedup_tool_results_by_id` and `clear_old_tool_results`. -/
  trim : List ChatMessage → List ChatMessage
  /-- `FinishReason::canonicalize` for the provider's family. -/
  canonicalize : String → String

def safetyMaxIterations : Nat := 1000

/-- `let _ = tx.send(..)`. -/
def sendItem (item : StreamResult) : Generating Unit := do
  let _ ← ask (.send item)
  pure ()

def sendError (error : AppError) : Generating Unit := sendItem (.error error)

namespace GenerationSettings

variable (settings : GenerationSettings)

def bareChunk : ChatStreamChunk where
  content := []
  messageId := none
  conversationId := some settings.conversationId
  branchId := some settings.branchId
  finishReason := none
  completionState := none
  usage := none
  error := none

def maxIterationsChunk : ChatStreamChunk :=
  { settings.bareChunk with
    finishReason := some "max_iterations"
    error := some ⟨"Maximum tool calling iterations exceeded", some "MAX_ITERATIONS_EXCEEDED"⟩ }

/-- A chunk with deltas: what `process_chunk` returns, and the text of an extension. -/
def contentChunk (content : List ContentBlockDelta) : ChatStreamChunk :=
  { settings.bareChunk with content, messageId := some settings.assistantMessageId }

def textChunk (text : String) : ChatStreamChunk := settings.contentChunk [.textDelta 0 text]

def completeChunk (finishReason : String) : ChatStreamChunk :=
  { settings.bareChunk with finishReason := some finishReason }

/-- The terminal chunk of a turn that no extension goes on with. -/
def lastChunk (reply : FinalizedReply) (visible : Bool) : ChatStreamChunk :=
  { settings.bareChunk with
    finishReason := some ((reply.finishReason.map settings.canonicalize).getD "stop")
    completionState := classifyCompletionState reply.finishReason visible .normal
    usage := reply.usage }

end GenerationSettings

/-- The contents go through the extensions; `false` when an error was sent and the task returns. -/
def enrich (iteration : Nat) : List MessageContent → Generating Bool
  | [] => pure true
  | content :: contents => do
    let parsed ← ask (.parseContent content)
    match parsed with
    | .error error => do
      sendError error
      pure false
    | .ok _ => do
      let processed ← ask (.processContentFromDb content iteration)
      match processed with
      | .error error => do
        sendError error
        pure false
      | .ok _ => enrich iteration contents

def enrichHistory (settings : GenerationSettings) (iteration : Nat)
    (history : List MessageWithContent) : Generating Bool :=
  if settings.registry then enrich iteration (history.flatMap MessageWithContent.contents)
  else pure true

def seedFiles : Generating Unit := do
  let capable ← ask .ensureModelToolsCapable
  if capable then ask .seedAvailableFiles else pure ()

def streamText (settings : GenerationSettings) (text : String) : Generating Bool := do
  let appended ← ask (.appendContent .answer "text"
    (.object [("type", .string "text"), ("text", .string text)]))
  match appended with
  | .error error => do
    sendError error
    pure false
  | .ok _ => do
    sendItem (.ok (settings.textChunk text))
    pure true

/-- The hooks before the provider is called; `none` when the turn ends here. -/
def beforeLlmCall (settings : GenerationSettings) (iteration : Nat) (messages : List ChatMessage) :
    Generating (Option (List ChatMessage)) :=
  if !settings.registry then pure (some messages)
  else do
    let action ← ask (.callBeforeLlmCall messages iteration)
    match action with
    | .error error => do
      sendError error
      pure none
    | .ok (.goOn, messages) => pure (some messages)
    | .ok (.complete, _) => do
      ask .callAfterLlmSkipped
      sendItem (.ok (settings.completeChunk "extension_complete"))
      pure none
    | .ok (.completeWithContent text, _) => do
      let streamed ← streamText settings text
      if streamed then do
        ask .callAfterLlmSkipped
        sendItem (.ok (settings.completeChunk "stop"))
        pure none
      else pure none

/-- A consumer that is gone is noticed before the chunk. -/
def noticeDeparture : Generating Unit := do
  let closed ← ask .isClosed
  if closed then ask (.markTurnEnd .cancelled) else pure ()

def finalizeEarly (ended : TurnEnd) : Generating Unit := do
  ask (.markTurnEnd ended)
  let _ ← ask .finalize
  pure ()

/-- **The chunks of a reply**; `false` when the task returns. -/
def streamChunks (settings : GenerationSettings) :
    List (Except String StreamChatChunk) → Generating Bool
  | [] => pure true
  | .error cause :: _ => do
    finalizeEarly .failed
    sendError (.internalError ("Stream error: " ++ cause))
    pure false
  | .ok chunk :: chunks => do
    noticeDeparture
    let output ← ask (.processChunk chunk)
    match output with
    | .error error => do
      finalizeEarly .failed
      sendError error
      pure false
    | .ok shown => do
      let delivered ← ask (.send (.ok (settings.contentChunk shown)))
      if delivered then streamChunks settings chunks
      else do
        finalizeEarly .cancelled
        pure false

/-- **The tool results of a round**: after a failure the error is sent, and those appended so far
are returned. -/
def appendResults : List (String × Json) → Generating (List MessageContent)
  | [] => pure []
  | (contentType, content) :: contents => do
    let appended ← ask (.appendContent .toolRound contentType content)
    match appended with
    | .error error => do
      sendError error
      pure []
    | .ok created => do
      let later ← appendResults contents
      pure (created :: later)

def updateHistory (id : Uuid) (current : MessageWithContent) :
    List MessageWithContent → List MessageWithContent
  | [] => [current]
  | entry :: history =>
    if entry.message.id = id then { entry with contents := current.contents } :: history
    else entry :: updateHistory id current history

def extendHistory (id : Uuid) (created : List MessageContent) :
    List MessageWithContent → List MessageWithContent
  | [] => []
  | entry :: history =>
    if entry.message.id = id then { entry with contents := entry.contents ++ created } :: history
    else entry :: extendHistory id created history

/-- The `Continue` arm; `none` when the loop is left. -/
def continueRound (settings : GenerationSettings) (contents : List (String × Json))
    (history : List MessageWithContent) : Generating (Option (List MessageWithContent)) := do
  let found ← ask .getMessageWithContent
  match found with
  | .error error => do
    sendError error
    pure none
  | .ok none => do
    sendError (.notFound "Assistant message not found")
    pure none
  | .ok (some current) => do
    let created ← appendResults contents
    pure (some (extendHistory settings.assistantMessageId created
      (updateHistory settings.assistantMessageId current history)))

/-- One round up to the end of the reply: the provider is called, and its chunks are streamed.
`none` when the turn ends here. -/
def reply (settings : GenerationSettings) (iteration : Nat) (history : List MessageWithContent) :
    Generating (Option FinalizedReply) := do
  let enriched ← enrichHistory settings iteration history
  if !enriched then pure none else do
  seedFiles
  let converted ← ask (.convertHistory history iteration)
  match converted with
  | .error error => do
    sendError error
    pure none
  | .ok messages => do
    let request ← beforeLlmCall settings iteration messages
    match request with
    | none => pure none
    | some messages => do
      let stream ← ask (.chatStream (settings.trim messages))
      match stream with
      | .error cause => do
        sendError (.internalError ("AI provider error: " ++ cause))
        pure none
      | .ok chunks => do
        let streamed ← streamChunks settings chunks
        if !streamed then pure none else do
        let finalized ← ask .finalize
        match finalized with
        | .error error => do
          sendError error
          pure none
        | .ok reply => pure (some reply)

/-- **The loop**, with the number of rounds that are left. -/
def rounds (settings : GenerationSettings) : Nat → Bool → List MessageWithContent → Generating Unit
  | 0, _, _ => sendItem (.ok settings.maxIterationsChunk)
  | left + 1, visible, history => do
    let replied ← reply settings (safetyMaxIterations - left) history
    match replied with
    | none => pure ()
    | some reply => do
      let visible := visible || reply.producedVisibleContent
      match reply.extensionAction with
      | some (.completeWithContent text) => do
        let streamed ← streamText settings text
        if streamed then sendItem (.ok (settings.completeChunk "stop")) else pure ()
      | some (.goOn contents) => do
        let next ← continueRound settings contents history
        match next with
        | none => pure ()
        | some history => rounds settings left visible history
      | _ => sendItem (.ok (settings.lastChunk reply visible))

/-- **The task**: an assistant message without contents is left out of the history. -/
def generate (settings : GenerationSettings) : Generating Unit := do
  let fetched ← ask .getConversationHistory
  match fetched with
  | .error error => sendError error
  | .ok history => rounds settings safetyMaxIterations false (history.filter fun entry =>
      entry.message.id ≠ settings.assistantMessageId || !entry.contents.isEmpty)

end Ziee.Chat
