/-
**The event-stream driver** (`ai-providers/src/providers/sse.rs`, `Utf8StreamDecoder` in `mod.rs`).

Chunks of bytes are decoded into a buffer; events are taken from the buffer and mapped by the
adapter of a provider. A `break` of the adapter leaves the inner loop only: the rest of the buffer
is looked at again when another chunk has come.

* `Utf8StreamDecoder.decode` — one chunk.
* `takeEvent`, `drain` — the events of the buffer.
* `driveSse` — the loop over the chunks, with the events that it hands to the adapter.
* `openAiSse`, `geminiSse` — two adapters.
-/

import Ziee.Library.Framing
import Ziee.Library.Utf8
import Ziee.Agent.Types

namespace Ziee.Providers

open Framing
open Ziee.Agent (Uuid)

structure Utf8StreamDecoder where
  pending : List UInt8

namespace Utf8StreamDecoder

def default : Utf8StreamDecoder := ⟨[]⟩

/-- **`decode`**: the text up to the first invalid sequence, and a replacement character for that.
An incomplete character stays, and so does all that comes after an invalid sequence. -/
def decode (decoder : Utf8StreamDecoder) (chunk : List UInt8) : List Char × Utf8StreamDecoder :=
  match Utf8.scan .start (decoder.pending ++ chunk) with
  | (valid, .ended state) => (valid, ⟨state.octets⟩)
  | (valid, .invalid rest) => (valid ++ [Utf8.replacement], ⟨rest⟩)

def decodeAll : Utf8StreamDecoder → List (List UInt8) → List Char
  | _, [] => []
  | decoder, chunk :: chunks =>
    (decoder.decode chunk).1 ++ (decoder.decode chunk).2.decodeAll chunks

end Utf8StreamDecoder

/-! ### Adapters -/

/-- The errors that the driver and the adapters yield. -/
inductive ProviderError
  | network (cause : String)
  | providerSpecific (message : String)
  | streaming (message : String)
  deriving DecidableEq

inductive ControlFlow
  | goOn
  | breakOff
  deriving DecidableEq

structure EventOutcome (Chunk : Type) where
  items : List (Except ProviderError Chunk)
  control : ControlFlow

namespace EventOutcome

variable {Chunk : Type}

def empty : EventOutcome Chunk := ⟨[], .goOn⟩

def emit (items : List (Except ProviderError Chunk)) : EventOutcome Chunk := ⟨items, .goOn⟩

def emitThenBreak (items : List (Except ProviderError Chunk)) : EventOutcome Chunk :=
  ⟨items, .breakOff⟩

end EventOutcome

/-- **An adapter**: its delimiters, none of them empty or the start of another, and its mapping. -/
structure SseAdapter (State Chunk : Type) where
  initial : State
  delimiters : List (List Char)
  proper : Proper delimiters
  label : String
  mapEvent : List Char → State → EventOutcome Chunk × State

/-! ### The driver -/

/-- **`take_event`**: the event and what is left of the buffer. -/
def takeEvent (buffer : List Char) (delimiters : List (List Char)) :
    Option (List Char × List Char) :=
  first delimiters buffer

def maxSseBufferBytes : Nat := 16 * 1024 * 1024

/-- `str::len`. -/
def byteLength (text : List Char) : Nat := (text.map Char.utf8Size).sum

structure Drained (State Chunk : Type) where
  events : List (List Char)
  items : List (Except ProviderError Chunk)
  buffer : List Char
  state : State

section Driver

variable {State Chunk : Type}

/-- The inner loop; an event makes the buffer shorter. -/
def drainWithin (adapter : SseAdapter State Chunk) : Nat → List Char → State → Drained State Chunk
  | 0, buffer, state => ⟨[], [], buffer, state⟩
  | fuel + 1, buffer, state =>
    match takeEvent buffer adapter.delimiters with
    | none => ⟨[], [], buffer, state⟩
    | some (event, rest) =>
      let outcome := (adapter.mapEvent event state).1
      let next := (adapter.mapEvent event state).2
      match outcome.control with
      | .breakOff => ⟨[event], outcome.items, rest, next⟩
      | .goOn =>
        let later := drainWithin adapter fuel rest next
        ⟨event :: later.events, outcome.items ++ later.items, later.buffer, later.state⟩

def drain (adapter : SseAdapter State Chunk) (buffer : List Char) (state : State) :
    Drained State Chunk :=
  drainWithin adapter buffer.length buffer state

/-- What the driver did: the events it handed to the adapter, the items it yielded, and the buffer
at the end. -/
structure Driven (Chunk : Type) where
  events : List (List Char)
  items : List (Except ProviderError Chunk)
  buffer : List Char

def driveFrom (adapter : SseAdapter State Chunk) :
    Utf8StreamDecoder → List Char → State → List (Except String (List UInt8)) → Driven Chunk
  | _, buffer, _, [] => ⟨[], [], buffer⟩
  | _, buffer, _, .error cause :: _ => ⟨[], [.error (.network cause)], buffer⟩
  | decoder, buffer, state, .ok chunk :: chunks =>
    let decoded := decoder.decode chunk
    let drained := drain adapter (buffer ++ decoded.1) state
    if maxSseBufferBytes < byteLength drained.buffer then
      let overflow := ProviderError.streaming
        (adapter.label ++ ": SSE buffer exceeded maximum size")
      ⟨drained.events, drained.items ++ [.error overflow], drained.buffer⟩
    else
      let later := driveFrom adapter decoded.2 drained.buffer drained.state chunks
      ⟨drained.events ++ later.events, drained.items ++ later.items, later.buffer⟩

def driveSse (adapter : SseAdapter State Chunk) (chunks : List (Except String (List UInt8))) :
    Driven Chunk :=
  driveFrom adapter .default [] adapter.initial chunks

end Driver

def singleDataLine (event : List Char) : Option String :=
  if "data: ".toList <+: event then some (String.ofList (event.drop 6)) else none

/-! ### Chunks of a chat -/

inductive ContentBlockDelta
  | textDelta (index : Nat) (delta : String)
  | thinkingDelta (index : Nat) (delta : String)
  | thinkingSignatureDelta (index : Nat) (signature : String)
  | redactedThinkingDelta (index : Nat) (data : String)
  | toolUseDelta (index : Nat) (id name inputDelta : Option String)

structure StreamUsage where
  promptTokens : Nat
  completionTokens : Nat
  totalTokens : Nat
  reasoningTokens : Option Nat
  cacheReadInputTokens : Option Nat

structure SafetyRating where
  category : String
  probability : String
  blocked : Bool

structure StreamChatChunk where
  content : List ContentBlockDelta
  finishReason : Option String
  usage : Option StreamUsage
  refusal : Option String
  safetyRatings : List SafetyRating
  safetyBlocked : Bool

def StreamChatChunk.ofUsage (usage : StreamUsage) : StreamChatChunk :=
  ⟨[], none, some usage, none, [], false⟩

/-! ### OpenAI -/

structure OpenAIUsage where
  promptTokens : Nat
  completionTokens : Nat
  totalTokens : Nat
  /-- `completion_tokens_details.reasoning_tokens`. -/
  reasoningTokens : Option Nat
  /-- `prompt_tokens_details.cached_tokens`. -/
  cachedTokens : Option Nat

structure OpenAIStreamFunction where
  name : Option String
  arguments : Option String

structure OpenAIStreamToolCall where
  index : Nat
  id : Option String
  function : Option OpenAIStreamFunction

structure OpenAIStreamDelta where
  content : Option String
  refusal : Option String
  toolCalls : Option (List OpenAIStreamToolCall)
  reasoningContent : Option String

structure OpenAIStreamChoice where
  delta : OpenAIStreamDelta
  finishReason : Option String

structure OpenAIStreamChunk where
  choices : List OpenAIStreamChoice
  usage : Option OpenAIUsage

structure OpenAiSseState where
  reasoningSeen : Bool
  frozenOffsets : Option (Nat × Nat)

namespace OpenAiSse

def usageItem (usage : OpenAIUsage) : StreamChatChunk :=
  .ofUsage ⟨usage.promptTokens, usage.completionTokens, usage.totalTokens, usage.reasoningTokens,
    usage.cachedTokens⟩

def nonempty (text : Option String) : Option String := text.filter fun text => !text.isEmpty

def toolDelta (offset : Nat) (call : OpenAIStreamToolCall) : ContentBlockDelta :=
  .toolUseDelta (call.index + offset) call.id (call.function.bind OpenAIStreamFunction.name)
    (call.function.bind OpenAIStreamFunction.arguments)

def choiceItem (choice : OpenAIStreamChoice) (state : OpenAiSseState) :
    Option StreamChatChunk × OpenAiSseState :=
  let delta := choice.delta
  let reasoning := nonempty delta.reasoningContent
  let state := if reasoning.isSome then { state with reasoningSeen := true } else state
  let text := nonempty delta.content
  let calls := delta.toolCalls.getD []
  let offsets := state.frozenOffsets.getD (if state.reasoningSeen then (1, 2) else (0, 0))
  let state := if text.isSome || !calls.isEmpty then { state with frozenOffsets := some offsets }
    else state
  let content := (reasoning.map (ContentBlockDelta.thinkingDelta 0)).toList ++
    (text.map (ContentBlockDelta.textDelta offsets.1)).toList ++ calls.map (toolDelta offsets.2)
  if !content.isEmpty || delta.refusal.isSome || choice.finishReason.isSome then
    (some ⟨content, choice.finishReason, none, delta.refusal, [], false⟩, state)
  else (none, state)

/-- **`map_event`**; `fromStr` is the JSON parser. -/
def mapEvent (fromStr : String → Option OpenAIStreamChunk) (event : List Char)
    (state : OpenAiSseState) : EventOutcome StreamChatChunk × OpenAiSseState :=
  match singleDataLine event with
  | none => (.empty, state)
  | some data =>
    if data = "[DONE]" then (.emitThenBreak [], state)
    else match fromStr data with
      | none => (.emit [], state)
      | some chunk =>
        let usage := (chunk.usage.map usageItem).toList
        match chunk.choices.head? with
        | none => (.emit (usage.map .ok), state)
        | some choice =>
          let (item, state) := choiceItem choice state
          (.emit ((usage ++ item.toList).map .ok), state)

end OpenAiSse

def blankLine : List Char := ['\n', '\n']

def openAiSse (fromStr : String → Option OpenAIStreamChunk) :
    SseAdapter OpenAiSseState StreamChatChunk where
  initial := ⟨false, none⟩
  delimiters := [blankLine]
  proper := ⟨by simp [blankLine], by simp⟩
  label := "OpenAI"
  mapEvent := OpenAiSse.mapEvent fromStr

/-! ### Gemini -/

inductive GeminiPart
  | text (text : String) (thought : Option Bool)
  | functionCall (name : String) (args : Json)
  | other

structure GeminiSafetyRating where
  category : String
  probability : String
  blocked : Option Bool

structure GeminiCandidate where
  /-- The parts of `content`. -/
  parts : Option (List GeminiPart)
  finishReason : Option String
  safetyRatings : Option (List GeminiSafetyRating)

structure GeminiUsageMetadata where
  promptTokenCount : Option Int
  candidatesTokenCount : Option Int
  totalTokenCount : Option Int
  thoughtsTokenCount : Option Int
  cachedContentTokenCount : Option Int

structure GeminiResponse where
  candidates : List GeminiCandidate
  usageMetadata : Option GeminiUsageMetadata
  /-- `prompt_feedback.block_reason`. -/
  blockReason : Option String

namespace GeminiSse

def sanitizeErrorBody (body : String) : String :=
  let cleaned := body.toList.map fun c => if c = '\n' ∨ c = '\r' then ' ' else c
  if 1024 < cleaned.length then String.ofList (cleaned.take 1024) ++ "…[truncated]"
  else String.ofList cleaned

def promptBlocked (blockReason : String) : ProviderError :=
  .providerSpecific ("Prompt blocked: " ++ sanitizeErrorBody blockReason)

def usageItem (usage : GeminiUsageMetadata) : StreamChatChunk :=
  .ofUsage ⟨(usage.promptTokenCount.getD 0).toNat, (usage.candidatesTokenCount.getD 0).toNat,
    (usage.totalTokenCount.getD 0).toNat, usage.thoughtsTokenCount.map Int.toNat,
    usage.cachedContentTokenCount.map Int.toNat⟩

def partDeltas (newId : Nat → Uuid) : Nat → Nat → List GeminiPart → List ContentBlockDelta × Nat
  | _, drawn, [] => ([], drawn)
  | index, drawn, part :: parts =>
    match part with
    | .text text thought =>
      let delta := if thought = some true then ContentBlockDelta.thinkingDelta index text
        else .textDelta index text
      let later := partDeltas newId (index + 1) drawn parts
      (delta :: later.1, later.2)
    | .functionCall name args =>
      let delta := ContentBlockDelta.toolUseDelta index (some ("gemini_" ++ (newId drawn).display))
        (some name) (some args.render)
      let later := partDeltas newId (index + 1) (drawn + 1) parts
      (delta :: later.1, later.2)
    | .other => partDeltas newId (index + 1) drawn parts

def convertStreamChunk (newId : Nat → Uuid) (candidate : GeminiCandidate) (drawn : Nat) :
    Option StreamChatChunk × Nat :=
  let deltas := partDeltas newId 0 drawn (candidate.parts.getD [])
  if deltas.1.isEmpty && candidate.finishReason.isNone then (none, deltas.2)
  else
    let ratings := (candidate.safetyRatings.getD []).map fun rating =>
      SafetyRating.mk rating.category rating.probability (rating.blocked.getD false)
    let blocked := candidate.finishReason == some "SAFETY" || ratings.any SafetyRating.blocked
    (some ⟨deltas.1, candidate.finishReason, none, none, ratings, blocked⟩, deltas.2)

/-- **`map_event`**; the state counts the ids drawn. -/
def mapEvent (fromStr : String → Option GeminiResponse) (newId : Nat → Uuid) (event : List Char)
    (drawn : Nat) : EventOutcome StreamChatChunk × Nat :=
  match (singleDataLine event).bind fromStr with
  | none => (.empty, drawn)
  | some response =>
    match response.blockReason with
    | some reason => (.emitThenBreak [.error (promptBlocked reason)], drawn)
    | none =>
      let usage := (response.usageMetadata.map usageItem).toList
      match response.candidates.head? with
      | none => (.emit (usage.map .ok), drawn)
      | some candidate =>
        let (item, drawn) := convertStreamChunk newId candidate drawn
        (.emit ((usage ++ item.toList).map .ok), drawn)

end GeminiSse

def carriageLine : List Char := ['\r', '\n', '\r', '\n']

def geminiSse (fromStr : String → Option GeminiResponse) (newId : Nat → Uuid) :
    SseAdapter Nat StreamChatChunk where
  initial := 0
  delimiters := [carriageLine, blankLine]
  proper := ⟨by simp [carriageLine, blankLine], by
    intro delim one other two start
    simp only [List.mem_cons, List.not_mem_nil, or_false] at one two
    rcases one with rfl | rfl <;> rcases two with rfl | rfl
    · rfl
    · revert start; decide
    · revert start; decide
    · rfl⟩
  label := "Gemini"
  mapEvent := GeminiSse.mapEvent fromStr newId

end Ziee.Providers
