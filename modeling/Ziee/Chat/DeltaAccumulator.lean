/-
**The accumulator of a reply** (`DeltaAccumulator` in `chat/core/services/streaming.rs`, the
accumulator of `mcp/chat_extension/mcp.rs`).

The deltas of a reply are gathered in memory: text and thinking by the accumulator, tool calls by
the MCP extension. `finalize` writes all of it in one transaction; the extension hands its tool
calls over and forgets them. Every call of it can fail.

* `Turn.finalize`, `Turn.processChunk` — the two ways to write.
* `Turn.run` — a sequence of them, with the results of the invocations of `finalize`.
-/

import Ziee.Library.RowOrder
import Ziee.Providers.SseDriver
import Mathlib.Data.List.AList

namespace Ziee.Chat

open RowOrder
open Ziee.Providers (ContentBlockDelta StreamChatChunk)

structure AccumulatedContent where
  contentType : String
  accumulatedText : String
  signature : Option String
  redactedData : Option String
  deriving DecidableEq

def AccumulatedContent.empty : AccumulatedContent := ⟨"", "", none, none⟩

structure AccumulatedToolUse where
  id : Option String
  name : Option String
  inputJson : String
  deriving DecidableEq

/-- The blocks of the accumulator, by index, and the extension's tool calls of this message. -/
structure Gathered where
  contentBlocks : List AccumulatedContent
  toolUses : AList fun _ : Nat => AccumulatedToolUse

/-- A block that is written: what it was gathered as. -/
inductive Source
  | block (index : Nat) (content : AccumulatedContent)
  | toolUse (index : Nat) (content : AccumulatedToolUse)
  deriving DecidableEq

def Source.key : Source → Nat ⊕ Nat
  | .block index _ => .inl index
  | .toolUse index _ => .inr index

namespace Gathered

def empty : Gathered := ⟨[], ∅⟩

def ensureContentBlockExists (blocks : List AccumulatedContent) (index : Nat)
    (contentType : String) : List AccumulatedContent :=
  (blocks ++ List.replicate (index + 1 - blocks.length) AccumulatedContent.empty).modify index
    fun block =>
    if block.contentType = "" then { block with contentType } else block

def updateBlock (gathered : Gathered) (index : Nat) (contentType : String)
    (update : AccumulatedContent → AccumulatedContent) : Gathered :=
  { gathered with
    contentBlocks :=
      (ensureContentBlockExists gathered.contentBlocks index contentType).modify index update }

/-- **One delta**: `accumulate_delta_in_memory`, the signature arms of `process_chunk`, and the
extension's `accumulate_delta`. -/
def add (gathered : Gathered) : ContentBlockDelta → Gathered
  | .textDelta index delta => gathered.updateBlock index "text" fun block =>
      { block with accumulatedText := block.accumulatedText ++ delta }
  | .thinkingDelta index delta => gathered.updateBlock index "thinking" fun block =>
      { block with accumulatedText := block.accumulatedText ++ delta }
  | .thinkingSignatureDelta index signature => gathered.updateBlock index "thinking" fun block =>
      { block with signature := some signature }
  | .redactedThinkingDelta index data => gathered.updateBlock index "thinking" fun block =>
      { block with redactedData := some data }
  | .toolUseDelta index id name inputDelta =>
      let entry := (gathered.toolUses.lookup index).getD ⟨none, none, ""⟩
      { gathered with
        toolUses := gathered.toolUses.insert index
          ⟨id <|> entry.id, name <|> entry.name, entry.inputJson ++ inputDelta.getD ""⟩ }

def blockSources (gathered : Gathered) : List Source :=
  gathered.contentBlocks.zipIdx.filterMap fun (block, index) =>
    if block.contentType = "text" ∨ block.contentType = "thinking" then some (.block index block)
    else none

def toolSources (gathered : Gathered) : List Source :=
  (orderBy Sigma.fst gathered.toolUses.entries).map fun entry => .toolUse entry.1 entry.2

/-- **The blocks in the order of writing**. -/
def sources (gathered : Gathered) : List Source := gathered.blockSources ++ gathered.toolSources

end Gathered

/-! ### What is written -/

structure ThinkingMetadata where
  tokenCount : Option Nat
  signature : Option String
  redactedData : Option String

inductive MessageContentData
  | text (text : String)
  | thinking (thinking : String) (metadata : Option ThinkingMetadata)
  | toolUse (call : AccumulatedToolUse)

def contentData (registry : Bool) (reasoningTokens : Option Nat) : Source → MessageContentData
  | .toolUse _ call => .toolUse call
  | .block _ block =>
    if block.contentType = "text" then .text block.accumulatedText
    else if registry then
      let converted : String × Option ThinkingMetadata := match block.redactedData with
        | some data => ("", some ⟨none, none, some data⟩)
        | none => (block.accumulatedText, block.signature.map fun text => ⟨none, some text, none⟩)
      match reasoningTokens with
      | none => .thinking converted.1 converted.2
      | some tokens => .thinking converted.1
          (some { converted.2.getD ⟨none, none, none⟩ with tokenCount := some tokens })
    else
      let known := block.signature.isSome || block.redactedData.isSome || reasoningTokens.isSome
      .thinking block.accumulatedText
        (if known then some ⟨reasoningTokens, block.signature, block.redactedData⟩ else none)

/-- A row of `message_contents` of the message, with the block that it was made of. -/
structure ContentRow where
  source : Source
  content : MessageContentData
  sequenceOrder : Int

/-- `MAX(sequence_order) + 1`. -/
def nextSequence (rows : List ContentRow) : Int :=
  (rows.map ContentRow.sequenceOrder).foldl max (-1) + 1

def rowsFrom (registry : Bool) (reasoningTokens : Option Nat) (base : Int) :
    List Source → List ContentRow
  | [] => []
  | source :: sources => ⟨source, contentData registry reasoningTokens source, base⟩ ::
      rowsFrom registry reasoningTokens (base + 1) sources

/-! ### Calls -/

/-- A commit whose answer is lost may have been applied. -/
inductive CommitOutcome
  | committed
  | rolledBack
  | unacknowledged
  deriving DecidableEq

/-- **Which calls succeed** in one step. -/
structure Calls where
  processDelta : Nat → Bool
  beginTransaction : Bool
  selectBase : Bool
  insertBlock : Nat → Bool
  /-- `get_accumulated_content`. -/
  collect : Bool
  insertExtension : Nat → Bool
  updateState : Bool
  commit : CommitOutcome
  getMessage : Bool

/-- All of them. -/
def Calls.working : Calls := ⟨fun _ => true, true, true, fun _ => true, true, fun _ => true, true,
  .committed, true⟩

/-! ### The turn -/

/-- The accumulator with the rows of its message. -/
structure Turn where
  /-- Whether there is an `extension_registry`. -/
  registry : Bool
  gathered : Gathered
  finishReason : Option String
  reasoningTokens : Option Nat
  finalized : Bool
  rows : List ContentRow

namespace Turn

def start (registry : Bool) (rows : List ContentRow) : Turn :=
  ⟨registry, .empty, none, none, false, rows⟩

def store (turn : Turn) (sources : List Source) : Turn :=
  { turn with
    rows := turn.rows ++ rowsFrom turn.registry turn.reasoningTokens
      (nextSequence turn.rows) sources }

/-- The extension has handed over its tool calls. -/
def taken (turn : Turn) : Turn :=
  { turn with gathered := { turn.gathered with toolUses := ∅ } }

/-- The end of `finalize`: the state of the message, the commit and the hooks. -/
def conclude (turn : Turn) (calls : Calls) (sources : List Source) : Turn × Bool :=
  if !calls.updateState then (turn, false)
  else match calls.commit with
    | .rolledBack => (turn, false)
    | .unacknowledged => (turn.store sources, false)
    | .committed =>
      if turn.registry && !calls.getMessage then (turn.store sources, false)
      else ({ turn.store sources with finalized := true }, true)

/-- **`finalize`**, and whether it returned `Ok`. A transaction that is not committed is dropped;
the tool calls that were taken from the extension are not given back. -/
def finalize (turn : Turn) (calls : Calls) : Turn × Bool :=
  let blocks := turn.gathered.blockSources
  let tools := turn.gathered.toolSources
  if turn.finalized then (turn, true)
  else if !(calls.beginTransaction && calls.selectBase &&
      (List.range blocks.length).all calls.insertBlock) then (turn, false)
  else if !turn.registry then turn.conclude calls blocks
  else if !calls.collect then (turn, false)
  else if !(List.range tools.length).all calls.insertExtension then (turn.taken, false)
  else turn.taken.conclude calls (blocks ++ tools)

end Turn

/-! ### Chunks -/

/-- The deltas of a chunk, from a position on; the deltas to show, or `none` when an extension
fails. A tool call is dropped when no extension is there. -/
def gather (registry : Bool) (calls : Calls) :
    Gathered → Nat → List ContentBlockDelta → Gathered × Option (List ContentBlockDelta)
  | gathered, _, [] => (gathered, some [])
  | gathered, position, delta :: deltas =>
    let later := gather registry calls (gathered.add delta) (position + 1) deltas
    match delta with
    | .thinkingSignatureDelta .. | .redactedThinkingDelta .. => later
    | .textDelta .. | .thinkingDelta .. => (later.1, later.2.map (delta :: ·))
    | .toolUseDelta .. =>
      if !registry then gather registry calls gathered (position + 1) deltas
      else if !calls.processDelta position then (gathered, none)
      else (later.1, later.2.map (delta :: ·))

namespace Turn

def receive (turn : Turn) (chunk : StreamChatChunk) (calls : Calls) :
    Turn × Option (List ContentBlockDelta) :=
  let result := gather turn.registry calls turn.gathered 0 chunk.content
  ({ turn with
    finishReason := chunk.finishReason <|> turn.finishReason
    reasoningTokens := match chunk.usage with
      | some usage => usage.reasoningTokens
      | none => turn.reasoningTokens
    gathered := result.1 }, result.2)

/-- **`process_chunk`**: the deltas to show, and whether `finalize` was invoked and returned
`Ok`. -/
def processChunk (turn : Turn) (chunk : StreamChatChunk) (calls : Calls) :
    Turn × Option (List ContentBlockDelta) × Option Bool :=
  match turn.receive chunk calls with
  | (turn, none) => (turn, none, none)
  | (turn, some shown) =>
    if chunk.finishReason.isSome then
      let (turn, ok) := turn.finalize calls
      (turn, if ok then some shown else none, some ok)
    else (turn, some shown, none)

end Turn

/-! ### Runs -/

inductive TurnOp
  | chunk (chunk : StreamChatChunk) (calls : Calls)
  | finalize (calls : Calls)

namespace Turn

/-- One step, and the result of `finalize` if it was invoked. -/
def step (turn : Turn) : TurnOp → Turn × Option Bool
  | .chunk chunk calls => ((turn.processChunk chunk calls).1, (turn.processChunk chunk calls).2.2)
  | .finalize calls => ((turn.finalize calls).1, some (turn.finalize calls).2)

/-- The turn after the steps, and all results of `finalize`. -/
def run (turn : Turn) (ops : List TurnOp) : Turn × List Bool :=
  ops.foldl (fun state op => ((state.1.step op).1, state.2 ++ (state.1.step op).2.toList))
    (turn, [])

end Turn

end Ziee.Chat
