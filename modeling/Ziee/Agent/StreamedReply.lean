/-
**The streamed reply of the agent's model client** (`ProviderModelClient::call_streaming` in
`agent-core/src/core.rs`).

The texts are joined as they come; tool calls are gathered by the index that a delta names. The
first error ends the call.

* `StreamReply.add` — one delta; `StreamReply.message` — what is made of all of them.
* `text_foldl` — **the text is the join of all texts**.
* `tools_distinct`, `tools_indices` — **one tool call for each index**: those that the deltas name
  are kept as they are when no index comes twice.
-/

import Ziee.Library.RowOrder
import Ziee.Providers.SseDriver
import Ziee.Providers.Text
import Mathlib.Data.List.AList

namespace Ziee.Agent

open RowOrder
open Ziee.Providers

/-! ### The accumulator -/

structure ToolAcc where
  id : String
  name : String
  input : String

def ToolAcc.default : ToolAcc := ⟨"", "", ""⟩

structure StreamReply where
  text : String
  tools : AList fun _ : Nat => ToolAcc
  usage : Usage

namespace StreamReply

def empty : StreamReply := ⟨"", ∅, ⟨0, 0, 0⟩⟩

/-- **One delta.** -/
def add (reply : StreamReply) : ContentBlockDelta → StreamReply
  | .textDelta _ delta => { reply with text := reply.text ++ delta }
  | .toolUseDelta index id name inputDelta =>
    let acc := (reply.tools.lookup index).getD .default
    { reply with
      tools := reply.tools.insert index
        ⟨id.getD acc.id, name.getD acc.name, acc.input ++ inputDelta.getD ""⟩ }
  | _ => reply

def receive (reply : StreamReply) (chunk : StreamChatChunk) : StreamReply :=
  let reply := chunk.content.foldl add reply
  match chunk.usage with
  | some usage =>
    { reply with usage := ⟨usage.promptTokens, usage.completionTokens, usage.totalTokens⟩ }
  | none => reply

/-- The input of a tool call; `fromStr` is the JSON parser. -/
def inputOf (fromStr : String → Option Json) (text : String) : Json :=
  if isBlank text then .object [] else (fromStr text).getD (.object [])

def toolBlocks (fromStr : String → Option Json) (tools : AList fun _ : Nat => ToolAcc) :
    List ContentBlock :=
  (orderBy Sigma.fst tools.entries).map fun entry =>
    .toolUse entry.2.id entry.2.name (inputOf fromStr entry.2.input)

/-- **The message**: the text, if there is one, and the tool calls. -/
def message (fromStr : String → Option Json) (reply : StreamReply) : ChatMessage :=
  ⟨.assistant, (if reply.text.isEmpty then [] else [.text reply.text]) ++
    toolBlocks fromStr reply.tools⟩

end StreamReply

def streamError (display : ProviderError → String) (error : ProviderError) : AppError :=
  ⟨"stream error: " ++ display error⟩

def callStreamingFrom (fromStr : String → Option Json) (display : ProviderError → String) :
    StreamReply → List (Except ProviderError StreamChatChunk) →
      Except AppError (ChatMessage × Usage)
  | reply, [] => .ok (reply.message fromStr, reply.usage)
  | _, .error error :: _ => .error (streamError display error)
  | reply, .ok chunk :: items => callStreamingFrom fromStr display (reply.receive chunk) items

/-- **`call_streaming`**, from the opened stream on. -/
def callStreaming (fromStr : String → Option Json) (display : ProviderError → String)
    (items : List (Except ProviderError StreamChatChunk)) : Except AppError (ChatMessage × Usage) :=
  callStreamingFrom fromStr display .empty items

/-! ### What is gathered -/

namespace StreamReply

def textOf : ContentBlockDelta → Option String
  | .textDelta _ delta => some delta
  | _ => none

def toolOf : ContentBlockDelta → Option (Nat × ToolAcc)
  | .toolUseDelta index id name inputDelta =>
    some (index, ⟨id.getD "", name.getD "", inputDelta.getD ""⟩)
  | _ => none

section Gathering

variable {reply : StreamReply} {deltas : List ContentBlockDelta}

theorem foldl_usage (usage : Usage) :
    deltas.foldl add { reply with usage } = { deltas.foldl add reply with usage } := by
  induction deltas generalizing reply with
  | nil => rfl
  | cons delta deltas ih =>
    have one : add { reply with usage } delta = { reply.add delta with usage } := by
      cases delta <;> rfl
    rw [List.foldl_cons, one, ih, List.foldl_cons]

theorem receive_eq (chunk : StreamChatChunk) : ∃ usage,
    reply.receive chunk = { chunk.content.foldl add reply with usage } := by
  rw [receive]
  cases chunk.usage with
  | none | some => exact ⟨_, rfl⟩

theorem text_foldl :
    (deltas.foldl add reply).text = reply.text ++ String.join (deltas.filterMap textOf) := by
  induction deltas generalizing reply with
  | nil => simp
  | cons delta deltas ih =>
    rw [List.foldl_cons, ih]
    cases delta with
    | textDelta index text =>
      rw [List.filterMap_cons_some (show textOf (.textDelta index text) = some text from rfl),
        String.join_cons, ← String.append_assoc]
      rfl
    | _ => rfl

/-- **The indices of the tool calls** are those that the deltas name. -/
theorem mem_tools {index : Nat} : index ∈ (deltas.foldl add reply).tools ↔
    index ∈ reply.tools ∨ ∃ call, (index, call) ∈ deltas.filterMap toolOf := by
  induction deltas generalizing reply with
  | nil => simp
  | cons delta deltas ih =>
    rw [List.foldl_cons, ih]
    cases delta with
    | toolUseDelta at' id name inputDelta =>
      rw [List.filterMap_cons_some (show toolOf
        (.toolUseDelta at' id name inputDelta) = some _ from rfl)]
      simp [add, AList.mem_insert, exists_or, or_assoc, or_left_comm]
    | _ => rfl

/-- **Tool calls at different indices** are kept as they come. -/
theorem tools_distinct (distinct : ((deltas.filterMap toolOf).map Prod.fst).Nodup)
    (fresh : ∀ call ∈ deltas.filterMap toolOf, call.1 ∉ reply.tools) :
    (deltas.foldl add reply).tools.entries.Perm
      ((deltas.filterMap toolOf).map (fun call => ⟨call.1, call.2⟩) ++ reply.tools.entries) := by
  induction deltas generalizing reply with
  | nil => simp
  | cons delta deltas ih =>
    rw [List.foldl_cons]
    cases delta with
    | toolUseDelta at' id name inputDelta =>
      have here : toolOf (.toolUseDelta at' id name inputDelta) =
        some (at', ⟨id.getD "", name.getD "", inputDelta.getD ""⟩) := rfl
      rw [List.filterMap_cons_some here] at distinct fresh ⊢
      obtain ⟨new, distinct⟩ := List.nodup_cons.mp distinct
      have absent : at' ∉ reply.tools := fresh _ List.mem_cons_self
      have added : (reply.add (.toolUseDelta at' id name inputDelta)).tools.entries =
          ⟨at', ⟨id.getD "", name.getD "", inputDelta.getD ""⟩⟩ :: reply.tools.entries := by
        rw [add, AList.lookup_eq_none.mpr absent]
        show (AList.insert at' _ reply.tools).entries = _
        rw [AList.entries_insert_of_notMem absent]
        simp [ToolAcc.default]
      refine (ih distinct fun call member => ?_).trans ?_
      · simp only [add, AList.mem_insert, not_or]
        exact ⟨fun same => new (List.mem_map.mpr ⟨call, member, same⟩),
          fresh call (List.mem_cons_of_mem _ member)⟩
      · rw [added, List.map_cons, List.cons_append]
        exact List.perm_middle
    | _ => exact ih distinct fresh

end Gathering

end StreamReply

section Call

variable {fromStr : String → Option Json} {display : ProviderError → String}

theorem callStreamingFrom_ok (reply : StreamReply) (chunks : List StreamChatChunk) : ∃ usage,
    callStreamingFrom fromStr display reply (chunks.map .ok) =
      .ok (((chunks.flatMap StreamChatChunk.content).foldl StreamReply.add reply).message fromStr,
        usage) := by
  induction chunks generalizing reply with
  | nil => exact ⟨_, rfl⟩
  | cons chunk chunks ih =>
    obtain ⟨usage, received⟩ := reply.receive_eq chunk
    obtain ⟨usage', later⟩ := ih (reply.receive chunk)
    refine ⟨usage', ?_⟩
    rw [List.map_cons, callStreamingFrom, later, received, StreamReply.foldl_usage,
      List.flatMap_cons, List.foldl_append]
    rfl

/-- **A stream without errors**: the message of all its deltas. -/
theorem callStreaming_ok (chunks : List StreamChatChunk) : ∃ usage,
    callStreaming fromStr display (chunks.map .ok) =
      .ok (((chunks.flatMap StreamChatChunk.content).foldl StreamReply.add .empty).message fromStr,
        usage) :=
  callStreamingFrom_ok .empty chunks

theorem callStreaming_error (fromStr : String → Option Json) (display : ProviderError → String)
    {items : List (Except ProviderError StreamChatChunk)} {error : ProviderError}
    (failed : .error error ∈ items) :
    ∃ error, callStreaming fromStr display items = .error error := by
  suffices general : ∀ reply, ∃ error, callStreamingFrom fromStr display reply items = .error error
    from general .empty
  induction items with
  | nil => cases failed
  | cons item items ih =>
    intro reply
    cases item with
    | error => exact ⟨_, rfl⟩
    | ok chunk =>
      rw [callStreamingFrom]
      exact ih ((List.mem_cons.mp failed).resolve_left nofun) _

end Call

end Ziee.Agent
