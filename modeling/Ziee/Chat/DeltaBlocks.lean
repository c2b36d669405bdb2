/-
**The blocks that the deltas of a reply are gathered in.**

The accumulator keeps one block for each index that a text or thinking delta has named; whoever
names an index first gives the block its type.

* `Gathered.block` — the block at an index; `block_add`: a delta changes the block at its own index
  only.
* `gatheredOf` — a whole stream of deltas, and **`reply_stored`**: the rows of a turn are made of it,
  wherever the stream ends.
* `textsOfType` — the texts of the blocks of one type, in the order in which they are written.
* `block_of_speech` — **the block at an index**: the type of its first delta, and the texts of all.
-/

import Ziee.Chat.StoredBlocks

set_option linter.unusedSectionVars false

namespace Ziee.Chat

open Prefixes
open Ziee.Providers (ContentBlockDelta StreamChatChunk)

def Gathered.block (gathered : Gathered) (index : Nat) : AccumulatedContent :=
  gathered.contentBlocks[index]?.getD .empty

def AccumulatedContent.typeAs (block : AccumulatedContent) (contentType : String) :
    AccumulatedContent :=
  if block.contentType = "" then { block with contentType } else block

def AccumulatedContent.appendText (block : AccumulatedContent) (text : String) :
    AccumulatedContent :=
  { block with accumulatedText := block.accumulatedText ++ text }

def absorb (index : Nat) (block : AccumulatedContent) : ContentBlockDelta → AccumulatedContent
  | .textDelta at' delta => if at' = index then (block.typeAs "text").appendText delta else block
  | .thinkingDelta at' delta =>
    if at' = index then (block.typeAs "thinking").appendText delta else block
  | .thinkingSignatureDelta at' signature =>
    if at' = index then { block.typeAs "thinking" with signature := some signature } else block
  | .redactedThinkingDelta at' data =>
    if at' = index then { block.typeAs "thinking" with redactedData := some data } else block
  | .toolUseDelta .. => block

def blockIndex : ContentBlockDelta → Option Nat
  | .textDelta index _ | .thinkingDelta index _ | .thinkingSignatureDelta index _
  | .redactedThinkingDelta index _ => some index
  | .toolUseDelta .. => none

section Blocks

variable {gathered : Gathered} {index at' : Nat} {contentType : String}
  {update : AccumulatedContent → AccumulatedContent} {delta : ContentBlockDelta}

theorem getD_replicate (blocks : List AccumulatedContent) (count : Nat) :
    ((blocks ++ List.replicate count .empty)[index]?).getD .empty =
      (blocks[index]?).getD AccumulatedContent.empty := by
  by_cases inside : index < blocks.length
  · rw [List.getElem?_append_left inside]
  · rw [List.getElem?_append_right (Nat.not_lt.mp inside),
      List.getElem?_eq_none (Nat.not_lt.mp inside), List.getElem?_replicate]
    split
    · rfl
    · rfl

theorem block_updateBlock : (gathered.updateBlock at' contentType update).block index =
      if at' = index then update ((gathered.block index).typeAs contentType)
      else gathered.block index := by
  have padded : ((gathered.contentBlocks ++ List.replicate
      (at' + 1 - gathered.contentBlocks.length) AccumulatedContent.empty)[index]?).getD .empty =
      gathered.block index := getD_replicate _ _
  show ((((gathered.contentBlocks ++ List.replicate _ AccumulatedContent.empty).modify at'
    fun block =>
    if block.contentType = "" then { block with contentType } else block).modify at'
      update)[index]?).getD .empty = _
  rw [List.getElem?_modify, List.getElem?_modify]
  by_cases same : at' = index
  · subst same
    have there : at' < (gathered.contentBlocks ++ List.replicate
        (at' + 1 - gathered.contentBlocks.length) AccumulatedContent.empty).length := by
      rw [List.length_append, List.length_replicate]
      omega
    rw [List.getElem?_eq_getElem there, Option.getD_some] at padded
    rw [List.getElem?_eq_getElem there, if_pos rfl, ← padded]
    simp [AccumulatedContent.typeAs]
  · simp only [same, if_false, Option.map_eq_map, Option.map_id']
    exact padded

/-- **A delta changes the block at its index.** -/
theorem block_add : (gathered.add delta).block index = absorb index
    (gathered.block index) delta := by
  cases delta with
  | textDelta | thinkingDelta | thinkingSignatureDelta
  | redactedThinkingDelta => exact block_updateBlock
  | toolUseDelta => rfl

theorem length_updateBlock : (gathered.updateBlock at' contentType update).contentBlocks.length =
    max gathered.contentBlocks.length (at' + 1) := by
  show (((gathered.contentBlocks ++ List.replicate _ AccumulatedContent.empty).modify at' _).modify
    at' update).length = _
  rw [List.length_modify, List.length_modify, List.length_append, List.length_replicate]
  omega

theorem length_add {bound : Nat} (below : ∀ index, blockIndex delta = some index → index < bound)
    (fits : gathered.contentBlocks.length ≤ bound) :
    (gathered.add delta).contentBlocks.length ≤ bound := by
  have named : ∀ index, blockIndex delta = some index →
      max gathered.contentBlocks.length (index + 1) ≤ bound :=
    fun index name => max_le fits (below index name)
  cases delta with
  | textDelta index => exact length_updateBlock.trans_le (named index rfl)
  | thinkingDelta index => exact length_updateBlock.trans_le (named index rfl)
  | thinkingSignatureDelta index => exact length_updateBlock.trans_le (named index rfl)
  | redactedThinkingDelta index => exact length_updateBlock.trans_le (named index rfl)
  | toolUseDelta => exact fits

end Blocks

/-! ### A stream of deltas -/

def gatheredOf (deltas : List ContentBlockDelta) : Gathered := deltas.foldl Gathered.add .empty

def textsOfType (contentType : String) (gathered : Gathered) : List String :=
  (gathered.contentBlocks.filter fun block => block.contentType = contentType).map
    AccumulatedContent.accumulatedText

def oneBlock (text : String) : List String := if text = "" then [] else [text]

section Streams

variable {deltas : List ContentBlockDelta} {gathered : Gathered} {contentType : String}

theorem block_gatheredOf (index : Nat) :
    (gatheredOf deltas).block index = deltas.foldl (absorb index) .empty := by
  suffices general : ∀ gathered : Gathered, (deltas.foldl Gathered.add gathered).block index =
      deltas.foldl (absorb index) (gathered.block index) from general .empty
  intro gathered
  induction deltas generalizing gathered with
  | nil => rfl
  | cons delta deltas ih => rw [List.foldl_cons, ih, List.foldl_cons, block_add]

theorem length_gatheredOf {bound : Nat}
    (below : ∀ delta ∈ deltas, ∀ index, blockIndex delta = some index → index < bound) :
    (gatheredOf deltas).contentBlocks.length ≤ bound := by
  suffices general : ∀ gathered : Gathered, gathered.contentBlocks.length ≤ bound →
      (deltas.foldl Gathered.add gathered).contentBlocks.length ≤ bound from
    general .empty (Nat.zero_le _)
  intro gathered fits
  induction deltas generalizing gathered with
  | nil => exact fits
  | cons delta deltas ih =>
    exact ih (fun other member => below other (List.mem_cons_of_mem _ member)) _
      (length_add (below delta List.mem_cons_self) fits)

/-- **The blocks of a type**, read off the blocks at the indices. -/
theorem textsOfType_range {bound : Nat} (typed : contentType ≠ "")
    (fits : gathered.contentBlocks.length ≤ bound) : textsOfType contentType gathered =
      (((List.range bound).map gathered.block).filter fun block =>
        block.contentType = contentType).map
        AccumulatedContent.accumulatedText := by
  obtain ⟨more, rfl⟩ := Nat.exists_eq_add_of_le fits
  have whole : (List.range (gathered.contentBlocks.length + more)).map gathered.block =
      gathered.contentBlocks ++ List.replicate more AccumulatedContent.empty := by
    refine List.ext_getElem (by simp) fun index one two => ?_
    rw [List.getElem_map, List.getElem_range, Gathered.block, ← getD_replicate _ more,
      List.getElem?_eq_getElem two, Option.getD_some]
  have empty : AccumulatedContent.empty.contentType ≠ contentType := fun same => typed same.symm
  rw [whole, List.filter_append, List.filter_replicate]
  simp [textsOfType, empty]

/-! ### Texts and types -/

def speechAt (index : Nat) : ContentBlockDelta → Option (String × String)
  | .textDelta at' delta => if at' = index then some ("text", delta) else none
  | .thinkingDelta at' delta => if at' = index then some ("thinking", delta) else none
  | _ => none

def blockOf : List (String × String) → AccumulatedContent
  | [] => .empty
  | (contentType, text) :: speeches =>
    ⟨contentType, String.join (text :: speeches.map Prod.snd), none, none⟩

theorem blockOf_map (texts : List String) : blockOf (texts.map (contentType, ·)) =
    if texts = [] then .empty else ⟨contentType, String.join texts, none, none⟩ := by
  cases texts with
  | nil => rfl
  | cons text texts => simp [blockOf, Function.comp_def]

theorem absorb_none {index : Nat} {delta : ContentBlockDelta} (block : AccumulatedContent)
    (other : blockIndex delta ≠ some index) : absorb index block delta = block := by
  cases delta with
  | toolUseDelta => rfl
  | _ at' => exact if_neg fun same => other (congrArg some same)

theorem speechAt_none {index : Nat} {delta : ContentBlockDelta}
    (other : blockIndex delta ≠ some index) : speechAt index delta = none := by
  cases delta with
  | textDelta | thinkingDelta => exact if_neg fun same => other (congrArg some same)
  | _ => rfl

theorem speechAt_typed {index : Nat} {delta : ContentBlockDelta} {text : String}
    (speech : speechAt index delta = some (contentType, text)) : contentType ≠ "" := by
  cases delta with
  | textDelta | thinkingDelta =>
    rw [speechAt] at speech
    split at speech
    · obtain ⟨rfl, -⟩ := Prod.mk.inj (Option.some.inj speech)
      decide
    · cases speech
  | _ => cases speech

theorem absorb_some {index : Nat} {delta : ContentBlockDelta} {text : String}
    (block : AccumulatedContent) (speech : speechAt index delta = some (contentType, text)) :
    absorb index block delta = (block.typeAs contentType).appendText text := by
  cases delta with
  | textDelta | thinkingDelta =>
    rw [speechAt] at speech
    split at speech
    next same =>
      obtain ⟨rfl, rfl⟩ := Prod.mk.inj (Option.some.inj speech)
      exact if_pos same
    next => cases speech
  | _ => cases speech

theorem foldl_absorb {index : Nat} {text : String} (typed : contentType ≠ "")
    (plain : ∀ delta ∈ deltas, blockIndex delta = some index →
      (speechAt index delta).isSome = true) :
    deltas.foldl (absorb index) ⟨contentType, text, none, none⟩ =
      ⟨contentType, String.join (text :: (deltas.filterMap (speechAt index)).map Prod.snd), none,
        none⟩ := by
  induction deltas generalizing text with
  | nil => simp
  | cons delta deltas ih =>
    have later := fun text => @ih text fun other member =>
      plain other (List.mem_cons_of_mem _ member)
    rw [List.foldl_cons]
    by_cases here : blockIndex delta = some index
    · obtain ⟨⟨type, said⟩, speech⟩ := Option.isSome_iff_exists.mp
        (plain delta List.mem_cons_self here)
      rw [absorb_some _ speech, List.filterMap_cons_some speech]
      simp only [AccumulatedContent.typeAs, if_neg typed, AccumulatedContent.appendText]
      rw [later]
      simp [String.append_assoc]
    · rw [absorb_none _ here, List.filterMap_cons_none (speechAt_none here), later]

/-- **A block of texts** has the type of the first delta that names its index, and the texts of
all. -/
theorem block_of_speech {index : Nat} (plain : ∀ delta ∈ deltas, blockIndex delta = some index →
      (speechAt index delta).isSome = true) :
    (gatheredOf deltas).block index = blockOf (deltas.filterMap (speechAt index)) := by
  rw [block_gatheredOf]
  induction deltas with
  | nil => rfl
  | cons delta deltas ih =>
    have later := fun other member => plain other (List.mem_cons_of_mem delta member)
    rw [List.foldl_cons]
    by_cases here : blockIndex delta = some index
    · obtain ⟨⟨type, said⟩, speech⟩ := Option.isSome_iff_exists.mp
        (plain delta List.mem_cons_self here)
      rw [absorb_some _ speech, List.filterMap_cons_some speech]
      have fresh : (AccumulatedContent.empty.typeAs type).appendText said =
        ⟨type, said, none, none⟩ := by
        simp [AccumulatedContent.empty, AccumulatedContent.typeAs, AccumulatedContent.appendText]
      rw [fresh, foldl_absorb (speechAt_typed speech) later, blockOf]
    · rw [absorb_none _ here, List.filterMap_cons_none (speechAt_none here), ih later]

/-! ### What is stored -/

/-- The chunks of a reply, when every call succeeds. -/
def received (chunks : List StreamChatChunk) : List TurnOp := chunks.map (.chunk · .working)

theorem received_concat (chunks : List StreamChatChunk) (chunk : StreamChatChunk) :
    received (chunks ++ [chunk]) = received chunks ++ [.chunk chunk .working] :=
  List.map_append

/-- **The turn gathers just that**, when an extension takes the tool calls. -/
theorem gatheredBy_working (chunks : List StreamChatChunk) :
    gatheredBy true (received chunks) = gatheredOf (chunks.flatMap StreamChatChunk.content) := by
  have one : ∀ (deltas : List ContentBlockDelta) (gathered : Gathered) (position : Nat),
      (gather true .working gathered position deltas).1 = deltas.foldl Gathered.add gathered := by
    intro deltas
    induction deltas with
    | nil => exact fun _ _ => rfl
    | cons delta deltas ih =>
      intro gathered position
      rw [List.foldl_cons, ← ih _ (position + 1)]
      cases delta <;> rfl
  suffices general : ∀ gathered : Gathered,
      chunks.foldl (fun gathered chunk => (gather true .working gathered 0 chunk.content).1)
        gathered = (chunks.flatMap StreamChatChunk.content).foldl Gathered.add gathered by
    rw [gatheredBy, received, List.foldl_map]
    exact general .empty
  induction chunks with
  | nil => exact fun _ => rfl
  | cons chunk chunks ih =>
    intro gathered
    rw [List.foldl_cons, ih, List.flatMap_cons, List.foldl_append, one]

theorem undisturbed_working (turn : Turn) : Undisturbed turn .working :=
  fun _ _ => ⟨fun _ => ⟨rfl, fun _ _ => rfl⟩, rfl, rfl, fun _ => rfl⟩

theorem finalize_working (turn : Turn) : (turn.finalize .working).1.finalized = true := by
  cases done : turn.finalized with
  | true => rw [finalize_again done, done]
  | false =>
    cases registry : turn.registry <;>
      simp [Turn.finalize, Turn.conclude, Calls.working, done, registry, Turn.taken]

theorem processChunk_finalized {chunk : StreamChatChunk} {calls : Calls} (turn : Turn)
    (going : ¬chunk.finishReason.isSome = true) :
    (turn.processChunk chunk calls).1.finalized = turn.finalized := by
  have kept : (turn.receive chunk calls).1.finalized = turn.finalized := rfl
  rw [Turn.processChunk]
  rcases result : turn.receive chunk calls with ⟨after, _ | shown⟩
  · rw [← kept, result]
  · rw [← kept, result]
    simp [going]

/-- A turn is not finalized before a chunk has a finish reason. -/
theorem finish_of_finalized {rows : List ContentRow} {chunks : List StreamChatChunk}
    (done : ((Turn.start true rows).run (received chunks)).1.finalized = true) :
    ∃ chunk ∈ chunks, chunk.finishReason.isSome = true := by
  induction chunks using List.reverseRecOn with
  | nil => cases done
  | append_singleton chunks chunk ih =>
    by_cases finish : chunk.finishReason.isSome = true
    · exact ⟨chunk, by simp, finish⟩
    · rw [received_concat, Turn.run_concat, Turn.step, processChunk_finalized _ finish] at done
      obtain ⟨early, member, reason⟩ := ih done
      exact ⟨early, List.mem_append_left _ member, reason⟩

theorem safe_received {rows : List ContentRow} {chunks : List StreamChatChunk}
    (settled : chunks.Pairwise fun early late => early.finishReason.isSome → late.content = []) :
    EachStep (SafeStep (.start true rows)) (received chunks) := by
  induction chunks using List.reverseRecOn with
  | nil => exact eachStep_nil
  | append_singleton chunks chunk ih =>
    obtain ⟨before, -, last⟩ := List.pairwise_append.mp settled
    rw [received_concat]
    refine eachStep_concat.mpr ⟨ih before, fun done => ?_, fun _ _ => undisturbed_working _⟩
    obtain ⟨early, member, reason⟩ := finish_of_finalized done
    rw [gatheredBy_chunk, last early member chunk (by simp) reason]
    rfl

/-- **The reply that is stored**, wherever the stream ends: the blocks of all deltas in order, each
with the texts at its index. No delta follows a finish reason. -/
theorem reply_stored (rows : List ContentRow) (chunks : List StreamChatChunk)
    (settled : chunks.Pairwise fun early late => early.finishReason.isSome → late.content = []) :
    (∃ tokens, ((Turn.start true rows).run (received chunks ++ [.finalize .working])).1.rows =
      rows ++ rowsFrom true tokens (nextSequence rows)
        (gatheredOf (chunks.flatMap StreamChatChunk.content)).sources) ∧
    ∀ index, (∀ delta ∈ chunks.flatMap StreamChatChunk.content, blockIndex delta = some index →
      (speechAt index delta).isSome = true) →
      (gatheredOf (chunks.flatMap StreamChatChunk.content)).block index =
        blockOf ((chunks.flatMap StreamChatChunk.content).filterMap (speechAt index)) := by
  refine ⟨?_, fun index plain => block_of_speech plain⟩
  have safe : EachStep (SafeStep (.start true rows)) (received chunks ++ [.finalize .working]) :=
    eachStep_concat.mpr ⟨safe_received settled, fun _ => by rw [gatheredBy_finalize],
      undisturbed_working _⟩
  have tracked := tracked_run true rows safe
  rw [gatheredBy_finalize, gatheredBy_working] at tracked
  refine tracked.written ?_
  rw [Turn.run_concat]
  exact finalize_working _

theorem reply_stored_two : ∃ tokens, ((Turn.start true []).run (received
    [⟨[.textDelta 0 "4", .textDelta 0 "2"], some "stop", none, none, [], false⟩,
      ⟨[], none, none, none, [], false⟩] ++ [.finalize .working])).1.rows =
    rowsFrom true tokens 0 [.block 0 ⟨"text", "42", none, none⟩] := by
  obtain ⟨⟨tokens, stored⟩, -⟩ := reply_stored []
    [⟨[.textDelta 0 "4", .textDelta 0 "2"], some "stop", none, none, [], false⟩,
      ⟨[], none, none, none, [], false⟩] (by simp)
  exact ⟨tokens, stored⟩

end Streams

end Ziee.Chat
