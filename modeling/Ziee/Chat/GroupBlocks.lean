/-
**Grouping a stored assistant message for the wire** (`group_assistant_blocks`, `streaming.rs`).

An assistant message is stored as one list of blocks, tool results among them. For the provider it
is cut into pairs of an assistant message with tool uses and a tool message that answers each of
them.

* `groupAssistantBlocks` — the single pass: `Grouping.step` for each block, and `Grouping.finish`.
* `grouped_wired` — every tool use is answered once, right after its message and in order, but for a
  last message none of whose uses has a result.
-/

import Ziee.Providers.Chat
import Mathlib.Data.Finset.Basic
import Mathlib.Data.List.AList
import Mathlib.Data.List.TakeWhile

namespace Ziee.Chat

open Ziee.Providers

def syntheticMissingToolResult (toolUseId : String) (name : Option String) : ContentBlock :=
  .toolResult toolUseId name
    [.text "Tool result unavailable (no result was recorded for this tool call)."] (some true)

/-- The results that were captured, by the id of the tool use. -/
abbrev ResultsById : Type := AList fun _ : String => ContentBlock

structure Grouping where
  messages : List ChatMessage
  currentText : List ContentBlock
  currentToolUses : List ContentBlock
  pendingIds : Finset String
  resultsById : ResultsById

def takeResults : List ContentBlock → ResultsById → List ContentBlock × ResultsById
  | [], results => ([], results)
  | .toolUse id name _ :: rest, results =>
    let (content, left) := takeResults rest (results.erase id)
    ((results.lookup id).getD (syntheticMissingToolResult id (some name)) :: content, left)
  | _ :: rest, results => takeResults rest results

namespace Grouping

def empty : Grouping := ⟨[], [], [], ∅, ∅⟩

def assistantMessage (grouping : Grouping) : ChatMessage :=
  ⟨.assistant, grouping.currentText ++ grouping.currentToolUses⟩

/-- **`flush_assistant_tool_pair`**. -/
def flush (grouping : Grouping) : Grouping :=
  let (toolContent, left) := takeResults grouping.currentToolUses grouping.resultsById
  { grouping with
    messages := grouping.messages ++ [grouping.assistantMessage, ⟨.tool, toolContent⟩]
    currentText := []
    currentToolUses := []
    resultsById := left }

/-- A result is captured when it answers a tool use that is still outstanding in this batch. -/
def capture (grouping : Grouping) (id : String) (block : ContentBlock) : Grouping :=
  if id ∈ grouping.pendingIds then
    { grouping with
      pendingIds := grouping.pendingIds.erase id
      resultsById := grouping.resultsById.insert id block }
  else grouping

def flushIfResolved (grouping : Grouping) : Grouping :=
  if grouping.pendingIds = ∅ ∧ grouping.currentToolUses ≠ [] then grouping.flush else grouping

def step (grouping : Grouping) : ContentBlock → Grouping
  | .toolUse id name input =>
    { grouping with
      pendingIds := insert id grouping.pendingIds
      currentToolUses := grouping.currentToolUses ++ [.toolUse id name input] }
  | .toolResult id name content isError =>
    (grouping.capture id (.toolResult id name content isError)).flushIfResolved
  | block => { grouping with currentText := grouping.currentText ++ [block] }

def batchHasResult (grouping : Grouping) : Bool :=
  grouping.currentToolUses.any fun block => match block with
    | .toolUse id _ _ => (grouping.resultsById.lookup id).isSome
    | _ => false

/-- The trailing blocks: a batch that has run in part, one that is in progress, or a final text. -/
def finish (grouping : Grouping) : List ChatMessage :=
  if grouping.currentToolUses ≠ [] then
    if grouping.batchHasResult then grouping.flush.messages
    else grouping.messages ++ [grouping.assistantMessage]
  else if grouping.currentText ≠ [] then
    grouping.messages ++ [⟨.assistant, grouping.currentText⟩]
  else grouping.messages

end Grouping

def groupAssistantBlocks (blocks : List ContentBlock) : List ChatMessage :=
  (blocks.foldl Grouping.step .empty).finish

/-! ### The first result after a use -/

def useIds (blocks : List ContentBlock) : List String := blocks.filterMap ContentBlock.toolUseId?

/-- **The first result for a tool use that is stored after it.** -/
def firstResult (id : String) (blocks : List ContentBlock) : Option ContentBlock :=
  (blocks.dropWhile fun block => block.toolUseId? ≠ some id).find? fun block =>
    block.toolResultId? = some id

section FirstResult

variable {id : String} {blocks rest : List ContentBlock} {block result : ContentBlock}

theorem mem_useIds : id ∈ useIds blocks ↔ ∃ block ∈ blocks, block.toolUseId? = some id := by
  simp [useIds]

theorem firstResult_of_not_mem (unused : id ∉ useIds blocks) : firstResult id blocks = none := by
  have all : blocks.dropWhile (fun block => block.toolUseId? ≠ some id) = [] := by
    refine List.dropWhile_eq_nil_iff.mpr fun block member => ?_
    simp only [ne_eq, decide_not, Bool.not_eq_true', decide_eq_false_iff_not]
    exact fun same => unused (mem_useIds.mpr ⟨block, member, same⟩)
  rw [firstResult, all]
  rfl

theorem firstResult_append (used : id ∈ useIds blocks) : firstResult id (blocks ++ rest) =
      (firstResult id blocks).or (rest.find? fun block => block.toolResultId? = some id) := by
  obtain ⟨use, member, same⟩ := mem_useIds.mp used
  have found : blocks.dropWhile (fun block => block.toolUseId? ≠ some id) ≠ [] := by
    intro none
    have skipped := List.dropWhile_eq_nil_iff.mp none use member
    simp [same] at skipped
  have kept : (blocks ++ rest).dropWhile (fun block => block.toolUseId? ≠ some id) =
      blocks.dropWhile (fun block => block.toolUseId? ≠ some id) ++ rest := by
    rw [List.dropWhile_append]
    exact if_neg (by simpa using found)
  rw [firstResult, kept, List.find?_append]
  rfl

theorem firstResult_mono (found : firstResult id blocks = some result) :
    firstResult id (blocks ++ rest) = some result := by
  have used : id ∈ useIds blocks := by
    by_contra unused
    rw [firstResult_of_not_mem unused] at found
    cases found
  rw [firstResult_append used, found, Option.some_or]

theorem useIds_append : useIds (blocks ++ rest) = useIds blocks ++ useIds rest :=
  List.filterMap_append

end FirstResult

/-! ### Pairs -/

def answerOf (results : String → Option ContentBlock) : ContentBlock → Option ContentBlock
  | .toolUse id name _ => some ((results id).getD (syntheticMissingToolResult id (some name)))
  | _ => none

/-- **The tool message that answers an assistant message**: one result for each tool use, in
order. -/
def answers (blocks : List ContentBlock) (message : ChatMessage) : ChatMessage :=
  ⟨.tool, message.content.filterMap (answerOf fun id => firstResult id blocks)⟩

/-- An assistant message with tool uses, and its answers. -/
def pair (blocks : List ContentBlock) (message : ChatMessage) : List ChatMessage :=
  [message, answers blocks message]

section Results

variable {uses : List ContentBlock} {results : ResultsById} {id : String}

theorem takeResults_fst (distinct : (useIds uses).Nodup) :
    (takeResults uses results).1 = uses.filterMap (answerOf results.lookup) := by
  induction uses generalizing results with
  | nil => rfl
  | cons block rest ih =>
    cases block with
    | toolUse id name input =>
      have fresh : id ∉ useIds rest ∧ (useIds rest).Nodup := List.nodup_cons.mp distinct
      rw [takeResults]
      show (results.lookup id).getD (syntheticMissingToolResult id (some name)) ::
        (takeResults rest (results.erase id)).1 = _
      rw [ih fresh.2]
      refine congrArg _ (List.filterMap_congr fun block member => ?_)
      cases block with
      | toolUse other name input =>
        have away : other ≠ id := fun same =>
          fresh.1 (mem_useIds.mpr ⟨_, member, congrArg some same⟩)
        simp [answerOf, AList.lookup_erase_ne away]
      | _ => rfl
    | _ => exact ih distinct

theorem takeResults_snd : (takeResults uses results).2.lookup id =
    if id ∈ useIds uses then none else results.lookup id := by
  induction uses generalizing results with
  | nil => rfl
  | cons block rest ih =>
    cases block with
    | toolUse other name input =>
      rw [takeResults]
      dsimp only
      rw [ih]
      by_cases same : id = other
      · subst same
        simp [useIds, ContentBlock.toolUseId?]
      · rw [AList.lookup_erase_ne same]
        simp [useIds, ContentBlock.toolUseId?, same]
    | _ => exact ih

theorem toolResultId_of_firstResult {blocks : List ContentBlock} {result : ContentBlock}
    (found : firstResult id blocks = some result) : result.toolResultId? = some id := by
  unfold firstResult at found
  simpa using List.find?_some found

theorem toolResultIds_answers (blocks : List ContentBlock) (message : ChatMessage) :
    (answers blocks message).toolResultIds = message.toolUseIds := by
  unfold ChatMessage.toolResultIds ChatMessage.toolUseIds answers
  rw [List.filterMap_filterMap]
  refine List.filterMap_congr fun block _ => ?_
  cases block with
  | toolUse id name input =>
    cases found : firstResult id blocks with
    | none => simp [answerOf, found, syntheticMissingToolResult, ContentBlock.toolResultId?,
        ContentBlock.toolUseId?]
    | some result =>
      simp [answerOf, found, toolResultId_of_firstResult found, ContentBlock.toolUseId?]
  | _ => rfl

end Results

/-! ### What the pass has collected -/

/-- **After a prefix of the blocks**: the batch holds tool uses of the prefix, the captured results
are their first results, the pending ids those without one, and every batch before it is
answered. -/
structure Grouping.Tracks (done : List ContentBlock) (grouping : Grouping) : Prop where
  text : ∀ block ∈ grouping.currentText, block.toolUseId? = none
  uses : ∀ block ∈ grouping.currentToolUses, block.isToolUse = true
  placed : ∀ id ∈ useIds grouping.currentToolUses, id ∈ useIds done
  distinct : (useIds grouping.currentToolUses).Nodup
  pending : ∀ id, id ∈ grouping.pendingIds ↔
    id ∈ useIds grouping.currentToolUses ∧ firstResult id done = none
  results : ∀ id, grouping.resultsById.lookup id =
    if id ∈ useIds grouping.currentToolUses then firstResult id done else none
  paired : ∃ batches : List ChatMessage, grouping.messages = batches.flatMap (pair done) ∧
    ∀ message ∈ batches, message.role = .assistant ∧ message.toolUseIds ≠ [] ∧
      ∀ id ∈ message.toolUseIds, ∃ result, firstResult id done = some result

section Pass

variable {done : List ContentBlock} {grouping : Grouping} {block : ContentBlock} {id : String}

theorem pair_append {rest : List ContentBlock} {message : ChatMessage}
    (found : ∀ id ∈ message.toolUseIds, ∃ result, firstResult id done = some result) :
    pair (done ++ rest) message = pair done message := by
  unfold pair answers
  congr 3
  refine List.filterMap_congr fun block member => ?_
  cases block with
  | toolUse id name input =>
    obtain ⟨result, first⟩ := found id (List.mem_filterMap.mpr ⟨_, member, rfl⟩)
    rw [answerOf, answerOf, first, firstResult_mono first]
  | _ => rfl

theorem Grouping.Tracks.paired_append (tracks : grouping.Tracks done) (rest : List ContentBlock) :
    ∃ batches : List ChatMessage, grouping.messages = batches.flatMap (pair (done ++ rest)) ∧
      ∀ message ∈ batches, message.role = .assistant ∧ message.toolUseIds ≠ [] ∧
        ∀ id ∈ message.toolUseIds, ∃ result, firstResult id (done ++ rest) = some result := by
  obtain ⟨batches, same, each⟩ := tracks.paired
  refine ⟨batches, same.trans (List.flatMap_congr fun message member =>
    (pair_append (each message member).2.2).symm), fun message member => ?_⟩
  obtain ⟨role, uses, found⟩ := each message member
  refine ⟨role, uses, fun id among => ?_⟩
  obtain ⟨result, first⟩ := found id among
  exact ⟨result, firstResult_mono first⟩

theorem firstResult_other (other : block.toolResultId? ≠ some id) :
    firstResult id (done ++ [block]) = firstResult id done := by
  by_cases used : id ∈ useIds done
  · rw [firstResult_append used]
    simp [other]
  · rw [firstResult_of_not_mem used]
    refine List.find?_eq_none.mpr fun result member => ?_
    have skipped : done.dropWhile (fun block => block.toolUseId? ≠ some id) = [] := by
      refine List.dropWhile_eq_nil_iff.mpr fun block member => ?_
      simp only [ne_eq, decide_not, Bool.not_eq_true', decide_eq_false_iff_not]
      exact fun same => used (mem_useIds.mpr ⟨block, member, same⟩)
    rw [List.dropWhile_append, skipped] at member
    have here := (List.dropWhile_sublist _).subset member
    rw [List.mem_singleton.mp here]
    simpa using other

theorem firstResult_here (used : id ∈ useIds done) (none : firstResult id done = none)
    (result : block.toolResultId? = some id) : firstResult id (done ++ [block]) = some block := by
  rw [firstResult_append used, none, Option.none_or]
  simp [result]

theorem Grouping.Tracks.addText (tracks : grouping.Tracks done) (use : block.toolUseId? = none)
    (result : block.toolResultId? = none) : Grouping.Tracks (done ++ [block])
      { grouping with currentText := grouping.currentText ++ [block] } where
  text := fun other member => by
    rcases List.mem_append.mp member with member | member
    · exact tracks.text other member
    · rwa [List.mem_singleton.mp member]
  uses := tracks.uses
  placed := fun id member => by
    rw [useIds_append]
    exact List.mem_append_left _ (tracks.placed id member)
  distinct := tracks.distinct
  pending := fun id => by
    rw [firstResult_other (by simp [result])]
    exact tracks.pending id
  results := fun id => by
    rw [firstResult_other (by simp [result])]
    exact tracks.results id
  paired := tracks.paired_append [block]

theorem Grouping.Tracks.addUse {name : String} {input : Json} (tracks : grouping.Tracks done)
    (fresh : id ∉ useIds done) : Grouping.Tracks (done ++ [.toolUse id name input])
      (grouping.step (.toolUse id name input)) := by
  have same : ∀ other, firstResult other (done ++ [.toolUse id name input]) =
      firstResult other done := fun other =>
        firstResult_other (by simp [ContentBlock.toolResultId?])
  have added : useIds (grouping.currentToolUses ++ [.toolUse id name input]) =
      useIds grouping.currentToolUses ++ [id] := useIds_append
  have unknown : id ∉ useIds grouping.currentToolUses := fun member =>
    fresh (tracks.placed id member)
  refine ⟨tracks.text, fun block member => ?_, fun other member => ?_, ?_, fun other => ?_,
    fun other => ?_, tracks.paired_append _⟩
  · rcases List.mem_append.mp member with member | member
    · exact tracks.uses block member
    · rw [List.mem_singleton.mp member]
      rfl
  · rw [Grouping.step, added, List.mem_append] at member
    rw [useIds_append, List.mem_append]
    exact member.imp_left (tracks.placed other)
  · rw [Grouping.step, added]
    exact List.nodup_append.mpr ⟨tracks.distinct, List.nodup_singleton id, fun one there two here =>
      fun equal => unknown (List.mem_singleton.mp here ▸ equal ▸ there)⟩
  · rw [Grouping.step, added, same, Finset.mem_insert, tracks.pending other, List.mem_append,
      List.mem_singleton]
    constructor
    · rintro (rfl | ⟨there, none⟩)
      · exact ⟨Or.inr rfl, firstResult_of_not_mem fresh⟩
      · exact ⟨Or.inl there, none⟩
    · rintro ⟨there | rfl, none⟩
      · exact Or.inr ⟨there, none⟩
      · exact Or.inl rfl
  · rw [Grouping.step, added, same, tracks.results other]
    by_cases here : other = id
    · subst here
      simp [unknown, firstResult_of_not_mem fresh]
    · simp [here]

theorem Grouping.Tracks.capture (tracks : grouping.Tracks done)
    (result : block.toolResultId? = some id) :
    Grouping.Tracks (done ++ [block]) (grouping.capture id block) := by
  have others : ∀ other, other ≠ id → firstResult other
    (done ++ [block]) = firstResult other done :=
    fun other ne => firstResult_other (by simp [result, Ne.symm ne])
  have placed : ∀ other ∈ useIds grouping.currentToolUses, other ∈ useIds (done ++ [block]) := by
    intro other member
    rw [useIds_append]
    exact List.mem_append_left _ (tracks.placed other member)
  unfold Grouping.capture
  by_cases outstanding : id ∈ grouping.pendingIds
  · rw [if_pos outstanding]
    obtain ⟨used, none⟩ := (tracks.pending id).mp outstanding
    have first := firstResult_here (tracks.placed id used) none result
    refine ⟨tracks.text, tracks.uses, placed, tracks.distinct, fun other => ?_, fun other => ?_,
      tracks.paired_append _⟩
    · rw [Finset.mem_erase]
      by_cases here : other = id
      · subst here
        simp [first]
      · rw [others other here, tracks.pending other]
        exact and_iff_right here
    · by_cases here : other = id
      · subst here
        rw [AList.lookup_insert, if_pos used, first]
      · rw [AList.lookup_insert_ne here, others other here]
        exact tracks.results other
  · rw [if_neg outstanding]
    -- the use has its first result, or there is none in this batch
    have still : ∀ other ∈ useIds grouping.currentToolUses,
        firstResult other (done ++ [block]) = firstResult other done := by
      intro other member
      by_cases here : other = id
      · subst here
        cases found : firstResult other done with
        | none => exact absurd ((tracks.pending other).mpr ⟨member, found⟩) outstanding
        | some first => exact firstResult_mono found
      · exact others other here
    refine ⟨tracks.text, tracks.uses, placed, tracks.distinct, fun other => ?_, fun other => ?_,
      tracks.paired_append _⟩
    · rw [tracks.pending other]
      exact and_congr_right fun member => by rw [still other member]
    · rw [tracks.results other]
      by_cases member : other ∈ useIds grouping.currentToolUses
      · rw [if_pos member, if_pos member, still other member]
      · rw [if_neg member, if_neg member]

theorem useIds_assistantMessage (tracks : grouping.Tracks done) :
    grouping.assistantMessage.toolUseIds = useIds grouping.currentToolUses := by
  show useIds (grouping.currentText ++ grouping.currentToolUses) = _
  rw [useIds_append, useIds, List.filterMap_eq_nil_iff.mpr tracks.text, List.nil_append]

theorem useIds_ne_nil (tracks : grouping.Tracks done) (some : grouping.currentToolUses ≠ []) :
    useIds grouping.currentToolUses ≠ [] := by
  obtain ⟨block, rest, same⟩ := List.exists_cons_of_ne_nil some
  have isUse := tracks.uses block (by simp [same])
  cases block with
  | toolUse id name input => simp [same, useIds, ContentBlock.toolUseId?]
  | _ => cases isUse

/-- **A flush answers the batch.** -/
theorem Grouping.Tracks.flush_messages (tracks : grouping.Tracks done) :
    grouping.flush.messages = grouping.messages ++ pair done grouping.assistantMessage := by
  have content : (takeResults grouping.currentToolUses grouping.resultsById).1 =
      grouping.assistantMessage.content.filterMap (answerOf fun id => firstResult id done) := by
    rw [takeResults_fst tracks.distinct]
    have texts : grouping.currentText.filterMap (answerOf fun id => firstResult id done) = [] := by
      refine List.filterMap_eq_nil_iff.mpr fun block member => ?_
      have other := tracks.text block member
      cases block with
      | toolUse id name input => cases other
      | _ => rfl
    show _ = (grouping.currentText ++ grouping.currentToolUses).filterMap _
    rw [List.filterMap_append, texts, List.nil_append]
    refine List.filterMap_congr fun block member => ?_
    cases block with
    | toolUse id name input =>
      rw [answerOf, answerOf, tracks.results id, if_pos (mem_useIds.mpr ⟨_, member, rfl⟩)]
    | _ => rfl
  unfold Grouping.flush
  dsimp only
  rw [content]
  rfl

/-- **A flush starts an empty batch**: no captured result is left over. -/
theorem Grouping.Tracks.flush (tracks : grouping.Tracks done) (resolved : grouping.pendingIds = ∅)
    (some : grouping.currentToolUses ≠ []) : Grouping.Tracks done grouping.flush where
  text := by simp [Grouping.flush]
  uses := by simp [Grouping.flush]
  placed := by simp [Grouping.flush, useIds]
  distinct := by simp [Grouping.flush, useIds]
  pending := fun id => by simp [Grouping.flush, resolved, useIds]
  results := fun id => by
    show (takeResults grouping.currentToolUses grouping.resultsById).2.lookup id = none
    rw [takeResults_snd, tracks.results id]
    by_cases used : id ∈ useIds grouping.currentToolUses
    · rw [if_pos used]
    · rw [if_neg used, if_neg used]
  paired := by
    obtain ⟨batches, same, each⟩ := tracks.paired
    refine ⟨batches ++ [grouping.assistantMessage], ?_, fun message member => ?_⟩
    · rw [tracks.flush_messages, same, List.flatMap_append]
      simp
    · rcases List.mem_append.mp member with member | member
      · exact each message member
      · rw [List.mem_singleton.mp member, useIds_assistantMessage tracks]
        refine ⟨rfl, useIds_ne_nil tracks some, fun id used => ?_⟩
        cases found : firstResult id done with
        | some result => exact ⟨result, rfl⟩
        | none =>
          have outstanding := (tracks.pending id).mpr ⟨used, found⟩
          simp [resolved] at outstanding

theorem Grouping.Tracks.flushIfResolved (tracks : grouping.Tracks done) :
    Grouping.Tracks done grouping.flushIfResolved := by
  unfold Grouping.flushIfResolved
  by_cases due : grouping.pendingIds = ∅ ∧ grouping.currentToolUses ≠ []
  · rw [if_pos due]
    exact tracks.flush due.1 due.2
  · rw [if_neg due]
    exact tracks

/-- **One block.** -/
theorem Grouping.Tracks.step (tracks : grouping.Tracks done)
    (distinct : (useIds (done ++ [block])).Nodup) :
    Grouping.Tracks (done ++ [block]) (grouping.step block) := by
  cases block with
  | toolUse id name input =>
    refine tracks.addUse fun used => ?_
    rw [useIds_append] at distinct
    exact (List.nodup_append.mp distinct).2.2 id used id (by simp [useIds, ContentBlock.toolUseId?])
      rfl
  | toolResult id name content isError => exact (tracks.capture rfl).flushIfResolved
  | text | thinking | redactedThinking | image | document => exact tracks.addText rfl rfl

theorem Grouping.tracks_empty : Grouping.Tracks [] .empty where
  text := by simp [Grouping.empty]
  uses := by simp [Grouping.empty]
  placed := by simp [Grouping.empty, useIds]
  distinct := by simp [Grouping.empty, useIds]
  pending := fun id => by simp [Grouping.empty, useIds]
  results := fun id => by simp [Grouping.empty, useIds]
  paired := ⟨[], rfl, by simp⟩

/-- **The whole pass.** -/
theorem Grouping.tracks_foldl (blocks : List ContentBlock) (tracks : grouping.Tracks done)
    (distinct : (useIds (done ++ blocks)).Nodup) :
    Grouping.Tracks (done ++ blocks) (blocks.foldl Grouping.step grouping) := by
  induction blocks generalizing done grouping with
  | nil => simpa using tracks
  | cons block rest ih =>
    rw [List.append_cons] at distinct ⊢
    refine ih (tracks.step ?_) distinct
    rw [useIds_append] at distinct
    exact (List.nodup_append.mp distinct).1

theorem Grouping.Tracks.batchHasResult (tracks : grouping.Tracks done) :
    grouping.batchHasResult = false ↔
      ∀ id ∈ useIds grouping.currentToolUses, firstResult id done = none := by
  unfold Grouping.batchHasResult
  rw [List.any_eq_false]
  constructor
  · intro none id used
    obtain ⟨block, member, same⟩ := mem_useIds.mp used
    have missing := none block member
    cases block with
    | toolUse other name input =>
      cases same
      simpa [tracks.results, used] using missing
    | _ => cases same
  · intro none block member
    cases block with
    | toolUse id name input =>
      have used : id ∈ useIds grouping.currentToolUses := mem_useIds.mpr ⟨_, member, rfl⟩
      simp [tracks.results, used, none id used]
    | _ => simp

end Pass

/-! ### What the provider is sent -/

/-- **Valid on the wire**, for the stored `blocks`. -/
structure WireValid (blocks : List ContentBlock) (messages : List ChatMessage) : Prop where
  /-- The next message answers every tool use once, in order; the last message may be bare. -/
  answered : ∀ before message after, messages = before ++ message :: after →
    message.role = .assistant → message.toolUseIds ≠ [] →
      (∃ rest, after = answers blocks message :: rest ∧
        (answers blocks message).toolResultIds = message.toolUseIds) ∨
      (after = [] ∧ ∀ id ∈ message.toolUseIds, firstResult id blocks = none)
  /-- A tool message follows the assistant message whose tool uses it answers. -/
  preceded : ∀ before message after, messages = before ++ message :: after →
    message.role = .tool → ∃ earlier asked, before = earlier ++ [asked] ∧
      asked.role = .assistant ∧ ∀ id ∈ message.toolResultIds, id ∈ asked.toolUseIds

section Wire

variable {blocks content : List ContentBlock} {message : ChatMessage} {rest : List ChatMessage}

theorem wireValid_nil : WireValid blocks [] where
  answered := by simp
  preceded := by simp

theorem wireValid_last (none : ∀ id ∈ useIds content, firstResult id blocks = none) :
    WireValid blocks [⟨.assistant, content⟩] where
  answered := by
    intro before message after same _ _
    rcases List.singleton_eq_append_iff.mp same with ⟨rfl, here⟩ | ⟨_, here⟩
    · rw [List.cons.injEq] at here
      obtain ⟨rfl, rfl⟩ := here
      exact Or.inr ⟨rfl, none⟩
    · cases here
  preceded := by
    intro before message after same tool
    rcases List.singleton_eq_append_iff.mp same with ⟨rfl, here⟩ | ⟨_, here⟩
    · rw [List.cons.injEq] at here
      obtain ⟨rfl, rfl⟩ := here
      cases tool
    · cases here

/-- **A pair in front.** -/
theorem WireValid.pair (valid : WireValid blocks rest) (role : message.role = .assistant) :
    WireValid blocks (message :: answers blocks message :: rest) where
  answered := by
    intro before other after same assistant uses
    match before, same with
    | [], same =>
      simp only [List.nil_append, List.cons.injEq] at same
      obtain ⟨rfl, rfl⟩ := same
      exact Or.inl ⟨rest, rfl, toolResultIds_answers blocks message⟩
    | [_], same =>
      simp only [List.cons_append, List.nil_append, List.cons.injEq] at same
      obtain ⟨_, rfl, _⟩ := same
      cases assistant
    | _ :: _ :: before, same =>
      simp only [List.cons_append, List.cons.injEq] at same
      exact valid.answered before other after same.2.2 assistant uses
  preceded := by
    intro before other after same tool
    match before, same with
    | [], same =>
      simp only [List.nil_append, List.cons.injEq] at same
      obtain ⟨rfl, _⟩ := same
      rw [role] at tool
      cases tool
    | [_], same =>
      simp only [List.cons_append, List.nil_append, List.cons.injEq] at same
      obtain ⟨rfl, rfl, _⟩ := same
      refine ⟨[], message, rfl, role, fun id answer => ?_⟩
      rwa [toolResultIds_answers] at answer
    | first :: second :: before, same =>
      simp only [List.cons_append, List.cons.injEq] at same
      obtain ⟨earlier, asked, rfl, valid⟩ := valid.preceded before other after same.2.2 tool
      exact ⟨first :: second :: earlier, asked, rfl, valid⟩

/-- **Answered pairs in front.** -/
theorem WireValid.pairs {batches : List ChatMessage} (valid : WireValid blocks rest)
    (roles : ∀ message ∈ batches, message.role = .assistant) :
    WireValid blocks (batches.flatMap (Chat.pair blocks) ++ rest) := by
  induction batches with
  | nil => exact valid
  | cons message batches ih =>
    have role := roles message List.mem_cons_self
    exact (ih fun other member => roles other (List.mem_cons_of_mem _ member)).pair role

theorem Grouping.Tracks.finish {grouping : Grouping} (tracks : grouping.Tracks blocks) :
    WireValid blocks grouping.finish := by
  obtain ⟨batches, same, each⟩ := tracks.paired
  have roles : ∀ message ∈ batches, message.role = .assistant := fun message member =>
    (each message member).1
  unfold Grouping.finish
  by_cases uses : grouping.currentToolUses ≠ []
  · rw [if_pos uses]
    by_cases result : grouping.batchHasResult = true
    · rw [if_pos result, tracks.flush_messages, same]
      exact (wireValid_nil.pair rfl).pairs roles
    · rw [if_neg result, same]
      refine (wireValid_last ?_).pairs roles
      have ids : useIds (grouping.currentText ++ grouping.currentToolUses) =
          useIds grouping.currentToolUses := useIds_assistantMessage tracks
      rw [ids]
      exact tracks.batchHasResult.mp (by simpa using result)
  · rw [if_neg uses]
    by_cases text : grouping.currentText ≠ []
    · rw [if_pos text, same]
      refine (wireValid_last ?_).pairs roles
      intro id used
      obtain ⟨block, member, use⟩ := mem_useIds.mp used
      rw [tracks.text block member] at use
      cases use
    · rw [if_neg text, same, ← List.append_nil (batches.flatMap _)]
      exact wireValid_nil.pairs roles

/-- **The grouped history is valid**: for every block list whose tool uses have different ids. -/
theorem grouped_wired (blocks : List ContentBlock) (distinct : (useIds blocks).Nodup) :
    WireValid blocks (groupAssistantBlocks blocks) := by
  have tracks : Grouping.Tracks blocks (blocks.foldl Grouping.step .empty) :=
    Grouping.tracks_foldl blocks Grouping.tracks_empty distinct
  exact tracks.finish

/-! ### Roles -/

def Alternating (messages : List ChatMessage) : Prop :=
  (∀ message ∈ messages, message.role = .assistant ∨ message.role = .tool) ∧
    ∀ message, messages.head? = some message → message.role = .assistant

theorem alternating_nil : Alternating [] := ⟨by simp, by simp⟩

theorem Alternating.append {messages more : List ChatMessage} (first : Alternating messages)
    (second : Alternating more) : Alternating (messages ++ more) := by
  refine ⟨fun message member => ?_, fun message head => ?_⟩
  · rcases List.mem_append.mp member with early | late
    · exact first.1 message early
    · exact second.1 message late
  · cases messages with
    | nil => exact second.2 message head
    | cons other rest => exact first.2 message head

theorem alternating_assistant {message : ChatMessage} (role : message.role = .assistant) :
    Alternating [message] :=
  ⟨by simp [role], by simp [role]⟩

theorem Grouping.flush_alternating {grouping : Grouping}
    (alternating : Alternating grouping.messages) : Alternating grouping.flush.messages := by
  refine alternating.append ⟨fun message member => ?_, fun message head => ?_⟩
  · simp only [List.mem_cons, List.not_mem_nil, or_false] at member
    rcases member with rfl | rfl
    · exact .inl rfl
    · exact .inr rfl
  · simp only [List.head?_cons, Option.some.injEq] at head
    rw [← head]
    rfl

theorem Grouping.step_alternating {grouping : Grouping} (block : ContentBlock)
    (alternating : Alternating grouping.messages) : Alternating (grouping.step block).messages := by
  have captured : ∀ id content, (grouping.capture id content).messages = grouping.messages := by
    intro id content
    unfold Grouping.capture
    split <;> rfl
  cases block with
  | toolResult id name content isError =>
    show Alternating (grouping.capture id _).flushIfResolved.messages
    unfold Grouping.flushIfResolved
    split
    · exact Grouping.flush_alternating (by rwa [captured])
    · rwa [captured]
  | _ => exact alternating

/-- **What is grouped**: assistant and tool messages, an assistant message first. -/
theorem grouped_alternating (blocks : List ContentBlock) :
    Alternating (groupAssistantBlocks blocks) := by
  have passed : ∀ grouping : Grouping, Alternating grouping.messages →
      Alternating (blocks.foldl Grouping.step grouping).messages := by
    induction blocks with
    | nil => exact fun grouping alternating => alternating
    | cons block rest ih =>
      exact fun grouping alternating => ih _ (Grouping.step_alternating block alternating)
  have alternating := passed .empty alternating_nil
  rw [groupAssistantBlocks]
  generalize blocks.foldl Grouping.step .empty = grouping at alternating
  unfold Grouping.finish
  split
  · split
    · exact Grouping.flush_alternating alternating
    · exact alternating.append (alternating_assistant rfl)
  · split
    · exact alternating.append (alternating_assistant rfl)
    · exact alternating

/-- An orphan, two parallel calls one of which has no result, and a duplicate. -/
def interrupted : List ContentBlock :=
  [.toolResult "b" none [] none, .text "let me look", .toolUse "a" "read" .null,
    .toolUse "b" "list" .null, .toolResult "a" none [.text "found"] none,
    .toolResult "a" none [.text "again"] none]

theorem grouped_wired_interrupted : (useIds interrupted).Nodup ∧
    WireValid interrupted (groupAssistantBlocks interrupted) :=
  have distinct : (useIds interrupted).Nodup := by decide
  ⟨distinct, grouped_wired interrupted distinct⟩

end Wire

end Ziee.Chat
