/-
**The order of a grouped assistant message** (`group_assistant_blocks`, `streaming.rs`).

The grouping keeps the blocks of one kind in the order of the list: the plain ones (text, thinking
and attachments) among themselves, and the tool uses among themselves. It does not keep the two
kinds in each other's order, since every assistant message has its plain blocks first. Where every
tool use so far has its result, the list is cut: what is stored later is sent after every tool use
and result that was stored before.

* `Grouping.Keeps` — what a pass has emitted and what it holds, in order.
* `Grouping.pending_unanswered` — the pending ids are those of tool uses without a later result.
-/

import Ziee.Chat.GroupBlocks

namespace Ziee.Chat

open Ziee.Providers

/-- Text, thinking or an attachment. -/
def isPlain (block : ContentBlock) : Bool := !block.isToolUse && !block.isToolResult

def sent (messages : List ChatMessage) : List ContentBlock := messages.flatMap ChatMessage.content

variable {message : ChatMessage} {results : ResultsById} {result : ContentBlock}

theorem sent_append (first second : List ChatMessage) :
    sent (first ++ second) = sent first ++ sent second := List.flatMap_append

def Shaped (blocks : List ContentBlock) (message : ChatMessage) : Prop :=
  (message.role = .assistant ∧ message.content =
      message.content.filter isPlain ++ message.content.filter ContentBlock.isToolUse) ∨
    (message.role = .tool ∧ ∀ result ∈ message.content, (result ∈ blocks ∧ result.isToolResult) ∨
        ∃ id name, result = syntheticMissingToolResult id name)

def AllAnswered (blocks : List ContentBlock) : Prop :=
  ∀ before use after id, blocks = before ++ use :: after → use.toolUseId? = some id →
    ∃ result ∈ after, result.toolResultId? = some id

/-- **The order of grouped messages.** -/
structure Ordered (blocks : List ContentBlock) (messages : List ChatMessage) : Prop where
  /-- The plain blocks are sent once each, in order. -/
  plain : (sent messages).filter isPlain = blocks.filter isPlain
  /-- The tool uses are sent once each, in order. -/
  uses : (sent messages).filter ContentBlock.isToolUse = blocks.filter ContentBlock.isToolUse
  /-- An assistant message has its plain blocks before its tool uses. -/
  shaped : ∀ message ∈ messages, Shaped blocks message
  /-- Where every tool use has its result, what is stored later is sent later. -/
  cut : ∀ done rest, blocks = done ++ rest → AllAnswered done →
    ∃ earlier later held, messages = earlier ++ later ∧
      (sent earlier).filter isPlain ++ held = done.filter isPlain ∧
      (sent later).filter isPlain = held ++ rest.filter isPlain ∧
      (sent earlier).filter ContentBlock.isToolUse = done.filter ContentBlock.isToolUse ∧
      (sent later).filter ContentBlock.isToolUse = rest.filter ContentBlock.isToolUse ∧
      ∀ message ∈ later, Shaped rest message

section Kinds

variable {block : ContentBlock} {blocks text uses : List ContentBlock}

theorem filter_plain_of_uses (all : ∀ block ∈ uses, block.isToolUse = true) :
    uses.filter isPlain = [] :=
  List.filter_eq_nil_iff.mpr fun block member => by simp [isPlain, all block member]

theorem filter_uses_of_plain (all : ∀ block ∈ text, isPlain block = true) :
    text.filter ContentBlock.isToolUse = [] := by
  refine List.filter_eq_nil_iff.mpr fun block member => ?_
  have plain := all block member
  simp only [isPlain, Bool.and_eq_true, Bool.not_eq_true'] at plain
  simp [plain.1]

theorem result_kinds (result : block.isToolResult = true) :
    isPlain block = false ∧ block.isToolUse = false := by
  cases block <;> simp_all [isPlain, ContentBlock.isToolResult, ContentBlock.isToolUse]

theorem filters_of_results (all : ∀ block ∈ blocks, block.isToolResult = true) :
    blocks.filter isPlain = [] ∧ blocks.filter ContentBlock.isToolUse = [] :=
  ⟨List.filter_eq_nil_iff.mpr fun block member => by simp [(result_kinds (all block member)).1],
    List.filter_eq_nil_iff.mpr fun block member => by simp [(result_kinds (all block member)).2]⟩

theorem Shaped.mono {more : List ContentBlock}
    (shaped : Shaped blocks message) (subset : ∀ block ∈ blocks, block ∈ more) :
    Shaped more message :=
  shaped.imp id fun ⟨role, results⟩ => ⟨role, fun result member =>
    (results result member).imp (fun stored => ⟨subset result stored.1, stored.2⟩) id⟩

end Kinds

/-! ### What a pass holds -/

/-- **After a prefix of the blocks**: what was emitted and what is held are its plain blocks and its
tool uses, in order; the captured results are among it. -/
structure Grouping.Keeps (done : List ContentBlock) (grouping : Grouping) : Prop where
  text : ∀ block ∈ grouping.currentText, isPlain block = true
  uses : ∀ block ∈ grouping.currentToolUses, block.isToolUse = true
  plain : (sent grouping.messages).filter isPlain ++ grouping.currentText = done.filter isPlain
  asked : (sent grouping.messages).filter ContentBlock.isToolUse ++ grouping.currentToolUses =
    done.filter ContentBlock.isToolUse
  results : ∀ id result, grouping.resultsById.lookup id = some result →
    result ∈ done ∧ result.isToolResult = true
  shaped : ∀ message ∈ grouping.messages, Shaped done message

section Pass

variable {done : List ContentBlock} {grouping : Grouping} {block : ContentBlock} {id : String}

theorem mem_takeResults {uses : List ContentBlock}
    (member : result ∈ (takeResults uses results).1) : (∃ id, results.lookup id = some result) ∨
      ∃ id name, result = syntheticMissingToolResult id name := by
  induction uses generalizing results with
  | nil => exact absurd member List.not_mem_nil
  | cons block rest ih =>
    cases block with
    | toolUse id name input =>
      rw [takeResults] at member
      obtain here | there := List.mem_cons.mp member
      · cases found : results.lookup id with
        | some captured =>
          rw [found, Option.getD_some] at here
          exact .inl ⟨id, by rw [found, here]⟩
        | none =>
          rw [found, Option.getD_none] at here
          exact .inr ⟨id, some name, here⟩
      · obtain ⟨other, found⟩ | placeholder := ih there
        · by_cases same : other = id
          · rw [same, AList.lookup_erase] at found
            exact absurd found (by simp)
          · rw [AList.lookup_erase_ne same] at found
            exact .inl ⟨other, found⟩
        · exact .inr placeholder
    | _ => exact ih member

theorem lookup_takeResults {uses : List ContentBlock}
    (found : (takeResults uses results).2.lookup id = some result) :
    results.lookup id = some result := by
  rw [takeResults_snd] at found
  split at found
  · exact absurd found (by simp)
  · exact found

theorem Grouping.Keeps.assistant (keeps : grouping.Keeps done) :
    grouping.assistantMessage.content.filter isPlain = grouping.currentText ∧
      grouping.assistantMessage.content.filter ContentBlock.isToolUse =
        grouping.currentToolUses := by
  unfold Grouping.assistantMessage
  rw [List.filter_append, List.filter_append, filter_plain_of_uses keeps.uses,
    filter_uses_of_plain keeps.text, List.append_nil, List.nil_append]
  exact ⟨List.filter_eq_self.mpr keeps.text, List.filter_eq_self.mpr keeps.uses⟩

theorem Grouping.Keeps.shaped_assistant (keeps : grouping.Keeps done) :
    Shaped done grouping.assistantMessage :=
  .inl ⟨rfl, by rw [keeps.assistant.1, keeps.assistant.2]; rfl⟩

theorem Grouping.Keeps.answers (keeps : grouping.Keeps done) :
    ∀ result ∈ (takeResults grouping.currentToolUses grouping.resultsById).1,
      (result ∈ done ∧ result.isToolResult = true) ∨
        ∃ id name, result = syntheticMissingToolResult id name := by
  intro result member
  obtain ⟨id, found⟩ | placeholder := mem_takeResults member
  · exact .inl (keeps.results id result found)
  · exact .inr placeholder

/-- **A flush emits what is held.** -/
theorem Grouping.Keeps.flush (keeps : grouping.Keeps done) : grouping.flush.Keeps done := by
  have results : ∀ result ∈ (takeResults grouping.currentToolUses grouping.resultsById).1,
      result.isToolResult = true := by
    intro result member
    obtain ⟨-, kind⟩ | ⟨id, name, rfl⟩ := keeps.answers result member
    · exact kind
    · rfl
  obtain ⟨noText, noUses⟩ := filters_of_results results
  have emitted : sent grouping.flush.messages = sent grouping.messages ++
      (grouping.assistantMessage.content ++
        (takeResults grouping.currentToolUses grouping.resultsById).1) := by
    rw [Grouping.flush, sent_append]
    simp [sent]
  refine ⟨fun _ member => absurd member List.not_mem_nil,
    fun _ member => absurd member List.not_mem_nil, ?_, ?_, ?_, ?_⟩
  · rw [emitted, List.filter_append, List.filter_append, noText, keeps.assistant.1, List.append_nil,
      ← keeps.plain]
    exact List.append_nil _
  · rw [emitted, List.filter_append, List.filter_append, noUses, keeps.assistant.2, List.append_nil,
      ← keeps.asked]
    exact List.append_nil _
  · exact fun id result found => keeps.results id result (lookup_takeResults found)
  · intro message member
    obtain before | here := List.mem_append.mp member
    · exact keeps.shaped message before
    · obtain rfl | rfl : message = grouping.assistantMessage ∨
          message = ⟨.tool, (takeResults grouping.currentToolUses grouping.resultsById).1⟩ := by
        simpa using here
      · exact keeps.shaped_assistant
      · exact .inr ⟨rfl, keeps.answers⟩

theorem Grouping.Keeps.grown (keeps : grouping.Keeps done) (block : ContentBlock) :
    (∀ id result, grouping.resultsById.lookup id = some result →
      result ∈ done ++ [block] ∧ result.isToolResult = true) ∧
      ∀ message ∈ grouping.messages, Shaped (done ++ [block]) message :=
  ⟨fun id result found => ⟨List.mem_append_left _ (keeps.results id result found).1,
      (keeps.results id result found).2⟩,
    fun message member => (keeps.shaped message member).mono fun _ => List.mem_append_left _⟩

theorem Grouping.Keeps.capture (keeps : grouping.Keeps done) (id : String)
    (result : block.isToolResult = true) : (grouping.capture id block).Keeps (done ++ [block]) := by
  obtain ⟨notPlain, notUse⟩ := result_kinds result
  obtain ⟨results, shaped⟩ := keeps.grown block
  have plain : (sent grouping.messages).filter isPlain ++ grouping.currentText =
      (done ++ [block]).filter isPlain := by
    rw [keeps.plain, List.filter_append]
    simp [notPlain]
  have asked : (sent grouping.messages).filter ContentBlock.isToolUse ++
      grouping.currentToolUses = (done ++ [block]).filter ContentBlock.isToolUse := by
    rw [keeps.asked, List.filter_append]
    simp [notUse]
  unfold Grouping.capture
  split
  · refine ⟨keeps.text, keeps.uses, plain, asked, fun other found held => ?_, shaped⟩
    by_cases same : other = id
    · rw [same, AList.lookup_insert, Option.some.injEq] at held
      exact ⟨by simp [held], held ▸ result⟩
    · rw [AList.lookup_insert_ne same] at held
      exact results other found held
  · exact ⟨keeps.text, keeps.uses, plain, asked, results, shaped⟩

/-- **One block.** -/
theorem Grouping.Keeps.step (keeps : grouping.Keeps done) (block : ContentBlock) :
    (grouping.step block).Keeps (done ++ [block]) := by
  obtain ⟨results, shaped⟩ := keeps.grown block
  have addPlain : isPlain block = true → Grouping.Keeps (done ++ [block])
        { grouping with currentText := grouping.currentText ++ [block] } := by
    intro plain
    have notUse : block.isToolUse = false := by
      simp only [isPlain, Bool.and_eq_true, Bool.not_eq_true'] at plain
      exact plain.1
    refine ⟨fun other member => ?_, keeps.uses, ?_, ?_, results, shaped⟩
    · obtain before | here := List.mem_append.mp member
      · exact keeps.text other before
      · rw [List.mem_singleton.mp here]
        exact plain
    · rw [← List.append_assoc, keeps.plain, List.filter_append]
      simp [plain]
    · rw [keeps.asked, List.filter_append]
      simp [notUse]
  cases block with
  | toolUse id name input =>
    refine ⟨keeps.text, fun other member => ?_, ?_, ?_, results, shaped⟩
    · obtain before | here := List.mem_append.mp member
      · exact keeps.uses other before
      · rw [List.mem_singleton.mp here]
        rfl
    · rw [List.filter_append]
      simpa [Grouping.step, isPlain, ContentBlock.isToolUse] using keeps.plain
    · rw [List.filter_append, ← keeps.asked, List.append_assoc]
      rfl
  | toolResult id name content isError =>
    have captured : (grouping.capture id (.toolResult id name content isError)).Keeps
        (done ++ [.toolResult id name content isError]) := keeps.capture id rfl
    show Grouping.Keeps _ (grouping.capture id _).flushIfResolved
    unfold Grouping.flushIfResolved
    split
    · exact captured.flush
    · exact captured
  | text | thinking | redactedThinking | image | document => exact addPlain rfl

theorem Grouping.keeps_empty : Grouping.empty.Keeps [] where
  text := fun _ member => absurd member List.not_mem_nil
  uses := fun _ member => absurd member List.not_mem_nil
  plain := rfl
  asked := rfl
  results := fun _ _ found => absurd found (by simp [Grouping.empty])
  shaped := fun _ member => absurd member List.not_mem_nil

/-- **The whole pass.** -/
theorem Grouping.Keeps.foldl (blocks : List ContentBlock) (keeps : grouping.Keeps done) :
    (blocks.foldl Grouping.step grouping).Keeps (done ++ blocks) := by
  induction blocks generalizing done grouping with
  | nil => rwa [List.append_nil]
  | cons block rest ih =>
    rw [List.append_cons]
    exact ih (keeps.step block)

/-- **What is emitted in the end.** -/
theorem Grouping.Keeps.finish (keeps : grouping.Keeps done) :
    (sent grouping.finish).filter isPlain = done.filter isPlain ∧
      (sent grouping.finish).filter ContentBlock.isToolUse = done.filter ContentBlock.isToolUse ∧
      ∀ message ∈ grouping.finish, Shaped done message := by
  have bare : (sent (grouping.messages ++ [grouping.assistantMessage])).filter isPlain =
        done.filter isPlain ∧
      (sent (grouping.messages ++ [grouping.assistantMessage])).filter ContentBlock.isToolUse =
        done.filter ContentBlock.isToolUse ∧
      ∀ message ∈ grouping.messages ++ [grouping.assistantMessage], Shaped done message := by
    refine ⟨?_, ?_, fun message member => ?_⟩
    · rw [sent_append, List.filter_append, ← keeps.plain, ← keeps.assistant.1]
      simp [sent]
    · rw [sent_append, List.filter_append, ← keeps.asked, ← keeps.assistant.2]
      simp [sent]
    · obtain before | here := List.mem_append.mp member
      · exact keeps.shaped message before
      · rw [List.mem_singleton.mp here]
        exact keeps.shaped_assistant
  unfold Grouping.finish
  split
  · split
    · have flushed := keeps.flush
      refine ⟨?_, ?_, flushed.shaped⟩
      · rw [← flushed.plain]
        exact (List.append_nil _).symm
      · rw [← flushed.asked]
        exact (List.append_nil _).symm
    · exact bare
  · rename_i idle
    have idle : grouping.currentToolUses = [] := not_not.mp idle
    split
    · have same : grouping.assistantMessage = ⟨.assistant, grouping.currentText⟩ := by
        rw [Grouping.assistantMessage, idle, List.append_nil]
      rw [← same]
      exact bare
    · rename_i silent
      have silent : grouping.currentText = [] := not_not.mp silent
      refine ⟨?_, ?_, keeps.shaped⟩
      · rw [← keeps.plain, silent, List.append_nil]
      · rw [← keeps.asked, idle, List.append_nil]

end Pass

/-! ### Where every tool use has its result -/

section Cut

variable {done rest : List ContentBlock} {grouping : Grouping} {id : String}

theorem mem_pending_result {block : ContentBlock}
    (waits : id ∈ ((grouping.capture id' block).flushIfResolved).pendingIds) :
    id ∈ grouping.pendingIds ∧ id ≠ id' := by
  have captured : id ∈ (grouping.capture id' block).pendingIds := by
    revert waits
    unfold Grouping.flushIfResolved
    split <;> exact fun waits => waits
  revert captured
  unfold Grouping.capture
  split
  · exact fun captured => ⟨Finset.mem_of_mem_erase captured, Finset.ne_of_mem_erase captured⟩
  · rename_i settled
    exact fun captured => ⟨captured, fun same => settled (same ▸ captured)⟩

/-- **A pending id is that of a tool use without a later result.** -/
theorem Grouping.pending_unanswered (waits : id ∈ (done.foldl Grouping.step .empty).pendingIds) :
    ∃ before use after, done = before ++ use :: after ∧ use.toolUseId? = some id ∧
      ∀ result ∈ after, result.toolResultId? ≠ some id := by
  induction done using List.reverseRecOn with
  | nil => exact absurd waits (Finset.notMem_empty id)
  | append_singleton done block ih =>
    rw [List.foldl_append, List.foldl_cons, List.foldl_nil] at waits
    -- An id that waited before still waits, if the block is no result for it.
    have still : id ∈ (done.foldl Grouping.step .empty).pendingIds → block.toolResultId? ≠ some id →
        ∃ before use after, done ++ [block] = before ++ use :: after ∧
          use.toolUseId? = some id ∧ ∀ result ∈ after, result.toolResultId? ≠ some id := by
      intro waited other
      obtain ⟨before, use, after, rfl, own, none⟩ := ih waited
      refine ⟨before, use, after ++ [block], by simp, own, fun result member => ?_⟩
      obtain inside | here := List.mem_append.mp member
      · exact none result inside
      · rw [List.mem_singleton.mp here]
        exact other
    cases block with
    | toolUse used name input =>
      obtain rfl | waited := Finset.mem_insert.mp waits
      · exact ⟨done, _, [], rfl, rfl, fun _ member => absurd member List.not_mem_nil⟩
      · exact still waited (by simp [ContentBlock.toolResultId?])
    | toolResult answered name content isError =>
      obtain ⟨waited, apart⟩ := mem_pending_result waits
      refine still waited fun same => apart ?_
      simpa [ContentBlock.toolResultId?] using same.symm
    | text | thinking | redactedThinking | image | document =>
      exact still waits (by simp [ContentBlock.toolResultId?])

structure Grouping.Settles (grouping : Grouping) : Prop where
  idle : grouping.pendingIds = ∅ → grouping.currentToolUses = []
  waiting : ∀ id ∈ grouping.pendingIds, id ∈ useIds grouping.currentToolUses
  captured : ∀ id result, grouping.resultsById.lookup id = some result →
    id ∈ useIds grouping.currentToolUses

theorem Grouping.settles_empty : Grouping.empty.Settles :=
  ⟨fun _ => rfl, fun _ member => absurd member (Finset.notMem_empty _),
    fun _ _ found => absurd found (by simp [Grouping.empty])⟩

theorem Grouping.Settles.flushIfResolved
    (waiting : ∀ id ∈ grouping.pendingIds, id ∈ useIds grouping.currentToolUses)
    (captured : ∀ id result, grouping.resultsById.lookup id = some result →
      id ∈ useIds grouping.currentToolUses) : grouping.flushIfResolved.Settles := by
  unfold Grouping.flushIfResolved
  split
  · rename_i resolved
    refine ⟨fun _ => rfl, fun id waits => ?_, fun id result found => ?_⟩
    · have none : id ∈ grouping.pendingIds := waits
      rw [resolved.1] at none
      exact absurd none (Finset.notMem_empty id)
    · have left : (takeResults grouping.currentToolUses grouping.resultsById).2.lookup id =
          some result := found
      rw [takeResults_snd] at left
      split at left
      · exact absurd left (by simp)
      · rename_i other
        exact absurd (captured id result left) other
  · rename_i unresolved
    refine ⟨fun empty => ?_, waiting, captured⟩
    by_contra held
    exact unresolved ⟨empty, held⟩

theorem Grouping.Settles.step (settles : grouping.Settles) (block : ContentBlock) :
    (grouping.step block).Settles := by
  cases block with
  | toolUse used name input =>
    have added : useIds (grouping.currentToolUses ++ [.toolUse used name input]) =
        useIds grouping.currentToolUses ++ [used] := useIds_append
    refine ⟨fun empty => absurd empty (Finset.insert_ne_empty _ _), fun id waits => ?_,
      fun id result found => ?_⟩
    · rw [Grouping.step, added, List.mem_append, List.mem_singleton]
      exact (Finset.mem_insert.mp waits).symm.imp (settles.waiting id) fun same => same
    · rw [Grouping.step, added]
      exact List.mem_append_left _ (settles.captured id result found)
  | toolResult answered name content isError =>
    show (grouping.capture answered _).flushIfResolved.Settles
    unfold Grouping.capture
    split
    · rename_i outstanding
      refine Grouping.Settles.flushIfResolved (fun id waits => ?_) fun id result found => ?_
      · exact settles.waiting id (Finset.mem_of_mem_erase waits)
      · by_cases same : id = answered
        · exact same ▸ settles.waiting answered outstanding
        · rw [AList.lookup_insert_ne same] at found
          exact settles.captured id result found
    · exact Grouping.Settles.flushIfResolved settles.waiting settles.captured
  | text | thinking | redactedThinking | image | document =>
    exact ⟨settles.idle, settles.waiting, settles.captured⟩

theorem Grouping.Settles.foldl (blocks : List ContentBlock) (settles : grouping.Settles) :
    (blocks.foldl Grouping.step grouping).Settles := by
  induction blocks generalizing grouping with
  | nil => exact settles
  | cons block rest ih => exact ih (settles.step block)

/-! ### A pass after a cut -/

/-- The pass with more messages in front. -/
def Grouping.after (earlier : List ChatMessage) (grouping : Grouping) : Grouping :=
  { grouping with messages := earlier ++ grouping.messages }

theorem Grouping.flush_after (earlier : List ChatMessage) :
    (grouping.after earlier).flush = grouping.flush.after earlier := by
  unfold Grouping.flush Grouping.after
  simp only [List.append_assoc]
  rfl

theorem Grouping.flushIfResolved_after (earlier : List ChatMessage) :
    (grouping.after earlier).flushIfResolved = grouping.flushIfResolved.after earlier := by
  show (if grouping.pendingIds = ∅ ∧ grouping.currentToolUses ≠ [] then
    (grouping.after earlier).flush else grouping.after earlier) = _
  unfold Grouping.flushIfResolved
  by_cases due : grouping.pendingIds = ∅ ∧ grouping.currentToolUses ≠ []
  · rw [if_pos due, if_pos due, Grouping.flush_after]
  · rw [if_neg due, if_neg due]

theorem Grouping.step_after (earlier : List ChatMessage) (block : ContentBlock) :
    (grouping.after earlier).step block = (grouping.step block).after earlier := by
  cases block with
  | toolResult id name content isError =>
    have captures : (grouping.after earlier).capture id (.toolResult id name content isError) =
        (grouping.capture id (.toolResult id name content isError)).after earlier := by
      unfold Grouping.capture Grouping.after
      split <;> rfl
    show ((grouping.after earlier).capture id _).flushIfResolved =
      (grouping.capture id _).flushIfResolved.after earlier
    rw [captures, Grouping.flushIfResolved_after]
  | _ => rfl

/-- **A pass goes on behind what was emitted as a pass of its own.** -/
theorem foldl_after (earlier : List ChatMessage) (blocks : List ContentBlock) :
    blocks.foldl Grouping.step (grouping.after earlier) =
      (blocks.foldl Grouping.step grouping).after earlier := by
  induction blocks generalizing grouping with
  | nil => rfl
  | cons block rest ih => rw [List.foldl_cons, Grouping.step_after, ih, List.foldl_cons]

theorem Grouping.finish_after (earlier : List ChatMessage) :
    (grouping.after earlier).finish = earlier ++ grouping.finish := by
  have flushed : (grouping.after earlier).flush.messages = earlier ++ grouping.flush.messages := by
    rw [Grouping.flush_after]
    rfl
  show (if grouping.currentToolUses ≠ [] then
      if grouping.batchHasResult then (grouping.after earlier).flush.messages
      else earlier ++ grouping.messages ++ [grouping.assistantMessage]
    else if grouping.currentText ≠ [] then
      earlier ++ grouping.messages ++ [⟨.assistant, grouping.currentText⟩]
    else earlier ++ grouping.messages) = _
  rw [flushed, List.append_assoc, List.append_assoc]
  unfold Grouping.finish
  split
  · split <;> rfl
  · split <;> rfl

theorem settled_of_allAnswered (answered : AllAnswered done) :
    (done.foldl Grouping.step .empty).currentToolUses = [] ∧
      ∀ id result, (done.foldl Grouping.step .empty).resultsById.lookup id ≠ some result := by
  have settles := Grouping.settles_empty.foldl done
  have nothing : (done.foldl Grouping.step .empty).pendingIds = ∅ := by
    refine Finset.eq_empty_of_forall_notMem fun id waits => ?_
    obtain ⟨before, use, after, split, own, unanswered⟩ := Grouping.pending_unanswered waits
    obtain ⟨result, member, answers⟩ := answered before use after id split own
    exact unanswered result member answers
  refine ⟨settles.idle nothing, fun id result found => ?_⟩
  have used := settles.captured id result found
  rw [settles.idle nothing] at used
  exact absurd used List.not_mem_nil

theorem shaped_of_append {held : List ContentBlock}
    (plain : ∀ block ∈ held, isPlain block = true) (shaped : Shaped (held ++ rest) message) :
    Shaped rest message := by
  obtain assistant | ⟨role, results⟩ := shaped
  · exact .inl assistant
  · refine .inr ⟨role, fun result member => ?_⟩
    obtain ⟨stored, kind⟩ | placeholder := results result member
    · refine .inl ⟨(List.mem_append.mp stored).resolve_left fun among => ?_, kind⟩
      have plainResult := plain result among
      rw [(result_kinds kind).1] at plainResult
      exact absurd plainResult (by simp)
    · exact .inr placeholder

/-- **What follows a cut is sent behind what precedes it.** -/
theorem grouped_cut (answered : AllAnswered done) :
    ∃ earlier later held, groupAssistantBlocks (done ++ rest) = earlier ++ later ∧
      (sent earlier).filter isPlain ++ held = done.filter isPlain ∧
      (sent later).filter isPlain = held ++ rest.filter isPlain ∧
      (sent earlier).filter ContentBlock.isToolUse = done.filter ContentBlock.isToolUse ∧
      (sent later).filter ContentBlock.isToolUse = rest.filter ContentBlock.isToolUse ∧
      ∀ message ∈ later, Shaped rest message := by
  have keeps : (done.foldl Grouping.step .empty).Keeps done := Grouping.keeps_empty.foldl done
  obtain ⟨idle, uncaptured⟩ := settled_of_allAnswered answered
  have whole : groupAssistantBlocks (done ++ rest) =
      (rest.foldl Grouping.step (done.foldl Grouping.step .empty)).finish := by
    rw [groupAssistantBlocks, List.foldl_append]
  rw [whole]
  generalize done.foldl Grouping.step .empty = grouping at keeps idle uncaptured
  -- The pass goes on with the plain blocks held, and nothing else.
  have start : Grouping.Keeps grouping.currentText { grouping with messages := [] } := by
    have own : grouping.currentText.filter isPlain = grouping.currentText :=
      List.filter_eq_self.mpr keeps.text
    refine ⟨keeps.text, keeps.uses, own.symm, ?_,
      fun id result found => absurd found (uncaptured id result),
      fun _ member => absurd member List.not_mem_nil⟩
    rw [filter_uses_of_plain keeps.text]
    exact idle
  obtain ⟨plain, uses, shaped⟩ := (start.foldl rest).finish
  have behind : grouping = Grouping.after grouping.messages { grouping with messages := [] } := by
    rw [Grouping.after, List.append_nil]
  refine ⟨grouping.messages, (rest.foldl Grouping.step { grouping with messages := [] }).finish,
    grouping.currentText, ?_, keeps.plain, ?_, ?_, ?_, fun message member => ?_⟩
  · conv_lhs => rw [behind, foldl_after, Grouping.finish_after]
  · rw [plain, List.filter_append, List.filter_eq_self.mpr keeps.text]
  · rw [← keeps.asked, idle, List.append_nil]
  · rw [uses, List.filter_append, filter_uses_of_plain keeps.text, List.nil_append]
  · exact shaped_of_append keeps.text (shaped message member)

end Cut

/-- **The order of what is grouped**: the plain blocks and the tool uses are sent in the order of
the list, each once, an assistant message's plain blocks first; and what is stored where every tool
use has its result is sent behind all that was stored before. -/
theorem grouped_ordered (blocks : List ContentBlock) :
    Ordered blocks (groupAssistantBlocks blocks) := by
  obtain ⟨plain, uses, shaped⟩ := (Grouping.keeps_empty.foldl blocks).finish
  refine ⟨plain, uses, shaped, ?_⟩
  rintro done rest rfl answered
  exact grouped_cut answered

theorem grouped_reorders : (¬ ∀ blocks : List ContentBlock,
      (sent (groupAssistantBlocks blocks)).filter (fun block => !block.isToolResult) =
        blocks.filter fun block => !block.isToolResult) ∧
    sent (groupAssistantBlocks [.toolUse "a" "read" .null, .toolUse "b" "list" .null,
        .toolResult "a" none [] none, .text "so far", .toolResult "b" none [] none]) =
      [.text "so far", .toolUse "a" "read" .null, .toolUse "b" "list" .null,
        .toolResult "a" none [] none, .toolResult "b" none [] none] := by
  refine ⟨fun kept => ?_, rfl⟩
  have same := kept [.toolUse "a" "read" .null, .text "let me look", .toolResult "a" none [] none]
  have swapped : [ContentBlock.text "let me look", .toolUse "a" "read" .null] =
      [.toolUse "a" "read" .null, .text "let me look"] := same
  cases swapped

end Ziee.Chat
