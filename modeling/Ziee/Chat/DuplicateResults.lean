/-
**Duplicate tool results** (`dedup_tool_results_by_id`, `streaming.rs`).

A provider takes one result for each tool use. Before a request goes out, the later results of an
id are dropped. An id is only unique within one tool batch, so the ids seen are forgotten at every
assistant message that opens a batch. A message is removed when the drop has emptied it.

* `Repeated` — a result with an earlier result of the same id in the same batch, by its place in the
  request.
* `dedupToolResultsById_exact` — the pass drops the repeated results and nothing else, leaves none,
  and changes nothing the second time or when there is none.
-/

import Ziee.Providers.Chat
import Ziee.Library.Repeats

namespace Ziee.Chat

open Ziee.Providers Ziee.Library.Repeats

def opensBatch (message : ChatMessage) : Bool :=
  message.role = .assistant && message.content.any ContentBlock.isToolUse

def scopeAt (seen : List String) (message : ChatMessage) : List String :=
  if opensBatch message then [] else seen

/-- The message without the results whose id is in scope, and whether that emptied it. -/
def strip (seen : List String) (message : ChatMessage) : ChatMessage × Bool :=
  let kept := (sift ContentBlock.toolResultId? (scopeAt seen message) message.content).kept
  ({ message with content := kept }, !message.content.isEmpty && kept.isEmpty)

/-- The loop over the messages, with the ids dropped. -/
def sweep (seen : List String) : List ChatMessage → List (ChatMessage × Bool) × List String
  | [] => ([], [])
  | message :: rest =>
    let sifted := sift ContentBlock.toolResultId? (scopeAt seen message) message.content
    let (swept, dropped) := sweep sifted.seen rest
    (strip seen message :: swept, sifted.dropped ++ dropped)

/-- **`dedup_tool_results_by_id`**: the messages it leaves and the ids it dropped. -/
def dedupToolResultsById (messages : List ChatMessage) : List ChatMessage × List String :=
  let (swept, dropped) := sweep [] messages
  ((swept.filter fun entry => !entry.2).map Prod.fst, dropped)

/-! ### Repeated results -/

def ResultAt (messages : List ChatMessage) (index place : Nat) (id : String) : Prop :=
  ∃ message block, messages[index]? = some message ∧ message.content[place]? = some block ∧
    block.toolResultId? = some id

def SameBatch (messages : List ChatMessage) (first later : Nat) : Prop :=
  ∀ index message, first < index → index ≤ later → messages[index]? = some message →
    opensBatch message = false

/-- **An earlier result of the same batch has this result's id.** -/
def Repeated (messages : List ChatMessage) (index place : Nat) : Prop :=
  ∃ id earlier before, (earlier < index ∨ earlier = index ∧ before < place) ∧
    SameBatch messages earlier index ∧ ResultAt messages earlier before id ∧
    ResultAt messages index place id

section Reference

open Classical in
noncomputable def keptContent (messages : List ChatMessage) (index : Nat)
    (content : List ContentBlock) : List ContentBlock :=
  (content.zipIdx.filter fun placed => ¬ Repeated messages index placed.2).map Prod.fst

open Classical in
noncomputable def repeatedIds (messages : List ChatMessage) (index : Nat)
    (content : List ContentBlock) : List String :=
  content.zipIdx.filterMap fun placed =>
    if Repeated messages index placed.2 then placed.1.toolResultId? else none

open Classical in
/-- **The messages without their repeated results**; a message that had nothing else is gone. -/
noncomputable def keptMessages (messages : List ChatMessage) : List ChatMessage :=
  messages.zipIdx.filterMap fun placed =>
    let content := keptContent messages placed.2 placed.1.content
    if placed.1.content ≠ [] ∧ content = [] then none
    else some { placed.1 with content := content }

/-- **The ids of the repeated results**, in order. -/
noncomputable def removedIds (messages : List ChatMessage) : List String :=
  messages.zipIdx.flatMap fun placed => repeatedIds messages placed.2 placed.1.content

end Reference

/-! ### The ids the pass has seen -/

/-- **What the pass has seen when it comes to a message**: the ids of the results since the last
message that opened a batch. -/
def Seen (messages : List ChatMessage) (index : Nat) (seen : List String) : Prop :=
  ∀ id, id ∈ seen ↔ ∃ earlier before, earlier < index ∧
    (∀ between message, earlier < between → between < index → messages[between]? = some message →
      opensBatch message = false) ∧
    ResultAt messages earlier before id

section AtMessage

variable {messages : List ChatMessage} {index : Nat} {seen : List String} {message : ChatMessage}

theorem Seen.mem_scopeAt (held : Seen messages index seen)
    (found : messages[index]? = some message) (id : String) :
    id ∈ scopeAt seen message ↔ ∃ earlier before, earlier < index ∧
      SameBatch messages earlier index ∧ ResultAt messages earlier before id := by
  unfold scopeAt
  split
  · rename_i opens
    refine iff_of_false List.not_mem_nil ?_
    rintro ⟨earlier, before, below, same, -⟩
    exact absurd (same index message below (Nat.le_refl _) found) (by rw [opens]; simp)
  · rename_i closed
    rw [held id]
    refine exists_congr fun earlier => exists_congr fun before => and_congr_right fun below =>
      and_congr_left fun _ => ⟨fun quiet between other after upTo there => ?_,
        fun same between other after earlier' there =>
          same between other after (Nat.le_of_lt earlier') there⟩
    obtain below' | rfl := Nat.lt_or_eq_of_le upTo
    · exact quiet between other after below' there
    · rw [found, Option.some.injEq] at there
      exact there ▸ Bool.not_eq_true _ ▸ closed

theorem Seen.repeated_iff (held : Seen messages index seen)
    (found : messages[index]? = some message) {place : Nat} {block : ContentBlock}
    (there : message.content[place]? = some block) :
    Repeated messages index place ↔ ∃ id, block.toolResultId? = some id ∧
      (id ∈ scopeAt seen message ∨
        id ∈ (message.content.take place).filterMap ContentBlock.toolResultId?) := by
  have here : ∀ id, ResultAt messages index place id ↔ block.toolResultId? = some id := by
    intro id
    refine ⟨?_, fun own => ⟨message, block, found, there, own⟩⟩
    rintro ⟨other, otherBlock, same, stands, own⟩
    rw [found, Option.some.injEq] at same
    subst same
    rw [there, Option.some.injEq] at stands
    exact stands ▸ own
  have inMessage : ∀ id, id ∈ (message.content.take place).filterMap ContentBlock.toolResultId? ↔
      ∃ before < place, ResultAt messages index before id := by
    intro id
    rw [List.mem_filterMap]
    constructor
    · rintro ⟨other, member, own⟩
      obtain ⟨before, stands⟩ := List.mem_iff_getElem?.mp member
      rw [List.getElem?_take] at stands
      split at stands
      · rename_i below
        exact ⟨before, below, message, other, found, stands, own⟩
      · exact absurd stands (by simp)
    · rintro ⟨before, below, other, otherBlock, same, stands, own⟩
      rw [found, Option.some.injEq] at same
      subst same
      exact ⟨otherBlock, List.mem_iff_getElem?.mpr ⟨before, by
        rw [List.getElem?_take, if_pos below, stands]⟩, own⟩
  constructor
  · rintro ⟨id, earlier, before, below | ⟨rfl, below⟩, same, first, own⟩
    · exact ⟨id, (here id).mp own, .inl ((held.mem_scopeAt found id).mpr
        ⟨earlier, before, below, same, first⟩)⟩
    · exact ⟨id, (here id).mp own, .inr ((inMessage id).mpr ⟨before, below, first⟩)⟩
  · rintro ⟨id, own, inScope | inside⟩
    · obtain ⟨earlier, before, below, same, first⟩ := (held.mem_scopeAt found id).mp inScope
      exact ⟨id, earlier, before, .inl below, same, first, (here id).mpr own⟩
    · obtain ⟨before, below, first⟩ := (inMessage id).mp inside
      exact ⟨id, index, before, .inr ⟨rfl, below⟩,
        fun between other after upTo => absurd (Nat.lt_of_lt_of_le after upTo) (Nat.lt_irrefl _),
        first, (here id).mpr own⟩

theorem Seen.sift_eq (held : Seen messages index seen) (found : messages[index]? = some message) :
    (sift ContentBlock.toolResultId? (scopeAt seen message) message.content).kept =
        keptContent messages index message.content ∧
      (sift ContentBlock.toolResultId? (scopeAt seen message) message.content).dropped =
        repeatedIds messages index message.content := by
  classical
  have placed : ∀ place block, message.content[place]? = some block →
      (Repeated messages index (0 + place) ↔ ∃ id, block.toolResultId? = some id ∧
        (id ∈ scopeAt seen message ∨
          id ∈ (message.content.take place).filterMap ContentBlock.toolResultId?)) := by
    intro place block there
    rw [Nat.zero_add]
    exact held.repeated_iff found there
  exact sift_positions ContentBlock.toolResultId? message.content (scopeAt seen message) 0 placed

/-- **The invariant is kept by every message.** -/
theorem Seen.next (held : Seen messages index seen) (found : messages[index]? = some message) :
    Seen messages (index + 1)
      (sift ContentBlock.toolResultId? (scopeAt seen message) message.content).seen := by
  intro id
  rw [mem_seen_sift, held.mem_scopeAt found id]
  constructor
  · rintro (⟨earlier, before, below, same, first⟩ | own)
    · exact ⟨earlier, before, Nat.lt_succ_of_lt below,
        fun between other after upTo => same between other after (Nat.le_of_lt_succ upTo), first⟩
    · obtain ⟨block, member, own⟩ := List.mem_filterMap.mp own
      obtain ⟨before, stands⟩ := List.mem_iff_getElem?.mp member
      exact ⟨index, before, Nat.lt_succ_self _,
        fun between other after upTo => absurd (Nat.lt_of_lt_of_le after (Nat.le_of_lt_succ upTo))
          (Nat.lt_irrefl _),
        message, block, found, stands, own⟩
  · rintro ⟨earlier, before, below, quiet, first⟩
    obtain before' | rfl := Nat.lt_or_eq_of_le (Nat.le_of_lt_succ below)
    · exact .inl ⟨earlier, before, before',
        fun between other after upTo => quiet between other after (Nat.lt_succ_of_le upTo), first⟩
    · obtain ⟨other, block, same, stands, own⟩ := first
      rw [found, Option.some.injEq] at same
      subst same
      exact .inr (List.mem_filterMap.mpr ⟨block, List.mem_iff_getElem?.mpr ⟨before, stands⟩, own⟩)

end AtMessage

/-! ### The pass against the reference -/

theorem sweep_eq {messages rest : List ChatMessage} {index : Nat} {seen : List String}
    (held : Seen messages index seen) (suffix : messages.drop index = rest) :
    (((sweep seen rest).1.filter fun entry => !entry.2).map Prod.fst =
        (rest.zipIdx index).filterMap fun placed =>
          let content := keptContent messages placed.2 placed.1.content
          open Classical in
          if placed.1.content ≠ [] ∧ content = [] then none
          else some { placed.1 with content := content }) ∧
      (sweep seen rest).2 = (rest.zipIdx index).flatMap fun placed =>
          repeatedIds messages placed.2 placed.1.content := by
  induction rest generalizing index seen with
  | nil => exact ⟨rfl, rfl⟩
  | cons message rest ih =>
    have found : messages[index]? = some message := by
      rw [← List.head?_drop, suffix, List.head?_cons]
    have later : messages.drop (index + 1) = rest := by
      rw [← List.tail_drop, suffix, List.tail_cons]
    obtain ⟨kept, dropped⟩ := ih (held.next found) later
    obtain ⟨content, ids⟩ := held.sift_eq found
    constructor
    · rw [List.zipIdx_cons, List.filterMap_cons]
      simp only [sweep, strip, content] at kept ⊢
      by_cases emptied : message.content ≠ [] ∧ keptContent messages index message.content = []
      · simp [emptied, kept]
      · rw [if_neg emptied]
        have stays : (!message.content.isEmpty &&
            (keptContent messages index message.content).isEmpty) = false := by
          simpa [List.isEmpty_iff] using emptied
        simp [stays, kept]
    · rw [List.zipIdx_cons, List.flatMap_cons, ← dropped, ← ids]
      rfl

/-- **The pass computes the reference.** -/
theorem dedupToolResultsById_eq (messages : List ChatMessage) :
    dedupToolResultsById messages = (keptMessages messages, removedIds messages) := by
  have start : Seen messages 0 [] := fun id => by simp
  obtain ⟨kept, dropped⟩ := sweep_eq start (List.drop_zero (l := messages))
  exact Prod.ext kept dropped

/-! ### The second pass -/

theorem opensBatch_kept (seen : List String) (message : ChatMessage) : opensBatch { message with
      content := (sift ContentBlock.toolResultId? seen message.content).kept } =
      opensBatch message := by
  unfold opensBatch
  congr 1
  rw [Bool.eq_iff_iff, List.any_eq_true, List.any_eq_true]
  constructor
  · rintro ⟨block, member, use⟩
    exact ⟨block, mem_of_mem_kept _ member, use⟩
  · rintro ⟨block, member, use⟩
    refine ⟨block, mem_kept_of_keyless _ member ?_, use⟩
    cases block <;> simp_all [ContentBlock.isToolUse, ContentBlock.toolResultId?]

theorem seen_of_emptied {seen : List String} {message : ChatMessage}
    (emptied : (strip seen message).2 = true) :
    (sift ContentBlock.toolResultId? (scopeAt seen message) message.content).seen = seen := by
  simp only [strip, Bool.and_eq_true, Bool.not_eq_true', List.isEmpty_iff] at emptied
  have closed : opensBatch message = false := by
    rw [← opensBatch_kept (scopeAt seen message) message, emptied.2]
    simp [opensBatch]
  rw [seen_of_kept_nil _ emptied.2, scopeAt, closed]
  rfl

/-- **Swept again, the messages that were left are left as they are.** -/
theorem sweep_swept (seen : List String) (messages : List ChatMessage) :
    sweep seen (((sweep seen messages).1.filter fun entry => !entry.2).map Prod.fst) =
      ((sweep seen messages).1.filter fun entry => !entry.2, []) := by
  induction messages generalizing seen with
  | nil => rfl
  | cons message rest ih =>
    have ih := ih (sift ContentBlock.toolResultId? (scopeAt seen message) message.content).seen
    cases emptied : (strip seen message).2 with
    | true =>
      rw [seen_of_emptied emptied] at ih
      simp only [sweep, List.filter_cons, emptied, seen_of_emptied emptied]
      simpa using ih
    | false =>
      -- The stripped message has the same scope, and its second sift keeps everything.
      have scope : scopeAt seen (strip seen message).1 = scopeAt seen message := by
        unfold scopeAt strip
        rw [opensBatch_kept]
      have again : sift ContentBlock.toolResultId? (scopeAt seen (strip seen message).1)
          (strip seen message).1.content = ⟨(strip seen message).1.content, [],
            (sift ContentBlock.toolResultId? (scopeAt seen message) message.content).seen⟩ := by
        rw [scope]
        exact sift_kept _ _ _
      have still : strip seen (strip seen message).1 = strip seen message := by
        refine Prod.ext ?_ ?_
        · simp only [strip] at again ⊢
          rw [again]
        · rw [emptied]
          simp only [strip] at again ⊢
          rw [again]
          simp
      simp only [sweep, List.filter_cons, emptied, Bool.not_false, if_true, List.map_cons, again,
        still, ih, List.nil_append]

theorem dedupToolResultsById_again (messages : List ChatMessage) :
    dedupToolResultsById (dedupToolResultsById messages).1 =
      ((dedupToolResultsById messages).1, []) := by
  simp only [dedupToolResultsById, sweep_swept, List.filter_filter, Bool.and_self]

/-! ### Without repeated results -/

theorem not_repeated_of_removedIds {messages : List ChatMessage} (empty : removedIds messages = [])
    (index place : Nat) : ¬ Repeated messages index place := by
  intro repeated
  obtain ⟨id, message, block, found, there, own⟩ : ∃ id, ResultAt messages index place id := by
    obtain ⟨id, -, -, -, -, -, own⟩ := repeated
    exact ⟨id, own⟩
  have listed : id ∈ removedIds messages := by
    refine List.mem_flatMap.mpr ⟨(message, index), List.mem_zipIdx_iff_getElem?.mpr found, ?_⟩
    refine List.mem_filterMap.mpr ⟨(block, place), List.mem_zipIdx_iff_getElem?.mpr there, ?_⟩
    rw [if_pos repeated, own]
  exact absurd (empty ▸ listed) List.not_mem_nil

theorem dedupToolResultsById_unrepeated {messages : List ChatMessage}
    (unique : ∀ index place, ¬ Repeated messages index place) :
    dedupToolResultsById messages = (messages, []) := by
  have content : ∀ index blocks, keptContent messages index blocks = blocks := by
    intro index blocks
    simp [keptContent, unique, List.zipIdx_map_fst]
  rw [dedupToolResultsById_eq]
  refine Prod.ext ?_ ?_
  · have stays : ∀ blocks : List ContentBlock, ¬ (blocks ≠ [] ∧ blocks = []) := fun blocks both =>
      both.1 both.2
    simp [keptMessages, content, stays]
  · simp [removedIds, repeatedIds, unique]

/-- **Duplicate tool results are removed exactly**: the pass drops the results whose id has an
earlier result in their batch and the messages that had nothing else, and reports their ids; it
leaves no repeated result, does nothing a second time, and nothing to a request without one. -/
theorem dedupToolResultsById_exact (messages : List ChatMessage) :
    dedupToolResultsById messages = (keptMessages messages, removedIds messages) ∧
      (∀ index place, ¬ Repeated (dedupToolResultsById messages).1 index place) ∧
      dedupToolResultsById (dedupToolResultsById messages).1 =
        ((dedupToolResultsById messages).1, []) ∧
      ((∀ index place, ¬ Repeated messages index place) →
        dedupToolResultsById messages = (messages, [])) := by
  refine ⟨dedupToolResultsById_eq messages, ?_, dedupToolResultsById_again messages,
    dedupToolResultsById_unrepeated⟩
  refine not_repeated_of_removedIds ?_
  have again := dedupToolResultsById_again messages
  rw [dedupToolResultsById_eq (dedupToolResultsById messages).1] at again
  exact congrArg Prod.snd again

end Ziee.Chat
