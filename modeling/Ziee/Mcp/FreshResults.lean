/-
**Fresh results take the places of their placeholders** (`replace_or_collect_tool_results`).

When a batch of tool calls is resumed, the request already has results for it: real ones, and
placeholders for the calls that waited. Each fresh result takes the place of the first result with
its id in the last batch; those that find none are left over.

* `batchStart`, `replaceSlot`, `replaceOrCollectToolResults` — the code.
* `replaceSlot_placed` — what one fresh result does to a batch in which others have been placed.
* **`replaceOrCollect_folded`** — **fresh results with different ids are folded in so**.
-/

import Ziee.Providers.Chat

namespace Ziee.Mcp

open Ziee.Providers

def carriesToolUse (message : ChatMessage) : Bool :=
  message.role == .assistant && message.content.any ContentBlock.isToolUse

/-- `Iterator::rposition`: the place of the last such item. -/
def rposition {α : Type} (holds : α → Bool) : List α → Option Nat
  | [] => none
  | item :: rest =>
    match rposition holds rest with
    | some place => some (place + 1)
    | none => if holds item then some 0 else none

/-- Where the last batch begins; behind all messages, when there is none. -/
def batchStart (messages : List ChatMessage) : Nat :=
  (rposition carriesToolUse messages).getD messages.length

def replaceBlock (id : String) (fresh : ContentBlock) :
    List ContentBlock → Option (List ContentBlock)
  | [] => none
  | block :: rest =>
    if block.toolResultId? = some id then some (fresh :: rest)
    else (replaceBlock id fresh rest).map (block :: ·)

def replaceSlot (id : String) (fresh : ContentBlock) : List ChatMessage → Option (List ChatMessage)
  | [] => none
  | message :: rest =>
    match replaceBlock id fresh message.content with
    | some content => some ({ message with content } :: rest)
    | none => (replaceSlot id fresh rest).map (message :: ·)

def foldFresh (start : Nat) : List ContentBlock → List ChatMessage →
    List ChatMessage × List ContentBlock
  | [], messages => (messages, [])
  | block :: fresh, messages =>
    match block.toolResultId? with
    | none =>
      let (messages, leftovers) := foldFresh start fresh messages
      (messages, block :: leftovers)
    | some id =>
      match replaceSlot id block (messages.drop start) with
      | some batch => foldFresh start fresh (messages.take start ++ batch)
      | none =>
        let (messages, leftovers) := foldFresh start fresh messages
        (messages, block :: leftovers)

/-- **`replace_or_collect_tool_results`**: the request afterwards, and the leftovers. -/
def replaceOrCollectToolResults (messages : List ChatMessage) (fresh : List ContentBlock) :
    List ChatMessage × List ContentBlock :=
  foldFresh (batchStart messages) fresh messages

theorem rposition_none {α : Type} {holds : α → Bool} {items : List α}
    (absent : rposition holds items = none) : ∀ item ∈ items, holds item = false := by
  induction items with
  | nil => simp
  | cons item rest ih =>
    rw [rposition] at absent
    cases later : rposition holds rest with
    | some place => simp [later] at absent
    | none =>
      simp only [later] at absent
      refine List.forall_mem_cons.mpr ⟨?_, ih later⟩
      by_contra found
      simp [found] at absent

theorem rposition_some {α : Type} {holds : α → Bool} {items : List α} {place : Nat}
    (found : rposition holds items = some place) :
    ∃ before item after, items = before ++ item :: after ∧ place = before.length ∧
      holds item = true ∧ ∀ other ∈ after, holds other = false := by
  induction items generalizing place with
  | nil => cases found
  | cons item rest ih =>
    rw [rposition] at found
    cases later : rposition holds rest with
    | some next =>
      rw [later] at found
      cases found
      obtain ⟨before, last, after, rfl, rfl, there, none⟩ := ih later
      exact ⟨item :: before, last, after, rfl, rfl, there, none⟩
    | none =>
      simp only [later] at found
      obtain ⟨here, same⟩ := Option.ite_none_right_eq_some.mp found
      cases same
      exact ⟨[], item, rest, rfl, rfl, here, rposition_none later⟩

/-- **The last batch** begins at the last assistant message with a tool call. -/
theorem batchStart_spec (messages : List ChatMessage) :
    (∃ before call after, messages = before ++ call :: after ∧
        batchStart messages = before.length ∧ carriesToolUse call = true ∧
          ∀ message ∈ after, carriesToolUse message = false) ∨
      batchStart messages = messages.length ∧
        ∀ message ∈ messages, carriesToolUse message = false := by
  unfold batchStart
  cases found : rposition carriesToolUse messages with
  | some place => exact Or.inl (rposition_some found)
  | none => exact Or.inr ⟨rfl, rposition_none found⟩

theorem batchStart_le (messages : List ChatMessage) : batchStart messages ≤ messages.length := by
  rcases batchStart_spec messages with ⟨before, call, after, same, start, -⟩ | ⟨start, -⟩
  · rw [start, same, List.length_append]
    exact Nat.le_add_right _ _
  · exact Nat.le_of_eq start

/-! ### What stands in a place afterwards -/

def isResult (id : String) (block : ContentBlock) : Bool := block.toolResultId? == some id

/-- **What stands in a place afterwards**: a result whose id has not come before in the batch gives
way to the fresh result with this id. -/
def answer (fresh earlier : List ContentBlock) (block : ContentBlock) : ContentBlock :=
  match block.toolResultId? with
  | none => block
  | some id => if earlier.any (isResult id) then block else (fresh.find? (isResult id)).getD block

/-- The blocks of one message, behind those that came earlier. -/
def answers (fresh : List ContentBlock) : List ContentBlock → List ContentBlock → List ContentBlock
  | _, [] => []
  | earlier, block :: rest => answer fresh earlier block :: answers fresh (earlier ++ [block]) rest

/-- The messages of the batch. -/
def answered (fresh : List ContentBlock) : List ContentBlock → List ChatMessage → List ChatMessage
  | _, [] => []
  | earlier, message :: rest =>
    { message with content := answers fresh earlier message.content } ::
      answered fresh (earlier ++ message.content) rest

section Places

variable {fresh done earlier blocks : List ContentBlock} {block new : ContentBlock} {id : String}

theorem isResult_iff : isResult id block = true ↔ block.toolResultId? = some id := beq_iff_eq

theorem answer_toolResultId? (fresh earlier : List ContentBlock) (block : ContentBlock) :
    (answer fresh earlier block).toolResultId? = block.toolResultId? := by
  unfold answer
  cases keyed : block.toolResultId? with
  | none => exact keyed
  | some id =>
    dsimp only
    split
    · exact keyed
    · cases found : fresh.find? (isResult id) with
      | none => exact keyed
      | some result => exact isResult_iff.mp (List.find?_some found)

theorem answer_more (other : ∀ id, new.toolResultId? = some id →
      earlier.any (isResult id) = true ∨ block.toolResultId? ≠ some id) :
    answer (done ++ [new]) earlier block = answer done earlier block := by
  unfold answer
  cases keyed : block.toolResultId? with
  | none => rfl
  | some id =>
    dsimp only
    cases seen : earlier.any (isResult id) with
    | true => rfl
    | false =>
      have unlike : isResult id new = false := by
        rw [Bool.eq_false_iff]
        intro like
        rcases other id (isResult_iff.mp like) with before | different
        · rw [seen] at before
          cases before
        · exact different keyed
      rw [List.find?_append, List.find?_singleton, unlike]
      simp

theorem answer_first (keyed : new.toolResultId? = some id) (like : block.toolResultId? = some id)
    (first : earlier.any (isResult id) = false) (distinct : done.any (isResult id) = false) :
    answer (done ++ [new]) earlier block = new := by
  have none : done.find? (isResult id) = none := by
    rw [List.find?_eq_none]
    exact fun result member => by simpa using List.any_eq_false.mp distinct result member
  unfold answer
  rw [like]
  dsimp only
  rw [first, List.find?_append, none, List.find?_singleton, isResult_iff.mpr keyed]
  rfl

theorem answers_more_seen (seen : ∀ id, new.toolResultId? = some id →
      earlier.any (isResult id) = true) (blocks : List ContentBlock) :
    answers (done ++ [new]) earlier blocks = answers done earlier blocks := by
  induction blocks generalizing earlier with
  | nil => rfl
  | cons block rest ih =>
    rw [answers, answers, answer_more fun id keyed => Or.inl (seen id keyed), ih]
    intro id keyed
    rw [List.any_append, seen id keyed, Bool.true_or]

theorem answers_more_absent (absent : ∀ id, new.toolResultId? = some id →
      blocks.any (isResult id) = false) (earlier : List ContentBlock) :
    answers (done ++ [new]) earlier blocks = answers done earlier blocks := by
  induction blocks generalizing earlier with
  | nil => rfl
  | cons block rest ih =>
    have head : ∀ id, new.toolResultId? = some id → block.toolResultId? ≠ some id := by
      intro id keyed like
      have none := absent id keyed
      rw [List.any_cons, isResult_iff.mpr like] at none
      cases none
    have tail : ∀ id, new.toolResultId? = some id → rest.any (isResult id) = false := by
      intro id keyed
      have none := absent id keyed
      rw [List.any_cons, Bool.or_eq_false_iff] at none
      exact none.2
    rw [answers, answers, answer_more fun id keyed => Or.inr (head id keyed), ih tail]

/-- **One fresh result in one message** whose other places have been given away. -/
theorem replaceBlock_answers (keyed : new.toolResultId? = some id)
    (distinct : done.any (isResult id) = false) (first : earlier.any (isResult id) = false)
    (blocks : List ContentBlock) : replaceBlock id new (answers done earlier blocks) =
      if blocks.any (isResult id) then some (answers (done ++ [new]) earlier blocks) else none := by
  induction blocks generalizing earlier with
  | nil => rfl
  | cons block rest ih =>
    rw [answers, replaceBlock, answer_toolResultId?, List.any_cons]
    by_cases like : block.toolResultId? = some id
    · have seen : ∀ other, new.toolResultId? = some other →
          (earlier ++ [block]).any (isResult other) = true := by
        intro other same
        obtain rfl := Option.some.inj (keyed.symm.trans same)
        rw [List.any_append, List.any_cons, isResult_iff.mpr like]
        simp
      rw [if_pos like, isResult_iff.mpr like, Bool.true_or, if_pos rfl, answers,
        answer_first keyed like first distinct, answers_more_seen seen]
    · have unlike : isResult id block = false := Bool.eq_false_iff.mpr (mt isResult_iff.mp like)
      have still : (earlier ++ [block]).any (isResult id) = false := by
        rw [List.any_append, first, List.any_cons, unlike]
        rfl
      have same : answer (done ++ [new]) earlier block = answer done earlier block := by
        refine answer_more fun other keyed' => Or.inr ?_
        obtain rfl := Option.some.inj (keyed.symm.trans keyed')
        exact like
      rw [if_neg like, unlike, Bool.false_or, ih still, answers, same]
      cases rest.any (isResult id) <;> rfl

/-! ### The whole batch -/

def blocksOf (batch : List ChatMessage) : List ContentBlock := batch.flatMap (·.content)

theorem answered_more_seen (seen : ∀ id, new.toolResultId? = some id →
      earlier.any (isResult id) = true) (batch : List ChatMessage) :
    answered (done ++ [new]) earlier batch = answered done earlier batch := by
  induction batch generalizing earlier with
  | nil => rfl
  | cons message rest ih =>
    rw [answered, answered, answers_more_seen seen, ih]
    intro id keyed
    rw [List.any_append, seen id keyed, Bool.true_or]

theorem answered_more_absent {batch : List ChatMessage} (absent : ∀ id,
      new.toolResultId? = some id → (blocksOf batch).any (isResult id) = false)
    (earlier : List ContentBlock) :
    answered (done ++ [new]) earlier batch = answered done earlier batch := by
  induction batch generalizing earlier with
  | nil => rfl
  | cons message rest ih =>
    have both : ∀ id, new.toolResultId? = some id →
        message.content.any (isResult id) = false ∧ (blocksOf rest).any (isResult id) = false := by
      intro id keyed
      have none := absent id keyed
      rw [blocksOf, List.flatMap_cons, List.any_append, Bool.or_eq_false_iff] at none
      exact none
    rw [answered, answered, answers_more_absent fun id keyed => (both id keyed).1,
      ih fun id keyed => (both id keyed).2]

theorem answered_nil (earlier : List ContentBlock) (batch : List ChatMessage) :
    answered [] earlier batch = batch := by
  have same : ∀ (earlier blocks : List ContentBlock), answers [] earlier blocks = blocks := by
    intro earlier blocks
    induction blocks generalizing earlier with
    | nil => rfl
    | cons block rest ih =>
      have kept : answer [] earlier block = block := by
        unfold answer
        split
        · rfl
        · split <;> rfl
      rw [answers, ih, kept]
  induction batch generalizing earlier with
  | nil => rfl
  | cons message rest ih => rw [answered, same, ih]

/-- **One fresh result in a batch** in which others have been placed. -/
theorem replaceSlot_answered (keyed : new.toolResultId? = some id)
    (distinct : done.any (isResult id) = false) (first : earlier.any (isResult id) = false)
    (batch : List ChatMessage) : replaceSlot id new (answered done earlier batch) =
      if (blocksOf batch).any (isResult id) then some (answered (done ++ [new]) earlier batch)
      else none := by
  induction batch generalizing earlier with
  | nil => rfl
  | cons message rest ih =>
    rw [answered, replaceSlot, replaceBlock_answers keyed distinct first, blocksOf,
      List.flatMap_cons, List.any_append, ← blocksOf]
    cases here : message.content.any (isResult id) with
    | true =>
      have seen : ∀ other, new.toolResultId? = some other →
          (earlier ++ message.content).any (isResult other) = true := by
        intro other same
        obtain rfl := Option.some.inj (keyed.symm.trans same)
        rw [List.any_append, here, Bool.or_true]
      rw [if_pos rfl, Bool.true_or, if_pos rfl, answered, answered_more_seen seen]
    | false =>
      have still : (earlier ++ message.content).any (isResult id) = false := by
        rw [List.any_append, first, here]
        rfl
      have same : answers (done ++ [new]) earlier message.content =
          answers done earlier message.content := by
        refine answers_more_absent (fun other keyed' => ?_) earlier
        obtain rfl := Option.some.inj (keyed.symm.trans keyed')
        exact here
      rw [if_neg Bool.false_ne_true, Bool.false_or, answered, same]
      dsimp only
      rw [ih still]
      cases (blocksOf rest).any (isResult id) <;> rfl

def isLeft (batch : List ChatMessage) (block : ContentBlock) : Bool :=
  match block.toolResultId? with
  | none => true
  | some id => !(blocksOf batch).any (isResult id)

/-- **The loop**, from a batch in which some results have been placed. -/
theorem foldFresh_eq (before batch : List ChatMessage)
    (distinct : ((done ++ fresh).filterMap ContentBlock.toolResultId?).Nodup) :
    foldFresh before.length fresh (before ++ answered done [] batch) =
      (before ++ answered (done ++ fresh) [] batch, fresh.filter (isLeft batch)) := by
  induction fresh generalizing done with
  | nil => rw [foldFresh, List.append_nil, List.filter_nil]
  | cons new fresh ih =>
    have again : done ++ new :: fresh = (done ++ [new]) ++ fresh := by simp
    have later := @ih (done ++ [new]) (by rwa [← again])
    rw [foldFresh, again, List.filter_cons]
    cases keyed : new.toolResultId? with
    | none =>
      have same : answered (done ++ [new]) [] batch = answered done [] batch :=
        answered_more_seen (fun id other => by rw [keyed] at other; cases other) batch
      have left : isLeft batch new = true := by rw [isLeft, keyed]
      rw [← same, if_pos left, later]
    | some id =>
      have fresh_id : done.any (isResult id) = false := by
        rw [List.any_eq_false]
        intro result member like
        rw [again, List.append_assoc, List.filterMap_append, List.nodup_append] at distinct
        refine distinct.2.2 id (List.mem_filterMap.mpr ⟨result, member, isResult_iff.mp like⟩) id
          (List.mem_filterMap.mpr ⟨new, by simp, keyed⟩) rfl
      dsimp only
      rw [List.drop_left, List.take_left, replaceSlot_answered keyed fresh_id rfl]
      cases there : (blocksOf batch).any (isResult id) with
      | true =>
        have placed : isLeft batch new = false := by rw [isLeft, keyed]; simp [there]
        rw [if_pos rfl, placed, if_neg Bool.false_ne_true]
        exact later
      | false =>
        have left : isLeft batch new = true := by rw [isLeft, keyed]; simp [there]
        have same : answered (done ++ [new]) [] batch = answered done [] batch := by
          refine answered_more_absent (fun other keyed' => ?_) []
          obtain rfl := Option.some.inj (keyed.symm.trans keyed')
          exact there
        rw [if_neg Bool.false_ne_true, left, if_pos rfl, ← same, later]

theorem replaceOrCollect_eq (messages : List ChatMessage)
    (distinct : (fresh.filterMap ContentBlock.toolResultId?).Nodup) :
    replaceOrCollectToolResults messages fresh = (messages.take (batchStart messages) ++
          answered fresh [] (messages.drop (batchStart messages)),
        fresh.filter (isLeft (messages.drop (batchStart messages)))) := by
  have size : (messages.take (batchStart messages)).length = batchStart messages := by
    rw [List.length_take, Nat.min_eq_left (batchStart_le messages)]
  have whole := @foldFresh_eq fresh [] (messages.take (batchStart messages))
    (messages.drop (batchStart messages)) distinct
  rwa [size, answered_nil, List.take_append_drop, List.nil_append] at whole

end Places

/-! ### Place by place -/

theorem getElem?_answers (fresh earlier blocks : List ContentBlock) (place : Nat) :
    (answers fresh earlier blocks)[place]? =
      blocks[place]?.map (answer fresh (earlier ++ blocks.take place)) := by
  induction blocks generalizing earlier place with
  | nil => rfl
  | cons block rest ih =>
    cases place with
    | zero => simp [answers]
    | succ place =>
      rw [answers, List.getElem?_cons_succ, List.getElem?_cons_succ, ih, List.take_succ_cons,
        List.append_assoc]
      rfl

theorem getElem?_answered (fresh earlier : List ContentBlock) (batch : List ChatMessage)
    (place : Nat) : (answered fresh earlier batch)[place]? =
      batch[place]?.map fun message => { message with
        content := answers fresh (earlier ++ blocksOf (batch.take place)) message.content } := by
  induction batch generalizing earlier place with
  | nil => rfl
  | cons message rest ih =>
    cases place with
    | zero => simp [answered, blocksOf]
    | succ place =>
      rw [answered, List.getElem?_cons_succ, List.getElem?_cons_succ, ih, List.take_succ_cons,
        blocksOf, blocksOf, List.flatMap_cons, List.append_assoc]

/-- **The fresh results are folded into the last batch**: nothing else changes, the messages and
their blocks keep number and order, each block is what `answer` says of the blocks before it in the
batch, and the results that no block of the batch has the id of are left over. -/
structure Folded (messages : List ChatMessage) (fresh : List ContentBlock)
    (messages' : List ChatMessage) (leftovers : List ContentBlock) : Prop where
  count : messages'.length = messages.length
  before : messages'.take (batchStart messages) = messages.take (batchStart messages)
  shape : ∀ (place : Nat) (message message' : ChatMessage), messages[place]? = some message →
    messages'[place]? = some message' →
      message'.role = message.role ∧ message'.content.length = message.content.length
  answers : ∀ (place index : Nat) (message message' : ChatMessage) (block : ContentBlock),
    messages[batchStart messages + place]? = some message →
      messages'[batchStart messages + place]? = some message' →
        message.content[index]? = some block → message'.content[index]? = some (answer fresh
            (blocksOf ((messages.drop (batchStart messages)).take place) ++
              message.content.take index) block)
  leftovers : leftovers = fresh.filter (isLeft (messages.drop (batchStart messages)))

@[simp] theorem length_answers (fresh earlier blocks : List ContentBlock) :
    (answers fresh earlier blocks).length = blocks.length := by
  induction blocks generalizing earlier with
  | nil => rfl
  | cons block rest ih => rw [answers, List.length_cons, List.length_cons, ih]

@[simp] theorem length_answered (fresh earlier : List ContentBlock) (batch : List ChatMessage) :
    (answered fresh earlier batch).length = batch.length := by
  induction batch generalizing earlier with
  | nil => rfl
  | cons message rest ih => rw [answered, List.length_cons, List.length_cons, ih]

/-- **Fresh results with different ids are folded into the last batch.** -/
theorem replaceOrCollect_folded (messages : List ChatMessage) (fresh : List ContentBlock)
    (distinct : (fresh.filterMap ContentBlock.toolResultId?).Nodup) :
    Folded messages fresh (replaceOrCollectToolResults messages fresh).1
      (replaceOrCollectToolResults messages fresh).2 := by
  have size : (messages.take (batchStart messages)).length = batchStart messages := by
    rw [List.length_take, Nat.min_eq_left (batchStart_le messages)]
  -- Behind the start, the messages are those of the batch.
  have inside : ∀ place, (messages.take (batchStart messages) ++
      answered fresh [] (messages.drop (batchStart messages)))[batchStart messages + place]? =
        (answered fresh [] (messages.drop (batchStart messages)))[place]? := by
    intro place
    rw [List.getElem?_append_right (by omega), size, Nat.add_sub_cancel_left]
  rw [replaceOrCollect_eq messages distinct]
  constructor
  · rw [List.length_append, length_answered, ← List.length_append, List.take_append_drop]
  · exact List.take_left' size
  · intro place message message' there there'
    dsimp only at there'
    rcases Nat.lt_or_ge place (batchStart messages) with early | late
    · rw [List.getElem?_append_left (by omega), List.getElem?_take_of_lt early, there] at there'
      obtain rfl := Option.some.inj there'
      exact ⟨rfl, rfl⟩
    · obtain ⟨back, rfl⟩ := Nat.exists_eq_add_of_le late
      rw [inside, getElem?_answered, List.getElem?_drop, there] at there'
      obtain rfl := Option.some.inj there'
      exact ⟨rfl, length_answers _ _ _⟩
  · intro place index message message' block there there' here
    dsimp only at there'
    rw [inside, getElem?_answered, List.getElem?_drop, there] at there'
    obtain rfl := Option.some.inj there'
    rw [getElem?_answers, here, List.nil_append]
    rfl
  · rfl

/-- A request with two results of one id in its last batch, one fresh result of that id. -/
def doubled : List ChatMessage :=
  [⟨.assistant, [.toolUse "B" "run" (.object [])]⟩,
    ⟨.tool, [.toolResult "B" none [] none, .toolResult "B" none [] none]⟩]

def freshB : ContentBlock := .toolResult "B" none [.text "done"] none

theorem doubled_folded : Folded doubled [freshB] (replaceOrCollectToolResults doubled [freshB]).1
    (replaceOrCollectToolResults doubled [freshB]).2 :=
  replaceOrCollect_folded doubled [freshB] (by decide)

theorem second_result_stays : ∃ message ∈ (replaceOrCollectToolResults doubled [freshB]).1,
    ∃ block ∈ message.content, block.toolResultId? = freshB.toolResultId? ∧ block ≠ freshB := by
  have result : (replaceOrCollectToolResults doubled [freshB]).1 =
      [⟨.assistant, [.toolUse "B" "run" (.object [])]⟩,
        ⟨.tool, [freshB, .toolResult "B" none [] none]⟩] := rfl
  refine ⟨⟨.tool, [freshB, .toolResult "B" none [] none]⟩, ?_, .toolResult "B" none [] none, ?_,
    rfl, ?_⟩
  · rw [result]
    exact List.mem_cons_of_mem _ (List.mem_singleton_self _)
  · exact List.mem_cons_of_mem _ (List.mem_singleton_self _)
  · intro same
    cases same

end Ziee.Mcp
