/-
**Clearing old tool results** (`clear_old_tool_results`, `streaming.rs`).

When a request is estimated above a threshold, the content of its older tool results gives way to a
placeholder, and the text of an oversized one among the last `keep_last` is cut and marked. The
placeholder and the marker tell the model how to get the result back, and have their own length,
whatever they stand for.

* `contextChars_cleared` — what is written and what is taken, in characters.
* `clearOldToolResults_well_iff` — the request grows no larger and a second pass does nothing, and
  exactly when; everything else in the request is as it was, always.
-/

import Mathlib.Data.List.Forall2
import Ziee.Providers.Chat
import Ziee.Library.MarkedPlaces

namespace Ziee.Chat

open Ziee.Providers Ziee.Library.MarkedPlaces

/-- `tokens_from_chars`: `ceil(chars / 4)`. -/
def tokensFromChars (chars : Nat) : Nat := (chars + 3) / 4

def clearToolResultsTokenThreshold : Nat := 30000

def keepLastToolResults : Nat := 6

def maxKeptToolResultChars : Nat := 8000

def keptTruncationMarker (toolUseId : String) : String :=
  "\n[…truncated to save context; call get_tool_result(tool_use_id=\"" ++ toolUseId ++
    "\") for the full result]"

/-- What an older result's content gives way to. -/
def clearedPlaceholder (toolUseId : String) : String :=
  "[tool result cleared to save context — call get_tool_result(tool_use_id=\"" ++ toolUseId ++
    "\") to retrieve the full result]"

mutual

def blockTextChars : ContentBlock → Nat
  | .text text => text.length
  | .thinking thinking _ => thinking.length
  | .toolUse _ _ input => input.render.length
  | .toolResult _ _ content _ => contentTextChars content
  | .redactedThinking _ | .image _ | .document _ => 0

def contentTextChars : List ContentBlock → Nat
  | [] => 0
  | block :: rest => blockTextChars block + contentTextChars rest

end

def flatText : ContentBlock → String
  | .text text => text
  | .thinking thinking _ => thinking
  | .toolUse _ _ input => input.render
  | .toolResult .. | .redactedThinking _ | .image _ | .document _ => ""

def flatten (content : List ContentBlock) : String := String.join (content.map flatText)

def truncateKeptResult (content : List ContentBlock) (toolUseId : String) : String :=
  String.ofList ((flatten content).toList.take maxKeptToolResultChars) ++
    keptTruncationMarker toolUseId

def isImage : ContentBlock → Bool
  | .image _ => true
  | _ => false

def clearOlder : ContentBlock → ContentBlock
  | .toolResult toolUseId name _ isError =>
    .toolResult toolUseId name [.text (clearedPlaceholder toolUseId)] isError
  | block => block

def capKept : ContentBlock → ContentBlock
  | .toolResult toolUseId name content isError =>
    if maxKeptToolResultChars < (content.map blockTextChars).sum then
      .toolResult toolUseId name
        (.text (truncateKeptResult content toolUseId) :: content.filter isImage) isError
    else
      .toolResult toolUseId name content isError
  | block => block

def blocks : Holding ChatMessage ContentBlock where
  contents message := message.content
  refill message content := { message with content := content }
  contents_refill _ _ := rfl
  refill_contents _ := rfl
  refill_refill _ _ _ := rfl

def contextChars (messages : List ChatMessage) : Nat :=
  ((messages.flatMap ChatMessage.content).map blockTextChars).sum

/-- The estimate the threshold is compared with. -/
def contextTokens (messages : List ChatMessage) : Nat := tokensFromChars (contextChars messages)

def clearOldToolResults (messages : List ChatMessage) (thresholdTokens keepLast : Nat) :
    List ChatMessage :=
  if contextTokens messages ≤ thresholdTokens then messages
  else
    let positions := places blocks ContentBlock.isToolResult messages
    let clearUntil := positions.length - keepLast
    let cleared := (positions.take clearUntil).foldl (changeAt blocks clearOlder) messages
    (positions.drop clearUntil).foldl (changeAt blocks capKept) cleared

/-! ### The pass as a walk -/

def results (messages : List ChatMessage) : List ContentBlock :=
  (messages.flatMap ChatMessage.content).filter ContentBlock.isToolResult

/-- All but the last `keepLast` results. -/
def olderResults (messages : List ChatMessage) (keepLast : Nat) : List ContentBlock :=
  (results messages).take ((results messages).length - keepLast)

/-- The last `keepLast` results. -/
def keptResults (messages : List ChatMessage) (keepLast : Nat) : List ContentBlock :=
  (results messages).drop ((results messages).length - keepLast)

def clearedMessages (messages : List ChatMessage) (keepLast : Nat) : List ChatMessage :=
  walkRows blocks ContentBlock.isToolResult clearOlder capKept
    ((results messages).length - keepLast) messages

section Walk

variable {messages : List ChatMessage} {thresholdTokens keepLast : Nat}

theorem contentTextChars_eq (content : List ContentBlock) :
    contentTextChars content = (content.map blockTextChars).sum := by
  induction content with
  | nil => rfl
  | cons block rest ih => rw [contentTextChars, ih, List.map_cons, List.sum_cons]

@[simp] theorem isToolResult_clearOlder (block : ContentBlock) :
    (clearOlder block).isToolResult = block.isToolResult := by
  cases block <;> rfl

@[simp] theorem isToolResult_capKept (block : ContentBlock) :
    (capKept block).isToolResult = block.isToolResult := by
  cases block with
  | toolResult toolUseId name content isError =>
    rw [capKept]
    split <;> rfl
  | _ => rfl

theorem clearOldToolResults_within (within : contextTokens messages ≤ thresholdTokens) :
    clearOldToolResults messages thresholdTokens keepLast = messages := if_pos within

/-- **Above the threshold, the pass is one walk along the messages.** -/
theorem clearOldToolResults_eq (above : thresholdTokens < contextTokens messages) :
    clearOldToolResults messages thresholdTokens keepLast = clearedMessages messages keepLast := by
  rw [clearOldToolResults, if_neg (Nat.not_le.mpr above)]
  dsimp only
  rw [changeAt_places, length_places, List.countP_eq_length_filter]
  rfl

theorem flatMap_cleared : (clearedMessages messages keepLast).flatMap ChatMessage.content =
      walk ContentBlock.isToolResult clearOlder capKept ((results messages).length - keepLast)
        (messages.flatMap ChatMessage.content) :=
  @flatMap_walkRows _ _ blocks _ clearOlder capKept _ messages

theorem results_cleared : results (clearedMessages messages keepLast) =
      (olderResults messages keepLast).map clearOlder ++
        (keptResults messages keepLast).map capKept := by
  rw [results, flatMap_cleared]
  exact filter_walk _ _ _ isToolResult_clearOlder isToolResult_capKept _ _

theorem length_olderResults :
    (olderResults messages keepLast).length = (results messages).length - keepLast := by
  rw [olderResults, List.length_take]
  omega

theorem length_results_cleared :
    (results (clearedMessages messages keepLast)).length = (results messages).length := by
  rw [results_cleared, List.length_append, List.length_map, List.length_map,
    ← List.length_append, olderResults, keptResults, List.take_append_drop]

theorem olderResults_cleared : olderResults (clearedMessages messages keepLast) keepLast =
      (olderResults messages keepLast).map clearOlder := by
  rw [olderResults, length_results_cleared, results_cleared]
  exact List.take_left' (by rw [List.length_map, length_olderResults])

theorem keptResults_cleared : keptResults (clearedMessages messages keepLast) keepLast =
      (keptResults messages keepLast).map capKept := by
  rw [keptResults, length_results_cleared, results_cleared]
  exact List.drop_left' (by rw [List.length_map, length_olderResults])

end Walk

/-! ### What is written and what is taken -/

def ownChars : ContentBlock → Nat
  | .toolResult _ _ content _ => (flatten content).length
  | _ => 0

def placeholderChars : ContentBlock → Nat
  | .toolResult toolUseId .. => (clearedPlaceholder toolUseId).length
  | _ => 0

def markerChars : ContentBlock → Nat
  | .toolResult toolUseId .. => (keptTruncationMarker toolUseId).length
  | _ => 0

def Oversized (block : ContentBlock) : Prop := maxKeptToolResultChars < blockTextChars block

instance (block : ContentBlock) : Decidable (Oversized block) :=
  inferInstanceAs (Decidable (_ < _))

/-- The marker of a kept result, where it is cut. -/
def capWritten (block : ContentBlock) : Nat := if Oversized block then markerChars block else 0

/-- What cutting a kept result takes away: all but the first characters of its own text. -/
def capTaken (block : ContentBlock) : Nat :=
  if Oversized block then blockTextChars block - min maxKeptToolResultChars (ownChars block) else 0

/-- The placeholders of the older results and the markers of the oversized kept ones. -/
def written (messages : List ChatMessage) (keepLast : Nat) : Nat :=
  ((olderResults messages keepLast).map placeholderChars).sum +
    ((keptResults messages keepLast).map capWritten).sum

def taken (messages : List ChatMessage) (keepLast : Nat) : Nat :=
  ((olderResults messages keepLast).map blockTextChars).sum +
    ((keptResults messages keepLast).map capTaken).sum

def plainChars (messages : List ChatMessage) : Nat :=
  (((messages.flatMap ChatMessage.content).filter fun block =>
    !block.isToolResult).map blockTextChars).sum

def cutContent (content : List ContentBlock) (toolUseId : String) : List ContentBlock :=
  .text (truncateKeptResult content toolUseId) :: content.filter isImage

section Cut

variable {content : List ContentBlock} {toolUseId : String} {block : ContentBlock}

theorem capKept_oversized {name : Option String} {isError : Option Bool}
    (excess : Oversized (.toolResult toolUseId name content isError)) :
    capKept (.toolResult toolUseId name content isError) =
      .toolResult toolUseId name (cutContent content toolUseId) isError := by
  rw [Oversized, blockTextChars, contentTextChars_eq] at excess
  rw [capKept, if_pos excess, cutContent]

theorem capKept_small (small : ¬ Oversized block) : capKept block = block := by
  cases block with
  | toolResult toolUseId name content isError =>
    rw [Oversized, blockTextChars, contentTextChars_eq] at small
    rw [capKept, if_neg small]
  | _ => rfl

theorem length_truncateKeptResult (content : List ContentBlock) (toolUseId : String) :
    (truncateKeptResult content toolUseId).length =
      min maxKeptToolResultChars (flatten content).length +
        (keptTruncationMarker toolUseId).length := by
  rw [truncateKeptResult, String.length_append, String.length_ofList, List.length_take,
    String.length_toList]

theorem contentTextChars_images (content : List ContentBlock) :
    contentTextChars (content.filter isImage) = 0 := by
  induction content with
  | nil => rfl
  | cons block rest ih =>
    cases block with
    | image source => exact (Nat.zero_add _).trans ih
    | _ => exact ih

theorem flatten_images (content : List ContentBlock) : flatten (content.filter isImage) = "" := by
  induction content with
  | nil => rfl
  | cons block rest ih =>
    cases block with
    | image source => exact String.join_cons.trans ((String.empty_append).trans ih)
    | _ => exact ih

theorem blockTextChars_cut (name : Option String) (isError : Option Bool) :
    blockTextChars (.toolResult toolUseId name (cutContent content toolUseId) isError) =
      (truncateKeptResult content toolUseId).length := by
  rw [blockTextChars, cutContent, contentTextChars, contentTextChars_images, blockTextChars,
    Nat.add_zero]

theorem flatten_cutContent :
    flatten (cutContent content toolUseId) = truncateKeptResult content toolUseId := by
  have images := flatten_images content
  rw [flatten] at images
  rw [flatten, cutContent, List.map_cons, String.join_cons, images, String.append_empty]
  rfl

theorem filter_cutContent :
    (cutContent content toolUseId).filter isImage = content.filter isImage := by
  rw [cutContent, List.filter_cons_of_neg (by simp [isImage]), List.filter_filter]
  simp

/-- **One kept result**: what it loses and what it gains. -/
theorem blockTextChars_capKept (result : block.isToolResult = true) :
    blockTextChars (capKept block) + capTaken block = blockTextChars block + capWritten block := by
  by_cases excess : Oversized block
  · rw [capTaken, capWritten, if_pos excess, if_pos excess]
    cases block with
    | toolResult toolUseId name content isError =>
      rw [capKept_oversized excess, blockTextChars_cut, length_truncateKeptResult]
      have long : maxKeptToolResultChars <
        blockTextChars (.toolResult toolUseId name content isError) := excess
      simp only [markerChars, ownChars]
      omega
    | _ => cases result
  · rw [capTaken, capWritten, if_neg excess, if_neg excess, capKept_small excess]

theorem blockTextChars_clearOlder (result : block.isToolResult = true) :
    blockTextChars (clearOlder block) = placeholderChars block := by
  cases block with
  | toolResult toolUseId name content isError => exact Nat.add_zero _
  | _ => cases result

theorem truncateKeptResult_again_iff
    (excess : maxKeptToolResultChars < (truncateKeptResult content toolUseId).length) :
    truncateKeptResult (cutContent content toolUseId) toolUseId =
        truncateKeptResult content toolUseId ↔
      maxKeptToolResultChars ≤ (flatten content).length := by
  constructor
  · intro same
    have lengths := congrArg String.length same
    rw [length_truncateKeptResult, flatten_cutContent, length_truncateKeptResult] at lengths
    rw [length_truncateKeptResult] at excess
    omega
  · intro full
    have whole : ((flatten content).toList.take maxKeptToolResultChars).length =
        maxKeptToolResultChars := by
      rw [List.length_take, String.length_toList]
      exact Nat.min_eq_left full
    rw [truncateKeptResult, flatten_cutContent, truncateKeptResult, String.toList_append,
      String.toList_ofList, List.take_left' whole]

/-- **When cutting a kept result a second time does nothing.** -/
theorem capKept_again_iff (result : block.isToolResult = true) :
    capKept (capKept block) = capKept block ↔
      (Oversized block → maxKeptToolResultChars ≤ ownChars block ∨
        ownChars block + markerChars block ≤ maxKeptToolResultChars) := by
  by_cases excess : Oversized block
  · cases block with
    | toolResult toolUseId name content isError =>
      rw [capKept_oversized excess, ownChars, markerChars]
      by_cases again : maxKeptToolResultChars < (truncateKeptResult content toolUseId).length
      · have still : Oversized
            (.toolResult toolUseId name (cutContent content toolUseId) isError) := by
          rw [Oversized, blockTextChars_cut]
          exact again
        have cut := truncateKeptResult_again_iff again
        rw [capKept_oversized still]
        rw [length_truncateKeptResult] at again
        constructor
        · intro same _
          have texts := ContentBlock.toolResult.inj same
          exact .inl (cut.mp (ContentBlock.text.inj (List.cons.inj texts.2.2.1).1))
        · intro fits
          have full : maxKeptToolResultChars ≤ (flatten content).length :=
            (fits excess).resolve_right (by omega)
          rw [cutContent, filter_cutContent, cut.mpr full, ← cutContent]
      · have small : ¬ Oversized
            (.toolResult toolUseId name (cutContent content toolUseId) isError) := by
          rw [Oversized, blockTextChars_cut]
          exact again
        rw [length_truncateKeptResult] at again
        exact iff_of_true (capKept_small small) fun _ => by omega
    | _ => cases result
  · rw [capKept_small excess, capKept_small excess]
    exact iff_of_true rfl fun large => absurd large excess

theorem clearOlder_again (block : ContentBlock) :
    clearOlder (clearOlder block) = clearOlder block := by
  cases block <;> rfl

end Cut

/-! ### Never larger, and settled at once -/

def blockAt (messages : List ChatMessage) (place : Nat × Nat) : Option ContentBlock :=
  elementAt blocks messages place

def laterResults (messages : List ChatMessage) (place : Nat × Nat) : Nat :=
  marksAfter blocks ContentBlock.isToolResult messages place

/-- The block is no tool result, or one of the last `keepLast` and within the hard size limit. -/
def Spared (messages : List ChatMessage) (keepLast : Nat) (place : Nat × Nat)
    (block : ContentBlock) : Prop :=
  block.isToolResult = false ∨ (laterResults messages place < keepLast ∧ ¬ Oversized block)

structure Spares (messages messages' : List ChatMessage) (keepLast : Nat) : Prop where
  shape : List.Forall₂ (fun message message' =>
    message'.role = message.role ∧ message'.content.length = message.content.length)
    messages messages'
  spared : ∀ place block, blockAt messages place = some block →
    Spared messages keepLast place block → blockAt messages' place = some block

/-- **Clearing never grows the request, spares what it should and settles at once.** -/
structure ClearedWell (messages : List ChatMessage) (thresholdTokens keepLast : Nat) : Prop where
  shrinks : contextTokens (clearOldToolResults messages thresholdTokens keepLast) ≤
    contextTokens messages
  spares : Spares messages (clearOldToolResults messages thresholdTokens keepLast) keepLast
  settles : clearOldToolResults (clearOldToolResults messages thresholdTokens keepLast)
    thresholdTokens keepLast = clearOldToolResults messages thresholdTokens keepLast

def roomInLastToken (messages : List ChatMessage) : Nat :=
  4 * contextTokens messages - contextChars messages

def Repaid (messages : List ChatMessage) (keepLast : Nat) : Prop :=
  written messages keepLast ≤ taken messages keepLast + roomInLastToken messages

/-- The result's own text fills the hard size limit, or stays within it with its marker. -/
def SettlesAtOnce (block : ContentBlock) : Prop :=
  Oversized block → maxKeptToolResultChars ≤ ownChars block ∨
    ownChars block + markerChars block ≤ maxKeptToolResultChars

def ComesWithin (messages : List ChatMessage) (thresholdTokens keepLast : Nat) : Prop :=
  contextChars messages + written messages keepLast ≤ 4 * thresholdTokens + taken messages keepLast

section Well

variable {messages : List ChatMessage} {thresholdTokens keepLast : Nat}

theorem mem_results {block : ContentBlock} (member : block ∈ results messages) :
    block.isToolResult = true := (List.mem_filter.mp member).2

theorem sum_balance {α : Type} {before after lost gained : α → Nat} {items : List α}
    (balance : ∀ item ∈ items, after item + lost item = before item + gained item) :
    (items.map after).sum + (items.map lost).sum =
      (items.map before).sum + (items.map gained).sum := by
  induction items with
  | nil => rfl
  | cons item rest ih =>
    have here := balance item List.mem_cons_self
    have later := ih fun other member => balance other (List.mem_cons_of_mem _ member)
    simp only [List.map_cons, List.sum_cons]
    omega

theorem contextChars_eq (messages : List ChatMessage) (keepLast : Nat) :
    contextChars messages = plainChars messages +
      (((olderResults messages keepLast).map blockTextChars).sum +
        ((keptResults messages keepLast).map blockTextChars).sum) :=
  sum_marked _ _ _ _

theorem contextChars_clearedMessages :
    contextChars (clearedMessages messages keepLast) = plainChars messages +
      (((olderResults messages keepLast).map fun block => blockTextChars (clearOlder block)).sum +
        ((keptResults messages keepLast).map fun block => blockTextChars (capKept block)).sum) := by
  rw [contextChars, flatMap_cleared]
  exact sum_walk _ _ _ _ _ _

/-- **The characters afterwards.** -/
theorem contextChars_cleared :
    contextChars (clearedMessages messages keepLast) + taken messages keepLast =
      contextChars messages + written messages keepLast := by
  have older : (olderResults messages keepLast).map (fun block =>
      blockTextChars (clearOlder block)) =
      (olderResults messages keepLast).map placeholderChars :=
    List.map_congr_left fun block member =>
      blockTextChars_clearOlder (mem_results (List.mem_of_mem_take member))
  have kept : ((keptResults messages keepLast).map fun block =>
        blockTextChars (capKept block)).sum + ((keptResults messages keepLast).map capTaken).sum =
      ((keptResults messages keepLast).map blockTextChars).sum +
        ((keptResults messages keepLast).map capWritten).sum :=
    sum_balance fun block member =>
      blockTextChars_capKept (mem_results (List.mem_of_mem_drop member))
  rw [contextChars_clearedMessages, contextChars_eq messages keepLast, older, taken, written]
  omega

theorem contextTokens_cleared_le_iff :
    contextTokens (clearedMessages messages keepLast) ≤ contextTokens messages ↔
      Repaid messages keepLast := by
  have chars := @contextChars_cleared messages keepLast
  rw [Repaid, roomInLastToken, contextTokens, contextTokens, tokensFromChars, tokensFromChars]
  omega

theorem cleared_within_iff : contextTokens (clearedMessages messages keepLast) ≤ thresholdTokens ↔
      ComesWithin messages thresholdTokens keepLast := by
  have chars := @contextChars_cleared messages keepLast
  rw [ComesWithin, contextTokens, tokensFromChars]
  omega

theorem clearedMessages_eq_self_iff :
    clearedMessages messages keepLast = messages ↔
      (∀ block ∈ olderResults messages keepLast, clearOlder block = block) ∧
        ∀ block ∈ keptResults messages keepLast, capKept block = block :=
  (@walkRows_eq_self_iff _ _ blocks _ clearOlder capKept _ messages).trans
    (walk_eq_self_iff _ _ _ _ _)

theorem cleared_again_iff :
    clearedMessages (clearedMessages messages keepLast) keepLast =
        clearedMessages messages keepLast ↔
      ∀ block ∈ keptResults messages keepLast, SettlesAtOnce block := by
  rw [clearedMessages_eq_self_iff, olderResults_cleared, keptResults_cleared,
    List.forall_mem_map, List.forall_mem_map]
  have cut_again : ∀ block ∈ keptResults messages keepLast,
      (capKept (capKept block) = capKept block ↔ SettlesAtOnce block) := fun block member =>
    capKept_again_iff (mem_results (List.mem_of_mem_drop member))
  constructor
  · exact fun same block member => (cut_again block member).mp (same.2 block member)
  · exact fun settle => ⟨fun block _ => clearOlder_again block,
      fun block member => (cut_again block member).mpr (settle block member)⟩

theorem forall₂_walkRows (count : Nat) (messages : List ChatMessage) :
    List.Forall₂ (fun message message' =>
        message'.role = message.role ∧ message'.content.length = message.content.length)
      messages (walkRows blocks ContentBlock.isToolResult clearOlder capKept count messages) := by
  induction messages generalizing count with
  | nil => exact .nil
  | cons message rest ih => exact .cons ⟨rfl, length_walk _ _ _ _ _⟩ (ih _)

theorem cleared_spares : Spares messages (clearedMessages messages keepLast) keepLast where
  shape := forall₂_walkRows _ _
  spared := by
    intro place block holds spared
    have after := @walkRows_at _ _ blocks ContentBlock.isToolResult clearOlder capKept
      ((results messages).length - keepLast) messages place
    change blockAt (clearedMessages messages keepLast) place =
      (blockAt messages place).map _ at after
    rw [after, holds, Option.map_some]
    cases result : block.isToolResult with
    | false => rw [if_neg (by simp)]
    | true =>
      obtain ⟨later, small⟩ := spared.resolve_left (by simp [result])
      have total := @marks_at _ _ blocks _ messages place block holds result
      have counted : ((messages.flatMap blocks.contents).countP ContentBlock.isToolResult) =
          (results messages).length := List.countP_eq_length_filter
      rw [laterResults] at later
      rw [if_pos rfl, if_neg (by omega), capKept_small small]

theorem spares_refl (messages : List ChatMessage) : Spares messages messages keepLast where
  shape := List.forall₂_same.mpr fun _ _ => ⟨rfl, rfl⟩
  spared := fun _ _ holds _ => holds

end Well

/-- **When clearing does what it is for**: always, as to what it spares; the request is within the
threshold, or it repays what it writes and either comes within the threshold or cuts only results
that settle at once. -/
theorem clearOldToolResults_well_iff (messages : List ChatMessage)
    (thresholdTokens keepLast : Nat) : ClearedWell messages thresholdTokens keepLast ↔
      contextTokens messages ≤ thresholdTokens ∨
        (Repaid messages keepLast ∧ (ComesWithin messages thresholdTokens keepLast ∨
          ∀ block ∈ keptResults messages keepLast, SettlesAtOnce block)) := by
  by_cases within : contextTokens messages ≤ thresholdTokens
  · have same := @clearOldToolResults_within messages thresholdTokens keepLast within
    refine iff_of_true ⟨?_, ?_, ?_⟩ (.inl within)
    · rw [same]
    · rw [same]
      exact spares_refl messages
    · rw [same, same]
  · have passed := @clearOldToolResults_eq messages thresholdTokens keepLast (Nat.not_le.mp within)
    rw [or_iff_right within, ← contextTokens_cleared_le_iff, ← cleared_within_iff,
      ← cleared_again_iff]
    by_cases down : contextTokens (clearedMessages messages keepLast) ≤ thresholdTokens
    · have still := @clearOldToolResults_within _ thresholdTokens keepLast down
      constructor
      · intro well
        exact ⟨passed ▸ well.shrinks, .inl down⟩
      · rintro ⟨shrinks, -⟩
        refine ⟨?_, ?_, ?_⟩
        · rwa [passed]
        · rw [passed]
          exact cleared_spares
        · rw [passed, still]
    · have again := @clearOldToolResults_eq _ thresholdTokens keepLast (Nat.not_le.mp down)
      rw [or_iff_right down]
      constructor
      · intro well
        have settles := well.settles
        rw [passed, again] at settles
        exact ⟨passed ▸ well.shrinks, settles⟩
      · rintro ⟨shrinks, settles⟩
        refine ⟨?_, ?_, ?_⟩
        · rwa [passed]
        · rw [passed]
          exact cleared_spares
        · rw [passed, again, settles]

def shortResults : List ChatMessage :=
  [⟨.tool, ["c1", "c2", "c3", "c4", "c5", "c6", "c7"].map fun toolUseId =>
    .toolResult toolUseId none [.text "ok"] none⟩]

def longQuestion : List ChatMessage :=
  .ofUser (String.ofList (List.replicate 120000 'a')) :: shortResults

theorem contextChars_ofUser (text : String) (rest : List ChatMessage) :
    contextChars (.ofUser text :: rest) = text.length + contextChars rest := by
  rw [contextChars, List.flatMap_cons, ChatMessage.ofUser, List.singleton_append, List.map_cons,
    List.sum_cons, blockTextChars, contextChars]

theorem contextChars_longQuestion : contextChars longQuestion = 120014 := by
  have answers : contextChars shortResults = 14 := by decide +kernel
  rw [longQuestion, contextChars_ofUser, String.length_ofList, List.length_replicate, answers]

/-- **The placeholder of one short result makes the request larger.** -/
theorem short_result_grows :
    ¬ ∀ messages thresholdTokens keepLast, ClearedWell messages thresholdTokens keepLast := by
  intro all
  have shrinks := (all longQuestion clearToolResultsTokenThreshold keepLastToolResults).shrinks
  have above : clearToolResultsTokenThreshold < contextTokens longQuestion := by
    rw [contextTokens, contextChars_longQuestion]
    decide
  have repaid : written longQuestion keepLastToolResults ≤
      taken longQuestion keepLastToolResults + roomInLastToken longQuestion := by
    rw [clearOldToolResults_eq above] at shrinks
    exact contextTokens_cleared_le_iff.mp shrinks
  have placeholder : written longQuestion keepLastToolResults = 106 := by decide +kernel
  have cleared : taken longQuestion keepLastToolResults = 2 := by decide +kernel
  rw [roomInLastToken, contextTokens, contextChars_longQuestion, placeholder, cleared] at repaid
  exact absurd repaid (by decide)

end Ziee.Chat
