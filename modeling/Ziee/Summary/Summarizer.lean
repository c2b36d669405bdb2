/-
**The rolling summary of a branch** (`summarization/engine/summarizer.rs`).

When the texts of a branch grow beyond a trigger, all messages but a suffix are condensed into a
summary. The row of the summary names the last message that it covers and how many there are; the
next request carries the summary in their place.

* `StoredMessage` — a message as the branch has it; `outbound` is what a request makes of it.
* `decideSummarizeAction` — nothing, a full summary, or one on top of the last.
* `applySummaryBlock` — the summary in a request.
* `cutoff_spec` — **the suffix that is kept** is the longest that fits, or the newest message.
-/

import Ziee.Agent.Types
import Ziee.Chat.GroupBlocks

namespace Ziee.Summary

open Ziee.Agent (Uuid)
open Ziee.Chat (groupAssistantBlocks)
open Ziee.Providers

inductive MessageRole
  | user
  | assistant
  | system
  deriving DecidableEq

structure StoredContent where
  text : Option String
  block : Option ContentBlock

structure StoredMessage where
  id : Uuid
  role : MessageRole
  contents : List StoredContent

/-- `convert_history_to_messages_with_extensions`, for one message. -/
def StoredMessage.outbound (message : StoredMessage) : List ChatMessage :=
  let blocks := message.contents.filterMap StoredContent.block
  match message.role with
  | .system => []
  | .assistant => groupAssistantBlocks blocks
  | .user => if blocks = [] then [] else [⟨.user, blocks⟩]

structure SummarizableMessage where
  id : Uuid
  role : MessageRole
  text : String
  deriving DecidableEq

def messageToSummarizable (message : StoredMessage) : SummarizableMessage :=
  { id := message.id
    role := message.role
    text := String.join (message.contents.filterMap StoredContent.text) }

def counted (history : List StoredMessage) : List StoredMessage :=
  history.filter fun message => message.role = .user ∨ message.role = .assistant

/-- The row of a branch. -/
structure ConversationSummary where
  summaryText : String
  summarizedUpToId : Option Uuid
  messageCount : Nat
  deriving DecidableEq

/-! ### The decision -/

/-- `common::tokens::estimate_tokens`: a token for each four characters, rounded up. -/
def estimateTokens (text : String) : Nat := (text.toList.length + 3) / 4

/-- The admin's trigger and what is kept, under the model's window; what is kept is below the
trigger. -/
def applyWindowOverride (trigger keepRecent : Nat) (override : Option Nat) : Nat × Nat :=
  let trigger := match override with
    | some window => min trigger window
    | none => trigger
  (trigger, min keepRecent (trigger - 1))

def roleText : MessageRole → String
  | .user => "user"
  | .assistant => "assistant"
  | .system => "system"

def transcriptLine (message : SummarizableMessage) : String :=
  if message.text = "" then "" else roleText message.role ++ ": " ++ message.text ++ "\n"

def buildTranscript (messages : List SummarizableMessage) : String :=
  String.join (messages.map transcriptLine)

def messageTokens (message : SummarizableMessage) : Nat := estimateTokens message.text

def tokensOf (messages : List SummarizableMessage) : Nat := (messages.map messageTokens).sum

def cutoffLoop (messages : List SummarizableMessage) (keepRecent : Nat) : Nat → Nat → Nat → Nat
  | 0, _, cutoff => cutoff
  | i + 1, acc, cutoff =>
    let t := (messages[i]?.map messageTokens).getD 0
    -- The newest message is always kept.
    if cutoff < messages.length ∧ keepRecent < acc + t then cutoff
    else cutoffLoop messages keepRecent i (acc + t) i

/-- The number of messages before the suffix that is kept. -/
def cutoff (messages : List SummarizableMessage) (keepRecent : Nat) : Nat :=
  cutoffLoop messages keepRecent messages.length 0 messages.length

inductive SummarizeAction
  | noop
  | full (transcript : String) (summarizedUpToId : Uuid) (messageCount : Nat)
  | incremental (previousSummary newTranscript : String) (summarizedUpToId : Uuid)
      (messageCount : Nat)
  deriving DecidableEq

def fullAction (toSummarize : List SummarizableMessage) (last : SummarizableMessage) :
    SummarizeAction :=
  if buildTranscript toSummarize = "" then .noop
  else .full (buildTranscript toSummarize) last.id toSummarize.length

/-- Where the last summary ends, when it can be built upon: it does not cover more than is to be
summarized, and its anchor is there. -/
def anchorIndex (toSummarize : List SummarizableMessage) (previous : ConversationSummary) :
    Option Nat :=
  previous.summarizedUpToId.bind fun anchor =>
    if previous.messageCount ≤ toSummarize.length then
      toSummarize.findIdx? fun message => message.id == anchor
    else none

def decideSummarizeAction (messages : List SummarizableMessage) (trigger keepRecent : Nat)
    (existing : Option ConversationSummary) : SummarizeAction :=
  if tokensOf messages ≤ trigger then .noop
  else
    let toSummarize := messages.take (cutoff messages keepRecent)
    match toSummarize.getLast? with
    | none => .noop
    | some last =>
      match existing with
      | none => fullAction toSummarize last
      | some previous =>
        match anchorIndex toSummarize previous with
        | none => fullAction toSummarize last
        | some index =>
          let newMessages := toSummarize.drop (index + 1)
          if newMessages = [] then .noop
          else if buildTranscript newMessages = "" then .noop
          else .incremental previous.summaryText (buildTranscript newMessages) last.id
            toSummarize.length

/-! ### The summary in a request -/

def summaryText (summary : ConversationSummary) : String :=
  "## Earlier conversation summary (" ++ toString summary.messageCount ++
    " messages condensed):\n\n" ++ summary.summaryText

def summaryMessage (summary : ConversationSummary) : ChatMessage :=
  ⟨.system, [.text (summaryText summary)]⟩

def dropUntil (summary : ConversationSummary) (systemLength : Nat) (messages : List ChatMessage) :
    Nat :=
  let raw := min (systemLength + summary.messageCount) messages.length
  if systemLength < raw then
    raw + ((messages.drop raw).takeWhile fun message => message.role == .tool).length
  else raw

def applySummaryBlock (summary : ConversationSummary) (messages : List ChatMessage) :
    List ChatMessage :=
  let systemLength := (messages.takeWhile fun message => message.role == .system).length
  messages.take systemLength ++ summaryMessage summary ::
    messages.drop (dropUntil summary systemLength messages)

/-! ### The suffix that is kept -/

section Cutoff

variable {messages : List SummarizableMessage} {keepRecent : Nat}

theorem tokensOf_append (first second : List SummarizableMessage) :
    tokensOf (first ++ second) = tokensOf first + tokensOf second := by
  rw [tokensOf, tokensOf, tokensOf, List.map_append, List.sum_append]

theorem tokensOf_drop (messages : List SummarizableMessage) {i : Nat}
    (inside : i < messages.length) :
    tokensOf (messages.drop i) =
      (messages[i]?.map messageTokens).getD 0 + tokensOf (messages.drop (i + 1)) := by
  rw [List.drop_eq_getElem_cons inside, List.getElem?_eq_getElem inside, tokensOf, List.map_cons,
    List.sum_cons]
  rfl

theorem tokensOf_drop_anti {i j : Nat} (before : i ≤ j) :
    tokensOf (messages.drop j) ≤ tokensOf (messages.drop i) := by
  have split := (List.take_append_drop (j - i) (messages.drop i)).symm
  rw [List.drop_drop, Nat.add_sub_cancel' before] at split
  rw [split, tokensOf_append]
  exact Nat.le_add_left _ _

theorem cutoffLoop_spec (messages : List SummarizableMessage) (keepRecent i : Nat)
    (inside : i < messages.length)
    (kept : i + 1 = messages.length ∨ tokensOf (messages.drop i) ≤ keepRecent) :
    cutoffLoop messages keepRecent i (tokensOf (messages.drop i)) i ≤ i ∧
      (cutoffLoop messages keepRecent i (tokensOf (messages.drop i)) i + 1 = messages.length ∨
        tokensOf (messages.drop
          (cutoffLoop messages keepRecent i (tokensOf (messages.drop i)) i)) ≤ keepRecent) ∧
      ∀ earlier < cutoffLoop messages keepRecent i (tokensOf (messages.drop i)) i,
        keepRecent < tokensOf (messages.drop earlier) := by
  induction i with
  | zero => exact ⟨Nat.le_refl _, kept, fun earlier below => absurd below (Nat.not_lt_zero _)⟩
  | succ i ih =>
    have next := tokensOf_drop messages (Nat.lt_of_succ_lt inside)
    rw [Nat.add_comm] at next
    rw [cutoffLoop]
    by_cases full : keepRecent <
        tokensOf (messages.drop (i + 1)) + (messages[i]?.map messageTokens).getD 0
    · rw [if_pos ⟨inside, full⟩]
      refine ⟨Nat.le_refl _, kept, fun earlier below => ?_⟩
      rw [← next] at full
      exact full.trans_le (tokensOf_drop_anti (Nat.le_of_lt_succ below))
    · rw [if_neg fun both => full both.2, ← next]
      rw [← next] at full
      obtain ⟨below, fits, longest⟩ := ih (Nat.lt_of_succ_lt inside) (.inr (Nat.le_of_not_lt full))
      exact ⟨below.trans (Nat.le_succ i), fits, longest⟩

/-- **The suffix that is kept**: it has the newest message; it fits, or is that message alone; and
no longer one fits. -/
theorem cutoff_spec (keepRecent : Nat) (nonempty : messages ≠ []) :
    cutoff messages keepRecent < messages.length ∧
      (cutoff messages keepRecent + 1 = messages.length ∨
        tokensOf (messages.drop (cutoff messages keepRecent)) ≤ keepRecent) ∧
      ∀ earlier < cutoff messages keepRecent, keepRecent < tokensOf (messages.drop earlier) := by
  obtain ⟨last, length⟩ := Nat.exists_eq_succ_of_ne_zero
    (fun empty => nonempty (List.length_eq_zero_iff.mp empty))
  have inside : last < messages.length := by omega
  have first : cutoff messages keepRecent =
      cutoffLoop messages keepRecent last (tokensOf (messages.drop last)) last := by
    have tail : messages.drop (last + 1) = [] := List.drop_eq_nil_of_le (by omega)
    rw [tokensOf_drop messages inside, tail, cutoff]
    simp only [length, cutoffLoop]
    rw [if_neg (by omega)]
    simp [tokensOf]
  rw [first]
  obtain ⟨below, fits, longest⟩ := cutoffLoop_spec messages keepRecent last inside
    (.inl (by omega))
  exact ⟨by omega, fits, longest⟩

end Cutoff

end Ziee.Summary
