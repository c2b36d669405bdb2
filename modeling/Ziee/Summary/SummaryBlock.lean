/-
**The summary in the place of what it condensed** (`apply_summary_block`).

The row counts the stored messages that it covers. The request that it is applied to is a list of
outbound messages, and a stored message has none, one or several of these.

* `BranchRequest` — the request of a branch: system messages, and the outbound forms of its history.
* `Aligned`, `NewestKept` — the two countings agree, and no user message after the summary is
  missed.
* `summary_replaces_iff` — **the summary replaces what it condensed exactly then**.
-/

import Ziee.Summary.Summarizer

namespace Ziee.Summary

open Ziee.Agent (Uuid)
open Ziee.Chat (groupAssistantBlocks)
open Ziee.Providers

section Outbound

variable {message : StoredMessage} {sent : ChatMessage}

theorem outbound_role (member : sent ∈ message.outbound) :
    sent.role = .user ∧ message.role = .user ∨
      (sent.role = .assistant ∨ sent.role = .tool) ∧ message.role = .assistant := by
  unfold StoredMessage.outbound at member
  cases role : message.role with
  | system =>
    rw [role] at member
    cases member
  | assistant =>
    rw [role] at member
    exact .inr ⟨(Ziee.Chat.grouped_alternating _).1 sent member, rfl⟩
  | user =>
    rw [role] at member
    simp only at member
    split at member
    · cases member
    · rw [List.mem_singleton.mp member]
      exact .inl ⟨rfl, rfl⟩

theorem outbound_head (head : message.outbound.head? = some sent) : sent.role ≠ .tool := by
  unfold StoredMessage.outbound at head
  cases role : message.role with
  | system =>
    rw [role] at head
    cases head
  | assistant =>
    rw [role] at head
    rw [(Ziee.Chat.grouped_alternating _).2 sent head]
    decide
  | user =>
    rw [role] at head
    simp only at head
    split at head
    · cases head
    · rw [← Option.some.inj head]
      intro wrong
      cases wrong

theorem flatMap_role {messages : List StoredMessage}
    (member : sent ∈ messages.flatMap StoredMessage.outbound) : sent.role ≠ .system := by
  obtain ⟨message, -, here⟩ := List.mem_flatMap.mp member
  rcases outbound_role here with ⟨user, -⟩ | ⟨assistant | tool, -⟩
  · simp [user]
  · simp [assistant]
  · simp [tool]

theorem flatMap_head {messages : List StoredMessage}
    (head : (messages.flatMap StoredMessage.outbound).head? = some sent) : sent.role ≠ .tool := by
  induction messages with
  | nil => cases head
  | cons message rest ih =>
    rw [List.flatMap_cons] at head
    cases forms : message.outbound with
    | nil =>
      rw [forms, List.nil_append] at head
      exact ih head
    | cons first more =>
      rw [forms, List.cons_append, List.head?_cons] at head
      exact outbound_head (by rw [forms, List.head?_cons]; exact head)

theorem flatMap_counted (history : List StoredMessage) :
    history.flatMap StoredMessage.outbound = (counted history).flatMap StoredMessage.outbound := by
  induction history with
  | nil => rfl
  | cons message rest ih =>
    rw [List.flatMap_cons, ih]
    cases role : message.role with
    | system =>
      have nothing : message.outbound = [] := by simp [StoredMessage.outbound, role]
      simp [counted, role, nothing]
    | user | assistant => simp [counted, role]

end Outbound

/-! ### The cut -/

/-- The number of outbound messages that are dropped. -/
def cutLength (count : Nat) (messages : List ChatMessage) : Nat :=
  let raw := min count messages.length
  if 0 < raw then
    raw + ((messages.drop raw).takeWhile fun message => message.role == .tool).length
  else raw

theorem cutLength_le (count : Nat) (messages : List ChatMessage) :
    cutLength count messages ≤ messages.length := by
  unfold cutLength
  simp only
  split
  · have part := (List.takeWhile_sublist (l := messages.drop (min count messages.length))
      fun message => message.role == .tool).length_le
    rw [List.length_drop] at part
    omega
  · exact Nat.min_le_right _ _

theorem applySummaryBlock_eq (summary : ConversationSummary) {systems messages : List ChatMessage}
    (only : ∀ message ∈ systems, message.role = .system)
    (rest : ∀ message ∈ messages, message.role ≠ .system) :
    applySummaryBlock summary (systems ++ messages) =
      systems ++ summaryMessage summary :: messages.drop
        (cutLength summary.messageCount messages) := by
  have leading : (systems ++ messages).takeWhile (fun message => message.role == .system) =
      systems := by
    rw [List.takeWhile_append_of_pos fun message member => by simp [only message member]]
    have none : messages.takeWhile (fun message => message.role == .system) = [] := by
      cases messages with
      | nil => rfl
      | cons message more =>
        exact List.takeWhile_cons_of_neg (by simp [rest message (List.mem_cons_self ..)])
    rw [none, List.append_nil]
  have cut : dropUntil summary systems.length (systems ++ messages) =
      systems.length + cutLength summary.messageCount messages := by
    unfold dropUntil cutLength
    simp only [List.length_append]
    rw [Nat.add_min_add_left]
    by_cases some : 0 < min summary.messageCount messages.length
    · rw [if_pos (by omega), if_pos some, List.drop_length_add_append, Nat.add_assoc]
    · rw [if_neg (by omega), if_neg some]
  rw [applySummaryBlock]
  simp only [leading, cut, List.take_left', List.drop_length_add_append]

/-- **The two countings agree**: as many outbound messages as stored ones, but for tool messages at
the end; or fewer, and nothing is left to be cut into. -/
def CutFits (count : Nat) (condensed left : List ChatMessage) : Prop :=
  count ≤ condensed.length ∧ (∀ message ∈ condensed.drop count, message.role = .tool) ∨
    condensed.length < count ∧ left = []

/-- **The cut is right** exactly when the countings agree. -/
theorem cutLength_iff {count : Nat} {condensed left : List ChatMessage} (positive : 0 < count)
    (head : ∀ message, left.head? = some message → message.role ≠ .tool) :
    cutLength count (condensed ++ left) = condensed.length ↔ CutFits count condensed left := by
  have noTool : left.takeWhile (fun message => message.role == .tool) = [] := by
    cases left with
    | nil => rfl
    | cons message more => exact List.takeWhile_cons_of_neg (by simpa using head message rfl)
  by_cases inside : count ≤ condensed.length
  · have raw : min count (condensed ++ left).length = count := by
      rw [List.length_append]
      omega
    have dropped : (condensed ++ left).drop count = condensed.drop count ++ left :=
      List.drop_append_of_le_length inside
    have cut : cutLength count (condensed ++ left) =
        count + ((condensed.drop count ++ left).takeWhile fun message =>
          message.role == .tool).length := by
      rw [cutLength, raw]
      simp only [positive, if_true, dropped]
    rw [cut, CutFits]
    constructor
    · intro right
      refine .inl ⟨inside, fun message member => ?_⟩
      by_contra other
      rw [List.takeWhile_append, noTool, List.append_nil] at right
      have whole : (condensed.drop count).takeWhile (fun message => message.role == .tool) =
          condensed.drop count := by
        split at right
        · next same => exact (List.takeWhile_sublist _).eq_of_length same
        · exact (List.takeWhile_sublist _).eq_of_length (by rw [List.length_drop]; omega)
      have all := List.takeWhile_eq_self_iff.mp whole message member
      exact other (by simpa using all)
    · rintro (⟨-, tools⟩ | ⟨more, -⟩)
      · rw [List.takeWhile_append_of_pos fun message member => by simp [tools message member],
          noTool, List.append_nil, List.length_drop]
        omega
      · omega
  · have beyond : condensed.length < count := Nat.lt_of_not_le inside
    have fits : CutFits count condensed left ↔ left = [] := by
      unfold CutFits
      simp [inside, beyond]
    rw [fits]
    constructor
    · intro right
      have most := Nat.min_le_right count (condensed ++ left).length
      have least : min count (condensed ++ left).length ≤ cutLength count (condensed ++ left) := by
        rw [cutLength]
        split
        · exact Nat.le_add_right _ _
        · exact Nat.le_refl _
      rw [right, List.length_append] at least
      exact List.length_eq_zero_iff.mp (by omega)
    · rintro rfl
      have nothing : condensed.drop condensed.length = [] := List.drop_length
      rw [List.append_nil, cutLength, Nat.min_eq_right beyond.le, nothing, List.takeWhile_nil,
        List.length_nil, Nat.add_zero, ite_self]

/-! ### The request -/

structure BranchRequest where
  systems : List ChatMessage
  onlySystem : ∀ message ∈ systems, message.role = .system
  history : List StoredMessage

namespace BranchRequest

variable (request : BranchRequest) (summary : ConversationSummary)

def messages : List ChatMessage :=
  request.systems ++ request.history.flatMap StoredMessage.outbound

/-- The messages up to the anchor, and those after it. -/
def condensed : List StoredMessage := (counted request.history).take summary.messageCount

def afterAnchor : List StoredMessage := (counted request.history).drop summary.messageCount

def newestUser : Option StoredMessage :=
  (counted request.history).reverse.find? fun message => message.role = .user

end BranchRequest

/-- **The row describes a prefix of the history**: its anchor is the last of the messages that it
counts. -/
structure Describes (summary : ConversationSummary) (history : List StoredMessage) : Prop where
  positive : 0 < summary.messageCount
  anchored : ∃ anchor, (counted history)[summary.messageCount - 1]? = some anchor ∧
    summary.summarizedUpToId = some anchor.id

/-- **The summary replaces what it condensed**, and the newest user message is there. -/
structure Replaces (request : BranchRequest) (summary : ConversationSummary) : Prop where
  exact : applySummaryBlock summary request.messages =
    request.systems ++ summaryMessage summary ::
      (request.afterAnchor summary).flatMap StoredMessage.outbound
  newest : ∀ message, request.newestUser = some message → ∀ sent ∈ message.outbound,
    sent ∈ applySummaryBlock summary request.messages

/-- The countings agree on the condensed messages. -/
def Aligned (request : BranchRequest) (summary : ConversationSummary) : Prop :=
  CutFits summary.messageCount ((request.condensed summary).flatMap StoredMessage.outbound)
    ((request.afterAnchor summary).flatMap StoredMessage.outbound)

def NewestKept (request : BranchRequest) (summary : ConversationSummary) : Prop :=
  (∃ message ∈ request.afterAnchor summary, message.role = .user) ∨
    ∀ message, request.newestUser = some message → message.outbound = []

section Iff

variable {request : BranchRequest} {summary : ConversationSummary}

theorem messages_split (summary : ConversationSummary) : request.messages = request.systems ++
    ((request.condensed summary).flatMap StoredMessage.outbound ++
      (request.afterAnchor summary).flatMap StoredMessage.outbound) := by
  rw [BranchRequest.messages, flatMap_counted, ← List.flatMap_append, BranchRequest.condensed,
    BranchRequest.afterAnchor, List.take_append_drop]

theorem applied : applySummaryBlock summary request.messages = request.systems ++
    summaryMessage summary :: ((request.condensed summary).flatMap StoredMessage.outbound ++
      (request.afterAnchor summary).flatMap StoredMessage.outbound).drop
        (cutLength summary.messageCount
          ((request.condensed summary).flatMap StoredMessage.outbound ++
            (request.afterAnchor summary).flatMap StoredMessage.outbound)) := by
  rw [messages_split summary]
  refine applySummaryBlock_eq summary request.onlySystem fun message member => ?_
  rw [← List.flatMap_append] at member
  exact flatMap_role member

theorem exact_iff (positive : 0 < summary.messageCount) :
    applySummaryBlock summary request.messages = request.systems ++ summaryMessage summary ::
        (request.afterAnchor summary).flatMap StoredMessage.outbound ↔
      Aligned request summary := by
  rw [applied, List.append_cancel_left_eq, List.cons.injEq, Aligned,
    ← cutLength_iff positive fun message head => flatMap_head head]
  generalize (request.condensed summary).flatMap StoredMessage.outbound = condensed
  generalize (request.afterAnchor summary).flatMap StoredMessage.outbound = left
  constructor
  · rintro ⟨-, same⟩
    have most := cutLength_le summary.messageCount (condensed ++ left)
    have lengths := congrArg List.length same
    rw [List.length_drop, List.length_append] at lengths
    rw [List.length_append] at most
    omega
  · intro cut
    rw [cut]
    exact ⟨rfl, List.drop_left⟩

theorem newestUser_after {message : StoredMessage}
    (newest : request.newestUser = some message)
    (later : ∃ other ∈ request.afterAnchor summary, other.role = .user) :
    message ∈ request.afterAnchor summary := by
  have split : counted request.history =
      request.condensed summary ++ request.afterAnchor summary := (List.take_append_drop _ _).symm
  rw [BranchRequest.newestUser, split, List.reverse_append, List.find?_append] at newest
  obtain ⟨other, member, user⟩ := later
  cases found : (request.afterAnchor summary).reverse.find? fun message =>
      message.role = .user with
  | none =>
    have none := List.find?_eq_none.mp found other (List.mem_reverse.mpr member)
    exact absurd (by simpa using user) none
  | some first =>
    rw [found, Option.some_or] at newest
    rw [← Option.some.inj newest]
    exact List.mem_reverse.mp (List.mem_of_find?_eq_some found)

/-- **The summary replaces what it condensed** exactly when the countings agree and no user message
is missed. -/
theorem summary_replaces_iff (describes : Describes summary request.history) :
    Replaces request summary ↔ Aligned request summary ∧ NewestKept request summary := by
  constructor
  · intro replaces
    refine ⟨(exact_iff describes.positive).mp replaces.exact, ?_⟩
    by_cases later : ∃ message ∈ request.afterAnchor summary, message.role = .user
    · exact .inl later
    · refine .inr fun message newest => ?_
      by_contra forms
      obtain ⟨sent, more, same⟩ := List.exists_cons_of_ne_nil forms
      have member : sent ∈ message.outbound := by
        rw [same]
        exact List.mem_cons_self ..
      have user : message.role = .user := by
        have found := List.find?_some newest
        simpa using found
      have role : sent.role = .user := by
        rcases outbound_role member with ⟨role, -⟩ | ⟨-, assistant⟩
        · exact role
        · rw [user] at assistant
          cases assistant
      have there := replaces.newest message newest sent member
      rw [replaces.exact] at there
      rcases List.mem_append.mp there with system | rest
      · rw [request.onlySystem sent system] at role
        cases role
      · rcases List.mem_cons.mp rest with rfl | after
        · cases role
        · obtain ⟨other, here, form⟩ := List.mem_flatMap.mp after
          rcases outbound_role form with ⟨-, own⟩ | ⟨other', -⟩
          · exact later ⟨other, here, own⟩
          · rw [role] at other'
            rcases other' with wrong | wrong <;> cases wrong
  · rintro ⟨aligned, kept⟩
    have exact := (exact_iff describes.positive).mpr aligned
    refine ⟨exact, fun message newest sent member => ?_⟩
    rcases kept with later | nothing
    · rw [exact]
      refine List.mem_append_right _ (List.mem_cons_of_mem _ ?_)
      exact List.mem_flatMap.mpr ⟨message, newestUser_after newest later, member⟩
    · rw [nothing message newest] at member
      cases member

end Iff

/-! ### Two requests -/

def saidText (text : String) : StoredContent := ⟨some text, some (.text text)⟩

/-- A question and its answer are condensed, and a second question follows. -/
def answeredRequest (answer : List StoredContent) : BranchRequest where
  systems := [⟨.system, [.text "Be brief."]⟩]
  onlySystem := by
    intro message member
    rw [List.mem_singleton.mp member]
  history := [⟨1, .user, [saidText "What is new?"]⟩, ⟨2, .assistant, answer⟩,
    ⟨3, .user, [saidText "And today?"]⟩]

def condensedTwo : ConversationSummary := ⟨"They talked about the news.", some 2, 2⟩

theorem condensedTwo_describes (answer : List StoredContent) :
    Describes condensedTwo (answeredRequest answer).history :=
  ⟨by decide, ⟨2, .assistant, answer⟩, rfl, rfl⟩

theorem plainAnswer_replaced :
    Describes condensedTwo (answeredRequest [saidText "Nothing."]).history ∧
      (Replaces (answeredRequest [saidText "Nothing."]) condensedTwo ↔
        Aligned (answeredRequest [saidText "Nothing."]) condensedTwo ∧
          NewestKept (answeredRequest [saidText "Nothing."]) condensedTwo) ∧
      Aligned (answeredRequest [saidText "Nothing."]) condensedTwo ∧
      NewestKept (answeredRequest [saidText "Nothing."]) condensedTwo := by
  refine ⟨condensedTwo_describes _, summary_replaces_iff (condensedTwo_describes _), ?_, ?_⟩
  · refine .inl ⟨by decide, fun message member => ?_⟩
    cases member
  · exact .inl ⟨⟨3, .user, [saidText "And today?"]⟩, List.mem_singleton.mpr rfl, rfl⟩

def searchedAnswer : List StoredContent :=
  [⟨none, some (.toolUse "search" "web__search" .null)⟩,
    ⟨none, some (.toolResult "search" none [.text "nothing"] none)⟩, saidText "Nothing."]

/-- The text of that answer is sent again after the summary. -/
theorem searchedAnswer_repeated : ¬ ∀ request summary, Describes summary request.history →
    Replaces request summary := by
  intro always
  have exact := (always _ _ (condensedTwo_describes searchedAnswer)).exact
  have lengths := congrArg List.length exact
  exact absurd lengths (by decide)

end Ziee.Summary
