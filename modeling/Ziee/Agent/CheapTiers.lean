/-
**What the cheap tiers take away** (`turn_trim`, `evict_tool_results`, `tokens.rs`).

Trimming looks at the text of a turn, and an image, a document or redacted thinking has none;
evicting counts bytes, and the token estimate characters.

* **`turnTrim_trimmed_iff`** — only content-free turns are trimmed, exactly then.
* `estimateTokens` — the default token counter; `saved`, `added` — the characters of the cleared
  results and of their placeholders.
* **`evict_smaller_iff`** — the estimate grows exactly when the placeholders need more tokens.
-/

import Mathlib.Algebra.Order.BigOperators.Group.List
import Mathlib.Algebra.Order.Ring.Nat
import Ziee.Agent.Compaction

namespace Ziee.Agent

open Ziee.Providers

def isWordless : ContentBlock → Bool
  | .image _ | .document _ | .redactedThinking _ => true
  | _ => false

/-- A block that means something besides a text. -/
def isContent (block : ContentBlock) : Bool :=
  block.isToolUse || block.isToolResult || isWordless block

/-- **A turn that says nothing**, after the turn that was kept last: it has only text, and that is
blank or the same as there. -/
structure ContentFree (kept : Option ChatMessage) (message : ChatMessage) : Prop where
  notSystem : message.role ≠ .system
  onlyText : ∀ block ∈ message.content, isContent block = false
  silent : isBlank (messageText message) = true ∨
    ∃ previous ∈ kept, trim (messageText previous).toList = trim (messageText message).toList

/-- **Messages without some that say nothing**; the others keep their order, and the newest one
stays. -/
inductive Trimmed : Option ChatMessage → List ChatMessage → List ChatMessage → Prop
  | nil {kept : Option ChatMessage} : Trimmed kept [] []
  | keep {kept : Option ChatMessage} {message : ChatMessage} {rest out : List ChatMessage} :
      Trimmed (some message) rest out → Trimmed kept (message :: rest) (message :: out)
  | drop {kept : Option ChatMessage} {message : ChatMessage} {rest out : List ChatMessage} :
      ContentFree kept message → rest ≠ [] → Trimmed kept rest out →
        Trimmed kept (message :: rest) out

/-! ### The condition -/

/-- A turn that may be trimmed when it is not the newest. -/
def isPlainTurn (message : ChatMessage) : Bool := message.role ≠ .system && !msgHasToolBlock message

def bearsWordless (message : ChatMessage) : Bool := message.content.any isWordless

def lastSaid (before : List ChatMessage) : Option ChatMessage :=
  before.reverse.find? fun message => !(isPlainTurn message && isBlank (messageText message))

/-- **Every turn with a picture, a document or redacted thinking says enough**, unless it is the
newest: its text is not blank, and it does not say the same as the last message that is not a blank
turn. -/
def SaysEnough (before messages : List ChatMessage) : Prop :=
  ∀ middle message after, messages = middle ++ message :: after → after ≠ [] →
    isPlainTurn message = true → bearsWordless message = true →
      isBlank (messageText message) = false ∧ repeats (lastSaid (before ++ middle)) message = false

theorem saysEnough_cons {before rest : List ChatMessage} {message : ChatMessage} :
    SaysEnough before (message :: rest) ↔
      (rest ≠ [] → isPlainTurn message = true → bearsWordless message = true →
        isBlank (messageText message) = false ∧ repeats (lastSaid before) message = false) ∧
      SaysEnough (before ++ [message]) rest := by
  constructor
  · intro all
    refine ⟨fun more plain bears => ?_, fun middle other after same more plain bears => ?_⟩
    · have here := all [] message rest rfl more plain bears
      rwa [List.append_nil] at here
    · have later := all (message :: middle) other after
        (by rw [same, List.cons_append]) more plain bears
      rwa [List.append_assoc]
  · rintro ⟨here, later⟩ middle other after same more plain bears
    cases middle with
    | nil =>
      obtain ⟨rfl, rfl⟩ := List.cons.inj same
      rw [List.append_nil]
      exact here more plain bears
    | cons first middle =>
      obtain ⟨rfl, rfl⟩ := List.cons.inj same
      have tail := later middle other after rfl more plain bears
      rwa [List.append_assoc] at tail

/-! ### Trimming -/

def isTrimmed (kept : Option ChatMessage) (message : ChatMessage)
    (rest : List ChatMessage) : Bool :=
  (isPlainTurn message && !rest.isEmpty) && (isBlank (messageText message) || repeats kept message)

theorem trimTurns_cons (kept : Option ChatMessage) (message : ChatMessage)
    (rest : List ChatMessage) :
    (trimTurns kept (message :: rest)).1 = if isTrimmed kept message rest then
    (trimTurns kept rest).1
      else message :: (trimTurns (some message) rest).1 := by
  show (if isTrimmed kept message rest = true then ((trimTurns kept rest).1, true) else
    (message :: (trimTurns (some message) rest).1, (trimTurns (some message) rest).2)).1 = _
  split <;> rfl

theorem repeats_some {previous message : ChatMessage} :
    repeats (some previous) message = true ↔ previous.role = message.role ∧
      msgHasToolBlock previous = false ∧
        trim (messageText previous).toList = trim (messageText message).toList := by
  simp [repeats, and_assoc]

/-- **A turn that repeats the kept one stands for it**: the same turns repeat either. -/
theorem repeats_of_repeats {kept : Option ChatMessage} {message other : ChatMessage}
    (plain : isPlainTurn message = true) (same : repeats kept message = true) :
    repeats kept other = repeats (some message) other := by
  cases kept with
  | none => cases same
  | some previous =>
    obtain ⟨role, words, text⟩ := repeats_some.mp same
    have toolless : msgHasToolBlock message = false :=
      (Bool.not_eq_true' _).mp (Bool.and_eq_true_iff.mp plain).2
    rw [Bool.eq_iff_iff, repeats_some, repeats_some, role, text]
    exact and_congr_right fun _ => and_congr_left fun _ => by rw [words, toolless]

theorem lastSaid_append (before : List ChatMessage) (message : ChatMessage) :
    lastSaid (before ++ [message]) =
      if isPlainTurn message && isBlank (messageText message) then lastSaid before
      else some message := by
  unfold lastSaid
  rw [List.reverse_append, List.reverse_singleton, List.singleton_append, List.find?_cons]
  cases isPlainTurn message && isBlank (messageText message) <;> rfl

def Tells (kept : Option ChatMessage) (before : List ChatMessage) : Prop :=
  ∀ message, repeats kept message = repeats (lastSaid before) message

theorem Tells.trimmed {kept : Option ChatMessage} {before rest : List ChatMessage}
    {message : ChatMessage} (tells : Tells kept before)
    (trimmed : isTrimmed kept message rest = true) : Tells kept (before ++ [message]) := by
  obtain ⟨plain, empty⟩ := Bool.and_eq_true_iff.mp trimmed
  have turn := (Bool.and_eq_true_iff.mp plain).1
  intro other
  rw [lastSaid_append]
  cases blank : isBlank (messageText message) with
  | true =>
    rw [turn, Bool.and_self, if_pos rfl]
    exact tells other
  | false =>
    rw [Bool.and_false, if_neg Bool.false_ne_true]
    rw [blank, Bool.false_or] at empty
    exact repeats_of_repeats turn empty

theorem Tells.kept {kept : Option ChatMessage} {before rest : List ChatMessage}
    {message : ChatMessage} (more : rest ≠ []) (stays : isTrimmed kept message rest = false) :
    Tells (some message) (before ++ [message]) := by
  have said : (isPlainTurn message && isBlank (messageText message)) = false := by
    by_contra blank
    rw [Bool.not_eq_false, Bool.and_eq_true] at blank
    simp [isTrimmed, blank.1, blank.2, more] at stays
  intro other
  rw [lastSaid_append, said]
  rfl

theorem onlyText {message : ChatMessage} (plain : isPlainTurn message = true)
    (words : bearsWordless message = false) : ∀ block ∈ message.content,
      isContent block = false := by
  intro block member
  have toolless : msgHasToolBlock message = false :=
    (Bool.not_eq_true' _).mp (Bool.and_eq_true_iff.mp plain).2
  have noTool := List.any_eq_false.mp toolless block member
  have noPicture := List.any_eq_false.mp words block member
  rw [isContent, Bool.eq_false_iff, ne_eq, Bool.or_eq_true]
  exact not_or.mpr ⟨noTool, noPicture⟩

theorem trimTurns_trimmed : ∀ {messages before : List ChatMessage} {kept : Option ChatMessage},
    Tells kept before → SaysEnough before messages →
      Trimmed kept messages (trimTurns kept messages).1
  | [], _, _, _, _ => .nil
  | message :: rest, before, kept, tells, enough => by
    obtain ⟨here, later⟩ := saysEnough_cons.mp enough
    rw [trimTurns_cons]
    cases trimmed : isTrimmed kept message rest with
    | true =>
      rw [if_pos rfl]
      obtain ⟨plain, silent⟩ := Bool.and_eq_true_iff.mp trimmed
      obtain ⟨turn, more⟩ := Bool.and_eq_true_iff.mp plain
      have nonempty : rest ≠ [] := by
        rintro rfl
        cases more
      have words : bearsWordless message = false := by
        by_contra bears
        obtain ⟨said, fresh⟩ := here nonempty turn ((Bool.not_eq_false _).mp bears)
        rw [said, tells message, fresh] at silent
        cases silent
      refine .drop ⟨?_, onlyText turn words, ?_⟩ nonempty
        (trimTurns_trimmed (tells.trimmed trimmed) later)
      · exact of_decide_eq_true (Bool.and_eq_true_iff.mp turn).1
      · refine (Bool.or_eq_true_iff.mp silent).imp id fun same => ?_
        cases kept with
        | none => cases same
        | some previous => exact ⟨previous, rfl, (repeats_some.mp same).2.2⟩
    | false =>
      rw [if_neg Bool.false_ne_true]
      cases rest with
      | nil => exact .keep .nil
      | cons next rest =>
        exact .keep (trimTurns_trimmed (Tells.kept (List.cons_ne_nil next rest) trimmed) later)

/-! ### What bears content is counted -/

theorem Trimmed.bears {kept : Option ChatMessage} {messages out : List ChatMessage}
    (trimmed : Trimmed kept messages out) :
      out.countP bearsWordless = messages.countP bearsWordless := by
  induction trimmed with
  | nil => rfl
  | keep _ ih => rw [List.countP_cons, List.countP_cons, ih]
  | @drop _ message _ _ free _ _ ih =>
    have none : bearsWordless message = false := by
      refine List.any_eq_false.mpr fun block member wordless => ?_
      have quiet := free.onlyText block member
      rw [isContent, wordless, Bool.or_true] at quiet
      cases quiet
    rw [List.countP_cons, none, ih]
    rfl

theorem trimTurns_countP_le : ∀ (messages : List ChatMessage) (kept : Option ChatMessage),
    (trimTurns kept messages).1.countP bearsWordless ≤ messages.countP bearsWordless
  | [], _ => Nat.le_refl 0
  | message :: rest, kept => by
    have dropped := trimTurns_countP_le rest kept
    have stayed := trimTurns_countP_le rest (some message)
    rw [trimTurns_cons]
    split
    · rw [List.countP_cons]
      omega
    · rw [List.countP_cons, List.countP_cons]
      omega

theorem saysEnough_of_countP : ∀ {messages before : List ChatMessage} {kept : Option ChatMessage},
    Tells kept before →
    (trimTurns kept messages).1.countP bearsWordless = messages.countP bearsWordless →
    SaysEnough before messages
  | [], _, _, _, _ => fun middle message after same => by simp at same
  | message :: rest, before, kept, tells, all => by
    rw [trimTurns_cons] at all
    refine saysEnough_cons.mpr ?_
    cases trimmed : isTrimmed kept message rest with
    | true =>
      rw [trimmed, if_pos rfl, List.countP_cons] at all
      have least := trimTurns_countP_le rest kept
      have none : bearsWordless message = false := by
        by_contra bears
        rw [if_pos ((Bool.not_eq_false _).mp bears)] at all
        omega
      rw [none, if_neg Bool.false_ne_true, Nat.add_zero] at all
      refine ⟨fun _ _ bears => ?_, saysEnough_of_countP (tells.trimmed trimmed) all⟩
      rw [none] at bears
      cases bears
    | false =>
      rw [trimmed, if_neg Bool.false_ne_true, List.countP_cons, List.countP_cons] at all
      refine ⟨fun more plain _ => ?_, ?_⟩
      · have nonempty : rest.isEmpty = false := by simpa using more
        rw [isTrimmed, plain, nonempty, Bool.not_false, Bool.and_self, Bool.true_and,
          Bool.or_eq_false_iff, tells message] at trimmed
        exact trimmed
      · cases rest with
        | nil => exact fun middle other after same => by simp at same
        | cons next rest =>
          exact saysEnough_of_countP (Tells.kept (List.cons_ne_nil next rest) trimmed) (by omega)

/-- **Trimming drops only turns that say nothing, exactly when** every turn with an image, a
document or redacted thinking says enough. -/
theorem turnTrim_trimmed_iff (messages : List ChatMessage) :
    Trimmed none messages (turnTrim messages).1 ↔ SaysEnough [] messages := by
  rw [turnTrim_eq]
  have tells : Tells none [] := fun _ => rfl
  exact ⟨fun trimmed => saysEnough_of_countP tells trimmed.bears, trimTurns_trimmed tells⟩

theorem picture_trimmed : ¬ ∀ messages, Trimmed none messages (turnTrim messages).1 := by
  intro all
  have trimmed := all [⟨.user, [.image (.url "https://example.org/plan.png" none)]⟩,
    .ofUser "See above."]
  have counts := trimmed.bears
  exact absurd counts (by decide)

/-! ### The default token counter -/

/-- A token for each four characters, rounded up. -/
def tokensFromChars (chars : Nat) : Nat := if chars = 0 then 0 else (chars + 3) / 4

def estimateTokens (text : String) : Nat := tokensFromChars text.length

def Compactor.new (config : CompactionConfig) : Compactor := ⟨config, estimateTokens⟩

theorem tokensFromChars_mono {chars chars' : Nat} (le : chars ≤ chars') :
    tokensFromChars chars ≤ tokensFromChars chars' := by
  unfold tokensFromChars
  split <;> split <;> omega

/-! ### Evicting -/

def ClearedFrom (block block' : ContentBlock) : Prop :=
  block' = block ∨ ∃ id name content isError, block = .toolResult id name content isError ∧
    block' = .toolResult id name [.text toolResultPlaceholder] isError

/-- The message is the same, or one of the conversation some of whose tool results were cleared. -/
def EvictedFrom (message message' : ChatMessage) : Prop :=
  message' = message ∨ (isEvictable message = true ∧ message'.role = message.role ∧
    List.Forall₂ ClearedFrom message.content message'.content)

/-- **Nothing but the content of tool results is different.** -/
def OnlyEvicted (messages messages' : List ChatMessage) : Prop :=
  List.Forall₂ EvictedFrom messages messages'

theorem evictBlock_cleared (block : ContentBlock) : ClearedFrom block (evictBlock block) := by
  unfold evictBlock
  split
  · split
    · exact Or.inr ⟨_, _, _, _, rfl, rfl⟩
    · exact Or.inl rfl
  · exact Or.inl rfl

theorem evictFirst_only : ∀ (count : Nat) (messages : List ChatMessage),
    OnlyEvicted messages (evictFirst count messages)
  | _, [] => by
    rw [evictFirst]
    exact .nil
  | 0, message :: rest => by
    have stays : evictFirst 0 (message :: rest) = message :: rest := by simp [evictFirst]
    rw [stays]
    exact List.forall₂_same.mpr fun _ _ => Or.inl rfl
  | count + 1, message :: rest => by
    rw [evictFirst]
    split
    · rename_i evictable
      refine .cons (Or.inr ⟨evictable, rfl, ?_⟩) (evictFirst_only count rest)
      exact List.forall₂_map_right_iff.mpr (List.forall₂_same.mpr fun block _ =>
        evictBlock_cleared block)
    · exact .cons (Or.inl rfl) (evictFirst_only (count + 1) rest)

/-! ### Characters -/

def blockChars (block : ContentBlock) : Nat := ((blockText? block).map String.length).getD 0

/-- The characters of the tool results that are cleared, which is decided by their bytes. -/
def clearedChars (message : ChatMessage) : Nat :=
    ((message.content.filter shrinks).map blockChars).sum

/-- The characters of the placeholders put in their place. -/
def placedChars (message : ChatMessage) : Nat :=
  (message.content.filter shrinks).length * toolResultPlaceholder.length

theorem length_intercalate_space (texts : List String) :
    (" ".intercalate texts).length = (texts.map String.length).sum + (texts.length - 1) := by
  induction texts with
  | nil => rfl
  | cons text rest ih =>
    cases rest with
    | nil => simp
    | cons next rest =>
      rw [String.intercalate_cons_cons, String.length_append, String.length_append, ih]
      have space : " ".length = 1 := rfl
      simp only [List.map_cons, List.sum_cons, List.length_cons, space]
      omega

theorem evictBlock_kept {block : ContentBlock} (kept : shrinks block = false) :
    evictBlock block = block := by
  cases block with
  | toolResult id name content isError =>
    unfold evictBlock
    dsimp only
    rw [kept]
    rfl
  | _ => rfl

theorem evictBlock_chars (block : ContentBlock) :
    (blockText? (evictBlock block)).isSome = (blockText? block).isSome ∧
      blockChars (evictBlock block) + (if shrinks block then blockChars block else 0) =
        blockChars block + (if shrinks block then toolResultPlaceholder.length else 0) := by
  cases clears : shrinks block with
  | false =>
    rw [evictBlock_kept clears]
    exact ⟨rfl, by simp⟩
  | true =>
    cases block with
    | toolResult id name content isError =>
      unfold evictBlock
      dsimp only
      rw [clears]
      have placed : " ".intercalate ([ContentBlock.text toolResultPlaceholder].filterMap textOf?) =
          toolResultPlaceholder := String.intercalate_singleton
      have chars : blockChars (.toolResult id name [.text toolResultPlaceholder] isError) =
          toolResultPlaceholder.length := congrArg String.length placed
      refine ⟨rfl, ?_⟩
      rw [if_pos rfl, if_pos rfl, if_pos rfl, chars, Nat.add_comm]
    | _ => cases clears

def messageChars (message : ChatMessage) : Nat := (messageText message).length

theorem messageChars_eq (message : ChatMessage) : messageChars message =
    (message.content.map blockChars).sum +
      (message.content.countP (fun block => (blockText? block).isSome) - 1) := by
  have sizes : ∀ content : List ContentBlock,
    ((content.filterMap blockText?).map String.length).sum =
      (content.map blockChars).sum ∧ (content.filterMap blockText?).length =
        content.countP (fun block => (blockText? block).isSome) := by
    intro content
    induction content with
    | nil => exact ⟨rfl, rfl⟩
    | cons block content ih =>
      obtain ⟨sums, counts⟩ := ih
      rw [List.map_cons, List.sum_cons, List.countP_cons, ← sums, ← counts, blockChars]
      cases text : blockText? block with
      | none => simp [text]
      | some text => simp [text]
  obtain ⟨sums, counts⟩ := sizes message.content
  rw [messageChars, messageText, length_intercalate_space, sums, counts]

/-- **The characters of an evicted message**: those of the cleared results are gone, and those of
the placeholders are there. -/
theorem evictMessage_chars (message : ChatMessage) :
    messageChars (evictMessage message) + clearedChars message =
      messageChars message + placedChars message := by
  have blocks : ∀ content : List ContentBlock,
      (content.map evictBlock).countP (fun block => (blockText? block).isSome) =
        content.countP (fun block => (blockText? block).isSome) ∧
      ((content.map evictBlock).map blockChars).sum +
      ((content.filter shrinks).map blockChars).sum = (content.map blockChars).sum +
          (content.filter shrinks).length * toolResultPlaceholder.length := by
    intro content
    induction content with
    | nil => simp
    | cons block content ih =>
      obtain ⟨counts, sums⟩ := ih
      obtain ⟨same, chars⟩ := evictBlock_chars block
      refine ⟨?_, ?_⟩
      · rw [List.map_cons, List.countP_cons, List.countP_cons, counts, same]
      · rw [List.filter_cons]
        cases clears : shrinks block with
        | true =>
          rw [clears, if_pos rfl, if_pos rfl] at chars
          simp only [if_true, List.map_cons, List.sum_cons, List.length_cons, Nat.add_mul,
            Nat.one_mul]
          omega
        | false =>
          rw [clears, if_neg Bool.false_ne_true, if_neg Bool.false_ne_true] at chars
          simp only [Bool.false_eq_true, if_false, List.map_cons, List.sum_cons]
          omega
  obtain ⟨counts, sums⟩ := blocks message.content
  rw [messageChars_eq, messageChars_eq, clearedChars, placedChars]
  show ((message.content.map evictBlock).map blockChars).sum +
    ((message.content.map evictBlock).countP _ - 1) + _ = _
  rw [counts]
  omega

/-! ### Tokens -/

/-- The tokens by which a message grows whose placeholders have more characters than what they stand
for. -/
def tokensAdded (message : ChatMessage) : Nat :=
  tokensFromChars (messageChars message + (placedChars message - clearedChars message)) -
    tokensFromChars (messageChars message)

def tokensSaved (message : ChatMessage) : Nat :=
  tokensFromChars (messageChars message) -
    tokensFromChars (messageChars message - (clearedChars message - placedChars message))

theorem evictMessage_tokens (message : ChatMessage) :
    estimateTokens (messageText (evictMessage message)) + tokensSaved message =
      estimateTokens (messageText message) + tokensAdded message := by
  have chars := evictMessage_chars message
  show tokensFromChars (messageChars (evictMessage message)) + _ =
    tokensFromChars (messageChars message) + _
  rw [tokensSaved, tokensAdded]
  rcases Nat.le_total (clearedChars message) (placedChars message) with more | fewer
  · have grown : messageChars (evictMessage message) =
        messageChars message + (placedChars message - clearedChars message) := by omega
    have least : tokensFromChars (messageChars message) ≤
        tokensFromChars (messageChars message + (placedChars message - clearedChars message)) :=
      tokensFromChars_mono (Nat.le_add_right _ _)
    rw [grown, Nat.sub_eq_zero_of_le more, Nat.sub_zero, Nat.sub_self]
    omega
  · have shrunk : messageChars (evictMessage message) =
        messageChars message - (clearedChars message - placedChars message) := by omega
    have most : tokensFromChars (messageChars message -
      (clearedChars message - placedChars message)) ≤
        tokensFromChars (messageChars message) := tokensFromChars_mono (Nat.sub_le _ _)
    rw [shrunk, Nat.sub_eq_zero_of_le fewer, Nat.add_zero, Nat.sub_self]
    omega

def evictedOf (config : CompactionConfig) (messages : List ChatMessage) : List ChatMessage :=
  (messages.filter isEvictable).take ((messages.filter isEvictable).length - config.keepToolResults)

theorem evictFirst_tokens (config : CompactionConfig) : ∀ (count : Nat)
    (messages : List ChatMessage), (Compactor.new config).estimate (evictFirst count messages) +
        (((messages.filter isEvictable).take count).map tokensSaved).sum =
      (Compactor.new config).estimate messages +
        (((messages.filter isEvictable).take count).map tokensAdded).sum
  | count, [] => by
    rw [evictFirst, List.filter_nil, List.take_nil, List.map_nil, List.map_nil]
  | 0, message :: rest => by
    have stays : evictFirst 0 (message :: rest) = message :: rest := by simp [evictFirst]
    rw [stays, List.take_zero, List.map_nil, List.map_nil]
  | count + 1, message :: rest => by
    have tokens := evictMessage_tokens message
    have estimates : ∀ (first : ChatMessage) (others : List ChatMessage),
        (Compactor.new config).estimate (first :: others) =
          estimateTokens (messageText first) + (Compactor.new config).estimate others :=
      fun _ _ => rfl
    rw [evictFirst, List.filter_cons]
    cases evictable : isEvictable message with
    | true =>
      have later := evictFirst_tokens config count rest
      simp only [if_true, List.take_succ_cons, List.map_cons, List.sum_cons, estimates]
      omega
    | false =>
      have later := evictFirst_tokens config (count + 1) rest
      simp only [Bool.false_eq_true, if_false, estimates]
      omega

/-- **Evicting makes the prompt no larger, exactly when** the messages whose cleared results have
fewer characters than the placeholders grow by no more tokens than the other evicted messages save;
and nothing but tool results is different in any case. -/
theorem evict_smaller_iff (config : CompactionConfig) (messages : List ChatMessage) :
    ((Compactor.new config).estimate ((Compactor.new config).evictToolResults messages).1 ≤
          (Compactor.new config).estimate messages ∧
        OnlyEvicted messages ((Compactor.new config).evictToolResults messages).1) ↔
      ((evictedOf config messages).map tokensAdded).sum ≤
        ((evictedOf config messages).map tokensSaved).sum := by
  have only : OnlyEvicted messages ((Compactor.new config).evictToolResults messages).1 :=
    evictFirst_only _ messages
  have tokens := evictFirst_tokens config
    ((messages.filter isEvictable).length - config.keepToolResults) messages
  have evicted : ((Compactor.new config).evictToolResults messages).1 = evictFirst
      ((messages.filter isEvictable).length - config.keepToolResults) messages := rfl
  rw [and_iff_left only, evicted, evictedOf]
  omega

/-- Forty characters of three bytes each are more bytes than the placeholder, and fewer
characters. -/
def threeByteResult : ChatMessage :=
  ⟨.tool, [.toolResult "call-1" none [.text (String.ofList (List.replicate 40 '中'))] none]⟩

theorem threeByteResult_grows : ¬ ∀ (config : CompactionConfig) (messages : List ChatMessage),
    (Compactor.new config).estimate ((Compactor.new config).evictToolResults messages).1 ≤
        (Compactor.new config).estimate messages ∧
      OnlyEvicted messages ((Compactor.new config).evictToolResults messages).1 := by
  intro all
  have smaller := (all eagerCompactor.config [threeByteResult]).1
  exact absurd smaller (by decide +kernel)

end Ziee.Agent
