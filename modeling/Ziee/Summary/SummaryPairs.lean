/-
**A summary does not tear a tool round** (`apply_summary_block`).

The number of messages that a summary covers need not end at a round of the outbound list: the cut
is moved behind the tool messages that it falls on.

* `Rounds` — each message with tool uses is followed by the tool messages with its results, and
  there is no other tool message.
* **`summary_keeps_rounds`** — **the list with the summary has whole rounds**, unless one of the
  system messages in front asked for a tool: the summary is put right behind these.
-/

import Ziee.Summary.Summarizer

namespace Ziee.Summary

open Ziee.Providers

/-- **Each round of tools is whole, and every tool message belongs to one.** -/
inductive Rounds : List ChatMessage → Prop
  | nil : Rounds []
  | plain {message : ChatMessage} {rest : List ChatMessage} (role : message.role ≠ .tool)
      (silent : message.toolUseIds = []) (later : Rounds rest) : Rounds (message :: rest)
  | round {request : ChatMessage} {results rest : List ChatMessage} (role : request.role ≠ .tool)
      (asks : request.toolUseIds ≠ []) (tools : ∀ result ∈ results, result.role = .tool)
      (exact : (results.flatMap ChatMessage.toolResultIds).Perm request.toolUseIds)
      (later : Rounds rest) : Rounds (request :: (results ++ rest))

section Cut

variable {systems messages rest : List ChatMessage}

theorem Rounds.tail {message : ChatMessage} (rounds : Rounds (message :: rest))
    (silent : message.toolUseIds = []) : Rounds rest := by
  cases rounds with
  | plain role silent later => exact later
  | round role asks tools exact later => exact absurd silent asks

theorem Rounds.answered {message : ChatMessage} (rounds : Rounds (message :: rest))
    (asks : message.toolUseIds ≠ []) : ∃ result ∈ rest.head?, result.role = .tool := by
  cases rounds with
  | plain role silent later => exact absurd silent asks
  | @round _ results later role _ tools exact others =>
    cases results with
    | nil => exact absurd exact.symm.eq_nil asks
    | cons result results => exact ⟨result, rfl, tools result List.mem_cons_self⟩

theorem rounds_append_iff
    (plain : ∀ message ∈ systems, message.role = .system ∧ message.toolUseIds = []) :
    Rounds (systems ++ rest) ↔ Rounds rest := by
  induction systems with
  | nil => exact Iff.rfl
  | cons message systems ih =>
    obtain ⟨here, others⟩ := List.forall_mem_cons.mp plain
    rw [List.cons_append, ← ih others]
    exact ⟨fun rounds => rounds.tail here.2, Rounds.plain (by simp [here.1]) here.2⟩

/-- **Behind a cut that is moved over tool messages** there are whole rounds. -/
theorem Rounds.drop (rounds : Rounds messages) (count : Nat) :
    Rounds ((messages.drop count).dropWhile fun message => message.role == .tool) := by
  induction rounds generalizing count with
  | nil =>
    rw [List.drop_nil]
    exact Rounds.nil
  | plain role silent later ih =>
    cases count with
    | zero =>
      rw [List.drop_zero, List.dropWhile_cons_of_neg (by simp [role])]
      exact Rounds.plain role silent later
    | succ count => exact ih count
  | @round request results rest role asks tools exact later ih =>
    cases count with
    | zero =>
      rw [List.drop_zero, List.dropWhile_cons_of_neg (by simp [role])]
      exact Rounds.round role asks tools exact later
    | succ count =>
      have passed : ∀ message ∈ results.drop count, (message.role == .tool) = true :=
        fun message member => by simp [tools message (List.mem_of_mem_drop member)]
      rw [List.drop_succ_cons, List.drop_append, List.dropWhile_append_of_pos passed]
      exact ih (count - results.length)

end Cut

/-- **A summary keeps the rounds whole**, whatever the number that it covers. -/
theorem summary_keeps_rounds (summary : ConversationSummary) (messages : List ChatMessage)
    (rounds : Rounds messages)
    (silent : ∀ message ∈ messages.takeWhile (fun message => message.role == .system),
      message.toolUseIds = []) : Rounds (applySummaryBlock summary messages) := by
  have passed : ∀ (test : ChatMessage → Bool) (list : List ChatMessage),
      list.drop (list.takeWhile test).length = list.dropWhile test := fun test list =>
    (congrArg (List.drop _) List.takeWhile_append_dropWhile.symm).trans List.drop_left
  have plain : ∀ message ∈ messages.takeWhile (fun message => message.role == .system),
      message.role = .system ∧ message.toolUseIds = [] := fun message member =>
    ⟨by simpa using List.mem_takeWhile_imp member, silent message member⟩
  have others : Rounds (messages.dropWhile fun message => message.role == .system) :=
    (rounds_append_iff plain).mp (by rwa [List.takeWhile_append_dropWhile])
  have front := List.takeWhile_prefix (fun message : ChatMessage => message.role == .system)
    (l := messages)
  have inside := front.length_le
  unfold applySummaryBlock
  dsimp only
  rw [← List.prefix_iff_eq_take.mp front, rounds_append_iff plain]
  refine Rounds.plain (by simp [summaryMessage]) rfl ?_
  unfold dropUntil
  dsimp only
  rw [← passed] at others
  generalize (messages.takeWhile fun message => message.role == .system).length = start at *
  split
  · rename_i further
    obtain ⟨count, reached⟩ := Nat.exists_eq_add_of_lt further
    rw [← List.drop_drop, passed, reached, Nat.add_assoc, ← List.drop_drop]
    exact others.drop (count + 1)
  · have here : min (start + summary.messageCount) messages.length = start := by omega
    rwa [here]

def clockRound (role : Role) : List ChatMessage :=
  ⟨role, [.toolUse "1" "clock" .null]⟩ :: ([⟨.tool, [.toolResult "1" none [] none]⟩] ++ [])

theorem clockRound_rounds {role : Role} (asking : role ≠ .tool) : Rounds (clockRound role) :=
  Rounds.round asking (List.cons_ne_nil _ _) (by decide) (List.Perm.refl ["1"]) Rounds.nil

theorem clockRound_kept : Rounds
    (applySummaryBlock ⟨"They met.", none, 1⟩ (clockRound .assistant)) :=
  summary_keeps_rounds _ _ (clockRound_rounds (by decide)) (by decide)

/-- Behind a system message that asks, the summary is put before the answer. -/
theorem systemRound_torn : ¬ ∀ summary messages, Rounds messages →
    Rounds (applySummaryBlock summary messages) := by
  intro kept
  have torn : Rounds (⟨.system, [.toolUse "1" "clock" .null]⟩ :: _ :: _) :=
    kept ⟨"They met.", none, 0⟩ (clockRound .system) (clockRound_rounds (by decide))
  obtain ⟨result, first, role⟩ := torn.answered (List.cons_ne_nil _ _)
  cases first
  cases role

end Ziee.Summary
