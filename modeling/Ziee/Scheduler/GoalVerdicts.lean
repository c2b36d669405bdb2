/-
**When a reply stops a goal-seeking task** (`parse_verdict`, `goal_eval.rs`).

The evaluator's reply is a free text. Five negative markers are looked for first; then `DONE`
anywhere, or `YES` at the start, is taken for the goal's completion. Both are looked for as texts,
so that a part of another word counts.

* `parseVerdict_done_iff` — what the parser takes for it.
* **`parseVerdict_positive_iff`** — **where the parser stops the task only on such a reply**.
-/

import Ziee.Scheduler.Schedule
import Ziee.Agent.RiskReplies
import Ziee.Library.WholeWords

namespace Ziee.Scheduler

open Ziee.Providers Ziee.Agent Ziee.Library.WholeWords

/-- The markers that take precedence over the `DONE` some of them contain. -/
def negativeMarkers : List String := ["NOT_DONE", "NOT DONE", "NOTDONE", "NOT YET", "INCOMPLETE"]

def parseVerdict (text : List Char) : GoalVerdict :=
  let up := upper (trim text)
  if up.isEmpty then .notDone
  else if negativeMarkers.any fun marker => contains up marker then .notDone
  else if contains up "DONE" || "YES".toList.isPrefixOf up then .done
  else .notDone

/-! ### What a reader takes for a verdict -/

structure WordSense where
  letter : Char → Bool
  negated : List (List Char) → Prop
  capitals : ∀ c, c.isUpper = true → letter c = true

variable (sense : WordSense)

/-- The word stands behind `front`: whole, and not negated by the words before it. -/
def Stands (word : String) (up front : List Char) : Prop :=
  ∃ back, up = front ++ (word.toList ++ back) ∧ Isolated sense.letter front back ∧
    ¬sense.negated (words sense.letter front)

/-- **The text says that the goal is met**: `DONE` stands somewhere, or `YES` at the start. -/
def Positive (up : List Char) : Prop :=
  (∃ front, Stands sense "DONE" up front) ∨ Stands sense "YES" up []

/-- One of the words is `DONE`, and the words before it do not negate it. -/
def AffirmsDone (read : List (List Char)) : Prop :=
  ∃ before after, read = before ++ "DONE".toList :: after ∧ ¬sense.negated before

/-- The text starts with `YES`, and that is its first word. -/
def AffirmsYes (up : List Char) : Prop :=
  "YES".toList <+: up ∧ (words sense.letter up).head? = some "YES".toList ∧ ¬sense.negated []

variable {sense}

theorem WordSense.letters (sense : WordSense) (word : String)
    (capital : ∀ c ∈ word.toList, c.isUpper = true) : ∀ c ∈ word.toList, sense.letter c = true :=
  fun c member => sense.capitals c (capital c member)

theorem stands_done_iff {up : List Char} :
    (∃ front, Stands sense "DONE" up front) ↔ AffirmsDone sense (words sense.letter up) := by
  have letters := sense.letters "DONE" (List.all_eq_true.mp rfl)
  constructor
  · rintro ⟨front, back, rfl, isolated, plain⟩
    exact ⟨_, _, words_isolated isolated (by decide) letters, plain⟩
  · rintro ⟨before, after, reads, plain⟩
    obtain ⟨front, back, same, isolated, rfl, -⟩ := exists_isolated reads
    exact ⟨front, back, same, isolated, plain⟩

theorem stands_yes_iff {up : List Char} : Stands sense "YES" up [] ↔ AffirmsYes sense up := by
  have letters := sense.letters "YES" (List.all_eq_true.mp rfl)
  constructor
  · rintro ⟨back, rfl, isolated, plain⟩
    refine ⟨List.prefix_append _ _, ?_, plain⟩
    have first := words_isolated isolated (by decide) letters
    rw [List.nil_append] at first
    rw [List.nil_append, first]
    rfl
  · rintro ⟨⟨back, rfl⟩, first, plain⟩
    obtain ⟨run, rest, same, isolated, reads⟩ :=
      words_of_start (letters 'Y' (by decide)) ("ES".toList ++ back)
    have heads : (words sense.letter ("YES".toList ++ back)).head? = some run := by
      rw [show "YES".toList ++ back = 'Y' :: ("ES".toList ++ back) from rfl, reads]
      rfl
    obtain rfl := Option.some.inj (heads.symm.trans first)
    exact ⟨rest, same, isolated, plain⟩

theorem positive_iff {up : List Char} :
    Positive sense up ↔ AffirmsDone sense (words sense.letter up) ∨ AffirmsYes sense up :=
  or_congr stands_done_iff stands_yes_iff

/-! ### What the parser takes for one -/

def Marked (up : List Char) : Prop := ∃ marker ∈ negativeMarkers, marker.toList <:+: up

/-- `DONE` occurs in the text, or `YES` starts it, whole or not. -/
def Mentions (up : List Char) : Prop := "DONE".toList <:+: up ∨ "YES".toList <+: up

theorem parseVerdict_done_iff (text : List Char) :
    parseVerdict text = .done ↔ ¬Marked (upper (trim text)) ∧ Mentions (upper (trim text)) := by
  have marked : ((negativeMarkers.any fun marker => contains (upper (trim text)) marker) = true) ↔
      Marked (upper (trim text)) := by
    simp only [List.any_eq_true, contains, decide_eq_true_eq, Marked]
  have mentions : ((contains (upper (trim text)) "DONE" ||
      "YES".toList.isPrefixOf (upper (trim text))) = true) ↔ Mentions (upper (trim text)) := by
    simp only [Bool.or_eq_true, contains, decide_eq_true_eq, List.isPrefixOf_iff_prefix, Mentions]
  unfold parseVerdict
  dsimp only
  split
  · rename_i empty
    rw [List.isEmpty_iff.mp empty]
    refine iff_of_false nofun ?_
    rintro ⟨-, there | there⟩
    · cases List.eq_nil_of_infix_nil there
    · cases List.prefix_nil.mp there
  · split
    · rename_i found
      exact iff_of_false nofun fun fine => fine.1 (marked.mp found)
    · rename_i none
      split
      · rename_i there
        exact iff_of_true rfl ⟨fun found => none (marked.mpr found), mentions.mp there⟩
      · rename_i absent
        exact iff_of_false nofun fun fine => absent (mentions.mpr fine.2)

/-- **Where the parser stops the task only on a positive reply**: a negative marker occurs, or
neither `DONE` nor a starting `YES` does, or one of them is a word of its own that is not
negated. -/
theorem parseVerdict_positive_iff (sense : WordSense) (text : List Char) :
    (parseVerdict text = .done → Positive sense (upper (trim text))) ↔
      Marked (upper (trim text)) ∨ ¬Mentions (upper (trim text)) ∨
        AffirmsDone sense (words sense.letter (upper (trim text))) ∨
          AffirmsYes sense (upper (trim text)) := by
  rw [parseVerdict_done_iff, positive_iff]
  tauto

/-- Letters, digits and the underscore make words; a negation right before a word negates it. -/
def plainSense : WordSense where
  letter c := c.isAlphanum || c == '_'
  negated before := before.getLast? ∈ ["NO", "NOT", "NEVER"].map fun word => some word.toList
  capitals c capital := by
    unfold Char.isAlphanum Char.isAlpha
    rw [capital, Bool.true_or, Bool.true_or, Bool.true_or]

/-- A task is stopped by a reply that only contains `DONE` inside another word. -/
theorem abandoned_stops : parseVerdict "abandoned".toList = .done ∧
    ¬Positive plainSense (upper (trim "abandoned".toList)) := by
  refine ⟨by decide, fun positive => ?_⟩
  have one : words plainSense.letter (upper (trim "abandoned".toList)) = ["ABANDONED".toList] := by
    decide
  rcases positive_iff.mp positive with ⟨before, after, reads, -⟩ | ⟨starts, -⟩
  · have member : "DONE".toList ∈ ["ABANDONED".toList] := by
      rw [← one, reads]
      simp
    revert member
    decide
  · revert starts
    decide

end Ziee.Scheduler
