/-
**Lines that are joined again.**

The lines of a text keep the mark at their ends; bodies are lines without it. Bodies that are
joined by marks are the lines of the joined text, but for an empty body at its end.

* `linesOf_of_ends`, `linesOf_of_open` — the lines of a text that ends with a mark, or does not.
* **`linesOf_join_ended`**, **`linesOf_join_open`** — **the lines of joined bodies**, with a mark
  behind the last body and without.
* `exists_middle_iff` — what stands before and behind a stretch of known length.
* `filter_zipIdx` — numbered lines whose numbers lie in a range are a stretch of the lines.
-/

import Ziee.Library.Rewriting

namespace Ziee.Library.JoinedLines

open Rewriting

variable {α : Type} {mark : α} {bodies front back : List (List α)} {last text : List α}

def ended (mark : α) (bodies : List (List α)) : List (List α) :=
  bodies.map fun body => body ++ [mark]

@[simp] theorem ended_nil : ended mark [] = [] := rfl

@[simp] theorem length_ended : (ended mark bodies).length = bodies.length := List.length_map _

theorem ended_append : ended mark (front ++ back) = ended mark front ++ ended mark back :=
  List.map_append

theorem take_ended (count : Nat) :
    (ended mark bodies).take count = ended mark (bodies.take count) := List.map_take.symm

theorem drop_ended (count : Nat) :
    (ended mark bodies).drop count = ended mark (bodies.drop count) := List.map_drop.symm

theorem mem_ended {line : List α} :
    line ∈ ended mark bodies ↔ ∃ body ∈ bodies, body ++ [mark] = line := List.mem_map

theorem join_ended (nonempty : bodies ≠ []) :
    [mark].intercalate bodies ++ [mark] = (ended mark bodies).flatten := by
  induction bodies with
  | nil => exact absurd rfl nonempty
  | cons body bodies ih =>
    cases bodies with
    | nil => simp [ended]
    | cons next bodies =>
      rw [List.intercalate_cons_cons, List.append_assoc, ih (List.cons_ne_nil _ _)]
      rfl

theorem join_open (bodies : List (List α)) (last : List α) :
    [mark].intercalate (bodies ++ [last]) = (ended mark bodies).flatten ++ last := by
  induction bodies with
  | nil => simp
  | cons body bodies ih =>
    rw [List.cons_append, List.intercalate_cons_of_ne_nil (by simp), ih]
    simp [ended]

theorem lines_ended_append {lines : List (List α)} (missing : ∀ body ∈ bodies, mark ∉ body)
    (later : Lines mark lines) : Lines mark (ended mark bodies ++ lines) := by
  induction bodies with
  | nil => exact later
  | cons body bodies ih =>
    obtain ⟨here, others⟩ := List.forall_mem_cons.mp missing
    exact Lines.ended here (ih others)

theorem shape_of_lines {lines : List (List α)} (made : Lines mark lines) :
    ∃ bodies, (∀ body ∈ bodies, mark ∉ body) ∧ (lines = ended mark bodies ∨
        ∃ last, lines = ended mark bodies ++ [last] ∧ last ≠ [] ∧ mark ∉ last) := by
  induction made with
  | nil => exact ⟨[], by simp, Or.inl rfl⟩
  | @last body nonempty missing => exact ⟨[], by simp, Or.inr ⟨body, rfl, nonempty, missing⟩⟩
  | @ended body lines missing made ih =>
    obtain ⟨bodies, free, shape⟩ := ih
    refine ⟨body :: bodies, List.forall_mem_cons.mpr ⟨missing, free⟩, ?_⟩
    rcases shape with rfl | ⟨last, rfl, nonempty, absent⟩
    · exact Or.inl rfl
    · exact Or.inr ⟨last, rfl, nonempty, absent⟩

theorem getLast?_flatten_ended (nonempty : bodies ≠ []) :
    (ended mark bodies).flatten.getLast? = some mark := by
  rw [← join_ended nonempty, List.getLast?_append]
  rfl

theorem getLast?_open (absent : mark ∉ last) (nonempty : last ≠ []) (front : List α) :
    (front ++ last).getLast? ≠ some mark := by
  intro ends
  rw [List.getLast?_append, List.getLast?_eq_some_getLast nonempty, Option.some_or] at ends
  exact absent (Option.some.inj ends ▸ List.getLast_mem nonempty)

theorem exists_middle_iff {β γ : Type} {relates : β → γ → Prop}
    {before behind front back middle : List β} {read : List γ}
    (heads : before.length = front.length) (tails : behind.length = back.length)
    (related : List.Forall₂ relates middle read) :
    (∃ other, before ++ middle ++ behind = front ++ other ++ back ∧
      List.Forall₂ relates other read) ↔ before = front ∧ behind = back := by
  constructor
  · rintro ⟨other, same, others⟩
    have long : middle.length = other.length := related.length_eq.trans others.length_eq.symm
    rw [List.append_assoc, List.append_assoc] at same
    obtain ⟨first, rest⟩ := List.append_inj same heads
    exact ⟨first, (List.append_inj rest long).2⟩
  · rintro ⟨rfl, rfl⟩
    exact ⟨middle, rfl, related⟩

theorem filter_zipIdx {β : Type} (first low high : Nat) (items : List β) :
    (items.zipIdx first).filter (fun item => low ≤ item.2 && item.2 ≤ high) =
      ((items.take (high + 1 - first)).drop (low - first)).zipIdx (max low first) := by
  induction items generalizing first with
  | nil => simp
  | cons item items ih =>
    rw [List.zipIdx_cons, List.filter_cons, ih (first + 1)]
    rcases Nat.lt_or_ge high first with past | within
    · have none : high + 1 - first = 0 := by omega
      have later : high + 1 - (first + 1) = 0 := by omega
      rw [none, later, if_neg (by simp; omega)]
      simp
    · have shorter : high + 1 - first = (high + 1 - (first + 1)) + 1 := by omega
      rw [shorter, List.take_succ_cons]
      rcases Nat.lt_or_ge first low with early | reached
      · have skipped : low - first = (low - (first + 1)) + 1 := by omega
        rw [skipped, List.drop_succ_cons, if_neg (by simp; omega),
          Nat.max_eq_left (Nat.le_of_lt early), Nat.max_eq_left (by omega)]
      · rw [if_pos (by simp; omega), Nat.sub_eq_zero_of_le reached,
          Nat.sub_eq_zero_of_le (by omega), Nat.max_eq_right reached, Nat.max_eq_right (by omega)]
        rfl

variable [DecidableEq α]

/-- **The lines of joined bodies**, when a mark stands behind the last one. -/
theorem linesOf_join_ended (missing : ∀ body ∈ bodies, mark ∉ body) (nonempty : bodies ≠ []) :
    linesOf mark ([mark].intercalate bodies ++ [mark]) = ended mark bodies := by
  have made : Lines mark (ended mark bodies ++ []) := lines_ended_append missing Lines.nil
  rw [List.append_nil] at made
  rw [join_ended nonempty, linesOf_flatten made]

/-- **The lines of joined bodies**, when none does: an empty last body is not a line. -/
theorem linesOf_join_open (missing : ∀ body ∈ bodies, mark ∉ body) (absent : mark ∉ last) :
    linesOf mark ([mark].intercalate (bodies ++ [last])) =
      ended mark bodies ++ if last = [] then [] else [last] := by
  rw [join_open]
  by_cases empty : last = []
  · have made : Lines mark (ended mark bodies ++ []) := lines_ended_append missing Lines.nil
    rw [List.append_nil] at made
    rw [if_pos empty, empty, List.append_nil, List.append_nil, linesOf_flatten made]
  · have made : Lines mark (ended mark bodies ++ [last]) :=
      lines_ended_append missing (Lines.last empty absent)
    rw [if_neg empty, ← linesOf_flatten made]
    simp

theorem linesOf_of_ends (ends : text.getLast? = some mark) :
    ∃ bodies, bodies ≠ [] ∧ linesOf mark text = ended mark bodies ∧
      ∀ body ∈ bodies, mark ∉ body := by
  obtain ⟨bodies, missing, shape⟩ := shape_of_lines (@lines_linesOf _ _ mark text)
  have whole : (linesOf mark text).flatten = text := flatten_linesOf text
  rcases shape with same | ⟨last, same, nonempty, absent⟩
  · refine ⟨bodies, ?_, same, missing⟩
    rintro rfl
    rw [same] at whole
    rw [← whole] at ends
    cases ends
  · rw [same, List.flatten_append, List.flatten_singleton] at whole
    rw [← whole] at ends
    exact absurd ends (getLast?_open absent nonempty _)

theorem linesOf_of_open (nonempty : text ≠ []) (closes : text.getLast? ≠ some mark) :
    ∃ bodies last, linesOf mark text = ended mark bodies ++ [last] ∧
      (∀ body ∈ bodies, mark ∉ body) ∧ last ≠ [] ∧ mark ∉ last := by
  obtain ⟨bodies, missing, shape⟩ := shape_of_lines (@lines_linesOf _ _ mark text)
  have whole : (linesOf mark text).flatten = text := flatten_linesOf text
  rcases shape with same | ⟨last, same, filled, absent⟩
  · rw [same] at whole
    refine absurd ?_ closes
    rw [← whole]
    apply getLast?_flatten_ended
    rintro rfl
    exact nonempty whole.symm
  · exact ⟨bodies, last, same, missing, filled, absent⟩

end Ziee.Library.JoinedLines
