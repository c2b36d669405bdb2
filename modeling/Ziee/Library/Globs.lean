/-
**Glob patterns over separated paths.**

A pattern is a row of pieces. A text matches it when it can be cut into parts, one for each piece.

* `Piece.Takes` — the parts that a piece takes.
* `splits_run_cons`, `splits_segment_cons`, `splits_one_cons`, `splits_char_cons` — one step of a
  matcher.
* `splits_run_run`, `splits_run_segment` — a run takes in what another star behind it would take.
-/

import Mathlib.Data.List.Forall2

namespace Ziee.Library.Globs

inductive Piece (α : Type)
  /-- Any text. -/
  | run
  /-- Any text without a separator. -/
  | segment
  /-- One item that is no separator. -/
  | one
  /-- This item. -/
  | char (item : α)
  deriving DecidableEq, Repr

section Splits

variable {α : Type} (separator : α)

def Piece.Takes : Piece α → List α → Prop
  | .run, _ => True
  | .segment, part => separator ∉ part
  | .one, part => ∃ item, item ≠ separator ∧ part = [item]
  | .char item, part => part = [item]

/-- **The text can be cut into parts that the pieces take.** -/
def Splits (pieces : List (Piece α)) (text : List α) : Prop :=
  ∃ parts : List (List α), text = parts.flatten ∧ List.Forall₂ (Piece.Takes separator) pieces parts

variable {separator} {pieces : List (Piece α)} {piece : Piece α} {text : List α} {item : α}

theorem splits_nil : Splits separator [] text ↔ text = [] := by
  constructor
  · rintro ⟨parts, whole, takes⟩
    cases takes
    exact whole
  · rintro rfl
    exact ⟨[], rfl, .nil⟩

theorem splits_cons : Splits separator (piece :: pieces) text ↔
    ∃ part rest, text = part ++ rest ∧ piece.Takes separator part ∧
      Splits separator pieces rest := by
  constructor
  · rintro ⟨parts, whole, takes⟩
    obtain ⟨part, others, first, later, rfl⟩ := List.forall₂_cons_left_iff.mp takes
    exact ⟨part, others.flatten, whole, first, others, rfl, later⟩
  · rintro ⟨part, rest, whole, first, others, rfl, later⟩
    exact ⟨part :: others, whole, .cons first later⟩

/-! ### One step -/

theorem splits_run_nil : Splits separator (.run :: pieces) [] ↔ Splits separator pieces [] := by
  rw [splits_cons]
  constructor
  · rintro ⟨part, rest, whole, -, later⟩
    rwa [(List.append_eq_nil_iff.mp whole.symm).2] at later
  · exact fun later => ⟨[], [], rfl, trivial, later⟩

theorem splits_run_cons : Splits separator (.run :: pieces) (item :: text) ↔
    Splits separator pieces (item :: text) ∨ Splits separator (.run :: pieces) text := by
  simp only [splits_cons]
  constructor
  · rintro ⟨part, rest, whole, -, later⟩
    rcases List.cons_eq_append_iff.mp whole with ⟨rfl, rfl⟩ | ⟨part, rfl, rfl⟩
    · exact Or.inl later
    · exact Or.inr ⟨part, rest, rfl, trivial, later⟩
  · rintro (now | ⟨part, rest, rfl, -, later⟩)
    · exact ⟨[], item :: text, rfl, trivial, now⟩
    · exact ⟨item :: part, rest, rfl, trivial, later⟩

theorem splits_segment_nil :
    Splits separator (.segment :: pieces) [] ↔ Splits separator pieces [] := by
  rw [splits_cons]
  constructor
  · rintro ⟨part, rest, whole, -, later⟩
    rwa [(List.append_eq_nil_iff.mp whole.symm).2] at later
  · exact fun later => ⟨[], [], rfl, List.not_mem_nil, later⟩

theorem splits_segment_cons : Splits separator (.segment :: pieces) (item :: text) ↔
    Splits separator pieces (item :: text) ∨
      item ≠ separator ∧ Splits separator (.segment :: pieces) text := by
  simp only [splits_cons]
  constructor
  · rintro ⟨part, rest, whole, free, later⟩
    rcases List.cons_eq_append_iff.mp whole with ⟨rfl, rfl⟩ | ⟨part, rfl, rfl⟩
    · exact Or.inl later
    · obtain ⟨other, free⟩ := List.ne_and_not_mem_of_not_mem_cons free
      exact Or.inr ⟨Ne.symm other, part, rest, rfl, free, later⟩
  · rintro (now | ⟨other, part, rest, rfl, free, later⟩)
    · exact ⟨[], item :: text, rfl, List.not_mem_nil, now⟩
    · refine ⟨item :: part, rest, rfl, fun member => ?_, later⟩
      rcases List.mem_cons.mp member with same | inside
      · exact other same.symm
      · exact free inside

theorem splits_one_nil : ¬Splits separator (.one :: pieces) [] := by
  rw [splits_cons]
  rintro ⟨_, rest, whole, ⟨item, -, rfl⟩, -⟩
  cases whole

theorem splits_one_cons : Splits separator (.one :: pieces) (item :: text) ↔
    item ≠ separator ∧ Splits separator pieces text := by
  rw [splits_cons]
  constructor
  · rintro ⟨_, rest, whole, ⟨item, other, rfl⟩, later⟩
    cases whole
    exact ⟨other, later⟩
  · rintro ⟨other, later⟩
    exact ⟨[item], text, rfl, ⟨item, other, rfl⟩, later⟩

theorem splits_char_nil : ¬Splits separator (.char item :: pieces) [] := by
  rw [splits_cons]
  rintro ⟨_, rest, whole, rfl, -⟩
  cases whole

theorem splits_char_cons {other : α} : Splits separator (.char item :: pieces) (other :: text) ↔
    other = item ∧ Splits separator pieces text := by
  rw [splits_cons]
  constructor
  · rintro ⟨_, rest, whole, rfl, later⟩
    cases whole
    exact ⟨rfl, later⟩
  · rintro ⟨rfl, later⟩
    exact ⟨[other], text, rfl, rfl, later⟩

/-! ### Stars behind a run -/

theorem splits_run_star (nothing : piece.Takes separator []) :
    Splits separator (.run :: piece :: pieces) text ↔ Splits separator (.run :: pieces) text := by
  simp only [splits_cons]
  constructor
  · rintro ⟨part, _, whole, -, part', rest, rfl, -, later⟩
    exact ⟨part ++ part', rest, by rw [whole, List.append_assoc], trivial, later⟩
  · rintro ⟨part, rest, whole, -, later⟩
    exact ⟨part, rest, whole, trivial, [], rest, rfl, nothing, later⟩

theorem splits_run_run :
    Splits separator (.run :: .run :: pieces) text ↔ Splits separator (.run :: pieces) text :=
  splits_run_star trivial

theorem splits_run_segment :
    Splits separator (.run :: .segment :: pieces) text ↔ Splits separator (.run :: pieces) text :=
  splits_run_star List.not_mem_nil

end Splits

end Ziee.Library.Globs
