/-
**A set of integers, enumerated by its next element.**

A function says which element of the set comes next after a point, if any does.

* **`exists_nth`** — **every element behind the point is one of them**.
* `Consecutive` — two elements with none between; **`consecutive_iff_nth`** — **they are one pair
  after the other**.
-/

import Mathlib.Order.Bounds.Basic

namespace Ziee.Library.Enumerations

structure Enumerates (next : Int → Option Int) (elements : Set Int) : Prop where
  least : ∀ point element, next point = some element → IsLeast {x ∈ elements | point < x} element
  ends : ∀ point, next point = none → ∀ x ∈ elements, x ≤ point

/-- The elements behind a point, counted from zero. -/
def nth (next : Int → Option Int) (point : Int) : Nat → Option Int
  | 0 => next point
  | count + 1 => (nth next point count).bind next

theorem nth_succ {next : Int → Option Int} {point start : Int} (found : next point = some start)
    (count : Nat) : nth next point (count + 1) = nth next start count := by
  induction count with
  | zero => simp only [nth, found, Option.bind_some]
  | succ count ih => rw [nth, ih, nth]

theorem exists_nth_of_le {next : Int → Option Int} {point last : Int} {low high : Nat}
    (reached : nth next point high = some last) (before : low ≤ high) :
    ∃ element, nth next point low = some element := by
  induction before generalizing last with
  | refl => exact ⟨last, reached⟩
  | step _ ih =>
    obtain ⟨previous, earlier, -⟩ := Option.bind_eq_some_iff.mp reached
    exact ih earlier

structure Consecutive (elements : Set Int) (point first second : Int) : Prop where
  behind : point < first
  first_mem : first ∈ elements
  second_mem : second ∈ elements
  ordered : first < second
  between : ∀ x ∈ elements, first < x → second ≤ x

section Elements

variable {next : Int → Option Int} {elements : Set Int} {point first second : Int} {count : Nat}
  (enumerates : Enumerates next elements)
include enumerates

theorem nth_mem (reached : nth next point count = some first) :
    first ∈ elements ∧ point < first := by
  induction count generalizing first with
  | zero => exact (enumerates.least point first reached).1
  | succ count ih =>
    obtain ⟨previous, before, later⟩ := Option.bind_eq_some_iff.mp reached
    obtain ⟨member, behind⟩ := (enumerates.least previous first later).1
    exact ⟨member, (ih before).2.trans behind⟩

/-- **Every element behind the point is one of them.** -/
theorem exists_nth (member : first ∈ elements) (behind : point < first) :
    ∃ count, nth next point count = some first := by
  -- The elements before are counted down: each step leaves fewer points.
  induction size : (first - point).toNat using Nat.strongRecOn generalizing point with
  | _ size ih =>
    cases found : next point with
    | none => exact absurd (enumerates.ends point found first member) (by omega)
    | some start =>
      obtain ⟨⟨start_mem, after⟩, least⟩ := enumerates.least point start found
      have early : start ≤ first := least ⟨member, behind⟩
      rcases Int.lt_or_eq_of_le early with before | same
      · obtain ⟨count, reached⟩ := ih (first - start).toNat (by omega) before rfl
        exact ⟨count + 1, (nth_succ found count).trans reached⟩
      · exact ⟨0, by rw [nth, found, same]⟩

/-- **Consecutive elements are one pair after the other.** -/
theorem consecutive_iff_nth : Consecutive elements point first second ↔
    ∃ count, nth next point count = some first ∧ nth next point (count + 1) = some second := by
  constructor
  · intro pair
    obtain ⟨count, reached⟩ := exists_nth enumerates pair.first_mem pair.behind
    refine ⟨count, reached, ?_⟩
    rw [nth, reached, Option.bind_some]
    cases found : next first with
    | none => exact absurd (enumerates.ends first found second pair.second_mem) (by
        have := pair.ordered
        omega)
    | some other =>
      obtain ⟨⟨other_mem, after⟩, least⟩ := enumerates.least first other found
      have near : other ≤ second := least ⟨pair.second_mem, pair.ordered⟩
      have far : second ≤ other := pair.between other other_mem after
      rw [Int.le_antisymm near far]
  · rintro ⟨count, reached, later⟩
    obtain ⟨first_mem, behind⟩ := nth_mem enumerates reached
    rw [nth, reached, Option.bind_some] at later
    obtain ⟨⟨second_mem, ordered⟩, least⟩ := enumerates.least first second later
    exact ⟨behind, first_mem, second_mem, ordered, fun x member after => least ⟨member, after⟩⟩

end Elements

end Ziee.Library.Enumerations
