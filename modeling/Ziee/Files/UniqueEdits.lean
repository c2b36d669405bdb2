/-
**Which replacements are made** (`str_replace`).

The occurrences are counted one after the other, so that two which overlap count as one.

* `OccursAt` — the old text occurs behind a start of the content, overlapping another or not.
* **`strReplace_exact_iff`** — **a replacement is exact unless the occurrences are crossed**.
-/

import Ziee.Files.FileVersions

namespace Ziee.Files

open Framing

section Edits

variable {content old new : List Char}

def OccursAt (content old start : List Char) : Prop := start ++ old <+: content

/-- **The content is changed exactly when the old text occurs once**, and only there. -/
def Exact (content old new : List Char) : Prop :=
  (∀ text, strReplace content old new = .ok (.changed text) ↔
    ∃ start rest, content = start ++ old ++ rest ∧ text = start ++ new ++ rest ∧
      ∀ other, OccursAt content old other → other = start) ∧
  ((¬∃ start, OccursAt content old start ∧ ∀ other, OccursAt content old other → other = start) →
    ∃ error, strReplace content old new = .error error)

/-- **Two occurrences, and no two that do not overlap.** -/
def Crossed (content old : List Char) : Prop :=
  (∃ start other, OccursAt content old start ∧ OccursAt content old other ∧ start ≠ other) ∧
    ∀ start other, OccursAt content old start → OccursAt content old other →
      other.length < start.length + old.length

inductive Edited (content old new : List Char) : Except FileError EditOutcome → Prop
  | absent (error : FileError) (none : ∀ start, ¬OccursAt content old start) :
      Edited content old new (.error error)
  | alone (start rest : List Char) (here : content = start ++ old ++ rest)
      (first : ∀ other, OccursAt content old other → start.length ≤ other.length)
      (last : ∀ other, OccursAt content old other → other.length < start.length + old.length) :
      Edited content old new (.ok (.changed (start ++ new ++ rest)))
  | several (error : FileError) (start other : List Char) (here : OccursAt content old start)
      (there : OccursAt content old other) (behind : start.length + old.length ≤ other.length) :
      Edited content old new (.error error)

theorem countMatches_eq_zero_iff (nonempty : old ≠ []) (text : List Char) :
    countMatches old text.length text = 0 ↔ cut old text = none := by
  cases text with
  | nil => simp [countMatches, cut, nonempty]
  | cons c text =>
    rw [List.length_cons, countMatches]
    cases cut old (c :: text) <;> simp

theorem strReplace_edited (nonempty : old ≠ []) (different : old ≠ new) :
    Edited content old new (strReplace content old new) := by
  unfold strReplace
  rw [if_neg nonempty, if_neg different]
  cases found : cut old content with
  | none =>
    refine Edited.absent _ fun start => ?_
    rintro ⟨rest, rfl⟩
    obtain ⟨before, after, here, -⟩ := cut_of_append old start rest
    rw [found] at here
    cases here
  | some pieces =>
    obtain ⟨start, rest⟩ := pieces
    have here := cut_some found
    have first : ∀ other, OccursAt content old other → start.length ≤ other.length := by
      rintro other ⟨after, same⟩
      obtain ⟨before, tail, there, bound⟩ := cut_of_append old other after
      rw [same, found] at there
      cases there
      exact bound
    dsimp only
    by_cases more : countMatches old rest.length rest = 0
    · rw [more, if_pos rfl]
      refine Edited.alone start rest here first fun other occurs => ?_
      -- an occurrence behind the first would be counted
      by_contra behind
      obtain ⟨after, same⟩ := occurs
      have inside : start ++ old <+: other ++ old ++ after := ⟨rest, by rw [← here, same]⟩
      rw [List.append_assoc] at inside
      obtain ⟨gap, rfl⟩ := List.prefix_of_prefix_length_le inside (List.prefix_append other _)
        (by rw [List.length_append]; omega)
      have tail : gap ++ old ++ after = rest := by simpa [here] using same
      obtain ⟨before, _, there, -⟩ := cut_of_append old gap after
      rw [tail, (countMatches_eq_zero_iff nonempty rest).mp more] at there
      cases there
    · rw [if_neg (by omega)]
      obtain ⟨⟨gap, tail⟩, later⟩ := Option.ne_none_iff_exists'.mp fun none =>
        more ((countMatches_eq_zero_iff nonempty rest).mpr none)
      refine Edited.several _ start (start ++ old ++ gap) ⟨rest, here.symm⟩ ⟨tail, ?_⟩ ?_
      · rw [here, cut_some later]
        simp
      · simp

/-- **A replacement is exact unless the occurrences are crossed.** -/
theorem strReplace_exact_iff (content old new : List Char) (nonempty : old ≠ [])
    (different : old ≠ new) : Exact content old new ↔ ¬Crossed content old := by
  have same : ∀ {start other}, OccursAt content old start → OccursAt content old other →
      start.length = other.length → start = other := by
    intro start other here there lengths
    exact (List.prefix_of_prefix_length_le ((List.prefix_append start old).trans here)
      ((List.prefix_append other old).trans there) lengths.le).eq_of_length lengths
  unfold Exact
  have edited := @strReplace_edited content old new nonempty different
  generalize strReplace content old new = result at edited
  cases edited with
  | absent error none =>
    refine iff_of_true ⟨fun text => iff_of_false nofun ?_, fun _ => ⟨error, rfl⟩⟩ ?_
    · rintro ⟨start, rest, here, -⟩
      exact none start ⟨rest, here.symm⟩
    · rintro ⟨⟨start, -, here, -⟩, -⟩
      exact none start here
  | alone start rest here first last =>
    have occurs : OccursAt content old start := ⟨rest, here.symm⟩
    by_cases single : ∀ other, OccursAt content old other → other = start
    · refine iff_of_true
        ⟨fun text => ⟨?_, ?_⟩, fun several => absurd ⟨start, occurs, single⟩ several⟩ ?_
      · rintro ⟨⟩
        exact ⟨start, rest, here, rfl, single⟩
      · rintro ⟨other, tail, there, rfl, -⟩
        obtain rfl := single other ⟨tail, there.symm⟩
        rw [here] at there
        rw [List.append_cancel_left there]
      · rintro ⟨⟨one, other, here, there, apart⟩, -⟩
        exact apart ((single one here).trans (single other there).symm)
    · refine iff_of_false (fun exact => ?_) (not_not.mpr ⟨?_, fun one other here there => ?_⟩)
      · obtain ⟨error, refused⟩ := exact.2 fun ⟨one, here, all⟩ =>
          single fun other there => (all other there).trans (all start occurs).symm
        cases refused
      · obtain ⟨other, there, apart⟩ := not_forall₂.mp single
        exact ⟨start, other, occurs, there, Ne.symm apart⟩
      · exact (last other there).trans_le (Nat.add_le_add_right (first one here) _)
  | several error start other here there behind =>
    have long := List.length_pos_iff.mpr nonempty
    refine iff_of_true ⟨fun text => iff_of_false nofun ?_, fun _ => ⟨error, rfl⟩⟩ ?_
    · rintro ⟨one, rest, -, -, all⟩
      rw [all other there, ← all start here] at behind
      omega
    · rintro ⟨-, crossing⟩
      exact absurd (crossing start other here there) (by omega)

end Edits

theorem hello_exact : Exact "hello world".toList "world".toList "rust".toList ↔
    ¬Crossed "hello world".toList "world".toList :=
  strReplace_exact_iff _ _ _ (by decide) (by decide)

/-- Two places in three letters are counted as one. -/
theorem triple_changed : ¬ ∀ content old new, old ≠ [] → old ≠ new → Exact content old new := by
  intro exact
  have changed := ((exact "aaa".toList "aa".toList "b".toList (by decide) (by decide)).1
    "ba".toList).mp (by decide)
  obtain ⟨start, rest, -, -, all⟩ := changed
  have first : [] = start := all [] ⟨['a'], rfl⟩
  have second : ['a'] = start := all ['a'] ⟨[], rfl⟩
  rw [← first] at second
  cases second

end Ziee.Files
