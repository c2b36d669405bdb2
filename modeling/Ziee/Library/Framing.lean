/-
**Frames between delimiters.**

A frame ends at a delimiter: at the first occurrence of the first delimiter, in the order of
preference, that occurs at all. What occurs depends on how much of the text is there.

* `first` — the first frame of a text; `frames` — all of them.
* **`first_start`** — a start of a complete text has the same first frame, or none.
-/

import Mathlib.Data.List.Infix

namespace Framing

variable {α : Type} [DecidableEq α] {delim other event rest text part more found : List α}
  {delims : List (List α)}

/-- **The first occurrence** of a delimiter: what stands before it and after it. -/
def cut (delim : List α) : List α → Option (List α × List α)
  | [] => if delim = [] then some ([], []) else none
  | item :: text =>
    if delim <+: item :: text then some ([], (item :: text).drop delim.length)
    else (cut delim text).map fun pieces => (item :: pieces.1, pieces.2)

section Cut

theorem cut_some (here : cut delim text = some (event, rest)) : text = event ++ delim ++ rest := by
  induction text generalizing event with
  | nil =>
    rw [cut] at here
    by_cases empty : delim = []
    · rw [if_pos empty] at here
      cases here
      simp [empty]
    · rw [if_neg empty] at here
      cases here
  | cons item text ih =>
    rw [cut] at here
    by_cases starts : delim <+: item :: text
    · rw [if_pos starts] at here
      cases here
      obtain ⟨rest, split⟩ := starts
      simp [← split]
    · rw [if_neg starts] at here
      obtain ⟨⟨before, after⟩, later, same⟩ := Option.map_eq_some_iff.mp here
      cases same
      simp [ih later]

theorem cut_of_append (delim event rest : List α) :
    ∃ before after, cut delim (event ++ delim ++ rest) = some (before, after) ∧
      before.length ≤ event.length := by
  induction event with
  | nil =>
    rw [List.nil_append]
    cases split : delim ++ rest with
    | nil =>
      obtain ⟨rfl, rfl⟩ := List.append_eq_nil_iff.mp split
      exact ⟨[], [], rfl, le_rfl⟩
    | cons item text =>
      refine ⟨[], (item :: text).drop delim.length, ?_, le_rfl⟩
      rw [cut, if_pos (split ▸ List.prefix_append delim rest)]
  | cons item event ih =>
    obtain ⟨before, after, here, bound⟩ := ih
    rw [List.cons_append, List.cons_append, cut]
    by_cases starts : delim <+: item :: (event ++ delim ++ rest)
    · exact ⟨[], _, if_pos starts, Nat.zero_le _⟩
    · refine ⟨item :: before, after, ?_, Nat.succ_le_succ bound⟩
      rw [if_neg starts, here]
      rfl

/-- **A delimiter is the first** when it does not occur in what stands before it, even with the most
of itself. -/
theorem cut_eq_iff (nonempty : delim ≠ []) :
    cut delim (event ++ delim ++ rest) = some (event, rest) ↔
      ¬delim <:+: event ++ delim.dropLast := by
  have length : delim.dropLast.length = delim.length - 1 := List.length_dropLast
  have positive := List.length_pos_iff.mpr nonempty
  constructor
  · rintro here ⟨before, after, early⟩
    -- an earlier occurrence would have been the first
    have whole : delim = delim.dropLast ++ [delim.getLast nonempty] :=
      (List.dropLast_append_getLast nonempty).symm
    have split : event ++ delim ++ rest = before ++ delim ++
      (after ++ delim.getLast nonempty :: rest) := by
      conv_lhs => rw [whole]
      rw [← List.append_assoc event, ← early]
      simp
    obtain ⟨first, later, there, bound⟩ := cut_of_append delim before
      (after ++ delim.getLast nonempty :: rest)
    rw [← split, here] at there
    cases there
    have lengths := congrArg List.length early
    simp only [List.length_append] at lengths
    omega
  · intro absent
    obtain ⟨before, after, here, bound⟩ := cut_of_append delim event rest
    have split := cut_some here
    rcases bound.lt_or_eq with shorter | same
    · refine absurd ?_ absent
      have start : before ++ delim <+: event ++ delim.dropLast := by
        have inside : event ++ delim.dropLast <+: event ++ delim ++ rest := by
          rw [List.append_assoc, List.prefix_append_right_inj]
          exact (List.dropLast_prefix delim).trans (List.prefix_append delim rest)
        refine List.prefix_of_prefix_length_le ⟨after, split.symm⟩ inside ?_
        simp only [List.length_append]
        omega
      exact (List.suffix_append before delim).isInfix.trans start.isInfix
    · rw [List.append_assoc, List.append_assoc] at split
      obtain ⟨rfl, tail⟩ := List.append_inj split same.symm
      rw [here, List.append_cancel_left tail]

/-- **More text** does not move an occurrence. -/
theorem cut_append (here : cut delim text = some (event, rest)) (more : List α) :
    cut delim (text ++ more) = some (event, rest ++ more) := by
  induction text generalizing event with
  | nil =>
    rw [cut] at here
    by_cases empty : delim = []
    · rw [if_pos empty] at here
      cases here
      subst empty
      cases more <;> rfl
    · rw [if_neg empty] at here
      cases here
  | cons item text ih =>
    rw [cut] at here
    rw [List.cons_append, cut]
    by_cases starts : delim <+: item :: text
    · rw [if_pos starts] at here
      cases here
      have longer : delim <+: item :: (text ++ more) :=
        starts.trans (List.prefix_append (item :: text) more)
      rw [if_pos longer, ← List.cons_append, List.drop_append_of_le_length starts.length_le]
    · rw [if_neg starts] at here
      obtain ⟨⟨before, after⟩, later, same⟩ := Option.map_eq_some_iff.mp here
      cases same
      have absent : ¬delim <+: item :: (text ++ more) := by
        intro longer
        have short : delim.length ≤ (item :: text).length := by
          rw [cut_some later]
          simp
          omega
        exact starts (List.prefix_of_prefix_length_le longer
          (List.prefix_append (item :: text) more) short)
      rw [if_neg absent, ih later]
      rfl

/-- **Less text**: an occurrence that lies in a start of the text is found there. -/
theorem cut_of_cut_append (here : cut delim (part ++ more) = some (event, rest))
    (inside : event.length + delim.length ≤ part.length) :
    ∃ rest', cut delim part = some (event, rest') ∧ rest = rest' ++ more := by
  have split := cut_some here
  obtain ⟨rest', rfl, rfl⟩ : ∃ rest', part = event ++ delim ++ rest' ∧ rest = rest' ++ more := by
    rcases List.append_eq_append_iff.mp split with ⟨gap, whole, tail⟩ | ⟨rest', whole, tail⟩
    · have lengths := congrArg List.length whole
      simp only [List.length_append] at lengths
      have empty : gap = [] := List.length_eq_zero_iff.mp (by omega)
      subst empty
      exact ⟨[], by rw [List.append_nil, whole, List.append_nil], by simpa using tail.symm⟩
    · exact ⟨rest', whole, tail⟩
  obtain ⟨before, after, found, -⟩ := cut_of_append delim event rest'
  have longer := cut_append found more
  rw [here] at longer
  obtain ⟨rfl, same⟩ := Prod.mk.inj (Option.some.inj longer)
  exact ⟨after, found, same⟩

end Cut

/-! ### The first frame -/

/-- **The first frame**: the delimiters are tried in their order. -/
def first (delims : List (List α)) (text : List α) : Option (List α × List α) :=
  delims.findSome? fun delim => cut delim text

/-- No delimiter is empty, and none is the start of another one. -/
structure Proper (delims : List (List α)) : Prop where
  nonempty : ∀ delim ∈ delims, delim ≠ []
  apart : ∀ delim ∈ delims, ∀ other ∈ delims, delim <+: other → delim = other

/-- **No delimiter is there before the one at which the first frame ends.** -/
def Complete (delims : List (List α)) (text rest : List α) : Prop :=
  first delims (text.take (text.length - rest.length - 1)) = none

section First

theorem first_some (here : first delims text = some (event, rest)) :
    ∃ earlier delim later, delims = earlier ++ delim :: later ∧
      cut delim text = some (event, rest) ∧ ∀ delim ∈ earlier, cut delim text = none :=
  List.findSome?_eq_some_iff.mp here

theorem first_none : first delims text = none ↔ ∀ delim ∈ delims, cut delim text = none :=
  List.findSome?_eq_none_iff

theorem first_shorter (proper : Proper delims) (here : first delims text = some (event, rest)) :
    event.length + rest.length < text.length := by
  obtain ⟨earlier, delim, later, rfl, found, -⟩ := first_some here
  have longer := List.length_pos_iff.mpr (proper.nonempty delim (by simp))
  rw [cut_some found]
  simp only [List.length_append]
  omega

theorem cut_none_of_append (absent : cut delim (part ++ more) = none) : cut delim part = none := by
  cases here : cut delim part with
  | none => rfl
  | some pieces => simp [cut_append here more] at absent

theorem first_none_of_append (absent : first delims (part ++ more) = none) :
    first delims part = none :=
  first_none.mpr fun delim member => cut_none_of_append (first_none.mp absent delim member)

/-- **A start of the text** has the same first frame, or none yet. -/
theorem first_start (here : first delims (part ++ more) = some (event, rest))
    (complete : Complete delims (part ++ more) rest) :
    first delims part = none ∨
      ∃ rest', first delims part = some (event, rest') ∧ rest = rest' ++ more := by
  obtain ⟨earlier, delim, later, rfl, found, absent⟩ := first_some here
  have lengths := congrArg List.length (cut_some found)
  simp only [List.length_append] at lengths
  by_cases inside : event.length + delim.length ≤ part.length
  · right
    obtain ⟨rest', shorter, same⟩ := cut_of_cut_append found inside
    refine ⟨rest', List.findSome?_eq_some_iff.mpr ⟨earlier, delim, later, rfl, shorter, ?_⟩, same⟩
    exact fun other member => cut_none_of_append (absent other member)
  · -- the delimiter is not there yet, and nothing is there before it
    left
    have start : part <+: (part ++ more).take ((part ++ more).length - rest.length - 1) := by
      rw [List.prefix_take_iff]
      refine ⟨List.prefix_append part more, ?_⟩
      rw [List.length_append]
      omega
    obtain ⟨gap, split⟩ := start
    unfold Complete at complete
    rw [← split] at complete
    exact first_none_of_append complete

/-- **Otherwise** a start of the text has another first frame. -/
theorem first_early (proper : Proper delims) (here : first delims text = some (event, rest))
    (early : ¬Complete delims text rest) :
    ∃ part more event' rest', text = part ++ more ∧ first delims part = some (event', rest') ∧
      event' ≠ event := by
  obtain ⟨⟨event', rest'⟩, found⟩ := Option.ne_none_iff_exists'.mp early
  refine ⟨_, _, event', rest', (List.take_append_drop _ text).symm, found, ?_⟩
  rintro rfl
  obtain ⟨_, delim, _, whole, cutWhole, -⟩ := first_some here
  obtain ⟨_, delim', _, whole', cutPart, -⟩ := first_some found
  have one : delim ∈ delims := by simp [whole]
  have two : delim' ∈ delims := by simp [whole']
  have lengths := congrArg List.length (cut_some cutPart)
  have lengths' := congrArg List.length (cut_some cutWhole)
  have longer := List.length_pos_iff.mpr (proper.nonempty delim one)
  rw [List.length_take] at lengths
  simp only [List.length_append] at lengths lengths'
  -- both delimiters stand at the end of the same frame
  have split := cut_some (cut_append cutPart (text.drop (text.length - rest.length - 1)))
  rw [List.take_append_drop, List.append_assoc] at split
  have same := split.symm.trans (cut_some cutWhole)
  rw [List.append_assoc, List.append_cancel_left_eq] at same
  have sides := List.prefix_or_prefix_of_prefix (List.prefix_append delim' _)
    (same ▸ List.prefix_append delim rest)
  have equal : delim' = delim := by
    rcases sides with start | start
    · exact proper.apart delim' two delim one start
    · exact (proper.apart delim one delim' two start).symm
  rw [equal] at lengths
  omega

end First

/-! ### All frames -/

/-- At most `fuel` frames. -/
def framesWithin (delims : List (List α)) : Nat → List α → List (List α)
  | 0, _ => []
  | fuel + 1, text =>
    match first delims text with
    | none => []
    | some (event, rest) => event :: framesWithin delims fuel rest

/-- **The frames of a text**, one after another. -/
def frames (delims : List (List α)) (text : List α) : List (List α) :=
  framesWithin delims text.length text

section Frames

theorem framesWithin_none (absent : first delims text = none) (fuel : Nat) :
    framesWithin delims fuel text = [] := by
  cases fuel with
  | zero => rfl
  | succ fuel => rw [framesWithin, absent]

theorem framesWithin_enough (proper : Proper delims) {fuel fuel' : Nat} (one : text.length ≤ fuel)
    (two : text.length ≤ fuel') : framesWithin delims fuel text =
      framesWithin delims fuel' text := by
  induction fuel generalizing text fuel' with
  | zero =>
    have empty : text = [] := List.length_eq_zero_iff.mp (Nat.le_zero.mp one)
    subst empty
    cases here : first delims ([] : List α) with
    | none => rw [framesWithin_none here, framesWithin_none here]
    | some pieces => exact absurd (first_shorter proper here) (Nat.not_lt_zero _)
  | succ fuel ih =>
    cases here : first delims text with
    | none => rw [framesWithin_none here, framesWithin_none here]
    | some pieces =>
      have shorter := first_shorter proper here
      have more : fuel' ≠ 0 := by omega
      obtain ⟨fuel', rfl⟩ := Nat.exists_eq_succ_of_ne_zero more
      rw [framesWithin, framesWithin, here]
      exact congrArg (pieces.1 :: ·) (ih (by omega) (by omega))

theorem frames_none (absent : first delims text = none) : frames delims text = [] :=
  framesWithin_none absent _

theorem frames_some (proper : Proper delims) (here : first delims text = some (event, rest)) :
    frames delims text = event :: frames delims rest := by
  have shorter := first_shorter proper here
  have one : text.length ≤ text.length - 1 + 1 := by omega
  rw [frames, framesWithin_enough proper le_rfl one, framesWithin, here]
  dsimp only
  rw [frames, framesWithin_enough proper (by omega) le_rfl]

theorem frames_eq_nil (proper : Proper delims) : frames delims text = [] ↔
    first delims text = none := by
  refine ⟨fun empty => ?_, frames_none⟩
  cases here : first delims text with
  | none => rfl
  | some pieces =>
    rw [frames_some proper here] at empty
    cases empty

end Frames

end Framing
