/-
**Rewriting a text piece by piece.**

A rewriting goes through a text from left to right and either copies the next item or puts a piece
in the place of some items. A pattern is a row of item classes, such as the letters of a word in any
case.

* **`Rewrites.occurs`** — a foreign pattern that occurs afterwards has occurred before.
* **`Rewrites.not_occurs`** — nor does one that is never copied.
-/

import Mathlib.Data.List.Forall2

namespace Rewriting

variable {α : Type} {pattern : List (α → Bool)} {text part rest gone piece : List α}

def startsWith : List (α → Bool) → List α → Bool
  | [], _ => true
  | _ :: _, [] => false
  | ofClass :: classes, item :: rest => ofClass item && startsWith classes rest

/-- The pattern is found somewhere in the text. -/
def occurs (pattern : List (α → Bool)) : List α → Bool
  | [] => startsWith pattern []
  | item :: rest => startsWith pattern (item :: rest) || occurs pattern rest

/-- The items cannot be the first ones of the pattern, whatever follows them. -/
def clashes : List (α → Bool) → List α → Bool
  | ofClass :: classes, item :: rest => !ofClass item || clashes classes rest
  | _, _ => false

theorem startsWith_of_clashes :
    ∀ {pattern : List (α → Bool)} {part : List α}, clashes pattern part = true →
      ∀ rest, startsWith pattern (part ++ rest) = false
  | [], _, clash, _ => by cases clash
  | _ :: _, [], clash, _ => by cases clash
  | ofClass :: classes, item :: part, clash, rest => by
    rw [List.cons_append, startsWith]
    rcases Bool.or_eq_true_iff.mp clash with differ | later
    · rw [Bool.not_eq_true'] at differ
      rw [differ, Bool.false_and]
    · rw [startsWith_of_clashes later rest, Bool.and_false]

/-- The pattern begins nowhere in the piece, not even to go on behind it. -/
def clashesThroughout (pattern : List (α → Bool)) : List α → Bool
  | [] => true
  | item :: piece => clashes pattern (item :: piece) && clashesThroughout pattern piece

/-- **The pattern begins nowhere in the piece**, and does not go on into it. -/
def foreign (pattern : List (α → Bool)) : List α → Bool
  | [] => false
  | first :: piece =>
    pattern.all (fun ofClass => !ofClass first) && clashesThroughout pattern (first :: piece)

theorem occurs_append_foreign : ∀ {piece : List α}, clashesThroughout pattern piece = true →
    occurs pattern (piece ++ rest) = occurs pattern rest
  | [], _ => rfl
  | item :: piece, clash => by
    obtain ⟨here, later⟩ := Bool.and_eq_true_iff.mp clash
    have differs := startsWith_of_clashes here rest
    rw [List.cons_append] at differs ⊢
    rw [occurs, differs, Bool.false_or, occurs_append_foreign later]

theorem foreign_head (alien : foreign pattern piece = true) :
    ∃ first behind, piece = first :: behind ∧ ∀ ofClass ∈ pattern, ofClass first = false := by
  cases piece with
  | nil => cases alien
  | cons first behind =>
    refine ⟨first, behind, rfl, fun ofClass member => ?_⟩
    have differ := List.all_eq_true.mp (Bool.and_eq_true_iff.mp alien).1 ofClass member
    exact (Bool.not_eq_true' _).mp differ

theorem foreign_clashes (alien : foreign pattern piece = true) :
    clashesThroughout pattern piece = true := by
  cases piece with
  | nil => rfl
  | cons => exact (Bool.and_eq_true_iff.mp alien).2

theorem occurs_of_append (found : occurs pattern rest = true) :
    ∀ gone, occurs pattern (gone ++ rest) = true
  | [] => found
  | item :: gone => by
    rw [List.cons_append, occurs, occurs_of_append found gone, Bool.or_true]

theorem startsWith_nil (nonempty : pattern ≠ []) : startsWith pattern ([] : List α) = false := by
  cases pattern with
  | nil => exact absurd rfl nonempty
  | cons => rfl

/-! ### Rewriting -/

/-- **A text that becomes another one**: items are copied where they may be, and pieces are put in
the place of others. -/
inductive Rewrites (copies : List α → Prop) (pieces : List α → List α → Prop) :
    List α → List α → Prop
  | nil : Rewrites copies pieces [] []
  | copy {item : α} {text text' : List α} : copies (item :: text) →
      Rewrites copies pieces text text' → Rewrites copies pieces (item :: text) (item :: text')
  | replace {gone piece text text' : List α} : pieces gone piece →
      Rewrites copies pieces text text' → Rewrites copies pieces (gone ++ text) (piece ++ text')

section Rewrites

variable {copies : List α → Prop} {pieces : List α → List α → Prop} {text' : List α}

theorem Rewrites.append {other other' : List α} (first : Rewrites (fun _ => True) pieces text text')
    (second : Rewrites (fun _ => True) pieces other other') :
    Rewrites (fun _ => True) pieces (text ++ other) (text' ++ other') := by
  induction first with
  | nil => exact second
  | copy _ _ ih => exact .copy trivial ih
  | replace piece _ ih =>
    rw [List.append_assoc, List.append_assoc]
    exact .replace piece ih

/-- **What begins afterwards began before**, when no piece begins with an item of the pattern. -/
theorem Rewrites.startsWith (outside : ∀ gone piece, pieces gone piece →
      ∃ first behind, piece = first :: behind ∧ ∀ ofClass ∈ pattern, ofClass first = false)
    (rewrites : Rewrites copies pieces text text') :
    Rewriting.startsWith pattern text' = true → Rewriting.startsWith pattern text = true := by
  induction rewrites generalizing pattern with
  | nil => exact id
  | @copy item text text' free _ ih =>
    intro found
    cases pattern with
    | nil => rfl
    | cons ofClass classes =>
      obtain ⟨here, later⟩ := Bool.and_eq_true_iff.mp found
      refine Bool.and_eq_true_iff.mpr ⟨here, ih (fun gone piece member => ?_) later⟩
      obtain ⟨first, behind, same, differs⟩ := outside gone piece member
      exact ⟨first, behind, same, fun other inside =>
        differs other (List.mem_cons_of_mem ofClass inside)⟩
  | @replace gone piece text text' member _ _ =>
    intro found
    cases pattern with
    | nil => rfl
    | cons ofClass classes =>
      obtain ⟨first, behind, rfl, differs⟩ := outside gone piece member
      rw [List.cons_append, Rewriting.startsWith, differs ofClass List.mem_cons_self,
        Bool.false_and] at found
      cases found

/-- **A foreign pattern that occurs afterwards has occurred before.** -/
theorem Rewrites.occurs (alien : ∀ gone piece, pieces gone piece → foreign pattern piece = true)
    (rewrites : Rewrites copies pieces text text') :
    Rewriting.occurs pattern text' = true → Rewriting.occurs pattern text = true := by
  induction rewrites with
  | nil => exact id
  | @copy item text text' free rewrites ih =>
    intro found
    have starts := (Rewrites.copy free rewrites).startsWith fun gone piece member =>
      foreign_head (alien gone piece member)
    rw [Rewriting.occurs, Bool.or_eq_true] at found ⊢
    exact found.imp starts ih
  | @replace gone piece text text' member _ ih =>
    intro found
    rw [occurs_append_foreign (foreign_clashes (alien gone piece member))] at found
    exact occurs_of_append (ih found) gone

/-- **A foreign pattern that is never copied does not occur afterwards.** -/
theorem Rewrites.not_occurs (nonempty : pattern ≠ [])
    (alien : ∀ gone piece, pieces gone piece → foreign pattern piece = true)
    (passed : ∀ text, copies text → Rewriting.startsWith pattern text = false)
    (rewrites : Rewrites copies pieces text text') : Rewriting.occurs pattern text' = false := by
  induction rewrites with
  | nil => exact startsWith_nil nonempty
  | @copy item text text' free rewrites ih =>
    rw [Rewriting.occurs, ih, Bool.or_false, Bool.eq_false_iff]
    intro found
    have began := (Rewrites.copy free rewrites).startsWith
      (fun gone piece member => foreign_head (alien gone piece member)) found
    rw [passed _ free] at began
    cases began
  | @replace gone piece text text' member _ ih =>
    rw [occurs_append_foreign (foreign_clashes (alien gone piece member)), ih]

theorem Rewrites.startsWith_dropWhile {blank : α → Bool}
    (outside : ∀ gone piece, pieces gone piece → ∃ first behind, piece = first :: behind ∧
      blank first = false ∧ ∀ ofClass ∈ pattern, ofClass first = false)
    (nonempty : pattern ≠ []) (rewrites : Rewrites copies pieces text text')
    (found : Rewriting.startsWith pattern (text'.dropWhile blank) = true) :
    Rewriting.startsWith pattern (text.dropWhile blank) = true := by
  induction rewrites with
  | nil => exact found
  | @copy item text text' free rewrites ih =>
    cases isBlank : blank item with
    | true =>
      rw [List.dropWhile_cons, if_pos isBlank] at found ⊢
      exact ih found
    | false =>
      rw [List.dropWhile_cons, if_neg (by simp [isBlank])] at found ⊢
      refine (Rewrites.copy free rewrites).startsWith (fun gone piece member => ?_) found
      obtain ⟨first, behind, same, _, differs⟩ := outside gone piece member
      exact ⟨first, behind, same, differs⟩
  | @replace gone piece text text' member _ _ =>
    obtain ⟨first, behind, rfl, notBlank, differs⟩ := outside gone piece member
    rw [List.cons_append, List.dropWhile_cons, if_neg (by simp [notBlank])] at found
    cases pattern with
    | nil => exact absurd rfl nonempty
    | cons ofClass classes =>
      rw [Rewriting.startsWith, differs ofClass List.mem_cons_self, Bool.false_and] at found
      cases found

theorem Rewrites.split {mark : α} (kept : ∀ gone piece, pieces gone piece → mark ∉ gone)
    (rewrites : Rewrites (fun _ => True) pieces text text') :
    ∀ {front back}, text = front ++ mark :: back → ∃ front' back', text' = front' ++ mark :: back' ∧
      Rewrites (fun _ => True) pieces front front' ∧
        Rewrites (fun _ => True) pieces back back' := by
  induction rewrites with
  | nil =>
    intro front back same
    simp at same
  | @copy item text text' _ rewrites ih =>
    intro front back same
    cases front with
    | nil =>
      obtain ⟨rfl, rfl⟩ := List.cons.inj same
      exact ⟨[], text', rfl, .nil, rewrites⟩
    | cons first front =>
      obtain ⟨rfl, later⟩ := List.cons.inj same
      obtain ⟨front', back', rfl, ahead, behind⟩ := ih later
      exact ⟨item :: front', back', rfl, .copy trivial ahead, behind⟩
  | @replace gone piece text text' member rewrites ih =>
    intro front back same
    rcases List.append_eq_append_iff.mp same with ⟨more, rfl, later⟩ | ⟨more, rfl, later⟩
    · obtain ⟨front', back', rfl, ahead, behind⟩ := ih later
      exact ⟨piece ++ front', back', (List.append_assoc _ _ _).symm, .replace member ahead, behind⟩
    · cases more with
      | nil =>
        obtain ⟨front', back', rfl, ahead, behind⟩ := @ih [] back later.symm
        refine ⟨piece ++ front', back', (List.append_assoc _ _ _).symm, ?_, behind⟩
        rw [List.append_nil] at member
        have whole := Rewrites.replace member ahead
        rwa [List.append_nil] at whole
      | cons item more =>
        obtain ⟨rfl, _⟩ := List.cons.inj later
        exact absurd (List.mem_append_right front List.mem_cons_self) (kept _ _ member)

structure Spares (mark : α) (gone piece : List α) : Prop where
  taken : mark ∉ gone
  brought : mark ∉ piece
  something : gone ≠ []
  long : piece ≠ []

section Spares

variable {mark : α} (spares : ∀ gone piece, pieces gone piece → Spares mark gone piece)
include spares

theorem Rewrites.not_mem (rewrites : Rewrites copies pieces text text') (missing : mark ∉ text) :
    mark ∉ text' := by
  induction rewrites with
  | nil => exact missing
  | copy _ _ ih =>
    exact List.not_mem_cons_of_ne_of_not_mem (List.ne_of_not_mem_cons missing)
      (ih (List.not_mem_of_not_mem_cons missing))
  | replace member _ ih =>
    rw [List.mem_append] at missing ⊢
    exact not_or.mpr ⟨(spares _ _ member).brought, ih fun later => missing (Or.inr later)⟩

theorem Rewrites.ne_nil (rewrites : Rewrites copies pieces text text') (nonempty : text ≠ []) :
    text' ≠ [] := by
  cases rewrites with
  | nil => exact nonempty
  | copy => exact List.cons_ne_nil _ _
  | replace member _ =>
    exact fun empty => (spares _ _ member).long (List.append_eq_nil_iff.mp empty).1

theorem Rewrites.eq_nil (rewrites : Rewrites copies pieces text text') (empty : text = []) :
    text' = [] := by
  cases rewrites with
  | nil => rfl
  | copy => cases empty
  | replace member _ =>
    exact absurd (List.append_eq_nil_iff.mp empty).1 (spares _ _ member).something

end Spares

end Rewrites

/-! ### Lines -/

section Lines

variable [DecidableEq α] {mark : α} {pieces : List α → List α → Prop}

/-- The lines of a text; each keeps the mark at its end, which the last may lack. -/
def linesOf (mark : α) : List α → List (List α)
  | [] => []
  | item :: rest =>
    if item = mark then [item] :: linesOf mark rest
    else
      match linesOf mark rest with
      | [] => [[item]]
      | line :: lines => (item :: line) :: lines

/-- How the lines of a text look. -/
inductive Lines (mark : α) : List (List α) → Prop
  | nil : Lines mark []
  | last {body : List α} : body ≠ [] → mark ∉ body → Lines mark [body]
  | ended {body : List α} {lines : List (List α)} : mark ∉ body → Lines mark lines →
      Lines mark ((body ++ [mark]) :: lines)

theorem lines_linesOf (text : List α) : Lines mark (linesOf mark text) := by
  induction text with
  | nil => exact .nil
  | cons item rest ih =>
    rw [linesOf]
    by_cases here : item = mark
    · rw [if_pos here, here]
      exact @Lines.ended _ _ [] _ List.not_mem_nil ih
    · rw [if_neg here]
      cases split : linesOf mark rest with
      | nil => exact .last (List.cons_ne_nil item []) (by simpa using Ne.symm here)
      | cons line lines =>
        rw [split] at ih
        cases ih with
        | last nonempty missing =>
          exact .last (List.cons_ne_nil item line)
            (List.not_mem_cons_of_ne_of_not_mem (Ne.symm here) missing)
        | @ended body _ missing later =>
          exact @Lines.ended _ _ (item :: body) _
            (List.not_mem_cons_of_ne_of_not_mem (Ne.symm here) missing) later

theorem flatten_linesOf (text : List α) : (linesOf mark text).flatten = text := by
  induction text with
  | nil => rfl
  | cons item rest ih =>
    rw [linesOf]
    by_cases here : item = mark
    · rw [if_pos here, List.flatten_cons, ih]
      rfl
    · rw [if_neg here]
      cases split : linesOf mark rest with
      | nil =>
        rw [split] at ih
        rw [← ih]
        rfl
      | cons line lines =>
        rw [split] at ih
        rw [← ih]
        rfl

theorem linesOf_ended {body : List α} (missing : mark ∉ body) (rest : List α) :
    linesOf mark (body ++ mark :: rest) = (body ++ [mark]) :: linesOf mark rest := by
  induction body with
  | nil => rw [List.nil_append, linesOf, if_pos rfl, List.nil_append]
  | cons item body ih =>
    have here := List.ne_of_not_mem_cons missing
    have later := List.not_mem_of_not_mem_cons missing
    rw [List.cons_append, linesOf, if_neg (Ne.symm here), ih later, List.cons_append]

theorem linesOf_last {body : List α} (nonempty : body ≠ []) (missing : mark ∉ body) :
    linesOf mark body = [body] := by
  induction body with
  | nil => exact absurd rfl nonempty
  | cons item body ih =>
    have here := List.ne_of_not_mem_cons missing
    have later := List.not_mem_of_not_mem_cons missing
    rw [linesOf, if_neg (Ne.symm here)]
    cases body with
    | nil => rfl
    | cons other body => rw [ih (List.cons_ne_nil _ _) later]

/-- **A text made of lines has these lines.** -/
theorem linesOf_flatten {lines : List (List α)} (made : Lines mark lines) :
    linesOf mark lines.flatten = lines := by
  induction made with
  | nil => rfl
  | last nonempty missing => rw [List.flatten_singleton, linesOf_last nonempty missing]
  | @ended body lines missing _ ih =>
    rw [List.flatten_cons, List.append_assoc, List.singleton_append, linesOf_ended missing, ih]

section Spares

variable (spares : ∀ gone piece, pieces gone piece → Spares mark gone piece)
include spares

omit [DecidableEq α] in
/-- **A line is rewritten to a line.** -/
theorem lines_of_rewrites {lines lines' : List (List α)} (made : Lines mark lines)
    (each : List.Forall₂ (Rewrites (fun _ => True) pieces) lines lines') : Lines mark lines' := by
  induction each with
  | nil => exact .nil
  | @cons line line' lines lines' rewrites each ih =>
    generalize whole : line :: lines = all at made
    cases made with
    | nil => cases whole
    | last nonempty missing =>
      obtain ⟨rfl, rfl⟩ := List.cons.inj whole
      cases each
      exact .last (rewrites.ne_nil spares nonempty) (rewrites.not_mem spares missing)
    | @ended body _ missing later =>
      obtain ⟨rfl, rfl⟩ := List.cons.inj whole
      obtain ⟨front, back, rfl, ahead, behind⟩ :=
        rewrites.split (fun gone piece member => (spares gone piece member).taken) rfl
      rw [behind.eq_nil spares rfl]
      exact .ended (ahead.not_mem spares missing) (ih later)

/-- **Lines that are rewritten one by one** are the lines of the text they make. -/
theorem linesOf_flatMap {rewrite : List α → List α} (text : List α)
    (each : ∀ line, Rewrites (fun _ => True) pieces line (rewrite line)) :
    linesOf mark ((linesOf mark text).flatMap rewrite) = (linesOf mark text).map rewrite := by
  rw [List.flatMap_def]
  refine linesOf_flatten (lines_of_rewrites spares (lines_linesOf text) ?_)
  exact List.forall₂_map_right_iff.mpr (List.forall₂_same.mpr fun line _ => each line)

/-- **The lines of a rewritten text** are the rewritten lines. -/
theorem Rewrites.lines {text text' : List α}
    (rewrites : Rewrites (fun _ => True) pieces text text') :
    List.Forall₂ (Rewrites (fun _ => True) pieces) (linesOf mark text) (linesOf mark text') := by
  have made : Lines mark (linesOf mark text) := lines_linesOf text
  rw [← @flatten_linesOf α _ mark text] at rewrites
  generalize linesOf mark text = lines at made rewrites
  induction made generalizing text' with
  | nil =>
    rw [rewrites.eq_nil spares rfl]
    exact .nil
  | last nonempty missing =>
    rw [List.flatten_singleton] at rewrites
    rw [linesOf_last (rewrites.ne_nil spares nonempty) (rewrites.not_mem spares missing)]
    exact .cons rewrites .nil
  | @ended body lines missing _ ih =>
    rw [List.flatten_cons, List.append_assoc, List.singleton_append] at rewrites
    obtain ⟨front, back, rfl, ahead, behind⟩ :=
      rewrites.split (fun gone piece member => (spares gone piece member).taken) rfl
    rw [linesOf_ended (ahead.not_mem spares missing)]
    exact .cons (ahead.append (.copy trivial .nil)) (ih behind)

theorem Rewrites.line_before {text text' line' : List α}
    (rewrites : Rewrites (fun _ => True) pieces text text') (member : line' ∈ linesOf mark text') :
    ∃ line ∈ linesOf mark text, Rewrites (fun _ => True) pieces line line' := by
  have each := rewrites.lines spares
  generalize linesOf mark text = lines, linesOf mark text' = lines' at each member
  induction each with
  | nil => cases member
  | cons here _ ih =>
    rcases List.mem_cons.mp member with rfl | later
    · exact ⟨_, List.mem_cons_self, here⟩
    · obtain ⟨line, inside, becomes⟩ := ih later
      exact ⟨line, List.mem_cons_of_mem _ inside, becomes⟩

end Spares

end Lines

end Rewriting
