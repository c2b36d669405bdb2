/-
**Which files an artifact pattern names** (`workflow/artifact_io.rs`).

* `globRec`, `globMatch` — the matcher. It calls itself on shorter patterns only, so it ends.
* `pieces` — how a pattern is read: two stars are a run, a single one stays in its directory.
* **`globMatch_iff`** — **the matcher accepts exactly the paths that can be cut** into parts which
  the pieces take.
-/

import Ziee.Library.Globs

namespace Ziee.Workflow

open Library.Globs

/-! ### The matcher -/

/-- `for k in ni..=n.len()`. -/
def anyRest (accepts : List Char → Bool) : List Char → Bool
  | [] => accepts []
  | c :: n => accepts (c :: n) || anyRest accepts n

/-- The loop that stops at a slash. -/
def segmentRest (accepts : List Char → Bool) : List Char → Bool
  | [] => accepts []
  | c :: n => accepts (c :: n) || (c != '/' && segmentRest accepts n)

/-- `rec`, of what is left of the pattern and of the name. -/
def globRec : List Char → List Char → Bool
  | [], n => n.isEmpty
  | '*' :: '*' :: p, n => anyRest (globRec (p.dropWhile (· == '*'))) n
  | '*' :: p, n => segmentRest (globRec p) n
  | '?' :: p, n =>
    match n with
    | [] => false
    | c :: n => c != '/' && globRec p n
  | c :: p, n =>
    match n with
    | [] => false
    | d :: n => d == c && globRec p n
termination_by p => p.length
decreasing_by
  · have shorter := (List.dropWhile_suffix (l := p) (· == '*')).length_le
    simp only [List.length_cons]
    omega
  all_goals simp

def globMatch (pattern name : String) : Bool := globRec pattern.toList name.toList

/-! ### What a pattern means -/

def pieces : List Char → List (Piece Char)
  | [] => []
  | '*' :: '*' :: rest => .run :: pieces rest
  | '*' :: rest => .segment :: pieces rest
  | '?' :: rest => .one :: pieces rest
  | c :: rest => .char c :: pieces rest

section Matches

variable {accepts : List Char → Bool} {rest : List (Piece Char)}

theorem splits_run_stars (p n : List Char) :
    Splits '/' (.run :: pieces p) n ↔ Splits '/' (.run :: pieces (p.dropWhile (· == '*'))) n := by
  induction p using pieces.induct with
  | case1 => exact Iff.rfl
  | case2 p ih =>
    rw [pieces, splits_run_run, ih]
    exact Iff.rfl
  | case3 p single ih =>
    have stops : p.dropWhile (· == '*') = p := by
      cases p with
      | nil => rfl
      | cons c p =>
        refine List.dropWhile_cons_of_neg ?_
        rw [beq_iff_eq]
        rintro rfl
        exact single p rfl
    rw [pieces, splits_run_segment]
    · exact iff_of_eq (congrArg (fun p => Splits '/' (.run :: pieces p) n) stops.symm)
    · exact single
  | case4 p ih => exact Iff.rfl
  | case5 c p double single question ih =>
    have other : (c == '*') = false := beq_eq_false_iff_ne.mpr single
    have stops : (c :: p).dropWhile (· == '*') = c :: p := by rw [List.dropWhile_cons, other]; rfl
    rw [stops]

theorem anyRest_iff (means : ∀ n, accepts n = true ↔ Splits '/' rest n) (n : List Char) :
    anyRest accepts n = true ↔ Splits '/' (.run :: rest) n := by
  induction n with
  | nil => rw [anyRest, means, splits_run_nil]
  | cons c n ih => rw [anyRest, Bool.or_eq_true, means, ih, splits_run_cons]

theorem segmentRest_iff (means : ∀ n, accepts n = true ↔ Splits '/' rest n) (n : List Char) :
    segmentRest accepts n = true ↔ Splits '/' (.segment :: rest) n := by
  induction n with
  | nil => rw [segmentRest, means, splits_segment_nil]
  | cons c n ih =>
    rw [segmentRest, Bool.or_eq_true, Bool.and_eq_true, means, ih, bne_iff_ne, splits_segment_cons]

theorem globRec_iff (p n : List Char) : globRec p n = true ↔ Splits '/' (pieces p) n := by
  induction p, n using globRec.induct with
  | case1 n => rw [globRec, pieces, splits_nil, List.isEmpty_iff]
  | case2 p n ih =>
    rw [globRec, pieces, splits_run_stars]
    exact anyRest_iff ih n
  | case3 p n single ih =>
    rw [globRec, pieces]
    · exact segmentRest_iff ih n
    · exact single
    · exact single
  | case4 p =>
    rw [globRec, pieces]
    exact iff_of_false Bool.false_ne_true splits_one_nil
  | case5 p c n ih => rw [globRec, pieces, Bool.and_eq_true, bne_iff_ne, ih, splits_one_cons]
  | case6 c p double single question =>
    rw [globRec, pieces]
    · exact iff_of_false Bool.false_ne_true splits_char_nil
    all_goals assumption
  | case7 c p double single question d n ih =>
    rw [globRec, pieces]
    · rw [Bool.and_eq_true, beq_iff_eq, ih, splits_char_cons]
    all_goals assumption

/-- **The matcher accepts exactly the names that can be cut** into parts which the pieces take. -/
theorem globMatch_iff (pattern path : String) :
    globMatch pattern path = true ↔ Splits '/' (pieces pattern.toList) path.toList :=
  globRec_iff pattern.toList path.toList

end Matches

end Ziee.Workflow
