/-
**The array in the reply of the extractor** (`parse_extraction_json`).

The reply may have prose around the array. The array is taken from the first opening bracket to the
closing one of its depth, and brackets inside its strings are counted with the others.

* `Balanced` — the count over the array ends with it.
* **`parseExtractionJson_iff`** — **the operations of the array are returned exactly then**,
  whatever stands around it.
-/

import Mathlib.Algebra.Order.Ring.Int
import Mathlib.Data.List.TakeWhile
import Ziee.Providers.Text

namespace Ziee.Memory

open Ziee.Providers (isWhitespace trim trimStart)

/-- `str::trim_start_matches`, of a text of at most so many characters. -/
def trimStartMatches (lead : List Char) : Nat → List Char → List Char
  | 0, text => text
  | bound + 1, text =>
    if lead <+: text then trimStartMatches lead bound (text.drop lead.length) else text

/-- `str::trim_end_matches`. -/
def trimEndMatches (tail text : List Char) : List Char :=
  (trimStartMatches tail.reverse text.length text.reverse).reverse

def stripped (raw : List Char) : List Char :=
  let text := trim raw
  let text := trimStartMatches "```json".toList text.length text
  let text := trimStartMatches "```".toList text.length text
  trim (trimEndMatches "```".toList text)

def bracketStep (c : Char) : Int := if c = '[' then 1 else if c = ']' then -1 else 0

theorem bracketStep_nonneg {c : Char} (other : c ≠ ']') : 0 ≤ bracketStep c := by
  unfold bracketStep
  rw [if_neg other]
  split <;> decide

/-- The text up to the closing bracket at which the depth is zero. -/
def takeArray (depth : Int) : List Char → Option (List Char)
  | [] => none
  | c :: rest =>
    if c = ']' ∧ depth + bracketStep c = 0 then some [c]
    else (takeArray (depth + bracketStep c) rest).map (c :: ·)

section Parse

variable {Op : Type} (fromStr : List Char → Option (List Op))

def parseExtractionJson (raw : List Char) : Option (List Op) :=
  (takeArray 0 ((stripped raw).dropWhile fun c => c != '[')).bind fromStr

/-! ### The array in the text -/

/-- The array, no opening bracket before it, and a part of what followed. -/
def Framed (array after text : List Char) : Prop :=
  ∃ front back, '[' ∉ front ∧ back <+: after ∧ text = front ++ (array ++ back)

variable {array after text inner found : List Char} {depth : Int}

theorem Framed.drop {dropped : List Char} (framed : Framed ('[' :: inner) after (dropped ++ text))
    (blank : '[' ∉ dropped) : Framed ('[' :: inner) after text := by
  obtain ⟨front, back, clean, part, same⟩ := framed
  rcases List.append_eq_append_iff.mp same with ⟨more, rfl, rest⟩ | ⟨more, rfl, rest⟩
  · exact ⟨more, back, fun member => clean (List.mem_append_right _ member), part, rest⟩
  · cases more with
    | nil => exact ⟨[], back, List.not_mem_nil, part, rest.symm⟩
    | cons c more =>
      cases (List.cons.inj rest).1
      exact absurd (List.mem_append_right _ List.mem_cons_self) blank

theorem Framed.dropEnd {dropped : List Char}
    (framed : Framed (inner ++ [']']) after (text ++ dropped)) (blank : ']' ∉ dropped) :
    Framed (inner ++ [']']) after text := by
  obtain ⟨front, back, clean, part, same⟩ := framed
  rw [← List.append_assoc] at same
  rcases List.append_eq_append_iff.mp same with ⟨more, rest, rfl⟩ | ⟨more, rfl, rfl⟩
  · rcases List.eq_nil_or_concat more with rfl | ⟨more, c, rfl⟩
    · exact ⟨front, [], clean, List.nil_prefix, by simpa using rest.symm⟩
    · rw [List.concat_eq_append, ← List.append_assoc, ← List.append_assoc] at rest
      cases List.append_inj_right' rest rfl
      exact absurd (List.mem_append_left _ (by simp)) blank
  · exact ⟨front, more, clean, (List.prefix_append more dropped).trans part, List.append_assoc ..⟩

theorem trimStartMatches_split (lead : List Char) (bound : Nat) (text : List Char) :
    ∃ dropped, text = dropped ++ trimStartMatches lead bound text ∧ ∀ c ∈ dropped, c ∈ lead := by
  induction bound generalizing text with
  | zero => exact ⟨[], rfl, fun c member => absurd member List.not_mem_nil⟩
  | succ bound ih =>
    rw [trimStartMatches]
    split
    · rename_i starts
      obtain ⟨rest, rfl⟩ := starts
      obtain ⟨dropped, same, inside⟩ := ih rest
      refine ⟨lead ++ dropped, ?_, fun c member => (List.mem_append.mp member).elim id (inside c)⟩
      rw [List.drop_left, List.append_assoc, ← same]
    · exact ⟨[], rfl, fun c member => absurd member List.not_mem_nil⟩

theorem Framed.trimStartMatches {lead : List Char} (framed : Framed ('[' :: inner) after text)
    (blank : '[' ∉ lead) (bound : Nat) :
    Framed ('[' :: inner) after (trimStartMatches lead bound text) := by
  obtain ⟨dropped, same, inside⟩ := trimStartMatches_split lead bound text
  rw [same] at framed
  exact framed.drop fun member => blank (inside _ member)

theorem Framed.trimEndMatches {tail : List Char} (framed : Framed (inner ++ [']']) after text)
    (blank : ']' ∉ tail) : Framed (inner ++ [']']) after (trimEndMatches tail text) := by
  obtain ⟨dropped, same, inside⟩ := trimStartMatches_split tail.reverse text.length text.reverse
  have split := congrArg List.reverse same
  rw [List.reverse_reverse, List.reverse_append] at split
  rw [split] at framed
  exact framed.dropEnd fun member =>
    blank (List.mem_reverse.mp (inside _ (List.mem_reverse.mp member)))

theorem Framed.trim {middle : List Char} (framed : Framed ('[' :: (middle ++ [']'])) after text) :
    Framed ('[' :: (middle ++ [']'])) after (trim text) := by
  have blanks : ∀ text : List Char, ∀ c ∈ text.takeWhile isWhitespace, c ≠ '[' ∧ c ≠ ']' := by
    rintro text c member
    have blank := List.mem_takeWhile_imp member
    refine ⟨?_, ?_⟩ <;> rintro rfl <;> revert blank <;> decide
  rw [← List.takeWhile_append_dropWhile (p := isWhitespace) (l := text)] at framed
  have started : Framed (('[' :: middle) ++ [']']) after (trimStart text) :=
    framed.drop fun member => (blanks _ _ member).1 rfl
  have split := congrArg List.reverse
    (List.takeWhile_append_dropWhile (p := isWhitespace) (l := (trimStart text).reverse))
  rw [List.reverse_reverse, List.reverse_append] at split
  rw [← split] at started
  exact started.dropEnd fun member => (blanks _ _ (List.mem_reverse.mp member)).2 rfl

/-- **The scan starts with the array.** -/
theorem scanned_array {before middle : List Char} (clean : '[' ∉ before) (after : List Char) :
    ∃ rest, rest <+: after ∧
      (stripped (before ++ ('[' :: (middle ++ [']']) ++ after))).dropWhile (fun c => c != '[') =
        '[' :: (middle ++ [']']) ++ rest := by
  have start : Framed ('[' :: (middle ++ [']'])) after
      (before ++ ('[' :: (middle ++ [']']) ++ after)) :=
    ⟨before, after, clean, List.prefix_refl after, rfl⟩
  obtain ⟨front, rest, bare, part, same⟩ := (@Framed.trimEndMatches _ _ ('[' :: middle) _
    ((start.trim.trimStartMatches (by decide : '[' ∉ "```json".toList) _).trimStartMatches
      (by decide : '[' ∉ "```".toList) _) (by decide : ']' ∉ "```".toList)).trim
  refine ⟨rest, part, ?_⟩
  unfold stripped
  dsimp only
  have passed : ∀ c ∈ front, (c != '[') = true := by
    intro c member
    rw [bne_iff_ne]
    rintro rfl
    exact bare member
  rw [same, List.dropWhile_append_of_pos passed]
  rfl

/-! ### The count -/

def level (text : List Char) : Int := (text.map bracketStep).sum

/-- From this depth, the count is zero at the end of the text and positive before. -/
def Closes (depth : Int) (text : List Char) : Prop :=
  depth + level text = 0 ∧ ∀ front back, text = front ++ back → back ≠ [] → 0 < depth + level front

/-- **The brackets of the array end with it.** -/
def Balanced (array : List Char) : Prop :=
  level array = 0 ∧ ∀ front back, array = front ++ back → front ≠ [] → back ≠ [] → 0 < level front

theorem level_cons (c : Char) (text : List Char) : level (c :: text) = bracketStep c + level text :=
  List.sum_cons

theorem closes_cons_iff {c : Char} :
    Closes depth (c :: text) ↔ 0 < depth ∧ Closes (depth + bracketStep c) text := by
  have whole : depth + level (c :: text) = depth + bracketStep c + level text := by
    rw [level_cons, Int.add_assoc]
  constructor
  · rintro ⟨ends, inside⟩
    refine ⟨by simpa [level] using inside [] (c :: text) rfl (List.cons_ne_nil _ _),
      whole ▸ ends, fun front back same more => ?_⟩
    rw [Int.add_assoc, ← level_cons]
    exact inside (c :: front) back (congrArg (c :: ·) same) more
  · rintro ⟨positive, ends, inside⟩
    refine ⟨whole ▸ ends, fun front back same more => ?_⟩
    cases front with
    | nil => simpa [level] using positive
    | cons d front =>
      obtain ⟨rfl, rest⟩ := List.cons.inj same
      rw [level_cons, ← Int.add_assoc]
      exact inside front back rest more

/-- **Where the count ends.** -/
theorem takeArray_iff (inside : 0 < depth) : takeArray depth text = some found ↔
    Closes depth found ∧ found <+: text := by
  induction text generalizing depth found with
  | nil =>
    refine iff_of_false nofun ?_
    rintro ⟨closes, part⟩
    rw [List.prefix_nil.mp part] at closes
    exact absurd closes.1 (by simp [level]; omega)
  | cons c text ih =>
    rw [takeArray]
    cases found with
    | nil =>
      refine iff_of_false ?_ fun both => absurd both.1.1 (by simp [level]; omega)
      split <;> simp
    | cons d found =>
      rw [List.cons_prefix_cons, closes_cons_iff]
      by_cases ends : c = ']' ∧ depth + bracketStep c = 0
      · rw [if_pos ends, Option.some.injEq, List.cons.injEq]
        constructor
        · rintro ⟨rfl, rfl⟩
          exact ⟨⟨inside, by simp [Closes, level, ends.2]⟩, rfl, List.nil_prefix⟩
        · rintro ⟨⟨-, closes⟩, rfl, part⟩
          rw [ends.2] at closes
          cases found with
          | nil => exact ⟨rfl, rfl⟩
          | cons e found => exact absurd (closes_cons_iff.mp closes).1 (lt_irrefl 0)
      · have further : 0 < depth + bracketStep c := by
          by_cases closing : c = ']'
          · have down : bracketStep c = -1 := closing ▸ rfl
            have above : depth + bracketStep c ≠ 0 := fun zero => ends ⟨closing, zero⟩
            omega
          · exact Int.add_pos_of_pos_of_nonneg inside (bracketStep_nonneg closing)
        rw [if_neg ends, Option.map_eq_some_iff]
        constructor
        · rintro ⟨others, taken, same⟩
          obtain ⟨rfl, rfl⟩ := List.cons.inj same
          obtain ⟨closes, part⟩ := (ih further).mp taken
          exact ⟨⟨inside, closes⟩, rfl, part⟩
        · rintro ⟨⟨-, closes⟩, rfl, part⟩
          exact ⟨found, (ih further).mpr ⟨closes, part⟩, rfl⟩

theorem closes_iff_balanced : Closes 1 inner ↔ Balanced ('[' :: inner) := by
  have opened : ∀ text, level ('[' :: text) = 1 + level text := level_cons '['
  constructor
  · rintro ⟨ends, inside⟩
    refine ⟨(opened inner).trans ends, fun front back same some more => ?_⟩
    cases front with
    | nil => exact absurd rfl some
    | cons c front =>
      obtain ⟨rfl, rest⟩ := List.cons.inj same
      rw [opened]
      exact inside front back rest more
  · rintro ⟨ends, inside⟩
    refine ⟨(opened inner).symm.trans ends, fun front back same more => ?_⟩
    rw [← opened]
    exact inside ('[' :: front) back (congrArg _ same) (List.cons_ne_nil _ _) more

theorem Closes.last {c : Char} (closes : Closes depth (text ++ [c])) : c = ']' := by
  have before := closes.2 text [c] rfl (List.cons_ne_nil _ _)
  have ends := closes.1
  rw [level, List.map_append, List.sum_append] at ends
  by_contra other
  have up := bracketStep_nonneg other
  simp only [level, List.map_cons, List.map_nil, List.sum_singleton] at before ends
  omega

/-- **The operations of the array are returned exactly when its brackets are balanced.** -/
theorem parseExtractionJson_iff {ops : List Op} {before array after : List Char}
    (trailing : ∀ text more ops others, fromStr text = some ops →
      fromStr (text ++ more) = some others → ∀ c ∈ more, isWhitespace c = true)
    (wellFormed : fromStr array = some ops)
    (bracketed : ∃ middle, array = '[' :: (middle ++ [']'])) (clean : '[' ∉ before) :
    parseExtractionJson fromStr (before ++ (array ++ after)) = some ops ↔ Balanced array := by
  obtain ⟨middle, rfl⟩ := bracketed
  obtain ⟨rest, part, scanned⟩ := scanned_array clean after
  have ended : ∀ more ops others text, fromStr text = some ops →
      fromStr (text ++ (more ++ [']'])) = some others → False := fun more ops others text one two =>
    absurd (trailing text _ ops others one two ']' (by simp)) (by decide)
  have step : takeArray 0 ('[' :: (middle ++ [']']) ++ rest) =
      (takeArray 1 (middle ++ [']'] ++ rest)).map ('[' :: ·) := rfl
  rw [parseExtractionJson, scanned, step, ← closes_iff_balanced]
  constructor
  · intro returned
    obtain ⟨array, scan, reads⟩ := Option.bind_eq_some_iff.mp returned
    obtain ⟨found, taken, rfl⟩ := Option.map_eq_some_iff.mp scan
    obtain ⟨closes, inside⟩ := (takeArray_iff zero_lt_one).mp taken
    rcases List.prefix_or_prefix_of_prefix inside (List.prefix_append _ rest) with
      ⟨more, same⟩ | ⟨more, same⟩
    · rcases List.eq_nil_or_concat more with rfl | ⟨more, c, rfl⟩
      · rw [List.append_nil] at same
        rwa [same] at closes
      · rw [List.concat_eq_append, ← List.append_assoc] at same
        obtain ⟨rfl, last⟩ := List.append_inj' same rfl
        cases last
        exact (ended more _ _ _ reads (by simpa using wellFormed)).elim
    · rcases List.eq_nil_or_concat more with rfl | ⟨more, c, rfl⟩
      · rw [List.append_nil] at same
        rwa [← same] at closes
      · rw [List.concat_eq_append, ← List.append_assoc] at same
        subst same
        rw [closes.last] at reads
        exact (ended more _ _ _ wellFormed (by simpa using reads)).elim
  · intro closes
    rw [(takeArray_iff zero_lt_one).mpr ⟨closes, List.prefix_append _ rest⟩]
    exact wellFormed

end Parse

def onlyReads (array : String) (ops : List String) (text : List Char) : Option (List String) :=
  if text = array.toList then some ops else none

theorem onlyReads_trailing {array : String} {ops : List String} (text more : List Char)
    (first others : List String) (one : onlyReads array ops text = some first)
    (two : onlyReads array ops (text ++ more) = some others) :
    ∀ c ∈ more, isWhitespace c = true := by
  have whole : ∀ {text read}, onlyReads array ops text = some read → text = array.toList :=
    fun same => by_contra fun other => by simp [onlyReads, other] at same
  have same := whole two
  rw [whole one] at same
  simp [List.append_right_eq_self.mp same]

theorem tea_returned : parseExtractionJson (onlyReads "[\x7b\"op\":\"NOOP\"\x7d]" ["NOOP"])
    ("Sure: ".toList ++ ("[\x7b\"op\":\"NOOP\"\x7d]".toList ++ " [1]".toList)) = some ["NOOP"] ↔
      Balanced "[\x7b\"op\":\"NOOP\"\x7d]".toList :=
  parseExtractionJson_iff _ onlyReads_trailing (by decide)
    ⟨"\x7b\"op\":\"NOOP\"\x7d".toList, by decide⟩ (by decide)

theorem quoted_bracket_ends :
    onlyReads "[\x7b\"op\":\"]\"\x7d]" ["]"] "[\x7b\"op\":\"]\"\x7d]".toList = some ["]"] ∧
      parseExtractionJson (onlyReads "[\x7b\"op\":\"]\"\x7d]" ["]"])
        "[\x7b\"op\":\"]\"\x7d]".toList = none := by
  decide

end Ziee.Memory
