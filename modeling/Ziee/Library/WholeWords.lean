/-
**The words of a text.**

A predicate says which characters are letters; a word is a longest run of letters.

* `words` — the words in order, and `words_append_break`: a break ends the word before it;
* `words_isolated` — an isolated run of letters is a word, after the words of the text before it.
-/

import Mathlib.Data.List.Induction

namespace Ziee.Library.WholeWords

variable {α : Type} (letter : α → Bool)

/-- The words: the nonempty pieces between the breaks. -/
def words (text : List α) : List (List α) :=
  (text.splitOnP fun c => !letter c).filter fun piece => !piece.isEmpty

structure Isolated (front back : List α) : Prop where
  before : ∀ c ∈ front.getLast?, letter c = false
  behind : ∀ c ∈ back.head?, letter c = false

variable {letter} {c : α} {run word front back text rest : List α} {before after : List (List α)}

@[simp] theorem words_nil : words letter [] = [] := by simp [words]

theorem words_append_break (gap : letter c = false) (front back : List α) :
    words letter (front ++ c :: back) = words letter front ++ words letter back := by
  have cut : (front ++ c :: back).splitOnP (fun c => !letter c) =
      front.splitOnP (fun c => !letter c) ++ back.splitOnP (fun c => !letter c) :=
    List.splitOnP_append_cons front back (by simp [gap])
  rw [words, cut, List.filter_append]
  rfl

theorem words_cons_break (gap : letter c = false) (text : List α) :
    words letter (c :: text) = words letter text := by
  have shown := words_append_break gap [] text
  rwa [words_nil, List.nil_append, List.nil_append] at shown

theorem words_of_letters (nonempty : run ≠ []) (letters : ∀ c ∈ run, letter c = true) :
    words letter run = [run] := by
  have whole : run.splitOnP (fun c => !letter c) = [run] :=
    List.splitOnP_eq_singleton fun c member => by simp [letters c member]
  rw [words, whole]
  simp [nonempty]

theorem words_letters_break (nonempty : run ≠ []) (letters : ∀ c ∈ run, letter c = true)
    (gap : letter c = false) (rest : List α) :
    words letter (run ++ c :: rest) = run :: words letter rest := by
  rw [words_append_break gap, words_of_letters nonempty letters]
  rfl

theorem words_isolated (isolated : Isolated letter front back) (nonempty : word ≠ [])
    (letters : ∀ c ∈ word, letter c = true) :
    words letter (front ++ (word ++ back)) = words letter front ++ word :: words letter back := by
  have later : words letter (word ++ back) = word :: words letter back := by
    cases back with
    | nil => rw [List.append_nil, words_of_letters nonempty letters, words_nil]
    | cons gap rest =>
      have blank : letter gap = false := isolated.behind gap rfl
      rw [words_letters_break nonempty letters blank, words_cons_break blank]
  cases front using List.reverseRecOn with
  | nil => rw [List.nil_append, later, words_nil, List.nil_append]
  | append_singleton start gap =>
    have blank : letter gap = false := isolated.before gap (by simp)
    have ended : words letter (start ++ [gap]) = words letter start := by
      rw [words_append_break blank, words_nil, List.append_nil]
    rw [List.append_assoc, List.singleton_append, words_append_break blank, later, ended]

theorem letters_or_break (letter : α → Bool) (text : List α) : (∀ c ∈ text, letter c = true) ∨
      ∃ run c rest, text = run ++ c :: rest ∧ (∀ c ∈ run, letter c = true) ∧ letter c = false := by
  induction text with
  | nil => exact Or.inl fun c member => absurd member List.not_mem_nil
  | cons first text ih =>
    cases lettered : letter first with
    | false => exact Or.inr ⟨[], first, text, rfl, fun c member => absurd member List.not_mem_nil,
        lettered⟩
    | true =>
      rcases ih with all | ⟨run, c, rest, rfl, letters, gap⟩
      · exact Or.inl (List.forall_mem_cons.mpr ⟨lettered, all⟩)
      · exact Or.inr ⟨first :: run, c, rest, rfl, List.forall_mem_cons.mpr ⟨lettered, letters⟩, gap⟩

theorem Isolated.behind_break (isolated : Isolated letter front back) (gap : letter c = false)
    (run : List α) : Isolated letter (run ++ c :: front) back := by
  refine ⟨fun last there => ?_, isolated.behind⟩
  cases front with
  | nil =>
    have same : c = last := by simpa using there
    rw [← same]
    exact gap
  | cons first front =>
    refine isolated.before last ?_
    rwa [List.getLast?_append, List.getLast?_cons_cons, List.getLast?_eq_some_getLast
      (List.cons_ne_nil first front), Option.some_or] at there

theorem exists_isolated (reads : words letter text = before ++ word :: after) :
    ∃ front back, text = front ++ (word ++ back) ∧ Isolated letter front back ∧
      words letter front = before ∧ words letter back = after ∧ word ≠ [] ∧
        ∀ c ∈ word, letter c = true := by
  -- The text is read from break to break.
  induction long : text.length using Nat.strongRecOn generalizing text before with
  | _ size ih =>
    rcases letters_or_break letter text with all | ⟨run, c, rest, rfl, letters, gap⟩
    · by_cases empty : text = []
      · simp [empty] at reads
      · rw [words_of_letters empty all] at reads
        obtain ⟨rfl, same⟩ := List.append_eq_singleton_iff.mp reads.symm |>.resolve_right (by simp)
        obtain ⟨rfl, rfl⟩ := List.cons.inj same
        exact ⟨[], [], by simp, ⟨by simp, by simp⟩, words_nil, words_nil, empty, all⟩
    · have shorter : rest.length < size := by
        rw [← long, List.length_append, List.length_cons]
        omega
      by_cases empty : run = []
      · subst empty
        rw [List.nil_append, words_cons_break gap] at reads
        obtain ⟨front, back, rfl, isolated, earlier, later⟩ := ih rest.length shorter reads rfl
        refine ⟨c :: front, back, rfl, isolated.behind_break gap [], ?_, later⟩
        rw [words_cons_break gap, earlier]
      · rw [words_letters_break empty letters gap] at reads
        cases before with
        | nil =>
          obtain ⟨rfl, rfl⟩ := List.cons.inj reads
          exact ⟨[], c :: rest, rfl, ⟨by simp, by simp [gap]⟩, words_nil,
            words_cons_break gap rest, empty, letters⟩
        | cons first before =>
          obtain ⟨rfl, others⟩ := List.cons.inj reads
          obtain ⟨front, back, rfl, isolated, earlier, later⟩ := ih rest.length shorter others rfl
          refine ⟨run ++ c :: front, back, by simp, isolated.behind_break gap run, ?_, later⟩
          rw [words_letters_break empty letters gap, earlier]

theorem words_of_start {first : α} (starts : letter first = true) (text : List α) :
    ∃ run back, first :: text = run ++ back ∧ Isolated letter [] back ∧
      words letter (first :: text) = run :: words letter back := by
  rcases letters_or_break letter (first :: text) with all | ⟨run, gap, rest, same, letters, blank⟩
  · refine ⟨first :: text, [], by simp, ⟨by simp, by simp⟩, ?_⟩
    rw [words_of_letters (List.cons_ne_nil _ _) all, words_nil]
  · have nonempty : run ≠ [] := by
      rintro rfl
      obtain ⟨rfl, -⟩ := List.cons.inj same
      rw [starts] at blank
      cases blank
    refine ⟨run, gap :: rest, same, ⟨by simp, by simp [blank]⟩, ?_⟩
    rw [same, words_letters_break nonempty letters blank, words_cons_break blank]

end Ziee.Library.WholeWords
