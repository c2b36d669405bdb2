/-
**The two line editors** (`edit_file` of the sandbox, `apply_line_range` of the files tool).

Both read a text's lines without their ends, put the new lines in for a range, and join the result
with line feeds; each has its own check of the range and its own rule for the last line's end.

* `Carries` — a line, with its end, of a body.
* `SameSplice` — both editors accept the range or neither does, and what both make is that splice,
  with a line feed at its end as before.
* **`sameSplice_iff`** — **the editors are one exact splice under that condition, and only then**.
-/

import Ziee.Sandbox.FileLines

namespace Ziee.Sandbox

open Ziee.Providers Ziee.Files Ziee.Library.JoinedLines Rewriting

def contentAfter (content : List Char) : EditOutcome → List Char
  | .changed text => text
  | .unchanged => content

/-- The lines between which the range lies, and the new ones, joined. -/
def joined (content : List Char) (startLine endLine : Nat) (newContent : List Char) : List Char :=
  ['\n'].intercalate ((lineTexts content).take (startLine - 1) ++ lineTexts newContent ++
    (lineTexts content).drop endLine)

variable {content newContent out : List Char} {startLine endLine : Nat}

/-- The ranges the sandbox's editor accepts: from a line, or from right behind the last one, to
there or later. -/
def EditRange (content : List Char) (startLine endLine : Nat) : Prop :=
  1 ≤ startLine ∧ startLine ≤ (lineTexts content).length + 1 ∧ startLine ≤ endLine

/-- Those the files tool's editor accepts may also end right before their start. -/
def SpliceRange (content : List Char) (startLine endLine : Nat) : Prop :=
  1 ≤ startLine ∧ startLine ≤ (lineTexts content).length + 1 ∧ startLine ≤ endLine + 1

/-- The range is the place behind the last line. -/
def AtEnd (content : List Char) (startLine : Nat) : Prop :=
  startLine = (lineTexts content).length + 1

instance : Decidable (AtEnd content startLine) := inferInstanceAs (Decidable (_ = _))

theorem editFile_rejects (newContent : List Char) (range : ¬EditRange content startLine endLine) :
    ∃ error, editFile (.ok content) startLine endLine newContent = .error error := by
  unfold EditRange at range
  unfold editFile
  dsimp only
  split
  · exact ⟨_, rfl⟩
  · split
    · exact ⟨_, rfl⟩
    · split
      · exact ⟨_, rfl⟩
      · omega

theorem applyLineRange_rejects (newContent : List Char)
    (range : ¬SpliceRange content startLine endLine) :
    ∃ error, applyLineRange content startLine endLine newContent = .error error := by
  unfold SpliceRange at range
  unfold applyLineRange
  dsimp only
  split
  · exact ⟨_, rfl⟩
  · split
    · exact ⟨_, rfl⟩
    · split
      · exact ⟨_, rfl⟩
      · omega

theorem applyLineRange_accepts (range : SpliceRange content startLine endLine) :
    ∃ outcome, applyLineRange content startLine endLine newContent = .ok outcome := by
  obtain ⟨positive, inside, ordered⟩ := range
  unfold applyLineRange
  dsimp only
  rw [if_neg (by omega), if_neg (by omega), if_neg (by omega)]
  split
  · split <;> exact ⟨_, rfl⟩
  · split <;> exact ⟨_, rfl⟩

theorem drop_clamped {α : Type} (stop : Nat) (items : List α) :
    items.drop (min stop items.length) = items.drop stop := by
  rcases Nat.le_total stop items.length with within | past
  · rw [Nat.min_eq_left within]
  · rw [Nat.min_eq_right past, List.drop_length, List.drop_of_length_le past]

/-- **What the sandbox's editor writes.** -/
theorem editFile_eq (newContent : List Char) (range : EditRange content startLine endLine) :
    editFile (.ok content) startLine endLine newContent =
      .ok (joined content startLine endLine newContent ++
        if content.getLast? = some '\n' ∨ (AtEnd content startLine ∧ newContent ≠ [])
          then ['\n'] else []) := by
  obtain ⟨positive, inside, ordered⟩ := range
  have spliced : (if startLine = (lineTexts content).length + 1 then
        lineTexts content ++ lineTexts newContent
      else insertLines (startLine - 1) (lineTexts newContent)
        ((lineTexts content).take (startLine - 1) ++
          (lineTexts content).drop (min endLine (lineTexts content).length))) =
      (lineTexts content).take (startLine - 1) ++ lineTexts newContent ++
        (lineTexts content).drop endLine := by
    by_cases behind : startLine = (lineTexts content).length + 1
    · rw [if_pos behind, List.take_of_length_le (by omega), List.drop_of_length_le (by omega),
        List.append_nil]
    · have place : ((lineTexts content).take (startLine - 1)).length = startLine - 1 := by
        rw [List.length_take]
        omega
      have loop := insertLines_eq ((lineTexts content).take (startLine - 1)) (lineTexts newContent)
        ((lineTexts content).drop endLine)
      rw [place] at loop
      rw [if_neg behind, drop_clamped, loop]
  have filled : (content ≠ [] ∧ content.getLast? = some '\n') ↔ content.getLast? = some '\n' := by
    refine and_iff_right_of_imp fun ends => ?_
    rintro rfl
    cases ends
  unfold editFile joined AtEnd
  dsimp only
  rw [if_neg (by omega), if_neg (by omega), if_neg (by omega)]
  simp only [filled, spliced]
  by_cases ends : content.getLast? = some '\n'
  · rw [if_pos ends, if_pos (Or.inl ends)]
  · rw [if_neg ends]
    by_cases appended : startLine = (lineTexts content).length + 1 ∧ newContent ≠ []
    · rw [if_pos appended, if_pos (Or.inr appended)]
    · rw [if_neg appended, if_neg (by tauto), List.append_nil]

/-- **What the files tool's editor makes.** -/
theorem applyLineRange_eq (newContent : List Char) (range : EditRange content startLine endLine) :
    ∃ outcome, applyLineRange content startLine endLine newContent = .ok outcome ∧
      contentAfter content outcome = joined content startLine endLine newContent ++
        if content.getLast? = some '\n' ∧ joined content startLine endLine newContent ≠ []
          then ['\n'] else [] := by
  obtain ⟨positive, inside, ordered⟩ := range
  have clamped : (lineTexts content).drop (max (min endLine (lineTexts content).length)
      (startLine - 1)) = (lineTexts content).drop endLine := by
    rw [Nat.max_eq_left (by omega), drop_clamped]
  unfold applyLineRange
  dsimp only
  rw [if_neg (by omega), if_neg (by omega), if_neg (by omega), clamped]
  have joins : ['\n'].intercalate ((lineTexts content).take (startLine - 1) ++
      lineTexts newContent ++ (lineTexts content).drop endLine) =
        joined content startLine endLine newContent := rfl
  rw [joins]
  by_cases ends : content.getLast? = some '\n' ∧ joined content startLine endLine newContent ≠ []
  · rw [if_pos ends, if_pos ends]
    by_cases same : joined content startLine endLine newContent ++ ['\n'] = content
    · exact ⟨.unchanged, if_pos same, same.symm⟩
    · exact ⟨.changed _, if_neg same, rfl⟩
  · rw [if_neg ends, if_neg ends, List.append_nil]
    by_cases same : joined content startLine endLine newContent = content
    · exact ⟨.unchanged, if_pos same, same.symm⟩
    · exact ⟨.changed _, if_neg same, rfl⟩

/-! ### The splice -/

def Carries (line body : List Char) : Prop :=
  line = body ∨ line = body ++ ['\n'] ∨ line = body ++ ['\r', '\n']

/-- The lines outside the range, each with its end. -/
def before (content : List Char) (startLine : Nat) : List (List Char) :=
  (linesOf '\n' content).take (startLine - 1)

def behind (content : List Char) (endLine : Nat) : List (List Char) :=
  (linesOf '\n' content).drop endLine

/-- **The result's lines are those before the range, the new ones, and those behind it**, each line
outside with the end it had. -/
def ExactSplice (content : List Char) (startLine endLine : Nat) (newContent out : List Char) :
    Prop :=
  ∃ middle, linesOf '\n' out = before content startLine ++ middle ++ behind content endLine ∧
    List.Forall₂ Carries middle (lineTexts newContent)

/-- A result that is not empty ends with a line feed as the text did. -/
def SameEnd (content out : List Char) : Prop :=
  out ≠ [] → (out.getLast? = some '\n' ↔ content.getLast? = some '\n')

/-- **The two editors are one exact splice** on this text, range and new content. -/
structure SameSplice (content : List Char) (startLine endLine : Nat) (newContent : List Char) :
    Prop where
  accepted : (∃ out, editFile (.ok content) startLine endLine newContent = .ok out) ↔
    ∃ outcome, applyLineRange content startLine endLine newContent = .ok outcome
  same : ∀ out outcome, editFile (.ok content) startLine endLine newContent = .ok out →
    applyLineRange content startLine endLine newContent = .ok outcome →
      contentAfter content outcome = out
  exact : ∀ out, editFile (.ok content) startLine endLine newContent = .ok out →
    ExactSplice content startLine endLine newContent out ∧ SameEnd content out

/-- The line ends with a carriage return and a line feed. -/
def Crlf (line : List Char) : Prop := ['\r', '\n'] <:+ line

section Ends

variable {body last : List Char} {bodies new front back : List (List Char)}

theorem crlf_iff : Crlf (body ++ ['\n']) ↔ body.getLast? = some '\r' := by
  unfold Crlf
  cases body using List.reverseRecOn with
  | nil => decide
  | append_singleton body c =>
    have same : body ++ [c] ++ ['\n'] = body ++ [c, '\n'] := by simp
    rw [same, List.getLast?_concat, List.suffix_iff_eq_append]
    simp [eq_comm]

theorem stripEnd_ended : stripEnd (body ++ ['\n']) =
    if body.getLast? = some '\r' then body.dropLast else body := by
  rw [stripEnd, if_pos (by simp), List.dropLast_concat]

theorem stripEnd_open (absent : '\n' ∉ last) : stripEnd last = last := by
  rw [stripEnd, if_neg]
  intro ends
  exact absent (List.mem_of_getLast? ends)

theorem stripEnd_concat_iff : stripEnd (body ++ ['\n']) ++ ['\n'] = body ++ ['\n'] ↔
    ¬Crlf (body ++ ['\n']) := by
  rw [crlf_iff, stripEnd_ended, List.append_left_inj]
  by_cases returns : body.getLast? = some '\r'
  · rw [if_pos returns]
    refine iff_of_false (fun same => ?_) (fun none => none returns)
    have long := congrArg List.length same
    rw [List.length_dropLast] at long
    have nonempty : body ≠ [] := by
      rintro rfl
      cases returns
    have := List.length_pos_iff.mpr nonempty
    omega
  · rw [if_neg returns]
    exact iff_of_true rfl returns

/-- The bodies of ended lines, as both editors read them. -/
def stripped (bodies : List (List Char)) : List (List Char) := (ended '\n' bodies).map stripEnd

theorem stripped_missing (missing : ∀ body ∈ bodies, '\n' ∉ body) :
    ∀ text ∈ stripped bodies, '\n' ∉ text := by
  intro text member
  obtain ⟨line, there, rfl⟩ := List.mem_map.mp member
  obtain ⟨body, origin, rfl⟩ := mem_ended.mp there
  rw [stripEnd_ended]
  split
  · exact fun inside => missing body origin (List.mem_of_mem_dropLast inside)
  · exact missing body origin

theorem ended_stripped_iff : ended '\n' (stripped bodies) = ended '\n' bodies ↔
    ∀ line ∈ ended '\n' bodies, ¬Crlf line := by
  have each : ended '\n' (stripped bodies) =
      bodies.map fun body => stripEnd (body ++ ['\n']) ++ ['\n'] := by
    simp only [ended, stripped, List.map_map]
    rfl
  rw [each, ended, List.map_inj_left]
  constructor
  · intro same line member
    obtain ⟨body, there, rfl⟩ := List.mem_map.mp member
    exact stripEnd_concat_iff.mp (same body there)
  · exact fun plain body there => stripEnd_concat_iff.mpr (plain _ (List.mem_map_of_mem there))

theorem carries_ended : List.Forall₂ Carries (ended '\n' new) new := by
  rw [ended, List.forall₂_map_left_iff, List.forall₂_same]
  exact fun body _ => Or.inr (Or.inl rfl)

theorem carries_open : List.Forall₂ Carries (ended '\n' new ++ [last]) (new ++ [last]) :=
  List.rel_append carries_ended (List.Forall₂.cons (Or.inl rfl) List.Forall₂.nil)

theorem not_crlf_open (absent : '\n' ∉ last) : ¬Crlf last :=
  fun ends => absent (ends.subset (by simp))

theorem splice_ended (first : ∀ body ∈ front, '\n' ∉ body) (later : ∀ body ∈ back, '\n' ∉ body)
    (fresh : ∀ body ∈ new, '\n' ∉ body) (some : stripped front ++ new ++ stripped back ≠ []) :
    (∃ middle,
      linesOf '\n' (['\n'].intercalate (stripped front ++ new ++ stripped back) ++ ['\n']) =
        ended '\n' front ++ middle ++ ended '\n' back ∧ List.Forall₂ Carries middle new) ↔
      ∀ line ∈ ended '\n' front ++ ended '\n' back, ¬Crlf line := by
  have missing : ∀ body ∈ stripped front ++ new ++ stripped back, '\n' ∉ body := by
    simp only [List.forall_mem_append]
    exact ⟨⟨stripped_missing first, fresh⟩, stripped_missing later⟩
  rw [linesOf_join_ended missing some, ended_append, ended_append,
    exists_middle_iff (by simp [stripped]) (by simp [stripped]) carries_ended, ended_stripped_iff,
    ended_stripped_iff, List.forall_mem_append]

theorem splice_open (first : ∀ body ∈ front, '\n' ∉ body) (later : ∀ body ∈ back, '\n' ∉ body)
    (fresh : ∀ body ∈ new, '\n' ∉ body) (absent : '\n' ∉ last) (nonempty : last ≠ []) : (∃ middle,
      linesOf '\n' (['\n'].intercalate (stripped front ++ new ++ (stripped back ++ [last]))) =
        ended '\n' front ++ middle ++ (ended '\n' back ++ [last]) ∧
          List.Forall₂ Carries middle new) ↔
      ∀ line ∈ ended '\n' front ++ (ended '\n' back ++ [last]), ¬Crlf line := by
  have missing : ∀ body ∈ stripped front ++ new ++ stripped back, '\n' ∉ body := by
    simp only [List.forall_mem_append]
    exact ⟨⟨stripped_missing first, fresh⟩, stripped_missing later⟩
  rw [← List.append_assoc _ _ [last], linesOf_join_open missing absent, if_neg nonempty,
    ended_append, ended_append, List.append_assoc _ _ [last],
    exists_middle_iff (by simp [stripped]) (by simp [stripped]) carries_ended,
    List.append_left_inj, ended_stripped_iff, ended_stripped_iff, List.forall_mem_append,
    List.forall_mem_append, List.forall_mem_singleton, and_iff_left (not_crlf_open absent)]

theorem splice_last (first : ∀ body ∈ front, '\n' ∉ body) (fresh : ∀ body ∈ new, '\n' ∉ body)
    (absent : '\n' ∉ last) (nonempty : last ≠ []) :
    (∃ middle, linesOf '\n' (['\n'].intercalate (stripped front ++ (new ++ [last]))) =
        ended '\n' front ++ middle ++ [] ∧ List.Forall₂ Carries middle (new ++ [last])) ↔
      ∀ line ∈ ended '\n' front, ¬Crlf line := by
  have missing : ∀ body ∈ stripped front ++ new, '\n' ∉ body := by
    simp only [List.forall_mem_append]
    exact ⟨stripped_missing first, fresh⟩
  have shape : ended '\n' (stripped front ++ new) ++ [last] =
      ended '\n' (stripped front) ++ (ended '\n' new ++ [last]) ++ [] := by
    rw [ended_append, List.append_assoc, List.append_nil]
  rw [← List.append_assoc _ _ [last], linesOf_join_open missing absent, if_neg nonempty, shape,
    exists_middle_iff (by simp [stripped]) rfl carries_open, and_iff_left rfl, ended_stripped_iff]

theorem splice_nothing (first : ∀ body ∈ front, '\n' ∉ body) (absent : '\n' ∉ last)
    (nonempty : last ≠ []) :
    (∃ middle, linesOf '\n' (['\n'].intercalate (stripped front ++ [last])) =
        ended '\n' front ++ [last] ++ middle ++ [] ∧ List.Forall₂ Carries middle []) ↔
      ∀ line ∈ ended '\n' front ++ [last], ¬Crlf line := by
  have shape : ended '\n' (stripped front) ++ [last] =
      ended '\n' (stripped front) ++ [last] ++ [] ++ [] := by simp
  rw [linesOf_join_open (stripped_missing first) absent, if_neg nonempty, shape,
    exists_middle_iff (by simp [stripped]) rfl List.Forall₂.nil, and_iff_left rfl,
    List.append_left_inj, ended_stripped_iff, List.forall_mem_append, List.forall_mem_singleton,
    and_iff_left (not_crlf_open absent)]

end Ends

/-! ### When they are one exact splice -/

/-- **The condition**: both editors reject the range; or both accept it, no line outside it ends
with a carriage return and a line feed, and the ends fit. In a text that ends with a line feed, more
than one empty line is left. In another text nothing is appended behind the last line, and when the
last line is replaced, the new last line is not empty, and there is one unless all lines are
removed. -/
def Agreeable (content : List Char) (startLine endLine : Nat) (newContent : List Char) : Prop :=
  ¬SpliceRange content startLine endLine ∨ EditRange content startLine endLine ∧
      (∀ line ∈ before content startLine ++ behind content endLine, ¬Crlf line) ∧
      if content.getLast? = some '\n' then
        lineTexts newContent ++ (before content startLine ++ behind content endLine).map stripEnd
          ∉ [[], [[]]]
      else if AtEnd content startLine then newContent = []
      else behind content endLine = [] →
        (newContent = [] → startLine = 1) ∧ (lineTexts newContent).getLast? ≠ some []

theorem sameSplice_of_ok {outcome : EditOutcome}
    (writes : editFile (.ok content) startLine endLine newContent = .ok out)
    (applies : applyLineRange content startLine endLine newContent = .ok outcome) :
    SameSplice content startLine endLine newContent ↔ contentAfter content outcome = out ∧
      ExactSplice content startLine endLine newContent out ∧ SameEnd content out := by
  constructor
  · exact fun fine => ⟨fine.same _ _ writes applies, fine.exact _ writes⟩
  · rintro ⟨equal, spliced⟩
    refine ⟨iff_of_true ⟨_, writes⟩ ⟨_, applies⟩, fun other report makes reports => ?_,
      fun other makes => ?_⟩
    · obtain rfl := Except.ok.inj (writes.symm.trans makes)
      obtain rfl := Except.ok.inj (applies.symm.trans reports)
      exact equal
    · obtain rfl := Except.ok.inj (writes.symm.trans makes)
      exact spliced

theorem lineTexts_missing (text : List Char) : ∀ line ∈ lineTexts text, '\n' ∉ line := by
  obtain ⟨bodies, missing, same | ⟨last, same, nonempty, absent⟩⟩ :=
    shape_of_lines (@lines_linesOf _ _ '\n' text)
  · rw [lineTexts, same]
    exact stripped_missing missing
  · rw [lineTexts, same, List.map_append, List.forall_mem_append]
    refine ⟨stripped_missing missing, ?_⟩
    rw [List.map_singleton, List.forall_mem_singleton, stripEnd_open absent]
    exact absent

theorem lineTexts_eq_nil_iff {text : List Char} : lineTexts text = [] ↔ text = [] := by
  rw [lineTexts, List.map_eq_nil_iff]
  constructor
  · intro none
    rw [← @flatten_linesOf _ _ '\n' text, none]
    rfl
  · rintro rfl
    rfl

theorem intercalate_eq_nil_iff {texts : List (List Char)} :
    ['\n'].intercalate texts = [] ↔ texts ∈ [[], [[]]] := by
  cases texts with
  | nil => simp
  | cons text texts =>
    cases texts with
    | nil => simp
    | cons next texts =>
      rw [List.intercalate_cons_cons]
      simp

theorem nothing_of_perm {texts others : List (List Char)} (same : texts.Perm others) :
    texts ∈ [[], [[]]] ↔ others ∈ [[], [[]]] := by
  have none : texts = [] ↔ others = [] :=
    ⟨fun empty => (empty ▸ same).symm.eq_nil, fun empty => (empty ▸ same).eq_nil⟩
  have one : texts = [[]] ↔ others = [[]] :=
    ⟨fun single => List.perm_singleton.mp (single ▸ same).symm,
      fun single => List.perm_singleton.mp (single ▸ same)⟩
  simp only [List.mem_cons, List.not_mem_nil, or_false, none, one]

theorem sameSplice_ended (range : EditRange content startLine endLine)
    (ends : content.getLast? = some '\n') : SameSplice content startLine endLine newContent ↔
      (∀ line ∈ before content startLine ++ behind content endLine, ¬Crlf line) ∧
        lineTexts newContent ++ (before content startLine ++ behind content endLine).map stripEnd
          ∉ [[], [[]]] := by
  obtain ⟨bodies, -, shape, missing⟩ := linesOf_of_ends ends
  have first : before content startLine = ended '\n' (bodies.take (startLine - 1)) := by
    rw [before, shape, take_ended]
  have later : behind content endLine = ended '\n' (bodies.drop endLine) := by
    rw [behind, shape, drop_ended]
  have texts : (lineTexts content).take (startLine - 1) ++ lineTexts newContent ++
      (lineTexts content).drop endLine = stripped (bodies.take (startLine - 1)) ++
        lineTexts newContent ++ stripped (bodies.drop endLine) := by
    rw [stripped, stripped, ← first, ← later, before, behind, List.map_take, List.map_drop]
    rfl
  have left : joined content startLine endLine newContent = [] ↔
      lineTexts newContent ++ (before content startLine ++ behind content endLine).map stripEnd
        ∈ [[], [[]]] := by
    have order : (stripped (bodies.take (startLine - 1)) ++ lineTexts newContent ++
        stripped (bodies.drop endLine)).Perm (lineTexts newContent ++
          (before content startLine ++ behind content endLine).map stripEnd) := by
      rw [first, later, List.map_append, ← List.append_assoc]
      exact List.perm_append_comm.append_right _
    rw [joined, texts, intercalate_eq_nil_iff, nothing_of_perm order]
  obtain ⟨outcome, applies, contents⟩ := applyLineRange_eq newContent range
  have writes := editFile_eq newContent range
  rw [if_pos (Or.inl ends)] at writes
  rw [sameSplice_of_ok writes applies, contents, ← left]
  by_cases empty : joined content startLine endLine newContent = []
  · refine iff_of_false (fun fine => ?_) (fun fine => fine.2 empty)
    have equal := fine.1
    rw [if_neg (fun both => both.2 empty)] at equal
    simp at equal
  · rw [if_pos ⟨ends, empty⟩, and_iff_right rfl, and_iff_left empty]
    have closes : SameEnd content (joined content startLine endLine newContent ++ ['\n']) :=
      fun _ => iff_of_true (by simp) ends
    have filled : stripped (bodies.take (startLine - 1)) ++ lineTexts newContent ++
        stripped (bodies.drop endLine) ≠ [] := by
      intro none
      rw [joined, texts, none] at empty
      exact empty rfl
    rw [and_iff_left closes, ExactSplice, joined, texts, first, later]
    exact splice_ended (fun body member => missing body (List.mem_of_mem_take member))
      (fun body member => missing body (List.mem_of_mem_drop member))
      (lineTexts_missing newContent) filled

theorem sameSplice_appended (range : EditRange content startLine endLine)
    (opened : content.getLast? ≠ some '\n') (atEnd : AtEnd content startLine) :
    SameSplice content startLine endLine newContent ↔
      (∀ line ∈ before content startLine ++ behind content endLine, ¬Crlf line) ∧
        newContent = [] := by
  obtain ⟨outcome, applies, contents⟩ := applyLineRange_eq newContent range
  have writes := editFile_eq newContent range
  rw [if_neg (fun both => opened both.1), List.append_nil] at contents
  by_cases nothing : newContent = []
  · rw [if_neg (by rintro (ends | ⟨-, some⟩); exacts [opened ends, some nothing]),
      List.append_nil] at writes
    rw [sameSplice_of_ok writes applies, contents, and_iff_right rfl, and_iff_left nothing]
    obtain ⟨-, -, ordered⟩ := range
    have size : (lineTexts content).length = (linesOf '\n' content).length := List.length_map _
    have last : startLine = (lineTexts content).length + 1 := atEnd
    have all : before content startLine = linesOf '\n' content :=
      List.take_of_length_le (by omega)
    have none : behind content endLine = [] := List.drop_of_length_le (by omega)
    have again : joined content startLine endLine newContent =
        ['\n'].intercalate (lineTexts content) := by
      rw [joined, nothing, List.take_of_length_le (by omega), List.drop_of_length_le (by omega),
        lineTexts_eq_nil_iff.mpr rfl, List.append_nil, List.append_nil]
    rw [ExactSplice, all, none, again, nothing, lineTexts_eq_nil_iff.mpr rfl, List.append_nil]
    by_cases empty : content = []
    · rw [empty]
      exact iff_of_true ⟨⟨[], rfl, List.Forall₂.nil⟩, fun filled => absurd rfl filled⟩
        (by simp [linesOf])
    · obtain ⟨bodies, tail, shape, missing, filled, absent⟩ := linesOf_of_open empty opened
      have texts : lineTexts content = stripped bodies ++ [tail] := by
        rw [lineTexts, shape, List.map_append, List.map_singleton, stripEnd_open absent]
        rfl
      have closes : SameEnd content (['\n'].intercalate (stripped bodies ++ [tail])) := by
        rw [join_open]
        exact fun _ => iff_of_false (getLast?_open absent filled _) opened
      rw [texts, shape, and_iff_left closes]
      exact splice_nothing missing absent filled
  · refine iff_of_false (fun fine => ?_) (fun fine => nothing fine.2)
    rw [if_pos (Or.inr ⟨atEnd, nothing⟩)] at writes
    have equal := contents.symm.trans ((sameSplice_of_ok writes applies).mp fine).1
    simp at equal

theorem replaced_last {front new : List (List Char)} (first : ∀ body ∈ front, '\n' ∉ body)
    (fresh : ∀ body ∈ new, '\n' ∉ body) (opened : content.getLast? ≠ some '\n') :
    ((∃ middle, linesOf '\n' (['\n'].intercalate (stripped front ++ new)) =
        ended '\n' front ++ middle ++ [] ∧ List.Forall₂ Carries middle new) ∧
      SameEnd content (['\n'].intercalate (stripped front ++ new))) ↔
        (∀ line ∈ ended '\n' front, ¬Crlf line) ∧
          (new = [] → front = []) ∧ new.getLast? ≠ some [] := by
  -- A result made of ended lines only ends as the text did not.
  have closed : ∀ {bodies : List (List Char)}, bodies ≠ [] →
      ¬SameEnd content (ended '\n' bodies).flatten := by
    intro bodies nonempty closes
    have ends : (ended '\n' bodies).flatten.getLast? = some '\n' := getLast?_flatten_ended nonempty
    refine opened ((closes ?_).mp ends)
    intro empty
    rw [empty] at ends
    cases ends
  cases new using List.reverseRecOn with
  | nil =>
    by_cases empty : front = []
    · rw [empty]
      exact iff_of_true ⟨⟨[], rfl, List.Forall₂.nil⟩, fun some => absurd rfl some⟩
        ⟨by simp, fun _ => rfl, by simp⟩
    · refine iff_of_false ?_ (fun fine => empty (fine.2.1 rfl))
      rintro ⟨⟨middle, same, none⟩, closes⟩
      obtain rfl := List.forall₂_nil_right_iff.mp none
      have whole := congrArg List.flatten same
      rw [flatten_linesOf] at whole
      rw [whole, List.append_nil, List.append_nil] at closes
      exact closed empty closes
  | append_singleton new last =>
    obtain ⟨earlier, absent⟩ := List.forall_mem_append.mp fresh
    have absent : '\n' ∉ last := absent last (List.mem_singleton_self last)
    by_cases empty : last = []
    · refine iff_of_false ?_ (fun fine => fine.2.2 (by simp [empty]))
      rintro ⟨⟨middle, same, carried⟩, closes⟩
      rw [← List.append_assoc, join_open, empty, List.append_nil] at same closes
      by_cases none : stripped front ++ new = []
      · rw [none] at same
        have nothing : middle = [] := by
          have parts := (List.append_eq_nil_iff.mp (List.append_eq_nil_iff.mp same.symm).1)
          exact parts.2
        rw [nothing] at carried
        have long := carried.length_eq
        simp at long
      · exact closed none closes
    · have closes : SameEnd content (['\n'].intercalate (stripped front ++ (new ++ [last]))) := by
        rw [← List.append_assoc, join_open]
        exact fun _ => iff_of_false (getLast?_open absent empty _) opened
      rw [and_iff_left closes, splice_last first earlier absent empty]
      exact (and_iff_left ⟨fun none => by simp at none, by simpa using empty⟩).symm

theorem sameSplice_inside (range : EditRange content startLine endLine)
    (opened : content.getLast? ≠ some '\n') (inside : ¬AtEnd content startLine) :
    SameSplice content startLine endLine newContent ↔
      (∀ line ∈ before content startLine ++ behind content endLine, ¬Crlf line) ∧
        (behind content endLine = [] →
          (newContent = [] → startLine = 1) ∧ (lineTexts newContent).getLast? ≠ some []) := by
  obtain ⟨outcome, applies, contents⟩ := applyLineRange_eq newContent range
  have writes := editFile_eq newContent range
  rw [if_neg (fun both => opened both.1), List.append_nil] at contents
  rw [if_neg (by rintro (ends | ⟨atEnd, -⟩); exacts [opened ends, inside atEnd]),
    List.append_nil] at writes
  rw [sameSplice_of_ok writes applies, contents, and_iff_right rfl]
  obtain ⟨positive, bounded, ordered⟩ := range
  have early : startLine ≤ (lineTexts content).length := by
    have other : startLine ≠ (lineTexts content).length + 1 := inside
    omega
  have nonempty : content ≠ [] := by
    rintro rfl
    have none : (lineTexts []).length = 0 := rfl
    omega
  obtain ⟨bodies, tail, shape, missing, filled, absent⟩ := linesOf_of_open nonempty opened
  have texts : lineTexts content = stripped bodies ++ [tail] := by
    rw [lineTexts, shape, List.map_append, List.map_singleton, stripEnd_open absent]
    rfl
  have size : (stripped bodies).length = bodies.length := by simp [stripped]
  have fits : startLine - 1 ≤ bodies.length := by
    rw [texts, List.length_append, size, List.length_singleton] at early
    omega
  have first : before content startLine = ended '\n' (bodies.take (startLine - 1)) := by
    rw [before, shape, List.take_append_of_le_length (by simpa using fits), take_ended]
  have kept : (lineTexts content).take (startLine - 1) =
      stripped (bodies.take (startLine - 1)) := by
    rw [stripped, ← first, before, List.map_take]
    rfl
  have early_missing : ∀ body ∈ bodies.take (startLine - 1), '\n' ∉ body :=
    fun body member => missing body (List.mem_of_mem_take member)
  rcases Nat.lt_or_ge bodies.length endLine with past | within
  · -- The last line is replaced.
    have none : behind content endLine = [] := by
      rw [behind, shape]
      exact List.drop_of_length_le (by rw [List.length_append, length_ended]; exact past)
    have result : joined content startLine endLine newContent =
        ['\n'].intercalate (stripped (bodies.take (startLine - 1)) ++ lineTexts newContent) := by
      rw [joined, kept, texts, List.drop_of_length_le (by
        rw [List.length_append, size]
        exact past), List.append_nil]
    have start : (newContent = [] → startLine = 1) ↔
        (lineTexts newContent = [] → bodies.take (startLine - 1) = []) := by
      rw [lineTexts_eq_nil_iff, ← List.length_eq_zero_iff (l := bodies.take (startLine - 1)),
        List.length_take]
      exact imp_congr_right fun _ => by omega
    rw [ExactSplice, none, first, result, List.append_nil, start]
    rw [replaced_last early_missing (lineTexts_missing newContent) opened]
    exact and_congr_right fun _ => ⟨fun fine _ => fine, fun fine => fine rfl⟩
  · -- A line stays behind the range, and the last one as it was.
    have later : behind content endLine = ended '\n' (bodies.drop endLine) ++ [tail] := by
      rw [behind, shape, List.drop_append_of_le_length (by simpa using within), drop_ended]
    have rest : (lineTexts content).drop endLine = stripped (bodies.drop endLine) ++ [tail] := by
      rw [texts, List.drop_append_of_le_length (by omega), stripped, stripped, ← drop_ended,
        List.map_drop]
    have some : ¬behind content endLine = [] := by simp [later]
    have closes : SameEnd content (joined content startLine endLine newContent) := by
      rw [joined, rest, ← List.append_assoc, join_open]
      exact fun _ => iff_of_false (getLast?_open absent filled _) opened
    rw [and_iff_left closes, and_iff_left (fun none => absurd none some), ExactSplice, joined, kept,
      rest, first, later]
    exact splice_open early_missing (fun body member => missing body (List.mem_of_mem_drop member))
      (lineTexts_missing newContent) absent filled

/-- **The editors are one exact splice exactly under this condition.** -/
theorem sameSplice_iff (content : List Char) (startLine endLine : Nat) (newContent : List Char) :
    SameSplice content startLine endLine newContent ↔
      Agreeable content startLine endLine newContent := by
  unfold Agreeable
  by_cases edit : EditRange content startLine endLine
  · have splice : SpliceRange content startLine endLine :=
      ⟨edit.1, edit.2.1, Nat.le_succ_of_le edit.2.2⟩
    rw [or_iff_right (not_not_intro splice), and_iff_right edit]
    by_cases ends : content.getLast? = some '\n'
    · rw [if_pos ends, sameSplice_ended edit ends]
    · rw [if_neg ends]
      by_cases atEnd : AtEnd content startLine
      · rw [if_pos atEnd, sameSplice_appended edit ends atEnd]
      · rw [if_neg atEnd, sameSplice_inside edit ends atEnd]
  · obtain ⟨error, fails⟩ := editFile_rejects newContent edit
    have none : ¬∃ out, editFile (.ok content) startLine endLine newContent = .ok out := by
      rintro ⟨out, writes⟩
      rw [fails] at writes
      cases writes
    by_cases splice : SpliceRange content startLine endLine
    · -- The files tool inserts before a line; the sandbox refuses.
      refine iff_of_false (fun fine => none (fine.accepted.mpr (applyLineRange_accepts splice))) ?_
      · rintro (rejected | ⟨range, -⟩)
        · exact rejected splice
        · exact edit range
    · obtain ⟨other, refuses⟩ := applyLineRange_rejects newContent splice
      refine iff_of_true ⟨iff_of_false none ?_, ?_, ?_⟩ (Or.inl splice)
      · rintro ⟨outcome, makes⟩
        rw [refuses] at makes
        cases makes
      · exact fun out outcome writes => absurd ⟨out, writes⟩ none
      · exact fun out writes => absurd ⟨out, writes⟩ none

theorem appended_line_differs : editFile (.ok ['a']) 2 2 ['b'] = .ok "a\nb\n".toList ∧
      applyLineRange ['a'] 2 2 ['b'] = .ok (.changed "a\nb".toList) ∧
        ¬SameSplice ['a'] 2 2 ['b'] := by
  have writes : editFile (.ok ['a']) 2 2 ['b'] = .ok "a\nb\n".toList := by rfl
  have makes : applyLineRange ['a'] 2 2 ['b'] = .ok (.changed "a\nb".toList) := by rfl
  refine ⟨writes, makes, fun fine => ?_⟩
  have same := fine.same _ _ writes makes
  revert same
  decide

end Ziee.Sandbox
