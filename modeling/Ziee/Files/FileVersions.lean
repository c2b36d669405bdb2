/-
**Edits of one stored file** (`files_mcp/handlers.rs`, `files_mcp/edits.rs`, `file/versioning.rs`,
`code_sandbox/version_back.rs`).

An edit reads the file's row, loads the head's content, and appends a version, in separate steps;
the version-back reads a file of the workspace and appends it when it differs from the version it
was staged from. Any number of them is under way at once.

* `strReplace`, `applyLineRange`, `ToolEdit.outcome` — the edits.
* `State`, `step`, `run` — the operations on one file, in any order.
* `calm` — an edit appends, or reports, while the head has the content that it read.
* **`run_keepsEdits`** — **no calm run loses an edit**.
-/

import Ziee.Files.FileTools
import Ziee.Library.Framing

namespace Ziee.Files

open Framing Ziee.Providers

abbrev Bytes : Type := List UInt8

/-- `String::from_utf8`. -/
def decode (bytes : Bytes) : Option (List Char) :=
  match Utf8.scan .start bytes with
  | (text, .ended .start) => some text
  | _ => none

/-- `into_bytes`. -/
def encode (text : List Char) : Bytes := text.flatMap String.utf8EncodeChar

inductive EditOutcome
  | changed (text : List Char)
  | unchanged
  deriving DecidableEq, Repr

/-- `content.matches(old).count()`, of a text of at most so many characters. -/
def countMatches (old : List Char) : Nat → List Char → Nat
  | 0, _ => 0
  | bound + 1, text =>
    match cut old text with
    | none => 0
    | some (_, after) => countMatches old bound after + 1

/-- `str_replace`: the single occurrence of `old` becomes `new`. -/
def strReplace (content old new : List Char) : Except FileError EditOutcome :=
  if old = [] then .error (.badRequest "INVALID_ARGS" "old_str must not be empty")
  else if old = new then .ok .unchanged
  else
    match cut old content with
    | none => .error (.badRequest "NO_MATCH" "old_str was not found in the file")
    | some (before, after) =>
      let count := countMatches old after.length after + 1
      if count = 1 then .ok (.changed (before ++ new ++ after))
      else .error (.badRequest "MULTIPLE_MATCHES"
        s!"old_str matches {count} times — include more surrounding text to make it unique")

/-- `str::lines`, on the characters. -/
def lineTexts (text : List Char) : List (List Char) := (Rewriting.linesOf '\n' text).map stripEnd

/-- `apply_line_range`: the lines from `startLine` to `endLine` become the new ones. -/
def applyLineRange (content : List Char) (startLine endLine : Nat) (newContent : List Char) :
    Except FileError EditOutcome :=
  let all := lineTexts content
  if startLine = 0 then .error (.badRequest "INVALID_ARGS" "start_line is 1-indexed (must be >= 1)")
  else if all.length + 1 < startLine then
    .error (.badRequest "INVALID_ARGS"
      (s!"start_line {startLine} is past end+1 ({all.length + 1}); " ++
      s!"use start_line = {all.length + 1} to append"))
  else if endLine < startLine - 1 then
    .error (.badRequest "INVALID_ARGS" "end_line must be >= start_line - 1")
  else
    let startIdx := startLine - 1
    let drainEnd := max (min endLine all.length) startIdx
    let joined := ['\n'].intercalate (all.take startIdx ++ lineTexts newContent ++ all.drop
      drainEnd)
    let out := if content.getLast? = some '\n' ∧ joined ≠ [] then joined ++ ['\n'] else joined
    if out = content then .ok .unchanged else .ok (.changed out)

inductive ToolEdit
  | str (old new : List Char)
  | lines (startLine endLine : Nat) (newContent : List Char)
  | rewrite (content : List Char)
  deriving DecidableEq, Repr

def notText : FileError := .badRequest "NOT_TEXT"
    ("file is not UTF-8 text and cannot be edited as text " ++
  "(use a binary re-upload instead)")

def ToolEdit.outcome (edit : ToolEdit) (content : Bytes) : Except FileError (Option Bytes) :=
  match decode content with
  | none => .error notText
  | some text =>
    let outcome := match edit with
      | .str old new => strReplace text old new
      | .lines startLine endLine newContent => applyLineRange text startLine endLine newContent
      | .rewrite new => .ok (.changed new)
    outcome.map fun outcome =>
      match outcome with
      | .changed new => some (encode new)
      | .unchanged => none

/-- An edit that a version is made by; the version-back's is what the workspace made of the version
that it was staged from. -/
inductive Edit
  | tool (edit : ToolEdit)
  | sandbox (base bytes : Bytes)
  deriving DecidableEq, Repr

/-- **What an edit makes of a content.** -/
def Edit.apply : Edit → Bytes → Option Bytes
  | .tool (.rewrite new), _ => some (encode new)
  | .tool edit, content =>
    match edit.outcome content with
    | .ok (some new) => some new
    | .ok none => some content
    | .error _ => none
  | .sandbox base bytes, content => if content = base then some bytes else none

/-! ### The versions -/

structure Version where
  content : Bytes
  checksum : Option String
  /-- The edit that made it, if it is one of these operations'. -/
  madeBy : Option Edit
  deriving DecidableEq, Repr

/-- `edit_file`, `edit_file_lines` and `rewrite_file`; the version-back of a workspace file staged
from the version of that number. -/
inductive Operation
  | tool (edit : ToolEdit)
  | versionBack (base : Nat)
  deriving DecidableEq, Repr

/-- Where an operation stands; it knows the version that was the head when it read the row by its
number. -/
inductive Phase
  | entered
  | resolved (number : Nat)
  | read (bytes : Bytes)
  | committing (number : Nat) (edit : Edit) (bytes : Bytes)
  | reporting (number : Nat)
  | done
  deriving DecidableEq, Repr

inductive Move
  /-- `get_by_id_and_user`. -/
  | resolve
  /-- `load_head_text`, and the edit. -/
  | load
  /-- The version-back reads the workspace file. -/
  | readWorkspace (bytes : Bytes)
  /-- `append_version`. -/
  | append
  /-- The edit is reported as unchanged. -/
  | report
  /-- The database or the storage fails, or the file is gone. -/
  | fail

/-- The file's versions, the oldest first; the operations; the edits reported as unchanged, each
with the number of the head at that moment. -/
structure State where
  versions : List Version
  operations : List (Operation × Phase)
  reports : List (ToolEdit × Nat)
  deriving DecidableEq, Repr

def State.start (first : Version) : State := ⟨[first], [], []⟩

def State.head (state : State) : Nat := state.versions.length - 1

section Steps

variable (checksum : Bytes → String)

/-- `commit_new_version` up to `append_version`: nothing when the row that was read has the
checksum. -/
def commitNewVersion (number : Nat) (row : Version) (edit : Edit) (bytes : Bytes)
    (unchanged : Phase) : Phase :=
  if row.checksum = some (checksum bytes) then unchanged else .committing number edit bytes

def editLoaded (number : Nat) (row : Version) (edit : ToolEdit) : Phase :=
  match edit.outcome row.content with
  | .error _ => .done
  | .ok none => .reporting number
  | .ok (some bytes) => commitNewVersion checksum number row (.tool edit) bytes (.reporting number)

def appended (edit : Edit) (bytes : Bytes) : Version := ⟨bytes, some (checksum bytes), some edit⟩

/-- **A step of an operation**: where it stands then, and the versions and reports that it adds. -/
def act (state : State) (operation : Operation) (phase : Phase) :
    Move → Option (Phase × List Version × List (ToolEdit × Nat))
  | .resolve =>
    match operation, phase with
    | .tool _, .entered => some (.resolved state.head, [], [])
    | .versionBack base, .read bytes =>
      match state.versions[base]?, state.versions[state.head]? with
      | some staged, some row => some
          (commitNewVersion checksum state.head row (.sandbox staged.content bytes) bytes .done, [],
            [])
      | _, _ => none
    | _, _ => none
  | .load =>
    match operation, phase with
    | .tool edit, .resolved number =>
      (state.versions[number]?).map fun row => (editLoaded checksum number row edit, [], [])
    | _, _ => none
  | .readWorkspace bytes =>
    match operation, phase with
    | .versionBack base, .entered =>
      (state.versions[base]?).map fun staged =>
        (if staged.checksum = some (checksum bytes) then .done else .read bytes, [], [])
    | _, _ => none
  | .append =>
    match phase with
    | .committing _ edit bytes => some (.done, [appended checksum edit bytes], [])
    | _ => none
  | .report =>
    match operation, phase with
    | .tool edit, .reporting _ => some (.done, [], [(edit, state.head)])
    | _, _ => none
  | .fail => if phase = .done then none else some (.done, [], [])

inductive Label
  | enter (operation : Operation)
  | act (index : Nat) (move : Move)

/-- **A step**: an operation begins, or one goes on. -/
def step (state : State) : Label → Option State
  | .enter operation => some { state with operations :=
    state.operations ++ [(operation, .entered)] }
  | .act index move =>
    match state.operations[index]? with
    | none => none
    | some (operation, phase) =>
      (act checksum state operation phase move).map fun (next, versions, reports) =>
        { versions := state.versions ++ versions
          operations := state.operations.set index (operation, next)
          reports := state.reports ++ reports }

def run (allowed : State → Label → Bool) : State → List Label → Option State
  | state, [] => some state
  | state, label :: labels =>
    if allowed state label then (step checksum state label).bind fun next => run allowed next labels
    else none

/-! ### What should hold -/

/-- **No edit is lost**: a committed version is its edit applied to the version right before it, and
an edit reported as unchanged leaves the content of the head at that moment as it is. -/
structure NoLostEdit (state : State) : Prop where
  committed : ∀ (n : Nat) (before version : Version) (edit : Edit),
    state.versions[n]? = some before →
    state.versions[n + 1]? = some version → version.madeBy = some edit →
      edit.apply before.content = some version.content
  unchanged : ∀ report ∈ state.reports, ∃ head, state.versions[report.2]? = some head ∧
    (Edit.tool report.1).apply head.content = some head.content

/-! ### Calm steps -/

def State.content (state : State) (number : Nat) : Option Bytes :=
    (state.versions[number]?).map (·.content)

def calmMove (state : State) (operation : Operation) (phase : Phase) : Move → Bool
  -- a new content with the checksum of the version that was read is this version's content
  | .load =>
    match operation, phase with
    | .tool edit, .resolved number =>
      match state.versions[number]? with
      | some row =>
        match edit.outcome row.content with
        | .ok (some bytes) => row.checksum ≠ some (checksum bytes) || bytes = row.content
        | _ => true
      | none => true
    | _, _ => true
  -- the head has the content that was edited; a rewrite edits none
  | .append =>
    match phase with
    | .committing _ (.tool (.rewrite _)) _ => true
    | .committing number (.tool _) _ => state.content state.head = state.content number
    | .committing _ (.sandbox base _) _ => state.content state.head = some base
    | _ => true
  -- the head has the content that was read
  | .report =>
    match phase with
    | .reporting number => state.content state.head = state.content number
    | _ => true
  | _ => true

/-- **A step is calm.** -/
def calm (state : State) : Label → Bool
  | .act index move =>
    match state.operations[index]? with
    | some (operation, phase) => calmMove checksum state operation phase move
    | none => true
  | _ => true

end Steps

/-! ### What an operation owes -/

def Edit.Makes (content bytes : Bytes) : Edit → Prop
  | .tool edit => (Edit.tool edit).apply content = some bytes
  | .sandbox _ made => made = bytes

/-- Where an operation stands, the version that it read bears out what it is going to do. -/
def Sound (versions : List Version) (operation : Operation) : Phase → Prop
  | .committing number edit bytes => ∃ row, versions[number]? = some row ∧
    edit.Makes row.content bytes
  | .reporting number => ∃ row, versions[number]? = some row ∧
      ∀ edit, operation = .tool edit → (Edit.tool edit).apply row.content = some row.content
  | _ => True

variable {checksum : Bytes → String} {state state' : State} {operation : Operation}
    {phase next : Phase}
  {versions : List Version} {reports : List (ToolEdit × Nat)}

variable {number : Nat} {row : Version} {edit : ToolEdit}

theorem getElem?_grown (more : List Version)
    (there : versions[number]? = some row) : (versions ++ more)[number]? = some row := by
  rwa [List.getElem?_append_left (List.getElem?_eq_some_iff.mp there).1]

theorem Sound.grow (sound : Sound versions operation phase) (more : List Version) :
    Sound (versions ++ more) operation phase := by
  cases phase with
  | entered | resolved | read => trivial
  | committing number edit bytes =>
    obtain ⟨row, there, makes⟩ := sound
    exact ⟨row, getElem?_grown more there, makes⟩
  | reporting number =>
    obtain ⟨row, there, applies⟩ := sound
    exact ⟨row, getElem?_grown more there, applies⟩
  | done => trivial

theorem apply_of_outcome_none {content : Bytes} (outcome : edit.outcome content = .ok none) :
    (Edit.tool edit).apply content = some content := by
  cases edit with
  | str | lines => simp only [Edit.apply, outcome]
  | rewrite new =>
    unfold ToolEdit.outcome at outcome
    split at outcome
    · cases outcome
    · cases outcome

theorem apply_of_outcome_some {content bytes : Bytes}
    (outcome : edit.outcome content = .ok (some bytes)) :
    (Edit.tool edit).apply content = some bytes := by
  cases edit with
  | str | lines => simp only [Edit.apply, outcome]
  | rewrite new =>
    unfold ToolEdit.outcome at outcome
    split at outcome
    · cases outcome
    · cases outcome
      rfl

theorem editLoaded_sound (there : versions[number]? = some row)
    (honest : ∀ bytes, edit.outcome row.content = .ok (some bytes) →
      row.checksum = some (checksum bytes) → bytes = row.content) :
    Sound versions (.tool edit) (editLoaded checksum number row edit) := by
  unfold editLoaded
  cases outcome : edit.outcome row.content with
  | error error => trivial
  | ok made =>
    cases made with
    | none =>
      refine ⟨row, there, fun edit' same => ?_⟩
      cases same
      exact apply_of_outcome_none outcome
    | some bytes =>
      have makes := apply_of_outcome_some outcome
      dsimp only
      unfold commitNewVersion
      split
      · rename_i equal
        refine ⟨row, there, fun edit' same => ?_⟩
        cases same
        rw [makes, honest bytes outcome equal]
      · exact ⟨row, there, makes⟩

/-! ### What a step adds -/

structure Adds (state : State) (operation : Operation) (next : Phase) (versions : List Version)
    (reports : List (ToolEdit × Nat)) : Prop where
  sound : Sound state.versions operation next
  single : versions.length ≤ 1
  committed : ∀ version ∈ versions, ∀ edit, version.madeBy = some edit →
    ∀ before, state.versions[state.head]? = some before →
      edit.apply before.content = some version.content
  unchanged : ∀ report ∈ reports, ∃ head, state.versions[report.2]? = some head ∧
    (Edit.tool report.1).apply head.content = some head.content

theorem Adds.nothing (sound : Sound state.versions operation next) :
    Adds state operation next [] [] where
  sound := sound
  single := Nat.zero_le 1
  committed _ absent := absurd absent List.not_mem_nil
  unchanged _ absent := absurd absent List.not_mem_nil

theorem content_eq (there : state.versions[number]? = some row) :
    state.content number = some row.content := by
  rw [State.content, there, Option.map_some]

/-- **An edit that appends is applied to the head.** -/
theorem apply_head {edit : Edit} {bytes : Bytes}
    (sound : Sound state.versions operation (.committing number edit bytes))
    (quiet : calmMove checksum state operation (.committing number edit bytes) .append = true)
    {before : Version} (head : state.versions[state.head]? = some before) :
    edit.apply before.content = some bytes := by
  obtain ⟨row, there, makes⟩ := sound
  have same : state.content state.head = state.content number → before.content = row.content := by
    rw [content_eq head, content_eq there]
    exact Option.some.inj
  match edit, makes, quiet with
  | .tool (.rewrite new), makes, _ => exact makes
  | .tool (.str old new), makes, quiet =>
    rw [same (of_decide_eq_true quiet)]
    exact makes
  | .tool (.lines startLine endLine newContent), makes, quiet =>
    rw [same (of_decide_eq_true quiet)]
    exact makes
  | .sandbox base made, makes, quiet =>
    have staged : state.content state.head = some base := of_decide_eq_true quiet
    rw [content_eq head, Option.some.injEq] at staged
    rw [Edit.apply, if_pos staged, makes]

/-- **A calm step adds what bears out.** -/
theorem act_adds {move : Move} (sound : Sound state.versions operation phase)
    (quiet : calmMove checksum state operation phase move = true)
    (acted : act checksum state operation phase move = some (next, versions, reports)) :
    Adds state operation next versions reports := by
  cases move with
  | resolve =>
    unfold act at acted
    dsimp only at acted
    split at acted
    · cases acted
      exact Adds.nothing trivial
    · split at acted
      · rename_i base bytes staged row stagedThere rowThere
        cases acted
        refine Adds.nothing ?_
        unfold commitNewVersion
        split
        · trivial
        · exact ⟨row, rowThere, rfl⟩
      · cases acted
    · cases acted
  | load =>
    unfold act at acted
    dsimp only at acted
    split at acted
    · rename_i edit number
      obtain ⟨row, there, same⟩ := Option.map_eq_some_iff.mp acted
      cases same
      refine Adds.nothing (editLoaded_sound there fun bytes outcome equal => ?_)
      simpa [calmMove, there, outcome, equal] using quiet
    · cases acted
  | readWorkspace bytes =>
    unfold act at acted
    dsimp only at acted
    split at acted
    · obtain ⟨staged, there, same⟩ := Option.map_eq_some_iff.mp acted
      cases same
      refine Adds.nothing ?_
      split
      · trivial
      · trivial
    · cases acted
  | append =>
    unfold act at acted
    dsimp only at acted
    split at acted
    · rename_i number edit bytes
      cases acted
      refine ⟨trivial, Nat.le_refl 1, fun version member edit' made before head => ?_, ?_⟩
      · rw [List.mem_singleton.mp member] at made ⊢
        cases made
        exact apply_head sound quiet head
      · exact fun report absent => absurd absent List.not_mem_nil
    · cases acted
  | report =>
    unfold act at acted
    dsimp only at acted
    split at acted
    · rename_i edit number
      cases acted
      obtain ⟨row, there, applies⟩ := sound
      have same : state.content state.head = state.content number := of_decide_eq_true quiet
      rw [content_eq there] at same
      obtain ⟨head, headThere, equal⟩ := Option.map_eq_some_iff.mp same
      refine ⟨trivial, Nat.zero_le 1, fun version absent => absurd absent List.not_mem_nil, ?_⟩
      intro report member
      rw [List.mem_singleton.mp member]
      refine ⟨head, headThere, ?_⟩
      rw [equal]
      exact applies edit rfl
    · cases acted
  | fail =>
    unfold act at acted
    dsimp only at acted
    split at acted
    · cases acted
    · cases acted
      exact Adds.nothing trivial

theorem NoLostEdit.adds (kept : NoLostEdit state)
    (adds : Adds state operation next versions reports) (operations : List (Operation × Phase)) :
    NoLostEdit ⟨state.versions ++ versions, operations, state.reports ++ reports⟩ := by
  refine ⟨fun n before version edit beforeThere there made => ?_, fun report member => ?_⟩
  · dsimp only at beforeThere there
    rcases Nat.lt_or_ge (n + 1) state.versions.length with inside | beyond
    · rw [List.getElem?_append_left inside] at there
      rw [List.getElem?_append_left (Nat.lt_of_succ_lt inside)] at beforeThere
      exact kept.committed n before version edit beforeThere there made
    · -- a step appends one version at most, and this one is right after the head
      rw [List.getElem?_append_right beyond] at there
      have first := (List.getElem?_eq_some_iff.mp there).1
      have single := adds.single
      have last : n = state.head := by
        unfold State.head
        omega
      have some : n < state.versions.length := by omega
      rw [List.getElem?_append_left some, last] at beforeThere
      exact adds.committed version (List.mem_of_getElem? there) edit made before beforeThere
  · rcases List.mem_append.mp member with old | new
    · obtain ⟨head, there, same⟩ := kept.unchanged report old
      exact ⟨head, getElem?_grown versions there, same⟩
    · obtain ⟨head, there, same⟩ := adds.unchanged report new
      exact ⟨head, getElem?_grown versions there, same⟩

/-! ### Every run -/

structure Inv (state : State) : Prop where
  kept : NoLostEdit state
  sound : ∀ entry ∈ state.operations, Sound state.versions entry.1 entry.2

theorem Inv.start (first : Version) : Inv (State.start first) where
  kept := by
    refine ⟨fun n before version edit _ there _ => ?_, fun report absent =>
      absurd absent List.not_mem_nil⟩
    cases there
  sound _ absent := absurd absent List.not_mem_nil

/-- **A calm step keeps the edits.** -/
theorem Inv.step {label : Label} (inv : Inv state) (quiet : calm checksum state label = true)
    (stepped : step checksum state label = some state') : Inv state' := by
  cases label with
  | enter operation =>
    cases stepped
    refine ⟨⟨inv.kept.committed, inv.kept.unchanged⟩, fun entry member => ?_⟩
    rcases List.mem_append.mp member with old | new
    · exact inv.sound entry old
    · rw [List.mem_singleton.mp new]
      trivial
  | act index move =>
    unfold calm at quiet
    unfold Files.step at stepped
    dsimp only at quiet stepped
    cases here : state.operations[index]? with
    | none =>
      rw [here] at stepped
      cases stepped
    | some entry =>
      obtain ⟨operation, phase⟩ := entry
      rw [here] at quiet stepped
      obtain ⟨⟨next, versions, reports⟩, acted, rfl⟩ := Option.map_eq_some_iff.mp stepped
      have adds := act_adds (inv.sound _ (List.mem_of_getElem? here)) quiet acted
      refine ⟨inv.kept.adds adds _, fun entry member => ?_⟩
      rcases List.mem_or_eq_of_mem_set member with old | changed
      · exact (inv.sound entry old).grow versions
      · rw [changed]
        exact adds.sound.grow versions

theorem Inv.run {labels : List Label} (inv : Inv state)
    (ran : run checksum (calm checksum) state labels = some state') : Inv state' := by
  induction labels generalizing state with
  | nil =>
    cases ran
    exact inv
  | cons label labels ih =>
    rw [Files.run] at ran
    split at ran
    · rename_i quiet
      obtain ⟨next, stepped, later⟩ := Option.bind_eq_some_iff.mp ran
      exact ih (inv.step quiet stepped) later
    · cases ran

/-- **No calm run loses an edit.** -/
theorem run_keepsEdits (checksum : Bytes → String) (first : Version) (labels : List Label)
    (state : State) (ran : run checksum (calm checksum) (State.start first) labels = some state) :
      NoLostEdit state :=
  ((Inv.start first).run ran).kept

def sha256 (bytes : Bytes) : String :=
  if bytes = encode "one".toList then
    "7692c3ad3540bb803c020b3aee66cd8887123234ea0c6e7143c0add73ff431ed"
  else if bytes = encode "two".toList then
    "3fc4ccfe745870e2c0d99f71f30ff0656c8dedd41cc1d7d3d376b0dbe685e2f3"
  else if bytes = encode "three".toList then
    "8b5b9db0c13db24256c829aa364aa90c6d2eba318b9232a4ab9313b954d3555f"
  else "e3b0c44298fc1c149afbf4c8996fb92427ae41e4649b934ca495991b7852b855"

def version (text : String) (madeBy : Option Edit) : Version :=
  ⟨encode text.toList, some (sha256 (encode text.toList)), madeBy⟩

/-- An edit, the version-back of the workspace's file, and an edit that changes nothing. -/
def inTurn : List Label :=
  [.enter (.tool (.str "one".toList "two".toList)), .act 0 .resolve, .act 0 .load, .act 0 .append,
    .enter (.versionBack 1), .act 1 (.readWorkspace (encode "three".toList)), .act 1 .resolve,
      .act 1 .append,
    .enter (.tool (.lines 1 1 "three".toList)), .act 2 .resolve, .act 2 .load, .act 2 .report]

def afterInTurn : State where
  versions :=
    [version "one" none, version "two" (some (.tool (.str "one".toList "two".toList))),
      version "three" (some (.sandbox (encode "two".toList) (encode "three".toList)))]
  operations :=
    [(.tool (.str "one".toList "two".toList), .done), (.versionBack 1, .done),
      (.tool (.lines 1 1 "three".toList), .done)]
  reports := [(.lines 1 1 "three".toList, 2)]

theorem run_keepsEdits_inTurn : NoLostEdit afterInTurn :=
  run_keepsEdits sha256 (version "one" none) inTurn afterInTurn (by decide +kernel)

def sameHead : List Label :=
  [.enter (.tool (.str "one".toList "two".toList)), .enter (.tool (.rewrite "three".toList)),
    .act 0 .resolve, .act 0 .load, .act 1 .resolve, .act 1 .load, .act 1 .append, .act 0 .append]

/-- The first edit takes the rewrite's content away. -/
theorem sameHead_losesEdit : ¬ ∀ labels state, run sha256 (fun _ _ => true)
      (State.start (version "one" none)) labels = some state → NoLostEdit state := by
  intro always
  have ran : ∃ state, run sha256 (fun _ _ => true)
    (State.start (version "one" none)) sameHead = some state ∧
      state.versions = [version "one" none, version "three"
        (some (.tool (.rewrite "three".toList))),
        version "two" (some (.tool (.str "one".toList "two".toList)))] := by
    refine ⟨_, rfl, ?_⟩
    decide +kernel
  obtain ⟨state, there, versions⟩ := ran
  have committed := (always sameHead state there).committed 1
  rw [versions] at committed
  have applies := committed _ _ _ rfl rfl rfl
  have differs : (Edit.tool (.str "one".toList "two".toList)).apply
    (version "three" none).content = none := by
    decide +kernel
  cases differs.symm.trans applies

end Ziee.Files
