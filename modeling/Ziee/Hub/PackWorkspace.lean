/-
**Packing a workspace, and unpacking it again** (`pack_workspace_dir_measured` and
`append_dir_to_tar` in `hub/bundle.rs`).

* `Node`, `Workspace` — a directory tree; the entries of a directory have different names.
* `appendNode`, `packWorkspaceDirMeasured` — the packer.
* `extractLoop_restores` — the extractor gives them back.
* `bundle_roundtrip` — **what the packer accepts is extracted again**, file by file.
-/

import Ziee.Hub.ExtractBounds
import Ziee.Library.RowOrder
import Mathlib.Data.String.Basic

namespace Ziee.Hub

open Ziee.Scheduler (AppError)
open RowOrder (orderBy)

/-- A name that a directory may hold. -/
abbrev Name : Type := { name : String // properName name = true }

/-- What a path leads to. A file or directory may be unreadable. -/
inductive Node
  | file (readable : Bool) (content : Bytes) (mode : Nat)
  | dir (readable : Bool) (entries : List (Name × Node))
  | symlink (toFile : Bool)
  | special

mutual

/-- The names in each directory differ. -/
def Node.Tidy : Node → Prop
  | .dir _ entries => (entries.map Prod.fst).Nodup ∧ TidyAll entries
  | .file .. | .symlink _ | .special => True

def TidyAll : List (Name × Node) → Prop
  | [] => True
  | (_, node) :: rest => node.Tidy ∧ TidyAll rest

end

structure Workspace where
  root : Node
  tidy : root.Tidy

/-- A regular file with its path below the root. -/
structure PackedFile where
  names : List Name
  content : Bytes
  mode : Nat
  deriving DecidableEq

mutual

def filesOf (above : List Name) : Node → List PackedFile
  | .file _ content mode => [{ names := above, content := content, mode := mode }]
  | .dir _ entries => filesOfAll above entries
  | .symlink _ | .special => []

def filesOfAll (above : List Name) : List (Name × Node) → List PackedFile
  | [] => []
  | (name, node) :: rest => filesOf (above ++ [name]) node ++ filesOfAll above rest

end

def Workspace.files (workspace : Workspace) : List PackedFile := filesOf [] workspace.root

/-! ### The packer -/

structure TarRecord where
  path : String
  size : Nat
  mode : Nat
  data : Bytes
  deriving DecidableEq

structure PackState where
  records : List TarRecord
  fileCount : Nat
  totalBytes : Nat

def symlinkNotPackable : AppError :=
  .badRequest "WORKFLOW_WORKSPACE_SYMLINK" "symlinks are not packable"

def workspaceTooManyFiles : AppError :=
  .unprocessableEntity "BUNDLE_TOO_MANY_FILES"
    ("workspace exceeds " ++ toString maxBundleFileCount ++ " files")

def workspaceFileTooLarge (path : String) : AppError :=
  .unprocessableEntity "BUNDLE_FILE_TOO_LARGE"
    ("workspace file " ++ path ++ " exceeds " ++ toString maxBundleSingleFileBytes ++ " bytes")

def workspaceTooLarge : AppError :=
  .unprocessableEntity "BUNDLE_TOO_LARGE"
    ("workspace exceeds " ++ toString maxBundleDecompressedBytes ++ " bytes")

def relPath (names : List Name) : String := joinPath (names.map Subtype.val)

def recordOf (file : PackedFile) : TarRecord :=
  { path := relPath file.names
    size := file.content.length
    mode := file.mode
    data := file.content }

/-- A regular file. The counters are raised before the checks. -/
def appendFile (readable : Bool) (file : PackedFile) (state : PackState) :
    Except AppError PackState :=
  if maxBundleFileCount < state.fileCount + 1 then .error workspaceTooManyFiles
  else if maxBundleSingleFileBytes < file.content.length then
    .error (workspaceFileTooLarge (relPath file.names))
  else if maxBundleDecompressedBytes < state.totalBytes + file.content.length then
    .error workspaceTooLarge
  else if !readable then .error internalWithId
  else .ok
    { records := state.records ++ [recordOf file]
      fileCount := state.fileCount + 1
      totalBytes := state.totalBytes + file.content.length }

mutual

/-- `append_dir_to_tar`, one path at a time. The entries of a directory come in the order of their
names. -/
def appendNode (above : List Name) : Node → PackState → Except AppError PackState
  | .symlink _, _ => .error symlinkNotPackable
  | .special, state => .ok state
  | .dir readable entries, state =>
    if readable then
      (orderBy (fun step => step.1.val) (appenders above entries)).foldlM
        (fun state step => step.2 state) state
    else .error internalWithId
  | .file readable content mode, state =>
    appendFile readable { names := above, content := content, mode := mode } state

/-- What the packer does with each entry of a directory. -/
def appenders (above : List Name) :
    List (Name × Node) → List (Name × (PackState → Except AppError PackState))
  | [] => []
  | (name, node) :: rest => (name, appendNode (above ++ [name]) node) :: appenders above rest

end

def TarRecord.entry (record : TarRecord) : TarEntry :=
  { entryType := .regular
    path := .ok record.path
    size := .ok record.size
    body := .ok record.data
    mode := .ok record.mode }

/-- **The archive formats**: the `tar` and `flate2` crates decode what they encoded. -/
structure PackCodec (Packed : Type) extends Codec Packed where
  encode : List TarRecord → Except String Packed
  decodes : ∀ records bytes, encode records = .ok bytes →
    decode bytes = .ok (records.map fun record => .ok record.entry)

structure PackMeasure (Packed : Type) where
  bytes : Packed
  sha256Hex : String
  totalBytes : Nat
  fileCount : Nat

/-- `Path::is_file`, which follows links. -/
def Node.isFile : Node → Bool
  | .file .. => true
  | .symlink toFile => toFile
  | .dir .. | .special => false

def notDirectory : AppError :=
  .badRequest "WORKFLOW_WORKSPACE_NOT_DIR" "workspace path is not a directory"

def noEntryPoint : AppError :=
  .badRequest "WORKFLOW_NO_ENTRY_POINT" "workspace is missing workflow.yaml"

def packWorkspaceDirMeasured {Packed : Type} (codec : PackCodec Packed) (workspace : Workspace) :
    Except AppError (PackMeasure Packed) :=
  match workspace.root with
  | .dir readable entries =>
    if entries.any fun entry => entry.1.val == "workflow.yaml" && entry.2.isFile then
      match appendNode [] (.dir readable entries)
          { records := [], fileCount := 0, totalBytes := 0 } with
      | .error e => .error e
      | .ok state =>
        match codec.encode state.records with
        | .error _ => .error internalWithId
        | .ok bytes => .ok
          { bytes := bytes
            sha256Hex := codec.hexSha256 bytes
            totalBytes := state.totalBytes
            fileCount := state.fileCount }
    else .error noEntryPoint
  | .file .. | .symlink _ | .special => .error notDirectory

/-! ### What the packer takes -/

def contentBytes (files : List PackedFile) : Nat :=
  (files.map fun file => file.content.length).sum

/-- **The files were added**, one by one, and stay under the caps. -/
structure Packs (state : PackState) (files : List PackedFile) (after : PackState) : Prop where
  records : after.records = state.records ++ files.map recordOf
  count : after.fileCount = state.fileCount + files.length
  total : after.totalBytes = state.totalBytes + contentBytes files
  single : ∀ file ∈ files, file.content.length ≤ maxBundleSingleFileBytes
  countCap : state.fileCount ≤ maxBundleFileCount → after.fileCount ≤ maxBundleFileCount
  totalCap : state.totalBytes ≤ maxBundleDecompressedBytes →
    after.totalBytes ≤ maxBundleDecompressedBytes

variable {state after : PackState} {file : PackedFile} {above : List Name}
  {entries : List (Name × Node)} {first second : DiskPath}

theorem Packs.nil (state : PackState) : Packs state [] state where
  records := by simp
  count := rfl
  total := rfl
  single := by simp
  countCap := id
  totalCap := id

theorem Packs.append {middle : PackState} {files more : List PackedFile}
    (first : Packs state files middle) (second : Packs middle more after) :
    Packs state (files ++ more) after where
  records := by rw [second.records, first.records, List.map_append, List.append_assoc]
  count := by rw [second.count, first.count, List.length_append, Nat.add_assoc]
  total := by
    rw [second.total, first.total, contentBytes, contentBytes, contentBytes, List.map_append,
      List.sum_append, Nat.add_assoc]
  single := by
    intro file member
    rcases List.mem_append.mp member with early | late
    · exact first.single file early
    · exact second.single file late
  countCap := fun small => second.countCap (first.countCap small)
  totalCap := fun small => second.totalCap (first.totalCap small)

theorem appendFile_packs {readable : Bool}
    (packed : appendFile readable file state = .ok after) : Packs state [file] after := by
  unfold appendFile at packed
  split at packed
  · cases packed
  next count =>
    split at packed
    · cases packed
    next single =>
      split at packed
      · cases packed
      next total =>
        split at packed
        · cases packed
        · cases packed
          exact
            { records := rfl
              count := rfl
              total := by simp [contentBytes]
              single := fun other member => by
                rw [List.mem_singleton.mp member]
                exact Nat.le_of_not_lt single
              countCap := fun _ => Nat.le_of_not_lt count
              totalCap := fun _ => Nat.le_of_not_lt total }

theorem appenders_eq (above : List Name) (entries : List (Name × Node)) :
    appenders above entries =
      entries.map fun entry => (entry.1, appendNode (above ++ [entry.1]) entry.2) := by
  induction entries with
  | nil => simp [appenders]
  | cons entry rest ih =>
    obtain ⟨name, node⟩ := entry
    rw [appenders, ih, List.map_cons]

theorem filesOfAll_eq (above : List Name) (entries : List (Name × Node)) :
    filesOfAll above entries = entries.flatMap fun entry =>
      filesOf (above ++ [entry.1]) entry.2 := by
  induction entries with
  | nil => simp [filesOfAll]
  | cons entry rest ih =>
    obtain ⟨name, node⟩ := entry
    rw [filesOfAll, ih, List.flatMap_cons]

theorem foldlM_packs
    (each : ∀ entry ∈ entries, ∀ state after,
      appendNode (above ++ [entry.1]) entry.2 state = .ok after →
        ∃ files, files.Perm (filesOf (above ++ [entry.1]) entry.2) ∧ Packs state files after)
    (packed : entries.foldlM (fun state entry => appendNode (above ++ [entry.1]) entry.2 state)
      state = .ok after) :
    ∃ files, files.Perm (filesOfAll above entries) ∧ Packs state files after := by
  induction entries generalizing state with
  | nil =>
    cases packed
    exact ⟨[], by rw [filesOfAll], Packs.nil _⟩
  | cons entry rest ih =>
    rw [List.foldlM_cons] at packed
    cases here : appendNode (above ++ [entry.1]) entry.2 state with
    | error e =>
      rw [here] at packed
      cases packed
    | ok middle =>
      rw [here] at packed
      obtain ⟨files, same, first⟩ := each entry (List.mem_cons_self ..) state middle here
      obtain ⟨more, others, second⟩ := ih (fun entry member => each entry
        (List.mem_cons_of_mem _ member)) packed
      refine ⟨files ++ more, ?_, first.append second⟩
      rw [filesOfAll_eq, List.flatMap_cons, ← filesOfAll_eq]
      exact same.append others

mutual

/-- **The packer takes every regular file** of a tree that it accepts. -/
theorem appendNode_packs (above : List Name) : (node : Node) → ∀ state after,
    appendNode above node state = .ok after →
      ∃ files, files.Perm (filesOf above node) ∧ Packs state files after
  | .symlink _, state, after, packed => by
    rw [appendNode] at packed
    cases packed
  | .special, state, after, packed => by
    rw [appendNode] at packed
    cases packed
    exact ⟨[], by rw [filesOf], Packs.nil state⟩
  | .file readable content mode, state, after, packed => by
    rw [appendNode] at packed
    exact ⟨_, by rw [filesOf], appendFile_packs packed⟩
  | .dir readable entries, state, after, packed => by
    rw [appendNode] at packed
    split at packed
    · have sorted : orderBy (fun step => step.1.val) (appenders above entries) =
          (orderBy (fun entry => entry.1.val) entries).map fun entry =>
            (entry.1, appendNode (above ++ [entry.1]) entry.2) := by
        rw [appenders_eq, RowOrder.orderBy_map]
      rw [sorted, List.foldlM_map] at packed
      have each := appenders_pack above entries
      obtain ⟨files, same, packs⟩ := foldlM_packs
        (fun entry member => each entry (RowOrder.orderBy_perm.subset member)) packed
      refine ⟨files, same.trans ?_, packs⟩
      rw [filesOf, filesOfAll_eq, filesOfAll_eq]
      exact RowOrder.orderBy_perm.flatMap_right _
    · cases packed

theorem appenders_pack (above : List Name) : (entries : List (Name × Node)) →
    ∀ entry ∈ entries, ∀ state after, appendNode (above ++ [entry.1]) entry.2 state = .ok after →
      ∃ files, files.Perm (filesOf (above ++ [entry.1]) entry.2) ∧ Packs state files after
  | [] => nofun
  | (name, node) :: rest => fun entry member => by
    rcases List.mem_cons.mp member with rfl | later
    · exact appendNode_packs (above ++ [name]) node
    · exact appenders_pack above rest entry later

end

/-! ### Paths apart -/

/-- Where the names lead to, below the target. -/
def place (names : List Name) : DiskPath := names.map fun name => .normal name.val

theorem place_append (names more : List Name) : place (names ++ more) = place names ++ place more :=
  List.map_append

/-- Neither path leads through the other. -/
def Apart (first second : DiskPath) : Prop := ¬first <+: second ∧ ¬second <+: first

theorem apart_of_fork {name other : Name}
    (different : name ≠ other) (left : place (above ++ [name]) <+: first)
    (right : place (above ++ [other]) <+: second) : Apart first second := by
  have forked : ∀ path, place (above ++ [name]) <+: path → ¬place (above ++ [other]) <+: path := by
    intro path one two
    have same : place (above ++ [name]) = place (above ++ [other]) :=
      List.prefix_of_prefix_length_le one two (by simp [place]) |>.eq_of_length (by simp [place])
    rw [place_append, place_append] at same
    have last := List.append_cancel_left same
    simp only [place, List.map_cons, List.map_nil, List.cons.injEq, Component.normal.injEq,
      and_true] at last
    exact different (Subtype.ext last)
  exact ⟨fun inner => forked second (left.trans inner) right,
    fun inner => forked first left (right.trans inner)⟩

mutual

theorem filesOf_below (above : List Name) : (node : Node) → ∀ file ∈ filesOf above node,
    place above <+: place file.names
  | .file .., file, member => by
    rw [filesOf, List.mem_singleton] at member
    rw [member]
  | .dir _ entries, file, member => by
    rw [filesOf] at member
    obtain ⟨entry, -, below⟩ := filesOfAll_below above entries file member
    rw [place_append] at below
    exact (List.prefix_append _ _).trans below
  | .symlink _, file, member => by
    rw [filesOf] at member
    cases member
  | .special, file, member => by
    rw [filesOf] at member
    cases member

theorem filesOfAll_below (above : List Name) : (entries : List (Name × Node)) →
    ∀ file ∈ filesOfAll above entries,
      ∃ entry ∈ entries, place (above ++ [entry.1]) <+: place file.names
  | [], file, member => by
    rw [filesOfAll] at member
    cases member
  | (name, node) :: rest, file, member => by
    rw [filesOfAll] at member
    rcases List.mem_append.mp member with here | later
    · exact ⟨(name, node), List.mem_cons_self .., filesOf_below (above ++ [name]) node file here⟩
    · obtain ⟨entry, there, below⟩ := filesOfAll_below above rest file later
      exact ⟨entry, List.mem_cons_of_mem _ there, below⟩

end

mutual

/-- **No file lies on the way to another.** -/
theorem filesOf_apart (above : List Name) : (node : Node) → node.Tidy →
    (filesOf above node).Pairwise fun first second => Apart (place first.names) (place second.names)
  | .file .., _ => by
    rw [filesOf]
    exact List.pairwise_singleton _ _
  | .dir _ entries, tidy => by
    rw [filesOf]
    rw [Node.Tidy] at tidy
    exact filesOfAll_apart above entries tidy.1 tidy.2
  | .symlink _, _ => by
    rw [filesOf]
    exact List.Pairwise.nil
  | .special, _ => by
    rw [filesOf]
    exact List.Pairwise.nil

theorem filesOfAll_apart (above : List Name) : (entries : List (Name × Node)) →
    (entries.map Prod.fst).Nodup → TidyAll entries →
    (filesOfAll above entries).Pairwise fun first second =>
      Apart (place first.names) (place second.names)
  | [], _, _ => by
    rw [filesOfAll]
    exact List.Pairwise.nil
  | (name, node) :: rest, distinct, tidy => by
    rw [TidyAll] at tidy
    rw [List.map_cons, List.nodup_cons] at distinct
    rw [filesOfAll, List.pairwise_append]
    refine ⟨filesOf_apart (above ++ [name]) node tidy.1,
      filesOfAll_apart above rest distinct.2 tidy.2, ?_⟩
    intro first here second there
    obtain ⟨entry, member, below⟩ := filesOfAll_below above rest second there
    have different : name ≠ entry.1 := by
      rintro rfl
      exact distinct.1 (List.mem_map.mpr ⟨entry, member, rfl⟩)
    exact apart_of_fork different (filesOf_below (above ++ [name]) node first here) below

end

/-! ### Unpacking -/

def restored (kind : BundleKind) (file : PackedFile) : DiskPath × FileNode :=
  (place file.names, { content := file.content, mode := keptMode kind file.mode })

/-- **The state after some of the files**: these are there, and no directory but those above
them. -/
structure Restores (kind : BundleKind) (done : List PackedFile) (state : ExtractState) : Prop where
  files : state.disk.files = done.map (restored kind)
  dirs : ∀ dir ∈ state.disk.dirs, ∃ file ∈ done, dir <+: place file.names ∧
    dir ≠ place file.names
  count : state.fileCount = done.length
  total : state.totalBytes = contentBytes done

section Names

variable {names : List Name} (nonempty : names ≠ [])

theorem names_proper (names : List Name) : ∀ name ∈ names.map Subtype.val,
    properName name = true := by
  intro name member
  obtain ⟨own, -, rfl⟩ := List.mem_map.mp member
  exact own.2

include nonempty

theorem map_val_ne_nil : names.map Subtype.val ≠ [] :=
  fun empty => nonempty (List.map_eq_nil_iff.mp empty)

theorem dest_relPath : dest (relPath names) = place names := by
  rw [relPath, dest_joinPath (map_val_ne_nil nonempty) (names_proper _), List.map_map]
  rfl

theorem endsInName_relPath : endsInName (relPath names) = true := by
  rw [endsInName, relPath,
    segments_joinPath (map_val_ne_nil nonempty) (names_proper _), List.map_map,
    List.getLast?_map, List.getLast?_eq_getLast_of_ne_nil nonempty]
  have named := component_proper (names.getLast nonempty).2
  simp [named]

end Names

theorem extractEntry_restores {kind : BundleKind} {done : List PackedFile}
    {state : ExtractState} (restores : Restores kind done state) (nonempty : file.names ≠ [])
    (apart : ∀ other ∈ done, Apart (place other.names) (place file.names))
    (single : file.content.length ≤ maxBundleSingleFileBytes)
    (count : done.length < maxBundleFileCount)
    (total : contentBytes done + file.content.length ≤ maxBundleDecompressedBytes) :
    ∃ after, extractEntry kind calmEntry (recordOf file).entry state = (after, .ok ()) ∧
      Restores kind (done ++ [file]) after := by
  have admitted : admitPath (recordOf file).entry = .ok (relPath file.names) :=
    admitPath_joinPath (map_val_ne_nil nonempty) (names_proper _) (.inl rfl) rfl
  have path := dest_relPath nonempty
  have size : admitSize (relPath file.names) (recordOf file).entry state = .ok () := by
    rw [admitSize]
    simp only [recordOf, TarRecord.entry, restores.total, restores.count]
    rw [if_neg (Nat.not_lt.mpr single), if_neg (Nat.not_lt.mpr total),
      if_neg (Nat.not_le.mpr count)]
  have noFile : ∀ dir, dir <+: place file.names → state.disk.isFile dir = false := by
    intro dir inner
    rw [Disk.isFile, restores.files, List.any_eq_false]
    intro entry member
    obtain ⟨other, there, rfl⟩ := List.mem_map.mp member
    simp only [restored, beq_iff_eq]
    rintro rfl
    exact (apart other there).1 inner
  have above : ∀ dir ∈ upTo (place file.names).dropLast,
      dir <+: place file.names ∧ dir ≠ place file.names := by
    intro dir member
    obtain ⟨taken, below, rfl⟩ := List.mem_map.mp member
    rw [List.mem_range, List.length_dropLast] at below
    have inner : (place file.names).dropLast.take (taken + 1) <+: place file.names :=
      (List.take_prefix _ _).trans (List.dropLast_prefix _)
    refine ⟨inner, fun same => ?_⟩
    have lengths := congrArg List.length same
    rw [List.length_take, List.length_dropLast] at lengths
    omega
  have open_ : (upTo (place file.names).dropLast).any state.disk.isFile = false := by
    rw [List.any_eq_false]
    intro dir member
    rw [noFile dir (above dir member).1]
    exact Bool.false_ne_true
  have created : createDirAll calmEntry.mkdir (place file.names).dropLast state.disk =
      ({ state.disk with
        dirs := state.disk.dirs ++ missingDirs state.disk (place file.names).dropLast }, true) := by
    unfold createDirAll
    rw [open_]
    rfl
  have regular : (recordOf file).entry.entryType ≠ .directory := by
    intro same
    cases same
  have read : ∀ disk, readBody (relPath file.names) (recordOf file).entry
      { state with disk := disk } = .ok file.content := by
    intro disk
    have whole : file.content.take (maxBundleSingleFileBytes + 1) = file.content :=
      List.take_of_length_le (Nat.le_succ_of_le single)
    simp only [readBody, recordOf, TarRecord.entry, whole, restores.total]
    rw [if_neg (Nat.not_lt.mpr single), if_neg (Nat.not_lt.mpr total)]
  have notDir : ∀ dirs, (∀ dir ∈ dirs, dir ∈ missingDirs state.disk (place file.names).dropLast) →
      ({ state.disk with dirs := state.disk.dirs ++ dirs } : Disk).isDir (place file.names) =
        false := by
    intro dirs new
    have named : place file.names ≠ [] := fun empty => nonempty (List.map_eq_nil_iff.mp empty)
    simp only [Disk.isDir, Bool.or_eq_false_iff, beq_eq_false_iff_ne, ne_eq, named,
      not_false_eq_true, true_and]
    rw [Bool.eq_false_iff]
    intro contained
    rcases List.mem_append.mp (List.contains_iff_mem.mp contained) with old | made
    · obtain ⟨other, there, inner, -⟩ := restores.dirs _ old
      exact (apart other there).2 inner
    · exact (above _ (List.mem_of_mem_filter (new _ made))).2 rfl
  have written : ∀ dirs, (∀ dir ∈ dirs,
        dir ∈ missingDirs state.disk (place file.names).dropLast) →
      writeFile kind calmEntry (relPath file.names) (recordOf file).entry file.content
        { state.disk with dirs := state.disk.dirs ++ dirs } =
      (({ state.disk with dirs := state.disk.dirs ++ dirs } : Disk).add (place file.names)
        { content := file.content, mode := keptMode kind file.mode }, .ok ()) := by
    intro dirs new
    have free : ({ state.disk with dirs := state.disk.dirs ++ dirs } : Disk).isFile
        (place file.names) = false := noFile _ (List.prefix_refl _)
    simp only [writeFile, path, calmEntry, endsInName_relPath nonempty, free, notDir dirs new,
      Bool.or_self, Bool.not_true, Bool.false_eq_true, if_false]
    rfl
  rw [extractEntry, admitted]
  simp only [if_neg regular]
  rw [extractFile, size]
  simp only [path, created, Bool.not_true, Bool.false_eq_true, if_false, read,
    written _ fun _ => id]
  refine ⟨_, rfl, ?_, ?_, ?_, ?_⟩
  · simp only [Disk.add, restores.files, List.map_append, List.map_cons, List.map_nil, restored]
  · intro dir member
    rcases List.mem_append.mp member with old | made
    · obtain ⟨other, there, inner⟩ := restores.dirs dir old
      exact ⟨other, List.mem_append_left _ there, inner⟩
    · exact ⟨file, by simp, above dir (List.mem_of_mem_filter made)⟩
  · simp [restores.count]
  · simp [restores.total, contentBytes]

theorem contentBytes_append (files more : List PackedFile) :
    contentBytes (files ++ more) = contentBytes files + contentBytes more := by
  rw [contentBytes, contentBytes, contentBytes, List.map_append, List.sum_append]

/-- **All files are restored**, in the order of the archive. -/
theorem extractLoop_restores (kind : BundleKind) (files : List PackedFile) :
    ∀ (index : Nat) {done : List PackedFile} {state : ExtractState}, Restores kind done state →
      (∀ file ∈ files, file.names ≠ []) →
      ((done ++ files).Pairwise fun first second =>
        Apart (place first.names) (place second.names)) →
      (∀ file ∈ files, file.content.length ≤ maxBundleSingleFileBytes) →
      (done ++ files).length ≤ maxBundleFileCount →
      contentBytes (done ++ files) ≤ maxBundleDecompressedBytes →
      ∃ after, extractLoop kind calm.entries index
          (files.map fun file => .ok (recordOf file).entry) state = (after, .ok ()) ∧
        Restores kind (done ++ files) after := by
  induction files with
  | nil =>
    intro index done state restores _ _ _ _ _
    exact ⟨state, rfl, by rwa [List.append_nil]⟩
  | cons file rest ih =>
    intro index done state restores named apart single count total
    have joined : done ++ file :: rest = done ++ [file] ++ rest := by simp
    have room : done.length < maxBundleFileCount := by
      simp only [List.length_append, List.length_cons] at count
      omega
    have fits : contentBytes done + file.content.length ≤ maxBundleDecompressedBytes := by
      rw [joined, contentBytes_append, contentBytes_append] at total
      have here : contentBytes [file] = file.content.length := by simp [contentBytes]
      omega
    obtain ⟨middle, run, restored⟩ := extractEntry_restores restores
      (named file (List.mem_cons_self ..))
      (fun other member => (List.pairwise_append.mp apart).2.2 other member file
        (List.mem_cons_self ..))
      (single file (List.mem_cons_self ..)) room fits
    rw [joined] at apart count total ⊢
    obtain ⟨after, later, all⟩ := ih (index + 1) restored
      (fun other member => named other (List.mem_cons_of_mem _ member)) apart
      (fun other member => single other (List.mem_cons_of_mem _ member)) count total
    refine ⟨after, ?_, all⟩
    rw [List.map_cons, extractLoop, show calm.entries index = calmEntry from rfl, run]
    exact later

theorem filesOf_named {readable : Bool}
    (member : file ∈ filesOf [] (.dir readable entries)) : file.names ≠ [] := by
  rw [filesOf] at member
  obtain ⟨entry, -, below⟩ := filesOfAll_below [] entries file member
  intro empty
  have short := below.length_le
  simp [empty, place] at short

theorem apart_symm (apart : Apart first second) : Apart second first :=
  ⟨apart.2, apart.1⟩

/-- **What the packer accepts is extracted again**: the same regular files with their bytes and the
permissions that the kind of bundle keeps, and the same counts. -/
theorem bundle_roundtrip {Packed : Type} (codec : PackCodec Packed) (kind : BundleKind)
    (workspace : Workspace) (target : Option Disk) (measure : PackMeasure Packed)
    (packed : packWorkspaceDirMeasured codec workspace = .ok measure) :
    ∃ disk, publicExtraction codec.toCodec calm kind (.tarball measure.bytes) target =
        (some disk, .ok
          { fileCount := measure.fileCount
            totalBytes := measure.totalBytes
            sha256Hex := measure.sha256Hex }) ∧
      disk.files.Perm (workspace.files.map (restored kind)) := by
  obtain ⟨root, tidy⟩ := workspace
  cases root with
  | file | symlink | special => cases packed
  | dir readable entries =>
    simp only [packWorkspaceDirMeasured] at packed
    split at packed
    · split at packed
      · cases packed
      next state appended =>
        split at packed
        · cases packed
        next bytes encoded =>
          cases packed
          obtain ⟨files, same, packs⟩ := appendNode_packs [] _ _ _ appended
          have apart : files.Pairwise fun first second =>
              Apart (place first.names) (place second.names) :=
            (same.pairwise_iff fun {_ _} => apart_symm).mpr (filesOf_apart [] _ tidy)
          have count := packs.count
          have total := packs.total
          rw [Nat.zero_add] at count total
          have records := packs.records
          rw [List.nil_append] at records
          have nothing : Restores kind [] .start :=
            { files := rfl
              dirs := fun dir member => (by cases member)
              count := rfl
              total := rfl }
          obtain ⟨after, run, restored⟩ := extractLoop_restores kind files 0 nothing
            (fun file member => filesOf_named (same.subset member)) apart packs.single
            (count ▸ packs.countCap (Nat.zero_le _)) (total ▸ packs.totalCap (Nat.zero_le _))
          have decoded := codec.decodes _ _ encoded
          rw [records, List.map_map] at decoded
          have extracted : extractTarGzTo kind calm.entries (codec.decode bytes) =
              (after.disk, .ok { fileCount := state.fileCount, totalBytes :=
                state.totalBytes }) := by
            rw [decoded]
            simp only [extractTarGzTo, Function.comp_def, run, restored.count, restored.total,
              count,
              total, List.nil_append]
          have swapped : swap calm after.disk target = (some after.disk, .ok ()) := by
            cases target <;> rfl
          refine ⟨after.disk, ?_, ?_⟩
          · have quiet : calm.stagingFails = false := rfl
            simp only [publicExtraction, Source.checked, quiet, extracted, swapped,
              Bool.false_eq_true, if_false]
          · rw [restored.files]
            exact same.map _
    · cases packed

def twoFiles : Workspace where
  root := .dir true
    [(⟨"workflow.yaml", by decide⟩, .file true [110, 97] 0o100644),
      (⟨"scripts", by decide⟩, .dir true [(⟨"run.py", by decide⟩, .file true [112] 0o100755)])]
  tidy := by
    simp [Node.Tidy, TidyAll]

/-- An archive format that keeps the records as they are. -/
def plainCodec : PackCodec (List TarRecord) where
  decode records := .ok (records.map fun record => .ok record.entry)
  hexSha256 _ := "0"
  encode records := .ok records
  decodes records bytes same := by
    cases same
    rfl

theorem twoFiles_packed : packWorkspaceDirMeasured plainCodec twoFiles = .ok
    { bytes := [⟨"scripts/run.py", 1, 0o100755, [112]⟩,
        ⟨"workflow.yaml", 2, 0o100644, [110, 97]⟩]
      sha256Hex := "0"
      totalBytes := 3
      fileCount := 2 } := by
  rfl

theorem twoFiles_roundtrip : ∃ disk, publicExtraction plainCodec.toCodec calm .workflow
      (.tarball [⟨"scripts/run.py", 1, 0o100755, [112]⟩,
        ⟨"workflow.yaml", 2, 0o100644, [110, 97]⟩]) none =
      (some disk, .ok { fileCount := 2, totalBytes := 3, sha256Hex := "0" }) ∧
    disk.files.Perm (twoFiles.files.map (restored .workflow)) :=
  bundle_roundtrip plainCodec .workflow twoFiles none _ twoFiles_packed

end Ziee.Hub
