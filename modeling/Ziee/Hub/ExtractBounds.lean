/-
**What an untrusted bundle can do.**

* `Bounded` — the caps on files and bytes, and that nothing is outside or written twice.
* `extraction_safe_iff` — **the promise is kept exactly** when the directories of each entry fit
  under the cap, and a swap over an old directory does not fail half way.
-/

import Ziee.Hub.Extract
import Ziee.Library.Prefixes

namespace Ziee.Hub

open Ziee.Scheduler (AppError)
open Prefixes (EachStep)

variable {entry : TarEntry} {disk : Disk} {state after : ExtractState} {kind : BundleKind}
  {faults : Nat → EntryFaults} {entries : List (Except String TarEntry)}

def Inside (path : DiskPath) : Prop := ∀ component ∈ path, ∃ name, component = .normal name

variable {path : DiskPath} {names : List String}

theorem Inside.take (inside : Inside path) (count : Nat) :
    Inside (path.take count) :=
  fun component member => inside component (List.mem_of_mem_take member)

theorem Inside.upTo {dir : DiskPath} (inside : Inside path) (above : dir ∈ upTo path) :
    Inside dir := by
  obtain ⟨count, -, rfl⟩ := List.mem_map.mp above
  exact inside.take (count + 1)

theorem admitPath_inside {path : String}
    (admitted : admitPath entry = .ok path) :
    Inside (dest path) := by
  unfold admitPath at admitted
  split at admitted
  · cases admitted
  · split at admitted
    · cases admitted
    · split at admitted
      · cases admitted
      · split at admitted
        next tolerates =>
          cases admitted
          intro component member
          obtain ⟨here, other⟩ := List.mem_filter.mp member
          have allowed := List.all_eq_true.mp tolerates component here
          cases component with
          | normal name => exact ⟨name, rfl⟩
          | curDir => simp at other
          | rootDir | parentDir => cases allowed
        next => cases admitted

theorem admitPath_joinPath (nonempty : names ≠ [])
    (proper : ∀ name ∈ names, properName name = true)
    (type : entry.entryType = .regular ∨ entry.entryType = .directory)
    (path : entry.path = .ok (joinPath names)) : admitPath entry = .ok (joinPath names) := by
  have parts := components_joinPath nonempty proper
  have relative : isAbsolute (joinPath names) = false := by
    by_contra absolute
    rw [Bool.not_eq_false] at absolute
    have rooted : Component.rootDir ∈ components (joinPath names) := by
      rw [components, if_pos absolute]
      exact List.mem_cons_self ..
    rw [parts] at rooted
    simp at rooted
  have tolerates : (components (joinPath names)).all tolerated = true := by
    rw [parts]
    simp [tolerated]
  have kind : ¬(entry.entryType ≠ .regular ∧ entry.entryType ≠ .directory) := by
    rintro ⟨one, two⟩
    exact type.elim one two
  rw [admitPath, if_neg kind, path]
  simp only [relative, Bool.false_eq_true, if_false, tolerates, if_true]

theorem upTo_nodup (path : DiskPath) : (upTo path).Nodup := by
  refine List.Nodup.map_on ?_ List.nodup_range
  intro first firstMember second secondMember same
  have lengths := congrArg List.length same
  rw [List.mem_range] at firstMember secondMember
  rw [List.length_take, List.length_take] at lengths
  omega

theorem missingDirs_nodup (disk : Disk) (path : DiskPath) : (missingDirs disk path).Nodup :=
  (upTo_nodup path).filter _

/-- The directories that `create_dir_all` makes, also when it fails. -/
def newDirs (fault : Option Nat) (path : DiskPath) (disk : Disk) : List DiskPath :=
  if (upTo path).any disk.isFile then []
  else
    match fault with
    | none => missingDirs disk path
    | some made => (missingDirs disk path).take made

theorem createDirAll_disk (fault : Option Nat) (path : DiskPath) (disk : Disk) :
    (createDirAll fault path disk).1 =
      { disk with dirs := disk.dirs ++ newDirs fault path disk } := by
  unfold createDirAll newDirs
  split
  · simp
  · cases fault <;> rfl

theorem newDirs_sublist (fault : Option Nat) (path : DiskPath) (disk : Disk) :
    (newDirs fault path disk).Sublist (missingDirs disk path) := by
  unfold newDirs
  split
  · exact List.nil_sublist _
  · cases fault with
    | none => exact List.Sublist.refl _
    | some made => exact List.take_sublist made _

theorem newDirs_new {fault : Option Nat} {dir : DiskPath}
    (member : dir ∈ newDirs fault path disk) : dir ∈ upTo path ∧ dir ∉ disk.dirs := by
  have missing := (newDirs_sublist fault path disk).subset member
  obtain ⟨above, absent⟩ := List.mem_filter.mp missing
  refine ⟨above, fun present => ?_⟩
  simp [Disk.isDir, present] at absent

/-! ### The caps -/

def sizes (disk : Disk) : Nat := (disk.files.map fun file => file.2.content.length).sum

/-- **What is below the target** after any part of an extraction. -/
structure Bounded (disk : Disk) : Prop where
  dirsInside : ∀ dir ∈ disk.dirs, Inside dir
  filesInside : ∀ file ∈ disk.files, Inside file.1
  dirsOnce : disk.dirs.Nodup
  filesOnce : (disk.files.map Prod.fst).Nodup
  fileCap : disk.files.length ≤ maxBundleFileCount
  byteCap : sizes disk ≤ maxBundleDecompressedBytes
  singleCap : ∀ file ∈ disk.files, file.2.content.length ≤ maxBundleSingleFileBytes

/-- The counters are right, too. -/
structure Counted (state : ExtractState) : Prop where
  bounded : Bounded state.disk
  files : state.fileCount = state.disk.files.length
  bytes : state.totalBytes = sizes state.disk

theorem counted_start : Counted .start where
  bounded :=
    { dirsInside := by simp [ExtractState.start, Disk.empty]
      filesInside := by simp [ExtractState.start, Disk.empty]
      dirsOnce := List.nodup_nil
      filesOnce := List.nodup_nil
      fileCap := Nat.zero_le _
      byteCap := Nat.zero_le _
      singleCap := by simp [ExtractState.start, Disk.empty] }
  files := rfl
  bytes := rfl

theorem Bounded.createDirAll (bounded : Bounded disk) (fault : Option Nat) (inside : Inside path) :
    Bounded (createDirAll fault path disk).1 := by
  rw [createDirAll_disk]
  refine { bounded with dirsInside := ?_, dirsOnce := ?_ }
  · intro dir member
    rcases List.mem_append.mp member with old | new
    · exact bounded.dirsInside dir old
    · exact inside.upTo (newDirs_new new).1
  · refine List.nodup_append.mpr ⟨bounded.dirsOnce,
      (missingDirs_nodup disk path).sublist (newDirs_sublist fault path disk), ?_⟩
    rintro old oldMember new newMember rfl
    exact (newDirs_new newMember).2 oldMember

theorem sizes_add (disk : Disk) (path : DiskPath) (node : FileNode) :
    sizes (disk.add path node) = sizes disk + node.content.length := by
  simp [sizes, Disk.add]

theorem Bounded.add (bounded : Bounded disk) {node : FileNode}
    (inside : Inside path) (new : disk.isFile path = false)
    (room : disk.files.length < maxBundleFileCount)
    (single : node.content.length ≤ maxBundleSingleFileBytes)
    (total : sizes disk + node.content.length ≤ maxBundleDecompressedBytes) :
    Bounded (disk.add path node) := by
  have absent : path ∉ disk.files.map Prod.fst := by
    intro present
    obtain ⟨file, member, rfl⟩ := List.mem_map.mp present
    have found : disk.isFile file.1 = true :=
      List.any_eq_true.mpr ⟨file, member, beq_self_eq_true _⟩
    rw [new] at found
    cases found
  refine { bounded with
    filesInside := ?_, filesOnce := ?_, fileCap := ?_, byteCap := ?_, singleCap := ?_ }
  · intro file member
    rcases List.mem_append.mp member with old | last
    · exact bounded.filesInside file old
    · rw [List.mem_singleton.mp last]
      exact inside
  · rw [Disk.add, List.map_append]
    refine List.nodup_append.mpr ⟨bounded.filesOnce, List.nodup_singleton _, ?_⟩
    rintro old oldMember new newMember rfl
    rw [List.map_singleton, List.mem_singleton] at newMember
    have same : old = path := newMember
    exact absent (same ▸ oldMember)
  · rw [Disk.add, List.length_append]
    exact room
  · rw [sizes_add]
    exact total
  · intro file member
    rcases List.mem_append.mp member with old | last
    · exact bounded.singleCap file old
    · rw [List.mem_singleton.mp last]
      exact single

/-! ### One entry -/

/-- What one round leaves behind: a bounded disk on which every file is as it was, and right
counters if it has no error. -/
structure Kept (state after : ExtractState) (result : Except AppError Unit) : Prop where
  bounded : Bounded after.disk
  counted : result = .ok () → Counted after
  files : state.disk.files <+: after.disk.files

theorem Kept.same (counted : Counted state)
    (result : Except AppError Unit) : Kept state state result :=
  ⟨counted.bounded, fun _ => counted, List.prefix_refl _⟩

theorem Kept.failed (bounded : Bounded after.disk)
    (files : after.disk.files = state.disk.files) (e : AppError) :
    Kept state after (.error e) :=
  ⟨bounded, fun ok => (by cases ok), files ▸ List.prefix_refl _⟩

theorem readBody_caps {path : String} {buf : Bytes}
    (read : readBody path entry state = .ok buf) :
    buf.length ≤ maxBundleSingleFileBytes ∧
      state.totalBytes + buf.length ≤ maxBundleDecompressedBytes := by
  unfold readBody at read
  split at read
  · cases read
  · simp only at read
    split at read
    · cases read
    · split at read
      · cases read
      next small fits =>
        cases read
        exact ⟨Nat.le_of_not_lt small, Nat.le_of_not_lt fits⟩

theorem admitSize_room {path : String}
    (admitted : admitSize path entry state = .ok ()) : state.fileCount < maxBundleFileCount := by
  unfold admitSize at admitted
  split at admitted
  · cases admitted
  · split at admitted
    · cases admitted
    · split at admitted
      · cases admitted
      · split at admitted
        · cases admitted
        next room => exact Nat.lt_of_not_le room

theorem extractDirectory_kept (faults : EntryFaults) {path : String}
    (counted : Counted state) (inside : Inside (dest path)) :
    Kept state (extractDirectory faults path state).1 (extractDirectory faults path state).2 := by
  unfold extractDirectory
  split
  · exact Kept.same counted _
  · have bounded := counted.bounded.createDirAll faults.mkdir inside
    have files : (createDirAll faults.mkdir (dest path) state.disk).1.files = state.disk.files := by
      rw [createDirAll_disk]
    refine ⟨bounded, fun _ => ⟨bounded, ?_, ?_⟩, ?_⟩
    · show state.fileCount = (createDirAll faults.mkdir (dest path) state.disk).1.files.length
      rw [files, counted.files]
    · show state.totalBytes = sizes (createDirAll faults.mkdir (dest path) state.disk).1
      rw [sizes, files, counted.bytes, sizes]
    · show _ <+: (createDirAll faults.mkdir (dest path) state.disk).1.files
      rw [files]

theorem writeFile_cases (kind : BundleKind) (faults : EntryFaults) (path : String)
    (entry : TarEntry) (buf : Bytes) (disk : Disk) :
    writeFile kind faults path entry buf disk = (disk, .error internalWithId) ∨
      disk.isFile (dest path) = false ∧ ∃ node, node.content.length ≤ buf.length ∧
        ((writeFile kind faults path entry buf disk).1 = disk.add (dest path) node ∧
          ((writeFile kind faults path entry buf disk).2 = .ok () → node.content = buf)) := by
  unfold writeFile
  split
  · exact .inl rfl
  next open_ =>
    simp only [Bool.or_eq_true, not_or, Bool.not_eq_true] at open_
    refine .inr ⟨open_.1.2, ?_⟩
    cases faults.write with
    | some written =>
      exact ⟨_, List.length_take_le' _ _, rfl, fun ok => (by cases ok)⟩
    | none => exact ⟨_, Nat.le_refl _, rfl, fun _ => rfl⟩

theorem extractFile_kept (kind : BundleKind) (faults : EntryFaults) {path : String}
    (entry : TarEntry) (counted : Counted state)
    (inside : Inside (dest path)) :
    Kept state (extractFile kind faults path entry state).1
      (extractFile kind faults path entry state).2 := by
  unfold extractFile
  split
  · exact Kept.same counted _
  next admitted =>
    have room := admitSize_room admitted
    rw [counted.files] at room
    have below : Inside (dest path).dropLast := by
      rw [List.dropLast_eq_take]
      exact inside.take _
    have bounded := counted.bounded.createDirAll faults.mkdir below
    have disk := createDirAll_disk faults.mkdir (dest path).dropLast state.disk
    have files : (createDirAll faults.mkdir (dest path).dropLast state.disk).1.files =
        state.disk.files := by rw [disk]
    have size : sizes (createDirAll faults.mkdir (dest path).dropLast state.disk).1 =
        sizes state.disk := by rw [sizes, files, sizes]
    generalize createDirAll faults.mkdir (dest path).dropLast state.disk = created at *
    simp only
    split
    next failed => exact Kept.failed bounded files _
    · split
      · exact Kept.failed bounded files _
      next buf read =>
        obtain ⟨single, total⟩ := readBody_caps read
        simp only at total
        rw [counted.bytes, ← size] at total
        rcases writeFile_cases kind faults path entry buf created.1 with refused | written
        · rw [refused]
          exact Kept.failed bounded files _
        · obtain ⟨new, node, short, here, whole⟩ := written
          have after : Bounded (created.1.add (dest path) node) :=
            bounded.add inside new (files ▸ room) (short.trans single)
              ((Nat.add_le_add_left short _).trans total)
          refine ⟨by simpa only [here] using after, fun ok => ⟨by simpa only [here] using after,
            ?_, ?_⟩, ?_⟩
          · simp only [here, Disk.add, List.length_append, List.length_singleton, counted.files,
              files]
          · simp only [here, sizes_add, whole ok, counted.bytes, size]
          · simp only [here, Disk.add, files]
            exact List.prefix_append _ _

/-- **One entry** keeps the caps. -/
theorem extractEntry_kept (kind : BundleKind) (faults : EntryFaults) (entry : TarEntry)
    (counted : Counted state) : Kept state (extractEntry kind faults entry state).1
      (extractEntry kind faults entry state).2 := by
  unfold extractEntry
  split
  · exact Kept.same counted _
  next path admitted =>
    have inside := admitPath_inside admitted
    split
    · exact extractDirectory_kept faults counted inside
    · exact extractFile_kept kind faults entry counted inside

/-! ### The loop -/

/-- **Every run keeps the caps**, also one that fails. -/
theorem extractLoop_kept (kind : BundleKind) (faults : Nat → EntryFaults) (index : Nat)
    (entries : List (Except String TarEntry)) (counted : Counted state) :
    Kept state (extractLoop kind faults index entries state).1
      (extractLoop kind faults index entries state).2 := by
  induction entries generalizing index state with
  | nil => exact Kept.same counted _
  | cons entry rest ih =>
    cases entry with
    | error e => exact Kept.same counted _
    | ok entry =>
      have kept := extractEntry_kept kind (faults index) entry counted
      rw [extractLoop]
      generalize extractEntry kind (faults index) entry state = next at *
      obtain ⟨after, result⟩ := next
      cases result with
      | error e => exact kept
      | ok done =>
        have later := ih (index + 1) (kept.counted rfl)
        exact ⟨later.bounded, later.counted, kept.files.trans later.files⟩

theorem extractLoop_append {index : Nat}
    (run : extractLoop kind faults index entries state = (after, .ok ()))
    (rest : List (Except String TarEntry)) :
    extractLoop kind faults index (entries ++ rest) state =
      extractLoop kind faults (index + entries.length) rest after := by
  induction entries generalizing index state with
  | nil =>
    cases run
    rfl
  | cons entry entries ih =>
    cases entry with
    | error e => cases run
    | ok entry =>
      rw [List.cons_append, extractLoop]
      rw [extractLoop] at run
      generalize extractEntry kind (faults index) entry state = next at *
      obtain ⟨middle, result⟩ := next
      cases result with
      | error e => cases run
      | ok done =>
        rw [List.length_cons, Nat.add_comm entries.length 1, ← Nat.add_assoc]
        exact ih run

theorem extractLoop_failed {index : Nat} {e : AppError}
    (run : extractLoop kind faults index entries state = (after, .error e))
    (rest : List (Except String TarEntry)) :
    extractLoop kind faults index (entries ++ rest) state = (after, .error e) := by
  induction entries generalizing index state with
  | nil => cases run
  | cons entry entries ih =>
    cases entry with
    | error e => exact run
    | ok entry =>
      rw [List.cons_append, extractLoop]
      rw [extractLoop] at run
      generalize extractEntry kind (faults index) entry state = next at *
      obtain ⟨middle, result⟩ := next
      cases result with
      | error e => exact run
      | ok done => exact ih run

/-! ### Directories -/

/-- **The directories that an entry makes**: its own and those above it. -/
def madeDirs (faults : EntryFaults) (entry : TarEntry) (state : ExtractState) : List DiskPath :=
  match admitPath entry with
  | .error _ => []
  | .ok path =>
    if entry.entryType = .directory then
      if maxBundleFileCount ≤ state.dirCount then []
      else newDirs faults.mkdir (dest path) state.disk
    else
      match admitSize path entry state with
      | .error _ => []
      | .ok () => newDirs faults.mkdir (dest path).dropLast state.disk

theorem writeFile_dirs (kind : BundleKind) (faults : EntryFaults) (path : String)
    (entry : TarEntry) (buf : Bytes) (disk : Disk) :
    (writeFile kind faults path entry buf disk).1.dirs = disk.dirs := by
  rcases writeFile_cases kind faults path entry buf disk with refused | ⟨-, node, -, written, -⟩
  · rw [refused]
  · rw [written, Disk.add]

theorem extractEntry_dirs (kind : BundleKind) (faults : EntryFaults) (entry : TarEntry)
    (state : ExtractState) : (extractEntry kind faults entry state).1.disk.dirs =
      state.disk.dirs ++ madeDirs faults entry state := by
  unfold extractEntry madeDirs
  cases admitPath entry with
  | error e => simp
  | ok path =>
    simp only
    by_cases directory : entry.entryType = .directory
    · rw [if_pos directory, if_pos directory]
      unfold extractDirectory
      by_cases full : maxBundleFileCount ≤ state.dirCount
      · rw [if_pos full, if_pos full, List.append_nil]
      · rw [if_neg full, if_neg full]
        simp only [createDirAll_disk]
    · rw [if_neg directory, if_neg directory]
      unfold extractFile
      cases admitSize path entry state with
      | error e => simp
      | ok done =>
        simp only [createDirAll_disk]
        split
        · rfl
        · split
          · rfl
          · rw [writeFile_dirs]

/-- The entry's directories fit under the cap, when the run gets to it. -/
def DirsFit (kind : BundleKind) (faults : Nat → EntryFaults)
    (before : List (Except String TarEntry)) (next : Except String TarEntry) : Prop :=
  ∀ state entry, extractLoop kind faults 0 before .start = (state, .ok ()) → next = .ok entry →
    state.disk.dirs.length + (madeDirs (faults before.length) entry state).length ≤
      maxBundleFileCount

/-- **Each entry's directories fit under the cap.** -/
def RoomForDirs (kind : BundleKind) (faults : Nat → EntryFaults)
    (entries : List (Except String TarEntry)) : Prop :=
  EachStep (DirsFit kind faults) entries

theorem dirs_concat (kind : BundleKind) (faults : Nat → EntryFaults)
    (entries : List (Except String TarEntry)) (next : Except String TarEntry)
    (sofar : (extractLoop kind faults 0 entries .start).1.disk.dirs.length ≤ maxBundleFileCount) :
    (extractLoop kind faults 0 (entries ++ [next]) .start).1.disk.dirs.length ≤
        maxBundleFileCount ↔ DirsFit kind faults entries next := by
  cases run : extractLoop kind faults 0 entries .start with
  | mk state result =>
    rw [run] at sofar
    cases result with
    | error e =>
      rw [extractLoop_failed run]
      refine iff_of_true sofar fun other entry goes => ?_
      rw [run] at goes
      cases goes
    | ok done =>
      rw [extractLoop_append run, Nat.zero_add]
      unfold DirsFit
      rw [run]
      cases next with
      | error e => exact iff_of_true sofar nofun
      | ok entry =>
        have grown : (extractLoop kind faults entries.length [.ok entry] state).1.disk.dirs =
            state.disk.dirs ++ madeDirs (faults entries.length) entry state := by
          rw [extractLoop, ← extractEntry_dirs kind]
          generalize extractEntry kind (faults entries.length) entry state = last
          obtain ⟨after, result⟩ := last
          cases result <;> rfl
        rw [grown, List.length_append]
        constructor
        · intro fits other another same readable
          cases same
          cases readable
          exact fits
        · exact fun fits => fits state entry rfl rfl

theorem dirs_mono
    {before : List (Except String TarEntry)} (initial : before <+: entries) :
    (extractLoop kind faults 0 before .start).1.disk.dirs.length ≤
      (extractLoop kind faults 0 entries .start).1.disk.dirs.length := by
  obtain ⟨rest, rfl⟩ := initial
  induction rest using List.reverseRecOn with
  | nil => rw [List.append_nil]
  | append_singleton rest next ih =>
    refine ih.trans ?_
    rw [← List.append_assoc]
    generalize before ++ rest = entries
    cases run : extractLoop kind faults 0 entries .start with
    | mk state result =>
      cases result with
      | error e => rw [extractLoop_failed run]
      | ok done =>
        rw [extractLoop_append run]
        cases next with
        | error e => exact Nat.le_refl _
        | ok entry =>
          have grown := extractEntry_dirs kind (faults (0 + entries.length)) entry state
          rw [extractLoop]
          generalize extractEntry kind (faults (0 + entries.length)) entry state = last at *
          obtain ⟨after, result⟩ := last
          have more : state.disk.dirs.length ≤ after.disk.dirs.length := by
            rw [grown, List.length_append]
            exact Nat.le_add_right _ _
          cases result <;> exact more

theorem dirs_capped_iff (kind : BundleKind) (faults : Nat → EntryFaults)
    (entries : List (Except String TarEntry)) :
    (extractLoop kind faults 0 entries .start).1.disk.dirs.length ≤ maxBundleFileCount ↔
      RoomForDirs kind faults entries := by
  have each := @Prefixes.prefixes_iff _ (DirsFit kind faults) entries (fun _ => True)
    (fun before =>
      (extractLoop kind faults 0 before .start).1.disk.dirs.length ≤ maxBundleFileCount)
    (fun _ _ _ => trivial) (Nat.zero_le _)
    (fun before next _ sofar => dirs_concat kind faults before next sofar) trivial
  rw [RoomForDirs, ← each]
  exact ⟨fun capped before initial => (dirs_mono initial).trans capped,
    fun holds => holds entries (List.prefix_refl _)⟩

/-! ### The promise -/

theorem extractTarGzTo_ok (kind : BundleKind) (faults : Nat → EntryFaults)
    (entries : List (Except String TarEntry)) :
    (extractTarGzTo kind faults (.ok entries)).1 =
    (extractLoop kind faults 0 entries .start).1.disk ∧
      ∀ extraction, (extractTarGzTo kind faults (.ok entries)).2 = .ok extraction →
        (extractLoop kind faults 0 entries .start).2 = .ok () ∧
        extraction.fileCount = (extractLoop kind faults 0 entries .start).1.fileCount ∧
        extraction.totalBytes = (extractLoop kind faults 0 entries .start).1.totalBytes := by
  simp only [extractTarGzTo]
  obtain ⟨state, result⟩ := extractLoop kind faults 0 entries .start
  cases result with
  | error e => exact ⟨rfl, nofun⟩
  | ok done =>
    refine ⟨rfl, fun extraction same => ?_⟩
    cases same
    exact ⟨rfl, rfl, rfl⟩

/-- **What is promised of an extraction**: it stays inside, under every cap, overwrites nothing and
counts right; and a public extraction that fails leaves the target as it was. -/
structure Safe {Packed : Type} (codec : Codec Packed) (host : Host) (kind : BundleKind)
    (stream : TarStream) (source : Source Packed) (target : Option Disk) : Prop where
  bounded : Bounded (extractTarGzTo kind host.entries stream).1
  dirCap : (extractTarGzTo kind host.entries stream).1.dirs.length ≤ maxBundleFileCount
  kept : ∀ entries before, stream = .ok entries → before <+: entries →
    (extractTarGzTo kind host.entries (.ok before)).1.files <+:
      (extractTarGzTo kind host.entries stream).1.files
  counted : ∀ extraction, (extractTarGzTo kind host.entries stream).2 = .ok extraction →
    extraction.fileCount = (extractTarGzTo kind host.entries stream).1.files.length ∧
      extraction.totalBytes = sizes (extractTarGzTo kind host.entries stream).1
  atomic : ∀ e, (publicExtraction codec host kind source target).2 = .error e →
    (publicExtraction codec host kind source target).1 = target

def ReachesSwap {Packed : Type} (codec : Codec Packed) (host : Host) (kind : BundleKind)
    (source : Source Packed) : Prop :=
  ∃ bytes, source.checked codec = .ok bytes ∧ host.stagingFails = false ∧
    (∃ extraction, (extractTarGzTo kind host.entries (codec.decode bytes)).2 = .ok extraction) ∧
      host.parentFails = false

/-- **The swap over an old directory does not fail half way**: a removal that fails has removed
nothing, and the rename after it does not fail. -/
def SwapsWhole {Packed : Type} (codec : Codec Packed) (host : Host) (kind : BundleKind)
    (source : Source Packed) (target : Option Disk) : Prop :=
  ∀ old, target = some old → ReachesSwap codec host kind source →
    (∀ left, host.removal = some left → left = old) ∧
      (host.removal = none → host.renameFails = false)

theorem swap_whole_iff (host : Host) (staged : Disk) (target : Option Disk) :
    (∀ e, (swap host staged target).2 = .error e → (swap host staged target).1 = target) ↔
      (∀ old, target = some old → host.parentFails = false →
        (∀ left, host.removal = some left → left = old) ∧
          (host.removal = none → host.renameFails = false)) := by
  unfold swap
  cases parent : host.parentFails with
  | true => simp
  | false =>
    cases target with
    | none => cases rename : host.renameFails <;> simp
    | some old =>
      cases removal : host.removal with
      | some left => simp
      | none => cases rename : host.renameFails <;> simp

theorem publicExtraction_swap {Packed : Type} {codec : Codec Packed} {host : Host}
    {source : Source Packed} {bytes : Packed} {staged : Disk}
    {extraction : LocalExtraction} (target : Option Disk)
    (checked : source.checked codec = .ok bytes) (staging : host.stagingFails = false)
    (extracted : extractTarGzTo kind host.entries (codec.decode bytes) =
      (staged, .ok extraction)) :
    (∀ e, (publicExtraction codec host kind source target).2 = .error e →
        (publicExtraction codec host kind source target).1 = target) ↔
      ∀ e, (swap host staged target).2 = .error e → (swap host staged target).1 = target := by
  rw [publicExtraction, checked]
  simp only [staging, Bool.false_eq_true, if_false, extracted]
  obtain ⟨after, swapped⟩ := swap host staged target
  cases swapped <;> simp

theorem atomic_iff {Packed : Type} (codec : Codec Packed) (host : Host) (kind : BundleKind)
    (source : Source Packed) (target : Option Disk) :
    (∀ e, (publicExtraction codec host kind source target).2 = .error e →
      (publicExtraction codec host kind source target).1 = target) ↔
      SwapsWhole codec host kind source target := by
  cases checked : source.checked codec with
  | error e =>
    refine iff_of_true (fun e _ => by rw [publicExtraction, checked]) fun old _ reaches => ?_
    obtain ⟨bytes, good, -⟩ := reaches
    rw [checked] at good
    cases good
  | ok bytes =>
    cases staging : host.stagingFails with
    | true =>
      refine iff_of_true (fun e _ => by simp [publicExtraction, checked, staging]) ?_
      rintro old - ⟨-, -, calm, -⟩
      rw [staging] at calm
      cases calm
    | false =>
      cases extracted : extractTarGzTo kind host.entries (codec.decode bytes) with
      | mk staged result =>
        cases result with
        | error e =>
          refine iff_of_true
            (fun e _ => by simp [publicExtraction, checked, staging, extracted]) ?_
          rintro old - ⟨other, good, -, ⟨extraction, fine⟩, -⟩
          rw [checked] at good
          cases good
          rw [extracted] at fine
          cases fine
        | ok extraction =>
          have reaches : ReachesSwap codec host kind source ↔ host.parentFails = false := by
            constructor
            · rintro ⟨-, -, -, -, parent⟩
              exact parent
            · exact fun parent =>
                ⟨bytes, checked, staging, ⟨extraction, by rw [extracted]⟩, parent⟩
          rw [publicExtraction_swap target checked staging extracted, swap_whole_iff, SwapsWhole,
            reaches]

/-- **The promise is kept exactly** when each entry's directories fit and the swap is whole. -/
theorem extraction_safe_iff {Packed : Type} (codec : Codec Packed) (host : Host)
    (kind : BundleKind) (stream : TarStream) (source : Source Packed) (target : Option Disk) :
    Safe codec host kind stream source target ↔
      (∀ entries, stream = .ok entries → RoomForDirs kind host.entries entries) ∧
        SwapsWhole codec host kind source target := by
  constructor
  · intro safe
    refine ⟨?_, (atomic_iff codec host kind source target).mp safe.atomic⟩
    rintro entries rfl
    rw [← dirs_capped_iff, ← (extractTarGzTo_ok kind host.entries entries).1]
    exact safe.dirCap
  · rintro ⟨room, whole⟩
    have atomic := (atomic_iff codec host kind source target).mpr whole
    cases stream with
    | error e =>
      exact
        { bounded := counted_start.bounded
          dirCap := Nat.zero_le _
          kept := fun entries before same => (by cases same)
          counted := fun extraction same => (by cases same)
          atomic := atomic }
    | ok entries =>
      have disk := (extractTarGzTo_ok kind host.entries entries).1
      have kept := extractLoop_kept kind host.entries 0 entries counted_start
      refine
        { bounded := disk ▸ kept.bounded
          dirCap := ?_
          kept := ?_
          counted := ?_
          atomic := atomic }
      · rw [disk, dirs_capped_iff]
        exact room entries rfl
      · intro same before equal ⟨rest, joined⟩
        cases equal
        subst joined
        rw [disk, (extractTarGzTo_ok kind host.entries before).1]
        have sofar := extractLoop_kept kind host.entries 0 before counted_start
        cases run : extractLoop kind host.entries 0 before .start with
        | mk state result =>
          cases result with
          | error e => rw [extractLoop_failed run]
          | ok done =>
            rw [extractLoop_append run]
            rw [run] at sofar
            exact (extractLoop_kept kind host.entries _ rest (sofar.counted rfl)).files
      · intro extraction extracted
        obtain ⟨good, count, total⟩ :=
          (extractTarGzTo_ok kind host.entries entries).2 extraction extracted
        have counted := kept.counted good
        rw [disk, count, total, counted.files, counted.bytes]
        exact ⟨rfl, rfl⟩

/-! ### Two failures -/

theorem missingDirs_empty (path : DiskPath) : missingDirs .empty path = upTo path := by
  refine List.filter_eq_self.mpr fun dir above => ?_
  obtain ⟨count, below, rfl⟩ := List.mem_map.mp above
  rw [List.mem_range] at below
  have nonempty : path.take (count + 1) ≠ [] := by
    intro empty
    have lengths := congrArg List.length empty
    rw [List.length_take, List.length_nil] at lengths
    omega
  simp [Disk.isDir, Disk.empty, nonempty]

/-- A directory below others. -/
def deepEntry (names : List String) : TarEntry :=
  { entryType := .directory
    path := .ok (joinPath names)
    size := .ok 0
    body := .ok []
    mode := .ok 0o755 }

theorem deepEntry_dirs (nonempty : names ≠ [])
    (proper : ∀ name ∈ names, properName name = true) :
    (madeDirs calmEntry (deepEntry names) .start).length = names.length := by
  have admitted : admitPath (deepEntry names) = .ok (joinPath names) :=
    admitPath_joinPath nonempty proper (.inr rfl) rfl
  have open_ : (upTo (dest (joinPath names))).any Disk.empty.isFile = false := by
    simp [Disk.isFile, Disk.empty]
  have room : ¬maxBundleFileCount ≤ ExtractState.start.dirCount := by decide
  rw [madeDirs, admitted]
  simp only [deepEntry, if_true]
  rw [if_neg room]
  unfold newDirs
  rw [show ExtractState.start.disk = .empty from rfl, open_, if_neg Bool.false_ne_true]
  show (missingDirs .empty (dest (joinPath names))).length = names.length
  rw [missingDirs_empty, upTo, List.length_map, List.length_range,
    dest_joinPath nonempty proper, List.length_map]

/-- The decoder of one archive. -/
def oneCodec (stream : TarStream) : Codec Unit :=
  { decode := fun _ => stream, hexSha256 := fun _ => "" }

/-- **One entry makes more directories than the cap**; and an empty bundle whose rename fails takes
the old directory with it. -/
theorem nested_over_cap :
    ¬Safe (oneCodec (.ok [.ok (deepEntry (List.replicate 257 "d"))])) calm .skill
        (.ok [.ok (deepEntry (List.replicate 257 "d"))]) (.tarball ()) none ∧
      ¬Safe (oneCodec (.ok [])) { calm with renameFails := true } .skill (.ok []) (.tarball ())
        (some .empty) := by
  constructor
  · intro safe
    generalize long : List.replicate 257 "d" = names at safe
    have fits := dirs_concat .skill calm.entries [] (.ok (deepEntry names)) (Nat.zero_le _)
    have capped := safe.dirCap
    rw [(extractTarGzTo_ok .skill calm.entries _).1] at capped
    have made := fits.mp capped .start (deepEntry names) rfl rfl
    have nonempty : names ≠ [] := by
      rw [← long, Ne, List.replicate_eq_nil_iff]
      decide
    have many := deepEntry_dirs nonempty fun name member => (by
      rw [← long] at member
      rw [List.eq_of_mem_replicate member]
      rfl)
    rw [← long, List.length_replicate, long] at many
    rw [show calm.entries [].length = calmEntry from rfl, many] at made
    exact absurd made (by decide)
  · intro safe
    have lost := safe.atomic internalWithId rfl
    cases lost

end Ziee.Hub
