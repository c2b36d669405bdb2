/-
**The extractor of hub bundles** (`hub/bundle.rs`).

A bundle is a gzipped tar from anywhere. `extract_tar_gz_to` writes it below an empty directory,
entry by entry, with caps on what it takes; the public extractions do this in a staging directory
and then swap that into the place of the old one.

* `components`, `dest` — a path of the archive, and where it lands below the directory.
* `joinPath` — a path of names, `dest_joinPath` where it lands.
* `publicExtraction` — the three ways in, with staging and swap.
-/

import Ziee.Scheduler.Schedule

namespace Ziee.Hub

open Ziee.Scheduler (AppError)

abbrev Bytes : Type := List UInt8

def maxBundleDecompressedBytes : Nat := 10 * 1024 * 1024
def maxBundleFileCount : Nat := 256
def maxBundleSingleFileBytes : Nat := 2 * 1024 * 1024

inductive BundleKind
  | skill
  | workflow
  deriving DecidableEq

/-- `std::path::Component`, as Unix has it. -/
inductive Component
  | rootDir
  | curDir
  | parentDir
  | normal (name : String)
  deriving DecidableEq

/-- A path below the target directory. -/
abbrev DiskPath : Type := List Component

def segments (path : String) : List (List Char) := path.toList.splitOn '/'

def isAbsolute (path : String) : Bool := path.toList.head? == some '/'

/-- A segment, where it counts; a dot counts at the start of a path only. -/
def component (segment : List Char) : Option Component :=
  if segment = [] ∨ segment = ['.'] then none
  else if segment = ['.', '.'] then some .parentDir
  else some (.normal (String.ofList segment))

def components (path : String) : List Component :=
  (if isAbsolute path then [.rootDir]
    else if (segments path).head? = some ['.'] then [.curDir] else []) ++
    (segments path).filterMap component

/-- `target_dir.join(path)`, from the target directory on. -/
def dest (path : String) : DiskPath := (components path).filter (· ≠ .curDir)

def endsInName (path : String) : Bool := ((segments path).getLast?.bind component).isSome

/-! ### Names -/

/-- What a directory may call an entry of its own. -/
def properName (name : String) : Bool :=
  decide (name ≠ "" ∧ name ≠ "." ∧ name ≠ ".." ∧ '/' ∉ name.toList)

def joinPath (names : List String) : String :=
  String.ofList (['/'].intercalate (names.map String.toList))

theorem component_proper {name : String} (proper : properName name = true) :
    component name.toList = some (.normal name) := by
  obtain ⟨empty, dot, dots, -⟩ := of_decide_eq_true proper
  have back : String.ofList name.toList = name := String.ofList_toList
  unfold component
  rw [if_neg, if_neg, back]
  · intro same
    exact dots (by rw [← back, same])
  · rintro (same | same)
    · exact empty (by rw [← back, same])
    · exact dot (by rw [← back, same])

theorem segments_joinPath {names : List String} (nonempty : names ≠ [])
    (proper : ∀ name ∈ names, properName name = true) :
    segments (joinPath names) = names.map String.toList := by
  rw [segments, joinPath, String.toList_ofList]
  refine List.splitOn_intercalate '/' ?_ (by simpa using nonempty)
  intro segment member
  obtain ⟨name, here, rfl⟩ := List.mem_map.mp member
  exact (of_decide_eq_true (proper name here)).2.2.2

theorem components_joinPath {names : List String} (nonempty : names ≠ [])
    (proper : ∀ name ∈ names, properName name = true) :
    components (joinPath names) = names.map .normal := by
  have parts := segments_joinPath nonempty proper
  obtain ⟨first, rest, rfl⟩ := List.exists_cons_of_ne_nil nonempty
  obtain ⟨empty, dot, -, slash⟩ := of_decide_eq_true (proper first (List.mem_cons_self ..))
  have relative : isAbsolute (joinPath (first :: rest)) = false := by
    have start : (joinPath (first :: rest)).toList.head? = first.toList.head? := by
      rw [joinPath, String.toList_ofList]
      cases letters : first.toList with
      | nil =>
        refine absurd ?_ empty
        rw [← String.ofList_toList (s := first), letters]
      | cons letter letters => cases rest <;> simp [List.intercalate, letters]
    rw [isAbsolute, start]
    cases letters : first.toList with
    | nil => rfl
    | cons letter letters =>
      rw [letters, List.mem_cons, not_or] at slash
      simpa using fun same : letter = '/' => slash.1 same.symm
  have plain : (segments (joinPath (first :: rest))).head? ≠ some ['.'] := by
    rw [parts, List.map_cons, List.head?_cons]
    intro same
    refine dot ?_
    rw [← String.ofList_toList (s := first), Option.some.inj same]
  rw [components, relative, if_neg Bool.false_ne_true, if_neg plain, List.nil_append, parts,
    List.filterMap_map]
  have each : ∀ name ∈ first :: rest, (component ∘ String.toList) name = some (.normal name) :=
    fun name member => component_proper (proper name member)
  rw [List.filterMap_congr each]
  exact congrFun (List.filterMap_eq_map (f := Component.normal)) (first :: rest)

theorem dest_joinPath {names : List String} (nonempty : names ≠ [])
    (proper : ∀ name ∈ names, properName name = true) :
    dest (joinPath names) = names.map .normal := by
  rw [dest, components_joinPath nonempty proper, List.filter_eq_self]
  intro component member
  obtain ⟨name, -, rfl⟩ := List.mem_map.mp member
  rfl

/-! ### The disk below the target -/

structure FileNode where
  content : Bytes
  mode : Nat
  deriving DecidableEq

/-- The directories and the files, in the order in which they came to be. -/
structure Disk where
  dirs : List DiskPath
  files : List (DiskPath × FileNode)
  deriving DecidableEq

namespace Disk

def empty : Disk := { dirs := [], files := [] }

def isFile (disk : Disk) (path : DiskPath) : Bool := disk.files.any fun file => file.1 == path

/-- The target itself is a directory. -/
def isDir (disk : Disk) (path : DiskPath) : Bool := path == [] || disk.dirs.contains path

end Disk

/-- A path and the directories above it, the outermost first, without the target. -/
def upTo (path : DiskPath) : List DiskPath :=
  (List.range path.length).map fun count => path.take (count + 1)

/-- The directories on the way that are not there yet. -/
def missingDirs (disk : Disk) (path : DiskPath) : List DiskPath :=
  (upTo path).filter fun dir => !disk.isDir dir

/-- `fs::create_dir_all`: nothing is made where a file is in the way; otherwise the operating system
may fail after some directories. The second part is whether all went well. -/
def createDirAll (fault : Option Nat) (path : DiskPath) (disk : Disk) : Disk × Bool :=
  if (upTo path).any disk.isFile then (disk, false)
  else
    match fault with
    | none => ({ disk with dirs := disk.dirs ++ missingDirs disk path }, true)
    | some made =>
      ({ disk with dirs := disk.dirs ++ (missingDirs disk path).take made }, false)

/-! ### Entries -/

inductive EntryType
  | regular
  | directory
  | link
  | symlink
  | char
  | block
  | fifo
  | other
  deriving DecidableEq

/-- An entry as the `tar` crate reads it. Its body is what the stream carries, or an error. -/
structure TarEntry where
  entryType : EntryType
  path : Except String String
  size : Except String Nat
  body : Except String Bytes
  mode : Except String Nat

structure EntryFaults where
  /-- The directories made before the failure. -/
  mkdir : Option Nat
  openFails : Bool
  /-- The bytes written before the failure. -/
  write : Option Nat
  chmodFails : Bool
  /-- The mode of a new file. -/
  createdMode : Nat

structure ExtractState where
  disk : Disk
  totalBytes : Nat
  fileCount : Nat
  dirCount : Nat
  deriving DecidableEq

def ExtractState.start : ExtractState :=
  { disk := .empty, totalBytes := 0, fileCount := 0, dirCount := 0 }

/-! ### The extractor -/

def malformedArchive (e : String) : AppError :=
  .unprocessableEntity "BUNDLE_MALFORMED_ARCHIVE"
    ("upload is not a readable tar.gz archive: " ++ e)

/-- `AppError::internal_with_id`, which hides the error. -/
def internalWithId : AppError := .internalError "An internal error occurred"

def quoted (path : String) : String := "\"" ++ path ++ "\""

def nonRegularEntry : AppError :=
  .unprocessableEntity "BUNDLE_NON_REGULAR_ENTRY"
    ("bundle entry kind not permitted " ++
      "(symlinks / devices / FIFOs / hardlinks rejected)")

def absolutePath (path : String) : AppError :=
  .unprocessableEntity "BUNDLE_ABSOLUTE_PATH"
    ("bundle entry path " ++ quoted path ++ " is absolute")

def unsafePath (path : String) : AppError :=
  .unprocessableEntity "BUNDLE_UNSAFE_PATH"
    ("bundle entry path " ++ quoted path ++ " contains '..' / root / prefix component")

def tooManyFiles : AppError :=
  .unprocessableEntity "BUNDLE_TOO_MANY_FILES"
    ("bundle exceeds " ++ toString maxBundleFileCount ++ " files")

def tooManyDirs : AppError :=
  .unprocessableEntity "BUNDLE_TOO_MANY_FILES"
    ("bundle exceeds " ++ toString maxBundleFileCount ++ " directory entries")

def fileTooLarge (path : String) (size : Nat) : AppError :=
  .unprocessableEntity "BUNDLE_FILE_TOO_LARGE"
    ("bundle entry " ++ quoted path ++ " is " ++ toString size ++ " bytes (cap " ++
      toString maxBundleSingleFileBytes ++ ")")

def streamedTooLarge (path : String) : AppError :=
  .unprocessableEntity "BUNDLE_FILE_TOO_LARGE"
    ("bundle entry " ++ quoted path ++ " streamed > " ++ toString maxBundleSingleFileBytes ++
      " bytes")

def decompressedTooLarge : AppError :=
  .unprocessableEntity "BUNDLE_DECOMPRESSED_TOO_LARGE"
    ("bundle decompressed exceeds " ++ toString maxBundleDecompressedBytes ++ " bytes")

/-- A component that an entry may have. -/
def tolerated : Component → Bool
  | .normal _ | .curDir => true
  | .rootDir | .parentDir => false

def admitPath (entry : TarEntry) : Except AppError String :=
  if entry.entryType ≠ .regular ∧ entry.entryType ≠ .directory then .error nonRegularEntry
  else
    match entry.path with
    | .error e => .error (malformedArchive e)
    | .ok path =>
      if isAbsolute path then .error (absolutePath path)
      else if (components path).all tolerated then .ok path
      else .error (unsafePath path)

/-- The checks of a file before its parent directories are made. -/
def admitSize (path : String) (entry : TarEntry) (state : ExtractState) : Except AppError Unit :=
  match entry.size with
  | .error e => .error (malformedArchive e)
  | .ok size =>
    if maxBundleSingleFileBytes < size then .error (fileTooLarge path size)
    else if maxBundleDecompressedBytes < state.totalBytes + size then .error decompressedTooLarge
    else if maxBundleFileCount ≤ state.fileCount then .error tooManyFiles
    else .ok ()

def readBody (path : String) (entry : TarEntry) (state : ExtractState) : Except AppError Bytes :=
  match entry.body with
  | .error e => .error (malformedArchive e)
  | .ok body =>
    let buf := body.take (maxBundleSingleFileBytes + 1)
    if maxBundleSingleFileBytes < buf.length then .error (streamedTooLarge path)
    else if maxBundleDecompressedBytes < state.totalBytes + buf.length then
      .error decompressedTooLarge
    else .ok buf

def keptMode (kind : BundleKind) (mode : Nat) : Nat :=
  match kind with
  | .skill => mode &&& 0o666
  | .workflow => mode &&& 0o755

def modeOf (entry : TarEntry) : Nat :=
  match entry.mode with
  | .ok mode => mode
  | .error _ => 0o644

def Disk.add (disk : Disk) (path : DiskPath) (node : FileNode) : Disk :=
  { disk with files := disk.files ++ [(path, node)] }

/-- `OpenOptions::create_new`, the write and the permissions. -/
def writeFile (kind : BundleKind) (faults : EntryFaults) (path : String) (entry : TarEntry)
    (buf : Bytes) (disk : Disk) : Disk × Except AppError Unit :=
  if faults.openFails || !endsInName path || disk.isFile (dest path) || disk.isDir (dest path) then
    (disk, .error internalWithId)
  else
    match faults.write with
    | some written =>
      (disk.add (dest path) { content := buf.take written, mode := faults.createdMode },
        .error internalWithId)
    | none =>
      (disk.add (dest path)
        { content := buf
          mode := if faults.chmodFails then faults.createdMode
            else keptMode kind (modeOf entry) }, .ok ())

def extractDirectory (faults : EntryFaults) (path : String) (state : ExtractState) :
    ExtractState × Except AppError Unit :=
  if maxBundleFileCount ≤ state.dirCount then (state, .error tooManyDirs)
  else
    let created := createDirAll faults.mkdir (dest path) state.disk
    ({ state with disk := created.1, dirCount := state.dirCount + 1 },
      if created.2 then .ok () else .error internalWithId)

def extractFile (kind : BundleKind) (faults : EntryFaults) (path : String) (entry : TarEntry)
    (state : ExtractState) : ExtractState × Except AppError Unit :=
  match admitSize path entry state with
  | .error e => (state, .error e)
  | .ok () =>
    let created := createDirAll faults.mkdir (dest path).dropLast state.disk
    let state := { state with disk := created.1 }
    if !created.2 then (state, .error internalWithId)
    else
      match readBody path entry state with
      | .error e => (state, .error e)
      | .ok buf =>
        let state := { state with
          totalBytes := state.totalBytes + buf.length, fileCount := state.fileCount + 1 }
        let written := writeFile kind faults path entry buf state.disk
        ({ state with disk := written.1 }, written.2)

/-- One round of the loop. -/
def extractEntry (kind : BundleKind) (faults : EntryFaults) (entry : TarEntry)
    (state : ExtractState) : ExtractState × Except AppError Unit :=
  match admitPath entry with
  | .error e => (state, .error e)
  | .ok path =>
    if entry.entryType = .directory then extractDirectory faults path state
    else extractFile kind faults path entry state

/-- The entries of the archive, the first of them with its number; one may be unreadable. -/
def extractLoop (kind : BundleKind) (faults : Nat → EntryFaults) :
    Nat → List (Except String TarEntry) → ExtractState → ExtractState × Except AppError Unit
  | _, [], state => (state, .ok ())
  | _, .error e :: _, state => (state, .error (malformedArchive e))
  | index, .ok entry :: rest, state =>
    match extractEntry kind (faults index) entry state with
    | (state, .ok ()) => extractLoop kind faults (index + 1) rest state
    | (state, .error e) => (state, .error e)

structure LocalExtraction where
  fileCount : Nat
  totalBytes : Nat
  deriving DecidableEq

/-- The archive as the decoders give it; opening it may fail. -/
abbrev TarStream : Type := Except String (List (Except String TarEntry))

def extractTarGzTo (kind : BundleKind) (faults : Nat → EntryFaults) (stream : TarStream) :
    Disk × Except AppError LocalExtraction :=
  match stream with
  | .error _ => (.empty, .error internalWithId)
  | .ok entries =>
    match extractLoop kind faults 0 entries .start with
    | (state, .ok ()) =>
      (state.disk, .ok { fileCount := state.fileCount, totalBytes := state.totalBytes })
    | (state, .error e) => (state.disk, .error e)

/-! ### Staging and swap -/

/-- The decoders and the digest; `Packed` is the type of compressed archives. -/
structure Codec (Packed : Type) where
  decode : Packed → TarStream
  hexSha256 : Packed → String

/-- How the operating system fails in one extraction. -/
structure Host where
  entries : Nat → EntryFaults
  stagingFails : Bool
  parentFails : Bool
  /-- What is left of the old directory when its removal fails. -/
  removal : Option Disk
  renameFails : Bool

structure BundleExtraction where
  fileCount : Nat
  totalBytes : Nat
  sha256Hex : String
  deriving DecidableEq

/-- Where the bytes come from, with the digest that they must have. -/
inductive Source (Packed : Type)
  | tarball (bytes : Packed)
  | seed (sha256 : String) (bytes : Packed)
  | fetched (sha256 : String) (download : Except AppError Packed)

def shaMismatch (expected actual : String) : AppError :=
  .unprocessableEntity "BUNDLE_SHA256_MISMATCH"
    ("bundle sha256 mismatch (expected " ++ expected ++ ", got " ++ actual ++ ")")

/-- The bytes, once the checks before the extraction have passed. -/
def Source.checked {Packed : Type} (codec : Codec Packed) : Source Packed → Except AppError Packed
  | .tarball bytes => .ok bytes
  | .seed sha256 bytes =>
    if codec.hexSha256 bytes = sha256 then .ok bytes
    else .error (shaMismatch sha256 (codec.hexSha256 bytes))
  | .fetched sha256 download =>
    match download with
    | .error e => .error e
    | .ok bytes =>
      if codec.hexSha256 bytes = sha256 then .ok bytes
      else .error (shaMismatch sha256 (codec.hexSha256 bytes))

/-- The old directory is removed, and the staged one takes its name. -/
def swap (host : Host) (staged : Disk) (target : Option Disk) :
    Option Disk × Except AppError Unit :=
  if host.parentFails then (target, .error internalWithId)
  else
    match target, host.removal with
    | some _, some left => (some left, .error internalWithId)
    | _, _ =>
      if host.renameFails then (none, .error internalWithId) else (some staged, .ok ())

/-- **The public extractions**: `extract_tarball_bytes`, `extract_from_seed_bytes` and
`fetch_and_extract`. `target` is what is in the target directory, if it is there. -/
def publicExtraction {Packed : Type} (codec : Codec Packed) (host : Host) (kind : BundleKind)
    (source : Source Packed) (target : Option Disk) :
    Option Disk × Except AppError BundleExtraction :=
  match source.checked codec with
  | .error e => (target, .error e)
  | .ok bytes =>
    if host.stagingFails then (target, .error internalWithId)
    else
      match extractTarGzTo kind host.entries (codec.decode bytes) with
      | (_, .error e) => (target, .error e)
      | (staged, .ok extraction) =>
        match swap host staged target with
        | (target, .error e) => (target, .error e)
        | (target, .ok ()) =>
          (target, .ok
            { fileCount := extraction.fileCount
              totalBytes := extraction.totalBytes
              sha256Hex := codec.hexSha256 bytes })

/-- An operating system without failures. -/
def calmEntry : EntryFaults :=
  { mkdir := none, openFails := false, write := none, chmodFails := false, createdMode := 0o644 }

def calm : Host :=
  { entries := fun _ => calmEntry
    stagingFails := false
    parentFails := false
    removal := none
    renameFails := false }

end Ziee.Hub
