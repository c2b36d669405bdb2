/-
**Indexing the versions of a file** (`file_rag/ingest.rs`, `file_rag/repository.rs`).

A change of the head of a file spawns a task that chunks a version and puts its chunks in the place
of those that are there. The task for a new file is given the version; one for a later head looks
the head up when it runs. Nobody asks whether the version is the head when the chunks are swapped.

* `indexFileVersion` — chunks a version, swaps them in and records the state of the index.
* `createFile`, `commitHead` — the head changes.
* `ingestion` — all of them on one file, each statement as a whole.
-/

import Ziee.Library.Obligations
import Ziee.Rag.Chunking

namespace Ziee.Rag

open PortProgram Threads
open PortProgram.Program (attempt)
open Ziee.Agent (Uuid)

inductive IndexStatus
  | indexing
  | noText
  | indexed
  | failed
  deriving DecidableEq

inductive IngestError
  | database
  | notFound
  deriving DecidableEq

structure IndexState where
  status : IndexStatus
  error : Option IngestError
  chunkCount : Nat
  deriving DecidableEq

structure FileChunk where
  blobVersionId : Uuid
  version : Nat
  draft : ChunkDraft
  deriving DecidableEq

/-- What ingestion asks for. The version that a state is about is not part of the statement. -/
inductive RagQuery
  | createWithQuota (version : FileVersion)
  | appendVersion (version : FileVersion)
  | spawnIndex (version : FileVersion)
  | spawnReindex
  | getByIdAndUser
  | setIndexState (about : Option FileVersion) (state : IndexState)
  | reindexChunks (version : FileVersion) (drafts : List ChunkDraft)
  | embedFileChunks (modelId : Uuid) (dimensions : Int)

abbrev RagAnswer : RagQuery → Type
  | .createWithQuota _ => Except IngestError Unit
  | .appendVersion _ => Except IngestError Unit
  | .spawnIndex _ => Unit
  | .spawnReindex => Unit
  | .getByIdAndUser => Except IngestError (Option FileVersion)
  | .setIndexState _ _ => Except IngestError Unit
  | .reindexChunks _ _ => Except IngestError Unit
  | .embedFileChunks _ _ => Unit

abbrev RagPort : Interface := ⟨RagQuery, RagAnswer⟩

abbrev RagEvent : Type := Event RagPort

abbrev Ingesting : Type → Type := Program RagPort IngestError

abbrev Logged : Type := Except IngestError Unit

/-! ### Tasks -/

/-- `set_index_state`: a failure is logged and forgotten. -/
def setIndexState (about : Option FileVersion) (state : IndexState) : Ingesting Unit :=
  .ask (.setIndexState about state) fun _ => .pure ()

/-- The vector arm, when a model is configured. It writes columns of the chunks that nothing here
reads. -/
def embedChunks (settings : FileRagAdminSettings) : Ingesting Unit :=
  match settings.semanticEnabled, settings.embeddingModelId with
  | true, some modelId =>
    .ask (.embedFileChunks modelId settings.embeddingDimensions) fun _ => .pure ()
  | _, _ => pure ()

def indexFileVersion (library : Library) (version : FileVersion) : Ingesting Unit :=
  if library.settings.enabled then do
    setIndexState (some version) ⟨.indexing, none, 0⟩
    let drafts := draftsOf library version
    attempt (.reindexChunks version drafts) id
    if drafts = [] then setIndexState (some version) ⟨.noText, none, 0⟩
    else do
      setIndexState (some version) ⟨.indexed, none, drafts.length⟩
      embedChunks library.settings
  else pure ()

/-- `reindex_file`: the current head is looked up and indexed. -/
def reindexFile (library : Library) : Ingesting Unit := do
  let file ← attempt .getByIdAndUser id
  match file with
  | none => .fail .notFound
  | some version => indexFileVersion library version

/-- The end of a task: an error is recorded. -/
def logFailure : Logged → Ingesting Logged
  | .ok _ => pure (.ok ())
  | .error error => do
    setIndexState none ⟨.failed, some error, 0⟩
    pure (.error error)

/-- **What `spawn_index` spawns**, for a new file. -/
def indexTask (library : Library) (version : FileVersion) : Ingesting Logged :=
  if version.textPageCount ≤ 0 then do
    setIndexState (some version) ⟨.noText, none, 0⟩
    pure (.ok ())
  else (indexFileVersion library version).caught >>= logFailure

/-- **What `spawn_reindex` spawns.** -/
def reindexTask (library : Library) : Ingesting Logged :=
  (reindexFile library).caught >>= logFailure

/-! ### Head changes -/

def createFile (version : FileVersion) : Ingesting Logged :=
  .ask (.createWithQuota version) fun
    | .error error => .pure (.error error)
    | .ok _ => .ask (.spawnIndex version) fun _ => .pure (.ok ())

/-- Another version becomes the head: a new one, or an earlier one that is restored. -/
def commitHead (version : FileVersion) : Ingesting Logged :=
  .ask (.appendVersion version) fun
    | .error error => .pure (.error error)
    | .ok _ => .ask .spawnReindex fun _ => .pure (.ok ())

/-! ### The file -/

/-- A file and its index. Two facts are not stored: whether the chunks of the head have been put in
place since it became the head (a new file without a text has none), and whether the outcome of
indexing it has been recorded since. -/
structure FileIndex where
  head : Option FileVersion
  chunks : List FileChunk
  state : Option IndexState
  inPlace : Bool
  recorded : Bool

def chunkRows (version : FileVersion) (drafts : List ChunkDraft) : List FileChunk :=
  drafts.map fun draft => ⟨version.blobVersionId, version.version, draft⟩

/-- Each statement or transaction happens as a whole, or fails. -/
def ragAnswers : FileIndex → RagEvent → FileIndex → Prop
  | index, ⟨.createWithQuota version, .ok _⟩, index' =>
    index.head = none ∧ index' = ⟨some version, [], none, decide (version.textPageCount ≤ 0), false⟩
  | index, ⟨.appendVersion version, .ok _⟩, index' =>
    index.head ≠ none ∧ index' = { index with head := some version, inPlace := false, recorded :=
      false }
  | index, ⟨.getByIdAndUser, answer⟩, index' =>
    index' = index ∧ ∀ file, answer = .ok file → file = index.head
  | index, ⟨.setIndexState about state, .ok _⟩, index' =>
    index.head ≠ none ∧ index' = { index with
      state := some state
      recorded := index.recorded || decide (about = index.head ∧ state.status ≠ .indexing) }
  | index, ⟨.reindexChunks version drafts, .ok _⟩, index' =>
    index.head ≠ none ∧ index' = { index with
      chunks := chunkRows version drafts
      inPlace := index.inPlace || decide (some version = index.head) }
  | index, _, index' => index' = index

def ragForks (library : Library) : RagEvent → List (Ingesting Logged)
  | ⟨.spawnIndex version, _⟩ => [indexTask library version]
  | ⟨.spawnReindex, _⟩ => [reindexTask library]
  | _ => []

def ingestion (library : Library) : Machine RagPort IngestError Logged FileIndex :=
  ⟨ragAnswers, ragForks library⟩

def newFile (first : FileVersion) (heads : List FileVersion) :
    Threads.Config RagPort IngestError Logged FileIndex :=
  ⟨⟨none, [], none, false, false⟩, createFile first :: heads.map commitHead⟩

/-! ### What the index should be -/

def finalState (library : Library) (version : FileVersion) : IndexState :=
  if draftsOf library version = [] then ⟨.noText, none, 0⟩
  else ⟨.indexed, none, (draftsOf library version).length⟩

def IndexesHead (library : Library) (index : FileIndex) : Prop :=
  ∀ version, index.head = some version →
    index.chunks = chunkRows version (draftsOf library version) ∧
      index.state = some (finalState library version)

end Ziee.Rag
