/-
**Memories and their embeddings** (`memory/repository.rs`, `memory/engine/extractor.rs`,
`memory/embedding_worker.rs`, `memory_mcp/handlers.rs`).

A memory is stored without an embedding. Who stores or updates it may embed the text afterwards and
write the embedding back; a worker embeds what is left. The statement that writes an embedding names
the row, not the text that was embedded.

* `embedAndWriteBack` — a text is embedded, and the row gets the embedding.
* `createMemory`, `updateMemory`, `remember`, `applyOps` — the writers of texts.

The lock that puts the extractions of one user one after the other is left out: there are more
orders here.
-/

import Ziee.Agent.Types
import Ziee.Library.RelyGuarantee
import Ziee.Library.RowOrder
import Ziee.Providers.Text

namespace Ziee.Memory

open PortProgram Threads
open PortProgram.Program (attempt)
open Ziee.Agent (Uuid)
open Ziee.Providers (isBlank)

structure EmbeddingModels (Vector : Type) where
  embed : Uuid → String → Vector
  length : Vector → Int
  name : Uuid → String

structure MemoryText where
  id : Uuid
  userId : Uuid
  content : String
  deriving DecidableEq

inductive MemoryError
  | database
  | provider

/-- What the writers ask for. An embedding is written for a row; the model and the text that it was
computed from are not part of the statement. -/
inductive MemoryQuery (Vector : Type)
  | insert (userId : Uuid) (content : String)
  | insertExtractionUnderQuota (userId : Uuid) (content : String)
  | updateOwned (userId memoryId : Uuid) (content : Option String)
  | softDeleteOwned (userId memoryId : Uuid)
  | embed (modelId : Uuid) (text : String)
  | modelName (modelId : Uuid)
  | writeEmbedding (vector : Vector) (modelName : String) (id userId : Uuid) (modelId : Uuid)
      (text : String)
  | acquireRebuild
  | releaseRebuild
  | embeddingDimensions
  | nullEmbeddings
  | dropIndex
  | alterColumn (dimensions : Int)
  | createIndex
  | setEmbeddingDimensions (dimensions : Int)
  | fetchBatch (modelName : String) (lastId : Uuid)

abbrev MemoryAnswer (Vector : Type) : MemoryQuery Vector → Type
  | .insert _ _ => Except MemoryError MemoryText
  | .insertExtractionUnderQuota _ _ => Except MemoryError (Option MemoryText)
  | .updateOwned _ _ _ => Except MemoryError (Option MemoryText)
  | .softDeleteOwned _ _ => Except MemoryError Bool
  | .embed _ _ => Except MemoryError Vector
  | .modelName _ => String
  | .writeEmbedding .. => Except MemoryError Unit
  | .acquireRebuild => Bool
  | .releaseRebuild => Unit
  | .embeddingDimensions => Except MemoryError Int
  | .nullEmbeddings => Except MemoryError Unit
  | .dropIndex => Except MemoryError Unit
  | .alterColumn _ => Except MemoryError Unit
  | .createIndex => Except MemoryError Unit
  | .setEmbeddingDimensions _ => Except MemoryError Unit
  | .fetchBatch _ _ => Except MemoryError (List MemoryText)

abbrev MemoryPort (Vector : Type) : Interface := ⟨MemoryQuery Vector, MemoryAnswer Vector⟩

abbrev MemoryEvent (Vector : Type) : Type := Event (MemoryPort Vector)

abbrev Remembering (Vector : Type) : Type → Type := Program (MemoryPort Vector) MemoryError

variable {Vector : Type}

/-! ### The writers -/

def embedAndWriteBack (modelId memoryId userId : Uuid) (text : String) : Remembering Vector Unit :=
  .ask (.embed modelId text) fun
    | .error _ => .pure ()
    | .ok vector => .ask (.modelName modelId) fun name =>
      attempt (.writeEmbedding vector name memoryId userId modelId text) id

/-- `create_memory`: a memory that a user enters has no embedding until the worker comes. -/
def createMemory (userId : Uuid) (content : String) : Remembering Vector Unit := do
  let _ ← attempt (.insert userId content) id
  pure ()

def updateMemory (userId memoryId : Uuid) (content : Option String) : Remembering Vector Unit := do
  let _ ← attempt (.updateOwned userId memoryId content) id
  pure ()

def deleteMemory (userId memoryId : Uuid) : Remembering Vector Unit := do
  let _ ← attempt (.softDeleteOwned userId memoryId) id
  pure ()

/-- `remember`: the write-back is best effort, where memory is enabled with a model. -/
def remember (userId : Uuid) (content : String) (embeddingModelId : Option Uuid) :
    Remembering Vector Unit := do
  let row ← attempt (.insert userId content) id
  match embeddingModelId with
  | none => pure ()
  | some modelId => do
    let _ ← (embedAndWriteBack modelId row.id userId content).caught
    pure ()

/-- An operation that the extraction model proposes. -/
structure MemoryOp where
  op : String
  memoryId : Option Uuid
  content : Option String

def applyAdd (userId : Uuid) (content : Option String) (embeddingModelId : Uuid) :
    Remembering Vector Unit :=
  match content with
  | none => pure ()
  | some text =>
    if isBlank text then pure ()
    else do
      let row ← attempt (.insertExtractionUnderQuota userId text) id
      match row with
      | none => pure ()
      | some row => embedAndWriteBack embeddingModelId row.id userId text

/-- `apply_update`: what was stored is embedded. -/
def applyUpdate (userId : Uuid) (memoryId : Option Uuid) (content : Option String)
    (embeddingModelId : Uuid) : Remembering Vector Unit :=
  match memoryId with
  | none => pure ()
  | some memoryId => do
    let row ← attempt (.updateOwned userId memoryId content) id
    match row with
    | none => pure ()
    | some row => embedAndWriteBack embeddingModelId row.id userId row.content

def applyDelete (userId : Uuid) (memoryId : Option Uuid) : Remembering Vector Unit :=
  match memoryId with
  | none => pure ()
  | some memoryId => deleteMemory userId memoryId

/-- `to_ascii_uppercase`. -/
def upper (text : String) : String := String.ofList (text.toList.map Char.toUpper)

def applyOp (userId embeddingModelId : Uuid) (op : MemoryOp) : Remembering Vector Unit :=
  match upper op.op with
  | "ADD" => applyAdd userId op.content embeddingModelId
  | "UPDATE" => applyUpdate userId op.memoryId op.content embeddingModelId
  | "DELETE" => applyDelete userId op.memoryId
  | _ => pure ()

/-- The loop of an extraction: an operation that fails does not stop it. -/
def applyOps (userId embeddingModelId : Uuid) : List MemoryOp → Remembering Vector Unit
  | [] => pure ()
  | op :: ops => do
    let _ ← (applyOp userId embeddingModelId op).caught
    applyOps userId embeddingModelId ops

/-! ### The worker -/

def changeDimension (targetDimensions : Int) : Remembering Vector Unit := do
  attempt .nullEmbeddings id
  attempt .dropIndex id
  attempt (.alterColumn targetDimensions) id
  attempt .createIndex id
  attempt (.setEmbeddingDimensions targetDimensions) id

def embedRow (length : Vector → Int) (modelId : Uuid) (modelName : String) (targetDimensions : Int)
    (row : MemoryText) : Remembering Vector Unit :=
  .ask (.embed modelId row.content) fun
    | .error _ => .pure ()
    | .ok vector =>
      if length vector = targetDimensions then
        attempt (.writeEmbedding vector modelName row.id row.userId modelId row.content) id
      else pure ()

def embedRows (length : Vector → Int) (modelId : Uuid) (modelName : String)
    (targetDimensions : Int) : List MemoryText → Remembering Vector Unit
  | [] => pure ()
  | row :: rows => do
    embedRow length modelId modelName targetDimensions row
    embedRows length modelId modelName targetDimensions rows

/-- The batches, by ascending id; a run has fewer than some number of them. -/
def embedBatches (length : Vector → Int) (modelId : Uuid) (modelName : String)
    (targetDimensions : Int) : Nat → Uuid → Remembering Vector Unit
  | 0, _ => pure ()
  | batches + 1, lastId => do
    let batch ← attempt (.fetchBatch modelName lastId) id
    match batch.getLast? with
    | none => pure ()
    | some last => do
      embedRows length modelId modelName targetDimensions batch
      embedBatches length modelId modelName targetDimensions batches last.id

def run (length : Vector → Int) (modelId : Uuid) (modelName : String) (targetDimensions : Int)
    (batches : Nat) : Remembering Vector Unit := do
  let currentDim ← attempt .embeddingDimensions id
  if currentDim ≠ targetDimensions then changeDimension targetDimensions else pure ()
  embedBatches length modelId modelName targetDimensions batches 0

/-- **`reembed_all`**: one worker at a time. -/
def reembedAll (length : Vector → Int) (modelId : Uuid) (modelName : String)
    (targetDimensions : Int) (batches : Nat) : Remembering Vector Unit :=
  .ask .acquireRebuild fun
    | false => .pure ()
    | true => do
      let _ ← (run length modelId modelName targetDimensions batches).caught
      .ask .releaseRebuild fun _ => .pure ()

/-! ### The table -/

structure UserMemory (Vector : Type) where
  id : Uuid
  userId : Uuid
  content : String
  embedding : Option Vector
  embeddingModel : Option String
  deleted : Bool

namespace UserMemory

/-- `WHERE id = … AND user_id = … AND deleted_at IS NULL`. -/
def owned (memory : UserMemory Vector) (userId memoryId : Uuid) : Bool :=
  memory.id = memoryId && memory.userId = userId && !memory.deleted

/-- A content that is set takes the embedding away. -/
def update (memory : UserMemory Vector) (content : Option String) : UserMemory Vector :=
  { memory with
    content := content.getD memory.content
    embedding := if content.isSome then none else memory.embedding }

def text (memory : UserMemory Vector) : MemoryText := ⟨memory.id, memory.userId, memory.content⟩

def stale (memory : UserMemory Vector) (modelName : String) (lastId : Uuid) : Bool :=
  !memory.deleted && (memory.embedding.isNone || memory.embeddingModel ≠ some modelName) &&
    decide (lastId < memory.id)

end UserMemory

/-- The table; the length of the column and that of the settings; whether a worker runs. -/
structure MemoryStore (Vector : Type) where
  memories : List (UserMemory Vector)
  column : Int
  embeddingDimensions : Int
  rebuilding : Bool

namespace MemoryStore

/-- A statement on the rows that meet a condition. -/
def updateWhere (store : MemoryStore Vector) (condition : UserMemory Vector → Bool)
    (change : UserMemory Vector → UserMemory Vector) : MemoryStore Vector :=
  { store with
    memories := store.memories.map fun memory =>
      if condition memory then change memory else memory }

def Inserts (store : MemoryStore Vector) (userId : Uuid) (content : String) (row : MemoryText)
    (store' : MemoryStore Vector) : Prop :=
  row.userId = userId ∧ row.content = content ∧ (∀ memory ∈ store.memories, memory.id ≠ row.id) ∧
    store' = { store with
      memories := store.memories ++ [⟨row.id, userId, content, none, none, false⟩] }

end MemoryStore

/-- **Each statement happens as a whole, or fails.** -/
def memoryAnswers (models : EmbeddingModels Vector) :
    MemoryStore Vector → MemoryEvent Vector → MemoryStore Vector → Prop
  | store, ⟨.insert userId content, .ok row⟩, store' => store.Inserts userId content row store'
  | store, ⟨.insertExtractionUnderQuota userId content, .ok (some row)⟩, store' =>
    store.Inserts userId content row store'
  | store, ⟨.updateOwned userId memoryId content, .ok row⟩, store' =>
    row = (store.memories.find? (·.owned userId memoryId)).map (fun memory =>
      (memory.update content).text) ∧
      store' = store.updateWhere (·.owned userId memoryId) (·.update content)
  | store, ⟨.softDeleteOwned userId memoryId, .ok deleted⟩, store' =>
    deleted = store.memories.any (·.owned userId memoryId) ∧
      store' = store.updateWhere (·.owned userId memoryId) fun memory =>
        { memory with deleted := true }
  | store, ⟨.embed modelId text, .ok vector⟩, store' =>
    vector = models.embed modelId text ∧ store' = store
  | store, ⟨.modelName modelId, name⟩, store' =>
    (name = models.name modelId ∨ name = modelId.display) ∧ store' = store
  | store, ⟨.writeEmbedding vector name memoryId userId _ _, .ok _⟩, store' =>
    models.length vector = store.column ∧
      store' = store.updateWhere (fun memory => memory.id = memoryId && memory.userId = userId)
        fun memory => { memory with embedding := some vector, embeddingModel := some name }
  | store, ⟨.acquireRebuild, acquired⟩, store' =>
    acquired = !store.rebuilding ∧ store' = { store with rebuilding := true }
  | store, ⟨.releaseRebuild, _⟩, store' => store' = { store with rebuilding := false }
  | store, ⟨.embeddingDimensions, .ok dimensions⟩, store' =>
    dimensions = store.embeddingDimensions ∧ store' = store
  | store, ⟨.nullEmbeddings, .ok _⟩, store' =>
    store' = store.updateWhere (fun _ => true) fun memory =>
      { memory with embedding := none, embeddingModel := none }
  | store, ⟨.alterColumn dimensions, .ok _⟩, store' =>
    (∀ memory ∈ store.memories, ∀ vector, memory.embedding = some vector →
      models.length vector = dimensions) ∧ store' = { store with column := dimensions }
  | store, ⟨.setEmbeddingDimensions dimensions, .ok _⟩, store' =>
    store' = { store with embeddingDimensions := dimensions }
  | store, ⟨.fetchBatch modelName lastId, .ok batch⟩, store' =>
    batch = ((RowOrder.orderBy (fun memory => memory.id.toNat)
      (store.memories.filter (·.stale modelName lastId))).take 100).map UserMemory.text ∧
      store' = store
  | store, _, store' => store' = store

/-- All of them on one table. -/
def memorizing (models : EmbeddingModels Vector) :
    Machine (MemoryPort Vector) MemoryError Unit (MemoryStore Vector) :=
  ⟨memoryAnswers models, fun _ => []⟩

inductive Writer
  | create (userId : Uuid) (content : String)
  | update (userId memoryId : Uuid) (content : Option String)
  | delete (userId memoryId : Uuid)
  | remember (userId : Uuid) (content : String) (embeddingModelId : Option Uuid)
  | extract (userId embeddingModelId : Uuid) (ops : List MemoryOp)
  | reembed (modelId : Uuid) (targetDimensions : Int) (batches : Nat)

/-- What each of them runs; the worker is given the name of its model. -/
def Writer.program (models : EmbeddingModels Vector) : Writer → Remembering Vector Unit
  | .create userId content => createMemory userId content
  | .update userId memoryId content => updateMemory userId memoryId content
  | .delete userId memoryId => deleteMemory userId memoryId
  | .remember userId content embeddingModelId => Memory.remember userId content embeddingModelId
  | .extract userId embeddingModelId ops => applyOps userId embeddingModelId ops
  | .reembed modelId targetDimensions batches =>
    reembedAll models.length modelId (models.name modelId) targetDimensions batches

def emptyTable (models : EmbeddingModels Vector) (dimensions : Int) (writers : List Writer) :
    Threads.Config (MemoryPort Vector) MemoryError Unit (MemoryStore Vector) :=
  ⟨⟨[], dimensions, dimensions, false⟩, writers.map (Writer.program models)⟩

end Ziee.Memory
