/-
**Whether an embedding is that of the current text.**

An update of the text takes the embedding away, but a write-back that is under way for the old text
may come after it.

* `current_answers` — what one statement does to the rows.
* `embeddings_current` — **every state of a run whose writes are in time** has current embeddings.
-/

import Ziee.Memory.WriteBack

namespace Ziee.Memory

open PortProgram Threads
open Ziee.Agent (Uuid)

variable {Vector : Type}

/-- **The embedding is that of the current text**, by the model that the row names. -/
def Current (models : EmbeddingModels Vector) (memory : UserMemory Vector) : Prop :=
  ∀ vector, memory.embedding = some vector → ∃ modelId,
    memory.embeddingModel = some (models.name modelId) ∧
      vector = models.embed modelId memory.content

def WritesTo (memory : UserMemory Vector) : MemoryQuery Vector → Prop
  | .writeEmbedding _ _ memoryId userId _ _ => memory.id = memoryId ∧ memory.userId = userId
  | _ => False

abbrev MemoryConfig (Vector : Type) : Type :=
  Threads.Config (MemoryPort Vector) MemoryError Unit (MemoryStore Vector)

/-- **Every embedding that no write is under way for is current.** -/
def CurrentEmbeddings (models : EmbeddingModels Vector) (config : MemoryConfig Vector) : Prop :=
  ∀ memory ∈ config.shared.memories,
    (∀ program ∈ config.threads, AsksOnly (fun query => ¬WritesTo memory query) program) →
      Current models memory

/-- **An embedding is written in time**: the row still has the text, and the name is the model's. -/
def InTime (models : EmbeddingModels Vector) (store : MemoryStore Vector) :
    MemoryEvent Vector → Prop
  | ⟨.writeEmbedding _ name memoryId userId modelId text, .ok _⟩ =>
    name = models.name modelId ∧ ∀ memory ∈ store.memories,
      memory.id = memoryId → memory.userId = userId → memory.content = text
  | _ => True

/-! ### One statement -/

section Statement

variable {models : EmbeddingModels Vector} {store store' : MemoryStore Vector}
  {event : MemoryEvent Vector}

def AllCurrent (models : EmbeddingModels Vector) (store : MemoryStore Vector) : Prop :=
  ∀ memory ∈ store.memories, Current models memory

def Honest (models : EmbeddingModels Vector) : MemoryQuery Vector → Prop
  | .writeEmbedding vector _ _ _ modelId text => vector = models.embed modelId text
  | _ => True

variable {query : MemoryQuery Vector} {decode : MemoryAnswer Vector query → Except MemoryError α}

theorem AllCurrent.updateWhere {condition : UserMemory Vector → Bool}
    {change : UserMemory Vector → UserMemory Vector} (all : AllCurrent models store)
    (changed : ∀ memory ∈ store.memories, condition memory = true → Current models memory →
      Current models (change memory)) : AllCurrent models (store.updateWhere condition change) := by
  intro memory member
  obtain ⟨old, there, rfl⟩ := List.mem_map.mp member
  split
  · next holds => exact changed old there holds (all old there)
  · exact all old there

theorem AllCurrent.inserts {userId : Uuid} {content : String} {row : MemoryText}
    (all : AllCurrent models store) (inserts : store.Inserts userId content row store') :
    AllCurrent models store' := by
  obtain ⟨-, -, -, rfl⟩ := inserts
  intro memory member
  rcases List.mem_append.mp member with old | new
  · exact all memory old
  · rw [List.mem_singleton.mp new]
    intro vector wrong
    cases wrong

/-- **One statement keeps the embeddings current**, when it writes in time what it should. -/
theorem current_answers (all : AllCurrent models store) (honest : Honest models event.1)
    (inTime : InTime models store event) (answered : memoryAnswers models store event store') :
    AllCurrent models store' := by
  obtain ⟨query, answer⟩ := event
  cases query with
  | insert userId content =>
    cases answer with
    | ok row => exact all.inserts answered
    | error error => exact answered ▸ all
  | insertExtractionUnderQuota userId content =>
    cases answer with
    | ok row =>
      cases row with
      | some row => exact all.inserts answered
      | none => exact answered ▸ all
    | error error => exact answered ▸ all
  | updateOwned userId memoryId content =>
    cases answer with
    | ok row =>
      rw [answered.2]
      refine all.updateWhere fun memory _ _ current vector there => ?_
      cases content with
      | none => exact current vector there
      | some text => cases there
    | error error => exact answered ▸ all
  | softDeleteOwned userId memoryId =>
    cases answer with
    | ok deleted =>
      rw [answered.2]
      exact all.updateWhere fun memory _ _ current => current
    | error error => exact answered ▸ all
  | embed modelId text =>
    cases answer with
    | ok vector => exact answered.2 ▸ all
    | error error => exact answered ▸ all
  | modelName modelId => exact answered.2 ▸ all
  | writeEmbedding vector name memoryId userId modelId text =>
    cases answer with
    | ok _ =>
      rw [answered.2]
      refine all.updateWhere fun memory member same _ other there => ?_
      rw [Bool.and_eq_true, decide_eq_true_eq, decide_eq_true_eq] at same
      obtain ⟨named, kept⟩ := inTime
      refine ⟨modelId, congrArg some named, ?_⟩
      rw [← Option.some.inj there, kept memory member same.1 same.2]
      exact honest
    | error error => exact answered ▸ all
  | acquireRebuild => exact answered.2 ▸ all
  | releaseRebuild => exact answered ▸ all
  | embeddingDimensions =>
    cases answer with
    | ok dimensions => exact answered.2 ▸ all
    | error error => exact answered ▸ all
  | nullEmbeddings =>
    cases answer with
    | ok _ =>
      rw [show store' = _ from answered]
      exact all.updateWhere nofun
    | error error => exact answered ▸ all
  | dropIndex => exact answered ▸ all
  | alterColumn dimensions =>
    cases answer with
    | ok _ => exact answered.2 ▸ all
    | error error => exact answered ▸ all
  | createIndex => exact answered ▸ all
  | setEmbeddingDimensions dimensions =>
    cases answer with
    | ok | error => exact answered ▸ all
  | fetchBatch modelName lastId =>
    cases answer with
    | ok batch => exact answered.2 ▸ all
    | error error => exact answered ▸ all

end Statement

/-! ### The threads -/

section Writers

variable {models : EmbeddingModels Vector} {store : MemoryStore Vector} {α : Type}

abbrev KeepsCurrent (models : EmbeddingModels Vector) (store : MemoryStore Vector)
    (program : Remembering Vector α) : Prop :=
  Upholds ((memorizing models).restrict (InTime models)).answers (fun _ _ => True)
    (AllCurrent models) store program

theorem ask_current
    {next : MemoryAnswer Vector query → Remembering Vector α} (honest : Honest models query)
    (rest : ∀ answer now later, memoryAnswers models now ⟨query, answer⟩ later →
      KeepsCurrent models later (next answer)) : KeepsCurrent models store (.ask query next) :=
  fun now _ all answer later answered =>
    ⟨current_answers all honest answered.1 answered.2, trivial, rest answer now later answered.2⟩

theorem attempt_current (honest : Honest models query) :
    KeepsCurrent models store (Program.attempt query decode) := by
  refine ask_current honest fun answer _ _ _ => ?_
  cases decode answer with
  | ok | error => trivial

theorem attempt_bind_current {β : Type} {rest : α → Remembering Vector β}
    (honest : Honest models query) (tail : ∀ value later, KeepsCurrent models later (rest value)) :
    KeepsCurrent models store (Program.attempt query decode >>= rest) :=
  (attempt_current honest).bind tail

theorem embedAndWriteBack_current (modelId memoryId userId : Uuid) (text : String) :
    KeepsCurrent models store (embedAndWriteBack modelId memoryId userId text) := by
  refine ask_current trivial fun answer now later answered => ?_
  cases answer with
  | error error => trivial
  | ok vector => exact ask_current trivial fun name _ _ _ => attempt_current answered.1

theorem createMemory_current (userId : Uuid) (content : String) :
    KeepsCurrent models store (createMemory userId content) :=
  attempt_bind_current trivial fun _ _ => trivial

theorem updateMemory_current (userId memoryId : Uuid) (content : Option String) :
    KeepsCurrent models store (updateMemory userId memoryId content) :=
  attempt_bind_current trivial fun _ _ => trivial

theorem deleteMemory_current (userId memoryId : Uuid) :
    KeepsCurrent models store (deleteMemory userId memoryId) :=
  attempt_bind_current trivial fun _ _ => trivial

theorem remember_current (userId : Uuid) (content : String) (embeddingModelId : Option Uuid) :
    KeepsCurrent models store (remember userId content embeddingModelId) := by
  refine attempt_bind_current trivial fun row _ => ?_
  cases embeddingModelId with
  | none => trivial
  | some modelId => exact (embedAndWriteBack_current _ _ _ _).caught.bind fun _ _ => trivial

theorem applyAdd_current (userId : Uuid) (content : Option String) (embeddingModelId : Uuid) :
    KeepsCurrent models store (applyAdd userId content embeddingModelId) := by
  unfold applyAdd
  cases content with
  | none => trivial
  | some text =>
    simp only
    split
    · trivial
    · refine attempt_bind_current trivial fun row _ => ?_
      cases row with
      | none => trivial
      | some row => exact embedAndWriteBack_current _ _ _ _

theorem applyUpdate_current (userId : Uuid) (memoryId : Option Uuid) (content : Option String)
    (embeddingModelId : Uuid) :
    KeepsCurrent models store (applyUpdate userId memoryId content embeddingModelId) := by
  cases memoryId with
  | none => trivial
  | some memoryId =>
    refine attempt_bind_current trivial fun row _ => ?_
    cases row with
    | none => trivial
    | some row => exact embedAndWriteBack_current _ _ _ _

theorem applyOp_current (userId embeddingModelId : Uuid) (op : MemoryOp) :
    KeepsCurrent models store (applyOp userId embeddingModelId op) := by
  unfold applyOp
  split
  · exact applyAdd_current _ _ _
  · exact applyUpdate_current _ _ _ _
  · unfold applyDelete
    split
    · trivial
    · exact deleteMemory_current _ _
  · trivial

theorem applyOps_current (userId embeddingModelId : Uuid) (ops : List MemoryOp) :
    KeepsCurrent models store (applyOps userId embeddingModelId ops) := by
  induction ops generalizing store with
  | nil => trivial
  | cons op ops ih => exact (applyOp_current _ _ _).caught.bind fun _ _ => ih

theorem changeDimension_current (targetDimensions : Int) :
    KeepsCurrent models store (changeDimension targetDimensions) :=
  attempt_bind_current trivial fun _ _ => attempt_bind_current trivial fun _ _ =>
    attempt_bind_current trivial fun _ _ => attempt_bind_current trivial fun _ _ =>
      attempt_current trivial

theorem embedRow_current (length : Vector → Int) (modelId : Uuid) (modelName : String)
    (targetDimensions : Int) (row : MemoryText) :
    KeepsCurrent models store (embedRow length modelId modelName targetDimensions row) := by
  refine ask_current trivial fun answer now later answered => ?_
  cases answer with
  | error error => trivial
  | ok vector =>
    simp only
    split
    · exact attempt_current answered.1
    · trivial

theorem embedRows_current (length : Vector → Int) (modelId : Uuid) (modelName : String)
    (targetDimensions : Int) (rows : List MemoryText) :
    KeepsCurrent models store (embedRows length modelId modelName targetDimensions rows) := by
  induction rows generalizing store with
  | nil => trivial
  | cons row rows ih => exact (embedRow_current _ _ _ _ _).bind fun _ _ => ih

theorem embedBatches_current (length : Vector → Int) (modelId : Uuid) (modelName : String)
    (targetDimensions : Int) (batches : Nat) (lastId : Uuid) : KeepsCurrent models store
      (embedBatches length modelId modelName targetDimensions batches lastId) := by
  induction batches generalizing store lastId with
  | zero => trivial
  | succ batches ih =>
    refine attempt_bind_current trivial fun batch _ => ?_
    split
    · trivial
    · exact (embedRows_current _ _ _ _ _).bind fun _ _ => ih _

theorem reembedAll_current (length : Vector → Int) (modelId : Uuid) (modelName : String)
    (targetDimensions : Int) (batches : Nat) : KeepsCurrent models store
      (reembedAll length modelId modelName targetDimensions batches) := by
  refine ask_current trivial fun acquired _ _ _ => ?_
  cases acquired with
  | false => trivial
  | true =>
    have rebuilt : ∀ later, KeepsCurrent models later
        (run length modelId modelName targetDimensions batches) := by
      intro later
      refine attempt_bind_current trivial fun currentDim _ => ?_
      split
      · exact (changeDimension_current _).bind fun _ _ => embedBatches_current _ _ _ _ _ _
      · exact embedBatches_current _ _ _ _ _ _
    exact (rebuilt _).caught.bind fun _ _ => ask_current trivial fun _ _ _ _ => trivial

theorem writer_current (writer : Writer) : KeepsCurrent models store (writer.program models) := by
  cases writer with
  | create userId content => exact createMemory_current _ _
  | update userId memoryId content => exact updateMemory_current _ _ _
  | delete userId memoryId => exact deleteMemory_current _ _
  | remember userId content embeddingModelId => exact remember_current _ _ _
  | extract userId embeddingModelId ops => exact applyOps_current _ _ _
  | reembed modelId targetDimensions batches => exact reembedAll_current _ _ _ _ _

end Writers

/-! ### Runs -/

/-- **The embeddings are current** in every state of a run that writes them in time. -/
theorem embeddings_current (models : EmbeddingModels Vector) {dimensions : Int}
    {writers : List Writer} {log : List (Nat × MemoryEvent Vector)} {last : MemoryConfig Vector}
    (follows : Follows ((memorizing models).Guarded fun config label =>
      InTime models config.shared label.2) (emptyTable models dimensions writers) log last) :
    CurrentEmbeddings models last := by
  have all : AllCurrent models last.shared :=
    Machine.upheld (fun _ _ => True) (AllCurrent models) (fun _ => trivial)
      (fun _ _ _ _ _ => trivial) (fun _ => rfl) (Machine.restrict_follows follows) nofun
      fun program member => by
        obtain ⟨writer, -, rfl⟩ := List.mem_map.mp member
        exact writer_current writer
  exact fun memory member _ => all memory member

/-! ### Two runs -/

/-- Every statement that can succeed does; rows are numbered. -/
def succeeding (models : EmbeddingModels Vector) (store : MemoryStore Vector) :
    ∀ query, MemoryAnswer Vector query × MemoryStore Vector
  | .insert userId content =>
    if ∀ memory ∈ store.memories, memory.id ≠ (store.memories.length : Uuid) then
      (.ok ⟨store.memories.length, userId, content⟩, { store with
        memories := store.memories ++ [⟨store.memories.length, userId, content, none, none, false⟩]
          })
    else (.error .database, store)
  | .insertExtractionUnderQuota userId content =>
    if ∀ memory ∈ store.memories, memory.id ≠ (store.memories.length : Uuid) then
      (.ok (some ⟨store.memories.length, userId, content⟩), { store with
        memories := store.memories ++ [⟨store.memories.length, userId, content, none, none, false⟩]
          })
    else (.error .database, store)
  | .updateOwned userId memoryId content =>
    (.ok ((store.memories.find? (·.owned userId memoryId)).map fun memory =>
      (memory.update content).text),
      store.updateWhere (·.owned userId memoryId) (·.update content))
  | .embed modelId text => (.ok (models.embed modelId text), store)
  | .modelName modelId => (models.name modelId, store)
  | .writeEmbedding vector name memoryId userId _ _ =>
    if models.length vector = store.column then
      (.ok (), store.updateWhere (fun memory => memory.id = memoryId && memory.userId = userId)
        fun memory => { memory with embedding := some vector, embeddingModel := some name })
    else (.error .database, store)
  | .softDeleteOwned _ _ => (.error .database, store)
  | .acquireRebuild => (!store.rebuilding, { store with rebuilding := true })
  | .releaseRebuild => ((), { store with rebuilding := false })
  | .embeddingDimensions => (.error .database, store)
  | .nullEmbeddings => (.error .database, store)
  | .dropIndex => (.error .database, store)
  | .alterColumn _ => (.error .database, store)
  | .createIndex => (.error .database, store)
  | .setEmbeddingDimensions _ => (.error .database, store)
  | .fetchBatch _ _ => (.error .database, store)

theorem memoryAnswers_succeeding (models : EmbeddingModels Vector) (store : MemoryStore Vector)
    (query : MemoryQuery Vector) : memoryAnswers models store
      ⟨query, (succeeding models store query).1⟩ (succeeding models store query).2 := by
  cases query with
  | insert | insertExtractionUnderQuota =>
    rw [succeeding]
    split
    · exact ⟨rfl, rfl, ‹_›, rfl⟩
    · rfl
  | updateOwned | embed => exact ⟨rfl, rfl⟩
  | modelName modelId => exact ⟨.inl rfl, rfl⟩
  | writeEmbedding vector name memoryId userId modelId text =>
    rw [succeeding]
    split
    · exact ⟨‹_›, rfl⟩
    · rfl
  | acquireRebuild => exact ⟨rfl, rfl⟩
  | _ => rfl

def telling : EmbeddingModels (Uuid × String) := ⟨Prod.mk, fun _ => 1, fun _ => "small"⟩

def teaWriters : List Writer :=
  [.extract 5 7 [⟨"add", none, some "likes tea"⟩], .update 5 0 (some "likes coffee")]

instance (store : MemoryStore (Uuid × String)) (event : MemoryEvent (Uuid × String)) :
    Decidable (InTime telling store event) := by
  obtain ⟨query, answer⟩ := event
  cases query with
  | writeEmbedding vector name memoryId userId modelId text =>
    cases answer with
    | ok _ => exact inferInstanceAs (Decidable (_ ∧ _))
    | error _ => exact inferInstanceAs (Decidable True)
  | _ => exact inferInstanceAs (Decidable True)

/-- The embedding is written before the edit. -/
def timelyRun : List (Nat × MemoryEvent (Uuid × String)) × MemoryConfig (Uuid × String) :=
  (memorizing telling).execute (succeeding telling) (emptyTable telling 1 teaWriters) [0, 0, 0, 0]

theorem timely_writeBack : CurrentEmbeddings telling timelyRun.2 ∧
    timelyRun.2.shared.memories.map UserMemory.embedding = [some (7, "likes tea")] :=
  ⟨embeddings_current telling ((memorizing telling).guarded_execute
    (memoryAnswers_succeeding telling) [0, 0, 0, 0] _ (by decide +kernel)), by decide +kernel⟩

/-- The edit comes between the embedding and its write-back. -/
def lateRun : List (Nat × MemoryEvent (Uuid × String)) × MemoryConfig (Uuid × String) :=
  (memorizing telling).execute (succeeding telling) (emptyTable telling 1 teaWriters)
  [0, 0, 1, 0, 0]

def ended : Remembering Vector Unit → Bool
  | .ask _ _ => false
  | _ => true

theorem asksOnly_of_ended {allowed : MemoryQuery Vector → Prop} {program : Remembering Vector Unit}
    (finished : ended program = true) : AsksOnly allowed program := by
  cases program with
  | pure | fail => trivial
  | ask query next => cases finished

/-- All threads are over, and the embedding is that of the text before the edit. -/
theorem late_writeBack : ¬ ∀ (models : EmbeddingModels (Uuid × String)) dimensions writers log last,
    Follows (memorizing models).Step (emptyTable models dimensions writers) log last →
      CurrentEmbeddings models last := by
  intro always
  have follows := (memorizing telling).follows_execute (memoryAnswers_succeeding telling)
    [0, 0, 1, 0, 0] (emptyTable telling 1 teaWriters)
  have current := always telling 1 teaWriters _ _ follows
  have threads : ∀ program ∈ lateRun.2.threads, ended program = true := by decide +kernel
  have row : ∃ memory ∈ lateRun.2.shared.memories, memory.content = "likes coffee" ∧
      memory.embedding = some (7, "likes tea") := by decide +kernel
  obtain ⟨memory, member, content, embedding⟩ := row
  obtain ⟨modelId, -, same⟩ := current memory member
    (fun program there => asksOnly_of_ended (threads program there)) _ embedding
  rw [content] at same
  have text : "likes tea" = "likes coffee" := congrArg Prod.snd same
  exact absurd text (by decide)

end Ziee.Memory
