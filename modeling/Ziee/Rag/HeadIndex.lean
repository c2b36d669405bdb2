/-
**When the index converges to the head.**

A task that indexes a version that is no longer the head may write after the head's own task, and
nothing mends that. As long as it writes before, the head's task has the last word.

* `headOwed` — until that has happened some thread will do it.
* `index_converges` — **in such a run the index is that of the head** once all tasks have succeeded.
-/

import Ziee.Rag.Ingest

namespace Ziee.Rag

open PortProgram Threads
open Ziee.Agent (Uuid)

/-- **A task writes for another version than the head only while no task has done so for the head**
since it became the head; and the state of the index is recorded. -/
def InOrder (index : FileIndex) : RagEvent → Prop
  | ⟨.reindexChunks version _, .ok _⟩ => some version = index.head ∨ index.inPlace = false
  | ⟨.setIndexState about _, answer⟩ =>
    answer = .ok () ∧ (about = none ∨ about = index.head ∨ index.recorded = false)
  | _ => True

abbrev InOrderSteps (library : Library) :=
  (ingestion library).Guarded fun config label => InOrder config.shared label.2

def MovesHead : RagEvent → Prop
  | ⟨.createWithQuota _, .ok _⟩ | ⟨.appendVersion _, .ok _⟩ => True
  | _ => False

/-! ### What is owed for a head -/

section Owed

variable {library : Library} {head version : FileVersion}

/-- What a thread may be answered while this version is the head. -/
def Admits (head : FileVersion) : RagEvent → Prop
  | ⟨.getByIdAndUser, answer⟩ => ∀ file, answer = .ok file → file = some head
  | ⟨.setIndexState _ _, answer⟩ => answer = .ok ()
  | _ => True

/-- The chunks of the head are put in place, or a task is started that will do so. -/
def Swapped (library : Library) (head : FileVersion) : RagEvent → Prop
  | ⟨.reindexChunks version drafts, .ok _⟩ => version = head ∧ drafts = draftsOf library head
  | ⟨.spawnIndex version, _⟩ => version = head ∧ 0 < head.textPageCount
  | ⟨.spawnReindex, _⟩ => True
  | _ => False

/-- The outcome of the head is recorded, or a task is started that will do so. -/
def Recorded (library : Library) (head : FileVersion) : RagEvent → Prop
  | ⟨.setIndexState about state, .ok _⟩ => about = some head ∧ state = finalState library head
  | ⟨.spawnIndex version, _⟩ => version = head
  | ⟨.spawnReindex, _⟩ => True
  | _ => False

/-- **The thread will put the chunks of the head in place**, if it succeeds. -/
abbrev SwapsHead (library : Library) (head : FileVersion) : Ingesting Logged → Prop :=
  Due (Admits head) (Swapped library head) (· = .ok ())

/-- **The thread will record the outcome of the head**, if it succeeds. -/
abbrev RecordsHead (library : Library) (head : FileVersion) : Ingesting Logged → Prop :=
  Due (Admits head) (Recorded library head) (· = .ok ())

/-- **What a thread promises with an event**: whoever changes the head has it indexed, whoever
records that it is indexing records the outcome. -/
def Promises (library : Library) : RagEvent → Ingesting Logged → Prop
  | ⟨.createWithQuota version, .ok _⟩, rest =>
    (0 < version.textPageCount → SwapsHead library version rest) ∧ RecordsHead library version rest
  | ⟨.appendVersion version, .ok _⟩, rest =>
    SwapsHead library version rest ∧ RecordsHead library version rest
  | ⟨.setIndexState (some version) state, _⟩, rest =>
    state = finalState library version ∨ RecordsHead library version rest
  | ⟨.setIndexState none _, _⟩, rest => ∀ head, RecordsHead library head rest
  | ⟨.reindexChunks version drafts, _⟩, _ => drafts = draftsOf library version
  | _, _ => True

abbrev Sound (library : Library) : Ingesting Logged → Prop := Each (Promises library)

/-! ### The tasks -/

def afterSwap (library : Library) (version : FileVersion) : Except IngestError Unit →
    Ingesting Logged
  | .error error => logFailure (.error error)
  | .ok _ => .ask (.setIndexState (some version) (finalState library version)) fun _ =>
    if draftsOf library version = [] then .pure (.ok ())
    else (embedChunks library.settings).caught >>= logFailure

theorem indexing_eq (enabled : library.settings.enabled = true) :
    (indexFileVersion library version).caught >>= logFailure =
      .ask (.setIndexState (some version) ⟨.indexing, none, 0⟩) fun _ =>
        .ask (.reindexChunks version (draftsOf library version)) (afterSwap library version) := by
  unfold indexFileVersion
  rw [if_pos enabled]
  refine congrArg (Program.ask _) (funext fun _ =>
    congrArg (Program.ask _) (funext fun swapped => ?_))
  cases swapped with
  | error error => rfl
  | ok _ =>
    by_cases empty : draftsOf library version = []
    · have final : finalState library version = ⟨.noText, none, 0⟩ := if_pos empty
      rw [afterSwap, final]
      simp only [if_pos empty]
      rfl
    · have final : finalState library version =
          ⟨.indexed, none, (draftsOf library version).length⟩ := if_neg empty
      rw [afterSwap, final]
      simp only [if_neg empty]
      rfl

theorem failure_due {admits discharges : RagEvent → Prop} (error : IngestError) :
    Due admits discharges (· = .ok ()) (logFailure (.error error)) :=
  fun _ _ => .inr (by intro wrong; cases wrong)

theorem failure_sound (error : IngestError) : Sound library (logFailure (.error error)) :=
  fun _ => ⟨fun _ wrong => (by cases wrong), trivial⟩

theorem embedding_sound : Sound library ((embedChunks library.settings).caught >>= logFailure) := by
  unfold embedChunks
  split
  · exact fun _ => ⟨trivial, trivial⟩
  · trivial

theorem afterSwap_sound (swapped : Except IngestError Unit) :
    Sound library (afterSwap library version swapped) := by
  cases swapped with
  | error error => exact failure_sound error
  | ok _ =>
    refine fun _ => ⟨.inl rfl, ?_⟩
    split
    · trivial
    · exact embedding_sound

theorem afterSwap_records (swapped : Except IngestError Unit) :
    RecordsHead library version (afterSwap library version swapped) := by
  cases swapped with
  | error error => exact failure_due error
  | ok _ =>
    intro answer recorded
    obtain rfl : answer = .ok () := recorded
    exact .inl ⟨rfl, rfl⟩

theorem indexing_sound (enabled : library.settings.enabled = true) :
    Sound library ((indexFileVersion library version).caught >>= logFailure) := by
  rw [indexing_eq enabled]
  refine fun _ => ⟨.inr fun swapped _ => .inr (afterSwap_records swapped), fun swapped => ⟨rfl, ?_⟩⟩
  exact afterSwap_sound swapped

theorem indexing_swaps (enabled : library.settings.enabled = true) :
    SwapsHead library version ((indexFileVersion library version).caught >>= logFailure) := by
  rw [indexing_eq enabled]
  refine fun _ _ => .inr fun swapped _ => ?_
  cases swapped with
  | error error => exact .inr (failure_due error)
  | ok _ => exact .inl ⟨rfl, rfl⟩

theorem indexing_records (enabled : library.settings.enabled = true) :
    RecordsHead library version ((indexFileVersion library version).caught >>= logFailure) := by
  rw [indexing_eq enabled]
  exact fun _ _ => .inr fun swapped _ => .inr (afterSwap_records swapped)

theorem draftsOf_noPages (noPages : version.textPageCount ≤ 0) : draftsOf library version = [] := by
  unfold draftsOf
  rw [Int.toNat_of_nonpos noPages]
  rfl

theorem indexTask_sound (enabled : library.settings.enabled = true) :
    Sound library (indexTask library version) := by
  unfold indexTask
  split
  · next noPages =>
    have final : finalState library version = ⟨.noText, none, 0⟩ :=
      if_pos (draftsOf_noPages noPages)
    exact fun _ => ⟨.inl final.symm, trivial⟩
  · exact indexing_sound enabled

theorem indexTask_swaps (enabled : library.settings.enabled = true)
    (pages : 0 < version.textPageCount) : SwapsHead library version
    (indexTask library version) := by
  unfold indexTask
  rw [if_neg (by omega)]
  exact indexing_swaps enabled

theorem indexTask_records (enabled : library.settings.enabled = true) :
    RecordsHead library version (indexTask library version) := by
  unfold indexTask
  split
  · next noPages =>
    have final : finalState library version = ⟨.noText, none, 0⟩ :=
      if_pos (draftsOf_noPages noPages)
    intro answer recorded
    obtain rfl : answer = .ok () := recorded
    exact .inl ⟨rfl, final.symm⟩
  · exact indexing_records enabled

theorem reindexTask_sound (enabled : library.settings.enabled = true) :
    Sound library (reindexTask library) := by
  refine fun answer => ⟨trivial, ?_⟩
  cases answer with
  | error error => exact failure_sound error
  | ok file =>
    cases file with
    | none => exact failure_sound .notFound
    | some version => exact indexing_sound enabled

theorem reindexTask_due {discharges : RagEvent → Prop}
    (indexing : Due (Admits head) discharges (· = .ok ())
      ((indexFileVersion library head).caught >>= logFailure)) :
    Due (Admits head) discharges (· = .ok ()) (reindexTask library) := by
  refine fun answer found => .inr ?_
  cases answer with
  | error error => exact failure_due error
  | ok file =>
    obtain rfl := found file rfl
    exact indexing

theorem createFile_sound : Sound library (createFile version) := by
  intro answer
  cases answer with
  | error error => exact ⟨trivial, trivial⟩
  | ok _ =>
    exact ⟨⟨fun pages _ _ => .inl ⟨rfl, pages⟩, fun _ _ => .inl rfl⟩, fun _ => ⟨trivial, trivial⟩⟩

theorem commitHead_sound : Sound library (commitHead version) := by
  intro answer
  cases answer with
  | error error => exact ⟨trivial, trivial⟩
  | ok _ => exact ⟨⟨fun _ _ => .inl trivial, fun _ _ => .inl trivial⟩, fun _ => ⟨trivial, trivial⟩⟩

theorem forks_sound (enabled : library.settings.enabled = true) (event : RagEvent)
    (program : Ingesting Logged) (member : program ∈ ragForks library event) :
    Sound library program := by
  obtain ⟨query, answer⟩ := event
  cases query with
  | spawnIndex version =>
    rw [List.mem_singleton.mp member]
    exact indexTask_sound enabled
  | spawnReindex =>
    rw [List.mem_singleton.mp member]
    exact reindexTask_sound enabled
  | _ => cases member

/-! ### One step under one head -/

variable {index index' : FileIndex} {event : RagEvent}

structure UnderHead (head : FileVersion) (index : FileIndex) (event : RagEvent) : Prop where
  stays : index.head = some head
  moves : ¬MovesHead event
  inOrder : InOrder index event

/-- **What such a step does**: it records a state, swaps chunks, or leaves the index as it is. -/
theorem answers_cases (answered : ragAnswers index event index')
    (under : UnderHead head index event) :
    (∃ about state, event = ⟨.setIndexState about state, .ok ()⟩ ∧
        (about = none ∨ about = some head ∨ index.recorded = false) ∧ index' = { index with
          state := some state
          recorded := index.recorded || decide (about = some head ∧ state.status ≠ .indexing) }) ∨
      (∃ version drafts, event = ⟨.reindexChunks version drafts, .ok ()⟩ ∧
        (version = head ∨ index.inPlace = false) ∧ index' = { index with
          chunks := chunkRows version drafts
          inPlace := index.inPlace || decide (version = head) }) ∨
      index' = index ∧ Admits head event := by
  obtain ⟨stays, moves, inOrder⟩ := under
  obtain ⟨query, answer⟩ := event
  cases query with
  | createWithQuota version =>
    cases answer with
    | ok _ => exact absurd trivial moves
    | error _ => exact .inr (.inr ⟨answered, trivial⟩)
  | appendVersion version =>
    cases answer with
    | ok _ => exact absurd trivial moves
    | error _ => exact .inr (.inr ⟨answered, trivial⟩)
  | spawnIndex | spawnReindex | embedFileChunks => exact .inr (.inr ⟨answered, trivial⟩)
  | getByIdAndUser =>
    refine .inr (.inr ⟨answered.1, fun file same => ?_⟩)
    rw [answered.2 file same, stays]
  | setIndexState about state =>
    obtain ⟨rfl, order⟩ := inOrder
    obtain ⟨-, same⟩ := answered
    rw [stays] at order same
    exact .inl ⟨about, state, rfl, order, by rw [same, stays]⟩
  | reindexChunks version drafts =>
    cases answer with
    | ok _ =>
      obtain ⟨-, same⟩ := answered
      have order : some version = index.head ∨ index.inPlace = false := inOrder
      rw [stays, Option.some.injEq] at order
      simp only [stays, Option.some.injEq] at same
      exact .inr (.inl ⟨version, drafts, rfl, order, by rw [same, stays]⟩)
    | error _ => exact .inr (.inr ⟨answered, trivial⟩)

theorem under_admits (answered : ragAnswers index event index')
    (under : UnderHead head index event) : Admits head event := by
  rcases answers_cases answered under with ⟨_, _, rfl, -, -⟩ | ⟨_, _, rfl, -, -⟩ | ⟨-, admits⟩
  · exact rfl
  · trivial
  · exact admits

/-! ### What is missing, and who owes it -/

def ChunksMissing (library : Library) (head : FileVersion) (index : FileIndex) : Prop :=
  ¬(index.inPlace = true ∧ index.chunks = chunkRows head (draftsOf library head))

def OutcomeMissing (library : Library) (head : FileVersion) (index : FileIndex) : Prop :=
  ¬(index.recorded = true ∧ index.state = some (finalState library head))

theorem finalState_status : (finalState library version).status ≠ .indexing := by
  unfold finalState
  split <;> exact nofun

theorem carried {discharges : RagEvent → Prop} {missing : Prop} {query : RagQuery}
    {next : RagAnswer query → Ingesting Logged} {answer : RagAnswer query}
    (owes : Due (Admits head) discharges (· = .ok ()) (.ask query next))
    (admits : Admits head ⟨query, answer⟩)
    (done : discharges ⟨query, answer⟩ → ¬missing ∨ ∃ program ∈ ragForks library ⟨query, answer⟩,
      Due (Admits head) discharges (· = .ok ()) program) (still : missing) :
    Due (Admits head) discharges (· = .ok ()) (next answer) ∨
      ∃ program ∈ ragForks library ⟨query, answer⟩,
        Due (Admits head) discharges (· = .ok ()) program := by
  rcases owes answer admits with discharged | later
  · rcases done discharged with mended | started
    · exact absurd still mended
    · exact .inr started
  · exact .inl later

/-- **The chunks of the head are owed** until they are in place. -/
theorem chunks_mended (enabled : library.settings.enabled = true) :
    Mends (ingestion library) (UnderHead head) (ChunksMissing library head) (Sound library)
      (SwapsHead library head) where
  incurs sound under answered before after := by
    refine absurd ?_ after
    have there := not_not.mp before
    rcases answers_cases answered under with ⟨about, state, -, -, rfl⟩ |
      ⟨version, drafts, same, order, rfl⟩ | ⟨rfl, -⟩
    · exact there
    · rcases order with rfl | early
      · cases same
        exact ⟨by simp, by rw [(sound (.ok ())).1]⟩
      · rw [there.1] at early
        cases early
    · exact there
  carries {index index' query next answer} owes under answered still := by
    refine carried owes (under_admits answered under) (fun done => ?_) still
    cases query with
    | reindexChunks version drafts =>
      cases answer with
      | error error => cases done
      | ok _ =>
        obtain ⟨rfl, rfl⟩ := done
        obtain ⟨-, same⟩ := answered
        refine .inl (not_not.mpr ?_)
        rw [same, under.stays]
        exact ⟨by simp, rfl⟩
    | spawnIndex version =>
      obtain ⟨rfl, pages⟩ := done
      exact .inr ⟨_, List.mem_singleton.mpr rfl, indexTask_swaps enabled pages⟩
    | spawnReindex =>
      exact .inr ⟨_, List.mem_singleton.mpr rfl, reindexTask_due (indexing_swaps enabled)⟩
    | _ => cases done
  residual sound answer := (sound answer).2
  started event program member := forks_sound enabled event program member

/-- **The outcome of the head is owed** until it is recorded. -/
theorem outcome_mended (enabled : library.settings.enabled = true) :
    Mends (ingestion library) (UnderHead head) (OutcomeMissing library head) (Sound library)
      (RecordsHead library head) where
  incurs sound under answered before after := by
    have there := not_not.mp before
    rcases answers_cases answered under with ⟨about, state, same, order, rfl⟩ |
      ⟨version, drafts, -, -, rfl⟩ | ⟨rfl, -⟩
    · cases same
      rcases order with rfl | rfl | early
      · exact (sound (.ok ())).1 head
      · rcases (sound (.ok ())).1 with final | records
        · exact absurd ⟨by simp [there.1], by rw [final]⟩ after
        · exact records
      · rw [there.1] at early
        cases early
    · exact absurd there after
    · exact absurd there after
  carries {index index' query next answer} owes under answered still := by
    refine carried owes (under_admits answered under) (fun done => ?_) still
    cases query with
    | setIndexState about state =>
      cases answer with
      | error error => cases done
      | ok _ =>
        obtain ⟨rfl, rfl⟩ := done
        obtain ⟨-, same⟩ := answered
        refine .inl (not_not.mpr ?_)
        rw [same, under.stays]
        exact ⟨by simp [finalState_status], rfl⟩
    | spawnIndex version =>
      obtain rfl : version = head := done
      exact .inr ⟨_, List.mem_singleton.mpr rfl, indexTask_records enabled⟩
    | spawnReindex =>
      exact .inr ⟨_, List.mem_singleton.mpr rfl, reindexTask_due (indexing_records enabled)⟩
    | _ => cases done
  residual sound answer := (sound answer).2
  started event program member := forks_sound enabled event program member

/-! ### Runs -/

abbrev RagConfig : Type := Threads.Config RagPort IngestError Logged FileIndex

variable {config config' last : RagConfig} {label : Nat × RagEvent}

/-- **What the head lacks, some thread owes**, and every thread keeps its promises. -/
structure HeadOwed (library : Library) (config : RagConfig) : Prop where
  sound : ∀ program ∈ config.threads, Sound library program
  owed : ∀ head, config.shared.head = some head → (ChunksMissing library head config.shared →
      ∃ program ∈ config.threads, SwapsHead library head program) ∧
    (OutcomeMissing library head config.shared →
      ∃ program ∈ config.threads, RecordsHead library head program)

theorem sound_step (enabled : library.settings.enabled = true)
    (sound : ∀ program ∈ config.threads, Sound library program)
    (step : (ingestion library).Step config label config') :
    ∀ program ∈ config'.threads, Sound library program :=
  Machine.threads_preserve (fun sound answer => (sound answer).2) (forks_sound enabled)
    (Follows.singleton_iff.mpr step) sound

theorem moved_owed (holds : HeadOwed library config) (moves : MovesHead label.2)
    (step : (ingestion library).Step config label config') {head : FileVersion}
    (there : config'.shared.head = some head) : (ChunksMissing library head config'.shared →
      ∃ program ∈ config'.threads, SwapsHead library head program) ∧
    (OutcomeMissing library head config'.shared →
      ∃ program ∈ config'.threads, RecordsHead library head program) := by
  cases step with
  | @act index index' threads thread query next answer found answered =>
    have promise := holds.sound _ (List.mem_of_getElem? found) answer
    have stays : next answer ∈ threads.set thread (next answer) ++ ragForks library
      ⟨query, answer⟩ :=
      List.mem_append_left _ (List.mem_set (List.getElem?_eq_some_iff.mp found).1 _)
    cases query with
    | createWithQuota version =>
      cases answer with
      | error error => cases moves
      | ok _ =>
        obtain ⟨-, rfl⟩ := answered
        obtain rfl := Option.some.inj there
        refine ⟨fun missing => ⟨_, stays, promise.1.1 ?_⟩, fun _ => ⟨_, stays, promise.1.2⟩⟩
        -- a file without pages has all its chunks from the start
        by_contra noPages
        refine missing ⟨by simpa using noPages, ?_⟩
        rw [draftsOf_noPages (Int.not_lt.mp noPages)]
        rfl
    | appendVersion version =>
      cases answer with
      | error error => cases moves
      | ok _ =>
        obtain ⟨-, rfl⟩ := answered
        obtain rfl := Option.some.inj there
        exact ⟨fun _ => ⟨_, stays, promise.1.1⟩, fun _ => ⟨_, stays, promise.1.2⟩⟩
    | _ => cases moves

theorem head_stays (answered : ragAnswers index event index') (moves : ¬MovesHead event) :
    index'.head = index.head := by
  obtain ⟨query, answer⟩ := event
  cases query with
  | createWithQuota version =>
    cases answer with
    | ok _ => exact absurd trivial moves
    | error _ => exact congrArg FileIndex.head answered
  | appendVersion version =>
    cases answer with
    | ok _ => exact absurd trivial moves
    | error _ => exact congrArg FileIndex.head answered
  | getByIdAndUser => exact congrArg FileIndex.head answered.1
  | setIndexState about state =>
    cases answer with
    | ok _ => rw [answered.2]
    | error _ => exact congrArg FileIndex.head answered
  | reindexChunks version drafts =>
    cases answer with
    | ok _ => rw [answered.2]
    | error _ => exact congrArg FileIndex.head answered
  | _ => exact congrArg FileIndex.head answered

/-- **One step in order** keeps the books. -/
theorem headOwed_step (enabled : library.settings.enabled = true) (holds : HeadOwed library config)
    (inOrder : InOrder config.shared label.2)
    (step : (ingestion library).Step config label config') : HeadOwed library config' := by
  refine ⟨sound_step enabled holds.sound step, fun head there => ?_⟩
  by_cases moves : MovesHead label.2
  · exact moved_owed holds moves step there
  · have stays : config.shared.head = some head := by
      cases step with
      | act _ answered =>
        rw [← there]
        exact (head_stays answered moves).symm
    have under : UnderHead head config.shared label.2 := ⟨stays, moves, inOrder⟩
    obtain ⟨chunks, outcome⟩ := holds.owed head stays
    exact ⟨((chunks_mended enabled).step ⟨holds.sound, chunks⟩ under step).2,
      ((outcome_mended enabled).step ⟨holds.sound, outcome⟩ under step).2⟩

theorem headOwed (enabled : library.settings.enabled = true) {first : FileVersion}
    {heads : List FileVersion} {log : List (Nat × RagEvent)}
    (follows : Follows (InOrderSteps library) (newFile first heads) log last) :
    HeadOwed library last := by
  refine follows.preserves (HeadOwed library)
    (fun holds step => headOwed_step enabled holds step.1 step.2) ⟨fun program member => ?_, ?_⟩
  · rcases List.mem_cons.mp member with rfl | later
    · exact createFile_sound
    · obtain ⟨version, -, rfl⟩ := List.mem_map.mp later
      exact commitHead_sound
  · intro head there
    cases there

/-- The thread has ended without an error. -/
def succeeded : Ingesting Logged → Bool
  | .pure (.ok _) => true
  | _ => false

theorem eq_of_succeeded {program : Ingesting Logged} (ended : succeeded program = true) :
    program = .pure (.ok ()) := by
  cases program with
  | pure value =>
    cases value with
    | ok _ => rfl
    | error _ => cases ended
  | fail | ask => cases ended

/-- **The index is that of the head** when all tasks have succeeded, in a run in order. -/
theorem index_converges (enabled : library.settings.enabled = true) {first : FileVersion}
    {heads : List FileVersion} {log : List (Nat × RagEvent)}
    (follows : Follows (InOrderSteps library) (newFile first heads) log last)
    (ended : ∀ program ∈ last.threads, succeeded program = true) :
    IndexesHead library last.shared := by
  intro head there
  obtain ⟨chunks, outcome⟩ := (headOwed enabled follows).owed head there
  constructor
  · by_contra wrong
    obtain ⟨program, member, owes⟩ := chunks fun placed => wrong placed.2
    rw [eq_of_succeeded (ended program member)] at owes
    exact owes rfl
  · by_contra wrong
    obtain ⟨program, member, owes⟩ := outcome fun recorded => wrong recorded.2
    rw [eq_of_succeeded (ended program member)] at owes
    exact owes rfl

end Owed

/-! ### Two runs -/

/-- Every statement that can succeed does. -/
def succeeding (index : FileIndex) : ∀ query, RagAnswer query × FileIndex
  | .createWithQuota version =>
    if index.head = none then
      (.ok (), ⟨some version, [], none, decide (version.textPageCount ≤ 0), false⟩)
    else (.error .database, index)
  | .appendVersion version =>
    if index.head ≠ none then
      (.ok (), { index with head := some version, inPlace := false, recorded := false })
    else (.error .notFound, index)
  | .spawnIndex _ => ((), index)
  | .spawnReindex => ((), index)
  | .getByIdAndUser => (.ok index.head, index)
  | .setIndexState about state =>
    if index.head ≠ none then
      (.ok (), { index with
        state := some state
        recorded := index.recorded || decide (about = index.head ∧ state.status ≠ .indexing) })
    else (.error .database, index)
  | .reindexChunks version drafts =>
    if index.head ≠ none then
      (.ok (), { index with
        chunks := chunkRows version drafts
        inPlace := index.inPlace || decide (some version = index.head) })
    else (.error .database, index)
  | .embedFileChunks _ _ => ((), index)

theorem ragAnswers_succeeding (index : FileIndex) (query : RagQuery) :
    ragAnswers index ⟨query, (succeeding index query).1⟩ (succeeding index query).2 := by
  cases query with
  | createWithQuota | appendVersion =>
    rw [succeeding]
    split
    · exact ⟨‹_›, rfl⟩
    · rfl
  | spawnIndex | spawnReindex => rfl
  | getByIdAndUser => exact ⟨rfl, fun _ same => (Except.ok.inj same).symm⟩
  | setIndexState | reindexChunks =>
    rw [succeeding]
    split
    · exact ⟨‹_›, rfl⟩
    · rfl
  | embedFileChunks modelId dimensions => rfl

instance (index : FileIndex) (event : RagEvent) : Decidable (InOrder index event) := by
  obtain ⟨query, answer⟩ := event
  cases query with
  | reindexChunks version drafts =>
    cases answer with
    | ok _ => exact inferInstanceAs (Decidable (_ ∨ _))
    | error _ => exact inferInstanceAs (Decidable True)
  | setIndexState about state =>
    cases answer with
    | ok _ => exact inferInstanceAs (Decidable (_ ∧ _))
    | error _ => exact .isFalse fun both => (by cases both.1)
  | _ => exact inferInstanceAs (Decidable True)

def twoBlobs : Library where
  settings := ⟨true, 8, 0, 10, false, none, 0⟩
  loadTextPage blob _ := if blob = 1 then some "old text" else some "a new text"

def oldVersion : FileVersion := ⟨1, 1, 1⟩

def newVersion : FileVersion := ⟨2, 2, 1⟩

/-- The task of the first version ends before the second one comes. -/
def orderlyRun : List (Nat × RagEvent) × RagConfig :=
  (ingestion twoBlobs).execute succeeding (newFile oldVersion [newVersion])
    [0, 0, 2, 2, 2, 1, 1, 3, 3, 3, 3]

theorem orderly_index :
    IndexesHead twoBlobs orderlyRun.2.shared ∧ orderlyRun.2.shared.head = some newVersion ∧
      orderlyRun.2.shared.chunks.length = 2 :=
  ⟨index_converges rfl ((ingestion twoBlobs).guarded_execute ragAnswers_succeeding
    [0, 0, 2, 2, 2, 1, 1, 3, 3, 3, 3] _ (by decide +kernel)) (by decide +kernel),
    by decide +kernel, by decide +kernel⟩

/-- The task of the first version swaps its chunks after those of the head. -/
theorem stale_index : ¬ ∀ (library : Library), library.settings.enabled = true →
    ∀ first heads log last, Follows (ingestion library).Step (newFile first heads) log last →
      (∀ program ∈ last.threads, succeeded program = true) → IndexesHead library last.shared := by
  intro always
  have converged := always twoBlobs rfl oldVersion [newVersion] _ _
    ((ingestion twoBlobs).follows_execute ragAnswers_succeeding [0, 0, 1, 1, 3, 3, 3, 3, 2, 2, 2] _)
    (by decide +kernel) newVersion (by decide +kernel)
  exact absurd converged.1 (by decide +kernel)

end Ziee.Rag
