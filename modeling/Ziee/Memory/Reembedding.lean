/-
**The two workers that embed all rows again** (`file_rag/embed_worker.rs`,
`memory/embedding_worker.rs`), where every embedding is made and written.

Both take batches of the rows that are not embedded under the new model. A vector of the wrong
length is not written, and its row stays. The worker of the memories goes on behind it by the ids;
that of the chunks asks for any such rows again, and ends with a batch of which none was written.

* `reembedMemories_done`, `reembedChunks_done` — the workers end, and when all that fit are written.
* **`reembedding_iff`** — **both write all that fit, in any order, exactly when fewer rows than a
  batch do not fit** or nothing is to be written.
-/

import Mathlib.Data.Set.Finite.Lattice

namespace Ziee.Memory

structure EmbeddableRow where
  id : Nat
  content : String
  deriving DecidableEq

/-- The columns of a row: its embedding, and the model that made it. -/
abbrev Columns (Vector : Type) := Nat → Option Vector × Option String

structure Reembedding (Vector : Type) where
  embed : String → Vector
  length : Vector → Int
  targetDimensions : Int
  modelTag : String

namespace Reembedding

variable {Vector : Type} (job : Reembedding Vector)

/-- `embedding_dim_matches`, of the vector of a row. -/
def fits (row : EmbeddableRow) : Bool := job.length (job.embed row.content) == job.targetDimensions

/-- `embedding IS NULL OR embedding_model IS DISTINCT FROM $1`. -/
def needs (columns : Columns Vector) (row : EmbeddableRow) : Bool :=
  (columns row.id).1.isNone || (columns row.id).2 != some job.modelTag

def embedRow (columns : Columns Vector) (row : EmbeddableRow) : Columns Vector :=
  if job.fits row then
    Function.update columns row.id (some (job.embed row.content), some job.modelTag)
  else columns

def rebuildBatchSize : Nat := 100

def reembedChunks (order : Nat → List EmbeddableRow → List EmbeddableRow)
    (rows : List EmbeddableRow) : Nat → Nat → Columns Vector → Option (Columns Vector)
  | 0, _, _ => none
  | fuel + 1, round, columns =>
    let batch := (order round (rows.filter (job.needs columns))).take rebuildBatchSize
    if batch.isEmpty then some columns
    else if batch.any job.fits then
      reembedChunks order rows fuel (round + 1) (batch.foldl job.embedRow columns)
    else some (batch.foldl job.embedRow columns)

/-- The loop over the memories, in so many rounds: each takes the first ids behind the last one. -/
def reembedMemories (rows : List EmbeddableRow) :
    Nat → Nat → Columns Vector → Option (Columns Vector)
  | 0, _, _ => none
  | fuel + 1, lastId, columns =>
    let behind := rows.filter fun row => job.needs columns row && decide (lastId < row.id)
    let batch := (behind.mergeSort fun row other => row.id ≤ other.id).take rebuildBatchSize
    match batch.getLast? with
    | none => some columns
    | some last => reembedMemories rows fuel last.id (batch.foldl job.embedRow columns)

/-! ### One batch -/

variable {job} {columns : Columns Vector} {row : EmbeddableRow} {rows batch : List EmbeddableRow}

theorem needs_embedRow (other : EmbeddableRow) (done : job.needs columns row = false) :
    job.needs (job.embedRow columns other) row = false := by
  unfold embedRow
  split
  · by_cases same : row.id = other.id
    · simp [needs, same]
    · rw [needs, Function.update_of_ne same]
      exact done
  · exact done

theorem needs_foldl (done : job.needs columns row = false) :
    job.needs (batch.foldl job.embedRow columns) row = false := by
  induction batch generalizing columns with
  | nil => exact done
  | cons other batch ih => exact ih (needs_embedRow other done)

/-- **A batch is embedded** where it fits. -/
theorem needs_of_mem (member : row ∈ batch) (fits : job.fits row = true) :
    job.needs (batch.foldl job.embedRow columns) row = false := by
  induction batch generalizing columns with
  | nil => cases member
  | cons other batch ih =>
    rcases List.mem_cons.mp member with rfl | later
    · rw [List.foldl_cons, embedRow, if_pos fits]
      exact needs_foldl (by simp [needs])
    · exact ih later

def Done (job : Reembedding Vector) (rows : List EmbeddableRow) (columns : Columns Vector) : Prop :=
  ∀ row ∈ rows, job.fits row = true → job.needs columns row = false

theorem pending_foldl : rows.filter (job.needs (batch.foldl job.embedRow columns)) =
    (rows.filter (job.needs columns)).filter (job.needs (batch.foldl job.embedRow columns)) := by
  rw [List.filter_filter]
  refine List.filter_congr fun other _ => ?_
  cases needed : job.needs columns other with
  | true => rw [Bool.and_true]
  | false => rw [needs_foldl needed, Bool.and_false]

/-! ### The chunks -/

/-- The database returns the rows in some order. -/
def Orders (order : Nat → List EmbeddableRow → List EmbeddableRow) : Prop :=
  ∀ round rows, (order round rows).Perm rows

def misfits (job : Reembedding Vector) (columns : Columns Vector) (rows : List EmbeddableRow) :
    Nat :=
  (rows.filter (job.needs columns)).countP fun row => !job.fits row

/-- Fewer misfits than a batch holds, or nothing to embed. -/
def Ready (job : Reembedding Vector) (columns : Columns Vector) (rows : List EmbeddableRow) :
    Prop :=
  job.misfits columns rows < rebuildBatchSize ∨ job.Done rows columns

theorem Ready.mem_batch {pending : List EmbeddableRow} (ready : job.Ready columns rows)
    (perm : pending.Perm (rows.filter (job.needs columns)))
    (none : (pending.take rebuildBatchSize).any job.fits = false) (member : row ∈ rows)
    (needed : job.needs columns row = true) (fits : job.fits row = true) :
    row ∈ pending.take rebuildBatchSize := by
  rcases ready with few | done
  swap
  · exact Bool.noConfusion ((done row member fits).symm.trans needed)
  have there := perm.mem_iff.mpr (List.mem_filter.mpr ⟨member, needed⟩)
  refine (List.take_of_length_le (Nat.le_of_not_lt fun more => ?_)).symm ▸ there
  have count : (pending.take rebuildBatchSize).countP (fun row => !job.fits row) =
      (pending.take rebuildBatchSize).length :=
    List.countP_eq_length.mpr fun row member => by simp [List.any_eq_false.mp none row member]
  have most : (pending.take rebuildBatchSize).countP (fun row => !job.fits row) ≤ _ :=
    (List.take_sublist rebuildBatchSize pending).countP_le
  rw [count, List.length_take, perm.countP_eq] at most
  unfold misfits at few
  omega

/-- **Every round embeds a row**, until all that fit are. -/
theorem reembedChunks_done {order : Nat → List EmbeddableRow → List EmbeddableRow}
    (orders : Orders order) (ready : job.Ready columns rows) (round : Nat) :
    ∃ fuel last, job.reembedChunks order rows fuel round columns = some last ∧
      job.Done rows last := by
  induction same : (rows.filter (job.needs columns)).length using Nat.strongRecOn
    generalizing columns round with
  | _ left ih =>
    have perm := orders round (rows.filter (job.needs columns))
    have all := fun row => @Ready.mem_batch _ job columns row rows _ ready perm
    have inside : ∀ row ∈ (order round (rows.filter (job.needs columns))).take rebuildBatchSize,
        row ∈ rows.filter (job.needs columns) :=
      fun row member => perm.mem_iff.mp (List.mem_of_mem_take member)
    generalize listed : (order round (rows.filter (job.needs columns))).take rebuildBatchSize =
      batch at all inside
    cases writes : batch.any job.fits with
    | true =>
      obtain ⟨row, member, fits⟩ := List.any_eq_true.mp writes
      have fewer : (rows.filter (job.needs (batch.foldl job.embedRow columns))).length < left := by
        rw [pending_foldl, ← same]
        exact List.length_filter_lt_length_iff_exists.mpr
          ⟨row, inside row member, by simp [needs_of_mem member fits]⟩
      have still : job.Ready (batch.foldl job.embedRow columns) rows := by
        refine ready.imp (fun few => ?_) fun done row member fits =>
          needs_foldl (done row member fits)
        rw [misfits, pending_foldl]
        exact Nat.lt_of_le_of_lt List.filter_sublist.countP_le few
      obtain ⟨fuel, last, ran, done⟩ := ih _ fewer still (round + 1) rfl
      refine ⟨fuel + 1, last, ?_, done⟩
      rw [reembedChunks, listed, if_neg (by simpa using List.ne_nil_of_mem member), if_pos writes,
        ran]
    | false =>
      refine ⟨1, batch.foldl job.embedRow columns, ?_, fun row member fits => ?_⟩
      · rw [reembedChunks, listed, if_neg (Bool.eq_false_iff.mp writes)]
        cases batch <;> rfl
      · cases needed : job.needs columns row with
        | true => exact needs_of_mem (all row writes member needed fits) fits
        | false => exact needs_foldl needed

/-- **The rows that do not fit can fill the batch.** -/
theorem reembedChunks_stuck (many : rebuildBatchSize ≤ job.misfits columns rows) :
    ∃ order, Orders order ∧ ∀ fuel round last,
      job.reembedChunks order rows fuel round columns = some last → last = columns := by
  refine ⟨fun _ rows => rows.filter (fun row => !job.fits row) ++ rows.filter job.fits,
    fun _ rows => ?_, fun fuel round last ran => ?_⟩
  · have split := List.filter_append_perm (fun row => !job.fits row) rows
    simpa using split
  · cases fuel with
    | zero => cases ran
    | succ fuel =>
      rw [reembedChunks,
        List.take_append_of_le_length (by rwa [← List.countP_eq_length_filter])] at ran
      have misfit : ∀ row ∈ ((rows.filter (job.needs columns)).filter fun row =>
          !job.fits row).take rebuildBatchSize, job.fits row = false := fun row member => by
        simpa using (List.mem_filter.mp (List.mem_of_mem_take member)).2
      generalize List.take _ _ = batch at ran misfit
      have same : batch.foldl job.embedRow columns = columns := by
        clear ran
        induction batch with
        | nil => rfl
        | cons row batch ih =>
          obtain ⟨first, rest⟩ := List.forall_mem_cons.mp misfit
          rw [List.foldl_cons, embedRow, if_neg (by simp [first])]
          exact ih rest
      have misfitting : ¬batch.any job.fits = true := by simpa using misfit
      rw [same, if_neg misfitting, ite_self] at ran
      exact (Option.some.inj ran).symm

/-! ### The memories -/

/-- **The worker of the memories embeds all that fit**: behind each last id everything was tried. -/
theorem reembedMemories_done (distinct : (rows.map EmbeddableRow.id).Nodup) (lastId : Nat)
    (tried : ∀ row ∈ rows, row.id ≤ lastId → job.fits row = true → job.needs columns row = false) :
    ∃ fuel last, job.reembedMemories rows fuel lastId columns = some last ∧ job.Done rows last := by
  obtain ⟨top, bound⟩ := (rows.map EmbeddableRow.id).finite_toSet.bddAbove
  induction same : top - lastId using Nat.strongRecOn generalizing columns lastId with
  | _ left ih =>
    have sorted := @List.pairwise_mergeSort EmbeddableRow (fun row other => row.id ≤ other.id)
      (by simpa using fun _ _ _ => Nat.le_trans) (by simpa using fun _ _ => Nat.le_total _ _)
      (rows.filter fun row => job.needs columns row && decide (lastId < row.id))
    have mem : ∀ row, row ∈ (rows.filter fun row => job.needs columns row &&
        decide (lastId < row.id)).mergeSort (fun row other => row.id ≤ other.id) ↔
        row ∈ rows ∧ job.needs columns row = true ∧ lastId < row.id := by
      simp
    generalize listed : (rows.filter fun row => job.needs columns row &&
      decide (lastId < row.id)).mergeSort (fun row other => row.id ≤ other.id) = behind
      at sorted mem
    cases ends : (behind.take rebuildBatchSize).getLast? with
    | none =>
      have nothing : behind = [] := by simpa [rebuildBatchSize] using ends
      refine ⟨1, columns, by simp [reembedMemories, listed, ends], fun row member fits => ?_⟩
      by_contra needed
      rcases Nat.lt_or_ge lastId row.id with later | before
      · have there := (mem row).mpr ⟨member, by simpa using needed, later⟩
        rw [nothing] at there
        cases there
      · exact needed (tried row member before fits)
    | some last =>
      have lastIn := List.mem_of_getLast? ends
      obtain ⟨lastRow, -, later⟩ := (mem last).mp (List.mem_of_mem_take lastIn)
      have below := bound (List.mem_map_of_mem lastRow)
      have next : ∀ row ∈ rows, row.id ≤ last.id → job.fits row = true →
          job.needs ((behind.take rebuildBatchSize).foldl job.embedRow columns) row = false := by
        intro row member before fits
        cases needed : job.needs columns row with
        | false => exact needs_foldl needed
        | true =>
          refine needs_of_mem ?_ fits
          rcases Nat.lt_or_ge lastId row.id with unseen | seen
          · have there := (mem row).mpr ⟨member, needed, unseen⟩
            rw [← List.take_append_drop rebuildBatchSize behind] at there sorted
            refine (List.mem_append.mp there).elim id fun dropped => ?_
            -- What is behind the batch has no smaller id.
            have order := (List.pairwise_append.mp sorted).2.2 last lastIn row dropped
            have equal := Nat.le_antisymm before (of_decide_eq_true order)
            exact List.inj_on_of_nodup_map distinct member lastRow equal ▸ lastIn
          · exact Bool.noConfusion ((tried row member seen fits).symm.trans needed)
      obtain ⟨fuel, final, ran, done⟩ := ih _ (by omega) last.id next rfl
      exact ⟨fuel + 1, final, by rw [reembedMemories, listed, ends, ← ran], done⟩

structure RowTable where
  rows : List EmbeddableRow
  distinct : (rows.map EmbeddableRow.id).Nodup
  positive : ∀ row ∈ rows, 0 < row.id

/-- **Both workers embed all that fits in any order exactly when the misfits are fewer than a
batch**, or no chunk that is to be embedded fits. -/
theorem reembedding_iff (job : Reembedding Vector) (chunks memories : RowTable)
    (columns stored : Columns Vector) : ((∀ order, Orders order → ∃ fuel last,
        job.reembedChunks order chunks.rows fuel 0 columns = some last ∧
          job.Done chunks.rows last) ∧
      ∃ fuel last, job.reembedMemories memories.rows fuel 0 stored = some last ∧
        job.Done memories.rows last) ↔
      job.Ready columns chunks.rows := by
  have others := @reembedMemories_done _ job stored _ memories.distinct 0
    fun row member before => absurd (memories.positive row member) (Nat.not_lt.mpr before)
  constructor
  · rintro ⟨all, -⟩
    refine or_iff_not_imp_left.mpr fun many => ?_
    obtain ⟨order, orders, stuck⟩ := reembedChunks_stuck (Nat.le_of_not_lt many)
    obtain ⟨fuel, last, ran, done⟩ := all order orders
    exact stuck fuel 0 last ran ▸ done
  · exact fun ready => ⟨fun order orders => reembedChunks_done orders ready 0, others⟩

/-- A text is as long as its vector. -/
def lengthJob : Reembedding Nat := ⟨String.length, Int.ofNat, 1, "new"⟩

/-- A hundred chunks that do not fit, and one that does. -/
def crowded : RowTable where
  rows := (List.range 101).map fun i => ⟨i + 1, if i = 100 then "x" else ""⟩
  distinct := by decide
  positive := by decide

theorem crowded_stuck : ¬∀ order, Orders order → ∃ fuel last,
    lengthJob.reembedChunks order crowded.rows fuel 0 (fun _ => (none, none)) = some last ∧
      lengthJob.Done crowded.rows last := by
  intro all
  obtain ⟨order, orders, stuck⟩ := @reembedChunks_stuck _ lengthJob (fun _ => (none, none))
    crowded.rows (by decide +kernel)
  obtain ⟨fuel, last, ran, done⟩ := all order orders
  rw [stuck fuel 0 last ran] at done
  exact absurd (done ⟨101, "x"⟩ (by decide +kernel) (by decide)) (by decide)

end Reembedding

end Ziee.Memory
