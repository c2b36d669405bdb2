/-
**The blocks of a reply in the table.**

`finalize` marks the accumulator after the last of its calls. A call that fails before the commit
leaves everything as it was, unless tool calls were taken from the extension; one that fails after
it leaves the rows, and the next invocation writes them again.

* **`stored_once`** — in a run whose steps are undisturbed, and which gathers nothing more when it
  is finalized, blocks are stored once.
* `failed_hook_repeats` — the read after the commit fails.
-/

import Ziee.Chat.DeltaAccumulator
import Ziee.Library.Prefixes

namespace Ziee.Chat

open Prefixes RowOrder
open Ziee.Providers (ContentBlockDelta StreamChatChunk)

/-- **What all chunks of a run gathered**, whatever was written of it. -/
def gatheredBy (registry : Bool) (ops : List TurnOp) : Gathered :=
  ops.foldl (fun gathered op => match op with
    | .chunk chunk calls => (gather registry calls gathered 0 chunk.content).1
    | .finalize _ => gathered) .empty

def storedBy (start : Turn) (ops : List TurnOp) : List ContentRow :=
  (start.run ops).1.rows.drop start.rows.length

/-- **Every block at most once**, and all of them in order when `finalize` has returned `Ok`. -/
structure StoredOnce (start : Turn) (ops : List TurnOp) : Prop where
  kept : (start.run ops).1.rows = start.rows ++ storedBy start ops
  once : ((storedBy start ops).map fun row => row.source.key).Nodup
  known : ∀ row ∈ storedBy start ops, row.source ∈ (gatheredBy start.registry ops).sources
  complete : true ∈ (start.run ops).2 →
    (storedBy start ops).map ContentRow.source = (gatheredBy start.registry ops).sources
  ordered : (storedBy start ops).Pairwise fun a b => a.sequenceOrder < b.sequenceOrder
  behind : ∀ old ∈ start.rows, ∀ new ∈ storedBy start ops, old.sequenceOrder < new.sequenceOrder

/-! ### Sources and rows -/

section Sources

variable {registry : Bool} {tokens : Option Nat} {base : Int} {sources : List Source}
  {gathered : Gathered} {rows : List ContentRow} {row : ContentRow}

theorem blockSources_keys : (gathered.blockSources.map Source.key).Nodup := by
  have indices : (gathered.contentBlocks.zipIdx.map fun pair =>
    (Sum.inl pair.2 : Nat ⊕ Nat)).Nodup := by
    have plain := (List.nodup_zipIdx_map_snd gathered.contentBlocks).map
      (Sum.inl_injective (β := Nat))
    rwa [List.map_map] at plain
  refine indices.sublist ?_
  unfold Gathered.blockSources
  generalize gathered.contentBlocks.zipIdx = pairs
  induction pairs with
  | nil => exact List.Sublist.slnil
  | cons pair pairs ih =>
    rw [List.filterMap_cons, List.map_cons]
    by_cases typed : pair.1.contentType = "text" ∨ pair.1.contentType = "thinking"
    · simp only [typed, if_true]
      exact ih.cons_cons _
    · simp only [typed, if_false]
      exact ih.cons _

theorem toolSources_keys : (gathered.toolSources.map Source.key).Nodup := by
  have keys : (gathered.toolUses.entries.map Sigma.fst).Nodup := gathered.toolUses.nodupKeys
  have ordered : ((orderBy Sigma.fst gathered.toolUses.entries).map Sigma.fst).Nodup :=
    (orderBy_perm.map _).nodup_iff.mpr keys
  have plain := ordered.map (Sum.inr_injective (α := Nat))
  rw [List.map_map] at plain
  unfold Gathered.toolSources
  rwa [List.map_map]

theorem sources_keys : (gathered.sources.map Source.key).Nodup := by
  rw [Gathered.sources, List.map_append]
  refine List.nodup_append.mpr ⟨blockSources_keys, toolSources_keys, fun a one b two => ?_⟩
  obtain ⟨block, inside, rfl⟩ := List.mem_map.mp one
  obtain ⟨tool, inside', rfl⟩ := List.mem_map.mp two
  obtain ⟨⟨content, index⟩, -, made⟩ := List.mem_filterMap.mp inside
  obtain ⟨entry, -, rfl⟩ := List.mem_map.mp inside'
  by_cases typed : content.contentType = "text" ∨ content.contentType = "thinking"
  · simp only [typed, if_true, Option.some.injEq] at made
    subst made
    exact Sum.inl_ne_inr
  · simp only [typed, if_false, reduceCtorEq] at made

@[simp] theorem rowsFrom_sources :
    (rowsFrom registry tokens base sources).map ContentRow.source = sources := by
  induction sources generalizing base with
  | nil => rfl
  | cons source sources ih => rw [rowsFrom, List.map_cons, ih]

theorem rowsFrom_base (member : row ∈ rowsFrom registry tokens base sources) :
    base ≤ row.sequenceOrder := by
  induction sources generalizing base with
  | nil => cases member
  | cons source sources ih =>
    rcases List.mem_cons.mp member with rfl | later
    · exact le_rfl
    · have bound := ih later
      omega

theorem rowsFrom_ordered : (rowsFrom registry tokens base sources).Pairwise
    fun a b => a.sequenceOrder < b.sequenceOrder := by
  induction sources generalizing base with
  | nil => exact List.Pairwise.nil
  | cons source sources ih =>
    refine List.Pairwise.cons (fun row later => ?_) ih
    have bound := rowsFrom_base later
    show base < row.sequenceOrder
    omega

theorem lt_nextSequence (member : row ∈ rows) : row.sequenceOrder < nextSequence rows := by
  have bound : ∀ (numbers : List Int) (start : Int), start ≤ numbers.foldl max start ∧
      ∀ number ∈ numbers, number ≤ numbers.foldl max start := by
    intro numbers
    induction numbers with
    | nil => exact fun start => ⟨le_rfl, by simp⟩
    | cons number numbers ih =>
      intro start
      obtain ⟨first, rest⟩ := ih (max start number)
      rw [List.foldl_cons]
      refine ⟨(le_max_left _ _).trans first, fun other inside => ?_⟩
      rcases List.mem_cons.mp inside with rfl | inside
      · exact (le_max_right _ _).trans first
      · exact rest other inside
  have here := (bound (rows.map ContentRow.sequenceOrder) (-1)).2 _ (List.mem_map_of_mem member)
  unfold nextSequence
  omega

end Sources

/-! ### One invocation -/

namespace Calls

/-- The calls before the extension's content succeed. -/
def prepares (calls : Calls) (turn : Turn) : Prop :=
  calls.beginTransaction ∧ calls.selectBase ∧
    ∀ index < turn.gathered.blockSources.length, calls.insertBlock index

def collects (calls : Calls) (turn : Turn) : Prop :=
  turn.registry → calls.collect ∧
    ∀ index < turn.gathered.toolSources.length, calls.insertExtension index

/-- **Tool calls are taken** from the extension. -/
def takes (calls : Calls) (turn : Turn) : Prop :=
  calls.prepares turn ∧ turn.registry ∧ calls.collect ∧ turn.gathered.toolUses ≠ ∅

/-- **Rows are applied**. -/
def applies (calls : Calls) (turn : Turn) : Prop :=
  calls.prepares turn ∧ calls.collects turn ∧ calls.updateState ∧ calls.commit ≠ .rolledBack ∧
    turn.gathered.sources ≠ []

def completes (calls : Calls) (turn : Turn) : Prop :=
  calls.collects turn ∧ calls.updateState ∧ calls.commit = .committed ∧
    (turn.registry → calls.getMessage)

end Calls

/-- **No call fails once tool calls were taken or rows were applied.** -/
def Undisturbed (turn : Turn) (calls : Calls) : Prop :=
  turn.finalized = false → calls.takes turn ∨ calls.applies turn → calls.completes turn

section Finalize

variable {turn : Turn} {calls : Calls}

theorem prepares_iff : calls.prepares turn ↔ (calls.beginTransaction && calls.selectBase &&
    (List.range turn.gathered.blockSources.length).all calls.insertBlock) = true := by
  simp [Calls.prepares, and_assoc]

theorem store_nil : turn.store [] = turn := by
  simp [Turn.store, rowsFrom]

/-- **The end of an invocation** that does not fail once its rows are applied. -/
theorem conclude_cases {sources : List Source} (complete : calls.updateState →
    calls.commit ≠ .rolledBack → sources ≠ [] →
    calls.commit = .committed ∧ (turn.registry → calls.getMessage)) :
    turn.conclude calls sources = (turn, false) ∨
      turn.conclude calls sources = ({ turn.store sources with finalized := true }, true) := by
  unfold Turn.conclude
  by_cases updated : calls.updateState = true
  · rw [updated]
    cases committed : calls.commit with
    | rolledBack => exact Or.inl rfl
    | unacknowledged =>
      by_cases empty : sources = []
      · left
        rw [empty, store_nil]
        rfl
      · rw [committed] at complete
        cases (complete updated (by simp) empty).1
    | committed =>
      by_cases read : (turn.registry && !calls.getMessage) = true
      · by_cases empty : sources = []
        · left
          rw [empty, store_nil]
          simp [read]
        · have got := (complete updated (by simp [committed]) empty).2
          simp only [Bool.and_eq_true, Bool.not_eq_true'] at read
          simp [got read.1] at read
      · right
        simp [read]
  · simp [updated]

structure Stored (turn after : Turn) : Prop where
  registry : after.registry = turn.registry
  finalized : after.finalized = true
  rows : ∃ tokens, after.rows = turn.rows ++
    rowsFrom turn.registry tokens (nextSequence turn.rows) turn.gathered.sources

/-- **An invocation changes nothing, or stores everything.** -/
theorem finalize_cases (fresh : turn.finalized = false)
    (without : turn.registry = false → turn.gathered.toolUses = ∅)
    (undisturbed : Undisturbed turn calls) : turn.finalize calls = (turn, false) ∨
      ∃ after, turn.finalize calls = (after, true) ∧ Stored turn after := by
  unfold Turn.finalize
  by_cases prepared : calls.prepares turn
  · simp only [fresh, prepares_iff.mp prepared, Bool.not_true, Bool.false_eq_true, if_false]
    by_cases registry : turn.registry = true
    · simp only [registry, Bool.not_true, Bool.false_eq_true, if_false]
      by_cases collected : calls.collect = true
      · simp only [collected, Bool.not_true, Bool.false_eq_true, if_false]
        by_cases none : turn.gathered.toolUses = ∅
        · -- nothing is taken
          have taken : turn.taken = turn := by
            rw [Turn.taken, ← none]
          have tools : turn.gathered.toolSources = [] := by
            rw [Gathered.toolSources, none]
            rfl
          have all : turn.gathered.sources = turn.gathered.blockSources := by
            rw [Gathered.sources, tools, List.append_nil]
          have complete : calls.updateState → calls.commit ≠ .rolledBack →
              turn.gathered.blockSources ≠ [] →
              calls.commit = .committed ∧ (turn.registry → calls.getMessage) := by
            intro updated applied some
            have completes := undisturbed fresh (Or.inr ⟨prepared,
              fun _ => ⟨collected, by simp [tools]⟩, updated, applied, all ▸ some⟩)
            exact ⟨completes.2.2.1, completes.2.2.2⟩
          rw [taken, tools, List.append_nil]
          simp only [List.length_nil, List.range_zero, List.all_nil, Bool.not_true,
            Bool.false_eq_true, if_false]
          rcases conclude_cases complete with same | done
          · exact Or.inl same
          · exact Or.inr ⟨_, done, rfl, rfl, turn.reasoningTokens, by rw [all]; rfl⟩
        · -- no call fails any more
          obtain ⟨collects, updated, committed, read⟩ :=
            undisturbed fresh (Or.inl ⟨prepared, registry, collected, none⟩)
          have inserted : (List.range turn.gathered.toolSources.length).all calls.insertExtension =
              true := by
            simpa using (collects registry).2
          right
          simp only [inserted, Bool.not_true, Bool.false_eq_true, if_false, Turn.conclude, updated,
            committed, read registry, Bool.and_false]
          exact ⟨_, rfl, rfl, rfl, turn.reasoningTokens, rfl⟩
      · left
        simp [collected]
    · have none : turn.gathered.toolSources = [] := by
        rw [Gathered.toolSources, without (by simpa using registry)]
        rfl
      have all : turn.gathered.sources = turn.gathered.blockSources := by
        rw [Gathered.sources, none, List.append_nil]
      have complete : calls.updateState → calls.commit ≠ .rolledBack →
          turn.gathered.blockSources ≠ [] →
          calls.commit = .committed ∧ (turn.registry → calls.getMessage) := by
        intro updated applied some
        have completes := undisturbed fresh (Or.inr ⟨prepared, fun there => absurd there registry,
          updated, applied, all ▸ some⟩)
        exact ⟨completes.2.2.1, completes.2.2.2⟩
      simp only [registry, Bool.not_false, if_true]
      rcases conclude_cases complete with same | done
      · exact Or.inl same
      · exact Or.inr ⟨_, done, rfl, rfl, turn.reasoningTokens, by rw [all]; rfl⟩
  · left
    have unprepared := mt prepares_iff.mpr prepared
    simp only [fresh, Bool.false_eq_true, if_false, unprepared, Bool.not_false, if_true]

end Finalize

/-! ### Runs -/

/-- **A step keeps to the condition**: its invocation of `finalize` is undisturbed, and a chunk for
a turn that is finalized adds nothing. -/
def SafeStep (start : Turn) (before : List TurnOp) (op : TurnOp) : Prop :=
  ((start.run before).1.finalized = true → (gatheredBy start.registry (before ++ [op])).sources =
      (gatheredBy start.registry before).sources) ∧
  match op with
  | .finalize calls => Undisturbed (start.run before).1 calls
  | .chunk chunk calls => chunk.finishReason.isSome →
      ((start.run before).1.receive chunk calls).2.isSome →
      Undisturbed ((start.run before).1.receive chunk calls).1 calls

/-- **The turn against all that was gathered**: nothing is written yet, or all of it is. -/
structure Tracked (start : Turn) (all : Gathered) (turn : Turn) (results : List Bool) : Prop where
  registry : turn.registry = start.registry
  without : start.registry = false → all.toolUses = ∅
  pending : turn.finalized = false → turn.gathered = all ∧ turn.rows = start.rows ∧ true ∉ results
  written : turn.finalized = true → ∃ tokens, turn.rows = start.rows ++
    rowsFrom start.registry tokens (nextSequence start.rows) all.sources

section Runs

variable {start turn : Turn} {all : Gathered} {results : List Bool} {calls : Calls}
  {chunk : StreamChatChunk} {ops : List TurnOp}

theorem Turn.run_concat (start : Turn) (ops : List TurnOp) (op : TurnOp) :
    start.run (ops ++ [op]) = (((start.run ops).1.step op).1,
      (start.run ops).2 ++ ((start.run ops).1.step op).2.toList) := by
  rw [Turn.run, List.foldl_append]
  rfl

theorem gatheredBy_chunk (registry : Bool) (ops : List TurnOp) (chunk : StreamChatChunk)
    (calls : Calls) : gatheredBy registry (ops ++ [.chunk chunk calls]) =
      (gather registry calls (gatheredBy registry ops) 0 chunk.content).1 := by
  rw [gatheredBy, List.foldl_append]
  rfl

theorem gatheredBy_finalize (registry : Bool) (ops : List TurnOp) (calls : Calls) :
    gatheredBy registry (ops ++ [.finalize calls]) = gatheredBy registry ops := by
  rw [gatheredBy, List.foldl_append]
  rfl

theorem finalize_again (done : turn.finalized = true) : turn.finalize calls = (turn, true) := by
  rw [Turn.finalize, done]
  rfl

theorem gather_without (gathered : Gathered) (position : Nat) (deltas : List ContentBlockDelta) :
    (gather false calls gathered position deltas).1.toolUses = gathered.toolUses := by
  induction deltas generalizing gathered position with
  | nil => rfl
  | cons delta deltas ih =>
    cases delta with
    | textDelta index text => exact ih _ _
    | thinkingDelta index text => exact ih _ _
    | thinkingSignatureDelta index signature => exact ih _ _
    | redactedThinkingDelta index data => exact ih _ _
    | toolUseDelta index id name inputDelta => exact ih gathered _

/-- **An invocation of `finalize`** keeps the turn tracked. -/
theorem Tracked.finalize (tracked : Tracked start all turn results)
    (undisturbed : Undisturbed turn calls) :
    Tracked start all (turn.finalize calls).1 (results ++ [(turn.finalize calls).2]) := by
  by_cases done : turn.finalized = true
  · rw [finalize_again done]
    exact ⟨tracked.registry, tracked.without, fun open' => by simp [done] at open', tracked.written⟩
  · have fresh : turn.finalized = false := by simpa using done
    obtain ⟨gathered, rows, none⟩ := tracked.pending fresh
    have without : turn.registry = false → turn.gathered.toolUses = ∅ := by
      rw [tracked.registry, gathered]
      exact tracked.without
    rcases finalize_cases fresh without undisturbed with same | ⟨after, finished, stored⟩
    · rw [same]
      refine ⟨tracked.registry, tracked.without, fun _ => ⟨gathered, rows, ?_⟩, tracked.written⟩
      simpa using none
    · rw [finished]
      obtain ⟨tokens, written⟩ := stored.rows
      rw [rows, gathered, tracked.registry] at written
      refine ⟨stored.registry.trans tracked.registry, tracked.without, fun open' => ?_,
        fun _ => ⟨tokens, written⟩⟩
      rw [stored.finalized] at open'
      cases open'

/-- **The deltas of a chunk** keep it tracked, unless they add something to what is written. -/
theorem Tracked.receive (tracked : Tracked start all turn results) (adds : turn.finalized = true →
      (gather start.registry calls all 0 chunk.content).1.sources = all.sources) :
    Tracked start (gather start.registry calls all 0 chunk.content).1 (turn.receive chunk calls).1
      results where
  registry := tracked.registry
  without := fun none => by
    rw [none, gather_without]
    exact tracked.without none
  pending := fun fresh => by
    obtain ⟨gathered, rows, results⟩ := tracked.pending fresh
    refine ⟨?_, rows, results⟩
    show (gather turn.registry calls turn.gathered 0 chunk.content).1 = _
    rw [tracked.registry, gathered]
  written := fun done => by
    rw [adds done]
    exact tracked.written done

theorem Tracked.step {op : TurnOp}
    (tracked : Tracked start (gatheredBy start.registry ops) (start.run ops).1 (start.run ops).2)
    (safe : SafeStep start ops op) : Tracked start (gatheredBy start.registry (ops ++ [op]))
      (start.run (ops ++ [op])).1 (start.run (ops ++ [op])).2 := by
  obtain ⟨adds, undisturbed⟩ := safe
  rw [Turn.run_concat]
  cases op with
  | finalize calls =>
    rw [gatheredBy_finalize]
    exact tracked.finalize undisturbed
  | chunk chunk calls =>
    rw [gatheredBy_chunk] at adds ⊢
    have received := tracked.receive adds
    change chunk.finishReason.isSome → ((start.run ops).1.receive chunk calls).2.isSome →
      Undisturbed ((start.run ops).1.receive chunk calls).1 calls at undisturbed
    rw [Turn.step, Turn.processChunk]
    rcases result : (start.run ops).1.receive chunk calls with ⟨turn, _ | shown⟩
    · rw [result] at received
      simpa using received
    · rw [result] at received undisturbed
      by_cases finish : chunk.finishReason.isSome = true
      · have finished := received.finalize (undisturbed finish rfl)
        simpa [finish] using finished
      · simpa [finish] using received

theorem tracked_run (registry : Bool) (rows : List ContentRow)
    (safe : EachStep (SafeStep (.start registry rows)) ops) :
    Tracked (.start registry rows) (gatheredBy registry ops) ((Turn.start registry rows).run ops).1
      ((Turn.start registry rows).run ops).2 := by
  induction ops using List.reverseRecOn with
  | nil =>
    exact ⟨rfl, fun _ => rfl, fun _ => ⟨rfl, rfl, List.not_mem_nil⟩, nofun⟩
  | append_singleton ops op ih =>
    obtain ⟨before, last⟩ := eachStep_concat.mp safe
    exact (ih before).step last

/-- **Blocks are stored once**, in every run whose steps keep to the condition. -/
theorem stored_once (registry : Bool) (rows : List ContentRow) (ops : List TurnOp)
    (safe : EachStep (SafeStep (.start registry rows)) ops) :
    StoredOnce (.start registry rows) ops := by
  have tracked := tracked_run registry rows safe
  by_cases done : ((Turn.start registry rows).run ops).1.finalized = true
  · obtain ⟨tokens, written⟩ := tracked.written done
    have added : storedBy (.start registry rows) ops =
        rowsFrom registry tokens (nextSequence rows) (gatheredBy registry ops).sources := by
      rw [storedBy, written]
      exact List.drop_left
    have sources : (storedBy (.start registry rows) ops).map ContentRow.source =
        (gatheredBy registry ops).sources := by
      rw [added, rowsFrom_sources]
    refine ⟨?_, ?_, fun row member => ?_, fun _ => sources, ?_, fun old one new two => ?_⟩
    · rw [written, added]
      rfl
    · have keys : ((gatheredBy registry ops).sources.map Source.key).Nodup := sources_keys
      rwa [← sources, List.map_map] at keys
    · exact sources ▸ List.mem_map_of_mem member
    · exact added ▸ rowsFrom_ordered
    · rw [added] at two
      exact (lt_nextSequence one).trans_le (rowsFrom_base two)
  · obtain ⟨-, same, none⟩ := tracked.pending (by simpa using done)
    have added : storedBy (.start registry rows) ops = [] := by
      rw [storedBy, same]
      exact List.drop_length
    refine ⟨?_, ?_, fun row member => ?_, fun ok => absurd ok none, ?_, fun old _ new two => ?_⟩
    · rw [same, added, List.append_nil]
    · rw [added]
      exact List.nodup_nil
    · rw [added] at member
      cases member
    · rw [added]
      exact List.Pairwise.nil
    · rw [added] at two
      cases two

end Runs

/-! ### Two runs -/

/-- A chunk with one word and the reason `stop`. -/
def lastWord : StreamChatChunk := ⟨[.textDelta 0 "hi"], some "stop", none, none, [], false⟩

/-- The commit fails, and `finalize` is invoked again. -/
def retriedCommit : List TurnOp :=
  [.chunk lastWord { Calls.working with commit := .rolledBack }, .finalize .working]

theorem stored_once_retried : StoredOnce (.start true []) retriedCommit ∧
      (storedBy (.start true []) retriedCommit).map ContentRow.source =
        [.block 0 ⟨"text", "hi", none, none⟩] ∧
      ((Turn.start true []).run retriedCommit).2 = [false, true] := by
  refine ⟨stored_once true [] retriedCommit ?_, by decide, by decide⟩
  have first : SafeStep (.start true []) []
      (.chunk lastWord { Calls.working with commit := .rolledBack }) := by
    refine ⟨by decide, fun _ _ _ applied => ?_⟩
    rcases applied with takes | applies
    · exact absurd rfl takes.2.2.2
    · exact absurd rfl applies.2.2.2.1
  have second : SafeStep (.start true [])
      [.chunk lastWord { Calls.working with commit := .rolledBack }] (.finalize .working) := by
    refine ⟨by decide, fun _ _ => ⟨fun _ => ⟨rfl, fun _ _ => rfl⟩, rfl, rfl, fun _ => rfl⟩⟩
  exact eachStep_concat.mpr ⟨eachStep_concat.mpr ⟨eachStep_nil, first⟩, second⟩

/-- The message cannot be read after the commit, and `finalize` is invoked again. -/
def failedHook : List TurnOp :=
  [.chunk lastWord { Calls.working with getMessage := false }, .finalize .working]

/-- **The block is stored twice.** -/
theorem failed_hook_repeats : (storedBy (.start true []) failedHook).map ContentRow.source =
        [.block 0 ⟨"text", "hi", none, none⟩, .block 0 ⟨"text", "hi", none, none⟩] ∧
      ¬StoredOnce (.start true []) failedHook := by
  have twice : (storedBy (.start true []) failedHook).map ContentRow.source =
      [.block 0 ⟨"text", "hi", none, none⟩, .block 0 ⟨"text", "hi", none, none⟩] := by decide
  refine ⟨twice, fun stored => ?_⟩
  have keys := stored.once
  have same : (storedBy (.start true []) failedHook).map (fun row => row.source.key) =
      ((storedBy (.start true []) failedHook).map ContentRow.source).map Source.key := by
    rw [List.map_map]
    rfl
  rw [same, twice] at keys
  revert keys
  decide

end Ziee.Chat
