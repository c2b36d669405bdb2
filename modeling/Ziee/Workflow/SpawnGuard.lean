/-
**The spawn guard holds in every interleaving** (`insert_background_run_guarded`).

Over any number of spawns, completions and dropped transactions, no conversation has two active runs
with the same kind and inputs, and none has more active runs than the cap.

* `specs_kept` — while a transaction holds a conversation's lock, the active runs of the
  conversation only become fewer.
* `background_guarded` — **the whole system**; a spawn is refused at a moment at which an identical
  run is active, or completed or failed within the window, or the cap is reached.
-/

import Ziee.Workflow.BackgroundRuns

set_option linter.unusedSectionVars false

namespace Ziee.Workflow.Background

open PortProgram Threads RowOrder
open Ziee.Agent (Uuid)
open Ziee.Scheduler (AppError Instant seconds)

variable {J : Type} [DecidableEq J]

def activeSpecs (conversationId : Uuid) (rows : List (BackgroundRun J)) : List (JobKind × J) :=
  (rows.filter fun run => run.activeIn conversationId).map fun run => (run.jobKind, run.inputsJson)

/-- **The guard holds**: no two active runs of a conversation have one spec, and there are at most
so many. -/
def Guarded (cap : Nat) (rows : List (BackgroundRun J)) : Prop :=
  ∀ conversationId, (activeSpecs conversationId rows).Nodup ∧
    (activeSpecs conversationId rows).length ≤ cap

def Owned (owner : Uuid → Uuid) (rows : List (BackgroundRun J)) : Prop :=
  ∀ run ∈ rows, ∀ conversationId, run.conversationId = some conversationId →
    run.userId = owner conversationId

section Rows

variable {conversationId : Uuid} {rows : List (BackgroundRun J)} {run : BackgroundRun J}
  {owner : Uuid → Uuid} {request : CreateBackgroundRun J} {id : Uuid} {status : WorkflowRunStatus}
  {now : Instant}

variable {more scanned : List (BackgroundRun J)} {transaction : Transaction J}
  {row : BackgroundRun J}

theorem activeSpecs_append : activeSpecs conversationId (rows ++ more) =
      activeSpecs conversationId rows ++ activeSpecs conversationId more := by
  unfold activeSpecs
  rw [List.filter_append, List.map_append]

theorem activeSpecs_other (other : run.conversationId ≠ some conversationId) :
    activeSpecs conversationId [run] = [] := by
  simp [activeSpecs, BackgroundRun.activeIn, other]

theorem activeSpecs_single :
    (activeSpecs conversationId [run]).Sublist [(run.jobKind, run.inputsJson)] :=
  List.filter_sublist.map _

theorem isActive_eq : run.isActive = !run.status.isTerminal := by
  unfold BackgroundRun.isActive WorkflowRunStatus.isTerminal
  cases run.status <;> rfl

theorem marked_activeIn (active : (run.marked status now).activeIn conversationId = true) :
    run.activeIn conversationId = true := by
  unfold BackgroundRun.marked at active
  split at active
  · rename_i changes
    simp only [BackgroundRun.activeIn, Bool.and_eq_true, isActive_eq, Bool.not_eq_true'] at active ⊢
    rcases changes with running | ⟨rfl, -⟩
    · exact ⟨active.1, running⟩
    · cases active.2
  · exact active

theorem marked_spec : ((run.marked status now).jobKind, (run.marked status now).inputsJson) =
    (run.jobKind, run.inputsJson) := by
  unfold BackgroundRun.marked
  split
  · rfl
  · rfl

theorem specs_markStatus {db : Database J} :
    (activeSpecs conversationId (db.markStatus id status now).rows).Sublist
      (activeSpecs conversationId db.rows) := by
  show (activeSpecs conversationId (db.rows.map fun run =>
    if run.id = id then run.marked status now else run)).Sublist _
  induction db.rows with
  | nil => exact List.Sublist.refl _
  | cons run rows ih =>
    rw [List.map_cons, ← List.singleton_append, ← List.singleton_append (l := rows),
      activeSpecs_append, activeSpecs_append]
    refine List.Sublist.append ?_ ih
    by_cases same : run.id = id
    · rw [if_pos same]
      by_cases active : (run.marked status now).activeIn conversationId = true
      · simp [activeSpecs, active, marked_activeIn active, marked_spec]
      · simp [activeSpecs, active]
    · rw [if_neg same]

theorem owned_append (first : Owned owner rows)
    (second : Owned owner more) : Owned owner (rows ++ more) := by
  intro run member
  rcases List.mem_append.mp member with old | new
  · exact first run old
  · exact second run new

theorem owned_markStatus {db : Database J} (owned : Owned owner db.rows) :
    Owned owner (db.markStatus id status now).rows := by
  intro run member conversation here
  obtain ⟨before, old, rfl⟩ := List.mem_map.mp member
  have same : ∀ run : BackgroundRun J, (run.marked status now).userId = run.userId ∧
      (run.marked status now).conversationId = run.conversationId := by
    intro run
    unfold BackgroundRun.marked
    split
    · exact ⟨rfl, rfl⟩
    · exact ⟨rfl, rfl⟩
  by_cases hit : before.id = id
  · simp only [if_pos hit, same before] at here ⊢
    exact owned before old conversation here
  · simp only [if_neg hit] at here ⊢
    exact owned before old conversation here

/-! ### What the two reads say -/

theorem absent_of_newest {dedupWindowSecs : Int}
    (owned : Owned owner rows) (mine : request.userId = owner conversationId)
    (perm : scanned.Perm (dedupRows conversationId request now dedupWindowSecs rows))
    (none : newest scanned = none) :
    (request.jobKind, request.inputsJson) ∉ activeSpecs conversationId rows := by
  intro member
  obtain ⟨run, active, same⟩ := List.mem_map.mp member
  obtain ⟨inside, active⟩ := List.mem_filter.mp active
  obtain ⟨kind, inputs⟩ := Prod.mk.inj same
  simp only [BackgroundRun.activeIn, Bool.and_eq_true, decide_eq_true_eq] at active
  have sorted : orderByDesc BackgroundRun.createdAt scanned = [] := by
    simpa [newest] using none
  have empty : scanned = [] := (orderByDesc_perm.symm.trans (List.Perm.of_eq sorted)).eq_nil
  subst empty
  have found : run ∈ dedupRows conversationId request now dedupWindowSecs rows := by
    refine List.mem_filter.mpr ⟨inside, ?_⟩
    have user : run.userId = request.userId :=
      (owned run inside conversationId active.1.1).trans mine.symm
    simp [BackgroundRun.identical, active.1.1, user, kind, inputs, active.2]
  rw [← perm.mem_iff] at found
  cases found

theorem found_of_newest {dedupWindowSecs : Int}
    (perm : scanned.Perm (dedupRows conversationId request now dedupWindowSecs rows))
    (found : newest scanned = some id) :
    ∃ run ∈ rows, run.id = id ∧ run.identical conversationId request = true ∧
      (run.isActive = true ∨ run.recentlyEnded now dedupWindowSecs = true) := by
  obtain ⟨run, first, rfl⟩ := Option.map_eq_some_iff.mp found
  have member : run ∈ dedupRows conversationId request now dedupWindowSecs rows :=
    perm.mem_iff.mp (orderByDesc_perm.mem_iff.mp (List.mem_of_head? first))
  obtain ⟨inside, shows⟩ := List.mem_filter.mp member
  simp only [Bool.and_eq_true, Bool.or_eq_true] at shows
  exact ⟨run, inside, rfl, shows.1, shows.2⟩

theorem activeCount_owned (owned : Owned owner rows) :
    activeCount conversationId (owner conversationId) rows =
      (activeSpecs conversationId rows).length := by
  unfold activeCount activeSpecs
  rw [List.length_map]
  refine congrArg List.length (List.filter_congr fun run member => ?_)
  by_cases active : run.activeIn conversationId = true
  · have here := active
    simp only [BackgroundRun.activeIn, Bool.and_eq_true, decide_eq_true_eq] at here
    simp [active, owned run member conversationId here.1.1]
  · simp [active]

end Rows

/-! ### Open transactions -/

section Step

variable {lockKey : Uuid → Int} {db db' : Database J} {event : SpawnEvent J} {tx : Nat} {key : Int}

theorem close_found {other : Nat} (found : (db.close other).transactions tx = some transaction) :
    tx ≠ other ∧ db.transactions tx = some transaction := by
  have here : Function.update db.transactions other none tx = some transaction := found
  by_cases same : tx = other
  · simp [same] at here
  · exact ⟨same, by simpa [same] using here⟩

theorem close_isSome {other : Nat} (opened : ((db.close other).transactions tx).isSome) :
    tx ≠ other ∧ (db.transactions tx).isSome := by
  obtain ⟨transaction, found⟩ := Option.isSome_iff_exists.mp opened
  obtain ⟨ne, old⟩ := close_found found
  exact ⟨ne, Option.isSome_iff_exists.mpr ⟨transaction, old⟩⟩

theorem close_holder {other : Nat} (ne : tx ≠ other) (held : db.holder key = some tx) :
    (db.close other).holder key = some tx := by
  show (db.holder key).filter (· ≠ other) = some tx
  rw [held]
  simp [ne]

theorem Answers.opens (answers : Answers lockKey db event db')
    (opened : (db'.transactions tx).isSome) :
    (db.transactions tx).isSome ∨ (tx = db.nextTx ∧ db.nextTx < db'.nextTx) := by
  cases answers with
  | begins =>
    by_cases same : tx = db.nextTx
    · exact Or.inr ⟨same, Nat.lt_succ_self _⟩
    · left
      simpa [Database.beginTx, same] using opened
  | @inserts other transaction request id found _ =>
    left
    by_cases same : tx = other
    · rw [same, found]
      rfl
    · simpa [Database.insert, same] using opened
  | commits | rollsBack => exact Or.inl (close_isSome opened).2
  | locks | selects | counts | marks | fails => exact Or.inl opened

theorem Answers.nextTx_le (answers : Answers lockKey db event db') : db.nextTx ≤ db'.nextTx := by
  cases answers with
  | begins => exact Nat.le_succ _
  | _ => exact le_rfl

/-- **A lock is held until its transaction ends.** -/
theorem Answers.holds (answers : Answers lockKey db event db')
    (opened : (db'.transactions tx).isSome) (held : db.holder key = some tx) :
    db'.holder key = some tx := by
  cases answers with
  | @locks other conversationId _ free =>
    show Function.update db.holder (lockKey conversationId) (some other) key = some tx
    by_cases same : key = lockKey conversationId
    · subst same
      rw [Function.update_self, free tx held]
    · rwa [Function.update_of_ne same]
  | commits | rollsBack => exact close_holder (close_isSome opened).1 held
  | begins | selects | counts | inserts | marks | fails => exact held

end Step

/-! ### What the threads were answered -/

def Said (log : List (Nat × SpawnEvent J)) (event : SpawnEvent J) : Prop :=
  ∃ thread, (thread, event) ∈ log

abbrev gotLock (tx : Nat) (conversationId : Uuid) : SpawnEvent J :=
  ⟨.advisoryXactLock tx conversationId, (.ok () : Except AppError Unit)⟩

abbrev foundNone (tx : Nat) (conversationId : Uuid) (request : CreateBackgroundRun J)
    (dedupWindowSecs : Int) : SpawnEvent J :=
  ⟨.selectIdentical tx conversationId request dedupWindowSecs,
    (.ok none : Except AppError (Option Uuid))⟩

abbrev counted (tx : Nat) (conversationId userId : Uuid) (active : Nat) : SpawnEvent J :=
  ⟨.countActive tx conversationId userId, (.ok active : Except AppError Nat)⟩

/-- **What a thread may ask**: it reads a conversation whose lock it got, and inserts when it has
found no identical run and counted fewer than the cap. -/
def SpawnRule (owner : Uuid → Uuid) (cap : Nat) (past : List (SpawnEvent J)) : SpawnEvent J → Prop
  | ⟨.selectIdentical tx conversationId request _, _⟩ =>
    gotLock tx conversationId ∈ past ∧ request.userId = owner conversationId
  | ⟨.countActive tx conversationId userId, _⟩ =>
    gotLock tx conversationId ∈ past ∧ userId = owner conversationId
  | ⟨.insertRun tx request, _⟩ => ∃ conversationId dedupWindowSecs active,
    request.conversationId = some conversationId ∧ request.userId = owner conversationId ∧
      active < cap ∧ gotLock tx conversationId ∈ past ∧
      foundNone tx conversationId request dedupWindowSecs ∈ past ∧
      counted tx conversationId (owner conversationId) active ∈ past
  | _ => True

/-- **A row that waits for its commit** was inserted when the guard allowed it. -/
def Cleared (owner : Uuid → Uuid) (cap : Nat) (log : List (Nat × SpawnEvent J)) (tx : Nat)
    (row : BackgroundRun J) : Prop :=
  ∃ conversationId request dedupWindowSecs active, row.conversationId = some conversationId ∧
    row.userId = owner conversationId ∧ row.jobKind = request.jobKind ∧
    row.inputsJson = request.inputsJson ∧ active < cap ∧ Said log (gotLock tx conversationId) ∧
    Said log (foundNone tx conversationId request dedupWindowSecs) ∧
    Said log (counted tx conversationId (owner conversationId) active)

/-- **What the open transactions were answered is still true**, and the guard holds. -/
structure Locked (lockKey : Uuid → Int) (owner : Uuid → Uuid) (cap : Nat)
    (log : List (Nat × SpawnEvent J)) (db : Database J) : Prop where
  owned : Owned owner db.rows
  fresh : ∀ tx, (db.transactions tx).isSome → tx < db.nextTx
  begun : ∀ tx conversationId, Said log (gotLock tx conversationId) → tx < db.nextTx
  held : ∀ tx conversationId, Said log (gotLock tx conversationId) →
    (db.transactions tx).isSome → db.holder (lockKey conversationId) = some tx
  absent : ∀ tx conversationId request dedupWindowSecs,
    Said log (foundNone tx conversationId request dedupWindowSecs) →
    Said log (gotLock tx conversationId) ∧ ((db.transactions tx).isSome →
      (request.jobKind, request.inputsJson) ∉ activeSpecs conversationId db.rows)
  counts : ∀ tx conversationId userId active, Said log (counted tx conversationId userId active) →
    Said log (gotLock tx conversationId) ∧ ((db.transactions tx).isSome →
      (activeSpecs conversationId db.rows).length ≤ active)
  cleared : ∀ tx transaction row, db.transactions tx = some transaction →
    transaction.inserted = some row → Cleared owner cap log tx row
  guarded : Guarded cap db.rows

section Said

variable {log : List (Nat × SpawnEvent J)} {thread : Nat} {event other : SpawnEvent J}

theorem Said.append (said : Said log event) : Said (log ++ [(thread, other)]) event := by
  obtain ⟨who, member⟩ := said
  exact ⟨who, List.mem_append_left _ member⟩

theorem said_concat (said : Said (log ++ [(thread, other)]) event) :
    Said log event ∨ event = other := by
  obtain ⟨who, member⟩ := said
  rcases List.mem_append.mp member with old | new
  · exact Or.inl ⟨who, old⟩
  · exact Or.inr (Prod.mk.inj (List.mem_singleton.mp new)).2

theorem Cleared.append {owner : Uuid → Uuid} {cap tx : Nat}
    (cleared : Cleared owner cap log tx row) :
    Cleared owner cap (log ++ [(thread, other)]) tx row := by
  obtain ⟨conversationId, request, window, active, here, mine, kind, inputs, below, lock, none,
    count⟩ :=
    cleared
  exact ⟨conversationId, request, window, active, here, mine, kind, inputs, below, lock.append,
    none.append, count.append⟩

end Said

section Keeps

variable {lockKey : Uuid → Int} {owner : Uuid → Uuid} {cap : Nat} {log : List (Nat × SpawnEvent J)}
  {db db' : Database J} {thread tx : Nat} {event : SpawnEvent J} {conversationId : Uuid}
  {past : List (SpawnEvent J)}

theorem Locked.start {clock : Instant} {rows : List (BackgroundRun J)} (owned : Owned owner rows)
    (guarded : Guarded cap rows) : Locked lockKey owner cap [] (.start clock rows) where
  owned := owned
  fresh := by simp [Database.start]
  begun := by simp [Said]
  held := by simp [Said]
  absent := by simp [Said]
  counts := by simp [Said]
  cleared := by simp [Database.start]
  guarded := guarded

theorem Locked.opened (locked : Locked lockKey owner cap log db)
    (answers : Answers lockKey db event db') (lock : Said log (gotLock tx conversationId))
    (opened : (db'.transactions tx).isSome) : (db.transactions tx).isSome := by
  rcases answers.opens opened with old | ⟨rfl, -⟩
  · exact old
  · exact absurd (locked.begun _ _ lock) (lt_irrefl _)

theorem Locked.alone {other : Nat} (locked : Locked lockKey owner cap log db)
    (first : Said log (gotLock tx conversationId))
    (second : Said log (gotLock other conversationId))
    (one : (db.transactions tx).isSome) (two : (db.transactions other).isSome) : tx = other :=
  Option.some.inj ((locked.held _ _ first one).symm.trans (locked.held _ _ second two))

/-- **While a transaction holds a conversation's lock**, the active runs of the conversation only
become fewer. -/
theorem Locked.specs_kept (locked : Locked lockKey owner cap log db)
    (answers : Answers lockKey db event db') (lock : Said log (gotLock tx conversationId))
    (opened : (db'.transactions tx).isSome) :
    (activeSpecs conversationId db'.rows).Sublist (activeSpecs conversationId db.rows) := by
  have before := locked.opened answers lock opened
  cases answers with
  | @commits other transaction answer found =>
    have ne : tx ≠ other := (close_isSome opened).1
    show (activeSpecs conversationId (db.rows ++ transaction.inserted.toList)).Sublist _
    cases inserted : transaction.inserted with
    | none => simp
    | some row =>
      obtain ⟨there, request, window, active, here, -, -, -, -, lock', -⟩ :=
        locked.cleared other transaction row found inserted
      have apart : row.conversationId ≠ some conversationId := by
        intro same
        rw [here] at same
        cases same
        exact ne (locked.alone lock lock' before (by rw [found]; rfl))
      rw [activeSpecs_append, Option.toList_some, activeSpecs_other apart, List.append_nil]
  | marks => exact specs_markStatus
  | begins | locks | selects | counts | inserts | rollsBack | fails => exact List.Sublist.refl _

/-- **The guard holds after a commit**: what was read under the lock is still true. -/
theorem Locked.committed (locked : Locked lockKey owner cap log db)
    (opened : (db.transactions tx).isSome) (cleared : Cleared owner cap log tx row) :
    Guarded cap (db.rows ++ [row]) := by
  obtain ⟨there, request, window, active, here, mine, kind, inputs, below, lock, none, count⟩ :=
    cleared
  intro conversationId
  rw [activeSpecs_append]
  by_cases same : conversationId = there
  · subst same
    have absent := (locked.absent _ _ _ _ none).2 opened
    have few := (locked.counts _ _ _ _ count).2 opened
    have one : (activeSpecs conversationId [row]).Sublist [(request.jobKind, request.inputsJson)] :=
      kind ▸ inputs ▸ activeSpecs_single
    have distinct := (locked.guarded conversationId).1
    refine ⟨distinct.append ((List.nodup_singleton _).sublist one) ?_, ?_⟩
    · intro spec old new
      exact absent (List.mem_singleton.mp (one.subset new) ▸ old)
    · have length := one.length_le
      rw [List.length_singleton] at length
      rw [List.length_append]
      omega
  · have apart : row.conversationId ≠ some conversationId := by
      rw [here]
      exact fun equal => same (Option.some.inj equal).symm
    rw [activeSpecs_other apart, List.append_nil]
    exact locked.guarded conversationId

theorem Locked.guarded_step (locked : Locked lockKey owner cap log db)
    (answers : Answers lockKey db event db') : Guarded cap db'.rows := by
  cases answers with
  | @commits other transaction answer found =>
    show Guarded cap (db.rows ++ transaction.inserted.toList)
    cases inserted : transaction.inserted with
    | none =>
      rw [Option.toList_none, List.append_nil]
      exact locked.guarded
    | some row =>
      exact locked.committed (by rw [found]; rfl)
        (locked.cleared other transaction row found inserted)
  | marks =>
    intro conversationId
    obtain ⟨distinct, few⟩ := locked.guarded conversationId
    exact ⟨distinct.sublist specs_markStatus, specs_markStatus.length_le.trans few⟩
  | begins | locks | selects | counts | inserts | rollsBack | fails => exact locked.guarded

theorem Locked.owned_step (locked : Locked lockKey owner cap log db)
    (answers : Answers lockKey db event db') : Owned owner db'.rows := by
  cases answers with
  | @commits other transaction answer found =>
    refine owned_append locked.owned fun row member conversation there => ?_
    obtain ⟨here, request, window, active, same, mine, -⟩ :=
      locked.cleared other transaction row found (Option.mem_toList.mp member)
    rw [same] at there
    exact Option.some.inj there ▸ mine
  | marks => exact owned_markStatus locked.owned
  | begins | locks | selects | counts | inserts | rollsBack | fails => exact locked.owned

theorem Locked.cleared_step (locked : Locked lockKey owner cap log db)
    (answers : Answers lockKey db event db') (rule : SpawnRule owner cap past event)
    (knows : ∀ event ∈ past, Said log event)
    (found : db'.transactions tx = some transaction) (inserted : transaction.inserted = some row) :
    Cleared owner cap log tx row := by
  cases answers with
  | @begins now =>
    by_cases same : tx = db.nextTx
    · have fresh : transaction = ⟨now, none⟩ := by
        simpa [Database.beginTx, same, eq_comm] using found
      rw [fresh] at inserted
      cases inserted
    · refine locked.cleared tx transaction row ?_ inserted
      simpa [Database.beginTx, same] using found
  | @inserts other began request id open' _ =>
    by_cases same : tx = other
    · subst same
      have mine : transaction =
          ⟨began.startedAt, some (BackgroundRun.ofRequest request id began.startedAt)⟩ := by
        simpa [Database.insert, eq_comm] using found
      rw [mine] at inserted
      obtain rfl := Option.some.inj inserted
      obtain ⟨conversationId, window, active, here, user, below, lock, none, count⟩ := rule
      exact ⟨conversationId, request, window, active, here, user, rfl, rfl, below, knows _ lock,
        knows _ none, knows _ count⟩
    · refine locked.cleared tx transaction row ?_ inserted
      simpa [Database.insert, same] using found
  | commits | rollsBack => exact locked.cleared tx transaction row (close_found found).2 inserted
  | locks | selects | counts | marks
  | fails => exact locked.cleared tx transaction row found inserted

/-- **Every step keeps it.** -/
theorem Locked.step (locked : Locked lockKey owner cap log db)
    (answers : Answers lockKey db event db') (rule : SpawnRule owner cap past event)
    (knows : ∀ event ∈ past, Said log event) :
    Locked lockKey owner cap (log ++ [(thread, event)]) db' where
  owned := locked.owned_step answers
  guarded := locked.guarded_step answers
  fresh := by
    intro tx opened
    rcases answers.opens opened with old | ⟨rfl, grows⟩
    · exact (locked.fresh tx old).trans_le answers.nextTx_le
    · exact grows
  begun := by
    intro tx conversationId said
    rcases said_concat said with old | rfl
    · exact (locked.begun tx conversationId old).trans_le answers.nextTx_le
    · cases answers with
      | locks open' _ => exact locked.fresh tx open'
  held := by
    intro tx conversationId said opened
    rcases said_concat said with old | rfl
    · exact answers.holds opened (locked.held tx conversationId old
        (locked.opened answers old opened))
    · cases answers with
      | locks => exact Function.update_self _ _ _
  absent := by
    intro tx conversationId request window said
    rcases said_concat said with old | rfl
    · obtain ⟨lock, absent⟩ := locked.absent tx conversationId request window old
      refine ⟨lock.append, fun opened member => ?_⟩
      exact absent (locked.opened answers lock opened)
        ((locked.specs_kept answers lock opened).subset member)
    · refine ⟨(knows _ rule.1).append, fun _ => ?_⟩
      cases answers with
      | selects _ perm none => exact absent_of_newest locked.owned rule.2 perm none
  counts := by
    intro tx conversationId userId active said
    rcases said_concat said with old | rfl
    · obtain ⟨lock, few⟩ := locked.counts tx conversationId userId active old
      refine ⟨lock.append, fun opened => ?_⟩
      exact (locked.specs_kept answers lock opened).length_le.trans
        (few (locked.opened answers lock opened))
    · refine ⟨(knows _ rule.1).append, fun _ => ?_⟩
      obtain ⟨-, rfl⟩ := rule
      cases answers with
      | counts => exact (activeCount_owned locked.owned).ge
  cleared := fun _ _ _ found inserted =>
    (locked.cleared_step answers rule knows found inserted).append

end Keeps

/-! ### What the program asks and returns -/

/-- What a spawn was answered when it returns so. -/
def Told (conversationId : Uuid) (request : CreateBackgroundRun J) (maxActive dedupWindowSecs : Int)
    (past : List (SpawnEvent J)) : GuardedBackgroundInsert J → Prop
  | .inserted _ => True
  | .duplicate id => ∃ tx, (⟨.beginTx, (.ok tx : Except AppError Nat)⟩ : SpawnEvent J) ∈ past ∧
    (⟨.selectIdentical tx conversationId request dedupWindowSecs,
      (.ok (some id) : Except AppError (Option Uuid))⟩ : SpawnEvent J) ∈ past
  | .overCap active => maxActive ≤ active ∧
    ∃ tx, counted tx conversationId request.userId active ∈ past

section Program

variable {owner : Uuid → Uuid} {cap tx : Nat} {past : List (SpawnEvent J)} {conversationId : Uuid}
  {request : CreateBackgroundRun J} {maxActive dedupWindowSecs : Int}

abbrev Keeps {α : Type} (owner : Uuid → Uuid) (cap : Nat)
    (returns : List (SpawnEvent J) → α → Prop) (past : List (SpawnEvent J))
    (program : Spawning J α) : Prop :=
  Obeys (SpawnRule owner cap) (fun _ _ => True) returns past program

theorem statement_keeps {query : SpawnQuery J}
    (rule : ∀ answer, SpawnRule owner cap past ⟨query, answer⟩) :
    Keeps owner cap (fun later value => later = past ++ [⟨query, .ok value⟩]) past
      (statement query) := by
  refine (Obeys.attempt rule fun _ _ _ => trivial).mono fun later value ends => ?_
  obtain ⟨answer, rfl, same⟩ := ends
  exact same ▸ rfl

theorem refuse_keeps {refused : GuardedBackgroundInsert J}
    (told : ∀ event, Told conversationId request maxActive dedupWindowSecs
      (past ++ [event]) refused) :
    Keeps owner cap (Told conversationId request maxActive dedupWindowSecs) past
      (refuse tx refused) := by
  refine Obeys.bind (statement_keeps fun _ => trivial) fun later done grown => ?_
  subst grown
  exact told _

theorem insertUnderCap_keeps (here : request.conversationId = some conversationId)
    (mine : request.userId = owner conversationId) (capped : maxActive ≤ cap)
    (lock : gotLock tx conversationId ∈ past)
    (none : foundNone tx conversationId request dedupWindowSecs ∈ past) :
    Keeps owner cap (Told conversationId request maxActive dedupWindowSecs) past
      (insertUnderCap tx conversationId request maxActive) := by
  refine Obeys.bind (statement_keeps fun _ => ⟨lock, mine⟩) fun past' active grown => ?_
  have count : counted tx conversationId request.userId active ∈ past' := by
    rw [grown]
    simp
  have old : ∀ event ∈ past, event ∈ past' := by
    rw [grown]
    exact fun event member => List.mem_append_left _ member
  refine Obeys.ite (fun full => ?_) (fun free => ?_)
  · exact refuse_keeps fun event => ⟨full, tx, List.mem_append_left _ count⟩
  · have below : active < cap := Int.ofNat_lt.mp ((not_le.mp free).trans_le capped)
    refine Obeys.bind (statement_keeps fun _ =>
      ⟨conversationId, dedupWindowSecs, active, here, mine,
      below, old _ lock, old _ none, mine ▸ count⟩) fun later row _ => ?_
    exact Obeys.bind (statement_keeps fun _ => trivial) fun _ _ _ => trivial

theorem guardedInsert_keeps (here : request.conversationId = some conversationId)
    (mine : request.userId = owner conversationId) (capped : maxActive ≤ cap) :
    Keeps owner cap (Told conversationId request maxActive dedupWindowSecs) []
      (guardedInsert conversationId request maxActive dedupWindowSecs) := by
  refine Obeys.bind (statement_keeps fun _ => trivial) fun past tx started => ?_
  refine Obeys.bind (statement_keeps fun _ => trivial) fun past' done locked => ?_
  have lock : gotLock tx conversationId ∈ past' := by
    rw [locked]
    simp
  have begun : (⟨.beginTx, (.ok tx : Except AppError Nat)⟩ : SpawnEvent J) ∈ past' := by
    rw [locked, started]
    simp
  refine Obeys.bind (statement_keeps fun _ => ⟨lock, mine⟩) fun later existing read => ?_
  cases existing with
  | some id =>
    refine refuse_keeps fun event => ⟨tx, ?_, ?_⟩
    · rw [read]
      simp [begun]
    · rw [read]
      simp
  | none =>
    refine insertUnderCap_keeps here mine capped ?_ ?_
    · rw [read]
      exact List.mem_append_left _ lock
    · rw [read]
      simp

/-- **A spawn keeps to the rule**, and returns as it was told. -/
theorem insertBackgroundRunGuarded_keeps
    (mine : ∀ conversationId, request.conversationId = some conversationId →
      request.userId = owner conversationId) (capped : maxActive ≤ cap) :
    Keeps owner cap (fun past done => ∃ conversationId,
      request.conversationId = some conversationId ∧
        Told conversationId request maxActive dedupWindowSecs past done) []
      (insertBackgroundRunGuarded request maxActive dedupWindowSecs) := by
  refine Obeys.ite (fun _ => trivial) (fun _ => ?_)
  cases here : request.conversationId with
  | none => exact trivial
  | some conversationId =>
    refine (guardedInsert_keeps here (mine conversationId here) capped).mono fun past done told =>
      ?_
    exact ⟨conversationId, rfl, told⟩

end Program

/-! ### The whole system -/

/-- **Why a spawn is refused**, in the state in which its thread `began` transaction `tx`: an
identical run is active, or completed or failed within the window; or there are as many active runs
as it allows. -/
def Justified (conversationId : Uuid) (request : CreateBackgroundRun J)
    (maxActive dedupWindowSecs : Int) (own : List (SpawnEvent J)) (db : Database J) :
    GuardedBackgroundInsert J → Prop
  | .inserted _ => True
  | .duplicate id => ∃ run ∈ db.rows, run.id = id ∧
    run.identical conversationId request = true ∧ (run.isActive = true ∨
      ∃ tx transaction, (⟨.beginTx, (.ok tx : Except AppError Nat)⟩ : SpawnEvent J) ∈ own ∧
        db.transactions tx = some transaction ∧
        run.recentlyEnded transaction.startedAt dedupWindowSecs = true)
  | .overCap active => maxActive ≤ active ∧ active = (activeSpecs conversationId db.rows).length

def SpawnsWithin (owner : Uuid → Uuid) (cap : Nat) (activities : List (Activity J)) : Prop :=
  ∀ request (maxActive : Int) dedupWindowSecs,
    .spawn request maxActive dedupWindowSecs ∈ activities → maxActive ≤ cap ∧
      ∀ conversationId, request.conversationId = some conversationId →
      request.userId = owner conversationId

section System

variable {lockKey : Uuid → Int} {owner : Uuid → Uuid} {cap : Nat} {activities : List (Activity J)}
  {clock : Instant} {rows : List (BackgroundRun J)} {log : List (Nat × SpawnEvent J)}
  {last : Config (spawnPorts J) AppError (Option (GuardedBackgroundInsert J)) (Database J)}

theorem program_keeps (spawns : SpawnsWithin owner cap activities) {activity : Activity J}
    (member : activity ∈ activities) : Keeps owner cap (fun _ _ => True) [] activity.program := by
  cases activity with
  | spawn request maxActive window =>
    obtain ⟨capped, mine⟩ := spawns request maxActive window member
    exact Obeys.bind (insertBackgroundRunGuarded_keeps mine capped) fun _ _ _ => trivial
  | markStatus id status =>
    exact Obeys.bind (statement_keeps fun _ => trivial) fun _ _ _ => trivial
  | drop tx => exact Obeys.bind (statement_keeps fun _ => trivial) fun _ _ _ => trivial

/-- **The invariant holds in every state that is reached.** -/
theorem locked_run (spawns : SpawnsWithin owner cap activities) (owned : Owned owner rows)
    (guarded : Guarded cap rows)
    (follows : Follows (spawning lockKey).Step (Activity.config activities clock rows) log last) :
    Locked lockKey owner cap log last.shared := by
  refine preserves_split follows (fun log config => Locked lockKey owner cap log config.shared)
    (fun before label after state state' same head locked step => ?_) (.start owned guarded)
  obtain ⟨thread, event⟩ := label
  have whole : Follows (spawning lockKey).Step (Activity.config activities clock rows)
      (before ++ (thread, event) :: []) state' :=
    Follows.append_iff.mpr ⟨state, head, Follows.singleton_iff.mpr step⟩
  obtain ⟨past, knows, rule⟩ := Machine.obeyed (SpawnRule owner cap) (fun _ _ => True)
    (fun _ _ => True) (fun program among => by
      obtain ⟨activity, member, rfl⟩ := List.mem_map.mp among
      exact program_keeps spawns member) (fun _ _ none => by cases none) whole
  cases step with
  | act _ answers => exact locked.step answers rule fun event member => knows.mem member

/-- **The spawn guard**: in every interleaving no conversation ever has two active runs of one spec,
or more active runs than the cap; and a spawn is refused only when, at a moment of its own, that is
justified. -/
theorem background_guarded (spawns : SpawnsWithin owner cap activities) (owned : Owned owner rows)
    (guarded : Guarded cap rows)
    (follows : Follows (spawning lockKey).Step (Activity.config activities clock rows) log last) :
    Guarded cap last.shared.rows ∧ ∀ thread request maxActive dedupWindowSecs done,
      activities[thread]? = some (.spawn request maxActive dedupWindowSecs) →
      last.threads[thread]? = some (.pure (some done)) → done.isRefusal = true →
      ∃ conversationId before event after middle, request.conversationId = some conversationId ∧
        log = before ++ (thread, event) :: after ∧
        Follows (spawning lockKey).Step (Activity.config activities clock rows) before middle ∧
        Justified conversationId request maxActive dedupWindowSecs (own thread log) middle.shared
          done := by
  refine ⟨(locked_run spawns owned guarded follows).guarded, ?_⟩
  intro thread request maxActive window done spawned returned refused
  obtain ⟨capped, mine⟩ := spawns request maxActive window (List.mem_of_getElem? spawned)
  have program : (Activity.config activities clock rows).threads[thread]? =
      some (Activity.spawn request maxActive window).program := by
    show (activities.map Activity.program)[thread]? = _
    rw [List.getElem?_map, spawned]
    rfl
  -- what the thread was told
  have told := Machine.returned_own (SpawnRule owner cap) (fun _ _ => True)
    (fun past outcome => ∀ done, outcome = some done → ∃ conversationId,
      request.conversationId = some conversationId ∧
        Told conversationId request maxActive window past done)
    (fun program' found => by
      rw [program] at found
      obtain rfl := Option.some.inj found
      refine Obeys.bind (insertBackgroundRunGuarded_keeps mine capped) fun past done told => ?_
      intro other same
      exact Option.some.inj same ▸ told) (List.getElem?_eq_some_iff.mp program).1 follows returned
  obtain ⟨conversationId, here, told⟩ := told done rfl
  cases done with
  | inserted run => cases refused
  | duplicate id =>
    obtain ⟨tx, begun, selected⟩ := told
    obtain ⟨before, middle, middle', after, split, head, answers, -⟩ :=
      Machine.answered_at follows (mem_own.mp selected)
    refine ⟨conversationId, before, _, after, middle, here, split, head, ?_⟩
    generalize middle'.shared = db' at answers
    cases answers with
    | @selects _ transaction _ _ _ _ _ open' perm found =>
      obtain ⟨run, inside, same, identical, shows⟩ := found_of_newest perm found
      refine ⟨run, inside, same, identical, shows.imp_right fun recent => ?_⟩
      exact ⟨tx, transaction, begun, open', recent⟩
  | overCap active =>
    obtain ⟨full, tx, count⟩ := told
    obtain ⟨before, middle, middle', after, split, head, answers, -⟩ :=
      Machine.answered_at follows (mem_own.mp count)
    refine ⟨conversationId, before, _, after, middle, here, split, head, full, ?_⟩
    generalize middle'.shared = db' at answers
    cases answers with
    | counts =>
      rw [mine conversationId here]
      exact activeCount_owned (locked_run spawns owned guarded head).owned

/-- The statements after which other rows may be committed. -/
def SpawnQuery.changes : SpawnQuery J → Bool
  | .insertRun _ _ | .markStatus _ _ => true
  | _ => false

theorem rows_still (follows : Follows (spawning lockKey).Step
      (Activity.config activities clock rows) log last)
    (still : ∀ label ∈ log, label.2.1.changes = false) : last.shared.rows = rows := by
  have start : rows = rows ∧ ∀ tx transaction,
      (Database.start clock rows).transactions tx = some transaction →
        transaction.inserted = none := ⟨rfl, by simp [Database.start]⟩
  have whole := preserves_split follows (fun _ config => config.shared.rows = rows ∧
      ∀ tx transaction, config.shared.transactions tx = some transaction →
        transaction.inserted = none)
    (fun before label after state state' same _ holds step => by
      obtain ⟨here, empty⟩ := holds
      have quiet : label.2.1.changes = false := still label (by rw [same]; simp)
      cases step with
      | @act shared shared' threads thread query next answer _ answers =>
        dsimp only at here empty quiet ⊢
        cases answers with
        | @begins now =>
          refine ⟨here, fun tx transaction found => ?_⟩
          by_cases new : tx = shared.nextTx
          · have fresh : transaction = ⟨now, none⟩ := by
              simpa [Database.beginTx, new, eq_comm] using found
            rw [fresh]
          · exact empty tx transaction (by simpa [Database.beginTx, new] using found)
        | commits found =>
          refine ⟨?_, fun tx transaction found => empty tx transaction (close_found found).2⟩
          rw [Database.commit, empty _ _ found, Option.toList_none, List.append_nil]
          exact here
        | rollsBack =>
          exact ⟨here, fun tx transaction found => empty tx transaction (close_found found).2⟩
        | inserts | marks => cases quiet
        | locks | selects | counts => exact ⟨here, empty⟩
        | fails => exact ⟨here, empty⟩) start
  exact whole.1

end System

/-! ### Two runs -/

def taskFive : CreateBackgroundRun Nat :=
  ⟨.subAgent, some 7, 1, some 3, none, "conversation", 5⟩

def completedFive : BackgroundRun Nat :=
  { BackgroundRun.ofRequest taskFive 9 0 with status := .completed }

def spawnFive : List (Activity Nat) := [.spawn taskFive 1 300]

/-- The thread of the first activity makes its steps. -/
def spawnedAlone (rows : List (BackgroundRun Nat)) :=
  (spawning fun _ => 0).execute (Database.answer (fun _ => 0) fun count => BitVec.ofNat 128 count)
    (Activity.config spawnFive (seconds 60) rows) [0, 0, 0, 0, 0, 0]

theorem spawnFive_within : SpawnsWithin (fun _ => 1) 1 spawnFive := by
  intro request maxActive window member
  obtain ⟨rfl, rfl, rfl⟩ := Activity.spawn.inj (List.mem_singleton.mp member)
  exact ⟨le_rfl, fun _ _ => rfl⟩

theorem background_guarded_five : Guarded 1 (spawnedAlone []).2.shared.rows :=
  (background_guarded spawnFive_within (show Owned (fun _ => 1) [] by simp [Owned])
    (by simp [Guarded, activeSpecs])
    ((spawning _).follows_execute (Database.answers_answer _ _) _ _)).1

/-- **A run that completed a minute ago** is reason enough, although no run is active. -/
theorem recent_run_refused : ¬∀ (lockKey : Uuid → Int) (owner : Uuid → Uuid) (cap : Nat)
    (activities : List (Activity Nat)) (clock : Instant) (rows : List (BackgroundRun Nat))
    (log : List (Nat × SpawnEvent Nat)) last, SpawnsWithin owner cap activities →
    Owned owner rows → Guarded cap rows → Follows (spawning lockKey).Step
      (Activity.config activities clock rows) log last →
    ∀ thread request maxActive dedupWindowSecs done,
      activities[thread]? = some (.spawn request maxActive dedupWindowSecs) →
      last.threads[thread]? = some (.pure (some done)) → done.isRefusal = true →
      ∃ conversationId before event after middle, request.conversationId = some conversationId ∧
        log = before ++ (thread, event) :: after ∧ Follows (spawning lockKey).Step
          (Activity.config activities clock rows) before middle ∧
        ((request.jobKind, request.inputsJson) ∈ activeSpecs conversationId middle.shared.rows ∨
          maxActive ≤ (activeSpecs conversationId middle.shared.rows).length) := by
  intro claim
  have follows := (spawning fun _ => 0).follows_execute
    (Database.answers_answer (fun _ => 0) fun count => BitVec.ofNat 128 count) [0, 0, 0, 0, 0, 0]
    (Activity.config spawnFive (seconds 60) [completedFive])
  have refused : (spawnedAlone [completedFive]).2.threads[0]? =
      some (.pure (some (.duplicate 9))) := rfl
  obtain ⟨conversation, before, event, after, middle, -, split, head, violated⟩ :=
    claim (fun _ => 0) (fun _ => 1) 1 spawnFive (seconds 60) [completedFive] _ _ spawnFive_within
      (by simp [Owned, completedFive, BackgroundRun.ofRequest, taskFive])
      (by simp [Guarded, activeSpecs, BackgroundRun.activeIn, BackgroundRun.isActive,
        completedFive])
      follows 0 taskFive 1 300 _ rfl refused rfl
  have quiet : ∀ label ∈ (spawnedAlone [completedFive]).1, label.2.1.changes = false := by decide
  have same : middle.shared.rows = [completedFive] := rows_still head fun label member =>
    quiet label (split ▸ List.mem_append_left _ member)
  rw [same] at violated
  simp [activeSpecs, BackgroundRun.activeIn, BackgroundRun.isActive, completedFive] at violated

end Ziee.Workflow.Background
