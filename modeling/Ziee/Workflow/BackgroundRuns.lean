/-
**The guarded insert of a background run** (`repository.rs`, its callers in
`background_mcp/tools.rs`).

A conversation spawns background runs. Each spawn is one transaction: it takes the conversation's
advisory lock, looks for an identical run, counts the conversation's active runs, inserts its row
and commits. The runs that are there end on their own, between any two statements.

* `insertBackgroundRunGuarded` — the transaction, statement by statement.
* `Database` — the committed rows, the open transactions and the advisory locks.
* `Activity` — a spawn, a status that is written, a transaction that is dropped; `spawning` is the
  machine.
-/

import Ziee.Library.Histories
import Ziee.Library.RowOrder
import Ziee.Scheduler.Schedule
import Ziee.Workflow.RunStore

namespace Ziee.Workflow.Background

open PortProgram Threads RowOrder
open Ziee.Agent (Uuid)
open Ziee.Scheduler (AppError Instant seconds)

inductive JobKind
  | workflow
  | sandboxExec
  | subAgent
  deriving DecidableEq, Repr

/-- `CreateBackgroundRun`; `J` is the type of `jsonb`, whose equality is the database's. -/
structure CreateBackgroundRun (J : Type) where
  jobKind : JobKind
  conversationId : Option Uuid
  userId : Uuid
  modelId : Option Uuid
  sandboxFlavor : Option String
  invocationSource : String
  inputsJson : J

/-- A row of `workflow_runs`. -/
structure BackgroundRun (J : Type) where
  id : Uuid
  jobKind : JobKind
  conversationId : Option Uuid
  userId : Uuid
  modelId : Option Uuid
  sandboxFlavor : Option String
  invocationSource : String
  inputsJson : J
  status : WorkflowRunStatus
  createdAt : Instant
  updatedAt : Instant

variable {J : Type} [DecidableEq J]

namespace BackgroundRun

/-- `status IN ('pending','running','waiting','resumable')`. -/
def isActive (run : BackgroundRun J) : Bool :=
  match run.status with
  | .pending | .running | .waiting | .resumable => true
  | .completed | .failed | .cancelled => false

/-- `status IN ('completed','failed') AND updated_at > now() - …`. -/
def recentlyEnded (now : Instant) (dedupWindowSecs : Int) (run : BackgroundRun J) : Bool :=
  (run.status = .completed || run.status = .failed) && now - seconds dedupWindowSecs < run.updatedAt

def identical (conversationId : Uuid) (request : CreateBackgroundRun J) (run : BackgroundRun J) :
    Bool :=
  run.conversationId = some conversationId && run.userId = request.userId &&
    run.jobKind = request.jobKind && run.inputsJson = request.inputsJson

def activeIn (conversationId : Uuid) (run : BackgroundRun J) : Bool :=
  run.conversationId = some conversationId && run.jobKind != .workflow && run.isActive

/-- The row that the `INSERT` writes. -/
def ofRequest (request : CreateBackgroundRun J) (id : Uuid) (now : Instant) : BackgroundRun J where
  id := id
  jobKind := request.jobKind
  conversationId := request.conversationId
  userId := request.userId
  modelId := request.modelId
  sandboxFlavor := request.sandboxFlavor
  invocationSource := request.invocationSource
  inputsJson := request.inputsJson
  status := .pending
  createdAt := now
  updatedAt := now

/-- `mark_status` on the row: a terminal run stays as it is, but for a cancel that is repeated. -/
def marked (status : WorkflowRunStatus) (now : Instant) (run : BackgroundRun J) : BackgroundRun J :=
  if run.status.isTerminal = false ∨ (status = .cancelled ∧ run.status = .cancelled) then
    { run with status := status, updatedAt := now }
  else run

end BackgroundRun

/-! ### The transaction -/

inductive GuardedBackgroundInsert (J : Type)
  | inserted (run : BackgroundRun J)
  | duplicate (id : Uuid)
  | overCap (active : Nat)

/-- Nothing was spawned. -/
def GuardedBackgroundInsert.isRefusal : GuardedBackgroundInsert J → Bool
  | .inserted _ => false
  | .duplicate _ | .overCap _ => true

/-- The statements of a transaction, which its handle names; a `mark_status` is one of its own. -/
inductive SpawnQuery (J : Type)
  | beginTx
  | advisoryXactLock (tx : Nat) (conversationId : Uuid)
  | selectIdentical (tx : Nat) (conversationId : Uuid) (request : CreateBackgroundRun J)
      (dedupWindowSecs : Int)
  | countActive (tx : Nat) (conversationId userId : Uuid)
  | insertRun (tx : Nat) (request : CreateBackgroundRun J)
  | commit (tx : Nat)
  | rollback (tx : Nat)
  | markStatus (id : Uuid) (status : WorkflowRunStatus)

abbrev SpawnQuery.Result : SpawnQuery J → Type
  | .beginTx => Nat
  | .advisoryXactLock _ _ => Unit
  | .selectIdentical _ _ _ _ => Option Uuid
  | .countActive _ _ _ => Nat
  | .insertRun _ _ => BackgroundRun J
  | .commit _ => Unit
  | .rollback _ => Unit
  | .markStatus _ _ => Unit

abbrev SpawnQuery.Answer (query : SpawnQuery J) : Type := Except AppError query.Result

abbrev spawnPorts (J : Type) : Interface := ⟨SpawnQuery J, SpawnQuery.Answer⟩

abbrev Spawning (J α : Type) : Type := Program (spawnPorts J) AppError α

abbrev SpawnEvent (J : Type) : Type := Event (spawnPorts J)

/-- A statement, and the `?` behind it. -/
def statement (query : SpawnQuery J) : Spawning J query.Result :=
  Program.attempt (I := spawnPorts J) query id

def insertAndCommit (tx : Nat) (request : CreateBackgroundRun J) :
    Spawning J (GuardedBackgroundInsert J) := do
  let row ← statement (.insertRun tx request)
  statement (.commit tx)
  pure (.inserted row)

def refuse (tx : Nat) (refused : GuardedBackgroundInsert J) :
    Spawning J (GuardedBackgroundInsert J) := do
  statement (.commit tx)
  pure refused

def insertUnderCap (tx : Nat) (conversationId : Uuid) (request : CreateBackgroundRun J)
    (maxActive : Int) : Spawning J (GuardedBackgroundInsert J) := do
  let active ← statement (.countActive tx conversationId request.userId)
  if maxActive ≤ active then refuse tx (.overCap active) else insertAndCommit tx request

/-- What becomes of the identical run that was looked for. -/
def settle (tx : Nat) (conversationId : Uuid) (request : CreateBackgroundRun J) (maxActive : Int) :
    Option Uuid → Spawning J (GuardedBackgroundInsert J)
  | some id => refuse tx (.duplicate id)
  | none => insertUnderCap tx conversationId request maxActive

def guardedInsert (conversationId : Uuid) (request : CreateBackgroundRun J)
    (maxActive dedupWindowSecs : Int) : Spawning J (GuardedBackgroundInsert J) := do
  let tx ← statement .beginTx
  statement (.advisoryXactLock tx conversationId)
  let existing ← statement (.selectIdentical tx conversationId request dedupWindowSecs)
  settle tx conversationId request maxActive existing

def insertBackgroundRunGuarded (request : CreateBackgroundRun J) (maxActive dedupWindowSecs : Int) :
    Spawning J (GuardedBackgroundInsert J) :=
  if request.jobKind = .workflow then
    .fail (.internalError
      "insert_background_run_guarded: 'workflow' kind requires a bundle — use insert_run")
  else match request.conversationId with
    | none => .fail (.internalError
        "insert_background_run_guarded: a conversation_id is required to guard a spawn")
    | some conversationId => guardedInsert conversationId request maxActive dedupWindowSecs

/-! ### The database -/

/-- An open transaction: `now()` is the instant it began at, and its row is its own until it
commits. -/
structure Transaction (J : Type) where
  startedAt : Instant
  inserted : Option (BackgroundRun J)

structure Database (J : Type) where
  clock : Instant
  /-- The committed rows. -/
  rows : List (BackgroundRun J)
  transactions : Nat → Option (Transaction J)
  nextTx : Nat
  /-- Who holds an advisory lock, by the lock's key. -/
  holder : Int → Option Nat

namespace Database

def start (clock : Instant) (rows : List (BackgroundRun J)) : Database J :=
  ⟨clock, rows, fun _ => none, 0, fun _ => none⟩

def beginTx (db : Database J) (now : Instant) : Database J :=
  { db with
    clock := now
    transactions := Function.update db.transactions db.nextTx (some ⟨now, none⟩)
    nextTx := db.nextTx + 1 }

def lock (db : Database J) (key : Int) (tx : Nat) : Database J :=
  { db with holder := Function.update db.holder key (some tx) }

def insert (db : Database J) (tx : Nat) (started : Instant) (row : BackgroundRun J) : Database J :=
  { db with transactions := Function.update db.transactions tx (some ⟨started, some row⟩) }

/-- A transaction ends: its locks are released. -/
def close (db : Database J) (tx : Nat) : Database J :=
  { db with
    transactions := Function.update db.transactions tx none
    holder := fun key => (db.holder key).filter (· ≠ tx) }

def commit (db : Database J) (tx : Nat) (transaction : Transaction J) : Database J :=
  { db.close tx with rows := db.rows ++ transaction.inserted.toList }

def markStatus (db : Database J) (id : Uuid) (status : WorkflowRunStatus) (now : Instant) :
    Database J :=
  { db with
    clock := now
    rows := db.rows.map fun run => if run.id = id then run.marked status now else run }

end Database

/-- The rows of the dedup `SELECT`. -/
def dedupRows (conversationId : Uuid) (request : CreateBackgroundRun J) (now : Instant)
    (dedupWindowSecs : Int) (rows : List (BackgroundRun J)) : List (BackgroundRun J) :=
  rows.filter fun run => run.identical conversationId request &&
    (run.isActive || run.recentlyEnded now dedupWindowSecs)

/-- `ORDER BY created_at DESC LIMIT 1`. -/
def newest (rows : List (BackgroundRun J)) : Option Uuid :=
  (orderByDesc BackgroundRun.createdAt rows).head?.map BackgroundRun.id

def activeCount (conversationId userId : Uuid) (rows : List (BackgroundRun J)) : Nat :=
  (rows.filter fun run => run.activeIn conversationId && run.userId = userId).length

/-- **What a statement may answer**; `lockKey` is `hashtextextended` of a conversation's id, which
may give two of them one key. A transaction reads before it has a row of its own. -/
inductive Answers (lockKey : Uuid → Int) : Database J → SpawnEvent J → Database J → Prop
  | begins {db : Database J} {now : Instant} : db.clock ≤ now →
      Answers lockKey db ⟨.beginTx, .ok db.nextTx⟩ (db.beginTx now)
  | locks {db : Database J} {tx : Nat} {conversationId : Uuid} : (db.transactions tx).isSome →
      (∀ other, db.holder (lockKey conversationId) = some other → other = tx) →
      Answers lockKey db ⟨.advisoryXactLock tx conversationId, .ok ()⟩
        (db.lock (lockKey conversationId) tx)
  | selects {db : Database J} {tx : Nat} {transaction : Transaction J} {conversationId : Uuid}
      {request : CreateBackgroundRun J} {dedupWindowSecs : Int} {scanned : List (BackgroundRun J)}
      {found : Option Uuid} : db.transactions tx = some transaction → scanned.Perm
        (dedupRows conversationId request transaction.startedAt dedupWindowSecs db.rows) →
      newest scanned = found →
      Answers lockKey db ⟨.selectIdentical tx conversationId request dedupWindowSecs, .ok found⟩ db
  | counts {db : Database J} {tx : Nat} {transaction : Transaction J}
    {conversationId userId : Uuid} : db.transactions tx = some transaction →
      Answers lockKey db ⟨.countActive tx conversationId userId,
        .ok (activeCount conversationId userId db.rows)⟩ db
  | inserts {db : Database J} {tx : Nat} {transaction : Transaction J}
      {request : CreateBackgroundRun J} {id : Uuid} : db.transactions tx = some transaction →
      (∀ run ∈ db.rows, run.id ≠ id) → Answers lockKey db
        ⟨.insertRun tx request, .ok (.ofRequest request id transaction.startedAt)⟩
        (db.insert tx transaction.startedAt (.ofRequest request id transaction.startedAt))
  /-- What is written is written, whether or not the answer arrives. -/
  | commits {db : Database J} {tx : Nat} {transaction : Transaction J}
    {answer : Except AppError Unit} : db.transactions tx = some transaction →
      Answers lockKey db ⟨.commit tx, answer⟩ (db.commit tx transaction)
  | rollsBack {db : Database J} {tx : Nat} : Answers lockKey db ⟨.rollback tx, .ok ()⟩ (db.close tx)
  | marks {db : Database J} {id : Uuid} {status : WorkflowRunStatus} {now : Instant}
      {answer : Except AppError Unit} : db.clock ≤ now →
      Answers lockKey db ⟨.markStatus id status, answer⟩ (db.markStatus id status now)
  | fails {db : Database J} {query : SpawnQuery J} {error : AppError} :
      Answers lockKey db ⟨query, .error error⟩ db

/-! ### The system -/

/-- What happens to a conversation's runs. -/
inductive Activity (J : Type)
  | spawn (request : CreateBackgroundRun J) (maxActive dedupWindowSecs : Int)
  | markStatus (id : Uuid) (status : WorkflowRunStatus)
  /-- A transaction that is dropped before it commits. -/
  | drop (tx : Nat)

def Activity.program : Activity J → Spawning J (Option (GuardedBackgroundInsert J))
  | .spawn request maxActive dedupWindowSecs => do
    let done ← insertBackgroundRunGuarded request maxActive dedupWindowSecs
    pure (some done)
  | .markStatus id status => do
    statement (.markStatus id status)
    pure none
  | .drop tx => do
    statement (.rollback tx)
    pure none

/-- The machine whose threads spawn and complete runs. -/
def spawning (lockKey : Uuid → Int) :
    Machine (spawnPorts J) AppError (Option (GuardedBackgroundInsert J)) (Database J) :=
  ⟨Answers lockKey, fun _ => []⟩

def Activity.config (activities : List (Activity J)) (clock : Instant)
    (rows : List (BackgroundRun J)) :
    Config (spawnPorts J) AppError (Option (GuardedBackgroundInsert J)) (Database J) :=
  ⟨.start clock rows, activities.map Activity.program⟩

/-! ### One environment, computed -/

/-- The environment in which every statement succeeds, unless it would have to wait. -/
def Database.answer (lockKey : Uuid → Int) (newId : Nat → Uuid) (db : Database J) :
    (query : SpawnQuery J) → query.Answer × Database J
  | .beginTx => (.ok db.nextTx, db.beginTx db.clock)
  | .advisoryXactLock tx conversationId =>
    if (db.transactions tx).isSome ∧ ∀ other ∈ db.holder (lockKey conversationId), other = tx then
      (.ok (), db.lock (lockKey conversationId) tx)
    else (.error (.internalError "lock timeout"), db)
  | .selectIdentical tx conversationId request dedupWindowSecs =>
    match db.transactions tx with
    | some transaction => (.ok (newest (dedupRows conversationId request transaction.startedAt
        dedupWindowSecs db.rows)), db)
    | none => (.error (.internalError "no transaction"), db)
  | .countActive tx conversationId userId =>
    match db.transactions tx with
    | some _ => (.ok (activeCount conversationId userId db.rows), db)
    | none => (.error (.internalError "no transaction"), db)
  | .insertRun tx request =>
    match db.transactions tx with
    | some transaction =>
      let row := BackgroundRun.ofRequest request (newId db.rows.length) transaction.startedAt
      if ∀ run ∈ db.rows, run.id ≠ row.id then
        (.ok row, db.insert tx transaction.startedAt row)
      else (.error (.internalError "duplicate key"), db)
    | none => (.error (.internalError "no transaction"), db)
  | .commit tx =>
    match db.transactions tx with
    | some transaction => (.ok (), db.commit tx transaction)
    | none => (.error (.internalError "no transaction"), db)
  | .rollback tx => (.ok (), db.close tx)
  | .markStatus id status => (.ok (), db.markStatus id status db.clock)

theorem Database.answers_answer (lockKey : Uuid → Int) (newId : Nat → Uuid) (db : Database J)
    (query : SpawnQuery J) : Answers lockKey db ⟨query, (db.answer lockKey newId query).1⟩
      (db.answer lockKey newId query).2 := by
  cases query with
  | beginTx => exact .begins le_rfl
  | advisoryXactLock tx conversationId =>
    unfold Database.answer
    dsimp only
    split
    · rename_i free
      exact .locks free.1 fun other held => free.2 other held
    · exact .fails
  | selectIdentical tx conversationId request dedupWindowSecs =>
    unfold Database.answer
    dsimp only
    split
    · rename_i transaction found
      exact .selects found (List.Perm.refl _) rfl
    · exact .fails
  | countActive tx conversationId userId =>
    unfold Database.answer
    dsimp only
    split
    · rename_i transaction found
      exact .counts found
    · exact .fails
  | insertRun tx request =>
    unfold Database.answer
    dsimp only
    split
    · rename_i transaction found
      split
      · rename_i fresh
        exact .inserts found fresh
      · exact .fails
    · exact .fails
  | commit tx =>
    unfold Database.answer
    dsimp only
    split
    · rename_i transaction found
      exact .commits found
    · exact .fails
  | rollback tx => exact .rollsBack
  | markStatus id status => exact .marks le_rfl

end Ziee.Workflow.Background
