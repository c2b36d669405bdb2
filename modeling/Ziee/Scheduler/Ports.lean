/-
**The ports of the scheduler and the machine behind them.**

The tick loop, the firings it spawns, the requests of the users and the retention prune are threads
over one database. Each is a program over `SchedulerQuery`: one SQL statement, the clock, a spawned
task, or a part of the server that only answers.

* `SchedulerQuery` — the questions, and what may be answered to each.
* `Answers` — what the tables make of a statement, and what they answer; any statement may fail, and
  then writes nothing.
-/

import Ziee.Library.Threads
import Ziee.Scheduler.Store

namespace Ziee.Scheduler

open PortProgram Threads Ziee.Providers Ziee.Agent

/-- A successful target run. -/
structure RawResult where
  text : String
  /-- The names of the tools that were not run. -/
  skippedTools : List String
  scheduleProposal : Option SelfPacedProposal

structure GoalSettings where
  goalEvalModelId : Option Uuid
  goalSeekMaxTurns : Int

/-- Whether something a task refers to exists, and the user may use it. -/
inductive Lookup
  | workflowAccess (userId workflowId : Uuid)
  | workflowHasElicitStep (workflowId : Uuid)
  | assistant (userId assistantId : Uuid)
  | providerAccess (userId providerId : Uuid)
  | conversation (userId conversationId : Uuid)

inductive SchedulerQuery
  | now
  | settings
  | goalSettings
  | getForUser (userId id : Uuid)
  | countActiveForUser (userId : Uuid)
  | insert (userId : Uuid) (req : CreateScheduledTask) (nextRunAt : Option Instant)
  | update (userId id : Uuid) (upd : UpdateScheduledTask) (nextRunAt : Option (Option Instant))
  | delete (userId id : Uuid)
  | claimDueTasks (now : Instant) (limit : Nat)
  | execute (write : Write)
  | insertRun (run : TaskRun)
  | countScheduledRunsForTask (id : Uuid)
  | pruneRunsOlderThan (cutoff : Instant)
  | spawnFiring (task : ScheduledTask) (trigger : RunTrigger) (now : Instant)
  | runTarget (task : ScheduledTask) (trigger : RunTrigger)
  | detectChange (task : ScheduledTask) (text : String)
  | evaluateGoal (modelId userId : Uuid) (condition artifact : String)
  | lookup (lookup : Lookup)
  | modelProvider (modelId : Uuid)
  | accessibleServers (userId : Uuid)

/-- What may be answered. -/
abbrev SchedulerQuery.Answer : SchedulerQuery → Type
  | .now => Instant
  | .settings => Except AppError SchedulerAdminSettings
  | .goalSettings => Except AppError GoalSettings
  | .getForUser _ _ => Except AppError (Option ScheduledTask)
  | .countActiveForUser _ => Except AppError Nat
  | .insert _ _ _ => Except AppError ScheduledTask
  | .update _ _ _ _ => Except AppError (Option ScheduledTask)
  | .delete _ _ => Except AppError Nat
  | .claimDueTasks _ _ => Except AppError (List ScheduledTask)
  | .execute _ => Except AppError Unit
  | .insertRun _ => Except AppError Unit
  | .countScheduledRunsForTask _ => Except AppError Nat
  | .pruneRunsOlderThan _ => Except AppError Nat
  | .spawnFiring _ _ _ => Unit
  | .runTarget _ _ => Except AppError RawResult
  | .detectChange _ _ => Bool
  | .evaluateGoal _ _ _ _ => GoalVerdict
  | .lookup _ => Except AppError Bool
  | .modelProvider _ => Except AppError (Option Uuid)
  | .accessibleServers _ => Except AppError (List Uuid)

abbrev schedulerPorts : Interface := ⟨SchedulerQuery, SchedulerQuery.Answer⟩

abbrev SchedulerM (α : Type) : Type := Program schedulerPorts AppError α

abbrev SchedulerEvent : Type := Event schedulerPorts

def ask (query : SchedulerQuery) : SchedulerM query.Answer :=
  Program.perform (I := schedulerPorts) query

/-! ### The shared state -/

structure Shared where
  tasks : TaskTable
  runs : List TaskRun
  settings : SchedulerAdminSettings
  goal : GoalSettings
  clock : Instant

/-- The row a partial update leaves, which is the old one when a constraint breaks. -/
def storedUpdate (upd : UpdateScheduledTask) (nextRunAt : Option (Option Instant))
    (row : ScheduledTask) : ScheduledTask :=
  ((applyUpdate upd nextRunAt row).stored?).getD row

theorem storedUpdate_of_stored {upd : UpdateScheduledTask} {nextRunAt : Option (Option Instant)}
    {row row' : ScheduledTask} (stored : (applyUpdate upd nextRunAt row).stored? = some row') :
    storedUpdate upd nextRunAt row = row' := by
  rw [storedUpdate, stored, Option.getD_some]

@[simp] theorem storedUpdate_id (upd : UpdateScheduledTask) (nextRunAt : Option (Option Instant))
    (row : ScheduledTask) : (storedUpdate upd nextRunAt row).id = row.id := by
  cases stored : (applyUpdate upd nextRunAt row).stored? with
  | none => rw [storedUpdate, stored, Option.getD_none]
  | some row' =>
    rw [storedUpdate_of_stored stored]
    obtain ⟨name, -, -, rfl⟩ := ScheduledTask.stored?_eq_some_iff.mp stored
    rfl

def Shared.owned (shared : Shared) (userId id : Uuid) : Option ScheduledTask :=
  (shared.tasks.find id).filter fun row => row.userId = userId

def Shared.write (shared : Shared) (write : Write) : Shared :=
  { shared with tasks := shared.tasks.write write }

def Shared.update (shared : Shared) (id : Uuid) (upd : UpdateScheduledTask)
    (nextRunAt : Option (Option Instant)) : Shared :=
  { shared with
    tasks := shared.tasks.modify id (storedUpdate upd nextRunAt) (storedUpdate_id upd nextRunAt) }

def Shared.delete (shared : Shared) (id : Uuid) : Shared :=
  { shared with
    tasks := shared.tasks.erase id
    runs := shared.runs.filter fun run => run.scheduledTaskId ≠ id }

def Shared.insertRun (shared : Shared) (run : TaskRun) : Shared :=
  { shared with runs := shared.runs ++ [{ run with firedAt := toOffset run.firedAt }] }

/-- `count(*) … WHERE scheduled_task_id = $1 AND trigger <> 'run_now'`. -/
def Shared.countScheduledRuns (shared : Shared) (id : Uuid) : Nat :=
  shared.runs.countP fun run => run.scheduledTaskId = id && run.trigger ≠ .runNow

/-- `DELETE … WHERE fired_at < $1`. -/
def Shared.prune (shared : Shared) (cutoff : Instant) : Shared :=
  { shared with runs := shared.runs.filter fun run => toOffset cutoff ≤ run.firedAt }

/-! ### What may be answered -/

def SchedulerQuery.failed (error : AppError) : (query : SchedulerQuery) → Option query.Answer
  | .now => none
  | .settings => some (.error error)
  | .goalSettings => some (.error error)
  | .getForUser _ _ => some (.error error)
  | .countActiveForUser _ => some (.error error)
  | .insert _ _ _ => some (.error error)
  | .update _ _ _ _ => some (.error error)
  | .delete _ _ => some (.error error)
  | .claimDueTasks _ _ => some (.error error)
  | .execute _ => some (.error error)
  | .insertRun _ => some (.error error)
  | .countScheduledRunsForTask _ => some (.error error)
  | .pruneRunsOlderThan _ => some (.error error)
  | .spawnFiring _ _ _ => none
  | .runTarget _ _ => none
  | .detectChange _ _ => none
  | .evaluateGoal _ _ _ _ => none
  | .lookup _ => some (.error error)
  | .modelProvider _ => some (.error error)
  | .accessibleServers _ => some (.error error)

def SchedulerQuery.isOutside : SchedulerQuery → Bool
  | .spawnFiring _ _ _ | .detectChange _ _ | .evaluateGoal _ _ _ _ | .lookup _ | .modelProvider _
  | .accessibleServers _ => true
  | _ => false

/-- **What the tables and the clock answer.** The clock does not go back; a claim takes any of the
first due tasks that no other statement has locked. -/
inductive Answers (shared : Shared) : SchedulerEvent → Shared → Prop
  | clock (instant : Instant) : shared.clock ≤ instant →
      Answers shared ⟨.now, instant⟩ { shared with clock := instant }
  | settings : Answers shared
      ⟨.settings, (.ok shared.settings : Except AppError SchedulerAdminSettings)⟩ shared
  | goalSettings : Answers shared
      ⟨.goalSettings, (.ok shared.goal : Except AppError GoalSettings)⟩ shared
  | gets (userId id : Uuid) : Answers shared ⟨.getForUser userId id, (.ok (shared.owned userId id) :
        Except AppError (Option ScheduledTask))⟩ shared
  | counts (userId : Uuid) : Answers shared
      ⟨.countActiveForUser userId, (.ok (shared.tasks.countActive userId) : Except AppError Nat)⟩
      shared
  | inserts (userId : Uuid) (req : CreateScheduledTask) (nextRunAt : Option Instant) (id : Uuid)
      (createdAt : Instant) (row : ScheduledTask)
      (fresh : row.id ∉ shared.tasks.rows.map (·.id)) : shared.clock ≤ createdAt →
      (insertedRow id userId req nextRunAt createdAt).stored? = some row →
      Answers shared ⟨.insert userId req nextRunAt, (.ok row : Except AppError ScheduledTask)⟩
        { shared with tasks := shared.tasks.insert row fresh, clock := createdAt }
  | updates (userId id : Uuid) (upd : UpdateScheduledTask) (nextRunAt : Option (Option Instant))
      (row row' : ScheduledTask) : shared.owned userId id = some row →
      (applyUpdate upd nextRunAt row).stored? = some row' →
      Answers shared ⟨.update userId id upd nextRunAt, (.ok (some row') :
        Except AppError (Option ScheduledTask))⟩ (shared.update id upd nextRunAt)
  | updatesNone (userId id : Uuid) (upd : UpdateScheduledTask)
      (nextRunAt : Option (Option Instant)) : shared.owned userId id = none →
      Answers shared ⟨.update userId id upd nextRunAt, (.ok none :
        Except AppError (Option ScheduledTask))⟩ shared
  | deletes (userId id : Uuid) (row : ScheduledTask) : shared.owned userId id = some row →
      Answers shared ⟨.delete userId id, (.ok 1 : Except AppError Nat)⟩ (shared.delete id)
  | deletesNone (userId id : Uuid) : shared.owned userId id = none →
      Answers shared ⟨.delete userId id, (.ok 0 : Except AppError Nat)⟩ shared
  | claims (now : Instant) (limit : Nat) (claimed : List ScheduledTask) :
      claimed.Sublist (shared.tasks.dueTasks now) → claimed.length ≤ limit →
      Answers shared ⟨.claimDueTasks now limit, (.ok claimed :
        Except AppError (List ScheduledTask))⟩ shared
  | executes (write : Write) :
      Answers shared ⟨.execute write, (.ok () : Except AppError Unit)⟩ (shared.write write)
  | insertsRun (run : TaskRun) (task : ScheduledTask) :
      shared.tasks.find run.scheduledTaskId = some task →
      Answers shared ⟨.insertRun run, (.ok () : Except AppError Unit)⟩ (shared.insertRun run)
  | countsRuns (id : Uuid) : Answers shared
      ⟨.countScheduledRunsForTask id, (.ok (shared.countScheduledRuns id) :
        Except AppError Nat)⟩ shared
  | prunes (cutoff : Instant) (deleted : Nat) : Answers shared
      ⟨.pruneRunsOlderThan cutoff, (.ok deleted : Except AppError Nat)⟩ (shared.prune cutoff)
  /-- A prompt target binds its conversation to the task when it creates one. -/
  | runsTarget (task : ScheduledTask) (trigger : RunTrigger) (result : Except AppError RawResult)
      (created : Option Uuid) : Answers shared ⟨.runTarget task trigger, result⟩ (match created with
        | none => shared
        | some conversationId => shared.write (.setBoundConversation task.id conversationId))
  | outside (query : SchedulerQuery) (answer : query.Answer) : query.isOutside = true →
      Answers shared ⟨query, answer⟩ shared
  | fails (query : SchedulerQuery) (answer : query.Answer) (error : AppError) :
      query.failed error = some answer → Answers shared ⟨query, answer⟩ shared

/-! ### One environment, computed -/

/-- What the parts of the server outside the tables answer. -/
structure Outside where
  target : ScheduledTask → RunTrigger → Except AppError RawResult
  verdict : GoalVerdict
  /-- How far the clock moves each time it is read. -/
  pace : Nat
  newId : Nat → Uuid

/-- The environment in which every statement runs and every reference is allowed. -/
def Shared.answer (outside : Outside) (shared : Shared) :
    (query : SchedulerQuery) → query.Answer × Shared
  | .now => (shared.clock + outside.pace, { shared with clock := shared.clock + outside.pace })
  | .settings => (.ok shared.settings, shared)
  | .goalSettings => (.ok shared.goal, shared)
  | .getForUser userId id => (.ok (shared.owned userId id), shared)
  | .countActiveForUser userId => (.ok (shared.tasks.countActive userId), shared)
  | .insert userId req nextRunAt =>
    match (insertedRow (outside.newId shared.tasks.rows.length) userId req nextRunAt
        shared.clock).stored? with
    | some row =>
      if fresh : row.id ∉ shared.tasks.rows.map (·.id) then
        (.ok row, { shared with tasks := shared.tasks.insert row fresh })
      else (.error (.internalError "duplicate key"), shared)
    | none => (.error (.internalError "check constraint"), shared)
  | .update userId id upd nextRunAt =>
    match shared.owned userId id with
    | some row =>
      match (applyUpdate upd nextRunAt row).stored? with
      | some row' => (.ok (some row'), shared.update id upd nextRunAt)
      | none => (.error (.internalError "check constraint"), shared)
    | none => (.ok none, shared)
  | .delete userId id =>
    match shared.owned userId id with
    | some _ => (.ok 1, shared.delete id)
    | none => (.ok 0, shared)
  | .claimDueTasks now limit => (.ok ((shared.tasks.dueTasks now).take limit), shared)
  | .execute write => (.ok (), shared.write write)
  | .insertRun run =>
    match shared.tasks.find run.scheduledTaskId with
    | some _ => (.ok (), shared.insertRun run)
    | none => (.error (.internalError "foreign key"), shared)
  | .countScheduledRunsForTask id => (.ok (shared.countScheduledRuns id), shared)
  | .pruneRunsOlderThan cutoff => (.ok 0, shared.prune cutoff)
  | .spawnFiring _ _ _ => ((), shared)
  | .runTarget task trigger => (outside.target task trigger, shared)
  | .detectChange _ _ => (true, shared)
  | .evaluateGoal _ _ _ _ => (outside.verdict, shared)
  | .lookup (.workflowHasElicitStep _) => (.ok false, shared)
  | .lookup _ => (.ok true, shared)
  | .modelProvider modelId => (.ok (some modelId), shared)
  | .accessibleServers _ => (.ok [], shared)

theorem Shared.answers_answer (outside : Outside) (shared : Shared) (query : SchedulerQuery) :
    Answers shared ⟨query, (shared.answer outside query).1⟩ (shared.answer outside query).2 := by
  cases query with
  | now => exact .clock _ (Int.le_add_of_nonneg_right (Int.natCast_nonneg _))
  | settings => exact .settings
  | goalSettings => exact .goalSettings
  | getForUser userId id => exact .gets userId id
  | countActiveForUser userId => exact .counts userId
  | insert userId req nextRunAt =>
    unfold Shared.answer
    dsimp only
    split
    · rename_i row stored
      split
      · rename_i fresh
        exact .inserts userId req nextRunAt _ _ row fresh (Int.le_refl _) stored
      · exact .fails _ _ _ rfl
    · exact .fails _ _ _ rfl
  | update userId id upd nextRunAt =>
    unfold Shared.answer
    dsimp only
    split
    · rename_i row found
      split
      · rename_i row' stored
        exact .updates userId id upd nextRunAt row row' found stored
      · exact .fails _ _ _ rfl
    · rename_i missing
      exact .updatesNone userId id upd nextRunAt missing
  | delete userId id =>
    unfold Shared.answer
    dsimp only
    split
    · rename_i row found
      exact .deletes userId id row found
    · rename_i missing
      exact .deletesNone userId id missing
  | claimDueTasks now limit =>
    exact .claims now limit _ (List.take_sublist limit _) (List.length_take_le limit _)
  | execute write => exact .executes write
  | insertRun run =>
    unfold Shared.answer
    dsimp only
    split
    · rename_i task found
      exact .insertsRun run task found
    · exact .fails _ _ _ rfl
  | countScheduledRunsForTask id => exact .countsRuns id
  | pruneRunsOlderThan cutoff => exact .prunes cutoff 0
  | runTarget task trigger => exact .runsTarget task trigger (outside.target task trigger) none
  | lookup lookup => cases lookup <;> exact .outside _ _ rfl
  | spawnFiring | detectChange | evaluateGoal | modelProvider
  | accessibleServers => exact .outside _ _ rfl

end Ziee.Scheduler
