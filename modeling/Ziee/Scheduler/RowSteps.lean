/-
**What a step makes of one row.**

* `RowStep` — what an event makes of the row with a given id: a write by id, a partial update, an
  insert, a delete, the binding of a conversation, or nothing.
* `settings_read`, `clock_read` — what an interleaving's answers say about the settings and the
  clock.
-/

import Ziee.Library.Histories
import Ziee.Scheduler.Handlers

namespace Ziee.Scheduler

open PortProgram Threads Ziee.Providers Ziee.Agent

/-! ### One row -/

def Leaves (id : Uuid) : SchedulerEvent → Prop
  | ⟨.execute write, .ok _⟩ => write.target ≠ id
  | ⟨.update _ task _ _, .ok (some _)⟩ => task ≠ id
  | ⟨.insert _ _ _, .ok row⟩ => row.id ≠ id
  | ⟨.delete _ task, .ok affected⟩ => affected = 0 ∨ task ≠ id
  | _ => True

/-- **What an event makes of the row with this id.** -/
inductive RowStep (id : Uuid) : SchedulerEvent → Option ScheduledTask → Option ScheduledTask → Prop
  | same {event : SchedulerEvent} {row : Option ScheduledTask} : Leaves id event →
      RowStep id event row row
  | write {write : Write} {row : Option ScheduledTask} : write.target = id →
      RowStep id ⟨.execute write, (.ok () : Except AppError Unit)⟩ row (row.map write.update)
  | binds {task : ScheduledTask} {trigger : RunTrigger} {result : Except AppError RawResult}
      {row : Option ScheduledTask} (conversationId : Uuid) : task.id = id →
      RowStep id ⟨.runTarget task trigger, result⟩ row
        (row.map (Write.setBoundConversation id conversationId).update)
  | updates {userId : Uuid} {upd : UpdateScheduledTask} {nextRunAt : Option (Option Instant)}
      {row row' : ScheduledTask} : row.userId = userId →
      (applyUpdate upd nextRunAt row).stored? = some row' →
      RowStep id ⟨.update userId id upd nextRunAt, (.ok (some row') :
        Except AppError (Option ScheduledTask))⟩ (some row) (some row')
  | inserts {userId : Uuid} {req : CreateScheduledTask} {nextRunAt : Option Instant}
      {createdAt : Instant} {row : ScheduledTask} :
      (insertedRow id userId req nextRunAt createdAt).stored? = some row →
      RowStep id ⟨.insert userId req nextRunAt, (.ok row : Except AppError ScheduledTask)⟩ none
        (some row)
  | deletes {userId : Uuid} {row : ScheduledTask} : row.userId = userId →
      RowStep id ⟨.delete userId id, (.ok 1 : Except AppError Nat)⟩ (some row) none

section Answers

variable {shared shared' : Shared} {event : SchedulerEvent} {id : Uuid}

theorem owned_eq_some_iff {userId : Uuid} {row : ScheduledTask} :
    shared.owned userId id = some row ↔ shared.tasks.find id = some row ∧ row.userId = userId := by
  unfold Shared.owned
  rw [Option.filter_eq_some_iff, decide_eq_true_eq]

theorem Shared.find_write (write : Write) (id : Uuid) : (shared.write write).tasks.find id =
      if write.target = id then (shared.tasks.find id).map write.update
      else shared.tasks.find id := by
  by_cases here : write.target = id
  · subst here
    rw [if_pos rfl]
    exact TaskTable.find_write_self write
  · rw [if_neg here]
    exact TaskTable.find_write_ne (Ne.symm here)

/-- **Every answer of the tables is such a step of every row.** -/
theorem Answers.rowStep (answers : Answers shared event shared') (id : Uuid) :
    RowStep id event (shared.tasks.find id) (shared'.tasks.find id) := by
  cases answers with
  | inserts userId req nextRunAt newId createdAt row fresh _ stored =>
    by_cases here : row.id = id
    · subst here
      have unknown : shared.tasks.find row.id = none := by
        refine Option.eq_none_iff_forall_ne_some.mpr fun other found => fresh ?_
        obtain ⟨member, same⟩ := TaskTable.mem_of_find found
        exact List.mem_map.mpr ⟨other, member, same⟩
      have named : row.id = newId := by
        obtain ⟨name, -, -, rfl⟩ := ScheduledTask.stored?_eq_some_iff.mp stored
        rfl
      show RowStep row.id _ (shared.tasks.find row.id) ((shared.tasks.insert row fresh).find row.id)
      rw [unknown, TaskTable.find_insert_self]
      exact .inserts (named ▸ stored)
    · show RowStep id _ (shared.tasks.find id) ((shared.tasks.insert row fresh).find id)
      rw [TaskTable.find_insert_ne (Ne.symm here)]
      exact .same here
  | updates userId other upd nextRunAt row row' owned stored =>
    obtain ⟨found, owner⟩ := owned_eq_some_iff.mp owned
    by_cases here : other = id
    · subst here
      rw [Shared.update, TaskTable.find_modify_self, found, Option.map_some,
        storedUpdate_of_stored stored]
      exact .updates owner stored
    · rw [Shared.update, TaskTable.find_modify_ne (Ne.symm here)]
      exact .same here
  | deletes userId other row owned =>
    obtain ⟨found, owner⟩ := owned_eq_some_iff.mp owned
    by_cases here : other = id
    · subst here
      rw [Shared.delete, TaskTable.find_erase_self, found]
      exact .deletes owner
    · rw [Shared.delete, TaskTable.find_erase_ne (Ne.symm here)]
      exact .same (Or.inr here)
  | executes write =>
    rw [Shared.find_write]
    by_cases here : write.target = id
    · rw [if_pos here]
      exact .write here
    · rw [if_neg here]
      exact .same here
  | runsTarget task trigger result created =>
    cases created with
    | none => exact .same trivial
    | some conversationId =>
      show RowStep id _ _ ((shared.write (.setBoundConversation task.id conversationId)).tasks.find
        id)
      rw [Shared.find_write]
      by_cases here : (Write.setBoundConversation task.id conversationId).target = id
      · rw [if_pos here]
        subst here
        exact .binds conversationId rfl
      · rw [if_neg here]
        exact .same trivial
  | deletesNone userId other missing => exact .same (Or.inl rfl)
  | fails query answer error failed =>
    refine .same ?_
    cases query <;> cases failed <;> trivial
  | outside query answer outside =>
    refine .same ?_
    cases query <;> trivial
  | _ => exact .same trivial

theorem Answers.settings_eq (answers : Answers shared event shared') :
    shared'.settings = shared.settings := by
  cases answers with
  | runsTarget task trigger result created => cases created <;> rfl
  | _ => rfl

theorem Answers.clock_le (answers : Answers shared event shared') :
    shared.clock ≤ shared'.clock := by
  cases answers with
  | clock instant later => exact later
  | inserts userId req nextRunAt newId createdAt row fresh later stored => exact later
  | runsTarget task trigger result created => cases created <;> exact Int.le_refl _
  | _ => exact Int.le_refl _

end Answers

/-! ### What the answers of a whole interleaving say -/

section Logs

variable {config last : Config schedulerPorts AppError Unit Shared}
  {log : List (Nat × SchedulerEvent)}

theorem settings_kept (follows : Follows scheduler.Step config log last) :
    last.shared.settings = config.shared.settings :=
  scheduler.shared_preserves (fun shared => shared.settings = config.shared.settings)
    (fun same answers => (Answers.settings_eq answers).trans same) follows rfl

theorem clock_grows (follows : Follows scheduler.Step config log last) :
    config.shared.clock ≤ last.shared.clock :=
  scheduler.shared_preserves (fun shared => config.shared.clock ≤ shared.clock)
    (fun before answers => Int.le_trans before (Answers.clock_le answers)) follows (Int.le_refl _)

theorem answered_at {thread : Nat} {event : SchedulerEvent}
    (follows : Follows scheduler.Step config log last) (member : (thread, event) ∈ log) :
    ∃ before middle middle' after, log = before ++ (thread, event) :: after ∧
      Follows scheduler.Step config before middle ∧
      Answers middle.shared event middle'.shared ∧ Follows scheduler.Step middle' after last :=
  scheduler.answered_at follows member

theorem Answers.settings_ok {shared shared' : Shared} {settings : SchedulerAdminSettings}
    (answers : Answers shared ⟨.settings, (.ok settings : Except AppError SchedulerAdminSettings)⟩
      shared') : settings = shared.settings := by
  cases answers with
  | settings => rfl
  | fails _ _ error failed => cases failed
  | outside _ _ outside => cases outside

theorem Answers.getForUser_ok {shared shared' : Shared} {userId id : Uuid}
    {found : Option ScheduledTask} (answers : Answers shared ⟨.getForUser userId id, (.ok found :
      Except AppError (Option ScheduledTask))⟩ shared') :
    shared.owned userId id = found ∧ shared' = shared := by
  cases answers with
  | gets => exact ⟨rfl, rfl⟩
  | fails _ _ error failed => cases failed
  | outside _ _ outside => cases outside

theorem Answers.claim_ok {shared shared' : Shared} {limit : Nat} {rows : List ScheduledTask}
    (answers : Answers shared ⟨.claimDueTasks now limit, (.ok rows :
      Except AppError (List ScheduledTask))⟩ shared') :
    shared' = shared ∧ (rows.map (·.id)).Nodup ∧
      ∀ row ∈ rows, shared.tasks.find row.id = some row ∧ row.isDue now = true := by
  cases answers with
  | claims _ _ _ sublist _ =>
    refine ⟨rfl, (sublist.map _).nodup (TaskTable.dueTasks_nodup now), fun row member => ?_⟩
    obtain ⟨there, due⟩ := TaskTable.mem_dueTasks.mp (sublist.subset member)
    exact ⟨TaskTable.find_of_mem there, due⟩
  | fails _ _ error failed => cases failed
  | outside _ _ outside => cases outside

theorem Answers.update_ok {shared shared' : Shared} {userId id : Uuid} {upd : UpdateScheduledTask}
    {nextRunAt : Option (Option Instant)} {row : ScheduledTask}
    (answers : Answers shared ⟨.update userId id upd nextRunAt, (.ok (some row) :
      Except AppError (Option ScheduledTask))⟩ shared') : shared'.tasks.find id = some row := by
  cases answers with
  | updates _ _ _ _ old _ owned stored =>
    rw [Shared.update, TaskTable.find_modify_self, (owned_eq_some_iff.mp owned).1, Option.map_some,
      storedUpdate_of_stored stored]
  | fails _ _ error failed => cases failed
  | outside _ _ outside => cases outside

theorem Answers.execute_ok {shared shared' : Shared} {write : Write} {answer : Unit}
    (answers : Answers shared ⟨.execute write, (.ok answer : Except AppError Unit)⟩ shared') :
    shared' = shared.write write := by
  cases answers with
  | executes => rfl
  | fails _ _ error failed => cases failed
  | outside _ _ outside => cases outside

theorem Answers.now_clock {shared shared' : Shared} {instant : Instant}
    (answers : Answers shared ⟨.now, instant⟩ shared') :
    shared.clock ≤ instant ∧ shared'.clock = instant := by
  cases answers with
  | clock _ later => exact ⟨later, rfl⟩
  | fails _ _ error failed => cases failed
  | outside _ _ outside => cases outside

theorem settings_read {thread : Nat} {settings : SchedulerAdminSettings}
    (follows : Follows scheduler.Step config log last)
    (member : (thread, ⟨.settings, (.ok settings : Except AppError SchedulerAdminSettings)⟩) ∈
      log) :
    settings = config.shared.settings := by
  obtain ⟨before, middle, middle', after, -, head, answers, -⟩ := answered_at follows member
  exact answers.settings_ok.trans (settings_kept head)

theorem clock_read {thread : Nat} {instant : Instant}
    (follows : Follows scheduler.Step config log last) (member : (thread, ⟨.now, instant⟩) ∈ log) :
    config.shared.clock ≤ instant ∧ instant ≤ last.shared.clock := by
  obtain ⟨before, middle, middle', after, -, head, answers, tail⟩ := answered_at follows member
  obtain ⟨later, shown⟩ := answers.now_clock
  exact ⟨Int.le_trans (clock_grows head) later, shown ▸ clock_grows tail⟩

def readsRow (id : Uuid) : SchedulerEvent → Bool
  | ⟨.getForUser _ task, _⟩ => task = id
  | _ => false

variable {userId id : Uuid}

theorem row_stretch (breaks : SchedulerEvent → Bool) (holds : ScheduledTask → Prop)
    (one : ∀ {event before row}, RowStep id event before (some row) → breaks event = false →
      (∀ old, before = some old → holds old) → holds row)
    (follows : Follows scheduler.Step config log last)
    (quiet : ∀ label ∈ log, breaks label.2 = false)
    (start : ∀ row, config.shared.tasks.find id = some row → holds row) :
    ∀ row, last.shared.tasks.find id = some row → holds row := by
  refine preserves_split follows (fun _ config => ∀ row, config.shared.tasks.find id = some row →
    holds row) ?_ start
  rintro before label after state state' rfl - held step row found
  have silent : breaks label.2 = false := quiet label (by simp)
  cases step with
  | act _ answers =>
    have rowStep := Answers.rowStep answers id
    rw [found] at rowStep
    exact one rowStep silent held

theorem read_then {closes breaks : SchedulerEvent → Bool}
    {before after : List (Nat × SchedulerEvent)}
    {thread : Nat} {event : SchedulerEvent} {existing : ScheduledTask}
    (holds : ScheduledTask → Prop)
    (one : ∀ {event before row}, RowStep id event before (some row) → breaks event = false →
      (∀ old, before = some old → holds old) → holds row)
    (calm : undisturbed (readsRow id) closes breaks (before ++ (thread, event) :: after) = true)
    (close : closes event = true) (follows : Follows scheduler.Step config before last)
    (read : (thread, ⟨.getForUser userId id, (.ok (some existing) :
      Except AppError (Option ScheduledTask))⟩) ∈ before) (start : holds existing) :
    ∀ row, last.shared.tasks.find id = some row → holds row := by
  obtain ⟨first, middle, middle', between, rfl, -, answers, tail⟩ := answered_at follows read
  obtain ⟨owned, same⟩ := answers.getForUser_ok
  have reads : readsRow id (⟨.getForUser userId id, (.ok (some existing) :
      Except AppError (Option ScheduledTask))⟩ : SchedulerEvent) = true := by simp [readsRow]
  refine row_stretch breaks holds one tail
    (undisturbed_between calm rfl reads close) fun row found => ?_
  rw [same, (owned_eq_some_iff.mp owned).1] at found
  cases found
  exact start

end Logs

end Ziee.Scheduler
