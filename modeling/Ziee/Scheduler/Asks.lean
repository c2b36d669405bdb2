/-
**What the programs of the scheduler ask.**

One predicate per program: the queries it may ask, and what is known of their arguments. What a
theorem needs of a program is read off here.

* `updateTask_asks` — an update writes the request's own fields, and a `next_run_at` that was
  computed for them whenever the schedule is touched.
* `createTask_asks`, `fireTask_asks`, `fireDue_asks` — the same for the other programs.
-/

import Ziee.Scheduler.Handlers

namespace Ziee.Scheduler

open PortProgram Threads Ziee.Providers Ziee.Agent

def ChecksReference : SchedulerQuery → Prop
  | .lookup _ | .modelProvider _ | .accessibleServers _ => True
  | _ => False

/-- What `create_task` may ask; the task it inserts is armed. -/
def CreateAsks (userId : Uuid) : SchedulerQuery → Prop
  | .lookup _ | .modelProvider _ | .accessibleServers _ | .settings | .now => True
  | .countActiveForUser user => user = userId
  | .insert user _ nextRunAt => user = userId ∧ nextRunAt.isSome = true
  | _ => False

/-- What the recomputed `next_run_at` is, as far as it is known without the schedule. -/
def Recomputed (body : UpdateScheduledTask) (nextRunAt : Option (Option Instant)) : Prop :=
  (body.touchesSchedule = false ∧ nextRunAt = none) ∨
    ∃ instant, body.touchesSchedule = true ∧ nextRunAt = some (some instant)

/-- What `update_task` may ask; it arms the task whenever it touches the schedule. -/
def UpdateAsks (userId id : Uuid) (body : UpdateScheduledTask) : SchedulerQuery → Prop
  | .lookup _ | .modelProvider _ | .accessibleServers _ | .settings | .now => True
  | .getForUser user task => user = userId ∧ task = id
  | .countActiveForUser user => user = userId
  | .update user task upd nextRunAt => user = userId ∧ task = id ∧ upd = body ∧
      Recomputed body nextRunAt
  | _ => False

/-- What a firing may ask: its own row, and its own line of the history. -/
def FiringAsks (task : ScheduledTask) (trigger : RunTrigger) : SchedulerQuery → Prop
  | .settings | .goalSettings | .evaluateGoal _ _ _ _ => True
  | .runTarget target how => target = task ∧ how = trigger
  | .detectChange target _ => target = task
  | .execute (.recordOutcome id _ _ _) => id = task.id ∧ trigger ≠ .runNow
  | .execute (.armSelfPaced id _ _ _) => id = task.id ∧ task.kind = .selfPaced
  | .insertRun run => run.scheduledTaskId = task.id ∧ run.trigger = trigger
  | .countScheduledRunsForTask id => id = task.id
  | _ => False

/-- What the tick may ask about one claimed task. -/
def DueAsks (task : ScheduledTask) (now : Instant) : SchedulerQuery → Prop
  | .execute (.markFired id _ firedAt _) => id = task.id ∧ firedAt = now
  | .execute (.disarmSelfPaced id firedAt) => id = task.id ∧ firedAt = now ∧ task.kind = .selfPaced
  | .insertRun run => run.scheduledTaskId = task.id
  | .spawnFiring target trigger instant => target = task ∧ trigger = .schedule ∧ instant = now
  | _ => False

/-! ### The requests -/

section Requests

variable {allowed : SchedulerQuery → Prop} {cron : CronLibrary} {userId id : Uuid}

theorem require_asks (condition : Bool) (error : AppError) :
    AsksOnly (I := schedulerPorts) allowed (require condition error) := by
  unfold require
  split
  · trivial
  · trivial

theorem ifSome_asks {α : Type} (value : Option α) {check : α → SchedulerM Unit}
    (checks : ∀ value, AsksOnly (I := schedulerPorts) allowed (check value)) :
    AsksOnly (I := schedulerPorts) allowed (ifSome value check) := by
  cases value with
  | none => trivial
  | some value => exact checks value

section References

variable (references : ∀ query, ChecksReference query → allowed query)
include references

theorem demand_asks (wanted : Lookup) (error : AppError) :
    AsksOnly (I := schedulerPorts) allowed (demand wanted error) :=
  AsksOnly.bind (.attempt (references _ trivial)) fun _ => require_asks _ _

theorem validateModelAccess_asks (modelId : Uuid) :
    AsksOnly (I := schedulerPorts) allowed (validateModelAccess userId modelId) := by
  refine AsksOnly.bind (.attempt (references _ trivial)) fun providerId => ?_
  cases providerId with
  | none => trivial
  | some providerId => exact demand_asks references _ _

theorem validateAllowedTools_asks (tools : List AllowedTool) :
    AsksOnly (I := schedulerPorts) allowed (validateAllowedTools userId tools) := by
  unfold validateAllowedTools
  split
  · trivial
  · split
    · trivial
    · exact AsksOnly.bind (.attempt (references _ trivial)) fun _ => require_asks _ _

theorem validateReferences_asks (body : CreateScheduledTask) :
    AsksOnly (I := schedulerPorts) allowed (validateReferences userId body) := by
  unfold validateReferences
  split
  · refine ifSome_asks _ fun workflowId => AsksOnly.bind (demand_asks references _ _) fun _ => ?_
    exact AsksOnly.bind (.attempt (references _ trivial)) fun _ => require_asks _ _
  · split
    · exact ifSome_asks _ fun assistantId => demand_asks references _ _
    · trivial

theorem validateAccess_asks (body : CreateScheduledTask) :
    AsksOnly (I := schedulerPorts) allowed (validateAccess userId body) := by
  refine AsksOnly.bind (validateReferences_asks references body) fun _ => ?_
  refine AsksOnly.bind (validateModelAccess_asks references _) fun _ => ?_
  refine AsksOnly.bind (validateAllowedTools_asks references _) fun _ => ?_
  exact ifSome_asks _ fun conversationId => demand_asks references _ _

theorem revalidate_asks (body : UpdateScheduledTask) :
    AsksOnly (I := schedulerPorts) allowed (revalidate userId body) := by
  refine AsksOnly.bind (ifSome_asks _ fun assistantId => demand_asks references _ _) fun _ => ?_
  refine AsksOnly.bind (ifSome_asks _ fun modelId => validateModelAccess_asks references _)
    fun _ => ?_
  exact ifSome_asks _ fun tools => validateAllowedTools_asks references _

end References

theorem checkQuota_asks (allowed : SchedulerQuery → Prop)
    (counts : allowed (.countActiveForUser userId)) (settings : SchedulerAdminSettings) :
    AsksOnly (I := schedulerPorts) allowed (checkQuota userId settings) := by
  refine AsksOnly.bind (.attempt counts) fun active => ?_
  split
  · trivial
  · trivial

theorem scheduleNext_isSome {settings : SchedulerAdminSettings} {kind : ScheduleKind}
    {runAt : Option Instant} {cronExpr : Option String} {timezone : String} {now : Instant}
    {next : Option Instant}
    (accepted : scheduleNext cron settings kind runAt cronExpr timezone now = .ok next) :
    next.isSome = true := by
  unfold scheduleNext at accepted
  cases valid : validateSchedule cron kind runAt cronExpr timezone settings.minIntervalSeconds
    now with
  | error error =>
    rw [valid] at accepted
    cases accepted
  | ok _ =>
    obtain ⟨instant, found⟩ := nextOccurrence_of_valid valid
    rw [valid, found] at accepted
    cases accepted
    rfl

theorem admitCreate_asks (body : CreateScheduledTask) (kind : ScheduleKind) :
    AsksOnly (I := schedulerPorts) (CreateAsks userId) (admitCreate cron userId body kind) := by
  refine AsksOnly.bind (.attempt trivial) fun settings => ?_
  refine AsksOnly.bind (checkQuota_asks (CreateAsks userId) rfl settings) fun _ => ?_
  refine AsksOnly.bind (.perform trivial) fun now => ?_
  refine AsksOnly.bind_yields .ofExcept
    (Yields.ofExcept fun next accepted => scheduleNext_isSome accepted) fun next armed => ?_
  exact .attempt ⟨rfl, armed⟩

/-- **What `create_task` asks.** -/
theorem createTask_asks (body : CreateScheduledTask) :
    AsksOnly (I := schedulerPorts) (CreateAsks userId) (createTask cron userId body) := by
  have references : ∀ query, ChecksReference query → CreateAsks userId query := by
    intro query checks
    cases query <;> first | exact checks | trivial
  have checked : AsksOnly (I := schedulerPorts) (CreateAsks userId) (validateBody body) :=
    AsksOnly.bind (require_asks _ _) fun _ => .ofExcept
  unfold createTask
  refine AsksOnly.bind checked fun _ => ?_
  refine AsksOnly.bind (validateAccess_asks references body) fun _ => ?_
  refine AsksOnly.bind (require_asks _ _) fun _ => ?_
  refine AsksOnly.bind .ofExcept fun kind => AsksOnly.bind .ofExcept fun condition => ?_
  exact admitCreate_asks _ _

theorem recompute_yields (existing : ScheduledTask) (body : UpdateScheduledTask) :
    Yields (I := schedulerPorts) (Recomputed body) (recompute cron existing body) := by
  unfold recompute
  split
  · rename_i touched
    refine Yields.bind Yields.true fun kind _ => Yields.bind Yields.true fun settings _ => ?_
    refine Yields.bind Yields.true fun now _ => ?_
    refine Yields.bind (Yields.ofExcept fun next accepted => scheduleNext_isSome accepted)
      fun next armed => ?_
    obtain ⟨instant, rfl⟩ := Option.isSome_iff_exists.mp armed
    exact Or.inr ⟨instant, touched, rfl⟩
  · rename_i untouched
    exact Or.inl ⟨by simpa using untouched, rfl⟩

theorem recompute_asks (reads : allowed .settings ∧ allowed .now) (existing : ScheduledTask)
    (body : UpdateScheduledTask) :
    AsksOnly (I := schedulerPorts) allowed (recompute cron existing body) := by
  unfold recompute
  split
  · refine AsksOnly.bind .ofExcept fun kind => AsksOnly.bind (.attempt reads.1) fun settings => ?_
    exact AsksOnly.bind (.perform reads.2) fun now => AsksOnly.bind .ofExcept fun next => trivial
  · trivial

theorem requota_asks (allowed : SchedulerQuery → Prop)
    (reads : allowed .settings ∧ allowed (.countActiveForUser userId))
    (existing : ScheduledTask) (body : UpdateScheduledTask) :
    AsksOnly (I := schedulerPorts) allowed (requota userId existing body) := by
  unfold requota
  split
  · exact AsksOnly.bind (.attempt reads.1) fun settings => checkQuota_asks allowed reads.2 settings
  · trivial

/-- **What `update_task` asks.** -/
theorem updateTask_asks (body : UpdateScheduledTask) :
    AsksOnly (I := schedulerPorts) (UpdateAsks userId id body)
      (updateTask cron userId id body) := by
  have references : ∀ query, ChecksReference query → UpdateAsks userId id body query := by
    intro query checks
    cases query <;> first | exact checks | trivial
  refine AsksOnly.bind (.attempt ⟨rfl, rfl⟩) fun existing => ?_
  cases existing with
  | none => trivial
  | some existing =>
    refine AsksOnly.bind (revalidate_asks references body) fun _ => ?_
    refine AsksOnly.bind (requota_asks (UpdateAsks userId id body) ⟨trivial, rfl⟩
      existing body) fun _ => ?_
    refine AsksOnly.bind_yields (recompute_asks ⟨trivial, trivial⟩ existing body)
      (recompute_yields existing body) fun next computed => ?_
    refine AsksOnly.bind (.attempt ⟨rfl, rfl, rfl, computed⟩) fun task => ?_
    cases task with
    | none | some => trivial

end Requests

/-! ### The firing and the tick -/

section Firing

variable {cron : CronLibrary} {task : ScheduledTask} {trigger : RunTrigger} {now : Instant}

theorem goalVerdict_asks {allowed : SchedulerQuery → Prop}
    (evaluates : ∀ modelId userId condition artifact,
      allowed (.evaluateGoal modelId userId condition artifact))
    (condition : String) (outcome : DispatchOutcome) (modelId : Option Uuid) :
    AsksOnly (I := schedulerPorts) allowed (goalVerdict task condition outcome modelId) := by
  cases modelId with
  | none => trivial
  | some modelId =>
    unfold goalVerdict
    dsimp only
    split
    · trivial
    · exact .perform (evaluates _ _ _ _)

theorem writeBack_asks (outcome : DispatchOutcome) :
    AsksOnly (I := schedulerPorts) (FiringAsks task trigger)
      (writeBack task trigger outcome now) := by
  unfold writeBack
  split
  · rename_i paced
    refine AsksOnly.bind (.perform trivial) fun settings => ?_
    dsimp only
    split
    · refine AsksOnly.bind (.perform trivial) fun goal => ?_
      refine AsksOnly.bind (goalVerdict_asks (fun _ _ _ _ => trivial) _ _ _) fun verdict => ?_
      refine AsksOnly.bind (.perform rfl) fun counted => ?_
      exact AsksOnly.bind (.perform ⟨rfl, paced.2⟩) fun _ => trivial
    · refine AsksOnly.ite ?_ trivial
      exact AsksOnly.bind (.perform ⟨rfl, paced.2⟩) fun _ => trivial
  · trivial

theorem recordFiring_asks (outcome : DispatchOutcome) :
    AsksOnly (I := schedulerPorts) (FiringAsks task trigger)
      (recordFiring task trigger outcome) := by
  unfold recordFiring
  split
  · rename_i scheduled
    refine AsksOnly.bind (.perform trivial) fun settings => ?_
    exact AsksOnly.bind (.perform ⟨rfl, scheduled⟩) fun _ => trivial
  · trivial

theorem fireTask_asks (task : ScheduledTask) (trigger : RunTrigger) (now : Instant) :
    AsksOnly (I := schedulerPorts) (FiringAsks task trigger) (fireTask task trigger now) := by
  refine AsksOnly.bind ?_ fun outcome => ?_
  · refine AsksOnly.bind (.perform ⟨rfl, rfl⟩) fun raw => ?_
    cases raw with
    | error error => trivial
    | ok raw => exact AsksOnly.bind (.perform rfl) fun _ => trivial
  · unfold fireTask.finish
    refine AsksOnly.bind (recordFiring_asks outcome) fun _ => ?_
    exact AsksOnly.bind (.perform ⟨rfl, rfl⟩) fun _ => writeBack_asks outcome

/-- **What the tick asks about one claimed task.** -/
theorem fireDue_asks (task : ScheduledTask) (now : Instant) :
    AsksOnly (I := schedulerPorts) (DueAsks task now) (fireDue cron task now) := by
  unfold fireDue
  split
  · refine AsksOnly.bind (.perform ⟨rfl, rfl⟩) fun _ => ?_
    exact AsksOnly.bind (.perform rfl) fun _ => trivial
  · refine AsksOnly.bind (.perform ?_) fun advanced => ?_
    · split
      · rename_i paced
        exact ⟨rfl, rfl, paced⟩
      · exact ⟨rfl, rfl⟩
    · cases advanced with
      | error error => trivial
      | ok _ => exact .perform ⟨rfl, rfl, rfl⟩

end Firing

/-! ### The activities -/

def Activity.Asks : Activity → SchedulerQuery → Prop
  | .tickLoop _, query => query = .now ∨ (∃ now limit, query = .claimDueTasks now limit) ∨
      ∃ task now, DueAsks task now query
  | .create userId _, query => CreateAsks userId query
  | .update userId id body, query => UpdateAsks userId id body query
  | .delete userId id, query => query = .delete userId id
  | .fireNow userId id, query => query = .getForUser userId id ∨ query = .now ∨
      ∃ task now, query = .spawnFiring task .runNow now
  | .prune, query => query = .settings ∨ query = .now ∨ ∃ cutoff, query = .pruneRunsOlderThan cutoff

section Activities

variable {cron : CronLibrary}

theorem sweep_asks {now : Instant} {allowed : SchedulerQuery → Prop}
    (due : ∀ task query, DueAsks task now query → allowed query) :
    ∀ tasks, AsksOnly (I := schedulerPorts) allowed (sweep cron now tasks)
  | [] => trivial
  | task :: rest =>
    AsksOnly.bind ((fireDue_asks task now).mono (due task)) fun _ => sweep_asks due rest

theorem runTickLoop_asks (total : Nat) : ∀ sweeps, AsksOnly (I := schedulerPorts)
    (Activity.tickLoop total).Asks (runTickLoop cron sweeps)
  | 0 => trivial
  | sweeps + 1 => by
    refine AsksOnly.bind ?_ fun _ => runTickLoop_asks total sweeps
    refine AsksOnly.bind (.perform (Or.inl rfl)) fun now => ?_
    refine AsksOnly.bind (.perform (Or.inr (Or.inl ⟨now, batch, rfl⟩))) fun due => ?_
    cases due with
    | error error => trivial
    | ok due => exact sweep_asks (fun task query asked => Or.inr (Or.inr ⟨task, now, asked⟩)) due

theorem Activity.asks (activity : Activity) :
    AsksOnly (I := schedulerPorts) activity.Asks (activity.program cron) := by
  cases activity with
  | tickLoop sweeps => exact runTickLoop_asks sweeps sweeps
  | create userId body => exact AsksOnly.bind (createTask_asks body) fun _ => trivial
  | update userId id body => exact AsksOnly.bind (updateTask_asks body) fun _ => trivial
  | delete userId id =>
    exact AsksOnly.bind (.attempt rfl) fun affected => AsksOnly.ite trivial trivial
  | fireNow userId id =>
    refine AsksOnly.bind (.attempt (Or.inl rfl)) fun found => ?_
    cases found with
    | none => trivial
    | some task =>
      refine AsksOnly.bind (.perform (Or.inr (Or.inl rfl))) fun now => ?_
      exact .perform (Or.inr (Or.inr ⟨task, now, rfl⟩))
  | prune =>
    refine AsksOnly.bind (.perform (Or.inl rfl)) fun settings => ?_
    cases settings with
    | error error => trivial
    | ok settings =>
      refine AsksOnly.ite trivial (AsksOnly.bind (.perform (Or.inr (Or.inl rfl))) fun now => ?_)
      exact AsksOnly.bind (.perform (Or.inr (Or.inr ⟨_, rfl⟩))) fun _ => trivial

end Activities

end Ziee.Scheduler
