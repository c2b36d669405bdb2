/-
**The scheduler's tables** (`models.rs`, `repository.rs`, the migrations).

A row of `scheduled_tasks` holds a task, its schedule and its bookkeeping; `scheduled_task_runs` has
one row per firing. A statement is modelled by what it makes of a row.

* `applyUpdate` — the partial update: only the fields of the request that are present change.
* `ScheduledTask.checked` — the constraints of the table; a statement whose row breaks one fails.
-/

import Ziee.Scheduler.Schedule
import Ziee.Providers.Text

namespace Ziee.Scheduler

open Ziee.Providers Ziee.Agent

/-- `MAX_NAME_LEN`, `MAX_PROMPT_LEN`, `MAX_COMPLETION_CONDITION_LEN`. -/
def maxNameLen : Nat := 255

def maxPromptLen : Nat := 32768

def maxCompletionConditionLen : Nat := 4096

structure AllowedTool where
  serverId : Uuid
  toolName : Option String

structure ScheduledTask where
  id : Uuid
  userId : Uuid
  name : String
  enabled : Bool
  /-- Set when the task was paused automatically. -/
  pausedReason : Option String
  targetKind : String
  workflowId : Option Uuid
  inputsJson : Json
  assistantId : Option Uuid
  prompt : Option String
  modelId : Option Uuid
  scheduleKind : String
  runAt : Option Instant
  cronExpr : Option String
  timezone : String
  nextRunAt : Option Instant
  lastRunAt : Option Instant
  lastStatus : Option String
  consecutiveFailures : Nat
  notifyMode : String
  notifyOn : String
  boundConversationId : Option Uuid
  completionCondition : Option String
  allowedUnattendedTools : List AllowedTool
  createdAt : Instant

/-- The typed schedule kind; an unexpected string is `Once`. -/
def ScheduledTask.kind (task : ScheduledTask) : ScheduleKind :=
  if task.scheduleKind = "recurring" then .recurring
  else if task.scheduleKind = "self_paced" then .selfPaced
  else .once

structure CreateScheduledTask where
  name : String
  targetKind : String
  workflowId : Option Uuid
  inputsJson : Json
  assistantId : Option Uuid
  prompt : Option String
  modelId : Uuid
  scheduleKind : String
  runAt : Option Instant
  cronExpr : Option String
  timezone : String
  notifyMode : String
  notifyOn : String
  allowedUnattendedTools : List AllowedTool
  boundConversationId : Option Uuid
  completionCondition : Option String

/-- Only the fields that are present change. -/
structure UpdateScheduledTask where
  name : Option String := none
  enabled : Option Bool := none
  inputsJson : Option Json := none
  assistantId : Option Uuid := none
  prompt : Option String := none
  modelId : Option Uuid := none
  scheduleKind : Option String := none
  runAt : Option Instant := none
  cronExpr : Option String := none
  timezone : Option String := none
  notifyMode : Option String := none
  notifyOn : Option String := none
  allowedUnattendedTools : Option (List AllowedTool) := none

/-- What started a firing. -/
inductive RunTrigger
  | schedule
  | runNow
  deriving DecidableEq

/-- A row of `scheduled_task_runs`. -/
structure TaskRun where
  scheduledTaskId : Uuid
  userId : Uuid
  trigger : RunTrigger
  status : String
  errorClass : Option String
  errorMessage : Option String
  firedAt : Instant

structure SchedulerAdminSettings where
  maxActiveTasksPerUser : Int
  minIntervalSeconds : Int
  maxConsecutiveFailures : Int
  notificationRetentionDays : Int
  maxHorizonDays : Int

/-! ### What the statements make of a row -/

/-- The statements that write one task by its id alone. -/
inductive Write
  | markFired (id : Uuid) (nextRunAt : Option Instant) (firedAt : Instant)
      (pausedReason : Option String)
  | disarmSelfPaced (id : Uuid) (firedAt : Instant)
  | armSelfPaced (id : Uuid) (outcome : SelfPacedOutcome) (firedAt : Instant)
      (disableReason : String)
  | recordOutcome (id : Uuid) (status : String) (success : Bool) (pauseReason : Option String)
  | setBoundConversation (id conversationId : Uuid)

def Write.target : Write → Uuid
  | .markFired id _ _ _ => id
  | .disarmSelfPaced id _ => id
  | .armSelfPaced id _ _ _ => id
  | .recordOutcome id _ _ _ => id
  | .setBoundConversation id _ => id

/-- **What a statement makes of the row it finds.** -/
def Write.update : Write → ScheduledTask → ScheduledTask
  -- A task with a reason is paused; one with no further occurrence is spent.
  | .markFired _ nextRunAt firedAt pausedReason, row =>
    { row with
      nextRunAt := nextRunAt.map toOffset
      lastRunAt := some (toOffset firedAt)
      enabled := if pausedReason.isSome then false
        else if nextRunAt.isNone then false else row.enabled
      pausedReason := if pausedReason.isSome then pausedReason
        else if nextRunAt.isNone then some "completed" else row.pausedReason }
  | .disarmSelfPaced _ firedAt, row =>
    { row with nextRunAt := none, lastRunAt := some (toOffset firedAt) }
  | .armSelfPaced _ (.fire instant) firedAt _, row =>
    { row with nextRunAt := some (toOffset instant), lastRunAt := some (toOffset firedAt) }
  | .armSelfPaced _ .disable firedAt disableReason, row =>
    { row with
      nextRunAt := none
      lastRunAt := some (toOffset firedAt)
      enabled := false
      pausedReason := some disableReason }
  | .recordOutcome _ status success pauseReason, row =>
    { row with
      lastStatus := some status
      consecutiveFailures := if success then 0 else row.consecutiveFailures + 1
      enabled := if pauseReason.isSome then false else row.enabled
      pausedReason := pauseReason.or row.pausedReason }
  | .setBoundConversation _ conversationId, row =>
    { row with boundConversationId := some conversationId }

/-- **The partial update** (`COALESCE`): re-enabling clears the pause reason, and `next_run_at` is
written when the caller computed one. -/
def applyUpdate (upd : UpdateScheduledTask) (nextRunAt : Option (Option Instant))
    (row : ScheduledTask) : ScheduledTask :=
  { row with
    name := upd.name.getD row.name
    enabled := upd.enabled.getD row.enabled
    pausedReason := if upd.enabled = some true then none else row.pausedReason
    inputsJson := upd.inputsJson.getD row.inputsJson
    assistantId := upd.assistantId.or row.assistantId
    prompt := upd.prompt.or row.prompt
    modelId := upd.modelId.or row.modelId
    scheduleKind := upd.scheduleKind.getD row.scheduleKind
    runAt := (upd.runAt.map toOffset).or row.runAt
    cronExpr := upd.cronExpr.or row.cronExpr
    timezone := upd.timezone.getD row.timezone
    notifyMode := upd.notifyMode.getD row.notifyMode
    notifyOn := upd.notifyOn.getD row.notifyOn
    nextRunAt := match nextRunAt with
      | some next => next.map toOffset
      | none => row.nextRunAt
    allowedUnattendedTools := upd.allowedUnattendedTools.getD row.allowedUnattendedTools }

/-- **The inserted row**: the defaults of the table for what the request does not carry. -/
def insertedRow (id userId : Uuid) (req : CreateScheduledTask) (nextRunAt : Option Instant)
    (createdAt : Instant) : ScheduledTask :=
  { id := id
    userId := userId
    name := req.name
    enabled := true
    pausedReason := none
    targetKind := req.targetKind
    workflowId := req.workflowId
    inputsJson := req.inputsJson
    assistantId := req.assistantId
    prompt := req.prompt
    modelId := some req.modelId
    scheduleKind := req.scheduleKind
    runAt := req.runAt.map toOffset
    cronExpr := req.cronExpr
    timezone := req.timezone
    nextRunAt := nextRunAt.map toOffset
    lastRunAt := none
    lastStatus := none
    consecutiveFailures := 0
    notifyMode := req.notifyMode
    notifyOn := req.notifyOn
    boundConversationId := req.boundConversationId
    completionCondition := req.completionCondition
    allowedUnattendedTools := req.allowedUnattendedTools
    createdAt := createdAt }

@[simp] theorem Write.update_id (write : Write) (row : ScheduledTask) :
    (write.update row).id = row.id := by
  cases write with
  | armSelfPaced _ outcome _ _ => cases outcome <;> rfl
  | _ => rfl

@[simp] theorem Write.update_userId (write : Write) (row : ScheduledTask) :
    (write.update row).userId = row.userId := by
  cases write with
  | armSelfPaced _ outcome _ _ => cases outcome <;> rfl
  | _ => rfl

theorem Write.enabled_of_update {write : Write} {row : ScheduledTask}
    (enabled : (write.update row).enabled = true) : row.enabled = true := by
  cases write with
  | markFired _ nextRunAt _ pausedReason =>
    simp only [Write.update] at enabled
    split at enabled
    · cases enabled
    · split at enabled
      · cases enabled
      · exact enabled
  | armSelfPaced _ outcome _ _ =>
    cases outcome with
    | fire instant => exact enabled
    | disable => cases enabled
  | recordOutcome _ _ _ pauseReason =>
    simp only [Write.update] at enabled
    split at enabled
    · cases enabled
    · exact enabled
  | disarmSelfPaced | setBoundConversation => exact enabled

/-! ### The constraints -/

/-- What a `varchar(limit)` column keeps of a text: blanks beyond the limit are dropped, and any
other character beyond it is an error. -/
def varchar (limit : Nat) (text : String) : Option String :=
  if text.toList.length ≤ limit then some text
  else if (text.toList.drop limit).all (· = ' ') then some (String.ofList (text.toList.take limit))
  else none

/-- The `CHECK` constraints of `scheduled_tasks`. -/
def ScheduledTask.checked (row : ScheduledTask) : Bool :=
  (row.notifyMode = "always" || row.notifyMode = "silent") &&
  (row.notifyOn = "always" || row.notifyOn = "on_change") &&
  ((row.scheduleKind = "once" && row.runAt.isSome) ||
    (row.scheduleKind = "recurring" && row.cronExpr.isSome) || row.scheduleKind = "self_paced") &&
  ((row.targetKind = "workflow" && row.workflowId.isSome) ||
    (row.targetKind = "prompt" && row.prompt.isSome)) &&
  row.completionCondition.all fun text => text.toList.length ≤ maxCompletionConditionLen

/-- The row as the table stores it, or nothing when it breaks a constraint. -/
def ScheduledTask.stored? (row : ScheduledTask) : Option ScheduledTask :=
  (varchar maxNameLen row.name).bind fun name =>
    if row.checked then some { row with name := name } else none

@[simp] theorem ScheduledTask.stored?_eq_some_iff {row row' : ScheduledTask} :
    row.stored? = some row' ↔
      ∃ name, varchar maxNameLen row.name = some name ∧ row.checked = true ∧
        row' = { row with name := name } := by
  simp only [ScheduledTask.stored?, Option.bind_eq_some_iff, Option.ite_none_right_eq_some,
    Option.some.injEq]
  constructor
  · rintro ⟨name, fits, checked, rfl⟩
    exact ⟨name, fits, checked, rfl⟩
  · rintro ⟨name, fits, checked, rfl⟩
    exact ⟨name, fits, checked, rfl⟩

/-- Enabled, not paused, and armed at an instant that is not later than `now`. -/
def ScheduledTask.isDue (row : ScheduledTask) (now : Instant) : Bool :=
  row.enabled && row.pausedReason.isNone && row.nextRunAt.any fun next => next ≤ toOffset now

/-! ### The tables -/

/-- **The task rows**; the primary key keeps their ids distinct. -/
structure TaskTable where
  rows : List ScheduledTask
  ids_nodup : (rows.map (·.id)).Nodup

namespace TaskTable

def find (table : TaskTable) (id : Uuid) : Option ScheduledTask :=
  table.rows.find? fun row => row.id = id

def modify (table : TaskTable) (id : Uuid) (change : ScheduledTask → ScheduledTask)
    (keeps : ∀ row, (change row).id = row.id) : TaskTable where
  rows := table.rows.map fun row => if row.id = id then change row else row
  ids_nodup := by
    have same : (table.rows.map fun row => if row.id = id then change row else row).map (·.id) =
        table.rows.map (·.id) := by
      rw [List.map_map]
      apply List.map_congr_left
      intro row _
      show (if row.id = id then change row else row).id = row.id
      split
      · exact keeps row
      · rfl
    exact same ▸ table.ids_nodup

def write (table : TaskTable) (write : Write) : TaskTable :=
  table.modify write.target write.update write.update_id

def insert (table : TaskTable) (row : ScheduledTask) (fresh : row.id ∉ table.rows.map (·.id)) :
    TaskTable where
  rows := row :: table.rows
  ids_nodup := by
    rw [List.map_cons]
    exact List.nodup_cons.mpr ⟨fresh, table.ids_nodup⟩

def erase (table : TaskTable) (id : Uuid) : TaskTable where
  rows := table.rows.filter fun row => row.id ≠ id
  ids_nodup := (List.filter_sublist.map ScheduledTask.id).nodup table.ids_nodup

/-- `count(*) … WHERE user_id = $1 AND enabled`. -/
def countActive (table : TaskTable) (userId : Uuid) : Nat :=
  table.rows.countP fun row => row.userId = userId && row.enabled

/-- The due tasks, those armed earliest first (`ORDER BY next_run_at`). -/
def dueTasks (table : TaskTable) (now : Instant) : List ScheduledTask :=
  (table.rows.filter fun row => row.isDue now).insertionSort
    fun one two => one.nextRunAt.getD 0 ≤ two.nextRunAt.getD 0

section Lemmas

variable {table : TaskTable} {id other : Uuid} {change : ScheduledTask → ScheduledTask}
  {keeps : ∀ row, (change row).id = row.id} {row : ScheduledTask}

theorem mem_of_find (found : table.find id = some row) : row ∈ table.rows ∧ row.id = id :=
  ⟨List.mem_of_find?_eq_some found, by simpa using List.find?_some found⟩

theorem find_of_mem (member : row ∈ table.rows) : table.find row.id = some row := by
  unfold find
  cases found : table.rows.find? fun other => other.id = row.id with
  | none =>
    have absent := List.find?_eq_none.mp found row member
    simp at absent
  | some other =>
    have same : other.id = row.id := by simpa using List.find?_some found
    have equal := List.inj_on_of_nodup_map table.ids_nodup (List.mem_of_find?_eq_some found) member
      same
    rw [equal]

theorem find_modify_self : (table.modify id change keeps).find id = (table.find id).map change := by
  unfold find modify
  rw [List.find?_map]
  have same : ((fun row : ScheduledTask => decide (row.id = id)) ∘
      fun row => if row.id = id then change row else row) = fun row => decide (row.id = id) := by
    funext row
    by_cases here : row.id = id
    · simp [here, keeps]
    · simp [here]
  rw [same]
  cases found : table.rows.find? fun row => row.id = id with
  | none => rfl
  | some row =>
    have here : row.id = id := by simpa using List.find?_some found
    simp [here]

theorem find_modify_ne (ne : other ≠ id) :
    (table.modify id change keeps).find other = table.find other := by
  unfold find modify
  rw [List.find?_map]
  have same : ((fun row : ScheduledTask => decide (row.id = other)) ∘
      fun row => if row.id = id then change row else row) = fun row => decide (row.id = other) := by
    funext row
    by_cases here : row.id = id
    · simp [here, keeps]
    · simp [here]
  rw [same]
  cases found : table.rows.find? fun row => row.id = other with
  | none => rfl
  | some row =>
    have there : row.id = other := by simpa using List.find?_some found
    have away : row.id ≠ id := there.trans_ne ne
    simp [away]

theorem find_write_self (write : Write) :
    (table.write write).find write.target = (table.find write.target).map write.update :=
  find_modify_self

theorem find_write_ne {write : Write} (ne : other ≠ write.target) :
    (table.write write).find other = table.find other := find_modify_ne ne

theorem find_insert_self {fresh : row.id ∉ table.rows.map (·.id)} :
    (table.insert row fresh).find row.id = some row := by
  unfold find insert
  simp

theorem find_insert_ne {fresh : row.id ∉ table.rows.map (·.id)} (ne : other ≠ row.id) :
    (table.insert row fresh).find other = table.find other := by
  unfold find insert
  simp [Ne.symm ne]

theorem find_erase_self : (table.erase id).find id = none := by
  unfold find erase
  simp

theorem find_erase_ne (ne : other ≠ id) : (table.erase id).find other = table.find other := by
  unfold find erase
  rw [List.find?_filter]
  congr 1
  funext row
  by_cases there : row.id = other
  · simp [there, ne]
  · simp [there]

theorem countActive_modify_le {userId : Uuid} (keeps : ∀ row, (change row).id = row.id)
    (still : ∀ row, row ∈ table.rows → row.id = id → (change row).userId = userId →
      (change row).enabled = true → row.userId = userId ∧ row.enabled = true) :
    (table.modify id change keeps).countActive userId ≤ table.countActive userId := by
  unfold countActive modify
  rw [List.countP_map]
  refine List.countP_mono_left fun row member => ?_
  simp only [Function.comp_apply, Bool.and_eq_true, decide_eq_true_eq]
  by_cases here : row.id = id
  · rw [if_pos here]
    exact fun active => still row member here active.1 active.2
  · rw [if_neg here]
    exact fun active => active

theorem countActive_modify_succ {userId : Uuid} (keeps : ∀ row, (change row).id = row.id) :
    (table.modify id change keeps).countActive userId ≤ table.countActive userId + 1 := by
  obtain ⟨rows, nodup⟩ := table
  unfold countActive modify
  dsimp only
  induction rows with
  | nil => exact Nat.zero_le _
  | cons row rest ih =>
    rw [List.map_cons, List.nodup_cons] at nodup
    by_cases here : row.id = id
    · -- the ids are distinct: the others stay
      have others : rest.map (fun row => if row.id = id then change row else row) = rest := by
        refine (List.map_congr_left fun other member => if_neg fun same => nodup.1 ?_).trans
          (List.map_id rest)
        exact List.mem_map.mpr ⟨other, member, same.trans here.symm⟩
      rw [List.map_cons, others, List.countP_cons, List.countP_cons]
      split
      · split <;> omega
      · split <;> omega
    · rw [List.map_cons, if_neg here, List.countP_cons, List.countP_cons]
      have fewer := ih nodup.2
      omega

theorem countActive_insert {userId : Uuid} {fresh : row.id ∉ table.rows.map (·.id)} :
    (table.insert row fresh).countActive userId =
      table.countActive userId + if row.userId = userId ∧ row.enabled = true then 1 else 0 := by
  unfold countActive insert
  rw [List.countP_cons]
  simp only [Bool.and_eq_true, decide_eq_true_eq]

theorem countActive_erase_le {userId : Uuid} :
    (table.erase id).countActive userId ≤ table.countActive userId :=
  List.filter_sublist.countP_le

theorem mem_dueTasks {now : Instant} :
    row ∈ table.dueTasks now ↔ row ∈ table.rows ∧ row.isDue now = true := by
  unfold dueTasks
  rw [List.mem_insertionSort, List.mem_filter]

theorem dueTasks_nodup (now : Instant) : ((table.dueTasks now).map (·.id)).Nodup := by
  unfold dueTasks
  have sorted := (List.perm_insertionSort (fun one two : ScheduledTask =>
    one.nextRunAt.getD 0 ≤ two.nextRunAt.getD 0)
    (table.rows.filter fun row => row.isDue now)).map (·.id)
  exact sorted.nodup_iff.mpr ((List.filter_sublist.map ScheduledTask.id).nodup table.ids_nodup)

end Lemmas

end TaskTable

end Ziee.Scheduler
