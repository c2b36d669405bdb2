/-
**The requests of the users, and the whole system** (`handlers.rs`).

* `createTask`, `updateTask` — the checks in their order, the quota, the schedule, then one
  statement; `deleteTask`, `runNow` — the other requests that reach the rows.
* `Activity` — what may run beside the others: the tick loop, a request, the prune.
* `scheduler` — the machine they run on; a spawned firing is a thread of its own.
-/

import Ziee.Library.Obligations
import Ziee.Scheduler.Tick

namespace Ziee.Scheduler

open PortProgram Threads Ziee.Providers Ziee.Agent

/-- Refuse the request unless the condition holds. -/
def require (condition : Bool) (error : AppError) : SchedulerM Unit :=
  if condition then pure () else Program.fail error

def statement {α : Type} (query : SchedulerQuery) (decode : query.Answer → Except AppError α) :
    SchedulerM α :=
  Program.attempt (I := schedulerPorts) query decode

/-- Look a reference up, and refuse when it is not there. -/
def demand (wanted : Lookup) (error : AppError) : SchedulerM Unit := do
  let found ← statement (.lookup wanted) fun answer => answer
  require found error

def parseKind (kind : String) : Except AppError ScheduleKind :=
  if kind = "once" then .ok .once
  else if kind = "recurring" then .ok .recurring
  else if kind = "self_paced" then .ok .selfPaced
  else .error (.badRequest "SCHEDULER_BAD_SCHEDULE_KIND"
    "schedule_kind must be 'once', 'recurring', or 'self_paced'")

def mapScheduleErr {α : Type} : Except ScheduleError α → Except AppError α
  | .ok value => .ok value
  | .error error => .error (.badRequest "SCHEDULER_INVALID_SCHEDULE" error.display)

def validateModelAccess (userId modelId : Uuid) : SchedulerM Unit := do
  let providerId ← statement (.modelProvider modelId) fun answer => answer
  match providerId with
  | none => Program.fail (.notFound "Model")
  | some providerId =>
    demand (.providerAccess userId providerId)
      (.forbidden "SCHEDULER_MODEL_FORBIDDEN" "you do not have access to this model")

def maxAllowedTools : Nat := 100

def validateAllowedTools (userId : Uuid) (allowed : List AllowedTool) : SchedulerM Unit :=
  if allowed.isEmpty then pure ()
  else if maxAllowedTools < allowed.length then
    Program.fail (.badRequest "SCHEDULER_ALLOWLIST_TOO_LARGE"
      ("at most " ++ toString maxAllowedTools ++ " allow-list entries"))
  else do
    let accessible ← statement (.accessibleServers userId) fun answer => answer
    require (allowed.all fun entry => accessible.contains entry.serverId)
      (.forbidden "SCHEDULER_ALLOWLIST_INACCESSIBLE"
        "an allow-listed tool references a server you cannot access")

/-- `str::len`: the bytes of a text in UTF-8, from its characters. -/
def byteLen (text : List Char) : Nat := (text.map Char.utf8Size).sum

/-- `name.trim()` is not empty and not too long. -/
def nameOk (name : String) : Bool :=
  let trimmed := trim name.toList
  !trimmed.isEmpty && byteLen trimmed ≤ maxNameLen

def promptOk (prompt : Option String) : Bool :=
  prompt.any fun text => !isBlank text && byteLen text.toList ≤ maxPromptLen

def validateTarget (body : CreateScheduledTask) : Except AppError Unit :=
  if body.targetKind = "workflow" then
    if body.workflowId.isNone then
      .error (.badRequest "SCHEDULER_BAD_TARGET" "workflow target requires workflow_id")
    else .ok ()
  else if body.targetKind = "prompt" then
    if promptOk body.prompt then .ok ()
    else .error (.badRequest "SCHEDULER_BAD_TARGET"
      "prompt target requires a non-empty prompt within the size limit")
  else .error (.badRequest "SCHEDULER_BAD_TARGET_KIND" "target_kind must be 'workflow' or 'prompt'")

/-- `if let Some(value) = …`. -/
def ifSome {α : Type} (value : Option α) (check : α → SchedulerM Unit) : SchedulerM Unit :=
  match value with
  | some value => check value
  | none => pure ()

def validateWorkflow (userId workflowId : Uuid) : SchedulerM Unit := do
  demand (.workflowAccess userId workflowId) (.notFound "Workflow")
  let elicits ← statement (.lookup (.workflowHasElicitStep workflowId)) fun answer => answer
  require (!elicits) (.badRequest "SCHEDULER_WORKFLOW_NEEDS_INPUT"
    "this workflow needs interactive input (an elicit step) and can't be scheduled to run unattended")

def validateReferences (userId : Uuid) (body : CreateScheduledTask) : SchedulerM Unit :=
  if body.targetKind = "workflow" then ifSome body.workflowId (validateWorkflow userId)
  else if body.targetKind = "prompt" then
    ifSome body.assistantId fun assistantId =>
      demand (.assistant userId assistantId) (.notFound "Assistant")
  else pure ()

def notifyOk (body : CreateScheduledTask) : Bool :=
  (body.notifyMode = "always" || body.notifyMode = "silent") &&
    (body.notifyOn = "always" || body.notifyOn = "on_change")

/-- **The completion condition**: a blank one is dropped; a real one needs a self-paced prompt task
and has a limit. -/
def validateCondition (kind : ScheduleKind) (body : CreateScheduledTask) :
    Except AppError (Option String) :=
  match body.completionCondition with
  | none => .ok none
  | some condition =>
    if isBlank condition then .ok none
    else if maxCompletionConditionLen < byteLen condition.toList then
      .error (.badRequest "SCHEDULER_BAD_CONDITION" "completion_condition exceeds the length limit")
    else if body.targetKind ≠ "prompt" ∨ kind ≠ .selfPaced then
      .error (.badRequest "SCHEDULER_BAD_CONDITION"
        "a completion_condition (goal-seeking) requires a self-paced prompt task")
    else .ok (some condition)

def quotaError (cap : Int) : AppError :=
  .unprocessableEntity "SCHEDULER_TASK_QUOTA"
    ("active scheduled-task limit (" ++ toString cap ++ ") reached")

/-- **The quota**: as many enabled tasks as the cap are enough. -/
def checkQuota (userId : Uuid) (settings : SchedulerAdminSettings) : SchedulerM Unit := do
  let active ← statement (.countActiveForUser userId) fun answer => answer
  if settings.maxActiveTasksPerUser ≤ active then
    Program.fail (quotaError settings.maxActiveTasksPerUser)
  else pure ()

def scheduleNext (cron : CronLibrary) (settings : SchedulerAdminSettings) (kind : ScheduleKind)
    (runAt : Option Instant) (cronExpr : Option String) (timezone : String) (now : Instant) :
    Except AppError (Option Instant) := do
  mapScheduleErr (validateSchedule cron kind runAt cronExpr timezone settings.minIntervalSeconds
    now)
  mapScheduleErr (nextOccurrence cron kind runAt cronExpr timezone now)

/-! ### The requests -/

/-- The checks of the body that come before any of the database. -/
def validateBody (body : CreateScheduledTask) : SchedulerM Unit := do
  require (nameOk body.name) (.badRequest "SCHEDULER_BAD_NAME" "name is empty or too long")
  Program.ofExcept (validateTarget body)

def validateAccess (userId : Uuid) (body : CreateScheduledTask) : SchedulerM Unit := do
  validateReferences userId body
  validateModelAccess userId body.modelId
  validateAllowedTools userId body.allowedUnattendedTools
  ifSome body.boundConversationId fun conversationId =>
    demand (.conversation userId conversationId) (.notFound "Conversation")

def admitCreate (cron : CronLibrary) (userId : Uuid) (body : CreateScheduledTask)
    (kind : ScheduleKind) : SchedulerM ScheduledTask := do
  let settings ← statement .settings fun answer => answer
  checkQuota userId settings
  let now ← ask .now
  let next ← Program.ofExcept
    (scheduleNext cron settings kind body.runAt body.cronExpr body.timezone now)
  statement (.insert userId body next) fun answer => answer

def createTask (cron : CronLibrary) (userId : Uuid) (body : CreateScheduledTask) :
    SchedulerM ScheduledTask := do
  validateBody body
  validateAccess userId body
  require (notifyOk body) (.badRequest "SCHEDULER_BAD_NOTIFY_MODE"
    "notify_mode must be always|silent and notify_on must be always|on_change")
  let kind ← Program.ofExcept (parseKind body.scheduleKind)
  let condition ← Program.ofExcept (validateCondition kind body)
  admitCreate cron userId { body with completionCondition := condition } kind

def revalidate (userId : Uuid) (body : UpdateScheduledTask) : SchedulerM Unit := do
  ifSome body.assistantId fun assistantId =>
    demand (.assistant userId assistantId) (.notFound "Assistant")
  ifSome body.modelId (validateModelAccess userId)
  ifSome body.allowedUnattendedTools (validateAllowedTools userId)

def UpdateScheduledTask.touchesSchedule (body : UpdateScheduledTask) : Bool :=
  body.scheduleKind.isSome || body.runAt.isSome || body.cronExpr.isSome || body.timezone.isSome ||
    body.enabled = some true

/-- The new `next_run_at`, from the fields of the request and those of the row it read. -/
def recompute (cron : CronLibrary) (existing : ScheduledTask) (body : UpdateScheduledTask) :
    SchedulerM (Option (Option Instant)) :=
  if body.touchesSchedule then do
    let kind ← Program.ofExcept (parseKind (body.scheduleKind.getD existing.scheduleKind))
    let settings ← statement .settings fun answer => answer
    let now ← ask .now
    let next ← Program.ofExcept (scheduleNext cron settings kind (body.runAt.or existing.runAt)
      (body.cronExpr.or existing.cronExpr) (body.timezone.getD existing.timezone) now)
    pure (some next)
  else pure none

/-- The quota is enforced again when the request re-enables a task that was read disabled. -/
def requota (userId : Uuid) (existing : ScheduledTask) (body : UpdateScheduledTask) :
    SchedulerM Unit :=
  if body.enabled = some true ∧ existing.enabled = false then do
    let settings ← statement .settings fun answer => answer
    checkQuota userId settings
  else pure ()

/-- The quota, the schedule, and the update, for the row that was read. -/
def applyRequest (cron : CronLibrary) (userId id : Uuid) (existing : ScheduledTask)
    (body : UpdateScheduledTask) : SchedulerM ScheduledTask := do
  requota userId existing body
  let next ← recompute cron existing body
  let task ← statement (.update userId id body next) fun answer => answer
  match task with
  | some task => pure task
  | none => Program.fail (.notFound "Scheduled task")

def updateTask (cron : CronLibrary) (userId id : Uuid) (body : UpdateScheduledTask) :
    SchedulerM ScheduledTask := do
  let existing ← statement (.getForUser userId id) fun answer => answer
  match existing with
  | none => Program.fail (.notFound "Scheduled task")
  | some existing => do
    revalidate userId body
    applyRequest cron userId id existing body

def deleteTask (userId id : Uuid) : SchedulerM Unit := do
  let affected ← statement (.delete userId id) fun answer => answer
  if affected = 0 then Program.fail (.notFound "Scheduled task") else pure ()

/-- **`run_now`**: fire at once, on the row as it is. -/
def runNow (userId id : Uuid) : SchedulerM Unit := do
  let task ← statement (.getForUser userId id) fun answer => answer
  match task with
  | none => Program.fail (.notFound "Scheduled task")
  | some task => do
    let now ← ask .now
    ask (.spawnFiring task .runNow now)

/-! ### The system -/

/-- What runs beside the others. -/
inductive Activity
  | tickLoop (sweeps : Nat)
  | create (userId : Uuid) (body : CreateScheduledTask)
  | update (userId id : Uuid) (body : UpdateScheduledTask)
  | delete (userId id : Uuid)
  | fireNow (userId id : Uuid)
  | prune

def Activity.program (cron : CronLibrary) : Activity → SchedulerM Unit
  | .tickLoop sweeps => runTickLoop cron sweeps
  | .create userId body => do
    let _ ← createTask cron userId body
    pure ()
  | .update userId id body => do
    let _ ← updateTask cron userId id body
    pure ()
  | .delete userId id => deleteTask userId id
  | .fireNow userId id => runNow userId id
  | .prune => pruneOnce

def startedBy : SchedulerEvent → List (SchedulerM Unit)
  | ⟨.spawnFiring task trigger now, _⟩ => [fireTask task trigger now]
  | _ => []

def scheduler : Machine schedulerPorts AppError Unit Shared := ⟨Answers, startedBy⟩

/-- The system before anything has run. -/
def Activity.config (cron : CronLibrary) (activities : List Activity) (shared : Shared) :
    Config schedulerPorts AppError Unit Shared :=
  ⟨shared, activities.map (Activity.program cron)⟩

/-- **A firing of the task is in flight** in this thread: it is about to be spawned, or it has begun
and has something left to ask. -/
def InFlight (id : Uuid) (program : SchedulerM Unit) : Prop :=
  ∃ task trigger now query next, task.id = id ∧ program = .ask query next ∧
    (query = .spawnFiring task trigger now ∨ Residual (fireTask task trigger now) program)

end Ziee.Scheduler
