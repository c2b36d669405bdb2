/-
**The tick, the firing and the prune** (`tick.rs`, `dispatch.rs`, `prune.rs`).

A sweep claims the due tasks, advances each and spawns its firing; a firing runs the target on the
snapshot of the row the claim returned, and writes the outcome back when it is done.

* `runOnce` — one sweep: `fireDue` for each claimed task.
* `fireTask` — one firing: `dispatch`, the outcome on the row (`recordFiring`), the history row,
  and for a self-paced task the next fire (`writeBack`).
-/

import Ziee.Scheduler.Ports

namespace Ziee.Scheduler

open PortProgram Threads Ziee.Providers Ziee.Agent

/-- What the tick records after a firing. -/
structure DispatchOutcome where
  success : Bool
  status : String
  errorClass : Option String
  errorMessage : Option String
  resultText : Option String
  scheduleProposal : Option SelfPacedProposal

/-- **`finalize_success`**: no change is reported when the task asks for changes only, nothing
changed and no tool was skipped. -/
def finalizeSuccess (task : ScheduledTask) (raw : RawResult) (changed : Bool) : DispatchOutcome :=
  { success := true
    status := if task.notifyOn = "on_change" ∧ changed = false ∧ raw.skippedTools.isEmpty
      then "no_change" else "completed"
    errorClass := none
    errorMessage := none
    resultText := if isBlank raw.text then none else some raw.text
    scheduleProposal := raw.scheduleProposal }

/-- `StatusCode::from_u16(…).unwrap_or(INTERNAL_SERVER_ERROR)`. -/
def httpStatus (code : Nat) : Nat := if 100 ≤ code ∧ code < 1000 then code else 500

/-- **`finalize_failure`**: the error's class and text. -/
def finalizeFailure (error : AppError) : DispatchOutcome :=
  { success := false
    status := "failed"
    errorClass := some (classify (httpStatus error.statusCode) false).asStr
    errorMessage := some error.message
    resultText := none
    scheduleProposal := none }

/-- **`dispatch`**: it never fails, a failure is captured into the outcome. -/
def dispatch (task : ScheduledTask) (trigger : RunTrigger) : SchedulerM DispatchOutcome := do
  let raw ← ask (.runTarget task trigger)
  match raw with
  | .ok raw => do
    let changed ← ask (.detectChange task raw.text)
    pure (finalizeSuccess task raw changed)
  | .error error => pure (finalizeFailure error)

/-- **`self_paced_writeback`**: without a proposal the loop stops. -/
def selfPacedWriteback (proposal : Option SelfPacedProposal)
    (minIntervalSeconds maxHorizonDays : Int) (createdAt now : Instant) : SelfPacedOutcome :=
  match proposal with
  | some proposal => nextSelfPacedFire proposal minIntervalSeconds maxHorizonDays createdAt now
  | none => .disable

/-! ### The firing -/

/-- Whether a firing pauses its task, and why: at once for a terminal class, and for a transient one
when the failures in a row reach the cap. The count is the snapshot's. -/
def pauseReason (task : ScheduledTask) (outcome : DispatchOutcome) (maxFailures : Int) :
    Option String :=
  if outcome.success then none
  else
    let failureClass := outcome.errorClass.getD "internal"
    if failureClass = "transient" then
      if shouldAutopause (task.consecutiveFailures + 1) maxFailures then some "max_failures"
      else none
    else some failureClass

def recordScheduled (task : ScheduledTask) (outcome : DispatchOutcome) : SchedulerM Unit := do
  let settings ← ask .settings
  let maxFailures := match settings with
    | .ok settings => settings.maxConsecutiveFailures
    | .error _ => 5
  let _ ← ask (.execute (.recordOutcome task.id outcome.status outcome.success
    (pauseReason task outcome maxFailures)))
  pure ()

/-- A manual trigger leaves the failure bookkeeping alone. -/
def recordFiring (task : ScheduledTask) (trigger : RunTrigger) (outcome : DispatchOutcome) :
    SchedulerM Unit :=
  if trigger ≠ .runNow then recordScheduled task outcome else pure ()

def historyRow (task : ScheduledTask) (trigger : RunTrigger) (outcome : DispatchOutcome)
    (now : Instant) : TaskRun :=
  ⟨task.id, task.userId, trigger, outcome.status, outcome.errorClass, outcome.errorMessage, now⟩

/-- What the verdict makes of the row: the outcome, and the reason when it disables. -/
def goalOutcome : GoalOutcome → SelfPacedOutcome × String
  | .done => (.disable, "completed")
  | .again instant => (.fire instant, "completed")
  | .incomplete => (.disable, "incomplete")

def goalVerdict (task : ScheduledTask) (condition : String) (outcome : DispatchOutcome)
    (modelId : Option Uuid) : SchedulerM GoalVerdict :=
  let artifact := outcome.resultText.getD ""
  match modelId with
  | some modelId =>
    if isBlank artifact then pure .notDone
    else ask (.evaluateGoal modelId task.userId condition artifact)
  | none => pure .notDone

def goalWriteBack (task : ScheduledTask) (condition : String) (outcome : DispatchOutcome)
    (minInterval maxHorizon : Int) (now : Instant) : SchedulerM Unit := do
  let settings ← ask .goalSettings
  let modelId := match settings with
    | .ok settings => settings.goalEvalModelId.or task.modelId
    | .error _ => task.modelId
  let maxTurns := match settings with
    | .ok settings => settings.goalSeekMaxTurns
    | .error _ => 10
  let verdict ← goalVerdict task condition outcome modelId
  let counted ← ask (.countScheduledRunsForTask task.id)
  let turns : Nat := match counted with
    | .ok turns => turns
    | .error _ => 0
  let decided := goalOutcome
    (GoalEval.decide verdict turns maxTurns minInterval maxHorizon task.createdAt now)
  let _ ← ask (.execute (.armSelfPaced task.id decided.1 now decided.2))
  pure ()

def plainWriteBack (task : ScheduledTask) (outcome : DispatchOutcome)
    (minInterval maxHorizon : Int) (now : Instant) : SchedulerM Unit := do
  let _ ← ask (.execute (.armSelfPaced task.id
    (selfPacedWriteback outcome.scheduleProposal minInterval maxHorizon task.createdAt now) now
    "completed"))
  pure ()

/-- **The self-paced write-back**, of a firing that succeeded only: "a transient failure under the
cap stays enabled for its next natural re-fire". -/
def writeBack (task : ScheduledTask) (trigger : RunTrigger) (outcome : DispatchOutcome)
    (now : Instant) : SchedulerM Unit :=
  if outcome.success = true ∧ task.kind = .selfPaced then do
    let settings ← ask .settings
    let minInterval := match settings with
      | .ok settings => settings.minIntervalSeconds
      | .error _ => 300
    let maxHorizon := match settings with
      | .ok settings => settings.maxHorizonDays
      | .error _ => 7
    match task.completionCondition with
    | some condition => goalWriteBack task condition outcome minInterval maxHorizon now
    | none =>
      if trigger ≠ .runNow then plainWriteBack task outcome minInterval maxHorizon now else pure ()
  else pure ()

/-- **`fire_task`**: dispatch, then record. -/
def fireTask (task : ScheduledTask) (trigger : RunTrigger) (now : Instant) : SchedulerM Unit := do
  let outcome ← dispatch task trigger
  finish outcome
where
  finish (outcome : DispatchOutcome) : SchedulerM Unit := do
    recordFiring task trigger outcome
    let _ ← ask (.insertRun (historyRow task trigger outcome now))
    writeBack task trigger outcome now

/-! ### The tick -/

/-- How many due tasks one sweep processes. -/
def batch : Nat := 50

/-- **`preemptive_pause_reason`**: the workflow is gone, or the conversation a successful firing had
bound is. -/
def preemptivePauseReason (task : ScheduledTask) : Option String :=
  if task.targetKind = "workflow" then
    if task.workflowId.isNone then some "target_missing" else none
  else if task.targetKind = "prompt" then
    if task.boundConversationId.isNone ∧
        (task.lastStatus = some "completed" ∨ task.lastStatus = some "no_change") then
      some "conversation_deleted"
    else none
  else none

def pausedRow (task : ScheduledTask) (reason : String) (now : Instant) : TaskRun :=
  ⟨task.id, task.userId, .schedule, "failed", some reason,
    some ("task paused: " ++ reason ++ " (referenced entity deleted)"), now⟩

/-- What the tick writes to `next_run_at` before it dispatches. -/
def advancedTo (cron : CronLibrary) (task : ScheduledTask) (now : Instant) : Option Instant :=
  match nextOccurrence cron task.kind task.runAt task.cronExpr task.timezone now with
  | .ok next => if task.kind = .once then none else next
  | .error _ => none

/-- **One claimed task**: pause it, or advance it and spawn its firing. A task whose advance fails
is not dispatched. -/
def fireDue (cron : CronLibrary) (task : ScheduledTask) (now : Instant) : SchedulerM Unit :=
  match preemptivePauseReason task with
  | some reason => do
    let _ ← ask (.execute (.markFired task.id none now (some reason)))
    let _ ← ask (.insertRun (pausedRow task reason now))
    pure ()
  | none => do
    let advanced ← ask (.execute
      (if task.kind = .selfPaced then .disarmSelfPaced task.id now
        else .markFired task.id (advancedTo cron task now) now none))
    match advanced with
    | .ok () => ask (.spawnFiring task .schedule now)
    | .error _ => pure ()

def sweep (cron : CronLibrary) (now : Instant) : List ScheduledTask → SchedulerM Unit
  | [] => pure ()
  | task :: rest => do
    fireDue cron task now
    sweep cron now rest

/-- **`run_once`**: claim the due tasks, and fire each. -/
def runOnce (cron : CronLibrary) : SchedulerM Unit := do
  let now ← ask .now
  let due ← ask (.claimDueTasks now batch)
  match due with
  | .ok due => sweep cron now due
  | .error _ => pure ()

def runTickLoop (cron : CronLibrary) : Nat → SchedulerM Unit
  | 0 => pure ()
  | sweeps + 1 => do
    runOnce cron
    runTickLoop cron sweeps

/-! ### The prune -/

/-- **`prune_once`**: the history older than the retention; no retention keeps it for ever. -/
def pruneOnce : SchedulerM Unit := do
  let settings ← ask .settings
  match settings with
  | .error _ => pure ()
  | .ok settings =>
    if settings.notificationRetentionDays ≤ 0 then pure ()
    else do
      let now ← ask .now
      let _ ← ask (.pruneRunsOlderThan (now - days settings.notificationRetentionDays))
      pure ()

end Ziee.Scheduler
