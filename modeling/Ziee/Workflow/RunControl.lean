/-
**The control of one workflow run** (`registry.rs`, `repository.rs`, `elicit.rs`, `runner.rs`,
`startup_sweep.rs`).

One run has a row in the database and, in memory, at most one handle that says whether a runner is
resident. The requests that arrive for it, its runners and the boot sweep are threads that share
both. Each thread is a program over `ControlQuery`: a registry operation, one SQL statement, or a
part of the server that only answers.

* `cancelRun`, `failOrphanedRuns`, `submitElicit`, `resumeRun`, `runWorkflow` — the programs.
* `control` — the machine they run on; `resume_run` starts `run_workflow` as a thread of its own.
-/

import Ziee.Library.Threads
import Ziee.Workflow.RunStore

namespace Ziee.Workflow

open PortProgram Threads Ziee.Providers Ziee.Agent

structure SubmittedResponse where
  stepId : String
  elicitationId : Uuid
  response : Json

/-- The columns of a `workflow_runs` row that the control of the run reads and writes. -/
structure RunRecord where
  userId : Uuid
  workflowId : Option Uuid
  jobKind : String
  status : WorkflowRunStatus
  errorMessage : Option String
  resumableAgent : Bool
  createdAt : Nat
  pendingElicitation : Option PendingElicitation
  elicitResponse : Option SubmittedResponse

inductive Statement
  | markStatus (status : WorkflowRunStatus) (errorMessage : Option String)
  | markRunning
  | heartbeat
  | cancelCas
  | sweepAgentRuns (cutoff : Nat)
  | sweepKind (jobKind : String) (cutoff : Nat)
  | setPendingElicitation (pending : Option PendingElicitation)
  | setElicitResponse (response : Option SubmittedResponse)

/-- `status IN ('pending', 'running')`. -/
def WorkflowRunStatus.isInFlight : WorkflowRunStatus → Bool
  | .pending | .running => true
  | _ => false

/-- What a statement makes of the row, when its `WHERE` matches. -/
def Statement.update : Statement → RunRecord → Option RunRecord
  | .markStatus status errorMessage, row =>
    if row.status.isTerminal = false ∨ (status = .cancelled ∧ row.status = .cancelled) then
      some { row with status := status, errorMessage := errorMessage }
    else none
  | .markRunning, row =>
    if row.status = .pending then some { row with status := .running } else none
  | .heartbeat, row => if row.status.isInFlight then some row else none
  | .cancelCas, row =>
    if row.status.isInFlight ∨ row.status = .waiting ∨ row.status = .resumable then
      some { row with status := .cancelled, errorMessage := some "cancelled by user" }
    else none
  | .sweepAgentRuns cutoff, row =>
    if row.status = .running ∧ row.resumableAgent ∧ row.createdAt < cutoff then
      some { row with status := .resumable }
    else none
  | .sweepKind jobKind cutoff, row =>
    if row.status.isInFlight ∧ row.jobKind = jobKind ∧ row.createdAt < cutoff then
      some { row with status := .resumable }
    else none
  | .setPendingElicitation pending, row => some { row with pendingElicitation := pending }
  | .setElicitResponse response, row => some { row with elicitResponse := response }

/-- What the fail sweep makes of a row that is in its batch. -/
def RunRecord.swept (row : RunRecord) : RunRecord :=
  { row with status := .failed, errorMessage := some "server restart during execution" }

/-! ### The ports -/

structure RunStep where
  id : String
  /-- Whether it is an elicit step, which consumes a submitted response. -/
  elicits : Bool

/-- How the dispatch of a step went. -/
inductive StepEnd
  | completed
  | failed (error : String)
  | cancelled
  /-- It parked on a durable gate; the agent's gate passes a failing statement on. -/
  | gate (pending : PendingElicitation) (strict : Bool)
  /-- The wall clock of the run ended while it ran. -/
  | timedOut (seconds : Nat)

inductive ControlQuery
  | runnerResident
  | hasHandle
  | register
  | setNoRunner
  | unregister
  | isCancelled
  | cancelHandle
  | deliver (elicitationId : Uuid) (response : Json)
  | findRun
  | execute (statement : Statement)
  | sweepBatch (cutoff limit : Nat)
  | deadlinePassed
  | validateResponse (pending : PendingElicitation) (response : Json)
  | prepareResume (run : RunRecord)
  | preflight (run : RunRecord)
  | resolveProvider
  | spawnRunner
  | isPersisted (step : RunStep)
  | executeStep (step : RunStep) (consumed : Bool)
  | resolveOutputs

/-- What may be answered; a statement returns the row it wrote, if it matched. -/
abbrev ControlQuery.Answer : ControlQuery → Type
  | .runnerResident => Bool
  | .hasHandle => Bool
  | .register => Unit
  | .setNoRunner => Unit
  | .unregister => Unit
  | .isCancelled => Bool
  | .cancelHandle => Bool
  | .deliver _ _ => Except AppError Unit
  | .findRun => Except AppError (Option RunRecord)
  | .execute _ => Except AppError (Option RunRecord)
  | .sweepBatch _ _ => Except AppError Nat
  | .deadlinePassed => Bool
  | .validateResponse _ _ => Except AppError Unit
  | .prepareResume _ => Except AppError Unit
  | .preflight _ => Except AppError Unit
  | .resolveProvider => Except AppError Unit
  | .spawnRunner => Unit
  | .isPersisted _ => Bool
  | .executeStep _ _ => StepEnd
  | .resolveOutputs => Except AppError Unit

abbrev controlPorts : Interface := ⟨ControlQuery, ControlQuery.Answer⟩

abbrev ControlM (α : Type) : Type := Program controlPorts AppError α

abbrev ControlEvent : Type := Event controlPorts

def ask (query : ControlQuery) : ControlM query.Answer := Program.perform (I := controlPorts) query

def findRun : ControlM (Option RunRecord) :=
  Program.attempt (I := controlPorts) ControlQuery.findRun fun answer => answer

def execute (statement : Statement) : ControlM (Option RunRecord) :=
  Program.attempt (I := controlPorts) (ControlQuery.execute statement) fun answer => answer

/-- Run a statement and go on whatever it answers (`let _ = …`). -/
def tryExecute (statement : Statement) : ControlM Unit := do
  let _ ← ask (.execute statement)
  pure ()

/-- Ask a part of the server that may fail, and fail with it. -/
def prepareResume (run : RunRecord) : ControlM Unit :=
  Program.attempt (I := controlPorts) (ControlQuery.prepareResume run) fun answer => answer

def preflight (run : RunRecord) : ControlM Unit :=
  Program.attempt (I := controlPorts) (ControlQuery.preflight run) fun answer => answer

def resolveProvider : ControlM Unit :=
  Program.attempt (I := controlPorts) ControlQuery.resolveProvider fun answer => answer

def validateResponse (pending : PendingElicitation) (response : Json) : ControlM Unit :=
  Program.attempt (I := controlPorts) (ControlQuery.validateResponse pending response)
    fun answer => answer

def deliver (elicitationId : Uuid) (response : Json) : ControlM Unit :=
  Program.attempt (I := controlPorts) (ControlQuery.deliver elicitationId response)
    fun answer => answer

def sweepBatch (cutoff limit : Nat) : ControlM Nat :=
  Program.attempt (I := controlPorts) (ControlQuery.sweepBatch cutoff limit) fun answer => answer

/-! ### The cancel request and the boot sweep -/

/-- `cancel_run`: whether the cancel landed, or the run was already terminal. -/
def cancelRun (userId : Uuid) : ControlM Bool := do
  let run ← findRun
  match run with
  | none => Program.fail ⟨"WorkflowRun not found"⟩
  | some run =>
    if run.userId ≠ userId then Program.fail ⟨"workflow run is owned by another user"⟩
    else do
      let prior ← execute .cancelCas
      let _ ← ask .cancelHandle
      pure prior.isSome

inductive OrphanSweepPolicy
  | fail
  | resumable
  deriving DecidableEq, Repr

structure JobKindPolicy where
  jobKind : String
  orphanSweep : OrphanSweepPolicy

def jobKindPolicies : List JobKindPolicy :=
  [⟨"workflow", .fail⟩, ⟨"sandbox_exec", .fail⟩, ⟨"subagent", .fail⟩]

/-- The kinds that replay from a checkpoint are spared. -/
def sweepKinds (cutoff : Nat) : List JobKindPolicy → ControlM Unit
  | [] => pure ()
  | policy :: rest =>
    if policy.orphanSweep = .resumable then do
      let _ ← execute (.sweepKind policy.jobKind cutoff)
      sweepKinds cutoff rest
    else sweepKinds cutoff rest

def sweepBatchSize : Nat := 1000

/-- Batches until one is not full; the source's loop has no bound. -/
def failBatches (cutoff : Nat) : Nat → Nat → ControlM Nat
  | 0, total => pure total
  | fuel + 1, total => do
    let swept ← sweepBatch cutoff sweepBatchSize
    if swept < sweepBatchSize then pure (total + swept) else failBatches cutoff fuel (total + swept)

/-- `fail_orphaned_runs`: agent runs and replayable kinds are spared, the rest fail. -/
def failOrphanedRuns (policies : List JobKindPolicy) (cutoff batches : Nat) : ControlM Nat := do
  let _ ← execute (.sweepAgentRuns cutoff)
  sweepKinds cutoff policies
  failBatches cutoff batches 0

/-! ### Resume and submit -/

/-- **`resume_run`**: nothing to do when a runner is resident or the run is not parked; else the run
is prepared, its handle registered, and a runner started. -/
def resumeRun : ControlM Unit := do
  let resident ← ask .runnerResident
  if resident then pure ()
  else do
    let run ← findRun
    match run with
    | none => Program.fail ⟨"WorkflowRun not found"⟩
    | some run =>
      if run.status ≠ .waiting ∧ run.status ≠ .resumable then pure ()
      else if run.workflowId.isNone then pure ()
      else do
        promote run
        prepareResume run
        let _ ← ask .register
        startRunner run
where
  /-- A crashed run has no gate to consume: it is running again. -/
  promote (run : RunRecord) : ControlM Unit :=
    if run.status = .resumable then do
      let _ ← execute (.markStatus .running none)
      pure ()
    else pure ()
  startRunner (run : RunRecord) : ControlM Unit := do
    preflight run
    resolveProvider
    ask .spawnRunner

/-- **`submit_elicit`**: to a resident runner through its slot, else into the row and resume. -/
def submitElicit (userId elicitationId : Uuid) (response : Json) : ControlM Unit := do
  let row ← findRun
  match row with
  | none => Program.fail ⟨"WorkflowRun not found"⟩
  | some row =>
    if row.userId ≠ userId then Program.fail ⟨"workflow run is owned by another user"⟩
    else
      match row.pendingElicitation with
      | none => Program.fail ⟨"no pending elicitation for this run"⟩
      | some pending =>
        if pending.elicitationId ≠ elicitationId then
          Program.fail ⟨"elicitation_id no longer pending (already resolved or replaced)"⟩
        else do
          let late ← ask .deadlinePassed
          if late then Program.fail ⟨"elicitation deadline has passed"⟩
          else do
            validateResponse pending response
            let resident ← ask .runnerResident
            if resident then deliver elicitationId response
            else if row.status ≠ .waiting then Program.fail ⟨"run is not awaiting input"⟩
            else do
              let _ ← execute (.setElicitResponse (some ⟨pending.stepId, elicitationId, response⟩))
              resumeRun

/-! ### The runner -/

inductive RunInnerOutcome
  | completed
  | cancelled
  | failed (error : String)
  | suspended

def consumeResponse (step : RunStep) : ControlM Bool :=
  if step.elicits then do
    let row ← ask .findRun
    match row with
    | .ok (some row) =>
      if (row.elicitResponse.map (·.stepId)) = some step.id then do
        tryExecute (.markStatus .running none)
        tryExecute (.setElicitResponse none)
        pure true
      else pure false
    | _ => pure false
  else pure false

/-- A durable gate: the pending record, then `waiting`. -/
def parkRun (pending : PendingElicitation) (strict : Bool) : ControlM RunInnerOutcome := do
  let persisted ← ask (.execute (.setPendingElicitation (some pending)))
  match persisted with
  | .error error => pure (.failed ("persist pending elicit: " ++ error.display))
  | .ok _ => do
    let marked ← ask (.execute (.markStatus .waiting none))
    match marked with
    | .ok _ => pure .suspended
    | .error error => if strict then pure (.failed error.display) else pure .suspended

/-- The cancel flip in the database is looked at between steps. -/
def cancelledInDatabase : ControlM Bool := do
  let row ← ask .findRun
  match row with
  | .ok (some row) => pure (row.status = .cancelled)
  | _ => pure false

/-- `run_inner`: the steps in order, those with a persisted output skipped. -/
def runSteps : List RunStep → ControlM RunInnerOutcome
  | [] => do
    let resolved ← ask .resolveOutputs
    match resolved with
    | .ok () => pure .completed
    | .error error => pure (.failed ("output resolution: " ++ error.display))
  | step :: rest => do
    let cancelled ← ask .isCancelled
    if cancelled then pure .cancelled
    else do
      let persisted ← ask (.isPersisted step)
      if persisted then runSteps rest
      else do
        let consumed ← consumeResponse step
        let ended ← ask (.executeStep step consumed)
        match ended with
        | .completed => do
          let flipped ← cancelledInDatabase
          if flipped then pure .cancelled else runSteps rest
        | .failed error => pure (.failed ("step '" ++ step.id ++ "' failed: " ++ error))
        | .cancelled => pure .cancelled
        | .gate pending strict => parkRun pending strict
        | .timedOut seconds =>
          pure (.failed ("workflow runner wall-clock timeout (" ++ toString seconds ++ "s)"))

def finishRun : RunInnerOutcome → ControlM Unit
  | .completed => do
    tryExecute (.markStatus .completed none)
    ask .unregister
  | .cancelled => do
    tryExecute (.markStatus .cancelled (some "cancelled by user"))
    ask .unregister
  | .failed error => do
    tryExecute (.markStatus .failed (some error))
    ask .unregister
  | .suspended => ask .setNoRunner

/-- **`run_workflow`**: the task of a runner. -/
def runWorkflow (steps : List RunStep) : ControlM Unit := do
  let found ← ask .hasHandle
  if found then work
  else do
    ask .register
    work
where
  work : ControlM Unit := do
    tryExecute .markRunning
    let outcome ← runSteps steps
    finishRun outcome

/-! ### The machine -/

/-- The row, and what the handle says: no handle, or whether a runner is resident. -/
structure Shared where
  record : Option RunRecord
  handle : Option Bool

/-- `runner_resident`. -/
def Shared.resident (shared : Shared) : Bool := shared.handle.getD false

def Shared.write (shared : Shared) (statement : Statement) : Shared :=
  { shared with record := shared.record.map fun row => (statement.update row).getD row }

/-- A query that the shared state has no part in. -/
def ControlQuery.isOutside : ControlQuery → Bool
  | .isCancelled | .cancelHandle | .deliver _ _ | .deadlinePassed | .validateResponse _ _
  | .prepareResume _ | .preflight _ | .resolveProvider | .spawnRunner | .isPersisted _
  | .executeStep _ _ | .resolveOutputs => true
  | _ => false

/-- **What the row and the handle answer.** A statement may also fail, and then writes nothing; a
batch of the sweep takes any row it matches, and leaves any. -/
inductive Answers (shared : Shared) : ControlEvent → Shared → Prop
  | resident : Answers shared ⟨.runnerResident, shared.resident⟩ shared
  | handle : Answers shared ⟨.hasHandle, shared.handle.isSome⟩ shared
  | registers : Answers shared ⟨.register, ()⟩ { shared with handle := some true }
  | leaves : Answers shared ⟨.setNoRunner, ()⟩
      { shared with handle := shared.handle.map fun _ => false }
  | unregisters : Answers shared ⟨.unregister, ()⟩ { shared with handle := none }
  | finds : Answers shared ⟨.findRun, (.ok shared.record : Except AppError (Option RunRecord))⟩
      shared
  | findFails (error : AppError) :
      Answers shared ⟨.findRun, (.error error : Except AppError (Option RunRecord))⟩ shared
  | executes (statement : Statement) : Answers shared ⟨.execute statement,
        (.ok (shared.record.bind statement.update) : Except AppError (Option RunRecord))⟩
        (shared.write statement)
  | executeFails (statement : Statement) (error : AppError) :
      Answers shared ⟨.execute statement, (.error error : Except AppError (Option RunRecord))⟩
        shared
  | sweepsOthers (cutoff limit : Nat) (answer : Except AppError Nat) :
      Answers shared ⟨.sweepBatch cutoff limit, answer⟩ shared
  | sweeps (cutoff limit swept : Nat) (row : RunRecord) : shared.record = some row →
      row.status.isInFlight → row.createdAt < cutoff →
      Answers shared ⟨.sweepBatch cutoff limit, (.ok swept : Except AppError Nat)⟩
        { shared with record := some row.swept }
  | outside (query : ControlQuery) (answer : query.Answer) : query.isOutside = true →
      Answers shared ⟨query, answer⟩ shared

/-- Answers for a run nothing goes wrong with: every statement runs, nobody cancels, every step
completes. -/
def Shared.answer (shared : Shared) : (query : ControlQuery) → query.Answer × Shared
  | .runnerResident => (shared.resident, shared)
  | .hasHandle => (shared.handle.isSome, shared)
  | .register => ((), { shared with handle := some true })
  | .setNoRunner => ((), { shared with handle := shared.handle.map fun _ => false })
  | .unregister => ((), { shared with handle := none })
  | .isCancelled => (false, shared)
  | .cancelHandle => (shared.handle.isSome, shared)
  | .deliver _ _ => (.ok (), shared)
  | .findRun => (.ok shared.record, shared)
  | .execute statement => (.ok (shared.record.bind statement.update), shared.write statement)
  | .sweepBatch _ _ => (.ok 0, shared)
  | .deadlinePassed => (false, shared)
  | .validateResponse _ _ => (.ok (), shared)
  | .prepareResume _ => (.ok (), shared)
  | .preflight _ => (.ok (), shared)
  | .resolveProvider => (.ok (), shared)
  | .spawnRunner => ((), shared)
  | .isPersisted _ => (false, shared)
  | .executeStep _ _ => (.completed, shared)
  | .resolveOutputs => (.ok (), shared)

theorem Shared.answers_answer (shared : Shared) (query : ControlQuery) :
    Answers shared ⟨query, (shared.answer query).1⟩ (shared.answer query).2 := by
  cases query with
  | runnerResident => exact .resident
  | hasHandle => exact .handle
  | register => exact .registers
  | setNoRunner => exact .leaves
  | unregister => exact .unregisters
  | findRun => exact .finds
  | execute statement => exact .executes statement
  | sweepBatch cutoff limit => exact .sweepsOthers cutoff limit _
  | _ => exact .outside _ _ rfl

/-- A resumed run gets a runner of its own. -/
def started (steps : List RunStep) : ControlEvent → List (ControlM Unit)
  | ⟨.spawnRunner, _⟩ => [runWorkflow steps]
  | _ => []

/-- **The threads of one run**, over its row and its handle. -/
def control (steps : List RunStep) : Machine controlPorts AppError Unit Shared :=
  ⟨Answers, started steps⟩

end Ziee.Workflow
