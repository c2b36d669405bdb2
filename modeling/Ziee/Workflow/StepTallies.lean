/-
**What a run has spent and written** (`runner.rs`, `artifact_io.rs`, `agent_dispatch.rs`).

The step loop keeps two tallies in memory, the tokens and the bytes of the run, and holds both
against caps after each step. The row of the run keeps its own: the size of each persisted output
and the tokens persisted with it. A run that parks at a gate loses the first and is resumed from
the second (`rehydrate_ctx`).

* `dispatch`, `collectStepArtifacts`, `completeStep`, `runSteps` — the loop, with what it adds.
* `RunRow.record`, `rehydrateCtx` — what the row keeps of it, and what comes back.
-/

import Mathlib.Data.List.AList
import Ziee.Workflow.RunStore

namespace Ziee.Workflow.Tallies

open PortProgram Ziee.Providers Ziee.Agent

inductive StepKind
  | llm
  | llmMap
  | sandbox
  | elicit
  | tool
  | agent
  deriving DecidableEq, Repr

/-- A step, as far as the tallies are concerned. -/
structure StepDef where
  id : String
  config : StepKind
  /-- Whether the workflow gives it a canned output. -/
  mock : Bool

/-- The order of `topo_sort_steps`: each step once, and no two with one id (a workflow that has two
is not installed and not resumed). -/
structure StepOrder where
  steps : List StepDef
  distinct : (steps.map (·.id)).Nodup

structure OutputMeta where
  sizeBytes : Nat
  deriving DecidableEq, Repr

abbrev StepOutputs : Type := AList fun _ : String => OutputMeta

def outputBytes (outputs : StepOutputs) : Nat := (outputs.entries.map (·.2.sizeBytes)).sum

structure RunContext where
  isDev : Bool
  forceMocks : Bool
  /-- The steps the request gives a canned output. -/
  mocks : List String
  stepOutputs : StepOutputs
  totalTokens : Nat
  totalOutputBytes : Nat

/-! ### The caps -/

def perRunTokenCap : Nat := 5000000

def perStepTokenCap : Nat := 2000000

def perRunArtifactCapBytes : Nat := 100 * 1024 * 1024

def perRunOutputArtifactCapBytes : Nat := perRunArtifactCapBytes

def perFileArtifactCapBytes : Nat := 10 * 1024 * 1024

def saturatingAdd (first second : Nat) : Nat := min (first + second) u64Max

def checkStepCaps (stepId : String) (stepTokensUsed runTotalTokens runTotalOutputBytes : Nat) :
    Except String Unit :=
  if perStepTokenCap < stepTokensUsed then
    .error ("per-step token cap " ++ toString perStepTokenCap ++ " exceeded (" ++
      toString stepTokensUsed ++ " used in step '" ++ stepId ++ "')")
  else if perRunTokenCap < runTotalTokens then
    .error ("per-run token cap " ++ toString perRunTokenCap ++ " exceeded (" ++
      toString runTotalTokens ++ " used)")
  else if perRunOutputArtifactCapBytes < runTotalOutputBytes then
    .error ("per-run output+artifact byte cap " ++ toString perRunOutputArtifactCapBytes ++
      " exceeded (" ++ toString runTotalOutputBytes ++ " written)")
  else .ok ()

/-! ### The ports -/

/-- How the work of a step ended, when no gate parks it. -/
inductive Work (α : Type)
  | done (value : α)
  | failed (error : String)
  | cancelled

/-- What the walk over a step's artifact directory meets, symlinks and special files left out. -/
inductive WalkEntry
  | file (filename : String) (sizeBytes : Nat) (read : Except AppError Unit)
  | failed (error : AppError)

inductive TallyQuery
  | isCancelled
  /-- The canned output is written; the answer is its size. -/
  | writeMock (step : StepDef)
  /-- The model is called and the output written: the tokens used, and the size. -/
  | callModel (step : StepDef)
  /-- The sandbox or the tool is run and the output written. -/
  | execute (step : StepDef)
  /-- The elicit gate: a response is written as the output, or the run parks. -/
  | elicit (step : StepDef)
  | runAgent (step : StepDef)
  /-- The agent's last text is parsed and written. -/
  | writeStepOutput (step : StepDef)
  | persistStepMeta (stepId : String) (info : OutputMeta) (tokensDelta : Nat)
  | walkArtifacts (step : StepDef)
  | persistStepArtifacts (stepId : String)
  | findRun
  | resolveOutputs

abbrev TallyQuery.Answer : TallyQuery → Type
  | .isCancelled => Bool
  | .writeMock _ => Except String Nat
  | .callModel _ => Work (Nat × Nat)
  | .execute _ => Work Nat
  | .elicit _ => Work (Option Nat)
  | .runAgent _ => Work (List AgentEvent)
  | .writeStepOutput _ => Except String Nat
  | .persistStepMeta _ _ _ => Except AppError Unit
  | .walkArtifacts _ => List WalkEntry
  | .persistStepArtifacts _ => Except AppError Unit
  | .findRun => Except AppError (Option WorkflowRunStatus)
  | .resolveOutputs => Except AppError Unit

abbrev tallyPorts : Interface := ⟨TallyQuery, TallyQuery.Answer⟩

abbrev TallyM (α : Type) : Type := Program tallyPorts Empty α

abbrev TallyEvent : Type := Event tallyPorts

def ask (query : TallyQuery) : TallyM query.Answer := Program.perform (I := tallyPorts) query

/-! ### The dispatch of a step -/

inductive StepResult
  | completed (tokensUsed : Nat)
  | failed (error : String)
  | cancelled
  | suspended

/-- A dispatcher registers the output it has written, and counts the tokens. -/
def RunContext.wrote (ctx : RunContext) (step : StepDef) (sizeBytes tokens : Nat) : RunContext :=
  { ctx with
    stepOutputs := ctx.stepOutputs.insert step.id ⟨sizeBytes⟩
    totalTokens := ctx.totalTokens + tokens }

def RunContext.spent (ctx : RunContext) (tokens : Nat) : RunContext :=
  { ctx with totalTokens := ctx.totalTokens + tokens }

/-- A canned output counts where mocks are sanctioned. -/
def RunContext.mocked (ctx : RunContext) (step : StepDef) : Bool :=
  (ctx.isDev || ctx.forceMocks) && (ctx.mocks.contains step.id || step.mock)

def runMockStep (ctx : RunContext) (step : StepDef) : TallyM (StepResult × RunContext) := do
  let written ← ask (.writeMock step)
  match written with
  | .error error => pure (.failed ("mock write failed: " ++ error), ctx)
  | .ok sizeBytes => pure (.completed 0, ctx.wrote step sizeBytes 0)

/-- `LlmDispatcher` and `LlmMapDispatcher`. -/
def dispatchModel (ctx : RunContext) (step : StepDef) : TallyM (StepResult × RunContext) := do
  let worked ← ask (.callModel step)
  match worked with
  | .failed error => pure (.failed error, ctx)
  | .cancelled => pure (.cancelled, ctx)
  | .done (tokens, sizeBytes) => pure (.completed tokens, ctx.wrote step sizeBytes tokens)

/-- `SandboxDispatcher` and `ToolDispatcher`, which use no tokens. -/
def dispatchExecution (ctx : RunContext) (step : StepDef) : TallyM (StepResult × RunContext) := do
  let worked ← ask (.execute step)
  match worked with
  | .failed error => pure (.failed error, ctx)
  | .cancelled => pure (.cancelled, ctx)
  | .done sizeBytes => pure (.completed 0, ctx.wrote step sizeBytes 0)

/-- `ElicitDispatcher`. -/
def dispatchElicit (ctx : RunContext) (step : StepDef) : TallyM (StepResult × RunContext) := do
  let worked ← ask (.elicit step)
  match worked with
  | .failed error => pure (.failed error, ctx)
  | .cancelled => pure (.cancelled, ctx)
  | .done none => pure (.suspended, ctx)
  | .done (some sizeBytes) => pure (.completed 0, ctx.wrote step sizeBytes 0)

def usageTokens : AgentEvent → Option Nat
  | .usage usage => some usage.totalTokens
  | _ => none

/-- The usage of every model call the loop made. -/
def foldUsage (events : List AgentEvent) : Nat := (events.filterMap usageTokens).sum

def isGateOpened : AgentEvent → Bool
  | .gateOpened _ => true
  | _ => false

def stopReason : AgentEvent → Option StopReason
  | .stopped reason => some reason
  | _ => none

/-- `AgentDispatcher`: an open gate parks the step, and its tokens are counted all the same. -/
def dispatchAgent (ctx : RunContext) (step : StepDef) : TallyM (StepResult × RunContext) := do
  let ran ← ask (.runAgent step)
  match ran with
  | .failed error => pure (.failed error, ctx)
  | .cancelled => pure (.cancelled, ctx)
  | .done events =>
    if events.any isGateOpened then pure (.suspended, ctx.spent (foldUsage events))
    else if (events.filterMap stopReason).getLast? = some .halted then
      pure (.cancelled, ctx.spent (foldUsage events))
    else do
      let written ← ask (.writeStepOutput step)
      match written with
      | .error error => pure (.failed error, ctx)
      | .ok sizeBytes =>
        pure (.completed (foldUsage events), ctx.wrote step sizeBytes (foldUsage events))

def dispatch (ctx : RunContext) (step : StepDef) : TallyM (StepResult × RunContext) :=
  if ctx.mocked step then runMockStep ctx step
  else
    match step.config with
    | .llm | .llmMap => dispatchModel ctx step
    | .sandbox | .tool => dispatchExecution ctx step
    | .elicit => dispatchElicit ctx step
    | .agent => dispatchAgent ctx step

/-! ### After the dispatch -/

/-- `collect_step_artifacts`: the sizes of the files it keeps. A file over the cap of its own is
skipped; one that takes the run over its cap fails the walk. -/
def collectStepArtifacts : Nat → List WalkEntry → Except AppError (List Nat)
  | _, [] => .ok []
  | _, .failed error :: _ => .error error
  | running, .file filename sizeBytes read :: rest =>
    if perFileArtifactCapBytes < sizeBytes then collectStepArtifacts running rest
    else if perRunArtifactCapBytes < saturatingAdd running sizeBytes then
      .error ⟨"per-run output+artifact byte cap " ++ toString perRunArtifactCapBytes ++
        " would be exceeded by artifact '" ++ filename ++ "' (" ++ toString sizeBytes ++ " bytes)"⟩
    else
      match read with
      | .error error => .error error
      | .ok () =>
        match collectStepArtifacts (saturatingAdd running sizeBytes) rest with
        | .error error => .error error
        | .ok sizes => .ok (sizeBytes :: sizes)

def tallyOutput (ctx : RunContext) (step : StepDef) (tokensUsed : Nat) : TallyM RunContext :=
  match ctx.stepOutputs.lookup step.id with
  | none => pure ctx
  | some info => do
    let _ ← ask (.persistStepMeta step.id info tokensUsed)
    pure { ctx with totalOutputBytes := saturatingAdd ctx.totalOutputBytes info.sizeBytes }

def tallyArtifacts (ctx : RunContext) (step : StepDef) : TallyM (Except String RunContext) :=
  if step.config = .sandbox then do
    let entries ← ask (.walkArtifacts step)
    match collectStepArtifacts ctx.totalOutputBytes entries with
    | .error error =>
      pure (.error ("step '" ++ step.id ++ "' artifact cap: " ++ error.display))
    | .ok sizes =>
      if sizes.isEmpty then pure (.ok ctx)
      else do
        let _ ← ask (.persistStepArtifacts step.id)
        pure (.ok { ctx with
          totalOutputBytes := saturatingAdd ctx.totalOutputBytes sizes.sum })
  else pure (.ok ctx)

inductive RunInnerOutcome
  | completed
  | failed (error : String) (failedAtStep : Option String)
  | cancelled (cancelledAtStep : Option String)
  | suspended (atStep : String)

/-- The `Completed` arm of the loop, up to the caps. -/
def completeStep (ctx : RunContext) (step : StepDef) (tokensUsed : Nat) :
    TallyM (Except RunInnerOutcome RunContext) := do
  let ctx ← tallyOutput ctx step tokensUsed
  let tallied ← tallyArtifacts ctx step
  match tallied with
  | .error error => pure (.error (.failed error (some step.id)))
  | .ok ctx =>
    match checkStepCaps step.id tokensUsed ctx.totalTokens ctx.totalOutputBytes with
    | .error reason => pure (.error (.failed reason (some step.id)))
    | .ok () => pure (.ok ctx)

/-! ### The loop -/

/-- The cancel flip in the database, looked at between steps. -/
def cancelledInDatabase : TallyM Bool := do
  let found ← ask .findRun
  match found with
  | .ok (some status) => pure (status = .cancelled)
  | _ => pure false

/-- The outputs of the workflow are resolved when every step is done. -/
def finishRun (ctx : RunContext) : TallyM (RunInnerOutcome × RunContext) := do
  let resolved ← ask .resolveOutputs
  match resolved with
  | .ok () => pure (.completed, ctx)
  | .error error => pure (.failed ("output resolution: " ++ error.display) none, ctx)

/-- The step loop of `run_inner`; a resumed run skips the steps it has outputs of. -/
def runSteps (isResume : Bool) : List StepDef → RunContext → TallyM (RunInnerOutcome × RunContext)
  | [], ctx => finishRun ctx
  | step :: rest, ctx => do
    let cancelled ← ask .isCancelled
    if cancelled then pure (.cancelled (some step.id), ctx)
    else if isResume && (ctx.stepOutputs.lookup step.id).isSome then runSteps isResume rest ctx
    else do
      let dispatched ← dispatch ctx step
      match dispatched with
      | (.completed tokensUsed, ctx) => do
        let completed ← completeStep ctx step tokensUsed
        match completed with
        | .error outcome => pure (outcome, ctx)
        | .ok ctx => do
          let flipped ← cancelledInDatabase
          if flipped then pure (.cancelled (some step.id), ctx) else runSteps isResume rest ctx
      | (.failed error, ctx) =>
        pure (.failed ("step '" ++ step.id ++ "' failed: " ++ error) (some step.id), ctx)
      | (.cancelled, ctx) => pure (.cancelled (some step.id), ctx)
      | (.suspended, ctx) => pure (.suspended step.id, ctx)

/-- **`run_inner`**, with the context as it leaves it. -/
def runInner (order : StepOrder) (ctx : RunContext) : TallyM (RunInnerOutcome × RunContext) :=
  runSteps (!ctx.stepOutputs.entries.isEmpty) order.steps ctx

/-! ### The row -/

structure RunRow where
  stepOutputs : StepOutputs
  totalTokens : Int

def RunRow.inserted : RunRow := ⟨∅, 0⟩

def i64Max : Nat := 0x7FFFFFFFFFFFFFFF

/-- What an event leaves in the row: `persist_step_meta` is the only statement that writes it. -/
def RunRow.record (row : RunRow) : TallyEvent → RunRow
  | ⟨.persistStepMeta stepId info tokensDelta, .ok ()⟩ =>
    { stepOutputs := row.stepOutputs.insert stepId info
      totalTokens := row.totalTokens + min tokensDelta i64Max }
  | _ => row

def rowAfter (row : RunRow) (trace : List TallyEvent) : RunRow := trace.foldl RunRow.record row

/-- The inputs of a segment that the row does not keep. -/
structure RunSetup where
  order : StepOrder
  isDev : Bool
  forceMocks : Bool
  mocks : List String

/-- The context that `preflight` builds. -/
def RunSetup.preflight (setup : RunSetup) : RunContext where
  isDev := setup.isDev
  forceMocks := setup.forceMocks
  mocks := setup.mocks
  stepOutputs := ∅
  totalTokens := 0
  totalOutputBytes := 0

/-- A persisted output comes back, and counts. -/
def RunContext.restore (ctx : RunContext) (output : Sigma fun _ : String => OutputMeta) :
    RunContext :=
  { ctx with
    totalOutputBytes := saturatingAdd ctx.totalOutputBytes output.2.sizeBytes
    stepOutputs := ctx.stepOutputs.insert output.1 output.2 }

def rehydrateCtx (ctx : RunContext) (run : RunRow) : RunContext :=
  { run.stepOutputs.entries.foldl RunContext.restore ctx with totalTokens := run.totalTokens.toNat }

/-- The context a segment starts from. -/
def RunSetup.resumed (setup : RunSetup) (run : RunRow) : RunContext :=
  rehydrateCtx setup.preflight run

end Ziee.Workflow.Tallies
