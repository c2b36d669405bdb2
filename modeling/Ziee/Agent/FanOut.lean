/-
**Sub-agent fan-out** (`fanout.rs`, `AgentCore::fan_out_inner`).

Each spec becomes a child: a clone of the parent core with a fresh run id, spawned as a task of its
own on a bounded number of slots. A spec whose model does not resolve becomes an error summary and
no task. The join barrier then goes through the children in spawn order, awaits each task, settles
its run and emits the activity snapshot. `fanOutInner` is the source's function as a program over
its ports; `spawnChild` and `joinChild` are the bodies of its two loops.

A child's task hands over the summary of its run's events; here it hands over how the run ended,
and the join barrier takes the summary.
-/

import Ziee.Agent.Core
import Ziee.Agent.Compaction
import Ziee.Agent.Guard

namespace Ziee.Agent

open PortProgram Ziee.Providers

/-- The first line of the system instruction that is not blank, cut after 80 characters. -/
def subagentLabel (system : String) : String :=
  match ((splitInclusive system.toList).map trim).find? fun line => !line.isEmpty with
  | none => "Sub-agent"
  | some line =>
    if line.length > 80 then String.ofList (line.take 80 ++ ['…']) else String.ofList line

/-- Where a child's transcript is kept: in the parent's store, or in one of its own. -/
inductive TranscriptHome
  | inherited
  | ephemeral
  deriving DecidableEq, Repr

/-- Where a child's events go: to the parent's sink, to one of the factory's, or nowhere. -/
inductive SinkHome
  | inherited
  | factory
  | noop
  deriving DecidableEq, Repr

structure Child where
  core : AgentCore
  /-- The model it was resolved to; `none` is the parent's. -/
  model : Option Uuid
  transcript : TranscriptHome
  sink : SinkHome
  request : AgentTurnRequest

def childCore (core : AgentCore) : AgentCore :=
  if core.isolateChildren then
    { core with steer := false, extensions := [], taskStore := false, schedule := false }
  else { core with steer := false }

def childRequest (userId childId : Uuid) (spec : SubagentSpec) : AgentTurnRequest where
  runId := childId
  userId := userId
  seed := .newMessage (.ofUser "Proceed with your task.")
  system := [.text spec.system]
  toolScope := ⟨spec.toolScope.servers, false⟩
  startIteration := 1
  inputs := .null

def makeChild (core : AgentCore) (userId childId : Uuid) (spec : SubagentSpec) : Child where
  core := childCore core
  model := spec.modelId
  transcript := if core.isolateChildren then .ephemeral else .inherited
  sink :=
    if core.isolateChildren then if core.childSinkFactory then .factory else .noop
    else .inherited
  request := childRequest userId childId spec

inductive ChildEnd
  | returned (result : Except AppError (List AgentEvent))
  | panicked (display : String)

def ChildEnd.succeeded : ChildEnd → Bool
  | .returned (.ok _) => true
  | _ => false

/-! ### The ports of the fan-out -/

/-- The strict contract aborts on the first failing child, the relaxed one puts an error summary in
its place. -/
inductive FailureMode
  | failFast
  | errorSummary
  deriving DecidableEq, Repr

inductive FanOutQuery
  | newId
  | resolve (modelId userId : Uuid)
  | forChild (childId : Uuid) (label : String)
  | spawn (child : Child)
  | emit (event : AgentEvent)
  | await (handle : Nat)
  | settleChild (childId : Uuid) (ok : Bool)
  | stopSurvivors

abbrev FanOutQuery.Answer : FanOutQuery → Type
  | .newId => Uuid
  | .resolve _ _ => Except AppError Unit
  | .forChild _ _ => Unit
  | .spawn _ => Unit
  | .emit _ => Unit
  | .await _ => ChildEnd
  | .settleChild _ _ => Unit
  | .stopSurvivors => Unit

abbrev fanOutPorts : Interface := ⟨FanOutQuery, FanOutQuery.Answer⟩

abbrev FanOutM (α : Type) : Type := Program fanOutPorts AppError α

abbrev FanOutEvent : Type := Event fanOutPorts

def newId : FanOutM Uuid := Program.perform (I := fanOutPorts) FanOutQuery.newId

def resolveModel (userId : Uuid) : Option Uuid → FanOutM (Except AppError Unit)
  | some modelId => Program.perform (I := fanOutPorts) (FanOutQuery.resolve modelId userId)
  | none => pure (.ok ())

def childSink (core : AgentCore) (childId : Uuid) (label : String) : FanOutM Unit :=
  if core.isolateChildren ∧ core.childSinkFactory then
    Program.perform (I := fanOutPorts) (FanOutQuery.forChild childId label)
  else pure ()

def spawnTask (child : Child) : FanOutM Unit :=
  Program.perform (I := fanOutPorts) (FanOutQuery.spawn child)

def awaitTask (handle : Nat) : FanOutM ChildEnd :=
  Program.perform (I := fanOutPorts) (FanOutQuery.await handle)

/-- `emit_subagent_activity`: a full snapshot on the parent's sink. -/
def emitActivity (parentRunId : Uuid) (activity : List SubAgentChild) : FanOutM Unit :=
  Program.perform (I := fanOutPorts) (FanOutQuery.emit (.subAgentActivity parentRunId activity))

def stopSurvivors : FanOutM Unit :=
  Program.perform (I := fanOutPorts) FanOutQuery.stopSurvivors

/-- `settle_child_run` for the child at `idx`; indexing beyond the list is a panic. -/
def settleChildRun (core : AgentCore) (childRunIds : List Uuid) (idx : Nat) (ok : Bool) :
    FanOutM Unit :=
  match childRunIds[idx]? with
  | none => Program.fail ⟨"index out of bounds"⟩
  | some childId =>
    if core.childSinkFactory then
      Program.perform (I := fanOutPorts) (FanOutQuery.settleChild childId ok)
    else pure ()

/-! ### Summaries and the snapshot -/

def errorSummary (detail : String) : SubagentSummary := ⟨"[subagent error: " ++ detail ++ "]"⟩

def finalText? : AgentEvent → Option String
  | .message message =>
    let text := String.join (message.content.filterMap textOf?)
    if message.role = .assistant ∧ text ≠ "" then some text else none
  | _ => none

def summaryFromEvents (events : List AgentEvent) : SubagentSummary :=
  ⟨((events.filterMap finalText?).getLast?).getD ""⟩

def neutralizeSummary (summary : SubagentSummary) : SubagentSummary :=
  ⟨neutralizeUntrusted summary.summary⟩

def setChildStatus (activity : List SubAgentChild) (idx : Nat) (status : SubAgentChildStatus) :
    List SubAgentChild :=
  activity.modify idx fun child => { child with status := status }

/-! ### The spawn loop -/

inductive ChildOutcome
  | ready (summary : SubagentSummary)
  | spawned (handle : Nat)

/-- The loop's variables; the lists grow in step, one entry for each spec. -/
structure Spawning where
  outcomes : List ChildOutcome
  childRunIds : List Uuid
  activity : List SubAgentChild
  spawned : Nat

def Spawning.push (state : Spawning) (outcome : ChildOutcome) (childId : Uuid)
    (entry : SubAgentChild) (spawned : Nat) : Spawning where
  outcomes := state.outcomes ++ [outcome]
  childRunIds := state.childRunIds ++ [childId]
  activity := state.activity ++ [entry]
  spawned := spawned

def permits (core : AgentCore) : Nat := max core.limits.maxThreads 1

/-- The first children to be spawned have a slot at once, the others wait for one. -/
def initialStatus (core : AgentCore) (spawned : Nat) : SubAgentChildStatus :=
  if spawned < permits core then .running else .pending

def unresolvedSummary (error : AppError) : SubagentSummary :=
  errorSummary ("model resolution failed: " ++ error.display)

def spawnChild (core : AgentCore) (userId : Uuid) (mode : FailureMode) (spec : SubagentSpec)
    (state : Spawning) : FanOutM Spawning := do
  let childId ← newId
  let label := subagentLabel spec.system
  let resolved ← resolveModel userId spec.modelId
  match resolved with
  | .error error =>
    match mode with
    | .failFast => do
      stopSurvivors
      Program.fail error
    | .errorSummary =>
      pure (state.push (.ready (unresolvedSummary error)) childId
        ⟨childId.display, label, .failed⟩ state.spawned)
  | .ok () => do
    childSink core childId label
    spawnTask (makeChild core userId childId spec)
    pure (state.push (.spawned state.spawned) childId
      ⟨childId.display, label, initialStatus core state.spawned⟩ (state.spawned + 1))

def spawnAll (core : AgentCore) (userId : Uuid) (mode : FailureMode) :
    List SubagentSpec → Spawning → FanOutM Spawning
  | [], state => pure state
  | spec :: rest, state => do
    let state ← spawnChild core userId mode spec state
    spawnAll core userId mode rest state

/-! ### The join barrier -/

def failChild (mode : FailureMode) (error : AppError) (detail : String)
    (activity : List SubAgentChild) : FanOutM (List SubAgentChild × SubagentSummary) :=
  match mode with
  | .failFast => do
    stopSurvivors
    Program.fail error
  | .errorSummary => pure (activity, errorSummary detail)

def joinChild (core : AgentCore) (mode : FailureMode) (childRunIds : List Uuid) (idx : Nat)
    (outcome : ChildOutcome) (activity : List SubAgentChild) :
    FanOutM (List SubAgentChild × SubagentSummary) :=
  match outcome with
  | .ready summary => pure (activity, summary)
  | .spawned handle => do
    let ending ← awaitTask handle
    match ending with
    | .returned (.ok events) => do
      settleChildRun core childRunIds idx true
      pure (setChildStatus activity idx .completed, summaryFromEvents events)
    | .returned (.error error) => do
      settleChildRun core childRunIds idx false
      failChild mode error ("sub-agent failed: " ++ error.display)
        (setChildStatus activity idx .failed)
    | .panicked display => do
      settleChildRun core childRunIds idx false
      failChild mode ⟨"subagent task panicked: " ++ display⟩
        ("sub-agent task panicked: " ++ display) (setChildStatus activity idx .failed)

def joinAll (core : AgentCore) (parentRunId : Uuid) (mode : FailureMode) (childRunIds : List Uuid) :
    List ChildOutcome → Nat → List SubAgentChild → List SubagentSummary →
      FanOutM (List SubagentSummary)
  | [], _, _, out => pure out
  | outcome :: rest, idx, activity, out => do
    let joined ← joinChild core mode childRunIds idx outcome activity
    emitActivity parentRunId joined.1
    joinAll core parentRunId mode childRunIds rest (idx + 1) joined.1 (out ++ [joined.2])

/-- **`AgentCore::fan_out_inner`**: spawn all, then join all. -/
def fanOutInner (core : AgentCore) (parentRunId userId : Uuid) (specs : List SubagentSpec)
    (mode : FailureMode) : FanOutM (List SubagentSummary) := do
  let state ← spawnAll core userId mode specs ⟨[], [], [], 0⟩
  emitActivity parentRunId state.activity
  let out ← joinAll core parentRunId mode state.childRunIds state.outcomes 0 state.activity []
  pure (out.map neutralizeSummary)

/-! ### What a run of the fan-out shows -/

def spawnedChild? : FanOutEvent → Option Child
  | ⟨.spawn child, _⟩ => some child
  | _ => none

def settled? : FanOutEvent → Option (Uuid × Bool)
  | ⟨.settleChild childId ok, _⟩ => some (childId, ok)
  | _ => none

def spawnedChildren (trace : List FanOutEvent) : List Child := trace.filterMap spawnedChild?

def settlements (trace : List FanOutEvent) : List (Uuid × Bool) := trace.filterMap settled?

def newest (shown : Option (Uuid × List SubAgentChild)) (event : FanOutEvent) :
    Option (Uuid × List SubAgentChild) :=
  match event with
  | ⟨.emit (.subAgentActivity runId children), _⟩ => some (runId, children)
  | _ => shown

end Ziee.Agent
