/-
**The host of a workflow's agent step** (`agent_dispatch.rs`): what its ports answer, and what they
do to the rows.

The loop of an agent step runs on ports that share one state: the rows of `workflow_runs` and the
tools approved for the session. `HostAnswers` says, port call by port call, what the host may
answer and how that state changes; `AgentHost.answer` is a host that is run.

* `AgentHost.decide` — `ConversationApprovalPolicy`: an approved tool is automatic, everything else
  is left to the approval matrix.
* `compact` — the compaction extension, which is bound to the run of the *step*: a summary
  rewrites the transcript of that run, whoever's request was compacted.

The model, the tools, the risk classifier and the cancellation are outside the host: they answer
what they like and leave the state alone. So does a core tool: a child that it delegates to keeps
its messages under a run id of its own.
-/

import Ziee.Agent.Appended
import Ziee.Workflow.RunStore

namespace Ziee.Workflow

open PortProgram Ziee.Providers Ziee.Agent

/-- What the ports of one dispatch are built with. -/
structure AgentHost where
  runId : Uuid
  stepId : String
  /-- Whose allow-rules count: the conversation's, or the run's when it has none. -/
  approvalScope : Uuid
  approvalMode : ApprovalMode
  /-- `McpToolProvider::is_trusted`: whether the tool is one of a read-only built-in server. -/
  trusted : String → Bool
  compactor : Compactor

structure HostState where
  rows : Rows
  /-- `APPROVED_FOR_SESSION`: the tools approved for the session, by scope. -/
  approved : Uuid → String → Bool

/-- `ConversationApprovalPolicy::decide`; the rule of a call is its name. -/
def AgentHost.decide (host : AgentHost) (state : HostState) (call : ToolCall) (trusted : Bool) :
    Decision :=
  if state.approved host.approvalScope call.name then .auto
  else (TrustedAutoApprovePolicy.mk host.approvalMode).decideSync trusted

/-- What the transcript store does on a query of the extension; a failed rewrite writes nothing. -/
def rowsAfter (rows : Rows) (event : CompactionEvent) : Rows :=
  match event with
  | ⟨.replaceHead runId summary upto, .ok ()⟩ => rows.replaceHead runId summary upto
  | _ => rows

def AgentHost.compaction (host : AgentHost) : CompactionExtension := ⟨host.compactor, host.runId⟩

def HostState.compact (state : HostState) (trace : List CompactionEvent) : HostState :=
  { state with rows := trace.foldl rowsAfter state.rows }

/-! ### What the host may answer -/

def outsideHost : Query → Bool
  | .journalToolCall _ _ | .emit _ | .isCancelled | .takePending _ | .listTools _ | .callModel _
  | .handleCoreTool _ _ _ _ _ | .classify _ _ | .callTool _ _ _ => true
  | _ => false

/-- **One port call against the host**: its answer, and the state after it. A failed query of the
database writes nothing; the gate makes two of them. -/
inductive HostAnswers (host : AgentHost) : HostState → PortEvent → HostState → Prop
  | loads (state : HostState) (runId : Uuid) :
      HostAnswers host state (loaded runId (state.rows.load runId)) state
  | loadFails (state : HostState) (runId : Uuid) (error : AppError) : HostAnswers host state
        ⟨.transcriptLoad runId, (.error error : Except AppError (List ChatMessage))⟩ state
  | appends (state : HostState) (runId : Uuid) (message : ChatMessage) :
      HostAnswers host state (appended runId message)
        { state with rows := state.rows.append runId message }
  | appendFails (state : HostState) (runId : Uuid) (message : ChatMessage) (error : AppError) :
      HostAnswers host state
        ⟨.transcriptAppend runId message, (.error error : Except AppError Unit)⟩ state
  | contributes (state : HostState) (extension : Extension) (context : TurnContext) :
      HostAnswers host state (contributed extension context context) state
  | compacts (state : HostState) (extension : Extension) (request : ChatRequest)
      {trace : List CompactionEvent} {answer : Except AppError (ChatRequest × Flow)} :
      Runs (host.compaction.beforeModel request) trace answer →
      HostAnswers host state ⟨.beforeModel extension request, answer⟩ (state.compact trace)
  | continues (state : HostState) (extension : Extension) (message : ChatMessage) :
      HostAnswers host state (hookAnswered message (extension, .continue)) state
  | trusts (state : HostState) (server : String) :
      HostAnswers host state ⟨.isTrusted server, host.trusted server⟩ state
  | decides (state : HostState) (call : ToolCall) (trusted : Bool) (sandbox : SandboxMode) :
      HostAnswers host state ⟨.decide call trusted sandbox, host.decide state call trusted⟩ state
  | parks (state : HostState) (runId : Uuid) (ask : GateAsk) (elicitationId : Uuid) :
      HostAnswers host state
        ⟨.gateRequest runId ask, (.ok (.suspended ⟨elicitationId⟩) : Except AppError GateOutcome)⟩
        { state with rows := state.rows.request runId host.stepId ask elicitationId }
  | parkFails (state : HostState) (runId : Uuid) (ask : GateAsk) (error : AppError) :
      HostAnswers host state
        ⟨.gateRequest runId ask, (.error error : Except AppError GateOutcome)⟩ state
  | parksHalf (state : HostState) (runId : Uuid) (ask : GateAsk) (elicitationId : Uuid)
      (error : AppError) : HostAnswers host state
        ⟨.gateRequest runId ask, (.error error : Except AppError GateOutcome)⟩ { state with
          rows := state.rows.setPendingElicitation runId
            (some (Rows.gateRecord host.stepId ask elicitationId)) }
  | outside (state : HostState) (event : PortEvent) : outsideHost event.1 = true →
      HostAnswers host state event state

/-! ### What changes a transcript -/

/-- The queries that may change a transcript. -/
def writesTranscript : Query → Bool
  | .transcriptAppend _ _ | .beforeModel _ _ => true
  | _ => false

section Frame

variable {host : AgentHost} {state state' : HostState} {event : PortEvent}

/-- **Only an append and a compaction change a transcript.** -/
theorem HostAnswers.load_eq (answers : HostAnswers host state event state')
    (reads : writesTranscript event.1 = false) (runId : Uuid) :
    state'.rows.load runId = state.rows.load runId := by
  cases answers with
  | appends | compacts => cases reads
  | parks => exact Rows.load_request
  | parksHalf => exact Rows.load_setPendingElicitation
  | _ => rfl

end Frame

/-! ### A host that is run -/

/-- What is outside the host in a concrete run. -/
structure Script where
  reply : ChatRequest → List ContentBlock
  elicitationId : Uuid

/-- The host itself, with a database that never fails and a script for everything else. -/
def AgentHost.answer (host : AgentHost) (script : Script) (state : HostState) :
    ∀ query, Query.Answer query × HostState
  | .transcriptLoad runId => (.ok (state.rows.load runId), state)
  | .transcriptAppend runId message =>
    (.ok (), { state with rows := state.rows.append runId message })
  | .journalToolCall _ _ => (.ok (), state)
  | .emit _ => ((), state)
  | .isCancelled => (false, state)
  | .takePending _ => (.ok [], state)
  | .contribute _ context => (.ok context, state)
  | .beforeModel _ request =>
    let hook := (host.compaction.beforeModel request).simulate (fun _ => summarizer "so far") []
    (hook.2, state.compact hook.1)
  | .afterRound _ _ => (.ok .continue, state)
  | .listTools _ => (.ok [], state)
  | .callModel request => (.finished (.ok ⟨script.reply request, ⟨1, 1, 2⟩⟩), state)
  | .handleCoreTool _ _ _ _ _ => (⟨[], false, none, false⟩, state)
  | .isTrusted server => (host.trusted server, state)
  | .decide call trusted _ => (host.decide state call trusted, state)
  | .classify _ _ => (.ok ⟨.low, .high⟩, state)
  | .gateRequest runId ask =>
    (.ok (.suspended ⟨script.elicitationId⟩),
      { state with rows := state.rows.request runId host.stepId ask script.elicitationId })
  | .callTool _ _ _ => (.ok ⟨[.text "done"], false, none, false⟩, state)

theorem hostAnswers_answer (host : AgentHost) (script : Script) (state : HostState)
    (query : Query) : HostAnswers host state ⟨query, (host.answer script state query).1⟩
      (host.answer script state query).2 := by
  cases query with
  | transcriptLoad runId => exact .loads state runId
  | transcriptAppend runId message => exact .appends state runId message
  | contribute extension context => exact .contributes state extension context
  | beforeModel extension request => exact .compacts state extension request (runs_simulate _ _ [])
  | afterRound extension message => exact .continues state extension message
  | isTrusted server => exact .trusts state server
  | decide call trusted sandbox => exact .decides state call trusted sandbox
  | gateRequest runId ask => exact .parks state runId ask script.elicitationId
  | _ => exact .outside state _ rfl

def AgentHost.execute {α : Type} (host : AgentHost) (script : Script) (state : HostState)
    (program : AgentM α) : List PortEvent × Except AppError α × HostState :=
  program.execute (host.answer script) state

theorem AgentHost.follows_execute {α : Type} (host : AgentHost) (script : Script)
    (state : HostState) (program : AgentM α) :
    Follows (HostAnswers host) state (host.execute script state program).1
      (host.execute script state program).2.2 :=
  PortProgram.follows_execute (hostAnswers_answer host script) program state

end Ziee.Workflow
