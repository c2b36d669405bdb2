/-
**The ports of the agent loop** (`ports.rs`, `extension.rs`, and the `ModelClient` seam of
`core.rs`).

The loop owns no I/O: every effect is a query on one of its ports, and `Query.Answer` is what the
port may give back. A program over this interface is an `AgentM`; its runs range over every
behaviour of transcript, model, tools, policy, reviewer, gate, extensions and cancellation.

A model client returns an *assistant* message (the `ModelClient` contract), so its answer carries
the blocks only and `ModelReply.message` puts the role on. The live deltas a streaming client
forwards to the sink before it answers are not part of the loop's own event list and are left out.
-/

import Ziee.Library.PortProgram
import Ziee.Agent.Approval

namespace Ziee.Agent

open PortProgram Ziee.Providers

inductive Flow
  | continue
  | shortCircuit
  deriving DecidableEq, Repr

structure TurnContext where
  system : List ContentBlock
  toolScope : ToolScope
  inputs : Json
  metadata : List (String × Json)

/-- A registered extension: its place in the pipeline, and which one it is. -/
structure Extension where
  order : Int
  index : Nat
  deriving DecidableEq, Repr

structure ModelReply where
  content : List ContentBlock
  usage : Usage

def ModelReply.message (reply : ModelReply) : ChatMessage := ⟨.assistant, reply.content⟩

@[simp] theorem ModelReply.role_message (reply : ModelReply) :
    reply.message.role = .assistant := rfl

inductive ModelCall
  | finished (result : Except AppError ModelReply)
  | cancelled

/-- Everything the loop asks of its ports. -/
inductive Query
  | transcriptLoad (runId : Uuid)
  | transcriptAppend (runId : Uuid) (message : ChatMessage)
  | journalToolCall (runId : Uuid) (record : ToolCallRecord)
  | emit (event : AgentEvent)
  | isCancelled
  | takePending (runId : Uuid)
  | contribute (extension : Extension) (context : TurnContext)
  | beforeModel (extension : Extension) (request : ChatRequest)
  | afterRound (extension : Extension) (message : ChatMessage)
  | listTools (scope : ToolScope)
  | callModel (request : ChatRequest)
  | handleCoreTool (tool : CoreTool) (call : ToolCall) (scope : ToolScope) (runId userId : Uuid)
  | isTrusted (server : String)
  | decide (call : ToolCall) (trusted : Bool) (sandbox : SandboxMode)
  | classify (call : ToolCall) (policy : String)
  | gateRequest (runId : Uuid) (ask : GateAsk)
  | callTool (runId : Uuid) (call : ToolCall) (key : IdempotencyKey)

abbrev Query.Answer : Query → Type
  | .transcriptLoad _ => Except AppError (List ChatMessage)
  | .transcriptAppend _ _ => Except AppError Unit
  | .journalToolCall _ _ => Except AppError Unit
  | .emit _ => Unit
  | .isCancelled => Bool
  | .takePending _ => Except AppError (List String)
  | .contribute _ _ => Except AppError TurnContext
  | .beforeModel _ _ => Except AppError (ChatRequest × Flow)
  | .afterRound _ _ => Except AppError Flow
  | .listTools _ => Except AppError (List Tool)
  | .callModel _ => ModelCall
  | .handleCoreTool _ _ _ _ _ => ToolResult
  | .isTrusted _ => Bool
  | .decide _ _ _ => Decision
  | .classify _ _ => Except AppError RiskAssessment
  | .gateRequest _ _ => Except AppError GateOutcome
  | .callTool _ _ _ => Except AppError ToolResult

abbrev ports : Interface := ⟨Query, Query.Answer⟩

abbrev AgentM (α : Type) : Type := Program ports AppError α

/-- One port call of a run, with its answer. -/
abbrev PortEvent : Type := Event ports

/-! ### The port calls -/

section Calls

variable (runId : Uuid)

def transcriptLoad : AgentM (List ChatMessage) :=
  Program.attempt (I := ports) (Query.transcriptLoad runId) fun answer => answer

def transcriptAppend (message : ChatMessage) : AgentM Unit :=
  Program.attempt (I := ports) (Query.transcriptAppend runId message) fun answer => answer

def journalToolCall (record : ToolCallRecord) : AgentM Unit :=
  Program.attempt (I := ports) (Query.journalToolCall runId record) fun answer => answer

def takePending : AgentM (List String) :=
  Program.attempt (I := ports) (Query.takePending runId) fun answer => answer

def gateRequest (ask : GateAsk) : AgentM GateOutcome :=
  Program.attempt (I := ports) (Query.gateRequest runId ask) fun answer => answer

/-- A failing tool is not a failing turn: the answer is handed on as it is. -/
def callTool (call : ToolCall) (key : IdempotencyKey) : AgentM (Except AppError ToolResult) :=
  Program.perform (I := ports) (Query.callTool runId call key)

end Calls

def emit (event : AgentEvent) : AgentM Unit :=
  Program.perform (I := ports) (Query.emit event)

def isCancelled : AgentM Bool := Program.perform (I := ports) Query.isCancelled

def contribute (extension : Extension) (context : TurnContext) : AgentM TurnContext :=
  Program.attempt (I := ports) (Query.contribute extension context) fun answer => answer

def beforeModel (extension : Extension) (request : ChatRequest) : AgentM (ChatRequest × Flow) :=
  Program.attempt (I := ports) (Query.beforeModel extension request) fun answer => answer

def afterRound (extension : Extension) (message : ChatMessage) : AgentM Flow :=
  Program.attempt (I := ports) (Query.afterRound extension message) fun answer => answer

def listTools (scope : ToolScope) : AgentM (List Tool) :=
  Program.attempt (I := ports) (Query.listTools scope) fun answer => answer

def callModel (request : ChatRequest) : AgentM ModelCall :=
  Program.perform (I := ports) (Query.callModel request)

def handleCoreTool (tool : CoreTool) (call : ToolCall) (scope : ToolScope) (runId userId : Uuid) :
    AgentM ToolResult :=
  Program.perform (I := ports) (Query.handleCoreTool tool call scope runId userId)

def isTrusted (server : String) : AgentM Bool :=
  Program.perform (I := ports) (Query.isTrusted server)

def policyDecide (call : ToolCall) (trusted : Bool) (sandbox : SandboxMode) : AgentM Decision :=
  Program.perform (I := ports) (Query.decide call trusted sandbox)

def classify (call : ToolCall) (policy : String) : AgentM (Except AppError RiskAssessment) :=
  Program.perform (I := ports) (Query.classify call policy)

end Ziee.Agent
