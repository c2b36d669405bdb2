/-
**The agent loop** (`core.rs`, `AgentCore::run`).

One turn is a seed followed by passes. A pass checks cancellation and budget, drains the steering
notes, assembles the request, gets an assistant message (from the model, or on the first pass of a
resume from the transcript), and runs the tools it asks for. `pass` is the body of the source's
`loop`; the helper definitions are its sections, in order: `drainSteerNotes`, `runContribute`,
`runBeforeModel`, `mergeSystemMessages`, `answer` (resume or model call), `react` (post-round
hooks, stop reason), `runCalls` (the tool round) and `finishRound`.

The source loops until a `break`; `loop` counts passes instead, and `loop_succ` shows that the
count `maxSteps + 1` is never the reason it ends.
-/

import Ziee.Agent.Ports
import Ziee.Providers.Text

namespace Ziee.Agent

open PortProgram Ziee.Providers

/-- The configuration of a core: which ports are wired, and the data it carries. -/
structure AgentCore where
  extensions : List Extension
  reviewer : Option Reviewer
  taskStore : Bool
  steer : Bool
  schedule : Bool
  budget : Budget
  limits : SubagentLimits
  sandbox : SandboxMode
  modelName : String
  /-- Whether the loop itself executes the pending tool calls of a resumed transcript. -/
  resumeExecutesPending : Bool
  /-- Whether fan-out children run on a transcript and a sink of their own. -/
  isolateChildren : Bool
  childSinkFactory : Bool

def assembleMessages (system : List ContentBlock) (history : List ChatMessage) :
    List ChatMessage :=
  (if system.isEmpty then [] else [⟨.system, system⟩]) ++ history

def lastPendingAssistant (history : List ChatMessage) : Option ChatMessage :=
  match history.getLast? with
  | some last =>
    if last.role = .assistant ∧ last.content.any ContentBlock.isToolUse then some last else none
  | none => none

def toolCallOf? : ContentBlock → Option ToolCall
  | .toolUse id name input => some ⟨id, none, name, input⟩
  | _ => none

def extractToolCalls (message : ChatMessage) : List ToolCall :=
  message.content.filterMap toolCallOf?

def errorToolResult (message : String) : ToolResult :=
  ⟨[.text message], true, none, false⟩

def toolResultMessage (call : ToolCall) (result : ToolResult) : ChatMessage :=
  ⟨.tool, [.toolResult call.id (some call.name) result.content (some result.isError)]⟩

def systemTexts (message : ChatMessage) : List String :=
  message.content.filterMap fun block =>
    match block with
    | .text text => if isBlank text then none else some text
    | _ => none

def mergeSystemMessages (messages : List ChatMessage) : List ChatMessage :=
  let systems := messages.filter fun m => m.role = .system
  let headIsOther :=
    match messages.head? with
    | some first => first.role != .system
    | none => false
  if systems.length > 1 || (headIsOther && !systems.isEmpty) then
    let texts := systems.flatMap systemTexts
    let rest := messages.filter fun m => m.role ≠ .system
    (if texts.isEmpty then [] else [⟨.system, [.text ("\n\n".intercalate texts)]⟩]) ++ rest
  else messages

/-! ### Extensions and steering -/

def sortedExtensions (extensions : List Extension) : List Extension :=
  extensions.insertionSort fun first second => first.order ≤ second.order

def runContribute : List Extension → TurnContext → AgentM TurnContext
  | [], context => pure context
  | extension :: rest, context => do
    let context ← contribute extension context
    runContribute rest context

/-- The `before_model` hooks; the first short circuit wins. -/
def runBeforeModel : List Extension → ChatRequest → AgentM (ChatRequest × Flow)
  | [], request => pure (request, .continue)
  | extension :: rest, request => do
    let (request, flow) ← beforeModel extension request
    if flow = .shortCircuit then pure (request, .shortCircuit)
    else runBeforeModel rest request

/-- The `after_round` hooks: whether one of them ends the turn. -/
def runAfterRound : List Extension → ChatMessage → AgentM Bool
  | [], _ => pure false
  | extension :: rest, message => do
    let flow ← afterRound extension message
    if flow = .shortCircuit then pure true else runAfterRound rest message

/-- The hooks look at the model's messages only, not at a resumed one. -/
def postRound (extensions : List Extension) (message : ChatMessage) (fromModel : Bool) :
    AgentM Bool :=
  if fromModel then runAfterRound extensions message else pure false

def steeringMessage (note : String) : ChatMessage := .ofUser ("[steering] " ++ note)

def appendNotes (runId : Uuid) : List String → AgentM Unit
  | [] => pure ()
  | note :: rest => do
    transcriptAppend runId (steeringMessage note)
    appendNotes runId rest

def drainSteerNotes (core : AgentCore) (runId : Uuid) : AgentM Unit :=
  if core.steer then do
    let notes ← takePending runId
    appendNotes runId notes
  else pure ()

/-! ### Events and passes -/

/-- Push an event onto the returned stream and onto the sink. -/
def pushEmit (events : List AgentEvent) (event : AgentEvent) : AgentM (List AgentEvent) := do
  emit event
  pure (events ++ [event])

structure LoopState where
  events : List AgentEvent
  budget : Budget
  iteration : Nat

/-- How a pass of the loop ends: a `break`, or another pass. -/
inductive Pass
  | stop (events : List AgentEvent)
  | again (state : LoopState)

def stopWith (events : List AgentEvent) (reason : StopReason) : AgentM Pass := do
  let events ← pushEmit events (.stopped reason)
  pure (.stop events)

/-! ### The tool round -/

/-- What to do with one call once the approval gate has decided. -/
inductive Act
  | execute
  | deny (reason : String)
  | suspend (ticket : GateTicket)

def serverKey (call : ToolCall) : String := call.server.getD call.name

/-- The policy's decision, a `Review` resolved through the clamped reviewer. -/
def settleDecision (core : AgentCore) (call : ToolCall) : AgentM Decision := do
  let trusted ← isTrusted (serverKey call)
  let decision ← policyDecide call trusted core.sandbox
  if decision = .review then
    match core.reviewer with
    | some reviewer => do
      let classified ← classify call reviewer.policy
      pure (clampReviewerDecision trusted (reviewer.review classified))
    | none => pure .prompt
  else pure decision

def actOfOutcome : GateOutcome → Act
  | .decided .approved => .execute
  | .decided .approvedForSession => .execute
  | .decided _ => .deny "denied by human reviewer"
  | .suspended ticket => .suspend ticket

def gateReason : String := "tool call requires approval"

def askGate (runId : Uuid) (call : ToolCall) : AgentM Act := do
  let outcome ← gateRequest runId ⟨call, gateReason⟩
  pure (actOfOutcome outcome)

def decideAct (core : AgentCore) (runId : Uuid) (call : ToolCall) : AgentM Act := do
  let decision ← settleDecision core call
  match decision with
  | .auto => pure .execute
  | .prompt => askGate runId call
  | .review => askGate runId call
  | .deny => pure (.deny "denied by approval policy")

/-- `<run_id>:<iteration>:<ordinal>`. -/
def idempotencyKey (runId : Uuid) (iteration ordinal : Nat) : IdempotencyKey :=
  runId.display ++ ":" ++ toString iteration ++ ":" ++ toString ordinal

structure RoundState where
  events : List AgentEvent
  suspended : Bool
  executed : Nat
  terminalCount : Nat

def appendResult (runId : Uuid) (call : ToolCall) (result : ToolResult)
    (events : List AgentEvent) : AgentM (List AgentEvent) := do
  let message := toolResultMessage call result
  transcriptAppend runId message
  pushEmit events (.message message)

def recordExecuted (runId : Uuid) (key : IdempotencyKey) (call : ToolCall) (result : ToolResult)
    (round : RoundState) : AgentM RoundState := do
  journalToolCall runId ⟨key, call, result⟩
  let events ← appendResult runId call result round.events
  pure { round with
    events := events
    executed := round.executed + 1
    terminalCount := round.terminalCount + if result.terminal then 1 else 0 }

def resultOfCall : Except AppError ToolResult → ToolResult
  | .ok result => result
  | .error error => errorToolResult ("tool execution failed: " ++ error.display)

def runCall (core : AgentCore) (request : AgentTurnRequest) (scope : ToolScope)
    (iteration ordinal : Nat) (call : ToolCall) (round : RoundState) : AgentM RoundState :=
  let key := idempotencyKey request.runId iteration ordinal
  match CoreTool.fromName call.name with
  | some tool => do
    let result ← handleCoreTool tool call scope request.runId request.userId
    recordExecuted request.runId key call result round
  | none => do
    let act ← decideAct core request.runId call
    match act with
    | .suspend ticket => do
      let events ← pushEmit round.events (.gateOpened ticket)
      pure { round with events := events, suspended := true }
    | .deny reason => do
      let events ← appendResult request.runId call (errorToolResult reason) round.events
      pure { round with events := events }
    | .execute => do
      let result ← callTool request.runId call key
      recordExecuted request.runId key call (resultOfCall result) round

def runCalls (core : AgentCore) (request : AgentTurnRequest) (scope : ToolScope)
    (iteration : Nat) : Nat → List ToolCall → RoundState → AgentM RoundState
  | _, [], round => pure round
  | ordinal, call :: rest, round => do
    let round ← runCall core request scope iteration ordinal call round
    runCalls core request scope iteration (ordinal + 1) rest round

def finishRound (state : LoopState) (round : RoundState) : AgentM Pass :=
  if round.suspended then stopWith round.events .halted
  else if round.executed > 0 ∧ round.terminalCount = round.executed then
    stopWith round.events .noToolCall
  else pure (.again { state with events := round.events, iteration := state.iteration + 1 })

/-! ### One pass -/

/-- Why a round that was requested is not run, if it is not. -/
def stopAfter (budget : Budget) (iteration lastStepTokens : Nat) (cancelled : Bool) :
    Option StopReason :=
  if cancelled then some .halted
  else if budget.runTokens > budget.perRunTokenCap then some .tokenCap
  else if budget.stepOverCap lastStepTokens then some .tokenCap
  else if iteration ≥ budget.maxSteps then some .iterationCap
  else none

def refusal (reason : StopReason) : ToolResult :=
  errorToolResult ("tool not executed: agent stopped (" ++ reason.debug ++ ")")

def refuseCalls (runId : Uuid) (reason : StopReason) :
    List ToolCall → List AgentEvent → AgentM (List AgentEvent)
  | [], events => pure events
  | call :: rest, events => do
    let events ← appendResult runId call (refusal reason) events
    refuseCalls runId reason rest events

def react (core : AgentCore) (request : AgentTurnRequest) (extensions : List Extension)
    (scope : ToolScope) (state : LoopState) (message : ChatMessage) (fromModel : Bool)
    (lastStepTokens : Nat) : AgentM Pass := do
  let shortCircuit ← postRound extensions message fromModel
  if shortCircuit then stopWith state.events .noToolCall
  else if (extractToolCalls message).isEmpty then stopWith state.events .noToolCall
  else do
    let cancelled ← isCancelled
    match stopAfter state.budget state.iteration lastStepTokens cancelled with
    | some reason => do
      let events ← refuseCalls request.runId reason (extractToolCalls message) state.events
      stopWith events reason
    | none => do
      let round ← runCalls core request scope state.iteration 0 (extractToolCalls message)
        ⟨state.events, false, 0, 0⟩
      finishRound state round

/-- What a reply changes in the loop's variables before its tools are looked at. -/
def LoopState.received (state : LoopState) (reply : ModelReply) : LoopState :=
  { state with
    events := state.events ++ [.message reply.message] ++ [.usage reply.usage]
    budget := state.budget.addTokens reply.usage.totalTokens }

/-- A model reply is recorded before anything else is done with it. -/
def receive (core : AgentCore) (request : AgentTurnRequest) (extensions : List Extension)
    (scope : ToolScope) (state : LoopState) (reply : ModelReply) : AgentM Pass := do
  transcriptAppend request.runId reply.message
  emit (.message reply.message)
  emit (.usage reply.usage)
  react core request extensions scope (state.received reply) reply.message true
    reply.usage.totalTokens

def answer (core : AgentCore) (request : AgentTurnRequest) (extensions : List Extension)
    (scope : ToolScope) (state : LoopState) (resumed : Option ChatMessage)
    (chatRequest : ChatRequest) : AgentM Pass :=
  match resumed with
  | some message => react core request extensions scope state message false 0
  | none => do
    let call ← callModel chatRequest
    match call with
    | .cancelled => stopWith state.events .halted
    | .finished result => do
      let reply ← Program.ofExcept result
      receive core request extensions scope state reply

def resumeMessage (core : AgentCore) (request : AgentTurnRequest) (iteration : Nat)
    (history : List ChatMessage) : Option ChatMessage :=
  match request.seed with
  | .resume =>
    if core.resumeExecutesPending ∧ iteration = max request.startIteration 1 then
      lastPendingAssistant history
    else none
  | .newMessage _ => none

def turnContext (request : AgentTurnRequest) : TurnContext :=
  ⟨request.system, request.toolScope, request.inputs, []⟩

def pass (core : AgentCore) (request : AgentTurnRequest) (extensions : List Extension)
    (state : LoopState) : AgentM Pass := do
  let cancelled ← isCancelled
  if cancelled then stopWith state.events .halted
  else
    match state.budget.stopBefore state.iteration with
    | some reason => stopWith state.events reason
    | none => do
      drainSteerNotes core request.runId
      let context ← runContribute extensions (turnContext request)
      let history ← transcriptLoad request.runId
      let tools ← listTools context.toolScope
      let (chatRequest, flow) ← runBeforeModel extensions
        { model := core.modelName
          messages := assembleMessages context.system history
          tools := tools ++ coreToolDefs context.toolScope core.taskStore core.schedule }
      if flow = .shortCircuit then stopWith state.events .noToolCall
      else
        answer core request extensions context.toolScope state
          (resumeMessage core request state.iteration history)
          { chatRequest with messages := mergeSystemMessages chatRequest.messages }

/-- Passes until one of them stops, at most `fuel` of them. -/
def loop (core : AgentCore) (request : AgentTurnRequest) (extensions : List Extension) :
    Nat → LoopState → AgentM (List AgentEvent)
  | 0, state => pure state.events
  | fuel + 1, state => do
    let result ← pass core request extensions state
    match result with
    | .stop events => pure events
    | .again state => loop core request extensions fuel state

def seedTranscript (request : AgentTurnRequest) : AgentM Unit :=
  match request.seed with
  | .newMessage message => transcriptAppend request.runId message
  | .resume => pure ()

def initialState (core : AgentCore) (request : AgentTurnRequest) : LoopState :=
  ⟨[], core.budget, max request.startIteration 1⟩

/-- `AgentCore::run`: seed the transcript, then loop. -/
def AgentCore.run (core : AgentCore) (request : AgentTurnRequest) : AgentM (List AgentEvent) := do
  seedTranscript request
  loop core request (sortedExtensions core.extensions) (core.budget.maxSteps + 1)
    (initialState core request)

end Ziee.Agent
