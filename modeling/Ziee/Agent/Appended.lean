/-
**What each section of the loop asks, and what it appends.**

* `OnlyAsks` — the prelude of a pass asks only for what it assembles (`Query.ofPrelude`), the tool
  round only for decisions, calls and records (`Query.ofRound`).
* `appendedMessages` reads the messages a run put into the transcript off its trace. Steering
  notes are user messages, a call appends at most its own tool result, a refused round appends one
  error result for each call; the decision on a call and the extensions append nothing.
-/

import Ziee.Agent.LoopRuns

namespace Ziee.Agent

open PortProgram Ziee.Providers

variable {extensions : List Extension} {prelude : Prelude} {decision : Decision}
  {key : IdempotencyKey} {scope : ToolScope}

def OnlyAsks (asked : Query → Bool) (trace : List PortEvent) : Prop :=
  ∀ event ∈ trace, asked event.1 = true

/-- The queries that assemble a request. -/
def Query.ofPrelude : Query → Bool
  | .takePending _ | .transcriptAppend _ _ | .contribute _ _ | .transcriptLoad _
  | .listTools _ | .beforeModel _ _ => true
  | _ => false

def Query.ofRound : Query → Bool
  | .isTrusted _ | .decide _ _ _ | .classify _ _ | .gateRequest _ _ | .callTool _ _ _
  | .handleCoreTool _ _ _ _ _ | .journalToolCall _ _ | .transcriptAppend _ _ | .emit _ => true
  | _ => false

def Query.ofRecord : Query → Bool
  | .journalToolCall _ _ | .transcriptAppend _ _ | .emit _ => true
  | _ => false

def Query.ofReport : Query → Bool
  | .transcriptAppend _ _ | .emit _ => true
  | _ => false

/-- The queries that add to a request: notes and hooks. -/
def Query.ofContext : Query → Bool
  | .takePending _ | .transcriptAppend _ _ | .contribute _ _ | .beforeModel _ _ => true
  | _ => false

/-- The queries that decide on a call. -/
def Query.ofDecision : Query → Bool
  | .isTrusted _ | .decide _ _ _ | .classify _ _ | .gateRequest _ _ => true
  | _ => false

def Query.isAfterRound : Query → Bool
  | .afterRound _ _ => true
  | _ => false

variable {asked' : Query → Bool} {context last : TurnContext} {request : AgentTurnRequest}
  {records : List CallRecord} {reason : StopReason} {message : ChatMessage}

theorem Query.ofRound_of_ofRecord (query : Query) (record : query.ofRecord = true) :
    query.ofRound = true := by
  cases query with
  | journalToolCall | transcriptAppend | emit => rfl
  | _ => cases record

theorem Query.ofRecord_of_ofReport (query : Query) (report : query.ofReport = true) :
    query.ofRecord = true := by
  cases query with
  | transcriptAppend => rfl
  | emit => rfl
  | _ => cases report

theorem Query.ofPrelude_of_ofContext (query : Query) (context : query.ofContext = true) :
    query.ofPrelude = true := by
  cases query with
  | takePending | transcriptAppend | contribute | beforeModel => rfl
  | _ => cases context

section Asks

variable {asked : Query → Bool} {event : PortEvent} {before after trace : List PortEvent}

@[simp] theorem onlyAsks_nil : OnlyAsks asked [] := List.forall_mem_nil _

@[simp] theorem onlyAsks_cons_iff :
    OnlyAsks asked (event :: trace) ↔ asked event.1 = true ∧ OnlyAsks asked trace :=
  List.forall_mem_cons

@[simp] theorem onlyAsks_append_iff :
    OnlyAsks asked (before ++ after) ↔ OnlyAsks asked before ∧ OnlyAsks asked after :=
  List.forall_mem_append

theorem OnlyAsks.mono (only : OnlyAsks asked trace)
    (wider : ∀ query, asked query = true → asked' query = true) : OnlyAsks asked' trace :=
  fun event member => wider _ (only event member)

theorem OnlyAsks.not_mem (only : OnlyAsks asked trace) (other : asked event.1 = false) :
    event ∉ trace := by
  intro member
  rw [only event member] at other
  cases other

theorem ContributeRun.asks (run : ContributeRun extensions context trace last)
    (hook : ∀ extension context, asked (.contribute extension context) = true) :
    OnlyAsks asked trace := by
  induction run with
  | nil => exact onlyAsks_nil
  | cons _ ih => exact onlyAsks_cons_iff.mpr ⟨hook _ _, ih⟩

theorem BeforeModelRun.asks {request last : ChatRequest}
    {flow : Flow} (run : BeforeModelRun extensions request trace last flow)
    (hook : ∀ extension request, asked (.beforeModel extension request) = true) :
    OnlyAsks asked trace := by
  induction run with
  | nil => exact onlyAsks_nil
  | shortCircuit => exact onlyAsks_cons_iff.mpr ⟨hook _ _, onlyAsks_nil⟩
  | cons _ ih => exact onlyAsks_cons_iff.mpr ⟨hook _ _, ih⟩

theorem onlyAsks_steerTrace {core : AgentCore} {runId : Uuid} {notes : List String}
    (take : ∀ runId, asked (.takePending runId) = true)
    (append : ∀ runId message, asked (.transcriptAppend runId message) = true) :
    OnlyAsks asked (steerTrace core runId notes) := by
  unfold steerTrace
  split
  · refine onlyAsks_cons_iff.mpr ⟨take _, fun event member => ?_⟩
    obtain ⟨note, -, rfl⟩ := List.mem_map.mp member
    exact append _ _
  · exact onlyAsks_nil

theorem Prelude.Run.asks {core : AgentCore} (run : prelude.Run core request extensions)
    {runId : Uuid} : OnlyAsks Query.ofPrelude (prelude.trace core runId) := by
  unfold Prelude.trace
  simp only [onlyAsks_append_iff, onlyAsks_cons_iff]
  exact ⟨⟨onlyAsks_steerTrace (fun _ => rfl) fun _ _ => rfl, run.contributes.asks fun _ _ => rfl⟩,
    rfl, rfl, run.vets.asks fun _ _ => rfl⟩

theorem Settles.asks {core : AgentCore} {call : ToolCall}
    (settles : Settles core call trace decision) : OnlyAsks Query.ofRound trace := by
  cases settles <;> simp [Query.ofRound]

theorem Decides.asks {core : AgentCore} {runId : Uuid} {call : ToolCall} {act : Act}
    (decides : Decides core runId call trace act) : OnlyAsks Query.ofRound trace := by
  cases decides with
  | auto settles => exact settles.asks
  | denied settles => exact settles.asks
  | asked outcome settles =>
    exact onlyAsks_append_iff.mpr ⟨settles.asks, onlyAsks_cons_iff.mpr ⟨rfl, onlyAsks_nil⟩⟩

theorem onlyAsks_recordTrace {runId : Uuid} {call : ToolCall}
    {result : ToolResult} : OnlyAsks Query.ofRound (recordTrace runId key call result) := by
  unfold recordTrace
  simp only [onlyAsks_cons_iff]
  exact ⟨rfl, rfl, rfl, onlyAsks_nil⟩

theorem CallRun.asks {core : AgentCore} {call : ToolCall} {ended : CallEnd}
    (run : CallRun core request scope key call trace ended) : OnlyAsks Query.ofRound trace := by
  cases run with
  | coreTool tool result named => exact onlyAsks_cons_iff.mpr ⟨rfl, onlyAsks_recordTrace⟩
  | suspended ticket named decides =>
    exact onlyAsks_append_iff.mpr ⟨decides.asks, onlyAsks_cons_iff.mpr ⟨rfl, onlyAsks_nil⟩⟩
  | denied reason named decides =>
    exact onlyAsks_append_iff.mpr ⟨decides.asks,
      onlyAsks_cons_iff.mpr ⟨rfl, onlyAsks_cons_iff.mpr ⟨rfl, onlyAsks_nil⟩⟩⟩
  | executed result named decides =>
    exact onlyAsks_append_iff.mpr ⟨decides.asks, onlyAsks_cons_iff.mpr ⟨rfl, onlyAsks_recordTrace⟩⟩

theorem RoundRun.asks {core : AgentCore} {iteration ordinal : Nat}
    (run : RoundRun core request scope iteration ordinal records) :
    OnlyAsks Query.ofRound (roundTrace records) := by
  induction run with
  | nil => exact onlyAsks_nil
  | cons one _ ih => exact onlyAsks_append_iff.mpr ⟨one.asks, ih⟩

theorem onlyAsks_refuseTrace {runId : Uuid} {calls : List ToolCall} :
    OnlyAsks Query.ofRecord (refuseTrace runId reason calls) := by
  induction calls with
  | nil => exact onlyAsks_nil
  | cons call rest ih => exact onlyAsks_cons_iff.mpr ⟨rfl, onlyAsks_cons_iff.mpr ⟨rfl, ih⟩⟩

theorem onlyAsks_finishTrace {round : RoundState} :
    OnlyAsks Query.ofRecord (finishTrace round) := by
  unfold finishTrace
  split
  · exact onlyAsks_cons_iff.mpr ⟨rfl, onlyAsks_nil⟩
  · exact onlyAsks_nil

end Asks

/-! ### Which queries a program asks -/

theorem closed_onlyAsks (asked : Query → Bool) : Closed (OnlyAsks asked) where
  nil := onlyAsks_nil
  append := fun first second => onlyAsks_append_iff.mpr ⟨first, second⟩

/-- Every run of the program asks only these queries. -/
def Asks {α : Type} (asked : Query → Bool) (program : AgentM α) : Prop :=
  Keeps (OnlyAsks asked) program

section Asks

variable {asked : Query → Bool} {α β : Type}

theorem Asks.pure (value : α) : Asks asked (Pure.pure value : AgentM α) :=
  Keeps.pure (closed_onlyAsks asked) value

theorem Asks.mono {program : AgentM α} (asks : Asks asked program)
    (wider : ∀ query, asked query = true → asked' query = true) : Asks asked' program :=
  Keeps.mono asks fun _ only => only.mono wider

theorem Asks.bind {first : AgentM α} {rest : α → AgentM β} (head : Asks asked first)
    (tail : ∀ value, Asks asked (rest value)) : Asks asked (first >>= rest) :=
  Keeps.bind (closed_onlyAsks asked) head tail

theorem Asks.perform {query : Query} (ask : asked query = true) :
    Asks asked (Program.perform query) :=
  Keeps.perform fun _ => onlyAsks_cons_iff.mpr ⟨ask, onlyAsks_nil⟩

theorem Asks.attempt {query : Query} {decode : query.Answer → Except AppError α}
    (ask : asked query = true) : Asks asked (Program.attempt (I := ports) query decode) :=
  Keeps.attempt fun _ => onlyAsks_cons_iff.mpr ⟨ask, onlyAsks_nil⟩

end Asks

section Assembling

variable {core : AgentCore} {runId : Uuid}

theorem drainSteerNotes_asks : Asks Query.ofContext (drainSteerNotes core runId) := by
  refine Keeps.ite (Asks.bind (.attempt rfl) fun notes => ?_) (Asks.pure _)
  induction notes with
  | nil => exact .pure _
  | cons note rest ih => exact .bind (.attempt rfl) fun _ => ih

theorem runContribute_asks (extensions : List Extension) :
    ∀ context, Asks Query.ofContext (runContribute extensions context) := by
  induction extensions with
  | nil => exact fun _ => .pure _
  | cons extension rest ih => exact fun _ => .bind (.attempt rfl) fun _ => ih _

theorem runBeforeModel_asks (extensions : List Extension) :
    ∀ request, Asks Query.ofContext (runBeforeModel extensions request) := by
  induction extensions with
  | nil => exact fun _ => .pure _
  | cons extension rest ih =>
    exact fun _ => .bind (.attempt rfl) fun _ => Keeps.ite (Asks.pure _) (ih _)

theorem drainSteerNotes_prelude : Asks Query.ofPrelude (drainSteerNotes core runId) :=
  drainSteerNotes_asks.mono Query.ofPrelude_of_ofContext

theorem runContribute_prelude (extensions : List Extension) (context : TurnContext) :
    Asks Query.ofPrelude (runContribute extensions context) :=
  (runContribute_asks extensions context).mono Query.ofPrelude_of_ofContext

theorem runBeforeModel_prelude (extensions : List Extension) (request : ChatRequest) :
    Asks Query.ofPrelude (runBeforeModel extensions request) :=
  (runBeforeModel_asks extensions request).mono Query.ofPrelude_of_ofContext

end Assembling

section Reacting

variable {core : AgentCore} {runId : Uuid} {call : ToolCall}

theorem pushEmit_asks (events : List AgentEvent) (event : AgentEvent) :
    Asks Query.ofReport (pushEmit events event) :=
  .bind (.perform rfl) fun _ => .pure _

theorem stopWith_asks (events : List AgentEvent) (reason : StopReason) :
    Asks Query.ofReport (stopWith events reason) :=
  .bind (pushEmit_asks _ _) fun _ => .pure _

theorem appendResult_asks (runId : Uuid) (call : ToolCall) (result : ToolResult)
    (events : List AgentEvent) : Asks Query.ofReport (appendResult runId call result events) :=
  .bind (.attempt rfl) fun _ => pushEmit_asks _ _

theorem refuseCalls_asks (calls : List ToolCall) :
    ∀ events, Asks Query.ofReport (refuseCalls runId reason calls events) := by
  induction calls with
  | nil => exact fun _ => .pure _
  | cons call rest ih => exact fun _ => .bind (appendResult_asks _ _ _ _) fun _ => ih _

theorem finishRound_asks (state : LoopState) (round : RoundState) :
    Asks Query.ofReport (finishRound state round) := by
  unfold finishRound
  exact Keeps.ite (stopWith_asks _ _) (Keeps.ite (stopWith_asks _ _) (Asks.pure _))

theorem settleDecision_asks : Asks Query.ofDecision (settleDecision core call) := by
  refine .bind (.perform rfl) fun trusted => .bind (.perform rfl) fun decision => ?_
  refine Keeps.ite ?_ (Asks.pure _)
  split
  · exact Asks.bind (.perform rfl) fun _ => .pure _
  · exact Asks.pure _

theorem decideAct_asks : Asks Query.ofDecision (decideAct core runId call) := by
  refine .bind settleDecision_asks fun decision => ?_
  have gate : Asks Query.ofDecision (askGate runId call) := .bind (.attempt rfl) fun _ => .pure _
  cases decision with
  | auto => exact .pure _
  | prompt | review => exact gate
  | deny => exact .pure _

theorem postRound_asks (extensions : List Extension) (message : ChatMessage) (fromModel : Bool) :
    Asks Query.isAfterRound (postRound extensions message fromModel) := by
  refine Keeps.ite ?_ (Asks.pure _)
  induction extensions with
  | nil => exact Asks.pure _
  | cons extension rest ih =>
    exact Asks.bind (.attempt rfl) fun flow => Keeps.ite (Asks.pure _) ih

end Reacting

/-! ### What an event says -/

/-- The call put to the approval policy. -/
def decidedCall? : PortEvent → Option ToolCall
  | ⟨.decide call _ _, _⟩ => some call
  | _ => none

def handedCall? : PortEvent → Option ToolCall
  | ⟨.gateRequest _ ask, _⟩ => some ask.call
  | ⟨.callTool _ call _, _⟩ => some call
  | _ => none

def modelCall? : PortEvent → Option ChatRequest
  | ⟨.callModel sent, _⟩ => some sent
  | _ => none

def appendedMessage? : PortEvent → Option ChatMessage
  | ⟨.transcriptAppend _ message, .ok _⟩ => some message
  | _ => none

/-- The messages a run put into the transcript, in order. -/
def appendedMessages (trace : List PortEvent) : List ChatMessage :=
  trace.filterMap appendedMessage?

section Basic

variable {before after rest : List PortEvent}

@[simp] theorem appendedMessages_nil : appendedMessages [] = [] := rfl

@[simp] theorem appendedMessages_append :
    appendedMessages (before ++ after) = appendedMessages before ++ appendedMessages after :=
  List.filterMap_append

@[simp] theorem appendedMessages_appended {runId : Uuid} {message : ChatMessage} :
    appendedMessages (appended runId message :: rest) = message :: appendedMessages rest := rfl

@[simp] theorem appendedMessages_emitted {event : AgentEvent} :
    appendedMessages (emitted event :: rest) = appendedMessages rest := rfl

@[simp] theorem appendedMessages_checked {cancelled : Bool} :
    appendedMessages (checked cancelled :: rest) = appendedMessages rest := rfl

@[simp] theorem appendedMessages_callModel {sent : ChatRequest} {call : ModelCall} :
    appendedMessages (⟨.callModel sent, call⟩ :: rest) = appendedMessages rest := rfl

@[simp] theorem appendedMessages_loaded {runId : Uuid} {history : List ChatMessage} :
    appendedMessages (loaded runId history :: rest) = appendedMessages rest := rfl

@[simp] theorem appendedMessages_listed {scope : ToolScope} {tools : List Tool} :
    appendedMessages (listed scope tools :: rest) = appendedMessages rest := rfl

@[simp] theorem appendedMessages_drained {runId : Uuid} {notes : List String} :
    appendedMessages (drained runId notes :: rest) = appendedMessages rest := rfl

@[simp] theorem appendedMessages_hooks {message : ChatMessage} {answers : List (Extension × Flow)} :
    appendedMessages (answers.map (hookAnswered message)) = [] := by
  induction answers with
  | nil => rfl
  | cons answer answers ih => exact ih

end Basic

/-! ### The prelude -/

theorem ContributeRun.appends {trace : List PortEvent}
    (run : ContributeRun extensions context trace last) : appendedMessages trace = [] := by
  induction run with
  | nil => rfl
  | cons _ ih => exact ih

theorem BeforeModelRun.appends {request last : ChatRequest} {trace : List PortEvent} {flow : Flow}
    (run : BeforeModelRun extensions request trace last flow) : appendedMessages trace = [] := by
  induction run with
  | nil => rfl
  | shortCircuit => rfl
  | cons _ ih => exact ih

def Prelude.steering (core : AgentCore) (prelude : Prelude) : List ChatMessage :=
  if core.steer then prelude.notes.map steeringMessage else []

theorem appendedMessages_steerTrace {core : AgentCore} {runId : Uuid} :
    appendedMessages (steerTrace core runId prelude.notes) = prelude.steering core := by
  unfold steerTrace Prelude.steering
  split
  · rw [appendedMessages_drained]
    induction prelude.notes with
    | nil => rfl
    | cons note notes ih => rw [List.map_cons, List.map_cons, appendedMessages_appended, ih]
  · rfl

/-- **The prelude appends its steering notes** and nothing else. -/
theorem Prelude.Run.appends {core : AgentCore} (run : prelude.Run core request extensions)
    {runId : Uuid} : appendedMessages (prelude.trace core runId) = prelude.steering core := by
  unfold Prelude.trace
  rw [appendedMessages_append, appendedMessages_append, appendedMessages_steerTrace,
    run.contributes.appends, appendedMessages_loaded, appendedMessages_listed,
    run.vets.appends, List.append_nil, List.append_nil]

theorem Prelude.mem_steering {core : AgentCore} (member : message ∈ prelude.steering core) :
    message.role = .user ∧ message.toolUseIds = [] ∧ message.toolResultIds = [] := by
  unfold Prelude.steering at member
  split at member
  · obtain ⟨note, -, rfl⟩ := List.mem_map.mp member
    exact ⟨rfl, rfl, rfl⟩
  · cases member

@[simp] theorem appendedMessages_receiveTrace {runId : Uuid} {sent : ChatRequest}
    {reply : ModelReply} : appendedMessages (receiveTrace runId sent reply) = [reply.message] :=
  rfl

/-! ### The tool round -/

theorem extractToolCalls_ids (message : ChatMessage) :
    (extractToolCalls message).map ToolCall.id = message.toolUseIds := by
  unfold extractToolCalls ChatMessage.toolUseIds
  induction message.content with
  | nil => rfl
  | cons block rest ih =>
    cases block with
    | toolUse id name input => exact congrArg (id :: ·) ih
    | _ => exact ih

theorem extractToolCalls_eq_nil_iff : extractToolCalls message = [] ↔ message.toolUseIds = [] := by
  rw [← extractToolCalls_ids, List.map_eq_nil_iff]

theorem Settles.appends {core : AgentCore} {call : ToolCall} {trace : List PortEvent}
    (settles : Settles core call trace decision) : appendedMessages trace = [] := by
  cases settles <;> rfl

theorem Settles.decided {core : AgentCore} {call : ToolCall} {trace : List PortEvent}
    (settles : Settles core call trace decision) :
    trace.filterMap decidedCall? = [call] ∧ trace.filterMap handedCall? = [] := by
  cases settles <;> exact ⟨rfl, rfl⟩

theorem Decides.appends {core : AgentCore} {runId : Uuid} {call : ToolCall}
    {trace : List PortEvent} {act : Act} (decides : Decides core runId call trace act) :
    appendedMessages trace = [] := by
  cases decides with
  | auto settles => exact settles.appends
  | denied settles => exact settles.appends
  | asked outcome settles =>
    rw [appendedMessages_append, settles.appends]
    rfl

theorem CallRun.appends {core : AgentCore} {call : ToolCall} {trace : List PortEvent}
    {ended : CallEnd} (run : CallRun core request scope key call trace ended) :
    appendedMessages trace = (ended.message? call).toList := by
  cases run with
  | coreTool tool result named => rfl
  | suspended ticket named decides =>
    rw [appendedMessages_append, decides.appends]
    rfl
  | denied reason named decides =>
    rw [appendedMessages_append, decides.appends]
    rfl
  | executed result named decides =>
    rw [appendedMessages_append, decides.appends]
    rfl

def CallRecord.message? (record : CallRecord) : Option ChatMessage :=
  record.ended.message? record.call

/-- **A round appends the results of its answered calls**, in order. -/
theorem RoundRun.appends {core : AgentCore} {iteration ordinal : Nat}
    (run : RoundRun core request scope iteration ordinal records) :
    appendedMessages (roundTrace records) = records.filterMap CallRecord.message? := by
  induction run with
  | nil => rfl
  | @cons ordinal record rest one _ ih =>
    show appendedMessages (record.trace ++ roundTrace rest) = _
    rw [appendedMessages_append, one.appends, ih]
    show (record.message?).toList ++ _ = _
    cases answered : record.message? with
    | none => rw [List.filterMap_cons_none answered]; rfl
    | some message => rw [List.filterMap_cons_some answered]; rfl

@[simp] theorem appendedMessages_refuseTrace {runId : Uuid} {reason : StopReason}
    {calls : List ToolCall} : appendedMessages (refuseTrace runId reason calls) =
      calls.map fun call => toolResultMessage call (refusal reason) := by
  induction calls with
  | nil => rfl
  | cons call rest ih =>
    show appendedMessages (_ :: _ :: refuseTrace runId reason rest) = _
    rw [appendedMessages_appended, appendedMessages_emitted, ih]
    rfl

@[simp] theorem appendedMessages_finishTrace {round : RoundState} :
    appendedMessages (finishTrace round) = [] := by
  unfold finishTrace
  split <;> rfl

/-! ### A given environment -/

/-- Ports that succeed, on a transcript that starts as given: nobody cancels or steers, every call
is trusted and allowed, and the model answers with text. -/
def succeedingPorts (transcript : List ChatMessage) (past : List PortEvent) :
    ∀ query, Query.Answer query
  | .transcriptLoad _ => .ok (transcript ++ appendedMessages past)
  | .transcriptAppend _ _ => .ok ()
  | .journalToolCall _ _ => .ok ()
  | .emit _ => ()
  | .isCancelled => false
  | .takePending _ => .ok []
  | .contribute _ context => .ok context
  | .beforeModel _ request => .ok (request, .continue)
  | .afterRound _ _ => .ok .continue
  | .listTools _ => .ok []
  | .callModel _ => .finished (.ok ⟨[.text "done"], ⟨0, 0, 0⟩⟩)
  | .handleCoreTool _ _ _ _ _ => ⟨[], false, none, false⟩
  | .isTrusted _ => true
  | .decide _ _ _ => .auto
  | .classify _ _ => .ok ⟨.low, .high⟩
  | .gateRequest _ _ => .ok (.decided .approved)
  | .callTool _ _ _ => .ok ⟨[], false, none, false⟩

def scriptedPorts (transcript : List ChatMessage)
    (script : List PortEvent → ∀ query, Option (Query.Answer query)) (past : List PortEvent)
    (query : Query) : Query.Answer query :=
  (script past query).getD (succeedingPorts transcript past query)

end Ziee.Agent
