/-
**What the tool round can do, said once.**

Every result about the loop is about its successful runs, so the sections of the loop are inverted
here and in `LoopRuns`. For each section there is an inductive relation that lists what the section
can do and with which trace, and a lemma that a successful run of the section is in the relation:

* `CallRun` — one call, which ends executed, denied or suspended (`CallEnd`).
* `RoundRun` — the calls of a round in order, one `CallRecord` for each.

No later result unfolds these sections again.
-/

import Ziee.Agent.Core

namespace Ziee.Agent

open PortProgram Ziee.Providers

variable {events : List AgentEvent} {trace : List PortEvent} {runId : Uuid} {call : ToolCall}
  {core : AgentCore}

def appended (runId : Uuid) (message : ChatMessage) : PortEvent :=
  ⟨.transcriptAppend runId message, (.ok () : Except AppError Unit)⟩

/-- An event went out to the sink. -/
def emitted (event : AgentEvent) : PortEvent := ⟨.emit event, ()⟩

def checked (cancelled : Bool) : PortEvent := ⟨.isCancelled, cancelled⟩

/-- The model answered with a message. -/
def replied (chatRequest : ChatRequest) (reply : ModelReply) : PortEvent :=
  ⟨.callModel chatRequest, ModelCall.finished (.ok reply)⟩

/-! ### Short sections -/

variable {result : ToolResult} {round round' : RoundState} {request : AgentTurnRequest}
  {scope : ToolScope}

theorem runs_pushEmit_iff {event : AgentEvent} {outcome : Except AppError (List AgentEvent)} :
    Runs (pushEmit events event) trace outcome ↔
      trace = [emitted event] ∧ outcome = .ok (events ++ [event]) := by
  unfold pushEmit emit
  rw [runs_bind_iff]
  constructor
  · rintro (⟨error, -, failed⟩ | ⟨value, before, after, rfl, head, tail⟩)
    · obtain ⟨_, -, impossible⟩ := runs_perform_iff.mp failed
      cases impossible
    · obtain ⟨answer, rfl, -⟩ := runs_perform_iff.mp head
      obtain ⟨rfl, rfl⟩ := runs_pure_iff.mp tail
      exact ⟨rfl, rfl⟩
  · rintro ⟨rfl, rfl⟩
    exact Or.inr ⟨(), [emitted event], [], rfl, runs_perform_iff.mpr ⟨(), rfl, rfl⟩,
      runs_pure_iff.mpr ⟨rfl, rfl⟩⟩

theorem runs_stopWith_iff {reason : StopReason} {outcome : Except AppError Pass} :
    Runs (stopWith events reason) trace outcome ↔ trace = [emitted (.stopped reason)] ∧
        outcome = .ok (.stop (events ++ [.stopped reason])) := by
  unfold stopWith
  rw [runs_bind_iff]
  constructor
  · rintro (⟨error, -, failed⟩ | ⟨value, before, after, rfl, head, tail⟩)
    · obtain ⟨-, impossible⟩ := runs_pushEmit_iff.mp failed
      cases impossible
    · obtain ⟨rfl, same⟩ := runs_pushEmit_iff.mp head
      cases same
      obtain ⟨rfl, rfl⟩ := runs_pure_iff.mp tail
      exact ⟨rfl, rfl⟩
  · rintro ⟨rfl, rfl⟩
    exact Or.inr ⟨_, _, [], rfl, runs_pushEmit_iff.mpr ⟨rfl, rfl⟩, runs_pure_iff.mpr ⟨rfl, rfl⟩⟩

theorem runs_transcriptAppend_ok {message : ChatMessage}
    {value : Unit} (run : Runs (transcriptAppend runId message) trace (.ok value)) :
    trace = [appended runId message] := by
  obtain ⟨answer, rfl, same⟩ := runs_attempt_iff.mp run
  cases same
  rfl

theorem runs_appendResult_ok {events' : List AgentEvent}
    (run : Runs (appendResult runId call result events) trace (.ok events')) :
    trace = [appended runId (toolResultMessage call result),
        emitted (.message (toolResultMessage call result))] ∧
      events' = events ++ [.message (toolResultMessage call result)] := by
  obtain ⟨_, before, after, rfl, head, tail⟩ := runs_bind_ok_iff.mp run
  obtain ⟨rfl, same⟩ := runs_pushEmit_iff.mp tail
  cases same
  rw [runs_transcriptAppend_ok head]
  exact ⟨rfl, rfl⟩

/-! ### The decision on one call -/

/-- What the policy and the reviewer settle on, with the trace of their answers. -/
inductive Settles (core : AgentCore) (call : ToolCall) : List PortEvent → Decision → Prop
  | direct (trusted : Bool) (decision : Decision) : decision ≠ .review →
      Settles core call [⟨.isTrusted (serverKey call), trusted⟩,
        ⟨.decide call trusted core.sandbox, decision⟩] decision
  | unreviewed (trusted : Bool) : core.reviewer = none →
      Settles core call [⟨.isTrusted (serverKey call), trusted⟩,
        ⟨.decide call trusted core.sandbox, Decision.review⟩] .prompt
  | reviewed (trusted : Bool) (reviewer : Reviewer)
      (classified : Except AppError RiskAssessment) : core.reviewer = some reviewer →
      Settles core call [⟨.isTrusted (serverKey call), trusted⟩,
        ⟨.decide call trusted core.sandbox, Decision.review⟩,
        ⟨.classify call reviewer.policy, classified⟩]
        (clampReviewerDecision trusted (reviewer.review classified))

theorem runs_settleDecision
    {outcome : Except AppError Decision} (run : Runs (settleDecision core call) trace outcome) :
    ∃ decision, outcome = .ok decision ∧ Settles core call trace decision := by
  unfold settleDecision isTrusted policyDecide classify at run
  rw [runs_perform_bind_iff] at run
  obtain ⟨trusted, _, rfl, run⟩ := run
  rw [runs_perform_bind_iff] at run
  obtain ⟨decision, _, rfl, run⟩ := run
  by_cases review : decision = .review
  · subst review
    rw [if_pos rfl] at run
    cases wired : core.reviewer with
    | none =>
      rw [wired] at run
      obtain ⟨rfl, rfl⟩ := runs_pure_iff.mp run
      exact ⟨_, rfl, .unreviewed trusted wired⟩
    | some reviewer =>
      rw [wired] at run
      obtain ⟨classified, _, rfl, rest⟩ := runs_perform_bind_iff.mp run
      obtain ⟨rfl, rfl⟩ := runs_pure_iff.mp rest
      exact ⟨_, rfl, .reviewed trusted reviewer classified wired⟩
  · rw [if_neg review] at run
    obtain ⟨rfl, rfl⟩ := runs_pure_iff.mp run
    exact ⟨_, rfl, .direct trusted decision review⟩

inductive Decides (core : AgentCore) (runId : Uuid) (call : ToolCall) : List PortEvent → Act → Prop
  | auto {trace : List PortEvent} : Settles core call trace .auto →
      Decides core runId call trace .execute
  | denied {trace : List PortEvent} : Settles core call trace .deny →
      Decides core runId call trace (.deny "denied by approval policy")
  | asked {trace : List PortEvent} {decision : Decision} (outcome : GateOutcome) :
      Settles core call trace decision → decision = .prompt ∨ decision = .review →
      Decides core runId call
        (trace ++ [⟨.gateRequest runId ⟨call, gateReason⟩, (.ok outcome : Except AppError _)⟩])
        (actOfOutcome outcome)

theorem runs_askGate_ok {act : Act} (run : Runs (askGate runId call) trace (.ok act)) :
    ∃ outcome, trace =
        [⟨.gateRequest runId ⟨call, gateReason⟩, (.ok outcome : Except AppError _)⟩] ∧
      act = actOfOutcome outcome := by
  obtain ⟨answer, outcome, _, same, rfl, rest⟩ := runs_attempt_bind_ok_iff.mp run
  obtain ⟨rfl, acted⟩ := runs_pure_iff.mp rest
  cases same
  cases acted
  exact ⟨outcome, rfl, rfl⟩

theorem runs_decideAct_ok {act : Act} (run : Runs (decideAct core runId call) trace (.ok act)) :
    Decides core runId call trace act := by
  obtain ⟨decision, before, after, rfl, head, tail⟩ := runs_bind_ok_iff.mp run
  obtain ⟨_, same, settles⟩ := runs_settleDecision head
  cases same
  cases decision with
  | auto =>
    obtain ⟨rfl, same⟩ := runs_pure_iff.mp tail
    cases same
    rw [List.append_nil]
    exact .auto settles
  | deny =>
    obtain ⟨rfl, same⟩ := runs_pure_iff.mp tail
    cases same
    rw [List.append_nil]
    exact .denied settles
  | prompt =>
    obtain ⟨outcome, rfl, rfl⟩ := runs_askGate_ok tail
    exact .asked outcome settles (Or.inl rfl)
  | review =>
    obtain ⟨outcome, rfl, rfl⟩ := runs_askGate_ok tail
    exact .asked outcome settles (Or.inr rfl)

/-! ### One call, and the round -/

inductive CallEnd
  | executed (result : ToolResult)
  | denied (reason : String)
  | suspended (ticket : GateTicket)

def CallEnd.message? (call : ToolCall) : CallEnd → Option ChatMessage
  | .executed result => some (toolResultMessage call result)
  | .denied reason => some (toolResultMessage call (errorToolResult reason))
  | .suspended _ => none

def CallEnd.event (call : ToolCall) : CallEnd → AgentEvent
  | .executed result => .message (toolResultMessage call result)
  | .denied reason => .message (toolResultMessage call (errorToolResult reason))
  | .suspended ticket => .gateOpened ticket

def RoundState.after (round : RoundState) (call : ToolCall) (ended : CallEnd) : RoundState where
  events := round.events ++ [ended.event call]
  suspended :=
    match ended with
    | .suspended _ => true
    | _ => round.suspended
  executed :=
    match ended with
    | .executed _ => round.executed + 1
    | _ => round.executed
  terminalCount :=
    match ended with
    | .executed result => round.terminalCount + if result.terminal then 1 else 0
    | _ => round.terminalCount

def recordTrace (runId : Uuid) (key : IdempotencyKey) (call : ToolCall) (result : ToolResult) :
    List PortEvent :=
  [⟨.journalToolCall runId ⟨key, call, result⟩, (.ok () : Except AppError Unit)⟩,
    appended runId (toolResultMessage call result),
    emitted (.message (toolResultMessage call result))]

/-- **One call of a round**: a core tool, or a decision and what follows from it. -/
inductive CallRun (core : AgentCore) (request : AgentTurnRequest) (scope : ToolScope)
    (key : IdempotencyKey) (call : ToolCall) : List PortEvent → CallEnd → Prop
  | coreTool (tool : CoreTool) (result : ToolResult) : CoreTool.fromName call.name = some tool →
      CallRun core request scope key call
        (⟨.handleCoreTool tool call scope request.runId request.userId, result⟩ ::
          recordTrace request.runId key call result) (.executed result)
  | suspended {trace : List PortEvent} (ticket : GateTicket) : CoreTool.fromName call.name = none →
      Decides core request.runId call trace (.suspend ticket) →
      CallRun core request scope key call (trace ++ [emitted (.gateOpened ticket)])
        (.suspended ticket)
  | denied {trace : List PortEvent} (reason : String) : CoreTool.fromName call.name = none →
      Decides core request.runId call trace (.deny reason) → CallRun core request scope key call
        (trace ++ [appended request.runId (toolResultMessage call (errorToolResult reason)),
          emitted (.message (toolResultMessage call (errorToolResult reason)))])
        (.denied reason)
  | executed {trace : List PortEvent} (result : Except AppError ToolResult) :
      CoreTool.fromName call.name = none → Decides core request.runId call trace .execute →
      CallRun core request scope key call (trace ++ ⟨.callTool request.runId call key, result⟩ ::
          recordTrace request.runId key call (resultOfCall result))
        (.executed (resultOfCall result))

theorem runs_recordExecuted_ok {key : IdempotencyKey}
    (run : Runs (recordExecuted runId key call result round) trace (.ok round')) :
    trace = recordTrace runId key call result ∧ round' = round.after call (.executed result) := by
  obtain ⟨answer, _, _, same, rfl, rest⟩ := runs_attempt_bind_ok_iff.mp run
  cases same
  obtain ⟨events, before, after, rfl, head, last⟩ := runs_bind_ok_iff.mp rest
  obtain ⟨rfl, rfl⟩ := runs_appendResult_ok head
  obtain ⟨rfl, same⟩ := runs_pure_iff.mp last
  cases same
  exact ⟨rfl, rfl⟩

theorem runs_runCall_ok {iteration ordinal : Nat}
    (run : Runs (runCall core request scope iteration ordinal call round) trace (.ok round')) :
    ∃ ended, CallRun core request scope (idempotencyKey request.runId iteration ordinal) call
        trace ended ∧ round' = round.after call ended := by
  unfold runCall at run
  cases named : CoreTool.fromName call.name with
  | some tool =>
    rw [named] at run
    obtain ⟨result, _, rfl, rest⟩ := runs_perform_bind_iff.mp run
    obtain ⟨rfl, rfl⟩ := runs_recordExecuted_ok rest
    exact ⟨_, .coreTool tool result named, rfl⟩
  | none =>
    rw [named] at run
    obtain ⟨act, before, after, rfl, head, rest⟩ := runs_bind_ok_iff.mp run
    have decides := runs_decideAct_ok head
    cases act with
    | execute =>
      obtain ⟨result, _, rfl, last⟩ := runs_perform_bind_iff.mp rest
      obtain ⟨rfl, rfl⟩ := runs_recordExecuted_ok last
      exact ⟨_, .executed result named decides, rfl⟩
    | deny reason =>
      obtain ⟨events, one, two, rfl, append, last⟩ := runs_bind_ok_iff.mp rest
      obtain ⟨rfl, rfl⟩ := runs_appendResult_ok append
      obtain ⟨rfl, same⟩ := runs_pure_iff.mp last
      cases same
      rw [List.append_nil]
      exact ⟨_, .denied reason named decides, rfl⟩
    | suspend ticket =>
      obtain ⟨events, one, two, rfl, push, last⟩ := runs_bind_ok_iff.mp rest
      obtain ⟨rfl, same⟩ := runs_pushEmit_iff.mp push
      cases same
      obtain ⟨rfl, same⟩ := runs_pure_iff.mp last
      cases same
      rw [List.append_nil]
      exact ⟨_, .suspended ticket named decides, rfl⟩

structure CallRecord where
  call : ToolCall
  ended : CallEnd
  trace : List PortEvent

/-- **The calls of a round, processed in order.** -/
inductive RoundRun (core : AgentCore) (request : AgentTurnRequest) (scope : ToolScope)
    (iteration : Nat) : Nat → List CallRecord → Prop
  | nil (ordinal : Nat) : RoundRun core request scope iteration ordinal []
  | cons {ordinal : Nat} {record : CallRecord} {rest : List CallRecord} :
      CallRun core request scope (idempotencyKey request.runId iteration ordinal) record.call
        record.trace record.ended →
      RoundRun core request scope iteration (ordinal + 1) rest →
      RoundRun core request scope iteration ordinal (record :: rest)

def roundTrace (records : List CallRecord) : List PortEvent := records.flatMap CallRecord.trace

def RoundState.afterAll (round : RoundState) (records : List CallRecord) : RoundState :=
  records.foldl (fun round record => round.after record.call record.ended) round

theorem runs_runCalls_ok {iteration : Nat} (calls : List ToolCall) :
    ∀ {ordinal : Nat} {round round' : RoundState} {trace : List PortEvent},
      Runs (runCalls core request scope iteration ordinal calls round) trace (.ok round') →
      ∃ records, records.map CallRecord.call = calls ∧
        RoundRun core request scope iteration ordinal records ∧ trace = roundTrace records ∧
        round' = round.afterAll records := by
  induction calls with
  | nil =>
    intro ordinal round round' trace run
    obtain ⟨rfl, same⟩ := runs_pure_iff.mp run
    cases same
    exact ⟨[], rfl, .nil ordinal, rfl, rfl⟩
  | cons call rest ih =>
    intro ordinal round round' trace run
    obtain ⟨middle, before, after, rfl, head, tail⟩ := runs_bind_ok_iff.mp run
    obtain ⟨ended, one, rfl⟩ := runs_runCall_ok head
    obtain ⟨records, calls, others, rfl, rfl⟩ := ih tail
    exact ⟨⟨call, ended, before⟩ :: records, by rw [List.map_cons, calls], .cons one others,
      rfl, rfl⟩

end Ziee.Agent
