/-
**What one pass of the loop can do, and a whole turn.**

* `ContributeRun`, `BeforeModelRun`, `Prelude.Run` — the request is assembled from the steering
  notes, the extensions, the transcript and the tools.
* `PassRun` — one pass; `LoopRun` — passes until one stops.
* `runs_run_ok` — **a successful turn is its seed followed by a `LoopRun`.**
* `loop_succ` — **the pass count is never the reason the loop ends**: from `maxSteps + 1` on, one
  more pass allowed changes no run.

The results on answered tool calls, on resume and on the transcript are inductions on `LoopRun`.
-/

import Ziee.Agent.CoreRuns

namespace Ziee.Agent

open PortProgram Ziee.Providers

variable {runId : Uuid} {message : ChatMessage} {tokens : Nat} {scope : ToolScope} {result : Pass}

def loaded (runId : Uuid) (history : List ChatMessage) : PortEvent :=
  ⟨.transcriptLoad runId, (.ok history : Except AppError (List ChatMessage))⟩

def listed (scope : ToolScope) (tools : List Tool) : PortEvent :=
  ⟨.listTools scope, (.ok tools : Except AppError (List Tool))⟩

def drained (runId : Uuid) (notes : List String) : PortEvent :=
  ⟨.takePending runId, (.ok notes : Except AppError (List String))⟩

def contributed (extension : Extension) (context context' : TurnContext) : PortEvent :=
  ⟨.contribute extension context, (.ok context' : Except AppError TurnContext)⟩

def vetted (extension : Extension) (request request' : ChatRequest) (flow : Flow) : PortEvent :=
  ⟨.beforeModel extension request, (.ok (request', flow) : Except AppError (ChatRequest × Flow))⟩

/-- An `after_round` hook looked at the message and answered. -/
def hookAnswered (message : ChatMessage) (answer : Extension × Flow) : PortEvent :=
  ⟨.afterRound answer.1 message, (.ok answer.2 : Except AppError Flow)⟩

def steerTrace (core : AgentCore) (runId : Uuid) (notes : List String) : List PortEvent :=
  if core.steer then
    drained runId notes :: notes.map fun note => appended runId (steeringMessage note)
  else []

theorem runs_appendNotes_ok (notes : List String) : ∀ {trace : List PortEvent} {value : Unit},
      Runs (appendNotes runId notes) trace (.ok value) →
      trace = notes.map fun note => appended runId (steeringMessage note) := by
  induction notes with
  | nil =>
    intro trace value run
    exact (runs_pure_iff.mp run).1
  | cons note rest ih =>
    intro trace value run
    obtain ⟨_, before, after, rfl, head, tail⟩ := runs_bind_ok_iff.mp run
    rw [runs_transcriptAppend_ok head, ih tail]
    rfl

theorem runs_drainSteerNotes_ok {core : AgentCore} {trace : List PortEvent}
    {value : Unit} (run : Runs (drainSteerNotes core runId) trace (.ok value)) :
    ∃ notes, (core.steer = false → notes = []) ∧ trace = steerTrace core runId notes := by
  unfold drainSteerNotes at run
  unfold steerTrace
  cases wired : core.steer with
  | false =>
    rw [wired] at run
    obtain ⟨rfl, -⟩ := runs_pure_iff.mp run
    exact ⟨[], fun _ => rfl, rfl⟩
  | true =>
    rw [wired, if_pos rfl] at run
    obtain ⟨answer, notes, _, same, rfl, rest⟩ := runs_attempt_bind_ok_iff.mp run
    cases same
    rw [runs_appendNotes_ok notes rest]
    exact ⟨notes, nofun, rfl⟩

/-! ### The extensions -/

inductive ContributeRun : List Extension → TurnContext → List PortEvent → TurnContext → Prop
  | nil (context : TurnContext) : ContributeRun [] context [] context
  | cons {extension : Extension} {rest : List Extension} {context middle last : TurnContext}
      {trace : List PortEvent} : ContributeRun rest middle trace last →
      ContributeRun (extension :: rest) context (contributed extension context middle :: trace) last

theorem runs_runContribute_ok (extensions : List Extension) :
    ∀ {context last : TurnContext} {trace : List PortEvent},
      Runs (runContribute extensions context) trace (.ok last) →
      ContributeRun extensions context trace last := by
  induction extensions with
  | nil =>
    intro context last trace run
    obtain ⟨rfl, same⟩ := runs_pure_iff.mp run
    cases same
    exact .nil context
  | cons extension rest ih =>
    intro context last trace run
    obtain ⟨answer, middle, _, same, rfl, tail⟩ := runs_attempt_bind_ok_iff.mp run
    cases same
    exact .cons (ih tail)

inductive BeforeModelRun : List Extension → ChatRequest → List PortEvent → ChatRequest → Flow → Prop
  | nil (request : ChatRequest) : BeforeModelRun [] request [] request .continue
  | shortCircuit {extension : Extension} {rest : List Extension} {request last : ChatRequest} :
      BeforeModelRun (extension :: rest) request [vetted extension request last .shortCircuit]
        last .shortCircuit
  | cons {extension : Extension} {rest : List Extension} {request middle last : ChatRequest}
      {trace : List PortEvent} {flow : Flow} : BeforeModelRun rest middle trace last flow →
      BeforeModelRun (extension :: rest) request
        (vetted extension request middle .continue :: trace) last flow

theorem runs_runBeforeModel_ok (extensions : List Extension) :
    ∀ {request : ChatRequest} {result : ChatRequest × Flow} {trace : List PortEvent},
      Runs (runBeforeModel extensions request) trace (.ok result) →
      BeforeModelRun extensions request trace result.1 result.2 := by
  induction extensions with
  | nil =>
    intro request result trace run
    obtain ⟨rfl, same⟩ := runs_pure_iff.mp run
    cases same
    exact .nil request
  | cons extension rest ih =>
    intro request result trace run
    obtain ⟨answer, ⟨middle, flow⟩, _, same, rfl, tail⟩ := runs_attempt_bind_ok_iff.mp run
    cases same
    cases flow with
    | shortCircuit =>
      obtain ⟨rfl, same⟩ := runs_pure_iff.mp tail
      cases same
      exact .shortCircuit
    | «continue» => exact .cons (ih tail)

/-- **The post-round hooks**: each one answers, and the turn ends there when one of them says so. -/
theorem runs_runAfterRound_ok (extensions : List Extension) :
    ∀ {trace : List PortEvent} {ended : Bool},
      Runs (runAfterRound extensions message) trace (.ok ended) →
      ∃ answers : List (Extension × Flow), trace = answers.map (hookAnswered message) ∧
        (ended = true ↔ ∃ answer ∈ answers, answer.2 = .shortCircuit) := by
  induction extensions with
  | nil =>
    intro trace ended run
    obtain ⟨rfl, same⟩ := runs_pure_iff.mp run
    cases same
    exact ⟨[], rfl, by simp⟩
  | cons extension rest ih =>
    intro trace ended run
    obtain ⟨answer, flow, _, same, rfl, tail⟩ := runs_attempt_bind_ok_iff.mp run
    cases same
    cases flow with
    | shortCircuit =>
      obtain ⟨rfl, same⟩ := runs_pure_iff.mp tail
      cases same
      exact ⟨[(extension, .shortCircuit)], rfl, by simp⟩
    | «continue» =>
      obtain ⟨answers, rfl, iff⟩ := ih tail
      exact ⟨(extension, .continue) :: answers, rfl, by simp [iff]⟩

/-! ### The prelude of a pass -/

/-- What a pass has assembled when it asks for the assistant message. -/
structure Prelude where
  notes : List String
  context : TurnContext
  history : List ChatMessage
  tools : List Tool
  chatRequest : ChatRequest
  flow : Flow
  contributeTrace : List PortEvent
  beforeModelTrace : List PortEvent

namespace Prelude

/-- The request before the extensions see it. -/
def assembled (core : AgentCore) (prelude : Prelude) : ChatRequest where
  model := core.modelName
  messages := assembleMessages prelude.context.system prelude.history
  tools := prelude.tools ++ coreToolDefs prelude.context.toolScope core.taskStore core.schedule

def sent (prelude : Prelude) : ChatRequest :=
  { prelude.chatRequest with messages := mergeSystemMessages prelude.chatRequest.messages }

def trace (core : AgentCore) (runId : Uuid) (prelude : Prelude) : List PortEvent :=
  steerTrace core runId prelude.notes ++ prelude.contributeTrace ++
    loaded runId prelude.history :: listed prelude.context.toolScope prelude.tools ::
      prelude.beforeModelTrace

/-- The parts of a prelude fit together. -/
structure Run (core : AgentCore) (request : AgentTurnRequest) (extensions : List Extension)
    (prelude : Prelude) : Prop where
  unsteered : core.steer = false → prelude.notes = []
  contributes : ContributeRun extensions (turnContext request) prelude.contributeTrace
    prelude.context
  vets : BeforeModelRun extensions (prelude.assembled core) prelude.beforeModelTrace
    prelude.chatRequest prelude.flow

end Prelude

/-! ### From the assistant message on -/

def finishReason (round : RoundState) : Option StopReason :=
  if round.suspended then some .halted
  else if round.executed > 0 ∧ round.terminalCount = round.executed then some .noToolCall
  else none

def finishTrace (round : RoundState) : List PortEvent :=
  match finishReason round with
  | some reason => [emitted (.stopped reason)]
  | none => []

def finishPass (state : LoopState) (round : RoundState) : Pass :=
  match finishReason round with
  | some reason => .stop (round.events ++ [.stopped reason])
  | none => .again { state with events := round.events, iteration := state.iteration + 1 }

theorem runs_finishRound_iff {state : LoopState} {round : RoundState} {trace : List PortEvent}
    {outcome : Except AppError Pass} : Runs (finishRound state round) trace outcome ↔
      trace = finishTrace round ∧ outcome = .ok (finishPass state round) := by
  unfold finishRound finishTrace finishPass finishReason
  by_cases suspended : round.suspended
  · simp only [suspended, if_true]
    exact runs_stopWith_iff
  · by_cases terminal : round.executed > 0 ∧ round.terminalCount = round.executed
    · simp only [suspended, if_false, if_pos terminal, Bool.false_eq_true]
      exact runs_stopWith_iff
    · simp only [suspended, if_false, if_neg terminal, Bool.false_eq_true]
      exact runs_pure_iff

def refuseTrace (runId : Uuid) (reason : StopReason) (calls : List ToolCall) : List PortEvent :=
  calls.flatMap fun call =>
    [appended runId (toolResultMessage call (refusal reason)),
      emitted (.message (toolResultMessage call (refusal reason)))]

def refuseEvents (reason : StopReason) (calls : List ToolCall) : List AgentEvent :=
  calls.map fun call => .message (toolResultMessage call (refusal reason))

theorem runs_refuseCalls_ok {reason : StopReason} (calls : List ToolCall) :
    ∀ {events events' : List AgentEvent} {trace : List PortEvent},
      Runs (refuseCalls runId reason calls events) trace (.ok events') →
      trace = refuseTrace runId reason calls ∧ events' = events ++ refuseEvents reason calls := by
  induction calls with
  | nil =>
    intro events events' trace run
    obtain ⟨rfl, same⟩ := runs_pure_iff.mp run
    cases same
    exact ⟨rfl, (List.append_nil _).symm⟩
  | cons call rest ih =>
    intro events events' trace run
    obtain ⟨_, before, after, rfl, head, tail⟩ := runs_bind_ok_iff.mp run
    obtain ⟨rfl, rfl⟩ := runs_appendResult_ok head
    obtain ⟨rfl, rfl⟩ := ih tail
    exact ⟨rfl, by simp [refuseEvents]⟩

/-- The post-round hooks that looked at the message let the turn go on. -/
def HooksPass (fromModel : Bool) (answers : List (Extension × Flow)) : Prop :=
  (fromModel = false → answers = []) ∧ ∀ answer ∈ answers, answer.2 = .continue

/-- **What follows an assistant message**: a hook ends the turn, or it was the final answer, or
its calls are refused, or its calls are run. -/
inductive ReactRun (core : AgentCore) (request : AgentTurnRequest) (scope : ToolScope)
    (state : LoopState) (message : ChatMessage) (fromModel : Bool) (lastStepTokens : Nat) :
    List PortEvent → Pass → Prop
  | shortCircuited (answers : List (Extension × Flow)) : fromModel = true →
      (∃ answer ∈ answers, answer.2 = .shortCircuit) →
      ReactRun core request scope state message fromModel lastStepTokens
        (answers.map (hookAnswered message) ++ [emitted (.stopped .noToolCall)])
        (.stop (state.events ++ [.stopped .noToolCall]))
  | finalAnswer (answers : List (Extension × Flow)) : HooksPass fromModel answers →
      extractToolCalls message = [] →
      ReactRun core request scope state message fromModel lastStepTokens
        (answers.map (hookAnswered message) ++ [emitted (.stopped .noToolCall)])
        (.stop (state.events ++ [.stopped .noToolCall]))
  | refused (answers : List (Extension × Flow)) (cancelled : Bool) (reason : StopReason) :
      HooksPass fromModel answers → extractToolCalls message ≠ [] →
      stopAfter state.budget state.iteration lastStepTokens cancelled = some reason →
      ReactRun core request scope state message fromModel lastStepTokens
        (answers.map (hookAnswered message) ++ checked cancelled ::
          (refuseTrace request.runId reason (extractToolCalls message) ++
            [emitted (.stopped reason)]))
        (.stop (state.events ++ refuseEvents reason (extractToolCalls message) ++
          [.stopped reason]))
  | ran (answers : List (Extension × Flow)) (records : List CallRecord) :
      HooksPass fromModel answers → extractToolCalls message ≠ [] →
      stopAfter state.budget state.iteration lastStepTokens false = none →
      records.map CallRecord.call = extractToolCalls message →
      RoundRun core request scope state.iteration 0 records →
      ReactRun core request scope state message fromModel lastStepTokens
        (answers.map (hookAnswered message) ++ checked false :: (roundTrace records ++
          finishTrace (RoundState.afterAll ⟨state.events, false, 0, 0⟩ records)))
        (finishPass state (RoundState.afterAll ⟨state.events, false, 0, 0⟩ records))

theorem stopAfter_cancelled {budget : Budget} {iteration : Nat} {cancelled : Bool}
    (goes : stopAfter budget iteration tokens cancelled = none) : cancelled = false := by
  cases cancelled with
  | false => rfl
  | true => exact absurd goes (by simp [stopAfter])

theorem runs_react_ok {core : AgentCore} {request : AgentTurnRequest}
    {extensions : List Extension} {state : LoopState} {fromModel : Bool} {lastStepTokens : Nat}
    {trace : List PortEvent}
    (run : Runs (react core request extensions scope state message fromModel lastStepTokens)
      trace (.ok result)) :
    ReactRun core request scope state message fromModel lastStepTokens trace result := by
  unfold react at run
  obtain ⟨ended, before, after, rfl, hooks, rest⟩ := runs_bind_ok_iff.mp run
  have answered : ∃ answers : List (Extension × Flow),
      before = answers.map (hookAnswered message) ∧ (fromModel = false → answers = []) ∧
      (ended = true ↔ ∃ answer ∈ answers, answer.2 = .shortCircuit) := by
    cases fromModel with
    | false =>
      obtain ⟨rfl, same⟩ := runs_pure_iff.mp hooks
      cases same
      exact ⟨[], rfl, fun _ => rfl, by simp⟩
    | true =>
      obtain ⟨answers, rfl, iff⟩ := runs_runAfterRound_ok extensions hooks
      exact ⟨answers, rfl, nofun, iff⟩
  obtain ⟨answers, rfl, unasked, iff⟩ := answered
  cases ended with
  | true =>
    obtain ⟨rfl, same⟩ := runs_stopWith_iff.mp rest
    cases same
    have stops := iff.mp rfl
    refine .shortCircuited answers ?_ stops
    cases fromModel with
    | true => rfl
    | false =>
      obtain ⟨answer, member, -⟩ := stops
      rw [unasked rfl] at member
      cases member
  | false =>
    have goes : HooksPass fromModel answers := by
      refine ⟨unasked, fun answer member => ?_⟩
      cases flow : answer.2 with
      | «continue» => rfl
      | shortCircuit => exact absurd (iff.mpr ⟨answer, member, flow⟩) nofun
    rw [if_neg nofun] at rest
    by_cases final : extractToolCalls message = []
    · rw [if_pos (List.isEmpty_iff.mpr final)] at rest
      obtain ⟨rfl, same⟩ := runs_stopWith_iff.mp rest
      cases same
      exact .finalAnswer answers goes final
    · rw [if_neg (by simpa using final)] at rest
      obtain ⟨cancelled, _, rfl, round⟩ := runs_perform_bind_iff.mp rest
      cases stops : stopAfter state.budget state.iteration lastStepTokens cancelled with
      | some reason =>
        rw [stops] at round
        obtain ⟨_, one, two, rfl, refuse, last⟩ := runs_bind_ok_iff.mp round
        obtain ⟨rfl, rfl⟩ := runs_refuseCalls_ok _ refuse
        obtain ⟨rfl, same⟩ := runs_stopWith_iff.mp last
        cases same
        exact .refused answers cancelled reason goes final stops
      | none =>
        rw [stops] at round
        obtain ⟨_, one, two, rfl, calls, last⟩ := runs_bind_ok_iff.mp round
        obtain ⟨records, same, processed, rfl, rfl⟩ := runs_runCalls_ok _ calls
        obtain ⟨rfl, ended⟩ := runs_finishRound_iff.mp last
        cases ended
        cases stopAfter_cancelled stops
        exact .ran answers records goes final stops same processed

/-! ### One pass -/

def receiveTrace (runId : Uuid) (sent : ChatRequest) (reply : ModelReply) : List PortEvent :=
  [replied sent reply, appended runId reply.message, emitted (.message reply.message),
    emitted (.usage reply.usage)]

inductive PassRun (core : AgentCore) (request : AgentTurnRequest) (extensions : List Extension)
    (state : LoopState) : List PortEvent → Pass → Prop
  | cancelled : PassRun core request extensions state [checked true, emitted (.stopped .halted)]
        (.stop (state.events ++ [.stopped .halted]))
  | overBudget (reason : StopReason) : state.budget.stopBefore state.iteration = some reason →
      PassRun core request extensions state [checked false, emitted (.stopped reason)]
        (.stop (state.events ++ [.stopped reason]))
  | vetoed (prelude : Prelude) : state.budget.stopBefore state.iteration = none →
      prelude.Run core request extensions → prelude.flow = .shortCircuit →
      PassRun core request extensions state
        (checked false :: prelude.trace core request.runId ++ [emitted (.stopped .noToolCall)])
        (.stop (state.events ++ [.stopped .noToolCall]))
  | resumed (prelude : Prelude) (message : ChatMessage) {trace : List PortEvent} {result : Pass} :
      state.budget.stopBefore state.iteration = none →
      prelude.Run core request extensions → prelude.flow = .continue →
      resumeMessage core request state.iteration prelude.history = some message →
      ReactRun core request prelude.context.toolScope state message false 0 trace result →
      PassRun core request extensions state
        (checked false :: prelude.trace core request.runId ++ trace) result
  | modelCancelled (prelude : Prelude) : state.budget.stopBefore state.iteration = none →
      prelude.Run core request extensions → prelude.flow = .continue →
      resumeMessage core request state.iteration prelude.history = none →
      PassRun core request extensions state (checked false :: prelude.trace core request.runId ++
          [⟨.callModel prelude.sent, ModelCall.cancelled⟩, emitted (.stopped .halted)])
        (.stop (state.events ++ [.stopped .halted]))
  | replied (prelude : Prelude) (reply : ModelReply) {trace : List PortEvent} {result : Pass} :
      state.budget.stopBefore state.iteration = none →
      prelude.Run core request extensions → prelude.flow = .continue →
      resumeMessage core request state.iteration prelude.history = none →
      ReactRun core request prelude.context.toolScope (state.received reply) reply.message true
        reply.usage.totalTokens trace result →
      PassRun core request extensions state (checked false :: prelude.trace core request.runId ++
          receiveTrace request.runId prelude.sent reply ++ trace) result

theorem runs_receive_ok {core : AgentCore} {request : AgentTurnRequest}
    {extensions : List Extension} {state : LoopState} {reply : ModelReply} {trace : List PortEvent}
    (run : Runs (receive core request extensions scope state reply) trace (.ok result)) :
    ∃ last, trace = [appended request.runId reply.message, emitted (.message reply.message),
        emitted (.usage reply.usage)] ++ last ∧
      ReactRun core request scope (state.received reply) reply.message true
        reply.usage.totalTokens last result := by
  unfold receive at run
  obtain ⟨_, append, rest, rfl, head, tail⟩ := runs_bind_ok_iff.mp run
  rw [runs_transcriptAppend_ok head]
  obtain ⟨_, _, rfl, tail'⟩ := runs_perform_bind_iff.mp tail
  obtain ⟨_, last, rfl, react⟩ := runs_perform_bind_iff.mp tail'
  exact ⟨last, rfl, runs_react_ok react⟩

/-- **A successful pass is one of the listed ones.** -/
theorem runs_pass_ok {core : AgentCore} {request : AgentTurnRequest}
    {extensions : List Extension} {state : LoopState} {trace : List PortEvent}
    (run : Runs (pass core request extensions state) trace (.ok result)) :
    PassRun core request extensions state trace result := by
  unfold pass at run
  obtain ⟨cancelled, _, rfl, checkedRun⟩ := runs_perform_bind_iff.mp run
  cases cancelled with
  | true =>
    obtain ⟨rfl, same⟩ := runs_stopWith_iff.mp checkedRun
    cases same
    exact .cancelled
  | false =>
    rw [if_neg nofun] at checkedRun
    cases budget : state.budget.stopBefore state.iteration with
    | some reason =>
      rw [budget] at checkedRun
      obtain ⟨rfl, same⟩ := runs_stopWith_iff.mp checkedRun
      cases same
      exact .overBudget reason budget
    | none =>
      rw [budget] at checkedRun
      obtain ⟨_, steer, _, rfl, steered, afterSteer⟩ := runs_bind_ok_iff.mp checkedRun
      obtain ⟨notes, unsteered, rfl⟩ := runs_drainSteerNotes_ok steered
      obtain ⟨context, contributeTrace, _, rfl, contribute, afterContribute⟩ :=
        runs_bind_ok_iff.mp afterSteer
      obtain ⟨_, history, _, same, rfl, afterLoad⟩ := runs_attempt_bind_ok_iff.mp afterContribute
      cases same
      obtain ⟨_, tools, _, same, rfl, afterTools⟩ := runs_attempt_bind_ok_iff.mp afterLoad
      cases same
      obtain ⟨⟨chatRequest, flow⟩, beforeModelTrace, last, rfl, vets, rest⟩ :=
        runs_bind_ok_iff.mp afterTools
      let prelude : Prelude :=
        ⟨notes, context, history, tools, chatRequest, flow, contributeTrace, beforeModelTrace⟩
      have ran : prelude.Run core request extensions :=
        ⟨unsteered, runs_runContribute_ok _ contribute, runs_runBeforeModel_ok _ vets⟩
      have traced : ∀ after : List PortEvent,
          checked false :: (steerTrace core request.runId notes ++ (contributeTrace ++
            loaded request.runId history :: listed context.toolScope tools ::
              (beforeModelTrace ++ after))) =
            checked false :: prelude.trace core request.runId ++ after := by
        intro after
        simp [prelude, Prelude.trace]
      refine (congrArg (fun trace => PassRun core request extensions state trace result)
        (traced last)).mpr ?_
      cases flow with
      | shortCircuit =>
        obtain ⟨rfl, same⟩ := runs_stopWith_iff.mp rest
        cases same
        exact .vetoed prelude budget ran rfl
      | «continue» =>
        replace rest : Runs (answer core request extensions context.toolScope state
            (resumeMessage core request state.iteration history) prelude.sent) last
            (.ok result) := rest
        unfold answer at rest
        cases resumes : resumeMessage core request state.iteration history with
        | some message =>
          rw [resumes] at rest
          exact .resumed prelude message budget ran rfl resumes (runs_react_ok rest)
        | none =>
          rw [resumes] at rest
          obtain ⟨call, _, rfl, called⟩ := runs_perform_bind_iff.mp rest
          cases call with
          | cancelled =>
            obtain ⟨rfl, same⟩ := runs_stopWith_iff.mp called
            cases same
            exact .modelCancelled prelude budget ran rfl resumes
          | finished outcome =>
            obtain ⟨reply, _, _, rfl, decoded, received⟩ := runs_bind_ok_iff.mp called
            obtain ⟨rfl, same⟩ := runs_ofExcept_iff.mp decoded
            cases same
            obtain ⟨last, rfl, react⟩ := runs_receive_ok received
            have replied := PassRun.replied prelude reply budget ran rfl resumes react
            rwa [List.append_assoc] at replied

/-! ### The whole turn -/

/-- **Passes until one of them stops.** -/
inductive LoopRun (core : AgentCore) (request : AgentTurnRequest) (extensions : List Extension) :
    LoopState → List PortEvent → List AgentEvent → Prop
  | stop {state : LoopState} {trace : List PortEvent} {events : List AgentEvent} :
      PassRun core request extensions state trace (.stop events) →
      LoopRun core request extensions state trace events
  | again {state state' : LoopState} {before after : List PortEvent} {events : List AgentEvent} :
      PassRun core request extensions state before (.again state') →
      LoopRun core request extensions state' after events →
      LoopRun core request extensions state (before ++ after) events

section Passes

variable {core : AgentCore} {request : AgentTurnRequest} {extensions : List Extension}
  {state state' : LoopState} {trace : List PortEvent}

theorem finishPass_again {round : RoundState} (same : finishPass state round = .again state') :
    finishReason round = none ∧
      state' = { state with events := round.events, iteration := state.iteration + 1 } := by
  unfold finishPass at same
  cases reason : finishReason round with
  | some reason' =>
    rw [reason] at same
    cases same
  | none =>
    rw [reason] at same
    cases same
    exact ⟨rfl, rfl⟩

theorem stopAfter_none {budget : Budget} {iteration : Nat} {cancelled : Bool}
    (goes : stopAfter budget iteration tokens cancelled = none) : iteration < budget.maxSteps := by
  unfold stopAfter at goes
  split at goes
  · cases goes
  split at goes
  · cases goes
  split at goes
  · cases goes
  split at goes
  · cases goes
  · omega

theorem ReactRun.again_iteration {fromModel : Bool}
    (run : ReactRun core request scope state message fromModel tokens trace (.again state')) :
    state'.iteration = state.iteration + 1 ∧ state'.budget = state.budget ∧
      state.iteration < state.budget.maxSteps := by
  generalize result : Pass.again state' = last at run
  cases run with
  | shortCircuited | finalAnswer | refused => cases result
  | ran answers records pass final goes =>
    obtain ⟨-, rfl⟩ := finishPass_again result.symm
    exact ⟨rfl, rfl, stopAfter_none goes⟩

/-- **The next pass** has the next number, and its number is within the cap. -/
theorem PassRun.again_iteration
    (run : PassRun core request extensions state trace (.again state')) :
    state'.iteration = state.iteration + 1 ∧ state'.budget.maxSteps = state.budget.maxSteps ∧
      state'.iteration ≤ state'.budget.maxSteps := by
  cases run with
  | resumed prelude message budget ran flow resumes react =>
    obtain ⟨next, same, below⟩ := react.again_iteration
    rw [next, same]
    exact ⟨rfl, rfl, below⟩
  | replied prelude reply budget ran flow resumes react =>
    obtain ⟨next, same, below⟩ := react.again_iteration
    rw [next, same]
    exact ⟨rfl, rfl, below⟩

end Passes

theorem runs_loop_ok {core : AgentCore} {request : AgentTurnRequest}
    {extensions : List Extension} (fuel : Nat) :
    ∀ {state : LoopState} {trace : List PortEvent} {events : List AgentEvent},
      0 < fuel → state.budget.maxSteps + 2 ≤ fuel + state.iteration →
      Runs (loop core request extensions fuel state) trace (.ok events) →
      LoopRun core request extensions state trace events := by
  induction fuel with
  | zero => exact fun positive => absurd positive (Nat.lt_irrefl 0)
  | succ fuel ih =>
    intro state trace events _ enough run
    obtain ⟨result, before, after, rfl, head, rest⟩ := runs_bind_ok_iff.mp run
    have one := runs_pass_ok head
    cases result with
    | stop stopped =>
      obtain ⟨rfl, same⟩ := runs_pure_iff.mp rest
      cases same
      rw [List.append_nil]
      exact .stop one
    | again state' =>
      obtain ⟨next, caps, below⟩ := one.again_iteration
      exact .again one (ih (by omega) (by omega) rest)

/-- **One more pass allowed changes no run**, once the count reaches past the step cap. -/
theorem loop_succ {core : AgentCore} {request : AgentTurnRequest} {extensions : List Extension}
    (fuel : Nat) :
    ∀ {state : LoopState}, 0 < fuel → state.budget.maxSteps + 2 ≤ fuel + state.iteration →
      ∀ {trace : List PortEvent} {outcome : Except AppError (List AgentEvent)},
        Runs (loop core request extensions fuel state) trace outcome ↔
          Runs (loop core request extensions (fuel + 1) state) trace outcome := by
  induction fuel with
  | zero => exact fun positive => absurd positive (Nat.lt_irrefl 0)
  | succ fuel ih =>
    intro state _ enough trace outcome
    show Runs (pass core request extensions state >>= _) trace outcome ↔
      Runs (pass core request extensions state >>= _) trace outcome
    rw [runs_bind_iff, runs_bind_iff]
    refine or_congr Iff.rfl ?_
    refine exists_congr fun result => exists_congr fun before => exists_congr fun after => ?_
    refine and_congr_right fun _ => and_congr_right fun head => ?_
    cases result with
    | stop events => exact Iff.rfl
    | again state' =>
      obtain ⟨next, caps, below⟩ := (runs_pass_ok head).again_iteration
      exact ih (by omega) (by omega)

def seedTrace (request : AgentTurnRequest) : List PortEvent :=
  match request.seed with
  | .newMessage message => [appended request.runId message]
  | .resume => []

theorem runs_seedTranscript_ok {request : AgentTurnRequest} {trace : List PortEvent}
    {value : Unit} (run : Runs (seedTranscript request) trace (.ok value)) :
    trace = seedTrace request := by
  unfold seedTranscript at run
  unfold seedTrace
  cases seed : request.seed with
  | newMessage message =>
    rw [seed] at run
    exact runs_transcriptAppend_ok run
  | resume =>
    rw [seed] at run
    exact (runs_pure_iff.mp run).1

/-- **A successful turn** is its seed followed by passes until one stops. -/
theorem runs_run_ok {core : AgentCore} {request : AgentTurnRequest} {trace : List PortEvent}
    {events : List AgentEvent} (run : Runs (core.run request) trace (.ok events)) :
    ∃ rest, trace = seedTrace request ++ rest ∧
      LoopRun core request (sortedExtensions core.extensions) (initialState core request) rest
        events := by
  obtain ⟨_, before, after, rfl, seed, loop⟩ := runs_bind_ok_iff.mp run
  rw [runs_seedTranscript_ok seed]
  refine ⟨after, rfl, runs_loop_ok _ (Nat.succ_pos _) ?_ loop⟩
  show core.budget.maxSteps + 2 ≤ core.budget.maxSteps + 1 + max request.startIteration 1
  omega

end Ziee.Agent
