/-
**The budget and the stop of a turn** (`AgentCore::run` against `Budget`).

The caps are looked at twice in a pass: `stop_before` before the request is assembled, and the stop
reason after the reply, before its tools run. `Spends` says what a pass does with the state it
starts from, however it ends; `Laps` is the list of the passes of a run.

* `pass_spends` — every pass spends like this: at most one model call, nothing but within the
  caps, and the next pass starts from the tally of the replies so far.
* `budget_protocol` — **the caps bind a whole run**, and a successful one says once that it stopped.
-/

import Ziee.Agent.Answered
import Ziee.Agent.ApprovalSafety

namespace Ziee.Agent

open PortProgram Ziee.Providers

def Query.callsModel : Query → Bool
  | .callModel _ => true
  | _ => false

def Query.executes : Query → Bool
  | .callTool _ _ _ | .handleCoreTool _ _ _ _ _ => true
  | _ => false

/-- Neither a model call nor a tool. -/
def Query.idle (query : Query) : Bool := !query.callsModel && !query.executes

def Query.modelless (query : Query) : Bool := !query.callsModel

def replies (trace : List PortEvent) : List ModelReply := trace.filterMap modelReply?

def tally (budget : Budget) (trace : List PortEvent) : Budget :=
  (replies trace).foldl (fun budget reply => budget.addTokens reply.usage.totalTokens) budget

def modelCalls (trace : List PortEvent) : Nat := trace.countP fun event => event.1.callsModel

def Within (budget : Budget) (trace : List PortEvent) : Prop :=
  ∀ before event after, trace = before ++ event :: after → event.1.idle = false →
    (tally budget before).runTokens ≤ (tally budget before).perRunTokenCap

section Costs

variable {budget : Budget} {before after trace : List PortEvent} {event : PortEvent}

theorem replies_append : replies (before ++ after) = replies before ++ replies after :=
  List.filterMap_append

@[simp] theorem tally_append :
    tally budget (before ++ after) = tally (tally budget before) after := by
  simp [tally, replies_append]

@[simp] theorem modelCalls_append :
    modelCalls (before ++ after) = modelCalls before + modelCalls after :=
  List.countP_append

theorem Query.modelless_of_idle (query : Query) (idle : query.idle = true) :
    query.modelless = true := by
  simp [Query.idle] at idle
  simp [Query.modelless, idle]

theorem replies_of_modelless (modelless : OnlyAsks Query.modelless trace) : replies trace = [] := by
  refine List.filterMap_eq_nil_iff.mpr ?_
  rintro ⟨query, answer⟩ member
  have other := modelless _ member
  cases query with
  | callModel => cases other
  | _ => rfl

theorem tally_of_modelless (modelless : OnlyAsks Query.modelless trace) :
    tally budget trace = budget := by
  simp [tally, replies_of_modelless modelless]

theorem modelCalls_of_modelless (modelless : OnlyAsks Query.modelless trace) :
    modelCalls trace = 0 := by
  refine List.countP_eq_zero.mpr fun event member => ?_
  have other := modelless event member
  simp only [Query.modelless, Bool.not_eq_true'] at other
  simp [other]

@[simp] theorem tally_maxSteps : (tally budget trace).maxSteps = budget.maxSteps := by
  unfold tally
  induction replies trace generalizing budget with
  | nil => rfl
  | cons reply rest ih => exact ih

@[simp] theorem tally_perRunTokenCap :
    (tally budget trace).perRunTokenCap = budget.perRunTokenCap := by
  unfold tally
  induction replies trace generalizing budget with
  | nil => rfl
  | cons reply rest ih => exact ih

@[simp] theorem tally_perStepTokenCap :
    (tally budget trace).perStepTokenCap = budget.perStepTokenCap := by
  unfold tally
  induction replies trace generalizing budget with
  | nil => rfl
  | cons reply rest ih => exact ih

theorem within_of_idle (idle : OnlyAsks Query.idle trace) : Within budget trace := by
  rintro before event after rfl acts
  have quiet := idle event (List.mem_append_right _ List.mem_cons_self)
  rw [quiet] at acts
  cases acts

theorem within_of_modelless (modelless : OnlyAsks Query.modelless trace)
    (below : (∃ event ∈ trace, event.1.executes = true) →
      budget.runTokens ≤ budget.perRunTokenCap) : Within budget trace := by
  rintro before event after rfl acts
  have member : event ∈ before ++ event :: after := List.mem_append_right _ List.mem_cons_self
  have other := modelless event member
  have executes : event.1.executes = true := by
    simp only [Query.modelless, Bool.not_eq_true'] at other
    simpa [Query.idle, other] using acts
  rw [tally_of_modelless (onlyAsks_append_iff.mp modelless).1]
  exact below ⟨event, member, executes⟩

theorem Within.append (first : Within budget before) (second : Within (tally budget before) after) :
    Within budget (before ++ after) := by
  intro before' event after' split acts
  rcases List.append_eq_append_iff.mp split with ⟨middle, rfl, rest⟩ | ⟨middle, rfl, rest⟩
  · rw [tally_append]
    exact second middle event after' rest acts
  · cases middle with
    | nil =>
      rw [List.append_nil] at second
      exact second [] event after' rest.symm acts
    | cons event' middle =>
      obtain ⟨rfl, -⟩ := List.cons.inj rest
      exact first before' event middle rfl acts

end Costs

/-! ### What follows an assistant message -/

theorem Query.idle_of_ofRecord (query : Query) (record : query.ofRecord = true) :
    query.idle = true := by
  cases query with
  | journalToolCall | transcriptAppend | emit => rfl
  | _ => cases record

theorem Query.idle_of_ofPrelude (query : Query) (prelude : query.ofPrelude = true) :
    query.idle = true := by
  cases query with
  | callModel | callTool | handleCoreTool => cases prelude
  | _ => rfl

theorem Query.idle_of_ofDecision (query : Query) (decision : query.ofDecision = true) :
    query.idle = true := by
  cases query with
  | isTrusted | decide | classify | gateRequest => rfl
  | _ => cases decision

theorem Query.idle_of_isAfterRound (query : Query) (hook : query.isAfterRound = true) :
    query.idle = true := by
  cases query with
  | afterRound => rfl
  | _ => cases hook

theorem stopAfter_eq_none_iff {budget : Budget} {iteration tokens : Nat} {cancelled : Bool} :
    stopAfter budget iteration tokens cancelled = none ↔ cancelled = false ∧
      budget.runTokens ≤ budget.perRunTokenCap ∧ tokens ≤ budget.perStepTokenCap ∧
      iteration < budget.maxSteps := by
  unfold stopAfter Budget.stepOverCap
  cases cancelled with
  | true => simp
  | false =>
    by_cases run : budget.runTokens > budget.perRunTokenCap
    · simp [run]
    · by_cases step : tokens > budget.perStepTokenCap
      · simp [run, step]
      · by_cases steps : iteration ≥ budget.maxSteps
        · simp [run, step, steps]
        · simp only [Bool.false_eq_true, if_false, if_neg run, decide_eq_true_eq, if_neg step,
            if_neg steps, true_and, true_iff]
          omega

/-- What the part of a pass from the assistant message on does. -/
structure ReactSpends (state : LoopState) (tokens : Nat) (trace : List PortEvent)
    (outcome : Except AppError Pass) : Prop where
  modelless : OnlyAsks Query.modelless trace
  executes : (∃ event ∈ trace, event.1.executes = true) →
    stopAfter state.budget state.iteration tokens false = none
  again : ∀ state', outcome = .ok (.again state') →
    state'.iteration = state.iteration + 1 ∧ state'.budget = state.budget

section React

variable {core : AgentCore} {request : AgentTurnRequest} {extensions : List Extension}
  {scope : ToolScope} {state : LoopState} {trace : List PortEvent}

theorem decideAct_idle (runId : Uuid) (call : ToolCall) :
    Asks Query.idle (decideAct core runId call) :=
  decideAct_asks.mono Query.idle_of_ofDecision

theorem postRound_idle (extensions : List Extension) (message : ChatMessage) (fromModel : Bool) :
    Asks Query.idle (postRound extensions message fromModel) :=
  (postRound_asks extensions message fromModel).mono Query.idle_of_isAfterRound

theorem runCalls_modelless (iteration : Nat) (calls : List ToolCall) :
    ∀ ordinal round,
      Asks Query.modelless (runCalls core request scope iteration ordinal calls round) := by
  have records : ∀ {α : Type} {program : AgentM α}, Asks Query.ofRecord program →
      Asks Query.modelless program := fun records =>
    (records.mono Query.idle_of_ofRecord).mono Query.modelless_of_idle
  induction calls with
  | nil => exact fun _ _ => .pure _
  | cons call rest ih =>
    refine fun ordinal round => .bind ?_ fun _ => ih _ _
    unfold runCall
    split
    · exact .bind (.perform rfl) fun _ => records (recordExecuted_records _ _ _)
    · refine .bind ((decideAct_idle _ _).mono Query.modelless_of_idle) fun act => ?_
      cases act with
      | suspend ticket => exact .bind (records (pushEmit_records _ _)) fun _ => .pure _
      | deny reason => exact .bind (records (appendResult_records _ _ _ _)) fun _ => .pure _
      | execute => exact .bind (.perform rfl) fun _ => records (recordExecuted_records _ _ _)

theorem reactSpends_of_idle {tokens : Nat} {outcome : Except AppError Pass}
    (idle : OnlyAsks Query.idle trace) (ends : ∀ state', outcome ≠ .ok (.again state')) :
    ReactSpends state tokens trace outcome where
  modelless := idle.mono Query.modelless_of_idle
  executes := by
    rintro ⟨event, member, executes⟩
    have quiet := idle event member
    simp [Query.idle, executes] at quiet
  again := fun state' same => absurd same (ends state')

theorem ReactSpends.prepend {tokens : Nat} {outcome : Except AppError Pass}
    {before : List PortEvent} (idle : OnlyAsks Query.idle before)
    (spends : ReactSpends state tokens trace outcome) :
    ReactSpends state tokens (before ++ trace) outcome where
  modelless := onlyAsks_append_iff.mpr ⟨idle.mono Query.modelless_of_idle, spends.modelless⟩
  executes := by
    rintro ⟨event, member, executes⟩
    rcases List.mem_append.mp member with member | member
    · have quiet := idle event member
      simp [Query.idle, executes] at quiet
    · exact spends.executes ⟨event, member, executes⟩
  again := spends.again

theorem runs_stopWith_ends {events : List AgentEvent} {reason : StopReason}
    {outcome : Except AppError Pass} (run : Runs (stopWith events reason) trace outcome) :
    OnlyAsks Query.idle trace ∧ ∀ state', outcome ≠ .ok (.again state') := by
  obtain ⟨rfl, rfl⟩ := runs_stopWith_iff.mp run
  exact ⟨onlyAsks_cons_iff.mpr ⟨rfl, onlyAsks_nil⟩, nofun⟩

theorem reactSpends_bind {α : Type} {first : AgentM α} {rest : α → AgentM Pass} {tokens : Nat}
    (idle : Asks Query.idle first)
    (spends : ∀ value, Meets (rest value) (ReactSpends state tokens)) :
    Meets (first >>= rest) (ReactSpends state tokens) := by
  intro trace outcome run
  rcases runs_bind_iff.mp run with ⟨error, rfl, failed⟩ | ⟨value, before, after, rfl, head, tail⟩
  · exact reactSpends_of_idle (idle _ _ failed) nofun
  · exact .prepend (idle _ _ head) (spends value _ _ tail)

theorem stopWith_reactSpends (events : List AgentEvent) (reason : StopReason) (tokens : Nat) :
    Meets (stopWith events reason) (ReactSpends state tokens) := fun _ _ run =>
  reactSpends_of_idle (runs_stopWith_ends run).1 (runs_stopWith_ends run).2

/-- **From the assistant message on**, tools are executed only when nothing stops the round. -/
theorem react_spends (message : ChatMessage) (fromModel : Bool) (tokens : Nat) :
    Meets (react core request extensions scope state message fromModel tokens)
      (ReactSpends state tokens) := by
  refine reactSpends_bind (postRound_idle _ _ _) fun ended => ?_
  refine Meets.ite (stopWith_reactSpends _ _ _) (Meets.ite (stopWith_reactSpends _ _ _) ?_)
  refine reactSpends_bind (.perform rfl) fun cancelled => ?_
  cases stops : stopAfter state.budget state.iteration tokens cancelled with
  | some reason =>
    exact reactSpends_bind ((refuseCalls_records _ _).mono Query.idle_of_ofRecord) fun events =>
      stopWith_reactSpends _ _ _
  | none =>
    intro trace outcome run
    have goes := stopAfter_cancelled stops ▸ stops
    rcases runs_bind_iff.mp run with ⟨error, rfl, failed⟩ | ⟨round, one, two, rfl, calls, finish⟩
    · exact ⟨runCalls_modelless _ _ _ _ _ _ failed, fun _ => goes, nofun⟩
    · refine ⟨onlyAsks_append_iff.mpr ⟨runCalls_modelless _ _ _ _ _ _ calls,
        ((finishRound_records _ _ _ _ finish).mono Query.idle_of_ofRecord).mono
          Query.modelless_of_idle⟩, fun _ => goes, fun state' same => ?_⟩
      obtain ⟨-, passed⟩ := runs_finishRound_iff.mp finish
      rw [same] at passed
      obtain ⟨-, rfl⟩ := finishPass_again (Except.ok.inj passed).symm
      exact ⟨rfl, rfl⟩

end React

/-! ### One pass -/

/-- **What a pass does with the state it starts from**, however it ends. -/
structure Spends (state : LoopState) (trace : List PortEvent) (outcome : Except AppError Pass) :
    Prop where
  calls : modelCalls trace ≤ 1
  counted : 0 < modelCalls trace → state.iteration ≤ state.budget.maxSteps
  within : Within state.budget trace
  executes : (∃ event ∈ trace, event.1.executes = true) →
    state.iteration < state.budget.maxSteps ∧
      ∀ reply ∈ replies trace, reply.usage.totalTokens ≤ state.budget.perStepTokenCap
  again : ∀ state', outcome = .ok (.again state') →
    state'.iteration = state.iteration + 1 ∧ state'.budget = tally state.budget trace

section Pass

variable {core : AgentCore} {request : AgentTurnRequest} {extensions : List Extension}
  {scope : ToolScope} {state : LoopState} {trace : List PortEvent}
  {outcome : Except AppError Pass}

theorem ReactSpends.spends (spends : ReactSpends state 0 trace outcome) :
    Spends state trace outcome where
  calls := by
    rw [modelCalls_of_modelless spends.modelless]
    exact Nat.zero_le 1
  counted := by
    rw [modelCalls_of_modelless spends.modelless]
    exact fun impossible => absurd impossible (Nat.lt_irrefl 0)
  within := within_of_modelless spends.modelless fun executes =>
    (stopAfter_eq_none_iff.mp (spends.executes executes)).2.1
  executes := fun executes => by
    rw [replies_of_modelless spends.modelless]
    exact ⟨(stopAfter_eq_none_iff.mp (spends.executes executes)).2.2.2, List.forall_mem_nil _⟩
  again := by
    rw [tally_of_modelless spends.modelless]
    exact spends.again

theorem spends_of_idle (idle : OnlyAsks Query.idle trace)
    (ends : ∀ state', outcome ≠ .ok (.again state')) : Spends state trace outcome :=
  (reactSpends_of_idle idle ends).spends

theorem Spends.prepend {before : List PortEvent} (idle : OnlyAsks Query.idle before)
    (spends : Spends state trace outcome) : Spends state (before ++ trace) outcome := by
  have modelless := idle.mono Query.modelless_of_idle
  have same : tally state.budget before = state.budget := tally_of_modelless modelless
  constructor
  · rw [modelCalls_append, modelCalls_of_modelless modelless, Nat.zero_add]
    exact spends.calls
  · rw [modelCalls_append, modelCalls_of_modelless modelless, Nat.zero_add]
    exact spends.counted
  · refine (within_of_idle idle).append ?_
    rw [same]
    exact spends.within
  · rintro ⟨event, member, executes⟩
    rw [replies_append, replies_of_modelless modelless, List.nil_append]
    rcases List.mem_append.mp member with member | member
    · have quiet := idle event member
      simp [Query.idle, executes] at quiet
    · exact spends.executes ⟨event, member, executes⟩
  · rw [tally_append, same]
    exact spends.again

theorem spends_bind {α : Type} {first : AgentM α} {rest : α → AgentM Pass}
    (idle : Asks Query.idle first) (spends : ∀ value, Meets (rest value) (Spends state)) :
    Meets (first >>= rest) (Spends state) := by
  intro trace outcome run
  rcases runs_bind_iff.mp run with ⟨error, rfl, failed⟩ | ⟨value, before, after, rfl, head, tail⟩
  · exact spends_of_idle (idle _ _ failed) nofun
  · exact .prepend (idle _ _ head) (spends value _ _ tail)

theorem stopWith_spends (events : List AgentEvent) (reason : StopReason) :
    Meets (stopWith events reason) (Spends state) := fun _ _ run =>
  spends_of_idle (runs_stopWith_ends run).1 (runs_stopWith_ends run).2

theorem spends_called {sent : ChatRequest} {call : ModelCall}
    (goes : state.budget.stopBefore state.iteration = none)
    (modelless : OnlyAsks Query.modelless trace)
    (executes : (∃ event ∈ trace, event.1.executes = true) →
      state.iteration < state.budget.maxSteps ∧
      (tally state.budget [⟨.callModel sent, call⟩]).runTokens ≤ state.budget.perRunTokenCap ∧
      ∀ reply ∈ replies [⟨.callModel sent, call⟩],
        reply.usage.totalTokens ≤ state.budget.perStepTokenCap)
    (again : ∀ state', outcome = .ok (.again state') → state'.iteration = state.iteration + 1 ∧
      state'.budget = tally state.budget [⟨.callModel sent, call⟩]) :
    Spends state (⟨.callModel sent, call⟩ :: trace) outcome := by
  obtain ⟨below, within⟩ := Budget.stopBefore_eq_none_iff.mp goes
  have one : modelCalls [⟨.callModel sent, call⟩] = 1 := rfl
  have counts : modelCalls (⟨.callModel sent, call⟩ :: trace) = 1 := by
    rw [← List.singleton_append, modelCalls_append, modelCalls_of_modelless modelless, one]
  constructor
  · rw [counts]
  · exact fun _ => below
  · rw [← List.singleton_append]
    refine Within.append ?_ (within_of_modelless modelless fun acts => ?_)
    · intro before event after split _
      cases before with
      | nil => exact within
      | cons _ before => simp at split
    · rw [tally_perRunTokenCap]
      exact (executes acts).2.1
  · rintro ⟨event, member, acts⟩
    rw [← List.singleton_append, replies_append, replies_of_modelless modelless, List.append_nil]
    rcases List.mem_cons.mp member with rfl | member
    · cases acts
    · have allowed := executes ⟨event, member, acts⟩
      exact ⟨allowed.1, allowed.2.2⟩
  · rw [← List.singleton_append, tally_append, tally_of_modelless modelless]
    exact again

theorem spends_unanswered {sent : ChatRequest} {call : ModelCall}
    (goes : state.budget.stopBefore state.iteration = none) (idle : OnlyAsks Query.idle trace)
    (ends : ∀ state', outcome ≠ .ok (.again state')) :
    Spends state (⟨.callModel sent, call⟩ :: trace) outcome := by
  refine spends_called goes (idle.mono Query.modelless_of_idle) ?_ fun state' same =>
    absurd same (ends state')
  rintro ⟨event, member, acts⟩
  have quiet := idle event member
  simp [Query.idle, acts] at quiet

theorem spends_replied {sent : ChatRequest} {reply : ModelReply}
    (goes : state.budget.stopBefore state.iteration = none)
    (spends : ReactSpends (state.received reply) reply.usage.totalTokens trace outcome) :
    Spends state (replied sent reply :: trace) outcome := by
  refine spends_called goes spends.modelless (fun acts => ?_) spends.again
  obtain ⟨-, run, step, steps⟩ := stopAfter_eq_none_iff.mp (spends.executes acts)
  refine ⟨steps, run, fun reply' member => ?_⟩
  rw [List.mem_singleton.mp member]
  exact step

theorem receive_spends (reply : ModelReply) :
    Meets (receive core request extensions scope state reply)
      (ReactSpends (state.received reply) reply.usage.totalTokens) := by
  refine reactSpends_bind (.attempt rfl) fun _ => ?_
  refine reactSpends_bind (.perform rfl) fun _ => ?_
  exact reactSpends_bind (.perform rfl) fun _ => react_spends _ _ _

theorem answer_spends (resumed : Option ChatMessage) (sent : ChatRequest)
    (goes : state.budget.stopBefore state.iteration = none) :
    Meets (answer core request extensions scope state resumed sent) (Spends state) := by
  intro trace outcome run
  cases resumed with
  | some message => exact (react_spends _ _ _ trace outcome run).spends
  | none =>
    obtain ⟨call, rest, rfl, called⟩ := runs_perform_bind_iff.mp run
    cases call with
    | cancelled =>
      obtain ⟨idle, ends⟩ := runs_stopWith_ends called
      exact spends_unanswered goes idle ends
    | finished result =>
      cases result with
      | error error =>
        cases called
        exact spends_unanswered goes onlyAsks_nil nofun
      | ok reply => exact spends_replied goes (receive_spends reply rest outcome called)

/-- **A pass**, however it ends. -/
theorem pass_spends (state : LoopState) :
    Meets (pass core request extensions state) (Spends state) := by
  refine spends_bind (.perform rfl) fun cancelled => Meets.ite (stopWith_spends _ _) ?_
  cases goes : state.budget.stopBefore state.iteration with
  | some reason => exact stopWith_spends _ _
  | none =>
    refine spends_bind (drainSteerNotes_prelude.mono Query.idle_of_ofPrelude) fun _ => ?_
    refine spends_bind ((runContribute_prelude _ _).mono Query.idle_of_ofPrelude) fun context => ?_
    refine spends_bind (.attempt rfl) fun history => spends_bind (.attempt rfl) fun tools => ?_
    refine spends_bind ((runBeforeModel_prelude _ _).mono Query.idle_of_ofPrelude) fun vetted => ?_
    exact Meets.ite (stopWith_spends _ _) (answer_spends _ _ goes)

end Pass

/-! ### The passes of a run -/

/-- A pass of a run: the state it starts from, and the events it leaves. -/
structure Lap where
  state : LoopState
  trace : List PortEvent

/-- **The passes of the loop**, the last of which stops or fails. -/
inductive Laps (core : AgentCore) (request : AgentTurnRequest) (extensions : List Extension) :
    LoopState → List Lap → Except AppError (List AgentEvent) → Prop
  | stop {state : LoopState} {trace : List PortEvent} {events : List AgentEvent} :
      Runs (pass core request extensions state) trace (.ok (.stop events)) →
      Laps core request extensions state [⟨state, trace⟩] (.ok events)
  | fail {state : LoopState} {trace : List PortEvent} {error : AppError} :
      Runs (pass core request extensions state) trace (.error error) →
      Laps core request extensions state [⟨state, trace⟩] (.error error)
  | again {state state' : LoopState} {trace : List PortEvent} {rest : List Lap}
      {outcome : Except AppError (List AgentEvent)} :
      Runs (pass core request extensions state) trace (.ok (.again state')) →
      Laps core request extensions state' rest outcome →
      Laps core request extensions state (⟨state, trace⟩ :: rest) outcome

inductive RunLaps (core : AgentCore) (request : AgentTurnRequest) :
    List PortEvent → List Lap → Except AppError (List AgentEvent) → Prop
  | unseeded {seed : List PortEvent} {error : AppError} :
      Runs (seedTranscript request) seed (.error error) →
      RunLaps core request seed [] (.error error)
  | seeded {seed : List PortEvent} {laps : List Lap}
      {outcome : Except AppError (List AgentEvent)} :
      Runs (seedTranscript request) seed (.ok ()) →
      Laps core request (sortedExtensions core.extensions) (initialState core request) laps
        outcome → RunLaps core request seed laps outcome

def lapsTrace (laps : List Lap) : List PortEvent := laps.flatMap Lap.trace

section Laps

variable {core : AgentCore} {request : AgentTurnRequest} {extensions : List Extension}

theorem runs_loop_laps (fuel : Nat) :
    ∀ {state : LoopState} {trace : List PortEvent} {outcome : Except AppError (List AgentEvent)},
      0 < fuel → state.budget.maxSteps + 2 ≤ fuel + state.iteration →
      Runs (loop core request extensions fuel state) trace outcome →
      ∃ laps, Laps core request extensions state laps outcome ∧ trace = lapsTrace laps := by
  induction fuel with
  | zero => exact fun positive => absurd positive (Nat.lt_irrefl 0)
  | succ fuel ih =>
    intro state trace outcome _ enough run
    rcases runs_bind_iff.mp run with
      ⟨error, rfl, failed⟩ | ⟨result, before, after, rfl, head, rest⟩
    · exact ⟨_, .fail failed, (List.append_nil _).symm⟩
    · cases result with
      | stop events =>
        obtain ⟨rfl, rfl⟩ := runs_pure_iff.mp rest
        exact ⟨_, .stop head, rfl⟩
      | again state' =>
        obtain ⟨next, caps, below⟩ := (runs_pass_ok head).again_iteration
        obtain ⟨laps, passes, rfl⟩ := ih (by omega) (by omega) rest
        exact ⟨_, .again head passes, rfl⟩

/-- **A run is its seed and its passes.** -/
theorem runs_run_laps {trace : List PortEvent} {outcome : Except AppError (List AgentEvent)}
    (run : Runs (core.run request) trace outcome) :
    ∃ seed laps, RunLaps core request seed laps outcome ∧ trace = seed ++ lapsTrace laps := by
  rcases runs_bind_iff.mp run with ⟨error, rfl, failed⟩ | ⟨_, seed, rest, rfl, head, looped⟩
  · exact ⟨trace, [], .unseeded failed, (List.append_nil _).symm⟩
  · have enough : core.budget.maxSteps + 2 ≤
        core.budget.maxSteps + 1 + max request.startIteration 1 := by omega
    obtain ⟨laps, passes, rfl⟩ := runs_loop_laps _ (Nat.succ_pos _) enough looped
    exact ⟨seed, laps, .seeded head passes, rfl⟩

theorem Laps.spends {state : LoopState} {laps : List Lap}
    {outcome : Except AppError (List AgentEvent)}
    (run : Laps core request extensions state laps outcome) :
    modelCalls (lapsTrace laps) ≤ state.budget.maxSteps + 1 - state.iteration ∧
      Within state.budget (lapsTrace laps) ∧
      ∀ lap ∈ laps, (∃ event ∈ lap.trace, event.1.executes = true) →
        lap.state.iteration < state.budget.maxSteps ∧
          ∀ reply ∈ replies lap.trace,
            reply.usage.totalTokens ≤ state.budget.perStepTokenCap := by
  have last : ∀ {state : LoopState} {trace : List PortEvent} {outcome : Except AppError Pass},
      Spends state trace outcome →
      modelCalls (lapsTrace [⟨state, trace⟩]) ≤ state.budget.maxSteps + 1 - state.iteration ∧
        Within state.budget (lapsTrace [⟨state, trace⟩]) ∧
        ∀ lap ∈ [(⟨state, trace⟩ : Lap)], (∃ event ∈ lap.trace, event.1.executes = true) →
          lap.state.iteration < state.budget.maxSteps ∧
            ∀ reply ∈ replies lap.trace,
              reply.usage.totalTokens ≤ state.budget.perStepTokenCap := by
    intro state trace outcome spends
    have same : lapsTrace [⟨state, trace⟩] = trace := List.append_nil _
    have calls := spends.calls
    have counted := spends.counted
    refine ⟨by rw [same]; omega, by rw [same]; exact spends.within, ?_⟩
    intro lap member
    rw [List.mem_singleton.mp member]
    exact spends.executes
  induction run with
  | stop ran => exact last (pass_spends _ _ _ ran)
  | fail ran => exact last (pass_spends _ _ _ ran)
  | @again state state' trace rest outcome ran _ ih =>
    have spends := pass_spends _ _ _ ran
    obtain ⟨calls, within, executes⟩ := ih
    obtain ⟨next, budget⟩ := spends.again state' rfl
    have one := spends.calls
    have counted := spends.counted
    have split : lapsTrace (⟨state, trace⟩ :: rest) = trace ++ lapsTrace rest := rfl
    rw [next, budget, tally_maxSteps] at calls
    rw [budget] at within
    refine ⟨?_, ?_, fun lap member => ?_⟩
    · rw [split, modelCalls_append]
      omega
    · rw [split]
      exact spends.within.append within
    · rcases List.mem_cons.mp member with rfl | member
      · exact spends.executes
      · have allowed := executes lap member
        rw [budget, tally_maxSteps, tally_perStepTokenCap] at allowed
        exact allowed

theorem RunLaps.spends {seed : List PortEvent} {laps : List Lap}
    {outcome : Except AppError (List AgentEvent)} (run : RunLaps core request seed laps outcome) :
    OnlyAsks Query.idle seed ∧
      modelCalls (lapsTrace laps) ≤ core.budget.maxSteps + 1 - max request.startIteration 1 ∧
      Within core.budget (lapsTrace laps) ∧
      ∀ lap ∈ laps, (∃ event ∈ lap.trace, event.1.executes = true) →
        lap.state.iteration < core.budget.maxSteps ∧
          ∀ reply ∈ replies lap.trace,
            reply.usage.totalTokens ≤ core.budget.perStepTokenCap := by
  have seeds : Asks Query.idle (seedTranscript request) := by
    unfold seedTranscript
    split
    · exact .attempt rfl
    · exact .pure _
  cases run with
  | unseeded failed =>
    exact ⟨seeds _ _ failed, Nat.zero_le _, within_of_idle onlyAsks_nil, List.forall_mem_nil _⟩
  | seeded head passes => exact ⟨seeds _ _ head, passes.spends⟩

end Laps

/-! ### The stop event -/

def AgentEvent.isStopped : AgentEvent → Bool
  | .stopped _ => true
  | _ => false

/-- The stream has not said yet that the turn stopped. -/
def Unstopped (events : List AgentEvent) : Prop := ∀ event ∈ events, event.isStopped = false

/-- The stream says that the turn stopped, once and at its end. -/
def Stopped (events : List AgentEvent) : Prop :=
  ∃ earlier reason, events = earlier ++ [.stopped reason] ∧ Unstopped earlier

/-- How a pass leaves the stream. -/
def Pass.Closes : Pass → Prop
  | .stop events => Stopped events
  | .again state => Unstopped state.events

section Stops

variable {core : AgentCore} {request : AgentTurnRequest} {extensions : List Extension}
  {scope : ToolScope} {state : LoopState} {trace : List PortEvent} {result : Pass}
  {events : List AgentEvent}

theorem Unstopped.append {more : List AgentEvent} (first : Unstopped events)
    (second : Unstopped more) : Unstopped (events ++ more) :=
  List.forall_mem_append.mpr ⟨first, second⟩

theorem Unstopped.stopped (unstopped : Unstopped events) (reason : StopReason) :
    Stopped (events ++ [.stopped reason]) := ⟨events, reason, rfl, unstopped⟩

theorem CallEnd.event_unstopped (call : ToolCall) (ended : CallEnd) :
    (ended.event call).isStopped = false := by
  cases ended <;> rfl

theorem Unstopped.afterAll (records : List CallRecord) :
    ∀ {round : RoundState}, Unstopped round.events → Unstopped (round.afterAll records).events := by
  induction records with
  | nil => exact id
  | cons record rest ih =>
    intro round unstopped
    have after : Unstopped (round.after record.call record.ended).events := by
      refine unstopped.append fun event member => ?_
      rw [List.mem_singleton.mp member]
      exact CallEnd.event_unstopped _ _
    exact ih after

theorem unstopped_refuseEvents (reason : StopReason) (calls : List ToolCall) :
    Unstopped (refuseEvents reason calls) := by
  intro event member
  obtain ⟨call, -, rfl⟩ := List.mem_map.mp member
  rfl

theorem ReactRun.closes {message : ChatMessage} {fromModel : Bool} {tokens : Nat}
    (run : ReactRun core request scope state message fromModel tokens trace result)
    (unstopped : Unstopped state.events) : result.Closes := by
  cases run with
  | shortCircuited | finalAnswer => exact unstopped.stopped _
  | refused answers cancelled reason =>
    exact (unstopped.append (unstopped_refuseEvents reason _)).stopped _
  | ran answers records =>
    have after : Unstopped (RoundState.afterAll ⟨state.events, false, 0, 0⟩ records).events :=
      Unstopped.afterAll records unstopped
    unfold finishPass
    split
    · exact after.stopped _
    · exact after

theorem PassRun.closes (run : PassRun core request extensions state trace result)
    (unstopped : Unstopped state.events) : result.Closes := by
  cases run with
  | cancelled | overBudget | vetoed => exact unstopped.stopped _
  | resumed prelude message budget ran flow resumes react => exact react.closes unstopped
  | modelCancelled => exact unstopped.stopped _
  | replied prelude reply budget ran flow resumes react =>
    refine react.closes ((unstopped.append ?_).append ?_)
    · simp [Unstopped, AgentEvent.isStopped]
    · simp [Unstopped, AgentEvent.isStopped]

theorem LoopRun.stopped (run : LoopRun core request extensions state trace events)
    (unstopped : Unstopped state.events) : Stopped events := by
  induction run with
  | stop last => exact last.closes unstopped
  | again one _ ih => exact ih (one.closes unstopped)

end Stops

/-- **The budget and stop protocol of a run**, however it ends: the number of model calls, the
tally before each model call and each tool, the passes that execute no tool, and the one stop event
of a successful run. -/
theorem budget_protocol {core : AgentCore} {request : AgentTurnRequest} {trace : List PortEvent}
    {outcome : Except AppError (List AgentEvent)} (run : Runs (core.run request) trace outcome) :
    modelCalls trace ≤ core.budget.maxSteps + 1 - max request.startIteration 1 ∧
    (∀ before event after, trace = before ++ event :: after →
      event.1.callsModel = true ∨ event.1.executes = true →
      (tally core.budget before).runTokens ≤ core.budget.perRunTokenCap) ∧
    (∃ seed laps, RunLaps core request seed laps outcome ∧ trace = seed ++ lapsTrace laps ∧
      ∀ lap ∈ laps, lap.state.iteration = core.budget.maxSteps ∨
        (∃ reply ∈ replies lap.trace, core.budget.perStepTokenCap < reply.usage.totalTokens) →
      ∀ event ∈ lap.trace, event.1.executes = false) ∧
    ∀ events, outcome = .ok events → ∃ earlier reason, events = earlier ++ [.stopped reason] ∧
      ∀ event ∈ earlier, event.isStopped = false := by
  obtain ⟨seed, laps, passes, same⟩ := runs_run_laps run
  obtain ⟨idle, calls, within, executes⟩ := passes.spends
  have modelless := idle.mono Query.modelless_of_idle
  refine ⟨?_, ?_, ⟨seed, laps, passes, same, ?_⟩, ?_⟩
  · rw [same, modelCalls_append, modelCalls_of_modelless modelless, Nat.zero_add]
    exact calls
  · intro before event after split acts
    have whole : Within core.budget trace := by
      rw [same]
      refine (within_of_idle idle).append ?_
      rw [tally_of_modelless modelless]
      exact within
    have busy : event.1.idle = false := by
      rcases acts with acts | acts <;> simp [Query.idle, acts]
    have below := whole before event after split busy
    rwa [tally_perRunTokenCap] at below
  · intro lap member capped event here
    by_contra acts
    obtain ⟨below, tokens⟩ := executes lap member ⟨event, here, by simpa using acts⟩
    rcases capped with last | ⟨reply, replied, above⟩
    · omega
    · have within := tokens reply replied
      omega
  · rintro events rfl
    obtain ⟨rest, -, loop⟩ := runs_run_ok run
    exact loop.stopped (List.forall_mem_nil _)

/-- The search and the answer are two calls, of the ten that are allowed. -/
theorem search_budget : modelCalls (sampleRun searchScript).1 = 2 ∧
    modelCalls (sampleRun searchScript).1 ≤ 10 ∧
    ∃ seed laps, RunLaps sampleCore (sampleRequest (.newMessage (.ofUser "go"))) seed laps
      (sampleRun searchScript).2 ∧ (sampleRun searchScript).1 = seed ++ lapsTrace laps := by
  have run : Runs (sampleCore.run (sampleRequest (.newMessage (.ofUser "go"))))
      (sampleRun searchScript).1 (sampleRun searchScript).2 := runs_simulate _ _ []
  obtain ⟨calls, -, ⟨seed, laps, passes, same, -⟩, -⟩ := budget_protocol run
  exact ⟨rfl, calls, seed, laps, passes, same⟩

end Ziee.Agent
