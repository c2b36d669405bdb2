/-
**Delegation is contained.**

A `delegate` call reaches the handler whatever tools the model was offered, so what bounds it is the
handler's own check, the cap, the narrowing of the servers and the scope a child starts with.

* `runs_handleDelegate` — one call: refused without a child, or the first children that were
  requested, narrowed and in order, with a note exactly when some were cut.
* `gap_in_spawned` — a child whose model does not resolve is left out between two that are spawned.
-/

import Ziee.Agent.Delegate
import Ziee.Agent.FanOutAccounts
import Ziee.Agent.BudgetProtocol

namespace Ziee.Agent

open PortProgram Ziee.Providers

def keepsScope : PortEvent → Bool
  | ⟨.contribute _ context, .ok context'⟩ => context'.toolScope = context.toolScope
  | _ => true

/-- No extension rewrites the tool scope. -/
def ScopeKept (trace : List PortEvent) : Prop := ∀ event ∈ trace, keepsScope event = true

instance (trace : List PortEvent) : Decidable (ScopeKept trace) :=
  inferInstanceAs (Decidable (∀ event ∈ trace, _))

def Query.scoped (request : AgentTurnRequest) (query : Query) : Bool :=
  match query with
  | .handleCoreTool _ _ scope runId userId =>
    scope = request.toolScope && runId = request.runId && userId = request.userId
  | _ => true

/-- A core tool is handled in the turn's scope when the extensions have kept it until then. -/
def ScopedTrace (request : AgentTurnRequest) (trace : List PortEvent) : Prop :=
  ∀ before event after, trace = before ++ event :: after → ScopeKept before →
    event.1.scoped request = true

section Scoped

variable {core : AgentCore} {request : AgentTurnRequest} {extensions : List Extension}
  {scope : ToolScope}

theorem scopeKept_append_iff {before after : List PortEvent} :
    ScopeKept (before ++ after) ↔ ScopeKept before ∧ ScopeKept after :=
  List.forall_mem_append

theorem ScopedTrace.append {before after : List PortEvent} (first : ScopedTrace request before)
    (second : ScopeKept before → ScopedTrace request after) :
    ScopedTrace request (before ++ after) := by
  intro before' event after' split kept
  rcases List.append_eq_append_iff.mp split with ⟨middle, rfl, rest⟩ | ⟨middle, rfl, rest⟩
  · obtain ⟨kept, later⟩ := scopeKept_append_iff.mp kept
    exact second kept middle event after' rest later
  · cases middle with
    | nil =>
      rw [List.append_nil] at second
      exact second kept [] event after' rest.symm (List.forall_mem_nil _)
    | cons event' middle =>
      obtain ⟨rfl, -⟩ := List.cons.inj rest
      exact first before' event middle rfl kept

theorem closed_scopedTrace (request : AgentTurnRequest) : Closed (ScopedTrace request) where
  nil := fun _ _ _ split => absurd split (by simp)
  append := fun first second => first.append fun _ => second

theorem Query.scoped_of_idle (query : Query) (idle : query.idle = true) :
    query.scoped request = true := by
  cases query with
  | handleCoreTool => cases idle
  | _ => rfl

theorem Asks.scoped {α : Type} {program : AgentM α} (idle : Asks Query.idle program) :
    Asks (Query.scoped request) program :=
  idle.mono Query.scoped_of_idle

theorem Asks.scopedRecord {α : Type} {program : AgentM α} (records : Asks Query.ofRecord program) :
    Asks (Query.scoped request) program :=
  (records.mono Query.idle_of_ofRecord).scoped

theorem Asks.scopedTrace {α : Type} {program : AgentM α}
    (asks : Asks (Query.scoped request) program) : Keeps (ScopedTrace request) program :=
  Keeps.mono asks fun _ only _ event _ split _ =>
    only event (split ▸ List.mem_append_right _ List.mem_cons_self)

theorem runCalls_scoped (same : scope = request.toolScope) (iteration : Nat)
    (calls : List ToolCall) : ∀ ordinal round, Asks (Query.scoped request)
      (runCalls core request scope iteration ordinal calls round) := by
  induction calls with
  | nil => exact fun _ _ => .pure _
  | cons call rest ih =>
    refine fun ordinal round => .bind ?_ fun _ => ih _ _
    unfold runCall
    split
    · refine .bind (.perform ?_) fun _ => (recordExecuted_records _ _ _).scopedRecord
      simp [Query.scoped, same]
    · refine .bind (decideAct_idle _ _).scoped fun act => ?_
      cases act with
      | suspend ticket => exact .bind (pushEmit_records _ _).scopedRecord fun _ => .pure _
      | deny reason => exact .bind (appendResult_records _ _ _ _).scopedRecord fun _ => .pure _
      | execute => exact .bind (.perform rfl) fun _ => (recordExecuted_records _ _ _).scopedRecord

theorem react_scoped (same : scope = request.toolScope) (state : LoopState)
    (message : ChatMessage) (fromModel : Bool) (tokens : Nat) : Asks (Query.scoped request)
      (react core request extensions scope state message fromModel tokens) := by
  refine .bind (postRound_idle _ _ _).scoped fun ended => ?_
  refine Keeps.ite (stopWith_records _ _).scopedRecord ?_
  refine Keeps.ite (stopWith_records _ _).scopedRecord ?_
  refine Asks.bind (.perform rfl) fun cancelled => ?_
  split
  · exact Asks.bind (refuseCalls_records _ _).scopedRecord fun _ =>
      (stopWith_records _ _).scopedRecord
  · exact Asks.bind (runCalls_scoped same _ _ _ _) fun _ => (finishRound_records _ _).scopedRecord

theorem receive_scoped (same : scope = request.toolScope) (state : LoopState) (reply : ModelReply) :
    Asks (Query.scoped request) (receive core request extensions scope state reply) := by
  refine .bind (.attempt rfl) fun _ => .bind (.perform rfl) fun _ => ?_
  exact .bind (.perform rfl) fun _ => react_scoped same _ _ _ _

theorem answer_scoped (same : scope = request.toolScope) (state : LoopState)
    (resumed : Option ChatMessage) (sent : ChatRequest) :
    Asks (Query.scoped request) (answer core request extensions scope state resumed sent) := by
  cases resumed with
  | some message => exact react_scoped same _ _ _ _
  | none =>
    refine .bind (.perform rfl) fun call => ?_
    cases call with
    | cancelled => exact (stopWith_records _ _).scopedRecord
    | finished result =>
      cases result with
      | error error => exact Keeps.fail (closed_onlyAsks _) error
      | ok reply => exact receive_scoped same _ _

theorem ContributeRun.toolScope {context last : TurnContext} {trace : List PortEvent}
    (run : ContributeRun extensions context trace last) (kept : ScopeKept trace) :
    last.toolScope = context.toolScope := by
  induction run with
  | nil => rfl
  | cons _ ih =>
    obtain ⟨here, later⟩ := List.forall_mem_cons.mp kept
    exact (ih later).trans (by simpa [keepsScope, contributed] using here)

theorem pass_scoped (state : LoopState) :
    Keeps (ScopedTrace request) (pass core request extensions state) := by
  have quiet : ∀ {α : Type} {program : AgentM α}, Asks Query.ofPrelude program →
      Keeps (ScopedTrace request) program := fun prelude =>
    (prelude.mono Query.idle_of_ofPrelude).scoped.scopedTrace
  have stops : ∀ reason, Keeps (ScopedTrace request) (stopWith state.events reason) := fun _ =>
    (stopWith_records _ _).scopedRecord.scopedTrace
  have closed := closed_scopedTrace request
  refine Keeps.bind closed (Asks.perform rfl).scopedTrace fun cancelled => ?_
  refine Keeps.ite (stops _) ?_
  split
  · exact stops _
  refine Keeps.bind closed (quiet drainSteerNotes_prelude) fun _ => ?_
  intro trace outcome run
  rcases runs_bind_iff.mp run with ⟨error, rfl, failed⟩ | ⟨context, before, after, rfl, head, tail⟩
  · exact quiet (runContribute_prelude _ _) _ _ failed
  -- the rest of the pass is given the contributed scope
  refine (quiet (runContribute_prelude _ _) _ _ head).append fun kept => ?_
  have same := (runs_runContribute_ok _ head).toolScope kept
  refine (Keeps.bind closed (quiet (.attempt rfl)) fun history => ?_) _ _ tail
  refine Keeps.bind closed (quiet (.attempt rfl)) fun tools => ?_
  refine Keeps.bind closed (quiet (runBeforeModel_prelude _ _)) fun vetted => ?_
  exact Keeps.ite (stops _) (answer_scoped same _ _ _).scopedTrace

theorem loop_scoped (fuel : Nat) :
    ∀ state, Keeps (ScopedTrace request) (loop core request extensions fuel state) := by
  induction fuel with
  | zero => exact fun _ => Keeps.pure (closed_scopedTrace _) _
  | succ fuel ih =>
    refine fun state => Keeps.bind (closed_scopedTrace _) (pass_scoped _) fun result => ?_
    cases result with
    | stop events => exact Keeps.pure (closed_scopedTrace _) _
    | again state => exact ih state

/-- **Every core tool of a run is handled in the turn's own scope**, while no extension rewrites
it. -/
theorem run_scoped : Keeps (ScopedTrace request) (core.run request) := by
  refine Keeps.bind (closed_scopedTrace _) (Asks.scopedTrace ?_) fun _ => loop_scoped _ _
  unfold seedTranscript
  split
  · exact .attempt rfl
  · exact .pure _

end Scoped

/-! ### Which children are left out -/

def failsToResolve : FanOutEvent → Bool
  | ⟨.resolve _ _, .error _⟩ => true
  | _ => false

/-- How many models did not resolve. -/
def failedResolutions (trace : List FanOutEvent) : Nat := trace.countP failsToResolve

def dealtWith (trace : List FanOutEvent) : Nat :=
  (spawnedChildren trace).length + failedResolutions trace

/-- Neither spawns nor resolves. -/
def FanOutQuery.joins : FanOutQuery → Bool
  | .spawn _ | .resolve _ _ => false
  | _ => true

section DealtWith

variable {core : AgentCore} {userId : Uuid} {trace before after : List FanOutEvent}

theorem dealtWith_append : dealtWith (before ++ after) = dealtWith before + dealtWith after := by
  simp only [dealtWith, failedResolutions, spawnedChildren, List.filterMap_append,
    List.length_append, List.countP_append]
  omega

/-- The trace deals with no spec. -/
def Joins (trace : List FanOutEvent) : Prop := ∀ event ∈ trace, event.1.joins = true

theorem closed_joins : Closed Joins where
  nil := List.forall_mem_nil _
  append := fun first second => List.forall_mem_append.mpr ⟨first, second⟩

theorem Joins.dealtWith (joins : Joins trace) : dealtWith trace = 0 := by
  have spawned : spawnedChildren trace = [] := by
    refine List.filterMap_eq_nil_iff.mpr ?_
    rintro ⟨query, answer⟩ member
    cases query with
    | spawn => exact absurd (joins _ member) (by simp [FanOutQuery.joins])
    | _ => rfl
  have resolved : failedResolutions trace = 0 := by
    refine List.countP_eq_zero.mpr ?_
    rintro ⟨query, answer⟩ member
    cases query with
    | resolve => exact absurd (joins _ member) (by simp [FanOutQuery.joins])
    | _ => simp [failsToResolve]
  simp [Agent.dealtWith, spawned, resolved]

theorem joins_perform {query : FanOutQuery} (joins : query.joins = true) :
    Keeps Joins (Program.perform (I := fanOutPorts) (ε := AppError) query) :=
  Keeps.perform fun _ => List.forall_mem_singleton.mpr joins

theorem joinAll_joins (parentRunId : Uuid) (mode : FailureMode) (ids : List Uuid)
    (outcomes : List ChildOutcome) :
    ∀ idx activity out, Keeps Joins (joinAll core parentRunId mode ids outcomes idx activity
      out) := by
  have settle : ∀ idx ok, Keeps Joins (settleChildRun core ids idx ok) := by
    intro idx ok
    unfold settleChildRun
    split
    · exact Keeps.fail closed_joins _
    · exact Keeps.ite (joins_perform rfl) (Keeps.pure closed_joins _)
  have failed : ∀ error detail activity, Keeps Joins (failChild mode error detail activity) := by
    intro error detail activity
    unfold failChild
    split
    · exact Keeps.bind closed_joins (joins_perform rfl) fun _ => Keeps.fail closed_joins _
    · exact Keeps.pure closed_joins _
  induction outcomes with
  | nil => exact fun _ _ _ => Keeps.pure closed_joins _
  | cons outcome rest ih =>
    intro idx activity out
    refine Keeps.bind closed_joins ?_ fun joined =>
      Keeps.bind closed_joins (joins_perform rfl) fun _ => ih _ _ _
    unfold joinChild
    split
    · exact Keeps.pure closed_joins _
    · refine Keeps.bind closed_joins (joins_perform rfl) fun ending => ?_
      split
      · exact Keeps.bind closed_joins (settle _ _) fun _ => Keeps.pure closed_joins _
      · exact Keeps.bind closed_joins (settle _ _) fun _ => failed _ _ _
      · exact Keeps.bind closed_joins (settle _ _) fun _ => failed _ _ _

theorem runs_spawnTask_dealtWith {α : Type} {childId : Uuid} {label : String} {child : Child}
    {value : α} {outcome : Except AppError α} (run : Runs (do
      childSink core childId label
      spawnTask child
      pure value) trace outcome) : dealtWith trace = 1 := by
  have sink : Keeps Joins (childSink core childId label) :=
    Keeps.ite (joins_perform rfl) (Keeps.pure closed_joins _)
  rcases runs_bind_iff.mp run with ⟨error, rfl, failed⟩ | ⟨_, sinks, rest, rfl, head, tail⟩
  · obtain ⟨-, impossible⟩ := runs_childSink failed
    cases impossible
  · obtain ⟨answer, last, rfl, done⟩ := runs_perform_bind_iff.mp tail
    obtain ⟨rfl, -⟩ := runs_pure_iff.mp done
    rw [dealtWith_append, (sink _ _ head).dealtWith]
    rfl

theorem spawnChild_dealtWith {spec : SubagentSpec} {state : Spawning}
    {outcome : Except AppError Spawning}
    (run : Runs (spawnChild core userId .errorSummary spec state) trace outcome) :
    dealtWith trace = 1 := by
  obtain ⟨childId, trace, rfl, resolve⟩ := runs_perform_bind_iff.mp run
  have named : dealtWith [(⟨.newId, childId⟩ : FanOutEvent)] = 0 := rfl
  rw [← List.singleton_append, dealtWith_append, named, Nat.zero_add]
  dsimp only at resolve
  cases model : spec.modelId with
  | none =>
    rw [model] at resolve
    exact runs_spawnTask_dealtWith resolve
  | some modelId =>
    rw [model] at resolve
    obtain ⟨resolved, rest, rfl, spawns⟩ := runs_perform_bind_iff.mp resolve
    rw [← List.singleton_append, dealtWith_append]
    cases resolved with
    | error error =>
      obtain ⟨rfl, -⟩ := runs_pure_iff.mp spawns
      rfl
    | ok value =>
      rw [runs_spawnTask_dealtWith spawns]
      rfl

theorem spawnAll_dealtWith (specs : List SubagentSpec) :
    ∀ {state trace} {outcome : Except AppError Spawning},
      Runs (spawnAll core userId .errorSummary specs state) trace outcome →
      dealtWith trace = specs.length := by
  induction specs with
  | nil =>
    intro state trace outcome run
    obtain ⟨rfl, -⟩ := runs_pure_iff.mp run
    rfl
  | cons spec rest ih =>
    intro state trace outcome run
    rcases runs_bind_iff.mp run with ⟨error, rfl, failed⟩ | ⟨_, before, after, rfl, head, tail⟩
    · obtain ⟨_, -, impossible, -⟩ := runs_spawnChild failed
      cases impossible
    · rw [dealtWith_append, spawnChild_dealtWith head, ih tail, List.length_cons, Nat.add_comm]

/-- **Every spec of a fan-out is spawned or its model did not resolve.** -/
theorem fanOutInner_dealtWith {parentRunId : Uuid} {specs : List SubagentSpec}
    {outcome : Except AppError (List SubagentSummary)}
    (run : Runs (fanOutInner core parentRunId userId specs .errorSummary) trace outcome) :
    dealtWith trace = specs.length := by
  rcases runs_bind_iff.mp run with ⟨error, rfl, failed⟩ | ⟨state, before, after, rfl, head, tail⟩
  · obtain ⟨_, -, impossible, -⟩ := runs_spawnAll _ failed
    cases impossible
  · have joins : Keeps Joins (do
        emitActivity parentRunId state.activity
        let out ← joinAll core parentRunId .errorSummary state.childRunIds state.outcomes 0
          state.activity []
        pure (out.map neutralizeSummary)) :=
      Keeps.bind closed_joins (joins_perform rfl) fun _ =>
        Keeps.bind closed_joins (joinAll_joins _ _ _ _ _ _ _) fun _ => Keeps.pure closed_joins _
    rw [dealtWith_append, spawnAll_dealtWith _ head, (joins _ _ tail).dealtWith, Nat.add_zero]

end DealtWith

/-! ### One call -/

/-- `max_children_per_call.max(1)`. -/
def childCap (core : AgentCore) : Nat := max core.limits.maxChildrenPerCall 1

def noteOf (core : AgentCore) (input : DelegateInput) : Option String :=
  if childCap core < input.children.length then
    some (cappedNote input.children.length (childCap core))
  else none

/-- **What a call that is not refused does**: it takes on the first children that were requested,
narrowed, and spawns those whose model resolves, in their order. -/
structure TakenOn (formats : TextFormats) (core : AgentCore) (call : ToolCall) (scope : ToolScope)
    (userId : Uuid) (trace : List FanOutEvent) (result : ToolResult) (input : DelegateInput)
    (accounts : List Account) : Prop where
  permitted : scope.allowDelegate = true
  read : DelegateInput.read formats call.input = .ok input
  nonempty : input.children ≠ []
  specs : accounts.map Account.spec =
    (input.children.take (childCap core)).map (DelegateChildSpec.narrow scope.servers)
  spawned : spawnedChildren trace = accounts.filterMap (Account.child? core userId)
  resolved : (spawnedChildren trace).length + failedResolutions trace = accounts.length
  result : result = ⟨[.text (mergeSummaries (accounts.map fun account =>
    neutralizeSummary account.summary) (noteOf core input))], false, none, false⟩

section Call

variable {formats : TextFormats} {core : AgentCore} {call : ToolCall} {scope : ToolScope}
  {runId userId : Uuid} {trace : List FanOutEvent} {outcome : Except AppError ToolResult}

theorem prepareChildSpecs_eq (input : DelegateInput) (servers : List String) :
    prepareChildSpecs input servers core.limits.maxChildrenPerCall =
      ((input.children.take (childCap core)).map (DelegateChildSpec.narrow servers),
        noteOf core input) := by
  unfold prepareChildSpecs noteOf childCap
  by_cases cut : max core.limits.maxChildrenPerCall 1 < input.children.length
  · simp only [gt_iff_lt, if_pos cut]
  · simp only [gt_iff_lt, if_neg cut]
    rw [List.take_of_length_le (Nat.le_of_not_lt cut)]

/-- **One `delegate` call** is refused without a child, or takes on what was requested. -/
theorem runs_handleDelegate
    (run : Runs (handleDelegate formats core call scope runId userId) trace outcome) :
    ∃ result, outcome = .ok result ∧ (trace = [] ∧ result.isError = true ∨
      ∃ input accounts, TakenOn formats core call scope userId trace result input accounts) := by
  unfold handleDelegate at run
  cases permitted : scope.allowDelegate with
  | false =>
    rw [permitted] at run
    obtain ⟨rfl, rfl⟩ := runs_pure_iff.mp run
    exact ⟨_, rfl, Or.inl ⟨rfl, rfl⟩⟩
  | true =>
  rw [permitted] at run
  cases read : DelegateInput.read formats call.input with
  | error error =>
    rw [read] at run
    obtain ⟨rfl, rfl⟩ := runs_pure_iff.mp run
    exact ⟨_, rfl, Or.inl ⟨rfl, rfl⟩⟩
  | ok input =>
  rw [read] at run
  simp only [prepareChildSpecs_eq, Bool.not_true, Bool.false_eq_true, if_false] at run
  split at run
  · obtain ⟨rfl, rfl⟩ := runs_pure_iff.mp run
    exact ⟨_, rfl, Or.inl ⟨rfl, rfl⟩⟩
  rename_i some
  have nonempty : input.children ≠ [] := fun none => some (by simp [none])
  rcases runs_bind_iff.mp run with ⟨error, -, failed⟩ | ⟨joined, before, after, rfl, fan, tail⟩
  · obtain ⟨_, impossible, -⟩ := runs_caught_iff.mp failed
    cases impossible
  obtain ⟨summaries, same, fans⟩ := runs_caught_iff.mp fan
  obtain ⟨accounts, ran⟩ := runs_fanOutInner fans
  cases same
  rw [ran.outcome] at tail
  obtain ⟨rfl, rfl⟩ := runs_pure_iff.mp tail
  rw [List.append_nil]
  have dealt := fanOutInner_dealtWith fans
  rw [← ran.specs, List.length_map] at dealt
  exact ⟨_, rfl, Or.inr ⟨input, accounts, permitted, read, nonempty, ran.specs, ran.spawned, dealt,
    rfl⟩⟩

theorem TakenOn.length_le {result : ToolResult} {input : DelegateInput} {accounts : List Account}
    (taken : TakenOn formats core call scope userId trace result input accounts) :
    (spawnedChildren trace).length ≤ childCap core := by
  have specs := congrArg List.length taken.specs
  rw [List.length_map, List.length_map, List.length_take] at specs
  rw [taken.spawned]
  have filtered := List.length_filterMap_le (Account.child? core userId) accounts
  omega

theorem TakenOn.child_scope {result : ToolResult} {input : DelegateInput} {accounts : List Account}
    (taken : TakenOn formats core call scope userId trace result input accounts) {child : Child}
    (spawned : child ∈ spawnedChildren trace) : ∃ requested ∈ input.children,
      child.request.toolScope = (requested.narrow scope.servers).toolScope := by
  rw [taken.spawned] at spawned
  obtain ⟨account, member, made⟩ := List.mem_filterMap.mp spawned
  obtain ⟨handle, -, rfl⟩ := Option.map_eq_some_iff.mp made
  have spec : account.spec ∈ accounts.map Account.spec := List.mem_map_of_mem member
  rw [taken.specs] at spec
  obtain ⟨requested, among, same⟩ := List.mem_map.mp spec
  refine ⟨requested, List.mem_of_mem_take among, ?_⟩
  rw [same]
  show ToolScope.mk account.spec.toolScope.servers false = account.spec.toolScope
  rw [← same]
  rfl

theorem intercalate_cons (separator first : String) (rest : List String) :
    ∃ tail, separator.intercalate (first :: rest) = first ++ tail := by
  induction rest generalizing first with
  | nil => exact ⟨"", by simp⟩
  | cons second rest ih =>
    obtain ⟨tail, same⟩ := ih (first ++ separator ++ second)
    exact ⟨separator ++ second ++ tail, by
      show separator.intercalate ((first ++ separator ++ second) :: rest) = _
      rw [same]
      simp [String.append_assoc]⟩

theorem mergeSummaries_starts {summaries : List SubagentSummary} {note : Option String}
    {word : List Char} (plain : PlainWord word) (nonempty : word ≠ [])
    (noRole : ∀ line, neutralizeLineRole (word ++ line) = word ++ line) {first : String}
    {parts : List String} (starts : word <+: first.toList)
    (same : (note.toList ++ summaries.mapIdx fun index summary => summaryPart summary index) =
      first :: parts) : word <+: (mergeSummaries summaries note).toList := by
  unfold mergeSummaries
  obtain ⟨tail, joined⟩ := intercalate_cons "\n\n" first parts
  obtain ⟨rest, begins⟩ := starts
  rw [same, joined]
  have text : first ++ tail = String.ofList (word ++ (rest ++ tail.toList)) := by
    rw [← List.append_assoc, begins]
    simp
  rw [text]
  exact neutralizeUntrusted_append plain nonempty noRole _

theorem plainWord_note : PlainWord "Note".toList := by simp [PlainWord]

theorem plainWord_sub : PlainWord "Sub".toList := by simp [PlainWord]

theorem starts_append {word : List Char} {text : String} (starts : word <+: text.toList)
    (more : String) : word <+: (text ++ more).toList := by
  rw [String.toList_append]
  exact starts.trans (List.prefix_append _ _)

theorem cappedNote_starts (requested cap : Nat) :
    "Note".toList <+: (cappedNote requested cap).toList := by
  unfold cappedNote
  iterate 8 apply starts_append
  decide

theorem summaryPart_starts (summary : SubagentSummary) (index : Nat) :
    "Sub".toList <+: (summaryPart summary index).toList := by
  unfold summaryPart
  iterate 3 apply starts_append
  decide

/-- **The result begins with a note exactly when some children were cut.** -/
theorem TakenOn.noted {result : ToolResult} {input : DelegateInput} {accounts : List Account}
    (taken : TakenOn formats core call scope userId trace result input accounts) :
    ∃ text, result.content = [.text text] ∧
      ("Note".toList <+: text.toList ↔ childCap core < input.children.length) := by
  rw [taken.result]
  refine ⟨_, rfl, ?_⟩
  by_cases cut : childCap core < input.children.length
  · simp only [cut, iff_true, noteOf, if_true]
    exact mergeSummaries_starts plainWord_note (List.cons_ne_nil _ _) (fun _ => rfl)
      (cappedNote_starts _ _) rfl
  · simp only [cut, iff_false, noteOf, if_false]
    have specs := congrArg List.length taken.specs
    rw [List.length_map, List.length_map, List.length_take] at specs
    have some := List.length_pos_iff.mpr taken.nonempty
    have positive : 0 < childCap core := lt_max_of_lt_right Nat.one_pos
    cases accounts with
    | nil =>
      rw [List.length_nil] at specs
      omega
    | cons account accounts =>
      have starts : "Sub".toList <+: (mergeSummaries ((account :: accounts).map
          fun account => neutralizeSummary account.summary) none).toList :=
        mergeSummaries_starts plainWord_sub (List.cons_ne_nil _ _) (fun _ => rfl)
          (summaryPart_starts (neutralizeSummary account.summary) 0) (by
            rw [List.map_cons, List.mapIdx_cons]
            rfl)
      intro noted
      have word := List.prefix_of_prefix_length_le starts noted (by decide)
      exact absurd word (by decide)

end Call

/-! ### Runs of a parent and of its children -/

structure Turn where
  core : AgentCore
  request : AgentTurnRequest

def Child.turn (child : Child) : Turn := ⟨child.core, child.request⟩

/-- **A core tool the turn handles**: in one of its runs, cut or not, in which no extension rewrites
the tool scope. -/
structure HandledCall (turn : Turn) where
  events : List PortEvent
  tool : CoreTool
  call : ToolCall
  scope : ToolScope
  runId : Uuid
  userId : Uuid
  given : ToolResult
  run : RunsPartly (turn.core.run turn.request) events
  kept : ScopeKept events
  handled : (⟨.handleCoreTool tool call scope runId userId, given⟩ : PortEvent) ∈ events

def HandledCall.fanOut (formats : TextFormats) {turn : Turn} (handled : HandledCall turn) :
    FanOutM ToolResult :=
  handleCoreToolFanOut formats turn.core handled.tool handled.call handled.scope handled.runId
    handled.userId handled.given

section Contained

variable {formats : TextFormats} {turn : Turn} {trace : List FanOutEvent}

theorem HandledCall.scoped (handled : HandledCall turn) :
    handled.scope = turn.request.toolScope ∧ handled.userId = turn.request.userId := by
  obtain ⟨rest, outcome, run⟩ := handled.run
  obtain ⟨before, after, split⟩ := List.append_of_mem handled.handled
  have kept := (scopeKept_append_iff.mp (split ▸ handled.kept)).1
  have asked := run_scoped _ _ run before _ (after ++ rest)
    (by rw [split, List.append_assoc, List.cons_append]) kept
  simp only [Query.scoped, Bool.and_eq_true, decide_eq_true_eq] at asked
  exact ⟨asked.1.1, asked.2⟩

theorem HandledCall.delegates (handled : HandledCall turn) (delegate : handled.tool = .delegate)
    {outcome : Except AppError ToolResult} (run : Runs (handled.fanOut formats) trace outcome) :
    ∃ result, outcome = .ok result ∧ (trace = [] ∧ result.isError = true ∨
      ∃ input accounts, TakenOn formats turn.core handled.call turn.request.toolScope
        turn.request.userId trace result input accounts) := by
  obtain ⟨scope, user⟩ := handled.scoped
  unfold HandledCall.fanOut at run
  rw [delegate, scope, user] at run
  exact runs_handleDelegate run

theorem HandledCall.spawned_or (handled : HandledCall turn)
    {outcome : Except AppError ToolResult} (run : Runs (handled.fanOut formats) trace outcome) :
    spawnedChildren trace = [] ∨ ∃ result input accounts, TakenOn formats turn.core handled.call
      turn.request.toolScope turn.request.userId trace result input accounts := by
  by_cases delegate : handled.tool = .delegate
  · obtain ⟨result, -, ⟨rfl, -⟩ | ⟨input, accounts, taken⟩⟩ := handled.delegates delegate run
    · exact Or.inl rfl
    · exact Or.inr ⟨result, input, accounts, taken⟩
  · have other : handled.fanOut formats = pure handled.given := by
      unfold HandledCall.fanOut handleCoreToolFanOut
      cases tool : handled.tool with
      | delegate => exact absurd tool delegate
      | _ => rfl
    rw [other] at run
    obtain ⟨rfl, -⟩ := runs_pure_iff.mp run
    exact Or.inl rfl

theorem HandledCall.barren (handled : HandledCall turn)
    (forbidden : turn.request.toolScope.allowDelegate = false)
    (run : RunsPartly (handled.fanOut formats) trace) : spawnedChildren trace = [] := by
  obtain ⟨rest, outcome, whole⟩ := run
  have nothing : spawnedChildren (trace ++ rest) = [] := by
    rcases handled.spawned_or whole with nothing | ⟨_, _, _, taken⟩
    · exact nothing
    · exact absurd taken.permitted (by simp [forbidden])
  unfold spawnedChildren at nothing
  rw [List.filterMap_append] at nothing
  exact (List.append_eq_nil_iff.mp nothing).1

/-- **Delegation is contained**, in every run of a parent and of its children: a call spawns at most
`max(cap, 1)` children; each has servers of its parent only and never spawns a child itself; the
call takes on the first of the requested specs in order, spawns those whose model resolves, and
notes exactly when some were cut. -/
theorem delegation_contained (formats : TextFormats) {turn : Turn} (handled : HandledCall turn)
    {trace : List FanOutEvent} {outcome : Except AppError ToolResult}
    (run : Runs (handled.fanOut formats) trace outcome) :
    (spawnedChildren trace).length ≤ max turn.core.limits.maxChildrenPerCall 1 ∧
    (∀ child ∈ spawnedChildren trace,
      child.request.toolScope.servers ⊆ turn.request.toolScope.servers ∧
      ∀ (nested : HandledCall child.turn) inner, RunsPartly (nested.fanOut formats) inner →
        spawnedChildren inner = []) ∧
    (handled.tool = .delegate → ∃ result, outcome = .ok result ∧
      (trace = [] ∧ result.isError = true ∨ ∃ (input : DelegateInput) (accounts : List Account)
        (text : String), DelegateInput.read formats handled.call.input = .ok input ∧
        accounts.map Account.spec = (input.children.take (childCap turn.core)).map
          (DelegateChildSpec.narrow turn.request.toolScope.servers) ∧
        spawnedChildren trace = accounts.filterMap (Account.child? turn.core turn.request.userId) ∧
        (spawnedChildren trace).length + failedResolutions trace = accounts.length ∧
        result.content = [.text text] ∧
        ("Note".toList <+: text.toList ↔ childCap turn.core < input.children.length))) := by
  refine ⟨?_, fun child spawned => ?_, fun delegate => ?_⟩
  · rcases handled.spawned_or run with nothing | ⟨_, _, _, taken⟩
    · rw [nothing]
      exact Nat.zero_le _
    · exact taken.length_le
  · rcases handled.spawned_or run with nothing | ⟨_, _, _, taken⟩
    · rw [nothing] at spawned
      cases spawned
    · obtain ⟨requested, -, narrowed⟩ := taken.child_scope spawned
      refine ⟨fun server member => ?_, fun nested inner partly => nested.barren ?_ partly⟩
      · rw [narrowed] at member
        simpa using (List.mem_filter.mp member).2
      · show child.request.toolScope.allowDelegate = false
        rw [narrowed]
        rfl
  · obtain ⟨result, same, refused | ⟨input, accounts, taken⟩⟩ := handled.delegates delegate run
    · exact ⟨result, same, Or.inl refused⟩
    · obtain ⟨text, content, noted⟩ := taken.noted
      exact ⟨result, same, Or.inr ⟨input, accounts, text, taken.read, taken.specs, taken.spawned,
        taken.resolved, content, noted⟩⟩

end Contained

/-! ### A parent that delegates, and a child that is left out -/

/-- Every text is the id 9, and a string is printed as JSON prints it. -/
def sampleFormats : TextFormats := ⟨fun _ => .ok 9, Json.quote⟩

/-- A child with a model of its own, then one with the parent's. -/
def twoChildren : Json := .object [("children", .array [
  .object [("model_id", .string "m"), ("system", .string "first")],
  .object [("system", .string "second")]])]

/-- The model delegates at once, then answers. -/
def delegateScript (past : List PortEvent) : ∀ query, Option (Query.Answer query)
  | .callModel _ =>
    if (past.filterMap modelReply?).isEmpty then
      some (.finished (.ok ⟨[.toolUse "call-1" "delegate" twoChildren], ⟨1, 1, 2⟩⟩))
    else none
  | _ => none

def delegatingTurn : Turn where
  core := sampleCore
  request := { sampleRequest (.newMessage (.ofUser "go")) with toolScope := ⟨["files"], true⟩ }

def delegatingRun : List PortEvent × Except AppError (List AgentEvent) :=
  (delegatingTurn.core.run delegatingTurn.request).simulate (scriptedPorts [] delegateScript) []

def delegateCall : ToolCall := ⟨"call-1", none, "delegate", twoChildren⟩

def modellessPorts : ∀ query, FanOutQuery.Answer query
  | .newId => 7
  | .resolve _ _ => .error ⟨"no such model"⟩
  | .forChild _ _ => ()
  | .spawn _ => ()
  | .emit _ => ()
  | .await _ => .returned (.ok [])
  | .settleChild _ _ => ()
  | .stopSurvivors => ()

def delegatedCall : HandledCall delegatingTurn where
  events := delegatingRun.1
  tool := .delegate
  call := delegateCall
  scope := delegatingTurn.request.toolScope
  runId := 1
  userId := 2
  given := ⟨[], false, none, false⟩
  run := (runs_simulate _ _ []).partly
  kept := by decide
  handled := List.mem_of_getElem? (i := 12) rfl

def delegatedFan : List FanOutEvent × Except AppError ToolResult :=
  (delegatedCall.fanOut sampleFormats).simulate (fun _ => modellessPorts) []

/-- Of the two children one is spawned, with no server its parent does not have. -/
theorem delegatedFan_contained : (spawnedChildren delegatedFan.1).length = 1 ∧
    (spawnedChildren delegatedFan.1).length ≤ max delegatingTurn.core.limits.maxChildrenPerCall 1 ∧
    ∀ child ∈ spawnedChildren delegatedFan.1,
      child.request.toolScope.servers ⊆ delegatingTurn.request.toolScope.servers := by
  have run : Runs (delegatedCall.fanOut sampleFormats) delegatedFan.1 delegatedFan.2 :=
    runs_simulate _ _ []
  obtain ⟨few, contained, -⟩ := delegation_contained sampleFormats delegatedCall run
  exact ⟨rfl, few, fun child spawned => (contained child spawned).1⟩

/-- **The children a call spawns are not always the first ones it requested**: one whose model does
not resolve is left out, and the next is spawned all the same. -/
theorem gap_in_spawned : ¬∀ (formats : TextFormats) (core : AgentCore) (call : ToolCall)
    (scope : ToolScope) (runId userId : Uuid) (input : DelegateInput) (trace : List FanOutEvent)
    (outcome : Except AppError ToolResult),
    Runs (handleDelegate formats core call scope runId userId) trace outcome →
    DelegateInput.read formats call.input = .ok input →
    (spawnedChildren trace).map (fun child => child.request.system) <+:
      input.children.map fun requested => [.text requested.system] := by
  intro initial
  have run : Runs (delegatedCall.fanOut sampleFormats) delegatedFan.1 delegatedFan.2 :=
    runs_simulate _ _ []
  have input : DelegateInput.read sampleFormats twoChildren =
      .ok ⟨[⟨"first", none, some 9, none⟩, ⟨"second", none, none, none⟩]⟩ := rfl
  have begins : [[ContentBlock.text "second"]] <+:
      [[ContentBlock.text "first"], [ContentBlock.text "second"]] :=
    initial sampleFormats sampleCore delegateCall ⟨["files"], true⟩ 1 2 _ _ _ run input
  obtain ⟨same, -⟩ := List.cons_prefix_cons.mp begins
  simp at same

end Ziee.Agent
