/-
**The keys of the tool executions** (`<run_id>:<iteration>:<ordinal>`).

A tool is executed at a place: the number of the pass and the position of its call among the calls
of the pass. A `Cursor` walks along a trace and knows the place; `ExecutesAt` says that the key of
each execution is its place's.

* `Segment.Ran.executes` — within one run the places rise, so its keys are distinct.
* `repeated_key` — every segment counts from 1, and two of them share their first place.
-/

import Ziee.Agent.BudgetProtocol

namespace Ziee.Agent

open PortProgram Ziee.Providers

/-- Where a tool is executed. -/
structure Place where
  iteration : Nat
  ordinal : Nat
  deriving DecidableEq, Repr

def Place.key (runId : Uuid) (place : Place) : IdempotencyKey :=
  idempotencyKey runId place.iteration place.ordinal

def Place.Before (first second : Place) : Prop :=
  first.iteration < second.iteration ∨
    first.iteration = second.iteration ∧ first.ordinal < second.ordinal

variable {call : ToolCall} {key : IdempotencyKey} {outcome : Except AppError (List AgentEvent)}
  {segment : Segment}

theorem Place.Before.ne {first second : Place} (before : first.Before second) : first ≠ second := by
  rintro rfl
  rcases before with less | ⟨-, less⟩ <;> exact absurd less (Nat.lt_irrefl _)

section Keys

variable {first second : List Char}

end Keys

/-! ### Places -/

def executionKey? : PortEvent → Option IdempotencyKey
  | ⟨.callTool _ _ key, _⟩ => some key
  | ⟨.journalToolCall _ record, _⟩ =>
    if (CoreTool.fromName record.call.name).isSome then some record.key else none
  | _ => none

def executionKeys (trace : List PortEvent) : List IdempotencyKey := trace.filterMap executionKey?

/-- Where a trace stands: in which pass, and how many of its calls have been taken up. -/
structure Cursor where
  iteration : Nat
  calls : Nat

/-- A pass loads the transcript once; a call is taken up with its first query. -/
def Cursor.step (cursor : Cursor) (event : PortEvent) : Cursor :=
  match event.1 with
  | .transcriptLoad _ => ⟨cursor.iteration + 1, 0⟩
  | .isTrusted _ => { cursor with calls := cursor.calls + 1 }
  | .handleCoreTool _ _ _ _ _ => { cursor with calls := cursor.calls + 1 }
  | _ => cursor

def Cursor.after (cursor : Cursor) (trace : List PortEvent) : Cursor :=
  trace.foldl Cursor.step cursor

def Cursor.place (cursor : Cursor) : Place := ⟨cursor.iteration, cursor.calls - 1⟩

def placesFrom : Cursor → List PortEvent → List Place
  | _, [] => []
  | cursor, event :: rest =>
    if (executionKey? event).isSome then cursor.place :: placesFrom (cursor.step event) rest
    else placesFrom (cursor.step event) rest

/-- Neither moves the cursor nor is an execution. -/
def Query.still : Query → Bool
  | .transcriptLoad _ | .isTrusted _ | .handleCoreTool _ _ _ _ _ | .callTool _ _ _
  | .journalToolCall _ _ => false
  | _ => true

/-- **The trace executes tools at these places**, in this order and under their keys. -/
structure ExecutesAt (runId : Uuid) (cursor : Cursor) (trace : List PortEvent)
    (places : List Place) (last : Cursor) : Prop where
  keys : executionKeys trace = places.map (Place.key runId)
  places : placesFrom cursor trace = places
  last : cursor.after trace = last

section Places

variable {runId : Uuid} {cursor middle last : Cursor} {before after trace : List PortEvent}
  {places places' : List Place} {event : PortEvent}

theorem executionKeys_append :
    executionKeys (before ++ after) = executionKeys before ++ executionKeys after :=
  List.filterMap_append

theorem placesFrom_append : ∀ {cursor : Cursor}, placesFrom cursor (before ++ after) =
    placesFrom cursor before ++ placesFrom (cursor.after before) after := by
  induction before with
  | nil => exact rfl
  | cons event before ih =>
    intro cursor
    have goesOn : cursor.after (event :: before) = (cursor.step event).after before := rfl
    simp only [List.cons_append, placesFrom, ih, goesOn]
    split
    · rfl
    · rfl

theorem length_placesFrom : ∀ {cursor : Cursor},
    (placesFrom cursor trace).length = (executionKeys trace).length := by
  induction trace with
  | nil => exact rfl
  | cons event rest ih =>
    intro cursor
    unfold placesFrom executionKeys
    rw [List.filterMap_cons]
    cases key : executionKey? event with
    | none => exact ih
    | some key => exact congrArg (· + 1) ih

theorem ExecutesAt.append (first : ExecutesAt runId cursor before places middle)
    (second : ExecutesAt runId middle after places' last) :
    ExecutesAt runId cursor (before ++ after) (places ++ places') last where
  keys := by rw [executionKeys_append, first.keys, second.keys, List.map_append]
  places := by rw [placesFrom_append, first.places, first.last, second.places]
  last := by
    unfold Cursor.after
    rw [List.foldl_append]
    exact (congrArg (fun cursor => after.foldl Cursor.step cursor) first.last).trans second.last

theorem executesAt_nil : ExecutesAt runId cursor [] [] cursor := ⟨rfl, rfl, rfl⟩

theorem executesAt_execution {iteration ordinal : Nat}
    (key : executionKey? event = some (idempotencyKey runId iteration ordinal))
    (stays : Cursor.step ⟨iteration, ordinal + 1⟩ event = ⟨iteration, ordinal + 1⟩) :
    ExecutesAt runId ⟨iteration, ordinal + 1⟩ [event] [⟨iteration, ordinal⟩]
      ⟨iteration, ordinal + 1⟩ where
  keys := List.filterMap_cons_some key
  places := if_pos (by rw [key]; rfl)
  last := stays

theorem executesAt_move (key : executionKey? event = none) :
    ExecutesAt runId cursor [event] [] (cursor.step event) where
  keys := List.filterMap_cons_none key
  places := if_neg (by simp [key])
  last := rfl

theorem executesAt_of_still (still : OnlyAsks Query.still trace) :
    ExecutesAt runId cursor trace [] cursor := by
  induction trace with
  | nil => exact executesAt_nil
  | cons event rest ih =>
    obtain ⟨here, later⟩ := onlyAsks_cons_iff.mp still
    have one : ExecutesAt runId cursor [event] [] cursor := by
      obtain ⟨query, answer⟩ := event
      cases query with
      | transcriptLoad | isTrusted | handleCoreTool | callTool | journalToolCall => cases here
      | _ => exact ⟨rfl, rfl, rfl⟩
    exact one.append (ih later)

end Places

/-! ### One call and one round -/

/-- The places of a pass from a call on: one for each executed call, in order. -/
def Rising (iteration ordinal : Nat) (places : List Place) : Prop :=
  places.Pairwise Place.Before ∧
    ∀ place ∈ places, place.iteration = iteration ∧ ordinal ≤ place.ordinal

theorem rising_nil {iteration ordinal : Nat} : Rising iteration ordinal [] :=
  ⟨.nil, List.forall_mem_nil _⟩

section Rounds

variable {core : AgentCore} {request : AgentTurnRequest} {scope : ToolScope} {runId : Uuid}

theorem Query.still_of_ofReport (query : Query) (report : query.ofReport = true) :
    query.still = true := by
  cases query with
  | transcriptAppend => rfl
  | emit => rfl
  | _ => cases report

theorem pushEmit_still (events : List AgentEvent) (event : AgentEvent) :
    Asks Query.still (pushEmit events event) :=
  (pushEmit_asks events event).mono Query.still_of_ofReport

theorem stopWith_still (events : List AgentEvent) (reason : StopReason) :
    Asks Query.still (stopWith events reason) :=
  (stopWith_asks events reason).mono Query.still_of_ofReport

theorem appendResult_still (runId : Uuid) (call : ToolCall) (result : ToolResult)
    (events : List AgentEvent) : Asks Query.still (appendResult runId call result events) :=
  (appendResult_asks runId call result events).mono Query.still_of_ofReport

theorem refuseCalls_still (reason : StopReason) (calls : List ToolCall)
    (events : List AgentEvent) : Asks Query.still (refuseCalls runId reason calls events) :=
  (refuseCalls_asks calls events).mono Query.still_of_ofReport

theorem finishRound_still (state : LoopState) (round : RoundState) :
    Asks Query.still (finishRound state round) :=
  (finishRound_asks state round).mono Query.still_of_ofReport

theorem Settles.takes_up {trace : List PortEvent} {decision : Decision}
    (settles : Settles core call trace decision) :
    ∃ trusted rest, trace = ⟨.isTrusted (serverKey call), trusted⟩ :: rest ∧
      OnlyAsks Query.still rest := by
  cases settles with
  | direct trusted decision => exact ⟨trusted, _, rfl, by simp [Query.still]⟩
  | unreviewed trusted => exact ⟨trusted, _, rfl, by simp [Query.still]⟩
  | reviewed trusted reviewer classified => exact ⟨trusted, _, rfl, by simp [Query.still]⟩

theorem decideAct_takes_up {trace : List PortEvent}
    {outcome : Except AppError Act} (run : Runs (decideAct core runId call) trace outcome) :
    ∃ trusted rest, trace = ⟨.isTrusted (serverKey call), trusted⟩ :: rest ∧
      OnlyAsks Query.still rest := by
  rcases runs_bind_iff.mp run with ⟨error, -, failed⟩ | ⟨decision, before, after, rfl, head, tail⟩
  · obtain ⟨_, impossible, -⟩ := runs_settleDecision failed
    cases impossible
  obtain ⟨_, -, settles⟩ := runs_settleDecision head
  obtain ⟨trusted, rest, rfl, still⟩ := settles.takes_up
  have gate : Asks Query.still (askGate runId call) := .bind (.attempt rfl) fun _ => .pure _
  have later : OnlyAsks Query.still after := by
    cases decision with
    | auto => exact Asks.pure _ _ _ tail
    | prompt | review => exact gate _ _ tail
    | deny => exact Asks.pure _ _ _ tail
  exact ⟨trusted, rest ++ after, rfl, onlyAsks_append_iff.mpr ⟨still, later⟩⟩

theorem recordExecuted_journals {result : ToolResult}
    {round : RoundState} {trace : List PortEvent} {outcome : Except AppError RoundState}
    (run : Runs (recordExecuted runId key call result round) trace outcome) :
    ∃ answer rest, trace = ⟨.journalToolCall runId ⟨key, call, result⟩, answer⟩ :: rest ∧
      OnlyAsks Query.still rest := by
  rcases runs_attempt_bind_iff.mp run with
    ⟨answer, error, -, rfl, -⟩ | ⟨answer, _, tail, -, rfl, rest⟩
  · exact ⟨answer, [], rfl, onlyAsks_nil⟩
  · have records : Asks Query.still _ :=
      .bind (appendResult_still runId call result round.events) fun events => .pure { round with
        events := events
        executed := round.executed + 1
        terminalCount := round.terminalCount + if result.terminal then 1 else 0 }
    exact ⟨answer, tail, rfl, records _ _ rest⟩

theorem runCall_executes (iteration ordinal : Nat) (call : ToolCall) (round : RoundState) :
    Meets (runCall core request scope iteration ordinal call round) fun trace _ =>
      ∃ places, ExecutesAt request.runId ⟨iteration, ordinal⟩ trace places
          ⟨iteration, ordinal + 1⟩ ∧ (places = [] ∨ places = [⟨iteration, ordinal⟩]) := by
  intro trace outcome run
  unfold runCall at run
  cases named : CoreTool.fromName call.name with
  | some tool =>
    rw [named] at run
    obtain ⟨result, _, rfl, record⟩ := runs_perform_bind_iff.mp run
    obtain ⟨answer, rest, rfl, still⟩ := recordExecuted_journals record
    have isCore : (CoreTool.fromName call.name).isSome = true := by rw [named]; rfl
    have takenUp : ExecutesAt request.runId ⟨iteration, ordinal⟩
        [⟨.handleCoreTool tool call scope request.runId request.userId, result⟩] []
        ⟨iteration, ordinal + 1⟩ := executesAt_move rfl
    have key : executionKey? ⟨.journalToolCall request.runId
        ⟨idempotencyKey request.runId iteration ordinal, call, result⟩, answer⟩ =
      some (idempotencyKey request.runId iteration ordinal) := if_pos isCore
    have journaled := (executesAt_execution key rfl).append (executesAt_of_still still)
    exact ⟨_, takenUp.append journaled, Or.inr rfl⟩
  | none =>
    rw [named] at run
    have takenUp : ∀ trusted, ExecutesAt request.runId ⟨iteration, ordinal⟩
        [⟨.isTrusted (serverKey call), trusted⟩] [] ⟨iteration, ordinal + 1⟩ :=
      fun _ => executesAt_move rfl
    rcases runs_bind_iff.mp run with ⟨error, -, failed⟩ | ⟨act, before, after, rfl, head, rest⟩
    · obtain ⟨trusted, rest, rfl, still⟩ := decideAct_takes_up failed
      exact ⟨_, (takenUp trusted).append (executesAt_of_still still), Or.inl rfl⟩
    obtain ⟨trusted, decided, rfl, still⟩ := decideAct_takes_up head
    have decision := (takenUp trusted).append (executesAt_of_still still)
    cases act with
    | suspend ticket =>
      have quiet : Asks Query.still _ :=
        .bind (pushEmit_still round.events (.gateOpened ticket)) fun events =>
          .pure { round with events := events, suspended := true }
      exact ⟨_, decision.append (executesAt_of_still (quiet _ _ rest)), Or.inl rfl⟩
    | deny reason =>
      have quiet : Asks Query.still _ :=
        .bind (appendResult_still request.runId call (errorToolResult reason) round.events)
          fun events =>
          .pure { round with events := events }
      exact ⟨_, decision.append (executesAt_of_still (quiet _ _ rest)), Or.inl rfl⟩
    | execute =>
      obtain ⟨result, _, rfl, record⟩ := runs_perform_bind_iff.mp rest
      obtain ⟨answer, rest, rfl, still⟩ := recordExecuted_journals record
      have isTool : ¬(CoreTool.fromName call.name).isSome = true := by simp [named]
      have silent : executionKey? ⟨.journalToolCall request.runId ⟨idempotencyKey request.runId
          iteration ordinal, call, resultOfCall result⟩, answer⟩ = none := if_neg isTool
      have executed : ExecutesAt request.runId ⟨iteration, ordinal + 1⟩
          [⟨.callTool request.runId call (idempotencyKey request.runId iteration ordinal), result⟩]
          [⟨iteration, ordinal⟩] ⟨iteration, ordinal + 1⟩ := executesAt_execution rfl rfl
      exact ⟨_, decision.append (executed.append
        ((executesAt_move silent).append (executesAt_of_still still))), Or.inr rfl⟩

/-- **A round** executes at rising places. -/
theorem runCalls_executes (iteration : Nat) (calls : List ToolCall) :
    ∀ ordinal round, Meets (runCalls core request scope iteration ordinal calls round)
      fun trace _ => ∃ places last, ExecutesAt request.runId ⟨iteration, ordinal⟩ trace places
        ⟨iteration, last⟩ ∧ Rising iteration ordinal places := by
  induction calls with
  | nil =>
    intro ordinal round trace outcome run
    obtain ⟨rfl, -⟩ := runs_pure_iff.mp run
    exact ⟨[], ordinal, executesAt_nil, rising_nil⟩
  | cons call rest ih =>
    intro ordinal round trace outcome run
    have single : ∀ {places : List Place}, places = [] ∨ places = [⟨iteration, ordinal⟩] →
        Rising iteration ordinal places := by
      rintro places (rfl | rfl)
      · exact rising_nil
      · exact ⟨List.pairwise_singleton _ _, by simp⟩
    rcases runs_bind_iff.mp run with ⟨error, -, failed⟩ | ⟨round', before, after, rfl, head, tail⟩
    · obtain ⟨places, executes, one⟩ := runCall_executes _ _ _ _ _ _ failed
      exact ⟨places, ordinal + 1, executes, single one⟩
    · obtain ⟨places, executes, one⟩ := runCall_executes _ _ _ _ _ _ head
      obtain ⟨places', last, executes', rising⟩ := ih _ _ _ _ tail
      refine ⟨places ++ places', last, executes.append executes', ?_, ?_⟩
      · refine List.pairwise_append.mpr ⟨(single one).1, rising.1, ?_⟩
        intro place member place' member'
        obtain ⟨same, later⟩ := rising.2 place' member'
        rcases one with rfl | rfl
        · cases member
        · rw [List.mem_singleton.mp member]
          exact Or.inr ⟨same.symm, later⟩
      · intro place member
        rcases List.mem_append.mp member with member | member
        · exact (single one).2 place member
        · obtain ⟨same, later⟩ := rising.2 place member
          exact ⟨same, Nat.le_of_succ_le later⟩

end Rounds

/-! ### One pass -/

def PassPlaces (runId : Uuid) (cursor : Cursor) (iteration : Nat) (trace : List PortEvent)
    (outcome : Except AppError Pass) : Prop :=
  ∃ places last, ExecutesAt runId cursor trace places last ∧ Rising iteration 0 places ∧
    ∀ state', outcome = .ok (.again state') → last.iteration = iteration

section Pass

variable {core : AgentCore} {request : AgentTurnRequest} {extensions : List Extension}
  {scope : ToolScope} {runId : Uuid} {cursor : Cursor} {iteration : Nat}

theorem passPlaces_bind {α : Type} {first : AgentM α} {rest : α → AgentM Pass}
    (still : Asks Query.still first)
    (places : ∀ value, Meets (rest value) (PassPlaces runId cursor iteration)) :
    Meets (first >>= rest) (PassPlaces runId cursor iteration) := by
  intro trace outcome run
  rcases runs_bind_iff.mp run with ⟨error, rfl, failed⟩ | ⟨value, before, after, rfl, head, tail⟩
  · exact ⟨[], cursor, executesAt_of_still (still _ _ failed), rising_nil, nofun⟩
  · obtain ⟨places, last, executes, rising, again⟩ := places value _ _ tail
    exact ⟨places, last, (executesAt_of_still (still _ _ head)).append executes, rising, again⟩

theorem stopWith_places (events : List AgentEvent) (reason : StopReason) :
    Meets (stopWith events reason) (PassPlaces runId cursor iteration) := by
  intro trace outcome run
  obtain ⟨-, ends⟩ := runs_stopWith_ends run
  exact ⟨[], cursor, executesAt_of_still (stopWith_still _ _ _ _ run), rising_nil,
    fun state' same => absurd same (ends state')⟩

theorem Query.still_of_isAfterRound (query : Query) (hook : query.isAfterRound = true) :
    query.still = true := by
  cases query with
  | afterRound => rfl
  | _ => cases hook

theorem postRound_still (extensions : List Extension) (message : ChatMessage) (fromModel : Bool) :
    Asks Query.still (postRound extensions message fromModel) :=
  (postRound_asks extensions message fromModel).mono Query.still_of_isAfterRound

theorem react_places (state : LoopState) (message : ChatMessage) (fromModel : Bool)
    (tokens : Nat) : Meets (react core request extensions scope state message fromModel tokens)
      (PassPlaces request.runId ⟨state.iteration, 0⟩ state.iteration) := by
  refine passPlaces_bind (postRound_still _ _ _) fun ended => ?_
  refine Meets.ite (stopWith_places _ _) (Meets.ite (stopWith_places _ _) ?_)
  refine passPlaces_bind (.perform rfl) fun cancelled => ?_
  split
  · exact passPlaces_bind (refuseCalls_still _ _ _) fun events => stopWith_places _ _
  · intro trace outcome run
    rcases runs_bind_iff.mp run with ⟨error, rfl, failed⟩ | ⟨round, one, two, rfl, calls, finish⟩
    · obtain ⟨places, last, executes, rising⟩ := runCalls_executes _ _ _ _ _ _ failed
      exact ⟨places, _, executes, rising, nofun⟩
    · obtain ⟨places, last, executes, rising⟩ := runCalls_executes _ _ _ _ _ _ calls
      have whole := executes.append (executesAt_of_still (finishRound_still _ _ _ _ finish))
      rw [List.append_nil] at whole
      exact ⟨places, _, whole, rising, fun _ _ => rfl⟩

theorem answer_places (state : LoopState) (resumed : Option ChatMessage) (sent : ChatRequest) :
    Meets (answer core request extensions scope state resumed sent)
      (PassPlaces request.runId ⟨state.iteration, 0⟩ state.iteration) := by
  cases resumed with
  | some message => exact react_places _ _ _ _
  | none =>
    refine passPlaces_bind (.perform rfl) fun call => ?_
    cases call with
    | cancelled => exact stopWith_places _ _
    | finished result =>
      cases result with
      | error error =>
        intro trace outcome run
        cases run
        exact ⟨[], _, executesAt_nil, rising_nil, nofun⟩
      | ok reply =>
        show Meets (receive core request extensions scope state reply) _
        refine passPlaces_bind (.attempt rfl) fun _ => passPlaces_bind (.perform rfl) fun _ => ?_
        exact passPlaces_bind (.perform rfl) fun _ =>
          react_places (state.received reply) reply.message true reply.usage.totalTokens

theorem Query.still_of_ofContext (query : Query) (context : query.ofContext = true) :
    query.still = true := by
  cases query with
  | takePending | transcriptAppend | contribute | beforeModel => rfl
  | _ => cases context

theorem drainSteerNotes_still (runId : Uuid) : Asks Query.still (drainSteerNotes core runId) :=
  drainSteerNotes_asks.mono Query.still_of_ofContext

theorem runContribute_still (extensions : List Extension) (context : TurnContext) :
    Asks Query.still (runContribute extensions context) :=
  (runContribute_asks extensions context).mono Query.still_of_ofContext

theorem runBeforeModel_still (extensions : List Extension) (request : ChatRequest) :
    Asks Query.still (runBeforeModel extensions request) :=
  (runBeforeModel_asks extensions request).mono Query.still_of_ofContext

/-- **A pass** moves to its number when it loads the transcript, and executes at its own places. -/
theorem pass_places (state : LoopState) (numbered : cursor.iteration + 1 = state.iteration) :
    Meets (pass core request extensions state)
      (PassPlaces request.runId cursor state.iteration) := by
  refine passPlaces_bind (.perform rfl) fun cancelled => Meets.ite (stopWith_places _ _) ?_
  split
  · exact stopWith_places _ _
  · refine passPlaces_bind (drainSteerNotes_still _) fun _ => ?_
    refine passPlaces_bind (runContribute_still _ _) fun context => ?_
    intro trace outcome run
    rcases runs_attempt_bind_iff.mp run with
      ⟨answer, error, -, rfl, rfl⟩ | ⟨answer, history, tail, -, rfl, rest⟩
    · exact ⟨[], _, executesAt_move rfl, rising_nil, nofun⟩
    have loads : ExecutesAt request.runId cursor [⟨.transcriptLoad request.runId, answer⟩] []
        ⟨state.iteration, 0⟩ := by
      rw [← numbered]
      exact executesAt_move rfl
    have later : PassPlaces request.runId ⟨state.iteration, 0⟩ state.iteration tail outcome := by
      revert rest
      refine passPlaces_bind (.attempt rfl) (fun tools => ?_) tail outcome
      refine passPlaces_bind (runBeforeModel_still _ _) fun vetted => ?_
      exact Meets.ite (stopWith_places _ _) (answer_places _ _ _)
    obtain ⟨places, last, executes, rising, again⟩ := later
    exact ⟨places, last, loads.append executes, rising, again⟩

end Pass

/-! ### A run, and the segments of a workflow run -/

section Runs

variable {core : AgentCore} {request : AgentTurnRequest} {extensions : List Extension}

theorem Laps.executes {state : LoopState} {laps : List Lap}
    (run : Laps core request extensions state laps outcome) :
    ∀ {cursor : Cursor}, cursor.iteration + 1 = state.iteration →
      ∃ places last, ExecutesAt request.runId cursor (lapsTrace laps) places last ∧
        places.Pairwise Place.Before ∧ ∀ place ∈ places, state.iteration ≤ place.iteration := by
  have one : ∀ {state : LoopState} {trace : List PortEvent} {outcome : Except AppError Pass}
      {cursor : Cursor}, PassPlaces request.runId cursor state.iteration trace outcome →
      ∃ places last, ExecutesAt request.runId cursor (lapsTrace [⟨state, trace⟩]) places last ∧
        places.Pairwise Place.Before ∧ ∀ place ∈ places, state.iteration ≤ place.iteration := by
    rintro state trace outcome cursor ⟨places, last, executes, rising, -⟩
    refine ⟨places, last, ?_, rising.1, fun place member => (rising.2 place member).1.ge⟩
    rw [show lapsTrace [⟨state, trace⟩] = trace from List.append_nil _]
    exact executes
  induction run with
  | stop ran => exact fun numbered => one (pass_places _ numbered _ _ ran)
  | fail ran => exact fun numbered => one (pass_places _ numbered _ _ ran)
  | @again state state' trace rest outcome ran _ ih =>
    intro cursor numbered
    obtain ⟨places, last, executes, rising, again⟩ := pass_places _ numbered _ _ ran
    have next := (pass_spends _ _ _ ran).again state' rfl
    have numbered' : last.iteration + 1 = state'.iteration := by rw [again state' rfl, next.1]
    obtain ⟨places', last', executes', pairwise, above⟩ := ih numbered'
    refine ⟨places ++ places', last', executes.append executes', ?_, fun place member => ?_⟩
    · refine List.pairwise_append.mpr ⟨rising.1, pairwise, ?_⟩
      intro place member place' member'
      have same := (rising.2 place member).1
      have later := above place' member'
      exact Or.inl (by omega)
    · rcases List.mem_append.mp member with member | member
      · exact (rising.2 place member).1.ge
      · have later := above place member
        omega

/-- Where a run stands before its first pass. -/
def startCursor (request : AgentTurnRequest) : Cursor := ⟨max request.startIteration 1 - 1, 0⟩

/-- **A run executes tools at rising places**, each under its place's key, however it ends. -/
theorem run_executes {trace : List PortEvent} (run : Runs (core.run request) trace outcome) :
    ∃ places last, ExecutesAt request.runId (startCursor request) trace places last ∧
      places.Pairwise Place.Before := by
  have seeds : Asks Query.still (seedTranscript request) := by
    unfold seedTranscript
    split
    · exact .attempt rfl
    · exact .pure _
  obtain ⟨seed, laps, passes, rfl⟩ := runs_run_laps run
  cases passes with
  | unseeded failed =>
    exact ⟨[], _, (executesAt_of_still (seeds _ _ failed)).append executesAt_nil, .nil⟩
  | seeded head looped =>
    have numbered : (startCursor request).iteration + 1 =
        (initialState core request).iteration := by
      show max request.startIteration 1 - 1 + 1 = max request.startIteration 1
      omega
    obtain ⟨places, last, executes, pairwise, -⟩ := looped.executes numbered
    exact ⟨places, last, (executesAt_of_still (seeds _ _ head)).append executes, pairwise⟩

end Runs

/-- A stretch of a workflow run: one call of the agent loop, to its end or to a crash. -/
structure Segment where
  core : AgentCore
  request : AgentTurnRequest
  events : List PortEvent

namespace Segment

def Ran (runId : Uuid) (segment : Segment) : Prop :=
  segment.request.runId = runId ∧ RunsPartly (segment.core.run segment.request) segment.events

def places (segment : Segment) : List Place :=
  placesFrom (startCursor segment.request) segment.events

/-- **Within a segment** each execution is given the key of its place, and no place comes twice. -/
theorem Ran.executes {runId : Uuid} (ran : segment.Ran runId) :
    executionKeys segment.events = segment.places.map (Place.key runId) ∧ segment.places.Nodup := by
  obtain ⟨same, rest, outcome, run⟩ := ran
  obtain ⟨places, last, executes, pairwise⟩ := run_executes run
  have keys := executes.keys
  rw [← executes.places] at keys pairwise
  rw [executionKeys_append, placesFrom_append, List.map_append] at keys
  rw [placesFrom_append] at pairwise
  have lengths : (executionKeys segment.events).length =
      (segment.places.map (Place.key segment.request.runId)).length := by
    rw [List.length_map]
    exact length_placesFrom.symm
  obtain ⟨head, -⟩ := List.append_inj keys lengths
  rw [same] at head
  exact ⟨head, (List.pairwise_append.mp pairwise).1.imp Place.Before.ne⟩

end Segment

end Ziee.Agent
