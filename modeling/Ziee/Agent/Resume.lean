/-
**Which suspended rounds a resume completes.**

A resume recognises the pending calls of a suspended run by the shape of the transcript: the last
message must be the assistant message that requests them (`lastPendingAssistant`).

* `firstPass` — the first iteration of a run, read off its trace; `LoopRun.firstPass` connects it
  to the loop.
* `resume_completes_iff` — **a resume hands exactly the pending calls on, with no model call, if
  and only if no call of the suspended round was answered** and nothing ends or rewrites its first
  iteration.
-/

import Ziee.Agent.Suspension

namespace Ziee.Agent

open PortProgram Ziee.Providers

variable {asked : Query → Bool} {events : List AgentEvent} {pending : List ToolCall}
  {transcript : List ChatMessage}

def Query.isCheck : Query → Bool
  | .isCancelled => true
  | _ => false

/-- The queries that neither steer a turn nor veto its call. -/
def Query.keepsGoing : Query → Bool
  | .takePending _ | .beforeModel _ _ => false
  | _ => true

/-- The events before the `n + 1`-st cancellation check. -/
def untilCheck : Nat → List PortEvent → List PortEvent
  | _, [] => []
  | n, event :: rest =>
    if event.1.isCheck then
      match n with
      | 0 => []
      | n + 1 => event :: untilCheck n rest
    else event :: untilCheck n rest

/-- The first iteration: a pass that is followed by another one checks for cancellation twice, at
its start and before its tool round. -/
def firstPass (trace : List PortEvent) : List PortEvent := untilCheck 2 trace

section Checks

variable {core : AgentCore} {request : AgentTurnRequest} {extensions : List Extension}
  {scope : ToolScope} {state : LoopState} {message : ChatMessage} {tokens : Nat}
  {trace after : List PortEvent} {result : Pass} {fromModel : Bool}

@[simp] theorem untilCheck_nil (n : Nat) : untilCheck n [] = [] := by
  cases n <;> rfl

@[simp] theorem untilCheck_succ_checked {n : Nat} {cancelled : Bool} :
    untilCheck (n + 1) (checked cancelled :: after) = checked cancelled :: untilCheck n after := rfl

theorem untilCheck_other {n : Nat} {event : PortEvent} (unchecked : event.1.isCheck = false) :
    untilCheck n (event :: after) = event :: untilCheck n after := by
  cases n <;> simp [untilCheck, unchecked]

theorem untilCheck_append (only : OnlyAsks asked trace)
    (other : asked .isCancelled = false) (n : Nat) :
    untilCheck n (trace ++ after) = trace ++ untilCheck n after := by
  induction trace with
  | nil => rfl
  | cons event rest ih =>
    obtain ⟨here, later⟩ := onlyAsks_cons_iff.mp only
    have unchecked : event.1.isCheck = false := by
      cases same : event.1 with
      | isCancelled =>
        rw [same, other] at here
        cases here
      | _ => rfl
    rw [List.cons_append, untilCheck_other unchecked, ih later]
    rfl

theorem untilCheck_self (only : OnlyAsks asked trace)
    (other : asked .isCancelled = false) (n : Nat) : untilCheck n trace = trace := by
  have whole : untilCheck n (trace ++ []) = trace ++ untilCheck n [] :=
    untilCheck_append only other n
  rwa [untilCheck_nil, List.append_nil] at whole

def FollowedBy (result : Pass) (after : List PortEvent) : Prop :=
  match result with
  | .stop _ => after = []
  | .again _ => ∃ cancelled rest, after = checked cancelled :: rest

theorem FollowedBy.untilCheck_zero (follows : FollowedBy result after) :
    untilCheck 0 after = [] := by
  cases result with
  | stop events =>
    cases follows
    rfl
  | again state =>
    obtain ⟨cancelled, rest, rfl⟩ := follows
    rfl

theorem ReactRun.untilCheck
    (run : ReactRun core request scope state message fromModel tokens trace result)
    (follows : FollowedBy result after) : untilCheck 1 (trace ++ after) = trace := by
  have hooks : ∀ answers : List (Extension × Flow),
      OnlyAsks Query.isAfterRound (answers.map (hookAnswered message)) := fun _ =>
    onlyAsks_hooks fun _ => rfl
  have stopped : ∀ reason, OnlyAsks Query.ofRecord [emitted (.stopped reason)] := fun _ =>
    onlyAsks_cons_iff.mpr ⟨rfl, onlyAsks_nil⟩
  cases run with
  | shortCircuited answers =>
    cases follows
    rw [List.append_nil, untilCheck_append (hooks answers) rfl]
    rfl
  | finalAnswer answers =>
    cases follows
    rw [List.append_nil, untilCheck_append (hooks answers) rfl]
    rfl
  | refused answers cancelled reason =>
    cases follows
    rw [List.append_nil, untilCheck_append (hooks answers) rfl, untilCheck_succ_checked]
    rw [untilCheck_self (onlyAsks_append_iff.mpr ⟨onlyAsks_refuseTrace, stopped reason⟩) rfl]
  | ran answers records _ _ _ _ round =>
    rw [List.append_assoc, untilCheck_append (hooks answers) rfl, List.cons_append,
      untilCheck_succ_checked, untilCheck_append (onlyAsks_append_iff.mpr
        ⟨round.asks, onlyAsks_finishTrace.mono Query.ofRound_of_ofRecord⟩) rfl,
      follows.untilCheck_zero, List.append_nil]

theorem PassRun.firstPass (run : PassRun core request extensions state trace result)
    (follows : FollowedBy result after) : firstPass (trace ++ after) = trace := by
  unfold Ziee.Agent.firstPass
  cases run with
  | cancelled =>
    cases follows
    rfl
  | overBudget reason =>
    cases follows
    rfl
  | vetoed prelude _ ran =>
    cases follows
    rw [List.append_nil, List.cons_append, untilCheck_succ_checked, untilCheck_append ran.asks rfl]
    rfl
  | resumed prelude message _ ran _ _ react =>
    rw [List.cons_append, List.cons_append, untilCheck_succ_checked, List.append_assoc,
      untilCheck_append ran.asks rfl, react.untilCheck follows]
  | modelCancelled prelude _ ran =>
    cases follows
    rw [List.append_nil, List.cons_append, untilCheck_succ_checked, untilCheck_append ran.asks rfl]
    rfl
  | replied prelude reply _ ran _ _ react =>
    have received : OnlyAsks (fun query => match query with
        | .callModel _ | .transcriptAppend _ _ | .emit _ => true | _ => false)
        (receiveTrace request.runId prelude.sent reply) := by
      simp only [receiveTrace, onlyAsks_cons_iff]
      exact ⟨rfl, rfl, rfl, rfl, onlyAsks_nil⟩
    rw [List.cons_append, List.cons_append, List.cons_append, untilCheck_succ_checked,
      List.append_assoc, List.append_assoc, untilCheck_append ran.asks rfl,
      untilCheck_append received rfl, react.untilCheck follows, List.append_assoc]

theorem PassRun.starts (run : PassRun core request extensions state trace result) :
    ∃ cancelled rest, trace = checked cancelled :: rest := by
  cases run with
  | cancelled => exact ⟨true, _, rfl⟩
  | overBudget | vetoed | resumed | modelCancelled | replied => exact ⟨false, _, rfl⟩

theorem LoopRun.starts (run : LoopRun core request extensions state trace events) :
    ∃ cancelled rest, trace = checked cancelled :: rest := by
  cases run with
  | stop one => exact one.starts
  | again one =>
    obtain ⟨cancelled, rest, rfl⟩ := one.starts
    exact ⟨cancelled, _, rfl⟩

theorem LoopRun.firstPass (run : LoopRun core request extensions state trace events) :
    ∃ result rest, PassRun core request extensions state (Ziee.Agent.firstPass trace) result ∧
      trace = Ziee.Agent.firstPass trace ++ rest := by
  cases run with
  | stop one =>
    have first := one.firstPass (rfl : FollowedBy (.stop _) [])
    rw [List.append_nil] at first
    rw [first]
    exact ⟨_, [], one, (List.append_nil _).symm⟩
  | again one rest =>
    have first := one.firstPass rest.starts
    rw [first]
    exact ⟨_, _, one, rfl⟩

end Checks

/-! ### What an iteration hands on -/

/-- **The iteration completes the pending calls**: each of them is decided on exactly once, only
they reach the gate or the tool provider, and the model is not called. -/
structure Completes (pending : List ToolCall) (first : List PortEvent) : Prop where
  decided : first.filterMap decidedCall? = pending
  handed : ∀ call ∈ first.filterMap handedCall?, call ∈ pending
  unasked : first.filterMap modelCall? = []

section Handed

variable {core : AgentCore} {request : AgentTurnRequest} {scope : ToolScope} {call : ToolCall}
  {trace : List PortEvent}

theorem Decides.decided {runId : Uuid} {act : Act} (decides : Decides core runId call trace act) :
    trace.filterMap decidedCall? = [call] ∧
      ∀ other ∈ trace.filterMap handedCall?, other = call := by
  cases decides with
  | auto settles =>
    rw [settles.decided.2]
    exact ⟨settles.decided.1, nofun⟩
  | denied settles =>
    rw [settles.decided.2]
    exact ⟨settles.decided.1, nofun⟩
  | asked outcome settles =>
    rw [List.filterMap_append, List.filterMap_append, settles.decided.1, settles.decided.2]
    exact ⟨rfl, fun other member => List.mem_singleton.mp member⟩

theorem CallRun.decided {key : IdempotencyKey} {ended : CallEnd}
    (run : CallRun core request scope key call trace ended)
    (named : CoreTool.fromName call.name = none) : trace.filterMap decidedCall? = [call] ∧
      ∀ other ∈ trace.filterMap handedCall?, other = call := by
  cases run with
  | coreTool tool result found =>
    rw [named] at found
    cases found
  | suspended ticket _ decides =>
    rw [List.filterMap_append, List.filterMap_append, decides.decided.1]
    refine ⟨rfl, fun other member => ?_⟩
    rcases List.mem_append.mp member with member | member
    · exact decides.decided.2 other member
    · cases member
  | denied reason _ decides =>
    rw [List.filterMap_append, List.filterMap_append, decides.decided.1]
    refine ⟨rfl, fun other member => ?_⟩
    rcases List.mem_append.mp member with member | member
    · exact decides.decided.2 other member
    · cases member
  | executed result _ decides =>
    rw [List.filterMap_append, List.filterMap_append, decides.decided.1]
    refine ⟨rfl, fun other member => ?_⟩
    rcases List.mem_append.mp member with member | member
    · exact decides.decided.2 other member
    · exact List.mem_singleton.mp member

/-- **A round without core tools** decides on each of its calls once, in order. -/
theorem RoundRun.decided {iteration ordinal : Nat} {records : List CallRecord}
    (run : RoundRun core request scope iteration ordinal records)
    (named : ∀ call ∈ records.map CallRecord.call, CoreTool.fromName call.name = none) :
    (roundTrace records).filterMap decidedCall? = records.map CallRecord.call ∧
      ∀ call ∈ (roundTrace records).filterMap handedCall?, call ∈ records.map CallRecord.call := by
  induction run with
  | nil => exact ⟨rfl, nofun⟩
  | @cons ordinal record rest one _ ih =>
    rw [List.map_cons, List.forall_mem_cons] at named
    obtain ⟨decided, handed⟩ := ih named.2
    have here := one.decided named.1
    show (record.trace ++ roundTrace rest).filterMap decidedCall? = _ ∧
      ∀ call ∈ (record.trace ++ roundTrace rest).filterMap handedCall?, _
    rw [List.filterMap_append, List.filterMap_append, here.1, decided]
    refine ⟨rfl, fun other member => ?_⟩
    rcases List.mem_append.mp member with member | member
    · rw [here.2 other member]
      exact List.mem_cons_self
    · exact List.mem_cons_of_mem _ (handed other member)

theorem OnlyAsks.completes_nil (only : OnlyAsks asked trace)
    (decide : ∀ call trusted sandbox, asked (.decide call trusted sandbox) = false)
    (gate : ∀ runId ask, asked (.gateRequest runId ask) = false)
    (tool : ∀ runId call key, asked (.callTool runId call key) = false)
    (model : ∀ sent, asked (.callModel sent) = false) : Completes [] trace := by
  have none : ∀ event ∈ trace, decidedCall? event = none ∧ handedCall? event = none ∧
      modelCall? event = none := by
    rintro ⟨query, answer⟩ member
    cases query with
    | decide call trusted sandbox =>
      exact absurd member (only.not_mem (decide call trusted sandbox))
    | gateRequest runId ask => exact absurd member (only.not_mem (gate runId ask))
    | callTool runId call key => exact absurd member (only.not_mem (tool runId call key))
    | callModel sent => exact absurd member (only.not_mem (model sent))
    | _ => exact ⟨rfl, rfl, rfl⟩
  refine ⟨List.filterMap_eq_nil_iff.mpr fun event member => (none event member).1, ?_,
    List.filterMap_eq_nil_iff.mpr fun event member => (none event member).2.2⟩
  rw [List.filterMap_eq_nil_iff.mpr fun event member => (none event member).2.1]
  exact nofun

theorem Completes.append {before after : List PortEvent} {pending' : List ToolCall}
    (first : Completes pending before) (second : Completes pending' after) :
    Completes (pending ++ pending') (before ++ after) := by
  refine ⟨?_, fun call member => ?_, ?_⟩
  · rw [List.filterMap_append, first.decided, second.decided]
  · rw [List.filterMap_append] at member
    rcases List.mem_append.mp member with member | member
    · exact List.mem_append_left _ (first.handed call member)
    · exact List.mem_append_right _ (second.handed call member)
  · rw [List.filterMap_append, first.unasked, second.unasked, List.nil_append]

theorem Completes.append_iff {before after : List PortEvent}
    (first : Completes [] before) : Completes pending (before ++ after) ↔
      Completes pending after := by
  refine ⟨fun whole => ⟨?_, fun call member => whole.handed call ?_, ?_⟩, first.append⟩
  · rw [← whole.decided, List.filterMap_append, first.decided, List.nil_append]
  · rw [List.filterMap_append]
    exact List.mem_append_right _ member
  · have unasked := whole.unasked
    rw [List.filterMap_append, List.append_eq_nil_iff] at unasked
    exact unasked.2

theorem Completes.checked {cancelled : Bool} : Completes [] [checked cancelled] :=
  ⟨rfl, nofun, rfl⟩

theorem OnlyAsks.ofRecord_completes (only : OnlyAsks Query.ofRecord trace) : Completes [] trace :=
  only.completes_nil (fun _ _ _ => rfl) (fun _ _ => rfl) (fun _ _ _ => rfl) fun _ => rfl

theorem RoundRun.completes {iteration ordinal : Nat} {records : List CallRecord}
    (run : RoundRun core request scope iteration ordinal records)
    (named : ∀ call ∈ records.map CallRecord.call, CoreTool.fromName call.name = none) :
    Completes (records.map CallRecord.call) (roundTrace records) := by
  obtain ⟨decided, handed⟩ := run.decided named
  refine ⟨decided, handed, List.filterMap_eq_nil_iff.mpr ?_⟩
  rintro ⟨query, answer⟩ member
  cases query with
  | callModel sent => exact absurd member (run.asks.not_mem rfl)
  | _ => rfl

end Handed

/-! ### Resuming -/

/-- What the first iteration of a resume must not meet: an exhausted budget, a cancellation, a
steering note, or an extension that vetoes the model call. -/
structure Undisturbed (core : AgentCore) (request : AgentTurnRequest) (first : List PortEvent) :
    Prop where
  steps : max request.startIteration 1 < core.budget.maxSteps
  tokens : core.budget.runTokens ≤ core.budget.perRunTokenCap
  uncancelled : checked true ∉ first
  unsteered : ∀ runId notes, drained runId notes ∈ first → notes = []
  unvetoed : ∀ extension request request', vetted extension request request' .shortCircuit ∉ first

def Reads (transcript : List ChatMessage) (trace : List PortEvent) : Prop :=
  ∀ before runId history after, trace = before ++ loaded runId history :: after →
    OnlyAsks (fun query => match query with | .transcriptLoad _ => false | _ => true) before →
    history = transcript ++ appendedMessages before

section Resuming

variable {core : AgentCore} {request : AgentTurnRequest} {extensions : List Extension}
  {state : LoopState} {trace : List PortEvent} {result : Pass} {round : OpenRound}
  {records : List CallRecord} {earlier : List ChatMessage} {prelude : Prelude}

theorem lastPendingAssistant_round (suspended : SuspendedRound round records)
    {notes : List ChatMessage} (roles : ∀ message ∈ notes, message.role = .user) :
    (lastPendingAssistant (earlier ++ round.message :: round.results ++ notes) =
        some round.message ∧ round.results = [] ∧ notes = []) ∨
      (lastPendingAssistant (earlier ++ round.message :: round.results ++ notes) = none ∧
        ¬ (round.results = [] ∧ notes = [])) := by
  have other : ∀ {before : List ChatMessage} {last : ChatMessage}, last.role ≠ .assistant →
      lastPendingAssistant (before ++ [last]) = none := by
    intro before last role
    unfold lastPendingAssistant
    rw [List.getLast?_concat]
    exact if_neg fun pending => role pending.1
  rcases List.eq_nil_or_concat' notes with rfl | ⟨before, last, rfl⟩
  · rcases List.eq_nil_or_concat' round.results with none | ⟨before, last, same⟩
    · refine Or.inl ⟨?_, none, rfl⟩
      have calls : round.message.toolUseIds ≠ [] := by
        rw [ne_eq, ← extractToolCalls_eq_nil_iff, ← suspended.calls]
        obtain ⟨record, member, -⟩ := suspended.suspended
        exact fun empty => by simp_all
      unfold lastPendingAssistant
      rw [none, List.append_nil, List.getLast?_concat]
      exact if_pos ⟨suspended.role, (ChatMessage.any_isToolUse_iff _).mpr calls⟩
    · have tool : last.role = .tool := by
        have member : last ∈ round.results := same ▸ List.mem_concat_self
        rw [suspended.results] at member
        exact role_of_mem_results member
      refine Or.inr ⟨?_, fun empty => ?_⟩
      · rw [same, List.append_nil, ← List.cons_append, ← List.append_assoc]
        exact other (by rw [tool]; exact nofun)
      · rw [same] at empty
        exact absurd empty.1 (by simp)
  · refine Or.inr ⟨?_, fun empty => absurd empty.2 (by simp)⟩
    rw [← List.append_assoc]
    exact other (by rw [roles last List.mem_concat_self]; exact nofun)

theorem Prelude.Run.history_eq (ran : prelude.Run core request extensions) {after : List PortEvent}
    (reads : Reads transcript (checked false :: prelude.trace core request.runId ++ after)) :
    prelude.history = transcript ++ prelude.steering core := by
  have loads := reads
    (checked false :: (steerTrace core request.runId prelude.notes ++ prelude.contributeTrace))
    request.runId prelude.history
    (listed prelude.context.toolScope prelude.tools :: prelude.beforeModelTrace ++ after)
    (by simp [Prelude.trace]) ?_
  · rw [appendedMessages_checked, appendedMessages_append, appendedMessages_steerTrace,
      ran.contributes.appends, List.append_nil] at loads
    exact loads
  · exact onlyAsks_cons_iff.mpr ⟨rfl, onlyAsks_append_iff.mpr
      ⟨onlyAsks_steerTrace (fun _ => rfl) fun _ _ => rfl, ran.contributes.asks fun _ _ => rfl⟩⟩

theorem Prelude.Run.unsteered_iff (ran : prelude.Run core request extensions) :
    (∀ runId notes, drained runId notes ∈ checked false :: prelude.trace core request.runId →
      notes = []) ↔ prelude.steering core = [] := by
  unfold Prelude.steering
  cases wired : core.steer with
  | false =>
    refine iff_of_true (fun runId notes member => ?_) rfl
    have only : OnlyAsks (fun query => match query with | .takePending _ => false | _ => true)
        (checked false :: prelude.trace core request.runId) := by
      unfold Prelude.trace steerTrace
      rw [wired, onlyAsks_cons_iff, onlyAsks_append_iff, onlyAsks_append_iff, onlyAsks_cons_iff,
        onlyAsks_cons_iff]
      exact ⟨rfl, ⟨onlyAsks_nil, ran.contributes.asks fun _ _ => rfl⟩, rfl, rfl,
        ran.vets.asks fun _ _ => rfl⟩
    exact absurd member (only.not_mem rfl)
  | true =>
    rw [if_pos rfl, List.map_eq_nil_iff]
    have first : drained request.runId prelude.notes ∈
        checked false :: prelude.trace core request.runId := by
      refine List.mem_cons_of_mem _ ?_
      simp [Prelude.trace, steerTrace, wired]
    refine ⟨fun unsteered => unsteered _ _ first, fun none runId notes member => ?_⟩
    have only : OnlyAsks (fun query => match query with | .takePending _ => false | _ => true)
        (prelude.contributeTrace ++ loaded request.runId prelude.history ::
          listed prelude.context.toolScope prelude.tools :: prelude.beforeModelTrace) := by
      rw [onlyAsks_append_iff, onlyAsks_cons_iff, onlyAsks_cons_iff]
      exact ⟨ran.contributes.asks fun _ _ => rfl, rfl, rfl, ran.vets.asks fun _ _ => rfl⟩
    unfold Prelude.trace steerTrace at member
    rw [wired, if_pos rfl, none, List.append_assoc] at member
    rcases List.mem_cons.mp member with same | member
    · cases same
    · rcases List.mem_append.mp member with member | member
      · cases List.mem_singleton.mp member
        rfl
      · exact absurd member (only.not_mem rfl)

theorem BeforeModelRun.shortCircuit_iff {request last : ChatRequest} {flow : Flow}
    (run : BeforeModelRun extensions request trace last flow) :
    (∀ extension request request', vetted extension request request' .shortCircuit ∉ trace) ↔
      flow = .continue := by
  induction run with
  | nil => exact iff_of_true (fun _ _ _ => nofun) rfl
  | shortCircuit => exact iff_of_false (fun none => none _ _ _ List.mem_cons_self) nofun
  | cons _ ih =>
    rw [← ih]
    refine ⟨fun none extension request request' member =>
      none extension request request' (List.mem_cons_of_mem _ member),
      fun none extension request request' member => ?_⟩
    rcases List.mem_cons.mp member with same | member
    · cases same
    · exact none extension request request' member

theorem Prelude.Run.unvetoed_iff (ran : prelude.Run core request extensions) :
    (∀ extension request' request'', vetted extension request' request'' .shortCircuit ∉
      checked false :: prelude.trace core request.runId) ↔ prelude.flow = .continue := by
  rw [← ran.vets.shortCircuit_iff]
  refine ⟨fun none extension request' request'' member => none extension request' request'' ?_,
    fun none extension request' request'' member => none extension request' request'' ?_⟩
  · exact List.mem_cons_of_mem _ (List.mem_append_right _
      (List.mem_cons_of_mem _ (List.mem_cons_of_mem _ member)))
  · have only : OnlyAsks (fun query => match query with | .beforeModel _ _ => false | _ => true)
        (checked false :: (steerTrace core request.runId prelude.notes ++
          prelude.contributeTrace)) := by
      rw [onlyAsks_cons_iff, onlyAsks_append_iff]
      exact ⟨rfl, onlyAsks_steerTrace (fun _ => rfl) fun _ _ => rfl,
        ran.contributes.asks fun _ _ => rfl⟩
    unfold Prelude.trace at member
    rw [← List.cons_append] at member
    rcases List.mem_append.mp member with member | member
    · exact absurd member (only.not_mem rfl)
    · rcases List.mem_cons.mp member with same | member
      · cases same
      · rcases List.mem_cons.mp member with same | member
        · cases same
        · exact member

theorem Prelude.Run.completes_nil (ran : prelude.Run core request extensions)
    {cancelled : Bool} : Completes [] (checked cancelled :: prelude.trace core request.runId) :=
  Completes.checked.append
    (ran.asks.completes_nil (fun _ _ _ => rfl) (fun _ _ => rfl) (fun _ _ _ => rfl) fun _ => rfl)

theorem Completes.ne_nil (completes : Completes [] trace)
    (left : pending ≠ []) : ¬ Completes pending trace := fun other =>
  left (by rw [← other.decided, completes.decided])

theorem Reads.left {after : List PortEvent}
    (reads : Reads transcript (trace ++ after)) : Reads transcript trace := by
  intro before runId history rest split only
  refine reads before runId history (rest ++ after) ?_ only
  rw [split, List.append_assoc]
  rfl

/-- **The tool round of a resume** completes the pending calls unless it is refused. -/
theorem ReactRun.completes_iff {scope : ToolScope} {message : ChatMessage}
    (run : ReactRun core request scope state message false 0 trace result)
    (within : state.budget.stopBefore state.iteration = none)
    (calls : extractToolCalls message ≠ [])
    (named : ∀ call ∈ extractToolCalls message, CoreTool.fromName call.name = none) :
    (Completes (extractToolCalls message) trace ↔
      state.iteration < state.budget.maxSteps ∧ checked true ∉ trace) := by
  obtain ⟨-, tokens⟩ := Budget.stopBefore_eq_none_iff.mp within
  cases run with
  | shortCircuited answers model => cases model
  | finalAnswer answers _ final => exact absurd final calls
  | refused answers cancelled reason goes _ stops =>
    cases goes.1 rfl
    refine iff_of_false ?_ fun undisturbed => ?_
    · exact Completes.ne_nil (Completes.checked.append (onlyAsks_append_iff.mpr
        ⟨onlyAsks_refuseTrace, onlyAsks_cons_iff.mpr ⟨rfl, onlyAsks_nil⟩⟩).ofRecord_completes) calls
    · obtain ⟨below, uncancelled⟩ := undisturbed
      have going : cancelled = false := by
        cases cancelled with
        | false => rfl
        | true => exact absurd List.mem_cons_self uncancelled
      rw [going] at stops
      simp only [stopAfter, Budget.stepOverCap, Bool.false_eq_true, if_false,
        if_neg (Nat.not_lt.mpr tokens), gt_iff_lt, Nat.not_lt_zero, decide_false,
        ge_iff_le, if_neg (Nat.not_le.mpr below)] at stops
      cases stops
  | ran answers records goes _ stops same round =>
    cases goes.1 rfl
    have completes := round.completes (by rw [same]; exact named)
    rw [same] at completes
    refine iff_of_true ?_ ⟨stopAfter_none stops, fun member => ?_⟩
    · have checks : Completes [] [checked false] := Completes.checked
      have finish : Completes [] (finishTrace (RoundState.afterAll ⟨state.events, false, 0, 0⟩
          records)) := onlyAsks_finishTrace.ofRecord_completes
      have whole := checks.append (completes.append finish)
      rwa [List.append_nil] at whole
    · rcases List.mem_cons.mp member with impossible | member
      · cases impossible
      · rcases List.mem_append.mp member with member | member
        · exact absurd member (round.asks.not_mem rfl)
        · exact absurd member (onlyAsks_finishTrace.not_mem rfl)

theorem Prelude.Run.undisturbed_iff (ran : prelude.Run core request extensions)
    {after : List PortEvent} (only : OnlyAsks asked after)
    (take : ∀ runId, asked (.takePending runId) = false)
    (before : ∀ extension request, asked (.beforeModel extension request) = false) :
    Undisturbed core request (checked false :: prelude.trace core request.runId ++ after) ↔
      (max request.startIteration 1 < core.budget.maxSteps ∧
        core.budget.runTokens ≤ core.budget.perRunTokenCap) ∧
      checked true ∉ after ∧ prelude.steering core = [] ∧ prelude.flow = .continue := by
  rw [← ran.unsteered_iff, ← ran.unvetoed_iff]
  have uncancelled : checked true ∉ checked false :: prelude.trace core request.runId := by
    refine fun member => ?_
    rcases List.mem_cons.mp member with impossible | member
    · cases impossible
    · exact absurd member (ran.asks.not_mem rfl)
  constructor
  · rintro ⟨steps, tokens, unchecked, unsteered, unvetoed⟩
    exact ⟨⟨steps, tokens⟩, fun member => unchecked (List.mem_append_right _ member),
      fun runId notes member => unsteered runId notes (List.mem_append_left _ member),
      fun extension request request' member =>
        unvetoed extension request request' (List.mem_append_left _ member)⟩
  · rintro ⟨⟨steps, tokens⟩, unchecked, unsteered, unvetoed⟩
    refine ⟨steps, tokens, fun member => ?_, fun runId notes member => ?_,
      fun extension request request' member => ?_⟩
    · rcases List.mem_append.mp member with member | member
      · exact uncancelled member
      · exact unchecked member
    · rcases List.mem_append.mp member with member | member
      · exact unsteered runId notes member
      · exact absurd member (only.not_mem (take runId))
    · rcases List.mem_append.mp member with member | member
      · exact unvetoed extension request request' member
      · exact absurd member (only.not_mem (before extension request))

/-- **The first pass of a resume** completes the pending calls exactly when none of the round was
answered and nothing disturbs the pass. -/
theorem PassRun.completes_iff (run : PassRun core request extensions state trace result)
    (iteration : state.iteration = max request.startIteration 1)
    (budget : state.budget = core.budget) (executes : core.resumeExecutesPending = true)
    (seed : request.seed = .resume) (suspended : SuspendedRound round records)
    (reads : Reads (earlier ++ round.message :: round.results) trace) :
    Completes round.pending trace ↔ round.results = [] ∧ Undisturbed core request trace := by
  have left := suspended.pending_ne_nil
  have resumes : ∀ history, resumeMessage core request state.iteration history =
      lastPendingAssistant history := by
    intro history
    simp only [resumeMessage, seed, executes, iteration, and_self, if_true]
  have pending : ∀ {prelude : Prelude} {after : List PortEvent},
      prelude.Run core request extensions → Reads (earlier ++ round.message :: round.results)
        (checked false :: prelude.trace core request.runId ++ after) →
      (resumeMessage core request state.iteration prelude.history = some round.message ∧
          round.results = [] ∧ prelude.steering core = []) ∨
        (resumeMessage core request state.iteration prelude.history = none ∧
          ¬ (round.results = [] ∧ prelude.steering core = [])) := by
    intro prelude after ran reads
    rw [resumes, ran.history_eq reads]
    exact lastPendingAssistant_round suspended fun note member => (prelude.mem_steering member).1
  have record : ∀ event, OnlyAsks Query.ofRecord [emitted event] := fun _ =>
    onlyAsks_cons_iff.mpr ⟨rfl, onlyAsks_nil⟩
  cases run with
  | cancelled =>
    exact iff_of_false
      (Completes.ne_nil (Completes.checked.append (record _).ofRecord_completes) left)
      fun undisturbed => undisturbed.2.uncancelled List.mem_cons_self
  | overBudget reason stops =>
    refine iff_of_false
      (Completes.ne_nil (Completes.checked.append (record _).ofRecord_completes) left)
      fun undisturbed => ?_
    rw [budget, iteration, Budget.stopBefore_eq_none_iff.mpr
      ⟨undisturbed.2.steps.le, undisturbed.2.tokens⟩] at stops
    cases stops
  | vetoed prelude _ ran flow =>
    refine iff_of_false
      (Completes.ne_nil (ran.completes_nil.append (record _).ofRecord_completes) left)
      fun undisturbed => ?_
    obtain ⟨-, -, -, goes⟩ :=
      (ran.undisturbed_iff (record _) (fun _ => rfl) fun _ _ => rfl).mp undisturbed.2
    rw [flow] at goes
    cases goes
  | modelCancelled prelude _ ran _ none =>
    refine iff_of_false (fun completes => ?_) fun undisturbed => ?_
    · have unasked := completes.unasked
      rw [List.filterMap_append, List.append_eq_nil_iff] at unasked
      cases unasked.2
    · have only : OnlyAsks Query.keepsGoing
          [⟨.callModel prelude.sent, ModelCall.cancelled⟩, emitted (.stopped .halted)] :=
        onlyAsks_cons_iff.mpr ⟨rfl, onlyAsks_cons_iff.mpr ⟨rfl, onlyAsks_nil⟩⟩
      obtain ⟨-, -, unsteered, -⟩ :=
        (ran.undisturbed_iff only (fun _ => rfl) fun _ _ => rfl).mp undisturbed.2
      rcases pending ran reads with ⟨found, -⟩ | ⟨-, lost⟩
      · rw [none] at found
        cases found
      · exact lost ⟨undisturbed.1, unsteered⟩
  | @replied prelude reply last _ _ ran _ none react =>
    rw [List.append_assoc] at reads
    refine iff_of_false (fun completes => ?_) fun undisturbed => ?_
    · have unasked := completes.unasked
      rw [List.filterMap_append, List.filterMap_append, List.append_eq_nil_iff,
        List.append_eq_nil_iff] at unasked
      cases unasked.1.2
    · have only : OnlyAsks Query.keepsGoing
          (receiveTrace request.runId prelude.sent reply ++ last) := by
        refine onlyAsks_append_iff.mpr ⟨?_, react.asks.mono fun query asked => ?_⟩
        · simp only [receiveTrace, onlyAsks_cons_iff]
          exact ⟨rfl, rfl, rfl, rfl, onlyAsks_nil⟩
        · cases query with
          | takePending | beforeModel => cases asked
          | _ => rfl
      rw [List.append_assoc] at undisturbed
      obtain ⟨-, -, unsteered, -⟩ :=
        (ran.undisturbed_iff only (fun _ => rfl) fun _ _ => rfl).mp undisturbed.2
      rcases pending ran reads with ⟨found, -⟩ | ⟨-, lost⟩
      · rw [none] at found
        cases found
      · exact lost ⟨undisturbed.1, unsteered⟩
  | resumed prelude message within ran flow found react =>
    rcases pending ran reads with ⟨same, unanswered, unsteered⟩ | ⟨none, -⟩
    · rw [same] at found
      cases found
      obtain ⟨all, named⟩ := suspended.pending_of_unanswered unanswered
      have tokens := (Budget.stopBefore_eq_none_iff.mp within).2
      have round := react.completes_iff within (all ▸ left) named
      rw [iteration, budget] at round
      rw [budget] at tokens
      rw [all, ran.completes_nil.append_iff, round,
        ran.undisturbed_iff react.asks (fun _ => rfl) fun _ _ => rfl, and_iff_right unanswered,
        and_iff_left tokens, and_iff_left (⟨unsteered, flow⟩ : _ ∧ _)]
    · rw [none] at found
      cases found

/-- **Resuming a suspended run.** Given a run that left a call suspended, and a resume on the
transcript that ends with its round: the first iteration of the resume completes the round exactly
when none of the round's calls was answered and nothing disturbs that iteration. -/
theorem resume_completes_iff {core' : AgentCore} {request' : AgentTurnRequest}
    {trace' : List PortEvent} {events events' : List AgentEvent}
    (run : Runs (core.run request) trace (.ok events)) (gated : ¬ Ungated trace)
    (ends : openRound trace = some round) (executes : core'.resumeExecutesPending = true)
    (seed : request'.seed = .resume) (run' : Runs (core'.run request') trace' (.ok events'))
    (reads : Reads (earlier ++ round.message :: round.results) trace') :
    Completes round.pending (firstPass trace') ↔
      round.results = [] ∧ Undisturbed core' request' (firstPass trace') := by
  have suspended : ∃ records, SuspendedRound round records := by
    obtain ⟨rest, rfl, loop⟩ := runs_run_ok run
    have seedUngated : Ungated (seedTrace request) := by
      unfold seedTrace
      split <;> rfl
    obtain ⟨-, left, records, found, same⟩ := loop.suspended_round fun ungated =>
      gated (ungated_append_iff.mpr ⟨seedUngated, ungated⟩)
    have both := ends.symm.trans ((List.foldl_append (f := OpenRound.step) ..).trans (same _))
    cases both
    exact ⟨records, found⟩
  obtain ⟨records, found⟩ := suspended
  obtain ⟨rest, rfl, loop⟩ := runs_run_ok run'
  have nothing : seedTrace request' = [] := by simp only [seedTrace, seed]
  rw [nothing, List.nil_append] at reads ⊢
  obtain ⟨result, after, first, split⟩ := loop.firstPass
  rw [split] at reads
  exact first.completes_iff rfl rfl executes seed found reads.left

end Resuming

/-! ### A round that is half answered -/

theorem reads_scripted {α : Type} {script : List PortEvent → ∀ query, Option (Query.Answer query)}
    (unscripted : ∀ past runId, script past (.transcriptLoad runId) = none) (program : AgentM α) :
    Reads transcript (program.simulate (scriptedPorts transcript script) []).1 := by
  intro before runId history after split _
  have same := simulate_answer (scriptedPorts transcript script) program split
  unfold scriptedPorts at same
  rw [unscripted] at same
  cases same
  rfl

def readAndWrite : ChatMessage :=
  ⟨.assistant, [.toolUse "call-1" "read" .null, .toolUse "call-2" "write" .null]⟩

def suspendScript (tools : List String) (past : List PortEvent) :
    ∀ query, Option (Query.Answer query)
  | .callModel _ =>
    if (past.filterMap modelReply?).isEmpty then
      some (.finished (.ok ⟨readAndWrite.content, ⟨1, 1, 2⟩⟩))
    else none
  | .decide call _ _ => if call.name ∈ tools then some .prompt else none
  | .gateRequest _ _ => some (.ok (.suspended ⟨7⟩))
  | _ => none

def resumedRun (transcript : List ChatMessage) : List PortEvent × Except AppError
    (List AgentEvent) :=
  (sampleCore.run (sampleRequest .resume)).simulate (scriptedPorts transcript fun _ _ => none) []

theorem suspended_round_resumed : Undisturbed sampleCore (sampleRequest .resume)
      (firstPass (resumedRun [.ofUser "go", readAndWrite]).1) := by
  have completes : Completes (OpenRound.mk readAndWrite []).pending
      (firstPass (resumedRun [.ofUser "go", readAndWrite]).1) :=
    ⟨rfl, fun _ member => member, rfl⟩
  have run : Runs (sampleCore.run (sampleRequest (.newMessage (.ofUser "go"))))
      (sampleRun (suspendScript ["read", "write"])).1
      (sampleRun (suspendScript ["read", "write"])).2 := runs_simulate _ _ []
  have run' : Runs (sampleCore.run (sampleRequest .resume))
      (resumedRun [.ofUser "go", readAndWrite]).1 (resumedRun [.ofUser "go", readAndWrite]).2 :=
    runs_simulate _ _ []
  have reads : Reads ([.ofUser "go"] ++ readAndWrite :: [])
      (resumedRun [.ofUser "go", readAndWrite]).1 := reads_scripted (fun _ _ => rfl) _
  exact ((resume_completes_iff run (by decide) rfl rfl rfl run' reads).mp completes).2

/-- **One call answered, the other suspended: the resume calls the model again** and drops the
pending call, although nothing disturbs it. -/
theorem partial_round_not_resumed : ∃ trace events round trace' events',
      Runs (sampleCore.run (sampleRequest (.newMessage (.ofUser "go")))) trace (.ok events) ∧
      ¬ Ungated trace ∧ openRound trace = some round ∧
      Runs (sampleCore.run (sampleRequest .resume)) trace' (.ok events') ∧
      Reads ([.ofUser "go"] ++ round.message :: round.results) trace' ∧
      ¬ Completes round.pending (firstPass trace') := by
  let result : ChatMessage := ⟨.tool, [.toolResult "call-1" (some "read") [] (some false)]⟩
  refine ⟨(sampleRun (suspendScript ["write"])).1, _, ⟨readAndWrite, [result]⟩,
    (resumedRun [.ofUser "go", readAndWrite, result]).1, _, runs_simulate _ _ [], by decide, rfl,
    runs_simulate (scriptedPorts [.ofUser "go", readAndWrite, result] fun _ _ => none) _ [],
    reads_scripted (fun _ _ => rfl) _, fun completes => ?_⟩
  have decided := congrArg (List.map ToolCall.id) completes.decided
  exact absurd decided (by decide)

end Ziee.Agent
