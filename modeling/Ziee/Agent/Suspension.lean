/-
**What a suspended run leaves behind.**

A round suspends when the gate parks one of its calls. The loop goes on with the other calls of
the round, so the transcript may end with the results of some calls while others are pending.

* `openRound` — the round a trace ends in: its assistant message and the results so far.
* `LoopRun.suspended_round` — **a run with a suspended call stops halted** in a round one of whose
  calls has no result.
* `OpenRound.pending` — the calls without a result; `SuspendedRound.pending_ne_nil` and
  `SuspendedRound.pending_of_unanswered` say what they are after a suspension.
-/

import Ziee.Agent.Answered

namespace Ziee.Agent

open PortProgram Ziee.Providers

/-! ### The round a trace ends in -/

structure OpenRound where
  message : ChatMessage
  results : List ChatMessage

def OpenRound.step (round : Option OpenRound) : PortEvent → Option OpenRound
  | ⟨.callModel _, .finished (.ok reply)⟩ => some ⟨reply.message, []⟩
  | ⟨.transcriptLoad _, .ok history⟩ =>
    (lastPendingAssistant history).map fun message => ⟨message, []⟩
  | ⟨.transcriptAppend _ message, .ok _⟩ =>
    if message.role = .tool then round.map fun open' => ⟨open'.message, open'.results ++ [message]⟩
    else round
  | _ => round

def openRound (trace : List PortEvent) : Option OpenRound := trace.foldl OpenRound.step none

def OpenRound.pending (round : OpenRound) : List ToolCall :=
  (round.results.flatMap ChatMessage.toolResultIds).foldl
    (fun calls id => calls.eraseP fun call => call.id = id) (extractToolCalls round.message)

section OpenRounds

variable {core : AgentCore} {request : AgentTurnRequest} {extensions : List Extension}
  {scope : ToolScope} {state : LoopState} {message : ChatMessage} {tokens : Nat}
  {trace : List PortEvent} {result : Pass} {fromModel : Bool}

/-- The queries that cannot open a round. -/
def Query.keepsRound : Query → Bool
  | .callModel _ | .transcriptLoad _ => false
  | _ => true

variable {asked : Query → Bool} {runId : Uuid} {call : ToolCall} {key : IdempotencyKey}
  {iteration : Nat} {history : List ChatMessage}

theorem foldl_step_results (only : OnlyAsks Query.keepsRound trace)
    (roles : ∀ message ∈ appendedMessages trace, message.role = .tool) :
    ∀ results, trace.foldl OpenRound.step (some ⟨message, results⟩) =
      some ⟨message, results ++ appendedMessages trace⟩ := by
  induction trace with
  | nil => exact fun results => by simp
  | cons event rest ih =>
    intro results
    obtain ⟨here, later⟩ := onlyAsks_cons_iff.mp only
    obtain ⟨query, answer⟩ := event
    cases query with
    | callModel | transcriptLoad => cases here
    | transcriptAppend runId other =>
      cases answer with
      | error error => exact ih later roles results
      | ok value =>
        have tool : other.role = .tool := roles other List.mem_cons_self
        have step : OpenRound.step (some ⟨message, results⟩)
            ⟨.transcriptAppend runId other, .ok value⟩ =
              some ⟨message, results ++ [other]⟩ := if_pos tool
        rw [List.foldl_cons, step,
          ih later (fun next member => roles next (List.mem_cons_of_mem _ member)),
          List.append_assoc]
        rfl
    | _ => exact ih later roles results

/-- The queries once the assistant message is there. -/
def Query.ofReaction : Query → Bool
  | .afterRound _ _ | .isCancelled => true
  | query => query.ofRound

theorem Query.ofReaction_of_ofRound (query : Query) (asked : query.ofRound = true) :
    query.ofReaction = true := by
  cases query <;> first | rfl | exact asked

theorem Query.keepsRound_of_ofReaction (query : Query) (asked : query.ofReaction = true) :
    query.keepsRound = true := by
  cases query with
  | callModel | transcriptLoad => cases asked
  | _ => rfl

theorem onlyAsks_hooks {answers : List (Extension × Flow)}
    (hook : ∀ extension, asked (.afterRound extension message) = true) :
    OnlyAsks asked (answers.map (hookAnswered message)) := by
  intro event member
  obtain ⟨answer, -, rfl⟩ := List.mem_map.mp member
  exact hook answer.1

theorem ReactRun.asks
    (run : ReactRun core request scope state message fromModel tokens trace result) :
    OnlyAsks Query.ofReaction trace := by
  have record : ∀ {trace}, OnlyAsks Query.ofRecord trace → OnlyAsks Query.ofReaction trace :=
    fun only => (only.mono Query.ofRound_of_ofRecord).mono Query.ofReaction_of_ofRound
  cases run with
  | shortCircuited | finalAnswer =>
    exact onlyAsks_append_iff.mpr ⟨onlyAsks_hooks fun _ => rfl,
      onlyAsks_cons_iff.mpr ⟨rfl, onlyAsks_nil⟩⟩
  | refused answers cancelled reason =>
    simp only [onlyAsks_append_iff, onlyAsks_cons_iff]
    exact ⟨onlyAsks_hooks fun _ => rfl, rfl, record onlyAsks_refuseTrace, rfl, onlyAsks_nil⟩
  | ran answers records _ _ _ _ round =>
    simp only [onlyAsks_append_iff, onlyAsks_cons_iff]
    exact ⟨onlyAsks_hooks fun _ => rfl, rfl, round.asks.mono Query.ofReaction_of_ofRound,
      record onlyAsks_finishTrace⟩

/-- **What follows an assistant message** adds its results to the round. -/
theorem ReactRun.foldl_step
    (run : ReactRun core request scope state message fromModel tokens trace result) :
    trace.foldl OpenRound.step (some ⟨message, []⟩) = some ⟨message, appendedMessages trace⟩ :=
  foldl_step_results (run.asks.mono Query.keepsRound_of_ofReaction) run.roles []

theorem foldl_step_receiveTrace {sent : ChatRequest} {reply : ModelReply}
    (round : Option OpenRound) :
    (receiveTrace runId sent reply).foldl OpenRound.step round = some ⟨reply.message, []⟩ := rfl

theorem Prelude.Run.foldl_step {prelude : Prelude} (ran : prelude.Run core request extensions)
    (pending : lastPendingAssistant prelude.history = some message) (round : Option OpenRound) :
    (prelude.trace core runId).foldl OpenRound.step round = some ⟨message, []⟩ := by
  have opens : ∀ before, OpenRound.step before (loaded runId prelude.history) =
      some ⟨message, []⟩ := by
    intro before
    show (lastPendingAssistant prelude.history).map _ = _
    rw [pending]
    rfl
  have later : OnlyAsks Query.keepsRound
      (listed prelude.context.toolScope prelude.tools :: prelude.beforeModelTrace) :=
    onlyAsks_cons_iff.mpr ⟨rfl, ran.vets.asks fun _ _ => rfl⟩
  have nothing : appendedMessages
      (listed prelude.context.toolScope prelude.tools :: prelude.beforeModelTrace) = [] := by
    rw [appendedMessages_listed, ran.vets.appends]
  unfold Prelude.trace
  rw [List.foldl_append, List.foldl_cons, opens,
    foldl_step_results later (by rw [nothing]; exact nofun), nothing]
  rfl

end OpenRounds

/-! ### A run with a suspended call -/

section Suspended

variable {core : AgentCore} {request : AgentTurnRequest} {extensions : List Extension}
  {scope : ToolScope} {state : LoopState} {message : ChatMessage} {tokens : Nat}
  {trace : List PortEvent} {result : Pass} {fromModel : Bool}

theorem ungated_of_onlyAsks (only : OnlyAsks asked trace)
    (other : ∀ event, asked (.emit event) = false) : Ungated trace := by
  refine List.filterMap_eq_nil_iff.mpr fun event member => ?_
  obtain ⟨query, answer⟩ := event
  cases query with
  | emit event => exact absurd member (only.not_mem (other event))
  | _ => rfl

theorem Decides.ungated {act : Act}
    (decides : Decides core runId call trace act) : Ungated trace := by
  have settled : ∀ {trace decision}, Settles core call trace decision → Ungated trace := by
    intro trace decision settles
    cases settles <;> rfl
  cases decides with
  | auto settles => exact settled settles
  | denied settles => exact settled settles
  | asked outcome settles => exact ungated_append_iff.mpr ⟨settled settles, rfl⟩

theorem CallRun.ungated_iff {ended : CallEnd}
    (run : CallRun core request scope key call trace ended) :
    Ungated trace ↔ ended.message? call ≠ none := by
  cases run with
  | coreTool tool result named => exact iff_of_true rfl nofun
  | suspended ticket named decides =>
    exact iff_of_false (fun ungated => absurd (ungated_append_iff.mp ungated).2 nofun)
      fun answered => answered rfl
  | denied reason named decides =>
    exact iff_of_true (ungated_append_iff.mpr ⟨decides.ungated, rfl⟩) nofun
  | executed result named decides =>
    exact iff_of_true (ungated_append_iff.mpr ⟨decides.ungated, rfl⟩) nofun

theorem CallRun.suspended_named {ended : CallEnd}
    (run : CallRun core request scope key call trace ended)
    (suspended : ended.message? call = none) : CoreTool.fromName call.name = none := by
  cases run with
  | suspended ticket named => exact named
  | coreTool | denied | executed => cases suspended

theorem RoundRun.ungated_iff {ordinal : Nat} {records : List CallRecord}
    (run : RoundRun core request scope iteration ordinal records) :
    Ungated (roundTrace records) ↔ ∀ record ∈ records, record.message? ≠ none := by
  induction run with
  | nil => exact iff_of_true rfl nofun
  | @cons ordinal record rest one _ ih =>
    show Ungated (record.trace ++ roundTrace rest) ↔ _
    rw [ungated_append_iff, ih, List.forall_mem_cons, one.ungated_iff]
    rfl

theorem RoundRun.suspended_named {ordinal : Nat} {records : List CallRecord}
    (run : RoundRun core request scope iteration ordinal records) :
    ∀ record ∈ records, record.message? = none → CoreTool.fromName record.call.name = none := by
  induction run with
  | nil => exact nofun
  | cons one _ ih => exact List.forall_mem_cons.mpr ⟨one.suspended_named, ih⟩

theorem afterAll_suspended (records : List CallRecord) :
    ∀ round : RoundState, (round.afterAll records).suspended = true ↔
      round.suspended = true ∨ ∃ record ∈ records, record.message? = none := by
  induction records with
  | nil => exact fun round => by simp [RoundState.afterAll]
  | cons record rest ih =>
    intro round
    show ((round.after record.call record.ended).afterAll rest).suspended = true ↔ _
    rw [ih]
    simp only [List.mem_cons, exists_eq_or_imp]
    have here : (round.after record.call record.ended).suspended = true ↔
        round.suspended = true ∨ record.message? = none := by
      unfold CallRecord.message?
      cases record.ended <;> simp [RoundState.after, CallEnd.message?]
    rw [here, or_assoc]

structure SuspendedRound (round : OpenRound) (records : List CallRecord) : Prop where
  role : round.message.role = .assistant
  calls : records.map CallRecord.call = extractToolCalls round.message
  results : round.results = records.filterMap CallRecord.message?
  suspended : ∃ record ∈ records, record.message? = none
  named : ∀ record ∈ records, record.message? = none → CoreTool.fromName record.call.name = none

/-- **A suspended call comes from a round that was run**, and stops the loop. -/
theorem ReactRun.suspended
    (run : ReactRun core request scope state message fromModel tokens trace result)
    (role : message.role = .assistant) (gated : ¬ Ungated trace) :
    (∃ events, result = .stop (events ++ [.stopped .halted])) ∧
      ∃ records, SuspendedRound ⟨message, appendedMessages trace⟩ records := by
  have hooks : ∀ {answers : List (Extension × Flow)},
      Ungated (answers.map (hookAnswered message)) := by
    intro answers
    have only : OnlyAsks Query.isAfterRound (answers.map (hookAnswered message)) :=
      onlyAsks_hooks fun _ => rfl
    exact ungated_of_onlyAsks only fun _ => rfl
  cases run with
  | shortCircuited | finalAnswer => exact (gated (ungated_append_iff.mpr ⟨hooks, rfl⟩)).elim
  | refused answers cancelled reason =>
    have refused : ∀ calls, Ungated (refuseTrace request.runId reason calls) := by
      intro calls
      induction calls with
      | nil => rfl
      | cons call rest ih => exact ih
    exact (gated (ungated_append_iff.mpr ⟨hooks, ungated_checked_iff.mpr
      (ungated_append_iff.mpr ⟨refused _, rfl⟩)⟩)).elim
  | ran answers records _ _ _ same round =>
    have finish : ∀ {round : RoundState}, Ungated (finishTrace round) := by
      intro round
      unfold finishTrace
      split <;> rfl
    have open' : ¬ Ungated (roundTrace records) := fun ungated =>
      gated (ungated_append_iff.mpr ⟨hooks, ungated_checked_iff.mpr
        (ungated_append_iff.mpr ⟨ungated, finish⟩)⟩)
    have suspended : ∃ record ∈ records, record.message? = none := by
      by_contra none
      exact open' (round.ungated_iff.mpr fun record member same => none ⟨record, member, same⟩)
    have stops : finishReason (RoundState.afterAll ⟨state.events, false, 0, 0⟩ records) =
        some .halted := if_pos ((afterAll_suspended records _).mpr (Or.inr suspended))
    refine ⟨⟨(RoundState.afterAll ⟨state.events, false, 0, 0⟩ records).events, ?_⟩, records, role,
      same, ?_, suspended, round.suspended_named⟩
    · unfold finishPass
      rw [stops]
    · simp only [appendedMessages_append, appendedMessages_hooks, List.nil_append,
        appendedMessages_checked, round.appends, appendedMessages_finishTrace, List.append_nil]

theorem lastPendingAssistant_eq_some (pending : lastPendingAssistant history = some message) :
    message.role = .assistant ∧ message.toolUseIds ≠ [] ∧ history.getLast? = some message := by
  unfold lastPendingAssistant at pending
  split at pending
  · rename_i last found
    split at pending
    · rename_i matches'
      cases pending
      exact ⟨matches'.1, (ChatMessage.any_isToolUse_iff message).mp matches'.2, found⟩
    · cases pending
  · cases pending

theorem resumeMessage_eq_some
    (resumes : resumeMessage core request iteration history = some message) :
    lastPendingAssistant history = some message := by
  unfold resumeMessage at resumes
  split at resumes
  · split at resumes
    · exact resumes
    · cases resumes
  · cases resumes

/-- **A pass with a suspended call** stops the run halted and leaves the round open. -/
theorem PassRun.suspended (run : PassRun core request extensions state trace result)
    (gated : ¬ Ungated trace) : (∃ events, result = .stop (events ++ [.stopped .halted])) ∧
      ∃ round records, SuspendedRound round records ∧
        ∀ before, trace.foldl OpenRound.step before = some round := by
  have start : ∀ {prelude : Prelude} {cancelled : Bool}, prelude.Run core request extensions →
      Ungated (checked cancelled :: prelude.trace core request.runId) := fun ran =>
    ungated_checked_iff.mpr (ungated_of_onlyAsks ran.asks fun _ => rfl)
  cases run with
  | cancelled | overBudget => exact absurd rfl gated
  | vetoed prelude _ ran => exact (gated (ungated_append_iff.mpr ⟨start ran, rfl⟩)).elim
  | modelCancelled prelude _ ran => exact (gated (ungated_append_iff.mpr ⟨start ran, rfl⟩)).elim
  | resumed prelude message _ ran _ resumes react =>
    have pending := resumeMessage_eq_some resumes
    obtain ⟨stops, records, suspended⟩ := react.suspended (lastPendingAssistant_eq_some pending).1
      fun ungated => gated (ungated_append_iff.mpr ⟨start ran, ungated⟩)
    refine ⟨stops, _, records, suspended, fun before => ?_⟩
    rw [List.foldl_append, List.foldl_cons, ran.foldl_step pending, react.foldl_step]
  | replied prelude reply _ ran _ _ react =>
    obtain ⟨stops, records, suspended⟩ := react.suspended reply.role_message fun ungated =>
      gated (ungated_append_iff.mpr ⟨ungated_append_iff.mpr ⟨start ran, rfl⟩, ungated⟩)
    refine ⟨stops, _, records, suspended, fun before => ?_⟩
    rw [List.foldl_append, List.foldl_append, foldl_step_receiveTrace, react.foldl_step]

/-- **A run with a suspended call** stops halted, in a round with a call left to answer. -/
theorem LoopRun.suspended_round {events : List AgentEvent}
    (run : LoopRun core request extensions state trace events) (gated : ¬ Ungated trace) :
    events.getLast? = some (.stopped .halted) ∧ ∃ round records, SuspendedRound round records ∧
        ∀ before, trace.foldl OpenRound.step before = some round := by
  induction run with
  | stop one =>
    obtain ⟨⟨events, same⟩, round⟩ := one.suspended gated
    cases same
    exact ⟨List.getLast?_concat, round⟩
  | @again state state' before after events one rest ih =>
    have goes : Ungated before := by
      by_contra stops
      obtain ⟨⟨events, impossible⟩, -⟩ := one.suspended stops
      cases impossible
    obtain ⟨halted, round, records, suspended, ends⟩ :=
      ih fun ungated => gated (ungated_append_iff.mpr ⟨goes, ungated⟩)
    refine ⟨halted, round, records, suspended, fun start => ?_⟩
    rw [List.foldl_append, ends]

namespace SuspendedRound

variable {round : OpenRound} {records : List CallRecord}

theorem length_le_strike (ids : List String) : ∀ calls : List ToolCall, calls.length ≤
      (ids.foldl (fun calls id => calls.eraseP fun call => call.id = id) calls).length +
        ids.length := by
  induction ids with
  | nil => exact fun calls => Nat.le_refl _
  | cons id ids ih =>
    intro calls
    have later := ih (calls.eraseP fun call => call.id = id)
    have struck : calls.length ≤ (calls.eraseP fun call => call.id = id).length + 1 := by
      rw [List.length_eraseP]
      split <;> omega
    rw [List.foldl_cons, List.length_cons]
    omega

theorem length_results_ids (records : List CallRecord) :
    ((records.filterMap CallRecord.message?).flatMap ChatMessage.toolResultIds).length =
      (records.filterMap CallRecord.message?).length := by
  induction records with
  | nil => rfl
  | cons record rest ih =>
    cases answered : record.message? with
    | none => rw [List.filterMap_cons_none answered, ih]
    | some message =>
      rw [List.filterMap_cons_some answered, List.flatMap_cons, List.length_append, ih,
        (CallEnd.message?_eq_some answered).2, List.length_cons]
      exact Nat.add_comm _ _

/-- **Something is pending after a suspension.** -/
theorem pending_ne_nil (suspended : SuspendedRound round records) : round.pending ≠ [] := by
  have fewer : (records.filterMap CallRecord.message?).length < records.length := by
    obtain ⟨record, member, unanswered⟩ := suspended.suspended
    exact List.length_filterMap_lt_length_iff_exists.mpr ⟨record, member, unanswered⟩
  have calls : (extractToolCalls round.message).length = records.length := by
    rw [← suspended.calls, List.length_map]
  have left := length_le_strike (round.results.flatMap ChatMessage.toolResultIds)
    (extractToolCalls round.message)
  rw [suspended.results, length_results_ids] at left
  intro none
  have length := congrArg List.length none
  unfold OpenRound.pending at length
  rw [suspended.results, List.length_nil] at length
  omega

theorem pending_of_unanswered (suspended : SuspendedRound round records)
    (unanswered : round.results = []) : round.pending = extractToolCalls round.message ∧
      ∀ call ∈ extractToolCalls round.message, CoreTool.fromName call.name = none := by
  refine ⟨?_, fun call member => ?_⟩
  · unfold OpenRound.pending
    rw [unanswered]
    rfl
  · rw [← suspended.calls] at member
    obtain ⟨record, among, rfl⟩ := List.mem_map.mp member
    rw [suspended.results] at unanswered
    exact suspended.named record among (List.filterMap_eq_nil_iff.mp unanswered record among)

end SuspendedRound

end Suspended

end Ziee.Agent
