/-
**Which runs leave a tool call unanswered.**

Providers reject a history in which a `ToolUse` block has no `ToolResult`. `Answered` says that a
message list is free of that: between an assistant message and the next one, each id the first
requests is answered exactly once.

* `answered_round` — an assistant message, its results, and messages without results before the
  next assistant message.
* `PassRun.answered_iff` — **one pass** keeps `Answered` unless a post-round hook short-circuits
  on a message that requests tools.
* `run_answered_iff` — **the whole turn**: with no suspended call, the appended messages are
  answered exactly when the seed requests no tools itself and no hook cut a round off.
-/

import Ziee.Agent.Appended

namespace Ziee.Agent

open PortProgram Ziee.Providers

def untilAssistant (messages : List ChatMessage) : List ChatMessage :=
  messages.takeWhile fun message => message.role ≠ .assistant

/-- How many results with this id there are before the next assistant message. -/
def answersTo (id : String) (messages : List ChatMessage) : Nat :=
  ((untilAssistant messages).flatMap ChatMessage.toolResultIds).count id

/-- **Every requested tool call is answered exactly once before the next assistant message.** -/
def Answered (messages : List ChatMessage) : Prop :=
  ∀ before message after, messages = before ++ message :: after → message.role = .assistant →
    ∀ id ∈ message.toolUseIds, answersTo id after = 1

def Opens (messages : List ChatMessage) : Prop :=
  (untilAssistant messages).flatMap ChatMessage.toolResultIds = []

section Lists

variable {message : ChatMessage} {messages others rest : List ChatMessage}

theorem answered_nil : Answered [] := by
  intro before message after split
  exact absurd split.symm (by simp)

theorem answered_cons_iff : Answered (message :: rest) ↔
      (message.role = .assistant → ∀ id ∈ message.toolUseIds, answersTo id rest = 1) ∧
        Answered rest := by
  constructor
  · intro answered
    refine ⟨fun role => answered [] message rest rfl role, fun before other after split => ?_⟩
    exact answered (message :: before) other after (by rw [split]; rfl)
  · rintro ⟨here, later⟩ before other after split
    cases before with
    | nil =>
      obtain ⟨rfl, rfl⟩ := List.cons.inj split
      exact here
    | cons first before =>
      obtain ⟨rfl, same⟩ := List.cons.inj split
      exact later before other after same

theorem answered_others_iff (others : List ChatMessage)
    (roles : ∀ message ∈ others, message.role ≠ .assistant) :
    Answered (others ++ rest) ↔ Answered rest := by
  induction others with
  | nil => exact Iff.rfl
  | cons message others ih =>
    rw [List.cons_append, answered_cons_iff,
      ih fun other member => roles other (List.mem_cons_of_mem _ member)]
    exact and_iff_right fun role => absurd role (roles message List.mem_cons_self)

theorem untilAssistant_others (roles : ∀ message ∈ others, message.role ≠ .assistant) :
    untilAssistant (others ++ rest) = others ++ untilAssistant rest := by
  unfold untilAssistant
  exact List.takeWhile_append_of_pos fun message member => decide_eq_true (roles message member)

theorem opens_nil : Opens [] := rfl

theorem opens_assistant (role : message.role = .assistant) : Opens (message :: rest) := by
  unfold Opens untilAssistant
  rw [List.takeWhile_cons_of_neg (by simp [role])]
  rfl

theorem opens_others (roles : ∀ message ∈ others, message.role ≠ .assistant)
    (results : ∀ message ∈ others, message.toolResultIds = []) (opens : Opens rest) :
    Opens (others ++ rest) := by
  unfold Opens
  rw [untilAssistant_others roles, List.flatMap_append, List.flatMap_eq_nil_iff.mpr results]
  exact opens

theorem answersTo_opens {id : String} (opens : Opens rest) : answersTo id rest = 0 := by
  unfold answersTo
  rw [opens]
  rfl

theorem answersTo_results {results : List ChatMessage} {id : String}
    (roles : ∀ message ∈ results, message.role ≠ .assistant) (opens : Opens rest) :
    answersTo id (results ++ rest) = (results.flatMap ChatMessage.toolResultIds).count id := by
  unfold answersTo
  rw [untilAssistant_others roles, List.flatMap_append, opens, List.append_nil]

/-- **A round whose results answer its calls** leaves the rest to be answered. -/
theorem answered_round {results : List ChatMessage}
    (roles : ∀ message ∈ results, message.role ≠ .assistant)
    (complete : results.flatMap ChatMessage.toolResultIds = message.toolUseIds)
    (distinct : message.toolUseIds.Nodup) (opens : Opens rest) :
    Answered (message :: (results ++ rest)) ↔ Answered rest := by
  rw [answered_cons_iff, answered_others_iff results roles]
  refine and_iff_right fun _ id member => ?_
  rw [answersTo_results roles opens, complete]
  exact List.count_eq_one_of_mem distinct member

theorem answered_unanswered_iff (role : message.role = .assistant) (opens : Opens rest) :
    Answered (message :: rest) ↔ message.toolUseIds = [] ∧ Answered rest := by
  rw [answered_cons_iff]
  refine and_congr_left fun _ => ⟨fun answered => ?_, fun none _ id member => ?_⟩
  · refine List.eq_nil_iff_forall_not_mem.mpr fun id member => ?_
    have one := answered role id member
    rw [answersTo_opens opens] at one
    cases one
  · rw [none] at member
    cases member

end Lists

/-! ### Cut rounds -/

def cutMessage? : PortEvent → Option ChatMessage
  | ⟨.afterRound _ message, .ok .shortCircuit⟩ => some message
  | _ => none

/-- The call of a run that was suspended. -/
def openedGate? : PortEvent → Option GateTicket
  | ⟨.emit (.gateOpened ticket), _⟩ => some ticket
  | _ => none

def modelReply? : PortEvent → Option ModelReply
  | ⟨.callModel _, .finished (.ok reply)⟩ => some reply
  | _ => none

/-- No post-round hook short-circuits on a message that requests tools. -/
def NoCut (trace : List PortEvent) : Prop :=
  ∀ message ∈ trace.filterMap cutMessage?, message.toolUseIds = []

/-- No call of the run was suspended. -/
def Ungated (trace : List PortEvent) : Prop := trace.filterMap openedGate? = []

/-- The model never repeats an id within a reply. -/
def DistinctReplies (trace : List PortEvent) : Prop :=
  ∀ reply ∈ trace.filterMap modelReply?, reply.message.toolUseIds.Nodup

instance (trace : List PortEvent) : Decidable (NoCut trace) :=
  inferInstanceAs (Decidable (∀ message ∈ _, _))

instance (trace : List PortEvent) : Decidable (Ungated trace) :=
  decidable_of_iff (trace.filterMap openedGate?).isEmpty List.isEmpty_iff

instance (trace : List PortEvent) : Decidable (DistinctReplies trace) :=
  inferInstanceAs (Decidable (∀ reply ∈ _, _))

section Traces

variable {before after : List PortEvent}

theorem noCut_append_iff : NoCut (before ++ after) ↔ NoCut before ∧ NoCut after := by
  unfold NoCut
  rw [List.filterMap_append, List.forall_mem_append]

theorem noCut_checked_iff {cancelled : Bool} : NoCut (checked cancelled :: after) ↔ NoCut after :=
  Iff.rfl

theorem ungated_checked_iff {cancelled : Bool} :
    Ungated (checked cancelled :: after) ↔ Ungated after := Iff.rfl

theorem ungated_append_iff : Ungated (before ++ after) ↔ Ungated before ∧ Ungated after := by
  unfold Ungated
  rw [List.filterMap_append, List.append_eq_nil_iff]

theorem distinctReplies_append_iff :
    DistinctReplies (before ++ after) ↔ DistinctReplies before ∧ DistinctReplies after := by
  unfold DistinctReplies
  rw [List.filterMap_append, List.forall_mem_append]

theorem noCut_of_onlyAsks {asked : Query → Bool} (only : OnlyAsks asked before)
    (other : ∀ extension message, asked (.afterRound extension message) = false) :
    NoCut before := by
  intro message member
  obtain ⟨⟨query, answer⟩, among, cut⟩ := List.mem_filterMap.mp member
  cases query with
  | afterRound extension message => exact absurd among (only.not_mem (other extension message))
  | _ => cases cut

end Traces

/-! ### One round -/

theorem CallEnd.message?_eq_some {call : ToolCall} {ended : CallEnd} {message : ChatMessage}
    (answered : ended.message? call = some message) :
    message.role = .tool ∧ message.toolResultIds = [call.id] := by
  cases ended with
  | executed result =>
    cases answered
    exact ⟨rfl, rfl⟩
  | denied reason =>
    cases answered
    exact ⟨rfl, rfl⟩
  | suspended ticket => cases answered

theorem CallRun.message?_isSome {core : AgentCore} {request : AgentTurnRequest}
    {scope : ToolScope} {key : IdempotencyKey} {call : ToolCall} {trace : List PortEvent}
    {ended : CallEnd} (run : CallRun core request scope key call trace ended)
    (ungated : Ungated trace) : ∃ message, ended.message? call = some message := by
  cases run with
  | coreTool | denied | executed => exact ⟨_, rfl⟩
  | suspended ticket => exact absurd (ungated_append_iff.mp ungated).2 nofun

theorem role_of_mem_results {records : List CallRecord} {message : ChatMessage}
    (member : message ∈ records.filterMap CallRecord.message?) : message.role = .tool := by
  obtain ⟨record, -, answered⟩ := List.mem_filterMap.mp member
  exact (CallEnd.message?_eq_some answered).1

/-- **The results of a round without suspensions** answer its calls, in order. -/
theorem RoundRun.results_ids {core : AgentCore} {request : AgentTurnRequest} {scope : ToolScope}
    {iteration ordinal : Nat} {records : List CallRecord}
    (run : RoundRun core request scope iteration ordinal records)
    (ungated : Ungated (roundTrace records)) :
    (records.filterMap CallRecord.message?).flatMap ChatMessage.toolResultIds =
      (records.map CallRecord.call).map ToolCall.id := by
  induction run with
  | nil => rfl
  | @cons ordinal record rest one _ ih =>
    obtain ⟨here, later⟩ := ungated_append_iff.mp ungated
    obtain ⟨message, answered⟩ := one.message?_isSome here
    have same : record.message? = some message := answered
    rw [List.filterMap_cons_some same, List.flatMap_cons,
      (CallEnd.message?_eq_some answered).2, ih later]
    rfl

theorem refused_ids {reason : StopReason} (calls : List ToolCall) :
    (calls.map fun call => toolResultMessage call (refusal reason)).flatMap
      ChatMessage.toolResultIds = calls.map ToolCall.id := by
  induction calls with
  | nil => rfl
  | cons call rest ih =>
    rw [List.map_cons, List.flatMap_cons, ih]
    rfl

section Passes

variable {core : AgentCore} {request : AgentTurnRequest} {extensions : List Extension}
  {scope : ToolScope} {state : LoopState} {message : ChatMessage} {tokens : Nat}
  {trace : List PortEvent} {result : Pass} {rest : List ChatMessage}

theorem ReactRun.roles {fromModel : Bool}
    (run : ReactRun core request scope state message fromModel tokens trace result) :
    ∀ message ∈ appendedMessages trace, message.role = .tool := by
  intro other member
  cases run with
  | shortCircuited | finalAnswer => simp at member
  | refused answers cancelled reason =>
    simp only [appendedMessages_append, appendedMessages_hooks, List.nil_append,
      appendedMessages_checked, appendedMessages_refuseTrace, appendedMessages_emitted,
      appendedMessages_nil, List.append_nil] at member
    obtain ⟨call, -, rfl⟩ := List.mem_map.mp member
    rfl
  | ran answers records _ _ _ _ round =>
    simp only [appendedMessages_append, appendedMessages_hooks, List.nil_append,
      appendedMessages_checked, round.appends, appendedMessages_finishTrace,
      List.append_nil] at member
    exact role_of_mem_results member

theorem ReactRun.roles_ne {fromModel : Bool}
    (run : ReactRun core request scope state message fromModel tokens trace result) :
    ∀ message ∈ appendedMessages trace, message.role ≠ .assistant := by
  intro other member
  rw [run.roles other member]
  exact nofun

theorem noCut_hooks {answers : List (Extension × Flow)} {fromModel : Bool}
    (goes : HooksPass fromModel answers) : NoCut (answers.map (hookAnswered message)) := by
  intro other member
  obtain ⟨event, among, cut⟩ := List.mem_filterMap.mp member
  obtain ⟨⟨extension, flow⟩, answered, rfl⟩ := List.mem_map.mp among
  cases goes.2 _ answered
  cases cut

/-- **What follows a model reply** answers it, unless a hook short-circuits on its calls. -/
theorem ReactRun.answered_iff
    (run : ReactRun core request scope state message true tokens trace result)
    (role : message.role = .assistant) (distinct : message.toolUseIds.Nodup)
    (ungated : Ungated trace) (opens : Opens rest) :
    Answered (message :: (appendedMessages trace ++ rest)) ↔ NoCut trace ∧ Answered rest := by
  have roles := run.roles_ne
  cases run with
  | shortCircuited answers _ cut =>
    simp only [appendedMessages_append, appendedMessages_hooks, appendedMessages_emitted,
      appendedMessages_nil, List.nil_append]
    rw [answered_unanswered_iff role opens]
    refine and_congr_left fun _ => ⟨fun none => ?_, fun noCut => ?_⟩
    · refine noCut_append_iff.mpr ⟨fun other member => ?_, nofun⟩
      obtain ⟨event, among, same⟩ := List.mem_filterMap.mp member
      obtain ⟨⟨extension, flow⟩, -, rfl⟩ := List.mem_map.mp among
      cases flow with
      | shortCircuit =>
        cases same
        exact none
      | «continue» => cases same
    · obtain ⟨⟨extension, flow⟩, among, rfl⟩ := cut
      have member := List.mem_append_left [emitted (.stopped .noToolCall)]
        (List.mem_map_of_mem (f := hookAnswered message) among)
      exact noCut message (List.mem_filterMap.mpr ⟨_, member, rfl⟩)
  | finalAnswer answers goes final =>
    simp only [appendedMessages_append, appendedMessages_hooks, appendedMessages_emitted,
      appendedMessages_nil, List.nil_append]
    rw [answered_unanswered_iff role opens]
    refine and_congr_left fun _ => ⟨fun _ => ?_, fun _ => extractToolCalls_eq_nil_iff.mp final⟩
    exact noCut_append_iff.mpr ⟨noCut_hooks goes, nofun⟩
  | refused answers cancelled reason goes =>
    have noCut : NoCut (checked cancelled ::
        (refuseTrace request.runId reason (extractToolCalls message) ++
          [emitted (.stopped reason)])) :=
      noCut_checked_iff.mpr (noCut_append_iff.mpr
        ⟨noCut_of_onlyAsks onlyAsks_refuseTrace fun _ _ => rfl, nofun⟩)
    rw [noCut_append_iff, and_iff_right (noCut_hooks goes), and_iff_right noCut]
    refine answered_round roles ?_ distinct opens
    simp only [appendedMessages_append, appendedMessages_hooks, List.nil_append,
      appendedMessages_checked, appendedMessages_refuseTrace, appendedMessages_emitted,
      appendedMessages_nil, List.append_nil]
    rw [refused_ids, extractToolCalls_ids]
  | ran answers records goes _ _ same round =>
    have noCut : NoCut (checked false :: (roundTrace records ++
        finishTrace (RoundState.afterAll ⟨state.events, false, 0, 0⟩ records))) :=
      noCut_checked_iff.mpr (noCut_append_iff.mpr ⟨noCut_of_onlyAsks round.asks fun _ _ => rfl,
          noCut_of_onlyAsks onlyAsks_finishTrace fun _ _ => rfl⟩)
    rw [noCut_append_iff, and_iff_right (noCut_hooks goes), and_iff_right noCut]
    refine answered_round roles ?_ distinct opens
    simp only [appendedMessages_append, appendedMessages_hooks, List.nil_append,
      appendedMessages_checked, round.appends, appendedMessages_finishTrace, List.append_nil]
    have roundUngated : Ungated (roundTrace records) :=
      (ungated_append_iff.mp (ungated_checked_iff.mp (ungated_append_iff.mp ungated).2)).1
    rw [round.results_ids roundUngated, same, extractToolCalls_ids]

theorem ReactRun.resumed_noCut
    (run : ReactRun core request scope state message false tokens trace result) : NoCut trace := by
  cases run with
  | shortCircuited answers model => cases model
  | finalAnswer answers goes => exact noCut_append_iff.mpr ⟨noCut_hooks goes, nofun⟩
  | refused answers cancelled reason goes =>
    exact noCut_append_iff.mpr ⟨noCut_hooks goes, noCut_checked_iff.mpr (noCut_append_iff.mpr
        ⟨noCut_of_onlyAsks onlyAsks_refuseTrace fun _ _ => rfl, nofun⟩)⟩
  | ran answers records goes _ _ _ round =>
    exact noCut_append_iff.mpr ⟨noCut_hooks goes, noCut_checked_iff.mpr (noCut_append_iff.mpr
        ⟨noCut_of_onlyAsks round.asks fun _ _ => rfl,
          noCut_of_onlyAsks onlyAsks_finishTrace fun _ _ => rfl⟩)⟩

/-! ### One pass -/

theorem Prelude.steering_roles {prelude : Prelude} :
    ∀ message ∈ prelude.steering core, message.role ≠ .assistant := by
  intro other member
  rw [(prelude.mem_steering member).1]
  exact nofun

theorem Prelude.Run.noCut {prelude : Prelude} (ran : prelude.Run core request extensions)
    {cancelled : Bool} : NoCut (checked cancelled :: prelude.trace core request.runId) :=
  noCut_checked_iff.mpr (noCut_of_onlyAsks ran.asks fun _ _ => rfl)

theorem noCut_receiveTrace {runId : Uuid} {sent : ChatRequest} {reply : ModelReply} :
    NoCut (receiveTrace runId sent reply) := by
  intro other member
  cases member

/-- **One pass** leaves every call answered unless a hook short-circuits on a message with
calls, whatever the later passes append. -/
theorem PassRun.answered_iff (run : PassRun core request extensions state trace result)
    (distinct : DistinctReplies trace) (ungated : Ungated trace) (opens : Opens rest) :
    Answered (appendedMessages trace ++ rest) ↔ NoCut trace ∧ Answered rest := by
  cases run with
  | cancelled | overBudget => exact (and_iff_right nofun).symm
  | vetoed prelude _ ran =>
    rw [noCut_append_iff, and_iff_right ran.noCut, and_iff_right nofun, appendedMessages_append,
      appendedMessages_checked, ran.appends, appendedMessages_emitted, appendedMessages_nil,
      List.append_nil]
    exact answered_others_iff _ prelude.steering_roles
  | resumed prelude message _ ran _ _ react =>
    rw [noCut_append_iff, and_iff_right ran.noCut, and_iff_right react.resumed_noCut,
      appendedMessages_append, appendedMessages_checked, ran.appends, List.append_assoc,
      answered_others_iff _ prelude.steering_roles]
    exact answered_others_iff _ react.roles_ne
  | modelCancelled prelude _ ran =>
    rw [noCut_append_iff, and_iff_right ran.noCut, and_iff_right nofun, appendedMessages_append,
      appendedMessages_checked, ran.appends, appendedMessages_callModel, appendedMessages_emitted,
      appendedMessages_nil, List.append_nil]
    exact answered_others_iff _ prelude.steering_roles
  | @replied prelude reply last _ _ ran _ _ react =>
    have ids : reply.message.toolUseIds.Nodup :=
      (distinctReplies_append_iff.mp (distinctReplies_append_iff.mp distinct).1).2 reply
        List.mem_cons_self
    have later : Ungated last := (ungated_append_iff.mp ungated).2
    rw [noCut_append_iff, noCut_append_iff, and_iff_right ran.noCut,
      and_iff_right noCut_receiveTrace, appendedMessages_append, appendedMessages_append,
      appendedMessages_checked, ran.appends, appendedMessages_receiveTrace, List.append_assoc,
      List.append_assoc, answered_others_iff _ prelude.steering_roles]
    exact react.answered_iff reply.role_message ids later opens

/-- **A pass that is not a resume** starts with no results. -/
theorem PassRun.opens (run : PassRun core request extensions state trace result)
    (fresh : ∀ history, resumeMessage core request state.iteration history = none)
    (opens : Opens rest) : Opens (appendedMessages trace ++ rest) := by
  have steering : ∀ {prelude : Prelude} {messages : List ChatMessage}, Opens messages →
      Opens (prelude.steering core ++ messages) := fun later =>
    opens_others Prelude.steering_roles (fun _ member => (Prelude.mem_steering member).2.2) later
  cases run with
  | cancelled | overBudget => exact opens
  | vetoed prelude _ ran =>
    rw [appendedMessages_append, appendedMessages_checked, ran.appends, appendedMessages_emitted,
      appendedMessages_nil, List.append_nil]
    exact steering opens
  | resumed prelude message _ _ _ resumes =>
    rw [fresh] at resumes
    cases resumes
  | modelCancelled prelude _ ran =>
    rw [appendedMessages_append, appendedMessages_checked, ran.appends,
      appendedMessages_callModel, appendedMessages_emitted, appendedMessages_nil, List.append_nil]
    exact steering opens
  | replied prelude reply _ ran =>
    rw [appendedMessages_append, appendedMessages_append, appendedMessages_checked, ran.appends,
      appendedMessages_receiveTrace, List.append_assoc, List.append_assoc]
    exact steering (opens_assistant reply.role_message)

end Passes

/-! ### The whole turn -/

theorem resumeMessage_later {core : AgentCore} {request : AgentTurnRequest} {iteration : Nat}
    (later : max request.startIteration 1 < iteration) (history : List ChatMessage) :
    resumeMessage core request iteration history = none := by
  unfold resumeMessage
  split
  · exact if_neg fun first => absurd first.2 (by omega)
  · rfl

section Turn

variable {core : AgentCore} {request : AgentTurnRequest} {extensions : List Extension}
  {state : LoopState} {trace : List PortEvent} {events : List AgentEvent}

theorem LoopRun.opens (run : LoopRun core request extensions state trace events)
    (start : max request.startIteration 1 ≤ state.iteration)
    (fresh : ∀ history, resumeMessage core request state.iteration history = none) :
    Opens (appendedMessages trace) := by
  induction run with
  | stop one =>
    have opens := one.opens fresh opens_nil
    rwa [List.append_nil] at opens
  | again one _ ih =>
    obtain ⟨next, -⟩ := one.again_iteration
    rw [appendedMessages_append]
    exact one.opens fresh (ih (by omega) (resumeMessage_later (by omega)))

/-- **Every run of the loop**, by induction over its passes. -/
theorem LoopRun.answered_iff (run : LoopRun core request extensions state trace events)
    (start : max request.startIteration 1 ≤ state.iteration) (distinct : DistinctReplies trace)
    (ungated : Ungated trace) : Answered (appendedMessages trace) ↔ NoCut trace := by
  induction run with
  | stop one =>
    have iff := one.answered_iff distinct ungated opens_nil
    rwa [List.append_nil, and_iff_left answered_nil] at iff
  | again one rest ih =>
    obtain ⟨next, -⟩ := one.again_iteration
    obtain ⟨distinctHere, distinctLater⟩ := distinctReplies_append_iff.mp distinct
    obtain ⟨ungatedHere, ungatedLater⟩ := ungated_append_iff.mp ungated
    have opens := rest.opens (by omega) (resumeMessage_later (by omega))
    rw [appendedMessages_append, one.answered_iff distinctHere ungatedHere opens,
      noCut_append_iff, ih (by omega) distinctLater ungatedLater]

def SeedAsksNothing (request : AgentTurnRequest) : Prop :=
  ∀ message, request.seed = .newMessage message → message.role = .assistant →
    message.toolUseIds = []

/-- **Every successful turn without a suspended call**: what it appended is answered exactly when
its seed requests no tools and no post-round hook short-circuited on a message with calls. -/
theorem run_answered_iff (run : Runs (core.run request) trace (.ok events))
    (distinct : DistinctReplies trace) (ungated : Ungated trace) :
    Answered (appendedMessages trace) ↔ SeedAsksNothing request ∧ NoCut trace := by
  obtain ⟨rest, rfl, loop⟩ := runs_run_ok run
  obtain ⟨-, distinctLater⟩ := distinctReplies_append_iff.mp distinct
  obtain ⟨-, ungatedLater⟩ := ungated_append_iff.mp ungated
  have iff := loop.answered_iff (Nat.le_refl _) distinctLater ungatedLater
  cases seed : request.seed with
  | resume =>
    have seeded : seedTrace request = [] := by simp only [seedTrace, seed]
    have nothing : SeedAsksNothing request := by
      intro message same
      rw [seed] at same
      cases same
    rw [seeded, List.nil_append, iff, and_iff_right nothing]
  | newMessage message =>
    have seeded : seedTrace request = [appended request.runId message] := by
      simp only [seedTrace, seed]
    have fresh : ∀ history, resumeMessage core request (initialState core request).iteration
        history = none := by
      intro history
      simp only [resumeMessage, seed]
    have opens := loop.opens (Nat.le_refl _) fresh
    have nothing : SeedAsksNothing request ↔
        (message.role = .assistant → message.toolUseIds = []) := by
      unfold SeedAsksNothing
      rw [seed]
      exact ⟨fun asks => asks message rfl, fun asks other same => by cases same; exact asks⟩
    have noCut : NoCut [appended request.runId message] := by
      intro other member
      cases member
    rw [seeded, noCut_append_iff, and_iff_right noCut, nothing, ← iff]
    show Answered (message :: appendedMessages rest) ↔ _
    by_cases role : message.role = .assistant
    · rw [answered_unanswered_iff role opens]
      simp only [role, true_imp_iff]
    · rw [answered_cons_iff]
      simp only [role, false_imp_iff]

end Turn

/-! ### A cut round -/

def sampleCore : AgentCore where
  extensions := [⟨0, 0⟩]
  reviewer := none
  taskStore := false
  steer := false
  schedule := false
  budget := .new 10 1000 1000
  limits := ⟨2, 4, 8⟩
  sandbox := .dangerFullAccess
  modelName := "model"
  resumeExecutesPending := true
  isolateChildren := false
  childSinkFactory := false

def sampleRequest (seed : TurnSeed) : AgentTurnRequest where
  runId := 1
  userId := 2
  seed := seed
  system := []
  toolScope := ⟨[], false⟩
  startIteration := 1
  inputs := .null

def searchScript (past : List PortEvent) : ∀ query, Option (Query.Answer query)
  | .callModel _ =>
    if (past.filterMap modelReply?).isEmpty then
      some (.finished (.ok ⟨[.toolUse "call-1" "search" .null], ⟨1, 1, 2⟩⟩))
    else none
  | _ => none

/-- The same, but the extension ends the turn when it sees the search. -/
def cutScript (past : List PortEvent) : ∀ query, Option (Query.Answer query)
  | .afterRound _ _ => some (.ok .shortCircuit)
  | query => searchScript past query

def sampleRun (script : List PortEvent → ∀ query, Option (Query.Answer query)) :
    List PortEvent × Except AppError (List AgentEvent) :=
  (sampleCore.run (sampleRequest (.newMessage (.ofUser "go")))).simulate (scriptedPorts [] script)
    []

theorem search_answered : Answered (appendedMessages (sampleRun searchScript).1) := by
  have run : Runs (sampleCore.run (sampleRequest (.newMessage (.ofUser "go"))))
      (sampleRun searchScript).1 (sampleRun searchScript).2 := runs_simulate _ _ []
  refine (run_answered_iff run (by decide) (by decide)).mpr ⟨fun message same role => ?_, by decide⟩
  cases same
  cases role

/-- **A hook that ends the turn on a message with a call leaves the call unanswered.** -/
theorem cut_round_unanswered :
    ∃ trace events, Runs (sampleCore.run (sampleRequest (.newMessage (.ofUser "go")))) trace
        (.ok events) ∧ DistinctReplies trace ∧ Ungated trace ∧
      ¬ Answered (appendedMessages trace) := by
  refine ⟨(sampleRun cutScript).1, _, runs_simulate (scriptedPorts [] cutScript) _ [], by decide,
    by decide, fun answered => ?_⟩
  have one := answered [.ofUser "go"] ⟨.assistant, [.toolUse "call-1" "search" .null]⟩ [] rfl rfl
    "call-1" List.mem_cons_self
  cases one

end Ziee.Agent
