/-
**No tool runs without an approval.**

A call reaches the tool provider only through the approval decision: the policy, the reviewer it
may defer to, and the gate. The reviewer can tighten an untrusted call but not grant it, and core
tools never reach the provider at all.

* `runCall_granted`, `run_granted` — **one call, and every run of the turn**, whatever policy,
  reviewer, gate and model answer and however the run ends.
* `approval_safety` — **nothing runs on a refusal**: between a refusing answer and the next tool
  call there is a new decision that grants that call.
-/

import Ziee.Agent.Appended

namespace Ziee.Agent

open PortProgram Ziee.Providers

/-- **A decision that lets the call run**: the policy allows it, or the policy defers to the
reviewer, the server is trusted and the reviewer allows it, or the gate approves it. -/
inductive Grants (core : AgentCore) (runId : Uuid) (call : ToolCall) : List PortEvent → Prop
  | policy (trusted : Bool) : Grants core runId call [⟨.isTrusted (serverKey call), trusted⟩,
        ⟨.decide call trusted core.sandbox, Decision.auto⟩]
  | reviewer (reviewer : Reviewer) (classified : Except AppError RiskAssessment) :
      core.reviewer = some reviewer → reviewer.review classified = .auto →
      Grants core runId call [⟨.isTrusted (serverKey call), true⟩,
        ⟨.decide call true core.sandbox, Decision.review⟩,
        ⟨.classify call reviewer.policy, classified⟩]
  | gate {trace : List PortEvent} {decision : Decision} (answer : ReviewDecision) :
      Settles core call trace decision → decision = .prompt ∨ decision = .review →
      answer = .approved ∨ answer = .approvedForSession → Grants core runId call (trace ++
        [⟨.gateRequest runId ⟨call, gateReason⟩, (.ok (.decided answer) : Except AppError _)⟩])

/-- An answer that keeps a call from running: the policy or the reviewer denies it, or the gate
does not approve it. -/
def Refuses (core : AgentCore) : PortEvent → Prop
  | ⟨.decide _ _ _, decision⟩ => decision = Decision.deny
  | ⟨.classify _ _, classified⟩ =>
    ∃ reviewer, core.reviewer = some reviewer ∧ reviewer.review classified = .deny
  | ⟨.gateRequest _ _, answer⟩ => answer ≠ .ok (.decided .approved) ∧
      answer ≠ .ok (.decided .approvedForSession)
  | _ => False

section Decisions

variable {core : AgentCore} {runId : Uuid} {call : ToolCall} {trace : List PortEvent}

theorem actOfOutcome_eq_execute {outcome : GateOutcome}
    (executes : actOfOutcome outcome = .execute) :
    ∃ answer, outcome = .decided answer ∧ (answer = .approved ∨ answer = .approvedForSession) := by
  cases outcome with
  | suspended ticket => cases executes
  | decided answer =>
    cases answer with
    | approved => exact ⟨_, rfl, Or.inl rfl⟩
    | approvedForSession => exact ⟨_, rfl, Or.inr rfl⟩
    | denied | abort => cases executes

/-- **A decision to execute is a grant.** -/
theorem Decides.grants (decides : Decides core runId call trace .execute) :
    Grants core runId call trace := by
  generalize act : Act.execute = last at decides
  cases decides with
  | auto settles =>
    generalize auto : Decision.auto = decision at settles
    cases settles with
    | direct trusted decision =>
      cases auto
      exact .policy trusted
    | unreviewed trusted => cases auto
    | reviewed trusted reviewer classified wired =>
      obtain ⟨rfl, allowed⟩ := (clampReviewerDecision_auto_iff trusted _).mp auto.symm
      exact .reviewer reviewer classified wired allowed
  | denied settles => cases act
  | asked outcome settles undecided =>
    obtain ⟨answer, rfl, approved⟩ := actOfOutcome_eq_execute act.symm
    exact .gate answer settles undecided approved

theorem Settles.not_refuses {decision : Decision} (settles : Settles core call trace decision)
    (undecided : decision = .prompt ∨ decision = .review) :
    ∀ event ∈ trace, ¬ Refuses core event := by
  have undenied : decision ≠ .deny := by
    rintro rfl
    rcases undecided with impossible | impossible <;> cases impossible
  cases settles with
  | direct trusted decision =>
    simp only [List.forall_mem_cons, Refuses]
    exact ⟨id, undenied, List.forall_mem_nil _⟩
  | unreviewed trusted =>
    simp only [List.forall_mem_cons, Refuses]
    exact ⟨id, nofun, List.forall_mem_nil _⟩
  | reviewed trusted reviewer classified wired =>
    simp only [List.forall_mem_cons, Refuses]
    refine ⟨id, nofun, ?_, List.forall_mem_nil _⟩
    rintro ⟨other, same, denied⟩
    cases wired.symm.trans same
    rw [denied] at undenied
    exact undenied (by cases trusted <;> rfl)

/-- **No answer of a grant is a refusal.** -/
theorem Grants.not_refuses (grants : Grants core runId call trace) :
    ∀ event ∈ trace, ¬ Refuses core event := by
  cases grants with
  | policy trusted =>
    simp only [List.forall_mem_cons, Refuses]
    exact ⟨id, nofun, List.forall_mem_nil _⟩
  | reviewer reviewer classified wired allowed =>
    simp only [List.forall_mem_cons, Refuses]
    refine ⟨id, nofun, ?_, List.forall_mem_nil _⟩
    rintro ⟨other, same, denied⟩
    cases wired.symm.trans same
    rw [allowed] at denied
    cases denied
  | gate answer settles undecided approved =>
    refine List.forall_mem_append.mpr ⟨settles.not_refuses undecided, ?_⟩
    simp only [List.forall_mem_cons, Refuses]
    refine ⟨fun refused => ?_, List.forall_mem_nil _⟩
    rcases approved with rfl | rfl
    · exact refused.1 rfl
    · exact refused.2 rfl

end Decisions

/-! ### Granted traces -/

/-- **Every tool call comes right after a decision that grants it**, and is not a core tool. -/
def Granted (core : AgentCore) (runId : Uuid) (trace : List PortEvent) : Prop :=
  ∀ before runId' call key answer after,
    trace = before ++ ⟨.callTool runId' call key, answer⟩ :: after →
    CoreTool.fromName call.name = none ∧
      ∃ earlier decision, before = earlier ++ decision ∧ Grants core runId call decision

def Query.toolless : Query → Bool
  | .callTool _ _ _ => false
  | _ => true

theorem Query.toolless_of_ofPrelude (query : Query) (prelude : query.ofPrelude = true) :
    query.toolless = true := by
  cases query with
  | callTool => cases prelude
  | _ => rfl

theorem Query.toolless_of_ofRecord (query : Query) (record : query.ofRecord = true) :
    query.toolless = true := by
  cases query with
  | callTool => cases record
  | _ => rfl

theorem Query.toolless_of_ofDecision (query : Query) (decision : query.ofDecision = true) :
    query.toolless = true := by
  cases query with
  | callTool => cases decision
  | _ => rfl

theorem Query.toolless_of_isAfterRound (query : Query) (hook : query.isAfterRound = true) :
    query.toolless = true := by
  cases query with
  | callTool => cases hook
  | _ => rfl

section Traces

variable {core : AgentCore} {runId : Uuid} {call : ToolCall} {before after trace : List PortEvent}

theorem granted_of_toolless (only : OnlyAsks Query.toolless trace) : Granted core runId trace := by
  intro before runId' call key answer after split
  have member : ⟨.callTool runId' call key, answer⟩ ∈ trace :=
    split ▸ List.mem_append_right _ List.mem_cons_self
  exact absurd member (only.not_mem rfl)

theorem closed_granted (core : AgentCore) (runId : Uuid) : Closed (Granted core runId) where
  nil := granted_of_toolless onlyAsks_nil
  append := by
    intro first second one two before runId' call key answer after split
    rcases List.append_eq_append_iff.mp split with ⟨middle, rfl, same⟩ | ⟨middle, same, later⟩
    · obtain ⟨named, earlier, decision, rfl, grants⟩ := two middle _ _ _ _ _ same
      exact ⟨named, first ++ earlier, decision, (List.append_assoc ..).symm, grants⟩
    · cases middle with
      | nil =>
        obtain ⟨named, earlier, decision, none, grants⟩ := two [] _ _ _ _ _ later.symm
        obtain ⟨rfl, rfl⟩ := List.append_eq_nil_iff.mp none.symm
        exact ⟨named, before, [], (List.append_nil _).symm, grants⟩
      | cons event middle =>
        obtain ⟨rfl, -⟩ := List.cons.inj later
        exact one before _ _ _ _ _ same

theorem granted_call {key : IdempotencyKey} {answer : Except AppError ToolResult}
    (named : CoreTool.fromName call.name = none) (grants : Grants core runId call before)
    (quiet : OnlyAsks Query.toolless before) (rest : OnlyAsks Query.toolless after)
    {runId' : Uuid} :
    Granted core runId (before ++ ⟨.callTool runId' call key, answer⟩ :: after) := by
  intro before' runId'' call' key' answer' after' split
  rcases List.append_eq_append_iff.mp split with ⟨middle, rfl, same⟩ | ⟨middle, same, later⟩
  · cases middle with
    | nil =>
      obtain ⟨event, -⟩ := List.cons.inj same
      cases event
      exact ⟨named, [], before, List.append_nil _, grants⟩
    | cons event middle =>
      obtain ⟨-, tail⟩ := List.cons.inj same
      have member : ⟨.callTool runId'' call' key', answer'⟩ ∈ after :=
        tail ▸ List.mem_append_right _ List.mem_cons_self
      exact absurd member (rest.not_mem rfl)
  · cases middle with
    | nil =>
      rw [List.append_nil] at same
      obtain ⟨event, -⟩ := List.cons.inj later
      cases event
      exact ⟨named, [], before, same.symm, grants⟩
    | cons event middle =>
      obtain ⟨rfl, -⟩ := List.cons.inj later
      have member : ⟨.callTool runId'' call' key', answer'⟩ ∈ before :=
        same ▸ List.mem_append_right _ List.mem_cons_self
      exact absurd member (quiet.not_mem rfl)

end Traces

/-! ### The sections that call no tool -/

section Toolless

variable {core : AgentCore} {request : AgentTurnRequest} {runId : Uuid} {call : ToolCall}

theorem pushEmit_records (events : List AgentEvent) (event : AgentEvent) :
    Asks Query.ofRecord (pushEmit events event) :=
  (pushEmit_asks events event).mono Query.ofRecord_of_ofReport

theorem stopWith_records (events : List AgentEvent) (reason : StopReason) :
    Asks Query.ofRecord (stopWith events reason) :=
  (stopWith_asks events reason).mono Query.ofRecord_of_ofReport

theorem appendResult_records (runId : Uuid) (call : ToolCall) (result : ToolResult)
    (events : List AgentEvent) : Asks Query.ofRecord (appendResult runId call result events) :=
  (appendResult_asks runId call result events).mono Query.ofRecord_of_ofReport

theorem recordExecuted_records (key : IdempotencyKey) (result : ToolResult) (round : RoundState) :
    Asks Query.ofRecord (recordExecuted runId key call result round) :=
  .bind (.attempt rfl) fun _ => .bind (appendResult_records _ _ _ _) fun _ => .pure _

theorem decideAct_toolless : Asks Query.toolless (decideAct core runId call) :=
  decideAct_asks.mono Query.toolless_of_ofDecision

theorem refuseCalls_records {reason : StopReason} (calls : List ToolCall)
    (events : List AgentEvent) : Asks Query.ofRecord (refuseCalls runId reason calls events) :=
  (refuseCalls_asks calls events).mono Query.ofRecord_of_ofReport

theorem finishRound_records (state : LoopState) (round : RoundState) :
    Asks Query.ofRecord (finishRound state round) :=
  (finishRound_asks state round).mono Query.ofRecord_of_ofReport

theorem postRound_toolless (extensions : List Extension) (message : ChatMessage)
    (fromModel : Bool) : Asks Query.toolless (postRound extensions message fromModel) :=
  (postRound_asks extensions message fromModel).mono Query.toolless_of_isAfterRound

end Toolless

/-! ### Every run -/

section Runs

variable {core : AgentCore} {request : AgentTurnRequest} {extensions : List Extension}
  {scope : ToolScope}

theorem Asks.granted {α : Type} {runId : Uuid} {program : AgentM α}
    (toolless : Asks Query.toolless program) : Keeps (Granted core runId) program :=
  Keeps.mono toolless fun _ => granted_of_toolless

theorem Asks.recorded {α : Type} {runId : Uuid} {program : AgentM α}
    (records : Asks Query.ofRecord program) : Keeps (Granted core runId) program :=
  (records.mono Query.toolless_of_ofRecord).granted

theorem Asks.assembles {α : Type} {runId : Uuid} {program : AgentM α}
    (prelude : Asks Query.ofPrelude program) : Keeps (Granted core runId) program :=
  (prelude.mono Query.toolless_of_ofPrelude).granted

/-- **One call** reaches the tool provider only on a grant. -/
theorem runCall_granted (iteration ordinal : Nat) (call : ToolCall) (round : RoundState) :
    Keeps (Granted core request.runId)
      (runCall core request scope iteration ordinal call round) := by
  unfold runCall
  cases named : CoreTool.fromName call.name with
  | some tool => exact Keeps.bind (closed_granted _ _) (Asks.granted (.perform rfl)) fun _ =>
      (recordExecuted_records _ _ _).recorded
  | none =>
    intro trace outcome run
    rcases runs_bind_iff.mp run with ⟨error, -, failed⟩ | ⟨act, before, after, rfl, head, rest⟩
    · exact granted_of_toolless (decideAct_toolless _ _ failed)
    have quiet := decideAct_toolless _ _ head
    cases act with
    | execute =>
      obtain ⟨result, tail, rfl, record⟩ := runs_perform_bind_iff.mp rest
      exact granted_call named (runs_decideAct_ok head).grants quiet
        ((recordExecuted_records _ _ _ _ _ record).mono Query.toolless_of_ofRecord)
    | deny reason =>
      have records : Asks Query.ofRecord _ :=
        .bind (appendResult_records request.runId call (errorToolResult reason) round.events)
          fun events =>
          .pure { round with events := events }
      exact granted_of_toolless (onlyAsks_append_iff.mpr
        ⟨quiet, (records _ _ rest).mono Query.toolless_of_ofRecord⟩)
    | suspend ticket =>
      have records : Asks Query.ofRecord _ :=
        .bind (pushEmit_records round.events (.gateOpened ticket)) fun events =>
          .pure { round with events := events, suspended := true }
      exact granted_of_toolless (onlyAsks_append_iff.mpr
        ⟨quiet, (records _ _ rest).mono Query.toolless_of_ofRecord⟩)

theorem runCalls_granted (iteration : Nat) (calls : List ToolCall) :
    ∀ ordinal round, Keeps (Granted core request.runId)
      (runCalls core request scope iteration ordinal calls round) := by
  induction calls with
  | nil => exact fun _ _ => Asks.granted (.pure _)
  | cons call rest ih =>
    exact fun _ _ => Keeps.bind (closed_granted _ _) (runCall_granted _ _ _ _) fun _ => ih _ _

theorem react_granted (state : LoopState) (message : ChatMessage) (fromModel : Bool)
    (tokens : Nat) : Keeps (Granted core request.runId)
      (react core request extensions scope state message fromModel tokens) := by
  refine Keeps.bind (closed_granted _ _) (postRound_toolless _ _ _).granted fun ended => ?_
  refine Keeps.ite (stopWith_records _ _).recorded ?_
  refine Keeps.ite (stopWith_records _ _).recorded ?_
  refine Keeps.bind (closed_granted _ _) (Asks.granted (.perform rfl)) fun cancelled => ?_
  split
  · exact Asks.recorded (.bind (refuseCalls_records _ _) fun _ => stopWith_records _ _)
  · exact Keeps.bind (closed_granted _ _) (runCalls_granted _ _ _ _) fun _ =>
      (finishRound_records _ _).recorded

theorem receive_granted (state : LoopState) (reply : ModelReply) :
    Keeps (Granted core request.runId) (receive core request extensions scope state reply) := by
  refine Keeps.bind (closed_granted _ _) (Asks.granted (.attempt rfl)) fun _ => ?_
  refine Keeps.bind (closed_granted _ _) (Asks.granted (.perform rfl)) fun _ => ?_
  exact Keeps.bind (closed_granted _ _) (Asks.granted (.perform rfl)) fun _ =>
    react_granted _ _ _ _

theorem answer_granted (state : LoopState) (resumed : Option ChatMessage)
    (sent : ChatRequest) : Keeps (Granted core request.runId)
      (answer core request extensions scope state resumed sent) := by
  cases resumed with
  | some message => exact react_granted _ _ _ _
  | none =>
    refine Keeps.bind (closed_granted _ _) (Asks.granted (.perform rfl)) fun call => ?_
    cases call with
    | cancelled => exact (stopWith_records _ _).recorded
    | finished result =>
      cases result with
      | error error => exact Keeps.fail (closed_granted _ _) error
      | ok reply => exact receive_granted _ _

theorem pass_granted (state : LoopState) :
    Keeps (Granted core request.runId) (pass core request extensions state) := by
  refine Keeps.bind (closed_granted _ _) (Asks.granted (.perform rfl)) fun cancelled => ?_
  refine Keeps.ite (stopWith_records _ _).recorded ?_
  split
  · exact (stopWith_records _ _).recorded
  · refine Keeps.bind (closed_granted _ _) drainSteerNotes_prelude.assembles fun _ => ?_
    refine Keeps.bind (closed_granted _ _) (runContribute_prelude _ _).assembles fun context => ?_
    refine Keeps.bind (closed_granted _ _) (Asks.granted (.attempt rfl)) fun history => ?_
    refine Keeps.bind (closed_granted _ _) (Asks.granted (.attempt rfl)) fun tools => ?_
    refine Keeps.bind (closed_granted _ _) (runBeforeModel_prelude _ _).assembles fun vetted => ?_
    exact Keeps.ite (stopWith_records _ _).recorded (answer_granted _ _ _)

theorem loop_granted (fuel : Nat) :
    ∀ state, Keeps (Granted core request.runId) (loop core request extensions fuel state) := by
  induction fuel with
  | zero => exact fun _ => Asks.granted (.pure _)
  | succ fuel ih =>
    refine fun state => Keeps.bind (closed_granted _ _) (pass_granted _) fun result => ?_
    cases result with
    | stop events => exact Asks.granted (.pure _)
    | again state' => exact ih state'

/-- **Every run of a turn**, however it ends. -/
theorem run_granted : Keeps (Granted core request.runId) (core.run request) := by
  refine Keeps.bind (closed_granted _ _) (Asks.granted ?_) fun _ => loop_granted _ _
  unfold seedTranscript
  split
  · exact .attempt rfl
  · exact .pure _

end Runs

/-! ### Decisions of a round -/

section Rounds

variable {core : AgentCore} {request : AgentTurnRequest} {scope : ToolScope} {runId : Uuid}
  {call : ToolCall} {trace : List PortEvent}

theorem decided_of_onlyAsks {asked : Query → Bool} (only : OnlyAsks asked trace)
    (other : ∀ call trusted sandbox, asked (.decide call trusted sandbox) = false) :
    trace.filterMap decidedCall? = [] := by
  refine List.filterMap_eq_nil_iff.mpr ?_
  rintro ⟨query, answer⟩ member
  cases query with
  | decide call trusted sandbox => exact absurd member (only.not_mem (other call trusted sandbox))
  | _ => rfl

theorem records_decided {α : Type} {program : AgentM α} {outcome : Except AppError α}
    (records : Asks Query.ofRecord program) (run : Runs program trace outcome) :
    trace.filterMap decidedCall? = [] :=
  decided_of_onlyAsks (records _ _ run) fun _ _ _ => rfl

theorem runs_decideAct_decided {outcome : Except AppError Act}
    (run : Runs (decideAct core runId call) trace outcome) :
    trace.filterMap decidedCall? = [call] := by
  rcases runs_bind_iff.mp run with ⟨error, -, failed⟩ | ⟨decision, before, after, rfl, head, rest⟩
  · obtain ⟨_, impossible, -⟩ := runs_settleDecision failed
    cases impossible
  obtain ⟨_, -, settles⟩ := runs_settleDecision head
  have gate : Asks (fun query => match query with | .gateRequest _ _ => true | _ => false)
      (askGate runId call) := .bind (.attempt rfl) fun _ => .pure _
  have later : after.filterMap decidedCall? = [] := by
    cases decision with
    | auto | deny => rw [(runs_pure_iff.mp rest).1, List.filterMap_nil]
    | prompt | review => exact decided_of_onlyAsks (gate _ _ rest) fun _ _ _ => rfl
  rw [List.filterMap_append, settles.decided.1, later, List.append_nil]

theorem runs_runCall_decided {iteration ordinal : Nat} {round : RoundState}
    {outcome : Except AppError RoundState}
    (run : Runs (runCall core request scope iteration ordinal call round) trace outcome) :
    trace.filterMap decidedCall? =
      [call].filter fun call => CoreTool.fromName call.name = none := by
  unfold runCall at run
  cases named : CoreTool.fromName call.name with
  | some tool =>
    rw [named] at run
    obtain ⟨result, tail, rfl, record⟩ := runs_perform_bind_iff.mp run
    have later : tail.filterMap decidedCall? = [] :=
      records_decided (recordExecuted_records _ _ _) record
    rw [List.filter_cons_of_neg (by simp [named]), List.filter_nil]
    exact later
  | none =>
    rw [named] at run
    rw [List.filter_cons_of_pos (by simp [named]), List.filter_nil]
    rcases runs_bind_iff.mp run with ⟨error, -, failed⟩ | ⟨act, before, after, rfl, head, rest⟩
    · exact runs_decideAct_decided failed
    have later : after.filterMap decidedCall? = [] := by
      cases act with
      | execute =>
        obtain ⟨result, tail, rfl, record⟩ := runs_perform_bind_iff.mp rest
        have nothing : tail.filterMap decidedCall? = [] :=
          records_decided (recordExecuted_records _ _ _) record
        exact nothing
      | deny reason =>
        exact records_decided
          (.bind (appendResult_records request.runId call (errorToolResult reason) round.events)
            fun events => .pure { round with events := events }) rest
      | suspend ticket =>
        exact records_decided
          (.bind (pushEmit_records round.events (.gateOpened ticket)) fun events =>
            .pure { round with events := events, suspended := true }) rest
    rw [List.filterMap_append, runs_decideAct_decided head, later, List.append_nil]

/-- **A round decides on its calls in order, on each at most once**, and on all of them unless a
port fails. -/
theorem runCalls_decided {iteration : Nat} (calls : List ToolCall) :
    ∀ ordinal round, Meets (runCalls core request scope iteration ordinal calls round)
      fun trace _ => trace.filterMap decidedCall? <+:
        calls.filter fun call => CoreTool.fromName call.name = none := by
  induction calls with
  | nil =>
    intro ordinal round trace outcome run
    rw [(runs_pure_iff.mp run).1]
    exact ⟨_, List.nil_append _⟩
  | cons call rest ih =>
    intro ordinal round trace outcome run
    have split : (call :: rest).filter (fun call => CoreTool.fromName call.name = none) =
        [call].filter (fun call => CoreTool.fromName call.name = none) ++
          rest.filter fun call => CoreTool.fromName call.name = none :=
      List.filter_append (p := _) [call] rest
    rw [split]
    rcases runs_bind_iff.mp run with ⟨error, -, failed⟩ | ⟨round', before, after, rfl, head, tail⟩
    · rw [runs_runCall_decided failed]
      exact ⟨_, rfl⟩
    · rw [List.filterMap_append, runs_runCall_decided head]
      obtain ⟨others, same⟩ := ih _ _ _ _ tail
      exact ⟨others, by rw [List.append_assoc, same]⟩

end Rounds

/-! ### Approval safety -/

/-- **Approval safety.** In every run of a turn, a tool is called only on a decision that grants
that very call, and after an answer that refuses a call nothing is called before a new decision
grants it; within a round each call is decided on at most once. -/
theorem approval_safety (core : AgentCore) (request : AgentTurnRequest) :
    (Meets (core.run request) fun trace _ => Granted core request.runId trace ∧
      ∀ before refusal between runId call key answer after,
        trace = before ++ refusal :: (between ++ ⟨.callTool runId call key, answer⟩ :: after) →
        Refuses core refusal → ∃ earlier decision, between = earlier ++ decision ∧
          Grants core request.runId call decision) ∧
    ∀ scope iteration calls round,
      Meets (runCalls core request scope iteration 0 calls round) fun trace _ =>
        trace.filterMap decidedCall? <+:
          calls.filter fun call => CoreTool.fromName call.name = none := by
  refine ⟨fun trace outcome run => ?_, fun scope iteration calls => runCalls_decided calls 0⟩
  have granted := run_granted trace outcome run
  refine ⟨granted, fun before refusal between runId call key answer after split refuses => ?_⟩
  obtain ⟨-, earlier, decision, same, grants⟩ := granted (before ++ refusal :: between) runId call
    key answer after (by rw [split, List.append_assoc]; rfl)
  rcases List.append_eq_append_iff.mp same with ⟨middle, rfl, rest⟩ | ⟨middle, rfl, rest⟩
  · cases middle with
    | nil =>
      have member : refusal ∈ decision := by
        rw [List.nil_append] at rest
        exact rest ▸ List.mem_cons_self
      exact absurd refuses (grants.not_refuses refusal member)
    | cons event middle =>
      obtain ⟨-, rfl⟩ := List.cons.inj rest
      exact ⟨middle, decision, rfl, grants⟩
  · have member : refusal ∈ decision := rest ▸ List.mem_append_right _ List.mem_cons_self
    exact absurd refuses (grants.not_refuses refusal member)

end Ziee.Agent
