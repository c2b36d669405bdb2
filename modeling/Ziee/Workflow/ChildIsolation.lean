/-
**Sub-agents on the stores of a workflow host** (`fanout.rs`, `agent_dispatch.rs`).

The children of a fan-out run next to each other: a label of their joint log is a child's number
and one of its port calls. A child that was isolated keeps its transcript to itself; one that was
not has its parent's store, where its fresh run id names no row, and its parent's extensions, which
are bound to the parent's run.

* `ChildrenRun.isolates` — isolated children do; `appended_lost` — a child that was not isolated
  has already lost its seed.
* `child_isolation_iff` — **a fan-out isolates its children exactly when the core says so, or
  there are none.**
-/

import Ziee.Agent.FanOut
import Ziee.Workflow.AgentHost

namespace Ziee.Workflow

open PortProgram Ziee.Providers Ziee.Agent

variable {runId : Uuid} {message : ChatMessage} {start : ChildStores} {child : Child}
  {rest : List Child}

section Made

variable {core : AgentCore} {parentRunId userId : Uuid}

def AllMade (core : AgentCore) (userId : Uuid) (trace : List FanOutEvent) : Prop :=
  ∀ child ∈ spawnedChildren trace, ∃ childId spec, child = makeChild core userId childId spec

variable {last : ChildStores} {trace : List PortEvent}

theorem closed_allMade : Closed (AllMade core userId) where
  nil := List.forall_mem_nil _
  append := fun first second child member => by
    unfold spawnedChildren at member
    rw [List.filterMap_append] at member
    exact (List.mem_append.mp member).elim (first child) (second child)

theorem allMade_silent {event : FanOutEvent} (none : spawnedChild? event = none) :
    AllMade core userId [event] := by
  unfold AllMade spawnedChildren
  rw [List.filterMap_cons_none none]
  exact List.forall_mem_nil _

theorem spawnChild_allMade (mode : FailureMode) (spec : SubagentSpec) (state : Spawning) :
    Keeps (AllMade core userId) (spawnChild core userId mode spec state) := by
  refine .bind closed_allMade (.perform fun _ => allMade_silent rfl) fun childId => ?_
  refine .bind closed_allMade ?_ fun resolved => ?_
  · unfold resolveModel
    cases spec.modelId with
    | none => exact .pure closed_allMade _
    | some modelId => exact .perform fun _ => allMade_silent rfl
  cases resolved with
  | error error =>
    cases mode with
    | failFast =>
      exact .bind closed_allMade (.perform fun _ => allMade_silent rfl) fun _ =>
        .fail closed_allMade _
    | errorSummary => exact .pure closed_allMade _
  | ok value =>
    refine .bind closed_allMade ?_ fun _ => .bind closed_allMade ?_ fun _ => .pure closed_allMade _
    · exact .ite (.perform fun _ => allMade_silent rfl) (.pure closed_allMade _)
    · exact .perform fun _ => List.forall_mem_singleton.mpr ⟨childId, spec, rfl⟩

theorem joinChild_allMade (mode : FailureMode) (ids : List Uuid) (idx : Nat)
    (outcome : ChildOutcome) (activity : List SubAgentChild) :
    Keeps (AllMade core userId) (joinChild core mode ids idx outcome activity) := by
  have settle : ∀ ok, Keeps (AllMade core userId) (settleChildRun core ids idx ok) := by
    intro ok
    unfold settleChildRun
    cases ids[idx]? with
    | none => exact .fail closed_allMade _
    | some childId => exact .ite (.perform fun _ => allMade_silent rfl) (.pure closed_allMade _)
  have failed : ∀ error detail activity,
      Keeps (AllMade core userId) (failChild mode error detail activity) := by
    intro error detail activity
    cases mode with
    | failFast =>
      exact .bind closed_allMade (.perform fun _ => allMade_silent rfl) fun _ =>
        .fail closed_allMade _
    | errorSummary => exact .pure closed_allMade _
  cases outcome with
  | ready summary => exact .pure closed_allMade _
  | spawned handle =>
    refine .bind closed_allMade (.perform fun _ => allMade_silent rfl) fun ending => ?_
    match ending with
    | .returned (.ok events) =>
      exact .bind closed_allMade (settle true) fun _ => .pure closed_allMade _
    | .returned (.error error) =>
      exact .bind closed_allMade (settle false) fun _ => failed _ _ _
    | .panicked display => exact .bind closed_allMade (settle false) fun _ => failed _ _ _

/-- **Every child of a fan-out is the core's clone.** -/
theorem fanOutInner_allMade (specs : List SubagentSpec) (mode : FailureMode) :
    Keeps (AllMade core userId) (fanOutInner core parentRunId userId specs mode) := by
  have spawns : ∀ (specs : List SubagentSpec) (state : Spawning),
      Keeps (AllMade core userId) (spawnAll core userId mode specs state) := by
    intro specs
    induction specs with
    | nil => exact fun state => .pure closed_allMade state
    | cons spec rest ih =>
      exact fun state => .bind closed_allMade (spawnChild_allMade mode spec state) ih
  have joins : ∀ (ids : List Uuid) (outcomes : List ChildOutcome) (idx : Nat)
      (activity : List SubAgentChild) (out : List SubagentSummary), Keeps (AllMade core userId)
        (joinAll core parentRunId mode ids outcomes idx activity out) := by
    intro ids outcomes
    induction outcomes with
    | nil => exact fun _ _ out => .pure closed_allMade out
    | cons outcome rest ih =>
      intro idx activity out
      exact .bind closed_allMade (joinChild_allMade mode ids idx outcome activity) fun joined =>
        .bind closed_allMade (.perform fun _ => allMade_silent rfl) fun _ => ih _ _ _
  refine .bind closed_allMade (spawns specs _) fun state => ?_
  refine .bind closed_allMade (.perform fun _ => allMade_silent rfl) fun _ => ?_
  exact .bind closed_allMade (joins _ _ _ _ _) fun out => .pure closed_allMade _

end Made

/-! ### The stores -/

/-- What the children's port calls read and write: the host's state, and for each child the
transcript store of its own. -/
structure ChildStores where
  host : HostState
  own : Nat → Uuid → List ChatMessage

/-- `EphemeralTranscript::append` in the store of one child. -/
def ChildStores.push (stores : ChildStores) (idx : Nat) (runId : Uuid) (message : ChatMessage) :
    ChildStores :=
  { stores with own := fun idx' runId' =>
      if idx' = idx ∧ runId' = runId then stores.own idx runId ++ [message]
      else stores.own idx' runId' }

def ChildStores.load (stores : ChildStores) (idx : Nat) (child : Child) (runId : Uuid) :
    List ChatMessage :=
  match child.transcript with
  | .inherited => stores.host.rows.load runId
  | .ephemeral => stores.own idx runId

def usesTranscript : Query → Bool
  | .transcriptLoad _ | .transcriptAppend _ _ => true
  | _ => false

def hook? : PortEvent → Option Extension
  | ⟨.beforeModel extension _, _⟩ => some extension
  | _ => none

/-- **One port call of one child.** Only the transcript can be a child's own; every other port is
the one its parent has, and the hooks that run are those of the extensions it kept. -/
inductive ChildStep (host : AgentHost) (children : List Child) :
    ChildStores → Nat × PortEvent → ChildStores → Prop
  | shared {stores : ChildStores} {idx : Nat} {child : Child} {event : PortEvent}
      {state : HostState} : children[idx]? = some child →
      (usesTranscript event.1 = true → child.transcript = .inherited) →
      (∀ extension, hook? event = some extension → extension ∈ child.core.extensions) →
      HostAnswers host stores.host event state →
      ChildStep host children stores (idx, event) { stores with host := state }
  | loads {stores : ChildStores} {idx : Nat} {child : Child} (runId : Uuid) :
      children[idx]? = some child → child.transcript = .ephemeral →
      ChildStep host children stores (idx, loaded runId (stores.own idx runId)) stores
  | appends {stores : ChildStores} {idx : Nat} {child : Child} (runId : Uuid)
      (message : ChatMessage) : children[idx]? = some child → child.transcript = .ephemeral →
      ChildStep host children stores (idx, appended runId message) (stores.push idx runId message)

def eventOf? (idx : Nat) (label : Nat × PortEvent) : Option PortEvent :=
  if label.1 = idx then some label.2 else none

/-- **The children of a fan-out have run**: each of them its turn, possibly cut, and their port
calls interleaved in any order. -/
structure ChildrenRun (host : AgentHost) (children : List Child) (start : ChildStores)
    (log : List (Nat × PortEvent)) (last : ChildStores) : Prop where
  steps : Follows (ChildStep host children) start log last
  turns : ∀ idx child, children[idx]? = some child →
    RunsPartly (child.core.run child.request) (log.filterMap (eventOf? idx))

def isLoad : PortEvent → Bool
  | ⟨.transcriptLoad _, _⟩ => true
  | _ => false

/-- **The children are isolated**: the parent's transcript is what it was, and a message that a
child has appended is there when it loads next, wherever in the log that is. -/
structure Isolates (host : AgentHost) (children : List Child) (start : ChildStores)
    (log : List (Nat × PortEvent)) (last : ChildStores) : Prop where
  parent : last.host.rows.load host.runId = start.host.rows.load host.runId
  kept : ∀ {before between after : List (Nat × PortEvent)} {idx : Nat} {child : Child}
    {runId : Uuid} {message : ChatMessage} {middle : ChildStores}, children[idx]? = some child →
    log = (before ++ (idx, appended runId message) :: between) ++ after →
    (∀ label ∈ between, label.1 = idx → isLoad label.2 = false) →
    Follows (ChildStep host children) start (before ++ (idx, appended runId message) :: between)
      middle →
    message ∈ middle.load idx child runId

/-! ### Isolated children -/

section Isolated

variable {host : AgentHost} {children : List Child} {stores stores' : ChildStores}
  {label : Nat × PortEvent} {log : List (Nat × PortEvent)}

def Child.Isolated (child : Child) : Prop :=
  child.transcript = .ephemeral ∧ child.core.extensions = []

theorem ChildStep.parent (isolated : ∀ child ∈ children, Child.Isolated child)
    (step : ChildStep host children stores label stores') (runId : Uuid) :
    stores'.host.rows.load runId = stores.host.rows.load runId := by
  cases step with
  | @shared idx child event state found own hooks answers =>
    obtain ⟨ephemeral, bare⟩ := isolated child (List.mem_of_getElem? found)
    refine answers.load_eq ?_ runId
    obtain ⟨query, answer⟩ := event
    cases query with
    | transcriptAppend =>
      have inherited := own rfl
      rw [ephemeral] at inherited
      cases inherited
    | beforeModel extension request =>
      have registered := hooks extension rfl
      rw [bare] at registered
      cases registered
    | _ => rfl
  | loads => rfl
  | appends => rfl

theorem ChildStep.own (step : ChildStep host children stores label stores') {idx : Nat}
    (member : message ∈ stores.own idx runId) : message ∈ stores'.own idx runId := by
  cases step with
  | shared | loads => exact member
  | @appends idx' child runId' message' found ephemeral =>
    unfold ChildStores.push
    by_cases same : idx = idx' ∧ runId = runId'
    · simp only [same, and_self, if_true]
      exact List.mem_append_left _ (same.1 ▸ same.2 ▸ member)
    · simp only [same, if_false]
      exact member

theorem ChildStep.pushed (isolated : ∀ child ∈ children, Child.Isolated child) {idx : Nat}
    (step : ChildStep host children stores (idx, appended runId message) stores') :
    message ∈ stores'.own idx runId := by
  generalize called : (idx, appended runId message) = label at step
  cases step with
  | @shared idx' child event state found own =>
    cases called
    obtain ⟨ephemeral, -⟩ := isolated child (List.mem_of_getElem? found)
    have inherited := own rfl
    rw [ephemeral] at inherited
    cases inherited
  | loads => cases called
  | appends runId' message' =>
    cases called
    unfold ChildStores.push
    simp only [and_self, if_true]
    exact List.mem_append_right _ (List.mem_singleton.mpr rfl)

theorem ChildrenRun.isolates (isolated : ∀ child ∈ children, Child.Isolated child)
    (run : ChildrenRun host children start log last) : Isolates host children start log last := by
  constructor
  · let unchanged : ChildStores → Prop := fun stores =>
      stores.host.rows.load host.runId = start.host.rows.load host.runId
    have same : unchanged last := run.steps.preserves unchanged
      (fun same step => (step.parent isolated host.runId).trans same) rfl
    exact same
  · intro before between after idx child runId message middle found _ _ steps
    obtain ⟨_, -, here⟩ := Follows.append_iff.mp steps
    cases here with
    | cons step later =>
      let owned : ChildStores → Prop := fun stores => message ∈ stores.own idx runId
      have kept : owned middle := later.preserves owned (fun member step => step.own member)
        (step.pushed isolated)
      unfold ChildStores.load
      rw [(isolated child (List.mem_of_getElem? found)).1]
      exact kept

end Isolated

/-! ### A child that was not isolated -/

theorem follows_first {host : AgentHost}
    (inherited : child.transcript = .inherited) {state last : HostState}
    (follows : Follows (HostAnswers host) state trace last)
    (hooks : ∀ extension ∈ trace.filterMap hook?, extension ∈ child.core.extensions)
    (own : Nat → Uuid → List ChatMessage) :
    Follows (ChildStep host (child :: rest)) ⟨state, own⟩ (trace.map fun event => (0, event))
      ⟨last, own⟩ := by
  induction follows with
  | nil => exact .nil _
  | cons here _ ih =>
    refine .cons (.shared rfl (fun _ => inherited) (fun extension found => ?_) here)
      (ih fun extension member => ?_)
    · exact hooks extension (List.mem_filterMap.mpr ⟨_, List.mem_cons_self, found⟩)
    · obtain ⟨event, later, found⟩ := List.mem_filterMap.mp member
      exact hooks extension (List.mem_filterMap.mpr ⟨event, List.mem_cons_of_mem _ later, found⟩)

theorem childrenRun_first {host : AgentHost} (steps : Follows (ChildStep host (child :: rest)) start
      (trace.map fun event => (0, event)) last)
    (turn : RunsPartly (child.core.run child.request) trace) :
    ChildrenRun host (child :: rest) start (trace.map fun event => (0, event)) last := by
  refine ⟨steps, fun idx other found => ?_⟩
  rw [List.filterMap_map]
  cases idx with
  | zero =>
    have own : trace.filterMap (eventOf? 0 ∘ fun event => (0, event)) = trace := List.filterMap_some
    cases found
    rw [own]
    exact turn
  | succ idx =>
    have none : trace.filterMap (eventOf? (idx + 1) ∘ fun event => (0, event)) = [] :=
      List.filterMap_eq_nil_iff.mpr fun _ _ => rfl
    rw [none]
    exact exists_runs (succeedingPorts [] []) (other.core.run other.request)

/-- **The seed of a child that was not isolated is lost**: it is appended under a run id that names
no row, so the next load finds nothing. -/
theorem appended_lost {host : AgentHost} {log : List (Nat × PortEvent)}
    (inherited : child.transcript = .inherited) (fresh : start.host.rows runId = none) :
    ¬ Isolates host (child :: rest) start ((0, appended runId message) :: log) last := by
  intro isolates
  let middle : ChildStores :=
    { start with host := { start.host with rows := start.host.rows.append runId message } }
  have step : ChildStep host (child :: rest) start (0, appended runId message) middle :=
    .shared rfl (fun _ => inherited) nofun (.appends start.host runId message)
  have split : (0, appended runId message) :: log =
      ([] ++ (0, appended runId message) :: []) ++ log := rfl
  have kept : message ∈ middle.load 0 child runId :=
    isolates.kept rfl split (List.forall_mem_nil _) (.cons step (.nil middle))
  have nothing : middle.load 0 child runId = [] := by
    unfold ChildStores.load
    rw [inherited]
    exact Rows.load_append_absent fresh
  rw [nothing] at kept
  cases kept

section Shared

variable {core : AgentCore} {userId childId : Uuid} {spec : SubagentSpec}

theorem makeChild_inherited (shared : core.isolateChildren = false) :
    (makeChild core userId childId spec).transcript = .inherited := by
  show (if core.isolateChildren then TranscriptHome.ephemeral else .inherited) = .inherited
  rw [shared]
  rfl

theorem makeChild_isolated (isolation : core.isolateChildren = true) :
    Child.Isolated (makeChild core userId childId spec) := by
  constructor
  · show (if core.isolateChildren then TranscriptHome.ephemeral else .inherited) = .ephemeral
    rw [isolation]
    rfl
  · show (childCore core).extensions = []
    unfold childCore
    rw [isolation]
    rfl

theorem exists_not_isolates {host : AgentHost}
    (shared : core.isolateChildren = false) (fresh : start.host.rows childId = none) :
    ∃ log last, ChildrenRun host (makeChild core userId childId spec :: rest) start log last ∧
      ¬ Isolates host (makeChild core userId childId spec :: rest) start log last := by
  let child := makeChild core userId childId spec
  let seed : ChatMessage := .ofUser "Proceed with your task."
  have inherited : child.transcript = .inherited := makeChild_inherited shared
  have begins : RunsPartly (child.core.run child.request) [appended childId seed] := by
    obtain ⟨trace, outcome, run⟩ := exists_runs (succeedingPorts [] [])
      (loop child.core child.request (sortedExtensions child.core.extensions)
        (child.core.budget.maxSteps + 1) (initialState child.core child.request))
    exact ⟨trace, outcome, .ask (I := ports) _ _ _ run⟩
  have follows : Follows (HostAnswers host) start.host [appended childId seed] _ :=
    .cons (.appends start.host childId seed) (.nil _)
  exact ⟨_, _, childrenRun_first (follows_first inherited follows
    (List.forall_mem_nil _) start.own) begins, appended_lost inherited fresh⟩

end Shared

/-- **A fan-out isolates its children exactly when the core isolates them or there are none.**
For every run of a fan-out, in either failure mode, whose children have run ids that name no row:
whatever the children do, the parent's transcript is what it was and what a child appends its next
load returns, if and only if the core isolates its children or none was spawned. -/
theorem child_isolation_iff {core : AgentCore} {userId : Uuid} {specs : List SubagentSpec}
    {mode : FailureMode} {trace : List FanOutEvent}
    {outcome : Except AppError (List SubagentSummary)} (host : AgentHost) (start : ChildStores)
    (run : Runs (fanOutInner core host.runId userId specs mode) trace outcome)
    (fresh : ∀ child ∈ spawnedChildren trace, start.host.rows child.request.runId = none) :
    (∀ log last, ChildrenRun host (spawnedChildren trace) start log last →
      Isolates host (spawnedChildren trace) start log last) ↔
      core.isolateChildren = true ∨ spawnedChildren trace = [] := by
  have made := fanOutInner_allMade specs mode trace outcome run
  constructor
  · intro isolates
    cases isolation : core.isolateChildren with
    | true => exact Or.inl rfl
    | false =>
      cases children : spawnedChildren trace with
      | nil => exact Or.inr rfl
      | cons child rest =>
        obtain ⟨childId, spec, rfl⟩ := made child (children ▸ List.mem_cons_self)
        have absent := fresh _ (children ▸ List.mem_cons_self)
        obtain ⟨log, last, ran, not⟩ := exists_not_isolates isolation absent
        rw [children] at isolates
        exact absurd (isolates log last ran) not
  · intro either log last ran
    refine ran.isolates fun child member => ?_
    rcases either with isolation | none
    · obtain ⟨childId, spec, rfl⟩ := made child member
      exact makeChild_isolated isolation
    · rw [none] at member
      cases member

/-! ### A fan-out of a workflow step -/

def delegatingCore (isolation : Bool) : AgentCore where
  extensions := [⟨1000, 0⟩]
  reviewer := none
  taskStore := true
  steer := false
  schedule := false
  budget := .new 4 1000 1000
  limits := ⟨1, 6, 8⟩
  sandbox := .workspaceWrite true
  modelName := "model"
  resumeExecutesPending := true
  isolateChildren := isolation
  childSinkFactory := false

def researchSpec : SubagentSpec := ⟨none, "Read the notes.", ⟨[], false⟩, none⟩

def fanOutAnswers : ∀ query : FanOutQuery, query.Answer
  | .newId => 5
  | .resolve _ _ => .ok ()
  | .forChild _ _ => ()
  | .spawn _ => ()
  | .emit _ => ()
  | .await _ => .returned (.ok [])
  | .settleChild _ _ => ()
  | .stopSurvivors => ()

def sampleHost : AgentHost where
  runId := 1
  stepId := "research"
  approvalScope := 1
  approvalMode := .onRequest
  trusted := fun _ => false
  compactor := { eagerCompactor with count := fun _ => 0 }

def sampleFanOut (isolation : Bool) : List FanOutEvent × Except AppError (List SubagentSummary) :=
  (fanOutInner (delegatingCore isolation) sampleHost.runId 2 [researchSpec] .errorSummary).simulate
    (fun _ => fanOutAnswers) []

/-- The parent's run has a row, and nothing else has one. -/
def sampleStores : ChildStores where
  host :=
    { rows := fun id =>
        if id = 1 then some ⟨.running, [], some [.ofUser "go"], none, none⟩ else none
      approved := fun _ _ => false }
  own := fun _ _ => []

theorem sampleFanOut_children (isolation : Bool) : spawnedChildren (sampleFanOut isolation).1 =
    [makeChild (delegatingCore isolation) 2 5 researchSpec] := by
  cases isolation <;> rfl

theorem sampleFanOut_fresh (isolation : Bool) :
    ∀ child ∈ spawnedChildren (sampleFanOut isolation).1,
      sampleStores.host.rows child.request.runId = none := by
  rw [sampleFanOut_children]
  exact List.forall_mem_singleton.mpr rfl

theorem isolated_child_keeps : (spawnedChildren (sampleFanOut true).1).length = 1 ∧
      ∀ log last, ChildrenRun sampleHost (spawnedChildren (sampleFanOut true).1) sampleStores log
        last → Isolates sampleHost (spawnedChildren (sampleFanOut true).1) sampleStores log last :=
  ⟨rfl, (child_isolation_iff sampleHost sampleStores (runs_simulate _ _ [])
    (sampleFanOut_fresh true)).mpr (Or.inl rfl)⟩

/-- **A child that was not isolated runs on an empty transcript**: it appends its seed, and its own
next load returns nothing. -/
theorem shared_child_loses_seed : ∃ trace outcome log last,
      Runs (fanOutInner (delegatingCore false) sampleHost.runId 2 [researchSpec] .errorSummary)
        trace outcome ∧
      ChildrenRun sampleHost (spawnedChildren trace) sampleStores log last ∧
      log[0]? = some (0, appended 5 (.ofUser "Proceed with your task.")) ∧
      log[3]? = some (0, loaded 5 []) ∧
      ¬ Isolates sampleHost (spawnedChildren trace) sampleStores log last := by
  let child := makeChild (delegatingCore false) 2 5 researchSpec
  let script : Script := ⟨fun _ => [.text "done"], 7⟩
  let ran := sampleHost.execute script sampleStores.host (child.core.run child.request)
  have follows := sampleHost.follows_execute script sampleStores.host (child.core.run child.request)
  have turn : RunsPartly (child.core.run child.request) ran.1 :=
    (runs_execute (child.core.run child.request) sampleStores.host).partly
  have hooks : ∀ extension ∈ ran.1.filterMap hook?, extension ∈ child.core.extensions := by
    decide
  refine ⟨_, _, ran.1.map fun event => (0, event), ⟨ran.2.2, sampleStores.own⟩,
    runs_simulate (fun _ => fanOutAnswers) _ [], ?_, rfl, rfl, ?_⟩
  · exact sampleFanOut_children false ▸
      childrenRun_first (follows_first rfl follows hooks sampleStores.own) turn
  · exact sampleFanOut_children false ▸ appended_lost rfl rfl

end Ziee.Workflow
