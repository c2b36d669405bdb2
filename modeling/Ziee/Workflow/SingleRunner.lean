/-
**One runner at a time** (`resume_run` against itself).

`resume_run` looks whether a runner is resident, prepares the run, and only then registers; what it
saw may no longer hold. A thread is *unregistered* until it registers, and from then on it may start
a runner; a runner is *running* until it leaves its handle. As long as nobody registers while a
runner is resident, all threads but one are unregistered (`Led`), so no two of them execute steps:

* `single_runner` — in every interleaving of submissions and resume requests in which each
  registration finds no resident runner, at most one thread may execute the steps of the run.
* `two_runners` — two resume requests that both look before either registers start two runners.
-/

import Ziee.Workflow.RunControl

namespace Ziee.Workflow

open PortProgram Threads Ziee.Providers Ziee.Agent

/-- A query that neither moves the handle nor starts nor is a runner. -/
def ControlQuery.isQuiet : ControlQuery → Bool
  | .register | .setNoRunner | .unregister | .spawnRunner | .executeStep _ _ => false
  | _ => true

def ControlQuery.isExecution : ControlQuery → Bool
  | .executeStep _ _ => true
  | _ => false

/-- A runner's queries leave the handle alone until its last one. -/
def ControlQuery.isWork (query : ControlQuery) : Bool := query.isQuiet || query.isExecution

/-- A thread that is nothing to the runner, or no longer. -/
def Idle (thread : ControlM Unit) : Prop :=
  AsksOnly (I := controlPorts) (fun query => query.isQuiet = true) thread

/-- A thread that has registered and may start a runner. -/
def Armed (thread : ControlM Unit) : Prop :=
  Until (I := controlPorts) (fun query => query.isQuiet = true)
    (fun query => query = .spawnRunner) Idle thread

/-- A thread that starts no runner before it registers. -/
def Unregistered (thread : ControlM Unit) : Prop :=
  Until (I := controlPorts) (fun query => query.isQuiet = true)
    (fun query => query = .register) Armed thread

def Running (thread : ControlM Unit) : Prop :=
  Until (I := controlPorts) (fun query => query.isWork = true)
    (fun query => query = .setNoRunner ∨ query = .unregister) Idle thread

def Starting (thread : ControlM Unit) : Prop :=
  ∃ next : Bool → ControlM Unit, thread = .ask .hasHandle next ∧ Running (next true)

def Quiet {α : Type} (program : ControlM α) : Prop :=
  AsksOnly (I := controlPorts) (fun query => query.isQuiet = true) program

section Programs

theorem quiet_ask {query : ControlQuery} (quiet : query.isQuiet = true) : Quiet (ask query) :=
  .perform quiet

theorem quiet_findRun : Quiet findRun := .attempt rfl

theorem quiet_deliver (elicitationId : Uuid) (response : Json) :
    Quiet (deliver elicitationId response) := .attempt rfl

theorem quiet_execute (statement : Statement) : Quiet (execute statement) := .attempt rfl

theorem quiet_tryExecute (statement : Statement) : Quiet (tryExecute statement) :=
  .bind (quiet_ask rfl) fun _ => trivial

theorem quiet_promote (run : RunRecord) : Quiet (resumeRun.promote run) :=
  .ite (.bind (quiet_execute _) fun _ => trivial) trivial

/-- **A resume request registers before it starts a runner.** -/
theorem unregistered_resumeRun : Unregistered resumeRun := by
  refine .bind (quiet_ask rfl) fun resident => .ite trivial ?_
  refine .bind quiet_findRun fun run => ?_
  cases run with
  | none => trivial
  | some run =>
    refine .ite trivial (.ite trivial ?_)
    refine .bind (quiet_promote run) fun _ => .bind (.attempt rfl) fun _ => ?_
    refine .perform rfl fun _ => ?_
    refine .bind (.attempt rfl) fun _ => .bind (.attempt rfl) fun _ => ?_
    exact Or.inl ⟨rfl, fun _ => trivial⟩

theorem unregistered_submitElicit (userId elicitationId : Uuid) (response : Json) :
    Unregistered (submitElicit userId elicitationId response) := by
  refine .bind quiet_findRun fun row => ?_
  cases row with
  | none => trivial
  | some row =>
    refine .ite trivial ?_
    cases row.pendingElicitation with
    | none => trivial
    | some pending =>
      refine .ite trivial (.bind (quiet_ask rfl) fun late => .ite trivial ?_)
      refine .bind (.attempt rfl) fun _ => .bind (quiet_ask rfl) fun resident => ?_
      refine .ite (quiet_deliver _ _).until (.ite trivial ?_)
      exact .bind (quiet_execute _) fun _ => unregistered_resumeRun

def Works {α : Type} (program : ControlM α) : Prop :=
  AsksOnly (I := controlPorts) (fun query => query.isWork = true) program

theorem Quiet.works {α : Type} {program : ControlM α} (quiet : Quiet program) : Works program :=
  quiet.mono fun query allowed => by simp [ControlQuery.isWork, allowed]

theorem works_consumeResponse (step : RunStep) : Works (consumeResponse step) := by
  refine .ite (.bind (.perform rfl) fun row => ?_) trivial
  split
  · refine .ite ?_ trivial
    exact .bind (quiet_tryExecute _).works fun _ => .bind (quiet_tryExecute _).works fun _ =>
      trivial
  · trivial

theorem works_parkRun (pending : PendingElicitation) (strict : Bool) :
    Works (parkRun pending strict) := by
  refine .bind (.perform rfl) fun persisted => ?_
  cases persisted with
  | error error => trivial
  | ok row =>
    refine .bind (.perform rfl) fun marked => ?_
    cases marked with
    | ok row => trivial
    | error error => exact .ite trivial trivial

theorem works_runSteps (steps : List RunStep) : Works (runSteps steps) := by
  induction steps with
  | nil =>
    refine .bind (.perform rfl) fun resolved => ?_
    cases resolved <;> trivial
  | cons step rest ih =>
    refine .bind (.perform rfl) fun cancelled => .ite trivial ?_
    refine .bind (.perform rfl) fun persisted => .ite ih ?_
    refine .bind (works_consumeResponse step) fun consumed => .bind (.perform rfl) fun ended => ?_
    cases ended with
    | completed =>
      refine .bind (.bind (.perform rfl) fun row => ?_) fun flipped => .ite trivial ih
      split <;> trivial
    | gate pending strict => exact works_parkRun pending strict
    | _ => trivial

theorem running_finishRun (outcome : RunInnerOutcome) : Running (finishRun outcome) := by
  cases outcome with
  | suspended => exact Or.inl ⟨Or.inl rfl, fun _ => trivial⟩
  | completed | cancelled | failed =>
    exact .bind (quiet_tryExecute _).works fun _ => Or.inl ⟨Or.inr rfl, fun _ => trivial⟩

theorem starting_runWorkflow (steps : List RunStep) : Starting (runWorkflow steps) := by
  refine ⟨_, rfl, ?_⟩
  show Running (runWorkflow.work steps)
  refine .bind (quiet_tryExecute _).works fun _ => .bind (works_runSteps steps) fun outcome => ?_
  exact running_finishRun outcome

end Programs

/-! ### The invariant -/

abbrev ControlConfig : Type := Config controlPorts AppError Unit Shared

def Leads (shared : Shared) (thread : ControlM Unit) : Prop :=
  Unregistered thread ∨
    shared.handle = some true ∧ (Armed thread ∨ Starting thread ∨ Running thread)

/-- **All threads but one are unregistered**, and if that one is not, it holds the handle. -/
def Led (config : ControlConfig) : Prop :=
  ∃ lead : Nat, ∀ (index : Nat) (thread : ControlM Unit), config.threads[index]? = some thread →
    if index = lead then Leads config.shared thread else Unregistered thread

def ControlQuery.isRegister : ControlQuery → Bool
  | .register => true
  | _ => false

/-- The registration finds no resident runner. -/
def RegistersAlone (config : ControlConfig) (label : Nat × ControlEvent) : Prop :=
  label.2.1.isRegister = true → config.shared.resident = false

instance (config : ControlConfig) (label : Nat × ControlEvent) :
    Decidable (RegistersAlone config label) :=
  inferInstanceAs (Decidable (label.2.1.isRegister = true → config.shared.resident = false))

section Steps

variable {shared shared' : Shared} {query : ControlQuery} {answer : query.Answer}
  {steps : List RunStep}

theorem Answers.handle_eq (answers : Answers shared ⟨query, answer⟩ shared')
    (work : query.isWork = true) : shared'.handle = shared.handle := by
  cases answers with
  | registers | leaves | unregisters => cases work
  | _ => rfl

theorem Answers.handle_eq_of_spawn {answer : Unit}
    (answers : Answers shared ⟨.spawnRunner, answer⟩ shared') : shared'.handle = shared.handle := by
  cases answers with
  | outside => rfl

theorem Answers.hasHandle_eq {answer : Bool}
    (answers : Answers shared ⟨.hasHandle, answer⟩ shared') : answer = shared.handle.isSome := by
  cases answers with
  | handle => rfl
  | outside _ _ out => cases out

theorem started_of_isWork (work : query.isWork = true) : started steps ⟨query, answer⟩ = [] := by
  cases query with
  | spawnRunner => cases work
  | _ => rfl

theorem isWork_of_isQuiet (quiet : query.isQuiet = true) : query.isWork = true := by
  simp [ControlQuery.isWork, quiet]

theorem Idle.unregistered {thread : ControlM Unit} (idle : Idle thread) : Unregistered thread :=
  AsksOnly.until idle

theorem Leads.of_handle {thread : ControlM Unit} (leads : Leads shared thread)
    (handle : shared'.handle = shared.handle) : Leads shared' thread :=
  leads.imp_right fun held => ⟨handle.trans held.1, held.2⟩

variable {threads : List (ControlM Unit)} {thread : Nat} {next : ControlM Unit}

def Apart (threads : List (ControlM Unit)) (thread : Nat) : Prop :=
  ∀ (index : Nat) (other : ControlM Unit), threads[index]? = some other → index ≠ thread →
    Unregistered other

theorem Apart.led (apart : Apart threads thread) (here : thread < threads.length)
    (leads : Leads shared' next) : Led ⟨shared', threads.set thread next ++ []⟩ := by
  refine ⟨thread, fun index other found => ?_⟩
  rcases threads_after here found with ⟨rfl, rfl⟩ | ⟨other', found⟩ | ⟨-, found⟩
  · rw [if_pos rfl]
    exact leads
  · rw [if_neg other']
    exact apart index other found other'
  · cases found

theorem Apart.led_started (apart : Apart threads thread) (here : thread < threads.length)
    (free : Unregistered next) (handle : shared'.handle = some true) :
    Led ⟨shared', threads.set thread next ++ [runWorkflow steps]⟩ := by
  refine ⟨threads.length, fun index other found => ?_⟩
  have bound : index < threads.length + 1 := by
    have := (List.getElem?_eq_some_iff.mp found).1
    simpa using this
  rcases threads_after here found with ⟨rfl, rfl⟩ | ⟨other', found⟩ | ⟨beyond, found⟩
  · rw [if_neg (Nat.ne_of_lt here)]
    exact free
  · rw [if_neg (Nat.ne_of_lt (List.getElem?_eq_some_iff.mp found).1)]
    exact apart index other found other'
  · have last : index = threads.length := by omega
    rw [last, Nat.sub_self] at found
    cases found
    rw [if_pos last]
    exact Or.inr ⟨handle, Or.inr (Or.inl (starting_runWorkflow steps))⟩

theorem Led.keep {old : ControlM Unit} (led : Led ⟨shared, threads⟩)
    (found : threads[thread]? = some old) (handle : shared'.handle = shared.handle)
    (residual : Unregistered old → Unregistered next)
    (leads : Leads shared old → Leads shared' next) :
    Led ⟨shared', threads.set thread next ++ []⟩ := by
  obtain ⟨lead, all⟩ := led
  refine ⟨lead, fun index other after => ?_⟩
  have acting := all thread old found
  rcases threads_after (List.getElem?_eq_some_iff.mp found).1 after with
    ⟨rfl, rfl⟩ | ⟨-, before⟩ | ⟨-, none⟩
  · split at acting
    · rw [if_pos ‹_›]
      exact leads acting
    · rw [if_neg ‹_›]
      exact residual acting
  · have was := all index other before
    split at was
    · rw [if_pos ‹_›]
      exact was.of_handle handle
    · rw [if_neg ‹_›]
      exact was
  · cases none

/-- **A step keeps the lead with one thread**, when it does not register beside a resident
runner. -/
theorem Led.step {config config' : ControlConfig} {label : Nat × ControlEvent} (led : Led config)
    (alone : RegistersAlone config label) (step : (control steps).Step config label config') :
    Led config' := by
  cases step with
  | @act shared shared' threads thread query next answer found answers =>
    have here := (List.getElem?_eq_some_iff.mp found).1
    obtain ⟨lead, all⟩ := id led
    have acting := all thread _ found
    have apart_of_lead : thread = lead → Apart threads thread := by
      rintro rfl index other found' distinct
      have was := all index other found'
      rwa [if_neg distinct] at was
    have quietly : Unregistered (.ask query next) →
        Led ⟨shared', threads.set thread (next answer) ++ started steps ⟨query, answer⟩⟩ := by
      rintro (⟨rfl, armed⟩ | ⟨quiet, residual⟩)
      · have free : Apart threads thread := by
          intro index other found' distinct
          have was := all index other found'
          split at was
          · rcases was with free | ⟨held, -⟩
            · exact free
            · have resident : shared.resident = true := by
                show shared.handle.getD false = true
                rw [show shared.handle = some true from held]
                rfl
              cases resident.symm.trans (alone rfl)
          · exact was
        refine free.led here (Or.inr ⟨?_, Or.inl (armed answer)⟩)
        cases answers with
        | registers => rfl
        | outside _ _ out => cases out
      · have work := isWork_of_isQuiet quiet
        show Led ⟨shared', _ ++ started steps _⟩
        rw [started_of_isWork work]
        exact led.keep found (answers.handle_eq work) (fun _ => residual answer)
          fun _ => Or.inl (residual answer)
    have working : query.isWork = true → Leads shared' (next answer) → thread = lead →
        Led ⟨shared', threads.set thread (next answer) ++ started steps ⟨query, answer⟩⟩ := by
      intro work leads same
      rw [started_of_isWork work]
      exact (apart_of_lead same).led here leads
    by_cases same : thread = lead
    · rw [if_pos same] at acting
      rcases acting with
        free | ⟨held, (⟨rfl, idle⟩ | ⟨quiet, armed⟩) | ⟨_, waiting, running⟩ | ending⟩
      · exact quietly free
      · refine (apart_of_lead same).led_started here (idle answer).unregistered ?_
        exact (answers.handle_eq_of_spawn).trans held
      · have work := isWork_of_isQuiet quiet
        refine working work (Or.inr ⟨?_, Or.inl (armed answer)⟩) same
        exact (answers.handle_eq work).trans held
      · cases waiting
        have found : answer = true := by
          rw [answers.hasHandle_eq]
          rw [show shared.handle = some true from held]
          rfl
        subst found
        refine working rfl (Or.inr ⟨?_, Or.inr (Or.inr running)⟩) same
        exact (answers.handle_eq rfl).trans held
      · rcases ending with ⟨last, idle⟩ | ⟨work, running⟩
        · have none : started steps ⟨query, answer⟩ = [] := by
            rcases last with rfl | rfl <;> rfl
          show Led ⟨shared', threads.set thread (next answer) ++ started steps ⟨query, answer⟩⟩
          rw [none]
          exact (apart_of_lead same).led here (Or.inl (idle answer).unregistered)
        · refine working work (Or.inr ⟨?_, Or.inr (Or.inr (running answer))⟩) same
          exact (answers.handle_eq work).trans held
    · rw [if_neg same] at acting
      exact quietly acting

end Steps

/-! ### The runs -/

def MayExecute (thread : ControlM Unit) : Prop :=
  ∃ trace outcome, Runs thread trace outcome ∧ ∃ event ∈ trace, event.1.isExecution = true

inductive IsRequest : ControlM Unit → Prop
  | submit (userId elicitationId : Uuid) (response : Json) :
      IsRequest (submitElicit userId elicitationId response)
  | resume : IsRequest resumeRun

theorem IsRequest.unregistered {thread : ControlM Unit} (request : IsRequest thread) :
    Unregistered thread := by
  cases request with
  | submit => exact unregistered_submitElicit _ _ _
  | resume => exact unregistered_resumeRun

theorem Unregistered.not_mayExecute {thread : ControlM Unit} (free : Unregistered thread) :
    ¬MayExecute thread := by
  rintro ⟨trace, outcome, run, event, member, executes⟩
  have quiet : ∀ query : ControlQuery, query.isQuiet = true → query.isExecution = false := by
    intro query quiet
    cases query with
    | executeStep => cases quiet
    | _ => rfl
  have idle : ∀ thread : ControlM Unit, Idle thread →
      AsksOnly (I := controlPorts) (fun query => query.isExecution = false) thread :=
    fun _ idle => idle.mono quiet
  have armed : ∀ thread : ControlM Unit, Armed thread →
      AsksOnly (I := controlPorts) (fun query => query.isExecution = false) thread :=
    fun _ armed => armed.asksOnly quiet (fun _ same => same ▸ rfl) idle
  have asks : AsksOnly (I := controlPorts) (fun query => query.isExecution = false) thread :=
    free.asksOnly quiet (fun _ same => same ▸ rfl) armed
  rw [asks.of_mem run member] at executes
  cases executes

def SingleRunner (config : ControlConfig) : Prop :=
  ∀ (index index' : Nat) (thread thread' : ControlM Unit),
    config.threads[index]? = some thread → config.threads[index']? = some thread' →
    MayExecute thread → MayExecute thread' → index = index'

theorem Led.singleRunner {config : ControlConfig} (led : Led config) : SingleRunner config := by
  obtain ⟨lead, all⟩ := led
  have leading : ∀ (index : Nat) (thread : ControlM Unit),
      config.threads[index]? = some thread → MayExecute thread → index = lead := by
    intro index thread found executes
    by_contra other
    have free := all index thread found
    rw [if_neg other] at free
    exact free.not_mayExecute executes
  intro index index' thread thread' found found' executes executes'
  rw [leading index thread found executes, leading index' thread' found' executes']

/-- **One runner at a time.** Whatever submissions and resume requests arrive for a run, and in
whatever order they go on: as long as each registration finds no resident runner, at most one thread
may execute steps. -/
theorem single_runner (steps : List RunStep) {shared : Shared} {requests : List (ControlM Unit)}
    {log : List (Nat × ControlEvent)} {last : ControlConfig}
    (arrive : ∀ request ∈ requests, IsRequest request)
    (follows : Follows ((control steps).Guarded RegistersAlone) ⟨shared, requests⟩ log last) :
    SingleRunner last := by
  have start : Led ⟨shared, requests⟩ := by
    refine ⟨0, fun index thread found => ?_⟩
    have free := (arrive thread (List.mem_of_getElem? found)).unregistered
    split
    · exact Or.inl free
    · exact free
  have whole := follows.preserves Led (fun led step => Led.step led step.1 step.2) start
  exact whole.singleRunner

/-- A run that waits for the answer of its elicit step; its runner has left the handle. -/
def waitingRun : Shared :=
  ⟨some ⟨7, some 3, "workflow", .waiting, none, false, 0,
    some ⟨5, "ask", "Go on?", none⟩, none⟩, some false⟩

def twoSubmissions : ControlConfig :=
  ⟨waitingRun, [submitElicit 7 5 .null, submitElicit 7 5 .null]⟩

/-- The second submission comes after the first has registered. -/
def submittedInTurn : List (Nat × ControlEvent) × ControlConfig :=
  (control [⟨"ask", true⟩]).execute Shared.answer twoSubmissions
    (List.replicate 12 0 ++ List.replicate 7 2 ++ List.replicate 5 1)

theorem twoSubmissions_arrive : ∀ request ∈ twoSubmissions.threads, IsRequest request := by
  simp [twoSubmissions, IsRequest.submit]

theorem submittedInTurn_single : SingleRunner submittedInTurn.2 :=
  single_runner _ twoSubmissions_arrive
    ((control _).guarded_execute Shared.answers_answer _ twoSubmissions rfl)

/-- **Both submissions start a runner**, and both runners are about to execute the elicit step. -/
theorem two_runners : ¬∀ (steps : List RunStep) (shared : Shared) (requests : List (ControlM Unit))
    (log : List (Nat × ControlEvent)) (last : ControlConfig),
    (∀ request ∈ requests, IsRequest request) → shared.resident = false →
    Follows (control steps).Step ⟨shared, requests⟩ log last → SingleRunner last := by
  intro single
  have follows := (control [⟨"ask", true⟩]).follows_execute Shared.answers_answer
    (List.replicate 6 0 ++ List.replicate 6 1 ++ List.replicate 6 0 ++ List.replicate 6 1 ++
      List.replicate 6 2 ++ List.replicate 6 3 ++ [2, 3]) twoSubmissions
  have executes : ∀ thread : ControlM Unit,
      ((thread.simulate (fun _ query => (waitingRun.answer query).1) []).1.head?.map
        (·.1.isExecution)) = some true → MayExecute thread := by
    intro thread first
    obtain ⟨event, head, execution⟩ := Option.map_eq_some_iff.mp first
    exact ⟨_, _, runs_simulate _ thread [], event, List.mem_of_head? head, execution⟩
  have same := single _ _ _ _ _ twoSubmissions_arrive rfl follows 2 3 _ _ rfl rfl
    (executes _ rfl) (executes _ rfl)
  cases same

end Ziee.Workflow
