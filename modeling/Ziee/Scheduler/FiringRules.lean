/-
**What a firing knows when it writes back.**

A firing runs its target on the snapshot its claim returned, and then records the outcome; a
self-paced task it arms again or stops. `FiringRule` says what came before each of these statements,
and `firing_ruled` that they follow it in every interleaving: no other program makes them.

* `pausesFor` — why the answer pauses the task.
* `Rearmed` — how the re-arm of a self-paced task was decided.
-/

import Ziee.Scheduler.RowSteps
import Ziee.Scheduler.Asks

namespace Ziee.Scheduler

open PortProgram Threads Ziee.Providers Ziee.Agent

section Reads

variable (settings : Except AppError SchedulerAdminSettings)

/-- The settings a firing goes by, and what it takes when their read fails. -/
def maxFailuresOf : Int := match settings with
  | .ok settings => settings.maxConsecutiveFailures
  | .error _ => 5

def minIntervalOf : Int := match settings with
  | .ok settings => settings.minIntervalSeconds
  | .error _ => 300

def maxHorizonOf : Int := match settings with
  | .ok settings => settings.maxHorizonDays
  | .error _ => 7

def maxTurnsOf (goal : Except AppError GoalSettings) : Int := match goal with
  | .ok goal => goal.goalSeekMaxTurns
  | .error _ => 10

def turnsOf (counted : Except AppError Nat) : Nat := match counted with
  | .ok turns => turns
  | .error _ => 0

end Reads

def pausesFor (task : ScheduledTask) (cap : Int) : Except AppError RawResult → Option String
  | .ok _ => none
  | .error error => pauseReason task (finalizeFailure error) cap

/-! ### The rule -/

/-- The queries of a firing that others do not ask, one by one. -/
def IsRun : SchedulerQuery → Prop
  | .runTarget _ _ => True
  | _ => False

def IsRecord : SchedulerQuery → Prop
  | .execute (.recordOutcome _ _ _ _) => True
  | _ => False

def IsArm : SchedulerQuery → Prop
  | .execute (.armSelfPaced _ _ _ _) => True
  | _ => False

/-- **The firing of this snapshot** was spawned, and its target answered; since then it has neither
run the target again nor armed the task. -/
structure Ran (past : List SchedulerEvent) (task : ScheduledTask) (trigger : RunTrigger)
    (now : Instant) (result : Except AppError RawResult) (rest : List SchedulerEvent) : Prop where
  began : past = (⟨.spawnFiring task trigger now, ()⟩ : SchedulerEvent) ::
    ⟨.runTarget task trigger, result⟩ :: rest
  once : ∀ event ∈ rest, ¬ IsRun event.1 ∧ ¬ IsArm event.1

/-- **How a self-paced task is armed again**: by the turn's proposal, or, when it seeks a goal, by
the verdict and the number of its turns, which were counted right before and after the history
row. -/
inductive Rearmed (past : List SchedulerEvent) (task : ScheduledTask) (trigger : RunTrigger)
    (now : Instant) (raw : RawResult) (settings : Except AppError SchedulerAdminSettings) :
    SelfPacedOutcome → String → Prop
  | plain : task.completionCondition = none → trigger ≠ .runNow →
      Rearmed past task trigger now raw settings (selfPacedWriteback raw.scheduleProposal
        (minIntervalOf settings) (maxHorizonOf settings) task.createdAt now) "completed"
  | goal (earlier : List SchedulerEvent) (condition : String) (verdict : GoalVerdict)
      (goal : Except AppError GoalSettings) (counted : Except AppError Nat)
      (outcome : DispatchOutcome) (inserted : Except AppError Unit) :
      task.completionCondition = some condition →
      (⟨.insertRun (historyRow task trigger outcome now), inserted⟩ : SchedulerEvent) ∈ earlier →
      (⟨.goalSettings, goal⟩ : SchedulerEvent) ∈ earlier →
      past = earlier ++ [⟨.countScheduledRunsForTask task.id, counted⟩] →
      Rearmed past task trigger now raw settings
        (goalOutcome (GoalEval.decide verdict (turnsOf counted) (maxTurnsOf goal)
          (minIntervalOf settings) (maxHorizonOf settings) task.createdAt now)).1
        (goalOutcome (GoalEval.decide verdict (turnsOf counted) (maxTurnsOf goal)
          (minIntervalOf settings) (maxHorizonOf settings) task.createdAt now)).2

def FiringRule (past : List SchedulerEvent) (event : SchedulerEvent) : Prop :=
  match event.1 with
  | .runTarget task trigger => ∃ now, past = [⟨.spawnFiring task trigger now, ()⟩]
  | .execute (.recordOutcome id _ success reason) => ∃ task trigger now result rest settings,
      task.id = id ∧ Ran past task trigger now result rest ∧ (∀ event ∈ rest, ¬ IsRecord event.1) ∧
      (⟨.settings, settings⟩ : SchedulerEvent) ∈ rest ∧ trigger ≠ .runNow ∧
      success = result.isOk ∧ reason = pausesFor task (maxFailuresOf settings) result
  | .execute (.armSelfPaced id outcome now reason) => ∃ task trigger raw rest settings,
      task.id = id ∧ Ran past task trigger now (.ok raw) rest ∧
      (⟨.settings, settings⟩ : SchedulerEvent) ∈ rest ∧ task.kind = .selfPaced ∧
      Rearmed past task trigger now raw settings outcome reason
  | _ => True

def IsFiring (query : SchedulerQuery) : Prop := IsRun query ∨ IsRecord query ∨ IsArm query

theorem rule_of_not_firing {past : List SchedulerEvent} {event : SchedulerEvent}
    (other : ¬ IsFiring event.1) : FiringRule past event := by
  obtain ⟨query, answer⟩ := event
  cases query with
  | execute write =>
    cases write with
    | recordOutcome => exact absurd (Or.inr (Or.inl trivial)) other
    | armSelfPaced => exact absurd (Or.inr (Or.inr trivial)) other
    | _ => trivial
  | runTarget => exact absurd (Or.inl trivial) other
  | _ => trivial

section Firing

variable {task : ScheduledTask} {trigger : RunTrigger} {now : Instant}
  {past rest : List SchedulerEvent} {event : SchedulerEvent} {result : Except AppError RawResult}
  {raw : RawResult} {outcome : DispatchOutcome}

theorem Ran.mem_run (ran : Ran past task trigger now result rest) :
    (⟨.runTarget task trigger, result⟩ : SchedulerEvent) ∈ past := by
  rw [ran.began]
  simp

theorem Ran.mem_rest (ran : Ran past task trigger now result rest) (member : event ∈ rest) :
    event ∈ past := by
  rw [ran.began]
  simp [member]

theorem Ran.grow (ran : Ran past task trigger now result rest)
    (other : ¬ IsRun event.1 ∧ ¬ IsArm event.1) :
    Ran (past ++ [event]) task trigger now result (rest ++ [event]) where
  began := by
    rw [ran.began]
    rfl
  once := fun one member => by
    rcases List.mem_append.mp member with member | member
    · exact ran.once one member
    · exact List.mem_singleton.mp member ▸ other

/-- The outcome is the one the target's answer leads to. -/
def IsOutcome (task : ScheduledTask) (outcome : DispatchOutcome) : Except AppError RawResult → Prop
  | .ok raw => ∃ changed, outcome = finalizeSuccess task raw changed
  | .error error => outcome = finalizeFailure error

theorem IsOutcome.success (same : IsOutcome task outcome result) :
    outcome.success = result.isOk := by
  cases result with
  | ok raw =>
    obtain ⟨changed, rfl⟩ := same
    rfl
  | error error =>
    subst same
    rfl

theorem IsOutcome.pauseReason (same : IsOutcome task outcome result) (cap : Int) :
    pauseReason task outcome cap = pausesFor task cap result := by
  cases result with
  | ok raw =>
    obtain ⟨changed, rfl⟩ := same
    rfl
  | error error =>
    subst same
    rfl

/-- **A firing that dispatched**: its past, its outcome, and whether it has recorded it. -/
def Dispatched (task : ScheduledTask) (trigger : RunTrigger) (now : Instant) (recorded : Bool)
    (past : List SchedulerEvent) (outcome : DispatchOutcome) : Prop :=
  ∃ result rest, Ran past task trigger now result rest ∧ IsOutcome task outcome result ∧
    (recorded = false → ∀ event ∈ rest, ¬ IsRecord event.1)

theorem dispatch_obeys : Obeys FiringRule (fun _ _ => True) (Dispatched task trigger now false)
    [(⟨.spawnFiring task trigger now, ()⟩ : SchedulerEvent)] (dispatch task trigger) := by
  intro result
  refine ⟨⟨now, rfl⟩, ?_⟩
  have ran : Ran ([(⟨.spawnFiring task trigger now, ()⟩ : SchedulerEvent)] ++
      [⟨.runTarget task trigger, result⟩]) task trigger now result [] := ⟨rfl, by simp⟩
  cases result with
  | error error => exact ⟨_, _, ran, rfl, by simp⟩
  | ok raw =>
    refine fun changed => ⟨trivial, _, _, ran.grow ⟨id, id⟩, ⟨changed, rfl⟩, fun _ event member =>
      ?_⟩
    rw [List.nil_append, List.mem_singleton] at member
    subst member
    exact id

theorem recordFiring_obeys (dispatched : Dispatched task trigger now false past outcome) :
    Obeys FiringRule (fun _ _ => True)
      (fun later _ => Dispatched task trigger now true later outcome)
      past (recordFiring task trigger outcome) := by
  unfold recordFiring
  obtain ⟨result, rest, ran, same, fresh⟩ := dispatched
  refine Obeys.ite (fun scheduled settings => ?_) fun _ => ⟨result, rest, ran, same, nofun⟩
  refine ⟨trivial, fun recorded => ⟨?_, result, _, (ran.grow ⟨id, id⟩).grow ⟨id, id⟩, same, nofun⟩⟩
  refine ⟨task, trigger, now, result, rest ++ [⟨.settings, settings⟩], settings, rfl,
    ran.grow ⟨id, id⟩, fun event member => ?_, by simp, scheduled, same.success, same.pauseReason _⟩
  rcases List.mem_append.mp member with member | member
  · exact fresh rfl event member
  · exact List.mem_singleton.mp member ▸ id

theorem goalWriteBack_obeys {condition : String} {inserted : Except AppError Unit}
    {settings : Except AppError SchedulerAdminSettings}
    (ran : Ran past task trigger now (.ok raw) rest)
    (wrote : (⟨.insertRun (historyRow task trigger outcome now), inserted⟩ : SchedulerEvent) ∈ rest)
    (read : (⟨.settings, settings⟩ : SchedulerEvent) ∈ rest) (paced : task.kind = .selfPaced)
    (seeks : task.completionCondition = some condition) :
    Obeys FiringRule (fun _ _ => True) (fun _ _ => True) past
      (goalWriteBack task condition outcome (minIntervalOf settings)
        (maxHorizonOf settings) now) := by
  have asks : ∀ modelId, AsksOnly (I := schedulerPorts) (fun query => ¬ IsFiring query)
      (goalVerdict task condition outcome modelId) :=
    goalVerdict_asks (fun _ _ _ _ firing => firing.elim id fun writes => writes.elim id id)
      condition outcome
  refine Obeys.bind (Obeys.perform fun _ => trivial) ?_
  rintro _ goal rfl
  refine Obeys.bind ((asks _).obeys (fun _ _ other _ => rule_of_not_firing other)
    fun _ _ _ => trivial) ?_
  rintro _ verdict ⟨more, quiet, rfl⟩ counted
  refine ⟨trivial, fun armed => ⟨?_, trivial⟩⟩
  have further : ∀ {later : List SchedulerEvent} (extra : List SchedulerEvent) {past},
      (∀ event ∈ extra, ¬ IsFiring event.1) → Ran past task trigger now (.ok raw) later →
      Ran (past ++ extra) task trigger now (.ok raw) (later ++ extra) := by
    intro later extra past clean ran
    refine ⟨by rw [ran.began]; rfl, fun event member => ?_⟩
    rcases List.mem_append.mp member with member | member
    · exact ran.once event member
    · exact ⟨fun runs => clean event member (Or.inl runs),
        fun arms => clean event member (Or.inr (Or.inr arms))⟩
  have here : (⟨.goalSettings, goal⟩ : SchedulerEvent) ∈ past ++
    [⟨.goalSettings, goal⟩] ++ more := by
    simp
  have there : (⟨.insertRun (historyRow task trigger outcome now), inserted⟩ : SchedulerEvent) ∈
      past ++ [⟨.goalSettings, goal⟩] ++ more := by
    simp [ran.mem_rest wrote]
  -- The turns and the cap are read off the answers here, and by their names in the rule.
  have rearms : ∀ turns maxTurns, turns = turnsOf counted → maxTurns = maxTurnsOf goal →
      Rearmed (past ++ [⟨.goalSettings, goal⟩] ++ more ++
          [⟨.countScheduledRunsForTask task.id, counted⟩]) task trigger now raw settings
        (goalOutcome (GoalEval.decide verdict turns maxTurns (minIntervalOf settings)
          (maxHorizonOf settings) task.createdAt now)).1
        (goalOutcome (GoalEval.decide verdict turns maxTurns (minIntervalOf settings)
          (maxHorizonOf settings) task.createdAt now)).2 := by
    rintro turns maxTurns rfl rfl
    exact .goal _ condition verdict _ _ outcome inserted seeks there here rfl
  refine ⟨task, trigger, raw, _, settings, rfl,
    (further more quiet (ran.grow ⟨id, id⟩)).grow ⟨id, id⟩, by simp [read], paced, ?_⟩
  refine rearms _ _ ?_ ?_
  · cases counted <;> rfl
  · cases goal <;> rfl

theorem writeBack_obeys {inserted : Except AppError Unit}
    (dispatched : Dispatched task trigger now true past outcome)
    (wrote : (⟨.insertRun (historyRow task trigger outcome now), inserted⟩ : SchedulerEvent) ∈
      past) :
    Obeys FiringRule (fun _ _ => True) (fun _ _ => True) past
      (writeBack task trigger outcome now) := by
  unfold writeBack
  refine Obeys.ite (fun ⟨succeeded, paced⟩ settings => ⟨trivial, ?_⟩) fun _ => trivial
  obtain ⟨result, rest, ran, same, -⟩ := dispatched
  rw [same.success] at succeeded
  cases result with
  | error error => cases succeeded
  | ok raw =>
    have read : (⟨.settings, settings⟩ : SchedulerEvent) ∈ rest ++
      [⟨.settings, settings⟩] := by simp
    have written : (⟨.insertRun (historyRow task trigger outcome now), inserted⟩ : SchedulerEvent) ∈
        rest ++ [⟨.settings, settings⟩] := by
      rw [ran.began] at wrote
      simpa using wrote
    obtain ⟨changed, rfl⟩ := same
    cases seeks : task.completionCondition with
    | some condition => exact goalWriteBack_obeys (ran.grow ⟨id, id⟩) written read paced seeks
    | none =>
      refine Obeys.ite (fun scheduled armed => ⟨?_, trivial⟩) fun _ => trivial
      exact ⟨task, trigger, raw, _, settings, rfl, ran.grow ⟨id, id⟩, read, paced,
        .plain seeks scheduled⟩

/-- **A firing follows the rule**, from the moment it is spawned. -/
theorem fireTask_obeys (task : ScheduledTask) (trigger : RunTrigger) (now : Instant) :
    Obeys FiringRule (fun _ _ => True) (fun _ _ => True)
      [(⟨.spawnFiring task trigger now, ()⟩ : SchedulerEvent)] (fireTask task trigger now) := by
  refine Obeys.bind dispatch_obeys fun past outcome dispatched => ?_
  refine Obeys.bind (recordFiring_obeys dispatched) fun past _ dispatched inserted => ⟨trivial, ?_⟩
  obtain ⟨result, rest, ran, same, -⟩ := dispatched
  exact writeBack_obeys ⟨result, _, ran.grow ⟨id, id⟩, same, nofun⟩ (List.mem_append_right past
    (List.mem_singleton_self (⟨.insertRun (historyRow task trigger outcome now), inserted⟩ :
      SchedulerEvent)))

end Firing

/-! ### The whole system -/

section System

variable {cron : CronLibrary} {activities : List Activity} {shared : Shared}
  {last : Config schedulerPorts AppError Unit Shared}

theorem not_firing {query : SchedulerQuery} (run : ¬ IsRun query) (record : ¬ IsRecord query)
    (arm : ¬ IsArm query) : ¬ IsFiring query :=
  fun firing => firing.elim run fun writes => writes.elim record arm

theorem Activity.asks_not_firing (activity : Activity) :
    AsksOnly (I := schedulerPorts) (fun query => ¬ IsFiring query) (activity.program cron) := by
  refine activity.asks.mono fun query asked => ?_
  cases activity with
  | tickLoop sweeps =>
    rcases asked with rfl | ⟨now, limit, rfl⟩ | ⟨task, now, asked⟩
    · exact not_firing id id id
    · exact not_firing id id id
    · cases query with
      | execute write => cases write <;> first | exact asked.elim | exact not_firing id id id
      | _ => first | exact asked.elim | exact not_firing id id id
  | create | update => cases query <;> first | exact asked.elim | exact not_firing id id id
  | delete userId task =>
    cases asked
    exact not_firing id id id
  | fireNow userId task =>
    rcases asked with rfl | rfl | ⟨task, now, rfl⟩ <;> exact not_firing id id id
  | prune => rcases asked with rfl | rfl | ⟨cutoff, rfl⟩ <;> exact not_firing id id id

/-- **The statements of the firings follow their rule**, in every interleaving. -/
theorem firing_ruled {before after : List (Nat × SchedulerEvent)} {thread : Nat}
    {event : SchedulerEvent} (follows : Follows scheduler.Step
      (Activity.config cron activities shared) (before ++ (thread, event) :: after) last) :
    FiringRule (scheduler.past activities.length before thread) event := by
  have ruled := Machine.ruled FiringRule (fun _ _ => True) (fun _ _ => True)
    (fun program member => ?_) (fun event program started => ?_) follows
  · rwa [show (Activity.config cron activities shared).threads.length = activities.length from
      List.length_map _] at ruled
  · obtain ⟨activity, -, rfl⟩ := List.mem_map.mp member
    exact (activity.asks_not_firing.obeys (fun _ _ other _ => rule_of_not_firing other)
      fun _ _ _ => trivial).mono fun _ _ _ => trivial
  · obtain ⟨query, answer⟩ := event
    cases query with
    | spawnFiring task trigger now =>
      cases List.mem_singleton.mp started
      exact fireTask_obeys task trigger now
    | _ => cases started

end System

end Ziee.Scheduler
