/-
**Auto-pause, and the failures it counts.**

A scheduled firing that fails for a passing reason adds one to the counter of the task's row, and
pauses the task when the counter of its snapshot, and one, reach the cap; a success sets the counter
to zero. What the counter stands for is a history variable, the `Streak`: the passing failures in a
row, conflicts apart, that firings have recorded since the last success or re-enabling.

* `failureWatch` — the streak, and the steps under which the counter keeps up with it.
* `paused_for_streak` — then only as many failures as the cap pause the task for its failures, and
  after as many it is not enabled and unpaused.
-/

import Ziee.Library.Watched
import Ziee.Scheduler.ArmedTasks
import Ziee.Scheduler.FiringRules
import Ziee.Scheduler.TickRules

namespace Ziee.Scheduler

open PortProgram Threads Ziee.Providers Ziee.Agent

variable {thread : Nat} {later : Config schedulerPorts AppError Unit Shared}

def ScheduledTask.isLive (row : ScheduledTask) : Bool := row.enabled && row.pausedReason.isNone

/-- A failure that may pass. -/
def isTransient (error : AppError) : Bool :=
  classify (httpStatus error.statusCode) false = .transient

/-- A conflict with a turn that is under way in the task's conversation. -/
def isConflict (error : AppError) : Bool := httpStatus error.statusCode = 409

/-- **The failures in a row** that count, since the last success or re-enabling. -/
structure Streak where
  /-- Everything that happened. -/
  history : List (Nat × SchedulerEvent)
  count : Nat
  /-- A failure that does not pass was recorded since. -/
  terminal : Bool

namespace Streak

def reset (streak : Streak) : Streak := { streak with count := 0, terminal := false }

def fail (streak : Streak) (error : AppError) : Streak :=
  if isTransient error then
    if isConflict error then streak else { streak with count := streak.count + 1 }
  else { streak with terminal := true }

def record (streak : Streak) : Except AppError RawResult → Streak
  | .ok _ => streak.reset
  | .error error => streak.fail error

end Streak

def targetAnswer (id : Uuid) : SchedulerEvent → Option (ScheduledTask × Except AppError RawResult)
  | ⟨.runTarget task .schedule, result⟩ => if task.id = id then some (task, result) else none
  | _ => none

def recordsOutcome (id : Uuid) : SchedulerEvent → Bool
  | ⟨.execute (.recordOutcome task _ _ _), _⟩ => task = id
  | _ => false

/-- The task is re-enabled, which was disabled or paused, or it is new. -/
def restarts (id : Uuid) (shared : Shared) : SchedulerEvent → Bool
  | ⟨.update _ task upd _, .ok (some _)⟩ =>
    task = id && upd.enabled = some true && (shared.tasks.find id).any fun row => !row.isLive
  | ⟨.insert _ _ _, .ok row⟩ => row.id = id
  | _ => false

namespace Streak

variable (id : Uuid) (shared : Shared) (streak : Streak)

def answered (thread : Nat) : Option (ScheduledTask × Except AppError RawResult) :=
  (own thread streak.history).findSome? (targetAnswer id)

def tally (thread : Nat) (event : SchedulerEvent) : Streak :=
  if recordsOutcome id event then
    (streak.answered id thread).elim streak fun firing => streak.record firing.2
  else if restarts id shared event then streak.reset
  else streak

def next (label : Nat × SchedulerEvent) : Streak :=
  { streak.tally id shared label.1 label.2 with history := streak.history ++ [label] }

/-! ### What the steps must meet -/

/-- A passing failure is recorded: it is no conflict, the counter of the snapshot is still the
row's, and no failure that does not pass was recorded since. -/
def countable (firing : ScheduledTask × Except AppError RawResult) : Bool :=
  match firing.2 with
  | .ok _ => true
  | .error error => !isTransient error || (!isConflict error && !streak.terminal &&
      (shared.tasks.find id).all fun row =>
        row.consecutiveFailures = firing.1.consecutiveFailures)

def allows (label : Nat × SchedulerEvent) : Bool :=
  match label.2 with
  | ⟨.settings, .error _⟩ => (streak.answered id label.1).isNone ||
      (own label.1 streak.history).any (recordsOutcome id)
  | ⟨.execute (.recordOutcome task _ _ _), answer⟩ => task ≠ id ||
      answer.toOption.isSome && (streak.answered id label.1).all (streak.countable id shared)
  | ⟨.update userId task upd nextRunAt, .ok (some row)⟩ =>
    !restarts id shared ⟨.update userId task upd nextRunAt, .ok (some row)⟩ ||
      (shared.tasks.find id).all fun row => row.consecutiveFailures = 0
  | _ => true

end Streak

/-- **The streak of a task**, where passing failures are recorded on the counter of their snapshot
and are no conflicts, the settings a firing records by are read and its record does not fail, and
the task is re-enabled only with a counter of zero. -/
def failureWatch (id : Uuid) :
    Watch (Config schedulerPorts AppError Unit Shared) (Nat × SchedulerEvent) Streak where
  next config label streak := streak.next id config.shared label
  allows config streak label := streak.allows id config.shared label

/-! ### Rows -/

/-- The failures in a row that pause a task. -/
def failureCap (settings : SchedulerAdminSettings) : Int := max settings.maxConsecutiveFailures 1

theorem one_le_failureCap (settings : SchedulerAdminSettings) : 1 ≤ failureCap settings :=
  Int.le_max_right _ _

/-- **The row keeps up with the streak.** -/
structure Tallied (cap : Int) (streak : Streak) (row : ScheduledTask) : Prop where
  counted : streak.terminal = false → row.consecutiveFailures = streak.count
  live : row.isLive = true → streak.terminal = false ∧ (streak.count : Int) < cap

/-- A change that neither counts a failure, nor enables, nor pauses for failures. -/
structure CalmChange (old row : ScheduledTask) : Prop where
  failures : row.consecutiveFailures = old.consecutiveFailures
  live : row.isLive = true → old.isLive = true
  paused : row.pausedReason = some "max_failures" → old.pausedReason = some "max_failures"

section Rows

variable {id : Uuid} {cap : Int} {streak : Streak} {old row task : ScheduledTask}
  {event : SchedulerEvent} {shared : Shared} {result : Except AppError RawResult}

theorem isLive_iff : row.isLive = true ↔ row.enabled = true ∧ row.pausedReason = none := by
  simp [ScheduledTask.isLive]

theorem recordsOutcome_of_not (other : ¬ IsRecord event.1) : recordsOutcome id event = false := by
  unfold recordsOutcome
  split
  · exact absurd trivial other
  · rfl

theorem CalmChange.refl (row : ScheduledTask) : CalmChange row row := ⟨rfl, id, id⟩

theorem Tallied.calm (tallied : Tallied cap streak old) (calm : CalmChange old row) :
    Tallied cap streak row where
  counted := fun open' => calm.failures.trans (tallied.counted open')
  live := fun live => tallied.live (calm.live live)

theorem Tallied.reset (positive : 1 ≤ cap) (none : row.consecutiveFailures = 0) :
    Tallied cap streak.reset row where
  counted := fun _ => none
  live := fun _ => ⟨rfl, positive⟩

/-- A statement of the tick or of a firing that does not pause for failures. -/
def sparesReason : SchedulerEvent → Bool
  | ⟨.execute (.markFired _ _ _ reason), _⟩ => reason ≠ some "max_failures"
  | ⟨.execute (.armSelfPaced _ _ _ reason), _⟩ => reason ≠ "max_failures"
  | _ => true

theorem Write.calm {write : Write} (unrecorded : ∀ task status success reason,
      write ≠ .recordOutcome task status success reason)
    (spares : sparesReason ⟨.execute write, (.ok () : Except AppError Unit)⟩ = true) :
    CalmChange old (write.update old) := by
  cases write with
  | markFired task next firedAt reason =>
    refine ⟨rfl, fun live => ?_, fun paused => ?_⟩
    · obtain ⟨enabled, unpaused⟩ := isLive_iff.mp live
      cases reason with
      | some reason => cases unpaused
      | none =>
        cases next with
        | none => cases unpaused
        | some next => exact isLive_iff.mpr ⟨enabled, unpaused⟩
    · cases reason with
      | some reason => exact absurd paused (of_decide_eq_true spares)
      | none =>
        cases next with
        | none => simp [Write.update] at paused
        | some next => exact paused
  | armSelfPaced task outcome firedAt reason =>
    cases outcome with
    | fire next => exact ⟨rfl, fun live => live, fun paused => paused⟩
    | disable =>
      refine ⟨rfl, fun live => ?_, fun paused => ?_⟩
      · cases (isLive_iff.mp live).1
      · exact absurd (Option.some.inj paused) (of_decide_eq_true spares)
  | recordOutcome task status success reason => exact absurd rfl (unrecorded _ _ _ _)
  | disarmSelfPaced task firedAt => exact ⟨rfl, fun live => live, fun paused => paused⟩
  | setBoundConversation task conversationId =>
    exact ⟨rfl, fun live => live, fun paused => paused⟩

theorem CalmChange.update {upd : UpdateScheduledTask} {nextRunAt : Option (Option Instant)}
    (stored : (applyUpdate upd nextRunAt old).stored? = some row)
    (still : upd.enabled = some true → old.isLive = true) : CalmChange old row := by
  obtain ⟨name, -, -, rfl⟩ := ScheduledTask.stored?_eq_some_iff.mp stored
  refine ⟨rfl, fun live => ?_, fun paused => ?_⟩
  · obtain ⟨enabled, unpaused⟩ := isLive_iff.mp live
    by_cases enables : upd.enabled = some true
    · exact still enables
    · dsimp only [applyUpdate] at enabled unpaused
      rw [if_neg enables] at unpaused
      refine isLive_iff.mpr ⟨?_, unpaused⟩
      cases asked : upd.enabled with
      | none => rwa [asked] at enabled
      | some value =>
        rw [asked] at enabled
        exact absurd (asked.trans (congrArg some enabled)) enables
  · dsimp only [applyUpdate] at paused
    split at paused
    · cases paused
    · exact paused

/-- **A step that neither records nor restarts makes a calm change.** -/
theorem RowStep.calm (step : RowStep id event (shared.tasks.find id) (some row))
    (unrecorded : recordsOutcome id event = false) (spares : sparesReason event = true)
    (goesOn : restarts id shared event = false) :
    ∃ old, shared.tasks.find id = some old ∧ CalmChange old row := by
  generalize before : shared.tasks.find id = found at step
  generalize after : some row = last at step
  cases step with
  | same leaves => exact ⟨row, after.symm, .refl row⟩
  | @write write _ target =>
    obtain ⟨old, rfl, rfl⟩ := Option.map_eq_some_iff.mp after.symm
    refine ⟨old, rfl, Write.calm (fun task status success reason same => ?_) spares⟩
    subst same
    exact absurd target (of_decide_eq_false unrecorded)
  | binds conversationId owner =>
    obtain ⟨old, rfl, rfl⟩ := Option.map_eq_some_iff.mp after.symm
    exact ⟨old, rfl, rfl, fun live => live, fun paused => paused⟩
  | @updates userId upd nextRunAt old _ owner stored =>
    cases after
    refine ⟨old, rfl, .update stored fun enables => ?_⟩
    simpa [restarts, enables, before] using goesOn
  | inserts stored =>
    cases after
    obtain ⟨name, -, -, rfl⟩ := ScheduledTask.stored?_eq_some_iff.mp stored
    simp [restarts, insertedRow] at goesOn
  | deletes owner => cases after

theorem RowStep.restart (step : RowStep id event (shared.tasks.find id) (some row))
    (restart : restarts id shared event = true)
    (allowed : streak.allows id shared (thread, event) = true) :
    row.consecutiveFailures = 0 ∧ row.pausedReason = none := by
  generalize before : shared.tasks.find id = found at step
  generalize after : some row = last at step
  cases step with
  | same leaves =>
    obtain ⟨query, answer⟩ := event
    cases query with
    | update userId task upd nextRunAt =>
      cases answer with
      | error error => cases restart
      | ok changed =>
        cases changed with
        | none => cases restart
        | some changed => simp [restarts, show task ≠ id from leaves] at restart
    | insert userId req nextRunAt =>
      cases answer with
      | error error => cases restart
      | ok inserted => exact absurd (of_decide_eq_true restart) leaves
    | _ => cases restart
  | write | binds => cases restart
  | @updates userId upd nextRunAt old _ owner stored =>
    cases after
    have clean : old.consecutiveFailures = 0 := by
      simpa [Streak.allows, restart, before] using allowed
    have enables : upd.enabled = some true := by
      simp only [restarts, Bool.and_eq_true, decide_eq_true_eq] at restart
      exact restart.1.2
    obtain ⟨name, -, -, rfl⟩ := ScheduledTask.stored?_eq_some_iff.mp stored
    exact ⟨clean, if_pos enables⟩
  | inserts stored =>
    cases after
    obtain ⟨name, -, -, rfl⟩ := ScheduledTask.stored?_eq_some_iff.mp stored
    exact ⟨rfl, rfl⟩
  | deletes owner => cases after

theorem pausesFor_terminal {error : AppError} {limit : Int} (lasting : isTransient error = false) :
    ∃ reason, pausesFor task limit (.error error) = some reason ∧ reason ≠ "max_failures" := by
  show ∃ reason, pauseReason task (finalizeFailure error) limit = some reason ∧ _
  unfold isTransient at lasting
  unfold pauseReason finalizeFailure
  generalize classify (httpStatus error.statusCode) false = kind at lasting
  refine ⟨kind.asStr, ?_⟩
  cases kind with
  | transient => simp at lasting
  | _ => exact ⟨rfl, by decide⟩

theorem pausesFor_transient {error : AppError} {settings : SchedulerAdminSettings}
    (passing : isTransient error = true) :
    pausesFor task settings.maxConsecutiveFailures (.error error) =
      if failureCap settings ≤ task.consecutiveFailures + 1 then some "max_failures" else none := by
  show pauseReason task (finalizeFailure error) settings.maxConsecutiveFailures = _
  have kind : classify (httpStatus error.statusCode) false = .transient := of_decide_eq_true passing
  unfold pauseReason finalizeFailure
  rw [kind]
  simp [FailureClass.asStr, shouldAutopause, failureCap]

/-- **A record keeps the row up with the streak**, and pauses for failures only at the cap. -/
theorem Tallied.record {settings : SchedulerAdminSettings} {status : String}
    (tallied : Tallied (failureCap settings) streak old) (found : shared.tasks.find id = some old)
    (countable : streak.countable id shared (task, result) = true)
    (same : row = (Write.recordOutcome id status result.isOk
      (pausesFor task settings.maxConsecutiveFailures result)).update old) :
    Tallied (failureCap settings) (streak.record result) row ∧
      (row.pausedReason = some "max_failures" → old.pausedReason = some "max_failures" ∨
        failureCap settings ≤ (streak.record result).count) := by
  subst same
  cases result with
  | ok raw => exact ⟨.reset (one_le_failureCap settings) rfl, Or.inl⟩
  | error error =>
    by_cases passing : isTransient error = true
    · -- the counter of the snapshot is the row's, and that is the streak
      simp only [Streak.countable, passing, Bool.not_true, Bool.false_or, Bool.and_eq_true,
        Bool.not_eq_true', found, Option.all_some, decide_eq_true_eq] at countable
      obtain ⟨⟨apart, open'⟩, current⟩ := countable
      have counted := tallied.counted open'
      have streak' : streak.record (.error error) = { streak with count := streak.count + 1 } := by
        simp [Streak.record, Streak.fail, passing, apart]
      rw [streak', pausesFor_transient passing]
      by_cases reached : failureCap settings ≤ task.consecutiveFailures + 1
      · rw [if_pos reached]
        refine ⟨⟨fun _ => congrArg (· + 1) counted, fun live => ?_⟩, fun _ => Or.inr ?_⟩
        · cases (isLive_iff.mp live).1
        · show failureCap settings ≤ ((streak.count + 1 : Nat) : Int)
          omega
      · rw [if_neg reached]
        refine ⟨⟨fun _ => congrArg (· + 1) counted, fun _ => ⟨open', ?_⟩⟩, fun paused => Or.inl ?_⟩
        · show ((streak.count + 1 : Nat) : Int) < failureCap settings
          omega
        · simpa [Write.update] using paused
    · rw [Bool.not_eq_true] at passing
      obtain ⟨reason, pauses, other⟩ :
          ∃ reason, pausesFor task settings.maxConsecutiveFailures (.error error) = some reason ∧
            reason ≠ "max_failures" := pausesFor_terminal passing
      have streak' : streak.record (.error error) = { streak with terminal := true } := by
        simp [Streak.record, Streak.fail, passing]
      rw [streak', pauses]
      refine ⟨⟨fun running => ?_, fun live => ?_⟩, fun paused => ?_⟩
      · cases running
      · cases (isLive_iff.mp live).1
      · exact absurd (Option.some.inj paused) other

end Rows

/-! ### The whole system -/

section System

variable {cron : CronLibrary} {activities : List Activity} {shared : Shared} {id : Uuid}
  {start final : Streak} {log : List (Nat × SchedulerEvent)}
  {last : Config schedulerPorts AppError Unit Shared}

theorem history_eq (watched : Follows ((failureWatch id).Step scheduler.Step)
    (Activity.config cron activities shared, start) log (last, final))
      (fresh : start.history = []) :
    final.history = log :=
  watched.preserves_log (fun log (state : Config schedulerPorts AppError Unit Shared × Streak) =>
    state.2.history = log) (fun {_ _ label _} same step => by
      obtain ⟨-, -, next⟩ := step
      rw [next, ← same]
      rfl) (show start.history = [] from fresh)

theorem own_of_ran {first : Nat} {task : ScheduledTask} {trigger : RunTrigger} {now : Instant}
    {result : Except AppError RawResult} {rest : List SchedulerEvent}
    (ran : Ran (scheduler.past first log thread) task trigger now result rest) :
    ∃ front, own thread log = front ++ (⟨.runTarget task trigger, result⟩ : SchedulerEvent) ::
      rest ∧ ∀ event ∈ front, event = (⟨.spawnFiring task trigger now, ()⟩ : SchedulerEvent) := by
  obtain ⟨birth, born, past⟩ : Knows scheduler log thread (scheduler.past first log thread) :=
    knows_past first log thread
  rw [ran.began] at past
  cases birth with
  | nil => exact ⟨[⟨.spawnFiring task trigger now, ()⟩], past.symm, by simp⟩
  | cons one birth =>
    obtain ⟨-, past⟩ := List.cons.inj past
    cases birth with
    | nil => exact ⟨[], past.symm, by simp⟩
    | cons two birth =>
      obtain ⟨rfl, -⟩ := List.cons.inj past
      exact absurd rfl (born ⟨.runTarget task trigger, result⟩ (by simp)).1

theorem findSome_answer {front rest : List SchedulerEvent} {task : ScheduledTask} {now : Instant}
    {result : Except AppError RawResult}
    (spawned : ∀ event ∈ front, event = (⟨.spawnFiring task .schedule now, ()⟩ : SchedulerEvent)) :
    (front ++ (⟨.runTarget task .schedule, result⟩ : SchedulerEvent) :: rest).findSome?
      (targetAnswer task.id) = some (task, result) := by
  have silent : front.findSome? (targetAnswer task.id) = none :=
    List.findSome?_eq_none_iff.mpr fun event member => by rw [spawned event member]; rfl
  rw [List.findSome?_append, silent, Option.none_or]
  simp [targetAnswer]

theorem recording {answer : Except AppError Unit} {status : String} {success : Bool}
    {reason : Option String} (watched : Follows ((failureWatch id).Step scheduler.Step)
      (Activity.config cron activities shared, start) log (last, final))
        (fresh : start.history = [])
    (step : scheduler.Step last (thread, ⟨.execute (.recordOutcome id status success reason),
      answer⟩) later) :
    ∃ task result, final.answered id thread = some (task, result) ∧ success = result.isOk ∧
      reason = pausesFor task shared.settings.maxConsecutiveFailures result := by
  have follows := Watch.follows watched
  have whole : Follows scheduler.Step (Activity.config cron activities shared)
      (log ++ (thread, ⟨.execute (.recordOutcome id status success reason), answer⟩) :: []) later :=
    Follows.append_iff.mpr ⟨last, follows, Follows.singleton_iff.mpr step⟩
  obtain ⟨task, trigger, now, result, rest, settings, rfl, ran, unrecorded, read, scheduled,
    success, reason⟩ := firing_ruled whole
  have trigger : trigger = .schedule := by
    cases trigger with
    | schedule => rfl
    | runNow => exact absurd rfl scheduled
  subst trigger
  obtain ⟨front, owned, spawned⟩ := own_of_ran ran
  have answered : final.answered task.id thread = some (task, result) := by
    rw [Streak.answered, history_eq watched fresh, owned]
    exact findSome_answer spawned
  refine ⟨task, result, answered, success, reason.trans ?_⟩
  -- the settings were read, and are what they have always been
  cases settings with
  | ok settings =>
    have known := Knows.own_mem (knows_past activities.length log thread) (ran.mem_rest read) rfl
    rw [settings_read follows known]
    rfl
  | error error =>
    obtain ⟨between, after, rfl⟩ := List.append_of_mem read
    rw [← List.cons_append, ← List.append_assoc] at owned
    obtain ⟨before, tail, rfl, past, -⟩ := own_split owned
    obtain ⟨state, head, more⟩ := Follows.append_iff.mp watched
    cases more with
    | cons here _ =>
      have allowed := here.1
      have quiet : (front ++ (⟨.runTarget task .schedule, result⟩ : SchedulerEvent) ::
          between).any (recordsOutcome task.id) = false := by
        refine List.any_eq_false.mpr fun event member => ?_
        rw [List.mem_append, List.mem_cons] at member
        rcases member with member | rfl | member
        · rw [spawned event member]
          exact Bool.false_ne_true
        · exact Bool.false_ne_true
        · rw [recordsOutcome_of_not (unrecorded event (List.mem_append_left _ member))]
          exact Bool.false_ne_true
      simp only [failureWatch, Streak.allows, Streak.answered, history_eq head fresh, past,
        findSome_answer spawned, quiet] at allowed
      cases allowed

theorem preemptivePauseReason_ne {task : ScheduledTask} :
    preemptivePauseReason task ≠ some "max_failures" := by
  unfold preemptivePauseReason
  repeat' split
  all_goals decide

theorem goalOutcome_ne (outcome : GoalOutcome) : (goalOutcome outcome).2 ≠ "max_failures" := by
  cases outcome with
  | done => decide
  | again instant => exact fun same => absurd same (by decide : "completed" ≠ "max_failures")
  | incomplete => decide

theorem spares {event : SchedulerEvent}
    (follows : Follows scheduler.Step (Activity.config cron activities shared)
      (log ++ [(thread, event)]) last) : sparesReason event = true := by
  obtain ⟨query, answer⟩ := event
  cases query with
  | execute write =>
    cases write with
    | markFired task next firedAt reason =>
      obtain ⟨row, since, -, -, reasons⟩ := tick_ruled follows trivial
      rcases reasons with ⟨-, rfl⟩ | ⟨rfl, -⟩
      · exact decide_eq_true preemptivePauseReason_ne
      · rfl
    | armSelfPaced task outcome firedAt reason =>
      obtain ⟨row, trigger, raw, rest, settings, -, -, -, -, rearmed⟩ := firing_ruled follows
      cases rearmed with
      | plain => rfl
      | goal => exact decide_eq_true (goalOutcome_ne _)
    | _ => rfl
  | _ => rfl

section

variable {event : SchedulerEvent} {row : ScheduledTask}
  (watched : Follows ((failureWatch id).Step scheduler.Step)
    (Activity.config cron activities shared, start) log (last, final))
  (fresh : start.history = [])
  (tallied : ∀ row, last.shared.tasks.find id = some row →
    Tallied (failureCap shared.settings) final row)
  (step : scheduler.Step last (thread, event) later)
  (allowed : final.allows id last.shared (thread, event) = true)
  (found : later.shared.tasks.find id = some row)

include watched fresh tallied step allowed found

theorem tallied_record (records : recordsOutcome id event = true) :
    Tallied (failureCap shared.settings) (final.tally id last.shared thread event) row ∧
      (row.pausedReason = some "max_failures" →
        (∃ old, last.shared.tasks.find id = some old ∧ old.pausedReason = some "max_failures") ∨
        failureCap shared.settings ≤ (final.tally id last.shared thread event).count) := by
  unfold recordsOutcome at records
  split at records
  · rename_i task status success reason answer
    obtain rfl := of_decide_eq_true records
    obtain ⟨snapshot, result, answered, rfl, rfl⟩ := recording watched fresh step
    have tally : final.tally task last.shared thread ⟨.execute (.recordOutcome task status
        result.isOk (pausesFor snapshot shared.settings.maxConsecutiveFailures result)), answer⟩ =
        final.record result := by
      simp [Streak.tally, recordsOutcome, answered]
    simp only [Streak.allows, ne_eq, not_true_eq_false, decide_false, Bool.false_or, answered,
      Option.all_some, Bool.and_eq_true] at allowed
    obtain ⟨written, countable⟩ := allowed
    cases answer with
    | error error => cases written
    | ok _ =>
      rw [tally]
      cases step with
      | act _ answers =>
        cases Answers.execute_ok answers
        dsimp only at found
        rw [Shared.find_write, if_pos (show (Write.recordOutcome task _ _ _).target =
          task from rfl)] at found
        obtain ⟨old, before, rfl⟩ := Option.map_eq_some_iff.mp found
        obtain ⟨keeps, pauses⟩ := (tallied old before).record before countable rfl
        exact ⟨keeps, fun paused => (pauses paused).imp_left fun paused => ⟨old, before, paused⟩⟩
  · cases records

/-- **What one step makes of the row and the streak**: the row keeps up, and is paused for failures
only when it was, or when there are as many as the cap. -/
theorem tallied_step :
    Tallied (failureCap shared.settings) (final.tally id last.shared thread event) row ∧
      (row.pausedReason = some "max_failures" →
        (∃ old, last.shared.tasks.find id = some old ∧ old.pausedReason = some "max_failures") ∨
        failureCap shared.settings ≤ (final.tally id last.shared thread event).count) := by
  by_cases records : recordsOutcome id event = true
  · exact tallied_record watched fresh tallied step allowed found records
  · rw [Bool.not_eq_true] at records
    have whole : Follows scheduler.Step (Activity.config cron activities shared)
        (log ++ [(thread, event)]) later :=
      Follows.append_iff.mpr ⟨last, Watch.follows watched, Follows.singleton_iff.mpr step⟩
    have rowStep : RowStep id event (last.shared.tasks.find id) (some row) := by
      cases step with
      | act _ answers => exact found ▸ Answers.rowStep answers id
    by_cases restart : restarts id last.shared event = true
    · obtain ⟨none, unpaused⟩ := rowStep.restart restart allowed
      have tally : final.tally id last.shared thread event = final.reset := by
        simp [Streak.tally, records, restart]
      rw [tally]
      exact ⟨.reset (one_le_failureCap _) none, fun paused => by simp [unpaused] at paused⟩
    · rw [Bool.not_eq_true] at restart
      obtain ⟨old, before, calm⟩ := rowStep.calm records (spares whole) restart
      have tally : final.tally id last.shared thread event = final := by
        simp [Streak.tally, records, restart]
      rw [tally]
      exact ⟨(tallied old before).calm calm, fun paused => Or.inl ⟨old, before, calm.paused paused⟩⟩

end

/-- **Auto-pause counts what it says**, in every interleaving in which passing failures are recorded
on the counter of their snapshot and are no conflicts, and re-enabling finds the counter at zero. -/
theorem paused_for_streak (cron : CronLibrary) (activities : List Activity) {shared : Shared}
    {id : Uuid} {start final : Streak} {log : List (Nat × SchedulerEvent)}
    {last : Config schedulerPorts AppError Unit Shared}
    (fresh : start.history = []) (tallied : ∀ row, shared.tasks.find id = some row →
      Tallied (failureCap shared.settings) start row)
    (watched : Follows ((failureWatch id).Step scheduler.Step)
      (Activity.config cron activities shared, start) log (last, final)) :
    (∀ row, last.shared.tasks.find id = some row → failureCap shared.settings ≤ final.count →
      row.isLive = false) ∧
    ∀ label later next row, (failureWatch id).Step scheduler.Step (last, final) label
      (later, next) →
      later.shared.tasks.find id = some row → row.pausedReason = some "max_failures" →
      (∃ old, last.shared.tasks.find id = some old ∧ old.pausedReason = some "max_failures") ∨
        failureCap shared.settings ≤ next.count := by
  have keeps : ∀ row, last.shared.tasks.find id = some row →
      Tallied (failureCap shared.settings) final row := by
    refine preserves_split watched (fun _ (state : Config schedulerPorts AppError Unit Shared ×
      Streak) => ∀ row, state.1.shared.tasks.find id = some row →
        Tallied (failureCap shared.settings) state.2 row) ?_ tallied
    rintro before ⟨thread, event⟩ after ⟨config, streak⟩
      ⟨config', streak'⟩ - head holds step row found
    obtain ⟨allowed, step, same⟩ := step
    dsimp only at same
    rw [same]
    obtain ⟨keeps, -⟩ := tallied_step head fresh holds step allowed found
    exact ⟨keeps.counted, keeps.live⟩
  refine ⟨fun row found reached => ?_, ?_⟩
  · refine Bool.eq_false_iff.mpr fun live => ?_
    have below := ((keeps row found).live live).2
    omega
  · rintro ⟨thread, event⟩ later next row ⟨allowed, step, same⟩ found paused
    dsimp only at same
    rw [same]
    exact (tallied_step watched fresh keeps step allowed found).2 paused

end System

/-! ### A conflict that pauses -/

/-- One failure in a row pauses. -/
def impatient : Shared :=
  { onePaced with settings := { defaultSettings with maxConsecutiveFailures := 1 } }

/-- A turn is under way in the conversation. -/
def conflicting : Outside :=
  ⟨fun _ _ => .error ⟨409, "CONFLICT", "a turn is running"⟩, .notDone, 1, fun _ => 9⟩

def impatientConfig : Config schedulerPorts AppError Unit Shared :=
  Activity.config midnights [.tickLoop 1] impatient

theorem impatient_tallied : ∀ row, impatient.tasks.find 1 = some row →
    Tallied (failureCap impatient.settings) ⟨[], 0, false⟩ row := by
  intro row found
  cases List.mem_singleton.mp (TaskTable.mem_of_find found).1
  exact ⟨fun _ => rfl, fun _ => ⟨rfl, by decide⟩⟩

theorem blip_pauses : ∃ row, (scheduler.execute (Shared.answer blipping) impatientConfig
      [0, 0, 0, 0, 1, 1, 1]).2.shared.tasks.find 1 = some row ∧ row.isLive = false := by
  have watched : Follows ((failureWatch 1).Step scheduler.Step)
      (Activity.config midnights [.tickLoop 1] impatient, (⟨[], 0, false⟩ : Streak)) _ _ :=
    scheduler.watched_execute (Shared.answers_answer blipping) [0, 0, 0, 0, 1, 1, 1] _ _ (by decide)
  obtain ⟨row, found⟩ : ∃ row, (scheduler.execute (Shared.answer blipping) impatientConfig
      [0, 0, 0, 0, 1, 1, 1]).2.shared.tasks.find 1 = some row := ⟨_, rfl⟩
  exact ⟨row, found, (paused_for_streak midnights [.tickLoop 1] rfl impatient_tallied watched).1 row
    found (by decide)⟩

/-- **A conflict is counted**: the first firing meets a turn that is under way, and the task is
paused for its failures. -/
theorem conflict_pauses : ¬ ∀ (cron : CronLibrary) (activities : List Activity) (shared : Shared)
    (id : Uuid) (final : Streak) (log : List (Nat × SchedulerEvent))
    (last : Config schedulerPorts AppError Unit Shared), (∀ row, shared.tasks.find id = some row →
      Tallied (failureCap shared.settings) ⟨[], 0, false⟩ row) →
    Follows ((failureWatch id).unguarded.Step scheduler.Step)
      (Activity.config cron activities shared, ⟨[], 0, false⟩) log (last, final) →
    (∀ row, last.shared.tasks.find id = some row → failureCap shared.settings ≤ final.count →
      row.isLive = false) ∧
    ∀ label later next row,
      (failureWatch id).unguarded.Step scheduler.Step (last, final) label (later, next) →
      later.shared.tasks.find id = some row → row.pausedReason = some "max_failures" →
      (∃ old, last.shared.tasks.find id = some old ∧ old.pausedReason = some "max_failures") ∨
        failureCap shared.settings ≤ next.count := by
  intro claimed
  have watched : Follows ((failureWatch 1).unguarded.Step scheduler.Step)
      (Activity.config midnights [.tickLoop 1] impatient, (⟨[], 0, false⟩ : Streak)) _ _ :=
    scheduler.watched_execute (Shared.answers_answer conflicting) [0, 0, 0, 0, 1, 1] _ _ rfl
  have records : Follows ((failureWatch 1).unguarded.Step scheduler.Step)
      ((scheduler.execute (Shared.answer conflicting) impatientConfig [0, 0, 0, 0, 1, 1]).2,
        scheduler.observe (Shared.answer conflicting) (failureWatch 1).unguarded impatientConfig
          ⟨[], 0, false⟩ [0, 0, 0, 0, 1, 1]) _ _ :=
    scheduler.watched_execute (Shared.answers_answer conflicting) [1] _ _ rfl
  have paused := (claimed midnights [.tickLoop 1] impatient 1 _ _ _ impatient_tallied watched).2 _ _
    _ { pacedTask with
      nextRunAt := none, lastRunAt := some 1, lastStatus := some "failed", consecutiveFailures := 1,
      enabled := false, pausedReason := some "max_failures" }
    (Follows.singleton_iff.mp records) rfl rfl
  rcases paused with ⟨old, found, early⟩ | reached
  · have open' : ((scheduler.execute (Shared.answer conflicting) impatientConfig
        [0, 0, 0, 0, 1, 1]).2.shared.tasks.find 1).map (·.pausedReason) = some none := rfl
    have clash : some old.pausedReason = some none :=
      (congrArg (Option.map ScheduledTask.pausedReason) found).symm.trans open'
    rw [early] at clash
    cases clash
  · exact absurd reached (by decide)

end Ziee.Scheduler
