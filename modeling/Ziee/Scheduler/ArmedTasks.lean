/-
**An enabled task is armed when nothing of it is in flight.**

A claim disarms a self-paced task and leaves the re-arming to the end of its firing. The firing
re-arms or disables the task when it succeeds, and pauses it when it fails for good; when it fails
for now, it records the failure and leaves the row as it is.

* `Shared.isStranded` — an enabled task without a pause reason and without a `next_run_at`.
* `keepsArmed` — the steps under which the code keeps its promise.
-/

import Ziee.Scheduler.Asks

namespace Ziee.Scheduler

open PortProgram Threads Ziee.Providers Ziee.Agent

def ScheduledTask.isStranded (row : ScheduledTask) : Bool :=
  row.enabled && row.pausedReason.isNone && row.nextRunAt.isNone

/-- **The task is stranded**: it is active and will not fire again. -/
def Shared.isStranded (shared : Shared) (id : Uuid) : Bool :=
  (shared.tasks.find id).any ScheduledTask.isStranded

/-- **The steps that keep active tasks armed**: the statement that arms or pauses a task runs, and a
failure below the cap is not recorded on a row that is still disarmed. -/
def keepsArmed (shared : Shared) : SchedulerEvent → Bool
  | ⟨.execute (.armSelfPaced _ _ _ _), answer⟩ => answer.isOk
  | ⟨.execute (.recordOutcome _ _ false (some _)), answer⟩ => answer.isOk
  | ⟨.execute (.recordOutcome id _ false none), _⟩ => !shared.isStranded id
  | _ => true

section Rows

variable {row : ScheduledTask}

@[simp] theorem isStranded_iff :
    row.isStranded = true ↔ row.enabled = true ∧ row.pausedReason = none ∧
      row.nextRunAt = none := by
  simp [ScheduledTask.isStranded, and_assoc]

variable {event : SchedulerEvent} {outcome : DispatchOutcome} {program : SchedulerM Unit}

/-- **Only the disarming statement strands a row.** -/
theorem Write.isStranded_of_update {write : Write}
    (disarms : ∀ id firedAt, write ≠ .disarmSelfPaced id firedAt)
    (stranded : (write.update row).isStranded = true) : row.isStranded = true := by
  rw [isStranded_iff] at stranded ⊢
  cases write with
  | markFired _ nextRunAt _ pausedReason =>
    obtain ⟨enabled, -, unarmed⟩ := stranded
    cases nextRunAt with
    | some next => cases unarmed
    | none => cases pausedReason <;> cases enabled
  | disarmSelfPaced id firedAt => exact absurd rfl (disarms id firedAt)
  | armSelfPaced _ outcome _ _ =>
    cases outcome with
    | fire instant => cases stranded.2.2
    | disable => cases stranded.1
  | recordOutcome _ _ _ pauseReason =>
    cases pauseReason with
    | some reason => cases stranded.1
    | none => exact stranded
  | setBoundConversation _ _ => exact stranded

theorem isStranded_of_applyUpdate {upd : UpdateScheduledTask}
    {nextRunAt : Option (Option Instant)} (computed : Recomputed upd nextRunAt)
    {row' : ScheduledTask} (stored : (applyUpdate upd nextRunAt row).stored? = some row')
    (stranded : row'.isStranded = true) : row.isStranded = true := by
  obtain ⟨name, -, -, rfl⟩ := ScheduledTask.stored?_eq_some_iff.mp stored
  rw [isStranded_iff] at stranded ⊢
  obtain ⟨enabled, unpaused, unarmed⟩ := stranded
  rcases computed with ⟨untouched, rfl⟩ | ⟨instant, -, rfl⟩
  · have still : upd.enabled ≠ some true := by
      intro enables
      simp [UpdateScheduledTask.touchesSchedule, enables] at untouched
    simp only [applyUpdate, if_neg still] at enabled unpaused unarmed
    cases enables : upd.enabled with
    | none =>
      rw [enables] at enabled
      exact ⟨enabled, unpaused, unarmed⟩
    | some value =>
      rw [enables] at enabled still
      cases value with
      | true => exact absurd rfl still
      | false => cases enabled
  · cases unarmed

end Rows

/-! ### What a step does to a task -/

section Steps

variable {shared shared' : Shared} {id : Uuid}

theorem Shared.isStranded_iff : shared.isStranded id = true ↔
    ∃ row, shared.tasks.find id = some row ∧ row.isStranded = true := by
  unfold Shared.isStranded
  rw [Option.any_eq_true]

theorem Shared.isStranded_of_write {write : Write}
    (disarms : ∀ firedAt, write ≠ .disarmSelfPaced id firedAt)
    (stranded : (shared.write write).isStranded id = true) : shared.isStranded id = true := by
  obtain ⟨row', found, stuck⟩ := Shared.isStranded_iff.mp stranded
  by_cases same : id = write.target
  · subst same
    rw [Shared.write, TaskTable.find_write_self] at found
    obtain ⟨row, before, rfl⟩ := Option.map_eq_some_iff.mp found
    refine Shared.isStranded_iff.mpr ⟨row, before, Write.isStranded_of_update ?_ stuck⟩
    rintro other firedAt rfl
    exact disarms firedAt rfl
  · rw [Shared.write, TaskTable.find_write_ne same] at found
    exact Shared.isStranded_iff.mpr ⟨row', found, stuck⟩

/-- What is known of a query that does not strand the task by itself. -/
def ArmsRows : SchedulerQuery → Prop
  | .insert _ _ nextRunAt => nextRunAt.isSome = true
  | .update _ _ upd nextRunAt => Recomputed upd nextRunAt
  | _ => True

/-- **Only a disarming statement strands a task.** -/
theorem Answers.isStranded (answers : Answers shared event shared') (arms : ArmsRows event.1)
    (disarms : ∀ firedAt, event ≠ ⟨.execute (.disarmSelfPaced id firedAt), .ok ()⟩)
    (stranded : shared'.isStranded id = true) : shared.isStranded id = true := by
  cases answers with
  | executes write =>
    refine Shared.isStranded_of_write (fun firedAt same => ?_) stranded
    subst same
    exact disarms firedAt rfl
  | inserts userId req nextRunAt newId createdAt row fresh _ stored =>
    obtain ⟨row', found, stuck⟩ := Shared.isStranded_iff.mp stranded
    by_cases same : id = row.id
    · subst same
      rw [TaskTable.find_insert_self] at found
      cases found
      obtain ⟨name, -, -, rfl⟩ := ScheduledTask.stored?_eq_some_iff.mp stored
      obtain ⟨instant, rfl⟩ := Option.isSome_iff_exists.mp arms
      cases (isStranded_iff.mp stuck).2.2
    · rw [TaskTable.find_insert_ne same] at found
      exact Shared.isStranded_iff.mpr ⟨row', found, stuck⟩
  | updates userId other upd nextRunAt row row' owned stored =>
    obtain ⟨row'', found, stuck⟩ := Shared.isStranded_iff.mp stranded
    by_cases same : id = other
    · subst same
      rw [Shared.update, TaskTable.find_modify_self,
        (Option.filter_eq_some_iff.mp owned).1] at found
      cases found
      rw [storedUpdate_of_stored stored] at stuck
      exact Shared.isStranded_iff.mpr ⟨row, (Option.filter_eq_some_iff.mp owned).1,
        isStranded_of_applyUpdate arms stored stuck⟩
    · rw [Shared.update, TaskTable.find_modify_ne same] at found
      exact Shared.isStranded_iff.mpr ⟨row'', found, stuck⟩
  | deletes userId other row owned =>
    obtain ⟨row', found, stuck⟩ := Shared.isStranded_iff.mp stranded
    by_cases same : id = other
    · subst same
      rw [Shared.delete, TaskTable.find_erase_self] at found
      cases found
    · rw [Shared.delete, TaskTable.find_erase_ne same] at found
      exact Shared.isStranded_iff.mpr ⟨row', found, stuck⟩
  | runsTarget task trigger result created =>
    cases created with
    | none => exact stranded
    | some conversationId => exact Shared.isStranded_of_write (fun _ => by simp) stranded
  | _ => exact stranded

/-- The statements that end the disarmed time of a task. -/
def Settles (id : Uuid) (query : SchedulerQuery) : Prop :=
  (∃ outcome firedAt reason, query = .execute (.armSelfPaced id outcome firedAt reason)) ∨
    ∃ status reason, query = .execute (.recordOutcome id status false reason)

theorem Shared.settled_of_write (write : Write)
    (settles : ∀ row : ScheduledTask, (write.update row).isStranded = false) :
    (shared.write write).isStranded write.target = false := by
  unfold Shared.isStranded
  rw [Shared.write, TaskTable.find_write_self]
  cases shared.tasks.find write.target with
  | none => rfl
  | some row => exact settles row

/-- **A permitted settling statement leaves the task armed, or not active.** -/
theorem Answers.settled {query : SchedulerQuery} {answer : query.Answer}
    (answers : Answers shared ⟨query, answer⟩ shared') (settles : Settles id query)
    (permitted : keepsArmed shared ⟨query, answer⟩ = true) : shared'.isStranded id = false := by
  rcases settles with ⟨outcome, firedAt, reason, rfl⟩ | ⟨status, reason, rfl⟩
  · cases answers with
    | executes write =>
      refine Shared.settled_of_write (.armSelfPaced id outcome firedAt reason) fun row => ?_
      cases outcome <;> simp [ScheduledTask.isStranded, Write.update]
    | outside _ _ outside => cases outside
    | fails _ _ error failed =>
      cases failed
      cases permitted
  · cases reason with
    | none =>
      -- a failure below the cap is recorded on an armed or inactive row only
      have before : shared.isStranded id = false := by simpa [keepsArmed] using permitted
      refine Bool.eq_false_iff.mpr fun stranded => ?_
      rw [answers.isStranded trivial (fun _ => by simp) stranded] at before
      cases before
    | some reason =>
      cases answers with
      | executes write =>
        refine Shared.settled_of_write (.recordOutcome id status false (some reason)) fun row => ?_
        simp [ScheduledTask.isStranded, Write.update]
      | outside _ _ outside => cases outside
      | fails _ _ error failed =>
        cases failed
        cases permitted

end Steps

/-! ### What the firing owes -/

section Firing

variable {task : ScheduledTask} {now : Instant}

theorem goalVerdict_then {marked : SchedulerQuery → Prop} {condition : String}
    {modelId : Option Uuid} {rest : GoalVerdict → SchedulerM Unit}
    (tail : ∀ verdict, Inevitable (I := schedulerPorts) marked (rest verdict)) :
    Inevitable (I := schedulerPorts) marked
      (goalVerdict task condition outcome modelId >>= rest) := by
  cases modelId with
  | none => exact tail .notDone
  | some modelId =>
    unfold goalVerdict
    dsimp only
    split
    · exact tail .notDone
    · exact Inevitable.after tail

theorem writeBack_settles (paced : task.kind = .selfPaced)
    (success : outcome.success = true) : Inevitable (I := schedulerPorts) (Settles task.id)
      (writeBack task .schedule outcome now) := by
  unfold writeBack
  rw [if_pos ⟨success, paced⟩]
  refine Inevitable.after fun settings => ?_
  dsimp only
  split
  · refine Inevitable.after fun goal => goalVerdict_then fun verdict => ?_
    refine Inevitable.after fun counted => Inevitable.bind_left ?_
    exact Inevitable.perform (Or.inl ⟨_, _, _, rfl⟩)
  · rw [if_pos (by simp)]
    exact Inevitable.bind_left (Inevitable.perform (Or.inl ⟨_, _, _, rfl⟩))

/-- **A self-paced firing arms, disables or pauses its task, or records a failure below the
cap.** -/
theorem fireTask_settles (paced : task.kind = .selfPaced) :
    Inevitable (I := schedulerPorts) (Settles task.id) (fireTask task .schedule now) := by
  refine Inevitable.after fun raw => ?_
  cases raw with
  | error error =>
    refine Inevitable.after fun settings => Or.inl (Or.inr ⟨_, _, rfl⟩)
  | ok raw =>
    refine Inevitable.after fun changed => ?_
    refine Inevitable.after fun settings => Inevitable.after fun recorded => ?_
    exact Inevitable.after fun inserted => writeBack_settles paced rfl

def OwesNextFire (id : Uuid) (program : SchedulerM Unit) : Prop :=
  (∃ task now next, task.id = id ∧ task.kind = .selfPaced ∧
      program = .ask (.spawnFiring task .schedule now) next) ∨
    ∃ task now, task.id = id ∧ Residual (fireTask task .schedule now) program ∧
      Inevitable (I := schedulerPorts) (Settles id) program

def SpawnsAfter (id : Uuid) (event : SchedulerEvent) (rest : SchedulerM Unit) : Prop :=
  ArmsRows event.1 ∧ ∀ firedAt, event = ⟨.execute (.disarmSelfPaced id firedAt), .ok ()⟩ →
    ∃ task now next, task.id = id ∧ task.kind = .selfPaced ∧
      rest = .ask (.spawnFiring task .schedule now) next

theorem SpawnsAfter.bind {id : Uuid} {first : SchedulerM Unit}
    {rest : Unit → SchedulerM Unit} (spawns : SpawnsAfter id event first) :
    SpawnsAfter id event (first >>= rest) := by
  refine ⟨spawns.1, fun firedAt same => ?_⟩
  obtain ⟨task, now, next, owner, paced, rfl⟩ := spawns.2 firedAt same
  exact ⟨task, now, fun answer => next answer >>= rest, owner, paced, rfl⟩

end Firing

section Sound

variable {cron : CronLibrary} {id : Uuid}

theorem spawnsAfter_of_asks (allowed : SchedulerQuery → Prop)
    (arms : ∀ query, allowed query → ArmsRows query)
    (never : ∀ other firedAt, ¬ allowed (.execute (.disarmSelfPaced other firedAt)))
    (asks : AsksOnly (I := schedulerPorts) allowed program) :
    Each (I := schedulerPorts) (SpawnsAfter id) program := by
  refine asks.each fun {query} permitted answer rest =>
    ⟨arms query permitted, fun firedAt same => ?_⟩
  cases congrArg Sigma.fst same
  exact absurd permitted (never id firedAt)

theorem fireDue_spawns (task : ScheduledTask) (now : Instant) :
    Each (I := schedulerPorts) (SpawnsAfter id) (fireDue cron task now) := by
  unfold fireDue
  split
  · intro answer
    refine ⟨⟨trivial, fun firedAt same => ?_⟩, fun answer =>
      ⟨⟨trivial, fun firedAt same => ?_⟩, trivial⟩⟩
    · cases congrArg Sigma.fst same
    · cases congrArg Sigma.fst same
  · intro answer
    refine ⟨⟨trivial, fun firedAt same => ?_⟩, ?_⟩
    · by_cases paced : task.kind = .selfPaced
      · rw [if_pos paced] at same
        cases same
        exact ⟨task, now, _, rfl, paced, rfl⟩
      · rw [if_neg paced] at same
        cases congrArg Sigma.fst same
    · cases answer with
      | error error => trivial
      | ok _ =>
        exact fun answer => ⟨⟨trivial, fun firedAt same => by cases congrArg Sigma.fst same⟩,
          trivial⟩

theorem sweep_spawns (now : Instant) :
    ∀ due, Each (I := schedulerPorts) (SpawnsAfter id) (sweep cron now due)
  | [] => trivial
  | task :: rest =>
    Each.bind SpawnsAfter.bind (fireDue_spawns task now) fun _ => sweep_spawns now rest

theorem runTickLoop_spawns :
    ∀ sweeps, Each (I := schedulerPorts) (SpawnsAfter id) (runTickLoop cron sweeps)
  | 0 => trivial
  | sweeps + 1 => by
    refine Each.bind SpawnsAfter.bind ?_ fun _ => runTickLoop_spawns sweeps
    intro now
    refine ⟨⟨trivial, fun firedAt same => by cases congrArg Sigma.fst same⟩, fun due => ?_⟩
    refine ⟨⟨trivial, fun firedAt same => by cases congrArg Sigma.fst same⟩, ?_⟩
    cases due with
    | error error => trivial
    | ok due => exact sweep_spawns now due

/-- **Every activity spawns the firing of a task it disarms.** -/
theorem Activity.spawns (activity : Activity) :
    Each (I := schedulerPorts) (SpawnsAfter id) (activity.program cron) := by
  cases activity with
  | tickLoop sweeps => exact runTickLoop_spawns sweeps
  | create userId body =>
    refine spawnsAfter_of_asks (CreateAsks userId) (fun query asked => ?_) (fun _ _ asked => asked)
      (AsksOnly.bind (createTask_asks body) fun _ => trivial)
    cases query with
    | insert user req nextRunAt => exact asked.2
    | update user task upd nextRunAt => exact asked.elim
    | _ => trivial
  | update userId task body =>
    refine spawnsAfter_of_asks (UpdateAsks userId task body) (fun query asked => ?_)
      (fun _ _ asked => asked) (AsksOnly.bind (updateTask_asks body) fun _ => trivial)
    cases query with
    | insert user req nextRunAt => exact asked.elim
    | update user other upd nextRunAt =>
      obtain ⟨-, -, rfl, computed⟩ := asked
      exact computed
    | _ => trivial
  | delete userId task =>
    refine spawnsAfter_of_asks (fun query => query = .delete userId task)
      (fun query asked => asked ▸ trivial) nofun ?_
    refine AsksOnly.bind (.attempt rfl) fun affected => ?_
    split
    · trivial
    · trivial
  | fireNow userId task =>
    refine spawnsAfter_of_asks (fun query => query = .getForUser userId task ∨ query = .now ∨
        ∃ task now, query = .spawnFiring task .runNow now)
      (fun query asked => ?_) (fun _ _ asked => by simp at asked) ?_
    · rcases asked with rfl | rfl | ⟨task, now, rfl⟩ <;> trivial
    · refine AsksOnly.bind (.attempt (Or.inl rfl)) fun found => ?_
      cases found with
      | none => trivial
      | some task =>
        exact AsksOnly.bind (.perform (Or.inr (Or.inl rfl))) fun now =>
          .perform (Or.inr (Or.inr ⟨task, now, rfl⟩))
  | prune =>
    refine spawnsAfter_of_asks (fun query => query = .settings ∨ query = .now ∨
        ∃ cutoff, query = .pruneRunsOlderThan cutoff)
      (fun query asked => ?_) (fun _ _ asked => by simp at asked) ?_
    · rcases asked with rfl | rfl | ⟨cutoff, rfl⟩ <;> trivial
    · refine AsksOnly.bind (.perform (Or.inl rfl)) fun settings => ?_
      cases settings with
      | error error => trivial
      | ok settings =>
        dsimp only
        split
        · trivial
        · refine AsksOnly.bind (.perform (Or.inr (Or.inl rfl))) fun now => ?_
          exact AsksOnly.bind (.perform (Or.inr (Or.inr ⟨_, rfl⟩))) fun _ => trivial

/-- **Whoever disarms a task owes the statement that arms or pauses it.** -/
theorem mends_stranded (id : Uuid) :
    Mends scheduler (fun shared event => keepsArmed shared event = true)
      (fun shared => shared.isStranded id = true)
      (Each (I := schedulerPorts) (SpawnsAfter id)) (OwesNextFire id) where
  incurs := by
    intro shared shared' query next answer sound permitted answers before after
    -- the step that strands the task disarms it
    by_contra owes
    refine before (Answers.isStranded answers (sound answer).1.1 (fun firedAt same => ?_) after)
    exact owes (Or.inl ((sound answer).1.2 firedAt same))
  carries := by
    rintro shared shared' query next answer owes permitted answers after
    rcases owes with ⟨task, now, _, owner, paced, same⟩ | ⟨task, now, owner, residual, settles⟩
    · cases same
      refine Or.inr ⟨fireTask task .schedule now, List.mem_singleton_self _, Or.inr ?_⟩
      exact ⟨task, now, owner, .refl, owner ▸ fireTask_settles paced⟩
    · rcases settles with here | later
      · rw [Answers.settled answers here permitted] at after
        cases after
      · exact Or.inl (Or.inr ⟨task, now, owner, .step answer residual, later answer⟩)
  residual := fun sound answer => sound.residual answer
  started := by
    rintro ⟨query, answer⟩ program started
    cases query with
    | spawnFiring task trigger now =>
      cases List.mem_singleton.mp started
      refine spawnsAfter_of_asks (FiringAsks task trigger) (fun query asked => ?_)
        (fun _ _ asked => asked) (fireTask_asks task trigger now)
      cases query with
      | insert | update => exact asked.elim
      | _ => trivial
    | _ => cases started

theorem OwesNextFire.inFlight (owes : OwesNextFire id program) : InFlight id program := by
  rcases owes with ⟨task, now, next, owner, -, rfl⟩ | ⟨task, now, owner, residual, settles⟩
  · exact ⟨task, .schedule, now, _, next, owner, rfl, Or.inl rfl⟩
  · cases program with
    | pure | fail => exact absurd settles (fun impossible => impossible)
    | ask query next => exact ⟨task, .schedule, now, query, next, owner, rfl, Or.inr residual⟩

end Sound

/-- **An enabled task is armed at rest.** From tables in which no task is stranded, in every
interleaving of the tick loop, any requests, firings and prunes whose steps all keep tasks armed, a
task that is enabled and not paused has a `next_run_at` whenever no firing of it is in flight. -/
theorem armed_at_rest (cron : CronLibrary) (activities : List Activity) {shared : Shared}
    {log : List (Nat × SchedulerEvent)} {last : Config schedulerPorts AppError Unit Shared}
    (armed : ∀ id, shared.isStranded id = false)
    (follows : Follows (scheduler.Guarded fun config label =>
      keepsArmed config.shared label.2 = true) (Activity.config cron activities shared) log last)
    (id : Uuid) (rest : ∀ program ∈ last.threads, ¬ InFlight id program) {row : ScheduledTask}
    (found : last.shared.tasks.find id = some row) (enabled : row.enabled = true)
    (unpaused : row.pausedReason = none) : row.nextRunAt ≠ none := by
  intro unarmed
  have start : Owed (fun shared : Shared => shared.isStranded id = true)
      (Each (I := schedulerPorts) (SpawnsAfter id)) (OwesNextFire id)
      (Activity.config cron activities shared) := by
    refine ⟨fun program member => ?_, fun stranded => ?_⟩
    · obtain ⟨activity, -, rfl⟩ := List.mem_map.mp member
      exact activity.spawns
    · rw [show (Activity.config cron activities shared).shared = shared from rfl,
        armed id] at stranded
      cases stranded
  obtain ⟨-, owed⟩ := (mends_stranded id).owed follows start
  have stranded : last.shared.isStranded id = true :=
    Shared.isStranded_iff.mpr ⟨row, found, isStranded_iff.mpr ⟨enabled, unpaused, unarmed⟩⟩
  obtain ⟨program, member, owes⟩ := owed stranded
  exact rest program member owes.inFlight

/-! ### The transient failure -/

def pacedTask : ScheduledTask where
  id := 1
  userId := 7
  name := "digest"
  enabled := true
  pausedReason := none
  targetKind := "prompt"
  workflowId := none
  inputsJson := .null
  assistantId := none
  prompt := some "Summarise the news."
  modelId := some 3
  scheduleKind := "self_paced"
  runAt := none
  cronExpr := none
  timezone := "UTC"
  nextRunAt := some 0
  lastRunAt := none
  lastStatus := none
  consecutiveFailures := 0
  notifyMode := "always"
  notifyOn := "always"
  boundConversationId := none
  completionCondition := none
  allowedUnattendedTools := []
  createdAt := 0

def defaultSettings : SchedulerAdminSettings := ⟨20, 300, 5, 30, 7⟩

def onePaced : Shared where
  tasks := ⟨[pacedTask], List.nodup_singleton _⟩
  runs := []
  settings := defaultSettings
  goal := ⟨none, 10⟩
  clock := 0

/-- The target fails with a 503, or answers and asks to be called again in an hour. -/
def blipping : Outside := ⟨fun _ _ => .error ⟨503, "UPSTREAM", "overloaded"⟩, .notDone, 1, fun _ =>
    9⟩

def proposing : Outside :=
  ⟨fun _ _ => .ok ⟨"nothing new", [], some ⟨3600, false⟩⟩, .notDone, 1, fun _ => 9⟩

def oneFiring (outside : Outside) : List (Nat × SchedulerEvent) ×
    Config schedulerPorts AppError Unit Shared :=
  scheduler.execute (Shared.answer outside) (Activity.config midnights [.tickLoop 1] onePaced)
    [0, 0, 0, 0, 1, 1, 1, 1, 1, 1, 1]

theorem onePaced_armed (id : Uuid) : onePaced.isStranded id = false := by
  refine Bool.eq_false_iff.mpr fun stranded => ?_
  obtain ⟨row, found, stuck⟩ := Shared.isStranded_iff.mp stranded
  cases List.mem_singleton.mp (TaskTable.mem_of_find found).1
  cases stuck

theorem not_inFlight_of_pure {id : Uuid} {threads : List (SchedulerM Unit)}
    (ended : ∀ program ∈ threads, program = .pure ()) :
    ∀ program ∈ threads, ¬ InFlight id program := by
  rintro program member ⟨_, _, _, _, _, -, asks, -⟩
  rw [ended program member] at asks
  cases asks

/-- After the hour's proposal the task is armed again. -/
theorem proposing_rearms : ∃ row, (oneFiring proposing).2.shared.tasks.find 1 = some row ∧
    row.nextRunAt ≠ none := by
  have follows : Follows (scheduler.Guarded fun config label =>
      keepsArmed config.shared label.2 = true) (Activity.config midnights [.tickLoop 1] onePaced)
      (oneFiring proposing).1 (oneFiring proposing).2 :=
    scheduler.guarded_execute (Shared.answers_answer proposing) [0, 0, 0, 0, 1, 1, 1, 1, 1, 1, 1] _
      (by decide)
  have found : (oneFiring proposing).2.shared.tasks.find 1 = some { pacedTask with
      nextRunAt := some 3600000001, lastRunAt := some 1, lastStatus := some "completed" } := rfl
  have ended : ∀ program ∈ (oneFiring proposing).2.threads, program = .pure () := by
    rw [show (oneFiring proposing).2.threads = [.pure (), .pure ()] from rfl]
    simp
  exact ⟨_, found, armed_at_rest midnights [.tickLoop 1] onePaced_armed follows 1
    (not_inFlight_of_pure ended) found rfl rfl⟩

/-- **A transient failure strands a self-paced task**: the failure is below the cap, so the task
stays enabled and unpaused, and nothing arms it again. -/
theorem blip_strands : ¬ ∀ (cron : CronLibrary) (activities : List Activity) (shared : Shared)
    (log : List (Nat × SchedulerEvent)) (last : Config schedulerPorts AppError Unit Shared),
    (∀ id, shared.isStranded id = false) →
    Follows scheduler.Step (Activity.config cron activities shared) log last →
    ∀ id, (∀ program ∈ last.threads, ¬ InFlight id program) →
    ∀ row, last.shared.tasks.find id = some row → row.enabled = true → row.pausedReason = none →
    row.nextRunAt ≠ none := by
  intro claimed
  have follows := scheduler.follows_execute (Shared.answers_answer blipping)
    [0, 0, 0, 0, 1, 1, 1, 1, 1, 1, 1] (Activity.config midnights [.tickLoop 1] onePaced)
  have ended : ∀ program ∈ (oneFiring blipping).2.threads, program = .pure () := by
    rw [show (oneFiring blipping).2.threads = [.pure (), .pure ()] from rfl]
    simp
  exact claimed midnights [.tickLoop 1] onePaced _ _ onePaced_armed follows 1
    (not_inFlight_of_pure ended) { pacedTask with
      nextRunAt := none, lastRunAt := some 1, lastStatus := some "failed", consecutiveFailures :=
        1 }
    rfl rfl rfl rfl

end Ziee.Scheduler
