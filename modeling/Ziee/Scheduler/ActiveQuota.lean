/-
**The quota of active tasks.**

A request counts the user's active tasks in one statement and inserts or enables a task in another.
Requests that count before any of them has written are all admitted.

* `quota_holds` — in every interleaving of this kind the active tasks never exceed the cap, and a
  refused request would have exceeded it.
* `both_admitted` — two requests count before either inserts: the cap is exceeded.
-/

import Ziee.Scheduler.ValidRows

namespace Ziee.Scheduler

open PortProgram Threads Ziee.Providers Ziee.Agent

/-- A request of the user adds an active task. -/
def raisesQuota (userId : Uuid) : SchedulerEvent → Bool
  | ⟨.insert user _ _, .ok _⟩ => user = userId
  | ⟨.update user _ upd _, .ok (some _)⟩ => user = userId && upd.enabled = some true
  | _ => false

def countsUser (userId : Uuid) : SchedulerEvent → Bool
  | ⟨.countActiveForUser user, .ok _⟩ => user = userId
  | _ => false

def enablesRow (id : Uuid) : SchedulerEvent → Bool
  | ⟨.insert _ _ _, .ok row⟩ => row.id = id
  | ⟨.update _ task upd _, .ok (some _)⟩ => task = id && upd.enabled = some true
  | _ => false

/-- The statement disables the row it writes. -/
def Write.disables : Write → Bool
  | .markFired _ nextRunAt _ pausedReason => pausedReason.isSome || nextRunAt.isNone
  | .armSelfPaced _ outcome _ _ => outcome = .disable
  | .recordOutcome _ _ _ pauseReason => pauseReason.isSome
  | _ => false

def disablesRow (id : Uuid) : SchedulerEvent → Bool
  | ⟨.execute write, .ok _⟩ => write.target = id && write.disables
  | ⟨.update _ task upd _, .ok (some _)⟩ => task = id && upd.enabled = some false
  | _ => false

def readIds (log : List (Nat × SchedulerEvent)) : List Uuid :=
  log.filterMap fun label => match label.2 with
    | ⟨.getForUser _ id, _⟩ => some id
    | _ => none

/-- **No request races another one of the user**: none adds an active task between another's count
and write, and none enables or disables a row between another's read of it and count or write. -/
def raceFree (userId : Uuid) (log : List (Nat × SchedulerEvent)) : Bool :=
  undisturbed (countsUser userId) (raisesQuota userId) (raisesQuota userId) log &&
  (readIds log).all fun id =>
    undisturbed (readsRow id) (enablesRow id) (disablesRow id) log &&
    undisturbed (readsRow id) (countsUser userId) (enablesRow id) log

/-! ### What a step makes of the count -/

section Steps

variable {shared shared' : Shared} {event : SchedulerEvent} {userId id : Uuid}

variable {row : ScheduledTask} {before : Option ScheduledTask} {after : List (Nat × SchedulerEvent)}
  {thread : Nat}

theorem Answers.countActive_succ (userId : Uuid) (answers : Answers shared event shared') :
    shared'.tasks.countActive userId ≤ shared.tasks.countActive userId + 1 := by
  cases answers with
  | inserts user req nextRunAt newId createdAt row fresh _ stored =>
    show (shared.tasks.insert row fresh).countActive userId ≤ _
    rw [TaskTable.countActive_insert]
    split <;> omega
  | updates user task upd nextRunAt row row' owned stored =>
    exact TaskTable.countActive_modify_succ (storedUpdate_id upd nextRunAt)
  | deletes user task row owned => exact Nat.le_succ_of_le TaskTable.countActive_erase_le
  | executes write => exact TaskTable.countActive_modify_succ write.update_id
  | runsTarget task trigger result created =>
    cases created with
    | none => exact Nat.le_succ _
    | some conversationId =>
      exact TaskTable.countActive_modify_succ (Write.setBoundConversation task.id _).update_id
  | _ => exact Nat.le_succ _

theorem Shared.countActive_write_le (write : Write) :
    (shared.write write).tasks.countActive userId ≤ shared.tasks.countActive userId := by
  refine TaskTable.countActive_modify_le write.update_id fun row _ _ owner enabled => ?_
  rw [Write.update_userId] at owner
  exact ⟨owner, Write.enabled_of_update enabled⟩

theorem storedUpdate_enabled (upd : UpdateScheduledTask) (nextRunAt : Option (Option Instant))
    (row : ScheduledTask) : (storedUpdate upd nextRunAt row).userId = row.userId ∧
      ((storedUpdate upd nextRunAt row).enabled = true →
        row.enabled = true ∨ upd.enabled = some true) := by
  cases stored : (applyUpdate upd nextRunAt row).stored? with
  | none =>
    rw [storedUpdate, stored, Option.getD_none]
    exact ⟨rfl, Or.inl⟩
  | some row' =>
    rw [storedUpdate_of_stored stored]
    obtain ⟨name, -, -, rfl⟩ := ScheduledTask.stored?_eq_some_iff.mp stored
    refine ⟨rfl, fun enabled => ?_⟩
    replace enabled : upd.enabled.getD row.enabled = true := enabled
    cases change : upd.enabled with
    | none =>
      rw [change] at enabled
      exact Or.inl enabled
    | some value =>
      rw [change] at enabled
      exact Or.inr (congrArg some enabled)

/-- **Only a request of the user that inserts or enables a task adds an active one.** -/
theorem Answers.countActive_le (answers : Answers shared event shared')
    (quiet : raisesQuota userId event = false) :
    shared'.tasks.countActive userId ≤ shared.tasks.countActive userId := by
  cases answers with
  | inserts user req nextRunAt newId createdAt row fresh _ stored =>
    show (shared.tasks.insert row fresh).countActive userId ≤ _
    obtain ⟨name, -, -, rfl⟩ := ScheduledTask.stored?_eq_some_iff.mp stored
    have other : user ≠ userId := by simpa [raisesQuota] using quiet
    rw [TaskTable.countActive_insert, if_neg fun both => other both.1, Nat.add_zero]
  | updates user task upd nextRunAt row row' owned stored =>
    refine TaskTable.countActive_modify_le (storedUpdate_id upd nextRunAt)
      fun found member here owner enabled => ?_
    obtain ⟨same, either⟩ := storedUpdate_enabled upd nextRunAt found
    rw [same] at owner
    refine ⟨owner, (either enabled).resolve_right fun enables => ?_⟩
    have mine : found = row := by
      have first := (owned_eq_some_iff.mp owned).1
      rw [← here, TaskTable.find_of_mem member] at first
      exact Option.some.inj first
    have user' : user = userId := by
      rw [← (owned_eq_some_iff.mp owned).2, ← mine, owner]
    simp [raisesQuota, user', enables] at quiet
  | deletes user task row owned => exact TaskTable.countActive_erase_le
  | executes write => exact Shared.countActive_write_le write
  | runsTarget task trigger result created =>
    cases created with
    | none => exact Nat.le_refl _
    | some conversationId => exact Shared.countActive_write_le _
  | _ => exact Nat.le_refl _

theorem Answers.countActive_of_enabled {upd : UpdateScheduledTask}
    {nextRunAt : Option (Option Instant)} {answer : Except AppError (Option ScheduledTask)}
    (answers : Answers shared ⟨.update userId id upd nextRunAt, answer⟩ shared')
    (enabled : ∀ row, shared.tasks.find id = some row → row.enabled = true) (user : Uuid) :
    shared'.tasks.countActive user ≤ shared.tasks.countActive user := by
  cases answers with
  | updates _ _ _ _ row row' owned stored =>
    refine TaskTable.countActive_modify_le (storedUpdate_id upd nextRunAt)
      fun found member here owner _ => ?_
    rw [(storedUpdate_enabled upd nextRunAt found).1] at owner
    exact ⟨owner, enabled found (here ▸ TaskTable.find_of_mem member)⟩
  | _ => exact Nat.le_refl _

theorem Write.enabled_kept {write : Write} (keeps : write.disables = false)
    (enabled : row.enabled = true) : (write.update row).enabled = true := by
  cases write with
  | markFired _ nextRunAt _ pausedReason =>
    simp only [Write.disables, Bool.or_eq_false_iff] at keeps
    simp [Write.update, keeps.1, keeps.2, enabled]
  | armSelfPaced _ outcome _ _ =>
    cases outcome with
    | fire instant => exact enabled
    | disable => simp [Write.disables] at keeps
  | recordOutcome _ _ _ pauseReason =>
    simp only [Write.disables] at keeps
    simp [Write.update, keeps, enabled]
  | disarmSelfPaced | setBoundConversation => exact enabled

theorem RowStep.enabled_kept
    (step : RowStep id event before (some row)) (quiet : disablesRow id event = false)
    (enabled : ∀ old, before = some old → old.enabled = true) : row.enabled = true := by
  generalize after : some row = last at step
  cases step with
  | same leaves => exact enabled row after.symm
  | write target =>
    obtain ⟨old, rfl, rfl⟩ := Option.map_eq_some_iff.mp after.symm
    refine Write.enabled_kept ?_ (enabled old rfl)
    simpa [disablesRow, target] using quiet
  | binds conversationId owner =>
    obtain ⟨old, rfl, rfl⟩ := Option.map_eq_some_iff.mp after.symm
    exact enabled old rfl
  | @updates userId upd nextRunAt old _ owner stored =>
    cases after
    obtain ⟨name, -, -, rfl⟩ := ScheduledTask.stored?_eq_some_iff.mp stored
    show upd.enabled.getD old.enabled = true
    cases change : upd.enabled with
    | none => exact enabled old rfl
    | some value =>
      cases value with
      | true => rfl
      | false => simp [disablesRow, change] at quiet
  | inserts stored =>
    cases after
    obtain ⟨name, -, -, rfl⟩ := ScheduledTask.stored?_eq_some_iff.mp stored
    rfl
  | deletes owner => cases after

theorem RowStep.disabled_kept
    (step : RowStep id event before (some row)) (quiet : enablesRow id event = false)
    (disabled : ∀ old, before = some old → old.enabled = false) : row.enabled = false := by
  generalize after : some row = last at step
  cases step with
  | same leaves => exact disabled row after.symm
  | write target =>
    obtain ⟨old, rfl, rfl⟩ := Option.map_eq_some_iff.mp after.symm
    refine Bool.eq_false_iff.mpr fun enabled => ?_
    have before := Write.enabled_of_update enabled
    rw [disabled old rfl] at before
    cases before
  | binds conversationId owner =>
    obtain ⟨old, rfl, rfl⟩ := Option.map_eq_some_iff.mp after.symm
    exact disabled old rfl
  | @updates userId upd nextRunAt old _ owner stored =>
    cases after
    obtain ⟨name, -, -, rfl⟩ := ScheduledTask.stored?_eq_some_iff.mp stored
    show upd.enabled.getD old.enabled = false
    cases change : upd.enabled with
    | none => exact disabled old rfl
    | some value =>
      cases value with
      | true => simp [enablesRow, change] at quiet
      | false => rfl
  | inserts stored =>
    cases after
    obtain ⟨name, -, -, rfl⟩ := ScheduledTask.stored?_eq_some_iff.mp stored
    simp [enablesRow, insertedRow] at quiet
  | deletes owner => cases after

end Steps

/-! ### Stretches without a race -/

section Stretches

variable {config last : Config schedulerPorts AppError Unit Shared}
  {log : List (Nat × SchedulerEvent)} {userId : Uuid}

theorem countActive_stretch (follows : Follows scheduler.Step config log last)
    (quiet : ∀ label ∈ log, raisesQuota userId label.2 = false) :
    last.shared.tasks.countActive userId ≤ config.shared.tasks.countActive userId := by
  refine preserves_split follows (fun _ config' => config'.shared.tasks.countActive userId ≤
    config.shared.tasks.countActive userId) ?_ (Nat.le_refl _)
  rintro before label after state state' rfl - fewer step
  have silent : raisesQuota userId label.2 = false := quiet label (by simp)
  cases step with
  | act _ answers => exact Nat.le_trans (Answers.countActive_le answers silent) fewer

theorem Answers.count_ok {shared shared' : Shared} {active : Nat}
    (answers : Answers shared ⟨.countActiveForUser userId, (.ok active : Except AppError Nat)⟩
      shared') : active = shared.tasks.countActive userId ∧ shared' = shared := by
  cases answers with
  | counts => exact ⟨rfl, rfl⟩
  | fails _ _ error failed => cases failed
  | outside _ _ outside => cases outside

/-- **A request that counted before it adds a task finds fewer active ones than the cap.** -/
theorem counted_room {start : Config schedulerPorts AppError Unit Shared}
    {before : List (Nat × SchedulerEvent)} {event : SchedulerEvent} {past : List SchedulerEvent}
    (calm : undisturbed (countsUser userId) (raisesQuota userId) (raisesQuota userId)
      (before ++ (thread, event) :: after) = true) (raise : raisesQuota userId event = true)
    (follows : Follows scheduler.Step start before last)
    (knows : Knows scheduler before thread past) (counted : Counted past userId) :
    (last.shared.tasks.countActive userId : Int) < start.shared.settings.maxActiveTasksPerUser := by
  obtain ⟨settings, active, read, count, room⟩ := counted
  rw [settings_read follows (knows.own_mem read rfl)] at room
  obtain ⟨first, middle, middle', between, rfl, -, answers, tail⟩ :=
    answered_at follows (knows.own_mem count rfl)
  obtain ⟨rfl, same⟩ := answers.count_ok
  have counts : countsUser userId (⟨.countActiveForUser userId,
      (.ok (middle.shared.tasks.countActive userId) : Except AppError Nat)⟩ : SchedulerEvent) =
      true := by simp [countsUser]
  have fewer := countActive_stretch tail (undisturbed_between calm rfl counts raise)
  rw [same] at fewer
  omega

theorem mem_readIds {found : Except AppError (Option ScheduledTask)} {id : Uuid}
    (read : (thread, ⟨.getForUser userId id, found⟩) ∈ log) : id ∈ readIds log :=
  List.mem_filterMap.mpr ⟨_, read, rfl⟩

end Stretches

/-! ### Every interleaving -/

theorem raise_cases {cron : CronLibrary} {activities : List Activity} {shared : Shared}
    {before : List (Nat × SchedulerEvent)} {event : SchedulerEvent}
    {state last : Config schedulerPorts AppError Unit Shared} {userId : Uuid}
    (calm : raceFree userId (before ++ (thread, event) :: after) = true)
    (follows : Follows scheduler.Step (Activity.config cron activities shared)
      (before ++ (thread, event) :: after) last)
    (head : Follows scheduler.Step (Activity.config cron activities shared) before state)
    (raise : raisesQuota userId event = true) :
    state.shared.tasks.countActive userId < shared.settings.maxActiveTasksPerUser ∨
    ∃ id upd nextRunAt answer, event = ⟨.update userId id upd nextRunAt, answer⟩ ∧
      ∀ row, state.shared.tasks.find id = some row → row.enabled = true := by
  obtain ⟨racing, rows⟩ := (Bool.and_eq_true _ _).mp calm
  obtain ⟨past, knows, rule⟩ := committed follows
  obtain ⟨query, answer⟩ := event
  cases query with
  | insert user req nextRunAt =>
    cases answer with
    | error error => cases raise
    | ok row =>
      obtain rfl : user = userId := of_decide_eq_true raise
      exact Or.inl (counted_room racing raise head knows rule.quota)
  | update user id upd nextRunAt =>
    cases answer with
    | error error => cases raise
    | ok found =>
      cases found with
      | none => cases raise
      | some row =>
        obtain ⟨owner, enables⟩ := (Bool.and_eq_true _ _).mp raise
        obtain rfl : user = userId := of_decide_eq_true owner
        obtain ⟨existing, updates⟩ := rule
        by_cases enabled : existing.enabled = true
        · have read := knows.own_mem updates.read rfl
          have still := (Bool.and_eq_true _ _).mp (List.all_eq_true.mp rows id
            (mem_readIds (List.mem_append_left _ read)))
          have enabling : enablesRow id (⟨.update user id upd nextRunAt, (.ok (some row) :
              Except AppError (Option ScheduledTask))⟩ : SchedulerEvent) = true := by
            simpa [enablesRow] using enables
          exact Or.inr ⟨id, upd, nextRunAt, _, rfl, read_then (fun row => row.enabled = true)
            (fun step quiet held => step.enabled_kept quiet held) still.1 enabling head read
              enabled⟩
        · have counted := updates.quota (of_decide_eq_true enables) (eq_false_of_ne_true enabled)
          exact Or.inl (counted_room racing raise head knows counted)
  | _ => cases raise

/-- **Refusals for the quota are right.** A request that failed for it right after its count found
as many active tasks as the cap, and its own row, if it has one, not among them: admitting it would
have exceeded the cap. -/
def RefusesAtCap (start last : Config schedulerPorts AppError Unit Shared) (userId : Uuid)
    (log : List (Nat × SchedulerEvent)) : Prop :=
  ∀ (thread : Nat) (error : AppError) (active : Nat) (before after : List (Nat × SchedulerEvent)),
    log = before ++ (thread, ⟨.countActiveForUser userId, (.ok active :
      Except AppError Nat)⟩) :: after → own thread after = [] →
    last.threads[thread]? = some (.fail error) → error.errorCode = "SCHEDULER_TASK_QUOTA" →
    ∃ middle, Follows scheduler.Step start before middle ∧
      start.shared.settings.maxActiveTasksPerUser <
        (middle.shared.tasks.countActive userId : Int) + 1 ∧
      ∀ id existing row, (thread, ⟨.getForUser userId id, (.ok (some existing) :
        Except AppError (Option ScheduledTask))⟩) ∈ before →
        middle.shared.tasks.find id = some row → row.enabled = false

/-- **The quota holds.** In every interleaving in which no request of the user races another one,
the user's active tasks never exceed the cap, and a request is refused for the quota only when
admitting it would exceed the cap. -/
theorem quota_holds (cron : CronLibrary) (activities : List Activity) {shared : Shared}
    {log : List (Nat × SchedulerEvent)} {last : Config schedulerPorts AppError Unit Shared}
    (userId : Uuid)
    (start : shared.tasks.countActive userId ≤ shared.settings.maxActiveTasksPerUser)
    (calm : raceFree userId log = true)
    (follows : Follows scheduler.Step (Activity.config cron activities shared) log last) :
    last.shared.tasks.countActive userId ≤ shared.settings.maxActiveTasksPerUser ∧
    RefusesAtCap (Activity.config cron activities shared) last userId log := by
  refine ⟨?_, ?_⟩
  · refine preserves_split follows (fun _ config => (config.shared.tasks.countActive userId : Int) ≤
      shared.settings.maxActiveTasksPerUser) ?_ start
    rintro before ⟨thread, event⟩ after state state' rfl head within step
    by_cases raise : raisesQuota userId event = true
    · rcases raise_cases calm follows head raise with room
        | ⟨id, upd, nextRunAt, answer, rfl, enabled⟩
      · cases step with
        | act _ answers =>
          have grows := Answers.countActive_succ userId answers
          dsimp only at room ⊢
          omega
      · cases step with
        | act _ answers =>
          have fewer := Answers.countActive_of_enabled answers enabled userId
          dsimp only at within ⊢
          omega
    · cases step with
      | act _ answers =>
        have fewer := Answers.countActive_le answers (eq_false_of_ne_true raise)
        dsimp only at within ⊢
        omega
  · rintro thread error active before after rfl silent failed code
    obtain ⟨past, ⟨birth, born, rfl⟩, refused⟩ := refused cron follows failed
    rw [own_append, own_cons_self, silent, ← List.append_assoc] at refused
    obtain ⟨⟨settings, read, full, -⟩, disabled⟩ := refused.quota code _ userId active rfl
    have mine : ∀ {event : SchedulerEvent}, event ∈ birth ++ own thread before →
        scheduler.forks event = [] → (thread, event) ∈ before := fun member starts =>
      own_of_mem (fun event member => (born event member).1) member starts
    obtain ⟨middle, head, tail⟩ := Follows.append_iff.mp follows
    cases tail with
    | cons step _ =>
      cases step with
      | act _ answers =>
        obtain ⟨rfl, same⟩ := Answers.count_ok answers
        rw [settings_read head (mine read rfl)] at full
        refine ⟨_, head, Int.lt_add_one_of_le full, fun id existing row member found => ?_⟩
        have unread := disabled id existing (List.mem_append_right _ (mem_own.mpr member))
        have still := (Bool.and_eq_true _ _).mp
          (List.all_eq_true.mp ((Bool.and_eq_true _ _).mp calm).2 id
          (mem_readIds (List.mem_append_left _ member)))
        exact read_then (fun row => row.enabled = false) (fun step quiet held =>
          step.disabled_kept quiet held) still.2 (by simp [countsUser]) head member unread row found

/-! ### Two requests at once -/

def oneAllowed : Shared :=
  { noTasks with settings := { defaultSettings with maxActiveTasksPerUser := 1 } }

/-- Every insert gets an id of its own. -/
def numbering : Outside := { proposing with newId := fun count => BitVec.ofNat 128 (9 + count) }

/-- Two requests create a task each, with their statements in this order. -/
def creating (schedule : List Nat) : List (Nat × SchedulerEvent) ×
    Config schedulerPorts AppError Unit Shared :=
  scheduler.execute (Shared.answer numbering)
    (Activity.config midnights [.create 7 digestBody, .create 7 digestBody] oneAllowed) schedule

theorem second_refused :
    ((creating [0, 0, 0, 0, 0, 0, 1, 1, 1, 1]).2.shared.tasks.countActive 7 : Int) ≤ 1 ∧
    ∃ middle : Config schedulerPorts AppError Unit Shared,
      (1 : Int) < (middle.shared.tasks.countActive 7 : Int) + 1 := by
  have follows := scheduler.follows_execute (Shared.answers_answer numbering)
    [0, 0, 0, 0, 0, 0, 1, 1, 1, 1]
    (Activity.config midnights [.create 7 digestBody, .create 7 digestBody] oneAllowed)
  obtain ⟨within, refusals⟩ := quota_holds midnights _ 7 (by decide) (by decide) follows
  obtain ⟨middle, -, full, -⟩ := refusals 1 (quotaError 1) 1
    ((creating [0, 0, 0, 0, 0, 0, 1, 1, 1, 1]).1.take 9) [] rfl rfl rfl rfl
  exact ⟨within, middle, full⟩

/-- **Both are admitted** when both count before either inserts. -/
theorem both_admitted : ¬ ∀ (cron : CronLibrary) (activities : List Activity) (shared : Shared)
    (log : List (Nat × SchedulerEvent)) (last : Config schedulerPorts AppError Unit Shared)
    (userId : Uuid), shared.tasks.countActive userId ≤ shared.settings.maxActiveTasksPerUser →
    Follows scheduler.Step (Activity.config cron activities shared) log last →
    last.shared.tasks.countActive userId ≤ shared.settings.maxActiveTasksPerUser ∧
    RefusesAtCap (Activity.config cron activities shared) last userId log := by
  intro claimed
  have follows := scheduler.follows_execute (Shared.answers_answer numbering)
    [0, 0, 0, 0, 1, 1, 1, 1, 0, 0, 1, 1]
    (Activity.config midnights [.create 7 digestBody, .create 7 digestBody] oneAllowed)
  have within := (claimed midnights _ oneAllowed _ _ 7 (by decide) follows).1
  have two : (creating [0, 0, 0, 0, 1, 1, 1, 1, 0, 0, 1, 1]).2.shared.tasks.countActive 7 = 2 := by
    decide
  rw [show (scheduler.execute _ _ _).2.shared.tasks.countActive 7 = 2 from two] at within
  exact absurd within (by decide)

end Ziee.Scheduler
