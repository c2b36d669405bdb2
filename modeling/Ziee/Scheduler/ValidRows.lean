/-
**Updates and what creation validated.**

`create_task` checks the fields of a row together; `update_task` re-checks the references and the
schedule, and writes whatever else the request has.

* `UpdateScheduledTask.keepsChecks` — the updates that break none of it.
* `updates_keep_valid` — in every interleaving whose updates are of this kind and do not overlap,
  the row stays valid, and a refused request wrote nothing.
-/

import Ziee.Scheduler.Requests
import Ziee.Scheduler.RowSteps
import Ziee.Scheduler.ArmedTasks
import Mathlib.Data.List.TakeWhile

namespace Ziee.Scheduler

open PortProgram Threads Ziee.Providers Ziee.Agent

variable {event : SchedulerEvent} {settings : SchedulerAdminSettings} {past : List SchedulerEvent}
  {userId : Uuid}

/-- **What `create_task` enforces of a row.** The schedule was accepted at an instant between the
two, for the kind and the time zone the row has. -/
structure ScheduledTask.Valid (cron : CronLibrary) (minIntervalSeconds : Int)
    (since until' : Instant) (row : ScheduledTask) : Prop where
  name : nameOk row.name = true
  prompt : row.targetKind = "prompt" → promptOk row.prompt = true
  condition : row.completionCondition ≠ none →
    row.targetKind = "prompt" ∧ parseKind row.scheduleKind = .ok .selfPaced
  schedule : ∃ kind instant, parseKind row.scheduleKind = .ok kind ∧ since ≤ instant ∧
    instant ≤ until' ∧ validateSchedule cron kind row.runAt row.cronExpr row.timezone
      minIntervalSeconds instant = .ok ()

/-- **The update breaks none of it**: the name and the prompt pass the checks of `create_task`, a
task with a completion condition stays self-paced, and `run_at` fits the column. -/
def UpdateScheduledTask.keepsChecks (upd : UpdateScheduledTask) (row : ScheduledTask) : Bool :=
  upd.name.all nameOk &&
  (row.targetKind ≠ "prompt" || upd.prompt.all fun prompt => promptOk (some prompt)) &&
  (row.completionCondition.isNone || upd.scheduleKind.all (· = "self_paced")) &&
  upd.runAt.all fun runAt => decide (Instant.Representable runAt)

/-- What is asked of the statements that write the row with this id: an inserted `run_at` fits the
column, and an update breaks nothing of the row it finds. -/
def keepsValid (id : Uuid) (shared : Shared) : SchedulerEvent → Bool
  | ⟨.insert _ req _, .ok row⟩ =>
    row.id ≠ id || req.runAt.all fun runAt => decide (Instant.Representable runAt)
  | ⟨.update _ task upd _, .ok (some _)⟩ =>
    task ≠ id || (shared.tasks.find id).all upd.keepsChecks
  | _ => true

def commitsRow (id : Uuid) : SchedulerEvent → Bool
  | ⟨.insert _ _ _, .ok row⟩ => row.id = id
  | ⟨.update _ task _ _, .ok (some _)⟩ => task = id
  | _ => false

/-! ### Names -/

section Names

theorem trim_append_blank {text blanks : List Char} (blank : blanks.all isWhitespace = true) :
    trim (text ++ blanks) = trim text := by
  have gone : ∀ rest, (blanks.reverse ++ rest).dropWhile isWhitespace =
    rest.dropWhile isWhitespace := by
    intro rest
    rw [List.dropWhile_append, if_pos]
    rw [List.isEmpty_iff, List.dropWhile_eq_nil_iff]
    exact fun char member => List.all_eq_true.mp blank char (List.mem_reverse.mp member)
  unfold trim trimStart
  rw [List.dropWhile_append]
  split
  · rename_i empty
    rw [List.isEmpty_iff] at empty
    have nothing : blanks.dropWhile isWhitespace = [] :=
      List.dropWhile_eq_nil_iff.mpr (List.all_eq_true.mp blank)
    rw [empty, nothing]
  · rw [List.reverse_append, gone]

theorem nameOk_of_varchar {name kept : String} (stored : varchar maxNameLen name = some kept)
    (ok : nameOk name = true) : nameOk kept = true := by
  unfold varchar at stored
  split at stored
  · cases stored
    exact ok
  · split at stored
    · rename_i blanks
      cases stored
      have white : (name.toList.drop maxNameLen).all isWhitespace = true := by
        refine List.all_eq_true.mpr fun char member => ?_
        have space : char = ' ' := by simpa using List.all_eq_true.mp blanks char member
        subst space
        rfl
      have same : trim (name.toList.take maxNameLen) = trim name.toList := by
        rw [← trim_append_blank white, List.take_append_drop]
      unfold nameOk at ok ⊢
      rw [String.toList_ofList, same]
      exact ok
    · cases stored

end Names

/-! ### The fields the checks are about -/

/-- The columns that `ScheduledTask.Valid` reads. -/
def ScheduledTask.fields (row : ScheduledTask) : String × String × Option String × Option String ×
    String × Option Instant × Option String × String :=
  (row.name, row.targetKind, row.prompt, row.completionCondition, row.scheduleKind, row.runAt,
    row.cronExpr, row.timezone)

@[simp] theorem Write.update_fields (write : Write) (row : ScheduledTask) :
    (write.update row).fields = row.fields := by
  cases write with
  | armSelfPaced _ outcome _ _ => cases outcome <;> rfl
  | _ => rfl

section Rows

variable {cron : CronLibrary} {minIntervalSeconds : Int} {since until' later : Instant}
  {row row' : ScheduledTask} {id : Uuid}

theorem ScheduledTask.Valid.of_fields (same : row'.fields = row.fields)
    (valid : row.Valid cron minIntervalSeconds since until') (late : until' ≤ later) :
    row'.Valid cron minIntervalSeconds since later := by
  simp only [ScheduledTask.fields, Prod.mk.injEq] at same
  obtain ⟨name, target, prompt, condition, kind, runAt, cronExpr, timezone⟩ := same
  obtain ⟨nameHolds, promptHolds, conditionHolds, scheduleHolds⟩ := valid
  refine ⟨by rwa [name], by rwa [target, prompt], by rwa [target, condition, kind], ?_⟩
  obtain ⟨kindOf, instant, parsed, after, before, accepted⟩ := scheduleHolds
  rw [kind, runAt, cronExpr, timezone]
  exact ⟨kindOf, instant, parsed, after, Int.le_trans before late, accepted⟩

theorem RowStep.fields {before : Option ScheduledTask}
    (step : RowStep id event before (some row')) (quiet : commitsRow id event = false) :
    ∃ row, before = some row ∧ row'.fields = row.fields := by
  generalize after : some row' = last at step
  cases step with
  | same leaves => exact ⟨row', after.symm, rfl⟩
  | write target =>
    obtain ⟨row, rfl, rfl⟩ := Option.map_eq_some_iff.mp after.symm
    exact ⟨row, rfl, Write.update_fields _ _⟩
  | binds conversationId owner =>
    obtain ⟨row, rfl, rfl⟩ := Option.map_eq_some_iff.mp after.symm
    exact ⟨row, rfl, rfl⟩
  | updates owner stored => simp [commitsRow] at quiet
  | inserts stored =>
    obtain ⟨name, -, -, rfl⟩ := ScheduledTask.stored?_eq_some_iff.mp stored
    simp [commitsRow, insertedRow] at quiet
  | deletes owner => cases after

theorem scheduleNext_valid {kind : ScheduleKind}
    {runAt : Option Instant} {cronExpr : Option String} {timezone : String} {now : Instant}
    {next : Option Instant}
    (accepted : scheduleNext cron settings kind runAt cronExpr timezone now = .ok next) :
    validateSchedule cron kind runAt cronExpr timezone settings.minIntervalSeconds now = .ok
      () := by
  unfold scheduleNext at accepted
  cases valid : validateSchedule cron kind runAt cronExpr timezone settings.minIntervalSeconds
    now with
  | error error =>
    rw [valid] at accepted
    cases accepted
  | ok _ => rfl

theorem map_toOffset {runAt : Option Instant}
    (fits : (runAt.all fun runAt => decide (Instant.Representable runAt)) = true) :
    runAt.map toOffset = runAt := by
  cases runAt with
  | none => rfl
  | some instant =>
    rw [Option.map_some, toOffset_of_representable (by simpa using fits)]

theorem validateTarget_prompt {body : CreateScheduledTask} (target : validateTarget body = .ok ())
    (prompt : body.targetKind = "prompt") : promptOk body.prompt = true := by
  unfold validateTarget at target
  rw [if_neg (by rw [prompt]; decide), if_pos prompt] at target
  split at target
  · assumption
  · cases target

/-- **An inserted row is valid**, if its `run_at` fits the column. -/
theorem valid_of_creates {req : CreateScheduledTask}
    {nextRunAt : Option Instant} {createdAt : Instant}
    (creates : Creates cron past userId req nextRunAt)
    (fits : (req.runAt.all fun runAt => decide (Instant.Representable runAt)) = true)
    (read : ∀ other, ⟨.settings, (.ok other : Except AppError SchedulerAdminSettings)⟩ ∈ past →
      other = settings)
    (clock : ∀ instant, ⟨.now, instant⟩ ∈ past → since ≤ instant ∧ instant ≤ until')
    (stored : (insertedRow id userId req nextRunAt createdAt).stored? = some row) :
    row.Valid cron settings.minIntervalSeconds since until' := by
  obtain ⟨name, kept, -, rfl⟩ := ScheduledTask.stored?_eq_some_iff.mp stored
  obtain ⟨kind, admin, now, parsed, readThem, showed, accepted⟩ := creates.schedule
  refine ⟨nameOk_of_varchar kept creates.name, validateTarget_prompt creates.target, ?_, ?_⟩
  · intro present
    obtain ⟨condition, some⟩ := Option.ne_none_iff_exists'.mp present
    exact (creates.condition condition some).2.2
  · obtain ⟨early, late⟩ := clock now showed
    refine ⟨kind, now, parsed, early, late, ?_⟩
    show validateSchedule cron kind (req.runAt.map toOffset) req.cronExpr req.timezone _ now = .ok
      ()
    rw [map_toOffset fits, ← read admin readThem]
    exact scheduleNext_valid accepted

/-- **An update that keeps the checks leaves a valid row valid**, when the row it read has the
fields of the row it finds. -/
theorem valid_of_updates {upd : UpdateScheduledTask}
    {nextRunAt : Option (Option Instant)} {existing : ScheduledTask}
    (updates : Updates cron past userId id upd nextRunAt existing)
    (keeps : upd.keepsChecks row = true) (same : row.fields = existing.fields)
    (read : ∀ other, ⟨.settings, (.ok other : Except AppError SchedulerAdminSettings)⟩ ∈ past →
      other = settings)
    (clock : ∀ instant, ⟨.now, instant⟩ ∈ past → since ≤ instant ∧ instant ≤ until')
    (stored : (applyUpdate upd nextRunAt row).stored? = some row')
    (valid : row.Valid cron settings.minIntervalSeconds since until') :
    row'.Valid cron settings.minIntervalSeconds since until' := by
  obtain ⟨name, kept, -, rfl⟩ := ScheduledTask.stored?_eq_some_iff.mp stored
  simp only [UpdateScheduledTask.keepsChecks, Bool.and_eq_true, Bool.or_eq_true,
    decide_eq_true_eq] at keeps
  obtain ⟨⟨⟨nameKeeps, promptKeeps⟩, conditionKeeps⟩, fits⟩ := keeps
  refine ⟨nameOk_of_varchar kept ?_, fun prompt => ?_, fun present => ?_, ?_⟩
  · show nameOk (upd.name.getD row.name) = true
    cases changes : upd.name with
    | none => exact valid.name
    | some name =>
      rw [changes] at nameKeeps
      exact nameKeeps
  · show promptOk (upd.prompt.or row.prompt) = true
    cases changes : upd.prompt with
    | none => exact valid.prompt prompt
    | some text =>
      rw [changes] at promptKeeps
      exact promptKeeps.resolve_left fun other => other prompt
  · obtain ⟨prompt, paced⟩ := valid.condition present
    refine ⟨prompt, ?_⟩
    show parseKind (upd.scheduleKind.getD row.scheduleKind) = _
    cases changes : upd.scheduleKind with
    | none => exact paced
    | some kind =>
      rw [changes] at conditionKeeps
      have self : kind = "self_paced" := by
        refine of_decide_eq_true (conditionKeeps.resolve_left fun absent => present ?_)
        exact Option.isNone_iff_eq_none.mp absent
      subst self
      rfl
  · show ∃ kind instant, parseKind (upd.scheduleKind.getD row.scheduleKind) = .ok kind ∧ _ ∧ _ ∧
      validateSchedule cron kind ((upd.runAt.map toOffset).or row.runAt)
        (upd.cronExpr.or row.cronExpr) (upd.timezone.getD row.timezone) _ instant = .ok ()
    rw [map_toOffset fits]
    rcases updates.schedule with ⟨untouched, -⟩ | ⟨next, -, kind, admin, now, parsed, readThem,
      showed, accepted⟩
    · simp only [UpdateScheduledTask.touchesSchedule, Bool.or_eq_false_iff,
        Option.isSome_eq_false_iff, Option.isNone_iff_eq_none] at untouched
      obtain ⟨⟨⟨⟨kind, runAt⟩, cronExpr⟩, timezone⟩, -⟩ := untouched
      rw [kind, runAt, cronExpr, timezone]
      exact valid.schedule
    · simp only [ScheduledTask.fields, Prod.mk.injEq] at same
      obtain ⟨-, -, -, -, sameKind, sameRunAt, sameCron, sameZone⟩ := same
      obtain ⟨early, late⟩ := clock now showed
      rw [sameKind, sameRunAt, sameCron, sameZone]
      refine ⟨kind, now, parsed, early, late, ?_⟩
      rw [← read admin readThem]
      exact scheduleNext_valid accepted

end Rows

/-! ### Every interleaving -/

section Interleavings

variable {cron : CronLibrary} {id : Uuid} {config last : Config schedulerPorts AppError Unit Shared}
  {log : List (Nat × SchedulerEvent)}

theorem read_fields {before after : List (Nat × SchedulerEvent)} {thread : Nat}
    {existing : ScheduledTask} (calm : undisturbed (readsRow id) (commitsRow id) (commitsRow id)
      (before ++ (thread, event) :: after) = true) (commit : commitsRow id event = true)
    (follows : Follows scheduler.Step config before last)
    (read : (thread, ⟨.getForUser userId id, (.ok (some existing) :
      Except AppError (Option ScheduledTask))⟩) ∈ before) (row : ScheduledTask)
    (found : last.shared.tasks.find id = some row) : row.fields = existing.fields := by
  refine read_then (fun row => row.fields = existing.fields) ?_ calm commit follows read rfl row
    found
  intro event first row step quiet held
  obtain ⟨old, before, fields⟩ := step.fields quiet
  exact fields.trans (held old before)

theorem not_leaves_of_commitsRow (commit : commitsRow id event = true) : ¬ Leaves id event := by
  unfold commitsRow at commit
  split at commit
  · exact fun leaves => leaves (of_decide_eq_true commit)
  · exact fun leaves => leaves (of_decide_eq_true commit)
  · cases commit

theorem valid_of_commit {shared : Shared} {row : ScheduledTask} {since until' later : Instant}
    (step : RowStep id event (shared.tasks.find id) (some row))
    (commit : commitsRow id event = true)
    (rule : RequestRule cron past event) (permitted : keepsValid id shared event = true)
    (read : ∀ other, ⟨.settings, (.ok other : Except AppError SchedulerAdminSettings)⟩ ∈ past →
      other = settings)
    (clock : ∀ instant, ⟨.now, instant⟩ ∈ past → since ≤ instant ∧ instant ≤ until')
    (late : until' ≤ later)
    (same : ∀ userId existing row, ⟨.getForUser userId id, (.ok (some existing) :
      Except AppError (Option ScheduledTask))⟩ ∈ past → shared.tasks.find id = some row →
      row.fields = existing.fields)
    (valid : ∀ row, shared.tasks.find id = some row →
      row.Valid cron settings.minIntervalSeconds since until') :
    row.Valid cron settings.minIntervalSeconds since later := by
  generalize after : some row = last at step
  generalize before : shared.tasks.find id = first at step
  cases step with
  | same leaves => exact absurd leaves (not_leaves_of_commitsRow commit)
  | write | binds => cases commit
  | @updates userId upd nextRunAt found _ owner stored =>
    cases after
    obtain ⟨existing, updates⟩ := rule
    have keeps : upd.keepsChecks found = true := by
      simpa [keepsValid, before] using permitted
    refine (valid_of_updates updates keeps (same _ existing _ updates.read before) read clock stored
      (valid _ before)).of_fields rfl late
  | @inserts userId req nextRunAt createdAt _ stored =>
    cases after
    have fits : (req.runAt.all fun runAt => decide (Instant.Representable runAt)) = true := by
      obtain ⟨name, -, -, rfl⟩ := ScheduledTask.stored?_eq_some_iff.mp stored
      simpa [keepsValid, insertedRow] using permitted
    exact (valid_of_creates rule fits read clock stored).of_fields rfl late
  | deletes owner => cases after

/-- **Updates keep what creation validated.** A task created in the run, whose `run_at` fits the
column and whose updates keep the checks and commit on the row they read, is valid for ever, in
every interleaving; and a request that is refused has written nothing. -/
theorem updates_keep_valid (cron : CronLibrary) (activities : List Activity) {shared : Shared}
    {log : List (Nat × SchedulerEvent)} {last : Config schedulerPorts AppError Unit Shared}
    (id : Uuid) (created : shared.tasks.find id = none)
    (calm : undisturbed (readsRow id) (commitsRow id) (commitsRow id) log = true)
    (follows : Follows (scheduler.Guarded fun config label =>
      keepsValid id config.shared label.2 = true)
        (Activity.config cron activities shared) log last) :
    (∀ row, last.shared.tasks.find id = some row → row.Valid cron
      shared.settings.minIntervalSeconds shared.clock last.shared.clock) ∧
    ∀ thread error, last.threads[thread]? = some (.fail error) →
      ∀ event, (thread, event) ∈ log → commits event = false := by
  have steps := follows.mono fun step => step.2
  refine ⟨?_, fun thread error failed event member => ?_⟩
  · refine preserves_split follows (fun _ config => ∀ row, config.shared.tasks.find id = some row →
      row.Valid cron shared.settings.minIntervalSeconds shared.clock config.shared.clock) ?_ ?_
    · rintro before ⟨thread, event⟩ after state state' rfl head valid ⟨permitted, step⟩ row found
      have sofar := head.mono fun step => step.2
      obtain ⟨past, knows, rule⟩ := committed steps
      have read : ∀ other, ⟨.settings, (.ok other : Except AppError SchedulerAdminSettings)⟩ ∈
        past → other = shared.settings := fun other member =>
        settings_read sofar (knows.own_mem member rfl)
      have clock : ∀ instant, ⟨.now, instant⟩ ∈ past →
          shared.clock ≤ instant ∧ instant ≤ state.shared.clock := fun instant member =>
        clock_read sofar (knows.own_mem member rfl)
      cases step with
      | @act _ _ _ _ query _ answer _ answers =>
        have late := Answers.clock_le answers
        have rowStep := Answers.rowStep answers id
        rw [found] at rowStep
        by_cases commit : commitsRow id ⟨query, answer⟩ = true
        · exact valid_of_commit rowStep commit rule permitted read clock late
            (fun userId existing row member =>
              read_fields calm commit sofar (knows.own_mem member rfl) row) valid
        · obtain ⟨row', before', fields⟩ := rowStep.fields (eq_false_of_ne_true commit)
          exact (valid row' before').of_fields fields late
    · intro row found
      rw [show (Activity.config cron activities shared).shared = shared from rfl, created] at found
      cases found
  · obtain ⟨past, ⟨birth, -, rfl⟩, refused⟩ := refused cron steps failed
    exact refused.unwritten event (List.mem_append_right _ (mem_own.mpr member))

end Interleavings

/-! ### A blank name -/

/-- A prompt task that fires every night. -/
def digestBody : CreateScheduledTask where
  name := "digest"
  targetKind := "prompt"
  workflowId := none
  inputsJson := .null
  assistantId := none
  prompt := some "Summarise the news."
  modelId := 3
  scheduleKind := "recurring"
  runAt := none
  cronExpr := some "0 0 * * *"
  timezone := "UTC"
  notifyMode := "always"
  notifyOn := "always"
  allowedUnattendedTools := []
  boundConversationId := none
  completionCondition := none

def noTasks : Shared where
  tasks := ⟨[], List.nodup_nil⟩
  runs := []
  settings := defaultSettings
  goal := ⟨none, 10⟩
  clock := 0

def renamed (name : String) : List (Nat × SchedulerEvent) ×
    Config schedulerPorts AppError Unit Shared :=
  scheduler.execute (Shared.answer proposing)
    (Activity.config midnights [.create 7 digestBody, .update 7 9 { name := some name }] noTasks)
    [0, 0, 0, 0, 0, 0, 0, 1, 1]

theorem renamed_follows (name : String) : Follows scheduler.Step (Activity.config midnights
    [.create 7 digestBody, .update 7 9 { name := some name }] noTasks) (renamed name).1
    (renamed name).2 :=
  scheduler.follows_execute (Shared.answers_answer proposing) _ _

theorem renaming_keeps_valid : ∃ row, (renamed "weekly digest").2.shared.tasks.find 9 = some row ∧
    row.name = "weekly digest" ∧ row.Valid midnights 300 0 1 := by
  have follows : Follows (scheduler.Guarded fun config label =>
      keepsValid 9 config.shared label.2 = true) (Activity.config midnights
        [.create 7 digestBody, .update 7 9 { name := some "weekly digest" }] noTasks)
      (renamed "weekly digest").1 (renamed "weekly digest").2 :=
    scheduler.guarded_execute (Shared.answers_answer proposing) [0, 0, 0, 0, 0, 0, 0, 1, 1] _
      (by decide)
  have valid := (updates_keep_valid midnights _ 9 rfl (by decide) follows).1
  obtain ⟨row, found⟩ : ∃ row, (renamed "weekly digest").2.shared.tasks.find 9 = some row :=
    ⟨_, rfl⟩
  refine ⟨row, found, ?_, valid row found⟩
  have name : ((renamed "weekly digest").2.shared.tasks.find 9).map (·.name) =
      some "weekly digest" := by decide
  rw [found] at name
  exact Option.some.inj name

/-- **A blank name is accepted by an update**, which `create_task` refuses. -/
theorem blank_rename_accepted : ¬ ∀ (cron : CronLibrary) (activities : List Activity)
    (shared : Shared) (log : List (Nat × SchedulerEvent))
    (last : Config schedulerPorts AppError Unit Shared) (id : Uuid), shared.tasks.find id = none →
    undisturbed (readsRow id) (commitsRow id) (commitsRow id) log = true →
    Follows scheduler.Step (Activity.config cron activities shared) log last →
    (∀ row, last.shared.tasks.find id = some row → row.Valid cron
      shared.settings.minIntervalSeconds shared.clock last.shared.clock) ∧
    ∀ thread error, last.threads[thread]? = some (.fail error) →
      ∀ event, (thread, event) ∈ log → commits event = false := by
  intro claimed
  obtain ⟨row, found⟩ : ∃ row, (renamed "   ").2.shared.tasks.find 9 = some row := ⟨_, rfl⟩
  have valid := (claimed midnights _ noTasks _ _ 9 rfl (by decide) (renamed_follows "   ")).1 row
    found
  have blank : ((renamed "   ").2.shared.tasks.find 9).map (fun row => nameOk row.name) =
      some false := by decide
  rw [found, Option.map_some, valid.name] at blank
  cases blank

end Ziee.Scheduler
