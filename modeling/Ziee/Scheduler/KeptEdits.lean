/-
**When a user's edit survives the firings.**

A firing works for minutes on a snapshot of its task and then writes the row by its id alone,
whatever has become of it. So an edit of the schedule or of the switch stays as it is when no sweep
has still to advance the task, and no firing has still to arm, stop or pause it.

* `harmless` — what the target of a firing answered does not make it write the edited columns.
* `edit_kept` — then the edit's columns are what it left, until the next edit or claim.
-/

import Ziee.Scheduler.FiringRules
import Ziee.Scheduler.Dispatches

namespace Ziee.Scheduler

open PortProgram Threads Ziee.Providers Ziee.Agent

/-- A request that sets the switch or the schedule of the task, or deletes it. -/
def edits (id : Uuid) : SchedulerEvent → Bool
  | ⟨.update _ task upd nextRunAt, .ok (some _)⟩ =>
    task = id && (upd.enabled.isSome || nextRunAt.isSome)
  | ⟨.delete _ task, _⟩ => task = id
  | _ => false

/-- **Every sweep that claimed the task has written it since.** -/
def settled (id : Uuid) : List (Nat × SchedulerEvent) → Bool
  | [] => true
  | (thread, event) :: rest =>
    (!claims id event || rest.any fun label => label.1 = thread && handles id label.2) &&
      settled id rest

/-- What the target answered makes the firing arm, stop or pause the task. -/
def writesBack (task : ScheduledTask) (trigger : RunTrigger) (cap : Int) :
    Except AppError RawResult → Bool
  | .ok _ => task.kind = .selfPaced && (trigger ≠ .runNow || task.completionCondition.isSome)
  | .error error => trigger ≠ .runNow && (pausesFor task cap (.error error)).isSome

def overwrites (id : Uuid) : SchedulerEvent → SchedulerEvent → Bool
  | ⟨.runTarget task trigger, result⟩, ⟨.settings, settings⟩ =>
    task.id = id && writesBack task trigger (maxFailuresOf settings) result
  | _, _ => false

/-- **No firing that still had something to do overwrites the task.** -/
def harmless (id : Uuid) (log after : List (Nat × SchedulerEvent)) : Bool :=
  after.all fun last => log.all fun ran => log.all fun read =>
    !(ran.1 = last.1 && read.1 = last.1 && overwrites id ran.2 read.2)

/-- The columns of an edit. -/
structure SameSwitch (row kept : ScheduledTask) : Prop where
  enabled : kept.enabled = row.enabled
  pausedReason : kept.pausedReason = row.pausedReason
  nextRunAt : kept.nextRunAt = row.nextRunAt

theorem SameSwitch.trans {first second third : ScheduledTask} (one : SameSwitch first second)
    (two : SameSwitch second third) : SameSwitch first third :=
  ⟨two.enabled.trans one.enabled, two.pausedReason.trans one.pausedReason,
    two.nextRunAt.trans one.nextRunAt⟩

section Kept

variable {id : Uuid} {event : SchedulerEvent} {row old : ScheduledTask}
  {log before after : List (Nat × SchedulerEvent)}

theorem handled_of_settled {thread : Nat} (done : settled id log = true)
    (split : log = before ++ (thread, event) :: after) (claimed : claims id event = true) :
    ∃ write, (thread, write) ∈ after ∧ handles id write = true := by
  induction before generalizing log with
  | nil =>
    subst split
    simp only [List.nil_append, settled, claimed, Bool.not_true, Bool.false_or,
      Bool.and_eq_true] at done
    obtain ⟨⟨other, write⟩, member, same⟩ := List.any_eq_true.mp done.1
    simp only [Bool.and_eq_true, decide_eq_true_eq] at same
    obtain ⟨rfl, handled⟩ := same
    exact ⟨write, member, handled⟩
  | cons label before ih =>
    subst split
    obtain ⟨other, first⟩ := label
    simp only [List.cons_append, settled, Bool.and_eq_true] at done
    exact ih done.2 rfl

/-- A statement that arms, stops, advances or pauses the task with this id. -/
def switches (id : Uuid) : SchedulerEvent → Bool
  | ⟨.execute (.markFired task _ _ _), .ok _⟩ => task = id
  | ⟨.execute (.disarmSelfPaced task _), .ok _⟩ => task = id
  | ⟨.execute (.armSelfPaced task _ _ _), .ok _⟩ => task = id
  | ⟨.execute (.recordOutcome task _ _ (some _)), .ok _⟩ => task = id
  | _ => false

theorem target_of_switches {write : Write} {answer : Except AppError Unit}
    (switched : switches id ⟨.execute write, answer⟩ = true) : write.target = id := by
  cases answer with
  | error error =>
    cases write with
    | recordOutcome task status success reason => cases reason <;> cases switched
    | _ => cases switched
  | ok _ =>
    cases write with
    | recordOutcome task status success reason =>
      cases reason with
      | none => cases switched
      | some reason => exact of_decide_eq_true switched
    | setBoundConversation task conversationId => cases switched
    | _ => exact of_decide_eq_true switched

/-- **Any other step keeps the columns.** -/
theorem RowStep.sameSwitch {kept : Option ScheduledTask}
    (step : RowStep id event (some old) kept) (quiet : switches id event = false)
    (unedited : edits id event = false) : ∃ row, kept = some row ∧ SameSwitch old row := by
  generalize before : some old = first at step
  cases step with
  | same leaves => exact ⟨old, before.symm, rfl, rfl, rfl⟩
  | @write write _ target =>
    subst before
    refine ⟨write.update old, rfl, ?_⟩
    subst target
    cases write with
    | markFired | disarmSelfPaced | armSelfPaced => simp [switches, Write.target] at quiet
    | recordOutcome task status success reason =>
      cases reason with
      | none => exact ⟨rfl, rfl, rfl⟩
      | some reason => simp [switches, Write.target] at quiet
    | setBoundConversation task conversationId => exact ⟨rfl, rfl, rfl⟩
  | binds conversationId owner =>
    subst before
    exact ⟨_, rfl, rfl, rfl, rfl⟩
  | @updates userId upd nextRunAt first row' owner stored =>
    cases before
    obtain ⟨name, -, -, rfl⟩ := ScheduledTask.stored?_eq_some_iff.mp stored
    simp only [edits, decide_true, Bool.true_and, Bool.or_eq_false_iff, Option.isSome_eq_false_iff,
      Option.isNone_iff_eq_none] at unedited
    obtain ⟨switch, schedule⟩ := unedited
    subst schedule
    exact ⟨_, rfl, by simp [applyUpdate, switch], by simp [applyUpdate, switch], rfl⟩
  | inserts stored => cases before
  | deletes owner => simp [edits] at unedited

end Kept

/-! ### The firings and the sweeps -/

section System

variable {cron : CronLibrary} {activities : List Activity} {shared : Shared}
  {last : Config schedulerPorts AppError Unit Shared} {id : Uuid}
  {before after between : List (Nat × SchedulerEvent)} {thread : Nat} {edit event : SchedulerEvent}

theorem claim_nodup {limit : Nat} {now : Instant} {rows : List ScheduledTask}
    (follows : Follows scheduler.Step (Activity.config cron activities shared) before last)
    (member : (thread, ⟨.claimDueTasks now limit, (.ok rows :
      Except AppError (List ScheduledTask))⟩) ∈ before) : (rows.map (·.id)).Nodup := by
  obtain ⟨_, _, _, _, -, -, answers, -⟩ := answered_at follows member
  exact answers.claim_ok.2.1

/-- **A sweep writes the task once for each claim**: not after the edit, when its claims before it
are settled and there is none after it. -/
theorem not_swept {index : Nat} (follows : Follows scheduler.Step
      (Activity.config cron activities shared) (before ++ (index, edit) :: between) last)
    (handled : settled id before = true) (edited : claims id edit = false)
    (alone : ∀ label ∈ between, claims id label.2 = false) {firedAt : Instant}
    {task : ScheduledTask} {since : List SchedulerEvent} (same : task.id = id) :
    ¬ Claimed (handles id) (own thread (before ++ (index, edit) :: between)) task firedAt
      since := by
  rintro ⟨head, rows, limit, split, member, fresh⟩
  obtain ⟨first, second, whole, -, rfl⟩ := own_split split
  have claimed : claims id (⟨.claimDueTasks firedAt limit, (.ok rows :
      Except AppError (List ScheduledTask))⟩ : SchedulerEvent) = true :=
    List.any_eq_true.mpr ⟨task, member, decide_eq_true same⟩
  have there : (thread, (⟨.claimDueTasks firedAt limit, (.ok rows :
      Except AppError (List ScheduledTask))⟩ : SchedulerEvent)) ∈ before ++
        (index, edit) :: between := by
    rw [whole]
    simp
  have quiet := fresh (claim_nodup follows there)
  rcases split_cases whole with ⟨more, rfl, rfl⟩ | ⟨equal, -, -⟩ | ⟨more, rfl, rfl⟩
  · -- claimed before the edit: the sweep has written the task since
    obtain ⟨write, wrote, handles⟩ := handled_of_settled handled rfl claimed
    rw [quiet write (mem_own.mpr (List.mem_append_left _ wrote))] at handles
    cases handles
  · rw [← (Prod.mk.inj equal).2, claimed] at edited
    cases edited
  · -- claimed after the edit
    have silent := alone _ (List.mem_append_right more (List.mem_cons_self))
    rw [claimed] at silent
    cases silent

/-- **A firing arms, stops or pauses the task only for its target's answer.** -/
theorem not_written_back {task : ScheduledTask} {trigger : RunTrigger} {now : Instant}
    {result : Except AppError RawResult} {settings : Except AppError SchedulerAdminSettings}
    {rest : List SchedulerEvent} {first : Nat} {whole : List (Nat × SchedulerEvent)}
    (calm : harmless id whole after = true) (here : (thread, event) ∈ after)
    (sofar : ∀ label ∈ before, label ∈ whole)
    (ran : Ran (scheduler.past first before thread) task trigger now result rest)
    (read : (⟨.settings, settings⟩ : SchedulerEvent) ∈ rest)
    (same : task.id = id) : writesBack task trigger (maxFailuresOf settings) result = false := by
  have knows : Knows scheduler before thread (scheduler.past first before thread) :=
    knows_past first before thread
  have target : (thread, (⟨.runTarget task trigger, result⟩ : SchedulerEvent)) ∈ whole :=
    sofar _ (knows.own_mem ran.mem_run rfl)
  have setting : (thread, (⟨.settings, settings⟩ : SchedulerEvent)) ∈ whole :=
    sofar _ (knows.own_mem (ran.mem_rest read) rfl)
  have calm := List.all_eq_true.mp (List.all_eq_true.mp (List.all_eq_true.mp calm _ here) _ target)
    _ setting
  simpa [overwrites, same] using calm

/-- **After the edit nothing switches the task.** -/
theorem not_switched {index : Nat} {done rest : List (Nat × SchedulerEvent)}
    (follows : Follows scheduler.Step (Activity.config cron activities shared)
      ((before ++ (index, edit) :: done) ++ (thread, event) :: rest) last)
    (handled : settled id before = true) (edited : claims id edit = false)
    (calm : harmless id (before ++ (index, edit) :: (done ++ (thread, event) :: rest))
      (done ++ (thread, event) :: rest) = true)
    (alone : ∀ label ∈ done, claims id label.2 = false) : switches id event = false := by
  refine Bool.eq_false_iff.mpr fun switched => ?_
  obtain ⟨state, sofar, -⟩ := Follows.append_iff.mp follows
  have here : (thread, event) ∈ done ++ (thread, event) :: rest := by simp
  have within : ∀ label ∈ before ++ (index, edit) :: done,
      label ∈ before ++ (index, edit) :: (done ++ (thread, event) :: rest) := by
    intro label member
    rw [← List.cons_append, ← List.append_assoc]
    exact List.mem_append_left _ member
  obtain ⟨query, answer⟩ := event
  cases query with
  | execute write =>
    obtain rfl : write.target = id := target_of_switches switched
    cases write with
    | markFired task next firedAt reason =>
      obtain ⟨row, since, same, claimed, -⟩ := tick_ruled follows trivial
      exact not_swept sofar handled edited alone same claimed
    | disarmSelfPaced task firedAt =>
      obtain ⟨row, since, same, claimed⟩ := tick_ruled follows trivial
      exact not_swept sofar handled edited alone same claimed
    | armSelfPaced task outcome firedAt reason =>
      obtain ⟨row, trigger, raw, more, settings, same, ran, read, paced, rearmed⟩ :=
        firing_ruled follows
      have quiet := not_written_back calm here within ran read same
      cases rearmed with
      | plain single scheduled => simp [writesBack, paced, scheduled] at quiet
      | goal earlier condition verdict goal counted wrote inserted seeks _ _ _ =>
        simp [writesBack, paced, seeks] at quiet
    | recordOutcome task status success reason =>
      obtain ⟨row, trigger, now, result, more, settings, same, ran, -, read, scheduled, -, rfl⟩ :=
        firing_ruled follows
      have quiet := not_written_back calm here within ran read same
      cases result with
      | ok raw =>
        cases answer <;> cases switched
      | error error =>
        simp only [writesBack, ne_eq, scheduled, not_false_eq_true, decide_true, Bool.true_and,
          Option.isSome_eq_false_iff, Option.isNone_iff_eq_none] at quiet
        rw [quiet] at switched
        cases answer <;> cases switched
    | setBoundConversation task conversationId => cases switched
  | _ => cases switched

/-- **An edit stays as it is**, in every interleaving: when every sweep that had claimed the task
has written it, no firing overwrites it, and no other edit or claim follows. -/
theorem edit_kept (cron : CronLibrary) (activities : List Activity) {shared : Shared}
    {last : Config schedulerPorts AppError Unit Shared} {before after : List (Nat × SchedulerEvent)}
    {thread : Nat} {userId id : Uuid} {upd : UpdateScheduledTask}
    {nextRunAt : Option (Option Instant)} {row : ScheduledTask}
    (follows : Follows scheduler.Step (Activity.config cron activities shared)
      (before ++ (thread, ⟨.update userId id upd nextRunAt, (.ok (some row) :
        Except AppError (Option ScheduledTask))⟩) :: after) last)
    (handled : settled id before = true)
    (calm : harmless id (before ++ (thread, ⟨.update userId id upd nextRunAt, (.ok (some row) :
      Except AppError (Option ScheduledTask))⟩) :: after) after = true)
    (alone : ∀ label ∈ after, edits id label.2 = false ∧ claims id label.2 = false) :
    ∃ kept, last.shared.tasks.find id = some kept ∧ SameSwitch row kept := by
  obtain ⟨state, head, tail⟩ := Follows.append_iff.mp follows
  cases tail with
  | cons step rest =>
    cases step with
    | act _ answers =>
      refine preserves_split rest (fun _ config =>
        ∃ kept, config.shared.tasks.find id = some kept ∧ SameSwitch row kept) ?_
        ⟨row, Answers.update_ok answers, rfl, rfl, rfl⟩
      rintro done ⟨index, event⟩ later config config' rfl sofar ⟨kept, found, same⟩ step
      obtain ⟨unedited, -⟩ := alone (index, event) (by simp)
      rw [← List.cons_append, ← List.append_assoc] at follows
      have quiet : switches id event = false := not_switched follows handled rfl calm
        fun label member => (alone label (by simp [member])).2
      cases step with
      | act _ answers =>
        have rowStep := Answers.rowStep answers id
        rw [found] at rowStep
        obtain ⟨next, shown, equal⟩ := rowStep.sameSwitch quiet unedited
        exact ⟨next, shown, same.trans equal⟩

end System

/-! ### An edit that a firing undoes -/

/-- The target answers, and says nothing of the next turn. -/
def answering : Outside := ⟨fun _ _ => .ok ⟨"nothing new", [], none⟩, .notDone, 1, fun _ => 9⟩

/-- A sweep, the firing's target, an update of the task while it runs, and the firing to its end. -/
def editedRun (shared : Shared) (upd : UpdateScheduledTask) (schedule : List Nat) :
    List (Nat × SchedulerEvent) × Config schedulerPorts AppError Unit Shared :=
  scheduler.execute (Shared.answer answering)
    (Activity.config midnights [.tickLoop 1, .update 7 1 upd] shared) schedule

theorem nightly_stays_off : ∃ kept, (editedRun (oneCron "0 0 * * *") { enabled := some false }
      [0, 0, 0, 0, 2, 1, 1, 2, 2, 2, 2]).2.shared.tasks.find 1 = some kept ∧
    SameSwitch { cronTask "0 0 * * *" with
      enabled := false, nextRunAt := some 86400000000, lastRunAt := some 1 } kept := by
  have follows : Follows scheduler.Step (Activity.config midnights
        [.tickLoop 1, .update 7 1 { enabled := some false }] (oneCron "0 0 * * *"))
      ((editedRun (oneCron "0 0 * * *") { enabled := some false }
        [0, 0, 0, 0, 2, 1, 1, 2, 2, 2, 2]).1.take 6 ++
        (1, ⟨.update 7 1 { enabled := some false } none, (.ok (some { cronTask "0 0 * * *" with
          enabled := false, nextRunAt := some 86400000000, lastRunAt := some 1 }) :
          Except AppError (Option ScheduledTask))⟩) ::
        (editedRun (oneCron "0 0 * * *") { enabled := some false }
        [0, 0, 0, 0, 2, 1, 1, 2, 2, 2, 2]).1.drop 7) _ :=
    scheduler.follows_execute (Shared.answers_answer answering) [0, 0, 0, 0, 2, 1, 1, 2, 2, 2, 2] _
  exact edit_kept midnights _ follows (by decide) (by decide) (by decide)

def toNightly : UpdateScheduledTask where
  scheduleKind := some "recurring"
  cronExpr := some "0 0 * * *"
  timezone := some "UTC"

def undone : List (Nat × SchedulerEvent) × Config schedulerPorts AppError Unit Shared :=
  editedRun onePaced toNightly [0, 0, 0, 0, 2, 1, 1, 1, 1, 2, 2, 2, 2, 2, 2]

/-- **A firing undoes an edit**: the task has just become a nightly one, and the firing that was
under way, whose turn proposed nothing, disables it as completed. -/
theorem firing_undoes_edit : ¬ ∀ (cron : CronLibrary) (activities : List Activity) (shared : Shared)
    (last : Config schedulerPorts AppError Unit Shared) (before after : List (Nat × SchedulerEvent))
    (thread : Nat) (userId id : Uuid) (upd : UpdateScheduledTask)
    (nextRunAt : Option (Option Instant)) (row : ScheduledTask),
    Follows scheduler.Step (Activity.config cron activities shared)
      (before ++ (thread, ⟨.update userId id upd nextRunAt, (.ok (some row) :
        Except AppError (Option ScheduledTask))⟩) :: after) last →
    upd.touchesSchedule = true ∨ upd.enabled.isSome = true →
    (∃ label ∈ before, claims id label.2 = true) →
    (∀ label ∈ after, edits id label.2 = false ∧ claims id label.2 = false) →
    (∀ program ∈ last.threads, ¬ InFlight id program) →
    ∃ kept, last.shared.tasks.find id = some kept ∧ SameSwitch row kept := by
  intro claimed
  have follows : Follows scheduler.Step
      (Activity.config midnights [.tickLoop 1, .update 7 1 toNightly] onePaced)
      (undone.1.take 8 ++ (1, ⟨.update 7 1 toNightly (some (some 86400000000)),
        (.ok (some { pacedTask with
          scheduleKind := "recurring", cronExpr := some "0 0 * * *",
          nextRunAt := some 86400000000, lastRunAt := some 1 }) :
          Except AppError (Option ScheduledTask))⟩) :: undone.1.drop 9) undone.2 :=
    scheduler.follows_execute (Shared.answers_answer answering)
      [0, 0, 0, 0, 2, 1, 1, 1, 1, 2, 2, 2, 2, 2, 2] _
  have ended : ∀ program ∈ undone.2.threads, program = .pure () := by
    rw [show undone.2.threads = [.pure (), .pure (), .pure ()] from rfl]
    simp
  obtain ⟨kept, found, same⟩ := claimed midnights _ onePaced _ _ _ 1 7 1 toNightly _ _ follows
    (Or.inl (by decide)) (by decide) (by decide) (not_inFlight_of_pure ended)
  have stopped : (undone.2.shared.tasks.find 1).map (·.enabled) = some false := by decide
  rw [found, Option.map_some, same.enabled] at stopped
  cases stopped

end Ziee.Scheduler
