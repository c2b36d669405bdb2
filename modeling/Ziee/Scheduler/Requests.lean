/-
**What a request knows when it writes.**

A request that inserts or updates a row has checked things before: the fields, the schedule at an
instant it read, the quota against a count it read. Each check is about what was read, not about the
tables at the time of the write.

* `Refused` — what precedes a refusal: no write, and for the quota a count that reached the cap.
* `Activity.obeys`, `startedBy_obeys` — every activity and every firing obeys them.
-/

import Ziee.Library.Histories
import Ziee.Scheduler.Asks

namespace Ziee.Scheduler

open PortProgram Threads Ziee.Providers Ziee.Agent

def Accepted (cron : CronLibrary) (past : List SchedulerEvent) (kindText : String)
    (runAt : Option Instant) (cronExpr : Option String) (timezone : String)
    (next : Option Instant) : Prop :=
  ∃ kind settings now, parseKind kindText = .ok kind ∧
    ⟨.settings, (.ok settings : Except AppError SchedulerAdminSettings)⟩ ∈ past ∧
    ⟨.now, now⟩ ∈ past ∧ scheduleNext cron settings kind runAt cronExpr timezone now = .ok next

def Counted (past : List SchedulerEvent) (userId : Uuid) : Prop :=
  ∃ (settings : SchedulerAdminSettings) (active : Nat),
    ⟨.settings, (.ok settings : Except AppError SchedulerAdminSettings)⟩ ∈ past ∧
    ⟨.countActiveForUser userId, (.ok active : Except AppError Nat)⟩ ∈ past ∧
    (active : Int) < settings.maxActiveTasksPerUser

/-- **What precedes an insert.** -/
structure Creates (cron : CronLibrary) (past : List SchedulerEvent) (userId : Uuid)
    (req : CreateScheduledTask) (nextRunAt : Option Instant) : Prop where
  name : nameOk req.name = true
  target : validateTarget req = .ok ()
  condition : ∀ condition, req.completionCondition = some condition → isBlank condition = false ∧
    byteLen condition.toList ≤ maxCompletionConditionLen ∧ req.targetKind = "prompt" ∧
    parseKind req.scheduleKind = .ok .selfPaced
  schedule : Accepted cron past req.scheduleKind req.runAt req.cronExpr req.timezone nextRunAt
  quota : Counted past userId

/-- **What precedes an update**: the row was read, and what was read was checked. -/
structure Updates (cron : CronLibrary) (past : List SchedulerEvent) (userId id : Uuid)
    (upd : UpdateScheduledTask) (nextRunAt : Option (Option Instant))
    (existing : ScheduledTask) : Prop where
  read : ⟨.getForUser userId id, (.ok (some existing) :
    Except AppError (Option ScheduledTask))⟩ ∈ past
  schedule : (upd.touchesSchedule = false ∧ nextRunAt = none) ∨ ∃ next, nextRunAt = some next ∧
    Accepted cron past (upd.scheduleKind.getD existing.scheduleKind) (upd.runAt.or existing.runAt)
      (upd.cronExpr.or existing.cronExpr) (upd.timezone.getD existing.timezone) next
  quota : upd.enabled = some true → existing.enabled = false → Counted past userId

def RequestRule (cron : CronLibrary) (past : List SchedulerEvent) (event : SchedulerEvent) : Prop :=
  match event.1 with
  | .insert userId req nextRunAt => Creates cron past userId req nextRunAt
  | .update userId id upd nextRunAt => ∃ existing,
    Updates cron past userId id upd nextRunAt existing
  | _ => True

/-- A statement that inserted or updated a row. -/
def commits : SchedulerEvent → Bool
  | ⟨.insert _ _ _, answer⟩ => answer.isOk
  | ⟨.update _ _ _ _, answer⟩ => answer.toOption.any Option.isSome
  | _ => false

/-- **What precedes a refusal.** -/
structure Refused (past : List SchedulerEvent) (error : AppError) : Prop where
  unwritten : ∀ event ∈ past, commits event = false
  /-- A refusal for the quota, right after the count. -/
  quota : error.errorCode = "SCHEDULER_TASK_QUOTA" → ∀ before userId (active : Nat),
    past = before ++ [⟨.countActiveForUser userId, (.ok active : Except AppError Nat)⟩] →
    (∃ settings, ⟨.settings, (.ok settings : Except AppError SchedulerAdminSettings)⟩ ∈ before ∧
      settings.maxActiveTasksPerUser ≤ (active : Int) ∧
      error = quotaError settings.maxActiveTasksPerUser) ∧
    ∀ id row, ⟨.getForUser userId id, (.ok (some row) :
      Except AppError (Option ScheduledTask))⟩ ∈ before → row.enabled = false

/-! ### Plain pasts -/

/-- A query that neither counts nor writes rows of requests. -/
def IsPlain : SchedulerQuery → Prop
  | .insert _ _ _ | .update _ _ _ _ | .countActiveForUser _ => False
  | _ => True

def PlainPast (past : List SchedulerEvent) : Prop := ∀ event ∈ past, IsPlain event.1

section Plain

variable {cron : CronLibrary} {past more : List SchedulerEvent} {event : SchedulerEvent}
  {error : AppError}

variable {body : UpdateScheduledTask} {kind : ScheduleKind} {existing : ScheduledTask}

theorem IsPlain.rule (plain : IsPlain event.1) : RequestRule cron past event := by
  obtain ⟨query, answer⟩ := event
  cases query <;> first | exact plain.elim | trivial

theorem IsPlain.not_commits (plain : IsPlain event.1) : commits event = false := by
  obtain ⟨query, answer⟩ := event
  cases query <;> first | exact plain.elim | rfl

theorem PlainPast.nil : PlainPast [] := by simp [PlainPast]

theorem PlainPast.append (old : PlainPast past) (new : PlainPast more) : PlainPast
    (past ++ more) := by
  intro event member
  rcases List.mem_append.mp member with member | member
  · exact old event member
  · exact new event member

theorem PlainPast.snoc (old : PlainPast past) (new : IsPlain event.1) : PlainPast
    (past ++ [event]) :=
  old.append fun _ member => List.mem_singleton.mp member ▸ new

theorem PlainPast.refused (plain : PlainPast past) : Refused past error where
  unwritten := fun event member => (plain event member).not_commits
  quota := by
    rintro - before userId active rfl
    exact (plain _ (List.mem_append_right _ (List.mem_singleton_self _))).elim

theorem plain_obeys {α : Type} {program : SchedulerM α} (plain : PlainPast past)
    (asks : AsksOnly (I := schedulerPorts) IsPlain program) :
    Obeys (RequestRule cron) Refused (fun later _ => PlainPast later ∧
      ∀ event ∈ past, event ∈ later) past program := by
  refine (asks.obeys (fun _ _ permitted _ => permitted.rule)
    fun more error clean => (plain.append clean).refused).mono ?_
  rintro later value ⟨more, clean, rfl⟩
  exact ⟨plain.append clean, fun event member => List.mem_append_left _ member⟩

end Plain

/-! ### The quota -/

section Requests

variable {cron : CronLibrary} {past : List SchedulerEvent} {userId id : Uuid}

theorem unwritten_snoc {event : SchedulerEvent} (unwritten : ∀ event ∈ past, commits event = false)
    (quiet : commits event = false) : ∀ one ∈ past ++ [event], commits one = false := by
  intro one member
  rcases List.mem_append.mp member with member | member
  · exact unwritten one member
  · rw [List.mem_singleton.mp member]
    exact quiet

theorem refused_after {event : SchedulerEvent} {error : AppError}
    (unwritten : ∀ event ∈ past, commits event = false) (quiet : commits event = false)
    (other : ∀ userId, event.1 ≠ .countActiveForUser userId) : Refused (past ++ [event]) error where
  unwritten := unwritten_snoc unwritten quiet
  quota := by
    intro _ before userId active same
    have last := congrArg List.getLast? same
    simp only [List.getLast?_append, List.getLast?_singleton, Option.some_or, Option.some.injEq]
      at last
    exact absurd (congrArg Sigma.fst last) (other userId)

/-- **The quota check**, of a request that found its row disabled, if it has one. -/
theorem checkQuota_obeys {settings : SchedulerAdminSettings} (plain : PlainPast past)
    (read : ⟨.settings, (.ok settings : Except AppError SchedulerAdminSettings)⟩ ∈ past)
    (disabled : ∀ id row, ⟨.getForUser userId id, (.ok (some row) :
      Except AppError (Option ScheduledTask))⟩ ∈ past → row.enabled = false) :
    Obeys (RequestRule cron) Refused (fun later _ => Counted later userId ∧
      (∀ event ∈ past, event ∈ later) ∧ ∀ event ∈ later, commits event = false) past
      (checkQuota userId settings) := by
  have unwritten : ∀ event ∈ past, commits event = false := fun event member =>
    (plain event member).not_commits
  refine Obeys.bind (Obeys.attempt (fun _ => trivial) fun answer error failed => ?_) ?_
  · -- a count that failed
    refine ⟨unwritten_snoc unwritten rfl, fun _ before user active same => ?_⟩
    have last := (List.append_inj' same rfl).2
    cases last
    cases failed
  · rintro later active ⟨answer, rfl, decoded⟩
    replace decoded : answer = .ok active := decoded
    subst decoded
    refine Obeys.ite (fun full => ?_) fun room => ?_
    · refine ⟨unwritten_snoc unwritten rfl, fun _ before user count same => ?_⟩
      obtain ⟨rfl, last⟩ := List.append_inj' same rfl
      cases last
      exact ⟨⟨settings, read, full, rfl⟩, disabled⟩
    · refine ⟨⟨settings, active, List.mem_append_left _ read,
        List.mem_append_right _ (List.mem_singleton_self _), Int.not_le.mp room⟩,
        fun event member => List.mem_append_left _ member, unwritten_snoc unwritten rfl⟩

/-! ### Creation -/

theorem admitCreate_obeys {body : CreateScheduledTask}
    (plain : PlainPast past) (fresh : ∀ user id row, ⟨.getForUser user id, (.ok (some row) :
      Except AppError (Option ScheduledTask))⟩ ∉ past)
    (name : nameOk body.name = true) (target : validateTarget body = .ok ())
    (parsed : parseKind body.scheduleKind = .ok kind)
    (condition : ∀ condition, body.completionCondition = some condition →
      isBlank condition = false ∧ byteLen condition.toList ≤ maxCompletionConditionLen ∧
        body.targetKind = "prompt" ∧ parseKind body.scheduleKind = .ok .selfPaced) :
    Obeys (RequestRule cron) Refused (fun _ _ => True) past
      (admitCreate cron userId body kind) := by
  refine Obeys.bind (Obeys.attempt (fun _ => trivial) fun answer error _ => ?_) ?_
  · have reading : PlainPast (past ++ [⟨.settings, answer⟩]) := plain.snoc trivial
    exact reading.refused
  · rintro later settings ⟨answer, rfl, decoded⟩
    replace decoded : answer = .ok settings := decoded
    subst decoded
    have reading : PlainPast (past ++ [⟨.settings, .ok settings⟩]) := plain.snoc trivial
    refine Obeys.bind (checkQuota_obeys reading
      (List.mem_append_right _ (List.mem_singleton_self _)) fun id row member => ?_) ?_
    · rcases List.mem_append.mp member with member | member
      · exact absurd member (fresh userId id row)
      · cases List.mem_singleton.mp member
    · rintro later value ⟨counted, kept, unwritten⟩
      refine Obeys.bind (Obeys.perform fun _ => trivial) ?_
      rintro _ now rfl
      refine Obeys.bind (Obeys.ofExcept fun error _ => ?_) ?_
      · exact refused_after unwritten rfl fun _ => by simp
      · rintro _ next ⟨rfl, accepted⟩
        have read : ⟨.settings, (.ok settings : Except AppError SchedulerAdminSettings)⟩ ∈
            later ++ [(⟨.now, now⟩ : SchedulerEvent)] :=
          List.mem_append_left _ (kept _ (List.mem_append_right _ (List.mem_singleton_self _)))
        have schedule : Accepted cron (later ++ [(⟨.now, now⟩ : SchedulerEvent)]) body.scheduleKind
            body.runAt body.cronExpr body.timezone next :=
          ⟨kind, settings, now, parsed, read, List.mem_append_right _ (List.mem_singleton_self _),
            accepted⟩
        have quota : Counted (later ++ [(⟨.now, now⟩ : SchedulerEvent)]) userId := by
          obtain ⟨settings, active, readThem, count, room⟩ := counted
          exact ⟨settings, active, List.mem_append_left _ readThem, List.mem_append_left _ count,
            room⟩
        refine (Obeys.attempt (fun _ => ⟨name, target, condition, schedule, quota⟩)
          fun answer error failed => ?_).mono fun _ _ _ => trivial
        refine refused_after (unwritten_snoc unwritten rfl) ?_ fun _ => by simp
        replace failed : answer = .error error := failed
        subst failed
        rfl

theorem validateCondition_ok {body : CreateScheduledTask}
    {kept : Option String} (accepted : validateCondition kind body = .ok kept) {condition : String}
    (present : kept = some condition) :
    isBlank condition = false ∧ byteLen condition.toList ≤ maxCompletionConditionLen ∧
      body.targetKind = "prompt" ∧ kind = .selfPaced := by
  subst present
  unfold validateCondition at accepted
  split at accepted
  · cases accepted
  · split at accepted
    · cases accepted
    · rename_i full
      split at accepted
      · cases accepted
      · rename_i short
        split at accepted
        · cases accepted
        · rename_i paced
          cases accepted
          simp only [not_or, ne_eq, Decidable.not_not] at paced
          exact ⟨by simpa using full, Nat.le_of_not_lt short, paced.1, paced.2⟩

theorem require_obeys {condition : Bool} {error : AppError} (plain : PlainPast past) :
    Obeys (RequestRule cron) Refused (fun later _ => later = past ∧ condition = true) past
      (require condition error) := by
  unfold require
  exact Obeys.ite (fun holds => ⟨rfl, holds⟩) fun _ => plain.refused

theorem validateBody_obeys (body : CreateScheduledTask) :
    Obeys (RequestRule cron) Refused (fun later _ => later = [] ∧ nameOk body.name = true ∧
      validateTarget body = .ok ()) [] (validateBody body) := by
  refine Obeys.bind (require_obeys PlainPast.nil) ?_
  rintro _ value ⟨rfl, name⟩
  refine (Obeys.ofExcept fun _ _ => PlainPast.nil.refused).mono ?_
  rintro _ value ⟨rfl, target⟩
  exact ⟨rfl, name, target⟩

/-- **`create_task` checks the whole body before it inserts.** -/
theorem createTask_obeys (body : CreateScheduledTask) :
    Obeys (RequestRule cron) Refused (fun _ _ => True) [] (createTask cron userId body) := by
  unfold createTask
  refine Obeys.bind (validateBody_obeys body) ?_
  · rintro _ value ⟨rfl, name, target⟩
    have references : ∀ query, ChecksReference query → ChecksReference query := fun _ checks =>
      checks
    refine Obeys.bind ((validateAccess_asks references body).obeys
      (fun past query checks answer => IsPlain.rule ?_) fun more error clean => ?_) ?_
    · cases query <;> first | exact checks | trivial
    · refine PlainPast.refused fun event member => ?_
      have checks := clean event member
      obtain ⟨query, answer⟩ := event
      cases query <;> first | exact checks | trivial
    · rintro later value ⟨more, clean, same⟩
      rw [List.nil_append] at same
      subst same
      have plain : PlainPast later := by
        intro event member
        have checks := clean event member
        obtain ⟨query, answer⟩ := event
        cases query <;> first | exact checks | trivial
      have fresh : ∀ user id row, ⟨.getForUser user id, (.ok (some row) :
          Except AppError (Option ScheduledTask))⟩ ∉ later := fun user id row member =>
        clean _ member
      refine Obeys.bind (require_obeys plain) ?_
      rintro _ value ⟨rfl, holds⟩
      refine Obeys.bind (Obeys.ofExcept fun _ _ => plain.refused) ?_
      rintro _ kind ⟨rfl, parsed⟩
      refine Obeys.bind (Obeys.ofExcept fun _ _ => plain.refused) ?_
      rintro _ condition ⟨rfl, accepted⟩
      refine admitCreate_obeys plain fresh name target parsed fun kept present => ?_
      obtain ⟨full, short, prompt, rfl⟩ := validateCondition_ok accepted present
      exact ⟨full, short, prompt, parsed⟩

/-! ### Updates -/

theorem parseKind_error {kind : String} {error : AppError}
    (failed : parseKind kind = .error error) : error.errorCode ≠ "SCHEDULER_TASK_QUOTA" := by
  unfold parseKind at failed
  split at failed
  · cases failed
  · split at failed
    · cases failed
    · split at failed
      · cases failed
      · cases failed
        simp [AppError.badRequest]

structure Ready (past : List SchedulerEvent) (userId id : Uuid) (body : UpdateScheduledTask)
    (existing : ScheduledTask) : Prop where
  unwritten : ∀ event ∈ past, commits event = false
  read : ⟨.getForUser userId id, (.ok (some existing) :
    Except AppError (Option ScheduledTask))⟩ ∈ past
  quota : body.enabled = some true → existing.enabled = false → Counted past userId

theorem Ready.grow (ready : Ready past userId id body existing) {event : SchedulerEvent}
    (quiet : commits event = false) : Ready (past ++ [event]) userId id body existing where
  unwritten := unwritten_snoc ready.unwritten quiet
  read := List.mem_append_left _ ready.read
  quota := by
    intro enables disabled
    obtain ⟨settings, active, read, count, room⟩ := ready.quota enables disabled
    exact ⟨settings, active, List.mem_append_left _ read, List.mem_append_left _ count, room⟩

theorem requota_obeys
    (plain : PlainPast past) (read : ⟨.getForUser userId id, (.ok (some existing) :
      Except AppError (Option ScheduledTask))⟩ ∈ past)
    (only : ∀ user task row, ⟨.getForUser user task, (.ok (some row) :
      Except AppError (Option ScheduledTask))⟩ ∈ past → row = existing) :
    Obeys (RequestRule cron) Refused (fun later _ => Ready later userId id body existing) past
      (requota userId existing body) := by
  unfold requota
  refine Obeys.ite (fun enables => ?_) fun still => ?_
  · refine Obeys.bind (Obeys.attempt (fun _ => trivial) fun answer error _ => ?_) ?_
    · have reading : PlainPast (past ++ [⟨.settings, answer⟩]) := plain.snoc trivial
      exact reading.refused
    · rintro later settings ⟨answer, rfl, decoded⟩
      replace decoded : answer = .ok settings := decoded
      subst decoded
      have reading : PlainPast (past ++ [⟨.settings, .ok settings⟩]) := plain.snoc trivial
      refine (checkQuota_obeys reading (List.mem_append_right _ (List.mem_singleton_self _))
        fun task row member => ?_).mono ?_
      · rcases List.mem_append.mp member with member | member
        · rw [only userId task row member]
          exact enables.2
        · cases List.mem_singleton.mp member
      · rintro later value ⟨counted, kept, unwritten⟩
        exact ⟨unwritten, kept _ (List.mem_append_left _ read), fun _ _ => counted⟩
  · exact ⟨fun event member => (plain event member).not_commits, read,
      fun enables disabled => absurd ⟨enables, disabled⟩ still⟩

theorem recompute_obeys (ready : Ready past userId id body existing) :
    Obeys (RequestRule cron) Refused (fun later next => Ready later userId id body existing ∧
      Updates cron later userId id body next existing) past (recompute cron existing body) := by
  unfold recompute
  refine Obeys.ite (fun touched => ?_) fun untouched => ?_
  · refine Obeys.bind (Obeys.ofExcept fun error failed => ?_) ?_
    · exact ⟨ready.unwritten, fun code => absurd code (parseKind_error failed)⟩
    · rintro past kind ⟨rfl, parsed⟩
      refine Obeys.bind (Obeys.attempt (fun _ => trivial) fun answer error failed => ?_) ?_
      · exact refused_after ready.unwritten rfl fun _ => by simp
      · rintro _ settings ⟨answer, rfl, decoded⟩
        replace decoded : answer = .ok settings := decoded
        subst decoded
        refine Obeys.bind (Obeys.perform fun _ => trivial) ?_
        rintro _ now rfl
        have reading : Ready (past ++ [⟨.settings, .ok settings⟩]) userId id body existing :=
          ready.grow rfl
        have known : Ready (past ++ [⟨.settings, .ok settings⟩] ++ [⟨.now, now⟩]) userId id body
            existing := reading.grow rfl
        refine Obeys.bind (Obeys.ofExcept fun error _ => ?_) ?_
        · exact refused_after reading.unwritten rfl fun _ => by simp
        · rintro _ next ⟨rfl, accepted⟩
          refine ⟨known, known.read, Or.inr ⟨next, rfl, kind, settings, now, parsed, ?_, ?_,
            accepted⟩, known.quota⟩
          · exact List.mem_append_left _ (List.mem_append_right _ (List.mem_singleton_self _))
          · exact List.mem_append_right _ (List.mem_singleton_self _)
  · exact ⟨ready, ready.read, Or.inl ⟨by simpa using untouched, rfl⟩, ready.quota⟩

/-- **`update_task` checks what it read before it writes.** -/
theorem updateTask_obeys (body : UpdateScheduledTask) :
    Obeys (RequestRule cron) Refused (fun _ _ => True) [] (updateTask cron userId id body) := by
  refine Obeys.bind (Obeys.attempt (fun _ => trivial) fun answer error _ => ?_) ?_
  · have reading : PlainPast [⟨.getForUser userId id, answer⟩] := PlainPast.nil.snoc trivial
    exact reading.refused
  · rintro _ found ⟨answer, rfl, decoded⟩
    replace decoded : answer = .ok found := decoded
    subst decoded
    rw [List.nil_append]
    have reading : PlainPast [⟨.getForUser userId id, .ok found⟩] := PlainPast.nil.snoc trivial
    cases found with
    | none => exact reading.refused
    | some existing =>
      have references : ∀ query, ChecksReference query → ChecksReference query :=
        fun _ checks => checks
      have plainOf : ∀ {query}, ChecksReference query → IsPlain query := by
        intro query checks
        cases query <;> first | exact checks | trivial
      refine Obeys.bind ((revalidate_asks references body).obeys
        (fun past query checks answer => IsPlain.rule (plainOf checks)) fun more error clean => ?_)
          ?_
      · exact (reading.append fun event member => plainOf (clean event member)).refused
      · rintro later value ⟨more, clean, rfl⟩
        have plain := reading.append fun event member => plainOf (clean event member)
        refine Obeys.bind (requota_obeys plain (List.mem_append_left _ (List.mem_singleton_self _))
          fun user task row member => ?_) ?_
        · rcases List.mem_append.mp member with member | member
          · cases List.mem_singleton.mp member
            rfl
          · exact (clean _ member).elim
        · intro past value ready
          refine Obeys.bind (recompute_obeys ready) ?_
          rintro past next ⟨ready, updates⟩
          refine Obeys.bind (Obeys.attempt (fun _ => ⟨existing, updates⟩) fun answer error failed =>
            ?_)
            ?_
          · replace failed : answer = .error error := failed
            subst failed
            exact refused_after ready.unwritten rfl fun _ => by simp
          · rintro _ task ⟨answer, rfl, decoded⟩
            replace decoded : answer = .ok task := decoded
            subst decoded
            cases task with
            | some task => trivial
            | none => exact refused_after ready.unwritten rfl fun _ => by simp

end Requests

/-! ### The whole system -/

section System

variable {cron : CronLibrary} {task : ScheduledTask} {now : Instant}

theorem fireTask_plain (task : ScheduledTask) (trigger : RunTrigger) (now : Instant) :
    AsksOnly (I := schedulerPorts) IsPlain (fireTask task trigger now) := by
  refine (fireTask_asks task trigger now).mono fun query asked => ?_
  cases query <;> first | exact asked.elim | trivial

theorem plain_program_obeys {program : SchedulerM Unit} {past : List SchedulerEvent}
    (plain : PlainPast past) (asks : AsksOnly (I := schedulerPorts) IsPlain program) :
    Obeys (RequestRule cron) Refused (fun _ _ => True) past program :=
  (plain_obeys plain asks).mono fun _ _ _ => trivial

theorem Activity.asks_plain (activity : Activity) :
    (∀ userId body, activity ≠ .create userId body) →
    (∀ userId id body, activity ≠ .update userId id body) →
    AsksOnly (I := schedulerPorts) IsPlain (activity.program cron) := by
  intro noCreate noUpdate
  refine activity.asks.mono fun query asked => ?_
  cases activity with
  | tickLoop sweeps =>
    rcases asked with rfl | ⟨now, limit, rfl⟩ | ⟨task, now, asked⟩
    · trivial
    · trivial
    · cases query <;> first | exact asked.elim | trivial
  | create userId body => exact absurd rfl (noCreate userId body)
  | update userId id body => exact absurd rfl (noUpdate userId id body)
  | delete userId id =>
    cases asked
    trivial
  | fireNow userId id => rcases asked with rfl | rfl | ⟨task, now, rfl⟩ <;> trivial
  | prune => rcases asked with rfl | rfl | ⟨cutoff, rfl⟩ <;> trivial

/-- **Every activity obeys the rule of the requests.** -/
theorem Activity.obeys (activity : Activity) :
    Obeys (RequestRule cron) Refused (fun _ _ => True) [] (activity.program cron) := by
  cases activity with
  | create userId body => exact Obeys.bind (createTask_obeys body) fun _ _ _ => trivial
  | update userId id body => exact Obeys.bind (updateTask_obeys body) fun _ _ _ => trivial
  | _ =>
    exact plain_program_obeys PlainPast.nil
      (Activity.asks_plain _ (fun _ _ => nofun) fun _ _ _ => nofun)

theorem startedBy_obeys (event : SchedulerEvent) : ∀ program ∈ scheduler.forks event,
      Obeys (RequestRule cron) Refused (fun _ _ => True) [event] program := by
  obtain ⟨query, answer⟩ := event
  intro program started
  cases query with
  | spawnFiring task trigger now =>
    cases List.mem_singleton.mp started
    exact plain_program_obeys (PlainPast.nil.snoc trivial) (fireTask_plain task trigger now)
  | _ => cases started

variable {activities : List Activity} {shared : Shared}
  {last : Config schedulerPorts AppError Unit Shared}

/-- **Whatever a request writes, it knows what it has to**, in every interleaving. -/
theorem committed {before after : List (Nat × SchedulerEvent)} {thread : Nat}
    {event : SchedulerEvent} (follows : Follows scheduler.Step
      (Activity.config cron activities shared) (before ++ (thread, event) :: after) last) :
    ∃ past, Knows scheduler before thread past ∧ RequestRule cron past event := by
  refine Machine.obeyed (RequestRule cron) Refused (fun _ _ => True) (fun program member => ?_)
    startedBy_obeys follows
  obtain ⟨activity, -, rfl⟩ := List.mem_map.mp member
  exact activity.obeys

/-- **A request that failed wrote nothing**, and for the quota it counted as many as the cap. -/
theorem refused {log : List (Nat × SchedulerEvent)} (cron : CronLibrary)
    (follows : Follows scheduler.Step (Activity.config cron activities shared) log last)
    {thread : Nat} {error : AppError} (failed : last.threads[thread]? = some (.fail error)) :
    ∃ past, Knows scheduler log thread past ∧ Refused past error := by
  refine Machine.raised (RequestRule cron) Refused (fun _ _ => True) (fun program member => ?_)
    startedBy_obeys follows failed
  obtain ⟨activity, -, rfl⟩ := List.mem_map.mp member
  exact activity.obeys

end System

end Ziee.Scheduler
