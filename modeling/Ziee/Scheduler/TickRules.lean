/-
**What the tick knows when it writes and dispatches.**

A sweep reads the clock, claims the due tasks, and goes through them: each is advanced and then
dispatched, or paused. `TickRule` says so of every statement of the loop; `tick_ruled` says that in
an interleaving with one loop the tick's statements are all the loop's, and follow the rule.
-/

import Ziee.Scheduler.RowSteps
import Ziee.Scheduler.Asks

namespace Ziee.Scheduler

open PortProgram Threads Ziee.Providers Ziee.Agent

variable {task : ScheduledTask} {now : Instant} {id : Uuid}

def advance (cron : CronLibrary) (task : ScheduledTask) (now : Instant) : Write :=
  if task.kind = .selfPaced then .disarmSelfPaced task.id now
  else .markFired task.id (advancedTo cron task now) now none

def dispatches (id : Uuid) : SchedulerEvent → Bool
  | ⟨.spawnFiring task .schedule _, _⟩ => task.id = id
  | _ => false

def handles (id : Uuid) : SchedulerEvent → Bool
  | ⟨.execute (.markFired task _ _ _), _⟩ => task = id
  | ⟨.execute (.disarmSelfPaced task _), _⟩ => task = id
  | event => dispatches id event

def claims (id : Uuid) : SchedulerEvent → Bool
  | ⟨.claimDueTasks _ _, .ok rows⟩ => rows.any fun row => row.id = id
  | _ => false

/-- A sweep is done with the task it claimed: it dispatched it, paused it, or could not advance
it. -/
def closes (id : Uuid) : SchedulerEvent → Bool
  | ⟨.execute (.markFired task _ _ reason), answer⟩ =>
    task = id && (reason.isSome || answer.toOption.isNone)
  | ⟨.execute (.disarmSelfPaced task _), answer⟩ => task = id && answer.toOption.isNone
  | event => dispatches id event

def Claimed (kind : SchedulerEvent → Bool) (past : List SchedulerEvent) (task : ScheduledTask)
    (now : Instant) (since : List SchedulerEvent) : Prop :=
  ∃ before rows limit, past = before ++ ⟨.claimDueTasks now limit, (.ok rows :
      Except AppError (List ScheduledTask))⟩ :: since ∧ task ∈ rows ∧
    ((rows.map (·.id)).Nodup → ∀ event ∈ since, kind event = false)

def TickRule (cron : CronLibrary) (past : List SchedulerEvent) (event : SchedulerEvent) : Prop :=
  match event.1 with
  | .claimDueTasks now _ => ∃ before, past = before ++ [⟨.now, now⟩]
  | .execute (.markFired id nextRunAt firedAt reason) => ∃ task since, task.id = id ∧
      Claimed (handles id) past task firedAt since ∧
      (nextRunAt = none ∧ reason = preemptivePauseReason task ∨
        reason = none ∧ task.kind ≠ .selfPaced ∧ nextRunAt = advancedTo cron task firedAt)
  | .execute (.disarmSelfPaced id firedAt) => ∃ task since, task.id = id ∧
      Claimed (handles id) past task firedAt since
  | .spawnFiring task .schedule now => ∃ since, Claimed (closes task.id) past task now
      (since ++ [⟨.execute (advance cron task now), (.ok () : Except AppError Unit)⟩])
  | _ => True

def IsTick : SchedulerQuery → Prop
  | .claimDueTasks _ _ | .execute (.markFired _ _ _ _) | .execute (.disarmSelfPaced _ _) => True
  | .spawnFiring _ .schedule _ => True
  | _ => False

section Rules

variable {cron : CronLibrary} {past : List SchedulerEvent}

theorem Claimed.mono {kind kind' : SchedulerEvent → Bool}
    {since : List SchedulerEvent} (imp : ∀ event, kind event = false → kind' event = false)
    (claimed : Claimed kind past task now since) : Claimed kind' past task now since := by
  obtain ⟨before, rows, limit, same, member, fresh⟩ := claimed
  exact ⟨before, rows, limit, same, member, fun nodup event among =>
    imp event (fresh nodup event among)⟩

theorem not_closes_of_not_handles (event : SchedulerEvent)
    (quiet : handles id event = false) : closes id event = false := by
  unfold handles at quiet
  split at quiet
  · simp [closes, quiet]
  · simp [closes, quiet]
  · rename_i noMark noDisarm
    unfold closes
    split
    · exact absurd rfl (noMark _ _ _ _ _)
    · exact absurd rfl (noDisarm _ _ _)
    · exact quiet

theorem not_dispatches_of_not_closes (event : SchedulerEvent)
    (quiet : closes id event = false) : dispatches id event = false := by
  unfold closes at quiet
  split at quiet
  · rfl
  · rfl
  · exact quiet

theorem not_closes_advance {cron : CronLibrary} :
    closes id ⟨.execute (advance cron task now), (.ok () : Except AppError Unit)⟩ = false := by
  unfold advance
  by_cases paced : task.kind = .selfPaced
  · rw [if_pos paced]
    simp [closes, Except.toOption]
  · rw [if_neg paced]
    simp [closes, Except.toOption]

theorem not_handles_advance (ne : id ≠ task.id) (answer : Except AppError Unit) :
    handles id ⟨.execute (if task.kind = .selfPaced then .disarmSelfPaced task.id now
      else .markFired task.id (advancedTo cron task now) now none), answer⟩ = false := by
  by_cases paced : task.kind = .selfPaced
  · rw [if_pos paced]
    exact decide_eq_false (Ne.symm ne)
  · rw [if_neg paced]
    exact decide_eq_false (Ne.symm ne)

/-! ### The sweep -/

/-- **One claimed task** is advanced and dispatched, or paused; no other is. -/
theorem fireDue_obeys {since : List SchedulerEvent}
    (claimed : Claimed (handles task.id) past task now since) :
    Obeys (TickRule cron) (fun _ _ => True) (fun later _ => ∃ more, later = past ++ more ∧
      ∀ id, id ≠ task.id → ∀ event ∈ more, handles id event = false) past
      (fireDue cron task now) := by
  unfold fireDue
  split
  · rename_i reason _
    intro written
    refine ⟨⟨task, since, rfl, claimed, Or.inl ⟨rfl, Eq.symm ‹_›⟩⟩, fun inserted => ⟨trivial, ?_⟩⟩
    refine ⟨[⟨.execute (.markFired task.id none now (some reason)), written⟩,
      ⟨.insertRun (pausedRow task reason now), inserted⟩], by simp, fun id ne event member => ?_⟩
    simp only [List.mem_cons, List.not_mem_nil, or_false] at member
    rcases member with rfl | rfl
    · exact decide_eq_false (Ne.symm ne)
    · rfl
  · intro advanced
    refine ⟨?_, ?_⟩
    · by_cases paced : task.kind = .selfPaced
      · rw [if_pos paced]
        exact ⟨task, since, rfl, claimed⟩
      · rw [if_neg paced]
        exact ⟨task, since, rfl, claimed, Or.inr ⟨rfl, paced, rfl⟩⟩
    · cases advanced with
      | error error =>
        refine ⟨_, rfl, fun id ne event member => ?_⟩
        rw [List.mem_singleton.mp member]
        exact not_handles_advance ne _
      | ok _ =>
        refine fun spawned => ⟨?_, ?_⟩
        · obtain ⟨before, rows, limit, same, member, fresh⟩ := claimed
          refine ⟨since, before, rows, limit, ?_, member, fun nodup event member => ?_⟩
          · rw [same, List.append_assoc]
            rfl
          · rcases List.mem_append.mp member with member | member
            · exact not_closes_of_not_handles event (fresh nodup event member)
            · rw [List.mem_singleton.mp member]
              exact not_closes_advance
        · refine ⟨_, List.append_assoc _ _ _, fun id ne event member => ?_⟩
          rcases List.mem_append.mp member with member | member
          · rw [List.mem_singleton.mp member]
            exact not_handles_advance ne _
          · rw [List.mem_singleton.mp member]
            exact decide_eq_false (Ne.symm ne)

theorem sweep_obeys {rows : List ScheduledTask} {limit : Nat} {before : List SchedulerEvent} :
    ∀ (due : List ScheduledTask) (since : List SchedulerEvent), (∀ task ∈ due, task ∈ rows) →
    ((rows.map (·.id)).Nodup → (due.map (·.id)).Nodup ∧
      ∀ task ∈ due, ∀ event ∈ since, handles task.id event = false) →
    Obeys (TickRule cron) (fun _ _ => True) (fun _ _ => True)
      (before ++ ⟨.claimDueTasks now limit, (.ok rows : Except AppError (List ScheduledTask))⟩ ::
        since) (sweep cron now due)
  | [], _, _, _ => trivial
  | task :: rest, since, claimed, fresh => by
    have here : Claimed (handles task.id) (before ++ ⟨.claimDueTasks now limit, (.ok rows :
        Except AppError (List ScheduledTask))⟩ :: since) task now since :=
      ⟨before, rows, limit, rfl, claimed task (by simp), fun nodup =>
        (fresh nodup).2 task (by simp)⟩
    refine Obeys.bind (fireDue_obeys here) ?_
    rintro _ value ⟨more, rfl, others⟩
    rw [List.append_assoc]
    refine sweep_obeys rest (since ++ more) (fun task member => claimed task (by simp [member]))
      fun nodup => ?_
    obtain ⟨distinct, quiet⟩ := fresh nodup
    rw [List.map_cons, List.nodup_cons] at distinct
    refine ⟨distinct.2, fun other member event event_mem => ?_⟩
    rcases List.mem_append.mp event_mem with event_mem | event_mem
    · exact quiet other (by simp [member]) event event_mem
    · refine others other.id (fun same => distinct.1 ?_) event event_mem
      exact same ▸ List.mem_map_of_mem member

theorem runOnce_obeys : Obeys (TickRule cron) (fun _ _ => True) (fun _ _ => True) past
    (runOnce cron) := by
  refine fun now => ⟨trivial, fun due => ⟨⟨past, rfl⟩, ?_⟩⟩
  cases due with
  | error error => exact trivial
  | ok rows => exact sweep_obeys rows [] (fun _ member => member) fun nodup => ⟨nodup, by simp⟩

theorem runTickLoop_obeys : ∀ (sweeps : Nat) (past : List SchedulerEvent),
    Obeys (TickRule cron) (fun _ _ => True) (fun _ _ => True) past (runTickLoop cron sweeps)
  | 0, _ => trivial
  | sweeps + 1, _ => Obeys.bind runOnce_obeys fun later _ _ => runTickLoop_obeys sweeps later

end Rules

/-! ### The whole system -/

section System

variable {cron : CronLibrary} {activities : List Activity} {shared : Shared}
  {last : Config schedulerPorts AppError Unit Shared} {log : List (Nat × SchedulerEvent)}

def Activity.isTickLoop : Activity → Bool
  | .tickLoop _ => true
  | _ => false

theorem Activity.asks_not_tick {activity : Activity} (other : activity.isTickLoop = false) :
    AsksOnly (I := schedulerPorts) (fun query => ¬ IsTick query) (activity.program cron) := by
  refine activity.asks.mono fun query asked => ?_
  cases activity with
  | tickLoop sweeps => cases other
  | create | update => cases query <;> first | exact asked.elim | exact fun tick => tick
  | delete userId id =>
    cases asked
    exact fun tick => tick
  | fireNow userId id => rcases asked with rfl | rfl | ⟨task, now, rfl⟩ <;> exact fun tick => tick
  | prune => rcases asked with rfl | rfl | ⟨cutoff, rfl⟩ <;> exact fun tick => tick

theorem startedBy_asks_not_tick (event : SchedulerEvent) : ∀ program ∈ scheduler.forks event,
      AsksOnly (I := schedulerPorts) (fun query => ¬ IsTick query) program := by
  obtain ⟨query, answer⟩ := event
  intro program started
  cases query with
  | spawnFiring task trigger now =>
    cases List.mem_singleton.mp started
    refine (fireTask_asks task trigger now).mono fun query asked => ?_
    cases query with
    | execute write => cases write <;> first | exact asked.elim | exact fun tick => tick
    | _ => first | exact asked.elim | exact fun tick => tick
  | _ => cases started

/-- **The tick's statements are the loop's.** -/
theorem tick_thread (follows : Follows scheduler.Step
    (Activity.config cron activities shared) log last)
    {thread : Nat} {event : SchedulerEvent} (member : (thread, event) ∈ log)
    (tick : IsTick event.1) :
    ∃ activity, activities[thread]? = some activity ∧ activity.isTickLoop = true := by
  by_contra other
  refine Machine.asked (fun query => ¬ IsTick query) (fun program found => ?_)
    startedBy_asks_not_tick follows event (mem_own.mpr member) tick
  have start : (activities.map (Activity.program cron))[thread]? = some program := found
  rw [List.getElem?_map] at start
  obtain ⟨activity, here, rfl⟩ := Option.map_eq_some_iff.mp start
  exact Activity.asks_not_tick (eq_false_of_ne_true fun loop => other ⟨activity, here, loop⟩)

/-- **The tick's statements follow its rule**, in every interleaving. -/
theorem tick_ruled {before after : List (Nat × SchedulerEvent)} {thread : Nat}
    {event : SchedulerEvent} (follows : Follows scheduler.Step
      (Activity.config cron activities shared)
      (before ++ (thread, event) :: after) last) (tick : IsTick event.1) :
    TickRule cron (own thread before) event := by
  have member : (thread, event) ∈ before ++ (thread, event) :: after := by simp
  obtain ⟨activity, here, loop⟩ := tick_thread follows member tick
  refine Machine.obeyed_own (TickRule cron) (fun _ _ => True) (fun _ _ => True)
    (fun program found => ?_) ?_ follows
  · have start : (activities.map (Activity.program cron))[thread]? = some program := found
    rw [List.getElem?_map, here] at start
    cases activity with
    | tickLoop sweeps =>
      cases start
      exact runTickLoop_obeys sweeps []
    | _ => cases loop
  · show thread < (activities.map (Activity.program cron)).length
    rw [List.length_map]
    exact (List.getElem?_eq_some_iff.mp here).1

end System

end Ziee.Scheduler
