/-
**No task is dispatched twice for one instant.**

The tick writes the next instant of a task before it dispatches it, so the same sweep and every
later one find the task not due until then. The exception is an instant outside the range of a
signed 64-bit count of nanoseconds: it is stored as the epoch, and the task is due again at once.

* `armsRow` — who else arms a task: a request, or the write-back of a firing.
* `epoch_refires` — a cron expression that matches only after 2262 fires at every tick.
-/

import Ziee.Scheduler.TickRules
import Ziee.Scheduler.ValidRows

namespace Ziee.Scheduler

open PortProgram Threads Ziee.Providers Ziee.Agent

/-- A statement other than the tick's that writes an instant to the task's `next_run_at`. -/
def armsRow (id : Uuid) : SchedulerEvent → Bool
  | ⟨.insert _ _ _, .ok row⟩ => row.id = id
  | ⟨.update _ task _ (some _), .ok (some _)⟩ => task = id
  | ⟨.execute (.armSelfPaced task (.fire _) _ _), .ok _⟩ => task = id
  | _ => false

/-- **What a claim leads to fits the columns**: the instant of the tick, and the next occurrence of
every claimed task after it. -/
def claimsFit (cron : CronLibrary) : SchedulerEvent → Bool
  | ⟨.claimDueTasks now _, .ok rows⟩ => decide (Instant.Representable now) &&
    rows.all fun task => (advancedTo cron task now).all fun next =>
      decide (Instant.Representable next)
  | _ => true

/-- **The task is spent**: it is not armed before or at the instant, and not at all unless it
recurs. -/
structure ScheduledTask.Spent (kind : ScheduleKind) (now : Instant)
    (row : ScheduledTask) : Prop where
  later : ∀ next, row.nextRunAt = some next → now < next
  once : kind ≠ .recurring → row.nextRunAt = none

section Rows

variable {cron : CronLibrary} {kind : ScheduleKind} {now firedAt : Instant} {row : ScheduledTask}
  {task : ScheduledTask} {id : Uuid}

theorem isDue_iff : row.isDue now = true ↔ row.enabled = true ∧ row.pausedReason = none ∧
    ∃ next, row.nextRunAt = some next ∧ next ≤ toOffset now := by
  simp [ScheduledTask.isDue, and_assoc, Option.any_eq_true]

theorem ScheduledTask.Spent.not_due (spent : row.Spent kind now)
    (fits : Instant.Representable now) : row.isDue now = false := by
  refine Bool.eq_false_iff.mpr fun due => ?_
  obtain ⟨-, -, next, armed, early⟩ := isDue_iff.mp due
  rw [toOffset_of_representable fits] at early
  exact absurd (spent.later next armed) (Int.not_lt.mpr early)

theorem advancedTo_some (advances : cron.Advances) {next : Instant}
    (found : advancedTo cron task now = some next) (paced : task.kind ≠ .selfPaced) :
    now < next ∧ task.kind = .recurring := by
  unfold advancedTo at found
  split at found
  · rename_i occurrence computed
    split at found
    · cases found
    · rename_i recurs
      subst found
      refine ⟨(nextOccurrence_after advances computed).2 paced, ?_⟩
      cases kind : task.kind with
      | once => exact absurd kind recurs
      | recurring => rfl
      | selfPaced => exact absurd kind paced
  · cases found

/-- **Advancing spends the task.** -/
theorem spent_of_advance (advances : cron.Advances)
    (fits : ((advancedTo cron task now).all fun next => decide (Instant.Representable next)) =
      true) :
    ((advance cron task now).update row).Spent task.kind now := by
  unfold advance
  split
  · exact ⟨fun next armed => (by cases armed), fun _ => rfl⟩
  · rename_i paced
    cases found : advancedTo cron task now with
    | none => exact ⟨fun next armed => (by cases armed), fun _ => rfl⟩
    | some next =>
      rw [found] at fits
      obtain ⟨later, recurs⟩ := advancedTo_some advances found paced
      refine ⟨fun stored armed => ?_, fun once => absurd recurs once⟩
      replace armed : some (toOffset next) = some stored := armed
      rw [toOffset_of_representable (by simpa using fits)] at armed
      exact Option.some.inj armed ▸ later

/-- **A step that does not arm the task** leaves it spent, if what the tick writes is late
enough. -/
theorem RowStep.spent {event : SchedulerEvent} {before : Option ScheduledTask}
    (step : RowStep id event before (some row)) (unarmed : armsRow id event = false)
    (marks : ∀ next firedAt reason, event.1 = .execute (.markFired id (some next) firedAt reason) →
      now < toOffset next ∧ kind = .recurring)
    (spent : ∀ old, before = some old → old.Spent kind now) : row.Spent kind now := by
  generalize after : some row = last at step
  cases step with
  | same leaves => exact spent row after.symm
  | @write write _ target =>
    obtain ⟨old, rfl, rfl⟩ := Option.map_eq_some_iff.mp after.symm
    have held := spent old rfl
    subst target
    cases write with
    | markFired task next firedAt reason =>
      cases next with
      | none => exact ⟨fun next armed => (by cases armed), fun _ => rfl⟩
      | some next =>
        obtain ⟨late, recurs⟩ := marks next firedAt reason rfl
        refine ⟨fun stored armed => ?_, fun once => absurd recurs once⟩
        replace armed : some (toOffset next) = some stored := armed
        exact Option.some.inj armed ▸ late
    | disarmSelfPaced task firedAt => exact ⟨fun next armed => (by cases armed), fun _ => rfl⟩
    | armSelfPaced task outcome firedAt reason =>
      cases outcome with
      | fire instant => simp [armsRow, Write.target] at unarmed
      | disable => exact ⟨fun next armed => (by cases armed), fun _ => rfl⟩
    | recordOutcome | setBoundConversation => exact ⟨held.later, held.once⟩
  | binds conversationId owner =>
    obtain ⟨old, rfl, rfl⟩ := Option.map_eq_some_iff.mp after.symm
    exact ⟨(spent old rfl).later, (spent old rfl).once⟩
  | @updates userId upd nextRunAt old _ owner stored =>
    cases after
    obtain ⟨name, -, -, rfl⟩ := ScheduledTask.stored?_eq_some_iff.mp stored
    cases nextRunAt with
    | none => exact ⟨(spent old rfl).later, (spent old rfl).once⟩
    | some next => simp [armsRow] at unarmed
  | inserts stored =>
    cases after
    obtain ⟨name, -, -, rfl⟩ := ScheduledTask.stored?_eq_some_iff.mp stored
    simp [armsRow, insertedRow] at unarmed
  | deletes owner => cases after

end Rows

/-! ### Claims -/

section Claims

variable {cron : CronLibrary} {activities : List Activity} {shared : Shared}
  {last : Config schedulerPorts AppError Unit Shared} {task : ScheduledTask} {now : Instant}

theorem tickLoop_unique (single : activities.countP Activity.isTickLoop ≤ 1) {one two : Nat}
    {first second : Activity} (here : activities[one]? = some first)
    (there : activities[two]? = some second) (loop : first.isTickLoop = true)
    (loop' : second.isTickLoop = true) : one = two := by
  induction activities generalizing one two with
  | nil => cases here
  | cons activity rest ih =>
    rw [List.countP_cons] at single
    have later : ∀ {index : Nat} {other : Activity}, rest[index]? = some other →
        other.isTickLoop = true → 0 < rest.countP Activity.isTickLoop := fun found loops =>
      List.countP_pos_iff.mpr ⟨_, List.mem_of_getElem? found, loops⟩
    cases one with
    | zero =>
      cases two with
      | zero => rfl
      | succ two =>
        cases here
        have more := later there loop'
        rw [if_pos loop] at single
        omega
    | succ one =>
      cases two with
      | zero =>
        cases there
        have more := later here loop
        rw [if_pos loop'] at single
        omega
      | succ two => rw [ih (by omega) here there]

/-- **A task that is written or dispatched after a dispatch of it was claimed after it**, at an
instant that was read later. -/
theorem claimed_after {start : Config schedulerPorts AppError Unit Shared}
    {head middle : List (Nat × SchedulerEvent)} {state : Config schedulerPorts AppError Unit Shared}
    {thread : Nat} {dispatch : SchedulerEvent} {since : List SchedulerEvent}
    (follows : Follows scheduler.Step start (head ++ (thread, dispatch) :: middle) state)
    (dispatched : dispatches task.id dispatch = true)
    (claimed : Claimed (closes task.id) (own thread (head ++ (thread, dispatch) :: middle)) task now
      since) :
    ∃ rows limit before after, middle = before ++ (thread, ⟨.claimDueTasks now limit, (.ok rows :
        Except AppError (List ScheduledTask))⟩) :: after ∧ task ∈ rows := by
  obtain ⟨before, rows, limit, same, member, fresh⟩ := claimed
  have claim : (thread, (⟨.claimDueTasks now limit, (.ok rows : Except AppError
      (List ScheduledTask))⟩ : SchedulerEvent)) ∈ head ++ (thread, dispatch) :: middle :=
    mem_own.mp (same ▸ by simp)
  obtain ⟨_, _, _, _, -, -, answers, -⟩ := answered_at follows claim
  have quiet : ∀ event ∈ since, dispatches task.id event = false := fun event member =>
    not_dispatches_of_not_closes event (fresh answers.claim_ok.2.1 event member)
  rw [own_append, own_cons_self] at same
  obtain ⟨between, rest⟩ := after_of_not_mem same
    (fun equal => by rw [equal] at dispatched; cases dispatched)
    (fun absent => by rw [quiet dispatch absent] at dispatched; cases dispatched)
  obtain ⟨first, second, rfl, -, -⟩ := own_split rest
  exact ⟨rows, limit, first, second, rfl, member⟩

structure ClaimedSpent (cron : CronLibrary) (kind : ScheduleKind) (now : Instant)
    (later : Instant) (task : ScheduledTask) : Prop where
  spent : task.Spent kind now
  due : task.isDue later = true
  after : now ≤ later
  fits : ((advancedTo cron task later).all fun next => decide (Instant.Representable next)) = true

theorem ClaimedSpent.armed {kind : ScheduleKind} {later : Instant}
    (claimed : ClaimedSpent cron kind now later task) :
    (∃ next, task.nextRunAt = some next ∧ now < next) ∧ kind = .recurring := by
  obtain ⟨-, -, next, armed, -⟩ := isDue_iff.mp claimed.due
  refine ⟨⟨next, armed, claimed.spent.later next armed⟩, ?_⟩
  by_contra once
  rw [claimed.spent.once once] at armed
  cases armed

theorem claim_read {before after : List (Nat × SchedulerEvent)} {thread : Nat} {later : Instant}
    {limit : Nat} {rows : List ScheduledTask} {first : List (Nat × SchedulerEvent)}
    {event : SchedulerEvent}
    (follows : Follows scheduler.Step (Activity.config cron activities shared)
      (first ++ [(thread, event)] ++ (before ++ (thread, ⟨.claimDueTasks later limit, (.ok rows :
        Except AppError (List ScheduledTask))⟩) :: after)) last)
    (other : ∀ instant, event ≠ ⟨.now, instant⟩) : (thread, ⟨.now, later⟩) ∈ before := by
  rw [← List.append_assoc] at follows
  obtain ⟨past, same⟩ : ∃ past, own thread (first ++ [(thread, event)] ++ before) =
      past ++ [(⟨.now, later⟩ : SchedulerEvent)] := tick_ruled follows trivial
  rw [List.append_assoc, own_append, List.singleton_append, own_cons_self] at same
  have member : (⟨.now, later⟩ : SchedulerEvent) ∈ own thread before := by
    obtain ⟨middle, rest⟩ := after_of_not_mem same (other later) (by simp)
    rw [rest]
    simp
  exact mem_own.mp member

end Claims

/-! ### Dispatches -/

section Dispatches

variable {cron : CronLibrary} {activities : List Activity} {shared : Shared}
  {last : Config schedulerPorts AppError Unit Shared} {task : ScheduledTask} {now : Instant}

def ClaimsSpent (cron : CronLibrary) (kind : ScheduleKind) (now : Instant) (id : Uuid)
    (log : List (Nat × SchedulerEvent)) : Prop :=
  ∀ thread later limit rows, (thread, ⟨.claimDueTasks later limit, (.ok rows :
    Except AppError (List ScheduledTask))⟩) ∈ log →
    ∀ row ∈ rows, row.id = id → ClaimedSpent cron kind now later row

theorem isTick_of_dispatches {id : Uuid} {event : SchedulerEvent}
    (dispatched : dispatches id event = true) : IsTick event.1 := by
  unfold dispatches at dispatched
  split at dispatched
  · trivial
  · cases dispatched

section Stretch

variable {head between after done rest : List (Nat × SchedulerEvent)} {thread index : Nat}
  {dispatch label : SchedulerEvent} {state config : Config schedulerPorts AppError Unit Shared}

theorem tick_index (single : activities.countP Activity.isTickLoop ≤ 1)
    {log : List (Nat × SchedulerEvent)} {id : Uuid}
    (follows : Follows scheduler.Step (Activity.config cron activities shared) log last)
    (dispatched : dispatches id dispatch = true) (there : (thread, dispatch) ∈ log)
    (here : (index, label) ∈ log) (tick : IsTick label.1) : index = thread := by
  obtain ⟨one, atOne, loop⟩ := tick_thread follows here tick
  obtain ⟨two, atTwo, loop'⟩ := tick_thread follows there (isTick_of_dispatches dispatched)
  exact tickLoop_unique single atOne atTwo loop loop'

theorem claimed_spent {first : List (Nat × SchedulerEvent)} {other : ScheduledTask}
    {firedAt : Instant} {since : List SchedulerEvent}
    (follows : Follows scheduler.Step (Activity.config cron activities shared)
      (head ++ (between ++ (thread, dispatch) :: first)) config)
    (dispatched : dispatches task.id dispatch = true) (owner : other.id = task.id)
    (claimed : Claimed (closes other.id)
      (own thread (head ++ (between ++ (thread, dispatch) :: first))) other firedAt since)
    (claims : ClaimsSpent cron task.kind now task.id (between ++ (thread, dispatch) :: first)) :
    ClaimedSpent cron task.kind now firedAt other := by
  rw [← owner] at dispatched
  rw [← List.append_assoc] at follows claimed
  obtain ⟨rows, limit, early, late, rfl, member⟩ := claimed_after follows dispatched claimed
  exact claims thread firedAt limit rows (by simp) other member owner

/-- **What the tick writes for the task later** is later than the instant it was spent at. -/
theorem marks_later (advances : cron.Advances) (single : activities.countP Activity.isTickLoop ≤ 1)
    (follows : Follows scheduler.Step (Activity.config cron activities shared)
      (head ++ (done ++ (index, label) :: rest)) last)
    (sofar : Follows scheduler.Step (Activity.config cron activities shared) (head ++ done) config)
    (same : between ++ (thread, dispatch) :: after = done ++ (index, label) :: rest)
    (direct : own thread between = []) (dispatched : dispatches task.id dispatch = true)
    (claims : ClaimsSpent cron task.kind now task.id done) {next firedAt : Instant}
    {reason : Option String}
    (marks : label.1 = .execute (.markFired task.id (some next) firedAt reason)) :
    now < toOffset next ∧ task.kind = .recurring := by
  have there : (thread, dispatch) ∈ head ++ (done ++ (index, label) :: rest) := by
    rw [← same]
    simp
  have here : (index, label) ∈ head ++ (done ++ (index, label) :: rest) := by simp
  obtain rfl := tick_index single follows dispatched there here (by rw [marks]; trivial)
  obtain ⟨query, answer⟩ := label
  subst marks
  rw [← List.append_assoc] at follows
  obtain ⟨other, since, owner, claimed, computed⟩ := tick_ruled follows trivial
  rw [← owner] at claimed
  obtain ⟨-, paced, computed⟩ := computed.resolve_left (by simp)
  rcases split_cases same with ⟨more, rfl, -⟩ | ⟨now, -, -⟩ | ⟨first, rfl, -⟩
  · rw [own_append, own_cons_self] at direct
    exact absurd direct (by simp)
  · rw [(Prod.mk.inj now).2.symm] at dispatched
    cases dispatched
  · have found := claimed_spent sofar dispatched owner
      (claimed.mono not_closes_of_not_handles) claims
    have fits := found.fits
    rw [← computed] at fits
    rw [toOffset_of_representable (by simpa using fits)]
    exact ⟨Int.lt_of_le_of_lt found.after (advancedTo_some advances computed.symm paced).1,
      found.armed.2⟩

/-- **After the advance the task stays spent**, and whatever claims it later finds it spent. -/
theorem spent_stretch (advances : cron.Advances)
    (single : activities.countP Activity.isTickLoop ≤ 1)
    {before : List (Nat × SchedulerEvent)} {event : SchedulerEvent}
    (head : Follows scheduler.Step (Activity.config cron activities shared)
      (before ++ [(thread, event)]) state)
    (tail : Follows (scheduler.Guarded fun _ label => claimsFit cron label.2 = true) state
      (between ++ (thread, dispatch) :: after) last)
    (direct : own thread between = []) (dispatched : dispatches task.id dispatch = true)
    (other : ∀ instant, event ≠ ⟨.now, instant⟩) (clock : now ≤ state.shared.clock)
    (unarmed : ∀ label ∈ between ++ (thread, dispatch) :: after, armsRow task.id label.2 = false)
    (start : ∀ row, state.shared.tasks.find task.id = some row → row.Spent task.kind now) :
    (∀ row, last.shared.tasks.find task.id = some row → row.Spent task.kind now) ∧
      ClaimsSpent cron task.kind now task.id (between ++ (thread, dispatch) :: after) := by
  have follows : Follows scheduler.Step (Activity.config cron activities shared)
      (before ++ [(thread, event)] ++ (between ++ (thread, dispatch) :: after)) last :=
    Follows.append_iff.mpr ⟨state, head, tail.mono fun step => step.2⟩
  refine preserves_split tail (fun done config =>
    (∀ row, config.shared.tasks.find task.id = some row → row.Spent task.kind now) ∧
      ClaimsSpent cron task.kind now task.id done) ?_ ⟨start, nofun⟩
  rintro done ⟨index, label⟩ rest config config' same sofar ⟨rows, claims⟩ ⟨fits, step⟩
  have steps := sofar.mono fun step => step.2
  have prior := Follows.append_iff.mpr ⟨state, head, steps⟩
  have silent : armsRow task.id label = false := unarmed (index, label) (by rw [same]; simp)
  have whole := follows
  rw [same] at whole
  cases step with
  | @act _ _ _ _ query _ answer _ answers =>
    refine ⟨fun row found => ?_, fun one later limit claimed member row among owner => ?_⟩
    · have rowStep := Answers.rowStep answers task.id
      rw [found] at rowStep
      exact rowStep.spent silent (fun next firedAt reason marks =>
        marks_later advances single whole prior same direct dispatched claims marks) rows
    · rcases List.mem_append.mp member with old | new
      · exact claims one later limit claimed old row among owner
      · obtain ⟨rfl, same'⟩ := Prod.mk.inj (List.mem_singleton.mp new)
        cases same'
        obtain ⟨-, -, due⟩ := Answers.claim_ok answers
        obtain ⟨there, isDue⟩ := due row among
        rw [owner] at there
        have member' : (thread, dispatch) ∈ before ++ [(thread, event)] ++
            (between ++ (thread, dispatch) :: after) := by simp
        have mine : (one, (⟨.claimDueTasks later limit, (.ok claimed : Except AppError
            (List ScheduledTask))⟩ : SchedulerEvent)) ∈ before ++ [(thread, event)] ++
            (between ++ (thread, dispatch) :: after) := by
          rw [same]
          simp
        obtain rfl := tick_index single follows dispatched member' mine trivial
        have read : (one, (⟨.now, later⟩ : SchedulerEvent)) ∈ done := claim_read whole other
        refine ⟨rows row there, isDue, Int.le_trans clock (clock_read steps read).1, ?_⟩
        simp only [claimsFit, Bool.and_eq_true] at fits
        exact List.all_eq_true.mp fits.2 row among

/-- **A later dispatch of the task** claimed it after it was spent. -/
theorem later_dispatch (single : activities.countP Activity.isTickLoop ≤ 1)
    {middle : List (Nat × SchedulerEvent)} {snapshot : ScheduledTask} {later : Instant}
    (follows : Follows scheduler.Step (Activity.config cron activities shared)
      (head ++ (between ++ (thread, dispatch) :: (middle ++
        (index, ⟨.spawnFiring snapshot .schedule later, ()⟩) :: rest))) last)
    (dispatched : dispatches task.id dispatch = true) (same : snapshot.id = task.id)
    (claims : ClaimsSpent cron task.kind now task.id (between ++ (thread, dispatch) :: (middle ++
      (index, ⟨.spawnFiring snapshot .schedule later, ()⟩) :: rest))) :
    ClaimedSpent cron task.kind now later snapshot := by
  have here : (index, (⟨.spawnFiring snapshot .schedule later, ()⟩ : SchedulerEvent)) ∈ head ++
      (between ++ (thread, dispatch) :: (middle ++
        (index, ⟨.spawnFiring snapshot .schedule later, ()⟩) :: rest)) := by simp
  have there : (thread, dispatch) ∈ head ++ (between ++ (thread, dispatch) :: (middle ++
      (index, ⟨.spawnFiring snapshot .schedule later, ()⟩) :: rest)) := by simp
  obtain rfl := tick_index single follows dispatched there here trivial
  have grouped : head ++ (between ++ (index, dispatch) :: (middle ++
        (index, (⟨.spawnFiring snapshot .schedule later, ()⟩ : SchedulerEvent)) :: rest)) =
      (head ++ (between ++ (index, dispatch) :: middle)) ++
        (index, ⟨.spawnFiring snapshot .schedule later, ()⟩) :: rest := by simp
  rw [grouped] at follows
  obtain ⟨since, claimed⟩ : ∃ since, Claimed (closes snapshot.id) (own index
      (head ++ (between ++ (index, dispatch) :: middle))) snapshot later
      (since ++ [(⟨.execute (advance cron snapshot later), (.ok () : Except AppError Unit)⟩ :
        SchedulerEvent)]) := tick_ruled follows trivial
  obtain ⟨_, sofar, -⟩ := Follows.append_iff.mp follows
  refine claimed_spent sofar dispatched same claimed fun one at' limit rows member => ?_
  refine claims one at' limit rows ?_
  rw [← List.cons_append, ← List.append_assoc]
  exact List.mem_append_left _ member

end Stretch

/-- **What a dispatch guarantees.** The task was due, and the thread advanced it right before. Until
something else arms the task, it is not due again at that instant; and it is not dispatched again,
unless it recurs, and then for a later instant than this dispatch's. -/
def DispatchedOnce (cron : CronLibrary) (before after : List (Nat × SchedulerEvent)) (thread : Nat)
    (task : ScheduledTask) (now : Instant) (last : Shared) : Prop :=
  ∃ first between due, before = first ++ (thread, (⟨.execute (advance cron task now), (.ok () :
      Except AppError Unit)⟩ : SchedulerEvent)) :: between ∧ own thread between = [] ∧
    task.nextRunAt = some due ∧ due ≤ now ∧
    ((∀ label ∈ between ++ after, armsRow task.id label.2 = false) →
      (∀ row, last.tasks.find task.id = some row → row.isDue now = false) ∧
      ∀ index later snapshot, (index, (⟨.spawnFiring snapshot .schedule later, ()⟩ :
        SchedulerEvent)) ∈ after → snapshot.id = task.id →
        task.kind = .recurring ∧ ∃ next, snapshot.nextRunAt = some next ∧ now < next)

section Dispatch

variable {before after : List (Nat × SchedulerEvent)} {thread : Nat}

theorem dispatch_split (follows : Follows scheduler.Step (Activity.config cron activities shared)
      (before ++ (thread, ⟨.spawnFiring task .schedule now, ()⟩) :: after) last) :
    ∃ one two between rows limit, before = (one ++ (thread, (⟨.claimDueTasks now limit, (.ok rows :
        Except AppError (List ScheduledTask))⟩ : SchedulerEvent)) :: two) ++
        (thread, (⟨.execute (advance cron task now), (.ok () : Except AppError Unit)⟩ :
          SchedulerEvent)) :: between ∧
      task ∈ rows ∧ own thread between = [] := by
  obtain ⟨since, head, rows, limit, same, member, -⟩ : ∃ since, Claimed (closes task.id)
      (own thread before) task now
      (since ++ [(⟨.execute (advance cron task now), (.ok () : Except AppError Unit)⟩ :
        SchedulerEvent)]) := tick_ruled follows trivial
  rw [← List.cons_append, ← List.append_assoc] at same
  obtain ⟨first, between, rfl, owned, quiet⟩ := own_split same
  obtain ⟨one, two, rfl, -, -⟩ := own_split owned
  exact ⟨one, two, between, rows, limit, rfl, member, quiet⟩

theorem claim_due {one rest : List (Nat × SchedulerEvent)} {limit : Nat} {rows : List ScheduledTask}
    (follows : Follows (scheduler.Guarded fun _ label => claimsFit cron label.2 = true)
      (Activity.config cron activities shared)
      (one ++ (thread, ⟨.claimDueTasks now limit, (.ok rows :
        Except AppError (List ScheduledTask))⟩) :: rest) last) (member : task ∈ rows) :
    task.isDue now = true ∧ Instant.Representable now ∧
      ((advancedTo cron task now).all fun next => decide (Instant.Representable next)) = true := by
  obtain ⟨config, -, tail⟩ := Follows.append_iff.mp follows
  cases tail with
  | cons guarded _ =>
    obtain ⟨fits, step⟩ := guarded
    simp only [claimsFit, Bool.and_eq_true, decide_eq_true_eq] at fits
    cases step with
    | act _ answers =>
      obtain ⟨-, -, due⟩ := Answers.claim_ok answers
      exact ⟨(due task member).2, fits.1, List.all_eq_true.mp fits.2 task member⟩

theorem spent_after {first : List (Nat × SchedulerEvent)} (advances : cron.Advances)
    (fits : ((advancedTo cron task now).all fun next => decide (Instant.Representable next)) = true)
    (follows : Follows scheduler.Step (Activity.config cron activities shared)
      (first ++ [(thread, ⟨.execute (advance cron task now), (.ok () : Except AppError Unit)⟩)])
      last) :
    ∀ row, last.shared.tasks.find task.id = some row → row.Spent task.kind now := by
  intro row found
  obtain ⟨state, -, step⟩ := Follows.append_iff.mp follows
  have target : (advance cron task now).target = task.id := by
    unfold advance
    split <;> rfl
  cases Follows.singleton_iff.mp step with
  | act _ answers =>
    cases Answers.execute_ok answers
    dsimp only at found
    rw [Shared.find_write, if_pos target] at found
    obtain ⟨old, -, rfl⟩ := Option.map_eq_some_iff.mp found
    exact spent_of_advance advances fits

/-- **No instant of a task is dispatched twice**, in every interleaving with one tick loop in which
every instant a claim leads to fits the columns. -/
theorem dispatched_once (cron : CronLibrary) (advances : cron.Advances) (activities : List Activity)
    (single : activities.countP Activity.isTickLoop ≤ 1) {shared : Shared}
    {last : Config schedulerPorts AppError Unit Shared}
    {before after : List (Nat × SchedulerEvent)} {thread : Nat} {task : ScheduledTask}
    {now : Instant}
    (follows : Follows (scheduler.Guarded fun _ label => claimsFit cron label.2 = true)
      (Activity.config cron activities shared)
      (before ++ (thread, ⟨.spawnFiring task .schedule now, ()⟩) :: after) last) :
    DispatchedOnce cron before after thread task now last.shared := by
  have steps := follows.mono fun step => step.2
  obtain ⟨one, two, between, rows, limit, rfl, member, quiet⟩ := dispatch_split steps
  -- the claim: the task was due, at an instant that the clock had shown
  have claim := follows
  have ruled := steps
  rw [List.append_assoc, List.append_assoc] at claim ruled
  obtain ⟨isDue, fits, computed⟩ := claim_due claim member
  obtain ⟨-, -, due, armed, early⟩ := isDue_iff.mp isDue
  rw [toOffset_of_representable fits] at early
  refine ⟨_, between, due, rfl, quiet, armed, early, fun unarmed => ?_⟩
  obtain ⟨past, read⟩ : ∃ past, own thread one = past ++ [(⟨.now, now⟩ : SchedulerEvent)] :=
    tick_ruled ruled trivial
  have read : (thread, (⟨.now, now⟩ : SchedulerEvent)) ∈ one := mem_own.mp (read ▸ by simp)
  -- the advance: it spends the task
  have grouped : one ++ (thread, (⟨.claimDueTasks now limit, (.ok rows :
        Except AppError (List ScheduledTask))⟩ : SchedulerEvent)) :: two ++
      (thread, ⟨.execute (advance cron task now), (.ok () : Except AppError Unit)⟩) :: between ++
      (thread, ⟨.spawnFiring task .schedule now, ()⟩) :: after =
    (one ++ (thread, ⟨.claimDueTasks now limit, .ok rows⟩) :: two) ++
      [(thread, ⟨.execute (advance cron task now), .ok ()⟩)] ++
      (between ++ (thread, ⟨.spawnFiring task .schedule now, ()⟩) :: after) := by simp
  rw [grouped] at follows
  obtain ⟨state, head, tail⟩ := Follows.append_iff.mp follows
  have started := head.mono fun step => step.2
  have clock : now ≤ state.shared.clock :=
    (clock_read started (List.mem_append_left _ (List.mem_append_left _ read))).2
  have silent : ∀ label ∈ between ++ (thread, (⟨.spawnFiring task .schedule now, ()⟩ :
      SchedulerEvent)) :: after, armsRow task.id label.2 = false := by
    intro label member
    rw [List.mem_append, List.mem_cons] at member
    rcases member with member | rfl | member
    · exact unarmed label (List.mem_append_left after member)
    · rfl
    · exact unarmed label (List.mem_append_right between member)
  have dispatched : dispatches task.id ⟨.spawnFiring task .schedule now, ()⟩ = true :=
    decide_eq_true rfl
  obtain ⟨rowsSpent, claims⟩ := spent_stretch advances single started tail quiet dispatched
    (fun instant => by simp) clock silent (spent_after advances computed started)
  refine ⟨fun row found => (rowsSpent row found).not_due fits,
    fun index later snapshot again same => ?_⟩
  obtain ⟨middle, rest, rfl⟩ := List.append_of_mem again
  rw [grouped] at steps
  have found := later_dispatch single steps dispatched same claims
  exact ⟨found.armed.2, found.armed.1⟩

end Dispatch

/-! ### An occurrence beyond the columns -/

def cronTask (cronExpr : String) : ScheduledTask :=
  { pacedTask with scheduleKind := "recurring", cronExpr := some cronExpr }

def oneCron (cronExpr : String) : Shared :=
  { noTasks with tasks := ⟨[cronTask cronExpr], List.nodup_singleton _⟩ }

/-- The library on the expression `0 0 0 * * * 2263-2299` in UTC: every midnight of those years, the
first of which is the 107016th day after the epoch. -/
def farMidnights : CronLibrary where
  Pattern := Unit
  Zone := Unit
  fromStr expr := if expr = "0 0 0 * * * 2263-2299" then .ok () else .error "invalid pattern"
  zone timezone := if timezone = "UTC" then some () else none
  findNextOccurrence _ _ after :=
    let next := max ((after / days 1 + 1) * days 1) (days 107016)
    if next < days 120530 then some next else none

theorem farMidnights_advances : farMidnights.Advances := by
  intro pattern zone after next found
  obtain ⟨-, same⟩ := Option.ite_none_right_eq_some.mp found
  cases same
  dsimp only [Instant, days, seconds] at *
  omega

def twoSweeps (cron : CronLibrary) (cronExpr : String) : List (Nat × SchedulerEvent) ×
    Config schedulerPorts AppError Unit Shared :=
  scheduler.execute (Shared.answer proposing)
    (Activity.config cron [.tickLoop 2] (oneCron cronExpr)) [0, 0, 0, 0, 0, 0, 0, 0]

theorem unarmed_part {log first between : List (Nat × SchedulerEvent)}
    {event : Nat × SchedulerEvent} {id : Uuid} {early late : Nat}
    (unarmed : (log.all fun label => !armsRow id label.2) = true)
    (split : log.take early = first ++ event :: between) :
    ∀ label ∈ between ++ log.drop late, armsRow id label.2 = false := by
  intro label member
  have there : label ∈ log := by
    rcases List.mem_append.mp member with member | member
    · have shown : label ∈ log.take early := by simp [split, member]
      exact List.mem_of_mem_take shown
    · exact List.mem_of_mem_drop member
  simpa using List.all_eq_true.mp unarmed label there

theorem nightly_spent : ∃ row, (twoSweeps midnights "0 0 * * *").2.shared.tasks.find 1 = some row ∧
    row.isDue 1 = false := by
  have follows : Follows (scheduler.Guarded fun _ label => claimsFit midnights label.2 = true)
      (Activity.config midnights [.tickLoop 2] (oneCron "0 0 * * *"))
      (((twoSweeps midnights "0 0 * * *").1.take 3) ++ (0, ⟨.spawnFiring (cronTask "0 0 * * *")
        .schedule 1, ()⟩) :: (twoSweeps midnights "0 0 * * *").1.drop 4)
      (twoSweeps midnights "0 0 * * *").2 :=
    scheduler.guarded_execute (Shared.answers_answer proposing) [0, 0, 0, 0, 0, 0, 0, 0] _
      (by decide)
  obtain ⟨first, between, due, split, -, -, -, law⟩ :=
    dispatched_once midnights midnights_advances [.tickLoop 2] (by decide) follows
  obtain ⟨row, found⟩ : ∃ row,
    (twoSweeps midnights "0 0 * * *").2.shared.tasks.find 1 = some row := ⟨_, rfl⟩
  exact ⟨row, found, (law (unarmed_part (by decide) split)).1 row found⟩

/-- **An occurrence beyond the columns refires at every sweep**: the next midnight of the expression
is in 2263, is stored as the epoch, and the next sweep finds the task due again. -/
theorem epoch_refires : ¬ ∀ (cron : CronLibrary) (activities : List Activity) (shared : Shared)
    (last : Config schedulerPorts AppError Unit Shared) (before after : List (Nat × SchedulerEvent))
    (thread : Nat) (task : ScheduledTask) (now : Instant), cron.Advances →
    activities.countP Activity.isTickLoop ≤ 1 →
    Follows scheduler.Step (Activity.config cron activities shared)
      (before ++ (thread, ⟨.spawnFiring task .schedule now, ()⟩) :: after) last →
    DispatchedOnce cron before after thread task now last.shared := by
  intro claimed
  have follows : Follows scheduler.Step
      (Activity.config farMidnights [.tickLoop 2] (oneCron "0 0 0 * * * 2263-2299"))
      (((twoSweeps farMidnights "0 0 0 * * * 2263-2299").1.take 3) ++
        (0, ⟨.spawnFiring (cronTask "0 0 0 * * * 2263-2299") .schedule 1, ()⟩) ::
        (twoSweeps farMidnights "0 0 0 * * * 2263-2299").1.drop 4)
      (twoSweeps farMidnights "0 0 0 * * * 2263-2299").2 :=
    scheduler.follows_execute (Shared.answers_answer proposing) [0, 0, 0, 0, 0, 0, 0, 0] _
  obtain ⟨first, between, due, split, -, -, -, law⟩ := claimed farMidnights [.tickLoop 2] _ _ _ _ 0
    (cronTask "0 0 0 * * * 2263-2299") 1 farMidnights_advances (by decide) follows
  obtain ⟨row, found⟩ : ∃ row, (twoSweeps farMidnights
    "0 0 0 * * * 2263-2299").2.shared.tasks.find 1 = some row := ⟨_, rfl⟩
  have due : ((twoSweeps farMidnights "0 0 0 * * * 2263-2299").2.shared.tasks.find 1).map
      (fun row => row.isDue 1) = some true := by decide
  have idle := (law (unarmed_part (by decide) split)).1 row found
  rw [found, Option.map_some, idle] at due
  cases due

end Dispatches

end Ziee.Scheduler
