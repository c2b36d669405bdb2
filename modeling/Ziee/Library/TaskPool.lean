/-
**A program and the tasks it spawns, on a bounded number of slots.**

A main program runs beside the tasks it has spawned. A task waits for one of `permits` slots, runs,
and is done with some result; the main program goes on independently, except that a query which
awaits a task blocks until that task is done and is answered with its result. Nothing is said about
the order in which tasks get their slots or finish, so the reachable configurations are those of
every schedule.

* `acc` — **every schedule ends**, whatever the program is.
* `progress` — a configuration is finished or can go on, when the awaited tasks exist.
-/

import Ziee.Library.PortProgram
import Mathlib.Algebra.Ring.Nat
import Mathlib.Logic.Relation

namespace TaskPool

open PortProgram

inductive TaskState (R : Type)
  | queued
  | running
  | done (result : R)

structure Tasking (I : Interface) (R : Type) where
  spawns : I.Query → Bool
  awaits : (query : I.Query) → Option (Nat × (R → I.Answer query))
  exclusive : ∀ query target, awaits query = some target → spawns query = false

structure Config (I : Interface) (ε α R : Type) where
  program : Program I ε α
  tasks : List (TaskState R)
  trace : List (Event I)

def Config.start {I : Interface} {ε α R : Type} (program : Program I ε α) : Config I ε α R :=
  ⟨program, [], []⟩

def Config.outcome? {I : Interface} {ε α R : Type} (config : Config I ε α R) :
    Option (Except ε α) :=
  match config.program with
  | .pure value => some (.ok value)
  | .fail error => some (.error error)
  | .ask _ _ => none

section Pool

variable {R : Type}

def TaskState.isRunning : TaskState R → Bool
  | .running => true
  | _ => false

/-- How many slots are taken. -/
def running (tasks : List (TaskState R)) : Nat := tasks.countP TaskState.isRunning

/-- The steps the task still has to take. -/
def TaskState.remaining : TaskState R → Nat
  | .queued => 2
  | .running => 1
  | .done _ => 0

def remaining (tasks : List (TaskState R)) : Nat := (tasks.map TaskState.remaining).sum

theorem remaining_replace (before after : List (TaskState R)) {task task' : TaskState R}
    (less : task'.remaining < task.remaining) :
    remaining (before ++ task' :: after) < remaining (before ++ task :: after) := by
  unfold remaining
  rw [List.map_append, List.map_append, List.map_cons, List.map_cons, List.sum_append,
    List.sum_append, List.sum_cons, List.sum_cons]
  omega

end Pool

variable {I : Interface} {ε α R : Type}

/-- **One scheduling step**: the main program asks, or awaits a task that is done; or a task gets a
free slot, or finishes with any result. -/
inductive Step (tasking : Tasking I R) (permits : Nat) : Config I ε α R → Config I ε α R → Prop
  | ask {query : I.Query} {next : I.Answer query → Program I ε α} {tasks : List (TaskState R)}
      {trace : List (Event I)} (answer : I.Answer query) : tasking.awaits query = none →
      Step tasking permits ⟨.ask query next, tasks, trace⟩
        ⟨next answer, if tasking.spawns query then tasks ++ [.queued] else tasks,
          trace ++ [⟨query, answer⟩]⟩
  | await {query : I.Query} {next : I.Answer query → Program I ε α} {tasks : List (TaskState R)}
      {trace : List (Event I)} {handle : Nat} {give : R → I.Answer query} {result : R} :
      tasking.awaits query = some (handle, give) → tasks[handle]? = some (.done result) →
      Step tasking permits ⟨.ask query next, tasks, trace⟩
        ⟨next (give result), tasks, trace ++ [⟨query, give result⟩]⟩
  | begin {program : Program I ε α} {before after : List (TaskState R)} {trace : List (Event I)} :
      running (before ++ .queued :: after) < permits →
      Step tasking permits ⟨program, before ++ .queued :: after, trace⟩
        ⟨program, before ++ .running :: after, trace⟩
  | finish {program : Program I ε α} {before after : List (TaskState R)} {trace : List (Event I)}
      (result : R) : Step tasking permits ⟨program, before ++ .running :: after, trace⟩
        ⟨program, before ++ .done result :: after, trace⟩

/-- Any number of scheduling steps. -/
def Reaches (tasking : Tasking I R) (permits : Nat) : Config I ε α R → Config I ε α R → Prop :=
  Relation.ReflTransGen (Step tasking permits)

variable {tasking : Tasking I R} {permits : Nat}

def Branch (program : Program I ε α) (branch : Program I ε α) : Prop :=
  ∃ query next answer, program = .ask query next ∧ branch = next answer

theorem step_cases {config config' : Config I ε α R} (step : Step tasking permits config config') :
    Branch config.program config'.program ∨
      config'.program = config.program ∧ remaining config'.tasks < remaining config.tasks := by
  cases step with
  | ask answer _ => exact Or.inl ⟨_, _, answer, rfl, rfl⟩
  | await _ _ => exact Or.inl ⟨_, _, _, rfl, rfl⟩
  | begin _ => exact Or.inr ⟨rfl, remaining_replace _ _ (Nat.lt_succ_self 1)⟩
  | finish result => exact Or.inr ⟨rfl, remaining_replace _ _ Nat.one_pos⟩

/-- If every schedule ends after the next step of the main program, every schedule ends: in between
only finitely many steps of the tasks are left. -/
theorem acc_of_branches {program : Program I ε α}
    (branches : ∀ branch, Branch program branch → ∀ config : Config I ε α R,
      config.program = branch → Acc (fun next config => Step tasking permits config next) config) :
    ∀ count, ∀ config : Config I ε α R, config.program = program → remaining config.tasks = count →
      Acc (fun next config => Step tasking permits config next) config := by
  intro count
  induction count using Nat.strongRecOn with
  | ind count ih =>
    intro config same measure
    refine Acc.intro config fun next step => ?_
    rcases step_cases step with branch | ⟨still, less⟩
    · exact branches next.program (same ▸ branch) next rfl
    · exact ih _ (measure ▸ less) next (still.trans same) rfl

/-- **Every schedule ends**: no configuration starts an infinite one. -/
theorem acc (program : Program I ε α) : ∀ config : Config I ε α R, config.program = program →
    Acc (fun next config => Step tasking permits config next) config := by
  induction program with
  | pure value =>
    exact fun config same => acc_of_branches (fun branch other => by
      obtain ⟨_, _, _, impossible, -⟩ := other
      cases impossible) _ config same rfl
  | fail error =>
    exact fun config same => acc_of_branches (fun branch other => by
      obtain ⟨_, _, _, impossible, -⟩ := other
      cases impossible) _ config same rfl
  | ask query next ih =>
    exact fun config same => acc_of_branches (fun branch other config' same' => by
      obtain ⟨_, _, answer, asked, rfl⟩ := other
      cases asked
      exact ih answer config' same') _ config same rfl

/-! ### No schedule is stuck -/

theorem exists_split_of_running {tasks : List (TaskState R)} (some : running tasks ≠ 0) :
    ∃ before after, tasks = before ++ .running :: after := by
  obtain ⟨task, member, isRunning⟩ := List.countP_pos_iff.mp (Nat.pos_of_ne_zero some)
  cases task with
  | running =>
    obtain ⟨before, after, split⟩ := List.append_of_mem member
    exact ⟨before, after, split⟩
  | queued | done => cases isRunning

/-- A task that is not done keeps the pool going: it runs, or waits for a slot that is free or is
taken by another that runs. -/
theorem tasks_step {tasks : List (TaskState R)} {handle : Nat} {task : TaskState R}
    (positive : 0 < permits) (found : tasks[handle]? = some task)
    (pending : ∀ result, task ≠ .done result) (result : R) (program : Program I ε α)
    (trace : List (Event I)) : ∃ next, Step tasking permits ⟨program, tasks, trace⟩ next := by
  by_cases idle : running tasks = 0
  · cases task with
    | done result => exact absurd rfl (pending result)
    | running =>
      have taken : 0 < running tasks :=
        List.countP_pos_iff.mpr ⟨_, List.mem_of_getElem? found, rfl⟩
      omega
    | queued =>
      obtain ⟨before, after, rfl⟩ := List.append_of_mem (List.mem_of_getElem? found)
      exact ⟨_, .begin (idle ▸ positive)⟩
  · obtain ⟨before, after, rfl⟩ := exists_split_of_running idle
    exact ⟨_, .finish result⟩

/-- **No schedule is stuck**: a configuration is finished or can go on, provided the task a query
awaits has been spawned. -/
theorem progress {config : Config I ε α R} (positive : 0 < permits) (result : R)
    (answers : ∀ query, Nonempty (I.Answer query))
    (spawned : ∀ query next, config.program = .ask query next → ∀ handle give,
      tasking.awaits query = some (handle, give) → handle < config.tasks.length) :
    config.outcome?.isSome ∨ ∃ next, Step tasking permits config next := by
  obtain ⟨program, tasks, trace⟩ := config
  cases program with
  | pure | fail => exact Or.inl rfl
  | ask query next =>
    right
    cases awaited : tasking.awaits query with
    | none =>
      obtain ⟨answer⟩ := answers query
      exact ⟨_, .ask answer awaited⟩
    | some target =>
      obtain ⟨handle, give⟩ := target
      have bound : handle < tasks.length := spawned query next rfl handle give awaited
      cases found : tasks[handle] with
      | done result =>
        exact ⟨_, .await awaited (List.getElem?_eq_some_iff.mpr ⟨bound, found⟩)⟩
      | queued | running =>
        exact tasks_step positive (List.getElem?_eq_some_iff.mpr ⟨bound, found⟩) nofun result _ _

/-! ### Schedules are runs -/

def spawnCount (tasking : Tasking I R) (trace : List (Event I)) : Nat :=
  trace.countP fun event => tasking.spawns event.1

/-- **What a schedule has done so far**: its events begin a run of the program, one task was
spawned for each spawning query, and each awaited result is the task's own. -/
structure History (tasking : Tasking I R) (program : Program I ε α) (config : Config I ε α R) :
    Prop where
  run : ∀ {rest outcome}, Runs config.program rest outcome →
    Runs program (config.trace ++ rest) outcome
  spawned : config.tasks.length = spawnCount tasking config.trace
  awaited : ∀ query (answer : I.Answer query) handle give, ⟨query, answer⟩ ∈ config.trace →
    tasking.awaits query = some (handle, give) →
    ∃ result, config.tasks[handle]? = some (.done result) ∧ answer = give result

section History

variable {program : Program I ε α} {config config' : Config I ε α R}

theorem History.start (program : Program I ε α) : History tasking program (.start program) where
  run := id
  spawned := rfl
  awaited := fun _ _ _ _ member => absurd member List.not_mem_nil

theorem done_replace {before after : List (TaskState R)} {task task' : TaskState R} {handle : Nat}
    {result : R} (pending : ∀ result, task ≠ .done result)
    (found : (before ++ task :: after)[handle]? = some (.done result)) :
    (before ++ task' :: after)[handle]? = some (.done result) := by
  rw [List.getElem?_append] at found ⊢
  split
  · rwa [if_pos (by assumption)] at found
  · rename_i beyond
    rw [if_neg beyond] at found
    cases index : handle - before.length with
    | zero =>
      rw [index] at found
      exact absurd (Option.some.inj found) (pending result)
    | succ index' =>
      rw [index] at found
      exact found

theorem History.step (history : History tasking program config)
    (step : Step tasking permits config config') : History tasking program config' := by
  cases step with
  | @ask query next tasks trace answer plain =>
    refine ⟨fun {rest outcome} run => ?_, ?_, fun query' answer' handle give member awaits => ?_⟩
    · rw [List.append_assoc]
      exact history.run (.ask query next answer run)
    · show (if tasking.spawns query then tasks ++ [.queued] else tasks).length =
        List.countP _ (trace ++ [⟨query, answer⟩])
      have count : tasks.length = List.countP _ trace := history.spawned
      rw [List.countP_append, List.countP_singleton, ← count]
      cases tasking.spawns query with
      | true => exact List.length_append
      | false => rfl
    · rcases List.mem_append.mp member with member | member
      · obtain ⟨result, found, same⟩ := history.awaited query' answer' handle give member awaits
        refine ⟨result, ?_, same⟩
        show (if tasking.spawns query then tasks ++ [.queued] else tasks)[handle]? = _
        split
        · exact List.getElem?_append_left (List.getElem?_eq_some_iff.mp found).1 ▸ found
        · exact found
      · cases List.mem_singleton.mp member
        rw [plain] at awaits
        cases awaits
  | @await query next tasks trace handle give result awaits found =>
    refine ⟨fun {rest outcome} run => ?_, ?_, fun query' answer' handle' give' member awaits' => ?_⟩
    · rw [List.append_assoc]
      exact history.run (.ask query next _ run)
    · show tasks.length = List.countP _ (trace ++ [⟨query, give result⟩])
      have count : tasks.length = List.countP _ trace := history.spawned
      rw [List.countP_append, List.countP_singleton, ← count, tasking.exclusive _ _ awaits]
      rfl
    · rcases List.mem_append.mp member with member | member
      · exact history.awaited query' answer' handle' give' member awaits'
      · cases List.mem_singleton.mp member
        rw [awaits] at awaits'
        cases awaits'
        exact ⟨result, found, rfl⟩
  | begin | finish =>
    refine ⟨history.run, ?_, fun query answer handle give member awaits => ?_⟩
    · rw [← history.spawned]
      simp
    · obtain ⟨result, found, same⟩ := history.awaited query answer handle give member awaits
      exact ⟨result, done_replace (fun _ impossible => by cases impossible) found, same⟩

/-- **A schedule is a run** of the main program, with the tasks' results as the awaited answers. -/
theorem Reaches.history (reaches : Reaches tasking permits (.start program) config) :
    History tasking program config := by
  induction reaches with
  | refl => exact .start program
  | tail _ step ih => exact ih.step step

theorem History.finished (history : History tasking program config) {outcome : Except ε α}
    (finished : config.outcome? = some outcome) : Runs program config.trace outcome := by
  have last : Runs config.program [] outcome := by
    obtain ⟨program', tasks, trace⟩ := config
    cases program' with
    | pure value =>
      cases finished
      exact .pure value
    | fail error =>
      cases finished
      exact .fail error
    | ask query next => cases finished
  have run := history.run last
  rwa [List.append_nil] at run

end History

/-! ### Programs that await what they have spawned -/

/-- Each query that awaits a task comes after the task was spawned, `count` tasks being there at
the start. -/
def AwaitsSpawned (tasking : Tasking I R) : Nat → List (Event I) → Prop
  | _, [] => True
  | count, event :: rest =>
    (∀ handle give, tasking.awaits event.1 = some (handle, give) → handle < count) ∧
      AwaitsSpawned tasking (count + if tasking.spawns event.1 then 1 else 0) rest

theorem AwaitsSpawned.append_iff {before after : List (Event I)} {count : Nat} :
    AwaitsSpawned tasking count (before ++ after) ↔ AwaitsSpawned tasking count before ∧
        AwaitsSpawned tasking (count + spawnCount tasking before) after := by
  induction before generalizing count with
  | nil => exact ⟨fun owned => ⟨trivial, owned⟩, fun owned => owned.2⟩
  | cons event before ih =>
    have total : count + spawnCount tasking (event :: before) =
        count + (if tasking.spawns event.1 then 1 else 0) + spawnCount tasking before := by
      unfold spawnCount
      rw [List.countP_cons]
      omega
    rw [List.cons_append, AwaitsSpawned, AwaitsSpawned, ih, total, and_assoc]

/-- **A program that awaits only what it has spawned is never stuck.** -/
theorem Reaches.progress {program : Program I ε α} {config : Config I ε α R}
    (reaches : Reaches tasking permits (.start program) config) (positive : 0 < permits)
    (result : R) (answers : ∀ query, I.Answer query)
    (owned : ∀ trace outcome, Runs program trace outcome → AwaitsSpawned tasking 0 trace) :
    config.outcome?.isSome ∨ ∃ next, Step tasking permits config next := by
  refine TaskPool.progress positive result (fun query => ⟨answers query⟩)
    fun query next same handle give awaits => ?_
  have history := reaches.history
  obtain ⟨trace, outcome, run⟩ := exists_runs answers config.program
  have whole := owned _ _ (history.run run)
  rw [same] at run
  cases run with
  | ask _ _ answer rest =>
    have last := (AwaitsSpawned.append_iff.mp whole).2
    rw [Nat.zero_add, ← history.spawned] at last
    exact last.1 handle give awaits

end TaskPool
