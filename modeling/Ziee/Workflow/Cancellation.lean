/-
**Waiting for a cancel** (`CancelToken::cancelled`, `RunHandle::await_cancel`).

Both waits look at the flag and, when it is unset, register with a `Notify`; a cancel stores the
flag and then notifies. `notify_waiters` wakes the waiters registered at that instant and no others,
so a wait that has looked before the store and registers after the notification is never woken.

* `cancel_reaches_iff` — in an interleaving of any waits and cancels, every wait returns once a
  cancel has been made, exactly when no notification finds a wait between its two steps.
* `cancel_lost` — the order check, store, notify, register loses the cancel.
-/

import Mathlib.Data.List.Induction
import Ziee.Library.Threads

namespace Ziee.Workflow.Cancellation

open PortProgram Threads

/-- A flag, its `Notify`, and whether the registry still has the handle they belong to. -/
structure CancelState where
  cancelled : Bool
  /-- How many waiters have registered; they are numbered in that order. -/
  registered : Nat
  /-- The waiters up to this number have been woken. -/
  woken : Nat
  listed : Bool
  bound : woken ≤ registered

inductive CancelQuery
  | isCancelled
  | storeCancelled
  | notified
  | await (waiter : Nat)
  | notifyWaiters
  | get
  | remove

abbrev CancelQuery.Answer : CancelQuery → Type
  | .isCancelled => Bool
  | .notified => Nat
  | .get => Bool
  | _ => Unit

abbrev cancelPorts : Interface := ⟨CancelQuery, CancelQuery.Answer⟩

abbrev CancelM (α : Type) : Type := Program cancelPorts Empty α

def ask (query : CancelQuery) : CancelM query.Answer := Program.perform (I := cancelPorts) query

/-- What the flag, the `Notify` and the registry answer; a waiter waits until it is woken. -/
def CancelState.answer (state : CancelState) :
    (query : CancelQuery) → Option (query.Answer × CancelState)
  | .isCancelled => some (state.cancelled, state)
  | .storeCancelled => some ((), { state with cancelled := true })
  | .notified => some (state.registered, { state with
      registered := state.registered + 1, bound := Nat.le_succ_of_le state.bound })
  | .await waiter => if waiter < state.woken then some ((), state) else none
  | .notifyWaiters => some ((), { state with woken := state.registered, bound := Nat.le_refl _ })
  | .get => some (state.listed, state)
  | .remove => some ((), { state with listed := false })

def CancelState.new : CancelState := ⟨false, 0, 0, true, Nat.le_refl _⟩

/-! ### The programs -/

/-- The wait of both: look at the flag, then register and wait. -/
def untilCancelled : CancelM Unit := do
  let cancelled ← ask .isCancelled
  if cancelled then pure () else park
where
  park : CancelM Unit := do
    let waiter ← ask .notified
    ask (.await waiter)

def signal : CancelM Unit := do
  ask .storeCancelled
  ask .notifyWaiters

def cancelled : CancelM Unit := untilCancelled

def cancel : CancelM Unit := signal

def awaitCancel : CancelM Unit := untilCancelled

/-- `registry::cancel`: whether the registry still had the handle. -/
def cancelRunHandle : CancelM Bool := do
  let found ← ask .get
  if found then do
    signal
    pure true
  else pure false

def unregister : CancelM Unit := ask .remove

inductive IsTask : CancelM Unit → Prop
  | cancelled : IsTask cancelled
  | cancel : IsTask cancel
  | awaitCancel : IsTask awaitCancel
  | cancelRunHandle : IsTask (do let _ ← cancelRunHandle; pure ())
  | unregister : IsTask unregister

/-- The machine they run on. -/
def cancellation : Machine cancelPorts Empty Unit CancelState := .ofAnswer CancelState.answer

abbrev CancelConfig : Type := Config cancelPorts Empty Unit CancelState

abbrev CancelLabel : Type := Nat × Event cancelPorts

/-! ### Where a task stands -/

/-- The points of the tasks, by their next query: what each has learnt of the state so far. -/
inductive Stands (state : CancelState) : CancelM Unit → Prop
  | waits : Stands state (.ask .isCancelled fun set => if set then pure () else untilCancelled.park)
  | parks : Stands state (.ask .notified fun waiter => ask (.await waiter))
  | parked (waiter : Nat) : waiter < state.registered → Stands state (.ask (.await waiter) pure)
  | looks : Stands state (.ask .get fun found => if found then signal else pure ())
  | stores : Stands state (.ask .storeCancelled fun _ => ask .notifyWaiters)
  | notifies : state.cancelled = true → Stands state (.ask .notifyWaiters pure)
  | removes : Stands state (.ask .remove pure)
  | ended : Stands state (.pure ())

theorem looks_eq : (.ask .get fun found => if found then signal else pure () : CancelM Unit) =
    (do let _ ← cancelRunHandle; pure ()) := by
  refine congrArg (Program.ask (I := cancelPorts) CancelQuery.get) (funext fun found => ?_)
  cases found <;> rfl

theorem IsTask.stands {task : CancelM Unit} (isTask : IsTask task) (state : CancelState) :
    Stands state task := by
  cases isTask with
  | cancelled => exact .waits
  | cancel => exact .stores
  | awaitCancel => exact .waits
  | cancelRunHandle => exact looks_eq ▸ .looks
  | unregister => exact .removes

section Step

variable {state state' : CancelState} {task : CancelM Unit} {query : CancelQuery}
  {answer : query.Answer} {next : query.Answer → CancelM Unit}

/-- **What an answer does to the state**: the flag stays set, the waiters stay registered and woken,
and only a notification wakes more. -/
theorem CancelState.answer_grows (answers : state.answer query = some (answer, state')) :
    (state.cancelled = true → state'.cancelled = true) ∧ state.registered ≤ state'.registered ∧
      state.woken ≤ state'.woken := by
  cases query with
  | await waiter =>
    obtain ⟨-, same⟩ := Option.ite_none_right_eq_some.mp answers
    cases same
    exact ⟨id, Nat.le_refl _, Nat.le_refl _⟩
  | storeCancelled =>
    cases answers
    exact ⟨fun _ => rfl, Nat.le_refl _, Nat.le_refl _⟩
  | notified =>
    cases answers
    exact ⟨id, Nat.le_succ _, Nat.le_refl _⟩
  | notifyWaiters =>
    cases answers
    exact ⟨id, Nat.le_refl _, state.bound⟩
  | _ =>
    cases answers
    exact ⟨id, Nat.le_refl _, Nat.le_refl _⟩

theorem Stands.goes_on (stands : Stands state (.ask (I := cancelPorts) query next))
    (answers : state.answer query = some (answer, state')) : Stands state' (next answer) := by
  cases stands with
  | waits =>
    show Stands state' (if answer then pure () else untilCancelled.park)
    split
    · exact .ended
    · exact .parks
  | parks =>
    cases answers
    exact .parked _ (Nat.lt_succ_self _)
  | looks =>
    show Stands state' (if answer then signal else pure ())
    split
    · exact .stores
    · exact .ended
  | stores =>
    cases answers
    exact .notifies rfl
  | _ => exact .ended

theorem Stands.stay (stands : Stands state task)
    (set : state.cancelled = true → state'.cancelled = true)
    (more : state.registered ≤ state'.registered) : Stands state' task := by
  cases stands with
  | waits => exact .waits
  | parks => exact .parks
  | parked waiter bound => exact .parked waiter (Nat.lt_of_lt_of_le bound more)
  | looks => exact .looks
  | stores => exact .stores
  | notifies held => exact .notifies (set held)
  | removes => exact .removes
  | ended => exact .ended

theorem Stands.notify_inv {next : Unit → CancelM Unit}
    (stands : Stands state (.ask (I := cancelPorts) .notifyWaiters next)) :
    state.cancelled = true ∧ next = pure := by
  cases stands with
  | notifies held => exact ⟨held, rfl⟩

theorem Stands.registered {waiter : Nat} (stands : Stands state (ask (.await waiter))) :
    waiter < state.registered := by
  cases stands with
  | parked _ bound => exact bound

/-! ### Which tasks return -/

theorem not_returns_park : ¬Returns CancelState.answer state untilCancelled.park := by
  rintro ⟨_, registers, _, wakes, -⟩
  cases registers
  obtain ⟨early, -⟩ := Option.ite_none_right_eq_some.mp wakes
  exact absurd (Nat.lt_of_lt_of_le early state.bound) (Nat.lt_irrefl _)

/-- **With the flag set, every task returns** but a wait between its two steps, and one that has
not been woken. -/
theorem Stands.returns (stands : Stands state task) (set : state.cancelled = true)
    (between : task ≠ untilCancelled.park)
    (woken : ∀ waiter, task = ask (.await waiter) → waiter < state.woken) :
    Returns CancelState.answer state task := by
  cases stands with
  | waits =>
    refine ⟨_, rfl, ?_⟩
    show Returns _ _ (if state.cancelled then pure () else untilCancelled.park)
    rw [if_pos set]
    trivial
  | parks => exact absurd rfl between
  | parked waiter => exact ⟨_, if_pos (woken waiter rfl), trivial⟩
  | looks =>
    refine ⟨_, rfl, ?_⟩
    show Returns _ _ (if state.listed then signal else pure ())
    split
    · exact ⟨_, rfl, _, rfl, trivial⟩
    · trivial
  | stores => exact ⟨_, rfl, _, rfl, trivial⟩
  | notifies | removes => exact ⟨_, rfl, trivial⟩
  | ended => trivial

theorem returns_await_iff {waiter : Nat} :
    Returns CancelState.answer state (ask (.await waiter)) ↔ waiter < state.woken := by
  constructor
  · rintro ⟨_, wakes, -⟩
    exact (Option.ite_none_right_eq_some.mp wakes).1
  · exact fun early => ⟨_, if_pos early, trivial⟩

theorem Stands.still_returns (stands : Stands state' task) (set : state'.cancelled = true)
    (returns : Returns CancelState.answer state task) (more : state.woken ≤ state'.woken) :
    Returns CancelState.answer state' task := by
  refine stands.returns set (fun same => ?_) fun waiter same => ?_
  · exact not_returns_park (same ▸ returns)
  · exact Nat.lt_of_lt_of_le (returns_await_iff.mp (same ▸ returns)) more

end Step

/-! ### The runs -/

/-- A cancel has been made: its notification is its last step. -/
def Notified (log : List CancelLabel) : Prop := ∃ thread, (thread, ⟨.notifyWaiters, ()⟩) ∈ log

/-- **Once a cancel has been made, every task returns.** -/
def Reached (log : List CancelLabel) (config : CancelConfig) : Prop :=
  Notified log → ∀ task ∈ config.threads, Returns CancelState.answer config.shared task

/-- No notification finds a wait that has looked at the flag and not yet registered. -/
def NoneBetween (config : CancelConfig) (label : CancelLabel) : Prop :=
  label.2.1 = .notifyWaiters → ∀ task ∈ config.threads, task ≠ untilCancelled.park

structure Placed (log : List CancelLabel) (config : CancelConfig) : Prop where
  stands : ∀ task ∈ config.threads, Stands config.shared task
  set : Notified log → config.shared.cancelled = true

section Runs

variable {log : List CancelLabel} {config config' : CancelConfig} {label : CancelLabel}

theorem Placed.step (placed : Placed log config) (step : cancellation.Step config label config') :
    Placed (log ++ [label]) config' := by
  cases step with
  | @act state state' threads thread query next answer found answers =>
    have acting := placed.stands _ (List.mem_of_getElem? found)
    obtain ⟨set, more, -⟩ := CancelState.answer_grows answers
    constructor
    · intro task member
      have member : task ∈ threads.set thread (next answer) := by
        simpa [cancellation, Machine.ofAnswer] using member
      rcases List.mem_or_eq_of_mem_set member with member | rfl
      · exact (placed.stands task member).stay set more
      · exact acting.goes_on answers
    · rintro ⟨index, member⟩
      rcases List.mem_append.mp member with earlier | last
      · exact set (placed.set ⟨index, earlier⟩)
      · have same := List.mem_singleton.mp last
        cases same
        exact set acting.notify_inv.1

/-- **A step keeps a cancel reaching everyone**, unless it notifies past a wait between its two
steps. -/
theorem Reached.step (reached : Reached log config) (placed : Placed log config)
    (apart : NoneBetween config label) (step : cancellation.Step config label config') :
    Reached (log ++ [label]) config' := by
  intro notified task member
  have placed' := placed.step step
  have set := placed'.set notified
  have stands := placed'.stands task member
  cases step with
  | @act state state' threads thread query next answer found answers =>
    have acting := List.mem_of_getElem? found
    have member : task ∈ threads.set thread (next answer) := by
      simpa [cancellation, Machine.ofAnswer] using member
    by_cases wakes : query = .notifyWaiters
    · subst wakes
      rcases List.mem_or_eq_of_mem_set member with member | rfl
      · refine stands.returns set (apart rfl task member) fun waiter same => ?_
        have bound := (same ▸ placed.stands task member : Stands state
          (ask (.await waiter))).registered
        cases answers
        exact bound
      · rw [show next = pure from (placed.stands _ acting).notify_inv.2]
        trivial
    · have earlier : Notified log := by
        obtain ⟨index, member⟩ := notified
        rcases List.mem_append.mp member with earlier | last
        · exact ⟨index, earlier⟩
        · have same := List.mem_singleton.mp last
          cases same
          exact absurd rfl wakes
      rcases List.mem_or_eq_of_mem_set member with member | rfl
      · exact stands.still_returns set (reached earlier task member)
          (CancelState.answer_grows answers).2.2
      · exact (reached earlier _ acting).goes_on answers

theorem Reached.noneBetween (reached : Reached (log ++ [label]) config')
    (step : cancellation.Step config label config') : NoneBetween config label := by
  cases step with
  | @act state state' threads thread query next answer found answers =>
    rintro rfl task member rfl
    obtain ⟨index, here⟩ := List.mem_iff_getElem?.mp member
    have other : thread ≠ index := by
      rintro rfl
      rw [found] at here
      cases (show Program.ask (I := cancelPorts) .notifyWaiters next = .ask .notified _ from
        Option.some.inj here)
    have kept : untilCancelled.park ∈ threads.set thread (next answer) := by
      refine List.mem_of_getElem? (i := index) ?_
      rw [List.getElem?_set_ne other]
      exact here
    refine not_returns_park (reached ⟨thread, List.mem_append_right _ (List.mem_singleton.mpr rfl)⟩
      untilCancelled.park ?_)
    simpa [cancellation, Machine.ofAnswer] using kept

end Runs

theorem placed_start {tasks : List (CancelM Unit)} (all : ∀ task ∈ tasks, IsTask task) :
    Placed [] ⟨.new, tasks⟩ := by
  refine ⟨fun task member => (all task member).stands _, ?_⟩
  rintro ⟨_, member⟩
  cases member

/-- **When a cancel reaches every task**: in an interleaving of any waits and cancels, at every
point after a cancel has been made every task returns, exactly when no notification finds a wait
between its look at the flag and its registration. -/
theorem cancel_reaches_iff {tasks : List (CancelM Unit)} (all : ∀ task ∈ tasks, IsTask task)
    {log : List CancelLabel} {last : CancelConfig}
    (follows : Follows cancellation.Step ⟨.new, tasks⟩ log last) :
    (∀ before after config, log = before ++ after →
      Follows cancellation.Step ⟨.new, tasks⟩ before config → Reached before config) ↔
    Follows (cancellation.Guarded NoneBetween) ⟨.new, tasks⟩ log last := by
  constructor
  · intro reached
    induction log using List.reverseRecOn generalizing last with
    | nil =>
      cases follows
      exact .nil _
    | append_singleton log label ih =>
      obtain ⟨config, head, tail⟩ := Follows.append_iff.mp follows
      have step := Follows.singleton_iff.mp tail
      have guarded := ih head fun before after config split =>
        reached before (after ++ [label]) config (by rw [split, List.append_assoc])
      have whole := reached (log ++ [label]) [] last (by rw [List.append_nil]) follows
      exact Follows.append_iff.mpr ⟨config, guarded,
        Follows.singleton_iff.mpr ⟨whole.noneBetween step, step⟩⟩
  · rintro guarded before after config rfl reaches
    obtain ⟨config', head, -⟩ := Follows.append_iff.mp guarded
    have kept := head.preserves_log (fun log config => Placed log config ∧ Reached log config)
      (fun holds step => ⟨holds.1.step step.2, holds.2.step holds.1 step.1 step.2⟩)
      ⟨placed_start all, fun notified => by cases notified.choose_spec⟩
    have steps : Follows cancellation.Step ⟨.new, tasks⟩ before config' := head.mono And.right
    rw [reaches.unique steps fun _ _ _ _ => step_ofAnswer_unique]
    exact kept.2

/-- A wait that registers before the handle is cancelled. -/
def registerFirst : List CancelLabel :=
  [(0, ⟨.isCancelled, false⟩), (0, ⟨.notified, (0 : Nat)⟩), (1, ⟨.get, true⟩),
    (1, ⟨.storeCancelled, ()⟩), (1, ⟨.notifyWaiters, ()⟩)]

def registerFirstEnd : CancelConfig :=
  ⟨⟨true, 1, 1, true, Nat.le_refl _⟩, [ask (.await 0), pure ()]⟩

theorem registerFirst_guarded : Follows (cancellation.Guarded NoneBetween)
    ⟨.new, [awaitCancel, do let _ ← cancelRunHandle; pure ()]⟩ registerFirst registerFirstEnd := by
  refine .cons ⟨(fun same => nomatch same), .act rfl rfl⟩ ?_
  refine .cons ⟨(fun same => nomatch same), .act rfl rfl⟩ ?_
  refine .cons ⟨(fun same => nomatch same), .act rfl rfl⟩ ?_
  refine .cons ⟨(fun same => nomatch same), .act rfl rfl⟩ ?_
  refine .cons ⟨fun _ task member => ?_, .act rfl rfl⟩ (.nil _)
  rcases List.mem_cons.mp member with rfl | member
  · exact fun same => nomatch same
  · rw [List.mem_singleton.mp member]
    exact fun same => nomatch same

/-- That wait returns. -/
theorem registerFirst_reached : Reached registerFirst registerFirstEnd :=
  (cancel_reaches_iff (by simp [IsTask.awaitCancel, IsTask.cancelRunHandle])
    (registerFirst_guarded.mono And.right)).mpr registerFirst_guarded registerFirst [] _
    (List.append_nil _).symm (registerFirst_guarded.mono And.right)

def checkStoreNotifyRegister : List CancelLabel :=
  [(0, ⟨.isCancelled, false⟩), (1, ⟨.storeCancelled, ()⟩), (1, ⟨.notifyWaiters, ()⟩),
    (0, ⟨.notified, (0 : Nat)⟩)]

theorem cancel_lost : ¬∀ (tasks : List (CancelM Unit)) (log : List CancelLabel)
    (last : CancelConfig), (∀ task ∈ tasks, IsTask task) →
    Follows cancellation.Step ⟨.new, tasks⟩ log last → Reached log last := by
  intro reaches
  have follows : Follows cancellation.Step ⟨.new, [cancelled, cancel]⟩ checkStoreNotifyRegister
      ⟨⟨true, 1, 0, true, Nat.zero_le _⟩, [ask (.await 0), pure ()]⟩ :=
    .cons (.act rfl rfl) (.cons (.act rfl rfl) (.cons (.act rfl rfl)
      (.cons (.act rfl rfl) (.nil _))))
  have returns := reaches [cancelled, cancel] checkStoreNotifyRegister _
    (by simp [IsTask.cancelled, IsTask.cancel]) follows
    ⟨1, List.mem_of_getElem? (i := 2) rfl⟩ _ List.mem_cons_self
  exact Nat.lt_irrefl 0 (returns_await_iff.mp returns)

end Ziee.Workflow.Cancellation
