/-
**The health state machine of a local engine** (`llm_local_runtime/engine/health.rs`).

Times and durations are milliseconds; the clock is an argument. The failed and the stopped state
absorb every event but their own.

* `ExponentialBackoff.nextDelay` — the delay before the next attempt. The saturation of its
  arithmetic lies beyond the cap.
* `HealthStateMachine.onEvent` — one event, and what is to be done about it.
* `HealthStateMachine.fromPersisted` — what is rebuilt from the columns of a row.
* `fresh_dropWhile`, `recorded_fresh` — what the window counts.
* `onEvent_crashed` — **what a crash that is counted does**.
-/

import Mathlib.Tactic

namespace Ziee.LocalRuntime

inductive InstanceState
  | starting
  | healthy
  | unhealthy (reason : String) (since : Nat)
  | crashed (exitSignal : Option Int) (time : Nat)
  | restarting (attempt nextAt : Nat)
  | failed (reason : String)
  | stopped
  deriving DecidableEq

def InstanceState.name : InstanceState → String
  | .starting => "starting"
  | .healthy => "healthy"
  | .unhealthy _ _ => "unhealthy"
  | .crashed _ _ => "crashed"
  | .restarting _ _ => "restarting"
  | .failed _ => "failed"
  | .stopped => "stopped"

inductive HealthEvent
  | ok
  | unhealthy (reason : String)
  | crashed (exitSignal : Option Int)
  | restartAttempt
  | startedOk
  | adminStop
  | clearFailed
  deriving DecidableEq

inductive Transition
  | stateChanged (source target : String)
  | restart (attempt nextAt : Nat)
  | giveUp (reason : String)
  | noOp
  deriving DecidableEq

structure ExponentialBackoff where
  initial : Nat
  cap : Nat
  factor : Nat
  attempt : Nat
  deriving DecidableEq

def ExponentialBackoff.new (initial cap : Nat) : ExponentialBackoff := ⟨initial, cap, 2, 0⟩

def ExponentialBackoff.nextDelay (backoff : ExponentialBackoff) : Nat × ExponentialBackoff :=
  (min (backoff.initial * max (backoff.factor ^ backoff.attempt) 1) backoff.cap,
    { backoff with attempt := backoff.attempt + 1 })

def ExponentialBackoff.reset (backoff : ExponentialBackoff) : ExponentialBackoff :=
  { backoff with attempt := 0 }

structure SlidingWindow where
  window : Nat
  maxEvents : Nat
  events : List Nat
  deriving DecidableEq

def SlidingWindow.new (window maxEvents : Nat) : SlidingWindow := ⟨window, maxEvents, []⟩

/-- An event is recorded, behind the ones that have not expired; whether there are now too many. -/
def SlidingWindow.record (window : SlidingWindow) (now : Nat) : Bool × SlidingWindow :=
  let events := window.events.dropWhile (fun front => front + window.window < now) ++ [now]
  (window.maxEvents < events.length, { window with events := events })

def SlidingWindow.clear (window : SlidingWindow) : SlidingWindow := { window with events := [] }

/-! ### The machine -/

structure HealthStateMachine where
  state : InstanceState
  restartAttempts : Nat
  maxRestartAttempts : Nat
  backoff : ExponentialBackoff
  flapWindow : SlidingWindow
  deriving DecidableEq

namespace HealthStateMachine

def new (maxRestartAttempts : Nat) : HealthStateMachine :=
  ⟨.starting, 0, maxRestartAttempts, .new 1000 60000, .new 60000 5⟩

/-- Only the terminal states are rebuilt as they were. -/
def fromPersisted (maxRestartAttempts : Nat) (stateName : String) (restartAttempts : Int)
    (lastFailureReason : Option String) : HealthStateMachine :=
  { new maxRestartAttempts with
    restartAttempts := restartAttempts.toNat
    state :=
      if stateName = "failed" then
        .failed (lastFailureReason.getD "failed (restored from persisted state)")
      else if stateName = "stopped" then .stopped
      else .starting }

def clearFailed (machine : HealthStateMachine) : HealthStateMachine :=
  match machine.state with
  | .failed _ => { machine with
      state := .stopped
      restartAttempts := 0
      backoff := machine.backoff.reset
      flapWindow := machine.flapWindow.clear }
  | _ => machine

def crash (machine : HealthStateMachine) (exitSignal : Option Int) (now : Nat) :
    Transition × HealthStateMachine :=
  let recorded := machine.flapWindow.record now
  let machine := { machine with state := .crashed exitSignal now, flapWindow := recorded.2 }
  if recorded.1 then
    let reason := "engine crashed " ++ toString machine.flapWindow.events.length ++
      " times within " ++ toString (machine.flapWindow.window / 1000) ++ "s (flap protection)"
    (.giveUp reason, { machine with state := .failed reason })
  else if machine.maxRestartAttempts ≤ machine.restartAttempts then
    let reason := "exceeded max restart attempts (" ++ toString machine.restartAttempts ++ "/" ++
      toString machine.maxRestartAttempts ++ ")"
    (.giveUp reason, { machine with state := .failed reason })
  else
    let delay := machine.backoff.nextDelay
    let attempt := machine.restartAttempts + 1
    let nextAt := now + delay.1
    (.restart attempt nextAt,
      { machine with state := .restarting attempt nextAt, backoff := delay.2 })

/-- **`on_event_at`.** -/
def onEvent (machine : HealthStateMachine) (event : HealthEvent) (now : Nat) :
    Transition × HealthStateMachine :=
  match machine.state, event with
  | .starting, .ok | .starting, .startedOk | .unhealthy _ _, .ok | .restarting _ _, .startedOk =>
    (.stateChanged machine.state.name "healthy",
      { machine with state := .healthy, backoff := machine.backoff.reset })
  | .healthy, .unhealthy reason | .starting, .unhealthy reason =>
    (.stateChanged machine.state.name "unhealthy", { machine with state := .unhealthy reason now })
  | .healthy, .crashed exitSignal | .starting, .crashed exitSignal
  | .unhealthy _ _, .crashed exitSignal | .restarting _ _, .crashed exitSignal =>
    machine.crash exitSignal now
  | .restarting _ _, .restartAttempt =>
    (.stateChanged machine.state.name "starting",
      { machine with state := .starting, restartAttempts := machine.restartAttempts + 1 })
  | .stopped, .adminStop => (.noOp, machine)
  | _, .adminStop =>
    (.stateChanged machine.state.name "stopped",
      { machine with state := .stopped, backoff := machine.backoff.reset })
  | .failed _, .clearFailed => (.stateChanged machine.state.name "stopped", machine.clearFailed)
  | _, _ => (.noOp, machine)

end HealthStateMachine

/-! ### What the window counts -/

def fresh (events : List Nat) (window time : Nat) : Nat :=
  events.countP fun event => decide (time ≤ event + window)

variable {now : Nat} {machine : HealthStateMachine} {event : HealthEvent}

theorem fresh_dropWhile (events : List Nat) {window time : Nat} (later : now ≤ time) :
    fresh (events.dropWhile fun front => front + window < now) window time =
      fresh events window time := by
  induction events with
  | nil => rfl
  | cons first rest ih =>
    by_cases expired : first + window < now
    · rw [List.dropWhile_cons, if_pos (decide_eq_true expired), ih, fresh, fresh,
        List.countP_cons_of_neg]
      simp only [decide_eq_true_eq, Nat.not_le]
      exact Nat.lt_of_lt_of_le expired later
    · rw [List.dropWhile_cons, if_neg (by simpa using expired)]

theorem recorded_fresh (window : SlidingWindow) {time : Nat} (later : now ≤ time) :
    fresh (window.record now).2.events window.window time =
      fresh window.events window.window time + fresh [now] window.window time := by
  rw [← fresh_dropWhile window.events later]
  exact List.countP_append

/-- **Enough fresh events trip the window.** -/
theorem record_trips (window : SlidingWindow)
    (enough : window.maxEvents ≤ fresh window.events window.window now) :
    (window.record now).1 = true := by
  have few : fresh window.events window.window now ≤
      (window.events.dropWhile fun front => front + window.window < now).length := by
    rw [← fresh_dropWhile window.events (Nat.le_refl now)]
    exact List.countP_le_length
  have longer : window.maxEvents < (window.events.dropWhile
      (fun front => front + window.window < now) ++ [now]).length := by
    rw [List.length_append, List.length_singleton]
    omega
  exact decide_eq_true longer

/-! ### What the machine does with its events -/

def InstanceState.counts : InstanceState → Bool
  | .starting | .healthy | .unhealthy _ _ | .restarting _ _ => true
  | _ => false

def InstanceState.isFailed : InstanceState → Bool
  | .failed _ => true
  | _ => false

namespace HealthStateMachine

/-- **What a crash that is counted does**: the machine gives up, which it does when the window
trips, or it waits for the next attempt. -/
theorem onEvent_crashed (counts : machine.state.counts = true)
    (exitSignal : Option Int) (now : Nat) :
    (∃ reason state, machine.onEvent (.crashed exitSignal) now = (.giveUp reason, state) ∧
      state.state = .failed reason ∧ state.flapWindow = (machine.flapWindow.record now).2) ∨
    (∃ attempt nextAt state, machine.onEvent (.crashed exitSignal) now =
        (.restart attempt nextAt, state) ∧ state.state = .restarting attempt nextAt ∧
      state.flapWindow = (machine.flapWindow.record now).2 ∧
      (machine.flapWindow.record now).1 = false) := by
  have crashes : machine.onEvent (.crashed exitSignal) now = machine.crash exitSignal now := by
    unfold onEvent
    cases state : machine.state <;> rw [state] at counts <;> first | rfl | cases counts
  rw [crashes]
  unfold crash
  by_cases trips : (machine.flapWindow.record now).1 = true
  · exact .inl ⟨_, _, if_pos trips, rfl, rfl⟩
  · rw [if_neg trips]
    by_cases exceeded : machine.maxRestartAttempts ≤ machine.restartAttempts
    · exact .inl ⟨_, _, if_pos exceeded, rfl, rfl⟩
    · exact .inr ⟨_, _, _, if_neg exceeded, rfl, rfl, by simpa using trips⟩


theorem onEvent_clearFailed (failed : machine.state.isFailed = true)
    (now : Nat) : ∃ transition machine', machine.onEvent .clearFailed now = (transition, machine') ∧
      machine'.state = .stopped ∧ machine'.flapWindow = machine.flapWindow.clear := by
  unfold onEvent clearFailed
  cases state : machine.state with
  | failed reason => exact ⟨_, _, rfl, rfl, rfl⟩
  | _ =>
    rw [state] at failed
    cases failed

/-- The events that tell neither of a crash nor of an admin. -/
def isVital : HealthEvent → Bool
  | .ok | .unhealthy _ | .startedOk => true
  | _ => false

structure Steady (machine machine' : HealthStateMachine) : Prop where
  flapWindow : machine'.flapWindow = machine.flapWindow
  counts : machine'.state.counts = machine.state.counts
  isFailed : machine'.state.isFailed = machine.state.isFailed
  stopped : machine'.state = .stopped ↔ machine.state = .stopped

theorem Steady.refl (machine : HealthStateMachine) : Steady machine machine :=
  ⟨rfl, rfl, rfl, Iff.rfl⟩

/-- **Such an event neither stops nor fails the machine**, nor does it end these states. -/
theorem onEvent_vital (machine : HealthStateMachine)
    (vital : isVital event = true) (now : Nat) : Steady machine (machine.onEvent event now).2 := by
  unfold onEvent
  cases state : machine.state <;> cases event <;> first
    | exact absurd vital Bool.false_ne_true
    | exact Steady.refl machine
    | exact ⟨rfl, by rw [state]; rfl, by rw [state]; rfl, by rw [state]; simp⟩

theorem onEvent_vital_target (vital : isVital event = true) {source target : String}
    (changed : (machine.onEvent event now).1 = .stateChanged source target) :
    target = "healthy" ∨ target = "unhealthy" := by
  unfold onEvent at changed
  cases state : machine.state <;> cases event <;> rw [state] at changed <;> first
    | exact absurd vital Bool.false_ne_true
    | (cases changed; exact .inl rfl)
    | (cases changed; exact .inr rfl)
    | cases changed

end HealthStateMachine

end Ziee.LocalRuntime
