/-
**The circuit breaker of a server's connections** (`mcp/client/manager.rs`, the session-building
paths of `chat_extension/mcp.rs` and `agent_tool_call.rs`).

An attempt looks at the breaker, dials, and records how the connect ended. These are separate steps,
and any number of attempts is under way at once.

* `breakerBackoff`, `shouldAttemptConnect`, `checkConnectionBreaker`, `recordFailureInto` — the
  breaker.
* `State`, `step`, `run` — all attempts on one server, in any order; `history` — what happened.
* `calm` — no attempt looks at a failure that another one under way has looked at, an attempt dials
  with the breaker as it found it, the outcomes are recorded in their order, each by a path that
  records it.
* **`run_calm`** — **every calm run counts, and dials once in a window**.
-/

import Mathlib.Algebra.Order.Ring.Nat
import Mathlib.Data.List.Basic

namespace Ziee.Mcp

/-- The failing streak of a server; times are in nanoseconds. -/
structure BreakerState where
  lastFailure : Nat
  consecutive : Nat
  lastError : String
  deriving DecidableEq, Repr

def nanosPerSecond : Nat := 1000000000

def u32Max : Nat := 0xFFFFFFFF

/-- `BREAKER_BASE_COOLDOWN`, in seconds. -/
def breakerBaseCooldown : Nat := 1

/-- `BREAKER_MAX_COOLDOWN`, in seconds. -/
def breakerMaxCooldown : Nat := 5 * 60

/-- `breaker_backoff`, in nanoseconds. -/
def breakerBackoff (consecutive : Nat) : Nat :=
  let shift := min (consecutive - 1) 63
  min (max breakerBaseCooldown 1 * 2 ^ shift) breakerMaxCooldown * nanosPerSecond

def shouldAttemptConnect (state : Option BreakerState) (now : Nat) : Bool :=
  match state with
  | none => true
  | some s => breakerBackoff s.consecutive ≤ now - s.lastFailure

def checkConnectionBreaker (failures : Option BreakerState) (now : Nat) : Except String Unit :=
  match failures with
  | some state =>
    if shouldAttemptConnect (some state) now then .ok ()
    else .error (s!"MCP server is unreachable and in a connection cooldown after " ++
      s!"{state.consecutive} consecutive failure(s); last error: {state.lastError}")
  | none => .ok ()

/-- `record_failure_into`, for the server. -/
def recordFailureInto (failures : Option BreakerState) (now : Nat) (err : String) : BreakerState :=
  let entry := failures.getD ⟨now, 0, ""⟩
  { lastFailure := now, consecutive := min (entry.consecutive + 1) u32Max, lastError := err }

/-! ### The attempts -/

/-- What builds a session: `get_or_create` and `get_or_create_with_context`; the latter under the
time budget of the tool collection; the always mode; a sampling session. -/
inductive Path
  | pooled
  | collected
  | always
  | sampling
  deriving DecidableEq, Repr

/-- The clients of the paths' time budgets read the server's name and its timeout. -/
structure Dialed where
  name : String
  timeoutSeconds : Nat

/-- What the outer code of a path records when its time budget is over. -/
def Dialed.timeoutErr (server : Dialed) : Path → String
  | .always => s!"Always-mode MCP server '{server.name}' connect timed out after " ++
      s!"{max server.timeoutSeconds 1}s"
  | _ => s!"MCP server '{server.name}' connect timed out after " ++
      s!"{max server.timeoutSeconds 1}s during tool collection"

/-- Where an attempt stands; between the look and the end of the connect, with the breaker it looked
at. -/
inductive Phase
  | entered
  | passed (seen : Option BreakerState)
  | dialing (seen : Option BreakerState)
  | connected
  | failed (err : String)
  | timedOut
  | done
  deriving DecidableEq, Repr

inductive Event
  | dialed (time : Nat)
  | succeeded (time : Nat)
  | failed (time : Nat)
  deriving DecidableEq, Repr

inductive Move
  /-- The breaker is checked; a sampling session does not look. -/
  | look
  /-- The session is not built: it is there already, or the server's row or its headers cannot be
  made. -/
  | leave (err : String)
  | dial
  | connect (outcome : Except String Unit)
  /-- The time budget is over. -/
  | expire
  /-- The outcome is recorded. -/
  | settle

/-- What a step of an attempt leaves. -/
structure Acted where
  phase : Phase
  breaker : Option BreakerState
  events : List Event

def connectEnded (path : Path) (breaker : Option BreakerState) (now : Nat) :
    Except String Unit → Acted
  | .ok () =>
    match path with
    | .pooled | .collected => ⟨.connected, breaker, [.succeeded now]⟩
    | .always | .sampling => ⟨.done, breaker, [.succeeded now]⟩
  | .error err =>
    match path with
    | .pooled | .collected | .always => ⟨.failed err, breaker, [.failed now]⟩
    | .sampling => ⟨.done, breaker, [.failed now]⟩

def Phase.covered : Path → Phase → Bool
  | .collected, .entered | .collected, .passed _ | .collected, .dialing _ | .collected, .connected
  | .collected, .failed _ => true
  | .always, .passed _ | .always, .dialing _ => true
  | _, _ => false

/-- **A step of an attempt.** -/
def Phase.act (server : Dialed) (path : Path) (now : Nat) (breaker : Option BreakerState)
    (phase : Phase) : Move → Option Acted
  | .look =>
    match phase with
    | .entered =>
      if path = .sampling then some ⟨.passed none, breaker, []⟩
      else
        match checkConnectionBreaker breaker now with
        | .ok () => some ⟨.passed breaker, breaker, []⟩
        | .error _ => some ⟨.done, breaker, []⟩
    | _ => none
  | .leave err =>
    match phase with
    | .entered => some ⟨.done, breaker, []⟩
    | .passed _ => if path = .always then some ⟨.failed err, breaker, []⟩ else some
      ⟨.done, breaker, []⟩
    | _ => none
  | .dial =>
    match phase with
    | .passed seen => some ⟨.dialing seen, breaker, [.dialed now]⟩
    | _ => none
  | .connect outcome =>
    match phase with
    | .dialing _ => some (connectEnded path breaker now outcome)
    | _ => none
  | .expire =>
    if phase.covered path then
      match phase with
      | .dialing _ => some ⟨.timedOut, breaker, [.failed now]⟩
      | _ => some ⟨.timedOut, breaker, []⟩
    else none
  | .settle =>
    match phase with
    | .connected => some ⟨.done, none, []⟩
    | .failed err => some ⟨.done, some (recordFailureInto breaker now err), []⟩
    | .timedOut => some ⟨.done, some (recordFailureInto breaker now (server.timeoutErr path)), []⟩
    | _ => none

/-! ### The attempts together -/

/-- The attempts on one server, and what happened, the last first. -/
structure State where
  now : Nat
  breaker : Option BreakerState
  attempts : List (Path × Phase)
  history : List Event
  deriving DecidableEq, Repr

def State.start (now : Nat) : State := ⟨now, none, [], []⟩

inductive Label
  | wait (nanos : Nat)
  | enter (path : Path)
  | act (index : Nat) (move : Move)

def State.after (state : State) (index : Nat) (path : Path) (acted : Acted) : State where
  now := state.now
  breaker := acted.breaker
  attempts := state.attempts.set index (path, acted.phase)
  history := acted.events ++ state.history

/-- **A step**: time passes, an attempt begins, or one goes on. -/
def step (server : Dialed) (state : State) : Label → Option State
  | .wait nanos => some { state with now := state.now + nanos }
  | .enter path => some { state with attempts := state.attempts ++ [(path, .entered)] }
  | .act index move =>
    match state.attempts[index]? with
    | none => none
    | some (path, phase) =>
      (phase.act server path state.now state.breaker move).map fun acted =>
        state.after index path acted

def run (allowed : State → Label → Bool) (server : Dialed) : State → List Label → Option State
  | state, [] => some state
  | state, label :: labels =>
    if allowed state label then (step server state label).bind fun next =>
      run allowed server next labels
    else none

/-! ### What should hold -/

def failuresSince : List Event → Nat
  | [] => 0
  | .dialed _ :: before => failuresSince before
  | .succeeded _ :: _ => 0
  | .failed _ :: before => failuresSince before + 1

/-- The outcome of the attempt is not recorded yet. -/
def Phase.waits : Phase → Bool
  | .connected | .failed _ | .timedOut => true
  | _ => false

def recorded (breaker : Option BreakerState) : Nat := breaker.elim 0 (·.consecutive)

/-- **The count**: when every outcome is recorded, it is that of the failed connects since the last
successful one. -/
def Counted (state : State) : Prop :=
  (∀ attempt ∈ state.attempts, attempt.2.waits = false) →
    recorded state.breaker = failuresSince state.history

/-- No server failed since the last success, or the last thing that happened is a failure whose
window is over. -/
def MayDial (time : Nat) (before : List Event) : Prop :=
  failuresSince before = 0 ∨ ∃ failure earlier, before = .failed failure :: earlier ∧
    failure + breakerBackoff (failuresSince before) ≤ time

/-- **One dial in a window**: after a failure, no dial before its window is over, and no second one
until the next outcome. -/
def OncePerWindow : List Event → Prop
  | [] => True
  | .dialed time :: before => MayDial time before ∧ OncePerWindow before
  | _ :: before => OncePerWindow before

/-! ### Calm steps -/

/-- The breaker that an attempt on its way has looked at. -/
def Phase.seen : Phase → Option BreakerState
  | .passed seen | .dialing seen => seen
  | _ => none

/-- Every outcome is recorded. -/
def State.settled (state : State) : Bool := state.attempts.all fun attempt => !attempt.2.waits

/-- **The step of an attempt is calm.** -/
def calmMove (state : State) (path : Path) (phase : Phase) : Move → Bool
  -- no other attempt on its way has looked at the same failure
  | .look => path = .sampling || state.breaker.isNone || !shouldAttemptConnect state.breaker
    state.now || state.attempts.all fun attempt => attempt.2.seen ≠ state.breaker
  -- the always mode records a row that it cannot read as a failed connect
  | .leave _ => path ≠ .always || phase = .entered
  -- the breaker is as the attempt found it, and no outcome is on its way to it
  | .dial => phase.seen = state.breaker && state.settled
  -- the path records the outcome, and no earlier one waits
  | .connect (.ok ()) => state.settled && (path = .pooled || path =
    .collected || state.breaker.isNone)
  | .connect (.error _) => state.settled && path ≠ .sampling
  -- the time budget ends a connect, or one that failed
  | .expire =>
    match phase with
    | .dialing _ => state.settled
    | .failed _ => true
    | _ => false
  | .settle => phase = .connected || recorded state.breaker < u32Max

def calm (state : State) : Label → Bool
  | .act index move =>
    match state.attempts[index]? with
    | some (path, phase) => calmMove state path phase move
    | none => true
  | _ => true

/-! ### What a calm step does -/

variable {server : Dialed} {state state' : State} {path : Path} {phase : Phase} {move : Move}
  {acted : Acted} {index : Nat}

variable {breaker : Option BreakerState} {next : Path × Phase}

theorem shouldAttemptConnect_some {b : BreakerState} {now : Nat} :
    shouldAttemptConnect (some b) now = true ↔
      breakerBackoff b.consecutive ≤ now - b.lastFailure := by
  unfold shouldAttemptConnect
  exact decide_eq_true_iff

/-- **What a calm step of an attempt does.** -/
inductive CalmAct (state : State) (phase : Phase) : Acted → Prop
  /-- It leaves, or is refused, or does not look. -/
  | aside {next : Phase} : phase.waits = false → (∀ seen, phase ≠ .dialing seen) →
    next.waits = false →
      next.seen = none → CalmAct state phase ⟨next, state.breaker, []⟩
  | look : phase = .entered → shouldAttemptConnect state.breaker state.now = true →
      (state.breaker = none ∨ ∀ attempt ∈ state.attempts, attempt.2.seen ≠ state.breaker) →
      CalmAct state phase ⟨.passed state.breaker, state.breaker, []⟩
  | dial : phase = .passed state.breaker → state.settled = true →
      CalmAct state phase ⟨.dialing state.breaker, state.breaker, [.dialed state.now]⟩
  | connected {seen : Option BreakerState} : phase = .dialing seen → state.settled = true →
      CalmAct state phase ⟨.connected, state.breaker, [.succeeded state.now]⟩
  /-- A connect that clears nothing finds nothing to clear. -/
  | unrecorded {seen : Option BreakerState} : phase = .dialing seen → state.settled = true →
      state.breaker = none → CalmAct state phase ⟨.done, state.breaker, [.succeeded state.now]⟩
  | failed {seen : Option BreakerState} {next : Phase} : phase = .dialing seen →
    state.settled = true →
      next.waits = true → next ≠ .connected →
      CalmAct state phase ⟨next, state.breaker, [.failed state.now]⟩
  /-- The budget is over when the connect has failed. -/
  | late {err : String} : phase = .failed err → CalmAct state phase ⟨.timedOut, state.breaker, []⟩
  | cleared : phase = .connected → CalmAct state phase ⟨.done, none, []⟩
  | recorded {err : String} : phase.waits = true → phase ≠ .connected →
      CalmAct state phase ⟨.done, some ⟨state.now, recorded state.breaker + 1, err⟩, []⟩

theorem recordFailureInto_eq (small : recorded state.breaker < u32Max) (err : String) :
    recordFailureInto state.breaker state.now err =
      ⟨state.now, recorded state.breaker + 1, err⟩ := by
  have count : (state.breaker.getD ⟨state.now, 0, ""⟩).consecutive = recorded state.breaker := by
    unfold recorded
    cases state.breaker <;> rfl
  have next : min ((state.breaker.getD ⟨state.now, 0, ""⟩).consecutive + 1) u32Max =
      recorded state.breaker + 1 := by
    rw [count]
    omega
  exact congrArg (fun consecutive => BreakerState.mk state.now consecutive err) next

theorem shouldAttemptConnect_of_checked {now : Nat} {value : Unit}
    (checked : checkConnectionBreaker breaker now = .ok value) :
    shouldAttemptConnect breaker now = true := by
  cases breaker with
  | none => rfl
  | some b =>
    by_contra refused
    rw [checkConnectionBreaker, if_neg refused] at checked
    cases checked

theorem looks_free (sampling : path ≠ .sampling)
    (passes : shouldAttemptConnect state.breaker state.now = true)
    (quiet : calmMove state path phase .look = true) :
    state.breaker = none ∨ ∀ attempt ∈ state.attempts, attempt.2.seen ≠ state.breaker := by
  have free : (decide (path = .sampling) || state.breaker.isNone ||
      !shouldAttemptConnect state.breaker state.now ||
      state.attempts.all fun attempt => decide (attempt.2.seen ≠ state.breaker)) = true := quiet
  rw [passes, decide_eq_false sampling, Bool.false_or, Bool.not_true, Bool.or_false,
    Bool.or_eq_true, List.all_eq_true] at free
  rcases free with none | free
  · exact Or.inl (Option.isNone_iff_eq_none.mp none)
  · exact Or.inr fun attempt member => of_decide_eq_true (free attempt member)

theorem calmAct_of (quiet : calmMove state path phase move = true)
    (act : phase.act server path state.now state.breaker move = some acted) :
    CalmAct state phase acted := by
  cases move with
  | look =>
    cases phase with
    | entered =>
      dsimp only [Phase.act] at act
      by_cases sampling : path = .sampling
      · rw [if_pos sampling] at act
        cases act
        exact .aside rfl nofun rfl rfl
      · rw [if_neg sampling] at act
        cases checked : checkConnectionBreaker state.breaker state.now with
        | error refused =>
          rw [checked] at act
          cases act
          exact .aside rfl nofun rfl rfl
        | ok value =>
          rw [checked] at act
          cases act
          exact .look rfl (shouldAttemptConnect_of_checked checked)
            (looks_free sampling (shouldAttemptConnect_of_checked checked) quiet)
    | _ => cases act
  | leave err =>
    cases phase with
    | entered =>
      cases act
      exact .aside rfl nofun rfl rfl
    | passed seen =>
      have read : path ≠ .always := by
        unfold calmMove at quiet
        simpa using quiet
      dsimp only [Phase.act] at act
      rw [if_neg read] at act
      cases act
      exact .aside rfl nofun rfl rfl
    | _ => cases act
  | dial =>
    cases phase with
    | passed seen =>
      cases act
      unfold calmMove at quiet
      obtain ⟨same, settled⟩ := Bool.and_eq_true_iff.mp quiet
      have found : seen = state.breaker := of_decide_eq_true same
      subst found
      exact .dial rfl settled
    | _ => cases act
  | connect outcome =>
    cases phase with
    | dialing seen =>
      dsimp only [Phase.act] at act
      cases act
      cases outcome with
      | ok value =>
        unfold calmMove at quiet
        obtain ⟨settled, clears⟩ := Bool.and_eq_true_iff.mp quiet
        cases path with
        | pooled | collected => exact .connected rfl settled
        | always | sampling => exact .unrecorded rfl settled (by simpa using clears)
      | error err =>
        unfold calmMove at quiet
        obtain ⟨settled, records⟩ := Bool.and_eq_true_iff.mp quiet
        cases path with
        | sampling => simp at records
        | _ => exact .failed rfl settled rfl nofun
    | _ => cases act
  | expire =>
    dsimp only [Phase.act] at act
    split at act
    · cases phase with
      | dialing seen =>
        cases act
        exact .failed rfl quiet rfl nofun
      | failed err =>
        cases act
        exact .late rfl
      | _ => cases quiet
    · cases act
  | settle =>
    have small (waits : phase ≠ .connected) : recorded state.breaker < u32Max := by
      have either : (decide (phase = .connected) || decide (recorded state.breaker < u32Max)) =
        true :=
        quiet
      rw [Bool.or_eq_true, decide_eq_true_iff, decide_eq_true_iff] at either
      exact either.resolve_left waits
    cases phase with
    | connected =>
      cases act
      exact .cleared rfl
    | failed err =>
      cases act
      rw [recordFailureInto_eq (small nofun)]
      exact .recorded rfl nofun
    | timedOut =>
      cases act
      rw [recordFailureInto_eq (small nofun)]
      exact .recorded rfl nofun
    | _ => cases act

/-! ### What the attempts have looked at -/

structure Looks (now : Nat) (attempts : List (Path × Phase)) : Prop where
  expired : ∀ (i : Nat) (attempt : Path × Phase) (b : BreakerState), attempts[i]? = some attempt →
    attempt.2.seen = some b → b.lastFailure + breakerBackoff b.consecutive ≤ now
  apart : ∀ (i j : Nat) (attempt other : Path × Phase), i ≠ j → attempts[i]? = some attempt →
    attempts[j]? = some other → attempt.2.seen = other.2.seen → attempt.2.seen = none

variable {now : Nat} {attempts : List (Path × Phase)} {old attempt : Path × Phase}

theorem set_cases {i : Nat} (there : (attempts.set index next)[i]? = some attempt) :
    (i = index ∧ attempt = next) ∨ (i ≠ index ∧ attempts[i]? = some attempt) := by
  by_cases same : i = index
  · subst same
    have inside : i < attempts.length := by
      have bound := (List.getElem?_eq_some_iff.mp there).1
      rwa [List.length_set] at bound
    rw [List.getElem?_set_self inside] at there
    exact Or.inl ⟨rfl, (Option.some.inj there).symm⟩
  · rw [List.getElem?_set_ne (Ne.symm same)] at there
    exact Or.inr ⟨same, there⟩

theorem Looks.later (looks : Looks now attempts) (more : Nat) : Looks (now + more) attempts :=
  ⟨fun i attempt b there seen => Nat.le_add_right_of_le (looks.expired i attempt b there seen),
    looks.apart⟩

theorem append_cases {i : Nat} (there : (attempts ++ [next])[i]? = some attempt) :
    attempts[i]? = some attempt ∨ attempt = next := by
  rcases Nat.lt_or_ge i attempts.length with inside | beyond
  · rw [List.getElem?_append_left inside] at there
    exact Or.inl there
  · rw [List.getElem?_append_right beyond] at there
    exact Or.inr (List.mem_singleton.mp (List.mem_of_getElem? there))

theorem Looks.append (looks : Looks now attempts) (path : Path) :
    Looks now (attempts ++ [(path, .entered)]) := by
  constructor
  · intro i attempt b there seen
    rcases append_cases there with before | rfl
    · exact looks.expired i attempt b before seen
    · cases seen
  · intro i j attempt other differs here there same
    rcases append_cases here with before | rfl
    · rcases append_cases there with before' | rfl
      · exact looks.apart i j attempt other differs before before' same
      · exact same
    · rfl

theorem Looks.replace (looks : Looks now attempts)
    (expires : ∀ b, next.2.seen = some b → b.lastFailure + breakerBackoff b.consecutive ≤ now)
    (alone : ∀ (i : Nat) (other : Path × Phase), i ≠ index → attempts[i]? = some other →
      other.2.seen = next.2.seen → next.2.seen = none) :
    Looks now (attempts.set index next) := by
  constructor
  · intro i attempt b there seen
    rcases set_cases there with ⟨rfl, rfl⟩ | ⟨-, before⟩
    · exact expires b seen
    · exact looks.expired i attempt b before seen
  · intro i j attempt other differs one two same
    rcases set_cases one with ⟨rfl, rfl⟩ | ⟨first, before⟩
    · rcases set_cases two with ⟨rfl, -⟩ | ⟨second, before'⟩
      · exact absurd rfl differs
      · exact alone j other second before' same.symm
    · rcases set_cases two with ⟨rfl, rfl⟩ | ⟨-, before'⟩
      · exact same.trans (alone i attempt first before same)
      · exact looks.apart i j attempt other differs before before' same

theorem Looks.set (looks : Looks now attempts) (here : attempts[index]? = some old)
    (kept : next.2.seen = none ∨ next.2.seen = old.2.seen) : Looks now
    (attempts.set index next) := by
  rcases kept with none | same
  · exact looks.replace (fun b seen => by cases none.symm.trans seen) fun _ _ _ _ _ => none
  · refine looks.replace (fun b seen => looks.expired index old b here (same.symm.trans seen)) ?_
    intro i other differs there alike
    rw [same] at alike ⊢
    exact looks.apart index i old other (Ne.symm differs) here there alike.symm

theorem Looks.look (looks : Looks now attempts) (passes : shouldAttemptConnect breaker now = true)
    (free : breaker = none ∨ ∀ attempt ∈ attempts, attempt.2.seen ≠ breaker) :
    Looks now (attempts.set index (path, .passed breaker)) := by
  refine looks.replace (fun b seen => ?_) fun i other _ there same => ?_
  · have found : breaker = some b := seen
    rw [found, shouldAttemptConnect_some] at passes
    have cooled : 0 < breakerBackoff b.consecutive := by
      unfold breakerBackoff nanosPerSecond
      exact Nat.mul_pos (Nat.lt_min.mpr ⟨Nat.mul_pos (by decide) (Nat.two_pow_pos _), by decide⟩)
        (by decide)
    omega
  · rcases free with none | free
    · exact none
    · exact absurd same (free other (List.mem_of_getElem? there))

/-! ### The books -/

def LastFailed (b : BreakerState) (history : List Event) : Prop :=
  ∃ failure earlier, history = .failed failure :: earlier ∧ failure ≤ b.lastFailure

/-- **When every outcome is recorded**: the count is right, and no dial followed the last failure
but that of an attempt on its way which has looked at it. -/
structure Balanced (state : State) : Prop where
  count : recorded state.breaker = failuresSince state.history
  probe : ∀ b, state.breaker = some b → LastFailed b state.history ∨
    ∃ (i : Nat) (path : Path), state.attempts[i]? = some (path, .dialing (some b))

/-- **While an outcome waits**: it is the only one, and the last thing that happened. -/
structure Owing (state : State) (index : Nat) (phase : Phase) : Prop where
  alone : ∀ (i : Nat) (attempt : Path × Phase), i ≠ index → state.attempts[i]? = some attempt →
    attempt.2.waits = false
  cleared : phase = .connected → failuresSince state.history = 0
  failed : phase ≠ .connected → ∃ failure earlier, state.history = .failed failure :: earlier ∧
    failure ≤ state.now ∧ recorded state.breaker = failuresSince earlier

structure Inv (state : State) : Prop where
  windows : OncePerWindow state.history
  looks : Looks state.now state.attempts
  balanced : state.settled = true → Balanced state
  owing : ∀ (index : Nat) (path : Path) (phase : Phase),
    state.attempts[index]? = some (path, phase) → phase.waits = true → Owing state index phase

theorem settled_iff : state.settled = true ↔
    ∀ (i : Nat) (attempt : Path × Phase), state.attempts[i]? = some attempt →
      attempt.2.waits = false := by
  unfold State.settled
  rw [List.all_eq_true]
  constructor
  · intro all i attempt there
    simpa using all attempt (List.mem_of_getElem? there)
  · intro all attempt member
    obtain ⟨i, there⟩ := List.getElem?_of_mem member
    simpa using all i attempt there

/-! ### Every step keeps the books -/

theorem getElem?_after (here : state.attempts[index]? = some (path, phase)) :
    (state.after index path acted).attempts[index]? = some (path, acted.phase) :=
  List.getElem?_set_self (List.getElem?_eq_some_iff.mp here).1

theorem getElem?_after_ne {i : Nat} (differs : i ≠ index) :
    (state.after index path acted).attempts[i]? = state.attempts[i]? :=
  List.getElem?_set_ne (Ne.symm differs)

theorem owing_after (others : ∀ (i : Nat) (attempt : Path × Phase), i ≠ index →
      state.attempts[i]? = some attempt → attempt.2.waits = false)
    (own : acted.phase.waits = true → Owing (state.after index path acted) index acted.phase) :
    ∀ (i : Nat) (path' : Path) (phase' : Phase),
      (state.after index path acted).attempts[i]? = some (path', phase') → phase'.waits = true →
        Owing (state.after index path acted) i phase' := by
  intro i path' phase' there waits
  rcases set_cases there with ⟨rfl, same⟩ | ⟨differs, before⟩
  · cases same
    exact own waits
  · exact Bool.noConfusion ((others i _ differs before).symm.trans waits)

theorem others_after (others : ∀ (i : Nat) (attempt : Path × Phase), i ≠ index →
      state.attempts[i]? = some attempt → attempt.2.waits = false) :
    ∀ (i : Nat) (attempt : Path × Phase), i ≠ index →
      (state.after index path acted).attempts[i]? = some attempt → attempt.2.waits = false := by
  intro i attempt differs there
  rw [getElem?_after_ne differs] at there
  exact others i attempt differs there

theorem not_settled_after (here : state.attempts[index]? = some (path, phase))
    (waits : acted.phase.waits = true) : (state.after index path acted).settled = false := by
  rw [Bool.eq_false_iff]
  intro settled
  exact Bool.noConfusion ((settled_iff.mp settled index _ (getElem?_after here)).symm.trans waits)

theorem Inv.aside (inv : Inv state) (here : state.attempts[index]? = some (path, phase))
    {next : Phase} (quiet : phase.waits = false) (apart : ∀ seen, phase ≠ .dialing seen)
    (quiet' : next.waits = false) (looks : Looks state.now
      (state.attempts.set index (path, next))) :
    Inv (state.after index path ⟨next, state.breaker, []⟩) := by
  refine ⟨inv.windows, looks, ?_, ?_⟩
  · intro settled
    have before : state.settled = true := by
      rw [settled_iff]
      intro i attempt there
      by_cases same : i = index
      · subst same
        cases here.symm.trans there
        exact quiet
      · rw [← getElem?_after_ne same] at there
        exact settled_iff.mp settled i attempt there
    have balanced := inv.balanced before
    refine ⟨balanced.count, fun b found => ?_⟩
    rcases balanced.probe b found with last | ⟨i, path', dials⟩
    · exact Or.inl last
    · refine Or.inr ⟨i, path', ?_⟩
      have differs : i ≠ index := by
        rintro rfl
        cases here.symm.trans dials
        exact apart _ rfl
      rwa [getElem?_after_ne differs]
  · intro i path' phase' there waits
    rcases set_cases there with ⟨rfl, same⟩ | ⟨differs, before⟩
    · cases same
      exact Bool.noConfusion (quiet'.symm.trans waits)
    · have owes := inv.owing i path' phase' before waits
      refine ⟨fun j attempt apart' there' => ?_, owes.cleared, owes.failed⟩
      rcases set_cases there' with ⟨rfl, rfl⟩ | ⟨-, before'⟩
      · exact quiet'
      · exact owes.alone j attempt apart' before'

theorem Inv.dial (inv : Inv state) (here : state.attempts[index]? = some
    (path, .passed state.breaker)) (settled : state.settled = true) :
    Inv (state.after index path ⟨.dialing state.breaker, state.breaker, [.dialed state.now]⟩) := by
  have balanced := inv.balanced settled
  have others := fun i attempt (_ : i ≠ index) there => settled_iff.mp settled i attempt there
  refine ⟨⟨?_, inv.windows⟩, inv.looks.set here (Or.inr rfl), fun _ =>
    ⟨balanced.count, fun b found => ?_⟩,
    owing_after others nofun⟩
  · cases found : state.breaker with
    | none =>
      have count := balanced.count
      rw [found] at count
      exact Or.inl count.symm
    | some b =>
      have seen : Phase.seen (.passed state.breaker) = some b := found
      have late := inv.looks.expired index _ b here seen
      have count := balanced.count
      rw [found] at count
      rcases balanced.probe b found with ⟨failure, earlier, last, early⟩ | ⟨i, path', dials⟩
      · refine Or.inr ⟨failure, earlier, last, ?_⟩
        have consecutive : b.consecutive = failuresSince state.history := count
        rw [consecutive] at late
        exact Nat.le_trans (Nat.add_le_add_right early _) late
      · have differs : index ≠ i := by
          rintro rfl
          cases here.symm.trans dials
        have same : Phase.seen (.passed state.breaker) = Phase.seen (.dialing (some b)) := found
        have none := inv.looks.apart index i _ _ differs here dials same
        cases none.symm.trans seen
  · refine Or.inr ⟨index, path, ?_⟩
    rw [getElem?_after here]
    exact congrArg (fun seen => some (path, Phase.dialing seen)) found

/-- **A calm step of an attempt keeps the books.** -/
theorem Inv.act (inv : Inv state) (here : state.attempts[index]? = some (path, phase))
    (act : CalmAct state phase acted) : Inv (state.after index path acted) := by
  cases act with
  | aside quiet apart quiet' unseen =>
    exact inv.aside here quiet apart quiet' (inv.looks.set here (Or.inl unseen))
  | look entered passes free =>
    subst entered
    exact inv.aside here rfl nofun rfl (inv.looks.look passes free)
  | dial passed settled =>
    subst passed
    exact inv.dial here settled
  | connected dialing settled =>
    have others := fun i attempt (_ : i ≠ index) there => settled_iff.mp settled i attempt there
    refine ⟨inv.windows, inv.looks.set here (Or.inl rfl), ?_, owing_after others fun _ => ?_⟩
    · intro all
      exact Bool.noConfusion ((not_settled_after here rfl).symm.trans all)
    · exact ⟨others_after others, fun _ => rfl, fun differs => absurd rfl differs⟩
  | unrecorded dialing settled none =>
    have others := fun i attempt (_ : i ≠ index) there => settled_iff.mp settled i attempt there
    refine ⟨inv.windows, inv.looks.set here (Or.inl rfl), fun _ => ⟨?_, ?_⟩,
      owing_after others nofun⟩
    · exact congrArg recorded none
    · intro b found
      cases none.symm.trans found
  | failed dialing settled waits differs =>
    have others := fun i attempt (_ : i ≠ index) there => settled_iff.mp settled i attempt there
    have unseen (next : Phase) (waits : next.waits = true) : next.seen = none := by
      cases next <;> first | rfl | cases waits
    refine ⟨inv.windows, inv.looks.set here (Or.inl (unseen _ waits)), ?_,
      owing_after others fun _ => ?_⟩
    · intro all
      exact Bool.noConfusion ((not_settled_after here waits).symm.trans all)
    · refine ⟨others_after others, fun same => absurd same differs, fun _ => ?_⟩
      exact ⟨state.now, state.history, rfl, Nat.le_refl _, (inv.balanced settled).count⟩
  | late failed =>
    subst failed
    have owes := inv.owing index path _ here rfl
    refine ⟨inv.windows, inv.looks.set here (Or.inl rfl), ?_, owing_after owes.alone fun _ => ?_⟩
    · intro all
      exact Bool.noConfusion ((not_settled_after here rfl).symm.trans all)
    · exact ⟨others_after owes.alone, fun same => (by cases same), fun _ => owes.failed nofun⟩
  | cleared connected =>
    subst connected
    have owes := inv.owing index path _ here rfl
    refine ⟨inv.windows, inv.looks.set here (Or.inl rfl), fun _ => ⟨?_, ?_⟩,
      owing_after owes.alone nofun⟩
    · exact (owes.cleared rfl).symm
    · intro b found
      cases found
  | recorded waits differs =>
    have owes := inv.owing index path _ here waits
    obtain ⟨failure, earlier, last, early, count⟩ := owes.failed differs
    refine ⟨inv.windows, inv.looks.set here (Or.inl rfl), fun _ => ⟨?_, ?_⟩,
      owing_after owes.alone nofun⟩
    · have since : failuresSince state.history = failuresSince earlier + 1 := by
        rw [last]
        rfl
      rw [count]
      exact since.symm
    · intro b found
      cases found
      exact Or.inl ⟨failure, earlier, last, early⟩

theorem Inv.start (now : Nat) : Inv (State.start now) := by
  refine ⟨trivial, ⟨?_, ?_⟩, fun _ => ⟨rfl, nofun⟩, ?_⟩
  · intro i attempt b there
    cases there
  · intro i j attempt other differs there
    cases there
  · intro index path phase there
    cases there

theorem Inv.wait (inv : Inv state) (nanos : Nat) : Inv { state with now := state.now + nanos } := by
  refine ⟨inv.windows, inv.looks.later nanos, fun settled => ?_, fun index path phase there waits =>
    ?_⟩
  · exact ⟨(inv.balanced settled).count, (inv.balanced settled).probe⟩
  · have owes := inv.owing index path phase there waits
    refine ⟨owes.alone, owes.cleared, fun differs => ?_⟩
    obtain ⟨failure, earlier, last, early, count⟩ := owes.failed differs
    exact ⟨failure, earlier, last, Nat.le_add_right_of_le early, count⟩

theorem Inv.enter (inv : Inv state) (path : Path) :
    Inv { state with attempts := state.attempts ++ [(path, .entered)] } := by
  have kept {i : Nat} {attempt : Path × Phase} (there : state.attempts[i]? = some attempt) :
      (state.attempts ++ [(path, Phase.entered)])[i]? = some attempt := by
    rwa [List.getElem?_append_left (List.getElem?_eq_some_iff.mp there).1]
  refine ⟨inv.windows, inv.looks.append path, fun settled =>
    ?_, fun index path' phase there waits => ?_⟩
  · have balanced := inv.balanced (settled_iff.mpr fun i attempt there =>
      settled_iff.mp settled i attempt (kept there))
    refine ⟨balanced.count, fun b found => (balanced.probe b found).imp_right ?_⟩
    rintro ⟨i, path', dials⟩
    exact ⟨i, path', kept dials⟩
  · rcases append_cases there with before | entered
    · have owes := inv.owing index path' phase before waits
      refine ⟨fun i attempt differs there' => ?_, owes.cleared, owes.failed⟩
      rcases append_cases there' with before' | rfl
      · exact owes.alone i attempt differs before'
      · rfl
    · cases entered
      cases waits

/-- **A calm step keeps the books.** -/
theorem Inv.step {label : Label} (inv : Inv state) (quiet : calm state label = true)
    (stepped : step server state label = some state') : Inv state' := by
  cases label with
  | wait nanos =>
    cases stepped
    exact inv.wait nanos
  | enter path =>
    cases stepped
    exact inv.enter path
  | act index move =>
    unfold calm at quiet
    unfold Mcp.step at stepped
    dsimp only at quiet stepped
    cases here : state.attempts[index]? with
    | none =>
      rw [here] at stepped
      cases stepped
    | some attempt =>
      obtain ⟨path, phase⟩ := attempt
      rw [here] at quiet stepped
      obtain ⟨acted, act, rfl⟩ := Option.map_eq_some_iff.mp stepped
      exact inv.act here (calmAct_of quiet act)

theorem Inv.run {labels : List Label} (inv : Inv state)
    (ran : run calm server state labels = some state') : Inv state' := by
  induction labels generalizing state with
  | nil =>
    cases ran
    exact inv
  | cons label labels ih =>
    rw [Mcp.run] at ran
    split at ran
    · rename_i quiet
      obtain ⟨next, stepped, later⟩ := Option.bind_eq_some_iff.mp ran
      exact ih (inv.step quiet stepped) later
    · cases ran

/-- **Every calm run counts the failed connects, and dials once in a window.** -/
theorem run_calm (server : Dialed) (now : Nat) (labels : List Label) (state : State)
    (ran : run calm server (State.start now) labels = some state) :
    Counted state ∧ OncePerWindow state.history := by
  have inv := (Inv.start now).run ran
  refine ⟨fun settled => (inv.balanced ?_).count, inv.windows⟩
  rw [settled_iff]
  exact fun i attempt there => settled attempt (List.mem_of_getElem? there)

def someServer : Dialed := ⟨"search", 30⟩

/-- An attempt fails, is repeated after the window, and fails again. -/
def retried : List Label :=
  [.enter .pooled, .act 0 .look, .act 0 .dial, .act 0 (.connect (.error "refused")), .act 0 .settle,
    .wait 1000000000, .enter .collected, .act 1 .look, .act 1 .dial, .act 1 .expire, .act 1 .settle]

def afterRetried : State where
  now := 1000000000
  breaker := some
    ⟨1000000000, 2, "MCP server 'search' connect timed out after 30s during tool collection"⟩
  attempts := [(.pooled, .done), (.collected, .done)]
  history := [.failed 1000000000, .dialed 1000000000, .failed 0, .dialed 0]

theorem run_calm_retried : Counted afterRetried ∧ OncePerWindow afterRetried.history :=
  run_calm someServer 0 retried afterRetried (by decide +kernel)

/-- Two attempts look at a failure whose window is over, and both dial. -/
def dialedTwice : List Label :=
  [.enter .pooled, .act 0 .look, .act 0 .dial, .act 0 (.connect (.error "refused")), .act 0 .settle,
    .wait 1000000000, .enter .pooled, .enter .pooled, .act 1 .look, .act 2 .look, .act 1 .dial,
      .act 2 .dial]

theorem dialedTwice_breaks :
    ¬ ∀ labels state, run (fun _ _ => true) someServer (State.start 0) labels = some state →
      Counted state ∧ OncePerWindow state.history := by
  intro always
  have ran : ∃ state, run (fun _ _ => true) someServer (State.start 0) dialedTwice = some state ∧
      state.history = [.dialed 1000000000, .dialed 1000000000, .failed 0, .dialed 0] :=
        ⟨_, rfl, rfl⟩
  obtain ⟨state, there, history⟩ := ran
  have once := (always dialedTwice state there).2
  rw [history] at once
  obtain ⟨zero | ⟨failure, earlier, last, -⟩, -⟩ := once
  · cases zero
  · cases last

end Ziee.Mcp
