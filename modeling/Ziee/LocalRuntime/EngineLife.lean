/-
**The life of one engine** (`llm_local_runtime/auto_start.rs`, `reaper.rs`, `handlers.rs`).

The health machine is kept in memory and restored from the row when it is not there. A call to
`ensure_running` probes the engine, tells the machine of a crash that it finds, and starts the
engine; a start that fails is told like a crash.

* `EngineLife` — the machine in memory, the health columns of the row, and the engine.
* `EngineLife.ensureRunning` — a call, at the times at which it probes, goes on to start and has
  started.
* `Happening`, `EngineLife.happen` — what happens to the engine, one after the other.

Statements on the row succeed, and a start either registers a running engine or leaves none. Engines
die with the server.
-/

import Ziee.LocalRuntime.Health

namespace Ziee.LocalRuntime

/-- The health columns of a row, and whether its status is `running`. -/
structure RuntimeInstance where
  running : Bool
  state : String
  restartAttempts : Int
  lastFailureReason : Option String
  deriving DecidableEq

inductive Engine
  | absent
  | answering
  | crashed (time : Nat)
  deriving DecidableEq

structure EngineLife where
  health : Option HealthStateMachine
  row : Option RuntimeInstance
  engine : Engine
  deriving DecidableEq

inductive Liveness
  | running
  | crashed
  | notRunning
  deriving DecidableEq

inductive RunError
  | markedFailed (reason : String)
  | inBackoff
  | failed
  | notStarted
  deriving DecidableEq

/-- What is seen of an engine's life. -/
inductive Deed
  | crashed (time : Nat)
  | startAttempted (time : Nat)
  | startFailed (time : Nat)
  | restartAnswered (nextAt : Nat)
  | cleared
  | stopped
  | evicted
  | serverRestarted
  deriving DecidableEq

/-! ### The machine in memory -/

def maxRestartAttempts : Nat := 5

namespace EngineLife

def running (life : EngineLife) : Bool := (life.row.map RuntimeInstance.running).getD false

/-- The machine in memory, or else the one that is restored. -/
def machine (life : EngineLife) : HealthStateMachine :=
  life.health.getD ((life.row.map fun instance' => .fromPersisted maxRestartAttempts instance'.state
    instance'.restartAttempts instance'.lastFailureReason).getD (.new maxRestartAttempts))

def ensureRestored (life : EngineLife) : EngineLife := { life with health := some life.machine }

def noteEvent (life : EngineLife) (event : HealthEvent) (now : Nat) : Transition × EngineLife :=
  let noted := life.machine.onEvent event now
  (noted.1, { life with health := some noted.2 })

def isFailed (life : EngineLife) : Bool × EngineLife :=
  (life.machine.state.isFailed, life.ensureRestored)

def persistFailed (life : EngineLife) (reason : String) : EngineLife :=
  { life with row := life.row.map fun instance' =>
    { instance' with running := false, state := "failed", lastFailureReason := some reason } }

def forget (life : EngineLife) : EngineLife := { life with health := none }

/-! ### A call -/

def probeLiveness (life : EngineLife) : Liveness × EngineLife :=
  if life.running = false then (.notRunning, life)
  else if life.engine = .answering then (.running, life)
  else (.crashed, { life with row := life.row.map fun instance' =>
    { instance' with running := false, state := "crashed" } })

def persistInstance (life : EngineLife) : EngineLife :=
  let instance' := life.row.getD ⟨true, "healthy", 0, none⟩
  { life with row := some { instance' with running := true, state := "healthy" } }

/-- `do_start`; the deployment stops what does not become healthy. -/
def doStart (life : EngineLife) (started : Bool) : Except RunError Unit × EngineLife :=
  if started then (.ok (), { life.persistInstance with engine := .answering })
  else (.error .notStarted, { life with engine := .absent })

/-- What is seen of the machine's answer. -/
def answered : Transition → List Deed
  | .restart _ nextAt => [.restartAnswered nextAt]
  | _ => []

def startOnce (life : EngineLife) (proceeds ended : Nat) (started : Bool) :
    Except RunError Unit × List Deed × EngineLife :=
  match life.doStart started with
  | (.ok _, life) => (.ok (), [.startAttempted proceeds], (life.noteEvent .startedOk ended).2)
  | (.error error, life) =>
    match life.noteEvent (.crashed none) ended with
    | (.giveUp reason, life) =>
      (.error error, [.startAttempted proceeds, .startFailed ended], life.persistFailed reason)
    | (transition, life) =>
      (.error error, [.startAttempted proceeds, .startFailed ended] ++ answered transition, life)

def ensureRunning (life : EngineLife) (found proceeds ended : Nat) (started : Bool) :
    Except RunError Unit × List Deed × EngineLife :=
  match life.probeLiveness with
  | (.running, life) => (.ok (), [], (life.noteEvent .startedOk found).2)
  | (.crashed, life) =>
    match life.noteEvent (.crashed none) found with
    | (.giveUp reason, life) =>
      (.error (.markedFailed reason), [], (life.persistFailed reason).forget)
    | (.restart _ nextAt, life) =>
      if proceeds < nextAt then (.error .inBackoff, [.restartAnswered nextAt], life)
      else
        let start := life.startOnce proceeds ended started
        (start.1, [.restartAnswered nextAt] ++ start.2.1, start.2.2)
    | (_, life) => life.startOnce proceeds ended started
  | (.notRunning, life) =>
    let gaveUp := life.isFailed
    if gaveUp.1 then (.error .failed, [], gaveUp.2)
    else gaveUp.2.startOnce proceeds ended started

/-! ### The reaper and the admin -/

/-- `report_health` for a row that says running; a change is stored in the row. -/
def monitorHealth (life : EngineLife) (now : Nat) : EngineLife :=
  if life.running = false then life
  else
    let event := if life.engine = .answering then .ok
      else .unhealthy "engine /health probe failed"
    match life.noteEvent event now with
    | (.stateChanged _ target, life) =>
      { life with row := life.row.map fun instance' => { instance' with state := target } }
    | (_, life) => life

def evict (life : EngineLife) : EngineLife :=
  { life with
    engine := .absent
    row := life.row.map fun instance' => { instance' with running := false, state := "stopped" }
    health := none }

/-- `stop_model_instance`; a process that the deployment does not know ends it early. -/
def stopModelInstance (life : EngineLife) (known : Bool) : List Deed × EngineLife :=
  match life.row with
  | none => ([], life)
  | some instance' =>
    let life := { life with row := some { instance' with running := false }, engine := .absent }
    ([.stopped], if known then life.forget else life)

def clearFailedInstance (life : EngineLife) (now : Nat) : List Deed × EngineLife :=
  let life := life.ensureRestored
  if life.machine.state.isFailed then
    let life := (life.noteEvent .clearFailed now).2
    ([.cleared], { life with row := life.row.map fun instance' =>
      if instance'.state = "failed" then
        { instance' with state := "stopped", lastFailureReason := none }
      else instance' })
  else ([], life)

end EngineLife

/-! ### What happens -/

inductive Happening
  | call (found proceeds ended : Nat) (started : Bool)
  | crash (time : Nat)
  | probe (time : Nat)
  | evict (time : Nat)
  | serverRestart (time : Nat)
  | adminStop (time : Nat) (known : Bool)
  | adminClear (time : Nat)
  deriving DecidableEq

namespace Happening

def begins : Happening → Nat
  | call found _ _ _ => found
  | crash time | probe time | evict time | serverRestart time | adminStop time _ | adminClear
    time =>
    time

def ends : Happening → Nat
  | call _ _ ended _ => ended
  | happening => happening.begins

def Possible (life : EngineLife) : Happening → Prop
  | call found proceeds ended _ => found ≤ proceeds ∧ proceeds ≤ ended
  | crash _ => life.engine = .answering
  | evict _ => life.running = true
  | adminStop _ known => known = false → life.engine = .absent
  | _ => True

end Happening

instance (life : EngineLife) : ∀ happening : Happening, Decidable (happening.Possible life)
  | .call found proceeds ended _ => inferInstanceAs
    (Decidable (found ≤ proceeds ∧ proceeds ≤ ended))
  | .crash _ => inferInstanceAs (Decidable (life.engine = .answering))
  | .evict _ => inferInstanceAs (Decidable (life.running = true))
  | .adminStop _ known => inferInstanceAs (Decidable (known = false → life.engine = .absent))
  | .probe _ | .serverRestart _ | .adminClear _ => inferInstanceAs (Decidable True)

def EngineLife.happen (life : EngineLife) : Happening → List Deed × EngineLife
  | .call found proceeds ended started => (life.ensureRunning found proceeds ended started).2
  | .crash time => ([.crashed time], { life with engine := .crashed time })
  | .probe time => ([], life.monitorHealth time)
  | .evict _ => ([.evicted], life.evict)
  | .serverRestart _ => ([.serverRestarted], ⟨none, life.row, .absent⟩)
  | .adminStop _ known => life.stopModelInstance known
  | .adminClear time => life.clearFailedInstance time

structure Chronicle where
  life : EngineLife
  clock : Nat
  deeds : List Deed

/-- A model that was never started. -/
def Chronicle.blank : Chronicle := ⟨⟨none, none, .absent⟩, 0, []⟩

def Chronicle.next (chronicle : Chronicle) (happening : Happening) : Chronicle :=
  ⟨(chronicle.life.happen happening).2, happening.ends,
    chronicle.deeds ++ (chronicle.life.happen happening).1⟩

/-- **What happens next**, at any time from now on. -/
inductive Chronicle.Step : Chronicle → Happening → Chronicle → Prop
  | happens {chronicle : Chronicle} {happening : Happening} :
      happening.Possible chronicle.life → chronicle.clock ≤ happening.begins →
      Step chronicle happening (chronicle.next happening)

end Ziee.LocalRuntime
