/-
**Starting and stopping the engine of a model** (`llm_local_runtime/auto_start.rs`,
`deployment/local.rs`, `handlers.rs`, `reaper.rs`).

The deployment keeps a map of the processes it has started, and the bearer tokens of their engines;
the instance row is kept in the database. A start looks into the map long before it inserts; a stop
takes the token away, and then the process.

* `startEngine`, `stopEngine` — the deployment, from one lock or await point to the next.
* `ensureRunning`, `startModelInstance`, `stopModelInstance`, `restartModelInstance`,
  `evictIdleEngine` — the operations on a model.
* `EngineStore`, `engineAnswers` — map, tokens, row and the live processes of one model.
* `Operation`, `deployed` — any number of operations, and engines that exit on their own.

What the health machine answers is left open. Statements fail only for a constraint or a missing
row, and a process that is killed is gone. A process is named by its port.
-/

import Ziee.Library.Threads

namespace Ziee.LocalRuntime

open PortProgram Threads

structure InstanceStatus where
  running : Bool
  port : Nat
  deriving DecidableEq

/-- What the health machine makes of a crash: it gives up, it waits, or it lets the caller go on. -/
inductive CrashAnswer
  | giveUp
  | backoff
  | proceed
  deriving DecidableEq

/-- Whether a statement on the row follows the stop in any case. -/
inductive StopSite
  | beforeRow
  | last
  deriving DecidableEq

inductive EngineQuery
  | selectRunning
  | healthCheck (port : Nat)
  | markCrashed
  | noteStarted
  | noteCrashed
  | isFailed
  | persistFailed
  | forget
  | claimCell
  | getAutoStartPolls
  | enterCell (cell : Nat)
  | setCell (cell : Nat) (started : Bool)
  | removeCell
  | resolveInputs
  | containsKey
  | prepare
  | spawn
  | registerToken (port : Nat)
  | insertProcess (port : Nat)
  | verifyLoopbackBind (port : Nat)
  | persistInstance (port : Nat)
  | removeToken
  | removeProcess (site : StopSite)
  | getInstance
  | deleteInstance
  | createInstanceRunning (port : Nat)
  | createInstance (port : Nat)
  | updateStopped
  | updateRunning
  | findIdle
  | drain
  | markStopped
  | clearInstanceFlag
  | exit
  deriving DecidableEq

abbrev EngineAnswer : EngineQuery → Type
  | .selectRunning => Option Nat
  | .healthCheck _ => Bool
  | .noteCrashed => CrashAnswer
  | .isFailed => Bool
  | .claimCell => Nat
  | .getAutoStartPolls => Nat
  | .enterCell _ => Option Bool
  | .resolveInputs => Bool
  | .containsKey => Bool
  | .prepare => Bool
  | .spawn => Option Nat
  | .verifyLoopbackBind _ => Bool
  | .removeProcess _ => Bool
  | .getInstance => Option InstanceStatus
  | .deleteInstance => Bool
  | .createInstanceRunning _ => Bool
  | .createInstance _ => Bool
  | .updateStopped => Bool
  | .updateRunning => Bool
  | .findIdle => Bool
  | _ => Unit

abbrev EnginePort : Interface := ⟨EngineQuery, EngineAnswer⟩

abbrev EngineEvent : Type := Event EnginePort

/-- Results are passed on to what comes next. -/
abbrev Operating : Type := Program EnginePort Empty Unit

/-! ### The deployment -/

/-- **`LocalDeployment::start`**: the port of the new process, unless it fails. -/
def startEngine (next : Option Nat → Operating) : Operating :=
  .ask .containsKey fun already =>
    if already then next none
    else .ask .prepare fun prepared =>
      if prepared then .ask .spawn fun
        | none => next none
        | some port => .ask (.registerToken port) fun _ => .ask (.insertProcess port) fun _ =>
          next (some port)
      else next none

/-- **`LocalDeployment::stop`**; it fails when the map has no process. -/
def stopEngine (site : StopSite) (next : Bool → Operating) : Operating :=
  .ask .removeToken fun _ => .ask (.removeProcess site) next

/-! ### `auto_start` -/

inductive Probed
  | running
  | crashed
  | notRunning
  deriving DecidableEq

def probeEngine (next : Probed → Operating) : Operating :=
  .ask .selectRunning fun
    | none => next .notRunning
    | some port => .ask (.healthCheck port) fun healthy =>
      if healthy then next .running else .ask .markCrashed fun _ => next .crashed

def awaitHealthy (port : Nat) (next : Bool → Operating) : Nat → Operating
  | 0 => .ask (.healthCheck port) next
  | polls + 1 => .ask (.healthCheck port) fun healthy =>
    if healthy then next true else awaitHealthy port next polls

/-- The new process: it is registered once it is healthy, and bound to loopback. -/
def settleEngine (polls port : Nat) (next : Bool → Operating) : Operating :=
  awaitHealthy port (fun healthy =>
    if healthy then .ask (.verifyLoopbackBind port) fun bound =>
      if bound then .ask (.persistInstance port) fun _ => next true
      else stopEngine .last fun _ => next false
    else stopEngine .last fun _ => next false) polls

def doStartEngine (polls : Nat) (next : Bool → Operating) : Operating :=
  .ask .resolveInputs fun resolved =>
    if resolved then startEngine fun
      | none => probeEngine fun probed => next (decide (probed = .running))
      | some port => settleEngine polls port next
    else next false

def initCell (cell polls : Nat) (next : Operating) : Operating :=
  doStartEngine polls fun started =>
    if started then .ask .noteStarted fun _ => .ask (.setCell cell true) fun _ => next
    else .ask .noteCrashed fun
      | .giveUp => .ask .persistFailed fun _ => .ask (.setCell cell false) fun _ => next
      | _ => .ask (.setCell cell false) fun _ => next

def singleFlight : Operating :=
  .ask .claimCell fun cell => .ask .getAutoStartPolls fun polls => .ask (.enterCell cell) fun
    | some _ => .ask .removeCell fun _ => .pure ()
    | none => initCell cell polls (.ask .removeCell fun _ => .pure ())

def ensureRunning : Operating :=
  probeEngine fun
    | .running => .ask .noteStarted fun _ => .pure ()
    | .crashed => .ask .noteCrashed fun
      | .giveUp => .ask .persistFailed fun _ => .ask .forget fun _ => .pure ()
      | .backoff => .pure ()
      | .proceed => singleFlight
    | .notRunning => .ask .isFailed fun failed => if failed then .pure () else singleFlight

/-! ### The admin and the reaper -/

def launchInstance : Operating :=
  .ask .resolveInputs fun resolved =>
    if resolved then startEngine fun
      | none => .pure ()
      | some port => .ask (.createInstanceRunning port) fun created =>
        if created then .ask .getInstance fun
          | some _ => .pure ()
          | none => stopEngine .last fun _ => .pure ()
        else stopEngine .last fun _ => .pure ()
    else .pure ()

/-- A row that is not that of a healthy engine is deleted. -/
def replaceInstance : Operating :=
  .ask .deleteInstance fun deleted => if deleted then launchInstance else .pure ()

def startModelInstance : Operating :=
  .ask .getInstance fun
    | none => launchInstance
    | some instance' =>
      if instance'.running then .ask (.healthCheck instance'.port) fun healthy =>
        if healthy then .pure () else replaceInstance
      else replaceInstance

/-- **`stop_model_instance`**, the row first. -/
def stopModelInstance : Operating :=
  .ask .updateStopped fun updated =>
    if updated then stopEngine .last fun stopped =>
      if stopped then .ask .clearInstanceFlag fun _ => .ask .forget fun _ =>
        .ask .getInstance fun _ => .pure ()
      else .pure ()
    else .pure ()

/-- The new engine of a restart, and its row. -/
def relaunchInstance : Operating :=
  .ask .resolveInputs fun resolved =>
    if resolved then startEngine fun
      | none => .pure ()
      | some port => .ask (.createInstance port) fun created =>
        if created then .ask .updateRunning fun updated =>
          if updated then .ask .getInstance fun _ => .pure ()
          else stopEngine .last fun _ => .ask .deleteInstance fun _ => .pure ()
        else stopEngine .last fun _ => .pure ()
    else .pure ()

def restartModelInstance : Operating :=
  .ask .getInstance fun
    | none => .pure ()
    | some _ => stopEngine .beforeRow fun stopped =>
      if stopped then .ask .deleteInstance fun deleted =>
        if deleted then relaunchInstance else .pure ()
      else .pure ()

/-- The eviction of `run_one_tick`. -/
def evictIdleEngine : Operating :=
  .ask .findIdle fun idle =>
    if idle then .ask .drain fun _ => stopEngine .beforeRow fun _ => .ask .markStopped fun _ =>
      .ask .clearInstanceFlag fun _ => .ask .forget fun _ => .pure ()
    else .pure ()

def engineExits : Nat → Operating
  | 0 => .pure ()
  | times + 1 => .ask .exit fun _ => engineExits times

/-! ### The state of one model -/

inductive CellState
  | fresh
  | initializing
  | done (started : Bool)
  deriving DecidableEq

/-- The row, the process in the map, whether a token is registered, the live processes, and the
single-flight cells with the one in the map. How many starts have looked into the map and not
inserted yet, and how many are about to insert, is not stored. -/
structure EngineStore where
  row : Option InstanceStatus
  entry : Option Nat
  token : Bool
  alive : List Nat
  cells : List CellState
  inFlight : Option Nat
  starting : Nat
  inserting : Nat
  deriving DecidableEq

namespace EngineStore

def running (store : EngineStore) : Bool := (store.row.map InstanceStatus.running).getD false

def unmarked (store : EngineStore) : EngineStore :=
  { store with row := store.row.map fun instance' => { instance' with running := false } }

def killed (store : EngineStore) : EngineStore :=
  { store with alive := store.alive.filter fun port => decide (store.entry ≠ some port) }

end EngineStore

def engineAnswers (store : EngineStore) : EngineEvent → EngineStore → Prop
  | ⟨.selectRunning, found⟩, store' => store' = store ∧ found = store.row.bind fun instance' =>
        if instance'.running then some instance'.port else none
  | ⟨.healthCheck port, healthy⟩, store' => store' = store ∧ (healthy = true → port ∈ store.alive)
  | ⟨.markCrashed, _⟩, store' => store' = store.unmarked
  | ⟨.persistFailed, _⟩, store' => store' = store.unmarked
  | ⟨.forget, _⟩, store' => store' = { store with inFlight := none }
  | ⟨.claimCell, cell⟩, store' => (store.inFlight = some cell ∧ store' = store) ∨
      (store.inFlight = none ∧ cell = store.cells.length ∧
        store' = { store with cells := store.cells ++ [.fresh], inFlight := some cell })
  | ⟨.enterCell cell, some started⟩, store' =>
    store.cells[cell]? = some (.done started) ∧ store' = store
  | ⟨.enterCell cell, none⟩, store' => store.cells[cell]? = some .fresh ∧
      store' = { store with cells := store.cells.set cell .initializing }
  | ⟨.setCell cell started, _⟩, store' =>
    store' = { store with cells := store.cells.set cell (.done started) }
  | ⟨.removeCell, _⟩, store' => store' = { store with inFlight := none }
  | ⟨.containsKey, already⟩, store' => already = store.entry.isSome ∧
      store' = if already then store else { store with starting := store.starting + 1 }
  | ⟨.prepare, prepared⟩, store' =>
    store' = if prepared then store else { store with starting := store.starting - 1 }
  | ⟨.spawn, none⟩, store' => store' = { store with starting := store.starting - 1 }
  | ⟨.spawn, some port⟩, store' => port ∉ store.alive ∧ store.entry ≠ some port ∧
      store' = { store with alive := port :: store.alive }
  | ⟨.registerToken _, _⟩, store' =>
    store' = { store with token := true, inserting := store.inserting + 1 }
  | ⟨.insertProcess port, _⟩, store' => store' = { store.killed with
      entry := some port
      starting := store.starting - 1
      inserting := store.inserting - 1 }
  | ⟨.persistInstance port, _⟩, store' => store' = { store with row := some ⟨true, port⟩ }
  | ⟨.removeToken, _⟩, store' => store' = { store with token := false }
  | ⟨.removeProcess _, stopped⟩, store' =>
    stopped = store.entry.isSome ∧ store' = { store.killed with entry := none }
  | ⟨.getInstance, found⟩, store' => found = store.row ∧ store' = store
  | ⟨.deleteInstance, deleted⟩, store' =>
    deleted = store.row.isSome ∧ store' = { store with row := none }
  | ⟨.createInstanceRunning port, created⟩, store' => created = store.row.isNone ∧
      store' = if created then { store with row := some ⟨true, port⟩ } else store
  | ⟨.createInstance port, created⟩, store' => created = store.row.isNone ∧
      store' = if created then { store with row := some ⟨false, port⟩ } else store
  | ⟨.updateStopped, updated⟩, store' => updated = store.row.isSome ∧ store' = store.unmarked
  | ⟨.updateRunning, updated⟩, store' => updated = store.row.isSome ∧
      store' = { store with row := store.row.map fun instance' =>
        { instance' with running := true } }
  | ⟨.findIdle, idle⟩, store' => (idle = true → store.running = true) ∧ store' = store
  | ⟨.markStopped, _⟩, store' => store' = store.unmarked
  | ⟨.exit, _⟩, store' => store' = store ∨
      ∃ port ∈ store.alive, store' = { store with alive := store.alive.erase port }
  | _, store' => store' = store

def engineMachine : Machine EnginePort Empty Unit EngineStore := ⟨engineAnswers, fun _ => []⟩

abbrev EngineConfig : Type := Threads.Config EnginePort Empty Unit EngineStore

/-- What may be under way for a model. -/
inductive Operation
  | ensureRunning
  | start
  | stop
  | restart
  | evict
  | exits (times : Nat)
  deriving DecidableEq

def Operation.program : Operation → Operating
  | ensureRunning => LocalRuntime.ensureRunning
  | start => startModelInstance
  | stop => stopModelInstance
  | restart => restartModelInstance
  | evict => evictIdleEngine
  | exits times => engineExits times

/-- A model that was never started, and the operations that will come. -/
def deployed (operations : List Operation) : EngineConfig :=
  ⟨⟨none, none, false, [], [], none, 0, 0⟩, operations.map Operation.program⟩

end Ziee.LocalRuntime
