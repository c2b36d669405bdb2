/-
**Proxied requests and the idle reaper** (`llm_local_runtime/proxy_handlers.rs`, `proxy.rs`,
`reaper.rs`).

A request to a local model holds an in-flight guard while its handler runs. The reaper flags an idle
model as draining, which turns new requests away, waits until no guard is held or the drain times
out, and stops the engine. The handler returns when the response begins, and its guard is dropped
there; the body is streamed afterwards.

* `forwardPostWithBody` — a request, from its guard to the last chunk of its body.
* `localModel` — the requests and the reaper of one model.

What a handler does before it takes its guard (authentication, the lookup of the model) is left out.
A client that goes away ends a request like an error of what is awaited.
-/

import Ziee.Library.Threads

namespace Ziee.LocalRuntime

open PortProgram Threads
open PortProgram.Program (attempt)

inductive InstanceFlag
  | active
  | draining
  deriving DecidableEq

/-- How a request leaves its handler: turned away, with its response, or with a body to stream. -/
inductive Leaving
  | refused
  | ended
  | streaming
  deriving DecidableEq

inductive RuntimeError
  | unavailable
  deriving DecidableEq

/-- What requests and the reaper ask for; durations of settings are seconds. -/
inductive RuntimeQuery
  | acquireGuard
  | getInstanceFlag
  | ensureRunning
  | getRunningInstanceBaseUrl
  | getInstanceApiKey
  | sendUpstream
  | touchLastUsed
  | readErrorBody
  | dropGuard (leaving : Leaving)
  | nextChunk
  | drainLastUsed
  | bumpLastUsed
  | getRuntimeSettings
  | monitorHealth
  | findIdle (idleSecs : Int)
  | getDeployment
  | setDraining
  | now
  | inflightCount
  | sleep
  | stop (drainSecs : Int)
  | markStopped
  | clearInstanceFlag
  | forget
  deriving DecidableEq

abbrev RuntimeAnswer : RuntimeQuery → Type
  | .getInstanceFlag => InstanceFlag
  | .ensureRunning => Except RuntimeError Unit
  | .getRunningInstanceBaseUrl => Except RuntimeError Unit
  | .getInstanceApiKey => Except RuntimeError Unit
  | .sendUpstream => Except RuntimeError Bool
  | .nextChunk => Except RuntimeError Unit
  | .drainLastUsed => Bool
  | .getRuntimeSettings => Except RuntimeError (Int × Int)
  | .findIdle _ => Except RuntimeError Bool
  | .getDeployment => Except RuntimeError Unit
  | .now => Nat
  | .inflightCount => Nat
  | .stop _ => Except RuntimeError Unit
  | _ => Unit

abbrev RuntimePort : Interface := ⟨RuntimeQuery, RuntimeAnswer⟩

abbrev RuntimeEvent : Type := Event RuntimePort

abbrev Serving : Type → Type := Program RuntimePort RuntimeError

/-! ### A request -/

/-- The handler's part behind the drain check: whether a body is left to stream. -/
def forwarded : Serving Bool := do
  attempt .ensureRunning id
  attempt .getRunningInstanceBaseUrl id
  attempt .getInstanceApiKey id
  let success ← attempt .sendUpstream id
  .ask .touchLastUsed fun _ =>
    if success then .pure true else .ask .readErrorBody fun _ => .pure false

def streamBody : Nat → Serving Unit
  | 0 => .pure ()
  | chunks + 1 => .ask .nextChunk fun
    | .error _ => .pure ()
    | .ok _ => streamBody chunks

/-- The handler returns, and its guard is dropped. -/
def leave (leaving : Leaving) (rest : Serving Unit) : Serving Unit :=
  .ask (.dropGuard leaving) fun _ => rest

def respond (chunks : Nat) : Except RuntimeError Bool → Serving Unit
  | .error _ => leave .ended (.pure ())
  | .ok false => leave .ended (.pure ())
  | .ok true => leave .streaming (streamBody chunks)

/-- **`forward_post_with_body` and the body of its response.** -/
def forwardPostWithBody (chunks : Nat) : Serving Unit :=
  .ask .acquireGuard fun _ => .ask .getInstanceFlag fun
    | .draining => leave .refused (.pure ())
    | .active => forwarded.caught >>= respond chunks

/-! ### The reaper -/

def stopIdle (drainSecs : Int) (rest : Serving Unit) : Serving Unit :=
  .ask (.stop drainSecs) fun _ => .ask .markStopped fun _ => .ask .clearInstanceFlag fun _ =>
    .ask .forget fun _ => rest

/-- The wait of a drain; a run has fewer than some number of rounds. -/
def awaitDrained (deadline : Nat) (stop : Serving Unit) : Nat → Serving Unit
  | 0 => .pure ()
  | rounds + 1 => .ask .inflightCount fun inflight =>
    if inflight = 0 then stop
    else .ask .now fun now =>
      if deadline ≤ now then stop
      else .ask .sleep fun _ => awaitDrained deadline stop rounds

/-- `drain_and_stop`, and what the tick does after it. -/
def drainAndStop (drainSecs : Int) (rounds : Nat) (rest : Serving Unit) : Serving Unit :=
  .ask .setDraining fun _ => .ask .now fun now =>
    awaitDrained (now + (max drainSecs 1).toNat * 1000) (stopIdle drainSecs rest) rounds

def flushLastUsed (rest : Serving Unit) : Serving Unit :=
  .ask .drainLastUsed fun touched => if touched then .ask .bumpLastUsed fun _ => rest else rest

def evictIdle (rounds : Nat) (rest : Serving Unit) : Except RuntimeError (Int × Int) → Serving Unit
  | .error _ => rest
  | .ok (idleSecs, drainSecs) => .ask .monitorHealth fun _ =>
    if idleSecs ≤ 0 then rest
    else .ask (.findIdle idleSecs) fun
      | .error _ => rest
      | .ok false => rest
      | .ok true => .ask .getDeployment fun
        | .error _ => rest
        | .ok _ => drainAndStop drainSecs rounds rest

/-- **`run_one_tick`**, for one model. -/
def runOneTick (rounds : Nat) (rest : Serving Unit) : Serving Unit :=
  flushLastUsed (.ask .getRuntimeSettings (evictIdle rounds rest))

def reaper : List Nat → Serving Unit
  | [] => .pure ()
  | rounds :: ticks => runOneTick rounds (reaper ticks)

/-! ### The model's state -/

structure InstanceRow where
  running : Bool
  lastUsedAt : Nat
  deriving DecidableEq

/-- The flag and the counter of the model, its row, and its engine. When the reaper flagged it is
not stored. -/
structure RuntimeStore where
  clock : Nat
  flag : InstanceFlag
  inflight : Nat
  touched : Bool
  row : Option InstanceRow
  alive : Bool
  flaggedAt : Nat
  deriving DecidableEq

/-- `status = 'running' AND last_used_at < NOW() - idle`. -/
def RuntimeStore.idle (store : RuntimeStore) (idleSecs : Int) : Bool :=
  (store.row.map fun row =>
    row.running && decide (row.lastUsedAt + idleSecs.toNat * 1000 < store.clock)).getD false

/-- What an answer does, at the time that it is given. -/
def runtimeEffect : RuntimeStore → RuntimeEvent → RuntimeStore → Prop
  | store, ⟨.acquireGuard, _⟩, store' => store' = { store with inflight := store.inflight + 1 }
  | store, ⟨.getInstanceFlag, flag⟩, store' => flag = store.flag ∧ store' = store
  | store, ⟨.ensureRunning, .ok _⟩, store' =>
    (store.alive = true ∧ (store.row.map InstanceRow.running).getD false = true ∧ store' = store) ∨
      store' = { store with alive := true, row := some ⟨true, store.clock⟩, touched := true }
  | store, ⟨.ensureRunning, .error _⟩, store' =>
    store' = store ∨ store' = { store with
      alive := false
      row := store.row.map fun row => { row with running := false } }
  | store, ⟨.sendUpstream, .ok _⟩, store' => store.alive = true ∧ store' = store
  | store, ⟨.touchLastUsed, _⟩, store' => store' = { store with touched := true }
  | store, ⟨.dropGuard _, _⟩, store' => store' = { store with inflight := store.inflight - 1 }
  | store, ⟨.nextChunk, .ok _⟩, store' => store.alive = true ∧ store' = store
  | store, ⟨.drainLastUsed, touched⟩, store' =>
    touched = store.touched ∧ store' = { store with touched := false }
  | store, ⟨.bumpLastUsed, _⟩, store' =>
    store' = { store with row := store.row.map fun row => { row with lastUsedAt := store.clock } }
  | store, ⟨.findIdle idleSecs, .ok found⟩, store' => found = store.idle idleSecs ∧ store' = store
  | store, ⟨.setDraining, _⟩, store' =>
    store' = { store with flag := .draining, flaggedAt := store.clock }
  | store, ⟨.now, now⟩, store' => now = store.clock ∧ store' = store
  | store, ⟨.inflightCount, inflight⟩, store' => inflight = store.inflight ∧ store' = store
  | store, ⟨.stop _, .ok _⟩, store' => store' = { store with alive := false }
  | store, ⟨.markStopped, _⟩, store' =>
    store' = { store with row := store.row.map fun row => { row with running := false } }
  | store, ⟨.clearInstanceFlag, _⟩, store' => store' = { store with flag := .active }
  | store, _, store' => store' = store

/-- **An answer, some time later.** -/
def runtimeAnswers (store : RuntimeStore) (event : RuntimeEvent) (store' : RuntimeStore) : Prop :=
  ∃ later, store.clock ≤ later ∧ runtimeEffect { store with clock := later } event store'

def localModel : Machine RuntimePort RuntimeError Unit RuntimeStore := ⟨runtimeAnswers, fun _ => []⟩

abbrev RuntimeConfig : Type := Threads.Config RuntimePort RuntimeError Unit RuntimeStore

def untouchedModel (ticks : List Nat) (requests : List Nat) : RuntimeConfig :=
  ⟨⟨0, .active, 0, false, none, false, 0⟩, reaper ticks :: requests.map forwardPostWithBody⟩

end Ziee.LocalRuntime
