/-
**What the guard protects, and what it does not.**

The reaper waits for the guards, and no request passes the drain check while it does. A request
whose body is being streamed holds no guard.

* `Phase` — where a request is, read off its next query.
* `stop_spares_iff` — **a stop spares the requests in progress exactly when it spares the bodies.**
-/

import Ziee.Library.RelyGuarantee
import Ziee.LocalRuntime.Draining
import Ziee.Library.Obligations

namespace Ziee.LocalRuntime

open PortProgram Threads

variable {query : RuntimeQuery} {next : RuntimeAnswer query → Serving Unit} {drainSecs : Int}
  {rest : Serving Unit} {store store' : RuntimeStore} {config : RuntimeConfig}

inductive Phase
  | outside
  | waiting
  | refused
  | handled
  | streamed
  deriving DecidableEq

def phaseOf : RuntimeQuery → Phase
  | .getInstanceFlag => .waiting
  | .dropGuard .refused => .refused
  | .dropGuard _ | .ensureRunning | .getRunningInstanceBaseUrl | .getInstanceApiKey | .sendUpstream
  | .touchLastUsed | .readErrorBody => .handled
  | .nextChunk => .streamed
  | _ => .outside

def phase : Serving Unit → Phase
  | .ask query _ => phaseOf query
  | _ => .outside

def isHandled (program : Serving Unit) : Bool := phase program = .handled

def isStreamed (program : Serving Unit) : Bool := phase program = .streamed

def holdsGuard (program : Serving Unit) : Bool :=
  phase program = .waiting || phase program = .refused || phase program = .handled

def handling (config : RuntimeConfig) : Nat := config.threads.countP isHandled

/-- The admitted requests whose handler has returned and whose body is not at its end. -/
def streamingBodies (config : RuntimeConfig) : Nat := config.threads.countP isStreamed

def Elapsed (drainSecs : Int) (store : RuntimeStore) : Prop :=
  store.flaggedAt + drainSecs.toNat * 1000 ≤ store.clock

/-- **The stop spares the requests in progress**: there is none, or they had their time. -/
def Spared (drainSecs : Int) (config config' : RuntimeConfig) : Prop :=
  handling config + streamingBodies config = 0 ∨ Elapsed drainSecs config'.shared

def BodiesSpared (drainSecs : Int) (config config' : RuntimeConfig) : Prop :=
  streamingBodies config = 0 ∨ Elapsed drainSecs config'.shared

/-! ### Requests -/

def AskedByRequest : RuntimeQuery → Prop
  | .acquireGuard | .getInstanceFlag | .ensureRunning | .getRunningInstanceBaseUrl
  | .getInstanceApiKey | .sendUpstream | .touchLastUsed | .readErrorBody | .dropGuard _
  | .nextChunk => True
  | _ => False

/-- **Where a request is after an event.** -/
def Proceeds : RuntimeEvent → Serving Unit → Prop
  | ⟨.acquireGuard, _⟩, rest => phase rest = .waiting
  | ⟨.getInstanceFlag, flag⟩, rest =>
    phase rest = .refused ∨ phase rest = .handled ∧ flag = .active
  | ⟨.dropGuard _, _⟩, rest | ⟨.nextChunk, _⟩, rest => phase rest = .streamed ∨
    phase rest = .outside
  | _, rest => phase rest = .handled

structure IsRequest (program : Serving Unit) : Prop where
  asks : AsksOnly AskedByRequest program
  proceeds : Each Proceeds program

theorem streamBody_request (chunks : Nat) : IsRequest (streamBody chunks) ∧
    (phase (streamBody chunks) = .streamed ∨ phase (streamBody chunks) = .outside) := by
  induction chunks with
  | zero => exact ⟨⟨trivial, trivial⟩, .inr rfl⟩
  | succ chunks ih =>
    refine ⟨⟨⟨trivial, fun answer => ?_⟩, fun answer => ?_⟩, .inl rfl⟩
    · cases answer with
      | error error => trivial
      | ok _ => exact ih.1.asks
    · cases answer with
      | error error => exact ⟨.inr rfl, trivial⟩
      | ok _ => exact ⟨ih.2, ih.1.proceeds⟩

theorem respond_request (chunks : Nat) (reply : Except RuntimeError Bool) :
    IsRequest (respond chunks reply) ∧ phase (respond chunks reply) = .handled := by
  have body := streamBody_request chunks
  cases reply with
  | error error => exact ⟨⟨⟨trivial, fun _ => trivial⟩, fun _ => ⟨.inr rfl, trivial⟩⟩, rfl⟩
  | ok success =>
    cases success with
    | false => exact ⟨⟨⟨trivial, fun _ => trivial⟩, fun _ => ⟨.inr rfl, trivial⟩⟩, rfl⟩
    | true => exact ⟨⟨⟨trivial, fun _ => body.1.asks⟩, fun _ => ⟨body.2, body.1.proceeds⟩⟩, rfl⟩

theorem handler_step (handled : phaseOf query = .handled) (asked : AskedByRequest query)
    (proceeds : ∀ answer rest, phase rest = .handled → Proceeds ⟨query, answer⟩ rest)
    (rest : ∀ answer, IsRequest (next answer) ∧ phase (next answer) = .handled) :
    IsRequest (.ask query next) ∧ phase (.ask query next) = .handled :=
  ⟨⟨⟨asked, fun answer => (rest answer).1.asks⟩, fun answer =>
    ⟨proceeds answer _ (rest answer).2, (rest answer).1.proceeds⟩⟩, handled⟩

theorem forwarded_request (chunks : Nat) : IsRequest (forwarded.caught >>= respond chunks) ∧
      phase (forwarded.caught >>= respond chunks) = .handled := by
  have done := respond_request chunks
  refine handler_step rfl trivial (fun _ _ same => same) fun answer => ?_
  cases answer with
  | error error => exact done (.error error)
  | ok _ =>
    refine handler_step rfl trivial (fun _ _ same => same) fun answer => ?_
    cases answer with
    | error error => exact done (.error error)
    | ok _ =>
      refine handler_step rfl trivial (fun _ _ same => same) fun answer => ?_
      cases answer with
      | error error => exact done (.error error)
      | ok _ =>
        refine handler_step rfl trivial (fun _ _ same => same) fun answer => ?_
        cases answer with
        | error error => exact done (.error error)
        | ok success =>
          refine handler_step rfl trivial (fun _ _ same => same) fun _ => ?_
          cases success with
          | true => exact done (.ok true)
          | false => exact handler_step rfl trivial (fun _ _ same => same) fun _ => done (.ok false)

theorem forwardPost_request (chunks : Nat) : IsRequest (forwardPostWithBody chunks) := by
  have handler := forwarded_request chunks
  refine ⟨⟨trivial, fun _ => ⟨trivial, fun flag => ?_⟩⟩, fun _ => ⟨rfl, fun flag => ?_⟩⟩
  · cases flag with
    | draining => exact ⟨trivial, fun _ => trivial⟩
    | active => exact handler.1.asks
  · cases flag with
    | draining => exact ⟨.inl rfl, fun _ => ⟨.inr rfl, trivial⟩⟩
    | active => exact ⟨.inr ⟨handler.2, rfl⟩, handler.1.proceeds⟩

/-! ### What the reaper relies on -/

/-- What a tick knows of the model: the time, the flag and since when, and how many handlers run. -/
structure View where
  clock : Nat
  flag : InstanceFlag
  flaggedAt : Nat
  handled : Nat

/-- What the requests leave as it was: while the model drains, no further handler runs. -/
structure Later (view view' : View) : Prop where
  clock : view.clock ≤ view'.clock
  flag : view'.flag = view.flag
  flaggedAt : view'.flaggedAt = view.flaggedAt
  handled : view.flag = .draining → view'.handled ≤ view.handled

theorem Later.refl (view : View) : Later view view :=
  ⟨Nat.le_refl _, rfl, rfl, fun _ => Nat.le_refl _⟩

theorem Later.trans (first second third : View) (one : Later first second)
    (two : Later second third) : Later first third where
  clock := Nat.le_trans one.clock two.clock
  flag := two.flag.trans one.flag
  flaggedAt := two.flaggedAt.trans one.flaggedAt
  handled := fun draining =>
    Nat.le_trans (two.handled (one.flag.trans draining)) (one.handled draining)

def viewAnswers : View → RuntimeEvent → View → Prop
  | _, ⟨.setDraining, _⟩, view' => view'.flag = .draining ∧ view'.flaggedAt ≤ view'.clock
  | _, ⟨.clearInstanceFlag, _⟩, _ => True
  | view, ⟨.now, now⟩, view' => (view.clock ≤ now ∧ now ≤ view'.clock) ∧ Later view view'
  | view, ⟨.inflightCount, inflight⟩, view' => view'.handled ≤ inflight ∧ Later view view'
  | view, _, view' => Later view view'

/-- **When the engine may be stopped**: no handler runs, or the drain timeout has elapsed. -/
def MayAsk (view : View) : RuntimeQuery → Prop
  | .stop drainSecs => view.handled = 0 ∨ view.flaggedAt + drainSecs.toNat * 1000 ≤ view.clock
  | _ => True

/-- Whatever the requests do meanwhile, the engine is stopped only when it may be. -/
abbrev Careful (view : View) (program : Serving Unit) : Prop :=
  Secures viewAnswers Later MayAsk view program

theorem careful_step
    (free : ∀ view, MayAsk view query) (each : ∀ answer view, Careful view (next answer))
    (view : View) : Careful view (.ask query next) :=
  fun now _ => ⟨free now, fun answer later _ => each answer later⟩

theorem stopIdle_careful
    (after : ∀ view, Careful view rest) {view : View} (draining : view.flag = .draining)
    (may : MayAsk view (.stop drainSecs)) : Careful view (stopIdle drainSecs rest) := by
  have cleared : ∀ view, Careful view (.ask .markStopped fun _ => .ask .clearInstanceFlag fun _ =>
      .ask .forget fun _ => rest) := by
    refine careful_step (fun _ => trivial) fun _ => careful_step (fun _ => trivial) fun _ => ?_
    exact careful_step (fun _ => trivial) fun _ => after
  intro now since
  refine ⟨?_, fun _ => fun later _ => cleared later⟩
  rcases may with idle | elapsed
  · have fewer := since.handled draining
    exact .inl (by omega)
  · refine .inr ?_
    rw [since.flaggedAt]
    exact Nat.le_trans elapsed since.clock

theorem awaitDrained_careful {deadline : Nat}
    (after : ∀ view, Careful view rest) (rounds : Nat) {view : View}
    (draining : view.flag = .draining) (due : view.flaggedAt + drainSecs.toNat * 1000 ≤ deadline) :
    Careful view (awaitDrained deadline (stopIdle drainSecs rest) rounds) := by
  induction rounds generalizing view with
  | zero => trivial
  | succ rounds ih =>
    intro now since
    refine ⟨trivial, fun inflight counted answered => ?_⟩
    obtain ⟨few, onward⟩ := answered
    have since := since.trans _ _ _ onward
    by_cases idle : inflight = 0
    · simp only [if_pos idle]
      have gone : counted.handled = 0 := Nat.le_zero.mp (Nat.le_trans few (Nat.le_of_eq idle))
      exact stopIdle_careful after (since.flag.trans draining) (.inl gone)
    · simp only [if_neg idle]
      intro shown later
      refine ⟨trivial, fun time told answered => ?_⟩
      obtain ⟨between, onward⟩ := answered
      have since := (since.trans _ _ _ later).trans _ _ _ onward
      have draining' := since.flag.trans draining
      by_cases passed : deadline ≤ time
      · simp only [if_pos passed]
        refine stopIdle_careful after draining' (.inr ?_)
        rw [since.flaggedAt]
        exact Nat.le_trans (Nat.le_trans due passed) between.2
      · simp only [if_neg passed]
        intro slept later
        refine ⟨trivial, fun _ woken answered => ?_⟩
        have since := (since.trans _ _ _ later).trans _ _ _ answered
        exact ih (since.flag.trans draining) (since.flaggedAt ▸ due)

theorem drainAndStop_careful (drainSecs : Int) (rounds : Nat)
    (after : ∀ view, Careful view rest) (view : View) :
    Careful view (drainAndStop drainSecs rounds rest) := by
  intro now _
  refine ⟨trivial, fun _ flagged answered => ?_⟩
  obtain ⟨draining, before⟩ := answered
  intro shown since
  refine ⟨trivial, fun time told answered => ?_⟩
  obtain ⟨between, onward⟩ := answered
  have passed := since.clock
  have since := since.trans _ _ _ onward
  refine awaitDrained_careful after rounds (since.flag.trans draining) ?_
  rw [since.flaggedAt]
  omega

theorem evictIdle_careful (rounds : Nat)
    (after : ∀ view, Careful view rest) (settings : Except RuntimeError (Int × Int)) :
    ∀ view, Careful view (evictIdle rounds rest settings) := by
  cases settings with
  | error error => exact after
  | ok settings =>
    refine careful_step (fun _ => trivial) fun _ => ?_
    by_cases disabled : settings.1 ≤ 0
    · simp only [if_pos disabled]
      exact after
    · simp only [if_neg disabled]
      refine careful_step (fun _ => trivial) fun found => ?_
      cases found with
      | error error => exact after
      | ok idle =>
        cases idle with
        | false => exact after
        | true =>
          refine careful_step (fun _ => trivial) fun deployment => ?_
          cases deployment with
          | error error => exact after
          | ok _ => exact drainAndStop_careful settings.2 rounds after

theorem runOneTick_careful (rounds : Nat)
    (after : ∀ view, Careful view rest) : ∀ view, Careful view (runOneTick rounds rest) := by
  have decided : ∀ view, Careful view (.ask .getRuntimeSettings (evictIdle rounds rest)) :=
    careful_step (fun _ => trivial) (evictIdle_careful rounds after)
  refine careful_step (fun _ => trivial) fun touched => ?_
  cases touched with
  | false => exact decided
  | true => exact careful_step (fun _ => trivial) fun _ => decided

/-- **The reaper stops the engine when no handler runs, or after the timeout.** -/
theorem reaper_careful (ticks : List Nat) : ∀ view, Careful view (reaper ticks) := by
  induction ticks with
  | nil => exact fun _ => trivial
  | cons rounds ticks ih => exact runOneTick_careful rounds ih

/-! ### What a request does -/

/-- What one step of a request does: the guards are counted, and no handler starts in a model that
drains. -/
structure Moves (store store' : RuntimeStore) (before after : Serving Unit) : Prop where
  clock : store.clock ≤ store'.clock
  flag : store'.flag = store.flag
  flaggedAt : store'.flaggedAt = store.flaggedAt
  inflight : store'.inflight + (holdsGuard before).toNat = store.inflight + (holdsGuard after).toNat
  handled : store.flag = .draining → (isHandled after).toNat ≤ (isHandled before).toNat

theorem Moves.within {before after : Serving Unit}
    (clock : store.clock ≤ store'.clock) (flag : store'.flag = store.flag)
    (flaggedAt : store'.flaggedAt = store.flaggedAt) (inflight : store'.inflight = store.inflight)
    (old : phase before = .handled) (new : phase after = .handled) :
    Moves store store' before after := by
  refine ⟨clock, flag, flaggedAt, ?_, fun _ => ?_⟩
  · rw [inflight, holdsGuard, holdsGuard, old, new]
  · exact Nat.le_of_eq (by rw [isHandled, isHandled, old, new])

theorem request_moves {answer : RuntimeAnswer query} (request : IsRequest (.ask query next))
    (counted : (holdsGuard (.ask query next)).toNat ≤ store.inflight)
    (answered : runtimeAnswers store ⟨query, answer⟩ store') :
    Moves store store' (.ask query next) (next answer) := by
  obtain ⟨later, since, effect⟩ := answered
  have proceeds := (request.proceeds answer).1
  have asks := request.asks.1
  cases query with
  | acquireGuard =>
    obtain rfl := effect
    refine ⟨since, rfl, rfl, ?_, fun _ => ?_⟩
    · rw [holdsGuard, holdsGuard, show phase (next answer) = .waiting from proceeds]
      rfl
    · rw [isHandled, show phase (next answer) = .waiting from proceeds]
      exact Nat.zero_le _
  | getInstanceFlag =>
    obtain ⟨same, rfl⟩ := effect
    rcases proceeds with refused | ⟨admitted, active⟩
    · refine ⟨since, rfl, rfl, ?_, fun _ => ?_⟩
      · rw [holdsGuard, holdsGuard, refused]
        rfl
      · rw [isHandled, refused]
        exact Nat.zero_le _
    · refine ⟨since, rfl, rfl, ?_, fun draining => ?_⟩
      · rw [holdsGuard, holdsGuard, admitted]
        rfl
      · rw [active] at same
        rw [show store.flag = .active from same.symm] at draining
        cases draining
  | dropGuard leaving =>
    obtain rfl := effect
    have held : 1 ≤ store.inflight := by
      cases leaving <;> exact counted
    have gone : holdsGuard (.ask (.dropGuard leaving) next) = true := by
      cases leaving <;> rfl
    refine ⟨since, rfl, rfl, ?_, fun _ => ?_⟩
    · have released : holdsGuard (next answer) = false := by
        rcases proceeds with left | left <;> rw [holdsGuard, left] <;> rfl
      rw [gone, released]
      exact Nat.sub_add_cancel held
    · have left : isHandled (next answer) = false := by
        rcases proceeds with left | left <;> rw [isHandled, left] <;> rfl
      rw [left]
      exact Nat.zero_le _
  | nextChunk =>
    have same : store' = { store with clock := later } := by
      cases answer with
      | error error => exact effect
      | ok _ => exact effect.2
    obtain rfl := same
    refine ⟨since, rfl, rfl, ?_, fun _ => ?_⟩
    · have released : holdsGuard (next answer) = false := by
        rcases proceeds with left | left <;> rw [holdsGuard, left] <;> rfl
      rw [released]
      rfl
    · have left : isHandled (next answer) = false := by
        rcases proceeds with left | left <;> rw [isHandled, left] <;> rfl
      rw [left]
      exact Nat.zero_le _
  | ensureRunning =>
    cases answer with
    | error error =>
      rcases effect with rfl | rfl
      · exact .within since rfl rfl rfl rfl proceeds
      · exact .within since rfl rfl rfl rfl proceeds
    | ok _ =>
      rcases effect with ⟨_, _, rfl⟩ | rfl
      · exact .within since rfl rfl rfl rfl proceeds
      · exact .within since rfl rfl rfl rfl proceeds
  | sendUpstream =>
    have same : store' = { store with clock := later } := by
      cases answer with
      | error error => exact effect
      | ok _ => exact effect.2
    obtain rfl := same
    exact .within since rfl rfl rfl rfl proceeds
  | getRunningInstanceBaseUrl | getInstanceApiKey | touchLastUsed | readErrorBody =>
    obtain rfl := effect
    exact .within since rfl rfl rfl rfl proceeds
  | _ => exact absurd asks id

/-! ### Every interleaving -/

def AskedByReaper : RuntimeQuery → Prop
  | .drainLastUsed | .bumpLastUsed | .getRuntimeSettings | .monitorHealth | .findIdle _
  | .getDeployment | .setDraining | .now | .inflightCount | .sleep | .stop _ | .markStopped
  | .clearInstanceFlag | .forget => True
  | _ => False

theorem stopIdle_asks
    (after : AsksOnly AskedByReaper rest) : AsksOnly AskedByReaper (stopIdle drainSecs rest) :=
  ⟨trivial, fun _ => ⟨trivial, fun _ => ⟨trivial, fun _ => ⟨trivial, fun _ => after⟩⟩⟩⟩

theorem awaitDrained_asks {stop : Serving Unit} {deadline : Nat}
    (after : AsksOnly AskedByReaper stop) (rounds : Nat) :
    AsksOnly AskedByReaper (awaitDrained deadline stop rounds) := by
  induction rounds with
  | zero => trivial
  | succ rounds ih =>
    refine ⟨trivial, fun inflight => AsksOnly.ite after ⟨trivial, fun now => ?_⟩⟩
    exact AsksOnly.ite after ⟨trivial, fun _ => ih⟩

theorem evictIdle_asks (rounds : Nat) (after : AsksOnly AskedByReaper rest)
    (settings : Except RuntimeError (Int × Int)) :
    AsksOnly AskedByReaper (evictIdle rounds rest settings) := by
  cases settings with
  | error error => exact after
  | ok settings =>
    refine ⟨trivial, fun _ => AsksOnly.ite after ⟨trivial, fun found => ?_⟩⟩
    cases found with
    | error error => exact after
    | ok idle =>
      cases idle with
      | false => exact after
      | true =>
        refine ⟨trivial, fun deployment => ?_⟩
        cases deployment with
        | error error => exact after
        | ok _ => exact ⟨trivial, fun _ => ⟨trivial, fun _ =>
            awaitDrained_asks (stopIdle_asks after) rounds⟩⟩

theorem reaper_asks (ticks : List Nat) : AsksOnly AskedByReaper (reaper ticks) := by
  induction ticks with
  | nil => trivial
  | cons rounds ticks ih =>
    have decided := evictIdle_asks rounds ih
    exact ⟨trivial, fun touched =>
      AsksOnly.ite ⟨trivial, fun _ => ⟨trivial, decided⟩⟩ ⟨trivial, decided⟩⟩

theorem reaper_outside {tick : Serving Unit} (asks : AsksOnly AskedByReaper tick) :
    phase tick = .outside := by
  cases tick with
  | pure | fail => rfl
  | ask query next =>
    have asked := asks.1
    cases query <;> first | rfl | exact absurd asked id

def viewOf (store : RuntimeStore) (handled : Nat) : View :=
  ⟨store.clock, store.flag, store.flaggedAt, handled⟩

theorem tick_views {event : RuntimeEvent} {handled : Nat}
    (asked : AskedByReaper event.1) (guarded : handled ≤ store.inflight)
    (answered : runtimeAnswers store event store') : store'.inflight = store.inflight ∧
      store.clock ≤ store'.clock ∧ viewAnswers (viewOf store handled) event
        (viewOf store' handled) := by
  obtain ⟨later, since, effect⟩ := answered
  have onward : Later (viewOf store handled) (viewOf { store with clock := later } handled) :=
    ⟨since, rfl, rfl, fun _ => Nat.le_refl _⟩
  obtain ⟨query, answer⟩ := event
  cases query with
  | setDraining =>
    obtain rfl := effect
    exact ⟨rfl, since, rfl, Nat.le_refl _⟩
  | clearInstanceFlag =>
    obtain rfl := effect
    exact ⟨rfl, since, trivial⟩
  | now =>
    obtain ⟨rfl, rfl⟩ := effect
    exact ⟨rfl, since, ⟨since, Nat.le_refl _⟩, onward⟩
  | inflightCount =>
    obtain ⟨rfl, rfl⟩ := effect
    exact ⟨rfl, since, guarded, onward⟩
  | drainLastUsed =>
    obtain ⟨_, rfl⟩ := effect
    exact ⟨rfl, since, onward⟩
  | findIdle idleSecs =>
    cases answer with
    | error error =>
      obtain rfl := effect
      exact ⟨rfl, since, onward⟩
    | ok found =>
      obtain ⟨_, rfl⟩ := effect
      exact ⟨rfl, since, onward⟩
  | stop drainSecs =>
    cases answer with
    | error | ok =>
      obtain rfl := effect
      exact ⟨rfl, since, onward⟩
  | bumpLastUsed | getRuntimeSettings | monitorHealth | getDeployment | sleep | markStopped
    | forget =>
    obtain rfl := effect
    exact ⟨rfl, since, onward⟩
  | _ => exact absurd asked id

/-- **The reaper, and requests whose guards are counted.** -/
structure Serves (config : RuntimeConfig) (tick : Serving Unit) (requests : List (Serving Unit)) :
    Prop where
  threads : config.threads = tick :: requests
  asks : AsksOnly AskedByReaper tick
  careful : Careful (viewOf config.shared (requests.countP isHandled)) tick
  requested : ∀ request ∈ requests, IsRequest request
  counted : config.shared.inflight = requests.countP holdsGuard

theorem handled_le (requests : List (Serving Unit)) :
    requests.countP isHandled ≤ requests.countP holdsGuard := by
  refine List.countP_mono_left fun request _ handled => ?_
  rw [holdsGuard, show phase request = .handled from of_decide_eq_true handled]
  rfl

theorem Serves.tallies {tick : Serving Unit}
    {requests : List (Serving Unit)} (serves : Serves config tick requests) :
    handling config = requests.countP isHandled ∧
      streamingBodies config = requests.countP isStreamed := by
  have outside := reaper_outside serves.asks
  rw [handling, streamingBodies, serves.threads]
  refine ⟨List.countP_cons_of_neg ?_, List.countP_cons_of_neg ?_⟩
  · rw [isHandled, outside]
    decide
  · rw [isStreamed, outside]
    decide

/-- **Every step keeps it.** -/
theorem serves_step {config' : RuntimeConfig} {label : Nat × RuntimeEvent}
    (serves : ∃ tick requests, Serves config tick requests)
    (step : localModel.Step config label config') :
    ∃ tick requests, Serves config' tick requests := by
  obtain ⟨tick, requests, threads, asks, careful, requested, counted⟩ := serves
  cases step with
  | @act shared shared' running thread query next answer found answered =>
    obtain rfl : running = tick :: requests := threads
    cases thread with
    | zero =>
      obtain rfl : tick = .ask query next := Option.some.inj found
      have guarded : requests.countP isHandled ≤ shared.inflight := counted ▸ handled_le requests
      obtain ⟨same, _, views⟩ := tick_views asks.1 guarded answered
      refine ⟨next answer, requests, ?_, asks.2 answer, ?_, requested, same.trans counted⟩
      · exact List.append_nil _
      · exact (careful _ (Later.refl _)).2 answer _ views
    | succ thread =>
      have found : requests[thread]? = some (.ask query next) := found
      have request := requested _ (List.mem_of_getElem? found)
      have guards := countP_set_balance holdsGuard (next answer) found
      have handlers := countP_set_balance isHandled (next answer) found
      have held : (holdsGuard (.ask query next)).toNat ≤ shared.inflight := by
        cases guard : holdsGuard (.ask query next) with
        | false => exact Nat.zero_le _
        | true =>
          have counted : shared.inflight = requests.countP holdsGuard := counted
          rw [counted]
          exact List.countP_pos_iff.mpr ⟨_, List.mem_of_getElem? found, guard⟩
      have moves := request_moves request held answered
      refine ⟨tick, requests.set thread (next answer), ?_, asks, ?_, ?_, ?_⟩
      · exact List.append_nil _
      · refine careful.stable Later.trans ⟨moves.clock, moves.flag, moves.flaggedAt, fun draining =>
          ?_⟩
        have fewer := moves.handled draining
        show List.countP _ _ ≤ List.countP _ _
        omega
      · intro other member
        rcases List.mem_or_eq_of_mem_set member with member | rfl
        · exact requested other member
        · exact ⟨request.asks.2 answer, (request.proceeds answer).2⟩
      · have balance := moves.inflight
        have counted : shared.inflight = requests.countP holdsGuard := counted
        show shared'.inflight = _
        omega

theorem untouched_serves (ticks requests : List Nat) :
    Serves (untouchedModel ticks requests) (reaper ticks) (requests.map forwardPostWithBody) := by
  refine ⟨rfl, reaper_asks ticks, reaper_careful ticks _, ?_, ?_⟩
  · intro request member
    obtain ⟨chunks, _, rfl⟩ := List.mem_map.mp member
    exact forwardPost_request chunks
  · refine (List.countP_eq_zero.mpr fun request member => ?_).symm
    obtain ⟨chunks, _, rfl⟩ := List.mem_map.mp member
    exact Bool.false_ne_true

/-! ### A body that is cut off -/

/-- Answers without errors, after a tenth of a second, and a chunk after a minute; an engine is idle
after half a minute. -/
def promptAnswer (store : RuntimeStore) (query : RuntimeQuery) :
    RuntimeAnswer query × RuntimeStore :=
  let store := { store with clock := store.clock + 100 }
  match query with
  | .acquireGuard => ((), { store with inflight := store.inflight + 1 })
  | .getInstanceFlag => (store.flag, store)
  | .ensureRunning =>
    (.ok (), { store with alive := true, row := some ⟨true, store.clock⟩, touched := true })
  | .getRunningInstanceBaseUrl => (.ok (), store)
  | .getInstanceApiKey => (.ok (), store)
  | .sendUpstream => if store.alive then (.ok true, store) else (.error .unavailable, store)
  | .touchLastUsed => ((), { store with touched := true })
  | .readErrorBody => ((), store)
  | .dropGuard _ => ((), { store with inflight := store.inflight - 1 })
  | .nextChunk =>
    let store := { store with clock := store.clock + 60000 }
    if store.alive then (.ok (), store) else (.error .unavailable, store)
  | .drainLastUsed => (store.touched, { store with touched := false })
  | .bumpLastUsed =>
    ((), { store with row := store.row.map fun row => { row with lastUsedAt := store.clock } })
  | .getRuntimeSettings => (.ok (30, 30), store)
  | .monitorHealth => ((), store)
  | .findIdle idleSecs => (.ok (store.idle idleSecs), store)
  | .getDeployment => (.ok (), store)
  | .setDraining => ((), { store with flag := .draining, flaggedAt := store.clock })
  | .now => (store.clock, store)
  | .inflightCount => (store.inflight, store)
  | .sleep => ((), store)
  | .stop _ => (.ok (), { store with alive := false })
  | .markStopped =>
    ((), { store with row := store.row.map fun row => { row with running := false } })
  | .clearInstanceFlag => ((), { store with flag := .active })
  | .forget => ((), store)

theorem promptAnswer_sound (store : RuntimeStore) (query : RuntimeQuery) :
    runtimeAnswers store ⟨query, (promptAnswer store query).1⟩ (promptAnswer store query).2 := by
  cases query with
  | nextChunk =>
    refine ⟨store.clock + 100 + 60000, by omega, ?_⟩
    cases alive : store.alive with
    | false => simp only [promptAnswer, alive]; rfl
    | true => simp only [promptAnswer, alive]; exact ⟨rfl, by simp⟩
  | sendUpstream =>
    refine ⟨store.clock + 100, by omega, ?_⟩
    cases alive : store.alive with
    | false => simp only [promptAnswer, alive]; rfl
    | true => simp only [promptAnswer, alive]; exact ⟨rfl, by simp⟩
  | ensureRunning => exact ⟨store.clock + 100, by omega, .inr rfl⟩
  | getInstanceFlag | drainLastUsed | findIdle | now | inflightCount =>
    exact ⟨store.clock + 100, by omega, rfl, rfl⟩
  | _ => exact ⟨store.clock + 100, by omega, rfl⟩

/-- A request of three chunks, and two ticks of the reaper. -/
def streamingModel : RuntimeConfig := untouchedModel [1, 1] [3]

/-- The response begins, a tick finds the model in use, a chunk comes, and the next tick is about to
stop the engine. -/
def untilStop : List Nat :=
  [1, 1, 1, 1, 1, 1, 1, 1] ++ [0, 0, 0, 0, 0] ++ [1] ++ [0, 0, 0, 0, 0, 0, 0, 0]

def beforeStop : RuntimeConfig := (localModel.execute promptAnswer streamingModel untilStop).2

def afterStop : RuntimeConfig :=
  ((localModel.act promptAnswer beforeStop 0).map Prod.snd).getD beforeStop

theorem beforeStop_reached : Follows localModel.Step (untouchedModel [1, 1] [3])
    (localModel.execute promptAnswer streamingModel untilStop).1 beforeStop :=
  localModel.follows_execute promptAnswer_sound untilStop streamingModel

theorem beforeStop_stops : localModel.Step beforeStop (0, ⟨.stop 30, .ok ()⟩) afterStop := by
  have acts : localModel.act promptAnswer beforeStop 0 =
      some ((0, ⟨.stop 30, .ok ()⟩), afterStop) := rfl
  exact localModel.step_of_act promptAnswer_sound acts

/-! ### What is spared -/

/-- **A stop spares the requests in progress exactly when it spares the bodies**: wherever the
reaper stops the engine, no handler runs or the drain timeout has elapsed. -/
theorem stop_spares_iff (ticks requests : List Nat) {config config' : RuntimeConfig}
    {log : List (Nat × RuntimeEvent)} {thread : Nat} {drainSecs : Int}
    {answer : RuntimeAnswer (.stop drainSecs)}
    (follows : Follows localModel.Step (untouchedModel ticks requests) log config)
    (step : localModel.Step config (thread, ⟨.stop drainSecs, answer⟩) config') :
    Spared drainSecs config config' ↔ BodiesSpared drainSecs config config' := by
  obtain ⟨tick, running, serves⟩ := follows.preserves
    (fun config => ∃ tick requests, Serves config tick requests) serves_step
    ⟨_, _, untouched_serves ticks requests⟩
  obtain ⟨handlers, bodies⟩ := serves.tallies
  obtain ⟨threads, asks, careful, requested, counted⟩ := serves
  cases step with
  | @act shared shared' all _ query next _ found answered =>
    obtain rfl : all = tick :: running := threads
    cases thread with
    | succ thread =>
      have found : running[thread]? = some (.ask (.stop drainSecs) next) := found
      exact absurd (requested _ (List.mem_of_getElem? found)).asks.1 id
    | zero =>
      obtain rfl : tick = .ask (.stop drainSecs) next := Option.some.inj found
      have guarded : running.countP isHandled ≤ shared.inflight := counted ▸ handled_le running
      obtain ⟨_, _, views⟩ := tick_views asks.1 guarded answered
      have may := (careful _ (Later.refl _)).1
      constructor
      · rintro (nothing | elapsed)
        · exact .inl (Nat.le_zero.mp (nothing ▸ Nat.le_add_left _ _))
        · exact .inr elapsed
      · rintro (nothing | elapsed)
        · rcases may with idle | elapsed
          · left
            rw [handlers, nothing]
            exact idle
          · right
            have same : shared'.flaggedAt = shared.flaggedAt := views.flaggedAt
            rw [Elapsed, same]
            exact Nat.le_trans elapsed views.clock
        · exact .inr elapsed

theorem cutOff_spares_iff : Spared 30 beforeStop afterStop ↔ BodiesSpared 30 beforeStop afterStop :=
  stop_spares_iff [1, 1] [3] beforeStop_reached beforeStop_stops

/-- The body is not at its end, and the engine is stopped a third of a second after the model was
flagged. -/
theorem streaming_stopped : ¬ ∀ (ticks requests : List Nat) {config config' : RuntimeConfig}
    {log : List (Nat × RuntimeEvent)} {thread : Nat} {drainSecs : Int}
    {answer : RuntimeAnswer (.stop drainSecs)},
    Follows localModel.Step (untouchedModel ticks requests) log config →
      localModel.Step config (thread, ⟨.stop drainSecs, answer⟩) config' →
      Spared drainSecs config config' := by
  intro all
  rcases all [1, 1] [3] beforeStop_reached beforeStop_stops with nothing | elapsed
  · exact absurd nothing (by decide)
  · exact absurd elapsed (by unfold Elapsed; decide)

end Ziee.LocalRuntime
