/-
**One engine for a model, and the books on it.**

The map is looked into by one start at a time, and every operation that leaves the map, the tokens
or the row behind has something to do that sets it right.

* `AtMostOne`, `BooksAgree`, `LiveRefusal` — one live process, the row against the map, and a
  refusal with a live process.
* `Startup`, `Advances` — how far a start has come, and what a thread owes after each event.
* `Exclusive` — **starts exclude each other**: what is alive is in the map, or about to be.
* `one_engine` — **the three in every run whose steps meet the condition**.
-/

import Mathlib.Data.List.Perm.Subperm
import Ziee.Library.Obligations
import Ziee.LocalRuntime.Deployments

namespace Ziee.LocalRuntime

open PortProgram Threads

variable {query : EngineQuery} {store store' : EngineStore} {answer : EngineAnswer query}
  {config config' : EngineConfig} {label : Nat × EngineEvent} {healthy : Bool}

def AtMostOne (store : EngineStore) : Prop := store.alive.length ≤ 1

/-- The process in the map, if there is one, has not exited. -/
def Unexited (store : EngineStore) : Prop := ∀ port, store.entry = some port → port ∈ store.alive

/-- **The row says running if and only if** the map holds a live process on its port, with a token;
and a model without a row has no live process. -/
structure BooksAgree (store : EngineStore) : Prop where
  agrees : store.running = true ↔ ∃ instance', store.row = some instance' ∧
    store.entry = some instance'.port ∧ instance'.port ∈ store.alive ∧ store.token = true
  rowless : store.row = none → ∀ port, store.entry = some port → port ∉ store.alive

/-- An operation that is not over; exits are none. -/
def underWay : Operating → Bool
  | .ask .exit _ => false
  | .ask _ _ => true
  | _ => false

def Quiet (config : EngineConfig) : Prop := ∀ program ∈ config.threads, underWay program = false

def Alone (config : EngineConfig) (thread : Nat) : Prop :=
  ∀ (other : Nat) (program : Operating), config.threads[other]? = some program → other ≠ thread →
    underWay program = false

/-! ### The condition -/

/-- What a statement does not contradict. -/
def Permitted (store : EngineStore) : EngineEvent → Prop
  | ⟨.containsKey, _⟩ => store.entry = none → store.starting = 0
  | ⟨.removeToken, _⟩ => store.inserting = 0
  | ⟨.removeProcess .last, _⟩ => store.running = true → store.entry = none
  | ⟨.markCrashed, _⟩ | ⟨.persistFailed, _⟩ | ⟨.markStopped, _⟩ | ⟨.deleteInstance, _⟩ =>
    store.running = true → ∀ port, store.entry = some port → port ∉ store.alive
  | ⟨.persistInstance port, _⟩ => store.entry = some port
  | ⟨.createInstanceRunning port, _⟩ => store.row = none → store.entry = some port
  | ⟨.updateRunning, _⟩ => ∀ instance' ∈ store.row, store.entry = some instance'.port
  | _ => True

/-- **The condition.** No start looks into an empty map while another one has done so and not
inserted yet; no stop takes the token away when a process is about to be inserted; a stop that no
statement on the row follows finds a row that does not say running, or no process; a row that says
running is taken back, or deleted, only when the map holds no live process, and is written for the
process that the map holds. A start on its own finds no process in the map that has exited. -/
def Ordered (config : EngineConfig) (label : Nat × EngineEvent) : Prop :=
  Permitted config.shared label.2 ∧
    (label.2.1 = .containsKey → Alone config label.1 → Unexited config.shared)

/-! ### How far a start has come -/

inductive Startup
  | outside
  | begun
  | spawned (port : Nat)
  | registered (port : Nat)
  deriving DecidableEq

def startupOf : EngineQuery → Startup
  | .prepare | .spawn => .begun
  | .registerToken port => .spawned port
  | .insertProcess port => .registered port
  | _ => .outside

def startup : Operating → Startup
  | .ask query _ => startupOf query
  | _ => .outside

/-- The start of an engine by a thread, after an event. -/
def Advances : EngineEvent → Operating → Prop
  | ⟨.containsKey, already⟩, rest => startup rest = if already then .outside else .begun
  | ⟨.prepare, prepared⟩, rest => startup rest = if prepared then .begun else .outside
  | ⟨.spawn, none⟩, rest => startup rest = .outside
  | ⟨.spawn, some port⟩, rest => startup rest = .spawned port
  | ⟨.registerToken port, _⟩, rest => startup rest = .registered port
  | _, rest => startup rest = .outside

/-! ### What is owed -/

def Settles : EngineEvent → Prop
  | ⟨.persistInstance _, _⟩ | ⟨.removeProcess _, _⟩ => True
  | ⟨.createInstanceRunning _, created⟩ => created = true
  | ⟨.updateRunning, updated⟩ => updated = true
  | _ => False

def Unmarks : EngineEvent → Prop
  | ⟨.markStopped, _⟩ | ⟨.deleteInstance, _⟩ => True
  | _ => False

def Removes : EngineEvent → Prop
  | ⟨.removeProcess _, _⟩ => True
  | _ => False

def OwesNothing (program : Operating) : Prop :=
  ∀ discharges : EngineEvent → Prop, ¬ discharges ⟨.exit, ()⟩ → ¬ Pays discharges program

/-- **What a thread owes** after an event. -/
def Owes : EngineEvent → Operating → Prop
  | ⟨.insertProcess _, _⟩, rest => Pays Settles rest
  | ⟨.updateStopped, updated⟩, rest => updated = true → Pays Settles rest
  | ⟨.removeProcess .beforeRow, stopped⟩, rest => stopped = true → Pays Unmarks rest
  | ⟨.removeToken, _⟩, rest => Pays Removes rest
  | ⟨.exit, _⟩, rest => OwesNothing rest
  | _, _ => True

/-- After each event the start has come as far as it has, and the thread owes what it owes. -/
def Sound (program : Operating) : Prop :=
  Each (fun event rest => Advances event rest ∧ Owes event rest) program

structure Fine (program : Operating) : Prop where
  sound : Sound program
  outside : startup program = .outside

variable {program : Operating} {operations : List Operation} {schedule : List Nat}

theorem fine_pure : Fine (.pure ()) := ⟨trivial, rfl⟩

theorem idles {rest : Operating} (outside : startup rest = .outside) :
    startup rest = .outside ∧ True :=
  ⟨outside, trivial⟩

theorem fine_step {next : EngineAnswer query → Operating} (outside : startupOf query = .outside)
    (advances : ∀ {answer rest}, startup rest = .outside →
      Advances ⟨query, answer⟩ rest ∧ Owes ⟨query, answer⟩ rest)
    (fine : ∀ answer, Fine (next answer)) : Fine (.ask query next) :=
  ⟨fun answer => ⟨advances (fine answer).outside, (fine answer).sound⟩, outside⟩

/-! ### The operations -/

section Operations

variable {next : Bool → Operating}

theorem startEngine_fine {next : Option Nat → Operating} (failed : Fine (next none))
    (started : ∀ port, Fine (next (some port)) ∧ Pays Settles (next (some port))) :
    Fine (startEngine next) := by
  refine ⟨fun already => ?_, rfl⟩
  cases already with
  | true => exact ⟨⟨failed.outside, trivial⟩, failed.sound⟩
  | false =>
    refine ⟨⟨rfl, trivial⟩, fun prepared => ?_⟩
    cases prepared with
    | false => exact ⟨⟨failed.outside, trivial⟩, failed.sound⟩
    | true =>
      refine ⟨⟨rfl, trivial⟩, fun spawned => ?_⟩
      cases spawned with
      | none => exact ⟨⟨failed.outside, trivial⟩, failed.sound⟩
      | some port =>
        obtain ⟨fine, pays⟩ := started port
        exact ⟨⟨rfl, trivial⟩, fun _ => ⟨⟨rfl, trivial⟩, fun _ =>
          ⟨⟨fine.outside, pays⟩, fine.sound⟩⟩⟩

theorem stopEngine_fine (site : StopSite) (fine : ∀ stopped, Fine (next stopped))
    (unmarks : site = .beforeRow → Pays Unmarks (next true)) : Fine (stopEngine site next) := by
  refine ⟨fun _ => ⟨⟨rfl, fun _ => .inl trivial⟩, fun stopped => ⟨⟨(fine stopped).outside, ?_⟩,
    (fine stopped).sound⟩⟩, rfl⟩
  cases site with
  | last => trivial
  | beforeRow =>
    rintro rfl
    exact unmarks rfl

theorem stopEngine_settles (site : StopSite) : Pays Settles (stopEngine site next) :=
  fun _ => .inr fun _ => .inl trivial

theorem probeEngine_fine {next : Probed → Operating} (fine : ∀ probed, Fine (next probed)) :
    Fine (probeEngine next) := by
  refine fine_step rfl idles fun found => ?_
  cases found with
  | none => exact fine .notRunning
  | some port =>
    refine fine_step rfl idles fun healthy => ?_
    cases healthy with
    | true => exact fine .running
    | false => exact fine_step rfl idles fun _ => fine .crashed

theorem awaitHealthy_fine (port : Nat) (fine : ∀ healthy, Fine (next healthy))
    (settles : ∀ healthy, Pays Settles (next healthy)) (polls : Nat) :
    Fine (awaitHealthy port next polls) ∧ Pays Settles (awaitHealthy port next polls) := by
  induction polls with
  | zero =>
    exact ⟨fine_step rfl idles fine, fun healthy => .inr (settles healthy)⟩
  | succ polls ih =>
    refine ⟨fine_step rfl idles fun healthy => ?_, fun healthy => .inr ?_⟩
    · cases healthy with
      | true => exact fine true
      | false => exact ih.1
    · cases healthy with
      | true => exact settles true
      | false => exact ih.2

theorem settleEngine_fine (polls port : Nat) (fine : ∀ started, Fine (next started)) :
    Fine (settleEngine polls port next) ∧ Pays Settles (settleEngine polls port next) := by
  have stops : Fine (stopEngine .last fun _ => next false) :=
    stopEngine_fine .last (fun _ => fine false) nofun
  refine awaitHealthy_fine port (fun healthy => ?_) (fun healthy => ?_) polls
  · cases healthy with
    | false => exact stops
    | true =>
      refine fine_step rfl idles fun bound => ?_
      cases bound with
      | false => exact stops
      | true => exact fine_step rfl idles fun _ => fine true
  · cases healthy with
    | false => exact stopEngine_settles .last
    | true =>
      intro bound
      cases bound with
      | false => exact .inr (stopEngine_settles .last)
      | true => exact .inr fun _ => .inl trivial

theorem doStartEngine_fine (polls : Nat) (fine : ∀ started, Fine (next started)) :
    Fine (doStartEngine polls next) := by
  refine fine_step rfl idles fun resolved => ?_
  cases resolved with
  | false => exact fine false
  | true =>
    rw [if_pos rfl]
    refine startEngine_fine ?_ fun port => ?_
    · exact probeEngine_fine fun probed => fine _
    · exact settleEngine_fine polls port fine

theorem initCell_fine (cell polls : Nat) {next : Operating} (fine : Fine next) :
    Fine (initCell cell polls next) := by
  have stored : ∀ started, Fine (.ask (.setCell cell started) fun _ => next) := fun _ =>
    fine_step rfl idles fun _ => fine
  refine doStartEngine_fine polls fun started => ?_
  cases started with
  | true => exact fine_step rfl idles fun _ => stored true
  | false =>
    refine fine_step rfl idles fun crash => ?_
    cases crash with
    | giveUp => exact fine_step rfl idles fun _ => stored false
    | backoff | proceed => exact stored false

theorem singleFlight_fine : Fine singleFlight := by
  have left : Fine (.ask .removeCell fun _ => .pure ()) :=
    fine_step rfl idles fun _ => fine_pure
  refine fine_step rfl idles fun cell => ?_
  refine fine_step rfl idles fun polls => ?_
  refine fine_step rfl idles fun result => ?_
  cases result with
  | none => exact initCell_fine cell polls left
  | some started => exact left

theorem ensureRunning_fine : Fine ensureRunning := by
  refine probeEngine_fine fun probed => ?_
  cases probed with
  | running => exact fine_step rfl idles fun _ => fine_pure
  | crashed =>
    refine fine_step rfl idles fun crash => ?_
    cases crash with
    | giveUp =>
      refine fine_step rfl idles fun _ => ?_
      exact fine_step rfl idles fun _ => fine_pure
    | backoff => exact fine_pure
    | proceed => exact singleFlight_fine
  | notRunning =>
    refine fine_step rfl idles fun failed => ?_
    cases failed with
    | true => exact fine_pure
    | false => exact singleFlight_fine

theorem stopped_fine : Fine (stopEngine .last fun _ => .pure ()) :=
  stopEngine_fine .last (fun _ => fine_pure) nofun

theorem launchInstance_fine : Fine launchInstance := by
  refine fine_step rfl idles fun resolved => ?_
  cases resolved with
  | false => exact fine_pure
  | true =>
    rw [if_pos rfl]
    refine startEngine_fine ?_ fun port => ⟨?_, ?_⟩
    · exact fine_pure
    · refine fine_step rfl idles fun created => ?_
      cases created with
      | false => exact stopped_fine
      | true =>
        refine fine_step rfl idles fun found => ?_
        cases found with
        | none => exact stopped_fine
        | some instance' => exact fine_pure
    · intro created
      cases created with
      | false => exact .inr (stopEngine_settles .last)
      | true => exact .inl rfl

theorem startModelInstance_fine : Fine startModelInstance := by
  have replaces : Fine replaceInstance := by
    refine fine_step rfl idles fun deleted => ?_
    cases deleted with
    | true => exact launchInstance_fine
    | false => exact fine_pure
  refine fine_step rfl idles fun found => ?_
  cases found with
  | none => exact launchInstance_fine
  | some instance' =>
    obtain ⟨running, port⟩ := instance'
    cases running with
    | false => exact replaces
    | true =>
      refine fine_step rfl idles fun healthy => ?_
      cases healthy with
      | true => exact fine_pure
      | false => exact replaces

theorem stopModelInstance_fine : Fine stopModelInstance := by
  have ends : ∀ stopped, Fine (if stopped = true then .ask .clearInstanceFlag fun _ =>
      .ask .forget fun _ => .ask .getInstance fun _ => .pure () else .pure ()) := fun stopped => by
    cases stopped with
    | false => exact fine_pure
    | true =>
      refine fine_step rfl idles fun _ => ?_
      refine fine_step rfl idles fun _ => ?_
      exact fine_step rfl idles fun _ => fine_pure
  have stops := stopEngine_fine .last ends nofun
  refine ⟨fun updated => ?_, rfl⟩
  cases updated with
  | false => exact ⟨⟨rfl, by rintro ⟨⟩⟩, trivial⟩
  | true => exact ⟨⟨rfl, fun _ => stopEngine_settles .last⟩, stops.sound⟩

theorem relaunchInstance_fine : Fine relaunchInstance := by
  refine fine_step rfl idles fun resolved => ?_
  cases resolved with
  | false => exact fine_pure
  | true =>
    have undone : Fine (stopEngine .last fun _ => .ask .deleteInstance fun _ => .pure ()) :=
      stopEngine_fine .last (fun _ => fine_step rfl idles fun _ => fine_pure) nofun
    rw [if_pos rfl]
    refine startEngine_fine ?_ fun port => ⟨?_, ?_⟩
    · exact fine_pure
    · refine fine_step rfl idles fun created => ?_
      cases created with
      | false => exact stopped_fine
      | true =>
        refine fine_step rfl idles fun updated => ?_
        cases updated with
        | false => exact undone
        | true => exact fine_step rfl idles fun _ => fine_pure
    · refine fun created => .inr ?_
      cases created with
      | false => exact stopEngine_settles .last
      | true =>
        intro updated
        cases updated with
        | false => exact .inr (stopEngine_settles .last)
        | true => exact .inl rfl

theorem restartModelInstance_fine : Fine restartModelInstance := by
  refine fine_step rfl idles fun found => ?_
  cases found with
  | none => exact fine_pure
  | some instance' =>
    refine stopEngine_fine .beforeRow (fun stopped => ?_) fun _ _ => .inl trivial
    cases stopped with
    | false => exact fine_pure
    | true =>
      refine fine_step rfl idles fun deleted => ?_
      cases deleted with
      | true => exact relaunchInstance_fine
      | false => exact fine_pure

theorem evictIdleEngine_fine : Fine evictIdleEngine := by
  refine fine_step rfl idles fun idle => ?_
  cases idle with
  | false => exact fine_pure
  | true =>
    refine fine_step rfl idles fun _ => ?_
    refine stopEngine_fine .beforeRow (fun _ => ?_) fun _ _ => .inl trivial
    refine fine_step rfl idles fun _ => ?_
    refine fine_step rfl idles fun _ => ?_
    exact fine_step rfl idles fun _ => fine_pure

theorem engineExits_fine (times : Nat) :
    Fine (engineExits times) ∧ OwesNothing (engineExits times) := by
  induction times with
  | zero => exact ⟨fine_pure, fun _ _ pays => pays⟩
  | succ times ih =>
    refine ⟨⟨fun _ => ⟨⟨ih.1.outside, ih.2⟩, ih.1.sound⟩, rfl⟩, fun discharges silent pays => ?_⟩
    rcases pays () with discharged | pays
    · exact silent discharged
    · exact ih.2 discharges silent pays

/-- **Every operation is sound.** -/
theorem operation_fine (operation : Operation) : Fine operation.program := by
  cases operation with
  | ensureRunning => exact ensureRunning_fine
  | start => exact startModelInstance_fine
  | stop => exact stopModelInstance_fine
  | restart => exact restartModelInstance_fine
  | evict => exact evictIdleEngine_fine
  | exits times => exact (engineExits_fine times).1

end Operations

/-! ### Starts exclude each other -/

def isStarting (program : Operating) : Bool := decide (startup program ≠ .outside)

def isInserting (program : Operating) : Bool :=
  match startup program with
  | .registered _ => true
  | _ => false

/-- The process that a thread has spawned and not inserted yet. -/
def loosePort (program : Operating) : Option Nat :=
  match startup program with
  | .spawned port | .registered port => some port
  | _ => none

/-- **Starts exclude each other**, and what is alive is in the map, or about to be inserted with its
token. -/
structure Exclusive (config : EngineConfig) : Prop where
  sound : ∀ program ∈ config.threads, Sound program
  starting : config.shared.starting = config.threads.countP isStarting
  inserting : config.shared.inserting = config.threads.countP isInserting
  single : config.shared.starting ≤ 1
  empty : 0 < config.shared.starting → config.shared.entry = none
  known : ∀ port ∈ config.shared.alive, config.shared.entry = some port ∨
    ∃ program ∈ config.threads, loosePort program = some port
  nodup : config.shared.alive.Nodup
  token : 0 < config.shared.inserting → config.shared.token = true

theorem loose_starting {port : Nat} (loose : loosePort program = some port) :
    isStarting program = true := by
  unfold loosePort at loose
  unfold isStarting
  cases phase : startup program <;> rw [phase] at loose <;> first | rfl | cases loose

/-- What an answer leaves as it was, to the map and to the starts. -/
structure Apart (store store' : EngineStore) : Prop where
  entry : store'.entry = store.entry
  token : store'.token = store.token
  alive : store'.alive.Sublist store.alive
  starting : store'.starting = store.starting
  inserting : store'.inserting = store.inserting

/-- The queries of the deployment that change the map, the tokens or the processes. -/
def deploys : EngineQuery → Bool
  | .containsKey | .prepare | .spawn | .registerToken _ | .insertProcess _ | .removeToken
  | .removeProcess _ => true
  | _ => false

theorem answers_apart
    (other : deploys query = false) (answers : engineAnswers store ⟨query, answer⟩ store') :
    Apart store store' := by
  have same : Apart store store := ⟨rfl, rfl, List.Sublist.refl _, rfl, rfl⟩
  cases query with
  | containsKey | prepare | spawn | registerToken | insertProcess | removeToken | removeProcess =>
    cases other
  | exit =>
    rcases answers with rfl | ⟨port, _, rfl⟩
    · exact same
    · exact ⟨rfl, rfl, List.erase_sublist, rfl, rfl⟩
  | claimCell =>
    rcases answers with ⟨_, rfl⟩ | ⟨_, _, rfl⟩
    · exact same
    · exact ⟨rfl, rfl, List.Sublist.refl _, rfl, rfl⟩
  | enterCell cell =>
    cases answer with
    | none =>
      obtain ⟨_, rfl⟩ := answers
      exact ⟨rfl, rfl, List.Sublist.refl _, rfl, rfl⟩
    | some started =>
      obtain ⟨_, rfl⟩ := answers
      exact same
  | selectRunning | healthCheck =>
    obtain ⟨rfl, _⟩ := answers
    exact same
  | getInstance | findIdle =>
    obtain ⟨_, rfl⟩ := answers
    exact same
  | deleteInstance | updateStopped | updateRunning =>
    obtain ⟨_, rfl⟩ := answers
    exact ⟨rfl, rfl, List.Sublist.refl _, rfl, rfl⟩
  | createInstanceRunning port | createInstance port =>
    obtain ⟨created, rfl⟩ := answers
    cases answer with
    | true => exact ⟨rfl, rfl, List.Sublist.refl _, rfl, rfl⟩
    | false => exact same
  | _ =>
    obtain rfl := answers
    exact ⟨rfl, rfl, List.Sublist.refl _, rfl, rfl⟩

section Steps

variable {shared shared' : EngineStore} {threads : List Operating} {thread : Nat}
  {before after : Operating}

theorem Exclusive.steps (exclusive : Exclusive ⟨shared, threads⟩)
    (found : threads[thread]? = some before) (sound : Sound after)
    (starting : shared'.starting + (isStarting before).toNat =
      shared.starting + (isStarting after).toNat)
    (inserting : shared'.inserting + (isInserting before).toNat =
      shared.inserting + (isInserting after).toNat)
    (single : shared'.starting ≤ 1) (empty : 0 < shared'.starting → shared'.entry = none)
    (known : ∀ port ∈ shared'.alive, shared'.entry = some port ∨ loosePort after = some port ∨
      (port ∈ shared.alive ∧ shared.entry ≠ some port ∧ loosePort before ≠ some port))
    (nodup : shared'.alive.Nodup) (token : 0 < shared'.inserting → shared'.token = true) :
    Exclusive ⟨shared', threads.set thread after⟩ := by
  have starts := countP_set_balance isStarting after found
  have inserts := countP_set_balance isInserting after found
  have starting' : shared.starting = threads.countP isStarting := exclusive.starting
  have inserting' : shared.inserting = threads.countP isInserting := exclusive.inserting
  refine ⟨?_, ?_, ?_, single, empty, ?_, nodup, token⟩
  · intro program member
    rcases List.mem_or_eq_of_mem_set member with member | rfl
    · exact exclusive.sound program member
    · exact sound
  · show shared'.starting = (threads.set thread after).countP isStarting
    omega
  · show shared'.inserting = (threads.set thread after).countP isInserting
    omega
  · intro port member
    rcases known port member with entered | loose | ⟨old, other, held⟩
    · exact .inl entered
    · exact .inr ⟨after, List.mem_set (List.getElem?_eq_some_iff.mp found).1 _, loose⟩
    · rcases exclusive.known port old with entered | ⟨program, member, loose⟩
      · exact absurd entered other
      · rcases mem_set_or after found member with rfl | member
        · exact absurd loose held
        · exact .inr ⟨program, member, loose⟩

theorem Exclusive.counted (exclusive : Exclusive ⟨shared, threads⟩)
    (found : threads[thread]? = some before) (starts : isStarting before = true) :
    shared.starting = 1 ∧ shared.entry = none := by
  have some' : 0 < threads.countP isStarting :=
    List.countP_pos_iff.mpr ⟨_, List.mem_of_getElem? found, starts⟩
  have counted : shared.starting = threads.countP isStarting := exclusive.starting
  have single : shared.starting ≤ 1 := exclusive.single
  have positive : 0 < shared.starting := by omega
  exact ⟨by omega, exclusive.empty positive⟩

end Steps

theorem advances_outside {rest : Operating}
    (other : deploys query = false) (advances : Advances ⟨query, answer⟩ rest) :
    startupOf query = .outside ∧ startup rest = .outside := by
  cases query <;> first | exact ⟨rfl, advances⟩ | cases other

/-- **Every permitted step keeps starts exclusive.** -/
theorem exclusive_step (exclusive : Exclusive config) (permitted : Permitted config.shared label.2)
    (step : engineMachine.Step config label config') : Exclusive config' := by
  cases step with
  | @act shared shared' threads thread query next answer found answers =>
    have answers : engineAnswers shared ⟨query, answer⟩ shared' := answers
    have here := exclusive.sound _ (List.mem_of_getElem? found) answer
    have sound : Sound (next answer) := here.2
    have advances := here.1.1
    have forked : engineMachine.forks ⟨query, answer⟩ = [] := rfl
    have empty : 0 < shared.starting → shared.entry = none := exclusive.empty
    have single : shared.starting ≤ 1 := exclusive.single
    have nodup : shared.alive.Nodup := exclusive.nodup
    have token : 0 < shared.inserting → shared.token = true := exclusive.token
    have permitted : Permitted shared ⟨query, answer⟩ := permitted
    rw [forked, List.append_nil]
    cases starts : deploys query with
    | false =>
      obtain ⟨outside, outside'⟩ := advances_outside starts advances
      obtain ⟨entry, token', alive, starting, inserting⟩ := answers_apart starts answers
      have idle : startup (.ask query next) = .outside := outside
      refine exclusive.steps found sound ?_ ?_ (starting ▸ single) ?_ ?_ (nodup.sublist alive) ?_
      · rw [starting, isStarting, isStarting, idle, outside']
      · rw [inserting, isInserting, isInserting, idle, outside']
      · rw [starting, entry]
        exact empty
      · intro port member
        by_cases entered : shared.entry = some port
        · exact .inl (entry.trans entered)
        · refine .inr (.inr ⟨alive.subset member, entered, ?_⟩)
          rw [loosePort, idle]
          rintro ⟨⟩
      · rw [inserting, token']
        exact token
    | true =>
      have kept : ∀ port ∈ shared.alive, startup (.ask query next) = .outside ∨
          startup (.ask query next) = .begun → shared.entry = some port ∨
          (port ∈ shared.alive ∧ shared.entry ≠ some port ∧
            loosePort (.ask query next) ≠ some port) := by
        intro port member phase
        by_cases entered : shared.entry = some port
        · exact .inl entered
        · refine .inr ⟨member, entered, ?_⟩
          rcases phase with phase | phase <;> rw [loosePort, phase] <;> rintro ⟨⟩
      cases query with
      | containsKey =>
        obtain ⟨already, rfl⟩ := answers
        cases answer with
        | true =>
          have outside : startup (next true) = .outside := advances
          refine exclusive.steps found sound ?_ ?_ single empty
            (fun port member => (kept port member (.inl rfl)).imp_right .inr) nodup token
          · rw [isStarting, isStarting, outside]
            rfl
          · rw [isInserting, isInserting, outside]
            rfl
        | false =>
          have begun : startup (next false) = .begun := advances
          have free : shared.entry = none := by simpa using already.symm
          have first : shared.starting = 0 := permitted free
          refine exclusive.steps found sound ?_ ?_ ?_ (fun _ => free)
            (fun port member => (kept port member (.inl rfl)).imp_right .inr) nodup token
          · rw [isStarting, isStarting, begun]
            rfl
          · rw [isInserting, isInserting, begun]
            rfl
          · show shared.starting + 1 ≤ 1
            omega
      | prepare =>
        obtain ⟨counted, free⟩ := exclusive.counted found rfl
        obtain rfl := answers
        cases answer with
        | true =>
          have begun : startup (next true) = .begun := advances
          refine exclusive.steps found sound ?_ ?_ single empty
            (fun port member => (kept port member (.inr rfl)).imp_right .inr) nodup token
          · rw [isStarting, isStarting, begun]
            rfl
          · rw [isInserting, isInserting, begun]
            rfl
        | false =>
          have outside : startup (next false) = .outside := advances
          refine exclusive.steps found sound ?_ ?_ ?_ (fun _ => free)
            (fun port member => (kept port member (.inr rfl)).imp_right .inr) nodup token
          · rw [isStarting, isStarting, outside]
            exact Nat.sub_add_cancel (Nat.le_of_eq counted.symm)
          · rw [isInserting, isInserting, outside]
            rfl
          · exact Nat.le_trans (Nat.sub_le _ _) single
      | spawn =>
        obtain ⟨counted, free⟩ := exclusive.counted found rfl
        cases answer with
        | none =>
          obtain rfl := answers
          have outside : startup (next none) = .outside := advances
          refine exclusive.steps found sound ?_ ?_ ?_ (fun _ => free)
            (fun port member => (kept port member (.inr rfl)).imp_right .inr) nodup token
          · rw [isStarting, isStarting, outside]
            exact Nat.sub_add_cancel (Nat.le_of_eq counted.symm)
          · rw [isInserting, isInserting, outside]
            rfl
          · exact Nat.le_trans (Nat.sub_le _ _) single
        | some spawned =>
          obtain ⟨new, _, rfl⟩ := answers
          have phase : startup (next (some spawned)) = .spawned spawned := advances
          refine exclusive.steps found sound ?_ ?_ single empty ?_
            (List.nodup_cons.mpr ⟨new, nodup⟩) token
          · rw [isStarting, isStarting, phase]
            rfl
          · rw [isInserting, isInserting, phase]
            rfl
          · intro port member
            rcases List.mem_cons.mp member with rfl | member
            · exact .inr (.inl (by rw [loosePort, phase]))
            · exact (kept port member (.inr rfl)).imp_right .inr
      | registerToken registered =>
        obtain rfl := answers
        have phase : startup (next answer) = .registered registered := advances
        refine exclusive.steps found sound ?_ ?_ single empty ?_ nodup fun _ => rfl
        · rw [isStarting, isStarting, phase]
          rfl
        · rw [isInserting, isInserting, phase]
          rfl
        · intro port member
          by_cases entered : shared.entry = some port
          · exact .inl entered
          · by_cases same : registered = port
            · exact .inr (.inl (by rw [loosePort, phase, same]))
            · refine .inr (.inr ⟨member, entered, ?_⟩)
              exact fun loose => same (Option.some.inj loose)
      | insertProcess inserted =>
        obtain ⟨counted, free⟩ := exclusive.counted found rfl
        obtain rfl := answers
        have phase : startup (next answer) = .outside := advances
        have inserting : 0 < shared.inserting := by
          have some' : 0 < threads.countP isInserting :=
            List.countP_pos_iff.mpr ⟨_, List.mem_of_getElem? found, rfl⟩
          have same : shared.inserting = threads.countP isInserting := exclusive.inserting
          omega
        refine exclusive.steps found sound ?_ ?_ ?_ ?_ ?_ (nodup.sublist List.filter_sublist)
          fun _ => token inserting
        · rw [isStarting, isStarting, phase]
          exact Nat.sub_add_cancel (Nat.le_of_eq counted.symm)
        · rw [isInserting, isInserting, phase]
          exact Nat.sub_add_cancel inserting
        · exact Nat.le_trans (Nat.sub_le _ _) single
        · intro positive
          have positive : 0 < shared.starting - 1 := positive
          omega
        · intro port member
          by_cases same : inserted = port
          · exact .inl (congrArg some same)
          · refine .inr (.inr ⟨List.mem_of_mem_filter member, ?_, ?_⟩)
            · rw [free]
              rintro ⟨⟩
            · exact fun loose => same (Option.some.inj loose)
      | removeToken =>
        obtain rfl := answers
        have phase : startup (next answer) = .outside := advances
        have none' : shared.inserting = 0 := permitted
        refine exclusive.steps found sound ?_ ?_ single empty
          (fun port member => (kept port member (.inl rfl)).imp_right .inr) nodup ?_
        · rw [isStarting, isStarting, phase]
          rfl
        · rw [isInserting, isInserting, phase]
          rfl
        · intro positive
          have positive : 0 < shared.inserting := positive
          omega
      | removeProcess site =>
        obtain ⟨_, rfl⟩ := answers
        have phase : startup (next answer) = .outside := advances
        refine exclusive.steps found sound ?_ ?_ single (fun _ => rfl) ?_
          (nodup.sublist List.filter_sublist) token
        · rw [isStarting, isStarting, phase]
          rfl
        · rw [isInserting, isInserting, phase]
          rfl
        · intro port member
          obtain ⟨alive, other⟩ := List.mem_filter.mp member
          refine .inr (.inr ⟨alive, of_decide_eq_true other, ?_⟩)
          rintro ⟨⟩
      | _ => cases starts

/-- **At most one process is alive.** -/
theorem Exclusive.one (exclusive : Exclusive config) : AtMostOne config.shared := by
  have few : (config.threads.filterMap loosePort).length ≤ config.shared.starting := by
    rw [exclusive.starting, List.length_filterMap_eq_countP]
    refine List.countP_mono_left fun program _ loose => ?_
    obtain ⟨port, loose⟩ := Option.isSome_iff_exists.mp loose
    exact loose_starting loose
  have within : config.shared.alive ⊆ config.shared.entry.toList ++
      config.threads.filterMap loosePort := by
    intro port member
    rcases exclusive.known port member with entered | ⟨program, here, loose⟩
    · exact List.mem_append_left _ (by rw [entered]; exact List.mem_singleton_self port)
    · exact List.mem_append_right _ (List.mem_filterMap.mpr ⟨program, here, loose⟩)
  have length := (List.subperm_of_subset exclusive.nodup within).length_le
  rw [List.length_append] at length
  have single := exclusive.single
  cases entry : config.shared.entry with
  | none =>
    rw [entry] at length
    have length : config.shared.alive.length ≤ 0 + (config.threads.filterMap loosePort).length :=
      length
    show config.shared.alive.length ≤ 1
    omega
  | some port =>
    have idle : config.shared.starting = 0 := by
      by_contra positive
      have free := exclusive.empty (Nat.pos_of_ne_zero positive)
      rw [entry] at free
      cases free
    rw [entry] at length
    have length : config.shared.alive.length ≤ 1 + (config.threads.filterMap loosePort).length :=
      length
    show config.shared.alive.length ≤ 1
    omega

/-! ### The books -/

/-- The row says running for a process that the map does not hold. -/
def Misbooked (store : EngineStore) : Prop :=
  ∃ instance', store.row = some instance' ∧ instance'.running = true ∧
    store.entry ≠ some instance'.port

def Live (store : EngineStore) : Prop := ∃ port ∈ store.alive, store.entry = some port

/-- A live process is in the map, and the row does not say running. -/
def Unbooked (store : EngineStore) : Prop := store.running = false ∧ Live store

/-- A live process is in the map, and its token is not registered. -/
def Untokened (store : EngineStore) : Prop := store.token = false ∧ Live store

theorem books_agree (unexited : Unexited store) (booked : ¬ Misbooked store)
    (rowed : ¬ Unbooked store) (tokened : ¬ Untokened store) : BooksAgree store := by
  have live : ∀ port ∈ store.alive, store.entry = some port → store.running = true := by
    intro port alive entry
    by_contra stopped
    exact rowed ⟨by simpa using stopped, port, alive, entry⟩
  refine ⟨⟨fun runs => ?_, ?_⟩, fun none' port entry alive => ?_⟩
  · cases row : store.row with
    | none =>
      rw [EngineStore.running, row] at runs
      cases runs
    | some instance' =>
      have running : instance'.running = true := by
        rw [EngineStore.running, row] at runs
        exact runs
      have entry : store.entry = some instance'.port := by
        by_contra other
        exact booked ⟨instance', row, running, other⟩
      have alive := unexited _ entry
      refine ⟨instance', rfl, entry, alive, ?_⟩
      by_contra missing
      exact tokened ⟨by simpa using missing, _, alive, entry⟩
  · rintro ⟨instance', row, entry, alive, _⟩
    exact live _ alive entry
  · have runs := live port alive entry
    rw [EngineStore.running, none'] at runs
    cases runs

def Orderly (store : EngineStore) (event : EngineEvent) : Prop :=
  Permitted store event ∧
    ∀ port, event.1 = .insertProcess port → store.entry = none ∧ store.token = true

theorem Exclusive.orderly
    (exclusive : Exclusive config) (permitted : Permitted config.shared label.2)
    (step : engineMachine.Step config label config') : Orderly config.shared label.2 := by
  refine ⟨permitted, ?_⟩
  cases step with
  | @act shared _ threads thread query next _ found _ =>
    rintro port rfl
    have some' : 0 < threads.countP isInserting :=
      List.countP_pos_iff.mpr ⟨_, List.mem_of_getElem? found, rfl⟩
    have inserting : shared.inserting = threads.countP isInserting := exclusive.inserting
    have positive : 0 < shared.inserting := by omega
    exact ⟨(exclusive.counted found rfl).2, exclusive.token positive⟩

theorem sound_residual {next : EngineAnswer query → Operating}
    (sound : Sound (.ask query next)) (answer : EngineAnswer query) : Sound (next answer) :=
  (sound answer).2

theorem running_unmarked (store : EngineStore) : store.unmarked.running = false := by
  obtain ⟨row, _⟩ := store
  cases row <;> rfl

theorem not_misbooked (stopped : store.running = false) : ¬ Misbooked store := by
  rintro ⟨instance', row, running, _⟩
  rw [EngineStore.running, row] at stopped
  exact absurd (stopped.symm.trans running) (by decide)

def writesRow : EngineQuery → Bool
  | .markCrashed | .persistFailed | .persistInstance _ | .deleteInstance | .createInstanceRunning _
  | .createInstance _ | .updateStopped | .updateRunning | .markStopped => true
  | _ => false

theorem answers_row
    (other : writesRow query = false) (answers : engineAnswers store ⟨query, answer⟩ store') :
    store'.row = store.row := by
  cases query with
  | markCrashed | persistFailed | persistInstance | deleteInstance | createInstanceRunning
  | createInstance | updateStopped | updateRunning | markStopped => cases other
  | exit =>
    rcases answers with rfl | ⟨port, _, rfl⟩
    · rfl
    · rfl
  | claimCell =>
    rcases answers with ⟨_, rfl⟩ | ⟨_, _, rfl⟩
    · rfl
    · rfl
  | enterCell cell =>
    cases answer with
    | none | some =>
      obtain ⟨_, rfl⟩ := answers
      rfl
  | containsKey =>
    obtain ⟨_, rfl⟩ := answers
    cases answer <;> rfl
  | prepare =>
    obtain rfl := answers
    cases answer <;> rfl
  | spawn =>
    cases answer with
    | none =>
      obtain rfl := answers
      rfl
    | some port =>
      obtain ⟨_, _, rfl⟩ := answers
      rfl
  | selectRunning | healthCheck =>
    obtain ⟨rfl, _⟩ := answers
    rfl
  | getInstance | findIdle | removeProcess =>
    obtain ⟨_, rfl⟩ := answers
    rfl
  | _ =>
    obtain rfl := answers
    rfl

/-- **A row that says running for a process that is gone is owed a statement.** -/
theorem misbooked_mends : Mends engineMachine Orderly Misbooked Sound (Pays Unmarks) := by
  refine Mends.of_pays ?_ ?_ (fun sound answer => sound_residual sound answer) ?_
  · intro store store' query next answer sound orderly answers right wrong
    have answers : engineAnswers store ⟨query, answer⟩ store' := answers
    have owes := (sound answer).1.2
    obtain ⟨permitted, inserts⟩ := orderly
    cases writes : writesRow query with
    | false =>
      -- The row is the same, so the map is not.
      obtain ⟨instance', row, running, other⟩ := wrong
      rw [answers_row writes answers] at row
      have runs : store.running = true := by
        rw [EngineStore.running, row]
        exact running
      have entered : store.entry = some instance'.port := by
        by_contra elsewhere
        exact right ⟨instance', row, running, elsewhere⟩
      cases query with
      | insertProcess port =>
        have free := (inserts port rfl).1
        rw [entered] at free
        cases free
      | removeProcess site =>
        cases site with
        | last =>
          have free := permitted runs
          rw [entered] at free
          cases free
        | beforeRow =>
          refine owes ?_
          rw [answers.1, entered]
          rfl
      | containsKey =>
        obtain ⟨_, rfl⟩ := answers
        cases answer <;> exact absurd entered other
      | prepare =>
        obtain rfl := answers
        cases answer <;> exact absurd entered other
      | spawn =>
        cases answer with
        | none =>
          obtain rfl := answers
          exact absurd entered other
        | some port =>
          obtain ⟨_, _, rfl⟩ := answers
          exact absurd entered other
      | registerToken | removeToken =>
        obtain rfl := answers
        exact absurd entered other
      | _ => exact absurd (((answers_apart rfl answers).entry).trans entered) other
    | true =>
      -- The row no longer says running, or it is written for the process in the map.
      cases query with
      | markCrashed | persistFailed | markStopped =>
        obtain rfl := answers
        exact absurd wrong (not_misbooked (running_unmarked store))
      | updateStopped =>
        obtain ⟨_, rfl⟩ := answers
        exact absurd wrong (not_misbooked (running_unmarked store))
      | deleteInstance =>
        obtain ⟨_, rfl⟩ := answers
        exact absurd wrong (not_misbooked rfl)
      | persistInstance port =>
        obtain rfl := answers
        obtain ⟨instance', row, _, other⟩ := wrong
        obtain rfl := Option.some.inj row
        exact absurd permitted other
      | createInstanceRunning port =>
        obtain ⟨created, rfl⟩ := answers
        cases answer with
        | false => exact absurd wrong right
        | true =>
          obtain ⟨instance', row, _, other⟩ := wrong
          obtain rfl := Option.some.inj row
          exact absurd (permitted (Option.isNone_iff_eq_none.mp created.symm)) other
      | createInstance port =>
        obtain ⟨created, rfl⟩ := answers
        cases answer with
        | false => exact absurd wrong right
        | true => exact absurd wrong (not_misbooked rfl)
      | updateRunning =>
        obtain ⟨_, rfl⟩ := answers
        obtain ⟨instance', row, _, other⟩ := wrong
        obtain ⟨before, found, rfl⟩ := Option.map_eq_some_iff.mp row
        exact absurd (permitted before found) other
      | _ => cases writes
  · intro store store' event discharges orderly answers
    have answers : engineAnswers store event store' := answers
    obtain ⟨query, answer⟩ := event
    cases query with
    | markStopped =>
      obtain rfl := answers
      exact not_misbooked (running_unmarked store)
    | deleteInstance =>
      obtain ⟨_, rfl⟩ := answers
      exact not_misbooked rfl
    | _ => exact absurd discharges id
  · exact fun _ _ member => absurd member List.not_mem_nil

theorem live_before (other : ∀ port, query ≠ .insertProcess port)
    (answers : engineAnswers store ⟨query, answer⟩ store') (live : Live store') : Live store := by
  obtain ⟨port, alive, entry⟩ := live
  cases changes : deploys query with
  | false =>
    have apart := answers_apart changes answers
    exact ⟨port, apart.alive.subset alive, apart.entry.symm.trans entry⟩
  | true =>
    cases query with
    | insertProcess inserted => exact absurd rfl (other inserted)
    | containsKey =>
      obtain ⟨_, rfl⟩ := answers
      cases answer <;> exact ⟨port, alive, entry⟩
    | prepare =>
      obtain rfl := answers
      cases answer <;> exact ⟨port, alive, entry⟩
    | spawn =>
      cases answer with
      | none =>
        obtain rfl := answers
        exact ⟨port, alive, entry⟩
      | some spawned =>
        obtain ⟨_, fresh, rfl⟩ := answers
        rcases List.mem_cons.mp alive with rfl | alive
        · exact absurd entry fresh
        · exact ⟨port, alive, entry⟩
    | registerToken | removeToken =>
      obtain rfl := answers
      exact ⟨port, alive, entry⟩
    | removeProcess =>
      obtain ⟨_, rfl⟩ := answers
      cases entry
    | _ => cases changes

theorem not_live_removed {site : StopSite} {stopped : Bool}
    (answers : engineAnswers store ⟨.removeProcess site, stopped⟩ store') : ¬ Live store' := by
  obtain ⟨_, rfl⟩ := answers
  rintro ⟨_, _, ⟨⟩⟩

/-- **A live process that the row does not know is owed its row, or its end.** -/
theorem unbooked_mends : Mends engineMachine Orderly Unbooked Sound (Pays Settles) := by
  refine Mends.of_pays ?_ ?_ (fun sound answer => sound_residual sound answer) ?_
  · intro store store' query next answer sound orderly answers right wrong
    have answers : engineAnswers store ⟨query, answer⟩ store' := answers
    have owes := (sound answer).1.2
    have permitted := orderly.1
    by_cases inserts : ∃ port, query = .insertProcess port
    · obtain ⟨port, rfl⟩ := inserts
      exact owes
    · have live := live_before (fun port same => inserts ⟨port, same⟩) answers wrong.2
      have runs : store.running = true := by
        by_contra stopped
        exact right ⟨by simpa using stopped, live⟩
      have stopped : store'.running = false := wrong.1
      cases writes : writesRow query with
      | false =>
        rw [EngineStore.running, answers_row writes answers] at stopped
        exact absurd (stopped.symm.trans runs) (by decide)
      | true =>
        obtain ⟨port, alive, entry⟩ := live
        cases query with
        | markCrashed | persistFailed | markStopped | deleteInstance =>
          exact absurd alive (permitted runs port entry)
        | updateStopped =>
          refine owes ?_
          cases present : store.row with
          | none =>
            rw [EngineStore.running, present] at runs
            cases runs
          | some instance' => exact answers.1.trans (by rw [present]; rfl)
        | persistInstance inserted =>
          obtain rfl := answers
          cases stopped
        | createInstanceRunning inserted =>
          obtain ⟨_, rfl⟩ := answers
          cases answer with
          | false => exact absurd (stopped.symm.trans runs) (by decide)
          | true => cases stopped
        | createInstance inserted =>
          obtain ⟨created, rfl⟩ := answers
          cases answer with
          | false => exact absurd (stopped.symm.trans runs) (by decide)
          | true =>
            rw [EngineStore.running, Option.isNone_iff_eq_none.mp created.symm] at runs
            cases runs
        | updateRunning =>
          obtain ⟨_, rfl⟩ := answers
          cases present : store.row with
          | none =>
            rw [EngineStore.running, present] at runs
            cases runs
          | some instance' =>
            rw [EngineStore.running, present] at stopped
            cases stopped
        | _ => cases writes
  · intro store store' event discharges orderly answers
    have answers : engineAnswers store event store' := answers
    obtain ⟨query, answer⟩ := event
    rintro ⟨stopped, live⟩
    cases query with
    | persistInstance port =>
      obtain rfl := answers
      cases stopped
    | createInstanceRunning port =>
      obtain ⟨_, rfl⟩ := answers
      obtain rfl : answer = true := discharges
      cases stopped
    | updateRunning =>
      obtain ⟨updated, rfl⟩ := answers
      obtain rfl : answer = true := discharges
      obtain ⟨instance', present⟩ := Option.isSome_iff_exists.mp updated.symm
      rw [EngineStore.running, present] at stopped
      cases stopped
    | removeProcess site => exact not_live_removed answers live
    | _ => exact absurd discharges id
  · exact fun _ _ member => absurd member List.not_mem_nil

/-- **A live process without a token is owed its end.** -/
theorem untokened_mends : Mends engineMachine Orderly Untokened Sound (Pays Removes) := by
  refine Mends.of_pays ?_ ?_ (fun sound answer => sound_residual sound answer) ?_
  · intro store store' query next answer sound orderly answers right wrong
    have answers : engineAnswers store ⟨query, answer⟩ store' := answers
    obtain ⟨missing, live⟩ := wrong
    have owes := (sound answer).1.2
    cases query with
    | removeToken => exact owes
    | insertProcess port =>
      have token := (orderly.2 port rfl).2
      obtain rfl := answers
      exact absurd (missing.symm.trans token) (by decide)
    | registerToken port =>
      obtain rfl := answers
      cases missing
    | removeProcess site => exact absurd live (not_live_removed answers)
    | containsKey =>
      have before := live_before (by simp) answers live
      obtain ⟨_, rfl⟩ := answers
      cases answer <;> exact absurd ⟨missing, before⟩ right
    | prepare =>
      have before := live_before (by simp) answers live
      obtain rfl := answers
      cases answer <;> exact absurd ⟨missing, before⟩ right
    | spawn =>
      have before := live_before (by simp) answers live
      cases answer with
      | none =>
        obtain rfl := answers
        exact absurd ⟨missing, before⟩ right
      | some port =>
        obtain ⟨_, _, rfl⟩ := answers
        exact absurd ⟨missing, before⟩ right
    | _ =>
      have before := live_before (by simp) answers live
      exact absurd ⟨(answers_apart rfl answers).token.symm.trans missing, before⟩ right
  · intro store store' event discharges orderly answers
    have answers : engineAnswers store event store' := answers
    obtain ⟨query, answer⟩ := event
    rintro ⟨_, live⟩
    cases query with
    | removeProcess site => exact not_live_removed answers live
    | _ => exact absurd discharges id
  · exact fun _ _ member => absurd member List.not_mem_nil

theorem underWay_of_pays {discharges : EngineEvent → Prop}
    (silent : ¬ discharges ⟨.exit, ()⟩) (sound : Sound program) (pays : Pays discharges program) :
    underWay program = true := by
  cases program with
  | pure | fail => exact absurd pays id
  | ask query next =>
    cases query with
    | exit =>
      have nothing : OwesNothing (next ()) := (sound ()).1.2
      rcases pays () with discharged | pays
      · exact absurd discharged silent
      · exact absurd pays (nothing discharges silent)
    | _ => rfl

/-! ### Every run -/

structure Kept (config : EngineConfig) : Prop where
  exclusive : Exclusive config
  misbooked : Owed Misbooked Sound (Pays Unmarks) config
  unbooked : Owed Unbooked Sound (Pays Settles) config
  untokened : Owed Untokened Sound (Pays Removes) config

theorem kept_step (kept : Kept config)
    (step : engineMachine.Guarded Ordered config label config') : Kept config' := by
  obtain ⟨⟨permitted, _⟩, step⟩ := step
  have orderly := kept.exclusive.orderly permitted step
  exact ⟨exclusive_step kept.exclusive permitted step,
    misbooked_mends.step kept.misbooked orderly step,
    unbooked_mends.step kept.unbooked orderly step,
    untokened_mends.step kept.untokened orderly step⟩

theorem deployed_kept (operations : List Operation) : Kept (deployed operations) := by
  have sound : ∀ program ∈ (deployed operations).threads, Sound program := by
    intro program member
    obtain ⟨operation, _, rfl⟩ := List.mem_map.mp member
    exact (operation_fine operation).sound
  have outside : ∀ program ∈ (deployed operations).threads, startup program = .outside := by
    intro program member
    obtain ⟨operation, _, rfl⟩ := List.mem_map.mp member
    exact (operation_fine operation).outside
  refine ⟨⟨sound, ?_, ?_, Nat.zero_le _, fun _ => rfl, ?_, List.nodup_nil, ?_⟩, ⟨sound, ?_⟩,
    ⟨sound, ?_⟩, ⟨sound, ?_⟩⟩
  · refine (List.countP_eq_zero.mpr fun program member => ?_).symm
    rw [isStarting, outside program member]
    decide
  · refine (List.countP_eq_zero.mpr fun program member => ?_).symm
    rw [isInserting, outside program member]
    exact Bool.false_ne_true
  · exact fun port member => absurd member List.not_mem_nil
  · exact fun positive => absurd positive (Nat.lt_irrefl 0)
  · rintro ⟨instance', row, _⟩
    cases row
  · rintro ⟨_, port, alive, _⟩
    cases alive
  · rintro ⟨_, port, alive, _⟩
    cases alive

/-! ### Runs on a schedule -/

def readyAnswer (healthy : Bool) (store : EngineStore) :
    ∀ query : EngineQuery, EngineAnswer query × EngineStore
  | .selectRunning => (store.row.bind fun instance' =>
      if instance'.running then some instance'.port else none, store)
  | .healthCheck port => (healthy && decide (port ∈ store.alive), store)
  | .markCrashed => ((), store.unmarked)
  | .noteStarted => ((), store)
  | .noteCrashed => (.backoff, store)
  | .isFailed => (false, store)
  | .persistFailed => ((), store.unmarked)
  | .forget => ((), { store with inFlight := none })
  | .claimCell => match store.inFlight with
    | some cell => (cell, store)
    | none => (store.cells.length,
        { store with cells := store.cells ++ [.fresh], inFlight := some store.cells.length })
  | .getAutoStartPolls => (1, store)
  | .enterCell cell => match store.cells[cell]? with
    | some (.done started) => (some started, store)
    | _ => (none, { store with cells := store.cells.set cell .initializing })
  | .setCell cell started => ((), { store with cells := store.cells.set cell (.done started) })
  | .removeCell => ((), { store with inFlight := none })
  | .resolveInputs => (true, store)
  | .containsKey => (store.entry.isSome,
      if store.entry.isSome then store else { store with starting := store.starting + 1 })
  | .prepare => (true, store)
  | .spawn => (some (store.alive.length + 1),
      { store with alive := (store.alive.length + 1) :: store.alive })
  | .registerToken _ => ((), { store with token := true, inserting := store.inserting + 1 })
  | .insertProcess port => ((), { store.killed with
      entry := some port
      starting := store.starting - 1
      inserting := store.inserting - 1 })
  | .verifyLoopbackBind _ => (true, store)
  | .persistInstance port => ((), { store with row := some ⟨true, port⟩ })
  | .removeToken => ((), { store with token := false })
  | .removeProcess _ => (store.entry.isSome, { store.killed with entry := none })
  | .getInstance => (store.row, store)
  | .deleteInstance => (store.row.isSome, { store with row := none })
  | .createInstanceRunning port =>
    (store.row.isNone, if store.row.isNone then { store with row := some ⟨true, port⟩ } else store)
  | .createInstance port =>
    (store.row.isNone, if store.row.isNone then { store with row := some ⟨false, port⟩ } else store)
  | .updateStopped => (store.row.isSome, store.unmarked)
  | .updateRunning => (store.row.isSome,
      { store with row := store.row.map fun instance' => { instance' with running := true } })
  | .findIdle => (store.running, store)
  | .drain => ((), store)
  | .markStopped => ((), store.unmarked)
  | .clearInstanceFlag => ((), store)
  | .exit => ((), match store.alive with
      | [] => store
      | _ :: rest => { store with alive := rest })

/-- The answer is one of the deployment's: nobody has to wait for the cell, and the port is new. -/
def answerable (store : EngineStore) : EngineQuery → Bool
  | .enterCell cell =>
    decide (store.cells[cell]? ≠ none) && decide (store.cells[cell]? ≠ some .initializing)
  | .spawn => decide (store.alive.length + 1 ∉ store.alive) &&
      decide (store.entry ≠ some (store.alive.length + 1))
  | _ => true

theorem readyAnswer_sound (good : answerable store query = true) :
    engineAnswers store ⟨query, (readyAnswer healthy store query).1⟩
      (readyAnswer healthy store query).2 := by
  cases query with
  | selectRunning => exact ⟨rfl, rfl⟩
  | healthCheck port =>
    exact ⟨rfl, fun alive => of_decide_eq_true (Bool.and_eq_true_iff.mp alive).2⟩
  | claimCell =>
    cases claimed : store.inFlight with
    | none => exact Or.inr (by simp [readyAnswer, claimed])
    | some cell => exact Or.inl (by simp [readyAnswer, claimed])
  | enterCell cell =>
    simp only [answerable, Bool.and_eq_true, decide_eq_true_eq] at good
    cases found : store.cells[cell]? with
    | none => exact absurd found good.1
    | some state =>
      cases state with
      | fresh => simp [readyAnswer, found, engineAnswers]
      | initializing => exact absurd found good.2
      | done started => simp [readyAnswer, found, engineAnswers]
  | spawn =>
    simp only [answerable, Bool.and_eq_true, decide_eq_true_eq] at good
    exact ⟨good.1, good.2, rfl⟩
  | containsKey | removeProcess | getInstance | deleteInstance
  | createInstanceRunning | createInstance | updateStopped | updateRunning => exact ⟨rfl, rfl⟩
  | findIdle => exact ⟨id, rfl⟩
  | exit =>
    obtain ⟨row, entry, token, alive, cells, inFlight, starting, inserting⟩ := store
    cases alive with
    | nil => exact Or.inl rfl
    | cons port rest =>
      refine Or.inr ⟨port, List.mem_cons_self, ?_⟩
      simp [readyAnswer]
  | _ => rfl

def answersAll (healthy : Bool) (operations : List Operation) (schedule : List Nat) : Bool :=
  engineMachine.checks (readyAnswer healthy)
    (fun config label => answerable config.shared label.2.1 = true) (deployed operations) schedule

def scheduled (healthy : Bool) (operations : List Operation) (schedule : List Nat) : EngineConfig :=
  (engineMachine.execute (readyAnswer healthy) (deployed operations) schedule).2

theorem follows_scheduled (answers : answersAll healthy operations schedule = true) :
    ∃ log, Follows engineMachine.Step (deployed operations) log
      (scheduled healthy operations schedule) :=
  ⟨_, (Machine.guarded_execute_of (fun _ _ _ good => readyAnswer_sound good) schedule _
    answers).mono fun step => step.2⟩

/-- What the condition asks of the state, the start's being alone left aside. -/
def met (store : EngineStore) : EngineQuery → Bool
  | .containsKey => match store.entry with
    | none => decide (store.starting = 0)
    | some port => decide (port ∈ store.alive)
  | .removeToken => decide (store.inserting = 0)
  | .removeProcess .last => !store.running || store.entry.isNone
  | .markCrashed | .persistFailed | .markStopped | .deleteInstance => !store.running ||
      match store.entry with
      | none => true
      | some port => decide (port ∉ store.alive)
  | .persistInstance port => decide (store.entry = some port)
  | .createInstanceRunning port => store.row.isSome || decide (store.entry = some port)
  | .updateRunning => match store.row with
    | none => true
    | some instance' => decide (store.entry = some instance'.port)
  | _ => true

theorem not_alive_of_met {port : Nat} (good : (!store.running || match store.entry with
      | none => true
      | some port => decide (port ∉ store.alive)) = true) (running : store.running = true)
    (entry : store.entry = some port) : port ∉ store.alive := by
  rw [running, entry] at good
  exact of_decide_eq_true good

theorem ordered_of_met (good : met config.shared label.2.1 = true) : Ordered config label := by
  obtain ⟨thread, query, answer⟩ := label
  cases query with
  | containsKey =>
    refine ⟨fun missing => ?_, fun _ _ port entry => ?_⟩
    · simp only [met, missing, decide_eq_true_eq] at good
      exact good
    · simp only [met, entry, decide_eq_true_eq] at good
      exact good
  | removeToken =>
    have idle : config.shared.inserting = 0 := of_decide_eq_true good
    exact ⟨idle, nofun⟩
  | removeProcess site =>
    refine ⟨?_, nofun⟩
    cases site with
    | beforeRow => trivial
    | last =>
      intro running
      have entry : (!config.shared.running || config.shared.entry.isNone) = true := good
      rw [running] at entry
      exact Option.isNone_iff_eq_none.mp entry
  | markCrashed | persistFailed | markStopped | deleteInstance =>
    exact ⟨fun running port => not_alive_of_met good running, nofun⟩
  | persistInstance port =>
    have held : config.shared.entry = some port := of_decide_eq_true good
    exact ⟨held, nofun⟩
  | createInstanceRunning port =>
    refine ⟨fun missing => ?_, nofun⟩
    have entry : (config.shared.row.isSome || decide (config.shared.entry = some port)) = true :=
      good
    rw [missing] at entry
    exact of_decide_eq_true entry
  | updateRunning =>
    refine ⟨fun instance' found => ?_, nofun⟩
    have row : config.shared.row = some instance' := found
    simp only [met, row, decide_eq_true_eq] at good
    exact good
  | _ => exact ⟨trivial, nofun⟩

def meetsAll (healthy : Bool) (operations : List Operation) (schedule : List Nat) : Bool :=
  engineMachine.checks (readyAnswer healthy)
    (fun config label => answerable config.shared label.2.1 = true ∧
      met config.shared label.2.1 = true) (deployed operations) schedule

theorem guarded_scheduled (meets : meetsAll healthy operations schedule = true) :
    ∃ log, Follows (engineMachine.Guarded Ordered) (deployed operations) log
      (scheduled healthy operations schedule) :=
  ⟨_, (Machine.guarded_execute_of (fun _ _ _ good => readyAnswer_sound good.1) schedule _
    meets).mono fun step => ⟨ordered_of_met step.1.2, step.2⟩⟩

/-- A start, a stop, and a start again, one after the other. -/
def calmRun : List Operation × List Nat :=
  ([.ensureRunning, .stop, .ensureRunning],
    List.replicate 20 0 ++ List.replicate 10 1 ++ List.replicate 20 2)

/-- Two starts look into the map before either has inserted. -/
def racingRun : List Operation × List Nat :=
  ([.start, .start], [0, 0, 0, 1, 1, 1, 0, 0, 1, 1])

/-- The probe of a call finds the engine that was just started still loading. -/
def loadingRun : List Operation × List Nat :=
  ([.start, .ensureRunning], List.replicate 9 0 ++ [1, 1, 1, 1])

/-- The engine exits, and the next start comes as far as the look into the map. -/
def exitedRun : List Operation × List Nat :=
  ([.start, .exits 1, .start], List.replicate 9 0 ++ [1, 2, 2, 2, 2])

/-- **One engine for a model, and the books on it**: in every run whose steps meet the condition at
most one process is alive; the books agree whenever no operation is in flight and the engine has not
exited; and a start on its own is refused only for a live process. -/
theorem one_engine (operations : List Operation) {config : EngineConfig}
    {log : List (Nat × EngineEvent)}
    (follows : Follows (engineMachine.Guarded Ordered) (deployed operations) log config) :
    AtMostOne config.shared ∧ (Quiet config → Unexited config.shared → BooksAgree config.shared) ∧
      ∀ thread config', engineMachine.Guarded Ordered config
        (thread, ⟨.containsKey, true⟩) config' → Alone config thread → Live config.shared := by
  have kept := follows.preserves Kept kept_step (deployed_kept operations)
  refine ⟨kept.exclusive.one, fun quiet unexited => ?_, fun thread config' step alone => ?_⟩
  · -- Whoever owed something would be under way.
    have nobody : ∀ {broken : EngineStore → Prop} {discharges : EngineEvent → Prop},
        ¬ discharges ⟨.exit, ()⟩ → Owed broken Sound (Pays discharges) config →
        ¬ broken config.shared := by
      intro broken discharges silent owed wrong
      obtain ⟨program, member, pays⟩ := owed.2 wrong
      have under := underWay_of_pays silent (owed.1 program member) pays
      rw [quiet program member] at under
      cases under
    exact books_agree unexited (nobody id kept.misbooked) (nobody id kept.unbooked)
      (nobody id kept.untokened)
  · obtain ⟨⟨_, whole⟩, step⟩ := step
    have unexited := whole rfl alone
    cases step with
    | act found answers =>
      obtain ⟨already, _⟩ := answers
      obtain ⟨port, entry⟩ := Option.isSome_iff_exists.mp already.symm
      exact ⟨port, unexited port entry, entry⟩

theorem calm_one_engine : AtMostOne (scheduled true calmRun.1 calmRun.2).shared ∧
    (Quiet (scheduled true calmRun.1 calmRun.2) →
      Unexited (scheduled true calmRun.1 calmRun.2).shared →
      BooksAgree (scheduled true calmRun.1 calmRun.2).shared) ∧
    ∀ thread config', engineMachine.Guarded Ordered (scheduled true calmRun.1 calmRun.2)
        (thread, ⟨.containsKey, true⟩) config' →
      Alone (scheduled true calmRun.1 calmRun.2) thread →
        Live (scheduled true calmRun.1 calmRun.2).shared := by
  have meets : meetsAll true calmRun.1 calmRun.2 = true := by decide +kernel
  obtain ⟨log, follows⟩ := guarded_scheduled meets
  exact one_engine calmRun.1 follows

/-- Two engines; a live engine whose row no longer says running; and a refusal for a process that
has exited. -/
theorem engines_astray :
    (¬ ∀ {operations : List Operation} {config : EngineConfig} {log : List (Nat × EngineEvent)},
      Follows engineMachine.Step (deployed operations) log config → AtMostOne config.shared) ∧
    (¬ ∀ {operations : List Operation} {config : EngineConfig} {log : List (Nat × EngineEvent)},
      Follows engineMachine.Step (deployed operations) log config →
        Quiet config → Unexited config.shared → BooksAgree config.shared) ∧
    ¬ ∀ {operations : List Operation} {config config' : EngineConfig}
        {log : List (Nat × EngineEvent)} {thread : Nat},
      Follows engineMachine.Step (deployed operations) log config →
        engineMachine.Step config (thread, ⟨.containsKey, true⟩) config' →
          Alone config thread → Live config.shared := by
  refine ⟨fun all => ?_, fun all => ?_, fun all => ?_⟩
  · have answers : answersAll true racingRun.1 racingRun.2 = true := by decide +kernel
    obtain ⟨log, follows⟩ := follows_scheduled answers
    have two : (scheduled true racingRun.1 racingRun.2).shared.alive = [2, 1] := by decide +kernel
    have one := all follows
    rw [AtMostOne, two] at one
    exact absurd one (by decide)
  · have answers : answersAll false loadingRun.1 loadingRun.2 = true := by decide +kernel
    obtain ⟨log, follows⟩ := follows_scheduled answers
    have store : (scheduled false loadingRun.1 loadingRun.2).shared =
        ⟨some ⟨false, 1⟩, some 1, true, [1], [], none, 0, 0⟩ := by decide +kernel
    have idle : (scheduled false loadingRun.1 loadingRun.2).threads.all
        (fun program => !underWay program) = true := by decide +kernel
    have quiet : Quiet (scheduled false loadingRun.1 loadingRun.2) := fun program member =>
      (Bool.not_eq_true' _).mp (List.all_eq_true.mp idle program member)
    have unexited : Unexited (scheduled false loadingRun.1 loadingRun.2).shared := by
      rw [store]
      intro port entry
      cases entry
      exact List.mem_cons_self
    have books := all follows quiet unexited
    rw [store] at books
    have running := books.agrees.mpr ⟨⟨false, 1⟩, rfl, rfl, List.mem_cons_self, rfl⟩
    cases running
  · have answers : answersAll true exitedRun.1 exitedRun.2 = true := by decide +kernel
    obtain ⟨log, follows⟩ := follows_scheduled answers
    have store : (scheduled true exitedRun.1 exitedRun.2).shared =
        ⟨none, some 1, true, [], [], none, 0, 0⟩ := by decide +kernel
    have threads : ∃ next, (scheduled true exitedRun.1 exitedRun.2).threads =
        [.pure (), .pure (), .ask .containsKey next] := ⟨_, rfl⟩
    obtain ⟨next, threads⟩ := threads
    generalize scheduled true exitedRun.1 exitedRun.2 = config at follows store threads
    obtain ⟨shared, _⟩ := config
    cases store
    cases threads
    have alone : Alone ⟨⟨none, some 1, true, [], [], none, 0, 0⟩,
        [.pure (), .pure (), .ask .containsKey next]⟩ 2 := by
      intro other program found different
      match other with
      | 0 => cases found; rfl
      | 1 => cases found; rfl
      | 2 => exact absurd rfl different
      | other + 3 => cases found
    have refusal : engineAnswers ⟨none, some 1, true, [], [], none, 0, 0⟩ ⟨.containsKey, true⟩
        ⟨none, some 1, true, [], [], none, 0, 0⟩ := ⟨rfl, rfl⟩
    obtain ⟨port, alive, _⟩ := all follows (.act rfl refusal) alone
    cases alive

end Ziee.LocalRuntime
