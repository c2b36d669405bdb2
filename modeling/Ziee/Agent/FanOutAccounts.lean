/-
**Every child of a fan-out is accounted for.**

The main program of a fan-out is analysed as a run (`runs_spawnAll`, `runs_joinAll`); the children
run beside it on a bounded number of slots, in every order (`TaskPool`). An `Account` is what became
of one spec: its model was not resolved, or its task ran and ended in some way.

* `Accounted` — the summaries, the spawned children, the settlements, the tasks and the last
  activity snapshot of a finished fan-out, all read off one list of accounts in spec order.
* `fanOut_accounted` — **under the relaxed contract every schedule ends, none is stuck, and each
  that is finished is accounted for**.
-/

import Ziee.Library.TaskPool
import Ziee.Agent.FanOut

namespace Ziee.Agent

open PortProgram TaskPool Ziee.Providers

/-- What became of a spec: no task, or a task that ended. -/
inductive Fate
  | unresolved (error : AppError)
  | ran (handle : Nat) (ending : ChildEnd)

structure Account where
  spec : SubagentSpec
  id : Uuid
  fate : Fate

/-- A spec before the join barrier: its model was not resolved, or its task was spawned. -/
structure Slot where
  spec : SubagentSpec
  id : Uuid
  task : Except AppError Nat

namespace Slot

def outcome (slot : Slot) : ChildOutcome :=
  match slot.task with
  | .error error => .ready (unresolvedSummary error)
  | .ok handle => .spawned handle

def entry (core : AgentCore) (slot : Slot) : SubAgentChild where
  id := slot.id.display
  label := subagentLabel slot.spec.system
  status :=
    match slot.task with
    | .error _ => .failed
    | .ok handle => initialStatus core handle

def handle? (slot : Slot) : Option Nat := slot.task.toOption

def child? (core : AgentCore) (userId : Uuid) (slot : Slot) : Option Child :=
  slot.handle?.map fun _ => makeChild core userId slot.id slot.spec

end Slot

namespace Account

def slot (account : Account) : Slot where
  spec := account.spec
  id := account.id
  task :=
    match account.fate with
    | .unresolved error => .error error
    | .ran handle _ => .ok handle

def ending? (account : Account) : Option ChildEnd :=
  match account.fate with
  | .unresolved _ => none
  | .ran _ ending => some ending

def succeeded (account : Account) : Bool := account.ending?.any ChildEnd.succeeded

def child? (core : AgentCore) (userId : Uuid) (account : Account) : Option Child :=
  account.slot.child? core userId

/-- A task is settled under its child's run id, with whether its run succeeded. -/
def settlement? (account : Account) : Option (Uuid × Bool) :=
  account.ending?.map fun ending => (account.id, ending.succeeded)

def summary (account : Account) : SubagentSummary :=
  match account.fate with
  | .unresolved error => unresolvedSummary error
  | .ran _ (.returned (.ok events)) => summaryFromEvents events
  | .ran _ (.returned (.error error)) => errorSummary ("sub-agent failed: " ++ error.display)
  | .ran _ (.panicked display) => errorSummary ("sub-agent task panicked: " ++ display)

/-- The terminal entry of the activity snapshot. -/
def entry (account : Account) : SubAgentChild where
  id := account.id.display
  label := subagentLabel account.spec.system
  status := if account.succeeded then .completed else .failed

end Account

/-! ### The tasks of a fan-out -/

def childTasks : Tasking fanOutPorts ChildEnd where
  spawns
    | .spawn _ => true
    | _ => false
  awaits
    | .await handle => some (handle, id)
    | _ => none
  exclusive := fun query target awaits => by
    cases query with
    | await handle => rfl
    | _ => cases awaits

variable {childId : Uuid} {spec : SubagentSpec} {ids : List Uuid}

theorem spawnCount_eq (trace : List FanOutEvent) :
    spawnCount childTasks trace = (spawnedChildren trace).length := by
  unfold spawnCount spawnedChildren
  induction trace with
  | nil => rfl
  | cons event trace ih =>
    obtain ⟨query, answer⟩ := event
    cases query <;> rw [List.countP_cons, ih] <;> rfl

def Silent (trace : List FanOutEvent) : Prop :=
  ∀ event ∈ trace, spawnedChild? event = none ∧ settled? event = none ∧
    (∀ shown, newest shown event = shown) ∧ childTasks.awaits event.1 = none

section Silent

variable {before after trace : List FanOutEvent}

theorem Silent.nil : Silent [] := List.forall_mem_nil _

theorem Silent.append (first : Silent before) (second : Silent after) : Silent (before ++ after) :=
  fun event member => (List.mem_append.mp member).elim (first event) (second event)

theorem Silent.spawned (silent : Silent trace) : spawnedChildren trace = [] :=
  List.filterMap_eq_nil_iff.mpr fun event member => (silent event member).1

theorem Silent.settled (silent : Silent trace) : settlements trace = [] :=
  List.filterMap_eq_nil_iff.mpr fun event member => (silent event member).2.1

theorem Silent.shown (silent : Silent trace) :
    ∀ shown, trace.foldl newest shown = shown := by
  induction trace with
  | nil => exact fun _ => rfl
  | cons event trace ih =>
    obtain ⟨here, later⟩ := List.forall_mem_cons.mp silent
    intro shown
    rw [List.foldl_cons, here.2.2.1, ih later]

theorem runs_newId {outcome : Except AppError Uuid} (run : Runs newId trace outcome) :
    Silent trace ∧ ∃ childId, outcome = .ok childId := by
  obtain ⟨childId, rfl, rfl⟩ := runs_perform_iff.mp run
  exact ⟨List.forall_mem_singleton.mpr ⟨rfl, rfl, fun _ => rfl, rfl⟩, childId, rfl⟩

theorem runs_resolveModel {userId : Uuid} {modelId : Option Uuid}
    {outcome : Except AppError (Except AppError Unit)}
    (run : Runs (resolveModel userId modelId) trace outcome) :
    Silent trace ∧ ∃ answer, outcome = .ok answer := by
  cases modelId with
  | none =>
    obtain ⟨rfl, rfl⟩ := runs_pure_iff.mp run
    exact ⟨.nil, _, rfl⟩
  | some modelId =>
    obtain ⟨answer, rfl, rfl⟩ := runs_perform_iff.mp run
    exact ⟨List.forall_mem_singleton.mpr ⟨rfl, rfl, fun _ => rfl, rfl⟩, answer, rfl⟩

theorem runs_childSink {core : AgentCore} {label : String}
    {outcome : Except AppError Unit} (run : Runs (childSink core childId label) trace outcome) :
    Silent trace ∧ outcome = .ok () := by
  unfold childSink at run
  split at run
  · obtain ⟨answer, rfl, rfl⟩ := runs_perform_iff.mp run
    exact ⟨List.forall_mem_singleton.mpr ⟨rfl, rfl, fun _ => rfl, rfl⟩, rfl⟩
  · obtain ⟨rfl, rfl⟩ := runs_pure_iff.mp run
    exact ⟨.nil, rfl⟩

end Silent

/-! ### The spawn loop -/

def Spawning.extend (core : AgentCore) (state : Spawning) (slots : List Slot) : Spawning where
  outcomes := state.outcomes ++ slots.map Slot.outcome
  childRunIds := state.childRunIds ++ slots.map Slot.id
  activity := state.activity ++ slots.map (Slot.entry core)
  spawned := state.spawned + (slots.filterMap Slot.handle?).length

/-- **What the spawn loop does**: one task for each spec that is resolved, with the handles counted
up from `first`; it settles, shows and awaits nothing. -/
structure SpawnTrace (core : AgentCore) (userId : Uuid) (first : Nat) (slots : List Slot)
    (trace : List FanOutEvent) : Prop where
  spawned : spawnedChildren trace = slots.filterMap (Slot.child? core userId)
  handles : slots.filterMap Slot.handle? =
    List.range' first (slots.filterMap Slot.handle?).length
  settled : settlements trace = []
  shown : ∀ shown, trace.foldl newest shown = shown
  awaits : ∀ event ∈ trace, childTasks.awaits event.1 = none

section Spawn

variable {core : AgentCore} {userId : Uuid} {first : Nat} {slot : Slot} {slots : List Slot}
  {before after trace : List FanOutEvent} {state : Spawning} {outcome : Except AppError Spawning}

theorem SpawnTrace.cons (head : SpawnTrace core userId first [slot] before)
    (tail : SpawnTrace core userId (first + ([slot].filterMap Slot.handle?).length) slots after) :
    SpawnTrace core userId first (slot :: slots) (before ++ after) where
  spawned := by
    rw [← List.singleton_append, List.filterMap_append, ← head.spawned, ← tail.spawned]
    exact List.filterMap_append
  handles := by
    rw [← List.singleton_append, List.filterMap_append, List.length_append,
      List.range'_append_1.symm,
      ← head.handles, ← tail.handles]
  settled := by
    unfold settlements
    rw [List.filterMap_append]
    exact congrArg₂ _ head.settled tail.settled
  shown := fun shown => by rw [List.foldl_append, head.shown, tail.shown]
  awaits := fun event member =>
    (List.mem_append.mp member).elim (head.awaits event) (tail.awaits event)

theorem SpawnTrace.unresolved (silent : Silent trace) (spec : SubagentSpec) (childId : Uuid)
    (error : AppError) : SpawnTrace core userId first [⟨spec, childId, .error error⟩] trace :=
  ⟨silent.spawned, rfl, silent.settled, silent.shown, fun event member =>
    (silent event member).2.2.2⟩

theorem SpawnTrace.spawn (silent : Silent trace) (spec : SubagentSpec) (childId : Uuid) :
    SpawnTrace core userId first [⟨spec, childId, .ok first⟩]
      (trace ++ [⟨.spawn (makeChild core userId childId spec), ()⟩]) where
  spawned := by
    unfold spawnedChildren
    rw [List.filterMap_append]
    exact congrArg (· ++ _) silent.spawned
  handles := rfl
  settled := by
    unfold settlements
    rw [List.filterMap_append]
    exact congrArg (· ++ _) silent.settled
  shown := fun shown => by
    rw [List.foldl_append, silent.shown]
    rfl
  awaits := fun event member => (List.mem_append.mp member).elim
    (fun member => (silent event member).2.2.2) fun member => by
      rw [List.mem_singleton.mp member]
      rfl

theorem runs_spawnChild
    (run : Runs (spawnChild core userId .errorSummary spec state) trace outcome) :
    ∃ slot : Slot, slot.spec = spec ∧ outcome = .ok (state.extend core [slot]) ∧
      SpawnTrace core userId state.spawned [slot] trace := by
  unfold spawnChild at run
  rcases runs_bind_iff.mp run with ⟨error, -, failed⟩ | ⟨childId, ids, rest, rfl, named, tail⟩
  · obtain ⟨-, childId, impossible⟩ := runs_newId failed
    cases impossible
  have quiet := (runs_newId named).1
  rcases runs_bind_iff.mp tail with ⟨error, -, failed⟩ | ⟨answer, asked, rest, rfl, resolved, tail⟩
  · obtain ⟨-, answer, impossible⟩ := runs_resolveModel failed
    cases impossible
  have quiet := quiet.append (runs_resolveModel resolved).1
  rw [← List.append_assoc]
  cases answer with
  | error error =>
    obtain ⟨rfl, rfl⟩ := runs_pure_iff.mp tail
    rw [List.append_nil]
    exact ⟨⟨spec, childId, .error error⟩, rfl, rfl, .unresolved quiet spec childId error⟩
  | ok resolvedModel =>
    rcases runs_bind_iff.mp tail with ⟨error, -, failed⟩ | ⟨_, wired, rest, rfl, sink, tail⟩
    · obtain ⟨-, impossible⟩ := runs_childSink failed
      cases impossible
    have quiet := quiet.append (runs_childSink sink).1
    obtain ⟨_, last, rfl, done⟩ := runs_perform_bind_iff.mp tail
    obtain ⟨rfl, rfl⟩ := runs_pure_iff.mp done
    rw [← List.append_assoc]
    exact ⟨⟨spec, childId, .ok state.spawned⟩, rfl, rfl, .spawn quiet spec childId⟩

theorem Spawning.extend_cons (core : AgentCore) (state : Spawning) (slot : Slot)
    (slots : List Slot) :
    (state.extend core [slot]).extend core slots = state.extend core (slot :: slots) := by
  have count : state.spawned + ([slot].filterMap Slot.handle?).length +
      (slots.filterMap Slot.handle?).length =
      state.spawned + ((slot :: slots).filterMap Slot.handle?).length := by
    rw [Nat.add_assoc, ← List.length_append, ← List.filterMap_append, List.singleton_append]
  unfold Spawning.extend
  rw [← count]
  simp only [List.map_cons, List.map_nil, List.append_assoc, List.singleton_append]

/-- **The spawn loop makes one slot for each spec.** -/
theorem runs_spawnAll (specs : List SubagentSpec) :
    ∀ {state trace}, Runs (spawnAll core userId .errorSummary specs state) trace outcome →
      ∃ slots : List Slot, slots.map Slot.spec = specs ∧
        outcome = .ok (state.extend core slots) ∧
        SpawnTrace core userId state.spawned slots trace := by
  induction specs with
  | nil =>
    intro state trace run
    obtain ⟨rfl, rfl⟩ := runs_pure_iff.mp run
    refine ⟨[], rfl, ?_, ⟨rfl, rfl, rfl, fun _ => rfl, List.forall_mem_nil _⟩⟩
    simp only [Spawning.extend, List.map_nil, List.append_nil, List.filterMap_nil, List.length_nil,
      Nat.add_zero]
  | cons spec specs ih =>
    intro state trace run
    rcases runs_bind_iff.mp run with ⟨error, -, failed⟩ | ⟨middle, before, after, rfl, head, tail⟩
    · obtain ⟨slot, -, impossible, -⟩ := runs_spawnChild failed
      cases impossible
    · obtain ⟨slot, rfl, same, first⟩ := runs_spawnChild head
      cases same
      obtain ⟨slots, rfl, rfl, rest⟩ := ih tail
      exact ⟨slot :: slots, rfl, congrArg _ (Spawning.extend_cons core state slot slots),
        first.cons rest⟩

end Spawn

/-! ### The join barrier -/

/-- **What the join barrier does**: it awaits each task and settles it once, in order. -/
structure JoinTrace (core : AgentCore) (accounts : List Account) (trace : List FanOutEvent) :
    Prop where
  spawned : spawnedChildren trace = []
  settled : settlements trace =
    if core.childSinkFactory then accounts.filterMap Account.settlement? else []
  awaited : ∀ account ∈ accounts, ∀ handle ending, account.fate = .ran handle ending →
    (⟨.await handle, ending⟩ : FanOutEvent) ∈ trace
  handles : ∀ event ∈ trace, ∀ target, childTasks.awaits event.1 = some target →
    target.1 ∈ accounts.filterMap fun account => account.slot.handle?

section Join

variable {core : AgentCore} {account : Account} {accounts : List Account}
  {before after trace : List FanOutEvent}

theorem JoinTrace.nil (core : AgentCore) : JoinTrace core [] [] where
  spawned := rfl
  settled := by
    rw [List.filterMap_nil, ite_self]
    rfl
  awaited := List.forall_mem_nil _
  handles := List.forall_mem_nil _

theorem JoinTrace.cons (head : JoinTrace core [account] before)
    (tail : JoinTrace core accounts after) :
    JoinTrace core (account :: accounts) (before ++ after) where
  spawned := by
    unfold spawnedChildren
    rw [List.filterMap_append]
    exact congrArg₂ _ head.spawned tail.spawned
  settled := by
    unfold settlements
    rw [List.filterMap_append]
    refine (congrArg₂ _ head.settled tail.settled).trans ?_
    split
    · rw [← List.filterMap_append, List.singleton_append]
    · rfl
  awaited := fun other member handle ending fate => by
    rcases List.mem_cons.mp member with rfl | member
    · exact List.mem_append_left _ (head.awaited _ (List.mem_singleton_self _) handle ending fate)
    · exact List.mem_append_right _ (tail.awaited other member handle ending fate)
  handles := fun event member target awaits => by
    rw [← List.singleton_append, List.filterMap_append]
    rcases List.mem_append.mp member with member | member
    · exact List.mem_append_left _ (head.handles event member target awaits)
    · exact List.mem_append_right _ (tail.handles event member target awaits)

theorem JoinTrace.append_silent (joined : JoinTrace core accounts before) {event : FanOutEvent}
    (spawns : spawnedChild? event = none) (settles : settled? event = none)
    (awaits : childTasks.awaits event.1 = none) : JoinTrace core accounts (before ++ [event]) where
  spawned := by
    unfold spawnedChildren
    rw [List.filterMap_append, List.filterMap_cons_none spawns]
    exact congrArg (· ++ []) joined.spawned
  settled := by
    unfold settlements
    rw [List.filterMap_append, List.filterMap_cons_none settles, List.filterMap_nil,
      List.append_nil]
    exact joined.settled
  awaited := fun account member handle ending fate =>
    List.mem_append_left _ (joined.awaited account member handle ending fate)
  handles := fun other member target found => by
    rcases List.mem_append.mp member with member | member
    · exact joined.handles other member target found
    · cases List.mem_singleton.mp member
      rw [awaits] at found
      cases found

theorem runs_settleChildRun {idx : Nat} {ok : Bool}
    (found : ids[idx]? = some childId) {outcome : Except AppError Unit}
    (run : Runs (settleChildRun core ids idx ok) trace outcome) :
    outcome = .ok () ∧
      trace = if core.childSinkFactory then [⟨.settleChild childId ok, ()⟩] else [] := by
  unfold settleChildRun at run
  rw [found] at run
  dsimp only at run
  split at run
  · rename_i wired
    obtain ⟨answer, rfl, rfl⟩ := runs_perform_iff.mp run
    exact ⟨rfl, (if_pos wired).symm⟩
  · rename_i bare
    obtain ⟨rfl, rfl⟩ := runs_pure_iff.mp run
    exact ⟨rfl, (if_neg bare).symm⟩

theorem runs_settle_pure {idx : Nat} {ok : Bool} {α : Type}
    {value : α} (found : ids[idx]? = some childId) {outcome : Except AppError α}
    (run : Runs (settleChildRun core ids idx ok >>= fun _ => pure value) trace outcome) :
    outcome = .ok value ∧
      trace = if core.childSinkFactory then [⟨.settleChild childId ok, ()⟩] else [] := by
  rcases runs_bind_iff.mp run with ⟨error, -, failed⟩ | ⟨_, before, after, rfl, settled, done⟩
  · cases (runs_settleChildRun found failed).1
  · obtain ⟨rfl, rfl⟩ := runs_pure_iff.mp done
    rw [List.append_nil]
    exact ⟨rfl, (runs_settleChildRun found settled).2⟩

theorem JoinTrace.ran {handle : Nat} {ending : ChildEnd} :
    JoinTrace core [⟨spec, childId, .ran handle ending⟩]
      (⟨.await handle, ending⟩ :: if core.childSinkFactory then
        [⟨.settleChild childId ending.succeeded, ()⟩] else []) where
  spawned := by
    split <;> rfl
  settled := by
    split <;> rfl
  awaited := List.forall_mem_singleton.mpr fun handle' ending' fate => by
    cases fate
    exact List.mem_cons_self
  handles := fun event member target awaits => by
    rcases List.mem_cons.mp member with rfl | member
    · cases awaits
      exact List.mem_singleton_self _
    · split at member
      · cases List.mem_singleton.mp member
        cases awaits
      · cases member

theorem setChildStatus_append (done rest : List SubAgentChild) (entry : SubAgentChild)
    (status : SubAgentChildStatus) :
    setChildStatus (done ++ entry :: rest) done.length status =
      done ++ { entry with status := status } :: rest := by
  unfold setChildStatus
  induction done with
  | nil => rfl
  | cons other done ih => exact congrArg (other :: ·) ih

/-- **One pass of the join barrier accounts for one slot.** -/
theorem runs_joinChild {slot : Slot} {done rest : List SubAgentChild}
    {outcome : Except AppError (List SubAgentChild × SubagentSummary)}
    (found : ids[done.length]? = some slot.id)
    (run : Runs (joinChild core .errorSummary ids done.length slot.outcome
      (done ++ slot.entry core :: rest)) trace outcome) :
    ∃ account : Account, account.slot = slot ∧
      outcome = .ok (done ++ account.entry :: rest, account.summary) ∧
      JoinTrace core [account] trace := by
  obtain ⟨spec, childId, task⟩ := slot
  cases task with
  | error error =>
    obtain ⟨rfl, rfl⟩ := runs_pure_iff.mp run
    refine ⟨⟨spec, childId, .unresolved error⟩, rfl, rfl, ⟨rfl, ?_, ?_, List.forall_mem_nil _⟩⟩
    · split <;> rfl
    · exact List.forall_mem_singleton.mpr nofun
  | ok handle =>
    obtain ⟨ending, tail, rfl, rest'⟩ := runs_perform_bind_iff.mp run
    have settled : ∀ summary status, Runs (settleChildRun core ids done.length ending.succeeded >>=
        fun _ => pure (setChildStatus (done ++ Slot.entry core ⟨spec, childId, .ok handle⟩ :: rest)
          done.length status, summary)) tail outcome →
        Account.summary ⟨spec, childId, .ran handle ending⟩ = summary →
        status = (if ending.succeeded then .completed else .failed) →
        ∃ account : Account, account.slot = ⟨spec, childId, .ok handle⟩ ∧
          outcome = .ok (done ++ account.entry :: rest, account.summary) ∧
          JoinTrace core [account] (⟨.await handle, ending⟩ :: tail) := by
      rintro summary status run rfl rfl
      obtain ⟨rfl, rfl⟩ := runs_settle_pure found run
      rw [setChildStatus_append]
      exact ⟨⟨spec, childId, .ran handle ending⟩, rfl, rfl, .ran⟩
    cases ending with
    | returned result =>
      cases result with
      | ok events => exact settled _ .completed rest' rfl rfl
      | error error => exact settled _ .failed rest' rfl rfl
    | panicked display => exact settled _ .failed rest' rfl rfl

/-- **The join barrier accounts for every slot**, and shows them all terminal at the end. -/
theorem runs_joinAll {parentRunId : Uuid} (slots : List Slot) :
    ∀ (past : List Uuid) (done : List SubAgentChild) (out : List SubagentSummary)
      {trace : List FanOutEvent} {outcome : Except AppError (List SubagentSummary)},
      past.length = done.length →
      Runs (joinAll core parentRunId .errorSummary (past ++ slots.map Slot.id)
        (slots.map Slot.outcome) done.length (done ++ slots.map (Slot.entry core)) out)
        trace outcome →
      ∃ accounts : List Account, accounts.map Account.slot = slots ∧
        outcome = .ok (out ++ accounts.map Account.summary) ∧ JoinTrace core accounts trace ∧
        trace.foldl newest (some (parentRunId, done ++ slots.map (Slot.entry core))) =
          some (parentRunId, done ++ accounts.map Account.entry) := by
  induction slots with
  | nil =>
    intro past done out trace outcome _ run
    obtain ⟨rfl, rfl⟩ := runs_pure_iff.mp run
    exact ⟨[], rfl, congrArg _ (List.append_nil _).symm, .nil core, rfl⟩
  | cons slot slots ih =>
    intro past done out trace outcome aligned run
    have found : (past ++ slot.id :: slots.map Slot.id)[done.length]? = some slot.id := by
      rw [← aligned, List.getElem?_append_right (Nat.le_refl _), Nat.sub_self]
      rfl
    rcases runs_bind_iff.mp run with ⟨error, -, failed⟩ | ⟨joined, before, after, rfl, head, tail⟩
    · obtain ⟨account, -, impossible, -⟩ := runs_joinChild found failed
      cases impossible
    obtain ⟨account, rfl, same, here⟩ := runs_joinChild found head
    cases same
    obtain ⟨_, after, rfl, others⟩ := runs_perform_bind_iff.mp tail
    have next : done ++ account.entry :: slots.map (Slot.entry core) =
        (done ++ [account.entry]) ++ slots.map (Slot.entry core) := by
      rw [List.append_assoc, List.singleton_append]
    have length : (done ++ [account.entry]).length = done.length + 1 := List.length_append
    rw [next, ← length] at others
    rw [List.map_cons, ← List.singleton_append, ← List.append_assoc] at others
    obtain ⟨accounts, rfl, rfl, later, shown⟩ := ih (past ++ [account.slot.id])
      (done ++ [account.entry]) _ (by rw [length, List.length_append, aligned]; rfl) others
    refine ⟨account :: accounts, rfl, ?_, ?_, ?_⟩
    · rw [List.append_assoc]
      rfl
    · rw [List.append_cons]
      exact (here.append_silent rfl rfl rfl).cons later
    · -- The snapshot after this child is the newest, whatever was shown before.
      rw [List.foldl_append, List.foldl_cons]
      show after.foldl newest (some (parentRunId,
        done ++ account.entry :: (accounts.map Account.slot).map (Slot.entry core))) = _
      rw [next, shown, List.append_assoc]
      rfl

end Join

/-! ### The whole fan-out -/

/-- **A fan-out that is accounted for**: for each spec, in order, one account. The fan-out has
returned one neutralised summary for each, the tasks are those that ran, each of them is settled
once under its child's run id with whether its run succeeded, no other is settled, and the last
activity snapshot shows a terminal entry for each. -/
structure Accounted (core : AgentCore) (parentRunId userId : Uuid) (specs : List SubagentSpec)
    (config : Config fanOutPorts AppError (List SubagentSummary) ChildEnd)
    (accounts : List Account) : Prop where
  specs : accounts.map Account.spec = specs
  outcome : config.outcome? =
    some (.ok (accounts.map fun account => neutralizeSummary account.summary))
  spawned : spawnedChildren config.trace = accounts.filterMap (Account.child? core userId)
  tasks : config.tasks = (accounts.filterMap Account.ending?).map TaskState.done
  settled : settlements config.trace =
    if core.childSinkFactory then accounts.filterMap Account.settlement? else []
  shown : config.trace.foldl newest none = some (parentRunId, accounts.map Account.entry)
  terminal : ∀ account ∈ accounts, account.entry.status = .completed ∨
    account.entry.status = .failed

/-- What a run of the fan-out does, before the tasks' own results are looked at. -/
structure FanOutRun (core : AgentCore) (parentRunId userId : Uuid) (specs : List SubagentSpec)
    (trace : List FanOutEvent) (outcome : Except AppError (List SubagentSummary))
    (accounts : List Account) : Prop where
  specs : accounts.map Account.spec = specs
  outcome : outcome = .ok (accounts.map fun account => neutralizeSummary account.summary)
  spawned : spawnedChildren trace = accounts.filterMap (Account.child? core userId)
  handles : (accounts.filterMap fun account => account.slot.handle?) =
    List.range (spawnedChildren trace).length
  settled : settlements trace =
    if core.childSinkFactory then accounts.filterMap Account.settlement? else []
  awaited : ∀ account ∈ accounts, ∀ handle ending, account.fate = .ran handle ending →
    (⟨.await handle, ending⟩ : FanOutEvent) ∈ trace
  shown : trace.foldl newest none = some (parentRunId, accounts.map Account.entry)
  owned : AwaitsSpawned childTasks 0 trace

theorem awaitsSpawned_of_lt {count : Nat} {trace : List FanOutEvent}
    (below : ∀ event ∈ trace, ∀ target, childTasks.awaits event.1 = some target →
      target.1 < count) : AwaitsSpawned childTasks count trace := by
  induction trace generalizing count with
  | nil => trivial
  | cons event trace ih =>
    obtain ⟨here, later⟩ := List.forall_mem_cons.mp below
    exact ⟨fun handle give awaits => here _ awaits, ih fun other member target awaits =>
      Nat.lt_of_lt_of_le (later other member target awaits) (Nat.le_add_right _ _)⟩

theorem length_filterMap_child? (core : AgentCore) (userId : Uuid) (slots : List Slot) :
    (slots.filterMap (Slot.child? core userId)).length = (slots.filterMap Slot.handle?).length := by
  induction slots with
  | nil => rfl
  | cons slot slots ih =>
    rw [List.filterMap_cons, List.filterMap_cons, Slot.child?]
    cases slot.handle? with
    | none => exact ih
    | some handle => exact congrArg Nat.succ ih

section FanOut

variable {core : AgentCore} {parentRunId userId : Uuid} {specs : List SubagentSpec}
  {trace : List FanOutEvent} {outcome : Except AppError (List SubagentSummary)}

theorem runs_fanOutInner
    (run : Runs (fanOutInner core parentRunId userId specs .errorSummary) trace outcome) :
    ∃ accounts, FanOutRun core parentRunId userId specs trace outcome accounts := by
  rcases runs_bind_iff.mp run with ⟨error, -, failed⟩ | ⟨state, before, rest, rfl, spawn, tail⟩
  · obtain ⟨slots, -, impossible, -⟩ := runs_spawnAll _ failed
    cases impossible
  obtain ⟨slots, rfl, same, spawning⟩ := runs_spawnAll _ spawn
  cases same
  obtain ⟨_, after, rfl, barrier⟩ := runs_perform_bind_iff.mp tail
  have joined : ∀ {trace outcome}, Runs (joinAll core parentRunId .errorSummary
      (slots.map Slot.id) (slots.map Slot.outcome) 0 (slots.map (Slot.entry core)) [])
      trace outcome → _ := fun joinRun => runs_joinAll slots [] [] [] rfl joinRun
  rcases runs_bind_iff.mp barrier with ⟨error, -, failed⟩ | ⟨out, joins, _, rfl, join, done⟩
  · obtain ⟨accounts, -, impossible, -⟩ := joined failed
    cases impossible
  obtain ⟨accounts, rfl, same, joining, shown⟩ := joined join
  cases same
  obtain ⟨rfl, rfl⟩ := runs_pure_iff.mp done
  rw [List.append_nil]
  have children : ∀ event, spawnedChild? event = none →
      spawnedChildren (before ++ event :: joins) = spawnedChildren before := fun event none => by
    unfold spawnedChildren
    rw [List.filterMap_append, List.filterMap_cons_none none]
    exact (congrArg (_ ++ ·) joining.spawned).trans (List.append_nil _)
  have count : (spawnedChildren before).length =
      (accounts.filterMap fun account => account.slot.handle?).length := by
    rw [spawning.spawned, length_filterMap_child?, List.filterMap_map]
    rfl
  have handles : (accounts.filterMap fun account => account.slot.handle?) =
      List.range (spawnedChildren before).length := by
    rw [count, List.range_eq_range']
    have spawned := spawning.handles
    rwa [List.filterMap_map] at spawned
  exact ⟨accounts, {
    specs := by
      rw [List.map_map]
      rfl
    outcome := congrArg _ (List.map_map ..)
    spawned := by
      rw [children _ rfl, spawning.spawned, List.filterMap_map]
      rfl
    handles := by rw [children _ rfl, handles]
    settled := by
      unfold settlements
      rw [List.filterMap_append, List.filterMap_cons_none rfl]
      exact (congrArg₂ _ spawning.settled joining.settled).trans (List.nil_append _)
    awaited := fun account member handle ending fate => List.mem_append_right _
      (List.mem_cons_of_mem _ (joining.awaited account member handle ending fate))
    shown := by
      rw [List.foldl_append, List.foldl_cons, spawning.shown]
      exact shown
    owned := by
      refine AwaitsSpawned.append_iff.mpr ⟨awaitsSpawned_of_lt fun event member target awaits => ?_,
        awaitsSpawned_of_lt fun event member target awaits => ?_⟩
      · rw [spawning.awaits event member] at awaits
        cases awaits
      · rw [spawnCount_eq, Nat.zero_add]
        rcases List.mem_cons.mp member with rfl | member
        · cases awaits
        · have handle := joining.handles event member target awaits
          rw [handles] at handle
          exact List.mem_range.mp handle }⟩

theorem tasks_eq_of_done {R : Type} {tasks : List (TaskState R)} {endings : List (Nat × R)}
    (handles : endings.map Prod.fst = List.range tasks.length)
    (done : ∀ pair ∈ endings, tasks[pair.1]? = some (.done pair.2)) :
    tasks = (endings.map Prod.snd).map .done := by
  have length : endings.length = tasks.length := by
    have same := congrArg List.length handles
    rwa [List.length_map, List.length_range] at same
  refine List.ext_getElem? fun index => ?_
  rw [List.getElem?_map, List.getElem?_map]
  by_cases bound : index < tasks.length
  · have handle := congrArg (·[index]?) handles
    rw [List.getElem?_map, List.getElem?_range bound] at handle
    obtain ⟨pair, found, rfl⟩ := Option.map_eq_some_iff.mp handle
    rw [found, done pair (List.mem_of_getElem? found)]
    rfl
  · rw [List.getElem?_eq_none (Nat.not_lt.mp bound),
      List.getElem?_eq_none (length ▸ Nat.not_lt.mp bound)]
    rfl

def Account.ran? (account : Account) : Option (Nat × ChildEnd) :=
  match account.fate with
  | .unresolved _ => none
  | .ran handle ending => some (handle, ending)

theorem map_ran? (accounts : List Account) :
    (accounts.filterMap Account.ran?).map Prod.fst =
        (accounts.filterMap fun account => account.slot.handle?) ∧
      (accounts.filterMap Account.ran?).map Prod.snd = accounts.filterMap Account.ending? := by
  induction accounts with
  | nil => exact ⟨rfl, rfl⟩
  | cons account accounts ih =>
    obtain ⟨spec, id, fate⟩ := account
    cases fate with
    | unresolved error => exact ih
    | ran handle ending => exact ⟨congrArg (handle :: ·) ih.1, congrArg (ending :: ·) ih.2⟩

/-- **Under the relaxed contract every child is accounted for**, whatever the model resolver, the
children and the scheduler do: no schedule goes on for ever, and one that cannot go on has returned
and is accounted for. -/
theorem fanOut_accounted (core : AgentCore) (parentRunId userId : Uuid)
    (specs : List SubagentSpec) :
    Acc (fun next config => Step childTasks (permits core) config next)
      (.start (fanOutInner core parentRunId userId specs .errorSummary)) ∧
    ∀ config, TaskPool.Reaches childTasks (permits core)
        (.start (fanOutInner core parentRunId userId specs .errorSummary)) config →
      (∃ next, Step childTasks (permits core) config next) ∨
        ∃ accounts, Accounted core parentRunId userId specs config accounts := by
  refine ⟨acc _ _ rfl, fun config reaches => ?_⟩
  have answers : ∀ query : FanOutQuery, query.Answer := by
    intro query
    cases query with
    | newId => exact 0
    | resolve => exact .ok ()
    | await => exact .panicked ""
    | _ => exact ()
  rcases reaches.progress (Nat.lt_of_lt_of_le Nat.one_pos (Nat.le_max_right _ _)) (.panicked "")
      answers fun trace outcome run => (runs_fanOutInner run).choose_spec.owned with ended | next
  · right
    obtain ⟨outcome, ended⟩ := Option.isSome_iff_exists.mp ended
    have history := reaches.history
    obtain ⟨accounts, run⟩ := runs_fanOutInner (history.finished ended)
    have handles : (accounts.filterMap Account.ran?).map Prod.fst =
        List.range config.tasks.length := by
      rw [(map_ran? accounts).1, run.handles, history.spawned, spawnCount_eq]
    refine ⟨accounts, ⟨run.specs, ended.trans (congrArg some run.outcome), run.spawned, ?_,
      run.settled, run.shown, fun account _ => ?_⟩⟩
    · rw [← (map_ran? accounts).2]
      refine tasks_eq_of_done handles fun pair member => ?_
      obtain ⟨account, among, ran⟩ := List.mem_filterMap.mp member
      obtain ⟨spec, childId, fate⟩ := account
      cases fate with
      | unresolved error => cases ran
      | ran handle ending =>
        cases ran
        obtain ⟨result, found, rfl⟩ := history.awaited _ _ _ _
          (run.awaited _ among handle ending rfl) rfl
        exact found
    · unfold Account.entry
      dsimp only
      split
      · exact Or.inl rfl
      · exact Or.inr rfl
  · exact Or.inl next

end FanOut

end Ziee.Agent
