/-
**The elicitation slot of a run** (`registry.rs`).

A dispatcher that waits for a person's answer parks a one-shot sender, with the elicitation's id, in
the slot of the run's handle. A submission takes the sender out under the slot's lock and sends
through it, or puts it back when the id is another one. The handle is looked up before the lock is
taken, so it may have been removed, or another one made, in between; dispatchers, submissions and
the run's lifecycle are threads that share the registry.

* `Slots.Sound` — a parked sender belongs to one waiter that has received nothing, and to one slot.
* `Slots.Accounts` — the waiters are those that were parked, and the responses they received are the
  accepted submissions.
-/

import Ziee.Agent.Types
import Ziee.Library.Threads

namespace Ziee.Workflow.Elicit

open PortProgram Threads Ziee.Agent Ziee.Providers

/-- `PendingElicit`: the sender stands for the waiter at its other end. -/
structure PendingElicit where
  id : Uuid
  tx : Nat
  deriving DecidableEq

/-- The receiving end of a one-shot channel: the id it was parked for, and the responses it got with
the ids their submissions named. -/
structure Waiter where
  elicitationId : Uuid
  received : List (Uuid × Json)
  listening : Bool

/-- The registry's entry of one run, with every handle and every channel that was made for it. -/
structure Slots where
  current : Option Nat
  handles : Nat
  pending : Nat → Option PendingElicit
  waiters : List Waiter

namespace Slots

def empty : Slots := ⟨none, 0, fun _ => none, []⟩

def write (state : Slots) (handle : Nat) (slot : Option PendingElicit) : Slots :=
  { state with pending := Function.update state.pending handle slot }

/-- `register`, and the get-or-create of a subscriber. -/
def register (state : Slots) : Slots :=
  match state.current with
  | some _ => state
  | none => { state with current := some state.handles, handles := state.handles + 1 }

/-- `set_pending_elicitation`, once it has the handle: a new channel, its sender in the slot. -/
def park (state : Slots) (handle : Nat) (id : Uuid) : Nat × Slots :=
  (state.waiters.length,
    { state.write handle (some ⟨id, state.waiters.length⟩) with
      waiters := state.waiters ++ [⟨id, [], true⟩] })

/-- `tx.send(value)`: it fails when the receiver was dropped. -/
def send (state : Slots) (tx : Nat) (id : Uuid) (value : Json) : Except AppError Unit × Slots :=
  match state.waiters[tx]? with
  | some waiter =>
    if waiter.listening then
      let waiter' := { waiter with received := waiter.received ++ [(id, value)] }
      (.ok (), { state with waiters := state.waiters.set tx waiter' })
    else (.error ⟨"dispatcher receiver dropped"⟩, state)
  | none => (.error ⟨"dispatcher receiver dropped"⟩, state)

/-- `submit_elicitation_response`, once it has the handle. -/
def submit (state : Slots) (handle : Nat) (id : Uuid) (value : Json) :
    Except AppError Unit × Slots :=
  let taken := state.write handle none
  match state.pending handle with
  | none => (.error ⟨"none"⟩, taken)
  | some pending =>
    -- The slot is restored: the elicitation in flight is still pending.
    if pending.id ≠ id then (.error ⟨"stale"⟩, taken.write handle (some pending))
    else taken.send pending.tx id value

/-- The dispatcher stops waiting. -/
def hangUp (state : Slots) (tx : Nat) : Slots :=
  match state.waiters[tx]? with
  | some waiter => { state with waiters := state.waiters.set tx { waiter with listening := false } }
  | none => state

end Slots

/-! ### The threads -/

inductive SlotQuery
  | get
  | register
  | unregister
  | park (handle : Nat) (id : Uuid)
  | clear (handle : Nat)
  | submit (handle : Nat) (id : Uuid) (value : Json)
  | dropReceiver (tx : Nat)

/-- What may be answered; a park returns the receiver. -/
abbrev SlotQuery.Answer : SlotQuery → Type
  | .get => Option Nat
  | .register => Unit
  | .unregister => Unit
  | .park _ _ => Nat
  | .clear _ => Unit
  | .submit _ _ _ => Except AppError Unit
  | .dropReceiver _ => Unit

abbrev slotPorts : Interface := ⟨SlotQuery, SlotQuery.Answer⟩

abbrev SlotM (α : Type) : Type := Program slotPorts AppError α

abbrev SlotEvent : Type := Event slotPorts

abbrev SlotLog : Type := List (Nat × SlotEvent)

def askSlot (query : SlotQuery) : SlotM query.Answer := Program.perform (I := slotPorts) query

/-- `get(run_id).ok_or("run not active")`. -/
def activeHandle : SlotM Nat := do
  let found ← askSlot .get
  match found with
  | some handle => pure handle
  | none => Program.fail ⟨"run not active"⟩

def setPendingElicitation (id : Uuid) : SlotM Nat := do
  let handle ← activeHandle
  askSlot (.park handle id)

def clearPendingElicitation : SlotM Unit := do
  let found ← askSlot .get
  match found with
  | some handle => askSlot (.clear handle)
  | none => pure ()

def submitElicitationResponse (id : Uuid) (value : Json) : SlotM Unit := do
  let handle ← activeHandle
  Program.attempt (I := slotPorts) (SlotQuery.submit handle id value) fun answer => answer

/-- A dispatcher's wait; the slot is rolled back when the pending record was not persisted. -/
def awaitElicitation (id : Uuid) (persisted : Bool) : SlotM Unit := do
  let tx ← setPendingElicitation id
  if persisted then askSlot (.dropReceiver tx)
  else do
    clearPendingElicitation
    askSlot (.dropReceiver tx)

/-- The locked steps; a step of the registry is one of them. -/
def Slots.answer (state : Slots) : ∀ query : SlotQuery, query.Answer × Slots
  | .get => (state.current, state)
  | .register => ((), state.register)
  | .unregister => ((), { state with current := none })
  | .park handle id => state.park handle id
  | .clear handle => ((), state.write handle none)
  | .submit handle id value => state.submit handle id value
  | .dropReceiver tx => ((), state.hangUp tx)

def registry : Machine slotPorts AppError Unit Slots :=
  ⟨fun state event state' => state.answer event.1 = (event.2, state'), fun _ => []⟩

/-! ### What a run delivered -/

def acceptedBy : SlotEvent → Option (Uuid × Json)
  | ⟨.submit _ id value, .ok _⟩ => some (id, value)
  | _ => none

def parkedBy : SlotEvent → Option Uuid
  | ⟨.park _ id, _⟩ => some id
  | _ => none

/-- The accepted submissions of a run, in order. -/
def accepted (log : SlotLog) : List (Uuid × Json) := log.filterMap fun label => acceptedBy label.2

/-- The ids parked in a run, in order. -/
def parked (log : SlotLog) : List Uuid := log.filterMap fun label => parkedBy label.2

/-- **What a run of the registry honours.** -/
structure Honoured (log : SlotLog) (state : Slots) : Prop where
  /-- A waiter receives at most one response, and only one that names its id. -/
  one_response : ∀ waiter ∈ state.waiters,
    waiter.received = [] ∨ ∃ value, waiter.received = [(waiter.elicitationId, value)]
  /-- Every accepted submission is received once, and nothing else is. -/
  received_accepted : (accepted log).Perm (state.waiters.flatMap Waiter.received)
  /-- A submission of an id that is not pending leaves the registry as it is. -/
  unknown_unchanged : ∀ {shared shared' : Slots} {handle : Nat} {id : Uuid} {value : Json}
    {answer : Except AppError Unit},
    registry.answers shared ⟨.submit handle id value, answer⟩ shared' →
    (shared.pending handle).map PendingElicit.id ≠ some id →
    shared' = shared ∧ (answer = .error ⟨"none"⟩ ∨ answer = .error ⟨"stale"⟩)
  /-- Between two deliveries of one id through a slot, the id was parked there again. -/
  parked_between : ∀ {before between after : SlotLog} {first second handle : Nat} {id : Uuid}
    {value value' : Json},
    log = before ++ (first, ⟨.submit handle id value, .ok ()⟩) ::
      (between ++ (second, ⟨.submit handle id value', .ok ()⟩) :: after) →
    ∃ label ∈ between, ∃ tx, label.2 = ⟨.park handle id, tx⟩
  /-- An id is accepted at most as often as it is parked. -/
  accepted_le_parked : ∀ id, ((accepted log).map Prod.fst).count id ≤ (parked log).count id
  /-- Where every wait has an id of its own, no id is accepted twice. -/
  accepted_once : (parked log).Nodup → ((accepted log).map Prod.fst).Nodup

/-! ### The locked submission -/

namespace Slots

variable {state state' : Slots} {handle other tx : Nat} {id : Uuid} {value : Json}
  {slot : Option PendingElicit}

@[simp] theorem write_pending_self : (state.write handle slot).pending handle = slot := by
  simp only [write, Function.update_self]

variable {waiter waiter' : Waiter} {waiters : List Waiter} {log : SlotLog}
  {last : Config slotPorts AppError Unit Slots}

theorem write_pending_ne (apart : other ≠ handle) :
    (state.write handle slot).pending other = state.pending other := by
  simp only [write, Function.update_of_ne apart]

@[simp] theorem write_waiters : (state.write handle slot).waiters = state.waiters := rfl

theorem write_restored : (state.write handle none).write handle (state.pending handle) = state := by
  simp [write]

theorem write_none_of_none (vacant : state.pending handle = none) :
    state.write handle none = state := by
  simp [write, ← vacant]

/-- **What a submission does**: it names no pending id and changes nothing; or its waiter is gone
and the slot is vacated; or it is delivered to the waiter it names. -/
theorem submit_cases (state : Slots) (handle : Nat) (id : Uuid) (value : Json) :
    ((state.pending handle).map PendingElicit.id ≠ some id ∧
      (state.submit handle id value).2 = state ∧
      ((state.submit handle id value).1 = .error ⟨"none"⟩ ∨
        (state.submit handle id value).1 = .error ⟨"stale"⟩)) ∨
    (∃ tx, state.pending handle = some ⟨id, tx⟩ ∧
      (state.submit handle id value).1 = .error ⟨"dispatcher receiver dropped"⟩ ∧
      (state.submit handle id value).2 = state.write handle none) ∨
    (∃ tx waiter, state.pending handle = some ⟨id, tx⟩ ∧ state.waiters[tx]? = some waiter ∧
      (state.submit handle id value).1 = .ok () ∧
      (state.submit handle id value).2 = { state.write handle none with
        waiters := state.waiters.set tx
          { waiter with received := waiter.received ++ [(id, value)] } }) := by
  cases there : state.pending handle with
  | none =>
    refine .inl ⟨by simp, ?_, ?_⟩
    · simp only [submit, there]
      exact write_none_of_none there
    · simp [submit, there]
  | some pending =>
    obtain ⟨own, tx⟩ := pending
    by_cases same : own = id
    · subst same
      cases found : state.waiters[tx]? with
      | none => exact .inr (.inl ⟨tx, rfl, by simp [submit, there, send, found]⟩)
      | some waiter =>
        cases listens : waiter.listening with
        | false => exact .inr (.inl ⟨tx, rfl, by simp [submit, there, send, found, listens]⟩)
        | true =>
          exact .inr (.inr ⟨tx, waiter, rfl, found, by simp [submit, there, send, found, listens]⟩)
    · refine .inl ⟨by simpa using same, ?_, ?_⟩
      · simp only [submit, there, ne_eq, same, not_false_eq_true, if_true]
        rw [← there]
        exact write_restored
      · simp [submit, there, same]

/-! ### Parked senders -/

/-- **A parked sender is the only one of its waiter, and the waiter has received nothing.** -/
structure Sound (state : Slots) : Prop where
  fresh : ∀ handle pending, state.pending handle = some pending →
    ∃ waiter, state.waiters[pending.tx]? = some waiter ∧ waiter.elicitationId = pending.id ∧
      waiter.received = []
  apart : ∀ handle other pending pending', state.pending handle = some pending →
    state.pending other = some pending' → pending.tx = pending'.tx → handle = other
  once : ∀ waiter ∈ state.waiters,
    waiter.received = [] ∨ ∃ value, waiter.received = [(waiter.elicitationId, value)]

theorem sound_empty : empty.Sound :=
  ⟨fun _ _ there => absurd there (by simp [empty]),
    fun _ _ _ _ there => absurd there (by simp [empty]),
    fun _ member => absurd member List.not_mem_nil⟩

theorem Sound.vacate (sound : state.Sound) (handle : Nat) : (state.write handle none).Sound := by
  have kept : ∀ other pending, (state.write handle none).pending other = some pending →
      state.pending other = some pending := by
    intro other pending there
    by_cases same : other = handle
    · rw [same, write_pending_self] at there
      exact absurd there (by simp)
    · rwa [write_pending_ne same] at there
  exact
    { fresh := fun other pending there => sound.fresh other pending (kept other pending there)
      apart := fun one two pending pending' there there' =>
        sound.apart one two pending pending' (kept one pending there) (kept two pending' there')
      once := sound.once }

theorem Sound.park (sound : state.Sound) (handle : Nat) (id : Uuid) :
    (state.park handle id).2.Sound := by
  have inside : ∀ other pending, state.pending other = some pending →
      pending.tx < state.waiters.length := by
    intro other pending there
    obtain ⟨waiter, found, -⟩ := sound.fresh other pending there
    exact (List.getElem?_eq_some_iff.mp found).1
  refine ⟨?_, ?_, ?_⟩
  · intro other pending there
    by_cases same : other = handle
    · rw [same] at there
      simp only [Slots.park, write_pending_self, Option.some.injEq] at there
      exact ⟨⟨id, [], true⟩, by simp [Slots.park, ← there], by rw [← there], rfl⟩
    · have there : state.pending other = some pending := by
        rw [← write_pending_ne same]
        exact there
      obtain ⟨waiter, found, own, nothing⟩ := sound.fresh other pending there
      refine ⟨waiter, ?_, own, nothing⟩
      rw [← found]
      exact List.getElem?_append_left (inside other pending there)
  · intro one two pending pending' there there' same
    by_cases first : one = handle <;> by_cases second : two = handle
    · rw [first, second]
    · rw [first] at there
      simp only [Slots.park, write_pending_self, Option.some.injEq] at there
      rw [Slots.park, write_pending_ne second] at there'
      have below := inside two pending' there'
      rw [← same, ← there] at below
      exact absurd below (Nat.lt_irrefl _)
    · rw [second] at there'
      simp only [Slots.park, write_pending_self, Option.some.injEq] at there'
      rw [Slots.park, write_pending_ne first] at there
      have below := inside one pending there
      rw [same, ← there'] at below
      exact absurd below (Nat.lt_irrefl _)
    · rw [Slots.park, write_pending_ne first] at there
      rw [Slots.park, write_pending_ne second] at there'
      exact sound.apart one two pending pending' there there' same
  · intro waiter member
    obtain old | new := List.mem_append.mp member
    · exact sound.once waiter old
    · rw [List.mem_singleton] at new
      exact .inl (by rw [new])

theorem Sound.change (sound : state.Sound) {tx : Nat}
    (found : state.waiters[tx]? = some waiter) (same : waiter'.elicitationId = waiter.elicitationId)
    (still : waiter'.received = waiter.received ∨
      (∀ handle pending, state.pending handle = some pending → pending.tx ≠ tx) ∧
        ∃ value, waiter'.received = [(waiter'.elicitationId, value)]) :
    Sound { state with waiters := state.waiters.set tx waiter' } := by
  have here : tx < state.waiters.length := (List.getElem?_eq_some_iff.mp found).1
  refine ⟨?_, sound.apart, ?_⟩
  · intro handle pending there
    obtain ⟨holder, held, own, nothing⟩ := sound.fresh handle pending there
    by_cases mine : pending.tx = tx
    · rw [mine, found, Option.some.injEq] at held
      subst held
      obtain unread | ⟨unheld, -⟩ := still
      · exact ⟨waiter', by rw [mine, List.getElem?_set_self here], same.trans own,
          unread.trans nothing⟩
      · exact absurd mine (unheld handle pending there)
    · exact ⟨holder, by rw [List.getElem?_set_ne (Ne.symm mine), held], own, nothing⟩
  · intro other member
    obtain old | rfl := List.mem_or_eq_of_mem_set member
    · exact sound.once other old
    · obtain unread | ⟨-, response⟩ := still
      · rw [unread, same]
        exact sound.once waiter (List.mem_of_getElem? found)
      · exact .inr response

theorem Sound.hangUp (sound : state.Sound) (tx : Nat) : (state.hangUp tx).Sound := by
  unfold Slots.hangUp
  split
  · rename_i waiter found
    exact sound.change found rfl (.inl rfl)
  · exact sound

theorem Sound.register (sound : state.Sound) : state.register.Sound := by
  unfold Slots.register
  split
  · exact sound
  · exact ⟨sound.fresh, sound.apart, sound.once⟩

theorem Sound.taken (sound : state.Sound)
    (there : state.pending handle = some ⟨id, tx⟩) (found : state.waiters[tx]? = some waiter) :
    waiter.elicitationId = id ∧ waiter.received = [] ∧
      ∀ other pending, (state.write handle none).pending other = some pending →
        pending.tx ≠ tx := by
  obtain ⟨holder, held, own, nothing⟩ := sound.fresh handle _ there
  rw [found, Option.some.injEq] at held
  subst held
  refine ⟨own, nothing, fun other pending there' same => ?_⟩
  by_cases one : other = handle
  · rw [one, write_pending_self] at there'
    exact absurd there' (by simp)
  · rw [write_pending_ne one] at there'
    exact one (sound.apart other handle pending _ there' there same)

theorem Sound.submit (sound : state.Sound) (handle : Nat) (id : Uuid) (value : Json) :
    (state.submit handle id value).2.Sound := by
  obtain ⟨-, same, -⟩ | ⟨tx, there, -, same⟩ | ⟨tx, waiter, there, found, -, same⟩ :=
    submit_cases state handle id value
  · rw [same]
    exact sound
  · rw [same]
    exact sound.vacate handle
  · obtain ⟨own, nothing, unheld⟩ := sound.taken there found
    rw [same]
    exact (sound.vacate handle).change found rfl
      (.inr ⟨unheld, value, by rw [nothing, own, List.nil_append]⟩)

/-- **Every locked step keeps the registry sound.** -/
theorem Sound.answer (sound : state.Sound) (query : SlotQuery) : (state.answer query).2.Sound := by
  cases query with
  | get => exact sound
  | register => exact sound.register
  | unregister => exact ⟨sound.fresh, sound.apart, sound.once⟩
  | park handle id => exact sound.park handle id
  | clear handle => exact sound.vacate handle
  | submit handle id value => exact sound.submit handle id value
  | dropReceiver tx => exact sound.hangUp tx

/-! ### Accounts -/

/-- **The waiters are those parked, and their responses the submissions accepted.** -/
structure Accounts (log : SlotLog) (state : Slots) : Prop where
  sound : state.Sound
  responses : (accepted log).Perm (state.waiters.flatMap Waiter.received)
  waits : parked log = state.waiters.map Waiter.elicitationId

theorem accepted_append (log : SlotLog) (label : Nat × SlotEvent) :
    accepted (log ++ [label]) = accepted log ++ (acceptedBy label.2).toList := by
  rw [accepted, List.filterMap_append, ← accepted]
  cases one : acceptedBy label.2 <;> simp [one]

theorem parked_append (log : SlotLog) (label : Nat × SlotEvent) :
    parked (log ++ [label]) = parked log ++ (parkedBy label.2).toList := by
  rw [parked, List.filterMap_append, ← parked]
  cases one : parkedBy label.2 <;> simp [one]

theorem flatMap_received_set {tx : Nat}
    (found : waiters[tx]? = some waiter) (response : Uuid × Json) :
    ((waiters.set tx { waiter with received := waiter.received ++ [response] }).flatMap
      Waiter.received).Perm (waiters.flatMap Waiter.received ++ [response]) := by
  induction waiters generalizing tx with
  | nil => exact absurd found (by simp)
  | cons first rest ih =>
    cases tx with
    | zero =>
      rw [List.getElem?_cons_zero, Option.some.injEq] at found
      subst found
      rw [List.set_cons_zero, List.flatMap_cons, List.flatMap_cons, List.append_assoc,
        List.append_assoc]
      exact List.perm_append_comm.append_left _
    | succ tx =>
      rw [List.set_cons_succ, List.flatMap_cons, List.flatMap_cons, List.append_assoc]
      exact (ih found).append_left _

theorem map_set_unchanged {α : Type} {f : Waiter → α} {tx : Nat}
    (found : waiters[tx]? = some waiter) (unchanged : f waiter' = f waiter) :
    (waiters.set tx waiter').map f = waiters.map f := by
  obtain ⟨here, got⟩ := List.getElem?_eq_some_iff.mp found
  rw [List.map_set, unchanged, ← got, ← List.getElem_map f (h := by simpa using here),
    List.set_getElem_self]

theorem flatMap_received_hangUp (state : Slots) (tx : Nat) :
    (state.hangUp tx).waiters.map Waiter.elicitationId =
        state.waiters.map Waiter.elicitationId ∧
      (state.hangUp tx).waiters.flatMap Waiter.received =
        state.waiters.flatMap Waiter.received := by
  unfold hangUp
  split
  · rename_i waiter found
    refine ⟨map_set_unchanged found rfl, ?_⟩
    rw [List.flatMap_def, List.flatMap_def]
    exact congrArg _ (map_set_unchanged found rfl)
  · exact ⟨rfl, rfl⟩

theorem register_waiters : state.register.waiters = state.waiters := by
  unfold register
  split <;> rfl

theorem submit_responses (state : Slots) (handle : Nat) (id : Uuid) (value : Json) :
    ((state.submit handle id value).2.waiters.flatMap Waiter.received).Perm
      (state.waiters.flatMap Waiter.received ++
        (acceptedBy ⟨.submit handle id value, (state.submit handle id value).1⟩).toList) := by
  obtain ⟨-, same, refused⟩ | ⟨tx, -, refused, same⟩ | ⟨tx, waiter, -, found, ok, same⟩ :=
    submit_cases state handle id value
  · obtain refused | refused := refused
    all_goals
      rw [same, refused]
      exact List.Perm.of_eq (List.append_nil _).symm
  · rw [same, refused]
    exact List.Perm.of_eq (List.append_nil _).symm
  · rw [same, ok]
    exact flatMap_received_set found (id, value)

theorem submit_waits (state : Slots) (handle : Nat) (id : Uuid) (value : Json) :
    (state.submit handle id value).2.waiters.map Waiter.elicitationId =
      state.waiters.map Waiter.elicitationId := by
  obtain ⟨-, same, -⟩ | ⟨tx, -, -, same⟩ | ⟨tx, waiter, -, found, -, same⟩ :=
    submit_cases state handle id value
  · rw [same]
  · rw [same]
    rfl
  · rw [same]
    exact map_set_unchanged found rfl

/-- **What a locked step adds to the responses.** -/
theorem answer_responses (state : Slots) (query : SlotQuery) :
    ((state.answer query).2.waiters.flatMap Waiter.received).Perm
      (state.waiters.flatMap Waiter.received ++
        (acceptedBy ⟨query, (state.answer query).1⟩).toList) := by
  cases query with
  | get => exact List.Perm.of_eq (List.append_nil _).symm
  | register =>
    show (state.register.waiters.flatMap Waiter.received).Perm _
    rw [register_waiters]
    exact List.Perm.of_eq (List.append_nil _).symm
  | unregister => exact List.Perm.of_eq (List.append_nil _).symm
  | park handle id =>
    show ((state.waiters ++ [(⟨id, [], true⟩ : Waiter)]).flatMap Waiter.received).Perm _
    rw [List.flatMap_append]
    exact List.Perm.refl _
  | clear handle => exact List.Perm.of_eq (List.append_nil _).symm
  | submit handle id value => exact submit_responses state handle id value
  | dropReceiver tx =>
    show ((state.hangUp tx).waiters.flatMap Waiter.received).Perm _
    rw [(flatMap_received_hangUp state tx).2]
    exact List.Perm.of_eq (List.append_nil _).symm

/-- **What a locked step adds to the waiters.** -/
theorem answer_waits (state : Slots) (query : SlotQuery) :
    (state.answer query).2.waiters.map Waiter.elicitationId =
      state.waiters.map Waiter.elicitationId ++
        (parkedBy ⟨query, (state.answer query).1⟩).toList := by
  cases query with
  | get => exact (List.append_nil _).symm
  | register =>
    show state.register.waiters.map Waiter.elicitationId = _
    rw [register_waiters]
    exact (List.append_nil _).symm
  | unregister => exact (List.append_nil _).symm
  | park handle id => exact List.map_append
  | clear handle => exact (List.append_nil _).symm
  | submit handle id value =>
    exact (submit_waits state handle id value).trans (List.append_nil _).symm
  | dropReceiver tx => exact (flatMap_received_hangUp state tx).1.trans (List.append_nil _).symm

/-- **The accounts are kept by every locked step.** -/
theorem Accounts.answer (accounts : Accounts log state) (thread : Nat)
    (query : SlotQuery) :
    Accounts (log ++ [(thread, ⟨query, (state.answer query).1⟩)]) (state.answer query).2 := by
  refine ⟨accounts.sound.answer query, ?_, ?_⟩
  · rw [accepted_append]
    exact (accounts.responses.append_right _).trans (answer_responses state query).symm
  · rw [parked_append, accounts.waits]
    exact (answer_waits state query).symm

/-- **Every run of the registry keeps its accounts.** -/
theorem accounts_of_run {threads : List (SlotM Unit)}
    (run : Follows registry.Step ⟨.empty, threads⟩ log last) : Accounts log last.shared := by
  have start : Accounts [] empty := ⟨sound_empty, .nil, rfl⟩
  exact run.preserves_log (fun log config => Accounts log config.shared)
    (fun {log config label config'} accounts step => by
      cases step with
      | @act shared shared' threads thread query next answer found answered =>
        have kept := accounts.answer thread query
        rw [show shared.answer query = (answer, shared') from answered] at kept
        exact kept)
    start

/-! ### The same slot again -/

theorem answer_pending (state : Slots) (query : SlotQuery)
    (absent : (state.pending handle).map PendingElicit.id ≠ some id)
    (unparked : query ≠ .park handle id) :
    ((state.answer query).2.pending handle).map PendingElicit.id ≠ some id := by
  have vacated : ∀ other, ((state.write other none).pending handle).map PendingElicit.id ≠
      some id := by
    intro other
    by_cases same : handle = other
    · rw [same, write_pending_self]
      simp
    · rw [write_pending_ne same]
      exact absent
  cases query with
  | get => exact absent
  | register =>
    have same : state.register.pending = state.pending := by
      unfold register
      split <;> rfl
    show (state.register.pending handle).map PendingElicit.id ≠ some id
    rw [same]
    exact absent
  | unregister => exact absent
  | park other id' =>
    show ((state.write other (some ⟨id', state.waiters.length⟩)).pending handle).map
      PendingElicit.id ≠ some id
    by_cases same : handle = other
    · subst same
      rw [write_pending_self]
      exact fun held => unparked (by rw [Option.map_some, Option.some.injEq] at held; rw [← held])
    · rw [write_pending_ne same]
      exact absent
  | clear other => exact vacated other
  | submit other id' value =>
    show (((state.submit other id' value).2.pending handle).map PendingElicit.id) ≠ some id
    obtain ⟨-, same, -⟩ | ⟨tx, -, -, same⟩ | ⟨tx, waiter, -, -, -, same⟩ :=
      submit_cases state other id' value
    · rw [same]
      exact absent
    · rw [same]
      exact vacated other
    · rw [same]
      exact vacated other
  | dropReceiver tx =>
    have same : (state.hangUp tx).pending = state.pending := by
      unfold hangUp
      split <;> rfl
    show ((state.hangUp tx).pending handle).map PendingElicit.id ≠ some id
    rw [same]
    exact absent

theorem submit_ok {shared shared' : Slots}
    (answered : registry.answers shared ⟨.submit handle id value, .ok ()⟩ shared') :
    (shared.pending handle).map PendingElicit.id = some id ∧ shared'.pending handle = none := by
  have computed : shared.submit handle id value = (.ok (), shared') := answered
  obtain ⟨-, -, refused⟩ | ⟨tx, -, refused, -⟩ | ⟨tx, waiter, there, -, -, same⟩ :=
    submit_cases shared handle id value
  · rw [computed] at refused
    obtain refused | refused := refused <;> exact absurd refused (by simp)
  · rw [computed] at refused
    exact absurd refused (by simp)
  · rw [computed] at same
    refine ⟨by rw [there]; rfl, ?_⟩
    rw [show shared' = _ from same]
    exact write_pending_self

theorem pending_absent {config : Config slotPorts AppError Unit Slots}
    (run : Follows registry.Step config log last)
    (unparked : ¬ ∃ label ∈ log, ∃ tx, label.2 = ⟨.park handle id, tx⟩)
    (absent : (config.shared.pending handle).map PendingElicit.id ≠ some id) :
    (last.shared.pending handle).map PendingElicit.id ≠ some id := by
  induction run with
  | nil => exact absent
  | @cons config middle last label log step rest ih =>
    refine ih (fun ⟨label', member, parks⟩ => unparked
      ⟨label', List.mem_cons_of_mem _ member, parks⟩) ?_
    cases step with
    | @act shared shared' threads thread query next answer found answered =>
      have kept := answer_pending shared query absent (fun parks => unparked
        ⟨_, List.mem_cons_self, by subst parks; exact ⟨answer, rfl⟩⟩)
      rw [show shared.answer query = (answer, shared') from answered] at kept
      exact kept

theorem count_received_le
    (once : ∀ waiter ∈ waiters,
      waiter.received = [] ∨ ∃ value, waiter.received = [(waiter.elicitationId, value)])
    (id : Uuid) : ((waiters.flatMap Waiter.received).map Prod.fst).count id ≤
      (waiters.map Waiter.elicitationId).count id := by
  induction waiters with
  | nil => exact Nat.le_refl _
  | cons waiter rest ih =>
    have others := ih fun other member => once other (List.mem_cons_of_mem _ member)
    rw [List.flatMap_cons, List.map_append, List.count_append, List.map_cons, List.count_cons]
    obtain nothing | ⟨value, one⟩ := once waiter List.mem_cons_self
    · rw [nothing, List.map_nil, List.count_nil]
      omega
    · rw [one, List.map_cons, List.map_nil, List.count_cons, List.count_nil]
      dsimp only
      omega

end Slots

open Slots in
/-- **The slot's protocol**, in every interleaving of dispatchers, submissions and the run's
lifecycle: a response reaches one waiter, the one it names; a submission of an id that is not
pending changes nothing; an id that was delivered is accepted again only after it was parked
again. -/
theorem slots_honoured {threads : List (SlotM Unit)} {log : SlotLog}
    {last : Config slotPorts AppError Unit Slots}
    (run : Follows registry.Step ⟨.empty, threads⟩ log last) : Honoured log last.shared := by
  have accounts := accounts_of_run run
  have counted : ∀ id, ((accepted log).map Prod.fst).count id ≤ (parked log).count id := by
    intro id
    rw [(accounts.responses.map Prod.fst).count_eq id, accounts.waits]
    exact count_received_le accounts.sound.once id
  refine ⟨accounts.sound.once, accounts.responses, ?_, ?_, counted, ?_⟩
  · intro shared shared' handle id value answer answered absent
    have computed : shared.submit handle id value = (answer, shared') := answered
    obtain ⟨-, same, refused⟩ | ⟨tx, there, -, -⟩ | ⟨tx, waiter, there, -, -, -⟩ :=
      submit_cases shared handle id value
    · rw [computed] at same refused
      exact ⟨same, refused⟩
    · exact absurd (by rw [there]; rfl) absent
    · exact absurd (by rw [there]; rfl) absent
  · intro before between after first second handle id value value' split
    by_contra unparked
    rw [split] at run
    obtain ⟨config, -, run⟩ := Follows.append_iff.mp run
    cases run with
    | cons delivered run =>
      obtain ⟨config', between', run⟩ := Follows.append_iff.mp run
      cases run with
      | cons again run =>
        cases delivered with
        | act _ answered =>
          cases again with
          | act _ answered' =>
            have vacant := (submit_ok answered).2
            exact pending_absent between' unparked (by simp [vacant]) (submit_ok answered').1
  · intro distinct
    rw [List.nodup_iff_count_le_one] at distinct ⊢
    exact fun id => (counted id).trans (distinct id)

/-- A dispatcher waits, and two submissions answer: the second finds the slot vacant. -/
theorem slots_honoured_twice : ∃ log last,
    Follows registry.Step
      ⟨.empty, [askSlot .register, awaitElicitation 7 true, submitElicitationResponse 7 .null,
        submitElicitationResponse 7 (.bool true)]⟩ log last ∧
      parked log = [7] ∧ (accepted log).length = 1 ∧ Honoured log last.shared := by
  have sound : ∀ (state : Slots) query,
      registry.answers state ⟨query, (state.answer query).1⟩ (state.answer query).2 :=
    fun _ _ => rfl
  have run := registry.follows_execute sound [0, 1, 1, 2, 3, 2, 3, 1]
    ⟨.empty, [askSlot .register, awaitElicitation 7 true, submitElicitationResponse 7 .null,
      submitElicitationResponse 7 (.bool true)]⟩
  exact ⟨_, _, run, by decide, by decide, slots_honoured run⟩

end Ziee.Workflow.Elicit
