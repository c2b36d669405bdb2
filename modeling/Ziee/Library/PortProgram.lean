/-
**Programs that act only through ports.**

A program over an interface is a tree: it returns, it fails, or it asks one query and goes on with
the answer. Nothing is said about who answers, so one tree stands for the program in every
environment.

* `Runs program trace outcome` — one finished run: the questions asked, in order, with the answers
  they got, and what the program returned. Quantifying over the runs is quantifying over every
  behaviour of the environment.
* `Meets program post` — every run satisfies `post`.
* `Keeps property program` — every trace has a property that a concatenation of traces inherits;
  `Keeps.bind` and its companions follow the program.
* `RunsPartly program events` — a run begins with these events; it may have been cut there.
* `Follows step state trace state'` — the answers in `trace` are the ones a stateful environment
  gives: `step` says, label by label, which answers it may give and how its state changes.
-/

import Mathlib.Data.List.Basic

namespace PortProgram

structure Interface where
  Query : Type
  Answer : Query → Type

inductive Program (I : Interface) (ε α : Type) : Type
  | pure (value : α)
  | fail (error : ε)
  | ask (query : I.Query) (next : I.Answer query → Program I ε α)

abbrev Event (I : Interface) : Type := Σ query : I.Query, I.Answer query

variable {I : Interface} {ε α β : Type}

namespace Program

/-- Sequencing: the second program starts from the value of the first. -/
def bind : Program I ε α → (α → Program I ε β) → Program I ε β
  | .pure value, rest => rest value
  | .fail error, _ => .fail error
  | .ask query next, rest => .ask query fun answer => (next answer).bind rest

instance : Monad (Program I ε) where
  pure := .pure
  bind := bind

def perform (query : I.Query) : Program I ε (I.Answer query) := .ask query .pure

def ofExcept : Except ε α → Program I ε α
  | .ok value => .pure value
  | .error error => .fail error

/-- Ask one query whose answer may be a failure, and fail with it (the `?` operator). -/
def attempt (query : I.Query) (decode : I.Answer query → Except ε α) : Program I ε α :=
  .ask query fun answer => ofExcept (decode answer)

end Program

open Program

/-- **One finished run of a program**: the events in order and the outcome. -/
inductive Runs : Program I ε α → List (Event I) → Except ε α → Prop
  | pure (value : α) : Runs (.pure value) [] (.ok value)
  | fail (error : ε) : Runs (.fail error) [] (.error error)
  | ask (query : I.Query) (next : I.Answer query → Program I ε α) (answer : I.Answer query)
      {trace : List (Event I)} {outcome : Except ε α} :
      Runs (next answer) trace outcome → Runs (.ask query next) (⟨query, answer⟩ :: trace) outcome

section Inversion

variable {trace : List (Event I)}

@[simp] theorem runs_pure_iff {value : α} {outcome : Except ε α} :
    Runs (Pure.pure value : Program I ε α) trace outcome ↔ trace = [] ∧ outcome = .ok value := by
  constructor
  · intro run
    cases run
    exact ⟨rfl, rfl⟩
  · rintro ⟨rfl, rfl⟩
    exact .pure value

@[simp] theorem runs_fail_iff {error : ε} {outcome : Except ε α} :
    Runs (Program.fail error : Program I ε α) trace outcome ↔
      trace = [] ∧ outcome = .error error := by
  constructor
  · intro run
    cases run
    exact ⟨rfl, rfl⟩
  · rintro ⟨rfl, rfl⟩
    exact .fail error

@[simp] theorem runs_perform_iff {query : I.Query} {outcome : Except ε (I.Answer query)} :
    Runs (perform query : Program I ε _) trace outcome ↔
      ∃ answer, trace = [⟨query, answer⟩] ∧ outcome = .ok answer := by
  constructor
  · intro run
    cases run with
    | ask _ _ answer rest =>
      cases rest
      exact ⟨answer, rfl, rfl⟩
  · rintro ⟨answer, rfl, rfl⟩
    exact .ask query _ answer (.pure answer)

variable {outcome : Except ε α} {query : I.Query} {decode : I.Answer query → Except ε α}
  {first program second : Program I ε α} {rest : α → Program I ε β} {events : List (Event I)}

theorem runs_ofExcept_iff {result : Except ε α} :
    Runs (ofExcept result : Program I ε α) trace outcome ↔ trace = [] ∧ outcome = result := by
  cases result with
  | ok value => exact runs_pure_iff
  | error error => exact runs_fail_iff

theorem runs_attempt_iff : Runs (attempt query decode) trace outcome ↔
      ∃ answer, trace = [⟨query, answer⟩] ∧ outcome = decode answer := by
  constructor
  · intro run
    cases run with
    | ask _ _ answer rest =>
      obtain ⟨rfl, same⟩ := runs_ofExcept_iff.mp rest
      exact ⟨answer, rfl, same⟩
  · rintro ⟨answer, rfl, rfl⟩
    exact .ask query _ answer (runs_ofExcept_iff.mpr ⟨rfl, rfl⟩)

/-- **A run of a sequence** is a failing run of the first part, or a run of the first part followed
by a run of the rest. -/
theorem runs_bind_iff {outcome : Except ε β} : Runs (first >>= rest) trace outcome ↔
      (∃ error, outcome = .error error ∧ Runs first trace (.error error)) ∨
        ∃ value before after, trace = before ++ after ∧ Runs first before (.ok value) ∧
          Runs (rest value) after outcome := by
  constructor
  · intro run
    induction first generalizing trace with
    | pure value => exact Or.inr ⟨value, [], trace, rfl, .pure value, run⟩
    | fail error =>
      cases run
      exact Or.inl ⟨error, rfl, .fail error⟩
    | ask query next ih =>
      cases run with
      | ask _ _ answer tail =>
        rcases ih answer tail with ⟨error, rfl, failed⟩ | ⟨value, before, after, rfl, head, last⟩
        · exact Or.inl ⟨error, rfl, .ask query next answer failed⟩
        · exact Or.inr ⟨value, ⟨query, answer⟩ :: before, after, rfl,
            .ask query next answer head, last⟩
  · rintro (⟨error, rfl, failed⟩ | ⟨value, before, after, rfl, head, last⟩)
    · induction first generalizing trace with
      | pure value => cases failed
      | fail error' =>
        cases failed
        exact .fail error
      | ask query next ih =>
        cases failed with
        | ask _ _ answer tail => exact .ask query _ answer (ih answer tail)
    · induction first generalizing before with
      | pure value' =>
        cases head
        exact last
      | fail error => cases head
      | ask query next ih =>
        cases head with
        | ask _ _ answer tail => exact .ask query _ answer (ih answer _ tail)

theorem runs_bind_ok_iff {value : β} : Runs (first >>= rest) trace (.ok value) ↔
      ∃ middle before after, trace = before ++ after ∧ Runs first before (.ok middle) ∧
        Runs (rest middle) after (.ok value) := by
  rw [runs_bind_iff]
  constructor
  · rintro (⟨error, impossible, -⟩ | split)
    · cases impossible
    · exact split
  · exact Or.inr

theorem runs_perform_bind_iff {rest : I.Answer query → Program I ε β}
    {outcome : Except ε β} : Runs (perform query >>= rest) trace outcome ↔
      ∃ answer tail, trace = ⟨query, answer⟩ :: tail ∧ Runs (rest answer) tail outcome := by
  constructor
  · intro run
    cases run with
    | ask _ _ answer tail => exact ⟨answer, _, rfl, tail⟩
  · rintro ⟨answer, tail, rfl, run⟩
    exact .ask query _ answer run

theorem runs_attempt_bind_iff {outcome : Except ε β} :
    Runs (attempt query decode >>= rest) trace outcome ↔
      (∃ answer error, decode answer = .error error ∧ trace = [⟨query, answer⟩] ∧
          outcome = .error error) ∨
        ∃ answer middle tail, decode answer = .ok middle ∧ trace = ⟨query, answer⟩ :: tail ∧
          Runs (rest middle) tail outcome := by
  rw [runs_bind_iff]
  constructor
  · rintro (⟨error, rfl, failed⟩ | ⟨middle, before, after, rfl, head, last⟩)
    · obtain ⟨answer, rfl, same⟩ := runs_attempt_iff.mp failed
      exact Or.inl ⟨answer, error, same.symm, rfl, rfl⟩
    · obtain ⟨answer, rfl, same⟩ := runs_attempt_iff.mp head
      exact Or.inr ⟨answer, middle, after, same.symm, rfl, last⟩
  · rintro (⟨answer, error, same, rfl, rfl⟩ | ⟨answer, middle, tail, same, rfl, last⟩)
    · exact Or.inl ⟨error, rfl, runs_attempt_iff.mpr ⟨answer, rfl, same.symm⟩⟩
    · exact Or.inr ⟨middle, [⟨query, answer⟩], tail, rfl,
        runs_attempt_iff.mpr ⟨answer, rfl, same.symm⟩, last⟩

theorem runs_attempt_bind_ok_iff {value : β} :
    Runs (attempt query decode >>= rest) trace (.ok value) ↔
      ∃ answer middle tail, decode answer = .ok middle ∧ trace = ⟨query, answer⟩ :: tail ∧
        Runs (rest middle) tail (.ok value) := by
  rw [runs_attempt_bind_iff]
  constructor
  · rintro (⟨_, _, -, -, impossible⟩ | split)
    · cases impossible
    · exact split
  · exact Or.inr

end Inversion

/-! ### A failure handed on as a value -/

/-- The program with its failure turned into a result (a `match` on the awaited `Result`). -/
def Program.caught : Program I ε α → Program I ε (Except ε α)
  | .pure value => .pure (.ok value)
  | .fail error => .pure (.error error)
  | .ask query next => .ask query fun answer => (next answer).caught

theorem runs_caught_iff : ∀ {trace : List (Event I)} {outcome : Except ε (Except ε α)},
      Runs program.caught trace outcome ↔
        ∃ result, outcome = .ok result ∧ Runs program trace result := by
  induction program with
  | pure value =>
    intro trace outcome
    constructor
    · intro run
      cases run
      exact ⟨Except.ok value, rfl, .pure value⟩
    · rintro ⟨result, rfl, run⟩
      cases run
      exact .pure (Except.ok value)
  | fail error =>
    intro trace outcome
    constructor
    · intro run
      cases run
      exact ⟨Except.error error, rfl, .fail error⟩
    · rintro ⟨result, rfl, run⟩
      cases run
      exact .pure (Except.error error)
  | ask query next ih =>
    intro trace outcome
    constructor
    · intro run
      cases run with
      | ask _ _ answer tail =>
        obtain ⟨result, rfl, inner⟩ := (ih answer).mp tail
        exact ⟨result, rfl, .ask query next answer inner⟩
    · rintro ⟨result, rfl, run⟩
      cases run with
      | ask _ _ answer tail => exact .ask query _ answer ((ih answer).mpr ⟨result, rfl, tail⟩)

/-! ### Simulation by a given environment -/

/-- Run a program against an environment that answers from the events so far. -/
def Program.simulate (answer : List (Event I) → ∀ query, I.Answer query) :
    List (Event I) → Program I ε α → List (Event I) × Except ε α
  | _, .pure value => ([], .ok value)
  | _, .fail error => ([], .error error)
  | past, .ask query next =>
    let event : Event I := ⟨query, answer past query⟩
    let rest := (next (answer past query)).simulate answer (past ++ [event])
    (event :: rest.1, rest.2)

theorem runs_simulate (answer : List (Event I) → ∀ query, I.Answer query)
    (program : Program I ε α) :
    ∀ past, Runs program (program.simulate answer past).1 (program.simulate answer past).2 := by
  induction program with
  | pure value => exact fun _ => .pure value
  | fail error => exact fun _ => .fail error
  | ask query next ih => exact fun past => .ask query next _ (ih _ _)

theorem simulate_answer (answer : List (Event I) → ∀ query, I.Answer query)
    (program : Program I ε α) :
    ∀ {past before after : List (Event I)} {query : I.Query} {answer' : I.Answer query},
      (program.simulate answer past).1 = before ++ ⟨query, answer'⟩ :: after →
      answer' = answer (past ++ before) query := by
  induction program with
  | pure | fail =>
    intro past before after query answer' split
    exact absurd split (by simp [Program.simulate])
  | ask query' next ih =>
    intro past before after query answer' split
    cases before with
    | nil =>
      obtain ⟨same, -⟩ := List.cons.inj split
      cases same
      rw [List.append_nil]
    | cons event before =>
      obtain ⟨rfl, rest⟩ := List.cons.inj split
      rw [ih _ rest, List.append_assoc]
      rfl

theorem exists_runs (answer : ∀ query, I.Answer query) (program : Program I ε α) :
    ∃ trace outcome, Runs program trace outcome :=
  ⟨_, _, runs_simulate (fun _ => answer) program []⟩

/-! ### Runs that may have been cut -/

/-- **A run begins with these events**: it may have been cut after the last of them. -/
def RunsPartly (program : Program I ε α) (events : List (Event I)) : Prop :=
  ∃ rest outcome, Runs program (events ++ rest) outcome

theorem Runs.partly {trace : List (Event I)}
    (run : Runs program trace outcome) : RunsPartly program trace :=
  ⟨[], outcome, (List.append_nil trace).symm ▸ run⟩

theorem RunsPartly.of_pure {value : α}
    (run : RunsPartly (Pure.pure value : Program I ε α) events) : events = [] := by
  obtain ⟨rest, outcome, whole⟩ := run
  exact (List.append_eq_nil_iff.mp (runs_pure_iff.mp whole).1).1

theorem RunsPartly.of_perform_bind {rest : I.Answer query → Program I ε β}
    (run : RunsPartly (perform query >>= rest) events) :
    events = [] ∨ ∃ answer tail, events = ⟨query, answer⟩ :: tail ∧
      RunsPartly (rest answer) tail := by
  obtain ⟨more, outcome, whole⟩ := run
  cases events with
  | nil => exact Or.inl rfl
  | cons event tail =>
    obtain ⟨answer, later, split, run⟩ := runs_perform_bind_iff.mp whole
    obtain ⟨rfl, rfl⟩ := List.cons.inj split
    exact Or.inr ⟨answer, tail, rfl, more, outcome, run⟩

/-! ### Properties of every run -/

/-- **Every run of the program satisfies the postcondition.** -/
def Meets (program : Program I ε α) (post : List (Event I) → Except ε α → Prop) : Prop :=
  ∀ trace outcome, Runs program trace outcome → post trace outcome

theorem Meets.ite {condition : Prop} [Decidable condition]
    {post : List (Event I) → Except ε α → Prop} (yes : Meets first post) (no : Meets second post) :
    Meets (if condition then first else second) post := by
  split
  · exact yes
  · exact no

/-- A trace property that the empty trace has and concatenation preserves. -/
structure Closed (property : List (Event I) → Prop) : Prop where
  nil : property []
  append : ∀ {before after}, property before → property after → property (before ++ after)

def Keeps (property : List (Event I) → Prop) (program : Program I ε α) : Prop :=
  Meets program fun trace _ => property trace

namespace Keeps

variable {property : List (Event I) → Prop} (closed : Closed property)
include closed

theorem pure (value : α) : Keeps property (Pure.pure value : Program I ε α) := by
  intro trace outcome run
  obtain ⟨rfl, -⟩ := runs_pure_iff.mp run
  exact closed.nil

theorem fail (error : ε) : Keeps property (Program.fail error : Program I ε α) := by
  intro trace outcome run
  obtain ⟨rfl, -⟩ := runs_fail_iff.mp run
  exact closed.nil

theorem bind (head : Keeps property first)
    (tail : ∀ value, Keeps property (rest value)) : Keeps property (first >>= rest) := by
  intro trace outcome run
  rcases runs_bind_iff.mp run with ⟨error, -, failed⟩ | ⟨value, before, after, rfl, one, two⟩
  · exact head _ _ failed
  · exact closed.append (head _ _ one) (tail value _ _ two)

omit closed in
theorem perform (single : ∀ answer, property [⟨query, answer⟩]) :
    Keeps property (Program.perform query : Program I ε _) := by
  intro trace outcome run
  obtain ⟨answer, rfl, -⟩ := runs_perform_iff.mp run
  exact single answer

omit closed in
theorem attempt (single : ∀ answer, property [⟨query, answer⟩]) :
    Keeps property (Program.attempt query decode) := by
  intro trace outcome run
  obtain ⟨answer, rfl, -⟩ := runs_attempt_iff.mp run
  exact single answer

omit closed in
theorem ite {condition : Prop} [Decidable condition]
    (yes : Keeps property first) (no : Keeps property second) :
    Keeps property (if condition then first else second) := by
  split
  · exact yes
  · exact no

omit closed in
theorem mono {property' : List (Event I) → Prop}
    (keeps : Keeps property program) (wider : ∀ trace, property trace → property' trace) :
    Keeps property' program := fun trace outcome run => wider trace (keeps trace outcome run)

end Keeps

/-! ### Environments with a state -/

/-- **The trace is one a stateful environment produces**: `step state label state'` says that in
`state` the environment may do what the label says, and is then in `state'`. The labels are the
events of one program, or those of several with the program's name. -/
inductive Follows {σ L : Type} (step : σ → L → σ → Prop) : σ → List L → σ → Prop
  | nil (state : σ) : Follows step state [] state
  | cons {state middle last : σ} {label : L} {trace : List L} :
      step state label middle → Follows step middle trace last →
      Follows step state (label :: trace) last

namespace Follows

variable {σ L : Type} {step : σ → L → σ → Prop} {state last : σ}

theorem append_iff {before after : List L} : Follows step state (before ++ after) last ↔
      ∃ middle, Follows step state before middle ∧ Follows step middle after last := by
  induction before generalizing state with
  | nil =>
    constructor
    · exact fun follows => ⟨state, .nil state, follows⟩
    · rintro ⟨middle, head, tail⟩
      cases head
      exact tail
  | cons label before ih =>
    constructor
    · intro follows
      cases follows with
      | cons here rest =>
        obtain ⟨middle, head, tail⟩ := ih.mp rest
        exact ⟨middle, .cons here head, tail⟩
    · rintro ⟨middle, head, tail⟩
      cases head with
      | cons here rest => exact .cons here (ih.mpr ⟨middle, rest, tail⟩)

theorem singleton_iff {label : L} : Follows step state [label] last ↔ step state label last := by
  constructor
  · intro follows
    cases follows with
    | cons here rest =>
      cases rest
      exact here
  · exact fun here => .cons here (.nil last)

theorem preserves (invariant : σ → Prop)
    (one : ∀ {state label state'}, invariant state → step state label state' → invariant state')
    {trace : List L} (follows : Follows step state trace last) (start : invariant state) :
    invariant last := by
  induction follows with
  | nil => exact start
  | cons here _ ih => exact ih (one start here)

theorem preserves_log (invariant : List L → σ → Prop)
    (one : ∀ {log state label state'}, invariant log state → step state label state' →
      invariant (log ++ [label]) state') {trace : List L} (follows : Follows step state trace last)
    {log : List L} (start : invariant log state) : invariant (log ++ trace) last := by
  induction follows generalizing log with
  | nil => rwa [List.append_nil]
  | cons here _ ih =>
    rw [List.append_cons]
    exact ih (one start here)

theorem unique {trace : List L} {last' : σ} (first : Follows step state trace last)
    (second : Follows step state trace last') (functional : ∀ state label one two,
      step state label one → step state label two → one = two) : last = last' := by
  induction first with
  | nil =>
    cases second
    rfl
  | cons here _ ih =>
    cases second with
    | cons here' rest => exact ih (functional _ _ _ _ here here' ▸ rest)

theorem mono {step' : σ → L → σ → Prop}
    (imp : ∀ {state label state'}, step state label state' → step' state label state')
    {trace : List L} (follows : Follows step state trace last) :
      Follows step' state trace last := by
  induction follows with
  | nil state => exact .nil state
  | cons here _ ih => exact .cons (imp here) ih

end Follows

def Program.execute {σ : Type} (answer : σ → ∀ query, I.Answer query × σ) :
    σ → Program I ε α → List (Event I) × Except ε α × σ
  | state, .pure value => ([], .ok value, state)
  | state, .fail error => ([], .error error, state)
  | state, .ask query next =>
    let answered := answer state query
    let rest := (next answered.1).execute answer answered.2
    (⟨query, answered.1⟩ :: rest.1, rest.2)

section Execute

variable {σ : Type} {answer : σ → ∀ query, I.Answer query × σ}

theorem runs_execute (program : Program I ε α) :
    ∀ state, Runs program (program.execute answer state).1 (program.execute answer state).2.1 := by
  induction program with
  | pure value => exact fun _ => .pure value
  | fail error => exact fun _ => .fail error
  | ask query next ih => exact fun state => .ask query next _ (ih _ _)

theorem follows_execute {step : σ → Event I → σ → Prop}
    (answers : ∀ state query, step state ⟨query, (answer state query).1⟩ (answer state query).2)
    (program : Program I ε α) : ∀ state, Follows step state (program.execute answer state).1
      (program.execute answer state).2.2 := by
  induction program with
  | pure | fail => exact fun state => .nil state
  | ask query next ih => exact fun state => .cons (answers state query) (ih _ _)

end Execute

end PortProgram
