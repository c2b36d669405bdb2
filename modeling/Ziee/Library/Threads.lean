/-
**Threads over a shared state.**

A machine answers the queries of any number of programs from one shared state, and a query may start
further programs. A step is one query of one thread; the order of the steps is the scheduler's, so a
run of the machine is one interleaving of the threads.

* `Machine.Step`, `Follows (machine.Step)` — one step, and an interleaving.
* `Machine.execute` — the interleaving a list of thread numbers produces, computed.
-/

import Ziee.Library.PortProgram

namespace Threads

open PortProgram

variable {I : Interface} {ε α σ : Type}

/-- How a shared state answers, and which programs a query starts. -/
structure Machine (I : Interface) (ε α σ : Type) where
  answers : σ → Event I → σ → Prop
  forks : Event I → List (Program I ε α)

/-- The shared state and the threads; a thread that returned or failed stays in its place. -/
structure Config (I : Interface) (ε α σ : Type) where
  shared : σ
  threads : List (Program I ε α)

variable {machine : Machine I ε α σ} {config config' last : Config I ε α σ}

/-- **One step**: a thread's next query is answered. -/
inductive Machine.Step (machine : Machine I ε α σ) :
    Config I ε α σ → Nat × Event I → Config I ε α σ → Prop
  | act {shared shared' : σ} {threads : List (Program I ε α)} {thread : Nat} {query : I.Query}
      {next : I.Answer query → Program I ε α} {answer : I.Answer query} :
      threads[thread]? = some (.ask query next) → machine.answers shared ⟨query, answer⟩ shared' →
      Machine.Step machine ⟨shared, threads⟩ (thread, ⟨query, answer⟩)
        ⟨shared', threads.set thread (next answer) ++ machine.forks ⟨query, answer⟩⟩

/-- The steps that meet a condition on the configuration before them. -/
def Machine.Guarded (machine : Machine I ε α σ)
    (guard : Config I ε α σ → Nat × Event I → Prop) (config : Config I ε α σ)
    (label : Nat × Event I) (config' : Config I ε α σ) : Prop :=
  guard config label ∧ machine.Step config label config'

variable {thread : Nat} {log : List (Nat × Event I)} {first : Program I ε β}
  {rest : β → Program I ε α} {result : Except ε α} {second : Program I ε α} {property : β → Prop}
  {label : Nat × Event I}

theorem threads_after {threads forks : List (Program I ε α)} {index : Nat}
    {next other : Program I ε α} (here : thread < threads.length)
    (found : (threads.set thread next ++ forks)[index]? = some other) :
    (index = thread ∧ other = next) ∨ (index ≠ thread ∧ threads[index]? = some other) ∨
      (threads.length ≤ index ∧ forks[index - threads.length]? = some other) := by
  by_cases old : index < threads.length
  · rw [List.getElem?_append_left (by simpa using old), List.getElem?_set] at found
    by_cases same : thread = index
    · rw [if_pos same, if_pos here] at found
      exact Or.inl ⟨same.symm, (Option.some.inj found).symm⟩
    · rw [if_neg same] at found
      exact Or.inr (Or.inl ⟨Ne.symm same, found⟩)
  · rw [List.getElem?_append_right (by simpa using old), List.length_set] at found
    exact Or.inr (Or.inr ⟨Nat.le_of_not_lt old, found⟩)

theorem countP_set_balance {α : Type} (counts : α → Bool) {before : α} (after : α) :
    ∀ {threads : List α} {thread : Nat}, threads[thread]? = some before →
      (threads.set thread after).countP counts + (counts before).toNat =
        threads.countP counts + (counts after).toNat
  | first :: rest, 0, found => by
    obtain rfl := Option.some.inj found
    rw [List.set_cons_zero, List.countP_cons, List.countP_cons]
    cases counts first <;> cases counts after <;> simp
  | first :: rest, thread + 1, found => by
    have others := @countP_set_balance α counts before after rest thread found
    rw [List.set_cons_succ, List.countP_cons, List.countP_cons]
    omega

theorem mem_set_or {α : Type} {threads : List α} {before other : α} (after : α)
    (found : threads[thread]? = some before) (member : other ∈ threads) :
    other = before ∨ other ∈ threads.set thread after := by
  obtain ⟨index, here⟩ := List.getElem?_of_mem member
  by_cases same : thread = index
  · rw [same, here] at found
    exact Or.inl (Option.some.inj found)
  · have still : (threads.set thread after)[index]? = some other := by
      rw [List.getElem?_set_ne same]
      exact here
    exact Or.inr (List.mem_of_getElem? still)

/-- **Where a label of an interleaving is answered.** -/
theorem Machine.answered_at {event : Event I}
    (follows : Follows machine.Step config log last) (member : (thread, event) ∈ log) :
    ∃ before middle middle' after, log = before ++ (thread, event) :: after ∧
      Follows machine.Step config before middle ∧
      machine.answers middle.shared event middle'.shared ∧
      Follows machine.Step middle' after last := by
  obtain ⟨before, after, rfl⟩ := List.append_of_mem member
  obtain ⟨middle, head, tail⟩ := Follows.append_iff.mp follows
  cases tail with
  | @cons _ middle' _ _ _ step rest =>
    refine ⟨before, middle, middle', after, rfl, head, ?_, rest⟩
    cases step with
    | act _ answers => exact answers

/-- **What every answer preserves, an interleaving of any programs preserves.** -/
theorem Machine.shared_preserves (invariant : σ → Prop)
    (one : ∀ {shared event shared'}, invariant shared → machine.answers shared event shared' →
      invariant shared')
    (follows : Follows machine.Step config log last) (start : invariant config.shared) :
    invariant last.shared := by
  have whole := follows.preserves (fun config => invariant config.shared)
    (fun {_ _ _} holds step => by
      cases step with
      | act _ answered => exact one holds answered) start
  exact whole

/-- **A property that residuals inherit and started programs have, all threads have.** -/
theorem Machine.threads_preserve {kind : Program I ε α → Prop}
    (residual : ∀ {query : I.Query} {next : I.Answer query → Program I ε α},
      kind (.ask query next) → ∀ answer, kind (next answer))
    (started : ∀ event, ∀ program ∈ machine.forks event, kind program)
    (follows : Follows machine.Step config log last)
    (start : ∀ program ∈ config.threads, kind program) : ∀ program ∈ last.threads,
      kind program := by
  have whole := follows.preserves (fun config => ∀ program ∈ config.threads, kind program)
    (fun {_ _ _} holds step => by
      cases step with
      | @act _ _ threads thread query next answer found _ =>
        intro program member
        rcases List.mem_append.mp member with member | member
        · rcases List.mem_or_eq_of_mem_set member with member | rfl
          · exact holds program member
          · exact residual (holds _ (List.mem_of_getElem? found)) answer
        · exact started _ program member) start
  exact whole

/-! ### Phases of a thread -/

def AsksOnly (allowed : I.Query → Prop) : Program I ε α → Prop
  | .pure _ => True
  | .fail _ => True
  | .ask query next => allowed query ∧ ∀ answer, AsksOnly allowed (next answer)

/-- **The program asks only these queries until it asks a marked one**, and is then in the next
phase; it may also end before. -/
def Until (allowed marked : I.Query → Prop) (after : Program I ε α → Prop) : Program I ε α → Prop
  | .pure _ => True
  | .fail _ => True
  | .ask query next => (marked query ∧ ∀ answer, after (next answer)) ∨
      (allowed query ∧ ∀ answer, Until allowed marked after (next answer))

section Phases

variable {allowed marked : I.Query → Prop} {after : Program I ε α → Prop} {β : Type}

theorem AsksOnly.of_mem {program : Program I ε α} (asks : AsksOnly allowed program)
    {trace : List (Event I)} {outcome : Except ε α} (run : Runs program trace outcome)
    {event : Event I} (member : event ∈ trace) : allowed event.1 := by
  induction run with
  | pure | fail => cases member
  | ask query next answer _ ih =>
    rcases List.mem_cons.mp member with rfl | member
    · exact asks.1
    · exact ih (asks.2 answer) member

theorem AsksOnly.bind
    (head : AsksOnly allowed first) (tail : ∀ value, AsksOnly allowed (rest value)) :
    AsksOnly allowed (first >>= rest) := by
  induction first with
  | pure value => exact tail value
  | fail error => trivial
  | ask query next ih => exact ⟨head.1, fun answer => ih answer (head.2 answer)⟩

theorem AsksOnly.perform {query : I.Query} (single : allowed query) :
    AsksOnly allowed (Program.perform query : Program I ε _) := ⟨single, fun _ => trivial⟩

theorem AsksOnly.attempt {query : I.Query} {decode : I.Answer query → Except ε α}
    (single : allowed query) : AsksOnly allowed (Program.attempt query decode) := by
  refine ⟨single, fun answer => ?_⟩
  show AsksOnly allowed (Program.ofExcept (decode answer))
  cases decode answer with
  | error | ok => trivial

theorem AsksOnly.ofExcept : AsksOnly allowed (Program.ofExcept result : Program I ε α) := by
  cases result with
  | ok | error => trivial

theorem AsksOnly.ite {condition : Prop} [Decidable condition] {first : Program I ε α}
    (yes : AsksOnly allowed first) (no : AsksOnly allowed second) :
    AsksOnly allowed (if condition then first else second) := by
  split
  · exact yes
  · exact no

theorem AsksOnly.mono {wider : I.Query → Prop} (imp : ∀ query, allowed query → wider query) :
    ∀ {program : Program I ε α}, AsksOnly allowed program → AsksOnly wider program
  | .pure _, _ => trivial
  | .fail _, _ => trivial
  | .ask query _, asks => ⟨imp query asks.1, fun answer => (asks.2 answer).mono imp⟩

theorem AsksOnly.until : ∀ {program : Program I ε α}, AsksOnly allowed program →
    Until allowed marked after program
  | .pure _, _ => trivial
  | .fail _, _ => trivial
  | .ask _ _, asks => Or.inr ⟨asks.1, fun answer => (asks.2 answer).until⟩

theorem Until.asksOnly {wide : I.Query → Prop} (before : ∀ query, allowed query → wide query)
    (mark : ∀ query, marked query → wide query)
    (later : ∀ program, after program → AsksOnly wide program) :
    ∀ {program : Program I ε α}, Until allowed marked after program → AsksOnly wide program
  | .pure _, _ => trivial
  | .fail _, _ => trivial
  | .ask query _, Or.inl ⟨here, next⟩ => ⟨mark query here, fun answer => later _ (next answer)⟩
  | .ask query _, Or.inr ⟨here, next⟩ =>
    ⟨before query here, fun answer => (next answer).asksOnly before mark later⟩

def Yields (property : α → Prop) : Program I ε α → Prop
  | .pure value => property value
  | .fail _ => True
  | .ask _ next => ∀ answer, Yields property (next answer)

theorem Yields.bind {result : α → Prop} (head : Yields property first)
    (tail : ∀ value, property value → Yields result (rest value)) :
    Yields result (first >>= rest) := by
  induction first with
  | pure value => exact tail value head
  | fail error => trivial
  | ask query next ih => exact fun answer => ih answer (head answer)

theorem Yields.true : ∀ {program : Program I ε α}, Yields (fun _ => True) program
  | .pure _ => trivial
  | .fail _ => trivial
  | .ask _ _ => fun _ => Yields.true

theorem Yields.ofExcept {property : α → Prop}
    (holds : ∀ value, result = .ok value → property value) :
    Yields property (Program.ofExcept result : Program I ε α) := by
  cases result with
  | ok value => exact holds value rfl
  | error error => trivial

theorem AsksOnly.bind_yields (head : AsksOnly allowed first) (yields : Yields property first)
    (tail : ∀ value, property value → AsksOnly allowed (rest value)) :
    AsksOnly allowed (first >>= rest) := by
  induction first with
  | pure value => exact tail value yields
  | fail error => trivial
  | ask query next ih => exact ⟨head.1, fun answer => ih answer (head.2 answer) (yields answer)⟩

theorem Until.bind
    (head : AsksOnly allowed first) (tail : ∀ value, Until allowed marked after (rest value)) :
    Until allowed marked after (first >>= rest) := by
  induction first with
  | pure value => exact tail value
  | fail error => trivial
  | ask query next ih => exact Or.inr ⟨head.1, fun answer => ih answer (head.2 answer)⟩

theorem Until.perform {query : I.Query} {rest : I.Answer query → Program I ε α}
    (mark : marked query) (tail : ∀ answer, after (rest answer)) :
    Until allowed marked after (Program.perform query >>= rest) := Or.inl ⟨mark, tail⟩

theorem Until.ite {condition : Prop} [Decidable condition] {first : Program I ε α}
    (yes : Until allowed marked after first) (no : Until allowed marked after second) :
    Until allowed marked after (if condition then first else second) := by
  split
  · exact yes
  · exact no

end Phases

/-! ### Answers that may have to wait -/

/-- The machine whose shared state answers by a function; a thread that gets no answer waits. -/
def Machine.ofAnswer (answer : σ → ∀ query, Option (I.Answer query × σ)) : Machine I ε α σ :=
  ⟨fun shared event shared' => answer shared event.1 = some (event.2, shared'), fun _ => []⟩

/-- **The program ends when it is run from this state on its own**: it never has to wait. -/
def Returns (answer : σ → ∀ query, Option (I.Answer query × σ)) : σ → Program I ε α → Prop
  | _, .pure _ => True
  | _, .fail _ => True
  | shared, .ask query next =>
    ∃ answered, answer shared query = some answered ∧ Returns answer answered.2 (next answered.1)

section Waiting

variable {answer : σ → ∀ query, Option (I.Answer query × σ)} {shared shared' : σ}
  {query : I.Query} {next : I.Answer query → Program I ε α} {answered : I.Answer query}

theorem Returns.goes_on (returns : Returns answer shared (.ask query next))
    (answers : answer shared query = some (answered, shared')) :
    Returns answer shared' (next answered) := by
  obtain ⟨_, same, rest⟩ := returns
  rw [answers] at same
  cases same
  exact rest

theorem step_ofAnswer_unique {config one two : Config I ε α σ}
    (first : (Machine.ofAnswer answer).Step config label one)
    (second : (Machine.ofAnswer answer).Step config label two) : one = two := by
  cases first with
  | act found answers =>
    cases second with
    | act found' answers' =>
      rw [found] at found'
      cases found'
      simp only [Machine.ofAnswer] at answers answers'
      rw [answers] at answers'
      cases answers'
      rfl

end Waiting

/-! ### Running a schedule -/

/-- The step of one thread, when it has one to make. -/
def Machine.act (machine : Machine I ε α σ) (answer : σ → ∀ query, I.Answer query × σ)
    (config : Config I ε α σ) (thread : Nat) : Option ((Nat × Event I) × Config I ε α σ) :=
  match config.threads[thread]? with
  | some (.ask query next) =>
    let answered := answer config.shared query
    some ((thread, ⟨query, answered.1⟩), ⟨answered.2,
      config.threads.set thread (next answered.1) ++ machine.forks ⟨query, answered.1⟩⟩)
  | _ => none

theorem Machine.step_of_act (machine : Machine I ε α σ) {answer : σ → ∀ query, I.Answer query × σ}
    (sound : ∀ shared query, machine.answers shared ⟨query, (answer shared query).1⟩
      (answer shared query).2) (acts : machine.act answer config thread = some (label, config')) :
    machine.Step config label config' := by
  unfold Machine.act at acts
  split at acts
  · rename_i query next found
    cases acts
    exact .act found (sound _ _)
  · cases acts

/-- The interleaving in which the threads make their steps in this order. -/
def Machine.execute (machine : Machine I ε α σ) (answer : σ → ∀ query, I.Answer query × σ) :
    Config I ε α σ → List Nat → List (Nat × Event I) × Config I ε α σ
  | config, [] => ([], config)
  | config, thread :: rest =>
    match machine.act answer config thread with
    | some (label, config') =>
      let ran := machine.execute answer config' rest
      (label :: ran.1, ran.2)
    | none => machine.execute answer config rest

theorem Machine.follows_execute {answer : σ → ∀ query, I.Answer query × σ}
    (sound : ∀ shared query, machine.answers shared ⟨query, (answer shared query).1⟩
      (answer shared query).2) (schedule : List Nat) :
    ∀ config, Follows machine.Step config (machine.execute answer config schedule).1
      (machine.execute answer config schedule).2 := by
  induction schedule with
  | nil => exact fun config => .nil config
  | cons thread rest ih =>
    intro config
    unfold Machine.execute
    cases acts : machine.act answer config thread with
    | none => exact ih config
    | some step =>
      obtain ⟨label, config'⟩ := step
      exact .cons (machine.step_of_act sound acts) (ih config')

/-- Whether every step the schedule makes meets the condition. -/
def Machine.checks (machine : Machine I ε α σ) (answer : σ → ∀ query, I.Answer query × σ)
    (guard : Config I ε α σ → Nat × Event I → Prop)
    [∀ config label, Decidable (guard config label)] : Config I ε α σ → List Nat → Bool
  | _, [] => true
  | config, thread :: rest =>
    match machine.act answer config thread with
    | some (label, config') =>
      decide (guard config label) && machine.checks answer guard config' rest
    | none => machine.checks answer guard config rest

section Checked

variable {answer : σ → ∀ query, I.Answer query × σ}
  {guard : Config I ε α σ → Nat × Event I → Prop} [∀ config label, Decidable (guard config label)]

/-- **A schedule that meets the condition makes a guarded interleaving**, when the answers are the
machine's wherever it is met. -/
theorem Machine.guarded_execute_of
    (sound : ∀ config thread query, guard config (thread, ⟨query, (answer config.shared query).1⟩) →
      machine.answers config.shared ⟨query, (answer config.shared query).1⟩
        (answer config.shared query).2) (schedule : List Nat) :
    ∀ config, machine.checks answer guard config schedule = true →
      Follows (machine.Guarded guard) config (machine.execute answer config schedule).1
        (machine.execute answer config schedule).2 := by
  induction schedule with
  | nil => exact fun config _ => .nil config
  | cons thread rest ih =>
    intro config checked
    unfold Machine.checks at checked
    unfold Machine.execute
    cases acts : machine.act answer config thread with
    | none =>
      simp only [acts] at checked
      exact ih config checked
    | some step =>
      obtain ⟨label, config'⟩ := step
      simp only [acts, Bool.and_eq_true, decide_eq_true_eq] at checked
      refine .cons ⟨checked.1, ?_⟩ (ih config' checked.2)
      have met := checked.1
      unfold Machine.act at acts
      split at acts
      · rename_i query next found
        cases acts
        exact .act found (sound config thread query met)
      · cases acts

theorem Machine.guarded_execute
    (sound : ∀ shared query, machine.answers shared ⟨query, (answer shared query).1⟩
      (answer shared query).2) (schedule : List Nat) :
    ∀ config, machine.checks answer guard config schedule = true →
      Follows (machine.Guarded guard) config (machine.execute answer config schedule).1
        (machine.execute answer config schedule).2 :=
  Machine.guarded_execute_of (fun config _ query _ => sound config.shared query) schedule

end Checked

end Threads
