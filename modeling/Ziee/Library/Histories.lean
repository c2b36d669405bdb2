/-
**What a thread did before.**

In an interleaving every event belongs to a thread. What a program may ask next often depends on
what it was answered before; `Obeys` says so for a program on its own, by recursion on the program,
and `Machine.ruled` carries it over to every event of every interleaving.

* `own` — the events of one thread.
* `Obeys rule raises returns` — every event of the program follows the rule, given the events before
  it; so do the error and the value it ends with.
* `Machine.past` — what a thread has behind it: the event that started it, and its own.
* `Follows.preserves_split` — an invariant whose step lemma may look at the whole log.
-/

import Ziee.Library.Threads

namespace Threads

open PortProgram

variable {I : Interface} {ε α β σ : Type}

def own (thread : Nat) (log : List (Nat × Event I)) : List (Event I) :=
  (log.filter fun label => label.1 = thread).map (·.2)

section Own

variable {thread other : Nat} {event : Event I} {log before after : List (Nat × Event I)}

@[simp] theorem own_nil : own thread ([] : List (Nat × Event I)) = [] := rfl

@[simp] theorem own_append : own thread (before ++ after) =
    own thread before ++ own thread after := by
  unfold own
  rw [List.filter_append, List.map_append]

@[simp] theorem own_cons_self : own thread ((thread, event) :: log) = event :: own thread log := by
  simp [own]

variable {program : Program I ε α} {between : List (Nat × Event I)}

theorem own_cons_ne (ne : other ≠ thread) : own thread
    ((other, event) :: log) = own thread log := by
  simp [own, ne]

theorem mem_own : event ∈ own thread log ↔ (thread, event) ∈ log := by
  unfold own
  simp

theorem own_flatMap {γ : Type} (read : Event I → List γ)
    (others : ∀ label ∈ log, label.1 ≠ thread → read label.2 = []) :
    (own thread log).flatMap read = log.flatMap fun label => read label.2 := by
  induction log with
  | nil => rfl
  | cons label log ih =>
    obtain ⟨other, event⟩ := label
    have rest := ih fun label member => others label (List.mem_cons_of_mem _ member)
    by_cases same : other = thread
    · subst same
      rw [own_cons_self, List.flatMap_cons, List.flatMap_cons, rest]
    · have silent : read event = [] := others (other, event) List.mem_cons_self same
      rw [own_cons_ne same, List.flatMap_cons, rest, silent, List.nil_append]

theorem own_filterMap {γ : Type} (read : Event I → Option γ)
    (others : ∀ label ∈ log, label.1 ≠ thread → read label.2 = none) :
    (own thread log).filterMap read = log.filterMap fun label => read label.2 := by
  rw [List.filterMap_eq_flatMap_toList, List.filterMap_eq_flatMap_toList]
  refine own_flatMap (fun event => (read event).toList) fun label member ne => ?_
  rw [others label member ne]
  rfl

theorem own_split {first second : List (Event I)}
    (split : own thread log = first ++ event :: second) :
    ∃ before after, log = before ++ (thread, event) :: after ∧ own thread before = first ∧
      own thread after = second := by
  induction log generalizing first with
  | nil => exact absurd split (by simp)
  | cons label log ih =>
    obtain ⟨other, here⟩ := label
    by_cases same : other = thread
    · subst same
      rw [own_cons_self] at split
      cases first with
      | nil =>
        obtain ⟨rfl, rfl⟩ := List.cons.inj split
        exact ⟨[], log, rfl, rfl, rfl⟩
      | cons _ first =>
        obtain ⟨rfl, rest⟩ := List.cons.inj split
        obtain ⟨before, after, rfl, rfl, rfl⟩ := ih rest
        exact ⟨(other, here) :: before, after, rfl, own_cons_self, rfl⟩
    · rw [own_cons_ne same] at split
      obtain ⟨before, after, rfl, rfl, rfl⟩ := ih split
      exact ⟨(other, here) :: before, after, rfl, own_cons_ne same, rfl⟩

theorem split_cases {α : Type} {done rest between after : List α} {label middle : α}
    (same : between ++ middle :: after = done ++ label :: rest) :
    (∃ more, between = done ++ label :: more ∧ rest = more ++ middle :: after) ∨
      (label = middle ∧ done = between ∧ rest = after) ∨
      ∃ more, done = between ++ middle :: more ∧ after = more ++ label :: rest := by
  rcases List.append_eq_append_iff.mp same with ⟨more, rfl, tail⟩ | ⟨more, rfl, tail⟩
  · cases more with
    | nil =>
      obtain ⟨rfl, rfl⟩ := List.cons.inj tail
      exact Or.inr (Or.inl ⟨rfl, (List.append_nil _), rfl⟩)
    | cons _ more =>
      obtain ⟨rfl, rfl⟩ := List.cons.inj tail
      exact Or.inr (Or.inr ⟨more, rfl, rfl⟩)
  · cases more with
    | nil =>
      obtain ⟨rfl, rfl⟩ := List.cons.inj tail
      exact Or.inr (Or.inl ⟨rfl, (List.append_nil _).symm, rfl⟩)
    | cons _ more =>
      obtain ⟨rfl, rfl⟩ := List.cons.inj tail
      exact Or.inl ⟨more, rfl, rfl⟩

theorem after_of_not_mem {α : Type} {left right first second : List α} {one two : α}
    (split : left ++ one :: right = first ++ two :: second) (ne : one ≠ two)
    (absent : one ∉ second) : ∃ middle, right = middle ++ two :: second := by
  rcases List.append_eq_append_iff.mp split with ⟨middle, rfl, same⟩ | ⟨middle, rfl, same⟩
  · cases middle with
    | nil => exact absurd (List.cons.inj same).1 ne
    | cons _ middle => exact ⟨middle, (List.cons.inj same).2⟩
  · cases middle with
    | nil => exact absurd (List.cons.inj same).1.symm ne
    | cons _ middle =>
      obtain ⟨-, rfl⟩ := List.cons.inj same
      exact absurd (by simp) absent

end Own

/-! ### Rules for the events of a program -/

/-- **Every event follows the rule**, given the events before it, and the program ends with an error
or a value that the events before it allow. -/
def Obeys (rule : List (Event I) → Event I → Prop) (raises : List (Event I) → ε → Prop)
    (returns : List (Event I) → α → Prop) : List (Event I) → Program I ε α → Prop
  | past, .pure value => returns past value
  | past, .fail error => raises past error
  | past, .ask query next => ∀ answer, rule past ⟨query, answer⟩ ∧
      Obeys rule raises returns (past ++ [⟨query, answer⟩]) (next answer)

section Obeys

variable {rule : List (Event I) → Event I → Prop} {raises : List (Event I) → ε → Prop}
  {returns : List (Event I) → α → Prop} {past : List (Event I)}

theorem Obeys.bind {first : Program I ε β} {rest : β → Program I ε α}
    {middle : List (Event I) → β → Prop} (head : Obeys rule raises middle past first)
    (tail : ∀ past value, middle past value → Obeys rule raises returns past (rest value)) :
    Obeys rule raises returns past (first >>= rest) := by
  induction first generalizing past with
  | pure value => exact tail past value head
  | fail error => exact head
  | ask query next ih => exact fun answer => ⟨(head answer).1, ih answer (head answer).2⟩

theorem Obeys.mono {returns' : List (Event I) → α → Prop}
    (imp : ∀ past value, returns past value → returns' past value)
    (obeys : Obeys rule raises returns past program) : Obeys rule raises returns' past program := by
  induction program generalizing past with
  | pure value => exact imp past value obeys
  | fail error => exact obeys
  | ask query next ih => exact fun answer => ⟨(obeys answer).1, ih answer (obeys answer).2⟩

theorem Obeys.trivial (program : Program I ε α) :
    Obeys (fun _ _ => True) (fun _ _ => True) (fun _ _ => True) past program := by
  induction program generalizing past with
  | pure | fail => exact True.intro
  | ask query next ih => exact fun answer => ⟨True.intro, ih answer⟩

theorem Obeys.perform {query : I.Query} (follows : ∀ answer, rule past ⟨query, answer⟩) :
    Obeys rule raises (fun later answer => later = past ++ [⟨query, answer⟩]) past
      (Program.perform query) := fun answer => ⟨follows answer, rfl⟩

theorem Obeys.ofExcept {result : Except ε α}
    (fails : ∀ error, result = .error error → raises past error) :
    Obeys rule raises (fun later value => later = past ∧ result = .ok value) past
      (Program.ofExcept result : Program I ε α) := by
  cases result with
  | ok value => exact ⟨rfl, rfl⟩
  | error error => exact fails error rfl

theorem Obeys.attempt {query : I.Query} {decode : I.Answer query → Except ε α}
    (follows : ∀ answer, rule past ⟨query, answer⟩)
    (fails : ∀ answer error, decode answer = .error error →
      raises (past ++ [⟨query, answer⟩]) error) :
    Obeys rule raises (fun later value => ∃ answer, later = past ++ [⟨query, answer⟩] ∧
      decode answer = .ok value) past (Program.attempt query decode) := by
  refine fun answer => ⟨follows answer, ?_⟩
  refine (Obeys.ofExcept (fails answer)).mono fun later value ends => ?_
  exact ⟨answer, ends.1, ends.2⟩

theorem Obeys.ite {condition : Prop} [Decidable condition] {first second : Program I ε α}
    (yes : condition → Obeys rule raises returns past first)
    (no : ¬ condition → Obeys rule raises returns past second) :
    Obeys rule raises returns past (if condition then first else second) := by
  split
  · rename_i holds
    exact yes holds
  · rename_i fails
    exact no fails

/-- **A program that asks harmless queries only** lets the past grow. -/
theorem AsksOnly.obeys {allowed : I.Query → Prop}
    (harmless : ∀ past {query}, allowed query → ∀ answer, rule past ⟨query, answer⟩)
    (fails : ∀ more error, (∀ event ∈ more, allowed event.1) → raises (past ++ more) error)
    (asks : AsksOnly allowed program) :
    Obeys rule raises (fun later _ => ∃ more, (∀ event ∈ more, allowed event.1) ∧
      later = past ++ more) past program := by
  induction program generalizing past with
  | pure value => exact ⟨[], by simp, (List.append_nil past).symm⟩
  | fail error =>
    have here := fails [] error (by simp)
    rwa [List.append_nil] at here
  | ask query next ih =>
    refine fun answer => ⟨harmless past asks.1 answer, ?_⟩
    have grows : ∀ more, (∀ event ∈ more, allowed event.1) →
        ∀ event ∈ (⟨query, answer⟩ : Event I) :: more, allowed event.1 := by
      intro more clean event member
      rcases List.mem_cons.mp member with rfl | member
      · exact asks.1
      · exact clean event member
    refine (ih answer (fun more error clean => ?_) (asks.2 answer)).mono ?_
    · rw [List.append_assoc]
      exact fails _ error (grows more clean)
    · rintro later value ⟨more, clean, rfl⟩
      exact ⟨⟨query, answer⟩ :: more, grows more clean, List.append_assoc _ _ _⟩

/-- **Every event of a run** follows the rule, given the events before it. -/
theorem Obeys.runs {before after : List (Event I)} {event : Event I}
    {outcome : Except ε α} (obeys : Obeys rule raises returns past program)
    (run : Runs program (before ++ event :: after) outcome) : rule (past ++ before) event := by
  induction program generalizing past before with
  | pure value =>
    obtain ⟨empty, -⟩ := runs_pure_iff.mp run
    simp at empty
  | fail error =>
    obtain ⟨empty, -⟩ := runs_fail_iff.mp run
    simp at empty
  | ask query next ih =>
    cases before with
    | nil =>
      cases run with
      | ask _ _ answer rest =>
        rw [List.append_nil]
        exact (obeys answer).1
    | cons first before =>
      cases run with
      | ask _ _ answer rest =>
        have later := ih answer (obeys answer).2 rest
        rwa [List.append_assoc] at later

end Obeys

/-! ### The rules in an interleaving -/

section Interleaving

variable {machine : Machine I ε α σ} {config last : Config I ε α σ}
  {rule : List (Event I) → Event I → Prop} {raises : List (Event I) → ε → Prop}
  {returns : List (Event I) → α → Prop} {log : List (Nat × Event I)}

def Knows (machine : Machine I ε α σ) (log : List (Nat × Event I)) (thread : Nat)
    (past : List (Event I)) : Prop :=
  ∃ birth, (∀ event ∈ birth, machine.forks event ≠ [] ∧ ∃ other, (other, event) ∈ log) ∧
    past = birth ++ own thread log

section Knows

variable {thread : Nat} {past : List (Event I)} {event : Event I}

theorem Knows.mem (knows : Knows machine log thread past) (member : event ∈ past) :
    ∃ other, (other, event) ∈ log := by
  obtain ⟨birth, born, rfl⟩ := knows
  rcases List.mem_append.mp member with member | member
  · exact (born event member).2
  · exact ⟨thread, mem_own.mp member⟩

theorem own_of_mem {birth : List (Event I)} (born : ∀ event ∈ birth, machine.forks event ≠ [])
    (member : event ∈ birth ++ own thread log) (starts : machine.forks event = []) :
    (thread, event) ∈ log := by
  rcases List.mem_append.mp member with member | member
  · exact absurd starts (born event member)
  · exact mem_own.mp member

theorem Knows.own_mem (knows : Knows machine log thread past) (member : event ∈ past)
    (starts : machine.forks event = []) : (thread, event) ∈ log := by
  obtain ⟨birth, born, rfl⟩ := knows
  exact own_of_mem (fun event member => (born event member).1) member starts

end Knows

/-- The events that started threads, one for each thread, in the order of the threads. -/
def Machine.births (machine : Machine I ε α σ) (log : List (Nat × Event I)) : List (Event I) :=
  log.flatMap fun label => List.replicate (machine.forks label.2).length label.2

def Machine.past (machine : Machine I ε α σ) (first : Nat) (log : List (Nat × Event I))
    (thread : Nat) : List (Event I) :=
  (if first ≤ thread then (machine.births log)[thread - first]?.toList else []) ++ own thread log

section Past

variable {first thread other : Nat} {event : Event I}

@[simp] theorem births_append {more : List (Nat × Event I)} :
    machine.births (log ++ more) = machine.births log ++ machine.births more :=
  List.flatMap_append

@[simp] theorem births_singleton : machine.births [(thread, event)] =
    List.replicate (machine.forks event).length event := by
  simp [Machine.births]

theorem mem_births (born : event ∈ machine.births log) :
    machine.forks event ≠ [] ∧ ∃ other, (other, event) ∈ log := by
  obtain ⟨⟨other, start⟩, member, copies⟩ := List.mem_flatMap.mp born
  obtain ⟨some, rfl⟩ := List.mem_replicate.mp copies
  exact ⟨fun none => some (by rw [none]; rfl), other, member⟩

theorem past_of_lt (there : thread < first) : machine.past first log thread = own thread log := by
  rw [Machine.past, if_neg (Nat.not_le.mpr there), List.nil_append]

theorem past_self (old : thread < first + (machine.births log).length) :
    machine.past first (log ++ [(thread, event)]) thread =
      machine.past first log thread ++ [event] := by
  unfold Machine.past
  rw [own_append, own_cons_self, own_nil, births_append, ← List.append_assoc]
  by_cases started : first ≤ thread
  · rw [if_pos started, if_pos started, List.getElem?_append_left (by omega)]
  · rw [if_neg started, if_neg started]

theorem past_other (ne : other ≠ thread) (old : other < first + (machine.births log).length) :
    machine.past first (log ++ [(thread, event)]) other = machine.past first log other := by
  unfold Machine.past
  rw [own_append, own_cons_ne (Ne.symm ne), own_nil, List.append_nil, births_append]
  by_cases started : first ≤ other
  · rw [if_pos started, if_pos started, List.getElem?_append_left (by omega)]
  · rw [if_neg started, if_neg started]

theorem past_new (ne : other ≠ thread) (silent : own other log = [])
    (fresh : first + (machine.births log).length ≤ other)
    (among : other - (first + (machine.births log).length) < (machine.forks event).length) :
    machine.past first (log ++ [(thread, event)]) other = [event] := by
  unfold Machine.past
  rw [own_append, own_cons_ne (Ne.symm ne), own_nil, silent, births_append, births_singleton,
    if_pos (by omega), List.getElem?_append_right (by omega),
      List.getElem?_replicate_of_lt (by omega)]
  rfl

theorem knows_past (first : Nat) (log : List (Nat × Event I)) (thread : Nat) :
    Knows machine log thread (machine.past first log thread) := by
  refine ⟨_, fun event member => ?_, rfl⟩
  split at member
  · exact mem_births (List.mem_of_getElem? (Option.mem_toList.mp member))
  · cases member

end Past

/-- Every thread's rest obeys the rule, given its past; later threads have no events. -/
private structure AllObey (machine : Machine I ε α σ) (rule : List (Event I) → Event I → Prop)
    (raises : List (Event I) → ε → Prop) (returns : List (Event I) → α → Prop) (first : Nat)
    (log : List (Nat × Event I)) (config : Config I ε α σ) : Prop where
  each : ∀ thread program, config.threads[thread]? = some program →
    Obeys rule raises returns (machine.past first log thread) program
  count : config.threads.length = first + (machine.births log).length
  later : ∀ thread, config.threads.length ≤ thread → own thread log = []

private theorem AllObey.step {first : Nat} (forked : ∀ event, ∀ program ∈ machine.forks event,
      Obeys rule raises returns [event] program) {config' : Config I ε α σ} {label : Nat × Event I}
    (obey : AllObey machine rule raises returns first log config)
    (step : machine.Step config label config') :
    AllObey machine rule raises returns first (log ++ [label]) config' := by
  cases step with
  | @act shared shared' threads thread query next answer found _ =>
    obtain ⟨each, count, later⟩ := obey
    dsimp only at each count later
    have here : thread < threads.length := (List.getElem?_eq_some_iff.mp found).1
    refine ⟨fun index program after => ?_, ?_, fun index beyond => ?_⟩
    · rcases threads_after here after with ⟨rfl, rfl⟩ | ⟨ne, before⟩ | ⟨new, started⟩
      · rw [past_self (count ▸ here)]
        exact (each index _ found answer).2
      · rw [past_other ne (count ▸ (List.getElem?_eq_some_iff.mp before).1)]
        exact each index program before
      · rw [past_new (fun same => by omega) (later index new) (count ▸ new)
          (count ▸ (List.getElem?_eq_some_iff.mp started).1)]
        exact forked _ program (List.mem_of_getElem? started)
    · rw [List.length_append, List.length_set, births_append, births_singleton, List.length_append,
        List.length_replicate, count, Nat.add_assoc]
    · rw [List.length_append, List.length_set] at beyond
      rw [own_append, own_cons_ne (by omega), own_nil, later index (by omega), List.append_nil]

private theorem allObey (start : ∀ program ∈ config.threads, Obeys rule raises returns [] program)
    (forked : ∀ event, ∀ program ∈ machine.forks event, Obeys rule raises returns [event] program)
    (follows : Follows machine.Step config log last) :
    AllObey machine rule raises returns config.threads.length log last := by
  refine follows.preserves_log (AllObey machine rule raises returns config.threads.length)
    (fun obey step => obey.step forked step)
      ⟨fun thread program found => ?_, rfl, fun _ _ => own_nil⟩
  rw [past_of_lt (List.getElem?_eq_some_iff.mp found).1]
  exact start program (List.mem_of_getElem? found)

section

variable (rule : List (Event I) → Event I → Prop) (raises : List (Event I) → ε → Prop)
  (returns : List (Event I) → α → Prop)
  (start : ∀ program ∈ config.threads, Obeys rule raises returns [] program)
  (forked : ∀ event, ∀ program ∈ machine.forks event, Obeys rule raises returns [event] program)

include start forked

/-- **Every event of an interleaving follows the rule**, given the past of its thread. -/
theorem Machine.ruled {before after : List (Nat × Event I)} {thread : Nat} {event : Event I}
    (follows : Follows machine.Step config (before ++ (thread, event) :: after) last) :
    rule (machine.past config.threads.length before thread) event := by
  obtain ⟨middle, head, tail⟩ := Follows.append_iff.mp follows
  cases tail with
  | cons step _ =>
    cases step with
    | @act _ _ _ _ query next answer found _ =>
      exact ((allObey start forked head).each thread _ found answer).1

/-- **Every event of an interleaving follows the rule**, given what its thread knows. -/
theorem Machine.obeyed {before after : List (Nat × Event I)} {thread : Nat} {event : Event I}
    (follows : Follows machine.Step config (before ++ (thread, event) :: after) last) :
    ∃ past, Knows machine before thread past ∧ rule past event :=
  ⟨_, knows_past _ _ _, machine.ruled rule raises returns start forked follows⟩

/-- **A thread that failed had reason to**, given what it knows. -/
theorem Machine.raised (follows : Follows machine.Step config log last) {thread : Nat} {error : ε}
    (failed : last.threads[thread]? = some (.fail error)) :
    ∃ past, Knows machine log thread past ∧ raises past error :=
  ⟨_, knows_past _ _ _, (allObey start forked follows).each thread _ failed⟩

end

theorem Machine.threads_length (follows : Follows machine.Step config log last) :
    last.threads.length = config.threads.length + (machine.births log).length :=
  (allObey (fun program _ => Obeys.trivial program) (fun _ program _ => Obeys.trivial program)
    follows).count

theorem Machine.silent (follows : Follows machine.Step config log last) {thread : Nat}
    (beyond : last.threads.length ≤ thread) : own thread log = [] :=
  (allObey (fun program _ => Obeys.trivial program) (fun _ program _ => Obeys.trivial program)
    follows).later thread beyond

/-- The rest of a thread that was there from the start obeys the rule, given its own events. -/
private theorem obeys_own {thread : Nat}
    (start : ∀ program, config.threads[thread]? = some program →
      Obeys rule raises returns [] program) (there : thread < config.threads.length)
    (follows : Follows machine.Step config log last)
    (found : last.threads[thread]? = some program) :
    Obeys rule raises returns (own thread log) program := by
  have first : (∀ program, config.threads[thread]? = some program →
      Obeys rule raises returns (own thread ([] : List (Nat × Event I))) program) ∧
      thread < config.threads.length := ⟨start, there⟩
  have whole := follows.preserves_log (fun log config =>
      (∀ program, config.threads[thread]? = some program →
        Obeys rule raises returns (own thread log) program) ∧ thread < config.threads.length)
    (fun {log _ label _} holds step => by
      obtain ⟨obeys, there⟩ := holds
      cases step with
      | @act shared shared' threads index query next answer found _ =>
        have here : index < threads.length := (List.getElem?_eq_some_iff.mp found).1
        refine ⟨fun program after => ?_, ?_⟩
        · rcases threads_after here after with ⟨rfl, rfl⟩ | ⟨ne, before⟩ | ⟨new, -⟩
          · rw [own_append, own_cons_self, own_nil]
            exact (obeys _ found answer).2
          · rw [own_append, own_cons_ne (Ne.symm ne), own_nil, List.append_nil]
            exact obeys program before
          · exact absurd there (Nat.not_lt.mpr new)
        · rw [List.length_append, List.length_set]
          exact Nat.lt_add_right _ there) first
  exact whole.1 program found

/-- **A thread that was there from the start** follows the rule given its own events. -/
theorem Machine.obeyed_own (rule : List (Event I) → Event I → Prop)
    (raises : List (Event I) → ε → Prop) (returns : List (Event I) → α → Prop) {thread : Nat}
    (start : ∀ program, config.threads[thread]? = some program →
      Obeys rule raises returns [] program) (there : thread < config.threads.length)
    {before after : List (Nat × Event I)} {event : Event I}
    (follows : Follows machine.Step config (before ++ (thread, event) :: after) last) :
    rule (own thread before) event := by
  obtain ⟨middle, head, tail⟩ := Follows.append_iff.mp follows
  cases tail with
  | cons step _ =>
    cases step with
    | @act _ _ _ _ query next answer found _ => exact (obeys_own start there head found answer).1

theorem Machine.returned_own (rule : List (Event I) → Event I → Prop)
    (raises : List (Event I) → ε → Prop) (returns : List (Event I) → α → Prop) {thread : Nat}
    (start : ∀ program, config.threads[thread]? = some program →
      Obeys rule raises returns [] program) (there : thread < config.threads.length)
    (follows : Follows machine.Step config log last) {value : α}
    (returned : last.threads[thread]? = some (.pure value)) : returns (own thread log) value :=
  obeys_own start there follows returned

/-- **What one thread never asks**, when neither its program nor any that is started does. -/
theorem Machine.asked {thread : Nat} (allowed : I.Query → Prop)
    (start : ∀ program, config.threads[thread]? = some program → AsksOnly allowed program)
    (forked : ∀ event, ∀ program ∈ machine.forks event, AsksOnly allowed program)
    (follows : Follows machine.Step config log last) :
    ∀ event ∈ own thread log, allowed event.1 := by
  have none : (∀ event ∈ own thread ([] : List (Nat × Event I)), allowed event.1) ∧
      ∀ program, config.threads[thread]? = some program → AsksOnly allowed program :=
    ⟨by simp, start⟩
  have whole := follows.preserves_log
    (fun log config => (∀ event ∈ own thread log, allowed event.1) ∧
      ∀ program, config.threads[thread]? = some program → AsksOnly allowed program)
    (fun {_ _ label _} holds step => by
      obtain ⟨clean, asks⟩ := holds
      cases step with
      | @act shared shared' threads index query next answer found _ =>
        have here : index < threads.length := (List.getElem?_eq_some_iff.mp found).1
        refine ⟨fun event member => ?_, fun program after => ?_⟩
        · rw [own_append] at member
          rcases List.mem_append.mp member with member | member
          · exact clean event member
          · obtain ⟨rfl, rfl⟩ : thread = index ∧ event = ⟨query, answer⟩ := by
              simpa using mem_own.mp member
            exact (asks _ found).1
        · rcases threads_after here after with ⟨rfl, rfl⟩ | ⟨-, before⟩ | ⟨-, started⟩
          · exact (asks _ found).2 answer
          · exact asks program before
          · exact forked _ program (List.mem_of_getElem? started)) none
  exact whole.1

/-- What the threads started as: those that were there, and those the log started. -/
def Machine.origins (machine : Machine I ε α σ) (threads : List (Program I ε α))
    (log : List (Nat × Event I)) : List (Program I ε α) :=
  threads ++ log.flatMap fun label => machine.forks label.2

/-- **A thread is where its own events have brought it** from what it started as. -/
theorem Machine.own_run (follows : Follows machine.Step config log last) {thread : Nat}
    (origin : (machine.origins config.threads log)[thread]? = some program) :
    ∃ residual, last.threads[thread]? = some residual ∧
      ∀ {rest outcome}, Runs residual rest outcome →
        Runs program (own thread log ++ rest) outcome := by
  induction follows generalizing program with
  | nil config =>
    refine ⟨program, ?_, fun run => run⟩
    rwa [Machine.origins, List.flatMap_nil, List.append_nil] at origin
  | @cons config middle last label log step follows ih =>
    cases step with
    | @act shared shared' threads acting query next answer found _ =>
      have here : acting < threads.length := (List.getElem?_eq_some_iff.mp found).1
      replace origin : (threads ++ (machine.forks ⟨query, answer⟩ ++
          log.flatMap fun label => machine.forks label.2))[thread]? = some program := origin
      have later : ∀ other, ((threads.set acting (next answer)) ++ (machine.forks ⟨query, answer⟩ ++
            log.flatMap fun label => machine.forks label.2))[thread]? = some other →
          ∃ residual, last.threads[thread]? = some residual ∧
            ∀ {rest outcome}, Runs residual rest outcome →
              Runs other (own thread log ++ rest) outcome := by
        intro other started
        have begun : (machine.origins (threads.set acting (next answer) ++
            machine.forks ⟨query, answer⟩) log)[thread]? = some other := by
          rwa [Machine.origins, List.append_assoc]
        exact ih begun
      by_cases same : thread = acting
      · subst same
        rw [List.getElem?_append_left here, found] at origin
        cases origin
        obtain ⟨residual, there, runs⟩ := later (next answer) (by
          rw [List.getElem?_append_left (by simpa using here), List.getElem?_set_self here])
        refine ⟨residual, there, fun {rest outcome} run => ?_⟩
        rw [own_cons_self, List.cons_append]
        exact .ask query next answer (runs run)
      · obtain ⟨residual, there, runs⟩ := later program (by
          rw [List.getElem?_append, List.length_set, List.getElem?_set_ne (Ne.symm same),
            ← List.getElem?_append]
          exact origin)
        refine ⟨residual, there, fun {rest outcome} run => ?_⟩
        rw [own_cons_ne (Ne.symm same)]
        exact runs run

theorem Machine.own_partly (answers : ∀ query, I.Answer query)
    (follows : Follows machine.Step config log last) {thread : Nat}
    (origin : (machine.origins config.threads log)[thread]? = some program) :
    RunsPartly program (own thread log) := by
  obtain ⟨residual, -, runs⟩ := machine.own_run follows origin
  obtain ⟨rest, outcome, run⟩ := exists_runs answers residual
  exact ⟨rest, outcome, runs run⟩

theorem Machine.origins_length (follows : Follows machine.Step config log last) :
    (machine.origins config.threads log).length = last.threads.length := by
  rw [machine.threads_length follows, Machine.origins, Machine.births, List.length_append,
    List.length_flatMap, List.length_flatMap]
  simp

end Interleaving

/-! ### Invariants that look at the log -/

theorem preserves_split {σ L : Type} {step : σ → L → σ → Prop} {first last : σ} {log : List L}
    (follows : Follows step first log last) (invariant : List L → σ → Prop)
    (one : ∀ before label after state state', log = before ++ label :: after →
      Follows step first before state → invariant before state → step state label state' →
      invariant (before ++ [label]) state') (start : invariant [] first) : invariant log last := by
  suffices whole : ∀ before after state, log = before ++ after → Follows step first before state →
      invariant before state → Follows step state after last → invariant log last from
    whole [] log first rfl (.nil first) start follows
  intro before after
  induction after generalizing before with
  | nil =>
    intro state same _ holds tail
    cases tail
    rwa [same, List.append_nil]
  | cons label after ih =>
    intro state same head holds tail
    cases tail with
    | cons step rest =>
      refine ih (before ++ [label]) _ (by rw [same, List.append_assoc]; rfl) ?_
        (one before label after state _ same head holds step) rest
      exact Follows.append_iff.mpr ⟨state, head, Follows.singleton_iff.mpr step⟩

/-! ### Undisturbed stretches -/

def closesFirst (thread : Nat) (closes breaks : Event I → Bool) : List (Nat × Event I) → Bool
  | [] => true
  | (_, event) :: rest =>
    if breaks event then rest.all fun label => !(label.1 = thread && closes label.2)
    else closesFirst thread closes breaks rest

/-- **No event that breaks in comes between one that opens and one that closes**, both of one
thread. -/
def undisturbed (opens closes breaks : Event I → Bool) : List (Nat × Event I) → Bool
  | [] => true
  | (thread, event) :: rest =>
    (!opens event || closesFirst thread closes breaks rest) && undisturbed opens closes breaks rest

section Undisturbed

variable {opens closes breaks : Event I → Bool} {thread : Nat} {first second : Event I}

theorem closesFirst_between {log after : List (Nat × Event I)}
    (closed : closesFirst thread closes breaks log = true)
    (split : log = between ++ (thread, second) :: after) (close : closes second = true) :
    ∀ label ∈ between, breaks label.2 = false := by
  induction between generalizing log with
  | nil => simp
  | cons label between ih =>
    obtain ⟨other, event⟩ := label
    subst split
    simp only [List.cons_append, closesFirst] at closed
    split at closed
    · -- an event broke in, and yet the thread closes
      have never := List.all_eq_true.mp closed (thread, second) (by simp)
      simp [close] at never
    · rename_i quiet
      intro label member
      rcases List.mem_cons.mp member with rfl | member
      · exact eq_false_of_ne_true quiet
      · exact ih closed rfl label member

/-- **Between the two nothing broke in.** -/
theorem undisturbed_between {log before after : List (Nat × Event I)}
    (calm : undisturbed opens closes breaks log = true)
    (split : log = before ++ (thread, first) :: between ++ (thread, second) :: after)
    (open' : opens first = true) (close : closes second = true) :
    ∀ label ∈ between, breaks label.2 = false := by
  induction before generalizing log with
  | nil =>
    subst split
    simp only [List.nil_append, List.cons_append, undisturbed, open', Bool.not_true, Bool.false_or,
      Bool.and_eq_true] at calm
    exact closesFirst_between calm.1 rfl close
  | cons label before ih =>
    subst split
    obtain ⟨other, event⟩ := label
    simp only [List.cons_append, undisturbed, Bool.and_eq_true] at calm
    exact ih calm.2 rfl

end Undisturbed

end Threads
