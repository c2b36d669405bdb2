/-
**What a thread still has to do.**

A thread may leave the shared state in a condition that it, or a thread it starts, has to mend
later. `Residual` says that a program is what is left of another; `Inevitable` that every way on
passes a marked query, `Pays` a discharging event, `Due` that every successful one does; `Each` what
holds of the rest after each event. `Mends` collects what the threads of a machine promise, and
`Mends.owed` is the invariant that follows: as long as the state is in the condition, some thread
owes the mending.
-/

import Ziee.Library.Threads

namespace Threads

open PortProgram

variable {I : Interface} {ε α β σ : Type}

/-! ### What is left of a program -/

/-- **What is left of a program** after some of its queries were answered. -/
inductive Residual (program : Program I ε α) : Program I ε α → Prop
  | refl : Residual program program
  | step {query : I.Query} {next : I.Answer query → Program I ε α} (answer : I.Answer query) :
      Residual program (.ask query next) → Residual program (next answer)

/-- **Every way on passes a marked query.** -/
def Inevitable (marked : I.Query → Prop) : Program I ε α → Prop
  | .pure _ => False
  | .fail _ => False
  | .ask query next => marked query ∨ ∀ answer, Inevitable marked (next answer)

section Inevitable

variable {marked : I.Query → Prop}

theorem Inevitable.bind_left {first : Program I ε β} {rest : β → Program I ε α}
    (head : Inevitable marked first) : Inevitable marked (first >>= rest) := by
  induction first with
  | pure | fail => exact absurd head id
  | ask query next ih =>
    rcases head with here | later
    · exact Or.inl here
    · exact Or.inr fun answer => ih answer (later answer)

theorem Inevitable.perform {query : I.Query} (here : marked query) :
    Inevitable marked (Program.perform query : Program I ε _) := Or.inl here

theorem Inevitable.after {query : I.Query} {rest : I.Answer query → Program I ε α}
    (tail : ∀ answer, Inevitable marked (rest answer)) :
    Inevitable marked (Program.perform query >>= rest) := Or.inr tail

end Inevitable

/-- **Every way on that succeeds discharges the program**: it passes a discharging event, as long as
the events are admissible. -/
def Due (admits discharges : Event I → Prop) (succeeds : α → Prop) : Program I ε α → Prop
  | .pure value => ¬ succeeds value
  | .fail _ => True
  | .ask query next => ∀ answer, admits ⟨query, answer⟩ →
      discharges ⟨query, answer⟩ ∨ Due admits discharges succeeds (next answer)

/-- **Every way on passes a discharging event.** -/
def Pays (discharges : Event I → Prop) : Program I ε α → Prop
  | .pure _ => False
  | .fail _ => False
  | .ask query next => ∀ answer, discharges ⟨query, answer⟩ ∨ Pays discharges (next answer)

/-- **After each event the rest of the program has this property.** -/
def Each (post : Event I → Program I ε α → Prop) : Program I ε α → Prop
  | .pure _ => True
  | .fail _ => True
  | .ask query next => ∀ answer, post ⟨query, answer⟩ (next answer) ∧ Each post (next answer)

section Each

variable {post : Event I → Program I ε α → Prop}

theorem Each.residual {query : I.Query} {next : I.Answer query → Program I ε α}
    (each : Each post (.ask query next)) (answer : I.Answer query) : Each post (next answer) :=
  (each answer).2

theorem AsksOnly.each {allowed : I.Query → Prop}
    (harmless : ∀ {query}, allowed query → ∀ answer rest, post ⟨query, answer⟩ rest) :
    ∀ {program : Program I ε α}, AsksOnly allowed program → Each post program
  | .pure _, _ => trivial
  | .fail _, _ => trivial
  | .ask _ _, asks => fun answer => ⟨harmless asks.1 answer _, (asks.2 answer).each harmless⟩

theorem Each.bind (more : ∀ {event} {first : Program I ε α} {rest : α → Program I ε α},
      post event first → post event (first >>= rest)) {first : Program I ε α}
    {rest : α → Program I ε α} (head : Each post first) (tail : ∀ value, Each post (rest value)) :
    Each post (first >>= rest) := by
  induction first with
  | pure value => exact tail value
  | fail error => trivial
  | ask query next ih => exact fun answer => ⟨more (head answer).1, ih answer (head answer).2⟩

end Each

/-! ### Who owes what -/

/-- **What the threads promise**: a permitted step that brings the state into the condition leaves
its thread owing; an owing thread that steps mends it, still owes, or starts a thread that does. -/
structure Mends (machine : Machine I ε α σ) (permitted : σ → Event I → Prop) (broken : σ → Prop)
    (sound owing : Program I ε α → Prop) : Prop where
  incurs : ∀ {shared shared' : σ} {query : I.Query} {next : I.Answer query → Program I ε α}
    {answer : I.Answer query}, sound (.ask query next) → permitted shared ⟨query, answer⟩ →
    machine.answers shared ⟨query, answer⟩ shared' → ¬ broken shared → broken shared' →
    owing (next answer)
  carries : ∀ {shared shared' : σ} {query : I.Query} {next : I.Answer query → Program I ε α}
    {answer : I.Answer query}, owing (.ask query next) → permitted shared ⟨query, answer⟩ →
    machine.answers shared ⟨query, answer⟩ shared' → broken shared' →
    owing (next answer) ∨ ∃ program ∈ machine.forks ⟨query, answer⟩, owing program
  residual : ∀ {query : I.Query} {next : I.Answer query → Program I ε α},
    sound (.ask query next) → ∀ answer, sound (next answer)
  started : ∀ event, ∀ program ∈ machine.forks event, sound program

theorem Mends.of_pays {machine : Machine I ε α σ} {permitted : σ → Event I → Prop}
    {broken : σ → Prop} {sound : Program I ε α → Prop} {discharges : Event I → Prop}
    (incurs : ∀ {shared shared' : σ} {query : I.Query} {next : I.Answer query → Program I ε α}
      {answer : I.Answer query}, sound (.ask query next) → permitted shared ⟨query, answer⟩ →
      machine.answers shared ⟨query, answer⟩ shared' → ¬ broken shared → broken shared' →
      Pays discharges (next answer))
    (mended : ∀ {shared shared' : σ} {event : Event I}, discharges event → permitted shared event →
      machine.answers shared event shared' → ¬ broken shared')
    (residual : ∀ {query : I.Query} {next : I.Answer query → Program I ε α},
      sound (.ask query next) → ∀ answer, sound (next answer))
    (started : ∀ event, ∀ program ∈ machine.forks event, sound program) :
    Mends machine permitted broken sound (Pays discharges) where
  incurs := incurs
  carries := fun {_ _ _ _ answer} owes allowed answers broke => by
    rcases owes answer with discharged | rest
    · exact absurd broke (mended discharged allowed answers)
    · exact .inl rest
  residual := residual
  started := started

section Owed

variable {machine : Machine I ε α σ} {permitted : σ → Event I → Prop} {broken : σ → Prop}
  {sound owing : Program I ε α → Prop} {config config' last : Config I ε α σ}

/-- All threads are sound, and one owes the mending when it is needed. -/
def Owed (broken : σ → Prop) (sound owing : Program I ε α → Prop)
    (config : Config I ε α σ) : Prop :=
  (∀ program ∈ config.threads, sound program) ∧
    (broken config.shared → ∃ program ∈ config.threads, owing program)

theorem Mends.step (mends : Mends machine permitted broken sound owing)
    {label : Nat × Event I} (owed : Owed broken sound owing config)
    (allowed : permitted config.shared label.2) (step : machine.Step config label config') :
    Owed broken sound owing config' := by
  cases step with
  | @act shared shared' threads thread query next answer found answers =>
    obtain ⟨allSound, someOwes⟩ := owed
    have here : thread < threads.length := (List.getElem?_eq_some_iff.mp found).1
    have stays : next answer ∈ threads.set thread (next answer) := List.mem_set here _
    refine ⟨fun program member => ?_, fun broke => ?_⟩
    · rcases List.mem_append.mp member with member | member
      · rcases List.mem_or_eq_of_mem_set member with member | rfl
        · exact allSound program member
        · exact mends.residual (allSound _ (List.mem_of_getElem? found)) answer
      · exact mends.started _ program member
    · by_cases before : broken shared
      · obtain ⟨program, member, owes⟩ := someOwes before
        obtain ⟨index, found'⟩ := List.getElem?_of_mem member
        by_cases same : index = thread
        · subst same
          rw [found] at found'
          cases found'
          -- the owing thread is the one that steps
          rcases mends.carries owes allowed answers broke with still | ⟨new, started, owes'⟩
          · exact ⟨_, List.mem_append_left _ stays, still⟩
          · exact ⟨new, List.mem_append_right _ started, owes'⟩
        · have kept : (threads.set thread (next answer))[index]? = some program := by
            rw [List.getElem?_set_ne (Ne.symm same)]
            exact found'
          exact ⟨program, List.mem_append_left _ (List.mem_of_getElem? kept), owes⟩
      · exact ⟨_, List.mem_append_left _ stays,
          mends.incurs (allSound _ (List.mem_of_getElem? found)) allowed answers before broke⟩

/-- **As long as the state needs mending, some thread owes it**, in every permitted interleaving. -/
theorem Mends.owed (mends : Mends machine permitted broken sound owing)
    {log : List (Nat × Event I)} (follows : Follows (machine.Guarded fun config label =>
      permitted config.shared label.2) config log last) (start : Owed broken sound owing config) :
    Owed broken sound owing last :=
  follows.preserves (Owed broken sound owing) (fun owed step => mends.step owed step.1 step.2) start

end Owed

end Threads
