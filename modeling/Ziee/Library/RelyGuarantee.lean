/-
**Threads that uphold an invariant under each other's steps.**

What a thread does next depends on what it was answered, and what it was answered may be out of date
by then. A relation says what all steps leave as it was; a fact about the shared state that the
relation keeps is still true when the thread goes on.

* `Upholds.stable` — what upholds them does so from every later state.
* `Upholds.attempt`, `Upholds.read` — the rules for a query and what follows it.
* `Machine.upheld` — **what every thread upholds holds in every interleaving**.
-/

import Ziee.Library.Threads

namespace Threads

open PortProgram

variable {I : Interface} {ε α β σ : Type}

/-- **The program keeps the invariant and the relation** with each of its queries, after any steps
of the others that keep the two. -/
def Upholds (answers : σ → Event I → σ → Prop) (relation : σ → σ → Prop) (invariant : σ → Prop) :
    σ → Program I ε α → Prop
  | _, .pure _ => True
  | _, .fail _ => True
  | shared, .ask query next => ∀ now, relation shared now → invariant now →
      ∀ answer later, answers now ⟨query, answer⟩ later → invariant later ∧ relation now later ∧
          Upholds answers relation invariant later (next answer)

section Upholds

variable {answers : σ → Event I → σ → Prop} {relation : σ → σ → Prop} {invariant : σ → Prop}
  {shared now : σ}

theorem Upholds.stable (trans : ∀ first second third, relation first second →
      relation second third → relation first third) (meanwhile : relation shared now)
    {program : Program I ε α} (upholds : Upholds answers relation invariant shared program) :
    Upholds answers relation invariant now program := by
  cases program with
  | pure | fail => trivial
  | ask query next =>
    intro then' since holds answer later answered
    exact upholds then' (trans _ _ _ meanwhile since) holds answer later answered

theorem Upholds.attempt {query : I.Query} {decode : I.Answer query → Except ε β}
    {rest : β → Program I ε α} (each : ∀ now, relation shared now → invariant now →
      ∀ answer later, answers now ⟨query, answer⟩ later → invariant later ∧ relation now later ∧
        ∀ value, decode answer = .ok value →
          Upholds answers relation invariant later (rest value)) :
    Upholds answers relation invariant shared (Program.attempt query decode >>= rest) := by
  intro now since holds answer later answered
  obtain ⟨after, meanwhile, goesOn⟩ := each now since holds answer later answered
  refine ⟨after, meanwhile, ?_⟩
  show Upholds answers relation invariant later (Program.ofExcept (decode answer) >>= rest)
  cases decoded : decode answer with
  | error error => trivial
  | ok value => exact goesOn value decoded

theorem Upholds.read {query : I.Query} {decode : I.Answer query → Except ε β}
    {rest : β → Program I ε α} (refl : ∀ shared, relation shared shared)
    (silent : ∀ now answer later, answers now ⟨query, answer⟩ later → later = now)
    (each : ∀ now, relation shared now → ∀ answer, answers now ⟨query, answer⟩ now →
      invariant now → ∀ value, decode answer = .ok value →
        Upholds answers relation invariant now (rest value)) :
    Upholds answers relation invariant shared (Program.attempt query decode >>= rest) := by
  refine Upholds.attempt fun now since holds answer later answered => ?_
  obtain rfl := silent now answer later answered
  exact ⟨holds, refl later, each later since answer answered holds⟩

theorem Upholds.bind {first : Program I ε β} {rest : β → Program I ε α}
    (head : Upholds answers relation invariant shared first)
    (tail : ∀ value later, Upholds answers relation invariant later (rest value)) :
    Upholds answers relation invariant shared (first >>= rest) := by
  induction first generalizing shared with
  | pure value => exact tail value shared
  | fail error => trivial
  | ask query next ih =>
    intro now since holds answer later answered
    obtain ⟨after, meanwhile, goesOn⟩ := head now since holds answer later answered
    exact ⟨after, meanwhile, ih answer goesOn⟩

theorem Upholds.caught {program : Program I ε α}
    (upholds : Upholds answers relation invariant shared program) :
    Upholds answers relation invariant shared program.caught := by
  induction program generalizing shared with
  | pure | fail => trivial
  | ask query next ih =>
    intro now since holds answer later answered
    obtain ⟨after, meanwhile, goesOn⟩ := upholds now since holds answer later answered
    exact ⟨after, meanwhile, ih answer goesOn⟩

/-- **What every thread upholds holds in every interleaving.** -/
theorem Machine.upheld {machine : Machine I ε α σ} (relation : σ → σ → Prop)
    (invariant : σ → Prop) (refl : ∀ shared, relation shared shared)
    (trans : ∀ first second third, relation first second → relation second third →
      relation first third) (forked : ∀ event, machine.forks event = [])
    {config last : Config I ε α σ} {log : List (Nat × Event I)}
    (follows : Follows machine.Step config log last) (start : invariant config.shared)
    (each : ∀ program ∈ config.threads,
      Upholds machine.answers relation invariant config.shared program) :
    invariant last.shared := by
  have both := follows.preserves (fun config => invariant config.shared ∧
      ∀ program ∈ config.threads, Upholds machine.answers relation invariant config.shared program)
    (fun {_ _ _} holds step => by
      cases step with
      | @act shared shared' threads thread query next answer found answered =>
        obtain ⟨before, upholds⟩ := holds
        have asks := upholds _ (List.mem_of_getElem? found)
        obtain ⟨after, meanwhile, rest⟩ := asks shared (refl shared) before answer shared' answered
        refine ⟨after, fun program member => ?_⟩
        rw [forked, List.append_nil] at member
        rcases List.mem_or_eq_of_mem_set member with member | rfl
        · exact (upholds program member).stable trans meanwhile
        · exact rest) ⟨start, each⟩
  exact both.1

end Upholds

/-! ### What a program requires -/

/-- **The program asks only what it may**, whatever the others do meanwhile. -/
def Secures (answers : σ → Event I → σ → Prop) (relation : σ → σ → Prop)
    (requires : σ → I.Query → Prop) : σ → Program I ε α → Prop
  | _, .pure _ => True
  | _, .fail _ => True
  | shared, .ask query next => ∀ now, relation shared now → requires now query ∧
      ∀ answer later, answers now ⟨query, answer⟩ later →
        Secures answers relation requires later (next answer)

theorem Secures.stable {answers : σ → Event I → σ → Prop} {relation : σ → σ → Prop}
    {requires : σ → I.Query → Prop} {shared now : σ} (trans : ∀ first second third,
      relation first second → relation second third → relation first third)
    (meanwhile : relation shared now) {program : Program I ε α}
    (secures : Secures answers relation requires shared program) :
    Secures answers relation requires now program := by
  cases program with
  | pure | fail => trivial
  | ask query next => exact fun then' since => secures then' (trans _ _ _ meanwhile since)

/-! ### Permitted steps -/

def Machine.restrict (machine : Machine I ε α σ) (permitted : σ → Event I → Prop) :
    Machine I ε α σ :=
  ⟨fun shared event shared' => permitted shared event ∧ machine.answers shared event shared',
    machine.forks⟩

theorem Machine.restrict_follows {machine : Machine I ε α σ} {permitted : σ → Event I → Prop}
    {config last : Config I ε α σ} {log : List (Nat × Event I)}
    (follows : Follows (machine.Guarded fun config label => permitted config.shared label.2) config
      log last) : Follows (machine.restrict permitted).Step config log last := by
  induction follows with
  | nil => exact .nil _
  | cons step _ ih =>
    obtain ⟨allowed, step⟩ := step
    refine .cons ?_ ih
    cases step with
    | act found answered => exact .act found ⟨allowed, answered⟩

end Threads
