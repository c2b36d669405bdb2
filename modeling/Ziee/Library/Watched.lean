/-
**Runs with a history variable.**

What a system is to guarantee may speak of its history: how many failures there were since the last
success, whether a turn is under way. A `Watch` computes such a variable next to the state, from the
state and the label of each step, and says which steps it allows.

* `Watch.Step` — a step of the system that the watch allows, with what the watch makes of it.
* `Machine.watched_execute` — a computed interleaving, watched.
-/

import Ziee.Library.Threads

namespace Threads

open PortProgram

variable {σ L τ : Type}

/-- **A history variable**, and the steps that are considered. -/
structure Watch (σ L τ : Type) where
  next : σ → L → τ → τ
  allows : σ → τ → L → Bool

def Watch.Step (watch : Watch σ L τ) (step : σ → L → σ → Prop) : σ × τ → L → σ × τ → Prop :=
  fun before label after => watch.allows before.1 before.2 label = true ∧
    step before.1 label after.1 ∧ after.2 = watch.next before.1 label before.2

/-- The same variable, and every step is considered. -/
def Watch.unguarded (watch : Watch σ L τ) : Watch σ L τ :=
  { watch with allows := fun _ _ _ => true }

section Watched

variable {watch : Watch σ L τ} {step : σ → L → σ → Prop} {first last : σ × τ} {log : List L}

/-- **A watched run is a run.** -/
theorem Watch.follows (watched : Follows (watch.Step step) first log last) :
    Follows step first.1 log last.1 := by
  induction watched with
  | nil => exact .nil _
  | cons here _ ih => exact .cons here.2.1 ih

end Watched

/-! ### Computed interleavings -/

section Execute

variable {I : Interface} {ε α : Type} {machine : Machine I ε α σ}
  {answer : σ → ∀ query, I.Answer query × σ} {watch : Watch (Config I ε α σ) (Nat × Event I) τ}

/-- The history variable after the steps of a schedule. -/
def Machine.observe (machine : Machine I ε α σ) (answer : σ → ∀ query, I.Answer query × σ)
    (watch : Watch (Config I ε α σ) (Nat × Event I) τ) : Config I ε α σ → τ → List Nat → τ
  | _, ghost, [] => ghost
  | config, ghost, thread :: rest =>
    match machine.act answer config thread with
    | some (label, config') =>
      machine.observe answer watch config' (watch.next config label ghost) rest
    | none => machine.observe answer watch config ghost rest

/-- Whether the watch allows every step the schedule makes. -/
def Machine.permits (machine : Machine I ε α σ) (answer : σ → ∀ query, I.Answer query × σ)
    (watch : Watch (Config I ε α σ) (Nat × Event I) τ) : Config I ε α σ → τ → List Nat → Bool
  | _, _, [] => true
  | config, ghost, thread :: rest =>
    match machine.act answer config thread with
    | some (label, config') => watch.allows config ghost label &&
      machine.permits answer watch config' (watch.next config label ghost) rest
    | none => machine.permits answer watch config ghost rest

/-- **A schedule that the watch allows makes a watched interleaving.** -/
theorem Machine.watched_execute
    (sound : ∀ shared query, machine.answers shared ⟨query, (answer shared query).1⟩
      (answer shared query).2) (schedule : List Nat) :
    ∀ config ghost, machine.permits answer watch config ghost schedule = true →
      Follows (watch.Step machine.Step) (config, ghost) (machine.execute answer config schedule).1
        ((machine.execute answer config schedule).2,
          machine.observe answer watch config ghost schedule) := by
  induction schedule with
  | nil => exact fun config ghost _ => .nil _
  | cons thread rest ih =>
    intro config ghost permitted
    unfold Machine.permits at permitted
    unfold Machine.execute Machine.observe
    cases acts : machine.act answer config thread with
    | none =>
      simp only [acts] at permitted
      exact ih config ghost permitted
    | some step =>
      obtain ⟨label, config'⟩ := step
      simp only [acts, Bool.and_eq_true] at permitted
      exact .cons ⟨permitted.1, machine.step_of_act sound acts, rfl⟩
        (ih config' (watch.next config label ghost) permitted.2)

end Execute

end Threads
