/-
**Properties of all states of a run.**

A run is the list of its operations, a state of it an initial part of this list.

* `EachStep` — every operation meets a condition, given the operations before it.
* **`prefixes_iff`** — when one operation keeps a property exactly if it meets the condition, the
  property holds in every state exactly if every operation meets it.
-/

import Mathlib.Data.List.Infix

namespace Prefixes

variable {α : Type} {condition : List α → α → Prop} {ops : List α} {op : α}

/-- **Every operation meets the condition**, given the operations before it. -/
def EachStep (condition : List α → α → Prop) (ops : List α) : Prop :=
  ∀ before op after, ops = before ++ op :: after → condition before op

theorem eachStep_nil : EachStep condition [] := by
  intro before op after same
  simp at same

theorem eachStep_concat :
    EachStep condition (ops ++ [op]) ↔ EachStep condition ops ∧ condition ops op := by
  constructor
  · intro each
    exact ⟨fun before other after same => each before other (after ++ [op]) (by simp [same]),
      each ops op [] rfl⟩
  · rintro ⟨each, last⟩ before other after same
    rcases List.eq_nil_or_concat after with rfl | ⟨middle, final, rfl⟩
    · obtain ⟨rfl, here⟩ := List.append_inj' same rfl
      rwa [← List.singleton_inj.mp here]
    · rw [List.concat_eq_append, ← List.cons_append, ← List.append_assoc] at same
      obtain ⟨rfl, -⟩ := List.append_inj' same rfl
      exact each before other middle rfl

theorem eachStep_of_forall (each : ∀ op ∈ ops, ∀ before, condition before op) :
    EachStep condition ops :=
  fun before op _ same => each op (by simp [same]) before

/-- **A property of every state.** The runs may be restricted to those that are `good`. -/
theorem prefixes_iff {good property : List α → Prop}
    (closed : ∀ ops op, good (ops ++ [op]) → good ops) (start : property [])
    (keep : ∀ ops op, good (ops ++ [op]) → property ops →
      (property (ops ++ [op]) ↔ condition ops op)) (isGood : good ops) :
    (∀ before, before <+: ops → property before) ↔ EachStep condition ops := by
  induction ops using List.reverseRecOn with
  | nil =>
    refine ⟨fun _ => eachStep_nil, fun _ before initial => ?_⟩
    rwa [List.prefix_nil.mp initial]
  | append_singleton ops op ih =>
    have earlier := ih (closed ops op isGood)
    rw [eachStep_concat, ← earlier]
    constructor
    · intro holds
      have sofar : ∀ before, before <+: ops → property before := fun before initial =>
        holds before (initial.trans (List.prefix_append ops [op]))
      have now : property ops := sofar ops (List.prefix_refl ops)
      exact ⟨sofar, (keep ops op isGood now).mp (holds _ (List.prefix_refl _))⟩
    · rintro ⟨sofar, last⟩ before initial
      rcases List.prefix_concat_iff.mp initial with rfl | initial
      · exact (keep ops op isGood (sofar ops (List.prefix_refl ops))).mpr last
      · exact sofar before initial

end Prefixes
