/-
**Verdicts that are put together from verdicts.** A task has one conjunct for each key; a conjunct
has tasks of its own, and makes one verdict of theirs. A task is accepted if all its conjuncts are.

Tasks may go in circles, so `judge` counts how deep it may go; `Judged` is what it finds at some
depth.

* `judge_mono` — going deeper changes no verdict, and so **`Judged.unique`**.
* **`judged_iff`** — a task has a verdict exactly when all its conjuncts have.
* `Conjunct.Matches` — conjuncts with tasks that are related one by one.
-/

import Mathlib.Data.List.Forall2

namespace Ziee.Library

variable {Task Other Key : Type}

theorem mapM_eq_some {α β : Type} {f : α → Option β} {items : List α} {results : List β} :
    items.mapM f = some results ↔ List.Forall₂
      (fun item result => f item = some result) items results := by
  induction items generalizing results with
  | nil => simp [eq_comm]
  | cons item items ih =>
    rw [List.mapM_cons]
    constructor
    · intro same
      obtain ⟨first, here, same⟩ := Option.bind_eq_some_iff.mp same
      obtain ⟨rest, there, same⟩ := Option.bind_eq_some_iff.mp same
      cases same
      exact .cons here (ih.mp there)
    · rintro (_ | ⟨here, there⟩)
      rw [here, ih.mpr there]
      rfl

theorem all_getD {α : Type} {f : α → Option Bool} {items : List α} {verdicts : List Bool}
    (each : List.Forall₂ (fun item verdict => f item = some verdict) items verdicts) :
    (∀ item ∈ items, f item = some ((f item).getD false)) ∧
      (items.all fun item => (f item).getD false) = verdicts.all id := by
  induction each with
  | nil => exact ⟨by simp, rfl⟩
  | cons here _ ih =>
    refine ⟨fun item member => ?_, ?_⟩
    · rcases List.mem_cons.mp member with rfl | later
      · rw [here]
        rfl
      · exact ih.1 item later
    · rw [List.all_cons, List.all_cons, ih.2, here, Option.getD_some, id_eq]

theorem exists_depth {α : Type} {holds : α → Nat → Prop} {items : List α}
    (later : ∀ item less more, less ≤ more → holds item less → holds item more)
    (each : ∀ item ∈ items, ∃ depth, holds item depth) : ∃ depth, ∀ item ∈ items,
      holds item depth := by
  induction items with
  | nil => exact ⟨0, by simp⟩
  | cons item items ih =>
    obtain ⟨first, here⟩ := each item List.mem_cons_self
    obtain ⟨second, rest⟩ := ih fun other member => each other (List.mem_cons_of_mem _ member)
    refine ⟨max first second, fun other member => ?_⟩
    rcases List.mem_cons.mp member with rfl | member
    · exact later _ _ _ (Nat.le_max_left _ _) here
    · exact later _ _ _ (Nat.le_max_right _ _) (rest other member)

/-! ### Conjuncts -/

structure Conjunct (Task : Type) where
  subs : List Task
  combine : List Bool → Bool

namespace Conjunct

def fixed (verdict : Bool) : Conjunct Task := ⟨[], fun _ => verdict⟩

def run (eval : Task → Option Bool) (conjunct : Conjunct Task) : Option Bool :=
  (conjunct.subs.mapM eval).map conjunct.combine

/-- **The verdict of a conjunct**, where the verdicts of tasks are given. -/
def Settles (settled : Task → Bool → Prop) (conjunct : Conjunct Task) (verdict : Bool) : Prop :=
  ∃ verdicts, List.Forall₂ settled conjunct.subs verdicts ∧ conjunct.combine verdicts = verdict

/-- **Conjuncts that match**: their tasks are related one by one. -/
def Matches (related : Task → Other → Prop) (conjunct : Conjunct Task)
    (other : Conjunct Other) : Prop :=
  List.Forall₂ related conjunct.subs other.subs ∧ conjunct.combine = other.combine

variable {settled : Task → Bool → Prop} {settledOther : Other → Bool → Prop}
    {conjunct : Conjunct Task}
  {other : Conjunct Other} {verdict : Bool}

theorem run_eq_some {eval : Task → Option Bool} :
    conjunct.run eval = some verdict ↔ conjunct.Settles
      (fun task verdict => eval task = some verdict) verdict := by
  rw [run, Option.map_eq_some_iff]
  simp only [mapM_eq_some, Settles]

theorem settles_fixed {given : Bool} :
    (fixed given : Conjunct Task).Settles settled verdict ↔ given = verdict := by
  constructor
  · rintro ⟨_, _, same⟩
    exact same
  · intro same
    exact ⟨[], .nil, same⟩

theorem settles_one {task : Task} :
    (⟨[task], fun verdicts => verdicts.all id⟩ : Conjunct Task).Settles settled verdict ↔
      settled task verdict := by
  constructor
  · rintro ⟨verdicts, _ | ⟨here, ⟨⟩⟩, same⟩
    simp only [List.all_cons, id_eq, List.all_nil, Bool.and_true] at same
    exact same ▸ here
  · intro here
    exact ⟨[verdict], .cons here .nil, by simp⟩

/-- **Matching conjuncts have one verdict.** -/
theorem Settles.transfer {related : Task → Other → Prop} (pair : conjunct.Matches related other)
    (carried : ∀ task twin, related task twin → ∀ verdict, settled task verdict →
      settledOther twin verdict)
    (here : conjunct.Settles settled verdict) : other.Settles settledOther verdict := by
  obtain ⟨verdicts, each, same⟩ := here
  refine ⟨verdicts, ?_, pair.2 ▸ same⟩
  have pairs := pair.1
  clear same pair
  generalize conjunct.subs = tasks at pairs each
  generalize other.subs = twins at pairs
  induction pairs generalizing verdicts with
  | nil =>
    cases each
    exact .nil
  | cons twin _ ih =>
    obtain _ | ⟨first, rest⟩ := each
    exact .cons (carried _ _ twin _ first) (ih _ rest)

theorem Matches.flip {related : Task → Other → Prop} (pair : conjunct.Matches related other) :
    other.Matches (fun twin task => related task twin) conjunct :=
  ⟨List.Forall₂.flip pair.1, pair.2.symm⟩

end Conjunct

/-! ### Tasks -/

section Judge

variable (keys : List Key) (conjunct : Key → Task → Conjunct Task)

def judge : Nat → Task → Option Bool
  | 0, _ => none
  | depth + 1, task =>
    (keys.mapM fun key => (conjunct key task).run (judge depth)).map fun verdicts => verdicts.all id

/-- **The verdict of a task.** -/
def Judged (task : Task) (verdict : Bool) : Prop :=
    ∃ depth, judge keys conjunct depth task = some verdict

def Agreed (settled : Task → Bool → Prop) (conjuncts : Key → Conjunct Task)
    (verdict : Bool) : Prop :=
  ∃ verdicts : Key → Bool, (∀ key ∈ keys, (conjuncts key).Settles settled (verdicts key)) ∧
    keys.all verdicts = verdict

variable {keys conjunct} {task : Task} {verdict : Bool} {depth : Nat}

/-- **One level down.** -/
theorem judge_succ : judge keys conjunct (depth + 1) task = some verdict ↔
    Agreed keys (fun task verdict => judge keys conjunct depth task = some verdict)
      (conjunct · task) verdict := by
  rw [judge, Option.map_eq_some_iff]
  constructor
  · rintro ⟨found, each, same⟩
    rw [mapM_eq_some] at each
    obtain ⟨settled, all⟩ := all_getD each
    exact ⟨fun key => ((conjunct key task).run (judge keys conjunct depth)).getD false,
      fun key member => Conjunct.run_eq_some.mp (settled key member), all.trans same⟩
  · rintro ⟨verdicts, each, same⟩
    refine ⟨keys.map verdicts, ?_, by rw [List.all_map]; exact same⟩
    rw [mapM_eq_some, List.forall₂_map_right_iff, List.forall₂_same]
    exact fun key member => Conjunct.run_eq_some.mpr (each key member)

theorem Agreed.mono {settled further : Task → Bool → Prop} {conjuncts : Key → Conjunct Task}
    (more : ∀ task verdict, settled task verdict → further task verdict)
    (agreed : Agreed keys settled conjuncts verdict) : Agreed keys further conjuncts verdict := by
  obtain ⟨verdicts, each, same⟩ := agreed
  refine ⟨verdicts, fun key member => ?_, same⟩
  obtain ⟨found, subs, combined⟩ := each key member
  exact ⟨found, subs.imp more, combined⟩

/-- **Going deeper changes no verdict.** -/
theorem judge_mono {less more : Nat} (deeper : less ≤ more)
    (found : judge keys conjunct less task = some verdict) :
    judge keys conjunct more task = some verdict := by
  induction less generalizing task verdict more with
  | zero => cases found
  | succ less ih =>
    obtain ⟨more, rfl⟩ := Nat.exists_eq_succ_of_ne_zero (by omega : more ≠ 0)
    rw [Nat.succ_eq_add_one, judge_succ]
    exact (judge_succ.mp found).mono fun _ _ => ih (by omega)

/-- **A task has one verdict.** -/
theorem Judged.unique {other : Bool} (first : Judged keys conjunct task verdict)
    (second : Judged keys conjunct task other) : verdict = other := by
  obtain ⟨less, here⟩ := first
  obtain ⟨more, there⟩ := second
  have one := judge_mono (Nat.le_max_left less more) here
  rw [judge_mono (Nat.le_max_right less more) there] at one
  exact (Option.some.inj one).symm

theorem settles_at_depth {sub : Conjunct Task}
    (settled : sub.Settles (Judged keys conjunct) verdict) :
    ∃ depth, sub.Settles (fun task verdict => judge keys conjunct depth task = some verdict)
      verdict := by
  obtain ⟨found, each, same⟩ := settled
  suffices all : ∃ depth, List.Forall₂ (fun task verdict =>
    judge keys conjunct depth task = some verdict) sub.subs found by
    obtain ⟨depth, deep⟩ := all
    exact ⟨depth, found, deep, same⟩
  clear same
  generalize sub.subs = tasks at each ⊢
  induction each with
  | nil => exact ⟨0, .nil⟩
  | cons here _ ih =>
    obtain ⟨first, here⟩ := here
    obtain ⟨second, rest⟩ := ih
    exact ⟨max first second, .cons (judge_mono (Nat.le_max_left _ _) here)
      (rest.imp fun _ _ => judge_mono (Nat.le_max_right _ _))⟩

/-- **The verdict of a task is the conjunction of its conjuncts' verdicts.** -/
theorem judged_iff : Judged keys conjunct task verdict ↔
    Agreed keys (Judged keys conjunct) (conjunct · task) verdict := by
  constructor
  · rintro ⟨depth, found⟩
    cases depth with
    | zero => cases found
    | succ depth => exact (judge_succ.mp found).mono fun _ _ here => ⟨depth, here⟩
  · rintro ⟨verdicts, each, same⟩
    have later : ∀ key less more, less ≤ more → (conjunct key task).Settles (fun task verdict =>
          judge keys conjunct less task = some verdict)
          (verdicts key) →
        (conjunct key task).Settles (fun task verdict =>
          judge keys conjunct more task = some verdict)
          (verdicts key) := by
      rintro key less more deeper ⟨found, subs, combined⟩
      exact ⟨found, subs.imp fun _ _ => judge_mono deeper, combined⟩
    obtain ⟨depth, deep⟩ := exists_depth later fun key member => settles_at_depth (each key member)
    exact ⟨depth + 1, judge_succ.mpr ⟨verdicts, deep, same⟩⟩

end Judge

end Ziee.Library
