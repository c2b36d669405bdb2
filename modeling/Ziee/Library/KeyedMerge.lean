/-
**Merging the items of each key, in the order of the keys.**

A loop keeps one item for each key and merges every later item of the key into it; a list remembers
the keys in the order in which they came first.

* `firstSeen` — the keys in that order.
* `merged_exists` — what merging joins holds of what is made of a group when it holds in the group.
* **`map_key_mergeItems`** — **one item for each key**, when a merged item keeps its key.
* **`mergeItems_fixed`** — **merging the result again changes nothing**.
-/

import Mathlib.Data.List.Induction
import Mathlib.Data.List.Nodup

namespace Ziee.Library.KeyedMerge

variable {α κ : Type} [DecidableEq κ]

/-! ### Keys in the order in which they come first -/

def firstSeen (keys : List κ) : List κ :=
  keys.foldl (fun kept key => if key ∈ kept then kept else kept ++ [key]) []

variable {keys : List κ} {key : κ}

theorem firstSeen_concat (keys : List κ) (key : κ) : firstSeen (keys ++ [key]) =
      if key ∈ firstSeen keys then firstSeen keys else firstSeen keys ++ [key] := by
  unfold firstSeen
  rw [List.foldl_append]
  rfl

theorem mem_firstSeen : key ∈ firstSeen keys ↔ key ∈ keys := by
  induction keys using List.reverseRecOn with
  | nil => rfl
  | append_singleton keys last ih =>
    rw [firstSeen_concat]
    by_cases seen : last ∈ firstSeen keys
    · rw [if_pos seen, ih, List.mem_append, List.mem_singleton]
      refine ⟨Or.inl, ?_⟩
      rintro (before | rfl)
      · exact before
      · exact ih.mp seen
    · rw [if_neg seen, List.mem_append, List.mem_append, ih]

theorem nodup_firstSeen (keys : List κ) : (firstSeen keys).Nodup := by
  induction keys using List.reverseRecOn with
  | nil => exact List.nodup_nil
  | append_singleton keys last ih =>
    rw [firstSeen_concat]
    by_cases seen : last ∈ firstSeen keys
    · rwa [if_pos seen]
    · rw [if_neg seen, ← List.concat_eq_append]
      exact ih.concat seen

theorem firstSeen_of_nodup (different : keys.Nodup) : firstSeen keys = keys := by
  induction keys using List.reverseRecOn with
  | nil => rfl
  | append_singleton keys last ih =>
    obtain ⟨earlier, -, apart⟩ := List.nodup_append.mp different
    have new : last ∉ keys := fun there => apart last there last (List.mem_singleton_self _) rfl
    rw [firstSeen_concat, if_neg (mt mem_firstSeen.mp new), ih earlier]

/-! ### The loop -/

/-- One item for each key, and the keys. -/
structure Merging (α κ : Type) where
  order : List κ
  groups : κ → Option α

section Loop

variable (keyOf : α → κ) (merge : α → α → α)

def Merging.take (state : Merging α κ) (item : α) : Merging α κ :=
  match state.groups (keyOf item) with
  | some existing =>
    { state with groups := fun key =>
        if key = keyOf item then some (merge existing item) else state.groups key }
  | none =>
    { order := state.order ++ [keyOf item]
      groups := fun key => if key = keyOf item then some item else state.groups key }

def takeOut : List κ → (κ → Option α) → List α
  | [], _ => []
  | key :: keys, groups =>
    let rest := takeOut keys fun other => if other = key then none else groups other
    match groups key with
    | some item => item :: rest
    | none => rest

/-- **The loop.** -/
def mergeItems (items : List α) : List α :=
  let state := items.foldl (Merging.take keyOf merge) ⟨[], fun _ => none⟩
  takeOut state.order state.groups

def group (items : List α) (key : κ) : List α := items.filter fun item => keyOf item = key

/-- What is made of the items of one key. -/
def merged : List α → Option α
  | [] => none
  | first :: rest => some (rest.foldl merge first)

variable {keyOf merge} {items : List α} {item : α}

theorem merged_concat (items : List α) (item : α) : merged merge (items ++ [item]) =
    some (match merged merge items with
      | some existing => merge existing item
      | none => item) := by
  cases items with
  | nil => rfl
  | cons first rest => simp [merged]

theorem merged_eq_none_iff : merged merge items = none ↔ items = [] := by
  cases items <;> simp [merged]

theorem group_eq_nil_iff : group keyOf items key = [] ↔ key ∉ items.map keyOf := by
  rw [group, List.filter_eq_nil_iff, List.mem_map]
  simp

theorem group_concat_same (items : List α) (item : α) :
    group keyOf (items ++ [item]) (keyOf item) = group keyOf items (keyOf item) ++ [item] := by
  simp [group]

theorem group_concat_other (other : key ≠ keyOf item) (items : List α) :
    group keyOf (items ++ [item]) key = group keyOf items key := by
  simp [group, Ne.symm other]

theorem foldl_take (items : List α) : items.foldl (Merging.take keyOf merge) ⟨[], fun _ => none⟩ =
      ⟨firstSeen (items.map keyOf), fun key => merged merge (group keyOf items key)⟩ := by
  induction items using List.reverseRecOn with
  | nil => rfl
  | append_singleton items item ih =>
    rw [List.foldl_append, ih, List.map_append, List.map_singleton, firstSeen_concat]
    have groups : ∀ key, merged merge (group keyOf (items ++ [item]) key) =
        if key = keyOf item then merged merge (group keyOf items (keyOf item) ++ [item])
        else merged merge (group keyOf items key) := by
      intro key
      by_cases same : key = keyOf item
      · rw [if_pos same, same, group_concat_same]
      · rw [if_neg same, group_concat_other same]
    simp only [List.foldl_cons, List.foldl_nil, Merging.take, groups, merged_concat]
    cases found : merged merge (group keyOf items (keyOf item)) with
    | none =>
      have new : keyOf item ∉ items.map keyOf :=
        group_eq_nil_iff.mp (merged_eq_none_iff.mp found)
      rw [if_neg (mt mem_firstSeen.mp new)]
    | some existing =>
      have seen : keyOf item ∈ items.map keyOf := by
        by_contra new
        rw [group_eq_nil_iff.mpr new] at found
        cases found
      rw [if_pos (mem_firstSeen.mpr seen)]

omit [DecidableEq κ] in
theorem filterMap_congr {keys : List κ} {first second : κ → Option α}
    (same : ∀ key ∈ keys, first key = second key) :
    keys.filterMap first = keys.filterMap second := by
  induction keys with
  | nil => rfl
  | cons key keys ih =>
    obtain ⟨here, later⟩ := List.forall_mem_cons.mp same
    rw [List.filterMap_cons, List.filterMap_cons, here, ih later]

theorem takeOut_eq {keys : List κ} (different : keys.Nodup) (groups : κ → Option α) :
    takeOut keys groups = keys.filterMap groups := by
  induction keys generalizing groups with
  | nil => rfl
  | cons key keys ih =>
    obtain ⟨absent, later⟩ := List.nodup_cons.mp different
    have rest : keys.filterMap (fun other => if other = key then none else groups other) =
        keys.filterMap groups := by
      refine filterMap_congr fun other member => if_neg ?_
      rintro rfl
      exact absent member
    rw [takeOut, ih later, rest, List.filterMap_cons]
    cases groups key <;> rfl

/-- **The loop has what is made of the items of each key**, in the order of the keys. -/
theorem mergeItems_eq (items : List α) : mergeItems keyOf merge items =
    (firstSeen (items.map keyOf)).filterMap fun key => merged merge (group keyOf items key) := by
  unfold mergeItems
  rw [foldl_take]
  exact takeOut_eq (nodup_firstSeen _) _

theorem merged_induction {motive : List α → α → Prop} {out : α}
    (single : ∀ item, motive [item] item)
    (more : ∀ items out item, motive items out → motive (items ++ [item]) (merge out item))
    (made : merged merge items = some out) : motive items out := by
  induction items using List.reverseRecOn generalizing out with
  | nil => cases made
  | append_singleton items item ih =>
    rw [merged_concat] at made
    cases found : merged merge items with
    | none =>
      rw [found] at made
      cases made
      rw [merged_eq_none_iff.mp found]
      exact single item
    | some existing =>
      rw [found] at made
      cases made
      exact more items existing item (ih found)

theorem merged_exists {view : α → Prop} {out : α}
    (joins : ∀ first second, view (merge first second) ↔ view first ∨ view second)
    (made : merged merge items = some out) : view out ↔ ∃ item ∈ items, view item := by
  refine merged_induction (motive := fun row out => view out ↔ ∃ item ∈ row, view item) ?_ ?_ made
  · simp
  · intro items out item ih
    rw [joins, ih]
    simp [or_and_right, exists_or]

theorem exists_group {out : α} (member : out ∈ mergeItems keyOf merge items) :
    ∃ key ∈ items.map keyOf, merged merge (group keyOf items key) = some out := by
  rw [mergeItems_eq] at member
  obtain ⟨key, there, made⟩ := List.mem_filterMap.mp member
  exact ⟨key, mem_firstSeen.mp there, made⟩

section Keeps

variable (keeps : ∀ first second, keyOf first = keyOf second → keyOf (merge first second) =
    keyOf first)
include keeps

theorem key_merged {out : α} (made : merged merge (group keyOf items key) = some out) :
    keyOf out = key := by
  have all : ∀ item ∈ group keyOf items key, keyOf item = key := by
    intro item member
    simpa using (List.mem_filter.mp member).2
  generalize group keyOf items key = row at all made
  refine merged_induction (motive := fun row out => (∀ item ∈ row, keyOf item = key) →
    keyOf out = key) ?_ ?_ made all
  · exact fun item same => same item (List.mem_singleton_self item)
  · intro items out item ih same
    obtain ⟨earlier, last⟩ := List.forall_mem_append.mp same
    have one : keyOf item = key := last item (List.mem_singleton_self item)
    rw [keeps out item ((ih earlier).trans one.symm), ih earlier]

theorem map_key_mergeItems (items : List α) :
    (mergeItems keyOf merge items).map keyOf = firstSeen (items.map keyOf) := by
  rw [mergeItems_eq]
  have made : ∀ key ∈ firstSeen (items.map keyOf), ∃ out,
      merged merge (group keyOf items key) = some out ∧ keyOf out = key := by
    intro key member
    obtain ⟨out, made⟩ := Option.ne_none_iff_exists'.mp fun none =>
      group_eq_nil_iff.mp (merged_eq_none_iff.mp none) (mem_firstSeen.mp member)
    exact ⟨out, made, key_merged keeps made⟩
  revert made
  generalize firstSeen (items.map keyOf) = keys
  intro made
  induction keys with
  | nil => rfl
  | cons key keys ih =>
    obtain ⟨⟨out, here, same⟩, later⟩ := List.forall_mem_cons.mp made
    rw [List.filterMap_cons, here]
    dsimp only
    rw [List.map_cons, same, ih later]

omit keeps in
theorem mergeItems_of_nodup (different : (items.map keyOf).Nodup) :
    mergeItems keyOf merge items = items := by
  have alone : ∀ item ∈ items, group keyOf items (keyOf item) = [item] := by
    intro item member
    obtain ⟨before, after, rfl⟩ := List.append_of_mem member
    rw [List.map_append, List.map_cons, List.nodup_append, List.nodup_cons] at different
    obtain ⟨-, ⟨absent, -⟩, apart⟩ := different
    have front : before.filter (fun other => keyOf other = keyOf item) = [] := by
      rw [List.filter_eq_nil_iff]
      intro other there same
      exact apart _ (List.mem_map_of_mem there) _ List.mem_cons_self (by simpa using same)
    have back : after.filter (fun other => keyOf other = keyOf item) = [] := by
      rw [List.filter_eq_nil_iff]
      intro other there same
      refine absent ?_
      rw [← (by simpa using same : keyOf other = keyOf item)]
      exact List.mem_map_of_mem there
    rw [group, List.filter_append, List.filter_cons_of_pos (by simp), front, back]
    rfl
  rw [mergeItems_eq, firstSeen_of_nodup different, List.filterMap_map]
  have same : items.filterMap ((fun key => merged merge (group keyOf items key)) ∘ keyOf) =
      items.filterMap some := by
    refine filterMap_congr fun item member => ?_
    rw [Function.comp_apply, alone item member]
    rfl
  rw [same, List.filterMap_some]

/-- **Merging the result again changes nothing.** -/
theorem mergeItems_fixed (items : List α) :
    mergeItems keyOf merge (mergeItems keyOf merge items) = mergeItems keyOf merge items := by
  refine mergeItems_of_nodup ?_
  rw [map_key_mergeItems keeps]
  exact nodup_firstSeen _

end Keeps

end Loop

end Ziee.Library.KeyedMerge
