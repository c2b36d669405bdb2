/-
**Gathering the items of one key.**

A loop puts every item that comes first with its key in a row, and lets it absorb the later ones. An
index says where the item of a key stands. Items without a key stay alone.

* `gather` — the loop; `firsts` — the items that come first with their key.
* `gathered` — an item with all those of its key absorbed.
* **`gather_eq`** — **the loop gathers**: in place of every first item stands what it has absorbed.
* `firsts_pairwise`, `exists_first`, `firsts_sublist`, `first_earliest`, `countP_firsts` — the first
  items.
-/

import Mathlib.Data.List.Induction
import Mathlib.Data.List.Pairwise

namespace Grouping

variable {α κ : Type} [DecidableEq κ] (key : α → Option κ) (absorb : α → α → α)

/-- What is in place, and where the item of each key stands. -/
structure Gathering (α κ : Type) where
  places : List (κ × Nat)
  out : List α

def Gathering.take (gathering : Gathering α κ) (item : α) : Gathering α κ :=
  match (key item).bind fun k => gathering.places.lookup k with
  | some place =>
    { gathering with out := gathering.out.modify place fun first => absorb first item }
  | none =>
    { places := match key item with
        | some k => (k, gathering.out.length) :: gathering.places
        | none => gathering.places
      out := gathering.out ++ [item] }

/-- **The loop.** -/
def gather (items : List α) : List α := (items.foldl (Gathering.take key absorb) ⟨[], []⟩).out

def same (first item : α) : Bool := (key first).isSome && key first = key item

def firsts (items : List α) : List α :=
  items.foldl (fun kept item => if kept.any (same key · item) then kept else kept ++ [item]) []

def gathered (items : List α) (first : α) : α := (items.filter (same key first)).foldl absorb first

variable {key absorb} {items : List α} {first item other : α} {k : κ}

variable {gathering : Gathering α κ}

theorem same_iff : same key first item = true ↔ ∃ k, key first = some k ∧ key item = some k := by
  unfold same
  cases key first <;> simp [eq_comm]

theorem same_comm : same key first item = same key item first := by
  rw [Bool.eq_iff_iff, same_iff, same_iff]
  exact exists_congr fun _ => and_comm

theorem same_trans (one : same key first item = true) (two : same key item other = true) :
    same key first other = true := by
  obtain ⟨k, here, there⟩ := same_iff.mp one
  obtain ⟨k', again, last⟩ := same_iff.mp two
  cases there.symm.trans again
  exact same_iff.mpr ⟨k, here, last⟩

/-! ### The first items -/

theorem firsts_append_singleton (items : List α) (item : α) : firsts key (items ++ [item]) =
    if (firsts key items).any (same key · item) then firsts key items
    else firsts key items ++ [item] := by
  unfold firsts
  rw [List.foldl_append]
  rfl

variable (key) in
theorem firsts_pairwise (items : List α) :
    (firsts key items).Pairwise fun first later => same key first later = false := by
  induction items using List.reverseRecOn with
  | nil => exact List.Pairwise.nil
  | append_singleton items item ih =>
    rw [firsts_append_singleton]
    by_cases seen : (firsts key items).any (same key · item) = true
    · rwa [if_pos seen]
    · rw [if_neg seen, List.pairwise_append]
      refine ⟨ih, List.pairwise_singleton _ _, ?_⟩
      intro first member later last
      rw [List.mem_singleton.mp last]
      rw [Bool.not_eq_true, List.any_eq_false] at seen
      exact Bool.eq_false_iff.mpr (seen first member)

variable (key) in
theorem firsts_sublist (items : List α) : (firsts key items).Sublist items := by
  induction items using List.reverseRecOn with
  | nil => exact List.Sublist.refl _
  | append_singleton items item ih =>
    rw [firsts_append_singleton]
    split
    · exact ih.trans (List.sublist_append_left items [item])
    · exact ih.append_right [item]

variable (key) in
theorem exists_first (member : item ∈ items) :
    ∃ first ∈ firsts key items, first = item ∨ same key first item = true := by
  induction items using List.reverseRecOn with
  | nil => cases member
  | append_singleton items last ih =>
    rw [firsts_append_singleton]
    by_cases seen : (firsts key items).any (same key · last) = true
    · rw [if_pos seen]
      rcases List.mem_append.mp member with earlier | now
      · exact ih earlier
      · obtain ⟨first, there, one⟩ := List.any_eq_true.mp seen
        exact ⟨first, there, Or.inr (List.mem_singleton.mp now ▸ one)⟩
    · rw [if_neg seen]
      rcases List.mem_append.mp member with earlier | now
      · obtain ⟨first, there, one⟩ := ih earlier
        exact ⟨first, List.mem_append_left _ there, one⟩
      · exact ⟨item, List.mem_append_right _ now, Or.inl rfl⟩

theorem first_earliest (member : first ∈ firsts key items) :
    ∃ before after, items = before ++ first :: after ∧
      ∀ item ∈ before, same key item first = false := by
  induction items using List.reverseRecOn with
  | nil => cases member
  | append_singleton items last ih =>
    rw [firsts_append_singleton] at member
    have earlier (there : first ∈ firsts key items) : ∃ before after,
        items ++ [last] = before ++ first :: after ∧
          ∀ item ∈ before, same key item first = false := by
      obtain ⟨before, after, rfl, apart⟩ := ih there
      exact ⟨before, after ++ [last], by simp, apart⟩
    split at member
    · exact earlier member
    · rename_i unseen
      rcases List.mem_append.mp member with there | now
      · exact earlier there
      · cases List.mem_singleton.mp now
        refine ⟨items, [], rfl, fun item here => ?_⟩
        rw [Bool.eq_false_iff]
        intro one
        rw [Bool.not_eq_true, List.any_eq_false] at unseen
        obtain ⟨first', kept, itself | again⟩ := exists_first key here
        · exact unseen first' kept (itself ▸ one)
        · exact unseen first' kept (same_trans again one)

theorem firsts_eq (one : first ∈ firsts key items) (two : other ∈ firsts key items)
    (alike : same key first other = true) : first = other := by
  by_contra differs
  have symmetric : Std.Symm fun first later => same key first later = false :=
    ⟨fun _ _ unlike => same_comm.trans unlike⟩
  have unlike := (firsts_pairwise key items).forall one two differs
  exact Bool.noConfusion (alike.symm.trans unlike)

theorem countP_firsts (once : items.Nodup) (member : item ∈ items) (p : α → Bool)
    (which : ∀ first ∈ firsts key items, p first = true ↔ first = item ∨
      same key first item = true) :
    (firsts key items).countP p = 1 := by
  obtain ⟨first, kept, found⟩ := exists_first key member
  obtain ⟨before, after, split⟩ := List.append_of_mem kept
  have distinct := (firsts_sublist key items).nodup once
  rw [split, List.nodup_append, List.nodup_cons] at distinct
  obtain ⟨-, ⟨absent, -⟩, disjoint⟩ := distinct
  have others (other : α) (there : other ∈ firsts key items) (differs : other ≠ first) :
      ¬p other = true := by
    intro hit
    refine differs (firsts_eq there kept ?_)
    rcases (which other there).mp hit with rfl | one
    · rw [same_comm]
      exact found.resolve_left fun itself => differs itself.symm
    · rcases found with rfl | two
      · exact one
      · rw [same_comm] at two
        exact same_trans one two
  have front : before.countP p = 0 := List.countP_eq_zero.mpr fun other there =>
    others other (split ▸ List.mem_append_left _ there)
      (disjoint other there first List.mem_cons_self)
  have back : after.countP p = 0 := List.countP_eq_zero.mpr fun other there => by
    refine others other (split ▸ List.mem_append_right _ (List.mem_cons_of_mem _ there)) ?_
    rintro rfl
    exact absent there
  rw [split, List.countP_append, List.countP_cons_of_pos ((which first kept).mpr found), front,
    back]

/-! ### The loop -/

section Loop

variable (keeps : ∀ first item, key (absorb first item) = key first)

include keeps

omit [DecidableEq κ] in
theorem key_foldl (first : α) (later : List α) : key (later.foldl absorb first) = key first := by
  induction later generalizing first with
  | nil => rfl
  | cons item later ih => rw [List.foldl_cons, ih, keeps]

theorem key_gathered (items : List α) (first : α) : key
    (gathered key absorb items first) = key first :=
  key_foldl keeps first _

omit keeps in
theorem gathered_append_singleton (items : List α) (item first : α) :
    gathered key absorb (items ++ [item]) first =
      if same key first item then absorb (gathered key absorb items first) item
      else gathered key absorb items first := by
  unfold gathered
  rw [List.filter_append, List.foldl_append]
  by_cases one : same key first item = true
  · rw [if_pos one, List.filter_cons_of_pos one]
    rfl
  · rw [if_neg one, List.filter_cons_of_neg one]
    rfl

def Placed (key : α → Option κ) (gathering : Gathering α κ) : Prop :=
  ∀ k, gathering.places.lookup k = (gathering.out.map key).findIdx? fun found => found = some k

/-- What the loop has done of the items. -/
structure Gathers (key : α → Option κ) (absorb : α → α → α) (items : List α)
    (gathering : Gathering α κ) : Prop where
  out : gathering.out = (firsts key items).map (gathered key absorb items)
  placed : Placed key gathering

theorem Gathers.keys (gathers : Gathers key absorb items gathering) :
    gathering.out.map key = (firsts key items).map key := by
  rw [gathers.out, List.map_map]
  exact List.map_congr_left fun first _ => key_gathered keeps items first

theorem Gathers.place (gathers : Gathers key absorb items gathering)
    {place : Nat} (found : gathering.places.lookup k = some place) (index : Nat)
    (there : (firsts key items)[index]? = some first) : key first = some k ↔ place = index := by
  rw [gathers.placed k, gathers.keys keeps] at found
  obtain ⟨bound, hit, -⟩ := List.findIdx?_eq_some_iff_getElem.mp found
  rw [List.length_map] at bound
  have here : key (firsts key items)[place] = some k := by
    simpa using hit
  obtain ⟨inside, rfl⟩ := List.getElem?_eq_some_iff.mp there
  constructor
  · intro keyed
    by_contra apart
    have one := firsts_pairwise key items
    rw [List.pairwise_iff_getElem] at one
    have alike : same key (firsts key items)[place] (firsts key items)[index] = true :=
      same_iff.mpr ⟨k, here, keyed⟩
    rcases Nat.lt_or_gt_of_ne apart with before | after
    · exact Bool.noConfusion (alike.symm.trans (one place index bound inside before))
    · rw [same_comm] at alike
      exact Bool.noConfusion (alike.symm.trans (one index place inside bound after))
  · rintro rfl
    exact here

omit keeps in
theorem Gathers.append (alone : ∀ item, absorb item item = item)
    (gathers : Gathers key absorb items gathering)
    (unseen : ∀ first ∈ firsts key items, same key first item = false) :
    firsts key (items ++ [item]) = firsts key items ++ [item] ∧
      gathering.out ++ [item] =
        (firsts key (items ++ [item])).map (gathered key absorb (items ++ [item])) := by
  have kept : firsts key (items ++ [item]) = firsts key items ++ [item] := by
    have absent : ¬(firsts key items).any (same key · item) = true := by
      rw [Bool.not_eq_true, List.any_eq_false]
      exact fun first member => Bool.eq_false_iff.mp (unseen first member)
    rw [firsts_append_singleton, if_neg absent]
  refine ⟨kept, ?_⟩
  have others : ∀ first ∈ firsts key items,
      gathered key absorb items first = gathered key absorb (items ++ [item]) first := by
    intro first member
    rw [gathered_append_singleton, if_neg (Bool.eq_false_iff.mp (unseen first member))]
  have none : items.filter (same key item) = [] := by
    rw [List.filter_eq_nil_iff]
    intro earlier member one
    obtain ⟨first, there, rfl | again⟩ := exists_first key member
    · rw [same_comm] at one
      exact Bool.noConfusion (one.symm.trans (unseen first there))
    · rw [same_comm] at one
      exact Bool.noConfusion ((same_trans again one).symm.trans (unseen first there))
  have itself : gathered key absorb (items ++ [item]) item = item := by
    rw [gathered_append_singleton, gathered, none, List.foldl_nil, alone, ite_self]
  rw [kept, gathers.out, List.map_append, List.map_singleton, itself, List.map_congr_left others]

theorem Gathers.take (alone : ∀ item, absorb item item = item)
    (gathers : Gathers key absorb items gathering) (item : α) :
    Gathers key absorb (items ++ [item]) (gathering.take key absorb item) := by
  unfold Gathering.take
  cases found : (key item).bind fun k => gathering.places.lookup k with
  | none =>
    have unseen : ∀ first ∈ firsts key items, same key first item = false := by
      intro first member
      rw [Bool.eq_false_iff]
      intro one
      obtain ⟨k, here, there⟩ := same_iff.mp one
      rw [there, Option.bind_some, gathers.placed k, gathers.keys keeps,
        List.findIdx?_eq_none_iff] at found
      have apart := found (key first) (List.mem_map_of_mem member)
      rw [here] at apart
      simp at apart
    obtain ⟨-, out⟩ := gathers.append alone unseen
    refine ⟨out, ?_⟩
    intro k
    dsimp only
    rw [List.map_append, List.map_singleton, List.findIdx?_append, ← gathers.placed k]
    cases keyed : key item with
    | none => simp
    | some k' =>
      rw [keyed, Option.bind_some] at found
      dsimp only
      rw [List.lookup_cons]
      by_cases equal : k = k'
      · subst equal
        simp [found]
      · have differs : (k == k') = false := beq_false_of_ne equal
        rw [differs]
        simp [Ne.symm equal]
  | some place =>
    obtain ⟨k, keyed, there⟩ := Option.bind_eq_some_iff.mp found
    have inside := there
    rw [gathers.placed k, gathers.keys keeps] at inside
    obtain ⟨bound, -, -⟩ := List.findIdx?_eq_some_iff_getElem.mp inside
    rw [List.length_map] at bound
    have here := (gathers.place keeps there place (List.getElem?_eq_getElem bound)).mpr rfl
    have kept : firsts key (items ++ [item]) = firsts key items := by
      rw [firsts_append_singleton, if_pos]
      exact List.any_eq_true.mpr ⟨_, List.getElem_mem bound, same_iff.mpr ⟨k, here, keyed⟩⟩
    constructor
    · rw [kept]
      apply List.ext_getElem?
      intro index
      rw [List.getElem?_modify, gathers.out, List.getElem?_map, List.getElem?_map]
      cases at' : (firsts key items)[index]? with
      | none => rfl
      | some first =>
        have which := gathers.place keeps there index at'
        rw [Option.map_some, Option.map_some, gathered_append_singleton]
        dsimp only [Option.map_eq_map, Option.map_some]
        by_cases equal : place = index
        · rw [if_pos equal, if_pos (same_iff.mpr ⟨k, which.mpr equal, keyed⟩)]
        · rw [if_neg equal, if_neg]
          intro one
          obtain ⟨k', first', again⟩ := same_iff.mp one
          cases keyed.symm.trans again
          exact equal (which.mp first')
    · intro k'
      have unchanged : (gathering.out.modify place fun first => absorb first item).map key =
          gathering.out.map key := by
        apply List.ext_getElem?
        intro index
        rw [List.getElem?_map, List.getElem?_modify, List.getElem?_map]
        cases gathering.out[index]? with
        | none => rfl
        | some first =>
          show some (key (if place = index then absorb first item else first)) = some (key first)
          split
          · rw [keeps]
          · rfl
      dsimp only
      rw [unchanged, gathers.placed k']

/-- **The loop gathers**: in place of every first item stands what it has absorbed. -/
theorem gather_eq (alone : ∀ item, absorb item item = item) (items : List α) :
    gather key absorb items = (firsts key items).map (gathered key absorb items) := by
  have gathers : Gathers key absorb items (items.foldl (Gathering.take key absorb) ⟨[], []⟩) := by
    induction items using List.reverseRecOn with
    | nil => exact ⟨rfl, fun _ => rfl⟩
    | append_singleton items item ih =>
      rw [List.foldl_append]
      exact ih.take keeps alone item
  exact gathers.out

end Loop

end Grouping
