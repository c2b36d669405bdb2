/-
**Sifting the repeats out of a list.**

Some items of a list have a key. One pass keeps an item without a key, keeps the first item of each
key and drops the others; the keys it has seen go in and come out, so a pass can be cut in pieces.

* `mem_seen_sift`: the keys seen afterwards;
* `seen_of_kept_nil`: a pass that keeps nothing has seen nothing new.
-/

import Mathlib.Data.List.Basic

namespace Ziee.Library.Repeats

structure Sifted (α κ : Type) where
  kept : List α
  dropped : List κ
  seen : List κ

variable {α κ : Type}

def Sifted.keep (item : α) (later : Sifted α κ) : Sifted α κ :=
  { later with kept := item :: later.kept }

def Sifted.drop (k : κ) (later : Sifted α κ) : Sifted α κ :=
  { later with dropped := k :: later.dropped }

variable [DecidableEq κ] (key : α → Option κ)

def sift (seen : List κ) : List α → Sifted α κ
  | [] => ⟨[], [], seen⟩
  | item :: rest =>
    match key item with
    | none => (sift seen rest).keep item
    | some k => if k ∈ seen then (sift seen rest).drop k else (sift (k :: seen) rest).keep item

section Sift

variable {key} {seen : List κ} {item : α} {rest : List α} {k : κ}

theorem sift_keyless (keyless : key item = none) :
    sift key seen (item :: rest) = (sift key seen rest).keep item := by
  simp only [sift, keyless]

theorem sift_repeat (keyed : key item = some k) (member : k ∈ seen) :
    sift key seen (item :: rest) = (sift key seen rest).drop k := by
  simp only [sift, keyed, member, if_true]

theorem sift_first (keyed : key item = some k) (absent : k ∉ seen) :
    sift key seen (item :: rest) = (sift key (k :: seen) rest).keep item := by
  simp only [sift, keyed, absent, if_false]

end Sift

/-- **The keys seen are those that went in and those of the items.** -/
theorem mem_seen_sift (seen : List κ) (items : List α) (k : κ) :
    k ∈ (sift key seen items).seen ↔ k ∈ seen ∨ k ∈ items.filterMap key := by
  induction items generalizing seen with
  | nil => simp [sift]
  | cons item rest ih =>
    cases keyed : key item with
    | none =>
      rw [sift_keyless keyed, List.filterMap_cons_none keyed]
      exact ih seen
    | some other =>
      rw [List.filterMap_cons_some keyed, List.mem_cons]
      by_cases member : other ∈ seen
      · rw [sift_repeat keyed member]
        refine (ih seen).trans ⟨?_, ?_⟩
        · exact fun held => held.imp id Or.inr
        · rintro (old | rfl | new)
          · exact .inl old
          · exact .inl member
          · exact .inr new
      · rw [sift_first keyed member]
        refine (ih (other :: seen)).trans ?_
        rw [List.mem_cons]
        tauto

/-- **What is kept and dropped, by position**: an item is dropped when its key was seen before the
pass or at an earlier item. -/
theorem sift_positions {repeated : Nat → Prop} [DecidablePred repeated] (items : List α)
    (seen : List κ) (offset : Nat) (atPlace : ∀ place item, items[place]? = some item →
      (repeated (offset + place) ↔
        ∃ k, key item = some k ∧ (k ∈ seen ∨ k ∈ (items.take place).filterMap key))) :
    (sift key seen items).kept =
        ((items.zipIdx offset).filter fun placed => ¬ repeated placed.2).map Prod.fst ∧
      (sift key seen items).dropped = (items.zipIdx offset).filterMap fun placed =>
          if repeated placed.2 then key placed.1 else none := by
  induction items generalizing seen offset with
  | nil => exact ⟨rfl, rfl⟩
  | cons item rest ih =>
    have head := atPlace 0 item rfl
    rw [Nat.add_zero, List.take_zero, List.filterMap_nil] at head
    -- The rest's positions, with the keys seen after the head.
    have tail : ∀ seen' : List κ, (∀ k, k ∈ seen' ↔ k ∈ seen ∨ key item = some k) →
        ∀ place other, rest[place]? = some other → (repeated (offset + 1 + place) ↔
            ∃ k, key other = some k ∧ (k ∈ seen' ∨ k ∈ (rest.take place).filterMap key)) := by
      intro seen' seen_iff place other found
      rw [Nat.add_assoc, Nat.add_comm 1 place,
        atPlace (place + 1) other (by rw [List.getElem?_cons_succ, found]), List.take_succ_cons]
      refine exists_congr fun k => and_congr_right fun _ => ?_
      rw [seen_iff k]
      cases keyed : key item with
      | none =>
        rw [List.filterMap_cons_none keyed]
        simp
      | some first =>
        rw [List.filterMap_cons_some keyed, List.mem_cons, Option.some.injEq, eq_comm (a := k)]
        tauto
    cases keyed : key item with
    | none =>
      have fresh : ¬ repeated offset := fun held => by simp [keyed] at head; exact head held
      obtain ⟨kept, dropped⟩ := ih seen (offset + 1) (tail seen (by simp [keyed]))
      rw [sift_keyless keyed]
      simp [Sifted.keep, List.zipIdx_cons, fresh, kept, dropped]
    | some k =>
      by_cases member : k ∈ seen
      · have again : repeated offset := head.mpr ⟨k, keyed, .inl member⟩
        obtain ⟨kept, dropped⟩ := ih seen (offset + 1) (tail seen fun other => by
            rw [keyed, Option.some.injEq]
            exact ⟨.inl, fun held => held.elim id fun same => same ▸ member⟩)
        rw [sift_repeat keyed member]
        simp [Sifted.drop, List.zipIdx_cons, again, keyed, kept, dropped]
      · have fresh : ¬ repeated offset := by
          rw [head]
          rintro ⟨other, same, seenBefore | earlier⟩
          · rw [keyed, Option.some.injEq] at same
            exact member (same ▸ seenBefore)
          · exact absurd earlier List.not_mem_nil
        obtain ⟨kept, dropped⟩ := ih (k :: seen) (offset + 1) (tail (k :: seen) fun other => by
            rw [keyed, Option.some.injEq, List.mem_cons, eq_comm (a := other)]
            exact Or.comm)
        rw [sift_first keyed member]
        simp [Sifted.keep, List.zipIdx_cons, fresh, kept, dropped]

/-- **A second pass over what was kept drops nothing**, and sees the same keys. -/
theorem sift_kept (seen : List κ) (items : List α) : sift key seen (sift key seen items).kept =
      ⟨(sift key seen items).kept, [], (sift key seen items).seen⟩ := by
  induction items generalizing seen with
  | nil => rfl
  | cons item rest ih =>
    cases keyed : key item with
    | none =>
      rw [sift_keyless keyed]
      simp only [Sifted.keep]
      rw [sift_keyless keyed, ih seen]
      rfl
    | some k =>
      by_cases member : k ∈ seen
      · rw [sift_repeat keyed member]
        exact ih seen
      · rw [sift_first keyed member]
        simp only [Sifted.keep]
        rw [sift_first keyed member, ih (k :: seen)]
        rfl

theorem seen_of_kept_nil {seen : List κ} {items : List α}
    (empty : (sift key seen items).kept = []) : (sift key seen items).seen = seen := by
  induction items generalizing seen with
  | nil => rfl
  | cons item rest ih =>
    cases keyed : key item with
    | none =>
      rw [sift_keyless keyed] at empty
      exact absurd empty (List.cons_ne_nil _ _)
    | some k =>
      by_cases member : k ∈ seen
      · rw [sift_repeat keyed member] at empty ⊢
        exact ih empty
      · rw [sift_first keyed member] at empty
        exact absurd empty (List.cons_ne_nil _ _)

theorem mem_kept_of_keyless {seen : List κ} {items : List α} {item : α} (member : item ∈ items)
    (keyless : key item = none) : item ∈ (sift key seen items).kept := by
  induction items generalizing seen with
  | nil => exact absurd member List.not_mem_nil
  | cons first rest ih =>
    have inRest : item ≠ first → item ∈ rest := fun apart =>
      (List.mem_cons.mp member).resolve_left apart
    cases keyed : key first with
    | none =>
      rw [sift_keyless keyed]
      by_cases same : item = first
      · exact same ▸ List.mem_cons_self
      · exact List.mem_cons_of_mem _ (ih (inRest same))
    | some k =>
      have apart : item ≠ first := fun same => by
        rw [same, keyed] at keyless
        exact absurd keyless (by simp)
      by_cases seenBefore : k ∈ seen
      · rw [sift_repeat keyed seenBefore]
        exact ih (inRest apart)
      · rw [sift_first keyed seenBefore]
        exact List.mem_cons_of_mem _ (ih (inRest apart))

theorem mem_of_mem_kept {seen : List κ} {items : List α} {item : α}
    (member : item ∈ (sift key seen items).kept) : item ∈ items := by
  induction items generalizing seen with
  | nil => exact absurd member List.not_mem_nil
  | cons first rest ih =>
    cases keyed : key first with
    | none =>
      rw [sift_keyless keyed] at member
      exact List.mem_cons.mpr ((List.mem_cons.mp member).imp id ih)
    | some k =>
      by_cases seenBefore : k ∈ seen
      · rw [sift_repeat keyed seenBefore] at member
        exact List.mem_cons_of_mem _ (ih member)
      · rw [sift_first keyed seenBefore] at member
        exact List.mem_cons.mpr ((List.mem_cons.mp member).imp id ih)

end Ziee.Library.Repeats
