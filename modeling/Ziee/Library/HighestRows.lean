/-
**A log that keeps its highest rows.**

A row is appended to a log, the log is cut to its `limit` rows with the highest keys, and what is
left is put in ascending order. Rows with equal keys come out in any order, and any of them may be
cut.

* `Highest` — the log holds the highest of the rows appended so far; `Highest.append`, and
  `highest_of_run` for any order of arrival.
* `Appends.map`, `run_map` — renaming rows without changing their keys.
-/

import Ziee.Library.PortProgram
import Ziee.Library.RowOrder
import Mathlib.Data.List.Pairwise
import Mathlib.Data.List.Perm.Subperm

namespace Ziee.Library.HighestRows

open PortProgram RowOrder

variable {α κ : Type} [LinearOrder κ] {key : α → κ} {limit : Nat}

/-- **One append**: the highest rows, in ascending order. -/
def Appends (key : α → κ) (limit : Nat) (stored : List α) (row : α) (stored' : List α) : Prop :=
  ∃ ranked : List α, ranked.Perm (stored ++ [row]) ∧ (ranked.Pairwise fun a b => key b ≤ key a) ∧
    stored'.Perm (ranked.take limit) ∧ stored'.Pairwise fun a b => key a ≤ key b

variable {rows stored stored' arrival : List α}

theorem appends_exists (key : α → κ) (limit : Nat) (stored : List α) (row : α) :
    ∃ stored', Appends key limit stored row stored' :=
  ⟨orderBy key ((orderByDesc key (stored ++ [row])).take limit), orderByDesc key (stored ++ [row]),
    orderByDesc_perm, orderByDesc_pairwise, orderBy_perm, orderBy_pairwise⟩

theorem run_exists (key : α → κ) (limit : Nat) (stored arrival : List α) :
    ∃ stored', Follows (Appends key limit) stored arrival stored' := by
  induction arrival generalizing stored with
  | nil => exact ⟨stored, .nil stored⟩
  | cons row rest ih =>
    obtain ⟨middle, here⟩ := appends_exists key limit stored row
    obtain ⟨stored', later⟩ := ih middle
    exact ⟨stored', .cons here later⟩

/-! ### The highest rows -/

/-- **The log holds the highest of the rows**, in ascending order. -/
structure Highest (key : α → κ) (limit : Nat) (rows stored : List α) : Prop where
  sorted : stored.Pairwise fun a b => key a ≤ key b
  full : stored.length = min limit rows.length
  above : ∃ cut : List α, (stored ++ cut).Perm rows ∧
    ∀ low ∈ cut, ∀ high ∈ stored, key low ≤ key high

theorem Highest.append {row : α}
    (highest : Highest key limit rows stored) (appends : Appends key limit stored row stored') :
    Highest key limit (rows ++ [row]) stored' := by
  obtain ⟨ranked, same, ranks, kept, sorted⟩ := appends
  obtain ⟨cut, parts, low⟩ := highest.above
  have count : ranked.length = stored.length + 1 := by simpa using same.length_eq
  have total : stored.length + cut.length = rows.length := by simpa using parts.length_eq
  have full := highest.full
  refine ⟨sorted, ?_, ranked.drop limit ++ cut, ?_, ?_⟩
  · rw [kept.length_eq, List.length_take, count, List.length_append, List.length_singleton]
    omega
  · have whole : (stored' ++ ranked.drop limit).Perm (stored ++ [row]) := by
      refine (kept.append_right _).trans ?_
      rw [List.take_append_drop]
      exact same
    rw [← List.append_assoc]
    refine (whole.append_right cut).trans ?_
    rw [List.append_assoc]
    refine (List.perm_append_comm.append_left stored).trans ?_
    rw [← List.append_assoc]
    exact parts.append_right [row]
  · intro below member high held
    have held := kept.subset held
    obtain dropped | member := List.mem_append.mp member
    · have split := ranks
      rw [← List.take_append_drop limit ranked, List.pairwise_append] at split
      exact split.2.2 high held below dropped
    · -- Something was cut before: the log is full, and one of its rows or the new one drops out.
      have bounded : stored.length = limit := by
        have someCut := List.length_pos_of_mem member
        omega
      obtain ⟨out, last⟩ : ∃ out, ranked.drop limit = [out] := by
        apply List.length_eq_one_iff.mp
        rw [List.length_drop, count, bounded]
        omega
      have whole : (ranked.take limit ++ [out]).Perm (stored ++ [row]) := by
        rw [← last, List.take_append_drop]
        exact same
      have under : key out ≤ key high := by
        have split := ranks
        rw [← List.take_append_drop limit ranked, List.pairwise_append] at split
        exact split.2.2 high held out (by rw [last]; exact List.mem_singleton_self out)
      have outOf : out ∈ stored ++ [row] :=
        whole.subset (List.mem_append_right _ (List.mem_singleton_self out))
      obtain old | new := List.mem_append.mp outOf
      · exact (low below member out old).trans under
      · rw [List.mem_singleton] at new
        rw [new] at whole
        have still : (ranked.take limit).Perm stored := (List.perm_append_right_iff [row]).mp whole
        exact low below member high (still.subset held)

/-- **The log holds the highest of the rows that arrived**, in whatever order they came. -/
theorem highest_of_run
    (run : Follows (Appends key limit) [] arrival stored) : Highest key limit arrival stored := by
  have start : Highest key limit [] [] :=
    ⟨.nil, by simp, [], .nil, fun _ member => absurd member List.not_mem_nil⟩
  exact run.preserves_log (fun rows stored => Highest key limit rows stored)
    (fun highest appends => highest.append appends) start

theorem Highest.perm {rows' : List α} (highest : Highest key limit rows stored)
    (same : rows.Perm rows') : Highest key limit rows' stored := by
  obtain ⟨cut, parts, low⟩ := highest.above
  exact ⟨highest.sorted, by rw [highest.full, same.length_eq], cut, parts.trans same, low⟩

/-- **Rows that are set apart by their keys are the ones the log holds.** -/
theorem Highest.eq {wanted others : List α} (highest : Highest key limit rows stored)
    (distinct : rows.Nodup) (parts : (wanted ++ others).Perm rows)
    (count : wanted.length = min limit rows.length)
    (ascending : wanted.Pairwise fun a b => key a < key b)
    (under : ∀ low ∈ others, ∀ high ∈ wanted, key low < key high) : stored = wanted := by
  obtain ⟨cut, split, low⟩ := highest.above
  have distinctStored : stored.Nodup :=
    (List.nodup_append.mp (split.nodup_iff.mpr distinct)).1
  have sameLength : stored.length = wanted.length := highest.full.trans count.symm
  -- A wanted row that was cut would leave the log too few rows to hold.
  have subset : ∀ row ∈ wanted, row ∈ stored := by
    intro row member
    by_contra missing
    have cutRow : row ∈ cut := by
      have inRows : row ∈ rows := parts.subset (List.mem_append_left _ member)
      exact (List.mem_append.mp (split.symm.subset inRows)).resolve_left missing
    have held : ∀ other ∈ stored, other ∈ wanted := by
      intro other held
      have inRows : other ∈ rows := split.subset (List.mem_append_left _ held)
      obtain wantedOther | lower := List.mem_append.mp (parts.symm.subset inRows)
      · exact wantedOther
      · exact absurd (low row cutRow other held) (not_le.mpr (under other lower row member))
    have fewer : (row :: stored).Subperm wanted :=
      (List.nodup_cons.mpr ⟨missing, distinctStored⟩).subperm (List.cons_subset.mpr ⟨member, held⟩)
    have tooMany := fewer.length_le
    rw [List.length_cons, sameLength] at tooMany
    exact absurd tooMany (Nat.not_succ_le_self _)
  have distinctWanted : wanted.Nodup := ascending.imp fun below => by
    rintro rfl
    exact lt_irrefl _ below
  have same : stored.Perm wanted :=
    ((distinctWanted.subperm subset).perm_of_length_le sameLength.le).symm
  have apart : ∀ a ∈ wanted, ∀ b ∈ wanted, key a = key b → a = b := by
    have symmetric : Std.Symm fun a b : α => key a ≠ key b := ⟨fun _ _ => Ne.symm⟩
    have differ : wanted.Pairwise fun a b => key a ≠ key b := ascending.imp ne_of_lt
    intro a first b second tie
    by_contra different
    exact differ.forall first second different tie
  rw [orderBy_unique apart same highest.sorted]
  exact (orderBy_unique apart (.refl wanted) (ascending.imp le_of_lt)).symm

/-! ### Renaming -/

theorem Appends.map {f : α → α} (same : ∀ row, key (f row) = key row)
    {row : α} (appends : Appends key limit stored row stored') :
    Appends key limit (stored.map f) (f row) (stored'.map f) := by
  obtain ⟨ranked, parts, ranks, kept, sorted⟩ := appends
  refine ⟨ranked.map f, ?_, ?_, ?_, ?_⟩
  · simpa using parts.map f
  · simpa [List.pairwise_map, same] using ranks
  · rw [← List.map_take]
    exact kept.map f
  · simpa [List.pairwise_map, same] using sorted

theorem run_map {f : α → α} (same : ∀ row, key (f row) = key row)
    (run : Follows (Appends key limit) stored arrival stored') :
    Follows (Appends key limit) (stored.map f) (arrival.map f) (stored'.map f) := by
  induction run with
  | nil stored => exact .nil _
  | cons here _ ih => exact .cons (here.map same) ih

end Ziee.Library.HighestRows
