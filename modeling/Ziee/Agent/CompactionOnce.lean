/-
**Compaction does not thrash** (`split_keep_start`, `fit`).

After a summary the request is the pinned messages, the summary and the kept suffix. The summary is
neither pinned nor split again, so the next split walks the same suffix towards the same target, and
finds that all of it is kept, however long the summary is.

* `splitFrom_drop` — **the walk over the kept suffix** stops where the walk over all messages did.
* `pullBack_drop` — a boundary that was pulled back is pulled back to the start.
* **`fit_once`** — the pipeline on its own result asks for no summary.
* **`splitKeepStart_largest`** — what is kept is the largest suffix that fits, and in any case the
  newest message.
-/

import Ziee.Agent.CompactionStore

namespace Ziee.Agent

open PortProgram Ziee.Providers

section Walk

variable {compactor : Compactor} {rest : List ChatMessage} {target : Nat}

theorem estimate_drop {i : Nat} (within : i < rest.length) : compactor.estimate (rest.drop i) =
    (rest[i]?.map compactor.estimateMsg).getD 0 + compactor.estimate (rest.drop (i + 1)) := by
  rw [List.drop_eq_getElem_cons within, List.getElem?_eq_getElem within]
  rfl

theorem estimate_drop_antitone (compactor : Compactor) (rest : List ChatMessage) :
    Antitone fun i => compactor.estimate (rest.drop i) := by
  refine antitone_nat_of_succ_le fun i => ?_
  by_cases within : i < rest.length
  · rw [estimate_drop within]
    exact Nat.le_add_left _ _
  · rw [List.drop_eq_nil_of_le (by omega), List.drop_eq_nil_of_le (by omega)]

theorem splitFrom_largest {i : Nat} (within : i < rest.length)
    (fits : compactor.estimate (rest.drop i) ≤ target ∨ i + 1 = rest.length) :
    let keepStart := splitFrom compactor rest target i (compactor.estimate (rest.drop i)) i
    keepStart < rest.length ∧
      (compactor.estimate (rest.drop keepStart) ≤ target ∨ keepStart + 1 = rest.length) ∧
      ∀ start < keepStart, target < compactor.estimate (rest.drop start) := by
  induction i with
  | zero => exact ⟨within, fits, fun start early => absurd early (Nat.not_lt_zero start)⟩
  | succ i ih =>
    have one := @estimate_drop compactor _ _ (Nat.lt_of_succ_lt within)
    rw [splitFrom]
    by_cases full : i + 1 ≠ rest.length ∧ compactor.estimate (rest.drop (i + 1)) +
        (rest[i]?.map compactor.estimateMsg).getD 0 > target
    · rw [if_pos full]
      refine ⟨within, fits, fun start early => ?_⟩
      have more := estimate_drop_antitone compactor rest (Nat.le_of_lt_succ early)
      dsimp only at more
      omega
    · rw [if_neg full, Nat.add_comm, ← one]
      exact ih (Nat.lt_of_succ_lt within) (Or.inl (by omega))

theorem splitFrom_back : ∀ {i acc keepStart : Nat}, i ≤ keepStart →
    splitFrom compactor rest target i acc keepStart ≤ keepStart
  | 0, _, _, _ => Nat.le_refl _
  | i + 1, acc, keepStart, order => by
    rw [splitFrom]
    split
    · exact Nat.le_refl _
    · exact (splitFrom_back (Nat.le_refl i)).trans (by omega)

/-- **The walk over a suffix stops where the walk over all messages did**, when that is inside. -/
theorem splitFrom_drop {start : Nat} : ∀ {i acc keepStart : Nat}, start ≤ i → i ≤ keepStart →
    keepStart ≤ rest.length → start ≤ splitFrom compactor rest target i acc keepStart →
    splitFrom compactor (rest.drop start) target (i - start) acc (keepStart - start) =
      splitFrom compactor rest target i acc keepStart - start
  | 0, acc, keepStart, inside, _, _, _ => by
    obtain rfl := Nat.le_zero.mp inside
    rfl
  | i + 1, acc, keepStart, inside, order, within, stops => by
    rw [splitFrom] at stops
    rcases Nat.lt_or_ge i start with outside | further
    · -- The walk over the suffix is at its end, so the other one must stop here too.
      have atStart : i + 1 - start = 0 := by omega
      rw [atStart, splitFrom, splitFrom]
      split at stops
      · rename_i full
        rw [if_pos full]
      · exact absurd (stops.trans (splitFrom_back (Nat.le_refl i))) (by omega)
    · have step : i + 1 - start = (i - start) + 1 := by omega
      have same : (rest.drop start)[i - start]? = rest[i]? := by
        rw [List.getElem?_drop, Nat.add_sub_cancel' further]
      have ends : keepStart - start ≠ (rest.drop start).length ↔ keepStart ≠ rest.length := by
        rw [List.length_drop]
        omega
      rw [step, splitFrom, splitFrom, same]
      simp only [ends]
      split at stops
      · rename_i full
        rw [if_pos full, if_pos full]
      · rename_i more
        rw [if_neg more, if_neg more]
        exact splitFrom_drop further (Nat.le_refl i) (by omega) stops

theorem splitKeepStart_drop {start : Nat} (within : start ≤ rest.length)
    (stops : start ≤ compactor.splitKeepStart rest target) :
    compactor.splitKeepStart (rest.drop start) target =
      compactor.splitKeepStart rest target - start := by
  unfold Compactor.splitKeepStart at stops ⊢
  rw [List.length_drop]
  exact splitFrom_drop within (Nat.le_refl _) (Nat.le_refl _) stops

theorem pullBack_passes : ∀ {index other : Nat}, pullBack rest index < other → other ≤ index →
    (rest[other]?).any msgHasToolResult = true
  | 0, other, after, before => absurd after (by omega)
  | index + 1, other, after, before => by
    rw [pullBack] at after
    split at after
    · rename_i result
      rcases Nat.lt_or_ge index other with last | earlier
      · obtain rfl : other = index + 1 := by omega
        exact result
      · exact pullBack_passes after earlier
    · omega

theorem pullBack_eq_zero : ∀ {index : Nat}, (∀ other, 0 < other → other ≤ index →
    (rest[other]?).any msgHasToolResult = true) → pullBack rest index = 0
  | 0, _ => rfl
  | index + 1, results => by
    rw [pullBack, if_pos (results (index + 1) (Nat.succ_pos _) (Nat.le_refl _))]
    exact pullBack_eq_zero fun other positive before => results other positive (by omega)

theorem pullBack_drop (index : Nat) :
    pullBack (rest.drop (pullBack rest index)) (index - pullBack rest index) = 0 := by
  refine pullBack_eq_zero fun other positive before => ?_
  rw [List.getElem?_drop]
  have after : pullBack rest index < pullBack rest index + other := Nat.lt_add_of_pos_right positive
  exact pullBack_passes after (by omega)

/-- **The kept suffix is the largest that fits**: it holds the newest message, and older ones only
within the target; no longer one fits; and where the boundary is pulled back to is inside, at the
start or before a message without tool results. -/
theorem splitKeepStart_largest (compactor : Compactor) (rest : List ChatMessage) (target : Nat)
    (nonempty : rest ≠ []) :
    let keepStart := compactor.splitKeepStart rest target
    keepStart < rest.length ∧
      (1 < (rest.drop keepStart).length → compactor.estimate (rest.drop keepStart) ≤ target) ∧
      (∀ start < keepStart, target < compactor.estimate (rest.drop start)) ∧
      pullBack rest keepStart < rest.length ∧ (pullBack rest keepStart = 0 ∨
        (rest[pullBack rest keepStart]?).any msgHasToolResult = false) := by
  obtain ⟨last, length⟩ := Nat.exists_eq_succ_of_ne_zero
    (Nat.ne_of_gt (List.length_pos_iff.mpr nonempty))
  have newest : compactor.splitKeepStart rest target =
      splitFrom compactor rest target last (compactor.estimate (rest.drop last)) last := by
    rw [Compactor.splitKeepStart, length, splitFrom,
      if_neg fun impossible => impossible.1 length.symm, estimate_drop (by omega),
      List.drop_eq_nil_of_le (i := last + 1) (by omega), Nat.zero_add]
    rfl
  obtain ⟨within, fits, most⟩ :=
    @splitFrom_largest compactor rest target last (by omega) (Or.inr length.symm)
  rw [← newest] at within fits most
  refine ⟨within, fun long => fits.resolve_right fun one => ?_, most,
    (pullBack_le rest _).trans_lt within, pullBack_boundary rest _⟩
  rw [List.length_drop] at long
  omega

end Walk

theorem splitKeepStart_twoTurns : eagerCompactor.splitKeepStart [.ofUser "a", .ofUser "b"] 0 < 2 :=
  (splitKeepStart_largest _ _ 0 (List.cons_ne_nil _ _)).1

/-- **There is nothing to summarise in what was kept.** -/
theorem boundary?_keep {compactor : Compactor} {rest : List ChatMessage}
    {pinnedTokens keepStart : Nat}
    (found : compactor.boundary? pinnedTokens rest = some keepStart) :
    compactor.boundary? pinnedTokens (rest.drop keepStart) = none := by
  unfold Compactor.boundary? at found ⊢
  dsimp only at found ⊢
  generalize max (compactor.lowWatermarkTokens -
    (pinnedTokens + min summaryReserveTokens (compactor.lowWatermarkTokens / 2))) 1 = target
      at found ⊢
  split at found
  · cases found
  · rename_i long
    split at found
    · cases found
    · split at found
      · cases found
      · have same := Option.some.inj found
        have back := pullBack_le rest (compactor.splitKeepStart rest target)
        have within : compactor.splitKeepStart rest target < rest.length :=
          splitKeepStart_lt target (by omega)
        split
        · rfl
        · rw [← same, splitKeepStart_drop (by omega) back, pullBack_drop, if_pos rfl]

/-- **A request made by a summary is not planned another one.** -/
theorem summaryPlan_again {compactor : Compactor} {messages : List ChatMessage} {plan : SummaryPlan}
    (planned : compactor.summaryPlan messages = some plan) (text : String) :
    compactor.summaryPlan (plan.pinned ++ plan.summary text :: plan.keep) = none := by
  unfold Compactor.summaryPlan at planned
  obtain ⟨keepStart, found, rfl⟩ := Option.map_eq_some_iff.mp planned
  have prior := isPriorSummary_summary ⟨messages.filter fun m =>
    m.role = .system && !isPriorSummary m,
    messages.filter isPriorSummary, (messages.filter fun m => m.role ≠ .system).take keepStart,
    (messages.filter fun m => m.role ≠ .system).drop keepStart⟩ text
  generalize SummaryPlan.summary _ text = summary at prior
  have spoken : ∀ message ∈ (messages.filter fun m => m.role ≠ .system).drop keepStart,
      message.role ≠ .system := by
    intro message member
    have kept := (List.mem_filter.mp (List.mem_of_mem_drop member)).2
    exact of_decide_eq_true kept
  generalize (messages.filter fun m => m.role ≠ .system) = rest at found spoken
  have pinnedAgain : (messages.filter (fun m => m.role = .system && !isPriorSummary m) ++
      summary :: rest.drop keepStart).filter (fun m => m.role = .system && !isPriorSummary m) =
      messages.filter fun m => m.role = .system && !isPriorSummary m := by
    have none : (rest.drop keepStart).filter
      (fun m => m.role = .system && !isPriorSummary m) = [] := by
      refine List.filter_eq_nil_iff.mpr fun message member => ?_
      simp [spoken message member]
    rw [List.filter_append, List.filter_filter, List.filter_cons, none, prior]
    simp
  have restAgain : (messages.filter (fun m => m.role = .system && !isPriorSummary m) ++
      summary :: rest.drop keepStart).filter (fun m => m.role ≠ .system) = rest.drop keepStart := by
    have silent : (messages.filter fun m => m.role = .system && !isPriorSummary m).filter
        (fun m => m.role ≠ .system) = [] := by
      refine List.filter_eq_nil_iff.mpr fun message member => ?_
      have kept := (List.mem_filter.mp member).2
      simp only [Bool.and_eq_true, decide_eq_true_eq] at kept
      simp [kept.1]
    have all : (rest.drop keepStart).filter (fun m => m.role ≠ .system) = rest.drop keepStart :=
      List.filter_eq_self.mpr fun message member => decide_eq_true (spoken message member)
    rw [List.filter_append, silent, List.nil_append, List.filter_cons,
      if_neg (by simp [isPriorSummary_role prior]), all]
  unfold Compactor.summaryPlan
  dsimp only
  rw [pinnedAgain, restAgain, boundary?_keep found, Option.map_none]

/-- **Compaction does not thrash**: a request that a summary has made, compacted again with the same
configuration, asks for no other summary, whatever the summary is and however long. -/
theorem fit_once {compactor : Compactor} {messages : List ChatMessage} {mark mark' : Option Nat}
    {trace trace' : List CompactionEvent} {result : CompactionResult}
    {outcome : Except AppError (Option CompactionResult)}
    (first : Runs (compactor.fit messages mark) trace (.ok (some result)))
    (summarised : result.summaryWrite.isSome = true)
    (second : Runs (compactor.fit result.messages mark') trace' outcome) :
    ∀ input answer, (⟨.summarize input, answer⟩ : CompactionEvent) ∉ trace' := by
  obtain ⟨plan, text, planned, same⟩ : ∃ plan text, compactor.plan? messages mark = some plan ∧
      result.messages = plan.pinned ++ plan.summary text :: plan.keep := by
    generalize ended : (Except.ok (some result) : Except AppError (Option CompactionResult)) = out
      at first
    cases runs_fit first with
    | idle => cases ended
    | cheap =>
      have cheaply : some result = cheapResult _ _ := Except.ok.inj ended
      unfold cheapResult at cheaply
      split at cheaply
      · cases cheaply
        cases summarised
      · cases cheaply
    | failed => cases ended
    | summarised plan text planned =>
      cases ended
      exact ⟨plan, text, planned, rfl⟩
  have due : compactor.summaryPlan messages = some plan := by
    unfold Compactor.plan? at planned
    split at planned
    · exact planned
    · cases planned
  have unplanned : compactor.plan? result.messages mark' = none := by
    unfold Compactor.plan?
    rw [same, summaryPlan_again due text, ite_self]
  intro input answer member
  cases runs_fit second with
  | idle | cheap => cases member
  | failed plan _ planned =>
    rw [unplanned] at planned
    cases planned
  | summarised plan _ planned =>
    rw [unplanned] at planned
    cases planned

theorem fit_once_twoTurns : ¬∃ input answer, (⟨.summarize input, answer⟩ : CompactionEvent) ∈
      (eagerFit [.ofSystem "[Summary of 1 earlier messages]\nso far", .ofUser "b"]).1 := by
  have first : Runs (eagerCompactor.fit [.ofUser "a", .ofUser "b"] none)
      (eagerFit [.ofUser "a", .ofUser "b"]).1
      (.ok (some ⟨[.ofSystem "[Summary of 1 earlier messages]\nso far", .ofUser "b"],
        some (.ofSystem "[Summary of 1 earlier messages]\nso far", 1)⟩)) := runs_simulate _ _ []
  rintro ⟨input, answer, asked⟩
  exact fit_once first rfl (runs_simulate _ _ []) input answer asked

end Ziee.Agent
