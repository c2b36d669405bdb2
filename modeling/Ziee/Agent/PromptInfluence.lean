/-
**What the promptMessages system prompt can change about compaction** (`compaction.rs`, `fit`).

Two requests are compared that differ in the contributed prompt only, where both prompts count the
same number of tokens. The cheap tiers never look into a system message
(`cheapTiers_assembled`), so both requests reach the summary tier or neither does; there the prompt
is pinned, or it is read as a rolling summary and folded and counted (`decision_eq`).

* `CompactionEffect` — what a run does to the transcript: what the summarizer is handed, and which
  messages `replace_head` drops.
* `prompt_steers_iff` — **the effect is the same exactly when both prompts are read the same way**,
  or nothing is summarised under either.
-/

import Ziee.Agent.CompactionStore

namespace Ziee.Agent

open PortProgram Ziee.Providers

/-- What the summarizer is handed, and the stored messages that are dropped. -/
structure CompactionEffect where
  handed : List SummaryInput
  dropped : List ChatMessage

def handedInput? : CompactionEvent → Option SummaryInput
  | ⟨.summarize input, _⟩ => some input
  | _ => none

/-- The messages that `replace_head` drops for this outcome of the pipeline. -/
def droppedBy (transcript : List ChatMessage) :
    Except AppError (Option CompactionResult) → List ChatMessage
  | .ok (some ⟨_, some (_, upto)⟩) => transcript.take upto
  | _ => []

/-- A summarizer as a function of what it is handed. -/
def answering (summarize : SummaryInput → Except AppError String) :
    ∀ query : CompactionQuery, query.Answer
  | .summarize input => summarize input
  | .replaceHead _ _ _ => .ok ()
  | .emit _ => ()

/-- `fit` on the assembled request, then `replace_head`. -/
def compactionEffect (compactor : Compactor) (summarize : SummaryInput → Except AppError String)
    (mark : Option Nat) (system : List ContentBlock) (transcript : List ChatMessage) :
    CompactionEffect :=
  let run := (compactor.fit (assembleMessages system transcript) mark).simulate
    (fun _ => answering summarize) []
  ⟨run.1.filterMap handedInput?, droppedBy transcript run.2⟩

/-- What a plan hands over and how far it cuts. -/
def SummaryPlan.decision (plan : SummaryPlan) : SummaryInput × Nat := (plan.input, plan.upto)

def effectOf (summarize : SummaryInput → Except AppError String) (transcript : List ChatMessage) :
    Option (SummaryInput × Nat) → CompactionEffect
  | none => ⟨[], []⟩
  | some (input, upto) =>
    ⟨[input], match summarize input with
      | .ok _ => transcript.take upto
      | .error _ => []⟩

section Effect

variable {compactor : Compactor} {mark : Option Nat} {transcript : List ChatMessage}
  {summarize : SummaryInput → Except AppError String} {system : List ContentBlock}

/-- **The effect is decided by the plan.** -/
theorem compactionEffect_eq : compactionEffect compactor summarize mark system transcript =
      effectOf summarize transcript
        ((compactor.plan? (assembleMessages system transcript) mark).map SummaryPlan.decision) := by
  unfold compactionEffect
  have run := runs_fit (runs_simulate (fun _ => answering summarize)
    (compactor.fit (assembleMessages system transcript) mark) [])
  have answers : ∀ {before after query answer},
      ((compactor.fit (assembleMessages system transcript) mark).simulate
        (fun _ => answering summarize) []).1 = before ++ ⟨query, answer⟩ :: after →
      answer = answering summarize query := fun split => simulate_answer _ _ split
  generalize (compactor.fit (assembleMessages system transcript) mark).simulate
    (fun _ => answering summarize) [] = result at run answers
  obtain ⟨trace, outcome⟩ := result
  dsimp only at run answers ⊢
  cases run with
  | idle unplanned =>
    rw [unplanned]
    rfl
  | cheap unplanned =>
    rw [unplanned]
    unfold cheapResult
    split <;> rfl
  | failed plan error planned =>
    have answer : Except.error error = summarize plan.input :=
      answers (List.nil_append _).symm
    rw [planned]
    show CompactionEffect.mk _ _ = ⟨[plan.input], match summarize plan.input with
      | .ok _ => transcript.take plan.upto
      | .error _ => []⟩
    rw [← answer]
    rfl
  | summarised plan text planned =>
    have answer : Except.ok text = summarize plan.input :=
      answers (List.nil_append _).symm
    rw [planned]
    show CompactionEffect.mk _ _ = ⟨[plan.input], match summarize plan.input with
      | .ok _ => transcript.take plan.upto
      | .error _ => []⟩
    rw [← answer]
    rfl

end Effect

/-! ### The cheap tiers and the prompt -/

section CheapTiers

variable {message : ChatMessage} (role : message.role = .system)
include role

theorem not_isEvictable : isEvictable message = false := by
  unfold isEvictable
  rw [role]
  rfl

theorem evictFirst_system (n : Nat) (rest : List ChatMessage) :
    evictFirst n (message :: rest) = message :: evictFirst n rest := by
  cases n with
  | zero =>
    cases rest with
    | nil | cons => rfl
  | succ n =>
    rw [evictFirst, not_isEvictable role]
    rfl

theorem trimTurns_kept (rest : List ChatMessage) :
    trimTurns (some message) rest = trimTurns none rest := by
  have never : ∀ other : ChatMessage, other.role ≠ .system → repeats (some message) other = false :=
    fun other different => by
      have roles : decide (message.role = other.role) = false :=
        decide_eq_false fun same => different (same.symm.trans role)
      rw [repeats, roles, Bool.false_and, Bool.false_and]
  induction rest with
  | nil => rfl
  | cons other rest ih =>
    rw [trimTurns, trimTurns, ih]
    by_cases same : other.role = .system
    · have fixed : decide (other.role ≠ .system) = false := decide_eq_false (not_not.mpr same)
      simp only [fixed, Bool.false_and]
    · rw [never other same]
      rfl

theorem trimTurns_system (kept : Option ChatMessage) (rest : List ChatMessage) :
    (trimTurns kept (message :: rest)).1 = message :: (trimTurns none rest).1 := by
  have fixed : decide (message.role ≠ .system) = false := decide_eq_false (not_not.mpr role)
  rw [trimTurns, trimTurns_kept role]
  simp only [fixed, Bool.false_and, Bool.false_eq_true, if_false]

end CheapTiers

/-- **The cheap tiers leave the prompt as it is**, and work on the transcript as without it. -/
theorem cheapTiers_assembled (compactor : Compactor) (system : List ContentBlock)
    (transcript : List ChatMessage) :
    (compactor.cheapTiers (assembleMessages system transcript)).1 =
      promptMessages system ++ (compactor.cheapTiers transcript).1 := by
  rw [assembleMessages_eq]
  rcases promptMessages_cases system with ⟨-, same⟩ | same
  · rw [same]
    rfl
  · have role : (⟨.system, system⟩ : ChatMessage).role = .system := rfl
    rw [same, List.singleton_append]
    show (turnTrim (evictFirst _ (_ :: transcript))).1 = _ :: (turnTrim (evictFirst _ transcript)).1
    rw [List.filter_cons_of_neg (Bool.eq_false_iff.mp (not_isEvictable role)),
      evictFirst_system role, turnTrim_eq, turnTrim_eq, trimTurns_system role]

/-! ### The decision -/

def promptTokens (compactor : Compactor) (system : List ContentBlock) : Nat :=
  compactor.estimate (promptMessages system)

theorem estimate_append (compactor : Compactor) (first second : List ChatMessage) :
    compactor.estimate (first ++ second) = compactor.estimate first + compactor.estimate
      second := by
  unfold Compactor.estimate
  rw [List.map_append, List.sum_append]

def pinnedPrompt (system : List ContentBlock) : List ChatMessage :=
  (promptMessages system).filter fun m => m.role = .system && !isPriorSummary m

def foldedPrompt (system : List ContentBlock) : List ChatMessage :=
  (promptMessages system).filter isPriorSummary

def SummaryDue (compactor : Compactor) (mark : Option Nat) (tokens : Nat)
    (transcript : List ChatMessage) : Prop :=
  compactor.tier1Tokens < tokens + compactor.estimate transcript ∧ compactor.highWatermarkTokens <
      tokens + compactor.estimate (compactor.cheapTiers transcript).1 ∧
    compactor.coolingDown (tokens + compactor.estimate transcript) mark = false

instance (compactor : Compactor) (mark : Option Nat) (tokens : Nat)
    (transcript : List ChatMessage) : Decidable (SummaryDue compactor mark tokens transcript) :=
  inferInstanceAs (Decidable (_ ∧ _ ∧ _))

def promptBoundary? (compactor : Compactor) (pinnedTokens : Nat) (transcript : List ChatMessage) :
    Option Nat :=
  compactor.boundary? (pinnedTokens + compactor.estimate
      (transcript.filter fun m => m.role = .system && !isPriorSummary m))
    (transcript.filter fun m => m.role ≠ .system)

/-- What is decided at this boundary, with the folded part of the prompt. -/
def decisionAt (folded transcript : List ChatMessage) (keepStart : Nat) : SummaryInput × Nat :=
  let old := (transcript.filter fun m => m.role ≠ .system).take keepStart
  let priors := folded ++ transcript.filter isPriorSummary
  (⟨joined old, foldSummaries priors⟩, priors.length + old.length)

/-- **All that a prompt contributes to the decision**: its tokens, how many of them are pinned, and
what of it is folded. -/
theorem decision_eq (compactor : Compactor) (mark : Option Nat) (system : List ContentBlock)
    (transcript : List ChatMessage) :
    (compactor.plan? (assembleMessages system transcript) mark).map SummaryPlan.decision =
      if SummaryDue compactor mark (promptTokens compactor system) transcript then
        (promptBoundary? compactor (compactor.estimate (pinnedPrompt system)) transcript).map
          (decisionAt (foldedPrompt system) transcript)
      else none := by
  have none : (promptMessages system).filter (fun m => m.role ≠ .system) = [] :=
    List.filter_eq_nil_iff.mpr fun message member kept =>
      of_decide_eq_true kept (role_promptMessages message member)
  unfold Compactor.plan? Compactor.summaryPlan
  rw [cheapTiers_assembled]
  simp only [assembleMessages_eq, estimate_append, List.filter_append, none, List.nil_append]
  by_cases due : SummaryDue compactor mark (promptTokens compactor system) transcript
  · rw [if_pos due]
    unfold SummaryDue promptTokens at due
    rw [if_pos due]
    exact Option.map_map _ _ _
  · rw [if_neg due]
    unfold SummaryDue promptTokens at due
    rw [if_neg due]
    rfl

theorem decision_of_plan {compactor : Compactor} {mark : Option Nat} {system : List ContentBlock}
    {transcript : List ChatMessage} {plan : SummaryPlan}
    (planned : compactor.plan? (assembleMessages system transcript) mark = some plan) :
    ∃ keepStart, decisionAt (foldedPrompt system) transcript keepStart = plan.decision := by
  have formula := decision_eq compactor mark system transcript
  rw [planned] at formula
  split at formula
  · obtain ⟨keepStart, -, same⟩ := Option.map_eq_some_iff.mp formula.symm
    exact ⟨keepStart, same⟩
  · cases formula

/-! ### Two prompts -/

/-- **Both prompts are read the same way**: neither as a rolling summary, or both, with the same
text. -/
def SameReading (first second : List ContentBlock) : Prop :=
  readsAsSummary first = readsAsSummary second ∧ (readsAsSummary first = true →
      messageText ⟨.system, first⟩ = messageText ⟨.system, second⟩)

section Prompts

variable {compactor : Compactor} {first second : List ContentBlock}

theorem foldedPrompt_unmarked (unmarked : readsAsSummary first = false) :
    foldedPrompt first = [] := promptMessages_unmarked unmarked

theorem foldedPrompt_marked (marked : readsAsSummary first = true) :
    foldedPrompt first = [⟨.system, first⟩] := promptMessages_marked marked

theorem pinnedPrompt_unmarked (unmarked : readsAsSummary first = false) :
    pinnedPrompt first = promptMessages first := by
  unfold pinnedPrompt
  refine List.filter_eq_self.mpr fun message member => ?_
  rcases promptMessages_cases first with ⟨-, same⟩ | same
  · rw [same] at member
    cases member
  · rw [same] at member
    have found : isPriorSummary message = false := List.mem_singleton.mp member ▸ unmarked
    rw [found, role_promptMessages message (same ▸ member)]
    rfl

theorem pinnedPrompt_marked (marked : readsAsSummary first = true) : pinnedPrompt first = [] := by
  unfold pinnedPrompt
  refine List.filter_eq_nil_iff.mpr fun message member => ?_
  rcases promptMessages_cases first with ⟨-, same⟩ | same
  · rw [same] at member
    cases member
  · rw [same] at member
    have found : isPriorSummary message = true := List.mem_singleton.mp member ▸ marked
    rw [found, Bool.not_true, Bool.and_false]
    exact Bool.false_ne_true

theorem pinnedTokens_eq (sameTokens : promptTokens compactor first = promptTokens compactor second)
    (reading : readsAsSummary first = readsAsSummary second) :
    compactor.estimate (pinnedPrompt first) = compactor.estimate (pinnedPrompt second) := by
  cases marked : readsAsSummary first with
  | false =>
    rw [pinnedPrompt_unmarked marked, pinnedPrompt_unmarked (reading.symm.trans marked)]
    exact sameTokens
  | true => rw [pinnedPrompt_marked marked, pinnedPrompt_marked (reading.symm.trans marked)]

theorem foldSummaries_cons_inj {message other : ChatMessage} (rest : List ChatMessage) :
    foldSummaries (message :: rest) = foldSummaries (other :: rest) ↔
      messageText message = messageText other := by
  by_cases empty : rest = []
  · rw [empty, ← Option.toList_some, ← Option.toList_some, foldSummaries_toList,
      foldSummaries_toList]
    exact ⟨Option.some.inj, congrArg some⟩
  · rw [foldSummaries_cons empty, foldSummaries_cons empty, Option.some.injEq,
      String.append_left_inj, String.append_left_inj]

/-- **Prompts that are read the same way decide the same.** -/
theorem SameReading.decisionAt (same : SameReading first second) (transcript : List ChatMessage) :
    decisionAt (foldedPrompt first) transcript = decisionAt (foldedPrompt second) transcript := by
  obtain ⟨reading, texts⟩ := same
  cases marked : readsAsSummary first with
  | false =>
    rw [foldedPrompt_unmarked marked, foldedPrompt_unmarked (reading.symm.trans marked)]
  | true =>
    rw [foldedPrompt_marked marked, foldedPrompt_marked (reading.symm.trans marked)]
    funext keepStart
    have folds := (foldSummaries_cons_inj (transcript.filter isPriorSummary)).mpr (texts marked)
    exact congrArg (fun folded => ((⟨_, folded⟩, _) : SummaryInput × Nat)) folds

theorem sameReading_of_handed {transcript : List ChatMessage} {keepStart keepStart' : Nat}
    (handed : (decisionAt (foldedPrompt first) transcript keepStart).1 =
      (decisionAt (foldedPrompt second) transcript keepStart').1) : SameReading first second := by
  have folds : foldSummaries (foldedPrompt first ++ transcript.filter isPriorSummary) =
      foldSummaries (foldedPrompt second ++ transcript.filter isPriorSummary) :=
    congrArg SummaryInput.previousSummary handed
  cases one : readsAsSummary first with
  | false =>
    cases two : readsAsSummary second with
    | false => exact ⟨one.trans two.symm, fun marked => Bool.noConfusion (one.symm.trans marked)⟩
    | true =>
      rw [foldedPrompt_unmarked one, foldedPrompt_marked two] at folds
      exact absurd folds.symm (foldSummaries_cons_ne _ _)
  | true =>
    cases two : readsAsSummary second with
    | false =>
      rw [foldedPrompt_marked one, foldedPrompt_unmarked two] at folds
      exact absurd folds (foldSummaries_cons_ne _ _)
    | true =>
      rw [foldedPrompt_marked one, foldedPrompt_marked two] at folds
      exact ⟨one.trans two.symm, fun _ => (foldSummaries_cons_inj _).mp folds⟩

end Prompts

theorem effectOf_handed (summarize : SummaryInput → Except AppError String)
    (transcript : List ChatMessage) (decision : Option (SummaryInput × Nat)) :
    (effectOf summarize transcript decision).handed.head? = decision.map Prod.fst := by
  cases decision with
  | none | some => rfl

/-- **Two prompts of equal token count have the same effect on the transcript exactly when they are
read the same way, or nothing is summarised under either.** -/
theorem prompt_steers_iff {compactor : Compactor}
    {summarize : SummaryInput → Except AppError String} {mark : Option Nat}
    {first second : List ContentBlock} {transcript : List ChatMessage}
    (sameTokens : promptTokens compactor first = promptTokens compactor second) :
    compactionEffect compactor summarize mark first transcript =
        compactionEffect compactor summarize mark second transcript ↔
      SameReading first second ∨ compactor.plan? (assembleMessages first transcript) mark = none ∧
          compactor.plan? (assembleMessages second transcript) mark = none := by
  rw [compactionEffect_eq, compactionEffect_eq]
  constructor
  · intro same
    have decided := congrArg (fun effect : CompactionEffect => effect.handed.head?) same
    rw [effectOf_handed, effectOf_handed] at decided
    cases one : compactor.plan? (assembleMessages first transcript) mark with
    | none =>
      cases two : compactor.plan? (assembleMessages second transcript) mark with
      | none => exact Or.inr ⟨rfl, rfl⟩
      | some plan' =>
        rw [one, two] at decided
        cases decided
    | some plan =>
      cases two : compactor.plan? (assembleMessages second transcript) mark with
      | none =>
        rw [one, two] at decided
        cases decided
      | some plan' =>
        rw [one, two] at decided
        obtain ⟨keepStart, decision⟩ := decision_of_plan one
        obtain ⟨keepStart', decision'⟩ := decision_of_plan two
        have handed : (decisionAt (foldedPrompt first) transcript keepStart).1 =
            (decisionAt (foldedPrompt second) transcript keepStart').1 :=
          (congrArg Prod.fst decision).trans
            ((Option.some.inj decided).trans (congrArg Prod.fst decision').symm)
        exact Or.inl (sameReading_of_handed handed)
  · rintro (reading | ⟨one, two⟩)
    · rw [decision_eq, decision_eq, sameTokens, pinnedTokens_eq sameTokens reading.1,
        reading.decisionAt]
    · rw [one, two]

/-! ### A prompt that steers -/

/-- Two prompts of the same token count, one of which begins like a summary. -/
def recapPrompt : List ContentBlock := [.text "[Summary of the house rules]"]

def rulesPrompt : List ContentBlock := [.text "Follow the house rules."]

theorem plain_prompts_agree :
    compactionEffect eagerCompactor (fun _ => .ok "so far") none rulesPrompt twoTurns.messages =
      compactionEffect eagerCompactor (fun _ => .ok "so far") none [.text "Be brief."]
        twoTurns.messages :=
  (prompt_steers_iff rfl).mpr (Or.inl ⟨by decide, fun marked => absurd marked (by decide)⟩)

/-- **The text of the prompt moves the boundary**: one turn is dropped under one prompt, both under
the other. -/
theorem recap_steers :
    promptTokens eagerCompactor rulesPrompt = promptTokens eagerCompactor recapPrompt ∧
    (compactionEffect eagerCompactor (fun _ => .ok "so far") none rulesPrompt
      twoTurns.messages).dropped = [.ofUser "a"] ∧
    (compactionEffect eagerCompactor (fun _ => .ok "so far") none recapPrompt
      twoTurns.messages).dropped = [.ofUser "a", .ofUser "b"] :=
  ⟨rfl, rfl, rfl⟩

end Ziee.Agent
