/-
**Compaction against the stored transcript** (`compaction.rs`, `CompactionExtension`, and
`WorkflowTranscriptStore::replace_head`).

The boundary of a summary is found in the *assembled request* (the contributed system prompt, then
the stored transcript), but `replace_head` cuts the *stored transcript*. The two countings agree
when the prompt is not read as a rolling summary itself.

* `StoredTranscript` — a transcript with at most one rolling summary, at its head; every sequence
  of appends and compactions stays one (`Reaches.stored`), whatever the prompts say.
* `plan_writeKeeps` — a prompt that is not read as a summary keeps;
  `foldSummaries_cons_ne` — one that is read as a summary is folded into the new one and counted.
* `Reaches.conserves` — over a whole run, what was handed over followed by the body is the initial
  body followed by what was appended.
* `rewrite_keeps_iff` — **the rewrite keeps exactly when the prompt is not read as a summary**.
-/

import Ziee.Agent.Core
import Ziee.Agent.Compaction

namespace Ziee.Agent

open PortProgram Ziee.Providers

/-- What the contributed prompt adds in front of the transcript. -/
def promptMessages (system : List ContentBlock) : List ChatMessage := assembleMessages system []

/-- The contributed prompt is read as a rolling summary: some text block of it begins with the
marker. -/
def readsAsSummary (system : List ContentBlock) : Bool := isPriorSummary ⟨.system, system⟩

section Assembled

variable {system : List ContentBlock}

theorem assembleMessages_eq (system : List ContentBlock) (history : List ChatMessage) :
    assembleMessages system history = promptMessages system ++ history := by
  rw [promptMessages, assembleMessages, assembleMessages, List.append_nil]

theorem promptMessages_cases (system : List ContentBlock) :
    system = [] ∧ promptMessages system = [] ∨ promptMessages system = [⟨.system, system⟩] := by
  cases system with
  | nil => exact Or.inl ⟨rfl, rfl⟩
  | cons block rest => exact Or.inr rfl

theorem role_promptMessages : ∀ message ∈ promptMessages system, message.role = .system := by
  rcases promptMessages_cases system with ⟨-, same⟩ | same
  · rw [same]
    exact List.forall_mem_nil _
  · rw [same]
    exact List.forall_mem_singleton.mpr rfl

theorem promptMessages_unmarked (unmarked : readsAsSummary system = false) :
    (promptMessages system).filter isPriorSummary = [] := by
  rcases promptMessages_cases system with ⟨-, same⟩ | same
  · rw [same]
    rfl
  · rw [same]
    exact List.filter_eq_nil_iff.mpr (List.forall_mem_singleton.mpr (Bool.eq_false_iff.mp unmarked))

theorem promptMessages_marked (marked : readsAsSummary system = true) :
    (promptMessages system).filter isPriorSummary = [⟨.system, system⟩] := by
  rcases promptMessages_cases system with ⟨rfl, -⟩ | same
  · exact absurd marked Bool.false_ne_true
  · rw [same]
    exact List.filter_eq_self.mpr (List.forall_mem_singleton.mpr marked)

end Assembled

theorem isPriorSummary_role {message : ChatMessage} (prior : isPriorSummary message = true) :
    message.role = .system := by
  unfold isPriorSummary at prior
  rw [Bool.and_eq_true, decide_eq_true_eq] at prior
  exact prior.1

theorem isPriorSummary_summary (plan : SummaryPlan) (text : String) :
    isPriorSummary (plan.summary text) = true := by
  have marked : startsWithTrimmed summaryMarker
      (summaryMarker ++ toString plan.upto ++ " earlier messages]\n" ++ text) = true := by
    unfold startsWithTrimmed trimStart
    rw [String.append_assoc, String.append_assoc, String.toList_append]
    have kept : ∀ rest : List Char, (summaryMarker.toList ++ rest).dropWhile isWhitespace =
        summaryMarker.toList ++ rest := fun rest => rfl
    rw [kept]
    exact List.isPrefixOf_iff_prefix.mpr ⟨_, rfl⟩
  exact Bool.and_eq_true _ _ ▸ ⟨rfl, List.any_eq_true.mpr ⟨_, List.mem_singleton.mpr rfl, marked⟩⟩

/-! ### Transcripts with one summary -/

structure StoredTranscript where
  summary : Option ChatMessage
  body : List ChatMessage
  isSummary : ∀ message ∈ summary.toList, isPriorSummary message = true
  roles : ∀ message ∈ body, message.role ≠ .system

namespace StoredTranscript

variable (stored : StoredTranscript)

def messages : List ChatMessage := stored.summary.toList ++ stored.body

def append (message : ChatMessage) (role : message.role ≠ .system) : StoredTranscript where
  summary := stored.summary
  body := stored.body ++ [message]
  isSummary := stored.isSummary
  roles := fun other member => by
    rcases List.mem_append.mp member with member | member
    · exact stored.roles other member
    · exact List.mem_singleton.mp member ▸ role

theorem messages_append (message : ChatMessage) (role : message.role ≠ .system) :
    (stored.append message role).messages = stored.messages ++ [message] :=
  (List.append_assoc _ _ _).symm

theorem body_notSummary : stored.body.filter isPriorSummary = [] :=
  List.filter_eq_nil_iff.mpr fun message member prior =>
    stored.roles message member (isPriorSummary_role prior)

theorem priorSummaries (system : List ContentBlock) :
    (assembleMessages system stored.messages).filter isPriorSummary =
      (promptMessages system).filter isPriorSummary ++ stored.summary.toList := by
  rw [assembleMessages_eq, messages, List.filter_append, List.filter_append, body_notSummary,
    List.filter_eq_self.mpr stored.isSummary, List.append_nil]

theorem conversation (system : List ContentBlock) :
    (assembleMessages system stored.messages).filter (fun m => m.role ≠ .system) = stored.body := by
  have none : ∀ messages : List ChatMessage, (∀ message ∈ messages, message.role = .system) →
      messages.filter (fun m => m.role ≠ .system) = [] := fun messages all =>
    List.filter_eq_nil_iff.mpr fun message member kept =>
      of_decide_eq_true kept (all message member)
  rw [assembleMessages_eq, messages, List.filter_append, List.filter_append,
    none _ role_promptMessages,
    none _ fun message member => isPriorSummary_role (stored.isSummary message member)]
  exact List.filter_eq_self.mpr fun message member => decide_eq_true (stored.roles message member)

end StoredTranscript

/-! ### Plans on an assembled request -/

/-- **What a plan on an assembled request is**: the summaries of the prompt and of the transcript,
and a cut of the body with something on either side. -/
structure PlansBody (system : List ContentBlock) (stored : StoredTranscript) (plan : SummaryPlan) :
    Prop where
  priors : plan.priorSummaries =
    (promptMessages system).filter isPriorSummary ++ stored.summary.toList
  body : plan.old ++ plan.keep = stored.body
  keeps : plan.keep ≠ []

theorem plansBody {compactor : Compactor} {system : List ContentBlock} {stored : StoredTranscript}
    {mark : Option Nat} {plan : SummaryPlan}
    (planned : compactor.plan? (assembleMessages system stored.messages) mark = some plan) :
    PlansBody system stored plan := by
  unfold Compactor.plan? at planned
  split at planned
  · unfold Compactor.summaryPlan at planned
    dsimp only at planned
    rw [stored.priorSummaries, stored.conversation] at planned
    obtain ⟨keepStart, found, rfl⟩ := Option.map_eq_some_iff.mp planned
    obtain ⟨-, inside, -⟩ := boundary?_eq_some found
    exact ⟨rfl, List.take_append_drop _ _, by
      rw [Ne, List.drop_eq_nil_iff]
      exact Nat.not_le.mpr inside⟩
  · cases planned

/-! ### Folding summaries -/

theorem foldSummaries_cons {message : ChatMessage} {rest : List ChatMessage} (more : rest ≠ []) :
    foldSummaries (message :: rest) =
      some (messageText message ++ "\n\n" ++ "\n\n".intercalate (rest.map messageText)) :=
  congrArg some (String.intercalate_cons_of_ne_nil fun empty => more (List.map_eq_nil_iff.mp empty))

theorem foldSummaries_toList (summary : Option ChatMessage) :
    foldSummaries summary.toList = summary.map messageText := by
  cases summary with
  | none => rfl
  | some message => exact congrArg some String.intercalate_singleton

theorem foldSummaries_cons_ne (message : ChatMessage) (rest : List ChatMessage) :
    foldSummaries (message :: rest) ≠ foldSummaries rest := by
  intro same
  cases rest with
  | nil => cases same
  | cons other rest =>
    rw [foldSummaries_cons (List.cons_ne_nil _ _)] at same
    have text := congrArg String.length (Option.some.inj same)
    rw [String.length_append, String.length_append] at text
    have separator : "\n\n".length = 2 := rfl
    have folded : ("\n\n".intercalate ((other :: rest).map messageText)).length = _ := text.symm
    omega

/-! ### One rewrite -/

def joined (messages : List ChatMessage) : String := "\n\n".intercalate (messages.map messageText)

/-- **Nothing is lost and nothing is duplicated by one rewrite**: the body is what the summarizer
was given followed by what is kept, and the summarizer was given the old summary as well. -/
def WriteKeeps (stored : StoredTranscript) (trace : List CompactionEvent)
    (write : ChatMessage × Nat) : Prop :=
  ∃ old keep text, old ++ keep = stored.body ∧
    replaceHead stored.messages write.1 write.2 = write.1 :: keep ∧
    trace = [⟨.summarize ⟨joined old, stored.summary.map messageText⟩,
      (.ok text : Except AppError String)⟩]

section Rewrite

variable {system : List ContentBlock} {stored : StoredTranscript} {plan : SummaryPlan}

theorem PlansBody.input (body : PlansBody system stored plan)
    (unmarked : readsAsSummary system = false) :
    plan.input = ⟨joined plan.old, stored.summary.map messageText⟩ := by
  unfold SummaryPlan.input
  rw [body.priors, promptMessages_unmarked unmarked, List.nil_append, foldSummaries_toList]
  rfl

theorem PlansBody.replaceHead (body : PlansBody system stored plan)
    (unmarked : readsAsSummary system = false) (summary : ChatMessage) :
    replaceHead stored.messages summary plan.upto = summary :: plan.keep := by
  have head : stored.messages = (plan.priorSummaries ++ plan.old) ++ plan.keep := by
    rw [body.priors, promptMessages_unmarked unmarked, List.nil_append, List.append_assoc,
      body.body]
    rfl
  have length : (plan.priorSummaries ++ plan.old).length = plan.upto := List.length_append
  unfold Ziee.Agent.replaceHead
  rw [head, List.length_append, length, Nat.min_eq_left (Nat.le_add_right _ _),
    List.drop_left' length]

theorem plan_writeKeeps (body : PlansBody system stored plan)
    (unmarked : readsAsSummary system = false) (text : String) :
    WriteKeeps stored [⟨.summarize plan.input, (.ok text : Except AppError String)⟩]
      (plan.summary text, plan.upto) :=
  ⟨plan.old, plan.keep, text, body.body, body.replaceHead unmarked _, by
    rw [body.input unmarked]⟩

theorem plan_not_writeKeeps (body : PlansBody system stored plan)
    (marked : readsAsSummary system = true) (text : String) (write : ChatMessage × Nat) :
    ¬ WriteKeeps stored [⟨.summarize plan.input, (.ok text : Except AppError String)⟩] write := by
  rintro ⟨old, keep, text', -, -, same⟩
  have event := (List.cons.inj same).1
  have query : CompactionQuery.summarize plan.input = .summarize _ := congrArg Sigma.fst event
  have previous : foldSummaries plan.priorSummaries = _ :=
    congrArg SummaryInput.previousSummary (CompactionQuery.summarize.inj query)
  rw [body.priors, promptMessages_marked marked, ← foldSummaries_toList] at previous
  exact foldSummaries_cons_ne _ _ previous

theorem PlansBody.rewritten (body : PlansBody system stored plan) (text : String) :
    ∃ stored' : StoredTranscript,
      stored'.messages = Ziee.Agent.replaceHead stored.messages (plan.summary text) plan.upto := by
  have past : ∀ message ∈ stored.messages.drop (min plan.upto stored.messages.length),
      message ∈ stored.body := by
    intro message member
    unfold StoredTranscript.messages at member
    rw [List.drop_append] at member
    refine (List.mem_append.mp member).elim (fun head => ?_) List.mem_of_mem_drop
    have covers : stored.summary.toList.length ≤
        min plan.upto (stored.summary.toList ++ stored.body).length := by
      refine Nat.le_min.mpr ⟨?_, by rw [List.length_append]; exact Nat.le_add_right _ _⟩
      unfold SummaryPlan.upto
      rw [body.priors, List.length_append]
      omega
    rw [List.drop_eq_nil_of_le covers] at head
    cases head
  exact ⟨⟨some (plan.summary text), _,
    List.forall_mem_singleton.mpr (isPriorSummary_summary plan text),
    fun message member => stored.roles message (past message member)⟩, rfl⟩

end Rewrite

/-! ### A run of the extension -/

/-- What the store does on a query of the extension; a failed rewrite changes nothing. -/
def storeAfter (messages : List ChatMessage) (event : CompactionEvent) : List ChatMessage :=
  match event with
  | ⟨.replaceHead _ summary upto, .ok ()⟩ => replaceHead messages summary upto
  | _ => messages

def written : List CompactionEvent → List SummaryInput
  | ⟨.summarize input, _⟩ :: ⟨.replaceHead _ _ _, .ok ()⟩ :: _ => [input]
  | _ => []

/-- **What a run of the extension does to the store**: nothing, or one rewrite by its plan. -/
theorem HookRun.store {extension : CompactionExtension} {request : ChatRequest}
    {trace : List CompactionEvent} {outcome : Except AppError (ChatRequest × Flow)}
    (run : HookRun extension request trace outcome) :
    (written trace = [] ∧ ∀ messages, trace.foldl storeAfter messages = messages) ∨
      ∃ plan text, extension.compactor.plan? request.messages none = some plan ∧
        trace = [⟨.summarize plan.input, (.ok text : Except AppError String)⟩,
          ⟨.replaceHead extension.runId (plan.summary text) plan.upto,
            (.ok () : Except AppError Unit)⟩,
          ⟨.emit (.historyReplaced plan.upto), ()⟩] := by
  cases run with
  | unplanned | unsummarised | unwritten => exact Or.inl ⟨rfl, fun _ => rfl⟩
  | rewritten plan text planned => exact Or.inr ⟨plan, text, planned, rfl⟩

/-! ### Appends and compactions -/

/-- A stored transcript with its past: what was appended, and what was handed to the summarizer
by the rewrites. -/
structure Ledger where
  messages : List ChatMessage
  appended : List ChatMessage
  handed : List SummaryInput

def Ledger.start (messages : List ChatMessage) : Ledger := ⟨messages, [], []⟩

inductive Change (allowed : List ContentBlock → Prop) : Ledger → Ledger → Prop
  | append {ledger : Ledger} (message : ChatMessage) : message.role ≠ .system →
      Change allowed ledger { ledger with
        messages := ledger.messages ++ [message]
        appended := ledger.appended ++ [message] }
  | compact {ledger : Ledger} (extension : CompactionExtension) (system : List ContentBlock)
      (request : ChatRequest) {trace : List CompactionEvent}
      {outcome : Except AppError (ChatRequest × Flow)} : allowed system →
      request.messages = assembleMessages system ledger.messages →
      Runs (extension.beforeModel request) trace outcome → Change allowed ledger { ledger with
        messages := trace.foldl storeAfter ledger.messages
        handed := ledger.handed ++ written trace }

/-- Any sequence of appends and compactions. -/
def Reaches (allowed : List ContentBlock → Prop) : Ledger → Ledger → Prop :=
  Relation.ReflTransGen (Change allowed)

/-- **The conservation law**: what was handed to the summarizer so far followed by the body is the
initial body followed by what was appended. -/
structure Conserves (start : StoredTranscript) (ledger : Ledger) (stored : StoredTranscript)
    (olds : List (List ChatMessage)) : Prop where
  messages : ledger.messages = stored.messages
  handed : ledger.handed.map (·.transcript) = olds.map joined
  body : olds.flatten ++ stored.body = start.body ++ ledger.appended

section Changes

variable {allowed : List ContentBlock → Prop} {ledger ledger' : Ledger}

theorem Change.stored (change : Change allowed ledger ledger') {stored : StoredTranscript}
    (same : ledger.messages = stored.messages) :
    ∃ stored' : StoredTranscript, ledger'.messages = stored'.messages := by
  cases change with
  | append message role =>
    refine ⟨stored.append message role, ?_⟩
    rw [stored.messages_append, ← same]
  | compact extension system request _ assembled run =>
    rcases (runs_beforeModel run).store with ⟨-, still⟩ | ⟨plan, text, planned, rfl⟩
    · exact ⟨stored, (still _).trans same⟩
    · rw [assembled, same] at planned
      obtain ⟨stored', rewritten⟩ := (plansBody planned).rewritten text
      exact ⟨stored', by rw [rewritten, ← same]; rfl⟩

/-- **At most one summary, at the head**, after any sequence of appends and compactions. -/
theorem Reaches.stored (reaches : Reaches allowed ledger ledger') {stored : StoredTranscript}
    (same : ledger.messages = stored.messages) :
    ∃ stored' : StoredTranscript, ledger'.messages = stored'.messages := by
  induction reaches with
  | refl => exact ⟨stored, same⟩
  | tail _ change ih =>
    obtain ⟨middle, same⟩ := ih
    exact change.stored same

theorem Change.conserves {start stored : StoredTranscript} {olds : List (List ChatMessage)}
    (change : Change (fun system => readsAsSummary system = false) ledger ledger')
    (conserves : Conserves start ledger stored olds) :
    ∃ stored' olds', Conserves start ledger' stored' olds' := by
  cases change with
  | append message role =>
    refine ⟨stored.append message role, olds, ?_, conserves.handed, ?_⟩
    · rw [stored.messages_append, ← conserves.messages]
    · show olds.flatten ++ (stored.body ++ [message]) = start.body ++ (_ ++ [message])
      rw [← List.append_assoc, conserves.body, List.append_assoc]
  | compact extension system request unmarked assembled run =>
    rcases (runs_beforeModel run).store with ⟨nothing, still⟩ | ⟨plan, text, planned, rfl⟩
    · refine ⟨stored, olds, (still _).trans conserves.messages, ?_, conserves.body⟩
      show (ledger.handed ++ written _).map _ = _
      rw [nothing, List.append_nil, conserves.handed]
    · rw [assembled, conserves.messages] at planned
      have body := plansBody planned
      have tailRoles : ∀ message ∈ plan.keep, message.role ≠ .system := fun message member =>
        stored.roles message (body.body ▸ List.mem_append_right _ member)
      refine ⟨⟨some (plan.summary text), plan.keep,
        List.forall_mem_singleton.mpr (isPriorSummary_summary plan text), tailRoles⟩,
        olds ++ [plan.old], ?_, ?_, ?_⟩
      · show replaceHead ledger.messages (plan.summary text) plan.upto = _
        rw [conserves.messages, body.replaceHead unmarked]
        rfl
      · show (ledger.handed ++ [plan.input]).map _ = _
        rw [List.map_append, List.map_append, conserves.handed]
        rfl
      · show (olds ++ [plan.old]).flatten ++ plan.keep = start.body ++ ledger.appended
        rw [List.flatten_append, List.flatten_singleton, List.append_assoc, body.body,
          conserves.body]

/-- **The conservation law holds of every run** whose prompts are not read as summaries. -/
theorem Reaches.conserves {start : StoredTranscript}
    (reaches : Reaches (fun system => readsAsSummary system = false)
      (.start start.messages) ledger) :
    ∃ stored olds, Conserves start ledger stored olds := by
  induction reaches with
  | refl => exact ⟨start, [], rfl, rfl, (List.append_nil _).symm⟩
  | tail _ change ih =>
    obtain ⟨stored, olds, conserves⟩ := ih
    exact change.conserves conserves

end Changes

/-- **A rewrite keeps exactly when the contributed prompt is not read as a summary.** Every
sequence of appends and compactions leaves at most one summary, at the head; one whose prompts are
never read as summaries loses and duplicates nothing. -/
theorem rewrite_keeps_iff (stored : StoredTranscript) :
    (∀ (compactor : Compactor) (system : List ContentBlock) (mark : Option Nat)
        (trace : List CompactionEvent) (result : CompactionResult) (write : ChatMessage × Nat),
        Runs (compactor.fit (assembleMessages system stored.messages) mark) trace
          (.ok (some result)) →
        result.summaryWrite = some write →
        (WriteKeeps stored trace write ↔ readsAsSummary system = false)) ∧
    (∀ ledger, Reaches (fun _ => True) (.start stored.messages) ledger →
      ∃ stored' : StoredTranscript, ledger.messages = stored'.messages) ∧
    (∀ ledger, Reaches (fun system => readsAsSummary system = false)
        (.start stored.messages) ledger →
      ∃ stored' olds, Conserves stored ledger stored' olds) := by
  refine ⟨fun compactor system mark trace result write run wrote => ?_,
    fun ledger reaches => reaches.stored rfl, fun ledger reaches => reaches.conserves⟩
  obtain rfl | ⟨plan, text, planned, rfl, rfl⟩ := fit_some_cases run
  · cases wrote
  · cases wrote
    have body := plansBody planned
    cases reading : readsAsSummary system with
    | false => exact iff_of_true (plan_writeKeeps body reading text) rfl
    | true => exact iff_of_false (plan_not_writeKeeps body reading text _) Bool.noConfusion

/-! ### A prompt that is miscounted -/

def twoTurns : StoredTranscript where
  summary := none
  body := [.ofUser "a", .ofUser "b"]
  isSummary := List.forall_mem_nil _
  roles := List.forall_mem_cons.mpr ⟨nofun, List.forall_mem_singleton.mpr nofun⟩

def notesPrompt : List ContentBlock := [.text "Be brief.", .text "[Summary of the project notes]"]

theorem plain_prompt_keeps :
    WriteKeeps twoTurns (eagerFit (assembleMessages [.text "Be brief."] twoTurns.messages)).1
      (.ofSystem "[Summary of 1 earlier messages]\nso far", 1) :=
  ((rewrite_keeps_iff twoTurns).1 eagerCompactor [.text "Be brief."] none _
    ⟨[⟨.system, [.text "Be brief."]⟩, .ofSystem "[Summary of 1 earlier messages]\nso far",
      .ofUser "b"], _⟩ _ (runs_simulate _ _ []) rfl).mpr (by decide)

/-- **A turn is lost**: the prompt does not begin with the marker, but its second block does, so
the boundary is one too far; only the first turn was handed to the summarizer, and neither is
kept. -/
theorem later_block_miscounted :
    startsWithTrimmed summaryMarker (messageText ⟨.system, notesPrompt⟩) = false ∧
    ∃ trace result summary upto,
      Runs (eagerCompactor.fit (assembleMessages notesPrompt twoTurns.messages) none) trace
        (.ok (some result)) ∧
      result.summaryWrite = some (summary, upto) ∧
      replaceHead twoTurns.messages summary upto = [summary] ∧
      (∃ input answer, trace = [⟨.summarize input, answer⟩] ∧ input.transcript = "a") ∧
      ¬ WriteKeeps twoTurns trace (summary, upto) := by
  have run := runs_simulate (fun _ => summarizer "so far")
    (eagerCompactor.fit (assembleMessages notesPrompt twoTurns.messages) none) []
  refine ⟨by decide, _, ⟨[.ofSystem "[Summary of 2 earlier messages]\nso far", .ofUser "b"], _⟩,
    .ofSystem "[Summary of 2 earlier messages]\nso far", 2, run, rfl, rfl, ⟨_, _, rfl, by decide⟩,
      ?_⟩
  rintro ⟨old, keep, text, -, -, same⟩
  have query : CompactionQuery.summarize ⟨"a", some "Be brief. [Summary of the project notes]"⟩ =
      .summarize ⟨joined old, none⟩ := congrArg Sigma.fst (List.cons.inj same).1
  cases congrArg SummaryInput.previousSummary (CompactionQuery.summarize.inj query)

end Ziee.Agent
