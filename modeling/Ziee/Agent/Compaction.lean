/-
**Context compaction** (`compaction.rs`, and `replace_head` of the workflow transcript store).

The compactor is a pipeline of tiers over the assembled request, cheapest first: `evictToolResults`
clears the content of old tool results, `turnTrim` drops empty and repeated text turns, and when
that is not enough `summaryPlan` splits the conversation into an old part that is summarised and a
newest part that is kept. `fit` runs the tiers; its one question to the outside is the summary.
`CompactionExtension.beforeModel` puts the result into the request and, for a summary, replaces the
head of the stored transcript (`replaceHead`).

A token counter is any function on texts. A fraction of the window is a `Fraction`: the function
`usable ↦ ⌊usable · fraction⌋` of the floating-point code, of which nothing is assumed.
-/

import Ziee.Agent.Ports
import Ziee.Providers.Text

namespace Ziee.Agent

open PortProgram Ziee.Providers

/-- A fraction of the usable window, by the number of tokens it comes to. -/
structure Fraction where
  scale : Nat → Nat

structure CompactionConfig where
  contextWindow : Option Nat
  maxOutputTokens : Nat
  safetyTokens : Nat
  fallbackWindowTokens : Nat
  triggerFraction : Fraction
  lowWatermarkFraction : Fraction
  tier1Fraction : Fraction
  keepToolResults : Nat
  minFreeTokens : Nat
  cooldownGrowthTokens : Nat

def summaryReserveTokens : Nat := 2000

def toolResultPlaceholder : String :=
  "[Older tool result cleared to save context. Recall it with get_tool_result if still needed.]"

/-- How a rolling summary begins. -/
def summaryMarker : String := "[Summary of "

structure Compactor where
  config : CompactionConfig
  count : String → Nat

namespace Compactor

def usableWindow (compactor : Compactor) : Nat :=
  max (compactor.config.contextWindow.getD compactor.config.fallbackWindowTokens -
    (compactor.config.maxOutputTokens + compactor.config.safetyTokens)) 1

def highWatermarkTokens (compactor : Compactor) : Nat :=
  compactor.config.triggerFraction.scale compactor.usableWindow

def lowWatermarkTokens (compactor : Compactor) : Nat :=
  compactor.config.lowWatermarkFraction.scale compactor.usableWindow

def tier1Tokens (compactor : Compactor) : Nat :=
  compactor.config.tier1Fraction.scale compactor.usableWindow

end Compactor

/-! ### Texts and token estimates -/

def textOf? : ContentBlock → Option String
  | .text text => some text
  | _ => none

def blockText? : ContentBlock → Option String
  | .text text => some text
  | .thinking thinking _ => some thinking
  | .toolUse _ name input => some (name ++ " " ++ input.render)
  | .toolResult _ _ content _ => some (" ".intercalate (content.filterMap textOf?))
  | _ => none

def messageText (message : ChatMessage) : String :=
  " ".intercalate (message.content.filterMap blockText?)

def Compactor.estimateMsg (compactor : Compactor) (message : ChatMessage) : Nat :=
  compactor.count (messageText message)

def Compactor.estimate (compactor : Compactor) (messages : List ChatMessage) : Nat :=
  (messages.map compactor.estimateMsg).sum

/-! ### Tool-result eviction -/

def msgHasToolBlock (message : ChatMessage) : Bool :=
  message.content.any fun block => block.isToolUse || block.isToolResult

def msgHasToolResult (message : ChatMessage) : Bool := message.content.any ContentBlock.isToolResult

def textBytes (content : List ContentBlock) : Nat :=
  ((content.filterMap textOf?).map String.utf8ByteSize).sum

/-- Clearing the block makes it smaller. -/
def shrinks : ContentBlock → Bool
  | .toolResult _ _ content _ => textBytes content > toolResultPlaceholder.utf8ByteSize
  | _ => false

def evictBlock (block : ContentBlock) : ContentBlock :=
  match block with
  | .toolResult id name _ isError =>
    if shrinks block then .toolResult id name [.text toolResultPlaceholder] isError else block
  | _ => block

def evictMessage (message : ChatMessage) : ChatMessage :=
  { message with content := message.content.map evictBlock }

def isEvictable (message : ChatMessage) : Bool :=
  message.role ≠ .system && msgHasToolResult message

/-- Evict the first `n` messages with tool results. -/
def evictFirst : Nat → List ChatMessage → List ChatMessage
  | _, [] => []
  | 0, messages => messages
  | n + 1, message :: rest =>
    if isEvictable message then evictMessage message :: evictFirst n rest
    else message :: evictFirst (n + 1) rest

/-- All but the newest `keepToolResults` messages with tool results, and whether one changed. -/
def Compactor.evictToolResults (compactor : Compactor) (messages : List ChatMessage) :
    List ChatMessage × Bool :=
  let evictable := messages.filter isEvictable
  let evictUpto := evictable.length - compactor.config.keepToolResults
  (evictFirst evictUpto messages,
    (evictable.take evictUpto).any fun message => message.content.any shrinks)

/-! ### Turn trimming -/

def repeats (kept : Option ChatMessage) (message : ChatMessage) : Bool :=
  match kept with
  | some previous => previous.role = message.role && !msgHasToolBlock previous &&
      trim (messageText previous).toList = trim (messageText message).toList
  | none => false

/-- Drop blank and repeated pure-text turns, never the last message; `kept` is the turn kept
last. -/
def trimTurns (kept : Option ChatMessage) : List ChatMessage → List ChatMessage × Bool
  | [] => ([], false)
  | message :: rest =>
    let trimmable := message.role ≠ .system && !msgHasToolBlock message && !rest.isEmpty
    if trimmable && (isBlank (messageText message) || repeats kept message) then
      ((trimTurns kept rest).1, true)
    else
      (message :: (trimTurns (some message) rest).1, (trimTurns (some message) rest).2)

def turnTrim (messages : List ChatMessage) : List ChatMessage × Bool :=
  if messages.length ≤ 1 then (messages, false) else trimTurns none messages

variable {messages : List ChatMessage} {mark : Option Nat} {trace : List CompactionEvent}

theorem turnTrim_eq (messages : List ChatMessage) :
    (turnTrim messages).1 = (trimTurns none messages).1 := by
  unfold turnTrim
  split
  · rename_i short
    match messages, short with
    | [], _ => rfl
    | [message], _ => simp [trimTurns]
  · rfl

/-! ### The split for the summary -/

/-- Walk back from the end while the kept suffix stays under the target. -/
def splitFrom (compactor : Compactor) (rest : List ChatMessage) (targetKeep : Nat) :
    Nat → Nat → Nat → Nat
  | 0, _, keepStart => keepStart
  | i + 1, acc, keepStart =>
    let tokens := (rest[i]?.map compactor.estimateMsg).getD 0
    if keepStart ≠ rest.length ∧ acc + tokens > targetKeep then keepStart
    else splitFrom compactor rest targetKeep i (acc + tokens) i

/-- Where the kept newest suffix begins; it always holds the newest message. -/
def Compactor.splitKeepStart (compactor : Compactor) (rest : List ChatMessage)
    (targetKeep : Nat) : Nat :=
  splitFrom compactor rest targetKeep rest.length 0 rest.length

/-- Move the boundary back until the kept part does not begin with a tool result. -/
def pullBack (rest : List ChatMessage) : Nat → Nat
  | 0 => 0
  | i + 1 => if (rest[i + 1]?).any msgHasToolResult then pullBack rest i else i + 1

def isPriorSummary (message : ChatMessage) : Bool :=
  message.role = .system && message.content.any fun block =>
    match block with
    | .text text => startsWithTrimmed summaryMarker text
    | _ => false

structure SummaryInput where
  transcript : String
  previousSummary : Option String
  deriving DecidableEq, Repr

structure SummaryPlan where
  pinned : List ChatMessage
  priorSummaries : List ChatMessage
  old : List ChatMessage
  keep : List ChatMessage

def foldSummaries (summaries : List ChatMessage) : Option String :=
  if summaries.isEmpty then none else some ("\n\n".intercalate (summaries.map messageText))

namespace SummaryPlan

def input (plan : SummaryPlan) : SummaryInput where
  transcript := "\n\n".intercalate (plan.old.map messageText)
  previousSummary := foldSummaries plan.priorSummaries

/-- The boundary as an index of the stored transcript. -/
def upto (plan : SummaryPlan) : Nat := plan.priorSummaries.length + plan.old.length

def summary (plan : SummaryPlan) (text : String) : ChatMessage :=
  .ofSystem (summaryMarker ++ toString plan.upto ++ " earlier messages]\n" ++ text)

end SummaryPlan

/-- The boundary between what is summarised and what is kept, unless there is nothing worth
summarising. -/
def Compactor.boundary? (compactor : Compactor) (pinnedTokens : Nat) (rest : List ChatMessage) :
    Option Nat :=
  if rest.length < 2 then none
  else
    let summaryReserve := min summaryReserveTokens (compactor.lowWatermarkTokens / 2)
    let targetKeep := max (compactor.lowWatermarkTokens - (pinnedTokens + summaryReserve)) 1
    let keepStart := pullBack rest (compactor.splitKeepStart rest targetKeep)
    if keepStart = 0 then none
    else if compactor.estimate (rest.take keepStart) < compactor.config.minFreeTokens then none
    else some keepStart

def Compactor.summaryPlan (compactor : Compactor) (messages : List ChatMessage) :
    Option SummaryPlan :=
  let pinned := messages.filter fun m => m.role = .system && !isPriorSummary m
  let rest := messages.filter fun m => m.role ≠ .system
  (compactor.boundary? (compactor.estimate pinned) rest).map fun keepStart =>
    ⟨pinned, messages.filter isPriorSummary, rest.take keepStart, rest.drop keepStart⟩

/-! ### The pipeline -/

structure CompactionResult where
  messages : List ChatMessage
  summaryWrite : Option (ChatMessage × Nat)

inductive CompactionQuery
  | summarize (input : SummaryInput)
  | replaceHead (runId : Uuid) (summary : ChatMessage) (upto : Nat)
  | emit (event : AgentEvent)

abbrev CompactionQuery.Answer : CompactionQuery → Type
  | .summarize _ => Except AppError String
  | .replaceHead _ _ _ => Except AppError Unit
  | .emit _ => Unit

abbrev compactionPorts : Interface := ⟨CompactionQuery, CompactionQuery.Answer⟩

abbrev CompactionM (α : Type) : Type := Program compactionPorts AppError α

abbrev CompactionEvent : Type := Event compactionPorts

def summarize (input : SummaryInput) : CompactionM String :=
  Program.attempt (I := compactionPorts) (CompactionQuery.summarize input) fun answer => answer

/-- Compacted recently, with too little growth since. -/
def Compactor.coolingDown (compactor : Compactor) (current : Nat) (mark : Option Nat) : Bool :=
  match mark with
  | some mark => current - mark < compactor.config.cooldownGrowthTokens
  | none => false

/-- The outcome of the cheap tiers alone. -/
def cheapResult (changed : Bool) (work : List ChatMessage) : Option CompactionResult :=
  if changed then some ⟨work, none⟩ else none

/-- The tiers that ask nobody, and whether they changed anything. -/
def Compactor.cheapTiers (compactor : Compactor) (messages : List ChatMessage) :
    List ChatMessage × Bool :=
  let evicted := compactor.evictToolResults messages
  let trimmed := turnTrim evicted.1
  (trimmed.1, evicted.2 || trimmed.2)

/-- **The tiered pipeline.** -/
def Compactor.fit (compactor : Compactor) (messages : List ChatMessage) (mark : Option Nat) :
    CompactionM (Option CompactionResult) :=
  let current := compactor.estimate messages
  if current ≤ compactor.tier1Tokens then pure none
  else
    let cheap := compactor.cheapTiers messages
    if compactor.estimate cheap.1 ≤ compactor.highWatermarkTokens then
      pure (cheapResult cheap.2 cheap.1)
    else if compactor.coolingDown current mark then pure (cheapResult cheap.2 cheap.1)
    else
      match compactor.summaryPlan messages with
      | none => pure (cheapResult cheap.2 cheap.1)
      | some plan => do
        let text ← summarize plan.input
        pure (some ⟨plan.pinned ++ plan.summary text :: plan.keep,
          some (plan.summary text, plan.upto)⟩)

def Compactor.plan? (compactor : Compactor) (messages : List ChatMessage) (mark : Option Nat) :
    Option SummaryPlan :=
  if compactor.tier1Tokens < compactor.estimate messages ∧
      compactor.highWatermarkTokens < compactor.estimate (compactor.cheapTiers messages).1 ∧
      compactor.coolingDown (compactor.estimate messages) mark = false then
    compactor.summaryPlan messages
  else none

/-- **What a run of the pipeline can do**: nothing, the cheap tiers alone, or one summary. -/
inductive FitRun (compactor : Compactor) (messages : List ChatMessage) (mark : Option Nat) :
    List CompactionEvent → Except AppError (Option CompactionResult) → Prop
  | idle : compactor.plan? messages mark = none →
      FitRun compactor messages mark [] (.ok none)
  | cheap : compactor.plan? messages mark = none →
      FitRun compactor messages mark []
        (.ok (cheapResult (compactor.cheapTiers messages).2 (compactor.cheapTiers messages).1))
  | failed (plan : SummaryPlan) (error : AppError) : compactor.plan? messages mark = some plan →
      FitRun compactor messages mark [⟨.summarize plan.input, (.error error : Except _ String)⟩]
        (.error error)
  | summarised (plan : SummaryPlan) (text : String) :
      compactor.plan? messages mark = some plan →
      FitRun compactor messages mark
        [⟨.summarize plan.input, (.ok text : Except AppError String)⟩]
        (.ok (some ⟨plan.pinned ++ plan.summary text :: plan.keep,
          some (plan.summary text, plan.upto)⟩))

theorem runs_fit {compactor : Compactor} {outcome : Except AppError (Option CompactionResult)}
    (run : Runs (compactor.fit messages mark) trace outcome) :
    FitRun compactor messages mark trace outcome := by
  unfold Compactor.fit at run
  by_cases small : compactor.estimate messages ≤ compactor.tier1Tokens
  · have unplanned : compactor.plan? messages mark = none :=
      if_neg fun due => absurd due.1 (Nat.not_lt.mpr small)
    rw [if_pos small] at run
    obtain ⟨rfl, rfl⟩ := runs_pure_iff.mp run
    exact .idle unplanned
  rw [if_neg small] at run
  by_cases light :
      compactor.estimate (compactor.cheapTiers messages).1 ≤ compactor.highWatermarkTokens
  · have unplanned : compactor.plan? messages mark = none :=
      if_neg fun due => absurd due.2.1 (Nat.not_lt.mpr light)
    rw [if_pos light] at run
    obtain ⟨rfl, rfl⟩ := runs_pure_iff.mp run
    exact .cheap unplanned
  rw [if_neg light] at run
  by_cases cooling : compactor.coolingDown (compactor.estimate messages) mark = true
  · have unplanned : compactor.plan? messages mark = none :=
      if_neg fun due => Bool.noConfusion (cooling.symm.trans due.2.2)
    rw [if_pos cooling] at run
    obtain ⟨rfl, rfl⟩ := runs_pure_iff.mp run
    exact .cheap unplanned
  rw [if_neg cooling] at run
  have due : compactor.plan? messages mark = compactor.summaryPlan messages :=
    if_pos ⟨Nat.not_le.mp small, Nat.not_le.mp light, Bool.eq_false_iff.mpr cooling⟩
  cases planned : compactor.summaryPlan messages with
  | none =>
    rw [planned] at run due
    obtain ⟨rfl, rfl⟩ := runs_pure_iff.mp run
    exact .cheap due
  | some plan =>
    rw [planned] at run due
    rcases runs_attempt_bind_iff.mp run with
      ⟨answer, error, same, rfl, rfl⟩ | ⟨answer, text, tail, same, rfl, rest⟩
    · cases same
      exact .failed plan error due
    · cases same
      obtain ⟨rfl, rfl⟩ := runs_pure_iff.mp rest
      exact .summarised plan text due

/-- **What a list of the pipeline is**: what the cheap tiers leave, or a summary's. -/
theorem fit_some_cases {compactor : Compactor} {result : CompactionResult}
    (run : Runs (compactor.fit messages mark) trace (.ok (some result))) :
    result = ⟨(compactor.cheapTiers messages).1, none⟩ ∨
      ∃ plan text, compactor.plan? messages mark = some plan ∧
        trace = [⟨.summarize plan.input, (.ok text : Except AppError String)⟩] ∧
        result = ⟨plan.pinned ++ plan.summary text :: plan.keep,
          some (plan.summary text, plan.upto)⟩ := by
  generalize outcome : (Except.ok (some result) : Except AppError _) = last at run
  cases runs_fit run with
  | idle | failed => cases outcome
  | cheap =>
    simp only [cheapResult, Except.ok.injEq] at outcome
    split at outcome
    · exact .inl (Option.some.inj outcome)
    · cases outcome
  | summarised plan text planned =>
    cases outcome
    exact .inr ⟨plan, text, planned, rfl, rfl⟩

/-! ### The boundary -/

section Boundary

variable {compactor : Compactor} {rest : List ChatMessage}

theorem splitKeepStart_lt (target : Nat) (nonempty : 0 < rest.length) :
    compactor.splitKeepStart rest target < rest.length := by
  have below : ∀ i acc keepStart, keepStart < rest.length → i ≤ keepStart →
      splitFrom compactor rest target i acc keepStart < rest.length := by
    intro i
    induction i with
    | zero => exact fun _ _ within _ => within
    | succ i ih =>
      intro acc keepStart within order
      rw [splitFrom]
      split
      · exact within
      · exact ih _ _ (by omega) (Nat.le_refl _)
  unfold Compactor.splitKeepStart
  obtain ⟨last, length⟩ := Nat.exists_eq_succ_of_ne_zero (Nat.ne_of_gt nonempty)
  rw [length, splitFrom]
  rw [← length, if_neg fun impossible => impossible.1 rfl]
  exact below _ _ _ (by omega) (Nat.le_refl _)

theorem pullBack_le (rest : List ChatMessage) (index : Nat) : pullBack rest index ≤ index := by
  induction index with
  | zero => exact Nat.le_refl _
  | succ index ih =>
    rw [pullBack]
    split
    · omega
    · exact Nat.le_refl _

/-- **The boundary of the split** is at the start or before a message without tool results. -/
theorem pullBack_boundary (rest : List ChatMessage) (index : Nat) :
    pullBack rest index = 0 ∨ (rest[pullBack rest index]?).any msgHasToolResult = false := by
  induction index with
  | zero => exact Or.inl rfl
  | succ index ih =>
    rw [pullBack]
    split
    · exact ih
    · rename_i none
      exact Or.inr (Bool.eq_false_iff.mpr none)

/-- **Where the boundary lies**: something is summarised, something is kept, and what is kept does
not begin with a tool result. -/
theorem boundary?_eq_some {pinnedTokens keepStart : Nat}
    (found : compactor.boundary? pinnedTokens rest = some keepStart) :
    0 < keepStart ∧ keepStart < rest.length ∧
      (rest[keepStart]?).any msgHasToolResult = false := by
  unfold Compactor.boundary? at found
  split at found
  · cases found
  dsimp only at found
  split at found
  · cases found
  split at found
  · cases found
  rename_i long positive _
  cases found
  generalize max (compactor.lowWatermarkTokens -
    (pinnedTokens + min summaryReserveTokens (compactor.lowWatermarkTokens / 2))) 1 = target
      at positive ⊢
  have within : compactor.splitKeepStart rest target < rest.length :=
    splitKeepStart_lt target (by omega)
  have back := pullBack_le rest (compactor.splitKeepStart rest target)
  refine ⟨Nat.pos_of_ne_zero positive, by omega, ?_⟩
  exact (pullBack_boundary _ _).resolve_left positive

end Boundary

/-! ### The extension and the store -/

structure CompactionExtension where
  compactor : Compactor
  runId : Uuid

def CompactionExtension.beforeModel (extension : CompactionExtension) (request : ChatRequest) :
    CompactionM (ChatRequest × Flow) := do
  let fitted ← extension.compactor.fit request.messages none
  match fitted with
  | none => pure (request, .continue)
  | some result =>
    match result.summaryWrite with
    | none => pure ({ request with messages := result.messages }, .continue)
    | some (summary, upto) => do
      Program.attempt (I := compactionPorts)
        (CompactionQuery.replaceHead extension.runId summary upto)
        fun (answer : Except AppError Unit) => answer
      Program.perform (I := compactionPorts) (CompactionQuery.emit (.historyReplaced upto))
      pure ({ request with messages := result.messages }, .continue)

/-- **What a run of the hook can do**: leave the conversation to the cheap tiers, fail, or rewrite
the transcript with one summary. -/
inductive HookRun (extension : CompactionExtension) (request : ChatRequest) :
    List CompactionEvent → Except AppError (ChatRequest × Flow) → Prop
  | unplanned (messages : List ChatMessage) :
      extension.compactor.plan? request.messages none = none →
      messages = request.messages ∨
        messages = (extension.compactor.cheapTiers request.messages).1 →
      HookRun extension request [] (.ok ({ request with messages := messages }, .continue))
  | unsummarised (plan : SummaryPlan) (error : AppError) :
      extension.compactor.plan? request.messages none = some plan →
      HookRun extension request
        [⟨.summarize plan.input, (.error error : Except AppError String)⟩] (.error error)
  | unwritten (plan : SummaryPlan) (text : String) (error : AppError) :
      extension.compactor.plan? request.messages none = some plan →
      HookRun extension request
        [⟨.summarize plan.input, (.ok text : Except AppError String)⟩,
          ⟨.replaceHead extension.runId (plan.summary text) plan.upto,
            (.error error : Except AppError Unit)⟩] (.error error)
  | rewritten (plan : SummaryPlan) (text : String) :
      extension.compactor.plan? request.messages none = some plan →
      HookRun extension request
        [⟨.summarize plan.input, (.ok text : Except AppError String)⟩,
          ⟨.replaceHead extension.runId (plan.summary text) plan.upto,
            (.ok () : Except AppError Unit)⟩,
          ⟨.emit (.historyReplaced plan.upto), ()⟩]
        (.ok ({ request with messages := plan.pinned ++ plan.summary text :: plan.keep },
          .continue))

theorem runs_beforeModel {extension : CompactionExtension} {request : ChatRequest}
    {outcome : Except AppError (ChatRequest × Flow)}
    (run : Runs (extension.beforeModel request) trace outcome) :
    HookRun extension request trace outcome := by
  unfold CompactionExtension.beforeModel at run
  rcases runs_bind_iff.mp run with ⟨error, rfl, failed⟩ | ⟨fitted, before, after, rfl, fit, rest⟩
  · generalize last : (Except.error error : Except AppError (Option CompactionResult)) = result
      at failed
    cases runs_fit failed with
    | idle | cheap => cases last
    | failed plan _ planned =>
      cases last
      exact .unsummarised plan error planned
    | summarised => cases last
  generalize last : (Except.ok fitted : Except AppError (Option CompactionResult)) = result at fit
  cases runs_fit fit with
  | idle unplanned =>
    cases last
    obtain ⟨rfl, rfl⟩ := runs_pure_iff.mp rest
    exact .unplanned request.messages unplanned (Or.inl rfl)
  | cheap unplanned =>
    cases last
    cases changed : (extension.compactor.cheapTiers request.messages).2 with
    | true =>
      rw [changed] at rest
      obtain ⟨rfl, rfl⟩ := runs_pure_iff.mp rest
      exact .unplanned _ unplanned (Or.inr rfl)
    | false =>
      rw [changed] at rest
      obtain ⟨rfl, rfl⟩ := runs_pure_iff.mp rest
      exact .unplanned request.messages unplanned (Or.inl rfl)
  | failed => cases last
  | summarised plan text planned =>
    cases last
    rcases runs_attempt_bind_iff.mp rest with
      ⟨answer, error, same, rfl, rfl⟩ | ⟨answer, middle, tail, same, rfl, tailRun⟩
    · cases same
      exact .unwritten plan text error planned
    · cases same
      obtain ⟨answer, tail, rfl, done⟩ := runs_perform_bind_iff.mp tailRun
      obtain ⟨rfl, rfl⟩ := runs_pure_iff.mp done
      exact .rewritten plan text planned

/-- `WorkflowTranscriptStore::replace_head`, on the stored messages. -/
def replaceHead (messages : List ChatMessage) (summary : ChatMessage) (upto : Nat) :
    List ChatMessage :=
  summary :: messages.drop (min upto messages.length)

/-! ### A compactor for samples -/

/-- A compactor for which every message is one token and any amount is too much. -/
def eagerCompactor : Compactor where
  config :=
    { contextWindow := none
      maxOutputTokens := 0
      safetyTokens := 0
      fallbackWindowTokens := 1
      triggerFraction := ⟨fun _ => 0⟩
      lowWatermarkFraction := ⟨fun _ => 0⟩
      tier1Fraction := ⟨fun _ => 0⟩
      keepToolResults := 0
      minFreeTokens := 0
      cooldownGrowthTokens := 0 }
  count := fun _ => 1

def summarizer (text : String) : ∀ query : CompactionQuery, query.Answer
  | .summarize _ => .ok text
  | .replaceHead _ _ _ => .ok ()
  | .emit _ => ()

/-- The pipeline on these messages, with a summarizer that answers `"so far"`. -/
def eagerFit (messages : List ChatMessage) :
    List CompactionEvent × Except AppError (Option CompactionResult) :=
  (eagerCompactor.fit messages none).simulate (fun _ => summarizer "so far") []

end Ziee.Agent
