/-
**Compaction keeps tool calls and their results together.**

Providers reject a request in which a tool result has lost its call or a call its result. A list is
`WellPaired` when each message that requests tools is followed at once by the tool messages with
exactly their results (`ToolRound`), and no other message has a tool block.

* `WellPaired.evictFirst`, `WellPaired.trimTurns` — the cheap tiers keep the pairing: eviction
  changes contents only, trimming drops messages without tool blocks only.
* `fit_wellPaired` — **every list the pipeline returns is well paired**, if the given one is.
-/

import Ziee.Agent.Compaction

namespace Ziee.Agent

open PortProgram Ziee.Providers

structure ToolRound where
  request : ChatMessage
  results : List ChatMessage
  role : request.role ≠ .system
  asks : request.toolUseIds ≠ []
  answersNothing : request.toolResultIds = []
  tools : ∀ result ∈ results,
    result.role ≠ .system ∧ result.toolUseIds = [] ∧ result.toolResultIds ≠ []
  exact : (results.flatMap ChatMessage.toolResultIds).Perm request.toolUseIds

def ToolRound.messages (round : ToolRound) : List ChatMessage := round.request :: round.results

/-- **Each tool round is whole, and no other message has a tool block.** -/
inductive WellPaired : List ChatMessage → Prop
  | nil : WellPaired []
  | plain (message : ChatMessage) {rest : List ChatMessage} : message.toolUseIds = [] →
      message.toolResultIds = [] → WellPaired rest → WellPaired (message :: rest)
  | round (round : ToolRound) {rest : List ChatMessage} : WellPaired rest →
      WellPaired (round.messages ++ rest)

/-- No result without its call and no call without its result. -/
def NoOrphan (messages : List ChatMessage) : Prop :=
  ∀ id, id ∈ messages.flatMap ChatMessage.toolResultIds ↔
    id ∈ messages.flatMap ChatMessage.toolUseIds

section Lists

variable {message : ChatMessage} {messages rest : List ChatMessage}

theorem ToolRound.uses (round : ToolRound) :
    round.messages.flatMap ChatMessage.toolUseIds = round.request.toolUseIds := by
  have none : round.results.flatMap ChatMessage.toolUseIds = [] :=
    List.flatMap_eq_nil_iff.mpr fun result member => (round.tools result member).2.1
  rw [messages, List.flatMap_cons, none, List.append_nil]

theorem ToolRound.answers (round : ToolRound) : round.messages.flatMap ChatMessage.toolResultIds =
      round.results.flatMap ChatMessage.toolResultIds := by
  rw [messages, List.flatMap_cons, round.answersNothing, List.nil_append]

theorem ToolRound.role_ne (round : ToolRound) :
    ∀ message ∈ round.messages, message.role ≠ .system := by
  exact List.forall_mem_cons.mpr ⟨round.role, fun result member => (round.tools result member).1⟩

theorem WellPaired.noOrphan (paired : WellPaired messages) : NoOrphan messages := by
  intro id
  induction paired with
  | nil => exact Iff.rfl
  | plain message uses results _ ih =>
    rw [List.flatMap_cons, List.flatMap_cons, uses, results, List.nil_append, List.nil_append]
    exact ih
  | round round _ ih =>
    rw [List.flatMap_append, List.flatMap_append, List.mem_append, List.mem_append, ih,
      round.uses, round.answers, round.exact.mem_iff]

theorem WellPaired.append (plain : ∀ message ∈ messages, message.toolUseIds = [] ∧
    message.toolResultIds = []) (paired : WellPaired rest) : WellPaired (messages ++ rest) := by
  induction messages with
  | nil => exact paired
  | cons message messages ih =>
    obtain ⟨here, later⟩ := List.forall_mem_cons.mp plain
    exact .plain message here.1 here.2 (ih later)

theorem WellPaired.system_plain (paired : WellPaired messages) (member : message ∈ messages)
    (role : message.role = .system) : message.toolUseIds = [] ∧ message.toolResultIds = [] := by
  induction paired with
  | nil => cases member
  | plain other uses results _ ih =>
    rcases List.mem_cons.mp member with rfl | member
    · exact ⟨uses, results⟩
    · exact ih member
  | round round _ ih =>
    rcases List.mem_append.mp member with member | member
    · exact absurd role (round.role_ne message member)
    · exact ih member

theorem WellPaired.filter_system (paired : WellPaired messages) :
    WellPaired (messages.filter fun m => m.role ≠ .system) := by
  induction paired with
  | nil => exact .nil
  | plain message uses results _ ih =>
    rw [List.filter_cons]
    split
    · exact .plain message uses results ih
    · exact ih
  | round round _ ih =>
    have whole : round.messages.filter (fun m => m.role ≠ .system) = round.messages :=
      List.filter_eq_self.mpr fun message member => decide_eq_true (round.role_ne message member)
    rw [List.filter_append, whole]
    exact .round round ih

theorem msgHasToolResult_iff : msgHasToolResult message = true ↔ message.toolResultIds ≠ [] :=
  ChatMessage.any_isToolResult_iff message

theorem msgHasToolBlock_of_uses (uses : message.toolUseIds ≠ []) :
    msgHasToolBlock message = true := by
  obtain ⟨block, member, isUse⟩ := List.any_eq_true.mp ((message.any_isToolUse_iff).mpr uses)
  exact List.any_eq_true.mpr ⟨block, member, by rw [isUse, Bool.true_or]⟩

theorem msgHasToolBlock_of_results (results : message.toolResultIds ≠ []) :
    msgHasToolBlock message = true := by
  obtain ⟨block, member, isResult⟩ :=
    List.any_eq_true.mp ((message.any_isToolResult_iff).mpr results)
  exact List.any_eq_true.mpr ⟨block, member, by rw [isResult, Bool.or_true]⟩

theorem ToolRound.hasToolBlock (round : ToolRound) :
    ∀ message ∈ round.messages, msgHasToolBlock message = true :=
  List.forall_mem_cons.mpr ⟨msgHasToolBlock_of_uses round.asks, fun result member =>
    msgHasToolBlock_of_results (round.tools result member).2.2⟩

end Lists

/-! ### Eviction -/

/-- What the pairing sees of a message. -/
def toolKey (message : ChatMessage) : Role × List String × List String :=
  (message.role, message.toolUseIds, message.toolResultIds)

theorem toolKey_evictMessage (message : ChatMessage) :
    toolKey (evictMessage message) = toolKey message := by
  have use : ContentBlock.toolUseId? ∘ evictBlock = ContentBlock.toolUseId? := by
    funext block
    cases block with
    | toolResult id name content isError =>
      simp only [Function.comp_apply, evictBlock]
      split <;> rfl
    | _ => rfl
  have result : ContentBlock.toolResultId? ∘ evictBlock = ContentBlock.toolResultId? := by
    funext block
    cases block with
    | toolResult id name content isError =>
      simp only [Function.comp_apply, evictBlock]
      split <;> rfl
    | _ => rfl
  unfold toolKey ChatMessage.toolUseIds ChatMessage.toolResultIds evictMessage
  rw [List.filterMap_map, List.filterMap_map, use, result]

theorem toolKey_evictFirst (messages : List ChatMessage) :
    ∀ n, (evictFirst n messages).map toolKey = messages.map toolKey := by
  induction messages with
  | nil => exact fun n => by cases n <;> rfl
  | cons message rest ih =>
    intro n
    cases n with
    | zero => rfl
    | succ n =>
      rw [evictFirst]
      split
      · rw [List.map_cons, List.map_cons, toolKey_evictMessage, ih]
      · rw [List.map_cons, List.map_cons, ih]

theorem ToolRound.exists_of_toolKeys (round : ToolRound) {changed : List ChatMessage}
    (same : changed.map toolKey = round.messages.map toolKey) :
    ∃ round' : ToolRound, round'.messages = changed := by
  cases changed with
  | nil => cases same
  | cons request results =>
    obtain ⟨first, others⟩ := List.cons.inj same
    have role : request.role = round.request.role := congrArg (·.1) first
    have uses : request.toolUseIds = round.request.toolUseIds := congrArg (·.2.1) first
    have none : request.toolResultIds = round.request.toolResultIds := congrArg (·.2.2) first
    have ids : results.flatMap ChatMessage.toolResultIds =
        round.results.flatMap ChatMessage.toolResultIds := by
      have flat := congrArg (List.flatMap (fun key : Role × List String × List String => key.2.2))
        others
      rwa [List.flatMap_map, List.flatMap_map] at flat
    refine ⟨⟨request, results, role ▸ round.role, uses ▸ round.asks,
      none.trans round.answersNothing, fun result member =>
        ?_, by rw [ids, uses]; exact round.exact⟩,
      rfl⟩
    obtain ⟨before, among, key⟩ := List.mem_map.mp (others ▸ List.mem_map_of_mem member)
    obtain ⟨tool, uses, results⟩ := round.tools before among
    exact ⟨fun system => tool ((congrArg (·.1) key).trans system),
      (congrArg (·.2.1) key).symm.trans uses,
      fun empty => results ((congrArg (·.2.2) key).trans empty)⟩

/-- **The pairing depends on roles and tool ids only.** -/
theorem WellPaired.of_toolKeys {messages : List ChatMessage} (paired : WellPaired messages) :
    ∀ {changed : List ChatMessage}, changed.map toolKey = messages.map toolKey →
      WellPaired changed := by
  induction paired with
  | nil =>
    intro changed same
    rw [List.map_eq_nil_iff.mp same]
    exact .nil
  | plain message uses results _ ih =>
    intro changed same
    cases changed with
    | nil => cases same
    | cons other changed =>
      obtain ⟨first, others⟩ := List.cons.inj same
      exact .plain other ((congrArg (·.2.1) first).trans uses)
        ((congrArg (·.2.2) first).trans results) (ih others)
  | round round _ ih =>
    intro changed same
    rw [List.map_append] at same
    obtain ⟨first, second, rfl, here, later⟩ := List.map_eq_append_iff.mp same
    obtain ⟨round', rfl⟩ := round.exists_of_toolKeys here
    exact .round round' (ih later)

theorem WellPaired.evictFirst {messages : List ChatMessage} (paired : WellPaired messages)
    (n : Nat) : WellPaired (evictFirst n messages) :=
  paired.of_toolKeys (toolKey_evictFirst messages n)

/-! ### Trimming -/

theorem trimTurns_append (tools : List ChatMessage) {rest : List ChatMessage} :
    ∀ kept, (∀ message ∈ tools, msgHasToolBlock message = true) →
      ∃ last, (trimTurns kept (tools ++ rest)).1 = tools ++ (trimTurns last rest).1 := by
  induction tools with
  | nil => exact fun kept _ => ⟨kept, rfl⟩
  | cons message tools ih =>
    intro kept all
    obtain ⟨here, later⟩ := List.forall_mem_cons.mp all
    obtain ⟨last, same⟩ := ih (some message) later
    refine ⟨last, ?_⟩
    rw [List.cons_append, trimTurns, here]
    simp only [Bool.not_true, Bool.and_false, Bool.false_and, Bool.false_eq_true, if_false]
    rw [same]
    rfl

/-- **Trimming keeps the pairing**: it drops messages without tool blocks only. -/
theorem WellPaired.trimTurns {messages : List ChatMessage} (paired : WellPaired messages) :
    ∀ kept, WellPaired (trimTurns kept messages).1 := by
  induction paired with
  | nil => exact fun _ => .nil
  | plain message uses results _ ih =>
    intro kept
    rw [Ziee.Agent.trimTurns]
    split
    · exact ih kept
    · exact .plain message uses results (ih _)
  | round round _ ih =>
    intro kept
    obtain ⟨last, same⟩ := trimTurns_append round.messages kept round.hasToolBlock
    rw [same]
    exact .round round (ih last)

theorem WellPaired.cheapTiers {messages : List ChatMessage} (paired : WellPaired messages)
    (compactor : Compactor) : WellPaired (compactor.cheapTiers messages).1 := by
  have evicted := paired.evictFirst
    ((messages.filter isEvictable).length - compactor.config.keepToolResults)
  show WellPaired (turnTrim _).1
  unfold turnTrim
  split
  · exact evicted
  · exact evicted.trimTurns none

/-! ### The split -/

/-- **Cutting before a message without tool results** keeps the pairing of the rest. -/
theorem WellPaired.drop {messages : List ChatMessage} (paired : WellPaired messages) :
    ∀ {index}, index = 0 ∨ (messages[index]?).any msgHasToolResult = false →
      WellPaired (messages.drop index) := by
  induction paired with
  | nil =>
    intro index _
    rw [List.drop_nil]
    exact .nil
  | plain message uses results paired ih =>
    intro index boundary
    cases index with
    | zero => exact .plain message uses results paired
    | succ index =>
      rcases boundary with impossible | boundary
      · cases impossible
      · exact ih (Or.inr boundary)
  | @round round rest paired ih =>
    intro index boundary
    rcases boundary with rfl | boundary
    · exact .round round paired
    by_cases inside : index < round.messages.length
    · cases index with
      | zero => exact .round round paired
      | succ index =>
        have bound : index < round.results.length := by
          simpa [ToolRound.messages] using inside
        have found : (round.messages ++ rest)[index + 1]? = some round.results[index] := by
          rw [List.getElem?_append_left inside]
          exact List.getElem?_eq_getElem bound
        have result := msgHasToolResult_iff.mpr (round.tools _ (List.getElem_mem bound)).2.2
        rw [found, Option.any_some, result] at boundary
        cases boundary
    · rw [Nat.not_lt] at inside
      rw [List.getElem?_append_right inside] at boundary
      rw [List.drop_append, List.drop_eq_nil_of_le inside, List.nil_append]
      exact ih (Or.inr boundary)

/-! ### The pipeline -/

theorem WellPaired.summaryPlan {messages : List ChatMessage} (paired : WellPaired messages)
    {compactor : Compactor} {plan : SummaryPlan}
    (planned : compactor.summaryPlan messages = some plan) (text : String) :
    WellPaired (plan.pinned ++ plan.summary text :: plan.keep) := by
  have kept : WellPaired plan.keep ∧ plan.pinned =
      messages.filter fun m => m.role = .system && !isPriorSummary m := by
    obtain ⟨keepStart, found, rfl⟩ := Option.map_eq_some_iff.mp planned
    exact ⟨paired.filter_system.drop (Or.inr (boundary?_eq_some found).2.2), rfl⟩
  refine .append (fun message member => ?_) (.plain _ rfl rfl kept.1)
  rw [kept.2] at member
  obtain ⟨among, pinned⟩ := List.mem_filter.mp member
  rw [Bool.and_eq_true, decide_eq_true_eq] at pinned
  exact paired.system_plain among pinned.1

/-- **Every list the pipeline returns is well paired** and so has no orphan, whatever the
configuration, the token counter and the summarizer. -/
theorem fit_wellPaired {compactor : Compactor} {messages : List ChatMessage} {mark : Option Nat}
    {trace : List CompactionEvent} {result : CompactionResult} (paired : WellPaired messages)
    (run : Runs (compactor.fit messages mark) trace (.ok (some result))) :
    WellPaired result.messages ∧ NoOrphan result.messages := by
  have fitted : WellPaired result.messages := by
    obtain rfl | ⟨plan, text, planned, -, rfl⟩ := fit_some_cases run
    · exact paired.cheapTiers compactor
    · unfold Compactor.plan? at planned
      split at planned
      · exact paired.summaryPlan planned text
      · cases planned
  exact ⟨fitted, fitted.noOrphan⟩

/-! ### A torn call -/

def askWeather (role : Role) : ChatMessage := ⟨role, [.toolUse "call-1" "weather" .null]⟩

def sunny : ChatMessage := ⟨.tool, [.toolResult "call-1" (some "weather") [.text "sunny"] none]⟩

def weatherRound : ToolRound where
  request := askWeather .assistant
  results := [sunny]
  role := nofun
  asks := nofun
  answersNothing := rfl
  tools := List.forall_mem_singleton.mpr ⟨nofun, rfl, nofun⟩
  exact := .refl _

/-- The round before the summary, one message after it: the round is summarised whole. -/
theorem weather_wellPaired :
    WellPaired [.ofSystem "[Summary of 2 earlier messages]\nso far", .ofUser "thanks"] := by
  have paired : WellPaired (weatherRound.messages ++ [.ofUser "thanks"]) :=
    .round weatherRound (.plain _ rfl rfl .nil)
  have run : Runs (eagerCompactor.fit (weatherRound.messages ++ [.ofUser "thanks"]) none)
      (eagerFit (weatherRound.messages ++ [.ofUser "thanks"])).1
      (.ok (some ⟨[.ofSystem "[Summary of 2 earlier messages]\nso far", .ofUser "thanks"], _⟩)) :=
    runs_simulate _ _ []
  exact (fit_wellPaired paired run).1

/-- **A call requested by a system message is torn**: it is followed by its result, but the
message is pinned while the result is summarised away. -/
theorem system_call_torn : ∃ trace result,
      Runs (eagerCompactor.fit [askWeather .system, sunny, .ofUser "a", .ofUser "b"] none) trace
        (.ok (some result)) ∧
      sunny.role = .tool ∧ sunny.toolResultIds = (askWeather .system).toolUseIds ∧
      ¬ NoOrphan result.messages := by
  refine ⟨(eagerFit [askWeather .system, sunny, .ofUser "a", .ofUser "b"]).1,
    ⟨[askWeather .system, .ofSystem "[Summary of 2 earlier messages]\nso far", .ofUser "b"], _⟩,
    runs_simulate _ _ [], rfl, rfl, fun whole => ?_⟩
  have answered := (whole "call-1").mpr (by decide)
  exact absurd answered (by decide)

end Ziee.Agent
