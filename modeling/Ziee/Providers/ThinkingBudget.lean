/-
**The thinking budget on the Anthropic wire** (`services/streaming.rs`, `thinking_config_for`;
`providers/anthropic.rs`, `build_request_body`).

Anthropic takes a thinking budget of at least 1024 tokens and strictly below the request's
`max_tokens`. The budget passes three places that each have a floor or a default of their own: the
chat service clamps its 4096 to half of the completion limit (`clampThinkingBudget`), the adapter
clamps what it is given between 1024 and one below the limit (`enabledThinkingBudget`), and the body
states 1024 for a limit nobody gave (`buildRequestBody`).

* `turnRequest_admissible`: a chat turn always states a limit, so its requests are admissible;
* `buildRequestBody_admissible_iff`: the body is admissible exactly when the request states a limit
  or asks for no budget. Without a limit the adapter clamps against nothing while the body says
  1024, and every budget it can send is too large.
-/

import Ziee.Providers.Chat

namespace Ziee.Providers

def i32Max : Int := 2147483647

def i32Min : Int := -2147483648

/-- `i32::try_from(value).unwrap_or(i32::MAX)` of a `u32`. -/
def saturatedI32 (value : Nat) : Int :=
  if (value : Int) ≤ i32Max then value else i32Max

/-- `saturating_sub(1)` on an `i32`. -/
def oneLess (value : Int) : Int := max (value - 1) i32Min

inductive ThinkingMode
  | adaptive
  | enabled
  | disabled
  deriving DecidableEq, Repr

inductive ThinkingEffort
  | minimal
  | low
  | medium
  | high
  | xHigh
  | max
  | dynamic
  deriving DecidableEq, Repr

structure ThinkingConfig where
  mode : ThinkingMode
  budgetTokens : Option Int
  effort : Option ThinkingEffort
  includeThinking : Bool
  deriving DecidableEq, Repr

def ThinkingConfig.withBudget (budgetTokens : Int) : ThinkingConfig :=
  { mode := .enabled, budgetTokens := some budgetTokens, effort := none, includeThinking := true }

/-- The part of a chat request that bounds its reply. -/
structure GenerationRequest where
  model : String
  maxTokens : Option Nat
  thinking : Option ThinkingConfig
  deriving DecidableEq, Repr

/-! ### The chat service -/

def thinkingBudgetCompletionDivisor : Int := 2

def clampThinkingBudget (requested : Int) (completionBudget : Option Nat) : Int :=
  match completionBudget with
  | none => requested
  | some budget =>
    let budget := saturatedI32 budget
    let cap := max (min (budget.tdiv thinkingBudgetCompletionDivisor) (oneLess budget)) 0
    min requested cap

def defaultThinkingBudgetTokens : Int := 4096

/-- `thinking_config_for`, at the thinking style the model's row, the catalog and the model family
resolved; none for a model that does not think. -/
def thinkingConfigFor (style : Option String) (completionBudget : Option Nat) :
    Option ThinkingConfig :=
  style.map fun style =>
    if style = "budget" then
      { mode := .enabled
        budgetTokens := some (clampThinkingBudget defaultThinkingBudgetTokens completionBudget)
        effort := some .high
        includeThinking := true }
    else
      { mode := .adaptive
        budgetTokens := none
        effort := some .high
        includeThinking := true }

/-- The completion limit `apply_model_params` writes: a model parameter that is not positive gives
way to 8192. -/
def modelMaxTokens (maxTokens : Option Int) : Option Nat :=
  (maxTokens.bind fun value => if 0 < value then some value.toNat else none).or (some 8192)

def turnRequest (model : String) (maxTokens : Option Int) (style : Option String) :
    GenerationRequest :=
  { model := model
    maxTokens := modelMaxTokens maxTokens
    thinking := thinkingConfigFor style (modelMaxTokens maxTokens) }

/-! ### The adapter -/

/-- Anthropic's documented minimum for `thinking.budget_tokens`. -/
def minBudgetTokens : Int := 1024

def defaultBudgetTokens : Int := 10000

def enabledThinkingBudget (requested : Option Int) (maxTokens : Option Nat) : Option Int :=
  let requested := requested.getD defaultBudgetTokens
  match maxTokens with
  | none => some (max requested minBudgetTokens)
  | some limit =>
    let cap := oneLess (saturatedI32 limit)
    if cap < minBudgetTokens then none
    -- `requested.clamp(MIN_BUDGET_TOKENS, cap)`
    else some (if requested < minBudgetTokens then minBudgetTokens
      else if cap < requested then cap
      else requested)

/-- The body's `thinking` member. -/
inductive WireThinking
  | adaptive (display : String)
  | enabled (budgetTokens : Int)
  deriving DecidableEq, Repr

/-- The members of the request body that bound the reply; `outputEffort` is
`output_config.effort`. -/
structure WireBody where
  model : String
  maxTokens : Nat
  stream : Bool
  thinking : Option WireThinking
  outputEffort : Option String
  deriving DecidableEq, Repr

def effortStr : Option ThinkingEffort → Option String
  | none => none
  | some .minimal => some "low"
  | some .low => some "low"
  | some .medium => some "medium"
  | some .high => some "high"
  | some .xHigh => some "xhigh"
  | some .max => some "max"
  | some .dynamic => none

def buildRequestBody (request : GenerationRequest) (stream : Bool) : WireBody :=
  let body : WireBody :=
    { model := request.model
      maxTokens := request.maxTokens.getD 1024
      stream := stream
      thinking := none
      outputEffort := none }
  match request.thinking with
  | none => body
  | some config =>
    match config.mode with
    | .disabled => body
    | .adaptive =>
      { body with
        thinking := some (.adaptive (if config.includeThinking then "summarized" else "omitted"))
        outputEffort := effortStr config.effort }
    | .enabled =>
      { body with
        thinking := (enabledThinkingBudget config.budgetTokens request.maxTokens).map .enabled }

/-! ### What each clamp gives -/

theorem saturatedI32_le (value : Nat) : saturatedI32 value ≤ value := by
  unfold saturatedI32
  split <;> omega

theorem saturatedI32_nonneg (value : Nat) : 0 ≤ saturatedI32 value := by
  unfold saturatedI32 i32Max
  split <;> omega

theorem oneLess_saturatedI32 (value : Nat) :
    oneLess (saturatedI32 value) = saturatedI32 value - 1 := by
  have nonneg := saturatedI32_nonneg value
  unfold oneLess i32Min
  omega

/-- **Against a stated limit the adapter's budget is admissible.** -/
theorem enabledThinkingBudget_within {requested : Option Int} {limit : Nat} {budget : Int}
    (sent : enabledThinkingBudget requested (some limit) = some budget) :
    1024 ≤ budget ∧ budget < limit := by
  have below := saturatedI32_le limit
  simp only [enabledThinkingBudget, oneLess_saturatedI32, minBudgetTokens] at sent
  split at sent
  · exact absurd sent (by simp)
  · obtain rfl := Option.some.inj sent
    split_ifs <;> omega

theorem enabledThinkingBudget_unlimited (requested : Option Int) :
    ∃ budget, enabledThinkingBudget requested none = some budget ∧ 1024 ≤ budget :=
  ⟨max (requested.getD defaultBudgetTokens) minBudgetTokens, rfl, Int.le_max_right _ _⟩

/-! ### The body -/

/-- Anthropic's rule: a thinking budget is at least 1024 and below the body's own `max_tokens`. -/
def WireBody.Admissible (body : WireBody) : Prop :=
  ∀ budget, body.thinking = some (.enabled budget) → 1024 ≤ budget ∧ budget < body.maxTokens

def GenerationRequest.AsksBudget (request : GenerationRequest) : Prop :=
  request.thinking.map ThinkingConfig.mode = some .enabled

theorem buildRequestBody_budget_iff (request : GenerationRequest) (stream : Bool) (budget : Int) :
    (buildRequestBody request stream).thinking = some (.enabled budget) ↔
      ∃ config, request.thinking = some config ∧ config.mode = .enabled ∧
        enabledThinkingBudget config.budgetTokens request.maxTokens = some budget := by
  rcases request with ⟨model, maxTokens, _ | ⟨mode, budgetTokens, effort, includeThinking⟩⟩
  · simp [buildRequestBody]
  · cases mode <;> simp [buildRequestBody]

theorem buildRequestBody_maxTokens (request : GenerationRequest) (stream : Bool) :
    (buildRequestBody request stream).maxTokens = request.maxTokens.getD 1024 := by
  rcases request with ⟨model, maxTokens, _ | ⟨mode, budgetTokens, effort, includeThinking⟩⟩
  · rfl
  · cases mode <;> rfl

theorem buildRequestBody_limited {request : GenerationRequest} {limit : Nat}
    (stated : request.maxTokens = some limit) (stream : Bool) :
    (buildRequestBody request stream).Admissible := by
  intro budget sent
  obtain ⟨config, -, -, computed⟩ := (buildRequestBody_budget_iff request stream budget).mp sent
  rw [stated] at computed
  rw [buildRequestBody_maxTokens, stated]
  exact enabledThinkingBudget_within computed

/-- **A chat turn's body is admissible**: the model's parameters always state a limit. -/
theorem turnRequest_admissible (model : String) (maxTokens : Option Int) (style : Option String)
    (stream : Bool) : (buildRequestBody (turnRequest model maxTokens style) stream).Admissible := by
  have stated : ∃ limit, modelMaxTokens maxTokens = some limit := by
    unfold modelMaxTokens
    cases (maxTokens.bind fun value => if 0 < value then some value.toNat else none) with
    | none => exact ⟨8192, rfl⟩
    | some limit => exact ⟨limit, rfl⟩
  obtain ⟨limit, stated⟩ := stated
  exact buildRequestBody_limited stated stream

/-- **The body's budget is admissible exactly when the request states a completion limit or asks
for no budget.** A limit nobody stated is sent as 1024, and no budget of at least 1024 is below. -/
theorem buildRequestBody_admissible_iff (request : GenerationRequest) (stream : Bool) :
    (buildRequestBody request stream).Admissible ↔
      request.maxTokens ≠ none ∨ ¬ request.AsksBudget := by
  constructor
  · intro admissible
    by_contra neither
    rw [not_or, not_not, not_not] at neither
    obtain ⟨unstated, asks⟩ := neither
    obtain ⟨config, thinking, mode⟩ := Option.map_eq_some_iff.mp asks
    obtain ⟨budget, computed, floor⟩ := enabledThinkingBudget_unlimited config.budgetTokens
    have sent := (buildRequestBody_budget_iff request stream budget).mpr
      ⟨config, thinking, mode, by rw [unstated, computed]⟩
    have below := (admissible budget sent).2
    rw [buildRequestBody_maxTokens, unstated] at below
    simp only [Option.getD_none] at below
    omega
  · rintro (stated | quiet)
    · obtain ⟨limit, stated⟩ := Option.ne_none_iff_exists'.mp stated
      exact buildRequestBody_limited stated stream
    · intro budget sent
      obtain ⟨config, thinking, mode, -⟩ :=
        (buildRequestBody_budget_iff request stream budget).mp sent
      exact absurd (by rw [GenerationRequest.AsksBudget, thinking, Option.map_some, mode]) quiet

/-- A caller's 2048 without a completion limit goes out beside a `max_tokens` of 1024. -/
theorem unlimited_budget_inadmissible :
    ¬ (buildRequestBody
        { model := "claude-3-5-sonnet"
          maxTokens := none
          thinking := some (ThinkingConfig.withBudget 2048) }
        false).Admissible := by
  intro admissible
  have below := (admissible 2048 (by decide)).2
  revert below
  decide

end Ziee.Providers
