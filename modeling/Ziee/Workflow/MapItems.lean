/-
**The items of a map step** (`dispatch.rs`, `LlmMapDispatcher`).

The step renders one prompt for each item, spawns a task for each, and awaits the tasks in the order
of the items; a semaphore bounds how many call the model at once. A task calls the model until a
reply parses, the attempts are used up or the run is cancelled.

* `attempts`, `itemTask` — a task, with its retries.
* `Tally.settle`, `drain`, `dispatch` — the step's own bookkeeping.
-/

import Mathlib.Algebra.Order.Ring.Nat
import Ziee.Library.Threads
import Ziee.Workflow.StepTallies
import Ziee.Workflow.TypedRefs

namespace Ziee.Workflow.LlmMap

open PortProgram Threads
open Ziee.Providers
open Ziee.Workflow.Typing (OutputFormat)
open Ziee.Workflow.Tallies (perStepTokenCap)

inductive OnError
  | fail
  | skip
  | retry
  deriving DecidableEq, Repr

/-- The configuration of the step, with what the template engine and the JSON parser make of it in
the run's context. -/
structure MapStep where
  stepId : String
  /-- `render` of `for_each`. -/
  forEach : Except String String
  /-- `load_raw_prompt`. -/
  rawPrompt : Except String String
  /-- `render_with_bindings` of the raw prompt, with the item bound to `item_var`. -/
  itemPrompt : String → Json → Except String String
  /-- `serde_json::from_str`. -/
  fromStr : String → Except String Json
  outputFormat : OutputFormat
  maxParallel : Nat
  onError : OnError
  maxRetries : Nat
  modelName : String
  modelMaxTokens : Nat

def maxParallelHardCap : Nat := 20

/-- The permits of the semaphore. -/
def MapStep.parallel (step : MapStep) : Nat := min step.maxParallel maxParallelHardCap

def otherTypeName : Json → String
  | .null => "null"
  | .bool _ => "bool"
  | .number _ => "number"
  | .string _ => "string"
  | .array _ => "array"
  | .object _ => "object"

/-- What `for_each` resolves to. -/
def MapStep.resolveItems (step : MapStep) : Except String (List Json) :=
  match step.forEach with
  | .error error => .error ("for_each render: " ++ error)
  | .ok rendered =>
    match step.fromStr rendered with
    | .ok (.array items) => .ok items
    | .ok other => .error ("llm_map for_each must resolve to array; got " ++ otherTypeName other)
    | .error error => .error ("llm_map for_each parse: " ++ error)

/-- The items of the step; there are none where `for_each` does not resolve. -/
def MapStep.items (step : MapStep) : List Json := step.resolveItems.toOption.getD []

/-- The loop over the items that renders their prompts; `idx` is the first item's index. -/
def MapStep.renderPrompts (step : MapStep) (raw : String) : Nat → List Json →
    Except String (List String)
  | _, [] => .ok []
  | idx, item :: items =>
    match step.itemPrompt raw item with
    | .error error => .error ("item " ++ toString idx ++ " prompt render: " ++ error)
    | .ok prompt => (step.renderPrompts raw (idx + 1) items).map (prompt :: ·)

def MapStep.perItemPrompts (step : MapStep) : Except String (List String) :=
  match step.resolveItems with
  | .error error => .error error
  | .ok items =>
    match step.rawPrompt with
    | .error error => .error ("prompt load: " ++ error)
    | .ok raw => step.renderPrompts raw 0 items

/-! ### The ports -/

structure ItemProgress where
  completed : Nat
  total : Nat
  failed : Nat
  skipped : Nat
  tokensSoFar : Nat
  deriving DecidableEq, Repr

structure ChatRequest where
  model : String
  prompt : String
  maxTokens : Nat

structure StreamChunk where
  textDeltas : List String
  usage : Option Nat

inductive StreamEnd
  | finished
  | failed (error : String)
  | cancelled

/-- What a task returns: the index of its item, the value or the error, and the tokens used. -/
structure ItemResult where
  idx : Nat
  outcome : Except String Json
  tokens : Nat

inductive MapQuery
  /-- The progress is put into the context and emitted. -/
  | publish (progress : ItemProgress)
  | spawn (idx : Nat) (prompt : String)
  | acquire
  | isCancelled
  /-- The stream is opened and read to its end. -/
  | chatStream (request : ChatRequest)
  | sleep (millis : Nat)
  /-- The permit is dropped. -/
  | release
  /-- The task ends: its join handle has the result. -/
  | settle (result : ItemResult)
  | join (handle : Nat)
  | writeStepOutput (value : Json)
  /-- The output is registered and the tokens are added to the run's. -/
  | record (tokens : Nat)
  | cancel

abbrev MapQuery.Answer : MapQuery → Type
  | .acquire => Except Unit Unit
  | .isCancelled => Bool
  | .chatStream _ => Except String (List StreamChunk × StreamEnd)
  | .join _ => Except String ItemResult
  | .writeStepOutput _ => Except String Unit
  | _ => Unit

abbrev mapPorts : Interface := ⟨MapQuery, MapQuery.Answer⟩

abbrev MapM (α : Type) : Type := Program mapPorts Empty α

abbrev MapEvent : Type := Event mapPorts

def ask (query : MapQuery) : MapM query.Answer := Program.perform (I := mapPorts) query

/-! ### The task of an item -/

inductive LlmCallOutcome
  | ok (text : String) (tokens : Nat)
  | failed (error : String)
  | cancelled

/-- The reading loop of `run_llm_call`: the last usage counts. -/
def readStream : Except String (List StreamChunk × StreamEnd) → LlmCallOutcome
  | .error error => .failed ("provider.chat_stream: " ++ error)
  | .ok (chunks, .finished) =>
    .ok (String.join (chunks.flatMap (·.textDeltas)))
      (chunks.foldl (fun tokens chunk => chunk.usage.getD tokens) 0)
  | .ok (_, .failed error) => .failed ("stream chunk: " ++ error)
  | .ok (_, .cancelled) => .cancelled

def runLlmCall (request : ChatRequest) : MapM LlmCallOutcome := do
  let answer ← ask (.chatStream request)
  pure (readStream answer)

def MapStep.parseReply (step : MapStep) (text : String) : Except String Json :=
  match step.outputFormat with
  | .text => .ok (.string text)
  | .json => (step.fromStr text).mapError ("JSON parse: " ++ ·)

def MapStep.afterCall (step : MapStep) (idx totalTokens : Nat) :
    LlmCallOutcome → Except (String × Nat) ItemResult
  | .ok text tokens =>
    match step.parseReply text with
    | .ok parsed => .ok ⟨idx, .ok parsed, totalTokens + tokens⟩
    | .error lastErr => .error (lastErr, totalTokens + tokens)
  | .cancelled => .ok ⟨idx, .error "cancelled", totalTokens⟩
  | .failed lastErr => .error (lastErr, totalTokens)

def retryBackoff (attempt : Nat) : Nat := min (250 * 2 ^ min attempt 6) 8000

def u32Max : Nat := 0xFFFFFFFF

def MapStep.maxAttempts (step : MapStep) : Nat :=
  if step.onError = .retry then max (min (step.maxRetries + 1) u32Max) 1 else 1

def attempts (step : MapStep) (idx : Nat) (prompt : String) : Nat → Nat → Nat → MapM ItemResult
  | 0, _, totalTokens => do
    let outcome ← runLlmCall ⟨step.modelName, prompt, step.modelMaxTokens⟩
    match step.afterCall idx totalTokens outcome with
    | .ok result => pure result
    | .error (lastErr, tokens) => pure ⟨idx, .error lastErr, tokens⟩
  | left + 1, attempt, totalTokens => do
    let outcome ← runLlmCall ⟨step.modelName, prompt, step.modelMaxTokens⟩
    match step.afterCall idx totalTokens outcome with
    | .ok result => pure result
    | .error (_, tokens) => do
      ask (.sleep (retryBackoff attempt))
      attempts step idx prompt left (attempt + 1) tokens

inductive StepResult
  | completed (output : Json) (tokensUsed : Nat)
  | failed (error : String) (tokensUsed : Nat)
  | cancelled

def runItem (step : MapStep) (idx : Nat) (prompt : String) : MapM ItemResult := do
  let cancelled ← ask .isCancelled
  if cancelled then pure ⟨idx, .error "cancelled", 0⟩
  else attempts step idx prompt (step.maxAttempts - 1) 1 0

/-- **The task of an item**; only the step itself has a result to report. -/
def itemTask (step : MapStep) (idx : Nat) (prompt : String) : MapM (Option StepResult) := do
  match ← ask .acquire with
  | .error _ => ask (.settle ⟨idx, .error "semaphore closed", 0⟩)
  | .ok _ => do
    let result ← runItem step idx prompt
    ask .release
    ask (.settle result)
  pure none

/-! ### The step's own bookkeeping -/

/-- The variables of the loop that awaits the tasks. -/
structure Tally where
  results : List (Option Json)
  failed : Nat
  skipped : Nat
  completed : Nat
  totalTokens : Nat
  anyFailedFatal : Option String

def Tally.start (count : Nat) : Tally := ⟨List.replicate count none, 0, 0, 0, 0, none⟩

def Tally.itemProgress (tally : Tally) (total : Nat) : ItemProgress :=
  ⟨tally.completed, total, tally.failed, tally.skipped, tally.totalTokens⟩

def Tally.charge (tally : Tally) (tokens : Nat) : Tally :=
  { tally with totalTokens := tally.totalTokens + tokens }

/-- `classify_item_error`: whether the error ends the step, and what stands for the item. -/
def classifyItemError : OnError → Bool × Option Json
  | .fail | .retry => (true, none)
  | .skip => (false, some .null)

def Tally.settle (tally : Tally) (onError : OnError) (result : ItemResult) : Tally :=
  match result.outcome with
  | .ok value =>
    { tally with
      results := tally.results.set result.idx (some value)
      completed := tally.completed + 1 }
  | .error error =>
    if (classifyItemError onError).1 then
      { tally with
        failed := tally.failed + 1
        anyFailedFatal :=
          tally.anyFailedFatal.or (some ("item " ++ toString result.idx ++ ": " ++ error)) }
    else
      { tally with
        skipped := tally.skipped + 1
        results := tally.results.set result.idx (classifyItemError onError).2 }

/-- After the last task: the first error that ends the step, or the output in the order of the
items. -/
def conclude (tally : Tally) : MapM StepResult :=
  match tally.anyFailedFatal with
  | some error => pure (.failed error tally.totalTokens)
  | none => do
    let value := Json.array (tally.results.map fun result => result.getD .null)
    match ← ask (.writeStepOutput value) with
    | .error error => pure (.failed ("persist step output: " ++ error) tally.totalTokens)
    | .ok _ => do
      ask (.record tally.totalTokens)
      pure (.completed value tally.totalTokens)

/-- The loop that awaits the tasks, in the order they were spawned. -/
def drain (step : MapStep) (total : Nat) : List Nat → Tally → MapM StepResult
  | [], tally => conclude tally
  | handle :: handles, tally => do
    match ← ask (.join handle) with
    | .error error => pure (.failed ("llm_map task join: " ++ error) tally.totalTokens)
    | .ok result => do
      let cancelled ← ask .isCancelled
      if cancelled then do
        ask (.publish (tally.itemProgress total))
        pure .cancelled
      else if perStepTokenCap < (tally.charge result.tokens).totalTokens then
        pure (.failed ("per-step token cap " ++ toString perStepTokenCap ++ " exceeded (" ++
          toString (tally.charge result.tokens).totalTokens ++ " used across llm_map items)")
          (tally.charge result.tokens).totalTokens)
      else do
        let tally := (tally.charge result.tokens).settle step.onError result
        ask (.publish (tally.itemProgress total))
        drain step total handles tally

def spawnItems : List (String × Nat) → MapM Unit
  | [] => pure ()
  | (prompt, idx) :: rest => do
    ask (.spawn idx prompt)
    spawnItems rest

def dispatch (step : MapStep) : MapM StepResult :=
  match step.perItemPrompts with
  | .error error => pure (.failed error 0)
  | .ok prompts => do
    ask (.publish ((Tally.start prompts.length).itemProgress prompts.length))
    spawnItems prompts.zipIdx
    drain step prompts.length (List.range prompts.length) (.start prompts.length)

/-! ### The machine -/

def stepThread (step : MapStep) : MapM (Option StepResult) := do
  let result ← dispatch step
  pure (some result)

/-- Whoever cancels the run. -/
def canceller : MapM (Option StepResult) := do
  ask .cancel
  pure none

/-- The semaphore, the cancel flag, the join handles, and what the step has put into the context:
its progress, and the tokens of the run. -/
structure Shared where
  permits : Nat
  cancelled : Bool
  settled : Nat → Option ItemResult
  itemProgress : Option ItemProgress
  totalTokens : Nat

/-- **What the shared state answers.** A task waits for a permit, and a join for its task; a task
that has not returned may have been aborted. A call is cut only when the run is cancelled. -/
inductive Answers (shared : Shared) : MapEvent → Shared → Prop
  | publishes (progress : ItemProgress) :
      Answers shared ⟨.publish progress, ()⟩ { shared with itemProgress := some progress }
  | spawns (idx : Nat) (prompt : String) : Answers shared ⟨.spawn idx prompt, ()⟩ shared
  | acquires : 0 < shared.permits → Answers shared ⟨.acquire, (.ok () : Except Unit Unit)⟩
        { shared with permits := shared.permits - 1 }
  | looks : Answers shared ⟨.isCancelled, shared.cancelled⟩ shared
  | streams (request : ChatRequest) (answer : Except String (List StreamChunk × StreamEnd)) :
      (readStream answer = .cancelled → shared.cancelled = true) →
      Answers shared ⟨.chatStream request, answer⟩ shared
  | sleeps (millis : Nat) : Answers shared ⟨.sleep millis, ()⟩ shared
  | releases : Answers shared ⟨.release, ()⟩ { shared with permits := shared.permits + 1 }
  | settles (result : ItemResult) : Answers shared ⟨.settle result, ()⟩
        { shared with settled := Function.update shared.settled result.idx (some result) }
  | joins (handle : Nat) (result : ItemResult) : shared.settled handle = some result →
      Answers shared ⟨.join handle, (.ok result : Except String ItemResult)⟩ shared
  | aborted (handle : Nat) (error : String) : shared.settled handle = none →
      Answers shared ⟨.join handle, (.error error : Except String ItemResult)⟩ shared
  | writes (value : Json) (answer : Except String Unit) :
      Answers shared ⟨.writeStepOutput value, answer⟩ shared
  | records (tokens : Nat) : Answers shared ⟨.record tokens, ()⟩
        { shared with totalTokens := shared.totalTokens + tokens }
  | cancels : Answers shared ⟨.cancel, ()⟩ { shared with cancelled := true }

/-- What a join brings, when it is made now. -/
def joined : Option ItemResult → Except String ItemResult
  | some result => .ok result
  | none => .error "aborted"

/-- Answers of a run nothing goes wrong with; the model says back what it was asked. -/
def Shared.answer (shared : Shared) : (query : MapQuery) → query.Answer × Shared
  | .publish progress => ((), { shared with itemProgress := some progress })
  | .spawn _ _ => ((), shared)
  | .acquire => (.ok (), { shared with permits := shared.permits - 1 })
  | .isCancelled => (shared.cancelled, shared)
  | .chatStream request => (.ok ([⟨[request.prompt], some 7⟩], .finished), shared)
  | .sleep _ => ((), shared)
  | .release => ((), { shared with permits := shared.permits + 1 })
  | .settle result =>
    ((), { shared with settled := Function.update shared.settled result.idx (some result) })
  | .join handle =>
    (joined (shared.settled handle), shared)
  | .writeStepOutput _ => (.ok (), shared)
  | .record tokens => ((), { shared with totalTokens := shared.totalTokens + tokens })
  | .cancel => ((), { shared with cancelled := true })

theorem Shared.answers_answer (shared : Shared) (query : MapQuery)
    (free : query = .acquire → 0 < shared.permits) :
    Answers shared ⟨query, (shared.answer query).1⟩ (shared.answer query).2 := by
  cases query with
  | publish progress => exact .publishes progress
  | spawn idx prompt => exact .spawns idx prompt
  | acquire => exact .acquires (free rfl)
  | isCancelled => exact .looks
  | chatStream request => exact .streams request _ nofun
  | sleep millis => exact .sleeps millis
  | release => exact .releases
  | settle result => exact .settles result
  | join handle =>
    show Answers shared ⟨.join handle, joined (shared.settled handle)⟩ shared
    cases settled : shared.settled handle with
    | some result => exact .joins handle result settled
    | none => exact .aborted handle _ settled
  | writeStepOutput value => exact .writes value _
  | record tokens => exact .records tokens
  | cancel => exact .cancels

def started (step : MapStep) : MapEvent → List (MapM (Option StepResult))
  | ⟨.spawn idx prompt, _⟩ => [itemTask step idx prompt]
  | _ => []

/-- **The threads of a map step.** -/
def mapMachine (step : MapStep) : Machine mapPorts Empty (Option StepResult) Shared :=
  ⟨Answers, started step⟩

abbrev MapConfig : Type := Config mapPorts Empty (Option StepResult) Shared

abbrev MapLabel : Type := Nat × MapEvent

/-- The step is thread 0, whoever cancels is thread 1, and the task of an item follows in the order
of the items; the run has used so many tokens before. -/
def MapConfig.start (step : MapStep) (charged : Nat) : MapConfig :=
  ⟨⟨step.parallel, false, fun _ => none, none, charged⟩, [stepThread step, canceller]⟩

end Ziee.Workflow.LlmMap
