/-
**The value types of the agent loop** (`agent-core`: `types.rs`, `budget.rs`).

The types the loop, its ports and the sub-agent fan-out exchange, and the token and iteration
budget of one turn.
-/

import Ziee.Providers.Chat
import Mathlib.Data.BitVec

namespace Ziee.Agent

open Ziee.Providers

abbrev Uuid : Type := BitVec 128

instance : LawfulBEq Uuid := inferInstance

/-- The hyphenated lower-case form, `8-4-4-4-12` hexadecimal digits. -/
def Uuid.display (id : Uuid) : String :=
  let digits := (BitVec.toHex id).toList
  "-".intercalate ([(0, 8), (8, 4), (12, 4), (16, 4), (20, 12)].map fun part =>
    String.ofList ((digits.drop part.1).take part.2))

/-- The error type every port surfaces; the loop reads only what it prints. -/
structure AppError where
  display : String
  deriving DecidableEq, Repr

abbrev IdempotencyKey : Type := String

structure ToolCall where
  id : String
  server : Option String
  name : String
  input : Json

structure ToolResult where
  content : List ContentBlock
  isError : Bool
  structuredContent : Option Json
  /-- The tool's output is the final answer of the turn: the model is not called again. -/
  terminal : Bool

structure ToolCallRecord where
  key : IdempotencyKey
  call : ToolCall
  result : ToolResult

structure Usage where
  inputTokens : Nat
  outputTokens : Nat
  totalTokens : Nat
  deriving DecidableEq, Repr

inductive StopReason
  | noToolCall
  | iterationCap
  | tokenCap
  | wallClock
  | halted
  deriving DecidableEq, Repr

/-- The `Debug` text of a stop reason. -/
def StopReason.debug : StopReason → String
  | .noToolCall => "NoToolCall"
  | .iterationCap => "IterationCap"
  | .tokenCap => "TokenCap"
  | .wallClock => "WallClock"
  | .halted => "Halted"

inductive ReviewDecision
  | approved
  | approvedForSession
  | denied
  | abort
  deriving DecidableEq, Repr

/-- What the approval policy decides for a call before it runs. -/
inductive Decision
  | auto
  | prompt
  | review
  | deny
  deriving DecidableEq, Repr

inductive SandboxMode
  | readOnly (network : Bool)
  | workspaceWrite (network : Bool)
  | dangerFullAccess
  deriving DecidableEq, Repr

inductive ApprovalMode
  | unlessTrusted
  | onRequest
  | granular
  | never
  deriving DecidableEq, Repr

structure GateTicket where
  id : Uuid
  deriving DecidableEq

structure GateAsk where
  call : ToolCall
  reason : String

/-- The gate's answer: resolved live, or suspended, and then the host parks the run. -/
inductive GateOutcome
  | decided (decision : ReviewDecision)
  | suspended (ticket : GateTicket)
  deriving DecidableEq

structure SubagentLimits where
  maxDepth : Nat
  maxThreads : Nat
  maxChildrenPerCall : Nat
  deriving DecidableEq, Repr

structure ToolScope where
  servers : List String
  allowDelegate : Bool
  deriving DecidableEq, Repr

structure SubagentSpec where
  modelId : Option Uuid
  system : String
  toolScope : ToolScope
  reasoningEffort : Option String

structure SubagentSummary where
  summary : String
  deriving DecidableEq, Repr

inductive SubAgentChildStatus
  | pending
  | running
  | completed
  | failed
  deriving DecidableEq, Repr

structure SubAgentChild where
  id : String
  label : String
  status : SubAgentChildStatus
  deriving DecidableEq, Repr

inductive TurnSeed
  | newMessage (message : ChatMessage)
  | resume

structure AgentTurnRequest where
  runId : Uuid
  userId : Uuid
  seed : TurnSeed
  system : List ContentBlock
  toolScope : ToolScope
  startIteration : Nat
  inputs : Json

/-- The events the loop and the fan-out produce. -/
inductive AgentEvent
  | message (message : ChatMessage)
  | usage (usage : Usage)
  | historyReplaced (summaryUpto : Nat)
  | subAgentActivity (runId : Uuid) (children : List SubAgentChild)
  | gateOpened (ticket : GateTicket)
  | stopped (reason : StopReason)

/-! ### The budget -/

def safetyMaxIterations : Nat := 1000

/-- The largest `u64`, where the token tally saturates. -/
def u64Max : Nat := 2 ^ 64 - 1

structure Budget where
  maxSteps : Nat
  perRunTokenCap : Nat
  perStepTokenCap : Nat
  runTokens : Nat
  deriving DecidableEq, Repr

namespace Budget

def new (maxSteps perRunTokenCap perStepTokenCap : Nat) : Budget where
  maxSteps := min maxSteps safetyMaxIterations
  perRunTokenCap := perRunTokenCap
  perStepTokenCap := perStepTokenCap
  runTokens := 0

/-- Fold a model call's usage into the tally, saturating. -/
def addTokens (budget : Budget) (tokens : Nat) : Budget :=
  { budget with runTokens := min (budget.runTokens + tokens) u64Max }

/-- Whether the loop must stop before another model call at `iteration`. -/
def stopBefore (budget : Budget) (iteration : Nat) : Option StopReason :=
  if iteration > budget.maxSteps then some .iterationCap
  else if budget.runTokens > budget.perRunTokenCap then some .tokenCap
  else none

def stepOverCap (budget : Budget) (stepTokens : Nat) : Bool :=
  stepTokens > budget.perStepTokenCap

theorem stopBefore_eq_none_iff {budget : Budget} {iteration : Nat} :
    budget.stopBefore iteration = none ↔
      iteration ≤ budget.maxSteps ∧ budget.runTokens ≤ budget.perRunTokenCap := by
  unfold stopBefore
  split
  · simp only [reduceCtorEq, false_iff]
    omega
  · split
    · simp only [reduceCtorEq, false_iff]
      omega
    · simp only [true_iff]
      omega

end Budget

end Ziee.Agent
