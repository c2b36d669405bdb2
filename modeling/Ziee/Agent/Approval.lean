/-
**Who decides whether a tool call runs** (`policy.rs`, `reviewer.rs`, `core_tools.rs`, and
`clamp_reviewer_decision` of `core.rs`).

* `decideSync` — the approval matrix: a trusted call is automatic, everything else follows the mode.
* `Reviewer.review` — risk band, admin override, authorization gate; a classifier error denies.
* `CoreTool.fromName` — the reserved names the loop handles itself.
-/

import Ziee.Agent.Types

namespace Ziee.Agent

structure TrustedAutoApprovePolicy where
  mode : ApprovalMode
  deriving DecidableEq, Repr

def TrustedAutoApprovePolicy.decideSync (policy : TrustedAutoApprovePolicy) (trusted : Bool) :
    Decision :=
  if trusted then .auto
  else
    match policy.mode with
    | .never => .deny
    | .unlessTrusted => .prompt
    | .onRequest => .review
    | .granular => .review

/-! ### The reviewer -/

inductive Risk
  | low
  | high
  | critical
  deriving DecidableEq, Repr

inductive Authorization
  | high
  | medium
  | low
  | unknown
  deriving DecidableEq, Repr

def Authorization.atLeastMedium : Authorization → Bool
  | .high => true
  | .medium => true
  | .low => false
  | .unknown => false

structure RiskAssessment where
  band : Risk
  authorization : Authorization
  deriving DecidableEq, Repr

def mapRisk : Risk → Decision
  | .low => .auto
  | .high => .prompt
  | .critical => .deny

def applyAuthorization (band : Risk) (authorization : Authorization) (base : Decision) : Decision :=
  match band with
  | .critical => if base = .auto then .prompt else base
  | .high =>
    if authorization.atLeastMedium then (if base = .prompt then .auto else base)
    else (if base = .auto then .prompt else base)
  | .low =>
    match authorization with
    | .unknown => if base = .auto then .prompt else base
    | _ => base

structure RiskThresholds where
  overrides : Risk → Option Decision

def RiskThresholds.resolve (thresholds : RiskThresholds) (risk : Risk) : Decision :=
  (thresholds.overrides risk).getD (mapRisk risk)

/-- The reviewer; its classifier is a port (`Query.classify`). -/
structure Reviewer where
  policy : String
  thresholds : RiskThresholds

def Reviewer.decide (reviewer : Reviewer) (assessment : RiskAssessment) : Decision :=
  applyAuthorization assessment.band assessment.authorization
    (reviewer.thresholds.resolve assessment.band)

/-- `Reviewer::review` on the classifier's answer: fail closed. -/
def Reviewer.review (reviewer : Reviewer) (classified : Except AppError RiskAssessment) :
    Decision :=
  match classified with
  | .ok assessment => reviewer.decide assessment
  | .error _ => .deny

theorem Reviewer.decide_unknown_ne_auto (reviewer : Reviewer) (band : Risk) :
    reviewer.decide ⟨band, .unknown⟩ ≠ .auto := by
  unfold decide applyAuthorization
  cases band <;>
    simp only [Authorization.atLeastMedium, Bool.false_eq_true, if_false] <;>
    split <;> simp_all

/-- The reviewer may tighten an untrusted call but never grant it. -/
def clampReviewerDecision (trusted : Bool) (reviewed : Decision) : Decision :=
  if !trusted && reviewed = .auto then .prompt else reviewed

theorem clampReviewerDecision_auto_iff (trusted : Bool) (reviewed : Decision) :
    clampReviewerDecision trusted reviewed = .auto ↔ trusted = true ∧ reviewed = .auto := by
  cases trusted <;> cases reviewed <;> decide

/-! ### The core tools -/

inductive CoreTool
  | delegate
  | taskCreate
  | taskUpdate
  | taskGet
  | taskList
  | scheduleNext
  deriving DecidableEq, Repr

def CoreTool.name : CoreTool → String
  | .delegate => "delegate"
  | .taskCreate => "task_create"
  | .taskUpdate => "task_update"
  | .taskGet => "task_get"
  | .taskList => "task_list"
  | .scheduleNext => "schedule_next"

/-- `CoreTool::from_name`: `some` exactly on a reserved name. -/
def CoreTool.fromName (name : String) : Option CoreTool :=
  match name with
  | "delegate" => some .delegate
  | "task_create" => some .taskCreate
  | "task_update" => some .taskUpdate
  | "task_get" => some .taskGet
  | "task_list" => some .taskList
  | "schedule_next" => some .scheduleNext
  | _ => none

/-- `core_tool_defs`: the core tools offered in a turn. -/
def coreToolDefs (scope : ToolScope) (taskListEnabled scheduleEnabled : Bool) :
    List Ziee.Providers.Tool :=
  (if scope.allowDelegate then [⟨CoreTool.delegate.name⟩] else []) ++ (if taskListEnabled then
      [⟨CoreTool.taskCreate.name⟩, ⟨CoreTool.taskUpdate.name⟩, ⟨CoreTool.taskGet.name⟩,
        ⟨CoreTool.taskList.name⟩]
    else []) ++
    (if scheduleEnabled then [⟨CoreTool.scheduleNext.name⟩] else [])

end Ziee.Agent
