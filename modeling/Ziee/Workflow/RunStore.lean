/-
**The rows of `workflow_runs`** (`repository.rs`, `models.rs`, `types.rs`, and the transcript store
and human gate of `agent_dispatch.rs`).

A row holds what one workflow run keeps between its steps: its status, the outputs of its steps,
the transcript of its agent steps, the elicitation it is parked on and the response that was
submitted. Every write is an `UPDATE … WHERE id = …`: it changes the row with that id, and where
there is none it changes nothing and still succeeds.

* `Rows.update` — the `UPDATE`; `update_other` and `update_absent` are its frame.
* `load`, `append`, `replaceHead` — `WorkflowTranscriptStore`; what is appended to a row that does
  not exist is lost (`load_append_absent`).
-/

import Ziee.Agent.Compaction

namespace Ziee.Workflow

open PortProgram Ziee.Providers Ziee.Agent

inductive WorkflowRunStatus
  | pending
  | running
  | waiting
  | resumable
  | completed
  | failed
  | cancelled
  deriving DecidableEq, Repr

def WorkflowRunStatus.isTerminal : WorkflowRunStatus → Bool
  | .completed | .failed | .cancelled => true
  | _ => false

/-- What the agent gate puts into the `data` of its pending record. -/
structure GateData where
  tool : String
  arguments : Json
  callId : String

/-- `PendingElicitationRecord`; an elicit step's own `data` is not looked at by an agent step. -/
structure PendingElicitation where
  elicitationId : Uuid
  stepId : String
  message : String
  data : Option GateData

/-- The submitted form of an agent gate, after it passed the gate's schema: `approve` is required,
`approve_for_session` is not. -/
structure GateResponse where
  approve : Bool
  approveForSession : Option Bool
  deriving DecidableEq, Repr

structure ElicitResponse where
  stepId : String
  elicitationId : Uuid
  response : GateResponse

structure RunRow where
  status : WorkflowRunStatus
  /-- The ids of the steps with a persisted output. -/
  stepOutputs : List String
  /-- `agent_transcript_json`; `none` is `NULL`. -/
  transcript : Option (List ChatMessage)
  pendingElicitation : Option PendingElicitation
  elicitResponse : Option ElicitResponse

/-- The table, by id. -/
abbrev Rows : Type := Uuid → Option RunRow

/-- `UPDATE workflow_runs SET … WHERE id = …`. -/
def Rows.update (rows : Rows) (runId : Uuid) (change : RunRow → RunRow) : Rows := fun id =>
  if id = runId then (rows id).map change else rows id

section Update

variable {rows : Rows} {runId : Uuid} {change : RunRow → RunRow}

@[simp] theorem Rows.update_self : rows.update runId change runId = (rows runId).map change :=
  if_pos rfl

theorem Rows.update_other {other : Uuid} (distinct : other ≠ runId) :
    rows.update runId change other = rows other := if_neg distinct

theorem Rows.update_absent (absent : rows runId = none) : rows.update runId change = rows := by
  funext id
  by_cases same : id = runId
  · rw [same, update_self, absent]
    rfl
  · exact update_other same

end Update

namespace Rows

def setAgentTranscript (rows : Rows) (runId : Uuid) (messages : List ChatMessage) : Rows :=
  rows.update runId fun row => { row with transcript := some messages }

def getAgentTranscript (rows : Rows) (runId : Uuid) : Option (List ChatMessage) :=
  (rows runId).bind (·.transcript)

def setPendingElicitation (rows : Rows) (runId : Uuid) (pending : Option PendingElicitation) :
    Rows :=
  rows.update runId fun row => { row with pendingElicitation := pending }

def markStatus (rows : Rows) (runId : Uuid) (status : WorkflowRunStatus) : Rows :=
  rows.update runId fun row =>
    if row.status.isTerminal = false ∨ (status = .cancelled ∧ row.status = .cancelled) then
      { row with status := status }
    else row

/-! ### The transcript store -/

/-- `WorkflowTranscriptStore::load`: a `NULL` transcript, or no row, is an empty one. -/
def load (rows : Rows) (runId : Uuid) : List ChatMessage := (rows.getAgentTranscript runId).getD []

/-- `append`: read the whole array, push, write it back. -/
def append (rows : Rows) (runId : Uuid) (message : ChatMessage) : Rows :=
  rows.setAgentTranscript runId (rows.load runId ++ [message])

def replaceHead (rows : Rows) (runId : Uuid) (summary : ChatMessage) (upto : Nat) : Rows :=
  rows.setAgentTranscript runId (Ziee.Agent.replaceHead (rows.load runId) summary upto)

section Transcripts

variable {rows : Rows} {runId other : Uuid} {messages : List ChatMessage} {message : ChatMessage}

theorem load_update {change : RunRow → RunRow}
    (keeps : ∀ row, (change row).transcript = row.transcript) :
    (rows.update runId change).load other = rows.load other := by
  unfold load getAgentTranscript
  by_cases same : other = runId
  · rw [same, update_self]
    cases rows runId with
    | none => rfl
    | some row => exact congrArg (Option.getD · []) (keeps row)
  · rw [update_other same]

theorem load_absent (absent : rows runId = none) : rows.load runId = [] := by
  unfold load getAgentTranscript
  rw [absent]
  rfl

/-- **What is appended where there is no row is lost**, although the append succeeds. -/
theorem load_append_absent (absent : rows runId = none) :
    (rows.append runId message).load runId = [] := by
  unfold append setAgentTranscript
  rw [update_absent absent, load_absent absent]

end Transcripts

/-! ### The human gate -/

def gateMessage (ask : GateAsk) : String :=
  "The agent wants to run tool `" ++ ask.call.name ++ "`. " ++ ask.reason ++ " Approve?"

def gateRecord (stepId : String) (ask : GateAsk) (elicitationId : Uuid) : PendingElicitation where
  elicitationId := elicitationId
  stepId := stepId
  message := gateMessage ask
  data := some ⟨ask.call.name, ask.call.input, ask.call.id⟩

/-- `WorkflowHumanGate::request`: persist the pending record and park the run. -/
def request (rows : Rows) (runId : Uuid) (stepId : String) (ask : GateAsk) (elicitationId : Uuid) :
    Rows :=
  (rows.setPendingElicitation runId (some (gateRecord stepId ask elicitationId))).markStatus runId
    .waiting

theorem load_setPendingElicitation {rows : Rows} {runId other : Uuid}
    {pending : Option PendingElicitation} :
    (rows.setPendingElicitation runId pending).load other = rows.load other :=
  load_update fun _ => rfl

theorem load_markStatus {rows : Rows} {runId other : Uuid} {status : WorkflowRunStatus} :
    (rows.markStatus runId status).load other = rows.load other :=
  load_update fun row => by split <;> rfl

theorem load_request {rows : Rows} {runId other : Uuid} {stepId : String} {ask : GateAsk}
    {elicitationId : Uuid} :
    (rows.request runId stepId ask elicitationId).load other = rows.load other :=
  load_markStatus.trans load_setPendingElicitation

end Rows

end Ziee.Workflow
