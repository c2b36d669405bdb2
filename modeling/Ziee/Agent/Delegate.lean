/-
**The `delegate` tool** (`core_tools.rs`).

The loop intercepts core tools by name, so `handleDelegate` gets whatever input the model wrote, in
any scope. It refuses where delegation is not permitted, reads the input, caps and narrows the
requested children (`prepareChildSpecs`), fans them out in the relaxed mode and merges their
summaries into one tool result.

The readers are the derived ones: `tool_scope`, `model_id` and `reasoning_effort` may be left out,
and so may `children`. How an id is parsed and how a string is printed in an error are another
crate's (`TextFormats`).
-/

import Ziee.Agent.FanOut
import Ziee.Providers.Decode

namespace Ziee.Agent

open PortProgram Ziee.Providers

/-- The text forms the input is read and reported with. -/
structure TextFormats where
  parseUuid : String → Except String Uuid
  debug : String → String

structure DelegateToolScope where
  servers : List String
  deriving DecidableEq, Repr

structure DelegateChildSpec where
  system : String
  toolScope : Option DelegateToolScope
  modelId : Option Uuid
  reasoningEffort : Option String
  deriving DecidableEq, Repr

structure DelegateInput where
  children : List DelegateChildSpec
  deriving DecidableEq, Repr

def readUuid (formats : TextFormats) : Reader Uuid
  | .string text =>
    match formats.parseUuid text with
    | .ok id => .ok id
    | .error message => .error (.custom ("UUID parsing failed: " ++ message))
  | value => .error (.invalidType value "a UUID string")

def DelegateToolScope.read : Reader DelegateToolScope
  | .object members => do
    let servers ← readMembers (fun servers name value =>
      if name = "servers" then readVec readString value else .ok servers) [] members
    pure ⟨servers⟩
  | .array items => do
    let servers ← readItem (readVec readString) [] items 0
    noMoreItems items 1
    pure ⟨servers⟩
  | value => .error (.invalidType value "struct DelegateToolScope")

/-- A child whose members are being read: its `system` may still be missing. -/
structure ChildDraft where
  system : Option String
  toolScope : Option DelegateToolScope
  modelId : Option Uuid
  reasoningEffort : Option String

def ChildDraft.readMember (formats : TextFormats) (draft : ChildDraft) (name : String)
    (value : Json) : Except DecodeError ChildDraft :=
  if name = "system" then do
    let system ← readString value
    pure { draft with system := some system }
  else if name = "tool_scope" then do
    let toolScope ← readOption DelegateToolScope.read value
    pure { draft with toolScope := toolScope }
  else if name = "model_id" then do
    let modelId ← readOption (readUuid formats) value
    pure { draft with modelId := modelId }
  else if name = "reasoning_effort" then do
    let reasoningEffort ← readOption readString value
    pure { draft with reasoningEffort := reasoningEffort }
  else pure draft

def DelegateChildSpec.read (formats : TextFormats) : Reader DelegateChildSpec
  | .object members => do
    let draft ← readMembers (ChildDraft.readMember formats) ⟨none, none, none, none⟩ members
    let system ← required "system" draft.system
    pure ⟨system, draft.toolScope, draft.modelId, draft.reasoningEffort⟩
  | .array [] => .error (.invalidLength 0 "struct DelegateChildSpec with 4 elements")
  | .array (first :: rest) => do
    let system ← readString first
    let toolScope ← readItem (readOption DelegateToolScope.read) none rest 0
    let modelId ← readItem (readOption (readUuid formats)) none rest 1
    let reasoningEffort ← readItem (readOption readString) none rest 2
    noMoreItems (first :: rest) 4
    pure ⟨system, toolScope, modelId, reasoningEffort⟩
  | value => .error (.invalidType value "struct DelegateChildSpec")

def DelegateInput.read (formats : TextFormats) : Reader DelegateInput
  | .object members => do
    let children ← readMembers (fun children name value =>
      if name = "children" then readVec (DelegateChildSpec.read formats) value
      else .ok children) [] members
    pure ⟨children⟩
  | .array items => do
    let children ← readItem (readVec (DelegateChildSpec.read formats)) [] items 0
    noMoreItems items 1
    pure ⟨children⟩
  | value => .error (.invalidType value "struct DelegateInput")

/-! ### The two guardrails of a call -/

def cappedNote (requested cap : Nat) : String :=
  "Note: " ++ toString requested ++ " sub-agents were requested but the per-call limit is " ++
    toString cap ++ "; capped at " ++ toString cap ++ " (" ++ toString (requested - cap) ++
    " not run)."

def DelegateChildSpec.requestedServers (child : DelegateChildSpec) : List String :=
  (child.toolScope.map DelegateToolScope.servers).getD []

def DelegateChildSpec.narrow (parentServers : List String) (child : DelegateChildSpec) :
    SubagentSpec where
  modelId := child.modelId
  system := child.system
  toolScope := ⟨child.requestedServers.filter fun server => server ∈ parentServers, false⟩
  reasoningEffort := child.reasoningEffort

/-- `prepare_child_specs`: the specs to spawn, and a note when some were cut. -/
def prepareChildSpecs (input : DelegateInput) (parentServers : List String) (maxChildren : Nat) :
    List SubagentSpec × Option String :=
  let requested := input.children.length
  let cap := max maxChildren 1
  let capped :=
    if requested > cap then (input.children.take cap, some (cappedNote requested cap))
    else (input.children, none)
  (capped.1.map (DelegateChildSpec.narrow parentServers), capped.2)

/-! ### The merged result -/

def summaryPart (summary : SubagentSummary) (index : Nat) : String :=
  "Sub-agent " ++ toString (index + 1) ++ " result:\n" ++ summary.summary

/-- `merge_summaries`: the note first, then the summaries in order, neutralised as a whole. -/
def mergeSummaries (summaries : List SubagentSummary) (note : Option String) : String :=
  neutralizeUntrusted ("\n\n".intercalate (note.toList ++ summaries.mapIdx fun index summary =>
    summaryPart summary index))

def handleDelegate (formats : TextFormats) (core : AgentCore) (call : ToolCall)
    (parentScope : ToolScope) (parentRunId userId : Uuid) : FanOutM ToolResult :=
  if !parentScope.allowDelegate then
    pure (errorToolResult ("delegate: delegation is not permitted in this context " ++
      "(a sub-agent cannot spawn further sub-agents)"))
  else
    match DelegateInput.read formats call.input with
    | .error error =>
      pure (errorToolResult ("delegate: invalid input: " ++ error.display formats.debug))
    | .ok input =>
      let prepared := prepareChildSpecs input parentScope.servers core.limits.maxChildrenPerCall
      if prepared.1.isEmpty then pure (errorToolResult "delegate: no sub-agents specified")
      else do
        let result ← (fanOutInner core parentRunId userId prepared.1 .errorSummary).caught
        match result with
        | .error error =>
          pure (errorToolResult ("delegate: fan-out failed: " ++ error.display))
        | .ok summaries =>
          pure ⟨[.text (mergeSummaries summaries prepared.2)], false, none, false⟩

/-- `handle_core_tool` on the ports of the fan-out: the other core tools work on the task list and
on the schedule, and give the result they give. -/
def handleCoreToolFanOut (formats : TextFormats) (core : AgentCore) (tool : CoreTool)
    (call : ToolCall) (scope : ToolScope) (runId userId : Uuid) (given : ToolResult) :
    FanOutM ToolResult :=
  match tool with
  | .delegate => handleDelegate formats core call scope runId userId
  | _ => pure given

end Ziee.Agent
