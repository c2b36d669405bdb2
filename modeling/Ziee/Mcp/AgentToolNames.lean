/-
**The names of an agent step's tools** (`McpToolProvider`, `agent_dispatch.rs`; `call_mcp_tool` and
`split_tool_name`, `agent_tool_call.rs`).

A tool is listed to the model under its server's name, two underscores and its own name. The call
comes back with that name, which is split at the first two underscores; where it goes, and whether
it is trusted, rest on the split.

* `callMcpTool`, `call`, `isTrusted` — where a call of a name goes, and whether it is trusted.
* **`toolNames_routeBack_iff`** — **when every listed name routes back**: the servers' names are
  plain.
-/

import Ziee.Agent.Core
import Ziee.Library.Framing

namespace Ziee.Mcp

open Framing Ziee.Agent Ziee.Providers

structure McpServer where
  id : Uuid
  name : String
  enabled : Bool

structure McpTool where
  name : String

structure DisabledServer where
  serverId : Uuid
  tools : List String

def DisabledServer.isServerDisabled (disabled : DisabledServer) : Bool := disabled.tools.isEmpty

def DisabledServer.isToolDisabled (disabled : DisabledServer) (tool : String) : Bool :=
  disabled.tools.isEmpty || disabled.tools.contains tool

structure BuiltinIds where
  webSearch : Uuid
  bio : Uuid
  litSearch : Uuid
  citations : Uuid
  memory : Uuid
  files : Uuid
  codeSandbox : Uuid
  elicitation : Uuid
  toolResult : Uuid
  knowledgeBase : Uuid
  skill : Uuid
  runJs : Uuid

/-- `builtin_server_id_by_name`. -/
def BuiltinIds.byName (ids : BuiltinIds) (name : String) : Option Uuid :=
  if name = "web_search" then some ids.webSearch
  else if name = "bio" then some ids.bio
  else if name = "lit_search" then some ids.litSearch
  else if name = "citations" then some ids.citations
  else if name = "memory" then some ids.memory
  else if name = "files" then some ids.files
  else if name = "code_sandbox" then some ids.codeSandbox
  else none

/-- `is_builtin_server_id`: the servers whose calls need no approval. -/
def BuiltinIds.bypass (ids : BuiltinIds) (id : Uuid) : Bool :=
  [ids.files, ids.memory, ids.elicitation, ids.bio, ids.webSearch, ids.toolResult, ids.litSearch,
    ids.citations, ids.knowledgeBase, ids.skill, ids.runJs].contains id

/-- What the database, the settings and the servers answer. -/
structure Backend where
  /-- `get_any_server`. -/
  anyServer : Uuid → Except AppError (Option McpServer)
  /-- `get_all_accessible_config`: the enabled servers of the user, in their order. -/
  accessible : Except AppError (List McpServer)
  /-- The session manager is there. -/
  manager : Bool
  /-- Open a session with the server and list its tools. -/
  listTools : Uuid → Except AppError (List McpTool)
  /-- What the user disabled, of the conversation or by default. -/
  disabled : Except AppError (List DisabledServer)
  /-- Open a session with the server and call the tool; an error without a text is a cancelled
  call. -/
  callTool : Uuid → String → Json → Except (Option String) ToolResult

variable {ids : BuiltinIds} {backend : Backend}

def resolveToolServer (ids : BuiltinIds) (backend : Backend)
    (name : String) : Except AppError Uuid :=
  match ids.byName name with
  | some id =>
    match backend.anyServer id with
    | .error failure => .error failure
    | .ok (some server) =>
      if server.enabled then .ok id else .error ⟨s!"built-in server '{name}' is not enabled"⟩
    | .ok none => .error ⟨s!"built-in server '{name}' is not enabled"⟩
  | none =>
    match backend.accessible with
    | .error failure => .error failure
    | .ok servers =>
      match servers.find? fun server => server.name = name && server.enabled with
      | some server => .ok server.id
      | none => .error ⟨s!"server '{name}' is not accessible to this user"⟩

/-! ### The listing -/

structure Listed where
  server : String
  id : Uuid
  tool : McpTool

def Listed.wireName (listed : Listed) : String := listed.server ++ "__" ++ listed.tool.name

def listedTools (ids : BuiltinIds) (backend : Backend) (scope : List String) : List Listed :=
  scope.flatMap fun name =>
    match resolveToolServer ids backend name with
    | .error _ => []
    | .ok id =>
      match backend.listTools id with
      | .error _ => []
      | .ok tools => tools.map fun tool => ⟨name, id, tool⟩

def advertised (ids : BuiltinIds) (backend : Backend) (scope : List String) :
    Except AppError (List Listed) :=
  if backend.manager then .ok (listedTools ids backend scope)
  else .error ⟨"MCP session manager not initialized"⟩

/-! ### The call -/

/-- `split_tool_name`: at the first two underscores. -/
def splitToolName (name : String) : String × String :=
  match cut "__".toList name.toList with
  | some (server, tool) => (String.ofList server, String.ofList tool)
  | none => ("", name)

inductive McpToolCallError
  | cancelled
  | failed (message : String)

def callOn (backend : Backend) (id : Uuid) (server tool : String) (args : Json) :
    Except McpToolCallError (Uuid × ToolResult) :=
  match backend.disabled with
  | .error failure => .error (.failed s!"tool: could not resolve server policy: {failure.display}")
  | .ok disabled =>
    if disabled.any fun entry => entry.serverId = id &&
      (entry.isServerDisabled || entry.isToolDisabled tool)
    then .error (.failed s!"tool '{tool}' on server '{server}' is disabled in this conversation")
    else if backend.manager then
      match backend.callTool id tool args with
      | .ok result => .ok (id, result)
      | .error none => .error .cancelled
      | .error (some failure) => .error (.failed s!"tool '{tool}': {failure}")
    else .error (.failed "MCP session manager not initialized")

/-- `call_mcp_tool`, as the agent step calls it: a server is always resolved by its name. -/
def callMcpTool (ids : BuiltinIds) (backend : Backend) (server tool : String) (args : Json) :
    Except McpToolCallError (Uuid × ToolResult) :=
  match resolveToolServer ids backend server with
  | .ok id => callOn backend id server tool args
  | .error failure => .error (.failed failure.display)

/-- What the agent loop is told. -/
def surfaced : Except McpToolCallError (Uuid × ToolResult) → Except AppError ToolResult
  | .ok (_, result) => .ok result
  | .error .cancelled => .error ⟨"agent: tool call cancelled"⟩
  | .error (.failed message) => .error ⟨message⟩

def call (ids : BuiltinIds) (backend : Backend) (call : ToolCall) : Except AppError ToolResult :=
  surfaced (callMcpTool ids backend (splitToolName call.name).1
    (splitToolName call.name).2 call.input)

def trustsServer (ids : BuiltinIds) (name : String) : Bool :=
  match ids.byName name with
  | some id => ids.bypass id
  | none => false

def isTrusted (ids : BuiltinIds) (key : String) : Bool := trustsServer ids (splitToolName key).1

/-! ### Routing -/

/-- **The name routes back**: it splits into the server and the tool, and a call of it and its trust
are those of the server that advertised the tool. -/
structure RoutesBack (ids : BuiltinIds) (backend : Backend) (listed : Listed) : Prop where
  splits : splitToolName listed.wireName = (listed.server, listed.tool.name)
  calls : ∀ callId args, call ids backend ⟨callId, none, listed.wireName, args⟩ =
    surfaced (callOn backend listed.id listed.server listed.tool.name args)
  trust : ∀ callId args, isTrusted ids (serverKey ⟨callId, none, listed.wireName, args⟩) =
    trustsServer ids listed.server
  bypass : trustsServer ids listed.server = true → ids.bypass listed.id = true

/-- No two underscores stand together in the name, and none at its end. -/
def PlainName (name : String) : Prop := ¬"__".toList <:+: name.toList ∧
    name.toList.getLast? ≠ some '_'

theorem plainName_iff {name : String} :
    PlainName name ↔ ¬"__".toList <:+: name.toList ++ "__".toList.dropLast := by
  have two : "__".toList = ['_', '_'] := rfl
  have one : "__".toList.dropLast = ['_'] := rfl
  unfold PlainName
  rw [one, two, List.infix_concat_iff, List.suffix_concat_iff, not_or, and_comm]
  refine and_congr_left fun _ => not_congr ?_
  constructor
  · intro last
    obtain ⟨before, split⟩ := List.getLast?_eq_some_iff.mp last
    exact Or.inr ⟨['_'], rfl, before, split.symm⟩
  · rintro (no | ⟨first, split, before, whole⟩)
    · cases no
    · have same : ['_'] ++ ['_'] = first ++ ['_'] := split
      obtain ⟨rfl, -⟩ := List.append_inj' same rfl
      rw [← whole]
      exact List.getLast?_concat

theorem splitToolName_iff {server tool : String} :
    splitToolName (server ++ "__" ++ tool) = (server, tool) ↔ PlainName server := by
  have nonempty : "__".toList ≠ [] := by decide
  have first : ¬"__".toList <:+: server.toList ++ "__".toList.dropLast ↔
      cut "__".toList (server.toList ++ "__".toList ++ tool.toList) = some
        (server.toList, tool.toList) :=
    (cut_eq_iff nonempty).symm
  rw [plainName_iff, first]
  unfold splitToolName
  rw [String.toList_append, String.toList_append]
  obtain ⟨before, after, here, -⟩ := cut_of_append "__".toList server.toList tool.toList
  rw [here]
  dsimp only
  rw [Prod.mk.injEq, Option.some.injEq, Prod.mk.injEq, ← String.toList_inj, ← String.toList_inj,
    String.toList_ofList, String.toList_ofList]

theorem resolveToolServer_byName {name : String} {id other : Uuid}
    (resolved : resolveToolServer ids backend name = .ok id)
    (builtin : ids.byName name = some other) : id = other := by
  unfold resolveToolServer at resolved
  rw [builtin] at resolved
  dsimp only at resolved
  split at resolved
  · cases resolved
  · split at resolved
    · cases resolved
      rfl
    · cases resolved
  · cases resolved

theorem listedTools_resolved {scope : List String} {listed : Listed}
    (member : listed ∈ listedTools ids backend scope) :
    resolveToolServer ids backend listed.server = .ok listed.id := by
  obtain ⟨name, -, here⟩ := List.mem_flatMap.mp member
  cases resolved : resolveToolServer ids backend name with
  | error failure =>
    rw [resolved] at here
    cases here
  | ok id =>
    rw [resolved] at here
    dsimp only at here
    cases tools : backend.listTools id with
    | error failure =>
      rw [tools] at here
      cases here
    | ok tools' =>
      rw [tools] at here
      obtain ⟨tool, -, rfl⟩ := List.mem_map.mp here
      exact resolved

theorem routesBack_of_plainName {scope : List String} {listed : Listed}
    (member : listed ∈ listedTools ids backend scope) (plain : PlainName listed.server) :
    RoutesBack ids backend listed := by
  have splits : splitToolName listed.wireName = (listed.server, listed.tool.name) :=
    splitToolName_iff.mpr plain
  have resolved := listedTools_resolved member
  refine ⟨splits, ?_, ?_, ?_⟩
  · intro callId args
    unfold call callMcpTool
    rw [splits, resolved]
  · intro callId args
    have key : serverKey ⟨callId, none, listed.wireName, args⟩ = listed.wireName := rfl
    rw [key, isTrusted, splits]
  · intro trusted
    unfold trustsServer at trusted
    cases builtin : ids.byName listed.server with
    | none =>
      rw [builtin] at trusted
      cases trusted
    | some id =>
      rw [builtin] at trusted
      rw [resolveToolServer_byName resolved builtin]
      exact trusted

/-- **When every listed name routes back**: the name of every server that lists a tool is plain. -/
theorem toolNames_routeBack_iff (ids : BuiltinIds) (backend : Backend) (scope : List String) :
    (∀ tools, advertised ids backend scope = .ok tools →
        ∀ listed ∈ tools, RoutesBack ids backend listed) ↔
      ∀ tools, advertised ids backend scope = .ok tools →
        ∀ listed ∈ tools, PlainName listed.server := by
  refine forall₂_congr fun tools lists => forall₂_congr fun listed member => ?_
  have there : listed ∈ listedTools ids backend scope := by
    unfold advertised at lists
    split at lists
    · cases lists
      exact member
    · cases lists
  exact ⟨fun routes => splitToolName_iff.mp routes.splits, routesBack_of_plainName there⟩

/-- A user's own server whose name begins with a built-in one's, with one tool. -/
def lookalike : Backend where
  anyServer id := .ok (some ⟨id, "bio", true⟩)
  accessible := .ok [⟨100#128, "bio__x", true⟩]
  manager := true
  listTools _ := .ok [⟨"t"⟩]
  disabled := .ok []
  callTool _ _ _ := .error none

def someIds : BuiltinIds :=
  ⟨1#128, 2#128, 3#128, 4#128, 5#128, 6#128, 7#128, 8#128, 9#128, 10#128, 11#128, 12#128⟩

theorem lookalike_trusted : ¬ ∀ tools, advertised someIds lookalike ["bio__x"] = .ok tools →
      ∀ listed ∈ tools, RoutesBack someIds lookalike listed := by
  intro routes
  have lists : advertised someIds lookalike ["bio__x"] = .ok [⟨"bio__x", 100#128, ⟨"t"⟩⟩] := rfl
  have trust := (routes _ lists _ (List.mem_singleton.mpr rfl)).trust "" .null
  have trusted : isTrusted someIds "bio__x__t" = true := by decide +kernel
  have untrusted : trustsServer someIds "bio__x" = false := by decide +kernel
  exact Bool.noConfusion (trusted.symm.trans (trust.trans untrusted))

end Ziee.Mcp
