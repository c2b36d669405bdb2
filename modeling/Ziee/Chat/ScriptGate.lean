/-
**The gate of a script** (`js_tool/approval.rs`, `js_tool/executor.rs`, `js_tool/host_bridge.rs` and
`execute_run_js_call` in `mcp/chat_extension/mcp.rs`).

A `run_js` script calls the tools of the conversation. Its gate is a third ladder beside the two of
the chat; it knows the trusted servers, the server of control, the mode and the allow-list, and
nothing else.

* `gate` — the ladder of the script.
* `gatherTools`, `buildBindings`, `scriptRun` — what a script may call, and how it was approved.
* `dispatchOne` — one call of a script, with the prompt and the budget.
* `script_strict_iff` — **a script does no more than the model may** exactly when no call that the
  gate lets through is one that the chat holds back; `script_spawns_unasked` is one.
-/

import Ziee.Chat.ApprovalLadders

namespace Ziee.Chat.Approvals

open Ziee.Agent (Uuid)
open Ziee.Providers (Json)

inductive GateDecision
  | allow
  | needApproval
  | deny
  deriving DecidableEq

def gate (isBuiltin isControl isControlMutating : Bool) (mode : ApprovalMode)
    (isAutoApproved : Bool) : GateDecision :=
  if isBuiltin then .allow
  else if mode = .disabled then .deny
  else if isControl then if isControlMutating then .needApproval else .allow
  else
    match mode with
    | .autoApprove => .allow
    | .manualApprove => if isAutoApproved then .allow else .needApproval
    | .disabled => .deny

/-! ### The tools of a script -/

structure RawTool where
  serverId : Uuid
  serverName : String
  toolName : String

structure ToolBinding where
  jsName : String
  serverId : Uuid
  serverName : String
  toolName : String

structure McpServer where
  id : Uuid
  name : String

def sanitize (text : String) : String :=
  let out := text.toList.map fun c => if c.isAlphanum || c == '_' then c else '_'
  let out := if out.isEmpty then ['_'] else out
  String.ofList (if out.head?.any Char.isDigit then '_' :: out else out)

/-- `base_n`, `base_(n + 1)` and so on, up to one that is free. -/
def freeName (used : List String) (base : String) : Nat → Nat → String
  | 0, n => base ++ "_" ++ toString n
  | fuel + 1, n =>
    let name := base ++ "_" ++ toString n
    if used.contains name then freeName used base fuel (n + 1) else name

def baseName (tools : List RawTool) (tool : RawTool) : String :=
  if 1 < tools.countP fun other => other.toolName == tool.toolName then
    sanitize tool.serverName ++ "_" ++ sanitize tool.toolName
  else sanitize tool.toolName

def bindTool (tools : List RawTool) (bindings : List ToolBinding) (tool : RawTool) :
    List ToolBinding :=
  let used := bindings.map ToolBinding.jsName
  let base := baseName tools tool
  let jsName := if used.contains base then freeName used base used.length 2 else base
  bindings ++ [⟨jsName, tool.serverId, tool.serverName, tool.toolName⟩]

def buildBindings (tools : List RawTool) : List ToolBinding := tools.foldl (bindTool tools) []

/-- The tools of the servers, without `run_js` itself; a server that does not list is skipped. -/
def gatherTools (listTools : Uuid → Option (List String)) (servers : List McpServer) :
    List RawTool :=
  (servers.filter fun server => server.id != runJsMcpServerId).flatMap fun server =>
    ((listTools server.id).getD []).map fun toolName =>
      { serverId := server.id, serverName := server.name, toolName := toolName }

/-- The pairs of the allow-lists among them. -/
def gatherApproved (settings : ApprovalSettings) (tools : List RawTool) : List (Uuid × String) :=
  (tools.filter fun tool => settings.isAutoApproved tool.serverId tool.toolName).map fun tool =>
    (tool.serverId, tool.toolName)

/-- The limits of a script that its calls come up against. -/
structure JsCaps where
  maxToolCalls : Nat
  maxApprovals : Nat

/-- `JsToolRun`. -/
structure ScriptRun where
  bindings : List ToolBinding
  approvalMode : ApprovalMode
  autoApproved : List (Uuid × String)
  caps : JsCaps

/-- `execute_run_js_call`, up to the script. -/
def scriptRun (settings : ApprovalSettings) (listTools : Uuid → Option (List String))
    (servers : List McpServer) (caps : JsCaps) : ScriptRun :=
  let tools := gatherTools listTools servers
  { bindings := buildBindings tools
    approvalMode := settings.approvalMode
    autoApproved := gatherApproved settings tools
    caps := caps }

/-! ### A call -/

inductive ApprovalOutcome
  | approved
  | denied (message : String)

/-- What the user and the server answer to a call. -/
structure DispatchAnswers where
  approval : ApprovalOutcome
  session : Except String Unit

structure DispatchState where
  approvalsUsed : Nat
  callsUsed : Nat

structure Dispatched where
  state : DispatchState
  asked : Bool
  executed : Bool
  error : Option String

def claimAndRun (run : ScriptRun) (asked : Bool) (state : DispatchState)
    (answers : DispatchAnswers) : Dispatched :=
  let claimed := { state with callsUsed := state.callsUsed + 1 }
  if run.caps.maxToolCalls ≤ state.callsUsed then
    { state := claimed
      asked := asked
      executed := false
      error := some ("run_js tool-call budget exhausted (max " ++ toString run.caps.maxToolCalls ++
        ")") }
  else
    match answers.session with
    | .error e =>
      { state := claimed, asked := asked, executed := false, error :=
        some ("dispatch failed: " ++ e) }
    | .ok () => { state := claimed, asked := asked, executed := true, error := none }

def dispatchOne (catalog : Option ControlCatalog) (run : ScriptRun) (jsName : String) (args : Json)
    (state : DispatchState) (answers : DispatchAnswers) : Dispatched :=
  match run.bindings.find? fun binding => binding.jsName == jsName with
  | none =>
    { state := state
      asked := false
      executed := false
      error := some ("unknown tool '" ++ jsName ++ "'") }
  | some binding =>
    let isControl := binding.serverId == controlMcpServerId
    match gate (isBuiltinServerId binding.serverId) isControl
        (isControl && controlCallNeedsApproval catalog binding.toolName args) run.approvalMode
        (run.autoApproved.contains (binding.serverId, binding.toolName)) with
    | .deny =>
      { state := state
        asked := false
        executed := false
        error := some "MCP tools are disabled for this conversation" }
    | .needApproval =>
      let raised := { state with approvalsUsed := state.approvalsUsed + 1 }
      if run.caps.maxApprovals ≤ state.approvalsUsed then
        { state := raised
          asked := false
          executed := false
          error := some ("run_js approval limit reached (max " ++ toString run.caps.maxApprovals ++
            ")") }
      else
        match answers.approval with
        | .denied message =>
          { state := raised, asked := true, executed := false, error := some message }
        | .approved => claimAndRun run true raised answers
    | .allow => claimAndRun run false state answers

/-! ### The gate at a call -/

section Calls

variable {catalog : Option ControlCatalog} {run : ScriptRun} {jsName : String} {args : Json}
  {state : DispatchState} {answers : DispatchAnswers} {binding : ToolBinding}

theorem claimAndRun_asked (asked : Bool) :
    (claimAndRun run asked state answers).asked = asked := by
  unfold claimAndRun
  simp only
  split
  · rfl
  · split <;> rfl

/-- **A call that runs unasked** was let through by the gate. -/
theorem dispatchOne_unasked
    (found : run.bindings.find? (fun binding => binding.jsName == jsName) = some binding)
    (executed : (dispatchOne catalog run jsName args state answers).executed = true)
    (unasked : (dispatchOne catalog run jsName args state answers).asked = false) :
    gate (isBuiltinServerId binding.serverId) (binding.serverId == controlMcpServerId)
      (binding.serverId == controlMcpServerId &&
        controlCallNeedsApproval catalog binding.toolName args) run.approvalMode
      (run.autoApproved.contains (binding.serverId, binding.toolName)) = .allow := by
  unfold dispatchOne at executed unasked
  rw [found] at executed unasked
  simp only at executed unasked
  split at executed
  · cases executed
  next needs =>
    rw [needs] at unasked
    simp only at unasked
    split at executed
    · cases executed
    next room =>
      rw [if_neg room] at unasked
      split at executed
      · cases executed
      next approved =>
        rw [approved] at unasked
        simp only at unasked
        rw [claimAndRun_asked] at unasked
        cases unasked
  next allowed => exact allowed

theorem dispatchOne_runs
    (found : run.bindings.find? (fun binding => binding.jsName == jsName) = some binding)
    (allowed : gate (isBuiltinServerId binding.serverId) (binding.serverId == controlMcpServerId)
      (binding.serverId == controlMcpServerId &&
        controlCallNeedsApproval catalog binding.toolName args) run.approvalMode
      (run.autoApproved.contains (binding.serverId, binding.toolName)) = .allow)
    (budget : state.callsUsed < run.caps.maxToolCalls) (session : answers.session = .ok ()) :
    (dispatchOne catalog run jsName args state answers).executed = true ∧
      (dispatchOne catalog run jsName args state answers).asked = false := by
  unfold dispatchOne
  rw [found]
  simp only [allowed]
  unfold claimAndRun
  rw [if_neg (Nat.not_le.mpr budget), session]
  exact ⟨rfl, rfl⟩

end Calls

/-! ### The tools of a run -/

section Bindings

variable {settings : ApprovalSettings} {listTools : Uuid → Option (List String)}
  {servers : List McpServer} {binding : ToolBinding}

theorem foldl_bindTool (tools rest : List RawTool) (bindings : List ToolBinding) :
    ((rest.foldl (bindTool tools) bindings).map fun binding =>
        (binding.serverId, binding.toolName)) =
      (bindings.map fun binding => (binding.serverId, binding.toolName)) ++
        rest.map fun tool => (tool.serverId, tool.toolName) := by
  induction rest generalizing bindings with
  | nil => simp
  | cons tool rest ih =>
    rw [List.foldl_cons, ih]
    simp [bindTool]

theorem buildBindings_tools (tools : List RawTool) :
    ((buildBindings tools).map fun binding => (binding.serverId, binding.toolName)) =
      tools.map fun tool => (tool.serverId, tool.toolName) := by
  rw [buildBindings, foldl_bindTool]
  simp

theorem binding_tool (member : binding ∈ buildBindings (gatherTools listTools servers)) :
    binding.serverId ≠ runJsMcpServerId ∧ ∃ tool ∈ gatherTools listTools servers,
      tool.serverId = binding.serverId ∧ tool.toolName = binding.toolName := by
  have pair : (binding.serverId, binding.toolName) ∈
      (gatherTools listTools servers).map fun tool => (tool.serverId, tool.toolName) := by
    rw [← buildBindings_tools]
    exact List.mem_map_of_mem (f := fun binding : ToolBinding =>
      (binding.serverId, binding.toolName)) member
  obtain ⟨tool, gathered, same⟩ := List.mem_map.mp pair
  obtain ⟨serverId, toolName⟩ := Prod.mk.inj same
  refine ⟨?_, tool, gathered, serverId, toolName⟩
  obtain ⟨server, listed, offered⟩ := List.mem_flatMap.mp gathered
  obtain ⟨name, -, rfl⟩ := List.mem_map.mp offered
  have other := (List.mem_filter.mp listed).2
  rw [← serverId]
  simpa using other

theorem gatherApproved_contains {tools : List RawTool} {tool : RawTool} (member : tool ∈ tools) :
    (gatherApproved settings tools).contains (tool.serverId, tool.toolName) =
      settings.isAutoApproved tool.serverId tool.toolName := by
  rw [Bool.eq_iff_iff, List.contains_iff_mem, gatherApproved, List.mem_map]
  constructor
  · rintro ⟨other, listed, same⟩
    obtain ⟨serverId, toolName⟩ := Prod.mk.inj same
    rw [← serverId, ← toolName]
    exact (List.mem_filter.mp listed).2
  · exact fun approved => ⟨tool, List.mem_filter.mpr ⟨member, approved⟩, rfl⟩

end Bindings

/-! ### Both ladders -/

section Strict

variable (parseStr : String → Option Uuid) (catalog : Option ControlCatalog)
  (settings : ApprovalSettings) (serverId : Uuid) (toolName : String) (args : Json)

/-- **A script does no more than the model may**: in every run, what it executes unasked the chat
would execute unasked. -/
def ScriptStrict : Prop :=
  ∀ (listTools : Uuid → Option (List String)) (servers : List McpServer) (caps : JsCaps)
    (jsName : String) (binding : ToolBinding) (state : DispatchState) (answers : DispatchAnswers),
    (scriptRun settings listTools servers caps).bindings.find?
        (fun binding => binding.jsName == jsName) = some binding →
      binding.serverId = serverId → binding.toolName = toolName →
      (dispatchOne catalog (scriptRun settings listTools servers caps) jsName args state
        answers).executed = true →
      (dispatchOne catalog (scriptRun settings listTools servers caps) jsName args state
        answers).asked = false →
      classify parseStr catalog settings serverId.display toolName args = .toolsToExecute

/-- **The script's gate lets the call through**: the server is trusted; or the conversation is not
disabled and the call only reads from control, or the mode or an allow-list approves it. -/
def LetThrough : Prop :=
  serverId ≠ runJsMcpServerId ∧
    (isBuiltinServerId serverId = true ∨ settings.approvalMode ≠ .disabled ∧
      if serverId = controlMcpServerId then controlCallNeedsApproval catalog toolName args = false
      else settings.approvalMode = .autoApprove ∨
        settings.isAutoApproved serverId toolName = true)

/-- **The chat holds the call back**: the administrator disabled the tool or always asks, or the
call starts a background run or changes the sandbox; and no unattended run may use it. -/
def HeldBack : Prop :=
  settings.adminToolOverrides serverId toolName = some .disabled ∨
    ¬AllowListed settings serverId.display toolName ∧
      (settings.adminToolOverrides serverId toolName = some .manualApprove ∨
        settings.adminToolOverrides serverId toolName = none ∧
          ownNeedsApproval (some serverId) toolName = some true)

end Strict

section Iff

variable {parseStr : String → Option Uuid} {catalog : Option ControlCatalog}
  {settings : ApprovalSettings} {serverId : Uuid} {toolName : String} {args : Json}

theorem gate_allow_iff (catalog : Option ControlCatalog) (settings : ApprovalSettings)
    (serverId : Uuid) (toolName : String) (args : Json) :
    gate (isBuiltinServerId serverId) (serverId == controlMcpServerId)
        (serverId == controlMcpServerId && controlCallNeedsApproval catalog toolName args)
        settings.approvalMode (settings.isAutoApproved serverId toolName) = .allow ↔
      isBuiltinServerId serverId = true ∨ settings.approvalMode ≠ .disabled ∧
        if serverId = controlMcpServerId then controlCallNeedsApproval catalog toolName args = false
        else settings.approvalMode = .autoApprove ∨
          settings.isAutoApproved serverId toolName = true := by
  unfold gate
  cases isBuiltinServerId serverId with
  | true => simp
  | false =>
    by_cases control : serverId = controlMcpServerId
    · cases settings.approvalMode <;> simp [control]
    · cases settings.approvalMode <;> simp [control]

theorem asking_runs_iff : (if settings.unattended then
      if unattendedToolAllowed settings.unattendedAllowed serverId.display toolName then
        .toolsToExecute
      else .toolsDeniedUnattended
    else .toolsNeedingApproval : Classified) = .toolsToExecute ↔
      AllowListed settings serverId.display toolName := by
  unfold AllowListed
  cases settings.unattended <;>
    cases unattendedToolAllowed settings.unattendedAllowed serverId.display toolName <;> simp

/-- **What the chat does with a call that the script's gate lets through.** -/
theorem classify_letThrough (parses : parseStr serverId.display = some serverId)
    (through : LetThrough catalog settings serverId toolName args) :
    classify parseStr catalog settings serverId.display toolName args = .toolsToExecute ↔
      ¬HeldBack settings serverId toolName := by
  obtain ⟨-, through⟩ := through
  have enabled : (!(some serverId).any isBuiltinServerId && settings.approvalMode == .disabled) =
      false := by
    rcases through with builtin | ⟨enabled, -⟩
    · simp [builtin]
    · simp [enabled]
  have overridden : settings.adminOverride (some serverId) toolName =
      settings.adminToolOverrides serverId toolName := rfl
  unfold classify HeldBack
  simp only [parses, enabled, Bool.false_eq_true, if_false, overridden]
  cases word : settings.adminToolOverrides serverId toolName with
  | some admin =>
    cases admin with
    | disabled | autoApprove => simp [resolveToolApproval]
    | manualApprove =>
      simp only [resolveToolApproval]
      rw [asking_runs_iff]
      simp
  | none =>
    -- Without an override the chat asks where the server's own rule does: the gate let it through.
    have asks : bypassNeedsApproval catalog settings (some serverId) toolName args = true ↔
        ownNeedsApproval (some serverId) toolName = some true := by
      unfold bypassNeedsApproval ownNeedsApproval
      by_cases control : serverId = controlMcpServerId
      · subst control
        have reads : controlCallNeedsApproval catalog toolName args = false := by
          rcases through with builtin | ⟨-, reads⟩
          · exact absurd builtin (by decide)
          · rwa [if_pos rfl] at reads
        have background : controlMcpServerId ≠ backgroundMcpServerId := by decide
        have sandbox : controlMcpServerId ≠ codeSandboxServerId := by decide
        simp [reads, background, sandbox]
      · by_cases background : serverId = backgroundMcpServerId
        · subst background
          simp [control]
        · by_cases sandbox : serverId = codeSandboxServerId
          · subst sandbox
            simp [control, background]
          · have regular : isBuiltinServerId serverId = false →
                decideRegularToolApproval settings.approvalMode
                  (settings.isAutoApproved serverId toolName) = .execute := by
              intro foreign
              rcases through with builtin | ⟨-, allowed⟩
              · rw [foreign] at builtin
                cases builtin
              · rw [if_neg control] at allowed
                rcases allowed with auto | approved
                · rw [auto]
                  rfl
                · cases mode : settings.approvalMode with
                  | autoApprove => rfl
                  | manualApprove => simp [decideRegularToolApproval, approved]
                  | disabled => simp [foreign, mode] at enabled
            cases trusted : isBuiltinServerId serverId with
            | true => simp [control, background, sandbox, trusted]
            | false => simp [control, background, sandbox, trusted, regular trusted]
    cases needs : bypassNeedsApproval catalog settings (some serverId) toolName args with
    | false =>
      have calm : ownNeedsApproval (some serverId) toolName ≠ some true := fun own => by
        rw [← asks, needs] at own
        cases own
      simp [resolveToolApproval, calm]
    | true =>
      simp only [resolveToolApproval, if_true]
      rw [asking_runs_iff]
      simp [asks.mp needs]

/-- **A script does no more than the model may** exactly when the chat does not hold back a call
that the script's gate lets through. -/
theorem script_strict_iff (parses : parseStr serverId.display = some serverId) :
    ScriptStrict parseStr catalog settings serverId toolName args ↔
      (LetThrough catalog settings serverId toolName args →
        ¬HeldBack settings serverId toolName) := by
  constructor
  · intro strict through
    rw [← classify_letThrough parses through]
    -- The run with this one tool, and a call of it.
    let listTools : Uuid → Option (List String) := fun _ => some [toolName]
    let servers : List McpServer := [{ id := serverId, name := "server" }]
    let caps : JsCaps := { maxToolCalls := 1, maxApprovals := 0 }
    let binding : ToolBinding := ⟨sanitize toolName, serverId, "server", toolName⟩
    have tools : gatherTools listTools servers =
        [{ serverId := serverId, serverName := "server", toolName := toolName }] := by
      simp [gatherTools, servers, listTools, through.1]
    have bindings : (scriptRun settings listTools servers caps).bindings = [binding] := by
      simp [scriptRun, tools, buildBindings, bindTool, baseName, binding]
    have found : (scriptRun settings listTools servers caps).bindings.find?
        (fun binding => binding.jsName == sanitize toolName) = some binding := by
      rw [bindings]
      simp [binding]
    have approved : (scriptRun settings listTools servers caps).autoApproved.contains
        (serverId, toolName) = settings.isAutoApproved serverId toolName := by
      have only : (⟨serverId, "server", toolName⟩ : RawTool) ∈ gatherTools listTools servers := by
        rw [tools]
        exact List.mem_singleton_self _
      exact gatherApproved_contains only
    have allowed := (gate_allow_iff catalog settings serverId toolName args).mpr through.2
    rw [← approved] at allowed
    let state : DispatchState := { approvalsUsed := 0, callsUsed := 0 }
    let answers : DispatchAnswers := { approval := .approved, session := .ok () }
    have budget : state.callsUsed < caps.maxToolCalls := Nat.zero_lt_one
    have session : answers.session = .ok () := rfl
    obtain ⟨executed, unasked⟩ := dispatchOne_runs found allowed budget session
    exact strict listTools servers caps _ binding state answers found rfl rfl executed unasked
  · rintro held listTools servers caps jsName binding state answers found rfl rfl executed unasked
    have member : binding ∈ buildBindings (gatherTools listTools servers) :=
      List.mem_of_find?_eq_some found
    obtain ⟨other, tool, gathered, server, name⟩ := binding_tool member
    have allowed := dispatchOne_unasked found executed unasked
    have approved : (scriptRun settings listTools servers caps).autoApproved.contains
        (binding.serverId, binding.toolName) =
          settings.isAutoApproved binding.serverId binding.toolName := by
      rw [← server, ← name]
      exact gatherApproved_contains gathered
    rw [approved] at allowed
    have through : LetThrough catalog settings binding.serverId binding.toolName args :=
      ⟨other, (gate_allow_iff catalog settings _ _ args).mp allowed⟩
    exact (classify_letThrough parses through).mpr (held through)

end Iff

/-! ### Two calls -/

/-- One of the servers, by its id. -/
def parseOne (id : Uuid) (text : String) : Option Uuid :=
    if text = id.display then some id else none

theorem script_strict_read : ScriptStrict
    (parseOne codeSandboxServerId) none approveAll codeSandboxServerId "read_file"
    .null := by
  refine (script_strict_iff (if_pos rfl)).mpr fun _ held => ?_
  rcases held with disabled | ⟨-, prompts | ⟨-, own⟩⟩
  · cases disabled
  · cases prompts
  · exact absurd own (by decide)

/-- **A background run that nobody approved**: where the model's own call would ask, the script runs
it. -/
theorem script_spawns_unasked : ¬ScriptStrict (parseOne backgroundMcpServerId) none approveAll
    backgroundMcpServerId "spawn_background" .null := by
  intro strict
  have runs := strict (fun _ => some ["spawn_background"])
    [{ id := backgroundMcpServerId, name := "background" }] { maxToolCalls := 1, maxApprovals := 0 }
    "spawn_background" ⟨"spawn_background", backgroundMcpServerId, "background", "spawn_background"⟩
    { approvalsUsed := 0, callsUsed := 0 } { approval := .denied "", session := .ok () }
    (by rfl) rfl rfl (by rfl) (by rfl)
  have parses : parseOne backgroundMcpServerId backgroundMcpServerId.display =
    some backgroundMcpServerId := if_pos rfl
  unfold classify at runs
  rw [parses] at runs
  exact absurd (congrArg Classified.decision runs) (by decide)

end Ziee.Chat.Approvals
