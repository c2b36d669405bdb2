/-
**The two approval ladders of the chat** (`McpChatExtension::after_llm_call` in
`mcp/chat_extension/mcp.rs`, `ChatApprovalPolicy::decide_pure` in `chat/agent_host/gate.rs`).

Both say of a tool call whether it runs, is denied or waits for the user. The first has an arm each
for the servers of control, of background runs and of the code sandbox; the second one for control
only.

* `classify`, `decidePure` — the two ladders.
* `RulesCoincide` — neither ladder has a rule for the call that the other one lacks.
* `ladders_agree_iff` — **they agree exactly when no forced approval is left out**;
  `spawn_runs_unasked` is one that is.
-/

import Ziee.Agent.Types

namespace Ziee.Chat.Approvals

open Ziee.Agent (Decision Uuid)
open Ziee.Providers (Json)

/-- `Uuid::new_v5` of the URL `files.ziee.internal`, and so on. -/
def filesMcpServerId : Uuid := 0xca77f284c0c351e0ae838e34daa081f6#128
def memoryMcpServerId : Uuid := 0x16e2eeb046ed5588af8ae973349f99a1#128
def elicitationMcpServerId : Uuid := 0x4a8e2b81c1785b68bcd9aeb13dc48fc3#128
def bioMcpServerId : Uuid := 0x23e9b29d60825567a3cb96ffc0adf0e5#128
def webSearchServerId : Uuid := 0xd1a783dc631e570baba6fee5497728b2#128
def toolResultMcpServerId : Uuid := 0x62c47165bcf45dafb7788eff985ac943#128
def litSearchServerId : Uuid := 0x5bf27612ac1b5141985be2e8ac36ca2d#128
def citationsServerId : Uuid := 0x011e52cb2d065e6b8f4c41076519f167#128
def knowledgeBaseServerId : Uuid := 0x70577fd2afe152c7a6299464c01fb1e5#128
def skillMcpServerId : Uuid := 0x82e9cfc4b299538e93db534a1ba14801#128
def runJsMcpServerId : Uuid := 0xb3ece957a23d573e80b2896201e83950#128
def controlMcpServerId : Uuid := 0xd878787eaa485f16a31f673052083f34#128
def backgroundMcpServerId : Uuid := 0x5a84aa8f37c9540d94728db03b461b8b#128
def codeSandboxServerId : Uuid := 0xb4d4e17b55eb56ce9bc5cbc03fd597fd#128

def builtinServerIds : List Uuid :=
  [filesMcpServerId, memoryMcpServerId, elicitationMcpServerId, bioMcpServerId, webSearchServerId,
    toolResultMcpServerId, litSearchServerId, citationsServerId, knowledgeBaseServerId,
    skillMcpServerId, runJsMcpServerId]

def isBuiltinServerId (id : Uuid) : Bool := builtinServerIds.contains id

/-! ### Settings -/

inductive ApprovalMode
  | disabled
  | autoApprove
  | manualApprove
  deriving DecidableEq

structure AutoApprovedServer where
  serverId : Uuid
  tools : List String

def AutoApprovedServer.containsTool (server : AutoApprovedServer) (toolName : String) : Bool :=
  server.tools.contains toolName

structure DisabledServer where
  serverId : Uuid
  tools : List String

def DisabledServer.isToolDisabled (server : DisabledServer) (toolName : String) : Bool :=
  server.tools.isEmpty || server.tools.contains toolName

/-- **What both ladders read.** -/
structure ApprovalSettings where
  approvalMode : ApprovalMode
  convAutoApproved : List AutoApprovedServer
  userAutoApproved : List AutoApprovedServer
  disabledServers : List DisabledServer
  unattended : Bool
  unattendedAllowed : Json
  /-- The administrator's modes, by server and tool. -/
  adminToolOverrides : Uuid → String → Option ApprovalMode

namespace ApprovalSettings

variable (settings : ApprovalSettings)

def isAutoApproved (serverId : Uuid) (toolName : String) : Bool :=
  (settings.convAutoApproved.any fun server =>
      server.serverId == serverId && server.containsTool toolName) ||
    settings.userAutoApproved.any fun server =>
      server.serverId == serverId && server.containsTool toolName

def isDisabled (serverId : Uuid) (toolName : String) : Bool :=
  settings.disabledServers.any fun server =>
    server.serverId == serverId && server.isToolDisabled toolName

def adminOverride (serverId : Option Uuid) (toolName : String) : Option ApprovalMode :=
  serverId.bind fun id => settings.adminToolOverrides id toolName

end ApprovalSettings

/-- `Value::get`. -/
def member (name : String) : Json → Option Json
  | .object members => (members.find? fun entry => entry.1 == name).map Prod.snd
  | _ => none

def asStr : Json → Option String
  | .string text => some text
  | _ => none

/-- `unattended_tool_allowed`, the same in both files. -/
def unattendedToolAllowed (allow : Json) (server toolName : String) : Bool :=
  match allow with
  | .array grants => grants.any fun grant =>
      (member "server_id" grant).bind asStr == some server &&
        (((member "tool_name" grant).bind asStr).map fun tool => tool == toolName).getD true
  | _ => false

/-! ### Calls that ask in any mode -/

/-- Whether an operation of the catalogue is mutating; `none` when it is unknown. -/
abbrev ControlCatalog : Type := String → Option Bool

def controlCallNeedsApproval (catalog : Option ControlCatalog) (toolName : String) (input : Json) :
    Bool :=
  if toolName = "list_capabilities" ∨ toolName = "describe_capability" then false
  else if toolName = "invoke_capability" then
    match (member "operation_id" input).bind asStr with
    | none => true
    | some operation => (catalog.bind fun mutating => mutating operation).getD true
  else true

def backgroundCallNeedsApproval (toolName : String) : Bool :=
  !(toolName == "check_status" || toolName == "collect_result")

def codeSandboxCallNeedsApproval (toolName : String) : Bool :=
  !(toolName == "read_file" || toolName == "list_files" || toolName == "get_resource_link")

/-! ### The first ladder -/

inductive RegularToolDecision
  | execute
  | approve
  deriving DecidableEq

def decideRegularToolApproval (mode : ApprovalMode) (isAutoApproved : Bool) : RegularToolDecision :=
  match mode with
  | .autoApprove => .execute
  | .manualApprove => if isAutoApproved then .execute else .approve
  | .disabled => .approve

inductive ToolApprovalOutcome
  | execute
  | approve
  | denied

def resolveToolApproval (adminOverride : Option ApprovalMode) (bypassNeedsApproval : Bool) :
    ToolApprovalOutcome :=
  match adminOverride with
  | some .disabled => .denied
  | some .manualApprove => .approve
  | some .autoApprove => .execute
  | none => if bypassNeedsApproval then .approve else .execute

inductive Classified
  | toolsDisabled
  | toolsAdminDisabled
  | toolsDeniedUnattended
  | toolsToExecute
  | toolsNeedingApproval

section Ladders

variable (parseStr : String → Option Uuid) (catalog : Option ControlCatalog)
  (settings : ApprovalSettings)

/-- Whether the call asks when there is no admin override. -/
def bypassNeedsApproval (serverId : Option Uuid) (toolName : String) (input : Json) : Bool :=
  if serverId = some controlMcpServerId then controlCallNeedsApproval catalog toolName input
  else if serverId = some backgroundMcpServerId then backgroundCallNeedsApproval toolName
  else if serverId = some codeSandboxServerId then codeSandboxCallNeedsApproval toolName
  else if serverId.any isBuiltinServerId then false
  else
    decideRegularToolApproval settings.approvalMode
      (serverId.any fun id => settings.isAutoApproved id toolName) == .approve

/-- **`after_llm_call`**, the classification of one call. -/
def classify (server toolName : String) (input : Json) : Classified :=
  let serverId := parseStr server
  if !serverId.any isBuiltinServerId && settings.approvalMode == .disabled then .toolsDisabled
  else
    match resolveToolApproval (settings.adminOverride serverId toolName)
        (bypassNeedsApproval catalog settings serverId toolName input) with
    | .denied => .toolsAdminDisabled
    | .execute => .toolsToExecute
    | .approve =>
      if settings.unattended then
        if unattendedToolAllowed settings.unattendedAllowed server toolName then .toolsToExecute
        else .toolsDeniedUnattended
      else .toolsNeedingApproval

/-! ### The second ladder -/

/-- The middle of `decide_pure`: a decision at once, or whether the call asks. -/
def gateNeedsApproval (serverId : Option Uuid) (toolName : String) (input : Json) (trusted : Bool)
    (adminOverride : Option ApprovalMode) : Except Decision Bool :=
  match adminOverride with
  | some .disabled => .error .deny
  | some .autoApprove => .ok false
  | some .manualApprove => .ok true
  | none =>
    if trusted then .error .auto
    else if serverId.any fun id => settings.isDisabled id toolName then .error .deny
    else if serverId = some controlMcpServerId then
      .ok (controlCallNeedsApproval catalog toolName input)
    else match settings.approvalMode with
      | .autoApprove => .ok false
      | .manualApprove => .ok !(serverId.any fun id => settings.isAutoApproved id toolName)
      | .disabled => .error .deny

def decidePure (serverId : Option Uuid) (server toolName : String) (input : Json) (trusted : Bool)
    (adminOverride : Option ApprovalMode) : Decision :=
  if !trusted && settings.approvalMode == .disabled then .deny
  else
    match gateNeedsApproval catalog settings serverId toolName input trusted adminOverride with
    | .error decision => decision
    | .ok false => .auto
    | .ok true =>
      if settings.unattended then
        if unattendedToolAllowed settings.unattendedAllowed server toolName then .auto else .deny
      else .prompt

end Ladders

/-! ### Agreement -/

/-- What becomes of a call in a list. -/
def Classified.decision : Classified → Decision
  | .toolsDisabled | .toolsAdminDisabled | .toolsDeniedUnattended => .deny
  | .toolsToExecute => .auto
  | .toolsNeedingApproval => .prompt

/-- The own rule of the servers that the second ladder does not know. -/
def ownNeedsApproval (serverId : Option Uuid) (toolName : String) : Option Bool :=
  if serverId = some backgroundMcpServerId then some (backgroundCallNeedsApproval toolName)
  else if serverId = some codeSandboxServerId then some (codeSandboxCallNeedsApproval toolName)
  else none

/-- The rule for every other server. -/
def regularNeedsApproval (settings : ApprovalSettings) (serverId : Option Uuid)
    (toolName : String) : Bool :=
  settings.approvalMode == .manualApprove &&
    !serverId.any fun id => settings.isAutoApproved id toolName

/-- An unattended run may use the tool. -/
def AllowListed (settings : ApprovalSettings) (server toolName : String) : Prop :=
  settings.unattended = true ∧
    unattendedToolAllowed settings.unattendedAllowed server toolName = true

def Executes (serverId : Option Uuid) (toolName : String) : Prop :=
  serverId = some backgroundMcpServerId ∧ toolName = "spawn_background" ∨
    serverId = some codeSandboxServerId ∧ toolName ∈ ["execute_command", "write_file", "edit_file"]

section Agreement

variable {parseStr : String → Option Uuid} {catalog : Option ControlCatalog}
  {settings : ApprovalSettings} {server toolName : String} {input : Json}

/-- The second ladder, as the host calls it. -/
def gateDecision (parseStr : String → Option Uuid) (catalog : Option ControlCatalog)
    (settings : ApprovalSettings) (server toolName : String) (input : Json) : Decision :=
  decidePure catalog settings (parseStr server) server toolName input
    ((parseStr server).any isBuiltinServerId) (settings.adminOverride (parseStr server) toolName)

/-- **The ladders agree**, and neither runs an executing call without an administrator's or a task
creator's word. -/
structure LaddersAgree (parseStr : String → Option Uuid) (catalog : Option ControlCatalog)
    (settings : ApprovalSettings) (server toolName : String) (input : Json) : Prop where
  same : (classify parseStr catalog settings server toolName input).decision =
    gateDecision parseStr catalog settings server toolName input
  asked : Executes (parseStr server) toolName →
    (classify parseStr catalog settings server toolName input).decision = .auto ∨
      gateDecision parseStr catalog settings server toolName input = .auto →
    settings.adminOverride (parseStr server) toolName = some .autoApprove ∨
      AllowListed settings server toolName

/-- **No forced approval is left out**: without an admin override, and unless the conversation is
disabled or an unattended run may use the tool anyway, the own rule of the server says what the rule
for every other server says. -/
def RulesCoincide (parseStr : String → Option Uuid) (settings : ApprovalSettings)
    (server toolName : String) : Prop :=
  ∀ own, ownNeedsApproval (parseStr server) toolName = some own →
    settings.adminOverride (parseStr server) toolName = none → settings.approvalMode ≠ .disabled →
    ¬AllowListed settings server toolName →
    own = regularNeedsApproval settings (parseStr server) toolName

def ask (settings : ApprovalSettings) (server toolName : String) (needs : Bool) : Decision :=
  if needs then
    if settings.unattended then
      if unattendedToolAllowed settings.unattendedAllowed server toolName then .auto else .deny
    else .prompt
  else .auto

theorem ask_inj (settings : ApprovalSettings) (server toolName : String) :
    ask settings server toolName true = ask settings server toolName false ↔
      AllowListed settings server toolName := by
  unfold ask AllowListed
  cases settings.unattended <;>
    cases unattendedToolAllowed settings.unattendedAllowed server toolName <;> simp

theorem classify_free (free : settings.adminOverride (parseStr server) toolName = none)
    (enabled : settings.approvalMode ≠ .disabled) :
    (classify parseStr catalog settings server toolName input).decision =
      ask settings server toolName
        (bypassNeedsApproval catalog settings (parseStr server) toolName input) := by
  have mode : (settings.approvalMode == .disabled) = false := by simpa using enabled
  rw [classify, free, mode, Bool.and_false, ask]
  simp only [Bool.false_eq_true, if_false, resolveToolApproval]
  cases bypassNeedsApproval catalog settings (parseStr server) toolName input with
  | false => rfl
  | true =>
    simp only [if_true]
    cases settings.unattended <;>
      cases unattendedToolAllowed settings.unattendedAllowed server toolName <;> rfl

theorem gateDecision_free (free : settings.adminOverride (parseStr server) toolName = none)
    (enabled : settings.approvalMode ≠ .disabled)
    (offered : ∀ id, parseStr server = some id → settings.isDisabled id toolName = false) :
    gateDecision parseStr catalog settings server toolName input = ask settings server toolName
      (if (parseStr server).any isBuiltinServerId then false
        else if parseStr server = some controlMcpServerId then
          controlCallNeedsApproval catalog toolName input
        else regularNeedsApproval settings (parseStr server) toolName) := by
  have mode : (settings.approvalMode == .disabled) = false := by simpa using enabled
  have usable : (parseStr server).any (fun id => settings.isDisabled id toolName) = false := by
    cases parsed : parseStr server with
    | none => rfl
    | some id => exact offered id parsed
  have asks : ∀ needs, (match (Except.ok needs : Except Decision Bool) with
      | .error decision => decision
      | .ok false => Decision.auto
      | .ok true => if settings.unattended then
          if unattendedToolAllowed settings.unattendedAllowed server toolName then .auto else .deny
        else .prompt) = ask settings server toolName needs := by
    intro needs
    cases needs <;> rfl
  rw [gateDecision, decidePure, free, mode, Bool.and_false, gateNeedsApproval]
  simp only [Bool.false_eq_true, if_false, usable]
  by_cases builtin : (parseStr server).any isBuiltinServerId = true
  · simp only [builtin, if_true]
    rfl
  · simp only [builtin, if_false, Bool.false_eq_true]
    by_cases control : parseStr server = some controlMcpServerId
    · rw [if_pos control, if_pos control]
      exact asks _
    · rw [if_neg control, if_neg control, regularNeedsApproval]
      cases different : settings.approvalMode with
      | autoApprove => exact asks false
      | manualApprove => exact asks _
      | disabled => exact absurd different enabled

theorem same_of_override (set : settings.adminOverride (parseStr server) toolName ≠ none) :
    (classify parseStr catalog settings server toolName input).decision =
      gateDecision parseStr catalog settings server toolName input := by
  obtain ⟨mode, overridden⟩ := Option.ne_none_iff_exists'.mp set
  rw [classify, gateDecision, decidePure, overridden]
  unfold gateNeedsApproval
  by_cases denied : (!(parseStr server).any isBuiltinServerId && settings.approvalMode ==
    .disabled) = true
  · rw [if_pos denied, if_pos denied]
    rfl
  · rw [if_neg denied, if_neg denied]
    cases mode with
    | disabled => rfl
    | autoApprove => rfl
    | manualApprove =>
      simp only [resolveToolApproval]
      cases settings.unattended <;>
        cases unattendedToolAllowed settings.unattendedAllowed server toolName <;> rfl

theorem same_of_disabled (disabled : settings.approvalMode = .disabled)
    (free : settings.adminOverride (parseStr server) toolName = none) :
    (classify parseStr catalog settings server toolName input).decision =
      gateDecision parseStr catalog settings server toolName input := by
  rw [classify, gateDecision, decidePure, free, gateNeedsApproval, disabled]
  by_cases builtin : (parseStr server).any isBuiltinServerId = true
  · obtain ⟨id, parsed, member⟩ : ∃ id, parseStr server = some id ∧
      isBuiltinServerId id = true := by
      cases parsed : parseStr server with
      | none =>
        rw [parsed] at builtin
        cases builtin
      | some id => exact ⟨id, rfl, by simpa [parsed] using builtin⟩
    have control : id ≠ controlMcpServerId := by
      rintro rfl
      exact absurd member (by decide)
    have background : id ≠ backgroundMcpServerId := by
      rintro rfl
      exact absurd member (by decide)
    have sandbox : id ≠ codeSandboxServerId := by
      rintro rfl
      exact absurd member (by decide)
    simp [bypassNeedsApproval, parsed, member, control, background, sandbox, resolveToolApproval,
      Classified.decision]
  · simp [builtin, Classified.decision]

theorem ask_congr {needs other : Bool} : ask settings server toolName needs =
    ask settings server toolName other ↔ (¬AllowListed settings server toolName →
      needs = other) := by
  have both := ask_inj settings server toolName
  cases needs <;> cases other
  · simp
  · rw [eq_comm, both]
    simp
  · rw [both]
    simp
  · simp

/-- **The same decision** exactly when no forced approval is left out. -/
theorem same_iff (catalog : Option ControlCatalog) (input : Json)
    (offered : ∀ id, parseStr server = some id → settings.isDisabled id toolName = false) :
    (classify parseStr catalog settings server toolName input).decision =
        gateDecision parseStr catalog settings server toolName input ↔
      RulesCoincide parseStr settings server toolName := by
  by_cases free : settings.adminOverride (parseStr server) toolName = none
  swap
  · exact iff_of_true (same_of_override free) fun own _ none => absurd none free
  by_cases disabled : settings.approvalMode = .disabled
  · exact iff_of_true (same_of_disabled disabled free) fun own _ _ enabled =>
      absurd disabled enabled
  rw [classify_free free disabled, gateDecision_free free disabled offered, ask_congr]
  have regular : (decideRegularToolApproval settings.approvalMode
      ((parseStr server).any fun id => settings.isAutoApproved id toolName) == .approve) =
      regularNeedsApproval settings (parseStr server) toolName := by
    rw [regularNeedsApproval]
    cases mode : settings.approvalMode with
    | disabled => exact absurd mode disabled
    | autoApprove => rfl
    | manualApprove =>
      cases (parseStr server).any fun id => settings.isAutoApproved id toolName <;> rfl
  unfold RulesCoincide bypassNeedsApproval
  rw [regular]
  have other : ∀ {id}, parseStr server = some id → isBuiltinServerId id = false →
      (parseStr server).any isBuiltinServerId = false := by
    intro id parsed foreign
    rw [parsed]
    exact foreign
  by_cases control : parseStr server = some controlMcpServerId
  · have none : ownNeedsApproval (parseStr server) toolName = none := by
      rw [control]
      rfl
    rw [if_pos control, if_pos control, other control (by decide), none]
    simp
  by_cases background : parseStr server = some backgroundMcpServerId
  · have own : ownNeedsApproval (parseStr server) toolName =
        some (backgroundCallNeedsApproval toolName) := if_pos background
    rw [if_neg control, if_pos background, other background (by decide), own]
    simp [control, free, disabled]
  by_cases sandbox : parseStr server = some codeSandboxServerId
  · have own : ownNeedsApproval (parseStr server) toolName =
        some (codeSandboxCallNeedsApproval toolName) := (if_neg background).trans (if_pos sandbox)
    rw [if_neg control, if_neg background, if_pos sandbox, other sandbox (by decide), own]
    simp [control, free, disabled]
  · have none : ownNeedsApproval (parseStr server) toolName = none :=
      (if_neg background).trans (if_neg sandbox)
    simp [control, background, sandbox, none]

theorem allowListed_of_runs (runs : (if settings.unattended then
      if unattendedToolAllowed settings.unattendedAllowed server toolName then .toolsToExecute
      else .toolsDeniedUnattended
    else .toolsNeedingApproval : Classified).decision = .auto) :
    AllowListed settings server toolName := by
  unfold AllowListed
  split at runs
  next unattended =>
    split at runs
    next allowed => exact ⟨unattended, allowed⟩
    next => cases runs
  next => cases runs

theorem classify_asked (executes : Executes (parseStr server) toolName)
    (runs : (classify parseStr catalog settings server toolName input).decision = .auto) :
    settings.adminOverride (parseStr server) toolName = some .autoApprove ∨
      AllowListed settings server toolName := by
  have asks : bypassNeedsApproval catalog settings (parseStr server) toolName input = true := by
    unfold bypassNeedsApproval
    rcases executes with ⟨background, rfl⟩ | ⟨sandbox, tool⟩
    · rw [background]
      rfl
    · rw [sandbox]
      simp only [List.mem_cons, List.not_mem_nil, or_false] at tool
      rcases tool with rfl | rfl | rfl <;> rfl
  rw [classify, asks] at runs
  split at runs
  · cases runs
  · cases mode : settings.adminOverride (parseStr server) toolName with
    | some mode' =>
      rw [mode] at runs
      cases mode' with
      | autoApprove => exact .inl rfl
      | disabled => cases runs
      | manualApprove => exact .inr (allowListed_of_runs runs)
    | none =>
      rw [mode] at runs
      exact .inr (allowListed_of_runs runs)

/-- **The ladders agree** exactly when no forced approval is left out. -/
theorem ladders_agree_iff
    (offered : ∀ id, parseStr server = some id → settings.isDisabled id toolName = false) :
    LaddersAgree parseStr catalog settings server toolName input ↔
      RulesCoincide parseStr settings server toolName := by
  rw [← same_iff catalog input offered]
  constructor
  · exact LaddersAgree.same
  · intro same
    refine ⟨same, fun executes runs => ?_⟩
    rw [← same, or_self] at runs
    exact classify_asked executes runs

end Agreement

/-! ### Two calls -/

def approveAll : ApprovalSettings :=
  ⟨.autoApprove, [], [], [], false, .array [], fun _ _ => none⟩

def parseTwo (text : String) : Option Uuid :=
  if text = "b4d4e17b-55eb-56ce-9bc5-cbc03fd597fd" then some codeSandboxServerId
  else if text = "5a84aa8f-37c9-540d-9472-8db03b461b8b" then some backgroundMcpServerId
  else none

theorem ladders_agree_read : LaddersAgree parseTwo none approveAll
    "b4d4e17b-55eb-56ce-9bc5-cbc03fd597fd" "read_file" .null := by
  refine (ladders_agree_iff fun id _ => rfl).mpr fun own rule _ _ _ => ?_
  have reads : ownNeedsApproval (parseTwo "b4d4e17b-55eb-56ce-9bc5-cbc03fd597fd") "read_file" =
    some false := by decide
  rw [reads] at rule
  rw [← Option.some.inj rule]
  rfl

/-- **A background run that nobody approved**: the first ladder asks, the second one runs it. -/
theorem spawn_runs_unasked :
    (classify parseTwo none approveAll "5a84aa8f-37c9-540d-9472-8db03b461b8b" "spawn_background"
        .null).decision = .prompt ∧
      gateDecision parseTwo none approveAll "5a84aa8f-37c9-540d-9472-8db03b461b8b"
        "spawn_background" .null = .auto ∧
      ¬LaddersAgree parseTwo none approveAll "5a84aa8f-37c9-540d-9472-8db03b461b8b"
        "spawn_background" .null := by
  have asks : (classify parseTwo none approveAll "5a84aa8f-37c9-540d-9472-8db03b461b8b"
      "spawn_background" .null).decision = .prompt := by decide
  have runs : gateDecision parseTwo none approveAll "5a84aa8f-37c9-540d-9472-8db03b461b8b"
      "spawn_background" .null = .auto := by decide
  refine ⟨asks, runs, fun agree => ?_⟩
  have same := agree.same
  rw [asks, runs] at same
  cases same

end Ziee.Chat.Approvals
