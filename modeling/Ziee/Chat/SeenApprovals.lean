/-
**What an approval authorises** (`ChatApprovalPolicy::decide` and `ChatHumanGate::request` in
`chat/agent_host/gate.rs`, `execute_approved_tools_sync` in `mcp/chat_extension/mcp.rs`).

The policy finds the approved row of a call by the tool use id, which the model provider chooses,
and deletes the row to claim it; only who deletes it runs the call. Passes run concurrently, and
each of their statements may fail.

* `ApprovalWorld` — the rows, the passes over them, and what was run on account of a row.
* **`approvals_held`** — ids used once, every run keeps `ApprovalsHeld`; `changed_input_runs` is one
  that does not.
-/

import Ziee.Chat.ApprovalLadders
import Ziee.Chat.ApprovalRows
import Ziee.Library.Framing
import Ziee.Library.Prefixes

namespace Ziee.Chat.Approvals

open Prefixes
open Ziee.Agent (Decision ToolCall Uuid)
open Ziee.Providers (Json)
open Ziee.Scheduler (AppError)

/-- `split_server_tool`: the server's text and the tool's own name. -/
def splitServerTool (call : ToolCall) : String × String :=
  match call.server with
  | some server => (server, call.name)
  | none =>
    match Framing.cut "__".toList call.name.toList with
    | some (server, tool) => (String.ofList server, String.ofList tool)
    | none => ("", call.name)

structure Servers where
  parseStr : String → Option Uuid
  resolveToolServer : String → Option Uuid
  /-- The enabled servers that list a tool of this name. -/
  advertising : String → List Uuid
  /-- The name in the server's row. -/
  getAnyServer : Uuid → Except AppError (Option String)

namespace Servers

variable (servers : Servers) (call : ToolCall)

/-- `resolve_bare_tool_server`: a name of more than one server is not resolved. -/
def resolveBareToolServer (toolName : String) : Option Uuid :=
  match servers.advertising toolName with
  | [id] => some id
  | _ => none

def serverId : Option Uuid :=
  let (server, toolName) := splitServerTool call
  match servers.parseStr server with
  | some id => some id
  | none =>
    match if server.isEmpty then none else servers.resolveToolServer server with
    | some id => some id
    | none => servers.resolveBareToolServer toolName

def serverName : Except AppError String :=
  match servers.serverId call with
  | none => .ok (splitServerTool call).1
  | some id => (servers.getAnyServer id).map fun name => name.getD id.display

/-- The row that `ChatHumanGate::request` asks for. -/
def newApproval : Except AppError NewToolApproval :=
  (servers.serverName call).map fun serverName =>
    ⟨call.id, (splitServerTool call).2, call.input, servers.serverId call, serverName⟩

structure SameCall (row : ToolUseApproval) : Prop where
  server : row.serverId = servers.serverId call
  tool : row.toolName = (splitServerTool call).2
  input : row.toolInput = call.input

variable {status : ApprovalStatus} {branch : Uuid} {deletion : Deletion}

theorem SameCall.of_same {servers : Servers} {call : ToolCall} {row other : ToolUseApproval}
    (seen : servers.SameCall call other) (same : row.SameRow other) : servers.SameCall call row :=
  ⟨same.server.trans seen.server, same.tool.trans seen.tool, same.input.trans seen.input⟩

end Servers

/-! ### Passes -/

structure ChatApprovalPolicy where
  branchId : Uuid
  settings : ApprovalSettings

/-- How far a call of `decide` has come. -/
inductive Phase
  | reading
  | claiming (row : ToolUseApproval)
  | judging
  | decided (decision : Decision)
  /-- The request is gone. -/
  | dropped

structure Pass where
  policy : ChatApprovalPolicy
  call : ToolCall
  trusted : Bool
  servers : Servers
  phase : Phase

def Pass.held (pass : Pass) : Option ToolUseApproval :=
  match pass.phase with
  | .claiming row => some row
  | _ => none

/-- What was run on account of a row. -/
structure Authorisation where
  row : ToolUseApproval
  serverId : Option Uuid
  toolName : String
  toolInput : Json

structure ApprovalWorld where
  table : ApprovalTable
  passes : List Pass
  /-- The rows that each run of `execute_approved_tools_sync` has yet to claim. -/
  resumptions : List (List ToolUseApproval)
  authorised : List Authorisation

/-- A `DELETE` is done, or it is done and its answer is lost, or it is not done. -/
inductive Deletion
  | answered
  | lost
  | failed

inductive ApprovalOp
  | request (branch message : Uuid) (servers : Servers) (call : ToolCall) (now : Int)
  | approve (toolUseId : String) (branch : Uuid)
  | deny (toolUseId : String) (branch : Uuid)
  | cancel (branch : Uuid)
  /-- Rows of denied calls and of deleted messages. -/
  | delete (keep : ToolUseApproval → Bool)
  | decide (policy : ChatApprovalPolicy) (call : ToolCall) (trusted : Bool) (servers : Servers)
  | readApproved (pass : Nat) (answered : Bool)
  | claim (pass : Nat) (deletion : Deletion)
  | judge (pass : Nat) (answered : Bool)
  | resume (branch : Uuid)
  | claimNext (resumption : Nat) (deletion : Deletion)
  | dropPass (pass : Nat)
  /-- A final result, or the request is gone. -/
  | endResumption (resumption : Nat)

/-- The claim of a row, and whether it is known to be won. -/
def ApprovalTable.consume (table : ApprovalTable) (row : ToolUseApproval) :
    Deletion → ApprovalTable × Bool
  | .answered => table.deleteToolApproval row.toolUseId row.messageId
  | .lost => ((table.deleteToolApproval row.toolUseId row.messageId).1, false)
  | .failed => (table, false)

namespace ApprovalWorld

variable (catalog : Option ControlCatalog)

def start : ApprovalWorld := ⟨.empty, [], [], []⟩

def setPhase (world : ApprovalWorld) (number : Nat) (pass : Pass) (phase : Phase) : ApprovalWorld :=
  { world with passes := world.passes.set number { pass with phase } }

/-- The end of `decide`: a denied row, then the settings. -/
def judged (world : ApprovalWorld) (pass : Pass) (answered : Bool) : Decision :=
  if answered then
    if (world.table.ofBranch .denied pass.policy.branchId).any fun row =>
        row.toolUseId == pass.call.id then .deny
    else
      let (server, toolName) := splitServerTool pass.call
      let serverId := pass.servers.parseStr server
      decidePure catalog pass.policy.settings serverId server toolName pass.call.input pass.trusted
        (pass.policy.settings.adminOverride serverId toolName)
  else .prompt

/-- **One step** of a pass of `decide`. -/
def stepPass (world : ApprovalWorld) (number : Nat) (pass : Pass) : ApprovalOp → ApprovalWorld
  | .readApproved _ answered =>
    match pass.phase with
    | .reading =>
      match if answered then (world.table.ofBranch .approved pass.policy.branchId).find? fun row =>
          row.toolUseId == pass.call.id else none with
      | some row => world.setPhase number pass (.claiming row)
      | none => world.setPhase number pass .judging
    | _ => world
  | .claim _ deletion =>
    match pass.phase with
    | .claiming row =>
      let (table, won) := world.table.consume row deletion
      if won then
        { world.setPhase number pass (.decided .auto) with
          table
          authorised := world.authorised ++ [⟨row, pass.servers.serverId pass.call,
            (splitServerTool pass.call).2, pass.call.input⟩] }
      else { world.setPhase number pass .judging with table }
    | _ => world
  | .judge _ answered =>
    match pass.phase with
    | .judging => world.setPhase number pass (.decided (world.judged catalog pass answered))
    | _ => world
  | _ => world

def step (world : ApprovalWorld) (op : ApprovalOp) : ApprovalWorld :=
  match op with
  | .request branch message servers call now =>
    match servers.newApproval call with
    | .ok item =>
      match world.table.createToolApprovals branch message now [item] with
      | .ok (table, _) => { world with table }
      | .error _ => world
    | .error _ => world
  | .approve toolUseId branch =>
    match world.table.approveToolUse toolUseId branch with
    | .ok table => { world with table }
    | .error _ => world
  | .deny toolUseId branch =>
    match world.table.denyToolUse toolUseId branch with
    | .ok table => { world with table }
    | .error _ => world
  | .cancel branch => { world with table := world.table.cancelPendingApprovals branch }
  | .delete keep => { world with table := world.table.retain keep }
  | .decide policy call trusted servers =>
    { world with passes := world.passes ++ [⟨policy, call, trusted, servers, .reading⟩] }
  | .readApproved number _ | .claim number _ | .judge number _ =>
    match world.passes[number]? with
    | some pass => world.stepPass catalog number pass op
    | none => world
  | .resume branch =>
    { world with resumptions := world.resumptions ++ [world.table.ofBranch .approved branch] }
  | .claimNext number deletion =>
    match world.resumptions[number]? with
    | some (row :: rows) =>
      let (table, won) := world.table.consume row deletion
      { world with
        table
        resumptions := world.resumptions.set number rows
        authorised := if won then
          world.authorised ++ [⟨row, row.serverId, row.toolName, row.toolInput⟩]
          else world.authorised }
    | _ => world
  | .dropPass number =>
    match world.passes[number]? with
    | some pass => world.setPhase number pass .dropped
    | none => world
  | .endResumption number => { world with resumptions := world.resumptions.set number [] }

def run (world : ApprovalWorld) (ops : List ApprovalOp) : ApprovalWorld :=
  ops.foldl (step catalog) world

/-- The rows that a pass has read and not yet claimed. -/
def held (world : ApprovalWorld) : List ToolUseApproval :=
  world.passes.filterMap Pass.held ++ world.resumptions.flatten

end ApprovalWorld

/-! ### What is promised -/

/-- What was run is what the row was asked for. -/
structure Authorisation.Seen (authorisation : Authorisation) : Prop where
  server : authorisation.serverId = authorisation.row.serverId
  tool : authorisation.toolName = authorisation.row.toolName
  input : authorisation.toolInput = authorisation.row.toolInput

/-- **A row runs what it was asked for, and once.** -/
structure ApprovalsHeld (world : ApprovalWorld) : Prop where
  seen : ∀ authorisation ∈ world.authorised, authorisation.Seen
  once : (world.authorised.map fun authorisation => authorisation.row.id).Nodup

/-- **A tool use id is used again only when nothing of the earlier call is left**: a call that is to
be decided finds no row of another call with its id in its branch, and the row of a call that is
asked for meets no other call with its id that is about to read, and no pass that is about to claim
a row of its message with this id. -/
def IdsApart (world : ApprovalWorld) : ApprovalOp → Prop
  | .decide policy call _ servers =>
    ∀ row ∈ world.table.rows, row.branchId = policy.branchId → row.toolUseId = call.id →
      servers.SameCall call row
  | .request branch message servers call _ =>
    (∀ pass ∈ world.passes, pass.phase = .reading → pass.policy.branchId = branch →
        pass.call.id = call.id → pass.servers.serverId pass.call = servers.serverId call ∧
          (splitServerTool pass.call).2 = (splitServerTool call).2 ∧ pass.call.input = call.input) ∧
      ∀ row ∈ world.held, row.key ≠ (message, call.id)
  | _ => True

/-! ### The invariant -/

structure Pass.Informed (table : ApprovalTable) (pass : Pass) : Prop where
  reading : pass.phase = .reading → ∀ row ∈ table.rows, row.branchId = pass.policy.branchId →
    row.toolUseId = pass.call.id → pass.servers.SameCall pass.call row
  claiming : ∀ row, pass.phase = .claiming row → pass.servers.SameCall pass.call row

structure Held (table : ApprovalTable) (row : ToolUseApproval) : Prop where
  old : row.id < table.next
  alone : ∀ other ∈ table.rows, other.key = row.key → other.id = row.id

/-- A row that was run is what it was asked for, and is no more. -/
structure Spent (table : ApprovalTable) (authorisation : Authorisation) : Prop where
  seen : authorisation.Seen
  old : authorisation.row.id < table.next
  gone : ∀ other ∈ table.rows, other.id ≠ authorisation.row.id

structure Kept (world : ApprovalWorld) : Prop where
  passes : ∀ pass ∈ world.passes, pass.Informed world.table
  held : ∀ row ∈ world.held, Held world.table row
  spent : ∀ authorisation ∈ world.authorised, Spent world.table authorisation
  once : (world.authorised.map fun authorisation => authorisation.row.id).Nodup

theorem Kept.approvalsHeld {world : ApprovalWorld} (kept : Kept world) : ApprovalsHeld world :=
  ⟨fun authorisation member => (kept.spent authorisation member).seen, kept.once⟩

theorem kept_start : Kept .start :=
  ⟨by simp [ApprovalWorld.start], by simp [ApprovalWorld.start, ApprovalWorld.held],
    by simp [ApprovalWorld.start], List.nodup_nil⟩

section Tables

variable {table after : ApprovalTable} {pass : Pass} {row : ToolUseApproval}
  {authorisation : Authorisation}

/-- Every row of a table was in the other one, for the same call, and no number was given out. -/
structure Within (after table : ApprovalTable) : Prop where
  next : after.next = table.next
  old : ∀ row ∈ after.rows, ∃ other ∈ table.rows, row.SameRow other

theorem within_refl (table : ApprovalTable) : Within table table :=
  ⟨rfl, fun row member => ⟨row, member, .refl row⟩⟩

theorem within_update (change : ToolUseApproval → Bool) (status : ApprovalStatus) :
    Within (table.update change status) table := ⟨rfl, fun _ => ApprovalTable.mem_update⟩

theorem within_retain (keep : ToolUseApproval → Bool) : Within (table.retain keep) table :=
  ⟨rfl, fun row member => ⟨row, (List.mem_filter.mp member).1, .refl row⟩⟩

theorem within_consume (row : ToolUseApproval) (deletion : Deletion) :
    Within (table.consume row deletion).1 table := by
  cases deletion with
  | answered | lost => exact within_retain _
  | failed => exact within_refl table

theorem within_settle {toolUseId : String}
    (done : table.settle status toolUseId branch = .ok after) : Within after table :=
  ⟨ApprovalTable.next_settle done, fun _ => ApprovalTable.mem_settle done⟩

theorem Pass.Informed.within (informed : pass.Informed table) (within : Within after table) :
    pass.Informed after := by
  refine ⟨fun reading row member branch id => ?_, informed.claiming⟩
  obtain ⟨old, here, same⟩ := within.old row member
  have known := informed.reading reading old here (same.branch.symm.trans branch)
    ((Prod.ext_iff.mp same.key).2.symm.trans id)
  exact known.of_same same

theorem Held.within (held : Held table row) (within : Within after table) : Held after row := by
  refine ⟨within.next ▸ held.old, fun other member key => ?_⟩
  obtain ⟨old, here, same⟩ := within.old other member
  exact same.id.trans (held.alone old here (same.key.symm.trans key))

theorem Spent.within (spent : Spent table authorisation) (within : Within after table) :
    Spent after authorisation := by
  refine ⟨spent.seen, within.next ▸ spent.old, fun other member => ?_⟩
  obtain ⟨old, here, same⟩ := within.old other member
  exact same.id ▸ spent.gone old here

/-- **A claim that is won** takes the row that is held, out of the table. -/
theorem Held.won (held : Held table row)
    (won : (table.consume row deletion).2 = true) : (∃ other ∈ table.rows, other.id = row.id) ∧
      ∀ other ∈ (table.consume row deletion).1.rows, other.id ≠ row.id := by
  cases deletion with
  | lost | failed => cases won
  | answered =>
    obtain ⟨taken, here, key⟩ := ApprovalTable.delete_won.mp won
    have number := held.alone taken here key
    refine ⟨⟨taken, here, number⟩, fun other member same => ?_⟩
    obtain ⟨old, different⟩ := ApprovalTable.mem_delete.mp member
    have one := table.eq_of_id old here (same.trans number.symm)
    exact different (one ▸ key)

end Tables

/-! ### Every step keeps it -/

section Steps

variable {catalog : Option ControlCatalog} {world : ApprovalWorld} {pass : Pass} {number : Nat}
  {phase : Phase} {table : ApprovalTable} {row : ToolUseApproval}

theorem Kept.within (kept : Kept world) (within : Within table world.table) :
    Kept { world with table } :=
  ⟨fun pass member => (kept.passes pass member).within within,
    fun row member => (kept.held row member).within within,
    fun authorisation member => (kept.spent authorisation member).within within, kept.once⟩

theorem held_setPhase (member : row ∈ (world.setPhase number pass phase).held) :
    row ∈ world.held ∨ phase = .claiming row := by
  rcases List.mem_append.mp member with passing | resuming
  · obtain ⟨other, here, holds⟩ := List.mem_filterMap.mp passing
    rcases List.mem_or_eq_of_mem_set here with old | rfl
    · exact .inl (List.mem_append_left _ (List.mem_filterMap.mpr ⟨other, old, holds⟩))
    · refine .inr ?_
      unfold Pass.held at holds
      split at holds
      next claimed same =>
        cases holds
        exact same
      next => cases holds
  · exact .inl (List.mem_append_right _ resuming)

theorem Kept.setPhase (kept : Kept world) (number : Nat)
    (informed : ({ pass with phase } : Pass).Informed world.table)
    (holds : ∀ row, phase = .claiming row → Held world.table row) :
    Kept (world.setPhase number pass phase) := by
  refine ⟨fun other member => ?_, fun row member => ?_, kept.spent, kept.once⟩
  · rcases List.mem_or_eq_of_mem_set member with old | rfl
    · exact kept.passes other old
    · exact informed
  · exact (held_setPhase member).elim (kept.held row) (holds row)

theorem Kept.setIdle (kept : Kept world) (number : Nat) (pass : Pass) (idle : phase ≠ .reading)
    (free : ∀ row, phase ≠ .claiming row) : Kept (world.setPhase number pass phase) :=
  kept.setPhase number ⟨fun reading => absurd reading idle, fun row claims =>
    absurd claims (free row)⟩
    fun row claims => absurd claims (free row)

/-- **A row that is claimed runs its own call.** -/
theorem Kept.authorise (kept : Kept world) (holds : Held world.table row)
    (won : (world.table.consume row deletion).2 = true) {authorisation : Authorisation}
    (own : authorisation.row = row) (seen : authorisation.Seen) : Kept { world with
      table := (world.table.consume row deletion).1
      authorised := world.authorised ++ [authorisation] } := by
  have within : Within (world.table.consume row deletion).1 world.table :=
    within_consume row deletion
  have after := kept.within within
  obtain ⟨⟨taken, here, taken_id⟩, gone⟩ := holds.won won
  have old := (holds.within within).old
  refine ⟨after.passes, after.held, fun other member => ?_, ?_⟩
  · rcases List.mem_append.mp member with earlier | new
    · exact after.spent other earlier
    · rw [List.mem_singleton.mp new]
      exact ⟨seen, own ▸ old, own ▸ gone⟩
  · -- what was run before is not in the table, the row is
    rw [List.map_append, List.nodup_append]
    refine ⟨kept.once, List.nodup_singleton _, fun id first other second same => ?_⟩
    obtain ⟨earlier, member, rfl⟩ := List.mem_map.mp first
    rw [List.map_singleton, List.mem_singleton, own] at second
    exact (kept.spent earlier member).gone taken here (taken_id.trans (second ▸ same.symm))

theorem Kept.request (kept : Kept world) {message : Uuid} {servers : Servers}
    {call : ToolCall} {now : Int} {item : NewToolApproval} {created : List ToolUseApproval}
    (apart : IdsApart world (.request branch message servers call now))
    (asked : servers.newApproval call = .ok item)
    (done : world.table.createToolApprovals branch message now [item] = .ok (table, created)) :
    Kept { world with table } := by
  obtain ⟨reading, holding⟩ := apart
  obtain ⟨-, next, -⟩ := ApprovalTable.create_ok done
  have new : ∀ row ∈ table.rows, row ∈ world.table.rows ∨
      ∃ id, world.table.next ≤ id ∧ row = item.row branch message now id := by
    intro row member
    rcases ApprovalTable.mem_create done member with old | ⟨one, here, id, bound, same⟩
    · exact .inl old
    · exact .inr ⟨id, bound, List.mem_singleton.mp here ▸ same⟩
  obtain ⟨id, tool, input, server⟩ : item.toolUseId = call.id ∧
      item.toolName = (splitServerTool call).2 ∧ item.toolInput = call.input ∧
        item.serverId = servers.serverId call := by
    rw [Servers.newApproval] at asked
    cases named : servers.serverName call with
    | error error =>
      rw [named] at asked
      cases asked
    | ok name =>
      rw [named] at asked
      cases asked
      exact ⟨rfl, rfl, rfl, rfl⟩
  refine ⟨fun pass member => ⟨?_, (kept.passes pass member).claiming⟩, fun row member => ⟨?_, ?_⟩,
    fun authorisation member => ⟨(kept.spent authorisation member).seen, ?_, ?_⟩, kept.once⟩
  · intro reads row here sameBranch sameId
    rcases new row here with old | ⟨number, -, rfl⟩
    · exact (kept.passes pass member).reading reads row old sameBranch sameId
    · obtain ⟨sameServer, sameTool, sameInput⟩ := reading pass member reads sameBranch.symm
        (id.symm.trans sameId).symm
      exact ⟨server.trans sameServer.symm, tool.trans sameTool.symm, input.trans sameInput.symm⟩
  · have := (kept.held row member).old
    show row.id < table.next
    omega
  · intro other here key
    rcases new other here with old | ⟨number, -, rfl⟩
    · exact (kept.held row member).alone other old key
    · refine absurd key.symm ?_
      have other := holding row member
      rwa [← id] at other
  · have := (kept.spent authorisation member).old
    show authorisation.row.id < table.next
    omega
  · intro other here
    rcases new other here with old | ⟨number, bound, rfl⟩
    · exact (kept.spent authorisation member).gone other old
    · have := (kept.spent authorisation member).old
      show number ≠ authorisation.row.id
      omega

theorem held_of_mem (member : row ∈ world.table.ofBranch status branch) : Held world.table row := by
  obtain ⟨here, -⟩ := ApprovalTable.mem_ofBranch.mp member
  refine ⟨world.table.fresh row here, fun other there key => ?_⟩
  rw [List.inj_on_of_nodup_map world.table.unique there here key]

theorem Kept.stepPass (kept : Kept world) (here : world.passes[number]? = some pass)
    (op : ApprovalOp) : Kept (world.stepPass catalog number pass op) := by
  have member : pass ∈ world.passes := List.mem_of_getElem? here
  have informed := kept.passes pass member
  unfold ApprovalWorld.stepPass
  split
  next answered =>
    cases at' : pass.phase with
    | reading =>
      dsimp only
      split
      next row found =>
        -- the row is one of the branch for this id
        split at found
        · have approved := List.mem_of_find?_eq_some found
          have id := List.find?_some found
          obtain ⟨there, branch, -⟩ := ApprovalTable.mem_ofBranch.mp approved
          have same := informed.reading at' row there branch (beq_iff_eq.mp id)
          refine kept.setPhase number ⟨fun reading => Phase.noConfusion reading, ?_⟩ ?_
          · intro other claims
            cases claims
            exact same
          · intro other claims
            cases claims
            exact held_of_mem approved
        · cases found
      next => exact kept.setIdle number pass (by simp) (by simp)
    | claiming | judging | decided | dropped => exact kept
  next deletion =>
    cases at' : pass.phase with
    | claiming row =>
      have holds : Held world.table row := by
        refine kept.held row (List.mem_append_left _ (List.mem_filterMap.mpr ⟨pass, member, ?_⟩))
        rw [Pass.held, at']
      dsimp only
      split
      next won =>
        have same := informed.claiming row at'
        have idle : Kept (world.setPhase number pass (.decided .auto)) :=
          kept.setIdle number pass (by simp) (by simp)
        exact idle.authorise holds won rfl ⟨same.server.symm, same.tool.symm, same.input.symm⟩
      next =>
        have idle : Kept (world.setPhase number pass .judging) :=
          kept.setIdle number pass (by simp) (by simp)
        exact idle.within (within_consume row deletion)
    | reading | judging | decided | dropped => exact kept
  next answered =>
    cases at' : pass.phase with
    | judging => exact kept.setIdle number pass (by simp) (by simp)
    | reading | claiming | decided | dropped => exact kept
  next => exact kept

theorem Kept.endResumption (kept : Kept world) (number : Nat) (rows : List ToolUseApproval)
    (left : ∀ row ∈ rows, Held world.table row) :
    Kept { world with resumptions := world.resumptions.set number rows } := by
  refine ⟨kept.passes, fun row member => ?_, kept.spent, kept.once⟩
  rcases List.mem_append.mp member with passing | resuming
  · exact kept.held row (List.mem_append_left _ passing)
  · obtain ⟨some, here, inside⟩ := List.mem_flatten.mp resuming
    rcases List.mem_or_eq_of_mem_set here with old | rfl
    · exact kept.held row (List.mem_append_right _ (List.mem_flatten.mpr ⟨some, old, inside⟩))
    · exact left row inside

/-- **A step keeps it**, when a tool use id is not used again too early. -/
theorem Kept.step (kept : Kept world) {op : ApprovalOp} (apart : IdsApart world op) :
    Kept (world.step catalog op) := by
  unfold ApprovalWorld.step
  cases op with
  | request branch message servers call now =>
    dsimp only
    split
    next item asked =>
      split
      next table created done => exact kept.request apart asked done
      next => exact kept
    next => exact kept
  | approve | deny =>
    dsimp only
    split
    next table done => exact kept.within (within_settle done)
    next => exact kept
  | cancel branch => exact kept.within (within_update _ _)
  | delete keep => exact kept.within (within_retain keep)
  | decide policy call trusted servers =>
    refine ⟨fun pass member => ?_, fun row member => kept.held row ?_, kept.spent, kept.once⟩
    · rcases List.mem_append.mp member with old | new
      · exact kept.passes pass old
      · rw [List.mem_singleton.mp new]
        exact ⟨fun _ => apart, nofun⟩
    · simpa [ApprovalWorld.held, Pass.held] using member
  | readApproved | claim | judge =>
    dsimp only
    split
    next pass here => exact kept.stepPass here _
    next => exact kept
  | resume branch =>
    refine ⟨kept.passes, fun row member => ?_, kept.spent, kept.once⟩
    rw [ApprovalWorld.held, List.flatten_append, ← List.append_assoc] at member
    rcases List.mem_append.mp member with old | new
    · exact kept.held row old
    · rw [List.flatten_singleton] at new
      exact held_of_mem new
  | claimNext number deletion =>
    dsimp only
    split
    next row rows here =>
      have listed : row :: rows ∈ world.resumptions := List.mem_of_getElem? here
      have holds : ∀ other ∈ row :: rows, Held world.table other := fun other member =>
        kept.held other (List.mem_append_right _ (List.mem_flatten.mpr ⟨_, listed, member⟩))
      have rest := kept.endResumption number rows fun other member =>
        holds other (List.mem_cons_of_mem _ member)
      split
      next won => exact rest.authorise (holds row List.mem_cons_self) won rfl ⟨rfl, rfl, rfl⟩
      next => exact rest.within (within_consume row deletion)
    next => exact kept
  | dropPass number =>
    dsimp only
    split
    next pass here => exact kept.setIdle number pass (by simp) (by simp)
    next => exact kept
  | endResumption number => exact kept.endResumption number [] (by simp)

end Steps

/-! ### Whole runs -/

/-- **An approval authorises what the user saw, and once**, when no tool use id is used again too
early. -/
theorem approvals_held (catalog : Option ControlCatalog) (ops : List ApprovalOp)
    (apart : EachStep (fun before op => IdsApart (ApprovalWorld.start.run catalog before) op) ops) :
    ApprovalsHeld (ApprovalWorld.start.run catalog ops) := by
  suffices kept : Kept (ApprovalWorld.start.run catalog ops) from kept.approvalsHeld
  induction ops using List.reverseRecOn with
  | nil => exact kept_start
  | append_singleton ops op ih =>
    obtain ⟨earlier, last⟩ := eachStep_concat.mp apart
    rw [ApprovalWorld.run, List.foldl_append]
    exact (ih earlier).step last

/-! ### Two runs -/

/-- A server of the user, `acme`. -/
def acme : Servers where
  parseStr _ := none
  resolveToolServer text := if text = "acme" then some 1 else none
  advertising _ := []
  getAnyServer _ := .ok (some "acme")

def acmeCall (id tool input : String) : ToolCall := ⟨id, none, "acme__" ++ tool, .string input⟩

def askFirst : ChatApprovalPolicy := ⟨2,
    ⟨.manualApprove, [], [], [], false, .array [], fun _ _ => none⟩⟩

def approvedOnce : List ApprovalOp :=
  [.request 2 3 acme (acmeCall "call_0" "read" "notes") 10, .approve "call_0" 2,
    .decide askFirst (acmeCall "call_0" "read" "notes") false acme, .readApproved 0 true,
    .claim 0 .answered]

theorem approvals_held_once : ApprovalsHeld (ApprovalWorld.start.run none approvedOnce) := by
  refine approvals_held none approvedOnce ?_
  have apart : EachStep (fun before op => IdsApart (ApprovalWorld.start.run none before) op)
      ((((([] ++ [approvedOnce[0]]) ++ [approvedOnce[1]]) ++ [approvedOnce[2]]) ++
        [approvedOnce[3]]) ++ [approvedOnce[4]]) := by
    simp only [eachStep_concat]
    refine ⟨⟨⟨⟨⟨eachStep_nil, ?_⟩, trivial⟩, ?_⟩, trivial⟩, trivial⟩
    · exact ⟨fun pass member => (List.not_mem_nil member).elim,
        fun row member => (List.not_mem_nil member).elim⟩
    · intro row member _ _
      rw [List.mem_singleton.mp member]
      exact ⟨rfl, rfl, rfl⟩
  exact apart

/-- One of two calls is approved, the other one is given up for a new message; a later reply uses
the first id again. -/
def changedInput : List ApprovalOp :=
  [.request 2 3 acme (acmeCall "call_0" "read" "notes") 10,
    .request 2 3 acme (acmeCall "call_1" "read" "letters") 11, .approve "call_0" 2, .cancel 2,
    .decide askFirst (acmeCall "call_0" "delete" "home") false acme, .readApproved 0 true,
    .claim 0 .answered]

/-- **A call that nobody was shown runs**, on account of the row of another one. -/
theorem changed_input_runs :
    ((ApprovalWorld.start.run none changedInput).authorised.map fun authorisation =>
      (authorisation.row.toolName, authorisation.toolName)) = [("read", "delete")] ∧
      ¬ApprovalsHeld (ApprovalWorld.start.run none changedInput) := by
  have tools : ((ApprovalWorld.start.run none changedInput).authorised.map fun authorisation =>
      (authorisation.row.toolName, authorisation.toolName)) = [("read", "delete")] := by decide
  refine ⟨tools, fun held => ?_⟩
  obtain ⟨authorisation, member, same⟩ := List.mem_map.mp (tools.symm ▸ List.mem_singleton_self _ :
      ("read", "delete") ∈ (ApprovalWorld.start.run none changedInput).authorised.map
        fun authorisation =>
        (authorisation.row.toolName, authorisation.toolName))
  obtain ⟨asked, run⟩ := Prod.mk.inj same
  have seen := (held.seen authorisation member).tool
  rw [asked, run] at seen
  exact absurd seen (by decide)

end Ziee.Chat.Approvals
