/-
**The approval rows of the chat** (`mcp/chat_extension/approval/repository.rs`, the table
`tool_use_approvals`).

A call that waits for the user has a row, with the server, the tool and the input that the user is
shown. Rows are read by branch and status; a message has at most one for a tool use id.

* `ApprovalTable` — the rows, numbered as they are created.
* `createToolApprovals`, `approveToolUse`, `denyToolUse`, `cancelPendingApprovals`,
  `deleteToolApproval` — the statements.
* `mem_create`, `mem_update`, `mem_delete` — which rows there are after each.
-/

import Ziee.Library.RowOrder
import Ziee.Scheduler.Schedule

namespace Ziee.Chat.Approvals

open RowOrder
open Ziee.Agent (Uuid)
open Ziee.Providers (Json)
open Ziee.Scheduler (AppError)

inductive ApprovalStatus
  | pending
  | approved
  | denied
  | cancelled
  deriving DecidableEq

structure ToolUseApproval where
  /-- The rows ever created, numbered. -/
  id : Nat
  branchId : Uuid
  messageId : Uuid
  toolUseId : String
  toolName : String
  toolInput : Json
  serverId : Option Uuid
  serverName : String
  status : ApprovalStatus
  createdAt : Int

namespace ToolUseApproval

def key (row : ToolUseApproval) : Uuid × String := (row.messageId, row.toolUseId)

/-- Two rows for the same call, at two times. -/
structure SameRow (row other : ToolUseApproval) : Prop where
  id : row.id = other.id
  branch : row.branchId = other.branchId
  key : row.key = other.key
  tool : row.toolName = other.toolName
  input : row.toolInput = other.toolInput
  server : row.serverId = other.serverId

theorem SameRow.refl (row : ToolUseApproval) : SameRow row row := ⟨rfl, rfl, rfl, rfl, rfl, rfl⟩

theorem sameRow_status (row : ToolUseApproval) (status : ApprovalStatus) :
    SameRow { row with status } row := ⟨rfl, rfl, rfl, rfl, rfl, rfl⟩

end ToolUseApproval

structure NewToolApproval where
  toolUseId : String
  toolName : String
  toolInput : Json
  serverId : Option Uuid
  serverName : String

structure ApprovalTable where
  rows : List ToolUseApproval
  next : Nat
  unique : (rows.map ToolUseApproval.key).Nodup
  numbered : (rows.map ToolUseApproval.id).Nodup
  fresh : ∀ row ∈ rows, row.id < next

inductive ApprovalError
  | refused (error : AppError)
  | database

/-! ### Creation -/

def maxToolInputBytes : Nat := 256 * 1024

namespace NewToolApproval

def serializedLen (item : NewToolApproval) : Nat := item.toolInput.render.utf8ByteSize

/-- The columns are `varchar(255)`. -/
def fits (item : NewToolApproval) : Bool :=
  item.toolUseId.length ≤ 255 && item.toolName.length ≤ 255 && item.serverName.length ≤ 255

def row (item : NewToolApproval) (branch message : Uuid) (now : Int) (id : Nat) : ToolUseApproval :=
  ⟨id, branch, message, item.toolUseId, item.toolName, item.toolInput, item.serverId,
    item.serverName,
    .pending, now⟩

end NewToolApproval

/-- The rows of a batch, numbered from `id` on. -/
def newRows (branch message : Uuid) (now : Int) : Nat → List NewToolApproval → List ToolUseApproval
  | _, [] => []
  | id, item :: items => item.row branch message now id :: newRows branch message now (id + 1) items

theorem newRows_ids (branch message : Uuid) (now : Int) (items : List NewToolApproval) (id : Nat) :
    (newRows branch message now id items).map ToolUseApproval.id = List.range' id items.length := by
  induction items generalizing id with
  | nil => rfl
  | cons item items ih =>
    rw [newRows, List.map_cons, ih, List.length_cons, List.range'_succ]
    rfl

theorem mem_newRows {branch message : Uuid} {now : Int} {items : List NewToolApproval} {id : Nat}
    {row : ToolUseApproval} (member : row ∈ newRows branch message now id items) :
    ∃ item ∈ items, ∃ number, id ≤ number ∧ row = item.row branch message now number := by
  induction items generalizing id with
  | nil => cases member
  | cons item items ih =>
    rcases List.mem_cons.mp member with rfl | later
    · exact ⟨item, List.mem_cons_self, id, le_rfl, rfl⟩
    · obtain ⟨other, here, number, bound, same⟩ := ih later
      exact ⟨other, List.mem_cons_of_mem _ here, number, by omega, same⟩

namespace ApprovalTable

def empty : ApprovalTable := ⟨[], 0, List.nodup_nil, List.nodup_nil, by simp⟩

/-- `INSERT`: no message gets two rows for one tool use id. -/
def insert (table : ApprovalTable) (branch message : Uuid) (now : Int)
    (items : List NewToolApproval) :
    Except ApprovalError (ApprovalTable × List ToolUseApproval) :=
  let created := newRows branch message now table.next items
  if unique : ((table.rows ++ created).map ToolUseApproval.key).Nodup then
    .ok ({
      rows := table.rows ++ created
      next := table.next + items.length
      unique
      numbered := by
        rw [List.map_append, List.nodup_append]
        refine ⟨table.numbered, ?_, fun a first b second same => ?_⟩
        · rw [newRows_ids]
          exact List.nodup_range'
        · obtain ⟨row, member, rfl⟩ := List.mem_map.mp first
          rw [newRows_ids, List.mem_range'_1] at second
          have := table.fresh row member
          omega
      fresh := by
        intro row member
        rcases List.mem_append.mp member with old | new
        · have := table.fresh row old
          omega
        · have number := List.mem_map_of_mem (f := ToolUseApproval.id) new
          rw [newRows_ids, List.mem_range'_1] at number
          exact number.2 }, created)
  else .error .database

def createToolApprovals (table : ApprovalTable) (branch message : Uuid) (now : Int)
    (items : List NewToolApproval) :
    Except ApprovalError (ApprovalTable × List ToolUseApproval) :=
  match items.find? fun item => maxToolInputBytes < item.serializedLen with
  | some item => .error (.refused (.badRequest "TOOL_INPUT_TOO_LARGE"
      s!"tool_input is {item.serializedLen} bytes serialized; cap is {maxToolInputBytes}"))
  | none => if items.all NewToolApproval.fits then table.insert branch message now items
    else .error .database

/-! ### Decisions -/

/-- The row with its status set, when it is one of those that are to be changed. -/
def restate (change : ToolUseApproval → Bool) (status : ApprovalStatus) (row : ToolUseApproval) :
    ToolUseApproval :=
  if change row then { row with status } else row

theorem restate_same (change : ToolUseApproval → Bool) (status : ApprovalStatus)
    (row : ToolUseApproval) : (restate change status row).SameRow row := by
  unfold restate
  split
  · exact row.sameRow_status status
  · exact .refl row

/-- `UPDATE … SET status`. -/
def update (table : ApprovalTable) (change : ToolUseApproval → Bool) (status : ApprovalStatus) :
    ApprovalTable where
  rows := table.rows.map (restate change status)
  next := table.next
  unique := by
    have same : ToolUseApproval.key ∘ restate change status = ToolUseApproval.key :=
      funext fun row => (restate_same change status row).key
    rw [List.map_map, same]
    exact table.unique
  numbered := by
    have same : ToolUseApproval.id ∘ restate change status = ToolUseApproval.id :=
      funext fun row => (restate_same change status row).id
    rw [List.map_map, same]
    exact table.numbered
  fresh := by
    intro row member
    obtain ⟨old, here, rfl⟩ := List.mem_map.mp member
    rw [(restate_same change status old).id]
    exact table.fresh old here

def pendingFor (toolUseId : String) (branch : Uuid) (row : ToolUseApproval) : Bool :=
  row.toolUseId == toolUseId && row.branchId == branch && row.status == .pending

/-- What `approve_tool_use` and `deny_tool_use` do; no pending row is an error. -/
def settle (table : ApprovalTable) (status : ApprovalStatus) (toolUseId : String) (branch : Uuid) :
    Except ApprovalError ApprovalTable :=
  if table.rows.any (pendingFor toolUseId branch) then
    .ok (table.update (pendingFor toolUseId branch) status)
  else .error (.refused (.notFound "Approval not found or already processed"))

def approveToolUse (table : ApprovalTable) : String → Uuid → Except ApprovalError ApprovalTable :=
  table.settle .approved

def denyToolUse (table : ApprovalTable) : String → Uuid → Except ApprovalError ApprovalTable :=
  table.settle .denied

/-- `cancel_pending_approvals_for_branch`. -/
def cancelPendingApprovals (table : ApprovalTable) (branch : Uuid) : ApprovalTable :=
  table.update (fun row => row.branchId == branch && row.status == .pending) .cancelled

/-! ### Reading and consuming -/

/-- `get_pending_approvals_for_branch` and its siblings. -/
def ofBranch (table : ApprovalTable) (status : ApprovalStatus) (branch : Uuid) :
    List ToolUseApproval :=
  orderBy ToolUseApproval.createdAt
    (table.rows.filter fun row => row.branchId == branch && row.status == status)

/-- `DELETE` of the rows that are not kept. -/
def retain (table : ApprovalTable) (keep : ToolUseApproval → Bool) : ApprovalTable where
  rows := table.rows.filter keep
  next := table.next
  unique := table.unique.sublist (List.filter_sublist.map _)
  numbered := table.numbered.sublist (List.filter_sublist.map _)
  fresh := fun row member => table.fresh row (List.mem_filter.mp member).1

/-- `delete_tool_approval`: whether a row was deleted. The status is not looked at. -/
def deleteToolApproval (table : ApprovalTable) (toolUseId : String) (message : Uuid) :
    ApprovalTable × Bool :=
  (table.retain fun row => !(row.key == (message, toolUseId)),
    table.rows.any fun row => row.key == (message, toolUseId))

/-! ### The rows after each statement -/

section Members

variable {table after : ApprovalTable} {branch message : Uuid} {now : Int} {toolUseId : String}
  {items : List NewToolApproval} {created : List ToolUseApproval} {row other : ToolUseApproval}
  {status : ApprovalStatus}

theorem mem_ofBranch : row ∈ table.ofBranch status branch ↔
    row ∈ table.rows ∧ row.branchId = branch ∧ row.status = status := by
  rw [ofBranch, orderBy_perm.mem_iff, List.mem_filter, Bool.and_eq_true, beq_iff_eq, beq_iff_eq]

theorem create_ok
    (done : table.createToolApprovals branch message now items = .ok (after, created)) :
    after.rows = table.rows ++ newRows branch message now table.next items ∧
      after.next = table.next + items.length ∧
        created = newRows branch message now table.next items := by
  rw [createToolApprovals] at done
  split at done
  · cases done
  · split at done
    · rw [insert] at done
      split at done
      · cases done
        exact ⟨rfl, rfl, rfl⟩
      · cases done
    · cases done

/-- **A row after a creation** is an old one, or a new one for an item. -/
theorem mem_create
    (done : table.createToolApprovals branch message now items = .ok (after, created))
    (member : row ∈ after.rows) :
    row ∈ table.rows ∨
      ∃ item ∈ items, ∃ number, table.next ≤ number ∧ row = item.row branch message now number := by
  rw [(create_ok done).1] at member
  exact (List.mem_append.mp member).imp_right mem_newRows

theorem mem_update {change : ToolUseApproval → Bool}
    (member : row ∈ (table.update change status).rows) :
    ∃ old ∈ table.rows, row.SameRow old := by
  obtain ⟨old, here, rfl⟩ := List.mem_map.mp member
  exact ⟨old, here, restate_same change status old⟩

/-- **A row after a decision** was there before, for the same call. -/
theorem mem_settle (done : table.settle status toolUseId branch = .ok after)
    (member : row ∈ after.rows) : ∃ old ∈ table.rows, row.SameRow old := by
  rw [settle] at done
  split at done
  · cases done
    exact mem_update member
  · cases done

theorem next_settle (done : table.settle status toolUseId branch = .ok after) :
    after.next = table.next := by
  rw [settle] at done
  split at done
  · cases done
    rfl
  · cases done

/-- **A row that a deletion leaves**: one with another key. -/
theorem mem_delete : row ∈ (table.deleteToolApproval toolUseId message).1.rows ↔
    row ∈ table.rows ∧ row.key ≠ (message, toolUseId) := by
  rw [deleteToolApproval, retain, List.mem_filter, Bool.not_eq_true', beq_eq_false_iff_ne]

theorem delete_won : (table.deleteToolApproval toolUseId message).2 = true ↔
    ∃ row ∈ table.rows, row.key = (message, toolUseId) := by
  simp only [deleteToolApproval, List.any_eq_true, beq_iff_eq]

theorem eq_of_id (first : row ∈ table.rows) (second : other ∈ table.rows)
    (same : row.id = other.id) : row = other :=
  List.inj_on_of_nodup_map table.numbered first second same

end Members

end ApprovalTable

end Ziee.Chat.Approvals
