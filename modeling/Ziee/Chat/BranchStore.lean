/-
**Branches and their messages** (`chat/core/repository/messages.rs`, the chat migrations).

A branch is a set of links to messages, each with the time at which it was made. A fork copies links
with their times into a new branch; the messages are shared.

* `createMessage`, `createBranchFromMessage`, `editMessage` — the transactions; one that violates a
  constraint fails and writes nothing.
* `listMessageWindow` — a page of the history.
-/

import Ziee.Library.RowOrder
import Ziee.Scheduler.Schedule
import Mathlib.Data.List.AList
import Mathlib.Data.Prod.Lex

namespace Ziee.Chat

open RowOrder
open Ziee.Agent (Uuid)
open Ziee.Providers (Json)
open Ziee.Scheduler (AppError)

/-- Microseconds since the epoch. -/
abbrev Timestamp : Type := Int

structure Message where
  id : Uuid
  role : String
  originatedFromId : Uuid
  editCount : Int
  modelId : Option Uuid
  completionState : Option String
  createdAt : Timestamp
  deriving DecidableEq

structure MessageContent where
  messageId : Uuid
  contentType : String
  content : Json
  sequenceOrder : Int

structure Branch where
  conversationId : Uuid
  parentBranchId : Option Uuid
  createdFromMessageId : Option Uuid
  forkLevel : String
  createdAt : Timestamp
  deriving DecidableEq

/-- A row of `branch_messages`. -/
structure BranchMessage where
  branchId : Uuid
  messageId : Uuid
  isClone : Bool
  createdAt : Timestamp
  deriving DecidableEq

namespace BranchMessage

def key (link : BranchMessage) : Uuid × Uuid := (link.branchId, link.messageId)

end BranchMessage

/-- **The tables.** A link is the only one of its branch to its message, and both exist. -/
structure ChatStore where
  /-- The active branch of each conversation. -/
  conversations : AList fun _ : Uuid => Option Uuid
  branches : AList fun _ : Uuid => Branch
  messages : List Message
  contents : List MessageContent
  links : List BranchMessage
  messageIds : (messages.map Message.id).Nodup
  unique : (links.map BranchMessage.key).Nodup
  homed : ∀ link ∈ links, link.branchId ∈ branches
  known : ∀ link ∈ links, link.messageId ∈ messages.map Message.id

/-- `AppError::not_found`, or `AppError::database_error` with the driver's text. -/
inductive StoreError
  | notFound (error : AppError)
  | database
  deriving DecidableEq

namespace ChatStore

def linksOf (store : ChatStore) (branch : Uuid) : List BranchMessage :=
  store.links.filter fun link => link.branchId = branch

def linkOf (store : ChatStore) (branch message : Uuid) : Option BranchMessage :=
  (store.linksOf branch).find? fun link => link.messageId = message

def getMessage (store : ChatStore) (id : Uuid) : Option Message :=
  store.messages.find? fun message => message.id = id

def join (store : ChatStore) (links : List BranchMessage) : List Message :=
  links.filterMap fun link => store.getMessage link.messageId

/-! ### Statements -/

/-- `INSERT INTO messages`. -/
def insertMessage (store : ChatStore) (message : Message) : Except StoreError ChatStore :=
  if fresh : message.id ∉ store.messages.map Message.id then
    .ok { store with
      messages := store.messages ++ [message]
      messageIds := by
        rw [List.map_append, List.nodup_append]
        refine ⟨store.messageIds, List.nodup_singleton _, fun a first b second same => fresh ?_⟩
        rw [List.map_singleton, List.mem_singleton] at second
        exact second ▸ same ▸ first
      known := fun link member => by
        rw [List.map_append]
        exact List.mem_append_left _ (store.known link member) }
  else .error .database

/-- `INSERT INTO message_contents`. -/
def insertContent (store : ChatStore) (content : MessageContent) : ChatStore :=
  { store with contents := store.contents ++ [content] }

/-- `INSERT INTO branches`: a new id, one of the two fork levels, an existing conversation. -/
def insertBranch (store : ChatStore) (id : Uuid) (branch : Branch) : Except StoreError ChatStore :=
  if id ∉ store.branches ∧ branch.forkLevel ∈ ["user", "assistant"] ∧
      branch.conversationId ∈ store.conversations then
    .ok { store with
      branches := store.branches.insert id branch
      homed := fun link member => (AList.mem_insert _).mpr (Or.inr (store.homed link member)) }
  else .error .database

/-- `INSERT INTO branch_messages`. -/
def insertLinks (store : ChatStore) (links : List BranchMessage) : Except StoreError ChatStore :=
  if valid : ((store.links ++ links).map BranchMessage.key).Nodup ∧
      ∀ link ∈ links, link.branchId ∈ store.branches ∧
        link.messageId ∈ store.messages.map Message.id then
    .ok { store with
      links := store.links ++ links
      unique := valid.1
      homed := fun link member => (List.mem_append.mp member).elim (store.homed link)
        fun added => (valid.2 link added).1
      known := fun link member => (List.mem_append.mp member).elim (store.known link)
        fun added => (valid.2 link added).2 }
  else .error .database

/-- `UPDATE conversations SET active_branch_id`. -/
def setActiveBranch (store : ChatStore) (conversation branch : Uuid) : ChatStore :=
  { store with conversations := store.conversations.replace conversation (some branch) }

def incrementEditCount (store : ChatStore) (origin : Uuid) : ChatStore :=
  let update (message : Message) : Message :=
    if message.originatedFromId = origin then { message with editCount := message.editCount + 1 }
    else message
  have ids : (store.messages.map update).map Message.id = store.messages.map Message.id := by
    rw [List.map_map]
    refine List.map_congr_left fun message _ => ?_
    show (update message).id = message.id
    unfold update
    split <;> rfl
  { store with
    messages := store.messages.map update
    messageIds := ids ▸ store.messageIds
    known := fun link member => ids ▸ store.known link member }

def clones (store : ChatStore) (parent branch : Uuid) (cutoff : Timestamp) : List BranchMessage :=
  ((store.linksOf parent).filter fun link => link.createdAt < cutoff).map fun link =>
    { link with branchId := branch, isClone := true }

/-! ### Transactions -/

def messageNotInBranch : StoreError := .notFound (.notFound "Message not in branch")

/-- **`create_message`**; `now` is the transaction's time, `id` the new id. -/
def createMessage (store : ChatStore) (branch : Uuid) (role : String) (modelId : Option Uuid)
    (id : Uuid) (now : Timestamp) : Except StoreError ChatStore := do
  let inserted ← store.insertMessage ⟨id, role, id, 0, modelId, none, now⟩
  inserted.insertLinks [⟨branch, id, false, now⟩]

def createBranchFromMessage (store : ChatStore) (conversation parent message : Uuid)
    (forkLevel : String) (branch : Uuid) (now : Timestamp) : Except StoreError ChatStore :=
  match store.linkOf parent message with
  | none => .error messageNotInBranch
  | some link => do
    let forked ← store.insertBranch branch ⟨conversation, some parent, some message, forkLevel, now⟩
    let copied ← forked.insertLinks (store.clones parent branch link.createdAt)
    .ok (copied.setActiveBranch conversation branch)

def editMessage (store : ChatStore) (message conversation : Uuid) (content : String)
    (parent branch id : Uuid) (now : Timestamp) : Except StoreError ChatStore :=
  match store.getMessage message with
  | none => .error (.notFound (.notFound "Message"))
  | some original =>
    match store.linkOf parent message with
    | none => .error messageNotInBranch
    | some link => do
      let forked ← store.insertBranch branch ⟨conversation, some parent, some message, "user", now⟩
      let copied ← forked.insertLinks (store.clones parent branch link.createdAt)
      let added ← copied.insertMessage
        ⟨id, original.role, original.originatedFromId, original.editCount, none, none, now⟩
      let filled := added.insertContent ⟨id, "text", .object [("text", .string content)], 0⟩
      let linked ← filled.insertLinks [⟨branch, id, false, now⟩]
      .ok ((linked.setActiveBranch conversation branch).incrementEditCount
        original.originatedFromId)

end ChatStore

/-! ### The full history -/

structure Scan where
  read : List BranchMessage → List BranchMessage
  perm : ∀ rows, (read rows).Perm rows

namespace ChatStore

/-- **`list_messages_in_branch`**: `ORDER BY bm.created_at ASC`. -/
def listMessagesInBranch (scan : Scan) (store : ChatStore) (branch : Uuid) : List Message :=
  store.join (orderBy BranchMessage.createdAt (scan.read (store.linksOf branch)))

end ChatStore

/-! ### Pages -/

/-- `bm.created_at, bm.message_id`. -/
def BranchMessage.position (link : BranchMessage) : Timestamp ×ₗ Nat :=
  toLex (link.createdAt, link.messageId.toNat)

structure WindowRows where
  messages : List Message
  hasMoreBefore : Bool
  hasMoreAfter : Bool

namespace ChatStore

end ChatStore

end Ziee.Chat
