/-
**The chat-token stream** (`chat/stream`: `registry.rs`, `buffers.rs`, `event.rs`, `handler.rs`).

A user's connections each point at one conversation. The frames of a generation go into the replay
buffer of its conversation and onto the channels of the owner's connections that point at it.

* `GenerationBuffer` — the started frame and the latest frames of the generation in flight.
* `RegistryInner` — the connections, their index by user and the buffers by conversation.
* `StreamOp`, `ChatStreams.run` — the operations in any order; each holds the registry's lock.
-/

import Ziee.Scheduler.Schedule
import Mathlib.Data.List.AList

namespace Ziee.Chat

open Ziee.Agent (Uuid Uuid.display)
open Ziee.Providers (Json)
open Ziee.Scheduler (AppError)

structure SSEChatStreamEvent where
  variantName : String
  json : Json

/-- The name on the `event:` line: the variant with a lower-case first letter. -/
def SSEChatStreamEvent.eventName (event : SSEChatStreamEvent) : String :=
  match event.variantName.toList with
  | [] => ""
  | first :: rest => String.ofList (first.toLower :: rest)

structure ChatStreamFrame where
  conversationId : Uuid
  event : SSEChatStreamEvent

namespace ChatStreamFrame

def isTerminal (frame : ChatStreamFrame) : Bool :=
  frame.event.eventName = "complete" || frame.event.eventName = "error"

def isStarted (frame : ChatStreamFrame) : Bool := frame.event.eventName = "started"

def toJson (frame : ChatStreamFrame) : Json :=
  .object [("conversationId", .string (Uuid.display frame.conversationId)),
    ("event", frame.event.json)]

end ChatStreamFrame

/-- What a connection is sent: the handshake, a frame, or an event that an extension has built. -/
inductive StreamItem
  | connected (connectionId : Uuid)
  | frame (frame : ChatStreamFrame)
  | raw (event : String)

/-! ### The replay buffer -/

def maxBufferBytes : Nat := 128 * 1024

def approxSize (frame : ChatStreamFrame) : Nat := frame.toJson.render.utf8ByteSize

structure GenerationBuffer where
  started : Option ChatStreamFrame
  frames : List (ChatStreamFrame × Nat)
  bytes : Nat

namespace GenerationBuffer

def empty : GenerationBuffer := ⟨none, [], 0⟩

/-- The oldest frames go until the others fit; the last one stays. -/
def evict : List (ChatStreamFrame × Nat) → Nat → List (ChatStreamFrame × Nat) × Nat
  | first :: second :: rest, bytes =>
    if maxBufferBytes < bytes then evict (second :: rest) (bytes - first.2)
    else (first :: second :: rest, bytes)
  | frames, bytes => (frames, bytes)

def push (buffer : GenerationBuffer) (frame : ChatStreamFrame) : GenerationBuffer :=
  if frame.isStarted then { buffer with started := some frame }
  else
    let (frames, bytes) :=
      evict (buffer.frames ++ [(frame, approxSize frame)]) (buffer.bytes + approxSize frame)
    { buffer with frames := frames, bytes := bytes }

def replay (buffer : GenerationBuffer) : List ChatStreamFrame :=
  buffer.started.toList ++ buffer.frames.map (·.1)

end GenerationBuffer

/-! ### Channels -/

def chatStreamChannelCapacity : Nat := 2048

structure Channel where
  sent : List StreamItem
  taken : Nat
  closed : Bool

namespace Channel

/-- The channel of a connection that was just opened. -/
def new : Channel := ⟨[], 0, false⟩

/-- `Sender::try_send`: nothing is put on a channel that is full or whose receiver is gone. -/
def trySend (channel : Channel) (item : StreamItem) : Option Channel :=
  if channel.closed || chatStreamChannelCapacity ≤ channel.sent.length - channel.taken then none
  else some { channel with sent := channel.sent ++ [item] }

/-- `Receiver::recv`, when there is something to take. -/
def recv (channel : Channel) : Channel :=
  if channel.closed then channel
  else { channel with taken := min (channel.taken + 1) channel.sent.length }

/-- Items are put on it one after the other, up to the first that does not fit. -/
def sendAll : List StreamItem → Channel → Channel × Bool
  | [], channel => (channel, false)
  | item :: rest, channel =>
    match channel.trySend item with
    | some next => sendAll rest next
    | none => (channel, true)

end Channel

/-! ### The registry -/

structure ChatStreamLimits where
  perUserMaxConnections : Nat
  globalMaxConnections : Nat

def ChatStreamLimits.default : ChatStreamLimits := ⟨24, 512⟩

/-- A connection; its sender is the end of the channel that has its id. -/
structure ChatConn where
  userId : Uuid
  activeConversation : Option Uuid
  deriving DecidableEq

abbrev Clients : Type := AList fun _ : Uuid => ChatConn

abbrev UserIndex : Type := AList fun _ : Uuid => List Uuid

structure RegistryInner where
  clients : Clients
  byUser : UserIndex
  generations : AList fun _ : Uuid => GenerationBuffer
  limits : ChatStreamLimits

namespace RegistryInner

def empty (limits : ChatStreamLimits) : RegistryInner := ⟨∅, ∅, ∅, limits⟩

def idsOf (registry : RegistryInner) (user : Uuid) : List Uuid :=
  (registry.byUser.lookup user).getD []

/-- An id leaves the set of a user; an empty set leaves the index. -/
def dropIndex (byUser : UserIndex) (user id : Uuid) : UserIndex :=
  match byUser.lookup user with
  | none => byUser
  | some ids => if ids.erase id = [] then byUser.erase user else byUser.insert user (ids.erase id)

def removeConn (registry : RegistryInner) (id : Uuid) : RegistryInner :=
  match registry.clients.lookup id with
  | none => registry
  | some conn => { registry with
      clients := registry.clients.erase id
      byUser := dropIndex registry.byUser conn.userId id }

/-- The dead connections of a fan-out are removed one after the other. -/
def removeConns (registry : RegistryInner) (ids : List Uuid) : RegistryInner :=
  ids.foldl removeConn registry

/-- `prune_closed_locked`. -/
def pruneClosed (registry : RegistryInner) (channels : Uuid → Channel) : RegistryInner :=
  registry.removeConns (registry.clients.keys.filter fun id => (channels id).closed)

/-- A swept id leaves both maps, and this user's set whatever the table says. -/
def sweepConn (user : Uuid) (registry : RegistryInner) (id : Uuid) : RegistryInner :=
  let removed := registry.removeConn id
  { removed with byUser := dropIndex removed.byUser user id }

/-- `prune_closed_for_user_locked`: an id of the set that the table lacks is dead as well. -/
def pruneClosedForUser (registry : RegistryInner) (channels : Uuid → Channel) (user : Uuid) :
    RegistryInner :=
  let dead := (registry.idsOf user).filter fun id =>
    (registry.clients.lookup id).isNone || (channels id).closed
  dead.foldl (sweepConn user) registry

/-- The sweep before a cap is charged. -/
def sweepAll (registry : RegistryInner) (channels : Uuid → Channel) : RegistryInner :=
  if registry.limits.globalMaxConnections ≤ registry.clients.keys.length then
    registry.pruneClosed channels
  else registry

def sweepUser (registry : RegistryInner) (channels : Uuid → Channel)
    (user : Uuid) : RegistryInner :=
  if registry.limits.perUserMaxConnections ≤ (registry.idsOf user).length then
    registry.pruneClosedForUser channels user
  else registry

def globalLimit : AppError :=
  ⟨429, "CHAT_STREAM_GLOBAL_LIMIT", "Chat streaming is at capacity; retry shortly"⟩

def userLimit : AppError :=
  ⟨429, "CHAT_STREAM_USER_LIMIT", "Too many open chat-stream connections for this account"⟩

/-- **`register`**: the global cap, then the user's; a refusal keeps what the sweeps have
removed. -/
def register (registry : RegistryInner) (channels : Uuid → Channel) (id : Uuid) (conn : ChatConn) :
    RegistryInner × Except AppError Unit :=
  let swept := registry.sweepAll channels
  if swept.limits.globalMaxConnections ≤ swept.clients.keys.length then (swept, .error globalLimit)
  else
    let cleared := swept.sweepUser channels conn.userId
    if cleared.limits.perUserMaxConnections ≤ (cleared.idsOf conn.userId).length then
      (cleared, .error userLimit)
    else
      ({ cleared with
          byUser := cleared.byUser.insert conn.userId ((cleared.idsOf conn.userId).insert id)
          clients := cleared.clients.insert id conn }, .ok ())

/-- `begin_generation`: whether the slot was free. -/
def beginGeneration (registry : RegistryInner) (conversation : Uuid) : RegistryInner × Bool :=
  if (registry.generations.lookup conversation).isSome then (registry, false)
  else ({ registry with generations := registry.generations.insert conversation .empty }, true)

def endGeneration (registry : RegistryInner) (conversation : Uuid) : RegistryInner :=
  { registry with generations := registry.generations.erase conversation }

/-- `is_generating`: the slot is held. -/
def isGenerating (registry : RegistryInner) (conversation : Uuid) : Bool :=
  (registry.generations.lookup conversation).isSome

/-- What a new subscriber of the conversation is sent first. -/
def replayOf (registry : RegistryInner) (conversation : Option Uuid) : List ChatStreamFrame :=
  match conversation with
  | some id => ((registry.generations.lookup id).map GenerationBuffer.replay).getD []
  | none => []

def point (registry : RegistryInner) (id : Uuid) (conn : ChatConn) (active : Option Uuid) :
    RegistryInner :=
  { registry with clients := registry.clients.insert id { conn with activeConversation := active } }

def wants (registry : RegistryInner) (conversation id : Uuid) : Bool :=
  match registry.clients.lookup id with
  | some conn => conn.activeConversation = some conversation
  | none => false

def bufferFrame (registry : RegistryInner) (frame : ChatStreamFrame) : RegistryInner :=
  if frame.isTerminal then registry
  else { registry with
    generations := registry.generations.insert frame.conversationId
      (((registry.generations.lookup frame.conversationId).getD .empty).push frame) }

end RegistryInner

/-! ### The system -/

/-- The registry and the channels of all connections, also of those that are gone. -/
structure ChatStreams where
  registry : RegistryInner
  channels : Uuid → Channel

namespace ChatStreams

def boot (limits : ChatStreamLimits) : ChatStreams := ⟨.empty limits, fun _ => .new⟩

/-- An item is offered to those of the connections that point at the conversation; the others that
took nothing are returned. -/
def fanOut (registry : RegistryInner) (conversation : Uuid) (item : StreamItem) :
    List Uuid → (Uuid → Channel) → (Uuid → Channel) × List Uuid
  | [], channels => (channels, [])
  | id :: rest, channels =>
    if registry.wants conversation id then
      match (channels id).trySend item with
      | some next => fanOut registry conversation item rest (Function.update channels id next)
      | none =>
        let (others, dead) := fanOut registry conversation item rest channels
        (others, id :: dead)
    else fanOut registry conversation item rest channels

def publishRawEvent (streams : ChatStreams) (owner conversation : Uuid) (event : String) :
    ChatStreams :=
  let (channels, dead) := fanOut streams.registry conversation (.raw event)
    (streams.registry.idsOf owner) streams.channels
  ⟨streams.registry.removeConns dead, channels⟩

def publishFrame (streams : ChatStreams) (owner : Uuid) (frame : ChatStreamFrame) : ChatStreams :=
  let buffered := streams.registry.bufferFrame frame
  let (channels, dead) := fanOut buffered frame.conversationId (.frame frame)
    (buffered.idsOf owner) streams.channels
  let kept := if frame.isTerminal then buffered.endGeneration frame.conversationId else buffered
  ⟨kept.removeConns dead, channels⟩

/-- **`set_subscription`**: the connection points at the conversation and gets its replay. -/
def setSubscription (streams : ChatStreams) (id : Uuid)
    (conversation : Option Uuid) : ChatStreams :=
  match streams.registry.clients.lookup id with
  | none => streams
  | some conn =>
    let pointed := streams.registry.point id conn conversation
    let replay := pointed.replayOf conversation
    let (channel, dead) := (streams.channels id).sendAll (replay.map .frame)
    ⟨if dead then pointed.removeConn id else pointed, Function.update streams.channels id channel⟩

/-- `open_chat_stream`: a registered connection is sent its id. -/
def openChatStream (streams : ChatStreams) (id user : Uuid) : ChatStreams :=
  match streams.registry.register streams.channels id ⟨user, none⟩ with
  | (registry, .error _) => ⟨registry, streams.channels⟩
  | (registry, .ok _) =>
    ⟨registry, Function.update streams.channels id
      ((Channel.new.trySend (.connected id)).getD .new)⟩

def dropReceiver (streams : ChatStreams) (id : Uuid) : ChatStreams :=
  { streams with
    channels := Function.update streams.channels id { streams.channels id with closed := true } }

def recv (streams : ChatStreams) (id : Uuid) : ChatStreams :=
  { streams with channels := Function.update streams.channels id (streams.channels id).recv }

def withRegistry (streams : ChatStreams) (registry : RegistryInner) : ChatStreams :=
  { streams with registry := registry }

end ChatStreams

/-! ### Operations -/

inductive StreamOp
  | openChatStream (id user : Uuid)
  | dropReceiver (id : Uuid)
  | recv (id : Uuid)
  | unregister (id : Uuid)
  | pruneClosed
  | pruneClosedForUser (user : Uuid)
  | beginGeneration (conversation : Uuid)
  | endGeneration (conversation : Uuid)
  | publishFrame (frame : ChatStreamFrame)
  | publishRawEvent (conversation : Uuid) (event : String)
  /-- The request: who is authenticated, and whether the conversation was there. -/
  | setSubscription (user id : Uuid) (conversation : Option Uuid) (present : Bool)

/-- The owner of each conversation; the tasks of a generation publish as its conversation's
owner. -/
abbrev Owners : Type := Uuid → Uuid

/-- `set_chat_stream_subscription` accepts: the conversation is the user's, or there is none. -/
def acceptsSubscription (owner : Owners) (user : Uuid) (conversation : Option Uuid)
    (present : Bool) : Bool :=
  match conversation with
  | some id => present && owner id = user
  | none => true

namespace ChatStreams

/-- **One operation.** -/
def step (owner : Owners) (streams : ChatStreams) : StreamOp → ChatStreams
  | .openChatStream id user => streams.openChatStream id user
  | .dropReceiver id => streams.dropReceiver id
  | .recv id => streams.recv id
  | .unregister id => streams.withRegistry (streams.registry.removeConn id)
  | .pruneClosed => streams.withRegistry (streams.registry.pruneClosed streams.channels)
  | .pruneClosedForUser user =>
    streams.withRegistry (streams.registry.pruneClosedForUser streams.channels user)
  | .beginGeneration conversation =>
    streams.withRegistry (streams.registry.beginGeneration conversation).1
  | .endGeneration conversation => streams.withRegistry
    (streams.registry.endGeneration conversation)
  | .publishFrame frame => streams.publishFrame (owner frame.conversationId) frame
  | .publishRawEvent conversation event =>
    streams.publishRawEvent (owner conversation) conversation event
  | .setSubscription user id conversation present =>
    if acceptsSubscription owner user conversation present then
      streams.setSubscription id conversation
    else streams

def run (owner : Owners) (streams : ChatStreams) (ops : List StreamOp) : ChatStreams :=
  ops.foldl (step owner) streams

end ChatStreams

/-! ### What the operations do -/

section Tables

variable {α β : Type} [DecidableEq α] {table : AList fun _ : α => β} {key other : α} {value : β}

theorem lookup_insert_ite : (table.insert key value).lookup other = if other =
      key then some value else table.lookup other := by
  by_cases same : other = key
  · rw [if_pos same, same, AList.lookup_insert]
  · rw [if_neg same, AList.lookup_insert_ne same]

theorem lookup_erase_ite :
    (table.erase key).lookup other = if other = key then none else table.lookup other := by
  by_cases same : other = key
  · rw [if_pos same, same, AList.lookup_erase]
  · rw [if_neg same, AList.lookup_erase_ne same]

end Tables

namespace RegistryInner

variable {registry : RegistryInner} {channels : Uuid → Channel} {id other user : Uuid}
  {ids : List Uuid}

@[simp] theorem removeConn_generations :
    (registry.removeConn id).generations = registry.generations := by
  unfold removeConn
  split <;> rfl

@[simp] theorem removeConn_limits : (registry.removeConn id).limits = registry.limits := by
  unfold removeConn
  split <;> rfl

theorem removeConn_lookup : (registry.removeConn id).clients.lookup other =
    if other = id then none else registry.clients.lookup other := by
  unfold removeConn
  split
  · rename_i missing
    by_cases same : other = id
    · rw [if_pos same, same, missing]
    · rw [if_neg same]
  · exact lookup_erase_ite

@[simp] theorem removeConns_generations :
    (registry.removeConns ids).generations = registry.generations := by
  induction ids generalizing registry with
  | nil => rfl
  | cons id rest ih => exact ih.trans removeConn_generations

@[simp] theorem removeConns_limits : (registry.removeConns ids).limits = registry.limits := by
  induction ids generalizing registry with
  | nil => rfl
  | cons id rest ih => exact ih.trans removeConn_limits

theorem removeConns_lookup : (registry.removeConns ids).clients.lookup other =
    if other ∈ ids then none else registry.clients.lookup other := by
  induction ids generalizing registry with
  | nil => rfl
  | cons id rest ih =>
    show ((registry.removeConn id).removeConns rest).clients.lookup other = _
    rw [ih]
    rw [removeConn_lookup]
    by_cases same : other = id
    · simp [same]
    · simp [same]

end RegistryInner

end Ziee.Chat
