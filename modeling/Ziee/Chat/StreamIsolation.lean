/-
**Frames stay with their user.**

Live frames go to the connections of the conversation's owner. The replay goes to the connection
that a request names: the request is checked against the conversation, not against the connection.

* **`isolated_iff`** — every frame on a connection's channel is its user's, exactly when no accepted
  request names another user's connection at a time when that is sent a frame.
* `foreign_subscription_leaks` — a request that names another user's connection.
-/

import Ziee.Chat.GenerationSlots

namespace Ziee.Chat

open Prefixes
open Ziee.Agent (Uuid)

variable {frame : ChatStreamFrame} {active : Option Uuid} {other : Uuid}

section Channels

variable {registry : RegistryInner} {channels : Uuid → Channel} {channel : Channel}
  {conversation id : Uuid} {item : StreamItem} {items : List StreamItem} {ids : List Uuid}

theorem trySend_accepted (accepts : channel.accepts = true) :
    channel.trySend item = some { channel with sent := channel.sent ++ [item] } := by
  unfold Channel.accepts at accepts
  unfold Channel.trySend
  simp only [Bool.and_eq_true, Bool.not_eq_true', decide_eq_true_eq] at accepts
  rw [if_neg]
  simp [accepts.1, accepts.2]

/-- **A fan-out** puts the item on every channel that takes it. -/
theorem fanOut_channels (distinct : ids.Nodup) :
    (ChatStreams.fanOut registry conversation item ids channels).1 id =
      if id ∈ ids ∧ registry.wants conversation id = true ∧ (channels id).accepts = true then
        { channels id with sent := (channels id).sent ++ [item] }
      else channels id := by
  induction ids generalizing channels with
  | nil => simp [ChatStreams.fanOut]
  | cons other rest ih =>
    obtain ⟨fresh, distinct⟩ := List.nodup_cons.mp distinct
    unfold ChatStreams.fanOut
    by_cases wants : registry.wants conversation other = true
    · rw [if_pos wants]
      by_cases accepts : (channels other).accepts = true
      · rw [trySend_accepted accepts]
        dsimp only
        rw [ih distinct]
        by_cases same : id = other
        · subst same
          simp [fresh, wants, accepts]
        · simp [same]
      · rw [trySend_eq_none.mpr (by simpa using accepts)]
        dsimp only
        rw [ih distinct]
        by_cases same : id = other
        · subst same
          simp [fresh, accepts]
        · simp [same]
    · rw [if_neg wants, ih distinct]
      by_cases same : id = other
      · subst same
        simp [fresh, wants]
      · simp [same]

/-- **A replay** puts the first items on the channel; all of them, or the connection is dead. -/
theorem sendAll_sent (channel : Channel) (items : List StreamItem) : ∃ count,
    (channel.sendAll items).1.sent = channel.sent ++ items.take count ∧
    ((channel.sendAll items).2 = false → items.length ≤ count) ∧
    (channel.accepts = true → items ≠ [] → 0 < count) ∧ (channel.accepts = false → count = 0) := by
  induction items generalizing channel with
  | nil => exact ⟨0, by simp [Channel.sendAll], by simp, by simp, by simp⟩
  | cons item rest ih =>
    unfold Channel.sendAll
    by_cases accepts : channel.accepts = true
    · rw [trySend_accepted accepts]
      obtain ⟨count, sent, all, -, -⟩ := ih { channel with sent := channel.sent ++ [item] }
      refine ⟨count + 1, ?_, fun alive => ?_, fun _ _ => Nat.succ_pos count, fun refuses => ?_⟩
      · dsimp only
        rw [sent, List.take_succ_cons, List.append_assoc]
        rfl
      · exact Nat.succ_le_succ (all alive)
      · rw [accepts] at refuses
        cases refuses
    · rw [trySend_eq_none.mpr (by simpa using accepts)]
      exact ⟨0, by simp, nofun, fun here => absurd here accepts, fun _ => rfl⟩

end Channels

/-! ### What an operation puts on a channel -/

section Puts

variable {owner : Owners} {streams : ChatStreams} {op : StreamOp} {conversation id user : Uuid}
  {item : StreamItem} {conn : ChatConn}

/-- The connection is one of the user's, points at the conversation and takes an item. -/
def ChatStreams.Receives (streams : ChatStreams) (user conversation id : Uuid) : Prop :=
  id ∈ streams.registry.idsOf user ∧ streams.registry.wants conversation id = true ∧
    (streams.channels id).accepts = true

instance : Decidable (streams.Receives user conversation id) :=
  inferInstanceAs (Decidable (_ ∧ _ ∧ _))

theorem publishFrame_sent (indexed : Indexed streams.registry) :
    ((streams.publishFrame user frame).channels id).sent =
      if streams.Receives user frame.conversationId id then (streams.channels id).sent ++
        [.frame frame]
      else (streams.channels id).sent := by
  show ((ChatStreams.fanOut (streams.registry.bufferFrame frame) frame.conversationId
    (.frame frame) ((streams.registry.bufferFrame frame).idsOf user) streams.channels).1 id).sent =
      _
  rw [bufferFrame_idsOf, fanOut_channels (indexed.distinct user), bufferFrame_wants]
  by_cases receives : streams.Receives user frame.conversationId id
  · rw [if_pos receives, if_pos (show _ ∧ _ ∧ _ from receives)]
  · rw [if_neg receives, if_neg (show ¬(_ ∧ _ ∧ _) from receives)]

theorem publishRawEvent_sent (indexed : Indexed streams.registry) {event : String} :
    ((streams.publishRawEvent user conversation event).channels id).sent =
      if streams.Receives user conversation id then (streams.channels id).sent ++ [.raw event]
      else (streams.channels id).sent := by
  show ((ChatStreams.fanOut streams.registry conversation (.raw event)
    (streams.registry.idsOf user) streams.channels).1 id).sent = _
  rw [fanOut_channels (indexed.distinct user)]
  by_cases receives : streams.Receives user conversation id
  · rw [if_pos receives, if_pos (show _ ∧ _ ∧ _ from receives)]
  · rw [if_neg receives, if_neg (show ¬(_ ∧ _ ∧ _) from receives)]

theorem setSubscription_channels (found : streams.registry.clients.lookup id = some conn) :
    (streams.setSubscription id active).channels = Function.update streams.channels id
      ((streams.channels id).sendAll ((streams.registry.replayOf active).map .frame)).1 := by
  unfold ChatStreams.setSubscription
  rw [found]
  rfl

theorem setSubscription_missing (missing : streams.registry.clients.lookup id = none) :
    streams.setSubscription id active = streams := by
  rw [ChatStreams.setSubscription, missing]

theorem openChatStream_channels (streams : ChatStreams) (id user other : Uuid) :
    (streams.openChatStream id user).channels other = streams.channels other ∨
    (other = id ∧ ((streams.openChatStream id user).channels other).sent = [.connected id]) := by
  unfold ChatStreams.openChatStream
  split
  · exact Or.inl rfl
  · by_cases same : other = id
    · subst same
      exact Or.inr ⟨rfl, by simp [Channel.new, Channel.trySend, chatStreamChannelCapacity]⟩
    · exact Or.inl (Function.update_of_ne same _ _)

theorem dropReceiver_sent :
    ((streams.dropReceiver other).channels id).sent = (streams.channels id).sent := by
  unfold ChatStreams.dropReceiver
  by_cases same : id = other
  · subst same
    simp
  · simp [same]

theorem recv_sent : ((streams.recv other).channels id).sent = (streams.channels id).sent := by
  unfold ChatStreams.recv
  by_cases same : id = other
  · subst same
    show (Function.update streams.channels id (streams.channels id).recv id).sent = _
    rw [Function.update_self, Channel.recv]
    split
    · rfl
    · rfl
  · simp [same]

/-- **A frame that an operation puts on a channel** is published live to the owner's connection, or
it is replayed to the connection that an accepted request names. -/
theorem frame_put (indexed : Indexed streams.registry)
    (put : .frame frame ∈ ((streams.step owner op).channels id).sent) :
    .frame frame ∈ (streams.channels id).sent ∨ (op = .publishFrame frame ∧ streams.Receives
      (owner frame.conversationId) frame.conversationId id) ∨
    (∃ requester active present, op = .setSubscription requester id active present ∧
      acceptsSubscription owner requester active present = true ∧
      (∃ conn, streams.registry.clients.lookup id = some conn) ∧
      (streams.channels id).accepts = true ∧ frame ∈ streams.registry.replayOf active) := by
  cases op with
  | openChatStream other user =>
    rcases openChatStream_channels streams other user id with same | ⟨-, same⟩
    · exact Or.inl (same ▸ put)
    · have handshake : .frame frame ∈ [StreamItem.connected other] := same ▸ put
      simp at handshake
  | dropReceiver other => exact Or.inl (by rwa [ChatStreams.step, dropReceiver_sent] at put)
  | recv other => exact Or.inl (by rwa [ChatStreams.step, recv_sent] at put)
  | unregister | pruneClosed | pruneClosedForUser | beginGeneration
  | endGeneration => exact Or.inl put
  | publishFrame other =>
    have among : .frame frame ∈
      ((streams.publishFrame (owner other.conversationId) other).channels id).sent := put
    rw [publishFrame_sent indexed] at among
    split at among
    · rename_i receives
      rcases List.mem_append.mp among with old | new
      · exact Or.inl old
      · rw [List.mem_singleton, StreamItem.frame.injEq] at new
        subst new
        exact Or.inr (Or.inl ⟨rfl, receives⟩)
    · exact Or.inl among
  | publishRawEvent other event =>
    have among : .frame frame ∈
      ((streams.publishRawEvent (owner other) other event).channels id).sent := put
    rw [publishRawEvent_sent indexed] at among
    split at among
    · rcases List.mem_append.mp among with old | new
      · exact Or.inl old
      · simp at new
    · exact Or.inl among
  | setSubscription requester other active present =>
    have among : .frame frame ∈ ((if acceptsSubscription owner requester active present then
      streams.setSubscription other active else streams : ChatStreams).channels id).sent := put
    split at among
    · rename_i accepted
      cases found : streams.registry.clients.lookup other with
      | none =>
        rw [setSubscription_missing found] at among
        exact Or.inl among
      | some conn =>
        rw [setSubscription_channels found] at among
        by_cases same : id = other
        · subst same
          obtain ⟨count, sent, -, -, none⟩ := sendAll_sent (streams.channels id)
            ((streams.registry.replayOf active).map .frame)
          rw [Function.update_self, sent] at among
          rcases List.mem_append.mp among with old | new
          · exact Or.inl old
          · have accepts : (streams.channels id).accepts = true := by
              by_contra refuses
              simp [none (by simpa using refuses)] at new
            obtain ⟨replayed, member, here⟩ := List.mem_map.mp (List.mem_of_mem_take new)
            rw [StreamItem.frame.injEq] at here
            subst here
            exact Or.inr (Or.inr ⟨requester, active, present, rfl, accepted, ⟨conn, found⟩, accepts,
              member⟩)
        · rw [Function.update_of_ne same] at among
          exact Or.inl among
    · exact Or.inl among

end Puts

/-! ### The table and the buffers after an operation -/

section After

variable {owner : Owners} {streams : ChatStreams} {op : StreamOp} {conversation id user : Uuid}
  {conn : ChatConn} {registry : RegistryInner} {channels : Uuid → Channel}

theorem register_user {added : ChatConn}
    (found : (registry.register channels other added).1.clients.lookup id = some conn) :
    registry.clients.lookup id = some conn ∨ (id = other ∧ conn = added) := by
  unfold RegistryInner.register at found
  dsimp only at found
  split at found
  · exact Or.inl (sweepAll_within id conn found)
  · split at found
    · exact Or.inl (sweepAll_within id conn (sweepUser_within id conn found))
    · rw [lookup_insert_ite] at found
      split at found
      · rename_i same
        exact Or.inr ⟨same, (Option.some.inj found).symm⟩
      · exact Or.inl (sweepAll_within id conn (sweepUser_within id conn found))

theorem openChatStream_registry : (streams.openChatStream other user).registry =
    (streams.registry.register streams.channels other ⟨user, none⟩).1 := by
  unfold ChatStreams.openChatStream
  split <;> rename_i same <;> rw [same]

/-- **Where a connection of the table comes from**: it was there, points where it did unless this
operation points it elsewhere, or it was opened. -/
theorem step_lookup (indexed : Indexed streams.registry)
    (found : (streams.step owner op).registry.clients.lookup id = some conn) :
    streams.registry.clients.lookup id = some conn ∨
    (op = .openChatStream id conn.userId ∧ conn.activeConversation = none) ∨
    (∃ requester present before, op = .setSubscription requester id conn.activeConversation
      present ∧ acceptsSubscription owner requester conn.activeConversation present = true ∧
      streams.registry.clients.lookup id = some before ∧ before.userId = conn.userId ∧
      streams.overruns id conn.activeConversation = false) := by
  cases op with
  | openChatStream other user =>
    have registered : (streams.openChatStream other user).registry.clients.lookup id = some conn :=
      found
    rw [openChatStream_registry] at registered
    rcases register_user registered with old | ⟨rfl, rfl⟩
    · exact Or.inl old
    · exact Or.inr (Or.inl ⟨rfl, rfl⟩)
  | dropReceiver | recv => exact Or.inl found
  | unregister other =>
    have still : (streams.registry.removeConn other).clients.lookup id = some conn := found
    rw [RegistryInner.removeConn_lookup] at still
    split at still
    · cases still
    · exact Or.inl still
  | pruneClosed =>
    have still : (streams.registry.pruneClosed streams.channels).clients.lookup id = some conn :=
      found
    rw [pruneClosed_lookup] at still
    split at still
    · cases still
    · exact Or.inl still
  | pruneClosedForUser user =>
    have still : (streams.registry.pruneClosedForUser streams.channels user).clients.lookup id =
      some conn := found
    rw [pruneClosedForUser_lookup indexed] at still
    split at still
    · cases still
    · exact Or.inl still
  | beginGeneration other =>
    have still : (streams.registry.beginGeneration other).1.clients.lookup id = some conn := found
    unfold RegistryInner.beginGeneration at still
    split at still
    · exact Or.inl still
    · exact Or.inl still
  | endGeneration other => exact Or.inl found
  | publishFrame frame =>
    have still := (publishFrame_lookup indexed).symm.trans found
    split at still
    · cases still
    · exact Or.inl still
  | publishRawEvent other event =>
    have still := (publishRawEvent_lookup indexed).symm.trans found
    split at still
    · cases still
    · exact Or.inl still
  | setSubscription requester other active present =>
    have still : (if acceptsSubscription owner requester active present then
      streams.setSubscription other active else streams).registry.clients.lookup id = some conn :=
        found
    split at still
    · rename_i accepted
      cases pointed : streams.registry.clients.lookup other with
      | none =>
        rw [setSubscription_missing pointed] at still
        exact Or.inl still
      | some before =>
        rw [setSubscription_lookup pointed] at still
        by_cases same : id = other
        · subst same
          rw [if_pos rfl] at still
          split at still
          · cases still
          · rename_i fits
            cases still
            exact Or.inr (Or.inr ⟨requester, present, before, rfl, accepted, pointed, rfl,
              by simpa using fits⟩)
        · rw [if_neg same] at still
          exact Or.inl still
    · exact Or.inl still

theorem step_sent_absent (indexed : Indexed streams.registry)
    (absent : streams.registry.clients.lookup id = none)
    (unopened : ∀ user, op ≠ .openChatStream id user) :
    ((streams.step owner op).channels id).sent = (streams.channels id).sent := by
  have outside : ∀ {user conversation : Uuid}, ¬streams.Receives user conversation id := by
    rintro user conversation ⟨member, -, -⟩
    obtain ⟨conn, found, -⟩ := (indexed.exact user id).mp member
    rw [absent] at found
    cases found
  cases op with
  | openChatStream other user =>
    rcases openChatStream_channels streams other user id with same | ⟨rfl, -⟩
    · exact congrArg Channel.sent same
    · exact absurd rfl (unopened user)
  | dropReceiver other => exact dropReceiver_sent
  | recv other => exact recv_sent
  | unregister | pruneClosed | pruneClosedForUser | beginGeneration | endGeneration => rfl
  | publishFrame frame =>
    exact (publishFrame_sent indexed).trans (if_neg outside)
  | publishRawEvent other event => exact (publishRawEvent_sent indexed).trans (if_neg outside)
  | setSubscription requester other active present =>
    show ((if _ then _ else _ : ChatStreams).channels id).sent = _
    split
    · cases pointed : streams.registry.clients.lookup other with
      | none => rw [setSubscription_missing pointed]
      | some conn =>
        rw [setSubscription_channels pointed, Function.update_of_ne]
        rintro rfl
        rw [absent] at pointed
        cases pointed
    · rfl

theorem evict_suffix (frames : List (ChatStreamFrame × Nat)) (bytes : Nat) :
    (GenerationBuffer.evict frames bytes).1 <:+ frames := by
  fun_induction GenerationBuffer.evict frames bytes with
  | case1 bytes first second rest full ih => exact ih.trans (List.suffix_cons _ _)
  | case2 bytes first second rest fits => exact List.suffix_refl _
  | case3 frames bytes other => exact List.suffix_refl _

theorem mem_replay_push {buffer : GenerationBuffer} {pushed : ChatStreamFrame}
    (member : frame ∈ (buffer.push pushed).replay) : frame = pushed ∨ frame ∈ buffer.replay := by
  unfold GenerationBuffer.push at member
  split at member
  · simp only [GenerationBuffer.replay, Option.toList_some, List.mem_append,
      List.mem_singleton] at *
    tauto
  · simp only [GenerationBuffer.replay, List.mem_append, List.mem_map] at *
    rcases member with started | ⟨entry, kept, rfl⟩
    · exact Or.inr (Or.inl started)
    · have before := (evict_suffix _ _).subset kept
      rcases List.mem_append.mp before with old | new
      · exact Or.inr (Or.inr ⟨entry, old, rfl⟩)
      · rw [List.mem_singleton.mp new]
        exact Or.inl rfl

theorem step_replay {buffer : GenerationBuffer}
    (found : (streams.step owner op).registry.generations.lookup conversation = some buffer)
    (member : frame ∈ buffer.replay) : frame.conversationId = conversation ∨
    ∃ before, streams.registry.generations.lookup conversation = some before ∧
      frame ∈ before.replay := by
  rw [step_buffer] at found
  have empty : ∀ {buffer : GenerationBuffer}, buffer = .empty → frame ∉ buffer.replay := by
    rintro _ rfl
    simp [GenerationBuffer.replay, GenerationBuffer.empty]
  cases op with
  | beginGeneration other =>
    simp only [StreamOp.buffer] at found
    split at found
    · cases before : streams.registry.generations.lookup conversation with
      | none =>
        rw [before] at found
        exact absurd member (empty (Option.some.inj found).symm)
      | some old =>
        rw [before] at found
        exact Or.inr ⟨old, rfl, Option.some.inj found ▸ member⟩
    · exact Or.inr ⟨buffer, found, member⟩
  | endGeneration other =>
    simp only [StreamOp.buffer] at found
    split at found
    · cases found
    · exact Or.inr ⟨buffer, found, member⟩
  | publishFrame published =>
    simp only [StreamOp.buffer] at found
    split at found
    · rename_i same
      split at found
      · cases found
      · rw [← Option.some.inj found] at member
        rcases mem_replay_push member with rfl | old
        · exact Or.inl same.symm
        · cases before : streams.registry.generations.lookup conversation with
          | none =>
            rw [before] at old
            exact absurd old (empty rfl)
          | some buffer =>
            rw [before] at old
            exact Or.inr ⟨buffer, rfl, old⟩
    · exact Or.inr ⟨buffer, found, member⟩
  | _ => exact Or.inr ⟨buffer, found, member⟩

end After

/-! ### Runs -/

def StreamOp.opens : StreamOp → Option Uuid
  | .openChatStream id _ => some id
  | _ => none

/-- **No id is used twice**: `Uuid::new_v4` makes a new one for every connection. -/
def NewIds (ops : List StreamOp) : Prop := (ops.filterMap StreamOp.opens).Nodup

/-- **Every frame on the channel of a connection is its user's.** -/
def Isolated (owner : Owners) (limits : ChatStreamLimits) (ops : List StreamOp) : Prop :=
  ∀ id user frame, .openChatStream id user ∈ ops →
    .frame frame ∈ (((ChatStreams.boot limits).run owner ops).channels id).sent →
    owner frame.conversationId = user

/-- An accepted request that names the connection of another user comes when that is sent nothing:
there is nothing to replay, or its channel takes nothing. -/
def NamesOwn (owner : Owners) (limits : ChatStreamLimits) (before : List StreamOp) (op : StreamOp) :
    Prop :=
  ∀ user id active present conn, op = .setSubscription user id active present →
    acceptsSubscription owner user active present = true →
    ((ChatStreams.boot limits).run owner before).registry.clients.lookup id = some conn →
    conn.userId = user ∨
    ((ChatStreams.boot limits).run owner before).registry.replayOf active = [] ∨
    (((ChatStreams.boot limits).run owner before).channels id).accepts = false

section Runs

variable {owner : Owners} {limits : ChatStreamLimits} {ops : List StreamOp} {op : StreamOp}
  {conversation id user : Uuid} {conn : ChatConn}

theorem newIds_left {later : List StreamOp} (newIds : NewIds (ops ++ later)) : NewIds ops := by
  unfold NewIds at newIds
  rw [List.filterMap_append] at newIds
  exact (List.nodup_append.mp newIds).1

theorem newIds_concat (newIds : NewIds (ops ++ [op])) : NewIds ops := newIds_left newIds

theorem newIds_fresh (newIds : NewIds (ops ++ [.openChatStream id user]))
    (opened : .openChatStream id other ∈ ops) : False := by
  unfold NewIds at newIds
  rw [List.filterMap_append] at newIds
  have member : id ∈ ops.filterMap StreamOp.opens := List.mem_filterMap.mpr ⟨_, opened, rfl⟩
  exact (List.nodup_append.mp newIds).2.2 id member id (by simp [StreamOp.opens]) rfl

theorem newIds_user (newIds : NewIds ops) (opened : .openChatStream id user ∈ ops)
    (again : .openChatStream id other ∈ ops) : user = other := by
  induction ops using List.reverseRecOn with
  | nil => cases opened
  | append_singleton ops op ih =>
    rcases List.mem_append.mp opened with opened | here
    · rcases List.mem_append.mp again with again | there
      · exact ih (newIds_concat newIds) opened again
      · rw [← List.mem_singleton.mp there] at newIds
        exact (newIds_fresh newIds opened).elim
    · rcases List.mem_append.mp again with again | there
      · rw [← List.mem_singleton.mp here] at newIds
        exact (newIds_fresh newIds again).elim
      · have same := (List.mem_singleton.mp here).trans (List.mem_singleton.mp there).symm
        cases same
        rfl

structure RunFacts (owner : Owners) (limits : ChatStreamLimits) (ops : List StreamOp) : Prop where
  reachable : Reachable owner limits ((ChatStreams.boot limits).run owner ops)
  /-- The connections of the table were opened by their users. -/
  opened : ∀ id conn, ((ChatStreams.boot limits).run owner ops).registry.clients.lookup id =
    some conn → .openChatStream id conn.userId ∈ ops
  /-- Nothing is put on the channel of a connection before it is opened. -/
  unopened : ∀ id, (∀ user, .openChatStream id user ∉ ops) →
    (((ChatStreams.boot limits).run owner ops).channels id).sent = []
  /-- The buffers hold frames of their conversations. -/
  buffered : ∀ conversation buffer,
    ((ChatStreams.boot limits).run owner ops).registry.generations.lookup conversation =
      some buffer →
    ∀ frame ∈ buffer.replay, frame.conversationId = conversation

theorem runFacts_nil : RunFacts owner limits [] where
  reachable := .boot
  opened := by
    intro id conn found
    simp [ChatStreams.run, ChatStreams.boot, RegistryInner.empty] at found
  unopened := fun id _ => rfl
  buffered := by
    intro conversation buffer found
    simp [ChatStreams.run, ChatStreams.boot, RegistryInner.empty] at found

theorem RunFacts.concat (facts : RunFacts owner limits ops) (newIds : NewIds (ops ++ [op])) :
    RunFacts owner limits (ops ++ [op]) := by
  have indexed := facts.reachable.sound.1
  have absent : ∀ id user, op = .openChatStream id user →
      ((ChatStreams.boot limits).run owner ops).registry.clients.lookup id = none := by
    rintro id user rfl
    refine Option.eq_none_iff_forall_ne_some.mpr fun conn found => ?_
    exact newIds_fresh newIds (facts.opened id conn found)
  refine ⟨?_, fun id conn found => ?_, fun id none =>
    ?_, fun conversation buffer found frame member =>
    ?_⟩
  · rw [run_concat]
    refine .step facts.reachable ?_
    cases op with
    | openChatStream id user => exact absent id user rfl
    | _ => trivial
  · rw [run_concat] at found
    rcases step_lookup indexed found with old | ⟨rfl, -⟩ | ⟨_, _, before, -, -, old, same, -⟩
    · exact List.mem_append_left _ (facts.opened id conn old)
    · exact List.mem_append_right _ (List.mem_singleton_self _)
    · rw [← same]
      exact List.mem_append_left _ (facts.opened id before old)
  · have earlier : ∀ user, .openChatStream id user ∉ ops := fun user member =>
      none user (List.mem_append_left _ member)
    have missing : ((ChatStreams.boot limits).run owner ops).registry.clients.lookup id = .none :=
      Option.eq_none_iff_forall_ne_some.mpr fun conn found => earlier _ (facts.opened id conn found)
    rw [run_concat, step_sent_absent indexed missing, facts.unopened id earlier]
    rintro user rfl
    exact none user (by simp)
  · rw [run_concat] at found
    rcases step_replay found member with here | ⟨before, old, kept⟩
    · exact here
    · exact facts.buffered conversation before old frame kept

theorem runFacts (newIds : NewIds ops) : RunFacts owner limits ops := by
  induction ops using List.reverseRecOn with
  | nil => exact runFacts_nil
  | append_singleton ops op ih => exact (ih (newIds_concat newIds)).concat newIds

theorem RunFacts.replayed (facts : RunFacts owner limits ops)
    (member : frame ∈ ((ChatStreams.boot limits).run owner ops).registry.replayOf active) :
    active = some frame.conversationId := by
  unfold RegistryInner.replayOf at member
  split at member
  · rename_i conversation
    cases found : ((ChatStreams.boot limits).run owner ops).registry.generations.lookup
        conversation with
    | none => simp [found] at member
    | some buffer =>
      rw [found] at member
      rw [facts.buffered conversation buffer found frame member]
  · cases member

theorem accepted_owner {requester : Uuid} {present : Bool}
    (accepted : acceptsSubscription owner requester (some conversation) present = true) :
    owner conversation = requester := by
  unfold acceptsSubscription at accepted
  simp only [Bool.and_eq_true, decide_eq_true_eq] at accepted
  exact accepted.2

/-- **One operation keeps the isolation** when it names no other user's connection. -/
theorem Isolated.concat (isolated : Isolated owner limits ops) (newIds : NewIds (ops ++ [op]))
    (own : NamesOwn owner limits ops op) : Isolated owner limits (ops ++ [op]) := by
  have facts : RunFacts owner limits ops := runFacts (newIds_concat newIds)
  have indexed := facts.reachable.sound.1
  intro id user frame opened put
  rw [run_concat] at put
  -- the connection of the table was opened by this user
  have opener : ∀ conn,
      ((ChatStreams.boot limits).run owner ops).registry.clients.lookup id = some conn →
      conn.userId = user := by
    intro conn found
    exact newIds_user newIds (List.mem_append_left _ (facts.opened id conn found)) opened
  rcases frame_put indexed put with old | ⟨-, member, -, -⟩ |
    ⟨requester, active, present, rfl, accepted, ⟨conn, found⟩, accepts, replayed⟩
  · rcases List.mem_append.mp opened with before | here
    · exact isolated id user frame before old
    · rw [← List.mem_singleton.mp here] at newIds
      rw [facts.unopened id fun user before => newIds_fresh newIds before] at old
      cases old
  · obtain ⟨conn, found, same⟩ := (indexed.exact _ id).mp member
    rw [← same, opener conn found]
  · have active := facts.replayed replayed
    subst active
    rcases own requester id _ present conn rfl accepted found with mine | nothing | refuses
    · rw [accepted_owner accepted, ← mine, opener conn found]
    · rw [nothing] at replayed
      cases replayed
    · rw [accepts] at refuses
      cases refuses

theorem namesOwn_of_isolated (newIds : NewIds (ops ++ [op]))
    (isolated : Isolated owner limits (ops ++ [op])) : NamesOwn owner limits ops op := by
  have facts : RunFacts owner limits ops := runFacts (newIds_concat newIds)
  rintro requester id active present conn rfl accepted found
  by_contra foreign
  simp only [not_or, Bool.not_eq_false] at foreign
  obtain ⟨other, some, accepts⟩ := foreign
  obtain ⟨frame, rest, replay⟩ := List.exists_cons_of_ne_nil some
  have opened := facts.opened id conn found
  have put : .frame frame ∈ (((ChatStreams.boot limits).run owner
      (ops ++ [.setSubscription requester id active present])).channels id).sent := by
    obtain ⟨count, sent, -, positive, -⟩ := sendAll_sent
      (((ChatStreams.boot limits).run owner ops).channels id)
      ((((ChatStreams.boot limits).run owner ops).registry.replayOf active).map .frame)
    rw [run_concat]
    show _ ∈ ((if acceptsSubscription owner requester active present then _ else _ :
      ChatStreams).channels id).sent
    rw [if_pos accepted, setSubscription_channels found, Function.update_self, sent, replay]
    obtain ⟨more, rfl⟩ := Nat.exists_eq_succ_of_ne_zero (positive accepts (by simp [replay])).ne'
    simp
  have replayed := facts.replayed (replay ▸ List.mem_cons_self : frame ∈ _)
  subst replayed
  have same := isolated id conn.userId frame (List.mem_append_left _ opened) put
  exact other (same.symm.trans (accepted_owner accepted))

theorem isolated_nil : Isolated owner limits [] := by
  intro id user frame opened
  cases opened

/-- **Frames stay with their user**, in every state of a run, exactly when no accepted request names
another user's connection that is then sent a frame. -/
theorem isolated_iff (newIds : NewIds ops) :
    (∀ before, before <+: ops → Isolated owner limits before) ↔
      EachStep (NamesOwn owner limits) ops := by
  have closed : ∀ ops op, NewIds (ops ++ [op]) → NewIds ops := fun _ _ => newIds_concat
  refine prefixes_iff closed isolated_nil (fun ops op newIds isolated => ?_) newIds
  exact ⟨namesOwn_of_isolated newIds, isolated.concat newIds⟩

/-- User 7 opens connection 1 and points it at conversation 5 in the middle of a generation. -/
def ownSubscription : List StreamOp :=
  [.openChatStream 1 7, .beginGeneration 5, .publishFrame (frameOf "Started")] ++
    [.setSubscription 7 1 (some 5) true]

theorem isolated_iff_own : Isolated (fun _ => 7) .default ownSubscription := by
  have newIds : NewIds ownSubscription := List.nodup_singleton (1 : Uuid)
  refine (isolated_iff newIds).mpr (eachStep_concat.mpr
    ⟨eachStep_of_forall fun op member before => ?_, ?_⟩) _ (List.prefix_refl _)
  · rintro user id active present conn rfl
    simp at member
  · rintro user id active present conn same _ found
    cases same
    have here : conn = ⟨7, none⟩ := (Option.some.inj found).symm
    rw [here]
    exact Or.inl rfl

end Runs

/-! ### A foreign connection -/

/-- User 8 opens connection 1; user 7, who owns conversation 5, names it. -/
def foreignSubscription : List StreamOp :=
  [.openChatStream 1 8, .beginGeneration 5, .publishFrame (frameOf "Started"),
    .setSubscription 7 1 (some 5) true]

/-- **User 8 is sent the reply of user 7.** -/
theorem foreign_subscription_leaks : ¬Isolated (fun _ => 7) .default foreignSubscription := by
  intro isolated
  have sent : (((ChatStreams.boot .default).run (fun _ => 7) foreignSubscription).channels 1).sent =
      [.connected 1, .frame (frameOf "Started")] := by
    rfl
  have leaked := isolated 1 8 (frameOf "Started") (by simp [foreignSubscription])
    (by rw [sent]; simp)
  revert leaked
  decide

end Ziee.Chat
