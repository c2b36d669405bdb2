/-
**The connection table and its index.**

Two maps hold the connections: the table by id, and the set of ids of each user. Half a dozen
operations remove connections, most of them as a side effect of something else.

* `Indexed` — the index holds an id for a user exactly when the table does, without empty sets.
* **`registry_kept`** — all of it holds in every state that operations lead to.
-/

import Ziee.Chat.StreamRegistry

namespace Ziee.Chat

open Ziee.Agent (Uuid)
open Ziee.Scheduler (AppError)

section Index

variable {byUser : UserIndex} {user other id : Uuid}

theorem dropIndex_lookup : ((RegistryInner.dropIndex byUser user id).lookup other).getD [] =
    if other = user then ((byUser.lookup user).getD []).erase id
    else (byUser.lookup other).getD [] := by
  unfold RegistryInner.dropIndex
  by_cases same : other = user
  · subst same
    rw [if_pos rfl]
    split
    · rename_i missing
      simp [missing]
    · rename_i ids found
      rw [found, Option.getD_some]
      split
      · rename_i last
        rw [AList.lookup_erase, last]
        rfl
      · rw [AList.lookup_insert]
        rfl
  · rw [if_neg same]
    split
    · rfl
    · split
      · rw [AList.lookup_erase_ne same]
      · rw [AList.lookup_insert_ne same]

theorem dropIndex_inhabited (inhabited : ∀ user, byUser.lookup user ≠ some []) :
    (RegistryInner.dropIndex byUser user id).lookup other ≠ some [] := by
  unfold RegistryInner.dropIndex
  split
  · exact inhabited other
  · rename_i ids found
    split
    · rw [lookup_erase_ite]
      split
      · nofun
      · exact inhabited other
    · rename_i more
      rw [lookup_insert_ite]
      split
      · simpa using more
      · exact inhabited other

end Index

/-- **The index agrees with the table.** -/
structure Indexed (registry : RegistryInner) : Prop where
  exact : ∀ user id, id ∈ registry.idsOf user ↔
    ∃ conn, registry.clients.lookup id = some conn ∧ conn.userId = user
  inhabited : ∀ user, registry.byUser.lookup user ≠ some []
  distinct : ∀ user, (registry.idsOf user).Nodup

/-- **The caps.** -/
structure Capped (registry : RegistryInner) : Prop where
  perUser : ∀ user, (registry.idsOf user).length ≤ registry.limits.perUserMaxConnections
  total : registry.clients.keys.length ≤ registry.limits.globalMaxConnections

section Removal

variable {registry : RegistryInner} {channels : Uuid → Channel} {id other user : Uuid}
  {ids : List Uuid}

theorem removeConn_idsOf (indexed : Indexed registry) :
    (registry.removeConn id).idsOf user = (registry.idsOf user).erase id := by
  unfold RegistryInner.removeConn
  split
  · rename_i missing
    refine (List.erase_of_not_mem fun member => ?_).symm
    obtain ⟨conn, found, -⟩ := (indexed.exact user id).mp member
    rw [missing] at found
    cases found
  · rename_i conn found
    unfold RegistryInner.idsOf
    rw [dropIndex_lookup]
    by_cases same : user = conn.userId
    · rw [if_pos same, same]
    · rw [if_neg same]
      refine (List.erase_of_not_mem fun member => same ?_).symm
      obtain ⟨conn', found', rfl⟩ := (indexed.exact user id).mp member
      rw [found] at found'
      rw [Option.some.inj found']

theorem Indexed.removeConn (indexed : Indexed registry) : Indexed (registry.removeConn id) where
  exact := fun user other => by
    rw [removeConn_idsOf indexed, (indexed.distinct user).mem_erase_iff, indexed.exact user other,
      RegistryInner.removeConn_lookup]
    by_cases same : other = id
    · simp [same]
    · simp [same]
  inhabited := fun user => by
    unfold RegistryInner.removeConn
    split
    · exact indexed.inhabited user
    · exact dropIndex_inhabited indexed.inhabited
  distinct := fun user => by
    rw [removeConn_idsOf indexed]
    exact (indexed.distinct user).erase id

theorem removeConn_keys : (registry.removeConn id).clients.keys.length ≤
    registry.clients.keys.length := by
  unfold RegistryInner.removeConn
  split
  · exact le_rfl
  · show (registry.clients.erase id).keys.length ≤ _
    rw [AList.keys_erase]
    exact List.length_erase_le

theorem Capped.removeConn (capped : Capped registry) (indexed : Indexed registry) :
    Capped (registry.removeConn id) where
  perUser := fun user => by
    rw [removeConn_idsOf indexed, RegistryInner.removeConn_limits]
    exact List.length_erase_le.trans (capped.perUser user)
  total := by
    rw [RegistryInner.removeConn_limits]
    exact removeConn_keys.trans capped.total

/-- What holds of a registry whose two maps agree and whose caps are kept. -/
def Sound (registry : RegistryInner) : Prop := Indexed registry ∧ Capped registry

theorem Sound.removeConn (sound : Sound registry) : Sound (registry.removeConn id) :=
  ⟨sound.1.removeConn, sound.2.removeConn sound.1⟩

theorem Sound.removeConns (sound : Sound registry) : Sound (registry.removeConns ids) := by
  induction ids generalizing registry with
  | nil => exact sound
  | cons id rest ih => exact ih sound.removeConn

theorem sweepConn_clients :
    (registry.sweepConn user id).clients = (registry.removeConn id).clients := rfl

theorem sweepConn_idsOf (indexed : Indexed registry) :
    (registry.sweepConn user id).idsOf other = (registry.removeConn id).idsOf other := by
  show ((RegistryInner.dropIndex (registry.removeConn id).byUser user id).lookup other).getD [] = _
  rw [dropIndex_lookup]
  by_cases same : other = user
  · rw [if_pos same, same]
    refine List.erase_of_not_mem ?_
    show id ∉ (registry.removeConn id).idsOf user
    rw [removeConn_idsOf indexed]
    exact (indexed.distinct user).not_mem_erase
  · rw [if_neg same]
    rfl

theorem Sound.sweepConn (sound : Sound registry) : Sound (registry.sweepConn user id) := by
  have removed : Sound (registry.removeConn id) := sound.removeConn
  refine ⟨⟨fun other key => ?_, fun other => ?_, fun other => ?_⟩, fun other => ?_, removed.2.total⟩
  · rw [sweepConn_idsOf sound.1]
    exact removed.1.exact other key
  · exact dropIndex_inhabited removed.1.inhabited
  · rw [sweepConn_idsOf sound.1]
    exact removed.1.distinct other
  · rw [sweepConn_idsOf sound.1]
    exact removed.2.perUser other

theorem sweep_lookup : (ids.foldl (RegistryInner.sweepConn user) registry).clients.lookup other =
    if other ∈ ids then none else registry.clients.lookup other := by
  induction ids generalizing registry with
  | nil => rfl
  | cons id rest ih =>
    rw [List.foldl_cons, ih, sweepConn_clients, RegistryInner.removeConn_lookup]
    by_cases same : other = id
    · simp [same]
    · simp [same]

theorem Sound.sweep (sound : Sound registry) :
    Sound (ids.foldl (RegistryInner.sweepConn user) registry) := by
  induction ids generalizing registry with
  | nil => exact sound
  | cons id rest ih => exact ih sound.sweepConn

theorem sweep_limits :
    (ids.foldl (RegistryInner.sweepConn user) registry).limits = registry.limits := by
  induction ids generalizing registry with
  | nil => rfl
  | cons id rest ih => exact ih.trans RegistryInner.removeConn_limits

theorem mem_keys_iff : id ∈ registry.clients.keys ↔ (registry.clients.lookup id).isSome := by
  rw [AList.lookup_isSome, AList.mem_keys]

/-- One table has no connection that the other lacks. -/
def Within (after before : RegistryInner) : Prop :=
  ∀ id conn, after.clients.lookup id = some conn → before.clients.lookup id = some conn

theorem Within.keys_length {after : RegistryInner} (within : Within after registry) :
    after.clients.keys.length ≤ registry.clients.keys.length := by
  refine (List.subperm_of_subset (AList.keys_nodup _) fun id member => ?_).length_le
  obtain ⟨conn, found⟩ := Option.isSome_iff_exists.mp (mem_keys_iff.mp member)
  rw [mem_keys_iff, within id conn found]
  rfl

/-! ### Sweeps -/

/-- **A full sweep removes the connections whose receiver is gone.** -/
theorem pruneClosed_lookup : (registry.pruneClosed channels).clients.lookup id =
    if (channels id).closed then none else registry.clients.lookup id := by
  unfold RegistryInner.pruneClosed
  rw [RegistryInner.removeConns_lookup]
  simp only [List.mem_filter, mem_keys_iff]
  cases found : registry.clients.lookup id with
  | none | some => simp

/-- **A sweep of one user removes those of that user.** -/
theorem pruneClosedForUser_lookup (indexed : Indexed registry) :
    (registry.pruneClosedForUser channels user).clients.lookup id =
      if id ∈ registry.idsOf user ∧ (channels id).closed = true then none
      else registry.clients.lookup id := by
  unfold RegistryInner.pruneClosedForUser
  rw [sweep_lookup]
  simp only [List.mem_filter]
  by_cases member : id ∈ registry.idsOf user
  · obtain ⟨conn, found, -⟩ := (indexed.exact user id).mp member
    simp [member, found]
  · simp [member]

theorem Sound.pruneClosed (sound : Sound registry) : Sound (registry.pruneClosed channels) :=
  sound.removeConns

theorem Sound.pruneClosedForUser (sound : Sound registry) :
    Sound (registry.pruneClosedForUser channels user) := sound.sweep

theorem Sound.sweepAll (sound : Sound registry) : Sound (registry.sweepAll channels) := by
  unfold RegistryInner.sweepAll
  split
  · exact sound.pruneClosed
  · exact sound

theorem Sound.sweepUser (sound : Sound registry) : Sound (registry.sweepUser channels user) := by
  unfold RegistryInner.sweepUser
  split
  · exact sound.pruneClosedForUser
  · exact sound

@[simp] theorem sweepAll_limits : (registry.sweepAll channels).limits = registry.limits := by
  unfold RegistryInner.sweepAll
  split
  · exact RegistryInner.removeConns_limits
  · rfl

@[simp] theorem sweepUser_limits : (registry.sweepUser channels user).limits = registry.limits := by
  unfold RegistryInner.sweepUser
  split
  · exact sweep_limits
  · rfl

theorem sweepAll_within : Within (registry.sweepAll channels) registry := by
  intro id conn found
  unfold RegistryInner.sweepAll at found
  split at found
  · rw [pruneClosed_lookup] at found
    split at found
    · cases found
    · exact found
  · exact found

theorem sweepUser_within : Within (registry.sweepUser channels user) registry := by
  intro id conn found
  unfold RegistryInner.sweepUser at found
  split at found
  · unfold RegistryInner.pruneClosedForUser at found
    rw [sweep_lookup] at found
    split at found
    · cases found
    · exact found
  · exact found

theorem sweepAll_lookup {conn : ChatConn} (found : registry.clients.lookup id = some conn)
    (live : (channels id).closed = false) :
    (registry.sweepAll channels).clients.lookup id = some conn := by
  unfold RegistryInner.sweepAll
  split
  · rw [pruneClosed_lookup, live, if_neg Bool.false_ne_true, found]
  · exact found

theorem sweepUser_lookup {conn : ChatConn} (indexed : Indexed registry)
    (found : registry.clients.lookup id = some conn) (live : (channels id).closed = false) :
    (registry.sweepUser channels user).clients.lookup id = some conn := by
  unfold RegistryInner.sweepUser
  split
  · rw [pruneClosedForUser_lookup indexed, live]
    simp [found]
  · exact found

end Removal

/-! ### Registration -/

section Register

variable {registry after : RegistryInner} {channels : Uuid → Channel} {id user : Uuid}
  {conn : ChatConn} {error : AppError}

/-- The connections of the table whose receiver is there. -/
def liveConnections (registry : RegistryInner) (channels : Uuid → Channel) : List Uuid :=
  registry.clients.keys.filter fun id => !(channels id).closed

def liveConnectionsOf (registry : RegistryInner) (channels : Uuid → Channel) (user : Uuid) :
    List Uuid :=
  (registry.idsOf user).filter fun id => !(channels id).closed

theorem length_le_of_subset {ids others : List Uuid} (distinct : ids.Nodup)
    (subset : ids ⊆ others) : ids.length ≤ others.length :=
  (List.subperm_of_subset distinct subset).length_le

theorem sweepAll_keys (full : registry.limits.globalMaxConnections ≤
      (registry.sweepAll channels).clients.keys.length) :
    registry.limits.globalMaxConnections ≤ (liveConnections registry channels).length := by
  refine full.trans (length_le_of_subset (AList.keys_nodup _) fun id member => ?_)
  unfold RegistryInner.sweepAll at full member
  by_cases cap : registry.limits.globalMaxConnections ≤ registry.clients.keys.length
  · rw [if_pos cap, mem_keys_iff, pruneClosed_lookup] at member
    rw [liveConnections, List.mem_filter, mem_keys_iff]
    by_cases gone : (channels id).closed
    · simp [gone] at member
    · simpa [gone] using member
  · rw [if_neg cap] at full
    exact absurd full cap

theorem sweepUser_ids (sound : Sound registry) (full : registry.limits.perUserMaxConnections ≤
      ((registry.sweepUser channels user).idsOf user).length) :
    registry.limits.perUserMaxConnections ≤ (liveConnectionsOf registry channels user).length := by
  have swept : Sound (registry.sweepUser channels user) := sound.sweepUser
  refine full.trans (length_le_of_subset (swept.1.distinct user) fun id member => ?_)
  obtain ⟨conn, found, same⟩ := (swept.1.exact user id).mp member
  unfold RegistryInner.sweepUser at full found
  by_cases cap : registry.limits.perUserMaxConnections ≤ (registry.idsOf user).length
  · rw [if_pos cap, pruneClosedForUser_lookup sound.1] at found
    rw [liveConnectionsOf, List.mem_filter]
    split at found
    · cases found
    · rename_i kept
      have here := (sound.1.exact user id).mpr ⟨conn, found, same⟩
      exact ⟨here, by simpa using fun closed => kept ⟨here, closed⟩⟩
  · rw [if_neg cap] at full
    exact absurd full cap

theorem sweepAll_liveConnectionsOf (sound : Sound registry) :
    (liveConnectionsOf (registry.sweepAll channels) channels user).length ≤
      (liveConnectionsOf registry channels user).length := by
  have swept : Sound (registry.sweepAll channels) := sound.sweepAll
  refine length_le_of_subset ((swept.1.distinct user).filter _) fun id member => ?_
  obtain ⟨among, live⟩ := List.mem_filter.mp member
  obtain ⟨conn, found, same⟩ := (swept.1.exact user id).mp among
  exact List.mem_filter.mpr
    ⟨(sound.1.exact user id).mpr ⟨conn, sweepAll_within id conn found, same⟩, live⟩

/-- **A registration is refused only when live connections reach a cap.** -/
theorem register_refused (sound : Sound registry)
    (refused : registry.register channels id conn = (after, .error error)) :
    (error = RegistryInner.globalLimit ∧
      registry.limits.globalMaxConnections ≤ (liveConnections registry channels).length) ∨
    (error = RegistryInner.userLimit ∧ registry.limits.perUserMaxConnections ≤
        (liveConnectionsOf registry channels conn.userId).length) := by
  unfold RegistryInner.register at refused
  dsimp only at refused
  split at refused
  · rename_i full
    obtain ⟨-, same⟩ := Prod.mk.inj refused
    rw [sweepAll_limits] at full
    exact Or.inl ⟨(Except.error.inj same).symm, sweepAll_keys full⟩
  · split at refused
    · rename_i full
      obtain ⟨-, same⟩ := Prod.mk.inj refused
      rw [sweepUser_limits] at full
      have live := sweepUser_ids sound.sweepAll full
      rw [sweepAll_limits] at live
      exact Or.inr ⟨(Except.error.inj same).symm, live.trans (sweepAll_liveConnectionsOf sound)⟩
    · cases refused

theorem Sound.insert (sound : Sound registry) (fresh : registry.clients.lookup id = none)
    (room : registry.clients.keys.length < registry.limits.globalMaxConnections)
    (slot : (registry.idsOf conn.userId).length < registry.limits.perUserMaxConnections) :
    Sound { registry with
      byUser := registry.byUser.insert conn.userId ((registry.idsOf conn.userId).insert id)
      clients := registry.clients.insert id conn } := by
  have unknown : ∀ user, id ∉ registry.idsOf user := by
    intro user member
    obtain ⟨_, found, -⟩ := (sound.1.exact user id).mp member
    rw [fresh] at found
    cases found
  have added : (registry.idsOf conn.userId).insert id = id :: registry.idsOf conn.userId :=
    List.insert_of_not_mem (unknown conn.userId)
  rw [added]
  have sets : ∀ user, ((registry.byUser.insert conn.userId
      (id :: registry.idsOf conn.userId)).lookup user).getD [] =
      if user = conn.userId then id :: registry.idsOf conn.userId else registry.idsOf user := by
    intro user
    rw [lookup_insert_ite]
    split
    · rfl
    · rfl
  refine ⟨⟨fun user other => ?_, fun user => ?_, fun user => ?_⟩, fun user => ?_, ?_⟩
  · rw [RegistryInner.idsOf, sets, lookup_insert_ite]
    by_cases same : other = id
    · subst same
      by_cases mine : user = conn.userId
      · simp [mine]
      · simp [mine, unknown user, Ne.symm mine]
    · rw [if_neg same, ← sound.1.exact user other]
      by_cases mine : user = conn.userId
      · simp [mine, same]
      · simp [mine]
  · rw [lookup_insert_ite]
    split
    · simp
    · exact sound.1.inhabited user
  · rw [RegistryInner.idsOf, sets]
    split
    · exact List.nodup_cons.mpr ⟨unknown _, sound.1.distinct _⟩
    · exact sound.1.distinct user
  · rw [RegistryInner.idsOf, sets]
    split
    · exact slot
    · exact sound.2.perUser user
  · have absent : id ∉ registry.clients.keys := by
      rw [mem_keys_iff, fresh]
      simp
    rw [AList.keys_insert, List.erase_of_not_mem absent]
    exact room

theorem Sound.register (sound : Sound registry) (fresh : registry.clients.lookup id = none) :
    Sound (registry.register channels id conn).1 := by
  unfold RegistryInner.register
  dsimp only
  split
  · exact sound.sweepAll
  · rename_i room
    split
    · exact sound.sweepAll.sweepUser
    · rename_i slot
      refine sound.sweepAll.sweepUser.insert ?_ ?_ (Nat.lt_of_not_le slot)
      · refine Option.eq_none_iff_forall_ne_some.mpr fun conn found => ?_
        have before := sweepAll_within _ _ (sweepUser_within _ _ found)
        rw [fresh] at before
        cases before
      · rw [sweepUser_limits]
        exact sweepUser_within.keys_length.trans_lt (Nat.lt_of_not_le room)

/-- **A registration removes only connections whose receiver is gone.** -/
theorem register_lookup {other : Uuid} {kept : ChatConn} (sound : Sound registry)
    (fresh : registry.clients.lookup id = none)
    (found : registry.clients.lookup other = some kept) (live : (channels other).closed = false) :
    (registry.register channels id conn).1.clients.lookup other = some kept := by
  have first := sweepAll_lookup found live
  have second : ((registry.sweepAll channels).sweepUser channels conn.userId).clients.lookup other =
      some kept := sweepUser_lookup sound.sweepAll.1 first live
  unfold RegistryInner.register
  dsimp only
  split
  · exact first
  · split
    · exact second
    · rw [lookup_insert_ite, if_neg, second]
      rintro rfl
      rw [fresh] at found
      cases found

end Register

/-! ### The other operations -/

section Operations

variable {streams : ChatStreams} {registry : RegistryInner} {owner : Owners} {op : StreamOp}
  {channels : Uuid → Channel} {conversation id user : Uuid} {item : StreamItem} {ids : List Uuid}
  {conn : ChatConn}

def Channel.accepts (channel : Channel) : Bool :=
  !channel.closed && channel.sent.length - channel.taken < chatStreamChannelCapacity

theorem trySend_eq_none {channel : Channel} :
    channel.trySend item = none ↔ channel.accepts = false := by
  unfold Channel.trySend Channel.accepts
  by_cases closed : channel.closed
  · simp [closed]
  · simp [closed]

/-- **The dead connections of a fan-out** point at the conversation and take no item. -/
theorem fanOut_dead (distinct : ids.Nodup) :
    (ChatStreams.fanOut registry conversation item ids channels).2 =
      ids.filter fun id => registry.wants conversation id && !(channels id).accepts := by
  induction ids generalizing channels with
  | nil => rfl
  | cons id rest ih =>
    obtain ⟨fresh, distinct⟩ := List.nodup_cons.mp distinct
    unfold ChatStreams.fanOut
    by_cases wants : registry.wants conversation id = true
    · rw [if_pos wants]
      cases sent : (channels id).trySend item with
      | none =>
        have refuses := trySend_eq_none.mp sent
        simp [wants, refuses, ih distinct]
      | some next =>
        have accepts : (channels id).accepts = true := by
          by_contra refuses
          rw [trySend_eq_none.mpr (by simpa using refuses)] at sent
          cases sent
        dsimp only
        rw [ih distinct]
        simp only [List.filter_cons, accepts, Bool.not_true, Bool.and_false, Bool.false_eq_true,
          if_false]
        refine List.filter_congr fun other member => ?_
        rw [Function.update_of_ne]
        rintro rfl
        exact fresh member
    · rw [if_neg wants, ih distinct]
      simp [wants]

theorem Sound.point (sound : Sound registry) (found : registry.clients.lookup id = some conn)
    (active : Option Uuid) : Sound (registry.point id conn active) := by
  refine ⟨⟨fun user other => ?_, sound.1.inhabited, sound.1.distinct⟩, sound.2.perUser, ?_⟩
  · rw [RegistryInner.point, lookup_insert_ite]
    refine (sound.1.exact user other).trans ?_
    by_cases same : other = id
    · subst same
      simp [found]
    · simp [same]
  · have here : id ∈ registry.clients.keys := mem_keys_iff.mpr (by simp [found])
    rw [RegistryInner.point, AList.keys_insert, List.length_cons, List.length_erase_of_mem here,
      Nat.sub_add_cancel (List.length_pos_of_mem here)]
    exact sound.2.total

theorem Sound.buffers (sound : Sound registry)
    (generations : AList fun _ : Uuid => GenerationBuffer) :
    Sound { registry with generations := generations } :=
  ⟨⟨sound.1.exact, sound.1.inhabited, sound.1.distinct⟩, sound.2.perUser, sound.2.total⟩

theorem Sound.bufferFrame (sound : Sound registry) (frame : ChatStreamFrame) :
    Sound (registry.bufferFrame frame) := by
  unfold RegistryInner.bufferFrame
  split
  · exact sound
  · exact sound.buffers _

@[simp] theorem bufferFrame_clients (frame : ChatStreamFrame) :
    (registry.bufferFrame frame).clients = registry.clients := by
  unfold RegistryInner.bufferFrame
  split <;> rfl

@[simp] theorem bufferFrame_byUser (frame : ChatStreamFrame) :
    (registry.bufferFrame frame).byUser = registry.byUser := by
  unfold RegistryInner.bufferFrame
  split <;> rfl

@[simp] theorem bufferFrame_limits (frame : ChatStreamFrame) :
    (registry.bufferFrame frame).limits = registry.limits := by
  unfold RegistryInner.bufferFrame
  split <;> rfl

theorem bufferFrame_wants (frame : ChatStreamFrame) :
    (registry.bufferFrame frame).wants conversation id = registry.wants conversation id := by
  rw [RegistryInner.wants, bufferFrame_clients]
  rfl

theorem bufferFrame_idsOf (frame : ChatStreamFrame) :
    (registry.bufferFrame frame).idsOf user = registry.idsOf user := by
  rw [RegistryInner.idsOf, bufferFrame_byUser]
  rfl

/-- The connections that a fan-out finds dead. -/
def ChatStreams.deadOf (streams : ChatStreams) (user conversation : Uuid) : List Uuid :=
  (streams.registry.idsOf user).filter fun id =>
    streams.registry.wants conversation id && !(streams.channels id).accepts

theorem mem_deadOf (member : id ∈ streams.deadOf user conversation) :
    streams.registry.wants conversation id = true ∧ (streams.channels id).accepts = false := by
  simpa using (List.mem_filter.mp member).2

theorem publishFrame_lookup (indexed : Indexed streams.registry) {frame : ChatStreamFrame} :
    (streams.publishFrame user frame).registry.clients.lookup id =
      if id ∈ streams.deadOf user frame.conversationId then none
      else streams.registry.clients.lookup id := by
  have dead : (ChatStreams.fanOut (streams.registry.bufferFrame frame) frame.conversationId
      (.frame frame) ((streams.registry.bufferFrame frame).idsOf user) streams.channels).2 =
      streams.deadOf user frame.conversationId := by
    rw [bufferFrame_idsOf, fanOut_dead (indexed.distinct user)]
    simp only [bufferFrame_wants]
    rfl
  unfold ChatStreams.publishFrame
  dsimp only
  rw [RegistryInner.removeConns_lookup, dead]
  split
  · rfl
  · split
    · rw [RegistryInner.endGeneration, bufferFrame_clients]
    · rw [bufferFrame_clients]

theorem publishRawEvent_lookup (indexed : Indexed streams.registry) {event : String} :
    (streams.publishRawEvent user conversation event).registry.clients.lookup id =
      if id ∈ streams.deadOf user conversation then none
      else streams.registry.clients.lookup id := by
  unfold ChatStreams.publishRawEvent
  dsimp only
  rw [RegistryInner.removeConns_lookup, fanOut_dead (indexed.distinct user)]
  rfl

/-- The replay does not fit onto the connection's channel. -/
def ChatStreams.overruns (streams : ChatStreams) (id : Uuid) (conversation : Option Uuid) : Bool :=
  ((streams.channels id).sendAll ((streams.registry.replayOf conversation).map .frame)).2

theorem setSubscription_registry {active : Option Uuid}
    (found : streams.registry.clients.lookup id = some conn) :
    (streams.setSubscription id active).registry =
      if streams.overruns id active then (streams.registry.point id conn active).removeConn id
      else streams.registry.point id conn active := by
  unfold ChatStreams.setSubscription
  rw [found]
  rfl

theorem setSubscription_lookup {active : Option Uuid} {other : Uuid}
    (found : streams.registry.clients.lookup id = some conn) :
    (streams.setSubscription id active).registry.clients.lookup other =
      if other = id then
        if streams.overruns id active then none
        else some { conn with activeConversation := active }
      else streams.registry.clients.lookup other := by
  rw [setSubscription_registry found]
  by_cases overruns : streams.overruns id active
  · rw [if_pos overruns, if_pos overruns, RegistryInner.removeConn_lookup, RegistryInner.point,
      lookup_insert_ite]
    by_cases same : other = id
    · simp [same]
    · simp [same]
  · rw [if_neg overruns, if_neg overruns]
    exact lookup_insert_ite

/-- An id is new: the table does not hold it. -/
def StreamOp.IsFresh (streams : ChatStreams) : StreamOp → Prop
  | .openChatStream id _ => streams.registry.clients.lookup id = none
  | _ => True

/-- **Why an operation may remove a connection**: its stream ends, its receiver is gone, or it falls
so far behind that its channel takes no more. -/
def StreamOp.Drops (streams : ChatStreams) (id : Uuid) : StreamOp → Prop
  | .unregister other => other = id
  | .openChatStream _ _ | .pruneClosed | .pruneClosedForUser _ =>
    (streams.channels id).closed = true
  | .publishFrame frame =>
    streams.registry.wants frame.conversationId id = true ∧ (streams.channels id).accepts = false
  | .publishRawEvent conversation _ =>
    streams.registry.wants conversation id = true ∧ (streams.channels id).accepts = false
  | .setSubscription _ other conversation _ => other = id ∧ streams.overruns id conversation = true
  | .dropReceiver _ | .recv _ | .beginGeneration _ | .endGeneration _ => False

/-- **One operation keeps both maps.** -/
theorem Sound.step (sound : Sound streams.registry) (fresh : op.IsFresh streams) :
    Sound (streams.step owner op).registry := by
  cases op with
  | openChatStream id user =>
    have registered : Sound (streams.registry.register streams.channels id ⟨user, none⟩).1 :=
      sound.register fresh
    show Sound (streams.openChatStream id user).registry
    unfold ChatStreams.openChatStream
    split <;> rename_i same <;> rwa [same] at registered
  | dropReceiver | recv => exact sound
  | unregister id => exact sound.removeConn
  | pruneClosed => exact sound.pruneClosed
  | pruneClosedForUser user => exact sound.pruneClosedForUser
  | beginGeneration conversation =>
    show Sound (streams.registry.beginGeneration conversation).1
    unfold RegistryInner.beginGeneration
    split
    · exact sound
    · exact sound.buffers _
  | endGeneration conversation => exact sound.buffers _
  | publishFrame frame =>
    have buffered := sound.bufferFrame frame
    show Sound (RegistryInner.removeConns _ _)
    split
    · exact (buffered.buffers _).removeConns
    · exact buffered.removeConns
  | publishRawEvent conversation event => exact sound.removeConns
  | setSubscription user id conversation present =>
    show Sound (if _ then _ else _ : ChatStreams).registry
    split
    · unfold ChatStreams.setSubscription
      split
      · exact sound
      · rename_i conn found
        have pointed := sound.point found conversation
        dsimp only
        split
        · exact pointed.removeConn
        · exact pointed
    · exact sound

/-- **One operation removes a connection only for such a reason.** -/
theorem step_drops (sound : Sound streams.registry) (fresh : op.IsFresh streams)
    (found : streams.registry.clients.lookup id = some conn)
    (gone : (streams.step owner op).registry.clients.lookup id = none) : op.Drops streams id := by
  have kept : ∀ {registry : RegistryInner}, registry.clients.lookup id = some conn →
      registry.clients.lookup id = none → False := by
    intro registry here missing
    rw [here] at missing
    cases missing
  cases op with
  | openChatStream other user =>
    show (streams.channels id).closed = true
    by_contra live
    have registered : (streams.registry.register streams.channels other
        ⟨user, none⟩).1.clients.lookup id = some conn :=
      register_lookup sound fresh found (by simpa using live)
    refine kept registered ?_
    have same : (streams.openChatStream other user).registry =
        (streams.registry.register streams.channels other ⟨user, none⟩).1 := by
      unfold ChatStreams.openChatStream
      split <;> rename_i same <;> rw [same]
    rwa [← same]
  | dropReceiver | recv => exact (kept found gone).elim
  | unregister other =>
    show other = id
    by_contra away
    refine kept found ?_
    have still : (streams.registry.removeConn other).clients.lookup id = none := gone
    rwa [RegistryInner.removeConn_lookup, if_neg (Ne.symm away)] at still
  | pruneClosed =>
    show (streams.channels id).closed = true
    by_contra live
    have still := pruneClosed_lookup.symm.trans gone
    rw [if_neg live] at still
    exact kept found still
  | pruneClosedForUser user =>
    show (streams.channels id).closed = true
    by_contra live
    have still := (pruneClosedForUser_lookup sound.1).symm.trans gone
    rw [if_neg fun closed => live closed.2] at still
    exact kept found still
  | beginGeneration conversation =>
    refine (kept found ?_).elim
    have same : (streams.registry.beginGeneration conversation).1.clients =
        streams.registry.clients := by
      unfold RegistryInner.beginGeneration
      split <;> rfl
    rw [← same]
    exact gone
  | endGeneration conversation => exact (kept found gone).elim
  | publishFrame frame =>
    have still := (publishFrame_lookup sound.1).symm.trans gone
    split at still
    · rename_i dead
      exact mem_deadOf dead
    · exact (kept found still).elim
  | publishRawEvent conversation event =>
    have still := (publishRawEvent_lookup sound.1).symm.trans gone
    split at still
    · rename_i dead
      exact mem_deadOf dead
    · exact (kept found still).elim
  | setSubscription user other conversation present =>
    have still : (if acceptsSubscription owner user conversation present then
        streams.setSubscription other conversation else streams).registry.clients.lookup id =
          none :=
      gone
    split at still
    · cases pointed : streams.registry.clients.lookup other with
      | none =>
        rw [ChatStreams.setSubscription, pointed] at still
        exact (kept found still).elim
      | some conn =>
        rw [setSubscription_lookup pointed] at still
        by_cases same : id = other
        · subst same
          rw [if_pos rfl] at still
          split at still
          · rename_i overruns
            exact ⟨rfl, overruns⟩
          · cases still
        · rw [if_neg same] at still
          exact (kept found still).elim
    · exact (kept found still).elim

theorem step_limits : (streams.step owner op).registry.limits = streams.registry.limits := by
  cases op with
  | openChatStream id user =>
    have registered : (streams.registry.register streams.channels id ⟨user, none⟩).1.limits =
        streams.registry.limits := by
      unfold RegistryInner.register
      dsimp only
      split
      · exact sweepAll_limits
      · split
        · exact sweepUser_limits.trans sweepAll_limits
        · exact sweepUser_limits.trans sweepAll_limits
    show (streams.openChatStream id user).registry.limits = _
    unfold ChatStreams.openChatStream
    split <;> rename_i same <;> rwa [same] at registered
  | dropReceiver | recv => rfl
  | unregister id => exact RegistryInner.removeConn_limits
  | pruneClosed => exact RegistryInner.removeConns_limits
  | pruneClosedForUser user => exact sweep_limits
  | beginGeneration conversation =>
    show (streams.registry.beginGeneration conversation).1.limits = _
    unfold RegistryInner.beginGeneration
    split <;> rfl
  | endGeneration conversation => rfl
  | publishFrame frame =>
    show (RegistryInner.removeConns _ _).limits = _
    rw [RegistryInner.removeConns_limits]
    split
    · exact bufferFrame_limits frame
    · exact bufferFrame_limits frame
  | publishRawEvent conversation event => exact RegistryInner.removeConns_limits
  | setSubscription user id conversation present =>
    show (if _ then _ else _ : ChatStreams).registry.limits = _
    split
    · cases found : streams.registry.clients.lookup id with
      | none =>
        rw [ChatStreams.setSubscription, found]
      | some conn =>
        rw [setSubscription_registry found]
        split
        · exact RegistryInner.removeConn_limits
        · rfl
    · rfl

end Operations

/-! ### Every run -/

/-- The states that operations in any order lead to; a connection gets a new id. -/
inductive Reachable (owner : Owners) (limits : ChatStreamLimits) : ChatStreams → Prop
  | boot : Reachable owner limits (.boot limits)
  | step {streams : ChatStreams} {op : StreamOp} : Reachable owner limits streams →
      op.IsFresh streams → Reachable owner limits (streams.step owner op)

structure RegistryKept (owner : Owners) (limits : ChatStreamLimits)
    (streams : ChatStreams) : Prop where
  /-- The index of a user holds a connection exactly when the table holds it with that user. -/
  exact : ∀ user id, id ∈ streams.registry.idsOf user ↔
    ∃ conn, streams.registry.clients.lookup id = some conn ∧ conn.userId = user
  /-- No user has an empty set. -/
  inhabited : ∀ user, streams.registry.byUser.lookup user ≠ some []
  perUser : ∀ user, (streams.registry.idsOf user).length ≤ limits.perUserMaxConnections
  total : streams.registry.clients.keys.length ≤ limits.globalMaxConnections
  /-- A connection is removed for a reason; a sweep removes it when its receiver is gone. -/
  drops : ∀ (op : StreamOp) (id : Uuid) (conn : ChatConn), op.IsFresh streams →
    streams.registry.clients.lookup id = some conn →
    (streams.step owner op).registry.clients.lookup id = none → op.Drops streams id
  /-- A registration is refused when live connections reach a cap. -/
  refused : ∀ (id : Uuid) (conn : ChatConn) (after : RegistryInner) (error : AppError),
    streams.registry.register streams.channels id conn = (after, .error error) →
    (error = RegistryInner.globalLimit ∧ limits.globalMaxConnections ≤
      (liveConnections streams.registry streams.channels).length) ∨
    (error = RegistryInner.userLimit ∧ limits.perUserMaxConnections ≤
      (liveConnectionsOf streams.registry streams.channels conn.userId).length)

section Runs

variable {owner : Owners} {limits : ChatStreamLimits} {streams : ChatStreams}

theorem sound_boot : Sound (ChatStreams.boot limits).registry := by
  have none : ∀ user, (ChatStreams.boot limits).registry.idsOf user = [] := fun user => by
    simp [ChatStreams.boot, RegistryInner.empty, RegistryInner.idsOf]
  refine ⟨⟨fun user id => ?_, fun user => ?_, fun user => ?_⟩, fun user => ?_, ?_⟩
  · rw [none]
    simp [ChatStreams.boot, RegistryInner.empty]
  · simp [ChatStreams.boot, RegistryInner.empty]
  · simp [none]
  · simp [none]
  · exact Nat.zero_le _

theorem Reachable.sound (reachable : Reachable owner limits streams) : Sound streams.registry := by
  induction reachable with
  | boot => exact sound_boot
  | step _ fresh ih => exact ih.step fresh

theorem Reachable.limits_eq (reachable : Reachable owner limits streams) :
    streams.registry.limits = limits := by
  induction reachable with
  | boot => rfl
  | step _ _ ih => exact step_limits.trans ih

/-- **The registry in every run.** -/
theorem registry_kept (reachable : Reachable owner limits streams) :
    RegistryKept owner limits streams := by
  have sound := reachable.sound
  have same := reachable.limits_eq
  refine ⟨sound.1.exact, sound.1.inhabited, ?_, ?_, fun op id conn fresh found gone =>
    step_drops sound fresh found gone, fun id conn after error refused => ?_⟩
  · rw [← same]
    exact sound.2.perUser
  · rw [← same]
    exact sound.2.total
  · rw [← same]
    exact register_refused sound refused

/-- User 7 opens a connection, whose receiver is dropped before it is unregistered. -/
def hungUp : ChatStreams :=
  ((ChatStreams.boot .default).step (fun _ => 7) (.openChatStream 1 7)).step (fun _ => 7)
    (.dropReceiver 1)

theorem registry_kept_hungUp : RegistryKept (fun _ => 7) .default hungUp :=
  registry_kept (.step (.step .boot rfl) trivial)

end Runs

end Ziee.Chat
