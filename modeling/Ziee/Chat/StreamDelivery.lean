/-
**Delivery without gaps.**

A connection that points at a conversation before its generation begins is sent every frame live;
one that points at it later is sent the replay first. Either way it gets the started frame and then
a contiguous rest of the generation, each frame once.

* `heard` — the frames of a conversation on a channel.
* **`delivered`** — the frames of a generation since the last request of a live connection.
-/

import Ziee.Chat.StreamIsolation

namespace Ziee.Chat

open Prefixes
open Ziee.Agent (Uuid)

def framesOf (conversation : Uuid) (items : List StreamItem) : List ChatStreamFrame :=
  items.filterMap fun item => match item with
    | .frame frame => if frame.conversationId = conversation then some frame else none
    | _ => none

/-- **What a connection has been sent of a conversation.** -/
def ChatStreams.heard (streams : ChatStreams) (conversation id : Uuid) : List ChatStreamFrame :=
  framesOf conversation (streams.channels id).sent

def published (conversation : Uuid) (ops : List StreamOp) : List ChatStreamFrame :=
  ops.filterMap fun op => match op with
    | .publishFrame frame => if frame.conversationId = conversation then some frame else none
    | _ => none

def contents (frames : List ChatStreamFrame) : List ChatStreamFrame :=
  frames.filter fun frame => !frame.isStarted

/-! ### The replay -/

section Replay

variable {frames : List ChatStreamFrame} {frame : ChatStreamFrame} {buffer : GenerationBuffer}

def bufferOf (frames : List ChatStreamFrame) : GenerationBuffer :=
  frames.foldl GenerationBuffer.push .empty

def evicted (frames : List ChatStreamFrame) : Nat :=
  (contents frames).length - (bufferOf frames).frames.length

theorem push_started (started : frame.isStarted = true) :
    buffer.push frame = { buffer with started := some frame } := by
  rw [GenerationBuffer.push, if_pos started]

theorem push_content (content : frame.isStarted = false) : (buffer.push frame).started =
      buffer.started ∧
    (buffer.push frame).frames <:+ buffer.frames ++ [(frame, approxSize frame)] := by
  rw [GenerationBuffer.push, if_neg (by simp [content])]
  exact ⟨rfl, evict_suffix _ _⟩

theorem bufferOf_concat : bufferOf (frames ++ [frame]) = (bufferOf frames).push frame := by
  simp [bufferOf]

/-- **The buffer keeps a suffix of the frames** but the started one. -/
theorem bufferOf_frames (frames : List ChatStreamFrame) :
    (bufferOf frames).frames.map (·.1) <:+ contents frames := by
  induction frames using List.reverseRecOn with
  | nil => exact List.suffix_refl _
  | append_singleton frames frame ih =>
    rw [bufferOf_concat]
    by_cases started : frame.isStarted = true
    · have same : contents (frames ++ [frame]) = contents frames := by
        simp [contents, started]
      rw [push_started started, same]
      exact ih
    · have content : frame.isStarted = false := by simpa using started
      have added : contents (frames ++ [frame]) = contents frames ++ [frame] := by
        simp [contents, content]
      rw [added]
      refine ((push_content content).2.map _).trans ?_
      rw [List.map_append]
      exact List.suffix_append_self_iff.mpr ih

theorem bufferOf_drop (frames : List ChatStreamFrame) :
    (bufferOf frames).frames.map (·.1) = (contents frames).drop (evicted frames) := by
  have kept := List.suffix_iff_eq_drop.mp (bufferOf_frames frames)
  rwa [List.length_map] at kept

theorem bufferOf_started {rest : List ChatStreamFrame} (started : frame.isStarted = true)
    (others : ∀ other ∈ rest, other.isStarted = false) :
    (bufferOf (frame :: rest)).started = some frame := by
  induction rest using List.reverseRecOn with
  | nil => simp [bufferOf, push_started started]
  | append_singleton rest last ih =>
    rw [← List.cons_append, bufferOf_concat, (push_content (others last (by simp))).1]
    exact ih fun other member => others other (List.mem_append_left _ member)

/-- **The replay of a generation**: its started frame, and the others that were not evicted. -/
theorem bufferOf_replay {rest : List ChatStreamFrame} (started : frame.isStarted = true)
    (others : ∀ other ∈ rest, other.isStarted = false) :
    (bufferOf (frame :: rest)).replay = frame :: rest.drop (evicted (frame :: rest)) := by
  have same : contents (frame :: rest) = rest := by
    rw [contents, List.filter_cons, started]
    exact List.filter_eq_self.mpr fun other member => by simp [others other member]
  rw [GenerationBuffer.replay, bufferOf_started started others, bufferOf_drop, same]
  rfl

theorem evicted_le (frames : List ChatStreamFrame) : evicted frames ≤ (contents frames).length :=
  Nat.sub_le _ _

end Replay

/-! ### A connection that points at a conversation -/

/-- An accepted request that names the connection. -/
def StreamOp.points (owner : Owners) (id : Uuid) : StreamOp → Bool
  | .setSubscription user other active present =>
    other = id && acceptsSubscription owner user active present
  | _ => false

def NamesOwnConnection (owner : Owners) (limits : ChatStreamLimits) (before : List StreamOp)
    (op : StreamOp) : Prop :=
  ∀ user id active present conn, op = .setSubscription user id active present →
    acceptsSubscription owner user active present = true →
    ((ChatStreams.boot limits).run owner before).registry.clients.lookup id = some conn →
    conn.userId = user

section Listening

variable {owner : Owners} {limits : ChatStreamLimits} {ops later : List StreamOp} {op : StreamOp}
  {conversation id : Uuid} {conn : ChatConn} {items more : List StreamItem}

theorem framesOf_append : framesOf conversation (items ++ more) =
      framesOf conversation items ++ framesOf conversation more :=
  List.filterMap_append

theorem published_append : published conversation (ops ++ later) =
    published conversation ops ++ published conversation later :=
  List.filterMap_append

/-- **A connection points at its user's conversations**, when requests name their users'
connections. -/
theorem active_owner (newIds : NewIds ops) (own : EachStep (NamesOwnConnection owner limits) ops)
    (found : ((ChatStreams.boot limits).run owner ops).registry.clients.lookup id = some conn)
    (active : conn.activeConversation = some conversation) : owner conversation = conn.userId := by
  induction ops using List.reverseRecOn generalizing conn with
  | nil => simp [ChatStreams.run, ChatStreams.boot, RegistryInner.empty] at found
  | append_singleton ops op ih =>
    obtain ⟨earlier, last⟩ := eachStep_concat.mp own
    have facts : RunFacts owner limits ops := runFacts (newIds_concat newIds)
    rw [run_concat] at found
    rcases step_lookup facts.reachable.sound.1 found with old | ⟨-, none⟩ |
      ⟨requester, present, before, rfl, accepted, old, same, -⟩
    · exact ih (newIds_concat newIds) earlier old active
    · rw [active] at none
      cases none
    · rw [← same, last requester id _ present before rfl accepted old]
      rw [active] at accepted
      exact accepted_owner accepted

theorem heard_of_sent {streams after : ChatStreams}
    (same : (after.channels id).sent = (streams.channels id).sent)
    (none : published conversation [op] = []) :
    after.heard conversation id = streams.heard conversation id ++ published conversation [op] := by
  rw [ChatStreams.heard, same, none, List.append_nil]
  rfl

theorem heard_step {streams : ChatStreams} (indexed : Indexed streams.registry)
    (away : op.points owner id = false) (unopened : ∀ user, op ≠ .openChatStream id user)
    (before : streams.registry.clients.lookup id = some conn)
    (found : (streams.step owner op).registry.clients.lookup id = some conn)
    (active : conn.activeConversation = some conversation)
    (mine : owner conversation = conn.userId) : (streams.step owner op).heard conversation id =
      streams.heard conversation id ++ published conversation [op] := by
  have wants : streams.registry.wants conversation id = true := by
    simp [RegistryInner.wants, before, active]
  have member : id ∈ streams.registry.idsOf (owner conversation) :=
    (indexed.exact _ id).mpr ⟨conn, before, mine.symm⟩
  cases op with
  | openChatStream other user =>
    refine heard_of_sent ?_ rfl
    rcases openChatStream_channels streams other user id with same | ⟨rfl, -⟩
    · exact congrArg Channel.sent same
    · exact absurd rfl (unopened user)
  | dropReceiver other => exact heard_of_sent dropReceiver_sent rfl
  | recv other => exact heard_of_sent recv_sent rfl
  | unregister | pruneClosed | pruneClosedForUser | beginGeneration
  | endGeneration => exact heard_of_sent rfl rfl
  | publishFrame frame =>
    have sent : (((streams.step owner (.publishFrame frame))).channels id).sent = _ :=
      publishFrame_sent indexed
    by_cases here : frame.conversationId = conversation
    · subst here
      -- a connection that takes nothing would have been removed
      have receives : streams.Receives (owner frame.conversationId) frame.conversationId id := by
        refine ⟨member, wants, ?_⟩
        by_contra refuses
        have dead : id ∈ streams.deadOf (owner frame.conversationId) frame.conversationId :=
          List.mem_filter.mpr ⟨member, by simp [wants, refuses]⟩
        have still := (publishFrame_lookup indexed).symm.trans found
        rw [if_pos dead] at still
        cases still
      rw [ChatStreams.heard, sent, if_pos receives, framesOf_append]
      simp [framesOf, published, ChatStreams.heard]
    · have none : published conversation [.publishFrame frame] = [] := by simp [published, here]
      rw [ChatStreams.heard, sent, none, List.append_nil]
      split
      · rw [framesOf_append]
        simp [framesOf, here, ChatStreams.heard]
      · rfl
  | publishRawEvent other event =>
    have sent : (((streams.step owner (.publishRawEvent other event))).channels id).sent = _ :=
      publishRawEvent_sent indexed
    have none : published conversation [.publishRawEvent other event] = [] := by simp [published]
    rw [ChatStreams.heard, sent, none, List.append_nil]
    split
    · rw [framesOf_append]
      simp [framesOf, ChatStreams.heard]
    · rfl
  | setSubscription requester other active present =>
    refine heard_of_sent ?_ rfl
    show ((if _ then _ else _ : ChatStreams).channels id).sent = _
    split
    · rename_i accepted
      cases pointed : streams.registry.clients.lookup other with
      | none => rw [setSubscription_missing pointed]
      | some target =>
        rw [setSubscription_channels pointed, Function.update_of_ne]
        rintro rfl
        simp [StreamOp.points, accepted] at away
    · rfl

/-- **One operation** while a live connection of the owner points at the conversation. -/
theorem listens_step (newIds : NewIds (ops ++ [op])) (away : op.points owner id = false)
    (found : ((ChatStreams.boot limits).run owner (ops ++ [op])).registry.clients.lookup id =
      some conn)
    (active : conn.activeConversation = some conversation)
    (mine : owner conversation = conn.userId) :
    ((ChatStreams.boot limits).run owner ops).registry.clients.lookup id = some conn ∧
    ((ChatStreams.boot limits).run owner (ops ++ [op])).heard conversation id =
      ((ChatStreams.boot limits).run owner ops).heard conversation id ++
        published conversation [op] := by
  have facts : RunFacts owner limits ops := runFacts (newIds_concat newIds)
  have indexed := facts.reachable.sound.1
  rw [run_concat] at found ⊢
  have before : ((ChatStreams.boot limits).run owner ops).registry.clients.lookup id =
    some conn := by
    rcases step_lookup indexed found with old | ⟨-, none⟩
      | ⟨requester, present, _, rfl, accepted, -⟩
    · exact old
    · rw [active] at none
      cases none
    · simp [StreamOp.points, accepted] at away
  refine ⟨before, heard_step indexed away ?_ before found active mine⟩
  rintro user rfl
  exact newIds_fresh newIds (facts.opened id conn before)

/-- **Any number of operations.** -/
theorem listens_run (newIds : NewIds (ops ++ later))
    (away : ∀ op ∈ later, op.points owner id = false)
    (found : ((ChatStreams.boot limits).run owner (ops ++ later)).registry.clients.lookup id =
      some conn)
    (active : conn.activeConversation = some conversation)
    (mine : owner conversation = conn.userId) :
    ((ChatStreams.boot limits).run owner ops).registry.clients.lookup id = some conn ∧
    ((ChatStreams.boot limits).run owner (ops ++ later)).heard conversation id =
      ((ChatStreams.boot limits).run owner ops).heard conversation id ++
        published conversation later := by
  induction later using List.reverseRecOn with
  | nil => simpa [published] using found
  | append_singleton later op ih =>
    rw [← List.append_assoc] at newIds found ⊢
    obtain ⟨before, last⟩ := listens_step newIds (away op (by simp)) found active mine
    obtain ⟨first, sofar⟩ := ih (newIds_concat newIds)
      (fun op member => away op (List.mem_append_left _ member)) before
    exact ⟨first, by rw [last, sofar, published_append, List.append_assoc]⟩

/-! ### Generations -/

/-- **A generation of a conversation**: it was begun in a free slot, it does not end before the last
of these operations, and its task publishes the started frame first and once. -/
structure Generation (owner : Owners) (limits : ChatStreamLimits) (conversation : Uuid)
    (before during : List StreamOp) (started : ChatStreamFrame) (rest : List ChatStreamFrame) :
    Prop where
  free : ((ChatStreams.boot limits).run owner before).registry.isGenerating conversation = false
  going : ∀ op ∈ during.dropLast, op.ends conversation = false
  frames : published conversation during = started :: rest
  opening : started.isStarted = true
  content : ∀ frame ∈ rest, frame.isStarted = false

/-- **The last request that names the connection** in the course of a generation: none, when it
points at the conversation from before, or the one after `start`. -/
inductive LastRequest (owner : Owners) (conversation id : Uuid) :
    List StreamOp → List StreamOp → Prop
  | earlier : LastRequest owner conversation id [] []
  | during (start : List StreamOp) (user : Uuid) (present : Bool) :
      acceptsSubscription owner user (some conversation) present = true →
      LastRequest owner conversation id start [.setSubscription user id (some conversation) present]

theorem generation_buffer {before start : List StreamOp}
    (free : ((ChatStreams.boot limits).run owner before).registry.isGenerating conversation = false)
    (going : ∀ op ∈ start, op.ends conversation = false) : ((ChatStreams.boot limits).run owner
      (before ++ .beginGeneration conversation :: start)).registry.generations.lookup conversation =
      some (bufferOf (published conversation start)) := by
  induction start using List.reverseRecOn with
  | nil =>
    rw [run_concat, step_buffer]
    have none : ((ChatStreams.boot limits).run owner before).registry.generations.lookup
        conversation = none := by
      simpa [RegistryInner.isGenerating] using free
    simp [none, StreamOp.buffer, published, bufferOf]
  | append_singleton start op ih =>
    have sofar := ih fun op member => going op (List.mem_append_left _ member)
    have still : op.ends conversation = false := going op (by simp)
    rw [← List.cons_append, ← List.append_assoc, run_concat, step_buffer, sofar, published_append]
    cases op with
    | beginGeneration other => simp [StreamOp.buffer, published]
    | endGeneration other =>
      have away : ¬conversation = other := by
        rintro rfl
        simp [StreamOp.ends] at still
      simp [StreamOp.buffer, published, away]
    | publishFrame frame =>
      by_cases here : conversation = frame.conversationId
      · subst here
        have goes : frame.isTerminal = false := by simpa [StreamOp.ends] using still
        simp [StreamOp.buffer, published, goes, bufferOf]
      · simp [StreamOp.buffer, published, here, Ne.symm here]
    | _ => simp [StreamOp.buffer, published]

theorem heard_replay {user : Uuid} {present : Bool} (facts : RunFacts owner limits ops)
    (accepted : acceptsSubscription owner user (some conversation) present = true)
    (found : ((ChatStreams.boot limits).run owner (ops ++
      [.setSubscription user id (some conversation) present])).registry.clients.lookup id =
        some conn) :
    ((ChatStreams.boot limits).run owner (ops ++
      [.setSubscription user id (some conversation) present])).heard conversation id =
      ((ChatStreams.boot limits).run owner ops).heard conversation id ++
        ((ChatStreams.boot limits).run owner ops).registry.replayOf (some conversation) := by
  have step : (ChatStreams.boot limits).run owner (ops ++
      [.setSubscription user id (some conversation) present]) =
      ((ChatStreams.boot limits).run owner ops).setSubscription id (some conversation) :=
    run_concat.trans (if_pos accepted)
  rw [step] at found ⊢
  have replayed : ∀ frame ∈ ((ChatStreams.boot limits).run owner ops).registry.replayOf
      (some conversation), frame.conversationId = conversation := fun frame member =>
    (Option.some.inj (facts.replayed member)).symm
  generalize (ChatStreams.boot limits).run owner ops = streams at found replayed ⊢
  cases pointed : streams.registry.clients.lookup id with
  | none =>
    rw [setSubscription_missing pointed, pointed] at found
    cases found
  | some before =>
    have fits : streams.overruns id (some conversation) = false := by
      rw [setSubscription_lookup pointed, if_pos rfl] at found
      split at found
      · cases found
      · rename_i fits
        simpa using fits
    obtain ⟨count, sent, all, -, -⟩ := sendAll_sent (streams.channels id)
      ((streams.registry.replayOf (some conversation)).map .frame)
    rw [ChatStreams.heard, setSubscription_channels pointed, Function.update_self, sent,
      List.take_of_length_le (all fits), framesOf_append]
    refine congrArg _ ?_
    rw [framesOf, List.filterMap_map]
    refine (List.filterMap_congr fun frame member => ?_).trans List.filterMap_some
    simp [replayed frame member]

/-- **Delivery without gaps or repeats**: in a run whose requests name their users' connections, a
live connection that points at the conversation has got, since the last request that names it, the
started frame and what follows a number of evicted frames. -/
theorem delivered {before start request : List StreamOp} {started : ChatStreamFrame}
    {rest : List ChatStreamFrame}
    (newIds : NewIds (before ++ .beginGeneration conversation :: (start ++ request ++ later)))
    (own : EachStep (NamesOwnConnection owner limits)
      (before ++ .beginGeneration conversation :: (start ++ request ++ later)))
    (generation : Generation owner limits conversation before
      (start ++ request ++ later) started rest)
    (last : LastRequest owner conversation id start request)
    (away : ∀ op ∈ later, op.points owner id = false)
    (found : ((ChatStreams.boot limits).run owner (before ++ .beginGeneration conversation ::
      (start ++ request ++ later))).registry.clients.lookup id = some conn)
    (active : conn.activeConversation = some conversation) :
    ((ChatStreams.boot limits).run owner (before ++ .beginGeneration conversation ::
      (start ++ request ++ later))).heard conversation id =
    ((ChatStreams.boot limits).run owner
      (before ++ .beginGeneration conversation :: start)).heard conversation id ++
      started :: rest.drop (evicted (published conversation start)) := by
  have mine := active_owner newIds own found active
  have whole : before ++ .beginGeneration conversation :: (start ++ request ++ later) =
      (before ++ .beginGeneration conversation :: (start ++ request)) ++ later := by simp
  rw [whole] at newIds found ⊢
  obtain ⟨there, heard⟩ := listens_run newIds away found active mine
  have frames := generation.frames
  rw [published_append, published_append] at frames
  rw [heard]
  cases last with
  | earlier =>
    simp only [published, List.filterMap_nil, List.nil_append] at frames
    simp only [List.append_nil, published, evicted, contents, List.filterMap_nil, List.filter_nil,
      List.length_nil, Nat.zero_sub, List.drop_zero]
    rw [← frames]
  | during _ user present accepted =>
    rw [← List.cons_append, ← List.append_assoc] at newIds there ⊢
    have facts : RunFacts owner limits (before ++ .beginGeneration conversation :: start) :=
      runFacts (newIds_concat (newIds_left newIds))
    have going : ∀ op ∈ start, op.ends conversation = false := by
      intro op member
      refine generation.going op ?_
      rw [List.append_assoc, List.dropLast_append_of_ne_nil (by simp)]
      exact List.mem_append_left _ member
    have buffer := generation_buffer generation.free going
    rw [heard_replay facts accepted there, List.append_assoc]
    refine congrArg _ ?_
    rw [RegistryInner.replayOf, buffer]
    show (bufferOf (published conversation start)).replay ++ published conversation later = _
    -- the started frame comes before the request or after it
    cases earlier : published conversation start with
    | nil =>
      rw [earlier] at frames
      simpa [bufferOf, GenerationBuffer.empty, GenerationBuffer.replay, evicted, contents,
        published] using frames
    | cons first more =>
      rw [earlier] at frames
      simp only [published, List.filterMap_cons, List.filterMap_nil, List.append_nil,
        List.cons_append, List.cons.injEq] at frames
      obtain ⟨rfl, after⟩ := frames
      have unstarted : ∀ frame ∈ more, frame.isStarted = false := fun frame member =>
        generation.content frame (after ▸ List.mem_append_left _ member)
      have bound : evicted (first :: more) ≤ more.length := by
        have most := evicted_le (first :: more)
        rwa [contents, List.filter_cons, generation.opening, List.filter_eq_self.mpr
          fun frame member => by simp [unstarted frame member]] at most
      rw [bufferOf_replay generation.opening unstarted, ← after,
        List.drop_append_of_le_length bound]
      rfl

end Listening

/-! ### Two runs -/

def joined : List StreamOp :=
  [.openChatStream 1 7] ++ .beginGeneration 5 :: ([.publishFrame (frameOf "Started")] ++
    [.setSubscription 7 1 (some 5) true] ++ [.publishFrame (frameOf "Content")])

theorem delivered_joined : ((ChatStreams.boot .default).run (fun _ => 7) joined).heard 5 1 =
      [] ++ [frameOf "Started", frameOf "Content"] := by
  have newIds : NewIds joined := List.nodup_singleton (1 : Uuid)
  have own : EachStep (NamesOwnConnection (fun _ => 7) .default) joined := by
    have split : joined = [.openChatStream 1 7, .beginGeneration 5,
        .publishFrame (frameOf "Started")] ++ [.setSubscription 7 1 (some 5) true] ++
        [.publishFrame (frameOf "Content")] := rfl
    rw [split, eachStep_concat, eachStep_concat]
    refine ⟨⟨eachStep_of_forall fun op member before => ?_, ?_⟩, nofun⟩
    · rintro user id active present conn rfl
      simp at member
    · rintro user id active present conn same - found
      cases same
      cases (Option.some.inj found : (⟨7, none⟩ : ChatConn) = conn)
      rfl
  have generation : Generation (fun _ => 7) .default 5 [.openChatStream 1 7]
      ([.publishFrame (frameOf "Started")] ++ [.setSubscription 7 1 (some 5) true] ++
        [.publishFrame (frameOf "Content")]) (frameOf "Started") [frameOf "Content"] := by
    refine ⟨rfl, fun op member => ?_, rfl, by decide, by decide⟩
    have among : op = .publishFrame (frameOf "Started") ∨
      op = .setSubscription 7 1 (some 5) true := by
      simpa using member
    rcases among with rfl | rfl
    · rfl
    · rfl
  exact delivered newIds own generation (.during _ 7 true rfl) (by simp [StreamOp.points]) rfl rfl

/-- User 8 opens connection 1; user 7, who owns conversation 5, names it in the middle of a
generation, which then goes on. -/
def misdirected : List StreamOp :=
  [.openChatStream 1 8] ++ .beginGeneration 5 ::
    ([.publishFrame (frameOf "Started"), .publishFrame (frameOf "Content")] ++
      [.setSubscription 7 1 (some 5) true] ++ [.publishFrame (frameOf "TaskListChanged")])

/-- **The connection gets the replay and misses what follows**: it points at the conversation,
nothing was evicted, and the last frame of the generation is not on its channel. -/
theorem foreign_connection_misses : NewIds misdirected ∧
    Generation (fun _ => 7) .default 5 [.openChatStream 1 8] (misdirected.drop 2)
      (frameOf "Started") [frameOf "Content", frameOf "TaskListChanged"] ∧
    ((ChatStreams.boot .default).run (fun _ => 7) misdirected).registry.clients.lookup 1 =
      some ⟨8, some 5⟩ ∧
    ((ChatStreams.boot .default).run (fun _ => 7) (misdirected.take 4)).heard 5 1 = [] ∧
    ∀ count, ((ChatStreams.boot .default).run (fun _ => 7) misdirected).heard 5 1 ≠
      frameOf "Started" :: [frameOf "Content", frameOf "TaskListChanged"].drop count := by
  have heard : ((ChatStreams.boot .default).run (fun _ => 7) misdirected).heard 5 1 =
      [frameOf "Started", frameOf "Content"] := rfl
  refine ⟨List.nodup_singleton (1 : Uuid), ⟨rfl, fun op member => ?_, rfl, by decide, by decide⟩,
    rfl,
    rfl, fun count same => ?_⟩
  · have among : op = .publishFrame (frameOf "Started") ∨ op = .publishFrame (frameOf "Content") ∨
        op = .setSubscription 7 1 (some 5) true := by
      simpa [misdirected] using member
    rcases among with rfl | rfl | rfl
    · rfl
    · rfl
    · rfl
  · rw [heard, List.cons.injEq] at same
    match count, same.2 with
    | 0, same => simp at same
    | 1, same => simp [frameOf] at same
    | count + 2, same => simp at same

end Ziee.Chat
