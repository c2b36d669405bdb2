/-
**The generation slot of a conversation.**

`begin_generation` claims the slot of a conversation, a terminal frame or `end_generation` releases
it. The slot is the replay buffer itself, and a frame that finds no buffer makes one.

* `StreamOp.slot` — what an operation does to the slot.
* **`slots_disciplined_iff`** — the slot is held exactly when it was claimed, in every state of a
  run, exactly when every frame but a terminal one is published while the slot is held.
-/

import Ziee.Library.Prefixes
import Ziee.Chat.RegistryIndex

namespace Ziee.Chat

open Prefixes
open Ziee.Agent (Uuid)

section Buffers

variable {registry : RegistryInner} {channels : Uuid → Channel} {streams : ChatStreams}
  {owner : Owners} {id user conversation : Uuid} {conn : ChatConn} {op : StreamOp}

theorem sweep_generations {ids : List Uuid} :
    (ids.foldl (RegistryInner.sweepConn user) registry).generations = registry.generations := by
  induction ids generalizing registry with
  | nil => rfl
  | cons id rest ih => exact ih.trans RegistryInner.removeConn_generations

theorem register_generations :
    (registry.register channels id conn).1.generations = registry.generations := by
  have all : (registry.sweepAll channels).generations = registry.generations := by
    unfold RegistryInner.sweepAll
    split
    · exact RegistryInner.removeConns_generations
    · rfl
  have mine : ∀ {swept : RegistryInner}, (swept.sweepUser channels conn.userId).generations =
      swept.generations := by
    intro swept
    unfold RegistryInner.sweepUser
    split
    · exact sweep_generations
    · rfl
  unfold RegistryInner.register
  dsimp only
  split
  · exact all
  · split
    · exact mine.trans all
    · exact mine.trans all

def StreamOp.buffer (conversation : Uuid) (buffer : Option GenerationBuffer) :
    StreamOp → Option GenerationBuffer
  | .beginGeneration other => if conversation = other then buffer.or (some .empty) else buffer
  | .endGeneration other => if conversation = other then none else buffer
  | .publishFrame frame =>
    if conversation = frame.conversationId then
      if frame.isTerminal then none else some ((buffer.getD .empty).push frame)
    else buffer
  | _ => buffer

/-- **The buffers after an operation.** -/
theorem step_buffer : (streams.step owner op).registry.generations.lookup conversation =
    op.buffer conversation (streams.registry.generations.lookup conversation) := by
  cases op with
  | openChatStream id user =>
    have registered : (streams.registry.register streams.channels id ⟨user, none⟩).1.generations =
        streams.registry.generations := register_generations
    show (streams.openChatStream id user).registry.generations.lookup conversation = _
    unfold ChatStreams.openChatStream
    split <;> rename_i same <;> rw [same] at registered <;> exact congrArg _ registered
  | dropReceiver | recv => rfl
  | unregister id => exact congrArg _ RegistryInner.removeConn_generations
  | pruneClosed => exact congrArg _ RegistryInner.removeConns_generations
  | pruneClosedForUser user => exact congrArg _ sweep_generations
  | beginGeneration other =>
    show (streams.registry.beginGeneration other).1.generations.lookup conversation = _
    unfold RegistryInner.beginGeneration
    simp only [StreamOp.buffer]
    by_cases same : conversation = other
    · subst same
      rw [if_pos rfl]
      cases found : streams.registry.generations.lookup conversation with
      | none => simp
      | some buffer => simp [found]
    · rw [if_neg same]
      split
      · rfl
      · exact AList.lookup_insert_ne same
  | endGeneration other => exact lookup_erase_ite
  | publishFrame frame =>
    show (RegistryInner.removeConns _ _).generations.lookup conversation = _
    rw [RegistryInner.removeConns_generations]
    unfold StreamOp.buffer RegistryInner.bufferFrame
    by_cases terminal : frame.isTerminal = true
    · simp only [terminal, if_true]
      exact lookup_erase_ite
    · simp only [terminal, if_false, Bool.false_eq_true]
      by_cases same : conversation = frame.conversationId
      · rw [if_pos same, same, AList.lookup_insert]
      · rw [if_neg same, AList.lookup_insert_ne same]
  | publishRawEvent other event => exact congrArg _ RegistryInner.removeConns_generations
  | setSubscription user id active present =>
    show (if _ then _ else _ : ChatStreams).registry.generations.lookup conversation = _
    split
    · cases found : streams.registry.clients.lookup id with
      | none =>
        rw [ChatStreams.setSubscription, found]
        rfl
      | some conn =>
        rw [setSubscription_registry found]
        split
        · exact congrArg _ RegistryInner.removeConn_generations
        · rfl
    · rfl

def StreamOp.slot (conversation : Uuid) (held : Bool) : StreamOp → Bool
  | .beginGeneration other => held || conversation = other
  | .endGeneration other => held && conversation ≠ other
  | .publishFrame frame => if conversation = frame.conversationId then !frame.isTerminal else held
  | _ => held

/-- **The slot is held where there is a buffer.** -/
theorem step_isGenerating : (streams.step owner op).registry.isGenerating conversation =
    op.slot conversation (streams.registry.isGenerating conversation) := by
  unfold RegistryInner.isGenerating
  rw [step_buffer]
  cases op with
  | beginGeneration other =>
    by_cases same : conversation = other
    · simp [StreamOp.buffer, StreamOp.slot, same]
    · simp [StreamOp.buffer, StreamOp.slot, same]
  | endGeneration other =>
    by_cases same : conversation = other
    · simp [StreamOp.buffer, StreamOp.slot, same]
    · simp [StreamOp.buffer, StreamOp.slot, same]
  | publishFrame frame =>
    by_cases same : conversation = frame.conversationId
    · by_cases terminal : frame.isTerminal = true
      · simp [StreamOp.buffer, StreamOp.slot, same, terminal]
      · simp [StreamOp.buffer, StreamOp.slot, same, terminal]
    · simp [StreamOp.buffer, StreamOp.slot, same]
  | _ => rfl

end Buffers

/-! ### Claims -/

def StreamOp.ends (conversation : Uuid) : StreamOp → Bool
  | .endGeneration other => other = conversation
  | .publishFrame frame => frame.isTerminal && frame.conversationId = conversation
  | _ => false

/-- **A generation was begun and has not ended**: neither a terminal frame nor `end_generation` has
followed. -/
def Claimed (owner : Owners) (limits : ChatStreamLimits) (conversation : Uuid)
    (ops : List StreamOp) : Prop :=
  ∃ before after, ops = before ++ .beginGeneration conversation :: after ∧
    (((ChatStreams.boot limits).run owner before).registry.beginGeneration conversation).2 = true ∧
    ∀ op ∈ after, op.ends conversation = false

/-- **The discipline of the slots** after a run: a slot is held exactly when it was claimed, and
`begin_generation` succeeds exactly when it was not. -/
def SlotsDisciplined (owner : Owners) (limits : ChatStreamLimits) (ops : List StreamOp) : Prop :=
  ∀ conversation,
    (((ChatStreams.boot limits).run owner ops).registry.isGenerating conversation = true ↔
      Claimed owner limits conversation ops) ∧
    ((((ChatStreams.boot limits).run owner ops).registry.beginGeneration conversation).2 = true ↔
      ¬Claimed owner limits conversation ops)

def OnTime (owner : Owners) (limits : ChatStreamLimits) (before : List StreamOp) (op : StreamOp) :
    Prop :=
  ∀ frame, op = .publishFrame frame → frame.isTerminal = false →
    ((ChatStreams.boot limits).run owner before).registry.isGenerating frame.conversationId = true

section Slots

variable {owner : Owners} {limits : ChatStreamLimits} {conversation : Uuid} {ops : List StreamOp}
  {op : StreamOp} {registry : RegistryInner}

theorem beginGeneration_snd :
    (registry.beginGeneration conversation).2 = !registry.isGenerating conversation := by
  unfold RegistryInner.beginGeneration RegistryInner.isGenerating
  by_cases held : (registry.generations.lookup conversation).isSome = true
  · simp [held]
  · simp [held]

theorem run_concat : (ChatStreams.boot limits).run owner (ops ++ [op]) =
    ((ChatStreams.boot limits).run owner ops).step owner op := by
  simp [ChatStreams.run]

theorem claimed_concat : Claimed owner limits conversation (ops ++ [op]) ↔
    (op = .beginGeneration conversation ∧
      ((ChatStreams.boot limits).run owner ops).registry.isGenerating conversation = false) ∨
    (Claimed owner limits conversation ops ∧ op.ends conversation = false) := by
  constructor
  · rintro ⟨before, after, same, free, none⟩
    rcases List.eq_nil_or_concat after with rfl | ⟨middle, last, rfl⟩
    · obtain ⟨rfl, here⟩ := List.append_inj' same rfl
      cases here
      rw [beginGeneration_snd] at free
      exact Or.inl ⟨rfl, by simpa using free⟩
    · rw [List.concat_eq_append, ← List.cons_append, ← List.append_assoc] at same
      obtain ⟨rfl, here⟩ := List.append_inj' same rfl
      cases here
      exact Or.inr ⟨⟨before, middle, rfl, free, fun op member => none op (by simp [member])⟩,
        none _ (by simp)⟩
  · rintro (⟨rfl, free⟩ | ⟨⟨before, after, rfl, free, none⟩, going⟩)
    · exact ⟨ops, [], rfl, by rw [beginGeneration_snd, free]; rfl, by simp⟩
    · refine ⟨before, after ++ [op], by simp, free, fun other member => ?_⟩
      rcases List.mem_append.mp member with member | member
      · exact none other member
      · rwa [List.mem_singleton.mp member]

theorem disciplined_iff : SlotsDisciplined owner limits ops ↔ ∀ conversation,
    ((ChatStreams.boot limits).run owner ops).registry.isGenerating conversation = true ↔
      Claimed owner limits conversation ops := by
  refine ⟨fun both conversation => (both conversation).1, fun held conversation =>
    ⟨held conversation, ?_⟩⟩
  rw [beginGeneration_snd, ← held conversation]
  simp

/-- **One operation keeps the discipline** when it is no frame that finds the slot free. -/
theorem SlotsDisciplined.concat (disciplined : SlotsDisciplined owner limits ops)
    (onTime : OnTime owner limits ops op) : SlotsDisciplined owner limits (ops ++ [op]) := by
  refine disciplined_iff.mpr fun conversation => ?_
  rw [run_concat, step_isGenerating, claimed_concat, ← disciplined_iff.mp disciplined conversation]
  cases op with
  | beginGeneration other =>
    by_cases same : conversation = other
    · subst same
      cases ((ChatStreams.boot limits).run owner ops).registry.isGenerating conversation with
      | true => simp [StreamOp.slot, StreamOp.ends]
      | false => simp [StreamOp.slot]
    · simp [StreamOp.slot, StreamOp.ends, same, Ne.symm same]
  | endGeneration other =>
    by_cases same : conversation = other
    · simp [StreamOp.slot, StreamOp.ends, same]
    · simp [StreamOp.slot, StreamOp.ends, same, Ne.symm same]
  | publishFrame frame =>
    by_cases same : conversation = frame.conversationId
    · subst same
      cases terminal : frame.isTerminal with
      | true => simp [StreamOp.slot, StreamOp.ends, terminal]
      | false => simp [StreamOp.slot, StreamOp.ends, terminal, onTime frame rfl terminal]
    · simp [StreamOp.slot, StreamOp.ends, same, Ne.symm same]
  | _ => simp [StreamOp.slot, StreamOp.ends]

theorem onTime_of_disciplined (disciplined : SlotsDisciplined owner limits ops)
    (after : SlotsDisciplined owner limits (ops ++ [op])) : OnTime owner limits ops op := by
  rintro frame rfl going
  by_contra free
  have first := disciplined_iff.mp disciplined frame.conversationId
  have second := disciplined_iff.mp after frame.conversationId
  rw [run_concat, step_isGenerating, claimed_concat, ← first] at second
  simp [StreamOp.slot, going, free] at second

theorem disciplined_nil : SlotsDisciplined owner limits [] := by
  refine disciplined_iff.mpr fun conversation => ?_
  constructor
  · intro held
    simp [ChatStreams.run, ChatStreams.boot, RegistryInner.empty,
      RegistryInner.isGenerating] at held
  · rintro ⟨before, after, same, -⟩
    simp at same

/-- **The slot discipline holds in every state of a run exactly when no frame comes late.** -/
theorem slots_disciplined_iff (owner : Owners) (limits : ChatStreamLimits) (ops : List StreamOp) :
    (∀ before, before <+: ops → SlotsDisciplined owner limits before) ↔
      EachStep (OnTime owner limits) ops :=
  have unrestricted : (fun _ : List StreamOp => True) ops := trivial
  prefixes_iff (fun _ _ _ => trivial) disciplined_nil (fun _ _ _ disciplined =>
    ⟨onTime_of_disciplined disciplined, disciplined.concat⟩) unrestricted

end Slots

/-! ### A late frame -/

def frameOf (variantName : String) : ChatStreamFrame := ⟨5, ⟨variantName, .null⟩⟩

/-- A delta arrives after the terminal frame. -/
def lateFrame : List StreamOp :=
  [.beginGeneration 5, .publishFrame (frameOf "Started"), .publishFrame (frameOf "Complete"),
    .publishFrame (frameOf "Content")]

/-- **The conversation is blocked**: its slot is held, nobody has claimed it, and no generation can
be begun. -/
theorem late_frame_blocks :
    ((ChatStreams.boot .default).run (fun _ => 7) lateFrame).registry.isGenerating 5 = true ∧
    ¬Claimed (fun _ => 7) .default 5 lateFrame ∧
    (((ChatStreams.boot .default).run (fun _ => 7) lateFrame).registry.beginGeneration 5).2 =
      false := by
  have terminal : (frameOf "Complete").isTerminal = true ∧ (frameOf "Started").isTerminal = false ∧
      (frameOf "Content").isTerminal = false := by decide
  have held : ((ChatStreams.boot .default).run (fun _ => 7) lateFrame).registry.isGenerating 5 =
      true := by
    simp only [lateFrame, ChatStreams.run, List.foldl_cons, List.foldl_nil, step_isGenerating,
      StreamOp.slot, terminal]
    rfl
  refine ⟨held, ?_, by rw [beginGeneration_snd, held]; rfl⟩
  have split : lateFrame = [.beginGeneration 5, .publishFrame (frameOf "Started")] ++
      [.publishFrame (frameOf "Complete")] ++ [.publishFrame (frameOf "Content")] := rfl
  have place : ∀ name, (frameOf name).conversationId = 5 := fun _ => rfl
  rw [split, claimed_concat, claimed_concat]
  simp [StreamOp.ends, terminal, place]

end Ziee.Chat
