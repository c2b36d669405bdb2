/-
**Reasoning and answer of an OpenAI stream** (`OpenAiSse::map_event`, gathered by
`DeltaAccumulator`).

Reasoning goes to block 0. The index of the answer is fixed by the first event that has text or tool
calls: 1 when reasoning has come by then, 0 otherwise.

* `emits_eq` — with the offsets of the whole stream every event is mapped on its own.
* `kept_apart_iff` — **each is the other**; `late_reasoning_mixed` is the other order.
-/

import Ziee.Chat.DeltaBlocks
import Ziee.Providers.SseChunking

set_option linter.unusedSectionVars false

namespace Ziee.Chat

open Ziee.Providers

def chunksOf (items : List (Except ProviderError StreamChatChunk)) : List StreamChatChunk :=
  items.filterMap Except.toOption

def openAiDeltas (fromStr : String → Option OpenAIStreamChunk) (events : List (List Char)) :
    List ContentBlockDelta :=
  (chunksOf (mapEvents (openAiSse fromStr) (openAiSse fromStr).initial events).1).flatMap
    StreamChatChunk.content

def choiceOf (fromStr : String → Option OpenAIStreamChunk) (event : List Char) :
    Option OpenAIStreamChoice :=
  (singleDataLine event).bind fun data =>
    if data = "[DONE]" then none else (fromStr data).bind fun chunk => chunk.choices.head?

def sentDeltas (fromStr : String → Option OpenAIStreamChunk) (events : List (List Char)) :
    List OpenAIStreamDelta :=
  (events.filterMap (choiceOf fromStr)).map OpenAIStreamChoice.delta

namespace Sent

def text (delta : OpenAIStreamDelta) : Option String := OpenAiSse.nonempty delta.content

def reasoning (delta : OpenAIStreamDelta) : Option String :=
    OpenAiSse.nonempty delta.reasoningContent

def freezes (delta : OpenAIStreamDelta) : Bool :=
  (text delta).isSome || !(delta.toolCalls.getD []).isEmpty

end Sent

def answerText (deltas : List OpenAIStreamDelta) : String :=
  String.join (deltas.map fun delta => delta.content.getD "")

def reasoningText (deltas : List OpenAIStreamDelta) : String :=
  String.join (deltas.map fun delta => delta.reasoningContent.getD "")

/-- **Reasoning first**: the first delta that carries anything carries reasoning, unless the stream
has no answer text or no reasoning. -/
def ReasoningFirst (deltas : List OpenAIStreamDelta) : Prop :=
  (∃ delta ∈ deltas, (Sent.text delta).isSome = true) →
  (∃ delta ∈ deltas, (Sent.reasoning delta).isSome = true) →
  ∃ first, (deltas.find? fun delta => (Sent.reasoning delta).isSome || Sent.freezes delta) =
    some first ∧
    (Sent.reasoning first).isSome = true

/-- **Kept apart**: no index has deltas of both kinds, and the accumulator ends with the whole
answer in one text block and the whole reasoning in one thinking block. -/
structure KeptApart (emitted : List ContentBlockDelta) (answer reasoning : String) : Prop where
  indices : ∀ index, ¬((∃ text, .textDelta index text ∈ emitted) ∧
    ∃ text, .thinkingDelta index text ∈ emitted)
  answer : textsOfType "text" (gatheredOf emitted) = oneBlock answer
  reasoning : textsOfType "thinking" (gatheredOf emitted) = oneBlock reasoning

/-! ### The events with the offsets of the stream -/

namespace Sent

def carries (delta : OpenAIStreamDelta) : Bool := (reasoning delta).isSome || freezes delta

def parts (offsets : Nat × Nat) (delta : OpenAIStreamDelta) : List ContentBlockDelta :=
  ((reasoning delta).map (ContentBlockDelta.thinkingDelta 0)).toList ++
    ((text delta).map (ContentBlockDelta.textDelta offsets.1)).toList ++
    (delta.toolCalls.getD []).map (OpenAiSse.toolDelta offsets.2)

end Sent

def offsetsOf (deltas : List OpenAIStreamDelta) : Nat × Nat :=
  if (deltas.find? Sent.carries).any fun first =>
    (Sent.reasoning first).isSome then (1, 2) else (0, 0)

def offsetsFrom (state : OpenAiSseState) (deltas : List OpenAIStreamDelta) : Nat × Nat :=
  state.frozenOffsets.getD (if state.reasoningSeen then (1, 2) else offsetsOf deltas)

section Offsets

variable {fromStr : String → Option OpenAIStreamChunk} {state : OpenAiSseState}
  {choice : OpenAIStreamChoice} {delta : OpenAIStreamDelta} {deltas : List OpenAIStreamDelta}

theorem parts_quiet (quiet : Sent.freezes delta = false) (offsets offsets' : Nat × Nat) :
    Sent.parts offsets delta = Sent.parts offsets' delta := by
  simp only [Sent.freezes, Bool.or_eq_false_iff, Bool.not_eq_false', List.isEmpty_iff] at quiet
  simp only [Option.isSome_eq_false_iff, Option.isNone_iff_eq_none] at quiet
  rw [Sent.parts, Sent.parts, quiet.1, quiet.2]
  rfl

theorem choiceItem_eq :
    let seen := state.reasoningSeen || (Sent.reasoning choice.delta).isSome
    let offsets := state.frozenOffsets.getD (if seen then (1, 2) else (0, 0))
    (OpenAiSse.choiceItem choice state).1.toList.flatMap StreamChatChunk.content =
        Sent.parts offsets choice.delta ∧
      (OpenAiSse.choiceItem choice state).2 =
        ⟨seen, if Sent.freezes choice.delta then some offsets else state.frozenOffsets⟩ := by
  intro seen offsets
  have first : (if (Sent.reasoning choice.delta).isSome then { state with reasoningSeen := true }
      else state) = ⟨seen, state.frozenOffsets⟩ := by
    by_cases reasons : (Sent.reasoning choice.delta).isSome
    · simp [seen, reasons]
    · simp [seen, reasons]
  have whole : OpenAiSse.choiceItem choice state =
      (if !(Sent.parts offsets choice.delta).isEmpty || choice.delta.refusal.isSome ||
          choice.finishReason.isSome then
        some ⟨Sent.parts offsets choice.delta, choice.finishReason, none, choice.delta.refusal, [],
          false⟩
      else none, ⟨seen, if Sent.freezes choice.delta then some offsets else
        state.frozenOffsets⟩) := by
    unfold OpenAiSse.choiceItem
    dsimp only
    rw [show OpenAiSse.nonempty choice.delta.reasoningContent =
      Sent.reasoning choice.delta from rfl,
      first]
    rw [show ((OpenAiSse.nonempty choice.delta.content).isSome ||
      !(choice.delta.toolCalls.getD []).isEmpty) = Sent.freezes choice.delta from rfl]
    have pair : ∀ (emits : Bool) (item : Option StreamChatChunk) (next : OpenAiSseState),
        (if emits then (item, next) else (none, next)) = (if emits then item else none, next) :=
      fun emits _ _ => by cases emits <;> rfl
    cases Sent.freezes choice.delta
    · exact pair _ _ _
    · exact pair _ _ _
  rw [whole]
  refine ⟨?_, rfl⟩
  by_cases empty : Sent.parts offsets choice.delta = []
  · rw [empty]
    dsimp only
    split <;> rfl
  · simp [empty]

theorem offsetsFrom_step (state : OpenAiSseState) (choice : OpenAIStreamChoice)
    (deltas : List OpenAIStreamDelta) : Sent.parts (state.frozenOffsets.getD
        (if state.reasoningSeen || (Sent.reasoning choice.delta).isSome then (1, 2) else (0, 0)))
        choice.delta = Sent.parts (offsetsFrom state (choice.delta :: deltas)) choice.delta ∧
      offsetsFrom (OpenAiSse.choiceItem choice state).2 deltas =
        offsetsFrom state (choice.delta :: deltas) := by
  rw [choiceItem_eq.2]
  obtain ⟨seen, _ | frozen⟩ := state
  · cases freezes : Sent.freezes choice.delta
    · refine ⟨parts_quiet freezes _ _, ?_⟩
      cases seen
      · by_cases reasons : (Sent.reasoning choice.delta).isSome
        · simp [offsetsFrom, offsetsOf, Sent.carries, reasons]
        · simp [offsetsFrom, offsetsOf, Sent.carries, reasons, freezes]
      · simp [offsetsFrom]
    · cases seen
      · simp [offsetsFrom, offsetsOf, Sent.carries, freezes]
      · simp [offsetsFrom]
  · by_cases freezes : Sent.freezes choice.delta
    · simp [offsetsFrom, freezes]
    · simp [offsetsFrom, freezes]

theorem chunksOf_ok (items : List (Except ProviderError StreamChatChunk))
    (chunks : List StreamChatChunk) : chunksOf
    (chunks.map .ok ++ items) = chunks ++ chunksOf items := by
  rw [chunksOf, List.filterMap_append, chunksOf]
  simp [List.filterMap_map, Function.comp_def, Except.toOption]

theorem content_usage (usage : Option OpenAIUsage) :
    (usage.map OpenAiSse.usageItem).toList.flatMap StreamChatChunk.content = [] := by
  cases usage <;> rfl

theorem mapEvent_eq (fromStr : String → Option OpenAIStreamChunk) (state : OpenAiSseState)
    (event : List Char) : ∃ usage : Option OpenAIUsage,
    OpenAiSse.mapEvent fromStr event state =
      (⟨((usage.map OpenAiSse.usageItem).toList ++ ((choiceOf fromStr event).bind fun choice =>
          (OpenAiSse.choiceItem choice state).1).toList).map .ok,
        (OpenAiSse.mapEvent fromStr event state).1.control⟩,
        ((choiceOf fromStr event).map fun choice => (OpenAiSse.choiceItem choice state).2).getD
          state) := by
  cases line : singleDataLine event with
  | none =>
    exact ⟨none, by simp [OpenAiSse.mapEvent, choiceOf, line, EventOutcome.empty]⟩
  | some data =>
    by_cases done : data = "[DONE]"
    · exact ⟨none, by simp [OpenAiSse.mapEvent, choiceOf, line, done, EventOutcome.emitThenBreak]⟩
    · cases parsed : fromStr data with
      | none =>
        exact ⟨none, by simp [OpenAiSse.mapEvent, choiceOf, line, done, parsed, EventOutcome.emit]⟩
      | some chunk =>
        refine ⟨chunk.usage, ?_⟩
        cases head : chunk.choices.head? with
        | none => simp [OpenAiSse.mapEvent, choiceOf, line, done, parsed, head, EventOutcome.emit]
        | some choice =>
          simp [OpenAiSse.mapEvent, choiceOf, line, done, parsed, head, EventOutcome.emit]

/-- **Every event on its own**, with the offsets of the stream. -/
theorem emits_from (events : List (List Char)) :
    (chunksOf (mapEvents (openAiSse fromStr) state events).1).flatMap StreamChatChunk.content =
      (sentDeltas fromStr events).flatMap
        (Sent.parts (offsetsFrom state (sentDeltas fromStr events))) := by
  induction events generalizing state with
  | nil => rfl
  | cons event events ih =>
    obtain ⟨usage, mapped⟩ := mapEvent_eq fromStr state event
    show (chunksOf ((OpenAiSse.mapEvent fromStr event state).1.items ++
      (mapEvents _ (OpenAiSse.mapEvent fromStr event state).2 events).1)).flatMap _ = _
    rw [mapped]
    dsimp only
    rw [chunksOf_ok, List.flatMap_append, List.flatMap_append, content_usage, List.nil_append, ih]
    cases here : choiceOf fromStr event with
    | none =>
      rw [sentDeltas, sentDeltas, List.filterMap_cons_none here]
      rfl
    | some choice =>
      obtain ⟨now, later⟩ := offsetsFrom_step state choice (sentDeltas fromStr events)
      have sent : sentDeltas fromStr (event :: events) =
          choice.delta :: sentDeltas fromStr events := by
        rw [sentDeltas, List.filterMap_cons_some here]
        rfl
      rw [sent, List.flatMap_cons, ← now, ← later, ← choiceItem_eq.1]
      rfl

/-- **Every event on its own**, from the start. -/
theorem emits_eq (events : List (List Char)) : openAiDeltas fromStr events =
    (sentDeltas fromStr events).flatMap (Sent.parts (offsetsOf (sentDeltas fromStr events))) :=
  emits_from events

end Offsets

/-! ### The blocks -/

section Apart

variable {deltas : List OpenAIStreamDelta}

def textsOf (texts : List (Option String)) : List String := texts.filterMap OpenAiSse.nonempty

theorem join_textsOf (texts : List (Option String)) :
    String.join (textsOf texts) = String.join (texts.map fun text => text.getD "") := by
  induction texts with
  | nil => rfl
  | cons text texts ih =>
    have nothing : OpenAiSse.nonempty text = none → text.getD "" = "" := by
      cases text with
      | none => exact fun _ => rfl
      | some text => simp [OpenAiSse.nonempty]
    have something : ∀ said, OpenAiSse.nonempty text = some said → text.getD "" = said := by
      intro said kept
      rw [(Option.filter_eq_some_iff.mp kept).1]
      rfl
    cases kept : OpenAiSse.nonempty text with
    | none =>
      rw [textsOf, List.filterMap_cons_none kept, List.map_cons, String.join_cons, nothing kept,
        String.empty_append, ← ih, textsOf]
    | some said =>
      rw [textsOf, List.filterMap_cons_some kept, List.map_cons, String.join_cons, String.join_cons,
        something said kept, ← ih, textsOf]

theorem oneBlock_join (texts : List (Option String)) : oneBlock (String.join (textsOf texts)) =
    if textsOf texts = [] then [] else [String.join (textsOf texts)] := by
  have empty : String.join (textsOf texts) = "" ↔ textsOf texts = [] := by
    constructor
    · intro empty
      by_contra some
      obtain ⟨text, member⟩ := List.exists_mem_of_ne_nil _ some
      obtain ⟨sent, -, kept⟩ := List.mem_filterMap.mp member
      have long := (Option.filter_eq_some_iff.mp kept).2
      have none := congrArg String.toList empty
      rw [String.toList_join, String.toList_empty, List.flatMap_eq_nil_iff] at none
      simp [String.toList_eq_nil_iff.mp (none text member)] at long
    · intro none
      rw [none]
      rfl
  rw [oneBlock]
  exact if_congr empty rfl rfl

theorem speech_parts (index : Nat) (offsets : Nat × Nat) (delta : OpenAIStreamDelta) :
    (Sent.parts offsets delta).filterMap (speechAt index) =
      (if index = 0 then (Sent.reasoning delta).toList.map ("thinking", ·) else []) ++
        (if index = offsets.1 then (Sent.text delta).toList.map ("text", ·) else []) := by
  have tools : ((delta.toolCalls.getD []).map (OpenAiSse.toolDelta offsets.2)).filterMap
      (speechAt index) = [] := by
    simp [List.filterMap_map, Function.comp_def, OpenAiSse.toolDelta, speechAt]
  rw [Sent.parts, List.filterMap_append, List.filterMap_append, tools, List.append_nil]
  congr 1
  · cases Sent.reasoning delta with
    | none => simp
    | some said => by_cases here : index = 0 <;> simp [speechAt, here, eq_comm]
  · cases Sent.text delta with
    | none => simp
    | some said => by_cases here : index = offsets.1 <;> simp [speechAt, here, eq_comm]

theorem parts_plain {offsets : Nat × Nat} (low : offsets.1 < 2) :
    ∀ delta ∈ deltas.flatMap (Sent.parts offsets), ∀ index, blockIndex delta = some index →
      index < 2 ∧ (speechAt index delta).isSome = true := by
  intro delta member index named
  obtain ⟨sent, -, part⟩ := List.mem_flatMap.mp member
  simp only [Sent.parts, List.mem_append, Option.mem_toList, Option.map_eq_some_iff,
    List.mem_map] at part
  rcases part with (⟨_, -, rfl⟩ | ⟨_, -, rfl⟩) | ⟨_, -, rfl⟩
  · obtain rfl := Option.some.inj named
    exact ⟨by omega, by simp [speechAt]⟩
  · obtain rfl := Option.some.inj named
    exact ⟨low, by simp [speechAt]⟩
  · cases named

/-- **Two blocks** of different types. -/
theorem textsOfType_two {emitted : List ContentBlockDelta} {contentType contentType' : String}
    {texts texts' : List (Option String)} (distinct : contentType ≠ contentType')
    (typed : contentType ≠ "") (typed' : contentType' ≠ "")
    (plain : ∀ delta ∈ emitted, ∀ index, blockIndex delta = some index →
      index < 2 ∧ (speechAt index delta).isSome = true)
    (zero : emitted.filterMap (speechAt 0) = (textsOf texts).map (contentType, ·))
    (one : emitted.filterMap (speechAt 1) = (textsOf texts').map (contentType', ·)) :
    textsOfType contentType (gatheredOf emitted) = oneBlock (String.join (textsOf texts)) ∧
      textsOfType contentType' (gatheredOf emitted) = oneBlock (String.join (textsOf texts')) := by
  have fits : (gatheredOf emitted).contentBlocks.length ≤ 2 :=
    length_gatheredOf fun delta member index named => (plain delta member index named).1
  have block : ∀ index, (gatheredOf emitted).block index =
      blockOf (emitted.filterMap (speechAt index)) := fun index =>
    block_of_speech fun delta member named => (plain delta member index named).2
  have blocks : (List.range 2).map (gatheredOf emitted).block =
      [if textsOf texts = [] then .empty
        else ⟨contentType, String.join (textsOf texts), none, none⟩,
       if textsOf texts' = [] then .empty
        else ⟨contentType', String.join (textsOf texts'), none, none⟩] := by
    rw [← blockOf_map, ← blockOf_map, ← zero, ← one, ← block, ← block]
    rfl
  rw [textsOfType_range typed fits, textsOfType_range typed' fits, blocks, oneBlock_join,
    oneBlock_join]
  by_cases first : textsOf texts = []
  · by_cases second : textsOf texts' = []
    · simp [first, second, AccumulatedContent.empty, typed.symm, typed'.symm]
    · simp [first, second, AccumulatedContent.empty, typed.symm, typed'.symm, distinct.symm]
  · by_cases second : textsOf texts' = []
    · simp [first, second, AccumulatedContent.empty, typed.symm, typed'.symm, distinct]
    · simp [first, second, distinct, distinct.symm]

theorem speech_stream (index : Nat) (offsets : Nat × Nat) :
    (deltas.flatMap (Sent.parts offsets)).filterMap (speechAt index) =
      deltas.flatMap fun delta =>
        (if index = 0 then (Sent.reasoning delta).toList.map ("thinking", ·) else []) ++
          (if index = offsets.1 then (Sent.text delta).toList.map ("text", ·) else []) := by
  rw [List.filterMap_flatMap]
  exact List.flatMap_congr fun delta _ => speech_parts index offsets delta

theorem flatMap_textsOf (deltas : List OpenAIStreamDelta) (contentType : String)
    (field : OpenAIStreamDelta → Option String) :
    deltas.flatMap (fun delta => (OpenAiSse.nonempty (field delta)).toList.map (contentType, ·)) =
      (textsOf (deltas.map field)).map (contentType, ·) := by
  rw [← List.map_flatMap, textsOf, List.filterMap_map, List.filterMap_eq_flatMap_toList]
  rfl

theorem textsOf_nil {field : OpenAIStreamDelta → Option String} :
    textsOf (deltas.map field) = [] ↔
      ¬∃ delta ∈ deltas, (OpenAiSse.nonempty (field delta)).isSome = true := by
  simp [textsOf, List.filterMap_eq_nil_iff]

theorem reasoningFirst_iff : ReasoningFirst deltas ↔
    ((∃ delta ∈ deltas, (Sent.text delta).isSome = true) →
      (∃ delta ∈ deltas, (Sent.reasoning delta).isSome = true) → offsetsOf deltas = (1, 2)) := by
  refine imp_congr_right fun _ => imp_congr_right fun _ => ?_
  rw [offsetsOf]
  show (∃ first, deltas.find? Sent.carries = some first ∧ _) ↔ _
  cases deltas.find? Sent.carries with
  | none => simp
  | some first => simp [Option.isSome_iff_ne_none]

theorem offsetsOf_cases (deltas : List OpenAIStreamDelta) :
    offsetsOf deltas = (1, 2) ∨ offsetsOf deltas = (0, 0) := by
  rw [offsetsOf]
  exact ite_eq_or_eq _ _ _

theorem mem_textDelta {offsets : Nat × Nat} {index : Nat} {text : String} :
    .textDelta index text ∈ deltas.flatMap (Sent.parts offsets) ↔
      index = offsets.1 ∧ ∃ delta ∈ deltas, Sent.text delta = some text := by
  simp only [List.mem_flatMap, Sent.parts, List.mem_append, Option.mem_toList,
    Option.map_eq_some_iff,
    List.mem_map, OpenAiSse.toolDelta]
  constructor
  · rintro ⟨delta, member, (⟨_, -, other⟩ | ⟨_, said, same⟩) | ⟨_, -, other⟩⟩
    · cases other
    · obtain ⟨rfl, rfl⟩ := ContentBlockDelta.textDelta.inj same
      exact ⟨rfl, delta, member, said⟩
    · cases other
  · rintro ⟨rfl, delta, member, said⟩
    exact ⟨delta, member, .inl (.inr ⟨text, said, rfl⟩)⟩

theorem mem_thinkingDelta {offsets : Nat × Nat} {index : Nat} {text : String} :
    .thinkingDelta index text ∈ deltas.flatMap (Sent.parts offsets) ↔
      index = 0 ∧ ∃ delta ∈ deltas, Sent.reasoning delta = some text := by
  simp only [List.mem_flatMap, Sent.parts, List.mem_append, Option.mem_toList,
    Option.map_eq_some_iff,
    List.mem_map, OpenAiSse.toolDelta]
  constructor
  · rintro ⟨delta, member, (⟨_, said, same⟩ | ⟨_, -, other⟩) | ⟨_, -, other⟩⟩
    · obtain ⟨rfl, rfl⟩ := ContentBlockDelta.thinkingDelta.inj same
      exact ⟨rfl, delta, member, said⟩
    · cases other
    · cases other
  · rintro ⟨rfl, delta, member, said⟩
    exact ⟨delta, member, .inl (.inl ⟨text, said, rfl⟩)⟩

/-- **No index has both** exactly with reasoning first. -/
theorem indices_iff : (∀ index,
      ¬((∃ text, .textDelta index text ∈ deltas.flatMap (Sent.parts (offsetsOf deltas))) ∧
        ∃ text, .thinkingDelta index text ∈ deltas.flatMap (Sent.parts (offsetsOf deltas)))) ↔
    ReasoningFirst deltas := by
  simp only [mem_textDelta, mem_thinkingDelta]
  rw [reasoningFirst_iff]
  constructor
  · rintro apart ⟨delta, member, said⟩ ⟨delta', member', said'⟩
    obtain ⟨text, said⟩ := Option.isSome_iff_exists.mp said
    obtain ⟨text', said'⟩ := Option.isSome_iff_exists.mp said'
    refine (offsetsOf_cases deltas).resolve_right fun shared => apart 0 ⟨?_, ?_⟩
    · exact ⟨text, by rw [shared], delta, member, said⟩
    · exact ⟨text', rfl, delta', member', said'⟩
  · rintro first _ ⟨⟨text, rfl, delta, member, said⟩, text', shared, delta', member', said'⟩
    rw [first ⟨delta, member, by rw [said]; rfl⟩ ⟨delta', member', by rw [said']; rfl⟩] at shared
    cases shared

/-- **Reasoning and text in blocks of their own.** -/
theorem texts_apart (first : ReasoningFirst deltas) :
    textsOfType "text" (gatheredOf (deltas.flatMap (Sent.parts (offsetsOf deltas)))) =
        oneBlock (answerText deltas) ∧
      textsOfType "thinking" (gatheredOf (deltas.flatMap (Sent.parts (offsetsOf deltas)))) =
        oneBlock (reasoningText deltas) := by
  have answer : answerText deltas = String.join
    (textsOf (deltas.map OpenAIStreamDelta.content)) := by
    rw [join_textsOf, List.map_map]
    rfl
  have reasoning : reasoningText deltas =
      String.join (textsOf (deltas.map OpenAIStreamDelta.reasoningContent)) := by
    rw [join_textsOf, List.map_map]
    rfl
  have thinkings := flatMap_textsOf deltas "thinking" OpenAIStreamDelta.reasoningContent
  have texts := flatMap_textsOf deltas "text" OpenAIStreamDelta.content
  have low : (offsetsOf deltas).1 < 2 := by
    rcases offsetsOf_cases deltas with offsets | offsets <;> simp [offsets]
  rw [answer, reasoning]
  rcases offsetsOf_cases deltas with offsets | offsets
  · refine (textsOfType_two (by decide) (by decide) (by decide) (parts_plain low) ?_ ?_).symm
    · rw [speech_stream, offsets, ← thinkings]
      simp [Sent.reasoning]
    · rw [speech_stream, offsets, ← texts]
      simp [Sent.text]
  by_cases said : ∃ delta ∈ deltas, (Sent.text delta).isSome = true
  · -- text before any reasoning, and no reasoning at all
    have silent : ¬∃ delta ∈ deltas, (Sent.reasoning delta).isSome = true := by
      intro reasons
      have late := reasoningFirst_iff.mp first said reasons
      rw [offsets] at late
      cases late
    refine textsOfType_two (by decide) (by decide) (by decide) (parts_plain low) ?_ ?_
    · rw [speech_stream, offsets, ← texts]
      refine List.flatMap_congr fun delta member => ?_
      have none : Sent.reasoning delta = none := by
        by_contra some
        exact silent ⟨delta, member, Option.isSome_iff_ne_none.mpr some⟩
      simp [none, Sent.text]
    · rw [speech_stream, offsets, textsOf_nil.mpr silent]
      simp
  · refine (textsOfType_two (by decide) (by decide) (by decide) (parts_plain low) ?_ ?_).symm
    · rw [speech_stream, offsets, ← thinkings]
      refine List.flatMap_congr fun delta member => ?_
      have none : Sent.text delta = none := by
        by_contra some
        exact said ⟨delta, member, Option.isSome_iff_ne_none.mpr some⟩
      simp [none, Sent.reasoning]
    · rw [speech_stream, offsets, textsOf_nil.mpr said]
      simp

end Apart

/-- **Reasoning and answer are kept apart** exactly when reasoning comes first, or one of the two
never comes. -/
theorem kept_apart_iff (fromStr : String → Option OpenAIStreamChunk) (events : List (List Char)) :
    KeptApart (openAiDeltas fromStr events) (answerText (sentDeltas fromStr events))
        (reasoningText (sentDeltas fromStr events)) ↔
      ReasoningFirst (sentDeltas fromStr events) := by
  rw [emits_eq]
  constructor
  · exact fun apart => indices_iff.mp apart.indices
  · intro first
    obtain ⟨answer, reasoning⟩ := texts_apart first
    exact ⟨indices_iff.mpr first, answer, reasoning⟩

def lateReasoning : String → Option OpenAIStreamChunk
  | "text" => some ⟨[⟨⟨some "4", none, none, none⟩, none⟩], none⟩
  | "reasoning" => some ⟨[⟨⟨none, none, none, some "2 + 2"⟩, none⟩], none⟩
  | _ => none

/-- **Text before reasoning**: both go to block 0. -/
theorem late_reasoning_mixed :
    openAiDeltas lateReasoning ["data: text".toList, "data: reasoning".toList] =
        [.textDelta 0 "4", .thinkingDelta 0 "2 + 2"] ∧
      textsOfType "text" (gatheredOf [.textDelta 0 "4", .thinkingDelta 0 "2 + 2"]) = ["42 + 2"] ∧
      ¬KeptApart (openAiDeltas lateReasoning ["data: text".toList, "data: reasoning".toList])
        (answerText (sentDeltas lateReasoning ["data: text".toList, "data: reasoning".toList]))
        (reasoningText (sentDeltas lateReasoning
          ["data: text".toList, "data: reasoning".toList])) := by
  have emitted : openAiDeltas lateReasoning ["data: text".toList, "data: reasoning".toList] =
      [.textDelta 0 "4", .thinkingDelta 0 "2 + 2"] := by rfl
  refine ⟨emitted, by decide, fun apart => apart.indices 0 ?_⟩
  rw [emitted]
  exact ⟨⟨"4", by simp⟩, "2 + 2", by simp⟩

end Ziee.Chat
