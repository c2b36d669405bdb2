/-
**The parts of a Gemini stream** (`GeminiSse::map_event`, gathered by `ProviderModelClient` and by
`DeltaAccumulator`).

The adapter numbers the parts of every event from 0 again; the accumulators gather by that number
all the stream long.

* `MessageKept`, `message_kept_iff` — one tool call for each function call: **exactly when no two
  events have one at the same place**.
* `TextsKept`, `Unmixed`, `texts_kept_iff` — the texts of answer and thinking: **exactly when no
  place has both, and neither goes back to an earlier place**, whatever the texts are.
* **`parts_kept`** — both; `repeated_call_lost` — two events with a function call each.
-/

import Ziee.Agent.StreamedReply
import Ziee.Chat.DeltaBlocks
import Ziee.Providers.SseChunking

set_option linter.unusedSectionVars false

namespace Ziee.Chat

open RowOrder
open Ziee.Agent (StreamReply callStreaming Uuid)
open Ziee.Providers

def receivedChunks : List (Except ProviderError StreamChatChunk) → List StreamChatChunk
  | .ok chunk :: items => chunk :: receivedChunks items
  | _ => []

section Stream

variable (fromStr : String → Option GeminiResponse) (newId : Nat → Uuid)

def responseOf (event : List Char) : Option GeminiResponse := (singleDataLine event).bind fromStr

def partsOf (response : GeminiResponse) : List GeminiPart :=
  (response.candidates.head?.bind GeminiCandidate.parts).getD []

/-- **The parts of the events**, up to one that reports a blocked prompt. -/
def receivedParts : List (List Char) → List (List GeminiPart)
  | [] => []
  | event :: events =>
    match responseOf fromStr event with
    | none => receivedParts events
    | some response =>
      if response.blockReason.isSome then [] else partsOf response :: receivedParts events

def Blocked (events : List (List Char)) : Prop :=
  ∃ event ∈ events, ∃ response, responseOf fromStr event = some response ∧
    response.blockReason.isSome = true

def geminiItems (events : List (List Char)) : List (Except ProviderError StreamChatChunk) :=
  (mapEvents (geminiSse fromStr newId) 0 events).1

def geminiDeltas (events : List (List Char)) : List ContentBlockDelta :=
  (receivedChunks (geminiItems fromStr newId events)).flatMap StreamChatChunk.content

def eventDeltas : Nat → List (List GeminiPart) → List ContentBlockDelta
  | _, [] => []
  | drawn, parts :: events =>
    (GeminiSse.partDeltas newId 0 drawn parts).1 ++
      eventDeltas (GeminiSse.partDeltas newId 0 drawn parts).2 events

end Stream

/-! ### The parts -/

structure Said where
  index : Nat
  contentType : String
  text : String

def Said.ofPart : GeminiPart × Nat → Option Said
  | (.text text thought, index) => some ⟨index, if thought = some true then "thinking" else "text",
    text⟩
  | _ => none

def saidBy (events : List (List GeminiPart)) : List Said :=
  events.flatMap fun parts => parts.zipIdx.filterMap Said.ofPart

/-- A function call: its place in the event, its name and arguments. -/
structure Called where
  index : Nat
  name : String
  args : Json

def Called.ofPart : GeminiPart × Nat → Option Called
  | (.functionCall name args, index) => some ⟨index, name, args⟩
  | _ => none

def calledBy (events : List (List GeminiPart)) : List Called :=
  events.flatMap fun parts => parts.zipIdx.filterMap Called.ofPart

theorem saidBy_cons (parts : List GeminiPart) (events : List (List GeminiPart)) :
    saidBy (parts :: events) = parts.zipIdx.filterMap Said.ofPart ++ saidBy events :=
  List.flatMap_cons

theorem calledBy_cons (parts : List GeminiPart) (events : List (List GeminiPart)) :
    calledBy (parts :: events) = parts.zipIdx.filterMap Called.ofPart ++ calledBy events :=
  List.flatMap_cons

def textsBy (contentType : String) (events : List (List GeminiPart)) : List String :=
  ((saidBy events).filter fun said => said.contentType = contentType).map Said.text

def shape : GeminiPart → GeminiPart
  | .text _ thought => .text "" thought
  | part => part

/-- **The events differ in their texts only.** -/
def SameShape (events others : List (List GeminiPart)) : Prop :=
  events.map (List.map shape) = others.map (List.map shape)

/-! ### The property -/

def toolCallsOf (message : ChatMessage) : List (String × Json) :=
  message.content.filterMap fun block => match block with
    | .toolUse _ name input => some (name, input)
    | _ => none

def textsOfMessage (message : ChatMessage) : List String :=
  message.content.filterMap fun block => match block with
    | .text text => some text
    | _ => none

/-- **One tool call for each function call**, with its name and arguments, and the answer is that of
the parts: of a message that the agent's client returns. -/
structure MessageKept (fromStr : String → Option GeminiResponse) (events : List (List Char))
    (message : ChatMessage) : Prop where
  calls : (toolCallsOf message).Perm ((calledBy (receivedParts fromStr events)).map fun called =>
    (called.name, called.args))
  answer : textsOfMessage message = oneBlock
    (String.join (textsBy "text" (receivedParts fromStr events)))

/-- **The accumulated texts** are those of the parts. -/
structure TextsKept (fromStr : String → Option GeminiResponse) (newId : Nat → Uuid)
    (events : List (List Char)) : Prop where
  answer : String.join (textsOfType "text" (gatheredOf (geminiDeltas fromStr newId events))) =
    String.join (textsBy "text" (receivedParts fromStr events))
  thinking : String.join (textsOfType "thinking" (gatheredOf (geminiDeltas fromStr newId events))) =
    String.join (textsBy "thinking" (receivedParts fromStr events))

/-- **The parts are kept apart**: in the message of the agent's client and in the accumulated
texts. -/
structure PartsKept (fromJson : String → Option Json) (display : ProviderError → String)
    (fromStr : String → Option GeminiResponse) (newId : Nat → Uuid) (events : List (List Char)) :
    Prop where
  message : ∀ message usage,
    callStreaming fromJson display (geminiItems fromStr newId events) = .ok (message, usage) →
    MessageKept fromStr events message
  texts : TextsKept fromStr newId events

/-- No two function calls are at one place. -/
def CallsApart (events : List (List GeminiPart)) : Prop :=
    ((calledBy events).map Called.index).Nodup

/-- **No place has texts of both types, and those of one type do not go back to an earlier
place.** -/
structure Unmixed (events : List (List GeminiPart)) : Prop where
  types : ∀ one ∈ saidBy events, ∀ other ∈ saidBy events, one.index = other.index →
    one.contentType = other.contentType
  order : (saidBy events).Pairwise fun one other =>
    one.contentType = other.contentType → one.index ≤ other.index

/-! ### The deltas of the parts -/

section Deltas

variable {fromStr : String → Option GeminiResponse} {newId : Nat → Uuid} {drawn : Nat}
  {events : List (List Char)} {parts : List GeminiPart} {streamed : List (List GeminiPart)}

theorem receivedChunks_ok (chunks : List StreamChatChunk)
    (items : List (Except ProviderError StreamChatChunk)) :
    receivedChunks (chunks.map .ok ++ items) = chunks ++ receivedChunks items := by
  induction chunks with
  | nil => rfl
  | cons chunk chunks ih =>
    rw [List.map_cons, List.cons_append, receivedChunks, ih, List.cons_append]

theorem convertStreamChunk_eq (newId : Nat → Uuid) (drawn : Nat) (candidate : GeminiCandidate) :
    (GeminiSse.convertStreamChunk newId candidate drawn).1.toList.flatMap StreamChatChunk.content =
        (GeminiSse.partDeltas newId 0 drawn (candidate.parts.getD [])).1 ∧
      (GeminiSse.convertStreamChunk newId candidate drawn).2 =
        (GeminiSse.partDeltas newId 0 drawn (candidate.parts.getD [])).2 := by
  rw [GeminiSse.convertStreamChunk]
  dsimp only
  split
  next empty =>
    rw [Bool.and_eq_true, List.isEmpty_iff] at empty
    rw [empty.1]
    exact ⟨rfl, rfl⟩
  next => simp

/-- **An event that reports no blocked prompt**: its usage, and the deltas of its parts. -/
theorem mapEvent_parts (newId : Nat → Uuid) (drawn : Nat) {event : List Char}
    {response : GeminiResponse} (here : responseOf fromStr event = some response)
    (free : response.blockReason = none) : ∃ chunks : List StreamChatChunk,
      (GeminiSse.mapEvent fromStr newId event drawn).1.items = chunks.map .ok ∧
      chunks.flatMap StreamChatChunk.content =
        (GeminiSse.partDeltas newId 0 drawn (partsOf response)).1 ∧
      (GeminiSse.mapEvent fromStr newId event drawn).2 =
        (GeminiSse.partDeltas newId 0 drawn (partsOf response)).2 := by
  rw [responseOf] at here
  have usage : (response.usageMetadata.map GeminiSse.usageItem).toList.flatMap
      StreamChatChunk.content = [] := by
    cases response.usageMetadata <;> rfl
  rw [GeminiSse.mapEvent, here]
  dsimp only
  rw [free]
  cases head : response.candidates.head? with
  | none => exact ⟨_, rfl, by rw [usage, partsOf, head]; rfl, by rw [partsOf, head]; rfl⟩
  | some candidate =>
    obtain ⟨deltas, last⟩ := convertStreamChunk_eq newId drawn candidate
    refine ⟨_, rfl, ?_, ?_⟩
    · rw [List.flatMap_append, usage, List.nil_append, deltas, partsOf, head]
      rfl
    · rw [partsOf, head]
      exact last

/-- **The deltas are those of the received parts.** -/
theorem geminiDeltas_eq (events : List (List Char)) :
    geminiDeltas fromStr newId events = eventDeltas newId 0 (receivedParts fromStr events) := by
  suffices general : ∀ drawn,
      (receivedChunks (mapEvents (geminiSse fromStr newId) drawn events).1).flatMap
        StreamChatChunk.content = eventDeltas newId drawn
          (receivedParts fromStr events) from general 0
  induction events with
  | nil => exact fun _ => rfl
  | cons event events ih =>
    intro drawn
    show (receivedChunks ((GeminiSse.mapEvent fromStr newId event drawn).1.items ++
      (mapEvents _ (GeminiSse.mapEvent fromStr newId event drawn).2 events).1)).flatMap _ = _
    rw [receivedParts]
    cases here : responseOf fromStr event with
    | none =>
      have skipped : GeminiSse.mapEvent fromStr newId event drawn = (.empty, drawn) := by
        rw [responseOf] at here
        rw [GeminiSse.mapEvent, here]
      rw [skipped]
      exact ih drawn
    | some response =>
      dsimp only
      cases blocked : response.blockReason with
      | some reason =>
        have ended : (GeminiSse.mapEvent fromStr newId event drawn).1.items =
            [.error (GeminiSse.promptBlocked reason)] := by
          rw [responseOf] at here
          rw [GeminiSse.mapEvent, here]
          dsimp only
          rw [blocked]
          rfl
        rw [ended]
        rfl
      | none =>
        obtain ⟨chunks, items, deltas, last⟩ := mapEvent_parts newId drawn here blocked
        rw [items, last, receivedChunks_ok, List.flatMap_append, deltas, ih]
        rfl

/-- **A blocked prompt is an error**, and nothing else is. -/
theorem blocked_iff (newId : Nat → Uuid) (events : List (List Char)) :
    Blocked fromStr events ↔ ∃ error, .error error ∈ geminiItems fromStr newId events := by
  suffices general : ∀ drawn, Blocked fromStr events ↔
      ∃ error, .error error ∈ (mapEvents (geminiSse fromStr newId) drawn events).1 from general 0
  induction events with
  | nil => simp [Blocked, mapEvents]
  | cons event events ih =>
    intro drawn
    have later := ih (GeminiSse.mapEvent fromStr newId event drawn).2
    have split : (∃ error, .error error ∈ (mapEvents (geminiSse fromStr newId) drawn
        (event :: events)).1) ↔
        (∃ error, .error error ∈ (GeminiSse.mapEvent fromStr newId event drawn).1.items) ∨
          Blocked fromStr events := by
      rw [later, ← exists_or]
      exact exists_congr fun error => List.mem_append
    have first : Blocked fromStr (event :: events) ↔
        (∃ response, responseOf fromStr event = some response ∧
          response.blockReason.isSome = true) ∨ Blocked fromStr events := by
      simp [Blocked]
    rw [split, first]
    refine or_congr ?_ Iff.rfl
    cases here : responseOf fromStr event with
    | none =>
      rw [responseOf] at here
      simp [GeminiSse.mapEvent, here, EventOutcome.empty]
    | some response =>
      cases blocked : response.blockReason with
      | some reason =>
        rw [responseOf] at here
        simp [GeminiSse.mapEvent, here, blocked, EventOutcome.emitThenBreak]
      | none =>
        obtain ⟨chunks, items, -⟩ := mapEvent_parts newId drawn here blocked
        simp [items, blocked]

theorem receivedChunks_map {items : List (Except ProviderError StreamChatChunk)}
    (sound : ¬∃ error, .error error ∈ items) : items = (receivedChunks items).map .ok := by
  induction items with
  | nil => rfl
  | cons item items ih =>
    cases item with
    | error error => exact absurd ⟨error, List.mem_cons_self⟩ sound
    | ok chunk =>
      rw [receivedChunks, List.map_cons]
      exact congrArg _ (ih fun ⟨error, member⟩ => sound ⟨error, List.mem_cons_of_mem _ member⟩)

theorem partDeltas_plain (index : Nat) : ∀ delta ∈ (GeminiSse.partDeltas newId index drawn parts).1,
    ∀ at', blockIndex delta = some at' → (speechAt at' delta).isSome = true := by
  induction parts generalizing index drawn with
  | nil => simp [GeminiSse.partDeltas]
  | cons part parts ih =>
    intro delta member at' named
    cases part with
    | text text thought =>
      rw [GeminiSse.partDeltas, List.mem_cons] at member
      rcases member with rfl | member
      · split at named
        next thinks =>
          rw [if_pos thinks]
          obtain rfl := Option.some.inj named
          simp [speechAt]
        next speaks =>
          rw [if_neg speaks]
          obtain rfl := Option.some.inj named
          simp [speechAt]
      · exact ih _ delta member at' named
    | functionCall name args =>
      rw [GeminiSse.partDeltas, List.mem_cons] at member
      rcases member with rfl | member
      · cases named
      · exact ih _ delta member at' named
    | other => exact ih _ delta member at' named

theorem eventDeltas_plain : ∀ delta ∈ eventDeltas newId drawn streamed,
    ∀ at', blockIndex delta = some at' → (speechAt at' delta).isSome = true := by
  induction streamed generalizing drawn with
  | nil => simp [eventDeltas]
  | cons parts streamed ih =>
    intro delta member
    rcases List.mem_append.mp member with member | member
    · exact partDeltas_plain 0 delta member
    · exact ih delta member

theorem partDeltas_speech (index at' : Nat) :
    (GeminiSse.partDeltas newId index drawn parts).1.filterMap (speechAt at') =
      (((parts.zipIdx index).filterMap Said.ofPart).filter fun said => said.index = at').map
        fun said => (said.contentType, said.text) := by
  induction parts generalizing index drawn with
  | nil => rfl
  | cons part parts ih =>
    rw [List.zipIdx_cons]
    cases part with
    | text text thought =>
      rw [GeminiSse.partDeltas, List.filterMap_cons_some
        (show Said.ofPart (.text text thought, index) =
        some ⟨index, if thought = some true then "thinking" else "text", text⟩ from rfl),
        List.filter_cons]
      by_cases here : index = at'
      · by_cases thinks : thought = some true
        · simp [here, thinks, speechAt, ih]
        · simp [here, thinks, speechAt, ih]
      · by_cases thinks : thought = some true
        · simp [here, thinks, speechAt, ih]
        · simp [here, thinks, speechAt, ih]
    | functionCall name args =>
      rw [List.filterMap_cons_none (show Said.ofPart
        (.functionCall name args, index) = none from rfl), ← ih (index + 1)]
      rfl
    | other =>
      rw [List.filterMap_cons_none (show Said.ofPart (.other, index) = none from rfl),
        ← ih (index + 1)]
      rfl

theorem eventDeltas_speech (at' : Nat) : (eventDeltas newId drawn streamed).filterMap
    (speechAt at') = ((saidBy streamed).filter fun said => said.index = at').map
      fun said => (said.contentType, said.text) := by
  induction streamed generalizing drawn with
  | nil => rfl
  | cons parts streamed ih =>
    rw [eventDeltas, List.filterMap_append, partDeltas_speech, ih, saidBy_cons, List.filter_append,
      List.map_append]

end Deltas

/-! ### The texts of the blocks -/

/-- The texts in the block at a place, when the block is of this type. -/
def saidIn (contentType : String) (said : List Said) (index : Nat) : List Said :=
  let here := said.filter fun one => one.index = index
  if here.head?.map Said.contentType = some contentType then here else []

section Texts

variable {fromStr : String → Option GeminiResponse} {newId : Nat → Uuid} {events : List (List Char)}
  {said : List Said} {contentType : String}

theorem block_saidIn (typed : contentType ≠ "") (here : List Said) :
    (([blockOf (here.map fun one => (one.contentType, one.text))].filter fun block =>
        block.contentType = contentType).map AccumulatedContent.accumulatedText) =
      if here.head?.map Said.contentType = some contentType then
        [String.join (here.map Said.text)] else [] := by
  cases here with
  | nil => simp [blockOf, AccumulatedContent.empty, typed.symm]
  | cons one others =>
    by_cases same : one.contentType = contentType
    · simp [blockOf, same, Function.comp_def]
    · simp [blockOf, same]

/-- **The texts of the blocks of a type**, place by place. -/
theorem join_textsOfType {streamed : List (List GeminiPart)} {deltas : List ContentBlockDelta}
    {bound : Nat} (parts : deltas = eventDeltas newId 0 streamed)
    (below : ∀ one ∈ saidBy streamed, one.index < bound) (typed : contentType ≠ "") :
    String.join (textsOfType contentType (gatheredOf deltas)) =
      String.join (((List.range bound).flatMap (saidIn contentType (saidBy streamed))).map
        Said.text) := by
  subst parts
  have block : ∀ index, (gatheredOf (eventDeltas newId 0 streamed)).block index =
      blockOf (((saidBy streamed).filter fun one => one.index = index).map fun one =>
        (one.contentType, one.text)) := fun index => by
    rw [block_of_speech fun delta member =>
      eventDeltas_plain delta member index, eventDeltas_speech]
  have fits : (gatheredOf (eventDeltas newId 0 streamed)).contentBlocks.length ≤ bound := by
    refine length_gatheredOf fun delta member index named => ?_
    obtain ⟨pair, speech⟩ := Option.isSome_iff_exists.mp
      (eventDeltas_plain delta member index named)
    have spoken := List.mem_filterMap.mpr ⟨delta, member, speech⟩
    rw [eventDeltas_speech, List.mem_map] at spoken
    obtain ⟨one, kept, -⟩ := spoken
    obtain ⟨kept, here⟩ := List.mem_filter.mp kept
    exact of_decide_eq_true here ▸ below one kept
  rw [textsOfType_range typed fits]
  clear below fits
  induction bound with
  | zero => rfl
  | succ bound ih =>
    rw [List.range_succ, List.map_append, List.filter_append, List.map_append, String.join_append,
      ih, List.flatMap_append, List.map_append, String.join_append, List.map_singleton, block,
      block_saidIn typed, List.flatMap_singleton, saidIn]
    split <;> simp

theorem saidIn_eq (types : ∀ one ∈ said, ∀ other ∈ said, one.index = other.index →
      one.contentType = other.contentType) (contentType : String) (index : Nat) :
    saidIn contentType said index =
      (said.filter fun one => one.contentType = contentType).filter fun one =>
        one.index = index := by
  rw [saidIn, List.filter_comm]
  cases here : said.filter fun one => one.index = index with
  | nil => rfl
  | cons first others =>
    have agree : ∀ one ∈ first :: others, one.contentType = first.contentType := by
      intro one member
      rw [← here] at member
      have head : first ∈ said.filter fun one => one.index = index := by simp [here]
      obtain ⟨kept, place⟩ := List.mem_filter.mp member
      obtain ⟨kept', place'⟩ := List.mem_filter.mp head
      exact types one kept first kept' ((of_decide_eq_true place).trans
        (of_decide_eq_true place').symm)
    by_cases same : first.contentType = contentType
    · rw [List.filter_eq_self.mpr fun one member => decide_eq_true ((agree one member).trans same)]
      simp [same]
    · rw [List.filter_eq_nil_iff.mpr fun one member => by simpa [agree one member] using same]
      simp [same]

/-- **Unmixed texts are joined in the order in which they come.** -/
theorem flatMap_saidIn {bound : Nat} (types : ∀ one ∈ said, ∀ other ∈ said,
    one.index = other.index → one.contentType = other.contentType)
    (order : said.Pairwise fun one other => one.contentType = other.contentType →
      one.index ≤ other.index) (below : ∀ one ∈ said, one.index < bound) (contentType : String) :
    (List.range bound).flatMap (saidIn contentType said) =
      said.filter fun one => one.contentType = contentType := by
  rw [funext (saidIn_eq types contentType)]
  refine flatMap_buckets ?_ fun one member => below one (List.mem_of_mem_filter member)
  refine (order.filter _).imp_of_mem fun {one other} first second ordered => ?_
  have type := of_decide_eq_true (List.mem_filter.mp first).2
  have type' := of_decide_eq_true (List.mem_filter.mp second).2
  exact ordered (type.trans type'.symm)

theorem exists_bound (said : List Said) : ∃ bound, ∀ one ∈ said, one.index < bound := by
  induction said with
  | nil => exact ⟨0, by simp⟩
  | cons first said ih =>
    obtain ⟨bound, below⟩ := ih
    refine ⟨max (first.index + 1) bound, fun one member => ?_⟩
    rcases List.mem_cons.mp member with rfl | member
    · exact lt_max_of_lt_left (Nat.lt_succ_self _)
    · exact lt_max_of_lt_right (below one member)

theorem textsKept_of_unmixed (unmixed : Unmixed (receivedParts fromStr events)) :
    TextsKept fromStr newId events := by
  obtain ⟨bound, below⟩ := exists_bound (saidBy (receivedParts fromStr events))
  have kept : ∀ contentType, contentType ≠ "" →
      String.join (textsOfType contentType (gatheredOf (geminiDeltas fromStr newId events))) =
        String.join (textsBy contentType (receivedParts fromStr events)) := by
    intro contentType typed
    rw [join_textsOfType (geminiDeltas_eq events) below typed,
      flatMap_saidIn unmixed.types unmixed.order below, textsBy]
  exact ⟨kept "text" (by decide), kept "thinking" (by decide)⟩

end Texts

/-! ### Texts that tell where they come from -/

/-- A text for each number; from a join of them the numbers can be read. -/
def codeWord (number : Nat) : String := String.ofList (List.replicate number 'a' ++ ['b'])

theorem replicate_cancel {one other : Nat} {rest rest' : List Char}
    (same : List.replicate one 'a' ++ 'b' :: rest = List.replicate other 'a' ++ 'b' :: rest') :
    one = other ∧ rest = rest' := by
  induction one generalizing other with
  | zero =>
    cases other with
    | zero => exact ⟨rfl, (List.cons.inj same).2⟩
    | succ other => exact absurd (List.cons.inj same).1 (by decide)
  | succ one ih =>
    cases other with
    | zero => exact absurd (List.cons.inj same).1 (by decide)
    | succ other =>
      obtain ⟨rfl, rest⟩ := ih (List.cons.inj same).2
      exact ⟨rfl, rest⟩

theorem join_codeWord {numbers numbers' : List Nat}
    (same : String.join (numbers.map codeWord) = String.join (numbers'.map codeWord)) :
    numbers = numbers' := by
  replace same := congrArg String.toList same
  rw [String.toList_join, String.toList_join, List.flatMap_map, List.flatMap_map] at same
  induction numbers generalizing numbers' with
  | nil =>
    cases numbers' with
    | nil => rfl
    | cons => simp [codeWord] at same
  | cons number numbers ih =>
    cases numbers' with
    | nil => simp [codeWord] at same
    | cons number' numbers' =>
      simp only [List.flatMap_cons, codeWord, String.toList_ofList, List.append_assoc,
        List.singleton_append] at same
      obtain ⟨rfl, rest⟩ := replicate_cancel same
      rw [ih (by simpa [codeWord] using rest)]

theorem length_codeWord (number : Nat) : (codeWord number).length = number + 1 := by
  rw [codeWord, String.length_ofList, List.length_append, List.length_replicate,
    List.length_singleton]

/-- The texts are numbered, from a number on; and the next number. -/
def codedParts : Nat → List GeminiPart → List GeminiPart × Nat
  | next, [] => ([], next)
  | next, part :: parts =>
    match part with
    | .text _ thought => (.text (codeWord next) thought :: (codedParts (next + 1) parts).1,
        (codedParts (next + 1) parts).2)
    | part => (part :: (codedParts next parts).1, (codedParts next parts).2)

def codedEvents : Nat → List (List GeminiPart) → List (List GeminiPart)
  | _, [] => []
  | next, parts :: events => (codedParts next parts).1 :: codedEvents
    (codedParts next parts).2 events

section Coded

variable {streamed others : List (List GeminiPart)}

theorem codedParts_shape (next : Nat) (parts : List GeminiPart) :
    (codedParts next parts).1.map shape = parts.map shape := by
  induction parts generalizing next with
  | nil => rfl
  | cons part parts ih =>
    cases part with
    | text text thought => rw [codedParts, List.map_cons, ih, List.map_cons, shape, shape]
    | functionCall name args => exact congrArg (_ :: ·) (ih next)
    | other => exact congrArg (_ :: ·) (ih next)

theorem codedEvents_shape (next : Nat) (streamed : List (List GeminiPart)) :
    SameShape (codedEvents next streamed) streamed := by
  induction streamed generalizing next with
  | nil => rfl
  | cons parts streamed ih =>
    show List.map shape (codedParts next parts).1 :: (codedEvents _ streamed).map
      (List.map shape) = _
    rw [codedParts_shape, ih]
    rfl

theorem codedParts_texts (next index : Nat) (parts : List GeminiPart) : ∃ count,
    (((codedParts next parts).1.zipIdx index).filterMap Said.ofPart).map Said.text =
        (List.range' next count).map codeWord ∧
      (codedParts next parts).2 = next + count := by
  induction parts generalizing next index with
  | nil => exact ⟨0, rfl, rfl⟩
  | cons part parts ih =>
    cases part with
    | text text thought =>
      obtain ⟨count, texts, last⟩ := ih (next + 1) (index + 1)
      refine ⟨count + 1, ?_, by rw [codedParts, last]; omega⟩
      rw [codedParts, List.zipIdx_cons, List.filterMap_cons_some
        (show Said.ofPart (.text (codeWord next) thought, index) = some ⟨index, _, _⟩ from rfl),
        List.map_cons, texts]
      rfl
    | _ => exact ih next (index + 1)

theorem codedEvents_texts (next : Nat) (streamed : List (List GeminiPart)) : ∃ count,
    (saidBy (codedEvents next streamed)).map Said.text = (List.range' next count).map codeWord := by
  induction streamed generalizing next with
  | nil => exact ⟨0, rfl⟩
  | cons parts streamed ih =>
    obtain ⟨first, texts, last⟩ := codedParts_texts next 0 parts
    obtain ⟨later, texts'⟩ := ih (codedParts next parts).2
    refine ⟨first + later, ?_⟩
    rw [codedEvents, saidBy_cons, List.map_append, texts, texts', last, ← List.map_append,
      List.range'_append_1]

def placesOf (streamed : List (List GeminiPart)) : List (Nat × String) :=
  (saidBy streamed).map fun one => (one.index, one.contentType)

theorem placesOf_shape (streamed : List (List GeminiPart)) :
    placesOf (streamed.map (List.map shape)) = placesOf streamed := by
  have parts : ∀ (parts : List GeminiPart) (index : Nat),
      (((parts.map shape).zipIdx index).filterMap Said.ofPart).map
        (fun one => (one.index, one.contentType)) =
      ((parts.zipIdx index).filterMap Said.ofPart).map fun one => (one.index, one.contentType) := by
    intro parts
    induction parts with
    | nil => exact fun _ => rfl
    | cons part parts ih =>
      intro index
      rw [List.map_cons, List.zipIdx_cons, List.zipIdx_cons, List.filterMap_cons,
        List.filterMap_cons]
      cases part with
      | text text thought =>
        exact congrArg ((index, if thought = some true then "thinking" else "text") :: ·)
          (ih (index + 1))
      | _ => exact ih (index + 1)
  induction streamed with
  | nil => rfl
  | cons first streamed ih =>
    rw [placesOf, placesOf, List.map_cons, saidBy_cons, saidBy_cons, List.map_append,
      List.map_append, parts]
    exact congrArg _ ih

theorem Unmixed.of_shape (same : SameShape streamed others) (unmixed : Unmixed streamed) :
    Unmixed others := by
  have places : placesOf streamed = placesOf others := by
    rw [← placesOf_shape, same, placesOf_shape]
  have unmixed' : (∀ one ∈ placesOf streamed, ∀ other ∈ placesOf streamed, one.1 = other.1 →
      one.2 = other.2) ∧
      (placesOf streamed).Pairwise fun one other => one.2 = other.2 → one.1 ≤ other.1 := by
    refine ⟨?_, List.pairwise_map.mpr unmixed.order⟩
    intro place first place' second
    obtain ⟨one, here, rfl⟩ := List.mem_map.mp first
    obtain ⟨other, there, rfl⟩ := List.mem_map.mp second
    exact unmixed.types one here other there
  rw [places] at unmixed'
  exact ⟨fun one first other second => unmixed'.1 _ (List.mem_map_of_mem first) _
    (List.mem_map_of_mem second), List.pairwise_map.mp unmixed'.2⟩

theorem said_typed {one : Said} (member : one ∈ saidBy streamed) :
    one.contentType = "text" ∨ one.contentType = "thinking" := by
  obtain ⟨parts, -, member⟩ := List.mem_flatMap.mp member
  obtain ⟨⟨part, index⟩, -, said⟩ := List.mem_filterMap.mp member
  cases part with
  | text text thought =>
    obtain rfl := Option.some.inj said
    exact (ite_eq_or_eq _ _ _).symm
  | _ => cases said

theorem eq_of_map_eq {α β : Type} {f : α → β} {whole left right : List α}
    (apart : ∀ a ∈ whole, ∀ b ∈ whole, f a = f b → a = b) (inside : left ⊆ whole)
    (inside' : right ⊆ whole) (same : left.map f = right.map f) : left = right := by
  induction left generalizing right with
  | nil => exact (List.map_eq_nil_iff.mp same.symm).symm
  | cons first left ih =>
    cases right with
    | nil => cases same
    | cons first' right =>
      obtain ⟨here, rest⟩ := List.cons.inj same
      obtain ⟨member, inside⟩ := List.cons_subset.mp inside
      obtain ⟨member', inside'⟩ := List.cons_subset.mp inside'
      rw [apart first member first' member' here, ih inside inside' rest]

theorem saidIn_subset {contentType : String} {index : Nat} {said : List Said} {one : Said}
    (member : one ∈ saidIn contentType said index) : one ∈ said ∧ one.index = index ∧
      ((said.filter fun one => one.index = index).head?.map Said.contentType) =
        some contentType := by
  rw [saidIn] at member
  split at member
  next typed =>
    obtain ⟨kept, here⟩ := List.mem_filter.mp member
    exact ⟨kept, of_decide_eq_true here, typed⟩
  next => cases member

/-- **When coded texts are joined in the order in which they come, they are unmixed.** -/
theorem unmixed_of_joins (bound : Nat) {numbers : List Nat} (nodup : numbers.Nodup)
    (coded : (saidBy streamed).map Said.text = numbers.map codeWord)
    (joins : ∀ contentType, contentType = "text" ∨ contentType = "thinking" →
      String.join (((List.range bound).flatMap (saidIn contentType (saidBy streamed))).map
        Said.text) = String.join (textsBy contentType streamed)) : Unmixed streamed := by
  have injective : ∀ number number', codeWord number = codeWord number' → number = number' := by
    intro number number' same
    have lengths := congrArg String.length same
    rw [length_codeWord, length_codeWord] at lengths
    omega
  have apart : ∀ one ∈ saidBy streamed, ∀ other ∈ saidBy streamed, one.text = other.text →
      one = other := by
    have distinct : ((saidBy streamed).map Said.text).Nodup := by
      rw [coded]
      exact nodup.map fun number number' => injective number number'
    exact fun one first other second same => List.inj_on_of_nodup_map distinct first second same
  have number : ∀ one ∈ saidBy streamed, ∃ number, one.text = codeWord number := by
    intro one member
    have text : one.text ∈ numbers.map codeWord := coded ▸ List.mem_map_of_mem member
    obtain ⟨number, -, same⟩ := List.mem_map.mp text
    exact ⟨number, same.symm⟩
  have numbered : ∀ part : List Said, part ⊆ saidBy streamed →
      ∃ numbers : List Nat, part.map Said.text = numbers.map codeWord := by
    intro part inside
    induction part with
    | nil => exact ⟨[], rfl⟩
    | cons one part ih =>
      obtain ⟨member, inside⟩ := List.cons_subset.mp inside
      obtain ⟨first, text⟩ := number one member
      obtain ⟨rest, texts⟩ := ih inside
      exact ⟨first :: rest, by rw [List.map_cons, text, texts, List.map_cons]⟩
  have same : ∀ contentType, contentType = "text" ∨ contentType = "thinking" →
      (List.range bound).flatMap (saidIn contentType (saidBy streamed)) =
        (saidBy streamed).filter fun one => one.contentType = contentType := by
    intro contentType typed
    have inside : (List.range bound).flatMap (saidIn contentType (saidBy streamed)) ⊆
        saidBy streamed := by
      intro one member
      obtain ⟨index, -, member⟩ := List.mem_flatMap.mp member
      exact (saidIn_subset member).1
    refine eq_of_map_eq apart inside (List.filter_subset_self _) ?_
    obtain ⟨left, texts⟩ := numbered _ inside
    obtain ⟨right, texts'⟩ := numbered _ (List.filter_subset_self
      (p := fun one => one.contentType = contentType) (saidBy streamed))
    have join := joins contentType typed
    rw [textsBy, texts, texts'] at join
    rw [texts, texts', join_codeWord join]
  constructor
  · -- the block at a place has the type of every text that is said there
    have head : ∀ one ∈ saidBy streamed, (((saidBy streamed).filter fun other =>
        other.index = one.index).head?.map Said.contentType) = some one.contentType := by
      intro one member
      have kept : one ∈ (saidBy streamed).filter fun other => other.contentType = one.contentType :=
        List.mem_filter.mpr ⟨member, decide_eq_true rfl⟩
      rw [← same one.contentType (said_typed member)] at kept
      obtain ⟨index, -, kept⟩ := List.mem_flatMap.mp kept
      obtain ⟨-, rfl, type⟩ := saidIn_subset kept
      exact type
    intro one first other second place
    have types := head one first
    rw [place, head other second] at types
    exact (Option.some.inj types).symm
  · have ordered : ∀ contentType, contentType = "text" ∨ contentType = "thinking" →
        (saidBy streamed).Pairwise fun one other => one.contentType = contentType →
          other.contentType = contentType → one.index ≤ other.index := by
      intro contentType typed
      have sorted : ((List.range bound).flatMap (saidIn contentType (saidBy streamed))).Pairwise
          fun one other => one.index ≤ other.index :=
        pairwise_buckets fun index one member => (saidIn_subset member).2.1
      rw [same contentType typed, List.pairwise_filter] at sorted
      simpa using sorted
    refine ((ordered "text" (.inl rfl)).and (ordered "thinking" (.inr rfl))).imp_of_mem ?_
    intro one other first second both type
    rcases said_typed first with said | said
    · exact both.1 said (type ▸ said)
    · exact both.2 said (type ▸ said)

/-- **Every list of parts is received** from some events. -/
theorem receivedParts_onto (streamed : List (List GeminiPart)) :
    ∃ fromStr events, receivedParts fromStr events = streamed := by
  let event : Nat → List Char := fun number => "data: ".toList ++ List.replicate number 'x'
  let response : List GeminiPart → GeminiResponse := fun parts =>
    ⟨[⟨some parts, none, none⟩], none, none⟩
  let fromStr : String → Option GeminiResponse := fun text => (streamed[text.length]?).map response
  have one : ∀ number, responseOf fromStr (event number) = (streamed[number]?).map response := by
    intro number
    simp [responseOf, singleDataLine, event, fromStr]
  have several : ∀ numbers : List Nat, receivedParts fromStr (numbers.map event) =
      numbers.filterMap fun number => streamed[number]? := by
    intro numbers
    induction numbers with
    | nil => rfl
    | cons number numbers ih =>
      rw [List.map_cons, receivedParts, one, ih]
      cases here : streamed[number]? with
      | none => rw [List.filterMap_cons_none here]; rfl
      | some parts => rw [List.filterMap_cons_some here]; rfl
  refine ⟨fromStr, (List.range streamed.length).map event, ?_⟩
  have all : (List.range streamed.length).map (fun number => streamed[number]?) =
      streamed.map some := by
    refine List.ext_getElem (by simp) fun number low _ => ?_
    rw [List.length_map, List.length_range] at low
    simp [low]
  have folded : (List.range streamed.length).filterMap (fun number => streamed[number]?) =
      ((List.range streamed.length).map fun number => streamed[number]?).filterMap id := by
    rw [List.filterMap_map]
    rfl
  rw [several, folded, all, List.filterMap_map]
  exact List.filterMap_some

end Coded

/-- **Texts are kept, whatever they are**, exactly when they are unmixed. -/
theorem texts_kept_iff (newId : Nat → Uuid) (streamed : List (List GeminiPart)) :
    (∀ fromStr events, SameShape streamed (receivedParts fromStr events) →
      TextsKept fromStr newId events) ↔ Unmixed streamed := by
  constructor
  · intro kept
    obtain ⟨fromStr, events, received⟩ := receivedParts_onto (codedEvents 0 streamed)
    have same := codedEvents_shape 0 streamed
    obtain ⟨count, coded⟩ := codedEvents_texts 0 streamed
    obtain ⟨bound, below⟩ := exists_bound (saidBy (codedEvents 0 streamed))
    have texts := kept fromStr events (by rw [received]; exact same.symm)
    rw [← received] at below coded same
    refine Unmixed.of_shape same (unmixed_of_joins bound List.nodup_range' coded ?_)
    rintro _ (rfl | rfl)
    · rw [← texts.answer, join_textsOfType (geminiDeltas_eq events) below (by decide)]
    · rw [← texts.thinking, join_textsOfType (geminiDeltas_eq events) below (by decide)]
  · intro unmixed fromStr events same
    exact textsKept_of_unmixed (unmixed.of_shape same)

/-! ### The message of the agent's client -/

section Message

variable {fromStr : String → Option GeminiResponse} {fromJson : String → Option Json}
  {display : ProviderError → String} {newId : Nat → Uuid} {events : List (List Char)} {drawn : Nat}
  {parts : List GeminiPart} {streamed : List (List GeminiPart)}

theorem partDeltas_texts (index : Nat) :
    (GeminiSse.partDeltas newId index drawn parts).1.filterMap StreamReply.textOf =
      (((parts.zipIdx index).filterMap Said.ofPart).filter fun one => one.contentType = "text").map
        Said.text := by
  induction parts generalizing index drawn with
  | nil => rfl
  | cons part parts ih =>
    rw [List.zipIdx_cons]
    cases part with
    | text text thought =>
      rw [GeminiSse.partDeltas, List.filterMap_cons_some
        (show Said.ofPart (.text text thought, index) =
        some ⟨index, if thought = some true then "thinking" else "text", text⟩ from rfl)]
      by_cases thinks : thought = some true
      · rw [if_pos thinks, if_pos thinks]
        exact ih (index + 1)
      · rw [if_neg thinks, if_neg thinks]
        exact congrArg (text :: ·) (ih (index + 1))
    | functionCall name args => exact ih (index + 1)
    | other => exact ih (index + 1)

theorem eventDeltas_texts : (eventDeltas newId drawn streamed).filterMap StreamReply.textOf =
    textsBy "text" streamed := by
  induction streamed generalizing drawn with
  | nil => rfl
  | cons parts streamed ih =>
    rw [eventDeltas, List.filterMap_append, partDeltas_texts, ih, textsBy, textsBy, saidBy_cons,
      List.filter_append, List.map_append]

theorem partDeltas_calls (index : Nat) :
    ((GeminiSse.partDeltas newId index drawn parts).1.filterMap StreamReply.toolOf).map
        (fun call => (call.1, call.2.name, call.2.input)) =
      ((parts.zipIdx index).filterMap Called.ofPart).map fun called =>
        (called.index, called.name, called.args.render) := by
  induction parts generalizing index drawn with
  | nil => rfl
  | cons part parts ih =>
    cases part with
    | text text thought =>
      rw [GeminiSse.partDeltas]
      by_cases thinks : thought = some true
      · rw [if_pos thinks]
        exact ih (index + 1)
      · rw [if_neg thinks]
        exact ih (index + 1)
    | functionCall name args => exact congrArg ((index, name, args.render) :: ·) (ih (index + 1))
    | other => exact ih (index + 1)

theorem eventDeltas_calls (newId : Nat → Uuid) (drawn : Nat) (streamed : List (List GeminiPart)) :
    ((eventDeltas newId drawn streamed).filterMap StreamReply.toolOf).map
        (fun call => (call.1, call.2.name, call.2.input)) =
      (calledBy streamed).map fun called => (called.index, called.name, called.args.render) := by
  induction streamed generalizing drawn with
  | nil => rfl
  | cons parts streamed ih =>
    rw [eventDeltas, List.filterMap_append, List.map_append, partDeltas_calls, ih, calledBy_cons,
      List.map_append]

theorem callStreaming_gemini (fromJson : String → Option Json) (display : ProviderError → String)
    (newId : Nat → Uuid) (free : ¬Blocked fromStr events) : ∃ usage,
    callStreaming fromJson display (geminiItems fromStr newId events) =
      .ok (((eventDeltas newId 0 (receivedParts fromStr events)).foldl StreamReply.add
        .empty).message fromJson, usage) := by
  rw [blocked_iff newId] at free
  rw [receivedChunks_map free, ← geminiDeltas_eq]
  exact Agent.callStreaming_ok _

theorem toolCallsOf_message (reply : StreamReply) : (toolCallsOf (reply.message fromJson)).Perm
    (reply.tools.entries.map fun entry =>
      (entry.2.name, StreamReply.inputOf fromJson entry.2.input)) := by
  have texts : (if reply.text.isEmpty then [] else [ContentBlock.text reply.text]).filterMap
      (fun block => match block with
        | .toolUse _ name input => some (name, input)
        | _ => none) = [] := by
    split <;> rfl
  rw [toolCallsOf, StreamReply.message, List.filterMap_append, texts, List.nil_append,
    StreamReply.toolBlocks, List.filterMap_map]
  show ((orderBy Sigma.fst reply.tools.entries).filterMap fun entry =>
    some (entry.2.name, StreamReply.inputOf fromJson entry.2.input)).Perm _
  have calls := congrFun (List.filterMap_eq_map
    (f := fun entry : Sigma fun _ : Nat => Agent.ToolAcc =>
    (entry.2.name, StreamReply.inputOf fromJson entry.2.input)))
      (orderBy Sigma.fst reply.tools.entries)
  exact (List.Perm.of_eq calls).trans (orderBy_perm.map _)

theorem textsOfMessage_message (reply : StreamReply) :
    textsOfMessage (reply.message fromJson) = oneBlock reply.text := by
  have tools : (StreamReply.toolBlocks fromJson reply.tools).filterMap
    (fun block => match block with
      | .text text => some text
      | _ => none) = [] := by
    rw [StreamReply.toolBlocks, List.filterMap_map]
    exact List.filterMap_eq_nil_iff.mpr fun _ _ => rfl
  rw [textsOfMessage, StreamReply.message, List.filterMap_append, tools, List.append_nil, oneBlock]
  by_cases empty : reply.text = ""
  · simp [empty]
  · simp [empty, String.isEmpty_iff]

theorem calls_indices (newId : Nat → Uuid) (drawn : Nat) (streamed : List (List GeminiPart)) :
    ((eventDeltas newId drawn streamed).filterMap StreamReply.toolOf).map Prod.fst =
    (calledBy streamed).map Called.index := by
  have calls := congrArg (List.map Prod.fst) (eventDeltas_calls newId drawn streamed)
  rwa [List.map_map, List.map_map] at calls

theorem apart_of_perm {reply : StreamReply}
    (gathered : reply = (eventDeltas newId 0 streamed).foldl StreamReply.add .empty)
    (kept : (toolCallsOf (reply.message fromJson)).Perm
      ((calledBy streamed).map fun called => (called.name, called.args))) :
        CallsApart streamed := by
  have count : (calledBy streamed).length = reply.tools.entries.length := by
    have lengths := kept.symm.length_eq
    rwa [(toolCallsOf_message reply).length_eq, List.length_map, List.length_map] at lengths
  have inside : reply.tools.keys ⊆ (calledBy streamed).map Called.index := by
    intro index member
    rw [gathered] at member
    rcases StreamReply.mem_tools.mp (AList.mem_keys.mpr member) with old | ⟨call, named⟩
    · exact absurd old (AList.notMem_empty index)
    · rw [← calls_indices newId 0]
      exact List.mem_map_of_mem (f := Prod.fst) named
  have same : reply.tools.keys.Perm ((calledBy streamed).map Called.index) := by
    refine (List.subperm_of_subset reply.tools.keys_nodup inside).perm_of_length_le ?_
    rw [List.length_map, count]
    exact (List.length_map _).ge
  exact same.nodup_iff.mp reply.tools.keys_nodup

/-- **Calls and answer are kept** exactly when no two function calls are at one place; a blocked
prompt has no message. -/
theorem message_kept_iff (roundTrip : ∀ called ∈ calledBy (receivedParts fromStr events),
      fromJson called.args.render = some called.args)
    (blank : ∀ text, isBlank text = true → fromJson text = none) :
    (∀ message usage,
      callStreaming fromJson display (geminiItems fromStr newId events) = .ok (message, usage) →
      MessageKept fromStr events message) ↔
    (¬Blocked fromStr events → CallsApart (receivedParts fromStr events)) := by
  constructor
  · intro kept free
    obtain ⟨usage, called⟩ := callStreaming_gemini fromJson display newId free
    exact apart_of_perm rfl (kept _ usage called).calls
  · intro apart message usage returned
    have free : ¬Blocked fromStr events := by
      intro blocked
      obtain ⟨error, failed⟩ := (blocked_iff newId events).mp blocked
      obtain ⟨error, ended⟩ := Agent.callStreaming_error fromJson display failed
      rw [ended] at returned
      cases returned
    obtain ⟨usage', called⟩ := callStreaming_gemini fromJson display newId free
    rw [called] at returned
    obtain ⟨rfl, -⟩ := Prod.mk.inj (Except.ok.inj returned)
    refine ⟨(toolCallsOf_message _).trans ?_, ?_⟩
    · have distinct : (((eventDeltas newId 0 (receivedParts fromStr events)).filterMap
          StreamReply.toolOf).map Prod.fst).Nodup := by
        rw [calls_indices]
        exact apart free
      have entries := @StreamReply.tools_distinct .empty _ distinct fun call _ =>
        AList.notMem_empty call.1
      refine (entries.map _).trans (List.Perm.of_eq ?_)
      have calls := congrArg (List.map fun call : Nat × String × String =>
          (call.2.1, StreamReply.inputOf fromJson call.2.2))
        (eventDeltas_calls newId 0 (receivedParts fromStr events))
      rw [List.map_map, List.map_map] at calls
      rw [List.map_append, List.map_map]
      refine (List.append_nil _).trans (calls.trans ?_)
      refine List.map_congr_left fun called member => ?_
      have parsed := roundTrip called member
      have printed : ¬isBlank called.args.render = true := by
        intro empty
        rw [blank _ empty] at parsed
        cases parsed
      show (called.name, StreamReply.inputOf fromJson called.args.render) = _
      rw [StreamReply.inputOf, if_neg printed, parsed]
      rfl
    · rw [textsOfMessage_message, StreamReply.text_foldl, eventDeltas_texts]
      exact congrArg oneBlock (String.empty_append)

end Message

/-- **Parts are kept apart** when no two function calls are at one place and the texts are unmixed.
The first is needed for that; without the second there are texts for the same parts that are not
kept. -/
theorem parts_kept (fromStr : String → Option GeminiResponse) (fromJson : String → Option Json)
    (display : ProviderError → String) (newId : Nat → Uuid) (events : List (List Char))
    (roundTrip : ∀ called ∈ calledBy (receivedParts fromStr events),
      fromJson called.args.render = some called.args)
    (blank : ∀ text, isBlank text = true → fromJson text = none) :
    ((¬Blocked fromStr events → CallsApart (receivedParts fromStr events)) →
      Unmixed (receivedParts fromStr events) → PartsKept fromJson display fromStr newId events) ∧
    (PartsKept fromJson display fromStr newId events →
      ¬Blocked fromStr events → CallsApart (receivedParts fromStr events)) ∧
    (¬Unmixed (receivedParts fromStr events) → ∃ fromStr' events',
      SameShape (receivedParts fromStr events) (receivedParts fromStr' events') ∧
        ¬TextsKept fromStr' newId events') := by
  refine ⟨fun apart unmixed => ?_, fun kept => (message_kept_iff roundTrip blank).mp kept.message,
    fun mixed => ?_⟩
  · exact ⟨(message_kept_iff roundTrip blank).mpr apart, textsKept_of_unmixed unmixed⟩
  · by_contra kept
    refine mixed ((texts_kept_iff newId _).mp fun fromStr' events' same => ?_)
    by_contra lost
    exact kept ⟨fromStr', events', same, lost⟩

/-! ### Two streams -/

def respond (parts : List GeminiPart) : Option GeminiResponse :=
  some ⟨[⟨some parts, none, none⟩], none, none⟩

/-- Two function calls in one event, or each in an event of its own. -/
def searchResponses : String → Option GeminiResponse
  | "both" => respond [.functionCall "search" (.object []), .functionCall "fetch" (.object [])]
  | "search" => respond [.functionCall "search" (.object [])]
  | "fetch" => respond [.functionCall "fetch" (.object [])]
  | _ => none

def emptyObject (text : String) : Option Json :=
    if text = "\x7b\x7d" then some (.object []) else none

theorem emptyObject_blank : ∀ text, isBlank text = true → emptyObject text = none := by
  intro text blank
  refine if_neg fun same => ?_
  rw [same] at blank
  revert blank
  decide

/-- Two calls in one event. -/
theorem parts_kept_both : PartsKept emptyObject (fun _ => "") searchResponses (fun _ => 0)
    ["data: both".toList] := by
  refine (parts_kept searchResponses emptyObject (fun _ => "") (fun _ => 0) ["data: both".toList]
    ?_ emptyObject_blank).1 (fun _ => ?_) ⟨?_, ?_⟩
  · intro called member
    have args : called.args = .object [] := by
      rcases List.mem_cons.mp (show called ∈ [⟨0, "search", .object []⟩, ⟨1, "fetch", .object []⟩]
        from member) with rfl | member
      · rfl
      · rw [List.mem_singleton.mp member]
    rw [args]
    rfl
  · show [0, 1].Nodup
    decide
  · intro one member
    cases (show one ∈ ([] : List Said) from member)
  · exact List.Pairwise.nil

/-- **Two events with a function call each**: one tool call is left. -/
theorem repeated_call_lost : ¬PartsKept emptyObject (fun _ => "") searchResponses (fun _ => 0)
    ["data: search".toList, "data: fetch".toList] := by
  intro kept
  have free : ¬Blocked searchResponses ["data: search".toList, "data: fetch".toList] := by
    rintro ⟨event, member, response, here, blocked⟩
    rcases List.mem_cons.mp member with rfl | member
    · obtain rfl := Option.some.inj here
      cases blocked
    · rw [List.mem_singleton.mp member] at here
      obtain rfl := Option.some.inj here
      cases blocked
  obtain ⟨usage, returned⟩ := callStreaming_gemini emptyObject (fun _ => "") (fun _ => 0) free
  have apart := apart_of_perm rfl (kept.message _ usage returned).calls
  exact absurd (show [0, 0].Nodup from apart) (by decide)

end Ziee.Chat
