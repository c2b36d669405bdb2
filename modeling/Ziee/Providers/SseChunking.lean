/-
**What the driver makes of the chunks.**

The text of a byte string is its lossy decoding up to an incomplete character at the end; its
complete events are those that are taken from the whole text. The driver finds them, whatever the
chunks are, unless bytes are left behind an invalid sequence, an event that breaks is not the last
one, or a delimiter is there before the one that is preferred.

* `Decodes`, `Resynced` — the decoder's output is the text; **`decodes_iff`**.
* **`decoding_steady_iff`** — when a byte string is decoded as it should be.
* `two_invalid_sequences` — when it is not.
-/

import Ziee.Providers.SseDriver

namespace Ziee.Providers

open Framing

def decodedText (bytes : List UInt8) : List Char := (Utf8.lossy .start bytes).1

/-- **The outputs of the decoder are the text**, for all chunks. -/
def Decodes (bytes : List UInt8) : Prop :=
  ∀ chunks : List (List UInt8), chunks.flatten = bytes →
    Utf8StreamDecoder.default.decodeAll chunks = decodedText bytes

/-- **Nothing but an incomplete character follows the first invalid sequence.** -/
def Resynced (bytes : List UInt8) : Prop :=
  ∀ valid rest, Utf8.scan .start bytes = (valid, .invalid rest) → decodedText rest = []

section Decoder

variable {decoder : Utf8StreamDecoder} {bytes chunk more rest : List UInt8} {valid : List Char}
  {state : Utf8.State}

theorem decode_ended (ended : Utf8.scan .start (decoder.pending ++ chunk) = (valid, .ended state)) :
    decoder.decode chunk = (valid, ⟨state.octets⟩) := by
  rw [Utf8StreamDecoder.decode, ended]

theorem decode_invalid (invalid : Utf8.scan .start
    (decoder.pending ++ chunk) = (valid, .invalid rest)) :
    decoder.decode chunk = (valid ++ [Utf8.replacement], ⟨rest⟩) := by
  rw [Utf8StreamDecoder.decode, invalid]

theorem decodedText_octets (kept : Utf8.Kept state) : decodedText state.octets = [] := by
  rw [decodedText, Utf8.lossy_of_ended (Utf8.scan_octets kept)]

/-- **One chunk**: its output, and then the text of what is pending and to come. -/
theorem decode_step (resynced : Resynced (decoder.pending ++ chunk ++ more)) :
    decodedText (decoder.pending ++ chunk ++ more) = (decoder.decode chunk).1 ++
        decodedText ((decoder.decode chunk).2.pending ++ more) ∧
      Resynced ((decoder.decode chunk).2.pending ++ more) ∧
      decodedText (decoder.decode chunk).2.pending = [] := by
  rcases scanned : Utf8.scan .start (decoder.pending ++ chunk) with ⟨valid, state | rest⟩
  · have kept := Utf8.scan_kept Utf8.kept_start scanned
    have on := Utf8.scan_append_ended scanned more
    rw [decode_ended scanned]
    refine ⟨?_, fun valid' rest' invalid => ?_, decodedText_octets kept⟩
    · rw [decodedText, Utf8.lossy_append, Utf8.lossy_of_ended scanned, decodedText,
        Utf8.lossy_kept kept]
    · rw [kept more] at invalid
      rw [invalid] at on
      exact resynced _ rest' on
  · have quiet := resynced _ _ (Utf8.scan_append_invalid scanned more)
    rw [decode_invalid scanned]
    refine ⟨?_, fun valid' rest' invalid => ?_, ?_⟩
    · have whole := Utf8.lossy_of_invalid (Utf8.scan_append_invalid scanned more)
      unfold decodedText at quiet ⊢
      rw [whole, quiet, List.append_nil]
    · -- a second invalid sequence would be seen in the text
      have seen := Utf8.lossy_of_invalid invalid
      unfold decodedText at quiet
      rw [quiet] at seen
      simp at seen
    · unfold decodedText at quiet ⊢
      rw [Utf8.lossy_append] at quiet
      exact (List.append_eq_nil_iff.mp quiet).1

theorem decodeAll_eq {chunks : List (List UInt8)} (quiet : decodedText decoder.pending = [])
    (resynced : Resynced (decoder.pending ++ chunks.flatten)) :
    decoder.decodeAll chunks = decodedText (decoder.pending ++ chunks.flatten) := by
  induction chunks generalizing decoder with
  | nil =>
    rw [List.flatten_nil, List.append_nil, quiet]
    rfl
  | cons chunk chunks ih =>
    rw [List.flatten_cons, ← List.append_assoc] at resynced ⊢
    obtain ⟨text, resynced, quiet⟩ := decode_step resynced
    rw [Utf8StreamDecoder.decodeAll, ih quiet resynced, text]

/-- **The decoder's output is the text** exactly when nothing but an incomplete character follows
the first invalid sequence. -/
theorem decodes_iff : Decodes bytes ↔ Resynced bytes := by
  constructor
  · intro decodes valid rest invalid
    have once := decodes [bytes] (by simp)
    have output : Utf8StreamDecoder.default.decode bytes = (valid ++ [Utf8.replacement], ⟨rest⟩) :=
      decode_invalid invalid
    rw [Utf8StreamDecoder.decodeAll, output, decodedText, Utf8.lossy_of_invalid invalid] at once
    simpa [Utf8StreamDecoder.decodeAll, decodedText] using once.symm
  · rintro resynced chunks rfl
    exact decodeAll_eq rfl resynced

/-- **Every start of the text** is the output for a start of the bytes. -/
theorem decode_start (resynced : Resynced bytes) {count : Nat}
    (bound : count ≤ (decodedText bytes).length) : ∃ front back, bytes = front ++ back ∧
      (Utf8StreamDecoder.default.decode front).1 = (decodedText bytes).take count := by
  have upTo : ∀ {valid : List Char} {stop : Utf8.Stop}, Utf8.scan .start bytes = (valid, stop) →
      count ≤ valid.length → ∃ front back, bytes = front ++ back ∧
        (Utf8StreamDecoder.default.decode front).1 = valid.take count := by
    intro valid stop scanned short
    have bound : count ≤ (Utf8.scan .start bytes).1.length := by rwa [scanned]
    obtain ⟨front, back, last, split, taken⟩ := Utf8.scan_take .start bytes bound
    rw [scanned] at taken
    have output : Utf8StreamDecoder.default.decode front = (valid.take count, ⟨last.octets⟩) :=
      decode_ended taken
    exact ⟨front, back, split, by rw [output]⟩
  rcases scanned : Utf8.scan .start bytes with ⟨valid, state | rest⟩
  · have text : decodedText bytes = valid := by rw [decodedText, Utf8.lossy_of_ended scanned]
    rw [text] at bound ⊢
    exact upTo scanned bound
  · have text : decodedText bytes = valid ++ [Utf8.replacement] := by
      have quiet := resynced valid rest scanned
      unfold decodedText at quiet ⊢
      rw [Utf8.lossy_of_invalid scanned, quiet]
    rw [text, List.length_append, List.length_singleton] at bound
    rw [text]
    by_cases short : count ≤ valid.length
    · rw [List.take_append_of_le_length short]
      exact upTo scanned short
    · refine ⟨bytes, [], (List.append_nil bytes).symm, ?_⟩
      have output : Utf8StreamDecoder.default.decode bytes =
        (valid ++ [Utf8.replacement], ⟨rest⟩) :=
        decode_invalid scanned
      rw [output, List.take_of_length_le]
      rw [List.length_append, List.length_singleton]
      omega

end Decoder

/-! ### The buffer -/

section Buffer

variable {State Chunk : Type} {adapter : SseAdapter State Chunk} {state : State}
  {buffer rest more event text : List Char}

def mapEvents (adapter : SseAdapter State Chunk) :
    State → List (List Char) → List (Except ProviderError Chunk) × State
  | state, [] => ([], state)
  | state, event :: events =>
    let later := mapEvents adapter (adapter.mapEvent event state).2 events
    ((adapter.mapEvent event state).1.items ++ later.1, later.2)

theorem mapEvents_append (state : State) (events others : List (List Char)) :
    mapEvents adapter state (events ++ others) = ((mapEvents adapter state events).1 ++
        (mapEvents adapter (mapEvents adapter state events).2 others).1,
        (mapEvents adapter (mapEvents adapter state events).2 others).2) := by
  induction events generalizing state with
  | nil => rfl
  | cons event events ih =>
    rw [List.cons_append, mapEvents, ih, mapEvents]
    simp

theorem drainWithin_none (absent : takeEvent buffer adapter.delimiters = none) (fuel : Nat) :
    drainWithin adapter fuel buffer state = ⟨[], [], buffer, state⟩ := by
  cases fuel with
  | zero => rfl
  | succ fuel => rw [drainWithin, absent]

theorem drain_none (absent : takeEvent buffer adapter.delimiters = none) :
    drain adapter buffer state = ⟨[], [], buffer, state⟩ :=
  drainWithin_none absent _

theorem drainWithin_enough {fuel fuel' : Nat} (one : buffer.length ≤ fuel)
    (two : buffer.length ≤ fuel') :
    drainWithin adapter fuel buffer state = drainWithin adapter fuel' buffer state := by
  induction fuel generalizing buffer fuel' state with
  | zero =>
    have empty : buffer = [] := List.length_eq_zero_iff.mp (Nat.le_zero.mp one)
    subst empty
    cases here : takeEvent [] adapter.delimiters with
    | none => rw [drainWithin_none here, drainWithin_none here]
    | some pieces => exact absurd (first_shorter adapter.proper here) (Nat.not_lt_zero _)
  | succ fuel ih =>
    cases here : takeEvent buffer adapter.delimiters with
    | none => rw [drainWithin_none here, drainWithin_none here]
    | some pieces =>
      have shorter := first_shorter adapter.proper here
      have more : fuel' ≠ 0 := by omega
      obtain ⟨fuel', rfl⟩ := Nat.exists_eq_succ_of_ne_zero more
      have same : ∀ next, drainWithin adapter fuel pieces.2 next =
          drainWithin adapter fuel' pieces.2 next := fun _ => ih (by omega) (by omega)
      rw [drainWithin, drainWithin, here]
      dsimp only
      rw [same]

/-- **An event of the buffer** is mapped; unless it breaks, the next one is. -/
theorem drain_some (here : takeEvent buffer adapter.delimiters = some (event, rest)) :
    drain adapter buffer state =
      match (adapter.mapEvent event state).1.control with
      | .breakOff =>
        ⟨[event], (adapter.mapEvent event state).1.items, rest, (adapter.mapEvent event state).2⟩
      | .goOn =>
        let later := drain adapter rest (adapter.mapEvent event state).2
        ⟨event :: later.events, (adapter.mapEvent event state).1.items ++ later.items, later.buffer,
          later.state⟩ := by
  have shorter := first_shorter adapter.proper here
  have one : buffer.length ≤ buffer.length - 1 + 1 := by omega
  have same : drainWithin adapter (buffer.length - 1) rest (adapter.mapEvent event state).2 =
      drain adapter rest (adapter.mapEvent event state).2 := drainWithin_enough (by omega) le_rfl
  rw [drain, drainWithin_enough le_rfl one, drainWithin, here]
  dsimp only
  cases (adapter.mapEvent event state).1.control <;> simp only [same]

theorem drain_maps (buffer : List Char) (state : State) :
    mapEvents adapter state (drain adapter buffer state).events =
      ((drain adapter buffer state).items, (drain adapter buffer state).state) := by
  induction count : buffer.length using Nat.strong_induction_on generalizing buffer state with
  | _ count ih =>
    cases here : takeEvent buffer adapter.delimiters with
    | none =>
      rw [drain_none here]
      rfl
    | some pieces =>
      obtain ⟨event, rest⟩ := pieces
      have shorter := first_shorter adapter.proper here
      rw [drain_some here]
      cases (adapter.mapEvent event state).1.control with
      | goOn =>
        dsimp only
        rw [mapEvents, ih _ (by omega) rest _ rfl]
      | breakOff =>
        dsimp only
        rw [mapEvents, mapEvents, List.append_nil]

theorem drain_suffix (adapter : SseAdapter State Chunk) (buffer : List Char) (state : State) :
    ∃ taken, buffer = taken ++ (drain adapter buffer state).buffer := by
  induction count : buffer.length using Nat.strong_induction_on generalizing buffer state with
  | _ count ih =>
    cases here : takeEvent buffer adapter.delimiters with
    | none => exact ⟨[], by rw [drain_none here, List.nil_append]⟩
    | some pieces =>
      obtain ⟨event, rest⟩ := pieces
      have shorter := first_shorter adapter.proper here
      obtain ⟨_, delim, _, -, found, -⟩ := first_some here
      rw [drain_some here]
      cases (adapter.mapEvent event state).1.control with
      | goOn =>
        obtain ⟨taken, split⟩ := ih _ (by omega) rest (adapter.mapEvent event state).2 rfl
        refine ⟨event ++ delim ++ taken, ?_⟩
        dsimp only
        rw [List.append_assoc, ← split]
        exact cut_some found
      | breakOff => exact ⟨event ++ delim, cut_some found⟩

/-! ### Framed texts -/

/-- **The events of a text, as they must be**: at each one no delimiter is there before the one at
which it ends, and it does not break unless it is the last one. -/
inductive Framed (adapter : SseAdapter State Chunk) : State → List Char → Prop
  | done {state : State} {text : List Char} :
      takeEvent text adapter.delimiters = none → Framed adapter state text
  | event {state : State} {text event rest : List Char} :
      takeEvent text adapter.delimiters = some (event, rest) →
      Complete adapter.delimiters text rest →
      ((adapter.mapEvent event state).1.control = .breakOff →
        takeEvent rest adapter.delimiters = none) →
      Framed adapter (adapter.mapEvent event state).2 rest → Framed adapter state text

/-- **A part of a framed text in the buffer**: its events are the first of the whole text, the rest
of the text is framed, and no event is left in the buffer. -/
theorem drain_framed (framed : Framed adapter state (buffer ++ more)) :
    frames adapter.delimiters (buffer ++ more) = (drain adapter buffer state).events ++
        frames adapter.delimiters ((drain adapter buffer state).buffer ++ more) ∧
      Framed adapter (drain adapter buffer state).state
        ((drain adapter buffer state).buffer ++ more) ∧
      takeEvent (drain adapter buffer state).buffer adapter.delimiters = none := by
  generalize whole : buffer ++ more = text at framed
  induction framed generalizing buffer with
  | done absent =>
    subst whole
    have none := first_none_of_append absent
    rw [drain_none none]
    exact ⟨rfl, .done absent, none⟩
  | event here complete last later ih =>
    subst whole
    rcases first_start here complete with none | ⟨rest', found, rfl⟩
    · rw [drain_none none]
      exact ⟨rfl, .event here complete last later, none⟩
    · rw [drain_some found, frames_some adapter.proper here]
      cases control : (adapter.mapEvent _ _).1.control with
      | goOn =>
        obtain ⟨events, framed, empty⟩ := ih rfl
        exact ⟨congrArg (_ :: ·) events, framed, empty⟩
      | breakOff => exact ⟨rfl, later, first_none_of_append (last control)⟩

theorem takeEvent_of_delim {delim : List Char} (member : delim ∈ adapter.delimiters) :
    takeEvent (event ++ delim ++ rest) adapter.delimiters ≠ none := by
  intro absent
  obtain ⟨before, after, found, -⟩ := cut_of_append delim event rest
  rw [first_none.mp absent delim member] at found
  cases found

/-- **Backwards**: when all cuts of a text into two lead to its events, it is framed. -/
theorem framed_of_cuts (cuts : ∀ part more, text = part ++ more →
    (drain adapter part state).events ++ (drain adapter ((drain adapter part state).buffer ++ more)
      (drain adapter part state).state).events = frames adapter.delimiters text) :
    Framed adapter state text := by
  induction count : text.length using Nat.strong_induction_on generalizing text state with
  | _ count ih =>
    cases here : takeEvent text adapter.delimiters with
    | none => exact .done here
    | some pieces =>
      obtain ⟨event, rest⟩ := pieces
      have shorter := first_shorter adapter.proper here
      have some := frames_some adapter.proper here
      have complete : Complete adapter.delimiters text rest := by
        -- another delimiter would cut off another first event
        by_contra early
        obtain ⟨part, more, event', rest', split, found, differ⟩ :=
          first_early adapter.proper here early
        have events := cuts part more split
        rw [some, drain_some found] at events
        cases control : (adapter.mapEvent event' state).1.control with
        | goOn | breakOff =>
          rw [control] at events
          exact differ (List.cons.inj events).1
      have last : (adapter.mapEvent event state).1.control = .breakOff →
          takeEvent rest adapter.delimiters = none := by
        intro control
        have absent : takeEvent [] adapter.delimiters = none := by
          by_contra found
          obtain ⟨pieces, found⟩ := Option.ne_none_iff_exists'.mp found
          exact absurd (first_shorter adapter.proper found) (Nat.not_lt_zero _)
        have once := cuts [] text rfl
        rw [drain_none absent] at once
        dsimp only at once
        rw [List.nil_append, List.nil_append, drain_some here, control, some] at once
        exact (frames_eq_nil adapter.proper).mp (List.cons.inj once).2.symm
      refine .event here complete last ?_
      cases control : (adapter.mapEvent event state).1.control with
      | breakOff => exact .done (last control)
      | goOn =>
        refine ih _ (by omega) (fun part more split => ?_) rfl
        -- the first event is there in every part that reaches beyond its delimiter
        obtain ⟨_, delim, _, whole, found, -⟩ := first_some here
        have member : delim ∈ adapter.delimiters := by simp [whole]
        have longer : text = event ++ delim ++ part ++ more := by
          rw [cut_some found, split]
          simp
        have events := cuts (event ++ delim ++ part) more longer
        rw [longer] at here complete
        rcases first_start here complete with absent | ⟨part', taken, same⟩
        · exact absurd absent (takeEvent_of_delim member)
        · obtain rfl : part = part' := List.append_cancel_right (split.symm.trans same)
          rw [drain_some taken, control, some] at events
          exact (List.cons.inj events).2

end Buffer

/-! ### Chunks -/

/-- **The driver does not depend on the chunks**: it yields the same items for all of them, hands
all complete events of the text to the adapter, in their order, and leaves none in the buffer. -/
structure Steady {State Chunk : Type} (adapter : SseAdapter State Chunk) (bytes : List UInt8) :
    Prop where
  same : ∀ chunks chunks' : List (List UInt8), chunks.flatten = bytes → chunks'.flatten = bytes →
    (driveSse adapter (chunks.map .ok)).items = (driveSse adapter (chunks'.map .ok)).items
  complete : ∀ chunks : List (List UInt8), chunks.flatten = bytes →
    (driveSse adapter (chunks.map .ok)).events = frames adapter.delimiters (decodedText bytes) ∧
      takeEvent (driveSse adapter (chunks.map .ok)).buffer adapter.delimiters = none

def WithinLimit (bytes : List UInt8) : Prop :=
  byteLength (decodedText bytes) ≤ maxSseBufferBytes

section Chunks

variable {State Chunk : Type} {adapter : SseAdapter State Chunk} {state : State}
  {decoder : Utf8StreamDecoder} {bytes : List UInt8} {buffer more : List Char}

theorem byteLength_append (front back : List Char) :
    byteLength (front ++ back) = byteLength front + byteLength back := by
  simp [byteLength]

theorem drain_fits (adapter : SseAdapter State Chunk) (state : State)
    (fits : byteLength (buffer ++ more) ≤ maxSseBufferBytes) :
    byteLength ((drain adapter buffer state).buffer ++ more) ≤ maxSseBufferBytes ∧
      ¬maxSseBufferBytes < byteLength (drain adapter buffer state).buffer := by
  obtain ⟨taken, split⟩ := drain_suffix adapter buffer state
  have lengths := congrArg byteLength split
  rw [byteLength_append] at fits lengths ⊢
  omega

/-- **All chunks**, from any state of the driver. -/
theorem driveFrom_framed {chunks : List (List UInt8)} (quiet : decodedText decoder.pending = [])
    (resynced : Resynced (decoder.pending ++ chunks.flatten))
    (framed : Framed adapter state (buffer ++ decodedText (decoder.pending ++ chunks.flatten)))
    (fits : byteLength (buffer ++ decodedText (decoder.pending ++ chunks.flatten)) ≤
      maxSseBufferBytes)
    (empty : takeEvent buffer adapter.delimiters = none) :
    (driveFrom adapter decoder buffer state (chunks.map .ok)).events =
        frames adapter.delimiters (buffer ++ decodedText (decoder.pending ++ chunks.flatten)) ∧
      (driveFrom adapter decoder buffer state (chunks.map .ok)).items = (mapEvents adapter state
        (driveFrom adapter decoder buffer state (chunks.map .ok)).events).1 ∧
      takeEvent (driveFrom adapter decoder buffer state (chunks.map .ok)).buffer
        adapter.delimiters = none := by
  induction chunks generalizing decoder buffer state with
  | nil =>
    rw [List.flatten_nil, List.append_nil, quiet, List.append_nil, frames_none empty]
    exact ⟨rfl, rfl, empty⟩
  | cons chunk chunks ih =>
    rw [List.flatten_cons, ← List.append_assoc] at resynced framed fits ⊢
    obtain ⟨text, resynced, quiet⟩ := decode_step resynced
    rw [text, ← List.append_assoc] at framed fits ⊢
    obtain ⟨events, framed, empty⟩ := drain_framed framed
    obtain ⟨fits, short⟩ := drain_fits adapter state fits
    obtain ⟨later, items, left⟩ := ih quiet resynced framed fits empty
    rw [List.map_cons, driveFrom, if_neg short]
    refine ⟨?_, ?_, left⟩
    · rw [events, ← later]
    · dsimp only
      rw [mapEvents_append, drain_maps, items]

theorem steady_of_framed (resynced : Resynced bytes) (fits : WithinLimit bytes)
    (framed : Framed adapter adapter.initial (decodedText bytes)) : Steady adapter bytes := by
  have whole : ∀ chunks : List (List UInt8), chunks.flatten = bytes →
      (driveSse adapter (chunks.map .ok)).events = frames adapter.delimiters (decodedText bytes) ∧
      (driveSse adapter (chunks.map .ok)).items = (mapEvents adapter adapter.initial
        (driveSse adapter (chunks.map .ok)).events).1 ∧
      takeEvent (driveSse adapter (chunks.map .ok)).buffer adapter.delimiters = none := by
    rintro chunks rfl
    refine driveFrom_framed rfl resynced framed fits ?_
    by_contra found
    obtain ⟨pieces, found⟩ := Option.ne_none_iff_exists'.mp found
    exact absurd (first_shorter adapter.proper found) (Nat.not_lt_zero _)
  constructor
  · intro chunks chunks' one two
    rw [(whole chunks one).2.1, (whole chunks' two).2.1, (whole chunks one).1,
      (whole chunks' two).1]
  · exact fun chunks split => ⟨(whole chunks split).1, (whole chunks split).2.2⟩

theorem driveSse_two (adapter : SseAdapter State Chunk) {front back : List UInt8}
    (resynced : Resynced (front ++ back)) (fits : WithinLimit (front ++ back)) :
    let part := (Utf8StreamDecoder.default.decode front).1
    let drained := drain adapter part adapter.initial
    ∃ more, decodedText (front ++ back) = part ++ more ∧
      (driveSse adapter ([front, back].map .ok)).events =
        drained.events ++ (drain adapter (drained.buffer ++ more) drained.state).events := by
  have start : Resynced (Utf8StreamDecoder.default.pending ++ front ++ back) := resynced
  obtain ⟨text, resynced, quiet⟩ := decode_step start
  have single : [back].flatten = back := List.flatten_singleton
  rw [← single] at resynced
  have last := decodeAll_eq quiet resynced
  rw [Utf8StreamDecoder.decodeAll, Utf8StreamDecoder.decodeAll, List.append_nil,
    List.flatten_singleton] at last
  refine ⟨_, text, ?_⟩
  unfold WithinLimit at fits
  rw [show decodedText (front ++ back) = _ from text] at fits
  obtain ⟨-, short⟩ := drain_fits adapter adapter.initial fits
  rw [driveSse, List.map_cons, driveFrom, List.nil_append, if_neg short, List.map_cons, driveFrom,
    List.map_nil, last]
  split <;> simp [driveFrom]

theorem framed_of_steady (resynced : Resynced bytes) (fits : WithinLimit bytes)
    (steady : Steady adapter bytes) : Framed adapter adapter.initial (decodedText bytes) := by
  refine framed_of_cuts fun part more split => ?_
  have bound : part.length ≤ (decodedText bytes).length := by
    rw [split, List.length_append]
    omega
  obtain ⟨front, back, rfl, output⟩ := decode_start resynced bound
  rw [split, List.take_left] at output
  obtain ⟨more', text, events⟩ := driveSse_two adapter resynced fits
  rw [output] at text events
  obtain rfl : more = more' := List.append_cancel_left (split.symm.trans text)
  rw [← events]
  exact (steady.complete [front, back] (by simp)).1

/-- **Decoding does not depend on the chunks** exactly when nothing but an incomplete character
follows the first invalid sequence and, for a text that fits the buffer, its events are framed. -/
theorem decoding_steady_iff (adapter : SseAdapter State Chunk) (bytes : List UInt8) :
    Decodes bytes ∧ (WithinLimit bytes → Steady adapter bytes) ↔ Resynced bytes ∧
        (WithinLimit bytes → Framed adapter adapter.initial (decodedText bytes)) := by
  rw [decodes_iff]
  refine and_congr_right fun resynced => imp_congr_right fun fits => ?_
  exact ⟨framed_of_steady resynced fits, steady_of_framed resynced fits⟩

end Chunks

/-! ### Three byte strings -/

/-- **Two invalid bytes in one chunk**: the second one stays, and is lost with the end of the
stream. -/
theorem two_invalid_sequences :
    Utf8StreamDecoder.default.decodeAll [[0xFF, 0xFF]] = [Utf8.replacement] ∧
      decodedText [0xFF, 0xFF] = [Utf8.replacement, Utf8.replacement] ∧ ¬Decodes [0xFF, 0xFF] := by
  have one : Utf8StreamDecoder.default.decodeAll [[0xFF, 0xFF]] = [Utf8.replacement] := by decide
  have two : decodedText [0xFF, 0xFF] = [Utf8.replacement, Utf8.replacement] := by decide
  refine ⟨one, two, fun decodes => ?_⟩
  have same := decodes [[0xFF, 0xFF]] rfl
  rw [one, two] at same
  simp at same

end Ziee.Providers
