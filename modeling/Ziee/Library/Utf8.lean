/-
**UTF-8, one octet at a time.**

A character is a first octet and as many tail octets as the first asks for, each in a range. What
does not fit is an invalid sequence: the longest start of a character before it, or a single octet.

* `State`, `read` — a character that is being read, and one octet more.
* **`lossy_of_scan`** — the lossy text goes on behind the first invalid sequence.
-/

import Mathlib.Data.List.Basic

namespace Utf8

/-- The octets from one to another. -/
structure Range where
  low : UInt8
  high : UInt8

def Range.has (range : Range) (octet : UInt8) : Bool := range.low ≤ octet && octet ≤ range.high

def tail : Range := ⟨0x80, 0xBF⟩

/-- The tail octets that a first octet asks for; `none` when no character starts with it. -/
def tails (first : UInt8) : Option (List Range) :=
  if first ≤ 0x7F then some []
  else if first < 0xC2 then none
  else if first ≤ 0xDF then some [tail]
  else if first = 0xE0 then some [⟨0xA0, 0xBF⟩, tail]
  else if first = 0xED then some [⟨0x80, 0x9F⟩, tail]
  else if first ≤ 0xEF then some [tail, tail]
  else if first = 0xF0 then some [⟨0x90, 0xBF⟩, tail, tail]
  else if first ≤ 0xF3 then some [tail, tail, tail]
  else if first = 0xF4 then some [⟨0x80, 0x8F⟩, tail, tail]
  else none

/-- `U+FFFD`. -/
def replacement : Char := Char.ofNat 0xFFFD

/-- The character of its octets. -/
def scalar : List UInt8 → Char
  | [a] => Char.ofNat a.toNat
  | [a, b] => Char.ofNat (a.toNat % 32 * 64 + b.toNat % 64)
  | [a, b, c] => Char.ofNat ((a.toNat % 16 * 64 + b.toNat % 64) * 64 + c.toNat % 64)
  | [a, b, c, d] =>
    Char.ofNat (((a.toNat % 8 * 64 + b.toNat % 64) * 64 + c.toNat % 64) * 64 + d.toNat % 64)
  | _ => replacement

/-! ### The machine -/

/-- Between characters, or inside one: the octets seen, and the ranges of those to come. -/
inductive State
  | start
  | inside (seen : List UInt8) (next : Range) (later : List Range)

def State.octets : State → List UInt8
  | .start => []
  | .inside seen _ _ => seen

inductive Reading
  | char (char : Char)
  | more (state : State)
  /-- No character starts with the octet. -/
  | bad
  /-- The octet does not go on with the character; it is read again as the first of the next. -/
  | cutShort

/-- A character whose octets are seen, or the next octet that it asks for. -/
def Reading.of (seen : List UInt8) : List Range → Reading
  | [] => .char (scalar seen)
  | next :: later => .more (.inside seen next later)

/-- **One octet.** -/
def read : State → UInt8 → Reading
  | .start, octet => (tails octet).elim .bad (.of [octet])
  | .inside seen next later, octet =>
    if next.has octet then .of (seen ++ [octet]) later else .cutShort

/-- How the text ends: at the end of the octets, perhaps inside a character, or at an invalid
sequence, with the octets behind it. -/
inductive Stop
  | ended (state : State)
  | invalid (rest : List UInt8)

/-- **The text up to the first invalid sequence.** -/
def scan : State → List UInt8 → List Char × Stop
  | state, [] => ([], .ended state)
  | state, octet :: rest =>
    match read state octet with
    | .char char => (char :: (scan .start rest).1, (scan .start rest).2)
    | .more next => scan next rest
    | .bad => ([], .invalid rest)
    | .cutShort => ([], .invalid (octet :: rest))

def feed (state : State) (octet : UInt8) : List Char × State :=
  match read state octet with
  | .char char => ([char], .start)
  | .more next => ([], next)
  | .bad => ([replacement], .start)
  | .cutShort =>
    match read .start octet with
    | .char char => ([replacement, char], .start)
    | .more next => ([replacement], next)
    | _ => ([replacement, replacement], .start)

/-- **The text with a replacement character for each invalid sequence**, and the incomplete
character at the end. -/
def lossy : State → List UInt8 → List Char × State
  | state, [] => ([], state)
  | state, octet :: rest =>
    ((feed state octet).1 ++ (lossy (feed state octet).2 rest).1,
      (lossy (feed state octet).2 rest).2)

/-! ### The lossy text -/

section Lossy

variable {state next : State} {octet : UInt8} {octets front back rest : List UInt8}
  {valid : List Char} {stop : Stop}

theorem read_start_ne_cutShort : read .start octet ≠ .cutShort := by
  show (tails octet).elim Reading.bad (Reading.of [octet]) ≠ .cutShort
  cases tails octet with
  | none => simp
  | some ranges => cases ranges <;> simp [Reading.of]

theorem feed_cutShort (short : read state octet = .cutShort) :
    feed state octet = (replacement :: (feed .start octet).1, (feed .start octet).2) := by
  unfold feed
  rw [short]
  cases start : read .start octet with
  | char | more | bad => rfl
  | cutShort => exact absurd start read_start_ne_cutShort

/-- **The lossy text**: the text up to the first invalid sequence, a replacement character, and the
lossy text of the octets behind it. -/
theorem lossy_of_scan (state : State) (octets : List UInt8) :
    lossy state octets = match scan state octets with
      | (valid, .ended last) => (valid, last)
      | (valid, .invalid rest) => (valid ++ replacement :: (lossy .start rest).1,
          (lossy .start rest).2) := by
  induction octets generalizing state with
  | nil => rfl
  | cons octet rest ih =>
    rw [lossy, scan]
    cases reading : read state octet with
    | char char =>
      have fed : feed state octet = ([char], .start) := by rw [feed, reading]
      rw [fed, ih .start]
      rcases scan .start rest with ⟨valid, stop⟩
      cases stop <;> rfl
    | more next =>
      have fed : feed state octet = ([], next) := by rw [feed, reading]
      rw [fed]
      exact ih next
    | bad =>
      have fed : feed state octet = ([replacement], .start) := by rw [feed, reading]
      rw [fed]
      rfl
    | cutShort =>
      rw [feed_cutShort reading]
      rfl

theorem lossy_append (state : State) (front back : List UInt8) :
    lossy state (front ++ back) = ((lossy state front).1 ++ (lossy (lossy state front).2 back).1,
      (lossy (lossy state front).2 back).2) := by
  induction front generalizing state with
  | nil => rfl
  | cons octet front ih =>
    rw [List.cons_append, lossy, ih, lossy]
    simp

theorem lossy_of_ended (ended : scan state octets = (valid, .ended next)) :
    lossy state octets = (valid, next) := by
  rw [lossy_of_scan, ended]

theorem lossy_of_invalid (invalid : scan state octets = (valid, .invalid rest)) :
    (lossy state octets).1 = valid ++ replacement :: (lossy .start rest).1 := by
  rw [lossy_of_scan, invalid]

end Lossy

/-! ### Reading on -/

section Append

variable {state next : State} {octet : UInt8} {octets front back rest : List UInt8}
  {valid : List Char} {stop : Stop}

/-- **More octets** are read from the state at the end, or stay behind the invalid sequence. -/
theorem scan_append (state : State) (front back : List UInt8) :
    scan state (front ++ back) = match scan state front with
      | (valid, .ended last) => (valid ++ (scan last back).1, (scan last back).2)
      | (valid, .invalid rest) => (valid, .invalid (rest ++ back)) := by
  induction front generalizing state with
  | nil => rfl
  | cons octet front ih =>
    rw [List.cons_append, scan, scan]
    cases reading : read state octet with
    | char char =>
      dsimp only
      rw [ih .start]
      rcases scan .start front with ⟨valid, stop⟩
      cases stop <;> rfl
    | more next => exact ih next
    | bad => rfl
    | cutShort => rfl

theorem scan_append_ended (ended : scan state front = (valid, .ended next)) (back : List UInt8) :
    scan state (front ++ back) = (valid ++ (scan next back).1, (scan next back).2) := by
  rw [scan_append, ended]

theorem scan_append_invalid (invalid : scan state front = (valid, .invalid rest))
    (back : List UInt8) : scan state (front ++ back) = (valid, .invalid (rest ++ back)) := by
  rw [scan_append, invalid]

/-- **Reading the octets of the incomplete character again** leads back to the state. -/
def Kept (state : State) : Prop := ∀ more, scan .start (state.octets ++ more) = scan state more

theorem kept_start : Kept .start := fun _ => rfl

theorem read_octets (reading : read state octet = .more next) :
    next.octets = state.octets ++ [octet] := by
  have of : ∀ {seen : List UInt8} {ranges : List Range},
      Reading.of seen ranges = .more next → next.octets = seen := by
    intro seen ranges
    cases ranges with
    | nil => simp [Reading.of]
    | cons range later =>
      intro same
      cases same
      rfl
  cases state with
  | start =>
    change (tails octet).elim Reading.bad (Reading.of [octet]) = _ at reading
    cases asked : tails octet with
    | none => simp [asked] at reading
    | some ranges =>
      rw [asked] at reading
      exact of reading
  | inside seen range later =>
    change (if range.has octet then Reading.of (seen ++ [octet]) later else .cutShort) =
      _ at reading
    by_cases fits : range.has octet
    · rw [if_pos fits] at reading
      exact of reading
    · rw [if_neg fits] at reading
      cases reading

theorem scan_more (reading : read state octet = .more next) (more : List UInt8) :
    scan state (octet :: more) = scan next more := by
  rw [scan, reading]

theorem Kept.more (kept : Kept state) (reading : read state octet = .more next) : Kept next := by
  intro more
  rw [read_octets reading, List.append_assoc, ← scan_more reading more]
  exact kept (octet :: more)

/-- **The state at the end of a scan** is read again from its octets. -/
theorem scan_kept (kept : Kept state) (ended : scan state octets = (valid, .ended next)) :
    Kept next := by
  induction octets generalizing state valid with
  | nil =>
    cases ended
    exact kept
  | cons octet rest ih =>
    rw [scan] at ended
    cases reading : read state octet with
    | char char =>
      rw [reading] at ended
      obtain ⟨-, last⟩ := Prod.mk.inj ended
      exact ih kept_start (Prod.ext rfl last)
    | more state' =>
      rw [reading] at ended
      exact ih (kept.more reading) ended
    | bad =>
      rw [reading] at ended
      cases (Prod.mk.inj ended).2
    | cutShort =>
      rw [reading] at ended
      cases (Prod.mk.inj ended).2

theorem lossy_kept (kept : Kept state) (more : List UInt8) :
    lossy .start (state.octets ++ more) = lossy state more := by
  rw [lossy_of_scan, lossy_of_scan, kept more]

theorem scan_octets (kept : Kept state) : scan .start state.octets = ([], .ended state) := by
  have again := kept []
  rwa [List.append_nil] at again

end Append

/-! ### Starts of a text -/

section Take

variable {state : State} {octets : List UInt8}

/-- **Every start of the text** is the text of a start of the octets. -/
theorem scan_take (state : State) (octets : List UInt8) {count : Nat}
    (bound : count ≤ (scan state octets).1.length) : ∃ front back last, octets = front ++ back ∧
      scan state front = ((scan state octets).1.take count, .ended last) := by
  induction octets generalizing state count with
  | nil => exact ⟨[], [], state, rfl, by rw [scan, List.take_nil]⟩
  | cons octet rest ih =>
    by_cases zero : count = 0
    · exact ⟨[], octet :: rest, state, rfl, by rw [zero, List.take_zero, scan]⟩
    · rw [scan] at bound ⊢
      cases reading : read state octet with
      | char char =>
        rw [reading] at bound
        obtain ⟨count, rfl⟩ := Nat.exists_eq_succ_of_ne_zero zero
        obtain ⟨front, back, last, rfl, taken⟩ := ih .start (Nat.le_of_succ_le_succ bound)
        refine ⟨octet :: front, back, last, rfl, ?_⟩
        rw [scan, reading]
        simp [taken]
      | more next =>
        rw [reading] at bound
        obtain ⟨front, back, last, rfl, taken⟩ := ih next bound
        exact ⟨octet :: front, back, last, rfl, (scan_more reading front).trans taken⟩
      | bad | cutShort =>
        rw [reading] at bound
        exact absurd (Nat.le_zero.mp bound) zero

end Take

end Utf8
