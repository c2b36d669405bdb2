/-
**The chunks of a page cover it** (`chunk_page`).

A window is shortened to a blank and the next one steps back by the overlap, or not where that would
not advance; a blank window is no chunk. Whatever the characters are, the windows go on.

* `chunkOf` — the chunk of a window; `chunkOf_slice` — it is the slice at its byte offsets.
* **`chunkPage_covers`** — **the chunks of a page are those of such windows**.
-/

import Mathlib.Data.List.TakeWhile
import Ziee.Rag.Chunking

namespace Ziee.Rag

open Ziee.Providers (isBlank isWhitespace trim trimStart)

variable {params : ChunkParams} {chars : List Char} {start stop : Nat} {windows : List (Nat × Nat)}

/-! ### One window -/

def bytes (chars : List Char) : Nat := (chars.map Char.utf8Size).sum

def chunkOf (chars : List Char) (pageNumber : Nat) (window : Nat × Nat) (index : Nat) :
    ChunkDraft :=
  ⟨pageNumber, index, byteAt chars window.1, byteAt chars window.2,
    String.ofList ((chars.drop window.1).take (window.2 - window.1))⟩

/-- **A chunk is the slice at its byte offsets**, which are between characters. -/
theorem chunkOf_slice (pageNumber index : Nat) (order : start ≤ stop) :
    let chunk := chunkOf chars pageNumber (start, stop) index
    chars.take start ++ (chunk.content.toList ++ chars.drop stop) = chars ∧
      chunk.charStart = bytes (chars.take start) ∧
      chunk.charEnd = chunk.charStart + bytes chunk.content.toList := by
  have rest : (chars.drop start).take (stop - start) ++ chars.drop stop = chars.drop start := by
    rw [← Nat.add_sub_cancel' order, ← List.drop_drop, Nat.add_sub_cancel_left,
      List.take_append_drop]
  have upTo : chars.take stop = chars.take start ++ (chars.drop start).take (stop - start) := by
    rw [← List.take_add, Nat.add_sub_cancel' order]
  refine ⟨?_, rfl, ?_⟩
  · rw [chunkOf, String.toList_ofList, rest, List.take_append_drop]
  · simp only [chunkOf, byteAt, bytes, String.toList_ofList]
    rw [upTo, List.map_append, List.sum_append]

theorem byteAt_lt (order : start < stop) (within : start < chars.length) :
    byteAt chars start < byteAt chars stop := by
  have first : 0 < bytes ((chars.drop start).take (stop - start)) := by
    obtain ⟨more, length⟩ := Nat.exists_eq_succ_of_ne_zero (Nat.sub_ne_zero_of_lt order)
    rw [length, List.drop_eq_getElem_cons within, List.take_succ_cons, bytes, List.map_cons,
      List.sum_cons]
    exact Nat.add_pos_left (Char.utf8Size_pos _) _
  obtain ⟨-, -, ends⟩ := @chunkOf_slice chars _ _ 0 0 order.le
  simp only [chunkOf, String.toList_ofList] at ends
  omega

theorem isWhitespace_of_isBlank {slice : List Char} (blank : isBlank (.ofList slice) = true) :
    ∀ c ∈ slice, isWhitespace c = true := by
  rw [isBlank, String.toList_ofList, List.isEmpty_iff, trim, List.reverse_eq_nil_iff, trimStart,
    List.dropWhile_eq_nil_iff] at blank
  intro c member
  rw [← List.takeWhile_append_dropWhile (p := isWhitespace) (l := slice)] at member
  exact (List.mem_append.mp member).elim List.mem_takeWhile_imp fun later =>
    blank c (List.mem_reverse.mpr later)

theorem softEnd_bounds {nominalEnd floor w : Nat} (order : w ≤ nominalEnd)
    (room : floor ≤ nominalEnd) : floor ≤ softEnd chars nominalEnd floor w ∧
      softEnd chars nominalEnd floor w ≤ nominalEnd := by
  induction w with
  | zero => exact ⟨room, Nat.le_refl _⟩
  | succ w ih =>
    rw [softEnd]
    split
    · rename_i above
      split
      · exact ⟨above.le, order⟩
      · exact ih (Nat.le_of_succ_le order)
    · exact ⟨room, Nat.le_refl _⟩

/-- **A window is not empty**, and at most as long as it may be. -/
theorem windowEnd_bounds (positive : 1 ≤ params.chunkChars) (within : start < chars.length) :
    start < windowEnd params chars start ∧ windowEnd params chars start ≤ chars.length ∧
      windowEnd params chars start ≤ start + params.chunkChars := by
  unfold windowEnd
  dsimp only
  split
  · have soft := @softEnd_bounds chars (min (start + params.chunkChars) chars.length)
      (max (min (start + params.chunkChars) chars.length - max (params.chunkChars * 15 / 100) 1)
        (start + 1)) _ (Nat.le_refl _) (by omega)
    omega
  · omega

/-! ### All windows -/

/-- **Windows that cover the page** from a position on: each is after the one before and overlaps it
within bounds, and what is in none is blank. -/
structure Covering (params : ChunkParams) (chars : List Char) (start : Nat)
    (windows : List (Nat × Nat)) : Prop where
  inside : ∀ window ∈ windows, start ≤ window.1 ∧ window.1 < window.2 ∧
    window.2 ≤ chars.length ∧ window.2 ≤ window.1 + params.chunkChars
  ahead : windows.Pairwise fun earlier later =>
    earlier.1 < later.1 ∧ earlier.2 ≤ later.1 + params.overlapChars
  covers : ∀ position c, start ≤ position → chars[position]? = some c → isWhitespace c = false →
    ∃ window ∈ windows, window.1 ≤ position ∧ position < window.2

theorem Covering.nil (atEnd : chars.length ≤ start) : Covering params chars start [] where
  inside _ member := absurd member List.not_mem_nil
  ahead := List.Pairwise.nil
  covers position c after found _ := by
    have within := (List.getElem?_eq_some_iff.mp found).1
    omega

def shown (chars : List Char) (window : Nat × Nat) : List (Nat × Nat) :=
  if isBlank (.ofList ((chars.drop window.1).take (window.2 - window.1))) then [] else [window]

/-- **One more window**, before those that start at most the overlap before its end. -/
theorem Covering.cons {next : Nat} (bounds : start < stop ∧ stop ≤ chars.length ∧
      stop ≤ start + params.chunkChars) (advances : start < next ∧ next ≤ stop ∧
      stop ≤ next + params.overlapChars) (covering : Covering params chars next windows) :
    Covering params chars start (shown chars (start, stop) ++ windows) := by
  have later : ∀ window ∈ windows, start < window.1 ∧ stop ≤ window.1 + params.overlapChars := by
    intro window member
    have := (covering.inside window member).1
    omega
  have behind : ∀ position c, stop ≤ position → chars[position]? = some c →
      isWhitespace c = false → ∃ window ∈ windows, window.1 ≤ position ∧ position < window.2 :=
    fun position c after => covering.covers position c (advances.2.1.trans after)
  have tails : ∀ window ∈ windows, start ≤ window.1 ∧ window.1 < window.2 ∧
      window.2 ≤ chars.length ∧ window.2 ≤ window.1 + params.chunkChars := fun window member =>
    ⟨(later window member).1.le, (covering.inside window member).2⟩
  unfold shown
  split
  · rename_i blank
    refine ⟨tails, covering.ahead, fun position c from_ found visible => ?_⟩
    rcases Nat.lt_or_ge position stop with here | after
    · -- A character of a blank window is blank.
      have member : c ∈ (chars.drop start).take (stop - start) := by
        refine List.mem_iff_getElem?.mpr ⟨position - start, ?_⟩
        rw [List.getElem?_take_of_lt (by omega), List.getElem?_drop, Nat.add_sub_cancel' from_,
          found]
      rw [isWhitespace_of_isBlank blank c member] at visible
      cases visible
    · exact behind position c after found visible
  · refine ⟨List.forall_mem_cons.mpr ⟨⟨Nat.le_refl _, bounds⟩, tails⟩,
      List.pairwise_cons.mpr ⟨later, covering.ahead⟩, fun position c from_ found visible => ?_⟩
    rcases Nat.lt_or_ge position stop with here | after
    · exact ⟨_, List.mem_cons_self, from_, here⟩
    · obtain ⟨window, member, inside⟩ := behind position c after found visible
      exact ⟨window, List.mem_cons_of_mem _ member, inside⟩

def chunksOf (chars : List Char) (pageNumber index : Nat) (windows : List (Nat × Nat)) :
    List ChunkDraft :=
  (windows.zipIdx index).map fun entry => chunkOf chars pageNumber entry.1 entry.2

theorem windowDraft_eq (pageNumber index start stop : Nat) :
    windowDraft chars pageNumber index start stop =
      chunksOf chars pageNumber index (shown chars (start, stop)) := by
  unfold windowDraft shown
  dsimp only
  split <;> rfl

/-- **The windows from a position on**, in any number of rounds that is enough. -/
theorem chunkWindows_covering (positive : 1 ≤ params.chunkChars) (pageNumber start : Nat) :
    ∃ windows, Covering params chars start windows ∧ ∀ fuel index, chars.length ≤ start + fuel →
      chunkWindows params chars pageNumber fuel start index =
        chunksOf chars pageNumber index windows := by
  induction remaining : chars.length - start using Nat.strong_induction_on generalizing start with
  | _ remaining ih =>
    rcases Nat.lt_or_ge start chars.length with within | atEnd
    · have bounds := windowEnd_bounds positive within
      generalize same : windowEnd params chars start = stop at bounds
      have advances : ∀ next, next = (if start < stop - params.overlapChars then
            stop - params.overlapChars else stop) →
          start < next ∧ next ≤ stop ∧ stop ≤ next + params.overlapChars := by
        rintro next rfl
        split <;> omega
      generalize goes : (if start < stop - params.overlapChars then
        stop - params.overlapChars else stop) = next at advances
      have advance := advances next rfl
      obtain ⟨windows, covering, rest⟩ := ih _ (by omega) next rfl
      by_cases last : chars.length ≤ stop
      · -- The last window: there is no more to cover.
        refine ⟨shown chars (start, stop) ++ [], Covering.cons bounds
          ⟨bounds.1, Nat.le_refl _, Nat.le_add_right _ _⟩ (Covering.nil last),
          fun fuel index enough => ?_⟩
        obtain ⟨fuel, rfl⟩ := Nat.exists_eq_succ_of_ne_zero (by omega : fuel ≠ 0)
        rw [chunkWindows, if_pos within, same, List.append_nil]
        dsimp only
        rw [if_pos last, windowDraft_eq]
      · refine ⟨_, covering.cons bounds advance, fun fuel index enough => ?_⟩
        obtain ⟨fuel, rfl⟩ := Nat.exists_eq_succ_of_ne_zero (by omega : fuel ≠ 0)
        rw [chunkWindows, if_pos within, same]
        dsimp only
        rw [if_neg last, goes, rest _ _ (by omega), windowDraft_eq]
        simp [chunksOf, List.zipIdx_append]
    · exact ⟨[], Covering.nil atEnd, fun fuel index _ => by
        cases fuel <;> simp [chunkWindows, Nat.not_lt.mpr atEnd, chunksOf]⟩

/-- **The chunks cover the page**: they are the numbered chunks of windows that advance, overlap
within bounds and leave out blanks only; each is the slice of the page at its byte offsets, not
longer than a chunk may be; and more rounds than characters add nothing. -/
theorem chunkPage_covers (params : ChunkParams) (text : String) (pageNumber indexStart : Nat)
    (positive : 1 ≤ params.chunkChars) : ∃ windows, chunkPage params text pageNumber indexStart =
        chunksOf text.toList pageNumber indexStart windows ∧
      Covering params text.toList 0 windows ∧
      ((chunkPage params text pageNumber indexStart).Pairwise fun earlier later =>
        earlier.charStart < later.charStart) ∧
      (∀ chunk ∈ chunkPage params text pageNumber indexStart, ∃ before after,
        before ++ (chunk.content.toList ++ after) = text.toList ∧
        chunk.charStart = bytes before ∧ chunk.charEnd = bytes before + bytes chunk.content.toList ∧
        chunk.content.toList.length ≤ params.chunkChars) ∧
      ∀ fuel, text.toList.length ≤ fuel → chunkWindows params text.toList pageNumber fuel 0
        indexStart = chunkPage params text pageNumber indexStart := by
  obtain ⟨windows, covering, runs⟩ :=
    @chunkWindows_covering params text.toList positive pageNumber 0
  have page := runs text.toList.length indexStart (Nat.le_add_left _ _)
  refine ⟨windows, page, covering, ?_, fun chunk member => ?_, fun fuel enough =>
    (runs fuel indexStart (by omega)).trans page.symm⟩
  · rw [chunkPage, page, chunksOf, List.pairwise_map]
    have ahead := covering.ahead
    rw [← List.zipIdx_map_fst indexStart windows, List.pairwise_map] at ahead
    refine ahead.imp_of_mem fun {earlier _} member _ order => byteAt_lt order.1 ?_
    obtain ⟨-, inside, stop, -⟩ :=
      covering.inside earlier.1 (List.fst_mem_of_mem_zipIdx (x := earlier) member)
    omega
  rw [chunkPage, page] at member
  obtain ⟨⟨window, index⟩, listed, rfl⟩ := List.mem_map.mp member
  obtain ⟨-, order, -, length⟩ := covering.inside window (List.fst_mem_of_mem_zipIdx listed)
  obtain ⟨slice, first, last⟩ := @chunkOf_slice text.toList _ _ pageNumber index order.le
  refine ⟨_, _, slice, first, first ▸ last, ?_⟩
  rw [chunkOf, String.toList_ofList, List.length_take]
  dsimp only
  omega

theorem chunkPage_greeting : ∃ windows, chunkPage ⟨4, 1⟩ "héllo you" 1 0 =
    chunksOf "héllo you".toList 1 0 windows :=
  (chunkPage_covers ⟨4, 1⟩ "héllo you" 1 0 (by decide)).imp fun _ covers => covers.1

end Ziee.Rag
