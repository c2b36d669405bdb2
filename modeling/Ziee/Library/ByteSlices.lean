/-
**Slices of a text at byte offsets.**

A text is a row of characters of one to four bytes. A slice at an offset that lies inside a
character, or outside the text, is not there.

* `find`, `rfind` — the byte offset of the first occurrence of a word, and of the last of a
  character.
* **`takeBytes_isSome`** — what can be sliced: the offsets between characters.
* **`slice_between`** — between two offsets that lie between characters there is a slice.
-/

import Mathlib.Algebra.Ring.Nat
import Ziee.Library.Framing

namespace ByteSlices

open Framing

variable {text front back word : List Char} {bytes index : Nat} {c : Char}

def size (text : List Char) : Nat := (text.map Char.utf8Size).sum

@[simp] theorem size_cons (c : Char) (text : List Char) : size
    (c :: text) = c.utf8Size + size text := rfl

@[simp] theorem size_append (front back : List Char) : size
    (front ++ back) = size front + size back := by
  rw [size, List.map_append, List.sum_append]
  rfl

theorem size_reverse (text : List Char) : size text.reverse = size text := by
  rw [size, List.map_reverse, List.sum_reverse]
  rfl

theorem size_pos (nonempty : text ≠ []) : 0 < size text := by
  cases text with
  | nil => exact absurd rfl nonempty
  | cons c text =>
    have positive := Char.utf8Size_pos c
    rw [size_cons]
    omega

/-! ### Slices -/

/-- `&text[..bytes]`. -/
def takeBytes (bytes : Nat) : List Char → Option (List Char)
  | [] => if bytes = 0 then some [] else none
  | c :: rest =>
    if bytes = 0 then some []
    else if c.utf8Size ≤ bytes then (takeBytes (bytes - c.utf8Size) rest).map (c :: ·) else none

/-- `&text[bytes..]`. -/
def dropBytes (bytes : Nat) : List Char → Option (List Char)
  | [] => if bytes = 0 then some [] else none
  | c :: rest =>
    if bytes = 0 then some (c :: rest)
    else if c.utf8Size ≤ bytes then dropBytes (bytes - c.utf8Size) rest else none

/-- `&text[start..stop]`. -/
def slice (start stop : Nat) (text : List Char) : Option (List Char) :=
  if stop < start then none else (dropBytes start text).bind (takeBytes (stop - start))

theorem takeBytes_append (front back : List Char) :
    takeBytes (size front) (front ++ back) = some front := by
  induction front with
  | nil => cases back <;> rfl
  | cons c front ih =>
    have positive := Char.utf8Size_pos c
    rw [List.cons_append, takeBytes, size_cons, if_neg (by omega), if_pos (by omega),
      Nat.add_sub_cancel_left, ih, Option.map_some]

theorem dropBytes_append (front back : List Char) :
    dropBytes (size front) (front ++ back) = some back := by
  induction front with
  | nil => cases back <;> rfl
  | cons c front ih =>
    have positive := Char.utf8Size_pos c
    rw [List.cons_append, dropBytes, size_cons, if_neg (by omega), if_pos (by omega),
      Nat.add_sub_cancel_left, ih]

theorem takeBytes_some (taken : takeBytes bytes text = some front) :
    ∃ back, text = front ++ back ∧ size front = bytes := by
  induction text generalizing bytes front with
  | nil =>
    rw [takeBytes] at taken
    split at taken
    · rename_i zero
      cases taken
      exact ⟨[], rfl, zero.symm⟩
    · cases taken
  | cons c rest ih =>
    rw [takeBytes] at taken
    split at taken
    · rename_i zero
      cases taken
      exact ⟨c :: rest, rfl, zero.symm⟩
    · split at taken
      · rename_i fits
        obtain ⟨tail, later, rfl⟩ := Option.map_eq_some_iff.mp taken
        obtain ⟨back, rfl, length⟩ := ih later
        refine ⟨back, rfl, ?_⟩
        rw [size_cons, length, Nat.add_sub_cancel' fits]
      · cases taken

/-- **An offset can be sliced at exactly when it lies between characters.** -/
theorem takeBytes_isSome : (takeBytes bytes text).isSome = true ↔
    ∃ front back, text = front ++ back ∧ size front = bytes := by
  constructor
  · intro there
    obtain ⟨front, taken⟩ := Option.isSome_iff_exists.mp there
    obtain ⟨back, split, length⟩ := takeBytes_some taken
    exact ⟨front, back, split, length⟩
  · rintro ⟨front, back, rfl, rfl⟩
    rw [takeBytes_append]
    rfl

/-- **Between two offsets that lie between characters there is a slice.** -/
theorem slice_between {early late rest rest' : List Char} (first : text = early ++ rest)
    (second : text = late ++ rest') (order : size early ≤ size late) :
    ∃ middle, late = early ++ middle ∧ slice (size early) (size late) text = some middle := by
  have ahead : early.length ≤ late.length := by
    by_contra longer
    have inside : late <+: early := List.prefix_of_prefix_length_le ⟨rest', second.symm⟩
      ⟨rest, first.symm⟩ (Nat.le_of_lt (Nat.lt_of_not_le longer))
    obtain ⟨more, rfl⟩ := inside
    rw [size_append] at order
    have nonempty : more ≠ [] := by
      rintro rfl
      simp at longer
    have positive := size_pos nonempty
    omega
  obtain ⟨middle, rfl⟩ : early <+: late := List.prefix_of_prefix_length_le ⟨rest, first.symm⟩
    ⟨rest', second.symm⟩ ahead
  refine ⟨middle, rfl, ?_⟩
  rw [second, List.append_assoc, slice, if_neg (by omega), dropBytes_append, Option.bind_some,
    size_append, Nat.add_sub_cancel_left, takeBytes_append]

/-! ### Offsets -/

/-- `text.find(word)`. -/
def find (word text : List Char) : Option Nat := (cut word text).map fun pieces => size pieces.1

/-- `text.rfind(c)`. -/
def rfind (c : Char) (text : List Char) : Option Nat :=
  (cut [c] text.reverse).map fun pieces => size pieces.2

theorem find_some (found : find word text = some index) :
    ∃ front back, text = front ++ word ++ back ∧ size front = index := by
  obtain ⟨⟨front, back⟩, here, rfl⟩ := Option.map_eq_some_iff.mp found
  exact ⟨front, back, cut_some here, rfl⟩

theorem rfind_some (found : rfind c text = some index) :
    ∃ front back, text = front ++ c :: back ∧ size front = index := by
  obtain ⟨⟨after, before⟩, here, rfl⟩ := Option.map_eq_some_iff.mp found
  refine ⟨before.reverse, after.reverse, ?_, size_reverse before⟩
  have split := congrArg List.reverse (cut_some here)
  rw [List.reverse_reverse] at split
  rw [split]
  simp

end ByteSlices
