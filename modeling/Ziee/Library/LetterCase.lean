/-
**Letters and their case.**

What the Unicode tables say of a text: which characters are letters or digits, and how a text is
written in lower case, where a character may become several.

* `LetterCase` — the tables, with what is relied on: a text made of characters that lowercasing has
  written is in lower case, and a letter does not become a bar.
* `LetterCase.ascii` — the tables on the ASCII characters.
-/

import Mathlib.Data.String.Basic

namespace Ziee.Library

structure LetterCase where
  /-- `char::is_alphanumeric`. -/
  alphanumeric : Char → Bool
  /-- `char::to_lowercase`. -/
  lowerChar : Char → List Char
  /-- `str::to_lowercase`. -/
  lower : List Char → List Char
  /-- What is written in lower case stays as it is. -/
  settled : ∀ text piece, (∀ c ∈ piece, c ∈ lower text) → lower piece = piece
  /-- A letter or a digit does not become a bar. -/
  no_bar : ∀ c, alphanumeric c = true → '|' ∉ lowerChar c

/-! ### ASCII -/

theorem val_toLower_of_upper {c : Char} (upper : c.val ≥ 'A'.val ∧ c.val ≤ 'Z'.val) :
    c.toLower.val.toNat = c.val.toNat + 32 := by
  have most : c.val.toNat ≤ 90 := upper.2
  have shift : ('a'.val - 'A'.val).toNat = 32 := rfl
  have moved : c.toLower.val = c.val + ('a'.val - 'A'.val) := by
    unfold Char.toLower
    rw [dif_pos upper]
  rw [moved, UInt32.toNat_add, shift]
  omega

theorem toLower_of_not_upper {c : Char} (other : ¬ (c.val ≥ 'A'.val ∧ c.val ≤ 'Z'.val)) :
    c.toLower = c := by
  unfold Char.toLower
  rw [dif_neg other]

theorem toLower_toLower (c : Char) : c.toLower.toLower = c.toLower := by
  by_cases upper : c.val ≥ 'A'.val ∧ c.val ≤ 'Z'.val
  · refine toLower_of_not_upper fun again => ?_
    have value := val_toLower_of_upper upper
    have least : 65 ≤ c.val.toNat := upper.1
    have most : c.toLower.val.toNat ≤ 90 := again.2
    omega
  · rw [toLower_of_not_upper upper, toLower_of_not_upper upper]

theorem toLower_eq_bar {c : Char} (bar : c.toLower = '|') : c = '|' := by
  by_cases upper : c.val ≥ 'A'.val ∧ c.val ≤ 'Z'.val
  · have value := val_toLower_of_upper upper
    have most : c.val.toNat ≤ 90 := upper.2
    have code : ('|' : Char).val.toNat = 124 := rfl
    rw [bar, code] at value
    omega
  · rwa [toLower_of_not_upper upper] at bar

/-- The tables on the ASCII characters, with every other character left alone. -/
def LetterCase.ascii : LetterCase where
  alphanumeric := Char.isAlphanum
  lowerChar c := [c.toLower]
  lower text := text.map Char.toLower
  settled text piece inside := by
    calc piece.map Char.toLower = piece.map id := by
          refine List.map_congr_left fun c member => ?_
          obtain ⟨original, -, rfl⟩ := List.mem_map.mp (inside c member)
          exact toLower_toLower original
      _ = piece := List.map_id piece
  no_bar c letter := by
    rw [List.mem_singleton]
    intro bar
    rw [toLower_eq_bar bar.symm] at letter
    revert letter
    decide

end Ziee.Library
