/-
**Quoting a text for the shell** (`workflow/dispatch.rs`).

The sandbox step hands its command line to `bash -c` as one word, whatever the rendered text is.

* `shellEscapeSingle` — the text in single quotes, each of its own quotes outside them.
* **`shellEscapeSingle_word`** — **the shell reads one word, equal to the text**, alone and between
  other words.
-/

import Ziee.Library.ShellWords

namespace Ziee.Workflow

open Library.ShellWords
open Library.ShellWords.Reader (start steps steps_append steps_literal)

/-- What a character becomes inside the quotes. -/
def escapedChar (c : Char) : String := if c = '\'' then "'\\''" else c.toString

def shellEscapeSingle (s : String) : String :=
  s.toList.foldl (fun out c => out ++ escapedChar c) "'" ++ "'"

section Word

variable {s : String} {text : List Char}

theorem foldl_escaped (out : String) : (text.foldl (fun out c => out ++ escapedChar c) out).toList =
    out.toList ++ text.flatMap fun c => (escapedChar c).toList := by
  induction text generalizing out with
  | nil => rw [List.foldl_nil, List.flatMap_nil, List.append_nil]
  | cons c text ih =>
    rw [List.foldl_cons, ih, String.toList_append, List.flatMap_cons, List.append_assoc]

theorem toList_shellEscapeSingle : (shellEscapeSingle s).toList =
    ['\''] ++ ((s.toList.flatMap fun c => (escapedChar c).toList) ++ ['\'']) := by
  rw [shellEscapeSingle, String.toList_append, foldl_escaped, List.append_assoc]
  rfl

theorem steps_quote (earlier : List (List Char)) (word : List Char) :
    steps "'\\''".toList ⟨earlier, word, .single⟩ = some ⟨earlier, word ++ ['\''], .single⟩ := rfl

theorem steps_escapedChar (c : Char) (earlier : List (List Char)) (word : List Char) :
    steps (escapedChar c).toList ⟨earlier, word, .single⟩ =
      some ⟨earlier, word ++ [c], .single⟩ := by
  unfold escapedChar
  split
  · rename_i quote
    rw [quote]
    exact steps_quote earlier word
  · rename_i other
    have literal : '\'' ∉ [c] := fun member => other (List.mem_singleton.mp member).symm
    have one : c.toString.toList = [c] := by simp [Char.toString]
    rw [one]
    exact steps_literal literal earlier word

/-- **Inside the quotes** the shell reads the text. -/
theorem steps_escaped (earlier : List (List Char)) (word : List Char) :
    steps (text.flatMap fun c => (escapedChar c).toList) ⟨earlier, word, .single⟩ =
      some ⟨earlier, word ++ text, .single⟩ := by
  induction text generalizing word with
  | nil => rw [List.flatMap_nil, List.append_nil, steps]
  | cons c text ih =>
    rw [List.flatMap_cons, steps_append, steps_escapedChar, Option.bind_some, ih,
      List.append_assoc, List.singleton_append]

theorem steps_shellEscapeSingle :
    start.steps (shellEscapeSingle s).toList = some ⟨[], s.toList, .bare⟩ := by
  have opened : start.steps ['\''] = some ⟨[], [], .single⟩ := rfl
  rw [toList_shellEscapeSingle, steps_append, opened, Option.bind_some, steps_append, steps_escaped,
    Option.bind_some, List.nil_append]
  rfl

/-- **The shell reads one word, equal to the text**: alone, and between other words. -/
theorem shellEscapeSingle_word (s : String) (before after : String)
    (earlier later : List (List Char)) (readsBefore : words before.toList = some earlier)
    (readsAfter : words after.toList = some later) :
    words (shellEscapeSingle s).toList = some [s.toList] ∧
      words (before ++ " " ++ shellEscapeSingle s ++ " " ++ after).toList =
        some (earlier ++ s.toList :: later) := by
  have alone : words (shellEscapeSingle s).toList = some [s.toList] := by
    rw [words, steps_shellEscapeSingle]
    rfl
  refine ⟨alone, ?_⟩
  have split : (before ++ " " ++ shellEscapeSingle s ++ " " ++ after).toList =
      before.toList ++ ' ' :: ((shellEscapeSingle s).toList ++ ' ' :: after.toList) := by
    simp [String.toList_append]
  rw [split, words_blank readsBefore, words_blank alone, readsAfter]
  rfl

theorem shellEscapeSingle_word_bash : words (shellEscapeSingle "echo 'a b' $(id) \\").toList =
        some ["echo 'a b' $(id) \\".toList] ∧
      words ("bash -c" ++ " " ++ shellEscapeSingle "echo 'a b' $(id) \\" ++ " " ++ "x").toList =
        some (["bash".toList, "-c".toList] ++ "echo 'a b' $(id) \\".toList :: ["x".toList]) :=
  shellEscapeSingle_word _ "bash -c" "x" _ _ (by decide) (by decide)

end Word

end Ziee.Workflow
