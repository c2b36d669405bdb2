/-
**Neutralised text has no markers** (`neutralize_untrusted`).

Each of the three passes rewrites the text piece by piece, and every piece it puts in begins with an
ampersand, which no marker has. So no pass makes a marker of another pass, and each removes its own.

* `HasReminderTag`, `HasRoleLine`, `HasDirective` — the markers; `Inert` — a text without any.
* `replaceCi_rewrites`, `neutralizeLineRole_rewrites`, `neutralizePermissions_rewrites` — the passes
  as rewritings.
* **`neutralizeUntrusted_inert`** — the result is inert, a second time changes nothing, and an inert
  text is left as it is.
-/

import Mathlib.Data.List.TakeWhile
import Ziee.Agent.Guard
import Ziee.Library.Rewriting

namespace Ziee.Agent

open Ziee.Providers Rewriting

def inAnyCase (marker : List Char) : List (Char → Bool) := marker.map fun m c => m == c.toLower

/-- How an opening and a closing tag begin; a tag may go on with attributes. -/
def reminderTags : List (List Char) := ["<system-reminder".toList, "</system-reminder".toList]

def HasReminderTag (text : List Char) : Prop :=
  ∃ tag ∈ reminderTags, occurs (inAnyCase tag) text = true

def HasRoleLine (text : List Char) : Prop :=
  ∃ line ∈ splitInclusive text, ∃ role ∈ roleWords,
    startsWith (inAnyCase role) (trimStart line) = true

/-- Two colons between identifier characters. -/
def directive : List (Char → Bool) := [isIdent, (· == ':'), (· == ':'), isIdent]

def HasDirective (text : List Char) : Prop := occurs directive text = true

/-- **A text without markers.** -/
structure Inert (text : List Char) : Prop where
  noTag : ¬ HasReminderTag text
  noRole : ¬ HasRoleLine text
  noDirective : ¬ HasDirective text

theorem startsWithCi_eq : ∀ marker text : List Char,
    startsWithCi marker text = startsWith (inAnyCase marker) text
  | [], _ => rfl
  | _ :: _, [] => rfl
  | m :: marker, c :: rest => by
    have later := startsWithCi_eq marker rest
    rw [startsWithCi] at later ⊢
    rw [List.map_cons, List.isPrefixOf, later]
    rfl

/-! ### Reminder tags -/

section Tags

variable {marker replacement text : List Char}

theorem replaceCi_skip (skip : Nat) :
    replaceCi marker replacement skip text = replaceCi marker replacement 0 (text.drop skip) := by
  induction skip generalizing text with
  | zero => rfl
  | succ skip ih =>
    cases text with
    | nil => rfl
    | cons c rest => exact ih

theorem replaceCi_rewrites (nonempty : marker ≠ []) (text : List Char) :
    Rewrites (fun text => startsWith (inAnyCase marker) text = false)
      (fun _ piece => piece = replacement) text (replaceCi marker replacement 0 text) := by
  -- The induction is on the length: after a replacement the rest of the marker is passed over.
  induction length : text.length using Nat.strongRecOn generalizing text with
  | _ size ih =>
    cases text with
    | nil => exact .nil
    | cons c rest =>
      rw [replaceCi, startsWithCi_eq]
      cases begins : startsWith (inAnyCase marker) (c :: rest) with
      | false =>
        refine .copy begins (ih rest.length ?_ rest rfl)
        simp [← length]
      | true =>
        rw [if_pos rfl, replaceCi_skip]
        have split : c :: rest = (c :: rest).take marker.length ++ rest.drop
          (marker.length - 1) := by
          obtain ⟨m, tail, rfl⟩ := List.exists_cons_of_ne_nil nonempty
          exact (List.take_append_drop (tail.length + 1) (c :: rest)).symm
        rw [split]
        refine .replace rfl (ih _ ?_ _ rfl)
        simp only [← length, List.length_drop, List.length_cons]
        omega

theorem replaceCi_eq_self (missing : occurs (inAnyCase marker) text = false) :
    replaceCi marker replacement 0 text = text := by
  induction text with
  | nil => rfl
  | cons c rest ih =>
    obtain ⟨here, later⟩ := Bool.or_eq_false_iff.mp missing
    rw [replaceCi, startsWithCi_eq, here, if_neg Bool.false_ne_true, ih later]

/-- **The tags are escaped**: neither form is left. -/
theorem escapeReminderTags_clean (text : List Char) : ¬ HasReminderTag
    (escapeReminderTags text) := by
  rintro ⟨tag, member, found⟩
  have opened : occurs (inAnyCase "<system-reminder".toList)
      (replaceCi "<system-reminder".toList "&lt;system-reminder".toList 0 text) = false :=
    (replaceCi_rewrites (List.cons_ne_nil _ _) text).not_occurs (List.cons_ne_nil _ _)
      (fun _ piece same => by subst same; decide) (fun _ free => free)
  have again := @replaceCi_rewrites "</system-reminder".toList "&lt;/system-reminder".toList
    (List.cons_ne_nil _ _) (replaceCi "<system-reminder".toList "&lt;system-reminder".toList 0 text)
  rcases List.mem_cons.mp member with rfl | member
  · have before := again.occurs (fun _ piece same => by subst same; decide) found
    rw [opened] at before
    cases before
  · obtain rfl := List.mem_singleton.mp member
    have gone : occurs (inAnyCase "</system-reminder".toList) (escapeReminderTags text) = false :=
      again.not_occurs (List.cons_ne_nil _ _) (fun _ piece same => by subst same; decide)
        (fun _ free => free)
    rw [gone] at found
    cases found

theorem escapeReminderTags_eq_self (clean : ¬ HasReminderTag text) :
    escapeReminderTags text = text := by
  have missing : ∀ tag ∈ reminderTags, occurs (inAnyCase tag) text = false := fun tag member =>
    Bool.eq_false_iff.mpr fun found => clean ⟨tag, member, found⟩
  rw [escapeReminderTags, replaceCi_eq_self (missing _ List.mem_cons_self),
    replaceCi_eq_self (missing _ (List.mem_cons_of_mem _ List.mem_cons_self))]

end Tags

/-! ### Role words -/

theorem toLower_eq_colon {c : Char} (lower : c.toLower = ':') : c = ':' := by
  unfold Char.toLower at lower
  split at lower
  · rename_i upper
    have value : (c.val + ('a'.val - 'A'.val)).toNat = 58 := congrArg (fun c => c.val.toNat) lower
    rw [UInt32.toNat_add] at value
    have shift : ('a'.val - 'A'.val).toNat = 32 := rfl
    rw [shift] at value
    have most : c.val.toNat ≤ 90 := upper.2
    have least : 65 ≤ c.val.toNat := upper.1
    omega
  · exact lower

/-- **What a line becomes**: the colon of a leading role word is escaped. -/
inductive LineRole : List Char → List Char → Prop
  | none {line : List Char} : (∀ role ∈ roleWords,
    startsWith (inAnyCase role) (trimStart line) = false) → LineRole line line
  | role {blank word after : List Char} : (∀ c ∈ blank, isWhitespace c = true) →
      (∀ c ∈ word.head?, isWhitespace c = false) → word.map Char.toLower ++ [':'] ∈ roleWords →
      LineRole (blank ++ (word ++ ':' :: after)) (blank ++ (word ++ ("&#58;".toList ++ after)))

theorem roleWords_colon : ∀ role ∈ roleWords,
    role = role.take (role.length - 1) ++ [':'] := by decide

theorem lineRole (line : List Char) : LineRole line (neutralizeLineRole line) := by
  unfold neutralizeLineRole
  dsimp only
  cases found : roleWords.find? fun role => startsWithCi role (trimStart line) with
  | none =>
    refine .none fun role member => ?_
    have missing := List.find?_eq_none.mp found role member
    rw [startsWithCi_eq] at missing
    exact Bool.eq_false_iff.mpr missing
  | some role =>
    have member := List.mem_of_find?_eq_some found
    have begins : startsWithCi role (trimStart line) = true := by
      have holds := List.find?_some found
      exact holds
    -- The role word is the lower case of what stands at the start of the line.
    obtain ⟨tail, same⟩ := List.isPrefixOf_iff_prefix.mp begins
    obtain ⟨front, after, trimmed, lower, -⟩ := List.map_eq_append_iff.mp same.symm
    have shape := roleWords_colon role member
    generalize role.take (role.length - 1) = name at shape
    obtain ⟨word, colon, rfl, named, last⟩ := List.map_eq_append_iff.mp (lower.trans shape)
    obtain ⟨c, rfl, mark⟩ := List.map_eq_singleton_iff.mp last
    obtain rfl := toLower_eq_colon mark
    have size : role.length = word.length + 1 := by
      rw [← lower, List.length_map, List.length_append, List.length_singleton]
    have listed : word.map Char.toLower ++ [':'] ∈ roleWords := by
      rw [named, ← shape]
      exact member
    have whole : line = line.takeWhile isWhitespace ++ (word ++ ':' :: after) := by
      have split := List.takeWhile_append_dropWhile (p := isWhitespace) (l := line)
      rw [show line.dropWhile isWhitespace = trimStart line from rfl, trimmed,
        List.append_assoc] at split
      exact split.symm
    have escaped : trimStart line = word ++ ':' :: after := by
      rw [trimmed, List.append_assoc]
      rfl
    show LineRole line (line.takeWhile isWhitespace ++ (trimStart line).take (role.length - 1) ++
      "&#58;".toList ++ (trimStart line).drop role.length)
    rw [escaped, size, Nat.add_sub_cancel, List.take_left, List.append_assoc, List.append_assoc]
    have behind : (word ++ ':' :: after).drop (word.length + 1) = after := by
      rw [← List.drop_drop, List.drop_left]
      rfl
    have leads : ∀ c ∈ word.head?, isWhitespace c = false := by
      intro c first
      obtain ⟨others, rfl⟩ := List.head?_eq_some_iff.mp first
      have stops := List.head?_dropWhile_not isWhitespace line
      rw [show line.dropWhile isWhitespace = trimStart line from rfl, escaped] at stops
      exact stops
    rw [behind]
    nth_rewrite 1 [whole]
    exact .role (fun c => List.mem_takeWhile_imp) leads listed

def escapedColon (gone piece : List Char) : Prop := gone = [':'] ∧ piece = "&#58;".toList

theorem escapedColon_spares {gone piece : List Char} (escaped : escapedColon gone piece) :
    Spares '\n' gone piece := by
  obtain ⟨rfl, rfl⟩ := escaped
  exact ⟨by decide, by decide, by decide, by decide⟩

theorem rewrites_self {pieces : List Char → List Char → Prop} :
    ∀ text, Rewrites (fun _ => True) pieces text text
  | [] => .nil
  | _ :: rest => .copy trivial (rewrites_self rest)

theorem neutralizeLineRole_rewrites (line : List Char) :
    Rewrites (fun _ => True) escapedColon line (neutralizeLineRole line) := by
  generalize line' : neutralizeLineRole line = result
  have becomes := lineRole line
  rw [line'] at becomes
  cases becomes with
  | none => exact rewrites_self line
  | role =>
    have colon : escapedColon [':'] "&#58;".toList := ⟨rfl, rfl⟩
    exact (rewrites_self _).append ((rewrites_self _).append (.replace colon (rewrites_self _)))

theorem clashes_inAnyCase : ∀ marker text : List Char,
    clashes (inAnyCase marker) text = clashes (marker.map fun m c => m == c) (text.map Char.toLower)
  | [], [] => rfl
  | [], _ :: _ => rfl
  | _ :: _, [] => rfl
  | m :: marker, c :: rest => by
    have later := clashes_inAnyCase marker rest
    show (!(m == c.toLower) || clashes (inAnyCase marker) rest) = _
    rw [later]
    rfl

theorem trimStart_append {blank rest : List Char} (blanks : ∀ c ∈ blank, isWhitespace c = true) :
    trimStart (blank ++ rest) = trimStart rest := by
  rw [trimStart, List.dropWhile_append_of_pos blanks, trimStart]

/-- **No role word leads the line afterwards.** -/
theorem neutralizeLineRole_clean (line : List Char) : ∀ role ∈ roleWords,
    startsWith (inAnyCase role) (trimStart (neutralizeLineRole line)) = false := by
  generalize line' : neutralizeLineRole line = result
  have becomes := lineRole line
  rw [line'] at becomes
  cases becomes with
  | none missing => exact missing
  | @role blank word after blanks leads listed =>
    intro role member
    have differs : clashes (inAnyCase role) (word ++ ['&']) = true := by
      rw [clashes_inAnyCase, List.map_append]
      have all : ∀ role ∈ roleWords, ∀ other ∈ roleWords, clashes (role.map fun m c => m == c)
          (other.dropLast ++ ['&'].map Char.toLower) = true := by decide
      have one := all role member _ listed
      rwa [List.dropLast_concat] at one
    have untrimmed : trimStart (word ++ ("&#58;".toList ++ after)) =
        word ++ ("&#58;".toList ++ after) := by
      cases word with
      | nil => rfl
      | cons c word =>
        rw [trimStart, List.cons_append, List.dropWhile_cons, leads c rfl]
        rfl
    rw [trimStart_append blanks, untrimmed]
    have apart := startsWith_of_clashes differs ("#58;".toList ++ after)
    rwa [List.append_assoc] at apart

theorem splitInclusive_eq (text : List Char) : splitInclusive text = linesOf '\n' text := by
  induction text with
  | nil => rfl
  | cons c rest ih =>
    rw [splitInclusive, linesOf, ih]
    cases linesOf '\n' rest <;> rfl

/-- **No line begins with a role word afterwards.** -/
theorem neutralizeRolePrefixes_clean (text : List Char) :
    ¬ HasRoleLine (neutralizeRolePrefixes text) := by
  rintro ⟨line, member, role, listed, found⟩
  rw [neutralizeRolePrefixes, splitInclusive_eq, splitInclusive_eq,
    linesOf_flatMap (fun _ _ => escapedColon_spares) text neutralizeLineRole_rewrites] at member
  obtain ⟨line, _, rfl⟩ := List.mem_map.mp member
  rw [neutralizeLineRole_clean line role listed] at found
  cases found

theorem neutralizeRolePrefixes_rewrites (text : List Char) :
    Rewrites (fun _ => True) escapedColon text (neutralizeRolePrefixes text) := by
  have lines : ∀ lines : List (List Char), Rewrites (fun _ => True) escapedColon lines.flatten
      (lines.flatMap neutralizeLineRole) := by
    intro lines
    induction lines with
    | nil => exact .nil
    | cons line lines ih => exact (neutralizeLineRole_rewrites line).append ih
  have whole := lines (splitInclusive text)
  rwa [splitInclusive_eq, flatten_linesOf, ← splitInclusive_eq] at whole

theorem neutralizeRolePrefixes_eq_self {text : List Char} (clean : ¬ HasRoleLine text) :
    neutralizeRolePrefixes text = text := by
  have unchanged : ∀ line ∈ splitInclusive text, neutralizeLineRole line = line := by
    intro line member
    unfold neutralizeLineRole
    dsimp only
    have missing : (roleWords.find? fun role => startsWithCi role (trimStart line)) = none := by
      refine List.find?_eq_none.mpr fun role listed found => clean ⟨line, member, role, listed, ?_⟩
      rwa [← startsWithCi_eq]
    rw [missing]
  have flat : neutralizeRolePrefixes text = (splitInclusive text).flatten := by
    rw [neutralizeRolePrefixes, List.flatMap_def, List.map_congr_left unchanged, List.map_id']
  rw [flat, splitInclusive_eq, flatten_linesOf]

/-! ### Directives -/

theorem neutralizePermissions_rewrites (previous : Option Char) (text : List Char) :
    Rewrites (fun _ => True) escapedColon text (neutralizePermissions previous text) := by
  fun_induction neutralizePermissions previous text with
  | case1 previous next rest _ ih =>
    have colon : escapedColon [':'] "&#58;".toList := ⟨rfl, rfl⟩
    exact .replace colon (.replace colon ih)
  | case2 previous next rest _ ih => exact .copy trivial ih
  | case3 previous c rest _ ih => exact .copy trivial ih
  | case4 => exact .nil

/-- Two colons and an identifier, as they follow an identifier. -/
def separator : List (Char → Bool) := [(· == ':'), (· == ':'), isIdent]

theorem escapedColon_outside {pattern : List (Char → Bool)}
    (lacks : ∀ ofClass ∈ pattern, ofClass '&' = false) :
    ∀ gone piece, escapedColon gone piece → ∃ first behind, piece = first :: behind ∧
      ∀ ofClass ∈ pattern, ofClass first = false := by
  rintro gone piece ⟨-, rfl⟩
  exact ⟨'&', "#58;".toList, rfl, lacks⟩

theorem neutralizePermissions_separated {previous : Char} (ident : isIdent previous = true)
    (text : List Char) : startsWith separator
    (neutralizePermissions (some previous) text) = false := by
  rw [Bool.eq_false_iff]
  intro found
  have before := (neutralizePermissions_rewrites (some previous) text).startsWith
    (escapedColon_outside (by decide)) found
  match text with
  | [] => cases before
  | [_] => simp [separator, startsWith] at before
  | [_, _] => simp [separator, startsWith] at before
  | first :: second :: next :: rest =>
    simp only [separator, startsWith, Bool.and_eq_true, beq_iff_eq, and_true] at before
    obtain ⟨rfl, rfl, follows⟩ := before
    rw [neutralizePermissions, Option.any_some, ident, follows, Bool.and_self, if_pos rfl] at found
    cases found

/-- **No directive is left.** -/
theorem neutralizePermissions_clean (previous : Option Char) (text : List Char) :
    ¬ HasDirective (neutralizePermissions previous text) := by
  rw [HasDirective, Bool.not_eq_true]
  have copied : ∀ c rest, occurs directive (neutralizePermissions (some c) rest) = false →
      occurs directive (c :: neutralizePermissions (some c) rest) = false := by
    intro c rest later
    rw [occurs, later, Bool.or_false]
    show (isIdent c && startsWith separator (neutralizePermissions (some c) rest)) = false
    cases ident : isIdent c with
    | false => rfl
    | true => exact neutralizePermissions_separated ident rest
  fun_induction neutralizePermissions previous text with
  | case1 previous next rest _ ih => rwa [occurs_append_foreign (by decide)]
  | case2 previous next rest _ ih => exact copied ':' _ ih
  | case3 previous c rest _ ih => exact copied c rest ih
  | case4 => rfl

theorem neutralizePermissions_eq_self (previous : Option Char) (text : List Char)
    (apart : previous.any isIdent = true → startsWith separator text = false)
    (clean : ¬ HasDirective text) : neutralizePermissions previous text = text := by
  have behind : ∀ c rest, ¬ HasDirective (c :: rest) →
      ((some c).any isIdent = true → startsWith separator rest = false) ∧ ¬ HasDirective rest := by
    intro c rest clean
    rw [HasDirective, Bool.not_eq_true, occurs, Bool.or_eq_false_iff] at clean
    refine ⟨fun ident => ?_, Bool.eq_false_iff.mp clean.2⟩
    have here : (isIdent c && startsWith separator rest) = false := clean.1
    rw [Option.any_some] at ident
    rwa [ident, Bool.true_and] at here
  fun_induction neutralizePermissions previous text with
  | case1 previous next rest ident ih =>
    obtain ⟨before, follows⟩ := Bool.and_eq_true_iff.mp ident
    have none := apart before
    simp [separator, startsWith, follows] at none
  | case2 previous next rest _ ih =>
    obtain ⟨apart, clean⟩ := behind _ _ clean
    rw [ih apart clean]
  | case3 previous c rest _ ih =>
    obtain ⟨apart, clean⟩ := behind _ _ clean
    rw [ih apart clean]
  | case4 => rfl

/-! ### The three passes -/

theorem not_hasReminderTag_of_rewrites {text text' : List Char}
    (rewrites : Rewrites (fun _ => True) escapedColon text text') (clean : ¬ HasReminderTag text) :
    ¬ HasReminderTag text' := by
  rintro ⟨tag, member, found⟩
  refine clean ⟨tag, member, rewrites.occurs ?_ found⟩
  rintro gone piece ⟨-, rfl⟩
  have each : ∀ tag ∈ reminderTags, foreign (inAnyCase tag) "&#58;".toList = true := by decide
  exact each tag member

theorem not_hasRoleLine_of_rewrites {text text' : List Char}
    (rewrites : Rewrites (fun _ => True) escapedColon text text') (clean : ¬ HasRoleLine text) :
    ¬ HasRoleLine text' := by
  rintro ⟨line', member, role, listed, found⟩
  rw [splitInclusive_eq] at member
  obtain ⟨line, inside, becomes⟩ := rewrites.line_before (fun _ _ => escapedColon_spares) member
  rw [← splitInclusive_eq] at inside
  refine clean ⟨line, inside, role, listed, becomes.startsWith_dropWhile ?_ ?_ found⟩
  · rintro gone piece ⟨-, rfl⟩
    refine ⟨'&', "#58;".toList, rfl, by decide, ?_⟩
    have each : ∀ role ∈ roleWords, ∀ ofClass ∈ inAnyCase role, ofClass '&' = false := by decide
    exact each role listed
  · have each : ∀ role ∈ roleWords, role ≠ [] := by decide
    exact fun empty => each role listed (List.map_eq_nil_iff.mp empty)

/-- **Neutralised text is inert**: no reminder tag, no role line and no directive is left,
neutralising it again changes nothing, and a text without markers is left as it is. -/
theorem neutralizeUntrusted_inert (text : String) : Inert (neutralizeUntrusted text).toList ∧
      neutralizeUntrusted (neutralizeUntrusted text) = neutralizeUntrusted text ∧
      (Inert text.toList → neutralizeUntrusted text = text) := by
  have unchanged : ∀ text : String, Inert text.toList → neutralizeUntrusted text = text := by
    intro text inert
    have apart : (none : Option Char).any isIdent = true →
      startsWith separator text.toList = false :=
      nofun
    rw [neutralizeUntrusted, escapeReminderTags_eq_self inert.noTag,
      neutralizeRolePrefixes_eq_self inert.noRole,
      neutralizePermissions_eq_self none text.toList apart inert.noDirective, String.ofList_toList]
  have inert : Inert (neutralizeUntrusted text).toList := by
    rw [neutralizeUntrusted, String.toList_ofList]
    have roles := neutralizeRolePrefixes_rewrites (escapeReminderTags text.toList)
    have permissions := neutralizePermissions_rewrites none
      (neutralizeRolePrefixes (escapeReminderTags text.toList))
    exact ⟨not_hasReminderTag_of_rewrites permissions
        (not_hasReminderTag_of_rewrites roles (escapeReminderTags_clean _)),
      not_hasRoleLine_of_rewrites permissions (neutralizeRolePrefixes_clean _),
      neutralizePermissions_clean none _⟩
  exact ⟨inert, unchanged _ inert, unchanged text⟩

theorem neutralizeUntrusted_inert_nested :
    Inert (neutralizeUntrusted "<<system-reminder> a::b").toList ∧
      neutralizeUntrusted "<&lt;system-reminder> a&#58;&#58;b" =
        "<&lt;system-reminder> a&#58;&#58;b" := by
  have same : neutralizeUntrusted "<<system-reminder> a::b" =
    "<&lt;system-reminder> a&#58;&#58;b" := by
    decide
  obtain ⟨inert, again, -⟩ := neutralizeUntrusted_inert "<<system-reminder> a::b"
  rw [same] at again
  exact ⟨inert, again⟩

end Ziee.Agent
