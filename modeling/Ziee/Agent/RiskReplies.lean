/-
**How the reviewer reads a reply** (`parse_assessment`, `reviewer.rs`).

The reply is a JSON object, or a free text. Of a JSON object the risk and the authorization are read
from their fields. In a free text the risk is the most severe band that occurs anywhere, and the
authorization is read behind its label, in a window that is cut after 48 bytes.

* `RawAssessment.ofMembers` — the fields of the object under all their names; `readMembers` stands
  for the JSON reader, which gives the members in their order.
* `Torn`, `ReachesTorn` — a character across the 48th byte behind a label that the scan comes to.
* **`parseAssessment_isSome_iff`** — **when the parser returns**: unless it comes to such a label.
-/

import Ziee.Agent.Approval
import Ziee.Providers.Text
import Ziee.Library.ByteSlices

namespace Ziee.Agent

open ByteSlices Framing Ziee.Providers

/-- `s.to_ascii_uppercase()`, on the characters. -/
def upper (text : List Char) : List Char := text.map Char.toUpper

/-- `s.contains(word)`. -/
def contains (text : List Char) (word : String) : Bool := decide (word.toList <:+: text)

inductive RiskCategory
  | exfiltration
  | destructive
  | credential
  | persistence
  | protectedPath
  | other
  deriving DecidableEq, Repr

def parseRiskBand (text : List Char) : Option Risk :=
  if contains (upper text) "CRITICAL" then some .critical
  else if contains (upper text) "HIGH" then some .high
  else if contains (upper text) "LOW" then some .low
  else none

def parseAuthorizationWord (text : List Char) : Option Authorization :=
  let words := upper text
  if contains words "UNKNOWN" || contains words "ABSTAIN" || contains words "UNSURE" ||
      contains words "N/A" then some .unknown
  else if contains words "MEDIUM" || contains words "MED" then some .medium
  else if contains words "HIGH" then some .high
  else if contains words "LOW" then some .low
  else none

def parseCategoryWord (text : List Char) : Option RiskCategory :=
  let words := upper text
  if contains words "EXFIL" then some .exfiltration
  else if contains words "DESTRUC" || contains words "IRREVERS" then some .destructive
  else if contains words "CRED" || contains words "SECRET" then some .credential
  else if contains words "PERSIST" then some .persistence
  else if contains words "PROTECT" || contains words "PATH" then some .protectedPath
  else if contains words "OTHER" then some .other
  else none

/-! ### A JSON reply -/

structure RawAssessment where
  risk : Option String
  authorization : Option String
  category : Option String
  rationale : Option String

namespace RawAssessment

def field (names : List String) (members : List (String × Json)) : Option (Option String) :=
  match members.filter fun member => names.contains member.1 with
  | [] => some none
  | [(_, .null)] => some none
  | [(_, .string text)] => some (some text)
  | _ => none

/-- The fields of the object; all are optional, and others are ignored. -/
def ofMembers (members : List (String × Json)) : Option RawAssessment := do
  let risk ← field ["risk", "risk_level", "band"] members
  let authorization ← field ["authorization", "user_authorization", "authz"] members
  let category ← field ["category"] members
  let rationale ← field ["rationale", "reason"] members
  pure ⟨risk, authorization, category, rationale⟩

end RawAssessment

structure FullAssessment extends RiskAssessment where
  category : Option RiskCategory
  rationale : Option String
  deriving DecidableEq, Repr

/-- What is made of the fields; the band must be there. -/
def RawAssessment.assessment (raw : RawAssessment) : Option FullAssessment := do
  let risk ← raw.risk
  let band ← parseRiskBand risk.toList
  pure
    { band := band
      authorization := (raw.authorization.bind fun text => parseAuthorizationWord text.toList).getD
        .unknown
      category := raw.category.bind fun text => parseCategoryWord text.toList
      rationale := raw.rationale.filter fun text => !isBlank text }

/-- `parse_json_assessment`, from the first brace to the last; `none` where the slice would
panic. -/
def parseJsonAssessment (readMembers : List Char → Option (List (String × Json)))
    (text : List Char) :
    Option (Option FullAssessment) :=
  match ByteSlices.find ['\x7b'] text, rfind '\x7d' text with
  | some start, some stop =>
    if stop < start then some none
    else (slice start (stop + 1) text).map fun object =>
      ((readMembers object).bind RawAssessment.ofMembers).bind RawAssessment.assessment
  | _, _ => some none

/-! ### A free text -/

def authorizationLabels : List String := ["USER_AUTHORIZATION", "AUTHORIZATION", "AUTHZ"]

def parseAuthorizationLabeled (words : List Char) : List String → Option Authorization
  | [] => some .unknown
  | label :: labels =>
    match ByteSlices.find label.toList words with
    | none => parseAuthorizationLabeled words labels
    | some index =>
      match dropBytes (index + size label.toList) words with
      | none => none
      | some tail =>
        match takeBytes (min (size tail) 48) tail with
        | none => none
        | some window =>
          match parseAuthorizationWord window with
          | some authorization => some authorization
          | none => parseAuthorizationLabeled words labels

def unparseable : AppError := ⟨"reviewer: unparseable risk classification"⟩

/-- **`parse_assessment`**; `none` where it would panic. -/
def parseAssessment (readMembers : List Char → Option (List (String × Json))) (text : List Char) :
    Option (Except AppError FullAssessment) :=
  match parseJsonAssessment readMembers text with
  | none => none
  | some (some assessment) => some (.ok assessment)
  | some none =>
    match parseRiskBand text with
    | none => some (.error unparseable)
    | some band => (parseAuthorizationLabeled (upper text) authorizationLabels).map
      fun authorization =>
      .ok ⟨⟨band, authorization⟩, none, none⟩

/-! ### Offsets -/

theorem parseJsonAssessment_isSome (readMembers : List Char → Option (List (String × Json)))
    (text : List Char) : (parseJsonAssessment readMembers text).isSome = true := by
  unfold parseJsonAssessment
  cases opened : ByteSlices.find ['\x7b'] text with
  | none => rfl
  | some start =>
    cases closed : rfind '\x7d' text with
    | none => rfl
    | some stop =>
      dsimp only
      by_cases crossed : stop < start
      · rw [if_pos crossed]
        rfl
      · obtain ⟨early, rest, first, rfl⟩ := find_some opened
        obtain ⟨late, after, second, rfl⟩ := rfind_some closed
        have brace : size (late ++ ['\x7d']) = size late + 1 := size_append late ['\x7d']
        have behind : text = (late ++ ['\x7d']) ++ after := by rw [second]; simp
        rw [List.append_assoc] at first
        obtain ⟨object, _, there⟩ := slice_between first behind (by omega)
        rw [if_neg crossed, ← brace, there]
        rfl

inductive Behind
  | nothing
  | torn
  | window (text : List Char)

def behind (words : List Char) (label : String) : Behind :=
  match cut label.toList words with
  | none => .nothing
  | some (_, tail) =>
    match takeBytes (min (size tail) 48) tail with
    | none => .torn
    | some window => .window window

/-- **A character lies across the 48th byte** behind the first occurrence of the label. -/
def Torn (words : List Char) (label : String) : Prop :=
  ∃ front tail, cut label.toList words = some (front, tail) ∧ 48 < size tail ∧
    ∀ head rest, tail = head ++ rest → size head ≠ 48

theorem behind_eq_torn_iff {words : List Char} {label : String} :
    behind words label = .torn ↔ Torn words label := by
  unfold behind Torn
  cases there : cut label.toList words with
  | none => simp
  | some pieces =>
    obtain ⟨front, tail⟩ := pieces
    have apart : (takeBytes (min (size tail) 48) tail = none) ↔
        48 < size tail ∧ ∀ head rest, tail = head ++ rest → size head ≠ 48 := by
      rw [← Option.not_isSome_iff_eq_none, takeBytes_isSome]
      rcases Nat.lt_or_ge 48 (size tail) with long | short
      · rw [Nat.min_eq_right (Nat.le_of_lt long), and_iff_right long]
        push Not
        rfl
      · rw [Nat.min_eq_left short]
        exact iff_of_false (fun no => no ⟨tail, [], (List.append_nil tail).symm, rfl⟩)
          (fun torn => absurd torn.1 (Nat.not_lt.mpr short))
    cases taken : takeBytes (min (size tail) 48) tail with
    | none | some => simpa [taken] using apart

def Passed (words : List Char) (label : String) : Prop :=
  behind words label = .nothing ∨
    ∃ window, behind words label = .window window ∧ parseAuthorizationWord window = none

def ReachesTorn (words : List Char) (labels : List String) : Prop :=
  ∃ before label after, labels = before ++ label :: after ∧
    (∀ earlier ∈ before, Passed words earlier) ∧ Torn words label

theorem parseAuthorizationLabeled_cons (words : List Char) (label : String) (labels : List String) :
    parseAuthorizationLabeled words (label :: labels) =
      match behind words label with
      | .nothing => parseAuthorizationLabeled words labels
      | .torn => none
      | .window window =>
        match parseAuthorizationWord window with
        | some authorization => some authorization
        | none => parseAuthorizationLabeled words labels := by
  rw [parseAuthorizationLabeled, behind, ByteSlices.find]
  cases there : cut label.toList words with
  | none => rfl
  | some pieces =>
    obtain ⟨front, tail⟩ := pieces
    have dropped : dropBytes (size front + size label.toList) words = some tail := by
      rw [cut_some there, ← size_append]
      exact dropBytes_append _ tail
    dsimp only [Option.map_some]
    rw [dropped]
    dsimp only
    cases takeBytes (min (size tail) 48) tail <;> rfl

theorem reachesTorn_cons {words : List Char} {label : String} {labels : List String} :
    ReachesTorn words (label :: labels) ↔
      Torn words label ∨ (Passed words label ∧ ReachesTorn words labels) := by
  constructor
  · rintro ⟨before, other, after, same, passed, torn⟩
    cases before with
    | nil =>
      obtain ⟨rfl, -⟩ := List.cons.inj same
      exact Or.inl torn
    | cons first before =>
      obtain ⟨rfl, rfl⟩ := List.cons.inj same
      obtain ⟨here, later⟩ := List.forall_mem_cons.mp passed
      exact Or.inr ⟨here, before, other, after, rfl, later, torn⟩
  · rintro (torn | ⟨here, before, other, after, rfl, later, torn⟩)
    · exact ⟨[], label, labels, rfl, fun _ member => (List.not_mem_nil member).elim, torn⟩
    · exact ⟨label :: before, other, after, rfl, List.forall_mem_cons.mpr ⟨here, later⟩, torn⟩

theorem parseAuthorizationLabeled_eq_none (words : List Char) (labels : List String) :
    parseAuthorizationLabeled words labels = none ↔ ReachesTorn words labels := by
  induction labels with
  | nil =>
    refine iff_of_false nofun ?_
    rintro ⟨before, label, after, same, -⟩
    simp at same
  | cons label labels ih =>
    rw [parseAuthorizationLabeled_cons, reachesTorn_cons, ← behind_eq_torn_iff, ← ih, Passed]
    cases behind words label with
    | nothing | torn => simp
    | window window =>
      cases read : parseAuthorizationWord window with
      | none | some => simp [read]

/-- **When the parser returns**: the reply is answered from its JSON object, or names no risk, or
the scan comes to no label with a character across the 48th byte behind it. -/
theorem parseAssessment_isSome_iff (readMembers : List Char → Option (List (String × Json)))
    (text : List Char) : (parseAssessment readMembers text).isSome = true ↔
      (∃ assessment, parseJsonAssessment readMembers text = some (some assessment)) ∨
        parseRiskBand text = none ∨ ¬ ReachesTorn (upper text) authorizationLabels := by
  unfold parseAssessment
  obtain ⟨answered, json⟩ := Option.isSome_iff_exists.mp
    (parseJsonAssessment_isSome readMembers text)
  rw [json]
  cases answered with
  | some assessment => simp
  | none =>
    cases banded : parseRiskBand text with
    | none => simp
    | some band =>
      rw [← parseAuthorizationLabeled_eq_none]
      cases parseAuthorizationLabeled (upper text) authorizationLabels <;> simp

/-- A reply whose 48th byte behind the label lies inside a character. -/
def tornReply : List Char :=
  "HIGH AUTHORIZATION".toList ++ List.replicate 47 '.' ++ ['é']

theorem tornReply_panics :
    ¬ ∃ readMembers, (parseAssessment readMembers tornReply).isSome = true := by
  rintro ⟨readMembers, returned⟩
  have unanswered : parseJsonAssessment readMembers tornReply = some none := by
    have closed : ByteSlices.find ['\x7b'] tornReply = none := by decide +kernel
    rw [parseJsonAssessment, closed]
  have banded : parseRiskBand tornReply = some .high := by decide +kernel
  have torn : parseAuthorizationLabeled (upper tornReply) authorizationLabels = none := by
    decide +kernel
  rw [parseAssessment, unanswered] at returned
  dsimp only at returned
  rw [banded, torn] at returned
  cases returned

end Ziee.Agent
