/-
**References as RIS** (`citations/format.rs`, `to_ris`).

A record is a line for its type, a line for each field with its tag, and a line that ends it.
The values come from remote services; their line breaks are replaced by spaces.

* `risFields` — what is exported of an item; `toRis` — the text.
* `lineTexts_flatMap` — the lines of the text are the lines that were written.
* **`toRis_read`** — **the reader finds the records of the items**, whatever their values are.
-/

import Ziee.Control.SchemaInline
import Ziee.Sandbox.LineSplices

namespace Ziee.Citations

open Ziee.Control (asStr get)
open Ziee.Files (lineTexts stripEnd)
open Ziee.Library
open Ziee.Providers (Json JsonNumber)

def risType (cslType : String) : String :=
  match cslType with
  | "article-journal" | "article" => "JOUR"
  | "book" => "BOOK"
  | "chapter" => "CHAP"
  | "paper-conference" => "CPAPER"
  | "thesis" => "THES"
  | "report" => "RPRT"
  | "webpage" => "ELEC"
  | "dataset" => "DATA"
  | _ => "JOUR"

def risSanitize (s : String) : List Char :=
  s.toList.map fun c => if c = '\r' ∨ c = '\n' then ' ' else c

def asArray : Json → Option (List Json)
  | .array items => some items
  | _ => none

/-- `Value::as_i64`. -/
def asI64 : Json → Option Int
  | .number (.posInt value) => if value < 2 ^ 63 then some value else none
  | .number (.negInt value) => some value
  | _ => none

structure RisField where
  tag : String
  value : List Char
  deriving DecidableEq

def stringField (tag key : String) (item : Json) : List RisField :=
  (((get key item).bind asStr).map fun value => ⟨tag, risSanitize value⟩).toList

def authorName (author : Json) : String :=
  match (get "family" author).bind asStr, (get "given" author).bind asStr with
  | some family, some given => family ++ ", " ++ given
  | some family, none => family
  | none, _ => ((get "literal" author).bind asStr).getD ""

def authorFields (item : Json) : List RisField :=
  ((((get "author" item).bind asArray).getD []).map authorName).filterMap fun name =>
    if name = "" then none else some ⟨"AU", risSanitize name⟩

def yearField (item : Json) : List RisField :=
  ((((((((get "issued" item).bind (get "date-parts")).bind asArray).bind List.head?).bind
    asArray).bind List.head?).bind asI64).map fun year => ⟨"PY", (toString year).toList⟩).toList

def risFields (item : Json) : List RisField :=
  stringField "TI" "title" item ++ authorFields item ++ yearField item ++
    stringField "JO" "container-title" item ++ stringField "DO" "DOI" item ++
    stringField "UR" "URL" item

structure RisRecord where
  type : List Char
  fields : List RisField
  deriving DecidableEq

def risRecord (item : Json) : RisRecord :=
  ⟨(risType (((get "type" item).bind asStr).getD "article-journal")).toList, risFields item⟩

def tagged (field : RisField) : List Char := field.tag.toList ++ ("  - ".toList ++ field.value)

def RisRecord.lines (record : RisRecord) : List (List Char) :=
  tagged ⟨"TY", record.type⟩ :: (record.fields.map tagged ++ ["ER  - ".toList, []])

def toRis (items : List Json) : List Char :=
  items.flatMap fun item => (risRecord item).lines.flatMap (· ++ ['\n'])

/-! ### A reader -/

def readRecords : Option RisRecord → List (List Char) → Option (List RisRecord)
  | none, [] => some []
  | some _, [] => none
  | none, line :: rest =>
    if line = [] then readRecords none rest
    else if line.take 2 = "TY".toList then readRecords (some ⟨line.drop 6, []⟩) rest
    else none
  | some record, line :: rest =>
    if line.take 2 = "ER".toList then (readRecords none rest).map (record :: ·)
    else if line.take 2 = "TY".toList then none
    else readRecords (some { record with
      fields := record.fields ++ [⟨String.ofList (line.take 2), line.drop 6⟩] }) rest

/-! ### The lines -/

/-- A line without a break in it. -/
def Unbroken (line : List Char) : Prop := ∀ c ∈ line, c ≠ '\n' ∧ c ≠ '\r'

theorem lineTexts_flatMap {lines : List (List Char)} (unbroken : ∀ line ∈ lines, Unbroken line) :
    lineTexts (lines.flatMap (· ++ ['\n'])) = lines := by
  induction lines with
  | nil => rfl
  | cons line lines ih =>
    obtain ⟨first, rest⟩ := List.forall_mem_cons.mp unbroken
    have missing : '\n' ∉ line := fun member => (first _ member).1 rfl
    have plain : line.getLast? ≠ some '\r' := fun ends =>
      (first _ (List.mem_of_getLast? ends)).2 rfl
    rw [List.flatMap_cons, List.append_assoc, List.singleton_append, lineTexts,
      Rewriting.linesOf_ended missing, List.map_cons, Sandbox.stripEnd_ended, if_neg plain]
    exact congrArg (line :: ·) (ih rest)

theorem risSanitize_unbroken (s : String) : Unbroken (risSanitize s) := by
  intro c member
  obtain ⟨d, -, rfl⟩ := List.mem_map.mp member
  split
  · decide
  · rename_i other
    exact ⟨fun same => other (.inr same), fun same => other (.inl same)⟩

theorem digits_unbroken (n : Nat) : Unbroken (toString n).toList := by
  intro c member
  rw [Nat.toString_eq_ofList_toDigits, String.toList_ofList] at member
  have digit := Nat.isDigit_of_mem_toDigits (by decide) (by decide) member
  refine ⟨?_, ?_⟩ <;> rintro rfl <;> revert digit <;> decide

theorem year_unbroken (year : Int) : Unbroken (toString year).toList := by
  cases year with
  | ofNat n => exact digits_unbroken n
  | negSucc n =>
    intro c member
    rcases List.mem_append.mp (String.toList_append .. ▸ member) with sign | digit
    · cases List.mem_singleton.mp sign
      decide
    · exact digits_unbroken (n + 1) c digit

/-- **What a field of a record is like.** -/
def Tidy (field : RisField) : Prop :=
  field.tag.toList.length = 2 ∧ field.tag ≠ "TY" ∧ field.tag ≠ "ER" ∧ Unbroken (tagged field)

theorem tagged_unbroken {tag : String} {value : List Char}
    (known : tag ∈ ["TY", "TI", "AU", "PY", "JO", "DO", "UR"]) (unbroken : Unbroken value) :
    Unbroken (tagged ⟨tag, value⟩) := by
  have plain : ∀ tag ∈ ["TY", "TI", "AU", "PY", "JO", "DO", "UR"],
      ∀ c ∈ tag.toList ++ "  - ".toList, c ≠ '\n' ∧ c ≠ '\r' := by
    simp [or_imp, forall_and]
  rw [tagged, ← List.append_assoc]
  exact List.forall_mem_append.mpr ⟨plain tag known, unbroken⟩

theorem tidy_of {tag : String} {value : List Char}
    (known : tag ∈ ["TI", "AU", "PY", "JO", "DO", "UR"]) (unbroken : Unbroken value) :
    Tidy ⟨tag, value⟩ := by
  have plain : ∀ tag ∈ ["TI", "AU", "PY", "JO", "DO", "UR"],
      tag.toList.length = 2 ∧ tag ≠ "TY" ∧ tag ≠ "ER" := by
    decide +kernel
  obtain ⟨length, notType, notEnd⟩ := plain tag known
  exact ⟨length, notType, notEnd, tagged_unbroken (List.mem_cons_of_mem _ known) unbroken⟩

theorem stringField_tidy {tag : String} (known : tag ∈ ["TI", "AU", "PY", "JO", "DO", "UR"])
    (key : String) (item : Json) : ∀ field ∈ stringField tag key item, Tidy field := by
  intro field member
  obtain ⟨value, -, rfl⟩ := Option.map_eq_some_iff.mp (Option.mem_toList.mp member)
  exact tidy_of known (risSanitize_unbroken value)

theorem risFields_tidy (item : Json) : ∀ field ∈ risFields item, Tidy field := by
  have authors : ∀ field ∈ authorFields item, Tidy field := by
    intro field member
    obtain ⟨name, -, made⟩ := List.mem_filterMap.mp member
    split at made
    · cases made
    · exact Option.some.inj made ▸ tidy_of (by decide) (risSanitize_unbroken name)
  have year : ∀ field ∈ yearField item, Tidy field := by
    intro field member
    obtain ⟨year, -, rfl⟩ := Option.map_eq_some_iff.mp (Option.mem_toList.mp member)
    exact tidy_of (by decide) (year_unbroken year)
  simp only [risFields, List.forall_mem_append]
  exact ⟨⟨⟨⟨⟨stringField_tidy (by decide) _ _, authors⟩, year⟩, stringField_tidy (by decide) _ _⟩,
    stringField_tidy (by decide) _ _⟩, stringField_tidy (by decide) _ _⟩

theorem lines_unbroken (item : Json) : ∀ line ∈ (risRecord item).lines, Unbroken line := by
  have type : ∀ cslType, ∀ c ∈ (risType cslType).toList, c ≠ '\n' ∧ c ≠ '\r' := by
    intro cslType
    unfold risType
    split <;> simp
  have ends : ∀ line ∈ ["ER  - ".toList, []], ∀ c ∈ line, c ≠ '\n' ∧ c ≠ '\r' := by
    simp
  refine List.forall_mem_cons.mpr ⟨tagged_unbroken List.mem_cons_self (type _),
    List.forall_mem_append.mpr ⟨?_, ends⟩⟩
  exact List.forall_mem_map.mpr fun field member => (risFields_tidy item field member).2.2.2

/-! ### Reading -/

theorem tagged_take {field : RisField} (length : field.tag.toList.length = 2) :
    tagged field ≠ [] ∧ (tagged field).take 2 = field.tag.toList ∧
      (tagged field).drop 6 = field.value := by
  obtain ⟨first, second, same⟩ := List.length_eq_two.mp length
  rw [tagged, same]
  exact ⟨List.cons_ne_nil _ _, rfl, rfl⟩

theorem readRecords_fields {fields : List RisField} (tidy : ∀ field ∈ fields, Tidy field)
    (record : RisRecord) (rest : List (List Char)) :
    readRecords (some record) (fields.map tagged ++ "ER  - ".toList :: rest) =
      (readRecords none rest).map (⟨record.type, record.fields ++ fields⟩ :: ·) := by
  induction fields generalizing record with
  | nil =>
    rw [List.append_nil]
    rfl
  | cons field fields ih =>
    obtain ⟨first, others⟩ := List.forall_mem_cons.mp tidy
    obtain ⟨-, tag, value⟩ := tagged_take first.1
    have notEnd : field.tag.toList ≠ "ER".toList := fun same =>
      first.2.2.1 (String.toList_injective same)
    have notType : field.tag.toList ≠ "TY".toList := fun same =>
      first.2.1 (String.toList_injective same)
    rw [List.map_cons, List.cons_append, readRecords, tag, value, if_neg notEnd, if_neg notType,
      String.ofList_toList, ih others, List.append_assoc]
    rfl

/-- **The reader finds the records of the items.** -/
theorem toRis_read (items : List Json) :
    readRecords none (lineTexts (toRis items)) = some (items.map risRecord) := by
  have lines : toRis items =
      (items.flatMap fun item => (risRecord item).lines).flatMap (· ++ ['\n']) := by
    rw [List.flatMap_assoc]
    rfl
  rw [lines, lineTexts_flatMap fun line member => ?_]
  · clear lines
    induction items with
    | nil => rfl
    | cons item items ih =>
      have one : ∀ rest, readRecords none ((risRecord item).lines ++ rest) =
          (readRecords none rest).map (risRecord item :: ·) := fun rest => by
        have fields := readRecords_fields (risFields_tidy item)
          ⟨(risRecord item).type, []⟩ ([] :: rest)
        have two : "TY".toList.length = 2 := by decide +kernel
        obtain ⟨begun, tag, value⟩ := @tagged_take ⟨"TY", (risRecord item).type⟩ two
        rw [RisRecord.lines, List.cons_append, List.append_assoc, readRecords, if_neg begun, tag,
          if_pos rfl, value]
        exact fields
      rw [List.flatMap_cons, one, ih]
      rfl
  · obtain ⟨item, -, inside⟩ := List.mem_flatMap.mp member
    exact lines_unbroken item line inside

end Ziee.Citations
