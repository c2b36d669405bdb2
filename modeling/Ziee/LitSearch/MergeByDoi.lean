/-
**Literature records merged by DOI, or by title and year.**

Records from several sources are grouped by their normalised DOI, or without one by what is left of
the title when only letters and digits are kept, with the year; a group becomes one record.

* `groupKey_mergeInto` — **merging a record into another of its group keeps the key.**
* `Gathers` — what a record has of its group: every source id, every author up to ASCII case, and
  each optional field that one of them has.
* **`mergeByDoi_gathers`** — **one record for each key, in the order of the keys, with what its
  group has**, and merging the result again changes nothing. An empty abstract is not taken over.
-/

import Mathlib.Data.List.DropRight
import Ziee.Library.KeyedMerge
import Ziee.Library.LetterCase
import Ziee.Providers.Text

namespace Ziee.LitSearch

open Library Library.KeyedMerge
open Providers (isWhitespace trim trimStart)

structure LitRecord where
  doi : Option String
  pmid : Option String
  title : String
  abstractText : Option String
  authors : List String
  year : Option Int
  venue : Option String
  url : Option String
  source : String
  sourceIds : List String
  citedByCount : Option Int
  isPreprint : Bool
  /-- The bits of the number. -/
  relevance : UInt32
deriving DecidableEq

/-- `str::strip_prefix`. -/
def stripPrefix (lead text : List Char) : Option (List Char) :=
  if lead.isPrefixOf text then some (text.drop lead.length) else none

def stripOne (leads : List String) (text : List Char) : List Char :=
  (leads.findSome? fun lead => stripPrefix lead.toList text).getD text

def doiLeads : List String := ["https://doi.org/", "http://doi.org/", "doi.org/", "doi:"]

section Keys

variable (table : LetterCase)

def normalizeDoi (raw : String) : Option String :=
  let text := trim (stripOne doiLeads (table.lower (trim raw.toList)))
  if text.isEmpty || !"10.".toList.isPrefixOf text then none else some (String.ofList text)

/-- Letters and digits in lower case, with one space for each run of anything else. -/
def fingerprint : Bool → List Char → List Char
  | _, [] => []
  | prevSpace, c :: rest =>
    if table.alphanumeric c then table.lowerChar c ++ fingerprint false rest
    else if !prevSpace then ' ' :: fingerprint true rest
    else fingerprint true rest

def yearText (year : Option Int) : String := (year.map toString).getD ""

def titleYearKey (record : LitRecord) : String :=
  String.ofList (trim (fingerprint table false record.title.toList)) ++ "|" ++ yearText record.year

def groupKey (record : LitRecord) : String :=
  match record.doi.bind (normalizeDoi table) with
  | some doi => "doi:" ++ doi
  | none => "ty:" ++ titleYearKey table record

end Keys

/-! ### Merging -/

def eqIgnoreAsciiCase (first second : String) : Bool :=
  first.toList.map Char.toLower == second.toList.map Char.toLower

def addAuthors (kept names : List String) : List String :=
  names.foldl (fun kept name =>
    if kept.any fun other => eqIgnoreAsciiCase other name then kept else kept ++ [name]) kept

def addSourceIds (kept ids : List String) : List String :=
  ids.foldl (fun kept id => if id ∈ kept then kept else kept ++ [id]) kept

def textLen (text : Option String) : Nat := (text.map String.utf8ByteSize).getD 0

def mergeCounts : Option Int → Option Int → Option Int
  | some first, some second => some (max first second)
  | first, second => first.or second

def mergeInto (a b : LitRecord) : LitRecord where
  doi := a.doi.or b.doi
  pmid := a.pmid.or b.pmid
  title := if b.title.utf8ByteSize > a.title.utf8ByteSize then b.title else a.title
  abstractText :=
    if textLen b.abstractText > textLen a.abstractText then b.abstractText else a.abstractText
  authors :=
    if b.authors.length > a.authors.length then addAuthors b.authors a.authors
    else addAuthors a.authors b.authors
  year := a.year.or b.year
  venue := a.venue.or b.venue
  url := a.url.or b.url
  source := a.source
  sourceIds := addSourceIds a.sourceIds b.sourceIds
  citedByCount := mergeCounts a.citedByCount b.citedByCount
  isPreprint := a.isPreprint && b.isPreprint
  relevance := a.relevance

section Merge

variable (table : LetterCase)

/-- The DOI is written in its normal form. -/
def canonicalize (record : LitRecord) : LitRecord :=
  match record.doi.bind (normalizeDoi table) with
  | some doi => { record with doi := some doi }
  | none => record

def mergeByDoi (records : List LitRecord) : List LitRecord :=
  mergeItems (groupKey table) mergeInto (records.map (canonicalize table))

end Merge

variable {table : LetterCase} {a b record : LitRecord}

/-! ### DOIs -/

theorem trim_trim (text : List Char) : trim (trim text) = trim text := by
  have parts : ∀ row, trim row = (trimStart row).rdropWhile isWhitespace := fun _ => rfl
  have starts : trimStart (trim text) = trim text := by
    refine List.dropWhile_eq_self_iff.mpr fun long => ?_
    have front : trim text <+: trimStart text := List.rdropWhile_prefix _ _
    rw [front.getElem long]
    exact List.dropWhile_get_zero_not _ _ _
  rw [parts (trim text), starts, parts text, List.rdropWhile_idempotent]

theorem mem_of_mem_trim {text : List Char} {c : Char} (member : c ∈ trim text) : c ∈ text :=
  (List.dropWhile_suffix _).mem ((List.rdropWhile_prefix _ (trimStart text)).mem member)

theorem mem_of_mem_stripOne {leads : List String} {text : List Char} {c : Char}
    (member : c ∈ stripOne leads text) : c ∈ text := by
  unfold stripOne at member
  cases found : leads.findSome? fun lead => stripPrefix lead.toList text with
  | none => rwa [found] at member
  | some rest =>
    obtain ⟨lead, -, stripped⟩ := List.exists_of_findSome?_eq_some found
    rw [found, Option.getD_some] at member
    unfold stripPrefix at stripped
    split at stripped
    · cases stripped
      exact List.mem_of_mem_drop member
    · cases stripped

theorem stripOne_of_doi {text : List Char} (lead : "10.".toList.isPrefixOf text = true) :
    stripOne doiLeads text = text := by
  obtain ⟨rest, rfl⟩ := List.isPrefixOf_iff_prefix.mp lead
  rfl

/-- **A normalised DOI is left as it is.** -/
theorem normalizeDoi_normalizeDoi {raw doi : String} (made : normalizeDoi table raw = some doi) :
    normalizeDoi table doi = some doi := by
  unfold normalizeDoi at made
  set text := trim (stripOne doiLeads (table.lower (trim raw.toList))) with meaning
  dsimp only at made
  split at made
  · cases made
  · rename_i accepted
    cases made
    have lead : "10.".toList.isPrefixOf text = true := by
      simp only [Bool.or_eq_true, not_or, Bool.not_eq_true, Bool.not_eq_false'] at accepted
      exact accepted.2
    have lower : table.lower text = text :=
      table.settled (trim raw.toList) text fun c member =>
        mem_of_mem_stripOne (mem_of_mem_trim (meaning ▸ member))
    have trimmed : trim text = text := by rw [meaning, trim_trim]
    unfold normalizeDoi
    rw [String.toList_ofList, trimmed, lower, stripOne_of_doi lead, trimmed]
    exact if_neg accepted

theorem groupKey_canonicalize (record : LitRecord) :
    groupKey table (canonicalize table record) = groupKey table record := by
  unfold canonicalize groupKey
  cases found : record.doi.bind (normalizeDoi table) with
  | none =>
    dsimp only
    rw [found]
  | some doi =>
    obtain ⟨raw, -, made⟩ := Option.bind_eq_some_iff.mp found
    dsimp only
    rw [Option.bind_some, normalizeDoi_normalizeDoi made]

/-! ### Keys of merged records -/

theorem bar_not_mem_fingerprint (prevSpace : Bool) (title : List Char) :
    '|' ∉ fingerprint table prevSpace title := by
  induction title generalizing prevSpace with
  | nil => exact List.not_mem_nil
  | cons c rest ih =>
    unfold fingerprint
    split
    · rename_i letter
      rw [List.mem_append, not_or]
      exact ⟨table.no_bar c letter, ih false⟩
    · split
      · rw [List.mem_cons, not_or]
        exact ⟨by decide, ih true⟩
      · exact ih true

theorem append_bar_inj {front front' back back' : List Char} (clean : '|' ∉ front)
    (clean' : '|' ∉ front') (same : front ++ '|' :: back = front' ++ '|' :: back') :
    front = front' ∧ back = back' := by
  induction front generalizing front' with
  | nil =>
    cases front' with
    | nil => exact ⟨rfl, (List.cons.inj same).2⟩
    | cons c rest => exact absurd (by rw [(List.cons.inj same).1]; exact List.mem_cons_self) clean'
  | cons c rest ih =>
    cases front' with
    | nil => exact absurd (by rw [(List.cons.inj same).1]; exact List.mem_cons_self) clean
    | cons c' rest' =>
      obtain ⟨rfl, rests⟩ := List.cons.inj same
      rw [List.mem_cons, not_or] at clean clean'
      obtain ⟨rfl, backs⟩ := ih clean.2 clean'.2 rests
      exact ⟨rfl, backs⟩

theorem titleYearKey_inj (same : titleYearKey table a = titleYearKey table b) :
    trim (fingerprint table false a.title.toList) = trim (fingerprint table false b.title.toList) ∧
      yearText a.year = yearText b.year := by
  have rows := congrArg String.toList same
  simp only [titleYearKey, String.toList_append, String.toList_ofList, List.append_assoc] at rows
  have clean : ∀ record : LitRecord, '|' ∉ trim (fingerprint table false record.title.toList) :=
    fun record bar => bar_not_mem_fingerprint false _ (mem_of_mem_trim bar)
  obtain ⟨titles, years⟩ := append_bar_inj (clean a) (clean b) rows
  exact ⟨titles, String.toList_inj.mp years⟩

theorem yearText_or {first second : Option Int} (same : yearText first = yearText second) :
    yearText (first.or second) = yearText first := by
  cases first with
  | none => exact same.symm
  | some year => rfl

theorem titleYearKey_mergeInto (same : titleYearKey table a = titleYearKey table b) :
    titleYearKey table (mergeInto a b) = titleYearKey table a := by
  obtain ⟨titles, years⟩ := titleYearKey_inj same
  have title : trim (fingerprint table false (mergeInto a b).title.toList) =
      trim (fingerprint table false a.title.toList) := by
    unfold mergeInto
    dsimp only
    split
    · exact titles.symm
    · rfl
  have year : yearText (mergeInto a b).year = yearText a.year := yearText_or years
  rw [titleYearKey, titleYearKey, title, year]

theorem doi_key_ne_title_key (doi key : String) : "doi:" ++ doi ≠ "ty:" ++ key := by
  intro same
  have rows := congrArg String.toList same
  rw [String.toList_append, String.toList_append] at rows
  exact absurd (List.cons.inj rows).1 (by decide)

/-- **Merging a record into another of its group keeps the key.** -/
theorem groupKey_mergeInto (a b : LitRecord) (same : groupKey table a = groupKey table b) :
    groupKey table (mergeInto a b) = groupKey table a := by
  have taken : (mergeInto a b).doi = a.doi.or b.doi := rfl
  cases first : a.doi.bind (normalizeDoi table) with
  | some doi =>
    have kept : (a.doi.or b.doi).bind (normalizeDoi table) = some doi := by
      cases here : a.doi with
      | none => rw [here] at first; cases first
      | some raw => rwa [here] at first
    rw [groupKey, groupKey, taken, kept, first]
  | none =>
    cases second : b.doi.bind (normalizeDoi table) with
    | some doi =>
      rw [groupKey, groupKey, first, second] at same
      exact absurd same.symm (doi_key_ne_title_key doi _)
    | none =>
      have neither : (a.doi.or b.doi).bind (normalizeDoi table) = none := by
        cases here : a.doi with
        | none => exact second
        | some raw => rwa [here] at first
      have titles : titleYearKey table a = titleYearKey table b := by
        rw [groupKey, groupKey, first, second] at same
        have rows := congrArg String.toList same
        rw [String.toList_append, String.toList_append] at rows
        exact String.toList_inj.mp (List.append_cancel_left rows)
      rw [groupKey, groupKey, taken, neither, first, titleYearKey_mergeInto titles]

/-! ### What a merged record has -/

def HasAuthor (name : String) (record : LitRecord) : Prop :=
  ∃ author ∈ record.authors, eqIgnoreAsciiCase author name = true

def HasAbstract (record : LitRecord) : Prop := 0 < textLen record.abstractText

theorem eqIgnoreAsciiCase_iff {first second : String} : eqIgnoreAsciiCase first second = true ↔
    first.toList.map Char.toLower = second.toList.map Char.toLower := beq_iff_eq

theorem mem_addSourceIds {kept ids : List String} {id : String} :
    id ∈ addSourceIds kept ids ↔ id ∈ kept ∨ id ∈ ids := by
  induction ids generalizing kept with
  | nil => simp [addSourceIds]
  | cons head rest ih =>
    have step : addSourceIds kept (head :: rest) =
        addSourceIds (if head ∈ kept then kept else kept ++ [head]) rest := rfl
    rw [step, ih, List.mem_cons]
    split
    · rename_i seen
      constructor
      · rintro (there | later)
        · exact Or.inl there
        · exact Or.inr (Or.inr later)
      · rintro (there | rfl | later)
        · exact Or.inl there
        · exact Or.inl seen
        · exact Or.inr later
    · rw [List.mem_append, List.mem_singleton, or_assoc]

theorem exists_addAuthors {kept names : List String} {name : String} :
    (∃ author ∈ addAuthors kept names, eqIgnoreAsciiCase author name = true) ↔
      (∃ author ∈ kept, eqIgnoreAsciiCase author name = true) ∨
        ∃ author ∈ names, eqIgnoreAsciiCase author name = true := by
  induction names generalizing kept with
  | nil => simp [addAuthors]
  | cons head rest ih =>
    have step : addAuthors kept (head :: rest) = addAuthors (if kept.any fun other =>
        eqIgnoreAsciiCase other head then kept else kept ++ [head]) rest := rfl
    rw [step, ih, List.exists_mem_cons_iff]
    split
    · rename_i known
      obtain ⟨other, there, equal⟩ := List.any_eq_true.mp known
      have covered : eqIgnoreAsciiCase head name = true →
          ∃ author ∈ kept, eqIgnoreAsciiCase author name = true := by
        intro named
        refine ⟨other, there, ?_⟩
        rw [eqIgnoreAsciiCase_iff] at equal named ⊢
        exact equal.trans named
      constructor
      · rintro (early | later)
        · exact Or.inl early
        · exact Or.inr (Or.inr later)
      · rintro (early | named | later)
        · exact Or.inl early
        · exact Or.inl (covered named)
        · exact Or.inr later
    · have more : (∃ author ∈ kept ++ [head], eqIgnoreAsciiCase author name = true) ↔
          (∃ author ∈ kept, eqIgnoreAsciiCase author name = true) ∨
            eqIgnoreAsciiCase head name = true := by
        simp [or_and_right, exists_or]
      rw [more, or_assoc]

theorem hasAuthor_mergeInto (name : String) (a b : LitRecord) :
    HasAuthor name (mergeInto a b) ↔ HasAuthor name a ∨ HasAuthor name b := by
  unfold HasAuthor mergeInto
  dsimp only
  split
  · rw [exists_addAuthors, or_comm]
  · exact exists_addAuthors

theorem hasAbstract_mergeInto (a b : LitRecord) :
    HasAbstract (mergeInto a b) ↔ HasAbstract a ∨ HasAbstract b := by
  unfold HasAbstract mergeInto
  dsimp only
  split <;> omega

theorem isSome_mergeCounts (first second : Option Int) :
    (mergeCounts first second).isSome ↔ first.isSome ∨ second.isSome := by
  cases first <;> cases second <;> simp [mergeCounts]

structure Gathers (members : List LitRecord) (record : LitRecord) : Prop where
  sourceIds : ∀ id, id ∈ record.sourceIds ↔ ∃ member ∈ members, id ∈ member.sourceIds
  authors : ∀ name, HasAuthor name record ↔ ∃ member ∈ members, HasAuthor name member
  doi : record.doi = none → ∀ member ∈ members, member.doi = none
  pmid : record.pmid = none → ∀ member ∈ members, member.pmid = none
  year : record.year = none → ∀ member ∈ members, member.year = none
  venue : record.venue = none → ∀ member ∈ members, member.venue = none
  url : record.url = none → ∀ member ∈ members, member.url = none
  citedByCount : record.citedByCount = none → ∀ member ∈ members, member.citedByCount = none
  abstractText : record.abstractText = none → ∀ member ∈ members,
    member.abstractText = none ∨ member.abstractText = some ""

/-! ### The whole list -/

theorem map_groupKey_canonicalize (records : List LitRecord) :
    (records.map (canonicalize table)).map (groupKey table) = records.map (groupKey table) := by
  rw [List.map_map]
  exact List.map_congr_left fun record _ => groupKey_canonicalize record

theorem canonicalize_eq (table : LetterCase) (record : LitRecord) :
    ∃ doi, (doi = none ↔ record.doi = none) ∧
      canonicalize table record = { record with doi := doi } := by
  unfold canonicalize
  cases found : record.doi.bind (normalizeDoi table) with
  | none => exact ⟨record.doi, Iff.rfl, rfl⟩
  | some doi =>
    refine ⟨some doi, ⟨nofun, fun absent => ?_⟩, rfl⟩
    rw [absent] at found
    cases found

section Gathering

variable {records : List LitRecord}

theorem view_mergeByDoi (view : LitRecord → Prop)
    (joins : ∀ a b, view (mergeInto a b) ↔ view a ∨ view b)
    (plain : ∀ record, view (canonicalize table record) ↔ view record)
    (out : record ∈ mergeByDoi table records) :
    view record ↔ ∃ member ∈ group (groupKey table) records (groupKey table record),
      view member := by
  obtain ⟨key, -, made⟩ := exists_group out
  have same : groupKey table record = key := key_merged groupKey_mergeInto made
  rw [merged_exists joins made, same]
  constructor
  · rintro ⟨member, there, holds⟩
    obtain ⟨inside, keyed⟩ := List.mem_filter.mp there
    obtain ⟨original, present, rfl⟩ := List.mem_map.mp inside
    rw [groupKey_canonicalize] at keyed
    exact ⟨original, List.mem_filter.mpr ⟨present, keyed⟩, (plain original).mp holds⟩
  · rintro ⟨member, there, holds⟩
    obtain ⟨present, keyed⟩ := List.mem_filter.mp there
    rw [← groupKey_canonicalize] at keyed
    exact ⟨canonicalize table member, List.mem_filter.mpr ⟨List.mem_map_of_mem present, keyed⟩,
      (plain member).mpr holds⟩

theorem field_mergeByDoi {α : Type} (field : LitRecord → Option α)
    (joins : ∀ a b, (field (mergeInto a b)).isSome ↔ (field a).isSome ∨ (field b).isSome)
    (plain : ∀ record, (field (canonicalize table record)).isSome ↔ (field record).isSome)
    (out : record ∈ mergeByDoi table records) (absent : field record = none) :
    ∀ member ∈ group (groupKey table) records (groupKey table record), field member = none := by
  intro member there
  by_contra present
  have has : (field record).isSome := (view_mergeByDoi (fun record => (field record).isSome) joins
    plain out).mpr ⟨member, there, Option.isSome_iff_ne_none.mpr present⟩
  rw [absent] at has
  cases has

theorem isSome_or {α : Type} (first second : Option α) :
    (first.or second).isSome ↔ first.isSome ∨ second.isSome := by
  cases first <;> simp

theorem gathers_mergeByDoi (out : record ∈ mergeByDoi table records) :
    Gathers (group (groupKey table) records (groupKey table record)) record where
  sourceIds id := by
    refine view_mergeByDoi (fun record => id ∈ record.sourceIds) (fun a b => mem_addSourceIds)
      (fun record => ?_) out
    obtain ⟨doi, -, same⟩ := canonicalize_eq table record
    rw [same]
  authors name := by
    refine view_mergeByDoi (HasAuthor name) (hasAuthor_mergeInto name) (fun record => ?_) out
    obtain ⟨doi, -, same⟩ := canonicalize_eq table record
    rw [same]
    rfl
  doi := by
    refine field_mergeByDoi LitRecord.doi (fun a b => isSome_or a.doi b.doi) (fun record => ?_) out
    obtain ⟨doi, absent, same⟩ := canonicalize_eq table record
    rw [same, Option.isSome_iff_ne_none, Option.isSome_iff_ne_none, Ne, absent]
  pmid := by
    refine field_mergeByDoi LitRecord.pmid (fun a b => isSome_or a.pmid b.pmid)
      (fun record => ?_) out
    obtain ⟨doi, -, same⟩ := canonicalize_eq table record
    rw [same]
  year := by
    refine field_mergeByDoi LitRecord.year (fun a b => isSome_or a.year b.year)
      (fun record => ?_) out
    obtain ⟨doi, -, same⟩ := canonicalize_eq table record
    rw [same]
  venue := by
    refine field_mergeByDoi LitRecord.venue (fun a b => isSome_or a.venue b.venue)
      (fun record => ?_) out
    obtain ⟨doi, -, same⟩ := canonicalize_eq table record
    rw [same]
  url := by
    refine field_mergeByDoi LitRecord.url (fun a b => isSome_or a.url b.url) (fun record => ?_) out
    obtain ⟨doi, -, same⟩ := canonicalize_eq table record
    rw [same]
  citedByCount := by
    refine field_mergeByDoi LitRecord.citedByCount
      (fun a b => isSome_mergeCounts a.citedByCount b.citedByCount) (fun record => ?_) out
    obtain ⟨doi, -, same⟩ := canonicalize_eq table record
    rw [same]
  abstractText absent := by
    intro member there
    by_contra present
    have long : HasAbstract member := by
      unfold HasAbstract
      cases text : member.abstractText with
      | none => exact absurd (Or.inl text) present
      | some written =>
        refine Nat.pos_of_ne_zero fun short => present (Or.inr ?_)
        rw [text, String.utf8ByteSize_eq_zero_iff.mp short]
    have plain : ∀ record, HasAbstract (canonicalize table record) ↔ HasAbstract record := by
      intro record
      obtain ⟨doi, -, same⟩ := canonicalize_eq table record
      rw [same]
      rfl
    have has : HasAbstract record :=
      (view_mergeByDoi HasAbstract hasAbstract_mergeInto plain out).mpr ⟨member, there, long⟩
    rw [HasAbstract, absent] at has
    cases has

/-! ### Merging again -/

theorem canonicalize_eq_self_iff : canonicalize table record = record ↔
    ∀ doi, record.doi.bind (normalizeDoi table) = some doi → record.doi = some doi := by
  unfold canonicalize
  cases found : record.doi.bind (normalizeDoi table) with
  | none => exact ⟨fun _ => nofun, fun _ => rfl⟩
  | some doi =>
    constructor
    · intro same other made
      cases made
      exact (congrArg LitRecord.doi same).symm
    · intro stays
      have kept := stays doi rfl
      cases record
      cases kept
      rfl

theorem canonicalize_mergeInto (first : canonicalize table a = a)
    (second : canonicalize table b = b) : canonicalize table (mergeInto a b) = mergeInto a b := by
  rw [canonicalize_eq_self_iff] at first second ⊢
  have taken : (mergeInto a b).doi = a.doi.or b.doi := rfl
  rw [taken]
  cases here : a.doi with
  | none => exact second
  | some raw => rwa [here] at first

theorem canonicalize_canonicalize (record : LitRecord) :
    canonicalize table (canonicalize table record) = canonicalize table record := by
  rw [canonicalize_eq_self_iff]
  unfold canonicalize
  cases found : record.doi.bind (normalizeDoi table) with
  | none =>
    intro doi made
    rw [found] at made
    cases made
  | some doi =>
    obtain ⟨raw, -, made⟩ := Option.bind_eq_some_iff.mp found
    intro other again
    rw [Option.bind_some, normalizeDoi_normalizeDoi made] at again
    exact again

theorem canonicalize_mergeByDoi (out : record ∈ mergeByDoi table records) :
    canonicalize table record = record := by
  obtain ⟨key, -, made⟩ := exists_group out
  have all : ∀ item ∈ group (groupKey table) (records.map (canonicalize table)) key,
      canonicalize table item = item := by
    intro item member
    obtain ⟨original, -, rfl⟩ := List.mem_map.mp (List.mem_filter.mp member).1
    exact canonicalize_canonicalize original
  generalize group (groupKey table) (records.map (canonicalize table)) key = row at all made
  refine merged_induction (motive := fun row out => (∀ item ∈ row, canonicalize table item = item) →
    canonicalize table out = out) ?_ ?_ made all
  · exact fun item same => same item (List.mem_singleton_self item)
  · intro items out item ih same
    obtain ⟨earlier, last⟩ := List.forall_mem_append.mp same
    exact canonicalize_mergeInto (ih earlier) (last item (List.mem_singleton_self item))

theorem mergeByDoi_mergeByDoi (table : LetterCase) (records : List LitRecord) :
    mergeByDoi table (mergeByDoi table records) = mergeByDoi table records := by
  have same : (mergeByDoi table records).map (canonicalize table) = mergeByDoi table records := by
    calc (mergeByDoi table records).map (canonicalize table) = (mergeByDoi table records).map id :=
          List.map_congr_left fun record out => canonicalize_mergeByDoi out
      _ = mergeByDoi table records := List.map_id _
  calc mergeByDoi table (mergeByDoi table records)
      = mergeItems (groupKey table) mergeInto (mergeByDoi table records) := by
        rw [mergeByDoi, same]
    _ = mergeByDoi table records := mergeItems_fixed groupKey_mergeInto _

end Gathering

/-- **One record for each key, in the order in which the keys came first, with what its group
has**; merging the result again changes nothing. -/
theorem mergeByDoi_gathers (table : LetterCase) (records : List LitRecord) :
    (mergeByDoi table records).map (groupKey table) = firstSeen (records.map (groupKey table)) ∧
      (∀ record ∈ mergeByDoi table records,
        Gathers (group (groupKey table) records (groupKey table record)) record) ∧
      mergeByDoi table (mergeByDoi table records) = mergeByDoi table records := by
  refine ⟨?_, fun record => gathers_mergeByDoi, mergeByDoi_mergeByDoi table records⟩
  rw [mergeByDoi, map_key_mergeItems groupKey_mergeInto, map_groupKey_canonicalize]

def sketch (source : String) (abstractText : Option String) : LitRecord where
  doi := none
  pmid := none
  title := "CRISPR base editing!"
  abstractText := abstractText
  authors := []
  year := some 2021
  venue := none
  url := none
  source := source
  sourceIds := [source ++ ":x"]
  citedByCount := none
  isPreprint := false
  relevance := 0

theorem empty_abstract_lost : ¬ ∀ record ∈ mergeByDoi .ascii
      [sketch "arxiv" none, sketch "europepmc" (some "")], record.abstractText = none →
    ∀ member ∈ group (groupKey .ascii) [sketch "arxiv" none, sketch "europepmc" (some "")]
      (groupKey .ascii record), member.abstractText = none := by
  decide

end Ziee.LitSearch
