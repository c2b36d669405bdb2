/-
**Adding to the bibliography** (`citations/handlers.rs`, `citations/dedup.rs`,
`citations/repository.rs`).

A resolved reference is looked up by its DOI, else its PMID, else a fingerprint, and is linked when
it is found. Otherwise it is inserted under a citation key that was free when the keys were read.
Unique indexes refuse what is there by then; after a refusal it is looked up again, and the add
gives up after four of them.

* `Addition.addOne` — the add, as a program over the statements of the repository.
* `answer`, `libraryAnswers` — the table with its unique indexes, each statement as a whole.
* `like_literal`, `base_literal` — the pattern for the keys in use finds all with the base in front.
-/

import Ziee.Citations.RisRecords
import Ziee.Library.LetterCase
import Ziee.Library.Threads

namespace Ziee.Citations

open PortProgram Threads
open Ziee.Agent (Uuid)
open Ziee.Control (asStr get)
open Ziee.Library (toLower_of_not_upper val_toLower_of_upper)
open Ziee.Providers (Json trim)

def slugSurname (surname : List Char) : List Char :=
  let s := (surname.filter Char.isAlpha).map Char.toLower
  if s.isEmpty then "anon".toList else s

def citationKeyBase (surname : Option (List Char)) (year : Option Int) : List Char :=
  slugSurname (surname.getD "anon".toList) ++ (year.map fun y => (toString y).toList).getD []

def numbered (base : List Char) (n : Nat) : List Char := base ++ '-' :: Nat.toDigits 10 n

/-- The loop over the numbers; it ends before the fuel does. -/
def firstNumbered (existing : List (List Char)) (base : List Char) : Nat → Nat → List Char
  | 0, n => numbered base n
  | fuel + 1, n =>
    if numbered base n ∈ existing then firstNumbered existing base fuel (n + 1) else numbered base n

def genCitationKey (surname : Option (List Char)) (year : Option Int)
    (existing : List (List Char)) : List Char :=
  let base := citationKeyBase surname year
  if base ∉ existing then base
  else match ("abcdefghijklmnopqrstuvwxyz".toList.map (base ++ [·])).find? (· ∉ existing) with
    | some candidate => candidate
    | none => firstNumbered existing base existing.length 1

/-- `LIKE`: `%` stands for any text, `_` for a character, and a backslash quotes the next one. -/
def like : List Char → List Char → Bool
  | [], text => text.isEmpty
  | '%' :: pattern, text => text.tails.any (like pattern)
  | '_' :: pattern, text => !text.isEmpty && like pattern text.tail
  | '\\' :: c :: pattern, text => text.head? == some c && like pattern text.tail
  | c :: pattern, text => text.head? == some c && like pattern text.tail

/-! ### Records -/

/-- `lower` of the database, the fingerprint of a title, a surname and a year, and whether two
titles match: what depends on tables of letters. -/
structure TextRules where
  lower : String → String
  fingerprint : String → Option (List Char) → Option Int → List Char
  titleMatches : String → String → Bool

def cslTitle (csl : Json) : Option String := (get "title" csl).bind asStr

/-- `csl_year`, with the cast to 32 bits. -/
def cslYear (csl : Json) : Option Int :=
  ((((((((get "issued" csl).bind (get "date-parts")).bind asArray).bind List.head?).bind
    asArray).bind List.head?).bind asI64).map fun y => y.bmod (2 ^ 32))

def firstAuthorSurname (csl : Json) : Option (List Char) :=
  (((get "author" csl).bind asArray).bind List.head?).bind fun first =>
    match (get "family" first).bind asStr with
    | some family => some family.toList
    | none => ((get "literal" first).bind asStr).bind fun literal =>
      ((literal.toList.splitOnP fun c => c == ',' || c == ' ').map trim).find? (!·.isEmpty)

/-! ### Ports -/

inductive VerificationStatus
  | unverified
  | verified
  | mismatch
  | notFound
  deriving DecidableEq

inductive DedupOutcome
  | inserted
  | linkedExisting
  | possibleDuplicate
  | failed
  deriving DecidableEq

structure NewEntry where
  cslJson : Json
  doi : Option String
  pmid : Option String
  pmcid : Option String
  arxivId : Option String
  title : Option String
  year : Option Int
  dedupFingerprint : Option (List Char)
  citationKey : List Char
  verificationStatus : VerificationStatus
  source : String

/-- What an entry is looked up by: `find_by_doi`, `find_by_pmid`, `find_by_fingerprint`. -/
inductive DedupKey
  | doi (doi : String)
  | pmid (pmid : String)
  | fingerprint (fingerprint : List Char)

inductive LibraryQuery
  | find (userId : Uuid) (key : DedupKey)
  | idlessCandidates (userId : Uuid) (year : Option Int)
  | existingCitationKeys (userId : Uuid) (base : List Char)
  | insertEntry (userId : Uuid) (entry : NewEntry)
  | attachToProject (projectId entryId : Uuid)
  | setVerification (userId id : Uuid) (status : VerificationStatus)
  | deleteEntry (userId id : Uuid)

abbrev LibraryValue : LibraryQuery → Type
  | .find _ _ => Option Uuid
  | .idlessCandidates _ _ => List (Uuid × Option String)
  | .existingCitationKeys _ _ => List (List Char)
  | .insertEntry _ _ => Uuid
  | .attachToProject _ _ => Unit
  | .setVerification _ _ _ => Unit
  | .deleteEntry _ _ => Bool

/-- The part of an `AppError` that is read. -/
structure LibraryError where
  statusCode : Nat
  display : String

abbrev LibraryAnswer (query : LibraryQuery) : Type := Except LibraryError (LibraryValue query)

abbrev LibraryPort : Interface := ⟨LibraryQuery, LibraryAnswer⟩

/-- A task on the library; a failure is a result. -/
abbrev Librarian : Type → Type := Program LibraryPort Empty

/-! ### The add -/

structure Resolved where
  csl : Option Json
  status : VerificationStatus
  doi : Option String
  pmid : Option String
  pmcid : Option String
  arxivId : Option String
  mismatchFields : List String

structure CitationItemResult where
  input : String
  entryId : Option Uuid := none
  citationKey : Option (List Char) := none
  dedupOutcome : Option DedupOutcome
  verificationStatus : VerificationStatus
  possibleDuplicateOf : Option Uuid := none
  mismatchFields : Option (List String) := none
  reason : Option String := none

def failed (label reason : String) : CitationItemResult :=
  { input := label, dedupOutcome := some .failed, verificationStatus := .unverified,
    reason := some reason }

/-- An item that was resolved. -/
structure Addition where
  rules : TextRules
  userId : Uuid
  projectId : Option Uuid
  label : String
  source : String
  resolved : Resolved

namespace Addition

variable (item : Addition)

def csl : Json := item.resolved.csl.getD (.object [("type", .string "article-journal")])

def surname : Option (List Char) := firstAuthorSurname item.csl

def year : Option Int := cslYear item.csl

/-- Neither a DOI nor a PMID is known. -/
def isIdless : Bool := item.resolved.doi.isNone && item.resolved.pmid.isNone

def itemFingerprint : List Char :=
  item.rules.fingerprint ((cslTitle item.csl).getD "") item.surname item.year

def key : DedupKey :=
  match item.resolved.doi, item.resolved.pmid with
  | some doi, _ => .doi doi
  | none, some pmid => .pmid pmid
  | none, none => .fingerprint item.itemFingerprint

def entry (citationKey : List Char) : NewEntry where
  cslJson := item.csl
  doi := item.resolved.doi
  pmid := item.resolved.pmid
  pmcid := item.resolved.pmcid
  arxivId := item.resolved.arxivId
  title := cslTitle item.csl
  year := item.year
  dedupFingerprint := if item.isIdless then some item.itemFingerprint else none
  citationKey
  verificationStatus := item.resolved.status
  source := item.source

def mismatchFields : Option (List String) :=
  if item.resolved.mismatchFields.isEmpty then none else some item.resolved.mismatchFields

def linked (entryId : Uuid) : CitationItemResult :=
  { input := item.label, entryId := some entryId, dedupOutcome := some .linkedExisting,
    verificationStatus := item.resolved.status, mismatchFields := item.mismatchFields }

def inserted (entryId : Uuid) (citationKey : List Char) : CitationItemResult :=
  { input := item.label, entryId := some entryId, citationKey := some citationKey,
    dedupOutcome := some .inserted, verificationStatus := item.resolved.status,
    mismatchFields := item.mismatchFields }

def possibleDuplicate (entryId : Uuid) : CitationItemResult :=
  { input := item.label, dedupOutcome := some .possibleDuplicate,
    verificationStatus := item.resolved.status, possibleDuplicateOf := some entryId,
    reason := some "near-duplicate of an existing entry; review" }

def contended : CitationItemResult :=
  failed item.label "could not store citation (key contention)"

/-- The attachment to the project, if one is given. -/
def attach (entryId : Uuid) (failure : String) (done : CitationItemResult) :
    Librarian CitationItemResult :=
  match item.projectId with
  | none => .pure done
  | some projectId => .ask (.attachToProject projectId entryId) fun
    | .ok _ => .pure done
    | .error e => .pure (failed item.label (failure ++ e.display))

def link (entryId : Uuid) : Librarian CitationItemResult :=
  item.attach entryId
    "citation matched an existing entry but attaching it to the project failed: "
    (item.linked entryId)

/-- The loop over the attempts, of which so many are left. -/
def store : Nat → Librarian CitationItemResult
  | 0 => .pure (failed item.label "could not store citation")
  | left + 1 =>
    let base := citationKeyBase item.surname item.year
    .ask (.existingCitationKeys item.userId base) fun existing =>
      let citationKey := genCitationKey item.surname item.year (existing.toOption.getD [])
      .ask (.insertEntry item.userId (item.entry citationKey)) fun
        | .ok id => item.attach id "citation added but attaching it to the project failed: "
            (item.inserted id citationKey)
        | .error e =>
          if e.statusCode = 409 then .ask (.find item.userId item.key) fun
            | .ok (some id) => item.link id
            | _ => if left = 0 then .pure item.contended else store left
          else .pure (failed item.label "could not store citation")

def nearest (candidates : List (Uuid × Option String)) : Option Uuid :=
  (candidates.find? fun candidate => match cslTitle item.csl, candidate.2 with
    | some t, some ct => item.rules.titleMatches t ct
    | _, _ => false).map Prod.fst

def unresolved : CitationItemResult :=
  { input := item.label, dedupOutcome := some .failed, verificationStatus := .notFound,
    reason := some "identifier did not resolve to a real record" }

/-- `add_one`, once the item is resolved. -/
def addOne : Librarian CitationItemResult :=
  if item.resolved.status = .notFound then .pure item.unresolved
  else .ask (.find item.userId item.key) fun
    | .error e => .pure (failed item.label ("dedup lookup failed: " ++ e.display))
    | .ok (some id) => item.link id
    | .ok none =>
      if item.isIdless then
        .ask (.idlessCandidates item.userId item.year) fun candidates =>
          match item.nearest (candidates.toOption.getD []) with
          | some id => .pure (item.possibleDuplicate id)
          | none => item.store 4
      else item.store 4

end Addition

/-! ### The table -/

structure Row where
  id : Uuid
  userId : Uuid
  entry : NewEntry

variable (lower : String → String)

def Row.hasKey (userId : Uuid) (key : DedupKey) (row : Row) : Bool :=
  row.userId == userId && match key with
    | .doi doi => row.entry.doi.map lower == some (lower doi)
    | .pmid pmid => row.entry.pmid == some pmid
    | .fingerprint text => row.entry.doi.isNone && row.entry.pmid.isNone &&
        row.entry.dedupFingerprint == some text

/-- The row has an identifier of the entry, or is without one and has its fingerprint. -/
def Row.sameWork (userId : Uuid) (new : NewEntry) (row : Row) : Bool :=
  new.doi.any (fun doi => row.hasKey lower userId (.doi doi)) ||
    new.pmid.any (fun pmid => row.hasKey lower userId (.pmid pmid)) ||
    (new.doi.isNone && new.pmid.isNone &&
      new.dedupFingerprint.any fun text => row.hasKey lower userId (.fingerprint text))

/-- The unique indexes do not admit the entry beside the row. -/
def Row.clashes (userId : Uuid) (new : NewEntry) (row : Row) : Bool :=
  (row.userId == userId && row.entry.citationKey == new.citationKey) ||
    row.sameWork lower userId new

def Row.verified (userId id : Uuid) (status : VerificationStatus) (row : Row) : Row :=
  if row.userId = userId ∧ row.id = id then
    { row with entry := { row.entry with verificationStatus := status } }
  else row

def keysOf (userId : Uuid) (rows : List Row) : List (List Char) :=
  (rows.filter (·.userId == userId)).map (·.entry.citationKey)

/-- The entries of the year that have no identifier. -/
def idlessOf (userId : Uuid) (year : Option Int) (rows : List Row) : List (Uuid × Option String) :=
  (rows.filter fun row => row.userId == userId && row.entry.doi.isNone && row.entry.pmid.isNone &&
    row.entry.year == year).map fun row => (row.id, row.entry.title)

/-- The answer to a query that is carried out, and the rows after it; a new row gets the id. -/
def answer (rows : List Row) (id : Uuid) : (query : LibraryQuery) → LibraryAnswer query × List Row
  | .find userId key => (.ok ((rows.find? (·.hasKey lower userId key)).map Row.id), rows)
  | .idlessCandidates userId year => (.ok (idlessOf userId year rows), rows)
  | .existingCitationKeys userId base =>
    (.ok ((keysOf userId rows).filter (like (base ++ ['%']))), rows)
  | .insertEntry userId entry =>
    if rows.any (·.clashes lower userId entry) then (.error ⟨409, "bibliography entry"⟩, rows)
    else (.ok id, rows ++ [⟨id, userId, entry⟩])
  | .attachToProject _ _ => (.ok (), rows)
  | .setVerification userId id status => (.ok (), rows.map (·.verified userId id status))
  | .deleteEntry userId id =>
    (.ok (rows.any fun row => row.userId == userId && row.id == id),
      rows.filter fun row => !(row.userId == userId && row.id == id))

/-- A statement fails, but not as a refused one does, or is carried out with some id. -/
def libraryAnswers (rows : List Row) (event : Event LibraryPort) (rows' : List Row) : Prop :=
  (∃ error : LibraryError, error.statusCode ≠ 409 ∧ event.2 = .error error ∧ rows' = rows) ∨
    ∃ id, (event.2, rows') = answer lower rows id event.1

def libraryMachine : Machine LibraryPort Empty CitationItemResult (List Row) :=
  ⟨libraryAnswers lower, fun _ => []⟩

/-! ### The keys in use -/

/-- No character of the pattern stands for others. -/
def Literal (text : List Char) : Prop := ∀ c ∈ text, c ≠ '%' ∧ c ≠ '_' ∧ c ≠ '\\'

theorem like_literal {base : List Char} (literal : Literal base) (text : List Char) :
    like (base ++ ['%']) text = true ↔ base <+: text := by
  induction base generalizing text with
  | nil =>
    refine iff_of_true (List.any_eq_true.mpr ⟨[], ?_, rfl⟩) (List.nil_prefix)
    exact (List.mem_tails ..).mpr List.nil_suffix
  | cons c base ih =>
    obtain ⟨⟨percent, under, back⟩, rest⟩ := List.forall_mem_cons.mp literal
    rw [List.cons_append, like.eq_5 _ _ _ percent under (fun _ _ same _ => back same)]
    cases text with
    | nil => simp
    | cons d text =>
      rw [List.cons_prefix_cons, Bool.and_eq_true, ← ih rest, List.head?_cons, beq_iff_eq,
        Option.some.injEq, eq_comm]
      rfl

theorem toString_literal (year : Int) : Literal (toString year).toList := by
  have digits : ∀ n : Nat, Literal (toString n).toList := by
    intro n c member
    rw [Nat.toString_eq_ofList_toDigits, String.toList_ofList] at member
    have digit := Nat.isDigit_of_mem_toDigits (by decide) (by decide) member
    refine ⟨?_, ?_, ?_⟩ <;> rintro rfl <;> revert digit <;> decide
  cases year with
  | ofNat n => exact digits n
  | negSucc n =>
    intro c member
    rcases List.mem_append.mp (String.toList_append .. ▸ member) with sign | digit
    · cases List.mem_singleton.mp sign
      decide
    · exact digits (n + 1) c digit

theorem slugSurname_literal (surname : List Char) : Literal (slugSurname surname) := by
  unfold slugSurname
  dsimp only
  split
  · simp [Literal]
  · intro c member
    obtain ⟨d, kept, rfl⟩ := List.mem_map.mp member
    have alpha := (List.mem_filter.mp kept).2
    by_cases upper : d.val ≥ 'A'.val ∧ d.val ≤ 'Z'.val
    · have value := val_toLower_of_upper upper
      have low : 65 ≤ d.val.toNat := upper.1
      have high : d.val.toNat ≤ 90 := upper.2
      refine ⟨fun same => ?_, fun same => ?_, fun same => ?_⟩ <;> rw [same] at value
      · exact absurd (show 37 = _ from value) (by omega)
      · exact absurd (show 95 = _ from value) (by omega)
      · exact absurd (show 92 = _ from value) (by omega)
    · rw [toLower_of_not_upper upper]
      refine ⟨?_, ?_, ?_⟩ <;> rintro rfl <;> revert alpha <;> decide

theorem base_literal (surname : Option (List Char)) (year : Option Int) :
    Literal (citationKeyBase surname year) := by
  refine List.forall_mem_append.mpr ⟨slugSurname_literal _, ?_⟩
  cases year with
  | none => exact fun c member => absurd member List.not_mem_nil
  | some year => exact toString_literal year

variable {surname : Option (List Char)} {year : Option Int} {existing : List (List Char)}

theorem firstNumbered_free (base : List Char) : firstNumbered existing base existing.length 1 ∉
    existing := by
  have all : ∀ fuel n, firstNumbered existing base fuel n ∈ existing →
      ∀ k ≤ fuel, numbered base (n + k) ∈ existing := by
    intro fuel
    induction fuel with
    | zero =>
      intro n taken k none
      obtain rfl := Nat.le_zero.mp none
      exact taken
    | succ fuel ih =>
      intro n taken k few
      rw [firstNumbered] at taken
      split at taken
      · rename_i here
        cases k with
        | zero => exact here
        | succ k =>
          rw [← Nat.succ_add_eq_add_succ]
          exact ih (n + 1) taken k (Nat.le_of_succ_le_succ few)
      · contradiction
  intro taken
  have injective : Function.Injective fun k => numbered base (1 + k) := by
    intro k l same
    have digits := (List.cons.inj (List.append_cancel_left same)).2
    have values := congrArg (Nat.ofDigitChars 10 · 0) digits
    simpa using values
  have inside : (List.range (existing.length + 1)).map (fun k => numbered base (1 + k)) ⊆
      existing := by
    intro key member
    obtain ⟨k, below, rfl⟩ := List.mem_map.mp member
    exact all _ _ taken k (Nat.le_of_lt_succ (List.mem_range.mp below))
  have most := ((List.nodup_range.map injective).subperm inside).length_le
  rw [List.length_map, List.length_range] at most
  omega

theorem firstNumbered_begins (base : List Char) (fuel n : Nat) :
    base <+: firstNumbered existing base fuel n := by
  induction fuel generalizing n with
  | zero => exact List.prefix_append _ _
  | succ fuel ih =>
    rw [firstNumbered]
    split
    · exact ih (n + 1)
    · exact List.prefix_append _ _

/-- **The key that is made** is not among the given ones, and begins with the base. -/
theorem genCitationKey_spec (surname : Option (List Char)) (year : Option Int)
    (existing : List (List Char)) : genCitationKey surname year existing ∉ existing ∧
      citationKeyBase surname year <+: genCitationKey surname year existing := by
  unfold genCitationKey
  dsimp only
  split
  · exact ⟨‹_›, List.prefix_rfl⟩
  · split
    · rename_i candidate found
      obtain ⟨c, -, rfl⟩ := List.mem_map.mp (List.mem_of_find?_eq_some found)
      have free := List.find?_some found
      exact ⟨of_decide_eq_true free, List.prefix_append _ _⟩
    · exact ⟨firstNumbered_free _, firstNumbered_begins _ _ _⟩

/-- **A key made from the keys that the pattern finds** is no key of the user. -/
theorem genCitationKey_free (surname : Option (List Char)) (year : Option Int) (userId : Uuid)
    (rows : List Row) : genCitationKey surname year ((keysOf userId rows).filter
      (like (citationKeyBase surname year ++ ['%']))) ∉ keysOf userId rows := by
  intro taken
  obtain ⟨fresh, begins⟩ := genCitationKey_spec surname year ((keysOf userId rows).filter
    (like (citationKeyBase surname year ++ ['%'])))
  exact fresh (List.mem_filter.mpr ⟨taken, (like_literal (base_literal _ _) _).mpr begins⟩)

end Ziee.Citations
