/-
**From an identifier to what is looked up** (`citations/resolve.rs`).

The detection strips six prefixes from the text in lower case; what is looked up is stripped anew,
by rules of its own for each kind. A DOI in a free text is sought at the first `10.`.

* `bareId`, `lookupOf` — the identifier that is tested, and what is looked up.
* `resolveId_iff` — when the lookup is of the bare identifier; `extract_isSome_iff` — when a DOI
  is found.
* **`identifiers_iff`** — **detection and resolution agree exactly on these**.
-/

import Ziee.LitSearch.MergeByDoi
import Ziee.Memory.ExtractedArrays

namespace Ziee.Citations

open Ziee.Library (LetterCase toLower_of_not_upper val_toLower_of_upper)
open Ziee.LitSearch (doiLeads normalizeDoi stripOne stripOne_of_doi stripPrefix trim_trim)
open Ziee.Memory (trimStartMatches trimStartMatches_split)
open Ziee.Providers (isWhitespace isAsciiDigit trim trimStart)

/-- The two forms of the small sigma are one letter. -/
def oneSigma (c : Char) : Char := if c = 'ς' then 'σ' else c

/-- The tables, with what they say of a text up to the forms of its sigmas: its parts are lowercased
one after the other, ASCII is known, and no blank comes or goes. -/
structure UnicodeCase extends LetterCase where
  append : ∀ first second, (lower (first ++ second)).map oneSigma =
    (lower first).map oneSigma ++ (lower second).map oneSigma
  ascii : ∀ text, (∀ c ∈ text, c.toNat < 128) → (lower text).map oneSigma = text.map Char.toLower
  blanks : ∀ text, (lower (trim text)).map oneSigma = trim ((lower text).map oneSigma)

variable (table : UnicodeCase)

def letters (text : List Char) : List Char := (table.lower text).map oneSigma

def SameLetters (first second : List Char) : Prop := letters table first = letters table second

instance (first second : List Char) : Decidable (SameLetters table first second) :=
  inferInstanceAs (Decidable (letters table first = letters table second))

/-! ### Detection -/

inductive IdKind
  | doi
  | pmid
  | pmcid
  | arxiv
  | unknown
  deriving DecidableEq

/-- `str::trim_start_matches`. -/
def strip (lead : String) (text : List Char) : List Char :=
  trimStartMatches lead.toList text.length text

def detectLeads : List String :=
  ["https://", "http://", "doi.org/", "dx.doi.org/", "doi:", "arxiv:"]

def stripAll (leads : List String) (text : List Char) : List Char :=
  leads.foldl (fun text lead => strip lead text) text

/-- The identifier that the detection tests. -/
def bareId (raw : List Char) : List Char := trim (stripAll detectLeads (table.lower (trim raw)))

def isArxivNew (s : List Char) : Bool :=
  match (s.takeWhile (· != 'v')).splitOn '.' with
  | [a, b] =>
    a.length == 4 && a.all isAsciiDigit && (4 ≤ b.length && b.length ≤ 5) && b.all isAsciiDigit
  | _ => false

def isArxivOld (s : List Char) : Bool :=
  let cat := s.takeWhile (· != '/')
  let num := (s.dropWhile (· != '/')).tail
  s.contains '/' && !cat.isEmpty && cat.all (fun c => c.isAlpha || c == '.' || c == '-') &&
    cat.any Char.isAlpha && (7 ≤ num.length && num.all isAsciiDigit)

def detectIdKind (raw : List Char) : IdKind :=
  let stripped := bareId table raw
  if "pmc".toList.isPrefixOf stripped && 3 < stripped.length &&
      (stripped.drop 3).all isAsciiDigit then .pmcid
  else if "10.".toList.isPrefixOf stripped && stripped.contains '/' then .doi
  else if "arxiv:".toList.isPrefixOf (table.lower (trim raw)) then .arxiv
  else if isArxivNew stripped || isArxivOld stripped then .arxiv
  else if !stripped.isEmpty && stripped.all isAsciiDigit then .pmid
  else .unknown

/-! ### Resolution -/

/-- What `arxiv_to_doi` leaves of a trimmed id. -/
def arxivRest (id : List Char) : List Char := strip "arxiv:" (strip "arXiv:" id)

def arxivToDoi (arxivId : List Char) : List Char :=
  "10.48550/arXiv.".toList ++ trim (arxivRest (trim arxivId))

inductive Lookup
  | doi (doi : List Char)
  | idconv (id : List Char)
  | crossref (title : List Char)

def Lookup.sent : Lookup → List Char
  | .doi text | .idconv text | .crossref text => text

/-- `resolve_by_kind`, up to its first lookup; the rest reads the reply. -/
def resolveByKind (id : List Char) (kind : IdKind) (claimedTitle : Option (List Char)) : Lookup :=
  match kind with
  | .doi =>
    .doi (((normalizeDoi table.toLetterCase (String.ofList id)).map String.toList).getD id)
  | .arxiv => .doi (arxivToDoi id)
  | .pmid | .pmcid => .idconv id
  | .unknown => .crossref (claimedTitle.getD id)

/-- `resolve_input`, for an identifier whose kind is not given: it is trimmed first. -/
def resolveId (raw : List Char) (claimedTitle : Option (List Char)) : Lookup :=
  resolveByKind table (trim raw) (detectIdKind table (trim raw)) claimedTitle

/-- What is to be looked up for the bare identifier. -/
def built (kind : IdKind) (bare : List Char) : List Char :=
  match kind with
  | .arxiv => "10.48550/arXiv.".toList ++ bare
  | _ => bare

/-! ### A DOI in a text -/

/-- The text from the first `10.` on. -/
def fromTen : List Char → Option (List Char)
  | [] => none
  | c :: rest => if "10.".toList <+: c :: rest then some (c :: rest) else fromTen rest

def endsDoi (c : Char) : Bool := isWhitespace c || c == ',' || c == ';' || c == ')'

def extractDoiFromText (text : List Char) : Option String :=
  (fromTen text).bind fun tail =>
    let candidate := tail.takeWhile (!endsDoi ·)
    if (candidate.dropWhile (· != '/')).tail.isEmpty then none
    else normalizeDoi table.toLetterCase (String.ofList candidate)

/-! ### Letters of texts -/

variable {table} {text rest : List Char}

theorem trim_map {f : Char → Char} (same : isWhitespace ∘ f = isWhitespace) (text : List Char) :
    trim (text.map f) = (trim text).map f := by
  unfold trim trimStart
  rw [List.dropWhile_map, same, ← List.map_reverse, List.dropWhile_map, same, List.map_reverse]

theorem oneSigma_black (c : Char) : isWhitespace (oneSigma c) = isWhitespace c := by
  unfold oneSigma
  split
  · rename_i sigma
    rw [sigma]
    decide
  · rfl

theorem trim_oneSigma (text : List Char) : trim (text.map oneSigma) = (trim text).map oneSigma :=
  trim_map (funext oneSigma_black) text

theorem letters_append (first second : List Char) :
    letters table (first ++ second) = letters table first ++ letters table second :=
  table.append first second

theorem letters_trim (text : List Char) :
    letters table (trim text) = trim (letters table text) :=
  table.blanks text

theorem prefix_oneSigma {lead : List Char} (plain : ∀ c ∈ lead, c.toNat < 128) :
    lead <+: text.map oneSigma ↔ lead <+: text := by
  induction lead generalizing text with
  | nil => exact iff_of_true List.nil_prefix List.nil_prefix
  | cons c lead ih =>
    cases text with
    | nil => exact iff_of_false (by simp) (by simp)
    | cons d text =>
      have small := plain c List.mem_cons_self
      have head : c = oneSigma d ↔ c = d := by
        unfold oneSigma
        split
        · rename_i sigma
          refine iff_of_false ?_ ?_ <;> rintro rfl <;> revert small
          · decide
          · rw [sigma]
            decide
        · exact Iff.rfl
      rw [List.map_cons, List.cons_prefix_cons, List.cons_prefix_cons, head,
        ih fun e member => plain e (List.mem_cons_of_mem _ member)]

theorem trim_sublist (text : List Char) : (trim text).Sublist text :=
  (List.rdropWhile_prefix isWhitespace (trimStart text)).sublist.trans
    (List.dropWhile_suffix isWhitespace).sublist

/-! ### Stripping -/

variable {lead : String}

theorem strip_split (lead : String) (text : List Char) :
    ∃ dropped, text = dropped ++ strip lead text ∧ ∀ c ∈ dropped, c ∈ lead.toList :=
  trimStartMatches_split lead.toList text.length text

theorem strip_suffix (lead : String) (text : List Char) : strip lead text <:+ text :=
  have ⟨dropped, same, _⟩ := strip_split lead text
  ⟨dropped, same.symm⟩

theorem trimStartMatches_add {lead : List Char} (some : lead ≠ []) (bound more : Nat) :
    ∀ {text : List Char}, text.length ≤ bound →
      trimStartMatches lead (bound + more) text = trimStartMatches lead bound text := by
  induction bound with
  | zero =>
    intro text fits
    rw [List.length_eq_zero_iff.mp (Nat.le_zero.mp fits)]
    cases more with
    | zero => rfl
    | succ more =>
      exact if_neg fun begins => some (List.prefix_nil.mp begins)
  | succ bound ih =>
    intro text fits
    have long := List.length_pos_iff.mpr some
    rw [Nat.add_right_comm, trimStartMatches, trimStartMatches,
      ih (by rw [List.length_drop]; omega)]

theorem strip_append (some : lead.toList ≠ []) (text : List Char) :
    strip lead (lead.toList ++ text) = strip lead text := by
  obtain ⟨c, more, same⟩ := List.exists_cons_of_ne_nil some
  have long : (lead.toList ++ text).length = text.length + more.length + 1 := by
    rw [same, List.length_append, List.length_cons]
    omega
  rw [strip, long, trimStartMatches, if_pos (List.prefix_append _ _), List.drop_left,
    trimStartMatches_add some _ _ le_rfl]
  rfl

theorem strip_eq_self_iff (some : lead.toList ≠ []) :
    strip lead text = text ↔ ¬ lead.toList <+: text := by
  constructor
  · rintro same ⟨rest, rfl⟩
    rw [strip_append some] at same
    have short := (strip_suffix lead rest).length_le
    have long := List.length_pos_iff.mpr some
    rw [same, List.length_append] at short
    omega
  · intro other
    cases text with
    | nil => rfl
    | cons c text => rw [strip, List.length_cons, trimStartMatches, if_neg other]

theorem strip_oneSigma (plain : ∀ c ∈ lead.toList, c.toNat < 128) (text : List Char) :
    strip lead (text.map oneSigma) = (strip lead text).map oneSigma := by
  suffices general : ∀ bound text, trimStartMatches lead.toList bound (text.map oneSigma) =
      (trimStartMatches lead.toList bound text).map oneSigma by
    rw [strip, List.length_map]
    exact general _ text
  intro bound
  induction bound with
  | zero => exact fun _ => rfl
  | succ bound ih =>
    intro text
    rw [trimStartMatches, trimStartMatches]
    by_cases begins : lead.toList <+: text
    · rw [if_pos begins, if_pos ((prefix_oneSigma plain).mpr begins), ← List.map_drop, ih]
    · rw [if_neg begins, if_neg fun other => begins ((prefix_oneSigma plain).mp other)]

/-- What both kinds of prefixes are made of. -/
structure PlainLead (lead : String) : Prop where
  some : lead.toList ≠ []
  ascii : ∀ c ∈ lead.toList, c.toNat < 128
  oneless : '1' ∉ lead.toList

variable {leads : List String} (plain : ∀ lead ∈ leads, PlainLead lead)

include plain

theorem stripAll_oneSigma (text : List Char) :
    stripAll leads (text.map oneSigma) = (stripAll leads text).map oneSigma := by
  induction leads generalizing text with
  | nil => rfl
  | cons lead leads ih =>
    rw [List.forall_mem_cons] at plain
    rw [stripAll, List.foldl_cons, strip_oneSigma plain.1.ascii]
    exact ih plain.2 _

theorem stripAll_split (text : List Char) :
    ∃ dropped, text = dropped ++ stripAll leads text ∧ '1' ∉ dropped := by
  induction leads generalizing text with
  | nil => exact ⟨[], rfl, List.not_mem_nil⟩
  | cons lead leads ih =>
    rw [List.forall_mem_cons] at plain
    obtain ⟨first, here, inside⟩ := strip_split lead text
    obtain ⟨second, later, clean⟩ := ih plain.2 (strip lead text)
    refine ⟨first ++ second, ?_, fun member => ?_⟩
    · rw [List.append_assoc]
      exact here.trans (congrArg (first ++ ·) later)
    · rcases List.mem_append.mp member with member | member
      · exact plain.1.oneless (inside _ member)
      · exact clean member

theorem stripAll_suffix (text : List Char) : stripAll leads text <:+ text :=
  have ⟨dropped, same, _⟩ := stripAll_split plain text
  ⟨dropped, same.symm⟩

theorem stripAll_eq_self_iff :
    stripAll leads text = text ↔ ∀ lead ∈ leads, ¬ lead.toList <+: text := by
  induction leads with
  | nil => exact iff_of_true rfl (by simp)
  | cons lead leads ih =>
    rw [List.forall_mem_cons] at plain ⊢
    rw [← ih plain.2, ← strip_eq_self_iff plain.1.some]
    have next : stripAll (lead :: leads) text = stripAll leads (strip lead text) := rfl
    constructor
    · intro same
      have short := (stripAll_suffix plain.2 (strip lead text)).length_le
      rw [← next, same] at short
      have here : strip lead text = text := (strip_suffix lead text).eq_of_length_le short
      exact ⟨here, by rwa [next, here] at same⟩
    · rintro ⟨here, later⟩
      rw [next, here, later]

omit plain

theorem detectLeads_plain : ∀ lead ∈ detectLeads, PlainLead lead := by
  have all : ∀ lead ∈ detectLeads, lead.toList ≠ [] ∧ (∀ c ∈ lead.toList, c.toNat < 128) ∧
      '1' ∉ lead.toList := by
    simp [detectLeads, or_imp, forall_and]
  exact fun lead member => ⟨(all lead member).1, (all lead member).2.1, (all lead member).2.2⟩

/-! ### What the kinds agree on -/

variable {raw id : List Char}

theorem lower_bareId (raw : List Char) : table.lower (bareId table raw) = bareId table raw :=
  table.settled (trim raw) _ fun _ member =>
    (stripAll_suffix detectLeads_plain _).mem ((trim_sublist _).mem member)

/-- **The letters of the bare identifier** are cut out of those of the text. -/
theorem letters_bareId (raw : List Char) :
    letters table (bareId table raw) = trim (stripAll detectLeads (letters table (trim raw))) := by
  rw [letters, lower_bareId, bareId, ← trim_oneSigma, ← stripAll_oneSigma detectLeads_plain]
  rfl

theorem lower_trimmed (trimmed : trim id = id) : trim (table.lower id) = table.lower id := by
  have letters := @letters_trim table id
  rw [trimmed, Citations.letters, trim_oneSigma] at letters
  have length := congrArg List.length letters
  rw [List.length_map, List.length_map] at length
  exact (trim_sublist _).eq_of_length length.symm

/-- **An identifier that is sent as it is** is bare exactly when nothing was to be stripped. -/
theorem sent_iff (raw : List Char) : SameLetters table (trim raw) (bareId table raw) ↔
    ∀ lead ∈ detectLeads, ¬ lead.toList <+: table.lower (trim raw) := by
  have trimmed : trim (letters table (trim raw)) = letters table (trim raw) := by
    rw [← letters_trim, trim_trim]
  have leads : (∀ lead ∈ detectLeads, ¬ lead.toList <+: letters table (trim raw)) ↔
      ∀ lead ∈ detectLeads, ¬ lead.toList <+: table.lower (trim raw) :=
    forall₂_congr fun lead member => not_congr (prefix_oneSigma (detectLeads_plain lead member).ascii)
  rw [SameLetters, letters_bareId, ← leads, ← stripAll_eq_self_iff detectLeads_plain]
  constructor
  · intro same
    have whole := (stripAll_suffix detectLeads_plain (letters table (trim raw)))
    have short := (trim_sublist (stripAll detectLeads (letters table (trim raw)))).length_le
    rw [← same] at short
    exact whole.eq_of_length_le short
  · intro same
    rw [same, trimmed]

theorem trim_of_suffix (suffix : rest <:+ text) (trimmed : trim text = text)
    (starts : trimStart rest = rest) : trim rest = rest := by
  have whole : text.rdropWhile isWhitespace = text := by
    rw [← trimmed]
    exact List.rdropWhile_idempotent _ _
  show (trimStart rest).rdropWhile isWhitespace = rest
  rw [starts, List.rdropWhile_eq_self_iff]
  intro some
  rw [suffix.getLast some]
  exact List.rdropWhile_eq_self_iff.mp whole _

theorem letters_strip (lead : String) (same : letters table lead.toList = "arxiv:".toList)
    (text : List Char) :
    strip "arxiv:" (letters table text) = strip "arxiv:" (letters table (strip lead text)) := by
  suffices general : ∀ bound text, strip "arxiv:" (letters table text) =
      strip "arxiv:" (letters table (trimStartMatches lead.toList bound text)) from general _ _
  intro bound
  induction bound with
  | zero => exact fun _ => rfl
  | succ bound ih =>
    intro text
    rw [trimStartMatches]
    split
    · rename_i begins
      obtain ⟨rest, rfl⟩ := begins
      rw [List.drop_left, ← ih, letters_append, same]
      exact strip_append (by simp) _
    · rfl

theorem stripAll_arxiv (begins : "arxiv:".toList <+: text) :
    stripAll detectLeads text = strip "arxiv:" text := by
  have others : ∀ lead ∈ ["https://", "http://", "doi.org/", "dx.doi.org/", "doi:"],
      lead ∈ detectLeads ∧ ¬ lead.toList <+: text := by
    obtain ⟨rest, rfl⟩ := begins
    simp [detectLeads]
  have first : stripAll ["https://", "http://", "doi.org/", "dx.doi.org/", "doi:"] text = text :=
    (stripAll_eq_self_iff fun lead member => detectLeads_plain lead (others lead member).1).mpr
      fun lead member => (others lead member).2
  exact congrArg (strip "arxiv:") first

/-- **What is sent for an arXiv id** is bare exactly when the prefixes were `arXiv:` or `arxiv:`. -/
theorem arxiv_iff (raw : List Char) :
    letters table (trim (arxivRest (trim raw))) = letters table (bareId table raw) ↔
      ∀ lead ∈ detectLeads, lead.toList <+: table.lower (arxivRest (trim raw)) →
        arxivRest (trim raw) ≠ trim raw ∧ lead ≠ "arxiv:" := by
  by_cases same : arxivRest (trim raw) = trim raw
  · rw [same, trim_trim]
    refine (sent_iff raw).trans (forall₂_congr fun lead _ => ?_)
    exact ⟨fun free begins => absurd begins free, fun free begins => (free begins).1 rfl⟩
  have upper : letters table "arXiv:".toList = "arxiv:".toList :=
    table.ascii _ (by simp [or_imp, forall_and])
  have lower : letters table "arxiv:".toList = "arxiv:".toList :=
    table.ascii _ (by simp [or_imp, forall_and])
  have begins : "arxiv:".toList <+: letters table (trim raw) := by
    by_contra other
    have free : ∀ lead : String, letters table lead.toList = "arxiv:".toList →
        ¬ lead.toList <+: trim raw := fun lead arxiv ⟨rest, split⟩ =>
      other ⟨letters table rest, by rw [← arxiv, ← letters_append, split]⟩
    apply same
    rw [arxivRest, (strip_eq_self_iff (by simp)).mpr (free "arXiv:" upper),
      (strip_eq_self_iff (by simp)).mpr (free "arxiv:" lower)]
  have stripped : strip "arxiv:" (letters table (trim raw)) =
      strip "arxiv:" (letters table (arxivRest (trim raw))) := by
    rw [letters_strip _ upper, letters_strip _ lower]
    rfl
  rw [letters_trim, letters_bareId, stripAll_arxiv begins, stripped]
  set left := letters table (arxivRest (trim raw)) with meaning
  have suffix : left <:+ letters table (trim raw) := by
    obtain ⟨dropped, split⟩ :=
      (strip_suffix "arxiv:" (strip "arXiv:" (trim raw))).trans (strip_suffix _ _)
    exact ⟨letters table dropped, by rw [meaning, ← letters_append]; exact congrArg _ split⟩
  have free : (∀ lead ∈ detectLeads, lead.toList <+: table.lower (arxivRest (trim raw)) →
      arxivRest (trim raw) ≠ trim raw ∧ lead ≠ "arxiv:") ↔ ¬ "arxiv:".toList <+: left := by
    rw [meaning, letters, prefix_oneSigma (by simp [or_imp, forall_and])]
    constructor
    · exact fun each begins => (each "arxiv:" (by simp [detectLeads]) begins).2 rfl
    · rintro other lead - begins
      exact ⟨same, by rintro rfl; exact other begins⟩
  rw [free]
  constructor
  · rintro equal ⟨rest, split⟩
    have trimmed := trim_of_suffix suffix (by rw [← letters_trim, trim_trim]) (by rw [← split]; rfl)
    have short := (trim_sublist (strip "arxiv:" left)).length_le
    have cut : trim (strip "arxiv:" left) = left := equal.symm.trans trimmed
    rw [cut] at short
    exact (strip_eq_self_iff (by simp)).mp ((strip_suffix _ _).eq_of_length_le short) ⟨rest, split⟩
  · intro other
    rw [(strip_eq_self_iff (by simp)).mpr other]

/-! ### DOIs -/

theorem trim_eq_of_one {dropped : List Char} (clean : '1' ∉ dropped)
    (ten : "10.".toList <+: trim text) :
    trim text = trim ((dropped ++ text).dropWhile (· != '1')) := by
  obtain ⟨more, starts⟩ := ten.trans (List.rdropWhile_prefix isWhitespace (trimStart text))
  have front : ∀ c ∈ dropped ++ text.takeWhile isWhitespace, (c != '1') = true := by
    intro c member
    rw [bne_iff_ne]
    rintro rfl
    rcases List.mem_append.mp member with member | member
    · exact clean member
    · have white := List.mem_takeWhile_imp member
      revert white
      decide
  have split : dropped ++ text =
      (dropped ++ text.takeWhile isWhitespace) ++ trimStart text := by
    rw [List.append_assoc]
    exact congrArg (dropped ++ ·) List.takeWhile_append_dropWhile.symm
  have cut : (dropped ++ text).dropWhile (· != '1') = trimStart text := by
    rw [split, List.dropWhile_append_of_pos front, ← starts]
    rfl
  have twice : trimStart (trimStart text) = trimStart text := List.dropWhile_idempotent _ _
  rw [cut, trim, trim, twice]

theorem normalizeDoi_eq (trimmed : trim id = id) :
    normalizeDoi table.toLetterCase (String.ofList id) =
      if "10.".toList <+: trim (stripOne doiLeads (table.lower id)) then
        some (String.ofList (trim (stripOne doiLeads (table.lower id))))
      else none := by
  rw [normalizeDoi, String.toList_ofList, trimmed]
  by_cases ten : "10.".toList <+: trim (stripOne doiLeads (table.lower id))
  · obtain ⟨more, same⟩ := ten
    rw [← same]
    rfl
  · have other : "10.".toList.isPrefixOf (trim (stripOne doiLeads (table.lower id))) = false :=
      Bool.eq_false_iff.mpr fun begins => ten (List.isPrefixOf_iff_prefix.mp begins)
    rw [if_neg ten, other, Bool.not_false, Bool.or_true, if_pos rfl]

/-- The DOI, with nothing or one of the known prefixes in front. -/
def DoiSpelled (text : List Char) : Prop :=
  ∃ lead ∈ "" :: doiLeads, ∃ rest, text = lead.toList ++ rest ∧ "10.".toList <+: trim rest

theorem stripOne_split (text : List Char) :
    ∃ lead ∈ "" :: doiLeads, text = lead.toList ++ stripOne doiLeads text := by
  unfold stripOne
  cases found : doiLeads.findSome? fun lead => stripPrefix lead.toList text with
  | none => exact ⟨"", List.mem_cons_self, rfl⟩
  | some rest =>
    obtain ⟨lead, member, cut⟩ := List.exists_of_findSome?_eq_some found
    unfold stripPrefix at cut
    split at cut
    · rename_i begins
      obtain ⟨more, rfl⟩ := List.isPrefixOf_iff_prefix.mp begins
      cases cut
      exact ⟨lead, List.mem_cons_of_mem _ member, by rw [List.drop_left]; rfl⟩
    · cases cut

theorem doiSpelled_iff (trimmed : trim text = text) :
    "10.".toList <+: trim (stripOne doiLeads text) ↔ DoiSpelled text := by
  constructor
  · intro ten
    obtain ⟨lead, member, split⟩ := stripOne_split text
    exact ⟨lead, member, _, split, ten⟩
  · rintro ⟨lead, member, rest, rfl, ten⟩
    have cut : stripOne doiLeads (lead.toList ++ rest) = rest := by
      simp only [doiLeads, List.mem_cons, List.not_mem_nil, or_false] at member
      rcases member with rfl | rfl | rfl | rfl | rfl
      · refine stripOne_of_doi ?_
        rw [String.toList_empty, List.nil_append] at trimmed ⊢
        rw [← trimmed]
        exact List.isPrefixOf_iff_prefix.mpr ten
      all_goals rfl
    rwa [cut]

/-- **What is sent for a DOI** is bare exactly when the prefix is one that is known. -/
theorem doi_iff (raw : List Char) (ten : "10.".toList <+: bareId table raw) :
    SameLetters table (((normalizeDoi table.toLetterCase (String.ofList (trim raw))).map
      String.toList).getD (trim raw)) (bareId table raw) ↔
      DoiSpelled (table.lower (trim raw)) := by
  have trimmed := @lower_trimmed table _ (trim_trim raw)
  rw [normalizeDoi_eq (trim_trim raw), ← doiSpelled_iff trimmed]
  obtain ⟨lead, member, split⟩ := stripOne_split (table.lower (trim raw))
  obtain ⟨dropped, other, clean⟩ := stripAll_split detectLeads_plain (table.lower (trim raw))
  by_cases known : "10.".toList <+: trim (stripOne doiLeads (table.lower (trim raw)))
  · have oneless : '1' ∉ lead.toList := by
      have all : ∀ lead ∈ "" :: doiLeads, '1' ∉ lead.toList := by simp [doiLeads]
      exact all lead member
    have same : trim (stripOne doiLeads (table.lower (trim raw))) = bareId table raw := by
      rw [trim_eq_of_one oneless known, ← split, bareId, trim_eq_of_one clean ten, ← other]
    rw [if_pos known, Option.map_some, Option.getD_some, String.toList_ofList, same]
    exact iff_of_true rfl (same ▸ known)
  · rw [if_neg known]
    refine iff_of_false (fun same => known ?_) known
    have letters : (table.lower (trim raw)).map oneSigma = (bareId table raw).map oneSigma :=
      same.trans (by rw [Citations.letters, lower_bareId])
    have begins : "10.".toList <+: table.lower (trim raw) := by
      have plain : ∀ c ∈ "10.".toList, c.toNat < 128 := by simp [or_imp, forall_and]
      rw [← prefix_oneSigma plain, letters, prefix_oneSigma plain]
      exact ten
    rw [doiSpelled_iff trimmed]
    exact ⟨"", List.mem_cons_self, _, rfl, by rwa [trimmed]⟩

/-! ### DOIs in texts -/

theorem fromTen_begins {tail : List Char} (found : fromTen text = some tail) :
    "10.".toList <+: tail := by
  induction text with
  | nil => cases found
  | cons c text ih =>
    rw [fromTen] at found
    split at found
    · cases found
      assumption
    · exact ih found

/-- **The first `10.` begins a DOI**: a slash and something else come before its end. -/
def FirstIsDoi (text : List Char) : Prop :=
  ∃ tail registrant c rest, fromTen text = some tail ∧
    tail.takeWhile (!endsDoi ·) = registrant ++ '/' :: c :: rest

theorem behindSlash_iff : (text.dropWhile (· != '/')).tail.isEmpty = false ↔
    ∃ registrant c rest, text = registrant ++ '/' :: c :: rest := by
  induction text with
  | nil => exact iff_of_false (by decide) (by rintro ⟨registrant, _, _, same⟩; simp at same)
  | cons d text ih =>
    by_cases slash : d = '/'
    · subst slash
      have here : ('/' :: text).dropWhile (· != '/') = '/' :: text := rfl
      rw [here]
      constructor
      · intro some
        obtain ⟨c, rest, rfl⟩ := List.exists_cons_of_ne_nil (List.isEmpty_eq_false_iff.mp some)
        exact ⟨[], c, rest, rfl⟩
      · rintro ⟨registrant, c, rest, same⟩
        cases text with
        | nil =>
          have length := congrArg List.length same
          rw [List.length_append] at length
          cases registrant <;> cases length
        | cons => rfl
    · have gone : (d :: text).dropWhile (· != '/') = text.dropWhile (· != '/') :=
        List.dropWhile_cons_of_pos (bne_iff_ne.mpr slash)
      rw [gone, ih]
      constructor
      · rintro ⟨registrant, c, rest, rfl⟩
        exact ⟨d :: registrant, c, rest, rfl⟩
      · rintro ⟨_ | ⟨e, registrant⟩, c, rest, same⟩
        · exact absurd (List.cons.inj same).1 slash
        · exact ⟨registrant, c, rest, (List.cons.inj same).2⟩

theorem normalizeDoi_isSome (begins : "10.".toList <+: text)
    (black : ∀ c ∈ text, isWhitespace c = false) :
    (normalizeDoi table.toLetterCase (String.ofList text)).isSome := by
  have whole : ∀ text : List Char, (∀ c ∈ text, isWhitespace c = false) →
      trimStart text = text := by
    intro text black
    refine List.dropWhile_eq_self_iff.mpr fun long => ?_
    rw [black _ (List.getElem_mem long)]
    exact Bool.false_ne_true
  have trimmed : trim text = text := by
    rw [trim, whole text black, whole _ fun c member => black c (List.mem_reverse.mp member),
      List.reverse_reverse]
  have plain : ∀ c ∈ "10.".toList, c.toNat < 128 := by simp [or_imp, forall_and]
  have lower : "10.".toList <+: table.lower text := by
    obtain ⟨more, rfl⟩ := begins
    have ten : letters table "10.".toList = "10.".toList := table.ascii _ plain
    rw [← prefix_oneSigma plain]
    exact ⟨letters table more, by rw [← letters, letters_append, ten]⟩
  have settled := @lower_trimmed table _ trimmed
  rw [normalizeDoi_eq trimmed, if_pos ((doiSpelled_iff settled).mpr
    ⟨"", List.mem_cons_self, _, rfl, by rwa [settled]⟩)]
  rfl

theorem extract_isSome_iff (text : List Char) :
    (extractDoiFromText table text).isSome = true ↔ FirstIsDoi text := by
  unfold extractDoiFromText
  cases found : fromTen text with
  | none => exact iff_of_false Bool.false_ne_true fun ⟨_, _, _, _, same, _⟩ => nomatch found ▸ same
  | some tail =>
    have begins : "10.".toList <+: tail.takeWhile (!endsDoi ·) := by
      obtain ⟨more, rfl⟩ := fromTen_begins found
      exact ⟨more.takeWhile (!endsDoi ·), rfl⟩
    have some := @normalizeDoi_isSome table _ begins fun c member => by
      have other := List.mem_takeWhile_imp member
      simp only [endsDoi, Bool.not_eq_true', Bool.or_eq_false_iff] at other
      exact other.1.1.1
    have shape : FirstIsDoi text ↔ ∃ registrant c rest,
        tail.takeWhile (!endsDoi ·) = registrant ++ '/' :: c :: rest := by
      simp [FirstIsDoi, found]
    rw [shape, ← behindSlash_iff, Option.bind_some]
    dsimp only
    cases ((tail.takeWhile (!endsDoi ·)).dropWhile (· != '/')).tail.isEmpty with
    | true => exact iff_of_false Bool.false_ne_true (by decide)
    | false => exact iff_of_true some rfl

/-! ### Agreement -/

/-- What may stand before the identifier, for each kind. -/
def Spelled (table : UnicodeCase) (kind : IdKind) (id : List Char) : Prop :=
  match kind with
  | .doi => DoiSpelled (table.lower id)
  | .arxiv => ∀ lead ∈ detectLeads, lead.toList <+: table.lower (arxivRest id) →
      arxivRest id ≠ id ∧ lead ≠ "arxiv:"
  | _ => ∀ lead ∈ detectLeads, ¬ lead.toList <+: table.lower id

/-- A token `10.digits/suffix` after a space or a colon, up to a space or the end. -/
def HasToken (text : List Char) : Prop :=
  ∃ before mark digits suffix after, (mark = ' ' ∨ mark = ':') ∧
    text = before ++ mark :: "10.".toList ++ digits ++ '/' :: suffix ++ after ∧
    digits ≠ [] ∧ digits.all isAsciiDigit ∧ suffix ≠ [] ∧ ' ' ∉ suffix ∧
    (after = [] ∨ after.head? = some ' ')

theorem arxivToDoi_iff (raw : List Char) :
    SameLetters table (arxivToDoi (trim raw)) ("10.48550/arXiv.".toList ++ bareId table raw) ↔
      Spelled table .arxiv (trim raw) := by
  unfold SameLetters arxivToDoi
  rw [letters_append, letters_append, List.append_cancel_left_eq, trim_trim]
  exact arxiv_iff raw

theorem ten_of_doi (detected : detectIdKind table raw = .doi) :
    "10.".toList <+: bareId table raw := by
  rw [detectIdKind] at detected
  split at detected
  · cases detected
  split at detected
  · rename_i ten
    rw [Bool.and_eq_true] at ten
    exact List.isPrefixOf_iff_prefix.mp ten.1
  repeat' split at detected
  all_goals cases detected

theorem resolveId_iff (raw : List Char) (claimedTitle : Option (List Char)) (kind : IdKind)
    (detected : detectIdKind table raw = kind) (known : kind ≠ .unknown) :
    SameLetters table (resolveId table raw claimedTitle).sent (built kind (bareId table raw)) ↔
      Spelled table kind (trim raw) := by
  have again : detectIdKind table (trim raw) = detectIdKind table raw := by
    unfold detectIdKind bareId
    rw [trim_trim]
  rw [resolveId, again, detected]
  cases kind with
  | doi => exact doi_iff raw (ten_of_doi detected)
  | pmid | pmcid => exact sent_iff raw
  | arxiv => exact arxivToDoi_iff raw
  | unknown => exact absurd rfl known

/-- **Detection and resolution agree exactly on these**, and so does the search for a DOI. -/
theorem identifiers_iff (table : UnicodeCase) :
    (∀ raw claimedTitle kind, detectIdKind table raw = kind → kind ≠ .unknown →
      (SameLetters table (resolveId table raw claimedTitle).sent (built kind (bareId table raw)) ↔
        Spelled table kind (trim raw))) ∧
    ∀ text, HasToken text → ((extractDoiFromText table text).isSome = true ↔ FirstIsDoi text) :=
  ⟨resolveId_iff, fun text _ => extract_isSome_iff text⟩

/-! ### ASCII -/

theorem toLower_known (c : Char) :
    isWhitespace c.toLower = isWhitespace c ∧ (c.toNat < 128 → oneSigma c.toLower = c.toLower) := by
  by_cases upper : c.val ≥ 'A'.val ∧ c.val ≤ 'Z'.val
  · have value : c.toLower.toNat = c.toNat + 32 := val_toLower_of_upper upper
    have least : 65 ≤ c.toNat := upper.1
    have most : c.toNat ≤ 90 := upper.2
    refine ⟨?_, fun _ => if_neg ?_⟩
    · simp only [isWhitespace, value]
      grind
    · intro sigma
      have code : 'ς'.toNat = 962 := rfl
      rw [sigma, code] at value
      omega
  · rw [toLower_of_not_upper upper]
    refine ⟨rfl, fun small => if_neg ?_⟩
    rintro rfl
    revert small
    decide

def asciiCase : UnicodeCase where
  toLetterCase := .ascii
  append first second := by
    show ((first ++ second).map _).map _ = _
    rw [List.map_append, List.map_append]
    rfl
  ascii text plain := by
    show (text.map Char.toLower).map oneSigma = _
    rw [List.map_map]
    exact List.map_congr_left fun c member => (toLower_known c).2 (plain c member)
  blanks text := by
    show ((trim text).map Char.toLower).map oneSigma = trim ((text.map Char.toLower).map oneSigma)
    rw [trim_oneSigma, trim_map (funext fun c => (toLower_known c).1)]

def dxDoi : List Char := "https://dx.doi.org/10.1000/xyz".toList

def twoTens : List Char := "version 10. See doi:10.1000/xyz".toList

theorem identifiers_iff_dx : SameLetters asciiCase (resolveId asciiCase dxDoi none).sent
    (built .doi (bareId asciiCase dxDoi)) ↔ Spelled asciiCase .doi (trim dxDoi) :=
  (identifiers_iff asciiCase).1 dxDoi none .doi rfl nofun

theorem dx_unresolved : detectIdKind asciiCase dxDoi = .doi ∧
    ¬ SameLetters asciiCase (resolveId asciiCase dxDoi none).sent (built .doi (bareId asciiCase dxDoi)) ∧
    HasToken twoTens ∧ extractDoiFromText asciiCase twoTens = none := by
  refine ⟨rfl, nofun, ?_, rfl⟩
  exact ⟨"version 10. See doi".toList, ':', "1000".toList, "xyz".toList, [], .inr rfl, rfl, nofun,
    rfl, nofun, by decide, .inl rfl⟩

end Ziee.Citations
