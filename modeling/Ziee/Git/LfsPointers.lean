/-
**The two readers of LFS pointers** (`utils/git/lfs/metadata.rs`).

`parseFromString` collects the lines by their first words and takes the last words, and wants a
version; `parseLfsPointerContent` looks for two beginnings of lines.

* `parseFromString_oid`, `scan_oid` — the ids they accept are 64 lowercase hex digits.
* **`readers_agree`** — **the readers agree on pointers** with a version, one id and one size.
-/

import Mathlib.Data.List.DropRight
import Ziee.Files.FileVersions

namespace Ziee.Git

open Ziee.Files (lineTexts)
open Ziee.Providers (isAsciiDigit parseUsize)

inductive Hash
  | sha256
  | other
  deriving DecidableEq

structure LfsMetadata where
  size : Nat
  oid : List Char
  hash : Option Hash
  deriving DecidableEq

/-- `split(sep).first()`. -/
def firstPart (sep : Char) (text : List Char) : List Char := text.takeWhile (· != sep)

/-- `split(sep).last()`. -/
def lastPart (sep : Char) (text : List Char) : List Char := text.rtakeWhile (· != sep)

def hasKey (key : String) (line : List Char) : Bool := firstPart ' ' line == key.toList

/-- The map of the lines by their first words: a later line replaces an earlier one. -/
def entry (input : List Char) (key : String) : Option (List Char) :=
  ((lineTexts input).filter (hasKey key)).getLast?.map (lastPart ' ')

/-- `is_valid_oid`. All valid characters have one byte. -/
def isValidOid (oid : List Char) : Bool :=
  oid.length == 64 && oid.all fun c => isAsciiDigit c || ('a' ≤ c && c ≤ 'f')

def splitHash (oid : List Char) : List Char × Option Hash :=
  if ':' ∈ oid then
    (lastPart ':' oid, some (if firstPart ':' oid = "sha256".toList then .sha256 else .other))
  else (oid, none)

/-- **`LfsMetadata::parse_from_string`**; the errors are `InvalidFormat`. -/
def parseFromString (input : List Char) : Except String LfsMetadata := do
  let some size := entry input "size" | throw "Could not find size entry"
  let some size := parseUsize size | throw "Could not convert file size to u64"
  let some _ := entry input "version" | throw "Could not find version-entry"
  let some oid := entry input "oid" | throw "Could not find oid-entry"
  if isValidOid (splitHash oid).1 then pure ⟨size, (splitHash oid).1, (splitHash oid).2⟩
  else throw "LFS pointer oid must be exactly 64 lowercase hex characters"

/-- `str::strip_prefix`. -/
def stripPrefix (lead line : List Char) : Option (List Char) :=
  if lead <+: line then some (line.drop lead.length) else none

def oidOf (line : List Char) : Option (List Char) := stripPrefix "oid sha256:".toList line

def sizeOf? (line : List Char) : Option Nat := (stripPrefix "size ".toList line).bind parseUsize

/-- The loop over the lines, with what was found so far. -/
def scan (oid : Option (List Char)) (size : Option Nat) : List (List Char) →
    Option (List Char × Nat)
  | [] => oid.bind fun oid => size.map (oid, ·)
  | line :: rest =>
    match oidOf line with
    | some value => if isValidOid value then scan (some value) size rest else none
    | none => scan oid ((sizeOf? line).or size) rest

def parseLfsPointerContent (content : List Char) : Option (List Char × Nat) :=
  scan none none (lineTexts content)

/-! ### What is read -/

variable {input : List Char}

theorem parseFromString_iff {pointer : LfsMetadata} : parseFromString input = .ok pointer ↔
    ∃ size oid, entry input "size" = some size ∧ parseUsize size = some pointer.size ∧
      (entry input "version").isSome ∧ entry input "oid" = some oid ∧
      splitHash oid = (pointer.oid, pointer.hash) ∧ isValidOid pointer.oid = true := by
  obtain ⟨read, oid, hash⟩ := pointer
  unfold parseFromString
  cases entry input "size" with
  | none => simp [throw, throwThe, MonadExceptOf.throw]
  | some size =>
    cases parsed : parseUsize size with
    | none => simp [throw, throwThe, MonadExceptOf.throw, parsed]
    | some value =>
      cases entry input "version" with
      | none => simp [throw, throwThe, MonadExceptOf.throw, parsed]
      | some version =>
        cases entry input "oid" with
        | none => simp [throw, throwThe, MonadExceptOf.throw, parsed]
        | some text =>
          simp only [throw, throwThe, MonadExceptOf.throw, parsed, Option.some.injEq,
            Option.isSome_some, true_and, exists_eq_left', exists_and_left]
          by_cases valid : isValidOid (splitHash text).1 = true
          · rw [if_pos valid]
            constructor
            · rintro ⟨⟩
              exact ⟨rfl, rfl, valid⟩
            · rintro ⟨rfl, same, -⟩
              rw [same]
              rfl
          · rw [if_neg valid]
            exact iff_of_false nofun fun both => valid (both.2.1 ▸ both.2.2)

theorem stripPrefix_eq_some_iff {lead line rest : List Char} :
    stripPrefix lead line = some rest ↔ line = lead ++ rest := by
  unfold stripPrefix
  split
  · rename_i begins
    obtain ⟨more, rfl⟩ := begins
    simp
  · rename_i other
    exact iff_of_false nofun fun same => other ⟨rest, same.symm⟩

theorem stripPrefix_append (lead rest : List Char) :
    stripPrefix lead (lead ++ rest) = some rest :=
  stripPrefix_eq_some_iff.mpr rfl

theorem firstPart_eq {sep : Char} {front back : List Char} (clean : sep ∉ front) :
    firstPart sep (front ++ sep :: back) = front := by
  have inside : ∀ c ∈ front, (c != sep) = true := by
    intro c member
    rw [bne_iff_ne]
    rintro rfl
    exact clean member
  rw [firstPart, List.takeWhile_append_of_pos inside]
  simp

theorem lastPart_eq {sep : Char} {front back : List Char} (clean : sep ∉ back) :
    lastPart sep (front ++ sep :: back) = back := by
  have whole := @firstPart_eq sep back.reverse front.reverse fun member =>
    clean (List.mem_reverse.mp member)
  have same := congrArg List.reverse whole
  simpa [firstPart, lastPart, List.rtakeWhile] using same

theorem hasKey_oid {line id : List Char} (found : oidOf line = some id) :
    hasKey "oid" line = true := by
  rw [stripPrefix_eq_some_iff.mp found]
  exact beq_iff_eq.mpr (@firstPart_eq ' ' "oid".toList ("sha256:".toList ++ id) (by decide))

theorem hasKey_size {line : List Char} {size : Nat} (found : sizeOf? line = some size) :
    hasKey "size" line = true := by
  obtain ⟨number, strip, -⟩ := Option.bind_eq_some_iff.mp found
  rw [stripPrefix_eq_some_iff.mp strip]
  exact beq_iff_eq.mpr (@firstPart_eq ' ' "size".toList number (by decide))

/-- **What the second reader finds**, from the lines of each kind alone. -/
theorem scan_eq (lines : List (List Char)) (oid : Option (List Char)) (size : Option Nat) :
    scan oid size lines =
      if (lines.filterMap oidOf).all isValidOid then
        ((lines.filterMap oidOf).getLast?.or oid).bind fun oid =>
          ((lines.filterMap sizeOf?).getLast?.or size).map (oid, ·)
      else none := by
  induction lines generalizing oid size with
  | nil => rfl
  | cons line lines ih =>
    rw [scan]
    cases found : oidOf line with
    | some value =>
      have none : sizeOf? line = none := by
        by_contra some
        obtain ⟨size, sized⟩ := Option.ne_none_iff_exists'.mp some
        have keys := (beq_iff_eq.mp (hasKey_oid found)).symm.trans
          (beq_iff_eq.mp (hasKey_size sized))
        revert keys
        decide
      rw [List.filterMap_cons_some found, List.filterMap_cons_none none, List.all_cons,
        List.getLast?_cons]
      dsimp only
      cases isValidOid value with
      | false => rfl
      | true =>
        rw [if_pos rfl, ih]
        cases (lines.filterMap oidOf).getLast? <;> rfl
    | none =>
      rw [List.filterMap_cons_none found]
      dsimp only
      rw [ih]
      cases sized : sizeOf? line with
      | none =>
        rw [List.filterMap_cons_none sized]
        rfl
      | some value =>
        rw [List.filterMap_cons_some sized, List.getLast?_cons]
        cases (lines.filterMap sizeOf?).getLast? <;> rfl

/-! ### Agreement -/

/-- **Lines of one form**: a version; the lines of ids and sizes have two words each; a bad id does
not stand before a good last one, and the last of the sizes that are numbers is the last size. -/
structure Pointer (input : List Char) (ids numbers : List (List Char)) : Prop where
  version : (entry input "version").isSome
  idLines : (lineTexts input).filter (hasKey "oid") = ids.map ("oid sha256:".toList ++ ·)
  sizeLines : (lineTexts input).filter (hasKey "size") = numbers.map ("size ".toList ++ ·)
  idPlain : ∀ id ∈ ids, ' ' ∉ id ∧ ':' ∉ id
  numberPlain : ∀ number ∈ numbers, ' ' ∉ number
  idsAlike : ids.getLast?.any isValidOid → ids.all isValidOid
  sizesAlike : (numbers.filterMap parseUsize).getLast? = numbers.getLast?.bind parseUsize

theorem filterMap_keyed {α : Type} {find : List Char → Option α} {key : String}
    (keyed : ∀ {line found}, find line = some found → hasKey key line = true)
    (lines : List (List Char)) :
    (lines.filter (hasKey key)).filterMap find = lines.filterMap find := by
  rw [List.filterMap_filter]
  refine List.filterMap_congr fun line _ => ?_
  split
  · rfl
  · rename_i other
    exact (Option.eq_none_iff_forall_ne_some.mpr fun found same => other (keyed same)).symm

theorem splitHash_eq {id : List Char} (plain : ':' ∉ id) :
    splitHash ("sha256:".toList ++ id) = (id, some .sha256) := by
  have first := @firstPart_eq ':' "sha256".toList id (by decide)
  have last := @lastPart_eq ':' "sha256".toList id plain
  have colon : ':' ∈ "sha256".toList ++ ':' :: id := by simp
  change splitHash ("sha256".toList ++ ':' :: id) = _
  rw [splitHash, if_pos colon, first, last, if_pos rfl]

section

variable {ids numbers : List (List Char)} (pointer : Pointer input ids numbers)

include pointer

theorem Pointer.oids : (lineTexts input).filterMap oidOf = ids := by
  rw [← filterMap_keyed hasKey_oid, pointer.idLines, List.filterMap_map]
  calc ids.filterMap (oidOf ∘ ("oid sha256:".toList ++ ·))
      = ids.filterMap some :=
        List.filterMap_congr fun id _ => stripPrefix_append "oid sha256:".toList id
    _ = ids := List.filterMap_some

theorem Pointer.sizes :
    (lineTexts input).filterMap sizeOf? = numbers.filterMap parseUsize := by
  rw [← filterMap_keyed hasKey_size, pointer.sizeLines, List.filterMap_map]
  refine List.filterMap_congr fun number _ => ?_
  exact congrArg (Option.bind · parseUsize) (stripPrefix_append "size ".toList number)

theorem Pointer.oidEntry : entry input "oid" = ids.getLast?.map ("sha256:".toList ++ ·) := by
  rw [entry, pointer.idLines, List.getLast?_map, Option.map_map]
  refine Option.map_congr fun id last => ?_
  refine @lastPart_eq ' ' "oid".toList ("sha256:".toList ++ id) fun member => ?_
  rcases List.mem_append.mp member with front | back
  · exact absurd front (by decide)
  · exact (pointer.idPlain id (List.mem_of_getLast? last)).1 back

theorem Pointer.sizeEntry : entry input "size" = numbers.getLast? := by
  rw [entry, pointer.sizeLines, List.getLast?_map, Option.map_map]
  refine (Option.map_congr fun number last => ?_).trans Option.map_id'
  exact @lastPart_eq ' ' "size".toList number
    (pointer.numberPlain number (List.mem_of_getLast? last))

theorem Pointer.agree (oid : List Char) (size : Nat) :
    parseFromString input = .ok ⟨size, oid, some .sha256⟩ ↔
      parseLfsPointerContent input = some (oid, size) := by
  rw [parseFromString_iff, parseLfsPointerContent, scan_eq, pointer.oids, pointer.sizes,
    pointer.oidEntry, pointer.sizeEntry, pointer.sizesAlike, Option.or_none, Option.or_none]
  constructor
  · rintro ⟨number, _, lastSize, parsed, -, lastOid, split, valid⟩
    obtain ⟨id, last, rfl⟩ := Option.map_eq_some_iff.mp lastOid
    rw [splitHash_eq (pointer.idPlain id (List.mem_of_getLast? last)).2] at split
    cases split
    rw [if_pos (pointer.idsAlike (by rw [last]; exact valid)), last, lastSize]
    exact congrArg (Option.map (oid, ·)) parsed
  · intro accepted
    split at accepted
    · rename_i valid
      obtain ⟨id, last, same⟩ := Option.bind_eq_some_iff.mp accepted
      obtain ⟨_, sized, equal⟩ := Option.map_eq_some_iff.mp same
      cases equal
      obtain ⟨number, lastSize, parsed⟩ := Option.bind_eq_some_iff.mp sized
      have member := List.mem_of_getLast? last
      exact ⟨number, _, lastSize, parsed, pointer.version, by rw [last]; rfl,
        splitHash_eq (pointer.idPlain oid member).2, List.all_eq_true.mp valid oid member⟩
    · cases accepted

end

/-- **The readers agree on pointers**, and every id that one of them accepts is valid. -/
theorem readers_agree (input : List Char) :
    (∀ pointer, parseFromString input = .ok pointer → isValidOid pointer.oid = true) ∧
      (∀ oid size, parseLfsPointerContent input = some (oid, size) → isValidOid oid = true) ∧
      ∀ ids numbers, Pointer input ids numbers → ∀ oid size,
        parseFromString input = .ok ⟨size, oid, some .sha256⟩ ↔
          parseLfsPointerContent input = some (oid, size) := by
  refine ⟨fun pointer accepted => ?_, fun oid size accepted => ?_, fun _ _ => Pointer.agree⟩
  · obtain ⟨_, _, -, -, -, -, -, valid⟩ := parseFromString_iff.mp accepted
    exact valid
  · rw [parseLfsPointerContent, scan_eq] at accepted
    split at accepted
    · rename_i valid
      obtain ⟨found, last, same⟩ := Option.bind_eq_some_iff.mp accepted
      obtain ⟨_, -, equal⟩ := Option.map_eq_some_iff.mp same
      cases equal
      rw [Option.or_none] at last
      exact List.all_eq_true.mp valid _ (List.mem_of_getLast? last)
    · cases accepted

def zeros : List Char := List.replicate 64 '0'

def headless : List Char := "oid sha256:".toList ++ zeros ++ "\nsize 1".toList

def plainPointer : List Char := "version x\n".toList ++ headless

theorem readers_agree_zeros :
    parseFromString plainPointer = .ok ⟨1, zeros, some .sha256⟩ ↔
      parseLfsPointerContent plainPointer = some (zeros, 1) :=
  (readers_agree plainPointer).2.2 [zeros] ["1".toList]
    ⟨rfl, rfl, rfl, by decide, by decide, fun _ => rfl, rfl⟩ zeros 1

theorem headless_differs :
    parseLfsPointerContent headless = some (zeros, 1) ∧
      ¬ parseFromString headless = .ok ⟨1, zeros, some .sha256⟩ := by
  refine ⟨rfl, fun accepted => ?_⟩
  obtain ⟨_, _, -, -, version, -⟩ := parseFromString_iff.mp accepted
  cases version

end Ziee.Git
