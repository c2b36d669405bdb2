/-
**The files of a conversation** (`available_files.rs`).

The files of the project, the attachments and the files that the model authored are collected by
their ids, and the files of one checksum are merged into the one seen first.

* `AvailableFile.fromFile`, `addSource`, `absorb` — an entry, one more source, a merged file.
* `mem_akaIds_absorbed`, `mem_source_absorbed` — the ids and the sources of a merged entry.
* **`dedup_placed`** — **every id is in exactly one entry**; `dedup_sources` — with the sources
  united.
* **`resolved_files`** — **the whole of it**, from the lists to the entries.
-/

import Ziee.Agent.Types
import Ziee.Library.Grouping

namespace Ziee.Files

open Grouping Ziee.Agent

inductive FileType
  | text
  | document
  | image
  | binary
  deriving DecidableEq, Repr

inductive FileSource
  | project
  | attachment
  | generated
  deriving DecidableEq, Repr

/-- The fields of a stored file that an entry is made of. -/
structure File where
  id : Uuid
  filename : String
  mimeType : Option String
  fileSize : Int
  textPageCount : Int
  createdAt : String
  checksum : Option String
  blobVersionId : Uuid
  deriving DecidableEq, Repr

structure AvailableFile where
  id : Uuid
  name : String
  aka : List String
  mimeType : Option String
  fileType : FileType
  text : Bool
  size : Int
  pages : Int
  source : List FileSource
  uploadedAt : String
  akaIds : List Uuid
  checksum : Option String
  blobVersionId : Uuid
  deriving DecidableEq, Repr

def isTextLike (mime : String) : Bool :=
  mime.startsWith "text/" ||
    ["application/json", "application/xml", "application/javascript", "application/x-yaml",
      "application/yaml", "application/x-ndjson"].contains mime

def isDocLike (mime : String) : Bool :=
  mime = "application/pdf" || mime.startsWith "application/vnd.openxmlformats-officedocument" ||
    mime.startsWith "application/vnd.oasis.opendocument" ||
    ["application/msword", "application/vnd.ms-excel"].contains mime

namespace AvailableFile

def fromFile (file : File) (source : FileSource) : AvailableFile :=
  let mime := file.mimeType.getD "application/octet-stream"
  let isImage := mime.startsWith "image/"
  let hasText := 0 < file.textPageCount || isTextLike mime
  { id := file.id
    name := file.filename
    aka := []
    mimeType := file.mimeType
    fileType :=
      if isImage then .image
      else if !hasText then .binary
      else if isDocLike mime then .document
      else .text
    text := hasText && !isImage
    size := file.fileSize
    pages := file.textPageCount
    source := [source]
    uploadedAt := file.createdAt
    akaIds := []
    checksum := file.checksum
    blobVersionId := file.blobVersionId }

def addSource (file : AvailableFile) (source : FileSource) : AvailableFile :=
  if file.source.contains source then file else { file with source := file.source ++ [source] }

/-- A merged file leaves its name, its id and its sources. -/
def absorb (c f : AvailableFile) : AvailableFile :=
  let named := if f.name ≠ c.name && !c.aka.contains f.name then
    { c with aka := c.aka ++ [f.name] } else c
  let known :=
    if f.id ≠ named.id && !named.akaIds.contains f.id then
      { named with akaIds := named.akaIds ++ [f.id] }
    else named
  f.source.foldl addSource known

def ids (file : AvailableFile) : List Uuid := file.id :: file.akaIds

end AvailableFile

open AvailableFile

/-- The key of the entries while they are collected. -/
def byId (file : AvailableFile) : Option Uuid := some file.id

def foundAgain (entry again : AvailableFile) : AvailableFile := again.source.foldl addSource entry

def ownedFiles (byUuid : Uuid → Option File) (list : List Uuid × FileSource) : List AvailableFile :=
  list.1.filterMap fun id => (byUuid id).map fun file => fromFile file list.2

/-- `by_id`: the owned files of the three lists, by their ids. -/
def collected (byUuid : Uuid → Option File) (projectIds attachmentIds authoredIds : List Uuid) :
    List AvailableFile :=
  gather byId foundAgain
    ([(projectIds, FileSource.project), (attachmentIds, .attachment),
      (authoredIds, .generated)].flatMap
      (ownedFiles byUuid))

def dedupByChecksum (files : List AvailableFile) : List AvailableFile :=
  gather AvailableFile.checksum absorb files

/-- `by_uuid`: the owned files that were read. -/
def byUuid (files : List File) (id : Uuid) : Option File := files.find? (·.id == id)

/-- `resolve_available_files`, once the list of each source and the owned files are read. -/
def resolveAvailableFiles (files : List File) (fileIds : FileSource → List Uuid) :
    List AvailableFile :=
  dedupByChecksum
    (collected (byUuid files) (fileIds .project) (fileIds .attachment) (fileIds .generated))

/-! ### Merging -/

variable {files : List AvailableFile} {c f first entry : AvailableFile} {later : List AvailableFile}

@[simp] theorem addSource_id (source : FileSource) : (f.addSource source).id = f.id := by
  unfold addSource
  split <;> rfl

@[simp] theorem addSource_akaIds (source : FileSource) :
    (f.addSource source).akaIds = f.akaIds := by
  unfold addSource
  split <;> rfl

@[simp] theorem addSource_checksum (source : FileSource) :
    (f.addSource source).checksum = f.checksum := by
  unfold addSource
  split <;> rfl

@[simp] theorem addSource_text (source : FileSource) : (f.addSource source).text = f.text := by
  unfold addSource
  split <;> rfl

variable {source other : FileSource} {sources : List FileSource} {id : Uuid}

theorem mem_addSource :
    other ∈ (f.addSource source).source ↔ other ∈ f.source ∨ other = source := by
  unfold addSource
  split
  · rename_i there
    rw [List.contains_iff_mem] at there
    exact ⟨Or.inl, fun either => either.elim id fun same => same ▸ there⟩
  · simp

theorem addSources_keeps (sources : List FileSource) :
    (sources.foldl addSource f).id = f.id ∧ (sources.foldl addSource f).akaIds = f.akaIds ∧
      (sources.foldl addSource f).checksum = f.checksum ∧
      (sources.foldl addSource f).text = f.text := by
  induction sources generalizing f with
  | nil => exact ⟨rfl, rfl, rfl, rfl⟩
  | cons source sources ih => simpa using ih (f := f.addSource source)

theorem mem_addSources :
    other ∈ (sources.foldl addSource f).source ↔ other ∈ f.source ∨ other ∈ sources := by
  induction sources generalizing f with
  | nil => simp
  | cons source sources ih => rw [List.foldl_cons, ih, mem_addSource, List.mem_cons, or_assoc]

theorem addSources_self (within : sources ⊆ f.source) :
    sources.foldl addSource f = f := by
  induction sources with
  | nil => rfl
  | cons source sources ih =>
    obtain ⟨here, rest⟩ := List.cons_subset.mp within
    have same : f.addSource source = f := by
      rw [addSource, if_pos (List.contains_iff_mem.mpr here)]
    rw [List.foldl_cons, same, ih rest]

theorem absorb_self (f : AvailableFile) : f.absorb f = f := by
  have named : (f.name ≠ f.name && !f.aka.contains f.name) = false := by simp
  have known : (f.id ≠ f.id && !f.akaIds.contains f.id) = false := by simp
  unfold absorb
  dsimp only
  rw [if_neg (Bool.eq_false_iff.mp named), if_neg (Bool.eq_false_iff.mp known)]
  exact addSources_self (List.Subset.refl _)

theorem absorb_id : (c.absorb f).id = c.id := by
  unfold absorb
  dsimp only
  rw [(addSources_keeps f.source).1]
  split <;> split <;> rfl

theorem absorb_checksum (c f : AvailableFile) : (c.absorb f).checksum = c.checksum := by
  unfold absorb
  dsimp only
  rw [(addSources_keeps f.source).2.2.1]
  split <;> split <;> rfl

theorem absorb_text : (c.absorb f).text = c.text := by
  unfold absorb
  dsimp only
  rw [(addSources_keeps f.source).2.2.2]
  split <;> split <;> rfl

theorem mem_akaIds_absorb :
    id ∈ (c.absorb f).akaIds ↔ id ∈ c.akaIds ∨ (id = f.id ∧ f.id ≠ c.id) := by
  unfold absorb
  dsimp only
  rw [(addSources_keeps f.source).2.1]
  split <;> split <;> simp_all

theorem mem_source_absorb :
    source ∈ (c.absorb f).source ↔ source ∈ c.source ∨ source ∈ f.source := by
  unfold absorb
  dsimp only
  rw [mem_addSources]
  split <;> split <;> rfl

theorem absorbed_keeps : (later.foldl absorb first).id = first.id ∧
    (later.foldl absorb first).text = first.text := by
  induction later generalizing first with
  | nil => exact ⟨rfl, rfl⟩
  | cons f later ih =>
    rw [List.foldl_cons, ih.1, ih.2, absorb_id, absorb_text]
    exact ⟨rfl, rfl⟩

theorem mem_akaIds_absorbed : id ∈ (later.foldl absorb first).akaIds ↔
    id ∈ first.akaIds ∨ ∃ f ∈ later, id = f.id ∧ f.id ≠ first.id := by
  induction later generalizing first with
  | nil => simp
  | cons f later ih =>
    rw [List.foldl_cons, ih, mem_akaIds_absorb, absorb_id, List.exists_mem_cons_iff, or_assoc]

theorem mem_source_absorbed : source ∈ (later.foldl absorb first).source ↔
    source ∈ first.source ∨ ∃ f ∈ later, source ∈ f.source := by
  induction later generalizing first with
  | nil => simp
  | cons f later ih =>
    rw [List.foldl_cons, ih, mem_source_absorb, List.exists_mem_cons_iff, or_assoc]

/-! ### The merged list -/

theorem dedup_eq (files : List AvailableFile) : dedupByChecksum files =
    (firsts AvailableFile.checksum files).map (gathered AvailableFile.checksum absorb files) :=
  gather_eq absorb_checksum absorb_self files

theorem mem_ids_gathered :
    id ∈ (gathered AvailableFile.checksum absorb files first).ids ↔
      id ∈ first.ids ∨ ∃ f ∈ files, same AvailableFile.checksum first f = true ∧ id = f.id := by
  unfold gathered ids
  rw [List.mem_cons, List.mem_cons, absorbed_keeps.1, mem_akaIds_absorbed, or_assoc]
  simp only [List.mem_filter]
  constructor
  · rintro (own | aka | ⟨f, ⟨member, one⟩, here, -⟩)
    · exact Or.inl own
    · exact Or.inr (Or.inl aka)
    · exact Or.inr (Or.inr ⟨f, member, one, here⟩)
  · rintro (own | aka | ⟨f, member, one, here⟩)
    · exact Or.inl own
    · exact Or.inr (Or.inl aka)
    · by_cases itself : f.id = first.id
      · exact Or.inl (here.trans itself)
      · exact Or.inr (Or.inr ⟨f, ⟨member, one⟩, here, itself⟩)

/-- **The files have distinct ids.** -/
def Distinct (files : List AvailableFile) : Prop := (files.flatMap ids).Nodup

theorem Distinct.eq (distinct : Distinct files) (one : c ∈ files) (two : f ∈ files)
    (here : id ∈ c.ids) (there : id ∈ f.ids) : c = f := by
  by_contra apart
  have symmetric : Std.Symm (Function.onFun List.Disjoint ids) := ⟨fun _ _ => List.Disjoint.symm⟩
  exact (List.nodup_flatMap.mp distinct).2.forall one two apart here there

theorem Distinct.nodup (distinct : Distinct files) : files.Nodup := by
  refine (List.nodup_flatMap.mp distinct).2.imp ?_
  rintro c f disjoint rfl
  have own : c.id ∈ c.ids := List.mem_cons_self
  exact disjoint own own

theorem id_mem_gathered_iff (distinct : Distinct files) (member : f ∈ files)
    (kept : first ∈ firsts AvailableFile.checksum files) :
    f.id ∈ (gathered AvailableFile.checksum absorb files first).ids ↔
      first = f ∨ same AvailableFile.checksum first f = true := by
  have inside := (firsts_sublist _ files).subset kept
  have own : f.id ∈ f.ids := List.mem_cons_self
  rw [mem_ids_gathered]
  constructor
  · rintro (here | ⟨other, there, one, equal⟩)
    · exact Or.inl (distinct.eq inside member here own)
    · have itself : other.id ∈ other.ids := List.mem_cons_self
      exact Or.inr (distinct.eq there member itself (equal ▸ own) ▸ one)
  · rintro (rfl | one)
    · exact Or.inl own
    · exact Or.inr ⟨f, member, one, rfl⟩

/-- **Every id is in exactly one entry.** -/
theorem dedup_placed (distinct : Distinct files) (member : f ∈ files) :
    (dedupByChecksum files).countP (fun entry => f.id ∈ entry.ids) = 1 := by
  rw [dedup_eq, List.countP_map]
  refine countP_firsts distinct.nodup member _ fun first kept => ?_
  rw [Function.comp_apply, decide_eq_true_iff]
  exact id_mem_gathered_iff distinct member kept

/-- **The sources of the merged files are united.** -/
theorem dedup_sources (distinct : Distinct files) (there : entry ∈ dedupByChecksum files)
    (source : FileSource) :
    source ∈ entry.source ↔ ∃ f ∈ files, f.id ∈ entry.ids ∧ source ∈ f.source := by
  rw [dedup_eq] at there
  obtain ⟨first, kept, rfl⟩ := List.mem_map.mp there
  have inside := (firsts_sublist _ files).subset kept
  conv_lhs => rw [gathered, mem_source_absorbed]
  simp only [List.mem_filter]
  constructor
  · rintro (own | ⟨f, ⟨member, one⟩, has⟩)
    · exact ⟨first, inside, (id_mem_gathered_iff distinct inside kept).mpr (Or.inl rfl), own⟩
    · exact ⟨f, member, (id_mem_gathered_iff distinct member kept).mpr (Or.inr one), has⟩
  · rintro ⟨f, member, here, has⟩
    rcases (id_mem_gathered_iff distinct member kept).mp here with rfl | one
    · exact Or.inl has
    · exact Or.inr ⟨f, ⟨member, one⟩, has⟩

/-- **No two entries have one checksum.** -/
theorem dedup_checksums (files : List AvailableFile) : (dedupByChecksum files).Pairwise
    fun entry other => entry.checksum ≠ none → entry.checksum ≠ other.checksum := by
  rw [dedup_eq, List.pairwise_map]
  refine (firsts_pairwise _ files).imp ?_
  intro first later unlike
  rw [key_gathered absorb_checksum, key_gathered absorb_checksum]
  intro known equal
  obtain ⟨sum, keyed⟩ := Option.ne_none_iff_exists'.mp known
  have alike : same AvailableFile.checksum first later = true :=
    same_iff.mpr ⟨sum, keyed, equal ▸ keyed⟩
  exact Bool.noConfusion (alike.symm.trans unlike)

/-- **The order is that of the first files**: an entry has the id of the file that comes first of
its files, and the entries stand as these files do. -/
theorem dedup_order (distinct : Distinct files) :
    ((dedupByChecksum files).map AvailableFile.id).Sublist (files.map AvailableFile.id) ∧
      ∀ entry ∈ dedupByChecksum files,
        (files.find? fun f => f.id ∈ entry.ids).map AvailableFile.id = some entry.id := by
  rw [dedup_eq]
  constructor
  · have same : (firsts AvailableFile.checksum files).map
          (AvailableFile.id ∘ gathered AvailableFile.checksum absorb files) =
        (firsts AvailableFile.checksum files).map AvailableFile.id :=
      List.map_congr_left fun first _ => absorbed_keeps.1
    rw [List.map_map, same]
    exact (firsts_sublist _ files).map AvailableFile.id
  · intro entry there
    obtain ⟨first, kept, rfl⟩ := List.mem_map.mp there
    have inside := (firsts_sublist _ files).subset kept
    obtain ⟨before, after, split, apart⟩ := first_earliest kept
    have once := distinct.nodup
    rw [split, List.nodup_append] at once
    have found : (files.find? fun f => f.id ∈
      (gathered AvailableFile.checksum absorb files first).ids) =
        some first := by
      rw [List.find?_eq_some_iff_append]
      refine ⟨decide_eq_true ((id_mem_gathered_iff distinct inside kept).mpr (Or.inl rfl)), before,
        after,
        split, fun f early => ?_⟩
      have member : f ∈ files := split ▸ List.mem_append_left _ early
      rw [Bool.not_eq_true', decide_eq_false_iff_not, id_mem_gathered_iff distinct member kept]
      rintro (itself | one)
      · exact once.2.2 f early first List.mem_cons_self itself.symm
      · rw [same_comm] at one
        exact Bool.noConfusion (one.symm.trans (apart f early))
    rw [found, Option.map_some]
    exact congrArg some absorbed_keeps.1.symm

/-! ### What is collected -/

theorem foundAgain_keeps (entry again : AvailableFile) :
    byId (foundAgain entry again) = byId entry := congrArg some (addSources_keeps again.source).1

theorem foundAgain_self (file : AvailableFile) : foundAgain file file = file :=
  addSources_self (List.Subset.refl _)

theorem akaIds_foundAgain (first : AvailableFile) (later : List AvailableFile) :
    (later.foldl foundAgain first).akaIds = first.akaIds := by
  induction later generalizing first with
  | nil => rfl
  | cons file later ih =>
    rw [List.foldl_cons, ih]
    exact (addSources_keeps file.source).2.1

theorem mem_source_foundAgain {source : FileSource} {first : AvailableFile}
    {later : List AvailableFile} : source ∈ (later.foldl foundAgain first).source ↔
      source ∈ first.source ∨ ∃ f ∈ later, source ∈ f.source := by
  induction later generalizing first with
  | nil => simp
  | cons file later ih =>
    rw [List.foldl_cons, ih, foundAgain, mem_addSources, List.exists_mem_cons_iff, or_assoc]

section Collected

variable (files : List File) (fileIds : FileSource → List Uuid)

/-- The owned files of the lists, one after the other. -/
def listed : List AvailableFile :=
  [FileSource.project, .attachment, .generated].flatMap fun source =>
    ownedFiles (byUuid files) (fileIds source, source)

abbrev entries : List AvailableFile :=
  collected (byUuid files) (fileIds .project) (fileIds .attachment) (fileIds .generated)

theorem entries_eq : entries files fileIds = (firsts byId (listed files fileIds)).map
    (gathered byId foundAgain (listed files fileIds)) :=
  gather_eq foundAgain_keeps foundAgain_self _

variable {files fileIds} {f : AvailableFile}

theorem mem_listed : f ∈ listed files fileIds ↔ ∃ source file, f = fromFile file source ∧
    file.id ∈ fileIds source ∧ byUuid files file.id = some file := by
  rw [listed, List.mem_flatMap]
  refine exists_congr fun source => ?_
  have known : source ∈ [FileSource.project, .attachment, .generated] := by
    cases source <;> simp
  simp only [known, true_and, ownedFiles, List.mem_filterMap, Option.map_eq_some_iff]
  constructor
  · rintro ⟨id, member, file, found, rfl⟩
    obtain rfl : file.id = id := by simpa using List.find?_some found
    exact ⟨file, rfl, member, found⟩
  · rintro ⟨file, rfl, member, found⟩
    exact ⟨file.id, member, file, found, rfl⟩

theorem same_byId {first item : AvailableFile} :
    same byId first item = true ↔ item.id = first.id := by
  rw [same_iff]
  exact ⟨fun ⟨_, here, there⟩ => Option.some.inj (there.trans here.symm),
    fun equal => ⟨first.id, rfl, congrArg some equal⟩⟩

/-- **An entry that is collected** has merged no other one yet, and has the sources under which its
id was listed. -/
theorem mem_entries (there : f ∈ entries files fileIds) : f.ids = [f.id] ∧
    (∃ item ∈ listed files fileIds, item.id = f.id) ∧
    ∀ source, source ∈ f.source ↔
      ∃ item ∈ listed files fileIds, item.id = f.id ∧ source ∈ item.source := by
  rw [entries_eq] at there
  obtain ⟨first, kept, rfl⟩ := List.mem_map.mp there
  have inside := (firsts_sublist byId _).subset kept
  have same : (gathered byId foundAgain (listed files fileIds) first).id = first.id :=
    Option.some.inj (key_gathered foundAgain_keeps _ first)
  refine ⟨?_, ⟨first, inside, same.symm⟩, fun source => ?_⟩
  · obtain ⟨source, file, rfl, -⟩ := mem_listed.mp inside
    unfold ids
    rw [same, gathered, akaIds_foundAgain]
    rfl
  · rw [same, gathered, mem_source_foundAgain]
    simp only [List.mem_filter, same_byId]
    constructor
    · rintro (own | ⟨item, ⟨member, equal⟩, has⟩)
      · exact ⟨first, inside, rfl, own⟩
      · exact ⟨item, member, equal, has⟩
    · rintro ⟨item, member, equal, has⟩
      exact Or.inr ⟨item, ⟨member, equal⟩, has⟩

theorem exists_entry (member : f ∈ listed files fileIds) :
    ∃ entry ∈ entries files fileIds, entry.id = f.id := by
  obtain ⟨first, kept, found⟩ := exists_first byId member
  rw [entries_eq]
  refine ⟨_, List.mem_map_of_mem kept, ?_⟩
  refine (Option.some.inj (key_gathered foundAgain_keeps _ first)).trans ?_
  rcases found with rfl | alike
  · rfl
  · exact (same_byId.mp alike).symm

/-- **What is collected has distinct ids.** -/
theorem entries_distinct : Distinct (entries files fileIds) := by
  have whole : (entries files fileIds).flatMap ids =
      (entries files fileIds).flatMap fun f => [f.id] :=
    List.flatMap_congr fun f there => (mem_entries there).1
  rw [Distinct, whole, ← List.map_eq_flatMap, entries_eq, List.map_map]
  refine List.pairwise_map.mpr ((firsts_pairwise byId _).imp ?_)
  intro first later unlike equal
  have keys := fun item =>
    Option.some.inj (key_gathered foundAgain_keeps (listed files fileIds) item)
  have alike : same byId first later = true :=
    same_byId.mpr ((keys later).symm.trans (equal.symm.trans (keys first)))
  exact Bool.noConfusion (alike.symm.trans unlike)

/-- An id of an entry is that of a file that was collected. -/
theorem id_of_resolved {id : Uuid} (there : entry ∈ resolveAvailableFiles files fileIds)
    (member : id ∈ entry.ids) : ∃ f ∈ entries files fileIds, f.id = id := by
  rw [resolveAvailableFiles, dedup_eq] at there
  obtain ⟨first, kept, rfl⟩ := List.mem_map.mp there
  have inside := (firsts_sublist _ _).subset kept
  rcases mem_ids_gathered.mp member with own | ⟨f, here, -, rfl⟩
  · rw [(mem_entries inside).1] at own
    exact ⟨first, inside, (List.mem_singleton.mp own).symm⟩
  · exact ⟨f, here, rfl⟩

end Collected

/-- **The files of a conversation**, whatever the lists repeat: an id stands in one entry when it is
listed and its file is owned, else in none; an entry has the sources under which one of its ids is
listed. -/
theorem resolved_files (files : List File) (fileIds : FileSource → List Uuid) :
    (∀ id, (∃ source, id ∈ fileIds source) → id ∈ files.map File.id →
      (resolveAvailableFiles files fileIds).countP (fun entry => id ∈ entry.ids) = 1) ∧
    ∀ entry ∈ resolveAvailableFiles files fileIds,
      (∀ id ∈ entry.ids, (∃ source, id ∈ fileIds source) ∧ id ∈ files.map File.id) ∧
      ∀ source, source ∈ entry.source ↔ ∃ id ∈ entry.ids, id ∈ fileIds source := by
  constructor
  · rintro id ⟨source, there⟩ owned
    obtain ⟨file, found⟩ : ∃ file, byUuid files id = some file := by
      obtain ⟨file, member, rfl⟩ := List.mem_map.mp owned
      exact Option.isSome_iff_exists.mp (List.find?_isSome.mpr ⟨file, member, BEq.rfl⟩)
    obtain rfl : file.id = id := by simpa using List.find?_some found
    obtain ⟨f, here, same⟩ := exists_entry (mem_listed.mpr ⟨source, file, rfl, there, found⟩)
    have placed := dedup_placed entries_distinct here
    rwa [same] at placed
  · refine fun entry there => ⟨fun id member => ?_, fun source => ?_⟩
    · obtain ⟨f, here, rfl⟩ := id_of_resolved there member
      obtain ⟨item, inside, same⟩ := (mem_entries here).2.1
      obtain ⟨source, file, rfl, listed, found⟩ := mem_listed.mp inside
      rw [← same]
      exact ⟨⟨source, listed⟩, List.mem_map_of_mem (List.mem_of_find?_eq_some found)⟩
    · rw [dedup_sources entries_distinct there]
      constructor
      · rintro ⟨f, here, member, has⟩
        obtain ⟨item, inside, same, has⟩ := ((mem_entries here).2.2 source).mp has
        obtain ⟨other, file, rfl, listed, -⟩ := mem_listed.mp inside
        obtain rfl := List.mem_singleton.mp has
        exact ⟨f.id, member, same ▸ listed⟩
      · rintro ⟨id, member, listed⟩
        obtain ⟨f, here, rfl⟩ := id_of_resolved there member
        obtain ⟨item, inside, same⟩ := (mem_entries here).2.1
        obtain ⟨other, file, rfl, -, found⟩ := mem_listed.mp inside
        have again : fromFile file source ∈ Files.listed files fileIds :=
          mem_listed.mpr ⟨source, file, rfl, (show file.id = f.id from same) ▸ listed, found⟩
        exact ⟨f, here, member,
          ((mem_entries here).2.2 source).mpr ⟨_, again, same, List.mem_singleton_self source⟩⟩

end Ziee.Files
