/-
**The links and the files of a tool result agree** (`mcp/resource_link.rs`).

A file that cannot be tied to its run is deleted again, when its link is stamped already.

* `taken`, `reference`, `hostRead` — what the loop makes of one link.
* `stampLinks_at`, `stampLinks_apart` — which links are stamped.
* `mem_saved`, `mem_files` — what the outcome lists, and which files are left.
* **`persistLinks_consistent_iff`** — what is left is consistent **when every file that was taken in
  is tied to the run**, and no name is a path of the host.
-/

import Ziee.Mcp.ResourceLinks

namespace Ziee.Mcp

open Ziee.Agent (Uuid)

def taken (call : Call) (answers : Answers) (link : ResourceLink) : Option StoredFile :=
  if link.isSaved = some true then none
  else
    match stripScheme link.uri with
    | some hostPath =>
      (guardedPath call answers hostPath).bind fun path =>
        (answers.readFile path).bind fun bytes =>
          saveBytesAsArtifact call answers link bytes link.mimeType
    | none =>
      (fetchLink call answers link).bind fun fetched =>
        saveBytesAsArtifact call answers link fetched.1 fetched.2

/-- The entry of a link whose file was there before. -/
def reference (link : ResourceLink) : Option (String × String) :=
  if link.isSaved = some true ∧ isZieeHostPath link.uri = false then
    some (displayName link, link.uri)
  else none

def hostRead (call : Call) (answers : Answers) (link : ResourceLink) : Option HostPath :=
  if link.isSaved = some true then none
  else (stripScheme link.uri).bind (guardedPath call answers)

def takenAt (call : Call) (answers : Nat → Answers) (index : Nat) (link : ResourceLink) :
    List PersistedArtifact :=
  ((taken call (answers index) link).map (artifactOf index link)).toList

def takenFrom (call : Call) (answers : Nat → Answers) : Nat → List ResourceLink →
    List PersistedArtifact
  | _, [] => []
  | index, link :: rest => takenAt call answers index link ++ takenFrom call answers
    (index + 1) rest

def readFrom (call : Call) (answers : Nat → Answers) : Nat → List ResourceLink → List HostPath
  | _, [] => []
  | index, link :: rest =>
    (hostRead call (answers index) link).toList ++ readFrom call answers (index + 1) rest

section Loop

variable {call : Call} {answers : Nat → Answers} {index : Nat} {link : ResourceLink}
  {links : List ResourceLink} {progress : Progress} {artifact : PersistedArtifact}

theorem save_eq (file : Option StoredFile) : progress.save index link file =
    { outcome :=
        { saved := progress.outcome.saved ++ (file.map (artifactOf index link)).toList
          referenced := progress.outcome.referenced }
      files := (file.map StoredFile.id).toList ++ progress.files
      reads := progress.reads } := by
  cases file with
  | none => simp [Progress.save]
  | some file => rfl

theorem saveLink_eq (call : Call) (answers : Nat → Answers) (index : Nat) (link : ResourceLink)
    (progress : Progress) : saveLink call (answers index) index link progress =
    { outcome :=
        { saved := progress.outcome.saved ++ takenAt call answers index link
          referenced := progress.outcome.referenced ++ (reference link).toList }
      files := ((taken call (answers index) link).map StoredFile.id).toList ++ progress.files
      reads := progress.reads ++ (hostRead call (answers index) link).toList } := by
  unfold saveLink takenAt taken reference hostRead
  by_cases saved : link.isSaved = some true
  · rw [if_pos saved, if_pos saved, if_pos saved]
    by_cases host : isZieeHostPath link.uri = true
    · rw [if_pos host, if_neg (fun both => Bool.noConfusion (both.2.symm.trans host))]
      simp
    · rw [if_neg host, if_pos ⟨saved, Bool.eq_false_iff.mpr host⟩]
      simp
  · rw [if_neg saved, if_neg saved, if_neg saved, if_neg (fun both => saved both.1)]
    cases scheme : stripScheme link.uri with
    | some hostPath =>
      cases guarded : guardedPath call (answers index) hostPath with
      | none => simp [guarded]
      | some path =>
        cases read : (answers index).readFile path with
        | none => simp [guarded, read]
        | some bytes => simp [guarded, read, save_eq]
    | none =>
      cases fetched : fetchLink call (answers index) link with
      | none => simp
      | some both => simp [save_eq]

theorem takenAt_fileId : (takenAt call answers index link).map PersistedArtifact.fileId =
    ((taken call (answers index) link).map StoredFile.id).toList := by
  unfold takenAt
  cases taken call (answers index) link with
  | none | some => rfl

theorem takenAt_reverse {β : Type} (f : PersistedArtifact → β) :
    ((takenAt call answers index link).map f).reverse =
    (takenAt call answers index link).map f := by
  unfold takenAt
  cases taken call (answers index) link with
  | none | some => rfl

/-- **The loop.** -/
theorem saveLinks_eq (links : List ResourceLink) : ∀ (index : Nat) (progress : Progress),
    saveLinks call answers index links progress =
      { outcome :=
          { saved := progress.outcome.saved ++ takenFrom call answers index links
            referenced := progress.outcome.referenced ++ links.filterMap reference }
        files := ((takenFrom call answers index links).map PersistedArtifact.fileId).reverse ++
          progress.files
        reads := progress.reads ++ readFrom call answers index links } := by
  induction links with
  | nil =>
    intro index progress
    simp [saveLinks, takenFrom, readFrom]
  | cons link rest ih =>
    intro index progress
    have entries : (link :: rest).filterMap reference =
        (reference link).toList ++ rest.filterMap reference := by
      cases entry : reference link with
      | none | some => simp [entry]
    rw [saveLinks, ih, saveLink_eq, takenFrom, readFrom, entries, List.map_append,
      List.reverse_append, takenAt_reverse, takenAt_fileId]
    simp only [List.append_assoc]

theorem mem_takenFrom : artifact ∈ takenFrom call answers index links ↔ ∃ i link file,
    links[i]? = some link ∧ taken call (answers (index + i)) link = some file ∧
      artifact = artifactOf (index + i) link file := by
  induction links generalizing index with
  | nil => simp [takenFrom]
  | cons link rest ih =>
    rw [takenFrom, List.mem_append, ih]
    constructor
    · rintro (now | ⟨i, later, file, there, took, same⟩)
      · obtain ⟨file, took, same⟩ := Option.map_eq_some_iff.mp (Option.mem_toList.mp now)
        exact ⟨0, link, file, rfl, took, same.symm⟩
      · refine ⟨i + 1, later, file, there, ?_, ?_⟩
        · rwa [← Nat.add_assoc, Nat.add_right_comm]
        · rwa [← Nat.add_assoc, Nat.add_right_comm]
    · rintro ⟨i, later, file, there, took, same⟩
      cases i with
      | zero =>
        cases there
        exact Or.inl (Option.mem_toList.mpr (Option.map_eq_some_iff.mpr ⟨file, took, same.symm⟩))
      | succ i =>
        refine Or.inr ⟨i, later, file, there, ?_, ?_⟩
        · rwa [Nat.add_right_comm, Nat.add_assoc]
        · rwa [Nat.add_right_comm, Nat.add_assoc]

theorem mem_readFrom {path : HostPath} (read : path ∈ readFrom call answers index links) :
    ∃ i link, links[i]? = some link ∧ hostRead call (answers (index + i)) link = some path := by
  induction links generalizing index with
  | nil => cases read
  | cons link rest ih =>
    rw [readFrom] at read
    rcases List.mem_append.mp read with now | later
    · exact ⟨0, link, rfl, Option.mem_toList.mp now⟩
    · obtain ⟨i, link', there, same⟩ := ih later
      refine ⟨i + 1, link', there, ?_⟩
      rwa [← Nat.add_assoc, Nat.add_right_comm]

theorem takenFrom_nodup : ((takenFrom call answers index links).map
    PersistedArtifact.linkIdx).Nodup := by
  induction links generalizing index with
  | nil => exact List.nodup_nil
  | cons link rest ih =>
    rw [takenFrom, takenAt]
    cases taken call (answers index) link with
    | none => exact ih
    | some file =>
      refine List.nodup_cons.mpr ⟨fun again => ?_, ih⟩
      obtain ⟨artifact, later, same⟩ := List.mem_map.mp again
      obtain ⟨i, link', file', -, -, rfl⟩ := mem_takenFrom.mp later
      have same : index + 1 + i = index := same
      omega

end Loop

/-! ### Stamps -/

section Stamps

variable {saved : List PersistedArtifact} {artifact : PersistedArtifact} {links : List ResourceLink}
  {index : Nat}

theorem stampLinks_cons : stampLinks (artifact :: saved) links =
    stampLinks saved (links.modify artifact.linkIdx (stamp artifact)) := rfl

theorem stampLinks_apart (apart : ∀ other ∈ saved, other.linkIdx ≠ index) :
    (stampLinks saved links)[index]? = links[index]? := by
  induction saved generalizing links with
  | nil => rfl
  | cons first rest ih =>
    rw [stampLinks_cons, ih fun other member => apart other (List.mem_cons_of_mem first member),
      List.getElem?_modify_ne _ _ (apart first List.mem_cons_self)]

theorem stampLinks_at (distinct : (saved.map PersistedArtifact.linkIdx).Nodup)
    (member : artifact ∈ saved) : (stampLinks saved links)[artifact.linkIdx]? =
      links[artifact.linkIdx]?.map (stamp artifact) := by
  induction saved generalizing links with
  | nil => cases member
  | cons first rest ih =>
    obtain ⟨unlike, distinct⟩ := List.nodup_cons.mp distinct
    rw [stampLinks_cons]
    rcases List.mem_cons.mp member with rfl | later
    · rw [stampLinks_apart fun other there same => unlike (List.mem_map.mpr ⟨other, there, same⟩),
        List.getElem?_modify_eq]
      rfl
    · rw [ih distinct later, List.getElem?_modify_ne]
      exact fun same => unlike (List.mem_map.mpr ⟨artifact, later, same.symm⟩)

end Stamps

/-! ### Files that are tied to the run, or deleted -/

section Ties

variable {answers : Nat → Answers} {artifact : PersistedArtifact} {saved : List PersistedArtifact}
  {state : List Uuid × List Uuid} {id : Uuid}

/-- The artifact's file could not be tied to the run. -/
def Untied (answers : Nat → Answers) (artifact : PersistedArtifact) : Prop :=
  (answers artifact.linkIdx).linked = false

def Deleted (answers : Nat → Answers) (artifact : PersistedArtifact) : Prop :=
  Untied answers artifact ∧ (answers artifact.linkIdx).deleted = true

theorem mem_tieFile_files : id ∈ (tieFile answers state artifact).1 ↔
    id ∈ state.1 ∧ (Deleted answers artifact → artifact.fileId ≠ id) := by
  unfold tieFile Deleted Untied
  cases linked : (answers artifact.linkIdx).linked with
  | true => simp
  | false =>
    cases deleted : (answers artifact.linkIdx).deleted with
    | true =>
      have other : artifact.fileId ≠ id ↔ id ≠ artifact.fileId := ne_comm
      simp [other]
    | false => simp

theorem mem_tieFile_orphans : id ∈ (tieFile answers state artifact).2 ↔
    id ∈ state.2 ∨ Untied answers artifact ∧ artifact.fileId = id := by
  unfold tieFile Untied
  cases linked : (answers artifact.linkIdx).linked with
  | true => simp
  | false =>
    have same : artifact.fileId = id ↔ id = artifact.fileId := eq_comm
    simp [same]

theorem mem_tied_files : id ∈ (saved.foldl (tieFile answers) state).1 ↔
    id ∈ state.1 ∧ ∀ artifact ∈ saved, Deleted answers artifact → artifact.fileId ≠ id := by
  induction saved generalizing state with
  | nil => simp
  | cons first rest ih =>
    rw [List.foldl_cons, ih, mem_tieFile_files, List.forall_mem_cons, and_assoc]

theorem mem_tied_orphans : id ∈ (saved.foldl (tieFile answers) state).2 ↔
    id ∈ state.2 ∨ ∃ artifact ∈ saved, Untied answers artifact ∧ artifact.fileId = id := by
  induction saved generalizing state with
  | nil => simp
  | cons first rest ih =>
    rw [List.foldl_cons, ih, mem_tieFile_orphans]
    simp only [List.mem_cons, exists_eq_or_imp, or_assoc]

end Ties

/-! ### What should hold -/

section Call

variable (call : Call) {files : List Uuid} (world : World files) (links : List ResourceLink)

def takenIn : List PersistedArtifact :=
  (saveLinks call world.answers 0 links (started files)).outcome.saved

def blanked (link : ResourceLink) : ResourceLink :=
  if isZieeHostPath link.uri then { link with uri := "" } else link

def Refers (files : List Uuid) (uri : String) (link : ResourceLink) : Prop :=
  ∃ id ∈ files, link.fileId = some id ∧ (link.uri = uri ∨ link.uri = fileUri id)

/-- **Links, outcome and files agree** when the call returns. -/
structure Consistent : Prop where
  linkUris : ∀ link ∈ (persistLinks call world links).links, isZieeHostPath link.uri = false
  savedEntries : ∀ artifact ∈ (persistLinks call world links).outcome.saved,
    isZieeHostPath artifact.filename = false ∧ artifact.mimeType.any isZieeHostPath = false
  referencedEntries : ∀ entry ∈ (persistLinks call world links).outcome.referenced,
    isZieeHostPath entry.1 = false ∧ isZieeHostPath entry.2 = false
  reads : ∀ path ∈ (persistLinks call world links).reads,
    isTrustedResourceEmitter call.serverId = true ∧ ∃ index < links.length,
      underSomeRoot (world.answers index).canonicalize path call.allowedRoots = true
  listed : ∀ id, (∃ artifact ∈ (persistLinks call world links).outcome.saved,
    artifact.fileId = id) ↔
    id ∈ (persistLinks call world links).files ∧ id ∉ files
  stamped : ∀ artifact ∈ takenIn call world links, ∀ before link,
    links[artifact.linkIdx]? = some before →
      (persistLinks call world links).links[artifact.linkIdx]? = some link →
        Refers (persistLinks call world links).files before.uri link
  unstamped : ∀ index before, links[index]? = some before →
    (∀ artifact ∈ takenIn call world links, artifact.linkIdx ≠ index) →
      (persistLinks call world links).links[index]? = some (blanked before)

structure Steady : Prop where
  tied : call.workflowRunId.isSome = true → ∀ (index : Nat) (link : ResourceLink),
    links[index]? = some link → (taken call (world.answers index) link).isSome = true →
      (world.answers index).linked = true
  names : ∀ (index : Nat) (link : ResourceLink) (file : StoredFile), links[index]? = some link →
    taken call (world.answers index) link = some file →
      isZieeHostPath (displayName link) = false ∧ file.mimeType.any isZieeHostPath = false
  references : ∀ link ∈ links, link.isSaved = some true → isZieeHostPath link.uri = false →
    isZieeHostPath (displayName link) = false

end Call

section Call

variable {call : Call} {files : List Uuid} {world : World files} {links : List ResourceLink}
  {artifact other : PersistedArtifact} {id : Uuid}

theorem takenIn_eq : takenIn call world links = takenFrom call world.answers 0 links := by
  rw [takenIn, saveLinks_eq]
  rfl

theorem mem_takenIn : artifact ∈ takenIn call world links ↔ ∃ i link file,
    links[i]? = some link ∧ taken call (world.answers i) link = some file ∧
      artifact = artifactOf i link file := by
  rw [takenIn_eq, mem_takenFrom]
  simp only [Nat.zero_add]

theorem taken_ingested {answers : Answers} {link : ResourceLink} {file : StoredFile}
    (took : taken call answers link = some file) : ∃ request,
      answers.ingestBytes request = some file := by
  unfold taken at took
  split at took
  · cases took
  · split at took
    · obtain ⟨path, -, took⟩ := Option.bind_eq_some_iff.mp took
      obtain ⟨bytes, -, took⟩ := Option.bind_eq_some_iff.mp took
      exact ⟨_, took⟩
    · obtain ⟨fetched, -, took⟩ := Option.bind_eq_some_iff.mp took
      exact ⟨_, took⟩

theorem takenIn_fresh (member : artifact ∈ takenIn call world links) : artifact.fileId ∉ files := by
  obtain ⟨i, link, file, -, took, rfl⟩ := mem_takenIn.mp member
  obtain ⟨request, ingested⟩ := taken_ingested took
  exact world.fresh i request file ingested

theorem takenIn_unique (one : artifact ∈ takenIn call world links)
    (two : other ∈ takenIn call world links) (same : artifact.fileId = other.fileId) :
    artifact = other := by
  obtain ⟨i, link, file, there, took, rfl⟩ := mem_takenIn.mp one
  obtain ⟨j, link', file', there', took', rfl⟩ := mem_takenIn.mp two
  obtain ⟨request, ingested⟩ := taken_ingested took
  obtain ⟨request', ingested'⟩ := taken_ingested took'
  obtain rfl := world.distinct i j request request' file file' ingested ingested' same
  cases there.symm.trans there'
  cases took.symm.trans took'
  rfl

theorem mem_saved : artifact ∈ (persistLinks call world links).outcome.saved ↔
    artifact ∈ takenIn call world links ∧
      (call.workflowRunId.isSome = true → ¬Untied world.answers artifact) := by
  show artifact ∈ (takenIn call world links).filter (fun artifact => !(tieToRun world.answers
    call.workflowRunId (takenIn call world links) _).2.contains artifact.fileId) ↔ _
  rw [List.mem_filter]
  refine and_congr_right fun member => ?_
  rw [Bool.not_eq_true', ← Bool.not_eq_true, List.contains_iff_mem]
  cases call.workflowRunId with
  | none => simp [tieToRun]
  | some run =>
    rw [tieToRun, mem_tied_orphans]
    refine Iff.trans (not_congr ?_) ⟨fun holds _ => holds, fun holds => holds rfl⟩
    constructor
    · rintro (none | ⟨other, there, untied, same⟩)
      · cases none
      · rwa [← takenIn_unique there member same]
    · exact fun untied => Or.inr ⟨artifact, member, untied, rfl⟩

theorem mem_files : id ∈ (persistLinks call world links).files ↔
    (id ∈ files ∨ ∃ artifact ∈ takenIn call world links, artifact.fileId = id) ∧
      (call.workflowRunId.isSome = true →
        ∀ artifact ∈ takenIn call world links, Deleted world.answers artifact →
          artifact.fileId ≠ id) := by
  have before : id ∈ (saveLinks call world.answers 0 links (started files)).files ↔
      id ∈ files ∨ ∃ artifact ∈ takenIn call world links, artifact.fileId = id := by
    rw [saveLinks_eq, takenIn_eq, List.mem_append, List.mem_reverse, List.mem_map, or_comm]
    rfl
  show id ∈ (tieToRun world.answers call.workflowRunId (takenIn call world links)
    (saveLinks call world.answers 0 links (started files)).files).1 ↔ _
  rw [← before]
  cases call.workflowRunId with
  | none => simp [tieToRun]
  | some run =>
    rw [tieToRun, mem_tied_files]
    exact and_congr_right fun _ => ⟨fun holds _ => holds, fun holds => holds rfl⟩

/-! ### Paths of the host -/

theorem fileUri_apart (id : Uuid) : isZieeHostPath (fileUri id) = false := by
  have slash : (fileUri id).toList = '/' :: ("api/files/" ++ id.display).toList := by
    rw [fileUri, String.toList_append, String.toList_append]
    rfl
  rw [isZieeHostPath, stripScheme, slash]
  rfl

theorem blanked_apart (link : ResourceLink) : isZieeHostPath (blanked link).uri = false := by
  unfold blanked
  split
  · rfl
  · rename_i apart
    exact Bool.eq_false_iff.mpr apart

theorem blanked_eq {link : ResourceLink} (apart : isZieeHostPath link.uri = false) :
    blanked link = link := by
  rw [blanked, if_neg (Bool.eq_false_iff.mp apart)]

theorem guardedPath_some {answers : Answers} {hostPath : String} {path : HostPath}
    (guarded : guardedPath call answers hostPath = some path) :
    isTrustedResourceEmitter call.serverId = true ∧
      underSomeRoot answers.canonicalize path call.allowedRoots = true := by
  unfold guardedPath at guarded
  split at guarded
  · split at guarded
    · rename_i trusted
      refine ⟨trusted, ?_⟩
      unfold confineUnderRoots at guarded
      cases canonical : answers.canonicalize hostPath with
      | none =>
        rw [canonical] at guarded
        cases guarded
      | some canonPath =>
        rw [canonical] at guarded
        dsimp only at guarded
        by_cases under : underSomeRoot answers.canonicalize canonPath call.allowedRoots = true
        · rw [if_pos under] at guarded
          cases guarded
          exact under
        · rw [if_neg under] at guarded
          cases guarded
    · cases guarded
  · cases guarded

theorem mem_reads {path : HostPath} (read : path ∈ (persistLinks call world links).reads) :
    isTrustedResourceEmitter call.serverId = true ∧ ∃ index < links.length,
      underSomeRoot (world.answers index).canonicalize path call.allowedRoots = true := by
  have there : path ∈ readFrom call world.answers 0 links := by
    have read : path ∈ (saveLinks call world.answers 0 links (started files)).reads := read
    rwa [saveLinks_eq, started, List.nil_append] at read
  obtain ⟨index, link, at_, reads⟩ := mem_readFrom there
  rw [Nat.zero_add] at reads
  unfold hostRead at reads
  split at reads
  · cases reads
  · obtain ⟨hostPath, -, guarded⟩ := Option.bind_eq_some_iff.mp reads
    obtain ⟨trusted, under⟩ := guardedPath_some guarded
    exact ⟨trusted, index, (List.getElem?_eq_some_iff.mp at_).1, under⟩

theorem mem_referenced {entry : String × String} :
    entry ∈ (persistLinks call world links).outcome.referenced ↔
      ∃ link ∈ links, link.isSaved = some true ∧ isZieeHostPath link.uri = false ∧
        entry = (displayName link, link.uri) := by
  have all : (persistLinks call world links).outcome.referenced = links.filterMap reference := by
    show (saveLinks call world.answers 0 links (started files)).outcome.referenced = _
    rw [saveLinks_eq]
    rfl
  rw [all, List.mem_filterMap]
  refine exists_congr fun link => and_congr_right fun _ => ?_
  rw [reference, Option.ite_none_right_eq_some, and_assoc, Option.some.injEq]
  exact and_congr_right fun _ => and_congr_right fun _ => eq_comm

/-! ### The links -/

theorem links_eq : (persistLinks call world links).links =
    (stampLinks (takenIn call world links) links).map blanked := rfl

theorem stamp_uri (artifact : PersistedArtifact) (link : ResourceLink) :
    isZieeHostPath (stamp artifact link).uri = false ∧
      ((stamp artifact link).uri = link.uri ∨
        (stamp artifact link).uri = fileUri artifact.fileId) := by
  by_cases host : isZieeHostPath link.uri = true
  · have stamped : (stamp artifact link).uri = fileUri artifact.fileId := if_pos host
    rw [stamped]
    exact ⟨fileUri_apart artifact.fileId, Or.inr rfl⟩
  · have stamped : (stamp artifact link).uri = link.uri := if_neg host
    rw [stamped]
    exact ⟨Bool.eq_false_iff.mpr host, Or.inl rfl⟩

theorem links_stamped (member : artifact ∈ takenIn call world links) {before : ResourceLink}
    (old : links[artifact.linkIdx]? = some before) :
    (persistLinks call world links).links[artifact.linkIdx]? = some (stamp artifact before) := by
  have distinct : ((takenIn call world links).map PersistedArtifact.linkIdx).Nodup := by
    rw [takenIn_eq]
    exact takenFrom_nodup
  rw [links_eq, List.getElem?_map, stampLinks_at distinct member, old, Option.map_some,
    Option.map_some, blanked_eq (stamp_uri artifact before).1]

theorem links_unstamped {index : Nat} {before : ResourceLink} (old : links[index]? = some before)
    (apart : ∀ artifact ∈ takenIn call world links, artifact.linkIdx ≠ index) :
    (persistLinks call world links).links[index]? = some (blanked before) := by
  rw [links_eq, List.getElem?_map, stampLinks_apart apart, old, Option.map_some]

/-! ### Every call -/

theorem Consistent.tied (consistent : Consistent call world links)
    (run : call.workflowRunId.isSome = true) (member : artifact ∈ takenIn call world links) :
    ¬Untied world.answers artifact := by
  intro untied
  by_cases deleted : Deleted world.answers artifact
  · -- the file is gone, and the link is stamped with it
    obtain ⟨index, before, file, old, -, here⟩ := mem_takenIn.mp member
    have at_ : links[artifact.linkIdx]? = some before := here ▸ old
    obtain ⟨id, there, same, -⟩ :=
      consistent.stamped artifact member before _ at_ (links_stamped member at_)
    exact (mem_files.mp there).2 run artifact member deleted (Option.some.inj same)
  · -- the file is there, and the outcome does not list it
    have there : artifact.fileId ∈ (persistLinks call world links).files := by
      refine mem_files.mpr ⟨Or.inr ⟨artifact, member, rfl⟩, fun _ other member' gone same => ?_⟩
      exact deleted (takenIn_unique member' member same ▸ gone)
    obtain ⟨other, kept, same⟩ := (consistent.listed _).mpr ⟨there, takenIn_fresh member⟩
    obtain ⟨member', tied⟩ := mem_saved.mp kept
    exact tied run (takenIn_unique member' member same ▸ untied)

theorem Consistent.steady (consistent : Consistent call world links) : Steady call world links := by
  have member {index : Nat} {link : ResourceLink} {file : StoredFile}
    (there : links[index]? = some link)
      (took : taken call (world.answers index) link = some file) :
      artifactOf index link file ∈ takenIn call world links :=
    mem_takenIn.mpr ⟨index, link, file, there, took, rfl⟩
  refine ⟨fun run index link there took => ?_, fun index link file there took => ?_,
    fun link there saved apart => ?_⟩
  · obtain ⟨file, took⟩ := Option.isSome_iff_exists.mp took
    exact Bool.of_not_eq_false (consistent.tied run (member there took))
  · have kept := mem_saved.mpr ⟨member there took, fun run =>
      consistent.tied run (member there took)⟩
    exact consistent.savedEntries (artifactOf index link file) kept
  · exact (consistent.referencedEntries _ (mem_referenced.mpr ⟨link, there, saved, apart, rfl⟩)).1

theorem Steady.tied_at (steady : Steady call world links) (run : call.workflowRunId.isSome = true)
    (member : artifact ∈ takenIn call world links) : ¬Untied world.answers artifact := by
  obtain ⟨index, link, file, there, took, rfl⟩ := mem_takenIn.mp member
  have linked := steady.tied run index link there (Option.isSome_iff_exists.mpr ⟨file, took⟩)
  exact fun untied => Bool.noConfusion (linked.symm.trans untied)

theorem Steady.mem_files (steady : Steady call world links) :
    id ∈ (persistLinks call world links).files ↔
      id ∈ files ∨ ∃ artifact ∈ takenIn call world links, artifact.fileId = id := by
  rw [Mcp.mem_files]
  refine ⟨And.left, fun there => ⟨there, fun run artifact member gone _ => ?_⟩⟩
  exact steady.tied_at run member gone.1

theorem Steady.mem_saved (steady : Steady call world links) :
    artifact ∈ (persistLinks call world links).outcome.saved ↔
      artifact ∈ takenIn call world links := by
  rw [Mcp.mem_saved]
  exact ⟨And.left, fun member => ⟨member, fun run => steady.tied_at run member⟩⟩

theorem Steady.consistent (steady : Steady call world links) : Consistent call world links where
  linkUris := by
    intro link there
    rw [links_eq] at there
    obtain ⟨before, -, rfl⟩ := List.mem_map.mp there
    exact blanked_apart before
  savedEntries := by
    intro artifact kept
    obtain ⟨index, link, file, there, took, rfl⟩ := mem_takenIn.mp (steady.mem_saved.mp kept)
    exact steady.names index link file there took
  referencedEntries := by
    intro entry there
    obtain ⟨link, member, saved, apart, rfl⟩ := mem_referenced.mp there
    exact ⟨steady.references link member saved apart, apart⟩
  reads _ read := mem_reads read
  listed := by
    intro id
    rw [steady.mem_files]
    constructor
    · rintro ⟨artifact, kept, rfl⟩
      have member := steady.mem_saved.mp kept
      exact ⟨Or.inr ⟨artifact, member, rfl⟩, takenIn_fresh member⟩
    · rintro ⟨before | ⟨artifact, member, same⟩, new⟩
      · exact absurd before new
      · exact ⟨artifact, steady.mem_saved.mpr member, same⟩
  stamped := by
    intro artifact member before link old new
    rw [links_stamped member old] at new
    cases new
    exact ⟨artifact.fileId, steady.mem_files.mpr (Or.inr ⟨artifact, member, rfl⟩), rfl,
      (stamp_uri artifact before).2⟩
  unstamped _ _ old apart := links_unstamped old apart

/-- **Links, outcome and files agree exactly when** every file that is taken in is tied to the run,
and no name of an entry is a path of the host. -/
theorem persistLinks_consistent_iff (call : Call) {files : List Uuid} (world : World files)
    (links : List ResourceLink) : Consistent call world links ↔ Steady call world links :=
  ⟨Consistent.steady, Steady.consistent⟩

end Call

def sandboxCall : Call where
  userId := 1
  conversationId := none
  messageId := none
  createdBy := "workflow"
  workflowRunId := some 2
  serverId := Chat.Approvals.codeSandboxServerId
  serverIsBuiltIn := true
  serverHeaders := .null
  trustedHosts := []
  allowedRoots := ["/ws/c"]
  jwtSecret := none
  jwtIssuer := none
  jwtAudience := none

def plotLink : ResourceLink where
  uri := "ziee:///ws/c/plot.png"
  name := some "plot.png"
  mimeType := some "image/png"
  size := some 2
  isSaved := some false
  fileId := none
  versionId := none
  version := none

def plotFile : StoredFile := ⟨7, 1, 8, some "image/png", 2⟩

/-- The file is read and taken in; its tie to the run fails, and it is deleted. -/
def untiedAnswers (file : Option StoredFile) : Answers where
  canonicalize path := if path = "/ws/c" then some ["ws", "c"] else some ["ws", "c", "plot.png"]
  readFile _ := some [137, 80]
  currentTokenVersion _ := .ok none
  generateShortLivedJwt _ _ _ _ _ _ := none
  isHeaderName _ := true
  isHeaderValue _ := true
  hostOf _ := none
  debugLoopback := false
  allowPrivateEnv := false
  validateOutboundUrl _ _ := true
  buildClient _ := true
  send _ _ := none
  ingestBytes _ := file
  linked := false
  deleted := true

def untiedWorld : World [] where
  answers index := untiedAnswers (if index = 0 then some plotFile else none)
  fresh _ _ _ _ := List.not_mem_nil
  distinct := by
    intro first second request other file another took took' _
    have start {index : Nat} {file : StoredFile}
        (took : (if index = 0 then some plotFile else none) = some file) : index = 0 := by
      split at took
      · assumption
      · cases took
    rw [start took, start took']

theorem untiedWorld_inconsistent : ¬Consistent sandboxCall untiedWorld [plotLink] := by
  intro consistent
  have took : taken sandboxCall (untiedWorld.answers 0) plotLink =
    some plotFile := by decide +kernel
  have member : artifactOf 0 plotLink plotFile ∈ takenIn sandboxCall untiedWorld [plotLink] :=
    mem_takenIn.mpr ⟨0, plotLink, plotFile, rfl, took, rfl⟩
  exact consistent.tied rfl member rfl

end Ziee.Mcp
