/-
**Adding, alone and among others.**

* `Addition.settled` — what becomes of an item when nothing else happens and nothing fails.
* **`add_alone`** — **the retries come to just that**: an add on its own gives up exactly when the
  DOI is new and the PMID beside it is not.
* **`adds_agree`** — **concurrent adds of one work name one entry**, as long as none is deleted.
-/

import Ziee.Citations.Bibliography
import Ziee.Library.Histories

namespace Ziee.Citations

open PortProgram Threads
open Ziee.Agent (Uuid)

/-! ### Alone -/

namespace Addition

variable (item : Addition) {rows : List Row}

/-- The key that is made when the keys of the table are read. -/
def freshKey (rows : List Row) : List Char :=
  genCitationKey item.surname item.year ((keysOf item.userId rows).filter
    (like (citationKeyBase item.surname item.year ++ ['%'])))

def pmidStored (rows : List Row) : Bool :=
  item.resolved.pmid.any fun pmid => rows.any (·.hasKey item.rules.lower item.userId (.pmid pmid))

/-- The entry that is near the item, for one without identifiers. -/
def near (rows : List Row) : Option Uuid :=
  if item.isIdless then item.nearest (idlessOf item.userId item.year rows) else none

/-- **What becomes of the item**, and of the table. -/
def settled (rows : List Row) (id : Uuid) : CitationItemResult × List Row :=
  if item.resolved.status = .notFound then (item.unresolved, rows)
  else match rows.find? (·.hasKey item.rules.lower item.userId item.key) with
    | some row => (item.linked row.id, rows)
    | none =>
      match item.near rows with
      | some near => (item.possibleDuplicate near, rows)
      | none =>
        if item.pmidStored rows then (item.contended, rows)
        else (item.inserted id (item.freshKey rows),
          rows ++ [⟨id, item.userId, item.entry (item.freshKey rows)⟩])

/-- An item that is not found clashes by a key, or by the PMID beside its DOI. -/
theorem clashes_iff {made : List Char} (free : made ∉ keysOf item.userId rows)
    (absent : rows.find? (·.hasKey item.rules.lower item.userId item.key) = none) :
    rows.any (·.clashes item.rules.lower item.userId (item.entry made)) = item.pmidStored rows := by
  have missing := List.find?_eq_none.mp absent
  have unused : ∀ row ∈ rows, (row.userId == item.userId && row.entry.citationKey == made) =
      false := by
    intro row member
    by_contra both
    obtain ⟨owner, same⟩ := Bool.and_eq_true_iff.mp (Bool.of_not_eq_false both)
    refine free (List.mem_map.mpr ⟨row, List.mem_filter.mpr ⟨member, owner⟩, eq_of_beq same⟩)
  have one : ∀ row ∈ rows, row.clashes item.rules.lower item.userId (item.entry made) =
      item.resolved.pmid.any fun pmid =>
        row.hasKey item.rules.lower item.userId (.pmid pmid) := by
    intro row member
    have none := Bool.eq_false_iff.mpr (missing row member)
    rw [Row.clashes, entry, unused row member, Bool.false_or]
    unfold Row.sameWork Addition.key at *
    cases doi : item.resolved.doi with
    | some doi => cases item.resolved.pmid <;> simp_all
    | none => cases pmid : item.resolved.pmid <;> simp_all [isIdless]
  unfold pmidStored
  cases pmid : item.resolved.pmid with
  | none => simpa [pmid] using one
  | some pmid' =>
    rw [Bool.eq_iff_iff, List.any_eq_true, Option.any_some, List.any_eq_true]
    refine exists_congr fun row => and_congr_right fun member => ?_
    rw [one row member, pmid, Option.any_some]

theorem entry_hasKey (lower : String → String) (made : List Char) (id : Uuid) :
    (⟨id, item.userId, item.entry made⟩ : Row).hasKey lower item.userId item.key = true := by
  unfold Row.hasKey Addition.key
  cases doi : item.resolved.doi with
  | some doi => simp [entry, doi]
  | none => cases pmid : item.resolved.pmid <;> simp [entry, doi, pmid, isIdless]

variable (newId : List Row → Uuid)

/-- The program on its own, where nothing fails. -/
abbrev alone (program : Librarian CitationItemResult) (rows : List Row) :
    Except Empty CitationItemResult × List Row :=
  (program.execute (fun rows => answer item.rules.lower rows (newId rows)) rows).2

theorem alone_attach (entryId : Uuid) (failure : String) (done : CitationItemResult) :
    item.alone newId (item.attach entryId failure done) rows = (.ok done, rows) := by
  unfold attach
  cases item.projectId with
  | none | some => rfl

theorem alone_store (absent : rows.find? (·.hasKey item.rules.lower item.userId item.key) = none)
    (left : Nat) : item.alone newId (item.store (left + 1)) rows =
      if item.pmidStored rows then (.ok item.contended, rows)
      else (.ok (item.inserted (newId rows) (item.freshKey rows)),
        rows ++ [⟨newId rows, item.userId, item.entry (item.freshKey rows)⟩]) := by
  have free := genCitationKey_free item.surname item.year item.userId rows
  have clash := item.clashes_iff free absent
  cases stored : item.pmidStored rows with
  | false =>
    rw [alone, store]
    simp only [Program.execute, answer, Except.toOption, Option.getD_some, clash, stored]
    exact item.alone_attach newId _ _ _
  | true =>
    -- no insertion is admitted, and no lookup finds the item: the attempts are used up
    rw [stored] at clash
    induction left with
    | zero => simp [alone, store, Program.execute, answer, Except.toOption, clash, absent]
    | succ left ih =>
      rw [← ih, alone, store]
      simp only [Program.execute, answer, Except.toOption, Option.getD_some, clash, absent, if_true,
        Option.map_none, Nat.succ_ne_zero, if_false]

end Addition

/-- **An add on its own**, where nothing fails, comes to `settled`, and a new entry gets a key that
the user has nowhere. -/
theorem add_alone (item : Addition) (newId : List Row → Uuid) (rows : List Row) :
    item.alone newId item.addOne rows =
        (.ok (item.settled rows (newId rows)).1, (item.settled rows (newId rows)).2) ∧
      item.freshKey rows ∉ keysOf item.userId rows := by
  refine ⟨?_, genCitationKey_free _ _ _ _⟩
  unfold Addition.settled Addition.alone Addition.addOne
  split
  · rfl
  cases found : rows.find? (·.hasKey item.rules.lower item.userId item.key) with
  | some row =>
    simp only [Program.execute, answer, found, Option.map_some]
    exact item.alone_attach newId _ _ _
  | none =>
    simp only [Program.execute, answer, found, Option.map_none]
    have stored := item.alone_store newId found 3
    unfold Addition.near
    cases idless : item.isIdless with
    | false =>
      refine Eq.trans stored ?_
      cases item.pmidStored rows <;> rfl
    | true =>
      simp only [if_true, Program.execute, answer, Except.toOption, Option.getD_some]
      cases item.nearest (idlessOf item.userId item.year rows) with
      | some near => rfl
      | none =>
        refine Eq.trans stored ?_
        cases item.pmidStored rows <;> rfl

/-! ### Agreement -/

section Races

variable {lower : String → String} {rows rows' : List Row} {event : Event LibraryPort}
  {config last : Config LibraryPort Empty CitationItemResult (List Row)} {thread : Nat}
  {log : List (Nat × Event LibraryPort)} {item : Addition}

/-- **What a statement can do to the table.** -/
theorem answers_cases (answers : libraryAnswers lower rows event rows') :
    (rows' = rows ∧ ∀ userId id entry, event ≠ ⟨.insertEntry userId entry, .ok id⟩) ∨
      (∃ userId id entry, event = ⟨.insertEntry userId entry, .ok id⟩ ∧
        (∀ row ∈ rows, row.clashes lower userId entry = false) ∧
        rows' = rows ++ [⟨id, userId, entry⟩]) ∨
      (∃ userId id status, event.1 = .setVerification userId id status ∧
        rows' = rows.map (Row.verified userId id status)) ∨
      ∃ userId id, event.1 = .deleteEntry userId id ∧
        rows' = rows.filter fun row => !(row.userId == userId && row.id == id) := by
  obtain ⟨query, answered⟩ := event
  rcases answers with ⟨error, -, here, rfl⟩ | ⟨id, done⟩
  · refine Or.inl ⟨rfl, fun userId id entry same => ?_⟩
    cases same
    cases (show Except.ok id = Except.error error from here)
  · cases query with
    | insertEntry userId entry =>
      simp only [answer] at done
      split at done
      · cases done
        exact Or.inl ⟨rfl, fun _ _ _ same => nomatch same⟩
      · rename_i admitted
        cases done
        refine Or.inr (Or.inl ⟨userId, id, entry, rfl, fun row member => ?_, rfl⟩)
        by_contra clash
        exact admitted (List.any_eq_true.mpr ⟨row, member, Bool.of_not_eq_false clash⟩)
    | setVerification userId id status =>
      cases done
      exact Or.inr (Or.inr (Or.inl ⟨userId, id, status, rfl, rfl⟩))
    | deleteEntry userId id =>
      cases done
      exact Or.inr (Or.inr (Or.inr ⟨userId, id, rfl, rfl⟩))
    | find | idlessCandidates | existingCitationKeys | attachToProject =>
      cases done
      exact Or.inl ⟨rfl, fun _ _ _ same => nomatch same⟩

section Verified

variable (userId id owner : Uuid) (status : VerificationStatus) (row : Row)

@[simp] theorem Row.verified_id : (row.verified userId id status).id = row.id := by
  unfold Row.verified
  split <;> rfl

@[simp] theorem Row.verified_hasKey (key : DedupKey) :
    (row.verified userId id status).hasKey lower owner key = row.hasKey lower owner key := by
  unfold Row.verified
  split <;> rfl

end Verified

def Unique (lower : String → String) (rows : List Row) : Prop :=
  ∀ userId key, ∀ row ∈ rows, ∀ other ∈ rows, row.hasKey lower userId key = true →
    other.hasKey lower userId key = true → row.id = other.id

/-- An entry with the key of the item that a new entry has as well clashes with it. -/
theorem clashes_of_hasKey {userId owner id : Uuid} {key : DedupKey} {entry : NewEntry} {row : Row}
    (new : (⟨id, owner, entry⟩ : Row).hasKey lower userId key = true)
    (old : row.hasKey lower userId key = true) : row.clashes lower owner entry = true := by
  obtain ⟨mine, here⟩ := Bool.and_eq_true_iff.mp new
  obtain ⟨theirs, there⟩ := Bool.and_eq_true_iff.mp old
  obtain rfl : owner = userId := eq_of_beq mine
  refine Bool.or_eq_true_iff.mpr (Or.inr ?_)
  cases key with
  | doi doi =>
    obtain ⟨doi', known, same⟩ := Option.map_eq_some_iff.mp (eq_of_beq here)
    dsimp only at known there
    simp [Row.sameWork, Row.hasKey, known, same, theirs, eq_of_beq there]
  | pmid pmid =>
    dsimp only at here there
    simp [Row.sameWork, Row.hasKey, eq_of_beq here, theirs, eq_of_beq there]
  | fingerprint text => simp_all [Row.sameWork, Row.hasKey]

theorem unique_step (unique : Unique lower rows) (answers : libraryAnswers lower rows event rows') :
    Unique lower rows' := by
  rcases answers_cases answers with ⟨rfl, -⟩ | ⟨user, id, entry, -, admitted, rfl⟩ |
    ⟨user, id, status, -, rfl⟩ | ⟨user, id, -, rfl⟩
  · exact unique
  · intro userId key row member other member' here there
    rcases List.mem_append.mp member with member | new <;>
      rcases List.mem_append.mp member' with member' | new'
    · exact unique userId key row member other member' here there
    · obtain rfl := List.mem_singleton.mp new'
      exact absurd (admitted row member) (Bool.not_eq_false _ ▸ clashes_of_hasKey there here)
    · obtain rfl := List.mem_singleton.mp new
      exact absurd (admitted other member') (Bool.not_eq_false _ ▸ clashes_of_hasKey here there)
    · rw [List.mem_singleton.mp new, List.mem_singleton.mp new']
  · intro userId key row member other member' here there
    obtain ⟨old, before, rfl⟩ := List.mem_map.mp member
    obtain ⟨old', before', rfl⟩ := List.mem_map.mp member'
    rw [Row.verified_hasKey] at here there
    simpa using unique userId key old before old' before' here there
  · exact fun userId key row member other member' => unique userId key row
      (List.mem_of_mem_filter member) other (List.mem_of_mem_filter member')

def deletes (userId : Uuid) : LibraryQuery → Bool
  | .deleteEntry user _ => user == userId
  | _ => false

/-- Nothing of the user is deleted. -/
abbrev Keeps (userId : Uuid) (_ : Config LibraryPort Empty CitationItemResult (List Row))
    (label : Nat × Event LibraryPort) : Prop :=
  deletes userId label.2.1 = false

/-- The table holds this entry of the user under this key. -/
def Holds (lower : String → String) (userId : Uuid) (key : DedupKey) (id : Uuid)
    (rows : List Row) : Prop :=
  ∃ row ∈ rows, row.hasKey lower userId key = true ∧ row.id = id

theorem holds_step {userId id : Uuid} {key : DedupKey} (holds : Holds lower userId key id rows)
    (answers : libraryAnswers lower rows event rows')
    (kept : deletes userId event.1 = false) : Holds lower userId key id rows' := by
  obtain ⟨row, member, has, rfl⟩ := holds
  rcases answers_cases answers with ⟨rfl, -⟩ | ⟨user, id, entry, -, -, rfl⟩ |
    ⟨user, id, status, -, rfl⟩ | ⟨user, id, same, rfl⟩
  · exact ⟨row, member, has, rfl⟩
  · exact ⟨row, List.mem_append_left _ member, has, rfl⟩
  · exact ⟨_, List.mem_map_of_mem member, (Row.verified_hasKey ..).trans has, Row.verified_id ..⟩
  · refine ⟨row, List.mem_filter.mpr ⟨member, ?_⟩, has, rfl⟩
    have owner : row.userId = userId := eq_of_beq (Bool.and_eq_true_iff.mp has).1
    rw [same] at kept
    have apart : user ≠ userId := by simpa [deletes] using kept
    simp [owner, apart.symm]

/-- What an item's result names was found, or was inserted. -/
def Named (item : Addition) (id : Uuid) (past : List (Event LibraryPort)) : Prop :=
  ⟨.find item.userId item.key, .ok (some id)⟩ ∈ past ∨
    ∃ made, ⟨.insertEntry item.userId (item.entry made), .ok id⟩ ∈ past

abbrev Names (item : Addition) (past : List (Event LibraryPort))
    (program : Librarian CitationItemResult) : Prop :=
  Obeys (fun _ _ => True) (fun _ _ => True)
    (fun past result => ∀ id, result.entryId = some id → Named item id past) past program

theorem names_attach {past : List (Event LibraryPort)} {id : Uuid} {message : String}
    {done : CitationItemResult} (named : Named item id past) (result : done.entryId = some id) :
    Names item past (item.attach id message done) := by
  have here : ∀ more other, done.entryId = some other → Named item other (past ++ more) := by
    intro more other same
    obtain rfl := Option.some.inj (result.symm.trans same)
    exact named.imp (List.mem_append_left _) (Exists.imp fun _ => List.mem_append_left _)
  unfold Addition.attach
  cases item.projectId with
  | none => exact fun other same => List.append_nil past ▸ here [] other same
  | some project =>
    intro answered
    refine ⟨trivial, ?_⟩
    cases answered with
    | ok => exact here _
    | error => exact fun _ impossible => nomatch impossible

theorem names_store (left : Nat) : ∀ past, Names item past (item.store left) := by
  induction left with
  | zero => exact fun _ _ impossible => nomatch impossible
  | succ left ih =>
    refine fun past keys => ⟨trivial, fun insertion => ⟨trivial, ?_⟩⟩
    rcases insertion with refusal | id
    · dsimp only
      split
      swap
      · exact fun _ impossible => nomatch impossible
      refine fun found => ⟨trivial, ?_⟩
      have again : ∀ past, Names item past
          (if left = 0 then .pure item.contended else item.store left) := by
        intro past
        split
        · exact fun _ impossible => nomatch impossible
        · exact ih past
      rcases found with error | (_ | id)
      · exact again _
      · exact again _
      · exact names_attach (Or.inl (List.mem_append_right _ (List.mem_singleton_self _))) rfl
    · exact names_attach (Or.inr ⟨_, List.mem_append_right _ (List.mem_singleton_self _)⟩) rfl

theorem names_addOne : Names item [] item.addOne := by
  unfold Addition.addOne
  split
  · exact fun _ impossible => nomatch impossible
  refine fun found => ⟨trivial, ?_⟩
  rcases found with error | (_ | id)
  · exact fun _ impossible => nomatch impossible
  · dsimp only
    split
    · refine fun candidates => ⟨trivial, ?_⟩
      dsimp only
      split
      · exact fun _ impossible => nomatch impossible
      · exact names_store 4 _
    · exact names_store 4 _
  · exact names_attach (Or.inl (List.mem_append_right _ (List.mem_singleton_self _))) rfl

/-- **What a task names is held** in every table after it. -/
theorem holds_of_named {id : Uuid}
    (follows : Follows ((libraryMachine lower).Guarded (Keeps item.userId)) config log last)
    (named : Named item id (own thread log)) :
    Holds lower item.userId item.key id last.shared := by
  have later : ∀ {event : Event LibraryPort}, event ∈ own thread log →
      (∀ {rows rows'}, libraryAnswers lower rows event rows' →
        Holds lower item.userId item.key id rows') →
      Holds lower item.userId item.key id last.shared := by
    intro event member makes
    obtain ⟨before, after, rfl⟩ := List.append_of_mem (mem_own.mp member)
    obtain ⟨middle, -, tail⟩ := Follows.append_iff.mp follows
    cases tail with
    | cons step rest =>
      refine rest.preserves (fun config => Holds lower item.userId item.key id config.shared)
        (fun {_ _ _} holds step => ?_) ?_
      · obtain ⟨kept, step⟩ := step
        cases step with
        | act _ answers => exact holds_step holds answers kept
      · cases step.2 with
        | act _ answers => exact makes answers
  rcases named with found | ⟨made, inserted⟩
  · refine later found fun answers => ?_
    rcases answers with ⟨error, -, failed, -⟩ | ⟨_, done⟩
    · cases (show Except.ok (some id) = Except.error error from failed)
    · obtain ⟨row, hit, same⟩ := Option.map_eq_some_iff.mp
        (Except.ok.inj (Prod.mk.inj done).1).symm
      exact ⟨row, (Prod.mk.inj done).2 ▸ List.mem_of_find?_eq_some hit,
        List.find?_some hit, same⟩
  · refine later inserted fun answers => ?_
    rcases answers_cases answers with ⟨-, other⟩ | ⟨user, other, entry, same, -, rfl⟩ |
      ⟨user, other, status, verifies, -⟩ | ⟨user, other, deletes, -⟩
    · exact absurd rfl (other _ _ _)
    · cases same
      refine ⟨_, List.mem_append_right _ (List.mem_singleton_self _), ?_, rfl⟩
      exact item.entry_hasKey lower made id
    · cases verifies
    · cases deletes

end Races

/-- **Concurrent adds of one work name one entry**, as long as nothing of the user is deleted and
there was one entry for a key from the start. -/
theorem adds_agree {lower : String → String} {first second : Addition} {one two : Nat}
    {config last : Config LibraryPort Empty CitationItemResult (List Row)}
    {log : List (Nat × Event LibraryPort)} {result result' : CitationItemResult} {id id' : Uuid}
    (follows : Follows ((libraryMachine lower).Guarded (Keeps first.userId)) config log last)
    (unique : Unique lower config.shared) (sameUser : second.userId = first.userId)
    (sameKey : second.key = first.key) (start : config.threads[one]? = some first.addOne)
    (start' : config.threads[two]? = some second.addOne)
    (ended : last.threads[one]? = some (.pure result))
    (ended' : last.threads[two]? = some (.pure result')) (named : result.entryId = some id)
    (named' : result'.entryId = some id') : id = id' := by
  have stays : Unique lower last.shared :=
    Machine.shared_preserves (Unique lower) (fun holds answers => unique_step holds answers)
      (follows.mono And.right) unique
  have names : ∀ {item : Addition} {thread result id}, config.threads[thread]? = some item.addOne →
      last.threads[thread]? = some (.pure result) → result.entryId = some id →
        Named item id (own thread log) := by
    intro item thread result id start ended named
    refine Machine.returned_own (fun _ _ => True) (fun _ _ => True)
      (fun past result => ∀ id, result.entryId = some id → Named item id past) ?_
      (List.getElem?_eq_some_iff.mp start).1 (follows.mono And.right) ended id named
    intro program found
    obtain rfl := Option.some.inj (start.symm.trans found)
    exact names_addOne
  obtain ⟨row, member, here, rfl⟩ := holds_of_named follows (names start ended named)
  obtain ⟨row', member', there, rfl⟩ := holds_of_named (sameUser ▸ follows)
    (names start' ended' named')
  rw [sameUser, sameKey] at there
  exact stays _ _ row member row' member' here there

def sampleItem : Addition where
  rules := ⟨id, fun _ _ _ => [], fun _ _ => false⟩
  userId := 1
  projectId := none
  label := "sample"
  source := "doi"
  resolved := ⟨none, .verified, some "10.1/x", none, none, none, []⟩

/-- Two adds of it that both find nothing. -/
def raced : List (Nat × Event LibraryPort) ×
    Config LibraryPort Empty CitationItemResult (List Row) :=
  (libraryMachine id).execute (fun rows => answer id rows 5)
    ⟨[], [sampleItem.addOne, sampleItem.addOne]⟩ [0, 1, 0, 1, 0, 1, 1]

theorem adds_agree_raced : ∃ made found, raced.2.threads[0]? =
      some (.pure (sampleItem.inserted made "anon".toList)) ∧
    raced.2.threads[1]? = some (.pure (sampleItem.linked found)) ∧ made = found := by
  have follows : Follows ((libraryMachine id).Guarded (Keeps sampleItem.userId))
      ⟨[], [sampleItem.addOne, sampleItem.addOne]⟩ raced.1 raced.2 :=
    Machine.guarded_execute_of (fun _ _ _ _ => Or.inr ⟨5, rfl⟩) _ _ rfl
  have empty : Unique id [] := fun _ _ _ member => absurd member List.not_mem_nil
  have one : raced.2.threads[0]? = some (.pure (sampleItem.inserted 5 "anon".toList)) := rfl
  have two : raced.2.threads[1]? = some (.pure (sampleItem.linked 5)) := rfl
  exact ⟨5, 5, one, two, adds_agree follows empty rfl rfl rfl rfl one two rfl rfl⟩

end Ziee.Citations
