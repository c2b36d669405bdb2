/-
**Refused insertions** (`add_one` in `citations/handlers.rs`).

An insertion that is refused, while no entry of the same work is stored, lost a race for its key.

* `KeyedAnew` — a program inserts under a key that was free when it last read the keys.
* **`refusals_overtaken`** — **every refusal is paid for** by an entry that another task inserted.
-/

import Ziee.Citations.AddedOnce

namespace Ziee.Citations

open PortProgram Threads
open Ziee.Agent (Uuid)

/-- **What is inserted is the item**, under a key that the user did not have when the keys were last
read; those rows are given, once the keys were read. -/
def KeyedAnew (item : Addition) : Option (List Row) → Librarian CitationItemResult → Prop
  | _, .pure _ => True
  | _, .fail _ => True
  | _, .ask (.existingCitationKeys userId base) next => userId = item.userId ∧ ∀ rows,
      KeyedAnew item (some rows) (next (.ok ((keysOf userId rows).filter (like (base ++ ['%'])))))
  | read, .ask (.insertEntry userId entry) next => userId = item.userId ∧
      (∃ made, entry = item.entry made ∧ ∃ rows, read = some rows ∧ made ∉ keysOf userId rows) ∧
        ∀ answered, KeyedAnew item none (next answered)
  | read, .ask (.find _ _) next => ∀ answered, KeyedAnew item read (next answered)
  | read, .ask (.idlessCandidates _ _) next => ∀ answered, KeyedAnew item read (next answered)
  | read, .ask (.attachToProject _ _) next => ∀ answered, KeyedAnew item read (next answered)
  | read, .ask (.setVerification _ _ _) next => ∀ answered, KeyedAnew item read (next answered)
  | read, .ask (.deleteEntry _ _) next => ∀ answered, KeyedAnew item read (next answered)

section Keyed

variable (item : Addition) (read : Option (List Row))

theorem keyedAnew_attach (entryId : Uuid) (failure : String) (done : CitationItemResult) :
    KeyedAnew item read (item.attach entryId failure done) := by
  unfold Addition.attach
  cases item.projectId with
  | none => trivial
  | some project =>
    intro answered
    cases answered with
    | ok | error => trivial

/-- By induction on the attempts. -/
theorem keyedAnew_store (left : Nat) : ∀ read, KeyedAnew item read (item.store left) := by
  induction left with
  | zero => exact fun _ => trivial
  | succ left ih =>
    refine fun _ => ⟨rfl, fun rows => ⟨rfl, ⟨_, rfl, rows, rfl, ?_⟩, fun insertion => ?_⟩⟩
    · exact genCitationKey_free item.surname item.year item.userId rows
    · rcases insertion with refusal | id
      · dsimp only
        split
        swap
        · trivial
        intro found
        have again : KeyedAnew item none
            (if left = 0 then .pure item.contended else item.store left) := by
          split
          · trivial
          · exact ih _
        rcases found with error | (_ | id)
        · exact again
        · exact again
        · exact keyedAnew_attach item _ _ _ _
      · exact keyedAnew_attach item _ _ _ _

theorem keyedAnew_addOne : KeyedAnew item none item.addOne := by
  unfold Addition.addOne
  split
  · trivial
  intro found
  rcases found with error | (_ | id)
  · trivial
  · dsimp only
    split
    · intro candidates
      dsimp only
      split
      · trivial
      · exact keyedAnew_store item 4 _
    · exact keyedAnew_store item 4 _
  · exact keyedAnew_attach item _ _ _ _

end Keyed

/-! ### Interleavings -/

def inserts (userId : Uuid) : Event LibraryPort → Bool
  | ⟨.insertEntry user _, .ok _⟩ => user == userId
  | _ => false

def refused : Event LibraryPort → Bool
  | ⟨.insertEntry _ _, .error error⟩ => error.statusCode == 409
  | _ => false

def keysUnread : Event LibraryPort → Bool
  | ⟨.existingCitationKeys _ _, .error _⟩ => true
  | _ => false

/-- Another task inserted an entry of the user. -/
def overtakes (userId : Uuid) (thread : Nat) (label : Nat × Event LibraryPort) : Bool :=
  label.1 != thread && inserts userId label.2

/-- No stored entry is of the item's work, and the task can read the keys. -/
abbrev Fair (lower : String → String) (item : Addition) (thread : Nat)
    (config : Config LibraryPort Empty CitationItemResult (List Row))
    (label : Nat × Event LibraryPort) : Prop :=
  (∀ row ∈ config.shared, row.sameWork lower item.userId (item.entry []) = false) ∧
    (label.1 = thread → keysUnread label.2 = false)

variable {lower : String → String} {rows rows' : List Row} {event : Event LibraryPort}
  {config config' : Config LibraryPort Empty CitationItemResult (List Row)} {thread : Nat}
  {log : List (Nat × Event LibraryPort)} {label : Nat × Event LibraryPort} {item : Addition}

/-- **The keys of a user grow by an insertion only.** -/
theorem keysOf_step {userId : Uuid} (answers : libraryAnswers lower rows event rows')
    (other : inserts userId event = false) : keysOf userId rows' ⊆ keysOf userId rows := by
  rcases answers_cases answers with ⟨rfl, -⟩ | ⟨user, id, entry, rfl, -, rfl⟩ |
    ⟨user, id, status, -, rfl⟩ | ⟨user, id, -, rfl⟩
  · exact List.Subset.refl _
  · have apart : (user == userId) = false := other
    simp [keysOf, apart]
  · have same : ∀ row : Row, (row.verified user id status).userId = row.userId ∧
        (row.verified user id status).entry.citationKey = row.entry.citationKey := by
      intro row
      unfold Row.verified
      split <;> exact ⟨rfl, rfl⟩
    simp [keysOf, List.filter_map, Function.comp_def, same]
  · exact ((List.filter_sublist.filter _).map _).subset

/-- **The refusals are paid for**, and a key that was free when the keys were read is free still, or
one insertion of another task is left over. -/
def Covers (item : Addition) (rows : List Row) (read : Option (List Row))
    (refusals overtaken : Nat) : Prop :=
  refusals ≤ overtaken ∧ ∀ known, read = some known →
    keysOf item.userId rows ⊆ keysOf item.userId known ∨ refusals < overtaken

section Steps

variable {refusals overtaken other : Nat} {read : Option (List Row)}

/-- The step of another task: an insertion is one more, and without one no key is new. -/
theorem covers_other (covers : Covers item rows read refusals overtaken) (apart : other ≠ thread)
    (answers : libraryAnswers lower rows event rows') : Covers item rows' read refusals
      (overtaken + [(other, event)].countP (overtakes item.userId thread)) := by
  refine ⟨Nat.le_add_right_of_le covers.1, fun known same => ?_⟩
  cases grew : inserts item.userId event with
  | true =>
    have counted : overtakes item.userId thread (other, event) = true := by
      simp [overtakes, apart, grew]
    rw [List.countP_singleton, if_pos counted]
    exact Or.inr (Nat.lt_succ_of_le covers.1)
  | false =>
    refine (covers.2 known same).imp (fun within => ?_) (fun more => Nat.lt_add_right _ more)
    exact List.Subset.trans (keysOf_step answers grew) within

/-- **The item's insertion is refused for its key**, when no stored entry is of its work. -/
theorem key_taken {made : List Char} {error : LibraryError}
    (apart : ∀ row ∈ rows, row.sameWork lower item.userId (item.entry []) = false)
    (answers : libraryAnswers lower rows
      ⟨.insertEntry item.userId (item.entry made), .error error⟩ rows')
    (conflict : error.statusCode = 409) : made ∈ keysOf item.userId rows := by
  rcases answers with ⟨failure, differs, same, -⟩ | ⟨id, done⟩
  · cases (show Except.error error = Except.error failure from same)
    exact absurd conflict differs
  · simp only [answer] at done
    split at done
    · rename_i refused
      obtain ⟨row, member, clash⟩ := List.any_eq_true.mp refused
      rcases Bool.or_eq_true_iff.mp clash with both | work
      · obtain ⟨owner, key⟩ := Bool.and_eq_true_iff.mp both
        exact List.mem_map.mpr ⟨row, List.mem_filter.mpr ⟨member, owner⟩, eq_of_beq key⟩
      · exact absurd work (Bool.not_eq_true _ ▸ apart row member)
    · cases done

/-- **The step of the task itself.** -/
theorem covers_own {query : LibraryQuery} {answered : LibraryAnswer query}
    {next : LibraryAnswer query → Librarian CitationItemResult}
    (covers : Covers item rows read refusals overtaken)
    (keyed : KeyedAnew item read (.ask query next))
    (apart : ∀ row ∈ rows, row.sameWork lower item.userId (item.entry []) = false)
    (readable : keysUnread ⟨query, answered⟩ = false)
    (answers : libraryAnswers lower rows ⟨query, answered⟩ rows') :
    ∃ read', KeyedAnew item read' (next answered) ∧
      Covers item rows' read' (refusals + [⟨query, answered⟩].countP refused) overtaken := by
  -- what neither reads the keys nor inserts
  have quiet (alike : inserts item.userId ⟨query, answered⟩ = false) :
      Covers item rows' read refusals overtaken := ⟨covers.1, fun known same =>
    (covers.2 known same).imp_left (List.Subset.trans (keysOf_step answers alike))⟩
  cases query with
  | existingCitationKeys userId base =>
    obtain ⟨rfl, reads⟩ := keyed
    rcases answers with ⟨error, -, same, -⟩ | ⟨id, done⟩
    · cases (show answered = .error error from same)
      cases readable
    · cases done
      exact ⟨_, reads rows, covers.1, fun known same =>
        Or.inl (Option.some.inj same ▸ List.Subset.refl _)⟩
  | insertEntry userId entry =>
    obtain ⟨rfl, ⟨made, rfl, known, same, free⟩, keyed⟩ := keyed
    refine ⟨none, keyed answered, ?_, fun _ none => nomatch none⟩
    cases conflict : refused ⟨.insertEntry item.userId (item.entry made), answered⟩ with
    | false => simpa [conflict] using covers.1
    | true =>
      rw [List.countP_singleton, if_pos conflict]
      cases answered with
      | ok id => cases conflict
      | error error =>
        have taken := key_taken apart answers (eq_of_beq conflict)
        exact (covers.2 known same).resolve_left fun within => free (within taken)
  | find | idlessCandidates | attachToProject | setVerification | deleteEntry =>
    exact ⟨read, keyed answered, quiet rfl⟩

end Steps

/-- The task in an interleaving. -/
def Paid (item : Addition) (thread : Nat) (log : List (Nat × Event LibraryPort))
    (config : Config LibraryPort Empty CitationItemResult (List Row)) : Prop :=
  ∃ program read, config.threads[thread]? = some program ∧ KeyedAnew item read program ∧
    Covers item config.shared read ((own thread log).countP refused)
      (log.countP (overtakes item.userId thread))

theorem paid_step (paid : Paid item thread log config)
    (step : (libraryMachine lower).Guarded (Fair lower item thread) config label config') :
    Paid item thread (log ++ [label]) config' := by
  obtain ⟨program, read, found, keyed, covers⟩ := paid
  obtain ⟨⟨apart, readable⟩, step⟩ := step
  cases step with
  | @act shared shared' threads other query next answered there answers =>
    have forks : threads.set other (next answered) ++ (libraryMachine lower).forks
        ⟨query, answered⟩ = threads.set other (next answered) := List.append_nil _
    unfold Paid
    rw [own_append, List.countP_append, List.countP_append, forks]
    by_cases same : other = thread
    · subst same
      obtain rfl := Option.some.inj (there.symm.trans found)
      obtain ⟨read', keyed', covers'⟩ := covers_own covers keyed apart (readable rfl) answers
      have mine : [(other, (⟨query, answered⟩ : Event LibraryPort))].countP
          (overtakes item.userId other) = 0 := by simp [overtakes]
      rw [own_cons_self, own_nil, mine]
      exact ⟨_, read', List.getElem?_set_self (List.getElem?_eq_some_iff.mp there).1, keyed',
        covers'⟩
    · rw [own_cons_ne same, own_nil, List.countP_nil]
      exact ⟨program, read, (List.getElem?_set_ne same).trans found, keyed,
        covers_other covers same answers⟩

/-- **Every refusal is paid for** by another task, as long as no stored entry is of the item's work
and the task can read the keys: so many refusals, so many entries of others. -/
theorem refusals_overtaken {lower : String → String} {item : Addition} {thread : Nat}
    {config last : Config LibraryPort Empty CitationItemResult (List Row)}
    {log : List (Nat × Event LibraryPort)}
    (follows : Follows ((libraryMachine lower).Guarded (Fair lower item thread)) config log last)
    (start : config.threads[thread]? = some item.addOne) :
    (own thread log).countP refused ≤ log.countP (overtakes item.userId thread) := by
  have first : Paid item thread [] config :=
    ⟨_, none, start, keyedAnew_addOne item, Nat.le_refl _, fun _ none => nomatch none⟩
  obtain ⟨_, _, _, _, less, -⟩ := follows.preserves_log (Paid item thread) paid_step first
  exact less

def otherItem : Addition :=
  { sampleItem with resolved := { sampleItem.resolved with doi := some "10.1/y" } }

/-- Both adds read the keys before one of them inserts. -/
def keyRaced : List (Nat × Event LibraryPort) ×
    Config LibraryPort Empty CitationItemResult (List Row) :=
  (libraryMachine id).execute (fun rows => answer id rows rows.length)
    ⟨[], [sampleItem.addOne, otherItem.addOne]⟩ [0, 1, 0, 1, 0, 1, 1, 1, 1]

theorem refusals_overtaken_raced : (own 1 keyRaced.1).countP refused = 1 ∧
    1 ≤ keyRaced.1.countP (overtakes otherItem.userId 1) := by
  have follows : Follows ((libraryMachine id).Guarded (Fair id otherItem 1))
      ⟨[], [sampleItem.addOne, otherItem.addOne]⟩ keyRaced.1 keyRaced.2 :=
    Machine.guarded_execute_of (fun _ _ _ _ => Or.inr ⟨_, rfl⟩) _ _ rfl
  have one : (own 1 keyRaced.1).countP refused = 1 := rfl
  exact ⟨one, one ▸ refusals_overtaken follows rfl⟩

end Ziee.Citations
