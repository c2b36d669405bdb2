/-
**The budget does not change what a tool accepts** (`inline_schema_with`).

A document that has been inlined means what the schema means among the components, so two of them
mean the same, whatever their budgets.

* `Compatible` — the conditions: a keyword beside a reference is not set by its component as well,
  own definitions are apart, and the schemas are well formed.
* `inlined_simulates`, **`inlined_evaluates`** — an inlined document, against its source.
* **`budgets_agree`**.
-/

import Ziee.Control.SchemaMade

namespace Ziee.Control

open Ziee.Providers (Json)
open Ziee.Library

def Throughout (holds : Json → Prop) (schema components : Json) : Prop :=
  holds schema ∧ ∀ name body, component components name = some body → holds body

/-- **A schema that means the same however its references are written.** -/
structure Compatible (schema components : Json) : Prop where
  schemas : ∀ name body, component components name = some body → IsSchema body
  alone : Throughout RefsAlone schema components
  fits : Throughout (fun node => ∀ members ∈ nodes node, Fits components members) schema components
  -- only the schema has definitions of its own, and they are none of the components
  apart : DefsApart (fun name => Given schema components (componentStart ++ name)) schema
  none : ∀ name body, component components name = some body → get "$defs" body = none
  names : ∀ name, Given schema components (componentStart ++ name) →
    ¬Given schema components (defsStart ++ name)

section Documents

variable {setting : Setting} {schema components node other root value : Json} {budget : Budget}
  {known : String → Prop} {members others defs : Members} {key name text : String} {verdict : Bool}
  {related : Json → Json → Prop} {resolve : String → Option Json}

theorem Compatible.soundSchema (compatible : Compatible schema components) :
    Sound schema components schema :=
  ⟨compatible.alone.1, compatible.fits.1, fun _ => .inl⟩

theorem Compatible.sound (compatible : Compatible schema components) (name : String) (body : Json)
    (found : component components name = some body) : Sound schema components body :=
  ⟨compatible.alone.2 name body found, compatible.fits.2 name body found,
    fun _ here => .inr ⟨name, body, found, here⟩⟩

/-! ### Own definitions -/

/-- **What was made of the own definitions of a schema.** -/
def DefsMade (related : Json → Json → Prop) (node other : Json) : Prop :=
  get "$defs" node = none ∧ get "$defs" other = none ∨
    ∃ given made, get "$defs" node = some given ∧ get "$defs" other = some made ∧
      ValueMade related .map given made

def DefinitionMade (related : Json → Json → Prop) (first second : Option Json) : Prop :=
  first = none ∧ second = none ∨ ∃ node other, first = some node ∧ second = some other ∧
    related node other

theorem entries_lookup {entries twins : Members}
    (each : List.Forall₂ (fun entry twin => twin.1 = entry.1 ∧ related entry.2 twin.2) entries
      twins)
    (name : String) : DefinitionMade related (entries.lookup name) (twins.lookup name) := by
  induction each with
  | nil => exact .inl ⟨rfl, rfl⟩
  | @cons entry twin entries twins pair _ ih =>
    rw [List.lookup_cons, List.lookup_cons, pair.1]
    by_cases same : name = entry.1
    · rw [same, beq_self_eq_true]
      exact .inr ⟨_, _, rfl, rfl, pair.2⟩
    · rw [beq_eq_false_iff_ne.mpr same]
      exact ih

theorem DefsMade.definition (made : DefsMade related node other) (name : String) :
    DefinitionMade related (definition node name) (definition other name) := by
  unfold Control.definition
  rcases made with ⟨first, second⟩ | ⟨given, twin, first, second, pair⟩
  · rw [first, second]
    exact .inl ⟨rfl, rfl⟩
  · rw [first, second, Option.bind_some, Option.bind_some]
    generalize map : Keyword.map = keyword at pair
    cases pair with
    | entries each => exact entries_lookup each name
    | noEntries first second =>
      have missing : ∀ {value : Json}, (∀ members, value ≠ .object members) →
        get name value = none := by
        intro value literal
        cases value with
        | object members => exact absurd rfl (literal members)
        | array | null | bool | number | string => rfl
      exact .inl ⟨missing first, missing second⟩
    | schemas several _ =>
      subst map
      rcases several with several | several <;> cases several
    | literal | noSchemas | one => cases map

theorem DefsMade.of_lookup (same : others.lookup "$defs" = members.lookup "$defs")
    (made : DefsMade related node (.object members)) : DefsMade related node (.object others) := by
  unfold DefsMade get at made ⊢
  dsimp only at made ⊢
  rw [same]
  exact made

theorem lookup_defsRef_defs (beside : Members) :
    List.lookup "$defs" (("$ref", Json.string (defsStart ++ name)) :: siblings beside) =
      beside.lookup "$defs" := by
  rw [List.lookup_cons, beq_eq_false_iff_ne.mpr (by decide)]
  exact lookup_siblings (by decide)

/-- **The own definitions of a rewritten schema.** -/
theorem rewriteRefs_defs (sound : Sound schema components node)
    (names : ∀ name ∈ namesIn [] node, known name)
    (each : ∀ inner, Sound schema components inner → Rewritten known related inner) :
    DefsMade related node (rewriteRefs node) := by
  cases node with
  | object members =>
    have made : DefsMade related (.object members) (.object (rewriteMembers members)) := by
      unfold DefsMade get
      dsimp only
      rw [lookup_rewriteMembers]
      cases found : members.lookup "$defs" with
      | none => exact .inl ⟨rfl, rfl⟩
      | some given =>
        refine .inr ⟨given, _, rfl, rfl, ?_⟩
        have kind : keywordOf "$defs" = .map := by decide
        rw [← kind]
        exact rewriteValue_made sound (by decide) (fun literal => absurd literal (by decide)) found
          (names_beside sound.alone names _ _ (mem_of_lookup found) (by decide)) each
    rw [rewriteRefs]
    cases reference : componentRefName members with
    | none => exact made
    | some name =>
      have same := siblings_rewriteMembers
        (sound.alone members List.mem_cons_self (by rw [reference]; rfl))
      refine made.of_lookup ?_
      rw [lookup_defsRef_defs, ← lookup_siblings (by decide), ← same, lookup_siblings (by decide)]
  | array | null | bool | number | string => exact .inl ⟨rfl, rfl⟩

section Walk

variable {onStack : String → Bool} {expand : String → Json → Nat → WalkState → Json × WalkState}

theorem walkMembers_defs (keeps : Keeps components budget onStack expand)
    (sound : Sound schema components (.object members))
    (each : ∀ inner, Sound schema components inner →
      Walked known related (walkNode components budget onStack expand) inner)
    (depth : Nat) (before : WalkState)
    (after : ∀ name ∈ (walkMembers components budget onStack expand depth before
      members).2.deferred, known name) :
    DefsMade related (.object members)
      (.object (walkMembers components budget onStack expand depth before members).1) := by
  unfold DefsMade get
  dsimp only
  cases found : members.lookup "$defs" with
  | none =>
    obtain ⟨reached, same⟩ := lookup_walkMembers components budget onStack expand depth before
      members "$defs"
    rw [found] at same
    exact .inl ⟨rfl, same⟩
  | some given =>
    obtain ⟨reached, walked, kept⟩ := lookup_walkMembers_kept keeps depth before found
    have there := mem_of_lookup found
    exact .inr ⟨given, _, rfl, walked, walkKeyword_made keeps (keywordOf "$defs")
      (by decide) depth reached given (fun node inside => each node (sound.inner there inside))
      (fun single => absurd single (by decide)) fun name member => after name (kept name member)⟩

theorem lookup_merged_absent (absent : others.lookup key = none) (other : key ≠ "$ref") :
    (merged others members).lookup key = members.lookup key := by
  rw [lookup_merged key other, absent, Option.none_or]

/-- **The own definitions of a walked schema**, where components have none. -/
theorem walkNode_defs (keeps : Keeps components budget onStack expand)
    (objects : Objects components expand) (bare : ∀ name target depth before, onStack name = false →
      component components name = some target →
      (∀ other ∈ (expand name target depth before).2.deferred, known other) →
      get "$defs" (expand name target depth before).1 = none)
    (sound : Sound schema components node)
    (each : ∀ inner, Sound schema components inner →
      Walked known related (walkNode components budget onStack expand) inner)
    (depth : Nat) (before : WalkState)
    (after : ∀ name ∈ (walkNode components budget onStack expand depth before node).2.deferred,
      known name) :
    DefsMade related node (walkNode components budget onStack expand depth before node).1 := by
  cases node with
  | object members =>
    have beside : ∀ before, (∀ name ∈ (walkMembers components budget onStack expand depth before
        members).2.deferred, known name) → DefsMade related (.object members)
          (.object (walkMembers components budget onStack expand depth before members).1) :=
      walkMembers_defs keeps sound each depth
    have fits := sound.self
    rcases walkNode_cases components budget onStack expand depth before members with
      ⟨reference, same⟩ | ⟨name, reference, unknown, same⟩ | ⟨name, reference, same⟩ |
      ⟨name, target, reference, found, off, same⟩
    · rw [same] at after ⊢
      exact beside before after
    · rw [same]
      refine .inl ⟨?_, rfl⟩
      by_contra some
      obtain ⟨body, defined, _⟩ := fits.object name reference
        (.inr (Option.isSome_iff_ne_none.mpr some))
      rw [unknown] at defined
      cases defined
    · rw [same] at after ⊢
      exact (beside _ after).of_lookup (lookup_defsRef_defs _)
    · rw [same] at after ⊢
      have early := fun other member => after other
        (keeps_members keeps depth _ members other member)
      have object := objects.demanded fits (depth + 1) before.count reference found
      have empty := bare name target (depth + 1) before.count off found early
      generalize (expand name target (depth + 1) before.count).1 = inner at object empty ⊢
      by_cases whole : ∃ entries, inner = .object entries
      · obtain ⟨entries, rfl⟩ := whole
        exact (beside _ after).of_lookup (lookup_merged_absent empty (by decide))
      · have bare : members.lookup "$defs" = none := by
          by_contra some
          exact whole (object (.inr (Option.isSome_iff_ne_none.mpr some)))
        refine .inl ⟨bare, ?_⟩
        rw [mergeSiblings_literal fun entries same => whole ⟨entries, same⟩]
        exact empty
  | array | null | bool | number | string => exact .inl ⟨rfl, rfl⟩

theorem walkItems_foreign {items : List Json} (each : ∀ item ∈ items, ∀ depth before,
      walkNode components budget onStack expand depth before item = (item, before))
    (depth : Nat) (before : WalkState) :
    walkItems components budget onStack expand depth before items = (items, before) := by
  induction items with
  | nil => rfl
  | cons item items ih =>
    rw [walkItems, each item List.mem_cons_self]
    dsimp only
    rw [ih fun other member => each other (List.mem_cons_of_mem _ member)]

theorem walkEntries_foreign {entries : Members} (each : ∀ entry ∈ entries, ∀ depth before,
      walkNode components budget onStack expand depth before entry.2 = (entry.2, before))
    (depth : Nat) (before : WalkState) :
    walkEntries components budget onStack expand depth before entries = (entries, before) := by
  induction entries with
  | nil => rfl
  | cons entry entries ih =>
    rw [walkEntries, each entry List.mem_cons_self]
    dsimp only
    rw [ih fun other member => each other (List.mem_cons_of_mem _ member)]

theorem walkKeyword_foreign (keyword : Keyword)
    (each : ∀ inner ∈ schemasOf keyword value, ∀ depth before,
      walkNode components budget onStack expand depth before inner = (inner, before))
    (depth : Nat) (before : WalkState) :
    walkKeyword components budget onStack expand keyword depth before value = (value, before) := by
  cases value with
  | object members =>
    cases keyword with
    | map =>
      rw [walkKeyword]
      dsimp only
      rw [walkEntries_foreign fun entry member => each entry.2 (List.mem_map_of_mem member)]
    | array => rfl
    | single | boolean => exact each _ (List.mem_singleton_self _) (depth + 1) before
    | literal => rfl
  | array items =>
    cases keyword with
    | map => rfl
    | array | single =>
      have plain : ∀ item ∈ items, ∀ depth before,
          walkNode components budget onStack expand depth before item = (item, before) := each
      rw [walkKeyword]
      dsimp only
      rw [walkItems_foreign plain]
    | boolean => rfl
    | literal => rfl
  | null | bool | number | string => rfl

theorem walkMembers_foreign
    (each : ∀ member ∈ members, ∀ inner ∈ schemasOf (keywordOf member.1) member.2, ∀ depth before,
      walkNode components budget onStack expand depth before inner = (inner, before))
    (depth : Nat) (before : WalkState) :
    walkMembers components budget onStack expand depth before members = (members, before) := by
  induction members with
  | nil => rfl
  | cons member members ih =>
    rw [walkMembers, walkKeyword_foreign _ (each member List.mem_cons_self)]
    dsimp only
    rw [ih fun other member => each other (List.mem_cons_of_mem _ member)]

/-- **A schema without a reference to a component** is left as it is. -/
theorem walkNode_foreign (none : ∀ text ∈ pointers node,
    stripStart componentStart text = Option.none) :
    ∀ depth before, walkNode components budget onStack expand depth before node =
      (node, before) := by
  induction node using insideInduction with
  | step node ih =>
    intro depth before
    cases node with
    | object members =>
      have foreign : componentRefName members = Option.none := by
        rw [componentRefName]
        cases found : pointer members with
        | none => rfl
        | some text =>
          refine none text ?_
          rw [pointers_object, found]
          exact List.mem_append_left _ (List.mem_singleton_self _)
      rw [walkNode, walkObject, foreign]
      dsimp only
      rw [walkMembers_foreign fun member there inner inside => ih inner (size_schema there inside)
        fun text here => none text ?_]
      rw [pointers_object]
      exact List.mem_append_right _ (mem_pointersUnder.mpr ⟨member, there, inner, inside, here⟩)
    | array | null | bool | number | string => rfl

theorem walkMembers_alone (alone : RefsAlone (.object members))
    (isRef : (componentRefName members).isSome) (depth : Nat) (before : WalkState) :
    walkMembers components budget onStack expand depth before members = (members, before) := by
  refine walkMembers_foreign (fun member there inner inside => walkNode_foreign fun text here => ?_)
    depth before
  by_cases same : member.1 = "$ref"
  · have literal : keywordOf member.1 = .literal := by
      rw [same]
      decide
    rw [literal] at inside
    cases value : member.2 <;> rw [value] at inside <;> cases inside
  · refine alone members List.mem_cons_self isRef text (mem_allPointersUnder.mpr ⟨member, ?_, ?_⟩)
    · rw [siblings, List.mem_filter]
      exact ⟨there, bne_iff_ne.mpr same⟩
    · exact allPointers_schema inside (allPointers_of_pointers here)

/-- **A walk that ends in no object** puts off nothing. -/
theorem walkNode_literal (alone : RefsAlone node)
    (bare : ∀ name target depth before, component components name = some target →
      (∀ members, (expand name target depth before).1 ≠ .object members) →
        (expand name target depth before).2.deferred = before.deferred)
    (depth : Nat) (before : WalkState)
    (literal : ∀ members, (walkNode components budget onStack expand depth before node).1 ≠ .object
      members) :
    (walkNode components budget onStack expand depth before node).2.deferred = before.deferred := by
  cases node with
  | object members =>
    rcases walkNode_cases components budget onStack expand depth before members with
      ⟨reference, same⟩ | ⟨name, reference, unknown, same⟩ | ⟨name, reference, same⟩ |
      ⟨name, target, reference, found, off, same⟩
    · rw [same] at literal
      exact absurd rfl (literal _)
    · rw [same] at literal
      exact absurd rfl (literal _)
    · rw [same] at literal
      exact absurd rfl (literal _)
    · rw [same] at literal ⊢
      have noObject : ∀ members, (expand name target (depth + 1) before.count).1 ≠ .object
        members := by
        intro entries inner
        rw [inner] at literal
        exact literal _ rfl
      dsimp only
      rw [walkMembers_alone alone (by rw [reference]; rfl)]
      exact bare name target (depth + 1) before.count found noObject
  | array | null | bool | number | string => rfl

end Walk

/-! ### The document -/

/-- **The own definitions of the walked schema.** -/
theorem walk_defs (compatible : Compatible schema components) (room : Nat) (stack : List String)
    (sound : Sound schema components node) (depth : Nat) (before : WalkState)
    (after : ∀ name ∈ (walk components budget room stack depth before node).2.deferred,
      known name) :
    DefsMade (Made schema components budget known) node
      (walk components budget room stack depth before node).1 := by
  induction room generalizing stack node depth before with
  | zero =>
    exact walkNode_defs (walk_keeps compatible.schemas 0 stack) objects_self nofun
      sound (fun inner sound depth before after => .walked 0 stack sound depth before after) depth
        before after
  | succ room ih =>
    refine walkNode_defs (walk_keeps compatible.schemas (room + 1) stack)
      (fun name _ depth before _ => walk_object room (name :: stack) depth before)
      (fun name target depth before _ found after => ?_) sound
      (fun inner sound depth before after => .walked (room + 1) stack sound depth before after)
      depth before after
    rcases ih (name :: stack) (compatible.sound name target found) depth before after with
      ⟨_, none⟩ | ⟨given, _, some, _⟩
    · exact none
    · rw [compatible.none name target found] at some
      cases some

/-- **A schema that is walked to no object** has no reference that was put off. -/
theorem walk_literal (compatible : Compatible schema components) (room : Nat) (stack : List String)
    (sound : Sound schema components node) (depth : Nat) (before : WalkState)
    (literal : ∀ members, (walk components budget room stack depth before node).1 ≠ .object
      members) :
    (walk components budget room stack depth before node).2.deferred = before.deferred := by
  induction room generalizing stack node depth before with
  | zero => exact walkNode_literal sound.alone (fun _ _ _ _ _ _ => rfl) depth before literal
  | succ room ih =>
    exact walkNode_literal sound.alone (fun name target depth before found =>
      ih (name :: stack) (compatible.sound name target found) depth before) depth before literal

/-! ### Definitions that are attached -/

theorem evaluates_congr (same : ∀ key, key ≠ "$defs" → members.lookup key = others.lookup key) :
    Evaluates setting resolve (.object members) value verdict ↔
      Evaluates setting resolve (.object others) value verdict := by
  have agree : ∀ settled reference found,
      Members.Agree setting resolve settled members value reference found ↔
        Members.Agree setting resolve settled others value reference found := by
    intro settled reference found
    unfold Members.Agree
    rw [pointer, same "$ref" (by decide), ← pointer]
    refine and_congr_right fun _ => forall_congr' fun clause => ?_
    rw [same clause.key (by cases clause <;> decide)]
  rw [evaluates_object, evaluates_object]
  simp only [agree]

theorem attachTo_other {member : String × Json} (other : member.1 ≠ "$defs") :
    attachTo defs member = member.2 := by
  rw [attachTo, if_neg other]

/-- **Definitions change no verdict** by being attached. -/
theorem evaluates_attach : Evaluates setting resolve
    (attachDefs (.object members) defs) value verdict ↔
    Evaluates setting resolve (.object members) value verdict := by
  cases has : members.lookup "$defs" with
  | none =>
    rw [attachDefs, has]
    refine evaluates_congr fun key other => ?_
    rw [lookup_append, List.lookup_cons, beq_eq_false_iff_ne.mpr other]
    exact Option.or_none
  | some own =>
    rw [attachDefs_some has]
    refine evaluates_congr fun key other => ?_
    rw [lookup_map_value]
    cases members.lookup key with
    | none => rfl
    | some value => exact congrArg some (attachTo_other other)

/-- **An own definition** is found as before. -/
theorem definition_attach_other {named : String → Prop} (apart : DefsApart named root)
    (absent : name ∉ keys defs) : definition
    (attachDefs root defs) name = definition root name := by
  have missing : defs.lookup name = none := by
    rw [← Option.isNone_iff_eq_none]
    exact lookup_isNone_iff.mpr absent
  cases root with
  | object members =>
    cases has : members.lookup "$defs" with
    | none =>
      rw [attachDefs, has, definition, get, lookup_append, has, definition, get, has]
      exact missing
    | some own =>
      obtain ⟨entries, rfl, _⟩ := apart own has
      rw [attachDefs_some has, definition, get, lookup_map_value, has, definition, get, has]
      show (entries ++ defs.filter fun entry => (entries.lookup entry.1).isNone).lookup name =
        entries.lookup name
      rw [lookup_append]
      cases found : entries.lookup name with
      | some value => rfl
      | none => rw [Option.none_or, lookup_filter_none found, missing]
  | array | null | bool | number | string => exact missing

/-! ### The result -/

def Inlines (schema components : Json) (budget : Budget) : Prop :=
  serializedLen
      (if (closeDefs components (walkRoot schema components budget).2.deferred).isEmpty then
        (walkRoot schema components budget).1
      else attachDefs (walkRoot schema components budget).1
        (closeDefs components (walkRoot schema components budget).2.deferred)) ≤ budget.maxBytes ∨
    (walkRoot schema components budget).2.expansions = 0

theorem writtenNames_inline (inlines : Inlines schema components budget) :
    writtenNames schema components budget =
      keys (closeDefs components (walkRoot schema components budget).2.deferred) := by
  unfold writtenNames
  exact if_pos inlines

theorem writtenNames_compact (compact : ¬Inlines schema components budget) :
    writtenNames schema components budget = keys (closeDefs components (namesIn [] schema)) := by
  unfold writtenNames
  exact if_neg compact

theorem schema_inline (inlines : Inlines schema components budget) :
    (inlineSchemaWith schema components budget).schema =
      if (closeDefs components (walkRoot schema components budget).2.deferred).isEmpty then
        (walkRoot schema components budget).1
      else attachDefs (walkRoot schema components budget).1
        (closeDefs components (walkRoot schema components budget).2.deferred) := by
  unfold inlineSchemaWith
  exact congrArg InlinedSchema.schema (if_pos inlines)

theorem schema_compact (compact : ¬Inlines schema components budget) :
    inlineSchemaWith schema components budget = compactForm schema components budget := by
  unfold inlineSchemaWith
  exact if_neg compact

/-- **How a document is put together**: a schema that was made of the source, with the definitions
of the written names. -/
structure Assembled (schema components : Json) (budget : Budget) (root : Json)
    (defs : Members) : Prop where
  made : Made schema components budget (· ∈ writtenNames schema components budget) schema root
  own : DefsMade (Made schema components budget (· ∈ writtenNames schema components budget)) schema
    root
  apart : DefsApart (fun name => Given schema components (componentStart ++ name)) root
  written : keys defs = writtenNames schema components budget
  named : ∀ name ∈ keys defs, Given schema components (componentStart ++ name)
  object : defs ≠ [] → ∃ members, root = .object members
  document : (inlineSchemaWith schema components budget).schema =
    if defs.isEmpty then root else attachDefs root defs

theorem written_needed (here : name ∈ writtenNames schema components budget)
    (needed : text ∈ neededBy components name) : text ∈ writtenNames schema components budget := by
  have closed : ∀ seed, name ∈ keys (closeDefs components seed) →
    text ∈ keys (closeDefs components seed) := by
    intro seed here
    obtain ⟨entry, member, rfl⟩ := List.mem_map.mp here
    exact ((closeDefs_closed components seed).needed entry member text needed).resolve_left
      (by simp)
  by_cases inlines : Inlines schema components budget
  · rw [writtenNames_inline inlines] at here ⊢
    exact closed _ here
  · rw [writtenNames_compact inlines] at here ⊢
    exact closed _ here

theorem walk_of_literal (literal : ∀ members, node ≠ .object members) (room : Nat)
    (stack : List String) (depth : Nat) (before : WalkState) :
    walk components budget room stack depth before node = (node, before) := by
  cases node with
  | object members => exact absurd rfl (literal members)
  | array | null | bool | number | string => cases room <;> rfl

theorem assembled_inline (compatible : Compatible schema components)
    (inlines : Inlines schema components budget) :
    Assembled schema components budget (walkRoot schema components budget).1
      (closeDefs components (walkRoot schema components budget).2.deferred) := by
  have sound := compatible.soundSchema
  have after : ∀ name ∈ (walkRoot schema components budget).2.deferred,
      name ∈ writtenNames schema components budget := by
    intro name member
    rw [writtenNames_inline inlines]
    exact ((closeDefs_closed components _).seeded name member).resolve_left (by simp)
  refine ⟨.walked _ [] sound 0 _ after, walk_defs compatible _ [] sound 0 _ after,
    walk_apart (fun name body found => .of_none (compatible.none name body found)) _ _ schema
      compatible.apart 0 _, (writtenNames_inline inlines).symm, fun name member => given_closed
      (fun name member => given_deferred compatible.schemas member)
      (closeDefs_closed components _) member,
    fun some => ?_, schema_inline inlines⟩
  by_contra none
  have same := walk_literal compatible (componentNames components).length [] sound 0 ⟨[], 0⟩
    fun members (here : (walkRoot schema components budget).1 = .object members) =>
      none ⟨members, here⟩
  rw [walkRoot, same] at some
  exact some rfl

theorem assembled_compact (compatible : Compatible schema components)
    (compact : ¬Inlines schema components budget) :
    ∃ defs, Assembled schema components budget (rewriteRefs schema) defs := by
  have sound := compatible.soundSchema
  have names : ∀ name ∈ namesIn [] schema, name ∈ writtenNames schema components budget := by
    intro name member
    rw [writtenNames_compact compact]
    exact ((closeDefs_closed components _).seeded name member).resolve_left (by simp)
  have before : Elided (closeDefs components (namesIn [] schema))
    (closeDefs components (namesIn [] schema)) false := ⟨rfl, fun _ member => .inl member⟩
  have elided := elide_elided (rewriteRefs schema) budget.hardMaxBytes
    (((closeDefs components (namesIn [] schema)).map fun entry =>
      (serializedLen entry.2, entry.1)).insertionSort bySize) before
  refine ⟨_, .rewritten sound names,
    rewriteRefs_defs sound names fun inner sound names => .rewritten sound names,
    rewriteRefs_apart compatible.apart, elided.names.trans (writtenNames_compact compact).symm,
    fun name member => given_closed (fun name member => .inl (pointer_of_mem_namesIn member))
      (closeDefs_closed components _) (elided.names ▸ member), fun _ => ?_, ?_⟩
  · by_contra none
    have literal : ∀ members, schema ≠ .object members := by
      rintro members rfl
      obtain ⟨others, same, _⟩ := rewriteRefs_object members
      exact none ⟨others, same⟩
    refine compact (.inr ?_)
    rw [walkRoot, walk_of_literal literal]
  · rw [schema_compact compact]
    rfl

theorem definitionOf_eq : definitionOf components name = rewriteRefs
    (componentOr components name) := by
  unfold definitionOf componentOr
  cases component components name with
  | some body => rfl
  | none =>
    have foreign : componentRefName [("$comment",
      Json.string ("unresolved $ref: " ++ componentStart ++ name))] = Option.none := rfl
    rw [Option.getD_none, unresolved, comment, rewriteRefs, foreign]
    rfl

theorem sound_unresolved : Sound schema components (unresolved name) := by
  have foreign : componentRefName [("$comment",
    Json.string ("unresolved $ref: " ++ componentStart ++ name))] = Option.none := rfl
  refine ⟨fun members inside isRef => ?_, fun members inside => ?_, fun text here => ?_⟩
  · rw [List.mem_singleton.mp inside, foreign] at isRef
    cases isRef
  · rw [List.mem_singleton.mp inside]
    refine ⟨fun other reference => ?_, fun other body reference => ?_, fun clause value _ found =>
      ?_,
      fun key entries _ found => ?_⟩
    · rw [foreign] at reference
      cases reference
    · rw [foreign] at reference
      cases reference
    · cases clause <;> cases found
    · rw [List.lookup_cons] at found
      split at found
      next => cases found
      next => cases found
  · cases here

theorem Compatible.componentOr (compatible : Compatible schema components) (name : String) :
    Sound schema components (componentOr components name) := by
  unfold Control.componentOr
  cases found : component components name with
  | some body => exact compatible.sound name body found
  | none => exact sound_unresolved

theorem namesIn_componentOr : namesIn []
    (componentOr components name) = neededBy components name := by
  unfold componentOr neededBy
  cases component components name with
  | some | none => rfl

/-- **A document that is not truncated simulates its source.** -/
theorem inlined_simulates (compatible : Compatible schema components) {root : Json} {defs : Members}
    (assembled : Assembled schema components budget root defs)
    (whole : (inlineSchemaWith schema components budget).truncated = false) :
    Simulates setting schema components (· ∈ writtenNames schema components budget)
      (Given schema components)
      (Made schema components budget (· ∈ writtenNames schema components budget))
      (resolveIn (inlineSchemaWith schema components budget).schema) := by
  have contained := inlined_self_contained schema components budget compatible.schemas
    compatible.alone.1 compatible.alone.2 compatible.apart fun name body found =>
      .of_none (compatible.none name body found)
  refine ⟨fun node other made => made_unfolds compatible.schemas compatible.sound made,
    fun name written => ?_, fun text given foreign => ?_⟩
  · refine ⟨definitionOf components name, ?_, ?_⟩
    · rw [resolveIn, stripStart_append, Option.bind_some]
      rcases contained.resolved name written with defined | ⟨left, _⟩
      · exact defined
      · rw [whole] at left
        cases left
    · rw [definitionOf_eq]
      refine .rewritten (compatible.componentOr name) fun other needed => ?_
      rw [namesIn_componentOr] at needed
      exact written_needed written needed
  · unfold resolveIn
    cases stripped : stripStart defsStart text with
    | none => exact .inl ⟨rfl, rfl⟩
    | some name =>
      have same := of_stripStart stripped
      have unwritten : name ∉ keys defs := by
        intro member
        exact compatible.names name (assembled.named name member) (same ▸ given)
      rw [Option.bind_some, Option.bind_some]
      have found : definition (inlineSchemaWith schema components budget).schema name =
        definition root name := by
        rw [assembled.document]
        split
        next => rfl
        next => exact definition_attach_other assembled.apart unwritten
      rw [found]
      rcases assembled.own.definition name with ⟨first, second⟩ | ⟨node, other, first, second, pair⟩
      · exact .inl ⟨second, first⟩
      · exact .inr ⟨node, other, first, second, pair⟩

/-- **An inlined document means what its source means.** -/
theorem inlined_evaluates (compatible : Compatible schema components)
    (whole : (inlineSchemaWith schema components budget).truncated = false) :
    Evaluates setting (resolveSource schema components) schema value verdict ↔
      Evaluates setting (resolveIn (inlineSchemaWith schema components budget).schema)
        (inlineSchemaWith schema components budget).schema value verdict := by
  have assembled : ∃ root defs, Assembled schema components budget root defs := by
    by_cases inlines : Inlines schema components budget
    · exact ⟨_, _, assembled_inline compatible inlines⟩
    · exact ⟨_, assembled_compact compatible inlines⟩
  obtain ⟨root, defs, assembled⟩ := assembled
  rw [(inlined_simulates compatible assembled whole).evaluates assembled.made]
  have document := assembled.document
  generalize resolveIn (inlineSchemaWith schema components budget).schema = resolve
  rw [document]
  by_cases empty : defs.isEmpty
  · rw [if_pos empty]
  · rw [if_neg empty]
    obtain ⟨members, rfl⟩ := assembled.object fun none => empty (List.isEmpty_iff.mpr none)
    exact evaluates_attach.symm

/-- **The budget does not change what a tool accepts.** -/
theorem budgets_agree (schema components : Json) (first second : Budget)
    (compatible : Compatible schema components)
    (wholeFirst : (inlineSchemaWith schema components first).truncated = false)
    (wholeSecond : (inlineSchemaWith schema components second).truncated = false)
    (setting : Setting) (value : Json) (verdict : Bool) :
    Evaluates setting (resolveIn (inlineSchemaWith schema components first).schema)
        (inlineSchemaWith schema components first).schema value verdict ↔
      Evaluates setting (resolveIn (inlineSchemaWith schema components second).schema)
        (inlineSchemaWith schema components second).schema value verdict :=
  (inlined_evaluates compatible wholeFirst).symm.trans (inlined_evaluates compatible wholeSecond)

end Documents

def plainSetting : Setting where
  equal first second := first.render == second.render
  whole printed := printed.endsWith ".0"
  elsewhere _ _ := true

def lists : Json := .object [("schemas", .object [("List", .object
  [("properties", .object [("rest", componentRef "List" [])])])])]

theorem fits_reference (name : String) :
    Fits lists [("$ref", .string (componentStart ++ name))] := by
  refine ⟨fun other _ demands => ?_, fun other body _ _ clause given value found => ?_,
    fun clause value _ found => ?_, fun key entries map found => ?_⟩
  · rcases demands with ⟨clause, has⟩ | has
    · cases clause <;> cases has
    · cases has
  · cases clause <;> cases found
  · cases clause <;> cases found
  · cases List.mem_singleton.mp (mem_of_lookup found)

theorem fits_lists : Fits lists [("properties", .object [("rest", componentRef "List" [])])] := by
  refine ⟨fun other reference => ?_, fun other body reference =>
    ?_, fun clause value literal found => ?_,
    fun key entries _ found => ?_⟩
  · cases reference
  · cases reference
  · cases clause
    case properties => exact absurd literal (by decide)
    all_goals cases found
  · cases List.mem_singleton.mp (mem_of_lookup found)
    rfl

theorem lists_compatible : Compatible (componentRef "List" []) lists := by
  have only : ∀ name body, component lists name = some body → body = .object
      [("properties", .object [("rest", componentRef "List" [])])] := by
    intro name body found
    cases List.mem_singleton.mp (mem_of_component found)
    rfl
  refine ⟨fun name body found => ?_, ⟨?_, fun name body found => ?_⟩,
    ⟨?_, fun name body found => ?_⟩,
    .of_none rfl, fun name body found => ?_, fun name _ given => ?_⟩
  · rw [only name body found]
    intro items same
    cases same
  · unfold RefsAlone
    decide +kernel
  · rw [only name body found]
    unfold RefsAlone
    decide +kernel
  · intro members inside
    cases List.mem_singleton.mp inside
    exact fits_reference _
  · rw [only name body found]
    intro members inside
    rcases List.mem_cons.mp inside with rfl | inside
    · exact fits_lists
    · cases List.mem_singleton.mp inside
      exact fits_reference _
  · rw [only name body found]
    rfl
  · have same : defsStart ++ name = "#/components/schemas/List" := by
      rcases given with here | ⟨other, body, found, here⟩
      · exact List.mem_singleton.mp here
      · rw [only other body found] at here
        exact List.mem_singleton.mp here
    have stripped := stripStart_defs name
    rw [same] at stripped
    revert stripped
    decide +kernel

theorem lists_agree : Evaluates plainSetting
    (resolveIn (inlineSchemaWith (componentRef "List" []) lists
        ⟨12, 200, 65536, 262144⟩).schema) (inlineSchemaWith (componentRef "List" []) lists
          ⟨12, 200, 65536, 262144⟩).schema (.object [("rest", .object [])]) true ↔
      Evaluates plainSetting (resolveIn (inlineSchemaWith (componentRef "List" []) lists
        ⟨0, 200, 65536, 262144⟩).schema) (inlineSchemaWith (componentRef "List" []) lists
          ⟨0, 200, 65536, 262144⟩).schema (.object [("rest", .object [])]) true :=
  budgets_agree _ lists _ _ lists_compatible (by decide +kernel)
    (by decide +kernel) plainSetting _ true

def names : Json := .object [("schemas", .object [("Name", .object [("type", .string "string")])])]

/-- **A keyword beside a reference to which the component gives another value** counts only where it
is not merged. -/
theorem merged_type_wins :
    (inlineSchemaWith (componentRef "Name" [("type", .string "integer")]) names
        ⟨12, 200, 65536, 262144⟩).truncated = false ∧
      (inlineSchemaWith (componentRef "Name" [("type", .string "integer")]) names
        ⟨0, 200, 65536, 262144⟩).truncated = false ∧
      Evaluates plainSetting (resolveIn (inlineSchemaWith
        (componentRef "Name" [("type", .string "integer")]) names ⟨12, 200, 65536, 262144⟩).schema)
        (inlineSchemaWith (componentRef "Name" [("type", .string "integer")]) names
          ⟨12, 200, 65536, 262144⟩).schema (.string "notes") true ∧
      ¬Evaluates plainSetting (resolveIn (inlineSchemaWith
        (componentRef "Name" [("type", .string "integer")]) names ⟨0, 200, 65536, 262144⟩).schema)
        (inlineSchemaWith (componentRef "Name" [("type", .string "integer")]) names
          ⟨0, 200, 65536, 262144⟩).schema (.string "notes") true := by
  refine ⟨by decide +kernel, by decide +kernel, ⟨3, by decide +kernel⟩, fun accepted => ?_⟩
  have rejected := accepted.unique ⟨3, (by decide +kernel : _ = some false)⟩
  cases rejected

end Ziee.Control
