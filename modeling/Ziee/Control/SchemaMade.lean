/-
**What the walk and the rewriting make of a schema** is `Unfolds`.

* `Fits` — an object demands the same however its references are written: nothing beside a reference
  is set by its component too, and what holds no schemas holds no references.
* **`made_unfolds`**.
-/

import Ziee.Control.SchemaUnfolds

namespace Ziee.Control

open Ziee.Providers (Json)
open Ziee.Library

/-- An object has a keyword, or definitions. -/
def Demands (members : Members) : Prop :=
  (∃ clause : Clause, (members.lookup clause.key).isSome) ∨ (members.lookup "$defs").isSome

/-- **An object demands the same however its references are written.** -/
structure Fits (components : Json) (members : Members) : Prop where
  -- with a keyword or definitions beside it, a reference is to an object
  object : ∀ name, componentRefName members = some name → Demands members →
    ∃ body, component components name = some body ∧ ¬Bare components body
  -- no keyword stands beside it to which the component gives another value
  apart : ∀ name body, componentRefName members = some name →
    component components name = some body →
    ∀ (clause : Clause) given value, members.lookup clause.key = some given →
      Sets components clause.key value body → keywordOf clause.key = .literal ∧ value = given
  -- only schemas have references
  literal : ∀ clause value, keywordOf (Clause.key clause) = .literal →
    members.lookup clause.key = some value →
      ∀ text ∈ allPointers value, stripStart componentStart text = none
  named : ∀ key entries, keywordOf key = .map → members.lookup key = some (.object entries) →
    componentRefName entries = none

structure Sound (schema components node : Json) : Prop where
  alone : RefsAlone node
  fits : ∀ members ∈ nodes node, Fits components members
  given : ∀ text ∈ allPointers node, Given schema components text

section Sound

variable {schema components node value : Json} {members : Members} {key : String}

theorem RefsAlone.inside {keyword : Keyword} (alone : RefsAlone value)
    (inner : node ∈ schemasOf keyword value) : RefsAlone node := by
  cases value with
  | object members =>
    cases keyword with
    | map =>
      obtain ⟨entry, there, rfl⟩ := List.mem_map.mp inner
      exact alone.member there
    | array => cases inner
    | single | boolean => exact List.mem_singleton.mp inner ▸ alone
    | literal => cases inner
  | array items =>
    cases keyword with
    | map => cases inner
    | array | single => exact alone.item inner
    | boolean | literal => cases inner
  | null | bool | number | string => cases inner

theorem Sound.inner (sound : Sound schema components (.object members))
    (there : (key, value) ∈ members)
    (inside : node ∈ schemasOf (keywordOf key) value) : Sound schema components node := by
  refine ⟨(sound.alone.member there).inside inside, fun object found => sound.fits object ?_,
    fun text here => sound.given text (allPointers_member there (allPointers_schema inside here))⟩
  rw [nodes, nodesUnder_eq]
  exact List.mem_cons_of_mem _ (List.mem_flatMap.mpr
    ⟨_, there, List.mem_flatMap.mpr ⟨node, inside, found⟩⟩)

theorem Sound.atom (noObjects : objects node = []) (noNodes : nodes node = []) :
    Sound schema components node := by
  refine ⟨fun members inside => ?_, fun members inside => ?_, fun text inside => ?_⟩
  · rw [noObjects] at inside
    cases inside
  · rw [noNodes] at inside
    cases inside
  · rw [allPointers, noObjects] at inside
    cases inside

theorem Sound.single (sound : Sound schema components (.object members))
    (there : (key, value) ∈ members)
    (single : keywordOf key = .single) (one : ∀ items, value ≠ .array items) :
    Sound schema components value := by
  cases value with
  | object entries =>
    refine sound.inner there ?_
    rw [single]
    exact List.mem_singleton_self _
  | array items => exact absurd rfl (one items)
  | null | bool | number | string => exact .atom rfl rfl

theorem Sound.self (sound : Sound schema components (.object members)) : Fits components members :=
  sound.fits members List.mem_cons_self

end Sound

/-! ### The values of a keyword -/

/-- **What was made of the value of a keyword**, schema by schema. -/
inductive ValueMade (related : Json → Json → Prop) : Keyword → Json → Json → Prop
  | literal {value : Json} : ValueMade related .literal value value
  | entries {given made : Members}
    (each : List.Forall₂ (fun entry twin => twin.1 = entry.1 ∧ related entry.2 twin.2) given made) :
    ValueMade related .map (.object given) (.object made)
  | noEntries {given made : Json} (first : ∀ members, given ≠ .object members)
    (second : ∀ members, made ≠ .object members) : ValueMade related .map given made
  | schemas {keyword : Keyword} {given made : List Json}
    (several : keyword = .array ∨ keyword = .single)
    (each : List.Forall₂ related given made) : ValueMade related keyword (.array given)
    (.array made)
  | noSchemas {given made : Json} (first : ∀ items, given ≠ .array items)
    (second : ∀ items, made ≠ .array items) : ValueMade related .array given made
  | one {given made : Json} (first : ∀ items, given ≠ .array items)
    (second : ∀ items, made ≠ .array items) (pair : related given made) :
    ValueMade related .single given made

section Values

variable {setting : Setting} {related : Json → Json → Prop} {given made : Json}

theorem asked_entries {entries twins : Members} (value : Json)
    (each : List.Forall₂ (fun entry twin => twin.1 = entry.1 ∧ related entry.2 twin.2) entries
      twins) :
    List.Forall₂ (Asked related)
      (entries.filterMap fun entry => (get entry.1 value).map (entry.2, ·))
      (twins.filterMap fun entry => (get entry.1 value).map (entry.2, ·)) := by
  induction each with
  | nil => exact .nil
  | @cons entry twin entries twins pair _ ih =>
    rw [List.filterMap_cons, List.filterMap_cons, pair.1]
    cases get entry.1 value with
    | none => exact ih
    | some field => exact .cons ⟨pair.2, rfl⟩ ih

theorem asked_zip {schemas twins : List Json} (each : List.Forall₂ related schemas twins)
    (items : List Json) : List.Forall₂ (Asked related) (schemas.zip items) (twins.zip items) := by
  induction each generalizing items with
  | nil => exact .nil
  | cons pair _ ih =>
    cases items with
    | nil => exact .nil
    | cons item items => exact .cons ⟨pair, rfl⟩ (ih items)

theorem asked_schemas {schemas twins : List Json} (value : Json)
    (each : List.Forall₂ related schemas twins) :
    List.Forall₂ (Asked related) (schemas.map (·, value)) (twins.map (·, value)) := by
  rw [List.forall₂_map_left_iff, List.forall₂_map_right_iff]
  exact each.imp fun _ _ pair => ⟨pair, rfl⟩

theorem asked_items (pair : related given made) (items : List Json) :
    List.Forall₂ (Asked related) (items.map (given, ·)) (items.map (made, ·)) := by
  rw [List.forall₂_map_left_iff, List.forall₂_map_right_iff, List.forall₂_same]
  exact fun item _ => ⟨pair, rfl⟩

theorem schemasConjunct_none (combine : List Bool → Bool) (value : Json)
    (none : ∀ items, given ≠ .array items) : schemasConjunct combine given value = .fixed true := by
  cases given with
  | array items => exact absurd rfl (none items)
  | object | null | bool | number | string => rfl

theorem propertiesConjunct_none (value : Json) (none : ∀ members, given ≠ .object members) :
    propertiesConjunct given value = .fixed true := by
  cases given with
  | object members => exact absurd rfl (none members)
  | array | null | bool | number | string => rfl

theorem itemsConjunct_one (value : Json) (one : ∀ items, given ≠ .array items) :
    itemsConjunct given value = all ((elements value).map (given, ·)) := by
  cases given with
  | array items => exact absurd rfl (one items)
  | object | null | bool | number | string => rfl

theorem matches_schemas (combine : List Bool → Bool) (value : Json)
    (pair : ValueMade related .array given made) :
    (schemasConjunct combine given value).Matches (Asked related)
    (schemasConjunct combine made value) := by
  generalize several : Keyword.array = keyword at pair
  cases pair with
  | schemas _ each => exact ⟨asked_schemas value each, rfl⟩
  | noSchemas first second =>
    rw [schemasConjunct_none combine value first, schemasConjunct_none combine value second]
    exact ⟨.nil, rfl⟩
  | literal | entries | noEntries | one => cases several

theorem matches_properties (value : Json) (pair : ValueMade related .map given made) :
    (propertiesConjunct given value).Matches (Asked related) (propertiesConjunct made value) := by
  generalize map : Keyword.map = keyword at pair
  cases pair with
  | entries each => exact ⟨asked_entries value each, rfl⟩
  | noEntries first second =>
    rw [propertiesConjunct_none value first, propertiesConjunct_none value second]
    exact ⟨.nil, rfl⟩
  | literal => cases map
  | schemas several _ =>
    subst map
    rcases several with several | several <;> cases several
  | noSchemas | one => cases map

theorem matches_items (value : Json) (pair : ValueMade related .single given made) :
    (itemsConjunct given value).Matches (Asked related) (itemsConjunct made value) := by
  generalize single : Keyword.single = keyword at pair
  cases pair with
  | schemas _ each => exact ⟨asked_zip each (elements value), rfl⟩
  | one first second pair =>
    rw [itemsConjunct_one value first, itemsConjunct_one value second]
    exact ⟨asked_items pair (elements value), rfl⟩
  | literal | entries | noEntries | noSchemas => cases single

theorem ValueMade.eq_of_literal (pair : ValueMade related .literal given made) : made = given := by
  generalize literal : Keyword.literal = keyword at pair
  cases pair with
  | literal => rfl
  | schemas several _ =>
    subst literal
    rcases several with several | several <;> cases several
  | entries | noEntries | noSchemas | one => cases literal

theorem ValueMade.matched {clause : Clause}
    (pair : ValueMade related (keywordOf clause.key) given made)
    (value : Json) : (clauseConjunct setting clause (some given) value).Matches (Asked related)
      (clauseConjunct setting clause (some made) value) := by
  have fixed : keywordOf clause.key = .literal →
    (clauseConjunct setting clause (some given) value).subs = [] →
      (clauseConjunct setting clause (some given) value).Matches (Asked related)
        (clauseConjunct setting clause (some made) value) := by
    intro literal none
    rw [literal] at pair
    rw [pair.eq_of_literal]
    refine ⟨?_, rfl⟩
    rw [none]
    exact .nil
  cases clause with
  | type | enum | required => exact fixed (by decide) rfl
  | properties => exact matches_properties value pair
  | items => exact matches_items value pair
  | allOf | anyOf | oneOf => exact matches_schemas _ value pair

/-- **Members whose values were made of those of others** demand the same. -/
theorem Beside.of_values {members others : Members} (reference : pointer others = pointer members)
    (values : ∀ clause : Clause, members.lookup clause.key = none ∧
      others.lookup clause.key = none ∨
      ∃ given made, members.lookup clause.key = some given ∧ others.lookup clause.key = some made ∧
        ValueMade related (keywordOf clause.key) given made) :
          Beside setting related members others := by
  refine ⟨reference, fun clause => ?_, fun clause literal => ?_, fun clause value => ?_⟩
  · rcases values clause with ⟨first, second⟩ | ⟨given, made, first, second, _⟩
    · rw [first, second]
    · rw [first, second]
      rfl
  · rcases values clause with ⟨first, second⟩ | ⟨given, made, first, second, pair⟩
    · rw [first, second]
    · rw [literal] at pair
      rw [first, second, pair.eq_of_literal]
  · rcases values clause with ⟨first, second⟩ | ⟨given, made, first, second, pair⟩
    · rw [first, second]
      exact ⟨.nil, rfl⟩
    · rw [first, second]
      exact pair.matched value

end Values

/-! ### The walk -/

section Walk

variable {setting : Setting} {schema components node value : Json} {budget : Budget}
  {onStack : String → Bool} {expand : String → Json → Nat → WalkState → Json × WalkState}
  {known : String → Prop} {related : Json → Json → Prop} {members : Members} {key : String}

/-- No walk forgets a name that it has put off. -/
def Keeps (components : Json) (budget : Budget) (onStack : String → Bool)
    (expand : String → Json → Nat → WalkState → Json × WalkState) : Prop :=
  ∀ node, NodeTraced (fun _ => True) (walkNode components budget onStack expand) node

def Walked (known : String → Prop) (related : Json → Json → Prop)
    (walked : Nat → WalkState → Json → Json × WalkState) (node : Json) : Prop :=
  ∀ depth before, (∀ name ∈ (walked depth before node).2.deferred, known name) →
    related node (walked depth before node).1

theorem walkItems_made (keeps : Keeps components budget onStack expand) (depth : Nat)
    (before : WalkState) {items : List Json}
    (each : ∀ item ∈ items, Walked known related (walkNode components budget onStack expand) item)
    (after : ∀ name ∈ (walkItems components budget onStack expand depth before items).2.deferred,
      known name) :
    List.Forall₂ related items (walkItems components budget onStack expand depth before
      items).1 := by
  induction items generalizing before with
  | nil => exact .nil
  | cons item items ih =>
    have rest : ∀ other ∈ items, NodeTraced (fun _ => True)
      (walkNode components budget onStack expand) other :=
      fun other _ => keeps other
    have later := walkItems_traced depth (walkNode components budget onStack expand depth before
      item).2 rest
    refine .cons (each item List.mem_cons_self depth before fun name member => ?_)
      (ih _ (fun other member => each other (List.mem_cons_of_mem _ member)) after)
    exact after name (later.kept name member)

theorem walkEntries_made (keeps : Keeps components budget onStack expand) (depth : Nat)
    (before : WalkState) {entries : Members} (each : ∀ entry ∈ entries, Walked known related
      (walkNode components budget onStack expand) entry.2)
    (after : ∀ name ∈ (walkEntries components budget onStack expand depth before
      entries).2.deferred, known name) :
    List.Forall₂ (fun entry twin => twin.1 = entry.1 ∧ related entry.2 twin.2) entries
      (walkEntries components budget onStack expand depth before entries).1 := by
  induction entries generalizing before with
  | nil => exact .nil
  | cons entry entries ih =>
    have rest : ∀ other ∈ entries,
        NodeTraced (fun _ => True) (walkNode components budget onStack expand) other.2 :=
      fun other _ => keeps other.2
    have later := walkEntries_traced depth (walkNode components budget onStack expand depth before
      entry.2).2 rest
    refine .cons ⟨rfl, each entry List.mem_cons_self depth before fun name member => ?_⟩
      (ih _ (fun other member => each other (List.mem_cons_of_mem _ member)) after)
    exact after name (later.kept name member)

theorem walkKeyword_made (keeps : Keeps components budget onStack expand) (keyword : Keyword)
    (other : keyword ≠ .boolean) (depth : Nat) (before : WalkState) (value : Json)
    (each : ∀ node ∈ schemasOf keyword value,
      Walked known related (walkNode components budget onStack expand) node)
    (self : keyword = .single → (∀ items, value ≠ .array items) →
      Walked known related (walkNode components budget onStack expand) value)
    (after : ∀ name ∈ (walkKeyword components budget onStack expand keyword depth before
      value).2.deferred, known name) :
    ValueMade related keyword value
      (walkKeyword components budget onStack expand keyword depth before value).1 := by
  have atom : (∀ members, value ≠ .object members) → (∀ items, value ≠ .array items) →
      walkKeyword components budget onStack expand keyword depth before value = (value, before) →
      walkNode components budget onStack expand depth before value = (value, before) →
      ValueMade related keyword value
        (walkKeyword components budget onStack expand keyword depth before value).1 := by
    intro noObject noArray same copied
    rw [same] at after ⊢
    cases keyword with
    | map => exact .noEntries noObject noObject
    | array => exact .noSchemas noArray noArray
    | single =>
      refine .one noArray noArray ?_
      have pair := self rfl noArray depth before
      rw [copied] at pair
      exact pair after
    | boolean => exact absurd rfl other
    | literal => exact .literal
  cases value with
  | object members =>
    cases keyword with
    | map =>
      exact .entries (walkEntries_made keeps (depth + 1) before
        (fun entry member => each entry.2 (List.mem_map_of_mem member)) after)
    | array => exact .noSchemas (fun items same => by cases same) fun items same => by cases same
    | single =>
      have schema := (keeps (.object members) (depth + 1) before).2 fun items same => by cases same
      exact .one (fun items same => by cases same) schema
        (self rfl (fun items same => by cases same) (depth + 1) before after)
    | boolean => exact absurd rfl other
    | literal => exact .literal
  | array items =>
    cases keyword with
    | map => exact .noEntries (fun members same => by cases same) fun members same => by cases same
    | array => exact .schemas (.inl rfl) (walkItems_made keeps (depth + 1) before each after)
    | single => exact .schemas (.inr rfl) (walkItems_made keeps (depth + 1) before each after)
    | boolean => exact absurd rfl other
    | literal => exact .literal
  | null | bool
  | number
  | string => exact atom (fun _ same => by cases same) (fun _ same => by cases same) rfl rfl

theorem keeps_members (keeps : Keeps components budget onStack expand) (depth : Nat)
    (before : WalkState) (members : Members) : ∀ name ∈ before.deferred,
      name ∈ (walkMembers components budget onStack expand depth before members).2.deferred :=
  (walkMembers_traced depth before fun _ _ node _ => keeps node).kept

/-- **A member is walked on its own**, and what it puts off stays put off. -/
theorem lookup_walkMembers_kept (keeps : Keeps components budget onStack expand) (depth : Nat)
    (before : WalkState) {given : Json} (found : members.lookup key = some given) :
    ∃ reached, (walkMembers components budget onStack expand depth before members).1.lookup key =
        some (walkKeyword components budget onStack expand (keywordOf key) depth reached given).1 ∧
      ∀ name ∈ (walkKeyword components budget onStack expand
        (keywordOf key) depth reached given).2.deferred,
        name ∈ (walkMembers components budget onStack expand depth before members).2.deferred := by
  induction members generalizing before with
  | nil => cases found
  | cons member members ih =>
    obtain ⟨first, value⟩ := member
    rw [List.lookup_cons] at found
    by_cases same : key = first
    · subst same
      rw [beq_self_eq_true] at found
      cases found
      refine ⟨before, ?_, keeps_members keeps depth _ members⟩
      rw [walkMembers]
      simp
    · rw [beq_eq_false_iff_ne.mpr same] at found
      obtain ⟨reached, walked, kept⟩ := ih _ found
      refine ⟨reached, ?_, kept⟩
      rw [walkMembers, List.lookup_cons, beq_eq_false_iff_ne.mpr same]
      exact walked

theorem Clause.keyword_ne_boolean (clause : Clause) : keywordOf clause.key ≠ .boolean := by
  cases clause <;> decide

theorem walkMembers_beside (keeps : Keeps components budget onStack expand)
    (sound : Sound schema components (.object members))
    (each : ∀ inner, Sound schema components inner →
      Walked known related (walkNode components budget onStack expand) inner)
    (depth : Nat) (before : WalkState)
    (after : ∀ name ∈ (walkMembers components budget onStack expand depth before
      members).2.deferred, known name) :
    Beside setting related members (walkMembers components budget onStack expand depth before
      members).1 := by
  refine Beside.of_values ?_ fun clause => ?_
  · rw [pointer, lookup_walkMembers_ref, pointer]
  · cases found : members.lookup clause.key with
    | none =>
      obtain ⟨reached, same⟩ :=
        lookup_walkMembers components budget onStack expand depth before members clause.key
      rw [found] at same
      exact .inl ⟨rfl, same⟩
    | some given =>
      obtain ⟨reached, walked, kept⟩ := lookup_walkMembers_kept keeps depth before found
      have there := mem_of_lookup found
      exact .inr ⟨given, _, rfl, walked, walkKeyword_made keeps _ clause.keyword_ne_boolean depth
        reached given (fun node inside => each node (sound.inner there inside))
        (fun single one => each given (sound.single there single one))
        fun name member => after name (kept name member)⟩

abbrev WalkState.put (state : WalkState) (name : String) : WalkState :=
  { state with deferred := state.deferred.insert name }

abbrev WalkState.count (state : WalkState) : WalkState :=
    { state with expansions := state.expansions + 1 }

section Cases

variable (components budget onStack expand)

/-- **What the walk of an object can do.** -/
theorem walkNode_cases (depth : Nat) (before : WalkState) (members : Members) :
    (componentRefName members = none ∧
      walkNode components budget onStack expand depth before (.object members) =
        (.object (walkMembers components budget onStack expand depth before members).1,
          (walkMembers components budget onStack expand depth before members).2)) ∨
    (∃ name, componentRefName members = some name ∧ component components name = none ∧
      walkNode components budget onStack expand depth before
        (.object members) = (unresolved name, before)) ∨
    (∃ name, componentRefName members = some name ∧
      walkNode components budget onStack expand depth before (.object members) =
        (defsRef name (siblings
          (walkMembers components budget onStack expand depth (before.put name) members).1),
          (walkMembers components budget onStack expand depth (before.put name) members).2)) ∨
    ∃ name target, componentRefName members = some name ∧ component components name = some target ∧
      onStack name = false ∧
      walkNode components budget onStack expand depth before (.object members) =
        (mergeSiblings (expand name target (depth + 1) before.count).1 (siblings
          (walkMembers components budget onStack expand depth
            (expand name target (depth + 1) before.count).2 members).1),
          (walkMembers components budget onStack expand depth
            (expand name target (depth + 1) before.count).2 members).2) := by
  unfold walkNode walkObject
  cases reference : componentRefName members with
  | none => exact .inl ⟨rfl, rfl⟩
  | some name =>
    dsimp only
    cases found : component components name with
    | none => exact .inr (.inl ⟨name, rfl, found, rfl⟩)
    | some target =>
      dsimp only
      by_cases defer : mustDefer budget onStack name depth before
      · rw [if_pos defer]
        exact .inr (.inr (.inl ⟨name, rfl, rfl⟩))
      · rw [if_neg defer]
        simp only [mustDefer, Bool.or_eq_true, not_or, Bool.not_eq_true] at defer
        exact .inr (.inr (.inr ⟨name, target, rfl, found, defer.1.1, rfl⟩))

end Cases

def Objects (components : Json) (expand : String → Json → Nat → WalkState → Json × WalkState) :
    Prop :=
  ∀ name target depth before, component components name = some target → ¬Bare components target →
    ∃ members, (expand name target depth before).1 = .object members

theorem objects_self : Objects components fun _ target _ state => (target, state) := by
  intro name target _ _ _ whole
  by_contra none
  exact whole (.literal fun members same => none ⟨members, same⟩)

theorem walkNode_object (objects : Objects components expand) (depth : Nat) (before : WalkState)
    (whole : ¬Bare components node) :
    ∃ members, (walkNode components budget onStack expand depth before node).1 =
      .object members := by
  cases node with
  | object members =>
    rcases walkNode_cases components budget onStack expand depth before members with
      ⟨_, same⟩ | ⟨_, _, _, same⟩ | ⟨_, _, same⟩ | ⟨name, target, reference, found, _, same⟩
    · rw [same]
      exact ⟨_, rfl⟩
    · rw [same]
      exact ⟨_, rfl⟩
    · rw [same]
      exact ⟨_, rfl⟩
    · obtain ⟨entries, inner⟩ := objects name target (depth + 1) before.count found
        fun bare => whole (.target reference found bare)
      rw [same, inner]
      exact ⟨_, rfl⟩
  | array | null | bool | number
  | string => exact absurd (.literal fun _ same => by cases same) whole

/-- **A schema that does not end in a literal is walked to an object.** -/
theorem walk_object (room : Nat) (stack : List String) (depth : Nat) (before : WalkState)
    (whole : ¬Bare components node) :
    ∃ members, (walk components budget room stack depth before node).1 = .object members := by
  induction room generalizing stack node depth before with
  | zero =>
    exact walkNode_object objects_self depth before whole
  | succ room ih =>
    exact walkNode_object (fun name _ depth before _ whole => ih (name :: stack) depth before whole)
      depth before whole

theorem Objects.demanded (objects : Objects components expand) (fits : Fits components members)
    {name : String} {target : Json} (depth : Nat) (before : WalkState)
    (reference : componentRefName members = some name)
    (found : component components name = some target) (demands : Demands members) : ∃ entries,
    (expand name target depth before).1 = .object entries := by
  obtain ⟨body, defined, notBare⟩ := fits.object name reference demands
  rw [found] at defined
  cases defined
  exact objects name target depth before found notBare

/-- **One schema that has been walked.** -/
theorem walkNode_unfolds (keeps : Keeps components budget onStack expand)
    (objects : Objects components expand)
    (expands : ∀ name target depth before, onStack name = false →
      component components name = some target →
      (∀ other ∈ (expand name target depth before).2.deferred, known other) →
      Unfolds setting components known (Given schema components) related target
        (expand name target depth before).1)
    (sound : Sound schema components node)
    (each : ∀ inner, Sound schema components inner →
      Walked known related (walkNode components budget onStack expand) inner)
    (depth : Nat) (before : WalkState)
    (after : ∀ name ∈ (walkNode components budget onStack expand depth before node).2.deferred,
      known name) :
    Unfolds setting components known (Given schema components) related node
      (walkNode components budget onStack expand depth before node).1 := by
  cases node with
  | object members =>
    have beside : ∀ before, (∀ name ∈ (walkMembers components budget onStack expand depth before
        members).2.deferred, known name) → Beside setting related members
          (walkMembers components budget onStack expand depth before members).1 :=
      walkMembers_beside keeps sound each depth
    have fits := sound.self
    rcases walkNode_cases components budget onStack expand depth before members with
      ⟨reference, same⟩ | ⟨name, reference, unknown, same⟩ | ⟨name, reference, same⟩ |
      ⟨name, target, reference, found, off, same⟩
    · rw [same] at after ⊢
      refine .plain reference (fun text here => sound.given text ?_) (beside before after)
      rw [allPointers_object, here]
      exact List.mem_append_left _ (List.mem_singleton_self _)
    · rw [same]
      refine .missing reference unknown fun clause => ?_
      by_contra present
      obtain ⟨body, defined, _⟩ :=
        fits.object name reference (.inl ⟨clause, Option.isSome_iff_ne_none.mpr present⟩)
      rw [unknown] at defined
      cases defined
    · rw [same] at after ⊢
      refine .deferred reference (after name ?_) (beside _ after)
      exact keeps_members keeps depth (before.put name) members name List.mem_insert_self
    · rw [same] at after ⊢
      have early := fun other member => after other
        (keeps_members keeps depth _ members other member)
      refine .expanded reference found (expands name target
        (depth + 1) before.count off found early)
        (beside _ after) (fits.apart name target reference found) fun ⟨clause, has⟩ => ?_
      rw [(beside _ after).same] at has
      exact objects.demanded fits (depth + 1) before.count reference found (.inl ⟨clause, has⟩)
  | array | null
  | bool | number
  | string => exact .literal (fun _ same => by cases same) (fun _ same => by cases same) rfl

end Walk

/-! ### The rewriting -/

section Rewriting

variable {setting : Setting} {schema components node value : Json} {known : String → Prop}
  {related : Json → Json → Prop} {members : Members} {key : String}

/-- **Without a reference to a component** there is nothing to rewrite. -/
theorem rewriteRefs_eq_self (none : ∀ text ∈ allPointers node,
    stripStart componentStart text = none) : rewriteRefs node = node := by
  induction node using insideInduction with
  | step node ih =>
    cases node with
    | object members =>
      have foreign : componentRefName members = Option.none := by
        rw [componentRefName]
        cases found : pointer members with
        | none => rfl
        | some text =>
          refine none text ?_
          rw [allPointers_object, found]
          exact List.mem_append_left _ (List.mem_singleton_self _)
      rw [rewriteRefs, foreign]
      dsimp only
      rw [rewriteMembers_eq]
      refine congrArg Json.object ((List.map_congr_left fun member there => ?_).trans
        (List.map_id _))
      rw [ih member.2 (size_member there) fun text here =>
        none text (allPointers_member there here)]
      rfl
    | array items =>
      rw [rewriteRefs, rewriteItems_eq]
      refine congrArg Json.array ((List.map_congr_left fun item there => ?_).trans (List.map_id _))
      exact ih item (size_item there) fun text here =>
        none text (mem_allPointers_array.mpr ⟨item, there, here⟩)
    | null | bool | number | string => rfl

def Rewritten (known : String → Prop) (related : Json → Json → Prop) (node : Json) : Prop :=
  (∀ name ∈ namesIn [] node, known name) → related node (rewriteRefs node)

theorem rewriteMembers_entries
    (each : ∀ member ∈ members, related member.2 (rewriteRefs member.2)) :
    List.Forall₂ (fun entry twin => twin.1 = entry.1 ∧ related entry.2 twin.2) members
      (rewriteMembers members) := by
  rw [rewriteMembers_eq, List.forall₂_map_right_iff, List.forall₂_same]
  exact fun member there => ⟨rfl, each member there⟩

theorem rewriteItems_each {items : List Json}
    (names : ∀ name ∈ namesIn [] (.array items), known name)
    (each : ∀ item ∈ items, Rewritten known related item) :
    List.Forall₂ related items (rewriteItems items) := by
  rw [rewriteItems_eq, List.forall₂_map_right_iff, List.forall₂_same]
  exact fun item there => each item there fun name here =>
    names name (mem_namesIn_array.mpr ⟨item, there, here⟩)

theorem rewriteRefs_ne_array (one : ∀ items, node ≠ .array items) (items : List Json) :
    rewriteRefs node ≠ .array items := by
  intro same
  cases node with
  | object members =>
    obtain ⟨others, whole, _⟩ := rewriteRefs_object members
    rw [whole] at same
    cases same
  | array items => exact one items rfl
  | null | bool | number | string => cases same

theorem rewriteRefs_ne_object (literal : ∀ members, node ≠ .object members) (members : Members) :
    rewriteRefs node ≠ .object members := by
  intro same
  cases node with
  | object members => exact literal members rfl
  | array | null | bool | number | string => cases same

/-- **The value of a keyword that has been rewritten.** -/
theorem rewriteValue_made (sound : Sound schema components (.object members))
    (other : keywordOf key ≠ .boolean)
    (literal : keywordOf key = .literal → rewriteRefs value = value)
    (found : members.lookup key = some value) (names : ∀ name ∈ namesIn [] value, known name)
    (each : ∀ inner, Sound schema components inner → Rewritten known related inner) :
    ValueMade related (keywordOf key) value (rewriteRefs value) := by
  have there := mem_of_lookup found
  have inner : ∀ node, node ∈ schemasOf (keywordOf key) value → Rewritten known related node :=
    fun node inside => each node (sound.inner there inside)
  have several : ∀ items, value = .array items → keywordOf key = .array ∨ keywordOf key = .single →
        List.Forall₂ related items (rewriteItems items) := by
    rintro items rfl kind
    refine rewriteItems_each names fun item member => inner item ?_
    rcases kind with kind | kind
    · rw [kind]
      exact member
    · rw [kind]
      exact member
  cases kind : keywordOf key with
  | map =>
    by_cases whole : ∃ entries, value = .object entries
    · obtain ⟨entries, rfl⟩ := whole
      have plain := sound.self.named key entries kind found
      rw [rewriteRefs, plain]
      refine .entries (rewriteMembers_entries fun entry member => inner entry.2 ?_ fun name here =>
        ?_)
      · rw [kind]
        exact List.mem_map_of_mem member
      · exact names name ((mem_namesIn_object plain).mpr ⟨entry, member, here⟩)
    · have noObject : ∀ members, value ≠ .object members := fun members same =>
        whole ⟨members, same⟩
      exact .noEntries noObject (rewriteRefs_ne_object noObject)
  | array =>
    by_cases whole : ∃ items, value = .array items
    · obtain ⟨items, rfl⟩ := whole
      exact .schemas (.inl rfl) (several items rfl (.inl kind))
    · have noArray : ∀ items, value ≠ .array items := fun items same => whole ⟨items, same⟩
      exact .noSchemas noArray (rewriteRefs_ne_array noArray)
  | single =>
    by_cases whole : ∃ items, value = .array items
    · obtain ⟨items, rfl⟩ := whole
      exact .schemas (.inr rfl) (several items rfl (.inr kind))
    · have noArray : ∀ items, value ≠ .array items := fun items same => whole ⟨items, same⟩
      exact .one noArray (rewriteRefs_ne_array noArray)
        (each value (sound.single there kind noArray) names)
  | boolean => exact absurd kind other
  | literal =>
    rw [literal kind]
    exact .literal

/-- **The members of a rewritten schema.** -/
theorem rewriteMembers_beside (sound : Sound schema components (.object members))
    (names : ∀ key value, (key, value) ∈ members → key ≠ "$ref" →
      ∀ name ∈ namesIn [] value, known name)
    (each : ∀ inner, Sound schema components inner → Rewritten known related inner) :
    Beside setting related members (rewriteMembers members) := by
  refine Beside.of_values (pointer_rewriteMembers members) fun clause => ?_
  rw [lookup_rewriteMembers]
  cases found : members.lookup clause.key with
  | none => exact .inl ⟨rfl, rfl⟩
  | some value =>
    refine .inr ⟨value, _, rfl, rfl, rewriteValue_made sound clause.keyword_ne_boolean
      (fun literal => ?_) found
      (names clause.key value (mem_of_lookup found) clause.key_ne_ref) each⟩
    exact rewriteRefs_eq_self (sound.self.literal clause value literal found)

theorem siblings_rewriteMembers (alone : ∀ text ∈ allPointersUnder (siblings members),
      stripStart componentStart text = none) : siblings
        (rewriteMembers members) = siblings members := by
  rw [rewriteMembers_eq, siblings, siblings, List.filter_map]
  refine (List.map_congr_left fun member there => ?_).trans (List.map_id _)
  rw [rewriteRefs_eq_self fun text here =>
    alone text (mem_allPointersUnder.mpr ⟨member, there, here⟩)]
  rfl

theorem names_beside (alone : RefsAlone (.object members))
    (names : ∀ name ∈ namesIn [] (.object members), known name) (key : String) (value : Json)
    (there : (key, value) ∈ members) (other : key ≠ "$ref") : ∀ name ∈ namesIn [] value,
      known name := by
  intro name here
  cases reference : componentRefName members with
  | none => exact names name ((mem_namesIn_object reference).mpr ⟨_, there, here⟩)
  | some target =>
    have inside : (key, value) ∈ siblings members := by
      rw [siblings, List.mem_filter]
      exact ⟨there, bne_iff_ne.mpr other⟩
    have foreign := alone members List.mem_cons_self (by rw [reference]; rfl) _
      (mem_allPointersUnder.mpr ⟨_, inside, pointer_of_mem_namesIn here⟩)
    rw [stripStart_append] at foreign
    cases foreign

/-- **One schema that has been rewritten.** -/
theorem rewriteRefs_unfolds (sound : Sound schema components node)
    (each : ∀ inner, Sound schema components inner → Rewritten known related inner)
    (names : ∀ name ∈ namesIn [] node, known name) :
    Unfolds setting components known (Given schema components) related node (rewriteRefs node) := by
  cases node with
  | object members =>
    cases reference : componentRefName members with
    | none =>
      have beside : Beside setting related members (rewriteMembers members) :=
        rewriteMembers_beside sound (names_beside sound.alone names) each
      rw [rewriteRefs, reference]
      refine .plain reference (fun text here => sound.given text ?_) beside
      rw [allPointers_object, here]
      exact List.mem_append_left _ (List.mem_singleton_self _)
    | some name =>
      have alone : ∀ text ∈ allPointersUnder (siblings members),
        stripStart componentStart text = none :=
        sound.alone members List.mem_cons_self (by rw [reference]; rfl)
      have beside : Beside setting related members (rewriteMembers members) :=
        rewriteMembers_beside sound (names_beside sound.alone names) each
      have made : Unfolds setting components known (Given schema components) related
        (.object members) (defsRef name (siblings (rewriteMembers members))) :=
        .deferred reference (names name (by rw [namesIn, reference]; exact List.mem_insert_self))
          beside
      rw [siblings_rewriteMembers alone] at made
      rw [rewriteRefs, reference]
      exact made
  | array items =>
    exact .literal (fun _ same => by cases same) (fun _ same => by cases same) rfl
  | null | bool
  | number
  | string => exact .literal (fun _ same => by cases same) (fun _ same => by cases same) rfl

end Rewriting

/-! ### Both -/

section Made

variable {setting : Setting} {schema components node other : Json} {budget : Budget}
    {known : String → Prop}

variable (schema components budget known) in
/-- **A schema that has been walked, or rewritten.** -/
inductive Made : Json → Json → Prop
  | walked {node : Json} (room : Nat) (stack : List String) (sound : Sound schema components node)
    (depth : Nat) (before : WalkState)
    (after : ∀ name ∈ (walk components budget room stack depth before node).2.deferred,
      known name) :
    Made node (walk components budget room stack depth before node).1
  | rewritten {node : Json} (sound : Sound schema components node)
    (names : ∀ name ∈ namesIn [] node, known name) : Made node (rewriteRefs node)

theorem walk_keeps (schemas : ∀ name body, component components name = some body → IsSchema body)
    (room : Nat) (stack : List String) (node : Json) :
    NodeTraced (fun _ => True) (walk components budget room stack) node :=
  walk_traced (fun name body found => ⟨schemas name body found, fun _ _ => trivial⟩) room stack node
    fun _ _ => trivial

/-- **The whole walk.** -/
theorem walk_unfolds (schemas : ∀ name body, component components name = some body → IsSchema body)
    (each : ∀ name body, component components name = some body → Sound schema components body)
    (room : Nat) (stack : List String) (sound : Sound schema components node) (depth : Nat)
    (before : WalkState)
    (after : ∀ name ∈ (walk components budget room stack depth before node).2.deferred,
      known name) :
    Unfolds setting components known (Given schema components)
      (Made schema components budget known) node
      (walk components budget room stack depth before node).1 := by
  induction room generalizing stack node depth before with
  | zero =>
    exact walkNode_unfolds (walk_keeps schemas 0 stack) objects_self
      (fun name target depth before off => by cases off) sound
      (fun inner sound depth before after => .walked 0 stack sound depth before after) depth before
        after
  | succ room ih =>
    exact walkNode_unfolds (walk_keeps schemas (room + 1) stack)
      (fun name _ depth before _ => walk_object room (name :: stack) depth before)
      (fun name target depth before _ found after =>
        ih (name :: stack) (each name target found) depth before after)
      sound (fun inner sound depth before after =>
        .walked (room + 1) stack sound depth before after)
      depth before after

/-- **What was made of a schema means the same**, once what it refers to does. -/
theorem made_unfolds (schemas : ∀ name body, component components name = some body → IsSchema body)
    (each : ∀ name body, component components name = some body → Sound schema components body)
    (made : Made schema components budget known node other) :
    Unfolds setting components known (Given schema components) (Made schema components budget known)
      node other := by
  cases made with
  | walked room stack sound depth before after =>
    exact walk_unfolds schemas each room stack sound depth before after
  | rewritten sound names =>
    exact rewriteRefs_unfolds sound (fun inner sound names => .rewritten sound names) names

end Made

end Ziee.Control
