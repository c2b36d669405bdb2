/-
**The references of a schema**, and what the walk and the rewriting make of them.

A reference stands in an object that is a schema: the schema itself, or a value of a keyword that
holds schemas.

* **`walk_traced`** — a walked schema has only references that were given, and those to names that
  the walk has put off.
* **`rewriteRefs_traced`** — likewise a rewritten one, where nothing stands beside a reference that
  has references itself.
-/

import Ziee.Control.SchemaInline

namespace Ziee.Control

open Ziee.Providers (Json)

variable {members rest beside target : Members} {items : List Json} {node value : Json}
  {key name text : String}

variable {keyword : Keyword}

theorem stripStart_append (start name : String) : stripStart start (start ++ name) = some name := by
  rw [stripStart, String.toList_append, if_pos
    (List.isPrefixOf_iff_prefix.mpr (List.prefix_append _ _)), List.drop_left, String.ofList_toList]

theorem of_stripStart {start : String} (stripped : stripStart start text = some name) :
    text = start ++ name := by
  rw [stripStart] at stripped
  split at stripped
  next starts =>
    obtain ⟨tail, same⟩ := List.isPrefixOf_iff_prefix.mp starts
    cases stripped
    rw [← same, List.drop_left]
    apply String.toList_injective
    rw [String.toList_append, String.toList_ofList, same]
  next => cases stripped

theorem stripStart_defs (name : String) : stripStart componentStart (defsStart ++ name) = none := by
  cases stripped : stripStart componentStart (defsStart ++ name) with
  | none => rfl
  | some other =>
    have same := congrArg String.toList (of_stripStart stripped)
    rw [String.toList_append, String.toList_append] at same
    have third := congrArg (fun chars => chars[2]?) same
    simp [defsStart, componentStart] at third

/-! ### Sizes -/

theorem insideInduction {motive : Json → Prop}
    (step : ∀ node, (∀ inner, sizeOf inner < sizeOf node → motive inner) → motive node)
    (node : Json) : motive node :=
  (measure (sizeOf : Json → Nat)).wf.induction node step

theorem size_item (member : value ∈ items) : sizeOf value < sizeOf (Json.array items) := by
  have := List.sizeOf_lt_of_mem member
  simp only [Json.array.sizeOf_spec]
  omega

theorem size_member (member : (key, value) ∈ members) :
    sizeOf value < sizeOf (Json.object members) := by
  have := List.sizeOf_lt_of_mem member
  simp only [Json.object.sizeOf_spec, Prod.mk.sizeOf_spec] at this ⊢
  omega

/-! ### Objects of a schema -/

mutual

/-- **The objects that are schemas.** -/
def nodes : Json → List Members
  | .object members => members :: nodesUnder members
  | _ => []

def nodesUnder : Members → List Members
  | [] => []
  | (key, value) :: rest => nodesOfKeyword (keywordOf key) value ++ nodesUnder rest

def nodesOfKeyword (keyword : Keyword) : Json → List Members
  | .object members =>
    match keyword with
    | .map => nodesOfEntries members
    | .single | .boolean => members :: nodesUnder members
    | _ => []
  | .array items =>
    match keyword with
    | .array | .single => nodesOfItems items
    | _ => []
  | _ => []

def nodesOfEntries : Members → List Members
  | [] => []
  | (_, value) :: rest => nodes value ++ nodesOfEntries rest

def nodesOfItems : List Json → List Members
  | [] => []
  | item :: rest => nodes item ++ nodesOfItems rest

end

def schemasOf (keyword : Keyword) : Json → List Json
  | .object members =>
    match keyword with
    | .map => members.map Prod.snd
    | .single | .boolean => [.object members]
    | _ => []
  | .array items =>
    match keyword with
    | .array | .single => items
    | _ => []
  | _ => []

theorem nodesOfEntries_eq (entries : Members) :
    nodesOfEntries entries = (entries.map Prod.snd).flatMap nodes := by
  induction entries with
  | nil => rfl
  | cons entry entries ih => rw [nodesOfEntries, ih, List.map_cons, List.flatMap_cons]

theorem nodesOfItems_eq (items : List Json) : nodesOfItems items = items.flatMap nodes := by
  induction items with
  | nil => rfl
  | cons item items ih => rw [nodesOfItems, ih, List.flatMap_cons]

theorem nodesOfKeyword_eq (keyword : Keyword) (value : Json) :
    nodesOfKeyword keyword value = (schemasOf keyword value).flatMap nodes := by
  cases value with
  | object members => cases keyword <;> simp [nodesOfKeyword, schemasOf, nodesOfEntries_eq, nodes]
  | array items => cases keyword <;> simp [nodesOfKeyword, schemasOf, nodesOfItems_eq]
  | null | bool | number | string => rfl

theorem nodesUnder_eq (members : Members) : nodesUnder members =
    members.flatMap fun member => (schemasOf (keywordOf member.1) member.2).flatMap nodes := by
  induction members with
  | nil => rfl
  | cons member members ih =>
    rw [nodesUnder, ih, List.flatMap_cons, nodesOfKeyword_eq]

theorem size_schema (member : (key, value) ∈ members)
    (inner : node ∈ schemasOf keyword value) : sizeOf node < sizeOf (Json.object members) := by
  have outer := size_member member
  suffices inside : sizeOf node ≤ sizeOf value by omega
  cases value with
  | object entries =>
    cases keyword with
    | map =>
      obtain ⟨entry, there, rfl⟩ := List.mem_map.mp inner
      exact (size_member there).le
    | array => cases inner
    | single | boolean => exact (congrArg sizeOf (List.mem_singleton.mp inner)).le
    | literal => cases inner
  | array items =>
    cases keyword with
    | map => cases inner
    | array | single => exact (size_item inner).le
    | boolean | literal => cases inner
  | null | bool | number | string => cases inner

/-- **The references of a schema.** -/
def pointers (node : Json) : List String := (nodes node).filterMap pointer

/-- The references below an object. -/
def pointersUnder (members : Members) : List String := (nodesUnder members).filterMap pointer

theorem pointers_object (members : Members) :
    pointers (.object members) = (pointer members).toList ++ pointersUnder members := by
  rw [pointers, nodes, List.filterMap_cons, pointersUnder]
  cases pointer members <;> rfl

theorem mem_pointersUnder : text ∈ pointersUnder members ↔
    ∃ member ∈ members, ∃ node ∈ schemasOf (keywordOf member.1) member.2, text ∈ pointers node := by
  rw [pointersUnder, nodesUnder_eq, List.mem_filterMap]
  constructor
  · rintro ⟨found, inside, here⟩
    obtain ⟨member, there, inside⟩ := List.mem_flatMap.mp inside
    obtain ⟨node, inner, inside⟩ := List.mem_flatMap.mp inside
    exact ⟨member, there, node, inner, List.mem_filterMap.mpr ⟨found, inside, here⟩⟩
  · rintro ⟨member, there, node, inner, inside⟩
    obtain ⟨found, inside, here⟩ := List.mem_filterMap.mp inside
    exact ⟨found, List.mem_flatMap.mpr ⟨member, there, List.mem_flatMap.mpr ⟨node, inner, inside⟩⟩,
      here⟩

theorem pointersUnder_subset (fewer : ∀ member ∈ rest, member ∈ members)
    (here : text ∈ pointersUnder rest) : text ∈ pointersUnder members := by
  obtain ⟨member, there, found⟩ := mem_pointersUnder.mp here
  exact mem_pointersUnder.mpr ⟨member, fewer member there, found⟩

theorem pointersUnder_append : text ∈ pointersUnder (members ++ rest) ↔
    text ∈ pointersUnder members ∨ text ∈ pointersUnder rest := by
  simp only [mem_pointersUnder, List.mem_append, or_and_right, exists_or]

/-! ### Beside a reference -/

theorem lookup_siblings (other : key ≠ "$ref") :
    (siblings members).lookup key = members.lookup key := by
  induction members with
  | nil => rfl
  | cons member members ih =>
    obtain ⟨first, value⟩ := member
    unfold siblings at ih ⊢
    by_cases same : first = "$ref"
    · rw [List.filter_cons_of_neg (by simp [same]), ih, List.lookup_cons]
      rw [beq_eq_false_iff_ne.mpr (same ▸ other)]
    · rw [List.filter_cons_of_pos (by simp [same]), List.lookup_cons, List.lookup_cons, ih]

theorem lookup_siblings_ref : (siblings members).lookup "$ref" = none := by
  rw [List.lookup_eq_none_iff]
  intro member inside
  have other := (List.mem_filter.mp inside).2
  rw [bne_iff_ne] at other ⊢
  exact other.symm

theorem mem_of_mem_siblings {member : String × Json} (inside : member ∈ siblings members) :
    member ∈ members := (List.mem_filter.mp inside).1

theorem lookup_append : (members ++ rest).lookup key = (members.lookup key).or
    (rest.lookup key) := by
  induction members with
  | nil => rfl
  | cons member members ih =>
    obtain ⟨first, value⟩ := member
    rw [List.cons_append, List.lookup_cons, List.lookup_cons, ih]
    cases key == first <;> rfl

theorem pointer_append (none : rest.lookup "$ref" = none) : pointer
    (members ++ rest) = pointer members := by
  rw [pointer, lookup_append, none, Option.or_none, pointer]

theorem pointers_comment (text : String) : pointers (comment text) = [] := by
  rw [comment, pointers_object]
  rfl

theorem mem_pointers_defsRef (here : text ∈ pointers (defsRef name (siblings members))) :
    text = defsStart ++ name ∨ text ∈ pointersUnder members := by
  rw [defsRef, pointers_object] at here
  rcases List.mem_append.mp here with own | under
  · refine .inl ?_
    have reference : pointer (("$ref", Json.string (defsStart ++ name)) :: siblings members) =
      some (defsStart ++ name) := rfl
    rw [reference] at own
    exact List.mem_singleton.mp own
  · refine .inr ?_
    obtain ⟨member, there, inner, found⟩ := mem_pointersUnder.mp under
    rcases List.mem_cons.mp there with rfl | later
    · exact absurd found.1 (List.not_mem_nil)
    · exact mem_pointersUnder.mpr ⟨member, mem_of_mem_siblings later, inner, found⟩

/-- **A merged schema** has the references of both. -/
theorem mem_pointers_merge (here : text ∈ pointers (mergeSiblings node (siblings members))) :
    text ∈ pointers node ∨ text ∈ pointersUnder members := by
  cases node with
  | object target =>
    have none : ((siblings members).filter fun member => (target.lookup member.1).isNone).lookup
        "$ref" = none := by
      rw [List.lookup_eq_none_iff]
      intro member inside
      exact List.lookup_eq_none_iff.mp lookup_siblings_ref member (List.mem_filter.mp inside).1
    rw [mergeSiblings, pointers_object, pointer_append none] at here
    rw [pointers_object]
    rcases List.mem_append.mp here with own | under
    · exact .inl (List.mem_append_left _ own)
    · rcases pointersUnder_append.mp under with first | second
      · exact .inl (List.mem_append_right _ first)
      · exact .inr (pointersUnder_subset
          (fun member inside => mem_of_mem_siblings (List.mem_filter.mp inside).1) second)
  | array | null | bool | number | string => exact .inl here

theorem mergeSiblings_array (same : mergeSiblings node beside = .array items) :
    node = .array items := by
  cases node with
  | object target => cases same
  | array others => exact same
  | null | bool | number | string => cases same

/-! ### The walk -/

/-- A schema is an object or a `bool`; nothing in an array is one. -/
def IsSchema (node : Json) : Prop := ∀ items, node ≠ .array items

/-- **What a walk has done**, with the references that it leaves: each was there before and is to no
component, or is to a name that has been put off. -/
structure Traced (source : String → Prop) (before after : WalkState)
    (texts : List String) : Prop where
  kept : ∀ name ∈ before.deferred, name ∈ after.deferred
  named : ∀ name ∈ after.deferred, name ∈ before.deferred ∨ source (componentStart ++ name)
  traced : ∀ text ∈ texts, source text ∧ stripStart componentStart text = none ∨
    ∃ name ∈ after.deferred, text = defsStart ++ name

section Traced

variable {source : String → Prop} {before after final : WalkState} {texts others : List String}

theorem Traced.refl (nothing : texts = []) : Traced source before before texts :=
  ⟨fun _ => id, fun _ => .inl, by simp [nothing]⟩

theorem Traced.trans (first : Traced source before after texts)
    (second : Traced source after final others) : Traced source before final (texts ++ others) := by
  refine ⟨fun name member => second.kept name (first.kept name member), fun name member => ?_,
    fun text member => ?_⟩
  · exact (second.named name member).elim (first.named name) .inr
  · rcases List.mem_append.mp member with here | here
    · exact (first.traced text here).imp_right fun ⟨name, member, same⟩ =>
        ⟨name, second.kept name member, same⟩
    · exact second.traced text here

theorem Traced.of_subset (traced : Traced source before after texts)
    (fewer : ∀ text ∈ others, text ∈ texts) : Traced source before after others :=
  ⟨traced.kept, traced.named, fun text member => traced.traced text (fewer text member)⟩

variable {components : Json} {budget : Budget} {onStack : String → Bool}
  {expand : String → Json → Nat → WalkState → Json × WalkState}

def ExpandTraced (source : String → Prop) (components : Json) (onStack : String → Bool)
    (expand : String → Json → Nat → WalkState → Json × WalkState) : Prop :=
  ∀ name target depth state, onStack name = false → component components name = some target →
    Traced source state (expand name target depth state).2
        (pointers (expand name target depth state).1) ∧
      IsSchema (expand name target depth state).1

theorem walkObject_traced (expands : ExpandTraced source components onStack expand)
    (budget : Budget)
    (depth : Nat) (state : WalkState) {walkBeside : WalkState → Members × WalkState}
    (own : ∀ text ∈ pointers (.object members), source text)
    (same : ∀ state, (walkBeside state).1.lookup "$ref" = members.lookup "$ref")
    (under : ∀ state, Traced source state (walkBeside state).2
      (pointersUnder (walkBeside state).1)) :
    Traced source state
        (walkObject components budget onStack expand depth state members walkBeside).2
        (pointers (walkObject components budget onStack expand depth state members walkBeside).1) ∧
      IsSchema (walkObject components budget onStack expand depth state members walkBeside).1 := by
  unfold walkObject
  cases found : componentRefName members with
  | none =>
    refine ⟨⟨(under state).kept, (under state).named, fun text here => ?_⟩,
      fun items same => by cases same⟩
    rw [pointers_object] at here
    rcases List.mem_append.mp here with first | later
    · rw [pointer, same, ← pointer, Option.mem_toList] at first
      refine .inl ⟨own text ?_, ?_⟩
      · rw [pointers_object]
        exact List.mem_append_left _ (Option.mem_toList.mpr first)
      · rw [componentRefName, Option.mem_def.mp first] at found
        exact found
    · exact (under state).traced text later
  | some name =>
    have known : source (componentStart ++ name) := by
      obtain ⟨text, here, stripped⟩ := Option.bind_eq_some_iff.mp found
      rw [← of_stripStart stripped]
      refine own text ?_
      rw [pointers_object]
      exact List.mem_append_left _ (Option.mem_toList.mpr here)
    dsimp only
    cases there : component components name with
    | none => exact ⟨.refl (pointers_comment _), fun items same => by cases same⟩
    | some target =>
      dsimp only
      split
      next =>
        have put := under { state with deferred := state.deferred.insert name }
        refine ⟨⟨fun other member => put.kept other (List.mem_insert_of_mem member),
          fun other member => ?_, fun text here => ?_⟩, fun items same => by cases same⟩
        · refine (put.named other member).elim (fun before => ?_) .inr
          exact (List.mem_insert_iff.mp before).elim (fun same => .inr (same ▸ known)) .inl
        · exact (mem_pointers_defsRef here).elim
            (fun same => .inr ⟨name, put.kept name List.mem_insert_self, same⟩) (put.traced text)
      next expanded =>
        have off : onStack name = false := by
          simp only [mustDefer, Bool.or_eq_true, not_or, Bool.not_eq_true] at expanded
          exact expanded.1.1
        obtain ⟨first, schema⟩ := expands name target (depth + 1)
          { state with expansions := state.expansions + 1 } off there
        refine ⟨?_, fun items same => ?_⟩
        · have both : Traced source state _ _ :=
            Traced.trans ⟨first.kept, first.named, first.traced⟩ (under _)
          exact both.of_subset fun text here => List.mem_append.mpr (mem_pointers_merge here)
        · exact schema items (mergeSiblings_array same)

def NodeTraced (source : String → Prop)
    (walked : Nat → WalkState → Json → Json × WalkState) (node : Json) : Prop :=
  ∀ depth state, Traced source state (walked depth state node).2
    (pointers (walked depth state node).1) ∧ (IsSchema node → IsSchema (walked depth state node).1)

theorem walkItems_traced (depth : Nat) (state : WalkState)
    (each : ∀ item ∈ items, NodeTraced source (walkNode components budget onStack expand) item) :
    Traced source state (walkItems components budget onStack expand depth state items).2
      ((walkItems components budget onStack expand depth state items).1.flatMap pointers) := by
  induction items generalizing state with
  | nil => exact .refl rfl
  | cons item items ih =>
    have first := (each item List.mem_cons_self depth state).1
    have later := ih (walkNode components budget onStack expand depth state item).2
      fun other member => each other (List.mem_cons_of_mem _ member)
    exact first.trans later

theorem walkEntries_traced (depth : Nat) {entries : Members} (state : WalkState)
    (each : ∀ entry ∈ entries,
      NodeTraced source (walkNode components budget onStack expand) entry.2) :
    Traced source state (walkEntries components budget onStack expand depth state entries).2
      (((walkEntries components budget onStack expand depth state entries).1.map Prod.snd).flatMap
        pointers) := by
  induction entries generalizing state with
  | nil => exact .refl rfl
  | cons entry entries ih =>
    have first := (each entry List.mem_cons_self depth state).1
    have later := ih (walkNode components budget onStack expand depth state entry.2).2
      fun other member => each other (List.mem_cons_of_mem _ member)
    exact first.trans later

theorem pointers_one (schema : IsSchema node) (one : keyword = .single ∨ keyword = .boolean) :
    ∀ text ∈ (schemasOf keyword node).flatMap pointers, text ∈ pointers node := by
  intro text here
  cases node with
  | array items => exact absurd rfl (schema items)
  | object members =>
    rcases one with rfl | rfl
    · simpa [schemasOf] using here
    · simpa [schemasOf] using here
  | null | bool | number | string => cases here

theorem walkKeyword_traced (keyword : Keyword) (depth : Nat) (state : WalkState) (value : Json)
    (each : ∀ node ∈ schemasOf keyword value,
      NodeTraced source (walkNode components budget onStack expand) node) :
    Traced source state (walkKeyword components budget onStack expand keyword depth state value).2
      ((schemasOf keyword
        (walkKeyword components budget onStack expand keyword depth state value).1).flatMap
          pointers) := by
  cases value with
  | object members =>
    have one : keyword = .single ∨ keyword = .boolean →
        NodeTraced source (walkNode components budget onStack expand) (.object members) →
        Traced source state (walkNode components budget onStack expand (depth + 1) state
          (.object members)).2 ((schemasOf keyword (walkNode components budget onStack expand
            (depth + 1) state (.object members)).1).flatMap pointers) := fun kind traced =>
      (traced (depth + 1) state).1.of_subset
        (pointers_one ((traced (depth + 1) state).2 fun items same => by cases same) kind)
    cases keyword with
    | map =>
      exact walkEntries_traced (depth + 1) state fun entry member =>
        each entry.2 (List.mem_map_of_mem member)
    | array => exact .refl rfl
    | single => exact one (.inl rfl) (each _ (List.mem_singleton_self _))
    | boolean => exact one (.inr rfl) (each _ (List.mem_singleton_self _))
    | literal => exact .refl rfl
  | array items =>
    cases keyword with
    | map => exact .refl rfl
    | array | single => exact walkItems_traced (depth + 1) state each
    | boolean | literal => exact .refl rfl
  | null | bool | number | string => exact .refl rfl

theorem walkMembers_traced (depth : Nat) (state : WalkState)
    (each : ∀ member ∈ members, ∀ node ∈ schemasOf (keywordOf member.1) member.2,
      NodeTraced source (walkNode components budget onStack expand) node) :
    Traced source state (walkMembers components budget onStack expand depth state members).2
      (pointersUnder (walkMembers components budget onStack expand depth state members).1) := by
  induction members generalizing state with
  | nil => exact .refl rfl
  | cons member members ih =>
    obtain ⟨key, value⟩ := member
    have first := walkKeyword_traced (keywordOf key) depth state value (each _ List.mem_cons_self)
    have later := ih (walkKeyword components budget onStack expand
      (keywordOf key) depth state value).2
      fun other member => each other (List.mem_cons_of_mem _ member)
    refine (first.trans later).of_subset fun text here => ?_
    obtain ⟨member, there, inner, inside, found⟩ := mem_pointersUnder.mp here
    rcases List.mem_cons.mp there with rfl | there
    · exact List.mem_append_left _ (List.mem_flatMap.mpr ⟨inner, inside, found⟩)
    · exact List.mem_append_right _ (mem_pointersUnder.mpr ⟨member, there, inner, inside, found⟩)

theorem walkKeyword_literal (depth : Nat) (state : WalkState) (value : Json) :
    walkKeyword components budget onStack expand .literal depth state value = (value, state) := by
  cases value <;> rfl

variable (components budget onStack expand) in
/-- **A member is walked on its own**, at some state. -/
theorem lookup_walkMembers (depth : Nat) (state : WalkState) (members : Members) (key : String) :
    ∃ reached, (walkMembers components budget onStack expand depth state members).1.lookup key =
      (members.lookup key).map fun value =>
        (walkKeyword components budget onStack expand (keywordOf key) depth reached value).1 := by
  induction members generalizing state with
  | nil => exact ⟨state, rfl⟩
  | cons member members ih =>
    obtain ⟨first, value⟩ := member
    by_cases same : key = first
    · subst same
      refine ⟨state, ?_⟩
      simp [walkMembers]
    · obtain ⟨reached, later⟩ :=
        ih (walkKeyword components budget onStack expand (keywordOf first) depth state value).2
      refine ⟨reached, ?_⟩
      rw [walkMembers, List.lookup_cons, List.lookup_cons, beq_eq_false_iff_ne.mpr same]
      exact later

theorem lookup_walkMembers_ref (depth : Nat) (state : WalkState) (members : Members) :
    (walkMembers components budget onStack expand depth state members).1.lookup "$ref" =
      members.lookup "$ref" := by
  obtain ⟨reached, same⟩ := lookup_walkMembers components budget onStack expand depth state members
    "$ref"
  have literal : keywordOf "$ref" = .literal := by decide
  rw [same, literal]
  simp only [walkKeyword_literal, Option.map_id']

/-- **One schema.** -/
theorem walkNode_traced (expands : ExpandTraced source components onStack expand) (node : Json)
    (own : ∀ text ∈ pointers node, source text) :
    NodeTraced source (walkNode components budget onStack expand) node := by
  induction node using insideInduction with
  | step node ih =>
    intro depth state
    cases node with
    | object members =>
      have under : ∀ state, Traced source state
          (walkMembers components budget onStack expand depth state members).2
          (pointersUnder (walkMembers components budget onStack expand depth state members).1) :=
        fun state => walkMembers_traced depth state fun member there inner inside =>
          ih inner (size_schema there inside) fun text here => own text (by
            rw [pointers_object]
            exact List.mem_append_right _ (mem_pointersUnder.mpr
              ⟨member, there, inner, inside, here⟩))
      have traced := walkObject_traced expands budget depth state own
        (fun state => lookup_walkMembers_ref depth state members) under
      exact ⟨traced.1, fun _ => traced.2⟩
    | array | null | bool | number | string => exact ⟨.refl rfl, id⟩

/-- **The whole walk.** -/
theorem walk_traced (schemas : ∀ name target, component components name = some target →
      IsSchema target ∧ ∀ text ∈ pointers target, source text)
    (room : Nat) (stack : List String) (node : Json) (own : ∀ text ∈ pointers node, source text) :
    NodeTraced source (walk components budget room stack) node := by
  induction room generalizing stack node with
  | zero =>
    exact walkNode_traced (fun name target depth state off => by cases off) node own
  | succ room ih =>
    refine walkNode_traced (fun name target depth state _ there => ?_) node own
    obtain ⟨schema, texts⟩ := schemas name target there
    have traced := ih (name :: stack) target texts depth state
    exact ⟨traced.1, traced.2 schema⟩

end Traced

/-! ### All objects -/

mutual

/-- **All objects**, also those in literals. -/
def objects : Json → List Members
  | .object members => members :: objectsUnder members
  | .array items => objectsOfItems items
  | _ => []

def objectsUnder : Members → List Members
  | [] => []
  | (_, value) :: rest => objects value ++ objectsUnder rest

def objectsOfItems : List Json → List Members
  | [] => []
  | item :: rest => objects item ++ objectsOfItems rest

end

/-- **All references.** -/
def allPointers (node : Json) : List String := (objects node).filterMap pointer

def allPointersUnder (members : Members) : List String := (objectsUnder members).filterMap pointer

theorem objectsUnder_eq (members : Members) :
    objectsUnder members = members.flatMap fun member => objects member.2 := by
  induction members with
  | nil => rfl
  | cons member members ih => rw [objectsUnder, ih, List.flatMap_cons]

theorem objectsOfItems_eq (items : List Json) : objectsOfItems items = items.flatMap objects := by
  induction items with
  | nil => rfl
  | cons item items ih => rw [objectsOfItems, ih, List.flatMap_cons]

theorem allPointers_object (members : Members) :
    allPointers (.object members) = (pointer members).toList ++ allPointersUnder members := by
  rw [allPointers, objects, List.filterMap_cons, allPointersUnder]
  cases pointer members <;> rfl

theorem mem_allPointersUnder :
    text ∈ allPointersUnder members ↔ ∃ member ∈ members, text ∈ allPointers member.2 := by
  rw [allPointersUnder, objectsUnder_eq, List.filterMap_flatMap, List.mem_flatMap]
  rfl

theorem mem_allPointers_array : text ∈ allPointers (.array items) ↔
    ∃ item ∈ items, text ∈ allPointers item := by
  rw [allPointers, objects, objectsOfItems_eq, List.filterMap_flatMap, List.mem_flatMap]
  rfl

theorem allPointers_member (member : (key, value) ∈ members) (here : text ∈ allPointers value) :
    text ∈ allPointers (.object members) := by
  rw [allPointers_object]
  exact List.mem_append_right _ (mem_allPointersUnder.mpr ⟨_, member, here⟩)

theorem allPointers_schema (inner : node ∈ schemasOf keyword value)
    (here : text ∈ allPointers node) : text ∈ allPointers value := by
  cases value with
  | object members =>
    cases keyword with
    | map =>
      obtain ⟨entry, there, rfl⟩ := List.mem_map.mp inner
      exact allPointers_member there here
    | array => cases inner
    | single | boolean => exact List.mem_singleton.mp inner ▸ here
    | literal => cases inner
  | array items =>
    cases keyword with
    | map => cases inner
    | array | single => exact mem_allPointers_array.mpr ⟨node, inner, here⟩
    | boolean | literal => cases inner
  | null | bool | number | string => cases inner

/-- **The references of a schema are among all.** -/
theorem allPointers_of_pointers (here : text ∈ pointers node) : text ∈ allPointers node := by
  induction node using insideInduction with
  | step node ih =>
    cases node with
    | object members =>
      rw [pointers_object] at here
      rw [allPointers_object]
      rcases List.mem_append.mp here with own | under
      · exact List.mem_append_left _ own
      · obtain ⟨member, there, inner, inside, found⟩ := mem_pointersUnder.mp under
        exact List.mem_append_right _ (mem_allPointersUnder.mpr ⟨member, there,
          allPointers_schema inside (ih inner (size_schema there inside) found)⟩)
    | array | null | bool | number | string => cases here

/-! ### Rewriting -/

/-- **Nothing beside a reference to a component refers to a component.** -/
def RefsAlone (node : Json) : Prop :=
  ∀ members ∈ objects node, (componentRefName members).isSome →
    ∀ text ∈ allPointersUnder (siblings members), stripStart componentStart text = none

theorem RefsAlone.member (alone : RefsAlone (.object members)) (there : (key, value) ∈ members) :
    RefsAlone value := fun other inside => alone other (by
  rw [objects, objectsUnder_eq]
  exact List.mem_cons_of_mem _ (List.mem_flatMap.mpr ⟨_, there, inside⟩))

theorem RefsAlone.item (alone : RefsAlone (.array items))
    (there : value ∈ items) : RefsAlone value :=
  fun other inside => alone other (by
    rw [objects, objectsOfItems_eq]
    exact List.mem_flatMap.mpr ⟨_, there, inside⟩)

section Names

variable {seen : List String} {other : String}

theorem mem_namesInMembers (each : ∀ member ∈ members, ∀ seen other,
      other ∈ namesIn seen member.2 ↔ other ∈ seen ∨ other ∈ namesIn [] member.2) :
    other ∈ namesInMembers seen members ↔
      other ∈ seen ∨ ∃ member ∈ members, other ∈ namesIn [] member.2 := by
  induction members generalizing seen with
  | nil => simp [namesInMembers]
  | cons member members ih =>
    rw [namesInMembers, ih fun member there => each member (List.mem_cons_of_mem _ there),
      each member List.mem_cons_self, List.exists_mem_cons_iff, or_assoc]

theorem mem_namesInItems (each : ∀ item ∈ items, ∀ seen other,
      other ∈ namesIn seen item ↔ other ∈ seen ∨ other ∈ namesIn [] item) :
    other ∈ namesInItems seen items ↔ other ∈ seen ∨ ∃ item ∈ items, other ∈ namesIn [] item := by
  induction items generalizing seen with
  | nil => simp [namesInItems]
  | cons item items ih =>
    rw [namesInItems, ih fun item there => each item (List.mem_cons_of_mem _ there),
      each item List.mem_cons_self, List.exists_mem_cons_iff, or_assoc]

theorem mem_namesIn (node : Json) : ∀ seen other,
    other ∈ namesIn seen node ↔ other ∈ seen ∨ other ∈ namesIn [] node := by
  induction node using insideInduction with
  | step node ih =>
    intro seen other
    cases node with
    | object members =>
      have each : ∀ member ∈ members, ∀ seen other,
          other ∈ namesIn seen member.2 ↔ other ∈ seen ∨ other ∈ namesIn [] member.2 :=
        fun member there => ih member.2 (size_member there)
      rw [namesIn, namesIn]
      cases componentRefName members with
      | some name => simp [or_comm]
      | none => simp [mem_namesInMembers each]
    | array items =>
      have each : ∀ item ∈ items, ∀ seen other,
          other ∈ namesIn seen item ↔ other ∈ seen ∨ other ∈ namesIn [] item :=
        fun item there => ih item (size_item there)
      rw [namesIn, namesIn]
      simp [mem_namesInItems each]
    | null | bool | number | string => simp [namesIn]

theorem mem_namesIn_object (none : componentRefName members = none) :
    other ∈ namesIn [] (.object members) ↔ ∃ member ∈ members, other ∈ namesIn [] member.2 := by
  rw [namesIn, none]
  dsimp only
  rw [mem_namesInMembers fun member _ => mem_namesIn member.2]
  simp

theorem mem_namesIn_array :
    other ∈ namesIn [] (.array items) ↔ ∃ item ∈ items, other ∈ namesIn [] item := by
  rw [namesIn, mem_namesInItems fun item _ => mem_namesIn item]
  simp

theorem pointer_of_name (found : componentRefName members = some name) :
    pointer members = some (componentStart ++ name) := by
  obtain ⟨text, here, stripped⟩ := Option.bind_eq_some_iff.mp found
  rw [← of_stripStart stripped]
  exact here

/-- **A name that is recorded** is one of a reference to a component. -/
theorem pointer_of_mem_namesIn (here : other ∈ namesIn [] node) :
    componentStart ++ other ∈ allPointers node := by
  induction node using insideInduction with
  | step node ih =>
    cases node with
    | object members =>
      cases found : componentRefName members with
      | some name =>
        rw [namesIn, found] at here
        have same : other = name := by simpa using here
        rw [allPointers_object, pointer_of_name found, same]
        exact List.mem_append_left _ (List.mem_singleton_self _)
      | none =>
        obtain ⟨member, there, inside⟩ := (mem_namesIn_object found).mp here
        exact allPointers_member there (ih member.2 (size_member there) inside)
    | array items =>
      obtain ⟨item, there, inside⟩ := mem_namesIn_array.mp here
      exact mem_allPointers_array.mpr ⟨item, there, ih item (size_item there) inside⟩
    | null | bool | number | string => cases here

end Names

theorem rewriteMembers_eq (members : Members) :
    rewriteMembers members = members.map fun member => (member.1, rewriteRefs member.2) := by
  induction members with
  | nil => rfl
  | cons member members ih => rw [rewriteMembers, ih, List.map_cons]

theorem rewriteItems_eq (items : List Json) : rewriteItems items = items.map rewriteRefs := by
  induction items with
  | nil => rfl
  | cons item items ih => rw [rewriteItems, ih, List.map_cons]

theorem lookup_rewriteMembers (members : Members) (key : String) :
    (rewriteMembers members).lookup key = (members.lookup key).map rewriteRefs := by
  induction members with
  | nil => rfl
  | cons member members ih =>
    rw [rewriteMembers, List.lookup_cons, List.lookup_cons, ih]
    cases key == member.1 <;> rfl

theorem pointer_rewriteMembers (members : Members) :
    pointer (rewriteMembers members) = pointer members := by
  rw [pointer, lookup_rewriteMembers, pointer]
  cases members.lookup "$ref" with
  | none => rfl
  | some value =>
    cases value with
    | object inner =>
      rw [Option.map_some, Option.bind_some, Option.bind_some, rewriteRefs]
      cases componentRefName inner <;> rfl
    | array | null | bool | number | string => rfl

/-- **A rewritten value** has only references that were there, to no component, and those to the
names that were recorded. -/
theorem rewriteRefs_traced (alone : RefsAlone node) (here : text ∈ allPointers (rewriteRefs node)) :
    text ∈ allPointers node ∧ stripStart componentStart text = none ∨
      ∃ name ∈ namesIn [] node, text = defsStart ++ name := by
  induction node using insideInduction with
  | step node ih =>
    cases node with
    | object members =>
      rw [rewriteRefs] at here
      cases found : componentRefName members with
      | some name =>
        rw [found] at here
        dsimp only [defsRef] at here
        rw [allPointers_object] at here
        rcases List.mem_append.mp here with own | under
        · refine .inr ⟨name, ?_, List.mem_singleton.mp own⟩
          rw [namesIn, found]
          exact List.mem_insert_self
        · obtain ⟨member, there, inside⟩ := mem_allPointersUnder.mp under
          rcases List.mem_cons.mp there with rfl | there
          · cases inside
          · refine .inl ⟨allPointers_member (mem_of_mem_siblings there) inside, ?_⟩
            refine alone members ?_ (by rw [found]; rfl) text
              (mem_allPointersUnder.mpr ⟨member, there, inside⟩)
            rw [objects]
            exact List.mem_cons_self
      | none =>
        rw [found] at here
        dsimp only at here
        rw [allPointers_object, pointer_rewriteMembers] at here
        rcases List.mem_append.mp here with own | under
        · refine .inl ⟨?_, ?_⟩
          · rw [allPointers_object]
            exact List.mem_append_left _ own
          · rw [componentRefName, Option.mem_toList.mp own] at found
            exact found
        · obtain ⟨member, there, inside⟩ := mem_allPointersUnder.mp under
          rw [rewriteMembers_eq] at there
          obtain ⟨member, source, rfl⟩ := List.mem_map.mp there
          rcases ih member.2 (size_member source)
            (alone.member source) inside with given | rewritten
          · exact .inl ⟨allPointers_member source given.1, given.2⟩
          · obtain ⟨name, recorded, same⟩ := rewritten
            exact .inr ⟨name, (mem_namesIn_object found).mpr ⟨member, source, recorded⟩, same⟩
    | array items =>
      rw [rewriteRefs, rewriteItems_eq] at here
      obtain ⟨item, there, inside⟩ := mem_allPointers_array.mp here
      obtain ⟨item, source, rfl⟩ := List.mem_map.mp there
      rcases ih item (size_item source) (alone.item source) inside with given | rewritten
      · exact .inl ⟨mem_allPointers_array.mpr ⟨item, source, given.1⟩, given.2⟩
      · obtain ⟨name, recorded, same⟩ := rewritten
        exact .inr ⟨name, mem_namesIn_array.mpr ⟨item, source, recorded⟩, same⟩
    | null | bool | number | string => cases here

end Ziee.Control
