/-
**An inlined schema is self-contained** (`inline_schema_with` of `control_mcp/schema_inline.rs`).

No reference of the result is to a component, and each one that was written is to a definition of
the result: the rewritten component, unless the definition was left out for its size.

* `Closing` — the invariant of `close_defs`, and `closeDefs_closed`: nothing that is needed is
  missing.
* **`inlined_self_contained`** — for any components, cyclic or not, and any budget.
-/

import Ziee.Control.SchemaPointers

namespace Ziee.Control

open Ziee.Providers (Json)

variable {components node root schema : Json} {members defs : Members} {key name text : String}
  {budget : Budget}

/-- The names of the definitions. -/
def keys (defs : Members) : List String := defs.map Prod.fst

variable {onStack : String → Bool} {expand : String → Json → Nat → WalkState → Json × WalkState}
  {entries : Members}

theorem lookup_isSome_iff : (defs.lookup name).isSome ↔ name ∈ keys defs := by
  induction defs with
  | nil => simp [keys]
  | cons entry defs ih =>
    rw [List.lookup_cons, keys, List.map_cons, List.mem_cons, ← keys, ← ih]
    by_cases same : name = entry.1
    · simp [same]
    · simp [same, beq_eq_false_iff_ne.mpr same]

theorem lookup_isNone_iff : (defs.lookup name).isNone ↔ name ∉ keys defs := by
  rw [← lookup_isSome_iff]
  cases defs.lookup name <;> simp

theorem mem_of_lookup {value : Json} (found : defs.lookup name = some value) :
    (name, value) ∈ defs := by
  induction defs with
  | nil => cases found
  | cons entry defs ih =>
    rw [List.lookup_cons] at found
    by_cases same : name = entry.1
    · subst same
      rw [beq_self_eq_true] at found
      cases found
      exact List.mem_cons_self
    · rw [beq_eq_false_iff_ne.mpr same] at found
      exact List.mem_cons_of_mem _ (ih found)

theorem component_of_not_mem (unknown : name ∉ componentNames components) :
    component components name = none := by
  unfold componentNames at unknown
  rw [component]
  cases schemas : get "schemas" components with
  | none => rfl
  | some value =>
    rw [schemas] at unknown
    cases value with
    | object members =>
      rw [Option.bind_some, get, ← Option.isNone_iff_eq_none]
      exact lookup_isNone_iff.mpr unknown
    | array | null | bool | number | string => rfl

theorem neededBy_of_not_mem (unknown : name ∉ componentNames components) :
    neededBy components name = [] := by
  rw [neededBy, component_of_not_mem unknown]

/-! ### The closure -/

/-- **The invariant of `close_defs`.** -/
structure Closing (components : Json) (seed queue : List String) (defs : Members) : Prop where
  values : ∀ entry ∈ defs, entry.2 = definitionOf components entry.1
  seeded : ∀ name ∈ seed, name ∈ queue ∨ name ∈ keys defs
  needed : ∀ entry ∈ defs, ∀ name ∈ neededBy components entry.1, name ∈ queue ∨ name ∈ keys defs
  origin : ∀ name, name ∈ queue ∨ name ∈ keys defs →
    name ∈ seed ∨ ∃ other, name ∈ neededBy components other

def roundsLeft (components : Json) (queue : List String) (defs : Members) : Nat :=
  queue.length + (((componentNames components).filter fun name => (defs.lookup name).isNone).map
    fun name => (neededBy components name).length).sum

theorem sum_filter_take {α : Type} [DecidableEq α] (count : α → Nat) {keep later : α → Bool}
    {taken : α}
    (fewer : ∀ item, later item = (keep item && decide (item ≠ taken))) (kept : keep taken = true)
    (items : List α) :
    ((items.filter later).map count).sum + (if taken ∈ items then count taken else 0) ≤
      ((items.filter keep).map count).sum := by
  induction items with
  | nil => simp
  | cons item items ih =>
    by_cases same : item = taken
    · subst same
      have gone : later item = false := by simp [fewer]
      rw [List.filter_cons_of_neg (by simp [gone]), List.filter_cons_of_pos kept,
        if_pos List.mem_cons_self, List.map_cons, List.sum_cons]
      have := le_trans (Nat.le_add_right _ _) ih
      omega
    · have here : (taken ∈ item :: items) ↔ taken ∈ items := by
        rw [List.mem_cons, or_iff_right (Ne.symm same)]
      rw [if_congr here rfl rfl]
      cases both : keep item with
      | false =>
        rw [List.filter_cons_of_neg (by simp [fewer, both]),
          List.filter_cons_of_neg (by simp [both])]
        exact ih
      | true =>
        rw [List.filter_cons_of_pos (by simp [fewer, both, same]), List.filter_cons_of_pos both,
          List.map_cons, List.map_cons, List.sum_cons, List.sum_cons]
        omega

/-- **A round that takes a name** leaves one less. -/
theorem roundsLeft_take (components : Json) (queue : List String) (body : Json)
    (new : (defs.lookup name).isNone) : roundsLeft components
        (((neededBy components name).filter fun other => (defs.lookup other).isNone).reverse ++
          queue)
        (defs ++ [(name, body)]) < roundsLeft components (name :: queue) defs := by
  unfold roundsLeft
  have found := List.length_filter_le (fun other => (defs.lookup other).isNone)
    (neededBy components name)
  have fewer : ∀ other, ((defs ++ [(name, body)]).lookup other).isNone =
      ((defs.lookup other).isNone && decide (other ≠ name)) := by
    intro other
    rw [lookup_append, List.lookup_cons]
    by_cases same : other = name
    · subst same
      cases defs.lookup other <;> simp
    · rw [beq_eq_false_iff_ne.mpr same]
      cases defs.lookup other <;> simp [same]
  have sum := sum_filter_take (fun name => (neededBy components name).length) fewer new
    (componentNames components)
  rw [List.length_append, List.length_reverse, List.length_cons]
  by_cases known : name ∈ componentNames components
  · rw [if_pos known] at sum
    omega
  · rw [neededBy_of_not_mem known] at found ⊢
    rw [List.filter_nil, List.length_nil]
    omega

theorem closeLoop_closing {seed : List String} (room : Nat) (queue : List String) (defs : Members)
    (closing : Closing components seed queue defs)
    (enough : roundsLeft components queue defs < room) :
    Closing components seed [] (closeLoop components room queue defs) := by
  induction room generalizing queue defs with
  | zero => omega
  | succ room ih =>
    cases queue with
    | nil => exact closing
    | cons name queue =>
      rw [closeLoop]
      by_cases taken : (defs.lookup name).isSome
      · rw [if_pos taken]
        have here := lookup_isSome_iff.mp taken
        have drop : ∀ other, other ∈ name :: queue ∨ other ∈ keys defs → other ∈ queue ∨
          other ∈ keys defs := by
          rintro other (queued | defined)
          · rcases List.mem_cons.mp queued with rfl | later
            · exact .inr here
            · exact .inl later
          · exact .inr defined
        refine ih queue defs ⟨closing.values, fun other member =>
          drop other (closing.seeded other member),
          fun entry member other needs => drop other (closing.needed entry member other needs),
          fun other where' => closing.origin other (where'.imp_left (List.mem_cons_of_mem _))⟩ ?_
        unfold roundsLeft at enough ⊢
        rw [List.length_cons] at enough
        omega
      · rw [if_neg taken]
        have new : (defs.lookup name).isNone :=
          lookup_isNone_iff.mpr fun known => taken (lookup_isSome_iff.mpr known)
        have added : keys (defs ++ [(name, definitionOf components name)]) = keys defs ++
          [name] := by
          rw [keys, List.map_append]
          rfl
        have move : ∀ other, other ∈ name :: queue ∨ other ∈ keys defs →
            other ∈ ((neededBy components name).filter fun other =>
              (defs.lookup other).isNone).reverse ++
              queue ∨ other ∈ keys (defs ++ [(name, definitionOf components name)]) := by
          rw [added]
          rintro other (queued | defined)
          · rcases List.mem_cons.mp queued with rfl | later
            · exact .inr (List.mem_append_right _ (List.mem_singleton_self _))
            · exact .inl (List.mem_append_right _ later)
          · exact .inr (List.mem_append_left _ defined)
        refine ih _ _ ⟨?_, fun other member => move other (closing.seeded other member), ?_, ?_⟩
          (by have := roundsLeft_take components queue (definitionOf components name) new
              omega)
        · intro entry member
          rcases List.mem_append.mp member with old | now
          · exact closing.values entry old
          · rw [List.mem_singleton.mp now]
        · intro entry member other needs
          rcases List.mem_append.mp member with old | now
          · exact move other (closing.needed entry old other needs)
          · rw [List.mem_singleton.mp now] at needs
            by_cases defined : other ∈ keys defs
            · exact move other (.inr defined)
            · exact .inl (List.mem_append_left _ (List.mem_reverse.mpr
                (List.mem_filter.mpr ⟨needs, lookup_isNone_iff.mpr defined⟩)))
        · rintro other (queued | defined)
          · rcases List.mem_append.mp queued with found | later
            · exact .inr ⟨name, (List.mem_filter.mp (List.mem_reverse.mp found)).1⟩
            · exact closing.origin other (.inl (List.mem_cons_of_mem _ later))
          · rw [added] at defined
            rcases List.mem_append.mp defined with old | now
            · exact closing.origin other (.inr old)
            · exact closing.origin other (.inl (List.mem_singleton.mp now ▸ List.mem_cons_self))

theorem closeDefs_closed (components : Json) (seed : List String) :
    Closing components seed [] (closeDefs components seed) := by
  refine closeLoop_closing _ _ _ ⟨by simp, fun name member => .inl (List.mem_reverse.mpr member),
    by simp, ?_⟩ ?_
  · rintro name (queued | defined)
    · exact .inl (List.mem_reverse.mp queued)
    · cases defined
  · have all : (componentNames components).filter
      (fun name => (List.lookup name ([] : Members)).isNone) =
        componentNames components := List.filter_eq_self.mpr fun _ _ => rfl
    rw [roundsLeft, closeRounds, all, List.length_reverse]
    omega

/-! ### Attaching them -/

/-- The definition that a reference `#/$defs/…` is to. -/
def definition (root : Json) (name : String) : Option Json := (get "$defs" root).bind (get name)

/-- **The own definitions of a schema have other names.** -/
def DefsApart (named : String → Prop) (node : Json) : Prop :=
  ∀ own, get "$defs" node = some own →
    ∃ entries, own = .object entries ∧ ∀ entry ∈ entries, ¬named entry.1

section Attached

variable {named : String → Prop}

theorem lookup_map_value (change : String × Json → Json) (members : Members) (key : String) :
    (members.map fun member => (member.1, change member)).lookup key =
      (members.lookup key).map fun value => change (key, value) := by
  induction members with
  | nil => rfl
  | cons member members ih =>
    rw [List.map_cons, List.lookup_cons, List.lookup_cons, ih]
    by_cases same : key = member.1
    · subst same
      simp
    · rw [beq_eq_false_iff_ne.mpr same]

def attachTo (defs : Members) (member : String × Json) : Json :=
  if member.1 = "$defs" then
    match member.2 with
    | .object own => .object (own ++ defs.filter fun entry => (own.lookup entry.1).isNone)
    | other => other
  else member.2

theorem attachDefs_some {own : Json} (has : members.lookup "$defs" = some own) :
    attachDefs (.object members) defs =
      .object (members.map fun member => (member.1, attachTo defs member)) := by
  rw [attachDefs, has]
  refine congrArg Json.object (List.map_congr_left fun member _ => ?_)
  obtain ⟨key, value⟩ := member
  unfold attachTo
  by_cases isDefs : key = "$defs"
  · rw [if_pos isDefs, if_pos isDefs]
    cases value <;> rfl
  · rw [if_neg isDefs, if_neg isDefs]

theorem lookup_filter_none {own : Members} (none : own.lookup name = none) :
    (defs.filter fun entry => (own.lookup entry.1).isNone).lookup name = defs.lookup name := by
  induction defs with
  | nil => rfl
  | cons entry defs ih =>
    by_cases same : name = entry.1
    · rw [List.filter_cons_of_pos (by rw [← same, none]; rfl), List.lookup_cons, List.lookup_cons,
        same, beq_self_eq_true]
    · rw [List.lookup_cons, beq_eq_false_iff_ne.mpr same, ← ih, List.filter_cons]
      split
      · rw [List.lookup_cons, beq_eq_false_iff_ne.mpr same]
      · rfl

/-- **An attached definition** is found under its name. -/
theorem definition_attach (apart : DefsApart named root) (here : named name) :
    definition (attachDefs root defs) name = defs.lookup name := by
  cases root with
  | object members =>
    cases has : members.lookup "$defs" with
    | none =>
      rw [attachDefs, has, definition, get, lookup_append, has]
      rfl
    | some own =>
      obtain ⟨entries, rfl, others⟩ := apart own has
      have none : entries.lookup name = none := by
        rw [← Option.isNone_iff_eq_none, lookup_isNone_iff]
        intro member
        obtain ⟨entry, there, rfl⟩ := List.mem_map.mp member
        exact others entry there here
      rw [attachDefs_some has, definition, get, lookup_map_value, has]
      show (entries ++ defs.filter fun entry => (entries.lookup entry.1).isNone).lookup name = _
      rw [lookup_append, none, Option.none_or, lookup_filter_none none]
  | array | null | bool | number | string => rfl

theorem pointer_map_value (change : String × Json → Json)
    (same : ∀ value, change ("$ref", value) = value) :
    pointer (members.map fun member => (member.1, change member)) = pointer members := by
  rw [pointer, lookup_map_value, pointer]
  simp [same]

theorem mem_pointersUnder_defs (here : text ∈ pointersUnder [("$defs", .object defs)]) :
    ∃ entry ∈ defs, text ∈ pointers entry.2 := by
  obtain ⟨member, there, inner, inside, found⟩ := mem_pointersUnder.mp here
  rw [List.mem_singleton.mp there] at inside
  obtain ⟨entry, member, rfl⟩ := List.mem_map.mp inside
  exact ⟨entry, member, found⟩

/-- **With the definitions** come their references. -/
theorem mem_pointers_attach (here : text ∈ pointers (attachDefs root defs)) :
    text ∈ pointers root ∨ ∃ entry ∈ defs, text ∈ pointers entry.2 := by
  have other : text ∈ pointers (.object [("$comment", .string "non-object root schema"),
      ("$defs", .object defs)]) → ∃ entry ∈ defs, text ∈ pointers entry.2 := by
    intro here
    rw [pointers_object] at here
    refine mem_pointersUnder_defs ?_
    rcases List.mem_append.mp here with own | under
    · cases own
    · obtain ⟨member, there, inner, inside, found⟩ := mem_pointersUnder.mp under
      rcases List.mem_cons.mp there with rfl | there
      · cases inside
      · exact mem_pointersUnder.mpr ⟨member, there, inner, inside, found⟩
  cases root with
  | object members =>
    cases has : members.lookup "$defs" with
    | none =>
      rw [attachDefs, has, pointers_object, pointer_append rfl] at here
      rw [pointers_object]
      rcases List.mem_append.mp here with own | under
      · exact .inl (List.mem_append_left _ own)
      · exact (pointersUnder_append.mp under).imp (List.mem_append_right _) mem_pointersUnder_defs
    | some own =>
      rw [attachDefs_some has, pointers_object, pointer_map_value _ fun value => rfl] at here
      rw [pointers_object]
      rcases List.mem_append.mp here with own | under
      · exact .inl (List.mem_append_left _ own)
      · obtain ⟨changed, there, inner, inside, found⟩ := mem_pointersUnder.mp under
        obtain ⟨member, source, rfl⟩ := List.mem_map.mp there
        have kept : inner ∈ schemasOf (keywordOf member.1) member.2 →
            text ∈ (pointer members).toList ++ pointersUnder members := fun inside =>
          List.mem_append_right _ (mem_pointersUnder.mpr ⟨member, source, inner, inside, found⟩)
        unfold attachTo at inside
        by_cases isDefs : member.1 = "$defs"
        · rw [if_pos isDefs] at inside
          have map : keywordOf member.1 = .map := by
            rw [isDefs]
            decide
          cases own : member.2 with
          | object entries =>
            rw [map, own] at inside
            obtain ⟨entry, member', rfl⟩ := List.mem_map.mp inside
            rcases List.mem_append.mp member' with old | new
            · refine .inl (kept ?_)
              rw [map, own]
              exact List.mem_map_of_mem old
            · exact .inr ⟨entry, (List.mem_filter.mp new).1, found⟩
          | array | null | bool | number | string =>
            rw [own] at inside kept
            exact .inl (kept inside)
        · rw [if_neg isDefs] at inside
          exact .inl (kept inside)
  | array | null | bool | number | string => exact .inr (other here)

/-! ### Own definitions -/

theorem DefsApart.of_none (none : get "$defs" node = none) : DefsApart named node :=
    fun own found => by
  rw [none] at found
  cases found

theorem DefsApart.beside (apart : DefsApart named (.object members)) :
    DefsApart named (.object (siblings members)) := fun own found =>
  apart own ((lookup_siblings (by decide)).symm.trans found)

theorem DefsApart.defsRef (apart : DefsApart named (.object members)) :
    DefsApart named (defsRef name (siblings members)) := fun own found =>
  apart.beside own found

theorem keys_walkEntries (depth : Nat) (state : WalkState) (entries : Members) :
    keys (walkEntries components budget onStack expand depth state entries).1 = keys entries := by
  induction entries generalizing state with
  | nil => rfl
  | cons entry entries ih =>
    rw [walkEntries, keys, List.map_cons, ← keys, ih]
    rfl

theorem DefsApart.of_keys {others : Members} (found : get "$defs" node = some (.object entries))
    (fewer : ∀ name ∈ keys entries, name ∈ keys others) (apart : ∀ entry ∈ others, ¬named entry.1) :
    DefsApart named node := by
  intro own here
  rw [found] at here
  cases here
  refine ⟨entries, rfl, fun entry member => ?_⟩
  obtain ⟨other, there, same⟩ := List.mem_map.mp (fewer entry.1 (List.mem_map_of_mem member))
  exact same ▸ apart other there

theorem mergeSiblings_apart {beside : Members} (first : DefsApart named node)
    (second : DefsApart named (.object beside)) : DefsApart named (mergeSiblings node beside) := by
  cases node with
  | object target =>
    intro own found
    rw [mergeSiblings, get, lookup_append] at found
    cases given : target.lookup "$defs" with
    | some value =>
      rw [given] at found
      exact first own (given.trans found)
    | none =>
      rw [given, Option.none_or, lookup_filter_none given] at found
      exact second own found
  | array | null | bool | number | string => exact first

/-- **One schema keeps its definitions apart.** -/
theorem walkNode_apart
    (expands : ∀ name target depth state, component components name = some target →
      DefsApart named (expand name target depth state).1)
    (depth : Nat) (state : WalkState) (apart : DefsApart named node) :
    DefsApart named (walkNode components budget onStack expand depth state node).1 := by
  cases node with
  | object members =>
    have beside : ∀ state, DefsApart named
        (.object (walkMembers components budget onStack expand depth state members).1) := by
      intro state own found
      obtain ⟨reached, same⟩ :=
        lookup_walkMembers components budget onStack expand depth state members "$defs"
      have map : keywordOf "$defs" = .map := by decide
      cases given : members.lookup "$defs" with
      | none =>
        rw [get, same, given] at found
        cases found
      | some value =>
        obtain ⟨entries, rfl, others⟩ := apart value given
        rw [given, Option.map_some, map] at same
        have walked : get "$defs" (.object (walkMembers components budget onStack expand depth state
            members).1) = some (.object (walkEntries components budget onStack expand
              (depth + 1) reached entries).1) := same
        have fewer : ∀ name ∈ keys (walkEntries components budget onStack expand (depth + 1) reached
            entries).1, name ∈ keys entries := by
          intro name member
          rw [keys_walkEntries] at member
          exact member
        exact DefsApart.of_keys walked fewer others own found
    unfold walkNode walkObject
    cases componentRefName members with
    | none => exact beside state
    | some name =>
      dsimp only
      cases there : component components name with
      | none => exact .of_none rfl
      | some target =>
        dsimp only
        split
        next => exact (beside _).defsRef
        next =>
          have first := expands name target (depth + 1)
            { state with expansions := state.expansions + 1 } there
          exact mergeSiblings_apart first (beside _).beside
  | array | null | bool | number | string => exact apart

/-- **The whole walk keeps them apart.** -/
theorem walk_apart (each : ∀ name target, component components name = some target →
      DefsApart named target)
    (room : Nat) (stack : List String) (node : Json) (apart : DefsApart named node) (depth : Nat)
    (state : WalkState) : DefsApart named (walk components budget room stack depth state
      node).1 := by
  induction room generalizing stack node depth state with
  | zero =>
    exact walkNode_apart (fun name target _ _ there => each name target there) depth state apart
  | succ room ih =>
    refine walkNode_apart (fun name target depth state there => ?_) depth state apart
    exact ih (name :: stack) target (each name target there) depth state

theorem rewriteRefs_object (entries : Members) : ∃ others,
    rewriteRefs (.object entries) = .object others ∧ ∀ name ∈ keys others, name ∈ keys entries := by
  rw [rewriteRefs]
  cases found : componentRefName entries with
  | some name =>
    refine ⟨_, rfl, fun other member => ?_⟩
    rcases List.mem_cons.mp member with rfl | later
    · rw [← lookup_isSome_iff]
      obtain ⟨text, here, _⟩ := Option.bind_eq_some_iff.mp found
      obtain ⟨value, there, _⟩ := Option.bind_eq_some_iff.mp here
      rw [there]
      rfl
    · obtain ⟨entry, there, rfl⟩ := List.mem_map.mp later
      exact List.mem_map_of_mem (mem_of_mem_siblings there)
  | none =>
    refine ⟨_, rfl, fun other member => ?_⟩
    rw [rewriteMembers_eq] at member
    simpa [keys] using member

/-- **Rewriting keeps definitions apart.** -/
theorem rewriteRefs_apart (apart : DefsApart named node) : DefsApart named (rewriteRefs node) := by
  cases node with
  | object members =>
    rw [rewriteRefs]
    cases componentRefName members with
    | some name => exact apart.defsRef
    | none =>
      intro own found
      dsimp only at found
      rw [get, lookup_rewriteMembers] at found
      obtain ⟨given, there, rfl⟩ := Option.map_eq_some_iff.mp found
      obtain ⟨entries, rfl, others⟩ := apart given there
      obtain ⟨rewritten, same, fewer⟩ := rewriteRefs_object entries
      have found : get "$defs" (.object [("$defs", .object rewritten)]) = some
        (.object rewritten) := rfl
      refine DefsApart.of_keys found fewer others _ ?_
      rw [same]
      rfl
  | array | null | bool | number | string => exact .of_none rfl

end Attached

/-! ### Leaving out -/

/-- **What leaving out has done**: a definition is the same, or stands for one that was left out. -/
structure Elided (defs rest : Members) (truncated : Bool) : Prop where
  names : keys rest = keys defs
  kept : ∀ entry ∈ rest, entry ∈ defs ∨ truncated = true ∧ entry.2 = placeholder entry.1

theorem keys_setEntry (name : String) (body : Json) (defs : Members) :
    keys (setEntry name body defs) = keys defs := by
  rw [keys, setEntry, List.map_map]
  refine List.map_congr_left fun entry _ => ?_
  by_cases same : entry.1 = name
  · simp [same]
  · simp [same]

theorem mem_setEntry {body : Json} {entry : String × Json}
    (here : entry ∈ setEntry name body defs) : entry ∈ defs ∨ entry = (name, body) := by
  obtain ⟨other, there, rfl⟩ := List.mem_map.mp here
  by_cases same : other.1 = name
  · rw [if_pos same]
    exact .inr rfl
  · rw [if_neg same]
    exact .inl there

/-- **The loop only leaves out.** -/
theorem elide_elided (root : Json) (hardMaxBytes : Nat) (sizes : List (Nat × String))
    {rest : Members} {truncated : Bool} (before : Elided defs rest truncated) :
    Elided defs (elide root hardMaxBytes sizes rest truncated).1
      (elide root hardMaxBytes sizes rest truncated).2 := by
  induction sizes generalizing rest truncated with
  | nil => exact before
  | cons size sizes ih =>
    obtain ⟨size, name⟩ := size
    rw [elide]
    split
    next => exact before
    next =>
      split
      next => exact before
      next =>
        refine ih ⟨(keys_setEntry _ _ _).trans before.names, fun entry here => ?_⟩
        rcases mem_setEntry here with old | rfl
        · exact (before.kept entry old).imp_right fun left => ⟨rfl, left.2⟩
        · exact .inr ⟨rfl, rfl⟩

/-! ### The result -/

def Given (schema components : Json) (text : String) : Prop :=
  text ∈ allPointers schema ∨
    ∃ name body, component components name = some body ∧ text ∈ allPointers body

/-- **The names of the references that are written**: what the walk has put off, or what the compact
form refers to, with all that these need. -/
def writtenNames (schema components : Json) (budget : Budget) : List String :=
  let (root, state) := walkRoot schema components budget
  let defs := closeDefs components state.deferred
  let whole := if defs.isEmpty then root else attachDefs root defs
  if serializedLen whole ≤ budget.maxBytes ∨ state.expansions = 0 then keys defs
  else keys (closeDefs components (namesIn [] schema))

/-- **Self-contained**: nothing refers to a component, a reference was given or written, and each
that was written is to the definition of its component, or to what stands for one that was left
out. -/
structure SelfContained (schema components : Json) (written : List String) (out : InlinedSchema) :
    Prop where
  closed : ∀ text ∈ pointers out.schema, stripStart componentStart text = none
  known : ∀ text ∈ pointers out.schema,
    Given schema components text ∨ ∃ name ∈ written, text = defsStart ++ name
  resolved : ∀ name ∈ written, definition out.schema name = some (definitionOf components name) ∨
    out.truncated = true ∧ definition out.schema name = some (placeholder name)

section Contained

variable {written : List String} {rest : Members} {seed : List String} {truncated : Bool}

theorem given_needed (needed : name ∈ neededBy components key) :
    Given schema components (componentStart ++ name) := by
  unfold neededBy at needed
  cases found : component components key with
  | none =>
    rw [found] at needed
    cases needed
  | some body =>
    rw [found] at needed
    exact .inr ⟨key, body, found, pointer_of_mem_namesIn needed⟩

/-- **The names of closed definitions** are those of references that are given. -/
theorem given_closed (seeds : ∀ name ∈ seed, Given schema components (componentStart ++ name))
    (closing : Closing components seed [] defs) (member : name ∈ keys defs) :
    Given schema components (componentStart ++ name) :=
  (closing.origin name (.inr member)).elim (seeds name) fun ⟨_, needs⟩ => given_needed needs

/-- **The references of the walked schema.** -/
theorem walkRoot_traced (schemas : ∀ name body, component components name = some body →
    IsSchema body) : Traced (Given schema components) ⟨[], 0⟩ (walkRoot schema components budget).2
      (pointers (walkRoot schema components budget).1) :=
  (walk_traced (fun name body found => ⟨schemas name body found, fun _ here =>
    .inr ⟨name, body, found, allPointers_of_pointers here⟩⟩) (componentNames components).length []
    schema (fun _ here => .inl (allPointers_of_pointers here)) 0 ⟨[], 0⟩).1

theorem given_deferred (schemas : ∀ name body, component components name = some body →
    IsSchema body) (member : name ∈ (walkRoot schema components budget).2.deferred) :
    Given schema components (componentStart ++ name) :=
  ((walkRoot_traced schemas).named name member).resolve_left (by simp)

theorem pointers_definitionOf
    (alone : ∀ name body, component components name = some body → RefsAlone body)
    (here : text ∈ pointers (definitionOf components key)) :
    Given schema components text ∧ stripStart componentStart text = none ∨
      ∃ name ∈ neededBy components key, text = defsStart ++ name := by
  unfold definitionOf at here
  unfold neededBy
  cases found : component components key with
  | none =>
    rw [found] at here
    rw [unresolved, pointers_comment] at here
    cases here
  | some body =>
    rw [found] at here
    exact (rewriteRefs_traced (alone key body found) (allPointers_of_pointers here)).imp_left
      fun given => ⟨.inr ⟨key, body, found, given.1⟩, given.2⟩

/-- **With closed definitions, of which some may be left out, a schema is self-contained.** -/
theorem attached_contained
    (alone : ∀ name body, component components name = some body → RefsAlone body)
    (seeds : ∀ name ∈ seed, Given schema components (componentStart ++ name))
    (texts : ∀ text ∈ pointers root, Given schema components text ∧
      stripStart componentStart text = none ∨ ∃ name ∈ seed, text = defsStart ++ name)
    (apart : DefsApart (fun name => Given schema components (componentStart ++ name)) root)
    (closing : Closing components seed [] defs) (elided : Elided defs rest truncated)
    (form : SchemaForm) :
    SelfContained schema components (keys defs)
      ⟨if rest.isEmpty then root else attachDefs root rest, form, truncated⟩ := by
  have defined : ∀ name ∈ seed, name ∈ keys defs := fun name member =>
    (closing.seeded name member).resolve_left (by simp)
  have needed : ∀ entry ∈ defs, ∀ name ∈ neededBy components entry.1, name ∈ keys defs :=
    fun entry member name needs => (closing.needed entry member name needs).resolve_left (by simp)
  have all : ∀ text ∈ pointers (if rest.isEmpty then root else attachDefs root rest),
      Given schema components text ∧ stripStart componentStart text = none ∨
        ∃ name ∈ keys defs, text = defsStart ++ name := by
    intro text here
    have parts : text ∈ pointers root ∨ ∃ entry ∈ rest, text ∈ pointers entry.2 := by
      by_cases empty : rest.isEmpty
      · rw [if_pos empty] at here
        exact .inl here
      · rw [if_neg empty] at here
        exact mem_pointers_attach here
    rcases parts with own | ⟨entry, member, inside⟩
    · exact (texts text own).imp_right fun ⟨name, seeded, same⟩ => ⟨name, defined name seeded, same⟩
    · rcases elided.kept entry member with kept | ⟨_, left⟩
      · rw [closing.values entry kept] at inside
        exact (pointers_definitionOf alone inside).imp_right fun ⟨name, needs, same⟩ =>
          ⟨name, needed entry kept name needs, same⟩
      · rw [left, placeholder, pointers_comment] at inside
        cases inside
  refine ⟨fun text here => ?_, fun text here =>
    (all text here).imp_left And.left, fun name member => ?_⟩
  · rcases all text here with given | ⟨name, _, rfl⟩
    · exact given.2
    · exact stripStart_defs name
  · have named := given_closed seeds closing member
    have there : (rest.lookup name).isSome := lookup_isSome_iff.mpr (elided.names ▸ member)
    obtain ⟨value, found⟩ := Option.isSome_iff_exists.mp there
    have filled : ¬rest.isEmpty := by
      intro empty
      rw [List.isEmpty_iff.mp empty] at found
      cases found
    have attached : definition (if rest.isEmpty then root else attachDefs root rest) name =
      some value := by
      rw [if_neg filled, definition_attach apart named, found]
    rw [attached]
    rcases elided.kept _ (mem_of_lookup found) with kept | ⟨left, same⟩
    · exact .inl (congrArg some (closing.values _ kept))
    · exact .inr ⟨left, congrArg some same⟩

/-- **A schema that has been inlined is self-contained**, for any components and any budget: where
nothing beside a reference refers to a component, and own definitions have other names than the
components that are referred to. -/
theorem inlined_self_contained (schema components : Json) (budget : Budget)
    (schemas : ∀ name body, component components name = some body → IsSchema body)
    (aloneRoot : RefsAlone schema)
    (alone : ∀ name body, component components name = some body → RefsAlone body)
    (apartRoot : DefsApart (fun name => Given schema components (componentStart ++ name)) schema)
    (apart : ∀ name body, component components name = some body →
      DefsApart (fun name => Given schema components (componentStart ++ name)) body) :
    SelfContained schema components (writtenNames schema components budget)
      (inlineSchemaWith schema components budget) := by
  unfold writtenNames inlineSchemaWith
  dsimp only
  by_cases small : serializedLen
      (if (closeDefs components (walkRoot schema components budget).2.deferred).isEmpty then
        (walkRoot schema components budget).1
      else attachDefs (walkRoot schema components budget).1
        (closeDefs components (walkRoot schema components budget).2.deferred)) ≤ budget.maxBytes ∨
      (walkRoot schema components budget).2.expansions = 0
  · rw [if_pos small, if_pos small]
    exact attached_contained alone (fun name member => given_deferred schemas member)
      (walkRoot_traced schemas).traced (walk_apart apart _ _ schema apartRoot 0 _)
      (closeDefs_closed components _) ⟨rfl, fun _ member => .inl member⟩ _
  · rw [if_neg small, if_neg small, compactForm]
    exact attached_contained alone (fun name member => .inl (pointer_of_mem_namesIn member))
      (fun text here => (rewriteRefs_traced aloneRoot (allPointers_of_pointers here)).imp_left
        fun given => ⟨.inl given.1, given.2⟩)
      (rewriteRefs_apart apartRoot) (closeDefs_closed components _)
      (elide_elided _ _ _ ⟨rfl, fun _ member => .inl member⟩) _

end Contained

def componentRef (name : String) (beside : Members) : Json :=
  .object (("$ref", .string (componentStart ++ name)) :: beside)

def folders : Json := .object [("schemas", .object [("Folder", .object [("properties", .object
    [("files", .object [("items", componentRef "File" [])])])]),
    ("File", .object [("properties", .object
      [("parent", componentRef "Folder" [("description", .string "where it is")])])])])]

theorem mem_of_component {body : Json}
    (found : component (.object [("schemas", .object entries)]) name = some body) :
    (name, body) ∈ entries := mem_of_lookup found

theorem folders_self_contained : SelfContained (componentRef "Folder" []) folders
      (writtenNames (componentRef "Folder" []) folders
      ⟨12, 200, 65536, 262144⟩) (inlineSchemaWith (componentRef "Folder" []) folders
        ⟨12, 200, 65536, 262144⟩) := by
  have each : ∀ name body, component folders name = some body → IsSchema body ∧ RefsAlone body ∧
      get "$defs" body = none := by
    intro name body found
    rcases List.mem_cons.mp (mem_of_component found) with same | later
    · cases same
      exact ⟨fun items same => (by cases same), by unfold RefsAlone; decide +kernel, rfl⟩
    · cases List.mem_singleton.mp later
      exact ⟨fun items same => (by cases same), by unfold RefsAlone; decide +kernel, rfl⟩
  exact inlined_self_contained _ folders _ (fun name body found => (each name body found).1)
    (by unfold RefsAlone; decide +kernel) (fun name body found => (each name body found).2.1)
    (.of_none rfl) fun name body found => .of_none (each name body found).2.2

/-- A component that is larger than what stands for it. -/
def described : Json := .object [("schemas", .object [("Note", .object [("type", .string "object"),
  ("description", .string "the fields of a note, each with what it is for")])])]

/-- **A definition that is left out for its size** is none of its component, though it is referred
to. -/
theorem large_definition_left_out : "#/$defs/Note" ∈ pointers
        (inlineSchemaWith (componentRef "Note" []) described ⟨12, 200, 0, 0⟩).schema ∧
      "#/$defs/Note" ∉ pointers (componentRef "Note" []) ∧
      definition (inlineSchemaWith (componentRef "Note" []) described ⟨12, 200, 0, 0⟩).schema "Note"
        ≠ some (definitionOf described "Note") := by
  refine ⟨by decide +kernel, by decide +kernel, fun same => ?_⟩
  have rendered := congrArg (Option.map Json.render) same
  revert rendered
  decide +kernel

end Ziee.Control
