/-
**Paths in a file tree with symbolic links.**

A place is the row of names that leads to it from the root. A path is walked step by step; a link on
the way is replaced by its target, at most as many times as the system allows.

* `FileTree` — what is at each place; only a directory has something below it.
* `resolve_concat` — **the last name of a path**: where the rest leads to, and what is there.
* **`resolve_names`** — **a path on whose way no link is found leads straight down**, from where its
  start leads to.
* `resolve_place` — a place is found under its own names.
-/

import Mathlib.Data.List.Basic
import Mathlib.Data.List.Induction

namespace Ziee.Library.LinkedTrees

variable {ν : Type}

inductive Step (ν : Type)
  | name (name : ν)
  /-- To the directory above. -/
  | up
  /-- To the directory itself. -/
  | stay
  deriving DecidableEq

structure Route (ν : Type) where
  absolute : Bool
  steps : List (Step ν)
  deriving DecidableEq

/-- What a directory has under a name. Some directories may not be walked through. -/
inductive Entry (ν : Type)
  | file
  | link (target : Route ν)
  | dir (searchable : Bool)
  deriving DecidableEq

structure FileTree (ν : Type) where
  entry : List ν → Option (Entry ν)
  /-- The working directory of the process. -/
  here : List ν
  root : ∃ searchable, entry [] = some (.dir searchable)
  standing : ∃ searchable, entry here = some (.dir searchable)
  /-- Only a directory has something below it. -/
  inside : ∀ place name, entry (place ++ [name]) ≠ none →
    ∃ searchable, entry place = some (.dir searchable)

def Entry.isLink : Entry ν → Bool
  | .link _ => true
  | _ => false

def Entry.isDir : Entry ν → Bool
  | .dir _ => true
  | _ => false

theorem exists_of_isDir {found : Option (Entry ν)} (dir : found.any Entry.isDir = true) :
    ∃ searchable, found = some (.dir searchable) := by
  cases found with
  | none => cases dir
  | some entry =>
    cases entry with
    | dir searchable => exact ⟨searchable, rfl⟩
    | file | link => cases dir

def FileTree.ofRows [DecidableEq ν] (rows : List (List ν × Entry ν)) (here : List ν)
    (root : (rows.lookup []).any Entry.isDir = true)
    (standing : (rows.lookup here).any Entry.isDir = true) (inside : ∀ row ∈ rows, row.1 ≠ [] →
      (rows.lookup row.1.dropLast).any Entry.isDir = true) : FileTree ν where
  entry place := rows.lookup place
  here := here
  root := exists_of_isDir root
  standing := exists_of_isDir standing
  inside place name there := by
    obtain ⟨entry, found⟩ := Option.ne_none_iff_exists'.mp there
    obtain ⟨front, back, shape, -⟩ := List.lookup_eq_some_iff.mp found
    have above := inside (place ++ [name], entry) (by simp [shape]) (by simp)
    rw [List.dropLast_concat] at above
    exact exists_of_isDir above

def FileTree.Solid (tree : FileTree ν) (place : List ν) : Prop :=
  ∃ entry, tree.entry place = some entry ∧ entry.isLink = false

def FileTree.LinkAt (tree : FileTree ν) (place : List ν) : Prop :=
  ∃ target, tree.entry place = some (.link target)

/-- Where a walk comes before it meets a link. -/
inductive Halt (ν : Type)
  | place (place : List ν)
  | link (dir : List ν) (target : Route ν) (rest : List (Step ν))
  | nowhere

section Walk

variable (tree : FileTree ν)

/-- Names may be looked up at this place. -/
def FileTree.walkable (place : List ν) : Bool :=
  match tree.entry place with
  | some (.dir searchable) => searchable
  | _ => false

/-- A walk up to the first link. When something may be created, the last name may be missing. -/
def stride (create : Bool) : List ν → List (Step ν) → Halt ν
  | place, [] => .place place
  | place, step :: rest =>
    if tree.walkable place then
      match step with
      | .up => stride create place.dropLast rest
      | .stay => stride create place rest
      | .name name =>
        match tree.entry (place ++ [name]) with
        | some (.link target) => .link place target rest
        | some _ => stride create (place ++ [name]) rest
        | none => if create && rest.isEmpty then .place (place ++ [name]) else .nowhere
    else .nowhere

def FileTree.start (route : Route ν) (dir : List ν) : List ν := if route.absolute then [] else dir

/-- A link is replaced by its target, and the walk goes on. -/
def Halt.follow (next : List ν → List (Step ν) → Option (List ν)) : Halt ν → Option (List ν)
  | .place found => some found
  | .link dir target rest => next (FileTree.start target dir) (target.steps ++ rest)
  | .nowhere => none

/-- **The whole walk**, with so many links at most. -/
def resolveFrom (create : Bool) : Nat → List ν → List (Step ν) → Option (List ν)
  | 0, place, steps => (stride tree create place steps).follow fun _ _ => none
  | links + 1, place, steps => (stride tree create place steps).follow (resolveFrom create links)

/-- Where a path leads to. -/
def resolve (create : Bool) (links : Nat) (route : Route ν) : Option (List ν) :=
  resolveFrom tree create links (FileTree.start route tree.here) route.steps

def ownPlace (links : Nat) (route : Route ν) : Option (List ν) :=
  match route.steps.getLast? with
  | some (.name name) =>
    match resolve tree false links { route with steps := route.steps.dropLast } with
    | some dir => if tree.walkable dir then some (dir ++ [name]) else none
    | none => none
  | _ => none

/-- `lstat`. -/
def linkStatus (links : Nat) (route : Route ν) : Option (Entry ν) :=
  (ownPlace tree links route).bind tree.entry

/-- **What an operation on a path acts on**: what is opened, what is opened or created, and what is
replaced, renamed or removed, where a last link is not followed. -/
def Touches (links : Nat) (route : Route ν) (place : List ν) : Prop :=
  resolve tree false links route = some place ∨ resolve tree true links route = some place ∨
    ownPlace tree links route = some place

def Route.below (route : Route ν) (names : List ν) : Route ν :=
  { route with steps := route.steps ++ names.map .name }

def Halt.onward (create : Bool) (more : List (Step ν)) : Halt ν → Halt ν
  | .place dir => stride tree create dir more
  | .link dir target rest => .link dir target (rest ++ more)
  | .nowhere => .nowhere

end Walk

variable {tree : FileTree ν} {create : Bool} {links : Nat} {place dir found : List ν}
  {steps more : List (Step ν)} {name : ν} {names : List ν} {route : Route ν}

theorem stride_append (nonempty : more ≠ []) : stride tree create place (steps ++ more) =
    (stride tree false place steps).onward tree create more := by
  induction steps generalizing place with
  | nil => rfl
  | cons step steps ih =>
    unfold stride
    rw [List.cons_append]
    dsimp only
    split
    · cases step with
      | up => exact ih
      | stay => exact ih
      | name name =>
        dsimp only
        split
        · rfl
        · exact ih
        · simp [nonempty, Halt.onward]
    · rfl

theorem resolveFrom_of_place (halts : stride tree create place steps = .place found) :
    resolveFrom tree create links place steps = some found := by
  cases links <;> rw [resolveFrom, halts, Halt.follow]

/-- **The last part of a path is walked from where the rest leads to.** -/
theorem resolveFrom_append (nonempty : more ≠ [])
    (whole : resolveFrom tree create links place (steps ++ more) = some found) :
    ∃ dir left, resolveFrom tree false links place steps = some dir ∧
      resolveFrom tree create left dir more = some found := by
  induction links generalizing place steps with
  | zero =>
    rw [resolveFrom, stride_append nonempty] at whole
    cases halts : stride tree false place steps with
    | place dir =>
      rw [halts] at whole
      exact ⟨dir, 0, resolveFrom_of_place halts, whole⟩
    | link dir target rest =>
      rw [halts] at whole
      cases whole
    | nowhere =>
      rw [halts] at whole
      cases whole
  | succ links ih =>
    rw [resolveFrom, stride_append nonempty] at whole
    cases halts : stride tree false place steps with
    | place dir =>
      rw [halts] at whole
      exact ⟨dir, links + 1, resolveFrom_of_place halts, whole⟩
    | link dir target rest =>
      rw [halts, Halt.onward, Halt.follow, ← List.append_assoc] at whole
      rw [resolveFrom, halts, Halt.follow]
      exact ih whole
    | nowhere =>
      rw [halts] at whole
      cases whole

/-- A path whose last step is no name leads to the same place whether or not something may be
created. -/
theorem resolveFrom_concat_other {step : Step ν} (other : ∀ name, step ≠ .name name) :
    resolveFrom tree create links place (steps ++ [step]) =
      resolveFrom tree false links place (steps ++ [step]) := by
  have same : ∀ dir, stride tree create dir [step] = stride tree false dir [step] ∧
      ∀ next other : List ν → List (Step ν) → Option (List ν),
        (stride tree false dir [step]).follow next =
          (stride tree false dir [step]).follow other := by
    intro dir
    cases step with
    | name name => exact absurd rfl (other name)
    | up | stay =>
      unfold stride
      split
      · exact ⟨rfl, fun _ _ => rfl⟩
      · exact ⟨rfl, fun _ _ => rfl⟩
  have parts : ∀ place steps, stride tree create place (steps ++ [step]) =
      stride tree false place (steps ++ [step]) := by
    intro place steps
    rw [stride_append (by simp), stride_append (by simp)]
    cases stride tree false place steps with
    | place dir => exact (same dir).1
    | link | nowhere => rfl
  induction links generalizing place steps with
  | zero => rw [resolveFrom, resolveFrom, parts]
  | succ links ih =>
    rw [resolveFrom, resolveFrom, parts, stride_append (by simp)]
    cases stride tree false place steps with
    | place dir => exact (same dir).2 _ _
    | link dir target rest =>
      rw [Halt.onward, Halt.follow, Halt.follow, ← List.append_assoc]
      exact ih
    | nowhere => rfl

/-- **The last name of a path**: it is looked up where the rest leads to, and unless a link is there
the path leads to its place. -/
theorem resolveFrom_concat
    (whole : resolveFrom tree create links place (steps ++ [.name name]) = some found) :
    ∃ dir, resolveFrom tree false links place steps = some dir ∧ tree.walkable dir = true ∧
      (¬tree.LinkAt (dir ++ [name]) → found = dir ++ [name]) := by
  obtain ⟨dir, left, front, last⟩ := resolveFrom_append (by simp) whole
  refine ⟨dir, front, ?_⟩
  have halts : ∃ next : List ν → List (Step ν) → Option (List ν),
      (stride tree create dir [.name name]).follow next = some found := by
    cases left with
    | zero | succ => exact ⟨_, last⟩
  obtain ⟨next, halts⟩ := halts
  unfold stride at halts
  by_cases walks : tree.walkable dir = true
  · refine ⟨walks, fun free => ?_⟩
    rw [if_pos walks] at halts
    dsimp only at halts
    split at halts
    · rename_i target there
      exact absurd ⟨target, there⟩ free
    · cases halts
      rfl
    · split at halts
      · cases halts
        rfl
      · cases halts
  · rw [if_neg walks] at halts
    cases halts

/-! ### Places that are there -/

theorem solid_of_dir {searchable : Bool} (dir : tree.entry place = some (.dir searchable)) :
    tree.Solid place := ⟨_, dir, rfl⟩

theorem not_linkAt_of_solid (solid : tree.Solid place) : ¬tree.LinkAt place := by
  rintro ⟨target, link⟩
  obtain ⟨entry, there, plain⟩ := solid
  rw [link] at there
  cases there
  cases plain

theorem solid_of_concat (solid : tree.Solid (place ++ [name])) : tree.Solid place := by
  obtain ⟨entry, there, -⟩ := solid
  obtain ⟨searchable, dir⟩ := tree.inside place name (by rw [there]; exact Option.some_ne_none _)
  exact solid_of_dir dir

theorem solid_dropLast (solid : tree.Solid place) : tree.Solid place.dropLast := by
  cases place using List.reverseRecOn with
  | nil => exact solid
  | append_singleton place name =>
    rw [List.dropLast_concat]
    exact solid_of_concat solid

theorem solid_start (solid : tree.Solid place) : tree.Solid (FileTree.start route place) := by
  unfold FileTree.start
  split
  · obtain ⟨searchable, dir⟩ := tree.root
    exact solid_of_dir dir
  · exact solid

theorem stride_solid (solid : tree.Solid place) :
    (∀ found, stride tree false place steps = .place found → tree.Solid found) ∧
      ∀ dir target rest, stride tree false place steps = .link dir target rest →
        tree.Solid dir := by
  induction steps generalizing place with
  | nil =>
    constructor
    · intro found halts
      cases halts
      exact solid
    · nofun
  | cons step steps ih =>
    unfold stride
    split
    · cases step with
      | up => exact ih (solid_dropLast solid)
      | stay => exact ih solid
      | name name =>
        dsimp only
        split
        · rename_i target there
          constructor
          · nofun
          · intro dir _ _ halts
            cases halts
            exact solid
        · rename_i entry plain there
          refine ih ⟨entry, there, ?_⟩
          cases entry with
          | link target => exact absurd rfl (plain target)
          | file | dir => rfl
        · exact ⟨nofun, nofun⟩
    · exact ⟨nofun, nofun⟩

theorem resolveFrom_solid (solid : tree.Solid place)
    (leads : resolveFrom tree false links place steps = some found) : tree.Solid found := by
  induction links generalizing place steps with
  | zero =>
    rw [resolveFrom] at leads
    cases halts : stride tree false place steps with
    | place dir =>
      rw [halts] at leads
      cases leads
      exact (stride_solid solid).1 _ halts
    | link | nowhere => rw [halts] at leads; cases leads
  | succ links ih =>
    rw [resolveFrom] at leads
    cases halts : stride tree false place steps with
    | place dir =>
      rw [halts] at leads
      cases leads
      exact (stride_solid solid).1 _ halts
    | link dir target rest =>
      rw [halts] at leads
      exact ih (solid_start ((stride_solid solid).2 _ _ _ halts)) leads
    | nowhere => rw [halts] at leads; cases leads

theorem resolve_solid (leads : resolve tree false links route = some found) : tree.Solid found := by
  obtain ⟨searchable, dir⟩ := tree.standing
  exact resolveFrom_solid (solid_start (solid_of_dir dir)) leads

/-- **A place is found under its own names.** -/
theorem resolveFrom_place (solid : tree.Solid place)
    (leads : resolveFrom tree create links [] (place.map .name) = some found) : found = place := by
  induction place using List.reverseRecOn generalizing create found with
  | nil =>
    cases links with
    | zero | succ => exact (Option.some.inj leads).symm
  | append_singleton place name ih =>
    rw [List.map_append] at leads
    obtain ⟨dir, front, -, last⟩ := resolveFrom_concat leads
    obtain rfl := ih (solid_of_concat solid) front
    exact last (not_linkAt_of_solid solid)

/-! ### What operations act on -/

theorem ownPlace_of_concat (shape : route.steps = steps ++ [.name name])
    (front : resolve tree false links { route with steps := steps } = some dir)
    (walks : tree.walkable dir = true) : ownPlace tree links route = some (dir ++ [name]) := by
  rw [ownPlace, shape, List.getLast?_concat, List.dropLast_concat]
  dsimp only
  rw [front]
  exact if_pos walks

theorem exists_of_ownPlace (own : ownPlace tree links route = some found) :
    ∃ steps name dir, route.steps = steps ++ [.name name] ∧
      resolve tree false links { route with steps := steps } = some dir ∧
      tree.walkable dir = true ∧ found = dir ++ [name] := by
  unfold ownPlace at own
  split at own
  · rename_i name last
    split at own
    · rename_i dir front
      split at own
      · rename_i walks
        cases own
        exact ⟨_, name, dir, (List.dropLast_append_getLast? _ last).symm, front, walks, rfl⟩
      · cases own
    · cases own
  · cases own

@[simp] theorem below_nil (route : Route ν) : route.below [] = route := by
  simp [Route.below]

theorem below_concat (route : Route ν) (names : List ν) (name : ν) :
    (route.below (names ++ [name])).steps = (route.below names).steps ++ [.name name] := by
  simp [Route.below]

def LinkFree (tree : FileTree ν) (links : Nat) (route : Route ν) (names : List ν) : Prop :=
  ∀ done name rest, names = done ++ name :: rest → ∀ entry,
    linkStatus tree links (route.below (done ++ [name])) = some entry → entry.isLink = false

theorem LinkFree.front (free : LinkFree tree links route (names ++ [name])) :
    LinkFree tree links route names := by
  rintro done other rest rfl
  exact free done other (rest ++ [name]) (by simp)

theorem LinkFree.last (free : LinkFree tree links route (names ++ [name]))
    (front : resolve tree false links (route.below names) = some dir)
    (walks : tree.walkable dir = true) : ¬tree.LinkAt (dir ++ [name]) := by
  rintro ⟨target, there⟩
  have own : ownPlace tree links (route.below (names ++ [name])) = some (dir ++ [name]) :=
    ownPlace_of_concat (below_concat route names name) front walks
  have status : linkStatus tree links (route.below (names ++ [name])) = some (.link target) := by
    rw [linkStatus, own, Option.bind_some, there]
  exact Bool.noConfusion (free names name [] rfl _ status)

/-- **A path on whose way no link is found leads straight down** from where its start leads to. -/
theorem resolve_below (free : LinkFree tree links route names)
    (leads : resolve tree false links (route.below names) = some found) :
    ∃ dir, resolve tree false links route = some dir ∧ found = dir ++ names := by
  induction names using List.reverseRecOn generalizing found with
  | nil =>
    rw [below_nil] at leads
    exact ⟨found, leads, (List.append_nil found).symm⟩
  | append_singleton names name ih =>
    rw [resolve, below_concat] at leads
    obtain ⟨middle, front, walks, last⟩ := resolveFrom_concat leads
    obtain ⟨dir, start, rfl⟩ := ih free.front front
    exact ⟨dir, start, by rw [last (free.last front walks), List.append_assoc]⟩

/-- **An operation on such a path acts on the place straight below.** -/
theorem touches_below (nonempty : names ≠ []) (free : LinkFree tree links route names)
    (touches : Touches tree links (route.below names) found) :
    ∃ dir, resolve tree false links route = some dir ∧ found = dir ++ names := by
  obtain ⟨front, name, rfl⟩ : ∃ front name, names = front ++ [name] :=
    ⟨names.dropLast, names.getLast nonempty, (List.dropLast_concat_getLast nonempty).symm⟩
  rcases touches with opened | created | own
  · exact resolve_below free opened
  · rw [resolve, below_concat] at created
    obtain ⟨middle, leads, walks, last⟩ := resolveFrom_concat created
    obtain ⟨dir, start, rfl⟩ := resolve_below free.front leads
    exact ⟨dir, start, by rw [last (free.last leads walks), List.append_assoc]⟩
  · obtain ⟨steps, other, middle, shape, leads, -, rfl⟩ := exists_of_ownPlace own
    rw [below_concat] at shape
    obtain ⟨rfl, same⟩ := List.append_inj' shape rfl
    cases same
    obtain ⟨dir, start, rfl⟩ := resolve_below free.front leads
    exact ⟨dir, start, List.append_assoc ..⟩

theorem touches_place (solid : tree.Solid place)
    (touches : Touches tree links ⟨true, place.map .name⟩ found) : found = place := by
  rcases touches with opened | created | own
  · exact resolveFrom_place solid opened
  · exact resolveFrom_place solid created
  · obtain ⟨steps, name, dir, shape, leads, -, rfl⟩ := exists_of_ownPlace own
    cases place using List.reverseRecOn with
    | nil => simp at shape
    | append_singleton place last =>
      dsimp only at shape
      rw [List.map_append] at shape
      obtain ⟨rfl, same⟩ := List.append_inj' shape rfl
      cases same
      rw [resolveFrom_place (solid_of_concat solid) leads]

/-- Where a path leads nowhere, an operation needs the directory that its last name is looked up
in. -/
theorem exists_ownPlace (missing : resolve tree false links route = none)
    (touches : Touches tree links route found) : ∃ own, ownPlace tree links route = some own := by
  rcases touches with opened | created | own
  · rw [missing] at opened
    cases opened
  · obtain ⟨absolute, steps⟩ := route
    cases steps using List.reverseRecOn with
    | nil =>
      cases links <;> cases missing
    | append_singleton steps step =>
      by_cases named : ∃ name, step = .name name
      · obtain ⟨name, rfl⟩ := named
        obtain ⟨dir, front, walks, -⟩ := resolveFrom_concat created
        exact ⟨_, ownPlace_of_concat rfl front walks⟩
      · rw [resolve, resolveFrom_concat_other fun name same => named ⟨name, same⟩] at created
        rw [resolve, created] at missing
        cases missing
  · exact ⟨found, own⟩

end Ziee.Library.LinkedTrees
