/-
**Which file a name means in a workspace** (`canonicalize_in_workspace`,
`code_sandbox/tools/files.rs`).

A name from the model is checked as a text, then walked from the canonical workspace; a symbolic
link at any of its components is refused, also one that leads nowhere. When the workspace cannot be
canonicalised, its path is taken as it is.

* `checkFilename`, `walkNames`, `canonicalizeInWorkspace` — the function.
* `touches_workspace` — **what is touched is the place that the name means below the workspace.**
* **`confined_iff`** — **when a name is confined**: unless it has no component but `.`, and the
  workspace is missing from a directory that is there.
-/

import Ziee.Hub.Extract
import Ziee.Library.LinkedTrees
import Ziee.Sandbox.FileLines

namespace Ziee.Sandbox

open Ziee.Files Ziee.Library.LinkedTrees
open Ziee.Hub (Component components isAbsolute tolerated)

def checkFilename (filename : String) : Except FileError Unit :=
  if filename = "" then .error (bad "filename is empty")
  else if filename.toList.contains (Char.ofNat 0) then .error (bad "filename contains NUL")
  else if isAbsolute filename || filename.toList.head? == some '/' ||
      filename.toList.head? == some '\\' then
    .error (bad "absolute paths are not allowed")
  else if (components filename).all tolerated then .ok ()
  else .error (bad "path traversal (..) is not allowed")

def normalName : Component → Option String
  | .normal name => some name
  | _ => none

def names (filename : String) : List String := (components filename).filterMap normalName

section Walk

variable (tree : FileTree String) (links : Nat)

def canonicalize (path : Route String) : Option (Route String) :=
  (resolve tree false links path).map fun place => ⟨true, place.map .name⟩

def startsWith (path base : Route String) : Bool :=
  path.absolute == base.absolute && base.steps.isPrefixOf path.steps

def walkNames : Route String → List String → Except FileError (Route String)
  | cur, [] => .ok cur
  | cur, seg :: rest =>
    match linkStatus tree links (cur.below [seg]) with
    | some (.link _) => .error (bad s!"symlink component not allowed: {seg}")
    | _ => walkNames (cur.below [seg]) rest

def canonicalizeInWorkspace (workspace : Route String) (filename : String) :
    Except FileError (Route String) :=
  match checkFilename filename with
  | .error e => .error e
  | .ok () =>
    let workspaceResolved := (canonicalize tree links workspace).getD workspace
    match walkNames tree links workspaceResolved (names filename) with
    | .error e => .error e
    | .ok cur =>
      if startsWith cur workspaceResolved then .ok cur
      else .error (bad "assembled path escapes workspace")

/-- What is opened, created or replaced at the path lies in the canonical workspace. -/
def Confined (workspace : Route String) (filename : String) : Prop :=
  ∀ path, canonicalizeInWorkspace tree links workspace filename = .ok path →
    ∀ place, Touches tree links path place →
      ∃ root, resolve tree false links workspace = some root ∧ root <+: place

end Walk

variable {tree : FileTree String} {links : Nat} {workspace path cur : Route String}
  {filename : String} {place : List String}

/-! ### What the walk accepts -/

theorem walkNames_ok {segs : List String} (walked : walkNames tree links cur segs = .ok path) :
    path = cur.below segs ∧ LinkFree tree links cur segs := by
  induction segs generalizing cur with
  | nil =>
    cases walked
    exact ⟨(below_nil _).symm, fun done name rest same => by simp at same⟩
  | cons seg rest ih =>
    unfold walkNames at walked
    split at walked
    · cases walked
    · rename_i plain
      obtain ⟨whole, free⟩ := ih walked
      have deeper : ∀ more, (cur.below [seg]).below more = cur.below (seg :: more) := by
        intro more
        simp [Route.below]
      refine ⟨by rw [whole, deeper], fun done name later same entry status => ?_⟩
      cases done with
      | nil =>
        obtain ⟨rfl, rfl⟩ := List.cons.inj same
        cases entry with
        | link target => exact absurd status (plain target)
        | file | dir => rfl
      | cons first done =>
        obtain ⟨rfl, rests⟩ := List.cons.inj same
        exact free done name later rests entry (by rw [deeper]; exact status)

theorem canonicalizeInWorkspace_ok
    (accepted : canonicalizeInWorkspace tree links workspace filename = .ok path) :
    checkFilename filename = .ok () ∧
      path = ((canonicalize tree links workspace).getD workspace).below (names filename) ∧
      LinkFree tree links ((canonicalize tree links workspace).getD workspace)
        (names filename) := by
  unfold canonicalizeInWorkspace at accepted
  split at accepted
  · cases accepted
  · rename_i checked
    dsimp only at accepted
    split at accepted
    · cases accepted
    · rename_i walked
      split at accepted
      · cases accepted
        exact ⟨checked, walkNames_ok walked⟩
      · cases accepted

theorem canonicalizeInWorkspace_of_nil (checked : checkFilename filename = .ok ())
    (empty : names filename = []) : canonicalizeInWorkspace tree links workspace filename =
      .ok ((canonicalize tree links workspace).getD workspace) := by
  have starts : ∀ path, startsWith path path = true := by
    intro path
    simp [startsWith]
  rw [canonicalizeInWorkspace, checked]
  dsimp only
  rw [empty, walkNames]
  exact if_pos (starts _)

/-! ### What is acted on -/

/-- **What an operation acts on is the place that the name means below the workspace**, when the
name has a component or the workspace is there. -/
theorem touches_workspace
    (accepted : canonicalizeInWorkspace tree links workspace filename = .ok path)
    (named : names filename ≠ [] ∨ (resolve tree false links workspace).isSome)
    (touches : Touches tree links path place) :
    ∃ root, resolve tree false links workspace = some root ∧ place = root ++ names filename := by
  obtain ⟨-, rfl, free⟩ := canonicalizeInWorkspace_ok accepted
  unfold canonicalize at free touches
  cases leads : resolve tree false links workspace with
  | none =>
    rw [leads] at free touches named
    have nonempty : names filename ≠ [] := named.resolve_right Bool.noConfusion
    obtain ⟨root, start, -⟩ := touches_below nonempty free touches
    rw [Option.map_none, Option.getD_none, leads] at start
    cases start
  | some root =>
    have solid : tree.Solid root := resolve_solid leads
    rw [leads, Option.map_some, Option.getD_some] at free touches
    refine ⟨root, rfl, ?_⟩
    by_cases empty : names filename = []
    · rw [empty, below_nil] at touches
      rw [empty, List.append_nil]
      exact touches_place solid touches
    · obtain ⟨dir, start, rfl⟩ := touches_below empty free touches
      rw [resolveFrom_place solid start]

/-- **A name is confined** unless it has no component, and the workspace is missing from a directory
that is there. -/
theorem confined_iff (tree : FileTree String) (links : Nat) (workspace : Route String)
    (filename : String) : Confined tree links workspace filename ↔
      checkFilename filename ≠ .ok () ∨ names filename ≠ [] ∨
        (resolve tree false links workspace).isSome ∨ ownPlace tree links workspace = none := by
  constructor
  · intro confined
    by_contra! reached
    obtain ⟨checked, empty, missing, own⟩ := reached
    have unresolved : resolve tree false links workspace = none := by
      simpa using missing
    obtain ⟨place, there⟩ := Option.ne_none_iff_exists'.mp own
    have accepted : canonicalizeInWorkspace tree links workspace filename = .ok workspace := by
      rw [canonicalizeInWorkspace_of_nil checked empty, canonicalize, unresolved]
      rfl
    obtain ⟨root, leads, -⟩ := confined workspace accepted place (Or.inr (Or.inr there))
    rw [unresolved] at leads
    cases leads
  · intro condition path accepted place touches
    have below : names filename ≠ [] ∨ (resolve tree false links workspace).isSome →
        ∃ root, resolve tree false links workspace = some root ∧ root <+: place := by
      intro named
      obtain ⟨root, leads, rfl⟩ := touches_workspace accepted named touches
      exact ⟨root, leads, List.prefix_append _ _⟩
    obtain ⟨checked, -, -⟩ := canonicalizeInWorkspace_ok accepted
    rcases condition with rejected | named | there | alone
    · exact absurd checked rejected
    · exact below (Or.inl named)
    · exact below (Or.inr there)
    · by_contra outside
      have empty : names filename = [] := by
        by_contra named
        exact outside (below (Or.inl named))
      have missing : resolve tree false links workspace = none := by
        by_contra there
        exact outside (below (Or.inr (Option.isSome_iff_ne_none.mpr there)))
      rw [canonicalizeInWorkspace_of_nil checked empty, canonicalize, missing] at accepted
      cases accepted
      obtain ⟨own, made⟩ := exists_ownPlace missing touches
      rw [alone] at made
      cases made

def scheduledJob : FileTree String :=
  .ofRows [([], .dir true), (["etc"], .dir true), (["etc", "cron.d"], .dir true),
    (["srv"], .dir true),
    (["srv", "workspace"], .link ⟨true, [.name "etc", .name "cron.d", .name "job"]⟩)] []
    (by decide) (by decide) (by decide)

/-- What is written to `.` lands behind the link. -/
theorem dot_writes_job :
    ¬Confined scheduledJob 40 ⟨true, [.name "srv", .name "workspace"]⟩ "." := by
  intro confined
  have accepted : canonicalizeInWorkspace scheduledJob 40
      ⟨true, [.name "srv", .name "workspace"]⟩ "." =
        .ok ⟨true, [.name "srv", .name "workspace"]⟩ :=
    canonicalizeInWorkspace_of_nil (by decide) (by decide)
  have written : resolve scheduledJob true 40 ⟨true, [.name "srv", .name "workspace"]⟩ =
      some ["etc", "cron.d", "job"] := by decide
  obtain ⟨root, leads, -⟩ := confined _ accepted _ (Or.inr (Or.inl written))
  have missing : resolve scheduledJob false 40 ⟨true, [.name "srv", .name "workspace"]⟩ = none := by
    decide
  rw [missing] at leads
  cases leads

end Ziee.Sandbox
