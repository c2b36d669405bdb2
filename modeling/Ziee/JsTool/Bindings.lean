/-
**The names a script calls its tools by** (`build_bindings`).

A tool is bound under its own name as an identifier, behind the server's where the name occurs
again, and where that is in use with the first number that is free.

* `Taken` — **the names that tools take**, told from their base names alone.
* `buildBindings_bound` — what holds after each tool, by induction on the tools.
* **`buildBindings_wellBound_iff`** — **a unique name is kept exactly when it is not taken before**;
  everything else holds for all tools.
-/

import Mathlib.Data.List.Induction
import Mathlib.Data.List.Nodup
import Mathlib.Data.List.Perm.Subperm
import Mathlib.Data.Nat.Find
import Ziee.Providers.Chat

namespace Ziee.JsTool

open Ziee.Providers (Json)

structure RawTool where
  serverId : Nat
  serverName : String
  toolName : String
  description : String
  inputSchema : Json

structure ToolBinding extends RawTool where
  jsName : String

def isWordChar (c : Char) : Bool := c.isAlphanum || c == '_'

def sanitize (s : String) : String :=
  let out := s.toList.map fun c => if isWordChar c then c else '_'
  let out := if out.isEmpty then ['_'] else out
  String.ofList (if out.head?.any Char.isDigit then '_' :: out else out)

def occurrences (tools : List RawTool) (name : String) : Nat :=
  tools.countP fun tool => tool.toolName == name

def baseName (tools : List RawTool) (tool : RawTool) : String :=
  if 1 < occurrences tools tool.toolName then
    sanitize tool.serverName ++ "_" ++ sanitize tool.toolName
  else sanitize tool.toolName

/-- The names tried for a base, in order: the base, and the base with the numbers from 2 on. -/
def candidate (base : String) : Nat → String
  | 0 => base
  | n + 1 => base ++ "_" ++ toString (n + 2)

def firstFree (used : List String) (base : String) : Nat → Nat → String
  | 0, n => candidate base n
  | fuel + 1, n =>
    if candidate base n ∈ used then firstFree used base fuel (n + 1) else candidate base n

/-- One more tool; the names in use are those of the bindings so far. -/
def bindTool (tools : List RawTool) (out : List ToolBinding) (tool : RawTool) : List ToolBinding :=
  out ++ [⟨tool, firstFree (out.map ToolBinding.jsName) (baseName tools tool) (out.length + 1) 0⟩]

def buildBindings (tools : List RawTool) : List ToolBinding := tools.foldl (bindTool tools) []

/-! ### Identifiers -/

/-- Letters, underscores and digits, but no digit first. -/
def IsIdentifier (name : String) : Prop :=
  ∃ c rest, name.toList = c :: rest ∧ c.isDigit = false ∧ ∀ d ∈ c :: rest, isWordChar d = true

theorem sanitize_identifier (s : String) : IsIdentifier (sanitize s) := by
  have words : ∀ c ∈ s.toList.map fun c => if isWordChar c then c else '_',
      isWordChar c = true := by
    intro c member
    obtain ⟨d, -, rfl⟩ := List.mem_map.mp member
    split
    · assumption
    · rfl
  unfold sanitize IsIdentifier
  generalize s.toList.map _ = out at words
  simp only [String.toList_ofList]
  cases out with
  | nil => exact ⟨'_', [], rfl, rfl, by simp [isWordChar]⟩
  | cons c out =>
    cases digit : c.isDigit with
    | true => exact ⟨'_', c :: out, by simp [digit], rfl, List.forall_mem_cons.mpr ⟨rfl, words⟩⟩
    | false => exact ⟨c, out, by simp [digit], digit, words⟩

theorem sanitize_self {name : String} (identifier : IsIdentifier name) : sanitize name = name := by
  obtain ⟨c, rest, same, digit, words⟩ := identifier
  have kept : (c :: rest).map (fun c => if isWordChar c then c else '_') = c :: rest :=
    (List.map_congr_left fun d member => if_pos (words d member)).trans (List.map_id' _)
  rw [← String.ofList_toList (s := name), same]
  simp [sanitize, kept, digit]

theorem IsIdentifier.append {name more : String} (identifier : IsIdentifier name)
    (words : ∀ c ∈ more.toList, isWordChar c = true) : IsIdentifier (name ++ more) := by
  obtain ⟨c, rest, same, digit, others⟩ := identifier
  refine ⟨c, rest ++ more.toList, by simp [same], digit, fun d member => ?_⟩
  exact (List.mem_append.mp member).elim (others d) (words d)

theorem baseName_identifier (tools : List RawTool) (tool : RawTool) :
    IsIdentifier (baseName tools tool) := by
  unfold baseName
  split
  · obtain ⟨c, rest, same, -, words⟩ := sanitize_identifier tool.toolName
    refine ((sanitize_identifier _).append (List.all_eq_true.mp rfl)).append ?_
    rwa [same]
  · exact sanitize_identifier _

theorem candidate_identifier {base : String} (identifier : IsIdentifier base) (n : Nat) :
    IsIdentifier (candidate base n) := by
  cases n with
  | zero => exact identifier
  | succ n =>
    rw [candidate, String.append_assoc]
    refine identifier.append fun c member => ?_
    rw [String.toList_append, Nat.toString_eq_ofList_toDigits, String.toList_ofList,
      String.toList_ofList] at member
    rcases List.mem_cons.mp member with rfl | digits
    · rfl
    · have digit := Nat.isDigit_of_mem_toDigits (by decide) (by decide) digits
      simp [isWordChar, Char.isAlphanum, digit]

/-! ### Free numbers -/

theorem candidate_injective (base : String) : Function.Injective (candidate base) := by
  have longer : ∀ n, candidate base (n + 1) ≠ base := by
    intro n same
    have lengths := congrArg String.length same
    rw [candidate, String.length_append, String.length_append] at lengths
    have one : "_".length = 1 := rfl
    omega
  intro n m same
  cases n with
  | zero => cases m with
    | zero => rfl
    | succ m => exact absurd same.symm (longer m)
  | succ n => cases m with
    | zero => exact absurd same (longer n)
    | succ m =>
      have digits := List.append_cancel_left ((String.toList_append ..).symm.trans
          ((congrArg String.toList same).trans (String.toList_append ..)))
      rw [Nat.toString_eq_ofList_toDigits, Nat.toString_eq_ofList_toDigits, String.toList_ofList,
        String.toList_ofList] at digits
      have values := congrArg (Nat.ofDigitChars 10 · 0) digits
      simpa using values

/-- **The numbers end**: the name found is the first free one. -/
theorem firstFree_spec (used : List String) (base : String) : ∃ n,
    firstFree used base (used.length + 1) 0 = candidate base n ∧ candidate base n ∉ used ∧
      ∀ m < n, candidate base m ∈ used := by
  have free : ∃ n, candidate base n ∉ used ∧ n < used.length + 1 := by
    by_contra none
    have all : (List.range (used.length + 1)).map (candidate base) ⊆ used := by
      intro name member
      obtain ⟨n, below, rfl⟩ := List.mem_map.mp member
      by_contra fresh
      exact none ⟨n, fresh, List.mem_range.mp below⟩
    have most := ((List.nodup_range.map (candidate_injective base)).subperm all).length_le
    rw [List.length_map, List.length_range] at most
    omega
  classical
  have run : ∀ fuel n, n ≤ Nat.find free → Nat.find free < n + fuel →
      firstFree used base fuel n = candidate base (Nat.find free) := by
    intro fuel
    induction fuel with
    | zero => intro n order enough; omega
    | succ fuel ih =>
      intro n order enough
      rw [firstFree]
      rcases Nat.eq_or_lt_of_le order with rfl | before
      · rw [if_neg (Nat.find_spec free).1]
      · have bound := (Nat.find_spec free).2
        have taken : candidate base n ∈ used := by
          by_contra fresh
          exact Nat.find_min free before ⟨fresh, by omega⟩
        rw [if_pos taken]
        exact ih (n + 1) before (by omega)
  have bound := (Nat.find_spec free).2
  refine ⟨Nat.find free, run _ 0 (Nat.zero_le _) (by omega), (Nat.find_spec free).1,
    fun m below => ?_⟩
  by_contra fresh
  exact Nat.find_min free below ⟨fresh, by omega⟩

/-! ### Taken names -/

/-- **A name is taken by a tool** when it is the tool's base name, or that name with a number, and
all names tried before were taken by earlier tools. -/
inductive Taken : List String → String → Prop
  | next {before after : List String} {base : String} {n : Nat}
      (others : ∀ m < n, Taken before (candidate base m)) :
      Taken (before ++ base :: after) (candidate base n)

theorem taken_concat_iff {bases : List String} {base name : String} {n : Nat}
    (free : ¬Taken bases (candidate base n)) (others : ∀ m < n, Taken bases (candidate base m)) :
    Taken (bases ++ [base]) name ↔ Taken bases name ∨ name = candidate base n := by
  constructor
  · generalize whole : bases ++ [base] = all
    rintro ⟨earlier⟩
    rename_i before after other k
    rcases List.eq_nil_or_concat after with rfl | ⟨after, last, rfl⟩
    · obtain ⟨rfl, same⟩ := List.append_inj' whole rfl
      cases same
      rcases Nat.lt_trichotomy k n with less | rfl | more
      · exact Or.inl (others k less)
      · exact Or.inr rfl
      · exact absurd (earlier n more) free
    · rw [List.concat_eq_append, ← List.cons_append, ← List.append_assoc] at whole
      obtain ⟨rfl, -⟩ := List.append_inj' whole rfl
      exact Or.inl (.next earlier)
  · rintro (@⟨before, after, other, k, earlier⟩ | rfl)
    · rw [List.append_assoc, List.cons_append]
      exact .next earlier
    · exact .next others

/-! ### The bindings -/

def OwnName (tools : List RawTool) (tool : RawTool) : Prop :=
  IsIdentifier tool.toolName ∧ occurrences tools tool.toolName = 1

/-- The tools with names of their own are bound under these. -/
def KeepsOwn (tools : List RawTool) (bindings : List ToolBinding) : Prop :=
  ∀ binding ∈ bindings, OwnName tools binding.toRawTool → binding.jsName = binding.toolName

def Untaken (tools first : List RawTool) : Prop :=
  ∀ before tool, before ++ [tool] <+: first → OwnName tools tool →
    ¬Taken (before.map (baseName tools)) tool.toolName

theorem untaken_concat_iff {tools first : List RawTool} {tool : RawTool} :
    Untaken tools (first ++ [tool]) ↔ Untaken tools first ∧ (OwnName tools tool →
      ¬Taken (first.map (baseName tools)) tool.toolName) := by
  simp only [Untaken, List.prefix_concat_iff]
  constructor
  · exact fun all => ⟨fun earlier other part => all earlier other (.inr part),
      all first tool (.inl rfl)⟩
  · rintro ⟨all, last⟩ earlier other (same | part)
    · obtain ⟨rfl, alike⟩ := List.append_inj' same rfl
      cases alike
      exact last
    · exact all earlier other part

/-- **After each tool** the names in use are those taken. -/
theorem bindTools_bound (tools first : List RawTool) :
    let out := first.foldl (bindTool tools) []
    (∀ name, name ∈ out.map ToolBinding.jsName ↔ Taken (first.map (baseName tools)) name) ∧
      out.map ToolBinding.toRawTool = first ∧ (out.map ToolBinding.jsName).Nodup ∧
      (∀ binding ∈ out, IsIdentifier binding.jsName) ∧
      (KeepsOwn tools out ↔ Untaken tools first) := by
  induction first using List.reverseRecOn with
  | nil =>
    refine ⟨fun name => iff_of_false List.not_mem_nil ?_, rfl, List.nodup_nil, by simp,
      iff_of_true (by simp [KeepsOwn]) fun before tool part => absurd part (by simp)⟩
    generalize none : List.map _ [] = bases
    rintro ⟨-⟩
    exact absurd none (by simp)
  | append_singleton first tool ih =>
    rw [List.foldl_append, List.foldl_cons, List.foldl_nil]
    generalize first.foldl (bindTool tools) [] = out at ih
    obtain ⟨used, inOrder, distinct, identifiers, keeps⟩ := ih
    obtain ⟨n, found, fresh, others⟩ :=
      firstFree_spec (out.map ToolBinding.jsName) (baseName tools tool)
    rw [List.length_map] at found
    have free := (used _).not.mp fresh
    replace others := fun m below => (used _).mp (others m below)
    rw [bindTool, found]
    dsimp only
    rw [List.map_append, List.map_append, List.map_append, inOrder]
    refine ⟨fun name => ?_, rfl, ?_, ?_, ?_⟩
    · exact List.mem_append.trans ((or_congr (used name) List.mem_singleton).trans
        (taken_concat_iff free others).symm)
    · refine List.nodup_append.mpr ⟨distinct, List.nodup_singleton _, ?_⟩
      rintro name member _ (_ | ⟨_, ⟨⟩⟩) rfl
      exact fresh member
    · refine List.forall_mem_append.mpr ⟨identifiers, List.forall_mem_singleton.mpr ?_⟩
      exact candidate_identifier (baseName_identifier _ _) n
    · rw [KeepsOwn, List.forall_mem_append, List.forall_mem_singleton, untaken_concat_iff]
      refine and_congr keeps (forall_congr' fun own => ?_)
      -- The new tool keeps its name when the first candidate is free.
      have base : baseName tools tool = tool.toolName := by
        have once := Nat.le_of_eq own.2
        exact (if_neg (Nat.not_lt.mpr once)).trans (sanitize_self own.1)
      rw [base] at free others
      change candidate (baseName tools tool) n = tool.toolName ↔ _
      rw [base]
      cases n with
      | zero => exact iff_of_true rfl free
      | succ n =>
        exact iff_of_false (fun same => Nat.succ_ne_zero n (candidate_injective _ same))
          fun untaken => untaken (others 0 (Nat.succ_pos n))

/-- **What the bindings of the tools are to be.** -/
structure WellBound (tools : List RawTool) (bindings : List ToolBinding) : Prop where
  inOrder : bindings.map ToolBinding.toRawTool = tools
  distinct : (bindings.map ToolBinding.jsName).Nodup
  identifiers : ∀ binding ∈ bindings, IsIdentifier binding.jsName
  ownNames : KeepsOwn tools bindings

/-- **A unique name is kept exactly when it is not taken before**; the rest holds for all tools. -/
theorem buildBindings_wellBound_iff (tools : List RawTool) :
    WellBound tools (buildBindings tools) ↔ Untaken tools tools := by
  obtain ⟨-, inOrder, distinct, identifiers, keeps⟩ := bindTools_bound tools tools
  exact ⟨fun well => keeps.mp well.ownNames,
    fun untaken => ⟨inOrder, distinct, identifiers, keeps.mpr untaken⟩⟩

def dashed : List RawTool :=
  ["a-b", "a_b"].map fun name => ⟨0, "server", name, "", .null⟩

/-- The name of the second tool is unique, and the first one takes it. -/
theorem dashed_taken : ¬WellBound dashed (buildBindings dashed) := by
  intro well
  have kept := well.ownNames ⟨⟨0, "server", "a_b", "", .null⟩, "a_b_2"⟩ (.tail _ (.head _))
    ⟨⟨'a', ['_', 'b'], rfl, rfl, List.all_eq_true.mp rfl⟩, by decide⟩
  revert kept
  decide

end Ziee.JsTool
