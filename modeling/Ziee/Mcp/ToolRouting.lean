/-
**Where a tool call of the chat goes** (`resolve_server_and_tool`, `before_llm_call`;
`convert_mcp_tool_to_ai_tool`).

A tool is shown to the model as its server's id, two underscores and its own name. A map from the
bare names to the servers that were shown with them this turn decides where a call goes: the id in
the call is only believed when the map says the same.

* `convertMcpToolToAiTool`, `bareMap`, `resolveServerAndTool` — the code; how an id is written and
  read is the library's (`UuidText`).
* `readPairs_eq` — the names shown are read back as the servers and tools they were made of.
* **`routing_exact`** — **a call goes to a server that shows the tool this turn**, and the name of a
  tool goes to its server when no other server shows a tool of that name, else to none.
-/

import Ziee.Mcp.AgentToolNames

namespace Ziee.Mcp

open Framing Ziee.Agent Ziee.Providers

def maxAnthropicToolNameLen : Nat := 128

def isAnthropicToolNameCharset (name : String) : Bool :=
  !name.toList.isEmpty && name.toList.all fun c => c.isAlphanum || c == '_' || c == '-'

/-- How the library writes and reads an id. -/
structure UuidText where
  display : Uuid → String
  parseStr : String → Option Uuid

/-- What it documents: an id is written in hexadecimal digits and hyphens, so without underscores,
and reads back. -/
def UuidText.Documented (uuids : UuidText) (id : Uuid) : Prop :=
  uuids.parseStr (uuids.display id) = some id ∧ '_' ∉ (uuids.display id).toList

def composed (uuids : UuidText) (serverId : Uuid) (tool : McpTool) : String :=
  uuids.display serverId ++ "__" ++ tool.name

/-- `convert_mcp_tool_to_ai_tool`: nothing for a name that the provider would refuse. -/
def convertMcpToolToAiTool (uuids : UuidText) (serverId : Uuid) (tool : McpTool) : Option Tool :=
  if maxAnthropicToolNameLen < (composed uuids serverId tool).utf8ByteSize then none
  else if !isAnthropicToolNameCharset (composed uuids serverId tool) then none
  else some ⟨composed uuids serverId tool⟩

/-- The tools that are shown, of those the servers offer. -/
def advertisedTools (uuids : UuidText) (offered : List (Uuid × McpTool)) : List Tool :=
  offered.filterMap fun pair => convertMcpToolToAiTool uuids pair.1 pair.2

/-- `str::split_once`. -/
def splitOnce (delim text : String) : Option (String × String) :=
  (cut delim.toList text.toList).map fun pieces => (String.ofList pieces.1, String.ofList pieces.2)

/-- A bare name's server this turn; `some none` marks a name of two servers. -/
abbrev BareMap : Type := String → Option (Option Uuid)

def BareMap.insert (map : BareMap) (name : String) (server : Option Uuid) : BareMap :=
  fun other => if other = name then some server else map other

section Code

variable (parseStr : String → Option Uuid)

def readName (wire : String) : Option (Uuid × String) :=
  match splitOnce "__" wire with
  | none => none
  | some (id, name) => (parseStr id).map fun serverId => (serverId, name)

/-- One turn of the loop that builds the map. -/
def addTool (map : BareMap) (tool : Tool) : BareMap :=
  match readName parseStr tool.name with
  | none => map
  | some (serverId, bare) =>
    match map bare with
    | some (some existing) => if existing ≠ serverId then map.insert bare none else map
    | some none => map
    | none => map.insert bare (some serverId)

/-- The map of `before_llm_call`. -/
def bareMap (allTools : List Tool) : BareMap := allTools.foldl (addTool parseStr) fun _ => none

def recoverServerIdForBareName (bare : String) (map : BareMap) : Option Uuid := (map bare).join

/-- The names a wire name without a server is tried under. -/
def candidates (fullName : String) : List String :=
  match "__".toList.isPrefixOf fullName.toList, fullName.toList.drop 2 with
  | true, first :: rest => [String.ofList (first :: rest), fullName]
  | _, _ => [fullName]

def recoverFirst (map : BareMap) (fullName : String) : List String → Option Uuid × String
  | [] => (none, fullName)
  | candidate :: rest =>
    match recoverServerIdForBareName candidate map with
    | some serverId => (some serverId, candidate)
    | none => recoverFirst map fullName rest

def resolveServerAndTool (fullName : String) (map : BareMap) : Option Uuid × String :=
  match readName parseStr fullName with
  | some (serverId, name) =>
    if recoverServerIdForBareName name map = some serverId then (some serverId, name)
    else (recoverServerIdForBareName name map, name)
  | none => recoverFirst map fullName (candidates fullName)

end Code

/-! ### The map -/

/-- The servers that show a name, in the order of the tools. -/
def owners (pairs : List (Uuid × String)) (name : String) : List Uuid :=
  (pairs.filter fun pair => pair.2 = name).map (·.1)

/-- What the map says of them: the server, when it is one. -/
def verdict : List Uuid → Option (Option Uuid)
  | [] => none
  | first :: rest => if rest.all (· = first) then some (some first) else some none

section Map

variable {parseStr : String → Option Uuid} {serverId : Uuid} {name : String}

theorem verdict_concat (servers : List Uuid) (serverId : Uuid) : verdict (servers ++ [serverId]) =
      match verdict servers with
      | some (some existing) => if existing ≠ serverId then some none else some (some existing)
      | some none => some none
      | none => some (some serverId) := by
  cases servers with
  | nil => rfl
  | cons first rest =>
    rw [List.cons_append, verdict, verdict, List.all_append]
    cases rest.all (· = first) with
    | false => simp
    | true =>
      by_cases same : first = serverId
      · simp [same]
      · simp [same, Ne.symm same]

theorem bareMap_concat (allTools : List Tool) (tool : Tool) :
    bareMap parseStr (allTools ++ [tool]) = addTool parseStr (bareMap parseStr allTools) tool := by
  rw [bareMap, List.foldl_append]
  rfl

/-- **The map says which servers show a name.** -/
theorem bareMap_eq (allTools : List Tool) : bareMap parseStr allTools = fun name =>
    verdict (owners (allTools.filterMap fun tool => readName parseStr tool.name) name) := by
  induction allTools using List.reverseRecOn with
  | nil => rfl
  | append_singleton allTools tool ih =>
    rw [bareMap_concat, List.filterMap_append, addTool, ih]
    cases read : readName parseStr tool.name with
    | none => simp [read]
    | some pair =>
      obtain ⟨serverId, bare⟩ := pair
      funext name
      have step : (allTools.filterMap fun tool => readName parseStr tool.name) ++
          [tool].filterMap (fun tool => readName parseStr tool.name) =
            (allTools.filterMap fun tool => readName parseStr tool.name) ++ [(serverId, bare)] := by
        simp [read]
      rw [step]
      generalize (allTools.filterMap fun tool => readName parseStr tool.name) = pairs
      by_cases here : name = bare
      · subst here
        have one : owners (pairs ++ [(serverId, name)]) name = owners pairs name ++ [serverId] := by
          simp [owners]
        rw [one, verdict_concat]
        dsimp only
        cases owned : verdict (owners pairs name) with
        | none => simp [BareMap.insert]
        | some server =>
          cases server with
          | none => simp [owned]
          | some existing =>
            by_cases same : existing = serverId
            · simp [same, owned]
            · simp [same, BareMap.insert]
      · have other : owners (pairs ++ [(serverId, bare)]) name = owners pairs name := by
          simp [owners, Ne.symm here]
        rw [other]
        dsimp only
        cases verdict (owners pairs bare) with
        | none => simp [BareMap.insert, here]
        | some server =>
          cases server with
          | none => rfl
          | some existing =>
            by_cases same : existing = serverId
            · simp [same]
            · simp [same, BareMap.insert, here]

theorem recover_eq_some_iff (allTools : List Tool) :
    recoverServerIdForBareName name (bareMap parseStr allTools) = some serverId ↔
      serverId ∈ owners (allTools.filterMap fun tool => readName parseStr tool.name) name ∧
        ∀ other ∈ owners (allTools.filterMap fun tool => readName parseStr tool.name) name,
          other = serverId := by
  rw [recoverServerIdForBareName, bareMap_eq]
  dsimp only
  cases owners (allTools.filterMap fun tool => readName parseStr tool.name) name with
  | nil => simp [verdict]
  | cons first rest =>
    rw [verdict]
    by_cases same : rest.all (· = first) = true
    · rw [if_pos same]
      have all : ∀ other ∈ rest, other = first := by simpa using same
      constructor
      · intro named
        obtain rfl : first = serverId := Option.some.inj named
        exact ⟨List.mem_cons_self, List.forall_mem_cons.mpr ⟨rfl, all⟩⟩
      · rintro ⟨-, only⟩
        rw [only first List.mem_cons_self]
        rfl
    · rw [if_neg same]
      refine iff_of_false nofun ?_
      rintro ⟨-, only⟩
      obtain ⟨rfl, others⟩ := List.forall_mem_cons.mp only
      exact same (by simpa using others)

end Map

/-! ### The names shown -/

theorem plainName_of_not_mem {text : String} (absent : '_' ∉ text.toList) : PlainName text :=
  ⟨fun inside => absent (inside.subset (by decide)), fun last => absent (List.mem_of_getLast? last)⟩

def Shown (uuids : UuidText) (offered : List (Uuid × McpTool)) (serverId : Uuid) (name : String) :
    Prop :=
  ∃ tool, (serverId, tool) ∈ offered ∧ tool.name = name ∧
    (convertMcpToolToAiTool uuids serverId tool).isSome = true

section Routing

variable {uuids : UuidText} {offered : List (Uuid × McpTool)} {serverId : Uuid} {tool : McpTool}

theorem splitOnce_composed (plain : PlainName (uuids.display serverId)) :
    splitOnce "__" (composed uuids serverId tool) = some (uuids.display serverId, tool.name) := by
  have nonempty : "__".toList ≠ [] := by decide
  have first : cut "__".toList
      ((uuids.display serverId).toList ++ "__".toList ++ tool.name.toList) =
        some ((uuids.display serverId).toList, tool.name.toList) :=
    (cut_eq_iff nonempty).mpr (plainName_iff.mp plain)
  rw [splitOnce, composed, String.toList_append, String.toList_append, first, Option.map_some,
    String.ofList_toList, String.ofList_toList]

theorem readName_composed (documented : uuids.Documented serverId) :
    readName uuids.parseStr (composed uuids serverId tool) = some (serverId, tool.name) := by
  rw [readName, splitOnce_composed (plainName_of_not_mem documented.2)]
  dsimp only
  rw [documented.1]
  rfl

theorem convert_eq_some {shown : Tool} (converts : convertMcpToolToAiTool uuids serverId tool =
    some shown) : shown.name = composed uuids serverId tool := by
  unfold convertMcpToolToAiTool at converts
  split at converts
  · cases converts
  · split at converts
    · cases converts
    · cases converts
      rfl

theorem mem_owners_iff (documented : ∀ pair ∈ offered, uuids.Documented pair.1) {name : String} :
    serverId ∈ owners ((advertisedTools uuids offered).filterMap fun tool =>
      readName uuids.parseStr tool.name) name ↔ Shown uuids offered serverId name := by
  unfold owners Shown advertisedTools
  simp only [List.mem_map, List.mem_filter, List.mem_filterMap, decide_eq_true_eq]
  constructor
  · rintro ⟨⟨server, bare⟩, ⟨⟨shown, ⟨⟨id, tool⟩, there, converts⟩, reads⟩, rfl⟩, rfl⟩
    dsimp only at converts ⊢
    rw [convert_eq_some converts, readName_composed (documented _ there)] at reads
    obtain ⟨rfl, rfl⟩ := Prod.mk.inj (Option.some.inj reads)
    exact ⟨tool, there, rfl, Option.isSome_of_eq_some converts⟩
  · rintro ⟨tool, there, rfl, some⟩
    obtain ⟨shown, converts⟩ := Option.isSome_iff_exists.mp some
    refine ⟨(serverId, tool.name), ⟨⟨shown, ⟨(serverId, tool), there, converts⟩, ?_⟩, rfl⟩, rfl⟩
    rw [convert_eq_some converts, readName_composed (documented _ there)]

theorem recover_iff (documented : ∀ pair ∈ offered, uuids.Documented pair.1) {name : String} :
    recoverServerIdForBareName name (bareMap uuids.parseStr (advertisedTools uuids offered)) =
        some serverId ↔
      Shown uuids offered serverId name ∧
        ∀ other, Shown uuids offered other name → other = serverId := by
  rw [recover_eq_some_iff]
  simp only [mem_owners_iff documented]

theorem resolve_recovers {parseStr : String → Option Uuid} {map : BareMap} {wire name : String}
    (resolved : resolveServerAndTool parseStr wire map = (some serverId, name)) :
    recoverServerIdForBareName name map = some serverId := by
  have first : ∀ names, recoverFirst map wire names = (some serverId, name) →
      recoverServerIdForBareName name map = some serverId := by
    intro names
    induction names with
    | nil =>
      intro found
      cases found
    | cons candidate rest ih =>
      intro found
      rw [recoverFirst] at found
      cases here : recoverServerIdForBareName candidate map with
      | none =>
        rw [here] at found
        exact ih found
      | some server =>
        rw [here] at found
        cases found
        exact here
  unfold resolveServerAndTool at resolved
  split at resolved
  · split at resolved
    · rename_i owned
      cases resolved
      exact owned
    · obtain ⟨owned, rfl⟩ := Prod.mk.inj resolved
      exact owned
  · exact first _ resolved

/-- **A call goes to a server that shows the tool this turn**; and the name of a tool goes to its
own server when no other shows a tool of that name, else to none. -/
theorem routing_exact (uuids : UuidText) (offered : List (Uuid × McpTool))
    (documented : ∀ pair ∈ offered, uuids.Documented pair.1) :
    (∀ wire serverId name, resolveServerAndTool uuids.parseStr wire
        (bareMap uuids.parseStr (advertisedTools uuids offered)) = (some serverId, name) →
      Shown uuids offered serverId name) ∧
    ∀ serverId tool, (serverId, tool) ∈ offered → Shown uuids offered serverId tool.name →
      ((∀ other, Shown uuids offered other tool.name → other = serverId) →
        resolveServerAndTool uuids.parseStr (composed uuids serverId tool)
          (bareMap uuids.parseStr (advertisedTools uuids offered)) = (some serverId, tool.name)) ∧
      ((∃ other, Shown uuids offered other tool.name ∧ other ≠ serverId) →
        resolveServerAndTool uuids.parseStr (composed uuids serverId tool)
          (bareMap uuids.parseStr (advertisedTools uuids offered)) = (none, tool.name)) := by
  refine ⟨fun wire serverId name resolved =>
    ((recover_iff documented).mp (resolve_recovers resolved)).1,
    fun serverId tool member shown => ?_⟩
  have reads : readName uuids.parseStr (composed uuids serverId tool) =
      some (serverId, tool.name) := readName_composed (documented _ member)
  constructor
  · intro only
    have owned := (recover_iff documented).mpr ⟨shown, only⟩
    rw [resolveServerAndTool, reads]
    dsimp only
    rw [if_pos owned]
  · rintro ⟨other, also, different⟩
    have unowned : recoverServerIdForBareName tool.name
        (bareMap uuids.parseStr (advertisedTools uuids offered)) = none := by
      rw [Option.eq_none_iff_forall_ne_some]
      intro server named
      obtain ⟨-, only⟩ := (recover_iff documented).mp named
      exact different ((only other also).trans (only serverId shown).symm)
    rw [resolveServerAndTool, reads]
    dsimp only
    rw [unowned, if_neg nofun]

end Routing

def twoUuids : UuidText where
  display id := if id = 1#128 then "00000000-0000-0000-0000-000000000001"
    else "00000000-0000-0000-0000-000000000002"
  parseStr text := if text = "00000000-0000-0000-0000-000000000001" then some 1#128
    else if text = "00000000-0000-0000-0000-000000000002" then some 2#128 else none

/-- Two servers, which both have a tool `search`; only the first has `fetch`. -/
def twoSearches : List (Uuid × McpTool) :=
  [(1#128, ⟨"search"⟩), (1#128, ⟨"fetch"⟩), (2#128, ⟨"search"⟩)]

theorem twoSearches_documented : ∀ pair ∈ twoSearches, twoUuids.Documented pair.1 := by
  simp only [twoSearches, List.forall_mem_cons, UuidText.Documented]
  decide

theorem twoSearches_fetch {serverId : Uuid} (shown : Shown twoUuids twoSearches serverId "fetch") :
    serverId = 1#128 := by
  obtain ⟨tool, member, named, -⟩ := shown
  simp only [twoSearches, List.mem_cons, Prod.mk.injEq, List.not_mem_nil, or_false] at member
  obtain ⟨rfl, rfl⟩ | ⟨rfl, rfl⟩ | ⟨rfl, rfl⟩ := member
  · rfl
  · rfl
  · exact absurd named (by decide)

theorem twoSearches_routed : resolveServerAndTool twoUuids.parseStr
    (composed twoUuids 1#128 ⟨"fetch"⟩)
      (bareMap twoUuids.parseStr (advertisedTools twoUuids twoSearches)) =
    (some 1#128, "fetch") := by
  have shown : Shown twoUuids twoSearches 1#128 "fetch" :=
    ⟨⟨"fetch"⟩, List.mem_cons_of_mem _ List.mem_cons_self, rfl, by decide +kernel⟩
  exact ((routing_exact twoUuids twoSearches twoSearches_documented).2 1#128 ⟨"fetch"⟩
    (List.mem_cons_of_mem _ List.mem_cons_self) shown).1 fun _ also => twoSearches_fetch also

/-- The name of a tool that two servers show goes to neither. -/
theorem search_unrouted : Shown twoUuids twoSearches 1#128 "search" ∧
    resolveServerAndTool twoUuids.parseStr (composed twoUuids 1#128 ⟨"search"⟩)
      (bareMap twoUuids.parseStr (advertisedTools twoUuids twoSearches)) = (none, "search") := by
  exact ⟨⟨⟨"search"⟩, List.mem_cons_self, rfl, by decide +kernel⟩, by decide +kernel⟩

end Ziee.Mcp
