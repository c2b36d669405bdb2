/-
**The arguments of a tool step** (`dispatch.rs`, `render_tool_arguments`).

The strings of an argument tree may refer to inputs and step outputs. A string that is one reference
is to become the value it refers to, whatever its JSON type, and any other string a string. The code
renders the string to text and, where the string looks like one reference, reads the text back as
JSON; so the value is replaced by whatever its text reads as.

* `renderLeaf`, `renderToolArguments` — one string, and the tree.
* `Replaced` — what the code promises: a reference becomes its value, the rest of the tree stays.

`parse` stands for `serde_json::from_str`.
-/

import Ziee.Workflow.RenderRefs

namespace Ziee.Workflow.Arguments

open Ziee.Providers Ziee.Workflow.Typing

def TemplateError.display : TemplateError → String
  | .unknownVariable name => "unknown variable: " ++ name
  | .invalidSyntax detail => "invalid template syntax: " ++ detail
  | .stepNotYetRun stepId =>
    "template references step '" ++ stepId ++ "' which has not produced output yet"
  | .unknownFilter name => "unknown filter '" ++ name ++ "' (supported: json, raw)"
  | .indexOutOfBounds idx len =>
    "array index " ++ toString idx ++ " out of bounds (len = " ++ toString len ++ ")"
  | .notAnArray => "cannot index non-array value"
  | .missingField field path =>
    "field '" ++ field ++ "' not present on object (path '" ++ path ++ "')"
  | .notAnObject field path =>
    "cannot access field '" ++ field ++ "' on a non-object value (path '" ++ path ++ "')"
  | .io detail => "io error reading step output: " ++ detail

/-- What `\s*([^}]+?)\s*` captures of a run without a closing brace: the run without its blanks; of
a blank run its last character, since it has to capture something. -/
def varBody (run : List Char) : String :=
  if (trim run).isEmpty then String.ofList (run.drop (run.length - 1))
  else String.ofList (trim run)

/-- The match of the reference pattern at the start of a text: what it captures, and its length. -/
def varAt : List Char → Option (String × Nat)
  | '\x7b' :: '\x7b' :: rest =>
    let run := rest.takeWhile fun c => c != '\x7d'
    if run ≠ [] ∧ (rest.drop run.length).take 2 = ['\x7d', '\x7d'] then
      some (varBody run, run.length + 4)
    else none
  | _ => none

/-- **`render`**: every match is replaced, in turn; `skip` characters belong to the last match. -/
def renderText (ctx : RunContext) : Nat → List Char → Except TemplateError (List Char)
  | _, [] => .ok []
  | skip + 1, _ :: rest => renderText ctx skip rest
  | 0, c :: rest =>
    match varAt (c :: rest) with
    | none => (renderText ctx 0 rest).map (c :: ·)
    | some (body, width) =>
      match renderRef [] ctx body with
      | .error error => .error error
      | .ok text => (renderText ctx (width - 1) rest).map (text.toList ++ ·)

/-! ### The arguments -/

/-- `matches("\x7b\x7b").count()`. -/
def openings : List Char → Nat
  | '\x7b' :: '\x7b' :: rest => openings rest + 1
  | _ :: rest => openings rest
  | [] => 0

/-- `whole_value_ref`: the string looks like one reference. -/
def wholeValueRef (text : List Char) : Bool :=
  ['\x7b', '\x7b'].isPrefixOf (trim text) && ['\x7d', '\x7d'].isSuffixOf (trim text) &&
    openings (trim text) == 1

/-- `render_tool_arguments` on a string. -/
def renderLeaf (parse : String → Option Json) (ctx : RunContext) (s : String) :
    Except String Json :=
  if wholeValueRef s.toList then
    match renderText ctx 0 s.toList with
    | .error error => .error (TemplateError.display error)
    | .ok rendered =>
      .ok ((parse (String.ofList rendered)).getD (.string (String.ofList rendered)))
  else if openings s.toList ≠ 0 then
    match renderText ctx 0 s.toList with
    | .error error => .error (TemplateError.display error)
    | .ok rendered => .ok (.string (String.ofList rendered))
  else .ok (.string s)

mutual

def renderToolArguments (parse : String → Option Json) (ctx : RunContext) :
    Json → Except String Json
  | .string s => renderLeaf parse ctx s
  | .array items => (renderItems parse ctx items).map .array
  | .object members => (renderMembers parse ctx members).map .object
  | .null => .ok .null
  | .bool value => .ok (.bool value)
  | .number value => .ok (.number value)

def renderItems (parse : String → Option Json) (ctx : RunContext) :
    List Json → Except String (List Json)
  | [] => .ok []
  | item :: rest =>
    match renderToolArguments parse ctx item with
    | .error error => .error error
    | .ok out => (renderItems parse ctx rest).map (out :: ·)

def renderMembers (parse : String → Option Json) (ctx : RunContext) :
    List (String × Json) → Except String (List (String × Json))
  | [] => .ok []
  | (key, value) :: rest =>
    match renderToolArguments parse ctx value with
    | .error error => .error error
    | .ok out => (renderMembers parse ctx rest).map ((key, out) :: ·)

end

/-! ### The promise -/

def IsReference (s body : String) : Prop := varAt s.toList = some (body, s.toList.length)

def Refers (ctx : RunContext) (body : String) (value : Json) (filter : Filter) : Prop :=
  ∃ expr, parseExpr body = .ok expr ∧ expr.filter = filter ∧ resolveExpr ctx expr = .ok value

def LeafReplaced (ctx : RunContext) (s : String) (out : Json) : Prop :=
  (∀ body value filter, IsReference s body → Refers ctx body value filter → out = value) ∧
    ((∀ body, ¬ IsReference s body) → ∃ text, out = .string text)

mutual

/-- **What becomes of a tree**: its strings are replaced, the rest of it is as it was. -/
def Replaced (ctx : RunContext) : Json → Json → Prop
  | .string s, out => LeafReplaced ctx s out
  | .array items, out => ∃ outs, out = .array outs ∧ ReplacedItems ctx items outs
  | .object members, out => ∃ outs, out = .object outs ∧ ReplacedMembers ctx members outs
  | .null, out => out = .null
  | .bool value, out => out = .bool value
  | .number value, out => out = .number value

def ReplacedItems (ctx : RunContext) : List Json → List Json → Prop
  | [], outs => outs = []
  | item :: rest, outs =>
    ∃ first later, outs = first :: later ∧ Replaced ctx item first ∧ ReplacedItems ctx rest later

def ReplacedMembers (ctx : RunContext) : List (String × Json) → List (String × Json) → Prop
  | [], outs => outs = []
  | (key, value) :: rest, outs =>
    ∃ first later, outs = (key, first) :: later ∧ Replaced ctx value first ∧
      ReplacedMembers ctx rest later

end

mutual

/-- The strings of a tree. -/
def stringLeaves : Json → List String
  | .string s => [s]
  | .array items => leavesOfItems items
  | .object members => leavesOfMembers members
  | .null => []
  | .bool _ => []
  | .number _ => []

def leavesOfItems : List Json → List String
  | [] => []
  | item :: rest => stringLeaves item ++ leavesOfItems rest

def leavesOfMembers : List (String × Json) → List String
  | [] => []
  | (_, value) :: rest => stringLeaves value ++ leavesOfMembers rest

end

def ReadsBack (parse : String → Option Json) (value : Json) (filter : Filter) : Prop :=
  parse (stringify value filter) = some value ∨
    (parse (stringify value filter) = none ∧ value = .string (stringify value filter))

/-- **On one string**: the value of a reference reads back from its text; it is a text put as it is
where the code does not take the string for a reference; and a string that only looks like a
reference does not render to the text of a number, a list or another value that is no string. -/
def LeafReadsBack (parse : String → Option Json) (ctx : RunContext) (s : String) : Prop :=
  (∀ body value filter, IsReference s body → Refers ctx body value filter →
    if wholeValueRef s.toList then ReadsBack parse value filter
    else value = .string (stringify value filter)) ∧
  ((∀ body, ¬ IsReference s body) → wholeValueRef s.toList = true →
    ∀ text value, renderText ctx 0 s.toList = .ok text → parse (String.ofList text) = some value →
      ∃ own, value = .string own)

/-! ### References -/

section References

variable {ctx : RunContext} {s body text : String} {value : Json} {filter : Filter}

theorem Refers.unique {value' : Json} {filter' : Filter} (one : Refers ctx body value filter)
    (two : Refers ctx body value' filter') : value = value' ∧ filter = filter' := by
  obtain ⟨expr, parsed, rfl, resolved⟩ := one
  obtain ⟨expr', parsed', rfl, resolved'⟩ := two
  cases parsed.symm.trans parsed'
  cases resolved.symm.trans resolved'
  exact ⟨rfl, rfl⟩

theorem renderRef_ok_iff : renderRef [] ctx body = .ok text ↔
      ∃ value filter, Refers ctx body value filter ∧ text = stringify value filter := by
  unfold renderRef Refers
  cases parsed : parseExpr body with
  | error error => simp
  | ok expr =>
    simp only [List.lookup_nil, map_eq_ok_iff, Except.ok.injEq]
    constructor
    · rintro ⟨value, resolved, rfl⟩
      exact ⟨value, expr.filter, ⟨expr, rfl, rfl, resolved⟩, rfl⟩
    · rintro ⟨value, filter, ⟨expr', rfl, rfl, resolved⟩, rfl⟩
      exact ⟨value, resolved, rfl⟩

theorem renderText_skipped (ctx : RunContext) (text : List Char) :
    renderText ctx text.length text = .ok [] := by
  induction text with
  | nil => rfl
  | cons c rest ih => exact ih

theorem renderText_reference (reference : IsReference s body) :
    renderText ctx 0 s.toList = (renderRef [] ctx body).map String.toList := by
  unfold IsReference at reference
  cases chars : s.toList with
  | nil =>
    rw [chars] at reference
    cases reference
  | cons c rest =>
    rw [chars] at reference
    rw [renderText, reference]
    dsimp only
    cases renderRef [] ctx body with
    | error error => rfl
    | ok text =>
      dsimp only
      rw [List.length_cons, Nat.add_sub_cancel, renderText_skipped]
      simp [Except.map]

theorem openings_of_reference (reference : IsReference s body) : openings s.toList ≠ 0 := by
  unfold IsReference at reference
  generalize s.toList = text at reference
  unfold varAt at reference
  split at reference
  · rw [openings]
    exact Nat.succ_ne_zero _
  · cases reference

theorem IsReference.unique {body' : String} (one : IsReference s body)
    (two : IsReference s body') : body = body' := by
  cases one.symm.trans two
  rfl

end References

/-! ### One string -/

section Leaf

variable {parse : String → Option Json} {ctx : RunContext} {s body : String} {value out : Json}
  {filter : Filter}

theorem leafReplaced_reference (reference : IsReference s body)
    (refers : Refers ctx body value filter) : LeafReplaced ctx s out ↔ out = value := by
  constructor
  · exact fun replaced => replaced.1 body value filter reference refers
  · rintro rfl
    refine ⟨fun body' value' filter' reference' refers' => ?_, fun none => ?_⟩
    · rw [reference.unique reference'] at refers
      exact (refers.unique refers').1
    · exact absurd reference (none body)

theorem leafReadsBack_reference (reference : IsReference s body)
    (refers : Refers ctx body value filter) : LeafReadsBack parse ctx s ↔
      if wholeValueRef s.toList then ReadsBack parse value filter
      else value = .string (stringify value filter) := by
  constructor
  · exact fun reads => reads.1 body value filter reference refers
  · intro reads
    refine ⟨fun body' value' filter' reference' refers' => ?_, fun none => ?_⟩
    · rw [← reference.unique reference'] at refers'
      obtain ⟨rfl, rfl⟩ := refers.unique refers'
      exact reads
    · exact absurd reference (none body)

theorem getD_eq_iff : (parse (stringify value filter)).getD (.string (stringify value filter)) =
    value ↔ ReadsBack parse value filter := by
  unfold ReadsBack
  cases parse (stringify value filter) with
  | none => simp [eq_comm]
  | some other => simp

theorem refers_of_rendered {rendered : List Char} (reference : IsReference s body)
    (renders : renderText ctx 0 s.toList = .ok rendered) :
    ∃ value filter, Refers ctx body value filter ∧
      String.ofList rendered = stringify value filter := by
  rw [renderText_reference reference] at renders
  obtain ⟨text, found, rfl⟩ := map_eq_ok_iff.mp renders
  obtain ⟨value, filter, refers, rfl⟩ := renderRef_ok_iff.mp found
  exact ⟨value, filter, refers, String.ofList_toList⟩

/-- **What becomes of one string**: its rendered text, read back where the code takes the string for
a reference; or the string itself, where nothing in it opens a reference. -/
theorem renderLeaf_cases (renders : renderLeaf parse ctx s = .ok out) :
    (∃ text, renderText ctx 0 s.toList = .ok text ∧ out = if wholeValueRef s.toList then
        (parse (String.ofList text)).getD (.string (String.ofList text))
      else .string (String.ofList text)) ∨
    (openings s.toList = 0 ∧ wholeValueRef s.toList = false ∧ out = .string s) := by
  unfold renderLeaf at renders
  by_cases whole : wholeValueRef s.toList = true
  · rw [if_pos whole] at renders
    cases rendered : renderText ctx 0 s.toList with
    | error error =>
      rw [rendered] at renders
      cases renders
    | ok text =>
      rw [rendered] at renders
      exact .inl ⟨text, rfl, by rw [if_pos whole]; exact (Except.ok.inj renders).symm⟩
  · rw [if_neg whole] at renders
    by_cases opens : openings s.toList ≠ 0
    · rw [if_pos opens] at renders
      cases rendered : renderText ctx 0 s.toList with
      | error error =>
        rw [rendered] at renders
        cases renders
      | ok text =>
        rw [rendered] at renders
        exact .inl ⟨text, rfl, by rw [if_neg whole]; exact (Except.ok.inj renders).symm⟩
    · rw [if_neg opens] at renders
      exact .inr ⟨not_not.mp opens, Bool.eq_false_iff.mpr whole, (Except.ok.inj renders).symm⟩

theorem leafReplaced_plain (plain : ∀ body, ¬ IsReference s body) :
    LeafReplaced ctx s out ↔ ∃ text, out = .string text :=
  ⟨fun replaced => replaced.2 plain,
    fun string => ⟨fun body _ _ reference => absurd reference (plain body), fun _ => string⟩⟩

theorem leafReadsBack_plain (plain : ∀ body, ¬ IsReference s body) :
    LeafReadsBack parse ctx s ↔ (wholeValueRef s.toList = true →
      ∀ text value, renderText ctx 0 s.toList = .ok text →
        parse (String.ofList text) = some value → ∃ own, value = .string own) :=
  ⟨fun reads => reads.2 plain,
    fun reads => ⟨fun body _ _ reference => absurd reference (plain body), fun _ => reads⟩⟩

/-- **One string**: the promise is kept exactly when the string reads back. -/
theorem leafReplaced_iff (renders : renderLeaf parse ctx s = .ok out) :
    LeafReplaced ctx s out ↔ LeafReadsBack parse ctx s := by
  by_cases referring : ∃ body, IsReference s body
  · obtain ⟨body, reference⟩ := referring
    obtain ⟨text, rendered, rfl⟩ | ⟨closed, -, -⟩ := renderLeaf_cases renders
    · obtain ⟨value, filter, refers, same⟩ := refers_of_rendered reference rendered
      rw [leafReplaced_reference reference refers, leafReadsBack_reference reference refers, same]
      by_cases whole : wholeValueRef s.toList = true
      · rw [if_pos whole, if_pos whole]
        exact getD_eq_iff
      · rw [if_neg whole, if_neg whole]
        exact eq_comm
    · exact absurd closed (openings_of_reference reference)
  · rw [leafReplaced_plain (not_exists.mp referring), leafReadsBack_plain (not_exists.mp referring)]
    obtain ⟨text, rendered, rfl⟩ | ⟨-, looks, rfl⟩ := renderLeaf_cases renders
    · by_cases whole : wholeValueRef s.toList = true
      · rw [if_pos whole]
        constructor
        · rintro ⟨own, same⟩ - text' value found read
          cases rendered.symm.trans found
          rw [read, Option.getD_some] at same
          exact ⟨own, same⟩
        · intro reads
          cases read : parse (String.ofList text) with
          | none => exact ⟨_, rfl⟩
          | some value => exact reads whole text value rendered read
      · rw [if_neg whole]
        exact iff_of_true ⟨_, rfl⟩ fun looks => absurd looks whole
    · exact iff_of_true ⟨s, rfl⟩ fun whole => absurd whole (by simp [looks])

end Leaf

/-! ### The tree -/

section Tree

variable {parse : String → Option Json} {ctx : RunContext}

mutual

/-- **The tree**: the promise is kept exactly when every string of it reads back. -/
theorem replaced_iff_leaves : ∀ (args out : Json), renderToolArguments parse ctx args = .ok out →
    (Replaced ctx args out ↔ ∀ s ∈ stringLeaves args, LeafReadsBack parse ctx s)
  | .string s, out, renders => by
    rw [Replaced, stringLeaves, leafReplaced_iff renders]
    simp
  | .array items, out, renders => by
    obtain ⟨outs, rendered, rfl⟩ := map_eq_ok_iff.mp renders
    rw [Replaced, stringLeaves, ← replacedItems_iff_leaves items outs rendered]
    simp
  | .object members, out, renders => by
    obtain ⟨outs, rendered, rfl⟩ := map_eq_ok_iff.mp renders
    rw [Replaced, stringLeaves, ← replacedMembers_iff_leaves members outs rendered]
    simp
  | .null, out, renders => by
    obtain rfl := Except.ok.inj renders
    simp [Replaced, stringLeaves]
  | .bool value, out, renders => by
    obtain rfl := Except.ok.inj renders
    simp [Replaced, stringLeaves]
  | .number value, out, renders => by
    obtain rfl := Except.ok.inj renders
    simp [Replaced, stringLeaves]

theorem replacedItems_iff_leaves : ∀ (items outs : List Json),
    renderItems parse ctx items = .ok outs →
    (ReplacedItems ctx items outs ↔ ∀ s ∈ leavesOfItems items, LeafReadsBack parse ctx s)
  | [], outs, renders => by
    obtain rfl := Except.ok.inj renders
    simp [ReplacedItems, leavesOfItems]
  | item :: rest, outs, renders => by
    rw [renderItems] at renders
    cases here : renderToolArguments parse ctx item with
    | error error =>
      rw [here] at renders
      cases renders
    | ok first =>
      rw [here] at renders
      obtain ⟨later, rendered, rfl⟩ := map_eq_ok_iff.mp renders
      have head := replaced_iff_leaves item first here
      have tail := replacedItems_iff_leaves rest later rendered
      rw [ReplacedItems, leavesOfItems, List.forall_mem_append, ← head, ← tail]
      simp

theorem replacedMembers_iff_leaves : ∀ (members outs : List (String × Json)),
    renderMembers parse ctx members = .ok outs →
    (ReplacedMembers ctx members outs ↔ ∀ s ∈ leavesOfMembers members, LeafReadsBack parse ctx s)
  | [], outs, renders => by
    obtain rfl := Except.ok.inj renders
    simp [ReplacedMembers, leavesOfMembers]
  | (key, value) :: rest, outs, renders => by
    rw [renderMembers] at renders
    cases here : renderToolArguments parse ctx value with
    | error error =>
      rw [here] at renders
      cases renders
    | ok first =>
      rw [here] at renders
      obtain ⟨later, rendered, rfl⟩ := map_eq_ok_iff.mp renders
      have head := replaced_iff_leaves value first here
      have tail := replacedMembers_iff_leaves rest later rendered
      rw [ReplacedMembers, leavesOfMembers, List.forall_mem_append, ← head, ← tail]
      simp

end

end Tree

/-- **The promise of a tool's arguments is kept exactly when every string of them reads back**: the
value of a whole reference from its text, a text from no text of another value. -/
theorem replaced_iff (parse : String → Option Json) (ctx : RunContext) (args : Json) :
    (∀ out, renderToolArguments parse ctx args = .ok out → Replaced ctx args out) ↔
      ((∃ out, renderToolArguments parse ctx args = .ok out) →
        ∀ s ∈ stringLeaves args, LeafReadsBack parse ctx s) := by
  constructor
  · rintro promised ⟨out, renders⟩
    exact (replaced_iff_leaves args out renders).mp (promised out renders)
  · intro reads out renders
    exact (replaced_iff_leaves args out renders).mpr (reads ⟨out, renders⟩)

/-- The value of a text input that spells a number. -/
def numeralContext : RunContext := ⟨[("q", .string "10")], []⟩

/-- `serde_json::from_str` on a numeral. -/
def readNumeral (text : String) : Option Json :=
  (parseUsize text.toList).map fun value => .number (.posInt value)

theorem parseExpr_q : parseExpr "inputs.q" = .ok ⟨"inputs", [.field "q"], .none⟩ := by
  refine parseExpr_ok_iff.mpr ⟨⟨by decide, by decide, ?_⟩, (by decide : '|' ∉ "inputs.q".toList)⟩
  show AccessChain ('.' :: ("q".toList ++ [])) _
  exact .field (by simp [opensAccess]) (by decide) .nil

/-- A reference to the text `10` becomes the number. -/
theorem text_becomes_number :
    renderToolArguments readNumeral numeralContext (.string "\x7b\x7b inputs.q \x7d\x7d") =
        .ok (.number (.posInt 10)) ∧
      ¬ Replaced numeralContext (.string "\x7b\x7b inputs.q \x7d\x7d") (.number (.posInt 10)) := by
  have reference : IsReference "\x7b\x7b inputs.q \x7d\x7d" "inputs.q" := by
    unfold IsReference
    decide
  have resolved : resolveExpr numeralContext ⟨"inputs", [.field "q"], .none⟩ =
      .ok (.string "10") := rfl
  have refers : Refers numeralContext "inputs.q" (.string "10") .none :=
    ⟨_, parseExpr_q, rfl, resolved⟩
  constructor
  · have rendered : renderText numeralContext 0 "\x7b\x7b inputs.q \x7d\x7d".toList =
        .ok "10".toList := by
      rw [renderText_reference reference, renderRef_ok_iff.mpr ⟨_, _, refers, rfl⟩]
      rfl
    rw [renderToolArguments, renderLeaf, if_pos (by decide), rendered]
    rfl
  · intro replaced
    have same := (leafReplaced_reference reference refers).mp replaced
    cases same

end Ziee.Workflow.Arguments
