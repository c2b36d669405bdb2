/-
**Schemas that mean the same**: a schema of the OpenAPI document, and what the walk or the rewriting
makes of it.

* `Unfolds` — one schema made of another: a reference is to a definition instead, or is replaced by
  what its component has been made to, with what stands beside it.
* **`Simulates.evaluates`** — related schemas have the same verdicts.
-/

import Ziee.Control.SchemaMeaning

namespace Ziee.Control

open Ziee.Providers (Json)
open Ziee.Library

/-- A schema gives a keyword a value, itself or by what it refers to. -/
inductive Sets (components : Json) (key : String) (value : Json) : Json → Prop
  | own {members : Members} (found : members.lookup key = some value) :
    Sets components key value (.object members)
  | target {members : Members} {name : String} {body : Json}
    (reference : componentRefName members = some name)
    (defined : component components name = some body)
    (sets : Sets components key value body) : Sets components key value (.object members)

/-- What a schema refers to is no object. -/
inductive Bare (components : Json) : Json → Prop
  | literal {node : Json} (literal : ∀ members, node ≠ .object members) : Bare components node
  | target {members : Members} {name : String} {body : Json}
    (reference : componentRefName members = some name)
    (defined : component components name = some body)
    (bare : Bare components body) : Bare components (.object members)

/-! ### One schema made of another -/

section Unfolds

variable (setting : Setting) (components : Json) (known owned : String → Prop)
  (related : Json → Json → Prop)

def Asked (first second : Question) : Prop := related first.1 second.1 ∧ first.2 = second.2

/-- **Members that demand the same**, of related schemas. -/
structure Beside (members others : Members) : Prop where
  reference : pointer others = pointer members
  same : ∀ clause : Clause, (others.lookup clause.key).isSome = (members.lookup clause.key).isSome
  literal : ∀ clause : Clause, keywordOf clause.key = .literal →
    others.lookup clause.key = members.lookup clause.key
  matched : ∀ clause value,
    (clauseConjunct setting clause (members.lookup clause.key) value).Matches (Asked related)
      (clauseConjunct setting clause (others.lookup clause.key) value)

/-- **A schema, and what is made of it.** -/
inductive Unfolds : Json → Json → Prop
  | literal {node other : Json} (first : ∀ members, node ≠ .object members)
    (second : ∀ members, other ≠ .object members)
    (same : literalVerdict other = literalVerdict node) : Unfolds node other
  | plain {members others : Members} (reference : componentRefName members = none)
    (owns : ∀ text, pointer members = some text → owned text)
    (beside : Beside setting related members others) : Unfolds (.object members) (.object others)
  | deferred {members others : Members} {name : String}
    (reference : componentRefName members = some name)
    (defined : known name) (beside : Beside setting related members others) :
    Unfolds (.object members) (defsRef name (siblings others))
  | missing {members : Members} {name : String} (reference : componentRefName members = some name)
    (unknown : component components name = none)
    (nothing : ∀ clause : Clause, members.lookup clause.key = none) :
    Unfolds (.object members) (unresolved name)
  | expanded {members others : Members} {name : String} {target inner : Json}
    (reference : componentRefName members = some name)
    (found : component components name = some target)
    (unfolds : Unfolds target inner) (beside : Beside setting related members others)
    (apart : ∀ (clause : Clause) given value, members.lookup clause.key = some given →
      Sets components clause.key value target → keywordOf clause.key = .literal ∧ value = given)
    (object : (∃ clause : Clause, (others.lookup clause.key).isSome) →
      ∃ members, inner = .object members) :
    Unfolds (.object members) (mergeSiblings inner (siblings others))

end Unfolds

section Meaning

variable {setting : Setting} {schema components node other value : Json}
    {known owned : String → Prop}
  {related : Json → Json → Prop} {members others target : Members} {resolve : String → Option Json}
  {verdict : Bool} {settled further : Question → Bool → Prop} {name text : String} {clause : Clause}

/-! ### Keywords -/

theorem Clause.key_ne_ref (clause : Clause) : clause.key ≠ "$ref" := by
  cases clause <;> decide

theorem Beside.lookup (beside : Beside setting related members others) {made : Json}
    (found : others.lookup clause.key = some made) :
    ∃ given, members.lookup clause.key = some given ∧
      (keywordOf clause.key = .literal → made = given) := by
  have has := beside.same clause
  rw [found, Option.isSome_some] at has
  obtain ⟨given, here⟩ := Option.isSome_iff_exists.mp has.symm
  refine ⟨given, here, fun literal => ?_⟩
  have same := beside.literal clause literal
  rw [found, here] at same
  exact Option.some.inj same

/-- **A keyword of what was made** is one of the schema, or of what it refers to. -/
theorem Unfolds.sets {made : Json}
    (unfolds : Unfolds setting components known owned related node (.object others))
    (found : others.lookup clause.key = some made) :
    ∃ value, Sets components clause.key value node ∧
      (keywordOf clause.key = .literal → made = value) := by
  generalize whole : Json.object others = inner at unfolds
  induction unfolds generalizing others with
  | literal _ second => exact absurd whole.symm (second others)
  | plain _ _ beside =>
    cases whole
    obtain ⟨given, here, same⟩ := beside.lookup found
    exact ⟨given, .own here, same⟩
  | deferred _ _ beside =>
    cases whole
    rw [List.lookup_cons, beq_eq_false_iff_ne.mpr clause.key_ne_ref] at found
    dsimp only at found
    rw [lookup_siblings clause.key_ne_ref] at found
    obtain ⟨given, here, same⟩ := beside.lookup found
    exact ⟨given, .own here, same⟩
  | missing _ _ _ =>
    cases whole
    cases clause <;> cases found
  | @expanded members beside name target inner reference defined unfolds matched apart object ih =>
    cases inner with
    | object entries =>
      cases whole
      rw [lookup_append] at found
      cases given : entries.lookup clause.key with
      | some value =>
        rw [given] at found
        cases found
        obtain ⟨value, sets, same⟩ := ih given rfl
        exact ⟨value, .target reference defined sets, same⟩
      | none =>
        rw [given, Option.none_or, lookup_filter_none given,
          lookup_siblings clause.key_ne_ref] at found
        obtain ⟨given, here, same⟩ := matched.lookup found
        exact ⟨given, .own here, same⟩
    | array | null | bool | number | string => cases whole

theorem literal_fixed (literal : keywordOf clause.key = .literal) (given value : Json) :
    ∃ allowed, clauseConjunct setting clause (some given) value = .fixed allowed := by
  cases clause with
  | type | enum | required => exact ⟨_, rfl⟩
  | properties | items | allOf | anyOf | oneOf => exact absurd literal (by decide)

theorem settles_absent {given : Option Json} {found : Bool} (absent : given = none)
    (settles : (clauseConjunct setting clause given value).Settles settled found) :
      found = true := by
  rw [absent] at settles
  exact (Conjunct.settles_fixed.mp settles).symm

theorem absent_settles {given : Option Json} (absent : given = none) :
    (clauseConjunct setting clause given value).Settles settled true := by
  rw [absent]
  exact Conjunct.settles_fixed.mpr rfl

/-! ### Merged members -/

def merged (target others : Members) : Members :=
  target ++ (siblings others).filter fun member => (target.lookup member.1).isNone

theorem lookup_merged (key : String) (other : key ≠ "$ref") :
    (merged target others).lookup key = (target.lookup key).or (others.lookup key) := by
  rw [merged, lookup_append]
  cases given : target.lookup key with
  | some value => rfl
  | none => rw [Option.none_or, Option.none_or, lookup_filter_none given, lookup_siblings other]

theorem pointer_merged : pointer (merged target others) = pointer target := by
  refine pointer_append ?_
  rw [List.lookup_eq_none_iff]
  intro member inside
  exact List.lookup_eq_none_iff.mp lookup_siblings_ref member (List.mem_filter.mp inside).1

theorem all_and (first second : Clause → Bool) :
    clauses.all (fun clause => first clause && second clause) =
      (clauses.all first && clauses.all second) := by
  generalize clauses = list
  induction list with
  | nil => rfl
  | cons clause list ih =>
    rw [List.all_cons, List.all_cons, List.all_cons, ih]
    cases first clause <;> cases second clause <;> simp

/-- What two objects both set is a literal, and the same. -/
def Shared (target others : Members) : Prop :=
  ∀ (clause : Clause) given made, others.lookup clause.key = some given →
    target.lookup clause.key = some made → keywordOf clause.key = .literal ∧ made = given

/-- **A merged schema demands what both demand**, if they share only literals. -/
theorem agree_merged {reference : Bool} {found : Clause → Bool} (shared : Shared target others) :
    Members.Agree setting resolve settled (merged target others) value reference found ↔
      ∃ first second : Clause → Bool, Members.Agree setting resolve settled target value reference
        first ∧
        (∀ clause, (clauseConjunct setting clause (others.lookup clause.key) value).Settles settled
          (second clause)) ∧
        ∀ clause, found clause = (first clause && second clause) := by
  constructor
  · rintro ⟨here, each⟩
    rw [pointer_merged] at here
    refine ⟨fun clause => if (target.lookup clause.key).isSome then found clause else true,
      fun clause => if (others.lookup clause.key).isSome then found clause else true,
        ⟨here, fun clause => ?_⟩,
      fun clause => ?_, fun clause => ?_⟩
    all_goals
      have settles := each clause
      rw [lookup_merged _ clause.key_ne_ref] at settles
      dsimp only
    · cases has : target.lookup clause.key with
      | some made =>
        rw [has] at settles
        exact settles
      | none => exact absent_settles rfl
    · cases given : others.lookup clause.key with
      | none => exact absent_settles rfl
      | some value =>
        cases has : target.lookup clause.key with
        | some made =>
          rw [has] at settles
          rw [← (shared clause value made given has).2]
          exact settles
        | none =>
          rw [has, given] at settles
          exact settles
    · cases has : target.lookup clause.key with
      | some made => cases (others.lookup clause.key).isSome <;> simp
      | none =>
        cases given : others.lookup clause.key with
        | some value => simp
        | none =>
          rw [has, given] at settles
          simp [settles_absent rfl settles]
  · rintro ⟨first, second, ⟨here, own⟩, beside, same⟩
    refine ⟨by rw [pointer_merged]; exact here, fun clause => ?_⟩
    rw [lookup_merged _ clause.key_ne_ref, same clause]
    have mine := own clause
    have theirs := beside clause
    cases has : target.lookup clause.key with
    | none =>
      rw [settles_absent has mine, Bool.true_and]
      exact theirs
    | some made =>
      rw [has] at mine
      cases given : others.lookup clause.key with
      | none =>
        rw [settles_absent given theirs, Bool.and_true]
        exact mine
      | some source =>
        obtain ⟨literal, rfl⟩ := shared clause source made given has
        obtain ⟨allowed, fixed⟩ := literal_fixed literal made value
        rw [given, fixed] at theirs
        rw [fixed] at mine
        rw [← Conjunct.settles_fixed.mp mine, ← Conjunct.settles_fixed.mp theirs, Bool.and_self]
        show (clauseConjunct setting clause (some made) value).Settles settled allowed
        rw [fixed]
        exact Conjunct.settles_fixed.mpr rfl

theorem mergeSiblings_literal {inner : Json} {beside : Members}
    (literal : ∀ entries, inner ≠ .object entries) : mergeSiblings inner beside = inner := by
  cases inner with
  | object entries => exact absurd rfl (literal entries)
  | array | null | bool | number | string => rfl

/-- **What stands beside a reference is demanded as well**, of whatever the reference was replaced
by. -/
theorem agreed_merge {inner : Json}
    (shared : ∀ entries, inner = .object entries → Shared entries others)
    (object : (∃ clause : Clause, (others.lookup clause.key).isSome) →
      ∃ entries, inner = .object entries) :
    Agreed conjuncts settled (fun key => schemaConjunct setting resolve key
        (mergeSiblings inner (siblings others), value)) verdict ↔
      ∃ (first : Bool) (second : Clause → Bool),
        Agreed conjuncts settled (fun key => schemaConjunct setting resolve key (inner, value))
          first ∧
        (∀ clause, (clauseConjunct setting clause (others.lookup clause.key) value).Settles settled
          (second clause)) ∧ (first && clauses.all second) = verdict := by
  by_cases whole : ∃ entries, inner = .object entries
  · obtain ⟨entries, rfl⟩ := whole
    have both := shared entries rfl
    show Agreed conjuncts settled (fun key => schemaConjunct setting resolve key
      (.object (merged entries others), value)) verdict ↔ _
    rw [agreed_object]
    constructor
    · rintro ⟨reference, found, agree, same⟩
      obtain ⟨first, second, own, beside, split⟩ := (agree_merged both).mp agree
      refine ⟨reference && clauses.all first, second,
        agreed_object.mpr ⟨reference, first, own, rfl⟩, beside, ?_⟩
      rw [← same, funext split, all_and, Bool.and_assoc]
    · rintro ⟨_, second, agreed, beside, same⟩
      obtain ⟨reference, first, own, rfl⟩ := agreed_object.mp agreed
      refine ⟨reference, fun clause => first clause && second clause,
        (agree_merged both).mpr ⟨first, second, own, beside, fun _ => rfl⟩, ?_⟩
      rw [all_and, ← same, Bool.and_assoc]
  · have literal : ∀ entries, inner ≠ .object entries := fun entries same => whole ⟨entries, same⟩
    have absent : ∀ clause : Clause, others.lookup clause.key = none := by
      intro clause
      by_contra present
      exact whole (object ⟨clause, Option.isSome_iff_ne_none.mpr present⟩)
    rw [mergeSiblings_literal literal]
    constructor
    · intro agreed
      refine ⟨verdict, fun _ => true, agreed, fun clause => absent_settles (absent clause), ?_⟩
      cases verdict <;> rfl
    · rintro ⟨first, second, agreed, beside, same⟩
      have true' : second = fun _ => true :=
        funext fun clause => settles_absent (absent clause) (beside clause)
      rw [← same, true']
      cases first
      · exact agreed
      · exact agreed

/-! ### Simulation -/

variable (setting schema components resolve known owned related) in
/-- **Whatever is related is made one of the other**, and so is every definition. -/
structure Simulates : Prop where
  unfolds : ∀ node other, related node other →
    Unfolds setting components known owned related node other
  defined : ∀ name, known name → ∃ target, resolve (defsStart ++ name) = some target ∧
    related (componentOr components name) target
  own : ∀ text, owned text → stripStart componentStart text = none →
    resolve text = none ∧ resolveIn schema text = none ∨
      ∃ node other, resolveIn schema text = some node ∧ resolve text = some other ∧
        related node other

theorem pointer_defsRef (beside : Members) :
    pointer (("$ref", .string (defsStart ++ name)) :: beside) = some (defsStart ++ name) := rfl

/-- **A reference that is kept** demands the same. -/
theorem Simulates.kept (simulates : Simulates setting schema components known owned related resolve)
    (plain : componentRefName members = none)
    (owns : ∀ text, pointer members = some text → owned text)
    (same : pointer others = pointer members) (value : Json) :
    (referenceConjunct setting (resolveSource schema components) (pointer members) value).Matches
      (Asked related) (referenceConjunct setting resolve (pointer others) value) := by
  rw [same]
  cases found : pointer members with
  | none => exact ⟨.nil, rfl⟩
  | some text =>
    have foreign : stripStart componentStart text = none := by
      rw [componentRefName, found] at plain
      exact plain
    unfold referenceConjunct resolveSource
    dsimp only
    rw [foreign]
    dsimp only
    rcases simulates.own text (owns text found) foreign with
      ⟨first, second⟩ | ⟨node, other, first, second, pair⟩
    · rw [first, second]
      exact ⟨.nil, rfl⟩
    · rw [first, second]
      exact ⟨.cons ⟨pair, rfl⟩ .nil, rfl⟩

theorem reference_source (reference : componentRefName members = some name) :
    referenceConjunct setting (resolveSource schema components) (pointer members) value =
      all [(componentOr components name, value)] := by
  rw [pointer_of_name reference]
  unfold referenceConjunct resolveSource
  dsimp only
  rw [stripStart_append]

theorem reference_defined {target : Json} (found : resolve (defsStart ++ name) = some target) :
    referenceConjunct setting resolve (some (defsStart ++ name)) value = all [(target, value)] := by
  unfold referenceConjunct
  dsimp only
  rw [found]

theorem lookup_defsRef (clause : Clause) :
    List.lookup clause.key (("$ref", Json.string (defsStart ++ name)) :: siblings others) =
      others.lookup clause.key := by
  rw [List.lookup_cons, beq_eq_false_iff_ne.mpr clause.key_ne_ref]
  exact lookup_siblings clause.key_ne_ref

theorem agree_unresolved : Members.Agree setting resolve settled
    [("$comment", .string text)] value true fun _ => true := by
  refine ⟨Conjunct.settles_fixed.mpr rfl, fun clause => absent_settles ?_⟩
  cases clause <;> rfl

theorem evaluates_unresolved : Evaluates setting resolve (unresolved name) value verdict ↔
    verdict = true := by
  rw [unresolved, comment, evaluates_object]
  constructor
  · rintro ⟨reference, found, ⟨here, each⟩, same⟩
    have all : found = fun _ => true := funext fun clause =>
      settles_absent (by cases clause <;> rfl) (each clause)
    rw [← same, all, ← Conjunct.settles_fixed.mp here]
    rfl
  · rintro rfl
    exact ⟨true, fun _ => true, agree_unresolved, rfl⟩

/-- **What a component was made to** shares only literals with what stands beside the reference. -/
theorem expanded_shared {target inner : Json}
    (unfolds : Unfolds setting components known owned related target inner)
    (beside : Beside setting related members others)
    (apart : ∀ (clause : Clause) given value, members.lookup clause.key = some given →
      Sets components clause.key value target → keywordOf clause.key = .literal ∧ value = given)
    (entries : Members) (same : inner = .object entries) : Shared entries others := by
  intro clause given made here there
  subst same
  obtain ⟨source, found, kept⟩ := beside.lookup here
  obtain ⟨value, sets, made'⟩ := unfolds.sets there
  obtain ⟨literal, equal⟩ := apart clause source value found sets
  exact ⟨literal, by rw [made' literal, equal, kept literal]⟩

theorem carried (each : ∀ node other, related node other → ∀ value verdict,
      settled (node, value) verdict → further (other, value) verdict)
    (first second : Question) (pair : Asked related first second) (verdict : Bool)
    (here : settled first verdict) : further second verdict := by
  obtain ⟨node, value⟩ := first
  obtain ⟨other, same⟩ := second
  obtain ⟨pair, rfl⟩ := pair
  exact each node other pair value verdict here

/-- **What was made has the verdicts of the schema**, if all that it asks next has. -/
theorem Simulates.forward (simulates : Simulates setting schema components known owned related
    resolve) {depth : Nat} (next : ∀ node other, related node other → ∀ value verdict,
      judge conjuncts (schemaConjunct setting (resolveSource schema components)) depth
        (node, value) = some verdict → Evaluates setting resolve other value verdict)
    (unfolds : Unfolds setting components known owned related node other)
    (found : judge conjuncts (schemaConjunct setting (resolveSource schema components)) (depth + 1)
      (node, value) = some verdict) : Evaluates setting resolve other value verdict := by
  have carry : ∀ first second, Asked related first second → ∀ verdict,
      judge conjuncts (schemaConjunct setting (resolveSource schema components)) depth first =
        some verdict → Evaluates setting resolve second.1 second.2 verdict := carried next
  induction unfolds generalizing verdict with
  | literal first second same =>
    rw [judge_succ, agreed_literal first] at found
    rw [evaluates_literal second, same]
    exact found
  | @plain members others reference owns beside =>
    obtain ⟨verdictRef, each, ⟨here, own⟩, same⟩ := agreed_object.mp (judge_succ.mp found)
    refine evaluates_object.mpr ⟨verdictRef, each, ⟨?_, fun clause => ?_⟩, same⟩
    · exact here.transfer (simulates.kept reference owns beside.reference value) carry
    · exact (own clause).transfer (beside.matched clause value) carry
  | @deferred members others name reference defined beside =>
    obtain ⟨verdictRef, each, ⟨here, own⟩, same⟩ := agreed_object.mp (judge_succ.mp found)
    obtain ⟨target, leads, pair⟩ := simulates.defined name defined
    refine evaluates_object.mpr ⟨verdictRef, each, ⟨?_, fun clause => ?_⟩, same⟩
    · rw [reference_source reference, all, Conjunct.settles_one] at here
      rw [pointer_defsRef, reference_defined leads, all, Conjunct.settles_one]
      exact next _ _ pair value verdictRef here
    · rw [lookup_defsRef]
      exact (own clause).transfer (beside.matched clause value) carry
  | @missing members name reference unknown nothing =>
    obtain ⟨verdictRef, each, ⟨here, own⟩, same⟩ := agreed_object.mp (judge_succ.mp found)
    have true' : each = fun _ => true := funext fun clause =>
      settles_absent (nothing clause) (own clause)
    rw [reference_source reference, all, Conjunct.settles_one, componentOr, unknown,
      Option.getD_none] at here
    have accepted := evaluates_unresolved.mp ⟨depth, here⟩
    rw [evaluates_unresolved, ← same, true', accepted]
    rfl
  | @expanded members others name target inner reference defined unfolds beside apart object ih =>
    obtain ⟨verdictRef, each, ⟨here, own⟩, same⟩ := agreed_object.mp (judge_succ.mp found)
    rw [reference_source reference, all, Conjunct.settles_one, componentOr, defined,
      Option.getD_some] at here
    have followed := ih (judge_mono (Nat.le_succ depth) here)
    have shared := expanded_shared unfolds beside apart
    refine judged_iff.mpr ((agreed_merge shared object).mpr
      ⟨verdictRef, each, judged_iff.mp followed, fun clause => ?_, same⟩)
    exact (own clause).transfer (beside.matched clause value) carry

/-- **The schema has the verdicts of what was made of it**, if all that this asks next has. -/
theorem Simulates.backward (simulates : Simulates setting schema components known owned related
    resolve) {depth : Nat} (next : ∀ node other, related node other → ∀ value verdict,
      judge conjuncts (schemaConjunct setting resolve) depth (other, value) = some verdict →
        Evaluates setting (resolveSource schema components) node value verdict)
    (unfolds : Unfolds setting components known owned related node other)
    (found : judge conjuncts (schemaConjunct setting resolve) (depth + 1)
      (other, value) = some verdict) :
    Evaluates setting (resolveSource schema components) node value verdict := by
  have carry : ∀ first second, Asked (fun other node => related node other) first second →
    ∀ verdict, judge conjuncts (schemaConjunct setting resolve) depth first = some verdict →
        Evaluates setting (resolveSource schema components) second.1 second.2 verdict :=
    carried fun other node => next node other
  have turn : ∀ {conjunct made : Conjunct Question} {verdict : Bool},
      conjunct.Matches (Asked related) made → made.Settles (fun question verdict =>
        judge conjuncts (schemaConjunct setting resolve) depth question = some verdict) verdict →
      conjunct.Settles (fun question verdict =>
        Evaluates setting (resolveSource schema components) question.1 question.2 verdict)
          verdict :=
    fun pair settles => settles.transfer (pair.flip) fun second first pair verdict here =>
      carry second first ⟨pair.1, pair.2.symm⟩ verdict here
  induction unfolds generalizing verdict with
  | literal first second same =>
    rw [judge_succ, agreed_literal second] at found
    rw [evaluates_literal first, ← same]
    exact found
  | @plain members others reference owns beside =>
    obtain ⟨verdictRef, each, ⟨here, own⟩, same⟩ := agreed_object.mp (judge_succ.mp found)
    refine evaluates_object.mpr ⟨verdictRef, each, ⟨?_, fun clause => ?_⟩, same⟩
    · exact turn (simulates.kept reference owns beside.reference value) here
    · exact turn (beside.matched clause value) (own clause)
  | @deferred members others name reference defined beside =>
    obtain ⟨verdictRef, each, ⟨here, own⟩, same⟩ := agreed_object.mp (judge_succ.mp found)
    obtain ⟨target, leads, pair⟩ := simulates.defined name defined
    refine evaluates_object.mpr ⟨verdictRef, each, ⟨?_, fun clause => ?_⟩, same⟩
    · rw [pointer_defsRef, reference_defined leads, all, Conjunct.settles_one] at here
      rw [reference_source reference, all, Conjunct.settles_one]
      exact next _ _ pair value verdictRef here
    · have settles := own clause
      rw [lookup_defsRef] at settles
      exact turn (beside.matched clause value) settles
  | @missing members name reference unknown nothing =>
    have accepted : verdict = true := evaluates_unresolved.mp ⟨depth + 1, found⟩
    refine evaluates_object.mpr ⟨true, fun _ =>
      true, ⟨?_, fun clause => absent_settles (nothing clause)⟩, ?_⟩
    · rw [reference_source reference, all, Conjunct.settles_one, componentOr, unknown,
        Option.getD_none]
      exact evaluates_unresolved.mpr rfl
    · rw [accepted]
      rfl
  | @expanded members others name target inner reference defined unfolds beside apart object ih =>
    have shared := expanded_shared unfolds beside apart
    obtain ⟨first, second, agreed, own, same⟩ :=
      (agreed_merge shared object).mp (judge_succ.mp found)
    have followed := ih (judge_succ.mpr agreed)
    refine evaluates_object.mpr ⟨first, second, ⟨?_, fun clause => ?_⟩, same⟩
    · rw [reference_source reference, all, Conjunct.settles_one, componentOr, defined,
        Option.getD_some]
      exact followed
    · exact turn (beside.matched clause value) (own clause)

/-- **Related schemas have the same verdicts.** -/
theorem Simulates.evaluates (simulates :
    Simulates setting schema components known owned related resolve) (pair : related node other) :
    Evaluates setting (resolveSource schema components) node value verdict ↔
      Evaluates setting resolve other value verdict := by
  constructor
  · rintro ⟨depth, found⟩
    induction depth generalizing node other value verdict with
    | zero => cases found
    | succ depth ih =>
      exact simulates.forward (fun node other pair value verdict found => ih pair found)
        (simulates.unfolds node other pair) found
  · rintro ⟨depth, found⟩
    induction depth generalizing node other value verdict with
    | zero => cases found
    | succ depth ih =>
      exact simulates.backward (fun node other pair value verdict found => ih pair found)
        (simulates.unfolds node other pair) found

end Meaning

end Ziee.Control
