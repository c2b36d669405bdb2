/-
**Changing marked elements where they lie.**

Rows hold elements, and some elements are marked. A pass first collects the places of the marked
elements, in order; then it changes the first few of them by one function and the others by
another, each at its own place.

* `flatMap_walkRows` — read row after row, that is one walk along a list;
* `sum_walk`, `filter_walk`, `walk_eq_self_iff` — what the walk does to a measure and to the marked
  elements, and when it does nothing.
-/

import Mathlib.Data.List.Basic
import Mathlib.Algebra.Ring.Nat

namespace Ziee.Library.MarkedPlaces

variable {α ρ : Type}

section Walk

variable (marked : α → Bool) (early late : α → α)

/-- The first `count` marked elements are changed by `early`, the other marked ones by `late`. -/
def walk (count : Nat) : List α → List α
  | [] => []
  | element :: rest =>
    if marked element then
      (if 0 < count then early element else late element) :: walk (count - 1) rest
    else
      element :: walk count rest

variable {marked early late} {count : Nat} {element : α} {rest : List α}

theorem walk_marked (mark : marked element = true) :
    walk marked early late count (element :: rest) =
      (if 0 < count then early element else late element) ::
        walk marked early late (count - 1) rest := by
  rw [walk, if_pos mark]

theorem walk_unmarked (mark : marked element = false) :
    walk marked early late count (element :: rest) =
      element :: walk marked early late count rest := by
  rw [walk, if_neg (by simp [mark])]

variable (marked early late)

@[simp] theorem length_walk (count : Nat) (row : List α) :
    (walk marked early late count row).length = row.length := by
  induction row generalizing count with
  | nil => rfl
  | cons element rest ih =>
    cases mark : marked element with
    | true => rw [walk_marked mark, List.length_cons, List.length_cons, ih]
    | false => rw [walk_unmarked mark, List.length_cons, List.length_cons, ih]

theorem walk_append (count : Nat) (row later : List α) :
    walk marked early late count (row ++ later) = walk marked early late count row ++
        walk marked early late (count - row.countP marked) later := by
  induction row generalizing count with
  | nil => rfl
  | cons element rest ih =>
    rw [List.cons_append]
    cases mark : marked element with
    | true =>
      rw [walk_marked mark, walk_marked mark, List.countP_cons_of_pos mark, ih, List.cons_append,
        Nat.sub_sub, Nat.add_comm 1]
    | false =>
      rw [walk_unmarked mark, walk_unmarked mark, ih, List.cons_append,
        List.countP_cons_of_neg (by simp [mark])]

/-- **The element at a position afterwards**, by the marked elements before it. -/
theorem walk_getElem? (count : Nat) (row : List α) (position : Nat) :
    (walk marked early late count row)[position]? = row[position]?.map fun element =>
        if marked element then
          if (row.take position).countP marked < count then early element else late element
        else element := by
  induction row generalizing count position with
  | nil => simp [walk]
  | cons element rest ih =>
    cases position with
    | zero =>
      cases mark : marked element with
      | true =>
        rw [walk_marked mark]
        simp only [List.getElem?_cons_zero, Option.map_some, mark, if_true, List.take_zero,
          List.countP_nil]
        rfl
      | false => simp [walk_unmarked mark, mark]
    | succ position =>
      cases mark : marked element with
      | true =>
        have shift : ∀ seen, seen < count - 1 ↔ seen + 1 < count := by omega
        simp [walk_marked mark, mark, ih, shift]
      | false => simp [walk_unmarked mark, mark, ih]

/-- **A measure afterwards**: the unmarked elements count as before. -/
theorem sum_walk (measure : α → Nat) (count : Nat) (row : List α) :
    ((walk marked early late count row).map measure).sum =
      ((row.filter fun element => !marked element).map measure).sum +
        ((((row.filter marked).take count).map fun element => measure (early element)).sum +
          (((row.filter marked).drop count).map fun element => measure (late element)).sum) := by
  induction row generalizing count with
  | nil => simp [walk]
  | cons element rest ih =>
    cases mark : marked element with
    | true =>
      rw [walk_marked mark, List.filter_cons_of_neg (by simp [mark]), List.filter_cons_of_pos mark,
        List.map_cons, List.sum_cons, ih]
      cases count with
      | zero | succ => simp; omega
    | false =>
      rw [walk_unmarked mark, List.filter_cons_of_pos (by simp [mark]),
        List.filter_cons_of_neg (by simp [mark]), List.map_cons, List.sum_cons, ih,
        List.map_cons, List.sum_cons, Nat.add_assoc]

theorem filter_walk (early_marked : ∀ element, marked (early element) = marked element)
    (late_marked : ∀ element, marked (late element) = marked element) (count : Nat) (row : List α) :
    (walk marked early late count row).filter marked =
      ((row.filter marked).take count).map early ++ ((row.filter marked).drop count).map late := by
  induction row generalizing count with
  | nil => simp [walk]
  | cons element rest ih =>
    cases mark : marked element with
    | true =>
      rw [walk_marked mark, List.filter_cons_of_pos mark]
      cases count with
      | zero => simp [late_marked, mark, ih]
      | succ count => simp [early_marked, mark, ih]
    | false =>
      rw [walk_unmarked mark, List.filter_cons_of_neg (by simp [mark]),
        List.filter_cons_of_neg (by simp [mark]), ih]

theorem walk_eq_self_iff (count : Nat) (row : List α) : walk marked early late count row = row ↔
      (∀ element ∈ (row.filter marked).take count, early element = element) ∧
        ∀ element ∈ (row.filter marked).drop count, late element = element := by
  induction row generalizing count with
  | nil => simp [walk]
  | cons element rest ih =>
    cases mark : marked element with
    | true =>
      rw [walk_marked mark, List.filter_cons_of_pos mark, List.cons.injEq, ih]
      cases count with
      | zero => simp
      | succ count => simp [and_assoc]
    | false =>
      rw [walk_unmarked mark, List.filter_cons_of_neg (by simp [mark]), List.cons.injEq, ih]
      simp

/-- **A measure**, the unmarked elements and the marked ones apart. -/
theorem sum_marked (measure : α → Nat) (count : Nat) (row : List α) : (row.map measure).sum =
      ((row.filter fun element => !marked element).map measure).sum +
        ((((row.filter marked).take count).map measure).sum +
          (((row.filter marked).drop count).map measure).sum) := by
  have still : walk marked id id count row = row :=
    (walk_eq_self_iff marked id id count row).mpr ⟨fun _ _ => rfl, fun _ _ => rfl⟩
  have walked := sum_walk marked id id measure count row
  rwa [still] at walked

end Walk

/-! ### Places -/

structure Holding (ρ α : Type) where
  contents : ρ → List α
  refill : ρ → List α → ρ
  contents_refill : ∀ row elements, contents (refill row elements) = elements
  refill_contents : ∀ row, refill row (contents row) = row
  refill_refill : ∀ row elements others, refill (refill row elements) others = refill row others

def positions (marked : α → Bool) (row : List α) : List Nat :=
  row.zipIdx.filterMap fun (element, position) => if marked element then some position else none

section Rows

variable (holding : Holding ρ α) (marked : α → Bool) (early late : α → α)

def places (rows : List ρ) : List (Nat × Nat) :=
  rows.zipIdx.flatMap fun (row, index) =>
    (positions marked (holding.contents row)).map fun position => (index, position)

/-- The element at a place is changed. -/
def changeAt (change : α → α) (rows : List ρ) (place : Nat × Nat) : List ρ :=
  rows.modify place.1 fun row =>
    holding.refill row ((holding.contents row).modify place.2 change)

def walkRows (count : Nat) : List ρ → List ρ
  | [] => []
  | row :: rest =>
    holding.refill row (walk marked early late count (holding.contents row)) ::
      walkRows (count - (holding.contents row).countP marked) rest

variable {marked}

theorem positions_cons (element : α) (rest : List α) : positions marked (element :: rest) =
      (if marked element then [0] else []) ++ (positions marked rest).map (· + 1) := by
  unfold positions
  rw [List.zipIdx_cons, List.zipIdx_succ, List.filterMap_cons, List.filterMap_map]
  cases mark : marked element with
  | true | false => simp [mark, List.map_filterMap, apply_ite]

@[simp] theorem length_positions (row : List α) :
    (positions marked row).length = row.countP marked := by
  induction row with
  | nil => rfl
  | cons element rest ih =>
    rw [positions_cons, List.length_append, List.length_map, ih, List.countP_cons, Nat.add_comm]
    cases marked element <;> rfl

variable {holding}

theorem places_cons (row : ρ) (rest : List ρ) : places holding marked (row :: rest) =
      (positions marked (holding.contents row)).map (fun position => (0, position)) ++
        (places holding marked rest).map fun place => (place.1 + 1, place.2) := by
  unfold places
  rw [List.zipIdx_cons, List.zipIdx_succ, List.flatMap_cons, List.flatMap_map, List.map_flatMap]
  simp [Function.comp_def]

theorem foldl_modify_succ (change : α → α) (element : α) (rest : List α) (later : List Nat) :
    (later.map (· + 1)).foldl (fun row position => row.modify position change) (element :: rest) =
      element :: later.foldl (fun row position => row.modify position change) rest := by
  induction later generalizing rest with
  | nil => rfl
  | cons position later ih =>
    rw [List.map_cons, List.foldl_cons, List.modify_succ_cons, ih, List.foldl_cons]

theorem foldl_changeAt_later (change : α → α) (row : ρ) (rest : List ρ) (later : List (Nat × Nat)) :
    (later.map fun place => (place.1 + 1, place.2)).foldl (changeAt holding change) (row :: rest) =
      row :: later.foldl (changeAt holding change) rest := by
  induction later generalizing rest with
  | nil => rfl
  | cons place later ih =>
    rw [List.map_cons, List.foldl_cons, changeAt, List.modify_succ_cons, ih, List.foldl_cons]
    rfl

theorem foldl_changeAt_first (change : α → α) (row : ρ) (rest : List ρ) (within : List Nat) :
    (within.map fun position => (0, position)).foldl (changeAt holding change) (row :: rest) =
      holding.refill row (within.foldl (fun elements position =>
        elements.modify position change) (holding.contents row)) :: rest := by
  induction within generalizing row with
  | nil => rw [List.map_nil, List.foldl_nil, List.foldl_nil, holding.refill_contents]
  | cons position within ih =>
    rw [List.map_cons, List.foldl_cons, changeAt, List.modify_zero_cons, ih,
      holding.contents_refill, holding.refill_refill, List.foldl_cons]

theorem foldl_modify_positions (count : Nat) (row : List α) :
    ((positions marked row).drop count).foldl (fun row position => row.modify position late)
        (((positions marked row).take count).foldl
          (fun row position => row.modify position early) row) =
      walk marked early late count row := by
  induction row generalizing count with
  | nil => simp [positions, walk]
  | cons element rest ih =>
    rw [positions_cons]
    cases mark : marked element with
    | true =>
      rw [walk_marked mark, ← ih]
      cases count with
      | zero =>
        simp only [if_true, List.singleton_append, List.drop_zero, List.take_zero,
          List.foldl_nil, List.foldl_cons, List.modify_zero_cons, foldl_modify_succ]
        rfl
      | succ count =>
        simp only [if_true, List.singleton_append, List.drop_succ_cons, List.take_succ_cons,
          List.foldl_cons, List.modify_zero_cons, ← List.map_take, ← List.map_drop,
          foldl_modify_succ, Nat.add_sub_cancel, Nat.zero_lt_succ]
    | false =>
      rw [walk_unmarked mark, ← ih]
      simp only [Bool.false_eq_true, if_false, List.nil_append, ← List.map_take,
        ← List.map_drop, foldl_modify_succ]

/-- **The pass over the places is one walk along the rows.** -/
theorem changeAt_places (count : Nat) (rows : List ρ) :
    ((places holding marked rows).drop count).foldl (changeAt holding late)
        (((places holding marked rows).take count).foldl (changeAt holding early) rows) =
      walkRows holding marked early late count rows := by
  induction rows generalizing count with
  | nil => simp [places, walkRows]
  | cons row rest ih =>
    rw [places_cons, List.take_append, List.drop_append, List.foldl_append, List.foldl_append,
      ← List.map_take, ← List.map_take, ← List.map_drop, ← List.map_drop,
      foldl_changeAt_first, foldl_changeAt_later, foldl_changeAt_first, foldl_changeAt_later,
      holding.contents_refill, holding.refill_refill, foldl_modify_positions, List.length_map,
      length_positions, ih, walkRows]

@[simp] theorem length_places (rows : List ρ) :
    (places holding marked rows).length = (rows.flatMap holding.contents).countP marked := by
  induction rows with
  | nil => rfl
  | cons row rest ih =>
    rw [places_cons, List.length_append, List.length_map, List.length_map, length_positions, ih,
      List.flatMap_cons, List.countP_append]

theorem flatMap_walkRows (count : Nat) (rows : List ρ) :
    (walkRows holding marked early late count rows).flatMap holding.contents =
      walk marked early late count (rows.flatMap holding.contents) := by
  induction rows generalizing count with
  | nil => rfl
  | cons row rest ih =>
    rw [walkRows, List.flatMap_cons, List.flatMap_cons, holding.contents_refill, ih, walk_append]

theorem walkRows_eq_self_iff (count : Nat) (rows : List ρ) :
    walkRows holding marked early late count rows = rows ↔
      walk marked early late count (rows.flatMap holding.contents) =
        rows.flatMap holding.contents := by
  constructor
  · intro same
    rw [← flatMap_walkRows, same]
  · induction rows generalizing count with
    | nil => exact fun _ => rfl
    | cons row rest ih =>
      intro same
      rw [List.flatMap_cons, walk_append] at same
      obtain ⟨first, later⟩ := List.append_inj same (length_walk ..)
      rw [walkRows, first, holding.refill_contents, ih _ later]

/-! ### One place -/

def elementAt (holding : Holding ρ α) (rows : List ρ) (place : Nat × Nat) : Option α :=
  rows[place.1]?.bind fun row => (holding.contents row)[place.2]?

def marksBefore (holding : Holding ρ α) (marked : α → Bool) (rows : List ρ)
    (place : Nat × Nat) : Nat :=
  ((rows.take place.1).flatMap holding.contents).countP marked +
    ((rows[place.1]?.elim [] holding.contents).take place.2).countP marked

def marksAfter (holding : Holding ρ α) (marked : α → Bool) (rows : List ρ)
    (place : Nat × Nat) : Nat :=
  ((rows[place.1]?.elim [] holding.contents).drop (place.2 + 1)).countP marked +
    ((rows.drop (place.1 + 1)).flatMap holding.contents).countP marked

/-- **The element at a place afterwards**, by the marked elements before it. -/
theorem walkRows_at (count : Nat) (rows : List ρ) (place : Nat × Nat) :
    elementAt holding (walkRows holding marked early late count rows) place =
      (elementAt holding rows place).map fun element =>
        if marked element then
          if marksBefore holding marked rows place < count then early element else late element
        else element := by
  obtain ⟨index, position⟩ := place
  induction rows generalizing count index with
  | nil => rfl
  | cons row rest ih =>
    cases index with
    | zero =>
      rw [walkRows]
      simp [elementAt, marksBefore, holding.contents_refill, walk_getElem?]
    | succ index =>
      have step : elementAt holding (walkRows holding marked early late count (row :: rest))
            (index + 1, position) =
          elementAt holding (walkRows holding marked early late
            (count - (holding.contents row).countP marked) rest) (index, position) := rfl
      have before : marksBefore holding marked (row :: rest) (index + 1, position) =
          (holding.contents row).countP marked +
            marksBefore holding marked rest (index, position) := by
        simp [marksBefore, Nat.add_assoc]
      rw [step, ih, before]
      congr 1
      funext element
      simp only [Nat.lt_sub_iff_add_lt']

theorem marks_at {rows : List ρ} {place : Nat × Nat} {element : α}
    (holds : elementAt holding rows place = some element) (mark : marked element = true) :
    marksBefore holding marked rows place + 1 + marksAfter holding marked rows place =
      (rows.flatMap holding.contents).countP marked := by
  obtain ⟨index, position⟩ := place
  obtain ⟨row, row_at, element_at⟩ := Option.bind_eq_some_iff.mp holds
  obtain ⟨index_lt, row_eq⟩ := List.getElem?_eq_some_iff.mp row_at
  obtain ⟨position_lt, element_eq⟩ := List.getElem?_eq_some_iff.mp element_at
  have rows_eq : rows = rows.take index ++ row :: rows.drop (index + 1) := by
    rw [← row_eq, ← List.drop_eq_getElem_cons index_lt, List.take_append_drop]
  have contents_eq : holding.contents row = (holding.contents row).take position ++ element ::
        (holding.contents row).drop (position + 1) := by
    rw [← element_eq, ← List.drop_eq_getElem_cons position_lt, List.take_append_drop]
  have total : (rows.flatMap holding.contents).countP marked =
      ((rows.take index).flatMap holding.contents).countP marked +
        ((holding.contents row).countP marked +
          ((rows.drop (index + 1)).flatMap holding.contents).countP marked) := by
    conv_lhs => rw [rows_eq]
    rw [List.flatMap_append, List.flatMap_cons, List.countP_append, List.countP_append]
  have within : (holding.contents row).countP marked =
      ((holding.contents row).take position).countP marked + 1 +
        ((holding.contents row).drop (position + 1)).countP marked := by
    conv_lhs => rw [contents_eq]
    rw [List.countP_append, List.countP_cons_of_pos mark]
    omega
  have found : rows[(index, position).1]? = some row := row_at
  rw [marksBefore, marksAfter, found, Option.elim_some, total, within]
  dsimp only
  omega

end Rows

end Ziee.Library.MarkedPlaces
