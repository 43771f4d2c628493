import Mathlib
import CellSearch.Proofs.Engine.Origin

/-!
# Rows that a replay visits

A replay evaluates the dirty rows from the first to the last (`DeltaPlan.visits`) and counts them.
The dirty rows of a queue are told by its reports alone: they are the rows that it has put into the
table, and those that a report of changed cells is about
(`DeltaPlan.covers_dirtyRows_of_validate`).
-/

namespace CellSearch

variable {R K : Type} [SearchRow R K]

/-! ## Reports -/

namespace PendingEdit

def isAdd : PendingEdit K → Bool
  | collection (.add _ _) => true
  | _ => false

def isRemove : PendingEdit K → Bool
  | collection (.remove _ _) => true
  | _ => false

def isReplace : PendingEdit K → Bool
  | collection (.replace _ _ _) => true
  | _ => false

/-- The row that a report of changed cells is about, if its key is found in one row only. -/
def located [DecidableEq K] (source : RowSource R) : PendingEdit K → Option Nat
  | itemChanged key =>
    match source.locate key with
    | .unique i => some i
    | _ => none
  | _ => none

omit [SearchRow R K] in
/-- A replacement is made of two edits, any other change of one. -/
theorem length_flatMap_rowEdits (pending : List (PendingEdit K)) :
    (pending.flatMap rowEdits).length =
      pending.countP isAdd + pending.countP isRemove + 2 * pending.countP isReplace := by
  induction pending with
  | nil => rfl
  | cons edit rest ih =>
    rw [List.flatMap_cons, List.length_append, ih]
    cases edit with
    | collection change =>
      cases change <;>
        simp [List.countP_cons, rowEdits, CollectionChange.rowEdits, isAdd, isRemove,
          isReplace] <;> omega
    | itemChanged key => simp [rowEdits, isAdd, isRemove, isReplace]
    | overflow => simp [rowEdits, isAdd, isRemove, isReplace]

end PendingEdit

namespace DeltaPlan

variable {source base : RowSource R} {columns : ColumnSet R} {scope : ScopePlan}
variable {plan : DeltaPlan} {rows rows' : Nat}

section Check

variable [DecidableEq K] {pending : List (PendingEdit K)}

theorem changedRows_of_collect (h : collect source rows pending = .ok (plan, rows')) :
    plan.changedRows = pending.filterMap (PendingEdit.located source) := by
  induction pending generalizing rows plan with
  | nil =>
    cases h
    rfl
  | cons edit rest ih =>
    cases edit with
    | collection change =>
      simp only [collect] at h
      split at h
      · cases h
      · obtain ⟨⟨plan', last⟩, hcollect, heq⟩ := exists_of_map_eq_ok h
        cases heq
        have hrest := ih hcollect
        rw [List.filterMap_cons_none rfl]
        exact hrest
    | itemChanged key =>
      simp only [collect] at h
      split at h
      · cases h
      · rename_i hmissing
        rw [ih h, List.filterMap_cons_none]
        simp only [PendingEdit.located, hmissing]
      · rename_i row hunique
        obtain ⟨⟨plan', last⟩, hcollect, heq⟩ := exists_of_map_eq_ok h
        cases heq
        rw [ih hcollect, List.filterMap_cons_some]
        simp only [PendingEdit.located, hunique]
    | overflow => cases h

theorem changedRows_of_validate (h : validate pending rows source = .ok plan) :
    plan.changedRows = pending.filterMap (PendingEdit.located source) := by
  unfold validate at h
  split at h
  · cases h
  · rename_i plan' last hcollect
    split at h
    · cases h
      exact changedRows_of_collect hcollect
    · cases h

/-- The size of a plan says what it was made from. -/
theorem size_of_validate (h : validate pending rows source = .ok plan) :
    plan.size = pending.countP PendingEdit.isAdd + pending.countP PendingEdit.isRemove +
      2 * pending.countP PendingEdit.isReplace +
      pending.countP (fun edit => (edit.located source).isSome) := by
  rw [size, (validate_eq_ok h).edits_eq, PendingEdit.length_flatMap_rowEdits,
    changedRows_of_validate h, List.length_filterMap_eq_countP]

/-- The check of a queue looks for rows by their keys, and at no cell. -/
theorem collect_congr {other : RowSource R} (hlocate : ∀ key, other.locate key = source.locate key)
    (pending : List (PendingEdit K)) (rows : Nat) :
    collect other rows pending = collect source rows pending := by
  induction pending generalizing rows with
  | nil => rfl
  | cons edit rest ih =>
    cases edit with
    | collection change => simp only [collect, ih]
    | itemChanged key => simp only [collect, hlocate, ih]
    | overflow => rfl

theorem validate_congr {other : RowSource R} (hcount : other.count = source.count)
    (hlocate : ∀ key, other.locate key = source.locate key) (pending : List (PendingEdit K))
    (rows : Nat) : validate pending rows other = validate pending rows source := by
  simp only [validate, collect_congr hlocate, hcount]

/-- The dirty rows are the rows that the queue put in, and those that its reports are about. -/
theorem covers_dirtyRows_of_validate (h : validate pending rows source = .ok plan) (n : Nat) :
    Interval.covers plan.dirtyRows.ranges n = true ↔ n < source.count ∧
      ((pending.foldl PendingEdit.origins ((List.range rows).map some))[n]? = some none ∨
        ∃ edit ∈ pending, edit.located source = some n) := by
  have hcollected := validate_eq_ok h
  -- a table of the numbers of its rows shows where each row has gone
  let places : RowSource Nat := ⟨rows, some⟩
  have hfull : places.Full := fun i _ => Option.some_ne_none i
  rcases hcollected.tracesTo (show places.count = rows from rfl) with ⟨htraces, hcount⟩
  have hrow : n < source.count → ((plan.edits.foldl RowEdit.perform places).row? n = none ↔
      (pending.foldl PendingEdit.origins ((List.range rows).map some))[n]? = some none) := by
    intro hn
    rw [← hcount, htraces.count_eq] at hn
    rw [htraces.row_eq n hn, List.getElem?_eq_getElem hn, Option.join_some, Option.some.injEq]
    exact Option.bind_eq_none_iff.trans (by simp [places, Option.eq_none_iff_forall_ne_some])
  rw [covers_dirtyRows hfull hcollected.edits_fit, hcount]
  constructor
  · rintro (⟨hn, hnone⟩ | hchanged)
    · exact ⟨hn, Or.inl ((hrow hn).mp hnone)⟩
    · have hn := hcollected.changed_lt n hchanged
      rw [changedRows_of_validate h, List.mem_filterMap] at hchanged
      exact ⟨hn, Or.inr hchanged⟩
  · rintro ⟨hn, hnew | hlocated⟩
    · exact Or.inl ⟨hn, (hrow hn).mpr hnew⟩
    · right
      rw [changedRows_of_validate h, List.mem_filterMap]
      exact hlocated

end Check

/-! ## Rows that are visited -/

theorem evaluateRows_congr {other : RowSource R} {window : Interval}
    (h : ∀ i, window.contains i = true → other.row? i = source.row? i) :
    (evaluateRows other columns scope window : List (SearchResult K) × Nat) =
      evaluateRows source columns scope window := by
  have hrows : rowsIn other window = rowsIn source window := by
    apply List.filterMap_congr
    intro i hi
    rcases List.mem_range'_1.mp hi with ⟨hlow, hhigh⟩
    rw [Interval.len] at hhigh
    rw [h i (Interval.contains_iff.mpr ⟨hlow, by omega⟩)]
  simp only [evaluateRows, hrows]

/-- A replay looks at the cells of the dirty rows only. -/
theorem apply_congr {other : RowSource R}
    (h : ∀ i, Interval.covers plan.dirtyRows.ranges i = true → other.row? i = source.row? i)
    (results : ResultSet K) :
    plan.apply results other columns scope = plan.apply results source columns scope := by
  unfold apply
  generalize (⟨plan.movedResults results, 0, 0⟩ : Applied K) = a
  generalize plan.dirtyRows.ranges = ranges at h
  induction ranges generalizing a with
  | nil => rfl
  | cons window rest ih =>
    have hwindow : refreshRows other columns scope a window =
        refreshRows source columns scope a window := by
      have hrows : (evaluateRows other columns scope window : List (SearchResult K) × Nat) =
          evaluateRows source columns scope window :=
        evaluateRows_congr fun i hi => h i (by rw [Interval.covers_cons, hi, Bool.true_or])
      simp only [refreshRows, hrows]
    rw [List.foldl_cons, List.foldl_cons, hwindow]
    exact ih _ fun i hi => h i (by rw [Interval.covers_cons, hi, Bool.or_true])

/-- The rows that a replay evaluates, each with its place, in the order in which it does. -/
def visits (plan : DeltaPlan) (source : RowSource R) : List (R × Nat) :=
  plan.dirtyRows.ranges.flatMap (rowsIn source)

/-- A replay visits the dirty rows from the first to the last, each of them once. -/
theorem visits_eq (h : plan.Fits rows source) :
    plan.visits source =
      ((List.range source.count).filter (Interval.covers plan.dirtyRows.ranges)).filterMap
        fun i => (source.row? i).map fun r => (r, i) := by
  have hwithin := h.dirtyRows_within
  rw [← hwithin.canonical.flatMap_range' fun r hr => (hwithin.stop_le hr).2,
    List.filterMap_flatMap]
  rfl

theorem map_snd_visits (h : plan.Fits rows source) (hfull : source.Full) :
    (plan.visits source).map Prod.snd =
      (List.range source.count).filter (Interval.covers plan.dirtyRows.ranges) := by
  rw [visits_eq h, List.map_filterMap]
  refine (List.filterMap_congr fun i hi => ?_).trans List.filterMap_some
  obtain ⟨row, hrow⟩ :=
    Option.ne_none_iff_exists'.mp (hfull i (List.mem_range.mp (List.mem_filter.mp hi).1))
  rw [hrow]
  rfl

/-- What a replay counts: the rows that it visits, and the results that it finds in them. -/
theorem foldl_refreshRows_counts (source : RowSource R) (columns : ColumnSet R)
    (hscope : scope.isEmpty = false) (ranges : List Interval) (a : Applied K) :
    (ranges.foldl (refreshRows source columns scope) a).rowsEvaluated =
        a.rowsEvaluated + (ranges.flatMap (rowsIn source)).length ∧
      (ranges.foldl (refreshRows source columns scope) a).resultsEmitted =
        a.resultsEmitted + ((ranges.flatMap (rowsIn source)).flatMap fun (row, i) =>
          (evaluateRow columns scope row i : List (SearchResult K))).length := by
  induction ranges generalizing a with
  | nil => exact ⟨rfl, rfl⟩
  | cons rows rest ih =>
    rcases ih (refreshRows source columns scope a rows) with ⟨hevaluated, hemitted⟩
    have hrows : evaluateRows source columns scope rows =
        ((rowsIn source rows).flatMap fun (row, i) =>
            (evaluateRow columns scope row i : List (SearchResult K)),
          (rowsIn source rows).length) := by
      rw [evaluateRows, if_neg (by simp [hscope])]
    rw [List.foldl_cons, hevaluated, hemitted, List.flatMap_cons, List.flatMap_append,
      List.length_append, List.length_append]
    simp only [refreshRows, hrows]
    exact ⟨Nat.add_assoc _ _ _, Nat.add_assoc _ _ _⟩

theorem apply_counts (h : plan.Fits rows source) (hfull : source.Full) (columns : ColumnSet R)
    (hscope : scope.isEmpty = false) (results : ResultSet K) :
    (plan.apply results source columns scope).rowsEvaluated =
        ((List.range source.count).filter (Interval.covers plan.dirtyRows.ranges)).length ∧
      (plan.apply results source columns scope).resultsEmitted =
        (((List.range source.count).filter (Interval.covers plan.dirtyRows.ranges)).flatMap
          (resultsAt source columns scope) : List (SearchResult K)).length := by
  rcases foldl_refreshRows_counts source columns hscope plan.dirtyRows.ranges
    ⟨plan.movedResults results, 0, 0⟩ with ⟨hevaluated, hemitted⟩
  constructor
  · rw [apply, hevaluated, Nat.zero_add, ← map_snd_visits h hfull, List.length_map, visits]
  · rw [apply, hemitted, Nat.zero_add, ← visits, visits_eq h, flatMap_rowsIn]

end DeltaPlan

end CellSearch
