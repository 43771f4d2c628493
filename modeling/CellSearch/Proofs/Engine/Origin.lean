import Mathlib
import CellSearch.Engine.Basic
import CellSearch.Proofs.Engine.Replay

/-!
# Where rows come from

A queue of reports says of every row of the table after it where the row was before, or that the
row was put in by the queue and is not taken out again by a later report (`Engine.origins`). This
is read off the reports alone. The edits that a replay makes on a table agree with it
(`RowSource.TracesTo.queue`), so that the rows without content are the ones without an origin.
-/

namespace CellSearch

/-! ## Origins -/

/-- The origins of the rows after a change, from those before it. Rows that come in have none. -/
def CollectionChange.origins (rows : List (Option Nat)) : CollectionChange → List (Option Nat)
  | add start count => rows.take start ++ List.replicate count none ++ rows.drop start
  | remove start count => rows.take start ++ rows.drop (start + count)
  | replace start removed added =>
    rows.take start ++ List.replicate added none ++ rows.drop (start + removed)
  | move _ _ _ => rows
  | reset => rows

/-- The origins of the rows after a report. -/
def PendingEdit.origins {K : Type} (rows : List (Option Nat)) : PendingEdit K → List (Option Nat)
  | collection change => change.origins rows
  | itemChanged _ => rows
  | overflow => rows

/-- For each row after the queue, its place among the rows that the results were found in, or
`none` if the queue put the row in. -/
def Engine.origins {R K : Type} (e : Engine R K) : List (Option Nat) :=
  e.pending.foldl PendingEdit.origins ((List.range e.baseline).map some)

/-! ## Edited tables -/

namespace RowSource

variable {R K : Type}

/-- A source holds the rows of another one in the places that a list of origins says; rows without
an origin have no content. -/
structure TracesTo (s base : RowSource R) (rows : List (Option Nat)) : Prop where
  count_eq : s.count = rows.length
  row_eq : ∀ i, i < rows.length → s.row? i = rows[i]?.join.bind base.row?
  origin_lt : ∀ j, some j ∈ rows → j < base.count

variable {s base : RowSource R} {rows : List (Option Nat)} {start count : Nat}

/-- A table traces to itself. -/
theorem tracesTo_self (base : RowSource R) :
    base.TracesTo base ((List.range base.count).map some) := by
  refine ⟨by simp, fun i hi => ?_, by simp⟩
  have hlt : i < base.count := by simpa using hi
  simp [hlt]

theorem TracesTo.openGap (h : s.TracesTo base rows) (hstart : start ≤ rows.length) :
    (s.openGap start count).TracesTo base
      (rows.take start ++ List.replicate count none ++ rows.drop start) := by
  constructor
  · simp only [RowSource.openGap, h.count_eq, List.length_append, List.length_take,
      List.length_drop, List.length_replicate]
    omega
  · intro i hi
    simp only [List.length_append, List.length_take, List.length_drop,
      List.length_replicate] at hi
    simp only [RowSource.openGap, getElem?_insertWindow hstart, List.length_replicate]
    -- a row lies before the gap, in it, or behind it
    split
    · exact h.row_eq i (by omega)
    · rename_i hge
      split
      · rename_i hgap
        have hnew : (List.replicate count (none : Option Nat))[i - start]? = some none :=
          List.getElem?_replicate_of_lt (by omega)
        rw [hnew]
        rfl
      · exact h.row_eq (i - count) (by omega)
  · intro j hj
    rcases List.mem_append.mp hj with hj | hj
    · rcases List.mem_append.mp hj with hj | hj
      · exact h.origin_lt j (List.mem_of_mem_take hj)
      · cases (List.mem_replicate.mp hj).2
    · exact h.origin_lt j (List.mem_of_mem_drop hj)

theorem TracesTo.closeGap (h : s.TracesTo base rows) (hfit : start + count ≤ rows.length) :
    (s.closeGap start count).TracesTo base (rows.take start ++ rows.drop (start + count)) := by
  constructor
  · simp only [RowSource.closeGap, h.count_eq, List.length_append, List.length_take,
      List.length_drop]
    omega
  · intro i hi
    simp only [List.length_append, List.length_take, List.length_drop] at hi
    simp only [RowSource.closeGap, getElem?_removeWindow hfit]
    split
    · exact h.row_eq i (by omega)
    · exact h.row_eq (i + count) (by omega)
  · intro j hj
    rcases List.mem_append.mp hj with hj | hj
    · exact h.origin_lt j (List.mem_of_mem_take hj)
    · exact h.origin_lt j (List.mem_of_mem_drop hj)

/-- The edits of a change move the rows to where the change says. -/
theorem TracesTo.change (h : s.TracesTo base rows) {change : CollectionChange}
    (hfit : RowEdit.AllFit rows.length change.rowEdits) :
    (change.rowEdits.foldl RowEdit.perform s).TracesTo base (change.origins rows) := by
  cases change with
  | add start count => exact h.openGap hfit.1
  | remove start count => exact h.closeGap hfit.1
  | replace start removed added =>
    have hdelete : start + removed ≤ rows.length := hfit.1
    have hstart : start ≤ (rows.take start ++ rows.drop (start + removed)).length := by
      simp only [List.length_append, List.length_take, List.length_drop]
      omega
    have hreplaced : ((s.closeGap start removed).openGap start added).TracesTo base _ :=
      (h.closeGap hdelete).openGap hstart
    rw [insertWindow_removeWindow (by omega)] at hreplaced
    exact hreplaced
  | move source target count => exact h
  | reset => exact h

/-- The edits of a queue move the rows to where its reports say. -/
theorem TracesTo.queue (h : s.TracesTo base rows) {pending : List (PendingEdit K)}
    (hfit : RowEdit.AllFit rows.length (pending.flatMap PendingEdit.rowEdits)) :
    ((pending.flatMap PendingEdit.rowEdits).foldl RowEdit.perform s).TracesTo base
      (pending.foldl PendingEdit.origins rows) := by
  induction pending generalizing s rows with
  | nil => exact h
  | cons edit rest ih =>
    rw [List.flatMap_cons] at hfit ⊢
    rw [List.foldl_append, List.foldl_cons]
    rcases RowEdit.allFit_append.mp hfit with ⟨hedit, hrest⟩
    cases edit with
    | collection change =>
      have hchanged := h.change hedit
      -- what is left of the queue fits the rows that the change leaves
      rw [← h.count_eq, ← RowEdit.count_foldl_perform] at hrest
      exact ih hchanged (hchanged.count_eq ▸ hrest)
    | itemChanged key => exact ih h hrest
    | overflow => exact ih h hrest

end RowSource

/-- A plan that was made from a queue makes its edits where the reports say. -/
theorem DeltaPlan.Collected.tracesTo {R R' K : Type} [SearchRow R K] [BEq K] {plan : DeltaPlan}
    {pending : List (PendingEdit K)} {rows rows' : Nat} {source : RowSource R}
    (h : plan.Collected pending rows rows' source) {base : RowSource R'}
    (hbase : base.count = rows) :
    (plan.edits.foldl RowEdit.perform base).TracesTo base
        (pending.foldl PendingEdit.origins ((List.range rows).map some)) ∧
      (plan.edits.foldl RowEdit.perform base).count = rows' := by
  have hfit := h.edits_fit
  rw [h.edits_eq] at hfit
  have htraces := (RowSource.tracesTo_self base).queue (by simpa [hbase] using hfit)
  rw [← h.edits_eq, hbase] at htraces
  refine ⟨htraces, ?_⟩
  rw [RowEdit.count_foldl_perform, hbase, h.rows_after]

/-- The results of a row that has moved are those of its origin; a row without one has none. -/
theorem RowSource.TracesTo.resultsAt_eq {R K : Type} [SearchRow R K] {s base : RowSource R}
    {columns : ColumnSet R} {plan : ScopePlan} {rows : List (Option Nat)}
    (h : s.TracesTo base rows) {i : Nat} (hi : i < rows.length) :
    (resultsAt s columns plan i : List (SearchResult K)) =
      match rows[i]? with
      | some (some j) => ((fullScan base columns plan).1.toList.filter fun r => r.row = j).map
          (SearchResult.moveTo i)
      | _ => [] := by
  have hrow := h.row_eq i hi
  have hmem := List.getElem_mem hi
  rw [List.getElem?_eq_getElem hi] at hrow ⊢
  generalize rows[i] = origin at hrow hmem
  cases origin with
  | none => simp only [resultsAt, hrow, Option.join_some, Option.bind_none]
  | some j =>
    have hlt : j < 0 + base.count := by simpa using h.origin_lt j hmem
    simp only [toList_fullScan, filter_row_resultsIn (Nat.zero_le j) hlt]
    exact resultsAt_moveTo hrow

end CellSearch
