import Mathlib
import CellSearch.Engine.Evaluate
import CellSearch.Proofs.Result.Set

/-!
# Scans

A scan finds the results of each row from that row alone, so that the results of a range of rows
are the results of its parts one behind the other (`resultsIn_append`), rows at another place
have the same results with another row number (`resultsAt_moveTo`, `resultsIn_raise`), and rows
that are the same have the same results (`resultsIn_congr`). If columns and plan are numbered
upwards, the results come in order (`resultsIn_inOrder`).
-/

namespace CellSearch

variable {R K : Type} [SearchRow R K] {columns : ColumnSet R} {plan : ScopePlan}
variable {row : R} {i j : Nat} {entry : Nat × List Prepared} {r : SearchResult K}

/-! ## One row -/

/-- A cell has a result if its column gives a text and some descriptor has a span in it. -/
theorem evaluateCell_eq_some (h : evaluateCell columns row i entry = some r) :
    ∃ c text, columns.columns[entry.1]? = some c ∧ c.extract row = some text ∧
      (entry.2.flatMap fun p => p.matchText text.toList) ≠ [] ∧
      r = { key := rowKey row, row := i, column := c.id, columnIndex := c.index, text := text,
            spans := if entry.2.length > 1
              then Interval.merge (entry.2.flatMap fun p => p.matchText text.toList)
              else entry.2.flatMap fun p => p.matchText text.toList } := by
  unfold evaluateCell at h
  cases hc : columns.columns[entry.1]? with
  | none => simp [hc] at h
  | some c =>
    cases ht : c.extract row with
    | none => simp [hc, ht] at h
    | some text =>
      by_cases hs : (entry.2.flatMap fun p => p.matchText text.toList).isEmpty = true
      · simp only [hc, ht, hs, if_true] at h
        cases h
      · simp only [hc, ht, hs] at h
        exact ⟨c, text, rfl, ht, by simpa using hs, (Option.some.inj h).symm⟩

/-- The result with its row at another place. -/
def SearchResult.moveTo (row : Nat) (r : SearchResult K) : SearchResult K :=
  { r with row := row }

/-- The row number is the only thing that a result knows of the place of its row. -/
theorem evaluateCell_moveTo :
    (evaluateCell columns row j entry : Option (SearchResult K)) =
      (evaluateCell columns row i entry).map (SearchResult.moveTo j) := by
  unfold evaluateCell
  cases hc : columns.columns[entry.1]? with
  | none => rfl
  | some c =>
    cases ht : c.extract row with
    | none => simp only [ht, Option.map_none]
    | some text =>
      by_cases hs : (entry.2.flatMap fun p => p.matchText text.toList).isEmpty = true
      · simp only [ht, hs, if_true, Option.map_none]
      · simp only [ht, hs, Bool.false_eq_true, if_false, Option.map_some, SearchResult.moveTo]

theorem row_of_evaluateCell (h : evaluateCell columns row i entry = some r) : r.row = i := by
  obtain ⟨c, text, -, -, -, rfl⟩ := evaluateCell_eq_some h
  rfl

theorem evaluateCell_add (count : Nat) :
    (evaluateCell columns row (i + count) entry : Option (SearchResult K)) =
      (evaluateCell columns row i entry).map (SearchResult.raise count) := by
  rw [evaluateCell_moveTo (i := i)]
  apply Option.map_congr
  intro r hr
  rw [SearchResult.moveTo, SearchResult.raise, row_of_evaluateCell hr]

theorem row_of_mem_evaluateRow (h : r ∈ evaluateRow columns plan row i) : r.row = i := by
  obtain ⟨entry, -, hentry⟩ := List.mem_filterMap.mp h
  exact row_of_evaluateCell hentry

theorem evaluateRow_add (count : Nat) :
    (evaluateRow columns plan row (i + count) : List (SearchResult K)) =
      (evaluateRow columns plan row i).map (SearchResult.raise count) := by
  simp only [evaluateRow, List.map_filterMap, evaluateCell_add]

theorem evaluateRow_moveTo :
    (evaluateRow columns plan row j : List (SearchResult K)) =
      (evaluateRow columns plan row i).map (SearchResult.moveTo j) := by
  rw [evaluateRow, evaluateRow, List.map_filterMap]
  exact List.filterMap_congr fun entry _ => evaluateCell_moveTo

/-- The results of a row come in the order of their columns. -/
theorem evaluateRow_inOrder (hcolumns : columns.columns.Pairwise fun a b => a.index < b.index)
    (hplan : plan.entries.Pairwise fun a b => a.1 < b.1) :
    (evaluateRow columns plan row i : List (SearchResult K)).Pairwise SearchResult.Precedes := by
  -- each entry of the plan gives one result at most, with the number of its column
  apply List.Pairwise.filterMap _ _ hplan
  intro a b hlt ra hra rb hrb
  obtain ⟨ca, _, hca, -, -, rfl⟩ := evaluateCell_eq_some hra
  obtain ⟨cb, _, hcb, -, -, rfl⟩ := evaluateCell_eq_some hrb
  obtain ⟨ha, rfl⟩ := List.getElem?_eq_some_iff.mp hca
  obtain ⟨hb, rfl⟩ := List.getElem?_eq_some_iff.mp hcb
  exact Or.inr ⟨rfl, List.pairwise_iff_getElem.mp hcolumns _ _ ha hb hlt⟩

/-! ## Ranges of rows -/

section Ranges

variable {source source' : RowSource R} {start len m n count : Nat}

/-- The results at one place of a source. -/
def resultsAt (source : RowSource R) (columns : ColumnSet R) (plan : ScopePlan) (i : Nat) :
    List (SearchResult K) :=
  match source.row? i with
  | none => []
  | some row => evaluateRow columns plan row i

/-- The results of `len` rows from `start` on. -/
def resultsIn (source : RowSource R) (columns : ColumnSet R) (plan : ScopePlan)
    (start len : Nat) : List (SearchResult K) :=
  (List.range' start len).flatMap (resultsAt source columns plan)

theorem flatMap_rowsIn (rows : List Nat) :
    (rows.filterMap fun i => (source.row? i).map fun r => (r, i)).flatMap
        (fun (row, i) => evaluateRow columns plan row i) =
      (rows.flatMap (resultsAt source columns plan) : List (SearchResult K)) := by
  induction rows with
  | nil => rfl
  | cons i rest ih =>
    cases hrow : source.row? i with
    | none => simpa [hrow, resultsAt] using ih
    | some row => simpa [hrow, resultsAt] using ih

/-- A plan that searches no column finds nothing in any row. -/
theorem resultsIn_of_isEmpty (h : plan.isEmpty = true) :
    (resultsIn source columns plan start len : List (SearchResult K)) = [] := by
  have hentries : plan.entries = [] := List.isEmpty_iff.mp h
  simp only [resultsIn, List.flatMap_eq_nil_iff, resultsAt]
  intro i _
  split <;> simp [evaluateRow, hentries]

theorem evaluateRows_results (rows : Interval) :
    (evaluateRows source columns plan rows).1 =
      (resultsIn source columns plan rows.start rows.len : List (SearchResult K)) := by
  unfold evaluateRows
  by_cases hempty : plan.isEmpty = true
  · rw [if_pos hempty, resultsIn_of_isEmpty hempty]
  · rw [if_neg hempty]
    exact flatMap_rowsIn _

theorem toList_fullScan : (fullScan source columns plan).1.toList =
    (resultsIn source columns plan 0 source.count : List (SearchResult K)) :=
  evaluateRows_results ⟨0, source.count⟩

theorem resultsIn_append (start m n : Nat) :
    (resultsIn source columns plan start (m + n) : List (SearchResult K)) =
      resultsIn source columns plan start m ++ resultsIn source columns plan (start + m) n := by
  unfold resultsIn
  rw [← List.flatMap_append, List.range'_append_1]

theorem row_of_mem_resultsAt (h : r ∈ resultsAt source columns plan i) : r.row = i := by
  unfold resultsAt at h
  split at h
  · cases h
  · exact row_of_mem_evaluateRow h

/-- The same row at another place has the same results there. -/
theorem resultsAt_moveTo (h : source'.row? j = source.row? i) :
    (resultsAt source' columns plan j : List (SearchResult K)) =
      (resultsAt source columns plan i).map (SearchResult.moveTo j) := by
  simp only [resultsAt, h]
  split
  · rfl
  · exact evaluateRow_moveTo

theorem row_of_mem_resultsIn (h : r ∈ resultsIn source columns plan start len) :
    start ≤ r.row ∧ r.row < start + len := by
  obtain ⟨i, hi, hr⟩ := List.mem_flatMap.mp h
  rw [row_of_mem_resultsAt hr]
  exact List.mem_range'_1.mp hi

/-- The results of a range that are those of one row. -/
theorem filter_row_resultsIn (hlow : start ≤ i) (hhigh : i < start + len) :
    (resultsIn source columns plan start len).filter (fun r => r.row = i) =
      (resultsAt source columns plan i : List (SearchResult K)) := by
  have hcut : len = (i - start) + (1 + (len - (i - start) - 1)) := by omega
  have hrow : start + (i - start) = i := by omega
  rw [hcut, resultsIn_append, resultsIn_append, List.filter_append, List.filter_append, hrow]
  have hfront : (resultsIn source columns plan start (i - start) : List (SearchResult K)).filter
      (fun r => r.row = i) = [] := by
    rw [List.filter_eq_nil_iff]
    intro r hr
    have := row_of_mem_resultsIn hr
    simp only [decide_eq_true_eq]
    omega
  have hback : (resultsIn source columns plan (i + 1) (len - (i - start) - 1) :
      List (SearchResult K)).filter (fun r => r.row = i) = [] := by
    rw [List.filter_eq_nil_iff]
    intro r hr
    have := row_of_mem_resultsIn hr
    simp only [decide_eq_true_eq]
    omega
  have hone : (resultsIn source columns plan i 1 : List (SearchResult K)) =
      resultsAt source columns plan i := by
    simp [resultsIn]
  rw [hfront, hback, hone, List.nil_append, List.append_nil, List.filter_eq_self]
  intro r hr
  simpa using row_of_mem_resultsAt hr

theorem resultsIn_congr
    (h : ∀ i, start ≤ i → i < start + len → source.row? i = source'.row? i) :
    (resultsIn source columns plan start len : List (SearchResult K)) =
      resultsIn source' columns plan start len := by
  apply List.flatMap_congr
  intro i hi
  obtain ⟨hlow, hhigh⟩ := List.mem_range'_1.mp hi
  simp only [resultsAt, h i hlow hhigh]

/-- Rows that moved up by `count` have the same results, moved up. -/
theorem resultsIn_raise
    (h : ∀ i, start ≤ i → i < start + len → source'.row? (i + count) = source.row? i) :
    (resultsIn source' columns plan (start + count) len : List (SearchResult K)) =
      (resultsIn source columns plan start len).map (SearchResult.raise count) := by
  unfold resultsIn
  rw [List.map_flatMap, Nat.add_comm start count, ← List.map_add_range', List.flatMap_map]
  apply List.flatMap_congr
  intro i hi
  obtain ⟨hlow, hhigh⟩ := List.mem_range'_1.mp hi
  simp only [resultsAt, Nat.add_comm count i, h i hlow hhigh]
  split
  · rfl
  · exact evaluateRow_add count

/-- Rows without content have no results. -/
theorem resultsIn_eq_nil (h : ∀ i, start ≤ i → i < start + len → source.row? i = none) :
    (resultsIn source columns plan start len : List (SearchResult K)) = [] := by
  rw [resultsIn, List.flatMap_eq_nil_iff]
  intro i hi
  obtain ⟨hlow, hhigh⟩ := List.mem_range'_1.mp hi
  simp only [resultsAt, h i hlow hhigh]

/-- An order that each row keeps, a range keeps. -/
theorem resultsIn_pairwise {rel : SearchResult K → SearchResult K → Prop}
    (hrel : ResultSet.RowOrder rel) (hrow : ∀ i, (resultsAt source columns plan i).Pairwise rel) :
    (resultsIn source columns plan start len).Pairwise rel := by
  rw [resultsIn, List.pairwise_flatMap]
  refine ⟨fun i _ => hrow i, ?_⟩
  -- between two rows the row number decides
  have hrows : (List.range' start len).Pairwise (· < ·) := List.pairwise_lt_range' 1
  apply hrows.imp
  intro i j hij a ha b hb
  apply hrel.of_lt
  rw [row_of_mem_resultsAt ha, row_of_mem_resultsAt hb]
  exact hij

theorem resultsIn_rowsSorted : (resultsIn source columns plan start len :
    List (SearchResult K)).Pairwise fun a b => a.row ≤ b.row := by
  apply resultsIn_pairwise ResultSet.rowOrder_le
  intro i
  apply List.pairwise_of_forall_mem_list
  intro a ha b hb
  rw [row_of_mem_resultsAt ha, row_of_mem_resultsAt hb]

/-- The results of a range come in order. -/
theorem resultsIn_inOrder (hcolumns : columns.columns.Pairwise fun a b => a.index < b.index)
    (hplan : plan.entries.Pairwise fun a b => a.1 < b.1) :
    (resultsIn source columns plan start len : List (SearchResult K)).Pairwise
      SearchResult.Precedes := by
  apply resultsIn_pairwise ResultSet.rowOrder_precedes
  intro i
  unfold resultsAt
  split
  · exact List.Pairwise.nil
  · exact evaluateRow_inOrder hcolumns hplan

/-! ## What an evaluation yields -/

/-- Fresh results lie in the rows that were evaluated. -/
theorem row_of_mem_evaluateRows {rows : Interval} (hle : rows.start ≤ rows.stop)
    (h : r ∈ (evaluateRows source columns plan rows).1) :
    rows.start ≤ r.row ∧ r.row < rows.stop := by
  rw [evaluateRows_results] at h
  have hrow := row_of_mem_resultsIn h
  rw [Interval.len, Nat.add_sub_cancel' hle] at hrow
  exact hrow

theorem evaluateRows_rowsSorted (rows : Interval) : (evaluateRows source columns plan rows :
    List (SearchResult K) × Nat).1.Pairwise fun a b => a.row ≤ b.row := by
  rw [evaluateRows_results]
  exact resultsIn_rowsSorted

/-- No row is evaluated twice. -/
theorem evaluateRows_count_le (rows : Interval) :
    (evaluateRows source columns plan rows : List (SearchResult K) × Nat).2 ≤ rows.len := by
  unfold evaluateRows
  split
  · exact Nat.zero_le _
  · have hfound : (rowsIn source rows).length ≤ (List.range' rows.start rows.len).length :=
      List.length_filterMap_le _ _
    rwa [List.length_range'] at hfound

end Ranges

end CellSearch
