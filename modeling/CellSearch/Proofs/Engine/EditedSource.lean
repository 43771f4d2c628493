import Mathlib
import CellSearch.Engine.Delta
import CellSearch.Proofs.Interval
import CellSearch.Proofs.Engine.Scan

/-!
# Edits of a source

An edit of a result set is an edit of the table that the results were found in: a gap in the
results is a gap in the table (`insertRows_fullScan`), results without a window are those of the
table without it (`removeRows_fullScan`), and fresh results in a window are those of the table
with other rows written into it (`spliceRows_fullScan`). Rows that are inserted have no content
yet (`RowEdit.perform`), so that nothing is found in them.
-/

namespace CellSearch

/-! ## Lists with a window -/

section Windows

variable {α : Type} {rows fresh : List α} {start count removed : Nat}

/-- What stands where once rows are put in at `start`. -/
theorem getElem?_insertWindow (hstart : start ≤ rows.length) (i : Nat) :
    (rows.take start ++ fresh ++ rows.drop start)[i]? =
      if i < start then rows[i]?
      else if i < start + fresh.length then fresh[i - start]? else rows[i - fresh.length]? := by
  have hlen : (rows.take start).length = start := List.length_take_of_le hstart
  rw [List.append_assoc, List.getElem?_append, hlen]
  split
  · rename_i hfront
    exact List.getElem?_take_of_lt hfront
  · rename_i hge
    rw [List.getElem?_append]
    split
    · rw [if_pos (by omega)]
    · rw [if_neg (by omega), List.getElem?_drop]
      congr 1
      omega

/-- What stands where once a window of rows is taken out. -/
theorem getElem?_removeWindow (hfit : start + count ≤ rows.length) (i : Nat) :
    (rows.take start ++ rows.drop (start + count))[i]? =
      if i < start then rows[i]? else rows[i + count]? := by
  have hlen : (rows.take start).length = start := List.length_take_of_le (by omega)
  rw [List.getElem?_append, hlen]
  split
  · rename_i hfront
    exact List.getElem?_take_of_lt hfront
  · rw [List.getElem?_drop]
    congr 1
    omega

/-- To put rows in the place of a window is to take it out and to put them in. -/
theorem insertWindow_removeWindow (hstart : start ≤ rows.length) :
    (rows.take start ++ rows.drop (start + removed)).take start ++ fresh ++
        (rows.take start ++ rows.drop (start + removed)).drop start =
      rows.take start ++ fresh ++ rows.drop (start + removed) := by
  have hlen : (rows.take start).length = start := List.length_take_of_le hstart
  rw [List.take_left' hlen, List.drop_left' hlen]

end Windows

variable {R K : Type} [SearchRow R K]

/-! ## Sources with a gap -/

namespace RowSource

/-- Every row of the source has content. -/
def Full (s : RowSource R) : Prop :=
  ∀ i, i < s.count → s.row? i ≠ none

theorem full_ofList (rows : List R) : (ofList rows).Full := by
  intro i hi
  simpa [ofList] using hi

/-- The source with `count` rows without content at `start`. -/
def openGap (s : RowSource R) (start count : Nat) : RowSource R where
  count := s.count + count
  row? i :=
    if i < start then s.row? i else if i < start + count then none else s.row? (i - count)

/-- The source without the `count` rows from `start` on. -/
def closeGap (s : RowSource R) (start count : Nat) : RowSource R where
  count := s.count - count
  row? i := if i < start then s.row? i else s.row? (i + count)

/-- The source with the rows of an interval taken from another one. -/
def patch (source : RowSource R) (s : RowSource R) (rows : Interval) : RowSource R where
  count := s.count
  row? i := if rows.contains i then source.row? i else s.row? i

@[simp] theorem count_foldl_patch (source s : RowSource R) (ranges : List Interval) :
    (ranges.foldl source.patch s).count = s.count := by
  induction ranges generalizing s with
  | nil => rfl
  | cons rows rest ih => exact ih (source.patch s rows)

theorem row?_foldl_patch (source s : RowSource R) (ranges : List Interval) (i : Nat) :
    (ranges.foldl source.patch s).row? i =
      if Interval.covers ranges i then source.row? i else s.row? i := by
  induction ranges generalizing s with
  | nil => simp
  | cons rows rest ih =>
    rw [List.foldl_cons, ih, Interval.covers_cons]
    by_cases hrows : rows.contains i = true
    · simp [patch, hrows]
    · simp [patch, hrows]

end RowSource

section Scans

variable {s source : RowSource R} {columns : ColumnSet R} {plan : ScopePlan} {start count : Nat}

/-- The parts of a scan before and from a row on. -/
theorem toList_fullScan_cut (h : start ≤ s.count) :
    (fullScan s columns plan).1.toList =
      (resultsIn s columns plan 0 start : List (SearchResult K)) ++
        resultsIn s columns plan start (s.count - start) := by
  rw [toList_fullScan]
  have hlen : s.count = start + (s.count - start) := by omega
  conv_lhs => rw [hlen, resultsIn_append, Nat.zero_add]

/-- The parts of a scan before, in and behind a window of rows. -/
theorem toList_fullScan_window (h : start + count ≤ s.count) :
    (fullScan s columns plan).1.toList =
      (resultsIn s columns plan 0 start : List (SearchResult K)) ++
        resultsIn s columns plan start count ++
          resultsIn s columns plan (start + count) (s.count - (start + count)) := by
  rw [toList_fullScan_cut h, resultsIn_append, Nat.zero_add]

/-- A gap in the results is a gap in the table. -/
theorem insertRows_fullScan (h : start ≤ s.count) :
    (fullScan s columns plan).1.insertRows start count =
      ((fullScan (s.openGap start count) columns plan).1 : ResultSet K) := by
  apply ResultSet.ext_toList
  rw [ResultSet.toList_insertRows (toList_fullScan_cut h)
    (fun r hr => by simpa using (row_of_mem_resultsIn hr).2)
    (fun r hr => (row_of_mem_resultsIn hr).1)]
  have hwindow : start + count ≤ (s.openGap start count).count := by
    simp only [RowSource.openGap]
    omega
  have hlen : (s.openGap start count).count - (start + count) = s.count - start := by
    simp only [RowSource.openGap]
    omega
  rw [toList_fullScan_window hwindow, hlen]
  -- rows before the gap are the same, rows in it have no results, rows behind it have moved
  have hfront : (resultsIn (s.openGap start count) columns plan 0 start : List (SearchResult K)) =
      resultsIn s columns plan 0 start :=
    resultsIn_congr fun i _ hi => by simp [RowSource.openGap, show i < start by omega]
  have hgap : (resultsIn (s.openGap start count) columns plan start count :
      List (SearchResult K)) = [] :=
    resultsIn_eq_nil fun i hlow hhigh => by simp [RowSource.openGap, hhigh, not_lt.mpr hlow]
  rw [hfront, hgap, List.append_nil]
  congr 1
  symm
  apply resultsIn_raise
  intro i hlow _
  have hfar : ¬ i + count < start := by omega
  have hbehind : ¬ i + count < start + count := by omega
  simp [RowSource.openGap, hfar, hbehind]

/-- Results without a window of rows are those of the table without it. -/
theorem removeRows_fullScan (h : start + count ≤ s.count) :
    ((fullScan s columns plan).1.removeRows start count).1 =
      ((fullScan (s.closeGap start count) columns plan).1 : ResultSet K) := by
  apply ResultSet.ext_toList
  rw [ResultSet.toList_removeRows (toList_fullScan_window h)
    (fun r hr => by simpa using (row_of_mem_resultsIn hr).2)
    (fun r hr => row_of_mem_resultsIn hr)
    (fun r hr => (row_of_mem_resultsIn hr).1)]
  have hcut : start ≤ (s.closeGap start count).count := by
    simp only [RowSource.closeGap]
    omega
  have hlen : (s.closeGap start count).count - start = s.count - (start + count) := by
    simp only [RowSource.closeGap]
    omega
  rw [toList_fullScan_cut hcut, hlen]
  have hfront : (resultsIn (s.closeGap start count) columns plan 0 start :
      List (SearchResult K)) = resultsIn s columns plan 0 start :=
    resultsIn_congr fun i _ hi => by simp [RowSource.closeGap, show i < start by omega]
  have hback : (resultsIn s columns plan (start + count) (s.count - (start + count)) :
      List (SearchResult K)) =
        (resultsIn (s.closeGap start count) columns plan start
          (s.count - (start + count))).map (SearchResult.raise count) := by
    apply resultsIn_raise
    intro i hlow _
    simp [RowSource.closeGap, not_lt.mpr hlow]
  rw [hfront, hback, List.map_map, SearchResult.lower_comp_raise, List.map_id]

/-- Fresh results for a window of rows are those of the table with the rows written into it. -/
theorem spliceRows_fullScan {rows : Interval} (hle : rows.start ≤ rows.stop)
    (h : rows.stop ≤ s.count) :
    (fullScan s columns plan).1.spliceRows rows (evaluateRows source columns plan rows).1 =
      ((fullScan (source.patch s rows) columns plan).1 : ResultSet K) := by
  have hstop : rows.start + rows.len = rows.stop := by
    simp only [Interval.len]
    omega
  have hwindow : rows.start + rows.len ≤ s.count := by omega
  apply ResultSet.ext_toList
  rw [ResultSet.toList_spliceRows (toList_fullScan_window hwindow) hle
    (fun r hr => by simpa using (row_of_mem_resultsIn hr).2)
    (fun r hr => by simpa only [hstop] using row_of_mem_resultsIn hr)
    (fun r hr => by simpa only [hstop] using (row_of_mem_resultsIn hr).1)]
  rw [evaluateRows_results, toList_fullScan_window (s := source.patch s rows) hwindow]
  have hout : ∀ i, i < rows.start ∨ rows.stop ≤ i →
      s.row? i = (source.patch s rows).row? i := by
    intro i hi
    have hnot : ¬ (rows.start ≤ i ∧ i < rows.stop) := by omega
    simp [RowSource.patch, Interval.contains, hnot]
  have hin : ∀ i, rows.start ≤ i → i < rows.stop →
      source.row? i = (source.patch s rows).row? i := by
    intro i hlow hhigh
    simp [RowSource.patch, Interval.contains, hlow, hhigh]
  congr 1
  · congr 1
    · exact resultsIn_congr fun i _ hi => hout i (Or.inl (by omega))
    · exact resultsIn_congr fun i hlow hhigh => hin i hlow (by omega)
  · exact resultsIn_congr fun i hlow _ => hout i (Or.inr (by omega))

/-- The results of a row are found in the table that it is taken from. -/
theorem resultsAt_foldl_patch (ranges : List Interval) (i : Nat) :
    (resultsAt (ranges.foldl source.patch s) columns plan i : List (SearchResult K)) =
      if Interval.covers ranges i then resultsAt source columns plan i
      else resultsAt s columns plan i := by
  simp only [resultsAt, RowSource.row?_foldl_patch]
  cases Interval.covers ranges i <;> rfl

/-- Tables with the same rows have the same scan. -/
theorem fullScan_congr (hcount : s.count = source.count)
    (hrow : ∀ i, i < source.count → s.row? i = source.row? i) :
    (fullScan s columns plan).1 = ((fullScan source columns plan).1 : ResultSet K) := by
  apply ResultSet.ext_toList
  rw [toList_fullScan, toList_fullScan, hcount]
  exact resultsIn_congr fun i _ hi => hrow i (by omega)

end Scans

/-! ## Edits one after the other -/

namespace RowEdit

/-- The edit lies inside a table with `rows` rows. -/
def Fits (rows : Nat) : RowEdit → Prop
  | insert start _ => start ≤ rows
  | delete start count => start + count ≤ rows

/-- The number of rows after the edit. -/
def rowsAfter (rows : Nat) : RowEdit → Nat
  | insert _ count => rows + count
  | delete _ count => rows - count

/-- Make the edit in a source; rows that are inserted have no content. -/
def perform (s : RowSource R) : RowEdit → RowSource R
  | insert start count => s.openGap start count
  | delete start count => s.closeGap start count

/-- Each edit lies inside the table that the edits before it leave. -/
def AllFit : Nat → List RowEdit → Prop
  | _, [] => True
  | rows, edit :: rest => edit.Fits rows ∧ AllFit (edit.rowsAfter rows) rest

theorem count_perform (s : RowSource R) (edit : RowEdit) :
    (edit.perform s).count = edit.rowsAfter s.count := by
  cases edit <;> rfl

theorem count_foldl_perform (s : RowSource R) (edits : List RowEdit) :
    (edits.foldl perform s).count = edits.foldl rowsAfter s.count := by
  induction edits generalizing s with
  | nil => rfl
  | cons edit rest ih => rw [List.foldl_cons, List.foldl_cons, ih, count_perform]

theorem allFit_append {a b : List RowEdit} {rows : Nat} :
    AllFit rows (a ++ b) ↔ AllFit rows a ∧ AllFit (a.foldl rowsAfter rows) b := by
  induction a generalizing rows with
  | nil => simp [AllFit]
  | cons edit rest ih => simp [AllFit, ih, and_assoc]

end RowEdit

end CellSearch
