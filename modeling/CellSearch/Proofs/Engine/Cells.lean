import Mathlib
import CellSearch.Proofs.Column.Binding
import CellSearch.Proofs.Engine.Scan
import CellSearch.Proofs.Query.Match

/-!
# The cells that a scan reports

A scan goes through positions among the bound columns, its results speak of places among the live
columns, and the descriptors of a column are a list of their own. The three are tied together
here: a cell is reported if and only if its column is searchable and gives a text in which some
descriptor that searches the column has a span (`mem_fullScan`), and the spans of the result are
the merged spans of these descriptors, be it one or many (`cellSpans_eq_merge`).

Merged spans are determined by the bytes that they cover, so that the order of the descriptors
and their repetition leave no trace (`fullScan_congr_prepared`).

* `fullScan_reports_matching_cells` — what a scan reports, and that it depends on the set of
  descriptors only.
-/

namespace CellSearch

open CellSearch.Text

variable {R K : Type} [SearchRow R K] {columns : ColumnSet R} {source : RowSource R}
variable {row : R} {i pos : Nat} {r : SearchResult K}

/-! ## The spans of a cell -/

/-- The spans that a list of descriptors has in a text. -/
def cellSpans (ps : List Prepared) (text : List Char) : List Interval :=
  ps.flatMap fun p => p.matchText text

section Spans

variable {ps qs : List Prepared} {text : List Char} {n : Nat}

theorem canonical_merge_cellSpans (ps : List Prepared) (text : List Char) :
    Interval.Canonical (Interval.merge (cellSpans ps text)) := by
  apply Interval.canonical_merge
  intro span h
  obtain ⟨p, -, hspan⟩ := List.mem_flatMap.mp h
  exact ((p.matchText_isSpan text).1 span hspan).proper

theorem covers_merge_cellSpans : Interval.covers (Interval.merge (cellSpans ps text)) n = true ↔
    ∃ p ∈ ps, Interval.covers (p.matchText text) n = true := by
  rw [Interval.covers_merge]
  constructor
  · intro h
    obtain ⟨span, hmem, hcontains⟩ := Interval.covers_iff.mp h
    obtain ⟨p, hp, hspan⟩ := List.mem_flatMap.mp hmem
    exact ⟨p, hp, Interval.covers_iff.mpr ⟨span, hspan, hcontains⟩⟩
  · rintro ⟨p, hp, h⟩
    obtain ⟨span, hspan, hcontains⟩ := Interval.covers_iff.mp h
    exact Interval.covers_iff.mpr ⟨span, List.mem_flatMap.mpr ⟨p, hp, hspan⟩, hcontains⟩

theorem cellSpans_ne_nil : cellSpans ps text ≠ [] ↔ ∃ p ∈ ps, p.matchText text ≠ [] := by
  rw [Ne, cellSpans, List.flatMap_eq_nil_iff]
  push Not
  rfl

/-- The spans of one descriptor are merged already, so that every cell may be said to have the
merged spans of its descriptors. -/
theorem cellSpans_eq_merge (ps : List Prepared) (text : List Char) :
    (if ps.length > 1 then Interval.merge (cellSpans ps text) else cellSpans ps text) =
      Interval.merge (cellSpans ps text) := by
  split
  · rfl
  · rename_i hlen
    match ps, hlen with
    | [], _ => exact Interval.merge_nil.symm
    | [p], _ =>
      have hone : cellSpans [p] text = p.matchText text := by simp [cellSpans]
      rw [hone]
      exact (p.matchText_isSpan text).2.merge_eq.symm
    | p :: q :: rest, hlen => exact absurd hlen (by simp)

/-- Descriptors that are the same but for order and repetition have the same merged spans. -/
theorem merge_cellSpans_congr (h : ∀ p, p ∈ ps ↔ p ∈ qs) :
    Interval.merge (cellSpans ps text) = Interval.merge (cellSpans qs text) := by
  apply (canonical_merge_cellSpans ps text).eq_of_covers (canonical_merge_cellSpans qs text)
  intro n
  rw [Bool.eq_iff_iff, covers_merge_cellSpans, covers_merge_cellSpans]
  simp only [h]

end Spans

/-! ## One cell -/

/-- What a cell is reported with. -/
def cellResult (row : R) (i : Nat) (c : BoundColumn R) (text : String) (ps : List Prepared) :
    SearchResult K where
  key := rowKey row
  row := i
  column := c.id
  columnIndex := c.index
  text := text
  spans := Interval.merge (cellSpans ps text.toList)

theorem evaluateCell_eq_some_iff {entry : Nat × List Prepared} :
    evaluateCell columns row i entry = some r ↔
      ∃ c text, columns.columns[entry.1]? = some c ∧ c.extract row = some text ∧
        cellSpans entry.2 text.toList ≠ [] ∧ r = cellResult row i c text entry.2 := by
  constructor
  · intro h
    obtain ⟨c, text, hc, htext, hne, rfl⟩ := evaluateCell_eq_some h
    refine ⟨c, text, hc, htext, hne, ?_⟩
    rw [cellResult, ← cellSpans_eq_merge]
    rfl
  · rintro ⟨c, text, hc, htext, hne, rfl⟩
    have hspans : (entry.2.flatMap fun p => p.matchText text.toList).isEmpty = false := by
      simpa [cellSpans] using hne
    simp only [evaluateCell, hc, htext, hspans, Bool.false_eq_true, if_false, cellResult]
    rw [← cellSpans_eq_merge]
    rfl

theorem evaluateCell_congr {ps qs : List Prepared} (h : ∀ p, p ∈ ps ↔ p ∈ qs) :
    (evaluateCell columns row i (pos, ps) : Option (SearchResult K)) =
      evaluateCell columns row i (pos, qs) := by
  apply Option.ext
  intro r
  have hne : ∀ text, cellSpans ps text ≠ [] ↔ cellSpans qs text ≠ [] := by
    intro text
    simp only [cellSpans_ne_nil, h]
  simp only [evaluateCell_eq_some_iff, cellResult, hne, merge_cellSpans_congr h]

/-! ## All cells -/

theorem mem_toList_fullScan {plan : ScopePlan} :
    r ∈ (fullScan source columns plan).1.toList ↔
      ∃ i row, i < source.count ∧ source.row? i = some row ∧
        r ∈ evaluateRow columns plan row i := by
  simp only [toList_fullScan, resultsIn, List.mem_flatMap, List.mem_range'_1]
  constructor
  · rintro ⟨i, ⟨-, hlt⟩, hr⟩
    unfold resultsAt at hr
    cases hrow : source.row? i with
    | none =>
      rw [hrow] at hr
      cases hr
    | some row =>
      rw [hrow] at hr
      exact ⟨i, row, by simpa using hlt, hrow, hr⟩
  · rintro ⟨i, row, hlt, hrow, hr⟩
    refine ⟨i, ⟨Nat.zero_le i, by simpa using hlt⟩, ?_⟩
    simpa only [resultsAt, hrow] using hr

/-- The results of a scan are those of the cells in which a descriptor that searches the column
has a span. -/
theorem mem_fullScan {prepared : List Prepared} :
    r ∈ (fullScan source columns (.build columns prepared)).1.toList ↔
      ∃ i row pos c text, i < source.count ∧ source.row? i = some row ∧
        columns.columns[pos]? = some c ∧ c.extract row = some text ∧
        cellSpans (ScopePlan.forPosition columns prepared pos) text.toList ≠ [] ∧
        r = cellResult row i c text (ScopePlan.forPosition columns prepared pos) := by
  rw [mem_toList_fullScan]
  constructor
  · rintro ⟨i, row, hlt, hrow, hr⟩
    obtain ⟨⟨pos, ps⟩, hentry, hcell⟩ := List.mem_filterMap.mp hr
    obtain ⟨rfl, -⟩ := ScopePlan.mem_build_entries.mp hentry
    obtain ⟨c, text, hc, htext, hne, hresult⟩ := evaluateCell_eq_some_iff.mp hcell
    exact ⟨i, row, pos, c, text, hlt, hrow, hc, htext, hne, hresult⟩
  · rintro ⟨i, row, pos, c, text, hlt, hrow, hc, htext, hne, hresult⟩
    refine ⟨i, row, hlt, hrow, List.mem_filterMap.mpr ?_⟩
    refine ⟨(pos, ScopePlan.forPosition columns prepared pos), ?_, ?_⟩
    · refine ScopePlan.mem_build_entries.mpr ⟨rfl, ?_⟩
      intro hnil
      rw [hnil] at hne
      exact hne rfl
    · exact evaluateCell_eq_some_iff.mpr ⟨c, text, hc, htext, hne, hresult⟩

/-! ## Order and repetition of descriptors -/

section Congr

variable {prepared prepared' : List Prepared}

theorem forPosition_congr (h : ∀ p, p ∈ prepared ↔ p ∈ prepared') (p : Prepared) :
    p ∈ ScopePlan.forPosition columns prepared pos ↔
      p ∈ ScopePlan.forPosition columns prepared' pos := by
  simp only [ScopePlan.mem_forPosition, h]

/-- What a plan finds at a position, be it visited or not. -/
theorem evaluateRow_build (prepared : List Prepared) :
    (evaluateRow columns (.build columns prepared) row i : List (SearchResult K)) =
      (List.range columns.columns.length).filterMap fun pos =>
        evaluateCell columns row i (pos, ScopePlan.forPosition columns prepared pos) := by
  rw [evaluateRow, ScopePlan.build, List.filterMap_filterMap]
  apply List.filterMap_congr
  intro pos _
  cases hps : ScopePlan.forPosition columns prepared pos with
  | nil =>
    symm
    rw [Option.bind_none, Option.eq_none_iff_forall_not_mem]
    intro r hr
    obtain ⟨c, text, -, -, hne, -⟩ := evaluateCell_eq_some_iff.mp hr
    exact hne rfl
  | cons p ps => rfl

theorem evaluateRow_congr (h : ∀ p, p ∈ prepared ↔ p ∈ prepared') :
    (evaluateRow columns (.build columns prepared) row i : List (SearchResult K)) =
      evaluateRow columns (.build columns prepared') row i := by
  rw [evaluateRow_build, evaluateRow_build]
  apply List.filterMap_congr
  intro pos _
  exact evaluateCell_congr (forPosition_congr h)

theorem isEmpty_build_congr (h : ∀ p, p ∈ prepared ↔ p ∈ prepared') :
    (ScopePlan.build columns prepared).isEmpty = (ScopePlan.build columns prepared').isEmpty := by
  have hempty : ∀ prepared, (ScopePlan.build columns prepared).isEmpty = true ↔
      ∀ pos p, p ∉ ScopePlan.forPosition columns prepared pos := by
    intro prepared
    simp only [ScopePlan.isEmpty, List.isEmpty_iff, List.eq_nil_iff_forall_not_mem, Prod.forall,
      ScopePlan.mem_build_entries, not_and, not_not]
    constructor
    · intro hnone pos
      exact hnone pos _ rfl
    · rintro hnone pos ps rfl
      exact hnone pos
  rw [Bool.eq_iff_iff, hempty, hempty]
  simp only [forPosition_congr h]

/-- A scan depends on the set of its descriptors. -/
theorem fullScan_congr_prepared (h : ∀ p, p ∈ prepared ↔ p ∈ prepared') :
    (fullScan source columns (.build columns prepared) : ResultSet K × Nat) =
      fullScan source columns (.build columns prepared') := by
  simp only [fullScan, evaluateRows, isEmpty_build_congr h, evaluateRow_congr h]

end Congr

/-! ## Cells of the live columns -/

/-- The row and the live column at two places have a text that can be searched. -/
structure CellText (source : RowSource R) (live : List (Column R)) (i index : Nat) (row : R)
    (column : Column R) (text : String) : Prop where
  lt_count : i < source.count
  row_eq : source.row? i = some row
  column_eq : live[index]? = some column
  searchable : column.searchable = true
  extracts : ∃ accessor, column.accessor = some accessor ∧ accessor row = some text

section Cells

variable {policy : MissingAccessorPolicy} {live : List (Column R)} {index : Nat}
variable {column : Column R} {text : String} {descriptors : List Descriptor}

/-- A bound column gives the text of its live column. -/
theorem cellText_of_bound (hbind : ColumnSet.bind policy live = .ok columns) {c : BoundColumn R}
    (hlt : i < source.count) (hrow : source.row? i = some row)
    (hc : columns.columns[pos]? = some c) (htext : c.extract row = some text) :
    ∃ column, CellText source live i c.index row column text ∧ c.id = column.id := by
  have hmem : c ∈ ColumnSet.boundFrom 0 live := by
    have hcolumns := ColumnSet.bind_eq_ok hbind
    rw [hcolumns] at hc
    exact List.mem_of_getElem? hc
  obtain ⟨k, column, accessor, hlive, hs, ha, rfl⟩ := ColumnSet.mem_boundFrom.mp hmem
  refine ⟨column, ⟨hlt, hrow, ?_, hs, accessor, ha, htext⟩, rfl⟩
  simpa using hlive

/-- A cell with a text belongs to a bound column. -/
theorem CellText.exists_bound (h : CellText source live i index row column text)
    (hbind : ColumnSet.bind policy live = .ok columns) :
    ∃ (pos : Nat) (c : BoundColumn R), columns.columns[pos]? = some c ∧ c.index = index ∧
      c.extract row = some text := by
  obtain ⟨accessor, haccessor, htext⟩ := h.extracts
  have hmem : (⟨column.id, 0 + index, column.visible, accessor⟩ : BoundColumn R) ∈
      columns.columns := by
    rw [ColumnSet.bind_eq_ok hbind]
    exact ColumnSet.mem_boundFrom.mpr
      ⟨index, column, accessor, h.column_eq, h.searchable, haccessor, rfl⟩
  obtain ⟨pos, hpos⟩ := List.mem_iff_getElem?.mp hmem
  exact ⟨pos, _, hpos, Nat.zero_add index, htext⟩

/-- The descriptors of a column are those whose scope selects it. -/
theorem exists_mem_forPosition (hbind : ColumnSet.bind policy live = .ok columns)
    {c : BoundColumn R} (hc : columns.columns[pos]? = some c) (P : Prepared → Prop) :
    (∃ p ∈ ScopePlan.forPosition columns (descriptors.map .ofDescriptor) pos, P p) ↔
      ∃ d ∈ descriptors, columns.Selects d.scope c.index ∧ P (.ofDescriptor d) := by
  simp only [ScopePlan.mem_forPosition, List.mem_map, ColumnSet.selects_index hbind hc]
  constructor
  · rintro ⟨p, ⟨⟨d, hd, rfl⟩, hscope⟩, hp⟩
    exact ⟨d, hd, hscope, hp⟩
  · rintro ⟨d, hd, hscope, hp⟩
    exact ⟨_, ⟨⟨d, hd, rfl⟩, hscope⟩, hp⟩

/-- A scan reports a cell if and only if the cell has a text in which some descriptor that selects
the column has a span. A result carries the key of its row, the name and the place of its live
column and the text; its spans cover what the descriptors that select the column cover, and
between any two lies a byte that is in neither. Descriptors in another order, or some of them
again, give the same scan. -/
theorem fullScan_reports_matching_cells (hbind : ColumnSet.bind policy live = .ok columns)
    (descriptors : List Descriptor) (source : RowSource R) :
    let scan (ds : List Descriptor) : ResultSet K × Nat :=
      fullScan source columns (.build columns (ds.map .ofDescriptor))
    (∀ i index, (∃ r ∈ (scan descriptors).1.toList, r.row = i ∧ r.columnIndex = index) ↔
      ∃ row column text, CellText source live i index row column text ∧
        ∃ d ∈ descriptors, columns.Selects d.scope index ∧
          (Prepared.ofDescriptor d).matchText text.toList ≠ []) ∧
    (∀ r ∈ (scan descriptors).1.toList, ∃ row column,
      CellText source live r.row r.columnIndex row column r.text ∧
      r.key = rowKey row ∧ r.column = column.id ∧
      (∀ n, Interval.covers r.spans n = true ↔
        ∃ d ∈ descriptors, columns.Selects d.scope r.columnIndex ∧
          Interval.covers ((Prepared.ofDescriptor d).matchText r.text.toList) n = true) ∧
      Interval.Canonical r.spans) ∧
    ∀ others, (∀ d, d ∈ others ↔ d ∈ descriptors) → scan others = scan descriptors := by
  intro scan
  refine ⟨?_, ?_, ?_⟩
  · intro i index
    constructor
    · rintro ⟨r, hr, rfl, rfl⟩
      -- from the place among the bound columns to the place among the live ones
      obtain ⟨i, row, pos, c, text, hlt, hrow, hc, htext, hne, rfl⟩ := mem_fullScan.mp hr
      obtain ⟨column, hcell, -⟩ := cellText_of_bound hbind hlt hrow hc htext
      refine ⟨row, column, text, hcell, ?_⟩
      exact (exists_mem_forPosition hbind hc _).mp (cellSpans_ne_nil.mp hne)
    · rintro ⟨row, column, text, hcell, hmatch⟩
      obtain ⟨pos, c, hc, rfl, htext⟩ := hcell.exists_bound hbind
      have hne := cellSpans_ne_nil.mpr ((exists_mem_forPosition hbind hc _).mpr hmatch)
      exact ⟨_, mem_fullScan.mpr
        ⟨i, row, pos, c, text, hcell.lt_count, hcell.row_eq, hc, htext, hne, rfl⟩, rfl, rfl⟩
  · intro r hr
    obtain ⟨i, row, pos, c, text, hlt, hrow, hc, htext, -, rfl⟩ := mem_fullScan.mp hr
    obtain ⟨column, hcell, hid⟩ := cellText_of_bound hbind hlt hrow hc htext
    refine ⟨row, column, hcell, rfl, hid, ?_, ?_⟩
    · intro n
      exact covers_merge_cellSpans.trans (exists_mem_forPosition hbind hc _)
    · exact canonical_merge_cellSpans _ _
  · intro others hothers
    apply fullScan_congr_prepared
    intro p
    simp only [List.mem_map, hothers]

/-- Three columns, of which the last alone can be searched, and two descriptors that meet in it. -/
theorem fullScan_reports_last_column :
    let live : List (Column String) :=
      [{ id := "a", searchable := false, accessor := some some }, { id := "b" },
        { id := "c", accessor := some some }]
    let columns : ColumnSet String := ⟨[⟨"c", 2, true, some⟩], [⟨"b", 1⟩]⟩
    let descriptors : List Descriptor :=
      [{ query := "ab" }, { query := "bc", scope := .explicitColumns ["c"] }]
    ColumnSet.bind .ignore live = .ok columns ∧
    (∃ r ∈ (fullScan (RowSource.ofList ["xabc"]) columns
        (.build columns (descriptors.map .ofDescriptor))).1.toList,
      r.row = 0 ∧ r.columnIndex = 2) := by
  intro live columns descriptors
  have hbind : ColumnSet.bind .ignore live = .ok columns := rfl
  have hspans : (Prepared.ofDescriptor { query := "ab" }).matchText "xabc".toList = [⟨1, 3⟩] := by
    cbv
  have hscan := fullScan_reports_matching_cells hbind descriptors (RowSource.ofList ["xabc"])
  refine ⟨hbind, (hscan.1 0 2).mpr ?_⟩
  refine ⟨"xabc", { id := "c", accessor := some some }, "xabc", ?_, { query := "ab" }, ?_, ?_, ?_⟩
  · exact ⟨by decide, rfl, rfl, rfl, some, rfl, rfl⟩
  · exact List.mem_cons_self
  · exact ⟨0, by decide, _, rfl, rfl⟩
  · rw [hspans]
    exact List.cons_ne_nil _ _

end Cells

end CellSearch
