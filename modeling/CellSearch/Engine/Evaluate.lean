import CellSearch.Column.Binding
import CellSearch.Query.Match
import CellSearch.Result.Set
import CellSearch.RowSource

/-!
# Evaluating rows

A row is matched against every column of a plan. The descriptors of a column contribute to one
result, so that a cell is reported once.
-/

namespace CellSearch

variable {R K : Type} [SearchRow R K]

/-- The result of one column in a row, if it matches. -/
def evaluateCell (columns : ColumnSet R) (row : R) (index : Nat) (entry : Nat × List Prepared) :
    Option (SearchResult K) :=
  match columns.columns[entry.1]? with
  | none => none
  | some column =>
    match column.extract row with
    | none => none
    | some text =>
      let spans := entry.2.flatMap fun p => p.matchText text.toList
      if spans.isEmpty then none
      else
        some {
          key := rowKey row
          row := index
          column := column.id
          columnIndex := column.index
          text := text
          spans := if entry.2.length > 1 then Interval.merge spans else spans }

/-- The results of a row, in the order of the columns. -/
def evaluateRow (columns : ColumnSet R) (plan : ScopePlan) (row : R) (index : Nat) :
    List (SearchResult K) :=
  plan.entries.filterMap (evaluateCell columns row index)

/-- The rows of a source in an interval, each with its place. -/
def rowsIn (source : RowSource R) (rows : Interval) : List (R × Nat) :=
  (List.range' rows.start rows.len).filterMap fun i => (source.row? i).map fun r => (r, i)

/-- The results of the rows in an interval, and how many rows were evaluated. A plan that
searches no column evaluates none. -/
def evaluateRows (source : RowSource R) (columns : ColumnSet R) (plan : ScopePlan)
    (rows : Interval) : List (SearchResult K) × Nat :=
  if plan.isEmpty then ([], 0)
  else
    let found := rowsIn source rows
    (found.flatMap fun (row, i) => evaluateRow columns plan row i, found.length)

/-- The results of every row, and how many rows were evaluated. -/
def fullScan (source : RowSource R) (columns : ColumnSet R) (plan : ScopePlan) :
    ResultSet K × Nat :=
  let (results, evaluated) := evaluateRows source columns plan ⟨0, source.count⟩
  (.ofList results, evaluated)

end CellSearch
