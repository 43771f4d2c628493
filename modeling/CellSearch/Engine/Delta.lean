import CellSearch.Engine.DirtyRows
import CellSearch.Engine.Edit
import CellSearch.Engine.Evaluate

/-!
# Deltas

A delta is a queue of reports that has been checked against the number of rows before and the
table after. It is replayed on the results of the table before: results move with their rows,
and only rows that are new or changed are evaluated.
-/

namespace CellSearch

/-- An edit that has been checked. -/
inductive RowEdit where
  | insert (start count : Nat)
  | delete (start count : Nat)
deriving DecidableEq, Repr, Inhabited

/-- The insertions and deletions that make up a change. -/
def CollectionChange.rowEdits : CollectionChange → List RowEdit
  | add start count => [.insert start count]
  | remove start count => [.delete start count]
  | replace start removed added => [.delete start removed, .insert start added]
  | move _ _ _ => []
  | reset => []

/-- Checked edits, and the rows whose cells changed. -/
structure DeltaPlan where
  edits : List RowEdit
  changedRows : List Nat
deriving DecidableEq, Repr, Inhabited

namespace DeltaPlan

variable {R K : Type} [SearchRow R K]

/-! ## Checking -/

/-- Check a queue, given the number of rows before it. The answer is a plan and the number of
rows after. -/
def collect [BEq K] (source : RowSource R) (rows : Nat) :
    List (PendingEdit K) → Except FallbackReason (DeltaPlan × Nat)
  | [] => .ok (⟨[], []⟩, rows)
  | .collection change :: rest =>
    match change.rowsAfter rows with
    | .error reason => .error reason
    | .ok rows =>
      (collect source rows rest).map fun (plan, rows) =>
        ({ plan with edits := change.rowEdits ++ plan.edits }, rows)
  | .itemChanged key :: rest =>
    match source.locate key with
    | .ambiguous => .error .ambiguousItem
    | .missing => collect source rows rest
    | .unique row =>
      (collect source rows rest).map fun (plan, rows) =>
        ({ plan with changedRows := row :: plan.changedRows }, rows)
  | .overflow :: _ => .error .backlogOverflow

/-- Check a queue against the number of rows before it and the table after it. -/
def validate [BEq K] (pending : List (PendingEdit K)) (baseline : Nat) (source : RowSource R) :
    Except FallbackReason DeltaPlan :=
  match collect source baseline pending with
  | .error reason => .error reason
  | .ok (plan, rows) =>
    if rows = source.count then .ok plan
    else .error (.rowCountMismatch rows source.count)

/-- How many edits the plan makes. -/
def size (plan : DeltaPlan) : Nat := plan.edits.length + plan.changedRows.length

/-! ## Replaying -/

/-- The dirty rows after the edits and the marks of the plan. -/
def dirtyRows (plan : DeltaPlan) : DirtyRows :=
  let edited := plan.edits.foldl (fun d edit =>
    match edit with
    | .insert start count => d.insert start count
    | .delete start count => d.remove start count) DirtyRows.empty
  plan.changedRows.foldl (fun d row => d.mark ⟨row, row + 1⟩) edited

/-- The results after the edits of the plan. -/
def movedResults (plan : DeltaPlan) (results : ResultSet K) : ResultSet K :=
  plan.edits.foldl (fun s edit =>
    match edit with
    | .insert start count => s.insertRows start count
    | .delete start count => (s.removeRows start count).1) results

/-- What a replay yields: the results, how many rows it evaluated, and how many results were
found in them. -/
structure Applied (K : Type) where
  results : ResultSet K
  rowsEvaluated : Nat
  resultsEmitted : Nat
deriving DecidableEq, Repr, Inhabited

/-- Evaluate the rows of an interval and put their results in place. -/
def refreshRows (source : RowSource R) (columns : ColumnSet R) (scope : ScopePlan)
    (a : Applied K) (rows : Interval) : Applied K :=
  let (fresh, evaluated) := evaluateRows source columns scope rows
  ⟨a.results.spliceRows rows fresh, a.rowsEvaluated + evaluated,
    a.resultsEmitted + fresh.length⟩

/-- Replay the plan on the results of the table before. -/
def apply (plan : DeltaPlan) (results : ResultSet K) (source : RowSource R)
    (columns : ColumnSet R) (scope : ScopePlan) : Applied K :=
  plan.dirtyRows.ranges.foldl (refreshRows source columns scope)
    ⟨plan.movedResults results, 0, 0⟩

end DeltaPlan

end CellSearch
