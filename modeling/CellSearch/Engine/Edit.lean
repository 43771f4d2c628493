import CellSearch.Interval

/-!
# Edits of a table

The owner of a table reports every structural edit in the coordinates that the table had at
the time. Reports are queued until the next flush. Some queues cannot be replayed, and then the
table is scanned again for a stated reason.
-/

namespace CellSearch

/-- A structural edit of a table. -/
inductive CollectionChange where
  | add (start count : Nat)
  | remove (start count : Nat)
  | replace (start removed added : Nat)
  | move (source target count : Nat)
  | reset
deriving DecidableEq, Repr, Inhabited

/-- A report that waits for the next flush. -/
inductive PendingEdit (K : Type) where
  | collection (change : CollectionChange)
  | itemChanged (key : K)
  /-- Stands for a queue that grew too long. -/
  | overflow
deriving DecidableEq, Repr, Inhabited

namespace PendingEdit

variable {K : Type}

/-- Whether nothing after the report matters, since it forces a scan. -/
def isTerminal : PendingEdit K → Bool
  | collection .reset => true
  | overflow => true
  | _ => false

end PendingEdit

/-- Why a table was scanned again. -/
inductive FallbackReason where
  | noBaseline
  | descriptorsChanged
  | columnsChanged
  | reset
  | move
  | outOfRange (start count rows : Nat)
  | rowCountMismatch (expected actual : Nat)
  | ambiguousItem
  | backlogOverflow
deriving DecidableEq, Repr, Inhabited

namespace FallbackReason

/-- The reason in words. -/
def message : FallbackReason → String
  | noBaseline => "no baseline result set"
  | descriptorsChanged => "descriptor set changed"
  | columnsChanged => "column layout changed"
  | reset => "collection reset"
  | move => "move edits are not tracked"
  | outOfRange start count rows =>
    "edit [" ++ toString start ++ ", " ++ toString start ++ "+" ++ toString count ++
      ") outside " ++ toString rows ++ " rows"
  | rowCountMismatch expected actual =>
    "edits imply " ++ toString expected ++ " rows but source has " ++ toString actual
  | ambiguousItem => "changed item occurs more than once"
  | backlogOverflow => "too many pending edits"

end FallbackReason

/-- The number of rows after an edit of a table with `rows` rows, if the edit can be
replayed. -/
def CollectionChange.rowsAfter (change : CollectionChange) (rows : Nat) :
    Except FallbackReason Nat :=
  match change with
  | add start count =>
    if start ≤ rows then .ok (rows + count) else .error (.outOfRange start count rows)
  | remove start count =>
    if start + count ≤ rows then .ok (rows - count) else .error (.outOfRange start count rows)
  | replace start removed added =>
    if start + removed ≤ rows then .ok (rows - removed + added)
    else .error (.outOfRange start removed rows)
  | move _ _ _ => .error .move
  | reset => .error .reset

end CellSearch
