/-!
# Row sources

A row source is the table as the search sees it: so many rows, each with a key that stays when
its cells change.
-/

namespace CellSearch

/-- Rows that have a key. -/
class SearchRow (R : Type) (K : outParam Type) where
  rowKey : R → K

export SearchRow (rowKey)

instance : SearchRow String String := ⟨id⟩

/-- The rows of a table in their present order. -/
structure RowSource (R : Type) where
  count : Nat
  row? : Nat → Option R

/-- Where a key is found. -/
inductive RowLocation where
  | unique (index : Nat)
  | missing
  | ambiguous
deriving DecidableEq, Repr, Inhabited

namespace RowSource

variable {R K : Type} [SearchRow R K]

/-- The source of a list of rows. -/
def ofList (rows : List R) : RowSource R := ⟨rows.length, fun i => rows[i]?⟩

/-- The places of the rows with a key. -/
def places [BEq K] (source : RowSource R) (key : K) : List Nat :=
  (List.range source.count).filter fun i => (source.row? i).any fun r => rowKey r == key

/-- Where the row with a key is, if it is the only one. -/
def locate [BEq K] (source : RowSource R) (key : K) : RowLocation :=
  match source.places key with
  | [] => .missing
  | [i] => .unique i
  | _ => .ambiguous

end RowSource

end CellSearch
