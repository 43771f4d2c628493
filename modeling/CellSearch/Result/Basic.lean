import CellSearch.Interval
import CellSearch.Text.Bytes

/-!
# Results

A result is a cell that matches, with the spans of its text that do.
-/

namespace CellSearch

/-- All matches of the applied descriptors inside one cell. -/
structure SearchResult (K : Type) where
  key : K
  row : Nat
  column : String
  columnIndex : Nat
  text : String
  spans : List Interval
deriving DecidableEq, Repr, Inhabited

namespace SearchResult

variable {K : Type}

/-- The text under the span with index `i`, if there is one and it lies in the text. -/
def matchedText (r : SearchResult K) (i : Nat) : Option String :=
  match r.spans[i]? with
  | none => none
  | some s => (Text.slice? r.text.toList s.start s.stop).map String.ofList

/-- Whether a byte of the text is inside a span. -/
def containsOffset (r : SearchResult K) (offset : Nat) : Bool :=
  Interval.covers r.spans offset

/-- The result with its row moved up by `count`. -/
def raise (count : Nat) (r : SearchResult K) : SearchResult K :=
  { r with row := r.row + count }

/-- The result with its row moved down by `count`. -/
def lower (count : Nat) (r : SearchResult K) : SearchResult K :=
  { r with row := r.row - count }

end SearchResult

end CellSearch
