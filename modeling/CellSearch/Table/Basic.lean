import CellSearch.Column.Basic
import CellSearch.Error
import CellSearch.RowSource
import CellSearch.Table.Record

/-!
# Delimited tables

The first line of a table that is not blank holds the names of the columns; every later one is
a row. Blank lines do not count as rows but are counted as lines, and a row is known by the
number of its line.
-/

namespace CellSearch

/-- A row with the number of its line, from one. -/
structure TableRow where
  line : Nat
  cells : List String
deriving DecidableEq, Repr, Inhabited

instance : SearchRow TableRow Nat := ⟨TableRow.line⟩

/-- A table. -/
structure Table where
  headers : List String
  rows : List TableRow
deriving DecidableEq, Repr, Inhabited

namespace Table

/-- The lines that are not blank, each with its number from `line` on. -/
def numberedLines (line : Nat) : List (List Char) → List (Nat × List Char)
  | [] => []
  | text :: rest =>
    match Record.trimReturns text with
    | [] => numberedLines (line + 1) rest
    | trimmed => (line, trimmed) :: numberedLines (line + 1) rest

/-- The cells of a line. -/
def cells (delimiter : Char) (line : List Char) : List String :=
  (Record.split delimiter line).map String.ofList

/-- Why a text without lines is no table. -/
def missingHeader : String := "missing header line"

/-- Read a table. -/
def parse (content : List Char) (delimiter : Char) : Except String Table :=
  match numberedLines 1 (Record.lines content) with
  | [] => .error missingHeader
  | (_, header) :: rest =>
    .ok ⟨cells delimiter header, rest.map fun (line, text) => ⟨line, cells delimiter text⟩⟩

/-- The table of the file at a path, given its text or why it cannot be read. -/
def load (path : String) (text : Except String String) (delimiter : Char) :
    Except SearchError Table :=
  match text with
  | .error detail => .error (.io detail)
  | .ok text => (parse text.toList delimiter).mapError (.invalidTable path)

/-- The column of a header. -/
def column (hidden : List String) (header : String × Nat) : Column TableRow where
  id := header.1
  visible := !hidden.contains header.1
  accessor := some fun row => row.cells[header.2]?

/-- A column for every header; those named in `hidden` are not visible. -/
def columns (t : Table) (hidden : List String) : List (Column TableRow) :=
  t.headers.zipIdx.map (column hidden)

end Table

end CellSearch
