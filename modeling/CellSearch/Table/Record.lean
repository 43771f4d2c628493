/-!
# Records

A record is a line of cells with a delimiter between them. A cell that holds the delimiter is
written in quotes, and a quote inside quotes is written twice. A quote opens a quoted cell only
where the cell begins; text after the closing quote still belongs to the cell.
-/

namespace CellSearch.Record

/-- The cells in the rest of a record. `cell` is what the cell at hand holds so far, and
`quoted` whether its quote is open. -/
def splitFrom (delimiter : Char) : (quoted : Bool) → (cell : List Char) → List Char →
    List (List Char)
  | _, cell, [] => [cell]
  | true, cell, '"' :: '"' :: rest => splitFrom delimiter true (cell ++ ['"']) rest
  | true, cell, c :: rest =>
    if c = '"' then splitFrom delimiter false cell rest
    else splitFrom delimiter true (cell ++ [c]) rest
  | false, cell, c :: rest =>
    if c = '"' ∧ cell = [] then splitFrom delimiter true cell rest
    else if c = delimiter then cell :: splitFrom delimiter false [] rest
    else splitFrom delimiter false (cell ++ [c]) rest

/-- The cells of a record. -/
def split (delimiter : Char) (line : List Char) : List (List Char) :=
  splitFrom delimiter false [] line

/-! ## Lines -/

/-- The lines of a text, without the line feed that ends them. There is no line after the last
line feed. -/
def lines : List Char → List (List Char)
  | [] => []
  | c :: rest =>
    if c = '\n' then [] :: lines rest
    else
      match lines rest with
      | [] => [[c]]
      | line :: more => (c :: line) :: more

/-- A line without the carriage returns at its end. -/
def trimReturns (line : List Char) : List Char :=
  (line.reverse.dropWhile (· == '\r')).reverse

end CellSearch.Record
