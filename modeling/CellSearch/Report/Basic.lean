import CellSearch.Document.Encode
import CellSearch.Json.Write
import CellSearch.Report.Style
import CellSearch.Result.Basic
import CellSearch.Text.Bytes

/-!
# Reports

The results of a search are reported as text, a line for every cell with the matches set off, or
as a JSON document.
-/

namespace CellSearch.Report

variable {K : Type}

/-! ## Text -/

/-- A text with its spans in a style. `offset` is where the text begins. Spans that are not in
order, or do not cut the text between characters, have no report. -/
def highlight (color : Bool) (offset : Nat) (text : List Char) :
    List Interval → Option (List Char)
  | [] => some text
  | span :: rest =>
    if offset ≤ span.start ∧ span.start ≤ span.stop then
      match Text.splitAt? text (span.start - offset) with
      | none => none
      | some (before, text) =>
        match Text.splitAt? text span.len with
        | none => none
        | some (inside, text) =>
          (highlight color span.stop text rest).map fun tail =>
            before ++ Style.found.paint color inside ++ tail
    else none

/-- The line of a result: its row, its column and its text. -/
def line (color : Bool) (r : SearchResult K) : Option (List Char) :=
  (highlight color 0 r.text.toList r.spans).map fun text =>
    "→ ".toList ++ Style.found.paint color (toString r.row).toList ++ " │ ".toList ++
      Style.faint.paint color r.column.toList ++ " │ ".toList ++ text

/-- The line that counts the matches and the cells. -/
def countLine (color : Bool) (results : List (SearchResult K)) : List Char :=
  let spans := (results.flatMap fun r => r.spans).length
  Style.heading.paint color "Found".toList ++ ' ' :: (toString spans).toList ++
    " match(es) in ".toList ++ (toString results.length).toList ++ " cell(s):".toList

/-- The report of results as text. -/
def text (color : Bool) (results : List (SearchResult K)) : Option (List Char) :=
  if results.isEmpty then some (Style.notice.paint color "No matches found".toList)
  else
    (results.mapM (line color)).map fun lines =>
      countLine color results ++ lines.flatMap fun l => '\n' :: l

/-! ## JSON -/

/-- The report of results as a document: the query, how many rows were searched, and the
results. -/
def document (keyNumber : K → Int) (query : String) (rows : Nat)
    (results : List (SearchResult K)) : Document :=
  .table [
    ("query", .text query),
    ("results", .list (results.map (SearchResult.toDocument keyNumber))),
    ("rows_searched", .integer rows),
    ("total_results", .integer results.length)]

/-- The report of results as JSON. -/
def json (keyNumber : K → Int) (query : String) (rows : Nat)
    (results : List (SearchResult K)) : List Char :=
  Json.write (document keyNumber query rows results)

end CellSearch.Report
