import CellSearch.Document.Basic
import CellSearch.Toml.Text

/-!
# Writing TOML

A table is written with its plain entries first, one a line, and then its tables, each under a
header. Values are truth values, whole numbers of 64 bits and texts that need no escape; a
document with any other value, or with a table inside a table of the file, has no written form.
-/

namespace CellSearch.Toml

/-- Whether a character stands for itself between quotes. -/
def isPlainChar (c : Char) : Bool :=
  isTextChar c && c != '"' && c != '\\'

/-- Whether a document is a table. -/
def isTable : Document → Bool
  | .table _ => true
  | _ => false

/-- Whether a whole number has at most 64 bits with its sign. -/
def isWritable (n : Int) : Bool :=
  -0x8000000000000000 ≤ n && n < 0x8000000000000000

/-- The written form of a value. -/
def writeValue? : Document → Option (List Char)
  | .bool b => some (toString b).toList
  | .integer n => if isWritable n then some (toString n).toList else none
  | .text s => if s.toList.all isPlainChar then some ('"' :: s.toList ++ ['"']) else none
  | _ => none

/-- The line of an entry. -/
def writeEntry? (entry : String × Document) : Option (List Char) :=
  (writeValue? entry.2).map fun value => entry.1.toList ++ " = ".toList ++ value ++ ['\n']

/-- The lines of the entries of a table. -/
def writeEntries? (entries : List (String × Document)) : Option (List Char) :=
  (entries.mapM writeEntry?).map List.flatten

/-- The lines of a table with its header. -/
def writeTable? (entry : String × Document) : Option (List Char) :=
  match entry.2 with
  | .table entries =>
    (writeEntries? entries).map fun lines =>
      "\n[".toList ++ entry.1.toList ++ "]\n".toList ++ lines
  | _ => none

/-- The written form of a file. -/
def write? : Document → Option (List Char)
  | .table entries => do
    let top ← writeEntries? (entries.filter fun e => !isTable e.2)
    let tables ← (entries.filter fun e => isTable e.2).mapM writeTable?
    return top ++ tables.flatten
  | _ => none

end CellSearch.Toml
