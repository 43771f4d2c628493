import CellSearch.Document.Basic

/-!
# Writing JSON

A document is written over several lines, with two spaces for every level. An empty list or
table stays on its line. Only what must be escaped in a text is escaped.
-/

namespace CellSearch.Json

/-! ## Texts -/

/-- A character inside quotes. -/
def quoteChar (c : Char) : List Char :=
  match c with
  | '"' => ['\\', '"']
  | '\\' => ['\\', '\\']
  | '\x08' => ['\\', 'b']
  | '\x0c' => ['\\', 'f']
  | '\n' => ['\\', 'n']
  | '\r' => ['\\', 'r']
  | '\t' => ['\\', 't']
  | c =>
    if c.toNat < 0x20 then
      ['\\', 'u', '0', '0', (c.toNat / 16).digitChar, (c.toNat % 16).digitChar]
    else [c]

/-- A text in quotes. -/
def quote (cs : List Char) : List Char :=
  '"' :: cs.flatMap quoteChar ++ ['"']

/-! ## Documents -/

/-- A line end and the blanks before what stands at a level. -/
def newLine (level : Nat) : List Char :=
  '\n' :: List.replicate (2 * level) ' '

mutual

/-- The written form of a document at a level. What is no JSON value is written as a null. -/
def writeAt (level : Nat) : Document → List Char
  | .null => "null".toList
  | .scalar => "null".toList
  | .bool b => (toString b).toList
  | .integer n => (toString n).toList
  | .text s => quote s.toList
  | .list [] => "[]".toList
  | .list (d :: rest) =>
    '[' :: newLine (level + 1) ++ writeAt (level + 1) d ++ writeItems (level + 1) rest ++
      newLine level ++ [']']
  | .table [] => ['\x7b', '\x7d']
  | .table ((name, d) :: rest) =>
    '\x7b' :: newLine (level + 1) ++ quote name.toList ++ ": ".toList ++
      writeAt (level + 1) d ++ writeEntries (level + 1) rest ++ newLine level ++ ['\x7d']

/-- The written form of the items of a list after the first. -/
def writeItems (level : Nat) : List Document → List Char
  | [] => []
  | d :: rest => ',' :: newLine level ++ writeAt level d ++ writeItems level rest

/-- The written form of the entries of a table after the first. -/
def writeEntries (level : Nat) : List (String × Document) → List Char
  | [] => []
  | (name, d) :: rest =>
    ',' :: newLine level ++ quote name.toList ++ ": ".toList ++ writeAt level d ++
      writeEntries level rest

end

/-- The written form of a document. -/
def write (d : Document) : List Char := writeAt 0 d

end CellSearch.Json
