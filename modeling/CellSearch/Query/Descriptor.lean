import CellSearch.Text.Normalize

/-!
# Descriptors

A descriptor says what to search for, how to compare it with a cell, and in which columns.
Two descriptors with the same fields are the same request.
-/

namespace CellSearch

/-- How the query is compared with a cell. -/
inductive MatchMode where
  | contains
  | startsWith
  | endsWith
  | equals
  | wildcard
  | regex
deriving DecidableEq, Repr, Inhabited

namespace MatchMode

/-- The modes, in the order in which they are listed. -/
def all : List MatchMode := [contains, startsWith, endsWith, equals, wildcard, regex]

/-- The name of a mode. -/
def name : MatchMode → String
  | contains => "contains"
  | startsWith => "starts-with"
  | endsWith => "ends-with"
  | equals => "equals"
  | wildcard => "wildcard"
  | regex => "regex"

/-- The mode of a name. -/
def ofName? (name : String) : Option MatchMode :=
  all.find? fun m => m.name == name

/-- Whether the query is a pattern and not a list of terms. -/
def isPattern : MatchMode → Bool
  | wildcard | regex => true
  | _ => false

end MatchMode

/-- How the terms of a query combine. -/
inductive TermMode where
  | any
  | all
deriving DecidableEq, Repr, Inhabited

namespace TermMode

/-- The name of a term mode. -/
def name : TermMode → String
  | any => "any"
  | all => "all"

/-- The term mode of a name. -/
def ofName? (name : String) : Option TermMode :=
  [any, all].find? fun m => m.name == name

end TermMode

/-- Whether upper and lower case differ. -/
inductive CaseSensitivity where
  | sensitive
  | insensitive
deriving DecidableEq, Repr

instance : Inhabited CaseSensitivity := ⟨.insensitive⟩

namespace CaseSensitivity

/-- The name of a case rule. -/
def name : CaseSensitivity → String
  | sensitive => "sensitive"
  | insensitive => "insensitive"

/-- The case rule of a name. -/
def ofName? (name : String) : Option CaseSensitivity :=
  [sensitive, insensitive].find? fun c => c.name == name

end CaseSensitivity

/-- The columns that a descriptor searches. -/
inductive ColumnScope where
  | allColumns
  | visibleColumns
  | explicitColumns (ids : List String)
deriving DecidableEq, Repr, Inhabited

/-- A request to search. The culture is part of the request but does not change what matches. -/
structure Descriptor where
  query : String := ""
  mode : MatchMode := .contains
  termMode : TermMode := .any
  scope : ColumnScope := .allColumns
  case : CaseSensitivity := .insensitive
  culture : Option String := none
  wholeWord : Bool := false
  normalizeWhiteSpace : Bool := false
  ignoreDiacritics : Bool := false
  allowEmpty : Bool := false
deriving DecidableEq, Repr, Inhabited

namespace Descriptor

/-- The descriptor that searches every column for a query in the default way. -/
def ofQuery (query : String) : Descriptor := { query }

/-- Whether upper and lower case differ. -/
def isCaseSensitive (d : Descriptor) : Bool :=
  d.case == .sensitive

/-- How the query and the cells are normalized. Patterns see the case of the text. -/
def normalizeOptions (d : Descriptor) : Text.NormalizeOptions where
  collapseWhiteSpace := d.normalizeWhiteSpace
  stripDiacritics := d.ignoreDiacritics
  foldCase := !d.isCaseSensitive && !d.mode.isPattern

end Descriptor

end CellSearch
