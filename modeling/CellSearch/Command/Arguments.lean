import CellSearch.Config.Basic
import CellSearch.Error

/-!
# Arguments

What the command is asked to do: a file, a query, and options. Options that are left out take
their values from the configuration.
-/

namespace CellSearch.Command

/-- How results are printed. -/
inductive OutputFormat where
  | text
  | json
deriving DecidableEq, Repr, Inhabited

namespace OutputFormat

/-- The name of a format. -/
def name : OutputFormat → String
  | text => "text"
  | json => "json"

/-- The format of a name. -/
def ofName? (name : String) : Option OutputFormat :=
  [text, json].find? fun f => f.name == name

end OutputFormat

/-- The kind of scope that is asked for. -/
inductive ScopeChoice where
  | all
  | visible
  | explicit
deriving DecidableEq, Repr, Inhabited

namespace ScopeChoice

/-- The name of a kind of scope. -/
def name : ScopeChoice → String
  | all => "all"
  | visible => "visible"
  | explicit => "explicit"

/-- The kind of scope of a name. -/
def ofName? (name : String) : Option ScopeChoice :=
  [all, visible, explicit].find? fun s => s.name == name

end ScopeChoice

/-- The arguments of the command. -/
structure Arguments where
  file : String
  query : String := ""
  mode : Option MatchMode := none
  allTerms : Bool := false
  scope : Option ScopeChoice := none
  columns : Option (List String) := none
  /-- The columns that are not visible. -/
  hidden : Option (List String) := none
  caseSensitive : Bool := false
  wholeWord : Bool := false
  normalizeWhiteSpace : Bool := false
  ignoreDiacritics : Bool := false
  allowEmpty : Bool := false
  delimiter : String := ","
  format : OutputFormat := .text
  verbose : Bool := false
  log : Option String := none
  metrics : Bool := false
  config : Option String := none
deriving DecidableEq, Repr, Inhabited

namespace Arguments

/-- The delimiter: a single character, or a tab by one of its names. -/
def delimiterChar (a : Arguments) : Except SearchError Char :=
  if a.delimiter = "\\t" ∨ a.delimiter = "tab" then .ok '\t'
  else
    match a.delimiter.toList with
    | [c] => .ok c
    | _ =>
      .error (.other
        ("Delimiter must be a single character, got " ++ Text.quote a.delimiter))

/-- The scope: the columns that are named, unless another kind of scope is asked for. -/
def columnScope (a : Arguments) : Except SearchError ColumnScope :=
  match a.scope, a.columns with
  | some .all, _ => .ok .allColumns
  | some .visible, _ => .ok .visibleColumns
  | _, some ids => .ok (.explicitColumns ids)
  | some .explicit, none => .error (.other "--scope explicit needs --columns")
  | none, none => .ok .allColumns

/-- The descriptor that the arguments ask for. A flag can be set by the arguments or by the
configuration. -/
def descriptor (a : Arguments) (defaults : DescriptorDefaults) : Except SearchError Descriptor :=
  a.columnScope.map fun scope =>
    let d := defaults.descriptor a.query
    { d with
      mode := a.mode.getD d.mode
      termMode := if a.allTerms then .all else d.termMode
      scope := scope
      case := if a.caseSensitive then .sensitive else d.case
      wholeWord := d.wholeWord || a.wholeWord
      normalizeWhiteSpace := d.normalizeWhiteSpace || a.normalizeWhiteSpace
      ignoreDiacritics := d.ignoreDiacritics || a.ignoreDiacritics
      allowEmpty := d.allowEmpty || a.allowEmpty }

end Arguments

end CellSearch.Command
