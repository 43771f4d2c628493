import CellSearch.Text.Quoted

/-!
# Columns

A column of a table gives the text of a cell from its row. A column without an accessor cannot
be searched, although its owner may ask for it.
-/

namespace CellSearch

/-- A column as its owner describes it, for rows of type `R`. -/
structure Column (R : Type) where
  id : String
  visible : Bool := true
  searchable : Bool := true
  accessor : Option (R → Option String) := none

namespace Column

variable {R : Type}

/-- The column in words. -/
def describe (c : Column R) : String :=
  "Column \x7b id: " ++ Text.quote c.id ++ ", visible: " ++ toString c.visible ++
    ", searchable: " ++ toString c.searchable ++ ", accessor: " ++
    toString c.accessor.isSome ++ " \x7d"

end Column

/-- A searchable column with its accessor and its place among all columns. -/
structure BoundColumn (R : Type) where
  id : String
  index : Nat
  visible : Bool
  accessor : R → Option String

namespace BoundColumn

variable {R : Type}

/-- The text of the column in a row. -/
def extract (c : BoundColumn R) (row : R) : Option String := c.accessor row

/-- The column in words. -/
def describe (c : BoundColumn R) : String :=
  "BoundColumn \x7b id: " ++ Text.quote c.id ++ ", index: " ++ toString c.index ++
    ", visible: " ++ toString c.visible ++ " \x7d"

end BoundColumn

/-- A searchable column that gives no text. -/
structure ColumnDiagnostic where
  column : String
  index : Nat
deriving DecidableEq, Repr, Inhabited

namespace ColumnDiagnostic

/-- The diagnostic in words. -/
def message (d : ColumnDiagnostic) : String :=
  "column '" ++ d.column ++ "' (#" ++ toString d.index ++
    ") has no text accessor and is excluded from search"

end ColumnDiagnostic

/-- What to do about a searchable column that gives no text. -/
inductive MissingAccessorPolicy where
  | ignore
  | notify
  | failFast
deriving DecidableEq, Repr, Inhabited

namespace MissingAccessorPolicy

/-- The name of a policy. -/
def name : MissingAccessorPolicy → String
  | ignore => "ignore"
  | notify => "notify"
  | failFast => "fail-fast"

/-- The policy of a name. -/
def ofName? (name : String) : Option MissingAccessorPolicy :=
  [ignore, notify, failFast].find? fun p => p.name == name

end MissingAccessorPolicy

end CellSearch
