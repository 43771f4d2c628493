import CellSearch.Column.Basic
import CellSearch.Error
import CellSearch.Query.Prepared

/-!
# Binding columns

The searchable columns that give text are bound to their places in the live list of columns.
A scope then selects positions among the bound columns, and a plan says which descriptors
apply to each of them.
-/

namespace CellSearch

/-- The bound columns, and the searchable ones that give no text. -/
structure ColumnSet (R : Type) where
  columns : List (BoundColumn R)
  diagnostics : List ColumnDiagnostic

namespace ColumnSet

variable {R : Type}

/-! ## Binding -/

/-- The searchable columns that give text, from place `index` on. -/
def boundFrom (index : Nat) : List (Column R) → List (BoundColumn R)
  | [] => []
  | c :: rest =>
    match c.searchable, c.accessor with
    | true, some accessor => ⟨c.id, index, c.visible, accessor⟩ :: boundFrom (index + 1) rest
    | _, _ => boundFrom (index + 1) rest

/-- The searchable columns that give no text, from place `index` on. -/
def missingFrom (index : Nat) : List (Column R) → List ColumnDiagnostic
  | [] => []
  | c :: rest =>
    if c.searchable && c.accessor.isNone then ⟨c.id, index⟩ :: missingFrom (index + 1) rest
    else missingFrom (index + 1) rest

/-- Bind the live columns. Under the fail-fast policy the first column without text is an
error. -/
def bind (policy : MissingAccessorPolicy) (live : List (Column R)) :
    Except SearchError (ColumnSet R) :=
  match policy, missingFrom 0 live with
  | .failFast, d :: _ => .error (.missingAccessor d.column)
  | _, missing => .ok ⟨boundFrom 0 live, missing⟩

/-- The diagnostics that are handed to the owner when the columns are bound. -/
def notices (policy : MissingAccessorPolicy) (live : List (Column R)) : List ColumnDiagnostic :=
  if policy = .notify then missingFrom 0 live else []

/-! ## Scopes -/

/-- The position of the first bound column with an id. -/
def position? (s : ColumnSet R) (id : String) : Option Nat :=
  s.columns.findIdx? fun c => c.id == id

/-- Whether the column at a position is in the scope. An explicit id stands for the first
column that has it. -/
def inScope (s : ColumnSet R) (scope : ColumnScope) (pos : Nat) : Bool :=
  match scope with
  | .allColumns => true
  | .visibleColumns => s.columns[pos]?.any fun c => c.visible
  | .explicitColumns ids => ids.any fun id => s.position? id == some pos

/-- The positions of the bound columns in a scope, in order. -/
def resolveScope (s : ColumnSet R) (scope : ColumnScope) : List Nat :=
  (List.range s.columns.length).filter (s.inScope scope)

end ColumnSet

/-! ## Plans -/

/-- For each bound column that some descriptor searches, its position and the descriptors. -/
structure ScopePlan where
  entries : List (Nat × List Prepared)
deriving DecidableEq, Repr, Inhabited

namespace ScopePlan

/-- The descriptors that search the column at a position. -/
def forPosition {R : Type} (columns : ColumnSet R) (prepared : List Prepared) (pos : Nat) :
    List Prepared :=
  prepared.filter fun p => (columns.resolveScope p.descriptor.scope).contains pos

/-- The plan of a list of descriptors. -/
def build {R : Type} (columns : ColumnSet R) (prepared : List Prepared) : ScopePlan :=
  ⟨(List.range columns.columns.length).filterMap fun pos =>
    match forPosition columns prepared pos with
    | [] => none
    | ps => some (pos, ps)⟩

/-- Whether no column is searched. -/
def isEmpty (plan : ScopePlan) : Bool := plan.entries.isEmpty

end ScopePlan

end CellSearch
