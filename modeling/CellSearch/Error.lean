import CellSearch.Text.Quoted

/-!
# Errors

What can keep a search from giving an answer.
-/

namespace CellSearch

/-- Why a search failed. -/
inductive SearchError where
  /-- A file could not be read or written. -/
  | io (detail : String)
  /-- The configuration could not be read or written. -/
  | config (detail : String)
  /-- A searchable column has no text. -/
  | missingAccessor (column : String)
  /-- A file is no table. -/
  | invalidTable (path reason : String)
  | other (detail : String)
deriving DecidableEq, Repr, Inhabited

namespace SearchError

/-- The error in words. -/
def message : SearchError → String
  | io detail => "I/O error: " ++ detail
  | config detail => "Configuration error: " ++ detail
  | missingAccessor column => "Column '" ++ column ++ "' has no text accessor"
  | invalidTable path reason => "Invalid table '" ++ path ++ "': " ++ reason
  | other detail => "An unexpected error occurred: " ++ detail

/-- The error with its cause and its parts, as the command reports it. -/
def describe : SearchError → String
  | io detail => "Io(" ++ Text.quote detail ++ ")"
  | config detail => "Config(" ++ Text.quote detail ++ ")"
  | missingAccessor column => "MissingAccessor \x7b column: " ++ Text.quote column ++ " \x7d"
  | invalidTable path reason =>
    "InvalidTable \x7b path: " ++ Text.quote path ++ ", reason: " ++ Text.quote reason ++ " \x7d"
  | other detail => "Other(" ++ Text.quote detail ++ ")"

end SearchError

end CellSearch
