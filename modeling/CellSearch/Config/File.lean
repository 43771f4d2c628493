import CellSearch.Document.Decode
import CellSearch.Document.Encode
import CellSearch.Error
import CellSearch.Toml.Read
import CellSearch.Toml.Write

/-!
# Configuration files

A configuration is kept in a TOML file. An entry that is missing from the file has its default.
-/

namespace CellSearch.EngineConfig

/-- The configuration that a file holds. -/
def ofFile? (content : List Char) : Option EngineConfig :=
  (Toml.parse content).bind (ofDocument? false)

/-- The file that holds a configuration, if its sizes can be written. -/
def toFile? (c : EngineConfig) : Option (List Char) :=
  Toml.write? c.toDocument

/-- The configuration of the file at a path, given its text or why it cannot be read. -/
def load (path : String) (text : Except String String) : Except SearchError EngineConfig :=
  match text with
  | .error _ => .error (.config ("Failed to read config file: " ++ path))
  | .ok text =>
    match ofFile? text.toList with
    | none => .error (.config ("Failed to parse config file: " ++ path))
    | some config => .ok config

/-- The text of the file that keeps a configuration. -/
def save (c : EngineConfig) : Except SearchError String :=
  match c.toFile? with
  | none => .error (.config "Failed to serialize config")
  | some text => .ok (String.ofList text)

end CellSearch.EngineConfig
