/-!
# Hosts

The command reads a few files of the machine that it runs on. What it asks for is a record of
actions, so that one definition of the command serves a real machine and a tree of files in
memory.
-/

namespace CellSearch.Command

/-- The actions of a machine. An action that fails says why. -/
structure Host (m : Type → Type) where
  /-- Whether a path leads to something. -/
  isPresent : (path : String) → m Bool
  /-- The text of a file. -/
  read : (path : String) → m (Except String String)
  /-- Make an empty file, and the directories it lies in. -/
  create : (path : String) → m (Except String Unit)
  /-- The directory for the configurations of programs. -/
  configDirectory : Option String
  /-- The directory of the user. -/
  homeDirectory : Option String

end CellSearch.Command
