import CellSearch.Command.Host

/-!
# Files in memory

A tree of files serves as the machine of a command whose run is a plain value. Places in the
tree are lists of names from the root. Paths are read from a working directory; what lies
outside of the tree does not exist.
-/

namespace CellSearch.Command

/-- What stands at a place of a tree. -/
inductive FileNode where
  | directory
  /-- A file with its text, unless its bytes are no text. -/
  | file (text : Option String)
deriving DecidableEq, Repr, Inhabited

/-- A tree of files: what stands at each place below the root. -/
structure FileTree where
  nodes : List (List String × FileNode)
deriving DecidableEq, Repr, Inhabited

namespace FileTree

/-- What stands at a place. -/
def node? (t : FileTree) (place : List String) : Option FileNode :=
  if place.isEmpty then some .directory else t.nodes.lookup place

/-- Put something at a place. -/
def put (t : FileTree) (place : List String) (node : FileNode) : FileTree :=
  ⟨(place, node) :: t.nodes.filter fun n => n.1 != place⟩

/-- The tree with a directory at a place and around it. -/
def putDirectories (t : FileTree) : (above names : List String) → FileTree
  | _, [] => t
  | above, name :: rest =>
    let place := above ++ [name]
    let t := if (t.node? place).isSome then t else t.put place .directory
    putDirectories t place rest

/-- The tree with a file at a place, and directories around it. -/
def putFile (t : FileTree) (place : List String) (text : Option String) : FileTree :=
  (t.putDirectories [] place.dropLast).put place (.file text)

/-! ## Paths -/

/-- The names in a path. -/
def names (path : String) : List String :=
  path.splitOn "/"

/-- One step from a directory by a name in a path. -/
def step (place : List String) (name : String) : Option (List String) :=
  if name = "" ∨ name = "." then some place
  else if name = ".." then (if place.isEmpty then none else some place.dropLast)
  else some (place ++ [name])

/-- The place that names lead to from another. Every name but the last must lead to a
directory. -/
def walk (t : FileTree) : (place : List String) → List String → Option (List String)
  | place, [] => some place
  | place, name :: rest =>
    if t.node? place = some .directory then
      match step place name with
      | none => none
      | some place => walk t place rest
    else none

/-- What a path leads to from a directory. A path from the root of the machine leads out of the
tree. -/
def follow (t : FileTree) (directory : List String) (path : String) :
    Option (List String × FileNode) :=
  if path.startsWith "/" ∨ path.isEmpty then none
  else
    match t.walk directory (names path) with
    | none => none
    | some place => (t.node? place).map fun node => (place, node)

/-- Make the directories that names lead through. -/
def makeDirectories (t : FileTree) : (place : List String) → List String →
    Option (FileTree × List String)
  | place, [] => some (t, place)
  | place, name :: rest =>
    match step place name with
    | none => none
    | some place =>
      match t.node? place with
      | some .directory => makeDirectories t place rest
      | some (.file _) => none
      | none => makeDirectories (t.put place .directory) place rest

/-- Make an empty file, and the directories it lies in. The tree keeps the directories when the
file cannot be made. -/
def create (t : FileTree) (directory : List String) (path : String) :
    FileTree × Except String Unit :=
  let failed : Except String Unit := .error "no such place"
  if path.startsWith "/" then (t, failed)
  else
    let parts := (names path).filter fun name => name != "" && name != "."
    match t.makeDirectories directory parts.dropLast with
    | none => (t, failed)
    | some (t, place) =>
      match (names path).getLast? with
      | none => (t, failed)
      | some name =>
        if name = "" ∨ name = "." ∨ name = ".." then (t, failed)
        else
          match t.node? (place ++ [name]) with
          | some .directory => (t, failed)
          | _ => (t.put (place ++ [name]) (.file (some "")), .ok ())

/-! ## The host -/

/-- The text of a file that a path leads to. -/
def read (t : FileTree) (directory : List String) (path : String) : Except String String :=
  match t.follow directory path with
  | some (_, .file (some text)) => .ok text
  | some (_, .file none) => .error "not a text"
  | some (_, .directory) => .error "a directory"
  | none => .error "no such file"

/-- A tree as the machine of a command. Paths of the user's directories are paths from the
working directory. -/
def host (directory : List String) (configDirectory homeDirectory : Option String) :
    Host (StateM FileTree) where
  isPresent path := do return ((← get).follow directory path).isSome
  read path := do return (← get).read directory path
  create path := do
    let (t, made) := (← get).create directory path
    set t
    return made
  configDirectory := configDirectory
  homeDirectory := homeDirectory

end FileTree

end CellSearch.Command
