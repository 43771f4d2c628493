import CellSearch.Document.Basic

/-!
# Tables in TOML

The lines of a file build up a tree of tables. A table may be opened once by a header, or come
into being because a header or a dotted key leads through it; what is already there decides
what a later line may add.
-/

namespace CellSearch.Toml

/-- How a table came into being. -/
inductive Origin where
  /-- A header names it. -/
  | header
  /-- A header leads through it. -/
  | implied
  /-- A dotted key leads through it. -/
  | dotted
deriving DecidableEq, Repr, Inhabited

/-- A node of the tree. -/
inductive Node where
  /-- A value, to which nothing can be added. -/
  | value (d : Document)
  | table (origin : Origin) (entries : List (String × Node))
  /-- A list of tables, of which the last can grow. -/
  | tables (closed : List (List (String × Node))) (last : List (String × Node))
deriving Repr, Inhabited

namespace Node

mutual

/-- The document of a node. -/
def toDocument : Node → Document
  | value d => d
  | table _ entries => .table (documentEntries entries)
  | tables closed last =>
    .list (documentTables closed ++ [.table (documentEntries last)])

/-- The documents of the entries of a table. -/
def documentEntries : List (String × Node) → List (String × Document)
  | [] => []
  | (key, node) :: rest => (key, toDocument node) :: documentEntries rest

/-- The documents of a list of tables. -/
def documentTables : List (List (String × Node)) → List Document
  | [] => []
  | entries :: rest => .table (documentEntries entries) :: documentTables rest

end

end Node

/-- The entries of a table. -/
abbrev Entries := List (String × Node)

namespace Entries

/-- Replace the value of a key that is there. -/
def set (entries : Entries) (key : String) (node : Node) : Entries :=
  entries.map fun (k, n) => if k = key then (k, node) else (k, n)

/-- Put a value under a key that leads through tables of dotted keys. -/
def assign (value : Document) : (key : List String) → Entries → Option Entries
  | [], _ => none
  | [key], entries =>
    match entries.lookup key with
    | none => some (entries ++ [(key, .value value)])
    | some _ => none
  | key :: rest, entries =>
    match entries.lookup key with
    | none => (assign value rest []).map fun inner => entries ++ [(key, .table .dotted inner)]
    | some (.table .dotted inner) =>
      (assign value rest inner).map fun inner => set entries key (.table .dotted inner)
    | some _ => none

/-- Open the table of a header. -/
def openTable : (path : List String) → Entries → Option Entries
  | [], _ => none
  | [key], entries =>
    match entries.lookup key with
    | none => some (entries ++ [(key, .table .header [])])
    | some (.table .implied inner) => some (set entries key (.table .header inner))
    | some _ => none
  | key :: rest, entries =>
    match entries.lookup key with
    | none => (openTable rest []).map fun inner => entries ++ [(key, .table .implied inner)]
    | some (.table origin inner) =>
      (openTable rest inner).map fun inner => set entries key (.table origin inner)
    | some (.tables closed last) =>
      (openTable rest last).map fun last => set entries key (.tables closed last)
    | some (.value _) => none

/-- Open one more table of the list that a header names. -/
def openElement : (path : List String) → Entries → Option Entries
  | [], _ => none
  | [key], entries =>
    match entries.lookup key with
    | none => some (entries ++ [(key, .tables [] [])])
    | some (.tables closed last) => some (set entries key (.tables (closed ++ [last]) []))
    | some _ => none
  | key :: rest, entries =>
    match entries.lookup key with
    | none => (openElement rest []).map fun inner => entries ++ [(key, .table .implied inner)]
    | some (.table origin inner) =>
      (openElement rest inner).map fun inner => set entries key (.table origin inner)
    | some (.tables closed last) =>
      (openElement rest last).map fun last => set entries key (.tables closed last)
    | some (.value _) => none

/-- Put a value under a key of the table that a header has opened. -/
def assignAt (key : List String) (value : Document) : (path : List String) → Entries →
    Option Entries
  | [], entries => assign value key entries
  | name :: rest, entries =>
    match entries.lookup name with
    | some (.table origin inner) =>
      (assignAt key value rest inner).map fun inner => set entries name (.table origin inner)
    | some (.tables closed last) =>
      (assignAt key value rest last).map fun last => set entries name (.tables closed last)
    | _ => none

end Entries

end CellSearch.Toml
