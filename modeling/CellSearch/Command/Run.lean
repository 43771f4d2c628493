import CellSearch.Command.Host
import CellSearch.Command.Line
import CellSearch.Config.File
import CellSearch.Engine.Basic
import CellSearch.Report.Basic
import CellSearch.Table.Basic

/-!
# Running the command

A run reads the configuration and the table, searches the table once, and prints a report. It
stops at the first thing that fails, and then it prints nothing.
-/

namespace CellSearch.Command

/-- The name of the command. -/
def name : String := "gridfind"

/-- The version of the command. -/
def version : String := "0.1.0"

/-- What a run prints. -/
structure Printed where
  output : String
  /-- What is printed beside the report. -/
  metrics : Option String
deriving DecidableEq, Repr, Inhabited

/-- How a run ends. -/
inductive Outcome where
  | printed (p : Printed)
  | failed (error : SearchError)
  | misused (error : UsageError)
deriving DecidableEq, Repr, Inhabited

namespace Outcome

/-- The exit code of an outcome. -/
def exitCode : Outcome → Nat
  | printed _ => 0
  | failed _ => 1
  | misused _ => 2

end Outcome

/-! ## The search -/

/-- Search a table with one descriptor, as the engine does on a table that never changes. -/
def search (config : EngineConfig) (table : Table) (columns : List (Column TableRow))
    (d : Descriptor) : Reply TableRow Nat Unit :=
  Engine.applyDescriptors (.ofConfig config) [d] columns (.ofList table.rows)

/-- What the arguments print about a table. -/
def report (a : Arguments) (color : Bool) (config : EngineConfig) (table : Table) :
    Except SearchError Printed := do
  let d ← a.descriptor config.defaults
  let reply := search config table (table.columns (a.hidden.getD [])) d
  reply.outcome
  let results := reply.engine.results.toList
  let output ←
    match a.format with
    | .json => pure (Report.json (fun line : Nat => (line : Int)) a.query table.rows.length results)
    | .text =>
      match Report.text color results with
      | some text => pure text
      | none => throw (.other "a match does not fit its cell")
  let metrics := if a.metrics then some (reply.engine.counters.render ++ "\n") else none
  return ⟨String.ofList output ++ "\n", metrics⟩

/-! ## A run -/

variable {m : Type → Type} [Monad m]

/-- The first path that leads to something. -/
def firstPresent (host : Host m) : List String → m (Option String)
  | [] => return none
  | path :: rest => do
    if ← host.isPresent path then return some path else firstPresent host rest

/-- The places where a configuration is looked for, in order. -/
def configPaths (host : Host m) : List String :=
  (host.configDirectory.map (· ++ "/gridfind/config.toml")).toList ++
    (host.homeDirectory.map (· ++ "/.gridfind.toml")).toList ++ [".gridfind.toml"]

/-- The configuration: of the file that is named, or of the first that is found, or the
default. -/
def findConfig (host : Host m) (named : Option String) : m (Except SearchError EngineConfig) := do
  let path ←
    match named with
    | some path => pure (some path)
    | none => firstPresent host (configPaths host)
  match path with
  | none => return .ok {}
  | some path => return EngineConfig.load path (← host.read path)

/-- Search as the arguments ask. -/
def runArguments (host : Host m) (color : Bool) (a : Arguments) :
    ExceptT SearchError m Printed := do
  if let some path := a.log then
    if let .error detail ← host.create path then throw (.io detail)
  let config ← ExceptT.mk (findConfig host a.config)
  let delimiter ← ExceptT.mk (pure a.delimiterChar)
  let text ← (host.read a.file : m _)
  let table ← ExceptT.mk (pure (Table.load a.file text delimiter))
  ExceptT.mk (pure (report a color config table))

/-- The shape of a command line. -/
def synopsis : String := "Usage: " ++ name ++ " [OPTIONS] <FILE> [QUERY]"

/-- What `--help` prints. -/
def usage : String := "\n".intercalate [
  synopsis,
  "",
  "Arguments:",
  "  <FILE>   Delimited text file whose first line holds the column names",
  "  [QUERY]  [default: \"\"]",
  "",
  "Options:",
  "      --mode <MODE>            [possible values: contains, starts-with, ends-with, equals, wildcard, regex]",
  "      --all-terms              Require every term of a multi-term query to match",
  "      --scope <SCOPE>          [possible values: all, visible, explicit]",
  "      --columns <COLUMNS>",
  "      --hidden <HIDDEN>        Columns treated as hidden for `--scope visible`",
  "      --case-sensitive",
  "      --whole-word",
  "      --normalize-whitespace",
  "      --ignore-diacritics",
  "      --allow-empty",
  "      --delimiter <DELIMITER>  [default: ,]",
  "      --format <FORMAT>        [default: text] [possible values: text, json]",
  "      --verbose",
  "      --log <LOG>",
  "      --metrics",
  "      --config <CONFIG>",
  "  -h, --help                   Print help",
  "  -V, --version                Print version",
  ""]

/-- Run the command on the words of its line. -/
def run (host : Host m) (color : Bool) (words : List String) : m Outcome := do
  match Arguments.ofLine words with
  | .error .help => return .printed ⟨usage, none⟩
  | .error .version => return .printed ⟨name ++ " " ++ version ++ "\n", none⟩
  | .error (.misuse e) => return .misused e
  | .ok a =>
    match ← (runArguments host color a).run with
    | .ok p => return .printed p
    | .error e => return .failed e

end CellSearch.Command
