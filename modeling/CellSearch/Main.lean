import CellSearch.Command.Run

/-!
# The command

The command line on a real machine: files are read and made, and the outcome of the run is
printed.
-/

namespace CellSearch.Command

/-- The directory that holds a path. -/
def directoryOf (path : String) : String :=
  String.ofList ((path.toList.reverse.dropWhile (· != '/')).dropWhile (· == '/')).reverse

/-- Whether an action succeeds, or else why not. -/
def attempt {α : Type} (action : IO α) : IO (Except String α) := do
  try return .ok (← action) catch e => return .error (toString e)

/-- The machine that the program runs on. -/
def machine (configDirectory homeDirectory : Option String) : Host IO where
  isPresent path := return (← attempt (IO.FS.realPath path)).toBool
  read path := attempt (IO.FS.readFile path)
  create path := attempt do
    let directory := directoryOf path
    unless directory.isEmpty do IO.FS.createDirAll directory
    IO.FS.writeFile path ""
  configDirectory := configDirectory
  homeDirectory := homeDirectory

/-- Whether the report is colored: as the environment says, and else on a terminal. -/
def wantsColor : IO Bool := do
  if (← IO.getEnv "CLICOLOR_FORCE").any (· != "0") then return true
  if (← IO.getEnv "NO_COLOR").isSome then return false
  return (← IO.getEnv "CLICOLOR") != some "0" && (← (← IO.getStdout).isTty)

end CellSearch.Command

open CellSearch.Command

/-- Run the command. -/
def main (words : List String) : IO UInt32 := do
  let home ← IO.getEnv "HOME"
  let config := (← IO.getEnv "XDG_CONFIG_HOME").filter (·.startsWith "/")
  let host := machine (config <|> home.map (· ++ "/.config")) home
  let outcome ← run host (← wantsColor) words
  match outcome with
  | .printed p =>
    IO.print p.output
    if let some text := p.metrics then IO.eprint text
  | .failed e => IO.eprintln ("Error: " ++ e.describe)
  | .misused e => IO.eprintln ("error: " ++ e.message ++ "\n\n" ++ synopsis)
  return outcome.exitCode.toUInt32
