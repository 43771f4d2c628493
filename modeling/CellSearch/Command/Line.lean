import CellSearch.Command.Arguments

/-!
# The command line

The words of a command line are read from left to right. A word with two dashes names an option;
its value follows an equals sign or is the next word. Other words fill the places for the file
and the query. After a word of two dashes alone every word fills a place.

A value is checked when the next option or place begins, or at the end of the line, so that a
word that names no option is reported before a bad value just before it.
-/

namespace CellSearch.Command

/-- Why a command line cannot be obeyed. -/
inductive UsageError where
  /-- There is no file. -/
  | missingArgument
  | unknownArgument
  /-- A value is not accepted, or missing. -/
  | invalidValue
  /-- What can be given once is given again. -/
  | repeatedArgument
  /-- A switch has a value. -/
  | unexpectedValue
deriving DecidableEq, Repr, Inhabited

namespace UsageError

/-- The error in words. -/
def message : UsageError → String
  | missingArgument => "the following required arguments were not provided: <FILE>"
  | unknownArgument => "unexpected argument found"
  | invalidValue => "invalid or missing value for an argument"
  | repeatedArgument => "an argument cannot be used multiple times"
  | unexpectedValue => "unexpected value for an argument found"

end UsageError

/-- Why no search is made. -/
inductive Stop where
  | help
  | version
  | misuse (error : UsageError)
deriving DecidableEq, Repr, Inhabited

/-! ## Options -/

/-- An option without a value. -/
inductive Switch where
  | allTerms
  | caseSensitive
  | wholeWord
  | normalizeWhiteSpace
  | ignoreDiacritics
  | allowEmpty
  | verbose
  | metrics
deriving DecidableEq, Repr, Inhabited

namespace Switch

/-- The name of a switch. -/
def name : Switch → String
  | allTerms => "all-terms"
  | caseSensitive => "case-sensitive"
  | wholeWord => "whole-word"
  | normalizeWhiteSpace => "normalize-whitespace"
  | ignoreDiacritics => "ignore-diacritics"
  | allowEmpty => "allow-empty"
  | verbose => "verbose"
  | metrics => "metrics"

/-- The switch of a name. -/
def ofName? (name : String) : Option Switch :=
  [allTerms, caseSensitive, wholeWord, normalizeWhiteSpace, ignoreDiacritics, allowEmpty,
    verbose, metrics].find? fun s => s.name == name

end Switch

/-- What takes a value: the two places and the options. -/
inductive Parameter where
  | file
  | query
  | mode
  | scope
  | columns
  | hidden
  | delimiter
  | format
  | log
  | config
deriving DecidableEq, Repr, Inhabited

namespace Parameter

/-- The option of a name. -/
def ofName? (name : String) : Option Parameter :=
  [("mode", mode), ("scope", scope), ("columns", columns), ("hidden", hidden),
    ("delimiter", delimiter), ("format", format), ("log", log), ("config", config)].lookup name

end Parameter

/-! ## Values -/

/-- The values that have been read. -/
structure Draft where
  switches : List Switch := []
  file : Option String := none
  query : Option String := none
  mode : Option MatchMode := none
  scope : Option ScopeChoice := none
  columns : Option (List String) := none
  hidden : Option (List String) := none
  delimiter : Option String := none
  format : Option OutputFormat := none
  log : Option String := none
  config : Option String := none
deriving DecidableEq, Repr, Inhabited

namespace Draft

/-- A value that can be given once. -/
def once {α : Type} (given read : Option α) : Except UsageError (Option α) :=
  if given.isSome then .error .repeatedArgument
  else if read.isNone then .error .invalidValue
  else .ok read

/-- A path, which is not empty. -/
def path? (value : String) : Option String :=
  if value.isEmpty then none else some value

/-- The pieces of a text between commas. -/
def pieces : List Char → List (List Char)
  | [] => [[]]
  | c :: rest =>
    if c = ',' then [] :: pieces rest
    else
      match pieces rest with
      | [] => [[c]]
      | piece :: more => (c :: piece) :: more

/-- A list that can be given several times. -/
def extend (given : Option (List String)) (value : String) : Option (List String) :=
  some (given.getD [] ++ (pieces value.toList).map String.ofList)

/-- Take a value. -/
def assign (d : Draft) (p : Parameter) (value : String) : Except UsageError Draft :=
  match p with
  | .file => (once d.file (path? value)).map fun v => { d with file := v }
  | .query => (once d.query (some value)).map fun v => { d with query := v }
  | .mode => (once d.mode (MatchMode.ofName? value)).map fun v => { d with mode := v }
  | .scope => (once d.scope (ScopeChoice.ofName? value)).map fun v => { d with scope := v }
  | .columns => .ok { d with columns := extend d.columns value }
  | .hidden => .ok { d with hidden := extend d.hidden value }
  | .delimiter => (once d.delimiter (some value)).map fun v => { d with delimiter := v }
  | .format => (once d.format (OutputFormat.ofName? value)).map fun v => { d with format := v }
  | .log => (once d.log (path? value)).map fun v => { d with log := v }
  | .config => (once d.config (path? value)).map fun v => { d with config := v }

/-- Set a switch. -/
def turnOn (d : Draft) (s : Switch) : Except UsageError Draft :=
  if d.switches.contains s then .error .repeatedArgument
  else .ok { d with switches := s :: d.switches }

/-- The arguments that have been read. -/
def arguments (d : Draft) : Except UsageError Arguments :=
  match d.file with
  | none => .error .missingArgument
  | some file =>
    let plain : Arguments := { file }
    .ok { plain with
      query := d.query.getD plain.query
      mode := d.mode
      allTerms := d.switches.contains .allTerms
      scope := d.scope
      columns := d.columns
      hidden := d.hidden
      caseSensitive := d.switches.contains .caseSensitive
      wholeWord := d.switches.contains .wholeWord
      normalizeWhiteSpace := d.switches.contains .normalizeWhiteSpace
      ignoreDiacritics := d.switches.contains .ignoreDiacritics
      allowEmpty := d.switches.contains .allowEmpty
      delimiter := d.delimiter.getD plain.delimiter
      format := d.format.getD plain.format
      verbose := d.switches.contains .verbose
      log := d.log
      metrics := d.switches.contains .metrics
      config := d.config }

end Draft

/-! ## Words -/

/-- How far a line has been read: the values taken, the parameter that was named last with its
value if that has come, and the places that are still empty. -/
structure LineState where
  draft : Draft := {}
  pending : Option (Parameter × Option String) := none
  places : List Parameter := [.file, .query]
deriving DecidableEq, Repr, Inhabited

namespace LineState

/-- Take the value that is pending. -/
def settle (s : LineState) : Except UsageError LineState :=
  match s.pending with
  | none => .ok s
  | some (_, none) => .error .invalidValue
  | some (p, some value) =>
    (s.draft.assign p value).map fun d => { s with draft := d, pending := none }

/-- Put a word into the next empty place. -/
def fill (s : LineState) (word : String) : Except UsageError LineState :=
  match s.places with
  | [] => .error .unknownArgument
  | p :: rest => s.settle.map fun s => { s with pending := some (p, some word), places := rest }

/-- Take a word that is no option: the value that an option waits for, or a place. -/
def take (s : LineState) (word : String) : Except UsageError LineState :=
  match s.pending with
  | some (p, none) => .ok { s with pending := some (p, some word) }
  | _ => s.fill word

/-- Set a switch. -/
def turnOn (s : LineState) (switch : Switch) : Except UsageError LineState :=
  match s.settle with
  | .error e => .error e
  | .ok s => (s.draft.turnOn switch).map fun d => { s with draft := d }

/-- Begin an option, with its value if the word holds it. -/
def begin (s : LineState) (p : Parameter) (value : Option String) : Except UsageError LineState :=
  match s.settle, value with
  | .error e, _ => .error e
  | .ok s, none => .ok { s with pending := some (p, none) }
  | .ok s, some value => (s.draft.assign p value).map fun d => { s with draft := d }

/-- Stop, unless the value that is pending is not accepted. -/
def stop (s : LineState) (reason : Stop) : Except Stop LineState :=
  match s.settle with
  | .error e => .error (.misuse e)
  | .ok _ => .error reason

/-- Take an option by its name. -/
def option (s : LineState) (name : String) (value : Option String) : Except Stop LineState :=
  match Parameter.ofName? name, Switch.ofName? name, value with
  | some p, _, _ => (s.begin p value).mapError .misuse
  | none, some switch, none => (s.turnOn switch).mapError .misuse
  | none, some _, some _ => .error (.misuse .unexpectedValue)
  | none, none, _ =>
    match name, value with
    | "help", none => s.stop .help
    | "version", none => s.stop .version
    | "help", some _ => .error (.misuse .unexpectedValue)
    | "version", some _ => .error (.misuse .unexpectedValue)
    | _, _ => .error (.misuse .unknownArgument)

/-- Take a word that begins with a single dash, by its first letter. -/
def letter (s : LineState) (c : Char) : Except Stop LineState :=
  match c with
  | 'h' => s.stop .help
  | 'V' => s.stop .version
  | _ => .error (.misuse .unknownArgument)

end LineState

/-- The name in a word with two dashes, and the value after an equals sign. -/
def splitOption (cs : List Char) : String × Option String :=
  let name := String.ofList (cs.takeWhile (· != '='))
  match cs.dropWhile (· != '=') with
  | [] => (name, none)
  | _ :: value => (name, some (String.ofList value))

/-- Read the words of a line. `placesOnly` is whether a word of two dashes has come. -/
def readWords : (placesOnly : Bool) → LineState → List String → Except Stop LineState
  | _, s, [] => .ok s
  | true, s, word :: rest =>
    match s.fill word with
    | .error e => .error (.misuse e)
    | .ok s => readWords true s rest
  | false, s, word :: rest =>
    match word.toList with
    | ['-', '-'] => readWords true s rest
    | '-' :: '-' :: cs =>
      let (name, value) := splitOption cs
      match s.option name value with
      | .error e => .error e
      | .ok s => readWords false s rest
    | '-' :: c :: _ =>
      match s.letter c with
      | .error e => .error e
      | .ok s => readWords false s rest
    | _ =>
      match s.take word with
      | .error e => .error (.misuse e)
      | .ok s => readWords false s rest

namespace Arguments

/-- The arguments that the words of a command line give. -/
def ofLine (words : List String) : Except Stop Arguments :=
  match readWords false {} words with
  | .error e => .error e
  | .ok s => (s.settle.bind fun s => s.draft.arguments).mapError .misuse

end Arguments

end CellSearch.Command
