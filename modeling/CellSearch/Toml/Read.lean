import CellSearch.Toml.Scalar
import CellSearch.Toml.Text
import CellSearch.Toml.Tree

/-!
# Reading TOML

A file is read line by line. The state holds the tree as far as it is built and the path of the
table that the last header opened. A file that breaks a rule is refused as a whole.
-/

namespace CellSearch.Toml

/-! ## Blanks and comments -/

/-- What follows a comment: the end of its line, or nothing. A control character is refused. -/
def afterComment? : List Char → Option (List Char)
  | [] => some []
  | '\n' :: rest => some ('\n' :: rest)
  | '\r' :: '\n' :: rest => some ('\n' :: rest)
  | c :: rest => if isTextChar c then afterComment? rest else none

/-- What follows the end of a line, after blanks and a comment. -/
def afterLine? (cs : List Char) : Option (List Char) :=
  let rest :=
    match cs.dropWhile isBlank with
    | '#' :: rest => afterComment? rest
    | rest => some rest
  match rest with
  | some [] => some []
  | some ('\n' :: rest) => some rest
  | some ('\r' :: '\n' :: rest) => some rest
  | _ => none

/-- What follows blanks, comments and line ends. -/
def afterGap? : (fuel : Nat) → List Char → Option (List Char)
  | 0, _ => none
  | fuel + 1, cs =>
    match cs.dropWhile isBlank with
    | '\n' :: rest => afterGap? fuel rest
    | '\r' :: '\n' :: rest => afterGap? fuel rest
    | '#' :: rest =>
      match afterComment? rest with
      | none => none
      | some rest => afterGap? fuel rest
    | rest => some rest

/-! ## Values -/

/-- Whether a character ends a scalar without quotes. -/
def endsScalar (c : Char) : Bool :=
  isBlank c || c == '\n' || c == '\r' || c == '#' || c == ',' || c == ']' || c == '\x7d' ||
    c == '\x7b' || c == '[' || c == '=' || c == '"' || c == '\''

/-- Read a scalar without quotes. A blank may stand between a date and a time. -/
def readScalar (cs : List Char) : Option (Document × List Char) :=
  let word := cs.takeWhile fun c => !endsScalar c
  let rest := cs.dropWhile fun c => !endsScalar c
  let dated :=
    match rest with
    | ' ' :: more =>
      let time := more.takeWhile fun c => !endsScalar c
      if afterDate? word == some [] && time.head?.any Char.isDigit then
        some (word ++ ' ' :: time, more.dropWhile fun c => !endsScalar c)
      else none
    | _ => none
  let (word, rest) := dated.getD (word, rest)
  (scalar? word).map fun d => (d, rest)

mutual

/-- Read a value. -/
def readValue : (fuel : Nat) → List Char → Option (Document × List Char)
  | 0, _ => none
  | fuel + 1, cs =>
    match cs with
    | '"' :: rest => (readText '"' rest).map fun (s, rest) => (.text (String.ofList s), rest)
    | '\'' :: rest => (readText '\'' rest).map fun (s, rest) => (.text (String.ofList s), rest)
    | '[' :: rest => (readItems fuel rest).map fun (items, rest) => (.list items, rest)
    | '\x7b' :: rest =>
      (readPairs fuel [] rest).map fun (entries, rest) =>
        ((Node.table .header entries).toDocument, rest)
    | cs => readScalar cs

/-- Read the values of a list up to its closing bracket. A comma may follow the last. -/
def readItems : (fuel : Nat) → List Char → Option (List Document × List Char)
  | 0, _ => none
  | fuel + 1, cs =>
    match afterGap? (cs.length + 1) cs with
    | none => none
    | some (']' :: rest) => some ([], rest)
    | some cs =>
      match readValue fuel cs with
      | none => none
      | some (item, rest) =>
        match afterGap? (rest.length + 1) rest with
        | some (']' :: rest) => some ([item], rest)
        | some (',' :: rest) =>
          (readItems fuel rest).map fun (items, rest) => (item :: items, rest)
        | _ => none

/-- Read the pairs of a table up to its closing brace. A comma may follow the last. -/
def readPairs : (fuel : Nat) → Entries → List Char → Option (Entries × List Char)
  | 0, _, _ => none
  | fuel + 1, entries, cs =>
    match afterGap? (cs.length + 1) cs with
    | none => none
    | some ('\x7d' :: rest) => some (entries, rest)
    | some cs =>
      match readKey (cs.length + 1) cs with
      | some (key, '=' :: rest) =>
        match readValue fuel (rest.dropWhile isBlank) with
        | none => none
        | some (value, rest) =>
          match Entries.assign value key entries, afterGap? (rest.length + 1) rest with
          | some entries, some ('\x7d' :: rest) => some (entries, rest)
          | some entries, some (',' :: rest) => readPairs fuel entries rest
          | _, _ => none
      | _ => none

end

/-! ## Lines -/

/-- The tree as far as it is built, and the path of the open table. -/
structure State where
  root : Entries
  path : List String
deriving Inhabited

/-- Read a header after its opening bracket. -/
def readHeader (s : State) (cs : List Char) : Option (State × List Char) :=
  match cs with
  | '[' :: rest =>
    match readKey (rest.length + 1) rest with
    | some (path, ']' :: ']' :: rest) =>
      match Entries.openElement path s.root, afterLine? rest with
      | some root, some rest => some (⟨root, path⟩, rest)
      | _, _ => none
    | _ => none
  | _ =>
    match readKey (cs.length + 1) cs with
    | some (path, ']' :: rest) =>
      match Entries.openTable path s.root, afterLine? rest with
      | some root, some rest => some (⟨root, path⟩, rest)
      | _, _ => none
    | _ => none

/-- Read a key with its value. -/
def readPair (s : State) (cs : List Char) : Option (State × List Char) :=
  match readKey (cs.length + 1) cs with
  | some (key, '=' :: rest) =>
    match readValue (rest.length + 1) (rest.dropWhile isBlank) with
    | none => none
    | some (value, rest) =>
      match Entries.assignAt key value s.path s.root, afterLine? rest with
      | some root, some rest => some ({ s with root }, rest)
      | _, _ => none
  | _ => none

/-- Read the lines of a file. -/
def readFile : (fuel : Nat) → State → List Char → Option State
  | 0, _, _ => none
  | fuel + 1, s, cs =>
    match afterGap? (cs.length + 1) cs with
    | none => none
    | some [] => some s
    | some ('[' :: rest) =>
      match readHeader s rest with
      | none => none
      | some (s, rest) => readFile fuel s rest
    | some cs =>
      match readPair s cs with
      | none => none
      | some (s, rest) => readFile fuel s rest

/-- The document that a file holds. A byte order mark may come first. -/
def parse (content : List Char) : Option Document :=
  let cs :=
    match content with
    | '\ufeff' :: rest => rest
    | _ => content
  (readFile (cs.length + 1) ⟨[], []⟩ cs).map fun s => (Node.table .header s.root).toDocument

end CellSearch.Toml
