import CellSearch.Unicode.CharClass

/-!
# Texts in TOML

Texts come in four forms: between quotes or apostrophes, on one line or, with three of them, on
several. Between quotes a backslash escapes; between apostrophes nothing does. Readers begin
behind the opening quotes and give back the text with what follows the closing ones.
-/

namespace CellSearch.Toml

open CellSearch.Unicode (hexValue?)

/-- Whether a character can stand in a text or a comment as it is. -/
def isTextChar (c : Char) : Bool :=
  c == '\t' || (0x20 ≤ c.toNat && c.toNat != 0x7F)

/-- Whether a character is a blank within a line. -/
def isBlank (c : Char) : Bool :=
  c == ' ' || c == '\t'

/-- Read a code point of a given number of hexadecimal digits. -/
def readCode : (count acc : Nat) → List Char → Option (Char × List Char)
  | 0, acc, cs => if acc.isValidChar then some (Char.ofNat acc, cs) else none
  | _, _, [] => none
  | count + 1, acc, c :: rest =>
    match hexValue? c with
    | none => none
    | some d => readCode count (16 * acc + d) rest

/-- Read an escape sequence after its backslash. -/
def readEscape : List Char → Option (Char × List Char)
  | 'b' :: rest => some ('\x08', rest)
  | 'e' :: rest => some ('\x1b', rest)
  | 't' :: rest => some ('\t', rest)
  | 'n' :: rest => some ('\n', rest)
  | 'f' :: rest => some ('\x0c', rest)
  | 'r' :: rest => some ('\r', rest)
  | '"' :: rest => some ('"', rest)
  | '\\' :: rest => some ('\\', rest)
  | 'x' :: rest => readCode 2 0 rest
  | 'u' :: rest => readCode 4 0 rest
  | 'U' :: rest => readCode 8 0 rest
  | _ => none

/-- Put a character before a text that has been read. -/
def prepend (c : Char) (read : Option (List Char × List Char)) :
    Option (List Char × List Char) :=
  read.map fun (text, rest) => (c :: text, rest)

/-- Read a text between quotes on one line. -/
def readBasic : (fuel : Nat) → List Char → Option (List Char × List Char)
  | 0, _ => none
  | _, [] => none
  | fuel + 1, c :: rest =>
    if c = '"' then some ([], rest)
    else if c = '\\' then
      match readEscape rest with
      | none => none
      | some (d, rest) => prepend d (readBasic fuel rest)
    else if isTextChar c then prepend c (readBasic fuel rest)
    else none

/-- Read a text between apostrophes on one line. -/
def readLiteral : List Char → Option (List Char × List Char)
  | [] => none
  | c :: rest =>
    if c = '\'' then some ([], rest)
    else if isTextChar c then prepend c (readLiteral rest)
    else none

/-! ## Several lines -/

/-- A text without the line end that it begins with. -/
def dropLineEnd : List Char → List Char
  | '\n' :: rest => rest
  | '\r' :: '\n' :: rest => rest
  | cs => cs

/-- What follows a backslash at the end of a line: blanks, a line end, and then all blanks and
line ends. -/
def continueLine? (cs : List Char) : Option (List Char) :=
  match cs.dropWhile isBlank with
  | '\n' :: rest => some (rest.dropWhile fun c => isBlank c || c == '\n' || c == '\r')
  | '\r' :: '\n' :: rest => some (rest.dropWhile fun c => isBlank c || c == '\n' || c == '\r')
  | _ => none

/-- Read the quotes at the end of a text: three close it, and up to two before them belong to
it. -/
def readClosing (quote : Char) (cs : List Char) : Option (List Char × List Char) :=
  let count := (cs.takeWhile (· == quote)).length
  if count < 3 then none
  else
    let inside := min (count - 3) 2
    some (List.replicate inside quote, cs.drop (inside + 3))

/-- Read a text of several lines; `escapes` is whether a backslash escapes in it. -/
def readLines (quote : Char) (escapes : Bool) : (fuel : Nat) → List Char →
    Option (List Char × List Char)
  | 0, _ => none
  | _, [] => none
  | fuel + 1, c :: rest =>
    if c = quote then
      match readClosing quote (c :: rest) with
      | some closed => some closed
      | none => prepend c (readLines quote escapes fuel rest)
    else if c = '\\' ∧ escapes then
      match continueLine? rest with
      | some rest => readLines quote escapes fuel rest
      | none =>
        match readEscape rest with
        | none => none
        | some (d, rest) => prepend d (readLines quote escapes fuel rest)
    else if c = '\n' then prepend c (readLines quote escapes fuel rest)
    else if c = '\r' then
      match rest with
      | '\n' :: rest => prepend '\n' (readLines quote escapes fuel rest)
      | _ => none
    else if isTextChar c then prepend c (readLines quote escapes fuel rest)
    else none

/-- Read a text of any form, after its opening quote or apostrophe. -/
def readText (quote : Char) (cs : List Char) : Option (List Char × List Char) :=
  let escapes := quote == '"'
  match cs with
  | q :: r :: rest =>
    if q = quote ∧ r = quote then readLines quote escapes (rest.length + 1) (dropLineEnd rest)
    else if escapes then readBasic (cs.length + 1) cs
    else readLiteral cs
  | _ => if escapes then readBasic (cs.length + 1) cs else readLiteral cs

/-! ## Keys -/

/-- Whether a character can stand in a key without quotes. -/
def isBareKeyChar (c : Char) : Bool :=
  c.isAlphanum || c == '_' || c == '-'

/-- Read one part of a key. -/
def readKeyPart : List Char → Option (List Char × List Char)
  | '"' :: rest => readBasic (rest.length + 1) rest
  | '\'' :: rest => readLiteral rest
  | cs =>
    match cs.takeWhile isBareKeyChar with
    | [] => none
    | key => some (key, cs.dropWhile isBareKeyChar)

/-- Read a key: parts with dots and blanks between them. -/
def readKey : (fuel : Nat) → List Char → Option (List String × List Char)
  | 0, _ => none
  | fuel + 1, cs =>
    match readKeyPart (cs.dropWhile isBlank) with
    | none => none
    | some (part, rest) =>
      match rest.dropWhile isBlank with
      | '.' :: rest => (readKey fuel rest).map fun (key, rest) => (String.ofList part :: key, rest)
      | rest => some ([String.ofList part], rest)

end CellSearch.Toml
