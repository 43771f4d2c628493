import CellSearch.Regex.Scan
import CellSearch.Regex.Syntax

/-!
# Escape sequences

What a backslash begins: a character, a set of characters or a condition. Back-references are
not supported, and letters that mean nothing are refused.
-/

namespace CellSearch.Regex

open CellSearch.Unicode

/-- What an escape sequence stands for. -/
inductive Escape where
  /-- A character; `byte` is whether it was written as a byte, with two hexadecimal digits. -/
  | literal (c : Char) (byte : Bool)
  | set (s : CharSet)
  | look (l : Look)
deriving DecidableEq, Repr, Inhabited

/-- Whether a character has a meaning in patterns, so that it must be escaped to stand for
itself. -/
def isMeta (c : Char) : Bool :=
  ['\\', '.', '+', '*', '?', '(', ')', '|', '[', ']', '\x7b', '\x7d', '^', '$', '#', '&', '-',
    '~'].contains c

/-- Whether an escaped character stands for itself. -/
def isEscapable (c : Char) : Bool :=
  isMeta c || (c.toNat < 0x80 && !c.isAlphanum && c != '<' && c != '>')

/-- A set under the flags: closed under case if letters match in either case, then
complemented if `negated`. A set of bytes has no complement. -/
def Flags.close (flags : Flags) (negated : Bool) (s : CharSet) : Option CharSet :=
  if flags.unicode then
    let s := if flags.caseless then .folded s else s
    some (if negated then .compl s else s)
  else if negated then none
  else some (if flags.caseless then .asciiFolded s else s)

/-! ## Sets by letter -/

/-- The set of digits, white space or word characters that a letter stands for. -/
def letterSet? (flags : Flags) : Char → Option CharSet
  | 'd' => some (if flags.unicode then .digit else .asciiDigit)
  | 's' => some (if flags.unicode then .space else .asciiSpace)
  | 'w' => some (if flags.unicode then .word else .asciiWord)
  | _ => none

/-- The set that a letter stands for, its complement for a capital. -/
def escapedSet? (flags : Flags) (c : Char) : Option CharSet :=
  match letterSet? flags c with
  | some s => some s
  | none =>
    match letterSet? flags c.toLower with
    | some s => if flags.unicode then some (.compl s) else none
    | none => none

/-! ## Sets by property -/

/-- Read the name of a property up to a closing brace. -/
def readName (flags : Flags) : (fuel : Nat) → List Char → Option (List Char × List Char)
  | 0, _ => none
  | fuel + 1, cs =>
    match flags.skip cs with
    | [] => none
    | '\x7d' :: rest => some ([], rest)
    | c :: rest => (readName flags fuel rest).map fun (name, rest) => (c :: name, rest)

/-- Cut a text at the first place where a separator stands. -/
def cutAt? (separator : List Char) : List Char → Option (List Char × List Char)
  | [] => none
  | c :: rest =>
    if separator.isPrefixOf (c :: rest) then some ([], (c :: rest).drop separator.length)
    else (cutAt? separator rest).map fun (before, after) => (c :: before, after)

/-- The property of a name, which may hold a property and a value with `!=`, `:` or `=`
between them. -/
def propertyOfName? (name : List Char) : Option Property :=
  match cutAt? ['!', '='] name with
  | some (p, v) => Property.ofNameAndValue? p v
  | none =>
    match cutAt? [':'] name with
    | some (p, v) => Property.ofNameAndValue? p v
    | none =>
      match cutAt? ['='] name with
      | some (p, v) => Property.ofNameAndValue? p v
      | none => Property.ofValue? name

/-- Read a property after `p` or `P`: a name in braces or a single letter. -/
def readProperty (flags : Flags) (negated : Bool) (cs : List Char) :
    Option (CharSet × List Char) :=
  if flags.unicode then
    let read :=
      match flags.skip cs with
      | [] => none
      | '\x7b' :: rest =>
        match readName flags (rest.length + 1) rest with
        | none => none
        | some (name, rest) => (propertyOfName? name).map fun p => (p, rest)
      | c :: rest =>
        if c = '\\' then none
        else (Property.ofValue? [c]).map fun p => (p, flags.skip rest)
    match read with
    | none => none
    | some (p, rest) => (flags.close negated (.property p)).map fun s => (s, rest)
  else none

/-! ## Characters by code point -/

/-- Read a code point after `x`, `u` or `U`: digits of a fixed number or any in braces. -/
def readCode (flags : Flags) (kind : Char) (cs : List Char) : Option (Escape × List Char) :=
  match flags.skip cs with
  | '\x7b' :: rest =>
    match readHexBraced flags (rest.length + 1) none rest with
    | none => none
    | some (n, rest) => (charOfCode? n).map fun c => (.literal c false, rest)
  | rest =>
    let count := if kind = 'x' then 2 else if kind = 'u' then 4 else 8
    match readHexDigits flags count 0 rest with
    | none => none
    | some (n, rest) => (charOfCode? n).map fun c => (.literal c (kind == 'x'), rest)

/-! ## Word boundaries -/

/-- Whether a character can stand in the name of a word boundary. -/
def isBoundaryNameChar (c : Char) : Bool :=
  c.isAlpha || c = '-'

/-- Read the characters of the name of a word boundary. -/
def readBoundaryName (flags : Flags) : (fuel : Nat) → List Char → List Char × List Char
  | 0, cs => ([], cs)
  | _, [] => ([], [])
  | fuel + 1, c :: rest =>
    if isBoundaryNameChar c then
      let (name, rest) := readBoundaryName flags fuel (flags.skip rest)
      (c :: name, rest)
    else ([], c :: rest)

/-- The word boundary of a name. -/
def boundaryOfName? (ascii : Bool) (name : List Char) : Option Look :=
  match String.ofList name with
  | "start" => some (.wordStart ascii)
  | "end" => some (.wordEnd ascii)
  | "start-half" => some (.wordStartHalf ascii)
  | "end-half" => some (.wordEndHalf ascii)
  | _ => none

/-- Read what follows `\b`: a name in braces, or else nothing. A brace before anything but a
name is left to the counts of a repetition. -/
def readBoundary (flags : Flags) (cs : List Char) : Option (Look × List Char) :=
  let plain : Look := .wordBoundary !flags.unicode
  match cs with
  | '\x7b' :: rest =>
    match flags.skip rest with
    | [] => none
    | c :: inner =>
      if isBoundaryNameChar c then
        match readBoundaryName flags (inner.length + 1) (c :: inner) with
        | (name, '\x7d' :: rest) =>
          (boundaryOfName? (!flags.unicode) name).map fun l => (l, rest)
        | _ => none
      else some (plain, cs)
  | _ => some (plain, cs)

/-! ## All together -/

/-- Read an escape sequence after its backslash. -/
def readEscape (flags : Flags) : List Char → Option (Escape × List Char)
  | [] => none
  | c :: rest =>
    let ascii := !flags.unicode
    match c with
    | 'x' | 'u' | 'U' => readCode flags c rest
    | 'p' => (readProperty flags false rest).map fun (s, rest) => (.set s, rest)
    | 'P' => (readProperty flags true rest).map fun (s, rest) => (.set s, rest)
    | 'd' | 's' | 'w' | 'D' | 'S' | 'W' => (escapedSet? flags c).map fun s => (.set s, rest)
    | 'a' => some (.literal '\x07' false, rest)
    | 'f' => some (.literal '\x0c' false, rest)
    | 't' => some (.literal '\t' false, rest)
    | 'n' => some (.literal '\n' false, rest)
    | 'r' => some (.literal '\r' false, rest)
    | 'v' => some (.literal '\x0b' false, rest)
    | 'A' => some (.look .textStart, rest)
    | 'z' => some (.look .textEnd, rest)
    | 'b' => (readBoundary flags rest).map fun (l, rest) => (.look l, rest)
    | 'B' => some (.look (.notWordBoundary ascii), rest)
    | '<' => some (.look (.wordStart ascii), rest)
    | '>' => some (.look (.wordEnd ascii), rest)
    | c => if isEscapable c then some (.literal c false, rest) else none

end CellSearch.Regex
