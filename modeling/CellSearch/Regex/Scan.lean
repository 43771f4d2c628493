import CellSearch.Regex.Flags
import CellSearch.Unicode.CharClass
import CellSearch.Unicode.WhiteSpace

/-!
# Reading the parts of a pattern

Readers take the text of a pattern and give back what they read with the text that is left.
Under the `x` flag white space does not count, nor does a comment from `#` to the end of its
line; readers skip both behind most characters.
-/

namespace CellSearch.Regex

open CellSearch.Unicode

/-- Skip white space and comments. -/
def skipBlanks : (inComment : Bool) → List Char → List Char
  | _, [] => []
  | true, c :: rest => skipBlanks (c != '\n') rest
  | false, c :: rest =>
    if isWhiteSpace c then skipBlanks false rest
    else if c = '#' then skipBlanks true rest
    else c :: rest

/-- Skip what does not count under the flags. -/
def Flags.skip (flags : Flags) (cs : List Char) : List Char :=
  if flags.verbose then skipBlanks false cs else cs

/-! ## Numbers -/

/-- Read digits, at most as many as there is fuel. -/
def readDigits (flags : Flags) : (fuel : Nat) → List Char → List Char × List Char
  | 0, cs => ([], cs)
  | _, [] => ([], [])
  | fuel + 1, c :: rest =>
    if c.isDigit then
      let (digits, rest) := readDigits flags fuel (flags.skip rest)
      (c :: digits, rest)
    else ([], c :: rest)

/-- Read a decimal number of at most 32 bits, with white space around it. -/
def readDecimal (flags : Flags) (cs : List Char) : Option (Nat × List Char) :=
  let cs := cs.dropWhile isWhiteSpace
  let (digits, rest) := readDigits flags cs.length cs
  let value := Nat.ofDigitChars 10 digits 0
  if digits.isEmpty || value ≥ 0x100000000 then none else some (value, rest.dropWhile isWhiteSpace)

/-- Read a given number of hexadecimal digits after a number that has the value `acc`. -/
def readHexDigits (flags : Flags) : (count acc : Nat) → List Char → Option (Nat × List Char)
  | 0, acc, cs => some (acc, cs)
  | _, _, [] => none
  | count + 1, acc, c :: rest =>
    match hexValue? c with
    | none => none
    | some d => readHexDigits flags count (16 * acc + d) (flags.skip rest)

/-- Read hexadecimal digits up to a closing brace. -/
def readHexBraced (flags : Flags) : (fuel : Nat) → (acc : Option Nat) → List Char →
    Option (Nat × List Char)
  | 0, _, _ => none
  | fuel + 1, acc, cs =>
    match flags.skip cs with
    | [] => none
    | '\x7d' :: rest => acc.map fun n => (n, flags.skip rest)
    | c :: rest =>
      match hexValue? c with
      | none => none
      | some d => readHexBraced flags fuel (some (16 * acc.getD 0 + d)) rest

/-- The character with a given code point. -/
def charOfCode? (n : Nat) : Option Char :=
  if n.isValidChar then some (Char.ofNat n) else none

/-! ## Repetition counts -/

/-- How often a part may be repeated. -/
structure Bounds where
  least : Nat
  most : Option Nat
deriving DecidableEq, Repr, Inhabited

/-- Read the counts after an opening brace, and the closing brace: `n`, `n,` or `n,m`, with `n`
at most `m`. -/
def readBounds (flags : Flags) (cs : List Char) : Option (Bounds × List Char) :=
  match readDecimal flags (flags.skip cs) with
  | none => none
  | some (least, ',' :: rest) =>
    match flags.skip rest with
    | '\x7d' :: rest => some (⟨least, none⟩, rest)
    | rest =>
      match readDecimal flags rest with
      | some (most, '\x7d' :: rest) =>
        if least ≤ most then some (⟨least, some most⟩, rest) else none
      | _ => none
  | some (n, '\x7d' :: rest) => some (⟨n, some n⟩, rest)
  | some _ => none

end CellSearch.Regex
