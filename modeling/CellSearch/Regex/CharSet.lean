import CellSearch.Unicode.CaseFolding
import CellSearch.Unicode.Property

/-!
# Sets of characters in a pattern

A set is kept as the pattern describes it. Whether it holds a character is decided when a text
is searched, so that set operations and case folding need no tables of their own.
-/

namespace CellSearch.Regex

open CellSearch.Unicode

/-- A set of characters. -/
inductive CharSet where
  | empty
  | range (first last : Char)
  /-- The characters equal to `c` up to case. -/
  | caseless (c : Char)
  | property (p : Property)
  /-- The characters that extend a word of a pattern. -/
  | word
  | union (a b : CharSet)
  | inter (a b : CharSet)
  | diff (a b : CharSet)
  | symmDiff (a b : CharSet)
  | compl (a : CharSet)
  /-- The characters equal up to case to one of the set. -/
  | folded (a : CharSet)
  /-- The same with the case of ASCII letters only. -/
  | asciiFolded (a : CharSet)
deriving DecidableEq, Repr, Inhabited

namespace CharSet

/-- The set of one character. -/
def char (c : Char) : CharSet := range c c

/-- The union of a list of sets. -/
def unions : List CharSet → CharSet
  | [] => empty
  | [a] => a
  | a :: rest => union a (unions rest)

/-- Whether the set holds a character. -/
def contains : CharSet → Char → Bool
  | empty, _ => false
  | range first last, c => first ≤ c && c ≤ last
  | caseless a, c => simpleFold a == simpleFold c
  | property p, c => p.holds c
  | word, c => isPatternWordChar c
  | union a b, c => a.contains c || b.contains c
  | inter a b, c => a.contains c && b.contains c
  | diff a b, c => a.contains c && !b.contains c
  | symmDiff a b, c => a.contains c != b.contains c
  | compl a, c => !a.contains c
  | folded a, c => (caseVariants c).any a.contains
  | asciiFolded a, c => a.contains c || a.contains c.toLower || a.contains c.toUpper

/-! ## Named sets -/

/-- Every character. -/
def any : CharSet := compl empty

/-- Every character but the line feed. -/
def notLineFeed : CharSet := compl (char '\n')

/-- Every character but the line feed and the carriage return. -/
def notLineEnd : CharSet := compl (union (char '\n') (char '\r'))

/-- The decimal digits of every script. -/
def digit : CharSet := property (.categories [.decimalNumber])

/-- White space. -/
def space : CharSet := property (.binary .whiteSpace)

/-- The letters of ASCII. -/
def asciiAlpha : CharSet := union (range 'A' 'Z') (range 'a' 'z')

/-- The digits of ASCII. -/
def asciiDigit : CharSet := range '0' '9'

/-- The white space of ASCII. -/
def asciiSpace : CharSet := union (range '\t' '\r') (char ' ')

/-- The word characters of ASCII. -/
def asciiWord : CharSet := unions [asciiDigit, asciiAlpha, char '_']

/-- The ASCII sets that a bracketed set can name, as in `[[:alpha:]]`. -/
def asciiNames : List (String × CharSet) :=
  [("alnum", union asciiDigit asciiAlpha),
   ("alpha", asciiAlpha),
   ("ascii", range '\x00' '\x7f'),
   ("blank", union (char '\t') (char ' ')),
   ("cntrl", union (range '\x00' '\x1f') (char '\x7f')),
   ("digit", asciiDigit),
   ("graph", range '!' '~'),
   ("lower", range 'a' 'z'),
   ("print", range ' ' '~'),
   ("punct", unions [range '!' '/', range ':' '@', range '[' '`', range '\x7b' '~']),
   ("space", asciiSpace),
   ("upper", range 'A' 'Z'),
   ("word", asciiWord),
   ("xdigit", unions [asciiDigit, range 'A' 'F', range 'a' 'f'])]

/-- The ASCII set of a name. -/
def ofAsciiName? (name : List Char) : Option CharSet :=
  asciiNames.lookup (String.ofList name)

end CharSet

end CellSearch.Regex
