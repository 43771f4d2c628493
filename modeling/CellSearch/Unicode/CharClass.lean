import CellSearch.Unicode.Category
import CellSearch.Unicode.Table

/-!
# Classes of characters

The classes that text search asks for: letters, digits, marks and the two notions of a word.
ASCII is decided without a table.

The words of a literal query and those of a pattern differ: `isWordChar` takes letters, numbers
of every kind and the underscore, `isPatternWordChar` also takes marks, connectors and joiners,
and of the numbers only the decimal digits.

Patterns and configuration files both write code points in hexadecimal digits, which are those of
ASCII only (`hexValue?`).
-/

namespace CellSearch.Unicode

/-- Whether a character is in one of the categories. -/
def inCategories (categories : List Category) (c : Char) : Bool :=
  categories.contains (Category.ofChar c)

/-- Whether a character is a mark: nonspacing, spacing or enclosing. -/
def isMark (c : Char) : Bool :=
  0x300 ≤ c.toNat &&
    (Category.nonspacingMarkSet.contains c || Category.spacingMarkSet.contains c ||
      Category.enclosingMarkSet.contains c)

/-- Whether a character is lower case. -/
def isLowercase (c : Char) : Bool :=
  if c.toNat < 0x80 then c.isLower
  else inCategories [.lowercaseLetter] c || Table.otherLowercase.contains c

/-- Whether a character is upper case. -/
def isUppercase (c : Char) : Bool :=
  if c.toNat < 0x80 then c.isUpper
  else inCategories [.uppercaseLetter] c || Table.otherUppercase.contains c

/-- The categories of letters. -/
def letterCategories : List Category :=
  [.uppercaseLetter, .lowercaseLetter, .titlecaseLetter, .modifierLetter, .otherLetter]

/-- Whether a character is alphabetic. -/
def isAlphabetic (c : Char) : Bool :=
  if c.toNat < 0x80 then c.isAlpha
  else
    inCategories (.letterNumber :: letterCategories) c || Table.otherAlphabetic.contains c ||
      Table.otherLowercase.contains c || Table.otherUppercase.contains c

/-- Whether a character is a number: a decimal digit, a letter number or another one. -/
def isNumeric (c : Char) : Bool :=
  if c.toNat < 0x80 then c.isDigit
  else inCategories [.decimalNumber, .letterNumber, .otherNumber] c

/-- Whether a character extends a word of a literal query. -/
def isWordChar (c : Char) : Bool :=
  isAlphabetic c || isNumeric c || c == '_'

/-- Whether a character extends a word of a pattern. -/
def isPatternWordChar (c : Char) : Bool :=
  if c.toNat < 0x80 then c.isAlphanum || c == '_'
  else
    isAlphabetic c || isMark c || inCategories [.decimalNumber, .connectorPunctuation] c ||
      Table.joinControl.contains c

/-- Whether a character extends the grapheme before it. -/
def extendsGrapheme (c : Char) : Bool :=
  0x300 ≤ c.toNat &&
    (inCategories [.nonspacingMark, .enclosingMark] c || Table.otherGraphemeExtend.contains c)

/-- The value of a hexadecimal digit. -/
def hexValue? (c : Char) : Option Nat :=
  if '0' ≤ c ∧ c ≤ '9' then some (c.toNat - '0'.toNat)
  else if 'a' ≤ c ∧ c ≤ 'f' then some (c.toNat - 'a'.toNat + 10)
  else if 'A' ≤ c ∧ c ≤ 'F' then some (c.toNat - 'A'.toNat + 10)
  else none

end CellSearch.Unicode
