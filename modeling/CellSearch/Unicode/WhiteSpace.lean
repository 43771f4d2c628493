/-!
# White space

The characters with the White_Space property. The set is small and closed, and every rule of
this library that speaks of blanks means it.
-/

namespace CellSearch.Unicode

/-- Whether a character is white space. -/
def isWhiteSpace (c : Char) : Bool :=
  let n := c.toNat
  (0x9 ≤ n && n ≤ 0xD) || n == 0x20 || n == 0x85 || n == 0xA0 || n == 0x1680 ||
    (0x2000 ≤ n && n ≤ 0x200A) || n == 0x2028 || n == 0x2029 || n == 0x202F || n == 0x205F ||
    n == 0x3000

/-- Whether a character is one of the blanks of ASCII: a tab, a line feed, a vertical tab, a form
feed, a carriage return or a space. -/
def isAsciiBlank (c : Char) : Bool :=
  c == '\t' || c == '\n' || c == '\x0b' || c == '\x0c' || c == '\r' || c == ' '

/-- The blanks of ASCII are its white space; the separators from 0x1C to 0x1F are not. -/
theorem isAsciiBlank_eq {c : Char} (h : c.toNat < 0x80) : isAsciiBlank c = isWhiteSpace c := by
  have hall : ∀ n : Fin 0x80, isAsciiBlank (.ofNat n) = isWhiteSpace (.ofNat n) := by decide
  have hone := hall ⟨c.toNat, h⟩
  rwa [Char.ofNat_toNat] at hone

/-- The text without the white space at either end. -/
def trim (cs : List Char) : List Char :=
  ((cs.dropWhile isWhiteSpace).reverse.dropWhile isWhiteSpace).reverse

/-- The pieces of a text between white space, empty ones included. -/
def fields : List Char → List (List Char)
  | [] => [[]]
  | c :: rest =>
    if isWhiteSpace c then [] :: fields rest
    else
      match fields rest with
      | [] => [[c]]
      | w :: ws => (c :: w) :: ws

/-- The words of a text: the pieces between white space that are not empty, in order. -/
def splitWhiteSpace (cs : List Char) : List (List Char) :=
  (fields cs).filter fun w => !w.isEmpty

end CellSearch.Unicode
