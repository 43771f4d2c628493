import CellSearch.Unicode.CharClass

/-!
# Quoted text

Text in messages is quoted so that every character can be told: quotes, backslashes and the
common controls are escaped, and a character that cannot be seen alone is written by its code
point.
-/

namespace CellSearch.Text

open CellSearch.Unicode

/-- Whether a character can be seen where it is printed. -/
def isPrintable (c : Char) : Bool :=
  if c.toNat < 0x7F then 0x20 ≤ c.toNat
  else
    !inCategories [.control, .format, .privateUse, .unassigned, .lineSeparator,
      .paragraphSeparator, .spaceSeparator] c

/-- A character inside quotes. -/
def quoteChar (c : Char) : List Char :=
  match c with
  | '\x00' => ['\\', '0']
  | '\t' => ['\\', 't']
  | '\r' => ['\\', 'r']
  | '\n' => ['\\', 'n']
  | '\\' => ['\\', '\\']
  | '"' => ['\\', '"']
  | c =>
    if isPrintable c && !extendsGrapheme c then [c]
    else ['\\', 'u', '\x7b'] ++ Nat.toDigits 16 c.toNat ++ ['\x7d']

/-- A text in quotes. -/
def quote (s : String) : String :=
  String.ofList ('"' :: s.toList.flatMap quoteChar ++ ['"'])

end CellSearch.Text
