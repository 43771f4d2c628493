/-!
# Styled text

On a terminal a style is a sequence of codes before a text and a reset behind it. A reset inside
the text would end the style early, so that the style is opened again after it.
-/

namespace CellSearch.Report

/-- A style: its codes, in ascending order. -/
structure Style where
  codes : List Nat
deriving DecidableEq, Repr, Inhabited

namespace Style

/-- The character that begins a sequence. -/
def escape : Char := '\x1b'

/-- The sequence that ends every style. -/
def reset : List Char := [escape, '[', '0', 'm']

/-- The sequence that begins a style. -/
def opening (s : Style) : List Char :=
  [escape, '['] ++ (";".intercalate (s.codes.map toString)).toList ++ ['m']

/-- A text with a style opened again after every reset in it. -/
def reopen (opening : List Char) : List Char → List Char
  | '\x1b' :: '[' :: '0' :: 'm' :: rest => reset ++ opening ++ reopen opening rest
  | c :: rest => c :: reopen opening rest
  | [] => []

/-- A text in a style, or the bare text where there is no color. -/
def paint (color : Bool) (s : Style) (text : List Char) : List Char :=
  if color then s.opening ++ reopen s.opening text ++ reset else text

/-- The style of what was found. -/
def found : Style := ⟨[1, 33]⟩

/-- The style of the head of a report. -/
def heading : Style := ⟨[32]⟩

/-- The style of names. -/
def faint : Style := ⟨[2]⟩

/-- The style of a report that nothing was found. -/
def notice : Style := ⟨[33]⟩

end Style

end CellSearch.Report
