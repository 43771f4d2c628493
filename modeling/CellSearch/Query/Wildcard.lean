import CellSearch.Regex.Escape

/-!
# Wildcards

In a wildcard query `*` stands for any run of characters, `?` for any one, and every other
character for itself. The query is searched as the pattern that says the same.
-/

namespace CellSearch.Wildcard

/-- The pattern that a character of a wildcard query stands for. -/
def patternOfChar (c : Char) : List Char :=
  if c = '*' then ['.', '*']
  else if c = '?' then ['.']
  else if Regex.isMeta c then ['\\', c]
  else [c]

/-- The pattern that a wildcard query stands for. -/
def toPattern (query : List Char) : List Char :=
  query.flatMap patternOfChar

end CellSearch.Wildcard
