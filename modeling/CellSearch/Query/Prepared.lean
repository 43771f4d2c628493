import CellSearch.Query.Descriptor
import CellSearch.Query.Wildcard
import CellSearch.Regex.Parse

/-!
# Prepared descriptors

A descriptor is prepared once and then matched against many cells. A query that is blank after
normalization matches by `allowEmpty` alone; one that is no pattern matches nothing.
-/

namespace CellSearch

/-- The prepared form of a query. -/
inductive Matcher where
  /-- The query is blank. -/
  | empty
  /-- The terms of a literal query. -/
  | terms (terms : List (List Char))
  /-- A pattern, with the text that writes it. -/
  | pattern (source : List Char) (r : Regex)
  /-- A text that writes no pattern. -/
  | invalid
deriving DecidableEq, Repr, Inhabited

namespace Matcher

/-- The text of the pattern of a query: for whole words it is wrapped in word boundaries. -/
def patternText (d : Descriptor) (query : List Char) : List Char :=
  let pattern := if d.mode = .wildcard then Wildcard.toPattern query else query
  if d.wholeWord then "\\b(?:".toList ++ pattern ++ ")\\b".toList else pattern

/-- The prepared form of a normalized query. -/
def ofQuery (d : Descriptor) (query : List Char) : Matcher :=
  if (Unicode.trim query).isEmpty then empty
  else if d.mode.isPattern then
    let text := patternText d query
    match Regex.parse (!d.isCaseSensitive) text with
    | some r => pattern text r
    | none => invalid
  else terms (Unicode.splitWhiteSpace query)

end Matcher

/-- A descriptor with what is needed to match it. -/
structure Prepared where
  descriptor : Descriptor
  normalizedQuery : List Char
  matcher : Matcher
deriving DecidableEq, Repr, Inhabited

namespace Prepared

/-- Prepare a descriptor. -/
def ofDescriptor (d : Descriptor) : Prepared :=
  let query := (Text.normalize d.normalizeOptions d.query.toList).text
  ⟨d, query, Matcher.ofQuery d query⟩

/-- Whether there is something to look for. -/
def hasQuery (p : Prepared) : Bool :=
  p.matcher != .empty

/-- Whether the query can be matched. -/
def isValid (p : Prepared) : Bool :=
  p.matcher != .invalid

end Prepared

end CellSearch
