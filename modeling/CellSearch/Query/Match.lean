import CellSearch.Query.Prepared
import CellSearch.Regex.Search

/-!
# Matching a cell

A cell is normalized like the query, searched, and the spans found are carried back to the text
of the cell. Spans that overlap or touch are reported as one.
-/

namespace CellSearch

open CellSearch.Text CellSearch.Unicode

namespace Prepared

/-! ## Terms -/

/-- Whether a place is free of word characters on both sides. -/
def standsAlone (before after : Option Char) : Bool :=
  !before.any isWordChar && !after.any isWordChar

/-- The span of a term, unless whole words are asked for and it is part of a longer one. -/
def spanIfWhole (wholeWord : Bool) (term : List Char) (before after : Option Char)
    (offset : Nat) : List Interval :=
  if !wholeWord || standsAlone before after then [.ofLength offset (byteLength term)] else []

/-- The occurrences of a term from left to right, without overlap. An occurrence inside a longer
word is passed over like any other. `skip` characters belong to the occurrence before. -/
def occurrences (wholeWord : Bool) (term : List Char) : (before : Option Char) →
    (rest : List Char) → (offset skip : Nat) → List Interval
  | _, [], _, _ => []
  | _, c :: rest, offset, skip + 1 =>
    occurrences wholeWord term (some c) rest (offset + c.utf8Size) skip
  | before, c :: rest, offset, 0 =>
    if term.isPrefixOf (c :: rest) then
      spanIfWhole wholeWord term before ((c :: rest).drop term.length).head? offset ++
        occurrences wholeWord term (some c) rest (offset + c.utf8Size) (term.length - 1)
    else occurrences wholeWord term (some c) rest (offset + c.utf8Size) 0

/-- The spans of a term in a normalized text. -/
def termSpans (mode : MatchMode) (wholeWord : Bool) (text term : List Char) : List Interval :=
  if term.isEmpty then []
  else
    match mode with
    | .contains => occurrences wholeWord term none text 0 0
    | .startsWith =>
      if term.isPrefixOf text then
        spanIfWhole wholeWord term none (text.drop term.length).head? 0
      else []
    | .endsWith =>
      if term.isSuffixOf text then
        let front := text.take (text.length - term.length)
        spanIfWhole wholeWord term front.getLast? none (byteLength front)
      else []
    | .equals => if text = term then spanIfWhole wholeWord term none none 0 else []
    | .wildcard | .regex => []

/-- The spans of several terms. If all terms are asked for and one has no span, none has. -/
def combineTerms (mode : TermMode) (spans : List (List Interval)) : List Interval :=
  if mode = .all ∧ spans.any List.isEmpty then [] else spans.flatten

/-! ## Cells -/

/-- The spans of a query in a normalized text. -/
def normalizedSpans (p : Prepared) (text : List Char) : List Interval :=
  match p.matcher with
  | .pattern _ r => r.findAll text
  | .terms terms =>
    let d := p.descriptor
    combineTerms d.termMode (terms.map fun t => termSpans d.mode d.wholeWord text t)
  | .empty | .invalid => []

/-- The spans of the source text that spans of a normalized one came from. Two of them can share
a character. -/
def sourceSpans (n : NormalizedText) (spans : List Interval) : List Interval :=
  if n.isAligned then spans else Interval.merge (spans.map n.sourceSpan)

/-- The spans of a descriptor in the text of a cell. A cell without text never matches. -/
def matchText (p : Prepared) (text : List Char) : List Interval :=
  if text.isEmpty then []
  else if p.hasQuery then
    let n := normalize p.descriptor.normalizeOptions text
    sourceSpans n (Interval.merge (p.normalizedSpans n.text))
  else if p.descriptor.allowEmpty then [⟨0, byteLength text⟩]
  else []

end Prepared

end CellSearch
