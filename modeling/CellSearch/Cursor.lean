import CellSearch.PartitionPoint
import CellSearch.Result.Basic

/-!
# Match cursors

A cursor walks through the matches of a list of results. It remembers the cell it stands on by
its key and its place, so that it can find the cell again when the results have changed.
-/

namespace CellSearch

/-- Where a cursor stands: a result and one of its spans, and the cell of the result. -/
structure CursorPosition where
  result : Nat
  span : Nat
  row : Nat
  columnIndex : Nat
deriving DecidableEq, Repr, Inhabited

/-- A position with the key of its row. -/
structure MatchCursor (K : Type) where
  position : Option CursorPosition
  key : Option K
deriving DecidableEq, Repr, Inhabited

namespace MatchCursor

variable {K : Type}

/-- A cursor that stands nowhere. -/
def unset : MatchCursor K := ⟨none, none⟩

/-- The match that the cursor stands on. -/
def current (cursor : MatchCursor K) (results : Array (SearchResult K)) :
    Option (SearchResult K × Interval) :=
  match cursor.position with
  | none => none
  | some pos =>
    match results[pos.result]? with
    | none => none
    | some r => r.spans[pos.span]?.map fun s => (r, s)

/-! ## Positions -/

/-- The cursor on a span of a result, and its position, if there is such a result. -/
def standOn (results : Array (SearchResult K)) (result span : Nat) :
    Option (MatchCursor K × CursorPosition) :=
  results[result]?.map fun r =>
    let pos : CursorPosition := ⟨result, span, r.row, r.columnIndex⟩
    (⟨some pos, some r.key⟩, pos)

/-- The last span of a result. -/
def lastSpan (results : Array (SearchResult K)) (result : Nat) : Nat :=
  match results[result]? with
  | some r => r.spans.length - 1
  | none => 0

/-- The cursor on the first match. -/
def first (results : Array (SearchResult K)) : Option (MatchCursor K × CursorPosition) :=
  standOn results 0 0

/-- The cursor on the last match. -/
def last (results : Array (SearchResult K)) : Option (MatchCursor K × CursorPosition) :=
  standOn results (results.size - 1) (lastSpan results (results.size - 1))

/-- Move if there is somewhere to move to; also the new position. -/
def moveTo (cursor : MatchCursor K) (target : Option (MatchCursor K × CursorPosition)) :
    MatchCursor K × Option CursorPosition :=
  match target with
  | some (cursor, pos) => (cursor, some pos)
  | none => (cursor, none)

/-! ## Steps -/

/-- Step to the next match. Behind the last the cursor stays, or goes to the first if it may
wrap. -/
def next (cursor : MatchCursor K) (results : Array (SearchResult K)) (wrap : Bool) :
    MatchCursor K × Option CursorPosition :=
  cursor.moveTo <|
    match cursor.position with
    | none => first results
    | some pos =>
      let spans := (results[pos.result]?.map fun r => r.spans.length).getD 0
      if pos.span + 1 < spans then standOn results pos.result (pos.span + 1)
      else if pos.result + 1 < results.size then standOn results (pos.result + 1) 0
      else if wrap then first results
      else none

/-- Step to the match before. Before the first the cursor stays, or goes to the last if it may
wrap. -/
def previous (cursor : MatchCursor K) (results : Array (SearchResult K)) (wrap : Bool) :
    MatchCursor K × Option CursorPosition :=
  cursor.moveTo <|
    match cursor.position with
    | none => last results
    | some pos =>
      if 0 < pos.span ∧ pos.result < results.size then
        standOn results pos.result (pos.span - 1)
      else if 0 < pos.result ∧ pos.result ≤ results.size then
        standOn results (pos.result - 1) (lastSpan results (pos.result - 1))
      else if wrap then last results
      else none

/-- Whether a cell comes before another: by row, then by column. -/
def cellBefore (row columnIndex : Nat) (r : SearchResult K) : Bool :=
  r.row < row || (r.row == row && r.columnIndex < columnIndex)

/-- Find the cursor's place in results that have changed: the same cell if it still matches,
else the first match at or behind it, else the last match. -/
def revalidate [DecidableEq K] (cursor : MatchCursor K) (results : Array (SearchResult K)) :
    MatchCursor K :=
  match cursor.position with
  | none => cursor
  | some pos =>
    if results.isEmpty then unset
    else
      let sameCell :=
        match cursor.key with
        | none => none
        | some key => results.findIdx? fun r => r.key == key && r.columnIndex == pos.columnIndex
      let target :=
        match sameCell with
        | some i => standOn results i (min pos.span (lastSpan results i))
        | none =>
          let i := partitionPoint (cellBefore pos.row pos.columnIndex) results
          if i = results.size then last results else standOn results i 0
      (cursor.moveTo target).1

end MatchCursor

end CellSearch
