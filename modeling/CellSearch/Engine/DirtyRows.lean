import CellSearch.Interval

/-!
# Dirty rows

The rows that must be evaluated again, as intervals that neither overlap nor touch. They follow
the edits of the table like the results do.
-/

namespace CellSearch

/-- Rows that must be evaluated again. -/
structure DirtyRows where
  ranges : List Interval
deriving DecidableEq, Repr, Inhabited

namespace DirtyRows

/-- No rows. -/
def empty : DirtyRows := ⟨[]⟩

/-- The rows of some intervals, without the empty ones. -/
def ofRanges (ranges : List Interval) : DirtyRows :=
  ⟨Interval.merge (ranges.filter fun r => r.start < r.stop)⟩

/-- What an insertion does to an interval: it moves up what lies behind. -/
def raise (start count : Nat) (r : Interval) : List Interval :=
  if r.stop ≤ start then [r]
  else if start ≤ r.start then [⟨r.start + count, r.stop + count⟩]
  else [⟨r.start, start⟩, ⟨start + count, r.stop + count⟩]

/-- Insert dirty rows. -/
def insert (d : DirtyRows) (start count : Nat) : DirtyRows :=
  if count = 0 then d
  else ofRanges (d.ranges.flatMap (raise start count) ++ [.ofLength start count])

/-- What a removal does to an interval: it keeps what lies before and moves down what lies
behind. -/
def lower (start count : Nat) (r : Interval) : List Interval :=
  let stop := start + count
  (if r.start < start then [⟨r.start, min r.stop start⟩] else []) ++
    (if stop < r.stop then [⟨max r.start stop - count, r.stop - count⟩] else [])

/-- Remove rows, dirty or not. -/
def remove (d : DirtyRows) (start count : Nat) : DirtyRows :=
  if count = 0 then d else ofRanges (d.ranges.flatMap (lower start count))

/-- Mark rows as dirty. -/
def mark (d : DirtyRows) (rows : Interval) : DirtyRows :=
  ofRanges (d.ranges ++ [rows])

end DirtyRows

end CellSearch
