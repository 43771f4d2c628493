/-!
# Intervals

Half-open intervals of natural numbers serve twice: as spans of bytes in a text and as ranges
of rows in a table. A list of intervals stands for the numbers that it covers, and `merge` gives
the list that covers the same numbers with the fewest intervals.
-/

namespace CellSearch

/-- The numbers from `start` up to, and without, `stop`. -/
structure Interval where
  start : Nat
  stop : Nat
deriving DecidableEq, Repr, Inhabited

namespace Interval

/-- The interval with `len` numbers from `start`. -/
def ofLength (start len : Nat) : Interval := ⟨start, start + len⟩

/-- How many numbers the interval holds. -/
def len (i : Interval) : Nat := i.stop - i.start

/-- Whether a number lies in the interval. -/
def contains (i : Interval) (n : Nat) : Bool := i.start ≤ n && n < i.stop

/-! ## Merging -/

/-- The order in which intervals are merged: by start, then by end. -/
def precedes (a b : Interval) : Bool :=
  a.start < b.start || (a.start == b.start && a.stop ≤ b.stop)

/-- Extend `current` by the intervals after it that overlap or touch it, and go on with the
first that does neither. -/
def absorb (current : Interval) : List Interval → List Interval
  | [] => [current]
  | i :: rest =>
    if i.start ≤ current.stop then absorb ⟨current.start, max current.stop i.stop⟩ rest
    else current :: absorb i rest

/-- Sort the intervals, and join those that overlap or touch. -/
def merge (intervals : List Interval) : List Interval :=
  match intervals.mergeSort precedes with
  | [] => []
  | i :: rest => absorb i rest

/-- Whether some interval of the list holds the number. -/
def covers (intervals : List Interval) (n : Nat) : Bool :=
  intervals.any fun i => i.contains n

end Interval

end CellSearch
