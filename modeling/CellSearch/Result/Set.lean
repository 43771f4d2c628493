import CellSearch.PartitionPoint
import CellSearch.Result.Basic

/-!
# Result sets

The results of a search in the order of their rows. Rows are found by binary search, and the
set follows the edits of the table: rows removed, rows inserted, and rows evaluated afresh.
-/

namespace CellSearch

/-- Results in the order of their rows. -/
structure ResultSet (K : Type) where
  items : Array (SearchResult K)
deriving DecidableEq, Repr, Inhabited

namespace ResultSet

variable {K : Type}

/-- No results. -/
def empty : ResultSet K := ⟨#[]⟩

/-- The set of results that are in order. -/
def ofList (items : List (SearchResult K)) : ResultSet K := ⟨items.toArray⟩

/-- The results in order. -/
def toList (s : ResultSet K) : List (SearchResult K) := s.items.toList

/-- How many results there are. -/
def size (s : ResultSet K) : Nat := s.items.size

/-- The index of the first result whose row is `row` or later. -/
def lowerBound (s : ResultSet K) (row : Nat) : Nat :=
  partitionPoint (fun r => r.row < row) s.items

/-- Drop the results of `count` rows from `start` on and close the gap; also the number of
results dropped. -/
def removeRows (s : ResultSet K) (start count : Nat) : ResultSet K × Nat :=
  if count = 0 then (s, 0)
  else
    let lo := s.lowerBound start
    let hi := s.lowerBound (start + count)
    (⟨s.items.extract 0 lo ++ (s.items.extract hi s.size).map (SearchResult.lower count)⟩,
      hi - lo)

/-- Open a gap of `count` rows at `start`. -/
def insertRows (s : ResultSet K) (start count : Nat) : ResultSet K :=
  if count = 0 then s
  else
    let lo := s.lowerBound start
    ⟨s.items.extract 0 lo ++ (s.items.extract lo s.size).map (SearchResult.raise count)⟩

/-- Replace the results of the rows in an interval. -/
def spliceRows (s : ResultSet K) (rows : Interval) (fresh : List (SearchResult K)) :
    ResultSet K :=
  let lo := s.lowerBound rows.start
  let hi := s.lowerBound rows.stop
  ⟨s.items.extract 0 lo ++ fresh.toArray ++ s.items.extract hi s.size⟩

end ResultSet

end CellSearch
