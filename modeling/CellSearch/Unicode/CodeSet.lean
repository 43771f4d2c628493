/-!
# Sets of code points

A character property is a set of code points that falls into few runs. A run is an arithmetic
progression, since the cased letters of many scripts alternate between upper and lower case.
The runs of a set are kept in increasing order and do not interleave, so that membership is a
binary search.

A table is a list of ranges, or a text with one word per run:

* `5F` is a single code point;
* `41-5A` is every code point from `41` to `5A`;
* `100-136/2` is every second one, from `100` to `136`.
-/

namespace CellSearch.Unicode

/-- The code points `first`, `first + step`, … up to `last`. -/
structure Run where
  first : Nat
  last : Nat
  step : Nat
deriving DecidableEq, Repr, Inhabited

namespace Run

/-- Whether a code point is a term of the progression. -/
def contains (r : Run) (n : Nat) : Bool :=
  r.first ≤ n && n ≤ r.last && (n - r.first) % r.step == 0

end Run

/-- The runs of a set, in increasing order. -/
structure CodeSet where
  runs : Array Run
deriving DecidableEq, Repr, Inhabited

namespace CodeSet

/-! ## Membership -/

/-- The last of the runs `lo … hi - 1` that does not begin after `n`, if one does not. -/
def search (runs : Array Run) (n : Nat) : (fuel lo hi : Nat) → Option Run
  | 0, _, _ => none
  | fuel + 1, lo, hi =>
    if lo < hi then
      let mid := (lo + hi) / 2
      match runs[mid]? with
      | none => none
      | some r =>
        if n < r.first then search runs n fuel lo mid
        else if mid + 1 < hi then
          match search runs n fuel (mid + 1) hi with
          | some later => some later
          | none => some r
        else some r
    else none

/-- Whether the code point belongs to the set. -/
def containsCode (s : CodeSet) (n : Nat) : Bool :=
  match search s.runs n (s.runs.size + 1) 0 s.runs.size with
  | some r => r.contains n
  | none => false

/-- Whether the character belongs to the set. -/
def contains (s : CodeSet) (c : Char) : Bool :=
  s.containsCode c.toNat

/-! ## Reading a table -/

/-- The set of the code points in a list of ranges, each with its first and its last. -/
def ofRanges (ranges : List (Nat × Nat)) : CodeSet :=
  ⟨(ranges.map fun (first, last) => ⟨first, last, 1⟩).toArray⟩

/-- The words of a table: what is left between blanks and line ends. -/
def words : List Char → List (List Char)
  | [] => []
  | c :: rest =>
    if c = ' ' ∨ c = '\n' then [] :: words rest
    else
      match words rest with
      | [] => [[c]]
      | w :: ws => (c :: w) :: ws

/-- The value of a hexadecimal digit, upper case. -/
def hexDigit (c : Char) : Nat :=
  if c ≤ '9' then c.toNat - '0'.toNat else c.toNat - 'A'.toNat + 10

/-- The number that a word of hexadecimal digits writes. -/
def hexNumber (cs : List Char) : Nat :=
  cs.foldl (fun n c => 16 * n + hexDigit c) 0

/-- The run that one word of a table writes. -/
def runOfWord (word : List Char) : Run :=
  let (first, rest) := word.span fun c => c != '-'
  match rest with
  | [] => ⟨hexNumber first, hexNumber first, 1⟩
  | _ :: rest =>
    let (last, rest) := rest.span fun c => c != '/'
    match rest with
    | [] => ⟨hexNumber first, hexNumber last, 1⟩
    | _ :: step => ⟨hexNumber first, hexNumber last, hexNumber step⟩

/-- The set that a table writes. -/
def ofText (table : String) : CodeSet :=
  ⟨(((words table.toList).filter fun w => !w.isEmpty).map runOfWord).toArray⟩

end CodeSet

end CellSearch.Unicode
