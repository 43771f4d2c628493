/-!
# Runs of a case mapping

A simple case mapping sends a character to one character. Neighbouring characters are moved by
the same distance, so that a mapping is a short list of runs.
-/

namespace CellSearch.Unicode

/-- The code points `first`, `first + step`, … up to `last`, each moved by `shift`. -/
structure CaseRun where
  first : Nat
  last : Nat
  step : Nat
  shift : Int
deriving DecidableEq, Repr, Inhabited

namespace CaseRun

/-- Whether a code point is moved by the run. -/
def covers (r : CaseRun) (n : Nat) : Bool :=
  r.first ≤ n && n ≤ r.last && (n - r.first) % r.step == 0

/-- Where the run moves a code point. -/
def image (r : CaseRun) (n : Nat) : Nat :=
  ((n : Int) + r.shift).toNat

/-- Where a list of runs moves a code point; one that no run covers stays. -/
def apply (runs : List CaseRun) (n : Nat) : Nat :=
  match runs.find? fun r => r.covers n with
  | some r => r.image n
  | none => n

/-- The code points that a list of runs moves to `n`. -/
def sources (runs : List CaseRun) (n : Nat) : List Nat :=
  runs.filterMap fun r =>
    let source := ((n : Int) - r.shift).toNat
    if r.covers source && r.image source == n then some source else none

end CaseRun

end CellSearch.Unicode
