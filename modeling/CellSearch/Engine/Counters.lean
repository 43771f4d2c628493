/-!
# Counters

The engine counts what it does. The counters are published in the text format that metrics
collectors read, by name, each with its help and its type.
-/

namespace CellSearch

/-- What an engine has done so far. -/
structure Counters where
  fullScans : Nat := 0
  incrementalFlushes : Nat := 0
  fallbacks : Nat := 0
  rowsMatched : Nat := 0
  resultsEmitted : Nat := 0
deriving DecidableEq, Repr, Inhabited

namespace Counters

/-- The published text of one counter. -/
def family (name help : String) (value : Nat) : String :=
  "# HELP " ++ name ++ " " ++ help ++ "\n# TYPE " ++ name ++ " counter\n" ++ name ++ " " ++
    toString value ++ "\n"

/-- The published text of the counters. -/
def render (c : Counters) : String :=
  family "fallbacks" "Number of flushes that fell back to a full scan" c.fallbacks ++
  family "full_scans" "Number of full table scans" c.fullScans ++
  family "incremental_flushes" "Number of pending-edit flushes applied without a rescan"
    c.incrementalFlushes ++
  family "results_emitted" "Number of cell results produced" c.resultsEmitted ++
  family "rows_matched" "Number of rows evaluated" c.rowsMatched

end Counters

end CellSearch
