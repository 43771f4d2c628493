import CellSearch.Config.Basic
import CellSearch.Engine.Counters
import CellSearch.Engine.Delta
import CellSearch.Query.Cache

/-!
# The search engine

The engine keeps the results of a set of descriptors over a table that it does not own. The
rows and the live columns are passed to every call that reads them; edits of the table are
reported as they happen, queued, and replayed on the next flush.

* `Engine.applyDescriptors` — search for a set of descriptors;
* `Engine.notifyCollectionChange`, `Engine.notifyItemChange`, `Engine.invalidateColumns` —
  report what has changed;
* `Engine.refresh` — bring the results up to date, by replay where possible and by a full scan
  where not.
-/

namespace CellSearch

/-- What a flush did to the results. -/
inductive FlushOutcome where
  /-- Nothing was queued. -/
  | upToDate
  /-- The queue was replayed. -/
  | applied (edits rowsEvaluated : Nat)
  /-- The table was scanned. -/
  | rescanned (reason : FallbackReason)
deriving DecidableEq, Repr, Inhabited

/-- The state of an engine over rows of type `R` with keys of type `K`. -/
structure Engine (R K : Type) where
  config : EngineConfig
  cache : PreparedCache
  columns : Option (ColumnSet R)
  applied : Option (List Descriptor)
  plan : Option ScopePlan
  results : ResultSet K
  /-- The number of rows that the results were found in. -/
  baseline : Nat
  pending : List (PendingEdit K)
  counters : Counters

/-- The answer of an engine to a call: its new state, an outcome, and the diagnostics that it
hands to its owner. -/
structure Reply (R K α : Type) where
  engine : Engine R K
  outcome : Except SearchError α
  notices : List ColumnDiagnostic

namespace Engine

variable {R K : Type}

/-- An engine before any descriptor is applied. -/
def ofConfig (config : EngineConfig) : Engine R K where
  config := config
  cache := .ofCapacity config.preparedCacheSize
  columns := none
  applied := none
  plan := none
  results := .empty
  baseline := 0
  pending := []
  counters := {}

/-- The searchable columns without text, as of the last binding. -/
def diagnostics (e : Engine R K) : List ColumnDiagnostic :=
  match e.columns with
  | some set => set.diagnostics
  | none => []

/-! ## Reports -/

/-- Whether the queue already forces a scan, so that later reports add nothing. -/
def queueIsTerminal (e : Engine R K) : Bool :=
  e.pending.getLast?.any PendingEdit.isTerminal

/-- Put a report into the queue. A queue that is full is given up. -/
def enqueue (e : Engine R K) (edit : PendingEdit K) : Engine R K :=
  if e.pending.length ≥ e.config.maxPendingEdits then { e with pending := [.overflow] }
  else { e with pending := e.pending ++ [edit] }

/-- Report a structural edit. -/
def notifyCollectionChange (e : Engine R K) (change : CollectionChange) : Engine R K :=
  if e.applied.isNone || e.queueIsTerminal then e
  else if change = .reset then { e with pending := [.collection .reset] }
  else e.enqueue (.collection change)

/-- Report that the cells of a row may have changed. -/
def notifyItemChange (e : Engine R K) (key : K) : Engine R K :=
  if !e.config.trackItemChanges || e.applied.isNone || e.queueIsTerminal then e
  else e.enqueue (.itemChanged key)

/-- Report that the columns have changed; they are bound anew at the next flush. -/
def invalidateColumns (e : Engine R K) : Engine R K :=
  { e with columns := none, plan := none }

/-! ## Full scans -/

variable [SearchRow R K]

/-- The engine with its columns bound, if they were not, and the diagnostics handed out. -/
def bindColumns (e : Engine R K) (live : List (Column R)) :
    Except SearchError (Engine R K × ColumnSet R) × List ColumnDiagnostic :=
  match e.columns with
  | some set => (.ok (e, set), [])
  | none =>
    let notices := ColumnSet.notices e.config.missingAccessor live
    match ColumnSet.bind e.config.missingAccessor live with
    | .error err => (.error err, notices)
    | .ok set => (.ok ({ e with columns := some set, plan := none }, set), notices)

/-- The engine with a plan for the applied descriptors, if it had none. -/
def makePlan (e : Engine R K) (columns : ColumnSet R) : Engine R K × ScopePlan :=
  match e.plan with
  | some plan => (e, plan)
  | none =>
    let (shared, cache) := e.cache.getAll (e.applied.getD [])
    let plan := ScopePlan.build columns (shared.map (·.prepared))
    ({ e with cache := cache, plan := some plan }, plan)

/-- The engine with the results of a scan of every row. -/
def scan (e : Engine R K) (columns : ColumnSet R) (plan : ScopePlan) (source : RowSource R) :
    Engine R K :=
  let (results, evaluated) := fullScan source columns plan
  { e with
    results := results
    baseline := source.count
    counters := { e.counters with
      fullScans := e.counters.fullScans + 1
      rowsMatched := e.counters.rowsMatched + evaluated
      resultsEmitted := e.counters.resultsEmitted + results.size } }

/-- Forget the results and the queue, and scan the table. -/
def rescan (e : Engine R K) (live : List (Column R)) (source : RowSource R) : Reply R K Unit :=
  let e := { e with pending := [], results := .empty, baseline := 0 }
  match e.bindColumns live with
  | (.error err, notices) => ⟨{ e with plan := none }, .error err, notices⟩
  | (.ok (e, columns), notices) =>
    let (e, plan) := e.makePlan columns
    ⟨e.scan columns plan source, .ok (), notices⟩

/-! ## Flushes -/

variable [DecidableEq K]

/-- Replay the queue on the results. If it cannot be replayed, it is dropped, and the results
stay for the scan that must follow. -/
def replay (e : Engine R K) (columns : ColumnSet R) (plan : ScopePlan) (source : RowSource R) :
    Engine R K × Except FallbackReason FlushOutcome :=
  let dropped := { e with pending := [] }
  match DeltaPlan.validate e.pending e.baseline source with
  | .error reason => (dropped, .error reason)
  | .ok delta =>
    let a := delta.apply e.results source columns plan
    ({ dropped with
        results := a.results
        baseline := source.count
        counters := { e.counters with
          incrementalFlushes := e.counters.incrementalFlushes + 1
          rowsMatched := e.counters.rowsMatched + a.rowsEvaluated
          resultsEmitted := e.counters.resultsEmitted + a.resultsEmitted } },
      .ok (.applied delta.size a.rowsEvaluated))

/-- Count a queue that could not be replayed. -/
def countFallback (e : Engine R K) : Engine R K :=
  { e with counters := { e.counters with fallbacks := e.counters.fallbacks + 1 } }

/-- Scan the table for a reason. -/
def rescanFor (e : Engine R K) (reason : FallbackReason) (live : List (Column R))
    (source : RowSource R) : Reply R K FlushOutcome :=
  let reply := e.rescan live source
  ⟨reply.engine, reply.outcome.map fun _ => .rescanned reason, reply.notices⟩

/-- Bring the results up to date. -/
def refresh (e : Engine R K) (live : List (Column R)) (source : RowSource R) :
    Reply R K FlushOutcome :=
  if e.applied.isNone then ⟨{ e with pending := [] }, .ok .upToDate, []⟩
  else
    match e.columns, e.plan with
    | some columns, some plan =>
      if e.pending.isEmpty then ⟨e, .ok .upToDate, []⟩
      else
        match e.replay columns plan source with
        | (e, .ok outcome) => ⟨e, .ok outcome, []⟩
        | (e, .error reason) => e.countFallback.rescanFor reason live source
    | _, _ => e.rescanFor .columnsChanged live source

/-- Apply a set of descriptors. The set that is already applied is refreshed; any other is
searched for from the start. -/
def applyDescriptors (e : Engine R K) (descriptors : List Descriptor) (live : List (Column R))
    (source : RowSource R) : Reply R K Unit :=
  if e.applied = some descriptors then
    let reply := e.refresh live source
    ⟨reply.engine, reply.outcome.map fun _ => (), reply.notices⟩
  else
    { e with pending := [], plan := none, applied := some descriptors }.rescan live source

end Engine

end CellSearch
