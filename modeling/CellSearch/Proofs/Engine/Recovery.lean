import Mathlib
import CellSearch.Proofs.Engine.Current
import CellSearch.Proofs.Engine.Queue

/-!
# Columns that cannot be bound

A flush fails if it has to bind the columns and the policy forbids it, and for no other reason
(`Engine.flush_eq_error_iff`). What it leaves is an engine that has forgotten its results and its
queue and still knows what it searches for (`Engine.Cleared`). From then on, until some flush
succeeds, the columns are still to be bound (`Engine.MustBind`), so that no flush can replay; the
first flush that is given columns that bind gives what a new engine gives.
-/

namespace CellSearch

variable {R K : Type}

/-- The descriptors that are searched for after a flush, given those from before. -/
def Flush.request (applied : Option (List Descriptor)) : Flush → Option (List Descriptor)
  | .apply descriptors => some descriptors
  | .refresh => applied

/-- The descriptors that are searched for after a call, given those from before. -/
def Call.request (applied : Option (List Descriptor)) : Call R K → Option (List Descriptor)
  | .apply descriptors _ _ => some descriptors
  | _ => applied

namespace Engine

theorem applied_chosen (e : Engine R K) (f : Flush) :
    (e.chosen f).applied = f.request e.applied := by
  cases f with
  | apply descriptors => exact applied_choose e descriptors
  | refresh => rfl

/-- The engine has forgotten its results and its queue, and nothing else has happened. -/
structure Cleared (e : Engine R K) (requested : Option (List Descriptor)) (e' : Engine R K) :
    Prop where
  results_eq : e'.results = .empty
  pending_eq : e'.pending = []
  counters_eq : e'.counters = e.counters
  cache_eq : e'.cache = e.cache
  applied_eq : e'.applied = requested

/-- The engine has descriptors and is still to bind the columns. -/
structure MustBind (e : Engine R K) : Prop where
  coherent : e.Coherent
  applied_ne : e.applied ≠ none
  columns_eq : e.columns = none

theorem MustBind.chosen {e : Engine R K} (h : e.MustBind) (f : Flush) : (e.chosen f).MustBind := by
  refine ⟨h.coherent.chosen f, ?_, (retargeted_chosen e f).columns_eq.trans h.columns_eq⟩
  rw [applied_chosen]
  cases f with
  | apply descriptors => exact Option.some_ne_none _
  | refresh => exact h.applied_ne

variable [SearchRow R K] [DecidableEq K]
variable {e e' : Engine R K} {live : List (Column R)} {source : RowSource R}

/-- A call applies the descriptors that it brings, whether it succeeds or not. -/
theorem applied_call (he : e.Coherent) (c : Call R K) :
    (e.call c).applied = c.request e.applied := by
  cases c with
  | apply descriptors live source =>
    have hcases := refresh_cases (he.choose descriptors) live source
    rw [call, (applyDescriptors_eq e descriptors live source).1, hcases.config_eq.2, applied_choose]
    rfl
  | refresh live source => exact (refresh_cases he live source).config_eq.2
  | collectionChange change =>
    rcases report_eq e (.collection change) with ⟨pending, hengine⟩
    rw [call, notifyCollectionChange_eq, hengine]
    rfl
  | itemChange key =>
    rcases report_eq e (.itemChanged key) with ⟨pending, hengine⟩
    rw [call, notifyItemChange_eq, hengine]
    split <;> rfl
  | invalidateColumns => rfl

theorem applied_foldl_call (he : e.Coherent) (calls : List (Call R K)) :
    (calls.foldl call e).applied = calls.foldl Call.request e.applied := by
  induction calls generalizing e with
  | nil => rfl
  | cons c rest ih => rw [List.foldl_cons, List.foldl_cons, ih (he.call c), applied_call he c]

/-! ## Failures -/

/-- Without columns a refresh scans, for that reason. -/
theorem refresh_of_unbound (happlied : e.applied ≠ none) (hcolumns : e.columns = none)
    (live : List (Column R)) (source : RowSource R) :
    e.refresh live source = e.rescanFor .columnsChanged live source := by
  unfold refresh
  rw [if_neg (by simpa using happlied), hcolumns]

/-- Columns that are to be bound and cannot be are the one reason for a refresh to fail. -/
theorem refresh_eq_error_iff (he : e.Coherent) {err : SearchError} :
    (e.refresh live source).outcome = .error err ↔ e.applied ≠ none ∧ e.columns = none ∧
      ColumnSet.bind e.config.missingAccessor live = .error err := by
  constructor
  · intro herr
    have hcases := refresh_cases he live source
    rw [herr] at hcases
    rcases hcases.unbound_of_error with ⟨happlied, hunbound⟩
    exact ⟨happlied, hunbound.columns_none, hunbound.bind_eq⟩
  · rintro ⟨happlied, hcolumns, hbind⟩
    simp only [refresh_of_unbound happlied hcolumns, rescanFor, rescan, bindColumns, hcolumns,
      hbind]
    rfl

theorem cleared_of_refresh (he : e.Coherent) {err : SearchError}
    (herr : (e.refresh live source).outcome = .error err) :
    e.Cleared e.applied (e.refresh live source).engine := by
  rcases (refresh_eq_error_iff he).mp herr with ⟨happlied, hcolumns, hbind⟩
  have hengine : (e.refresh live source).engine =
      { e with pending := [], results := .empty, baseline := 0, plan := none } := by
    simp only [refresh_of_unbound happlied hcolumns, rescanFor, rescan, bindColumns, hcolumns,
      hbind]
  rw [hengine]
  exact ⟨rfl, rfl, rfl, rfl, rfl⟩

/-! ## Flushes -/

theorem flush_error_iff_refresh (e : Engine R K) {f : Flush} {err : SearchError} :
    (e.flush f live source).outcome = .error err ↔
      ((e.chosen f).refresh live source).outcome = .error err := by
  rw [(flush_eq e f live source).2]
  cases ((e.chosen f).refresh live source).outcome <;> simp [Except.map]

theorem flush_eq_error_iff (he : e.Coherent) {f : Flush} {err : SearchError} :
    (e.flush f live source).outcome = .error err ↔
      f.request e.applied ≠ none ∧ e.columns = none ∧
        ColumnSet.bind e.config.missingAccessor live = .error err := by
  have hkept := retargeted_chosen e f
  rw [flush_error_iff_refresh, refresh_eq_error_iff (he.chosen f), applied_chosen,
    hkept.config_eq, hkept.columns_eq]

theorem cleared_of_flush (he : e.Coherent) {f : Flush} {err : SearchError}
    (herr : (e.flush f live source).outcome = .error err) :
    e.Cleared (f.request e.applied) (e.flush f live source).engine := by
  have hcleared := cleared_of_refresh (he.chosen f) ((flush_error_iff_refresh e).mp herr)
  have hkept := retargeted_chosen e f
  rw [(flush_eq e f live source).1]
  refine ⟨hcleared.results_eq, hcleared.pending_eq, ?_, ?_, ?_⟩
  · rw [hcleared.counters_eq, hkept.counters_eq]
  · rw [hcleared.cache_eq, hkept.cache_eq]
  · rw [hcleared.applied_eq, applied_chosen]

/-! ## Engines without columns -/

theorem mustBind_of_error (he : e.Coherent) {err : SearchError}
    (herr : (e.refresh live source).outcome = .error err) :
    (e.refresh live source).engine.MustBind := by
  have hcases := refresh_cases he live source
  rw [herr] at hcases
  rcases hcases.unbound_of_error with ⟨happlied, hunbound⟩
  exact ⟨hcases.coherent he, hcases.config_eq.2 ▸ happlied, hunbound.columns_eq⟩

theorem mustBind_of_flush (he : e.Coherent) {f : Flush} {err : SearchError}
    (herr : (e.flush f live source).outcome = .error err) :
    (e.flush f live source).engine.MustBind := by
  rw [(flush_eq e f live source).1]
  exact mustBind_of_error (he.chosen f) ((flush_error_iff_refresh e).mp herr)

/-- No call of the list is a flush that succeeds. -/
def Unflushed (e : Engine R K) : List (Call R K) → Prop
  | [] => True
  | c :: rest => e.flushes c = false ∧ (e.call c).Unflushed rest

theorem exists_error_of_toBool {ε α : Type} {x : Except ε α} (h : x.toBool = false) :
    ∃ err, x = .error err := by
  cases x with
  | error err => exact ⟨err, rfl⟩
  | ok a => cases h

/-- Only a flush that succeeds binds the columns. -/
theorem MustBind.call (h : e.MustBind) {c : Call R K} (hc : e.flushes c = false) :
    (e.call c).MustBind := by
  cases c with
  | apply descriptors live source =>
    rcases exists_error_of_toBool hc with ⟨err, herr⟩
    exact mustBind_of_flush (f := .apply descriptors) h.coherent herr
  | refresh live source =>
    rcases exists_error_of_toBool hc with ⟨err, herr⟩
    exact mustBind_of_error h.coherent herr
  | collectionChange change =>
    rcases report_eq e (.collection change) with ⟨pending, hengine⟩
    rw [Engine.call, notifyCollectionChange_eq, hengine]
    exact ⟨h.coherent.of_pending pending, h.applied_ne, h.columns_eq⟩
  | itemChange key =>
    rcases report_eq e (.itemChanged key) with ⟨pending, hengine⟩
    rw [Engine.call, notifyItemChange_eq, hengine]
    split
    · exact ⟨h.coherent.of_pending pending, h.applied_ne, h.columns_eq⟩
    · exact h
  | invalidateColumns => exact ⟨h.coherent.invalidateColumns, h.applied_ne, rfl⟩

theorem MustBind.foldl_call (h : e.MustBind) {more : List (Call R K)} (hmore : e.Unflushed more) :
    (more.foldl Engine.call e).MustBind := by
  induction more generalizing e with
  | nil => exact h
  | cons c rest ih => exact ih (h.call hmore.1) hmore.2

/-! ## Recovery -/

/-- A refresh that has to bind the columns scans, if they can be bound. -/
theorem MustBind.refresh_of_bind (h : e.MustBind) {columns : ColumnSet R}
    (hbind : ColumnSet.bind e.config.missingAccessor live = .ok columns) (source : RowSource R) :
    (e.refresh live source).outcome = .ok (.rescanned .columnsChanged) ∧
      e.Scanned live source columns (e.refresh live source).engine := by
  rw [refresh_of_unbound h.applied_ne h.columns_eq]
  rcases rescan_cases h.coherent live source with ⟨set, hok, hscanned⟩ | ⟨err, -, hunbound⟩
  · obtain rfl := hscanned.eq_of_bind h.columns_eq hbind
    exact ⟨by rw [rescanFor, hok]; rfl, hscanned⟩
  · have herr := hunbound.bind_eq
    rw [hbind] at herr
    cases herr

/-- With columns that bind, a flush scans for the descriptors that are searched for. -/
theorem MustBind.flush_of_bind (h : e.MustBind) (f : Flush) {columns : ColumnSet R}
    (hbind : ColumnSet.bind e.config.missingAccessor live = .ok columns) (source : RowSource R) :
    (e.flush f live source).outcome = .ok () ∧
      (e.chosen f).Scanned live source columns (e.flush f live source).engine := by
  rw [← (retargeted_chosen e f).config_eq] at hbind
  rcases (h.chosen f).refresh_of_bind hbind source with ⟨hok, hscanned⟩
  rw [(flush_eq e f live source).1, (flush_eq e f live source).2, hok]
  exact ⟨rfl, hscanned⟩

/-- A flush that succeeds has bound the columns. -/
theorem MustBind.bind_of_ok (h : e.MustBind) {f : Flush}
    (hok : (e.flush f live source).outcome = .ok ()) :
    ∃ columns, ColumnSet.bind e.config.missingAccessor live = .ok columns := by
  cases hbind : ColumnSet.bind e.config.missingAccessor live with
  | ok columns => exact ⟨columns, rfl⟩
  | error err =>
    have happlied : f.request e.applied ≠ none := by
      rw [← applied_chosen]
      exact (h.chosen f).applied_ne
    rw [(flush_eq_error_iff h.coherent).mpr ⟨happlied, h.columns_eq, hbind⟩] at hok
    cases hok

/-- A flush fails if and only if there are descriptors, the columns are to be bound, the policy is
to fail fast and some searchable column has no accessor; the error names the first of them. It
leaves neither results nor reports, counters and cache as they were, and the descriptors that were
asked for. Whatever is called then, until a flush succeeds: that flush is a scan, and one that is
given columns that bind succeeds with the results of a new engine. -/
theorem flush_error_recoverable (config : EngineConfig) (calls : List (Call R K)) (f : Flush)
    (live : List (Column R)) (source : RowSource R) (err : SearchError) :
    (((run config calls).flush f live source).outcome = .error err ↔
      f.request (run config calls).applied ≠ none ∧ (run config calls).columns = none ∧
      config.missingAccessor = .failFast ∧
      ∃ c, (live.find? fun c => c.searchable && c.accessor.isNone) = some c ∧
        err = .missingAccessor c.id) ∧
    (((run config calls).flush f live source).outcome = .error err →
      ∀ failed, failed = ((run config calls).flush f live source).engine →
      (run config calls).Cleared (f.request (run config calls).applied) failed ∧
      ∀ more : List (Call R K), failed.Unflushed more →
      ∀ later, later = more.foldl call failed →
        later.applied = more.foldl Call.request (f.request (run config calls).applied) ∧
        (∀ live' source' outcome, (later.refresh live' source').outcome = .ok outcome →
          outcome = .rescanned .columnsChanged) ∧
        (∀ g live' source', (later.flush g live' source').outcome = .ok () →
          ∃ columns, (later.chosen g).Scanned live' source' columns
            (later.flush g live' source').engine) ∧
        ∀ g live' source' columns descriptors,
          ColumnSet.bind config.missingAccessor live' = .ok columns →
          g.request later.applied = some descriptors →
          (later.flush g live' source').outcome = .ok () ∧
          ((ofConfig config).applyDescriptors descriptors live' source').outcome = .ok () ∧
          (later.flush g live' source').engine.results =
            ((ofConfig config).applyDescriptors descriptors live' source').engine.results) := by
  rcases coherent_run config calls with ⟨hcoherent, hconfig⟩
  generalize run config calls = e at hcoherent hconfig ⊢
  refine ⟨?_, ?_⟩
  · rw [flush_eq_error_iff hcoherent, ColumnSet.bind_eq_error_iff, hconfig]
  intro herr failed hfailed
  have hcleared := cleared_of_flush hcoherent herr
  have hmust := mustBind_of_flush hcoherent herr
  have hkept : (e.flush f live source).engine.config = config := by
    rw [(flush_eq e f live source).1, (refresh_cases (hcoherent.chosen f) live source).config_eq.1,
      (retargeted_chosen e f).config_eq, hconfig]
  rw [← hfailed] at hcleared hmust hkept
  refine ⟨hcleared, fun more hmore later hlater => ?_⟩
  have happlied : later.applied = more.foldl Call.request failed.applied := by
    rw [hlater, applied_foldl_call hmust.coherent]
  have hlaterConfig : later.config = config := by
    rw [hlater, ← hkept]
    exact config_foldl_call hmust.coherent more
  have hlaterMust : later.MustBind := hlater ▸ hmust.foldl_call hmore
  refine ⟨by rw [happlied, hcleared.applied_eq], ?_, ?_, ?_⟩
  · intro live' source' outcome hok
    have hflush : (later.flush .refresh live' source').outcome = .ok () := by
      rw [(flush_eq later .refresh live' source').2, chosen, hok]
      rfl
    rcases hlaterMust.bind_of_ok hflush with ⟨columns, hbind⟩
    have hscan := (hlaterMust.refresh_of_bind hbind source').1
    rw [hok] at hscan
    exact Except.ok.inj hscan
  · intro g live' source' hok
    rcases hlaterMust.bind_of_ok hok with ⟨columns, hbind⟩
    exact ⟨columns, (hlaterMust.flush_of_bind g hbind source').2⟩
  · intro g live' source' columns descriptors hbind hrequest
    rcases ofConfig_apply hbind descriptors source' with ⟨hnew, hresults⟩
    rw [← hlaterConfig] at hbind
    rcases hlaterMust.flush_of_bind g hbind source' with ⟨hok, hscanned⟩
    refine ⟨hok, hnew, ?_⟩
    rw [hresults, hscanned.results_eq, planFor, applied_chosen, hrequest, Option.getD_some]

/-- A column that lacks its accessor until it is asked for again; meanwhile a row is removed. -/
theorem flush_error_recoverable_accessor :
    let config : EngineConfig := { missingAccessor := .failFast }
    let live : List (Column String) := [{ id := "name" }]
    let live' : List (Column String) := [{ id := "name", accessor := some some }]
    let failed : Engine String String :=
      ((ofConfig config).flush (.apply [{ query := "a" }]) live (.ofList ["cab", "ape"])).engine
    let later : Engine String String := failed.call (.collectionChange (.remove 0 1))
    ((ofConfig config : Engine String String).flush (.apply [{ query := "a" }]) live
        (.ofList ["cab", "ape"])).outcome = .error (.missingAccessor "name") ∧
      later.pending = [.collection (.remove 0 1)] ∧
      (later.flush .refresh live' (.ofList ["ape"])).outcome = .ok () ∧
      (later.flush .refresh live' (.ofList ["ape"])).engine.results =
        ((ofConfig config).applyDescriptors [{ query := "a" }] live'
          (.ofList ["ape"])).engine.results := by
  intro config live live' failed later
  have hflush := flush_error_recoverable config [] (.apply [{ query := "a" }]) live
    (.ofList ["cab", "ape"]) (.missingAccessor "name")
  have houtcome := hflush.1.mpr ⟨by simp [Flush.request], rfl, rfl, _, rfl, rfl⟩
  rcases (hflush.2 houtcome failed rfl).2 [.collectionChange (.remove 0 1)] ⟨rfl, trivial⟩ later
    rfl with ⟨-, -, -, hrecover⟩
  rcases hrecover .refresh live' (.ofList ["ape"]) _ [{ query := "a" }] rfl rfl with
    ⟨hok, -, hresults⟩
  exact ⟨houtcome, rfl, hok, hresults⟩

end Engine

end CellSearch
