import Mathlib
import CellSearch.Engine.Counters
import CellSearch.Proofs.Engine.Order
import CellSearch.Proofs.Engine.Recovery

/-!
# What the counters tell

The counters of an engine account for everything that its flushes have done. A flush that succeeds
is a scan, a replay or nothing at all, and each of these leaves its own trace
(`Engine.flush_tallied`); a fallback is counted before the scan that it leads to, and this scan
never fails, because the columns are there.

Results come into an engine by being found, and rows with results by being evaluated. Edits and
replays only move them, drop them, or put fresh ones in their place. So there are never more
results than were counted, and never more rows that have some (`Engine.Counted`).
-/

namespace CellSearch

variable {R K : Type}

/-! ## Rows with results -/

namespace ResultSet

variable {s t : ResultSet K} {start count n : Nat}

/-- The rows that have a result. -/
def foundRows (s : ResultSet K) : Finset Nat := (s.toList.map fun r => r.row).toFinset

theorem mem_foundRows : n ∈ s.foundRows ↔ ∃ r ∈ s.toList, r.row = n := by
  simp [foundRows]

theorem size_eq_length (s : ResultSet K) : s.size = s.toList.length := by
  simp [size, toList]

/-- Results that moved with their rows are in no more rows than before. -/
theorem card_foundRows_le (move : Nat → Nat)
    (h : ∀ r ∈ t.toList, ∃ r' ∈ s.toList, r.row = move r'.row) :
    t.foundRows.card ≤ s.foundRows.card := by
  have hsub : t.foundRows ⊆ s.foundRows.image move := by
    intro n hn
    rcases mem_foundRows.mp hn with ⟨r, hr, rfl⟩
    rcases h r hr with ⟨r', hr', hrow⟩
    exact Finset.mem_image.mpr ⟨r'.row, mem_foundRows.mpr ⟨r', hr', rfl⟩, hrow.symm⟩
  exact (Finset.card_le_card hsub).trans Finset.card_image_le

/-- There are no more results, and they are in no more rows. -/
structure AtMost (t s : ResultSet K) : Prop where
  size_le : t.size ≤ s.size
  rows_le : t.foundRows.card ≤ s.foundRows.card

theorem AtMost.trans {u : ResultSet K} (htu : t.AtMost u) (hus : u.AtMost s) : t.AtMost s :=
  ⟨htu.size_le.trans hus.size_le, htu.rows_le.trans hus.rows_le⟩

theorem RowsSorted.insertRows_atMost (hs : s.RowsSorted) (start count : Nat) :
    (s.insertRows start count).AtMost s := by
  rcases exists_cut hs start with ⟨a, b, hab, ha, hb⟩
  have hlist : (s.insertRows start count).toList = a ++ b.map (SearchResult.raise count) :=
    toList_insertRows hab ha hb
  constructor
  · rw [size_eq_length, size_eq_length, hlist, hab, List.length_append, List.length_append,
      List.length_map]
  · apply card_foundRows_le fun row => if row < start then row else row + count
    intro r hr
    rw [hlist] at hr
    rcases List.mem_append.mp hr with hr | hr
    · refine ⟨r, ?_, (if_pos (ha r hr)).symm⟩
      rw [hab]
      exact List.mem_append_left b hr
    · rcases List.mem_map.mp hr with ⟨r', hr', rfl⟩
      refine ⟨r', ?_, (if_neg (not_lt.mpr (hb r' hr'))).symm⟩
      rw [hab]
      exact List.mem_append_right a hr'

theorem RowsSorted.removeRows_atMost (hs : s.RowsSorted) (start count : Nat) :
    (s.removeRows start count).1.AtMost s := by
  rcases hs.exists_window start (start + count) with ⟨a, b, c, habc, ha, hb, hc⟩
  have hlist := toList_removeRows habc ha hb hc
  constructor
  · rw [size_eq_length, size_eq_length, hlist, habc]
    simp only [List.length_append, List.length_map]
    omega
  · apply card_foundRows_le fun row => if row < start then row else row - count
    intro r hr
    rw [hlist] at hr
    rcases List.mem_append.mp hr with hr | hr
    · refine ⟨r, ?_, (if_pos (ha r hr)).symm⟩
      rw [habc, List.append_assoc]
      exact List.mem_append_left _ hr
    · rcases List.mem_map.mp hr with ⟨r', hr', rfl⟩
      have hbehind := hc r' hr'
      refine ⟨r', ?_, (if_neg (by omega)).symm⟩
      rw [habc]
      exact List.mem_append_right _ hr'

/-- Fresh results add no more than themselves, and no other rows than their own. -/
theorem RowsSorted.spliceRows_le (hs : s.RowsSorted) {window : Interval}
    {fresh : List (SearchResult K)} {rows : List Nat} (hle : window.start ≤ window.stop)
    (hfresh : ∀ r ∈ fresh, r.row ∈ rows) :
    (s.spliceRows window fresh).size ≤ s.size + fresh.length ∧
      (s.spliceRows window fresh).foundRows.card ≤ s.foundRows.card + rows.length := by
  rcases hs.exists_window window.start window.stop with ⟨a, b, c, habc, ha, hb, hc⟩
  have hlist : (s.spliceRows window fresh).toList = a ++ fresh ++ c :=
    toList_spliceRows habc hle ha hb hc
  constructor
  · rw [size_eq_length, size_eq_length, hlist, habc]
    simp only [List.length_append]
    omega
  · have hsub : (s.spliceRows window fresh).foundRows ⊆ s.foundRows ∪ rows.toFinset := by
      intro n hn
      rcases mem_foundRows.mp hn with ⟨r, hr, rfl⟩
      rw [hlist, List.mem_append, List.mem_append] at hr
      rw [Finset.mem_union, mem_foundRows, List.mem_toFinset, habc]
      rcases hr with (hr | hr) | hr
      · exact Or.inl ⟨r, by simp [hr], rfl⟩
      · exact Or.inr (hfresh r hr)
      · exact Or.inl ⟨r, by simp [hr], rfl⟩
    calc (s.spliceRows window fresh).foundRows.card
        ≤ (s.foundRows ∪ rows.toFinset).card := Finset.card_le_card hsub
      _ ≤ s.foundRows.card + rows.toFinset.card := Finset.card_union_le _ _
      _ ≤ s.foundRows.card + rows.length := Nat.add_le_add_left (List.toFinset_card_le rows) _

end ResultSet

/-! ## Evaluated rows -/

section Evaluation

variable [SearchRow R K] {source : RowSource R} {columns : ColumnSet R} {scope : ScopePlan}

/-- Results are in rows that were evaluated. -/
theorem exists_evaluated (source : RowSource R) (columns : ColumnSet R) (scope : ScopePlan)
    (window : Interval) :
    ∃ rows : List Nat,
      rows.length = (evaluateRows source columns scope window : List (SearchResult K) × Nat).2 ∧
      ∀ r ∈ (evaluateRows source columns scope window : List (SearchResult K) × Nat).1,
        r.row ∈ rows := by
  unfold evaluateRows
  split
  · exact ⟨[], rfl, by simp⟩
  · refine ⟨(rowsIn source window).map Prod.snd, List.length_map _, ?_⟩
    intro r hr
    rcases List.mem_flatMap.mp hr with ⟨⟨row, i⟩, hmem, hrow⟩
    rw [row_of_mem_evaluateRow hrow]
    exact List.mem_map_of_mem (f := Prod.snd) hmem

/-- A scan finds results in no more rows than it evaluates. -/
theorem card_foundRows_fullScan_le (source : RowSource R) (columns : ColumnSet R)
    (scope : ScopePlan) :
    (fullScan source columns scope : ResultSet K × Nat).1.foundRows.card ≤
      (fullScan source columns scope : ResultSet K × Nat).2 := by
  rcases exists_evaluated (K := K) source columns scope ⟨0, source.count⟩ with
    ⟨rows, hlength, hrows⟩
  have hsub : (fullScan source columns scope : ResultSet K × Nat).1.foundRows ⊆
      rows.toFinset := by
    intro n hn
    rcases ResultSet.mem_foundRows.mp hn with ⟨r, hr, rfl⟩
    exact List.mem_toFinset.mpr (hrows r hr)
  calc (fullScan source columns scope : ResultSet K × Nat).1.foundRows.card
      ≤ rows.toFinset.card := Finset.card_le_card hsub
    _ ≤ rows.length := List.toFinset_card_le rows
    _ = (fullScan source columns scope : ResultSet K × Nat).2 := hlength

namespace DeltaPlan

/-- Of the results of a replay, and of the rows that they are in, all but so many were found by
it. -/
structure Applied.Accounted (a : Applied K) (size rows : Nat) : Prop where
  sorted : a.results.RowsSorted
  size_le : a.results.size ≤ size + a.resultsEmitted
  rows_le : a.results.foundRows.card ≤ rows + a.rowsEvaluated

theorem Applied.Accounted.refreshRows {a : Applied K} {size rows : Nat}
    (h : a.Accounted size rows) {window : Interval} (hle : window.start ≤ window.stop) :
    (refreshRows source columns scope a window).Accounted size rows := by
  rcases exists_evaluated (K := K) source columns scope window with ⟨evaluated, hlength, hrows⟩
  rcases h.sorted.spliceRows_le hle hrows with ⟨hsize, hfound⟩
  have hsizeBefore := h.size_le
  have hrowsBefore := h.rows_le
  refine ⟨?_, ?_, ?_⟩
  · exact ResultSet.rowOrder_le.spliceRows h.sorted hle (evaluateRows_rowsSorted window)
      fun r hr => row_of_mem_evaluateRows hle hr
  · simp only [DeltaPlan.refreshRows]
    omega
  · simp only [DeltaPlan.refreshRows]
    omega

theorem movedResults_atMost (plan : DeltaPlan) {results : ResultSet K}
    (hs : results.RowsSorted) :
    (plan.movedResults results).RowsSorted ∧ (plan.movedResults results).AtMost results := by
  unfold movedResults
  generalize plan.edits = edits
  induction edits generalizing results with
  | nil => exact ⟨hs, le_refl _, le_refl _⟩
  | cons edit rest ih =>
    cases edit with
    | insert start count =>
      rcases ih (ResultSet.rowOrder_le.insertRows hs start count) with ⟨hsorted, hmost⟩
      exact ⟨hsorted, hmost.trans (hs.insertRows_atMost start count)⟩
    | delete start count =>
      rcases ih (ResultSet.rowOrder_le.removeRows hs start count) with ⟨hsorted, hmost⟩
      exact ⟨hsorted, hmost.trans (hs.removeRows_atMost start count)⟩

/-- A replay has no other results than those from before and those that it counts. -/
theorem Fits.accounted {plan : DeltaPlan} {rows : Nat} (h : plan.Fits rows source)
    (columns : ColumnSet R) (scope : ScopePlan) {results : ResultSet K}
    (hs : results.RowsSorted) :
    (plan.apply results source columns scope).Accounted results.size results.foundRows.card := by
  rcases plan.movedResults_atMost hs with ⟨hsorted, hsize, hfound⟩
  have hranges : ∀ r ∈ plan.dirtyRows.ranges, r.start ≤ r.stop :=
    fun r hr => le_of_lt (h.dirtyRows_within.stop_le hr).1
  have hstart : (⟨plan.movedResults results, 0, 0⟩ : Applied K).Accounted results.size
      results.foundRows.card := ⟨hsorted, hsize, hfound⟩
  unfold apply
  generalize (⟨plan.movedResults results, 0, 0⟩ : Applied K) = a at hstart
  generalize plan.dirtyRows.ranges = ranges at hranges
  induction ranges generalizing a with
  | nil => exact hstart
  | cons window rest ih =>
    apply ih
    · exact hstart.refreshRows (hranges window List.mem_cons_self)
    · exact fun r hr => hranges r (List.mem_cons_of_mem _ hr)

end DeltaPlan

end Evaluation

/-! ## Traces of a flush -/

namespace Counters

/-- The counters after a scan of so many rows that found so many results. -/
def addScan (c : Counters) (rows results : Nat) : Counters :=
  { c with
    fullScans := c.fullScans + 1
    rowsMatched := c.rowsMatched + rows
    resultsEmitted := c.resultsEmitted + results }

/-- The counters after a replay that evaluated so many rows and found so many results. -/
def addReplay (c : Counters) (rows results : Nat) : Counters :=
  { c with
    incrementalFlushes := c.incrementalFlushes + 1
    rowsMatched := c.rowsMatched + rows
    resultsEmitted := c.resultsEmitted + results }

/-- The counters after so many fallbacks more. -/
def addFallbacks (c : Counters) (count : Nat) : Counters :=
  { c with fallbacks := c.fallbacks + count }

end Counters

namespace Engine

/-- The results and the counters agree: a fallback was followed by a scan, a result was found, and
a row with results was evaluated. -/
structure Counted (e : Engine R K) : Prop where
  fallbacks_le : e.counters.fallbacks ≤ e.counters.fullScans
  size_le : e.results.size ≤ e.counters.resultsEmitted
  rows_le : e.results.foundRows.card ≤ e.counters.rowsMatched

theorem counted_ofConfig (config : EngineConfig) : (ofConfig config : Engine R K).Counted :=
  ⟨le_refl _, le_refl _, le_refl _⟩

/-- Only the results and the counters matter. -/
theorem Counted.of_eq {e e' : Engine R K} (h : e.Counted) (hresults : e'.results = e.results)
    (hcounters : e'.counters = e.counters) : e'.Counted := by
  refine ⟨?_, ?_, ?_⟩
  · rw [hcounters]
    exact h.fallbacks_le
  · rw [hresults, hcounters]
    exact h.size_le
  · rw [hresults, hcounters]
    exact h.rows_le

variable [SearchRow R K] [DecidableEq K]
variable {e e' : Engine R K} {live : List (Column R)} {source : RowSource R}
variable {outcome : Except SearchError FlushOutcome}

/-- There is a queue that cannot be replayed, although columns and a plan are there. -/
def Rejects (e : Engine R K) (source : RowSource R) : Prop :=
  (∃ columns plan, e.Ready columns plan) ∧ e.pending ≠ [] ∧
    ∃ reason, DeltaPlan.validate e.pending e.baseline source = .error reason

/-- The traces that a refresh can leave. -/
inductive Tallied (e : Engine R K) (source : RowSource R) (e' : Engine R K)
    (outcome : Except SearchError FlushOutcome) : Prop where
  /-- There was nothing to do, or the columns could not be bound. -/
  | quiet (accepts : ¬ e.Rejects source) (counters_eq : e'.counters = e.counters)
      (results_eq : e'.results = e.results ∨ e'.results = .empty)
      (outcome_eq : outcome = .ok .upToDate ∨ ∃ err, outcome = .error err)
  | replayed (columns : ColumnSet R) (plan : ScopePlan) (delta : DeltaPlan)
      (accepts : ¬ e.Rejects source) (fits : delta.Fits e.baseline source)
      (counters_eq : e'.counters = e.counters.addReplay
        (delta.apply e.results source columns plan).rowsEvaluated
        (delta.apply e.results source columns plan).resultsEmitted)
      (results_eq : e'.results = (delta.apply e.results source columns plan).results)
      (outcome_eq : ∃ edits evaluated, outcome = .ok (.applied edits evaluated))
  /-- A scan follows a queue that was rejected, or it has another reason. -/
  | scanned (columns : ColumnSet R) (plan : ScopePlan) (fallbacks : Nat)
      (rejects : e.Rejects source ∧ fallbacks = 1 ∨ ¬ e.Rejects source ∧ fallbacks = 0)
      (counters_eq : e'.counters = (e.counters.addFallbacks fallbacks).addScan
        (fullScan source columns plan : ResultSet K × Nat).2 e'.results.size)
      (results_eq : e'.results = (fullScan source columns plan).1)
      (outcome_eq : ∃ reason, outcome = .ok (.rescanned reason))

omit [SearchRow R K] [DecidableEq K] in
theorem counters_makePlan (e : Engine R K) (columns : ColumnSet R) :
    (e.makePlan columns).1.counters = e.counters := by
  unfold makePlan
  split <;> rfl

omit [DecidableEq K] in
/-- A scan is counted, unless the columns cannot be bound. -/
theorem rescan_tally (e : Engine R K) (live : List (Column R)) (source : RowSource R) :
    (∃ columns plan, (e.rescan live source).outcome = .ok () ∧
      (e.rescan live source).engine.results = (fullScan source columns plan).1 ∧
      (e.rescan live source).engine.counters =
        e.counters.addScan (fullScan source columns plan : ResultSet K × Nat).2
          (e.rescan live source).engine.results.size) ∨
    e.columns = none ∧ ∃ err, (e.rescan live source).outcome = .error err ∧
      (e.rescan live source).engine.results = .empty ∧
      (e.rescan live source).engine.counters = e.counters := by
  -- with columns bound, what is left is to make a plan and to scan
  have hscan : ∀ (e₀ : Engine R K) (columns : ColumnSet R), e₀.counters = e.counters →
      ((e₀.makePlan columns).1.scan columns (e₀.makePlan columns).2 source).counters =
        e.counters.addScan
          (fullScan source columns (e₀.makePlan columns).2 : ResultSet K × Nat).2
          ((e₀.makePlan columns).1.scan columns (e₀.makePlan columns).2 source).results.size := by
    intro e₀ columns hcounters
    rw [← hcounters, ← counters_makePlan e₀ columns]
    rfl
  cases hcolumns : e.columns with
  | some columns =>
    left
    simp only [rescan, bindColumns, hcolumns]
    exact ⟨columns, _, trivial, rfl, hscan _ columns rfl⟩
  | none =>
    cases hbind : ColumnSet.bind e.config.missingAccessor live with
    | error err =>
      right
      simp only [rescan, bindColumns, hcolumns, hbind]
      exact ⟨trivial, err, rfl, trivial, trivial⟩
    | ok columns =>
      left
      simp only [rescan, bindColumns, hcolumns, hbind]
      exact ⟨columns, _, trivial, rfl, hscan _ columns rfl⟩

/-- A scan after a queue that was rejected, or for another reason. -/
theorem rescanFor_tallied (e : Engine R K) (pending : List (PendingEdit K)) {fallbacks : Nat}
    (hrejects : e.Rejects source ∧ fallbacks = 1 ∨ ¬ e.Rejects source ∧ fallbacks = 0)
    (reason : FallbackReason) (live : List (Column R)) {e₀ : Engine R K}
    (he₀ : e₀ = { e with pending := pending, counters := e.counters.addFallbacks fallbacks }) :
    e.Tallied source (e₀.rescanFor reason live source).engine
      (e₀.rescanFor reason live source).outcome := by
  subst he₀
  simp only [rescanFor]
  rcases rescan_tally { e with
      pending := pending, counters := e.counters.addFallbacks fallbacks } live source with
    ⟨columns, plan, hok, hresults, hcounters⟩ | ⟨hnone, err, herr, hresults, hcounters⟩
  · exact .scanned columns plan fallbacks hrejects hcounters hresults ⟨reason, by rw [hok]; rfl⟩
  · -- a queue that was rejected had columns
    rcases hrejects with ⟨⟨⟨columns, plan, hready⟩, -⟩, -⟩ | ⟨haccepts, rfl⟩
    · have hsome := hready.columns_eq
      rw [hnone] at hsome
      cases hsome
    · exact .quiet haccepts hcounters (Or.inr hresults) (Or.inr ⟨err, by rw [herr]; rfl⟩)

/-- A refresh leaves one of its traces. -/
theorem refresh_tallied (e : Engine R K) (live : List (Column R)) (source : RowSource R) :
    e.Tallied source (e.refresh live source).engine (e.refresh live source).outcome := by
  unfold refresh
  by_cases hidle : e.applied = none
  · rw [if_pos (by rw [hidle]; rfl)]
    have haccepts : ¬ e.Rejects source := by
      rintro ⟨⟨columns, plan, hready⟩, -⟩
      exact hready.applied_ne hidle
    exact .quiet haccepts rfl (Or.inl rfl) (Or.inl rfl)
  · rw [if_neg (by simpa using hidle)]
    split
    · rename_i columns plan hcolumns hplan
      have hready : e.Ready columns plan := ⟨hidle, hcolumns, hplan⟩
      by_cases hempty : e.pending = []
      · rw [if_pos (by rw [hempty]; rfl)]
        exact .quiet (fun h => h.2.1 hempty) rfl (Or.inl rfl) (Or.inl rfl)
      · rw [if_neg (by simpa using hempty)]
        unfold replay
        cases hvalidate : DeltaPlan.validate e.pending e.baseline source with
        | ok delta =>
          have haccepts : ¬ e.Rejects source := by
            rintro ⟨-, -, reason, hreason⟩
            rw [hvalidate] at hreason
            cases hreason
          exact .replayed columns plan delta haccepts (DeltaPlan.validate_eq_ok hvalidate).fits
            rfl rfl ⟨_, _, rfl⟩
        | error reason =>
          have hrejects : e.Rejects source :=
            ⟨⟨columns, plan, hready⟩, hempty, reason, hvalidate⟩
          exact rescanFor_tallied e [] (Or.inl ⟨hrejects, rfl⟩) reason live rfl
    · rename_i hnone
      have haccepts : ¬ e.Rejects source := by
        rintro ⟨⟨columns, plan, hready⟩, -⟩
        exact hnone columns plan hready.columns_eq hready.plan_eq
      exact rescanFor_tallied e e.pending (Or.inr ⟨haccepts, rfl⟩) _ live rfl

namespace Tallied

theorem of_quiet (h : e.Tallied source e' outcome)
    (hquiet : outcome = .ok .upToDate ∨ ∃ err, outcome = .error err) :
    e'.counters = e.counters := by
  cases h with
  | quiet _ hcounters => exact hcounters
  | replayed _ _ _ _ _ _ _ houtcome =>
    rcases houtcome with ⟨edits, evaluated, rfl⟩
    rcases hquiet with hok | ⟨err, herr⟩
    · cases hok
    · cases herr
  | scanned _ _ _ _ _ _ houtcome =>
    rcases houtcome with ⟨reason, rfl⟩
    rcases hquiet with hok | ⟨err, herr⟩
    · cases hok
    · cases herr

theorem of_applied {edits evaluated : Nat}
    (h : e.Tallied source e' (.ok (.applied edits evaluated))) :
    e'.counters.incrementalFlushes = e.counters.incrementalFlushes + 1 ∧
      e'.counters.fullScans = e.counters.fullScans ∧
      e'.counters.fallbacks = e.counters.fallbacks := by
  cases h with
  | quiet _ _ _ houtcome =>
    rcases houtcome with hok | ⟨err, herr⟩
    · cases hok
    · cases herr
  | replayed _ _ _ _ _ hcounters =>
    rw [hcounters]
    exact ⟨rfl, rfl, rfl⟩
  | scanned _ _ _ _ _ _ houtcome =>
    rcases houtcome with ⟨reason, hok⟩
    cases hok

theorem of_rescanned {reason : FallbackReason}
    (h : e.Tallied source e' (.ok (.rescanned reason))) :
    e'.counters.fullScans = e.counters.fullScans + 1 ∧
      e'.counters.incrementalFlushes = e.counters.incrementalFlushes := by
  cases h with
  | quiet _ _ _ houtcome =>
    rcases houtcome with hok | ⟨err, herr⟩
    · cases hok
    · cases herr
  | replayed _ _ _ _ _ _ _ houtcome =>
    rcases houtcome with ⟨edits, evaluated, hok⟩
    cases hok
  | scanned _ _ _ _ hcounters =>
    rw [hcounters]
    exact ⟨rfl, rfl⟩

/-- The reason of a scan is not counted. -/
theorem of_reason {reason : FallbackReason}
    (h : e.Tallied source e' (.ok (.rescanned reason))) (other : FallbackReason) :
    e.Tallied source e' (.ok (.rescanned other)) := by
  cases h with
  | quiet _ _ _ houtcome =>
    rcases houtcome with hok | ⟨err, herr⟩
    · cases hok
    · cases herr
  | replayed _ _ _ _ _ _ _ houtcome =>
    rcases houtcome with ⟨edits, evaluated, hok⟩
    cases hok
  | scanned columns plan fallbacks hrejects hcounters hresults =>
    exact .scanned columns plan fallbacks hrejects hcounters hresults ⟨other, rfl⟩

/-- Only a queue that is rejected counts as a fallback. -/
theorem fallbacks_eq (h : e.Tallied source e' outcome) :
    e.Rejects source ∧ e'.counters.fallbacks = e.counters.fallbacks + 1 ∨
      ¬ e.Rejects source ∧ e'.counters.fallbacks = e.counters.fallbacks := by
  cases h with
  | quiet haccepts hcounters => exact Or.inr ⟨haccepts, by rw [hcounters]⟩
  | replayed _ _ _ haccepts _ hcounters =>
    refine Or.inr ⟨haccepts, ?_⟩
    rw [hcounters]
    rfl
  | scanned _ _ _ hrejects hcounters =>
    rw [hcounters]
    rcases hrejects with ⟨hrejects, rfl⟩ | ⟨haccepts, rfl⟩
    · exact Or.inl ⟨hrejects, rfl⟩
    · exact Or.inr ⟨haccepts, rfl⟩

end Tallied

/-! ## Results and rows are counted -/

theorem Tallied.counted (h : e.Tallied source e' outcome) (hs : e.results.RowsSorted)
    (hc : e.Counted) : e'.Counted := by
  cases h with
  | quiet _ hcounters hresults =>
    rcases hresults with hresults | hresults
    · exact hc.of_eq hresults hcounters
    · refine ⟨?_, ?_, ?_⟩
      · rw [hcounters]
        exact hc.fallbacks_le
      · rw [hresults]
        exact Nat.zero_le _
      · rw [hresults]
        exact Nat.zero_le _
  | replayed columns plan delta _ hfits hcounters hresults =>
    rcases hfits.accounted columns plan hs with ⟨-, hsize, hrows⟩
    have hsizeBefore := hc.size_le
    have hrowsBefore := hc.rows_le
    refine ⟨?_, ?_, ?_⟩
    · rw [hcounters]
      exact hc.fallbacks_le
    · rw [hresults, hcounters]
      simp only [Counters.addReplay]
      omega
    · rw [hresults, hcounters]
      simp only [Counters.addReplay]
      omega
  | scanned columns plan fallbacks hrejects hcounters hresults =>
    have hfound := card_foundRows_fullScan_le (K := K) source columns plan
    have hfallbacks := hc.fallbacks_le
    refine ⟨?_, ?_, ?_⟩
    · rw [hcounters]
      simp only [Counters.addScan, Counters.addFallbacks]
      omega
    · rw [hcounters]
      exact Nat.le_add_left _ _
    · rw [hcounters, hresults]
      simp only [Counters.addScan]
      omega

theorem counted_run (config : EngineConfig) (calls : List (Call R K)) :
    (run config calls).Counted := by
  have hkept : (run config calls).Ordered ∧ (run config calls).Counted := by
    refine run_induction (P := fun e => e.Ordered ∧ e.Counted)
      ⟨ordered_ofConfig config, counted_ofConfig config⟩ ?_ calls
    intro e c he
    refine call_induction (P := fun e => e.Ordered ∧ e.Counted) he ?_ ?_ ?_ ?_ c
    · intro descriptors
      have hkept := retargeted_choose e descriptors
      exact ⟨he.1.choose descriptors, he.2.of_eq hkept.results_eq hkept.counters_eq⟩
    · intro e₀ live source he₀
      exact ⟨(refresh_cases he₀.1.coherent live source).ordered he₀.1,
        (refresh_tallied e₀ live source).counted he₀.1.inOrder.rowsSorted he₀.2⟩
    · intro edit
      rcases report_eq e edit with ⟨pending, h⟩
      exact ⟨he.1.report edit, he.2.of_eq (by rw [h]) (by rw [h])⟩
    · exact ⟨he.1.invalidateColumns, he.2.of_eq rfl rfl⟩
  exact hkept.2

/-! ## Flushes -/

/-- What a flush has done. Descriptors that are applied already are refreshed, and others are
scanned for. -/
def flushOutcome (e : Engine R K) (f : Flush) (live : List (Column R)) (source : RowSource R) :
    Except SearchError FlushOutcome :=
  match f with
  | .refresh => (e.refresh live source).outcome
  | .apply descriptors =>
    if e.applied = some descriptors then (e.refresh live source).outcome
    else (e.applyDescriptors descriptors live source).outcome.map fun _ =>
      .rescanned .descriptorsChanged

/-- A flush leaves the trace of what it has done. -/
theorem flush_tallied (he : e.Coherent) (f : Flush) (live : List (Column R))
    (source : RowSource R) :
    (e.chosen f).Tallied source (e.flush f live source).engine
      (e.flushOutcome f live source) := by
  have htallied := refresh_tallied (e.chosen f) live source
  rw [← (flush_eq e f live source).1] at htallied
  cases f with
  | refresh => exact htallied
  | apply descriptors =>
    by_cases hsame : e.applied = some descriptors
    · rw [flushOutcome, if_pos hsame]
      rwa [chosen, choose, if_pos hsame] at htallied ⊢
    · rw [flushOutcome, if_neg hsame, (applyDescriptors_eq e descriptors live source).2]
      -- new descriptors have no plan, so that there is a scan or the columns cannot be bound
      have hscan := (refresh_cases (he.choose descriptors) live source).of_mustScan
        (mustScan_choose hsame) (by simp [applied_choose])
      change (e.choose descriptors).Tallied source _
        ((e.choose descriptors).refresh live source).outcome at htallied
      rcases hscan with ⟨columns, reason, -, hok⟩ | ⟨err, -, herr⟩
      · rw [hok] at htallied ⊢
        exact htallied.of_reason _
      · rw [herr] at htallied ⊢
        exact htallied

/-- Whether a flush succeeds is part of what it has done. -/
theorem outcome_flush (e : Engine R K) (f : Flush) (live : List (Column R))
    (source : RowSource R) :
    (e.flush f live source).outcome = (e.flushOutcome f live source).map fun _ => () := by
  cases f with
  | refresh => rfl
  | apply descriptors =>
    by_cases hsame : e.applied = some descriptors
    · rw [flush, flushOutcome, if_pos hsame, applyDescriptors, if_pos hsame]
    · rw [flush, flushOutcome, if_neg hsame]
      cases (e.applyDescriptors descriptors live source).outcome <;> rfl

/-- After every run of calls a flush that scans adds one to the scans and nothing to the replays, a
flush that replays adds one to the replays and nothing to the scans and fallbacks, and a flush that
finds nothing to do or fails changes no counter, like every call that is no flush. The fallbacks
go up by one if and only if the flush has a queue that cannot be replayed, with columns and a plan
at hand. There are no more fallbacks than scans, no more results than results found, and no more
rows with results than rows evaluated. -/
theorem counters_account (config : EngineConfig) (calls : List (Call R K)) :
    (∀ f live source,
      let before := (run config calls).counters
      let after := ((run config calls).flush f live source).engine.counters
      let outcome := (run config calls).flushOutcome f live source
      ((run config calls).flush f live source).outcome = (outcome.map fun _ => ()) ∧
      (∀ reason, outcome = .ok (.rescanned reason) →
        after.fullScans = before.fullScans + 1 ∧
          after.incrementalFlushes = before.incrementalFlushes) ∧
      (∀ edits evaluated, outcome = .ok (.applied edits evaluated) →
        after.incrementalFlushes = before.incrementalFlushes + 1 ∧
          after.fullScans = before.fullScans ∧ after.fallbacks = before.fallbacks) ∧
      (outcome = .ok .upToDate → after = before) ∧
      (∀ err, outcome = .error err → after = before) ∧
      (((run config calls).chosen f).Rejects source ∧
          after.fallbacks = before.fallbacks + 1 ∨
        ¬ ((run config calls).chosen f).Rejects source ∧
          after.fallbacks = before.fallbacks)) ∧
    (∀ c : Call R K, c.isFlush = false →
      ((run config calls).call c).counters = (run config calls).counters) ∧
    (run config calls).counters.fallbacks ≤ (run config calls).counters.fullScans ∧
    (run config calls).results.size ≤ (run config calls).counters.resultsEmitted ∧
    ((run config calls).results.toList.map fun r => r.row).toFinset.card ≤
      (run config calls).counters.rowsMatched := by
  have hcoherent := (coherent_run config calls).1
  have hcounted := counted_run config calls
  generalize run config calls = e at hcoherent hcounted
  refine ⟨?_, ?_, hcounted.fallbacks_le, hcounted.size_le, hcounted.rows_le⟩
  · intro f live source before after outcome
    have hkept := (retargeted_chosen e f).counters_eq
    have htallied : (e.chosen f).Tallied source _ outcome := flush_tallied hcoherent f live source
    have hfallbacks := htallied.fallbacks_eq
    rw [hkept] at hfallbacks
    refine ⟨outcome_flush e f live source, ?_, ?_, ?_, ?_, hfallbacks⟩
    · intro reason hok
      rw [hok] at htallied
      have hscanned := htallied.of_rescanned
      rwa [hkept] at hscanned
    · intro edits evaluated hok
      rw [hok] at htallied
      have hreplayed := htallied.of_applied
      rwa [hkept] at hreplayed
    · intro hok
      exact (htallied.of_quiet (Or.inl hok)).trans hkept
    · intro err herr
      exact (htallied.of_quiet (Or.inr ⟨err, herr⟩)).trans hkept
  · intro c hc
    cases c with
    | apply descriptors live source => cases hc
    | refresh live source => cases hc
    | collectionChange change =>
      rcases report_eq e (.collection change) with ⟨pending, hengine⟩
      rw [call, notifyCollectionChange_eq, hengine]
    | itemChange key =>
      rcases report_eq e (.itemChanged key) with ⟨pending, hengine⟩
      rw [call, notifyItemChange_eq, hengine]
      split <;> rfl
    | invalidateColumns => rfl

/-- A scan, a replay of two edits, and a scan for a move, which cannot be replayed. -/
example :
    let live : List (Column String) := [{ id := "name", accessor := some some }]
    let calls : List (Call String String) :=
      [.apply [{ query := "a" }] live (.ofList ["cab", "dog"]), .collectionChange (.add 2 1),
        .collectionChange (.remove 0 1), .refresh live (.ofList ["dog", "ape"]),
        .collectionChange (.move 0 1 1), .refresh live (.ofList ["ape", "dog"])]
    (run {} calls).counters = ⟨2, 1, 1, 5, 3⟩ := by
  decide +kernel

end Engine

end CellSearch
