import Mathlib
import CellSearch.Proofs.Engine.Call

/-!
# Order of the results

The binary searches in a result set are right on results in order only. The results of an
engine are in order, and inside the table that they were found in, after every run of calls:
reports may be wrong or missing, and the table may change behind the back of the engine. What a
replay needs is that the queue fits the number of rows, and this is checked before it.
-/

namespace CellSearch

namespace Engine

variable {R K : Type}

/-- The engine is coherent, and its results are in order and in the table. -/
structure Ordered (e : Engine R K) : Prop where
  coherent : e.Coherent
  inOrder : e.results.InOrder
  below : e.results.Below e.baseline

theorem ordered_ofConfig (config : EngineConfig) : (ofConfig config : Engine R K).Ordered where
  coherent := coherent_ofConfig config
  inOrder := List.Pairwise.nil
  below := by
    intro r hr
    cases hr

/-- Only the results and the number of rows matter for the order. -/
theorem Ordered.of_eq {e e' : Engine R K} (h : e.Ordered) (he' : e'.Coherent)
    (hresults : e'.results = e.results) (hbaseline : e'.baseline = e.baseline) : e'.Ordered := by
  refine ⟨he', ?_, ?_⟩
  · rw [hresults]
    exact h.inOrder
  · rw [hresults, hbaseline]
    exact h.below

theorem Ordered.choose {e : Engine R K} (h : e.Ordered) (descriptors : List Descriptor) :
    (e.choose descriptors).Ordered := by
  have hkept := retargeted_choose e descriptors
  exact h.of_eq (h.coherent.choose descriptors) hkept.results_eq hkept.baseline_eq

theorem Ordered.report [DecidableEq K] {e : Engine R K} (h : e.Ordered) (edit : PendingEdit K) :
    (e.report edit).Ordered := by
  rcases report_eq e edit with ⟨pending, hengine⟩
  exact h.of_eq (h.coherent.report edit) (by rw [hengine]) (by rw [hengine])

theorem Ordered.invalidateColumns {e : Engine R K} (h : e.Ordered) :
    e.invalidateColumns.Ordered :=
  h.of_eq h.coherent.invalidateColumns rfl rfl

/-- The columns and the plan of a coherent engine are numbered upwards. -/
theorem Coherent.columns_lt {e : Engine R K} (he : e.Coherent) {columns : ColumnSet R}
    (hcolumns : e.columns = some columns) :
    columns.columns.Pairwise fun a b => a.index < b.index := by
  obtain ⟨live, hbind⟩ := he.bound columns hcolumns
  exact ColumnSet.bind_index_lt hbind

/-- Results in order are at most one in each cell. -/
theorem nodup_of_inOrder {results : ResultSet K} (h : results.InOrder) :
    (results.toList.map fun r => (r.row, r.columnIndex)).Nodup := by
  rw [List.Nodup, List.pairwise_map]
  apply h.imp
  intro a b hab heq
  rw [Prod.mk.injEq] at heq
  rcases hab with hlt | ⟨-, hlt⟩
  · omega
  · omega

variable [SearchRow R K]
variable {e e' : Engine R K} {live : List (Column R)} {source : RowSource R}

theorem Scanned.ordered {columns : ColumnSet R} (h : e.Scanned live source columns e')
    (he' : e'.Coherent) : e'.Ordered := by
  refine ⟨he', ?_, ?_⟩
  · rw [h.results_eq, ResultSet.InOrder, toList_fullScan]
    exact resultsIn_inOrder (he'.columns_lt h.columns_eq) (ScopePlan.build_position_lt _ _)
  · rw [h.results_eq, h.baseline_eq]
    intro r hr
    rw [toList_fullScan] at hr
    simpa using (row_of_mem_resultsIn hr).2

variable [DecidableEq K]

theorem Replayed.ordered {columns : ColumnSet R} {plan : ScopePlan} {delta : DeltaPlan}
    (h : e.Replayed source columns plan delta e') (he : e.Ordered) (he' : e'.Coherent) :
    e'.Ordered := by
  have hplan : plan.entries.Pairwise fun a b => a.1 < b.1 := by
    rw [h.ready.plan_eq_planFor he.coherent]
    exact ScopePlan.build_position_lt _ _
  obtain ⟨horder, hbelow⟩ := DeltaPlan.apply_inOrder (DeltaPlan.validate_eq_ok h.checked).fits
    (he.coherent.columns_lt h.ready.columns_eq) hplan he.inOrder he.below
  refine ⟨he', ?_, ?_⟩
  · rw [h.results_eq]
    exact horder
  · rw [h.results_eq, h.baseline_eq]
    exact hbelow

theorem Refreshed.ordered {outcome : Except SearchError FlushOutcome}
    (h : e.Refreshed live source e' outcome) (he : e.Ordered) : e'.Ordered := by
  have he' := h.coherent he.coherent
  cases h with
  | idle _ hengine => exact he.of_eq he' (by rw [hengine]) (by rw [hengine])
  | upToDate _ _ _ _ hengine => rwa [hengine]
  | replayed _ _ _ _ hreplayed => exact hreplayed.ordered he he'
  | scanned _ _ _ hscanned => exact hscanned.ordered he'
  | unbound _ _ hunbound =>
    refine ⟨he', ?_, ?_⟩
    · rw [hunbound.results_eq]
      exact List.Pairwise.nil
    · rw [hunbound.results_eq]
      intro r hr
      cases hr

/-- Every call keeps the order. -/
theorem Ordered.call (he : e.Ordered) (c : Call R K) : (e.call c).Ordered :=
  call_induction (P := Ordered) he he.choose
    (fun _ live source he₀ => (refresh_cases he₀.coherent live source).ordered he₀)
    he.report he.invalidateColumns c

theorem ordered_run (config : EngineConfig) (calls : List (Call R K)) :
    (run config calls).Ordered :=
  run_induction (ordered_ofConfig config) (fun _ c he => he.call c) calls

/-- A refresh that scans or replays has the number of rows of the table that it was given. -/
theorem Refreshed.baseline_eq {outcome : FlushOutcome}
    (h : e.Refreshed live source e' (.ok outcome)) (hne : outcome ≠ .upToDate) :
    e'.baseline = source.count := by
  cases h with
  | idle _ _ houtcome => exact absurd (Except.ok.inj houtcome) hne
  | upToDate _ _ _ _ _ houtcome => exact absurd (Except.ok.inj houtcome) hne
  | replayed _ _ _ _ hreplayed => exact hreplayed.baseline_eq
  | scanned _ _ _ hscanned => exact hscanned.baseline_eq
  | unbound _ _ _ houtcome => cases houtcome

theorem refresh_baseline_eq (he : e.Coherent) {outcome : FlushOutcome}
    (hok : (e.refresh live source).outcome = .ok outcome) (hne : outcome ≠ .upToDate) :
    (e.refresh live source).engine.baseline = source.count := by
  have hcases := refresh_cases he live source
  rw [hok] at hcases
  exact hcases.baseline_eq hne

/-- To apply descriptors is to scan or to replay, unless they are applied and nothing is queued. -/
theorem apply_baseline_eq (he : e.Coherent) {descriptors : List Descriptor}
    (hok : (e.applyDescriptors descriptors live source).outcome = .ok ()) :
    (e.applied = some descriptors ∧ (e.refresh live source).outcome = .ok .upToDate) ∨
      (e.applyDescriptors descriptors live source).engine.baseline = source.count := by
  obtain ⟨hengine, houtcome⟩ := applyDescriptors_eq e descriptors live source
  rw [houtcome] at hok
  obtain ⟨outcome, hrefresh, -⟩ := exists_of_map_eq_ok hok
  rw [hengine]
  by_cases hne : outcome = .upToDate
  · left
    have happlied : e.applied = some descriptors := by
      by_contra hother
      have hcases := refresh_cases (he.choose descriptors) live source
      rw [hrefresh] at hcases
      have hscan := hcases.of_mustScan (mustScan_choose hother) (by simp [applied_choose])
      rcases hscan with ⟨_, _, _, heq⟩ | ⟨_, _, heq⟩
      · rw [hne] at heq
        cases heq
      · cases heq
    refine ⟨happlied, ?_⟩
    rw [choose, if_pos happlied] at hrefresh
    rw [hrefresh, hne]
  · exact Or.inr (refresh_baseline_eq (he.choose descriptors) hrefresh hne)

/-- After every run of calls the results go up by row and column, hence no cell has two, and
they lie in the first `baseline` rows. A flush that scans or replays sets `baseline` to the number
of rows of its table. -/
theorem results_inOrder_of_run (config : EngineConfig) (calls : List (Call R K)) :
    (run config calls).results.toList.Pairwise SearchResult.Precedes ∧
    ((run config calls).results.toList.map fun r => (r.row, r.columnIndex)).Nodup ∧
    (∀ r ∈ (run config calls).results.toList, r.row < (run config calls).baseline) ∧
    (∀ live source outcome, ((run config calls).refresh live source).outcome = .ok outcome →
      outcome ≠ .upToDate →
      ((run config calls).refresh live source).engine.baseline = source.count) ∧
    ∀ descriptors live source,
      ((run config calls).applyDescriptors descriptors live source).outcome = .ok () →
      ((run config calls).applied = some descriptors ∧
        ((run config calls).refresh live source).outcome = .ok .upToDate) ∨
      ((run config calls).applyDescriptors descriptors live source).engine.baseline =
        source.count := by
  have hordered := ordered_run config calls
  generalize run config calls = e at hordered
  refine ⟨hordered.inOrder, nodup_of_inOrder hordered.inOrder, hordered.below, ?_, ?_⟩
  · exact fun live source outcome hok hne => refresh_baseline_eq hordered.coherent hok hne
  · exact fun descriptors live source hok => apply_baseline_eq hordered.coherent hok

end Engine

end CellSearch
