import Mathlib
import CellSearch.Proofs.Engine.Call
import CellSearch.Proofs.Engine.Visit

/-!
# Rows that are evaluated again

A refresh that replays evaluates the rows that its queue has put into the table and the rows that a
report of the queue is about (`Engine.rematched`), each of them once and no other
(`Engine.refresh_rematches`). The results of any other row are those from before, with the row
number that the row has now (`Engine.keptAt`).

What makes this exact is that the results of a reachable engine are a scan of rows as they were
when each of them was evaluated last (`Engine.Based`), whatever has happened to the table since.
-/

namespace CellSearch

namespace Engine

variable {R K : Type}

/-- The rows that must be evaluated when the queue is replayed: those that it has put in, and those
that its reports are about. -/
def rematched [SearchRow R K] [DecidableEq K] (e : Engine R K) (source : RowSource R) :
    List Nat :=
  (List.range source.count).filter fun i =>
    e.origins[i]? == some none || e.pending.any fun edit => edit.located source == some i

/-- The results from before of the row that is now at a place. -/
def keptAt (e : Engine R K) (i : Nat) : List (SearchResult K) :=
  match e.origins[i]? with
  | some (some j) => (e.results.toList.filter fun r => r.row = j).map (SearchResult.moveTo i)
  | _ => []

/-- A result that is kept has another row number and is the same in all else. -/
theorem moveTo_mem_keptAt {e : Engine R K} {r : SearchResult K} (hr : r ∈ e.results.toList)
    {i : Nat} (horigin : e.origins[i]? = some (some r.row)) : r.moveTo i ∈ e.keptAt i := by
  rw [keptAt, horigin]
  exact List.mem_map_of_mem (List.mem_filter.mpr ⟨hr, by simp⟩)

theorem Ready.unique {e : Engine R K} {columns columns' : ColumnSet R} {plan plan' : ScopePlan}
    (h : e.Ready columns plan) (h' : e.Ready columns' plan') :
    columns' = columns ∧ plan' = plan := by
  have hcolumns := h'.columns_eq
  have hplan := h'.plan_eq
  rw [h.columns_eq] at hcolumns
  rw [h.plan_eq] at hplan
  exact ⟨(Option.some.inj hcolumns).symm, (Option.some.inj hplan).symm⟩

/-! ## What the results were found in -/

variable [SearchRow R K]

/-- The results are a scan of the rows as they were when each of them was evaluated last. -/
def Based (e : Engine R K) : Prop :=
  ∀ columns plan, e.Ready columns plan → ∃ base : RowSource R, base.count = e.baseline ∧
    e.results = (fullScan base columns plan).1

theorem based_ofConfig (config : EngineConfig) : (ofConfig config : Engine R K).Based :=
  fun _ _ hready => absurd rfl hready.applied_ne

theorem Based.choose {e : Engine R K} (he : e.Based) (descriptors : List Descriptor) :
    (e.choose descriptors).Based := by
  unfold Engine.choose
  split
  · exact he
  · intro columns plan hready
    cases hready.plan_eq

theorem Based.of_pending {e : Engine R K} (he : e.Based) (pending : List (PendingEdit K)) :
    ({ e with pending := pending } : Engine R K).Based :=
  fun columns plan hready =>
    he columns plan ⟨hready.applied_ne, hready.columns_eq, hready.plan_eq⟩

theorem Based.invalidateColumns {e : Engine R K} : e.invalidateColumns.Based := by
  intro columns plan hready
  cases hready.plan_eq

variable [DecidableEq K]
variable {e e' : Engine R K} {live : List (Column R)} {source : RowSource R}
variable {columns : ColumnSet R} {plan : ScopePlan} {delta : DeltaPlan}

/-- A replay leaves the engine as ready as it was. -/
theorem Replayed.ready_after (h : e.Replayed source columns plan delta e') :
    e'.Ready columns plan := by
  refine ⟨?_, ?_, ?_⟩
  · rw [h.applied_eq]
    exact h.ready.applied_ne
  · rw [h.columns_eq, h.ready.columns_eq]
  · rw [h.plan_eq, h.ready.plan_eq]

/-- A replay takes the dirty rows from the present table, and any other row from where it was. -/
theorem Replayed.based (h : e.Replayed source columns plan delta e') (he : e.Based) : e'.Based := by
  intro columns' plan' hready
  rcases h.ready_after.unique hready with ⟨rfl, rfl⟩
  rcases he columns' plan' h.ready with ⟨base, hcount, hresults⟩
  have hfits := (DeltaPlan.validate_eq_ok h.checked).fits
  rw [← hcount] at hfits
  let edited := delta.edits.foldl RowEdit.perform base
  refine ⟨delta.dirtyRows.ranges.foldl source.patch edited, ?_, ?_⟩
  · rw [RowSource.count_foldl_patch, RowEdit.count_foldl_perform, hfits.rows_after, h.baseline_eq]
  · rw [h.results_eq, hresults, DeltaPlan.apply_fullScan_patch hfits]

theorem Refreshed.based {outcome : Except SearchError FlushOutcome}
    (h : e.Refreshed live source e' outcome) (he : e.Based) : e'.Based := by
  cases h with
  | idle _ hengine => exact hengine ▸ he.of_pending []
  | upToDate _ _ _ _ hengine => exact hengine ▸ he
  | replayed _ _ _ _ hreplayed => exact hreplayed.based he
  | scanned columns _ _ h =>
    intro columns' plan' hready
    have hafter : e'.Ready columns (e.planFor columns) :=
      ⟨hready.applied_ne, h.columns_eq, h.plan_eq⟩
    rcases hafter.unique hready with ⟨rfl, rfl⟩
    exact ⟨source, h.baseline_eq.symm, h.results_eq⟩
  | unbound _ _ h =>
    intro columns plan hready
    have hnone := h.plan_eq
    rw [hready.plan_eq] at hnone
    cases hnone

theorem based_run (config : EngineConfig) (calls : List (Call R K)) :
    (run config calls).Based := by
  refine coherent_run_induction (based_ofConfig config) ?_ ?_ ?_ ?_ calls
  · exact fun e descriptors he => he.choose descriptors
  · exact fun e live source e' outcome hcases he => hcases.based he
  · intro e edit he
    obtain ⟨pending, hengine⟩ := report_eq e edit
    exact hengine ▸ he.of_pending pending
  · exact fun e _ => .invalidateColumns

/-! ## Replays -/

/-- All that a refresh does if the queue can be replayed. -/
theorem Ready.refresh_eq (hready : e.Ready columns plan) (hpending : e.pending ≠ [])
    (hchecked : DeltaPlan.validate e.pending e.baseline source = .ok delta)
    (live : List (Column R)) :
    e.refresh live source =
      ⟨{ e with
          pending := []
          results := (delta.apply e.results source columns plan).results
          baseline := source.count
          counters := { e.counters with
            incrementalFlushes := e.counters.incrementalFlushes + 1
            rowsMatched := e.counters.rowsMatched +
              (delta.apply e.results source columns plan).rowsEvaluated
            resultsEmitted := e.counters.resultsEmitted +
              (delta.apply e.results source columns plan).resultsEmitted } },
        .ok (.applied delta.size (delta.apply e.results source columns plan).rowsEvaluated),
        []⟩ := by
  have happlied : ¬ e.applied.isNone = true := by simpa using hready.applied_ne
  have hqueued : ¬ e.pending.isEmpty = true := by simpa using hpending
  rw [refresh, if_neg happlied]
  split
  · rename_i columns' plan' hcolumns hplan
    rcases hready.unique ⟨hready.applied_ne, hcolumns, hplan⟩ with ⟨rfl, rfl⟩
    rw [if_neg hqueued, replay, hchecked]
  · rename_i hnone
    exact absurd hready.plan_eq (hnone columns plan hready.columns_eq)

theorem Refreshed.replayed_of_applied {edits evaluated : Nat}
    (h : e.Refreshed live source e' (.ok (.applied edits evaluated))) :
    ∃ columns plan delta, e.Replayed source columns plan delta e' := by
  cases h with
  | idle _ _ houtcome => cases houtcome
  | upToDate _ _ _ _ _ houtcome => cases houtcome
  | replayed columns plan delta _ h => exact ⟨columns, plan, delta, h⟩
  | scanned _ _ _ _ houtcome => cases houtcome
  | unbound _ _ _ houtcome => cases houtcome

/-- The dirty rows of a queue that can be replayed are the rows that must be evaluated. -/
theorem filter_covers_dirtyRows
    (h : DeltaPlan.validate e.pending e.baseline source = .ok delta) :
    (List.range source.count).filter (Interval.covers delta.dirtyRows.ranges) =
      e.rematched source := by
  apply List.filter_congr
  intro i hi
  rw [Bool.eq_iff_iff, DeltaPlan.covers_dirtyRows_of_validate h]
  simp [List.mem_range.mp hi, origins]

/-- A replay asks for no other row than those that must be evaluated. -/
theorem Replayed.refresh_congr (h : e.Replayed source columns plan delta e')
    {other : RowSource R} (hcount : other.count = source.count)
    (hlocate : ∀ key : K, other.locate key = source.locate key)
    (hrow : ∀ i ∈ e.rematched source, other.row? i = source.row? i) (live : List (Column R)) :
    e.refresh live other = e.refresh live source := by
  have hchecked : DeltaPlan.validate e.pending e.baseline other = .ok delta := by
    rw [DeltaPlan.validate_congr hcount hlocate, h.checked]
  have hdirty : ∀ i, Interval.covers delta.dirtyRows.ranges i = true →
      other.row? i = source.row? i := by
    intro i hi
    apply hrow
    rw [← filter_covers_dirtyRows h.checked]
    have hlt := ((DeltaPlan.covers_dirtyRows_of_validate h.checked i).mp hi).1
    exact List.mem_filter.mpr ⟨List.mem_range.mpr hlt, hi⟩
  rw [h.ready.refresh_eq h.pending_ne hchecked, h.ready.refresh_eq h.pending_ne h.checked,
    DeltaPlan.apply_congr hdirty, hcount]

/-- After a replay the results of a row are found in it, if it must be evaluated, and otherwise they
are those from before. -/
theorem Replayed.toList_results (h : e.Replayed source columns plan delta e') (he : e.Based) :
    e.origins.length = source.count ∧
      e'.results.toList = (List.range source.count).flatMap fun i =>
        if i ∈ e.rematched source then resultsAt source columns plan i else e.keptAt i := by
  rcases he columns plan h.ready with ⟨base, hbaseline, hresults⟩
  have hcollected := DeltaPlan.validate_eq_ok h.checked
  have hfits := hcollected.fits
  -- the rows of the edited table are those from before, where their origins say
  rcases hcollected.tracesTo hbaseline with ⟨htraces, hcount⟩
  have hlength : e.origins.length = source.count := by
    rw [← hcount, htraces.count_eq, origins]
  rw [← hbaseline] at hfits
  refine ⟨hlength, ?_⟩
  rw [h.results_eq, hresults, DeltaPlan.apply_fullScan_patch hfits, toList_fullScan,
    RowSource.count_foldl_patch, hcount, resultsIn, ← List.range_eq_range']
  apply List.flatMap_congr
  intro i hi
  have hmem : Interval.covers delta.dirtyRows.ranges i = true ↔ i ∈ e.rematched source := by
    rw [← filter_covers_dirtyRows h.checked, List.mem_filter]
    exact (and_iff_right hi).symm
  rw [resultsAt_foldl_patch]
  by_cases hdirty : i ∈ e.rematched source
  · rw [if_pos hdirty, if_pos (hmem.mpr hdirty)]
  · have hlt : i < e.origins.length := by
      rw [hlength]
      exact List.mem_range.mp hi
    rw [if_neg hdirty, if_neg fun hcovered => hdirty (hmem.mp hcovered),
      htraces.resultsAt_eq hlt, keptAt, hresults]
    rfl

/-- A refresh that replays a queue evaluates the rows that the queue has put in and those that its
reports are about, each of them once. It asks for no other row: whatever else the table holds, the
reply is the same. It makes one edit for each addition and each removal, two for each replacement,
and counts one more for each report of a row that is found. The results of any other row that is
still there are kept, with the row number that it has now. -/
theorem refresh_rematches {config : EngineConfig} {calls : List (Call R K)}
    (hplan : (run config calls).plan = some plan) (hsearches : plan.isEmpty = false)
    (hfull : source.Full) {edits evaluated : Nat}
    (hok : ((run config calls).refresh live source).outcome = .ok (.applied edits evaluated)) :
    ∃ columns delta, (run config calls).columns = some columns ∧
      DeltaPlan.validate (run config calls).pending (run config calls).baseline source =
        .ok delta ∧
      (delta.visits source).map Prod.snd = (run config calls).rematched source ∧
      evaluated = ((run config calls).rematched source).length ∧
      edits = (run config calls).pending.countP PendingEdit.isAdd +
        (run config calls).pending.countP PendingEdit.isRemove +
        2 * (run config calls).pending.countP PendingEdit.isReplace +
        (run config calls).pending.countP (fun edit => (edit.located source).isSome) ∧
      ((run config calls).refresh live source).engine.counters =
        { (run config calls).counters with
          incrementalFlushes := (run config calls).counters.incrementalFlushes + 1
          rowsMatched := (run config calls).counters.rowsMatched + evaluated
          resultsEmitted := (run config calls).counters.resultsEmitted +
            (((run config calls).rematched source).flatMap
              (resultsAt source columns plan) : List (SearchResult K)).length } ∧
      ((run config calls).refresh live source).engine.results.toList =
        ((List.range source.count).flatMap fun i =>
          if i ∈ (run config calls).rematched source then resultsAt source columns plan i
          else (run config calls).keptAt i) ∧
      (∀ other : RowSource R, other.count = source.count →
        (∀ key : K, other.locate key = source.locate key) →
        (∀ i ∈ (run config calls).rematched source, other.row? i = source.row? i) →
          (run config calls).refresh live other = (run config calls).refresh live source) ∧
      ∀ r ∈ (run config calls).results.toList, ∀ i,
        (run config calls).origins[i]? = some (some r.row) →
          i ∉ (run config calls).rematched source →
          r.moveTo i ∈ ((run config calls).refresh live source).engine.results.toList := by
  have hcoherent := (coherent_run config calls).1
  have hbased := based_run config calls
  generalize run config calls = e at hplan hok hcoherent hbased ⊢
  have hcases := refresh_cases hcoherent live source
  rw [hok] at hcases
  rcases hcases.replayed_of_applied with ⟨columns, plan', delta, hreplayed⟩
  have hsame : plan' = plan := by
    have hready := hreplayed.ready.plan_eq
    rw [hplan] at hready
    exact (Option.some.inj hready).symm
  subst hsame
  have hfits := (DeltaPlan.validate_eq_ok hreplayed.checked).fits
  have hmarked := filter_covers_dirtyRows hreplayed.checked
  rcases DeltaPlan.apply_counts hfits hfull columns hsearches e.results with
    ⟨hevaluated, hemitted⟩
  rw [hmarked] at hevaluated hemitted
  have hrefresh := hreplayed.ready.refresh_eq hreplayed.pending_ne hreplayed.checked live
  have houtcome := hok
  rw [hrefresh] at houtcome
  cases houtcome
  rcases hreplayed.toList_results hbased with ⟨hlength, hresults⟩
  refine ⟨columns, delta, hreplayed.ready.columns_eq, hreplayed.checked, ?_, hevaluated, ?_, ?_,
    hresults, ?_, ?_⟩
  · rw [DeltaPlan.map_snd_visits hfits hfull, hmarked]
  · exact DeltaPlan.size_of_validate hreplayed.checked
  · rw [hrefresh, hemitted]
  · exact fun other hcount hlocate hrow => hreplayed.refresh_congr hcount hlocate hrow live
  · intro r hr i horigin hclean
    rw [hresults, List.mem_flatMap]
    have hlt : i < source.count := by
      rw [← hlength]
      exact (List.getElem?_eq_some_iff.mp horigin).1
    refine ⟨i, List.mem_range.mpr hlt, ?_⟩
    rw [if_neg hclean]
    exact moveTo_mem_keptAt hr horigin

/-- A row comes in before two others, of which the first is reported; the other one has moved. -/
theorem refresh_rematches_report :
    let config : EngineConfig := { trackItemChanges := true }
    let live : List (Column String) := [{ id := "name", accessor := some some }]
    let source : RowSource String := .ofList ["fan", "cab", "ape"]
    let calls : List (Call String String) :=
      [.apply [{ query := "a" }] live (.ofList ["cab", "ape"]), .collectionChange (.add 0 1),
        .itemChange "cab"]
    ((run config calls).refresh live source).outcome = .ok (.applied 2 2) ∧
      (run config calls).rematched source = [0, 1] ∧
      ∃ r ∈ (run config calls).results.toList, r.row = 1 ∧
        r.moveTo 2 ∈ ((run config calls).refresh live source).engine.results.toList := by
  intro config live source calls
  have hok : ((run config calls).refresh live source).outcome = .ok (.applied 2 2) := by cbv
  have hmarked : (run config calls).rematched source = [0, 1] := by decide +kernel
  have hplan : (run config calls).plan = some ⟨[(0, [.ofDescriptor { query := "a" }])]⟩ := by
    decide +kernel
  have hfound : ∃ r ∈ (run config calls).results.toList, r.row = 1 := by decide +kernel
  rcases hfound with ⟨r, hr, hrow⟩
  have horigin : (run config calls).origins[2]? = some (some r.row) := by
    rw [hrow]
    decide +kernel
  have hclean : 2 ∉ (run config calls).rematched source := by
    rw [hmarked]
    decide
  have hfull : source.Full := RowSource.full_ofList _
  rcases refresh_rematches hplan rfl hfull hok with
    ⟨columns, delta, -, -, -, -, -, -, -, -, hkept⟩
  exact ⟨hok, hmarked, r, hr, hrow, hkept r hr 2 horigin hclean⟩

end Engine

end CellSearch
