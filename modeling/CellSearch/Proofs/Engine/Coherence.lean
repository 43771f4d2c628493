import Mathlib
import CellSearch.Proofs.Engine.Current
import CellSearch.Proofs.Engine.Queue

/-!
# Coherence and rest

What the engine keeps belongs together after every run of calls: a plan is the one of the bound
columns and of the applied descriptors, and an engine without descriptors keeps neither plan nor
results nor reports (`Engine.EmptyIdle`). A flush that succeeds leaves the engine at rest
(`Engine.AtRest`): it answers without a look at the table or at the live columns, and until a
report is queued or the columns are invalidated no call changes it.
-/

namespace CellSearch

namespace Engine

variable {R K : Type}

/-! ## Engines without descriptors -/

/-- An engine without descriptors has no plan, no result and no report. -/
def EmptyIdle (e : Engine R K) : Prop :=
  e.applied = none → e.plan = none ∧ e.results = .empty ∧ e.pending = []

theorem EmptyIdle.of_applied {e : Engine R K} (h : e.applied ≠ none) : e.EmptyIdle :=
  fun hnone => absurd hnone h

theorem emptyIdle_ofConfig (config : EngineConfig) : (ofConfig config : Engine R K).EmptyIdle :=
  fun _ => ⟨rfl, rfl, rfl⟩

theorem EmptyIdle.invalidateColumns {e : Engine R K} (he : e.EmptyIdle) :
    e.invalidateColumns.EmptyIdle := by
  intro hnone
  exact ⟨rfl, (he hnone).2⟩

/-- A report counts only if there are descriptors. -/
theorem EmptyIdle.report [DecidableEq K] {e : Engine R K} (he : e.EmptyIdle)
    (edit : PendingEdit K) : (e.report edit).EmptyIdle := by
  by_cases happlied : e.applied = none
  · rw [Engine.report, if_pos (by simp [happlied])]
    exact he
  · obtain ⟨pending, hengine⟩ := report_eq e edit
    rw [hengine]
    exact .of_applied happlied

/-- A plan of a coherent engine visits bound columns for the applied descriptors. -/
theorem Coherent.plan_eq_build {e : Engine R K} (he : e.Coherent) (hidle : e.EmptyIdle)
    {plan : ScopePlan} (hplan : e.plan = some plan) :
    ∃ columns descriptors, e.columns = some columns ∧
      e.applied = some descriptors ∧ plan = .build columns (descriptors.map .ofDescriptor) ∧
      ∀ entry ∈ plan.entries, entry.1 < columns.columns.length := by
  rcases he.planned plan hplan with ⟨columns, hcolumns, hfor⟩
  cases happlied : e.applied with
  | none =>
    have hnone := (hidle happlied).1
    rw [hplan] at hnone
    cases hnone
  | some descriptors =>
    have hbuild : plan = .build columns (descriptors.map .ofDescriptor) := by
      rw [hfor, planFor, happlied, Option.getD_some]
    refine ⟨columns, descriptors, hcolumns, rfl, hbuild, ?_⟩
    intro entry hentry
    rw [hbuild] at hentry
    exact ScopePlan.lt_of_mem_build_entries hentry

section Calls

variable [SearchRow R K] [DecidableEq K]
variable {e e' : Engine R K} {live : List (Column R)} {source : RowSource R}

theorem EmptyIdle.refreshed {outcome : Except SearchError FlushOutcome} (he : e.EmptyIdle)
    (h : e.Refreshed live source e' outcome) : e'.EmptyIdle := by
  intro hnone
  rw [h.config_eq.2] at hnone
  rw [h.eq_of_idle hnone]
  exact ⟨(he hnone).1, (he hnone).2.1, rfl⟩

theorem emptyIdle_run (config : EngineConfig) (calls : List (Call R K)) :
    (run config calls).EmptyIdle := by
  refine coherent_run_induction (emptyIdle_ofConfig config) ?_ ?_ ?_ ?_ calls
  · exact fun e descriptors _ => .of_applied (by simp [applied_choose])
  · exact fun e live source e' outcome hcases he => he.refreshed hcases
  · exact fun e edit he => he.report edit
  · exact fun e he => he.invalidateColumns

end Calls

/-! ## Engines at rest -/

/-- Nothing is queued, and what there is to search with is there. -/
structure AtRest (e : Engine R K) : Prop where
  pending_eq : e.pending = []
  ready : e.applied ≠ none → ∃ columns plan, e.Ready columns plan

/-- A report changes nothing but the queue. -/
theorem AtRest.report_eq [DecidableEq K] {e : Engine R K} (h : e.AtRest) {edit : PendingEdit K}
    (hpending : (e.report edit).pending = []) : e.report edit = e := by
  rcases Engine.report_eq e edit with ⟨pending, hengine⟩
  rw [hengine] at hpending ⊢
  simp only at hpending
  rw [hpending, ← h.pending_eq]

variable [SearchRow R K] [DecidableEq K]
variable {e e' : Engine R K} {live : List (Column R)} {source : RowSource R}

/-- A refresh that succeeds leaves the engine at rest. -/
theorem Refreshed.atRest {outcome : FlushOutcome}
    (h : e.Refreshed live source e' (.ok outcome)) : e'.AtRest := by
  refine ⟨h.pending_eq, fun happlied => ?_⟩
  cases h with
  | idle hidle hengine =>
    rw [hengine] at happlied
    exact absurd hidle happlied
  | upToDate columns plan hready _ hengine => exact ⟨columns, plan, hengine ▸ hready⟩
  | replayed columns plan _ _ h =>
    refine ⟨columns, plan, happlied, ?_, ?_⟩
    · rw [h.columns_eq, h.ready.columns_eq]
    · rw [h.plan_eq, h.ready.plan_eq]
  | scanned columns _ _ h => exact ⟨columns, _, happlied, h.columns_eq, h.plan_eq⟩
  | unbound _ _ _ houtcome => cases houtcome

theorem atRest_flush (he : e.Coherent) {f : Flush}
    (hok : (e.flush f live source).outcome = .ok ()) : (e.flush f live source).engine.AtRest := by
  rcases flush_eq e f live source with ⟨hengine, houtcome⟩
  have hcases := refresh_cases (he.chosen f) live source
  rw [houtcome] at hok
  obtain ⟨outcome, hrefresh, -⟩ := exists_of_map_eq_ok hok
  rw [hrefresh] at hcases
  rw [hengine]
  exact hcases.atRest

/-- An engine at rest answers a refresh with itself, whatever the columns and rows are. -/
theorem AtRest.refresh_eq (h : e.AtRest) (live : List (Column R)) (source : RowSource R) :
    e.refresh live source = ⟨e, .ok .upToDate, []⟩ := by
  unfold refresh
  by_cases hidle : e.applied = none
  · have hsame : { e with pending := [] } = e := by rw [← h.pending_eq]
    rw [if_pos (by simp [hidle]), hsame]
  · obtain ⟨columns, plan, hready⟩ := h.ready hidle
    rw [if_neg (by simpa using hidle), hready.columns_eq, hready.plan_eq]
    exact if_pos (by simp [h.pending_eq])

/-- The descriptors that are applied may be applied again. -/
theorem AtRest.applyDescriptors_eq (h : e.AtRest) {descriptors : List Descriptor}
    (happlied : e.applied = some descriptors) (live : List (Column R)) (source : RowSource R) :
    e.applyDescriptors descriptors live source = ⟨e, .ok (), []⟩ := by
  unfold applyDescriptors
  rw [if_pos happlied, h.refresh_eq live source]
  rfl

/-- The call neither puts anything into the queue nor asks for other columns or descriptors. -/
def Quiet (e : Engine R K) : Call R K → Prop
  | .apply descriptors _ _ => e.applied = some descriptors
  | .refresh _ _ => True
  | .collectionChange change => (e.notifyCollectionChange change).pending = []
  | .itemChange key => (e.notifyItemChange key).pending = []
  | .invalidateColumns => False

theorem AtRest.call_eq (h : e.AtRest) {c : Call R K} (hquiet : e.Quiet c) : e.call c = e := by
  cases c with
  | apply descriptors live source => rw [call, h.applyDescriptors_eq hquiet]
  | refresh live source => rw [call, h.refresh_eq]
  | collectionChange change =>
    simp only [Quiet, notifyCollectionChange_eq] at hquiet
    rw [call, notifyCollectionChange_eq, h.report_eq hquiet]
  | itemChange key =>
    simp only [Quiet, notifyItemChange_eq] at hquiet
    rw [call, notifyItemChange_eq]
    split at hquiet
    · rename_i htracking
      rw [if_pos htracking, h.report_eq hquiet]
    · rename_i htracking
      rw [if_neg htracking]
  | invalidateColumns => exact False.elim hquiet

/-- Quiet calls leave an engine at rest as it is. -/
theorem AtRest.foldl_call_eq (h : e.AtRest) {more : List (Call R K)}
    (hquiet : ∀ c ∈ more, e.Quiet c) : more.foldl call e = e := by
  induction more with
  | nil => rfl
  | cons c rest ih =>
    rw [List.foldl_cons, h.call_eq (hquiet c List.mem_cons_self)]
    exact ih fun c hc => hquiet c (List.mem_cons_of_mem _ hc)

/-! ## Runs -/

/-- After every run of calls a plan is the one of the bound columns and of the applied
descriptors, and without descriptors there are no results and no reports. After a flush that
succeeds, any number of quiet calls change nothing: the engine stays as it is, and it says so
without a look at the table or at the live columns. -/
theorem coherent_and_atRest_of_run (config : EngineConfig) (calls : List (Call R K)) :
    (∀ plan, (run config calls).plan = some plan → ∃ columns descriptors,
      (run config calls).columns = some columns ∧
      (run config calls).applied = some descriptors ∧
      plan = .build columns (descriptors.map .ofDescriptor) ∧
      ∀ entry ∈ plan.entries, entry.1 < columns.columns.length) ∧
    ((run config calls).applied = none →
      (run config calls).results = .empty ∧ (run config calls).pending = []) ∧
    ∀ f live source e', e' = ((run config calls).flush f live source).engine →
      ((run config calls).flush f live source).outcome = .ok () →
      ∀ more : List (Call R K), (∀ c ∈ more, e'.Quiet c) →
        more.foldl call e' = e' ∧
        (∀ live' source', (more.foldl call e').refresh live' source' = ⟨e', .ok .upToDate, []⟩) ∧
        ∀ descriptors, e'.applied = some descriptors → ∀ live' source',
          (more.foldl call e').applyDescriptors descriptors live' source' = ⟨e', .ok (), []⟩ := by
  have hcoherent := (coherent_run config calls).1
  have hidle := emptyIdle_run config calls
  refine ⟨fun plan hplan => hcoherent.plan_eq_build hidle hplan, fun hnone => (hidle hnone).2, ?_⟩
  intro f live source e' he' hok more hquiet
  have hrest : e'.AtRest := he' ▸ atRest_flush hcoherent hok
  rw [hrest.foldl_call_eq hquiet]
  refine ⟨rfl, hrest.refresh_eq, ?_⟩
  intro descriptors happlied live' source'
  exact hrest.applyDescriptors_eq happlied live' source'

/-- Rows that come in and cells that change without a report are not noticed. -/
theorem coherent_and_atRest_of_run_silent_change :
    let live : List (Column String) := [{ id := "name", accessor := some some }]
    let e : Engine String String :=
      ((ofConfig {}).flush (.apply [{ query := "a" }]) live (.ofList ["cab", "dog"])).engine
    let later : Engine String String :=
      [.refresh [] (.ofList ["ape"]), .itemChange "dog",
        .apply [{ query := "a" }] live (.ofList ["ape", "cab", "ant"])].foldl call e
    e.results.size = 1 ∧ later = e ∧
      later.refresh live (.ofList ["ape", "ant"]) = ⟨e, .ok .upToDate, []⟩ := by
  intro live e later
  have hrest := (coherent_and_atRest_of_run {} []).2.2 (.apply [{ query := "a" }]) live
    (.ofList ["cab", "dog"]) e rfl rfl
  have hquiet : ∀ c ∈ ([.refresh [] (.ofList ["ape"]), .itemChange "dog",
      .apply [{ query := "a" }] live (.ofList ["ape", "cab", "ant"])] :
        List (Call String String)), e.Quiet c := by
    intro c hc
    simp only [List.mem_cons, List.not_mem_nil, or_false] at hc
    rcases hc with rfl | rfl | rfl
    · trivial
    · rfl
    · rfl
  rcases hrest _ hquiet with ⟨hsame, hrefresh, -⟩
  exact ⟨by cbv, hsame, hrefresh live _⟩

end Engine

end CellSearch
