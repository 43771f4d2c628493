import Mathlib
import CellSearch.Engine.Basic
import CellSearch.Proofs.Column.Binding
import CellSearch.Proofs.Engine.Replay

/-!
# Flushes

A flush either finds nothing to do, replays the queue, scans the table, or fails because the
columns cannot be bound. `Engine.refresh_cases` says all of it once, and what a flush preserves
or rules out is read off its cases.

* To apply descriptors is to choose them and to refresh (`Engine.applyDescriptors_eq`), so that
  there is only one kind of flush.
* `Engine.Retargeted` — what the choice of descriptors leaves alone;
* `Engine.Coherent` — the plan is the one of the applied descriptors over the bound columns;
* `Engine.MustScan` — no replay is possible, whatever the table is.
-/

namespace CellSearch

namespace Engine

variable {R K : Type}

/-- The plan of the applied descriptors over bound columns. -/
def planFor (e : Engine R K) (columns : ColumnSet R) : ScopePlan :=
  .build columns ((e.applied.getD []).map .ofDescriptor)

/-- What the engine keeps agrees with what it was made from. -/
structure Coherent (e : Engine R K) : Prop where
  bound : ∀ set, e.columns = some set →
    ∃ live, ColumnSet.bind e.config.missingAccessor live = .ok set
  planned : ∀ plan, e.plan = some plan → ∃ set, e.columns = some set ∧ plan = e.planFor set
  cache_faithful : e.cache.Faithful

/-- The engine has descriptors, columns and a plan. -/
structure Ready (e : Engine R K) (columns : ColumnSet R) (plan : ScopePlan) : Prop where
  applied_ne : e.applied ≠ none
  columns_eq : e.columns = some columns
  plan_eq : e.plan = some plan

/-- The engine has no columns, no plan, or a queue that cannot be replayed on any table. -/
def MustScan (e : Engine R K) : Prop :=
  e.columns = none ∨ e.plan = none ∨ ∃ edit ∈ e.pending, ¬ edit.Replayable

theorem coherent_ofConfig (config : EngineConfig) : (ofConfig config : Engine R K).Coherent where
  bound := by
    intro set h
    cases h
  planned := by
    intro plan h
    cases h
  cache_faithful := PreparedCache.faithful_ofCapacity _

/-- A plan of a coherent engine is the one of its columns. -/
theorem Ready.plan_eq_planFor {e : Engine R K} {columns : ColumnSet R} {plan : ScopePlan}
    (h : e.Ready columns plan) (he : e.Coherent) : plan = e.planFor columns := by
  obtain ⟨set, hset, hplan⟩ := he.planned plan h.plan_eq
  rw [h.columns_eq] at hset
  cases hset
  exact hplan

/-! ## Descriptors -/

/-- The engine with a set of descriptors; a set that is new discards the queue and the plan. -/
def choose (e : Engine R K) (descriptors : List Descriptor) : Engine R K :=
  if e.applied = some descriptors then e
  else { e with pending := [], plan := none, applied := some descriptors }

/-- `e'` is `e` but for the descriptors, the plan that was made for them, and the queue. -/
structure Retargeted (e e' : Engine R K) : Prop where
  config_eq : e'.config = e.config
  columns_eq : e'.columns = e.columns
  results_eq : e'.results = e.results
  baseline_eq : e'.baseline = e.baseline
  cache_eq : e'.cache = e.cache
  counters_eq : e'.counters = e.counters

theorem Retargeted.refl (e : Engine R K) : e.Retargeted e :=
  ⟨rfl, rfl, rfl, rfl, rfl, rfl⟩

/-- To choose descriptors leaves alone what is known of the table. -/
theorem retargeted_choose (e : Engine R K) (descriptors : List Descriptor) :
    e.Retargeted (e.choose descriptors) := by
  unfold choose
  split
  · exact .refl e
  · exact ⟨rfl, rfl, rfl, rfl, rfl, rfl⟩

theorem applied_choose (e : Engine R K) (descriptors : List Descriptor) :
    (e.choose descriptors).applied = some descriptors := by
  unfold choose
  split
  · assumption
  · rfl

/-- Descriptors that were not applied cannot be up to date. -/
theorem mustScan_choose {e : Engine R K} {descriptors : List Descriptor}
    (h : e.applied ≠ some descriptors) : (e.choose descriptors).MustScan := by
  unfold choose
  rw [if_neg h]
  exact Or.inr (Or.inl rfl)

theorem Coherent.choose {e : Engine R K} (he : e.Coherent) (descriptors : List Descriptor) :
    (e.choose descriptors).Coherent := by
  unfold Engine.choose
  split
  · exact he
  · exact ⟨he.bound, by simp, he.cache_faithful⟩

/-! ## Scans -/

theorem makePlan_eq {e : Engine R K} (he : e.Coherent) {columns : ColumnSet R}
    (hcolumns : e.columns = some columns) :
    ∃ cache : PreparedCache, cache.Faithful ∧
      e.makePlan columns =
        ({ e with cache := cache, plan := some (e.planFor columns) }, e.planFor columns) := by
  unfold makePlan
  cases hplan : e.plan with
  | some plan =>
    -- a plan that is kept is the one that would be made
    obtain ⟨set, hset, hfor⟩ := he.planned plan hplan
    rw [hcolumns] at hset
    cases hset
    have hsame : { e with plan := some plan } = e := by rw [← hplan]
    exact ⟨e.cache, he.cache_faithful, by rw [← hfor, hsame]⟩
  | none =>
    obtain ⟨hprepared, hfaithful⟩ :=
      PreparedCache.getAll_prepared he.cache_faithful (e.applied.getD [])
    refine ⟨_, hfaithful, ?_⟩
    simp only [hprepared, planFor]

variable [SearchRow R K]

/-- `e'` is `e` after a scan of every row of a source. -/
structure Scanned (e : Engine R K) (live : List (Column R)) (source : RowSource R)
    (columns : ColumnSet R) (e' : Engine R K) : Prop where
  bound : e.columns = some columns ∨
    e.columns = none ∧ ColumnSet.bind e.config.missingAccessor live = .ok columns
  config_eq : e'.config = e.config
  applied_eq : e'.applied = e.applied
  columns_eq : e'.columns = some columns
  plan_eq : e'.plan = some (e.planFor columns)
  results_eq : e'.results = (fullScan source columns (e.planFor columns)).1
  baseline_eq : e'.baseline = source.count
  pending_eq : e'.pending = []
  cache_faithful : e'.cache.Faithful
  fullScans_eq : e'.counters.fullScans = e.counters.fullScans + 1
  incrementalFlushes_eq : e'.counters.incrementalFlushes = e.counters.incrementalFlushes

/-- `e'` is `e` after a scan that failed, because the columns could not be bound. -/
structure Unbound (e : Engine R K) (live : List (Column R)) (err : SearchError)
    (e' : Engine R K) : Prop where
  columns_none : e.columns = none
  bind_eq : ColumnSet.bind e.config.missingAccessor live = .error err
  config_eq : e'.config = e.config
  applied_eq : e'.applied = e.applied
  columns_eq : e'.columns = none
  plan_eq : e'.plan = none
  results_eq : e'.results = .empty
  baseline_eq : e'.baseline = 0
  pending_eq : e'.pending = []
  cache_eq : e'.cache = e.cache

/-- With columns there is nothing to bind, and the scan succeeds. -/
theorem rescan_of_bound {e : Engine R K} (he : e.Coherent) {columns : ColumnSet R}
    (hcolumns : e.columns = some columns) (live : List (Column R)) (source : RowSource R) :
    (e.rescan live source).outcome = .ok () ∧
      e.Scanned live source columns (e.rescan live source).engine := by
  have hcleared : ({ e with pending := [], results := .empty, baseline := 0 } :
      Engine R K).Coherent :=
    ⟨he.bound, he.planned, he.cache_faithful⟩
  obtain ⟨cache, hcache, hmake⟩ := makePlan_eq hcleared hcolumns
  simp only [rescan, bindColumns, hcolumns] at hmake ⊢
  rw [hmake]
  refine ⟨trivial, ?_⟩
  constructor <;> first | rfl | exact hcache | exact Or.inl hcolumns

/-- A scan binds the columns or fails for that. -/
theorem rescan_cases {e : Engine R K} (he : e.Coherent) (live : List (Column R))
    (source : RowSource R) :
    (∃ columns, (e.rescan live source).outcome = .ok () ∧
        e.Scanned live source columns (e.rescan live source).engine) ∨
      ∃ err, (e.rescan live source).outcome = .error err ∧
        e.Unbound live err (e.rescan live source).engine := by
  cases hcolumns : e.columns with
  | some columns => exact Or.inl ⟨columns, rescan_of_bound he hcolumns live source⟩
  | none =>
    cases hbind : ColumnSet.bind e.config.missingAccessor live with
    | error err =>
      right
      refine ⟨err, ?_⟩
      simp only [rescan, bindColumns, hcolumns, hbind]
      refine ⟨trivial, ?_⟩
      constructor <;> first | rfl | exact hcolumns | exact hbind
    | ok columns =>
      left
      -- from here on the scan is that of an engine with the columns bound and no plan
      have hbound : ({ e with columns := some columns, plan := none } : Engine R K).Coherent := by
        refine ⟨?_, by simp, he.cache_faithful⟩
        intro set hset
        cases hset
        exact ⟨live, hbind⟩
      obtain ⟨hok, hscanned⟩ := rescan_of_bound hbound rfl live source
      have hsame : (e.rescan live source).engine =
            (rescan { e with columns := some columns, plan := none } live source).engine ∧
          (e.rescan live source).outcome =
            (rescan { e with columns := some columns, plan := none } live source).outcome := by
        simp only [rescan, bindColumns, hcolumns, hbind, and_self]
      rw [hsame.1, hsame.2]
      exact ⟨columns, hok, { hscanned with bound := Or.inr ⟨hcolumns, hbind⟩ }⟩

/-! ## Refreshing -/

variable [DecidableEq K]

/-- `e'` is `e` after a replay of its queue. -/
structure Replayed (e : Engine R K) (source : RowSource R) (columns : ColumnSet R)
    (plan : ScopePlan) (delta : DeltaPlan) (e' : Engine R K) : Prop where
  ready : e.Ready columns plan
  pending_ne : e.pending ≠ []
  checked : DeltaPlan.validate e.pending e.baseline source = .ok delta
  config_eq : e'.config = e.config
  applied_eq : e'.applied = e.applied
  columns_eq : e'.columns = e.columns
  plan_eq : e'.plan = e.plan
  results_eq : e'.results = (delta.apply e.results source columns plan).results
  baseline_eq : e'.baseline = source.count
  pending_eq : e'.pending = []
  cache_eq : e'.cache = e.cache

/-- The ways that a refresh can go. -/
inductive Refreshed (e : Engine R K) (live : List (Column R)) (source : RowSource R)
    (e' : Engine R K) (outcome : Except SearchError FlushOutcome) : Prop where
  /-- There are no descriptors. -/
  | idle (applied_eq : e.applied = none) (engine_eq : e' = { e with pending := [] })
      (outcome_eq : outcome = .ok .upToDate)
  /-- Nothing was queued. -/
  | upToDate (columns : ColumnSet R) (plan : ScopePlan) (ready : e.Ready columns plan)
      (pending_eq : e.pending = []) (engine_eq : e' = e) (outcome_eq : outcome = .ok .upToDate)
  /-- The queue was replayed. -/
  | replayed (columns : ColumnSet R) (plan : ScopePlan) (delta : DeltaPlan) (evaluated : Nat)
      (replayed : e.Replayed source columns plan delta e')
      (outcome_eq : outcome = .ok (.applied delta.size evaluated))
  /-- The table was scanned. -/
  | scanned (columns : ColumnSet R) (reason : FallbackReason) (applied_ne : e.applied ≠ none)
      (scanned : e.Scanned live source columns e') (outcome_eq : outcome = .ok (.rescanned reason))
  /-- The columns could not be bound. -/
  | unbound (err : SearchError) (applied_ne : e.applied ≠ none) (unbound : e.Unbound live err e')
      (outcome_eq : outcome = .error err)

/-- The queue and the counter of fallbacks play no part in a scan. -/
theorem rescanFor_cases {e : Engine R K} (he : e.Coherent) (happlied : e.applied ≠ none)
    (pending : List (PendingEdit K)) (fallbacks : Nat) (reason : FallbackReason)
    (live : List (Column R)) (source : RowSource R) {e₀ : Engine R K}
    (he₀ : e₀ = { e with
      pending := pending, counters := { e.counters with fallbacks := fallbacks } }) :
    e.Refreshed live source (e₀.rescanFor reason live source).engine
      (e₀.rescanFor reason live source).outcome := by
  subst he₀
  simp only [rescanFor]
  have hcoherent : ({ e with
      pending := pending, counters := { e.counters with fallbacks := fallbacks } } :
        Engine R K).Coherent :=
    ⟨he.bound, he.planned, he.cache_faithful⟩
  rcases rescan_cases hcoherent live source with ⟨columns, hok, hscanned⟩ | ⟨err, herr, hunbound⟩
  · exact .scanned columns reason happlied { hscanned with } (by rw [hok]; rfl)
  · exact .unbound err happlied { hunbound with } (by rw [herr]; rfl)

/-- A refresh goes one of its ways. -/
theorem refresh_cases {e : Engine R K} (he : e.Coherent) (live : List (Column R))
    (source : RowSource R) :
    e.Refreshed live source (e.refresh live source).engine (e.refresh live source).outcome := by
  unfold refresh
  by_cases hidle : e.applied = none
  · rw [if_pos (by rw [hidle]; rfl)]
    exact .idle hidle rfl rfl
  · rw [if_neg (by simpa using hidle)]
    split
    · rename_i columns plan hcolumns hplan
      have hready : e.Ready columns plan := ⟨hidle, hcolumns, hplan⟩
      by_cases hempty : e.pending = []
      · rw [if_pos (by rw [hempty]; rfl)]
        exact .upToDate columns plan hready hempty rfl rfl
      · rw [if_neg (by simpa using hempty)]
        unfold replay
        cases hvalidate : DeltaPlan.validate e.pending e.baseline source with
        | ok delta =>
          refine .replayed columns plan delta
            (delta.apply e.results source columns plan).rowsEvaluated ?_ rfl
          constructor <;> first | rfl | assumption
        | error reason =>
          -- the queue is gone, and the scan does not look at it
          exact rescanFor_cases he hidle [] (e.counters.fallbacks + 1) reason live source rfl
    · exact rescanFor_cases he hidle e.pending e.counters.fallbacks _ live source rfl

namespace Refreshed

variable {e e' : Engine R K} {live : List (Column R)} {source : RowSource R}
variable {outcome : Except SearchError FlushOutcome}

/-- Every refresh leaves an empty queue. -/
theorem pending_eq (h : e.Refreshed live source e' outcome) : e'.pending = [] := by
  cases h with
  | idle _ hengine => rw [hengine]
  | upToDate _ _ _ hpending hengine => rw [hengine, hpending]
  | replayed _ _ _ _ hreplayed => exact hreplayed.pending_eq
  | scanned _ _ _ hscanned => exact hscanned.pending_eq
  | unbound _ _ hunbound => exact hunbound.pending_eq

/-- No refresh changes the configuration or the descriptors. -/
theorem config_eq (h : e.Refreshed live source e' outcome) :
    e'.config = e.config ∧ e'.applied = e.applied := by
  cases h with
  | idle _ hengine => exact ⟨by rw [hengine], by rw [hengine]⟩
  | upToDate _ _ _ _ hengine => exact ⟨by rw [hengine], by rw [hengine]⟩
  | replayed _ _ _ _ hreplayed => exact ⟨hreplayed.config_eq, hreplayed.applied_eq⟩
  | scanned _ _ _ hscanned => exact ⟨hscanned.config_eq, hscanned.applied_eq⟩
  | unbound _ _ hunbound => exact ⟨hunbound.config_eq, hunbound.applied_eq⟩

theorem coherent (h : e.Refreshed live source e' outcome) (he : e.Coherent) : e'.Coherent := by
  cases h with
  | idle _ hengine =>
    rw [hengine]
    exact ⟨he.bound, he.planned, he.cache_faithful⟩
  | upToDate _ _ _ _ hengine => rwa [hengine]
  | replayed columns plan delta _ h =>
    refine ⟨?_, ?_, by rw [h.cache_eq]; exact he.cache_faithful⟩
    · rw [h.columns_eq, h.config_eq]
      exact he.bound
    · simp only [h.columns_eq, h.plan_eq, planFor, h.applied_eq]
      exact he.planned
  | scanned columns _ _ h =>
    refine ⟨?_, ?_, h.cache_faithful⟩
    · rw [h.columns_eq, h.config_eq]
      intro set hset
      cases hset
      rcases h.bound with hold | ⟨-, hbind⟩
      · exact he.bound columns hold
      · exact ⟨live, hbind⟩
    · simp only [h.columns_eq, h.plan_eq, planFor, h.applied_eq]
      intro plan hplan
      exact ⟨columns, rfl, (Option.some.inj hplan).symm⟩
  | unbound _ _ h =>
    refine ⟨?_, ?_, by rw [h.cache_eq]; exact he.cache_faithful⟩
    · rw [h.columns_eq]
      intro set hset
      cases hset
    · rw [h.plan_eq]
      intro plan hplan
      cases hplan

/-- Without descriptors a refresh only drops the queue. -/
theorem eq_of_idle (h : e.Refreshed live source e' outcome) (hidle : e.applied = none) :
    e' = { e with pending := [] } := by
  cases h with
  | idle _ hengine => exact hengine
  | upToDate _ _ hready => exact absurd hidle hready.applied_ne
  | replayed _ _ _ _ hreplayed => exact absurd hidle hreplayed.ready.applied_ne
  | scanned _ _ hne => exact absurd hidle hne
  | unbound _ hne => exact absurd hidle hne

/-- A refresh fails for the columns only. -/
theorem unbound_of_error {err : SearchError} (h : e.Refreshed live source e' (.error err)) :
    e.applied ≠ none ∧ e.Unbound live err e' := by
  cases h with
  | unbound err' hne hunbound houtcome =>
    cases houtcome
    exact ⟨hne, hunbound⟩
  | idle _ _ houtcome => cases houtcome
  | upToDate _ _ _ _ _ houtcome => cases houtcome
  | replayed _ _ _ _ _ houtcome => cases houtcome
  | scanned _ _ _ _ houtcome => cases houtcome

/-- An engine that must scan does not find itself up to date, and does not replay. -/
theorem of_mustScan (h : e.Refreshed live source e' outcome) (hscan : e.MustScan)
    (happlied : e.applied ≠ none) :
    (∃ columns reason, e.Scanned live source columns e' ∧
        outcome = .ok (.rescanned reason)) ∨
      ∃ err, e.Unbound live err e' ∧ outcome = .error err := by
  -- with columns and a plan it is the queue that stands in the way
  have hready : ∀ {columns plan}, e.Ready columns plan → ∃ edit ∈ e.pending, ¬ edit.Replayable := by
    intro columns plan hready
    rcases hscan with hnone | hnone | hblocked
    · rw [hready.columns_eq] at hnone
      cases hnone
    · rw [hready.plan_eq] at hnone
      cases hnone
    · exact hblocked
  cases h with
  | idle hidle => exact absurd hidle happlied
  | upToDate _ _ h hpending =>
    obtain ⟨edit, hmem, -⟩ := hready h
    rw [hpending] at hmem
    cases hmem
  | replayed _ _ _ _ h =>
    obtain ⟨edit, hmem, hblocked⟩ := hready h.ready
    exact absurd ((DeltaPlan.validate_eq_ok h.checked).replayable edit hmem) hblocked
  | scanned columns reason _ h houtcome => exact Or.inl ⟨columns, reason, h, houtcome⟩
  | unbound err _ h houtcome => exact Or.inr ⟨err, h, houtcome⟩

end Refreshed

/-! ## Applying descriptors -/

/-- To apply descriptors is to choose them and to refresh. -/
theorem applyDescriptors_eq (e : Engine R K) (descriptors : List Descriptor)
    (live : List (Column R)) (source : RowSource R) :
    (e.applyDescriptors descriptors live source).engine =
        ((e.choose descriptors).refresh live source).engine ∧
      (e.applyDescriptors descriptors live source).outcome =
        ((e.choose descriptors).refresh live source).outcome.map fun _ => () := by
  unfold applyDescriptors choose
  by_cases hsame : e.applied = some descriptors
  · rw [if_pos hsame, if_pos hsame]
    exact ⟨rfl, rfl⟩
  · -- without a plan a refresh is a scan for the columns
    rw [if_neg hsame, if_neg hsame]
    set chosen : Engine R K := { e with pending := [], plan := none, applied := some descriptors }
    have hrefresh : chosen.refresh live source = chosen.rescanFor .columnsChanged live source := by
      unfold refresh
      rw [if_neg (by simp [chosen])]
      split
      · rename_i plan _ hplan
        cases hplan
      · rfl
    rw [hrefresh]
    refine ⟨rfl, ?_⟩
    simp only [rescanFor]
    cases (chosen.rescan live source).outcome <;> rfl

end Engine

end CellSearch
