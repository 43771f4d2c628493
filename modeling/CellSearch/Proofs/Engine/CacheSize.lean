import Mathlib
import CellSearch.Proofs.Engine.Call
import CellSearch.Proofs.Query.Cache

/-!
# The size of the cache

The cache changes nothing but the work that is done: two engines whose configurations differ in its
size alone stay in step (`Engine.Twin`). Each call leaves them alike in everything but the cache and
answers with the same outcome and the same diagnostics, since a plan is made of the prepared forms
of the applied descriptors, whichever of them were remembered.
-/

namespace CellSearch

variable {R K : Type} {α : Type}

namespace Engine

/-- The engine with another cache and another size for it. -/
def withCache (e : Engine R K) (size : Nat) (cache : PreparedCache) : Engine R K :=
  { e with config := { e.config with preparedCacheSize := size }, cache := cache }

/-- The engines differ in the cache and its size alone, and both caches are faithful. -/
def Twin (e e' : Engine R K) : Prop :=
  ∃ size cache, e.cache.Faithful ∧ cache.Faithful ∧ e' = e.withCache size cache

end Engine

/-- The replies are the same, and the engines stay alike. -/
structure Reply.Twin (r r' : Reply R K α) : Prop where
  engine_twin : r.engine.Twin r'.engine
  outcome_eq : r'.outcome = r.outcome
  notices_eq : r'.notices = r.notices

namespace Engine

variable {e e' : Engine R K} {size : Nat} {cache : PreparedCache}

theorem twin_withCache (h : e.cache.Faithful) (h' : cache.Faithful) (size : Nat) :
    e.Twin (e.withCache size cache) :=
  ⟨size, cache, h, h', rfl⟩

/-- What does not look at the cache keeps engines alike. -/
theorem Twin.map (h : e.Twin e') {f : Engine R K → Engine R K} (hcache : (f e).cache = e.cache)
    (hf : ∀ size cache, f (e.withCache size cache) = (f e).withCache size cache) :
    (f e).Twin (f e') := by
  obtain ⟨size, cache, hfaithful, hfaithful', rfl⟩ := h
  rw [hf]
  exact twin_withCache (hcache ▸ hfaithful) hfaithful' size

theorem Twin.results_eq (h : e.Twin e') : e'.results = e.results := by
  obtain ⟨size, cache, -, -, rfl⟩ := h
  rfl

theorem Twin.counters_eq (h : e.Twin e') : e'.counters = e.counters := by
  obtain ⟨size, cache, -, -, rfl⟩ := h
  rfl

/-- A new engine has an empty cache. -/
theorem twin_ofConfig (config : EngineConfig) (size : Nat) :
    (ofConfig config : Engine R K).Twin (ofConfig { config with preparedCacheSize := size }) :=
  twin_withCache (PreparedCache.faithful_ofCapacity _) (PreparedCache.faithful_ofCapacity _) size

/-! ## What is reported and counted -/

theorem report_withCache [DecidableEq K] (e : Engine R K) (size : Nat) (cache : PreparedCache)
    (edit : PendingEdit K) :
    (e.withCache size cache).report edit = (e.report edit).withCache size cache := by
  unfold report enqueue
  simp only [apply_ite (withCache · size cache)]
  rfl

theorem Twin.report [DecidableEq K] (h : e.Twin e') (edit : PendingEdit K) :
    (e.report edit).Twin (e'.report edit) := by
  have hcache : (e.report edit).cache = e.cache := by
    obtain ⟨pending, hreport⟩ := report_eq e edit
    rw [hreport]
  exact h.map (f := fun e => e.report edit) hcache fun size cache =>
    report_withCache e size cache edit

theorem Twin.invalidateColumns (h : e.Twin e') : e.invalidateColumns.Twin e'.invalidateColumns :=
  h.map (f := Engine.invalidateColumns) rfl fun _ _ => rfl

theorem Twin.countFallback (h : e.Twin e') : e.countFallback.Twin e'.countFallback :=
  h.map (f := Engine.countFallback) rfl fun _ _ => rfl

/-! ## Scans -/

/-- A plan is the same, however much of it was remembered. -/
theorem Twin.makePlan (h : e.Twin e') (columns : ColumnSet R) :
    (e.makePlan columns).1.Twin (e'.makePlan columns).1 ∧
      (e'.makePlan columns).2 = (e.makePlan columns).2 := by
  obtain ⟨size, cache, hfaithful, hfaithful', rfl⟩ := h
  have hplan : (e.withCache size cache).plan = e.plan := rfl
  cases hnone : e.plan with
  | some plan =>
    rw [hnone] at hplan
    simp only [Engine.makePlan, hnone, hplan]
    exact ⟨twin_withCache hfaithful hfaithful' size, trivial⟩
  | none =>
    rw [hnone] at hplan
    have hkept : (e.withCache size cache).applied = e.applied ∧
        (e.withCache size cache).cache = cache := ⟨rfl, rfl⟩
    obtain ⟨hforms, hc⟩ := PreparedCache.getAll_prepared hfaithful (e.applied.getD [])
    obtain ⟨hforms', hc'⟩ := PreparedCache.getAll_prepared hfaithful' (e.applied.getD [])
    simp only [Engine.makePlan, hnone, hplan, hkept, hforms, hforms', and_true]
    exact ⟨size, _, hc, hc', rfl⟩

variable [SearchRow R K]

theorem Twin.scan (h : e.Twin e') (columns : ColumnSet R) (plan : ScopePlan)
    (source : RowSource R) : (e.scan columns plan source).Twin (e'.scan columns plan source) :=
  h.map (f := fun e => e.scan columns plan source) rfl fun _ _ => rfl

/-- Both engines scan with the same columns for the same plan, or neither can bind its columns. -/
theorem Twin.rescan (h : e.Twin e') (live : List (Column R)) (source : RowSource R) :
    (e.rescan live source).Twin (e'.rescan live source) := by
  -- with columns there is a plan to make and a table to scan
  have hscan : ∀ {e₀ e₀' : Engine R K} (columns : ColumnSet R), e₀.Twin e₀' →
      ((e₀.makePlan columns).1.scan columns (e₀.makePlan columns).2 source).Twin
        ((e₀'.makePlan columns).1.scan columns (e₀'.makePlan columns).2 source) := by
    intro e₀ e₀' columns htwin
    obtain ⟨hengine, hplan⟩ := htwin.makePlan columns
    rw [hplan]
    exact hengine.scan columns _ source
  have hkept : e'.columns = e.columns ∧
      e'.config.missingAccessor = e.config.missingAccessor := by
    obtain ⟨size, cache, -, -, rfl⟩ := h
    exact ⟨rfl, rfl⟩
  obtain ⟨hcolumns', hpolicy⟩ := hkept
  cases hcolumns : e.columns with
  | some columns =>
    rw [hcolumns] at hcolumns'
    simp only [Engine.rescan, bindColumns, hcolumns, hcolumns']
    refine ⟨hscan columns ?_, rfl, rfl⟩
    exact h.map (f := fun e => { e with
      columns := some columns, pending := [], results := .empty, baseline := 0 }) rfl fun _ _ => rfl
  | none =>
    rw [hcolumns] at hcolumns'
    cases hbind : ColumnSet.bind e.config.missingAccessor live with
    | error err =>
      simp only [Engine.rescan, bindColumns, hcolumns, hcolumns', hpolicy, hbind]
      refine ⟨?_, rfl, rfl⟩
      exact h.map (f := fun e => { e with
        columns := none, plan := none, pending := [], results := .empty, baseline := 0 }) rfl
        fun _ _ => rfl
    | ok columns =>
      simp only [Engine.rescan, bindColumns, hcolumns, hcolumns', hpolicy, hbind]
      refine ⟨hscan columns ?_, rfl, rfl⟩
      exact h.map (f := fun e => { e with
        columns := some columns, plan := none, pending := [], results := .empty, baseline := 0 })
        rfl fun _ _ => rfl

theorem Twin.rescanFor (h : e.Twin e') (reason : FallbackReason) (live : List (Column R))
    (source : RowSource R) :
    (e.rescanFor reason live source).Twin (e'.rescanFor reason live source) := by
  obtain ⟨hengine, houtcome, hnotices⟩ := h.rescan live source
  exact ⟨hengine, congrArg (Except.map fun _ => FlushOutcome.rescanned reason) houtcome, hnotices⟩

/-! ## Flushes -/

variable [DecidableEq K]

/-- The queue is replayed without a look at the cache. -/
theorem Twin.replay (h : e.Twin e') (columns : ColumnSet R) (plan : ScopePlan)
    (source : RowSource R) :
    (e.replay columns plan source).1.Twin (e'.replay columns plan source).1 ∧
      (e'.replay columns plan source).2 = (e.replay columns plan source).2 := by
  obtain ⟨size, cache, hfaithful, hfaithful', rfl⟩ := h
  have hchecked : DeltaPlan.validate (e.withCache size cache).pending
      (e.withCache size cache).baseline source = DeltaPlan.validate e.pending e.baseline source :=
    rfl
  unfold Engine.replay
  rw [hchecked]
  cases DeltaPlan.validate e.pending e.baseline source with
  | error reason => exact ⟨⟨size, cache, hfaithful, hfaithful', rfl⟩, rfl⟩
  | ok delta => exact ⟨⟨size, cache, hfaithful, hfaithful', rfl⟩, rfl⟩

theorem Twin.refresh (h : e.Twin e') (live : List (Column R)) (source : RowSource R) :
    (e.refresh live source).Twin (e'.refresh live source) := by
  -- what a refresh asks before it acts is the same for both
  have hkept : e'.applied = e.applied ∧ e'.columns = e.columns ∧ e'.plan = e.plan ∧
      e'.pending = e.pending := by
    obtain ⟨size, cache, -, -, rfl⟩ := h
    exact ⟨rfl, rfl, rfl, rfl⟩
  obtain ⟨happlied, hcolumns, hplan, hpending⟩ := hkept
  unfold Engine.refresh
  rw [happlied, hcolumns, hplan, hpending]
  split
  · refine ⟨?_, rfl, rfl⟩
    exact h.map (f := fun e₀ => { e₀ with
      columns := e.columns, applied := e.applied, plan := e.plan, pending := [] }) rfl
      fun _ _ => rfl
  · split
    · rename_i columns plan _ _
      split
      · exact ⟨h, rfl, rfl⟩
      · obtain ⟨hengine, hanswer⟩ := h.replay columns plan source
        rcases hreplay : e.replay columns plan source with ⟨e₁, answer⟩
        rcases hreplay' : e'.replay columns plan source with ⟨e₂, answer'⟩
        rw [hreplay, hreplay'] at hengine hanswer
        dsimp only at hengine hanswer
        rw [hanswer]
        cases answer with
        | ok outcome => exact ⟨hengine, rfl, rfl⟩
        | error reason => exact hengine.countFallback.rescanFor reason live source
    · exact h.rescanFor .columnsChanged live source

theorem Twin.applyDescriptors (h : e.Twin e') (descriptors : List Descriptor)
    (live : List (Column R)) (source : RowSource R) :
    (e.applyDescriptors descriptors live source).Twin
      (e'.applyDescriptors descriptors live source) := by
  have happlied : e'.applied = e.applied := by
    obtain ⟨size, cache, -, -, rfl⟩ := h
    rfl
  unfold Engine.applyDescriptors
  rw [happlied]
  split
  · obtain ⟨hengine, houtcome, hnotices⟩ := h.refresh live source
    exact ⟨hengine, congrArg (Except.map fun _ => ()) houtcome, hnotices⟩
  · apply Twin.rescan
    exact h.map (f := fun e => { e with
      pending := [], plan := none, applied := some descriptors }) rfl fun _ _ => rfl

/-! ## Runs -/

theorem Twin.call (h : e.Twin e') (c : Call R K) : (e.call c).Twin (e'.call c) := by
  have htracking : e'.config.trackItemChanges = e.config.trackItemChanges := by
    obtain ⟨size, cache, -, -, rfl⟩ := h
    rfl
  cases c with
  | apply descriptors live source => exact (h.applyDescriptors descriptors live source).engine_twin
  | refresh live source => exact (h.refresh live source).engine_twin
  | collectionChange change =>
    simp only [Engine.call, notifyCollectionChange_eq]
    exact h.report _
  | itemChange key =>
    simp only [Engine.call, notifyItemChange_eq, htracking]
    split
    · exact h.report _
    · exact h
  | invalidateColumns => exact h.invalidateColumns

/-- The same calls keep engines alike that start with caches of different sizes. -/
theorem twin_run (config : EngineConfig) (size : Nat) (calls : List (Call R K)) :
    (run config calls).Twin (run { config with preparedCacheSize := size } calls) := by
  induction calls using List.reverseRecOn with
  | nil => exact twin_ofConfig config size
  | append_singleton calls c ih =>
    simp only [run, List.foldl_append, List.foldl_cons, List.foldl_nil] at ih ⊢
    exact ih.call c

end Engine

namespace PreparedCache

variable [SearchRow R K] [DecidableEq K]

/-- After any requests, a cache answers with the prepared form of the descriptor that it is asked
for. It is the very form of the request for the same descriptor before, with the same ticket, if
and only if the cache was not cleared in between and fewer different descriptors than it has room
for were asked for, and exactly then it is a hit. Hits and misses are the requests for forms so far,
and there are as many forms in the cache as different descriptors were asked for since it was
cleared, up to its capacity. So engines that differ in the size of their caches alone have the
same results after every run of calls and answer every call alike. -/
theorem get_after_requests (capacity : Nat) (before : List Request) (d : Descriptor)
    (config : EngineConfig) (size : Nat) (calls : List (Call R K)) :
    let room := if capacity = 0 then 64 else capacity
    let cache := run capacity before
    let shared := (cache.get d).1
    let cache' := (cache.get d).2
    let e : Engine R K := .run config calls
    let e' : Engine R K := .run { config with preparedCacheSize := size } calls
    shared.prepared = .ofDescriptor d ∧
    (∀ front between, before = front ++ .get d :: between → .get d ∉ between →
      (shared.ticket = ((run capacity front).get d).1.ticket ↔
        .clear ∉ between ∧ (asked between).toFinset.card < room)) ∧
    (Remembered room before d ∧ cache'.hits = cache.hits + 1 ∧ cache'.misses = cache.misses ∨
      ¬Remembered room before d ∧ cache'.hits = cache.hits ∧ cache'.misses = cache.misses + 1) ∧
    cache.hits + cache.misses = (asked before).length ∧
    cache.size = min room (asked (sinceClear before)).toFinset.card ∧
    e'.results = e.results ∧ e'.counters = e.counters ∧
    (∀ live source, (e'.refresh live source).outcome = (e.refresh live source).outcome ∧
      (e'.refresh live source).notices = (e.refresh live source).notices) ∧
    (∀ descriptors live source,
      (e'.applyDescriptors descriptors live source).outcome =
        (e.applyDescriptors descriptors live source).outcome ∧
      (e'.applyDescriptors descriptors live source).notices =
        (e.applyDescriptors descriptors live source).notices) := by
  intro room cache shared cache' e e'
  have htwin : e.Twin e' := Engine.twin_run config size calls
  refine ⟨(get_prepared (faithful_run capacity before) d).1, ?_, ?_,
    hits_add_misses_run capacity before, size_run capacity before, htwin.results_eq,
    htwin.counters_eq, ?_, ?_⟩
  · intro front between hbefore hlast
    have hshared : shared = ((run capacity (front ++ .get d :: between)).get d).1 := by
      rw [← hbefore]
    rw [hshared, ticket_eq_iff hlast]
    exact mem_held_iff hlast
  · have hheld : d ∈ cache.held ↔ Remembered room before d := mem_held_iff_remembered
    rw [← hheld]
    exact counts_get cache d
  · intro live source
    have hreply := htwin.refresh live source
    exact ⟨hreply.outcome_eq, hreply.notices_eq⟩
  · intro descriptors live source
    have hreply := htwin.applyDescriptors descriptors live source
    exact ⟨hreply.outcome_eq, hreply.notices_eq⟩

/-- Two places and three descriptors: the one that was used again is still there, and the other
one is prepared anew. -/
theorem get_after_requests_two_places :
    let one : Descriptor := { query := "one" }
    let two : Descriptor := { query := "two" }
    let three : Descriptor := { query := "three" }
    let before : List Request := [.get one, .get two, .get one, .get three]
    ((run 2 before).get one).1.ticket = ((run 2 [.get one, .get two]).get one).1.ticket ∧
    ((run 2 before).get two).1.ticket ≠ ((run 2 [.get one]).get two).1.ticket ∧
    (run 2 before).size = 2 := by
  intro one two three before
  obtain ⟨-, hone, -, -, hsize, -⟩ :=
    get_after_requests (R := String) (K := String) 2 before one {} 1 []
  obtain ⟨-, htwo, -⟩ := get_after_requests (R := String) (K := String) 2 before two {} 1 []
  refine ⟨?_, ?_, ?_⟩
  · exact (hone [.get one, .get two] [.get three] rfl (by decide)).mpr ⟨by decide, by decide⟩
  · intro hsame
    have hheld := (htwo [.get one] [.get one, .get three] rfl (by decide)).mp hsame
    exact absurd hheld.2 (by decide)
  · exact hsize.trans (by decide)

end PreparedCache

end CellSearch
