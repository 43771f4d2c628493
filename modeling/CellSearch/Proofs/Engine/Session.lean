import Mathlib
import CellSearch.Proofs.Engine.Call
import CellSearch.Proofs.Engine.Current
import CellSearch.Proofs.Engine.HostTable

/-!
# Sessions

A session is an owner with its table and its engine. Every structural edit is reported as it is
made, a row that is changed in place is reported before the next flush, and columns that are
changed are invalidated; all this in any order, with any other calls in between
(`Session.Step`). Then every flush that succeeds leaves the results of a scan of the table as it
is, no matter which way the flush went.

* `Session.Follows` — the results are a scan of an older table, which agrees with the table of the
  owner once the edits in the queue are made on it;
* `Session.Sound` — an engine that may replay follows its owner.
-/

namespace CellSearch

variable {R K : Type}

/-! ## Owner and engine -/

/-- An owner with its rows and live columns, its engine, and what it still owes the engine. -/
structure Session (R K : Type) where
  engine : Engine R K
  rows : List (HostRow R)
  live : List (Column R)
  /-- Whether the columns were changed and not invalidated. -/
  columnsStale : Bool
  /-- The keys of the rows that were changed in place since the last flush, new rows apart. -/
  edited : List K
  /-- The keys that were reported since the last flush. -/
  reported : List K

namespace Session

/-- The table as a flush sees it. -/
def source (s : Session R K) : RowSource R := .ofList (s.rows.map HostRow.row)

/-- The owner owes nothing: rows that were changed are reported, and so are the columns. -/
def Settled (s : Session R K) : Prop :=
  (∀ key ∈ s.edited, key ∈ s.reported) ∧ s.columnsStale = false

/-- The session starts with any rows, which count as new, and any columns. -/
def start (config : EngineConfig) (rows : List R) (live : List (Column R)) : Session R K :=
  ⟨.ofConfig config, rows.map (⟨·, true⟩), live, false, [], []⟩

section Steps

variable [SearchRow R K] [DecidableEq K]

/-- The session after a flush. If it succeeds, no row is new any more. -/
def flush (s : Session R K) (f : Flush) : Session R K :=
  let reply := s.engine.flush f s.live s.source
  match reply.outcome with
  | .ok () =>
    { s with
      engine := reply.engine
      rows := s.rows.map fun host => ⟨host.row, false⟩
      edited := []
      reported := [] }
  | .error _ => { s with engine := reply.engine }

/-- What may happen in a session. -/
inductive Step (s : Session R K) : Session R K → Prop where
  /-- An edit of the table, reported as it is made. -/
  | edit (change : CollectionChange) (after : List (HostRow R))
      (describes : change.Describes s.rows after) :
      Step s { s with engine := s.engine.notifyCollectionChange change, rows := after }
  /-- New cells for a new row. -/
  | changeNew (i : Nat) (old row : R) (get : s.rows[i]? = some ⟨old, true⟩)
      (key_eq : rowKey row = rowKey old) : Step s { s with rows := s.rows.set i ⟨row, true⟩ }
  /-- New cells for any other row, to be reported. -/
  | changeOld (i : Nat) (old row : R) (get : s.rows[i]? = some ⟨old, false⟩)
      (key_eq : rowKey row = rowKey old) (tracking : s.engine.config.trackItemChanges = true) :
      Step s { s with rows := s.rows.set i ⟨row, false⟩, edited := rowKey row :: s.edited }
  /-- A report of changed cells, true or not. -/
  | reportItem (key : K) :
      Step s { s with engine := s.engine.notifyItemChange key, reported := key :: s.reported }
  /-- Other columns, to be invalidated. -/
  | setColumns (live : List (Column R)) : Step s { s with live := live, columnsStale := true }
  | invalidate : Step s { s with engine := s.engine.invalidateColumns, columnsStale := false }
  | flush (f : Flush) (settled : s.Settled) : Step s (s.flush f)

/-- A session of an engine with a configuration. -/
inductive Reachable (config : EngineConfig) : Session R K → Prop where
  | start (rows : List R) (live : List (Column R)) : Reachable config (start config rows live)
  | step {s s' : Session R K} (h : Reachable config s) (hstep : s.Step s') : Reachable config s'

end Steps

/-! ## The invariant -/

variable [SearchRow R K]

/-- The results are a scan of an older table. Once the edits in the queue are made on it, it
agrees with the table of the owner; and the queue holds the keys that were reported. -/
structure Follows (s : Session R K) (base : List R) : Prop where
  results_eq : ∀ columns, s.engine.columns = some columns →
    s.engine.results = (fullScan (.ofList base) columns (s.engine.planFor columns)).1
  baseline_eq : s.engine.baseline = base.length
  agrees : ((s.engine.pending.flatMap PendingEdit.rowEdits).foldl RowEdit.perform
    (.ofList base)).Agrees s.rows s.edited
  queued : s.engine.config.trackItemChanges = true →
    ∀ key ∈ s.reported, .itemChanged key ∈ s.engine.pending

/-- An engine that may replay follows its owner. -/
structure Sound (config : EngineConfig) (s : Session R K) : Prop where
  coherent : s.engine.Coherent
  config_eq : s.engine.config = config
  tracked : s.edited ≠ [] → config.trackItemChanges = true
  bound : ∀ columns, s.engine.columns = some columns → s.columnsStale = false →
    ColumnSet.bind config.missingAccessor s.live = .ok columns
  synced : s.engine.applied ≠ none → ¬ s.engine.MustScan → ∃ base, s.Follows base

variable {config : EngineConfig} {s s' : Session R K}

theorem sound_start (rows : List R) (live : List (Column R)) :
    (start config rows live : Session R K).Sound config where
  coherent := Engine.coherent_ofConfig config
  config_eq := rfl
  tracked := fun h => absurd rfl h
  bound := by
    intro columns hcolumns
    cases hcolumns
  synced := fun happlied => absurd rfl happlied

theorem Sound.changeNew (hs : s.Sound config) {i : Nat} {old row : R}
    (hget : s.rows[i]? = some ⟨old, true⟩) :
    Sound config { s with rows := s.rows.set i ⟨row, true⟩ } := by
  refine ⟨hs.coherent, hs.config_eq, hs.tracked, hs.bound, fun happlied hreplay => ?_⟩
  obtain ⟨base, hbase⟩ := hs.synced happlied hreplay
  exact ⟨base, hbase.results_eq, hbase.baseline_eq, hbase.agrees.set_new hget, hbase.queued⟩

theorem Sound.changeOld (hs : s.Sound config) {i : Nat} {old row : R}
    (hget : s.rows[i]? = some ⟨old, false⟩) (hkey : rowKey row = rowKey old)
    (htracking : s.engine.config.trackItemChanges = true) :
    Sound config
      { s with rows := s.rows.set i ⟨row, false⟩, edited := rowKey row :: s.edited } := by
  rw [hs.config_eq] at htracking
  refine ⟨hs.coherent, hs.config_eq, fun _ => htracking, hs.bound, fun happlied hreplay => ?_⟩
  obtain ⟨base, hbase⟩ := hs.synced happlied hreplay
  exact ⟨base, hbase.results_eq, hbase.baseline_eq, hbase.agrees.set_old hget hkey, hbase.queued⟩

theorem Sound.setColumns (hs : s.Sound config) (live : List (Column R)) :
    Sound config { s with live := live, columnsStale := true } := by
  refine ⟨hs.coherent, hs.config_eq, hs.tracked, ?_, fun happlied hreplay => ?_⟩
  · intro columns _ hstale
    cases hstale
  · obtain ⟨base, hbase⟩ := hs.synced happlied hreplay
    exact ⟨base, hbase.results_eq, hbase.baseline_eq, hbase.agrees, hbase.queued⟩

theorem Sound.invalidate (hs : s.Sound config) :
    Sound config { s with engine := s.engine.invalidateColumns, columnsStale := false } := by
  refine ⟨hs.coherent.invalidateColumns, hs.config_eq, hs.tracked, ?_, ?_⟩
  · intro columns hcolumns
    cases hcolumns
  · exact fun _ hreplay => absurd (Or.inl rfl) hreplay

/-- If nothing is queued, nothing has happened to the table. -/
theorem Follows.current {base : List R} {columns : ColumnSet R} (h : s.Follows base)
    (hsettled : s.Settled) (htracked : s.edited ≠ [] → s.engine.config.trackItemChanges = true)
    (hcolumns : s.engine.columns = some columns)
    (hbind : ColumnSet.bind s.engine.config.missingAccessor s.live = .ok columns)
    (hpending : s.engine.pending = []) : s.engine.Current s.live (s.rows.map HostRow.row) := by
  have hedited : s.edited = [] := by
    by_contra hne
    obtain ⟨key, hkey⟩ := List.exists_mem_of_ne_nil _ hne
    have hqueued := h.queued (htracked hne) key (hsettled.1 key hkey)
    rw [hpending] at hqueued
    cases hqueued
  have hagrees := h.agrees
  rw [hpending, hedited] at hagrees
  have hrows : s.rows.map HostRow.row = base := hagrees.eq_of_ofList
  rw [hrows]
  exact ⟨⟨columns, hcolumns, hbind, h.results_eq columns hcolumns⟩, h.baseline_eq⟩

/-! ## Reports -/

variable [DecidableEq K]

/-- A report keeps the session sound if the engine follows its owner when the report is queued. -/
theorem Sound.of_report (hs : s.Sound config) (edit : PendingEdit K)
    (hengine : s'.engine = s.engine.report edit) (hlive : s'.live = s.live)
    (hstale : s'.columnsStale = s.columnsStale) (hedited : s'.edited = s.edited)
    (hfollows : ∀ base, s.Follows base → edit.Replayable →
      s'.engine = { s.engine with pending := s.engine.pending ++ [edit] } → s'.Follows base) :
    s'.Sound config := by
  obtain ⟨pending, hreport⟩ := Engine.report_eq s.engine edit
  have hsame := hengine.trans hreport
  refine ⟨?_, ?_, ?_, ?_, ?_⟩
  · rw [hengine]
    exact hs.coherent.report edit
  · rw [hsame]
    exact hs.config_eq
  · rw [hedited]
    exact hs.tracked
  · rw [hsame, hstale, hlive]
    exact hs.bound
  · intro happlied hreplay
    -- a report never makes a replay possible, so that it was possible before
    have hbefore : ¬ s.engine.MustScan := by
      intro hscan
      rw [hengine] at hreplay
      exact hreplay (hscan.report edit)
    rw [hsame] at happlied
    obtain ⟨base, hbase⟩ := hs.synced happlied hbefore
    refine ⟨base, ?_⟩
    have hmark : ∀ mark : PendingEdit K, mark.isTerminal = true →
        ¬ mark ∈ s'.engine.pending := by
      intro mark hmark hmem
      exact hreplay (Or.inr (Or.inr ⟨mark, hmem, PendingEdit.not_replayable_of_isTerminal hmark⟩))
    cases Engine.report_cases s.engine edit with
    | ignored hnone => exact absurd hnone happlied
    | terminal front last hpending hlast _ hkept =>
      refine absurd ?_ (hmark last hlast)
      rw [hengine, hkept, hpending]
      exact List.mem_append_right front (List.mem_singleton_self last)
    | reset _ _ hkept =>
      refine absurd ?_ (hmark (.collection .reset) rfl)
      rw [hengine, hkept]
      exact List.mem_singleton_self _
    | overflow _ _ hkept =>
      refine absurd ?_ (hmark .overflow rfl)
      rw [hengine, hkept]
      exact List.mem_singleton_self _
    | queued _ _ _ _ hqueued =>
      have heq := hengine.trans hqueued
      refine hfollows base hbase ?_ heq
      by_contra hblocked
      refine hreplay (Or.inr (Or.inr ⟨edit, ?_, hblocked⟩))
      rw [heq]
      exact List.mem_append_right _ (List.mem_singleton_self edit)

theorem Sound.edit (hs : s.Sound config) {change : CollectionChange} {after : List (HostRow R)}
    (hchange : change.Describes s.rows after) :
    Sound config
      { s with engine := s.engine.notifyCollectionChange change, rows := after } := by
  refine hs.of_report (.collection change) (Engine.notifyCollectionChange_eq _ _) rfl rfl rfl ?_
  intro base hbase hreplayable heq
  simp only at heq
  refine ⟨?_, ?_, ?_, ?_⟩ <;> simp only [heq]
  · exact hbase.results_eq
  · exact hbase.baseline_eq
  · rw [List.flatMap_append, List.foldl_append]
    simp only [List.flatMap_cons, List.flatMap_nil, List.append_nil, PendingEdit.rowEdits]
    refine hbase.agrees.perform hchange ?_ ?_
    · rintro source target count rfl
      exact hreplayable
    · rintro rfl
      exact hreplayable
  · exact fun htracking key hkey => List.mem_append_left _ (hbase.queued htracking key hkey)

theorem Sound.reportItem (hs : s.Sound config) (key : K) :
    Sound config
      { s with engine := s.engine.notifyItemChange key, reported := key :: s.reported } := by
  by_cases htracking : s.engine.config.trackItemChanges = true
  · refine hs.of_report (.itemChanged key) ?_ rfl rfl rfl ?_
    · simp only [Engine.notifyItemChange_eq, htracking, if_true]
    · intro base hbase _ heq
      simp only at heq
      refine ⟨?_, ?_, ?_, ?_⟩ <;> simp only [heq]
      · exact hbase.results_eq
      · exact hbase.baseline_eq
      · rw [List.flatMap_append, List.foldl_append]
        exact hbase.agrees
      · intro _ key' hkey'
        rcases List.mem_cons.mp hkey' with rfl | hkey'
        · exact List.mem_append_right _ (List.mem_singleton_self _)
        · exact List.mem_append_left _ (hbase.queued htracking key' hkey')
  · have heq : s.engine.notifyItemChange key = s.engine := by
      rw [Engine.notifyItemChange_eq, if_neg htracking]
    rw [heq]
    refine ⟨hs.coherent, hs.config_eq, hs.tracked, hs.bound, fun happlied hreplay => ?_⟩
    obtain ⟨base, hbase⟩ := hs.synced happlied hreplay
    exact ⟨base, hbase.results_eq, hbase.baseline_eq, hbase.agrees,
      fun hyes => absurd hyes htracking⟩

/-! ## Flushes -/

/-- A row whose cells changed is among the rows of its key, and its key is in the queue. -/
theorem Follows.row_eq {base : List R} (h : s.Follows base) (hsettled : s.Settled)
    (htracked : s.edited ≠ [] → s.engine.config.trackItemChanges = true) {delta : DeltaPlan}
    (hdelta : delta.Collected s.engine.pending base.length s.source.count s.source) {i : Nat}
    (hi : i < s.source.count) (hclean : i ∉ delta.changedRows)
    (hrow : (delta.edits.foldl RowEdit.perform (.ofList base)).row? i ≠ none) :
    (delta.edits.foldl RowEdit.perform (.ofList base)).row? i = s.source.row? i := by
  rw [hdelta.edits_eq] at hrow ⊢
  obtain ⟨r, hr⟩ := Option.ne_none_iff_exists'.mp hrow
  have hlt : i < s.rows.length := by simpa [source, RowSource.ofList] using hi
  have hget := List.getElem?_eq_getElem hlt
  have hsource : s.source.row? i = some s.rows[i].row := by
    simp [source, RowSource.ofList, hget]
  obtain ⟨-, -, hsame⟩ := h.agrees.old i s.rows[i] r hget hr
  rw [hr, hsource]
  rcases hsame with hsame | hedited
  · rw [hsame]
  · -- the row was changed, hence reported, hence found by its key
    refine absurd ?_ hclean
    have htracking := htracked (List.ne_nil_of_mem hedited)
    have hqueued := h.queued htracking _ (hsettled.1 _ hedited)
    refine hdelta.changed_mem _ hqueued i (List.mem_filter.mpr ⟨List.mem_range.mpr hi, ?_⟩)
    rw [hsource]
    simp

/-- A replay makes up for all that has happened to the table. -/
theorem Follows.current_of_replayed {base : List R} {columns : ColumnSet R} {plan : ScopePlan}
    {delta : DeltaPlan} {e' : Engine R K} (h : s.Follows base) (hsettled : s.Settled)
    (htracked : s.edited ≠ [] → s.engine.config.trackItemChanges = true)
    (hcoherent : s.engine.Coherent)
    (hbind : ColumnSet.bind s.engine.config.missingAccessor s.live = .ok columns)
    (hreplayed : s.engine.Replayed s.source columns plan delta e') :
    e'.Current s.live (s.rows.map HostRow.row) := by
  have hready := hreplayed.ready
  have hplan := hready.plan_eq_planFor hcoherent
  have hdelta := DeltaPlan.validate_eq_ok hreplayed.checked
  rw [h.baseline_eq] at hdelta
  refine ⟨⟨columns, hreplayed.columns_eq.trans hready.columns_eq, ?_, ?_⟩, hreplayed.baseline_eq⟩
  · rw [hreplayed.config_eq]
    exact hbind
  · rw [hreplayed.results_eq, h.results_eq columns hready.columns_eq, hplan,
      Engine.planFor, Engine.planFor, hreplayed.applied_eq]
    exact DeltaPlan.apply_fullScan hdelta.fits (RowSource.full_ofList base)
      fun i hi hclean hrow => h.row_eq hsettled htracked hdelta hi hclean hrow

/-- A settled owner who flushes has current results, whichever way the flush goes. -/
theorem Sound.current (hs : s.Sound config) (hsettled : s.Settled) {f : Flush}
    {e' : Engine R K} {outcome : FlushOutcome}
    (h : (s.engine.chosen f).Refreshed s.live s.source e' (.ok outcome))
    (happlied : (s.engine.chosen f).applied ≠ none) :
    e'.Current s.live (s.rows.map HostRow.row) := by
  have hbound : ∀ set, s.engine.columns = some set →
      ColumnSet.bind s.engine.config.missingAccessor s.live = .ok set := by
    rw [hs.config_eq]
    exact fun set hset => hs.bound set hset hsettled.2
  have hkept := Engine.retargeted_chosen s.engine f
  by_cases hscan : (s.engine.chosen f).MustScan
  · rcases h.of_mustScan hscan happlied with ⟨columns, _, hscanned, -⟩ | ⟨_, _, houtcome⟩
    · refine hscanned.current ?_
      rw [hkept.config_eq, hkept.columns_eq]
      exact hbound
    · cases houtcome
  · -- an engine that may replay has the descriptors already, and follows its owner
    rw [Engine.chosen_eq hscan] at h happlied hscan
    obtain ⟨base, hbase⟩ := hs.synced happlied hscan
    have htracked : s.edited ≠ [] → s.engine.config.trackItemChanges = true := by
      rw [hs.config_eq]
      exact hs.tracked
    cases h with
    | idle hnone => exact absurd hnone happlied
    | upToDate columns plan hready hpending hengine =>
      rw [hengine]
      exact hbase.current hsettled htracked hready.columns_eq
        (hbound columns hready.columns_eq) hpending
    | replayed columns plan delta _ hreplayed =>
      exact hbase.current_of_replayed hsettled htracked hs.coherent
        (hbound columns hreplayed.ready.columns_eq) hreplayed
    | scanned columns _ _ hscanned => exact hscanned.current hbound
    | unbound _ _ _ houtcome => cases houtcome

/-- After a flush that succeeds, the table that the results are a scan of is the present one. -/
theorem Sound.of_ok (hs : s.Sound config) (hsettled : s.Settled) {f : Flush} {e' : Engine R K}
    {outcome : FlushOutcome}
    (h : (s.engine.chosen f).Refreshed s.live s.source e' (.ok outcome)) :
    Sound config
      { s with
        engine := e'
        rows := s.rows.map fun host => ⟨host.row, false⟩
        edited := []
        reported := [] } := by
  have hkept := Engine.retargeted_chosen s.engine f
  have hconfig : e'.config = config := h.config_eq.1.trans (hkept.config_eq.trans hs.config_eq)
  refine ⟨h.coherent (hs.coherent.chosen f), hconfig, fun hne => absurd rfl hne, ?_, ?_⟩
  · intro columns hsome _
    by_cases hidle : (s.engine.chosen f).applied = none
    · simp only [h.eq_of_idle hidle, hkept.columns_eq] at hsome
      exact hs.bound columns hsome hsettled.2
    · obtain ⟨⟨set, hset, hbind, -⟩, -⟩ := hs.current hsettled h hidle
      simp only [hset, Option.some.injEq] at hsome
      rwa [hconfig, hsome] at hbind
  · intro happlied _
    simp only [h.config_eq.2] at happlied
    obtain ⟨⟨set, hset, -, hresults⟩, hbaseline⟩ := hs.current hsettled h happlied
    refine ⟨s.rows.map HostRow.row, ?_, hbaseline, ?_, fun _ key hkey => by cases hkey⟩
    · intro columns hsome
      simp only [hset, Option.some.injEq] at hsome
      rwa [hsome] at hresults
    · simp only [h.pending_eq]
      have hagrees := RowSource.agrees_ofList (s.rows.map HostRow.row) ([] : List K)
      rwa [List.map_map] at hagrees

/-- After a flush that fails there are no columns to replay with. -/
theorem Sound.of_error (hs : s.Sound config) {f : Flush} {e' : Engine R K} {err : SearchError}
    (h : (s.engine.chosen f).Refreshed s.live s.source e' (.error err)) :
    Sound config { s with engine := e' } := by
  have hnone := h.unbound_of_error.2.columns_eq
  have hconfig := (Engine.retargeted_chosen s.engine f).config_eq.trans hs.config_eq
  refine ⟨h.coherent (hs.coherent.chosen f), h.config_eq.1.trans hconfig, hs.tracked, ?_,
    fun _ hreplay => absurd (Or.inl hnone) hreplay⟩
  intro columns hsome
  simp only [hnone] at hsome
  cases hsome

theorem Sound.flush (hs : s.Sound config) (hsettled : s.Settled) (f : Flush) :
    (s.flush f).Sound config := by
  have hcases := Engine.refresh_cases (hs.coherent.chosen f) s.live s.source
  obtain ⟨hengine, houtcome⟩ := Engine.flush_eq s.engine f s.live s.source
  unfold Session.flush
  simp only [hengine, houtcome]
  cases hrefresh : ((s.engine.chosen f).refresh s.live s.source).outcome with
  | ok outcome =>
    rw [hrefresh] at hcases
    exact hs.of_ok hsettled hcases
  | error err =>
    rw [hrefresh] at hcases
    exact hs.of_error hcases

/-- Whatever happens, the session stays sound. -/
theorem Sound.step (hs : s.Sound config) (h : s.Step s') : s'.Sound config := by
  cases h with
  | edit change after hchange => exact hs.edit hchange
  | changeNew i old row hget hkey => exact hs.changeNew hget
  | changeOld i old row hget hkey htracking => exact hs.changeOld hget hkey htracking
  | reportItem key => exact hs.reportItem key
  | setColumns live => exact hs.setColumns live
  | invalidate => exact hs.invalidate
  | flush f hsettled => exact hs.flush hsettled f

theorem sound_of_reachable (h : Reachable config s) : s.Sound config := by
  induction h with
  | start rows live => exact sound_start rows live
  | step _ hstep ih => exact ih.step hstep

/-- After every flush that succeeds while descriptors are applied, the results are those of a
scan of the table as it is, and those of a new engine that is given the same descriptors. -/
theorem results_eq_fullScan (hreach : Reachable config s) (hsettled : s.Settled) (f : Flush)
    (hok : (s.engine.flush f s.live s.source).outcome = .ok ()) (descriptors : List Descriptor)
    (happlied : (s.engine.flush f s.live s.source).engine.applied = some descriptors) :
    (∃ columns, ColumnSet.bind config.missingAccessor s.live = .ok columns ∧
      (s.engine.flush f s.live s.source).engine.results =
        (fullScan s.source columns (.build columns (descriptors.map .ofDescriptor))).1) ∧
    ((Engine.ofConfig config).applyDescriptors descriptors s.live s.source).outcome = .ok () ∧
    (s.engine.flush f s.live s.source).engine.results =
      ((Engine.ofConfig config).applyDescriptors descriptors s.live s.source).engine.results := by
  have hs := sound_of_reachable hreach
  obtain ⟨hengine, houtcome⟩ := Engine.flush_eq s.engine f s.live s.source
  have hcases := Engine.refresh_cases (hs.coherent.chosen f) s.live s.source
  rw [hengine] at happlied ⊢
  rw [houtcome] at hok
  obtain ⟨outcome, hrefresh, -⟩ := exists_of_map_eq_ok hok
  rw [hrefresh] at hcases
  have hconfig : ((s.engine.chosen f).refresh s.live s.source).engine.config = config :=
    hcases.config_eq.1.trans ((Engine.retargeted_chosen s.engine f).config_eq.trans hs.config_eq)
  have hne : (s.engine.chosen f).applied ≠ none := by
    rw [← hcases.config_eq.2, happlied]
    simp
  -- a new engine binds the same columns, and scans
  obtain ⟨⟨columns, -, hbind, hresults⟩, -⟩ := hs.current hsettled hcases hne
  rw [hconfig] at hbind
  rw [Engine.planFor, happlied, Option.getD_some] at hresults
  obtain ⟨hnew, hscan⟩ := Engine.ofConfig_apply hbind descriptors s.source
  exact ⟨⟨columns, hbind, hresults⟩, hnew, hresults.trans hscan.symm⟩

/-- A search for `a` in three rows, of which the first is removed and the last reported. -/
theorem results_eq_fullScan_remove :
    let scanned : Session String String :=
      (start { trackItemChanges := true } ["cab", "dog", "ape"]
        [{ id := "name", accessor := some some }]).flush (.apply [{ query := "a" }])
    let removed : Session String String :=
      { scanned with
        engine := scanned.engine.notifyCollectionChange (.remove 0 1)
        rows := [⟨"dog", false⟩, ⟨"ape", false⟩] }
    let s : Session String String :=
      { removed with
        engine := removed.engine.notifyItemChange "ape"
        reported := ["ape"] }
    (s.engine.flush .refresh s.live s.source).outcome = .ok () ∧
    (s.engine.flush .refresh s.live s.source).engine.results =
      ((Engine.ofConfig { trackItemChanges := true }).applyDescriptors [{ query := "a" }] s.live
        s.source).engine.results := by
  intro scanned removed s
  have hreach : Reachable { trackItemChanges := true } s := by
    refine .step (.step (.step (.start _ _) (.flush _ ⟨?_, rfl⟩)) (.edit (.remove 0 1) _ ?_))
      (.reportItem "ape")
    · intro key hkey
      cases hkey
    · exact ⟨by decide, rfl⟩
  have hsettled : s.Settled := by
    refine ⟨fun key hkey => ?_, rfl⟩
    cases hkey
  exact ⟨rfl, (results_eq_fullScan hreach hsettled .refresh rfl [{ query := "a" }] rfl).2.2⟩

end Session

end CellSearch
