import Mathlib
import CellSearch.Proofs.Engine.Call

/-!
# The queue of reports

A report waits in the queue until the next flush, or it is dropped: the queue may be full, may
force a scan already, or may be lost with a flush that fails. The history of a run writes down
what was reported, apart from what the engine makes of it (`Engine.History`).

* `Engine.ShortQueue` — the queue is bounded, and a mark that forces a scan stands alone in it;
* `Engine.History.Sound` — a queue without a mark is what was reported since the last flush, and
  once a report was dropped, no flush but a scan can succeed.
-/

namespace CellSearch

namespace Call

variable {R K : Type}

/-- The call is a flush. -/
def isFlush : Call R K → Bool
  | apply _ _ _ => true
  | refresh _ _ => true
  | _ => false

/-- What the call reports. Changes of rows are reports only if they are tracked. -/
def reports (tracking : Bool) : Call R K → List (PendingEdit K)
  | collectionChange change => [.collection change]
  | itemChange key => if tracking then [.itemChanged key] else []
  | _ => []

end Call

namespace Engine

variable {R K : Type}

/-! ## Short queues -/

section Queues

variable {e : Engine R K} {edit : PendingEdit K}

/-- The queue is short, marks stand alone in it, and nothing waits without descriptors. -/
structure ShortQueue (e : Engine R K) : Prop where
  length_le : e.pending.length ≤ max 1 e.config.maxPendingEdits
  terminal_alone : ∀ edit ∈ e.pending, edit.isTerminal = true → e.pending = [edit]
  idle : e.applied = none → e.pending = []

theorem mustScan_of_mark (hmem : edit ∈ e.pending) (hmark : edit.isTerminal = true) :
    e.MustScan :=
  Or.inr (Or.inr ⟨edit, hmem, PendingEdit.not_replayable_of_isTerminal hmark⟩)

theorem ShortQueue.of_empty (h : e.pending = []) : e.ShortQueue := by
  refine ⟨?_, ?_, fun _ => h⟩
  · rw [h]
    exact Nat.zero_le _
  · rw [h]
    intro edit hedit
    cases hedit

theorem ShortQueue.of_mark (happlied : e.applied ≠ none) (h : e.pending = [edit]) :
    e.ShortQueue := by
  refine ⟨?_, ?_, fun hnone => absurd hnone happlied⟩
  · rw [h]
    exact le_max_left 1 _
  · rw [h]
    intro edit' hedit' _
    rw [List.mem_singleton.mp hedit']

/-- A queue with room takes a report that is no mark. -/
theorem ShortQueue.queued (h : e.ShortQueue) (happlied : e.applied ≠ none)
    (hwaiting : e.queueIsTerminal = false) (hroom : e.pending.length < e.config.maxPendingEdits)
    (hedit : edit.isTerminal = false) :
    ({ e with pending := e.pending ++ [edit] } : Engine R K).ShortQueue := by
  refine ⟨?_, ?_, fun hnone => absurd hnone happlied⟩
  · simp only [List.length_append, List.length_singleton]
    omega
  · intro mark hmem hmark
    rcases List.mem_append.mp hmem with hmem | hmem
    · -- a mark in the queue would be its last element, and nothing would be put behind it
      have hlast : e.queueIsTerminal = true := by
        rw [queueIsTerminal, h.terminal_alone mark hmem hmark]
        exact hmark
      rw [hwaiting] at hlast
      cases hlast
    · rw [List.mem_singleton.mp hmem, hedit] at hmark
      cases hmark

end Queues

/-! ## Histories -/

/-- An engine after a run, with what was reported to it. -/
structure History (R K : Type) where
  engine : Engine R K
  /-- The reports since the last flush. -/
  reported : List (PendingEdit K)
  /-- Whether a report that was made while descriptors were applied has left the queue, or has
  not entered it, since the last flush that succeeded. -/
  dropped : Bool

namespace History

/-- No calls yet. -/
def start (config : EngineConfig) : History R K := ⟨.ofConfig config, [], false⟩

/-- The queue is short and says what was reported, and after a loss there must be a scan. -/
structure Sound (h : History R K) : Prop where
  coherent : h.engine.Coherent
  short : h.engine.ShortQueue
  pending_eq : h.engine.applied ≠ none →
    (∀ edit ∈ h.engine.pending, edit.isTerminal = false) → h.engine.pending = h.reported
  mustScan : h.dropped = true → h.engine.applied ≠ none ∧ h.engine.MustScan

variable {e e' : Engine R K} {edit : PendingEdit K} {reported : List (PendingEdit K)}
variable {dropped : Bool}

theorem sound_start (config : EngineConfig) : (start config : History R K).Sound where
  coherent := coherent_ofConfig config
  short := .of_empty rfl
  pending_eq := fun _ _ => rfl
  mustScan := fun h => by cases h

/-- A queue that is nothing but a mark is sound, whatever was reported. -/
theorem Sound.of_mark (he : e.Coherent) (happlied : e.applied ≠ none)
    (h : e.pending = [edit]) (hmark : edit.isTerminal = true) :
    (⟨e, reported, dropped⟩ : History R K).Sound := by
  have hmem : edit ∈ e.pending := by
    rw [h]
    exact List.mem_singleton_self edit
  refine ⟨he, .of_mark happlied h, ?_, fun _ => ⟨happlied, mustScan_of_mark hmem hmark⟩⟩
  intro _ hnone
  have hfalse := hnone edit hmem
  rw [hmark] at hfalse
  cases hfalse

variable [DecidableEq K]

/-- A report is put into the queue, or it is dropped and there must be a scan. -/
theorem Sound.report (h : (⟨e, reported, dropped⟩ : History R K).Sound)
    (hedit : edit.isTerminal = true → edit = .collection .reset) :
    (⟨e.report edit, reported ++ [edit], dropped || decide
      ((e.report edit).pending ≠ e.pending ++ if e.applied.isNone then [] else [edit])⟩ :
        History R K).Sound := by
  have hcoherent := h.coherent.report edit
  cases report_cases e edit with
  | ignored happlied hengine =>
    rw [hengine]
    refine ⟨h.coherent, h.short, fun hne => absurd happlied hne, ?_⟩
    simpa [happlied] using h.mustScan
  | terminal front last hpending hmark happlied hengine =>
    rw [hengine]
    refine .of_mark h.coherent happlied (h.short.terminal_alone last ?_ hmark) hmark
    rw [hpending]
    exact List.mem_append_right front (List.mem_singleton_self last)
  | reset _ happlied hengine =>
    rw [hengine] at hcoherent ⊢
    exact .of_mark hcoherent happlied rfl rfl
  | overflow _ happlied hengine =>
    rw [hengine] at hcoherent ⊢
    exact .of_mark hcoherent happlied rfl rfl
  | queued hwaiting hroom hne happlied hengine =>
    -- the only mark that is reported is a reset, and a reset is not queued
    have hplain : edit.isTerminal = false := by
      by_contra hmark
      exact hne (hedit (by simpa using hmark))
    have hnone : e.applied.isNone = false := by
      rw [Option.isNone_eq_false_iff, Option.isSome_iff_ne_none]
      exact happlied
    have hscan : dropped = true → (e.report edit).MustScan :=
      fun hloss => (h.mustScan hloss).2.report edit
    rw [hengine] at hcoherent hscan ⊢
    refine ⟨hcoherent, h.short.queued happlied hwaiting hroom hplain, ?_, ?_⟩
    · intro _ hall
      simp only
      rw [h.pending_eq happlied fun mark hmark => hall mark (List.mem_append_left _ hmark)]
    · simp only [hnone, Bool.false_eq_true, if_false, ne_eq, not_true, decide_false,
        Bool.or_false]
      exact fun hloss => ⟨happlied, hscan hloss⟩

/-- A call that reports nothing and leaves the queue alone is sound if it keeps scans due. -/
theorem Sound.of_pending_eq (h : (⟨e, reported, dropped⟩ : History R K).Sound)
    (he' : e'.Coherent) (hconfig : e'.config = e.config) (happlied : e'.applied = e.applied)
    (hpending : e'.pending = e.pending) (hscan : e.MustScan → e'.MustScan) :
    (⟨e', reported ++ [], dropped || decide
      (e'.pending ≠ e.pending ++ if e.applied.isNone then [] else [])⟩ : History R K).Sound := by
  have hsame : e'.pending = e.pending ++ if e.applied.isNone then [] else [] := by
    rw [ite_self, List.append_nil, hpending]
  rw [List.append_nil, decide_eq_false (not_not.mpr hsame), Bool.or_false]
  refine ⟨he', ?_, ?_, ?_⟩
  · refine ⟨?_, ?_, ?_⟩
    · simpa [hpending, hconfig] using h.short.length_le
    · simpa [hpending] using h.short.terminal_alone
    · simpa [hpending, happlied] using h.short.idle
  · simpa [hpending, happlied] using h.pending_eq
  · simp only [happlied]
    exact fun hloss => ⟨(h.mustScan hloss).1, hscan (h.mustScan hloss).2⟩

end History

variable [SearchRow R K] [DecidableEq K]

/-- The call is a flush that succeeds. -/
def flushes (e : Engine R K) : Call R K → Bool
  | .apply descriptors live source => (e.applyDescriptors descriptors live source).outcome.toBool
  | .refresh live source => (e.refresh live source).outcome.toBool
  | _ => false

namespace History

/-- The history after one more call. A report counts if descriptors are applied. -/
def call (h : History R K) (c : Call R K) : History R K :=
  let reports := c.reports h.engine.config.trackItemChanges
  let counted := if h.engine.applied.isNone then [] else reports
  { engine := h.engine.call c
    reported := if c.isFlush then [] else h.reported ++ reports
    dropped := !h.engine.flushes c &&
      (h.dropped || decide ((h.engine.call c).pending ≠ h.engine.pending ++ counted)) }

/-- The history of a run of calls. -/
def ofCalls (config : EngineConfig) (calls : List (Call R K)) : History R K :=
  calls.foldl call (start config)

theorem engine_ofCalls (config : EngineConfig) (calls : List (Call R K)) :
    (ofCalls config calls).engine = run config calls := by
  unfold ofCalls run
  rw [← show (start config : History R K).engine = ofConfig config from rfl]
  generalize (start config : History R K) = h
  induction calls generalizing h with
  | nil => rfl
  | cons c rest ih => exact ih (h.call c)

/-! ## Soundness -/

variable {e e' : Engine R K} {edit : PendingEdit K} {reported : List (PendingEdit K)}
variable {dropped : Bool}

/-- A flush empties the queue; one that fails leaves no columns to replay with. -/
theorem Sound.of_refreshed {live : List (Column R)} {source : RowSource R}
    {outcome : Except SearchError FlushOutcome} (he : e.Coherent)
    (h : e.Refreshed live source e' outcome) (hdropped : dropped = true → outcome.toBool = false) :
    (⟨e', [], dropped⟩ : History R K).Sound := by
  refine ⟨h.coherent he, .of_empty h.pending_eq, fun _ _ => h.pending_eq, fun hloss => ?_⟩
  have hfailed := hdropped hloss
  cases outcome with
  | ok outcome => cases hfailed
  | error err =>
    obtain ⟨happlied, hunbound⟩ := h.unbound_of_error
    rw [← hunbound.applied_eq] at happlied
    exact ⟨happlied, Or.inl hunbound.columns_eq⟩

/-- Every call keeps a history sound. -/
theorem Sound.call {h : History R K} (hs : h.Sound) (c : Call R K) : (h.call c).Sound := by
  obtain ⟨e, reported, dropped⟩ := h
  cases c with
  | apply descriptors live source =>
    obtain ⟨hengine, houtcome⟩ := applyDescriptors_eq e descriptors live source
    have hchosen := hs.coherent.choose descriptors
    -- a flush that does not succeed fails for the columns, and leaves none
    simp only [History.call, Engine.call, Call.isFlush, if_true, hengine, flushes, houtcome]
    refine .of_refreshed hchosen (refresh_cases hchosen live source) fun hloss => ?_
    have hfailed := (Bool.and_eq_true_iff.mp hloss).1
    cases houtcome' : ((e.choose descriptors).refresh live source).outcome with
    | error err => rfl
    | ok outcome =>
      rw [houtcome'] at hfailed
      cases hfailed
  | refresh live source =>
    refine .of_refreshed hs.coherent (refresh_cases hs.coherent live source) fun hloss => ?_
    have hfailed := (Bool.and_eq_true_iff.mp hloss).1
    simpa [flushes] using hfailed
  | collectionChange change =>
    simp only [History.call, Engine.call, Call.isFlush, Call.reports, flushes, Bool.not_false,
      Bool.true_and, Bool.false_eq_true, if_false, notifyCollectionChange_eq]
    refine hs.report fun hmark => ?_
    cases change <;> first | rfl | cases hmark
  | itemChange key =>
    simp only [History.call, Engine.call, Call.isFlush, Call.reports, flushes, Bool.not_false,
      Bool.true_and, Bool.false_eq_true, if_false, notifyItemChange_eq]
    by_cases htracking : e.config.trackItemChanges = true
    · simp only [htracking, if_true]
      exact hs.report fun hmark => by cases hmark
    · simp only [htracking, Bool.false_eq_true, if_false]
      exact hs.of_pending_eq hs.coherent rfl rfl rfl id
  | invalidateColumns =>
    exact hs.of_pending_eq hs.coherent.invalidateColumns rfl rfl rfl fun _ => Or.inl rfl

theorem sound_ofCalls (config : EngineConfig) (calls : List (Call R K)) :
    (ofCalls config calls).Sound := by
  unfold ofCalls
  have hstart : (start config : History R K).Sound := sound_start config
  generalize (start config : History R K) = h at hstart
  induction calls generalizing h with
  | nil => exact hstart
  | cons c rest ih => exact ih (h.call c) (hstart.call c)

end History

/-! ## Flushes after a loss -/

theorem pending_flush {e : Engine R K} (he : e.Coherent) {c : Call R K} (h : c.isFlush = true) :
    (e.call c).pending = [] := by
  cases c with
  | apply descriptors live source =>
    simp only [call, (applyDescriptors_eq e descriptors live source).1]
    exact (refresh_cases (he.choose descriptors) live source).pending_eq
  | refresh live source => exact (refresh_cases he live source).pending_eq
  | collectionChange change => cases h
  | itemChange key => cases h
  | invalidateColumns => cases h

theorem scanned_of_refresh {e : Engine R K} (he : e.Coherent) (hscan : e.MustScan)
    (happlied : e.applied ≠ none) {live : List (Column R)} {source : RowSource R}
    {outcome : FlushOutcome} (hok : (e.refresh live source).outcome = .ok outcome) :
    (∃ reason, outcome = .rescanned reason) ∧
      ∃ columns, e.Scanned live source columns (e.refresh live source).engine := by
  rcases (refresh_cases he live source).of_mustScan hscan happlied with
    ⟨columns, reason, hscanned, houtcome⟩ | ⟨err, -, houtcome⟩
  · rw [hok] at houtcome
    exact ⟨⟨reason, Except.ok.inj houtcome⟩, columns, hscanned⟩
  · rw [hok] at houtcome
    cases houtcome

theorem scanned_of_apply {e : Engine R K} (he : e.Coherent) (hscan : e.MustScan)
    {descriptors : List Descriptor} {live : List (Column R)} {source : RowSource R}
    (hok : (e.applyDescriptors descriptors live source).outcome = .ok ()) :
    ∃ columns, (e.choose descriptors).Scanned live source columns
      (e.applyDescriptors descriptors live source).engine := by
  obtain ⟨hengine, houtcome⟩ := applyDescriptors_eq e descriptors live source
  rw [houtcome] at hok
  obtain ⟨outcome, hrefresh, -⟩ := exists_of_map_eq_ok hok
  have hchosen : (e.choose descriptors).MustScan := by
    by_cases hsame : e.applied = some descriptors
    · rwa [choose, if_pos hsame]
    · exact mustScan_choose hsame
  rw [hengine]
  exact (scanned_of_refresh (he.choose descriptors) hchosen
    (by simp [applied_choose]) hrefresh).2

/-- After every run of calls the queue is short, a mark stands alone in it, nothing waits without
descriptors, and a queue without a mark is what was reported since the last flush, which emptied
it. If a report was dropped since the last flush that succeeded, the next one that succeeds is
a scan. -/
theorem no_report_lost (config : EngineConfig) (calls : List (Call R K)) :
    (run config calls).pending.length ≤ max 1 config.maxPendingEdits ∧
    (∀ edit ∈ (run config calls).pending, edit.isTerminal = true →
      (run config calls).pending = [edit]) ∧
    ((run config calls).applied = none → (run config calls).pending = []) ∧
    ((run config calls).applied ≠ none →
      (∀ edit ∈ (run config calls).pending, edit.isTerminal = false) →
      (run config calls).pending = (History.ofCalls config calls).reported) ∧
    (∀ c : Call R K, c.isFlush = true → ((run config calls).call c).pending = []) ∧
    ((History.ofCalls config calls).dropped = true →
      (∀ live source outcome, ((run config calls).refresh live source).outcome = .ok outcome →
        (∃ reason, outcome = .rescanned reason) ∧
        ∃ columns, (run config calls).Scanned live source columns
          ((run config calls).refresh live source).engine) ∧
      ∀ descriptors live source,
        ((run config calls).applyDescriptors descriptors live source).outcome = .ok () →
        ∃ columns, ((run config calls).choose descriptors).Scanned live source columns
          ((run config calls).applyDescriptors descriptors live source).engine) := by
  obtain ⟨hcoherent, hconfig⟩ := coherent_run config calls
  obtain ⟨-, hshort, hreported, hscan⟩ := History.sound_ofCalls config calls
  rw [History.engine_ofCalls] at hshort hreported hscan
  generalize run config calls = e at *
  refine ⟨?_, hshort.terminal_alone, hshort.idle, hreported, ?_, ?_⟩
  · rw [← hconfig]
    exact hshort.length_le
  · exact fun c hc => pending_flush hcoherent hc
  · intro hdropped
    obtain ⟨happlied, hmust⟩ := hscan hdropped
    constructor
    · exact fun live source outcome hok => scanned_of_refresh hcoherent hmust happlied hok
    · exact fun descriptors live source hok => scanned_of_apply hcoherent hmust hok

/-- A queue of one is full when the second report comes. -/
example : (History.ofCalls { maxPendingEdits := 1 }
    [.apply [{ query := "a" }] [] (.ofList ["a"]), .collectionChange (.add 0 1),
      .collectionChange (.add 1 1)] : History String String).dropped = true := rfl

end Engine

end CellSearch
