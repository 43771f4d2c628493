import Mathlib
import CellSearch.Proofs.Engine.Flush

/-!
# Runs of calls

The owner of an engine makes calls in any order, with any columns, any table and any reports.
What every call keeps holds after every run (`Engine.run_induction`).

* `Engine.report_cases` — the ways that a report can go;
* `Engine.coherent_run` — after every run the plan is the one of the columns and descriptors.
-/

namespace CellSearch

/-- A call of the owner. The columns and the table are those that the owner passes. -/
inductive Call (R K : Type) where
  | apply (descriptors : List Descriptor) (live : List (Column R)) (source : RowSource R)
  | refresh (live : List (Column R)) (source : RowSource R)
  | collectionChange (change : CollectionChange)
  | itemChange (key : K)
  | invalidateColumns

namespace Engine

variable {R K : Type}

/-! ## Reports -/

section Reports

variable [DecidableEq K]

/-- Take a report that counts, of whichever kind. -/
def report (e : Engine R K) (edit : PendingEdit K) : Engine R K :=
  if e.applied.isNone || e.queueIsTerminal then e
  else if edit = .collection .reset then { e with pending := [.collection .reset] }
  else e.enqueue edit

theorem notifyCollectionChange_eq (e : Engine R K) (change : CollectionChange) :
    e.notifyCollectionChange change = e.report (.collection change) := by
  unfold notifyCollectionChange report
  simp

theorem notifyItemChange_eq (e : Engine R K) (key : K) :
    e.notifyItemChange key =
      if e.config.trackItemChanges then e.report (.itemChanged key) else e := by
  unfold notifyItemChange report
  cases e.config.trackItemChanges <;> simp

/-- The ways that a report can go. -/
inductive Reported (e : Engine R K) (edit : PendingEdit K) (e' : Engine R K) : Prop where
  /-- Nothing is searched for. -/
  | ignored (applied_eq : e.applied = none) (engine_eq : e' = e)
  /-- The queue forces a scan anyhow. -/
  | terminal (front : List (PendingEdit K)) (last : PendingEdit K)
      (pending_eq : e.pending = front ++ [last]) (isTerminal : last.isTerminal = true)
      (applied_ne : e.applied ≠ none) (engine_eq : e' = e)
  /-- A reset stands for the whole queue. -/
  | reset (edit_eq : edit = .collection .reset) (applied_ne : e.applied ≠ none)
      (engine_eq : e' = { e with pending := [.collection .reset] })
  /-- The queue is full and is given up. -/
  | overflow (full : e.config.maxPendingEdits ≤ e.pending.length) (applied_ne : e.applied ≠ none)
      (engine_eq : e' = { e with pending := [.overflow] })
  | queued (waiting : e.queueIsTerminal = false)
      (room : e.pending.length < e.config.maxPendingEdits)
      (edit_ne : edit ≠ .collection .reset) (applied_ne : e.applied ≠ none)
      (engine_eq : e' = { e with pending := e.pending ++ [edit] })

/-- A report goes one of its ways. -/
theorem report_cases (e : Engine R K) (edit : PendingEdit K) :
    e.Reported edit (e.report edit) := by
  unfold report
  by_cases happlied : e.applied = none
  · rw [if_pos (by simp [happlied])]
    exact .ignored happlied rfl
  · by_cases hterminal : e.queueIsTerminal = true
    · rw [if_pos (by simp [hterminal])]
      unfold queueIsTerminal at hterminal
      obtain ⟨last, hlast, hmark⟩ := (Option.any_eq_true _ _).mp hterminal
      obtain ⟨front, hfront⟩ := List.getLast?_eq_some_iff.mp hlast
      exact .terminal front last hfront hmark happlied rfl
    · rw [if_neg (by simp [happlied, hterminal])]
      by_cases hreset : edit = .collection .reset
      · rw [if_pos hreset]
        exact .reset hreset happlied rfl
      · rw [if_neg hreset, enqueue]
        split
        · exact .overflow (by assumption) happlied rfl
        · exact .queued (by simpa using hterminal) (by omega) hreset happlied rfl

/-- A report changes the queue and nothing else. -/
theorem report_eq (e : Engine R K) (edit : PendingEdit K) :
    ∃ pending, e.report edit = { e with pending := pending } := by
  cases report_cases e edit with
  | ignored _ h => exact ⟨e.pending, h⟩
  | terminal _ _ _ _ _ h => exact ⟨e.pending, h⟩
  | reset _ _ h => exact ⟨_, h⟩
  | overflow _ _ h => exact ⟨_, h⟩
  | queued _ _ _ _ h => exact ⟨_, h⟩

/-- A report never makes a replay possible. -/
theorem MustScan.report {e : Engine R K} (h : e.MustScan) (edit : PendingEdit K) :
    (e.report edit).MustScan := by
  have hmark : ∀ {mark : PendingEdit K}, mark.isTerminal = true →
      ({ e with pending := [mark] } : Engine R K).MustScan := fun hmark =>
    Or.inr (Or.inr ⟨_, List.mem_singleton_self _, PendingEdit.not_replayable_of_isTerminal hmark⟩)
  cases report_cases e edit with
  | ignored _ hengine => rwa [hengine]
  | terminal _ _ _ _ _ hengine => rwa [hengine]
  | reset _ _ hengine =>
    rw [hengine]
    exact hmark rfl
  | overflow _ _ hengine =>
    rw [hengine]
    exact hmark rfl
  | queued _ _ _ _ hengine =>
    -- what stood in the way of a replay stays in the queue
    rw [hengine]
    rcases h with hnone | hnone | ⟨blocked, hmem, hblocked⟩
    · exact Or.inl hnone
    · exact Or.inr (Or.inl hnone)
    · exact Or.inr (Or.inr ⟨blocked, List.mem_append_left _ hmem, hblocked⟩)

end Reports

/-! ## Coherence -/

theorem Coherent.of_pending {e : Engine R K} (he : e.Coherent) (pending : List (PendingEdit K)) :
    ({ e with pending := pending } : Engine R K).Coherent :=
  ⟨he.bound, he.planned, he.cache_faithful⟩

theorem Coherent.report [DecidableEq K] {e : Engine R K} (he : e.Coherent)
    (edit : PendingEdit K) : (e.report edit).Coherent := by
  obtain ⟨pending, h⟩ := report_eq e edit
  rw [h]
  exact he.of_pending pending

theorem Coherent.invalidateColumns {e : Engine R K} (he : e.Coherent) :
    e.invalidateColumns.Coherent := by
  refine ⟨?_, ?_, he.cache_faithful⟩ <;>
  · intro x hx
    cases hx

/-! ## Runs -/

variable [SearchRow R K] [DecidableEq K]

/-- The engine after a call. -/
def call (e : Engine R K) : Call R K → Engine R K
  | .apply descriptors live source => (e.applyDescriptors descriptors live source).engine
  | .refresh live source => (e.refresh live source).engine
  | .collectionChange change => e.notifyCollectionChange change
  | .itemChange key => e.notifyItemChange key
  | .invalidateColumns => e.invalidateColumns

/-- The engine of a configuration after a run of calls. -/
def run (config : EngineConfig) (calls : List (Call R K)) : Engine R K :=
  calls.foldl call (.ofConfig config)

/-- A call is a report, an invalidation, or a refresh of the engine or of the engine with other
descriptors. -/
theorem call_induction {P : Engine R K → Prop} {e : Engine R K} (h : P e)
    (hchoose : ∀ descriptors, P (e.choose descriptors))
    (hrefresh : ∀ e₀ live source, P e₀ → P (e₀.refresh live source).engine)
    (hreport : ∀ edit, P (e.report edit)) (hinvalidate : P e.invalidateColumns)
    (c : Call R K) : P (e.call c) := by
  cases c with
  | apply descriptors live source =>
    simp only [call, (applyDescriptors_eq e descriptors live source).1]
    exact hrefresh _ live source (hchoose descriptors)
  | refresh live source => exact hrefresh e live source h
  | collectionChange change =>
    simp only [call, notifyCollectionChange_eq]
    exact hreport _
  | itemChange key =>
    simp only [call, notifyItemChange_eq]
    split
    · exact hreport _
    · exact h
  | invalidateColumns => exact hinvalidate

/-- What a new engine has and every call keeps holds after every run. -/
theorem run_induction {P : Engine R K → Prop} {config : EngineConfig}
    (hstart : P (.ofConfig config)) (hcall : ∀ e c, P e → P (e.call c))
    (calls : List (Call R K)) : P (run config calls) := by
  unfold run
  generalize (ofConfig config : Engine R K) = e at hstart
  induction calls generalizing e with
  | nil => exact hstart
  | cons c rest ih => exact ih (e.call c) (hcall e c hstart)

theorem Coherent.call {e : Engine R K} (he : e.Coherent) (c : Call R K) : (e.call c).Coherent :=
  call_induction (P := Coherent) he he.choose
    (fun _ live source he₀ => (refresh_cases he₀ live source).coherent he₀) he.report
    he.invalidateColumns c

/-- Of the engines that runs reach only coherent ones are refreshed. -/
theorem coherent_run_induction {P : Engine R K → Prop} {config : EngineConfig}
    (hstart : P (.ofConfig config))
    (hchoose : ∀ e descriptors, P e → P (e.choose descriptors))
    (hrefreshed : ∀ e live source e' outcome, e.Refreshed live source e' outcome → P e → P e')
    (hreport : ∀ e edit, P e → P (e.report edit))
    (hinvalidate : ∀ e, P e → P e.invalidateColumns)
    (calls : List (Call R K)) : P (run config calls) := by
  have hkept : (run config calls).Coherent ∧ P (run config calls) := by
    refine run_induction (P := fun e => e.Coherent ∧ P e) ⟨coherent_ofConfig config, hstart⟩ ?_
      calls
    intro e c he
    refine call_induction (P := fun e => e.Coherent ∧ P e) he ?_ ?_ ?_ ?_ c
    · exact fun descriptors => ⟨he.1.choose descriptors, hchoose e descriptors he.2⟩
    · intro e₀ live source he₀
      have hcases := refresh_cases he₀.1 live source
      exact ⟨hcases.coherent he₀.1, hrefreshed e₀ live source _ _ hcases he₀.2⟩
    · exact fun edit => ⟨he.1.report edit, hreport e edit he.2⟩
    · exact ⟨he.1.invalidateColumns, hinvalidate e he.2⟩
  exact hkept.2

/-- No call changes the configuration. -/
theorem config_call {e : Engine R K} (he : e.Coherent) (c : Call R K) :
    (e.call c).config = e.config := by
  cases c with
  | apply descriptors live source =>
    have hcases := refresh_cases (he.choose descriptors) live source
    rw [call, (applyDescriptors_eq e descriptors live source).1, hcases.config_eq.1,
      (retargeted_choose e descriptors).config_eq]
  | refresh live source => exact (refresh_cases he live source).config_eq.1
  | collectionChange change =>
    obtain ⟨pending, h⟩ := report_eq e (.collection change)
    rw [call, notifyCollectionChange_eq, h]
  | itemChange key =>
    obtain ⟨pending, h⟩ := report_eq e (.itemChanged key)
    rw [call, notifyItemChange_eq, h]
    split <;> rfl
  | invalidateColumns => rfl

theorem config_foldl_call {e : Engine R K} (he : e.Coherent) (calls : List (Call R K)) :
    (calls.foldl call e).config = e.config := by
  induction calls generalizing e with
  | nil => rfl
  | cons c rest ih => rw [List.foldl_cons, ih (he.call c), config_call he c]

/-- After every run the engine is coherent and has the configuration it started with. -/
theorem coherent_run (config : EngineConfig) (calls : List (Call R K)) :
    (run config calls).Coherent ∧ (run config calls).config = config :=
  run_induction (P := fun e => e.Coherent ∧ e.config = config) ⟨coherent_ofConfig config, rfl⟩
    (fun _ c he => ⟨he.1.call c, (config_call he.1 c).trans he.2⟩) calls

end Engine

end CellSearch
