import Mathlib
import CellSearch.Proofs.Engine.DirtyRows
import CellSearch.Proofs.Engine.EditedSource

/-!
# Replay of a queue

A replay moves the results of the table before and evaluates the dirty rows. The same edits are
made on the table before: moved results are then a scan of the edited table
(`movedResults_fullScan`), and the dirty rows are exactly its rows without content and the
changed ones (`covers_dirtyRows`).

* `DeltaPlan.Collected` — what the check of a queue establishes;
* `DeltaPlan.apply_fullScan` — where the two tables agree outside the dirty rows, the outcome is
  a scan of the new one;
* `DeltaPlan.apply_inOrder` — whatever the two tables are, the outcome is in order and lies in
  the new one.
-/

namespace CellSearch

variable {R K : Type} [SearchRow R K]

theorem exists_of_map_eq_ok {ε α β : Type} {x : Except ε α} {f : α → β} {b : β}
    (h : x.map f = .ok b) : ∃ a, x = .ok a ∧ f a = b := by
  cases x with
  | error err => cases h
  | ok a => exact ⟨a, rfl, Except.ok.inj h⟩

namespace PendingEdit

/-- The insertions and deletions that a report stands for. -/
def rowEdits : PendingEdit K → List RowEdit
  | collection change => change.rowEdits
  | itemChanged _ => []
  | overflow => []

/-- A replay can follow the report. -/
def Replayable : PendingEdit K → Prop
  | collection (.move _ _ _) => False
  | collection .reset => False
  | overflow => False
  | _ => True

theorem not_replayable_of_isTerminal {edit : PendingEdit K} (h : edit.isTerminal = true) :
    ¬ edit.Replayable := by
  cases edit with
  | collection change => cases change <;> simp_all [isTerminal, Replayable]
  | itemChanged key => cases h
  | overflow => exact id

end PendingEdit

namespace DeltaPlan

variable {source base s : RowSource R} {columns : ColumnSet R} {scope : ScopePlan}
variable {plan : DeltaPlan} {rows rows' : Nat}

/-- Moved results are a scan of the edited table. -/
theorem movedResults_fullScan (hfit : RowEdit.AllFit base.count plan.edits) :
    plan.movedResults (fullScan base columns scope).1 =
      ((fullScan (plan.edits.foldl RowEdit.perform base) columns scope).1 : ResultSet K) := by
  unfold movedResults
  generalize plan.edits = edits at hfit
  induction edits generalizing base with
  | nil => rfl
  | cons edit rest ih =>
    obtain ⟨hedit, hrest⟩ := hfit
    rw [← RowEdit.count_perform] at hrest
    rw [List.foldl_cons, List.foldl_cons, ← ih hrest]
    cases edit with
    | insert start count => rw [RowEdit.perform, ← insertRows_fullScan hedit]
    | delete start count => rw [RowEdit.perform, ← removeRows_fullScan hedit]

/-! ## Dirty rows -/

/-- The dirty rows after an edit. -/
def editDirty (d : DirtyRows) : RowEdit → DirtyRows
  | .insert start count => d.insert start count
  | .delete start count => d.remove start count

/-- The dirty rows are the rows of the source that have no content. -/
def Tracks (d : DirtyRows) (s : RowSource R) : Prop :=
  Interval.Canonical d.ranges ∧
    ∀ n, Interval.covers d.ranges n = true ↔ n < s.count ∧ s.row? n = none

theorem tracks_empty (h : s.Full) : Tracks .empty s := by
  refine ⟨DirtyRows.canonical_empty, fun n => ?_⟩
  simp only [DirtyRows.empty, Interval.covers_nil, Bool.false_eq_true, false_iff, not_and]
  exact h n

/-- Dirty rows follow an edit as the rows without content do. -/
theorem Tracks.editDirty {d : DirtyRows} (h : Tracks d s) {edit : RowEdit}
    (hfit : edit.Fits s.count) : Tracks (editDirty d edit) (edit.perform s) := by
  obtain ⟨hcanonical, hcovers⟩ := h
  cases edit with
  | insert start count =>
    refine ⟨DirtyRows.canonical_insert hcanonical start count, fun n => ?_⟩
    simp only [DeltaPlan.editDirty, DirtyRows.covers_insert, hcovers, RowEdit.perform,
      RowSource.openGap]
    simp only [RowEdit.Fits] at hfit
    -- a row lies before the gap, in it, or behind it
    rcases lt_or_ge n start with hlt | hge
    · grind
    · rcases lt_or_ge n (start + count) with hin | hbehind
      · grind
      · grind
  | delete start count =>
    refine ⟨DirtyRows.canonical_remove hcanonical start count, fun n => ?_⟩
    simp only [DeltaPlan.editDirty, DirtyRows.covers_remove, hcovers, RowEdit.perform,
      RowSource.closeGap]
    simp only [RowEdit.Fits] at hfit
    -- a row is the one it was, or the one that lay `count` rows behind
    rcases lt_or_ge n start with hlt | hge
    · grind
    · grind

theorem tracks_edits (hfit : RowEdit.AllFit s.count plan.edits) {d : DirtyRows}
    (h : Tracks d s) :
    Tracks (plan.edits.foldl editDirty d) (plan.edits.foldl RowEdit.perform s) := by
  generalize plan.edits = edits at hfit
  induction edits generalizing d s with
  | nil => exact h
  | cons edit rest ih =>
    obtain ⟨hedit, hrest⟩ := hfit
    rw [← RowEdit.count_perform] at hrest
    exact ih (h.editDirty hedit) hrest

theorem covers_foldl_mark (rows : List Nat) (d : DirtyRows) (n : Nat) :
    Interval.covers (rows.foldl (fun d row => d.mark ⟨row, row + 1⟩) d).ranges n = true ↔
      Interval.covers d.ranges n = true ∨ n ∈ rows := by
  induction rows generalizing d with
  | nil => simp
  | cons row rest ih =>
    rw [List.foldl_cons, ih, DirtyRows.covers_mark, Bool.or_eq_true, Interval.contains_iff,
      List.mem_cons, or_assoc]
    have heq : row ≤ n ∧ n < row + 1 ↔ n = row := by omega
    rw [heq]

theorem canonical_foldl_mark (rows : List Nat) {d : DirtyRows}
    (h : Interval.Canonical d.ranges) :
    Interval.Canonical (rows.foldl (fun d row => d.mark ⟨row, row + 1⟩) d).ranges := by
  induction rows generalizing d with
  | nil => exact h
  | cons row rest ih => exact ih (DirtyRows.canonical_mark d _)

theorem dirtyRows_eq (plan : DeltaPlan) :
    plan.dirtyRows = plan.changedRows.foldl (fun d row => d.mark ⟨row, row + 1⟩)
      (plan.edits.foldl editDirty .empty) := rfl

/-- The dirty rows are the rows that were inserted and the rows that were changed. -/
theorem covers_dirtyRows (hfull : base.Full) (hfit : RowEdit.AllFit base.count plan.edits)
    (n : Nat) : Interval.covers plan.dirtyRows.ranges n = true ↔
      (n < (plan.edits.foldl RowEdit.perform base).count ∧
        (plan.edits.foldl RowEdit.perform base).row? n = none) ∨ n ∈ plan.changedRows := by
  rw [dirtyRows_eq, covers_foldl_mark, (tracks_edits hfit (tracks_empty hfull)).2]

theorem canonical_dirtyRows (hfull : base.Full) (hfit : RowEdit.AllFit base.count plan.edits) :
    Interval.Canonical plan.dirtyRows.ranges := by
  rw [dirtyRows_eq]
  exact canonical_foldl_mark _ (tracks_edits hfit (tracks_empty hfull)).1

/-! ## The check of a queue -/

/-- What the check of a queue makes sure of, so that the plan can be replayed. -/
structure Fits (plan : DeltaPlan) (rows : Nat) (source : RowSource R) : Prop where
  edits_fit : RowEdit.AllFit rows plan.edits
  rows_after : plan.edits.foldl RowEdit.rowsAfter rows = source.count
  changed_lt : ∀ i ∈ plan.changedRows, i < source.count

/-- A plan that was made from a queue, given the number of rows before it and the number after. -/
structure Collected [BEq K] (plan : DeltaPlan) (pending : List (PendingEdit K)) (rows rows' : Nat)
    (source : RowSource R) : Prop where
  edits_eq : plan.edits = pending.flatMap PendingEdit.rowEdits
  edits_fit : RowEdit.AllFit rows plan.edits
  rows_after : plan.edits.foldl RowEdit.rowsAfter rows = rows'
  changed_lt : ∀ i ∈ plan.changedRows, i < source.count
  changed_mem : ∀ key, .itemChanged key ∈ pending → ∀ i ∈ source.places key, i ∈ plan.changedRows
  replayable : ∀ edit ∈ pending, edit.Replayable

theorem rowsAfter_eq_ok {change : CollectionChange} (h : change.rowsAfter rows = .ok rows') :
    RowEdit.AllFit rows change.rowEdits ∧ change.rowEdits.foldl RowEdit.rowsAfter rows = rows' ∧
      (PendingEdit.collection change : PendingEdit K).Replayable := by
  cases change with
  | add start count =>
    simp only [CollectionChange.rowsAfter] at h
    split at h
    · rename_i hfit
      exact ⟨⟨hfit, trivial⟩, Except.ok.inj h, trivial⟩
    · cases h
  | remove start count =>
    simp only [CollectionChange.rowsAfter] at h
    split at h
    · rename_i hfit
      exact ⟨⟨hfit, trivial⟩, Except.ok.inj h, trivial⟩
    · cases h
  | replace start removed added =>
    simp only [CollectionChange.rowsAfter] at h
    split at h
    · rename_i hfit
      have hinsert : start ≤ rows - removed := by omega
      exact ⟨⟨hfit, hinsert, trivial⟩, Except.ok.inj h, trivial⟩
    · cases h
  | move source target count => cases h
  | reset => cases h

section Check

variable [BEq K] {pending : List (PendingEdit K)}

theorem lt_of_mem_places {key : K} {i : Nat} (h : i ∈ source.places key) : i < source.count :=
  List.mem_range.mp (List.mem_filter.mp h).1

theorem places_of_locate {key : K} :
    (source.locate key = .missing → source.places key = []) ∧
      ∀ i, source.locate key = .unique i → source.places key = [i] := by
  unfold RowSource.locate
  constructor
  · intro h
    split at h <;> first | assumption | cases h
  · intro i h
    split at h
    · cases h
    · cases h
      assumption
    · cases h

/-- A change in front of a queue that was checked from the rows it leaves. -/
theorem Collected.consChange {change : CollectionChange} {between : Nat}
    (h : Collected plan pending between rows' source)
    (hbetween : change.rowsAfter rows = .ok between) :
    Collected { plan with edits := change.rowEdits ++ plan.edits }
      (.collection change :: pending) rows rows' source := by
  obtain ⟨hfit, hafter, hreplayable⟩ := rowsAfter_eq_ok (K := K) hbetween
  refine ⟨?_, ?_, ?_, h.changed_lt, ?_, ?_⟩
  · rw [List.flatMap_cons, ← h.edits_eq]
    rfl
  · rw [RowEdit.allFit_append, hafter]
    exact ⟨hfit, h.edits_fit⟩
  · rw [List.foldl_append, hafter]
    exact h.rows_after
  · intro key hmem
    exact h.changed_mem key (by simpa using hmem)
  · exact List.forall_mem_cons.mpr ⟨hreplayable, h.replayable⟩

/-- A changed row in front of a checked queue; its places may be added to the changed rows. -/
theorem Collected.consItem {key : K} {changed : List Nat}
    (h : Collected plan pending rows rows' source) (hkept : ∀ i ∈ plan.changedRows, i ∈ changed)
    (hplaces : ∀ i ∈ source.places key, i ∈ changed) (hlt : ∀ i ∈ changed, i < source.count) :
    Collected { plan with changedRows := changed } (.itemChanged key :: pending) rows rows'
      source := by
  refine ⟨h.edits_eq, h.edits_fit, h.rows_after, hlt, ?_,
    List.forall_mem_cons.mpr ⟨trivial, h.replayable⟩⟩
  intro key' hmem i hi
  rcases List.mem_cons.mp hmem with heq | hmem
  · cases heq
    exact hplaces i hi
  · exact hkept i (h.changed_mem key' hmem i hi)

theorem collect_eq_ok (h : collect source rows pending = .ok (plan, rows')) :
    Collected plan pending rows rows' source := by
  induction pending generalizing rows plan with
  | nil =>
    cases h
    exact ⟨rfl, trivial, rfl, by simp, by simp, by simp⟩
  | cons edit rest ih =>
    cases edit with
    | collection change =>
      simp only [collect] at h
      split at h
      · cases h
      · rename_i between hbetween
        obtain ⟨⟨plan', last⟩, hcollect, heq⟩ := exists_of_map_eq_ok h
        cases heq
        exact (ih hcollect).consChange hbetween
    | itemChanged key =>
      simp only [collect] at h
      split at h
      · cases h
      · -- a key without a row has no places
        rename_i hmissing
        have hrest := ih h
        refine hrest.consItem (fun i hi => hi) (fun i hi => ?_) hrest.changed_lt
        rw [places_of_locate.1 hmissing] at hi
        cases hi
      · rename_i row hunique
        obtain ⟨⟨plan', last⟩, hcollect, heq⟩ := exists_of_map_eq_ok h
        cases heq
        have hrest := ih hcollect
        have hplaces := places_of_locate.2 row hunique
        have hmem : row ∈ source.places key := by
          rw [hplaces]
          exact List.mem_singleton_self row
        refine hrest.consItem (fun i hi => List.mem_cons_of_mem _ hi) (fun i hi => ?_) ?_
        · rw [hplaces] at hi
          exact List.mem_cons.mpr (Or.inl (List.mem_singleton.mp hi))
        · exact List.forall_mem_cons.mpr ⟨lt_of_mem_places hmem, hrest.changed_lt⟩
    | overflow => cases h

theorem validate_eq_ok (h : validate pending rows source = .ok plan) :
    Collected plan pending rows source.count source := by
  unfold validate at h
  split at h
  · cases h
  · rename_i plan' last hcollect
    split at h
    · rename_i hcount
      cases h
      rw [← hcount]
      exact collect_eq_ok hcollect
    · cases h

theorem Collected.fits (h : Collected plan pending rows source.count source) :
    plan.Fits rows source :=
  ⟨h.edits_fit, h.rows_after, h.changed_lt⟩

end Check

/-! ## Replay -/

/-- The dirty rows lie in the table after the edits. -/
theorem Fits.dirtyRows_within (h : plan.Fits rows source) :
    plan.dirtyRows.Within source.count := by
  -- The dirty rows depend on the number of rows alone, so any full table of that size will do.
  let base : RowSource Unit := ⟨rows, fun _ => some ()⟩
  have hfull : base.Full := fun i _ => Option.some_ne_none ()
  have hcount : (plan.edits.foldl RowEdit.perform base).count = source.count := by
    rw [RowEdit.count_foldl_perform]
    exact h.rows_after
  refine ⟨canonical_dirtyRows hfull h.edits_fit, fun n hn => ?_⟩
  rcases (covers_dirtyRows hfull h.edits_fit n).mp hn with ⟨hlt, -⟩ | hchanged
  · rwa [hcount] at hlt
  · exact h.changed_lt n hchanged

theorem foldl_refreshRows_results {ranges : List Interval}
    (hranges : ∀ r ∈ ranges, r.start < r.stop ∧ r.stop ≤ s.count) {a : Applied K}
    (ha : a.results = (fullScan s columns scope).1) :
    (ranges.foldl (refreshRows source columns scope) a).results =
      (fullScan (ranges.foldl source.patch s) columns scope).1 := by
  induction ranges generalizing a s with
  | nil => exact ha
  | cons rows rest ih =>
    obtain ⟨hproper, hstop⟩ := hranges rows List.mem_cons_self
    -- the table to go on with has the new rows in this range already
    refine ih (s := source.patch s rows) (fun r hr => hranges r (List.mem_cons_of_mem _ hr)) ?_
    simp only [refreshRows, ha]
    exact spliceRows_fullScan (le_of_lt hproper) hstop

/-- Replay on the results of the table before gives the results of the edited table with the dirty
rows taken from the new one. -/
theorem apply_fullScan_patch (h : plan.Fits base.count source) :
    (plan.apply (fullScan base columns scope).1 source columns scope).results =
      ((fullScan (plan.dirtyRows.ranges.foldl source.patch
        (plan.edits.foldl RowEdit.perform base)) columns scope).1 : ResultSet K) := by
  have hcount : (plan.edits.foldl RowEdit.perform base).count = source.count := by
    rw [RowEdit.count_foldl_perform, h.rows_after]
  refine foldl_refreshRows_results ?_ (movedResults_fullScan h.edits_fit)
  rw [hcount]
  exact fun r hr => h.dirtyRows_within.stop_le hr

/-- If the edited table and the new one agree outside the dirty rows, replay on the results of
the table before gives the results of the new one. -/
theorem apply_fullScan (h : plan.Fits base.count source) (hfull : base.Full)
    (hsame : ∀ i, i < source.count → i ∉ plan.changedRows →
      (plan.edits.foldl RowEdit.perform base).row? i ≠ none →
      (plan.edits.foldl RowEdit.perform base).row? i = source.row? i) :
    (plan.apply (fullScan base columns scope).1 source columns scope).results =
      ((fullScan source columns scope).1 : ResultSet K) := by
  have hcount : (plan.edits.foldl RowEdit.perform base).count = source.count := by
    rw [RowEdit.count_foldl_perform, h.rows_after]
  rw [apply_fullScan_patch h]
  apply fullScan_congr
  · rw [RowSource.count_foldl_patch, hcount]
  · intro i hi
    rw [RowSource.row?_foldl_patch]
    -- a dirty row was evaluated in the new table, and a clean one is the same in both
    by_cases hdirty : Interval.covers plan.dirtyRows.ranges i = true
    · rw [if_pos hdirty]
    · rw [if_neg hdirty]
      rw [covers_dirtyRows hfull h.edits_fit, not_or, hcount] at hdirty
      exact hsame i hi hdirty.2 fun hnone => hdirty.1 ⟨hi, hnone⟩

/-! ## Order -/

theorem movedResults_inOrder {results : ResultSet K} (hfit : RowEdit.AllFit rows plan.edits)
    (horder : results.InOrder) (hbelow : results.Below rows) :
    (plan.movedResults results).InOrder ∧
      (plan.movedResults results).Below (plan.edits.foldl RowEdit.rowsAfter rows) := by
  unfold movedResults
  generalize plan.edits = edits at hfit
  induction edits generalizing rows results with
  | nil => exact ⟨horder, hbelow⟩
  | cons edit rest ih =>
    obtain ⟨hedit, hrest⟩ := hfit
    cases edit with
    | insert start count =>
      exact ih (ResultSet.rowOrder_precedes.insertRows horder start count)
        (hbelow.insertRows horder.rowsSorted start count) hrest
    | delete start count =>
      exact ih (ResultSet.rowOrder_precedes.removeRows horder start count)
        (hbelow.removeRows horder.rowsSorted hedit) hrest

theorem foldl_refreshRows_inOrder (hcolumns : columns.columns.Pairwise fun a b => a.index < b.index)
    (hscope : scope.entries.Pairwise fun a b => a.1 < b.1) {ranges : List Interval}
    (hranges : ∀ r ∈ ranges, r.start < r.stop ∧ r.stop ≤ rows) {a : Applied K}
    (horder : a.results.InOrder) (hbelow : a.results.Below rows) :
    (ranges.foldl (refreshRows source columns scope) a).results.InOrder ∧
      (ranges.foldl (refreshRows source columns scope) a).results.Below rows := by
  induction ranges generalizing a with
  | nil => exact ⟨horder, hbelow⟩
  | cons window rest ih =>
    obtain ⟨hproper, hstop⟩ := hranges window List.mem_cons_self
    have hle := le_of_lt hproper
    have hwithin : ∀ r ∈ (evaluateRows source columns scope window).1,
        window.start ≤ r.row ∧ (r : SearchResult K).row < window.stop :=
      fun r hr => row_of_mem_evaluateRows hle hr
    have hfresh : ((evaluateRows source columns scope window).1 :
        List (SearchResult K)).Pairwise SearchResult.Precedes := by
      rw [evaluateRows_results]
      exact resultsIn_inOrder hcolumns hscope
    refine ih (fun r hr => hranges r (List.mem_cons_of_mem _ hr)) ?_ ?_
    · exact ResultSet.rowOrder_precedes.spliceRows horder hle hfresh hwithin
    · exact hbelow.spliceRows horder.rowsSorted hle
        fun r hr => lt_of_lt_of_le (hwithin r hr).2 hstop

/-- Replay keeps the results in order and inside the table, whether or not the queue says what
happened. -/
theorem apply_inOrder (h : plan.Fits rows source)
    (hcolumns : columns.columns.Pairwise fun a b => a.index < b.index)
    (hscope : scope.entries.Pairwise fun a b => a.1 < b.1) {results : ResultSet K}
    (horder : results.InOrder) (hbelow : results.Below rows) :
    (plan.apply results source columns scope).results.InOrder ∧
      (plan.apply results source columns scope).results.Below source.count := by
  obtain ⟨hmoved, hin⟩ := movedResults_inOrder h.edits_fit horder hbelow
  rw [h.rows_after] at hin
  exact foldl_refreshRows_inOrder hcolumns hscope (fun r hr => h.dirtyRows_within.stop_le hr)
    hmoved hin

end DeltaPlan

end CellSearch
