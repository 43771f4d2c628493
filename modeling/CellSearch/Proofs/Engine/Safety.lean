import Mathlib
import CellSearch.Proofs.Column.Binding
import CellSearch.Proofs.Engine.Bounds

/-!
# Safety of accepted queues

A queue that the check accepts can be replayed without looking again. The replay is made once more
of checked operations (`DeltaPlan.replay?`), and on sorted results inside the table that the check
started from none of them fails (`DeltaPlan.Fits.replay?_eq`). While the edits are made, the results
and the dirty rows lie below the number of rows at that time (`Replaying`). While dirty rows are
refreshed, everything that was counted lies before the next of them (`Progress`).
-/

namespace CellSearch

variable {R K : Type}

/-- A loop does not fail if no step does, under an invariant of the state and of what is left. -/
theorem foldlM_eq_some {α β : Type} {step? : β → α → Option β} {step : β → α → β}
    {inv : β → List α → Prop}
    (hstep : ∀ b x rest, inv b (x :: rest) → step? b x = some (step b x) ∧ inv (step b x) rest)
    {xs : List α} {b : β} (h : inv b xs) :
    xs.foldlM step? b = some (xs.foldl step b) ∧ inv (xs.foldl step b) [] := by
  induction xs generalizing b with
  | nil => exact ⟨rfl, h⟩
  | cons x rest ih =>
    have hx := hstep b x rest h
    rw [List.foldlM_cons, hx.1]
    exact ih hx.2

/-! ## Numbers of rows -/

/-- The number of rows fits a machine word at each time of a replay. -/
def CountsFit (rows : Nat) (pending : List (PendingEdit K)) : Prop :=
  ∀ front back, pending = front ++ back → front.foldl PendingEdit.countAfter rows ≤ maxWord

/-- The number of rows fits a machine word before and after each edit. -/
def RowEdit.CountsFit : Nat → List RowEdit → Prop
  | rows, [] => rows ≤ maxWord
  | rows, edit :: rest => rows ≤ maxWord ∧ CountsFit (edit.rowsAfter rows) rest

theorem RowEdit.CountsFit.le {rows : Nat} {edits : List RowEdit} (h : CountsFit rows edits) :
    rows ≤ maxWord := by
  cases edits with
  | nil => exact h
  | cons edit rest => exact h.1

theorem RowEdit.CountsFit.foldl_le {rows : Nat} {edits : List RowEdit}
    (h : CountsFit rows edits) : edits.foldl rowsAfter rows ≤ maxWord := by
  induction edits generalizing rows with
  | nil => exact h
  | cons edit rest ih => exact ih h.2

theorem countsFit_nil_iff {rows : Nat} :
    CountsFit rows ([] : List (PendingEdit K)) ↔ rows ≤ maxWord := by
  constructor
  · intro h
    exact h [] [] rfl
  · intro h front back hcut
    rw [(List.append_eq_nil_iff.mp hcut.symm).1]
    exact h

theorem countsFit_cons_iff {rows : Nat} {edit : PendingEdit K} {rest : List (PendingEdit K)} :
    CountsFit rows (edit :: rest) ↔
      rows ≤ maxWord ∧ CountsFit (edit.countAfter rows) rest := by
  constructor
  · intro h
    refine ⟨h [] (edit :: rest) rfl, ?_⟩
    intro front back hcut
    exact h (edit :: front) back (by rw [hcut, List.cons_append])
  · rintro ⟨hrows, hrest⟩ front back hcut
    rcases List.cons_eq_append_iff.mp hcut with ⟨rfl, -⟩ | ⟨front', rfl, heq⟩
    · exact hrows
    · exact hrest front' back heq

/-- What the reports of a queue do one by one, their insertions and deletions do one by one. -/
theorem CountsFit.rowEdits {rows : Nat} {pending : List (PendingEdit K)}
    (h : CountsFit rows pending) :
    RowEdit.CountsFit rows (pending.flatMap PendingEdit.rowEdits) := by
  induction pending generalizing rows with
  | nil => exact countsFit_nil_iff.mp h
  | cons edit rest ih =>
    rcases countsFit_cons_iff.mp h with ⟨hrows, hrest⟩
    have htail := ih hrest
    rw [List.flatMap_cons]
    cases edit with
    | collection change =>
      cases change with
      | add start count => exact ⟨hrows, htail⟩
      | remove start count => exact ⟨hrows, htail⟩
      | replace start removed added =>
        exact ⟨hrows, le_trans (Nat.sub_le rows removed) hrows, htail⟩
      | move origin target count => exact htail
      | reset => exact htail
    | itemChanged key => exact htail
    | overflow => exact htail

/-! ## Edits -/

/-- The results and the dirty rows while the edits are made, when the table has `rows` rows. -/
structure Replaying (state : ResultSet K × DirtyRows) (rows : Nat) : Prop where
  sorted : state.1.RowsSorted
  below : state.1.Below rows
  dirty : state.2.Within rows

namespace DeltaPlan

variable {plan : DeltaPlan} {rows : Nat}

def replayEdit (state : ResultSet K × DirtyRows) : RowEdit → ResultSet K × DirtyRows
  | .insert start count => (state.1.insertRows start count, state.2.insert start count)
  | .delete start count => ((state.1.removeRows start count).1, state.2.remove start count)

def replayEdit? (state : ResultSet K × DirtyRows) :
    RowEdit → Option (ResultSet K × DirtyRows)
  | .insert start count => do
    let results ← state.1.insertRows? start count
    let dirty ← state.2.insert? start count
    some (results, dirty)
  | .delete start count => do
    let (results, _) ← state.1.removeRows? start count
    let dirty ← state.2.remove? start count
    some (results, dirty)

theorem foldl_replayEdit (edits : List RowEdit) (changed : List Nat) (results : ResultSet K)
    (d : DirtyRows) : edits.foldl replayEdit (results, d) =
      (movedResults ⟨edits, changed⟩ results, edits.foldl editDirty d) := by
  induction edits generalizing results d with
  | nil => rfl
  | cons edit rest ih =>
    cases edit with
    | insert start count => exact ih _ _
    | delete start count => exact ih _ _

/-- An edit that fits fails nowhere, and the next finds the results and dirty rows as it needs
them. -/
theorem replayEdit?_eq {state : ResultSet K × DirtyRows} {edit : RowEdit}
    (h : Replaying state rows) (hfit : edit.Fits rows) (hrows : rows ≤ maxWord)
    (hafter : edit.rowsAfter rows ≤ maxWord) :
    replayEdit? state edit = some (replayEdit state edit) ∧
      Replaying (replayEdit state edit) (edit.rowsAfter rows) := by
  cases edit with
  | insert start count =>
    have hstart : start ≤ rows := hfit
    have hmax : rows + count ≤ maxWord := hafter
    have hresults : state.1.insertRows? start count = some (state.1.insertRows start count) := by
      apply ResultSet.insertRows?_eq h.sorted
      intro r hr _
      have hlt := h.below r hr
      omega
    have hdirty := h.dirty.insert?_eq hstart hmax
    constructor
    · simp only [replayEdit?, replayEdit, hresults, hdirty, Option.bind_eq_bind, Option.bind_some]
    · exact ⟨ResultSet.rowOrder_le.insertRows h.sorted start count,
        h.below.insertRows h.sorted start count, h.dirty.insert hstart⟩
  | delete start count =>
    have hstop : start + count ≤ rows := hfit
    have hmax : start + count ≤ maxWord := le_trans hstop hrows
    have hresults := ResultSet.removeRows?_eq h.sorted hmax
    have hdirty := DirtyRows.remove?_eq (d := state.2) hmax
    constructor
    · simp only [replayEdit?, replayEdit, hresults, hdirty, Option.bind_eq_bind, Option.bind_some]
    · exact ⟨ResultSet.rowOrder_le.removeRows h.sorted start count,
        h.below.removeRows h.sorted hstop, h.dirty.remove hstop⟩

/-- No edit of a replay fails. -/
theorem foldlM_replayEdit? {edits : List RowEdit} {state : ResultSet K × DirtyRows}
    (h : Replaying state rows) (hfit : RowEdit.AllFit rows edits)
    (hcounts : RowEdit.CountsFit rows edits) :
    edits.foldlM replayEdit? state = some (edits.foldl replayEdit state) ∧
      Replaying (edits.foldl replayEdit state) (edits.foldl RowEdit.rowsAfter rows) := by
  -- what is left fits from the number of rows now, and leads to the same number at the end
  let inv := fun (state : ResultSet K × DirtyRows) (rest : List RowEdit) =>
    ∃ now, Replaying state now ∧ RowEdit.AllFit now rest ∧ RowEdit.CountsFit now rest ∧
      rest.foldl RowEdit.rowsAfter now = edits.foldl RowEdit.rowsAfter rows
  have hstep : ∀ state edit rest, inv state (edit :: rest) →
      replayEdit? state edit = some (replayEdit state edit) ∧
        inv (replayEdit state edit) rest := by
    rintro state edit rest ⟨now, hstate, hfit, hcounts, hend⟩
    have hedit := replayEdit?_eq hstate hfit.1 hcounts.le hcounts.2.le
    exact ⟨hedit.1, edit.rowsAfter now, hedit.2, hfit.2, hcounts.2, hend⟩
  have hstart : inv state edits := ⟨rows, h, hfit, hcounts, rfl⟩
  rcases foldlM_eq_some hstep hstart with ⟨hsome, last, hlast, -, -, hend⟩
  rw [← hend]
  exact ⟨hsome, hlast⟩

/-- No mark of a changed row fails. -/
theorem foldlM_mark? {d : DirtyRows} {changed : List Nat} (h : d.Within rows)
    (hrows : rows ≤ maxWord) (hchanged : ∀ i ∈ changed, i < rows) :
    changed.foldlM DirtyRows.mark? d =
        some (changed.foldl (fun d row => d.mark ⟨row, row + 1⟩) d) ∧
      (changed.foldl (fun d row => d.mark ⟨row, row + 1⟩) d).Within rows := by
  let inv := fun (d : DirtyRows) (rest : List Nat) => d.Within rows ∧ ∀ i ∈ rest, i < rows
  have hstep : ∀ d i rest, inv d (i :: rest) →
      d.mark? i = some (d.mark ⟨i, i + 1⟩) ∧ inv (d.mark ⟨i, i + 1⟩) rest := by
    rintro d i rest ⟨hd, hlt⟩
    rw [List.forall_mem_cons] at hlt
    exact ⟨DirtyRows.mark?_eq (le_trans hlt.1 hrows), hd.mark hlt.1, hlt.2⟩
  have hstart : inv d changed := ⟨h, hchanged⟩
  have hrun := foldlM_eq_some hstep hstart
  exact ⟨hrun.1, hrun.2.1⟩

end DeltaPlan

/-! ## Dirty rows -/

namespace ResultSet

variable {s : ResultSet K} {n : Nat} {rows : Interval} {fresh : List (SearchResult K)}

/-- The number of results in the first `n` rows. -/
def countBelow (s : ResultSet K) (n : Nat) : Nat :=
  s.toList.countP fun r => r.row < n

theorem countBelow_le_size (s : ResultSet K) (n : Nat) : s.countBelow n ≤ s.size :=
  List.countP_le_length

/-- Results before a window stay where they are, and all fresh ones come before its end. -/
theorem RowsSorted.countBelow_spliceRows (hs : s.RowsSorted) (hn : n ≤ rows.start)
    (hle : rows.start ≤ rows.stop)
    (hin : ∀ r ∈ fresh, rows.start ≤ r.row ∧ r.row < rows.stop) :
    s.countBelow n + fresh.length ≤ (s.spliceRows rows fresh).countBelow rows.stop := by
  rcases hs.exists_window rows.start rows.stop with ⟨a, b, c, habc, ha, hb, hc⟩
  have hbefore : s.countBelow n ≤ a.length := by
    have hnone : (b ++ c).countP (fun r => r.row < n) = 0 := by
      rw [List.countP_eq_zero]
      intro r hr
      have hge : rows.start ≤ r.row := by
        rcases List.mem_append.mp hr with hr | hr
        · exact (hb r hr).1
        · exact le_trans hle (hc r hr)
      simpa using le_trans hn hge
    rw [countBelow, habc, List.append_assoc, List.countP_append, hnone]
    exact List.countP_le_length
  have hfront : (a ++ fresh).countP (fun r => r.row < rows.stop) = (a ++ fresh).length := by
    rw [List.countP_eq_length]
    intro r hr
    rcases List.mem_append.mp hr with hr | hr
    · simpa using lt_of_lt_of_le (ha r hr) hle
    · simpa using (hin r hr).2
  calc s.countBelow n + fresh.length
      ≤ (a ++ fresh).length := by
        rw [List.length_append]
        exact Nat.add_le_add_right hbefore _
    _ = (a ++ fresh).countP (fun r => r.row < rows.stop) := hfront.symm
    _ ≤ (s.spliceRows rows fresh).countBelow rows.stop := by
        rw [countBelow, toList_spliceRows habc hle ha hb hc]
        exact List.Sublist.countP_le (List.sublist_append_left _ _)

end ResultSet

namespace DeltaPlan

variable [SearchRow R K] {source : RowSource R} {columns : ColumnSet R} {scope : ScopePlan}
variable {plan : DeltaPlan} {rows : Nat} {a : Applied K} {range : Interval}

/-- What has been evaluated lies before a row, and what has been counted is there. -/
structure Progress (a : Applied K) (row : Nat) : Prop where
  sorted : a.results.RowsSorted
  evaluated_le : a.rowsEvaluated ≤ row
  emitted_le : a.resultsEmitted ≤ a.results.countBelow row

/-- Dirty rows that must be rows of the source, with a plan that must visit bound columns. Results
are counted no further than there are results. -/
def refreshRows? (source : RowSource R) (columns : ColumnSet R) (scope : ScopePlan)
    (a : Applied K) (range : Interval) : Option (Applied K) :=
  if range.start ≤ range.stop ∧ range.stop ≤ source.count ∧
      (scope.entries.all fun entry => entry.1 < columns.columns.length) then do
    let (fresh, evaluated) := evaluateRows source columns scope range
    let rowsEvaluated ← sum? maxWord a.rowsEvaluated evaluated
    let results ← a.results.spliceRows? range fresh
    let resultsEmitted ← sum? results.size a.resultsEmitted fresh.length
    some ⟨results, rowsEvaluated, resultsEmitted⟩
  else none

/-- Refreshing rows behind what was evaluated fails nowhere, and goes on behind them. -/
theorem Progress.refreshRows?_eq (h : Progress a rows) (hbehind : rows ≤ range.start)
    (hle : range.start ≤ range.stop) (hstop : range.stop ≤ source.count)
    (hcount : source.count ≤ maxWord)
    (hscope : ∀ entry ∈ scope.entries, entry.1 < columns.columns.length) :
    refreshRows? source columns scope a range = some (refreshRows source columns scope a range) ∧
      Progress (refreshRows source columns scope a range) range.stop := by
  have hall : (scope.entries.all fun entry => entry.1 < columns.columns.length) = true := by
    simpa using hscope
  have hin : ∀ r ∈ (evaluateRows source columns scope range : List (SearchResult K) × Nat).1,
      range.start ≤ r.row ∧ r.row < range.stop := fun r hr => row_of_mem_evaluateRows hle hr
  have hsorted : (evaluateRows source columns scope range :
      List (SearchResult K) × Nat).1.Pairwise fun a b => a.row ≤ b.row :=
    evaluateRows_rowsSorted range
  have hevaluated : (evaluateRows source columns scope range :
      List (SearchResult K) × Nat).2 ≤ range.len := evaluateRows_count_le range
  unfold refreshRows? refreshRows
  rw [if_pos ⟨hle, hstop, hall⟩]
  generalize evaluateRows source columns scope range = found at hin hsorted hevaluated ⊢
  rcases found with ⟨fresh, evaluated⟩
  dsimp only at hin hsorted hevaluated ⊢
  have htotal : a.rowsEvaluated + evaluated ≤ range.stop := by
    have hbefore := h.evaluated_le
    rw [Interval.len] at hevaluated
    omega
  have hemitted : a.resultsEmitted + fresh.length ≤
      (a.results.spliceRows range fresh).countBelow range.stop :=
    le_trans (Nat.add_le_add_right h.emitted_le _) (h.sorted.countBelow_spliceRows hbehind hle hin)
  have hsum := sum?_eq (le_trans htotal (le_trans hstop hcount))
  have hresults := ResultSet.spliceRows?_eq (h.sorted.lowerBound_mono hle) hin
  have hfound := sum?_eq (le_trans hemitted (ResultSet.countBelow_le_size _ _))
  constructor
  · simp only [hsum, hresults, hfound, Option.bind_eq_bind, Option.bind_some]
  · exact ⟨ResultSet.rowOrder_le.spliceRows h.sorted hle hsorted hin, htotal, hemitted⟩

/-- No refreshing of dirty rows fails. -/
theorem foldlM_refreshRows? {d : DirtyRows} {results : ResultSet K} (hs : results.RowsSorted)
    (hd : d.Within source.count) (hcount : source.count ≤ maxWord)
    (hscope : ∀ entry ∈ scope.entries, entry.1 < columns.columns.length) :
    d.ranges.foldlM (refreshRows? source columns scope) ⟨results, 0, 0⟩ =
      some (d.ranges.foldl (refreshRows source columns scope) ⟨results, 0, 0⟩) := by
  -- what is left lies behind what was evaluated
  let inv := fun (a : Applied K) (rest : List Interval) =>
    ∃ row, Progress a row ∧ (∀ r ∈ rest, row ≤ r.start) ∧ Interval.Canonical rest ∧
      ∀ r ∈ rest, r.stop ≤ source.count
  have hstep : ∀ a range rest, inv a (range :: rest) →
      refreshRows? source columns scope a range =
          some (refreshRows source columns scope a range) ∧
        inv (refreshRows source columns scope a range) rest := by
    rintro a range rest ⟨row, hprogress, hbehind, hcanonical, hstop⟩
    rw [List.forall_mem_cons] at hbehind hstop
    have hproper := hcanonical.proper range List.mem_cons_self
    have hgap := (List.pairwise_cons.mp hcanonical.separated).1
    have hrange := hprogress.refreshRows?_eq hbehind.1 (le_of_lt hproper) hstop.1 hcount hscope
    refine ⟨hrange.1, range.stop, hrange.2, ?_, hcanonical.tail, hstop.2⟩
    intro r hr
    exact le_of_lt (hgap r hr)
  have hstart : inv ⟨results, 0, 0⟩ d.ranges := by
    refine ⟨0, ⟨hs, le_refl 0, Nat.zero_le _⟩, fun r _ => Nat.zero_le _, hd.canonical, ?_⟩
    intro r hr
    exact (hd.stop_le hr).2
  exact (foldlM_eq_some hstep hstart).1

/-! ## Replay -/

/-- A replay of checked operations. -/
def replay? (plan : DeltaPlan) (results : ResultSet K) (source : RowSource R)
    (columns : ColumnSet R) (scope : ScopePlan) : Option (Applied K) := do
  let (moved, edited) ← plan.edits.foldlM replayEdit? (results, DirtyRows.empty)
  let dirty ← plan.changedRows.foldlM DirtyRows.mark? edited
  dirty.ranges.foldlM (refreshRows? source columns scope) ⟨moved, 0, 0⟩

/-- A plan that fits is replayed without a failure. -/
theorem Fits.replay?_eq (h : plan.Fits rows source) (hcounts : RowEdit.CountsFit rows plan.edits)
    {results : ResultSet K} (hs : results.RowsSorted) (hb : results.Below rows)
    (hscope : ∀ entry ∈ scope.entries, entry.1 < columns.columns.length) :
    plan.replay? results source columns scope = some (plan.apply results source columns scope) := by
  have hstart : Replaying (results, DirtyRows.empty) rows :=
    ⟨hs, hb, DirtyRows.within_empty rows⟩
  have hcount : source.count ≤ maxWord := by
    rw [← h.rows_after]
    exact hcounts.foldl_le
  rcases foldlM_replayEdit? hstart h.edits_fit hcounts with ⟨hedits, hreplayed⟩
  rw [h.rows_after, foldl_replayEdit _ plan.changedRows] at hreplayed
  rw [foldl_replayEdit _ plan.changedRows] at hedits
  rcases foldlM_mark? hreplayed.dirty hcount h.changed_lt with ⟨hmarks, hdirty⟩
  have hranges := foldlM_refreshRows? hreplayed.sorted hdirty hcount hscope
  rw [replay?, hedits]
  dsimp only [Option.bind_eq_bind, Option.bind_some]
  rw [hmarks]
  exact hranges

section Check

variable [DecidableEq K]

/-- A queue is accepted exactly if it can be followed, and is refused for its first offence or,
without one, for the number of rows that it leads to. What is accepted is replayed without a
failure on any sorted results inside the table before, evaluates rows of the table after only, and
puts fresh results into the rows that they are from. -/
theorem accepted_safe (pending : List (PendingEdit K)) (baseline : Nat) (source : RowSource R) :
    ((∃ plan, validate pending baseline source = .ok plan) ↔
      Acceptable source baseline pending) ∧
    (∀ reason, validate pending baseline source = .error reason ↔
      FirstOffence source baseline pending reason ∨
        Unoffending source baseline pending ∧
          pending.foldl PendingEdit.countAfter baseline ≠ source.count ∧
          reason = .rowCountMismatch (pending.foldl PendingEdit.countAfter baseline)
            source.count) ∧
    ∀ plan, validate pending baseline source = .ok plan → CountsFit baseline pending →
      ∀ (columns : ColumnSet R) (prepared : List Prepared) (results : ResultSet K),
        results.RowsSorted → results.Below baseline →
        plan.replay? results source columns (.build columns prepared) =
            some (plan.apply results source columns (.build columns prepared)) ∧
          ∀ range ∈ plan.dirtyRows.ranges,
            range.start < range.stop ∧ range.stop ≤ source.count ∧
              ∀ fresh ∈ (evaluateRows source columns (.build columns prepared) range).1,
                range.start ≤ fresh.row ∧ fresh.row < range.stop := by
  refine ⟨exists_plan_iff, fun reason => validate_eq_error_iff, ?_⟩
  intro plan hplan hcounts columns prepared results hs hb
  have hcollected := validate_eq_ok hplan
  have hedits : RowEdit.CountsFit baseline plan.edits := by
    rw [hcollected.edits_eq]
    exact hcounts.rowEdits
  have hscope : ∀ entry ∈ (ScopePlan.build columns prepared).entries,
      entry.1 < columns.columns.length :=
    fun entry hentry => ScopePlan.lt_of_mem_build_entries hentry
  refine ⟨hcollected.fits.replay?_eq hedits hs hb hscope, ?_⟩
  intro range hrange
  have hwithin := hcollected.fits.dirtyRows_within.stop_le hrange
  refine ⟨hwithin.1, hwithin.2, ?_⟩
  intro fresh hfresh
  exact row_of_mem_evaluateRows (le_of_lt hwithin.1) hfresh

/-- A replacement at the front, a removal, an insertion behind the last row, one of no rows, and a
changed row: two results of the three rows before are moved or dropped. -/
theorem accepted_safe_five_edits :
    let pending : List (PendingEdit String) :=
      [.collection (.replace 0 1 2), .collection (.remove 1 1), .collection (.add 3 1),
        .collection (.add 4 0), .itemChanged "c"]
    let source : RowSource String := .ofList ["x", "b", "c", "d"]
    let columns : ColumnSet String := ⟨[⟨"name", 0, true, some⟩], []⟩
    let scope : ScopePlan := .build columns [.ofDescriptor { query := "c" }]
    let results : ResultSet String :=
      .ofList [⟨"ac", 0, "name", 0, "ac", [⟨1, 2⟩]⟩, ⟨"c", 2, "name", 0, "c", [⟨0, 1⟩]⟩]
    let plan : DeltaPlan :=
      ⟨[.delete 0 1, .insert 0 2, .delete 1 1, .insert 3 1, .insert 4 0], [2]⟩
    validate pending 3 source = .ok plan ∧ CountsFit 3 pending ∧ results.RowsSorted ∧
      results.Below 3 ∧ plan.dirtyRows.ranges = [⟨0, 1⟩, ⟨2, 4⟩] ∧
      plan.replay? results source columns scope =
        some (plan.apply results source columns scope) := by
  intro pending source columns scope results plan
  have hplan : validate pending 3 source = .ok plan := by decide
  have hcounts : CountsFit 3 pending := by
    simp [pending, countsFit_cons_iff, countsFit_nil_iff, PendingEdit.countAfter, maxWord]
  have hsorted : results.RowsSorted := by
    simp [results, ResultSet.RowsSorted]
  have hbelow : results.Below 3 := by
    simp [results, ResultSet.Below]
  have hsafe := (accepted_safe pending 3 source).2.2 plan hplan hcounts columns
    [.ofDescriptor { query := "c" }] results hsorted hbelow
  exact ⟨hplan, hcounts, hsorted, hbelow, by cbv, hsafe.1⟩

end Check

end DeltaPlan

end CellSearch
