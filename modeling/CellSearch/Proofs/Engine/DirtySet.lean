import Mathlib
import CellSearch.Proofs.Engine.Safety

/-!
# The set of dirty rows

The ranges of dirty rows stand for the set of the rows in them (`DirtyRows.rowSet`). What an
operation does is said here of the set alone (`Operation.onRows`), without ranges: an insertion
moves rows up and adds the new ones, a removal drops rows and moves the later ones down, a mark adds
rows.

* `DirtyRows.rowSet_perform` — an operation on the ranges is the operation on their set;
* `DirtyRows.run_denotes` — whatever the operations are, the ranges neither overlap nor touch, and
  stand for what the operations make of no rows; where no number leaves a machine word, checked
  operations come to the same ranges.

The replay of a plan is such a run (`DeltaPlan.dirtyRows_eq_run`).
-/

namespace CellSearch

namespace DirtyRows

open CellSearch.Interval

variable {d : DirtyRows} {n : Nat}

/-- The rows in the ranges. -/
def rowSet (d : DirtyRows) : Set Nat :=
  ⋃ r ∈ d.ranges, Set.Ico r.start r.stop

theorem mem_rowSet : n ∈ d.rowSet ↔ covers d.ranges n = true := by
  simp only [rowSet, Set.mem_iUnion, Set.mem_Ico, covers_iff, contains_iff, exists_prop]

theorem lt_of_mem_rowSet {limit : Nat} (h : ∀ r ∈ d.ranges, r.stop ≤ limit) (hn : n ∈ d.rowSet) :
    n < limit := by
  rcases covers_iff.mp (mem_rowSet.mp hn) with ⟨r, hr, hin⟩
  exact lt_of_lt_of_le (contains_iff.mp hin).2 (h r hr)

@[simp] theorem rowSet_empty : empty.rowSet = ∅ := by
  simp [rowSet, empty]

/-! ## Operations -/

/-- An operation on dirty rows. -/
inductive Operation where
  | insert (start count : Nat)
  | remove (start count : Nat)
  | mark (range : Interval)
deriving DecidableEq, Repr

/-- What an operation does to a set of rows. -/
def Operation.onRows (rows : Set Nat) : Operation → Set Nat
  | insert start count =>
    (fun i => if i < start then i else i + count) '' rows ∪ Set.Ico start (start + count)
  | remove start count =>
    (fun i => if i < start then i else i - count) '' (rows \ Set.Ico start (start + count))
  | mark range => rows ∪ Set.Ico range.start range.stop

/-- What an operation does to dirty rows. -/
def perform (d : DirtyRows) : Operation → DirtyRows
  | .insert start count => d.insert start count
  | .remove start count => d.remove start count
  | .mark range => d.mark range

theorem rowSet_insert (d : DirtyRows) (start count : Nat) :
    (d.insert start count).rowSet = (Operation.insert start count).onRows d.rowSet := by
  ext n
  simp only [mem_rowSet, covers_insert, Operation.onRows, Set.mem_union, Set.mem_image, Set.mem_Ico]
  constructor
  · rintro (⟨hlt, hn⟩ | hnew | ⟨hge, hn⟩)
    · exact .inl ⟨n, hn, if_pos hlt⟩
    · exact .inr hnew
    · refine .inl ⟨n - count, hn, ?_⟩
      rw [if_neg (by omega)]
      omega
  · rintro (⟨i, hi, rfl⟩ | hnew)
    · by_cases hlt : i < start
      · rw [if_pos hlt]
        exact .inl ⟨hlt, hi⟩
      · rw [if_neg hlt, Nat.add_sub_cancel]
        exact .inr (.inr ⟨by omega, hi⟩)
    · exact .inr (.inl hnew)

theorem rowSet_remove (d : DirtyRows) (start count : Nat) :
    (d.remove start count).rowSet = (Operation.remove start count).onRows d.rowSet := by
  ext n
  simp only [mem_rowSet, covers_remove, Operation.onRows, Set.mem_image, Set.mem_sdiff, Set.mem_Ico]
  constructor
  · rintro (⟨hlt, hn⟩ | ⟨hge, hn⟩)
    · exact ⟨n, ⟨hn, by omega⟩, if_pos hlt⟩
    · refine ⟨n + count, ⟨hn, by omega⟩, ?_⟩
      rw [if_neg (by omega), Nat.add_sub_cancel]
  · rintro ⟨i, ⟨hi, hkept⟩, rfl⟩
    by_cases hlt : i < start
    · rw [if_pos hlt]
      exact .inl ⟨hlt, hi⟩
    · -- a row that is kept and not before the window lies behind it
      rw [if_neg hlt, Nat.sub_add_cancel (by omega)]
      exact .inr ⟨by omega, hi⟩

theorem rowSet_mark (d : DirtyRows) (range : Interval) :
    (d.mark range).rowSet = (Operation.mark range).onRows d.rowSet := by
  ext n
  simp only [mem_rowSet, covers_mark, Bool.or_eq_true, contains_iff, Operation.onRows,
    Set.mem_union, Set.mem_Ico]

/-- An operation on dirty rows is the operation on their set. -/
theorem rowSet_perform (d : DirtyRows) (operation : Operation) :
    (d.perform operation).rowSet = operation.onRows d.rowSet := by
  cases operation with
  | insert start count => exact rowSet_insert d start count
  | remove start count => exact rowSet_remove d start count
  | mark range => exact rowSet_mark d range

theorem canonical_perform (h : Canonical d.ranges) (operation : Operation) :
    Canonical (d.perform operation).ranges := by
  cases operation with
  | insert start count => exact canonical_insert h start count
  | remove start count => exact canonical_remove h start count
  | mark range => exact canonical_mark d range

/-! ## Runs -/

/-- The dirty rows after some operations, with none before. -/
def run (operations : List Operation) : DirtyRows :=
  operations.foldl perform empty

theorem rowSet_foldl_perform (operations : List Operation) (d : DirtyRows) :
    (operations.foldl perform d).rowSet = operations.foldl Operation.onRows d.rowSet := by
  induction operations generalizing d with
  | nil => rfl
  | cons operation rest ih => rw [List.foldl_cons, List.foldl_cons, ih, rowSet_perform]

theorem canonical_foldl_perform (operations : List Operation) (h : Canonical d.ranges) :
    Canonical (operations.foldl perform d).ranges := by
  induction operations generalizing d with
  | nil => exact h
  | cons operation rest ih => exact ih (canonical_perform h operation)

theorem rowSet_run (operations : List Operation) :
    (run operations).rowSet = operations.foldl Operation.onRows ∅ := by
  rw [run, rowSet_foldl_perform, rowSet_empty]

theorem canonical_run (operations : List Operation) : Canonical (run operations).ranges :=
  canonical_foldl_perform operations canonical_empty

/-! ## Machine words -/

/-- The end of the rows that an operation names. -/
def Operation.stop : Operation → Nat
  | insert start count => start + count
  | remove start count => start + count
  | mark range => range.stop

/-- No end of the rows of an operation, and no row after it, leaves a machine word. -/
def StayInWord : Set Nat → List Operation → Prop
  | _, [] => True
  | rows, operation :: rest =>
    operation.stop ≤ maxWord ∧ (∀ n ∈ operation.onRows rows, n < maxWord) ∧
      StayInWord (operation.onRows rows) rest

/-- An operation in which no sum may leave a machine word, and no difference fall below zero. -/
def perform? (d : DirtyRows) : Operation → Option DirtyRows
  | .insert start count => d.insert? start count
  | .remove start count => d.remove? start count
  | .mark range => some (d.mark range)

theorem perform?_eq (h : Canonical d.ranges) {operation : Operation}
    (hstop : operation.stop ≤ maxWord) (hrows : ∀ n ∈ operation.onRows d.rowSet, n < maxWord) :
    d.perform? operation = some (d.perform operation) := by
  cases operation with
  | insert start count =>
    have hend : start + count ≤ maxWord := hstop
    -- rows before `start` leave room for `count` more as `start` does, the others where they go
    have hwithin : d.Within (maxWord - count) := by
      refine ⟨h, fun n hn => ?_⟩
      by_cases hlt : n < start
      · omega
      · have hmoved : n + count < maxWord :=
          hrows (n + count) (.inl ⟨n, mem_rowSet.mpr hn, if_neg hlt⟩)
        omega
    exact hwithin.insert?_eq (by omega) (by omega)
  | remove start count => exact remove?_eq hstop
  | mark range => rfl

/-- While the numbers stay in machine words, no checked operation of a run fails. -/
theorem foldlM_perform? {operations : List Operation} (h : StayInWord ∅ operations) :
    operations.foldlM perform? empty = some (run operations) := by
  let inv := fun (d : DirtyRows) (rest : List Operation) =>
    Canonical d.ranges ∧ StayInWord d.rowSet rest
  have hstep : ∀ d operation rest, inv d (operation :: rest) →
      d.perform? operation = some (d.perform operation) ∧ inv (d.perform operation) rest := by
    rintro d operation rest ⟨hcanonical, hstop, hrows, hrest⟩
    refine ⟨perform?_eq hcanonical hstop hrows, canonical_perform hcanonical operation, ?_⟩
    rw [rowSet_perform]
    exact hrest
  have hstart : inv empty operations := ⟨canonical_empty, by rwa [rowSet_empty]⟩
  exact (foldlM_eq_some hstep hstart).1

/-- After any operations no range is empty, each ends before the next begins with at least one row
between them, and together they hold the rows that the operations make of none. Checked operations
come to the same ranges while the numbers stay in machine words. -/
theorem run_denotes (operations : List Operation) :
    (∀ r ∈ (run operations).ranges, r.start < r.stop) ∧
      ((run operations).ranges.Pairwise fun a b => a.start < b.start ∧ a.stop < b.start) ∧
      (⋃ r ∈ (run operations).ranges, Set.Ico r.start r.stop) =
        operations.foldl Operation.onRows ∅ ∧
      (StayInWord ∅ operations →
        operations.foldlM perform? empty = some (run operations)) := by
  have hcanonical := canonical_run operations
  exact ⟨hcanonical.proper, hcanonical.start_lt.and hcanonical.separated, rowSet_run operations,
    foldlM_perform?⟩

/-- An insertion before, one inside and a removal across what is dirty, with a mark of no rows and
one of a row. -/
theorem run_denotes_six :
    let operations : List Operation := [.insert 2 3, .insert 0 1, .insert 4 2, .remove 0 4,
      .mark ⟨7, 3⟩, .mark ⟨9, 10⟩]
    StayInWord ∅ operations ∧ (run operations).ranges = [⟨0, 4⟩, ⟨9, 10⟩] ∧
      operations.foldl Operation.onRows ∅ = Set.Ico 0 4 ∪ Set.Ico 9 10 ∧
      operations.foldlM perform? empty = some (run operations) := by
  intro operations
  have hranges : (run operations).ranges = [⟨0, 4⟩, ⟨9, 10⟩] := by cbv
  have hword : StayInWord ∅ operations := by
    have hlimit : ∀ d : DirtyRows, d.ranges.all (fun r => r.stop ≤ 10) = true →
        ∀ n ∈ d.rowSet, n < maxWord := by
      intro d hd n hn
      rw [List.all_eq_true] at hd
      have hstop := lt_of_mem_rowSet (fun r hr => of_decide_eq_true (hd r hr)) hn
      exact hstop.trans_le (by decide)
    simp only [operations, StayInWord, ← rowSet_empty, ← rowSet_perform]
    refine ⟨by decide, hlimit _ (by cbv), by decide, hlimit _ (by cbv), by decide,
      hlimit _ (by cbv), by decide, hlimit _ (by cbv), by decide, hlimit _ (by cbv),
      by decide, hlimit _ (by cbv), trivial⟩
  rcases run_denotes operations with ⟨-, -, hunion, hchecked⟩
  refine ⟨hword, hranges, ?_, hchecked hword⟩
  rw [← hunion, hranges]
  simp

end DirtyRows

/-! ## Replay -/

namespace DeltaPlan

open DirtyRows

/-- What an edit does to dirty rows. -/
def dirtyOperation : RowEdit → Operation
  | .insert start count => .insert start count
  | .delete start count => .remove start count

theorem perform_dirtyOperation (d : DirtyRows) (edit : RowEdit) :
    d.perform (dirtyOperation edit) = editDirty d edit := by
  cases edit with
  | insert start count => rfl
  | delete start count => rfl

/-- The dirty rows of a plan are those of a run: its edits in order, then a mark for each changed
row. -/
theorem dirtyRows_eq_run (plan : DeltaPlan) :
    plan.dirtyRows = run (plan.edits.map dirtyOperation ++
      plan.changedRows.map fun row => .mark ⟨row, row + 1⟩) := by
  rw [dirtyRows_eq, run, List.foldl_append, List.foldl_map, List.foldl_map]
  simp only [perform_dirtyOperation]
  rfl

end DeltaPlan

end CellSearch
