import Mathlib
import CellSearch.Engine.DirtyRows
import CellSearch.Proofs.Interval

/-!
# The rows that are dirty

Dirty rows are kept as canonical intervals, and each operation is a statement about the rows
that they cover: an insertion moves up what lies at or behind it and adds the new rows
(`covers_insert`), a removal forgets the rows it takes and moves down what lies behind
(`covers_remove`), a mark adds rows (`covers_mark`). Each keeps the dirty rows inside the table
(`Within.insert`, `Within.remove`, `Within.mark`).
-/

namespace CellSearch.DirtyRows

open CellSearch.Interval

variable {d : DirtyRows} {start count n : Nat} {r : Interval}

/-! ## Ranges -/

theorem covers_ofRanges (ranges : List Interval) (n : Nat) :
    covers (ofRanges ranges).ranges n = covers ranges n := by
  rw [ofRanges, covers_merge, Bool.eq_iff_iff, covers_iff, covers_iff]
  constructor
  · rintro ⟨i, hi, hn⟩
    exact ⟨i, (List.mem_filter.mp hi).1, hn⟩
  · -- an empty range covers nothing
    rintro ⟨i, hi, hn⟩
    have hproper := contains_iff.mp hn
    exact ⟨i, List.mem_filter.mpr ⟨hi, by simpa using lt_of_le_of_lt hproper.1 hproper.2⟩, hn⟩

theorem canonical_ofRanges (ranges : List Interval) : Canonical (ofRanges ranges).ranges := by
  apply canonical_merge
  intro i hi
  simpa using (List.mem_filter.mp hi).2

theorem covers_raise : covers (raise start count r) n = true ↔
    (n < start ∧ r.contains n = true) ∨
      (start + count ≤ n ∧ r.contains (n - count) = true) := by
  unfold raise
  -- the range lies before the new rows, behind them, or on both sides
  split
  · simp only [covers_cons, covers_nil, Bool.or_false, contains_iff]
    omega
  · split
    · simp only [covers_cons, covers_nil, Bool.or_false, contains_iff]
      omega
    · simp only [covers_cons, covers_nil, Bool.or_false, Bool.or_eq_true, contains_iff]
      omega

theorem covers_lower : covers (lower start count r) n = true ↔
    (n < start ∧ r.contains n = true) ∨ (start ≤ n ∧ r.contains (n + count) = true) := by
  have hfront : covers (if r.start < start then [⟨r.start, min r.stop start⟩] else []) n = true ↔
      n < start ∧ r.contains n = true := by
    split <;> simp [contains_iff] <;> omega
  have hback : covers (if start + count < r.stop then
      [⟨max r.start (start + count) - count, r.stop - count⟩] else []) n = true ↔
      start ≤ n ∧ r.contains (n + count) = true := by
    split <;> simp [contains_iff] <;> omega
  rw [lower, covers_append, Bool.or_eq_true, hfront, hback]

theorem covers_flatMap_raise (ranges : List Interval) :
    covers (ranges.flatMap (raise start count)) n = true ↔
      (n < start ∧ covers ranges n = true) ∨
        (start + count ≤ n ∧ covers ranges (n - count) = true) := by
  induction ranges with
  | nil => simp
  | cons r rest ih =>
    rw [List.flatMap_cons, covers_append, Bool.or_eq_true, covers_raise, ih]
    simp only [covers_cons, Bool.or_eq_true]
    tauto

theorem covers_flatMap_lower (ranges : List Interval) :
    covers (ranges.flatMap (lower start count)) n = true ↔
      (n < start ∧ covers ranges n = true) ∨
        (start ≤ n ∧ covers ranges (n + count) = true) := by
  induction ranges with
  | nil => simp
  | cons r rest ih =>
    rw [List.flatMap_cons, covers_append, Bool.or_eq_true, covers_lower, ih]
    simp only [covers_cons, Bool.or_eq_true]
    tauto

/-! ## Operations -/

theorem covers_insert (d : DirtyRows) (start count n : Nat) :
    covers (d.insert start count).ranges n = true ↔
      (n < start ∧ covers d.ranges n = true) ∨ (start ≤ n ∧ n < start + count) ∨
        (start + count ≤ n ∧ covers d.ranges (n - count) = true) := by
  unfold insert
  by_cases hcount : count = 0
  · -- nothing is inserted, and every row lies on one side of `start`
    rw [if_pos hcount, hcount, Nat.add_zero, Nat.sub_zero]
    rcases lt_or_ge n start with hn | hn
    · simp [hn, not_le.mpr hn]
    · simp [hn, not_lt.mpr hn]
  · rw [if_neg hcount, covers_ofRanges, covers_append, Bool.or_eq_true, covers_flatMap_raise]
    simp only [covers_cons, covers_nil, Bool.or_false, contains_iff, ofLength]
    tauto

theorem covers_remove (d : DirtyRows) (start count n : Nat) :
    covers (d.remove start count).ranges n = true ↔
      (n < start ∧ covers d.ranges n = true) ∨
        (start ≤ n ∧ covers d.ranges (n + count) = true) := by
  unfold remove
  by_cases hcount : count = 0
  · rw [if_pos hcount, hcount, Nat.add_zero]
    rcases lt_or_ge n start with hn | hn
    · simp [hn, not_le.mpr hn]
    · simp [hn, not_lt.mpr hn]
  · rw [if_neg hcount, covers_ofRanges, covers_flatMap_lower]

theorem covers_mark (d : DirtyRows) (rows : Interval) (n : Nat) :
    covers (d.mark rows).ranges n = (covers d.ranges n || rows.contains n) := by
  simp [mark, covers_ofRanges]

theorem canonical_empty : Canonical empty.ranges := ⟨by simp [empty], List.Pairwise.nil⟩

theorem canonical_insert (h : Canonical d.ranges) (start count : Nat) :
    Canonical (d.insert start count).ranges := by
  unfold insert
  split
  · exact h
  · exact canonical_ofRanges _

theorem canonical_remove (h : Canonical d.ranges) (start count : Nat) :
    Canonical (d.remove start count).ranges := by
  unfold remove
  split
  · exact h
  · exact canonical_ofRanges _

theorem canonical_mark (d : DirtyRows) (rows : Interval) : Canonical (d.mark rows).ranges :=
  canonical_ofRanges _

/-! ## Tables of a size -/

/-- The dirty rows are canonical, and among the first `rows` rows. -/
structure Within (d : DirtyRows) (rows : Nat) : Prop where
  canonical : Canonical d.ranges
  lt : ∀ n, covers d.ranges n = true → n < rows

variable {rows : Nat}

theorem Within.stop_le (h : d.Within rows) (hr : r ∈ d.ranges) :
    r.start < r.stop ∧ r.stop ≤ rows := by
  have hproper := h.canonical.proper r hr
  -- the last row of a range is dirty
  have hlast : covers d.ranges (r.stop - 1) = true :=
    covers_iff.mpr ⟨r, hr, contains_iff.mpr ⟨by omega, by omega⟩⟩
  have hlt := h.lt _ hlast
  exact ⟨hproper, by omega⟩

theorem within_empty (rows : Nat) : empty.Within rows :=
  ⟨canonical_empty, by simp [empty]⟩

theorem Within.insert (h : d.Within rows) (hstart : start ≤ rows) :
    (d.insert start count).Within (rows + count) := by
  refine ⟨canonical_insert h.canonical start count, fun n hn => ?_⟩
  rcases (covers_insert d start count n).mp hn with ⟨hlt, -⟩ | ⟨-, hlt⟩ | ⟨-, hcovers⟩
  · omega
  · omega
  · have := h.lt _ hcovers
    omega

theorem Within.remove (h : d.Within rows) (hfit : start + count ≤ rows) :
    (d.remove start count).Within (rows - count) := by
  refine ⟨canonical_remove h.canonical start count, fun n hn => ?_⟩
  rcases (covers_remove d start count n).mp hn with ⟨hlt, -⟩ | ⟨-, hcovers⟩
  · omega
  · have := h.lt _ hcovers
    omega

theorem Within.mark (h : d.Within rows) (hn : n < rows) : (d.mark ⟨n, n + 1⟩).Within rows := by
  refine ⟨canonical_mark d _, fun k hk => ?_⟩
  rw [covers_mark, Bool.or_eq_true, contains_iff] at hk
  rcases hk with hcovers | hmarked
  · exact h.lt k hcovers
  · have hlast : k < n + 1 := hmarked.2
    omega

end CellSearch.DirtyRows
