import Mathlib
import CellSearch.Proofs.Cursor.Landing
import CellSearch.Proofs.Result.Set

/-!
# Finding the place again

A cursor that is asked to find its place in new results goes to the cell that it remembers, by the
key of its row and its column; if that cell is gone, to the first match at or behind the place that
it remembers; and if there is none, to the last match (`MatchCursor.Reanchored`).

The cell is looked for in all the results, but the place by a binary search, which is right for
results in their order only. There it finds the least of the results that are not before the place
(`MatchCursor.reanchored_revalidate`).
-/

namespace CellSearch

/-- A result lies before the place that a cursor remembers. -/
def SearchResult.IsBefore {K : Type} (r : SearchResult K) (pos : CursorPosition) : Prop :=
  r.row < pos.row ∨ (r.row = pos.row ∧ r.columnIndex < pos.columnIndex)

namespace MatchCursor

variable {K : Type} {results : Array (SearchResult K)} {cursor stop : MatchCursor K}
variable {pos : CursorPosition} {r : SearchResult K} {i j : Nat}

/-- A result is of the cell that the cursor remembers. -/
def Remembers (cursor : MatchCursor K) (pos : CursorPosition) (r : SearchResult K) : Prop :=
  cursor.key = some r.key ∧ r.columnIndex = pos.columnIndex

/-- Where a cursor that stood at a position goes when it is to find its place again. -/
inductive Reanchored (cursor : MatchCursor K) (pos : CursorPosition)
    (results : Array (SearchResult K)) : MatchCursor K → Prop
  /-- There are no results, and the cursor stands nowhere. -/
  | gone (hempty : results = #[]) : Reanchored cursor pos results unset
  /-- The first result of the cell, with the span that it stood on or the last that there is. -/
  | sameCell {r : SearchResult K} {i : Nat} (hr : results[i]? = some r)
      (hcell : cursor.Remembers pos r)
      (hfirst : ∀ i' < i, ∀ r', results[i']? = some r' → ¬cursor.Remembers pos r') :
      Reanchored cursor pos results (on r i (min pos.span (r.spans.length - 1)))
  /-- The first match of the least result that is not before the place. -/
  | atOrBehind {r : SearchResult K} {i : Nat} (hother : ∀ r ∈ results, ¬cursor.Remembers pos r)
      (hr : results[i]? = some r) (hbehind : ¬r.IsBefore pos)
      (hleast : ∀ r' ∈ results, ¬r'.IsBefore pos → r' = r ∨ r.Precedes r') :
      Reanchored cursor pos results (on r i 0)
  /-- The last match, where all results are before the place. -/
  | last {r : SearchResult K} {i : Nat} (hother : ∀ r ∈ results, ¬cursor.Remembers pos r)
      (hbefore : ∀ r ∈ results, r.IsBefore pos) (hr : results[i]? = some r)
      (hlast : i + 1 = results.size) :
      Reanchored cursor pos results (on r i (r.spans.length - 1))

/-! ## The place -/

theorem cellBefore_iff : cellBefore pos.row pos.columnIndex r = true ↔ r.IsBefore pos := by
  simp [cellBefore, SearchResult.IsBefore]

/-- Results in their order fall into those before a place and those at or behind it. -/
theorem exists_place (hsorted : results.toList.Pairwise SearchResult.Precedes)
    (pos : CursorPosition) : ∃ k, EndsAt (cellBefore pos.row pos.columnIndex) results k := by
  apply exists_endsAt hsorted
  intro a b hprecedes hb
  rw [cellBefore_iff] at hb ⊢
  unfold SearchResult.Precedes at hprecedes
  unfold SearchResult.IsBefore at hb ⊢
  omega

theorem isBefore_iff_lt (hplace : EndsAt (cellBefore pos.row pos.columnIndex) results j)
    (hr : results[i]? = some r) : r.IsBefore pos ↔ i < j := by
  have hlt := (Array.getElem?_eq_some_iff.mp hr).1
  rw [← hplace.2 i hlt, hr, Option.any_some, cellBefore_iff]

/-- The result at the place is the least of those that are not before it. -/
theorem least_of_endsAt (hsorted : results.toList.Pairwise SearchResult.Precedes)
    (hplace : EndsAt (cellBefore pos.row pos.columnIndex) results i)
    (hr : results[i]? = some r) {r' : SearchResult K} (hmem : r' ∈ results)
    (hbehind : ¬r'.IsBefore pos) : r' = r ∨ r.Precedes r' := by
  rcases Array.mem_iff_getElem?.mp hmem with ⟨i', hr'⟩
  rw [isBefore_iff_lt hplace hr', Nat.not_lt] at hbehind
  rcases Nat.eq_or_lt_of_le hbehind with rfl | hlt
  · exact Or.inl (Option.some.inj (hr'.symm.trans hr))
  · rcases Array.getElem?_eq_some_iff.mp hr with ⟨hi, rfl⟩
    rcases Array.getElem?_eq_some_iff.mp hr' with ⟨hi', rfl⟩
    have hpairwise := List.pairwise_iff_getElem.mp hsorted i i' (by simpa using hi)
      (by simpa using hi') hlt
    exact Or.inr (by simpa using hpairwise)

/-! ## The cell -/

section Cell

variable [DecidableEq K]

/-- The index of the first result of the cell that the cursor remembers. -/
def cellIndex? (cursor : MatchCursor K) (pos : CursorPosition)
    (results : Array (SearchResult K)) : Option Nat :=
  match cursor.key with
  | none => none
  | some key => results.findIdx? fun r => r.key == key && r.columnIndex == pos.columnIndex

theorem cellIndex?_eq_some (h : cursor.cellIndex? pos results = some i) :
    ∃ r, results[i]? = some r ∧ cursor.Remembers pos r ∧
      ∀ i' < i, ∀ r', results[i']? = some r' → ¬cursor.Remembers pos r' := by
  unfold cellIndex? at h
  unfold Remembers
  split at h
  · cases h
  · rename_i key hkey
    rcases Array.findIdx?_eq_some_iff_getElem.mp h with ⟨hlt, hcell, hbefore⟩
    simp only [Bool.and_eq_true, beq_iff_eq] at hcell
    refine ⟨results[i], Array.getElem?_eq_getElem hlt, ⟨by rw [hkey, hcell.1], hcell.2⟩, ?_⟩
    rintro i' hi' r' hr' ⟨hkey', hcolumn⟩
    rcases Array.getElem?_eq_some_iff.mp hr' with ⟨_, rfl⟩
    have hsame : key = results[i'].key := Option.some.inj (hkey.symm.trans hkey')
    have hother := hbefore i' hi'
    simp [hsame, hcolumn] at hother

theorem cellIndex?_eq_none_iff :
    cursor.cellIndex? pos results = none ↔ ∀ r ∈ results, ¬cursor.Remembers pos r := by
  unfold cellIndex? Remembers
  split
  · rename_i hkey
    simp [hkey]
  · rename_i key hkey
    rw [Array.findIdx?_eq_none_iff]
    refine forall_congr' fun r => imp_congr_right fun _ => ?_
    rw [Bool.eq_false_iff, Ne, Bool.and_eq_true, beq_iff_eq, beq_iff_eq, hkey, Option.some.injEq,
      eq_comm (a := key)]

/-- How a cursor finds its place in results. -/
theorem revalidate_eq (hpos : cursor.position = some pos) (hne : results ≠ #[]) :
    cursor.revalidate results = (cursor.moveTo
      (match cursor.cellIndex? pos results with
      | some i => standOn results i (min pos.span (lastSpan results i))
      | none =>
        let i := partitionPoint (cellBefore pos.row pos.columnIndex) results
        if i = results.size then last results else standOn results i 0)).1 := by
  have hsome : results.isEmpty = false := by simpa using hne
  simp only [revalidate, hpos, hsome, Bool.false_eq_true, if_false]
  rfl

theorem revalidate_of_position_eq_none (hpos : cursor.position = none) :
    cursor.revalidate results = cursor := by
  simp only [revalidate, hpos]

theorem revalidate_empty (hpos : cursor.position = some pos) :
    cursor.revalidate #[] = unset := by
  simp [revalidate, hpos]

theorem reanchored_revalidate (hsorted : results.toList.Pairwise SearchResult.Precedes)
    (hpos : cursor.position = some pos) :
    Reanchored cursor pos results (cursor.revalidate results) := by
  by_cases hempty : results = #[]
  · subst hempty
    rw [revalidate_empty hpos]
    exact .gone rfl
  · rw [revalidate_eq hpos hempty]
    cases hcell : cursor.cellIndex? pos results with
    | some i =>
      rcases cellIndex?_eq_some hcell with ⟨r, hr, hremembers, hfirst⟩
      simp only [moveTo_standOn cursor hr, lastSpan_eq hr]
      exact .sameCell hr hremembers hfirst
    | none =>
      have hother := cellIndex?_eq_none_iff.mp hcell
      rcases exists_place hsorted pos with ⟨k, hplace⟩
      simp only [partitionPoint_eq hplace]
      split
      · -- all results are before the place
        rename_i hk
        have hsize : 0 < results.size := Array.size_pos_iff.mpr hempty
        have hr : results[results.size - 1]? = some results[results.size - 1] :=
          Array.getElem?_eq_getElem (by omega)
        simp only [MatchCursor.last, moveTo_standOn cursor hr, lastSpan_eq hr]
        refine .last hother ?_ hr (by omega)
        intro r hmem
        rcases Array.mem_iff_getElem?.mp hmem with ⟨i, hi⟩
        rw [isBefore_iff_lt hplace hi, hk]
        exact (Array.getElem?_eq_some_iff.mp hi).1
      · -- the result at the place is the least of those that are not
        rename_i hk
        have hlt : k < results.size := lt_of_le_of_ne hplace.1 hk
        have hr : results[k]? = some results[k] := Array.getElem?_eq_getElem hlt
        simp only [moveTo_standOn cursor hr]
        refine .atOrBehind hother hr ?_ fun r' hmem => least_of_endsAt hsorted hplace hr hmem
        rw [isBefore_iff_lt hplace hr]
        exact lt_irrefl k

end Cell

/-! ## Landing -/

/-- On results that all have a match, the cursor stands on one. -/
theorem Reanchored.exists_landed (hmatches : ∀ r ∈ results, r.spans ≠ [])
    (hne : results ≠ #[]) (h : Reanchored cursor pos results stop) :
    ∃ r i j, results[i]? = some r ∧ j < r.spans.length ∧ stop = on r i j := by
  cases h with
  | gone hempty => exact absurd hempty hne
  | @sameCell r i hr _ _ =>
    have hpositive := length_spans_pos hmatches hr
    exact ⟨r, i, _, hr, by omega, rfl⟩
  | @atOrBehind r i _ hr _ _ => exact ⟨r, i, 0, hr, length_spans_pos hmatches hr, rfl⟩
  | @last r i _ _ hr _ =>
    have hpositive := length_spans_pos hmatches hr
    exact ⟨r, i, _, hr, by omega, rfl⟩

/-- No cell has two results. -/
def DistinctCells (results : Array (SearchResult K)) : Prop :=
  (results.toList.map fun r => (r.key, r.columnIndex)).Nodup

theorem DistinctCells.index_eq (h : DistinctCells results) {r' : SearchResult K}
    (hr : results[i]? = some r) (hr' : results[j]? = some r') (hkey : r'.key = r.key)
    (hcolumn : r'.columnIndex = r.columnIndex) : j = i := by
  have hlength : j < (results.toList.map fun r => (r.key, r.columnIndex)).length := by
    simpa using (Array.getElem?_eq_some_iff.mp hr').1
  apply (List.getElem?_inj hlength h).mp
  simp [hr, hr', hkey, hcolumn]

section Again

variable [DecidableEq K]

/-- A cursor that stands on a match stays there, if no other result is of the same cell. -/
theorem revalidate_on (hdistinct : DistinctCells results) (hr : results[i]? = some r)
    (hj : j < r.spans.length) : (on r i j).revalidate results = on r i j := by
  have hne : results ≠ #[] := by
    rintro rfl
    cases hr
  have hpos : (on r i j).position = some ⟨i, j, r.row, r.columnIndex⟩ := rfl
  rw [revalidate_eq hpos hne]
  cases hcell : (on r i j).cellIndex? ⟨i, j, r.row, r.columnIndex⟩ results with
  | none =>
    -- the result that it stands on is of the cell
    have hother := cellIndex?_eq_none_iff.mp hcell r (Array.mem_of_getElem? hr)
    exact absurd ⟨rfl, rfl⟩ hother
  | some i' =>
    rcases cellIndex?_eq_some hcell with ⟨r', hr', ⟨hkey, hcolumn⟩, -⟩
    obtain rfl := hdistinct.index_eq hr hr' (Option.some.inj hkey).symm hcolumn
    simp only [moveTo_standOn _ hr, lastSpan_eq hr]
    rw [Nat.min_eq_left (by omega)]

/-- In results in their order that all have a match, a cursor finds its place again: the cell that
it remembers, else the first match at or behind its place, else the last match. It stands on a
match then, unless there is none; to find its place once more changes nothing if no cell has two
results; and a cursor that stands nowhere is left alone. -/
theorem revalidate_reanchors (results : Array (SearchResult K))
    (hsorted : results.toList.Pairwise SearchResult.Precedes)
    (hmatches : ∀ r ∈ results, r.spans ≠ []) (cursor : MatchCursor K) :
    (cursor.position = none → cursor.revalidate results = cursor) ∧
    (∀ pos, cursor.position = some pos →
      Reanchored cursor pos results (cursor.revalidate results) ∧
      (results ≠ #[] → ∃ p, (cursor.revalidate results).Landed results p)) ∧
    (DistinctCells results →
      (cursor.revalidate results).revalidate results = cursor.revalidate results) := by
  refine ⟨revalidate_of_position_eq_none, ?_, ?_⟩
  · intro pos hpos
    have hanchored := reanchored_revalidate hsorted hpos
    refine ⟨hanchored, fun hne => ?_⟩
    rcases hanchored.exists_landed hmatches hne with ⟨r, i, j, hr, hj, hstop⟩
    rw [hstop]
    exact ⟨_, landed_on hr hj⟩
  · intro hdistinct
    cases hpos : cursor.position with
    | none => rw [revalidate_of_position_eq_none hpos, revalidate_of_position_eq_none hpos]
    | some pos =>
      by_cases hempty : results = #[]
      · subst hempty
        rw [revalidate_empty hpos]
        rfl
      · rcases (reanchored_revalidate hsorted hpos).exists_landed hmatches hempty with
          ⟨r, i, j, hr, hj, hstop⟩
        rw [hstop, revalidate_on hdistinct hr hj]

end Again

/-- A cursor on the second match of a cell that has moved down by a row and lost a match. -/
theorem revalidate_reanchors_moved :
    let cursor := run [.next #[spaced 7 0 3] false, .next #[spaced 7 0 3] false]
    let results := #[spaced 3 0 1, spaced 7 1 2]
    results.toList.Pairwise SearchResult.Precedes ∧ (∀ r ∈ results, r.spans ≠ []) ∧
    cursor.position = some ⟨0, 1, 0, 0⟩ ∧
    Reanchored cursor ⟨0, 1, 0, 0⟩ results (on (spaced 7 1 2) 1 1) ∧
    (∃ p, (on (spaced 7 1 2) 1 1).Landed results p) ∧
    (on (spaced 7 1 2) 1 1).revalidate results = on (spaced 7 1 2) 1 1 := by
  intro cursor results
  have hsorted : results.toList.Pairwise SearchResult.Precedes := by
    simp [results, SearchResult.Precedes, spaced]
  have hmatches : ∀ r ∈ results, r.spans ≠ [] := by decide
  have hdistinct : DistinctCells results := by
    unfold DistinctCells
    decide
  have hstop : cursor.revalidate results = on (spaced 7 1 2) 1 1 := by decide +kernel
  have hreanchors := revalidate_reanchors results hsorted hmatches cursor
  rw [hstop] at hreanchors
  have hanchored := hreanchors.2.1 ⟨0, 1, 0, 0⟩ rfl
  exact ⟨hsorted, hmatches, rfl, hanchored.1, hanchored.2 (by decide), hreanchors.2.2 hdistinct⟩

end MatchCursor

end CellSearch
