import Mathlib
import CellSearch.Cursor
import CellSearch.Proofs.PartitionPoint

/-!
# Where a cursor lands

The results may change between two calls of a cursor, so that the result and the span that it
remembers need not exist any more. A step lands if the position that it answers with is that of a
match, and the cursor stands there (`MatchCursor.Landed`).

* A step forward compares the span that it remembers with the spans that there are, and always
  lands.
* A step backward only asks whether its result exists. If that result has lost so many spans that
  even the one before the remembered span is gone, the cursor stands on no match
  (`MatchCursor.Overshoots`); otherwise it lands.

A cursor that has found its place in the results does not overshoot them.
-/

namespace CellSearch

/-- A call of a cursor, with the results as they are at the time. -/
inductive CursorCall (K : Type) where
  | next (results : Array (SearchResult K)) (wrap : Bool)
  | previous (results : Array (SearchResult K)) (wrap : Bool)
  | revalidate (results : Array (SearchResult K))
  | reset

namespace MatchCursor

variable {K : Type} {results : Array (SearchResult K)} {cursor : MatchCursor K}
variable {pos p : CursorPosition} {r : SearchResult K} {i j : Nat} {wrap : Bool}

/-- The cursor after a call. -/
def call [DecidableEq K] (cursor : MatchCursor K) : CursorCall K → MatchCursor K
  | .next results wrap => (cursor.next results wrap).1
  | .previous results wrap => (cursor.previous results wrap).1
  | .revalidate results => cursor.revalidate results
  | .reset => unset

/-- A new cursor after a run of calls. -/
def run [DecidableEq K] (calls : List (CursorCall K)) : MatchCursor K :=
  calls.foldl call unset

/-! ## Positions -/

/-- The cursor on span `j` of a result that has index `i`. -/
def on (r : SearchResult K) (i j : Nat) : MatchCursor K :=
  ⟨some ⟨i, j, r.row, r.columnIndex⟩, some r.key⟩

/-- To go to a span of a result is to stand on it. -/
theorem moveTo_standOn (cursor : MatchCursor K) (hr : results[i]? = some r) (j : Nat) :
    cursor.moveTo (standOn results i j) = (on r i j, (on r i j).position) := by
  simp only [standOn, hr, Option.map_some, moveTo, on]

theorem current_on (hr : results[i]? = some r) (j : Nat) :
    (on r i j).current results = r.spans[j]?.map fun s => (r, s) := by
  simp only [current, on, hr]

theorem lastSpan_eq (hr : results[i]? = some r) : lastSpan results i = r.spans.length - 1 := by
  simp only [lastSpan, hr]

/-- The cursor stands at a position where the results have a match. -/
structure Landed (cursor : MatchCursor K) (results : Array (SearchResult K))
    (p : CursorPosition) : Prop where
  position_eq : cursor.position = some p
  exists_match : ∃ r s, results[p.result]? = some r ∧ r.spans[p.span]? = some s ∧
    p.row = r.row ∧ p.columnIndex = r.columnIndex ∧ cursor.key = some r.key ∧
    cursor.current results = some (r, s)

theorem landed_on (hr : results[i]? = some r) (hj : j < r.spans.length) :
    (on r i j).Landed results ⟨i, j, r.row, r.columnIndex⟩ := by
  have hspan : r.spans[j]? = some r.spans[j] := List.getElem?_eq_getElem hj
  refine ⟨rfl, r, r.spans[j], hr, hspan, rfl, rfl, rfl, ?_⟩
  rw [current_on hr, hspan, Option.map_some]

/-! ## Targets of a step -/

/-- To go to the target is to land. -/
def Sound (results : Array (SearchResult K))
    (target : Option (MatchCursor K × CursorPosition)) : Prop :=
  ∀ cursor p, target = some (cursor, p) → cursor.Landed results p

theorem Sound.landed {target : Option (MatchCursor K × CursorPosition)}
    (h : Sound results target) (hp : (cursor.moveTo target).2 = some p) :
    (cursor.moveTo target).1.Landed results p := by
  cases target with
  | none => cases hp
  | some target =>
    obtain ⟨stop, q⟩ := target
    cases hp
    exact h stop p rfl

theorem sound_none : Sound results none := by
  intro cursor p h
  cases h

theorem sound_standOn (h : ∀ r, results[i]? = some r → j < r.spans.length) :
    Sound results (standOn results i j) := by
  intro cursor p htarget
  obtain ⟨r, hr, heq⟩ := Option.map_eq_some_iff.mp htarget
  cases heq
  exact landed_on hr (h r hr)

/-- The cursor remembers a span that is more than one behind the last of the result that has its
index now. -/
def Overshoots (cursor : MatchCursor K) (results : Array (SearchResult K)) : Prop :=
  ∃ pos r, cursor.position = some pos ∧ results[pos.result]? = some r ∧
    r.spans.length < pos.span

section Matches

variable (hmatches : ∀ r ∈ results, r.spans ≠ [])
include hmatches

theorem length_spans_pos (hr : results[i]? = some r) : 0 < r.spans.length :=
  List.length_pos_iff.mpr (hmatches r (Array.mem_of_getElem? hr))

theorem sound_start (i : Nat) : Sound results (standOn results i 0) :=
  sound_standOn fun _ hr => length_spans_pos hmatches hr

theorem sound_end (i : Nat) : Sound results (standOn results i (lastSpan results i)) := by
  apply sound_standOn
  intro r hr
  have hpos := length_spans_pos hmatches hr
  rw [lastSpan_eq hr]
  omega

/-! ## Steps -/

theorem next_landed (hp : (cursor.next results wrap).2 = some p) :
    (cursor.next results wrap).1.Landed results p := by
  apply Sound.landed _ hp
  split
  · exact sound_start hmatches 0
  · rename_i pos _
    dsimp only
    split
    · -- the result is looked up before its next span is taken
      rename_i hspan
      apply sound_standOn
      intro r hr
      simpa [hr] using hspan
    · split
      · exact sound_start hmatches _
      · split
        · exact sound_start hmatches 0
        · exact sound_none

theorem previous_landed (hover : ¬ cursor.Overshoots results)
    (hp : (cursor.previous results wrap).2 = some p) :
    (cursor.previous results wrap).1.Landed results p := by
  apply Sound.landed _ hp
  split
  · exact sound_end hmatches _
  · rename_i pos hpos
    split
    · rename_i hspan
      apply sound_standOn
      intro r hr
      have hle : pos.span ≤ r.spans.length :=
        Nat.le_of_not_lt fun hlt => hover ⟨pos, r, hpos, hr, hlt⟩
      omega
    · split
      · exact sound_end hmatches _
      · split
        · exact sound_end hmatches _
        · exact sound_none

end Matches

/-- A cursor that overshoots goes to the span before the one it remembers, which is not there. -/
theorem Overshoots.previous (h : cursor.Overshoots results) (wrap : Bool) :
    ∃ p r, (cursor.previous results wrap).2 = some p ∧ results[p.result]? = some r ∧
      r.spans.length ≤ p.span ∧ (cursor.previous results wrap).1.current results = none := by
  obtain ⟨pos, r, hpos, hr, hlt⟩ := h
  have hsize : pos.result < results.size := (Array.getElem?_eq_some_iff.mp hr).1
  have hback : 0 < pos.span ∧ pos.result < results.size := ⟨by omega, hsize⟩
  have hprevious : cursor.previous results wrap =
      (on r pos.result (pos.span - 1), (on r pos.result (pos.span - 1)).position) := by
    simp only [MatchCursor.previous, hpos, if_pos hback]
    exact moveTo_standOn cursor hr _
  refine ⟨⟨pos.result, pos.span - 1, r.row, r.columnIndex⟩, r, by rw [hprevious]; rfl, hr, ?_, ?_⟩
  · dsimp only
    omega
  · rw [hprevious, current_on hr, List.getElem?_eq_none (by omega), Option.map_none]

/-! ## Finding the place again -/

theorem not_overshoots_unset : ¬ (unset : MatchCursor K).Overshoots results := by
  rintro ⟨pos, r, hpos, -, -⟩
  cases hpos

theorem not_overshoots_on (hr : results[i]? = some r) (hj : j ≤ r.spans.length) :
    ¬ (on r i j).Overshoots results := by
  rintro ⟨pos, r', hpos, hr', hlt⟩
  cases hpos
  rw [hr] at hr'
  cases hr'
  exact absurd hlt (Nat.not_lt.mpr hj)

/-- A cursor that goes to a span of a result, and stays if there is no such result, does not
overshoot if it did not before. -/
theorem not_overshoots_moveTo (hcursor : results[i]? = none → ¬ cursor.Overshoots results)
    (hj : ∀ r, results[i]? = some r → j ≤ r.spans.length) :
    ¬ (cursor.moveTo (standOn results i j)).1.Overshoots results := by
  cases hr : results[i]? with
  | none =>
    simp only [standOn, hr, Option.map_none, moveTo]
    exact hcursor hr
  | some r =>
    rw [moveTo_standOn cursor hr j]
    exact not_overshoots_on hr (hj r hr)

theorem not_overshoots_revalidate [DecidableEq K] (cursor : MatchCursor K)
    (results : Array (SearchResult K)) : ¬ (cursor.revalidate results).Overshoots results := by
  have hlast : ∀ {i j r}, j ≤ lastSpan results i → results[i]? = some r →
      j ≤ r.spans.length := by
    intro i j r hj hr
    rw [lastSpan_eq hr] at hj
    omega
  unfold revalidate
  split
  · rename_i hpos
    rintro ⟨pos, r, hsome, -, -⟩
    rw [hpos] at hsome
    cases hsome
  · rename_i pos hpos
    split
    · exact not_overshoots_unset
    · rename_i hempty
      have hsize : 0 < results.size := by simpa [Nat.pos_iff_ne_zero] using hempty
      -- wherever the cursor goes there is a result
      have hthere : ∀ {i}, i < results.size → results[i]? = none →
          ¬ cursor.Overshoots results := by
        intro i hi hnone
        have := Array.getElem?_eq_none_iff.mp hnone
        omega
      dsimp only
      split
      · rename_i i hsame
        have hi : i < results.size := by
          split at hsame
          · cases hsame
          · exact (Array.findIdx?_eq_some_iff_getElem.mp hsame).1
        exact not_overshoots_moveTo (hthere hi) fun _ hr => hlast (Nat.min_le_right _ _) hr
      · split
        · exact not_overshoots_moveTo (hthere (by omega)) fun _ hr => hlast (le_refl _) hr
        · have hle := partitionPoint_le (cellBefore pos.row pos.columnIndex) results
          exact not_overshoots_moveTo (hthere (by omega)) fun _ _ => Nat.zero_le _

/-! ## Runs of calls -/

/-- After any run of calls, on whatever results, a step forward on results that all have a match
lands if it moves. So does a step backward, unless the cursor overshoots; then it answers with a
span that its result does not have, and stands on no match. A cursor that has found its place in
the results does not overshoot. -/
theorem step_landed [DecidableEq K] (calls : List (CursorCall K))
    (results : Array (SearchResult K)) (hmatches : ∀ r ∈ results, r.spans ≠ []) (wrap : Bool) :
    (∀ p, ((run calls).next results wrap).2 = some p →
      ((run calls).next results wrap).1.Landed results p) ∧
    (¬ (run calls).Overshoots results →
      ∀ p, ((run calls).previous results wrap).2 = some p →
        ((run calls).previous results wrap).1.Landed results p) ∧
    ((run calls).Overshoots results →
      ∃ p r, ((run calls).previous results wrap).2 = some p ∧ results[p.result]? = some r ∧
        r.spans.length ≤ p.span ∧
        ((run calls).previous results wrap).1.current results = none) ∧
    ¬ ((run calls).revalidate results).Overshoots results := by
  refine ⟨fun p hp => next_landed hmatches hp, fun hover p hp => ?_, fun hover => ?_, ?_⟩
  · exact previous_landed hmatches hover hp
  · exact hover.previous wrap
  · exact not_overshoots_revalidate _ results

/-- The results of one row in which the letter `a` was found several times, apart. -/
def spaced (key row count : Nat) : SearchResult Nat where
  key := key
  row := row
  column := "name"
  columnIndex := 0
  text := " ".intercalate (List.replicate count "a")
  spans := (List.range count).map fun i => .ofLength (2 * i) 1

/-- A cursor on the second of three matches, when a match is inserted in a row before. -/
theorem step_landed_inserted :
    let cursor := run [.next #[spaced 7 0 3] false, .next #[spaced 7 0 3] false]
    let results := #[spaced 3 0 1, spaced 7 1 3]
    (∀ r ∈ results, r.spans ≠ []) ∧ ¬ cursor.Overshoots results ∧
    (cursor.next results false).1.Landed results ⟨1, 0, 1, 0⟩ ∧
    (cursor.previous results false).1.Landed results ⟨0, 0, 0, 0⟩ := by
  intro cursor results
  have hmatches : ∀ r ∈ results, r.spans ≠ [] := by decide
  have hover : ¬ cursor.Overshoots results := by
    rintro ⟨pos, r, hpos, hr, hlt⟩
    cases hpos
    cases hr
    exact absurd hlt (by decide)
  obtain ⟨hnext, hprevious, -, -⟩ := step_landed
    [.next #[spaced 7 0 3] false, .next #[spaced 7 0 3] false] results hmatches false
  exact ⟨hmatches, hover, hnext _ rfl, hprevious hover _ rfl⟩

/-- A cursor on the last of three matches in a cell that has only the first when the cursor steps
back: it answers with the second, which is not there, and stands on no match. -/
theorem previous_of_shrunk_not_landed :
    let cursor := run [.next #[spaced 7 0 3] false, .next #[spaced 7 0 3] false,
      .next #[spaced 7 0 3] false]
    (∀ r ∈ #[spaced 7 0 1], r.spans ≠ []) ∧
    (cursor.previous #[spaced 7 0 1] false).2 = some ⟨0, 1, 0, 0⟩ ∧
    (spaced 7 0 1).spans.length = 1 ∧
    (cursor.previous #[spaced 7 0 1] false).1.current #[spaced 7 0 1] = none ∧
    ¬ (cursor.previous #[spaced 7 0 1] false).1.Landed #[spaced 7 0 1] ⟨0, 1, 0, 0⟩ := by
  intro cursor
  refine ⟨by decide, rfl, rfl, rfl, ?_⟩
  intro hlanded
  obtain ⟨r, s, -, -, -, -, -, hcurrent⟩ := hlanded.exists_match
  cases hcurrent

end MatchCursor

end CellSearch
