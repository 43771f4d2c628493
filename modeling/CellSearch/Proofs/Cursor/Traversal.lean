import Mathlib
import CellSearch.Proofs.Cursor.Landing

/-!
# Walking through the matches

On results that do not change, a cursor visits every match in the order of the results and, in a
result, of its spans (`MatchCursor.stops`), forward or backward. A step is a step between
neighbours of that list: where it goes depends on the place in the list alone
(`MatchCursor.move_eq`), and the two directions undo each other.
-/

namespace CellSearch

/-- The two ways through the matches. -/
inductive Direction where
  | forward
  | backward
deriving DecidableEq, Repr

namespace Direction

/-- The other way. -/
def opposite : Direction → Direction
  | forward => backward
  | backward => forward

/-- A list as it is met on the way. -/
def order {α : Type} : Direction → List α → List α
  | forward, l => l
  | backward, l => l.reverse

/-- Of `total` places, the one that is met after `n` others. -/
def nth (total n : Nat) : Direction → Nat
  | forward => n
  | backward => total - 1 - n

/-- The place behind place `k` of `total`, if there is one or the way begins again. -/
def after (total : Nat) (wrap : Bool) (k : Nat) : Direction → Option Nat
  | forward => if k + 1 < total then some (k + 1) else if wrap then some 0 else none
  | backward => if 0 < k then some (k - 1) else if wrap then some (total - 1) else none

variable {α : Type} {total n k k' : Nat} {wrap : Bool}

theorem getElem?_order (d : Direction) (l : List α) (hn : n < l.length) :
    (d.order l)[n]? = l[d.nth l.length n]? := by
  cases d with
  | forward => rfl
  | backward => exact List.getElem?_reverse hn

theorem nth_lt (d : Direction) (h : n < total) : d.nth total n < total := by
  cases d with
  | forward => exact h
  | backward =>
    simp only [nth]
    omega

theorem after_nth (d : Direction) (wrap : Bool) (h : n + 1 < total) :
    d.after total wrap (d.nth total n) = some (d.nth total (n + 1)) := by
  cases d with
  | forward => exact if_pos h
  | backward =>
    have hpos : 0 < total - 1 - n := by omega
    have hnext : total - 1 - n - 1 = total - 1 - (n + 1) := by omega
    simp only [after, nth, if_pos hpos, hnext]

/-- Behind the last place the way ends or begins again. -/
theorem after_last (d : Direction) (wrap : Bool) (h : n + 1 = total) :
    d.after total wrap (d.nth total n) = if wrap then some (d.nth total 0) else none := by
  cases d with
  | forward =>
    have hlast : ¬ n + 1 < total := by omega
    exact if_neg hlast
  | backward =>
    have hlast : ¬ 0 < total - 1 - n := by omega
    exact if_neg hlast

/-- The other way leads back. -/
theorem after_opposite (d : Direction) (hk : k < total) (h : d.after total wrap k = some k') :
    k' < total ∧ d.opposite.after total wrap k' = some k := by
  cases d with
  | forward =>
    simp only [after, opposite] at h ⊢
    split at h
    · cases h
      exact ⟨by omega, if_pos (Nat.succ_pos k)⟩
    · split at h
      · -- from the last place round to the first
        rename_i hlast hwrap
        cases h
        have hk' : total - 1 = k := by omega
        exact ⟨by omega, by rw [if_neg (Nat.lt_irrefl 0), if_pos hwrap, hk']⟩
      · cases h
  | backward =>
    simp only [after, opposite] at h ⊢
    split at h
    · rename_i hpos
      cases h
      have hk' : k - 1 + 1 = k := by omega
      exact ⟨by omega, by rw [hk', if_pos hk]⟩
    · split at h
      · rename_i hfirst hwrap
        cases h
        have hlast : ¬ total - 1 + 1 < total := by omega
        have hk' : 0 = k := by omega
        exact ⟨by omega, by rw [if_neg hlast, if_pos hwrap, hk']⟩
      · cases h

end Direction

namespace MatchCursor

variable {K : Type} {results : Array (SearchResult K)} {cursor stop : MatchCursor K}
variable {pos : CursorPosition} {r : SearchResult K} {i j k : Nat} {wrap : Bool}

/-! ## The matches in order -/

/-- The matches of the results, in the order of the results and of their spans. -/
def allMatches (results : Array (SearchResult K)) : List (SearchResult K × Interval) :=
  results.toList.flatMap fun r => r.spans.map fun s => (r, s)

/-- The cursors on the matches of results that are numbered from `n` on. -/
def stopsFrom (n : Nat) : List (SearchResult K) → List (MatchCursor K)
  | [] => []
  | r :: rest => (List.range r.spans.length).map (on r n) ++ stopsFrom (n + 1) rest

/-- The cursors on the matches, in their order. -/
def stops (results : Array (SearchResult K)) : List (MatchCursor K) :=
  stopsFrom 0 results.toList

/-- How many matches come before the result with index `i`. -/
def rank (results : Array (SearchResult K)) (i : Nat) : Nat :=
  ((results.toList.take i).map fun r => r.spans.length).sum

theorem map_current_stopsFrom {n : Nat} {rest : List (SearchResult K)}
    (h : ∀ i r, rest[i]? = some r → results[n + i]? = some r) :
    (stopsFrom n rest).map (·.current results) =
      (rest.flatMap fun r => r.spans.map fun s => (r, s)).map some := by
  induction rest generalizing n with
  | nil => rfl
  | cons r rest ih =>
    have hr : results[n]? = some r := h 0 r rfl
    have hrest : ∀ i r, rest[i]? = some r → results[n + 1 + i]? = some r := by
      intro i r hi
      rw [Nat.add_assoc, Nat.add_comm 1 i]
      exact h (i + 1) r hi
    have hspans : (List.range r.spans.length).map (fun j => (on r n j).current results) =
        r.spans.map fun s => some (r, s) := by
      apply List.ext_getElem?
      intro j
      simp only [List.getElem?_map, current_on hr]
      by_cases hj : j < r.spans.length
      · simp [hj]
      · simp [hj]
    simp only [stopsFrom, List.flatMap_cons, List.map_append, List.map_map, Function.comp_def,
      hspans, ih hrest]

/-- The stops are on the matches. -/
theorem map_current_stops (results : Array (SearchResult K)) :
    (stops results).map (·.current results) = (allMatches results).map some := by
  apply map_current_stopsFrom
  intro i r hi
  rw [Nat.zero_add, ← Array.getElem?_toList]
  exact hi

theorem length_stops (results : Array (SearchResult K)) :
    (stops results).length = (allMatches results).length := by
  rw [← List.length_map (·.current results), map_current_stops, List.length_map]

theorem stops_eq_nil (hsize : results.size = 0) : stops results = [] := by
  rw [stops, Array.toList_eq_nil_iff.mpr (Array.eq_empty_of_size_eq_zero hsize)]
  rfl

theorem rank_succ (hr : results[i]? = some r) :
    rank results (i + 1) = rank results i + r.spans.length := by
  rw [← Array.getElem?_toList] at hr
  simp only [rank, List.take_add_one, hr, Option.toList_some, List.map_append, List.sum_append,
    List.map_cons, List.map_nil, List.sum_cons, List.sum_nil, Nat.add_zero]

theorem rank_size (results : Array (SearchResult K)) :
    rank results results.size = (stops results).length := by
  have htake : results.toList.take results.size = results.toList :=
    List.take_of_length_le (by simp)
  simp only [rank, htake, length_stops, allMatches, List.length_flatMap, List.length_map]

theorem getElem?_stopsFrom {n : Nat} {rest : List (SearchResult K)} (hr : rest[i]? = some r)
    (hj : j < r.spans.length) :
    (stopsFrom n rest)[((rest.take i).map fun r => r.spans.length).sum + j]? =
      some (on r (n + i) j) := by
  induction rest generalizing n i with
  | nil => cases hr
  | cons head rest ih =>
    cases i with
    | zero =>
      cases hr
      simp [stopsFrom, List.getElem?_append, hj]
    | succ i =>
      have hnext := ih (n := n + 1) hr
      rw [Nat.add_assoc, Nat.add_comm 1 i] at hnext
      simp only [stopsFrom, List.take_succ_cons, List.map_cons, List.sum_cons, Nat.add_assoc]
      rw [List.getElem?_append_right (by simp), List.length_map, List.length_range,
        Nat.add_sub_cancel_left]
      exact hnext

/-- The stop on a span of a result. -/
theorem getElem?_stops (hr : results[i]? = some r) (hj : j < r.spans.length) :
    (stops results)[rank results i + j]? = some (on r i j) := by
  have hstop := getElem?_stopsFrom (n := 0) (Array.getElem?_toList ▸ hr) hj
  rwa [Nat.zero_add] at hstop

theorem exists_of_getElem?_stopsFrom {n : Nat} {rest : List (SearchResult K)}
    (h : (stopsFrom n rest)[k]? = some stop) : ∃ i j r, rest[i]? = some r ∧ j < r.spans.length ∧
      k = ((rest.take i).map fun r => r.spans.length).sum + j ∧ stop = on r (n + i) j := by
  induction rest generalizing n k with
  | nil => cases h
  | cons head rest ih =>
    simp only [stopsFrom, List.getElem?_append, List.length_map, List.length_range] at h
    split at h
    · rename_i hk
      rw [List.getElem?_map, List.getElem?_range hk] at h
      cases h
      exact ⟨0, k, head, rfl, hk, by simp, rfl⟩
    · rename_i hk
      obtain ⟨i, j, r, hr, hj, hplace, rfl⟩ := ih h
      refine ⟨i + 1, j, r, hr, hj, ?_, by rw [Nat.add_assoc, Nat.add_comm 1 i]⟩
      simp only [List.take_succ_cons, List.map_cons, List.sum_cons]
      omega

/-- Every stop is on a span of a result. -/
theorem exists_of_getElem?_stops (h : (stops results)[k]? = some stop) :
    ∃ i j r, results[i]? = some r ∧ j < r.spans.length ∧ k = rank results i + j ∧
      stop = on r i j := by
  obtain ⟨i, j, r, hr, hj, hplace, rfl⟩ := exists_of_getElem?_stopsFrom h
  rw [Nat.zero_add]
  exact ⟨i, j, r, by rwa [Array.getElem?_toList] at hr, hj, hplace, rfl⟩

/-! ## Steps -/

/-- Step in a direction. -/
def move (d : Direction) (cursor : MatchCursor K) (results : Array (SearchResult K))
    (wrap : Bool) : MatchCursor K × Option CursorPosition :=
  match d with
  | .forward => cursor.next results wrap
  | .backward => cursor.previous results wrap

/-- Become another cursor, if there is one; also the new position. -/
def arrive (cursor : MatchCursor K) (stop? : Option (MatchCursor K)) :
    MatchCursor K × Option CursorPosition :=
  match stop? with
  | some stop => (stop, stop.position)
  | none => (cursor, none)

/-- A new cursor after some steps in a direction, some of which may wrap. -/
def walk (d : Direction) (results : Array (SearchResult K)) (wraps : List Bool) : MatchCursor K :=
  wraps.foldl (fun cursor wrap => (cursor.move d results wrap).1) unset

theorem walk_append (d : Direction) (wraps : List Bool) (wrap : Bool) :
    walk d results (wraps ++ [wrap]) = ((walk d results wraps).move d results wrap).1 :=
  List.foldl_append

/-- A walk stands where its last step arrived. -/
theorem getElem?_walk {d : Direction} {wraps : List Bool}
    (h : wraps.length < (stops results).length)
    (hmove : (walk d results wraps).move d results wrap = (walk d results wraps).arrive
      (stops results)[d.nth (stops results).length wraps.length]?) :
    (stops results)[d.nth (stops results).length wraps.length]? =
      some (walk d results (wraps ++ [wrap])) := by
  have hstop := List.getElem?_eq_getElem (d.nth_lt h)
  rw [walk_append, hmove, hstop]
  rfl

theorem moveTo_stop (hr : results[i]? = some r) (hj : j < r.spans.length)
    (hk : k = rank results i + j) :
    cursor.moveTo (standOn results i j) = cursor.arrive (stops results)[k]? := by
  rw [hk, getElem?_stops hr hj, moveTo_standOn cursor hr]
  rfl

theorem rank_lt (hr : results[i]? = some r) (hj : j < r.spans.length) :
    rank results i + j < (stops results).length :=
  (List.getElem?_eq_some_iff.mp (getElem?_stops hr hj)).1

section Matches

variable (hmatches : ∀ r ∈ results, r.spans ≠ [])
include hmatches

theorem moveTo_first : cursor.moveTo (first results) = cursor.arrive (stops results)[0]? := by
  cases hr : results[0]? with
  | some r => exact moveTo_stop hr (length_spans_pos hmatches hr) rfl
  | none =>
    have hnil := stops_eq_nil (Nat.le_zero.mp (Array.getElem?_eq_none_iff.mp hr))
    simp only [first, standOn, hr, Option.map_none, moveTo, hnil, List.getElem?_nil, arrive]

/-- The last match of the result with index `i` comes right before the matches of the next. -/
theorem moveTo_end (hr : results[i]? = some r) :
    cursor.moveTo (standOn results i (lastSpan results i)) =
      cursor.arrive (stops results)[rank results (i + 1) - 1]? := by
  have hpos := length_spans_pos hmatches hr
  rw [lastSpan_eq hr, rank_succ hr]
  exact moveTo_stop hr (by omega) (by omega)

theorem moveTo_last : cursor.moveTo (last results) =
    cursor.arrive (stops results)[(stops results).length - 1]? := by
  cases hr : results[results.size - 1]? with
  | some r =>
    have hlt := (Array.getElem?_eq_some_iff.mp hr).1
    rw [last, moveTo_end hmatches hr, Nat.sub_add_cancel (by omega), rank_size]
  | none =>
    have hsize := Array.getElem?_eq_none_iff.mp hr
    have hnil : stops results = [] := stops_eq_nil (by omega)
    simp only [last, standOn, hr, Option.map_none, moveTo, hnil, List.getElem?_nil, arrive]

theorem next_eq (hpos : cursor.position = some pos) (hr : results[pos.result]? = some r)
    (hspan : pos.span < r.spans.length) : cursor.next results wrap = cursor.arrive
      ((Direction.forward.after (stops results).length wrap
        (rank results pos.result + pos.span)).bind fun k => (stops results)[k]?) := by
  have hsize := (Array.getElem?_eq_some_iff.mp hr).1
  simp only [next, Direction.after, hpos, hr, Option.map_some, Option.getD_some]
  by_cases hinner : pos.span + 1 < r.spans.length
  · have hplace := rank_lt hr hinner
    rw [← Nat.add_assoc] at hplace
    rw [if_pos hinner, if_pos hplace]
    exact moveTo_stop hr hinner rfl
  · have hnext : rank results (pos.result + 1) = rank results pos.result + pos.span + 1 := by
      rw [rank_succ hr]
      omega
    rw [if_neg hinner]
    by_cases hmore : pos.result + 1 < results.size
    · -- the result is left for the first match of the next one
      have hr' : results[pos.result + 1]? = some results[pos.result + 1] :=
        Array.getElem?_eq_getElem hmore
      have hstart := length_spans_pos hmatches hr'
      have hplace := rank_lt hr' hstart
      rw [hnext] at hplace
      rw [if_pos hmore, if_pos hplace]
      exact moveTo_stop hr' hstart hnext.symm
    · have hend : pos.result + 1 = results.size := by omega
      have hplace : ¬ rank results pos.result + pos.span + 1 < (stops results).length := by
        rw [← hnext, hend, rank_size]
        exact Nat.lt_irrefl _
      rw [if_neg hmore, if_neg hplace]
      cases wrap with
      | true => exact moveTo_first hmatches
      | false => rfl

theorem previous_eq (hpos : cursor.position = some pos) (hr : results[pos.result]? = some r)
    (hspan : pos.span < r.spans.length) : cursor.previous results wrap = cursor.arrive
      ((Direction.backward.after (stops results).length wrap
        (rank results pos.result + pos.span)).bind fun k => (stops results)[k]?) := by
  have hsize := (Array.getElem?_eq_some_iff.mp hr).1
  simp only [previous, Direction.after, hpos]
  by_cases hinner : 0 < pos.span
  · have hplace : 0 < rank results pos.result + pos.span := by omega
    rw [if_pos ⟨hinner, hsize⟩, if_pos hplace]
    exact moveTo_stop hr (by omega) (by omega)
  · have hzero : pos.span = 0 := by omega
    rw [if_neg fun h => hinner h.1, hzero, Nat.add_zero]
    cases hresult : pos.result with
    | succ i =>
      -- the result is left for the last match of the one before
      rw [hresult] at hsize
      have hr' : results[i]? = some results[i] := Array.getElem?_eq_getElem (by omega)
      have hplace : 0 < rank results (i + 1) := by
        have hstart := length_spans_pos hmatches hr'
        rw [rank_succ hr']
        omega
      rw [if_pos ⟨Nat.succ_pos i, hsize.le⟩, if_pos hplace]
      exact moveTo_end hmatches hr'
    | zero =>
      have hfirst : rank results 0 = 0 := rfl
      rw [if_neg fun h => Nat.lt_irrefl 0 h.1, hfirst, if_neg (Nat.lt_irrefl 0)]
      cases wrap with
      | true => exact moveTo_last hmatches
      | false => rfl

/-- Where a step goes from a match depends on the place of the match alone. -/
theorem move_eq (d : Direction) (hpos : cursor.position = some pos)
    (hr : results[pos.result]? = some r) (hspan : pos.span < r.spans.length) :
    cursor.move d results wrap = cursor.arrive
      ((d.after (stops results).length wrap (rank results pos.result + pos.span)).bind
        fun k => (stops results)[k]?) := by
  cases d with
  | forward => exact next_eq hmatches hpos hr hspan
  | backward => exact previous_eq hmatches hpos hr hspan

/-- A cursor that stands nowhere goes to the place that is met first. -/
theorem move_unset (d : Direction) (wrap : Bool) :
    (unset : MatchCursor K).move d results wrap =
      unset.arrive (stops results)[d.nth (stops results).length 0]? := by
  cases d with
  | forward => exact moveTo_first hmatches
  | backward => exact moveTo_last hmatches

/-- A step from a stop. -/
theorem move_stop (d : Direction) (hstop : (stops results)[k]? = some stop) (wrap : Bool) :
    stop.move d results wrap = stop.arrive
      ((d.after (stops results).length wrap k).bind fun k => (stops results)[k]?) := by
  obtain ⟨i, j, r, hr, hj, rfl, rfl⟩ := exists_of_getElem?_stops hstop
  have hpos : (on r i j).position = some ⟨i, j, r.row, r.columnIndex⟩ := rfl
  exact move_eq hmatches d hpos hr hj

/-! ## Walks -/

/-- Each step of a walk goes to the place that is met next. -/
theorem move_walk (d : Direction) (wraps : List Bool) (wrap : Bool)
    (h : wraps.length < (stops results).length) :
    (walk d results wraps).move d results wrap = (walk d results wraps).arrive
      (stops results)[d.nth (stops results).length wraps.length]? := by
  induction wraps using List.reverseRecOn generalizing wrap with
  | nil => exact move_unset hmatches d wrap
  | append_singleton wraps last ih =>
    rw [List.length_append, List.length_singleton] at h ⊢
    have hlt : wraps.length < (stops results).length := Nat.lt_of_succ_lt h
    rw [move_stop hmatches d (getElem?_walk hlt (ih last hlt)), d.after_nth wrap h,
      Option.bind_some]

theorem move_walk_order (d : Direction) (wraps : List Bool) (wrap : Bool)
    (h : wraps.length < (stops results).length) :
    ∃ stop, (d.order (stops results))[wraps.length]? = some stop ∧
      (walk d results wraps).move d results wrap = (stop, stop.position) := by
  have hstop := List.getElem?_eq_getElem (d.nth_lt h)
  refine ⟨_, (d.getElem?_order _ h).trans hstop, ?_⟩
  rw [move_walk hmatches d wraps wrap h, hstop]
  rfl

/-- A walk past all matches stays on the last that was met, or begins again. -/
theorem move_walk_end (d : Direction) (wraps : List Bool) (hne : wraps ≠ [])
    (h : wraps.length = (stops results).length) :
    (walk d results wraps).move d results false = (walk d results wraps, none) ∧
      ∃ stop, (d.order (stops results))[0]? = some stop ∧
        (walk d results wraps).move d results true = (stop, stop.position) := by
  induction wraps using List.reverseRecOn with
  | nil => exact absurd rfl hne
  | append_singleton wraps last =>
    rw [List.length_append, List.length_singleton] at h
    have hlt : wraps.length < (stops results).length := by omega
    have hlast := getElem?_walk hlt (move_walk hmatches d wraps last hlt)
    have hstart : 0 < (stops results).length := by omega
    have hfirst := List.getElem?_eq_getElem (d.nth_lt hstart)
    refine ⟨?_, _, (d.getElem?_order _ hstart).trans hfirst, ?_⟩
    · rw [move_stop hmatches d hlast, d.after_last false h]
      rfl
    · rw [move_stop hmatches d hlast, d.after_last true h, if_pos rfl, Option.bind_some, hfirst]
      rfl

/-- A step that moved is undone by a step in the other direction. -/
theorem move_opposite (d : Direction) (hpos : cursor.position = some pos)
    (hr : results[pos.result]? = some r) (hspan : pos.span < r.spans.length)
    (hmoved : (cursor.move d results wrap).2 ≠ none) :
    (cursor.move d results wrap).1.move d.opposite results wrap =
      (on r pos.result pos.span, (on r pos.result pos.span).position) := by
  have hmove : cursor.move d results wrap = cursor.arrive
      ((d.after (stops results).length wrap (rank results pos.result + pos.span)).bind
        fun k => (stops results)[k]?) :=
    move_eq hmatches d hpos hr hspan
  cases hafter : d.after (stops results).length wrap (rank results pos.result + pos.span) with
  | none =>
    rw [hafter, Option.bind_none] at hmove
    rw [hmove] at hmoved
    exact absurd rfl hmoved
  | some k =>
    obtain ⟨hk, hback⟩ := d.after_opposite (rank_lt hr hspan) hafter
    have hstop := List.getElem?_eq_getElem hk
    rw [hafter, Option.bind_some, hstop] at hmove
    rw [hmove, arrive, move_stop hmatches d.opposite hstop, hback, Option.bind_some,
      getElem?_stops hr hspan]
    rfl

end Matches

/-- On results without a match no cursor moves. -/
theorem move_empty (d : Direction) (cursor : MatchCursor K) (wrap : Bool) :
    cursor.move d #[] wrap = (cursor, none) := by
  have hnone : ∀ i j, standOn (#[] : Array (SearchResult K)) i j = none := fun _ _ => rfl
  cases d with
  | forward =>
    simp only [move, next, first, hnone, ite_self]
    cases cursor.position <;> rfl
  | backward =>
    simp only [move, previous, last, hnone, ite_self]
    cases cursor.position <;> rfl

/-- On results that all have a match, a new cursor that goes in one direction visits all matches
in their order or in the opposite one, each once; then it stays, or begins again if it may wrap.
From whatever match a step goes, a step in the other direction leads back to it, also round the
end, and the cell that is remembered is the one that the match has now. On no results no cursor
moves. -/
theorem walk_visits_matches (results : Array (SearchResult K))
    (hmatches : ∀ r ∈ results, r.spans ≠ []) :
    (stops results).map (·.current results) = (allMatches results).map some ∧
    ∀ d : Direction,
      (∀ wraps wrap, wraps.length < (allMatches results).length →
        ∃ stop, (d.order (stops results))[wraps.length]? = some stop ∧
          (walk d results wraps).move d results wrap = (stop, stop.position)) ∧
      (∀ wraps, wraps ≠ [] → wraps.length = (allMatches results).length →
        (walk d results wraps).move d results false = (walk d results wraps, none) ∧
        ∃ stop, (d.order (stops results))[0]? = some stop ∧
          (walk d results wraps).move d results true = (stop, stop.position)) ∧
      (∀ (cursor : MatchCursor K) (pos : CursorPosition) (r : SearchResult K) (wrap : Bool),
        cursor.position = some pos → results[pos.result]? = some r →
        pos.span < r.spans.length → (cursor.move d results wrap).2 ≠ none →
        (cursor.move d results wrap).1.move d.opposite results wrap =
          (on r pos.result pos.span,
            some { pos with row := r.row, columnIndex := r.columnIndex })) ∧
      (results = #[] → ∀ (cursor : MatchCursor K) wrap,
        cursor.move d results wrap = (cursor, none)) := by
  refine ⟨map_current_stops results, fun d => ⟨?_, ?_, ?_, ?_⟩⟩
  · intro wraps wrap h
    rw [← length_stops] at h
    exact move_walk_order hmatches d wraps wrap h
  · intro wraps hne h
    rw [← length_stops] at h
    exact move_walk_end hmatches d wraps hne h
  · intro cursor pos r wrap hpos hr hspan hmoved
    exact move_opposite hmatches d hpos hr hspan hmoved
  · rintro rfl cursor wrap
    exact move_empty d cursor wrap

/-- Three matches in two cells: the last is reached by three steps, a fourth stays or wraps, and
from the first match a step back round the end is undone. -/
theorem walk_visits_matches_two_cells :
    let results := #[spaced 7 0 2, spaced 9 4 1]
    let walked := walk .forward results [false, false, false]
    (∀ r ∈ results, r.spans ≠ []) ∧ (allMatches results).length = 3 ∧
    (walk .forward results [false, false]).next results false =
      (on (spaced 9 4 1) 1 0, some ⟨1, 0, 4, 0⟩) ∧
    walked.next results false = (walked, none) ∧
    walked.next results true = (on (spaced 7 0 2) 0 0, some ⟨0, 0, 0, 0⟩) ∧
    (((on (spaced 7 0 2) 0 0).previous results true).1.next results true).2 =
      some ⟨0, 0, 0, 0⟩ := by
  intro results walked
  have hmatches : ∀ r ∈ results, r.spans ≠ [] := by decide
  obtain ⟨-, hwalk⟩ := walk_visits_matches results hmatches
  obtain ⟨hsteps, hbehind, -, -⟩ := hwalk .forward
  obtain ⟨-, -, hback, -⟩ := hwalk .backward
  obtain ⟨stop, hstop, hstep⟩ := hsteps [false, false] false (by decide)
  obtain ⟨hstays, start, hstart, hwraps⟩ := hbehind [false, false, false] (by decide) rfl
  cases hstop
  cases hstart
  refine ⟨hmatches, rfl, hstep, hstays, hwraps, ?_⟩
  exact congrArg Prod.snd
    (hback (on (spaced 7 0 2) 0 0) ⟨0, 0, 0, 0⟩ (spaced 7 0 2) true rfl rfl (by decide) (by decide))

end MatchCursor

end CellSearch
