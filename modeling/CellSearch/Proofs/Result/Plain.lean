import Mathlib
import CellSearch.Proofs.Engine.Bounds

/-!
# Results as a plain list

An edit of a result set cuts an array where a binary search says and moves what lies behind the
cut. The same edits are said here of a plain list, result by result (`ResultSet.Plain`): a result is
kept, moved or dropped for its own row alone, and fresh results are merged in by row. On results in
the order of their rows the two agree:

* `ResultSet.RowsSorted.toList_removeRows_eq`, `ResultSet.RowsSorted.snd_removeRows` — rows removed;
* `ResultSet.RowsSorted.toList_insertRows_eq` — rows inserted;
* `ResultSet.RowsSorted.removeRows_insertRows` — rows inserted and removed again;
* `ResultSet.RowsSorted.toList_spliceRows_eq` — rows replaced.

All of them follow from where a window cuts the results (`ResultSet.RowsSorted.exists_parts`). A
result keeps everything but its row (`SearchResult.content`).
-/

namespace CellSearch

variable {K : Type}

/-- A result apart from its row. -/
def SearchResult.content (r : SearchResult K) : SearchResult K := { r with row := 0 }

theorem SearchResult.content_raise (count : Nat) (r : SearchResult K) :
    (r.raise count).content = r.content := rfl

theorem SearchResult.content_lower (count : Nat) (r : SearchResult K) :
    (r.lower count).content = r.content := rfl

namespace ResultSet

open CellSearch.Interval

variable {s : ResultSet K} {a b c fresh : List (SearchResult K)} {rows : Interval}
variable {start count : Nat}

/-! ## Plain edits -/

namespace Plain

/-- The results in some rows. -/
def inside (rows : Interval) (items : List (SearchResult K)) : List (SearchResult K) :=
  items.filter fun r => rows.contains r.row

/-- The results in other rows. -/
def outside (rows : Interval) (items : List (SearchResult K)) : List (SearchResult K) :=
  items.filter fun r => !rows.contains r.row

/-- Drop the results of `count` rows from `start` on, and move the later ones down. -/
def removeRows (start count : Nat) (items : List (SearchResult K)) : List (SearchResult K) :=
  (outside (.ofLength start count) items).map fun r =>
    if start + count ≤ r.row then r.lower count else r

/-- Move the results at or behind `start` up. -/
def insertRows (start count : Nat) (items : List (SearchResult K)) : List (SearchResult K) :=
  items.map fun r => if start ≤ r.row then r.raise count else r

/-- Drop the results of some rows, and merge others in by their rows. -/
def spliceRows (rows : Interval) (fresh items : List (SearchResult K)) : List (SearchResult K) :=
  (outside rows items).merge fresh fun a b => a.row ≤ b.row

/-- What leaves all but the row of each result alone may be done to some of them. -/
theorem map_content_ite {p : SearchResult K → Prop} [DecidablePred p]
    {f : SearchResult K → SearchResult K} (hf : ∀ r, (f r).content = r.content)
    (items : List (SearchResult K)) :
    (items.map fun r => if p r then f r else r).map SearchResult.content =
      items.map SearchResult.content := by
  rw [List.map_map]
  apply List.map_congr_left
  intro r _
  dsimp only [Function.comp]
  split
  · exact hf r
  · rfl

theorem content_removeRows (start count : Nat) (items : List (SearchResult K)) :
    (removeRows start count items).map SearchResult.content =
      (outside (.ofLength start count) items).map SearchResult.content :=
  map_content_ite (SearchResult.content_lower count) _

theorem content_insertRows (start count : Nat) (items : List (SearchResult K)) :
    (insertRows start count items).map SearchResult.content = items.map SearchResult.content :=
  map_content_ite (SearchResult.content_raise count) _

/-! ## Merging and moving -/

/-- Results that lie before all others are merged in front of them. -/
theorem merge_behind (hc : ∀ r ∈ c, ∀ f ∈ fresh, f.row < r.row) :
    c.merge fresh (fun a b => a.row ≤ b.row) = fresh ++ c := by
  induction fresh with
  | nil => simp
  | cons f rest ih =>
    cases c with
    | nil => simp
    | cons r c =>
      -- the least of the others has to wait for every fresh result
      have hlt : f.row < r.row := hc r List.mem_cons_self f List.mem_cons_self
      rw [List.cons_merge_cons_neg _ _ _ (by simpa using hlt), List.cons_append]
      rw [ih fun r hr f hf => hc r hr f (List.mem_cons_of_mem _ hf)]

/-- Results are merged in between those that do not lie behind them and those that do. -/
theorem merge_append (ha : ∀ r ∈ a, ∀ f ∈ fresh, r.row ≤ f.row)
    (hc : ∀ r ∈ c, ∀ f ∈ fresh, f.row < r.row) :
    (a ++ c).merge fresh (fun a b => a.row ≤ b.row) = a ++ fresh ++ c := by
  induction a with
  | nil => exact merge_behind hc
  | cons r rest ih =>
    have hrest := ih fun r hr => ha r (List.mem_cons_of_mem _ hr)
    cases fresh with
    | nil => simp
    | cons f fresh =>
      have hle : r.row ≤ f.row := ha r List.mem_cons_self f List.mem_cons_self
      rw [List.cons_append, List.cons_merge_cons_pos _ _ _ (by simpa using hle), hrest]
      rfl

/-- What is done where a condition holds is done to the part where it holds. -/
theorem map_ite_append {p : SearchResult K → Prop} [DecidablePred p]
    {f : SearchResult K → SearchResult K} (ha : ∀ r ∈ a, ¬ p r) (hb : ∀ r ∈ b, p r) :
    (a ++ b).map (fun r => if p r then f r else r) = a ++ b.map f := by
  have hkept : a.map (fun r => if p r then f r else r) = a.map id :=
    List.map_congr_left fun r hr => if_neg (ha r hr)
  have hdone : b.map (fun r => if p r then f r else r) = b.map f :=
    List.map_congr_left fun r hr => if_pos (hb r hr)
  rw [List.map_append, hkept, hdone, List.map_id]

end Plain

/-! ## Windows -/

namespace Parts

theorem contains_before (h : Parts rows a b c) : ∀ r ∈ a, ¬ rows.contains r.row = true :=
  fun r hr hin => absurd (h.before r hr).1 (not_lt.mpr (contains_iff.mp hin).1)

theorem contains_within (h : Parts rows a b c) : ∀ r ∈ b, rows.contains r.row = true :=
  fun r hr => contains_iff.mpr (h.within r hr)

theorem contains_behind (h : Parts rows a b c) : ∀ r ∈ c, ¬ rows.contains r.row = true :=
  fun r hr hin => absurd (contains_iff.mp hin).2 (not_lt.mpr (h.behind r hr).2)

theorem inside_eq (h : Parts rows a b c) : Plain.inside rows (a ++ b ++ c) = b := by
  rw [Plain.inside, List.filter_append, List.filter_append,
    List.filter_eq_nil_iff.mpr h.contains_before, List.filter_eq_self.mpr h.contains_within,
    List.filter_eq_nil_iff.mpr h.contains_behind, List.nil_append, List.append_nil]

theorem outside_eq (h : Parts rows a b c) : Plain.outside rows (a ++ b ++ c) = a ++ c := by
  have ha : a.filter (fun r => !rows.contains r.row) = a :=
    List.filter_eq_self.mpr fun r hr => by simpa using h.contains_before r hr
  have hb : b.filter (fun r => !rows.contains r.row) = [] :=
    List.filter_eq_nil_iff.mpr fun r hr => by simpa using h.contains_within r hr
  have hc : c.filter (fun r => !rows.contains r.row) = c :=
    List.filter_eq_self.mpr fun r hr => by simpa using h.contains_behind r hr
  rw [Plain.outside, List.filter_append, List.filter_append, ha, hb, hc, List.append_nil]

/-- The middle part may be any results of the window. -/
theorem replace (h : Parts rows a b c) (hin : ∀ r ∈ fresh, rows.contains r.row = true) :
    Parts rows a fresh c :=
  ⟨h.before, fun r hr => contains_iff.mp (hin r hr), h.behind⟩

end Parts

/-- The rows from `start` on cut sorted results in three parts. -/
theorem RowsSorted.exists_parts_ofLength (hs : s.RowsSorted) (start count : Nat) :
    ∃ a b c, s.toList = a ++ b ++ c ∧ Parts (ofLength start count) a b c :=
  hs.exists_parts fun _ _ hle => le_trans (Nat.le_add_right start count) hle

/-! ## Removed and inserted rows -/

theorem RowsSorted.toList_removeRows_eq (hs : s.RowsSorted) (start count : Nat) :
    (s.removeRows start count).1.toList = Plain.removeRows start count s.toList := by
  rcases hs.exists_parts_ofLength start count with ⟨a, b, c, habc, hparts⟩
  have hremoved : (s.removeRows start count).1.toList = a ++ c.map (SearchResult.lower count) :=
    toList_removeRows habc (fun r hr => (hparts.before r hr).1) hparts.within
      fun r hr => (hparts.behind r hr).2
  rw [hremoved, Plain.removeRows, habc, hparts.outside_eq, Plain.map_ite_append]
  · exact fun r hr => not_le.mpr (hparts.before r hr).2
  · exact fun r hr => (hparts.behind r hr).2

/-- The number that comes with the remaining results is that of the results dropped. -/
theorem RowsSorted.snd_removeRows (hs : s.RowsSorted) (start count : Nat) :
    (s.removeRows start count).2 = (Plain.inside (ofLength start count) s.toList).length := by
  rcases hs.exists_parts_ofLength start count with ⟨a, b, c, habc, hparts⟩
  rw [habc, hparts.inside_eq]
  unfold removeRows
  by_cases hcount : count = 0
  · rw [if_pos hcount]
    -- no row lies in an empty window
    cases b with
    | nil => rfl
    | cons r rest =>
      have hr : start ≤ r.row ∧ r.row < start + count := hparts.within r List.mem_cons_self
      omega
  · have hlo : s.lowerBound start = a.length := (hparts.lowerBound_eq habc).1
    have hhi : s.lowerBound (start + count) = (a ++ b).length := (hparts.lowerBound_eq habc).2
    rw [if_neg hcount]
    simp only [hlo, hhi, List.length_append, Nat.add_sub_cancel_left]

theorem RowsSorted.toList_insertRows_eq (hs : s.RowsSorted) (start count : Nat) :
    (s.insertRows start count).toList = Plain.insertRows start count s.toList := by
  rcases exists_cut hs start with ⟨a, b, hab, ha, hb⟩
  rw [toList_insertRows hab ha hb, Plain.insertRows, hab]
  exact (Plain.map_ite_append (fun r hr => not_le.mpr (ha r hr)) hb).symm

/-- Rows that are removed right after they were inserted leave no trace. -/
theorem RowsSorted.removeRows_insertRows (hs : s.RowsSorted) (start count : Nat) :
    (s.insertRows start count).removeRows start count = (s, 0) := by
  rcases exists_cut hs start with ⟨a, b, hab, ha, hb⟩
  have hsorted : (s.insertRows start count).RowsSorted :=
    rowOrder_le.insertRows hs start count
  have hgap : (s.insertRows start count).toList = a ++ [] ++ b.map (SearchResult.raise count) := by
    rw [toList_insertRows hab ha hb, List.append_nil]
  have hbehind : ∀ r ∈ b.map (SearchResult.raise count), start + count ≤ r.row := by
    intro r hr
    obtain ⟨r', hr', rfl⟩ := List.mem_map.mp hr
    exact Nat.add_le_add_right (hb r' hr') count
  -- the gap is a window without results
  have hparts : Parts (ofLength start count) a [] (b.map (SearchResult.raise count)) :=
    .of_le (Nat.le_add_right start count) ha (by simp) hbehind
  apply Prod.ext
  · apply ext_toList
    rw [toList_removeRows hgap ha (by simp) hbehind, List.map_map,
      SearchResult.lower_comp_raise, List.map_id, hab]
  · rw [hsorted.snd_removeRows, hgap, hparts.inside_eq, List.length_nil]

/-! ## Replaced rows -/

section Splice

variable (hs : s.RowsSorted) (hopen : ∀ r ∈ s.toList, rows.stop ≤ r.row → rows.start ≤ r.row)
include hs hopen

/-- The fresh results take the place of those in the window. -/
theorem RowsSorted.exists_spliced (fresh : List (SearchResult K)) :
    ∃ a b c, s.toList = a ++ b ++ c ∧ Parts rows a b c ∧
      (s.spliceRows rows fresh).toList = a ++ fresh ++ c := by
  rcases hs.exists_parts hopen with ⟨a, b, c, habc, hparts⟩
  exact ⟨a, b, c, habc, hparts, hparts.toList_spliceRows habc⟩

variable (hin : ∀ r ∈ fresh, rows.contains r.row = true)
include hin

theorem RowsSorted.toList_spliceRows_eq :
    (s.spliceRows rows fresh).toList = Plain.spliceRows rows fresh s.toList := by
  rcases hs.exists_spliced hopen fresh with ⟨a, b, c, habc, hparts, hspliced⟩
  have hfresh := (hparts.replace hin).within
  rw [hspliced, Plain.spliceRows, habc, hparts.outside_eq, Plain.merge_append]
  · intro r hr f hf
    exact le_of_lt (lt_of_lt_of_le (hparts.before r hr).1 (hfresh f hf).1)
  · intro r hr f hf
    exact lt_of_lt_of_le (hfresh f hf).2 (hparts.behind r hr).2

/-- Outside of the window the results are those that were there before. -/
theorem RowsSorted.outside_spliceRows :
    Plain.outside rows (s.spliceRows rows fresh).toList = Plain.outside rows s.toList := by
  rcases hs.exists_spliced hopen fresh with ⟨a, b, c, habc, hparts, hspliced⟩
  rw [hspliced, habc, hparts.outside_eq, (hparts.replace hin).outside_eq]

/-- In the window they are the fresh ones. -/
theorem RowsSorted.inside_spliceRows :
    Plain.inside rows (s.spliceRows rows fresh).toList = fresh := by
  rcases hs.exists_spliced hopen fresh with ⟨a, b, c, habc, hparts, hspliced⟩
  rw [hspliced, (hparts.replace hin).inside_eq]

end Splice

/-! ## Agreement -/

/-- On sorted results each edit is the plain edit of their list, keeps them sorted, and leaves them
in their order with all but their rows; rows that are removed right after they were inserted leave
no trace. Sorted results of a window take the place of those in it, also in a window that ends
before it starts as long as no result lies between its ends. Checked edits do not fail while the
rows that they move to stay in machine words. -/
theorem edits_eq_plain (s : ResultSet K) (hs : s.RowsSorted) :
    (∀ start count,
      (s.removeRows start count).1.toList = Plain.removeRows start count s.toList ∧
      (s.removeRows start count).2 = (Plain.inside (ofLength start count) s.toList).length ∧
      (s.removeRows start count).1.RowsSorted ∧
      (s.removeRows start count).1.toList.map SearchResult.content =
        (Plain.outside (ofLength start count) s.toList).map SearchResult.content ∧
      (start + count ≤ maxWord →
        s.removeRows? start count = some (s.removeRows start count))) ∧
    (∀ start count,
      (s.insertRows start count).toList = Plain.insertRows start count s.toList ∧
      (s.insertRows start count).RowsSorted ∧
      (s.insertRows start count).toList.map SearchResult.content =
        s.toList.map SearchResult.content ∧
      (s.insertRows start count).removeRows start count = (s, 0) ∧
      ((∀ r ∈ s.toList, start ≤ r.row → r.row + count ≤ maxWord) →
        s.insertRows? start count = some (s.insertRows start count))) ∧
    ∀ (rows : Interval) (fresh : List (SearchResult K)),
      (fresh.Pairwise fun a b => a.row ≤ b.row) →
      (∀ r ∈ fresh, rows.contains r.row = true) →
      (∀ r ∈ s.toList, rows.stop ≤ r.row → rows.start ≤ r.row) →
      (s.spliceRows rows fresh).toList = Plain.spliceRows rows fresh s.toList ∧
      (s.spliceRows rows fresh).RowsSorted ∧
      Plain.outside rows (s.spliceRows rows fresh).toList = Plain.outside rows s.toList ∧
      Plain.inside rows (s.spliceRows rows fresh).toList = fresh ∧
      s.spliceRows? rows fresh = some (s.spliceRows rows fresh) := by
  refine ⟨fun start count => ?_, fun start count => ?_, fun rows fresh hfresh hin hopen => ?_⟩
  · have hplain := hs.toList_removeRows_eq start count
    refine ⟨hplain, hs.snd_removeRows start count, rowOrder_le.removeRows hs start count, ?_,
      removeRows?_eq hs⟩
    rw [hplain, Plain.content_removeRows]
  · have hplain := hs.toList_insertRows_eq start count
    refine ⟨hplain, rowOrder_le.insertRows hs start count, ?_, hs.removeRows_insertRows start count,
      insertRows?_eq hs⟩
    rw [hplain, Plain.content_insertRows]
  · have hrows : ∀ r ∈ fresh, rows.start ≤ r.row ∧ r.row < rows.stop :=
      fun r hr => contains_iff.mp (hin r hr)
    exact ⟨hs.toList_spliceRows_eq hopen hin,
      rowOrder_le.spliceRows_of_open hs hopen hfresh hrows, hs.outside_spliceRows hopen hin,
      hs.inside_spliceRows hopen hin, spliceRows?_eq (hs.lowerBound_le hopen) hrows⟩

/-- Two results in one row, in the windows and behind them. -/
theorem edits_eq_plain_repeated_rows :
    let result := fun key row => (⟨key, row, "name", 0, "abc", [⟨1, 2⟩]⟩ : SearchResult Nat)
    let s := ofList [result 0 0, result 1 2, result 2 2, result 3 3, result 4 7, result 5 7]
    let fresh := [result 6 2, result 7 3, result 8 3]
    s.RowsSorted ∧ (fresh.Pairwise fun a b => a.row ≤ b.row) ∧
      (∀ r ∈ fresh, (⟨2, 4⟩ : Interval).contains r.row = true) ∧
      (∀ r ∈ s.toList, 4 ≤ r.row → 2 ≤ r.row) ∧
      (s.removeRows 1 2).1.toList = [result 0 0, result 3 1, result 4 5, result 5 5] ∧
      (s.removeRows 1 2).2 = 2 ∧
      (s.insertRows 2 3).toList =
        [result 0 0, result 1 5, result 2 5, result 3 6, result 4 10, result 5 10] ∧
      (s.insertRows 2 3).removeRows 2 3 = (s, 0) ∧
      (s.spliceRows ⟨2, 4⟩ fresh).toList =
        [result 0 0, result 6 2, result 7 3, result 8 3, result 4 7, result 5 7] ∧
      s.removeRows? 1 2 = some (s.removeRows 1 2) ∧
      s.insertRows? 2 3 = some (s.insertRows 2 3) ∧
      s.spliceRows? ⟨2, 4⟩ fresh = some (s.spliceRows ⟨2, 4⟩ fresh) := by
  intro result s fresh
  have hs : s.RowsSorted := by simp [s, result, RowsSorted]
  have hfresh : fresh.Pairwise fun a b => a.row ≤ b.row := by simp [fresh, result]
  have hin : ∀ r ∈ fresh, (⟨2, 4⟩ : Interval).contains r.row = true := by
    simp [fresh, result, contains]
  have hopen : ∀ r ∈ s.toList, 4 ≤ r.row → 2 ≤ r.row := fun r _ hle => le_trans (by decide) hle
  rcases edits_eq_plain s hs with ⟨hremove, hinsert, hsplice⟩
  rcases hremove 1 2 with ⟨hremoved, hdropped, -, -, hremove?⟩
  rcases hinsert 2 3 with ⟨hinserted, -, -, hrestored, hinsert?⟩
  rcases hsplice ⟨2, 4⟩ fresh hfresh hin hopen with ⟨hspliced, -, -, -, hsplice?⟩
  rw [hremoved, hdropped, hinserted, hspliced]
  refine ⟨hs, hfresh, hin, hopen, by decide, by decide, by decide, hrestored, by cbv,
    hremove? (by decide), hinsert? ?_, hsplice?⟩
  simp [s, result, maxWord]

end ResultSet

end CellSearch
