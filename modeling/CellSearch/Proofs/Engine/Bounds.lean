import Mathlib
import CellSearch.Proofs.Engine.Check

/-!
# Edits within bounds

Results and dirty rows are moved by additions and subtractions, and results are cut at places that
a binary search finds. Here each edit is made again with every sum, difference and cut checked: a
sum may not leave a machine word, a difference may not fall below zero, a part of an array must lie
in the array, and fresh results must lie in the window that they are put into. A checked edit of
results fails on no sorted results whose rows leave room for it (`ResultSet.insertRows?_eq`,
`ResultSet.removeRows?_eq`, `ResultSet.spliceRows?_eq`), and a checked edit of dirty rows on none
that lie in the table (`DirtyRows.Within.insert?_eq`, `DirtyRows.remove?_eq`).
-/

namespace CellSearch

variable {R K : Type}

/-! ## Checked arithmetic -/

/-- The largest number of a machine word. -/
def maxWord : Nat := 2 ^ 64 - 1

/-- A sum that may not exceed a limit. -/
def sum? (limit a b : Nat) : Option Nat :=
  if a + b ≤ limit then some (a + b) else none

/-- A difference that may not fall below zero. -/
def diff? (a b : Nat) : Option Nat :=
  if b ≤ a then some (a - b) else none

/-- A part of an array, which must lie in it. -/
def part? {α : Type} (xs : Array α) (lo hi : Nat) : Option (Array α) :=
  if lo ≤ hi ∧ hi ≤ xs.size then some (xs.extract lo hi) else none

theorem sum?_eq {limit a b : Nat} (h : a + b ≤ limit) : sum? limit a b = some (a + b) :=
  if_pos h

theorem diff?_eq {a b : Nat} (h : b ≤ a) : diff? a b = some (a - b) :=
  if_pos h

theorem part?_eq {α : Type} {xs : Array α} {lo hi : Nat} (hle : lo ≤ hi) (hsize : hi ≤ xs.size) :
    part? xs lo hi = some (xs.extract lo hi) :=
  if_pos ⟨hle, hsize⟩

theorem mapM_eq_some {α β : Type} {f : α → Option β} {g : α → β} {xs : List α}
    (h : ∀ x ∈ xs, f x = some (g x)) : xs.mapM f = some (xs.map g) := by
  induction xs with
  | nil => rfl
  | cons x rest ih =>
    have hrest := ih fun y hy => h y (List.mem_cons_of_mem x hy)
    rw [List.mapM_cons, h x List.mem_cons_self, hrest]
    rfl

theorem mapM_toList_eq {α β : Type} {f : α → Option β} {g : α → β} {xs : Array α}
    (h : ∀ x ∈ xs.toList, f x = some (g x)) : xs.toList.mapM f = some (xs.map g).toList := by
  rw [mapM_eq_some h, Array.toList_map]

/-! ## Checked edits of results -/

namespace SearchResult

def raise? (count : Nat) (r : SearchResult K) : Option (SearchResult K) :=
  (sum? maxWord r.row count).map fun row => { r with row := row }

def lower? (count : Nat) (r : SearchResult K) : Option (SearchResult K) :=
  (diff? r.row count).map fun row => { r with row := row }

theorem raise?_eq {count : Nat} {r : SearchResult K} (h : r.row + count ≤ maxWord) :
    r.raise? count = some (r.raise count) := by
  rw [raise?, sum?_eq h]
  rfl

theorem lower?_eq {count : Nat} {r : SearchResult K} (h : count ≤ r.row) :
    r.lower? count = some (r.lower count) := by
  rw [lower?, diff?_eq h]
  rfl

end SearchResult

namespace ResultSet

variable {s : ResultSet K} {start count : Nat} {rows : Interval} {fresh : List (SearchResult K)}

def insertRows? (s : ResultSet K) (start count : Nat) : Option (ResultSet K) :=
  if count = 0 then some s
  else do
    let lo := s.lowerBound start
    let front ← part? s.items 0 lo
    let back ← part? s.items lo s.size
    let moved ← back.toList.mapM (SearchResult.raise? count)
    some ⟨front ++ moved.toArray⟩

def removeRows? (s : ResultSet K) (start count : Nat) : Option (ResultSet K × Nat) :=
  if count = 0 then some (s, 0)
  else do
    let stop ← sum? maxWord start count
    let lo := s.lowerBound start
    let hi := s.lowerBound stop
    let front ← part? s.items 0 lo
    let _ ← part? s.items lo hi
    let back ← part? s.items hi s.size
    let moved ← back.toList.mapM (SearchResult.lower? count)
    let dropped ← diff? hi lo
    some (⟨front ++ moved.toArray⟩, dropped)

def spliceRows? (s : ResultSet K) (rows : Interval) (fresh : List (SearchResult K)) :
    Option (ResultSet K) :=
  if fresh.all fun r => rows.contains r.row then do
    let lo := s.lowerBound rows.start
    let hi := s.lowerBound rows.stop
    let front ← part? s.items 0 lo
    let _ ← part? s.items lo hi
    let back ← part? s.items hi s.size
    some ⟨front ++ fresh.toArray ++ back⟩
  else none

theorem lowerBound_le_size (s : ResultSet K) (row : Nat) : s.lowerBound row ≤ s.items.size :=
  partitionPoint_le _ _

/-- Sorted rows are cut in order. -/
theorem RowsSorted.lowerBound_le (hs : s.RowsSorted)
    (hopen : ∀ r ∈ s.toList, rows.stop ≤ r.row → rows.start ≤ r.row) :
    s.lowerBound rows.start ≤ s.lowerBound rows.stop := by
  rcases hs.exists_parts hopen with ⟨a, b, c, habc, hparts⟩
  rcases hparts.lowerBound_eq habc with ⟨hlo, hhi⟩
  rw [hlo, hhi, List.length_append]
  exact Nat.le_add_right _ _

theorem RowsSorted.lowerBound_mono (hs : s.RowsSorted) {stop : Nat} (hle : start ≤ stop) :
    s.lowerBound start ≤ s.lowerBound stop := by
  let window : Interval := ⟨start, stop⟩
  have hopen : ∀ r ∈ s.toList, window.stop ≤ r.row → window.start ≤ r.row :=
    fun _ _ hstop => le_trans hle hstop
  exact hs.lowerBound_le hopen

theorem insertRows?_eq (hs : s.RowsSorted)
    (hmax : ∀ r ∈ s.toList, start ≤ r.row → r.row + count ≤ maxWord) :
    s.insertRows? start count = some (s.insertRows start count) := by
  have hlo := s.lowerBound_le_size start
  have hback : ∀ r ∈ (s.items.extract (s.lowerBound start) s.items.size).toList,
      r.row + count ≤ maxWord := by
    intro r hr
    rcases exists_cut hs start with ⟨a, b, hab, ha, hb⟩
    rw [lowerBound_eq hab ha hb, toList_extract_back hab] at hr
    exact hmax r (hab ▸ List.mem_append_right a hr) (hb r hr)
  have hmoved := mapM_toList_eq fun r hr => SearchResult.raise?_eq (hback r hr)
  unfold insertRows? insertRows
  split
  · rfl
  · simp only [size, part?_eq (Nat.zero_le _) hlo, part?_eq hlo (le_refl _), hmoved,
      Option.bind_eq_bind, Option.bind_some, Array.toArray_toList]

theorem removeRows?_eq (hs : s.RowsSorted) (hmax : start + count ≤ maxWord) :
    s.removeRows? start count = some (s.removeRows start count) := by
  have hlo := s.lowerBound_le_size start
  have hhi := s.lowerBound_le_size (start + count)
  have hle := hs.lowerBound_mono (Nat.le_add_right start count)
  -- what lies behind the window is at least `count` rows down
  have hback : ∀ r ∈ (s.items.extract (s.lowerBound (start + count)) s.items.size).toList,
      count ≤ r.row := by
    intro r hr
    rcases hs.exists_window start (start + count) with ⟨a, b, c, habc, ha, hb, hc⟩
    rw [(lowerBound_window habc (Nat.le_add_right _ _) ha hb hc).2,
      toList_extract_back habc] at hr
    exact le_trans (Nat.le_add_left _ _) (hc r hr)
  have hmoved := mapM_toList_eq fun r hr => SearchResult.lower?_eq (hback r hr)
  unfold removeRows? removeRows
  split
  · rfl
  · simp only [size, sum?_eq hmax, part?_eq (Nat.zero_le _) hlo, part?_eq hle hhi,
      part?_eq hhi (le_refl _), hmoved, diff?_eq hle, Option.bind_eq_bind, Option.bind_some,
      Array.toArray_toList]

theorem spliceRows?_eq (hcut : s.lowerBound rows.start ≤ s.lowerBound rows.stop)
    (hin : ∀ r ∈ fresh, rows.start ≤ r.row ∧ r.row < rows.stop) :
    s.spliceRows? rows fresh = some (s.spliceRows rows fresh) := by
  have hlo := s.lowerBound_le_size rows.start
  have hhi := s.lowerBound_le_size rows.stop
  have hall : (fresh.all fun r => rows.contains r.row) = true :=
    List.all_eq_true.mpr fun r hr => Interval.contains_iff.mpr (hin r hr)
  unfold spliceRows? spliceRows
  rw [if_pos hall]
  simp only [size, part?_eq (Nat.zero_le _) hlo, part?_eq hcut hhi, part?_eq hhi (le_refl _),
    Option.bind_eq_bind, Option.bind_some]

end ResultSet

/-! ## Checked edits of dirty rows -/

namespace DirtyRows

variable {d : DirtyRows} {start count rows n : Nat}

def raise? (start count : Nat) (r : Interval) : Option (List Interval) :=
  if r.stop ≤ start then some [r]
  else if start ≤ r.start then do
    let low ← sum? maxWord r.start count
    let high ← sum? maxWord r.stop count
    some [⟨low, high⟩]
  else do
    let low ← sum? maxWord start count
    let high ← sum? maxWord r.stop count
    some [⟨r.start, start⟩, ⟨low, high⟩]

def insert? (d : DirtyRows) (start count : Nat) : Option DirtyRows :=
  if count = 0 then some d
  else do
    let moved ← d.ranges.mapM (raise? start count)
    let stop ← sum? maxWord start count
    some (ofRanges (moved.flatten ++ [⟨start, stop⟩]))

def lower? (start stop count : Nat) (r : Interval) : Option (List Interval) :=
  let front := if r.start < start then [⟨r.start, min r.stop start⟩] else []
  if stop < r.stop then do
    let low ← diff? (max r.start stop) count
    let high ← diff? r.stop count
    some (front ++ [⟨low, high⟩])
  else some front

def remove? (d : DirtyRows) (start count : Nat) : Option DirtyRows :=
  if count = 0 then some d
  else do
    let stop ← sum? maxWord start count
    let moved ← d.ranges.mapM (lower? start stop count)
    some (ofRanges moved.flatten)

def mark? (d : DirtyRows) (row : Nat) : Option DirtyRows := do
  let stop ← sum? maxWord row 1
  some (d.mark ⟨row, stop⟩)

theorem raise?_eq {r : Interval} (hproper : r.start < r.stop) (hmax : r.stop + count ≤ maxWord) :
    raise? start count r = some (raise start count r) := by
  unfold raise? raise
  split
  · rfl
  · split
    · simp only [sum?_eq (show r.start + count ≤ maxWord by omega), sum?_eq hmax,
        Option.bind_eq_bind, Option.bind_some]
    · simp only [sum?_eq (show start + count ≤ maxWord by omega), sum?_eq hmax,
        Option.bind_eq_bind, Option.bind_some]

theorem Within.insert?_eq (h : d.Within rows) (hstart : start ≤ rows)
    (hmax : rows + count ≤ maxWord) : d.insert? start count = some (d.insert start count) := by
  have hmoved : d.ranges.mapM (raise? start count) = some (d.ranges.map (raise start count)) := by
    apply mapM_eq_some
    intro r hr
    have hstop := h.stop_le hr
    exact raise?_eq hstop.1 (by omega)
  unfold insert? DirtyRows.insert
  split
  · rfl
  · simp only [hmoved, sum?_eq (show start + count ≤ maxWord by omega), Option.bind_eq_bind,
      Option.bind_some, List.flatMap_def, Interval.ofLength]

theorem lower?_eq (start count : Nat) (r : Interval) :
    lower? start (start + count) count r = some (lower start count r) := by
  unfold lower? lower
  by_cases hback : start + count < r.stop
  · have hlow : count ≤ max r.start (start + count) :=
      le_trans (Nat.le_add_left count start) (le_max_right _ _)
    have hhigh : count ≤ r.stop := by omega
    simp only [if_pos hback, diff?_eq hlow, diff?_eq hhigh, Option.bind_eq_bind, Option.bind_some]
  · simp only [if_neg hback, List.append_nil]

theorem remove?_eq (hmax : start + count ≤ maxWord) :
    d.remove? start count = some (d.remove start count) := by
  have hmoved : d.ranges.mapM (lower? start (start + count) count) =
      some (d.ranges.map (lower start count)) :=
    mapM_eq_some fun r _ => lower?_eq start count r
  unfold remove? DirtyRows.remove
  split
  · rfl
  · simp only [sum?_eq hmax, hmoved, Option.bind_eq_bind, Option.bind_some, List.flatMap_def]

theorem mark?_eq (h : n + 1 ≤ maxWord) : d.mark? n = some (d.mark ⟨n, n + 1⟩) := by
  rw [mark?, sum?_eq h]
  rfl

end DirtyRows

end CellSearch
