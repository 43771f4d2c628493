import Mathlib
import CellSearch.Proofs.PartitionPoint
import CellSearch.Result.Set

/-!
# Edits of a result set

An edit of a result set cuts the results at rows that it finds by binary search. On results in
the order of their rows the cut is where the rows say, and each edit is then a statement about
two or three consecutive parts of the list:

* `ResultSet.toList_insertRows` — what lies at or behind the gap moves up;
* `ResultSet.toList_removeRows` — the middle part goes, what lies behind moves down;
* `ResultSet.toList_spliceRows` — the middle part is replaced.

The order of the results within a row plays no part in this. Every edit keeps every order that
looks at rows first (`ResultSet.RowOrder`): that of the rows alone, and the full order by row and,
in a row, by column (`ResultSet.InOrder`).
-/

namespace CellSearch

variable {K : Type}

@[simp] theorem SearchResult.raise_zero : (SearchResult.raise 0 : SearchResult K → _) = id := rfl

@[simp] theorem SearchResult.lower_zero : (SearchResult.lower 0 : SearchResult K → _) = id := rfl

@[simp] theorem SearchResult.lower_comp_raise (count : Nat) :
    (SearchResult.lower count ∘ SearchResult.raise count : SearchResult K → _) = id := by
  funext r
  simp [SearchResult.lower, SearchResult.raise]

section Extract

variable {α : Type} {xs : Array α} {a b : List α}

theorem toList_extract_front (hxs : xs.toList = a ++ b) :
    (xs.extract 0 a.length).toList = a := by
  simp [hxs]

theorem toList_extract_back (hxs : xs.toList = a ++ b) :
    (xs.extract a.length xs.size).toList = b := by
  have hsize : xs.size = a.length + b.length := by
    rw [← Array.length_toList, hxs, List.length_append]
  simp [hxs, hsize]

end Extract

/-- One result comes before another: in an earlier row, or in an earlier column of its row. -/
def SearchResult.Precedes (a b : SearchResult K) : Prop :=
  a.row < b.row ∨ (a.row = b.row ∧ a.columnIndex < b.columnIndex)

namespace ResultSet

@[simp] theorem toList_empty : (empty : ResultSet K).toList = [] := rfl

@[simp] theorem toList_ofList (items : List (SearchResult K)) :
    (ofList items).toList = items := rfl

theorem ext_toList {s t : ResultSet K} (h : s.toList = t.toList) : s = t := by
  cases s
  cases t
  simpa [toList] using h

/-! ## Cuts -/

variable {s : ResultSet K} {a b c : List (SearchResult K)} {row start stop count : Nat}

theorem lowerBound_eq (hs : s.toList = a ++ b) (ha : ∀ r ∈ a, r.row < row)
    (hb : ∀ r ∈ b, row ≤ r.row) : s.lowerBound row = a.length := by
  apply partitionPoint_eq
  apply endsAt_of_append hs
  · intro r hr
    simpa using ha r hr
  · intro r hr
    simpa using hb r hr

/-- Results before, in and behind a window. -/
structure Parts (rows : Interval) (a b c : List (SearchResult K)) : Prop where
  before : ∀ r ∈ a, r.row < rows.start ∧ r.row < rows.stop
  within : ∀ r ∈ b, rows.start ≤ r.row ∧ r.row < rows.stop
  behind : ∀ r ∈ c, rows.start ≤ r.row ∧ rows.stop ≤ r.row

/-- In a window that does not end before it starts, one of its ends tells what lies before it and
the other what lies behind. -/
theorem Parts.of_le {rows : Interval} (hle : rows.start ≤ rows.stop)
    (ha : ∀ r ∈ a, r.row < rows.start) (hb : ∀ r ∈ b, rows.start ≤ r.row ∧ r.row < rows.stop)
    (hc : ∀ r ∈ c, rows.stop ≤ r.row) : Parts rows a b c :=
  ⟨fun r hr => ⟨ha r hr, lt_of_lt_of_le (ha r hr) hle⟩, hb,
    fun r hr => ⟨le_trans hle (hc r hr), hc r hr⟩⟩

/-- The two cuts around the results of a window fall where the parts meet. -/
theorem Parts.lowerBound_eq {rows : Interval} (h : Parts rows a b c)
    (hs : s.toList = a ++ b ++ c) :
    s.lowerBound rows.start = a.length ∧ s.lowerBound rows.stop = (a ++ b).length := by
  constructor
  · apply ResultSet.lowerBound_eq (b := b ++ c) (by simpa using hs) fun r hr => (h.before r hr).1
    intro r hr
    rcases List.mem_append.mp hr with hr | hr
    · exact (h.within r hr).1
    · exact (h.behind r hr).1
  · apply ResultSet.lowerBound_eq hs _ fun r hr => (h.behind r hr).2
    intro r hr
    rcases List.mem_append.mp hr with hr | hr
    · exact (h.before r hr).2
    · exact (h.within r hr).2

/-- The two cuts around the results of the rows from `start` up to `stop`. -/
theorem lowerBound_window (hs : s.toList = a ++ b ++ c) (hle : start ≤ stop)
    (ha : ∀ r ∈ a, r.row < start) (hb : ∀ r ∈ b, start ≤ r.row ∧ r.row < stop)
    (hc : ∀ r ∈ c, stop ≤ r.row) :
    s.lowerBound start = a.length ∧ s.lowerBound stop = (a ++ b).length := by
  have hparts : Parts ⟨start, stop⟩ a b c := .of_le hle ha hb hc
  exact hparts.lowerBound_eq hs

/-! ## Edits -/

theorem toList_insertRows (hs : s.toList = a ++ b) (ha : ∀ r ∈ a, r.row < start)
    (hb : ∀ r ∈ b, start ≤ r.row) :
    (s.insertRows start count).toList = a ++ b.map (SearchResult.raise count) := by
  unfold insertRows
  by_cases hcount : count = 0
  · simp [hcount, hs]
  · rw [if_neg hcount, lowerBound_eq hs ha hb]
    simp only [toList, Array.toList_append, Array.toList_map]
    rw [toList_extract_front hs, size, toList_extract_back hs]

theorem toList_removeRows (hs : s.toList = a ++ b ++ c) (ha : ∀ r ∈ a, r.row < start)
    (hb : ∀ r ∈ b, start ≤ r.row ∧ r.row < start + count)
    (hc : ∀ r ∈ c, start + count ≤ r.row) :
    (s.removeRows start count).1.toList = a ++ c.map (SearchResult.lower count) := by
  unfold removeRows
  by_cases hcount : count = 0
  · -- no row lies in an empty window
    have hnil : b = [] := by
      apply List.eq_nil_iff_forall_not_mem.mpr
      intro r hr
      have := hb r hr
      omega
    simp [hcount, hs, hnil]
  · obtain ⟨hlo, hhi⟩ := lowerBound_window hs (Nat.le_add_right start count) ha hb hc
    rw [if_neg hcount, hlo, hhi]
    simp only [toList, Array.toList_append, Array.toList_map]
    rw [toList_extract_front (b := b ++ c) (by simpa [toList] using hs), size,
      toList_extract_back hs]

theorem Parts.toList_spliceRows {rows : Interval} {fresh : List (SearchResult K)}
    (h : Parts rows a b c) (hs : s.toList = a ++ b ++ c) :
    (s.spliceRows rows fresh).toList = a ++ fresh ++ c := by
  -- the two cuts fall where the three parts meet
  obtain ⟨hlo, hhi⟩ := h.lowerBound_eq hs
  unfold spliceRows
  rw [hlo, hhi]
  simp only [toList, Array.toList_append]
  rw [toList_extract_front (b := b ++ c) (by simpa [toList] using hs), size, toList_extract_back hs]

theorem toList_spliceRows {rows : Interval} {fresh : List (SearchResult K)}
    (hs : s.toList = a ++ b ++ c) (hle : rows.start ≤ rows.stop)
    (ha : ∀ r ∈ a, r.row < rows.start)
    (hb : ∀ r ∈ b, rows.start ≤ r.row ∧ r.row < rows.stop)
    (hc : ∀ r ∈ c, rows.stop ≤ r.row) :
    (s.spliceRows rows fresh).toList = a ++ fresh ++ c :=
  (Parts.of_le hle ha hb hc).toList_spliceRows hs

/-! ## Sorted rows -/

/-- The rows of the results never go down. -/
def RowsSorted (s : ResultSet K) : Prop :=
  s.toList.Pairwise fun a b => a.row ≤ b.row

theorem exists_cut {items : List (SearchResult K)}
    (h : items.Pairwise fun a b => a.row ≤ b.row) (row : Nat) :
    ∃ a b, items = a ++ b ∧ (∀ r ∈ a, r.row < row) ∧ (∀ r ∈ b, row ≤ r.row) := by
  have hdown : ∀ r r' : SearchResult K, r.row ≤ r'.row →
      decide (r'.row < row) = true → decide (r.row < row) = true := by
    intro r r' hle hlt
    simp only [decide_eq_true_eq] at hlt ⊢
    exact lt_of_le_of_lt hle hlt
  rcases exists_cut_of_pairwise h hdown with ⟨a, b, hab, ha, hb⟩
  exact ⟨a, b, hab, by simpa using ha, by simpa using hb⟩

/-- Sorted rows fall into those before, in and behind a window. -/
theorem RowsSorted.exists_window (hs : s.RowsSorted) (start stop : Nat) :
    ∃ a b c, s.toList = a ++ b ++ c ∧ (∀ r ∈ a, r.row < start) ∧
      (∀ r ∈ b, start ≤ r.row ∧ r.row < stop) ∧ (∀ r ∈ c, stop ≤ r.row) := by
  obtain ⟨front, c, hfront, hbelow, hc⟩ := exists_cut hs stop
  have hsorted : front.Pairwise fun a b => a.row ≤ b.row := by
    have h := hs
    rw [RowsSorted, hfront] at h
    exact (List.pairwise_append.mp h).1
  obtain ⟨a, b, hab, ha, hb⟩ := exists_cut hsorted start
  refine ⟨a, b, c, by rw [hfront, hab], ha, fun r hr => ⟨hb r hr, hbelow r ?_⟩, hc⟩
  rw [hab]
  exact List.mem_append_right a hr

/-- So they do for a window that ends before it starts, as long as no result lies between its
ends. -/
theorem RowsSorted.exists_parts (hs : s.RowsSorted) {rows : Interval}
    (hopen : ∀ r ∈ s.toList, rows.stop ≤ r.row → rows.start ≤ r.row) :
    ∃ a b c, s.toList = a ++ b ++ c ∧ Parts rows a b c := by
  obtain ⟨a, b, c, habc, ha, hb, hc⟩ := hs.exists_window rows.start rows.stop
  refine ⟨a, b, c, habc, ?_, hb, ?_⟩
  · -- what is not before the end as well would lie between the two ends
    intro r hr
    have hlt := ha r hr
    refine ⟨hlt, not_le.mp fun hle => absurd (hopen r ?_ hle) (not_le.mpr hlt)⟩
    rw [habc]
    exact List.mem_append_left c (List.mem_append_left b hr)
  · intro r hr
    refine ⟨hopen r ?_ (hc r hr), hc r hr⟩
    rw [habc]
    exact List.mem_append_right _ hr

/-! ## Order -/

/-- An order of results that looks at their rows first, and at rows only by comparing them. -/
structure RowOrder (rel : SearchResult K → SearchResult K → Prop) : Prop where
  le : ∀ a b, rel a b → a.row ≤ b.row
  of_lt : ∀ a b, a.row < b.row → rel a b
  raise_iff : ∀ count a b, rel (.raise count a) (.raise count b) ↔ rel a b

variable {rel : SearchResult K → SearchResult K → Prop}

theorem rowOrder_le : RowOrder fun a b : SearchResult K => a.row ≤ b.row where
  le _ _ h := h
  of_lt _ _ h := le_of_lt h
  raise_iff count _ _ := Nat.add_le_add_iff_right (n := count)

theorem rowOrder_precedes : RowOrder (SearchResult.Precedes : SearchResult K → _) where
  le := by
    intro a b hab
    rcases hab with hlt | ⟨heq, -⟩
    · exact le_of_lt hlt
    · exact le_of_eq heq
  of_lt _ _ h := .inl h
  raise_iff := by
    intro count a b
    simp [SearchResult.Precedes, SearchResult.raise]

/-- Subtraction keeps the order only of rows that `count` can be taken from. -/
theorem RowOrder.lower (h : RowOrder rel) {a b : SearchResult K} (ha : count ≤ a.row)
    (hb : count ≤ b.row) (hab : rel a b) : rel (.lower count a) (.lower count b) := by
  have hraise : ∀ r : SearchResult K, count ≤ r.row → (r.lower count).raise count = r := by
    intro r hr
    simp [SearchResult.raise, SearchResult.lower, Nat.sub_add_cancel hr]
  rw [← h.raise_iff count, hraise a ha, hraise b hb]
  exact hab

theorem RowOrder.rowsSorted (h : RowOrder rel) (hs : s.toList.Pairwise rel) : s.RowsSorted :=
  hs.imp fun {a b} hab => h.le a b hab

/-- Parts that are in order and lie one behind the other are in order together. -/
theorem RowOrder.append (h : RowOrder rel) {a b : List (SearchResult K)} (ha : a.Pairwise rel)
    (hb : b.Pairwise rel) (hlt : ∀ r ∈ a, r.row < row) (hge : ∀ r ∈ b, row ≤ r.row) :
    (a ++ b).Pairwise rel := by
  refine List.pairwise_append.mpr ⟨ha, hb, fun r hr r' hr' => h.of_lt r r' ?_⟩
  exact lt_of_lt_of_le (hlt r hr) (hge r' hr')

theorem RowOrder.insertRows (h : RowOrder rel) (hs : s.toList.Pairwise rel) (start count : Nat) :
    (s.insertRows start count).toList.Pairwise rel := by
  obtain ⟨a, b, hab, ha, hb⟩ := exists_cut (h.rowsSorted hs) start
  rw [hab] at hs
  obtain ⟨hoa, hob, -⟩ := List.pairwise_append.mp hs
  rw [toList_insertRows hab ha hb]
  refine h.append hoa (hob.map _ fun r r' => (h.raise_iff count r r').mpr) ha ?_
  intro r hr
  obtain ⟨r', hr', rfl⟩ := List.mem_map.mp hr
  exact le_trans (hb r' hr') (Nat.le_add_right _ _)

theorem RowOrder.removeRows (h : RowOrder rel) (hs : s.toList.Pairwise rel) (start count : Nat) :
    (s.removeRows start count).1.toList.Pairwise rel := by
  obtain ⟨a, b, c, habc, ha, hb, hc⟩ := (h.rowsSorted hs).exists_window start (start + count)
  rw [habc, List.append_assoc] at hs
  obtain ⟨hoa, hobc, -⟩ := List.pairwise_append.mp hs
  obtain ⟨-, hoc, -⟩ := List.pairwise_append.mp hobc
  rw [toList_removeRows habc ha hb hc]
  refine h.append hoa ?_ ha ?_
  · rw [List.pairwise_map]
    apply hoc.imp_of_mem
    intro r r' hr hr' hrel
    have := hc r hr
    have := hc r' hr'
    exact h.lower (by omega) (by omega) hrel
  · intro r hr
    obtain ⟨r', hr', rfl⟩ := List.mem_map.mp hr
    have := hc r' hr'
    simp only [SearchResult.lower]
    omega

theorem RowOrder.spliceRows_of_open (h : RowOrder rel) (hs : s.toList.Pairwise rel)
    {window : Interval} {fresh : List (SearchResult K)}
    (hopen : ∀ r ∈ s.toList, window.stop ≤ r.row → window.start ≤ r.row)
    (hfresh : fresh.Pairwise rel)
    (hin : ∀ r ∈ fresh, window.start ≤ r.row ∧ r.row < window.stop) :
    (s.spliceRows window fresh).toList.Pairwise rel := by
  obtain ⟨a, b, c, habc, hparts⟩ := (h.rowsSorted hs).exists_parts hopen
  rw [habc, List.append_assoc] at hs
  obtain ⟨hoa, hobc, -⟩ := List.pairwise_append.mp hs
  obtain ⟨-, hoc, -⟩ := List.pairwise_append.mp hobc
  rw [hparts.toList_spliceRows habc]
  have hfront : (a ++ fresh).Pairwise rel :=
    h.append hoa hfresh (fun r hr => (hparts.before r hr).1) fun r hr => (hin r hr).1
  have hbelow : ∀ r ∈ a ++ fresh, r.row < window.stop := by
    intro r hr
    rcases List.mem_append.mp hr with hr | hr
    · exact (hparts.before r hr).2
    · exact (hin r hr).2
  exact h.append hfront hoc hbelow fun r hr => (hparts.behind r hr).2

theorem RowOrder.spliceRows (h : RowOrder rel) (hs : s.toList.Pairwise rel) {window : Interval}
    {fresh : List (SearchResult K)} (hle : window.start ≤ window.stop)
    (hfresh : fresh.Pairwise rel)
    (hin : ∀ r ∈ fresh, window.start ≤ r.row ∧ r.row < window.stop) :
    (s.spliceRows window fresh).toList.Pairwise rel :=
  h.spliceRows_of_open hs (fun _ _ hstop => le_trans hle hstop) hfresh hin

/-- The results come in the order of their rows and, in a row, of their columns. -/
def InOrder (s : ResultSet K) : Prop :=
  s.toList.Pairwise SearchResult.Precedes

theorem InOrder.rowsSorted (hs : s.InOrder) : s.RowsSorted :=
  rowOrder_precedes.rowsSorted hs

/-! ## Tables of a size -/

/-- Every result lies in one of the first `rows` rows. -/
def Below (s : ResultSet K) (rows : Nat) : Prop :=
  ∀ r ∈ s.toList, r.row < rows

variable {rows : Nat}

theorem Below.insertRows (hb : s.Below rows) (hs : s.RowsSorted) (start count : Nat) :
    (s.insertRows start count).Below (rows + count) := by
  obtain ⟨a, b, hab, hlt, hge⟩ := exists_cut hs start
  intro r hr
  rw [toList_insertRows hab hlt hge] at hr
  rcases List.mem_append.mp hr with hr | hr
  · have := hb r (by rw [hab]; exact List.mem_append_left b hr)
    omega
  · obtain ⟨r', hr', rfl⟩ := List.mem_map.mp hr
    have := hb r' (by rw [hab]; exact List.mem_append_right a hr')
    simp only [SearchResult.raise]
    omega

theorem Below.removeRows (hb : s.Below rows) (hs : s.RowsSorted)
    (hfit : start + count ≤ rows) : (s.removeRows start count).1.Below (rows - count) := by
  obtain ⟨a, b, c, habc, ha, hwin, hc⟩ := hs.exists_window start (start + count)
  intro r hr
  rw [toList_removeRows habc ha hwin hc] at hr
  rcases List.mem_append.mp hr with hr | hr
  · have := ha r hr
    omega
  · obtain ⟨r', hr', rfl⟩ := List.mem_map.mp hr
    have := hb r' (by rw [habc]; exact List.mem_append_right _ hr')
    have := hc r' hr'
    simp only [SearchResult.lower]
    omega

theorem Below.spliceRows (hb : s.Below rows) (hs : s.RowsSorted) {window : Interval}
    {fresh : List (SearchResult K)} (hle : window.start ≤ window.stop)
    (hfresh : ∀ r ∈ fresh, r.row < rows) : (s.spliceRows window fresh).Below rows := by
  obtain ⟨a, b, c, habc, ha, hwin, hc⟩ := hs.exists_window window.start window.stop
  intro r hr
  rw [toList_spliceRows habc hle ha hwin hc] at hr
  have hkept : ∀ r', r' ∈ a ++ b ++ c → r'.row < rows := fun r' hr' => hb r' (habc ▸ hr')
  simp only [List.mem_append] at hr hkept
  rcases hr with (hr | hr) | hr
  · exact hkept r (Or.inl (Or.inl hr))
  · exact hfresh r hr
  · exact hkept r (Or.inr hr)

end ResultSet

end CellSearch
