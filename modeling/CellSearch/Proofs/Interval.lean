import Mathlib
import CellSearch.Interval

/-!
# Merged intervals

A list of intervals is canonical (`Interval.Canonical`) when none is empty and each ends before
the next begins, with at least one number between them. Merging keeps the numbers that a list
covers (`covers_merge`) and, of intervals that are not empty, makes a canonical list
(`canonical_merge`) whose ends are ends of intervals of the list (`mem_merge_ends`). A canonical
list is determined by the numbers that it covers (`Canonical.eq_of_covers`), so that the merged
list is the only canonical one that covers what the list does (`merge_only_cover`).
-/

namespace CellSearch.Interval

variable {i j current : Interval} {intervals rest : List Interval} {n : Nat}

/-! ## Covered numbers -/

theorem contains_iff : i.contains n = true ↔ i.start ≤ n ∧ n < i.stop := by
  simp [contains]

@[simp] theorem covers_nil : covers [] n = false := rfl

@[simp] theorem covers_cons : covers (i :: rest) n = (i.contains n || covers rest n) := rfl

@[simp] theorem covers_append {a b : List Interval} :
    covers (a ++ b) n = (covers a n || covers b n) := by
  simp [covers]

theorem covers_iff : covers intervals n = true ↔ ∃ i ∈ intervals, i.contains n = true := by
  simp [covers]

/-- Lists with the same intervals cover the same numbers. -/
theorem covers_congr {a b : List Interval} (h : ∀ i, i ∈ a ↔ i ∈ b) : covers a n = covers b n := by
  rw [Bool.eq_iff_iff, covers_iff, covers_iff]
  simp only [h]

/-! ## Sorting -/

theorem precedes_iff :
    i.precedes j = true ↔ i.start < j.start ∨ i.start = j.start ∧ i.stop ≤ j.stop := by
  simp [precedes]

/-- The starts of sorted intervals never go down. -/
theorem mergeSort_pairwise (intervals : List Interval) :
    (intervals.mergeSort precedes).Pairwise fun a b => a.start ≤ b.start := by
  refine (List.pairwise_mergeSort ?_ ?_ intervals).imp ?_
  · intro a b c hab hbc
    rw [precedes_iff] at hab hbc ⊢
    omega
  · intro a b
    rw [Bool.or_eq_true, precedes_iff, precedes_iff]
    omega
  · intro a b hab
    rw [precedes_iff] at hab
    omega

/-! ## Joining -/

/-- No interval is empty, and between each and the next lies a number that neither holds. -/
structure Canonical (intervals : List Interval) : Prop where
  proper : ∀ i ∈ intervals, i.start < i.stop
  separated : intervals.Pairwise fun a b => a.stop < b.start

/-- The intervals that `absorb` begins with do not start before the first. -/
def StartsAfter (current : Interval) (rest : List Interval) : Prop :=
  (current :: rest).Pairwise fun a b => a.start ≤ b.start

/-- The first of two touching intervals may be replaced by the two joined. -/
theorem StartsAfter.join (h : StartsAfter current (i :: rest)) (stop : Nat) :
    StartsAfter ⟨current.start, stop⟩ rest := by
  obtain ⟨hcurrent, hrest⟩ := List.pairwise_cons.mp h
  refine List.pairwise_cons.mpr ⟨fun j hj => ?_, (List.pairwise_cons.mp hrest).2⟩
  exact hcurrent j (List.mem_cons_of_mem i hj)

theorem StartsAfter.tail (h : StartsAfter current (i :: rest)) : StartsAfter i rest :=
  (List.pairwise_cons.mp h).2

theorem StartsAfter.head_le (h : StartsAfter current (i :: rest)) : current.start ≤ i.start :=
  (List.pairwise_cons.mp h).1 i List.mem_cons_self

theorem covers_absorb (h : StartsAfter current rest) :
    covers (absorb current rest) n = covers (current :: rest) n := by
  induction rest generalizing current with
  | nil => simp [absorb]
  | cons i rest ih =>
    have hle := h.head_le
    simp only [absorb]
    split
    · -- the two touch, so that joining them adds no number in between
      rename_i htouch
      rw [ih (h.join _)]
      simp only [covers_cons, ← Bool.or_assoc]
      congr 1
      rw [Bool.eq_iff_iff]
      simp only [Bool.or_eq_true, contains_iff]
      omega
    · simp only [covers_cons, ih h.tail]

theorem start_le_of_mem_absorb (h : StartsAfter current rest) (hj : j ∈ absorb current rest) :
    current.start ≤ j.start := by
  induction rest generalizing current with
  | nil =>
    rw [absorb, List.mem_singleton] at hj
    rw [hj]
  | cons i rest ih =>
    simp only [absorb] at hj
    split at hj
    · exact @ih ⟨current.start, max current.stop i.stop⟩ (h.join _) hj
    · rcases List.mem_cons.mp hj with rfl | hj
      · exact le_refl _
      · exact le_trans h.head_le (ih h.tail hj)

theorem canonical_absorb (h : StartsAfter current rest)
    (hproper : ∀ i ∈ current :: rest, i.start < i.stop) : Canonical (absorb current rest) := by
  induction rest generalizing current with
  | nil => exact ⟨by simpa [absorb] using hproper, by simp [absorb]⟩
  | cons i rest ih =>
    have hcurrent := hproper current List.mem_cons_self
    have hrest : ∀ j ∈ i :: rest, j.start < j.stop :=
      fun j hj => hproper j (List.mem_cons_of_mem current hj)
    simp only [absorb]
    split
    · apply ih (h.join _)
      intro j hj
      rcases List.mem_cons.mp hj with rfl | hj
      · exact lt_of_lt_of_le hcurrent (le_max_left _ _)
      · exact hrest j (List.mem_cons_of_mem i hj)
    · -- what follows starts at `i` or later, and `i` starts behind the gap
      rename_i hgap
      obtain ⟨hp, hs⟩ := ih h.tail hrest
      constructor
      · intro j hj
        rcases List.mem_cons.mp hj with rfl | hj
        · exact hcurrent
        · exact hp j hj
      · refine List.pairwise_cons.mpr ⟨fun j hj => ?_, hs⟩
        exact lt_of_lt_of_le (not_le.mp hgap) (start_le_of_mem_absorb h.tail hj)

/-- The ends of a joined interval are ends of intervals that were joined. -/
theorem mem_absorb_ends (hj : j ∈ absorb current rest) :
    (∃ i ∈ current :: rest, i.start = j.start) ∧ ∃ i ∈ current :: rest, i.stop = j.stop := by
  induction rest generalizing current with
  | nil =>
    rw [absorb, List.mem_singleton] at hj
    subst hj
    exact ⟨⟨j, List.mem_cons_self, rfl⟩, ⟨j, List.mem_cons_self, rfl⟩⟩
  | cons i rest ih =>
    simp only [absorb] at hj
    split at hj
    · obtain ⟨⟨a, ha, hstart⟩, ⟨b, hb, hstop⟩⟩ := ih hj
      constructor
      · rcases List.mem_cons.mp ha with rfl | ha
        · exact ⟨current, List.mem_cons_self, hstart⟩
        · exact ⟨a, by simp [ha], hstart⟩
      · rcases List.mem_cons.mp hb with rfl | hb
        · -- the joined interval ends where the longer of the two does
          have hmax : max current.stop i.stop = j.stop := hstop
          rcases max_choice current.stop i.stop with hlonger | hlonger
          · exact ⟨current, List.mem_cons_self, by rw [← hmax, hlonger]⟩
          · exact ⟨i, by simp, by rw [← hmax, hlonger]⟩
        · exact ⟨b, by simp [hb], hstop⟩
    · rcases List.mem_cons.mp hj with rfl | hj
      · exact ⟨⟨j, List.mem_cons_self, rfl⟩, ⟨j, List.mem_cons_self, rfl⟩⟩
      · obtain ⟨⟨a, ha, hstart⟩, ⟨b, hb, hstop⟩⟩ := ih hj
        exact ⟨⟨a, List.mem_cons_of_mem current ha, hstart⟩,
          ⟨b, List.mem_cons_of_mem current hb, hstop⟩⟩

/-- What is joined lies within what it was joined to. -/
theorem exists_mem_absorb_over (h : StartsAfter current rest) (hi : i ∈ current :: rest) :
    ∃ j ∈ absorb current rest, j.start ≤ i.start ∧ i.stop ≤ j.stop := by
  induction rest generalizing current i with
  | nil =>
    rw [List.mem_singleton.mp hi]
    exact ⟨current, List.mem_cons_self, le_refl _, le_refl _⟩
  | cons next rest ih =>
    simp only [absorb]
    split
    · have hjoined : ∀ k ∈ (⟨current.start, max current.stop next.stop⟩ : Interval) :: rest,
          ∃ j ∈ absorb ⟨current.start, max current.stop next.stop⟩ rest,
            j.start ≤ k.start ∧ k.stop ≤ j.stop := fun k hk => ih (h.join _) hk
      obtain ⟨j, hj, hstart, hstop⟩ := hjoined _ List.mem_cons_self
      have hstop' : max current.stop next.stop ≤ j.stop := hstop
      have hstart' : j.start ≤ current.start := hstart
      rcases List.mem_cons.mp hi with rfl | hi
      · exact ⟨j, hj, hstart', le_trans (le_max_left _ _) hstop'⟩
      · rcases List.mem_cons.mp hi with rfl | hi
        · exact ⟨j, hj, le_trans hstart' h.head_le, le_trans (le_max_right _ _) hstop'⟩
        · exact hjoined i (List.mem_cons_of_mem _ hi)
    · rcases List.mem_cons.mp hi with rfl | hi
      · exact ⟨i, List.mem_cons_self, le_refl _, le_refl _⟩
      · obtain ⟨j, hj, hover⟩ := ih h.tail hi
        exact ⟨j, List.mem_cons_of_mem _ hj, hover⟩

/-- Every joined interval holds one of those that were joined. -/
theorem exists_mem_under_absorb (hj : j ∈ absorb current rest) :
    ∃ i ∈ current :: rest, j.start ≤ i.start ∧ i.stop ≤ j.stop := by
  induction rest generalizing current with
  | nil =>
    rw [absorb, List.mem_singleton] at hj
    exact ⟨current, List.mem_cons_self, by rw [hj], by rw [hj]⟩
  | cons next rest ih =>
    simp only [absorb] at hj
    split at hj
    · obtain ⟨i, hi, hstart, hstop⟩ := ih hj
      rcases List.mem_cons.mp hi with rfl | hi
      · exact ⟨current, List.mem_cons_self, hstart, le_trans (le_max_left _ _) hstop⟩
      · exact ⟨i, by simp [hi], hstart, hstop⟩
    · rcases List.mem_cons.mp hj with rfl | hj
      · exact ⟨j, List.mem_cons_self, le_refl _, le_refl _⟩
      · obtain ⟨i, hi, hunder⟩ := ih hj
        exact ⟨i, List.mem_cons_of_mem _ hi, hunder⟩

/-! ## Merging -/

@[simp] theorem merge_nil : merge [] = [] := by
  simp [merge]

@[simp] theorem merge_singleton : merge [i] = [i] := by
  simp [merge, absorb]

/-- To merge intervals is to join them in the order of their starts. -/
theorem merge_cases (intervals : List Interval) :
    intervals = [] ∧ merge intervals = [] ∨
      ∃ first rest, StartsAfter first rest ∧ (∀ i, i ∈ first :: rest ↔ i ∈ intervals) ∧
        merge intervals = absorb first rest := by
  have hstarts := mergeSort_pairwise intervals
  have hmem : ∀ i, i ∈ intervals.mergeSort precedes ↔ i ∈ intervals :=
    fun _ => List.mem_mergeSort
  unfold merge
  cases h : intervals.mergeSort precedes with
  | nil =>
    left
    refine ⟨List.eq_nil_iff_forall_not_mem.mpr ?_, rfl⟩
    intro i hi
    rw [← hmem, h] at hi
    cases hi
  | cons first rest =>
    right
    rw [h] at hstarts hmem
    exact ⟨first, rest, hstarts, hmem, rfl⟩

/-- Merging keeps the numbers that are covered. -/
theorem covers_merge (intervals : List Interval) (n : Nat) :
    covers (merge intervals) n = covers intervals n := by
  rcases merge_cases intervals with ⟨rfl, hmerge⟩ | ⟨first, rest, hstarts, hmem, hmerge⟩
  · rw [hmerge]
  · rw [hmerge, covers_absorb hstarts, covers_congr hmem]

/-- Merged intervals are canonical if none of those that were merged was empty. -/
theorem canonical_merge (hproper : ∀ i ∈ intervals, i.start < i.stop) :
    Canonical (merge intervals) := by
  rcases merge_cases intervals with ⟨-, hmerge⟩ | ⟨first, rest, hstarts, hmem, hmerge⟩
  · rw [hmerge]
    exact ⟨by simp, List.Pairwise.nil⟩
  · rw [hmerge]
    exact canonical_absorb hstarts fun i hi => hproper i ((hmem i).mp hi)

/-- The ends of a merged interval are ends of intervals of the list. -/
theorem mem_merge_ends (hj : j ∈ merge intervals) :
    (∃ i ∈ intervals, i.start = j.start) ∧ ∃ i ∈ intervals, i.stop = j.stop := by
  rcases merge_cases intervals with ⟨-, hmerge⟩ | ⟨first, rest, -, hmem, hmerge⟩
  · rw [hmerge] at hj
    cases hj
  · rw [hmerge] at hj
    obtain ⟨⟨a, ha, hstart⟩, ⟨b, hb, hstop⟩⟩ := mem_absorb_ends hj
    exact ⟨⟨a, (hmem a).mp ha, hstart⟩, ⟨b, (hmem b).mp hb, hstop⟩⟩

/-- Every interval lies within a merged one. -/
theorem exists_mem_merge_over (hi : i ∈ intervals) :
    ∃ j ∈ merge intervals, j.start ≤ i.start ∧ i.stop ≤ j.stop := by
  rcases merge_cases intervals with ⟨rfl, -⟩ | ⟨first, rest, hstarts, hmem, hmerge⟩
  · cases hi
  · rw [hmerge]
    exact exists_mem_absorb_over hstarts ((hmem i).mpr hi)

/-- Every merged interval holds one of the list. -/
theorem exists_mem_under_merge (hj : j ∈ merge intervals) :
    ∃ i ∈ intervals, j.start ≤ i.start ∧ i.stop ≤ j.stop := by
  rcases merge_cases intervals with ⟨-, hmerge⟩ | ⟨first, rest, -, hmem, hmerge⟩
  · rw [hmerge] at hj
    cases hj
  · rw [hmerge] at hj
    obtain ⟨i, hi, hunder⟩ := exists_mem_under_absorb hj
    exact ⟨i, (hmem i).mp hi, hunder⟩

/-! ## Canonical lists -/

theorem Canonical.tail (h : Canonical (i :: rest)) : Canonical rest :=
  ⟨fun j hj => h.proper j (List.mem_cons_of_mem i hj), (List.pairwise_cons.mp h.separated).2⟩

/-- A number that a later interval holds lies behind the first and the gap after it. -/
theorem Canonical.stop_lt (h : Canonical (i :: rest)) (hn : covers rest n = true) :
    i.stop < n := by
  obtain ⟨j, hj, hcontains⟩ := covers_iff.mp hn
  have hgap : i.stop < j.start := (List.pairwise_cons.mp h.separated).1 j hj
  exact lt_of_lt_of_le hgap (contains_iff.mp hcontains).1

/-- The first interval begins with the least number that is covered. -/
theorem Canonical.start_le (h : Canonical (i :: rest)) (hn : covers (i :: rest) n = true) :
    i.start ≤ n := by
  rw [covers_cons, Bool.or_eq_true] at hn
  rcases hn with hn | hn
  · exact (contains_iff.mp hn).1
  · have hproper := h.proper i List.mem_cons_self
    have hstop := h.stop_lt hn
    omega

theorem Canonical.covers_start (h : Canonical (i :: rest)) : covers (i :: rest) i.start = true := by
  have hproper := h.proper i List.mem_cons_self
  rw [covers_cons, contains_iff.mpr ⟨le_refl _, hproper⟩, Bool.true_or]

/-- The number behind the first interval is in the gap. -/
theorem Canonical.not_covers_stop (h : Canonical (i :: rest)) :
    covers (i :: rest) i.stop = false := by
  rw [covers_cons, Bool.or_eq_false_iff]
  constructor
  · rw [← Bool.not_eq_true, contains_iff]
    omega
  · rw [← Bool.not_eq_true]
    intro hcovered
    exact absurd (h.stop_lt hcovered) (lt_irrefl _)

/-- Where two lists cover the same numbers and begin alike, the first interval of the one does not
reach into the first gap of the other. -/
theorem Canonical.stop_le_of_covers {a b : List Interval} (hb : Canonical (j :: b))
    (h : ∀ n, covers (i :: a) n = covers (j :: b) n) (hstart : i.start = j.start) :
    i.stop ≤ j.stop := by
  by_contra hlt
  have hproper := hb.proper j List.mem_cons_self
  have hin : covers (i :: a) j.stop = true := by
    rw [covers_cons, contains_iff.mpr ⟨by omega, by omega⟩, Bool.true_or]
  rw [h, hb.not_covers_stop] at hin
  cases hin

/-- A canonical list is determined by the numbers that it covers. -/
theorem Canonical.eq_of_covers {a b : List Interval} (ha : Canonical a) (hb : Canonical b)
    (h : ∀ n, covers a n = covers b n) : a = b := by
  induction a generalizing b with
  | nil =>
    cases b with
    | nil => rfl
    | cons j b =>
      have hstart := hb.covers_start
      rw [← h] at hstart
      cases hstart
  | cons i a ih =>
    cases b with
    | nil =>
      have hstart := ha.covers_start
      rw [h] at hstart
      cases hstart
    | cons j b =>
      -- both lists begin with the least number and leave the first gap at the same place
      have hstart : i.start = j.start := by
        have hi : j.start ≤ i.start := hb.start_le (by rw [← h, ha.covers_start])
        have hj : i.start ≤ j.start := ha.start_le (by rw [h, hb.covers_start])
        omega
      have hstop : i.stop = j.stop :=
        le_antisymm (hb.stop_le_of_covers h hstart)
          (ha.stop_le_of_covers (fun n => (h n).symm) hstart.symm)
      have hij : i = j := by
        cases i
        cases j
        simp_all
      subst hij
      rw [ih ha.tail hb.tail]
      intro n
      have hn := h n
      rw [covers_cons, covers_cons] at hn
      by_cases hin : i.contains n = true
      · -- what the first interval holds no later one does
        have hlt := (contains_iff.mp hin).2
        have hnot : ∀ {rest}, Canonical (i :: rest) → covers rest n = false := by
          intro rest hrest
          rw [← Bool.not_eq_true]
          intro hcovered
          have := hrest.stop_lt hcovered
          omega
        rw [hnot ha, hnot hb]
      · simpa [hin] using hn

/-- Lists that cover the same numbers are merged to the same intervals. -/
theorem merge_eq_of_covers {a b : List Interval} (ha : ∀ i ∈ a, i.start < i.stop)
    (hb : ∀ i ∈ b, i.start < i.stop) (h : ∀ n, covers a n = covers b n) : merge a = merge b := by
  apply (canonical_merge ha).eq_of_covers (canonical_merge hb)
  intro n
  rw [covers_merge, covers_merge, h]

/-- Where a list covers what another does, each merged interval of the other lies within one of
its own. -/
theorem exists_mem_merge_over_of_covers {a b : List Interval} (ha : ∀ i ∈ a, i.start < i.stop)
    (hb : ∀ i ∈ b, i.start < i.stop) (h : ∀ n, covers a n = true → covers b n = true)
    (hi : i ∈ merge a) : ∃ j ∈ merge b, j.start ≤ i.start ∧ i.stop ≤ j.stop := by
  -- to add the merged intervals of the one list to the other changes nothing
  have hadded : merge (merge a ++ b) = merge b := by
    apply merge_eq_of_covers _ hb
    · intro n
      rw [covers_append, covers_merge, Bool.or_eq_right_iff_imp]
      exact h n
    · intro j hj
      rcases List.mem_append.mp hj with hj | hj
      · exact (canonical_merge ha).proper j hj
      · exact hb j hj
  rw [← hadded]
  exact exists_mem_merge_over (List.mem_append_left b hi)

/-- Merging leaves a canonical list as it is. -/
theorem Canonical.merge_eq (h : Canonical intervals) : merge intervals = intervals :=
  (canonical_merge h.proper).eq_of_covers h (covers_merge intervals)

/-- The numbers in the intervals of a canonical list, one interval after the other, are the numbers
that the list covers, from the least up. -/
theorem Canonical.flatMap_range' (h : Canonical intervals) (hstop : ∀ i ∈ intervals, i.stop ≤ n) :
    (intervals.flatMap fun i => List.range' i.start i.len) =
      (List.range n).filter (covers intervals) := by
  have hin : ∀ i : Interval, ∀ k, k ∈ List.range' i.start i.len ↔ i.contains k = true := by
    intro i k
    rw [List.mem_range'_1, contains_iff, len]
    omega
  apply List.Pairwise.eq_of_mem_iff (r := (· < ·))
  · rw [List.pairwise_flatMap]
    refine ⟨fun i _ => List.pairwise_lt_range' 1, h.separated.imp ?_⟩
    intro i j hij a ha b hb
    have hbefore := (contains_iff.mp ((hin i a).mp ha)).2
    have hbehind := (contains_iff.mp ((hin j b).mp hb)).1
    omega
  · exact List.pairwise_lt_range.filter _
  · intro k
    rw [List.mem_flatMap, List.mem_filter, List.mem_range, covers_iff]
    simp only [hin]
    constructor
    · rintro ⟨i, hi, hk⟩
      exact ⟨lt_of_lt_of_le (contains_iff.mp hk).2 (hstop i hi), i, hi, hk⟩
    · rintro ⟨-, i, hi, hk⟩
      exact ⟨i, hi, hk⟩

/-! ## Canonical covers -/

/-- Between each interval and the next lies a number that no interval of the list holds. -/
def Apart (intervals : List Interval) : Prop :=
  intervals.IsChain fun a b => ∃ n, a.stop ≤ n ∧ n < b.start ∧ covers intervals n = false

/-- The number behind an interval of a canonical list is in no other one. -/
theorem Canonical.not_covers_stop_of_mem (h : Canonical intervals) (hi : i ∈ intervals) :
    covers intervals i.stop = false := by
  induction intervals with
  | nil => cases hi
  | cons head rest ih =>
    rcases List.mem_cons.mp hi with rfl | hi
    · exact h.not_covers_stop
    · have hgap : head.stop < i.start := (List.pairwise_cons.mp h.separated).1 i hi
      have hproper := h.tail.proper i hi
      have hhead : head.contains i.stop = false := by
        rw [← Bool.not_eq_true, contains_iff]
        omega
      rw [covers_cons, hhead, Bool.false_or]
      exact ih h.tail hi

/-- Whether a list is canonical can be seen from neighbours. -/
theorem canonical_iff_apart :
    Canonical intervals ↔ (∀ i ∈ intervals, i.start < i.stop) ∧ Apart intervals := by
  constructor
  · intro h
    refine ⟨h.proper, List.Pairwise.isChain (h.separated.imp_of_mem ?_)⟩
    intro a b ha _ hgap
    exact ⟨a.stop, le_refl _, hgap, h.not_covers_stop_of_mem ha⟩
  · rintro ⟨hproper, hapart⟩
    -- a gap before an interval that is not empty is a gap before all that follow it
    let before (a b : Interval) : Prop := a.stop < b.start ∧ b.start < b.stop
    have htrans : Trans before before before := by
      constructor
      intro a b c hab hbc
      rcases hab with ⟨hab, hb⟩
      rcases hbc with ⟨hbc, hc⟩
      exact ⟨hab.trans (hb.trans hbc), hc⟩
    have hchain : intervals.IsChain before := by
      apply List.IsChain.imp_of_mem_imp _ hapart
      rintro a b - hb ⟨n, hstop, hstart, -⟩
      exact ⟨lt_of_le_of_lt hstop hstart, hproper b hb⟩
    exact ⟨hproper, hchain.pairwise.imp fun hab => hab.1⟩

/-- The starts of a canonical list go up. -/
theorem Canonical.start_lt (h : Canonical intervals) :
    intervals.Pairwise fun a b => a.start < b.start := by
  apply h.separated.imp_of_mem
  intro a b ha _ hgap
  exact (h.proper a ha).trans hgap

/-- Lists may be merged before they are put together. -/
theorem merge_append_merge {a b : List Interval} (ha : ∀ i ∈ a, i.start < i.stop)
    (hb : ∀ i ∈ b, i.start < i.stop) : merge (merge a ++ merge b) = merge (a ++ b) := by
  have happend : ∀ {a b : List Interval}, (∀ i ∈ a, i.start < i.stop) →
      (∀ i ∈ b, i.start < i.stop) → ∀ i ∈ a ++ b, i.start < i.stop := by
    intro a b ha hb i hi
    rcases List.mem_append.mp hi with hi | hi
    · exact ha i hi
    · exact hb i hi
  apply merge_eq_of_covers
  · exact happend (canonical_merge ha).proper (canonical_merge hb).proper
  · exact happend ha hb
  · intro n
    rw [covers_append, covers_append, covers_merge, covers_merge]

/-- A list of fewer than two intervals is merged already. -/
theorem merge_of_length_lt_two (h : intervals.length < 2) : merge intervals = intervals := by
  match intervals, h with
  | [], _ => exact merge_nil
  | [i], _ => exact merge_singleton

/-- Of all lists without an empty interval, the merged one is the only one that covers the same
numbers, goes up, and has a number that is not covered between each interval and the next. So to
merge again changes nothing, the order of the intervals and their repetition leave no trace, and
lists may be merged before they are put together. -/
theorem merge_only_cover (intervals : List Interval)
    (hproper : ∀ i ∈ intervals, i.start < i.stop) :
    (∀ cover : List Interval, cover = merge intervals ↔
      (∀ n, covers cover n = covers intervals n) ∧ (∀ i ∈ cover, i.start < i.stop) ∧
        (cover.Pairwise fun a b => a.start < b.start) ∧ Apart cover) ∧
    merge (merge intervals) = merge intervals ∧
    (∀ others, (∀ i, i ∈ others ↔ i ∈ intervals) → merge others = merge intervals) ∧
    (∀ others, (∀ i ∈ others, i.start < i.stop) →
      merge (merge intervals ++ merge others) = merge (intervals ++ others)) ∧
    (intervals.length < 2 → merge intervals = intervals) := by
  have hmerged := canonical_merge hproper
  refine ⟨?_, hmerged.merge_eq, ?_, ?_, merge_of_length_lt_two⟩
  · intro cover
    constructor
    · rintro rfl
      exact ⟨covers_merge intervals, hmerged.proper, hmerged.start_lt,
        (canonical_iff_apart.mp hmerged).2⟩
    · rintro ⟨hcovers, hcover, -, hapart⟩
      apply (canonical_iff_apart.mpr ⟨hcover, hapart⟩).eq_of_covers hmerged
      intro n
      rw [hcovers, covers_merge]
  · intro others hsame
    apply merge_eq_of_covers _ hproper fun n => covers_congr hsame
    intro i hi
    exact hproper i ((hsame i).mp hi)
  · intro others hothers
    exact merge_append_merge hproper hothers

/-- Nested, touching, repeated and separate intervals in no order. -/
theorem merge_only_cover_six :
    let intervals : List Interval := [⟨7, 9⟩, ⟨0, 4⟩, ⟨4, 6⟩, ⟨1, 2⟩, ⟨0, 4⟩, ⟨12, 13⟩]
    (∀ i ∈ intervals, i.start < i.stop) ∧
      merge intervals = [⟨0, 6⟩, ⟨7, 9⟩, ⟨12, 13⟩] ∧
      merge (merge intervals ++ merge [⟨6, 7⟩]) = merge (intervals ++ [⟨6, 7⟩]) ∧
      ∀ cover, cover = merge intervals ↔
        (∀ n, covers cover n = covers intervals n) ∧ (∀ i ∈ cover, i.start < i.stop) ∧
          (cover.Pairwise fun a b => a.start < b.start) ∧ Apart cover := by
  intro intervals
  have hproper : ∀ i ∈ intervals, i.start < i.stop := by decide
  rcases merge_only_cover intervals hproper with ⟨honly, -, -, happend, -⟩
  exact ⟨hproper, by cbv, happend [⟨6, 7⟩] (by decide), honly⟩

end CellSearch.Interval
