import Mathlib
import CellSearch.PartitionPoint

/-!
# The place a binary search finds

Binary search never looks at most of the array, so that it is right only where the condition
holds up to some place and nowhere after (`EndsAt`). There it finds the place
(`partitionPoint_eq`), whatever way the array is halved.
-/

namespace CellSearch

variable {α : Type} {p : α → Bool} {xs : Array α} {k : Nat}

/-- The condition holds for the first `k` elements and for no other. -/
def EndsAt (p : α → Bool) (xs : Array α) (k : Nat) : Prop :=
  k ≤ xs.size ∧ ∀ i, i < xs.size → (xs[i]?.any p = true ↔ i < k)

/-- Each halving keeps the place between `base` and `base + size`; an element is left behind on
the near side only after the condition was seen to hold at `base`. -/
theorem narrow_spec (h : EndsAt p xs k) (fuel base size : Nat) (hfuel : size ≤ fuel)
    (hsize : base + size ≤ xs.size) (hbase : base = 0 ∨ base < k) (hk : k ≤ base + size) :
    (narrow p xs fuel base size = 0 ∨ narrow p xs fuel base size < k) ∧
      k ≤ narrow p xs fuel base size + 1 := by
  induction fuel generalizing base size with
  | zero =>
    simp only [narrow]
    exact ⟨hbase, by omega⟩
  | succ fuel ih =>
    simp only [narrow]
    by_cases hone : size ≤ 1
    · rw [if_pos hone]
      exact ⟨hbase, by omega⟩
    · rw [if_neg hone]
      have hmiddle := h.2 (base + size / 2) (by omega)
      by_cases hp : xs[base + size / 2]?.any p = true
      · -- it holds in the middle, so that the place lies behind the middle
        rw [if_pos hp]
        have hlt : base + size / 2 < k := hmiddle.mp hp
        exact ih _ _ (by omega) (by omega) (Or.inr hlt) (by omega)
      · -- it fails in the middle, and the far half is left behind
        rw [if_neg hp]
        have hge : ¬ base + size / 2 < k := fun hlt => hp (hmiddle.mpr hlt)
        exact ih _ _ (by omega) (by omega) hbase (by omega)

/-- Binary search finds the place where the condition ends to hold. -/
theorem partitionPoint_eq (h : EndsAt p xs k) : partitionPoint p xs = k := by
  obtain ⟨hlow, hhigh⟩ := narrow_spec h xs.size 0 xs.size (le_refl _) (by omega)
    (Or.inl rfl) (by simpa using h.1)
  unfold partitionPoint
  generalize narrow p xs xs.size 0 xs.size = base at hlow hhigh
  -- one element is left, and it is looked at once more
  by_cases hbase : base < xs.size
  · have hiff := h.2 base hbase
    by_cases hp : xs[base]?.any p = true
    · have hlt := hiff.mp hp
      rw [if_pos hp]
      omega
    · have hge : ¬ base < k := fun hlt => hp (hiff.mpr hlt)
      rw [if_neg hp]
      omega
  · have hnone : xs[base]? = none := Array.getElem?_eq_none (by omega)
    have hk := h.1
    simp only [hnone, Option.any_none, Bool.false_eq_true, if_false]
    omega

theorem narrow_lt {fuel base size : Nat} (hpos : 0 < size) (hsize : base + size ≤ xs.size) :
    narrow p xs fuel base size < xs.size := by
  induction fuel generalizing base size with
  | zero =>
    simp only [narrow]
    omega
  | succ fuel ih =>
    simp only [narrow]
    split
    · omega
    · split <;> exact ih (by omega) (by omega)

/-- Whatever the condition is, the place that is found is in the array or right behind it. -/
theorem partitionPoint_le (p : α → Bool) (xs : Array α) : partitionPoint p xs ≤ xs.size := by
  by_cases hempty : xs.size = 0
  · rw [Array.eq_empty_of_size_eq_zero hempty]
    exact Nat.le_refl 0
  · have hlt : narrow p xs xs.size 0 xs.size < xs.size :=
      narrow_lt (Nat.pos_of_ne_zero hempty) (by omega)
    dsimp only [partitionPoint]
    split <;> omega

/-- A list in two parts, one where the condition holds and one where it does not, ends where the
first part does. -/
theorem endsAt_of_append {a b : List α} (hxs : xs.toList = a ++ b) (ha : ∀ x ∈ a, p x = true)
    (hb : ∀ x ∈ b, p x = false) : EndsAt p xs a.length := by
  have hsize : xs.size = a.length + b.length := by
    rw [← Array.length_toList, hxs, List.length_append]
  refine ⟨by omega, fun i hi => ?_⟩
  rw [← Array.getElem?_toList, hxs, List.getElem?_append]
  by_cases hlt : i < a.length
  · simp [hlt, ha]
  · have hib : i - a.length < b.length := by omega
    simp [hlt, List.getElem?_eq_getElem hib, hb]

/-- Where the elements are ordered and whatever comes before one with the condition has it too, the
list falls into those with the condition and those without. -/
theorem exists_cut_of_pairwise {rel : α → α → Prop} {items : List α} (h : items.Pairwise rel)
    (hdown : ∀ x y, rel x y → p y = true → p x = true) :
    ∃ a b, items = a ++ b ∧ (∀ x ∈ a, p x = true) ∧ ∀ x ∈ b, p x = false := by
  induction items with
  | nil => exact ⟨[], [], rfl, by simp, by simp⟩
  | cons x rest ih =>
    rcases List.pairwise_cons.mp h with ⟨hx, hrest⟩
    cases hp : p x with
    | true =>
      rcases ih hrest with ⟨a, b, hab, ha, hb⟩
      refine ⟨x :: a, b, by rw [hab, List.cons_append], ?_, hb⟩
      exact List.forall_mem_cons.mpr ⟨hp, ha⟩
    | false =>
      refine ⟨[], x :: rest, rfl, by simp, List.forall_mem_cons.mpr ⟨hp, ?_⟩⟩
      intro y hy
      rw [← Bool.not_eq_true]
      intro hpy
      rw [hdown x y (hx y hy) hpy] at hp
      cases hp

/-- In such an order the condition ends to hold at some place. -/
theorem exists_endsAt {rel : α → α → Prop} (h : xs.toList.Pairwise rel)
    (hdown : ∀ x y, rel x y → p y = true → p x = true) : ∃ k, EndsAt p xs k := by
  rcases exists_cut_of_pairwise h hdown with ⟨a, b, hxs, ha, hb⟩
  exact ⟨a.length, endsAt_of_append hxs ha hb⟩

end CellSearch
