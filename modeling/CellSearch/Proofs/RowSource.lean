import Mathlib
import CellSearch.RowSource

/-!
# Rows and their keys

A key is looked up by a scan of all rows. Where no two rows share a key, each row is found at its
place by its key (`RowSource.locate_ofList`).
-/

namespace CellSearch.RowSource

variable {R K : Type} [SearchRow R K] [DecidableEq K] {rows : List R}

theorem mem_places_ofList {key : K} {i : Nat} :
    i ∈ (ofList rows).places key ↔ ∃ row, rows[i]? = some row ∧ rowKey row = key := by
  simp only [places, ofList, List.mem_filter, List.mem_range,
    Option.any_eq_true, beq_iff_eq]
  constructor
  · rintro ⟨-, row, hrow, hkey⟩
    exact ⟨row, hrow, hkey⟩
  · rintro ⟨row, hrow, hkey⟩
    exact ⟨(List.getElem?_eq_some_iff.mp hrow).1, row, hrow, hkey⟩

/-- A key that no two rows share has one place at most. -/
theorem places_ofList_short (hkeys : (rows.map rowKey).Nodup) (key : K) :
    (ofList rows).places key = [] ∨
      ∃ i, (ofList rows).places key = [i] := by
  have hone : ∀ i j, i ∈ (ofList rows).places key →
      j ∈ (ofList rows).places key → i = j := by
    intro i j hi hj
    rcases mem_places_ofList.mp hi with ⟨a, ha, hakey⟩
    rcases mem_places_ofList.mp hj with ⟨b, hb, hbkey⟩
    have hlt := (List.getElem?_eq_some_iff.mp ha).1
    refine (List.getElem?_inj (l := rows.map rowKey) (by simpa using hlt) hkeys).mp ?_
    rw [List.getElem?_map, List.getElem?_map, ha, hb, Option.map_some, Option.map_some, hakey,
      hbkey]
  have hnodup : ((ofList rows).places key).Nodup := List.nodup_range.filter _
  generalize (ofList rows).places key = places at hone hnodup
  match places with
  | [] => exact Or.inl rfl
  | [i] => exact Or.inr ⟨i, rfl⟩
  | i :: j :: rest =>
    have hij : i = j := hone i j (by simp) (by simp)
    simp [hij] at hnodup

/-- Where keys differ from row to row no key is ambiguous, and each row is found by its key. -/
theorem locate_ofList (hkeys : (rows.map rowKey).Nodup) :
    (∀ key, (ofList rows).locate key ≠ .ambiguous) ∧
      ∀ i row, rows[i]? = some row → (ofList rows).locate (rowKey row) = .unique i := by
  constructor
  · intro key
    rcases places_ofList_short hkeys key with hnone | ⟨i, hone⟩
    · simp [locate, hnone]
    · simp [locate, hone]
  · intro i row hrow
    have hmem : i ∈ (ofList rows).places (rowKey row) :=
      mem_places_ofList.mpr ⟨row, hrow, rfl⟩
    rcases places_ofList_short hkeys (rowKey row) with hnone | ⟨j, hone⟩
    · rw [hnone] at hmem
      cases hmem
    · rw [hone, List.mem_singleton] at hmem
      simp [locate, hone, hmem]

end CellSearch.RowSource
