import Mathlib
import CellSearch.Proofs.Engine.EditedSource

/-!
# The table of the owner

The owner keeps the rows and edits them at will; a structural edit is reported by the change
that describes it (`CollectionChange.Describes`). The engine has only the reports. It can make
the same edits on the table that it scanned last, and what it then has agrees with the table of
the owner: rows that came in since are rows without content, and any other row is the row of the
owner, or its cells were changed (`RowSource.Agrees`).
-/

namespace CellSearch

variable {R K : Type}

/-- A row of the owner, and whether it came into the table since the last flush. -/
structure HostRow (R : Type) where
  row : R
  isNew : Bool

/-- The change says how the rows before became the rows after. Rows that come in are new. A move
only has to keep the rows, and a reset nothing. -/
def CollectionChange.Describes (before after : List (HostRow R)) : CollectionChange → Prop
  | add start count => ∃ fresh : List R, fresh.length = count ∧ start ≤ before.length ∧
      after = before.take start ++ fresh.map (⟨·, true⟩) ++ before.drop start
  | remove start count => start + count ≤ before.length ∧
      after = before.take start ++ before.drop (start + count)
  | replace start removed added => ∃ fresh : List R, fresh.length = added ∧
      start + removed ≤ before.length ∧
      after = before.take start ++ fresh.map (⟨·, true⟩) ++ before.drop (start + removed)
  | move _ _ _ => before.Perm after
  | reset => True

namespace RowSource

variable [SearchRow R K]

/-- A source has as many rows as the owner, and none of them is new; a row whose key is not among
the edited ones is the row of the owner, any other has at least its key. -/
structure Agrees (v : RowSource R) (rows : List (HostRow R)) (edited : List K) : Prop where
  count_eq : v.count = rows.length
  old : ∀ i host r, rows[i]? = some host → v.row? i = some r →
    host.isNew = false ∧ rowKey r = rowKey host.row ∧ (r = host.row ∨ rowKey host.row ∈ edited)

variable {v : RowSource R} {rows fresh : List (HostRow R)} {edited : List K}
variable {start count : Nat}

theorem agrees_ofList (rows : List R) (edited : List K) :
    (ofList rows).Agrees (rows.map (⟨·, false⟩)) edited := by
  refine ⟨by simp [ofList], fun i host r hhost hr => ?_⟩
  rw [List.getElem?_map, show rows[i]? = some r from hr] at hhost
  cases hhost
  exact ⟨rfl, rfl, Or.inl rfl⟩

/-! ## Structural edits -/

theorem Agrees.openGap (h : v.Agrees rows edited) (hfresh : fresh.length = count)
    (hstart : start ≤ rows.length) :
    (v.openGap start count).Agrees (rows.take start ++ fresh ++ rows.drop start) edited := by
  refine ⟨?_, fun i host r hhost hr => ?_⟩
  · simp only [RowSource.openGap, h.count_eq, List.length_append, List.length_take,
      List.length_drop, hfresh]
    omega
  · rw [getElem?_insertWindow hstart, hfresh] at hhost
    simp only [RowSource.openGap] at hr
    -- a row in the gap has no content
    split at hr
    · rename_i hfront
      rw [if_pos hfront] at hhost
      exact h.old i host r hhost hr
    · rename_i hge
      rw [if_neg hge] at hhost
      split at hr
      · cases hr
      · rename_i hbehind
        rw [if_neg hbehind] at hhost
        exact h.old (i - count) host r hhost hr

theorem Agrees.closeGap (h : v.Agrees rows edited) (hfit : start + count ≤ rows.length) :
    (v.closeGap start count).Agrees (rows.take start ++ rows.drop (start + count)) edited := by
  refine ⟨?_, fun i host r hhost hr => ?_⟩
  · simp only [RowSource.closeGap, h.count_eq, List.length_append, List.length_take,
      List.length_drop]
    omega
  · rw [getElem?_removeWindow hfit] at hhost
    simp only [RowSource.closeGap] at hr
    split at hr
    · rename_i hfront
      rw [if_pos hfront] at hhost
      exact h.old i host r hhost hr
    · rename_i hge
      rw [if_neg hge] at hhost
      exact h.old (i + count) host r hhost hr

/-- Edits that are made as they were reported keep the agreement. -/
theorem Agrees.perform (h : v.Agrees rows edited) {change : CollectionChange}
    {after : List (HostRow R)} (hchange : change.Describes rows after)
    (hmove : ∀ source target count, change ≠ .move source target count)
    (hreset : change ≠ .reset) :
    (change.rowEdits.foldl RowEdit.perform v).Agrees after edited := by
  cases change with
  | add start count =>
    obtain ⟨fresh, hfresh, hstart, rfl⟩ := hchange
    exact h.openGap (by simpa using hfresh) hstart
  | remove start count =>
    obtain ⟨hfit, rfl⟩ := hchange
    exact h.closeGap hfit
  | replace start removed added =>
    obtain ⟨fresh, hfresh, hfit, rfl⟩ := hchange
    -- the new rows go where the old ones were
    have hadded : (fresh.map fun row => (⟨row, true⟩ : HostRow R)).length = added := by
      simpa using hfresh
    have hstart : start ≤ (rows.take start ++ rows.drop (start + removed)).length := by
      simp only [List.length_append, List.length_take, List.length_drop]
      omega
    have hreplaced := (h.closeGap hfit).openGap hadded hstart
    rw [insertWindow_removeWindow (by omega)] at hreplaced
    exact hreplaced
  | move source target count => exact absurd rfl (hmove source target count)
  | reset => exact absurd rfl hreset

/-! ## Changes of cells -/

theorem Agrees.set_new (h : v.Agrees rows edited) {i : Nat} {old row : R}
    (hold : rows[i]? = some ⟨old, true⟩) : v.Agrees (rows.set i ⟨row, true⟩) edited := by
  refine ⟨by rw [h.count_eq, List.length_set], fun j host r hhost hr => ?_⟩
  by_cases heq : i = j
  · subst heq
    -- a new row has no content to disagree with
    have hfalse := (h.old i ⟨old, true⟩ r hold hr).1
    cases hfalse
  · rw [List.getElem?_set_ne heq] at hhost
    exact h.old j host r hhost hr

theorem Agrees.set_old (h : v.Agrees rows edited) {i : Nat} {old row : R}
    (hold : rows[i]? = some ⟨old, false⟩) (hkey : rowKey row = rowKey old) :
    v.Agrees (rows.set i ⟨row, false⟩) (rowKey row :: edited) := by
  refine ⟨by rw [h.count_eq, List.length_set], fun j host r hhost hr => ?_⟩
  by_cases heq : i = j
  · subst heq
    have hlt : i < rows.length := (List.getElem?_eq_some_iff.mp hold).1
    rw [List.getElem?_set_self hlt] at hhost
    cases hhost
    have hr' := (h.old i ⟨old, false⟩ r hold hr).2.1
    exact ⟨rfl, hr'.trans hkey.symm, Or.inr List.mem_cons_self⟩
  · rw [List.getElem?_set_ne heq] at hhost
    obtain ⟨hnew, hkey', hsame⟩ := h.old j host r hhost hr
    exact ⟨hnew, hkey', hsame.imp_right (List.mem_cons_of_mem _)⟩

/-- If no key was edited, a list of rows that agrees is the table itself. -/
theorem Agrees.eq_of_ofList {base : List R} (h : (ofList base).Agrees rows ([] : List K)) :
    rows.map HostRow.row = base := by
  apply List.ext_getElem?
  intro i
  have hlen : base.length = rows.length := h.count_eq
  rw [List.getElem?_map]
  rcases lt_or_ge i rows.length with hlt | hge
  · have hi : i < base.length := by omega
    rw [List.getElem?_eq_getElem hlt, List.getElem?_eq_getElem hi]
    obtain ⟨-, -, hsame⟩ := h.old i rows[i] base[i] (List.getElem?_eq_getElem hlt)
      (List.getElem?_eq_getElem hi)
    rcases hsame with hsame | hmem
    · rw [Option.map_some, hsame]
    · cases hmem
  · rw [List.getElem?_eq_none hge, List.getElem?_eq_none (by omega), Option.map_none]

end RowSource

end CellSearch
