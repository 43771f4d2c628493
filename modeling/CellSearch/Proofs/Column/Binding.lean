import Mathlib
import CellSearch.Column.Binding
import CellSearch.Query.Cache

/-!
# Columns, plans and prepared descriptors

What the engine keeps between two flushes, each with what it was made from. Bound columns are
those that can be searched (`ColumnSet.mem_boundFrom`), numbered upwards
(`ColumnSet.bind_index_lt`); a plan visits those that some descriptor searches
(`ScopePlan.mem_build_entries`), upwards too (`ScopePlan.build_position_lt`). A cache that holds
prepared forms of its descriptors answers with the prepared form of any other
(`PreparedCache.getAll_prepared`), whatever it has forgotten.
-/

namespace CellSearch

variable {R : Type}

/-! ## Bound columns -/

namespace ColumnSet

theorem bind_eq_ok {policy : MissingAccessorPolicy} {live : List (Column R)} {set : ColumnSet R}
    (h : bind policy live = .ok set) : set = ⟨boundFrom 0 live, missingFrom 0 live⟩ := by
  unfold bind at h
  split at h
  · cases h
  · exact (Except.ok.inj h).symm

/-- The first live column without text is the first searchable one that has no accessor. -/
theorem head?_missingFrom (live : List (Column R)) (index : Nat) :
    (missingFrom index live).head?.map (·.column) =
      (live.find? fun c => c.searchable && c.accessor.isNone).map (·.id) := by
  induction live generalizing index with
  | nil => rfl
  | cons head rest ih =>
    simp only [missingFrom, List.find?_cons]
    cases hmissing : head.searchable && head.accessor.isNone with
    | true => rfl
    | false => exact ih (index + 1)

/-- Binding fails under the fail-fast policy only, and names the first column without text. -/
theorem bind_eq_error_iff {policy : MissingAccessorPolicy} {live : List (Column R)}
    {err : SearchError} : bind policy live = .error err ↔ policy = .failFast ∧
      ∃ c, (live.find? fun c => c.searchable && c.accessor.isNone) = some c ∧
        err = .missingAccessor c.id := by
  have hfirst := head?_missingFrom live 0
  unfold bind
  split
  · rename_i d rest hmissing
    rw [hmissing] at hfirst
    obtain ⟨c, hc, hid⟩ := Option.map_eq_some_iff.mp hfirst.symm
    simp only [hc, Except.error.injEq, true_and, Option.some.injEq, exists_eq_left', hid]
    exact eq_comm
  · rename_i hcases
    constructor
    · intro h
      cases h
    · rintro ⟨rfl, c, hc, -⟩
      -- a column that is found is the head of the missing ones
      rw [hc] at hfirst
      obtain ⟨d, hd, -⟩ := Option.map_eq_some_iff.mp hfirst
      obtain ⟨rest, hrest⟩ := List.head?_eq_some_iff.mp hd
      exact absurd hrest (hcases d rest rfl)

/-- The bound columns are the live ones that are searchable and have an accessor, each with its
place. -/
theorem mem_boundFrom {live : List (Column R)} {index : Nat} {c : BoundColumn R} :
    c ∈ boundFrom index live ↔ ∃ k column accessor, live[k]? = some column ∧
      column.searchable = true ∧ column.accessor = some accessor ∧
      c = ⟨column.id, index + k, column.visible, accessor⟩ := by
  induction live generalizing index with
  | nil =>
    constructor
    · intro h
      cases h
    · rintro ⟨k, column, accessor, hlive, -⟩
      cases hlive
  | cons head rest ih =>
    simp only [boundFrom]
    constructor
    · intro h
      split at h
      · rename_i accessor hsearchable haccessor
        rcases List.mem_cons.mp h with rfl | h
        · exact ⟨0, head, accessor, rfl, hsearchable, haccessor, rfl⟩
        · obtain ⟨k, column, accessor, hlive, hs, ha, rfl⟩ := ih.mp h
          exact ⟨k + 1, column, accessor, hlive, hs, ha, by rw [Nat.add_assoc, Nat.add_comm 1 k]⟩
      · obtain ⟨k, column, accessor, hlive, hs, ha, rfl⟩ := ih.mp h
        exact ⟨k + 1, column, accessor, hlive, hs, ha, by rw [Nat.add_assoc, Nat.add_comm 1 k]⟩
    · rintro ⟨k, column, accessor, hlive, hs, ha, rfl⟩
      cases k with
      | zero =>
        cases hlive
        rw [hs, ha]
        exact List.mem_cons_self
      | succ k =>
        have hmem : (⟨column.id, index + (k + 1), column.visible, accessor⟩ : BoundColumn R) ∈
            boundFrom (index + 1) rest :=
          ih.mpr ⟨k, column, accessor, hlive, hs, ha, by rw [Nat.add_assoc, Nat.add_comm 1 k]⟩
        split
        · exact List.mem_cons_of_mem _ hmem
        · exact hmem

theorem le_index_of_mem_boundFrom {live : List (Column R)} {index : Nat} {c : BoundColumn R}
    (h : c ∈ boundFrom index live) : index ≤ c.index := by
  induction live generalizing index with
  | nil => cases h
  | cons head rest ih =>
    simp only [boundFrom] at h
    split at h
    · rcases List.mem_cons.mp h with rfl | h
      · exact le_refl index
      · exact le_trans (Nat.le_succ index) (ih h)
    · exact le_trans (Nat.le_succ index) (ih h)

theorem boundFrom_index_lt (live : List (Column R)) (index : Nat) :
    (boundFrom index live).Pairwise fun a b => a.index < b.index := by
  induction live generalizing index with
  | nil => exact List.Pairwise.nil
  | cons head rest ih =>
    simp only [boundFrom]
    split
    · exact List.pairwise_cons.mpr ⟨fun _ hc => le_index_of_mem_boundFrom hc, ih (index + 1)⟩
    · exact ih (index + 1)

/-- The places of bound columns go up. -/
theorem bind_index_lt {policy : MissingAccessorPolicy} {live : List (Column R)}
    {set : ColumnSet R} (h : bind policy live = .ok set) :
    set.columns.Pairwise fun a b => a.index < b.index := by
  rw [bind_eq_ok h]
  exact boundFrom_index_lt live 0

/-! ## Scopes -/

theorem mem_resolveScope_lt {s : ColumnSet R} {scope : ColumnScope} {pos : Nat}
    (h : pos ∈ s.resolveScope scope) : pos < s.columns.length :=
  List.mem_range.mp (List.mem_filter.mp h).1

/-- The scope contains the bound column that stands at a place of the live columns. -/
def Selects (s : ColumnSet R) (scope : ColumnScope) (index : Nat) : Prop :=
  ∃ pos ∈ s.resolveScope scope, ∃ c, s.columns[pos]? = some c ∧ c.index = index

/-- Places tell bound columns apart, so that a scope contains a column by its position or by its
place. -/
theorem selects_index {policy : MissingAccessorPolicy} {live : List (Column R)}
    {s : ColumnSet R} (hbind : bind policy live = .ok s) {scope : ColumnScope} {pos : Nat}
    {c : BoundColumn R} (hc : s.columns[pos]? = some c) :
    s.Selects scope c.index ↔ pos ∈ s.resolveScope scope := by
  constructor
  · rintro ⟨pos', hscope, c', hc', hindex⟩
    obtain ⟨hlt, rfl⟩ := List.getElem?_eq_some_iff.mp hc
    obtain ⟨hlt', rfl⟩ := List.getElem?_eq_some_iff.mp hc'
    have hpairwise := List.pairwise_iff_getElem.mp (bind_index_lt hbind)
    rcases Nat.lt_trichotomy pos pos' with hbefore | rfl | hbehind
    · exact absurd hindex (Nat.ne_of_gt (hpairwise _ _ hlt hlt' hbefore))
    · exact hscope
    · exact absurd hindex (Nat.ne_of_lt (hpairwise _ _ hlt' hlt hbehind))
  · intro hscope
    exact ⟨pos, hscope, c, hc, rfl⟩

end ColumnSet

/-! ## Plans -/

theorem ScopePlan.mem_forPosition {columns : ColumnSet R} {prepared : List Prepared} {pos : Nat}
    {p : Prepared} : p ∈ forPosition columns prepared pos ↔
      p ∈ prepared ∧ pos ∈ columns.resolveScope p.descriptor.scope := by
  simp [forPosition]

/-- A plan visits the positions that some descriptor searches. -/
theorem ScopePlan.mem_build_entries {columns : ColumnSet R} {prepared ps : List Prepared}
    {pos : Nat} : (pos, ps) ∈ (build columns prepared).entries ↔
      ps = forPosition columns prepared pos ∧ ps ≠ [] := by
  simp only [build, List.mem_filterMap, List.mem_range]
  constructor
  · rintro ⟨pos', hpos, hentry⟩
    split at hentry
    · cases hentry
    · rename_i hne
      cases hentry
      exact ⟨rfl, fun h => hne h⟩
  · rintro ⟨rfl, hne⟩
    refine ⟨pos, ?_, ?_⟩
    · obtain ⟨p, hp⟩ := List.exists_mem_of_ne_nil _ hne
      exact ColumnSet.mem_resolveScope_lt (mem_forPosition.mp hp).2
    · split
      · rename_i hnil
        exact absurd hnil hne
      · rfl

/-- A plan visits bound columns. -/
theorem ScopePlan.lt_of_mem_build_entries {columns : ColumnSet R} {prepared : List Prepared}
    {entry : Nat × List Prepared} (h : entry ∈ (build columns prepared).entries) :
    entry.1 < columns.columns.length := by
  -- a position is visited for some descriptor whose scope contains it
  rcases mem_build_entries.mp h with ⟨hps, hne⟩
  rcases List.exists_mem_of_ne_nil _ hne with ⟨p, hp⟩
  rw [hps] at hp
  exact ColumnSet.mem_resolveScope_lt (mem_forPosition.mp hp).2

/-- The positions that a plan visits go up. -/
theorem ScopePlan.build_position_lt (columns : ColumnSet R) (prepared : List Prepared) :
    (ScopePlan.build columns prepared).entries.Pairwise fun a b => a.1 < b.1 := by
  apply List.Pairwise.filterMap _ _ List.pairwise_lt_range
  intro pos pos' hlt a ha b hb
  split at ha
  · cases ha
  · split at hb
    · cases hb
    · rw [← Option.some.inj ha, ← Option.some.inj hb]
      exact hlt

/-! ## Prepared descriptors -/

namespace PreparedCache

/-- Every form in the cache is the prepared form of its own descriptor. -/
def Faithful (c : PreparedCache) : Prop :=
  ∀ e ∈ c.entries, e.prepared = .ofDescriptor e.prepared.descriptor

theorem faithful_ofCapacity (capacity : Nat) : (ofCapacity capacity).Faithful := by
  intro e he
  cases he

theorem get_prepared {c : PreparedCache} (h : c.Faithful) (d : Descriptor) :
    (c.get d).1.prepared = .ofDescriptor d ∧ (c.get d).2.Faithful := by
  unfold get
  split
  · rename_i e hfind
    have hmem := List.mem_of_find?_eq_some hfind
    have hd : e.prepared.descriptor = d := by simpa using List.find?_some hfind
    -- a hit is a form that was in the cache before
    refine ⟨by rw [h e hmem, hd], fun e' he' => ?_⟩
    rcases List.mem_cons.mp he' with rfl | he'
    · exact h e' hmem
    · exact h e' (List.mem_filter.mp he').1
  · refine ⟨rfl, fun e' he' => ?_⟩
    rcases List.mem_cons.mp (List.mem_of_mem_take he') with rfl | he'
    · rfl
    · exact h e' he'

/-- The cache answers with the prepared forms of the descriptors it is asked for. -/
theorem getAll_prepared {c : PreparedCache} (h : c.Faithful) (ds : List Descriptor) :
    (c.getAll ds).1.map (·.prepared) = ds.map .ofDescriptor ∧ (c.getAll ds).2.Faithful := by
  induction ds generalizing c with
  | nil => exact ⟨rfl, h⟩
  | cons d rest ih =>
    obtain ⟨hd, hc⟩ := get_prepared h d
    obtain ⟨hrest, hc'⟩ := ih hc
    refine ⟨?_, hc'⟩
    simp only [getAll, List.map_cons, hd, hrest]

end PreparedCache

end CellSearch
