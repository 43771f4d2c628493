import Mathlib
import CellSearch.Engine.Evaluate
import CellSearch.Proofs.Column.Binding
import CellSearch.Table.Basic

/-!
# Explicit scopes

An explicit scope lists ids of columns. Each id stands for one column, the first bound one that
has it (`ColumnSet.mem_resolveScope_explicit_iff`), so that the order of the ids, their repetition
and ids of no bound column make no difference, and the scope can be had by looking up one id after
the other (`ColumnSet.resolveScope_explicit_eq`). A later column with the same id is left out: the
scope is the set of the columns whose ids are listed if and only if no two bound columns share a
listed id (`ColumnSet.explicitScope_firsts`). The header of a table may repeat a name, and then a
cell below the second is not searched (`ColumnSet.explicitScope_misses_repeated`).
-/

namespace CellSearch.ColumnSet

variable {R : Type} {s : ColumnSet R} {ids ids' : List String} {id : String} {pos pos' : Nat}
variable {c : BoundColumn R}

/-- The bound column at a position has the id, and none before it does. -/
def IsFirst (s : ColumnSet R) (id : String) (pos : Nat) : Prop :=
  ∃ c, s.columns[pos]? = some c ∧ c.id = id ∧
    ∀ earlier < pos, ∀ c', s.columns[earlier]? = some c' → c'.id ≠ id

/-- The positions of all bound columns whose ids are listed. -/
def listedPositions (s : ColumnSet R) (ids : List String) : List Nat :=
  (List.range s.columns.length).filter fun pos =>
    s.columns[pos]?.any fun c => ids.contains c.id

/-- No two bound columns share an id that is listed. -/
def Unrepeated (s : ColumnSet R) (ids : List String) : Prop :=
  ∀ (pos pos' : Nat) (c c' : BoundColumn R), s.columns[pos]? = some c →
    s.columns[pos']? = some c' → c.id ∈ ids → c'.id = c.id → pos' = pos

/-! ## The first column of an id -/

theorem IsFirst.unique (h : s.IsFirst id pos) (h' : s.IsFirst id pos') : pos' = pos := by
  rcases h with ⟨c, hc, hid, hbefore⟩
  rcases h' with ⟨c', hc', hid', hbefore'⟩
  rcases Nat.lt_trichotomy pos pos' with hlt | heq | hgt
  · exact absurd hid (hbefore' pos hlt c hc)
  · exact heq.symm
  · exact absurd hid' (hbefore pos' hgt c' hc')

theorem position?_eq_some_iff : s.position? id = some pos ↔ s.IsFirst id pos := by
  unfold position? IsFirst
  rw [List.findIdx?_eq_some_iff_getElem]
  simp only [beq_iff_eq, List.getElem?_eq_some_iff]
  constructor
  · rintro ⟨hlt, hid, hbefore⟩
    refine ⟨_, ⟨hlt, rfl⟩, hid, ?_⟩
    rintro earlier hearlier c' ⟨-, rfl⟩
    exact hbefore earlier hearlier
  · rintro ⟨c, ⟨hlt, rfl⟩, hid, hbefore⟩
    refine ⟨hlt, hid, ?_⟩
    intro earlier hearlier
    exact hbefore earlier hearlier _ ⟨_, rfl⟩

/-- If a bound column has the id, some bound column is the first. -/
theorem exists_isFirst (hc : s.columns[pos]? = some c) : ∃ first, s.IsFirst c.id first := by
  cases hfirst : s.position? c.id with
  | some first => exact ⟨first, position?_eq_some_iff.mp hfirst⟩
  | none =>
    have hmissing := List.findIdx?_eq_none_iff.mp hfirst c (List.mem_of_getElem? hc)
    simp at hmissing

/-! ## Scopes -/

theorem resolveScope_pairwise_lt (s : ColumnSet R) (scope : ColumnScope) :
    (s.resolveScope scope).Pairwise (· < ·) :=
  List.pairwise_lt_range.filter _

theorem listedPositions_pairwise_lt (s : ColumnSet R) (ids : List String) :
    (s.listedPositions ids).Pairwise (· < ·) :=
  List.pairwise_lt_range.filter _

/-- Each listed id stands for the first column that has it. -/
theorem mem_resolveScope_explicit_iff :
    pos ∈ s.resolveScope (.explicitColumns ids) ↔ ∃ id ∈ ids, s.IsFirst id pos := by
  simp only [resolveScope, inScope, List.mem_filter, List.mem_range, List.any_eq_true, beq_iff_eq,
    position?_eq_some_iff, and_iff_right_iff_imp]
  rintro ⟨id, -, c, hc, -⟩
  exact (List.getElem?_eq_some_iff.mp hc).1

/-- A column is in the scope if its id is listed and it is the first that has it. -/
theorem mem_resolveScope_iff_column : pos ∈ s.resolveScope (.explicitColumns ids) ↔
    ∃ c, s.columns[pos]? = some c ∧ c.id ∈ ids ∧ s.IsFirst c.id pos := by
  rw [mem_resolveScope_explicit_iff]
  constructor
  · rintro ⟨id, hid, c, hc, rfl, hbefore⟩
    exact ⟨c, hc, hid, c, hc, rfl, hbefore⟩
  · rintro ⟨c, hc, hid, hfirst⟩
    exact ⟨c.id, hid, hfirst⟩

theorem mem_listedPositions_iff :
    pos ∈ s.listedPositions ids ↔ ∃ c, s.columns[pos]? = some c ∧ c.id ∈ ids := by
  simp only [listedPositions, List.mem_filter, List.mem_range, Option.any_eq_true,
    List.contains_iff_mem, and_iff_right_iff_imp]
  rintro ⟨c, hc, -⟩
  exact (List.getElem?_eq_some_iff.mp hc).1

/-- Where no listed id is shared, every listed column is the first of its id. -/
theorem mem_resolveScope_of_unrepeated (h : s.Unrepeated ids) :
    pos ∈ s.resolveScope (.explicitColumns ids) ↔ pos ∈ s.listedPositions ids := by
  rw [mem_resolveScope_iff_column, mem_listedPositions_iff]
  constructor
  · rintro ⟨c, hc, hid, -⟩
    exact ⟨c, hc, hid⟩
  · rintro ⟨c, hc, hid⟩
    rcases exists_isFirst hc with ⟨first, hfirst⟩
    have hsame : first = pos := by
      rcases hfirst with ⟨c', hc', hid', -⟩
      exact h pos first c c' hc hc' hid hid'
    rw [hsame] at hfirst
    exact ⟨c, hc, hid, hfirst⟩

/-- The scope is what is listed if and only if no listed id is shared. -/
theorem resolveScope_eq_listed_iff :
    s.resolveScope (.explicitColumns ids) = s.listedPositions ids ↔ s.Unrepeated ids := by
  constructor
  · intro heq pos pos' c c' hc hc' hid hsame
    -- both columns are listed, hence both are the first of their id
    have hfirst : ∀ {pos c}, s.columns[pos]? = some c → c.id ∈ ids → s.IsFirst c.id pos := by
      intro pos c hc hid
      have hmem : pos ∈ s.resolveScope (.explicitColumns ids) := by
        rw [heq]
        exact mem_listedPositions_iff.mpr ⟨c, hc, hid⟩
      rcases mem_resolveScope_iff_column.mp hmem with ⟨c', hc', -, hfirst⟩
      cases hc.symm.trans hc'
      exact hfirst
    have h' : s.IsFirst c'.id pos' := hfirst hc' (by rwa [hsame])
    rw [hsame] at h'
    exact (hfirst hc hid).unique h'
  · intro h
    apply (resolveScope_pairwise_lt s _).eq_of_mem_iff (listedPositions_pairwise_lt s ids)
    intro pos
    exact mem_resolveScope_of_unrepeated h

/-- What is listed besides the ids of bound columns, in which order and how often, makes no
difference. -/
theorem resolveScope_explicit_congr (h : ∀ c ∈ s.columns, c.id ∈ ids' ↔ c.id ∈ ids) :
    s.resolveScope (.explicitColumns ids') = s.resolveScope (.explicitColumns ids) := by
  apply (resolveScope_pairwise_lt s _).eq_of_mem_iff (resolveScope_pairwise_lt s _)
  intro pos
  rw [mem_resolveScope_iff_column, mem_resolveScope_iff_column]
  refine exists_congr fun c => and_congr_right fun hc => ?_
  rw [h c (List.mem_of_getElem? hc)]

/-- The scope is found by looking up the ids one at a time, in ascending order and each position
once. -/
theorem resolveScope_explicit_eq (s : ColumnSet R) (ids : List String) :
    s.resolveScope (.explicitColumns ids) =
      ((ids.filterMap s.position?).mergeSort (· ≤ ·)).dedup := by
  have hsorted : (((ids.filterMap s.position?).mergeSort (· ≤ ·)).dedup).Pairwise (· ≤ ·) :=
    (List.pairwise_mergeSort' (· ≤ ·) _).sublist (List.dedup_sublist _)
  have hascending : (((ids.filterMap s.position?).mergeSort (· ≤ ·)).dedup).Pairwise (· < ·) :=
    (hsorted.and (List.nodup_dedup _)).imp fun h => lt_of_le_of_ne h.1 h.2
  apply (resolveScope_pairwise_lt s _).eq_of_mem_iff hascending
  intro pos
  rw [mem_resolveScope_explicit_iff, List.mem_dedup, List.mem_mergeSort, List.mem_filterMap]
  simp only [position?_eq_some_iff]

/-! ## Plans -/

/-- A plan has a descriptor search the columns of its scope. -/
theorem mem_plan_iff {prepared : List Prepared} {p : Prepared} (hp : p ∈ prepared) :
    (∃ ps, (pos, ps) ∈ (ScopePlan.build s prepared).entries ∧ p ∈ ps) ↔
      pos ∈ s.resolveScope p.descriptor.scope := by
  constructor
  · rintro ⟨ps, hentry, hmem⟩
    rw [(ScopePlan.mem_build_entries.mp hentry).1] at hmem
    exact (ScopePlan.mem_forPosition.mp hmem).2
  · intro hscope
    have hmem := ScopePlan.mem_forPosition.mpr ⟨hp, hscope⟩
    exact ⟨_, ScopePlan.mem_build_entries.mpr ⟨rfl, List.ne_nil_of_mem hmem⟩, hmem⟩

/-- An explicit scope is the ascending list of the first columns of the listed ids, whatever else
is listed, in whatever order and how often, and a plan has a descriptor with that scope search
these columns and no others. They are all the columns whose ids are listed if and only if no two
bound columns share a listed id. -/
theorem explicitScope_firsts (s : ColumnSet R) (ids : List String) :
    (s.resolveScope (.explicitColumns ids)).Pairwise (· < ·) ∧
    (∀ pos, pos ∈ s.resolveScope (.explicitColumns ids) ↔ ∃ id ∈ ids, s.IsFirst id pos) ∧
    (∀ ids', (∀ c ∈ s.columns, c.id ∈ ids' ↔ c.id ∈ ids) →
      s.resolveScope (.explicitColumns ids') = s.resolveScope (.explicitColumns ids)) ∧
    (s.resolveScope (.explicitColumns ids) = s.listedPositions ids ↔ s.Unrepeated ids) ∧
    (∀ prepared, ∀ p ∈ prepared, p.descriptor.scope = .explicitColumns ids → ∀ pos,
      (∃ ps, (pos, ps) ∈ (ScopePlan.build s prepared).entries ∧ p ∈ ps) ↔
        ∃ id ∈ ids, s.IsFirst id pos) := by
  refine ⟨resolveScope_pairwise_lt s _, ?_, ?_, resolveScope_eq_listed_iff, ?_⟩
  · intro pos
    exact mem_resolveScope_explicit_iff
  · intro ids' h
    exact resolveScope_explicit_congr h
  · intro prepared p hp hscope pos
    rw [mem_plan_iff hp, hscope, mem_resolveScope_explicit_iff]

/-- In a table whose header repeats a name, the second column of the name is listed but not
searched. -/
theorem explicitScope_misses_repeated :
    let t : Table := ⟨["a", "a"], [⟨2, ["x", "y"]⟩]⟩
    let s : ColumnSet TableRow := ⟨boundFrom 0 (t.columns []), []⟩
    let p := Prepared.ofDescriptor { query := "y", scope := .explicitColumns ["a"] }
    Table.parse "a,a\nx,y\n".toList ',' = .ok t ∧
    bind .ignore (t.columns []) = .ok s ∧
    s.listedPositions ["a"] = [0, 1] ∧
    s.resolveScope (.explicitColumns ["a"]) = [0] ∧
    (ScopePlan.build s [p]).entries = [(0, [p])] := by
  intro t s p
  refine ⟨by decide +kernel, rfl, by decide +kernel, by decide +kernel, by decide +kernel⟩

end CellSearch.ColumnSet
