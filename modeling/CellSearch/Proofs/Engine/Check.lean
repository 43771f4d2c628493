import Mathlib
import CellSearch.Proofs.Engine.Replay
import CellSearch.Proofs.RowSource

/-!
# The check of a queue

A queue is replayed on a number of rows (`PendingEdit.countAfter`), and each edit is looked at with
the number of rows at its time. An edit that cannot be followed offends, each in one way
(`Offends`). The check stops at the first offence (`DeltaPlan.collect_eq_error_iff`), and a queue
without one is accepted if it leads to as many rows as the table has
(`DeltaPlan.validate_eq_error_iff`). What accepted queues look like is said in full by
`Acceptable` (`DeltaPlan.exists_plan_iff`).
-/

namespace CellSearch

variable {R K : Type} [SearchRow R K]

/-! ## Places of a key -/

/-- A row with the key stands at the place. -/
def RowSource.Holds (source : RowSource R) (key : K) (i : Nat) : Prop :=
  i < source.count ∧ ∃ row, source.row? i = some row ∧ rowKey row = key

/-- The key occurs more than once. -/
def RowSource.Repeats (source : RowSource R) (key : K) : Prop :=
  ∃ i j, i < j ∧ source.Holds key i ∧ source.Holds key j

section Places

variable [DecidableEq K] {source : RowSource R} {key : K} {i : Nat}

theorem RowSource.mem_places_iff : i ∈ source.places key ↔ source.Holds key i := by
  simp only [places, List.mem_filter, List.mem_range, Option.any_eq_true, beq_iff_eq, Holds]

theorem RowSource.locate_eq_ambiguous_iff :
    source.locate key = .ambiguous ↔ source.Repeats key := by
  have hsorted : (source.places key).Pairwise (· < ·) := List.pairwise_lt_range.filter _
  have hrepeats : source.Repeats key ↔
      ∃ i j, i < j ∧ i ∈ source.places key ∧ j ∈ source.places key := by
    simp only [Repeats, mem_places_iff]
  rw [hrepeats, locate]
  cases hplaces : source.places key with
  | nil => simp
  | cons k rest =>
    cases rest with
    | nil =>
      simp only [List.mem_singleton, reduceCtorEq, false_iff, not_exists, not_and]
      intro i j hlt hi hj
      omega
    | cons l rest =>
      rw [hplaces] at hsorted
      have hlt : k < l := List.rel_of_pairwise_cons hsorted List.mem_cons_self
      exact iff_of_true rfl ⟨k, l, hlt, by simp, by simp⟩

end Places

/-! ## Offences -/

/-- The number of rows after an edit. -/
def PendingEdit.countAfter (rows : Nat) : PendingEdit K → Nat
  | collection (.add _ count) => rows + count
  | collection (.remove _ count) => rows - count
  | collection (.replace _ removed added) => rows - removed + added
  | _ => rows

/-- An edit cannot be followed on a table with `rows` rows, and why. -/
inductive Offends (source : RowSource R) (rows : Nat) : PendingEdit K → FallbackReason → Prop
  | move (origin target count : Nat) :
      Offends source rows (.collection (.move origin target count)) .move
  | reset : Offends source rows (.collection .reset) .reset
  | overflow : Offends source rows .overflow .backlogOverflow
  | ambiguous {key : K} : source.Repeats key →
      Offends source rows (.itemChanged key) .ambiguousItem
  | add {start : Nat} (count : Nat) : rows < start →
      Offends source rows (.collection (.add start count)) (.outOfRange start count rows)
  | remove {start count : Nat} : rows < start + count →
      Offends source rows (.collection (.remove start count)) (.outOfRange start count rows)
  | replace {start removed : Nat} (added : Nat) : rows < start + removed →
      Offends source rows (.collection (.replace start removed added))
        (.outOfRange start removed rows)

/-- No edit offends in a replay from `rows` rows. -/
def Unoffending (source : RowSource R) (rows : Nat) (pending : List (PendingEdit K)) : Prop :=
  ∀ front edit back, pending = front ++ edit :: back →
    ∀ reason, ¬ Offends source (front.foldl PendingEdit.countAfter rows) edit reason

/-- The first edit that offends in a replay from `rows` rows does for this reason. -/
def FirstOffence (source : RowSource R) (rows : Nat) (pending : List (PendingEdit K))
    (reason : FallbackReason) : Prop :=
  ∃ front edit back, pending = front ++ edit :: back ∧ Unoffending source rows front ∧
    Offends source (front.foldl PendingEdit.countAfter rows) edit reason

/-- A queue can be followed from `rows` rows, and leads to the number of rows of the table. -/
structure Acceptable (source : RowSource R) (rows : Nat) (pending : List (PendingEdit K)) :
    Prop where
  not_move : ∀ origin target count, .collection (.move origin target count) ∉ pending
  not_reset : .collection .reset ∉ pending
  not_overflow : .overflow ∉ pending
  not_repeated : ∀ key, .itemChanged key ∈ pending → ¬ source.Repeats key
  add_fits : ∀ front start count back, pending = front ++ .collection (.add start count) :: back →
    start ≤ front.foldl PendingEdit.countAfter rows
  remove_fits : ∀ front start count back,
    pending = front ++ .collection (.remove start count) :: back →
    start + count ≤ front.foldl PendingEdit.countAfter rows
  replace_fits : ∀ front start removed added back,
    pending = front ++ .collection (.replace start removed added) :: back →
    start + removed ≤ front.foldl PendingEdit.countAfter rows
  count_eq : pending.foldl PendingEdit.countAfter rows = source.count

section Replay

variable {source : RowSource R} {rows : Nat} {edit : PendingEdit K}
variable {pending : List (PendingEdit K)} {reason : FallbackReason}

/-- An edit offends in one way. -/
theorem Offends.unique {reason' : FallbackReason} (h : Offends source rows edit reason)
    (h' : Offends source rows edit reason') : reason = reason' := by
  cases h <;> cases h' <;> rfl

theorem unoffending_nil : Unoffending source rows ([] : List (PendingEdit K)) := by
  intro front edit back hcut
  simp at hcut

theorem unoffending_cons_iff : Unoffending source rows (edit :: pending) ↔
    (∀ reason, ¬ Offends source rows edit reason) ∧
      Unoffending source (edit.countAfter rows) pending := by
  constructor
  · intro h
    refine ⟨h [] edit pending rfl, ?_⟩
    intro front edit' back hcut
    exact h (edit :: front) edit' back (by rw [hcut, List.cons_append])
  · rintro ⟨hedit, hrest⟩ front edit' back hcut
    rcases List.cons_eq_append_iff.mp hcut with ⟨rfl, heq⟩ | ⟨front', rfl, heq⟩
    · rw [(List.cons.inj heq).1]
      exact hedit
    · exact hrest front' edit' back heq

theorem firstOffence_cons_iff : FirstOffence source rows (edit :: pending) reason ↔
    Offends source rows edit reason ∨ (∀ reason, ¬ Offends source rows edit reason) ∧
      FirstOffence source (edit.countAfter rows) pending reason := by
  constructor
  · rintro ⟨front, edit', back, hcut, hfront, hoffends⟩
    rcases List.cons_eq_append_iff.mp hcut with ⟨rfl, heq⟩ | ⟨front', rfl, heq⟩
    · rw [(List.cons.inj heq).1] at hoffends
      exact .inl hoffends
    · rw [unoffending_cons_iff] at hfront
      exact .inr ⟨hfront.1, front', edit', back, heq, hfront.2, hoffends⟩
  · rintro (hoffends | ⟨hedit, front, edit', back, rfl, hfront, hoffends⟩)
    · exact ⟨[], edit, pending, rfl, unoffending_nil, hoffends⟩
    · exact ⟨edit :: front, edit', back, rfl, unoffending_cons_iff.mpr ⟨hedit, hfront⟩, hoffends⟩

theorem FirstOffence.not_unoffending (h : FirstOffence source rows pending reason) :
    ¬ Unoffending source rows pending := by
  rcases h with ⟨front, edit, back, hcut, -, hoffends⟩
  intro hclear
  exact hclear front edit back hcut reason hoffends

/-- A queue can be followed if none of the seven offences is in it. -/
theorem acceptable_iff : Acceptable source rows pending ↔
    Unoffending source rows pending ∧
      pending.foldl PendingEdit.countAfter rows = source.count := by
  constructor
  · intro h
    refine ⟨?_, h.count_eq⟩
    intro front edit back hcut reason hoffends
    have hmem : edit ∈ pending := by
      rw [hcut]
      exact List.mem_append_right front List.mem_cons_self
    cases hoffends with
    | move origin target count => exact h.not_move origin target count hmem
    | reset => exact h.not_reset hmem
    | overflow => exact h.not_overflow hmem
    | ambiguous hrepeats => exact h.not_repeated _ hmem hrepeats
    | add count hlt => exact absurd (h.add_fits front _ count back hcut) (by omega)
    | remove hlt => exact absurd (h.remove_fits front _ _ back hcut) (by omega)
    | replace added hlt => exact absurd (h.replace_fits front _ _ added back hcut) (by omega)
  · rintro ⟨hclear, hcount⟩
    -- what offends at any number of rows is nowhere in the queue
    have habsent : ∀ edit ∈ pending, ∀ reason, ¬ ∀ rows', Offends source rows' edit reason := by
      intro edit hedit reason hoffends
      rcases List.append_of_mem hedit with ⟨front, back, hcut⟩
      exact hclear front edit back hcut reason (hoffends _)
    refine ⟨?_, ?_, ?_, ?_, ?_, ?_, ?_, hcount⟩
    · intro origin target count hedit
      exact habsent _ hedit _ fun _ => .move origin target count
    · intro hedit
      exact habsent _ hedit _ fun _ => .reset
    · intro hedit
      exact habsent _ hedit _ fun _ => .overflow
    · intro key hedit hrepeats
      exact habsent _ hedit _ fun _ => .ambiguous hrepeats
    · intro front start count back hcut
      by_contra hlt
      exact hclear front _ back hcut _ (.add count (by omega))
    · intro front start count back hcut
      by_contra hlt
      exact hclear front _ back hcut _ (.remove (by omega))
    · intro front start removed added back hcut
      by_contra hlt
      exact hclear front _ back hcut _ (.replace added (by omega))

end Replay

/-! ## The check -/

namespace DeltaPlan

variable [DecidableEq K] {source : RowSource R} {rows rows' : Nat} {edit : PendingEdit K}
variable {pending : List (PendingEdit K)} {plan : DeltaPlan} {reason : FallbackReason}

/-- The check stops at an edit that offends. -/
theorem collect_of_offends (h : Offends source rows edit reason) (rest : List (PendingEdit K)) :
    collect source rows (edit :: rest) = .error reason := by
  cases h with
  | move origin target count => rfl
  | reset => rfl
  | overflow => rfl
  | ambiguous hrepeats => simp only [collect, RowSource.locate_eq_ambiguous_iff.mpr hrepeats]
  | add count hlt => simp only [collect, CollectionChange.rowsAfter, if_neg (not_le.mpr hlt)]
  | remove hlt => simp only [collect, CollectionChange.rowsAfter, if_neg (not_le.mpr hlt)]
  | replace added hlt => simp only [collect, CollectionChange.rowsAfter, if_neg (not_le.mpr hlt)]

/-- The check goes on behind any other edit, and only adds to what it finds there. -/
theorem collect_of_not_offends (h : ∀ reason, ¬ Offends source rows edit reason)
    (rest : List (PendingEdit K)) : ∃ add : DeltaPlan → DeltaPlan,
      collect source rows (edit :: rest) =
        (collect source (edit.countAfter rows) rest).map (Prod.map add id) := by
  cases edit with
  | collection change =>
    have hrows : change.rowsAfter rows =
        .ok ((PendingEdit.collection change : PendingEdit K).countAfter rows) := by
      cases change with
      | add start count =>
        exact if_pos (not_lt.mp fun hlt => h _ (.add count hlt))
      | remove start count =>
        exact if_pos (not_lt.mp fun hlt => h _ (.remove hlt))
      | replace start removed added =>
        exact if_pos (not_lt.mp fun hlt => h _ (.replace added hlt))
      | move origin target count => exact absurd (.move origin target count) (h _)
      | reset => exact absurd .reset (h _)
    refine ⟨fun plan => { plan with edits := change.rowEdits ++ plan.edits }, ?_⟩
    simp only [collect, hrows]
    rfl
  | itemChanged key =>
    have hlocate : source.locate key ≠ .ambiguous := by
      intro hambiguous
      exact h _ (.ambiguous (RowSource.locate_eq_ambiguous_iff.mp hambiguous))
    simp only [collect]
    split
    · contradiction
    · -- a key without a row adds nothing
      refine ⟨id, ?_⟩
      show collect source rows rest = (collect source rows rest).map (Prod.map id id)
      cases collect source rows rest <;> rfl
    · rename_i row hrow
      exact ⟨fun plan => { plan with changedRows := row :: plan.changedRows }, rfl⟩
  | overflow => exact absurd .overflow (h _)

theorem map_eq_error_iff {ε α β : Type} {x : Except ε α} {f : α → β} {err : ε} :
    x.map f = .error err ↔ x = .error err := by
  cases x <;> simp [Except.map]

/-- The check fails at the first offence. -/
theorem collect_eq_error_iff :
    collect source rows pending = .error reason ↔ FirstOffence source rows pending reason := by
  induction pending generalizing rows with
  | nil =>
    refine iff_of_false (by simp [collect]) ?_
    rintro ⟨front, edit, back, hcut, -⟩
    simp at hcut
  | cons edit rest ih =>
    rw [firstOffence_cons_iff]
    by_cases hedit : ∃ reason', Offends source rows edit reason'
    · rcases hedit with ⟨reason', hoffends⟩
      rw [collect_of_offends hoffends]
      constructor
      · intro herror
        rw [Except.error.injEq] at herror
        rw [← herror]
        exact .inl hoffends
      · rintro (hother | ⟨hnone, -⟩)
        · rw [hother.unique hoffends]
        · exact absurd hoffends (hnone reason')
    · rw [not_exists] at hedit
      rcases collect_of_not_offends hedit rest with ⟨add, hcollect⟩
      rw [hcollect, map_eq_error_iff, ih, or_iff_right (hedit reason), and_iff_right hedit]

/-- Without an offence the check counts as the replay does. -/
theorem collect_ok_count (h : collect source rows pending = .ok (plan, rows')) :
    Unoffending source rows pending ∧ rows' = pending.foldl PendingEdit.countAfter rows := by
  induction pending generalizing rows plan with
  | nil =>
    cases h
    exact ⟨unoffending_nil, rfl⟩
  | cons edit rest ih =>
    have hedit : ∀ reason, ¬ Offends source rows edit reason := by
      intro reason hoffends
      rw [collect_of_offends hoffends] at h
      cases h
    rcases collect_of_not_offends hedit rest with ⟨add, hcollect⟩
    rw [hcollect] at h
    rcases exists_of_map_eq_ok h with ⟨⟨plan', last⟩, hrest, heq⟩
    have hlast : last = rows' := congrArg Prod.snd heq
    rw [hlast] at hrest
    have htail := ih hrest
    exact ⟨unoffending_cons_iff.mpr ⟨hedit, htail.1⟩, htail.2⟩

/-- A queue is refused for its first offence, or for the number of rows that it leads to. -/
theorem validate_eq_error_iff : validate pending rows source = .error reason ↔
    FirstOffence source rows pending reason ∨
      Unoffending source rows pending ∧
        pending.foldl PendingEdit.countAfter rows ≠ source.count ∧
        reason = .rowCountMismatch (pending.foldl PendingEdit.countAfter rows) source.count := by
  rw [← collect_eq_error_iff, validate]
  cases hcollect : collect source rows pending with
  | error reason' =>
    have hoffence : FirstOffence source rows pending reason' := collect_eq_error_iff.mp hcollect
    simp only [Except.error.injEq]
    constructor
    · intro heq
      exact .inl heq
    · rintro (heq | ⟨hclear, -⟩)
      · exact heq
      · exact absurd hclear hoffence.not_unoffending
  | ok found =>
    rcases found with ⟨plan, last⟩
    rcases collect_ok_count hcollect with ⟨hclear, rfl⟩
    simp only [reduceCtorEq, false_or, hclear, true_and]
    split
    · rename_i hcount
      simp [hcount]
    · rename_i hcount
      rw [Except.error.injEq, and_iff_right hcount, eq_comm]

/-- A queue is accepted if it can be followed and leads to the number of rows of the table. -/
theorem exists_plan_iff :
    (∃ plan, validate pending rows source = .ok plan) ↔ Acceptable source rows pending := by
  rw [acceptable_iff, validate]
  cases hcollect : collect source rows pending with
  | error reason =>
    have hoffence : FirstOffence source rows pending reason := collect_eq_error_iff.mp hcollect
    refine iff_of_false (by simp) ?_
    rintro ⟨hclear, -⟩
    exact hoffence.not_unoffending hclear
  | ok found =>
    rcases found with ⟨plan, last⟩
    rcases collect_ok_count hcollect with ⟨hclear, rfl⟩
    rw [and_iff_right hclear]
    dsimp only
    constructor
    · rintro ⟨plan', hplan'⟩
      by_contra hcount
      rw [if_neg hcount] at hplan'
      cases hplan'
    · intro hcount
      exact ⟨plan, if_pos hcount⟩

end DeltaPlan

end CellSearch
