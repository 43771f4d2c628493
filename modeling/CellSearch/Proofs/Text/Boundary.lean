import Mathlib
import CellSearch.Proofs.Interval
import CellSearch.Text.Bytes

/-!
# Spans of a text

A byte offset is a character boundary of a text if it is the length of a first part of it. A span
of a text has its ends on boundaries and holds at least one character (`Text.IsSpan`). Merging
spans gives spans, with a gap between any two (`Text.merge_isSpan`).
-/

namespace CellSearch.Text

variable {text a b : List Char} {n : Nat} {spans : List Interval}

/-- A byte offset between two characters of a text, or at one of its ends. -/
def IsBoundary (text : List Char) (n : Nat) : Prop :=
  ∃ front back, text = front ++ back ∧ byteLength front = n

/-- An interval of bytes that holds some characters of a text. -/
structure IsSpan (text : List Char) (span : Interval) : Prop where
  proper : span.start < span.stop
  start_boundary : IsBoundary text span.start
  stop_boundary : IsBoundary text span.stop

/-! ## Boundaries -/

theorem isBoundary_append (a b : List Char) : IsBoundary (a ++ b) (byteLength a) :=
  ⟨a, b, rfl, rfl⟩

theorem isBoundary_zero (text : List Char) : IsBoundary text 0 :=
  ⟨[], text, rfl, rfl⟩

theorem isBoundary_byteLength (text : List Char) : IsBoundary text (byteLength text) :=
  ⟨text, [], by simp, rfl⟩

theorem IsBoundary.le (h : IsBoundary text n) : n ≤ byteLength text := by
  obtain ⟨front, back, rfl, rfl⟩ := h
  rw [byteLength_append]
  exact Nat.le_add_right _ _

theorem byteLength_pos (h : text ≠ []) : 0 < byteLength text := by
  cases text with
  | nil => exact absurd rfl h
  | cons c rest =>
    rw [byteLength_cons]
    exact Nat.add_pos_left c.utf8Size_pos _

theorem byteLength_eq_zero : byteLength text = 0 ↔ text = [] := by
  constructor
  · intro h
    by_contra hne
    have hpos := byteLength_pos hne
    omega
  · rintro rfl
    rfl

/-- Of two first parts of a text, the one with fewer bytes is a first part of the other. -/
theorem exists_append_of_byteLength_le {a' b' : List Char} (h : a ++ b = a' ++ b')
    (hle : byteLength a ≤ byteLength a') : ∃ mid, a' = a ++ mid ∧ b = mid ++ b' := by
  rcases List.append_eq_append_iff.mp h with ⟨mid, ha, hb⟩ | ⟨mid, ha, hb⟩
  · exact ⟨mid, ha, hb⟩
  · rw [ha, byteLength_append] at hle
    have hmid : mid = [] := byteLength_eq_zero.mp (by omega)
    subst hmid
    exact ⟨[], by simpa using ha.symm, by simpa using hb.symm⟩

/-- A piece that lies within another, both taken by their places in one text. -/
theorem exists_within {piece inner back back' : List Char}
    (h : a ++ piece ++ back = b ++ inner ++ back') (hstart : byteLength a ≤ byteLength b)
    (hstop : byteLength (b ++ inner) ≤ byteLength (a ++ piece)) :
    ∃ u v, b = a ++ u ∧ piece = u ++ inner ++ v ∧ back' = v ++ back := by
  have hfront : a ++ (piece ++ back) = b ++ (inner ++ back') := by simpa using h
  obtain ⟨u, rfl, -⟩ := exists_append_of_byteLength_le hfront hstart
  obtain ⟨v, hpiece, hback⟩ := exists_append_of_byteLength_le h.symm hstop
  refine ⟨u, v, rfl, ?_, hback⟩
  simpa using hpiece

/-! ## Pieces -/

theorem splitAt?_append (a b : List Char) : splitAt? (a ++ b) (byteLength a) = some (a, b) := by
  induction a with
  | nil => simp [splitAt?]
  | cons c a ih =>
    obtain ⟨k, hk⟩ := Nat.exists_eq_add_of_lt c.utf8Size_pos
    have hlen : byteLength (c :: a) = (k + byteLength a) + 1 := by
      rw [byteLength_cons]
      omega
    have hrest : k + byteLength a + 1 - c.utf8Size = byteLength a := by omega
    rw [hlen, List.cons_append, splitAt?, if_pos (by omega), hrest, ih]
    rfl

/-- The piece between two first parts of a text. -/
theorem slice?_append (a b c : List Char) :
    slice? (a ++ b ++ c) (byteLength a) (byteLength (a ++ b)) = some b := by
  have hlen : byteLength (a ++ b) - byteLength a = byteLength b := by
    rw [byteLength_append]
    omega
  have hle : byteLength a ≤ byteLength (a ++ b) := by
    rw [byteLength_append]
    omega
  rw [slice?, if_pos hle, List.append_assoc, splitAt?_append]
  simp only [hlen, splitAt?_append, Option.map_some]

/-! ## Spans -/

theorem IsSpan.stop_le {span : Interval} (h : IsSpan text span) : span.stop ≤ byteLength text :=
  h.stop_boundary.le

/-- The characters between two others are a span. -/
theorem isSpan_ofLength (front : List Char) {piece : List Char} (hpiece : piece ≠ [])
    (back : List Char) :
    IsSpan (front ++ piece ++ back) (.ofLength (byteLength front) (byteLength piece)) := by
  refine ⟨?_, ?_, ?_⟩
  · exact Nat.lt_add_of_pos_right (byteLength_pos hpiece)
  · rw [List.append_assoc]
    exact isBoundary_append front _
  · have h := isBoundary_append (front ++ piece) back
    rwa [byteLength_append] at h

/-- A span cuts its text into what is before, inside and behind it. -/
theorem IsSpan.exists_cut {span : Interval} (h : IsSpan text span) :
    ∃ front piece back, text = front ++ piece ++ back ∧ piece ≠ [] ∧
      byteLength front = span.start ∧ byteLength (front ++ piece) = span.stop := by
  obtain ⟨front, rest, hfront, hstart⟩ := h.start_boundary
  obtain ⟨upto, back, hupto, hstop⟩ := h.stop_boundary
  have hproper := h.proper
  obtain ⟨piece, rfl, -⟩ := exists_append_of_byteLength_le (hfront.symm.trans hupto) (by omega)
  refine ⟨front, piece, back, hupto, ?_, hstart, hstop⟩
  rintro rfl
  rw [List.append_nil] at hstop
  omega

/-- Spans that are merged are spans, and between any two lies a byte that is in neither. -/
theorem merge_isSpan (h : ∀ span ∈ spans, IsSpan text span) :
    (∀ span ∈ Interval.merge spans, IsSpan text span) ∧
      Interval.Canonical (Interval.merge spans) := by
  have hcanonical := Interval.canonical_merge fun span hspan => (h span hspan).proper
  refine ⟨fun span hspan => ⟨hcanonical.proper span hspan, ?_, ?_⟩, hcanonical⟩
  · obtain ⟨⟨first, hfirst, hstart⟩, -⟩ := Interval.mem_merge_ends hspan
    rw [← hstart]
    exact (h first hfirst).start_boundary
  · obtain ⟨-, last, hlast, hstop⟩ := Interval.mem_merge_ends hspan
    rw [← hstop]
    exact (h last hlast).stop_boundary

end CellSearch.Text
