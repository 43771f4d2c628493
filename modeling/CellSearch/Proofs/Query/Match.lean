import Mathlib
import CellSearch.Proofs.Query.Occurrence
import CellSearch.Proofs.Regex.Search
import CellSearch.Proofs.Text.Normalize
import CellSearch.Query.Match

/-!
# The spans of a match

Whatever is searched for and however the text is normalized, the spans that are reported are spans
of the text of the cell, and between any two lies a byte that is in neither
(`Prepared.matchText_isSpan`). Spans are found in the normalized text and merged there; carried
back to the source they may meet again, since characters of the normalized text share characters
of the source, and are merged once more.
-/

namespace CellSearch.Prepared

open CellSearch.Text

variable {text term : List Char} {wholeWord : Bool} {span : Interval}

/-! ## Terms -/

theorem termSpans_isSpan {mode : MatchMode} (h : span ∈ termSpans mode wholeWord text term) :
    IsSpan text span := by
  have hterm : term ≠ [] := by
    rintro rfl
    cases h
  exact (termSpans_occurs h).isSpan hterm

/-! ## Cells -/

/-- What is found in a normalized text are spans of it. -/
theorem normalizedSpans_isSpan {p : Prepared} (h : span ∈ p.normalizedSpans text) :
    IsSpan text span := by
  unfold normalizedSpans at h
  split at h
  · exact Regex.findAll_isSpan h
  · simp only [combineTerms] at h
    split at h
    · cases h
    · obtain ⟨spans, hspans, hmem⟩ := List.mem_flatten.mp h
      obtain ⟨term, -, rfl⟩ := List.mem_map.mp hspans
      exact termSpans_isSpan hmem
  · cases h
  · cases h

/-- Spans of a normalized text, however they were found, are carried back to spans of its source
with a gap between any two. -/
theorem sourceSpans_isSpan {o : NormalizeOptions} {found : List Interval}
    (h : ∀ span ∈ found, IsSpan (normalize o text).text span) :
    (∀ span ∈ sourceSpans (normalize o text) (Interval.merge found), IsSpan text span) ∧
      Interval.Canonical (sourceSpans (normalize o text) (Interval.merge found)) := by
  obtain ⟨hmerged, hcanonical⟩ := merge_isSpan h
  unfold sourceSpans
  split
  · -- aligned text is not mapped, and the spans are those of the first merge
    rename_i haligned
    refine ⟨fun span hspan => ?_, hcanonical⟩
    have hsource := sourceSpan_isSpan (hmerged span hspan)
    cases hn : normalize o text with
    | aligned cs => rwa [hn] at hsource
    | mapped chars =>
      rw [hn] at haligned
      cases haligned
  · -- two spans may have come to share a character
    apply merge_isSpan
    intro span hspan
    obtain ⟨merged, hmem, rfl⟩ := List.mem_map.mp hspan
    exact sourceSpan_isSpan (hmerged merged hmem)

/-- Where nothing was found, nothing is carried back. -/
@[simp] theorem sourceSpans_nil (n : NormalizedText) : sourceSpans n [] = [] := by
  unfold sourceSpans
  split
  · rfl
  · exact Interval.merge_nil

/-- A cell without text needs no case of its own where there is a query. -/
theorem matchText_of_hasQuery {p : Prepared} (hquery : p.hasQuery = true) (text : List Char) :
    p.matchText text = sourceSpans (normalize p.descriptor.normalizeOptions text)
      (Interval.merge
        (p.normalizedSpans (normalize p.descriptor.normalizeOptions text).text)) := by
  rw [matchText, if_pos hquery]
  split
  · -- what is carried back to a text is no longer than the text
    rename_i hempty
    symm
    rw [List.eq_nil_iff_forall_not_mem]
    intro span hspan
    have hin : IsSpan text span :=
      (sourceSpans_isSpan fun _ hfound => normalizedSpans_isSpan hfound).1 span hspan
    have hproper := hin.proper
    have hstop := hin.stop_le
    rw [List.isEmpty_iff.mp hempty, byteLength_nil] at hstop
    omega
  · rfl

/-- The spans of any prepared query in any text. -/
theorem matchText_isSpan (p : Prepared) (text : List Char) :
    (∀ span ∈ p.matchText text, IsSpan text span) ∧ Interval.Canonical (p.matchText text) := by
  have hnone : (∀ span ∈ ([] : List Interval), IsSpan text span) ∧ Interval.Canonical [] :=
    ⟨by simp, by simp, List.Pairwise.nil⟩
  unfold matchText
  split
  · exact hnone
  · rename_i hempty
    split
    · exact sourceSpans_isSpan fun span hspan => normalizedSpans_isSpan hspan
    · split
      · have hwhole : IsSpan text ⟨0, byteLength text⟩ :=
          ⟨byteLength_pos (by simpa using hempty), isBoundary_zero text,
            isBoundary_byteLength text⟩
        refine ⟨by simpa using hwhole, ?_, by simp⟩
        simpa using hwhole.proper
      · exact hnone

/-- Every span of a descriptor in a text holds at least one byte, lies in the text and begins and
ends on a character boundary; the spans go up, and between any two lies a byte that is in
neither. -/
theorem matchText_spans_wellFormed (d : Descriptor) (text : List Char) :
    (∀ span ∈ (ofDescriptor d).matchText text,
      span.start < span.stop ∧ span.stop ≤ byteLength text ∧
      IsBoundary text span.start ∧ IsBoundary text span.stop) ∧
    ((ofDescriptor d).matchText text).Pairwise fun a b => a.stop < b.start := by
  obtain ⟨hspan, hcanonical⟩ := matchText_isSpan (ofDescriptor d) text
  refine ⟨fun span hmem => ?_, hcanonical.separated⟩
  have h := hspan span hmem
  exact ⟨h.proper, h.stop_le, h.start_boundary, h.stop_boundary⟩

end CellSearch.Prepared
