import Mathlib
import CellSearch.Proofs.Query.Match
import CellSearch.Proofs.Text.RoundTrip

/-!
# The terms of a literal query

A literal query is sound and complete (`Prepared.matchText_terms`): what is reported holds a term,
and what holds a term is reported. Between the two sides stand the search of the normalized text,
which passes over overlapping occurrences, a merge there, the way back to the source, and one more
merge. Each of the four keeps what was found within something that is left, and leaves nothing
that does not hold something that was found (`Prepared.exists_reported_over`,
`Prepared.exists_found_under`).
-/

namespace CellSearch.Prepared

open CellSearch.Text CellSearch.Unicode

variable {d : Descriptor} {p : Prepared} {o : NormalizeOptions} {text term : List Char}
variable {terms : List (List Char)} {found : List Interval} {span r : Interval}

/-! ## From what is found to what is reported -/

/-- The way back to the source is the same for every way of normalizing. -/
theorem sourceSpans_merge (h : ∀ span ∈ found, IsSpan (normalize o text).text span) :
    sourceSpans (normalize o text) (Interval.merge found) =
      Interval.merge ((Interval.merge found).map (normalize o text).sourceSpan) := by
  unfold sourceSpans
  split
  · rename_i haligned
    cases hn : normalize o text with
    | aligned cs =>
      have hid : (NormalizedText.aligned cs).sourceSpan = id := rfl
      rw [hid, List.map_id]
      exact (merge_isSpan h).2.merge_eq.symm
    | mapped chars =>
      rw [hn] at haligned
      cases haligned
  · rfl

/-- Every span that is found is reported, as a part of a longer one if not by itself. -/
theorem exists_reported_over (h : ∀ span ∈ found, IsSpan (normalize o text).text span)
    (hspan : span ∈ found) :
    ∃ r ∈ sourceSpans (normalize o text) (Interval.merge found),
      r.start ≤ ((normalize o text).sourceSpan span).start ∧
      ((normalize o text).sourceSpan span).stop ≤ r.stop := by
  obtain ⟨merged, hmerged, hstart, hstop⟩ := Interval.exists_mem_merge_over hspan
  obtain ⟨r, hr, hstart', hstop'⟩ := Interval.exists_mem_merge_over
    (List.mem_map.mpr ⟨merged, hmerged, rfl⟩ :
      (normalize o text).sourceSpan merged ∈
        (Interval.merge found).map (normalize o text).sourceSpan)
  have hmono := sourceSpan_mono ((merge_isSpan h).1 merged hmerged) (h span hspan)
  have hmono' := sourceSpan_mono (h span hspan) ((merge_isSpan h).1 merged hmerged)
  rw [sourceSpans_merge h]
  exact ⟨r, hr, le_trans hstart' (hmono.1 hstart), le_trans (hmono'.2 hstop) hstop'⟩

/-- Every span that is reported holds one that is found. -/
theorem exists_found_under (h : ∀ span ∈ found, IsSpan (normalize o text).text span)
    (hr : r ∈ sourceSpans (normalize o text) (Interval.merge found)) :
    ∃ span ∈ found, r.start ≤ ((normalize o text).sourceSpan span).start ∧
      ((normalize o text).sourceSpan span).stop ≤ r.stop := by
  rw [sourceSpans_merge h] at hr
  obtain ⟨source, hsource, hstart', hstop'⟩ := Interval.exists_mem_under_merge hr
  obtain ⟨merged, hmerged, rfl⟩ := List.mem_map.mp hsource
  obtain ⟨span, hspan, hstart, hstop⟩ := Interval.exists_mem_under_merge hmerged
  have hmono := sourceSpan_mono ((merge_isSpan h).1 merged hmerged) (h span hspan)
  have hmono' := sourceSpan_mono (h span hspan) ((merge_isSpan h).1 merged hmerged)
  exact ⟨span, hspan, le_trans hstart' (hmono.1 hstart), le_trans (hmono'.2 hstop) hstop'⟩

/-- A piece of the source that holds the source of an occurrence is normalized to a text that
holds the term. -/
theorem infix_normalize_of_over (hterm : term ≠ [])
    (hoccurs : Occurs (normalize o text).text term span) (hr : IsSpan text r)
    (hstart : r.start ≤ ((normalize o text).sourceSpan span).start)
    (hstop : ((normalize o text).sourceSpan span).stop ≤ r.stop) :
    ∃ piece, slice? text r.start r.stop = some piece ∧ term <:+: (normalize o piece).text := by
  obtain ⟨before, piece, behind, hcut, -, hlow, hhigh⟩ := hr.exists_cut
  obtain ⟨front, source, back, hsource, heq⟩ := exists_source (hoccurs.isSpan hterm)
  rw [heq] at hstart hstop
  dsimp only at hstart hstop
  obtain ⟨mid, rest, rfl, rfl, -⟩ :=
    exists_within (hcut.symm.trans hsource.text_eq) (by omega) (by omega)
  refine ⟨mid ++ source ++ rest, ?_, ?_⟩
  · rw [← hlow, ← hhigh, hcut]
    exact slice?_append _ _ _
  · -- the source of the occurrence is normalized to the same within the piece as by itself
    obtain ⟨inner, hinner, hinfix⟩ := hsource.exists_inner (hoccurs.isSpan hterm)
    rw [hoccurs.slice?_eq] at hinner
    cases hinner
    rw [hsource.text_normalize_append rest]
    exact hinfix.trans ⟨_, _, rfl⟩

/-! ## The terms -/

theorem ne_nil_of_mem_splitWhiteSpace {query : List Char} (h : term ∈ splitWhiteSpace query) :
    term ≠ [] := by
  have hfilter := (List.mem_filter.mp h).2
  simpa using hfilter

/-- A literal query that is not blank is searched by its terms. -/
theorem matcher_eq_terms (hmode : d.mode.isPattern = false)
    (hquery : (ofDescriptor d).hasQuery = true) : (ofDescriptor d).matcher =
      .terms (splitWhiteSpace (ofDescriptor d).normalizedQuery) := by
  simp only [hasQuery, ofDescriptor, Matcher.ofQuery, hmode] at hquery ⊢
  split
  · rename_i hblank
    rw [if_pos hblank] at hquery
    exact absurd hquery (by decide)
  · rfl

theorem normalizedSpans_terms (h : p.matcher = .terms terms) (text : List Char) :
    p.normalizedSpans text = combineTerms p.descriptor.termMode
      (terms.map fun t => termSpans p.descriptor.mode p.descriptor.wholeWord text t) := by
  simp only [normalizedSpans, h]

theorem exists_term_of_mem (h : p.matcher = .terms terms) (hspan : span ∈ p.normalizedSpans text) :
    ∃ term ∈ terms,
      span ∈ termSpans p.descriptor.mode p.descriptor.wholeWord text term := by
  rw [normalizedSpans_terms h, combineTerms] at hspan
  split at hspan
  · cases hspan
  · obtain ⟨spans, hspans, hmem⟩ := List.mem_flatten.mp hspan
    obtain ⟨term, hterm, rfl⟩ := List.mem_map.mp hspans
    exact ⟨term, hterm, hmem⟩

theorem hasQuery_of_terms (h : p.matcher = .terms terms) : p.hasQuery = true := by
  rw [hasQuery, h]
  rfl

/-- The terms are combined so that none is left out, unless all are asked for and one is
missing. -/
theorem mem_normalizedSpans (h : p.matcher = .terms terms) (hterms : ∀ term ∈ terms, term ≠ [])
    (hwhole : p.descriptor.wholeWord = false)
    (hall : p.descriptor.termMode = .any ∨ ∀ term ∈ terms, Hits p.descriptor.mode text term)
    (hterm : term ∈ terms)
    (hspan : span ∈ termSpans p.descriptor.mode false text term) :
    span ∈ p.normalizedSpans text := by
  rw [normalizedSpans_terms h, combineTerms, hwhole, if_neg]
  · exact List.mem_flatten.mpr ⟨_, List.mem_map.mpr ⟨term, hterm, rfl⟩, hspan⟩
  · rintro ⟨hmode, hmissing⟩
    obtain ⟨spans, hspans, hempty⟩ := List.any_eq_true.mp hmissing
    obtain ⟨missing, hmem, rfl⟩ := List.mem_map.mp hspans
    have hnone := (termSpans_eq_nil_iff (hterms missing hmem)).mp (List.isEmpty_iff.mp hempty)
    rcases hall with hany | hhits
    · rw [hany] at hmode
      cases hmode
    · exact hnone (hhits missing hmem)

theorem normalizedSpans_eq_nil (h : p.matcher = .terms terms)
    (hterms : ∀ term ∈ terms, term ≠ []) (hwhole : p.descriptor.wholeWord = false)
    (hnone : (∀ term ∈ terms, ¬ Hits p.descriptor.mode text term) ∨
      p.descriptor.termMode = .all ∧ ∃ term ∈ terms, ¬ Hits p.descriptor.mode text term) :
    p.normalizedSpans text = [] := by
  rcases hnone with hnone | ⟨hmode, term, hterm, hmissing⟩
  · rw [List.eq_nil_iff_forall_not_mem]
    intro span hspan
    obtain ⟨term, hterm, hmem⟩ := exists_term_of_mem h hspan
    rw [hwhole, (termSpans_eq_nil_iff (hterms term hterm)).mpr (hnone term hterm)] at hmem
    cases hmem
  · rw [normalizedSpans_terms h, combineTerms, hwhole, if_pos]
    refine ⟨hmode, List.any_eq_true.mpr ⟨_, List.mem_map.mpr ⟨term, hterm, rfl⟩, ?_⟩⟩
    exact List.isEmpty_iff.mpr ((termSpans_eq_nil_iff (hterms term hterm)).mpr hmissing)

/-! ## Soundness and completeness -/

/-- A reported span holds one that was found, which holds a term. -/
theorem exists_term_under (h : p.matcher = .terms terms) (hterms : ∀ term ∈ terms, term ≠ [])
    (hr : r ∈ p.matchText text) :
    ∃ piece, slice? text r.start r.stop = some piece ∧
      ∃ term ∈ terms, term <:+: (normalize p.descriptor.normalizeOptions piece).text := by
  have hspan : IsSpan text r := (matchText_isSpan p text).1 r hr
  rw [matchText_of_hasQuery (hasQuery_of_terms h)] at hr
  obtain ⟨found, hmem, hstart, hstop⟩ :=
    exists_found_under (fun _ hfound => normalizedSpans_isSpan hfound) hr
  obtain ⟨term, hterm, hfound⟩ := exists_term_of_mem h hmem
  obtain ⟨piece, hpiece, hinfix⟩ := infix_normalize_of_over (hterms term hterm)
    (termSpans_occurs hfound) hspan hstart hstop
  exact ⟨piece, hpiece, term, hterm, hinfix⟩

/-- A span of a term lies within a reported one, if none of the terms asked for is missing. -/
theorem exists_reported_over_termSpan (h : p.matcher = .terms terms)
    (hterms : ∀ term ∈ terms, term ≠ []) (hwhole : p.descriptor.wholeWord = false)
    (hall : p.descriptor.termMode = .any ∨ ∀ term ∈ terms, Hits p.descriptor.mode
      (normalize p.descriptor.normalizeOptions text).text term)
    (hterm : term ∈ terms) (hspan : span ∈ termSpans p.descriptor.mode false
      (normalize p.descriptor.normalizeOptions text).text term) :
    ∃ r ∈ p.matchText text,
      r.start ≤ ((normalize p.descriptor.normalizeOptions text).sourceSpan span).start ∧
      ((normalize p.descriptor.normalizeOptions text).sourceSpan span).stop ≤ r.stop := by
  have hmem : span ∈ p.normalizedSpans (normalize p.descriptor.normalizeOptions text).text :=
    mem_normalizedSpans h hterms hwhole hall hterm hspan
  rw [matchText_of_hasQuery (hasQuery_of_terms h)]
  exact exists_reported_over (fun _ hfound => normalizedSpans_isSpan hfound) hmem

/-- An occurrence begins within a span of its term, and its first byte goes back into whatever
that span goes back into. -/
theorem exists_shared_byte {reported : List Interval} {front back : List Char}
    (hterm : term ≠ []) (htext : (normalize o text).text = front ++ term ++ back)
    (hover : ∀ span ∈ termSpans .contains false (normalize o text).text term, ∃ r ∈ reported,
      r.start ≤ ((normalize o text).sourceSpan span).start ∧
      ((normalize o text).sourceSpan span).stop ≤ r.stop) :
    ∃ r ∈ reported, ∃ k, r.contains k = true ∧ ((normalize o text).sourceSpan
      (.ofLength (byteLength front) (byteLength term))).contains k = true := by
  obtain ⟨span, hmem, hstart, hstop⟩ := exists_occurrence hterm htext
  obtain ⟨r, hr, hlow, hhigh⟩ := hover span hmem
  have hspan : IsSpan (normalize o text).text span := (termSpans_occurs hmem).isSpan hterm
  have hoccurs : IsSpan (normalize o text).text
      (.ofLength (byteLength front) (byteLength term)) :=
    Occurs.isSpan ⟨front, back, htext, rfl⟩ hterm
  -- the byte in question is the first of the source of the occurrence
  have hbefore := (sourceSpan_mono hspan hoccurs).1 hstart
  have hinside := sourceSpan_start_lt hspan hoccurs hstop
  have hproper := (sourceSpan_isSpan hoccurs).proper
  refine ⟨r, hr, _, Interval.contains_iff.mpr ⟨?_, ?_⟩,
    Interval.contains_iff.mpr ⟨le_refl _, hproper⟩⟩
  · exact le_trans hlow hbefore
  · exact lt_of_lt_of_le hinside hhigh

theorem matchText_eq_nil_of_missing (h : p.matcher = .terms terms)
    (hterms : ∀ term ∈ terms, term ≠ []) (hwhole : p.descriptor.wholeWord = false)
    (hnone : (∀ term ∈ terms, ¬ Hits p.descriptor.mode
        (normalize p.descriptor.normalizeOptions text).text term) ∨
      p.descriptor.termMode = .all ∧ ∃ term ∈ terms, ¬ Hits p.descriptor.mode
        (normalize p.descriptor.normalizeOptions text).text term) :
    p.matchText text = [] := by
  rw [matchText_of_hasQuery (hasQuery_of_terms h), normalizedSpans_eq_nil h hterms hwhole hnone,
    Interval.merge_nil, sourceSpans_nil]

/-- The spans of a literal query hold its terms. Under each, the text of the cell is normalized to
one that has a term in it. If whole words are not asked for, and all terms are found or any will
do, then every occurrence of a term shares a byte with a span, and a term found at an end or as
the whole lies within one; if a term that is needed is not found, there is no span. -/
theorem matchText_terms (hmode : d.mode.isPattern = false)
    (hquery : (ofDescriptor d).hasQuery = true) (text : List Char) :
    let n := normalize d.normalizeOptions text
    let terms := splitWhiteSpace (ofDescriptor d).normalizedQuery
    let reported := (ofDescriptor d).matchText text
    let Reported (span : Interval) : Prop := ∃ r ∈ reported,
      r.start ≤ (n.sourceSpan span).start ∧ (n.sourceSpan span).stop ≤ r.stop
    (∀ r ∈ reported, ∃ piece, slice? text r.start r.stop = some piece ∧
      ∃ term ∈ terms, term <:+: (normalize d.normalizeOptions piece).text) ∧
    (d.wholeWord = false →
      ((d.termMode = .any ∨ ∀ term ∈ terms, Hits d.mode n.text term) → ∀ term ∈ terms,
        (d.mode = .contains → ∀ front back, n.text = front ++ term ++ back →
          ∃ r ∈ reported, ∃ k, r.contains k = true ∧
            (n.sourceSpan (.ofLength (byteLength front) (byteLength term))).contains k = true) ∧
        (d.mode = .startsWith → term <+: n.text → Reported ⟨0, byteLength term⟩) ∧
        (d.mode = .endsWith → term <:+ n.text →
          Reported ⟨byteLength n.text - byteLength term, byteLength n.text⟩) ∧
        (d.mode = .equals → n.text = term → Reported ⟨0, byteLength n.text⟩)) ∧
      ((d.termMode = .any ∧ (∀ term ∈ terms, ¬ Hits d.mode n.text term) ∨
        d.termMode = .all ∧ ∃ term ∈ terms, ¬ Hits d.mode n.text term) → reported = [])) := by
  intro n terms reported Reported
  have hmatcher : (ofDescriptor d).matcher = .terms terms := matcher_eq_terms hmode hquery
  have hterms : ∀ term ∈ terms, term ≠ [] := fun term h => ne_nil_of_mem_splitWhiteSpace h
  refine ⟨fun r hr => exists_term_under hmatcher hterms hr, fun hwhole => ⟨?_, ?_⟩⟩
  · intro hall term hterm
    have hne := hterms term hterm
    have hover : ∀ span ∈ termSpans d.mode false n.text term, Reported span :=
      fun span hspan => exists_reported_over_termSpan hmatcher hterms hwhole hall hterm hspan
    refine ⟨?_, ?_, ?_, ?_⟩
    · intro hcontains front back htext
      rw [hcontains] at hover
      exact exists_shared_byte hne htext hover
    · intro hstarts hprefix
      rw [hstarts, termSpans_startsWith hne hprefix] at hover
      exact hover _ (List.mem_singleton_self _)
    · intro hends hsuffix
      rw [hends, termSpans_endsWith hne hsuffix] at hover
      exact hover _ (List.mem_singleton_self _)
    · intro hequals hequal
      rw [hequals, hequal, termSpans_equals hne] at hover
      rw [hequal]
      exact hover _ (List.mem_singleton_self _)
  · intro hnone
    exact matchText_eq_nil_of_missing hmatcher hterms hwhole (hnone.imp_left And.right)

/-- A term behind a capital that becomes two characters when its case is folded. -/
theorem matchText_terms_behind_dotted_capital :
    let d : Descriptor := { query := "AB" }
    let n := normalize d.normalizeOptions "İab".toList
    d.mode.isPattern = false ∧ (ofDescriptor d).hasQuery = true ∧ d.wholeWord = false ∧
    n.text = ['i', '\u0307'] ++ ['a', 'b'] ++ [] ∧
    ∃ r ∈ (ofDescriptor d).matchText "İab".toList, ∃ k, r.contains k = true ∧
      (n.sourceSpan (.ofLength 3 2)).contains k = true := by
  intro d n
  have hmode : d.mode.isPattern = false := rfl
  have hquery : (ofDescriptor d).hasQuery = true := by decide
  have hterm : ['a', 'b'] ∈ splitWhiteSpace (ofDescriptor d).normalizedQuery := by decide
  have htext : n.text = ['i', '\u0307'] ++ ['a', 'b'] ++ [] := by decide
  have hcomplete := ((matchText_terms hmode hquery "İab".toList).2 rfl).1 (Or.inl rfl) _ hterm
  exact ⟨hmode, hquery, rfl, htext, hcomplete.1 rfl _ _ htext⟩

end CellSearch.Prepared
