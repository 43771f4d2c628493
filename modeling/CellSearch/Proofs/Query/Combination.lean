import Mathlib
import CellSearch.Proofs.Query.WholeTerm

/-!
# Combination of terms

How the spans of several terms are combined depends on the set of the terms alone
(`Prepared.mem_normalizedSpans_iff`). If any term will do, a cell matches where some term does, and
if all are asked for, where every term does and then with the same spans; and what a term finds by
itself lies within what is found together (`Prepared.terms_combine`).

The last is not said of the spans in the normalized text, which are merged before they are carried
back to the source, so that a span of the whole need not be one of a term. It follows from what the
spans cover, since the way back to the source is monotone
(`Prepared.exists_reported_over_reported`).
-/

namespace CellSearch.Prepared

open CellSearch.Text

variable {p q : Prepared} {o : NormalizeOptions} {text : List Char} {span : Interval}
variable {terms terms' : List (List Char)} {few many : List Interval}

/-- Two prepared descriptors normalize alike and find a term in the same places. -/
structure SearchAlike (p q : Prepared) : Prop where
  mode : q.descriptor.mode = p.descriptor.mode
  wholeWord : q.descriptor.wholeWord = p.descriptor.wholeWord
  normalizeOptions : q.descriptor.normalizeOptions = p.descriptor.normalizeOptions

/-- The spans that a prepared descriptor finds of one term in a normalized text. -/
def spansOf (p : Prepared) (text term : List Char) : List Interval :=
  termSpans p.descriptor.mode p.descriptor.wholeWord text term

theorem SearchAlike.spansOf_eq (h : SearchAlike p q) : q.spansOf = p.spansOf := by
  unfold spansOf
  rw [h.mode, h.wholeWord]

/-! ## What is reported -/

/-- What is reported depends on the set of the spans that are found. -/
theorem sourceSpans_merge_congr (hfew : ∀ span ∈ few, IsSpan (normalize o text).text span)
    (hsame : ∀ span, span ∈ few ↔ span ∈ many) :
    sourceSpans (normalize o text) (Interval.merge few) =
      sourceSpans (normalize o text) (Interval.merge many) := by
  have hmerge : Interval.merge few = Interval.merge many := by
    apply Interval.merge_eq_of_covers
    · exact fun span hspan => (hfew span hspan).proper
    · exact fun span hspan => (hfew span ((hsame span).mpr hspan)).proper
    · exact fun _ => Interval.covers_congr hsame
  rw [hmerge]

/-- A merged span of the fewer lies within one of the more, and so does what it came from. -/
theorem covers_source_of_subset (hmany : ∀ span ∈ many, IsSpan (normalize o text).text span)
    (hsubset : few ⊆ many) (n : Nat)
    (hn : Interval.covers ((Interval.merge few).map (normalize o text).sourceSpan) n = true) :
    Interval.covers ((Interval.merge many).map (normalize o text).sourceSpan) n = true := by
  have hfew : ∀ span ∈ few, IsSpan (normalize o text).text span :=
    fun span hspan => hmany span (hsubset hspan)
  have hcovers : ∀ k, Interval.covers few k = true → Interval.covers many k = true := by
    intro k hk
    rcases Interval.covers_iff.mp hk with ⟨i, hi, hin⟩
    exact Interval.covers_iff.mpr ⟨i, hsubset hi, hin⟩
  rcases Interval.covers_iff.mp hn with ⟨source, hsource, hin⟩
  rcases List.mem_map.mp hsource with ⟨part, hpart, rfl⟩
  rcases Interval.exists_mem_merge_over_of_covers (fun span hspan => (hfew span hspan).proper)
    (fun span hspan => (hmany span hspan).proper) hcovers hpart with ⟨whole, hwhole, hstart, hstop⟩
  have hpartSpan := (merge_isSpan hfew).1 part hpart
  have hwholeSpan := (merge_isSpan hmany).1 whole hwhole
  have hlow := (sourceSpan_mono hwholeSpan hpartSpan).1 hstart
  have hhigh := (sourceSpan_mono hpartSpan hwholeSpan).2 hstop
  rw [Interval.contains_iff] at hin
  refine Interval.covers_iff.mpr ⟨_, List.mem_map.mpr ⟨whole, hwhole, rfl⟩, ?_⟩
  exact Interval.contains_iff.mpr ⟨le_trans hlow hin.1, lt_of_lt_of_le hin.2 hhigh⟩

/-- Where more is found, what is reported of less lies within what is reported. -/
theorem exists_reported_over_reported
    (hmany : ∀ span ∈ many, IsSpan (normalize o text).text span) (hsubset : few ⊆ many)
    (hspan : span ∈ sourceSpans (normalize o text) (Interval.merge few)) :
    ∃ r ∈ sourceSpans (normalize o text) (Interval.merge many),
      r.start ≤ span.start ∧ span.stop ≤ r.stop := by
  have hfew : ∀ span ∈ few, IsSpan (normalize o text).text span :=
    fun span hspan => hmany span (hsubset hspan)
  have hproper : ∀ {found}, (∀ span ∈ found, IsSpan (normalize o text).text span) →
      ∀ source ∈ (Interval.merge found).map (normalize o text).sourceSpan,
        source.start < source.stop := by
    intro found hfound source hsource
    rcases List.mem_map.mp hsource with ⟨merged, hmerged, rfl⟩
    exact (sourceSpan_isSpan ((merge_isSpan hfound).1 merged hmerged)).proper
  rw [sourceSpans_merge hfew] at hspan
  rw [sourceSpans_merge hmany]
  exact Interval.exists_mem_merge_over_of_covers (hproper hfew) (hproper hmany)
    (covers_source_of_subset hmany hsubset) hspan

/-! ## What is found -/

theorem mem_combineTerms_iff {mode : TermMode} {spans : List (List Interval)} :
    span ∈ combineTerms mode spans ↔
      (mode = .any ∨ ∀ found ∈ spans, found ≠ []) ∧ ∃ found ∈ spans, span ∈ found := by
  unfold combineTerms
  cases mode with
  | any => simp
  | all =>
    by_cases hall : ∀ found ∈ spans, found ≠ []
    · have hmissing : ¬(TermMode.all = .all ∧ spans.any List.isEmpty = true) := by
        rintro ⟨-, hempty⟩
        rcases List.any_eq_true.mp hempty with ⟨found, hfound, hnil⟩
        exact hall found hfound (List.isEmpty_iff.mp hnil)
      rw [if_neg hmissing, List.mem_flatten]
      exact (and_iff_right (Or.inr hall)).symm
    · have hmissing : TermMode.all = .all ∧ spans.any List.isEmpty = true := by
        simpa using hall
      rw [if_pos hmissing]
      constructor
      · intro h
        cases h
      · rintro ⟨hany | hfound, -⟩
        · cases hany
        · exact absurd hfound hall

/-- What is found is what some term finds, unless all are asked for and one finds nothing. -/
theorem mem_normalizedSpans_iff (h : p.matcher = .terms terms) :
    span ∈ p.normalizedSpans text ↔
      (p.descriptor.termMode = .any ∨ ∀ term ∈ terms, p.spansOf text term ≠ []) ∧
        ∃ term ∈ terms, span ∈ p.spansOf text term := by
  rw [normalizedSpans_terms h, mem_combineTerms_iff]
  simp only [List.mem_map, forall_exists_index, and_imp, forall_apply_eq_imp_iff₂,
    exists_exists_and_eq_and, spansOf]

theorem mem_normalizedSpans_single_iff {term : List Char} (h : p.matcher = .terms [term]) :
    span ∈ p.normalizedSpans text ↔ span ∈ p.spansOf text term := by
  rw [mem_normalizedSpans_iff h]
  simp only [List.mem_singleton, forall_eq, exists_eq_left, and_iff_right_iff_imp]
  exact fun hspan => Or.inr (List.ne_nil_of_mem hspan)

/-- A cell matches where some term is found, if any will do, or if every term is. -/
theorem matchText_terms_ne_nil_iff (h : p.matcher = .terms terms) : p.matchText text ≠ [] ↔
    (p.descriptor.termMode = .any ∨ ∀ term ∈ terms,
      p.spansOf (normalize p.descriptor.normalizeOptions text).text term ≠ []) ∧
    ∃ term ∈ terms, p.spansOf (normalize p.descriptor.normalizeOptions text).text term ≠ [] := by
  rw [matchText_of_hasQuery (hasQuery_of_terms h), Ne,
    sourceSpans_merge_eq_nil_iff (fun _ hfound => normalizedSpans_isSpan hfound)]
  simp only [Ne, List.eq_nil_iff_forall_not_mem, not_forall, not_not, mem_normalizedSpans_iff h,
    exists_and_left]
  refine and_congr_right fun _ => ?_
  constructor
  · rintro ⟨span, term, hterm, hspan⟩
    exact ⟨term, hterm, span, hspan⟩
  · rintro ⟨term, hterm, span, hspan⟩
    exact ⟨span, term, hterm, hspan⟩

/-! ## Terms together and alone -/

/-- What is reported is determined by what is found. -/
theorem matchText_eq_of_found (hp : p.matcher = .terms terms) (hq : q.matcher = .terms terms')
    (halike : SearchAlike p q)
    (hsame : ∀ span,
      span ∈ p.normalizedSpans (normalize p.descriptor.normalizeOptions text).text ↔
      span ∈ q.normalizedSpans (normalize p.descriptor.normalizeOptions text).text) :
    q.matchText text = p.matchText text := by
  rw [matchText_of_hasQuery (hasQuery_of_terms hp), matchText_of_hasQuery (hasQuery_of_terms hq),
    halike.normalizeOptions]
  exact (sourceSpans_merge_congr (fun _ hfound => normalizedSpans_isSpan hfound) hsame).symm

/-- What is reported does not depend on the order of the terms nor on how often one is asked
for. -/
theorem matchText_eq_of_sameTerms (hp : p.matcher = .terms terms)
    (hq : q.matcher = .terms terms') (halike : SearchAlike p q)
    (hterms : ∀ term, term ∈ terms' ↔ term ∈ terms)
    (hmode : q.descriptor.termMode = p.descriptor.termMode) (text : List Char) :
    q.matchText text = p.matchText text := by
  apply matchText_eq_of_found hp hq halike
  intro span
  rw [mem_normalizedSpans_iff hp, mem_normalizedSpans_iff hq, hmode, halike.spansOf_eq]
  simp only [hterms]

/-- Where every term is found, to ask for all or for any is the same. -/
theorem matchText_eq_any (hp : p.matcher = .terms terms) (hq : q.matcher = .terms terms)
    (halike : SearchAlike p q) (hany : q.descriptor.termMode = .any)
    (hmatch : p.matchText text ≠ []) : q.matchText text = p.matchText text := by
  apply matchText_eq_of_found hp hq halike
  intro span
  rw [mem_normalizedSpans_iff hp, mem_normalizedSpans_iff hq, halike.spansOf_eq,
    and_iff_right ((matchText_terms_ne_nil_iff hp).mp hmatch).1, and_iff_right (Or.inl hany)]

/-- A term by itself matches a cell where it is found. -/
theorem matchText_single_ne_nil_iff {term : List Char} (hq : q.matcher = .terms [term])
    (halike : SearchAlike p q) : q.matchText text ≠ [] ↔
      p.spansOf (normalize p.descriptor.normalizeOptions text).text term ≠ [] := by
  rw [matchText_terms_ne_nil_iff hq, halike.spansOf_eq, halike.normalizeOptions]
  simp only [List.mem_singleton, forall_eq, exists_eq_left, and_iff_right_iff_imp]
  exact Or.inr

/-- What a term finds by itself lies within what all the terms find, if they find anything. -/
theorem exists_reported_over_single {term : List Char} (hp : p.matcher = .terms terms)
    (hterm : term ∈ terms) (hq : q.matcher = .terms [term]) (halike : SearchAlike p q)
    (hmatch : p.matchText text ≠ []) (hspan : span ∈ q.matchText text) :
    ∃ r ∈ p.matchText text, r.start ≤ span.start ∧ span.stop ≤ r.stop := by
  rw [matchText_of_hasQuery (hasQuery_of_terms hq), halike.normalizeOptions] at hspan
  have hall := ((matchText_terms_ne_nil_iff hp).mp hmatch).1
  rw [matchText_of_hasQuery (hasQuery_of_terms hp)]
  apply exists_reported_over_reported (fun _ hfound => normalizedSpans_isSpan hfound) _ hspan
  intro found hfound
  rw [mem_normalizedSpans_single_iff hq, halike.spansOf_eq] at hfound
  exact (mem_normalizedSpans_iff hp).mpr ⟨hall, term, hterm, hfound⟩

/-- The terms of a query are combined as a set. What is reported depends on which they are and not
on their order or repetition; if any will do, a cell matches where some term matches by itself; if
all are asked for, where every term does, and then with the spans for any; and what a term reports
by itself lies within a span of the whole, if there is one. -/
theorem terms_combine (hp : p.matcher = .terms terms) (hterms : terms ≠ [])
    (single : List Char → Prepared)
    (hsingle : ∀ term ∈ terms, (single term).matcher = .terms [term] ∧
      SearchAlike p (single term)) (text : List Char) :
    (∀ q terms', q.matcher = .terms terms' → SearchAlike p q →
      (∀ term, term ∈ terms' ↔ term ∈ terms) →
      q.descriptor.termMode = p.descriptor.termMode → q.matchText text = p.matchText text) ∧
    (p.descriptor.termMode = .any →
      (p.matchText text ≠ [] ↔ ∃ term ∈ terms, (single term).matchText text ≠ [])) ∧
    (p.descriptor.termMode = .all →
      (p.matchText text ≠ [] ↔ ∀ term ∈ terms, (single term).matchText text ≠ []) ∧
      (p.matchText text ≠ [] → ∀ q, q.matcher = .terms terms → SearchAlike p q →
        q.descriptor.termMode = .any → q.matchText text = p.matchText text)) ∧
    (p.matchText text ≠ [] → ∀ term ∈ terms, ∀ span ∈ (single term).matchText text,
      ∃ r ∈ p.matchText text, r.start ≤ span.start ∧ span.stop ≤ r.stop) := by
  have hfound : ∀ term ∈ terms, ((single term).matchText text ≠ [] ↔
      p.spansOf (normalize p.descriptor.normalizeOptions text).text term ≠ []) := by
    intro term hterm
    exact matchText_single_ne_nil_iff (hsingle term hterm).1 (hsingle term hterm).2
  refine ⟨?_, ?_, ?_, ?_⟩
  · intro q terms' hq halike hsame hmode
    exact matchText_eq_of_sameTerms hp hq halike hsame hmode text
  · intro hany
    rw [matchText_terms_ne_nil_iff hp, and_iff_right (Or.inl hany)]
    exact exists_congr fun term => and_congr_right fun hterm => (hfound term hterm).symm
  · intro hall
    constructor
    · rw [matchText_terms_ne_nil_iff hp, hall, or_iff_right TermMode.noConfusion]
      constructor
      · rintro ⟨hevery, -⟩ term hterm
        exact (hfound term hterm).mpr (hevery term hterm)
      · intro hevery
        -- that every term is found says that one is, since there are terms
        rcases List.exists_mem_of_ne_nil _ hterms with ⟨term, hterm⟩
        refine ⟨fun term hterm => (hfound term hterm).mp (hevery term hterm), term, hterm, ?_⟩
        exact (hfound term hterm).mp (hevery term hterm)
    · intro hmatch q hq halike hany
      exact matchText_eq_any hp hq halike hany hmatch
  · intro hmatch term hterm span hspan
    exact exists_reported_over_single hp hterm (hsingle term hterm).1 (hsingle term hterm).2 hmatch
      hspan

/-- Two terms that are found next to each other, in either order. -/
theorem terms_combine_red_blue :
    let p := ofDescriptor { query := "red blue", termMode := .all }
    let q := ofDescriptor { query := "blue red blue", termMode := .all }
    let any := ofDescriptor { query := "red blue" }
    let single (term : List Char) := ofDescriptor { query := String.ofList term }
    p.matcher = .terms ["red".toList, "blue".toList] ∧
    (∀ term ∈ ["red".toList, "blue".toList], (single term).matcher = .terms [term] ∧
      SearchAlike p (single term)) ∧
    p.matchText "Redblue".toList = [⟨0, 7⟩] ∧
    q.matchText "Redblue".toList = p.matchText "Redblue".toList ∧
    any.matchText "Redblue".toList = p.matchText "Redblue".toList := by
  intro p q any single
  have hp : p.matcher = .terms ["red".toList, "blue".toList] := by decide +kernel
  have hq : q.matcher = .terms ["blue".toList, "red".toList, "blue".toList] := by decide +kernel
  have hany : any.matcher = .terms ["red".toList, "blue".toList] := by decide +kernel
  have hsingle : ∀ term ∈ ["red".toList, "blue".toList],
      (single term).matcher = .terms [term] ∧ SearchAlike p (single term) := by
    intro term hterm
    simp only [List.mem_cons, List.not_mem_nil, or_false] at hterm
    rcases hterm with rfl | rfl
    · exact ⟨by decide +kernel, rfl, rfl, rfl⟩
    · exact ⟨by decide +kernel, rfl, rfl, rfl⟩
  have hspans : p.matchText "Redblue".toList = [⟨0, 7⟩] := by cbv
  have hmatch : p.matchText "Redblue".toList ≠ [] := by
    rw [hspans]
    exact List.cons_ne_nil _ _
  have hcombine := terms_combine hp (List.cons_ne_nil _ _) single hsingle "Redblue".toList
  refine ⟨hp, hsingle, hspans, ?_, ?_⟩
  · have halike : SearchAlike p q := ⟨rfl, rfl, rfl⟩
    have hmode : q.descriptor.termMode = p.descriptor.termMode := rfl
    have hsame : ∀ term, term ∈ ["blue".toList, "red".toList, "blue".toList] ↔
        term ∈ ["red".toList, "blue".toList] := by
      intro term
      simp only [List.mem_cons, List.not_mem_nil, or_false]
      exact ⟨fun h => h.elim Or.inr id, Or.inr⟩
    exact hcombine.1 q _ hq halike hsame hmode
  · have halike : SearchAlike p any := ⟨rfl, rfl, rfl⟩
    have hall : p.descriptor.termMode = .all := rfl
    have hmode : any.descriptor.termMode = .any := rfl
    exact (hcombine.2.2.1 hall).2 hmatch any hany halike hmode

end CellSearch.Prepared
