import Mathlib
import CellSearch.Proofs.Query.Match
import CellSearch.Proofs.Regex.Guarded

/-!
# Patterns that match whole words

A descriptor that asks for whole words has its pattern wrapped in word boundaries before it is
read. Wrapping keeps what a pattern means (`Prepared.wholeWord_keeps_pattern`) with two exceptions.
A query that ends in a comment is a pattern and its wrapped text is none. A query that closes a
group it has not opened is no pattern, but its wrapped text can be one, and then its matches need
not be whole words (`Prepared.wholeWord_changes_pattern`).
-/

namespace CellSearch.Prepared

open CellSearch.Regex CellSearch.Text

variable {d : Descriptor} {p : Prepared}

/-! ## What a query is prepared to -/

/-- The matcher of the text of a pattern. -/
def matcherOfText (caseless : Bool) (text : List Char) : Matcher :=
  match parse caseless text with
  | some r => .pattern text r
  | none => .invalid

/-- A query that is not blank is matched by what its text is read as, wrapped or not. -/
theorem matcher_regex (hmode : d.mode = .regex) : (ofDescriptor d).matcher =
    if (Unicode.trim (ofDescriptor d).normalizedQuery).isEmpty then .empty
    else matcherOfText (!d.isCaseSensitive)
      (if d.wholeWord then wrap (ofDescriptor d).normalizedQuery
        else (ofDescriptor d).normalizedQuery) := by
  have hpattern : ∀ query : List Char,
      (if d.mode = .wildcard then Wildcard.toPattern query else query) = query := fun query => by
    rw [hmode, if_neg (by decide)]
  have hmatcher : ∀ query, Matcher.ofQuery d query =
      if (Unicode.trim query).isEmpty then .empty
      else matcherOfText (!d.isCaseSensitive)
        (if d.wholeWord then wrap query else query) := fun query => by
    rw [Matcher.ofQuery, Matcher.patternText, hpattern, hmode]
    rfl
  exact hmatcher _

theorem hasQuery_matcherOfText {caseless : Bool} {text : List Char}
    (h : p.matcher = matcherOfText caseless text) : p.hasQuery = true := by
  unfold hasQuery
  rw [h, matcherOfText]
  cases parse caseless text <;> rfl

theorem isValid_matcherOfText {caseless : Bool} {text : List Char}
    (h : p.matcher = matcherOfText caseless text) :
    p.isValid = (parse caseless text).isSome := by
  unfold isValid
  rw [h, matcherOfText]
  cases parse caseless text <;> rfl

/-- What is invalid matches nothing. -/
theorem matchText_of_not_isValid (hinvalid : p.isValid = false) (text : List Char) :
    p.matchText text = [] := by
  have hmatcher : p.matcher = .invalid := by simpa [isValid] using hinvalid
  have hquery : p.hasQuery = true := by
    rw [hasQuery, hmatcher]
    rfl
  rw [matchText_of_hasQuery hquery, normalizedSpans, hmatcher, Interval.merge_nil, sourceSpans_nil]

/-! ## Wrapped and plain -/

/-- The query as a pattern for any occurrence. -/
def plain (d : Descriptor) : Prepared :=
  ofDescriptor { d with wholeWord := false }

/-- The query as a pattern for whole words. -/
def whole (d : Descriptor) : Prepared :=
  ofDescriptor { d with wholeWord := true }

/-- Either both are blank, or both are read from the text of the same query. -/
theorem matcher_plain_whole (hmode : d.mode = .regex) :
    (plain d).matcher = .empty ∧ (whole d).matcher = .empty ∨
      (plain d).matcher = matcherOfText (!d.isCaseSensitive) (plain d).normalizedQuery ∧
      (whole d).matcher = matcherOfText (!d.isCaseSensitive) (wrap (plain d).normalizedQuery) := by
  have hplain : (plain d).matcher =
      if (Unicode.trim (plain d).normalizedQuery).isEmpty then .empty
      else matcherOfText (!d.isCaseSensitive) (plain d).normalizedQuery :=
    matcher_regex (d := { d with wholeWord := false }) hmode
  have hwhole : (whole d).matcher =
      if (Unicode.trim (plain d).normalizedQuery).isEmpty then .empty
      else matcherOfText (!d.isCaseSensitive) (wrap (plain d).normalizedQuery) :=
    matcher_regex (d := { d with wholeWord := true }) hmode
  split at hplain
  · rename_i hblank
    rw [if_pos hblank] at hwhole
    exact Or.inl ⟨hplain, hwhole⟩
  · rename_i hblank
    rw [if_neg hblank] at hwhole
    exact Or.inr ⟨hplain, hwhole⟩

theorem isValid_of_blank (hblank : p.matcher = .empty) : p.isValid = true := by
  rw [isValid, hblank]
  rfl

/-- A pattern loses its validity by being wrapped exactly if it ends in a comment. -/
theorem isValid_whole_eq_false_iff (hmode : d.mode = .regex) (hvalid : (plain d).isValid = true) :
    (whole d).isValid = false ↔ (plain d).hasQuery = true ∧
      EndsInComment (!d.isCaseSensitive) (plain d).normalizedQuery := by
  rcases matcher_plain_whole hmode with ⟨hplain, hwhole⟩ | ⟨hplain, hwhole⟩
  · have hquery : (plain d).hasQuery = false := by
      rw [hasQuery, hplain]
      rfl
    simp [isValid_of_blank hwhole, hquery]
  · rw [isValid_matcherOfText hplain] at hvalid
    rw [isValid_matcherOfText hwhole, hasQuery_matcherOfText hplain, Option.isSome_eq_false_iff,
      Option.isNone_iff_eq_none]
    obtain ⟨r, hr⟩ := Option.isSome_iff_exists.mp hvalid
    refine ⟨fun hnone => ⟨rfl, ?_⟩, fun hcomment => parse_wrap_of_comment hcomment.2⟩
    by_contra hcomment
    rw [parse_wrap hr hcomment] at hnone
    cases hnone

/-- A query becomes valid by being wrapped only if it closes too much. -/
theorem isValid_of_isValid_whole (hmode : d.mode = .regex) (hvalid : (whole d).isValid = true) :
    (plain d).isValid = true ∨
      ClosesTooMuch (!d.isCaseSensitive) (plain d).normalizedQuery := by
  rcases matcher_plain_whole hmode with ⟨hplain, -⟩ | ⟨hplain, hwhole⟩
  · exact Or.inl (isValid_of_blank hplain)
  · rw [isValid_matcherOfText hwhole] at hvalid
    rw [isValid_matcherOfText hplain]
    exact parse_of_parse_wrap hvalid

/-- What a query finds that does not close too much are whole words. -/
theorem normalizedSpans_whole (hmode : d.mode = .regex)
    (hclose : ¬ClosesTooMuch (!d.isCaseSensitive) (plain d).normalizedQuery) {text : List Char}
    {span : Interval} (hspan : span ∈ (whole d).normalizedSpans text) :
    AtWordBoundary text span.start ∧ AtWordBoundary text span.stop := by
  rcases matcher_plain_whole hmode with ⟨-, hwhole⟩ | ⟨-, hwhole⟩
  · rw [normalizedSpans, hwhole] at hspan
    cases hspan
  · cases hparse : parse (!d.isCaseSensitive) (wrap (plain d).normalizedQuery) with
    | none =>
      rw [normalizedSpans, hwhole, matcherOfText, hparse] at hspan
      cases hspan
    | some r =>
      -- the query is a pattern by itself, and the wrapped one has it between word boundaries
      have hplain : (parse (!d.isCaseSensitive) (plain d).normalizedQuery).isSome :=
        (parse_of_parse_wrap (by rw [hparse]; rfl)).resolve_right hclose
      obtain ⟨r', hr'⟩ := Option.isSome_iff_exists.mp hplain
      have hcomment : ¬EndsInComment (!d.isCaseSensitive) (plain d).normalizedQuery := by
        intro hcomment
        rw [parse_wrap_of_comment hcomment] at hparse
        cases hparse
      rw [normalizedSpans, hwhole, matcherOfText, parse_wrap hr' hcomment] at hspan
      exact findAll_wholeWord hspan

/-- A query as a pattern and the same query for whole words. Both are valid or neither is, unless
the query ends in a comment or closes a group that it does not open; what is invalid matches
nothing; and, unless the query closes such a group, every match for whole words begins and ends at
a word boundary. -/
theorem wholeWord_keeps_pattern (d : Descriptor) (hmode : d.mode = .regex) :
    ((plain d).isValid = true → ((whole d).isValid = false ↔ (plain d).hasQuery = true ∧
      EndsInComment (!d.isCaseSensitive) (plain d).normalizedQuery)) ∧
    ((whole d).isValid = true → (plain d).isValid = true ∨
      ClosesTooMuch (!d.isCaseSensitive) (plain d).normalizedQuery) ∧
    (∀ p ∈ [plain d, whole d], p.isValid = false → ∀ text, p.matchText text = []) ∧
    (¬ClosesTooMuch (!d.isCaseSensitive) (plain d).normalizedQuery →
      ∀ text, ∀ span ∈ (whole d).normalizedSpans text,
        AtWordBoundary text span.start ∧ AtWordBoundary text span.stop) := by
  refine ⟨isValid_whole_eq_false_iff hmode, isValid_of_isValid_whole hmode, ?_, ?_⟩
  · intro p _ hinvalid text
    exact matchText_of_not_isValid hinvalid text
  · intro hclose text span hspan
    exact normalizedSpans_whole hmode hclose hspan

theorem wholeWord_keeps_alternatives :
    ({ query := "cat|dog", mode := .regex } : Descriptor).mode = .regex ∧
    (whole { query := "cat|dog", mode := .regex }).isValid = true ∧
    AtWordBoundary "hotdog dog".toList 7 ∧ AtWordBoundary "hotdog dog".toList 10 := by
  obtain ⟨hcomment, -, -, hspans⟩ :=
    wholeWord_keeps_pattern { query := "cat|dog", mode := .regex } rfl
  refine ⟨rfl, ?_, ?_⟩
  · by_contra hinvalid
    obtain ⟨-, -, hswallow⟩ :=
      (hcomment (by decide +kernel)).mp (Bool.eq_false_iff.mpr hinvalid)
    exact absurd hswallow (by decide +kernel)
  · refine hspans (fun hclose => ?_) "hotdog dog".toList ⟨7, 10⟩ (by decide +kernel)
    exact absurd hclose.parse_eq_none (by decide +kernel)

/-- A parenthesis of the query that closes the group of the wrapped text makes a pattern of what is
none, with a match that ends inside a word. A comment of the query that swallows the end of the
wrapped text makes none of a pattern. -/
theorem wholeWord_changes_pattern :
    (plain { query := "a)|(b", mode := .regex }).isValid = false ∧
    (whole { query := "a)|(b", mode := .regex }).isValid = true ∧
    (whole { query := "a)|(b", mode := .regex }).normalizedSpans "ax".toList = [⟨0, 1⟩] ∧
    ¬AtWordBoundary "ax".toList 1 ∧
    (plain { query := "(?x)a #c", mode := .regex }).isValid = true ∧
    (whole { query := "(?x)a #c", mode := .regex }).isValid = false := by
  refine ⟨by decide +kernel, by decide +kernel, by decide +kernel, ?_, by decide +kernel,
    by decide +kernel⟩
  rintro ⟨front, back, happend, hlength, hholds⟩
  have hcut : splitAt? "ax".toList 1 = some (front, back) := by
    rw [happend, ← hlength]
    exact splitAt?_append front back
  have hax : splitAt? "ax".toList 1 = some (['a'], ['x']) := by decide
  cases hax.symm.trans hcut
  exact absurd hholds (by decide)

end CellSearch.Prepared
