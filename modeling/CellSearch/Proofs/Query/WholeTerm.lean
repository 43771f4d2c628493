import Mathlib
import CellSearch.Proofs.Query.Terms

/-!
# Terms that stand alone

A search for whole words keeps those of the occurrences found that stand alone
(`Prepared.mem_termSpans_wholeWord_iff`). It goes on behind an occurrence also if it does not keep
it, and so misses one that stands alone but begins inside one that does not. The terms that can be
missed are those that begin again inside themselves, behind a character that belongs to no word
(`Prepared.finds_alone_iff`): a word is never missed, a date can be
(`Prepared.wholeWord_misses_date`).
-/

namespace CellSearch.Unicode

variable {query : List Char}

/-- What is trimmed to nothing is blank. -/
theorem isWhiteSpace_of_trim (h : trim query = []) : ∀ c ∈ query, isWhiteSpace c = true := by
  simp only [trim, List.reverse_eq_nil_iff, List.dropWhile_eq_nil_iff, List.mem_reverse] at h
  cases hcut : query.dropWhile isWhiteSpace with
  | nil => exact List.dropWhile_eq_nil_iff.mp hcut
  | cons c rest =>
    -- the first character that is kept is no blank
    have hkept := List.head?_dropWhile_not isWhiteSpace query
    rw [hcut] at hkept
    have hblank := h c (by rw [hcut]; exact List.mem_cons_self)
    simp [hblank] at hkept

theorem fields_of_isWhiteSpace (h : ∀ c ∈ query, isWhiteSpace c = true) :
    ∀ w ∈ fields query, w = [] := by
  induction query with
  | nil => simp [fields]
  | cons c rest ih =>
    have hrest := ih fun c hc => h c (List.mem_cons_of_mem _ hc)
    rw [fields, if_pos (h c List.mem_cons_self)]
    simpa using hrest

/-- A text with a word in it is not blank. -/
theorem trim_ne_nil {word : List Char} (h : word ∈ splitWhiteSpace query) : trim query ≠ [] := by
  intro htrim
  obtain ⟨hfield, hne⟩ := List.mem_filter.mp h
  rw [fields_of_isWhiteSpace (isWhiteSpace_of_trim htrim) word hfield] at hne
  cases hne

end CellSearch.Unicode

namespace CellSearch.Prepared

open CellSearch.Text CellSearch.Unicode

variable {d : Descriptor} {o : NormalizeOptions} {found : List Interval}
variable {text term rest front back : List Char} {span : Interval}
variable {before : Option Char} {offset skip : Nat} {wholeWord : Bool}

/-- The span holds a term where it occurs without a word character next to it. -/
def OccursAlone (text term : List Char) (span : Interval) : Prop :=
  ∃ front back, text = front ++ term ++ back ∧
    span = .ofLength (byteLength front) (byteLength term) ∧
    standsAlone front.getLast? back.head? = true

/-- The term begins again inside itself, behind a character that belongs to no word. -/
def Reenters (term : List Char) : Prop :=
  ∃ first overlap last, term = first ++ overlap ∧ term = overlap ++ last ∧ overlap ≠ [] ∧
    first ≠ [] ∧ first.getLast?.any isWordChar = false

/-- Such a term is no word by itself. -/
theorem Reenters.exists_not_isWordChar (h : Reenters term) : ∃ c ∈ term, isWordChar c = false := by
  obtain ⟨first, overlap, last, hterm, -, -, hfirst, hend⟩ := h
  rw [List.getLast?_eq_some_getLast hfirst, Option.any_some] at hend
  refine ⟨first.getLast hfirst, ?_, hend⟩
  rw [hterm]
  exact List.mem_append_left _ (List.getLast_mem hfirst)

theorem OccursAlone.occurs (h : OccursAlone text term span) : Occurs text term span := by
  obtain ⟨front, back, htext, hspan, -⟩ := h
  exact ⟨front, back, htext, hspan⟩

/-- The place of an occurrence says what is next to it. -/
theorem occursAlone_iff (htext : text = front ++ term ++ back) :
    OccursAlone text term (.ofLength (byteLength front) (byteLength term)) ↔
      standsAlone front.getLast? back.head? = true := by
  constructor
  · rintro ⟨front', back', htext', hspan, halone⟩
    have hlength : byteLength front = byteLength front' := congrArg Interval.start hspan
    have hcut : front ++ (term ++ back) = front' ++ (term ++ back') := by
      rw [← List.append_assoc, ← List.append_assoc, ← htext, ← htext']
    obtain ⟨mid, hfront, hback⟩ := exists_append_of_byteLength_le hcut hlength.le
    have hmid : mid = [] := by
      rw [hfront, byteLength_append] at hlength
      exact byteLength_eq_zero.mp (by omega)
    subst hmid
    obtain rfl : front' = front := by simpa using hfront
    obtain rfl : back = back' := List.append_cancel_left hback
    exact halone
  · intro halone
    exact ⟨front, back, htext, rfl, halone⟩

/-! ## What is kept -/

theorem mem_spanIfWhole_iff {after : Option Char} :
    span ∈ spanIfWhole true term before after offset ↔
      span ∈ spanIfWhole false term before after offset ∧ standsAlone before after = true := by
  rw [spanIfWhole_false, List.mem_singleton, spanIfWhole]
  cases standsAlone before after <;> simp

/-- The search for whole words finds those of the occurrences that stand alone. -/
theorem mem_occurrences_wholeWord_iff (done : List Char) :
    span ∈ occurrences true term done.getLast? rest (byteLength done) skip ↔
      span ∈ occurrences false term done.getLast? rest (byteLength done) skip ∧
        OccursAlone (done ++ rest) term span := by
  induction rest generalizing done skip with
  | nil => simp [occurrences]
  | cons c rest ih =>
    have hnext : ∀ {skip},
        (span ∈ occurrences true term (some c) rest (byteLength done + c.utf8Size) skip ↔
          span ∈ occurrences false term (some c) rest (byteLength done + c.utf8Size) skip ∧
            OccursAlone (done ++ c :: rest) term span) := by
      intro skip
      have hdone := @ih skip (done ++ [c])
      simpa using hdone
    cases skip with
    | succ skip => exact hnext
    | zero =>
      simp only [occurrences]
      split
      · rename_i hprefix
        obtain ⟨back, happend⟩ := List.isPrefixOf_iff_prefix.mp hprefix
        have hhere : span ∈ spanIfWhole false term done.getLast? back.head? (byteLength done) →
            (standsAlone done.getLast? back.head? = true ↔
              OccursAlone (done ++ c :: rest) term span) := by
          rw [spanIfWhole_false, List.mem_singleton]
          rintro rfl
          exact (occursAlone_iff (by rw [← happend, List.append_assoc])).symm
        rw [← happend, List.drop_left, happend, List.mem_append, List.mem_append, hnext,
          mem_spanIfWhole_iff]
        tauto
      · exact hnext

/-- Whole words are those of the spans of a term that stand alone. -/
theorem mem_termSpans_wholeWord_iff :
    span ∈ termSpans .contains true text term ↔
      span ∈ termSpans .contains false text term ∧ OccursAlone text term span := by
  unfold termSpans
  split
  · simp
  · exact mem_occurrences_wholeWord_iff []

theorem termSpans_wholeWord_ne_nil_iff :
    termSpans .contains true text term ≠ [] ↔
      ∃ span ∈ termSpans .contains false text term, OccursAlone text term span := by
  constructor
  · intro hne
    obtain ⟨span, hspan⟩ := List.exists_mem_of_ne_nil _ hne
    exact ⟨span, mem_termSpans_wholeWord_iff.mp hspan⟩
  · rintro ⟨span, hspan⟩
    exact List.ne_nil_of_mem (mem_termSpans_wholeWord_iff.mpr hspan)

/-! ## What is missed -/

/-- An occurrence that the search passes over begins inside one that it finds. -/
theorem exists_earlier (hterm : term ≠ []) (hoccurs : Occurs text term span)
    (hmissed : span ∉ termSpans .contains false text term) :
    ∃ earlier ∈ termSpans .contains false text term,
      earlier.start < span.start ∧ span.start < earlier.stop := by
  obtain ⟨front, back, htext, rfl⟩ := hoccurs
  obtain ⟨earlier, hearlier, hstart, hstop⟩ := exists_occurrence hterm htext
  refine ⟨earlier, hearlier, lt_of_le_of_ne hstart ?_, hstop⟩
  intro hsame
  obtain ⟨front', back', -, rfl⟩ := termSpans_occurs hearlier
  have hplace : byteLength front' = byteLength front := hsame
  rw [hplace] at hearlier
  exact hmissed hearlier

/-- A term that occurs alone inside another occurrence of itself begins again inside itself. -/
theorem reenters_of_inside {earlier : Interval} (hearlier : Occurs text term earlier)
    (halone : OccursAlone text term span) (hstart : earlier.start < span.start)
    (hstop : span.start < earlier.stop) : Reenters term := by
  obtain ⟨front', back', htext', rfl⟩ := hearlier
  obtain ⟨front, back, htext, rfl, hstands⟩ := halone
  simp only [Interval.ofLength] at hstart hstop
  have hcut : front' ++ (term ++ back') = front ++ (term ++ back) := by
    rw [← List.append_assoc, ← List.append_assoc, ← htext, ← htext']
  obtain ⟨first, rfl, hrest⟩ := exists_append_of_byteLength_le hcut hstart.le
  rw [byteLength_append] at hstart hstop
  -- the earlier occurrence is the part before the later one and an overlap with it
  obtain ⟨overlap, hterm, hback⟩ := exists_append_of_byteLength_le hrest.symm (by omega)
  have hlength : byteLength overlap ≤ byteLength term := by
    rw [hterm, byteLength_append]
    omega
  obtain ⟨last, hterm', -⟩ := exists_append_of_byteLength_le hback.symm hlength
  have hfirst : first ≠ [] := by
    rintro rfl
    simp at hstart
  have hoverlap : overlap ≠ [] := by
    rintro rfl
    rw [List.append_nil] at hterm
    rw [hterm] at hstop
    omega
  refine ⟨first, overlap, last, hterm, hterm', hoverlap, hfirst, ?_⟩
  rw [List.getLast?_append_of_ne_nil _ hfirst, standsAlone, Bool.and_eq_true] at hstands
  simpa using hstands.1

/-- A text shorter than the term holds none. -/
theorem occurrences_of_short (hshort : rest.length < term.length) :
    occurrences wholeWord term before rest offset skip = [] := by
  induction rest generalizing before offset skip with
  | nil => rfl
  | cons c rest ih =>
    have hrest : rest.length < term.length := by
      rw [List.length_cons] at hshort
      omega
    cases skip with
    | succ skip => exact ih hrest
    | zero =>
      have hprefix : ¬term.isPrefixOf (c :: rest) = true := fun h =>
        absurd (List.isPrefixOf_iff_prefix.mp h).length_le (by omega)
      rw [occurrences, if_neg hprefix]
      exact ih hrest

/-- The characters to be skipped are behind the search. -/
theorem occurrences_skip (wholeWord : Bool) (term front : List Char) : ∃ before',
    occurrences wholeWord term before (front ++ rest) offset front.length =
      occurrences wholeWord term before' rest (offset + byteLength front) 0 := by
  induction front generalizing before offset with
  | nil => exact ⟨before, rfl⟩
  | cons c front ih =>
    obtain ⟨before', hskip⟩ := @ih (some c) (offset + c.utf8Size)
    refine ⟨before', ?_⟩
    rw [byteLength_cons, ← Nat.add_assoc, ← hskip]
    rfl

/-- A term that occurs one character behind its own beginning repeats that character. -/
theorem eq_of_mem_of_prefix_cons {x : Char} (h : term <+: x :: (term ++ back)) :
    ∀ c ∈ term, c = x := by
  induction term generalizing x with
  | nil => simp
  | cons t term ih =>
    obtain ⟨rfl, hrest⟩ := List.cons_prefix_cons.mp h
    have hall := ih hrest
    simpa using hall

/-- Behind a letter a term is found and not kept, and what follows it is too short for another. -/
theorem termSpans_behind_letter (hother : ∃ c ∈ term, isWordChar c = false)
    (hshort : back.length < term.length) :
    termSpans .contains true ('x' :: (term ++ back)) term = [] := by
  obtain ⟨c', hc', hother⟩ := hother
  obtain ⟨c, rest, hcons⟩ := List.exists_cons_of_ne_nil (List.ne_nil_of_mem hc')
  have hempty : ¬term.isEmpty = true := by simp [hcons]
  -- not at the letter itself, since the whole term would have to consist of it
  have hnot : ¬term.isPrefixOf ('x' :: (term ++ back)) = true := by
    intro hprefix
    have hx := eq_of_mem_of_prefix_cons (List.isPrefixOf_iff_prefix.mp hprefix) c' hc'
    rw [hx] at hother
    exact absurd hother (by decide)
  have hprefix : term.isPrefixOf (c :: (rest ++ back)) = true :=
    List.isPrefixOf_iff_prefix.mpr ⟨back, by rw [hcons]; rfl⟩
  have hdropped : ∀ after, spanIfWhole true term (some 'x') after (0 + 'x'.utf8Size) = [] :=
    fun _ => rfl
  have hlength : term.length - 1 = rest.length := by simp [hcons]
  simp only [termSpans, if_neg hempty]
  rw [occurrences, if_neg hnot, hcons, List.cons_append, ← hcons, occurrences, if_pos hprefix,
    hdropped, List.nil_append, hlength]
  obtain ⟨before', hskip⟩ := occurrences_skip true term rest
  rw [hskip]
  exact occurrences_of_short hshort

/-- Behind a letter, a term that begins again inside itself is passed over together with the
occurrence inside it. -/
theorem exists_missed (h : Reenters term) :
    ∃ text, termSpans .contains true text term = [] ∧ ∃ span, OccursAlone text term span := by
  have hother := h.exists_not_isWordChar
  obtain ⟨first, overlap, last, hterm, hterm', hoverlap, hfirst, hend⟩ := h
  have hsame : first ++ term = term ++ last := by
    conv_lhs => rw [hterm']
    conv_rhs => rw [hterm]
    exact (List.append_assoc _ _ _).symm
  have hshort : last.length < term.length := by
    rw [hterm', List.length_append]
    exact Nat.lt_add_of_pos_left (List.length_pos_iff.mpr hoverlap)
  have halone : OccursAlone ('x' :: (first ++ term)) term
      (.ofLength (byteLength ('x' :: first)) (byteLength term)) := by
    refine ⟨'x' :: first, [], by simp, rfl, ?_⟩
    rw [List.getLast?_cons_of_ne_nil hfirst]
    simp [standsAlone, hend]
  refine ⟨'x' :: (first ++ term), ?_, _, halone⟩
  rw [hsame]
  exact termSpans_behind_letter hother hshort

/-- The terms that are found wherever they stand alone. -/
theorem finds_alone_iff (hterm : term ≠ []) :
    (∀ text, termSpans .contains true text term ≠ [] ↔ ∃ span, OccursAlone text term span) ↔
      ¬Reenters term := by
  constructor
  · intro hfinds hreenters
    obtain ⟨text, hmissed, halone⟩ := exists_missed hreenters
    exact (hfinds text).mpr halone hmissed
  · intro hreenters text
    rw [termSpans_wholeWord_ne_nil_iff]
    constructor
    · rintro ⟨span, -, halone⟩
      exact ⟨span, halone⟩
    · rintro ⟨span, halone⟩
      refine ⟨span, ?_, halone⟩
      by_contra hmissed
      obtain ⟨earlier, hearlier, hstart, hstop⟩ := exists_earlier hterm halone.occurs hmissed
      exact hreenters (reenters_of_inside (termSpans_occurs hearlier) halone hstart hstop)

/-- A word does not begin again behind a character that belongs to no word. -/
theorem not_reenters_of_isWordChar (h : ∀ c ∈ term, isWordChar c = true) : ¬Reenters term := by
  intro hreenters
  obtain ⟨c, hc, hother⟩ := hreenters.exists_not_isWordChar
  rw [h c hc] at hother
  cases hother

/-! ## Cells -/

/-- Something is reported if and only if something was found. -/
theorem sourceSpans_merge_eq_nil_iff
    (h : ∀ span ∈ found, IsSpan (normalize o text).text span) :
    sourceSpans (normalize o text) (Interval.merge found) = [] ↔ found = [] := by
  constructor
  · intro hnone
    rw [List.eq_nil_iff_forall_not_mem]
    intro span hspan
    obtain ⟨r, hr, -⟩ := exists_reported_over h hspan
    rw [hnone] at hr
    cases hr
  · rintro rfl
    rw [Interval.merge_nil, sourceSpans_nil]

theorem combineTerms_singleton (mode : TermMode) (spans : List Interval) :
    combineTerms mode [spans] = spans := by
  unfold combineTerms
  split
  · rename_i hmissing
    simpa using hmissing.2.symm
  · simp

/-- A query of one term matches a cell if and only if the term has a span. -/
theorem matchText_eq_nil_iff (hmode : d.mode.isPattern = false)
    (hterm : splitWhiteSpace (ofDescriptor d).normalizedQuery = [term]) (text : List Char) :
    (ofDescriptor d).matchText text = [] ↔
      termSpans d.mode d.wholeWord (normalize d.normalizeOptions text).text term = [] := by
  have hmem : term ∈ splitWhiteSpace (ofDescriptor d).normalizedQuery := by simp [hterm]
  have hblank : ¬(trim (ofDescriptor d).normalizedQuery).isEmpty = true := by
    rw [List.isEmpty_iff]
    exact trim_ne_nil hmem
  have hmatcher : (ofDescriptor d).matcher = .terms [term] := by
    rw [← hterm]
    have hquery : (ofDescriptor d).matcher = Matcher.ofQuery d (ofDescriptor d).normalizedQuery :=
      rfl
    rw [hquery, Matcher.ofQuery, if_neg hblank, hmode]
    rfl
  rw [matchText_of_hasQuery (hasQuery_of_terms hmatcher),
    sourceSpans_merge_eq_nil_iff (fun _ hfound => normalizedSpans_isSpan hfound),
    normalizedSpans_terms hmatcher, List.map_singleton, combineTerms_singleton]
  rfl

/-- A query of one term for whole words matches a cell if and only if an occurrence stands alone of
those that the search finds. If it matches none although the term occurs alone, then that
occurrence begins inside one that was found and does not stand alone. Terms that do not begin again
inside themselves behind a character of no word are never missed, and they are the only ones. -/
theorem wholeWord_finds_alone (hmode : d.mode = .contains) (hwhole : d.wholeWord = true)
    (hterm : splitWhiteSpace (ofDescriptor d).normalizedQuery = [term]) (text : List Char) :
    let n := (normalize d.normalizeOptions text).text
    let reported := (ofDescriptor d).matchText text
    (reported ≠ [] ↔ ∃ span ∈ termSpans .contains false n term, OccursAlone n term span) ∧
    (reported = [] → ∀ span, OccursAlone n term span →
      ∃ earlier ∈ termSpans .contains false n term, ¬OccursAlone n term earlier ∧
        earlier.start < span.start ∧ span.start < earlier.stop) ∧
    (¬Reenters term → (reported ≠ [] ↔ ∃ span, OccursAlone n term span)) ∧
    (Reenters term → ∃ n', termSpans d.mode d.wholeWord n' term = [] ∧
      ∃ span, OccursAlone n' term span) := by
  intro n reported
  have hne : term ≠ [] := ne_nil_of_mem_splitWhiteSpace (by rw [hterm]; simp)
  have hreported : reported = [] ↔ termSpans .contains true n term = [] := by
    rw [matchText_eq_nil_iff (by rw [hmode]; rfl) hterm, hmode, hwhole]
  have hkept : reported ≠ [] ↔
      ∃ span ∈ termSpans .contains false n term, OccursAlone n term span := by
    rw [Ne, hreported]
    exact termSpans_wholeWord_ne_nil_iff
  refine ⟨hkept, ?_, ?_, ?_⟩
  · intro hnone span halone
    have hrejected : ∀ found ∈ termSpans .contains false n term, ¬OccursAlone n term found :=
      fun found hfound hstands => hkept.mpr ⟨found, hfound, hstands⟩ hnone
    obtain ⟨earlier, hearlier, hinside⟩ :=
      exists_earlier hne halone.occurs fun hfound => hrejected span hfound halone
    exact ⟨earlier, hearlier, hrejected earlier hearlier, hinside⟩
  · intro hreenters
    rw [Ne, hreported]
    exact (finds_alone_iff hne).mpr hreenters n
  · intro hreenters
    rw [hmode, hwhole]
    exact exists_missed hreenters

/-- A word that stands alone only behind a longer word that begins with it. -/
theorem wholeWord_finds_cat :
    let d : Descriptor := { query := "cat", wholeWord := true }
    d.mode = .contains ∧ d.wholeWord = true ∧
    splitWhiteSpace (ofDescriptor d).normalizedQuery = ["cat".toList] ∧
    ¬Reenters "cat".toList ∧
    (ofDescriptor d).matchText "cats, Cat".toList ≠ [] := by
  intro d
  have hterm : splitWhiteSpace (ofDescriptor d).normalizedQuery = ["cat".toList] := by decide
  have hletters : "cat".toList.all isWordChar = true := by decide
  have hword : ¬Reenters "cat".toList :=
    not_reenters_of_isWordChar (List.all_eq_true.mp hletters)
  have hfinds := (wholeWord_finds_alone (d := d) rfl rfl hterm "cats, Cat".toList).2.2.1 hword
  refine ⟨rfl, rfl, hterm, hword, hfinds.mpr ⟨⟨6, 9⟩, "cats, ".toList, [], ?_, ?_, ?_⟩⟩
  · decide
  · decide
  · decide

/-- A date stands alone inside an occurrence that is part of a longer number, and is missed. -/
theorem wholeWord_misses_date :
    let d : Descriptor := { query := "01-01", wholeWord := true }
    let n := (normalize d.normalizeOptions "2001-01-01".toList).text
    splitWhiteSpace (ofDescriptor d).normalizedQuery = ["01-01".toList] ∧
    n = "20".toList ++ "01-01".toList ++ "-01".toList ∧
    OccursAlone n "01-01".toList ⟨5, 10⟩ ∧
    ¬((ofDescriptor d).matchText "2001-01-01".toList ≠ [] ↔
      ∃ span, OccursAlone n "01-01".toList span) := by
  intro d n
  have halone : OccursAlone n "01-01".toList ⟨5, 10⟩ :=
    ⟨"2001-".toList, [], by decide +kernel, by decide, by decide⟩
  have hmissed : (ofDescriptor d).matchText "2001-01-01".toList = [] := by decide +kernel
  refine ⟨by decide +kernel, by decide +kernel, halone, fun hclaim => ?_⟩
  exact hclaim.mpr ⟨_, halone⟩ hmissed

end CellSearch.Prepared
