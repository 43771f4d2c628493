import Mathlib
import CellSearch.Proofs.Query.Spelling
import CellSearch.Proofs.Query.WholeWord
import CellSearch.Proofs.Regex.Found

/-!
# Wildcard queries

A wildcard query generates texts: `*` any run of characters without line feed, `?` any one
character but the line feed, and every other character itself, up to case if case does not count
(`Wildcard.Generates`). A cell matches if and only if the query generates a part of its normalized
text that is not empty (`Prepared.wildcard_matches_iff`).

The proof goes through the pattern that is searched. The text of the pattern is read, character by
character of the query, as what the character stands for (`Wildcard.reads_toPattern`), so that it
is always a pattern and can be wrapped (`Wildcard.parse_wrap_toPattern`); the pattern matches what
the query generates (`Wildcard.matches_toRegex_iff`); and since its repetitions are greedy, the
search finds something where it matches anything (`Wildcard.eager_toRegex`).
-/

namespace CellSearch

open CellSearch.Text CellSearch.Regex

namespace Wildcard

variable {caseless : Bool} {query taken back : List Char} {a c : Char} {before : Option Char}

/-! ## What a query generates -/

/-- Two characters are the same, up to simple case folding if case does not count. -/
def SameChar (caseless : Bool) (a c : Char) : Prop :=
  if caseless then Unicode.simpleFold a = Unicode.simpleFold c else a = c

/-- A character of a query stands for a piece of text. -/
inductive Stands (caseless : Bool) : Char → List Char → Prop
  | run {taken : List Char} (h : ∀ c ∈ taken, c ≠ '\n') : Stands caseless '*' taken
  | one {c : Char} (h : c ≠ '\n') : Stands caseless '?' [c]
  | self {a c : Char} (hstar : a ≠ '*') (hmark : a ≠ '?') (h : SameChar caseless a c) :
      Stands caseless a [c]

/-- A query generates a text: its characters stand for the parts of the text, one behind the
other. -/
inductive Generates (caseless : Bool) : List Char → List Char → Prop
  | nil : Generates caseless [] []
  | cons {a : Char} {query first second : List Char} (h : Stands caseless a first)
      (hrest : Generates caseless query second) :
      Generates caseless (a :: query) (first ++ second)

theorem generates_cons_iff : Generates caseless (a :: query) taken ↔
    ∃ first second, taken = first ++ second ∧ Stands caseless a first ∧
      Generates caseless query second := by
  constructor
  · intro h
    cases h with
    | cons h hrest => exact ⟨_, _, rfl, h, hrest⟩
  · rintro ⟨first, second, rfl, h, hrest⟩
    exact .cons h hrest

/-! ## The pattern of a query -/

/-- The set of a character that stands for itself. -/
def setOfChar (caseless : Bool) (c : Char) : CharSet :=
  if caseless then .caseless c else .char c

/-- What a character of a query is read as. -/
def regexOfChar (caseless : Bool) (c : Char) : Regex :=
  if c = '*' then .star (.set .notLineFeed) true
  else if c = '?' then .set .notLineFeed
  else .set (setOfChar caseless c)

/-- What a query is read as. -/
def toRegex (caseless : Bool) (query : List Char) : Regex :=
  .concat (query.map (regexOfChar caseless))

/-! ## Reading the pattern -/

/-- The reader after more patterns. -/
def pushAll (s : Reader) (rs : List Regex) : Reader :=
  { s with parts := s.parts ++ rs.map .pattern }

theorem pushAll_cons (s : Reader) (r : Regex) (rs : List Regex) :
    pushAll (s.push r) rs = pushAll s (r :: rs) := by
  simp [pushAll, Reader.push]

/-- A character that has a meaning in patterns stands for itself behind a backslash. -/
theorem readEscape_of_isMeta (flags : Flags) (hmeta : isMeta c = true) (rest : List Char) :
    readEscape flags (c :: rest) = some (.literal c false, rest) := by
  simp only [isMeta, List.contains_iff_mem, List.mem_cons, List.not_mem_nil, or_false] at hmeta
  rcases hmeta with rfl | rfl | rfl | rfl | rfl | rfl | rfl | rfl | rfl | rfl | rfl | rfl | rfl |
    rfl | rfl | rfl | rfl | rfl
  all_goals rfl

/-- A character without a meaning in patterns is read as itself. -/
theorem step_of_not_isMeta (s : Reader) (hmeta : isMeta c = false) (rest : List Char) :
    s.step c rest = (Reader.literal s.flags c false).map fun r => (s.push r, rest) := by
  have hplain : ∀ d, isMeta d = true → c ≠ d := by
    rintro d hd rfl
    rw [hmeta] at hd
    cases hd
  have hprimitive : Reader.readPrimitive s.flags (c :: rest) =
      (Reader.literal s.flags c false).map fun r => (r, rest) := by
    have hescape := hplain '\\' rfl
    have hdot := hplain '.' rfl
    have hcircumflex := hplain '^' rfl
    have hdollar := hplain '$' rfl
    simp only [Reader.readPrimitive]
  have hopen := hplain '(' rfl
  have hclose := hplain ')' rfl
  have hbar := hplain '|' rfl
  have hbracket := hplain '[' rfl
  have hmark := hplain '?' rfl
  have hstar := hplain '*' rfl
  have hplus := hplain '+' rfl
  have hbrace := hplain '\x7b' rfl
  simp only [Reader.step, hprimitive, Option.map_map, Function.comp_def]

/-- The pattern of no character begins with a question mark, which would change the repetition
before it. -/
theorem head?_toPattern_append (hback : back.head? ≠ some '?') :
    (toPattern query ++ back).head? ≠ some '?' := by
  cases query with
  | nil => exact hback
  | cons c query =>
    have hhead : ∃ d rest, patternOfChar c = d :: rest ∧ d ≠ '?' := by
      unfold patternOfChar
      split
      · exact ⟨'.', ['*'], rfl, by decide⟩
      · split
        · exact ⟨'.', [], rfl, by decide⟩
        · rename_i hmark
          split
          · exact ⟨'\\', [c], rfl, by decide⟩
          · exact ⟨c, [], rfl, hmark⟩
    rcases hhead with ⟨d, rest, hd, hne⟩
    simp [toPattern, hd, hne]

/-- Where white space counts, the next part begins with the next character. -/
theorem next_of_flags {s : Reader} (hflags : s.flags = { caseless }) (c : Char) (rest : List Char) :
    s.next (c :: rest) = s.step c rest := by
  have hskip : s.flags.skip (c :: rest) = c :: rest := by
    rw [hflags]
    rfl
  simp only [Reader.next, hskip]

/-- An asterisk with no question mark behind it repeats the last part greedily. -/
theorem step_star {s : Reader} (hflags : s.flags = { caseless }) (r : Regex)
    (hback : back.head? ≠ some '?') :
    (s.push r).step '*' back = some (s.push (.star r true), back) := by
  have hgreed : (s.push r).readGreed back = (true, back) := by
    unfold Reader.readGreed
    split
    · exact absurd rfl hback
    · rw [Reader.push, hflags]
      rfl
  have hrepeat : ∀ f, (s.push r).repeatLast f = some (s.push (f r)) := by
    intro f
    simp [Reader.repeatLast, Reader.push]
  have hstep : (s.push r).step '*' back =
      (s.push r).readRepeat (fun greedy r => .star r greedy) back := rfl
  rw [hstep, Reader.readRepeat, hgreed]
  simp only [hrepeat, Option.map_some]

/-- The pattern of a character is read as what the character stands for. -/
theorem reads_patternOfChar {s : Reader} (hflags : s.flags = { caseless }) (c : Char)
    (hback : back.head? ≠ some '?') :
    Reader.Reads s (patternOfChar c ++ back) (s.push (regexOfChar caseless c)) back := by
  have hliteral : Reader.literal s.flags c false = some (.set (setOfChar caseless c)) := by
    rw [hflags]
    rfl
  have hdot : ∀ cs, s.next ('.' :: cs) = some (s.push (.set .notLineFeed), cs) := by
    intro cs
    have hset : Reader.dot s.flags = some (.set .notLineFeed) := by
      rw [hflags]
      rfl
    have hstep : s.step '.' cs =
        ((Reader.dot s.flags).map fun r => (r, cs)).map (Prod.map s.push id) := rfl
    rw [next_of_flags hflags, hstep, hset]
    rfl
  unfold patternOfChar regexOfChar
  split
  · -- the dot is repeated by the asterisk behind it
    have hstar := step_star hflags (.set .notLineFeed) hback
    rw [← next_of_flags (s := s.push (.set .notLineFeed)) hflags] at hstar
    exact .step (hdot _) (.step hstar (.refl _ _))
  · split
    · exact .step (hdot _) (.refl _ _)
    · split
      · rename_i hmeta
        have hescape : s.next ('\\' :: c :: back) =
            some (s.push (.set (setOfChar caseless c)), back) := by
          rw [next_of_flags hflags, Reader.step_escape, readEscape_of_isMeta _ hmeta]
          simp only [Reader.pushEscape, hliteral, Option.map_some]
        exact .step hescape (.refl _ _)
      · rename_i hmeta
        have hself : s.next (c :: back) = some (s.push (.set (setOfChar caseless c)), back) := by
          rw [next_of_flags hflags, step_of_not_isMeta s (Bool.eq_false_iff.mpr hmeta), hliteral,
            Option.map_some]
        exact .step hself (.refl _ _)

theorem reads_toPattern {s : Reader} (hflags : s.flags = { caseless }) (query : List Char)
    (hback : back.head? ≠ some '?') : Reader.Reads s (toPattern query ++ back)
      (pushAll s (query.map (regexOfChar caseless))) back := by
  induction query generalizing s with
  | nil =>
    have hs : pushAll s [] = s := by simp [pushAll]
    rw [List.map_nil, hs]
    exact .refl s back
  | cons c query ih =>
    have hpattern : toPattern (c :: query) ++ back =
        patternOfChar c ++ (toPattern query ++ back) := by
      simp [toPattern]
    rw [hpattern, List.map_cons, ← pushAll_cons]
    exact (reads_patternOfChar hflags c (head?_toPattern_append hback)).trans (ih hflags)

theorem value_pushAll_start (flags : Flags) (rs : List Regex) :
    (pushAll (Reader.start flags) rs).value = .concat rs := by
  simp [Reader.value, pushAll, Reader.start, Regex.oneOf, Part.concat, List.filterMap_map]

/-- A query is always a pattern. -/
theorem parse_toPattern (caseless : Bool) (query : List Char) :
    parse caseless (toPattern query) = some (toRegex caseless query) := by
  have hreads := @reads_toPattern caseless [] (Reader.start { caseless }) rfl query (by simp)
  rw [List.append_nil] at hreads
  exact parse_eq_some_iff.mpr ⟨_, [], hreads, rfl, rfl, value_pushAll_start _ _⟩

/-- A parenthesis behind a query is not part of it, so that the query can be wrapped. -/
theorem parse_wrap_toPattern (caseless : Bool) (query : List Char) :
    parse caseless (wrap (toPattern query)) = some (wholeWord (toRegex caseless query)) := by
  apply parse_wrap (parse_toPattern caseless query)
  rintro ⟨-, hparen⟩
  -- the query opens no group, so that a parenthesis behind it has none to close
  have hreaches : Reader.Reaches (Reader.start { caseless }) (toPattern query)
      (pushAll (Reader.start { caseless }) (query.map (regexOfChar caseless))) [] := by
    intro back
    exact ⟨reads_toPattern rfl query (by simp), rfl⟩
  have hrefused : (Reader.start { caseless }).read (toPattern query ++ [')']) = none :=
    hreaches.read_eq_none rfl
  rw [Reader.parse_eq, hrefused] at hparen
  cases hparen

/-! ## What the pattern matches -/

theorem contains_char_iff : (CharSet.char a).contains c = true ↔ a = c := by
  simp only [CharSet.char, CharSet.contains, Bool.and_eq_true, decide_eq_true_eq]
  exact ⟨fun h => Char.le_antisymm h.1 h.2, fun h => ⟨h.le, h.ge⟩⟩

theorem contains_notLineFeed_iff : CharSet.notLineFeed.contains c = true ↔ c ≠ '\n' := by
  rw [CharSet.notLineFeed, CharSet.contains, Bool.not_eq_true', Bool.eq_false_iff, Ne,
    contains_char_iff, eq_comm]

theorem contains_setOfChar_iff :
    (setOfChar caseless a).contains c = true ↔ SameChar caseless a c := by
  cases caseless with
  | true => exact beq_iff_eq
  | false => exact contains_char_iff

theorem matches_regexOfChar_iff :
    Matches (regexOfChar caseless a) before taken back ↔ Stands caseless a taken := by
  unfold regexOfChar
  split
  · rename_i hstar
    subst hstar
    simp only [matches_star_set_iff, contains_notLineFeed_iff]
    constructor
    · exact .run
    · intro h
      cases h with
      | run h => exact h
      | self hstar _ _ => exact absurd rfl hstar
  · rename_i hstar
    split
    · rename_i hmark
      subst hmark
      simp only [matches_set_iff, contains_notLineFeed_iff]
      constructor
      · rintro ⟨c, rfl, hc⟩
        exact .one hc
      · intro h
        cases h with
        | one h => exact ⟨_, rfl, h⟩
        | self _ hmark _ => exact absurd rfl hmark
    · rename_i hmark
      simp only [matches_set_iff, contains_setOfChar_iff]
      constructor
      · rintro ⟨c, rfl, hc⟩
        exact .self hstar hmark hc
      · intro h
        cases h with
        | run _ => exact absurd rfl hstar
        | one _ => exact absurd rfl hmark
        | self _ _ h => exact ⟨_, rfl, h⟩

/-- The pattern of a query matches what the query generates. -/
theorem matches_toRegex_iff :
    Matches (toRegex caseless query) before taken back ↔ Generates caseless query taken := by
  rw [toRegex, matches_concat_iff]
  induction query generalizing before taken with
  | nil =>
    rw [List.map_nil, tailMatches_nil_iff]
    constructor
    · rintro rfl
      exact .nil
    · intro h
      cases h
      rfl
  | cons a query ih =>
    simp only [List.map_cons, tailMatches_cons_iff, matches_regexOfChar_iff, ih,
      generates_cons_iff]

theorem eager_toRegex (caseless : Bool) (query : List Char) : Eager (toRegex caseless query) := by
  apply eager_concat
  intro r hr
  rcases List.mem_map.mp hr with ⟨c, -, rfl⟩
  unfold regexOfChar
  split
  · exact eager_star _
  · split
    · exact eager_set _
    · exact eager_set _

/-- A query is found in a text if and only if it generates a part of it that is not empty. -/
theorem findAll_toRegex_ne_nil_iff {text : List Char} : (toRegex caseless query).findAll text ≠ [] ↔
    ∃ part, part ≠ [] ∧ part <:+: text ∧ Generates caseless query part := by
  rw [findAll_ne_nil_iff (eager_toRegex caseless query)]
  simp only [matches_toRegex_iff]
  constructor
  · rintro ⟨front, part, back, htext, hpart, hgenerates⟩
    exact ⟨part, hpart, ⟨front, back, htext.symm⟩, hgenerates⟩
  · rintro ⟨part, hpart, ⟨front, back, htext⟩, hgenerates⟩
    exact ⟨front, part, back, htext.symm, hpart, hgenerates⟩

end Wildcard

namespace Prepared

variable {d : Descriptor}

/-! ## Cells -/

/-- A wildcard query that is not blank is matched by its pattern, wrapped or not. -/
theorem matcher_wildcard (hmode : d.mode = .wildcard)
    (hquery : Unicode.trim (ofDescriptor d).normalizedQuery ≠ []) :
    (ofDescriptor d).matcher = matcherOfText (!d.isCaseSensitive)
      (if d.wholeWord then wrap (Wildcard.toPattern (ofDescriptor d).normalizedQuery)
        else Wildcard.toPattern (ofDescriptor d).normalizedQuery) := by
  have hmatcher : ∀ query, Unicode.trim query ≠ [] → Matcher.ofQuery d query =
      matcherOfText (!d.isCaseSensitive)
        (if d.wholeWord then wrap (Wildcard.toPattern query) else Wildcard.toPattern query) := by
    intro query hquery
    have hblank : (Unicode.trim query).isEmpty = false := by
      simpa [List.isEmpty_iff] using hquery
    rw [Matcher.ofQuery, Matcher.patternText, hblank, hmode, if_pos rfl]
    rfl
  exact hmatcher _ hquery

/-- A wildcard query that is not blank can always be matched, for whole words, too. It matches a
cell if and only if it generates a part of the normalized text of the cell that is not empty. -/
theorem wildcard_matches_iff (d : Descriptor) (hmode : d.mode = .wildcard)
    (hquery : Unicode.trim (ofDescriptor d).normalizedQuery ≠ []) :
    (ofDescriptor d).hasQuery = true ∧ (ofDescriptor d).isValid = true ∧
    (d.wholeWord = false → ∀ text, (ofDescriptor d).matchText text ≠ [] ↔
      ∃ part, part ≠ [] ∧ part <:+: (normalize d.normalizeOptions text).text ∧
        Wildcard.Generates (!d.isCaseSensitive) (ofDescriptor d).normalizedQuery part) := by
  have hmatcher := matcher_wildcard hmode hquery
  have hhas : (ofDescriptor d).hasQuery = true := hasQuery_matcherOfText hmatcher
  refine ⟨hhas, ?_, ?_⟩
  · rw [isValid_matcherOfText hmatcher]
    split
    · rw [Wildcard.parse_wrap_toPattern]
      rfl
    · rw [Wildcard.parse_toPattern]
      rfl
  · intro hwhole text
    have hspans : (ofDescriptor d).normalizedSpans (normalize d.normalizeOptions text).text =
        (Wildcard.toRegex (!d.isCaseSensitive) (ofDescriptor d).normalizedQuery).findAll
          (normalize d.normalizeOptions text).text := by
      rw [normalizedSpans, hmatcher, if_neg (by simp [hwhole]), matcherOfText,
        Wildcard.parse_toPattern]
    have hdescriptor : (ofDescriptor d).descriptor.normalizeOptions = d.normalizeOptions := rfl
    rw [matchText_ne_nil_iff, if_pos hhas, hdescriptor, hspans,
      Wildcard.findAll_toRegex_ne_nil_iff, and_iff_right_iff_imp]
    -- an empty cell has no part that is not empty
    rintro ⟨part, hpart, hinfix, -⟩ rfl
    have hempty : (normalize d.normalizeOptions []).text = [] := by
      rw [text_normalize]
      rfl
    rw [hempty, List.infix_nil] at hinfix
    exact hpart hinfix

/-- A letter in the other case, any character, a run of one, and a parenthesis. -/
theorem wildcard_matches_call :
    let d : Descriptor := { query := "F?*)", mode := .wildcard }
    d.mode = .wildcard ∧ Unicode.trim (ofDescriptor d).normalizedQuery ≠ [] ∧
    d.wholeWord = false ∧ (ofDescriptor d).isValid = true ∧
    (ofDescriptor d).matchText "is f(x) odd?".toList ≠ [] := by
  intro d
  have hquery : (ofDescriptor d).normalizedQuery = ['F', '?', '*', ')'] := by decide +kernel
  have hblank : Unicode.trim (ofDescriptor d).normalizedQuery ≠ [] := by
    rw [hquery]
    decide +kernel
  have htext : (normalize d.normalizeOptions "is f(x) odd?".toList).text =
      "is f(x) odd?".toList := by decide +kernel
  have hletter : Wildcard.SameChar true 'F' 'f' := by
    rw [Wildcard.SameChar, if_pos rfl]
    decide +kernel
  have hparen : Wildcard.SameChar true ')' ')' := by
    rw [Wildcard.SameChar, if_pos rfl]
  have hgenerates : Wildcard.Generates true ['F', '?', '*', ')']
      (['f'] ++ (['('] ++ (['x'] ++ ([')'] ++ [])))) :=
    .cons (.self (by decide) (by decide) hletter) <|
      .cons (.one (by decide)) <|
      .cons (.run (by simp)) <|
      .cons (.self (by decide) (by decide) hparen) .nil
  have hmode : d.mode = .wildcard := rfl
  have hwhole : d.wholeWord = false := rfl
  have hmatches := wildcard_matches_iff d hmode hblank
  have hmatch : (ofDescriptor d).matchText "is f(x) odd?".toList ≠ [] := by
    rw [hmatches.2.2 hwhole, htext, hquery]
    refine ⟨['f', '(', 'x', ')'], List.cons_ne_nil _ _, ?_, hgenerates⟩
    exact ⟨['i', 's', ' '], [' ', 'o', 'd', 'd', '?'], by decide +kernel⟩
  exact ⟨hmode, hblank, hwhole, hmatches.2.1, hmatch⟩

end Prepared

end CellSearch
