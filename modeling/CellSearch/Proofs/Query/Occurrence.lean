import Mathlib
import CellSearch.Proofs.Text.Boundary
import CellSearch.Query.Match

/-!
# Where terms occur

Every span of a term is an occurrence of the term (`Prepared.termSpans_occurs`). If whole words are
not asked for, a term has spans if and only if its mode finds it in the text
(`Prepared.termSpans_eq_nil_iff`). A search for all occurrences passes over those that overlap an
earlier one, so that an occurrence is found or begins inside one that is
(`Prepared.exists_occurrence`).
-/

namespace CellSearch.Prepared

open CellSearch.Text

variable {text term rest front back : List Char} {wholeWord : Bool} {span : Interval}
variable {mode : MatchMode} {before : Option Char} {offset skip : Nat}

/-- The span holds a term where it occurs in a text. -/
def Occurs (text term : List Char) (span : Interval) : Prop :=
  ∃ front back, text = front ++ term ++ back ∧
    span = .ofLength (byteLength front) (byteLength term)

theorem Occurs.isSpan (h : Occurs text term span) (hterm : term ≠ []) : IsSpan text span := by
  obtain ⟨front, back, rfl, rfl⟩ := h
  exact isSpan_ofLength front hterm back

/-- What lies under an occurrence is the term. -/
theorem Occurs.slice?_eq (h : Occurs text term span) :
    slice? text span.start span.stop = some term := by
  obtain ⟨front, back, rfl, rfl⟩ := h
  have hstop : byteLength front + byteLength term = byteLength (front ++ term) :=
    (byteLength_append front term).symm
  simp only [Interval.ofLength, hstop]
  exact slice?_append front term back

/-! ## What is found occurs -/

theorem spanIfWhole_occurs {after : Option Char} (front back : List Char)
    (h : span ∈ spanIfWhole wholeWord term before after (byteLength front)) :
    Occurs (front ++ term ++ back) term span := by
  unfold spanIfWhole at h
  split at h
  · rw [List.mem_singleton.mp h]
    exact ⟨front, back, rfl, rfl⟩
  · cases h

/-- The search walks through the text with `done` behind it. -/
theorem occurrences_occurs (done : List Char)
    (h : span ∈ occurrences wholeWord term before rest (byteLength done) skip) :
    Occurs (done ++ rest) term span := by
  induction rest generalizing before done skip with
  | nil => cases h
  | cons c rest ih =>
    have hnext : ∀ {skip},
        span ∈ occurrences wholeWord term (some c) rest (byteLength done + c.utf8Size) skip →
        Occurs (done ++ c :: rest) term span := by
      intro skip hmem
      have hoccurs := ih (done ++ [c]) (by simpa using hmem)
      simpa using hoccurs
    cases skip with
    | succ skip => exact hnext h
    | zero =>
      simp only [occurrences] at h
      split at h
      · rename_i hprefix
        obtain ⟨back, happend⟩ := List.isPrefixOf_iff_prefix.mp hprefix
        rcases List.mem_append.mp h with h | h
        · rw [← happend, ← List.append_assoc]
          exact spanIfWhole_occurs done back h
        · exact hnext h
      · exact hnext h

/-- The spans of a term are occurrences of it. -/
theorem termSpans_occurs (h : span ∈ termSpans mode wholeWord text term) :
    Occurs text term span := by
  unfold termSpans at h
  split at h
  · cases h
  · cases mode with
    | contains => exact occurrences_occurs [] h
    | startsWith =>
      simp only at h
      split at h
      · rename_i hprefix
        obtain ⟨back, rfl⟩ := List.isPrefixOf_iff_prefix.mp hprefix
        exact spanIfWhole_occurs [] back h
      · cases h
    | endsWith =>
      simp only at h
      split at h
      · rename_i hsuffix
        obtain ⟨front, rfl⟩ := List.isSuffixOf_iff_suffix.mp hsuffix
        have hfront : (front ++ term).take ((front ++ term).length - term.length) = front := by
          simp
        rw [hfront] at h
        have hoccurs := spanIfWhole_occurs front [] h
        rwa [List.append_nil] at hoccurs
      · cases h
    | equals =>
      simp only at h
      split at h
      · rename_i heq
        have hoccurs := spanIfWhole_occurs [] [] h
        rw [heq]
        simpa using hoccurs
      · cases h
    | wildcard => cases h
    | regex => cases h

/-! ## What occurs is found -/

theorem spanIfWhole_false {after : Option Char} :
    spanIfWhole false term before after offset = [.ofLength offset (byteLength term)] :=
  rfl

/-- A text that begins no earlier than another ends is behind all characters of it. -/
theorem length_le_of_byteLength_le {tail : List Char} (hcut : term ++ tail = front ++ rest)
    (hle : byteLength term ≤ byteLength front) : term.length ≤ front.length := by
  obtain ⟨mid, hmid, -⟩ := exists_append_of_byteLength_le hcut hle
  rw [hmid, List.length_append]
  exact Nat.le_add_right _ _

/-- An occurrence behind the characters to be skipped is found, or begins inside one that is. -/
theorem exists_occurrence_from (hterm : term ≠ []) (hrest : rest = front ++ term ++ back)
    (hskip : skip ≤ front.length) :
    ∃ span ∈ occurrences false term before rest offset skip,
      span.start ≤ offset + byteLength front ∧ offset + byteLength front < span.stop := by
  induction rest generalizing before offset skip front with
  | nil =>
    have hnil : term = [] := by
      have happend := hrest.symm
      simp only [List.append_eq_nil_iff] at happend
      exact happend.1.2
    exact absurd hnil hterm
  | cons c rest ih =>
    -- an occurrence that does not begin here lies in the rest
    have hnext : ∀ {skip front'}, front = c :: front' → skip ≤ front'.length →
        ∃ span ∈ occurrences false term (some c) rest (offset + c.utf8Size) skip,
          span.start ≤ offset + byteLength front ∧ offset + byteLength front < span.stop := by
      rintro skip front' rfl hle
      have hrest' : rest = front' ++ term ++ back := by simpa using hrest
      obtain ⟨span, hmem, hstart, hstop⟩ :=
        @ih front' (some c) (offset + c.utf8Size) skip hrest' hle
      rw [byteLength_cons, ← Nat.add_assoc]
      exact ⟨span, hmem, hstart, hstop⟩
    have hcons : front ≠ [] → ∃ front', front = c :: front' := by
      intro hne
      obtain ⟨d, front', rfl⟩ := List.exists_cons_of_ne_nil hne
      obtain ⟨rfl, -⟩ := List.cons.inj hrest
      exact ⟨front', rfl⟩
    cases skip with
    | succ skip =>
      obtain ⟨front', hfront⟩ := hcons (List.length_pos_iff.mp (by omega))
      rw [hfront, List.length_cons] at hskip
      exact hnext hfront (by omega)
    | zero =>
      simp only [occurrences]
      by_cases hprefix : term.isPrefixOf (c :: rest) = true
      · rw [if_pos hprefix, spanIfWhole_false]
        obtain ⟨tail, htail⟩ := List.isPrefixOf_iff_prefix.mp hprefix
        have hcut : term ++ tail = front ++ (term ++ back) := by
          rw [htail, hrest, List.append_assoc]
        by_cases hinside : byteLength front < byteLength term
        · refine ⟨_, List.mem_append_left _ (List.mem_singleton_self _), ?_, ?_⟩
          · exact Nat.le_add_right _ _
          · exact Nat.add_lt_add_left hinside _
        · -- the occurrence lies behind the one that begins here
          have hlen := length_le_of_byteLength_le hcut (Nat.le_of_not_lt hinside)
          have hne : front ≠ [] := by
            rintro rfl
            exact hinside (byteLength_pos hterm)
          obtain ⟨front', hfront⟩ := hcons hne
          rw [hfront, List.length_cons] at hlen
          obtain ⟨span, hmem, hspan⟩ := @hnext (term.length - 1) front' hfront (by omega)
          exact ⟨span, List.mem_append_right _ hmem, hspan⟩
      · rw [if_neg hprefix]
        have hne : front ≠ [] := by
          rintro rfl
          apply hprefix
          rw [hrest]
          exact List.isPrefixOf_iff_prefix.mpr ⟨back, by simp⟩
        obtain ⟨front', hfront⟩ := hcons hne
        exact hnext hfront (Nat.zero_le _)

/-- Every occurrence is found, or begins inside one that is. -/
theorem exists_occurrence (hterm : term ≠ []) (htext : text = front ++ term ++ back) :
    ∃ span ∈ termSpans .contains false text term,
      span.start ≤ byteLength front ∧ byteLength front < span.stop := by
  have hempty : ¬ term.isEmpty = true := by simpa using hterm
  have hfound : ∃ span ∈ occurrences false term none text 0 0,
      span.start ≤ 0 + byteLength front ∧ 0 + byteLength front < span.stop :=
    exists_occurrence_from hterm htext (Nat.zero_le _)
  unfold termSpans
  rw [if_neg hempty]
  simpa using hfound

/-- Whether a mode finds a term in a text: anywhere, at one end, or as the whole. -/
def Hits : MatchMode → List Char → List Char → Prop
  | .contains, text, term => term <:+: text
  | .startsWith, text, term => term <+: text
  | .endsWith, text, term => term <:+ text
  | .equals, text, term => text = term
  | .wildcard, _, _ | .regex, _, _ => False

theorem termSpans_startsWith (hterm : term ≠ []) (h : term <+: text) :
    termSpans .startsWith false text term = [⟨0, byteLength term⟩] := by
  have hempty : ¬ term.isEmpty = true := by simpa using hterm
  simp only [termSpans, if_neg hempty, if_pos (List.isPrefixOf_iff_prefix.mpr h),
    spanIfWhole_false, Interval.ofLength, Nat.zero_add]

theorem termSpans_endsWith (hterm : term ≠ []) (h : term <:+ text) :
    termSpans .endsWith false text term =
      [⟨byteLength text - byteLength term, byteLength text⟩] := by
  have hempty : ¬ term.isEmpty = true := by simpa using hterm
  obtain ⟨front, rfl⟩ := h
  have hfront : (front ++ term).take ((front ++ term).length - term.length) = front := by simp
  have hsuffix : term.isSuffixOf (front ++ term) = true :=
    List.isSuffixOf_iff_suffix.mpr ⟨front, rfl⟩
  simp only [termSpans, if_neg hempty, if_pos hsuffix, hfront, spanIfWhole_false,
    Interval.ofLength, byteLength_append, Nat.add_sub_cancel]

theorem termSpans_equals (hterm : term ≠ []) :
    termSpans .equals false term term = [⟨0, byteLength term⟩] := by
  have hempty : ¬ term.isEmpty = true := by simpa using hterm
  simp only [termSpans, if_neg hempty, if_true, spanIfWhole_false, Interval.ofLength, Nat.zero_add]

/-- A term has spans if and only if the mode finds it. -/
theorem termSpans_eq_nil_iff (hterm : term ≠ []) :
    termSpans mode false text term = [] ↔ ¬ Hits mode text term := by
  have hempty : ¬ term.isEmpty = true := by simpa using hterm
  cases mode with
  | contains =>
    constructor
    · rintro hnil ⟨front, back, htext⟩
      obtain ⟨span, hmem, -⟩ := exists_occurrence hterm htext.symm
      rw [hnil] at hmem
      cases hmem
    · intro hnone
      rw [List.eq_nil_iff_forall_not_mem]
      intro span hmem
      obtain ⟨front, back, htext, -⟩ := termSpans_occurs hmem
      exact hnone ⟨front, back, htext.symm⟩
  | startsWith =>
    constructor
    · intro hnil hprefix
      rw [termSpans_startsWith hterm hprefix] at hnil
      cases hnil
    · intro hnone
      have hprefix : ¬ term.isPrefixOf text = true := fun h =>
        hnone (List.isPrefixOf_iff_prefix.mp h)
      simp only [termSpans, if_neg hempty, if_neg hprefix]
  | endsWith =>
    constructor
    · intro hnil hsuffix
      rw [termSpans_endsWith hterm hsuffix] at hnil
      cases hnil
    · intro hnone
      have hsuffix : ¬ term.isSuffixOf text = true := fun h =>
        hnone (List.isSuffixOf_iff_suffix.mp h)
      simp only [termSpans, if_neg hempty, if_neg hsuffix]
  | equals =>
    constructor
    · rintro hnil hequal
      rw [show text = term from hequal, termSpans_equals hterm] at hnil
      cases hnil
    · intro hnone
      have hequal : ¬ text = term := hnone
      simp only [termSpans, if_neg hempty, if_neg hequal]
  | wildcard => simp [termSpans, Hits]
  | regex => simp [termSpans, Hits]

end CellSearch.Prepared
