import Mathlib
import CellSearch.Proofs.Query.WholeTerm
import CellSearch.Proofs.Text.WhiteSpace

/-!
# Composed and decomposed spellings

Where diacritics are stripped, a text in which characters are replaced by their decompositions
(`Respelled`) is normalized to the same text, and a cell matches in one spelling if and only if it
does in the other (`Prepared.respelled_agree`).

A character that is not collapsed becomes what the characters of its decomposition become
(`Text.flatMap_expand_decompose`), since they stand for themselves; white space decomposes to one
character of white space, and so does not end a run.
-/

namespace CellSearch

open CellSearch.Text CellSearch.Unicode

namespace Text

variable {o : NormalizeOptions} {a b rest : List Char} {c d : Char} {inRun : Bool}

/-- The second text is the first with some characters replaced by their decompositions. -/
inductive Respelled : List Char → List Char → Prop
  | nil : Respelled [] []
  | keep (c : Char) {a b : List Char} : Respelled a b → Respelled (c :: a) (c :: b)
  | decompose (c : Char) {a b : List Char} : Respelled a b →
      Respelled (c :: a) (Unicode.decompose c ++ b)

/-! ## One character -/

theorem collapses_of_mem_decompose (h : d ∈ decompose c) : o.collapses d = o.collapses c := by
  have hwhite : isWhiteSpace d = isWhiteSpace c := by
    cases hc : isWhiteSpace c with
    | false => exact isWhiteSpace_of_mem_decompose hc h
    | true =>
      rcases decompose_whiteSpace hc with ⟨e, hparts, he⟩
      rw [hparts, List.mem_singleton] at h
      rw [h, he]
  rw [NormalizeOptions.collapses, NormalizeOptions.collapses, hwhite]

/-- The characters of a decomposition become what the character becomes. -/
theorem flatMap_expand_decompose (hstrip : o.stripDiacritics = true) (c : Char) :
    (decompose c).flatMap o.expand = o.expand c := by
  have hparts : (decompose c).flatMap o.parts = o.parts c := by
    have hpart : ∀ d ∈ decompose c, o.parts d = [d].filter fun e => !isMark e := by
      intro d hd
      rw [NormalizeOptions.parts, if_pos hstrip, stripped_eq, decompose_of_mem hd]
    calc (decompose c).flatMap o.parts
        = (decompose c).flatMap fun d => [d].filter fun e => !isMark e := List.flatMap_congr hpart
      _ = (decompose c).filter fun e => !isMark e := by
        rw [← List.filter_flatMap, List.flatMap_singleton']
      _ = o.parts c := by rw [NormalizeOptions.parts, if_pos hstrip, stripped_eq]
  rw [funext (expand_eq o)]
  cases o.foldCase with
  | false => exact hparts
  | true =>
    simp only [if_true]
    rw [← hparts, List.flatMap_assoc]

theorem emitAll_decompose (hstrip : o.stripDiacritics = true) (c : Char) (rest : List Char) :
    emitAll o inRun (decompose c ++ rest) = emitAll o inRun (c :: rest) := by
  cases hcollapse : o.collapses c with
  | true =>
    -- white space is replaced by white space
    rcases decompose_whiteSpace (Bool.and_eq_true_iff.mp hcollapse).2 with ⟨d, hparts, -⟩
    have hd : o.collapses d = true := by
      rw [collapses_of_mem_decompose (c := c) (by rw [hparts]; exact List.mem_singleton_self d),
        hcollapse]
    rw [hparts, List.singleton_append, emitAll, emitAll, NormalizeOptions.emit,
      NormalizeOptions.emit, hd, hcollapse]
    rfl
  | false =>
    have hblack : ∀ d ∈ decompose c, o.collapses d = false :=
      fun d hd => (collapses_of_mem_decompose hd).trans hcollapse
    have hscan := emitAll_of_not_collapses hblack inRun
    rw [emitAll_append, hscan.1, hscan.2 (decompose_ne_nil c), flatMap_expand_decompose hstrip,
      emitAll, NormalizeOptions.emit, hcollapse, if_neg Bool.false_ne_true]

/-! ## Texts -/

theorem Respelled.emitAll_eq (hstrip : o.stripDiacritics = true) (h : Respelled a b) :
    emitAll o inRun a = emitAll o inRun b := by
  induction h generalizing inRun with
  | nil => rfl
  | keep c _ ih => rw [emitAll, emitAll, ih]
  | decompose c _ ih => rw [emitAll_decompose hstrip, emitAll, emitAll, ih]

theorem Respelled.text_normalize (hstrip : o.stripDiacritics = true) (h : Respelled a b) :
    (normalize o a).text = (normalize o b).text := by
  rw [Text.text_normalize, Text.text_normalize, h.emitAll_eq hstrip]

theorem Respelled.eq_nil_iff (h : Respelled a b) : a = [] ↔ b = [] := by
  cases h with
  | nil => rfl
  | keep c _ => simp
  | decompose c _ => simp [decompose_ne_nil]

end Text

namespace Prepared

variable {d : Descriptor} {p : Prepared} {a b : List Char}

/-! ## Cells -/

/-- Whether a cell matches depends on its normalized text and on whether it is empty. -/
theorem matchText_ne_nil_iff (p : Prepared) (text : List Char) : p.matchText text ≠ [] ↔
    text ≠ [] ∧ if p.hasQuery = true
      then p.normalizedSpans (normalize p.descriptor.normalizeOptions text).text ≠ []
      else p.descriptor.allowEmpty = true := by
  unfold matchText
  split
  · rename_i hempty
    simp [List.isEmpty_iff.mp hempty]
  · rename_i hsome
    rw [List.isEmpty_iff] at hsome
    rw [and_iff_right hsome]
    split
    · exact not_congr
        (sourceSpans_merge_eq_nil_iff fun span hspan => normalizedSpans_isSpan hspan)
    · split
      · rename_i hallow
        simp [hallow]
      · rename_i hallow
        simp [hallow]

/-- Where diacritics are stripped, two spellings are normalized to one text, and descriptors that
ignore diacritics match a cell in both spellings or in neither. -/
theorem respelled_agree (h : Respelled a b) :
    (∀ o : NormalizeOptions, o.stripDiacritics = true →
      (normalize o a).text = (normalize o b).text) ∧
    ∀ d : Descriptor, d.ignoreDiacritics = true →
      ((ofDescriptor d).matchText a ≠ [] ↔ (ofDescriptor d).matchText b ≠ []) := by
  refine ⟨fun o hstrip => h.text_normalize hstrip, fun d hignore => ?_⟩
  have htext : (normalize d.normalizeOptions a).text = (normalize d.normalizeOptions b).text :=
    h.text_normalize hignore
  have hdescriptor : (ofDescriptor d).descriptor.normalizeOptions = d.normalizeOptions := rfl
  rw [matchText_ne_nil_iff, matchText_ne_nil_iff, hdescriptor, htext, Ne, Ne, h.eq_nil_iff]

/-- A syllable and its letters, a letter with an accent and the letter before an accent. -/
theorem respelled_agree_syllable :
    let a := "\ud55c \u00e9".toList
    let b := "\u1112\u1161\u11ab e\u0301".toList
    let d : Descriptor := { query := "E", ignoreDiacritics := true }
    Respelled a b ∧ (normalize d.normalizeOptions a).text = (normalize d.normalizeOptions b).text ∧
    ((ofDescriptor d).matchText a ≠ [] ↔ (ofDescriptor d).matchText b ≠ []) := by
  intro a b d
  have hb : b = decompose '\ud55c' ++ ' ' :: (decompose '\u00e9' ++ []) := by decide +kernel
  have h : Respelled a b := by
    rw [hb]
    exact .decompose _ (.keep _ (.decompose _ .nil))
  have hagree := respelled_agree h
  exact ⟨h, hagree.1 _ rfl, hagree.2 _ rfl⟩

end Prepared

end CellSearch
