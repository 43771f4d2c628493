import Mathlib
import CellSearch.Proofs.Text.RoundTrip

/-!
# Text that keeps its layout

A text is not scanned if there is nothing to do, or if it is ASCII and its white space is in order.
The order is tested byte by byte; it means that all white space is single spaces
(`hasSingleSpaces_iff`). A scan of such a text would give the same text, send every byte to its own
character and every span to where it is (`normalize_agrees_with_scan`).
-/

namespace CellSearch.Text

open CellSearch.Unicode

variable {o : NormalizeOptions} {text rest : List Char} {c : Char} {span : Interval} {k : Nat}

/-! ## Single spaces -/

/-- The white space of a text is spaces, no two of them next to each other. -/
structure SingleSpaced (text : List Char) : Prop where
  space : ∀ c ∈ text, isWhiteSpace c = true → c = ' '
  single : ¬ [' ', ' '] <:+: text

theorem singleSpaced_nil : SingleSpaced [] :=
  ⟨by simp, by simp⟩

theorem singleSpaced_cons_iff : SingleSpaced (c :: rest) ↔
    (isWhiteSpace c = true → c = ' ') ∧ ¬ (c = ' ' ∧ [' '] <+: rest) ∧ SingleSpaced rest := by
  have hsingle : [' ', ' '] <:+: c :: rest ↔ c = ' ' ∧ [' '] <+: rest ∨ [' ', ' '] <:+: rest := by
    rw [List.infix_cons_iff, List.cons_prefix_cons, eq_comm]
  constructor
  · intro h
    refine ⟨h.space c List.mem_cons_self, fun hfirst => ?_, ?_, ?_⟩
    · exact h.single (hsingle.mpr (.inl hfirst))
    · exact fun d hd => h.space d (List.mem_cons_of_mem c hd)
    · exact fun hrest => h.single (hsingle.mpr (.inr hrest))
  · rintro ⟨hspace, hfirst, hrest⟩
    refine ⟨?_, fun hpair => ?_⟩
    · intro d hd
      rcases List.mem_cons.mp hd with rfl | hd
      · exact hspace
      · exact hrest.space d hd
    · rcases hsingle.mp hpair with hpair | hpair
      · exact hfirst hpair
      · exact hrest.single hpair

/-- The test of ASCII text, behind a space or not. -/
theorem hasSingleSpaces_iff (hascii : isAscii text = true) (afterSpace : Bool) :
    hasSingleSpaces afterSpace text = true ↔
      SingleSpaced text ∧ (afterSpace = true → ¬ [' '] <+: text) := by
  induction text generalizing afterSpace with
  | nil => simp [hasSingleSpaces, singleSpaced_nil]
  | cons c rest ih =>
    simp only [isAscii, List.all_cons, Bool.and_eq_true, decide_eq_true_eq] at hascii
    have hprefix : [' '] <+: c :: rest ↔ c = ' ' := by
      rw [List.cons_prefix_cons]
      simp [eq_comm]
    rw [singleSpaced_cons_iff, hprefix, hasSingleSpaces, isAsciiBlank_eq hascii.1]
    split
    · rename_i hspace
      rw [Bool.and_eq_true, ih hascii.2]
      cases afterSpace <;> simp [hspace, and_comm]
    · rename_i hspace
      rw [Bool.and_eq_true, ih hascii.2]
      cases hwhite : isWhiteSpace c <;> simp [hspace]

/-! ## The ways of normalizing -/

theorem isAligned_normalize_iff : (normalize o text).isAligned = true ↔
    o.isNoop = true ∨
      isAscii text = true ∧ (o.collapseWhiteSpace = true → SingleSpaced text) := by
  unfold normalize
  split
  · rename_i hnoop
    simp [NormalizedText.isAligned, hnoop]
  · rename_i hwork
    split
    · rename_i hkeep
      rw [Bool.and_eq_true, Bool.or_eq_true, Bool.not_eq_true'] at hkeep
      refine iff_of_true rfl (.inr ⟨hkeep.1, fun hcollapse => ?_⟩)
      rcases hkeep.2 with hnone | hspaces
      · rw [hcollapse] at hnone
        cases hnone
      · exact ((hasSingleSpaces_iff hkeep.1 false).mp hspaces).1
    · rename_i hscan
      refine iff_of_false Bool.false_ne_true fun hkeep => ?_
      rcases hkeep with hnoop | ⟨hascii, hspaces⟩
      · exact hwork hnoop
      · apply hscan
        rw [hascii, Bool.true_and, Bool.or_eq_true, Bool.not_eq_true', hasSingleSpaces_iff hascii]
        cases hcollapse : o.collapseWhiteSpace with
        | false => exact .inl rfl
        | true => exact .inr ⟨hspaces hcollapse, fun h => absurd h Bool.false_ne_true⟩

/-- A text that keeps its layout is not scanned, and any other is. -/
theorem normalize_eq_scan (h : (normalize o text).isAligned = false) :
    normalize o text = .mapped (mapChars o false 0 text) := by
  rcases normalize_eq o text with ⟨-, heq⟩ | heq
  · rw [heq] at h
    cases h
  · exact heq

theorem keepsLayout_of_isAligned (h : (normalize o text).isAligned = true) :
    KeepsLayout o false text := by
  rcases normalize_eq o text with ⟨hkeep, -⟩ | heq
  · exact hkeep
  · rw [heq] at h
    cases h

/-! ## The map of a scan -/

/-- The map of a scan has one entry for each byte. -/
theorem length_flatMap_replicate (chars : List MappedChar) :
    (chars.flatMap fun m => List.replicate m.char.utf8Size m.offset).length =
      byteLength (chars.map (·.char)) := by
  induction chars with
  | nil => rfl
  | cons m rest ih =>
    rw [List.flatMap_cons, List.length_append, List.length_replicate, ih, List.map_cons,
      byteLength_cons]

/-- Later bytes come from later characters. -/
theorem pairwise_mapChars (o : NormalizeOptions) (text : List Char) :
    ((mapChars o false 0 text).flatMap fun m =>
      List.replicate m.char.utf8Size m.offset).Pairwise (· ≤ ·) := by
  have hordered := (mapChars_mapped o false [] text).ordered
  refine List.pairwise_flatMap.mpr ⟨fun m hm => ?_, ?_⟩
  · exact List.pairwise_replicate.mpr (.inr (le_refl _))
  · refine hordered.imp fun {a b} hle x hx y hy => ?_
    rw [List.eq_of_mem_replicate hx, List.eq_of_mem_replicate hy]
    exact hle

/-- Every entry is the place of a character. -/
theorem exists_of_mem_mapChars {offset : Nat} (h : offset ∈ (mapChars o false 0 text).flatMap
    fun m => List.replicate m.char.utf8Size m.offset) :
    ∃ front c back, text = front ++ c :: back ∧ byteLength front = offset := by
  rcases List.mem_iff_getElem?.mp h with ⟨k, hk⟩
  rcases getElem?_mapChars.mp hk with ⟨front, c, back, htext, hoffset, -⟩
  exact ⟨front, c, back, htext, hoffset⟩

/-! ## Scanned or not -/

/-- A span goes back to where it would go back to after a scan. -/
theorem sourceSpan_scan (h : IsSpan (normalize o text).text span) :
    (NormalizedText.mapped (mapChars o false 0 text)).sourceSpan span =
      (normalize o text).sourceSpan span := by
  rcases exists_source h with ⟨front, piece, back, hsource, heq⟩
  rw [text_normalize] at h
  rcases exists_source_of_scan h with ⟨front', piece', back', hsource', heq'⟩
  have hstart : byteLength front' = byteLength front :=
    le_antisymm (hsource'.start_le hsource (le_refl _)) (hsource.start_le hsource' (le_refl _))
  have hstop : byteLength (front' ++ piece') = byteLength (front ++ piece) :=
    le_antisymm (hsource'.stop_le hsource (le_refl _)) (hsource.stop_le hsource' (le_refl _))
  rw [heq, heq', hstart, hstop]

/-- The short ways of normalizing agree with the scan, and what the scan remembers is in order.

A text is not scanned if there is nothing to do, or if it is ASCII and, where white space is
collapsed, single spaced. Scanned all the same, it would be the same text, every byte would come
from its own character, and every span would come from the same span. A text that is scanned has
an entry for each byte of the normalized text; the entries do not decrease, and each is the place
of a character. -/
theorem normalize_agrees_with_scan (o : NormalizeOptions) (text : List Char) :
    let n := normalize o text
    let scanned := NormalizedText.mapped (mapChars o false 0 text)
    (n.isAligned = true ↔ o.isNoop = true ∨
      isAscii text = true ∧ (o.collapseWhiteSpace = true → SingleSpaced text)) ∧
    (n.isAligned = true →
      scanned.text = n.text ∧
      (∃ map, scanned.byteMap = some map ∧ map.length = byteLength n.text ∧
        ∀ front c back, text = front ++ c :: back → ∀ k, byteLength front ≤ k →
          k < byteLength (front ++ [c]) → map[k]? = some (byteLength front)) ∧
      ∀ span, IsSpan n.text span → scanned.sourceSpan span = n.sourceSpan span) ∧
    (n.isAligned = false →
      n = scanned ∧
      ∃ map, n.byteMap = some map ∧ map.length = byteLength n.text ∧ map.Pairwise (· ≤ ·) ∧
        ∀ offset ∈ map, ∃ front c back, text = front ++ c :: back ∧ byteLength front = offset) := by
  intro n scanned
  have htext : (mapChars o false 0 text).map (·.char) = n.text := by
    rw [map_char_mapChars, text_normalize]
  have hlength : ((mapChars o false 0 text).flatMap fun m =>
      List.replicate m.char.utf8Size m.offset).length = byteLength n.text := by
    rw [length_flatMap_replicate, htext]
  refine ⟨isAligned_normalize_iff, fun haligned => ⟨htext, ⟨_, rfl, hlength, ?_⟩, ?_⟩,
    fun hscan => ?_⟩
  · intro front c back hcut k hlow hhigh
    have hkeep := keepsLayout_of_isAligned haligned
    exact getElem?_mapChars.mpr ⟨front, c, back, hcut, rfl, hkeep.produces hcut hlow hhigh⟩
  · intro span hspan
    exact sourceSpan_scan hspan
  · have heq : n = scanned := normalize_eq_scan hscan
    refine ⟨heq, _, congrArg NormalizedText.byteMap heq, hlength, pairwise_mapChars o text, ?_⟩
    intro offset hoffset
    exact exists_of_mem_mapChars hoffset

end CellSearch.Text
