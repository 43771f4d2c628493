import Mathlib
import CellSearch.Proofs.Text.Boundary
import CellSearch.Text.Normalize

/-!
# From normalized text back to its source

Normalization may turn one character into several, into none, or many into one. Whatever it does,
every normalized character knows a character of the source, and the characters come in the order
of the source (`Text.Mapped`). This is enough for a span of the normalized text to come from a
span of the source (`Text.sourceSpan_isSpan`). Text that keeps its byte layout has the boundaries
of its source.
-/

namespace CellSearch.Text

variable {text : List Char} {chars : List MappedChar} {n k : Nat}

/-! ## Characters and their sources -/

/-- The normalized characters come from characters of the text, in order, from byte `offset`
on. -/
structure Mapped (text : List Char) (offset : Nat) (chars : List MappedChar) : Prop where
  isSpan : ∀ m ∈ chars, IsSpan text (.ofLength m.offset m.width)
  le : ∀ m ∈ chars, offset ≤ m.offset
  ordered : chars.Pairwise fun a b => a.offset ≤ b.offset

theorem Mapped.nil (text : List Char) (offset : Nat) : Mapped text offset [] :=
  ⟨by simp, by simp, List.Pairwise.nil⟩

theorem Mapped.mono {offset offset' : Nat} (h : Mapped text offset' chars)
    (hle : offset ≤ offset') : Mapped text offset chars :=
  ⟨h.isSpan, fun m hm => le_trans hle (h.le m hm), h.ordered⟩

/-- The characters that one source character becomes come before those of the text behind it. -/
theorem Mapped.append {c : Char} {done rest : List Char} (h : Mapped (done ++ c :: rest)
    (byteLength done + c.utf8Size) chars) (parts : List Char) :
    Mapped (done ++ c :: rest) (byteLength done)
      (parts.map (fun d => ⟨d, byteLength done, c.utf8Size⟩) ++ chars) := by
  have hspan : IsSpan (done ++ c :: rest) (.ofLength (byteLength done) c.utf8Size) := by
    have hone := isSpan_ofLength done (List.cons_ne_nil c []) rest
    simpa using hone
  have hparts : ∀ m ∈ parts.map fun d => (⟨d, byteLength done, c.utf8Size⟩ : MappedChar),
      m.offset = byteLength done ∧ m.width = c.utf8Size := by
    intro m hm
    obtain ⟨d, -, rfl⟩ := List.mem_map.mp hm
    exact ⟨rfl, rfl⟩
  refine ⟨fun m hm => ?_, fun m hm => ?_, ?_⟩
  · rcases List.mem_append.mp hm with hm | hm
    · rw [(hparts m hm).1, (hparts m hm).2]
      exact hspan
    · exact h.isSpan m hm
  · rcases List.mem_append.mp hm with hm | hm
    · exact le_of_eq (hparts m hm).1.symm
    · have := h.le m hm
      omega
  · refine List.pairwise_append.mpr ⟨?_, h.ordered, fun a ha b hb => ?_⟩
    · refine List.pairwise_of_forall_mem_list fun a ha b hb => ?_
      rw [(hparts a ha).1, (hparts b hb).1]
    · rw [(hparts a ha).1]
      have := h.le b hb
      omega

/-- Normalization keeps track of the source. -/
theorem mapChars_mapped (o : NormalizeOptions) (inRun : Bool) (done rest : List Char) :
    Mapped (done ++ rest) (byteLength done) (mapChars o inRun (byteLength done) rest) := by
  induction rest generalizing inRun done with
  | nil => exact .nil _ _
  | cons c rest ih =>
    have hnext : ∀ run, Mapped (done ++ c :: rest) (byteLength done + c.utf8Size)
        (mapChars o run (byteLength done + c.utf8Size) rest) := by
      intro run
      have h := ih run (done ++ [c])
      simpa using h
    simp only [mapChars]
    split
    · -- white space that goes on leaves nothing, and only its beginning leaves a space
      split
      · exact (hnext true).mono (Nat.le_add_right _ _)
      · exact (hnext true).append [' ']
    · exact (hnext false).append (o.expand c)

/-! ## Looking up a byte -/

/-- Every byte of the normalized text belongs to a character of it. -/
theorem exists_charAt? (h : n < byteLength (chars.map (·.char))) :
    ∃ m ∈ chars, NormalizedText.charAt? chars n = some m := by
  induction chars generalizing n with
  | nil => cases h
  | cons m rest ih =>
    simp only [NormalizedText.charAt?]
    split
    · exact ⟨m, List.mem_cons_self, rfl⟩
    · simp only [List.map_cons, byteLength_cons] at h
      obtain ⟨m', hm', hchar⟩ := ih (n := n - m.char.utf8Size) (by omega)
      exact ⟨m', List.mem_cons_of_mem m hm', hchar⟩

theorem mem_of_charAt? {m : MappedChar} (h : NormalizedText.charAt? chars n = some m) :
    m ∈ chars := by
  induction chars generalizing n with
  | nil => cases h
  | cons m' rest ih =>
    simp only [NormalizedText.charAt?] at h
    split at h
    · cases h
      exact List.mem_cons_self
    · exact List.mem_cons_of_mem m' (ih h)

/-- A later byte comes from the same character of the source or a later one. -/
theorem offset_le_of_charAt? (hordered : chars.Pairwise fun a b => a.offset ≤ b.offset)
    (hle : n ≤ k) {first last : MappedChar}
    (hfirst : NormalizedText.charAt? chars n = some first)
    (hlast : NormalizedText.charAt? chars k = some last) : first.offset ≤ last.offset := by
  induction chars generalizing n k with
  | nil => cases hfirst
  | cons m rest ih =>
    obtain ⟨hm, hrest⟩ := List.pairwise_cons.mp hordered
    have hmem := mem_of_charAt? hlast
    simp only [NormalizedText.charAt?] at hfirst hlast
    split at hfirst
    · cases hfirst
      rcases List.mem_cons.mp hmem with rfl | hmem
      · exact le_refl _
      · exact hm last hmem
    · rw [if_neg (by omega)] at hlast
      exact ih hrest (by omega) hfirst hlast

/-! ## Text that keeps its layout -/

/-- Folding the case of ASCII letters keeps the width of every character. -/
theorem utf8Size_toLower (c : Char) : c.toLower.utf8Size = c.utf8Size := by
  by_cases hupper : c.isUpper = true
  · simp only [Char.isUpper, decide_eq_true_eq, ge_iff_le] at hupper
    have hc : c.val ≤ 0x7F := by
      rw [UInt32.le_iff_toNat_le] at hupper ⊢
      exact le_trans hupper.2 (by decide)
    have hlower : c.toLower.val ≤ 0x7F := by
      simp only [Char.toLower]
      rw [dif_pos ⟨hupper.1, hupper.2⟩]
      simp only [UInt32.le_iff_toNat_le, UInt32.toNat_add] at hupper ⊢
      have hle := hupper.2
      simp at hle ⊢
      omega
    rw [Char.utf8Size_eq_one_iff.mpr hc, Char.utf8Size_eq_one_iff.mpr hlower]
  · rw [Char.toLower_eq_of_not_isUpper hupper]

theorem byteLength_map_toLower (cs : List Char) :
    byteLength (cs.map Char.toLower) = byteLength cs := by
  induction cs with
  | nil => rfl
  | cons c rest ih => simp only [List.map_cons, byteLength_cons, utf8Size_toLower, ih]

theorem IsBoundary.of_map_toLower (h : IsBoundary (text.map Char.toLower) n) :
    IsBoundary text n := by
  obtain ⟨front, back, happend, hlen⟩ := h
  obtain ⟨a, b, rfl, rfl, -⟩ := List.map_eq_append_iff.mp happend
  rw [byteLength_map_toLower] at hlen
  exact ⟨a, b, rfl, hlen⟩

/-! ## Spans -/

/-- The bytes of a span come from the characters of its first byte and its last. -/
theorem Mapped.sourceSpan_isSpan {span : Interval} (h : Mapped text 0 chars)
    (hspan : IsSpan (chars.map (·.char)) span) :
    IsSpan text ((NormalizedText.mapped chars).sourceSpan span) := by
  have hproper := hspan.proper
  have hstop := hspan.stop_le
  have hstart : span.start < byteLength (chars.map (·.char)) := by omega
  have hback : span.stop - 1 < byteLength (chars.map (·.char)) := by omega
  obtain ⟨first, hfirst, hchar⟩ := exists_charAt? hstart
  obtain ⟨last, hlast, hchar'⟩ := exists_charAt? hback
  -- the span is not empty: its last byte comes from the first character or a later one
  have hle := offset_le_of_charAt? h.ordered (by omega) hchar hchar'
  have hend := h.isSpan last hlast
  simp only [NormalizedText.sourceSpan, hchar, hchar']
  refine ⟨?_, (h.isSpan first hfirst).start_boundary, hend.stop_boundary⟩
  exact lt_of_le_of_lt hle hend.proper

theorem normalize_cases (o : NormalizeOptions) (text : List Char) :
    normalize o text = .aligned text ∨ normalize o text = .aligned (text.map Char.toLower) ∨
      normalize o text = .mapped (mapChars o false 0 text) := by
  unfold normalize
  split
  · exact Or.inl rfl
  · split
    · split
      · exact Or.inr (Or.inl rfl)
      · exact Or.inl rfl
    · exact Or.inr (Or.inr rfl)

/-- A span of a normalized text comes from a span of the source. -/
theorem sourceSpan_isSpan {o : NormalizeOptions} {span : Interval}
    (h : IsSpan (normalize o text).text span) :
    IsSpan text ((normalize o text).sourceSpan span) := by
  rcases normalize_cases o text with heq | heq | heq <;> rw [heq] at h ⊢
  · exact h
  · exact ⟨h.proper, h.start_boundary.of_map_toLower, h.stop_boundary.of_map_toLower⟩
  · exact (mapChars_mapped o false [] text).sourceSpan_isSpan h

end CellSearch.Text
