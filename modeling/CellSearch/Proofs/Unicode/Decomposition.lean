import Mathlib
import CellSearch.Proofs.Unicode.WhiteSpace
import CellSearch.Unicode.Decomposition

/-!
# What decompositions are made of

A canonical decomposition is full: its characters stand for themselves (`decompose_of_mem`).
White space decomposes to one character of white space (`decompose_whiteSpace`), and other
characters to other characters (`isWhiteSpace_of_mem_decompose`).

The table is searched as a whole for what would speak against this. Hangul syllables are put
together from a range of letters that the table does not list.
-/

namespace CellSearch.Unicode

variable {c d : Char} {n p : Nat} {parts : List Nat}

/-! ## The table -/

/-- The code points that the table lists. -/
def listedCodes : List Nat :=
  decompositionPages.flatMap fun page => page.entries.map (·.1)

/-- The code points that listed code points are composed of. -/
def listedParts : List Nat :=
  decompositionPages.flatMap fun page => page.entries.flatMap (·.2)

theorem exists_entry (h : listedDecomposition n = some parts) :
    ∃ page ∈ decompositionPages, (n, parts) ∈ page.entries := by
  unfold listedDecomposition at h
  split at h
  · rename_i page hfind
    rcases List.lookup_eq_some_iff.mp h with ⟨before, behind, hentries, -⟩
    refine ⟨page, List.mem_of_find?_eq_some hfind, ?_⟩
    rw [hentries]
    exact List.mem_append_right before List.mem_cons_self
  · cases h

theorem mem_listedCodes (h : listedDecomposition n = some parts) : n ∈ listedCodes := by
  rcases exists_entry h with ⟨page, hpage, hentry⟩
  exact List.mem_flatMap.mpr ⟨page, hpage, List.mem_map.mpr ⟨_, hentry, rfl⟩⟩

theorem mem_listedParts (h : listedDecomposition n = some parts) (hp : p ∈ parts) :
    p ∈ listedParts := by
  rcases exists_entry h with ⟨page, hpage, hentry⟩
  exact List.mem_flatMap.mpr ⟨page, hpage, List.mem_flatMap.mpr ⟨_, hentry, hp⟩⟩

/-- An entry has parts, none is a Hangul syllable, and white space is a part of white space only. -/
def isSound (entry : Nat × List Nat) : Bool :=
  !entry.2.isEmpty && entry.2.all fun p =>
    !isHangulSyllable p && (!(bits whiteSpaceCodes).testBit p || whiteSpaceCodes.contains entry.1)

/-- The table was searched once: its entries are sound, no listed code point is a part of another,
and the letters of Hangul are neither listed nor white space. -/
theorem table_searched :
    (decompositionPages.all fun page => page.entries.all isSound) = true ∧
    bits listedParts &&& bits listedCodes = 0 ∧
    ((List.range' 0x1100 0xC3).all fun p =>
      (listedDecomposition p).isNone && !whiteSpaceCodes.contains p) = true := by
  decide +kernel

theorem entry_isSound (h : listedDecomposition n = some parts) : isSound (n, parts) = true := by
  rcases exists_entry h with ⟨page, hpage, hentry⟩
  exact List.all_eq_true.mp (List.all_eq_true.mp table_searched.1 page hpage) _ hentry

theorem listed_ne_nil (h : listedDecomposition n = some parts) : parts ≠ [] := by
  have hsound := entry_isSound h
  rw [isSound, Bool.and_eq_true] at hsound
  simpa using hsound.1

theorem part_isSound (h : listedDecomposition n = some parts) (hp : p ∈ parts) :
    isHangulSyllable p = false ∧ (p ∈ whiteSpaceCodes → n ∈ whiteSpaceCodes) := by
  have hsound := entry_isSound h
  rw [isSound, Bool.and_eq_true] at hsound
  have hpart := List.all_eq_true.mp hsound.2 p hp
  rw [Bool.and_eq_true, Bool.not_eq_true'] at hpart
  refine ⟨hpart.1, fun hwhite => ?_⟩
  have hcontains := hpart.2
  rw [(testBit_bits _ _).mpr hwhite] at hcontains
  simpa using hcontains

/-- No listed code point is a part of another. -/
theorem part_unlisted (h : listedDecomposition n = some parts) (hp : p ∈ parts) :
    listedDecomposition p = none := by
  by_contra hsome
  rcases Option.ne_none_iff_exists'.mp hsome with ⟨parts', hparts'⟩
  exact not_mem_of_bits table_searched.2.1 (mem_listedParts h hp) (mem_listedCodes hparts')

/-! ## Hangul -/

/-- The letters of syllables lie in one range. -/
theorem hangulParts_range (h : n < 11172) (hp : p ∈ hangulParts n) : 0x1100 ≤ p ∧ p < 0x11C3 := by
  unfold hangulParts at hp
  have hvowel : n % (21 * 28) / 28 < 21 := by omega
  have htrailing : n % 28 < 28 := Nat.mod_lt _ (by decide)
  split at hp
  · simp only [List.mem_cons, List.not_mem_nil, or_false] at hp
    omega
  · simp only [List.mem_cons, List.not_mem_nil, or_false] at hp
    omega

theorem letter_unlisted (hlow : 0x1100 ≤ n) (hhigh : n < 0x11C3) :
    listedDecomposition n = none ∧ n ∉ whiteSpaceCodes := by
  have hletter := List.all_eq_true.mp table_searched.2.2 n (List.mem_range'_1.mpr ⟨hlow, hhigh⟩)
  simpa using hletter

/-! ## Characters -/

/-- A character stands for itself, or is a syllable, or is listed. -/
theorem decompose_cases (c : Char) : decompose c = [c] ∨
    (∃ index < 11172, c.toNat = 0xAC00 + index ∧
      decompose c = (hangulParts index).map Char.ofNat) ∨
    ∃ parts, listedDecomposition c.toNat = some parts ∧ decompose c = parts.map Char.ofNat := by
  unfold decompose
  split
  · exact .inl rfl
  · split
    · rename_i hsyllable
      simp only [isHangulSyllable, Bool.and_eq_true, decide_eq_true_eq] at hsyllable
      exact .inr (.inl ⟨c.toNat - 0xAC00, by omega, by omega, rfl⟩)
    · split
      · rename_i parts hlisted
        exact .inr (.inr ⟨parts, hlisted, rfl⟩)
      · exact .inl rfl

theorem decompose_ne_nil (c : Char) : decompose c ≠ [] := by
  rcases decompose_cases c with hself | ⟨index, -, -, hparts⟩ | ⟨parts, hlisted, hparts⟩
  · rw [hself]
    exact List.cons_ne_nil _ _
  · rw [hparts, hangulParts]
    split <;> exact List.cons_ne_nil _ _
  · rw [hparts]
    simpa using listed_ne_nil hlisted

/-- What a code point beyond the table and beyond Hangul makes stands for itself. A number that is
no code point makes the character 0. -/
theorem decompose_ofNat (hplain : isHangulSyllable n = false)
    (hlisted : listedDecomposition n = none) : decompose (.ofNat n) = [.ofNat n] := by
  unfold decompose
  rw [Char.toNat_ofNat]
  split
  · rw [hplain, hlisted, if_neg Bool.false_ne_true]
    exact ite_self _
  · rfl

/-- The characters of a decomposition stand for themselves. -/
theorem decompose_of_mem (h : d ∈ decompose c) : decompose d = [d] := by
  rcases decompose_cases c with hself | ⟨index, hindex, -, hparts⟩ | ⟨parts, hlisted, hparts⟩
  · rw [hself, List.mem_singleton] at h
    rwa [h]
  · rw [hparts] at h
    rcases List.mem_map.mp h with ⟨p, hp, rfl⟩
    have hrange := hangulParts_range hindex hp
    refine decompose_ofNat ?_ (letter_unlisted hrange.1 hrange.2).1
    simp only [isHangulSyllable, Bool.and_eq_false_iff, decide_eq_false_iff_not]
    omega
  · rw [hparts] at h
    rcases List.mem_map.mp h with ⟨p, hp, rfl⟩
    exact decompose_ofNat (part_isSound hlisted hp).1 (part_unlisted hlisted hp)

/-! ## White space -/

/-- White space decomposes to white space, one character each. -/
theorem decompose_whiteSpaceCodes : (whiteSpaceCodes.all fun n =>
    (decompose (.ofNat n)).length == 1 && (decompose (.ofNat n)).all isWhiteSpace) = true := by
  decide +kernel

theorem decompose_whiteSpace (h : isWhiteSpace c = true) :
    ∃ d, decompose c = [d] ∧ isWhiteSpace d = true := by
  have hone := List.all_eq_true.mp decompose_whiteSpaceCodes _ (isWhiteSpace_iff.mp h)
  rw [Char.ofNat_toNat, Bool.and_eq_true, beq_iff_eq, List.length_eq_one_iff] at hone
  rcases hone with ⟨⟨d, hd⟩, hwhite⟩
  rw [hd] at hwhite
  exact ⟨d, hd, by simpa using hwhite⟩

/-- Other characters decompose to other characters. -/
theorem isWhiteSpace_of_mem_decompose (hc : isWhiteSpace c = false) (h : d ∈ decompose c) :
    isWhiteSpace d = false := by
  rw [← Bool.not_eq_true]
  intro hwhite
  rcases decompose_cases c with hself | ⟨index, hindex, -, hparts⟩ | ⟨parts, hlisted, hparts⟩
  · rw [hself, List.mem_singleton] at h
    rw [h, hc] at hwhite
    cases hwhite
  · rw [hparts] at h
    rcases List.mem_map.mp h with ⟨p, hp, rfl⟩
    have hrange := hangulParts_range hindex hp
    exact (letter_unlisted hrange.1 hrange.2).2 (mem_of_isWhiteSpace_ofNat hwhite)
  · rw [hparts] at h
    rcases List.mem_map.mp h with ⟨p, hp, rfl⟩
    have hcode := (part_isSound hlisted hp).2 (mem_of_isWhiteSpace_ofNat hwhite)
    rw [isWhiteSpace_iff.mpr hcode] at hc
    cases hc

end CellSearch.Unicode
