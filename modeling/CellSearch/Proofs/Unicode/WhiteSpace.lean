import Mathlib
import CellSearch.Unicode.Lowercase
import CellSearch.Unicode.WhiteSpace

/-!
# White space in the tables

White space is a short list of code points (`isWhiteSpace_iff`), so that a table can be searched
for it. The search asks for many code points at once: a list of numbers is the bits of one number
(`testBit_bits`), and a number is in the list if its bit is set.

Lower case makes no white space (`isWhiteSpace_of_mem_lowercase`).
-/

namespace CellSearch.Unicode

variable {c d : Char} {n : Nat}

/-! ## Lists of numbers as bits -/

/-- The number whose bits are the numbers of a list. -/
def bits (ns : List Nat) : Nat :=
  ns.foldr (fun n set => 1 <<< n ||| set) 0

theorem testBit_bits (ns : List Nat) (n : Nat) : (bits ns).testBit n = true ↔ n ∈ ns := by
  induction ns with
  | nil => simp [bits]
  | cons k rest ih =>
    show (1 <<< k ||| bits rest).testBit n = true ↔ n ∈ k :: rest
    rw [Nat.testBit_or, Bool.or_eq_true, ih, Nat.one_shiftLeft, Nat.testBit_two_pow,
      decide_eq_true_eq, List.mem_cons]
    exact or_congr_left eq_comm

/-- Lists without a common bit have no common number. -/
theorem not_mem_of_bits {ns ks : List Nat} (h : bits ns &&& bits ks = 0) (hn : n ∈ ns) :
    n ∉ ks := by
  intro hk
  have hbit : (bits ns &&& bits ks).testBit n = true := by
    rw [Nat.testBit_and, (testBit_bits ns n).mpr hn, (testBit_bits ks n).mpr hk]
    rfl
  rw [h, Nat.zero_testBit] at hbit
  cases hbit

/-! ## White space as a list -/

/-- The code points of white space. -/
def whiteSpaceCodes : List Nat :=
  [0x9, 0xA, 0xB, 0xC, 0xD, 0x20, 0x85, 0xA0, 0x1680, 0x2000, 0x2001, 0x2002, 0x2003, 0x2004,
   0x2005, 0x2006, 0x2007, 0x2008, 0x2009, 0x200A, 0x2028, 0x2029, 0x202F, 0x205F, 0x3000]

theorem isWhiteSpace_iff : isWhiteSpace c = true ↔ c.toNat ∈ whiteSpaceCodes := by
  simp only [isWhiteSpace, whiteSpaceCodes, List.mem_cons, List.not_mem_nil, or_false,
    Bool.or_eq_true, Bool.and_eq_true, decide_eq_true_eq, beq_iff_eq]
  omega

/-- A number that is no code point makes the character 0, which is no white space. -/
theorem mem_of_isWhiteSpace_ofNat (h : isWhiteSpace (Char.ofNat n) = true) :
    n ∈ whiteSpaceCodes := by
  have hmem := isWhiteSpace_iff.mp h
  rw [Char.toNat_ofNat] at hmem
  split at hmem
  · exact hmem
  · exact absurd hmem (by decide)

/-! ## Lower case -/

/-- No run of the case mapping reaches white space. -/
theorem lowercaseRuns_apart : (lowercaseRuns.all fun r => whiteSpaceCodes.all fun w =>
    decide ((w : Int) < r.first + r.shift) || decide (r.last + r.shift < (w : Int))) = true := by
  decide +kernel

theorem image_not_mem_whiteSpaceCodes {r : CaseRun} (hr : r ∈ lowercaseRuns)
    (hcovers : r.covers n = true) : r.image n ∉ whiteSpaceCodes := by
  intro hmem
  have hpos : 0 < r.image n := by
    have hall : ∀ w ∈ whiteSpaceCodes, 0 < w := by decide
    exact hall _ hmem
  have hapart := List.all_eq_true.mp (List.all_eq_true.mp lowercaseRuns_apart r hr) _ hmem
  simp only [CaseRun.covers, Bool.and_eq_true, decide_eq_true_eq] at hcovers
  simp only [Bool.or_eq_true, decide_eq_true_eq] at hapart
  unfold CaseRun.image at hapart hpos
  omega

theorem isWhiteSpace_toLower (hascii : c.toNat < 0x80) (hc : isWhiteSpace c = false) :
    isWhiteSpace c.toLower = false := by
  have hall : ∀ n : Fin 0x80, isWhiteSpace (.ofNat n) = false →
      isWhiteSpace (Char.ofNat n).toLower = false := by decide
  have hone := hall ⟨c.toNat, hascii⟩
  rw [Char.ofNat_toNat] at hone
  exact hone hc

/-- Lower case makes no white space. -/
theorem isWhiteSpace_of_mem_lowercase (hc : isWhiteSpace c = false) (hd : d ∈ lowercase c) :
    isWhiteSpace d = false := by
  unfold lowercase at hd
  split at hd
  · rename_i hascii
    rw [List.mem_singleton.mp hd]
    exact isWhiteSpace_toLower hascii hc
  · split at hd
    · -- the capital with a dot above becomes a letter and a mark
      simp only [List.mem_cons, List.not_mem_nil, or_false] at hd
      rcases hd with hd | hd <;> rw [hd] <;> rfl
    · rw [List.mem_singleton.mp hd, ← Bool.not_eq_true]
      intro hwhite
      have hmem := mem_of_isWhiteSpace_ofNat hwhite
      unfold CaseRun.apply at hmem
      split at hmem
      · rename_i r hfind
        have hcovers : r.covers c.toNat = true := by simpa using List.find?_some hfind
        exact image_not_mem_whiteSpaceCodes (List.mem_of_find?_eq_some hfind) hcovers hmem
      · rw [isWhiteSpace_iff.mpr hmem] at hc
        cases hc

end CellSearch.Unicode
