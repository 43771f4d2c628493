import Mathlib
import CellSearch.Proofs.Text.Boundary
import CellSearch.Regex.Search

/-!
# Where a pattern matches

Whatever a pattern says, the search follows the text character by character, so that a match ends
where a character does (`Regex.matchLength?_eq_some`). An empty match is passed over, and what is
left are spans of the text (`Regex.findAll_isSpan`).
-/

namespace CellSearch.Regex

open CellSearch.Text

variable {r : Regex} {before : Option Char} {rest : List Char}

/-- Threads that end at a place have taken nothing of what is behind it. -/
theorem best_eq_some {ends : Prop} [Decidable ends] {used n : Nat} {best : Option Nat}
    (h : (if ends then some used else best) = some n) :
    best = some n ∨ ∃ front back, rest = front ++ back ∧ n = used + byteLength front := by
  split at h
  · exact Or.inr ⟨[], rest, rfl, (Option.some.inj h).symm⟩
  · exact Or.inl h

/-- An answer is the one there was before, or the length of a first part of the text. -/
theorem follow_eq_some {threads : List (List Regex)} {used n : Nat} {best : Option Nat}
    (h : follow threads before rest used best = some n) :
    best = some n ∨ ∃ front back, rest = front ++ back ∧ n = used + byteLength front := by
  induction rest generalizing threads before used best with
  | nil =>
    simp only [follow] at h
    exact best_eq_some h
  | cons c rest ih =>
    rw [follow] at h
    split at h
    · exact best_eq_some h
    · rcases ih h with h | ⟨front, back, rfl, hn⟩
      · exact best_eq_some h
      · exact Or.inr ⟨c :: front, back, rfl, by rw [hn, byteLength_cons, Nat.add_assoc]⟩

theorem matchLength?_eq_some {n : Nat} (h : matchLength? r before rest = some n) :
    ∃ front back, rest = front ++ back ∧ n = byteLength front := by
  rcases follow_eq_some h with hnone | ⟨front, back, happend, hn⟩
  · cases hnone
  · exact ⟨front, back, happend, by simpa using hn⟩

/-- The matches in the rest of a text are spans of the text. -/
theorem findFrom_isSpan (done : List Char) {resume : Nat} {span : Interval}
    (h : span ∈ findFrom r before rest (byteLength done) resume) : IsSpan (done ++ rest) span := by
  induction rest generalizing before done resume with
  | nil => cases h
  | cons c rest ih =>
    have hnext : ∀ {resume}, span ∈ findFrom r (some c) rest (byteLength done + c.utf8Size) resume →
        IsSpan (done ++ c :: rest) span := by
      intro resume hmem
      have hspan := ih (done ++ [c]) (by simpa using hmem)
      simpa using hspan
    simp only [findFrom] at h
    split at h
    · exact hnext h
    · split at h
      · rename_i n hmatch
        rcases List.mem_cons.mp h with rfl | h
        · -- the match took a byte, hence a character
          obtain ⟨front, back, happend, hn⟩ := matchLength?_eq_some hmatch
          have hfront : front ≠ [] := by
            rintro rfl
            cases hn
          have hspan := isSpan_ofLength done hfront back
          rwa [List.append_assoc, ← happend, ← hn] at hspan
        · exact hnext h
      · exact hnext h

/-- The matches of a pattern are spans of the text. -/
theorem findAll_isSpan {text : List Char} {span : Interval} (h : span ∈ findAll r text) :
    IsSpan text span :=
  findFrom_isSpan [] h

end CellSearch.Regex
