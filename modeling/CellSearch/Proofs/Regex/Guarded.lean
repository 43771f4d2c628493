import Mathlib
import CellSearch.Proofs.Regex.Search
import CellSearch.Proofs.Regex.WholeWord

/-!
# Matches between conditions

A tail that ends in a condition keeps it at its end, whatever is taken before, so that a match of
such a tail ends where the condition holds (`follow_guarded`). A pattern between word boundaries
begins with one as well, and it is tried before anything is taken. Every match of the pattern
therefore begins and ends at a word boundary (`findAll_wholeWord`).
-/

namespace CellSearch.Regex

open CellSearch.Text

variable {l : Look} {p : Place} {r : Regex} {before : Option Char} {rest : List Char}

/-! ## Tails that end in a condition -/

/-- A tail that ends in a condition. -/
def EndsIn (l : Look) (tail : List Regex) : Prop :=
  ∃ front, tail = front ++ [.look l]

/-- A step that ends the match where a condition holds, or leaves the condition for the end. -/
def Step.Guarded (l : Look) (p : Place) : Step → Prop
  | .accept => l.holds p = true
  | .take _ tail => EndsIn l tail

/-- A way through a tail that is put behind others begins with one of theirs or, where one of them
ends, with one of its own. -/
theorem mem_continueWith {more : List Regex} {onEnd : Unit → List Step} {ways : List Step}
    {s : Step} (h : s ∈ continueWith more onEnd ways) :
    Step.accept ∈ ways ∧ s ∈ onEnd () ∨
      ∃ set tail, Step.take set tail ∈ ways ∧ s = .take set (tail ++ more) := by
  induction ways with
  | nil => cases h
  | cons way ways ih =>
    cases way with
    | accept =>
      rcases List.mem_append.mp h with hend | hrest
      · exact Or.inl ⟨List.mem_cons_self .., hend⟩
      · -- the ways behind one that ends keep those that take something
        obtain ⟨way, hway, rfl⟩ := List.mem_map.mp hrest
        obtain ⟨hmem, htake⟩ := List.mem_filter.mp hway
        cases way with
        | accept => cases htake
        | take set tail => exact Or.inr ⟨set, tail, List.mem_cons_of_mem _ hmem, rfl⟩
    | take set tail =>
      rcases List.mem_cons.mp h with rfl | hrest
      · exact Or.inr ⟨set, tail, List.mem_cons_self .., rfl⟩
      · rcases ih hrest with ⟨haccept, hend⟩ | ⟨set', tail', hmem, rfl⟩
        · exact Or.inl ⟨List.mem_cons_of_mem _ haccept, hend⟩
        · exact Or.inr ⟨set', tail', List.mem_cons_of_mem _ hmem, rfl⟩

theorem mem_steps_look {s : Step} (h : s ∈ steps p (.look l)) :
    s = .accept ∧ l.holds p = true := by
  simp only [steps] at h
  split at h
  · rename_i hholds
    exact ⟨List.mem_singleton.mp h, hholds⟩
  · cases h

theorem tailSteps_guarded {tail : List Regex} (htail : EndsIn l tail) {s : Step}
    (h : s ∈ tailSteps p tail) : s.Guarded l p := by
  obtain ⟨front, rfl⟩ := htail
  induction front with
  | nil =>
    rcases mem_continueWith h with ⟨haccept, hend⟩ | ⟨set, tail, htake, -⟩
    · rw [tailSteps, List.mem_singleton] at hend
      rw [hend]
      exact (mem_steps_look haccept).2
    · cases (mem_steps_look htake).1
  | cons r front ih =>
    rcases mem_continueWith h with ⟨-, hend⟩ | ⟨set, tail, -, rfl⟩
    · exact ih hend
    · exact ⟨tail ++ front, (List.append_assoc tail front _).symm⟩

/-! ## Following such tails -/

theorem exists_take_of_mem_advance {live : List Step} {c : Char} {tail : List Regex}
    (h : tail ∈ advance live c) : ∃ set, Step.take set tail ∈ live := by
  obtain ⟨way, hway, htail⟩ := List.mem_filterMap.mp (List.mem_eraseDups.mp h)
  cases way with
  | accept => cases htail
  | take set tail' =>
    simp only at htail
    split at htail
    · cases htail
      exact ⟨set, hway⟩
    · cases htail

/-- Where the preferred thread ends, one of the threads does. -/
theorem best_guarded {ways : List Step} (hways : ∀ s ∈ ways, s.Guarded l p) {used n : Nat}
    {best : Option Nat} (h : (if ways.any Step.isAccept then some used else best) = some n) :
    best = some n ∨ n = used ∧ l.holds p = true := by
  split at h
  · rename_i haccept
    obtain ⟨way, hway, hend⟩ := List.any_eq_true.mp haccept
    cases way with
    | accept => exact Or.inr ⟨(Option.some.inj h).symm, hways _ hway⟩
    | take set tail => cases hend
  · exact Or.inl h

/-- If the threads keep a condition for their end, it holds where the match ends. -/
theorem follow_guarded {threads : List (List Regex)} {used n : Nat} {best : Option Nat}
    (hways : ∀ s ∈ threads.flatMap (tailSteps ⟨before, rest.head?⟩),
      s.Guarded l ⟨before, rest.head?⟩)
    (h : follow threads before rest used best = some n) :
    best = some n ∨ ∃ front back, rest = front ++ back ∧ n = used + byteLength front ∧
      l.holds ⟨front.getLast?.or before, back.head?⟩ = true := by
  induction rest generalizing threads before used best with
  | nil =>
    simp only [follow] at h
    refine (best_guarded hways h).imp_right fun hend => ⟨[], [], rfl, ?_, hend.2⟩
    rw [hend.1, byteLength_nil, Nat.add_zero]
  | cons c rest ih =>
    have hhere : ∀ {best'}, best' = some n ∨ n = used ∧ l.holds ⟨before, some c⟩ = true →
        best' = some n ∨ ∃ front back, c :: rest = front ++ back ∧ n = used + byteLength front ∧
          l.holds ⟨front.getLast?.or before, back.head?⟩ = true := by
      intro best' hbest
      refine hbest.imp_right fun hend => ⟨[], c :: rest, rfl, ?_, hend.2⟩
      rw [hend.1, byteLength_nil, Nat.add_zero]
    rw [follow] at h
    split at h
    · exact hhere (best_guarded hways h)
    · rename_i thread others hadvance
      -- a thread that goes on has the tail of a step before it, which ends in the condition
      have hnext : ∀ s ∈ (thread :: others).flatMap (tailSteps ⟨some c, rest.head?⟩),
          s.Guarded l ⟨some c, rest.head?⟩ := by
        intro s hs
        obtain ⟨tail, htail, hstep⟩ := List.mem_flatMap.mp hs
        rw [← hadvance] at htail
        obtain ⟨set, htake⟩ := exists_take_of_mem_advance htail
        exact tailSteps_guarded (hways _ ((List.takeWhile_sublist _).subset htake)) hstep
      rcases ih hnext h with hbest | ⟨front, back, rfl, hn, hholds⟩
      · exact hhere (best_guarded hways hbest)
      · have hlast : (c :: front).getLast?.or before = front.getLast?.or (some c) := by
          rw [List.getLast?_cons]
          cases front.getLast? <;> rfl
        refine Or.inr ⟨c :: front, back, rfl, ?_, hlast ▸ hholds⟩
        rw [hn, byteLength_cons, Nat.add_assoc]

/-! ## Word boundaries -/

/-- A place of a text with a word character on one side only. -/
def AtWordBoundary (text : List Char) (n : Nat) : Prop :=
  ∃ front back, text = front ++ back ∧ byteLength front = n ∧
    (Look.wordBoundary false).holds ⟨front.getLast?, back.head?⟩ = true

/-- What begins a pattern between word boundaries begins at one, and ends at one. -/
theorem steps_wholeWord {s : Step} (h : s ∈ steps p (wholeWord r)) :
    (Look.wordBoundary false).holds p = true ∧ s.Guarded (.wordBoundary false) p := by
  rcases mem_continueWith h with ⟨haccept, hinner⟩ | ⟨set, tail, htake, -⟩
  · refine ⟨(mem_steps_look haccept).2, ?_⟩
    rcases mem_continueWith hinner with ⟨-, hend⟩ | ⟨set, tail, -, rfl⟩
    · obtain ⟨rfl, hholds⟩ := mem_steps_look hend
      exact hholds
    · exact ⟨tail, rfl⟩
  · cases (mem_steps_look htake).1

theorem tailSteps_wholeWord {s : Step} (h : s ∈ tailSteps p [wholeWord r]) :
    (Look.wordBoundary false).holds p = true ∧ s.Guarded (.wordBoundary false) p := by
  rcases mem_continueWith h with ⟨haccept, hend⟩ | ⟨set, tail, htake, rfl⟩
  · rw [tailSteps, List.mem_singleton] at hend
    rw [hend]
    exact steps_wholeWord haccept
  · rw [List.append_nil]
    exact steps_wholeWord htake

/-- A pattern between word boundaries matches only from one to another. -/
theorem matchLength?_wholeWord {n : Nat} (h : matchLength? (wholeWord r) before rest = some n) :
    (Look.wordBoundary false).holds ⟨before, rest.head?⟩ = true ∧
      ∃ front back, rest = front ++ back ∧ n = byteLength front ∧
        (Look.wordBoundary false).holds ⟨front.getLast?.or before, back.head?⟩ = true := by
  have hways : ∀ s ∈ [[wholeWord r]].flatMap (tailSteps ⟨before, rest.head?⟩),
      s ∈ tailSteps ⟨before, rest.head?⟩ [wholeWord r] := by
    intro s hs
    simpa using hs
  constructor
  · -- where no boundary is there is no way to begin
    by_contra hholds
    have hnone : [[wholeWord r]].flatMap (tailSteps ⟨before, rest.head?⟩) = [] :=
      List.eq_nil_iff_forall_not_mem.mpr fun s hs => hholds (tailSteps_wholeWord (hways s hs)).1
    unfold matchLength? at h
    rw [follow.eq_def] at h
    simp only [hnone] at h
    cases rest <;> cases h
  · rcases follow_guarded (fun s hs => (tailSteps_wholeWord (hways s hs)).2) h with
      hnone | ⟨front, back, happend, hn, hholds⟩
    · cases hnone
    · exact ⟨front, back, happend, by rw [hn, Nat.zero_add], hholds⟩

/-- The matches in the rest of a text. -/
theorem findFrom_wholeWord (done : List Char) {resume : Nat} {span : Interval}
    (h : span ∈ findFrom (wholeWord r) done.getLast? rest (byteLength done) resume) :
    AtWordBoundary (done ++ rest) span.start ∧ AtWordBoundary (done ++ rest) span.stop := by
  induction rest generalizing done resume with
  | nil => cases h
  | cons c rest ih =>
    -- the boundaries are those of the whole text, so that what is done moves along
    have hnext : ∀ {resume},
        span ∈ findFrom (wholeWord r) (some c) rest (byteLength done + c.utf8Size) resume →
        AtWordBoundary (done ++ c :: rest) span.start ∧
          AtWordBoundary (done ++ c :: rest) span.stop := by
      intro resume hmem
      have hspan := ih (done ++ [c]) (by simpa using hmem)
      simpa using hspan
    simp only [findFrom] at h
    split at h
    · exact hnext h
    · split at h
      · rename_i n hmatch
        rcases List.mem_cons.mp h with rfl | h
        · obtain ⟨hstart, front, back, happend, hn, hstop⟩ := matchLength?_wholeWord hmatch
          refine ⟨⟨done, c :: rest, rfl, rfl, hstart⟩, done ++ front, back, ?_, ?_, ?_⟩
          · rw [happend, List.append_assoc]
          · rw [byteLength_append, ← hn]
            rfl
          · rwa [List.getLast?_append]
        · exact hnext h
      · exact hnext h

/-- Every match of a pattern between word boundaries begins and ends at a word boundary. -/
theorem findAll_wholeWord {text : List Char} {span : Interval}
    (h : span ∈ findAll (wholeWord r) text) :
    AtWordBoundary text span.start ∧ AtWordBoundary text span.stop :=
  findFrom_wholeWord [] h

end CellSearch.Regex
