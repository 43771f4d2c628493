import Mathlib
import CellSearch.Proofs.Regex.Search

/-!
# What a pattern matches

`Regex.Matches` says which pieces of a text a pattern matches, by the form of the pattern alone:
nothing is said of preference, nor of how a piece is searched for. The ways to begin a pattern are
right for it (`Regex.begin_steps`): a piece is matched if and only if some way takes its first
character, and what is left to match after that matches the rest of the piece.
-/

namespace CellSearch.Regex

mutual

/-- A pattern matches a piece of a text that has one character `before` it and the text `back`
behind it. A round of `again` takes something. -/
inductive Matches : Regex → (before : Option Char) → (taken back : List Char) → Prop where
  | empty {before back} : Matches .empty before [] back
  | set {set c before back} (hc : set.contains c = true) : Matches (.set set) before [c] back
  | look {l before back} (hl : l.holds ⟨before, back.head?⟩ = true) :
      Matches (.look l) before [] back
  | seq {a b before taken back} (h : TailMatches [a, b] before taken back) :
      Matches (.seq a b) before taken back
  | altLeft {a b before taken back} (h : Matches a before taken back) :
      Matches (.alt a b) before taken back
  | altRight {a b before taken back} (h : Matches b before taken back) :
      Matches (.alt a b) before taken back
  | timesZero {r before back} : Matches (.times r 0) before [] back
  | timesSucc {r n before taken back} (h : TailMatches [r, .times r n] before taken back) :
      Matches (.times r (n + 1)) before taken back
  | upToStop {r n greedy before back} : Matches (.upTo r n greedy) before [] back
  | upToRound {r n greedy before taken back}
      (h : TailMatches [r, .upTo r n greedy] before taken back) :
      Matches (.upTo r (n + 1) greedy) before taken back
  | plus {r greedy before taken back} (h : TailMatches [r, .again r greedy] before taken back) :
      Matches (.plus r greedy) before taken back
  | againStop {r greedy before back} : Matches (.again r greedy) before [] back
  | againRound {r greedy before first second back} (hfirst : first ≠ [])
      (hr : Matches r before first (second ++ back))
      (hrest : Matches (.again r greedy) (first.getLast?.or before) second back) :
      Matches (.again r greedy) before (first ++ second) back

/-- The patterns of a tail match the parts of a piece, one behind the other. -/
inductive TailMatches : List Regex → (before : Option Char) → (taken back : List Char) →
    Prop where
  | nil {before back} : TailMatches [] before [] back
  | cons {r rest before first second back} (hr : Matches r before first (second ++ back))
      (hrest : TailMatches rest (first.getLast?.or before) second back) :
      TailMatches (r :: rest) before (first ++ second) back

end

/-- A step takes the first character of a piece, and its tail matches what is left of it. -/
inductive Step.Matches : Step → (taken back : List Char) → Prop where
  | accept {back} : Step.Matches .accept [] back
  | take {set tail c taken back} (hc : set.contains c = true)
      (htail : TailMatches tail (some c) taken back) :
      Step.Matches (.take set tail) (c :: taken) back

/-- Some step of a list is a way to match a piece. -/
def WaysMatch (ways : List Step) (taken back : List Char) : Prop :=
  ∃ s ∈ ways, s.Matches taken back

variable {a b r : Regex} {tail more : List Regex} {ways : List Step} {onEnd : Unit → List Step}
variable {set : CharSet} {l : Look} {p : Place} {before : Option Char} {n : Nat} {greedy : Bool}
variable {taken back : List Char} {c : Char} {s : Step}

/-! ## Forms of a pattern -/

theorem tailMatches_nil_iff : TailMatches [] before taken back ↔ taken = [] := by
  constructor
  · intro h
    cases h
    rfl
  · rintro rfl
    exact .nil

theorem tailMatches_cons_iff : TailMatches (r :: tail) before taken back ↔
    ∃ first second, taken = first ++ second ∧ Matches r before first (second ++ back) ∧
      TailMatches tail (first.getLast?.or before) second back := by
  constructor
  · intro h
    cases h with
    | cons hr hrest => exact ⟨_, _, rfl, hr, hrest⟩
  · rintro ⟨first, second, rfl, hr, hrest⟩
    exact .cons hr hrest

theorem tailMatches_singleton_iff :
    TailMatches [r] before taken back ↔ Matches r before taken back := by
  rw [tailMatches_cons_iff]
  constructor
  · rintro ⟨first, second, rfl, hr, hrest⟩
    rw [tailMatches_nil_iff] at hrest
    subst hrest
    simpa using hr
  · intro hr
    exact ⟨taken, [], by simp, hr, .nil⟩

theorem matches_empty_iff : Matches .empty before taken back ↔ taken = [] := by
  constructor
  · intro h
    cases h
    rfl
  · rintro rfl
    exact .empty

theorem matches_set_iff :
    Matches (.set set) before taken back ↔ ∃ c, taken = [c] ∧ set.contains c = true := by
  constructor
  · intro h
    cases h with
    | set hc => exact ⟨_, rfl, hc⟩
  · rintro ⟨c, rfl, hc⟩
    exact .set hc

theorem matches_look_iff :
    Matches (.look l) before taken back ↔ taken = [] ∧ l.holds ⟨before, back.head?⟩ = true := by
  constructor
  · intro h
    cases h with
    | look hl => exact ⟨rfl, hl⟩
  · rintro ⟨rfl, hl⟩
    exact .look hl

theorem matches_seq_iff :
    Matches (.seq a b) before taken back ↔ TailMatches [a, b] before taken back := by
  constructor
  · intro h
    cases h with
    | seq h => exact h
  · exact .seq

theorem matches_alt_iff : Matches (.alt a b) before taken back ↔
    Matches a before taken back ∨ Matches b before taken back := by
  constructor
  · intro h
    cases h with
    | altLeft h => exact Or.inl h
    | altRight h => exact Or.inr h
  · rintro (h | h)
    · exact .altLeft h
    · exact .altRight h

theorem matches_times_zero_iff : Matches (.times r 0) before taken back ↔ taken = [] := by
  constructor
  · intro h
    cases h
    rfl
  · rintro rfl
    exact .timesZero

theorem matches_times_succ_iff : Matches (.times r (n + 1)) before taken back ↔
    TailMatches [r, .times r n] before taken back := by
  constructor
  · intro h
    cases h with
    | timesSucc h => exact h
  · exact .timesSucc

theorem matches_upTo_zero_iff : Matches (.upTo r 0 greedy) before taken back ↔ taken = [] := by
  constructor
  · intro h
    cases h
    rfl
  · rintro rfl
    exact .upToStop

theorem matches_upTo_succ_iff : Matches (.upTo r (n + 1) greedy) before taken back ↔
    taken = [] ∨ TailMatches [r, .upTo r n greedy] before taken back := by
  constructor
  · intro h
    cases h with
    | upToStop => exact Or.inl rfl
    | upToRound h => exact Or.inr h
  · rintro (rfl | h)
    · exact .upToStop
    · exact .upToRound h

theorem matches_again_iff : Matches (.again r greedy) before taken back ↔
    taken = [] ∨ ∃ first second, taken = first ++ second ∧ first ≠ [] ∧
      Matches r before first (second ++ back) ∧
      TailMatches [.again r greedy] (first.getLast?.or before) second back := by
  constructor
  · intro h
    cases h with
    | againStop => exact Or.inl rfl
    | againRound hfirst hr hrest =>
      exact Or.inr ⟨_, _, rfl, hfirst, hr, tailMatches_singleton_iff.mpr hrest⟩
  · rintro (rfl | ⟨first, second, rfl, hfirst, hr, hrest⟩)
    · exact .againStop
    · exact .againRound hfirst hr (tailMatches_singleton_iff.mp hrest)

/-- The first round of a repetition may take nothing, and then it is the only one. -/
theorem matches_plus_iff : Matches (.plus r greedy) before taken back ↔
    taken = [] ∧ Matches r before [] back ∨ ∃ first second, taken = first ++ second ∧ first ≠ [] ∧
      Matches r before first (second ++ back) ∧
      TailMatches [.again r greedy] (first.getLast?.or before) second back := by
  constructor
  · intro h
    cases h with
    | plus h =>
      rcases tailMatches_cons_iff.mp h with ⟨first, second, rfl, hr, hrest⟩
      by_cases hfirst : first = []
      · -- the rounds behind an empty one stand where it stands
        subst hfirst
        rw [tailMatches_singleton_iff, matches_again_iff] at hrest
        rcases hrest with rfl | hround
        · exact Or.inl ⟨rfl, hr⟩
        · exact Or.inr hround
      · exact Or.inr ⟨first, second, rfl, hfirst, hr, hrest⟩
  · rintro (⟨rfl, hr⟩ | ⟨first, second, rfl, -, hr, hrest⟩)
    · have htail : TailMatches [r, .again r greedy] before ([] ++ []) back :=
        .cons hr (tailMatches_singleton_iff.mpr .againStop)
      exact .plus htail
    · exact .plus (.cons hr hrest)

/-- A concatenation matches what its parts match one behind the other. -/
theorem matches_concat_iff {parts : List Regex} :
    Matches (.concat parts) before taken back ↔ TailMatches parts before taken back := by
  induction parts generalizing before taken with
  | nil => rw [concat, matches_empty_iff, tailMatches_nil_iff]
  | cons r parts ih =>
    cases parts with
    | nil => exact tailMatches_singleton_iff.symm
    | cons r' parts =>
      rw [concat, matches_seq_iff, tailMatches_cons_iff, tailMatches_cons_iff]
      · simp only [tailMatches_singleton_iff, ih]
      · exact List.cons_ne_nil _ _

/-- More rounds of a set take any characters of it. -/
theorem matches_again_set_iff : Matches (.again (.set set) greedy) before taken back ↔
    ∀ c ∈ taken, set.contains c = true := by
  induction taken generalizing before with
  | nil => simp [matches_again_iff]
  | cons c taken ih =>
    rw [matches_again_iff, List.forall_mem_cons]
    constructor
    · rintro (hnil | ⟨first, second, htaken, -, hr, hrest⟩)
      · cases hnil
      · rcases matches_set_iff.mp hr with ⟨d, rfl, hd⟩
        cases htaken
        exact ⟨hd, ih.mp (tailMatches_singleton_iff.mp hrest)⟩
    · rintro ⟨hc, htaken⟩
      refine Or.inr ⟨[c], taken, rfl, List.cons_ne_nil _ _, .set hc, ?_⟩
      exact tailMatches_singleton_iff.mpr (ih.mpr htaken)

theorem matches_star_set_iff : Matches (.star (.set set) true) before taken back ↔
    ∀ c ∈ taken, set.contains c = true := by
  rw [star, if_pos rfl, matches_alt_iff, matches_empty_iff, matches_plus_iff, matches_set_iff,
    ← @matches_again_set_iff set before true taken back, matches_again_iff]
  constructor
  · rintro ((⟨htaken, -⟩ | hround) | htaken)
    · exact Or.inl htaken
    · exact Or.inr hround
    · exact Or.inl htaken
  · rintro (htaken | hround)
    · exact Or.inr htaken
    · exact Or.inl (Or.inr hround)

/-! ## Tails one behind the other -/

theorem getLast?_append_or (first second : List Char) (before : Option Char) :
    (first ++ second).getLast?.or before = second.getLast?.or (first.getLast?.or before) := by
  rw [List.getLast?_append, Option.or_assoc]

theorem getLast?_cons_or (c : Char) (cs : List Char) (before : Option Char) :
    (c :: cs).getLast?.or before = cs.getLast?.or (some c) := by
  rw [List.getLast?_cons]
  cases cs.getLast? <;> rfl

theorem tailMatches_append_iff : TailMatches (tail ++ more) before taken back ↔
    ∃ first second, taken = first ++ second ∧ TailMatches tail before first (second ++ back) ∧
      TailMatches more (first.getLast?.or before) second back := by
  induction tail generalizing before taken with
  | nil =>
    constructor
    · intro h
      exact ⟨[], taken, rfl, .nil, h⟩
    · rintro ⟨first, second, rfl, hnil, hmore⟩
      rw [tailMatches_nil_iff] at hnil
      subst hnil
      exact hmore
  | cons r tail ih =>
    constructor
    · intro h
      rcases tailMatches_cons_iff.mp h with ⟨first, second, rfl, hr, hrest⟩
      rcases ih.mp hrest with ⟨mid, last, rfl, htail, hmore⟩
      refine ⟨first ++ mid, last, (List.append_assoc ..).symm, .cons ?_ htail, ?_⟩
      · rwa [List.append_assoc] at hr
      · rwa [getLast?_append_or]
    · rintro ⟨taken, last, rfl, htail, hmore⟩
      rcases tailMatches_cons_iff.mp htail with ⟨first, mid, rfl, hr, hrest⟩
      rw [getLast?_append_or] at hmore
      rw [List.append_assoc]
      refine .cons ?_ (ih.mpr ⟨mid, last, rfl, hrest, hmore⟩)
      rwa [List.append_assoc]

/-! ## Lists of steps -/

/-- The steps that take something, with more to match after each. -/
def onward (more : List Regex) (ways : List Step) : List Step :=
  (withoutAccept ways).map (Step.andThen more)

theorem step_matches_nil_iff : s.Matches [] back ↔ s = .accept := by
  constructor
  · intro h
    cases h
    rfl
  · rintro rfl
    exact .accept

theorem waysMatch_nil_iff : WaysMatch ways [] back ↔ Step.accept ∈ ways := by
  simp only [WaysMatch, step_matches_nil_iff, exists_eq_right]

theorem waysMatch_accept_iff (taken back : List Char) :
    WaysMatch [.accept] taken back ↔ taken = [] := by
  simp only [WaysMatch, List.mem_singleton, exists_eq_left]
  constructor
  · intro h
    cases h
    rfl
  · rintro rfl
    exact .accept

theorem waysMatch_append_iff {others : List Step} : WaysMatch (ways ++ others) taken back ↔
    WaysMatch ways taken back ∨ WaysMatch others taken back := by
  simp only [WaysMatch, List.mem_append, or_and_right, exists_or]

theorem mem_onward_iff : s ∈ onward more ways ↔
    ∃ set tail, Step.take set tail ∈ ways ∧ s = .take set (tail ++ more) := by
  simp only [onward, withoutAccept, List.mem_map, List.mem_filter]
  constructor
  · rintro ⟨s, ⟨hs, htake⟩, rfl⟩
    cases s with
    | accept => cases htake
    | take set tail => exact ⟨set, tail, hs, rfl⟩
  · rintro ⟨set, tail, hs, rfl⟩
    exact ⟨.take set tail, ⟨hs, rfl⟩, rfl⟩

/-- To go on after a step that takes something is to match a piece in two parts, of which the first
is not empty. -/
theorem waysMatch_onward_iff : WaysMatch (onward more ways) taken back ↔
    ∃ first second, taken = first ++ second ∧ first ≠ [] ∧
      WaysMatch ways first (second ++ back) ∧
      TailMatches more (first.getLast?.or before) second back := by
  constructor
  · rintro ⟨s, hs, hmatch⟩
    rcases mem_onward_iff.mp hs with ⟨set, tail, htake, rfl⟩
    cases hmatch with
    | @take _ _ c taken _ hc htail =>
      rcases tailMatches_append_iff.mp htail with ⟨first, second, rfl, htail, hmore⟩
      refine ⟨c :: first, second, rfl, List.cons_ne_nil _ _, ⟨_, htake, .take hc htail⟩, ?_⟩
      rwa [getLast?_cons_or]
  · rintro ⟨first, second, rfl, hfirst, ⟨s, hs, hmatch⟩, hmore⟩
    cases hmatch with
    | accept => exact absurd rfl hfirst
    | @take set tail c first _ hc htail =>
      refine ⟨.take set (tail ++ more), mem_onward_iff.mpr ⟨set, tail, hs, rfl⟩, ?_⟩
      refine .take hc (tailMatches_append_iff.mpr ⟨first, second, rfl, htail, ?_⟩)
      rwa [getLast?_cons_or] at hmore

theorem mem_continueWith_iff : s ∈ continueWith more onEnd ways ↔
    Step.accept ∈ ways ∧ s ∈ onEnd () ∨ s ∈ onward more ways := by
  induction ways with
  | nil => simp [continueWith, onward, withoutAccept]
  | cons way ways ih =>
    cases way with
    | accept =>
      have honward : onward more (.accept :: ways) = onward more ways := rfl
      rw [honward]
      simp only [continueWith, List.mem_append, List.mem_cons_self, true_and, onward]
    | take set tail =>
      have honward : onward more (.take set tail :: ways) =
          .take set (tail ++ more) :: onward more ways := rfl
      have hother : Step.accept ∈ Step.take set tail :: ways ↔ Step.accept ∈ ways := by
        simp
      rw [honward, hother, continueWith, List.mem_cons, List.mem_cons, ih]
      exact or_left_comm

/-- To go on after a step, or where a way ends the match. -/
theorem waysMatch_continueWith_iff : WaysMatch (continueWith more onEnd ways) taken back ↔
    Step.accept ∈ ways ∧ WaysMatch (onEnd ()) taken back ∨
      WaysMatch (onward more ways) taken back := by
  simp only [WaysMatch, mem_continueWith_iff, or_and_right, exists_or, and_assoc,
    exists_and_left]

theorem waysMatch_map_andThen_iff : WaysMatch (ways.map (Step.andThen more)) taken back ↔
    taken = [] ∧ Step.accept ∈ ways ∨ WaysMatch (onward more ways) taken back := by
  have hmem : ∀ s, s ∈ ways.map (Step.andThen more) ↔
      Step.accept ∈ ways ∧ s ∈ [Step.accept] ∨ s ∈ onward more ways := by
    intro s
    rw [mem_onward_iff, List.mem_singleton, List.mem_map]
    constructor
    · rintro ⟨way, hway, rfl⟩
      cases way with
      | accept => exact Or.inl ⟨hway, rfl⟩
      | take set tail => exact Or.inr ⟨set, tail, hway, rfl⟩
    · rintro (⟨hend, rfl⟩ | ⟨set, tail, htake, rfl⟩)
      · exact ⟨.accept, hend, rfl⟩
      · exact ⟨.take set tail, htake, rfl⟩
  rw [← waysMatch_accept_iff taken back, and_comm]
  simp only [WaysMatch, hmem, or_and_right, exists_or, and_assoc, exists_and_left]

theorem mem_orElse_iff {others : List Step} :
    s ∈ orElse ways others ↔ s ∈ ways ∨ s ∈ others := by
  unfold orElse
  split
  · -- the ways to end the match that are left out are there already
    rename_i haccept
    have hmem : Step.accept ∈ ways := by
      rcases List.any_eq_true.mp haccept with ⟨way, hway, hend⟩
      cases way with
      | accept => exact hway
      | take set tail => cases hend
    simp only [List.mem_append, withoutAccept, List.mem_filter]
    constructor
    · rintro (h | h)
      · exact Or.inl h
      · exact Or.inr h.1
    · rintro (h | h)
      · exact Or.inl h
      · cases s with
        | accept => exact Or.inl hmem
        | take set tail => exact Or.inr ⟨h, rfl⟩
  · exact List.mem_append

theorem waysMatch_orElse_iff {others : List Step} : WaysMatch (orElse ways others) taken back ↔
    WaysMatch ways taken back ∨ WaysMatch others taken back := by
  simp only [WaysMatch, mem_orElse_iff, or_and_right, exists_or]

/-! ## The ways to begin a pattern -/

/-- The steps are the ways to begin a tail before a text: they match the same first pieces of it as
the tail does. -/
def Begin (ways : List Step) (tail : List Regex) (before : Option Char) (text : List Char) : Prop :=
  ∀ taken back, text = taken ++ back →
    (WaysMatch ways taken back ↔ TailMatches tail before taken back)

variable {text : List Char}

theorem begin_nil : Begin [.accept] [] before text := by
  intro taken back _
  rw [waysMatch_accept_iff, tailMatches_nil_iff]

/-- The steps that take something begin the pieces of which the first part is not empty. -/
theorem Begin.onward_iff (h : Begin ways [r] before text) (htext : text = taken ++ back) :
    WaysMatch (onward more ways) taken back ↔
      ∃ first second, taken = first ++ second ∧ first ≠ [] ∧
        Matches r before first (second ++ back) ∧
        TailMatches more (first.getLast?.or before) second back := by
  rw [waysMatch_onward_iff]
  refine exists_congr fun first => exists_congr fun second => and_congr_right fun htaken => ?_
  rw [h first (second ++ back) (by rw [htext, htaken, List.append_assoc]),
    tailMatches_singleton_iff]

theorem Begin.accept_mem_iff (h : Begin ways [r] before text) :
    Step.accept ∈ ways ↔ Matches r before [] text := by
  rw [← tailMatches_singleton_iff, ← h [] text rfl, waysMatch_nil_iff]

theorem begin_continueWith (hr : Begin ways [r] before text)
    (hmore : Begin (onEnd ()) more before text) :
    Begin (continueWith more onEnd ways) (r :: more) before text := by
  intro taken back htext
  rw [waysMatch_continueWith_iff, hr.onward_iff htext, hr.accept_mem_iff,
    hmore taken back htext, tailMatches_cons_iff]
  constructor
  · rintro (⟨hend, hrest⟩ | ⟨first, second, htaken, -, hfirst, hrest⟩)
    · exact ⟨[], taken, rfl, by rwa [← htext], hrest⟩
    · exact ⟨first, second, htaken, hfirst, hrest⟩
  · rintro ⟨first, second, rfl, hfirst, hrest⟩
    by_cases hnil : first = []
    · subst hnil
      rw [htext]
      exact Or.inl ⟨hfirst, hrest⟩
    · exact Or.inr ⟨first, second, rfl, hnil, hfirst, hrest⟩

/-- A pattern in one form is begun like a tail that matches the same. -/
theorem Begin.congr (h : Begin ways tail before text)
    (hsame : ∀ taken back, Matches r before taken back ↔ TailMatches tail before taken back) :
    Begin ways [r] before text := by
  intro taken back htext
  rw [h taken back htext, tailMatches_singleton_iff, hsame]

theorem begin_steps (r : Regex) (before : Option Char) (text : List Char) :
    Begin (steps ⟨before, text.head?⟩ r) [r] before text := by
  induction r with
  | empty =>
    apply begin_nil.congr
    intro taken back
    rw [matches_empty_iff, tailMatches_nil_iff]
  | set set =>
    intro taken back _
    rw [tailMatches_singleton_iff, matches_set_iff]
    simp only [WaysMatch, steps, List.mem_singleton, exists_eq_left]
    constructor
    · intro h
      cases h with
      | take hc htail =>
        rw [tailMatches_nil_iff] at htail
        subst htail
        exact ⟨_, rfl, hc⟩
    · rintro ⟨c, rfl, hc⟩
      exact .take hc .nil
  | look l =>
    intro taken back htext
    rw [tailMatches_singleton_iff, matches_look_iff, steps]
    split
    · rename_i hl
      rw [waysMatch_accept_iff]
      constructor
      · rintro rfl
        rw [htext, List.nil_append] at hl
        exact ⟨rfl, hl⟩
      · exact And.left
    · rename_i hl
      constructor
      · rintro ⟨s, hs, -⟩
        cases hs
      · rintro ⟨rfl, hholds⟩
        rw [htext, List.nil_append] at hl
        exact absurd hholds hl
  | seq a b iha ihb =>
    apply (begin_continueWith iha ihb).congr
    intro taken back
    exact matches_seq_iff
  | alt a b iha ihb =>
    intro taken back htext
    rw [steps, waysMatch_orElse_iff, iha taken back htext, ihb taken back htext,
      tailMatches_singleton_iff, tailMatches_singleton_iff, tailMatches_singleton_iff,
      matches_alt_iff]
  | times r n ih =>
    -- the rounds that are left are begun where the first one takes nothing
    induction n with
    | zero =>
      apply begin_nil.congr
      intro taken back
      rw [matches_times_zero_iff, tailMatches_nil_iff]
    | succ n ihn =>
      apply (begin_continueWith ih ihn).congr
      intro taken back
      exact matches_times_succ_iff
  | upTo r n greedy ih =>
    induction n with
    | zero =>
      apply begin_nil.congr
      intro taken back
      rw [matches_upTo_zero_iff, tailMatches_nil_iff]
    | succ n ihn =>
      intro taken back htext
      have hround : Begin (continueWith [.upTo r n greedy]
          (fun _ => upToSteps r greedy (steps ⟨before, text.head?⟩ r) n)
          (steps ⟨before, text.head?⟩ r)) [r, .upTo r n greedy] before text :=
        begin_continueWith ih ihn
      rw [tailMatches_singleton_iff, matches_upTo_succ_iff, ← hround taken back htext,
        ← waysMatch_accept_iff taken back, steps, upToSteps]
      split
      · rw [waysMatch_orElse_iff, or_comm]
      · rw [waysMatch_orElse_iff]
  | plus r greedy ih =>
    intro taken back htext
    rw [tailMatches_singleton_iff, matches_plus_iff, ← ih.onward_iff htext, steps,
      waysMatch_map_andThen_iff]
    refine or_congr_left (and_congr_right fun htaken => ?_)
    rw [ih.accept_mem_iff, htext, htaken, List.nil_append]
  | again r greedy ih =>
    intro taken back htext
    rw [tailMatches_singleton_iff, matches_again_iff, ← ih.onward_iff htext,
      ← waysMatch_accept_iff taken back, steps]
    split
    · rw [waysMatch_append_iff, or_comm]
      rfl
    · rw [← List.singleton_append, waysMatch_append_iff]
      rfl

/-- The ways to begin a tail match what the tail matches. -/
theorem begin_tailSteps (tail : List Regex) (before : Option Char) (text : List Char) :
    Begin (tailSteps ⟨before, text.head?⟩ tail) tail before text := by
  induction tail with
  | nil => exact begin_nil
  | cons r tail ih => exact begin_continueWith (begin_steps r before text) ih

end CellSearch.Regex
