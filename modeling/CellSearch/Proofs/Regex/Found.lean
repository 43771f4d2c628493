import Mathlib
import CellSearch.Proofs.Regex.Matches

/-!
# What a search finds

The search for a pattern finds pieces that the pattern matches (`Regex.matches_of_mem_findAll`), and
at a place where the pattern matches anything it finds something (`Regex.matchLength?_isSome_iff`).
What is found there can be empty although the pattern matches more, since the ways to begin a
pattern have an order. A pattern that ends the match only where nothing else can be done
(`Regex.Eager`) takes something if it can, and is found in a text if and only if it matches a piece
that is not empty (`Regex.findAll_ne_nil_iff`).
-/

namespace CellSearch.Regex

open CellSearch.Text

variable {r : Regex} {tail more thread : List Regex} {threads : List (List Regex)}
variable {live ways : List Step} {before : Option Char} {rest taken back text : List Char}
variable {c : Char} {used n : Nat} {best : Option Nat} {span : Interval}

/-! ## Threads -/

theorem mem_advance_iff : tail ∈ advance live c ↔
    ∃ set, Step.take set tail ∈ live ∧ set.contains c = true := by
  simp only [advance, List.mem_eraseDups, List.mem_filterMap]
  constructor
  · rintro ⟨way, hway, htail⟩
    cases way with
    | accept => cases htail
    | take set tail' =>
      simp only at htail
      split at htail
      · rename_i hc
        cases htail
        exact ⟨set, hway, hc⟩
      · cases htail
  · rintro ⟨set, hway, hc⟩
    exact ⟨.take set tail, hway, by simp only [hc, if_true]⟩

theorem any_isAccept_iff : ways.any Step.isAccept = true ↔ Step.accept ∈ ways := by
  rw [List.any_eq_true]
  constructor
  · rintro ⟨way, hway, hend⟩
    cases way with
    | accept => exact hway
    | take set tail => cases hend
  · intro h
    exact ⟨.accept, h, rfl⟩

/-- Some thread matches a piece of the text. -/
def SomeMatch (threads : List (List Regex)) (before : Option Char) (taken back : List Char) :
    Prop :=
  ∃ thread ∈ threads, TailMatches thread before taken back

/-- The ways to go on with the threads, in their order. -/
def threadWays (threads : List (List Regex)) (before : Option Char) (rest : List Char) :
    List Step :=
  threads.flatMap (tailSteps ⟨before, rest.head?⟩)

/-- The ways before the first that ends the match. -/
def liveWays (ways : List Step) : List Step :=
  ways.takeWhile fun s => !s.isAccept

theorem waysMatch_threadWays_iff : WaysMatch (threadWays threads before (taken ++ back)) taken back ↔
    SomeMatch threads before taken back := by
  have hbegin : ∀ thread,
      WaysMatch (tailSteps ⟨before, (taken ++ back).head?⟩ thread) taken back ↔
        TailMatches thread before taken back := by
    intro thread
    exact begin_tailSteps thread before (taken ++ back) taken back rfl
  simp only [SomeMatch, ← hbegin, WaysMatch, threadWays, List.mem_flatMap]
  constructor
  · rintro ⟨s, ⟨thread, hthread, hs⟩, hmatch⟩
    exact ⟨thread, hthread, s, hs, hmatch⟩
  · rintro ⟨thread, hthread, s, hs, hmatch⟩
    exact ⟨s, ⟨thread, hthread, hs⟩, hmatch⟩

theorem accept_mem_threadWays_iff :
    Step.accept ∈ threadWays threads before rest ↔ SomeMatch threads before [] rest := by
  have hways := @waysMatch_threadWays_iff threads before [] rest
  rw [← hways, List.nil_append, waysMatch_nil_iff]

/-- What is left of the ways after one character matches what they match behind it. -/
theorem waysMatch_cons_iff :
    WaysMatch ways (c :: taken) back ↔ SomeMatch (advance ways c) (some c) taken back := by
  simp only [WaysMatch, SomeMatch, mem_advance_iff]
  constructor
  · rintro ⟨s, hs, hmatch⟩
    cases hmatch with
    | take hc htail => exact ⟨_, ⟨_, hs, hc⟩, htail⟩
  · rintro ⟨tail, ⟨set, hs, hc⟩, htail⟩
    exact ⟨_, hs, .take hc htail⟩

theorem WaysMatch.of_live (h : WaysMatch (liveWays ways) taken back) :
    WaysMatch ways taken back := by
  rcases h with ⟨s, hs, hmatch⟩
  exact ⟨s, (List.takeWhile_sublist _).subset hs, hmatch⟩

/-- Ways that do not end the match are all live, and so may be those behind them. -/
theorem liveWays_append {takes : List Step} (h : Step.accept ∉ takes) (ways : List Step) :
    liveWays (takes ++ ways) = takes ++ liveWays ways := by
  apply List.takeWhile_append_of_pos
  intro s hs
  cases s with
  | accept => exact absurd hs h
  | take set tail => rfl

theorem liveWays_eq_self (h : Step.accept ∉ ways) : liveWays ways = ways := by
  have happend := liveWays_append h []
  simpa [liveWays] using happend

/-! ## Following the threads -/

/-- The length of the preferred match so far: the text taken, if a thread ends here. -/
def bestHere (ways : List Step) (used : Nat) (best : Option Nat) : Option Nat :=
  if ways.any Step.isAccept then some used else best

theorem follow_nil : follow threads before [] used best =
    bestHere (threadWays threads before []) used best :=
  rfl

theorem follow_of_no_thread : follow [] before rest used best = best := by
  cases rest <;> rfl

theorem follow_cons : follow threads before (c :: rest) used best =
    follow (advance (liveWays (threadWays threads before (c :: rest))) c) (some c) rest
      (used + c.utf8Size) (bestHere (threadWays threads before (c :: rest)) used best) := by
  rw [follow]
  split
  · rename_i hnone
    have hadvance : advance (liveWays (threadWays threads before (c :: rest))) c = [] := hnone
    rw [hadvance, follow_of_no_thread]
    rfl
  · rename_i thread others hsome
    have hadvance : advance (liveWays (threadWays threads before (c :: rest))) c =
        thread :: others := hsome
    rw [hadvance]
    rfl

/-- A thread that ends here matches an empty piece. -/
theorem someMatch_of_bestHere
    (h : bestHere (threadWays threads before rest) used best = some n) :
    best = some n ∨ ∃ taken back, rest = taken ++ back ∧ n = used + byteLength taken ∧
      SomeMatch threads before taken back := by
  unfold bestHere at h
  split at h
  · rename_i hend
    rw [any_isAccept_iff, accept_mem_threadWays_iff] at hend
    exact Or.inr ⟨[], rest, rfl, (Option.some.inj h).symm, hend⟩
  · exact Or.inl h

/-- What is found is what was found before, or the length of a piece that a thread matches. -/
theorem someMatch_of_follow (h : follow threads before rest used best = some n) :
    best = some n ∨ ∃ taken back, rest = taken ++ back ∧ n = used + byteLength taken ∧
      SomeMatch threads before taken back := by
  induction rest generalizing threads before used best with
  | nil =>
    rw [follow_nil] at h
    exact someMatch_of_bestHere h
  | cons c rest ih =>
    rw [follow_cons] at h
    rcases ih h with hbest | ⟨taken, back, rfl, hn, hmatch⟩
    · exact someMatch_of_bestHere hbest
    · -- a thread that is left after the character comes from one before it
      have hways := (waysMatch_cons_iff.mpr hmatch).of_live
      refine Or.inr ⟨c :: taken, back, rfl, ?_, waysMatch_threadWays_iff.mp hways⟩
      rw [hn, byteLength_cons, Nat.add_assoc]

theorem exists_bestHere (ways : List Step) {m : Nat} (hm : m ≤ used) :
    ∃ m', m ≤ m' ∧ m' ≤ used ∧ bestHere ways used (some m) = some m' := by
  unfold bestHere
  split
  · exact ⟨used, hm, le_refl used, rfl⟩
  · exact ⟨m, le_refl m, hm, rfl⟩

/-- What has been found is given up only for something longer. -/
theorem exists_follow_of_best {m : Nat} (hm : m ≤ used) :
    ∃ n, m ≤ n ∧ follow threads before rest used (some m) = some n := by
  induction rest generalizing threads before used m with
  | nil =>
    rcases exists_bestHere (threadWays threads before []) hm with ⟨m', hle, -, hbest⟩
    rw [follow_nil]
    exact ⟨m', hle, hbest⟩
  | cons c rest ih =>
    rcases exists_bestHere (threadWays threads before (c :: rest)) hm with
      ⟨m', hle, hused, hbest⟩
    rw [follow_cons, hbest]
    have hused' : m' ≤ used + c.utf8Size := le_trans hused (Nat.le_add_right _ _)
    rcases ih hused' with ⟨n, hn, hfollow⟩
    exact ⟨n, le_trans hle hn, hfollow⟩

/-- Where a thread ends, something is found. -/
theorem exists_follow_of_accept (hend : Step.accept ∈ threadWays threads before rest) :
    ∃ n, used ≤ n ∧ follow threads before rest used best = some n := by
  have hbest : bestHere (threadWays threads before rest) used best = some used :=
    if_pos (any_isAccept_iff.mpr hend)
  cases rest with
  | nil =>
    rw [follow_nil]
    exact ⟨used, le_refl used, hbest⟩
  | cons c rest =>
    rw [follow_cons, hbest]
    exact exists_follow_of_best (Nat.le_add_right _ _)

/-- If a thread matches a first piece of the text, something is found. It need not be that piece:
the search drops the threads behind one that ends. -/
theorem exists_follow (h : SomeMatch threads before taken back) :
    ∃ n, used ≤ n ∧ follow threads before (taken ++ back) used best = some n := by
  induction taken generalizing threads before used best with
  | nil => exact exists_follow_of_accept (accept_mem_threadWays_iff.mpr h)
  | cons c taken ih =>
    by_cases hend : Step.accept ∈ threadWays threads before (c :: taken ++ back)
    · exact exists_follow_of_accept hend
    · -- no thread ends here, and so none is dropped
      have hways := waysMatch_threadWays_iff.mpr h
      rw [← liveWays_eq_self hend] at hways
      rcases ih (waysMatch_cons_iff.mp hways) with ⟨n, hn, hfollow⟩
      rw [List.cons_append, follow_cons]
      exact ⟨n, le_trans (Nat.le_add_right used c.utf8Size) hn, hfollow⟩

/-! ## One place -/

theorem someMatch_singleton_iff : SomeMatch [[r]] before taken back ↔
    Matches r before taken back := by
  simp only [SomeMatch, List.mem_singleton, exists_eq_left, tailMatches_singleton_iff]

/-- The preferred match of a pattern is a piece that it matches. -/
theorem matches_of_matchLength? (h : matchLength? r before rest = some n) :
    ∃ taken back, rest = taken ++ back ∧ n = byteLength taken ∧ Matches r before taken back := by
  rcases someMatch_of_follow h with hnone | ⟨taken, back, hrest, hn, hmatch⟩
  · cases hnone
  · exact ⟨taken, back, hrest, by simpa using hn, someMatch_singleton_iff.mp hmatch⟩

/-- There is a preferred match exactly where the pattern matches anything. -/
theorem matchLength?_isSome_iff : (matchLength? r before rest).isSome = true ↔
    ∃ taken back, rest = taken ++ back ∧ Matches r before taken back := by
  constructor
  · intro h
    rcases Option.isSome_iff_exists.mp h with ⟨n, hn⟩
    rcases matches_of_matchLength? hn with ⟨taken, back, hrest, -, hmatch⟩
    exact ⟨taken, back, hrest, hmatch⟩
  · rintro ⟨taken, back, rfl, hmatch⟩
    have hfollow : ∃ n, 0 ≤ n ∧ follow [[r]] before (taken ++ back) 0 none = some n :=
      exists_follow (someMatch_singleton_iff.mpr hmatch)
    rcases hfollow with ⟨n, -, hn⟩
    rw [matchLength?, hn]
    rfl

/-! ## The whole text -/

/-- Every match that is found is a piece that the pattern matches. -/
theorem matches_of_mem_findFrom (done : List Char) {resume : Nat}
    (h : span ∈ findFrom r done.getLast? rest (byteLength done) resume) :
    ∃ front taken back, done ++ rest = front ++ taken ++ back ∧ taken ≠ [] ∧
      span = .ofLength (byteLength front) (byteLength taken) ∧
      Matches r front.getLast? taken back := by
  induction rest generalizing done resume with
  | nil => cases h
  | cons c rest ih =>
    -- wherever the search goes on, it does so behind this character
    have hnext : ∀ {resume},
        span ∈ findFrom r (some c) rest (byteLength done + c.utf8Size) resume →
        ∃ front taken back, done ++ c :: rest = front ++ taken ++ back ∧ taken ≠ [] ∧
          span = .ofLength (byteLength front) (byteLength taken) ∧
          Matches r front.getLast? taken back := by
      intro resume hmem
      have hspan := ih (done ++ [c]) (by simpa using hmem)
      simpa using hspan
    rw [findFrom] at h
    split at h
    · exact hnext h
    · split at h
      · rename_i n hmatch
        rcases List.mem_cons.mp h with rfl | h
        · rcases matches_of_matchLength? hmatch with ⟨taken, back, hrest, hn, htaken⟩
          refine ⟨done, taken, back, ?_, ?_, congrArg _ hn, htaken⟩
          · rw [hrest, List.append_assoc]
          · rintro rfl
            cases hn
        · exact hnext h
      · exact hnext h

/-- Every match that is found is a piece that the pattern matches. -/
theorem matches_of_mem_findAll (h : span ∈ findAll r text) :
    ∃ front taken back, text = front ++ taken ++ back ∧ taken ≠ [] ∧
      span = .ofLength (byteLength front) (byteLength taken) ∧
      Matches r front.getLast? taken back :=
  matches_of_mem_findFrom [] h

/-- A place with a preferred match that takes something is not passed over, unless another was
found before it. -/
theorem findFrom_ne_nil {front : List Char} {offset resume : Nat} (hresume : resume ≤ offset)
    (hmatch : matchLength? r (front.getLast?.or before) (c :: back) = some (n + 1)) :
    findFrom r before (front ++ c :: back) offset resume ≠ [] := by
  induction front generalizing before offset with
  | nil =>
    have hhere : matchLength? r before (c :: back) = some (n + 1) := hmatch
    rw [List.nil_append, findFrom, if_neg (Nat.not_lt.mpr hresume), hhere]
    exact List.cons_ne_nil _ _
  | cons d front ih =>
    rw [getLast?_cons_or] at hmatch
    have hnext := ih (le_trans hresume (Nat.le_add_right offset d.utf8Size)) hmatch
    rw [List.cons_append, findFrom, if_neg (Nat.not_lt.mpr hresume)]
    split
    · exact List.cons_ne_nil _ _
    · exact hnext

/-! ## Eager patterns -/

/-- Every way but the last takes something. -/
def AcceptsLast (ways : List Step) : Prop :=
  ∃ takes, Step.accept ∉ takes ∧ (ways = takes ∨ ways = takes ++ [.accept])

/-- A pattern that ends the match at once only where it can do nothing else. -/
def Eager (r : Regex) : Prop :=
  ∀ p, AcceptsLast (steps p r)

/-- Where the match is ended last of all, no other way is given up. -/
theorem AcceptsLast.mem_liveWays {s : Step} (h : AcceptsLast ways) (hs : s ∈ ways)
    (htake : s ≠ .accept) : s ∈ liveWays ways := by
  rcases h with ⟨takes, htakes, rfl | rfl⟩
  · rwa [liveWays_eq_self htakes]
  · rw [liveWays_append htakes]
    exact List.mem_append_left _ (by simpa [htake] using hs)

theorem continueWith_append {onEnd : Unit → List Step} {takes : List Step}
    (h : Step.accept ∉ takes) (ways : List Step) :
    continueWith more onEnd (takes ++ ways) =
      onward more takes ++ continueWith more onEnd ways := by
  induction takes with
  | nil => rfl
  | cons s takes ih =>
    rcases not_or.mp (mt List.mem_cons.mpr h) with ⟨hs, htakes⟩
    cases s with
    | accept => exact absurd rfl hs
    | take set tail =>
      rw [List.cons_append, continueWith, ih htakes]
      rfl

theorem accept_not_mem_onward : Step.accept ∉ onward more ways := by
  intro h
  rcases mem_onward_iff.mp h with ⟨set, tail, -, heq⟩
  cases heq

theorem AcceptsLast.continueWith {onEnd : Unit → List Step} (h : AcceptsLast ways)
    (hend : AcceptsLast (onEnd ())) : AcceptsLast (continueWith more onEnd ways) := by
  rcases h with ⟨takes, htakes, hways⟩
  rcases hways with hways | hways
  · refine ⟨onward more takes, accept_not_mem_onward, Or.inl ?_⟩
    rw [hways, ← List.append_nil takes, continueWith_append htakes, Regex.continueWith]
    simp
  · rcases hend with ⟨others, hothers, heq⟩
    refine ⟨onward more takes ++ others, ?_, ?_⟩
    · rw [List.mem_append, not_or]
      exact ⟨accept_not_mem_onward, hothers⟩
    · have happend : Regex.continueWith more onEnd ways = onward more takes ++ onEnd () := by
        rw [hways, continueWith_append htakes, Regex.continueWith]
        simp [withoutAccept]
      rw [happend]
      rcases heq with heq | heq
      · exact Or.inl (by rw [heq])
      · exact Or.inr (by rw [heq, List.append_assoc])

theorem eager_empty : Eager .empty := by
  intro p
  exact ⟨[], List.not_mem_nil, Or.inr rfl⟩

theorem eager_set (set : CharSet) : Eager (.set set) := by
  intro p
  exact ⟨[.take set []], by simp, Or.inl rfl⟩

/-- A greedy repetition of a set goes on as long as it can. -/
theorem eager_star (set : CharSet) : Eager (.star (.set set) true) := by
  intro p
  exact ⟨[.take set [.again (.set set) true]], by simp, Or.inr rfl⟩

theorem Eager.seq {a b : Regex} (ha : Eager a) (hb : Eager b) : Eager (.seq a b) := by
  intro p
  exact (ha p).continueWith (hb p)

theorem eager_concat {parts : List Regex} (h : ∀ r ∈ parts, Eager r) : Eager (.concat parts) := by
  induction parts with
  | nil => exact eager_empty
  | cons r parts ih =>
    have hr := h r List.mem_cons_self
    have hparts := ih fun r hr => h r (List.mem_cons_of_mem _ hr)
    cases parts with
    | nil => exact hr
    | cons r' parts => exact hr.seq hparts

/-- An eager pattern takes something where it can. -/
theorem exists_matchLength?_of_eager (hr : Eager r) (h : Matches r before (c :: taken) back) :
    ∃ n, matchLength? r before (c :: (taken ++ back)) = some (n + 1) := by
  have hlast : ∀ p, AcceptsLast (tailSteps p [r]) := by
    intro p
    exact (hr p).continueWith (eager_empty p)
  have hthreads : threadWays [[r]] before (c :: (taken ++ back)) =
      tailSteps ⟨before, some c⟩ [r] := by
    simp [threadWays]
  have hways : WaysMatch (threadWays [[r]] before (c :: (taken ++ back))) (c :: taken) back :=
    waysMatch_threadWays_iff.mpr (someMatch_singleton_iff.mpr h)
  -- the way to take the piece is not given up for one that ends the match
  have hlive : WaysMatch (liveWays (threadWays [[r]] before (c :: (taken ++ back))))
      (c :: taken) back := by
    rcases hways with ⟨s, hs, hmatch⟩
    refine ⟨s, ?_, hmatch⟩
    rw [hthreads] at hs ⊢
    apply (hlast _).mem_liveWays hs
    rintro rfl
    cases hmatch
  have hfollow : ∃ n, 0 + c.utf8Size ≤ n ∧
      matchLength? r before (c :: (taken ++ back)) = some n := by
    rw [matchLength?, follow_cons]
    exact exists_follow (waysMatch_cons_iff.mp hlive)
  rcases hfollow with ⟨n, hn, hlength⟩
  have hpos := c.utf8Size_pos
  refine ⟨n - 1, ?_⟩
  rw [hlength]
  congr 1
  omega

/-- An eager pattern is found in a text if and only if it matches a piece that is not empty. -/
theorem findAll_ne_nil_iff (hr : Eager r) : findAll r text ≠ [] ↔
    ∃ front taken back, text = front ++ taken ++ back ∧ taken ≠ [] ∧
      Matches r front.getLast? taken back := by
  constructor
  · intro hfound
    rcases List.exists_mem_of_ne_nil _ hfound with ⟨span, hspan⟩
    rcases matches_of_mem_findAll hspan with ⟨front, taken, back, htext, htaken, -, hmatch⟩
    exact ⟨front, taken, back, htext, htaken, hmatch⟩
  · rintro ⟨front, taken, back, rfl, htaken, hmatch⟩
    rcases List.exists_cons_of_ne_nil htaken with ⟨c, taken, rfl⟩
    rcases exists_matchLength?_of_eager hr hmatch with ⟨n, hn⟩
    rw [List.append_assoc]
    apply findFrom_ne_nil (le_refl 0)
    rw [Option.or_none]
    exact hn

end CellSearch.Regex
