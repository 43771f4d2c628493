import Mathlib
import CellSearch.Proofs.Regex.Parse

/-!
# Reading a pattern

`Reader.Reads` relates a reader and its text to those that it comes to, part by part, and what a
text is parsed to is what the reader says at the end of it (`Reader.read_eq_some_iff`).

Two things leave the parts that are read as they are: to stand inside a group that was opened
before (`Reader.next_nest`), and to be followed by a parenthesis (`Reader.Reads.append`,
`Reader.Reads.of_append`), unless a comment at the end swallows it.
-/

namespace CellSearch.Regex.Reader

variable {s t u : Reader} {g : OpenGroup} {cs rest last back : List Char} {c : Char}

/-! ## Inside a group -/

/-- The reader inside one more group, which is around all others. -/
def nest (g : OpenGroup) (s : Reader) : Reader :=
  { s with outer := s.outer ++ [g] }

theorem enterNamed_nest (g : OpenGroup) (s : Reader) (cs : List Char) :
    (s.nest g).enterNamed cs = (s.enterNamed cs).map (Prod.map (nest g) id) := by
  unfold enterNamed
  cases readGroupName true cs with
  | none => rfl
  | some p =>
    have hnames : (s.nest g).names = s.names := rfl
    simp only [hnames]
    split <;> rfl

theorem readFlags_nest (g : OpenGroup) (s : Reader) (cs : List Char) :
    (s.nest g).readFlags cs = (s.readFlags cs).map (Prod.map (nest g) id) := by
  unfold readFlags
  cases FlagChange.read false false ⟨[], []⟩ cs with
  | none => rfl
  | some p =>
    simp only [endFlags]
    split
    · rfl
    · split <;> rfl
    · rfl

theorem openGroup_nest (g : OpenGroup) (s : Reader) (cs : List Char) :
    (s.nest g).openGroup cs = (s.openGroup cs).map (Prod.map (nest g) id) := by
  have hflags : (s.nest g).flags = s.flags := rfl
  rw [openGroup_eq, openGroup_eq, hflags]
  split
  · rfl
  · unfold readGroup
    split
    · unfold readGroupKind
      split
      · exact enterNamed_nest g s _
      · exact enterNamed_nest g s _
      · exact readFlags_nest g s _
    · rfl

theorem closeGroup_nest (g : OpenGroup) (houter : s.outer ≠ []) :
    (s.nest g).closeGroup = s.closeGroup.map (nest g) := by
  unfold closeGroup nest
  cases hs : s.outer with
  | nil => exact absurd hs houter
  | cons g' outer => rfl

theorem readRepeat_nest (g : OpenGroup) (s : Reader) (f : Bool → Regex → Regex) (cs : List Char) :
    (s.nest g).readRepeat f cs = (s.readRepeat f cs).map (Prod.map (nest g) id) := by
  simp only [readRepeat, repeatLast, nest]
  split <;> rfl

/-- A group around a pattern does not change what a step does, unless it closes the group. -/
theorem step_nest (g : OpenGroup) (hclose : c ≠ ')' ∨ s.outer ≠ []) :
    (s.nest g).step c cs = (s.step c cs).map (Prod.map (nest g) id) := by
  have hflags : (s.nest g).flags = s.flags := rfl
  unfold step
  split
  · exact openGroup_nest g s cs
  · rw [closeGroup_nest g (hclose.resolve_left (not_not.mpr rfl)), Option.map_map, Option.map_map]
    rfl
  · rfl
  · simp only [hflags]
    cases readBracket s.flags cs <;> rfl
  · exact readRepeat_nest g s (fun greedy r => .upTo r 1 greedy) cs
  · exact readRepeat_nest g s (fun greedy r => Regex.star r greedy) cs
  · exact readRepeat_nest g s (fun greedy r => .plus r greedy) cs
  · simp only [hflags]
    cases readBounds s.flags cs with
    | none => rfl
    | some p => exact readRepeat_nest g s (repeatWithin p.1) (s.flags.skip p.2)
  · simp only [hflags]
    cases readPrimitive s.flags (c :: cs) <;> rfl

theorem next_nest (g : OpenGroup) (hclose : ∀ rest, s.flags.skip cs = ')' :: rest → s.outer ≠ []) :
    (s.nest g).next cs = (s.next cs).map (Prod.map (nest g) id) := by
  have hflags : (s.nest g).flags = s.flags := rfl
  unfold next
  rw [hflags]
  cases hcs : s.flags.skip cs with
  | nil => rfl
  | cons c rest =>
    refine step_nest g ?_
    by_cases hc : c = ')'
    · exact Or.inr (hclose rest (hc ▸ hcs))
    · exact Or.inl hc

theorem nest_outer_ne_nil (g : OpenGroup) (s : Reader) : (s.nest g).outer ≠ [] := by
  simp [nest]

theorem exists_nest (houter : s.outer ≠ []) : ∃ g s', s = nest g s' := by
  refine ⟨s.outer.getLast houter, { s with outer := s.outer.dropLast }, ?_⟩
  simp [nest, List.dropLast_append_getLast]

/-- Only a parenthesis closes a group. -/
theorem next_outer (hnext : s.next cs = some (t, rest)) (hparen : ')' ∉ cs)
    (houter : s.outer ≠ []) : t.outer ≠ [] := by
  obtain ⟨g, s', rfl⟩ := exists_nest houter
  have hskip := s'.flags.skip_suffix cs
  rw [next_nest g] at hnext
  · obtain ⟨p, -, heq⟩ := Option.map_eq_some_iff.mp hnext
    cases heq
    exact nest_outer_ne_nil g p.1
  · intro rest hcs
    rw [hcs] at hskip
    exact absurd (hskip.subset (List.mem_cons_self ..)) hparen

/-! ## Part by part -/

/-- What the reader says of a text, with fuel for all of it. -/
def read (s : Reader) (cs : List Char) : Option Regex :=
  run (cs.length + 1) s cs

theorem run_fuel {n m : Nat} (hn : cs.length < n) (hm : cs.length < m) :
    run n s cs = run m s cs := by
  refine Forward.eq_of_fuel (f := run) (fun {n m s cs} hrest => ?_) hn hm
  simp only [run]
  cases hcs : s.flags.skip cs with
  | nil => rfl
  | cons c rest =>
    have hlt := Flags.length_lt_of_skip_eq_cons hcs
    cases hstep : s.step c rest with
    | none => simp only [hstep]
    | some p =>
      have heq : run n p.1 p.2 = run m p.1 p.2 :=
        hrest p.1 p.2 ((step_suffix hstep).length_le.trans_lt hlt)
      simp only [hstep, heq]

theorem parse_eq (caseless : Bool) (cs : List Char) :
    parse caseless cs = (start { caseless }).read cs :=
  rfl

theorem read_of_skip_eq_nil (hend : s.flags.skip cs = []) : s.read cs = s.finish := by
  simp only [read, run, hend]

theorem read_of_next_eq_none (hskip : s.flags.skip cs ≠ []) (hnext : s.next cs = none) :
    s.read cs = none := by
  unfold next at hnext
  simp only [read, run]
  split
  · rename_i hnil
    exact absurd hnil hskip
  · rename_i c rest hcs
    rw [hcs] at hnext
    simp only at hnext
    rw [hnext]

theorem read_of_next (hnext : s.next cs = some (t, rest)) : s.read cs = t.read rest := by
  have hlt := next_length_lt hnext
  unfold next at hnext
  split at hnext
  · cases hnext
  · rename_i c inner hcs
    rw [read, run]
    simp only [hcs, hnext]
    exact run_fuel hlt (Nat.lt_succ_self _)

/-- The reader comes, part by part, to another with the text that is left. -/
inductive Reads : Reader → List Char → Reader → List Char → Prop where
  | refl (s : Reader) (cs : List Char) : Reads s cs s cs
  | step {s t u : Reader} {cs rest last : List Char} (hnext : s.next cs = some (t, rest))
      (hrest : Reads t rest u last) : Reads s cs u last

theorem Reads.suffix (h : Reads s cs t last) : last <:+ cs := by
  induction h with
  | refl s cs => exact List.suffix_rfl
  | step hnext _ ih => exact ih.trans (next_suffix hnext)

theorem Reads.read_eq (h : Reads s cs t last) : s.read cs = t.read last := by
  induction h with
  | refl s cs => rfl
  | step hnext _ ih => exact (read_of_next hnext).trans ih

theorem Reads.trans (h : Reads s cs t rest) (h' : Reads t rest u last) : Reads s cs u last := by
  induction h with
  | refl s cs => exact h'
  | step hnext _ ih => exact Reads.step hnext (ih h')

/-- There is nothing to read in an empty text. -/
theorem Reads.of_nil (h : Reads s [] t last) : t = s ∧ last = [] := by
  cases h with
  | refl s cs => exact ⟨rfl, rfl⟩
  | step hnext _ => exact absurd (next_length_lt hnext) (Nat.not_lt_zero _)

theorem Reads.nest (g : OpenGroup) (h : Reads s cs t last) :
    Reads (nest g s) cs (nest g t) last := by
  induction h with
  | refl s cs => exact Reads.refl _ cs
  | @step s t u cs rest last hnext _ ih =>
    refine Reads.step ?_ ih
    rw [next_nest g, hnext]
    · rfl
    · -- outside of all groups a parenthesis is refused
      intro rest hcs houter
      rw [next, hcs] at hnext
      simp only [Reader.step, closeGroup, houter] at hnext
      cases hnext

theorem Reads.outer_ne_nil (h : Reads s cs t last) (hparen : ')' ∉ cs) (houter : s.outer ≠ []) :
    t.outer ≠ [] := by
  induction h with
  | refl s cs => exact houter
  | step hnext _ ih =>
    exact ih (fun hmem => hparen ((next_suffix hnext).subset hmem))
      (next_outer hnext hparen houter)

/-- What is read of a text is what the reader says where it comes to the end. -/
theorem read_eq_some_iff {r : Regex} : s.read cs = some r ↔
    ∃ t last, Reads s cs t last ∧ t.flags.skip last = [] ∧ t.finish = some r := by
  constructor
  · intro hread
    induction hn : cs.length using Nat.strong_induction_on generalizing s cs with
    | _ n ih =>
      by_cases hend : s.flags.skip cs = []
      · exact ⟨s, cs, Reads.refl s cs, hend, (read_of_skip_eq_nil hend).symm.trans hread⟩
      · cases hnext : s.next cs with
        | none => cases (read_of_next_eq_none hend hnext).symm.trans hread
        | some p =>
          obtain ⟨t, rest⟩ := p
          obtain ⟨u, last, hreads, hlast⟩ := ih rest.length (hn ▸ next_length_lt hnext)
            ((read_of_next hnext).symm.trans hread) rfl
          exact ⟨u, last, Reads.step hnext hreads, hlast⟩
  · rintro ⟨t, last, hreads, hend, hfinish⟩
    rw [hreads.read_eq, read_of_skip_eq_nil hend, hfinish]

/-! ## A parenthesis behind the text -/

/-- The reader comes to the parenthesis behind a text as it came to the end of the text. -/
def Reaches (s : Reader) (cs : List Char) (t : Reader) (last : List Char) : Prop :=
  ∀ back, Reads s (cs ++ ')' :: back) t (last ++ ')' :: back) ∧
    t.flags.skip (last ++ ')' :: back) = ')' :: back

/-- Where the end of a text is reached, so is a parenthesis behind it, unless a comment goes on
there. -/
theorem Reads.append (h : Reads s cs t last) (hend : t.flags.skip last = []) :
    Reaches s cs t last ∨ ∀ back, '\n' ∉ back →
      ∃ last', Reads s (cs ++ ')' :: back) t last' ∧ t.flags.skip last' = [] := by
  induction h with
  | refl s cs =>
    rcases s.flags.skip_append cs with hkeep | ⟨-, hover⟩
    · refine Or.inl fun back => ⟨Reads.refl s _, ?_⟩
      rw [hkeep, hend, List.nil_append]
    · exact Or.inr fun back hline => ⟨_, Reads.refl s _, (hover back).2 hline⟩
  | @step s t u cs rest last hnext hrest ih =>
    rcases next_splits s cs with hkeep | hleave
    · -- the part is read again, and the rest of the text with the parenthesis behind it
      have hback : ∀ back, s.next (cs ++ ')' :: back) = some (t, rest ++ ')' :: back) := by
        intro back
        rw [hkeep, hnext, Option.map_some]
      refine (ih hend).imp (fun hreach back => ?_) (fun hswallow back hline => ?_)
      · exact ⟨Reads.step (hback back) (hreach back).1, (hreach back).2⟩
      · obtain ⟨last', hreads, hlast⟩ := hswallow back hline
        exact ⟨last', Reads.step (hback back) hreads, hlast⟩
    · -- the comment has swallowed the parenthesis, and nothing is left to read
      obtain ⟨rfl, hswallow⟩ := hleave.swallows hnext
      obtain ⟨rfl, rfl⟩ := hrest.of_nil
      exact Or.inr fun back hline => ⟨[], Reads.step (hswallow hline) (Reads.refl _ []), hend⟩

/-- What has gone past the end of a text stays behind it, or has stopped at a brace. -/
theorem Beyond.reads (h : Beyond back s cs) (hreads : Reads s cs t last) :
    last <:+ back ∨ ∃ tail, t.flags.skip last = '\x7b' :: tail := by
  rcases h with hsuffix | ⟨hbrace, hnext⟩
  · exact Or.inl (hreads.suffix.trans hsuffix)
  · cases hreads with
    | refl s cs => exact Or.inr hbrace
    | step hstep hrest => exact Or.inl (hrest.suffix.trans (hnext hstep))

/-- What lies behind the end of a text does not begin before its end. -/
theorem not_suffix_back (hskip : t.flags.skip last = ')' :: back) : ¬last <:+ back := by
  intro hsuffix
  have hle := hsuffix.length_le
  have hskip' := t.flags.length_skip_le last
  rw [hskip, List.length_cons] at hskip'
  omega

/-- If the reader comes to the parenthesis behind a text, it comes to the end of the text alone in
the same way, and to a parenthesis with anything else behind it. -/
theorem Reads.of_append {full : List Char} (h : Reads s full t last)
    (hfull : full = cs ++ ')' :: back) (hskip : t.flags.skip last = ')' :: back) :
    ∃ mid, Reads s cs t mid ∧ t.flags.skip mid = [] ∧ Reaches s cs t mid := by
  induction h generalizing cs with
  | refl s full =>
    subst hfull
    rcases s.flags.skip_append cs with hkeep | ⟨-, hover⟩
    · have hnil : s.flags.skip cs = [] := by
        rw [hkeep] at hskip
        simpa using hskip
      refine ⟨cs, Reads.refl s cs, hnil, fun back => ⟨Reads.refl s _, ?_⟩⟩
      rw [hkeep, hnil, List.nil_append]
    · -- a comment that goes on would have left less than the parenthesis and what is behind it
      have hsuffix := (hover back).1
      rw [hskip] at hsuffix
      have hle := hsuffix.length_le
      simp at hle
  | @step s t u full rest last hnext hrest ih =>
    subst hfull
    rcases next_splits s cs with hkeep | hleave
    · rw [hkeep] at hnext
      obtain ⟨p, hp, heq⟩ := Option.map_eq_some_iff.mp hnext
      cases heq
      obtain ⟨mid, hreads, hmid, hreach⟩ := ih rfl hskip
      refine ⟨mid, Reads.step hp hreads, hmid, fun back => ⟨?_, (hreach back).2⟩⟩
      refine Reads.step ?_ (hreach back).1
      rw [hkeep, hp, Option.map_some]
    · -- the reader has passed the parenthesis, and it does not go back
      rcases (hleave.beyond hnext).reads hrest with hsuffix | ⟨tail, hbrace⟩
      · exact absurd hsuffix (not_suffix_back hskip)
      · rw [hskip] at hbrace
        exact absurd (List.cons.inj hbrace).1 (by decide)

/-- Behind the end of a text there is nothing that could close a group around it. -/
theorem Beyond.outer_ne_nil (h : Beyond back s cs) (hback : ')' ∉ back)
    (hreads : Reads (Reader.nest g s) cs t last) (hend : t.flags.skip last = []) :
    t.outer ≠ [] := by
  rcases h with hsuffix | ⟨⟨tail, hbrace⟩, hnext⟩
  · exact hreads.outer_ne_nil (fun hmem => hback (hsuffix.subset hmem)) (nest_outer_ne_nil g s)
  · cases hreads with
    | refl s cs =>
      have hskip : s.flags.skip cs = [] := hend
      rw [hskip] at hbrace
      cases hbrace
    | step hstep hrest =>
      rw [next_nest g] at hstep
      · obtain ⟨p, hp, heq⟩ := Option.map_eq_some_iff.mp hstep
        cases heq
        exact hrest.outer_ne_nil (fun hmem => hback ((hnext hp).subset hmem))
          (nest_outer_ne_nil g p.1)
      · intro rest hcs
        rw [hbrace] at hcs
        exact absurd (List.cons.inj hcs).1 (by decide)

/-- A text in a group that is closed behind it is read to its end, or up to a parenthesis in it
that closes the group. -/
theorem Reads.of_nest {s₀ : Reader} {full : List Char} (h : Reads s₀ full t last)
    (hs : s₀ = Reader.nest g s) (hfull : full = cs ++ ')' :: back) (hback : ')' ∉ back)
    (hend : t.flags.skip last = []) (houter : t.outer = []) :
    ∃ u mid, Reads s cs u mid ∧ u.outer = [] ∧
      (u.flags.skip mid = [] ∨ ∃ tail, u.flags.skip mid = ')' :: tail) := by
  induction h generalizing s cs with
  | refl s₀ full =>
    rw [hs] at houter
    exact absurd houter (nest_outer_ne_nil g s)
  | @step s₀ t u full rest last hnext hrest ih =>
    subst hs hfull
    by_cases hdone : s.outer = [] ∧
        (s.flags.skip cs = [] ∨ ∃ tail, s.flags.skip cs = ')' :: tail)
    · exact ⟨s, cs, Reads.refl s cs, hdone⟩
    · -- the next part does not close the group
      rw [next_nest g] at hnext
      · obtain ⟨p, hp, heq⟩ := Option.map_eq_some_iff.mp hnext
        cases heq
        rcases next_splits s cs with hkeep | hleave
        · rw [hkeep] at hp
          obtain ⟨q, hq, heq⟩ := Option.map_eq_some_iff.mp hp
          cases heq
          obtain ⟨v, mid, hreads, hv⟩ := ih rfl rfl hend houter
          exact ⟨v, mid, Reads.step hq hreads, hv⟩
        · -- behind the parenthesis nothing closes the group any more
          exact absurd houter ((hleave.beyond hp).outer_ne_nil hback hrest hend)
      · -- a parenthesis here is one of the text or the one behind it, since `back` has none
        intro tail hskip hnil
        rcases s.flags.skip_append cs with hkeep | ⟨-, hover⟩
        · refine hdone ⟨hnil, ?_⟩
          cases hcs : s.flags.skip cs with
          | nil => exact Or.inl rfl
          | cons c inner =>
            rw [hkeep, hcs] at hskip
            obtain ⟨rfl, -⟩ := List.cons.inj hskip
            exact Or.inr ⟨inner, rfl⟩
        · have hsuffix := (hover back).1
          rw [hskip] at hsuffix
          exact hback (hsuffix.subset (List.mem_cons_self ..))

end CellSearch.Regex.Reader
