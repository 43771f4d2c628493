import Mathlib
import CellSearch.Regex.Scan

/-!
# Readers and the text behind

A reader takes a value off the front of a text and gives back what is left. What it makes of a
text should not depend on what is put behind it. It does where the reader runs up against the end:
a name in braces that is not closed goes on into what follows, and so does a comment. `Forward`
says that these are the only ways: with a closing parenthesis and more behind the text, a reader
either does what it did before (`Keeps`), or has gone past the parenthesis, and then it had left
nothing of the text or refused it (`Overruns`).

Readers are put together from others, and so are the proofs that they are `Forward`: one rule for
each way to put readers together, and none of the rules opens a reader.
-/

namespace CellSearch.Regex

variable {α β : Type} {edge : List Char}

/-! ## What a reader may do -/

/-- A closing parenthesis behind a text, and whatever is behind that, is left as it is. -/
def Keeps (f : List Char → Option (α × List Char)) (cs : List Char) : Prop :=
  ∀ back, f (cs ++ ')' :: back) = (f cs).map fun (x, rest) => (x, rest ++ ')' :: back)

/-- The reader goes on past the end of a text. If it accepts the text it was in a comment at its
end, which swallows what is behind up to the next line. `edge` is empty if the reader takes the
parenthesis, and the parenthesis if it may stop there. -/
structure Overruns (edge : List Char) (f : List Char → Option (α × List Char)) (cs : List Char) :
    Prop where
  passes : ∀ {back x rest}, f (cs ++ ')' :: back) = some (x, rest) → rest <:+ edge ++ back
  swallows : ∀ {x rest}, f cs = some (x, rest) →
    rest = [] ∧ ∀ {back}, '\n' ∉ back → f (cs ++ ')' :: back) = some (x, [])

/-- The reader takes from the front and, with a parenthesis behind the text, does the same as
without or goes past the end. -/
structure Forward (edge : List Char) (f : List Char → Option (α × List Char)) : Prop where
  suffix : ∀ {cs x rest}, f cs = some (x, rest) → rest <:+ cs
  splits : ∀ cs, Keeps f cs ∨ Overruns edge f cs

namespace Forward

variable {f g : List Char → Option (α × List Char)} {h : List Char → Option (β × List Char)}

/-! ## The smallest readers -/

/-- To read nothing. -/
theorem unit (x : α) : Forward edge fun cs => some (x, cs) where
  suffix := by
    intro cs x rest h
    cases h
    exact List.suffix_rfl
  splits _ := Or.inl fun _ => rfl

/-- To refuse every text. -/
theorem refuse : Forward edge fun _ => (none : Option (α × List Char)) where
  suffix h := by cases h
  splits _ := Or.inl fun _ => rfl

/-- To read nothing and give a value, if there is one. -/
theorem ofOption (x : Option α) : Forward edge fun cs => x.map fun x => (x, cs) := by
  cases x with
  | none => exact refuse
  | some x => exact unit x

/-- A reader that always takes the parenthesis may also be said to stop there at the latest. -/
theorem weaken (hf : Forward [] f) : Forward edge f where
  suffix := hf.suffix
  splits cs := (hf.splits cs).imp_right fun hover =>
    ⟨fun h => (hover.passes h).trans (List.suffix_append edge _), hover.swallows⟩

/-- What a reader does with a text, if another does it with its text. -/
theorem splits_congr {cs cs' : List Char} (heq : f cs = g cs')
    (hback : ∀ back, f (cs ++ ')' :: back) = g (cs' ++ ')' :: back))
    (hsplit : Keeps g cs' ∨ Overruns edge g cs') : Keeps f cs ∨ Overruns edge f cs := by
  rcases hsplit with hkeep | hover
  · exact Or.inl fun back => by rw [hback, heq, hkeep]
  · refine Or.inr ⟨fun hread => hover.passes ((hback _).symm.trans hread), fun hread => ?_⟩
    obtain ⟨hrest, hswallow⟩ := hover.swallows (heq.symm.trans hread)
    exact ⟨hrest, fun hline => (hback _).trans (hswallow hline)⟩

/-- What a reader does with a text, if another does it and gives another value. -/
theorem splits_map {φ : α → β} {cs : List Char} (hmap : ∀ cs, h cs = (f cs).map (Prod.map φ id))
    (hsplit : Keeps f cs ∨ Overruns edge f cs) : Keeps h cs ∨ Overruns edge h cs := by
  rcases hsplit with hkeep | hover
  · refine Or.inl fun back => ?_
    rw [hmap, hmap, hkeep, Option.map_map, Option.map_map]
    rfl
  · refine Or.inr ⟨fun hread => ?_, fun hread => ?_⟩
    · rw [hmap] at hread
      obtain ⟨p, hp, heq⟩ := Option.map_eq_some_iff.mp hread
      cases heq
      exact hover.passes hp
    · rw [hmap] at hread
      obtain ⟨p, hp, heq⟩ := Option.map_eq_some_iff.mp hread
      cases heq
      obtain ⟨hrest, hswallow⟩ := hover.swallows hp
      exact ⟨hrest, fun hline => by rw [hmap, hswallow hline, Option.map_some]; rfl⟩

/-- What is refused, and accepted with a parenthesis behind it, goes past the parenthesis. -/
theorem suffix_of_eq_none {cs back rest : List Char} {x : α} (hf : Forward [] f)
    (hnone : f cs = none) (hread : f (cs ++ ')' :: back) = some (x, rest)) : rest <:+ back := by
  rcases hf.splits cs with hkeep | hover
  · rw [hkeep, hnone] at hread
    cases hread
  · exact hover.passes hread

/-! ## One reader after another -/

/-- A reader that keeps what is behind leaves the rest to the next one. -/
theorem splits_of_keeps {k : α → List Char → Option (β × List Char)} {cs : List Char}
    (hkeep : Keeps f cs) (hk : ∀ x, Forward edge (k x))
    (hnone : ∀ {cs}, f cs = none → h cs = none)
    (hsome : ∀ {cs x rest}, f cs = some (x, rest) → h cs = k x rest) :
    Keeps h cs ∨ Overruns edge h cs := by
  cases hcs : f cs with
  | none =>
    refine Or.inl fun back => ?_
    have hback : f (cs ++ ')' :: back) = none := by rw [hkeep, hcs, Option.map_none]
    rw [hnone hback, hnone hcs, Option.map_none]
  | some p =>
    refine splits_congr (hsome hcs) (fun back => hsome ?_) ((hk p.1).splits p.2)
    rw [hkeep, hcs, Option.map_some]

/-- A reader that goes past the end leaves nothing to the next one. -/
theorem overruns_of_overruns {edge' : List Char} {k : α → List Char → Option (β × List Char)}
    {cs : List Char} (hover : Overruns edge' f cs) (hk : ∀ x, Forward edge (k x))
    (hedge : ∀ {x cs y rest back}, k x cs = some (y, rest) → cs <:+ edge' ++ back →
      rest <:+ edge ++ back)
    (hnone : ∀ {cs}, f cs = none → h cs = none)
    (hsome : ∀ {cs x rest}, f cs = some (x, rest) → h cs = k x rest) : Overruns edge h cs where
  passes := by
    intro back y rest hread
    cases hcs : f (cs ++ ')' :: back) with
    | none =>
      rw [hnone hcs] at hread
      cases hread
    | some p =>
      rw [hsome hcs] at hread
      exact hedge hread (hover.passes hcs)
  swallows := by
    intro y rest hread
    cases hcs : f cs with
    | none =>
      rw [hnone hcs] at hread
      cases hread
    | some p =>
      -- the second reader has nothing to read, with the text behind and without
      obtain ⟨x, rest⟩ := p
      obtain ⟨rfl, hswallow⟩ := hover.swallows hcs
      rw [hsome hcs] at hread
      obtain rfl := List.eq_nil_of_suffix_nil ((hk x).suffix hread)
      exact ⟨rfl, fun hline => (hsome (hswallow hline)).trans hread⟩

/-- To read a part and then, by its value, what follows. `hedge` says that the second reader goes
as far past the end as it should if the first one has. -/
theorem sequence {edge' : List Char} {k : α → List Char → Option (β × List Char)}
    (hf : Forward edge' f) (hk : ∀ x, Forward edge (k x))
    (hedge : ∀ {x cs y rest back}, k x cs = some (y, rest) → cs <:+ edge' ++ back →
      rest <:+ edge ++ back)
    (hnone : ∀ {cs}, f cs = none → h cs = none)
    (hsome : ∀ {cs x rest}, f cs = some (x, rest) → h cs = k x rest) : Forward edge h where
  suffix := by
    intro cs y rest hread
    cases hcs : f cs with
    | none =>
      rw [hnone hcs] at hread
      cases hread
    | some p =>
      rw [hsome hcs] at hread
      exact ((hk p.1).suffix hread).trans (hf.suffix hcs)
  splits := by
    intro cs
    rcases hf.splits cs with hkeep | hover
    · exact splits_of_keeps hkeep hk hnone hsome
    · exact Or.inr (overruns_of_overruns hover hk hedge hnone hsome)

/-- To read a part and then, by its value, what follows. -/
theorem andThen {k : α → List Char → Option (β × List Char)} (hf : Forward edge f)
    (hk : ∀ x, Forward edge (k x)) (hnone : ∀ {cs}, f cs = none → h cs = none)
    (hsome : ∀ {cs x rest}, f cs = some (x, rest) → h cs = k x rest) : Forward edge h :=
  hf.sequence hk (fun hread hcs => ((hk _).suffix hread).trans hcs) hnone hsome

/-- If the first reader stops at the parenthesis at the latest, a second one that takes something
goes past it. -/
theorem andThen_of_length_lt {k : α → List Char → Option (β × List Char)} (hf : Forward [')'] f)
    (hk : ∀ x, Forward [] (k x))
    (hlt : ∀ {x cs y rest}, k x cs = some (y, rest) → rest.length < cs.length)
    (hnone : ∀ {cs}, f cs = none → h cs = none)
    (hsome : ∀ {cs x rest}, f cs = some (x, rest) → h cs = k x rest) : Forward [] h := by
  refine hf.sequence hk (fun {x cs y rest back} hread hcs => ?_) hnone hsome
  have hsuffix : rest <:+ ')' :: back := ((hk x).suffix hread).trans hcs
  rcases List.suffix_cons_iff.mp hsuffix with rfl | hsuffix
  · have hle : cs.length ≤ (')' :: back).length := hcs.length_le
    exact absurd (hlt hread) (by omega)
  · exact hsuffix

/-- To read a part and make something else of its value, if that can be done. -/
theorem filterMap (φ : α → Option β) (hf : Forward edge f)
    (hnone : ∀ {cs}, f cs = none → h cs = none)
    (hsome : ∀ {cs x rest}, f cs = some (x, rest) → h cs = (φ x).map fun y => (y, rest)) :
    Forward edge h :=
  hf.andThen (fun x => ofOption (φ x)) hnone hsome

theorem congr (hg : Forward edge g) (heq : ∀ cs, f cs = g cs) : Forward edge f := by
  obtain rfl : f = g := funext heq
  exact hg

/-- To read a part that the text behind does not change, and if there is none to read something
else in its place. -/
theorem orElse {k : α → List Char → Option (β × List Char)} {b : List Char → Option (β × List Char)}
    (hsuffix : ∀ {cs x rest}, f cs = some (x, rest) → rest <:+ cs) (hkeep : ∀ cs, Keeps f cs)
    (hk : ∀ x, Forward edge (k x)) (hb : Forward edge b)
    (hnone : ∀ {cs}, f cs = none → h cs = b cs)
    (hsome : ∀ {cs x rest}, f cs = some (x, rest) → h cs = k x rest) : Forward edge h where
  suffix := by
    intro cs y rest hread
    cases hcs : f cs with
    | none => exact hb.suffix ((hnone hcs).symm.trans hread)
    | some p => exact ((hk p.1).suffix ((hsome hcs).symm.trans hread)).trans (hsuffix hcs)
  splits := by
    intro cs
    cases hcs : f cs with
    | none =>
      refine splits_congr (hnone hcs) (fun back => hnone ?_) (hb.splits cs)
      rw [hkeep, hcs, Option.map_none]
    | some p =>
      refine splits_congr (hsome hcs) (fun back => hsome ?_) ((hk p.1).splits p.2)
      rw [hkeep, hcs, Option.map_some]

/-! ## By the first character -/

/-- One of two readers, whatever the text is. -/
theorem ite {p : Prop} [Decidable p] (hf : Forward edge f) (hg : Forward edge g) :
    Forward edge fun cs => if p then f cs else g cs := by
  by_cases hp : p
  · simpa only [if_pos hp] using hf
  · simpa only [if_neg hp] using hg

/-- One of two readers, by something that the text behind does not change. -/
theorem choice {p : List Char → Bool} (hp : ∀ cs back, p (cs ++ ')' :: back) = p cs)
    (hf : Forward edge f) (hg : Forward edge g) :
    Forward edge fun cs => if p cs then f cs else g cs where
  suffix := by
    intro cs x rest hread
    split at hread
    · exact hf.suffix hread
    · exact hg.suffix hread
  splits := by
    intro cs
    cases hcs : p cs with
    | true => exact splits_congr (by simp [hcs]) (by simp [hp, hcs]) (hf.splits cs)
    | false => exact splits_congr (by simp [hcs]) (by simp [hp, hcs]) (hg.splits cs)

/-- To take a first character, and read what follows by it. -/
theorem byHead (hnil : f [] = none) (hcons : ∀ c, Forward edge fun cs => f (c :: cs)) :
    Forward edge f where
  suffix := by
    intro cs x rest hread
    cases cs with
    | nil =>
      rw [hnil] at hread
      cases hread
    | cons c cs => exact ((hcons c).suffix hread).trans (List.suffix_cons c cs)
  splits := by
    intro cs
    cases cs with
    | nil =>
      refine Or.inr ⟨fun hread => ?_, fun hread => ?_⟩
      · exact ((hcons ')').suffix hread).trans (List.suffix_append edge _)
      · rw [hnil] at hread
        cases hread
    | cons c cs =>
      exact splits_congr (g := fun cs => f (c :: cs)) rfl (fun _ => rfl) ((hcons c).splits cs)

/-- A reader that takes a first character leaves less than it was given. -/
theorem length_lt {cs rest : List Char} {x : α} (hnil : f [] = none)
    (hcons : ∀ c, Forward edge fun cs => f (c :: cs)) (hread : f cs = some (x, rest)) :
    rest.length < cs.length := by
  cases cs with
  | nil =>
    rw [hnil] at hread
    cases hread
  | cons c cs =>
    have hle : rest.length ≤ cs.length := ((hcons c).suffix hread).length_le
    exact Nat.lt_succ_of_le hle

/-- To take one character, and refuse every other. -/
theorem byChar (c : Char) (hc : Forward edge fun cs => f (c :: cs)) (hnil : f [] = none)
    (hother : ∀ d, d ≠ c → ∀ cs, f (d :: cs) = none) : Forward edge f := by
  refine byHead hnil fun d => ?_
  by_cases hd : d = c
  · rwa [hd]
  · exact refuse.congr (hother d hd)

/-- To take some characters, and to do something else before the others and at the end. -/
theorem byHeadOr (hg : Forward edge g) (hnil : f [] = g [])
    (hparen : ∀ cs, f (')' :: cs) = g (')' :: cs))
    (hcons : ∀ c, (Forward edge fun cs => f (c :: cs)) ∨ ∀ cs, f (c :: cs) = g (c :: cs)) :
    Forward edge f where
  suffix := by
    intro cs x rest hread
    cases cs with
    | nil => exact hg.suffix (hnil.symm.trans hread)
    | cons c cs =>
      rcases hcons c with htake | heq
      · exact (htake.suffix hread).trans (List.suffix_cons c cs)
      · exact hg.suffix ((heq cs).symm.trans hread)
  splits := by
    intro cs
    cases cs with
    | nil => exact splits_congr hnil hparen (hg.splits [])
    | cons c cs =>
      rcases hcons c with htake | heq
      · exact splits_congr (g := fun cs => f (c :: cs)) rfl (fun _ => rfl) (htake.splits cs)
      · exact splits_congr (heq cs) (fun _ => heq _) (hg.splits (c :: cs))

/-- To take one character, and to do something else before the others and at the end. -/
theorem byCharOr (c : Char) (hparen : c ≠ ')') (hc : Forward edge fun cs => f (c :: cs))
    (hg : Forward edge g) (hnil : f [] = g [])
    (hother : ∀ d, d ≠ c → ∀ cs, f (d :: cs) = g (d :: cs)) : Forward edge f := by
  refine byHeadOr hg hnil (hother ')' (Ne.symm hparen)) fun d => ?_
  by_cases hd : d = c
  · rw [hd]
    exact Or.inl hc
  · exact Or.inr (hother d hd)

/-- To take some characters, and to stop before the others. -/
theorem byHeadOrStop (hnil : f [] = none)
    (hcons : ∀ c, (Forward [')'] fun cs => f (c :: cs)) ∨
      ∃ x, ∀ cs, f (c :: cs) = some (x, c :: cs)) : Forward [')'] f where
  suffix := by
    intro cs x rest hread
    cases cs with
    | nil =>
      rw [hnil] at hread
      cases hread
    | cons c cs =>
      rcases hcons c with htake | ⟨y, heq⟩
      · exact (htake.suffix hread).trans (List.suffix_cons c cs)
      · exact (unit y : Forward [')'] _).suffix ((heq cs).symm.trans hread)
  splits := by
    intro cs
    cases cs with
    | nil =>
      refine Or.inr ⟨fun {back x rest} hread => ?_, fun hread => ?_⟩
      · rcases hcons ')' with htake | ⟨y, heq⟩
        · exact (htake.suffix hread).trans (List.suffix_cons ')' back)
        · exact (unit y : Forward [')'] _).suffix ((heq back).symm.trans hread)
      · rw [hnil] at hread
        cases hread
    | cons c cs =>
      rcases hcons c with htake | ⟨y, heq⟩
      · exact splits_congr (g := fun cs => f (c :: cs)) rfl (fun _ => rfl) (htake.splits cs)
      · exact splits_congr (g := fun cs => some (y, cs)) (heq cs) (fun _ => heq _)
          ((unit y).splits (c :: cs))

/-! ## Fuel -/

/-- Where each step goes on with a shorter text, all fuel beyond the length of the text is one. -/
theorem eq_of_fuel {ι : Type*} {β : Type*} {f : Nat → ι → List Char → β}
    (hstep : ∀ {n m : Nat} {i : ι} {cs : List Char},
      (∀ j rest, rest.length < cs.length → f n j rest = f m j rest) →
        f (n + 1) i cs = f (m + 1) i cs)
    {n m : Nat} {i : ι} {cs : List Char} (hn : cs.length < n) (hm : cs.length < m) :
    f n i cs = f m i cs := by
  induction n generalizing m i cs with
  | zero => exact absurd hn (Nat.not_lt_zero _)
  | succ n ih =>
    cases m with
    | zero => exact absurd hm (Nat.not_lt_zero _)
    | succ m => exact hstep fun j rest hlt => ih (by omega) (by omega)

/-- A reader whose fuel is enough for the length of the text. -/
theorem ofFuel {f : Nat → List Char → Option (α × List Char)} (hf : ∀ n, Forward edge (f n))
    (hfuel : ∀ {n cs}, cs.length < n → f n cs = g cs) : Forward edge g where
  suffix := by
    intro cs x rest hread
    exact (hf (cs.length + 1)).suffix ((hfuel (Nat.lt_succ_self _)).trans hread)
  splits := by
    intro cs
    by_cases hkeep : Keeps g cs
    · exact Or.inl hkeep
    · -- one text behind that is not kept tells for all of them, with fuel for both
      obtain ⟨back₀, hback₀⟩ := not_forall.mp hkeep
      have hover : ∀ back, ∃ n, f n cs = g cs ∧
          f n (cs ++ ')' :: back) = g (cs ++ ')' :: back) ∧ Overruns edge (f n) cs := by
        intro back
        let n := (cs ++ ')' :: back₀).length + (cs ++ ')' :: back).length + 1
        have hcs : f n cs = g cs := hfuel (by simp only [n, List.length_append]; omega)
        have hcs₀ : f n (cs ++ ')' :: back₀) = g (cs ++ ')' :: back₀) := hfuel (by omega)
        refine ⟨n, hcs, hfuel (by omega), ((hf n).splits cs).resolve_left fun hkeep => hback₀ ?_⟩
        rw [← hcs₀, hkeep, hcs]
      refine Or.inr ⟨fun {back _ _} hread => ?_, fun hread => ?_⟩
      · obtain ⟨n, -, hback, hover⟩ := hover back
        exact hover.passes (hback.trans hread)
      · obtain ⟨n, hcs, -, hover₀⟩ := hover []
        refine ⟨(hover₀.swallows (hcs.trans hread)).1, fun {back} hline => ?_⟩
        obtain ⟨n, hcs, hback, hover⟩ := hover back
        exact hback.symm.trans ((hover.swallows (hcs.trans hread)).2 hline)

end Forward

/-! ## White space and comments -/

theorem dropWhile_forward {p : Char → Bool} (hparen : p ')' = false) :
    Forward edge fun cs => some ((), cs.dropWhile p) where
  suffix := by
    intro cs x rest hread
    cases hread
    exact List.dropWhile_suffix p
  splits cs := by
    refine Or.inl fun back => ?_
    simp only [List.dropWhile_append, Option.map_some]
    split
    · rename_i hnil
      rw [List.isEmpty_iff.mp hnil, List.dropWhile_cons_of_neg (by simp [hparen]), List.nil_append]
    · rfl

theorem skipBlanks_suffix (inComment : Bool) (cs : List Char) : skipBlanks inComment cs <:+ cs := by
  induction cs generalizing inComment with
  | nil => cases inComment <;> exact List.suffix_rfl
  | cons c cs ih =>
    cases inComment with
    | true => exact (ih _).trans (List.suffix_cons c cs)
    | false =>
      simp only [skipBlanks]
      split
      · exact (ih _).trans (List.suffix_cons c cs)
      · split
        · exact (ih _).trans (List.suffix_cons c cs)
        · exact List.suffix_rfl

/-- A comment goes on to the end of its line. -/
theorem skipBlanks_comment {back : List Char} (hline : '\n' ∉ back) :
    skipBlanks true back = [] := by
  induction back with
  | nil => rfl
  | cons c back ih =>
    obtain ⟨hc, hback⟩ := not_or.mp (mt List.mem_cons.mpr hline)
    have hcomment : (c != '\n') = true := bne_iff_ne.mpr (Ne.symm hc)
    rw [skipBlanks, hcomment, ih hback]

/-- Blanks end where they ended before, or in a comment that swallows what is behind. -/
theorem skipBlanks_append (inComment : Bool) (cs : List Char) :
    (∀ back, skipBlanks inComment (cs ++ ')' :: back) =
      skipBlanks inComment cs ++ ')' :: back) ∨
    skipBlanks inComment cs = [] ∧
      ∀ back, skipBlanks inComment (cs ++ ')' :: back) = skipBlanks true back := by
  induction cs generalizing inComment with
  | nil =>
    cases inComment with
    | true => exact Or.inr ⟨rfl, fun _ => rfl⟩
    | false => exact Or.inl fun _ => rfl
  | cons c cs ih =>
    cases inComment with
    | true => exact ih (c != '\n')
    | false =>
      simp only [skipBlanks, List.cons_append]
      split
      · exact ih false
      · split
        · exact ih true
        · exact Or.inl fun _ => rfl

theorem Flags.skip_suffix (flags : Flags) (cs : List Char) : flags.skip cs <:+ cs := by
  unfold Flags.skip
  split
  · exact skipBlanks_suffix false cs
  · exact List.suffix_rfl

theorem Flags.length_skip_le (flags : Flags) (cs : List Char) :
    (flags.skip cs).length ≤ cs.length :=
  (flags.skip_suffix cs).length_le

theorem Flags.length_lt_of_skip_eq_cons {flags : Flags} {cs rest : List Char} {c : Char}
    (hskip : flags.skip cs = c :: rest) : rest.length < cs.length := by
  have hle := flags.length_skip_le cs
  rw [hskip, List.length_cons] at hle
  exact hle

/-- What does not count ends where it ended before, or in a comment that goes on behind the
text. -/
theorem Flags.skip_append (flags : Flags) (cs : List Char) :
    (∀ back, flags.skip (cs ++ ')' :: back) = flags.skip cs ++ ')' :: back) ∨
    flags.skip cs = [] ∧ ∀ back, flags.skip (cs ++ ')' :: back) <:+ back ∧
      ('\n' ∉ back → flags.skip (cs ++ ')' :: back) = []) := by
  unfold Flags.skip
  split
  · refine (skipBlanks_append false cs).imp_right fun ⟨hnil, hback⟩ => ⟨hnil, fun back => ?_⟩
    rw [hback]
    exact ⟨skipBlanks_suffix true back, skipBlanks_comment⟩
  · exact Or.inl fun _ => rfl

theorem Flags.skip_forward (flags : Flags) : Forward [] fun cs => some ((), flags.skip cs) where
  suffix := by
    intro cs x rest hread
    cases hread
    exact flags.skip_suffix cs
  splits := by
    intro cs
    rcases flags.skip_append cs with hkeep | ⟨hnil, hback⟩
    · exact Or.inl fun back => by simp only [hkeep, Option.map_some]
    · refine Or.inr ⟨fun {back _ _} hread => ?_, fun hread => ?_⟩
      · cases hread
        exact (hback back).1
      · cases hread
        exact ⟨hnil, fun {back} hline => by simp only [(hback back).2 hline]⟩

/-- To skip what does not count and read on. -/
theorem Forward.afterSkip {f g : List Char → Option (α × List Char)} (hg : Forward edge g)
    (flags : Flags) (heq : ∀ cs, f cs = g (flags.skip cs)) : Forward edge f := by
  refine flags.skip_forward.weaken.andThen (fun _ => hg) (fun h => by cases h) ?_
  intro cs x rest hread
  cases hread
  exact heq cs

end CellSearch.Regex
