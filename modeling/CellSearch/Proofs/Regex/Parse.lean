import Mathlib
import CellSearch.Proofs.Regex.Bracket
import CellSearch.Regex.Parse

/-!
# Readers of the parts of a pattern

A step of the reader takes one part of a pattern, and as a reader of the text it is `Forward` with
one exception: a word boundary before a brace that nothing follows (`Reader.step_splits`).
-/

namespace CellSearch.Regex

open CellSearch.Unicode

variable {cs : List Char}

/-! ## Flags -/

/-- A character is refused, ends the flags, or changes what is known of them. -/
theorem FlagChange.read_cons (negated dangling : Bool) (change : FlagChange) (c : Char) :
    (∀ cs, read negated dangling change (c :: cs) = none) ∨
    (∀ cs, read negated dangling change (c :: cs) = some (change, c :: cs)) ∨
    ∃ negated' dangling' change', ∀ cs,
      read negated dangling change (c :: cs) = read negated' dangling' change' cs := by
  simp only [read]
  split
  · cases dangling with
    | true => exact Or.inl fun _ => rfl
    | false => exact Or.inr (Or.inl fun _ => rfl)
  · split
    · cases negated with
      | true => exact Or.inl fun _ => rfl
      | false => exact Or.inr (Or.inr ⟨true, true, change, fun _ => rfl⟩)
    · split
      · exact Or.inl fun _ => rfl
      · rename_i f _
        split
        · exact Or.inl fun _ => rfl
        · cases negated with
          | true =>
            exact Or.inr
              (Or.inr ⟨true, false, { change with off := change.off ++ [f] }, fun _ => rfl⟩)
          | false =>
            exact Or.inr
              (Or.inr ⟨false, false, { change with on := change.on ++ [f] }, fun _ => rfl⟩)

theorem FlagChange.read_suffix {negated dangling : Bool} {change change' : FlagChange}
    {rest : List Char} (hread : read negated dangling change cs = some (change', rest)) :
    rest <:+ cs := by
  induction cs generalizing negated dangling change with
  | nil => cases hread
  | cons c cs ih =>
    rcases read_cons negated dangling change c with heq | heq | ⟨_, _, _, heq⟩
    · cases (heq cs).symm.trans hread
    · cases (heq cs).symm.trans hread
      exact List.suffix_rfl
    · exact (ih ((heq cs).symm.trans hread)).trans (List.suffix_cons c cs)

theorem FlagChange.read_forward (negated dangling : Bool) (change : FlagChange) :
    Forward [')'] (read negated dangling change) where
  suffix := read_suffix
  splits := by
    intro cs
    induction cs generalizing negated dangling change with
    | nil =>
      refine Or.inr ⟨fun hread => read_suffix hread, fun hread => ?_⟩
      cases hread
    | cons c cs ih =>
      rcases read_cons negated dangling change c with heq | heq | ⟨_, _, _, heq⟩
      · exact Forward.splits_congr (g := fun _ => none) (heq cs) (fun _ => heq _)
          (Forward.refuse.splits cs)
      · exact Forward.splits_congr (g := fun cs => some (change, cs)) (heq cs) (fun _ => heq _)
          ((Forward.unit change).splits (c :: cs))
      · exact Forward.splits_congr (heq cs) (fun _ => heq _) (ih _ _ _)

/-! ## Groups -/

namespace Reader

theorem readGroupName_suffix {first : Bool} {name rest : List Char}
    (hread : readGroupName first cs = some (name, rest)) : rest <:+ cs := by
  induction cs generalizing first name with
  | nil => cases hread
  | cons c cs ih =>
    refine List.IsSuffix.trans ?_ (List.suffix_cons c cs)
    simp only [readGroupName] at hread
    split at hread
    · cases hread
      exact List.suffix_rfl
    · split at hread
      · obtain ⟨p, hp, heq⟩ := Option.map_eq_some_iff.mp hread
        cases heq
        exact ih hp
      · cases hread

/-- A name that is not closed does not go on past a parenthesis. -/
theorem readGroupName_keeps (first : Bool) (cs : List Char) : Keeps (readGroupName first) cs := by
  intro back
  induction cs generalizing first with
  | nil =>
    have hparen : ∀ first, isNameChar first ')' = false := by decide
    simp [readGroupName, hparen]
  | cons c cs ih =>
    simp only [List.cons_append, readGroupName, ih]
    split
    · rfl
    · split
      · simp only [Option.map_map, Function.comp_def]
      · rfl

theorem readGroupName_forward (first : Bool) : Forward [] (readGroupName first) where
  suffix := readGroupName_suffix
  splits cs := Or.inl (readGroupName_keeps first cs)

theorem enterNamed_forward (s : Reader) : Forward [] s.enterNamed := by
  refine (readGroupName_forward true).filterMap (fun name =>
    if name.isEmpty || s.names.contains name then none
    else some { s.enter s.flags with names := name :: s.names }) (fun h => ?_) (fun h => ?_)
  · simp only [enterNamed, h]
  · simp only [enterNamed, h]
    split <;> rfl

/-- What becomes of flags by the character that ends them. -/
def endFlags (s : Reader) (change : FlagChange) : List Char → Option (Reader × List Char)
  | [] => none
  | ')' :: rest =>
    if change.isEmpty then none
    else some ({ s with parts := s.parts ++ [.flags], flags := change.apply s.flags }, rest)
  | _ :: rest => some (s.enter (change.apply s.flags), rest)

theorem endFlags_forward (s : Reader) (change : FlagChange) (c : Char) :
    Forward [] fun cs => s.endFlags change (c :: cs) := by
  by_cases hparen : c = ')'
  · subst hparen
    exact Forward.ite Forward.refuse (Forward.unit _)
  · exact (Forward.unit (s.enter (change.apply s.flags))).congr fun cs => by simp only [endFlags]

/-- Read the flags behind the question mark of a group. -/
def readFlags (s : Reader) (cs : List Char) : Option (Reader × List Char) :=
  match FlagChange.read false false ⟨[], []⟩ cs with
  | none => none
  | some (change, rest) => s.endFlags change rest

theorem readFlags_forward (s : Reader) : Forward [] s.readFlags :=
  (FlagChange.read_forward false false ⟨[], []⟩).andThen_of_length_lt
    (fun change => Forward.byHead rfl (s.endFlags_forward change))
    (fun {change _ _ _} hread => Forward.length_lt rfl (s.endFlags_forward change) hread)
    (fun h => by simp only [readFlags, h]) (fun h => by simp only [readFlags, h])

/-- Read what follows the question mark of a group. -/
def readGroupKind (s : Reader) : List Char → Option (Reader × List Char)
  | 'P' :: '<' :: rest => s.enterNamed rest
  | '<' :: rest => s.enterNamed rest
  | rest => s.readFlags rest

/-- No flag is called `P`. -/
theorem readFlags_P (s : Reader) (cs : List Char) : s.readFlags ('P' :: cs) = none :=
  rfl

theorem readGroupKind_forward (s : Reader) : Forward [] s.readGroupKind := by
  refine Forward.byHeadOr s.readFlags_forward rfl (fun _ => rfl) fun c => ?_
  by_cases hname : c = 'P'
  · subst hname
    refine Or.inl (Forward.byChar '<' s.enterNamed_forward rfl fun d hd cs => ?_)
    simp [readGroupKind, hd, readFlags_P]
  · by_cases hangle : c = '<'
    · subst hangle
      exact Or.inl s.enterNamed_forward
    · exact Or.inr fun cs => by simp [readGroupKind, hname, hangle]

/-- Read what follows the parenthesis of a group that is no look-around. -/
def readGroup (s : Reader) : List Char → Option (Reader × List Char)
  | '?' :: rest => s.readGroupKind rest
  | rest => some (s.enter s.flags, rest)

theorem readGroup_forward (s : Reader) : Forward [] s.readGroup :=
  Forward.byCharOr '?' (by decide) s.readGroupKind_forward (Forward.unit (s.enter s.flags)) rfl
    fun d hd cs => by simp [readGroup, hd]

theorem readFlags_eq (s : Reader) (cs : List Char) : s.readFlags cs =
    match FlagChange.read false false ⟨[], []⟩ cs with
    | some (change, ')' :: rest) =>
      if change.isEmpty then none
      else some ({ s with parts := s.parts ++ [.flags], flags := change.apply s.flags }, rest)
    | some (change, _ :: rest) => some (s.enter (change.apply s.flags), rest)
    | _ => none := by
  unfold readFlags
  cases FlagChange.read false false ⟨[], []⟩ cs with
  | none => rfl
  | some p =>
    obtain ⟨change, rest⟩ := p
    simp only [endFlags]
    split <;> simp_all

theorem openGroup_eq (s : Reader) (cs : List Char) : s.openGroup cs =
    if isLookAround (s.flags.skip cs) then none else s.readGroup (s.flags.skip cs) := by
  simp only [openGroup]
  split
  · rfl
  · split
    · simp_all [readGroup, readGroupKind]
    · simp_all [readGroup, readGroupKind]
    · rename_i rest _ _ hcs
      have hkind : s.readGroup ('?' :: rest) = s.readFlags rest := by
        simp [readGroup, readGroupKind]
      rw [hcs, hkind]
      exact (s.readFlags_eq rest).symm
    · simp_all [readGroup]

theorem isPrefixOf_append {sign : List Char} (hparen : ')' ∉ sign) (cs back : List Char) :
    sign.isPrefixOf (cs ++ ')' :: back) = sign.isPrefixOf cs := by
  induction sign generalizing cs with
  | nil => rfl
  | cons c sign ih =>
    obtain ⟨hc, hsign⟩ := not_or.mp (mt List.mem_cons.mpr hparen)
    cases cs with
    | nil => simp [List.isPrefixOf, Ne.symm hc]
    | cons d cs => simp only [List.cons_append, List.isPrefixOf_cons_cons, ih hsign cs]

/-- No parenthesis stands in the sign of a look-around. -/
theorem isLookAround_append (cs back : List Char) :
    isLookAround (cs ++ ')' :: back) = isLookAround cs := by
  have hsigns : ∀ sign ∈ [['?', '='], ['?', '!'], ['?', '<', '='], ['?', '<', '!']],
      ')' ∉ sign := by decide
  rw [isLookAround, isLookAround, Bool.eq_iff_iff, List.any_eq_true, List.any_eq_true]
  refine exists_congr fun sign => and_congr_right fun hsign => ?_
  rw [isPrefixOf_append (hsigns sign hsign)]

theorem openGroup_forward (s : Reader) : Forward [] s.openGroup :=
  (Forward.choice isLookAround_append Forward.refuse s.readGroup_forward).afterSkip s.flags
    s.openGroup_eq

theorem closeGroup_forward (s : Reader) :
    Forward [] fun cs => s.closeGroup.map fun s => (s, cs) :=
  Forward.ofOption s.closeGroup

/-! ## Repetition -/

theorem readGreed_forward (s : Reader) : Forward [] fun cs => some (s.readGreed cs) :=
  Forward.byCharOr '?' (by decide) (Forward.unit s.flags.swapGreed)
    (Forward.unit !s.flags.swapGreed) rfl fun d hd cs => by simp [readGreed, hd]

/-- Read the question mark behind a repetition, and repeat the last part. -/
def readRepeat (s : Reader) (f : Bool → Regex → Regex) (cs : List Char) :
    Option (Reader × List Char) :=
  let (greedy, rest) := s.readGreed cs
  (s.repeatLast (f greedy)).map fun s => (s, rest)

theorem readRepeat_forward (s : Reader) (f : Bool → Regex → Regex) :
    Forward [] (s.readRepeat f) := by
  refine s.readGreed_forward.filterMap (fun greedy => s.repeatLast (f greedy))
    (fun h => by cases h) (fun h => ?_)
  simp only [Option.some.injEq] at h
  simp only [readRepeat, h]

/-- Read the counts of a repetition, and repeat the last part. -/
def readCounts (s : Reader) (cs : List Char) : Option (Reader × List Char) :=
  match readBounds s.flags cs with
  | none => none
  | some (b, rest) => s.readRepeat (repeatWithin b) (s.flags.skip rest)

theorem readCounts_forward (s : Reader) : Forward [] s.readCounts :=
  (readBounds_forward s.flags).andThen
    (fun b => (s.readRepeat_forward (repeatWithin b)).afterSkip s.flags fun _ => rfl)
    (fun h => by simp only [readCounts, h]) (fun h => by simp only [readCounts, h])

/-! ## A step -/

theorem readPrimitive_forward (flags : Flags) {c : Char} (hc : c ≠ '\\') :
    Forward [] fun cs => readPrimitive flags (c :: cs) := by
  by_cases hdot : c = '.'
  · subst hdot
    exact Forward.ofOption (dot flags)
  by_cases hcircumflex : c = '^'
  · subst hcircumflex
    exact Forward.unit _
  by_cases hdollar : c = '$'
  · subst hdollar
    exact Forward.unit _
  · exact (Forward.ofOption (literal flags c false)).congr fun cs => by
      simp [readPrimitive]

theorem step_forward (s : Reader) {c : Char} (hc : c ≠ '\\') : Forward [] (s.step c) := by
  unfold step
  split
  · exact s.openGroup_forward
  · exact s.closeGroup_forward
  · exact Forward.unit s.nextBranch
  · exact (readBracket_forward s.flags).filterMap (fun b => some (s.push (.set b)))
      (fun h => by rw [h]; rfl) (fun h => by rw [h]; rfl)
  · exact s.readRepeat_forward fun greedy r => .upTo r 1 greedy
  · exact s.readRepeat_forward fun greedy r => Regex.star r greedy
  · exact s.readRepeat_forward fun greedy r => .plus r greedy
  · exact s.readCounts_forward
  · exact (readPrimitive_forward s.flags hc).filterMap (fun r => some (s.push r))
      (fun h => by rw [h]; rfl) (fun h => by rw [h]; rfl)

/-- What an escape sequence adds to a pattern. -/
def pushEscape (s : Reader) : Escape → Option Reader
  | .literal c byte => (literal s.flags c byte).map s.push
  | .set b => some (s.push (.set b))
  | .look l => some (s.push (.look l))

theorem step_escape (s : Reader) (cs : List Char) : s.step '\\' cs =
    match readEscape s.flags cs with
    | none => none
    | some (e, rest) => (s.pushEscape e).map fun s => (s, rest) := by
  have hstep : s.step '\\' cs =
      (readPrimitive s.flags ('\\' :: cs)).map (Prod.map s.push id) := rfl
  rw [hstep, readPrimitive]
  cases readEscape s.flags cs with
  | none => rfl
  | some p =>
    obtain ⟨e, rest⟩ := p
    cases e with
    | literal c byte => cases hliteral : literal s.flags c byte <;> simp [pushEscape, hliteral]
    | set b => rfl
    | look l => rfl

theorem step_escape_forward (s : Reader) {c : Char} (hc : c ≠ 'b') :
    Forward [] fun cs => s.step '\\' (c :: cs) :=
  (readEscape_forward s.flags hc).filterMap s.pushEscape (fun h => by rw [step_escape, h])
    (fun h => by rw [step_escape, h])

theorem step_boundary (s : Reader) (cs : List Char) : s.step '\\' ('b' :: cs) =
    (readBoundary s.flags cs).map (Prod.map (fun l => s.push (.look l)) id) := by
  rw [step_escape, readEscape_boundary]
  cases readBoundary s.flags cs <;> rfl

theorem step_suffix {s t : Reader} {c : Char} {rest : List Char}
    (hstep : s.step c cs = some (t, rest)) : rest <:+ cs := by
  by_cases hescape : c = '\\'
  · subst hescape
    cases cs with
    | nil => cases hstep
    | cons d cs =>
      refine List.IsSuffix.trans ?_ (List.suffix_cons d cs)
      by_cases hboundary : d = 'b'
      · subst hboundary
        rw [step_boundary] at hstep
        obtain ⟨p, hp, heq⟩ := Option.map_eq_some_iff.mp hstep
        cases heq
        exact readBoundary_suffix hp
      · exact (s.step_escape_forward hboundary).suffix hstep
  · exact (s.step_forward hescape).suffix hstep

/-- Read one more part of a pattern behind what does not count. -/
def next (s : Reader) (cs : List Char) : Option (Reader × List Char) :=
  match s.flags.skip cs with
  | [] => none
  | c :: rest => s.step c rest

theorem next_length_lt {s t : Reader} {rest : List Char} (hnext : s.next cs = some (t, rest)) :
    rest.length < cs.length := by
  have hskip := s.flags.length_skip_le cs
  unfold next at hnext
  split at hnext
  · cases hnext
  · rename_i c inner hcs
    have hle := (step_suffix hnext).length_le
    rw [hcs, List.length_cons] at hskip
    omega

theorem next_suffix {s t : Reader} {rest : List Char} (hnext : s.next cs = some (t, rest)) :
    rest <:+ cs := by
  have hskip := s.flags.skip_suffix cs
  unfold next at hnext
  split at hnext
  · cases hnext
  · rename_i c inner hcs
    rw [hcs] at hskip
    exact ((step_suffix hnext).trans (List.suffix_cons c inner)).trans hskip

/-- A text that is left behind the end of another, or begins at a brace before that end that begins
no repetition. -/
def Beyond (back : List Char) (s : Reader) (cs : List Char) : Prop :=
  cs <:+ back ∨ (∃ tail, s.flags.skip cs = '\x7b' :: tail) ∧
    ∀ {t rest}, s.next cs = some (t, rest) → rest <:+ back

/-- One more part of a text goes on past its end. -/
structure Leaves (s : Reader) (cs : List Char) : Prop where
  beyond : ∀ {back t rest}, s.next (cs ++ ')' :: back) = some (t, rest) → Beyond back t rest
  swallows : ∀ {t rest}, s.next cs = some (t, rest) →
    rest = [] ∧ ∀ {back}, '\n' ∉ back → s.next (cs ++ ')' :: back) = some (t, [])

/-- A word boundary before an open brace and nothing else is left where the brace begins. -/
theorem boundary_beyond {s t : Reader} {back rest : List Char}
    (hbrace : DanglingBrace s.flags cs)
    (hstep : s.step '\\' ('b' :: (cs ++ ')' :: back)) = some (t, rest)) : Beyond back t rest := by
  rw [step_boundary] at hstep
  obtain ⟨p, hp, heq⟩ := Option.map_eq_some_iff.mp hstep
  cases heq
  rcases readBoundary_dangling_append hbrace hp with hrest | hsuffix
  · obtain ⟨blanks, rfl, hskip⟩ := hbrace
    -- the brace does count, and what it begins would have to end behind the text
    have hcounts : (s.push (.look p.1)).flags.skip p.2 = '\x7b' :: (blanks ++ ')' :: back) := by
      rw [hrest]
      unfold Flags.skip
      split <;> rfl
    refine Or.inr ⟨⟨_, hcounts⟩, fun {u rest'} hnext => ?_⟩
    simp only [next, id_eq, hcounts] at hnext
    replace hnext :
        (s.push (.look p.1)).readCounts (blanks ++ ')' :: back) = some (u, rest') := hnext
    have hnone : (s.push (.look p.1)).readCounts blanks = none := by
      have hbounds : readBounds (s.push (.look p.1)).flags blanks = none :=
        readBounds_of_skip_eq_nil hskip
      simp only [readCounts, hbounds]
    exact (readCounts_forward _).suffix_of_eq_none hnone hnext
  · exact Or.inl hsuffix

theorem Leaves.of_overruns (hover : Overruns [] s.next cs) : Leaves s cs :=
  ⟨fun hnext => Or.inl (hover.passes hnext), hover.swallows⟩

/-- Behind a backslash one more part is the same or goes past the end, but for the brace that a
word boundary may leave. -/
theorem next_splits_escape {rest : List Char} (hnext : s.next cs = s.step '\\' rest)
    (hback : ∀ back, s.next (cs ++ ')' :: back) = s.step '\\' (rest ++ ')' :: back)) :
    Keeps s.next cs ∨ Leaves s cs := by
  cases rest with
  | nil =>
    refine Or.inr ⟨fun {back t rest} hread => Or.inl ?_, fun hread => ?_⟩
    · exact (s.step_escape_forward (by decide)).suffix ((hback back).symm.trans hread)
    · cases hnext.symm.trans hread
  | cons d rest =>
    by_cases hboundary : d = 'b'
    · subst hboundary
      by_cases hbrace : DanglingBrace s.flags rest
      · refine Or.inr ⟨fun {back t rest} hread => ?_, fun hread => ?_⟩
        · exact boundary_beyond hbrace ((hback back).symm.trans hread)
        · rw [hnext, step_boundary, readBoundary_dangling hbrace] at hread
          cases hread
      · refine Or.imp_right Leaves.of_overruns (Forward.splits_congr hnext hback ?_)
        exact Forward.splits_congr (g := fun cs => s.step '\\' ('b' :: cs)) rfl (fun _ => rfl)
          (Forward.splits_map s.step_boundary (readBoundary_splits hbrace))
    · refine Or.imp_right Leaves.of_overruns (Forward.splits_congr hnext hback ?_)
      exact Forward.splits_congr (g := fun cs => s.step '\\' (d :: cs)) rfl (fun _ => rfl)
        ((s.step_escape_forward hboundary).splits rest)

/-- With a parenthesis behind a text, one more part of it is the same or goes past its end. -/
theorem next_splits (s : Reader) (cs : List Char) : Keeps s.next cs ∨ Leaves s cs := by
  rcases s.flags.skip_append cs with hskip | ⟨hnil, hover⟩
  · cases hcs : s.flags.skip cs with
    | nil =>
      -- the parenthesis is what is read
      refine Or.inr ⟨fun {back t rest} hnext => Or.inl ?_, fun hnext => ?_⟩
      · simp only [next, hskip, hcs, List.nil_append] at hnext
        exact (s.step_forward (by decide)).suffix hnext
      · simp only [next, hcs] at hnext
        cases hnext
    | cons c rest =>
      have hnext : s.next cs = s.step c rest := by simp only [next, hcs]
      have hback : ∀ back, s.next (cs ++ ')' :: back) = s.step c (rest ++ ')' :: back) := by
        intro back
        simp only [next, hskip, hcs, List.cons_append]
      by_cases hescape : c = '\\'
      · subst hescape
        exact next_splits_escape hnext hback
      · exact Or.imp_right Leaves.of_overruns
          (Forward.splits_congr hnext hback ((s.step_forward hescape).splits rest))
  · -- the parenthesis is skipped in a comment, and what is read stands behind it
    refine Or.inr ⟨fun {back t rest} hnext => Or.inl ?_, fun hnext => ?_⟩
    · have hsuffix := (hover back).1
      unfold next at hnext
      split at hnext
      · cases hnext
      · rename_i c inner hcs
        rw [hcs] at hsuffix
        exact ((step_suffix hnext).trans (List.suffix_cons c inner)).trans hsuffix
    · simp only [next, hnil] at hnext
      cases hnext

end Reader

end CellSearch.Regex
