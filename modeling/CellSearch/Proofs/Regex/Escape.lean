import Mathlib
import CellSearch.Proofs.Regex.Scan
import CellSearch.Regex.Escape

/-!
# Readers of escape sequences

Behind a backslash every reader is `Forward` but one. A word boundary that is followed by an open
brace and nothing else is refused, since the brace may begin a name; with a parenthesis behind the
brace it is a word boundary, and the brace is left (`DanglingBrace`).
-/

namespace CellSearch.Regex

open CellSearch.Unicode

variable {flags : Flags} {cs : List Char}

/-! ## Properties -/

theorem readName_fuel {n m : Nat} (hn : cs.length < n) (hm : cs.length < m) :
    readName flags n cs = readName flags m cs := by
  refine Forward.eq_of_fuel (f := fun n () => readName flags n) (i := ())
    (fun {n m _ cs} hrest => ?_) hn hm
  simp only [readName]
  cases hcs : flags.skip cs with
  | nil => rfl
  | cons c rest =>
    have heq : readName flags n rest = readName flags m rest :=
      hrest () rest (Flags.length_lt_of_skip_eq_cons hcs)
    split <;> simp_all

/-- Read the rest of a name behind the white space. -/
def readNameFrom (flags : Flags) (fuel : Nat) : List Char → Option (List Char × List Char)
  | [] => none
  | '\x7d' :: rest => some ([], rest)
  | c :: rest => (readName flags fuel rest).map fun (name, rest) => (c :: name, rest)

theorem readName_forward (flags : Flags) (fuel : Nat) : Forward [] (readName flags fuel) := by
  induction fuel with
  | zero => exact Forward.refuse
  | succ fuel ih =>
    refine Forward.afterSkip (g := readNameFrom flags fuel) ?_ flags fun _ => rfl
    refine Forward.byHead rfl fun c => ?_
    by_cases hbrace : c = '\x7d'
    · subst hbrace
      exact Forward.unit []
    · exact ih.filterMap (fun name => some (c :: name)) (fun h => by simp [readNameFrom, h])
        (fun h => by simp [readNameFrom, h])

/-- Read a property behind the white space after `p`. -/
def readPropertyName (flags : Flags) : List Char → Option (Property × List Char)
  | [] => none
  | '\x7b' :: rest =>
    match readName flags (rest.length + 1) rest with
    | none => none
    | some (name, rest) => (propertyOfName? name).map fun p => (p, rest)
  | c :: rest =>
    if c = '\\' then none else (Property.ofValue? [c]).map fun p => (p, flags.skip rest)

theorem readPropertyName_forward (flags : Flags) : Forward [] (readPropertyName flags) := by
  refine Forward.byHead rfl fun c => ?_
  by_cases hbrace : c = '\x7b'
  · subst hbrace
    have hname : Forward [] fun cs => readName flags (cs.length + 1) cs :=
      Forward.ofFuel (readName_forward flags) fun hlt => readName_fuel hlt (Nat.lt_succ_self _)
    exact hname.filterMap propertyOfName? (fun h => by simp [readPropertyName, h])
      (fun h => by simp [readPropertyName, h])
  · by_cases hescape : c = '\\'
    · subst hescape
      exact Forward.refuse
    · -- a property of one letter needs no braces
      refine (Forward.ofOption (Property.ofValue? [c])).afterSkip flags fun cs => ?_
      simp [readPropertyName, hescape]

/-- Read a property behind the white space, and close the set of its characters. -/
def readPropertySet (flags : Flags) (negated : Bool) (cs : List Char) :
    Option (CharSet × List Char) :=
  match readPropertyName flags cs with
  | none => none
  | some (p, rest) => (flags.close negated (.property p)).map fun s => (s, rest)

theorem readProperty_forward (flags : Flags) (negated : Bool) :
    Forward [] (readProperty flags negated) := by
  cases hunicode : flags.unicode with
  | false => exact Forward.refuse.congr fun cs => by simp [readProperty, hunicode]
  | true =>
    have hproperty : Forward [] (readPropertySet flags negated) :=
      (readPropertyName_forward flags).filterMap (fun p => flags.close negated (.property p))
        (fun h => by simp [readPropertySet, h]) (fun h => by simp [readPropertySet, h])
    refine hproperty.afterSkip flags fun cs => ?_
    simp only [readProperty, hunicode, if_true]
    rfl

/-! ## Code points -/

/-- Read a code point behind the white space after `x`, `u` or `U`. -/
def readCodeDigits (flags : Flags) (kind : Char) : List Char → Option (Escape × List Char)
  | '\x7b' :: rest =>
    match readHexBraced flags (rest.length + 1) none rest with
    | none => none
    | some (n, rest) => (charOfCode? n).map fun c => (.literal c false, rest)
  | rest =>
    match readHexDigits flags (if kind = 'x' then 2 else if kind = 'u' then 4 else 8) 0 rest with
    | none => none
    | some (n, rest) => (charOfCode? n).map fun c => (.literal c (kind == 'x'), rest)

theorem readCodeDigits_forward (flags : Flags) (kind : Char) :
    Forward [] (readCodeDigits flags kind) := by
  have hdigits : ∀ count, Forward [] fun cs => match readHexDigits flags count 0 cs with
      | none => none
      | some (n, rest) => (charOfCode? n).map fun c => (Escape.literal c (kind == 'x'), rest) :=
    fun count => (readHexDigits_forward flags count 0).filterMap
      (fun n => (charOfCode? n).map fun c => Escape.literal c (kind == 'x'))
      (fun h => by simp [h]) (fun h => by simp [h, Function.comp_def])
  refine Forward.byHeadOr (hdigits _) rfl (fun _ => rfl) fun c => ?_
  by_cases hbrace : c = '\x7b'
  · subst hbrace
    have hbraced : Forward [] fun cs => readHexBraced flags (cs.length + 1) none cs :=
      Forward.ofFuel (fun fuel => readHexBraced_forward flags fuel none)
        fun hlt => readHexBraced_fuel hlt (Nat.lt_succ_self _)
    exact Or.inl (hbraced.filterMap (fun n => (charOfCode? n).map fun c => .literal c false)
      (fun h => by simp [readCodeDigits, h])
      (fun h => by simp [readCodeDigits, h, Function.comp_def]))
  · exact Or.inr fun cs => by simp [readCodeDigits, hbrace]

theorem readCode_forward (flags : Flags) (kind : Char) : Forward [] (readCode flags kind) :=
  (readCodeDigits_forward flags kind).afterSkip flags fun _ => rfl

/-! ## Word boundaries -/

theorem readBoundaryName_eq (flags : Flags) (fuel : Nat) (cs : List Char) :
    readBoundaryName flags fuel cs = readWhile isBoundaryNameChar flags fuel cs := by
  induction fuel generalizing cs with
  | zero => cases cs <;> rfl
  | succ fuel ih =>
    cases cs with
    | nil => rfl
    | cons c rest => simp only [readBoundaryName, readWhile, ih]

/-- A text that is an open brace and otherwise does not count. -/
def DanglingBrace (flags : Flags) (cs : List Char) : Prop :=
  ∃ blanks, cs = '\x7b' :: blanks ∧ flags.skip blanks = []

/-- Read the name of a word boundary and the brace that closes it. -/
def readNamedBoundary (flags : Flags) (cs : List Char) : Option (Look × List Char) :=
  match readBoundaryName flags cs.length cs with
  | (name, '\x7d' :: rest) => (boundaryOfName? (!flags.unicode) name).map fun l => (l, rest)
  | _ => none

/-- Read the brace behind the name of a word boundary. -/
def closeBoundaryName (flags : Flags) (name : List Char) : List Char → Option (Look × List Char)
  | '\x7d' :: rest => (boundaryOfName? (!flags.unicode) name).map fun l => (l, rest)
  | _ => none

theorem readNamedBoundary_forward (flags : Flags) : Forward [] (readNamedBoundary flags) := by
  have hname : Forward [] fun cs => some (readBoundaryName flags cs.length cs) :=
    (readWhile_forward (p := isBoundaryNameChar) rfl flags).congr fun cs => by
      rw [readBoundaryName_eq]
  refine hname.andThen (k := closeBoundaryName flags) (fun name => ?_) (fun h => by cases h)
    (fun h => ?_)
  · exact Forward.byChar '\x7d' (Forward.ofOption _) rfl fun d hd cs => by
      simp [closeBoundaryName, hd]
  · simp only [Option.some.injEq] at h
    simp only [readNamedBoundary, h, closeBoundaryName]
    split <;> simp_all

/-- Behind a brace a word boundary has a name, unless no name begins there. -/
theorem readBoundary_brace {rest inner : List Char} {c : Char}
    (hskip : flags.skip rest = c :: inner) : readBoundary flags ('\x7b' :: rest) =
      if isBoundaryNameChar c then readNamedBoundary flags (c :: inner)
      else some (.wordBoundary !flags.unicode, '\x7b' :: rest) := by
  simp only [readBoundary, hskip]
  rfl

theorem readBoundary_suffix {rest : List Char} {l : Look}
    (hread : readBoundary flags cs = some (l, rest)) : rest <:+ cs := by
  cases cs with
  | nil =>
    cases hread
    exact List.suffix_rfl
  | cons c cs =>
    by_cases hc : c = '\x7b'
    · subst hc
      cases hskip : flags.skip cs with
      | nil => simp [readBoundary, hskip] at hread
      | cons d inner =>
        rw [readBoundary_brace hskip] at hread
        split at hread
        · have hinner : d :: inner <:+ cs := hskip ▸ flags.skip_suffix cs
          exact (((readNamedBoundary_forward flags).suffix hread).trans hinner).trans
            (List.suffix_cons _ cs)
        · cases hread
          exact List.suffix_rfl
    · have heq : readBoundary flags (c :: cs) = some (.wordBoundary !flags.unicode, c :: cs) := by
        simp [readBoundary, hc]
      cases heq.symm.trans hread
      exact List.suffix_rfl

theorem readBoundary_splits (hbrace : ¬DanglingBrace flags cs) :
    Keeps (readBoundary flags) cs ∨ Overruns [] (readBoundary flags) cs := by
  cases cs with
  | nil => exact Or.inl fun _ => rfl
  | cons c rest =>
    by_cases hc : c = '\x7b'
    · subst hc
      cases hskip : flags.skip rest with
      | nil => exact absurd ⟨rest, rfl, hskip⟩ hbrace
      | cons d inner =>
        -- there is something behind the brace, and so there is with the parenthesis
        have hback : ∀ back, flags.skip (rest ++ ')' :: back) = d :: (inner ++ ')' :: back) := by
          intro back
          rcases flags.skip_append rest with hkeep | ⟨hnil, -⟩
          · rw [hkeep, hskip, List.cons_append]
          · rw [hskip] at hnil
            cases hnil
        by_cases hname : isBoundaryNameChar d = true
        · refine Forward.splits_congr ?_ (fun back => ?_)
            ((readNamedBoundary_forward flags).splits (d :: inner))
          · rw [readBoundary_brace hskip, if_pos hname]
          · exact (readBoundary_brace (hback back)).trans (if_pos hname)
        · -- no name begins behind the brace, which is left for what reads on
          refine Or.inl fun back => ?_
          rw [readBoundary_brace hskip, if_neg hname]
          exact (readBoundary_brace (hback back)).trans (if_neg hname)
    · exact Or.inl fun back => by simp [readBoundary, hc]

theorem readBoundary_dangling (hbrace : DanglingBrace flags cs) : readBoundary flags cs = none := by
  obtain ⟨blanks, rfl, hskip⟩ := hbrace
  simp [readBoundary, hskip]

/-- With a parenthesis behind it the brace is left, or the reader goes past the parenthesis. -/
theorem readBoundary_dangling_append {back rest : List Char} {l : Look}
    (hbrace : DanglingBrace flags cs)
    (hread : readBoundary flags (cs ++ ')' :: back) = some (l, rest)) :
    rest = cs ++ ')' :: back ∨ rest <:+ back := by
  obtain ⟨blanks, rfl, hskip⟩ := hbrace
  cases hback : flags.skip (blanks ++ ')' :: back) with
  | nil =>
    simp only [List.cons_append, readBoundary, hback] at hread
    cases hread
  | cons d inner =>
    rw [List.cons_append, readBoundary_brace hback] at hread
    split at hread
    · -- a name cannot begin with the parenthesis
      rename_i hname
      refine Or.inr (((readNamedBoundary_forward flags).suffix hread).trans ?_)
      rw [← hback]
      rcases flags.skip_append blanks with hkeep | ⟨-, hover⟩
      · rw [hkeep, hskip, List.nil_append] at hback
        obtain ⟨rfl, -⟩ := List.cons.inj hback
        exact absurd hname (by decide)
      · exact (hover back).1
    · cases hread
      exact Or.inl rfl

/-! ## All together -/

theorem readEscape_boundary (flags : Flags) (cs : List Char) :
    readEscape flags ('b' :: cs) = (readBoundary flags cs).map fun (l, rest) => (.look l, rest) :=
  rfl

theorem readEscape_forward (flags : Flags) {c : Char} (hc : c ≠ 'b') :
    Forward [] fun cs => readEscape flags (c :: cs) := by
  have hproperty : ∀ negated, Forward [] fun cs =>
      (readProperty flags negated cs).map (Prod.map Escape.set id) := fun negated =>
    (readProperty_forward flags negated).filterMap (fun s => some (.set s))
      (fun h => by rw [h]; rfl) (fun h => by rw [h]; rfl)
  have hset : ∀ d, Forward [] fun cs => (escapedSet? flags d).map fun s => (Escape.set s, cs) :=
    fun d => (Forward.ofOption ((escapedSet? flags d).map .set)).congr fun cs => by
      rw [Option.map_map]; rfl
  simp only [readEscape]
  split
  case h_20 => exact absurd rfl hc
  case h_24 => exact Forward.ite (Forward.unit _) Forward.refuse
  all_goals first
    | exact Forward.unit _
    | exact readCode_forward flags _
    | exact hproperty _
    | exact hset _

end CellSearch.Regex
