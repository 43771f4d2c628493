import Mathlib
import CellSearch.Proofs.Regex.Escape
import CellSearch.Regex.Bracket

/-!
# Readers of sets in brackets

A set in brackets that is not closed is refused, and no parenthesis closes it: the readers of a set
are `Forward`, though some of them stop at a parenthesis (an edge of `[')']`). A word boundary has
no place in a set, so that the brace behind one does no harm here.
-/

namespace CellSearch.Regex

open CellSearch.Unicode

variable {flags : Flags} {cs : List Char} {edge : List Char} {β : Type}

/-! ## Opening a set -/

theorem readLeadingHyphens_fuel {n m : Nat} {o : OpenSet} (hn : cs.length < n)
    (hm : cs.length < m) : readLeadingHyphens flags n o cs = readLeadingHyphens flags m o cs := by
  refine Forward.eq_of_fuel (f := readLeadingHyphens flags) (fun {n m o cs} hrest => ?_) hn hm
  cases cs with
  | nil => rfl
  | cons c rest =>
    have heq : ∀ o, readLeadingHyphens flags n o (flags.skip rest) =
        readLeadingHyphens flags m o (flags.skip rest) :=
      fun o => hrest o _ (Nat.lt_succ_of_le (flags.length_skip_le rest))
    simp only [readLeadingHyphens]
    split <;> simp_all

theorem readLeadingHyphens_forward (flags : Flags) (fuel : Nat) (o : OpenSet) :
    Forward [')'] (readLeadingHyphens flags fuel o) := by
  induction fuel generalizing o with
  | zero => exact Forward.refuse
  | succ fuel ih =>
    refine Forward.byHeadOrStop rfl fun c => ?_
    by_cases hhyphen : c = '-'
    · subst hhyphen
      exact Or.inl ((ih _).afterSkip flags fun _ => rfl)
    · exact Or.inr ⟨o, fun cs => by simp [readLeadingHyphens, hhyphen]⟩

/-- Read a closing bracket that stands for itself because it comes first. -/
def readFirstBracket (flags : Flags) (o : OpenSet) : List Char → Option (OpenSet × List Char)
  | ']' :: rest =>
    if o.items.isEmpty then
      match flags.skip rest with
      | [] => none
      | rest => some (o.push (.char ']'), rest)
    else some (o, ']' :: rest)
  | rest => some (o, rest)

/-- Read the start of a set behind the circumflex. -/
def readSetStart (flags : Flags) (negated : Bool) (cs : List Char) :
    Option (OpenSet × List Char) :=
  match readLeadingHyphens flags (cs.length + 1) ⟨negated, none, []⟩ cs with
  | none => none
  | some (o, rest) => readFirstBracket flags o rest

/-- The circumflex says whether the start is that of a negated set. -/
theorem readSetStart_eq (flags : Flags) (start : Bool × List Char) :
    (match start with
      | (negated, cs) =>
        match readLeadingHyphens flags (cs.length + 1) ⟨negated, none, []⟩ cs with
        | none => none
        | some (o, ']' :: rest) =>
          if o.items.isEmpty then
            match flags.skip rest with
            | [] => none
            | rest => some (o.push (.char ']'), rest)
          else some (o, ']' :: rest)
        | some (o, rest) => some (o, rest)) = readSetStart flags start.1 start.2 := by
  obtain ⟨negated, cs⟩ := start
  dsimp only
  unfold readSetStart
  cases readLeadingHyphens flags (cs.length + 1) ⟨negated, none, []⟩ cs with
  | none => rfl
  | some p =>
    obtain ⟨o, rest⟩ := p
    simp only [readFirstBracket]
    split <;> simp_all

theorem openSet_eq (flags : Flags) (cs : List Char) : openSet flags cs =
    match flags.skip cs with
    | '^' :: rest => readSetStart flags true (flags.skip rest)
    | cs => readSetStart flags false cs := by
  refine (readSetStart_eq flags (match flags.skip cs with
    | '^' :: rest => (true, flags.skip rest)
    | _ => (false, flags.skip cs))).trans ?_
  cases flags.skip cs with
  | nil => rfl
  | cons c rest =>
    by_cases hcircumflex : c = '^'
    · subst hcircumflex
      rfl
    · simp [hcircumflex]

theorem readFirstBracket_forward (flags : Flags) (o : OpenSet) :
    Forward [')'] (readFirstBracket flags o) := by
  refine Forward.byHeadOr (Forward.unit o) rfl (fun _ => rfl) fun c => ?_
  by_cases hbracket : c = ']'
  · subst hbracket
    cases hitems : o.items.isEmpty with
    | false => exact Or.inr fun cs => by simp [readFirstBracket, hitems]
    | true =>
      -- something must come behind the bracket, if only the parenthesis
      have hmore : Forward [')'] fun cs => match cs with
          | [] => none
          | rest => some (o.push (.char ']'), rest) :=
        Forward.byHeadOrStop rfl fun d => Or.inr ⟨o.push (.char ']'), fun _ => rfl⟩
      refine Or.inl (hmore.afterSkip flags fun cs => ?_)
      simp only [readFirstBracket, hitems, if_true]
  · exact Or.inr fun cs => by simp [readFirstBracket, hbracket]

theorem readSetStart_forward (flags : Flags) (negated : Bool) :
    Forward [')'] (readSetStart flags negated) := by
  have hhyphens : Forward [')'] fun cs =>
      readLeadingHyphens flags (cs.length + 1) ⟨negated, none, []⟩ cs :=
    Forward.ofFuel (fun fuel => readLeadingHyphens_forward flags fuel ⟨negated, none, []⟩)
      fun hlt => readLeadingHyphens_fuel hlt (Nat.lt_succ_self _)
  exact hhyphens.andThen (readFirstBracket_forward flags) (fun h => by simp [readSetStart, h])
    (fun h => by simp [readSetStart, h])

theorem openSet_forward (flags : Flags) : Forward [')'] (openSet flags) := by
  refine Forward.afterSkip (g := fun cs => match cs with
    | '^' :: rest => readSetStart flags true (flags.skip rest)
    | cs => readSetStart flags false cs) ?_ flags (openSet_eq flags)
  refine Forward.byHeadOr (readSetStart_forward flags false) rfl (fun _ => rfl) fun c => ?_
  by_cases hcircumflex : c = '^'
  · subst hcircumflex
    exact Or.inl ((readSetStart_forward flags true).afterSkip flags fun _ => rfl)
  · exact Or.inr fun cs => by simp [hcircumflex]

/-! ## Items -/

/-- No named set has a parenthesis in its name. -/
theorem ofAsciiName?_eq_none {name : List Char} (hparen : ')' ∈ name) :
    CharSet.ofAsciiName? name = none := by
  have hnames : ∀ p ∈ CharSet.asciiNames, ')' ∉ p.1.toList := by decide
  refine List.lookup_eq_none_iff.mpr fun p hp => bne_iff_ne.mpr fun heq => ?_
  apply hnames p hp
  rwa [← heq, String.toList_ofList]

/-- Read the name of a set behind the circumflex. -/
def readAsciiName (flags : Flags) (negated : Bool) (cs : List Char) :
    Option (Option CharSet × List Char) :=
  match cs.dropWhile (· != ':') with
  | ':' :: ']' :: after =>
    (CharSet.ofAsciiName? (cs.takeWhile (· != ':'))).map fun s => (flags.close negated s, after)
  | _ => none

theorem readAsciiName_suffix {negated : Bool} {s : Option CharSet} {rest : List Char}
    (hread : readAsciiName flags negated cs = some (s, rest)) : rest <:+ cs := by
  unfold readAsciiName at hread
  split at hread
  · rename_i after hdrop
    obtain ⟨set, -, heq⟩ := Option.map_eq_some_iff.mp hread
    cases heq
    have hsuffix : ':' :: ']' :: rest <:+ cs := hdrop ▸ List.dropWhile_suffix _
    exact ((List.suffix_cons _ _).trans (List.suffix_cons _ _)).trans hsuffix
  · cases hread

theorem readAsciiName_keeps (flags : Flags) (negated : Bool) (cs : List Char) :
    Keeps (readAsciiName flags negated) cs := by
  intro back
  cases hcs : cs.dropWhile (· != ':') with
  | nil =>
    -- there is no colon, and a name that goes on behind the text holds the parenthesis
    have hall : ∀ c ∈ cs, (c != ':') = true := List.dropWhile_eq_nil_iff.mp hcs
    have htake : (cs ++ ')' :: back).takeWhile (· != ':') =
        cs ++ ')' :: back.takeWhile (· != ':') := by
      rw [List.takeWhile_append_of_pos hall]
      rfl
    have hname : CharSet.ofAsciiName? ((cs ++ ')' :: back).takeWhile (· != ':')) = none :=
      ofAsciiName?_eq_none (by simp [htake])
    simp only [readAsciiName, hcs, hname, Option.map_none]
    split <;> rfl
  | cons c after =>
    have hdrop : (cs ++ ')' :: back).dropWhile (· != ':') = c :: (after ++ ')' :: back) := by
      rw [List.dropWhile_append, hcs]
      rfl
    have htake : (cs ++ ')' :: back).takeWhile (· != ':') = cs.takeWhile (· != ':') := by
      have hlength :=
        congrArg List.length (List.takeWhile_append_dropWhile (p := (· != ':')) (l := cs))
      rw [List.takeWhile_append, if_neg]
      simp only [List.length_append, hcs, List.length_cons] at hlength
      omega
    simp only [readAsciiName, hdrop, htake, hcs]
    by_cases hcolon : c = ':'
    · subst hcolon
      cases after with
      | nil => rfl
      | cons d after =>
        by_cases hbracket : d = ']'
        · subst hbracket
          simp [Function.comp_def]
        · simp [hbracket]
    · simp [hcolon]

theorem readAsciiName_eq (flags : Flags) (start : Bool × List Char) :
    (match start with
      | (negated, rest) =>
        match rest.dropWhile (· != ':') with
        | ':' :: ']' :: after =>
          (CharSet.ofAsciiName? (rest.takeWhile (· != ':'))).map fun s =>
            (flags.close negated s, after)
        | _ => none) = readAsciiName flags start.1 start.2 :=
  rfl

theorem readAsciiSet_colon (hcircumflex : cs.head? ≠ some '^') :
    readAsciiSet flags (':' :: cs) = readAsciiName flags false cs := by
  cases cs with
  | nil => rfl
  | cons c rest =>
    have hc : c ≠ '^' := fun hc => hcircumflex (congrArg some hc)
    refine (readAsciiName_eq flags (match c :: rest with
      | '^' :: rest => (true, rest)
      | _ => (false, c :: rest))).trans ?_
    simp [hc]

theorem readAsciiSet_suffix {s : Option CharSet} {rest : List Char}
    (hread : readAsciiSet flags cs = some (s, rest)) : rest <:+ cs := by
  cases cs with
  | nil => cases hread
  | cons c cs =>
    by_cases hcolon : c = ':'
    · subst hcolon
      refine List.IsSuffix.trans ?_ (List.suffix_cons ':' cs)
      by_cases hcircumflex : cs.head? = some '^'
      · obtain ⟨cs, rfl⟩ := List.head?_eq_some_iff.mp hcircumflex
        exact (readAsciiName_suffix hread).trans (List.suffix_cons '^' cs)
      · exact readAsciiName_suffix ((readAsciiSet_colon hcircumflex).symm.trans hread)
    · simp [readAsciiSet, hcolon] at hread

theorem readAsciiSet_keeps (flags : Flags) (cs : List Char) : Keeps (readAsciiSet flags) cs := by
  intro back
  cases cs with
  | nil => rfl
  | cons c cs =>
    by_cases hcolon : c = ':'
    · subst hcolon
      by_cases hcircumflex : cs.head? = some '^'
      · obtain ⟨cs, rfl⟩ := List.head?_eq_some_iff.mp hcircumflex
        exact readAsciiName_keeps flags true cs back
      · have hback : (cs ++ ')' :: back).head? ≠ some '^' := by
          cases cs with
          | nil => simp
          | cons d cs => simpa using hcircumflex
        rw [readAsciiSet_colon hcircumflex, List.cons_append, readAsciiSet_colon hback]
        exact readAsciiName_keeps flags false cs back
    · simp [readAsciiSet, hcolon]

/-- What an item makes of a text, by what is done with the item. A word boundary is no item. -/
theorem readItem_andThen (flags : Flags) {k : Escape → List Char → Option (β × List Char)}
    {h : List Char → Option (β × List Char)} (hk : ∀ e, Forward edge (k e))
    (hlook : ∀ l cs, k (.look l) cs = none)
    (hnone : ∀ {cs}, readItem flags cs = none → h cs = none)
    (hsome : ∀ {cs e rest}, readItem flags cs = some (e, rest) → h cs = k e rest) (c : Char) :
    Forward edge fun cs => h (c :: cs) := by
  by_cases hescape : c = '\\'
  · subst hescape
    refine Forward.byHead (hnone rfl) fun d => ?_
    by_cases hboundary : d = 'b'
    · -- the one escape sequence whose reader is not `Forward` is refused here
      subst hboundary
      refine Forward.refuse.congr fun cs => ?_
      cases hread : readBoundary flags cs with
      | none =>
        apply hnone
        simp only [readItem, readEscape_boundary, hread, Option.map_none]
      | some p =>
        have hitem : readItem flags ('\\' :: 'b' :: cs) = some (.look p.1, p.2) := by
          simp only [readItem, readEscape_boundary, hread, Option.map_some]
        rw [hsome hitem, hlook]
    · exact (readEscape_forward flags hboundary).weaken.andThen hk (fun h => hnone h)
        (fun h => hsome h)
  · refine (hk (.literal c false)).congr fun cs => hsome ?_
    simp [readItem]

/-! ## Ranges -/

theorem peekPast_append (inComment : Bool) (cs back : List Char) :
    peekPast inComment (cs ++ ')' :: back) = (peekPast inComment cs).or (some ')') := by
  induction cs generalizing inComment with
  | nil => cases inComment <;> rfl
  | cons c cs ih =>
    simp only [List.cons_append, peekPast, ih]
    split
    · rfl
    · split <;> rfl

/-- A parenthesis is neither a bracket nor a hyphen. -/
theorem endsBeforeRange_append (flags : Flags) (cs back : List Char) :
    endsBeforeRange flags (cs ++ ')' :: back) = endsBeforeRange flags cs := by
  unfold endsBeforeRange
  cases flags.verbose with
  | true =>
    simp only [if_true, peekPast_append]
    cases peekPast false cs <;> rfl
  | false => cases cs <;> rfl

/-- Read the last item of a range. -/
def readRangeEnd (flags : Flags) (first : Escape) (cs : List Char) :
    Option (CharSet × List Char) :=
  match readItem flags cs with
  | none => none
  | some (last, rest) =>
    match first.char? flags, last.char? flags with
    | some a, some b => if a ≤ b then some (.range a b, rest) else none
    | _, _ => none

/-- Read what follows an item: the rest of a range or nothing. -/
def readAfterItem (flags : Flags) (first : Escape) : List Char → Option (CharSet × List Char)
  | [] => none
  | '-' :: rest =>
    if endsBeforeRange flags rest then (first.set? flags).map fun s => (s, '-' :: rest)
    else
      match flags.skip rest with
      | [] => none
      | rest => readRangeEnd flags first rest
  | rest => (first.set? flags).map fun s => (s, rest)

theorem readRangeEnd_forward (flags : Flags) (first : Escape) (c : Char) :
    Forward edge fun cs => readRangeEnd flags first (c :: cs) := by
  refine readItem_andThen flags (k := fun last cs =>
    (match first.char? flags, last.char? flags with
    | some a, some b => if a ≤ b then some (CharSet.range a b) else none
    | _, _ => none).map fun s => (s, cs)) (fun last => Forward.ofOption _) (fun l cs => ?_)
    (fun h => by simp [readRangeEnd, h]) (fun h => ?_) c
  · cases first.char? flags <;> rfl
  · simp only [readRangeEnd, h]
    split
    · split <;> rfl
    · rfl

/-- Whether a text begins with a hyphen that makes no range. -/
def hyphenEnds (flags : Flags) : List Char → Bool
  | '-' :: rest => endsBeforeRange flags rest
  | _ => false

theorem hyphenEnds_append (flags : Flags) (cs back : List Char) :
    hyphenEnds flags (cs ++ ')' :: back) = hyphenEnds flags cs := by
  cases cs with
  | nil => rfl
  | cons c cs =>
    by_cases hhyphen : c = '-'
    · subst hhyphen
      exact endsBeforeRange_append flags cs back
    · simp [hyphenEnds, hhyphen]

theorem readAfterItem_forward (flags : Flags) (first : Escape) :
    Forward [')'] (readAfterItem flags first) := by
  have hstop : Forward [')'] fun cs => (first.set? flags).map fun s => (s, cs) :=
    Forward.ofOption (first.set? flags)
  have hrange : Forward [')'] fun cs => match flags.skip cs with
      | [] => none
      | rest => readRangeEnd flags first rest := by
    refine Forward.afterSkip (g := fun cs => match cs with
      | [] => none
      | rest => readRangeEnd flags first rest) ?_ flags fun _ => rfl
    exact Forward.byHead rfl (readRangeEnd_forward flags first)
  -- where a hyphen makes no range, or none comes, the item stands alone
  have hgo : Forward [')'] fun cs => match cs with
      | [] => none
      | '-' :: rest =>
        match flags.skip rest with
        | [] => none
        | rest => readRangeEnd flags first rest
      | rest => (first.set? flags).map fun s => (s, rest) := by
    refine Forward.byHeadOrStop rfl fun c => ?_
    by_cases hhyphen : c = '-'
    · subst hhyphen
      exact Or.inl hrange
    · cases hset : first.set? flags with
      | none => exact Or.inl (Forward.refuse.congr fun cs => by simp [hhyphen])
      | some s => exact Or.inr ⟨s, fun cs => by simp [hhyphen]⟩
  refine (Forward.choice (hyphenEnds_append flags) hstop hgo).congr fun cs => ?_
  cases cs with
  | nil => rfl
  | cons c cs =>
    by_cases hhyphen : c = '-'
    · subst hhyphen
      rfl
    · simp [readAfterItem, hyphenEnds, hhyphen]

theorem readRange_eq (flags : Flags) (cs : List Char) : readRange flags cs =
    match readItem flags cs with
    | none => none
    | some (first, rest) => readAfterItem flags first (flags.skip rest) :=
  rfl

theorem readAfterItem_look (flags : Flags) (l : Look) (cs : List Char) :
    readAfterItem flags (.look l) cs = none := by
  unfold readAfterItem
  split
  · rfl
  · split
    · rfl
    · split
      · rfl
      · unfold readRangeEnd
        split <;> rfl
  · rfl

theorem readRange_forward (flags : Flags) (c : Char) :
    Forward [')'] fun cs => readRange flags (c :: cs) := by
  refine readItem_andThen flags (k := fun first cs => readAfterItem flags first (flags.skip cs))
    (fun first => (readAfterItem_forward flags first).afterSkip flags fun _ => rfl)
    (fun l cs => readAfterItem_look flags l _) (fun h => ?_) (fun h => ?_) c
  · rw [readRange_eq, h]
  · rw [readRange_eq, h]

/-! ## The whole set -/

/-- A reader of the rest of the sets that are open, by the innermost and those around it. -/
abbrev SetReader := OpenSet → List OpenSet → List Char → Option (CharSet × List Char)

section Step

variable {next next' : SetReader} {current : OpenSet} {outer : List OpenSet}

/-- Read an item or a range of the set at hand, and go on with `next`. -/
def readListed (flags : Flags) (next : SetReader) : SetReader := fun current outer cs =>
  match readRange flags cs with
  | none => none
  | some (s, rest) => next (current.push s) outer rest

/-- Read the start of a set inside the one at hand, and go on with `next` in it. -/
def readNested (flags : Flags) (next : SetReader) : SetReader := fun current outer cs =>
  match openSet flags cs with
  | none => none
  | some (inner, rest) => next inner (current :: outer) rest

/-- Read what follows an opening bracket, and go on with `next`. -/
def readInner (flags : Flags) (next : SetReader) : SetReader := fun current outer cs =>
  match readAsciiSet flags cs with
  | some (some s, rest) => next (current.push s) outer rest
  | some (none, _) => none
  | none =>
    match openSet flags cs with
    | none => none
    | some (inner, rest) => next inner (current :: outer) rest

/-- Close the set at hand, and go on with `next` in the one around it. -/
def closeSet (flags : Flags) (next : SetReader) : SetReader := fun current outer cs =>
  match current.close flags with
  | none => none
  | some s =>
    match outer with
    | [] => some (s, cs)
    | parent :: outer => next (parent.push s) outer cs

/-- Read one part of the set at hand, and go on with `next`. -/
def readOpenSet (flags : Flags) (next : SetReader) : SetReader := fun current outer cs =>
  match cs with
  | [] => none
  | '[' :: rest => readInner flags next current outer rest
  | ']' :: rest => closeSet flags next current outer rest
  | '&' :: '&' :: rest => next (current.operate flags .inter) outer rest
  | '-' :: '-' :: rest => next (current.operate flags .diff) outer rest
  | '~' :: '~' :: rest => next (current.operate flags .symmDiff) outer rest
  | cs => readListed flags next current outer cs

theorem readOpenSets_succ (flags : Flags) (fuel : Nat) (current : OpenSet)
    (outer : List OpenSet) (cs : List Char) : readOpenSets flags (fuel + 1) current outer cs =
      readOpenSet flags (readOpenSets flags fuel) current outer (flags.skip cs) :=
  rfl

section Forward

variable (hnext : ∀ current outer, Forward [] (next current outer))

include hnext

theorem closeSet_forward : Forward [] (closeSet flags next current outer) := by
  unfold closeSet
  cases current.close flags with
  | none => exact Forward.refuse
  | some s =>
    cases outer with
    | nil => exact Forward.unit s
    | cons parent outer => exact hnext (parent.push s) outer

variable (hlt : ∀ {current outer cs s rest}, next current outer cs = some (s, rest) →
  rest.length < cs.length)

include hlt

theorem readListed_forward (c : Char) :
    Forward [] fun cs => readListed flags next current outer (c :: cs) :=
  (readRange_forward flags c).andThen_of_length_lt (fun s => hnext (current.push s) outer) hlt
    (fun h => by simp only [readListed, h]) (fun h => by simp only [readListed, h])

theorem readInner_forward : Forward [] (readInner flags next current outer) := by
  have hinner : Forward [] (readNested flags next current outer) :=
    (openSet_forward flags).andThen_of_length_lt (fun inner => hnext inner (current :: outer)) hlt
      (fun h => by simp only [readNested, h]) (fun h => by simp only [readNested, h])
  refine Forward.orElse (f := readAsciiSet flags)
    (k := fun s cs => s.bind fun s => next (current.push s) outer cs) readAsciiSet_suffix
    (readAsciiSet_keeps flags) (fun s => ?_) hinner
    (fun h => by simp only [readInner, readNested, h]) (fun {cs s rest} h => ?_)
  · cases s with
    | none => exact Forward.refuse
    | some s => exact hnext (current.push s) outer
  · cases s <;> simp only [readInner, h, Option.bind]

theorem readOpenSet_forward (c : Char) :
    Forward [] fun cs => readOpenSet flags next current outer (c :: cs) := by
  have hlisted : Forward [] fun cs => readListed flags next current outer (c :: cs) :=
    readListed_forward hnext hlt c
  by_cases hopen : c = '['
  · subst hopen
    exact readInner_forward hnext hlt
  by_cases hclose : c = ']'
  · subst hclose
    exact closeSet_forward hnext
  by_cases hand : c = '&'
  · subst hand
    exact Forward.byCharOr '&' (by decide) (hnext _ outer) hlisted rfl
      fun d hd cs => by simp [readOpenSet, hd]
  by_cases hminus : c = '-'
  · subst hminus
    exact Forward.byCharOr '-' (by decide) (hnext _ outer) hlisted rfl
      fun d hd cs => by simp [readOpenSet, hd]
  by_cases htilde : c = '~'
  · subst htilde
    exact Forward.byCharOr '~' (by decide) (hnext _ outer) hlisted rfl
      fun d hd cs => by simp [readOpenSet, hd]
  · exact hlisted.congr fun cs => by simp [readOpenSet, hopen, hclose, hand, hminus, htilde]

end Forward

section Congr

variable (heq : ∀ current outer rest, rest.length ≤ cs.length →
  next current outer rest = next' current outer rest)

include heq

theorem readListed_congr (c : Char) : readListed flags next current outer (c :: cs) =
    readListed flags next' current outer (c :: cs) := by
  unfold readListed
  cases hread : readRange flags (c :: cs) with
  | none => rfl
  | some p => exact heq _ _ _ ((readRange_forward flags c).suffix hread).length_le

theorem readInner_congr :
    readInner flags next current outer cs = readInner flags next' current outer cs := by
  unfold readInner
  cases hascii : readAsciiSet flags cs with
  | none =>
    cases hopen : openSet flags cs with
    | none => rfl
    | some p => exact heq _ _ _ ((openSet_forward flags).suffix hopen).length_le
  | some p =>
    obtain ⟨s, rest⟩ := p
    cases s with
    | none => rfl
    | some s => exact heq _ _ _ (readAsciiSet_suffix hascii).length_le

theorem closeSet_congr :
    closeSet flags next current outer cs = closeSet flags next' current outer cs := by
  unfold closeSet
  cases current.close flags with
  | none => rfl
  | some s =>
    cases outer with
    | nil => rfl
    | cons parent outer => exact heq _ _ _ (Nat.le_refl _)

/-- What is read of a text depends only on what is read of shorter ones. -/
theorem readOpenSet_congr (c : Char) : readOpenSet flags next current outer (c :: cs) =
    readOpenSet flags next' current outer (c :: cs) := by
  unfold readOpenSet
  split
  · rfl
  · rename_i hcs
    obtain ⟨-, rfl⟩ := List.cons.inj hcs
    exact readInner_congr heq
  · rename_i hcs
    obtain ⟨-, rfl⟩ := List.cons.inj hcs
    exact closeSet_congr heq
  iterate 3
    · -- an operator is two characters long
      rename_i hcs
      obtain ⟨-, rfl⟩ := List.cons.inj hcs
      exact heq _ _ _ (Nat.le_succ _)
  · exact readListed_congr heq c

end Congr

end Step

theorem readOpenSets_forward (flags : Flags) (fuel : Nat) (current : OpenSet)
    (outer : List OpenSet) : Forward [] (readOpenSets flags fuel current outer) ∧
      ∀ {cs s rest}, readOpenSets flags fuel current outer cs = some (s, rest) →
        rest.length < cs.length := by
  induction fuel generalizing current outer with
  | zero => exact ⟨Forward.refuse, fun h => by cases h⟩
  | succ fuel ih =>
    have hcons : ∀ c, Forward [] fun cs =>
        readOpenSet flags (readOpenSets flags fuel) current outer (c :: cs) :=
      readOpenSet_forward (fun current outer => (ih current outer).1)
        (fun {current outer _ _ _} h => (ih current outer).2 h)
    refine ⟨(Forward.byHead rfl hcons).afterSkip flags (readOpenSets_succ flags fuel current outer),
      fun {cs s rest} hread => ?_⟩
    rw [readOpenSets_succ] at hread
    have hrest : rest.length < (flags.skip cs).length := Forward.length_lt rfl hcons hread
    exact hrest.trans_le (flags.length_skip_le cs)

theorem readOpenSets_fuel {n m : Nat} {current : OpenSet} {outer : List OpenSet}
    (hn : cs.length < n) (hm : cs.length < m) :
    readOpenSets flags n current outer cs = readOpenSets flags m current outer cs := by
  refine Forward.eq_of_fuel
    (f := fun n (sets : OpenSet × List OpenSet) => readOpenSets flags n sets.1 sets.2)
    (i := (current, outer)) (fun {n m sets cs} hrest => ?_) hn hm
  simp only [readOpenSets_succ]
  cases hcs : flags.skip cs with
  | nil => rfl
  | cons c rest =>
    have hlt := Flags.length_lt_of_skip_eq_cons hcs
    exact readOpenSet_congr
      (fun current outer rest' hle => hrest (current, outer) rest' (hle.trans_lt hlt)) c

theorem readBracket_forward (flags : Flags) : Forward [] (readBracket flags) := by
  refine Forward.ofFuel (f := fun fuel cs => match openSet flags cs with
    | none => none
    | some (o, rest) => readOpenSets flags fuel o [] rest) (fun fuel => ?_) (fun {n cs} hlt => ?_)
  · exact (openSet_forward flags).andThen_of_length_lt
      (fun o => (readOpenSets_forward flags fuel o []).1)
      (fun {o _ _ _} h => (readOpenSets_forward flags fuel o []).2 h)
      (fun h => by simp only [h]) (fun h => by simp only [h])
  · simp only [readBracket]
    cases hopen : openSet flags cs with
    | none => rfl
    | some p =>
      have hle : p.2.length ≤ cs.length := ((openSet_forward flags).suffix hopen).length_le
      exact readOpenSets_fuel (by omega) (by omega)

end CellSearch.Regex
