import Mathlib
import CellSearch.Proofs.Regex.Forward

/-!
# Readers of numbers

The readers of digits and of repetition counts are `Forward`. Those that have fuel are so for any
fuel, and the fuel they are given is enough, so that more of it for a longer text changes nothing.
-/

namespace CellSearch.Regex

open CellSearch.Unicode

variable {flags : Flags} {cs : List Char}

/-! ## Characters of one kind -/

/-- Read characters of one kind, at most as many as there is fuel. -/
def readWhile (p : Char → Bool) (flags : Flags) :
    (fuel : Nat) → List Char → List Char × List Char
  | 0, cs => ([], cs)
  | _, [] => ([], [])
  | fuel + 1, c :: rest =>
    if p c then
      let (taken, rest) := readWhile p flags fuel (flags.skip rest)
      (c :: taken, rest)
    else ([], c :: rest)

variable {p : Char → Bool}

theorem readWhile_fuel {n m : Nat} (hn : cs.length ≤ n) (hm : cs.length ≤ m) :
    readWhile p flags n cs = readWhile p flags m cs := by
  induction n generalizing m cs with
  | zero =>
    obtain rfl := List.length_eq_zero_iff.mp (Nat.le_zero.mp hn)
    cases m <;> rfl
  | succ n ih =>
    cases cs with
    | nil => cases m <;> rfl
    | cons c rest =>
      cases m with
      | zero => exact absurd hm (by simp)
      | succ m =>
        -- skipping makes the text no longer, so that what is left of the fuel is enough
        have hskip := flags.length_skip_le rest
        simp only [List.length_cons] at hn hm
        have heq : readWhile p flags n (flags.skip rest) = readWhile p flags m (flags.skip rest) :=
          ih (by omega) (by omega)
        simp only [readWhile, heq]

theorem readWhile_forward_of_fuel (hparen : p ')' = false) (flags : Flags) (fuel : Nat) :
    Forward [] fun cs => some (readWhile p flags fuel cs) := by
  induction fuel with
  | zero => exact (Forward.unit []).congr fun cs => by cases cs <;> rfl
  | succ fuel ih =>
    refine Forward.byHeadOr (Forward.unit []) rfl (fun cs => ?_) (fun c => ?_)
    · simp [readWhile, hparen]
    · cases hc : p c with
      | false => exact Or.inr fun cs => by simp [readWhile, hc]
      | true =>
        have hrest : Forward [] fun cs => some (readWhile p flags fuel (flags.skip cs)) :=
          ih.afterSkip flags fun _ => rfl
        refine Or.inl (hrest.filterMap (fun taken => some (c :: taken)) (fun h => by cases h) ?_)
        intro cs taken rest hread
        simp only [Option.some.injEq] at hread
        simp [readWhile, hc, hread]

/-- The fuel of a text is its length. -/
theorem readWhile_forward (hparen : p ')' = false) (flags : Flags) :
    Forward [] fun cs => some (readWhile p flags cs.length cs) :=
  Forward.ofFuel (readWhile_forward_of_fuel hparen flags)
    fun hlt => congrArg some (readWhile_fuel hlt.le (Nat.le_refl _))

/-! ## Decimal numbers -/

theorem readDigits_eq (flags : Flags) (fuel : Nat) (cs : List Char) :
    readDigits flags fuel cs = readWhile Char.isDigit flags fuel cs := by
  induction fuel generalizing cs with
  | zero => cases cs <;> rfl
  | succ fuel ih =>
    cases cs with
    | nil => rfl
    | cons c rest => simp only [readDigits, readWhile, ih]

theorem readDecimal_forward (flags : Flags) : Forward [] (readDecimal flags) := by
  have hdigits : Forward [] fun cs => some (readDigits flags cs.length cs) :=
    (readWhile_forward (p := Char.isDigit) rfl flags).congr fun cs => by rw [readDigits_eq]
  have hblanks : Forward [] fun cs => some ((), cs.dropWhile isWhiteSpace) :=
    dropWhile_forward (by decide)
  have hnumber : Forward [] fun cs =>
      let (digits, rest) := readDigits flags cs.length cs
      let value := Nat.ofDigitChars 10 digits 0
      if digits.isEmpty || value ≥ 0x100000000 then none
      else some (value, rest.dropWhile isWhiteSpace) := by
    refine hdigits.andThen (k := fun digits rest =>
      let value := Nat.ofDigitChars 10 digits 0
      if digits.isEmpty || value ≥ 0x100000000 then none
      else some (value, rest.dropWhile isWhiteSpace)) (fun digits => ?_)
      (fun h => by cases h) (fun h => ?_)
    · exact Forward.ite Forward.refuse
        (hblanks.filterMap (fun _ => some (Nat.ofDigitChars 10 digits 0))
          (fun h => by cases h) (fun h => by cases h; rfl))
    · simp only [Option.some.injEq] at h
      simp only [h]
  exact hblanks.andThen (fun _ => hnumber) (fun h => by cases h) (fun h => by cases h; rfl)

/-! ## Hexadecimal numbers -/

theorem readHexDigits_forward (flags : Flags) (count acc : Nat) :
    Forward [] (readHexDigits flags count acc) := by
  induction count generalizing acc with
  | zero => exact (Forward.unit acc).congr fun cs => by cases cs <;> rfl
  | succ count ih =>
    refine Forward.byHead rfl fun c => ?_
    cases hvalue : hexValue? c with
    | none => exact Forward.refuse.congr fun cs => by simp [readHexDigits, hvalue]
    | some d =>
      exact (ih (16 * acc + d)).afterSkip flags fun cs => by simp [readHexDigits, hvalue]

theorem readHexBraced_fuel {n m : Nat} {acc : Option Nat} (hn : cs.length < n)
    (hm : cs.length < m) : readHexBraced flags n acc cs = readHexBraced flags m acc cs := by
  refine Forward.eq_of_fuel (f := readHexBraced flags) (fun {n m acc cs} hrest => ?_) hn hm
  simp only [readHexBraced]
  cases hcs : flags.skip cs with
  | nil => rfl
  | cons c rest =>
    have heq : ∀ acc, readHexBraced flags n acc rest = readHexBraced flags m acc rest :=
      fun acc => hrest acc rest (Flags.length_lt_of_skip_eq_cons hcs)
    split <;> simp_all

/-- Read the rest of a code point in braces behind the white space. -/
def readHexBracedFrom (flags : Flags) (fuel : Nat) (acc : Option Nat) :
    List Char → Option (Nat × List Char)
  | [] => none
  | '\x7d' :: rest => acc.map fun n => (n, flags.skip rest)
  | c :: rest =>
    match hexValue? c with
    | none => none
    | some d => readHexBraced flags fuel (some (16 * acc.getD 0 + d)) rest

theorem readHexBraced_forward (flags : Flags) (fuel : Nat) (acc : Option Nat) :
    Forward [] (readHexBraced flags fuel acc) := by
  induction fuel generalizing acc with
  | zero => exact Forward.refuse
  | succ fuel ih =>
    refine Forward.afterSkip (g := readHexBracedFrom flags fuel acc) ?_ flags fun _ => rfl
    refine Forward.byHead rfl fun c => ?_
    by_cases hbrace : c = '\x7d'
    · subst hbrace
      exact (Forward.ofOption acc).afterSkip flags fun _ => rfl
    · cases hvalue : hexValue? c with
      | none => exact Forward.refuse.congr fun cs => by simp [readHexBracedFrom, hvalue]
      | some d =>
        exact (ih (some (16 * acc.getD 0 + d))).congr fun cs => by simp [readHexBracedFrom, hvalue]

/-! ## Repetition counts -/

/-- Read the greatest count of a repetition and the closing brace. -/
def readMost (flags : Flags) (least : Nat) (cs : List Char) : Option (Bounds × List Char) :=
  match readDecimal flags cs with
  | some (most, '\x7d' :: rest) => if least ≤ most then some (⟨least, some most⟩, rest) else none
  | _ => none

/-- Read what follows the least count of a repetition. -/
def readAfterLeast (flags : Flags) (least : Nat) : List Char → Option (Bounds × List Char)
  | ',' :: rest =>
    match flags.skip rest with
    | '\x7d' :: rest => some (⟨least, none⟩, rest)
    | rest => readMost flags least rest
  | '\x7d' :: rest => some (⟨least, some least⟩, rest)
  | _ => none

theorem readBounds_eq (flags : Flags) (cs : List Char) : readBounds flags cs =
    (readDecimal flags (flags.skip cs)).bind fun (least, rest) =>
      readAfterLeast flags least rest := by
  unfold readBounds
  cases readDecimal flags (flags.skip cs) with
  | none => rfl
  | some p =>
    obtain ⟨least, rest⟩ := p
    cases rest with
    | nil => rfl
    | cons c rest =>
      by_cases hcomma : c = ','
      · subst hcomma
        rfl
      · by_cases hbrace : c = '\x7d'
        · subst hbrace
          rfl
        · simp [readAfterLeast, hcomma, hbrace]

theorem readMost_forward (flags : Flags) (least : Nat) : Forward [] (readMost flags least) := by
  refine (readDecimal_forward flags).andThen (k := fun most cs => match cs with
    | '\x7d' :: rest => if least ≤ most then some (Bounds.mk least (some most), rest) else none
    | _ => none) (fun most => ?_) (fun h => by simp [readMost, h]) (fun h => ?_)
  · exact Forward.byChar '\x7d' (Forward.ite (Forward.unit _) Forward.refuse) rfl
      fun d hd cs => by simp [hd]
  · simp only [readMost, h]
    split <;> simp_all

theorem readAfterLeast_forward (flags : Flags) (least : Nat) :
    Forward [] (readAfterLeast flags least) := by
  refine Forward.byHead rfl fun c => ?_
  by_cases hcomma : c = ','
  · subst hcomma
    -- behind the comma the brace closes an open range, and a number bounds it
    refine Forward.afterSkip (g := fun cs => match cs with
      | '\x7d' :: rest => some (⟨least, none⟩, rest)
      | rest => readMost flags least rest) ?_ flags fun _ => rfl
    refine Forward.byHeadOr (readMost_forward flags least) rfl (fun _ => rfl) fun d => ?_
    by_cases hbrace : d = '\x7d'
    · subst hbrace
      exact Or.inl (Forward.unit _)
    · exact Or.inr fun cs => by simp [hbrace]
  · by_cases hbrace : c = '\x7d'
    · subst hbrace
      exact Forward.unit _
    · exact Forward.refuse.congr fun cs => by simp [readAfterLeast, hcomma, hbrace]

theorem readBounds_of_skip_eq_nil (h : flags.skip cs = []) : readBounds flags cs = none := by
  rw [readBounds_eq, h]
  rfl

theorem readBounds_forward (flags : Flags) : Forward [] (readBounds flags) := by
  have hcounts : Forward [] fun cs =>
      (readDecimal flags cs).bind fun (least, rest) => readAfterLeast flags least rest :=
    (readDecimal_forward flags).andThen (readAfterLeast_forward flags) (fun h => by rw [h]; rfl)
      (fun h => by rw [h]; rfl)
  exact hcounts.afterSkip flags (readBounds_eq flags)

end CellSearch.Regex
