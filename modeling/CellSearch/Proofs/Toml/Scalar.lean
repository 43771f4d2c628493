import Mathlib
import CellSearch.Toml.Read
import CellSearch.Toml.Write

/-!
# Values that are read back

What is written for a value is read as that value, up to the end of its line (`readValue_write`).
A value without quotes is a word that no delimiter cuts short, and the only question is what the
word means; a value between quotes holds nothing that is escaped.
-/

namespace CellSearch.Toml

variable {cs word rest : List Char} {d : Document} {n : Int}

/-- A reader that takes characters of one kind stops at the first of another. -/
theorem cut_append_cons {α : Type} {p : α → Bool} {xs rest : List α} {a : α}
    (hxs : ∀ x ∈ xs, p x = true) (ha : p a = false) :
    (xs ++ a :: rest).takeWhile p = xs ∧ (xs ++ a :: rest).dropWhile p = a :: rest := by
  have hstop : ¬ p a = true := by simp [ha]
  constructor
  · rw [List.takeWhile_append_of_pos hxs, List.takeWhile_cons_of_neg hstop, List.append_nil]
  · rw [List.dropWhile_append_of_pos hxs, List.dropWhile_cons_of_neg hstop]

/-! ## Whole numbers -/

theorem areDigits_of_forall {isDigit : Char → Bool} (h : ∀ c ∈ cs, isDigit c = true)
    (afterDigit : Bool) (hne : afterDigit = true ∨ cs ≠ []) :
    areDigits isDigit afterDigit cs = true := by
  induction cs generalizing afterDigit with
  | nil => simpa [areDigits] using hne
  | cons c cs ih =>
    rw [areDigits, if_pos (h c List.mem_cons_self)]
    exact ih (fun c' hc' => h c' (List.mem_cons_of_mem c hc')) true (Or.inl rfl)

theorem isDigit_of_mem_toDigits {n : Nat} {c : Char} (hc : c ∈ Nat.toDigits 10 n) :
    c.isDigit = true :=
  Nat.isDigit_of_mem_toDigits (by decide) (by decide) hc

/-- A number other than zero does not begin with a zero. -/
theorem head?_toDigits {n : Nat} (hn : 0 < n) : (Nat.toDigits 10 n).head? ≠ some '0' := by
  induction n using Nat.strongRecOn with
  | ind n ih =>
    rw [Nat.toDigits_eq_if (by decide)]
    split
    · rename_i hlt
      interval_cases n <;> decide
    · rw [List.head?_append_of_ne_nil _ Nat.toDigits_ne_nil]
      exact ih (n / 10) (by omega) (by omega)

theorem isUnsigned_toDigits (n : Nat) : isUnsigned (Nat.toDigits 10 n) = true := by
  have hdigits : areDigits Char.isDigit false (Nat.toDigits 10 n) = true :=
    areDigits_of_forall (fun _ => isDigit_of_mem_toDigits) false (Or.inr Nat.toDigits_ne_nil)
  rw [isUnsigned, hdigits, Bool.true_and]
  rcases Nat.eq_zero_or_pos n with rfl | hn
  · rfl
  · rw [bne_iff_ne.mpr (head?_toDigits hn), Bool.or_true]

theorem valueInBase_toDigits (n : Nat) : valueInBase 10 (Nat.toDigits 10 n) = n := by
  have hfilter : (Nat.toDigits 10 n).filter (· != '_') = Nat.toDigits 10 n := by
    rw [List.filter_eq_self]
    intro c hc
    have hdigit := isDigit_of_mem_toDigits hc
    rw [bne_iff_ne]
    rintro rfl
    exact absurd hdigit (by decide)
  have hvalue : ∀ c ∈ Nat.toDigits 10 n, digitValue c = c.toNat - '0'.toNat := by
    intro c hc
    rw [digitValue, if_pos (isDigit_of_mem_toDigits hc)]
  calc valueInBase 10 (Nat.toDigits 10 n)
      = (Nat.toDigits 10 n).foldl (fun n c => 10 * n + digitValue c) 0 := by
        rw [valueInBase, hfilter]
    _ = Nat.ofDigitChars 10 (Nat.toDigits 10 n) 0 := by
        rw [Nat.ofDigitChars_eq_foldl]
        exact List.foldl_ext _ _ _ fun m c hc => by rw [hvalue c hc]
    _ = n := Nat.ofDigitChars_ten_toDigits

/-- The digits of a number, with a sign before them or not. -/
theorem integer?_toDigits (n : Nat) :
    integer? (Nat.toDigits 10 n) = some (n : Int) ∧
      integer? ('-' :: Nat.toDigits 10 n) = some (-n : Int) := by
  have hdigit : ∀ c ∈ Nat.toDigits 10 n, c.isDigit = true := fun _ => isDigit_of_mem_toDigits
  have hunsigned := isUnsigned_toDigits n
  have hvalue := valueInBase_toDigits n
  generalize Nat.toDigits 10 n = cs at hdigit hunsigned hvalue
  refine ⟨?_, ?_⟩
  · unfold integer?
    split
    · exact absurd (hdigit 'x' (by simp)) (by decide)
    · exact absurd (hdigit 'o' (by simp)) (by decide)
    · exact absurd (hdigit 'b' (by simp)) (by decide)
    · have hsign : splitSign cs = (false, cs) := by
        unfold splitSign
        split
        · exact absurd (hdigit '-' (by simp)) (by decide)
        · exact absurd (hdigit '+' (by simp)) (by decide)
        · rfl
      simp [hsign, hunsigned, hvalue]
  · simp [integer?, splitSign, hunsigned, hvalue]

theorem toList_toString_int (n : Int) :
    (toString n).toList =
      if 0 ≤ n then Nat.toDigits 10 n.toNat else '-' :: Nat.toDigits 10 (-n).toNat := by
  rw [Int.toString_eq_repr, Int.repr_eq_if]
  split
  · exact Nat.toList_repr
  · rw [String.toList_append, Nat.toList_repr]
    rfl

theorem integer?_toString (n : Int) : integer? (toString n).toList = some n := by
  rw [toList_toString_int]
  split
  · rename_i hn
    rw [(integer?_toDigits _).1, Int.toNat_of_nonneg hn]
  · rename_i hn
    rw [(integer?_toDigits _).2, Int.toNat_of_nonneg (by omega), neg_neg]

theorem mem_toString_int {c : Char} (hc : c ∈ (toString n).toList) :
    c = '-' ∨ c.isDigit = true := by
  rw [toList_toString_int] at hc
  split at hc
  · exact Or.inr (isDigit_of_mem_toDigits hc)
  · rcases List.mem_cons.mp hc with rfl | hc
    · exact Or.inl rfl
    · exact Or.inr (isDigit_of_mem_toDigits hc)

theorem scalar?_toString (h : isWritable n = true) :
    scalar? (toString n).toList = some (.integer n) := by
  have hother : ∀ c more, c ≠ '-' → c.isDigit = false → (toString n).toList ≠ c :: more := by
    intro c more hsign hdigit heq
    have hc : c ∈ (toString n).toList := by
      rw [heq]
      exact List.mem_cons_self
    rcases mem_toString_int hc with rfl | htrue
    · exact hsign rfl
    · rw [hdigit] at htrue
      cases htrue
  have hreadable : isReadable n = true := by
    simp only [isWritable, isReadable, Bool.and_eq_true, decide_eq_true_eq] at h ⊢
    omega
  have htrue : (toString n).toList ≠ "true".toList := hother 't' _ (by decide) (by decide)
  have hfalse : (toString n).toList ≠ "false".toList := hother 'f' _ (by decide) (by decide)
  rw [scalar?, if_neg htrue, if_neg hfalse, integer?_toString]
  simp only [hreadable, if_true]

/-! ## Words -/

theorem endsScalar_iff {c : Char} : endsScalar c = true ↔
    c ∈ [' ', '\t', '\n', '\r', '#', ',', ']', '\x7d', '\x7b', '[', '=', '"', '\''] := by
  simp [endsScalar, isBlank, or_assoc]

/-- Nothing that ends a word is in a written number. -/
theorem endsScalar_of_mem_toString {c : Char} (hc : c ∈ (toString n).toList) :
    endsScalar c = false := by
  have hother : ∀ c ∈ [' ', '\t', '\n', '\r', '#', ',', ']', '\x7d', '\x7b', '[', '=', '"', '\''],
      c ≠ '-' ∧ c.isDigit = false := by simp
  rw [Bool.eq_false_iff]
  intro hends
  rcases hother c (endsScalar_iff.mp hends) with ⟨hsign, hdigit⟩
  rcases mem_toString_int hc with rfl | htrue
  · exact hsign rfl
  · rw [hdigit] at htrue
    cases htrue

/-- A word that means something is read up to the end of its line. -/
theorem readScalar_append (hword : ∀ c ∈ word, endsScalar c = false) (hd : scalar? word = some d)
    (rest : List Char) :
    readScalar (word ++ '\n' :: rest) = some (d, '\n' :: rest) := by
  have hinside : ∀ c ∈ word, (!endsScalar c) = true := by
    intro c hc
    rw [hword c hc, Bool.not_false]
  have hcut : (word ++ '\n' :: rest).takeWhile (fun c => !endsScalar c) = word ∧
      (word ++ '\n' :: rest).dropWhile (fun c => !endsScalar c) = '\n' :: rest :=
    cut_append_cons hinside (by decide)
  rcases hcut with ⟨htake, hdrop⟩
  simp only [readScalar, htake, hdrop]
  change (scalar? word).map (fun d => (d, '\n' :: rest)) = _
  rw [hd, Option.map_some]

/-! ## Texts -/

theorem readBasic_append (hword : ∀ c ∈ word, isPlainChar c = true) {fuel : Nat}
    (hfuel : word.length < fuel) : readBasic fuel (word ++ '"' :: rest) = some (word, rest) := by
  induction word generalizing fuel with
  | nil =>
    cases fuel with
    | zero => cases hfuel
    | succ fuel => rw [List.nil_append, readBasic, if_pos rfl]
  | cons c word ih =>
    cases fuel with
    | zero => cases hfuel
    | succ fuel =>
      have hc := hword c List.mem_cons_self
      simp only [isPlainChar, Bool.and_eq_true, bne_iff_ne] at hc
      rcases hc with ⟨⟨htext, hquote⟩, hescape⟩
      have hrest := ih (fun c' hc' => hword c' (List.mem_cons_of_mem c hc'))
        (Nat.lt_of_succ_lt_succ hfuel)
      rw [List.cons_append, readBasic, if_neg hquote, if_neg hescape, if_pos htext, hrest]
      rfl

/-- A text without quotes in it is not taken for one of several lines. -/
theorem readText_append (hword : ∀ c ∈ word, isPlainChar c = true) (rest : List Char) :
    readText '"' (word ++ '"' :: '\n' :: rest) = some (word, '\n' :: rest) := by
  have hbasic : readBasic ((word ++ '"' :: '\n' :: rest).length + 1)
      (word ++ '"' :: '\n' :: rest) = some (word, '\n' :: rest) := by
    apply readBasic_append hword
    rw [List.length_append]
    omega
  cases word with
  | nil => exact hbasic
  | cons c word =>
    have hquote : c ≠ '"' := by
      have hc := hword c List.mem_cons_self
      simp only [isPlainChar, Bool.and_eq_true, bne_iff_ne] at hc
      exact hc.1.2
    cases word with
    | nil =>
      rw [List.cons_append, List.nil_append] at hbasic ⊢
      simp only [readText, hquote, false_and, if_false, beq_self_eq_true, if_true]
      exact hbasic
    | cons c' word =>
      rw [List.cons_append, List.cons_append] at hbasic ⊢
      simp only [readText, hquote, false_and, if_false, beq_self_eq_true, if_true]
      exact hbasic

/-! ## Values -/

/-- What is written for a value is a text between quotes, or a word that means the value. -/
theorem writeValue?_cases (h : writeValue? d = some word) :
    (∃ s : String, d = .text s ∧ (∀ c ∈ s.toList, isPlainChar c = true) ∧
      word = '"' :: s.toList ++ ['"']) ∨
    (word ≠ [] ∧ (∀ c ∈ word, endsScalar c = false) ∧ scalar? word = some d) := by
  unfold writeValue? at h
  split at h
  · rename_i b
    cases h
    right
    cases b with
    | true =>
      have hword : (toString true).toList = ['t', 'r', 'u', 'e'] := rfl
      rw [hword]
      exact ⟨by simp, by simp [endsScalar, isBlank], rfl⟩
    | false =>
      have hword : (toString false).toList = ['f', 'a', 'l', 's', 'e'] := rfl
      rw [hword]
      exact ⟨by simp, by simp [endsScalar, isBlank], rfl⟩
  · rename_i n
    split at h
    · rename_i hn
      cases h
      right
      refine ⟨?_, fun c hc => endsScalar_of_mem_toString hc, scalar?_toString hn⟩
      intro hnil
      have hscalar := scalar?_toString hn
      rw [hnil] at hscalar
      cases hscalar
    · cases h
  · rename_i s
    split at h
    · rename_i hs
      cases h
      exact Or.inl ⟨s, rfl, List.all_eq_true.mp hs, rfl⟩
    · cases h
  · cases h

theorem exists_writeValue?_integer_iff :
    (∃ word, writeValue? (.integer n) = some word) ↔ isWritable n = true := by
  constructor
  · rintro ⟨word, hword⟩
    by_contra hn
    rw [writeValue?, if_neg hn] at hword
    cases hword
  · intro hn
    rw [writeValue?, if_pos hn]
    exact ⟨_, rfl⟩

/-- What is written for a value does not begin with a blank, and stays on its line. -/
theorem writeValue?_oneLine (h : writeValue? d = some word) :
    (∃ c more, word = c :: more ∧ isBlank c = false) ∧ '\n' ∉ word := by
  rcases writeValue?_cases h with ⟨s, -, hs, rfl⟩ | ⟨hne, hword, -⟩
  · refine ⟨⟨'"', _, rfl, by decide⟩, ?_⟩
    intro hmem
    have hs' : '\n' ∈ s.toList := by simpa using hmem
    exact absurd (hs _ hs') (by decide)
  · refine ⟨?_, fun hmem => absurd (hword _ hmem) (by decide)⟩
    cases word with
    | nil => exact absurd rfl hne
    | cons c more =>
      have hc := hword c List.mem_cons_self
      simp only [endsScalar, Bool.or_eq_false_iff] at hc
      exact ⟨c, more, rfl, by tauto⟩

/-- What is written for a value is read as the value. -/
theorem readValue_write (h : writeValue? d = some word) (fuel : Nat) (rest : List Char) :
    readValue (fuel + 1) (word ++ '\n' :: rest) = some (d, '\n' :: rest) := by
  rcases writeValue?_cases h with ⟨s, rfl, hs, rfl⟩ | ⟨hne, hword, hd⟩
  · have hread := readText_append hs rest
    rw [List.cons_append, List.cons_append, List.append_assoc]
    simp only [readValue, List.cons_append, List.nil_append, hread, Option.map_some,
      String.ofList_toList]
  · have hread := readScalar_append hword hd rest
    cases word with
    | nil => exact absurd rfl hne
    | cons c more =>
      -- a word does not begin like a text, a list or a table
      have hc := hword c List.mem_cons_self
      unfold readValue
      rw [List.cons_append] at hread ⊢
      split
      · rename_i heq
        cases heq
        exact absurd hc (by decide)
      · rename_i heq
        cases heq
        exact absurd hc (by decide)
      · rename_i heq
        cases heq
        exact absurd hc (by decide)
      · rename_i heq
        cases heq
        exact absurd hc (by decide)
      · exact hread

end CellSearch.Toml
