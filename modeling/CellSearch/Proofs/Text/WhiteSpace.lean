import Mathlib
import CellSearch.Proofs.Text.Layout
import CellSearch.Proofs.Unicode.Decomposition

/-!
# Collapsed white space

Where white space is collapsed, the normalized text has no white space but spaces. Two spaces stand
next to each other only where diacritics are stripped and a run of white space is broken by
characters that consist of marks (`collapsed_singleSpaced_iff`): the run begins anew behind
characters of which nothing is left.

A scan remembers whether a run goes on. If one does, the text so far ends in a space
(`getLast?_of_runAfter`). If the text so far ends in a space and no run goes on, the characters
since the last white space were dropped (`exists_broken_run`).
-/

namespace CellSearch.Text

open CellSearch.Unicode

variable {o : NormalizeOptions} {text a b : List Char} {c d : Char} {inRun : Bool}

/-! ## What a character becomes -/

/-- A character that consists of marks. -/
def MarksOnly (c : Char) : Prop :=
  ∀ d ∈ decompose c, isMark d = true

/-- ASCII has no marks, so that it need not be treated apart. -/
theorem stripped_eq (c : Char) : stripped c = (decompose c).filter fun d => !isMark d := by
  unfold stripped
  split
  · rename_i hascii
    have hself : decompose c = [c] := if_pos (by omega)
    have hmark : isMark c = false := by
      have hlow : ¬ 0x300 ≤ c.toNat := by omega
      simp [isMark, hlow]
    rw [hself, List.filter_cons, hmark]
    rfl
  · rfl

/-- A character before its case is folded. -/
def NormalizeOptions.parts (o : NormalizeOptions) (c : Char) : List Char :=
  if o.stripDiacritics then stripped c else [c]

theorem expand_eq (o : NormalizeOptions) (c : Char) :
    o.expand c = if o.foldCase then (o.parts c).flatMap lowercase else o.parts c := rfl

theorem lowercase_ne_nil (c : Char) : lowercase c ≠ [] := by
  unfold lowercase
  split
  · exact List.cons_ne_nil _ _
  · split <;> exact List.cons_ne_nil _ _

/-- Only marks are dropped. -/
theorem expand_eq_nil_iff : o.expand c = [] ↔ o.stripDiacritics = true ∧ MarksOnly c := by
  have hparts : o.parts c = [] ↔ o.stripDiacritics = true ∧ MarksOnly c := by
    unfold NormalizeOptions.parts
    split
    · rename_i hstrip
      rw [stripped_eq, List.filter_eq_nil_iff]
      simp [hstrip, MarksOnly]
    · rename_i hkeep
      simp [hkeep]
  rw [expand_eq]
  split
  · rw [List.flatMap_eq_nil_iff, ← hparts, List.eq_nil_iff_forall_not_mem]
    simp [lowercase_ne_nil]
  · exact hparts

/-- What is no white space becomes none. -/
theorem isWhiteSpace_of_mem_expand (hc : isWhiteSpace c = false) (hd : d ∈ o.expand c) :
    isWhiteSpace d = false := by
  have hparts : ∀ e ∈ o.parts c, isWhiteSpace e = false := by
    intro e he
    unfold NormalizeOptions.parts at he
    split at he
    · rw [stripped_eq] at he
      exact isWhiteSpace_of_mem_decompose hc (List.mem_of_mem_filter he)
    · rwa [List.mem_singleton.mp he]
  rw [expand_eq] at hd
  split at hd
  · rcases List.mem_flatMap.mp hd with ⟨e, he, hde⟩
    exact isWhiteSpace_of_mem_lowercase (hparts e he) hde
  · exact hparts d hd

/-- No white space is a mark. -/
theorem isMark_whiteSpaceCodes :
    (whiteSpaceCodes.all fun n => !isMark (.ofNat n)) = true := by
  decide +kernel

theorem MarksOnly.isWhiteSpace_eq (h : MarksOnly c) : isWhiteSpace c = false := by
  rw [← Bool.not_eq_true]
  intro hwhite
  rcases decompose_whiteSpace hwhite with ⟨d, hparts, hd⟩
  have hmark := h d (by rw [hparts]; exact List.mem_singleton_self d)
  have hnone := List.all_eq_true.mp isMark_whiteSpaceCodes _ (isWhiteSpace_iff.mp hd)
  rw [Char.ofNat_toNat, hmark] at hnone
  cases hnone

/-! ## The scan -/

theorem collapses_eq (hcollapse : o.collapseWhiteSpace = true) :
    o.collapses c = isWhiteSpace c := by
  rw [NormalizeOptions.collapses, hcollapse, Bool.true_and]

/-- A scan leaves no white space but spaces. -/
theorem eq_space_of_mem_emitAll (hcollapse : o.collapseWhiteSpace = true)
    (hd : d ∈ emitAll o inRun text) (hwhite : isWhiteSpace d = true) : d = ' ' := by
  induction text generalizing inRun with
  | nil => cases hd
  | cons c rest ih =>
    rcases List.mem_append.mp hd with hd | hd
    · unfold NormalizeOptions.emit at hd
      split at hd
      · split at hd
        · cases hd
        · exact List.mem_singleton.mp hd
      · rename_i hblack
        rw [collapses_eq hcollapse, Bool.not_eq_true] at hblack
        rw [isWhiteSpace_of_mem_expand hblack hd] at hwhite
        cases hwhite
    · exact ih hd

/-- A character that is no white space becomes no space. -/
theorem space_not_mem_expand (hc : isWhiteSpace c = false) : ' ' ∉ o.expand c := by
  intro hspace
  have hwhite := isWhiteSpace_of_mem_expand hc hspace
  cases hwhite

/-- A space is left by white space that begins a run. -/
theorem emit_of_space_mem (hcollapse : o.collapseWhiteSpace = true) (h : ' ' ∈ o.emit inRun c) :
    isWhiteSpace c = true ∧ inRun = false ∧ o.emit inRun c = [' '] := by
  unfold NormalizeOptions.emit at h ⊢
  split at h
  · rename_i hblank
    rw [if_pos hblank]
    cases inRun with
    | true => cases h
    | false => exact ⟨(collapses_eq hcollapse).symm.trans hblank, rfl, rfl⟩
  · rename_i hblack
    rw [collapses_eq hcollapse, Bool.not_eq_true] at hblack
    exact absurd h (space_not_mem_expand hblack)

/-- While a run goes on, the text so far ends in a space. -/
theorem getLast?_of_runAfter (hrun : runAfter o false a = true) :
    (emitAll o false a).getLast? = some ' ' := by
  induction a using List.reverseRecOn with
  | nil => cases hrun
  | append_singleton a c ih =>
    rw [runAfter_append] at hrun
    have hwhite : o.collapses c = true := hrun
    rw [emitAll_append, emitAll, emitAll, List.append_nil, NormalizeOptions.emit, if_pos hwhite,
      List.getLast?_append]
    split
    · rename_i hgoes
      exact ih hgoes
    · rfl

/-- If the text so far ends in a space and no run goes on, all characters since the last white
space were dropped. -/
theorem exists_broken_run (hcollapse : o.collapseWhiteSpace = true)
    (hspace : (emitAll o false a).getLast? = some ' ') (hrun : runAfter o false a = false) :
    o.stripDiacritics = true ∧ ∃ before w mid, a = before ++ w :: mid ∧ isWhiteSpace w = true ∧
      mid ≠ [] ∧ ∀ c ∈ mid, MarksOnly c := by
  induction a using List.reverseRecOn with
  | nil => cases hspace
  | append_singleton a c ih =>
    rw [runAfter_append] at hrun
    have hblack : o.collapses c = false := hrun
    have hc : isWhiteSpace c = false := (collapses_eq hcollapse).symm.trans hblack
    rw [emitAll_append, emitAll, emitAll, List.append_nil, NormalizeOptions.emit, hblack,
      if_neg Bool.false_ne_true, List.getLast?_append] at hspace
    by_cases hnil : o.expand c = []
    · rw [hnil] at hspace
      have hdropped := expand_eq_nil_iff.mp hnil
      cases hgoes : runAfter o false a with
      | true =>
        -- the character breaks the run
        rcases List.eq_nil_or_concat a with rfl | ⟨before, w, rfl⟩
        · cases hgoes
        · rw [List.concat_eq_append, runAfter_append] at hgoes
          have hw : o.collapses w = true := hgoes
          refine ⟨hdropped.1, before, w, [c], by simp, ?_, List.cons_ne_nil _ _, ?_⟩
          · exact (collapses_eq hcollapse).symm.trans hw
          · simpa using hdropped.2
      | false =>
        rcases ih hspace hgoes with ⟨hstrip, before, w, mid, rfl, hw, -, hmid⟩
        refine ⟨hstrip, before, w, mid ++ [c], by simp, hw, by simp, ?_⟩
        simpa [or_imp, forall_and] using And.intro hmid hdropped.2
    · -- what is left of the character is no space
      exfalso
      rw [List.getLast?_eq_getLast_of_ne_nil hnil, Option.some_or] at hspace
      have hmem := List.getLast_mem hnil
      rw [Option.some.inj hspace] at hmem
      exact space_not_mem_expand hc hmem

/-! ## Two spaces -/

/-- A run of white space with characters in it that consist of marks. -/
def BrokenRun (text : List Char) : Prop :=
  ∃ before w mid w' behind, text = before ++ w :: (mid ++ w' :: behind) ∧
    isWhiteSpace w = true ∧ isWhiteSpace w' = true ∧ mid ≠ [] ∧ ∀ c ∈ mid, MarksOnly c

theorem BrokenRun.append (h : BrokenRun a) (b : List Char) : BrokenRun (a ++ b) := by
  rcases h with ⟨before, w, mid, w', behind, rfl, h⟩
  exact ⟨before, w, mid, w', behind ++ b, by simp, h⟩

/-- Two characters next to each other in a text of two parts. -/
theorem pair_infix_append_iff : [c, d] <:+: a ++ b ↔
    [c, d] <:+: a ∨ [c, d] <:+: b ∨ a.getLast? = some c ∧ b.head? = some d := by
  constructor
  · intro h
    rcases List.infix_append_iff.mp h with h | h | ⟨l, r, hlr, hl, hr⟩
    · exact .inl h
    · exact .inr (.inl h)
    · rcases List.cons_eq_append_iff.mp hlr with ⟨rfl, rfl⟩ | ⟨l', rfl, hlr'⟩
      · exact .inr (.inl hr.isInfix)
      · rcases List.cons_eq_append_iff.mp hlr' with ⟨rfl, rfl⟩ | ⟨l'', rfl, hnil⟩
        · rcases hl with ⟨init, rfl⟩
          rcases hr with ⟨tail, rfl⟩
          exact .inr (.inr ⟨by simp, rfl⟩)
        · rcases List.append_eq_nil_iff.mp hnil.symm with ⟨rfl, -⟩
          exact .inl hl.isInfix
  · rintro (h | h | ⟨hlast, hhead⟩)
    · exact h.trans (List.prefix_append a b).isInfix
    · exact h.trans (List.suffix_append a b).isInfix
    · rcases List.getLast?_eq_some_iff.mp hlast with ⟨init, rfl⟩
      rcases List.head?_eq_some_iff.mp hhead with ⟨tail, rfl⟩
      exact ⟨init, tail, by simp⟩

/-- Dropped characters end a run and leave nothing. -/
theorem emitAll_of_marksOnly (hstrip : o.stripDiacritics = true) (hmarks : ∀ c ∈ a, MarksOnly c)
    (hne : a ≠ []) (inRun : Bool) : emitAll o inRun a = [] ∧ runAfter o inRun a = false := by
  have hblack : ∀ c ∈ a, o.collapses c = false := by
    intro c hc
    rw [NormalizeOptions.collapses, (hmarks c hc).isWhiteSpace_eq, Bool.and_false]
  have hscan := emitAll_of_not_collapses hblack inRun
  refine ⟨?_, hscan.2 hne⟩
  rw [hscan.1, List.flatMap_eq_nil_iff]
  intro c hc
  exact expand_eq_nil_iff.mpr ⟨hstrip, hmarks c hc⟩

/-- Two spaces stand where a broken run was. -/
theorem BrokenRun.spaces_emitted (hcollapse : o.collapseWhiteSpace = true)
    (hstrip : o.stripDiacritics = true) (h : BrokenRun text) :
    [' ', ' '] <:+: emitAll o false text := by
  rcases h with ⟨before, w, mid, w', behind, rfl, hw, hw', hne, hmarks⟩
  have hcut : before ++ w :: (mid ++ w' :: behind) =
      (before ++ [w]) ++ (mid ++ w' :: behind) := by simp
  have hlast : (emitAll o false (before ++ [w])).getLast? = some ' ' := by
    apply getLast?_of_runAfter
    rw [runAfter_append]
    exact (collapses_eq hcollapse).trans hw
  have hmid := emitAll_of_marksOnly hstrip hmarks hne (runAfter o false (before ++ [w]))
  have hblank : o.collapses w' = true := (collapses_eq hcollapse).trans hw'
  rw [hcut, emitAll_append, emitAll_append _ _ mid, hmid.1, hmid.2, List.nil_append, emitAll,
    NormalizeOptions.emit, if_pos hblank]
  exact pair_infix_append_iff.mpr (.inr (.inr ⟨hlast, rfl⟩))

/-- Two spaces stand nowhere else. -/
theorem brokenRun_of_spaces (hcollapse : o.collapseWhiteSpace = true)
    (h : [' ', ' '] <:+: emitAll o false text) :
    o.stripDiacritics = true ∧ BrokenRun text := by
  induction text using List.reverseRecOn with
  | nil => simp [emitAll] at h
  | append_singleton a c ih =>
    rw [emitAll_append, emitAll, emitAll, List.append_nil] at h
    rcases pair_infix_append_iff.mp h with h | h | ⟨hlast, hhead⟩
    · have hbroken := ih h
      exact ⟨hbroken.1, hbroken.2.append [c]⟩
    · -- one character of white space becomes one space
      have hone := (emit_of_space_mem hcollapse (h.mem List.mem_cons_self)).2.2
      rw [hone] at h
      exact absurd h.length_le (by simp)
    · rcases emit_of_space_mem hcollapse (List.mem_of_head? hhead) with ⟨hc, hrun, -⟩
      rcases exists_broken_run hcollapse hlast hrun with
        ⟨hstrip, before, w, mid, rfl, hw, hne, hmarks⟩
      exact ⟨hstrip, before, w, mid, c, [], by simp, hw, hc, hne, hmarks⟩

/-- Where white space is collapsed, all white space is spaces, and they are single spaces unless
diacritics are stripped and characters that consist of marks break a run. -/
theorem collapsed_singleSpaced_iff (strip fold : Bool) (text : List Char) :
    let n := normalize ⟨true, strip, fold⟩ text
    (∀ c ∈ n.text, isWhiteSpace c = true → c = ' ') ∧
    (SingleSpaced n.text ↔ ¬ (strip = true ∧ BrokenRun text)) := by
  intro n
  have htext : n.text = emitAll ⟨true, strip, fold⟩ false text := text_normalize _ text
  have hspace : ∀ c ∈ n.text, isWhiteSpace c = true → c = ' ' := by
    intro c hc hwhite
    rw [htext] at hc
    exact eq_space_of_mem_emitAll rfl hc hwhite
  refine ⟨hspace, fun hsingle hbroken => ?_, fun hwhole => ⟨hspace, fun hspaces => ?_⟩⟩
  · apply hsingle.single
    rw [htext]
    exact hbroken.2.spaces_emitted rfl hbroken.1
  · rw [htext] at hspaces
    exact hwhole (brokenRun_of_spaces rfl hspaces)

/-- A combining accent on its own between two spaces is dropped, and both spaces are kept. -/
theorem collapsed_broken_run :
    ¬ SingleSpaced (normalize ⟨true, true, false⟩ "a \u0301 b".toList).text := by
  intro h
  have htext : (normalize ⟨true, true, false⟩ "a \u0301 b".toList).text = "a  b".toList := by
    decide +kernel
  rw [htext] at h
  exact h.single ⟨['a'], ['b'], rfl⟩

end CellSearch.Text
