import Mathlib
import CellSearch.Proofs.Text.Normalize

/-!
# Normalization as a scan

Normalization goes through a text with one bit of memory, whether white space that is collapsed
goes on (`emitAll`). Texts that keep their byte layout are not scanned, yet they are what the scan
would make of them (`text_normalize`), so that one account serves every way of normalizing.

The bit matters only for a character that becomes nothing in a run of white space. A character
that became something therefore starts a scan of its own in the same way
(`emitAll_of_ne_nil`).
-/

namespace CellSearch.Text

open CellSearch.Unicode

variable {o : NormalizeOptions} {text rest a b : List Char} {c : Char} {inRun : Bool}

/-! ## The scan -/

/-- Whether a character is white space that is collapsed. -/
def NormalizeOptions.collapses (o : NormalizeOptions) (c : Char) : Bool :=
  o.collapseWhiteSpace && isWhiteSpace c

/-- What a character becomes, in a run of white space or outside. -/
def NormalizeOptions.emit (o : NormalizeOptions) (inRun : Bool) (c : Char) : List Char :=
  if o.collapses c then if inRun then [] else [' '] else o.expand c

/-- What the characters of a text become. -/
def emitAll (o : NormalizeOptions) : (inRun : Bool) → List Char → List Char
  | _, [] => []
  | inRun, c :: rest => o.emit inRun c ++ emitAll o (o.collapses c) rest

/-- Whether a run of white space goes on behind a text. -/
def runAfter (o : NormalizeOptions) (inRun : Bool) (text : List Char) : Bool :=
  text.foldl (fun _ c => o.collapses c) inRun

theorem mapChars_cons (o : NormalizeOptions) (inRun : Bool) (offset : Nat) (c : Char)
    (rest : List Char) : mapChars o inRun offset (c :: rest) =
      (o.emit inRun c).map (fun d => ⟨d, offset, c.utf8Size⟩) ++
        mapChars o (o.collapses c) (offset + c.utf8Size) rest := by
  simp only [mapChars, NormalizeOptions.emit, NormalizeOptions.collapses]
  by_cases hcollapse : (o.collapseWhiteSpace && isWhiteSpace c) = true
  · cases inRun <;> simp [hcollapse]
  · simp [hcollapse]

theorem map_char_mapChars (o : NormalizeOptions) (inRun : Bool) (offset : Nat)
    (text : List Char) : (mapChars o inRun offset text).map (·.char) = emitAll o inRun text := by
  induction text generalizing inRun offset with
  | nil => rfl
  | cons c rest ih =>
    simp only [mapChars_cons, emitAll, List.map_append, List.map_map, Function.comp_def, ih,
      List.map_id']

theorem emitAll_append (o : NormalizeOptions) (inRun : Bool) (a b : List Char) :
    emitAll o inRun (a ++ b) = emitAll o inRun a ++ emitAll o (runAfter o inRun a) b := by
  induction a generalizing inRun with
  | nil => rfl
  | cons c a ih => simp only [List.cons_append, emitAll, ih, runAfter, List.foldl_cons,
      List.append_assoc]

theorem runAfter_append (o : NormalizeOptions) (inRun : Bool) (a b : List Char) :
    runAfter o inRun (a ++ b) = runAfter o (runAfter o inRun a) b :=
  List.foldl_append

/-- Behind a character only the character counts. -/
theorem runAfter_eq (h : text ≠ []) (inRun inRun' : Bool) :
    runAfter o inRun text = runAfter o inRun' text := by
  cases text with
  | nil => exact absurd rfl h
  | cons c rest => rfl

/-- A character that becomes something in a scan becomes the same at the start of one. -/
theorem emitAll_of_ne_nil (h : o.emit inRun c ≠ []) :
    emitAll o inRun (c :: rest) = emitAll o false (c :: rest) := by
  have hemit : o.emit inRun c = o.emit false c := by
    unfold NormalizeOptions.emit at h ⊢
    cases inRun with
    | false => rfl
    | true =>
      by_cases hcollapse : o.collapses c = true
      · rw [if_pos hcollapse] at h
        exact absurd rfl h
      · rw [if_neg hcollapse, if_neg hcollapse]
  rw [emitAll, emitAll, hemit]

/-- Characters that are not collapsed are expanded one by one, and end a run. -/
theorem emitAll_of_not_collapses (h : ∀ c ∈ a, o.collapses c = false) (inRun : Bool) :
    emitAll o inRun a = a.flatMap o.expand ∧ (a ≠ [] → runAfter o inRun a = false) := by
  induction a generalizing inRun with
  | nil => exact ⟨rfl, fun hne => absurd rfl hne⟩
  | cons c rest ih =>
    have hblack : o.collapses c = false := h c List.mem_cons_self
    have hrest := ih (fun d hd => h d (List.mem_cons_of_mem c hd)) (o.collapses c)
    refine ⟨?_, fun _ => ?_⟩
    · rw [emitAll, hrest.1, NormalizeOptions.emit, hblack, if_neg Bool.false_ne_true,
        List.flatMap_cons]
    · by_cases hnil : rest = []
      · rw [hnil]
        exact hblack
      · exact hrest.2 hnil

/-! ## Text that keeps its layout -/

/-- What a character of a text that keeps its layout becomes. -/
def NormalizeOptions.foldChar (o : NormalizeOptions) (c : Char) : Char :=
  if o.foldCase then c.toLower else c

theorem byteLength_map_foldChar (o : NormalizeOptions) (text : List Char) :
    byteLength (text.map o.foldChar) = byteLength text := by
  induction text with
  | nil => rfl
  | cons c rest ih =>
    have hsize : (o.foldChar c).utf8Size = c.utf8Size := by
      unfold NormalizeOptions.foldChar
      split
      · exact utf8Size_toLower c
      · rfl
    rw [List.map_cons, byteLength_cons, byteLength_cons, hsize, ih]

/-- The texts that keep their layout: every text if nothing is to be done, and ASCII text with
its white space in order. -/
def KeepsLayout (o : NormalizeOptions) (inRun : Bool) (text : List Char) : Prop :=
  o.isNoop = true ∨
    isAscii text = true ∧ (o.collapseWhiteSpace = true → hasSingleSpaces inRun text = true)

theorem KeepsLayout.of_cons (h : KeepsLayout o inRun (c :: rest)) :
    o.emit inRun c = [o.foldChar c] ∧ KeepsLayout o (o.collapses c) rest := by
  rcases h with hnoop | ⟨hascii, hspaces⟩
  · have hoptions := hnoop
    simp only [NormalizeOptions.isNoop, Bool.and_eq_true, Bool.not_eq_true'] at hoptions
    obtain ⟨⟨hcollapse, hstrip⟩, hfold⟩ := hoptions
    refine ⟨?_, Or.inl hnoop⟩
    simp [NormalizeOptions.emit, NormalizeOptions.collapses, NormalizeOptions.expand,
      NormalizeOptions.foldChar, hcollapse, hstrip, hfold]
  · simp only [isAscii, List.all_cons, Bool.and_eq_true, decide_eq_true_eq] at hascii
    have hexpand : o.expand c = [o.foldChar c] := by
      have hstripped : stripped c = [c] := if_pos hascii.1
      have hlower : lowercase c = [c.toLower] := if_pos hascii.1
      unfold NormalizeOptions.expand NormalizeOptions.foldChar
      rw [hstripped, ite_self]
      split <;> simp [hlower]
    by_cases hcollapse : o.collapseWhiteSpace = true
    · -- the only white space is single spaces, which become themselves
      have hsingle := hspaces hcollapse
      simp only [hasSingleSpaces] at hsingle
      split at hsingle
      · rename_i hspace
        rw [Bool.and_eq_true, Bool.not_eq_true'] at hsingle
        have hwhite : o.collapses ' ' = true := by
          rw [NormalizeOptions.collapses, hcollapse]
          rfl
        have hfolded : o.foldChar ' ' = ' ' := by
          unfold NormalizeOptions.foldChar
          split <;> rfl
        rw [hspace, NormalizeOptions.emit, if_pos hwhite, hsingle.1, hfolded, hwhite]
        exact ⟨rfl, Or.inr ⟨hascii.2, fun _ => hsingle.2⟩⟩
      · rw [Bool.and_eq_true, Bool.not_eq_true', isAsciiBlank_eq hascii.1] at hsingle
        have hblack : o.collapses c = false := by
          rw [NormalizeOptions.collapses, hsingle.1, Bool.and_false]
        rw [NormalizeOptions.emit, hblack]
        exact ⟨hexpand, Or.inr ⟨hascii.2, fun _ => hsingle.2⟩⟩
    · have hblack : o.collapses c = false := by
        simp [NormalizeOptions.collapses, hcollapse]
      rw [NormalizeOptions.emit, hblack]
      exact ⟨hexpand, Or.inr ⟨hascii.2, fun h => absurd h hcollapse⟩⟩

/-- A first part of a text that keeps its layout keeps it. -/
theorem KeepsLayout.emitAll_front (h : KeepsLayout o inRun (a ++ b)) :
    emitAll o inRun a = a.map o.foldChar := by
  induction a generalizing inRun with
  | nil => rfl
  | cons c a ih =>
    obtain ⟨hemit, hrest⟩ := KeepsLayout.of_cons h
    rw [emitAll, hemit, ih hrest]
    rfl

theorem normalize_eq (o : NormalizeOptions) (text : List Char) :
    KeepsLayout o false text ∧ normalize o text = .aligned (text.map o.foldChar) ∨
      normalize o text = .mapped (mapChars o false 0 text) := by
  unfold normalize
  split
  · rename_i hnoop
    left
    have hfold : o.foldChar = id := by
      simp only [NormalizeOptions.isNoop, Bool.and_eq_true, Bool.not_eq_true'] at hnoop
      funext c
      simp [NormalizeOptions.foldChar, hnoop.2]
    exact ⟨Or.inl hnoop, by rw [hfold, List.map_id]⟩
  · split
    · -- the short way for ASCII text, whose white space is in order or is not looked at
      rename_i hkeep
      left
      simp only [Bool.and_eq_true, Bool.or_eq_true, Bool.not_eq_true'] at hkeep
      refine ⟨Or.inr ⟨hkeep.1, fun hcollapse => ?_⟩, ?_⟩
      · rcases hkeep.2 with hnone | hspaces
        · rw [hcollapse] at hnone
          cases hnone
        · exact hspaces
      · unfold NormalizeOptions.foldChar
        cases o.foldCase <;> simp
    · exact Or.inr rfl

/-- Whatever way a text is normalized, it is the text that the scan makes. -/
theorem text_normalize (o : NormalizeOptions) (text : List Char) :
    (normalize o text).text = emitAll o false text := by
  rcases normalize_eq o text with ⟨hkeep, heq⟩ | heq <;> rw [heq]
  · rw [← List.append_nil text] at hkeep
    exact hkeep.emitAll_front.symm
  · exact map_char_mapChars o false 0 text

end CellSearch.Text
