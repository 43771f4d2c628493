import Mathlib
import CellSearch.Proofs.Text.Scan

/-!
# The round trip through normalization

A span of a normalized text goes back to a span of the source. Normalized anew, the piece of the
source under that span gives the piece of the normalized text that its characters produced before
(`sourceSpan_roundTrip`), although the piece is shorter than the text and may be one that keeps
its byte layout where the text did not.

To say what the characters of the piece produced, a character is said to produce a byte
(`Produces`) if normalizing the text up to it leaves the byte out and normalizing the text up to
and with it does not. The map of a normalized text says the same (`getElem?_mapChars`), and the
source of a span is the piece from the character that produced its first byte to the one that
produced its last (`Source`, `exists_source`).
-/

namespace CellSearch.Text

open CellSearch.Unicode

variable {o : NormalizeOptions} {text front piece back rest a b : List Char} {c d : Char}
variable {span : Interval} {i j k offset : Nat} {inRun : Bool}

/-! ## The character that produces a byte -/

/-- The character behind `front` produces byte `k` of the normalized text. -/
def Produces (o : NormalizeOptions) (front : List Char) (c : Char) (k : Nat) : Prop :=
  byteLength (normalize o front).text ≤ k ∧ k < byteLength (normalize o (front ++ [c])).text

/-- One character of the text produces both bytes. -/
def SameSource (o : NormalizeOptions) (text : List Char) (j k : Nat) : Prop :=
  ∃ front c back, text = front ++ c :: back ∧ Produces o front c j ∧ Produces o front c k

/-- Text that goes on becomes no shorter. -/
theorem byteLength_normalize_append (o : NormalizeOptions) (a b : List Char) :
    byteLength (normalize o a).text ≤ byteLength (normalize o (a ++ b)).text := by
  rw [text_normalize, text_normalize, emitAll_append, byteLength_append]
  exact Nat.le_add_right _ _

/-- A character that produces a byte does not become nothing. -/
theorem Produces.emit_ne_nil (h : Produces o front c k) :
    o.emit (runAfter o false front) c ≠ [] := by
  intro hnil
  obtain ⟨hlow, hhigh⟩ := h
  rw [text_normalize] at hlow hhigh
  rw [emitAll_append, emitAll, hnil, emitAll] at hhigh
  simp only [List.append_nil] at hhigh
  omega

/-- The character that produces a byte does not stand behind the one that produces a later
byte. -/
theorem Produces.exists_append {front' back' : List Char} (hj : Produces o front c j)
    (hk : Produces o front' d k) (hle : j ≤ k)
    (htext : front ++ c :: back = front' ++ d :: back') :
    ∃ mid, front' = front ++ mid ∧ c :: back = mid ++ d :: back' := by
  rcases List.append_eq_append_iff.mp htext with ⟨mid, hfront, hback⟩ | ⟨mid, hfront, hback⟩
  · exact ⟨mid, hfront, hback⟩
  · cases mid with
    | nil => exact ⟨[], by simpa using hfront.symm, by simpa using hback.symm⟩
    | cons e mid =>
      -- the later byte would have been produced before the character of the earlier
      exfalso
      cases hback
      have hlong := byteLength_normalize_append o (front' ++ [d]) mid
      rw [List.append_assoc, List.singleton_append, ← hfront] at hlong
      have hlow := hj.1
      have hhigh := hk.2
      omega

/-- One character produces a byte. -/
theorem Produces.unique {front' back' : List Char} (h : Produces o front c k)
    (h' : Produces o front' d k) (htext : front ++ c :: back = front' ++ d :: back') :
    front = front' ∧ c = d := by
  obtain ⟨mid, hmid, hback⟩ := h.exists_append h' (le_refl k) htext
  obtain ⟨mid', hmid', -⟩ := h'.exists_append h (le_refl k) htext.symm
  have hlen : mid.length + mid'.length = 0 := by
    have hlength := congrArg List.length hmid'
    rw [hmid, List.length_append, List.length_append] at hlength
    omega
  have hnil : mid = [] := List.length_eq_zero_iff.mp (by omega)
  subst hnil
  rw [List.append_nil] at hmid
  rw [List.nil_append] at hback
  exact ⟨hmid.symm, (List.cons.inj hback).1⟩

/-! ## The map of a normalized text -/

theorem charAt?_append (l r : List MappedChar) (k : Nat) :
    NormalizedText.charAt? (l ++ r) k =
      if k < byteLength (l.map (·.char)) then NormalizedText.charAt? l k
      else NormalizedText.charAt? r (k - byteLength (l.map (·.char))) := by
  induction l generalizing k with
  | nil => simp
  | cons m l ih =>
    simp only [List.cons_append, NormalizedText.charAt?, List.map_cons, byteLength_cons, ih]
    by_cases hk : k < m.char.utf8Size
    · rw [if_pos hk, if_pos hk, if_pos (by omega)]
    · rw [if_neg hk, if_neg hk, Nat.sub_sub]
      congr 1
      exact propext (by omega)

/-- The character of the source that a scan remembers for a byte produces the byte. -/
theorem exists_of_charAt?_mapChars {m : MappedChar}
    (h : NormalizedText.charAt? (mapChars o inRun offset text) k = some m) :
    ∃ front c back, text = front ++ c :: back ∧ m.offset = offset + byteLength front ∧
      m.width = c.utf8Size ∧ byteLength (emitAll o inRun front) ≤ k ∧
      k < byteLength (emitAll o inRun (front ++ [c])) := by
  induction text generalizing inRun offset k with
  | nil => cases h
  | cons c rest ih =>
    rw [mapChars_cons, charAt?_append, List.map_map] at h
    have hchars : (fun m : MappedChar => m.char) ∘
        (fun d => (⟨d, offset, c.utf8Size⟩ : MappedChar)) = id := rfl
    rw [hchars, List.map_id] at h
    split at h
    · rename_i hlt
      obtain ⟨d, -, rfl⟩ := List.mem_map.mp (mem_of_charAt? h)
      refine ⟨[], c, rest, rfl, rfl, rfl, Nat.zero_le k, ?_⟩
      simpa [emitAll] using hlt
    · rename_i hge
      obtain ⟨front, d, back, rfl, hoffset, hwidth, hlow, hhigh⟩ := ih h
      refine ⟨c :: front, d, back, rfl, ?_, hwidth, ?_, ?_⟩
      · rw [hoffset, byteLength_cons, Nat.add_assoc]
      · rw [emitAll, byteLength_append]
        omega
      · rw [List.cons_append, emitAll, byteLength_append]
        omega

theorem getElem?_flatMap_replicate (chars : List MappedChar) (k : Nat) :
    (chars.flatMap fun m => List.replicate m.char.utf8Size m.offset)[k]? =
      (NormalizedText.charAt? chars k).map (·.offset) := by
  induction chars generalizing k with
  | nil => rfl
  | cons m rest ih =>
    rw [List.flatMap_cons, List.getElem?_append, List.length_replicate,
      NormalizedText.charAt?]
    split
    · rename_i hlt
      rw [List.getElem?_replicate, if_pos hlt]
      rfl
    · exact ih _

/-- The map of a scan gives, for each byte, the place of the character that produces it. -/
theorem getElem?_mapChars : ((mapChars o false 0 text).flatMap fun m =>
    List.replicate m.char.utf8Size m.offset)[k]? = some i ↔
      ∃ front c back, text = front ++ c :: back ∧ byteLength front = i ∧ Produces o front c k := by
  rw [getElem?_flatMap_replicate]
  simp only [Produces, text_normalize]
  constructor
  · intro h
    obtain ⟨m, hm, rfl⟩ := Option.map_eq_some_iff.mp h
    obtain ⟨front, c, back, htext, hoffset, -, hlow, hhigh⟩ := exists_of_charAt?_mapChars hm
    exact ⟨front, c, back, htext, by rw [hoffset, Nat.zero_add], hlow, hhigh⟩
  · rintro ⟨front, c, back, htext, rfl, hlow, hhigh⟩
    have hlt : k < byteLength ((mapChars o false 0 text).map (·.char)) := by
      have hlong := byteLength_normalize_append o (front ++ [c]) back
      rw [text_normalize, text_normalize, List.append_assoc, List.singleton_append,
        ← htext] at hlong
      rw [map_char_mapChars]
      omega
    obtain ⟨m, -, hm⟩ := exists_charAt? hlt
    obtain ⟨front', d, back', htext', hoffset, -, hlow', hhigh'⟩ := exists_of_charAt?_mapChars hm
    -- both characters produce the byte
    have hfirst : Produces o front c k := by
      simpa only [Produces, text_normalize] using And.intro hlow hhigh
    have hsecond : Produces o front' d k := by
      simpa only [Produces, text_normalize] using And.intro hlow' hhigh'
    obtain ⟨rfl, -⟩ := hfirst.unique hsecond (htext.symm.trans htext')
    rw [hm, Option.map_some, hoffset, Nat.zero_add]

/-! ## The source of a span -/

/-- A piece of the text whose first character produces the first byte of a span and whose last
character produces its last. -/
structure Source (o : NormalizeOptions) (text : List Char) (span : Interval)
    (front piece back : List Char) : Prop where
  text_eq : text = front ++ piece ++ back
  first : ∃ c rest, piece = c :: rest ∧ Produces o front c span.start
  last : ∃ init c, piece = init ++ [c] ∧ Produces o (front ++ init) c (span.stop - 1)

theorem exists_cons_append_singleton (h : piece ≠ []) :
    (∃ c rest, piece = c :: rest) ∧ ∃ init c, piece = init ++ [c] := by
  constructor
  · exact List.exists_cons_of_ne_nil h
  · exact ⟨piece.dropLast, piece.getLast h, (List.dropLast_append_getLast h).symm⟩

/-- Text that keeps its layout produces every byte in its place. -/
theorem KeepsLayout.produces (hkeep : KeepsLayout o false text)
    (htext : text = front ++ c :: back) (hlow : byteLength front ≤ k)
    (hhigh : k < byteLength (front ++ [c])) : Produces o front c k := by
  have hfront : ∀ a b, text = a ++ b → byteLength (normalize o a).text = byteLength a := by
    rintro a b rfl
    rw [text_normalize, hkeep.emitAll_front, byteLength_map_foldChar]
  constructor
  · rwa [hfront front (c :: back) htext]
  · rwa [hfront (front ++ [c]) back (by rw [htext, List.append_assoc, List.singleton_append])]

/-- Where the layout is kept, the bytes of a span are those of its source. -/
theorem KeepsLayout.exists_source (hkeep : KeepsLayout o false text) (h : IsSpan text span) :
    ∃ front piece back, Source o text span front piece back ∧
      span = ⟨byteLength front, byteLength (front ++ piece)⟩ := by
  obtain ⟨front, piece, back, htext, hne, hstart, hstop⟩ := h.exists_cut
  obtain ⟨⟨c, rest, hfirst⟩, ⟨init, d, hlast⟩⟩ := exists_cons_append_singleton hne
  refine ⟨front, piece, back, ⟨htext, ⟨c, rest, hfirst, ?_⟩, ⟨init, d, hlast, ?_⟩⟩, ?_⟩
  · have hcut : text = front ++ c :: (rest ++ back) := by
      rw [htext, hfirst]
      simp
    refine hkeep.produces hcut (by omega) ?_
    have hpos := c.utf8Size_pos
    rw [byteLength_append, byteLength_cons, byteLength_nil]
    omega
  · have hpos := d.utf8Size_pos
    have hproper := h.proper
    have hend : byteLength (front ++ init ++ [d]) = span.stop := by
      rw [← hstop, hlast, List.append_assoc]
    have hcut : text = front ++ init ++ d :: back := by
      rw [htext, hlast]
      simp
    refine hkeep.produces hcut ?_ (by omega)
    rw [byteLength_append, byteLength_cons, byteLength_nil] at hend
    omega
  · rw [hstart, hstop]

/-- In a scan, a span goes from the character that the scan remembers for its first byte to the one
that it remembers for its last. -/
theorem exists_source_of_scan (h : IsSpan (emitAll o false text) span) :
    ∃ front piece back, Source o text span front piece back ∧
      (NormalizedText.mapped (mapChars o false 0 text)).sourceSpan span =
        ⟨byteLength front, byteLength (front ++ piece)⟩ := by
  have hproper := h.proper
  have hlen : span.stop ≤ byteLength ((mapChars o false 0 text).map (·.char)) := by
    rw [map_char_mapChars]
    exact h.stop_le
  have hstart : span.start < byteLength ((mapChars o false 0 text).map (·.char)) := by omega
  have hback : span.stop - 1 < byteLength ((mapChars o false 0 text).map (·.char)) := by omega
  obtain ⟨m, -, hm⟩ := exists_charAt? hstart
  obtain ⟨m', -, hm'⟩ := exists_charAt? hback
  obtain ⟨front, c, tail, htext, hoffset, -, hlow, hhigh⟩ := exists_of_charAt?_mapChars hm
  obtain ⟨upto, d, back, htext', hoffset', hwidth, hlow', hhigh'⟩ :=
    exists_of_charAt?_mapChars hm'
  have hfirst : Produces o front c span.start := by
    simpa only [Produces, text_normalize] using And.intro hlow hhigh
  have hlast : Produces o upto d (span.stop - 1) := by
    simpa only [Produces, text_normalize] using And.intro hlow' hhigh'
  obtain ⟨init, rfl, htail⟩ := hfirst.exists_append hlast (by omega) (htext.symm.trans htext')
  refine ⟨front, init ++ [d], back, ⟨by simpa using htext', ?_, init, d, rfl, hlast⟩, ?_⟩
  · cases init with
    | nil =>
      obtain ⟨rfl, -⟩ := List.cons.inj htail
      exact ⟨c, [], rfl, hfirst⟩
    | cons e init =>
      obtain ⟨rfl, -⟩ := List.cons.inj htail
      exact ⟨c, init ++ [d], rfl, hfirst⟩
  · simp only [NormalizedText.sourceSpan, hm, hm', hoffset, hoffset', hwidth, Nat.zero_add]
    simp [Nat.add_assoc]

/-- Every span of a normalized text has a source, and this is where the span goes back to. -/
theorem exists_source (h : IsSpan (normalize o text).text span) :
    ∃ front piece back, Source o text span front piece back ∧
      (normalize o text).sourceSpan span = ⟨byteLength front, byteLength (front ++ piece)⟩ := by
  rcases normalize_eq o text with ⟨hkeep, heq⟩ | heq
  · have hspan : IsSpan text span := by
      have hsource := sourceSpan_isSpan h
      rwa [heq] at hsource
    rw [heq]
    exact hkeep.exists_source hspan
  · rw [text_normalize] at h
    rw [heq]
    exact exists_source_of_scan h

/-! ## Normalizing a piece anew -/

/-- The source of a span becomes the same behind every part of what stands before it: its first
character became something. -/
theorem Source.emitAll_piece {mid : List Char} (h : Source o text span (a ++ mid) piece back) :
    emitAll o (runAfter o false mid) piece = emitAll o false piece := by
  obtain ⟨c, rest, rfl, hfirst⟩ := h.first
  by_cases hmid : mid = []
  · rw [hmid]
    rfl
  · have hemit := hfirst.emit_ne_nil
    rw [runAfter_append, runAfter_eq hmid _ false] at hemit
    exact emitAll_of_ne_nil hemit

/-- A text that holds the source of a span is normalized to one that holds the normalized
source. -/
theorem Source.text_normalize_append {mid : List Char}
    (h : Source o text span (a ++ mid) piece back) (b : List Char) :
    (normalize o (mid ++ piece ++ b)).text = (normalize o mid).text ++ (normalize o piece).text ++
      emitAll o (runAfter o false (mid ++ piece)) b := by
  rw [text_normalize, emitAll_append, emitAll_append, h.emitAll_piece, text_normalize,
    text_normalize]

/-- A whole text is the case in which nothing stands before what stands before the source. -/
theorem Source.text_normalize (h : Source o text span front piece back) :
    (normalize o text).text = (normalize o front).text ++ (normalize o piece).text ++
      emitAll o (runAfter o false (front ++ piece)) back := by
  have hsource : Source o text span ([] ++ front) piece back := h
  have happend := hsource.text_normalize_append back
  rwa [← h.text_eq] at happend

theorem Source.text_normalize_upto (h : Source o text span front piece back) :
    (normalize o (front ++ piece)).text = (normalize o front).text ++ (normalize o piece).text := by
  have hsource : Source o text span ([] ++ front) piece back := h
  have happend := hsource.text_normalize_append []
  simpa [emitAll] using happend

/-! ## The bytes that the ends of a span share a source with -/

/-- The first byte that shares its source with the first byte of a span. -/
theorem Source.isLeast (h : Source o text span front piece back) :
    IsLeast {j | SameSource o text j span.start} (byteLength (normalize o front).text) := by
  obtain ⟨c, rest, rfl, hfirst⟩ := h.first
  have htext : text = front ++ c :: (rest ++ back) := by simpa using h.text_eq
  constructor
  · refine ⟨front, c, rest ++ back, htext, ⟨le_refl _, ?_⟩, hfirst⟩
    exact lt_of_le_of_lt hfirst.1 hfirst.2
  · rintro j ⟨front', d, back', htext', hj, hstart⟩
    obtain ⟨rfl, -⟩ := hstart.unique hfirst (htext'.symm.trans htext)
    exact hj.1

/-- The last byte that shares its source with the last byte of a span. -/
theorem Source.isGreatest (h : Source o text span front piece back) :
    IsGreatest {j | SameSource o text j (span.stop - 1)}
      (byteLength (normalize o (front ++ piece)).text - 1) := by
  obtain ⟨init, c, rfl, hlast⟩ := h.last
  have htext : text = front ++ init ++ c :: back := by simpa using h.text_eq
  have hlow := hlast.1
  have hhigh := hlast.2
  rw [List.append_assoc] at hhigh
  constructor
  · refine ⟨front ++ init, c, back, htext, ⟨by omega, ?_⟩, hlast⟩
    rw [List.append_assoc]
    omega
  · rintro j ⟨front', d, back', htext', hj, hstop⟩
    obtain ⟨rfl, rfl⟩ := hstop.unique hlast (htext'.symm.trans htext)
    have hj' := hj.2
    rw [List.append_assoc] at hj'
    exact Nat.le_sub_one_of_lt hj'

theorem Source.lt_byteLength (h : Source o text span front piece back) :
    byteLength (normalize o front).text ≤ span.start ∧
      span.stop - 1 < byteLength (normalize o (front ++ piece)).text := by
  obtain ⟨c, rest, -, hfirst⟩ := h.first
  obtain ⟨init, d, rfl, hlast⟩ := h.last
  have hhigh := hlast.2
  rw [List.append_assoc] at hhigh
  exact ⟨hfirst.1, hhigh⟩

/-- The normalized source of a span holds the span. -/
theorem Source.exists_inner (h : Source o text span front piece back)
    (hspan : IsSpan (normalize o text).text span) :
    ∃ inner, slice? (normalize o text).text span.start span.stop = some inner ∧
      inner <:+: (normalize o piece).text := by
  obtain ⟨before, inner, behind, hcut, -, hstart, hstop⟩ := hspan.exists_cut
  have hproper := hspan.proper
  obtain ⟨hlow, hhigh⟩ := h.lt_byteLength
  rw [h.text_normalize_upto] at hhigh
  obtain ⟨u, v, -, hpiece, -⟩ := exists_within (h.text_normalize.symm.trans hcut) (by omega)
    (by omega)
  refine ⟨inner, ?_, u, v, hpiece.symm⟩
  rw [hcut, ← hstart, ← hstop]
  exact slice?_append before inner behind

/-! ## Order -/

theorem Source.start_le {span' : Interval} {front' piece' back' : List Char}
    (h : Source o text span front piece back) (h' : Source o text span' front' piece' back')
    (hle : span.start ≤ span'.start) : byteLength front ≤ byteLength front' := by
  obtain ⟨c, rest, rfl, hfirst⟩ := h.first
  obtain ⟨d, rest', rfl, hfirst'⟩ := h'.first
  have htext : front ++ c :: (rest ++ back) = front' ++ d :: (rest' ++ back') := by
    simpa using h.text_eq.symm.trans h'.text_eq
  obtain ⟨mid, rfl, -⟩ := hfirst.exists_append hfirst' hle htext
  rw [byteLength_append]
  exact Nat.le_add_right _ _

theorem Source.stop_le {span' : Interval} {front' piece' back' : List Char}
    (h : Source o text span front piece back) (h' : Source o text span' front' piece' back')
    (hle : span.stop ≤ span'.stop) :
    byteLength (front ++ piece) ≤ byteLength (front' ++ piece') := by
  obtain ⟨init, c, rfl, hlast⟩ := h.last
  obtain ⟨init', d, rfl, hlast'⟩ := h'.last
  have htext : (front ++ init) ++ c :: back = (front' ++ init') ++ d :: back' := by
    simpa using h.text_eq.symm.trans h'.text_eq
  obtain ⟨mid, hmid, htail⟩ := hlast.exists_append hlast' (by omega) htext
  rw [← List.append_assoc, ← List.append_assoc, hmid]
  cases mid with
  | nil =>
    obtain ⟨rfl, -⟩ := List.cons.inj htail
    simp
  | cons e mid =>
    obtain ⟨rfl, -⟩ := List.cons.inj htail
    simp only [byteLength_append, byteLength_cons, byteLength_nil]
    omega

theorem Source.start_lt {span' : Interval} {front' piece' back' : List Char}
    (h : Source o text span front piece back) (h' : Source o text span' front' piece' back')
    (hlt : span'.start < span.stop) : byteLength front' < byteLength (front ++ piece) := by
  obtain ⟨init, c, rfl, hlast⟩ := h.last
  obtain ⟨d, rest', rfl, hfirst'⟩ := h'.first
  have htext : front' ++ d :: (rest' ++ back') = (front ++ init) ++ c :: back := by
    simpa using h'.text_eq.symm.trans h.text_eq
  obtain ⟨mid, hmid, -⟩ := hfirst'.exists_append hlast (by omega) htext
  have hpos := c.utf8Size_pos
  rw [← List.append_assoc, hmid]
  simp only [byteLength_append, byteLength_cons, byteLength_nil]
  omega

/-- A span that begins inside another goes back to one that begins inside what the other goes back
to. -/
theorem sourceSpan_start_lt {span' : Interval} (h : IsSpan (normalize o text).text span)
    (h' : IsSpan (normalize o text).text span') (hlt : span'.start < span.stop) :
    ((normalize o text).sourceSpan span').start < ((normalize o text).sourceSpan span).stop := by
  obtain ⟨front, piece, back, hsource, heq⟩ := exists_source h
  obtain ⟨front', piece', back', hsource', heq'⟩ := exists_source h'
  rw [heq, heq']
  exact hsource.start_lt hsource' hlt

/-- Of two spans of a normalized text, the one that begins or ends first goes back to one that
begins or ends first. -/
theorem sourceSpan_mono {span' : Interval} (h : IsSpan (normalize o text).text span)
    (h' : IsSpan (normalize o text).text span') :
    (span.start ≤ span'.start →
      ((normalize o text).sourceSpan span).start ≤ ((normalize o text).sourceSpan span').start) ∧
    (span.stop ≤ span'.stop →
      ((normalize o text).sourceSpan span).stop ≤ ((normalize o text).sourceSpan span').stop) := by
  obtain ⟨front, piece, back, hsource, heq⟩ := exists_source h
  obtain ⟨front', piece', back', hsource', heq'⟩ := exists_source h'
  rw [heq, heq']
  exact ⟨hsource.start_le hsource', hsource.stop_le hsource'⟩

/-! ## The round trip -/

/-- A span of a normalized text goes back to a span of the source, and later ends go back to later
ends. The piece of the source under the span is normalized to what lies between the first byte
that shares its source with the first byte of the span and the last that does with the last; it
holds the piece under the span of the normalized text, and is that piece if the span leaves out
nothing that its outer characters produced. -/
theorem sourceSpan_roundTrip (o : NormalizeOptions) (text : List Char) :
    let n := normalize o text
    (∀ span, IsSpan n.text span →
      let source := n.sourceSpan span
      source.start < source.stop ∧ source.stop ≤ byteLength text ∧
      IsBoundary text source.start ∧ IsBoundary text source.stop ∧
      ∃ first last piece inner,
        IsLeast {j | SameSource o text j span.start} first ∧
        IsGreatest {j | SameSource o text j (span.stop - 1)} last ∧
        first ≤ span.start ∧ span.stop ≤ last + 1 ∧
        slice? text source.start source.stop = some piece ∧
        slice? n.text first (last + 1) = some (normalize o piece).text ∧
        slice? n.text span.start span.stop = some inner ∧
        inner <:+: (normalize o piece).text ∧
        (first = span.start → last + 1 = span.stop → (normalize o piece).text = inner)) ∧
    ∀ span span', IsSpan n.text span → IsSpan n.text span' →
      (span.start ≤ span'.start → (n.sourceSpan span).start ≤ (n.sourceSpan span').start) ∧
      (span.stop ≤ span'.stop → (n.sourceSpan span).stop ≤ (n.sourceSpan span').stop) := by
  intro n
  refine ⟨?_, fun span span' h h' => sourceSpan_mono h h'⟩
  intro span hspan source
  have hsource : IsSpan text source := sourceSpan_isSpan hspan
  refine ⟨hsource.proper, hsource.stop_le, hsource.start_boundary, hsource.stop_boundary, ?_⟩
  obtain ⟨front, piece, back, h, heq⟩ := exists_source hspan
  obtain ⟨inner, hinner, hinfix⟩ := h.exists_inner hspan
  obtain ⟨hlow, hhigh⟩ := h.lt_byteLength
  have hupto := h.text_normalize_upto
  have hlast : byteLength (normalize o (front ++ piece)).text - 1 + 1 =
      byteLength (normalize o (front ++ piece)).text := by omega
  have hpiece : slice? n.text (byteLength (normalize o front).text)
      (byteLength (normalize o (front ++ piece)).text - 1 + 1) =
      some (normalize o piece).text := by
    rw [hlast, hupto, h.text_normalize]
    exact slice?_append _ _ _
  refine ⟨_, _, piece, inner, h.isLeast, h.isGreatest, hlow, by omega, ?_, hpiece, hinner, hinfix,
    ?_⟩
  · have hbounds : source = ⟨byteLength front, byteLength (front ++ piece)⟩ := heq
    rw [hbounds, h.text_eq]
    exact slice?_append front piece back
  · intro hfirst hstop
    rw [hfirst, hstop, hinner] at hpiece
    exact (Option.some.inj hpiece).symm

/-- The second half of what a dotted capital becomes goes back to the whole of it. -/
theorem sourceSpan_roundTrip_half_character :
    let o : NormalizeOptions := ⟨true, false, true⟩
    let n := normalize o "İab".toList
    IsSpan n.text ⟨1, 3⟩ ∧ n.sourceSpan ⟨1, 3⟩ = ⟨0, 2⟩ ∧
    ∃ piece inner, slice? "İab".toList 0 2 = some piece ∧ slice? n.text 1 3 = some inner ∧
      inner <:+: (normalize o piece).text := by
  intro o n
  have htext : n.text = ['i'] ++ ['\u0307'] ++ ['a', 'b'] := by decide
  have hspan : IsSpan n.text ⟨1, 3⟩ := by
    rw [htext]
    exact isSpan_ofLength ['i'] (by decide) ['a', 'b']
  have hsource : n.sourceSpan ⟨1, 3⟩ = ⟨0, 2⟩ := by decide
  obtain ⟨-, -, -, -, first, last, piece, inner, -, -, -, -, hpiece, -, hinner, hinfix, -⟩ :=
    (sourceSpan_roundTrip o "İab".toList).1 ⟨1, 3⟩ hspan
  rw [hsource] at hpiece
  exact ⟨hspan, hsource, piece, inner, hpiece, hinner, hinfix⟩

end CellSearch.Text
