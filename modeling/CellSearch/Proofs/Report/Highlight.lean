import Mathlib
import CellSearch.Proofs.Engine.Bounds
import CellSearch.Proofs.Engine.Cells
import CellSearch.Proofs.Engine.Order
import CellSearch.Proofs.Engine.Rematch
import CellSearch.Proofs.Text.Boundary
import CellSearch.Report.Basic

/-!
# Highlighted texts

A report cuts the text of a result at the ends of its spans, which is possible only if the spans
lie in the text one behind the other, with their ends between characters. The spans of an engine
always do (`run_highlightable`), whatever its results have gone through: they are a scan of some
table, and a scan merges what its descriptors find.

A highlighted text is the text itself with marks around the spans. It can be read back
(`Style.signs`) where no character of the text can be taken for the beginning of a mark.

* `report_text_run` — every report of an engine succeeds, counts its matches and its cells, and
  loses no text.
-/

namespace CellSearch

open CellSearch.Text

variable {R K : Type}

/-! ## Reading a styled text -/

namespace Report

/-- A sign of a styled text: one of the two marks, or a character. -/
inductive Sign where
  | opens
  | closes
  | char (c : Char)
deriving DecidableEq, Repr

/-- The signs of a text, with the marks of a style told from the characters. The next `skip`
characters belong to a mark that was read already. -/
def Style.signs (s : Style) : (skip : Nat) → List Char → List Sign
  | _, [] => []
  | skip + 1, _ :: rest => s.signs skip rest
  | 0, c :: rest =>
    if s.opening.isPrefixOf (c :: rest) then .opens :: s.signs (s.opening.length - 1) rest
    else if Style.reset.isPrefixOf (c :: rest) then
      .closes :: s.signs (Style.reset.length - 1) rest
    else .char c :: s.signs 0 rest

/-- The characters that are left when the marks are deleted. -/
def plain : List Sign → List Char
  | [] => []
  | .char c :: rest => c :: plain rest
  | _ :: rest => plain rest

/-- The pieces between an opening mark and the next closing one. `piece` holds what came after
the last opening mark, if it is not closed yet. -/
def pieces : (piece : Option (List Char)) → List Sign → List (List Char)
  | _, [] => []
  | _, .opens :: rest => pieces (some []) rest
  | none, .closes :: rest => pieces none rest
  | some piece, .closes :: rest => piece :: pieces none rest
  | none, .char _ :: rest => pieces none rest
  | some piece, .char c :: rest => pieces (some (piece ++ [c])) rest

namespace Style

variable {s : Style} {text rest : List Char}

theorem signs_length (front rest : List Char) :
    s.signs front.length (front ++ rest) = s.signs 0 rest := by
  induction front with
  | nil => rfl
  | cons c front ih =>
    rw [List.length_cons, List.cons_append, signs]
    exact ih

/-- A text without the character that begins a mark is read as it is. -/
theorem signs_append_of_notMem (h : escape ∉ text) :
    s.signs 0 (text ++ rest) = text.map .char ++ s.signs 0 rest := by
  induction text with
  | nil => rfl
  | cons c text ih =>
    rw [List.mem_cons, not_or] at h
    -- both marks begin with the character that is not there
    have hmark : ∀ mark, (escape :: mark).isPrefixOf (c :: (text ++ rest)) = false := by
      intro mark
      rw [List.isPrefixOf, beq_eq_false_iff_ne.mpr h.1, Bool.false_and]
    have hopening : s.opening.isPrefixOf (c :: (text ++ rest)) = false := hmark _
    have hreset : reset.isPrefixOf (c :: (text ++ rest)) = false := hmark _
    rw [List.cons_append, signs, hopening, hreset, ih h.2]
    rfl

theorem signs_opening (rest : List Char) :
    s.signs 0 (s.opening ++ rest) = .opens :: s.signs 0 rest := by
  have hprefix : s.opening.isPrefixOf (s.opening ++ rest) = true :=
    List.isPrefixOf_iff_prefix.mpr (List.prefix_append _ _)
  have hcons : ∃ code, s.opening = escape :: code := ⟨_, rfl⟩
  rcases hcons with ⟨code, hcode⟩
  rw [hcode] at hprefix ⊢
  rw [List.cons_append] at hprefix ⊢
  rw [signs, hcode, if_pos hprefix, List.length_cons, Nat.add_sub_cancel, signs_length]

/-- The mark of what was found does not hide the end of a style. -/
theorem signs_reset (rest : List Char) :
    found.signs 0 (reset ++ rest) = .closes :: found.signs 0 rest := by
  -- the two marks differ behind their bracket
  have hother : found.opening.isPrefixOf (reset ++ rest) = false := rfl
  have hprefix : reset.isPrefixOf (reset ++ rest) = true :=
    List.isPrefixOf_iff_prefix.mpr (List.prefix_append _ _)
  have hcons : reset ++ rest = escape :: (['[', '0', 'm'] ++ rest) := rfl
  rw [hcons] at hother hprefix ⊢
  rw [signs, hother, hprefix, if_neg Bool.false_ne_true, if_pos rfl]
  exact congrArg _ (signs_length ['[', '0', 'm'] rest)

/-- A style is opened again only where the text has a mark of its own. -/
theorem reopen_of_notMem {opening : List Char} (h : escape ∉ text) :
    reopen opening text = text := by
  induction text with
  | nil => rfl
  | cons c text ih =>
    rw [List.mem_cons, not_or] at h
    have hc : c ≠ '\x1b' := Ne.symm h.1
    rw [reopen, ih h.2]
    rintro rest rfl
    exact absurd rfl hc

end Style

/-! ## The pieces of a highlighted text -/

/-- A piece of a text that was found, and what comes before it. -/
structure Segment where
  before : List Char
  inside : List Char

namespace Segment

variable {segments : List Segment} {tail : List Char}

/-- The segment as it stands in its text. -/
def bare (g : Segment) : List Char := g.before ++ g.inside

/-- The segment as it is reported. -/
def painted (color : Bool) (g : Segment) : List Char :=
  g.before ++ Style.found.paint color g.inside

/-- The signs of a segment that is reported with color. -/
def marked (g : Segment) : List Sign :=
  g.before.map .char ++ .opens :: g.inside.map .char ++ [.closes]

theorem painted_false (segments : List Segment) :
    segments.flatMap (painted false) = segments.flatMap bare := rfl

/-- A segment without the character that begins a mark is read back. -/
theorem signs_painted {g : Segment} (h : Style.escape ∉ g.bare) (rest : List Char) :
    Style.found.signs 0 (g.painted true ++ rest) = g.marked ++ Style.found.signs 0 rest := by
  rw [bare, List.mem_append, not_or] at h
  rcases h with ⟨hbefore, hinside⟩
  have hpaint : Style.found.paint true g.inside =
      Style.found.opening ++ g.inside ++ Style.reset := by
    rw [Style.paint, if_pos rfl, Style.reopen_of_notMem hinside]
  rw [painted, hpaint]
  simp only [List.append_assoc]
  rw [Style.signs_append_of_notMem hbefore, Style.signs_opening,
    Style.signs_append_of_notMem hinside, Style.signs_reset]
  simp [marked]

theorem signs_flatMap_painted (h : Style.escape ∉ segments.flatMap bare ++ tail) :
    Style.found.signs 0 (segments.flatMap (painted true) ++ tail) =
      segments.flatMap marked ++ tail.map .char := by
  induction segments with
  | nil =>
    have hplain : Style.found.signs 0 (tail ++ []) = tail.map .char ++ Style.found.signs 0 [] :=
      Style.signs_append_of_notMem h
    simpa [Style.signs] using hplain
  | cons g segments ih =>
    simp only [List.flatMap_cons, List.append_assoc] at h ⊢
    rw [List.mem_append, not_or] at h
    rw [signs_painted h.1, ih h.2]

end Segment

theorem plain_append (a b : List Sign) : plain (a ++ b) = plain a ++ plain b := by
  induction a with
  | nil => rfl
  | cons sign a ih =>
    cases sign with
    | opens => exact ih
    | closes => exact ih
    | char c => exact congrArg (c :: ·) ih

theorem plain_map_char (text : List Char) : plain (text.map .char) = text := by
  induction text with
  | nil => rfl
  | cons c text ih => exact congrArg (c :: ·) ih

theorem plain_flatMap_marked (segments : List Segment) :
    plain (segments.flatMap Segment.marked) = segments.flatMap Segment.bare := by
  induction segments with
  | nil => rfl
  | cons g segments ih =>
    rw [List.flatMap_cons, List.flatMap_cons, plain_append, ih, Segment.marked]
    simp [plain_append, plain_map_char, plain, Segment.bare]

/-- Characters outside the marks belong to no piece. -/
theorem pieces_none_map_char (text : List Char) (rest : List Sign) :
    pieces none (text.map .char ++ rest) = pieces none rest := by
  induction text with
  | nil => rfl
  | cons c text ih => exact ih

theorem pieces_some_map_char (piece text : List Char) (rest : List Sign) :
    pieces (some piece) (text.map .char ++ rest) = pieces (some (piece ++ text)) rest := by
  induction text generalizing piece with
  | nil => simp
  | cons c text ih =>
    rw [List.map_cons, List.cons_append, pieces, ih]
    simp

theorem pieces_flatMap_marked (segments : List Segment) (rest : List Sign) :
    pieces none (segments.flatMap Segment.marked ++ rest) =
      segments.map Segment.inside ++ pieces none rest := by
  induction segments with
  | nil => rfl
  | cons g segments ih =>
    rw [List.flatMap_cons, Segment.marked]
    simp only [List.append_assoc, List.cons_append, List.nil_append]
    rw [pieces_none_map_char, pieces, pieces_some_map_char, List.nil_append, pieces, ih]
    rfl

/-! ## Highlighting -/

section Highlight

variable {spans : List Interval}

/-- Spans of a text that lie one behind the other, and behind its first part, cut the rest of it
into segments, and the rest with these segments set off is what is reported. -/
theorem exists_segments (front back : List Char)
    (hspans : ∀ span ∈ spans, IsSpan (front ++ back) span)
    (hcanonical : Interval.Canonical spans)
    (hbehind : ∀ span ∈ spans, byteLength front ≤ span.start) :
    ∃ (segments : List Segment) (tail : List Char),
      (∀ color, highlight color (byteLength front) back spans =
        some (segments.flatMap (Segment.painted color) ++ tail)) ∧
      back = segments.flatMap Segment.bare ++ tail ∧
      segments.map (fun g => some g.inside) =
        spans.map fun span => slice? (front ++ back) span.start span.stop := by
  induction spans generalizing front back with
  | nil => exact ⟨[], back, fun _ => rfl, rfl, rfl⟩
  | cons span rest ih =>
    rcases (hspans span List.mem_cons_self).exists_cut with
      ⟨front', inside, back', htext, -, hstart, hstop⟩
    -- what is reported already ends before the span
    have hle : byteLength front ≤ byteLength front' := by
      rw [hstart]
      exact hbehind span List.mem_cons_self
    have hcut : front ++ back = front' ++ (inside ++ back') := by
      rw [htext, List.append_assoc]
    rcases exists_append_of_byteLength_le hcut hle with ⟨before, rfl, rfl⟩
    have hsegments := ih (front ++ before ++ inside) back'
      (fun other hother => htext ▸ hspans other (List.mem_cons_of_mem _ hother)) hcanonical.tail
    have hlater : ∀ other ∈ rest, byteLength (front ++ before ++ inside) ≤ other.start := by
      intro other hother
      rw [hstop]
      exact ((List.pairwise_cons.mp hcanonical.separated).1 other hother).le
    rcases hsegments hlater with ⟨segments, tail, hhighlight, rfl, hinsides⟩
    refine ⟨⟨before, inside⟩ :: segments, tail, ?_, ?_, ?_⟩
    · intro color
      have hproper := (hspans span List.mem_cons_self).proper
      have hfirst : span.start - byteLength front = byteLength before := by
        rw [← hstart, byteLength_append]
        omega
      have hsecond : span.len = byteLength inside := by
        rw [Interval.len, ← hstop, ← hstart, byteLength_append (front ++ before)]
        omega
      have hguard : byteLength front ≤ span.start ∧ span.start ≤ span.stop :=
        ⟨hbehind span List.mem_cons_self, hproper.le⟩
      have htail := hhighlight color
      rw [hstop] at htail
      rw [highlight, if_pos hguard, hfirst, splitAt?_append]
      simp only [hsecond, splitAt?_append, htail, Option.map_some]
      simp [Segment.painted]
    · simp [Segment.bare]
    · rw [htext, List.map_cons, List.map_cons, hinsides, ← hstart, ← hstop, slice?_append]

end Highlight

end Report

/-! ## Results that can be highlighted -/

/-- The spans of a result lie in its text, and between any two is a byte that neither holds. -/
structure SearchResult.Highlightable (r : SearchResult K) : Prop where
  isSpan : ∀ span ∈ r.spans, IsSpan r.text.toList span
  canonical : Interval.Canonical r.spans

namespace SearchResult

variable {r : SearchResult K}

theorem matchedText_eq_map (r : SearchResult K) :
    (List.range r.spans.length).map r.matchedText =
      r.spans.map fun span => (slice? r.text.toList span.start span.stop).map String.ofList := by
  apply List.ext_getElem
  · simp
  · intro i hi _
    have hlt : i < r.spans.length := by simpa using hi
    simp [matchedText, List.getElem?_eq_getElem hlt]

/-- The text of a result, cut at its spans. -/
theorem Highlightable.exists_segments (h : r.Highlightable) :
    ∃ (segments : List Report.Segment) (tail : List Char),
      (∀ color, Report.highlight color 0 r.text.toList r.spans =
        some (segments.flatMap (Report.Segment.painted color) ++ tail)) ∧
      r.text.toList = segments.flatMap Report.Segment.bare ++ tail ∧
      segments.map (fun g => some (String.ofList g.inside)) =
        (List.range r.spans.length).map r.matchedText := by
  rcases Report.exists_segments [] r.text.toList h.isSpan h.canonical fun _ _ => Nat.zero_le _ with
    ⟨segments, tail, hhighlight, htext, hinsides⟩
  refine ⟨segments, tail, hhighlight, htext, ?_⟩
  have hmapped := congrArg (List.map (Option.map String.ofList)) hinsides
  rw [List.map_map, List.map_map] at hmapped
  rw [matchedText_eq_map]
  exact hmapped

/-- The text of a result can be reported, with color and without. -/
theorem Highlightable.exists_shown (h : r.Highlightable) (color : Bool) :
    ∃ shown, Report.highlight color 0 r.text.toList r.spans = some shown ∧
      (color = false → shown = r.text.toList) ∧
      (color = true → Report.Style.escape ∉ r.text.toList →
        Report.plain (Report.Style.found.signs 0 shown) = r.text.toList ∧
        (Report.pieces none (Report.Style.found.signs 0 shown)).map
            (fun piece => some (String.ofList piece)) =
          (List.range r.spans.length).map r.matchedText) := by
  rcases h.exists_segments with ⟨segments, tail, hhighlight, htext, hinsides⟩
  refine ⟨_, hhighlight color, ?_, ?_⟩
  · rintro rfl
    rw [Report.Segment.painted_false, htext]
  · rintro rfl hescape
    rw [htext] at hescape
    rw [Report.Segment.signs_flatMap_painted hescape]
    refine ⟨?_, ?_⟩
    · rw [Report.plain_append, Report.plain_flatMap_marked, Report.plain_map_char, htext]
    · -- what comes behind the last span is in no piece
      have hrest : Report.pieces none (tail.map .char) = [] := by
        simpa [Report.pieces] using Report.pieces_none_map_char tail []
      rw [Report.pieces_flatMap_marked, hrest, List.append_nil, List.map_map, ← hinsides]
      rfl

end SearchResult

namespace Engine

variable [SearchRow R K]

theorem highlightable_of_mem_fullScan {source : RowSource R} {columns : ColumnSet R}
    {plan : ScopePlan} {r : SearchResult K} (hr : r ∈ (fullScan source columns plan).1.toList) :
    r.Highlightable := by
  rcases mem_toList_fullScan.mp hr with ⟨i, row, -, -, hrow⟩
  rcases List.mem_filterMap.mp hrow with ⟨entry, -, hcell⟩
  rcases evaluateCell_eq_some_iff.mp hcell with ⟨c, text, -, -, -, rfl⟩
  have hspans : ∀ span ∈ cellSpans entry.2 text.toList, IsSpan text.toList span := by
    intro span hspan
    rcases List.mem_flatMap.mp hspan with ⟨p, -, hmem⟩
    exact (p.matchText_isSpan text.toList).1 span hmem
  rcases merge_isSpan hspans with ⟨hmerged, hcanonical⟩
  exact ⟨hmerged, hcanonical⟩

/-- Every result of the engine can be highlighted. -/
def Highlightable (e : Engine R K) : Prop :=
  ∀ r ∈ e.results.toList, r.Highlightable

variable [DecidableEq K]
variable {e e' : Engine R K} {live : List (Column R)} {source : RowSource R}

theorem Refreshed.highlightable {outcome : Except SearchError FlushOutcome}
    (h : e.Refreshed live source e' outcome) (hbased : e.Based) (he : e.Highlightable) :
    e'.Highlightable := by
  cases h with
  | idle _ hengine => exact hengine ▸ he
  | upToDate _ _ _ _ hengine => exact hengine ▸ he
  | replayed columns plan _ _ hreplayed =>
    -- a replay gives what a scan of the edited rows would give
    rcases hreplayed.based hbased columns plan hreplayed.ready_after with ⟨base, -, hresults⟩
    intro r hr
    rw [hresults] at hr
    exact highlightable_of_mem_fullScan hr
  | scanned _ _ _ hscanned =>
    intro r hr
    rw [hscanned.results_eq] at hr
    exact highlightable_of_mem_fullScan hr
  | unbound _ _ hunbound =>
    intro r hr
    rw [hunbound.results_eq] at hr
    cases hr

/-- Nothing that is done to an engine gives it a span that does not lie in its text. -/
theorem run_highlightable (config : EngineConfig) (calls : List (Call R K)) :
    (run config calls).Highlightable := by
  have hkept : (run config calls).Based ∧ (run config calls).Highlightable := by
    refine coherent_run_induction (P := fun e => e.Based ∧ e.Highlightable) ?_ ?_ ?_ ?_ ?_ calls
    · refine ⟨based_ofConfig config, ?_⟩
      intro r hr
      cases hr
    · rintro e descriptors ⟨hbased, he⟩
      refine ⟨hbased.choose descriptors, ?_⟩
      rw [Highlightable, (retargeted_choose e descriptors).results_eq]
      exact he
    · rintro e live source e' outcome hcases ⟨hbased, he⟩
      exact ⟨hcases.based hbased, hcases.highlightable hbased he⟩
    · rintro e edit ⟨hbased, he⟩
      rcases report_eq e edit with ⟨pending, hengine⟩
      rw [hengine]
      exact ⟨hbased.of_pending pending, he⟩
    · rintro e ⟨-, he⟩
      exact ⟨.invalidateColumns, he⟩
  exact hkept.2

end Engine

/-! ## The report -/

namespace Report

/-- What stands before the text in the line of a result. -/
def lead (color : Bool) (r : SearchResult K) : List Char :=
  "→ ".toList ++ Style.found.paint color (toString r.row).toList ++ " │ ".toList ++
    Style.faint.paint color r.column.toList ++ " │ ".toList

theorem line_eq (color : Bool) (r : SearchResult K) :
    line color r = (highlight color 0 r.text.toList r.spans).map fun text => lead color r ++ text :=
  rfl

theorem text_eq_some {color : Bool} {results : List (SearchResult K)}
    {shown : SearchResult K → List Char}
    (h : ∀ r ∈ results, highlight color 0 r.text.toList r.spans = some (shown r)) :
    text color results = some (
      if results = [] then Style.notice.paint color "No matches found".toList
      else countLine color results ++
        results.flatMap fun r => '\n' :: (lead color r ++ shown r)) := by
  have hlines : results.mapM (line color) =
      some (results.map fun r => lead color r ++ shown r) := by
    apply mapM_eq_some
    intro r hr
    rw [line_eq, h r hr, Option.map_some]
  cases results with
  | nil => rfl
  | cons r rest =>
    rw [text, hlines, Option.map_some, List.flatMap_map]
    rfl

/-- Results of which no cell has two are as many as their cells. -/
theorem countLine_eq {color : Bool} {results : List (SearchResult K)}
    (hnodup : (results.map fun r => (r.row, r.columnIndex)).Nodup) :
    countLine color results = Style.heading.paint color "Found".toList ++ ' ' ::
      (toString (results.map fun r => r.spans.length).sum).toList ++ " match(es) in ".toList ++
      (toString (results.map fun r => (r.row, r.columnIndex)).toFinset.card).toList ++
      " cell(s):".toList := by
  rw [countLine, List.length_flatMap, List.toFinset_card_of_nodup hnodup, List.length_map]

end Report

namespace Engine

variable [SearchRow R K] [DecidableEq K]

/-- Every report of the results of an engine succeeds. It counts the spans and the cells, and has a
line for each result, in which the whole text of the cell is shown. Without color that is the text
as it is. With color it has marks around the spans: where no character of the text begins a mark,
to delete the marks gives the text again, and the pieces between them are the matched texts, in
their order. -/
theorem report_text_run (config : EngineConfig) (calls : List (Call R K)) (color : Bool) :
    let results := (run config calls).results.toList
    ∃ shown : SearchResult K → List Char,
      Report.text color results = some (
        if results = [] then Report.Style.notice.paint color "No matches found".toList
        else
          Report.Style.heading.paint color "Found".toList ++ ' ' ::
            (toString (results.map fun r => r.spans.length).sum).toList ++
            " match(es) in ".toList ++
            (toString (results.map fun r => (r.row, r.columnIndex)).toFinset.card).toList ++
            " cell(s):".toList ++
            results.flatMap fun r => '\n' :: (Report.lead color r ++ shown r)) ∧
      ∀ r ∈ results,
        Report.highlight color 0 r.text.toList r.spans = some (shown r) ∧
        (color = false → shown r = r.text.toList) ∧
        (color = true → Report.Style.escape ∉ r.text.toList →
          Report.plain (Report.Style.found.signs 0 (shown r)) = r.text.toList ∧
          (Report.pieces none (Report.Style.found.signs 0 (shown r))).map
              (fun piece => some (String.ofList piece)) =
            (List.range r.spans.length).map r.matchedText) := by
  intro results
  have hhighlightable : ∀ r ∈ results, r.Highlightable := run_highlightable config calls
  have hnodup := nodup_of_inOrder (ordered_run config calls).inOrder
  -- what is shown is known for each result by itself
  choose! shown hshown using fun r hr => (hhighlightable r hr).exists_shown color
  refine ⟨shown, ?_, hshown⟩
  rw [Report.text_eq_some fun r hr => (hshown r hr).1, Report.countLine_eq hnodup]

/-- Two matches in one cell are set off. -/
example :
    let calls : List (Call String String) :=
      [.apply [{ query := "a" }] [{ id := "name", accessor := some some }]
        (.ofList ["fig", "banal"])]
    Report.text true (run {} calls).results.toList = some
      ("\x1b[32mFound\x1b[0m 2 match(es) in 1 cell(s):\n" ++
        "→ \x1b[1;33m1\x1b[0m │ \x1b[2mname\x1b[0m │ " ++
        "b\x1b[1;33ma\x1b[0mn\x1b[1;33ma\x1b[0ml").toList := by
  cbv

end Engine

end CellSearch
