import Mathlib
import CellSearch.Proofs.RowSource
import CellSearch.Proofs.Table.Record
import CellSearch.Table.Basic

/-!
# Reading what was written

A written table is a list of lines, some of them blank, each ended by a line feed with or without
a carriage return before it (`Table.Line`). Reading it gives back the records with the numbers of
their lines, whatever the delimiter is and however the cells were written
(`Table.parse_written`).

Two things make up for this: a line feed is found nowhere but at the end of a line
(`Table.lines_written`), and what is trimmed from a line is its ending and no more
(`Table.Line.Fits.trimReturns_physical`).
-/

namespace CellSearch.Table

/-- A line of a written table: a record, or a blank line if there are no fields. -/
structure Line where
  fields : List Record.Field
  /-- Whether a carriage return stands before the line feed. -/
  crlf : Bool
deriving DecidableEq, Repr, Inhabited

namespace Line

/-- What is written for the record of a line. -/
def text (delimiter : Char) (l : Line) : List Char := Record.write delimiter l.fields

/-- A line up to its line feed. -/
def physical (delimiter : Char) (l : Line) : List Char :=
  l.text delimiter ++ if l.crlf then ['\r'] else []

/-- The row of a line with a number, if the line is not blank. -/
def row? (l : Line) (line : Nat) : Option TableRow :=
  if l.fields = [] then none else some ⟨line, l.fields.map (·.text)⟩

/-- The record does not look like a blank line, and does not end in what is trimmed. -/
structure Fits (delimiter : Char) (l : Line) : Prop where
  fields_fit : ∀ f ∈ l.fields, f.Fits delimiter
  text_ne : l.fields ≠ [] → l.text delimiter ≠ []
  no_return : (l.text delimiter).getLast? ≠ some '\r'

instance (delimiter : Char) (l : Line) : Decidable (l.Fits delimiter) :=
  decidable_of_iff ((∀ f ∈ l.fields, f.Fits delimiter) ∧
      (l.fields ≠ [] → l.text delimiter ≠ []) ∧ (l.text delimiter).getLast? ≠ some '\r')
    ⟨fun h => ⟨h.1, h.2.1, h.2.2⟩, fun h => ⟨h.fields_fit, h.text_ne, h.no_return⟩⟩

end Line

/-- The text of a list of lines. -/
def written (delimiter : Char) (lines : List Line) : List Char :=
  lines.flatMap fun l => l.physical delimiter ++ ['\n']

/-- The rows of a list of lines, of which the first has the number `line`. -/
def rowsFrom (line : Nat) (lines : List Line) : List TableRow :=
  (lines.zipIdx line).filterMap fun numbered => numbered.1.row? numbered.2

variable {delimiter : Char} {l : Line} {lines : List Line}

/-! ## Lines -/

theorem written_cons (l : Line) (rest : List Line) :
    written delimiter (l :: rest) =
      l.physical delimiter ++ '\n' :: written delimiter rest := by
  simp [written]

theorem lines_append_feed {text rest : List Char} (hfeed : '\n' ∉ text) :
    Record.lines (text ++ '\n' :: rest) = text :: Record.lines rest := by
  induction text with
  | nil => rw [List.nil_append, Record.lines, if_pos rfl]
  | cons c more ih =>
    have hc : c ≠ '\n' := by
      rintro rfl
      exact hfeed List.mem_cons_self
    have hmore : '\n' ∉ more := fun hmem => hfeed (List.mem_cons_of_mem c hmem)
    rw [List.cons_append, Record.lines, if_neg hc, ih hmore]

theorem Line.Fits.feed_notMem_physical (hl : l.Fits delimiter) (hdelimiter : delimiter ≠ '\n') :
    '\n' ∉ l.physical delimiter := by
  unfold Line.physical
  intro hmem
  rcases List.mem_append.mp hmem with hmem | hmem
  · exact Record.feed_notMem_write hdelimiter hl.fields_fit hmem
  · split at hmem
    · simp at hmem
    · exact List.not_mem_nil hmem

/-- The lines of a written text are those that were written. -/
theorem lines_written (hdelimiter : delimiter ≠ '\n') (hlines : ∀ l ∈ lines, l.Fits delimiter) :
    Record.lines (written delimiter lines) = lines.map (Line.physical delimiter) := by
  induction lines with
  | nil => rfl
  | cons l rest ih =>
    have hfeed := (hlines l List.mem_cons_self).feed_notMem_physical hdelimiter
    have hrest := ih fun l' hl' => hlines l' (List.mem_cons_of_mem l hl')
    rw [written_cons, lines_append_feed hfeed, hrest, List.map_cons]

/-- Of a written line the carriage return before the line feed is trimmed, and nothing else. -/
theorem Line.Fits.trimReturns_physical (hl : l.Fits delimiter) :
    Record.trimReturns (l.physical delimiter) = l.text delimiter := by
  have hkept : (l.text delimiter).reverse.dropWhile (· == '\r') = (l.text delimiter).reverse := by
    have hlast := hl.no_return
    rw [← List.head?_reverse] at hlast
    cases hreverse : (l.text delimiter).reverse with
    | nil => rfl
    | cons c rest =>
      rw [hreverse] at hlast
      have hc : (c == '\r') = false := by simpa using hlast
      rw [List.dropWhile_cons, hc]
      rfl
  have htrim : (l.physical delimiter).reverse.dropWhile (· == '\r') =
      (l.text delimiter).reverse := by
    unfold Line.physical
    split
    · rw [List.reverse_append, List.reverse_singleton, List.singleton_append,
        List.dropWhile_cons, if_pos (by rfl), hkept]
    · rw [List.append_nil, hkept]
  rw [Record.trimReturns, htrim, List.reverse_reverse]

/-! ## Records -/

/-- The cells of a line are those that were written. -/
theorem Line.Fits.cells_text (hl : l.Fits delimiter) (hdelimiter : delimiter ≠ '"')
    (hne : l.fields ≠ []) : cells delimiter (l.text delimiter) = l.fields.map (·.text) := by
  rw [cells, Line.text, Record.split_write hdelimiter hl.fields_fit hne, List.map_map]
  apply List.map_congr_left
  intro f _
  exact String.ofList_toList

/-- Blank lines are counted and left out, and every other line gives its record. -/
theorem map_numberedLines (hdelimiter : delimiter ≠ '"')
    (hlines : ∀ l ∈ lines, l.Fits delimiter) (line : Nat) :
    ((numberedLines line (lines.map (Line.physical delimiter))).map fun (n, text) =>
      (⟨n, cells delimiter text⟩ : TableRow)) = rowsFrom line lines := by
  induction lines generalizing line with
  | nil => rfl
  | cons l rest ih =>
    have hl := hlines l List.mem_cons_self
    have hrest := ih (fun l' hl' => hlines l' (List.mem_cons_of_mem l hl')) (line + 1)
    rw [List.map_cons, numberedLines, hl.trimReturns_physical, rowsFrom, List.zipIdx_cons,
      List.filterMap_cons]
    by_cases hblank : l.fields = []
    · have htext : l.text delimiter = [] := by rw [Line.text, hblank, Record.write]
      simp only [htext, Line.row?, if_pos hblank]
      exact hrest
    · have hcells := hl.cells_text hdelimiter hblank
      simp only [Line.row?, if_neg hblank]
      cases htext : l.text delimiter with
      | nil => exact absurd htext (hl.text_ne hblank)
      | cons c more =>
        rw [htext] at hcells
        simp only [List.map_cons, hcells]
        exact congrArg _ hrest

/-- The numbers of the rows go up. -/
theorem rowsFrom_line_lt (line : Nat) (lines : List Line) :
    (rowsFrom line lines).Pairwise fun a b => a.line < b.line := by
  have hnumbers : (lines.zipIdx line).Pairwise fun a b => a.2 < b.2 := by
    rw [← List.pairwise_map (f := Prod.snd), List.zipIdx_map_snd]
    exact List.pairwise_lt_range' 1
  apply List.Pairwise.filterMap _ _ hnumbers
  intro a b hlt ra hra rb hrb
  unfold Line.row? at hra hrb
  split_ifs at hra hrb
  rw [← Option.some.inj hra, ← Option.some.inj hrb]
  exact hlt

theorem count_feed_written (hdelimiter : delimiter ≠ '\n')
    (hlines : ∀ l ∈ lines, l.Fits delimiter) :
    (written delimiter lines).count '\n' = lines.length := by
  induction lines with
  | nil => rfl
  | cons l rest ih =>
    have hnone := List.count_eq_zero.mpr
      ((hlines l List.mem_cons_self).feed_notMem_physical hdelimiter)
    have hrest := ih fun l' hl' => hlines l' (List.mem_cons_of_mem l hl')
    rw [written_cons, List.count_append, hnone, List.count_cons_self, hrest, List.length_cons]
    omega

/-- The number of a row counts the line feeds before its line. -/
theorem exists_line_of_mem_rowsFrom (hdelimiter : delimiter ≠ '\n')
    (hlines : ∀ l ∈ lines, l.Fits delimiter) {row : TableRow} (hrow : row ∈ rowsFrom 1 lines) :
    ∃ before l after, l ∈ lines ∧ l.row? row.line = some row ∧
      written delimiter lines = before ++ l.physical delimiter ++ '\n' :: after ∧
      before.count '\n' + 1 = row.line := by
  rcases List.mem_filterMap.mp hrow with ⟨⟨l, n⟩, hmem, hsome⟩
  rcases List.mem_zipIdx hmem with ⟨hlow, hhigh, hl⟩
  have hline : row.line = n := by
    unfold Line.row? at hsome
    split_ifs at hsome
    rw [← Option.some.inj hsome]
  have hn : n - 1 < lines.length := by omega
  have hl : l = lines[n - 1] := hl
  have hcut : lines = lines.take (n - 1) ++ l :: lines.drop (n - 1 + 1) := by
    rw [hl, ← List.drop_eq_getElem_cons hn, List.take_append_drop]
  refine ⟨written delimiter (lines.take (n - 1)), l,
    written delimiter (lines.drop (n - 1 + 1)), ?_, ?_, ?_, ?_⟩
  · rw [hl]
    exact List.getElem_mem hn
  · rw [hline]
    exact hsome
  · conv_lhs => rw [hcut]
    simp [written]
  · rw [count_feed_written hdelimiter fun l hl => hlines l (List.mem_of_mem_take hl)]
    rw [List.length_take, hline]
    omega

/-! ## Reading -/

/-- Reading a written table gives back its records: the first names the columns, and the others are
the rows. The number of a row is that of the line on which it stands, so that the numbers go up
from row to row, and a row is found by its number. -/
theorem parse_written (hquote : delimiter ≠ '"') (hfeed : delimiter ≠ '\n')
    (hlines : ∀ l ∈ lines, l.Fits delimiter) {header : TableRow} {rows : List TableRow}
    (hrows : rowsFrom 1 lines = header :: rows) :
    parse (written delimiter lines) delimiter = .ok ⟨header.cells, rows⟩ ∧
      (∀ row ∈ header :: rows, ∃ before l after, l ∈ lines ∧ l.row? row.line = some row ∧
        written delimiter lines = before ++ l.physical delimiter ++ '\n' :: after ∧
        before.count '\n' + 1 = row.line) ∧
      (header :: rows).Pairwise (fun a b => a.line < b.line) ∧
      (∀ line, (RowSource.ofList rows).locate line ≠ .ambiguous) ∧
      ∀ i row, rows[i]? = some row → (RowSource.ofList rows).locate row.line = .unique i := by
  have hlt := rowsFrom_line_lt 1 lines
  have hread := map_numberedLines hquote hlines 1
  rw [hrows] at hlt hread
  have hkeys : (rows.map rowKey).Nodup := by
    rw [List.Nodup, List.pairwise_map]
    exact (List.pairwise_cons.mp hlt).2.imp fun hline => Nat.ne_of_lt hline
  refine ⟨?_, ?_, hlt, RowSource.locate_ofList hkeys⟩
  · rw [parse, lines_written hfeed hlines]
    cases hnumbered : numberedLines 1 (lines.map (Line.physical delimiter)) with
    | nil =>
      rw [hnumbered] at hread
      cases hread
    | cons first rest =>
      rw [hnumbered, List.map_cons, List.cons.injEq] at hread
      rcases hread with ⟨hfirst, hrest⟩
      rw [← hfirst, ← hrest]
  · intro row hrow
    rw [← hrows] at hrow
    exact exists_line_of_mem_rowsFrom hfeed hlines hrow

/-- A header without quotes, a blank line, and a row with a quoted delimiter, a quote inside quotes
and an empty cell; the row is on the third line. -/
theorem parse_written_quoted :
    let lines : List Line :=
      [⟨[⟨"name", false⟩, ⟨"notes", false⟩, ⟨"", true⟩], false⟩, ⟨[], true⟩,
        ⟨[⟨"a,b", true⟩, ⟨"say \"hi\"", true⟩, ⟨"", false⟩], true⟩]
    written ',' lines = "name,notes,\"\"\n\r\n\"a,b\",\"say \"\"hi\"\"\",\r\n".toList ∧
      parse (written ',' lines) ',' =
        .ok ⟨["name", "notes", ""], [⟨3, ["a,b", "say \"hi\"", ""]⟩]⟩ := by
  intro lines
  have hlines : ∀ l ∈ lines, l.Fits ',' := by decide
  have hrows : rowsFrom 1 lines =
      [⟨1, ["name", "notes", ""]⟩, ⟨3, ["a,b", "say \"hi\"", ""]⟩] := rfl
  exact ⟨by decide, (parse_written (by decide) (by decide) hlines hrows).1⟩

end CellSearch.Table
