import Mathlib
import CellSearch.Table.Record

/-!
# Written records

A record can be written in many ways: every cell may stand in quotes, and most may stand without
(`Record.Field.Fits`). Splitting a record gives back the cells, however they were written
(`Record.split_write`).

The splitter reads from the left, with the part of the cell at hand that it has read. The lemmas
below say how far it gets over a written cell: at the end of it the cell at hand is the text, the
quotes are closed, and what is left is the rest of the record.
-/

namespace CellSearch.Record

/-- A cell as it is written: its text, and whether it stands in quotes. -/
structure Field where
  text : String
  quoted : Bool
deriving DecidableEq, Repr, Inhabited

/-- A text with every quote written twice. -/
def doubleQuotes : List Char → List Char
  | [] => []
  | c :: rest => if c = '"' then '"' :: '"' :: doubleQuotes rest else c :: doubleQuotes rest

/-- What is written for a cell. -/
def Field.write (f : Field) : List Char :=
  if f.quoted then '"' :: (doubleQuotes f.text.toList ++ ['"']) else f.text.toList

/-- No cell holds a line feed. One that stands without quotes holds no delimiter and does not
begin with a quote. -/
structure Field.Fits (delimiter : Char) (f : Field) : Prop where
  no_feed : '\n' ∉ f.text.toList
  bare : f.quoted = false → delimiter ∉ f.text.toList ∧ f.text.toList.head? ≠ some '"'

instance (delimiter : Char) (f : Field) : Decidable (f.Fits delimiter) :=
  decidable_of_iff ('\n' ∉ f.text.toList ∧
      (f.quoted = false → delimiter ∉ f.text.toList ∧ f.text.toList.head? ≠ some '"'))
    ⟨fun h => ⟨h.1, h.2⟩, fun h => ⟨h.no_feed, h.bare⟩⟩

/-- What is written for a record. -/
def write (delimiter : Char) : List Field → List Char
  | [] => []
  | [f] => f.write
  | f :: rest => f.write ++ delimiter :: write delimiter rest

variable {delimiter : Char} {text cell tail : List Char} {f : Field} {fields : List Field}

/-! ## Splitting -/

/-- The splitter reads over a text without quotes around it. A quote at its begin would open
quotes, but only if nothing of the cell was read before. -/
theorem splitFrom_bare (hdelimiter : delimiter ∉ text)
    (hquote : cell = [] → text.head? ≠ some '"') :
    splitFrom delimiter false cell (text ++ tail) =
      splitFrom delimiter false (cell ++ text) tail := by
  induction text generalizing cell with
  | nil => rw [List.nil_append, List.append_nil]
  | cons c rest ih =>
    have hc : c ≠ delimiter := by
      rintro rfl
      exact hdelimiter List.mem_cons_self
    have hopen : ¬ (c = '"' ∧ cell = []) := by
      rintro ⟨rfl, hcell⟩
      exact hquote hcell rfl
    have hrest : delimiter ∉ rest := fun hmem => hdelimiter (List.mem_cons_of_mem c hmem)
    rw [List.cons_append, splitFrom, if_neg hopen, if_neg hc, ih hrest (by simp)]
    rw [List.append_assoc, List.singleton_append]

/-- A quote that no other follows closes the quotes. -/
theorem splitFrom_close (htail : tail.head? ≠ some '"') :
    splitFrom delimiter true cell ('"' :: tail) = splitFrom delimiter false cell tail := by
  cases tail with
  | nil => simp [splitFrom]
  | cons c rest =>
    have hc : c ≠ '"' := by
      rintro rfl
      exact htail rfl
    rw [splitFrom, if_pos rfl]
    simpa using hc

/-- Between quotes the splitter takes two quotes for one, and leaves at the first that stands
alone. -/
theorem splitFrom_doubleQuotes (htail : tail.head? ≠ some '"') :
    splitFrom delimiter true cell (doubleQuotes text ++ '"' :: tail) =
      splitFrom delimiter false (cell ++ text) tail := by
  induction text generalizing cell with
  | nil => rw [doubleQuotes, List.nil_append, List.append_nil, splitFrom_close htail]
  | cons c rest ih =>
    rw [doubleQuotes]
    by_cases hc : c = '"'
    · rw [if_pos hc, List.cons_append, List.cons_append, splitFrom, ih, hc]
      rw [List.append_assoc, List.singleton_append]
    · rw [if_neg hc, List.cons_append, splitFrom, if_neg hc, ih]
      · rw [List.append_assoc, List.singleton_append]
      · intro rest' heq
        exact absurd heq hc

/-- However a cell is written, the splitter has its text at the end of it. -/
theorem splitFrom_field (hfits : f.Fits delimiter) (htail : tail.head? ≠ some '"') :
    splitFrom delimiter false [] (f.write ++ tail) =
      splitFrom delimiter false f.text.toList tail := by
  unfold Field.write
  by_cases hquoted : f.quoted = true
  · rw [if_pos hquoted, List.cons_append, List.append_assoc, List.singleton_append]
    rw [splitFrom, if_pos ⟨rfl, rfl⟩, splitFrom_doubleQuotes htail, List.nil_append]
  · rcases hfits.bare (by simpa using hquoted) with ⟨hdelimiter, hquote⟩
    rw [if_neg hquoted, splitFrom_bare hdelimiter fun _ => hquote, List.nil_append]

/-- At a delimiter the cell at hand is finished. -/
theorem splitFrom_delimiter (hdelimiter : delimiter ≠ '"') (rest : List Char) :
    splitFrom delimiter false cell (delimiter :: rest) =
      cell :: splitFrom delimiter false [] rest := by
  rw [splitFrom, if_neg, if_pos rfl]
  rintro ⟨hquote, -⟩
  exact hdelimiter hquote

/-- A record that is split gives back the cells that were written. -/
theorem split_write (hdelimiter : delimiter ≠ '"') (hfields : ∀ f ∈ fields, f.Fits delimiter)
    (hne : fields ≠ []) :
    split delimiter (write delimiter fields) = fields.map fun f => f.text.toList := by
  unfold split
  induction fields with
  | nil => exact absurd rfl hne
  | cons f rest ih =>
    have hf := hfields f List.mem_cons_self
    cases rest with
    | nil =>
      have hlast : splitFrom delimiter false [] (f.write ++ []) =
          splitFrom delimiter false f.text.toList [] := splitFrom_field hf (by simp)
      rw [List.append_nil] at hlast
      rw [write, hlast, splitFrom, List.map_cons, List.map_nil]
    | cons next rest =>
      -- the delimiter is no quote, so that it does not spoil the end of a quoted cell
      have hnext : (delimiter :: write delimiter (next :: rest)).head? ≠ some '"' := by
        simpa using hdelimiter
      have hrest := ih (fun g hg => hfields g (List.mem_cons_of_mem f hg)) (by simp)
      rw [write, splitFrom_field hf hnext, splitFrom_delimiter hdelimiter, hrest]
      · rfl
      · exact fun h => List.cons_ne_nil next rest h

/-! ## Line feeds -/

theorem mem_of_mem_doubleQuotes {c : Char} (hmem : c ∈ doubleQuotes text) (hc : c ≠ '"') :
    c ∈ text := by
  induction text with
  | nil => exact hmem
  | cons head rest ih =>
    rw [doubleQuotes] at hmem
    split at hmem
    · have hrest : c ∈ doubleQuotes rest := by simpa [hc] using hmem
      exact List.mem_cons_of_mem head (ih hrest)
    · rcases List.mem_cons.mp hmem with rfl | hrest
      · exact List.mem_cons_self
      · exact List.mem_cons_of_mem head (ih hrest)

theorem Field.feed_notMem_write (hfits : f.Fits delimiter) : '\n' ∉ f.write := by
  unfold Field.write
  intro hmem
  split at hmem
  · have hinner : '\n' ∈ doubleQuotes f.text.toList := by simpa using hmem
    exact hfits.no_feed (mem_of_mem_doubleQuotes hinner (by decide))
  · exact hfits.no_feed hmem

/-- A written record is one line. -/
theorem feed_notMem_write (hdelimiter : delimiter ≠ '\n')
    (hfields : ∀ f ∈ fields, f.Fits delimiter) : '\n' ∉ write delimiter fields := by
  induction fields with
  | nil => exact List.not_mem_nil
  | cons f rest ih =>
    have hf := Field.feed_notMem_write (hfields f List.mem_cons_self)
    have hrest := ih fun g hg => hfields g (List.mem_cons_of_mem f hg)
    cases rest with
    | nil => exact hf
    | cons next rest =>
      rw [write, List.mem_append, List.mem_cons]
      · rintro (hmem | heq | hmem)
        · exact hf hmem
        · exact hdelimiter heq.symm
        · exact hrest hmem
      · exact fun h => List.cons_ne_nil next rest h

end CellSearch.Record
