import Mathlib
import CellSearch.Proofs.Table.RoundTrip
import CellSearch.Proofs.Toml.RoundTrip

/-!
# Lines deleted from a file

A written file has a line for every value, so that a value is deleted with its line. What is left
is again a written file, of the document without these values (`write?_deleteKeys`). A table is
deleted with its header, which leaves a blank line (`deleteTable_write`).
-/

namespace CellSearch.Toml

variable {key name : String} {d : Document} {entries inner : List (String × Document)}
variable {line lines rest text file : List Char} {keys : List String}

/-! ## Deleting -/

/-- The key of a line that holds a value. -/
def lineKey? (line : List Char) : Option String :=
  match line.dropWhile (· != ' ') with
  | ' ' :: '=' :: _ => some (String.ofList (line.takeWhile (· != ' ')))
  | _ => none

/-- Lines with a line feed after each. -/
def joinLines (lines : List (List Char)) : List Char :=
  lines.flatMap fun line => line ++ ['\n']

/-- A file without the lines of some keys. -/
def deleteKeys (keys : List String) (file : List Char) : List Char :=
  joinLines ((Record.lines file).filter fun line => (lineKey? line).all fun key => key ∉ keys)

/-- The line that opens a table. -/
def headerLine (name : String) : List Char :=
  '[' :: (name.toList ++ [']'])

/-- A file without a table: its header and the lines up to the next header. -/
def deleteTable (name : String) (file : List Char) : List Char :=
  let lines := Record.lines file
  let behind := (lines.dropWhile (· != headerLine name)).drop 1
  joinLines (lines.takeWhile (· != headerLine name) ++
    behind.dropWhile fun line => line.head? != some '[')

/-- The entries of a table without some keys. -/
def eraseKeys (keys : List String) (entries : List (String × Document)) :
    List (String × Document) :=
  entries.filter fun e => e.1 ∉ keys

/-- A table without some keys; any other document as it is. -/
def pruned (keys : List String) : Document → Document
  | .table entries => .table (eraseKeys keys entries)
  | d => d

/-- The entries of a file without the values of some keys, in the file and in its tables. -/
def prunedFile (keys : List String) (entries : List (String × Document)) :
    List (String × Document) :=
  eraseKeys keys (valuesOf entries) ++ (tablesOf entries).map fun e => (e.1, pruned keys e.2)

theorem eraseKeys_cons_of_mem {e : String × Document} (h : e.1 ∈ keys) :
    eraseKeys keys (e :: entries) = eraseKeys keys entries :=
  List.filter_cons_of_neg (by simpa using h)

theorem eraseKeys_cons_of_notMem {e : String × Document} (h : e.1 ∉ keys) :
    eraseKeys keys (e :: entries) = e :: eraseKeys keys entries :=
  List.filter_cons_of_pos (by simpa using h)

/-! ## Lines of a written file -/

/-- What a written line is to a reader of lines. -/
theorem exists_line (hkey : IsBare key) (hline : writeEntry? (key, d) = some line) :
    ∃ text, line = text ++ ['\n'] ∧ '\n' ∉ text ∧ lineKey? text = some key ∧
      text.head? ≠ some '[' := by
  rcases writeEntry?_eq_some.mp hline with ⟨word, hword, rfl⟩
  have hfeed : '\n' ∉ key.toList := fun hmem => absurd (hkey.bare _ hmem) (by decide)
  have hspace : ∀ c ∈ key.toList, (c != ' ') = true := by
    intro c hc
    rw [bne_iff_ne]
    exact ne_of_isBareKeyChar (hkey.bare c hc) (by decide)
  refine ⟨key.toList ++ ' ' :: '=' :: ' ' :: word, by simp, ?_, ?_, ?_⟩
  · simp [hfeed, (writeValue?_oneLine hword).2]
  · have hcut : (key.toList ++ ' ' :: '=' :: ' ' :: word).takeWhile (· != ' ') = key.toList ∧
        (key.toList ++ ' ' :: '=' :: ' ' :: word).dropWhile (· != ' ') =
          ' ' :: '=' :: ' ' :: word :=
      cut_append_cons hspace (by decide)
    rcases hcut with ⟨htake, hdrop⟩
    simp only [lineKey?, hdrop, htake, String.ofList_toList]
  · rcases hkey.exists_cons with ⟨c, more, hcons, hc⟩
    rw [hcons]
    intro hhead
    cases hhead
    exact absurd hc (by decide)

theorem lineKey?_headerLine (hname : IsBare name) : lineKey? (headerLine name) = none := by
  have hspace : ∀ c ∈ headerLine name, (c != ' ') = true := by
    intro c hc
    rw [bne_iff_ne]
    rcases List.mem_cons.mp hc with rfl | hc
    · decide
    · rcases List.mem_append.mp hc with hc | hc
      · exact ne_of_isBareKeyChar (hname.bare c hc) (by decide)
      · rw [List.mem_singleton.mp hc]
        decide
  have hdrop : (headerLine name).dropWhile (· != ' ') = [] := by
    rw [List.dropWhile_eq_nil_iff]
    exact hspace
  rw [lineKey?, hdrop]

theorem feed_notMem_headerLine (hname : IsBare name) : '\n' ∉ headerLine name := by
  have hfeed : '\n' ∉ name.toList := fun hmem => absurd (hname.bare _ hmem) (by decide)
  simp [headerLine, hfeed]

/-! ## Deleting keys -/

theorem deleteKeys_append_feed (hfeed : '\n' ∉ text) :
    deleteKeys keys (text ++ '\n' :: rest) =
      (if (lineKey? text).all (fun key => key ∉ keys) then text ++ ['\n'] else []) ++
        deleteKeys keys rest := by
  rw [deleteKeys, Table.lines_append_feed hfeed, List.filter_cons]
  split
  · rfl
  · rfl

/-- The lines that are left are those of the entries that are left. -/
theorem deleteKeys_writeEntries (keys : List String) (hbare : ∀ e ∈ entries, IsBare e.1)
    (hlines : writeEntries? entries = some lines) (rest : List Char) :
    ∃ kept, writeEntries? (eraseKeys keys entries) = some kept ∧
      deleteKeys keys (lines ++ rest) = kept ++ deleteKeys keys rest := by
  induction entries generalizing lines with
  | nil =>
    cases hlines
    exact ⟨[], rfl, rfl⟩
  | cons e entries ih =>
    rcases writeEntries?_cons.mp hlines with ⟨line, more, hline, hmore, rfl⟩
    rcases exists_line (hbare e List.mem_cons_self) hline with ⟨text, rfl, hfeed, hkey, -⟩
    rcases ih (fun e' he' => hbare e' (List.mem_cons_of_mem e he')) hmore with
      ⟨kept, hkept, hdeleted⟩
    have hcs : text ++ ['\n'] ++ more ++ rest = text ++ '\n' :: (more ++ rest) := by simp
    rw [hcs, deleteKeys_append_feed hfeed, hdeleted, hkey]
    by_cases hmem : e.1 ∈ keys
    · rw [eraseKeys_cons_of_mem hmem]
      refine ⟨kept, hkept, ?_⟩
      simp [hmem]
    · rw [eraseKeys_cons_of_notMem hmem]
      refine ⟨text ++ ['\n'] ++ kept, ?_, ?_⟩
      · exact writeEntries?_cons.mpr ⟨_, kept, hline, hkept, rfl⟩
      · simp [hmem]

theorem deleteKeys_writeTable (keys : List String) {e : String × Document} {block : List Char}
    (hname : IsBare e.1)
    (hinner : ∀ inner, e.2 = .table inner → ∀ e' ∈ inner, IsBare e'.1)
    (hblock : writeTable? e = some block) (rest : List Char) :
    ∃ kept, writeTable? (e.1, pruned keys e.2) = some kept ∧
      deleteKeys keys (block ++ rest) = kept ++ deleteKeys keys rest := by
  rcases writeTable?_eq_some.mp hblock with ⟨inner, lines, hd, hlines, rfl⟩
  rcases deleteKeys_writeEntries keys (hinner inner hd) hlines rest with
    ⟨kept, hkept, hdeleted⟩
  have hcs : '\n' :: '[' :: (e.1.toList ++ ']' :: '\n' :: lines) ++ rest =
      [] ++ '\n' :: (headerLine e.1 ++ '\n' :: (lines ++ rest)) := by
    simp [headerLine]
  have hblank : lineKey? [] = none := rfl
  refine ⟨_, writeTable?_eq_some.mpr ⟨_, kept, ?_, hkept, rfl⟩, ?_⟩
  · rw [hd, pruned]
  · rw [hcs, deleteKeys_append_feed (by simp), hblank,
      deleteKeys_append_feed (feed_notMem_headerLine hname), lineKey?_headerLine hname, hdeleted]
    simp [headerLine]

theorem deleteKeys_writeTables (keys : List String) {tables : List (String × Document)}
    {blocks : List (List Char)}
    (hbare : ∀ e ∈ tables, IsBare e.1)
    (hinner : ∀ name inner, (name, .table inner) ∈ tables → ∀ e ∈ inner, IsBare e.1)
    (hblocks : tables.mapM writeTable? = some blocks) :
    ∃ kept, (tables.map fun e => (e.1, pruned keys e.2)).mapM writeTable? = some kept ∧
      deleteKeys keys blocks.flatten = kept.flatten := by
  induction tables generalizing blocks with
  | nil =>
    cases hblocks
    exact ⟨[], rfl, rfl⟩
  | cons e tables ih =>
    rcases mapM_cons_eq_some.mp hblocks with ⟨block, more, hblock, hmore, rfl⟩
    rcases ih (fun e' he' => hbare e' (List.mem_cons_of_mem e he'))
      (fun name inner hmem => hinner name inner (List.mem_cons_of_mem e hmem)) hmore with
      ⟨kept, hkept, hdeleted⟩
    have hinner' : ∀ inner, e.2 = .table inner → ∀ e' ∈ inner, IsBare e'.1 := by
      intro inner hd
      refine hinner e.1 inner ?_
      rw [← hd]
      exact List.mem_cons_self
    rcases deleteKeys_writeTable keys (hbare e List.mem_cons_self) hinner' hblock
      more.flatten with ⟨first, hfirst, hrest⟩
    refine ⟨first :: kept, mapM_cons_eq_some.mpr ⟨first, kept, hfirst, hkept, rfl⟩, ?_⟩
    rw [List.flatten_cons, List.flatten_cons, hrest, hdeleted]

theorem isTable_pruned (d : Document) : isTable (pruned keys d) = isTable d := by
  cases d with
  | table entries => rfl
  | _ => rfl

/-- What is left of the values is no table. -/
theorem isTable_of_mem_eraseKeys {e : String × Document}
    (he : e ∈ eraseKeys keys (valuesOf entries)) : isTable e.2 = false := by
  have hvalue := (List.mem_filter.mp (List.mem_filter.mp he).1).2
  simpa using hvalue

theorem valuesOf_prunedFile (keys : List String) (entries : List (String × Document)) :
    valuesOf (prunedFile keys entries) = eraseKeys keys (valuesOf entries) := by
  have hvalues : valuesOf (eraseKeys keys (valuesOf entries)) = eraseKeys keys (valuesOf entries) :=
    valuesOf_eq_self fun _ => isTable_of_mem_eraseKeys
  have htables : ∀ e ∈ (tablesOf entries).map fun e => (e.1, pruned keys e.2),
      ¬ (!isTable e.2) = true := by
    intro e he
    rcases List.mem_map.mp he with ⟨e', he', rfl⟩
    rw [isTable_pruned, (List.mem_filter.mp he').2]
    decide
  rw [valuesOf] at hvalues
  rw [prunedFile, valuesOf, List.filter_append, hvalues, List.filter_eq_nil_iff.mpr htables,
    List.append_nil]

theorem tablesOf_prunedFile (keys : List String) (entries : List (String × Document)) :
    tablesOf (prunedFile keys entries) =
      (tablesOf entries).map fun e => (e.1, pruned keys e.2) := by
  have hvalues : tablesOf (eraseKeys keys (valuesOf entries)) = [] :=
    tablesOf_eq_nil fun _ => isTable_of_mem_eraseKeys
  have htables : ∀ e ∈ (tablesOf entries).map fun e => (e.1, pruned keys e.2),
      isTable e.2 = true := by
    intro e he
    rcases List.mem_map.mp he with ⟨e', he', rfl⟩
    rw [isTable_pruned, (List.mem_filter.mp he').2]
  rw [tablesOf] at hvalues
  rw [prunedFile, tablesOf, List.filter_append, hvalues, List.filter_eq_self.mpr htables,
    List.nil_append, tablesOf]

/-- A written file without some keys is the written file of the document without their values. -/
theorem write?_deleteKeys (keys : List String) (hkeyed : KeyedFile entries)
    (hfile : write? (.table entries) = some file) :
    write? (.table (prunedFile keys entries)) = some (deleteKeys keys file) := by
  rcases write?_eq_some.mp hfile with ⟨top, blocks, htop, hblocks, rfl⟩
  rcases deleteKeys_writeEntries keys
    (fun e he => hkeyed.bare e (List.mem_filter.mp he).1) htop blocks.flatten with
    ⟨kept, hkept, hdeleted⟩
  rcases deleteKeys_writeTables keys
    (fun e he => hkeyed.bare e (List.mem_filter.mp he).1)
    (fun name inner hmem => (hkeyed.inner name inner (List.mem_filter.mp hmem).1).bare)
    hblocks with ⟨keptTables, hkeptTables, hdeletedTables⟩
  refine write?_eq_some.mpr ⟨kept, keptTables, ?_, ?_, ?_⟩
  · rwa [valuesOf_prunedFile]
  · rwa [tablesOf_prunedFile]
  · rw [hdeleted, hdeletedTables]

example : deleteKeys ["b"] "a = 1\nb = 2\n\n[t]\nb = 3\n".toList = "a = 1\n\n[t]\n".toList := by
  decide +kernel

/-- Every entry that is left has a key that was there, and its table lost some of its keys. -/
theorem mem_prunedFile {e : String × Document} (he : e ∈ prunedFile keys entries) :
    ∃ d, (e.1, d) ∈ entries ∧ e.2 = pruned keys d := by
  rcases List.mem_append.mp he with he | he
  · rcases List.mem_filter.mp (List.mem_filter.mp he).1 with ⟨hmem, hvalue⟩
    refine ⟨e.2, hmem, ?_⟩
    cases hd : e.2 with
    | table inner =>
      rw [hd] at hvalue
      cases hvalue
    | _ => rfl
  · rcases List.mem_map.mp he with ⟨e', he', rfl⟩
    exact ⟨e'.2, (List.mem_filter.mp he').1, rfl⟩

theorem KeyedFile.prunedFile (keys : List String) (h : KeyedFile entries) :
    KeyedFile (prunedFile keys entries) := by
  refine ⟨⟨?_, ?_⟩, ?_⟩
  · intro e he
    rcases mem_prunedFile he with ⟨d, hmem, -⟩
    exact h.bare (e.1, d) hmem
  · have hperm : (tablesOf entries ++ valuesOf entries).Perm entries := by
      rw [tablesOf, valuesOf]
      exact List.filter_append_perm _ entries
    have hall : ((valuesOf entries).map Prod.fst ++ (tablesOf entries).map Prod.fst).Nodup := by
      rw [← List.map_append, (List.perm_append_comm.trans hperm).map Prod.fst |>.nodup_iff]
      exact h.nodup
    have hnames : (Toml.prunedFile keys entries).map Prod.fst =
        (eraseKeys keys (valuesOf entries)).map Prod.fst ++ (tablesOf entries).map Prod.fst := by
      rw [Toml.prunedFile, List.map_append, List.map_map]
      rfl
    rw [hnames]
    exact hall.sublist ((List.filter_sublist.map Prod.fst).append (List.Sublist.refl _))
  · intro name inner hmem
    rcases mem_prunedFile hmem with ⟨d, hd, heq⟩
    cases d with
    | table entries' =>
      cases heq
      exact (h.inner name entries' hd).sublist List.filter_sublist
    | _ => cases heq

/-! ## Deleting a table -/

theorem lines_writeEntries (hbare : ∀ e ∈ entries, IsBare e.1)
    (hlines : writeEntries? entries = some lines) (rest : List Char) :
    ∃ texts, Record.lines (lines ++ rest) = texts ++ Record.lines rest ∧
      joinLines texts = lines ∧ ∀ text ∈ texts, text.head? ≠ some '[' := by
  induction entries generalizing lines with
  | nil =>
    cases hlines
    exact ⟨[], rfl, rfl, by simp⟩
  | cons e entries ih =>
    rcases writeEntries?_cons.mp hlines with ⟨line, more, hline, hmore, rfl⟩
    rcases exists_line (hbare e List.mem_cons_self) hline with ⟨text, rfl, hfeed, -, hhead⟩
    rcases ih (fun e' he' => hbare e' (List.mem_cons_of_mem e he')) hmore with
      ⟨texts, htexts, hjoin, hheads⟩
    have hcs : text ++ ['\n'] ++ more ++ rest = text ++ '\n' :: (more ++ rest) := by simp
    refine ⟨text :: texts, ?_, ?_, ?_⟩
    · rw [hcs, Table.lines_append_feed hfeed, htexts, List.cons_append]
    · rw [← hjoin]
      rfl
    · intro text' htext'
      rcases List.mem_cons.mp htext' with rfl | htext'
      · exact hhead
      · exact hheads text' htext'

/-- Of the lines with one header those before it are left. -/
theorem deleteTable_eq {above below : List (List Char)}
    (hlines : Record.lines file = above ++ headerLine name :: below)
    (habove : ∀ text ∈ above, text.head? ≠ some '[')
    (hbelow : ∀ text ∈ below, text.head? ≠ some '[') : deleteTable name file = joinLines above := by
  have hother : ∀ text ∈ above, (text != headerLine name) = true := by
    intro text htext
    rw [bne_iff_ne]
    rintro rfl
    exact habove _ htext rfl
  have hcut : (above ++ headerLine name :: below).takeWhile (· != headerLine name) = above ∧
      (above ++ headerLine name :: below).dropWhile (· != headerLine name) =
        headerLine name :: below :=
    cut_append_cons hother (by simp)
  rcases hcut with ⟨htake, hdrop⟩
  have hbehind : below.dropWhile (fun line => line.head? != some '[') = [] := by
    rw [List.dropWhile_eq_nil_iff]
    intro text htext
    rw [bne_iff_ne]
    exact hbelow text htext
  simp only [deleteTable, hlines, htake, hdrop, List.drop_succ_cons, List.drop_zero, hbehind,
    List.append_nil]

/-- A file whose last lines are those of a table is left with its other lines, and the blank line
before the header. -/
theorem deleteTable_write {top block : List Char} (hbare : ∀ e ∈ entries, IsBare e.1)
    (hname : IsBare name) (hinner : ∀ inner, d = .table inner → ∀ e ∈ inner, IsBare e.1)
    (htop : writeEntries? entries = some top) (hblock : writeTable? (name, d) = some block) :
    deleteTable name (top ++ block) = top ++ ['\n'] := by
  rcases writeTable?_eq_some.mp hblock with ⟨inner, lines, hd, hlines, rfl⟩
  rcases lines_writeEntries (hinner inner hd) hlines [] with ⟨below, hbelow, -, hheads⟩
  have hblocklines : Record.lines ('\n' :: '[' :: (name.toList ++ ']' :: '\n' :: lines)) =
      [] :: headerLine name :: below := by
    have hcs : '\n' :: '[' :: (name.toList ++ ']' :: '\n' :: lines) =
        [] ++ '\n' :: (headerLine name ++ '\n' :: (lines ++ [])) := by
      simp [headerLine]
    rw [hcs, Table.lines_append_feed (by simp),
      Table.lines_append_feed (feed_notMem_headerLine hname), hbelow]
    simp [Record.lines]
  rcases lines_writeEntries hbare htop
    ('\n' :: '[' :: (name.toList ++ ']' :: '\n' :: lines)) with ⟨texts, htexts, hjoin, hheads'⟩
  have hfile : Record.lines (top ++ '\n' :: '[' :: (name.toList ++ ']' :: '\n' :: lines)) =
      (texts ++ [[]]) ++ headerLine name :: below := by
    rw [htexts, hblocklines]
    simp
  have habove : ∀ text ∈ texts ++ [[]], text.head? ≠ some '[' := by
    intro text htext
    rcases List.mem_append.mp htext with htext | htext
    · exact hheads' text htext
    · rw [List.mem_singleton.mp htext]
      simp
  rw [deleteTable_eq hfile habove hheads, ← hjoin]
  simp [joinLines]

example : deleteTable "t" "a = 1\n\n[t]\nb = 2\n\n[u]\nc = 3\n".toList =
    "a = 1\n\n[u]\nc = 3\n".toList := by
  decide +kernel

end CellSearch.Toml
